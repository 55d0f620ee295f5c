/-
# Arguments for every choice

A call names a format and files, and it may turn two switches on.  Each choice of these can be asked
for, as long as there is a file and no file has a name that looks like a switch: the arguments of
`Options.arguments` are read as the options that they were made from.
-/
import Mathlib.Tactic.Lemma
import GrammarKit.Command.Options

namespace GrammarKit.Command

/-- Whether an argument does not look like a switch. -/
def Argument.IsWord (s : Text) : Prop :=
  s = ['-'] ∨ ∀ c ∈ s.head?, c ≠ '-'

namespace Argument

lemma IsWord.ne_doubleDash {s : Text} (h : IsWord s) : s ≠ doubleDash := by
  rintro rfl
  obtain h | h := h
  · cases h
  · exact h '-' rfl rfl

lemma classify_of_isWord {s : Text} (h : IsWord s) : classify s = .ok (word s) := by
  obtain rfl | h := h
  · rfl
  · cases s with
    | nil => rfl
    | cons c s =>
      have hc : c ≠ '-' := h c rfl
      unfold classify
      split <;> simp_all

lemma classifyAll_cons {s : Text} {a : Argument} {rest : List Text} {as : List Argument}
    (hs : s ≠ ['-', '-']) (ha : classify s = .ok a) (has : classifyAll rest = .ok as) :
    classifyAll (s :: rest) = .ok (a :: as) := by
  rw [classifyAll, if_neg hs, ha, has]
  rfl

lemma classifyAll_words {files : List Text} (h : ∀ s ∈ files, IsWord s) :
    classifyAll files = .ok (files.map word) := by
  induction files with
  | nil => rfl
  | cons s files ih =>
    obtain ⟨hs, h⟩ := List.forall_mem_cons.mp h
    exact classifyAll_cons hs.ne_doubleDash (classify_of_isWord hs) (ih h)

end Argument

/-- Words behind a format are files. -/
lemma Reading.takeAll_words {r : Reading} {format : Format} (hformat : r.format = some format)
    (hcollects : r.collects = true) (files : List Text) :
    r.takeAll (files.map .word) = .ok { r with files := r.files ++ files } := by
  induction files generalizing r with
  | nil => simp [takeAll]
  | cons s files ih =>
    have first : r.takeWord s = .ok { r with files := r.files ++ [s] } := by
      rw [takeWord, hformat, hcollects]
      rfl
    rw [List.map_cons, takeAll, first]
    refine (ih (r := { r with files := r.files ++ [s] }) hformat hcollects).trans ?_
    rw [List.append_assoc]
    rfl

/-- The switches of a call, the format, and some files. -/
def Options.arguments (o : Options) : List Text :=
  (if o.debug then [Switch.debug.longForm] else []) ++
    (if o.whole then [Switch.all.longForm] else []) ++ o.format.name :: o.files

lemma Argument.classifyAll_arguments (o : Options) (h : ∀ s ∈ o.files, IsWord s) :
    classifyAll o.arguments = .ok ((if o.debug then [.long .debug none] else []) ++
      (if o.whole then [.long .all none] else []) ++ .word o.format.name :: o.files.map .word) := by
  obtain ⟨format, files, debug, whole⟩ := o
  have words : classifyAll (format.name :: files) =
      .ok (.word format.name :: files.map .word) := by
    cases format <;> exact classifyAll_cons (by decide) rfl (classifyAll_words h)
  cases debug with
  | false =>
    cases whole with
    | false => exact words
    | true => exact classifyAll_cons (by decide) rfl words
  | true =>
    refine classifyAll_cons (by decide) rfl ?_
    cases whole with
    | false => exact words
    | true => exact classifyAll_cons (by decide) rfl words

/-- The arguments of a call say what is asked for, if there are files and none looks like a
switch. -/
lemma Options.ofCall_arguments (o : Options) (hfiles : o.files ≠ [])
    (h : ∀ s ∈ o.files, Argument.IsWord s) : ofCall o.arguments none = .ok o := by
  have classified := Argument.classifyAll_arguments o h
  obtain ⟨format, files, debug, whole⟩ := o
  have read : ({} : Reading).takeAll ((if debug then [.long .debug none] else []) ++
      (if whole then [.long .all none] else []) ++ .word format.name :: files.map .word) =
      .ok ⟨some format, true, files, debug, whole, []⟩ := by
    cases format <;> cases debug <;> cases whole <;>
      exact Reading.takeAll_words rfl rfl files
  have inputs : (⟨some format, true, files, debug, whole, []⟩ : Reading).inputs = files := by
    have erased : files.erase doubleDash = files :=
      List.erase_of_not_mem fun hmem => (h _ hmem).ne_doubleDash rfl
    rw [Reading.inputs, erased]
    cases files with
    | nil => exact absurd rfl hfiles
    | cons s files => rfl
  rw [ofCall, ofArguments, classified]
  dsimp only
  rw [read]
  simp only [Reading.finish, inputs, Except.map, settingIsOn, Bool.or_false, List.isEmpty_nil,
    if_true]

end GrammarKit.Command
