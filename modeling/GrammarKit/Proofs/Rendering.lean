/-
# A reported result can be read back

The line that reports a success holds its value and its rest as JSON.  Records and tuples lose
something on the way, since they look like dictionaries and lists; a value that is built from
nothing else than numbers, truth values, texts, lists and dictionaries with texts as keys does not:
`Json.toValue` turns its document back into it.

The two documents of a line can be told apart as well, because a tab is no digit.  With the words in
front of the lines this gives `Result.line_determines`.
-/
import GrammarKit.Report
import GrammarKit.Proofs.JsonText

namespace Except

variable {ε α β : Type}

lemma bind_eq_ok {x : Except ε α} {f : α → Except ε β} {b : β} :
    x >>= f = .ok b ↔ ∃ a, x = .ok a ∧ f a = .ok b := by
  cases x with
  | error e => exact ⟨nofun, nofun⟩
  | ok a => exact ⟨fun h => ⟨a, rfl, h⟩, fun ⟨_, ha, h⟩ => ok.inj ha ▸ h⟩

lemma map_eq_ok {x : Except ε α} {f : α → β} {b : β} :
    x.map f = .ok b ↔ ∃ a, x = .ok a ∧ f a = b := by
  cases x with
  | error e => exact ⟨nofun, nofun⟩
  | ok a => exact ⟨fun h => ⟨a, rfl, ok.inj h⟩, fun ⟨_, ha, h⟩ => ok.inj ha ▸ congrArg ok h⟩

end Except

namespace GrammarKit

namespace Json

mutual

/-- The value that a document stands for. -/
def toValue : Json → Value
  | null => .null
  | bool b => .bool b
  | int n => .int n
  | text s => .text s
  | array js => .list (toValues js)
  | object es => .dict (toEntries es)
termination_by structural j => j

/-- The values that the items of an array stand for. -/
def toValues : List Json → List Value
  | [] => []
  | j :: js => toValue j :: toValues js
termination_by structural js => js

/-- The entries of a dictionary that the entries of an object stand for. -/
def toEntries : List (Text × Json) → List (Value × Value)
  | [] => []
  | (k, j) :: es => (.text k, toValue j) :: toEntries es
termination_by structural es => es

end

end Json

namespace Value

/-- Whether a value is built from nothing else than numbers, truth values, texts, lists, and
dictionaries with texts as keys. -/
inductive IsPlain : Value → Prop
  | null : IsPlain null
  | bool (b : Bool) : IsPlain (bool b)
  | int (n : Int) : IsPlain (int n)
  | text (s : Text) : IsPlain (text s)
  | list {vs : List Value} (items : ∀ v ∈ vs, IsPlain v) : IsPlain (list vs)
  | dict {es : List (Value × Value)} (keys : ∀ e ∈ es, ∃ s, e.1 = .text s)
      (values : ∀ e ∈ es, IsPlain e.2) : IsPlain (dict es)

variable {opens : Bool}

/-! ### Back from the document -/

lemma toValues_of_itemsToJson {vs : List Value}
    (back : ∀ v ∈ vs, ∀ j, v.toJson opens = .ok j → j.toValue = v) {js : List Json}
    (h : itemsToJson opens vs = .ok js) : Json.toValues js = vs := by
  induction vs generalizing js with
  | nil =>
    obtain rfl := Except.ok.inj h
    rfl
  | cons v vs ih =>
    rw [itemsToJson] at h
    obtain ⟨j, hv, h⟩ := Except.bind_eq_ok.mp h
    obtain ⟨js', hvs, h⟩ := Except.bind_eq_ok.mp h
    obtain rfl := Except.ok.inj h
    have head : j.toValue = v := back v List.mem_cons_self j hv
    have tail : Json.toValues js' = vs := ih (fun w hw => back w (List.mem_cons_of_mem _ hw)) hvs
    rw [Json.toValues, head, tail]

lemma toEntries_of_entriesToJson {es : List (Value × Value)}
    (keys : ∀ e ∈ es, ∃ s, e.1 = .text s)
    (back : ∀ e ∈ es, ∀ j, e.2.toJson opens = .ok j → j.toValue = e.2) {js : List (Text × Json)}
    (h : entriesToJson opens es = .ok js) : Json.toEntries js = es := by
  induction es generalizing js with
  | nil =>
    obtain rfl := Except.ok.inj h
    rfl
  | cons e es ih =>
    obtain ⟨s, hs⟩ := keys e List.mem_cons_self
    obtain ⟨k, v⟩ := e
    obtain rfl : k = .text s := hs
    rw [entriesToJson] at h
    obtain ⟨key, hkey, h⟩ := Except.bind_eq_ok.mp h
    obtain ⟨j, hv, h⟩ := Except.bind_eq_ok.mp h
    obtain ⟨js', hes, h⟩ := Except.bind_eq_ok.mp h
    obtain rfl := Except.ok.inj hkey
    obtain rfl := Except.ok.inj h
    have head : j.toValue = v := back (.text s, v) List.mem_cons_self j hv
    have tail : Json.toEntries js' = es := ih (fun e he => keys e (List.mem_cons_of_mem _ he))
      (fun e he => back e (List.mem_cons_of_mem _ he)) hes
    rw [Json.toEntries, head, tail]

/-- The document of a plain value stands for that value. -/
lemma toValue_of_toJson {v : Value} (hv : v.IsPlain) {j : Json} (h : v.toJson opens = .ok j) :
    j.toValue = v := by
  induction hv generalizing j with
  | null =>
    obtain rfl := Except.ok.inj h
    rfl
  | bool b =>
    obtain rfl := Except.ok.inj h
    rfl
  | int n =>
    rw [toJson] at h
    split at h
    · obtain rfl := Except.ok.inj h
      rfl
    · cases h
  | text s =>
    obtain rfl := Except.ok.inj h
    rfl
  | list items ih =>
    rw [toJson] at h
    obtain ⟨js, hjs, rfl⟩ := Except.map_eq_ok.mp h
    rw [Json.toValue, toValues_of_itemsToJson (fun v hv _ => ih v hv) hjs]
  | dict keys values ih =>
    rw [toJson] at h
    obtain ⟨js, hjs, rfl⟩ := Except.map_eq_ok.mp h
    rw [Json.toValue, toEntries_of_entriesToJson keys (fun e he _ => ih e he) hjs]

/-! ### Which plain values have a document -/

lemma itemsToJson_of_forall {vs : List Value} (h : ∀ v ∈ vs, ∃ j, v.toJson opens = .ok j) :
    ∃ js, itemsToJson opens vs = .ok js := by
  induction vs with
  | nil => exact ⟨[], rfl⟩
  | cons v vs ih =>
    obtain ⟨j, hv⟩ := h v List.mem_cons_self
    obtain ⟨js, hvs⟩ := ih fun w hw => h w (List.mem_cons_of_mem _ hw)
    refine ⟨j :: js, ?_⟩
    rw [itemsToJson, hv, hvs]
    rfl

lemma entriesToJson_of_forall {es : List (Value × Value)} (keys : ∀ e ∈ es, ∃ s, e.1 = .text s)
    (h : ∀ e ∈ es, ∃ j, e.2.toJson opens = .ok j) : ∃ js, entriesToJson opens es = .ok js := by
  induction es with
  | nil => exact ⟨[], rfl⟩
  | cons e es ih =>
    obtain ⟨s, hs⟩ := keys e List.mem_cons_self
    obtain ⟨j, hv⟩ := h e List.mem_cons_self
    obtain ⟨js, hes⟩ := ih (fun e he => keys e (List.mem_cons_of_mem _ he))
      fun e he => h e (List.mem_cons_of_mem _ he)
    obtain ⟨k, v⟩ := e
    obtain rfl : k = .text s := hs
    refine ⟨(s, j) :: js, ?_⟩
    rw [entriesToJson, hv, hes]
    rfl

lemma areWritable_iff {vs : List Value} :
    areWritable vs = true ↔ ∀ v ∈ vs, v.isWritable = true := by
  induction vs with
  | nil => exact ⟨nofun, fun _ => rfl⟩
  | cons v vs ih => rw [areWritable, Bool.and_eq_true, ih, List.forall_mem_cons]

lemma isWritable_of_entriesAreWritable {es : List (Value × Value)}
    (h : entriesAreWritable es = true) : ∀ e ∈ es, e.2.isWritable = true := by
  induction es with
  | nil => nofun
  | cons e es ih =>
    rw [entriesAreWritable, Bool.and_eq_true, Bool.and_eq_true] at h
    exact List.forall_mem_cons.mpr ⟨h.1.2, ih h.2⟩

/-- A plain value has a document if its numbers can be written. -/
lemma toJson_of_isPlain {v : Value} (hv : v.IsPlain) (hw : v.isWritable = true) :
    ∃ j, v.toJson opens = .ok j := by
  induction hv with
  | null => exact ⟨_, rfl⟩
  | bool b => exact ⟨_, rfl⟩
  | int n => exact ⟨.int n, if_pos hw⟩
  | text s => exact ⟨_, rfl⟩
  | list items ih =>
    have each := areWritable_iff.mp hw
    obtain ⟨js, hjs⟩ := itemsToJson_of_forall fun v hv => ih v hv (each v hv)
    exact ⟨.array js, Except.map_eq_ok.mpr ⟨js, hjs, rfl⟩⟩
  | dict keys values ih =>
    have each := isWritable_of_entriesAreWritable hw
    obtain ⟨js, hjs⟩ := entriesToJson_of_forall keys fun e he => ih e he (each e he)
    exact ⟨.object js, Except.map_eq_ok.mpr ⟨js, hjs, rfl⟩⟩

end Value

namespace Result

lemma line_ok_eq_ok {v rest : Value} {line : Text} :
    (ok v rest).line = .ok line ↔ ∃ j k, v.toJson true = .ok j ∧ rest.toJson false = .ok k ∧
      line = "ok\t".toList ++ j.write ++ '\t' :: k.write := by
  constructor
  · intro h
    obtain ⟨j, hj, h⟩ := Except.bind_eq_ok.mp h
    obtain ⟨k, hk, h⟩ := Except.bind_eq_ok.mp h
    exact ⟨j, k, hj, hk, (Except.ok.inj h).symm⟩
  · rintro ⟨j, k, hj, hk, rfl⟩
    exact Except.bind_eq_ok.mpr ⟨j, hj, Except.bind_eq_ok.mpr ⟨k, hk, rfl⟩⟩

lemma line_err_text (m : Text) : (err (.text m)).line = .ok ("err\t".toList ++ m) := rfl

/-- The value and the rest of a success, each of them a plain value, are read back from its line. -/
lemma eq_of_line_ok {v rest v' rest' : Value} {line : Text} (hv : v.IsPlain)
    (hrest : rest.IsPlain) (hv' : v'.IsPlain) (hrest' : rest'.IsPlain)
    (h : (ok v rest).line = .ok line) (h' : (ok v' rest').line = .ok line) :
    v = v' ∧ rest = rest' := by
  obtain ⟨j, k, hj, hk, hline⟩ := line_ok_eq_ok.mp h
  obtain ⟨j', k', hj', hk', hline'⟩ := line_ok_eq_ok.mp h'
  rw [hline, List.append_assoc, List.append_assoc] at hline'
  obtain ⟨rfl, htab⟩ := Json.write_append_inj (Text.ends_cons rfl _) (Text.ends_cons rfl _)
    (List.append_cancel_left hline')
  have hwrite : k.write ++ [] = k'.write ++ [] := congrArg (· ++ []) (List.cons.inj htab).2
  obtain ⟨rfl, -⟩ := Json.write_append_inj Text.ends_nil Text.ends_nil hwrite
  constructor
  · rw [← Value.toValue_of_toJson hv hj, Value.toValue_of_toJson hv' hj']
  · rw [← Value.toValue_of_toJson hrest hk, Value.toValue_of_toJson hrest' hk']

/-- A success is not reported like a failure. -/
lemma line_ok_ne_line_err {v rest m : Value} {line : Text} (h : (ok v rest).line = .ok line) :
    (err m).line ≠ .ok line := by
  intro herr
  obtain ⟨j, k, -, -, rfl⟩ := line_ok_eq_ok.mp h
  obtain ⟨s, -, hs⟩ := Except.bind_eq_ok.mp herr
  cases Except.ok.inj hs

/-- **A line determines the result that it reports.**  Two successes with plain values and plain
rests are the same if their lines are, where a line is there as soon as the numbers can be written.
Failures with different texts as messages have different lines, and no success, plain or not, has
the line of a failure. -/
theorem line_determines :
    (∀ (v rest v' rest' : Value) (line : Text), v.IsPlain → rest.IsPlain → v'.IsPlain →
      rest'.IsPlain → (ok v rest).line = .ok line → (ok v' rest').line = .ok line →
      v = v' ∧ rest = rest') ∧
    (∀ v rest : Value, v.IsPlain → rest.IsPlain → v.isWritable = true → rest.isWritable = true →
      ∃ line, (ok v rest).line = .ok line) ∧
    (∀ m m' : Text, m ≠ m' → ∃ line line', (err (.text m)).line = .ok line ∧
      (err (.text m')).line = .ok line' ∧ line ≠ line') ∧
    ∀ (v rest m : Value) (line : Text), (ok v rest).line = .ok line → (err m).line ≠ .ok line := by
  refine ⟨?_, ?_, ?_, ?_⟩
  · intro v rest v' rest' line hv hrest hv' hrest' h h'
    exact eq_of_line_ok hv hrest hv' hrest' h h'
  · intro v rest hv hrest hvw hrestw
    obtain ⟨j, hj⟩ := Value.toJson_of_isPlain hv hvw
    obtain ⟨k, hk⟩ := Value.toJson_of_isPlain hrest hrestw
    exact ⟨_, line_ok_eq_ok.mpr ⟨j, k, hj, hk, rfl⟩⟩
  · intro m m' hne
    refine ⟨_, _, line_err_text m, line_err_text m', fun heq => hne ?_⟩
    exact List.append_cancel_left heq
  · intro v rest m line h
    exact line_ok_ne_line_err h

/-- A list in a dictionary, with items that are easily confused, and a character that is written as
two surrogates. -/
def nested : Value :=
  .dict [(.text ['"'], .list [.bool true, .int 1, .text [Char.ofNat 0x1F600], .null])]

/-- The line of `nested` with a rest behind it, as it is printed. -/
def nestedLine : Text :=
  "ok\t\x7b\"\\\"\": [true, 1, \"\\ud83d\\ude00\", null]\x7d\t\"x\"".toList

lemma isPlain_nested : nested.IsPlain := by
  refine .dict (List.forall_mem_singleton.mpr ⟨_, rfl⟩) (List.forall_mem_singleton.mpr (.list ?_))
  simp only [List.mem_cons, List.not_mem_nil, or_false]
  rintro v (rfl | rfl | rfl | rfl) <;> constructor

lemma line_nested : (ok nested (.text ['x'])).line = .ok nestedLine := by
  have small : Text.hasNumeral 1 = true := by decide +kernel
  have hnested : nested.toJson true = .ok (.object [(['"'],
      .array [.bool true, .int 1, .text [Char.ofNat 0x1F600], .null])]) := by
    simp only [nested, Value.toJson, Value.entriesToJson, Value.itemsToJson, Value.keyText, small,
      if_true]
    rfl
  exact line_ok_eq_ok.mpr ⟨_, _, hnested, rfl, by decide⟩

theorem line_determines_nested :
    nested.IsPlain ∧ (Value.text ['x']).IsPlain ∧ (ok nested (.text ['x'])).line = .ok nestedLine ∧
    (nested = nested ∧ Value.text ['x'] = .text ['x']) ∧
    (∃ line, (ok nested (.text ['x'])).line = .ok line) ∧
    (∃ line line', (err (.text ['a'])).line = .ok line ∧ (err (.text ['b'])).line = .ok line' ∧
      line ≠ line') ∧
    (err nested).line ≠ .ok nestedLine := by
  obtain ⟨same, exist, differ, apart⟩ := line_determines
  have writable : nested.isWritable = true := by decide +kernel
  have hrest : (Value.text ['x']).IsPlain := .text _
  exact ⟨isPlain_nested, hrest, line_nested,
    same _ _ _ _ _ isPlain_nested hrest isPlain_nested hrest line_nested line_nested,
    exist _ _ isPlain_nested hrest writable rfl, differ _ _ (by decide), apart _ _ _ _ line_nested⟩

/-- A tuple is reported like the list with the same items. -/
example : (ok (.tuple [.null]) .null).line = (ok (.list [.null]) .null).line := rfl

end Result

end GrammarKit
