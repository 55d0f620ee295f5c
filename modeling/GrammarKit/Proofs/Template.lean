/-
# Templates

A template says for each of its places which characters may stand there.  A text that goes through
all the places matches the template; any other text has a first place where it ends or has another
character, and that is what the message is about.  `Template.read` is the reader of a template, and
its two laws say just this: `Template.read_of_matches` and `Template.read_of_deviatesAt`.
-/
import GrammarKit.Proofs.Reading

namespace GrammarKit

/-- A place of a template. -/
structure Place where
  /-- The characters that may stand there. -/
  chars : Text
  /-- What is said about another character. -/
  complaint : Char → Text

/-- The places that a text goes through, character by character. -/
abbrev Template := List Place

namespace Template

variable {template : Template} {place : Place} {s : Text} {c : Char} {i : Nat}

/-- Whether a text has a character at a place of a template that may stand there. -/
def FitsAt (template : Template) (s : Text) (i : Nat) : Prop :=
  ∃ place ∈ template[i]?, ∃ c ∈ s[i]?, c ∈ place.chars

instance : Decidable (template.FitsAt s i) :=
  decidable_of_iff (template[i]?.any fun place => s[i]?.any place.chars.contains)
    (by simp [FitsAt, Option.any_eq_true])

/-- Whether a text goes through all the places of a template. -/
def Matches (template : Template) (s : Text) : Prop :=
  ∀ i < template.length, template.FitsAt s i

instance : Decidable (template.Matches s) :=
  Nat.decidableBallLT template.length fun i _ => template.FitsAt s i

/-- Whether a place of a template is the first where a text ends or has a character that may not
stand there. -/
structure DeviatesAt (template : Template) (s : Text) (i : Nat) : Prop where
  lt : i < template.length
  before : ∀ j < i, template.FitsAt s j
  here : ¬ template.FitsAt s i

instance : Decidable (template.DeviatesAt s i) :=
  have : Decidable (∀ j < i, template.FitsAt s j) :=
    Nat.decidableBallLT i fun j _ => template.FitsAt s j
  decidable_of_iff (i < template.length ∧ (∀ j < i, template.FitsAt s j) ∧ ¬ template.FitsAt s i)
    ⟨fun ⟨lt, before, here⟩ => ⟨lt, before, here⟩, fun h => ⟨h.lt, h.before, h.here⟩⟩

/-- What is said about a text at a place of a template. -/
def message (template : Template) (s : Text) (i : Nat) : Text :=
  match template[i]?, s[i]? with
  | some place, some c => place.complaint c
  | _, _ => "Empty input".toList

/-- Reads a text that goes through the places of a template. -/
def read : Template → Reader Text
  | [] => pure []
  | place :: places => do
    let c ← Reader.take place.chars.contains place.complaint
    let cs ← read places
    return c :: cs

/-! ### Going through the places -/

@[simp] lemma not_fitsAt_nil : ¬ template.FitsAt [] i := by
  simp [FitsAt]

@[simp] lemma fitsAt_zero : FitsAt (place :: template) (c :: s) 0 ↔ c ∈ place.chars := by
  simp [FitsAt]

@[simp] lemma fitsAt_succ :
    FitsAt (place :: template) (c :: s) (i + 1) ↔ template.FitsAt s i := by
  simp [FitsAt]

lemma matches_cons :
    Matches (place :: template) (c :: s) ↔ c ∈ place.chars ∧ template.Matches s := by
  constructor
  · intro h
    refine ⟨fitsAt_zero.mp (h 0 (by simp)), fun i hi => ?_⟩
    exact fitsAt_succ.mp (h (i + 1) (by simpa using hi))
  · rintro ⟨hc, h⟩ i hi
    cases i with
    | zero => simpa using hc
    | succ i => simpa using h i (by simpa using hi)

/-- Behind a character that may stand there the template goes on. -/
lemma deviatesAt_succ (hc : c ∈ place.chars) :
    DeviatesAt (place :: template) (c :: s) (i + 1) ↔ template.DeviatesAt s i := by
  constructor
  · intro h
    refine ⟨by simpa using h.lt, fun j hj => ?_, fun hfits => h.here (fitsAt_succ.mpr hfits)⟩
    exact fitsAt_succ.mp (h.before (j + 1) (by omega))
  · intro h
    refine ⟨by simpa using h.lt, fun j hj => ?_, fun hfits => h.here (fitsAt_succ.mp hfits)⟩
    cases j with
    | zero => exact fitsAt_zero.mpr hc
    | succ j => exact fitsAt_succ.mpr (h.before j (by omega))

/-- A text that deviates in front deviates nowhere else. -/
lemma eq_zero_of_deviatesAt (hc : c ∉ place.chars)
    (h : DeviatesAt (place :: template) (c :: s) i) : i = 0 := by
  cases i with
  | zero => rfl
  | succ i => exact absurd (fitsAt_zero.mp (h.before 0 (by omega))) hc

/-- A text that matches a template is at least as long. -/
lemma Matches.length_le (h : template.Matches s) : template.length ≤ s.length := by
  by_contra hlt
  obtain ⟨_, -, _, hc, -⟩ := h s.length (by omega)
  simp at hc

/-- A text that does not match a template deviates from it at some place. -/
lemma matches_or_deviatesAt (template : Template) (s : Text) :
    template.Matches s ∨ ∃ i, template.DeviatesAt s i := by
  induction template generalizing s with
  | nil => exact .inl fun i hi => absurd hi (by simp)
  | cons place places ih =>
    cases s with
    | nil => exact .inr ⟨0, by simp, by simp, not_fitsAt_nil⟩
    | cons c s =>
      by_cases hc : c ∈ place.chars
      · rcases ih s with hs | ⟨i, hi⟩
        · exact .inl (matches_cons.mpr ⟨hc, hs⟩)
        · exact .inr ⟨i + 1, (deviatesAt_succ hc).mpr hi⟩
      · exact .inr ⟨0, by simp, by simp, by simpa using hc⟩

/-- A text that deviates from a template does not match it. -/
lemma DeviatesAt.not_matches (h : template.DeviatesAt s i) : ¬ template.Matches s :=
  fun hmatches => h.here (hmatches i h.lt)

lemma DeviatesAt.le_length (h : template.DeviatesAt s i) : i ≤ s.length := by
  by_contra hlt
  obtain ⟨_, -, _, hc, -⟩ := h.before s.length (by omega)
  simp at hc

lemma message_of_end (h : i = s.length) : template.message s i = "Empty input".toList := by
  simp [message, h]

lemma message_of_character (hplace : template[i]? = some place) (hc : s[i]? = some c) :
    template.message s i = place.complaint c := by
  simp [message, hplace, hc]

/-! ### The reader of a template -/

lemma read_cons_of_mem (hc : c ∈ place.chars) :
    read (place :: template) (c :: s) = (template.read s).map fun r => (c :: r.1, r.2) := by
  have hfits : place.chars.contains c = true := by simpa using hc
  rw [read, Reader.bind_run, Reader.take, if_pos hfits]
  show (template.read >>= fun cs => pure (c :: cs)) s = _
  rw [Reader.bind_run]
  cases template.read s <;> rfl

lemma read_cons_of_not_mem (hc : c ∉ place.chars) :
    read (place :: template) (c :: s) = .error (place.complaint c) := by
  have hfits : ¬ place.chars.contains c = true := by simpa using hc
  rw [read, Reader.bind_run, Reader.take, if_neg hfits]
  rfl

/-- The same place over and over, each time with a character that may stand there. -/
lemma read_replicate_append {ds : Text} (hds : ∀ d ∈ ds, d ∈ place.chars) :
    read (List.replicate ds.length place ++ template) (ds ++ s) =
      (template.read s).map fun r => (ds ++ r.1, r.2) := by
  induction ds with
  | nil => cases h : template.read s <;> simp [h, Except.map]
  | cons d ds ih =>
    obtain ⟨hd, hds⟩ := List.forall_mem_cons.mp hds
    rw [List.length_cons, List.replicate_succ, List.cons_append, List.cons_append,
      read_cons_of_mem hd, ih hds]
    cases template.read s <;> rfl

/-- A text that matches a template is read to the end of the template. -/
theorem read_of_matches (h : template.Matches s) :
    template.read s = .ok (s.take template.length, s.drop template.length) := by
  induction template generalizing s with
  | nil => rfl
  | cons place places ih =>
    cases s with
    | nil => exact absurd (h 0 (by simp)) not_fitsAt_nil
    | cons c s =>
      obtain ⟨hc, hs⟩ := matches_cons.mp h
      rw [read_cons_of_mem hc, ih hs]
      rfl

/-- A text that deviates from a template is refused, and the message is about the place where it
deviates. -/
theorem read_of_deviatesAt (h : template.DeviatesAt s i) :
    template.read s = .error (template.message s i) := by
  induction template generalizing s i with
  | nil => exact absurd h.lt (by simp)
  | cons place places ih =>
    cases s with
    | nil =>
      have hmessage : message (place :: places) [] i = "Empty input".toList := by simp [message]
      rw [hmessage]
      rfl
    | cons c s =>
      by_cases hc : c ∈ place.chars
      · cases i with
        | zero => exact absurd (fitsAt_zero.mpr hc) h.here
        | succ i =>
          rw [read_cons_of_mem hc, ih ((deviatesAt_succ hc).mp h)]
          simp [message, Except.map]
      · obtain rfl := eq_zero_of_deviatesAt hc h
        simp [read_cons_of_not_mem hc, message]

end Template

end GrammarKit
