/-
# Comparing lengths

A repetition compares the length of what an attempt left with that of its input, attempt after
attempt.  What was left is nearly always the end of the input itself, so nothing needs to be
counted: both lists are walked through together, and the walk is over as soon as the input has
come to the very cells of the other list.

`withPtrEq a b k h` is `k ()`, so that looking at the cells is a matter of speed only:
`isShorter?_eq` says that the comparison is that of the two lengths.
-/
import GrammarKit.Value.Sequence

namespace GrammarKit.Value

/-- Whether a part of a list is no longer than another list. -/
def noLonger {α : Type} (whole : List α) : (part other : List α) → part.length ≤ whole.length →
    { answer : Bool // answer = decide (part.length ≤ other.length) }
  | [], _, _ => ⟨true, by simp⟩
  | _ :: _, [], _ => ⟨false, by simp⟩
  | _ :: part, item :: other, h =>
    have fits : part.length ≤ whole.length := Nat.le_of_succ_le h
    have same : (noLonger whole part other fits).1 = decide (part.length ≤ other.length) :=
      (noLonger whole part other fits).2
    ⟨withPtrEq whole (item :: other) (fun _ => (noLonger whole part other fits).1) (by
        rintro rfl
        rw [same, decide_eq_true_eq]
        exact Nat.le_of_succ_le_succ h),
      by simp [withPtrEq, same]⟩
termination_by structural part => part

/-- Whether the first list is shorter than the second. -/
def isShorter {α : Type} (first : List α) : List α → Bool
  | [] => false
  | _ :: second => (noLonger first first second (Nat.le_refl _)).1

theorem isShorter_eq {α : Type} (first second : List α) :
    isShorter first second = decide (first.length < second.length) := by
  cases second with
  | nil => simp [isShorter]
  | cons item second =>
    rw [isShorter, (noLonger first first second (Nat.le_refl _)).2]
    exact decide_eq_decide.mpr Nat.lt_succ_iff.symm

/-- Whether the first value has fewer units than the second, if both have a length. -/
def isShorter? : Value → Value → Option Bool
  | .text s, .text t => some (isShorter s t)
  | .bytes bs, .bytes cs => some (isShorter bs cs)
  | .list vs, .list ws => some (isShorter vs ws)
  | .tuple vs, .tuple ws => some (isShorter vs ws)
  | v, w => do return decide ((← v.length?) < (← w.length?))

/-- One value is shorter than another if its length is less. -/
theorem isShorter?_eq (v w : Value) :
    v.isShorter? w = (do return decide ((← v.length?) < (← w.length?))) := by
  unfold isShorter?
  split
  · simp [isShorter_eq, length?]
  · simp [isShorter_eq, length?]
  · simp [isShorter_eq, length?]
  · simp [isShorter_eq, length?]
  · rfl

/-- A value that is shorter than another has a length below that of the other. -/
theorem length?_lt_of_isShorter? {v w : Value} (h : v.isShorter? w = some true) :
    v.length?.getD 0 < w.length?.getD 0 := by
  rw [isShorter?_eq] at h
  cases hv : v.length? with
  | none => simp [hv] at h
  | some m =>
    cases hw : w.length? with
    | none => simp [hv, hw] at h
    | some n => simpa [hv, hw] using h

end GrammarKit.Value
