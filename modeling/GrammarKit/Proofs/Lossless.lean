/-
# Nothing of a text is lost

Some combinators keep every unit they take in their value: as a text, or as an item of a pair or of
a list.  `Value.flatten?` reads such a value from left to right, and for expressions that are built
from these combinators only, `Expr.IsLossless`, the text it reads is what was taken off the input:
followed by the rest it is the input again.  So nothing is lost and nothing is there twice, whatever
was tried and given up on the way.
-/
import GrammarKit.Proofs.Units

namespace GrammarKit

/-! ### Values that keep what was taken -/

namespace Value

mutual

/-- The texts in a value from left to right, if it is made of texts, lists and tuples only. -/
def flatten? : Value → Option Text
  | .text s => some s
  | .list vs => flattenAll? vs
  | .tuple vs => flattenAll? vs
  | _ => none
termination_by structural v => v

/-- The texts in some values from left to right. -/
def flattenAll? : List Value → Option Text
  | [] => some []
  | v :: vs => do return (← flatten? v) ++ (← flattenAll? vs)
termination_by structural vs => vs

end

variable {v w : Value} {vs : List Value} {t u : Text}

lemma flattenAll?_cons (hv : v.flatten? = some t) (hvs : flattenAll? vs = some u) :
    flattenAll? (v :: vs) = some (t ++ u) := by
  simp only [flattenAll?, hv, hvs]
  rfl

lemma flatten?_pair (hv : v.flatten? = some t) (hw : w.flatten? = some u) :
    (pair v w).flatten? = some (t ++ u) := by
  have single : flattenAll? [w] = some (u ++ []) := flattenAll?_cons hw rfl
  rw [List.append_nil] at single
  exact flattenAll?_cons hv single

end Value

/-- Whether a result, if it is a success, has the given text as what it has taken, as its value
shows, followed by what it leaves. -/
def Result.Covers (s : Text) : Result Value → Prop
  | .ok v rest => ∃ t u, v.flatten? = some t ∧ rest = .text u ∧ t ++ u = s
  | .err _ => True

namespace Result

variable {s : Text} {v w x rest rest' : Value}

/-- What takes nothing covers the text. -/
lemma covers_of_nothing (hv : v.flatten? = some []) : (ok v (.text s)).Covers s :=
  ⟨[], s, hv, rfl, rfl⟩

/-- What two parts have taken, one after the other, covers the text if their values are kept side by
side. -/
lemma Covers.combine (h : (ok v rest).Covers s) (h' : ∀ u, rest = .text u → (ok w rest').Covers u)
    (hx : ∀ t t', v.flatten? = some t → w.flatten? = some t' → x.flatten? = some (t ++ t')) :
    (ok x rest').Covers s := by
  obtain ⟨t, u, hv, hrest, rfl⟩ := h
  obtain ⟨t', u', hw, hrest', rfl⟩ := h' u hrest
  exact ⟨t ++ t', u', hx t t' hv hw, hrest', List.append_assoc t t' u'⟩

end Result

/-! ### Leaves -/

namespace Parser

variable {s : Text} {v rest : Value} {tracing : Bool}

/-- What is taken off a text as a unit is its first character. -/
lemma eq_cons_of_unit {test : Value → Except Fault Bool} {complaint : Value → Except Fault Value}
    (h : (unit test complaint (.text s) tracing).outcome = .ok (.ok v rest)) :
    ∃ c u, s = c :: u ∧ v = Value.unit c ∧ rest = .text u := by
  obtain ⟨hne, hitem, -, htail⟩ := unit_eq_ok h
  match s with
  | [] => cases hne
  | c :: u =>
    cases hitem
    cases htail
    exact ⟨c, u, rfl, rfl, rfl⟩

/-- What is taken off a text one unit after the other are its first characters. -/
lemma eq_append_of_sequence {cs : List Value} {vs : List Value}
    (h : (sequence (cs.map char) (.text s) tracing).outcome = .ok (.ok vs rest)) :
    ∃ t u, s = t ++ u ∧ vs = t.map Value.unit ∧ rest = .text u := by
  induction cs generalizing s vs tracing with
  | nil =>
    cases h
    exact ⟨[], s, rfl, rfl, rfl⟩
  | cons c cs ih =>
    obtain ⟨r, hr, h⟩ := Effect.bind_outcome_eq_ok.mp h
    cases r with
    | err m => cases h
    | ok v rest' =>
      obtain ⟨ch, u, rfl, rfl, rfl⟩ := eq_cons_of_unit hr
      dsimp only at h
      rw [map_eq_pure_bind] at h
      obtain ⟨r', hr', h⟩ := Effect.bind_outcome_eq_ok.mp h
      cases r' with
      | err m => cases h
      | ok ws rest'' =>
        cases h
        obtain ⟨t, u', rfl, rfl, rfl⟩ := ih hr'
        exact ⟨ch :: t, u', rfl, rfl, rfl⟩

lemma covers_unit {test : Value → Except Fault Bool} {complaint : Value → Except Fault Value}
    {r : Result Value} (h : (unit test complaint (.text s) tracing).outcome = .ok r) :
    r.Covers s := by
  cases r with
  | err m => trivial
  | ok v rest =>
    obtain ⟨c, u, rfl, rfl, rfl⟩ := eq_cons_of_unit h
    exact ⟨[c], u, rfl, rfl, rfl⟩

lemma covers_literal {units : List Value} {r : Result Value}
    (h : (literal units (.text s) tracing).outcome = .ok r) : r.Covers s := by
  obtain ⟨r', hr', h⟩ := Effect.bind_outcome_eq_ok.mp h
  cases r' with
  | err m =>
    cases h
    trivial
  | ok vs rest =>
    obtain ⟨t, u, rfl, rfl, rfl⟩ := eq_append_of_sequence hr'
    -- the units are characters of the text, so that joining them gives that part of the text
    have joined : ((Result.ok (t.map Value.unit) (.text u)).map fun vs =>
        (Value.joinTexts vs).map Value.text) = .ok (.ok (.text t) (.text u)) := by
      simp only [Result.map, Value.joinTexts_map_unit]
      rfl
    cases joined.symm.trans h
    exact ⟨t, u, rfl, rfl, rfl⟩

/-- The end of the input leaves the input as it is. -/
lemma eq_of_endOfInput {i : Value} (h : (endOfInput i tracing).outcome = .ok (.ok v rest)) :
    rest = i := by
  obtain ⟨empty, -, h⟩ := Effect.bind_outcome_eq_ok.mp h
  cases empty with
  | true =>
    cases h
    rfl
  | false =>
    obtain ⟨u, -, h⟩ := Effect.bind_outcome_eq_ok.mp h
    obtain ⟨m, -, h⟩ := Effect.bind_outcome_eq_ok.mp h
    cases h

end Parser

/-! ### Expressions -/

namespace Expr

mutual

/-- Whether an expression keeps in its value all that it takes: it is built from parsers of units by
sequences, choices and repetitions, a default value is the empty text, and nothing is dropped but
the value of the end of the input. -/
def IsLossless : Expr → Prop
  | char _ => True
  | literal _ => True
  | satisfy _ => True
  | andThen p q => IsLossless p ∧ IsLossless q
  | takeFirst p q => IsLossless p ∧ q = endOfInput
  | sequence ps => AllLossless ps
  | times _ p => IsLossless p
  | alt ps => AllLossless ps
  | manyM _ p => IsLossless p
  | optional p default => IsLossless p ∧ default = .text []
  | validate p _ _ => IsLossless p
  | named p _ => IsLossless p
  | spy p _ => IsLossless p
  | _ => False
termination_by structural e => e

/-- Whether all of some expressions keep what they take. -/
def AllLossless : List Expr → Prop
  | [] => True
  | p :: ps => IsLossless p ∧ AllLossless ps
termination_by structural ps => ps

end

/-- The loops, whose value is the list of the values of their rounds. -/
def IsLoop : Expr → Prop
  | sequence _ => True
  | times _ _ => True
  | manyM _ _ => True
  | _ => False

lemma isLossless_word (s : Text) : (word s).IsLossless := by
  unfold word
  split <;> trivial

end Expr

namespace Grammar

variable {g : Grammar} {s : Text} {job job' : Job}

/-- A loop gives a list. -/
lemma eq_list_of_isLoop {d : Nat} {e : Expr} {i v rest : Value} {tracing : Bool} (he : e.IsLoop)
    (h : (g.run ⟨d, e, i⟩ tracing).outcome = .ok (.ok v rest)) : ∃ vs, v = .list vs := by
  have list : ∀ p : Parser (List Value), (p.map Value.list i tracing).outcome = .ok (.ok v rest) →
      ∃ vs, v = .list vs := by
    intro p h
    obtain ⟨r, -, h⟩ := Effect.bind_outcome_eq_ok.mp h
    cases r with
    | err m => cases h
    | ok vs rest' =>
      cases h
      exact ⟨vs, rfl⟩
  cases e with
  | sequence ps => exact list _ h
  | times n p => exact list _ h
  | manyM least p => exact list _ h
  | _ => exact he.elim

/-- What a node is told by its answers: each comes from a run that ended with it, and covers its
input if that is a text and the expression keeps what it takes. -/
def Covered (g : Grammar) (job : Job) (r : Result Value) : Prop :=
  (g.runJob job).outcome = .ok r ∧
    (job.task.expr.IsLossless → ∀ s, job.task.input = .text s → r.Covers s)

/-- Whether an outcome is no result, or one that covers the text. -/
def Covers (s : Text) (o : Except Fault (Result Value)) : Prop :=
  ∀ r, o = .ok r → r.Covers s

lemma covers_ok {r : Result Value} (h : r.Covers s) : Covers s (.ok r) := by
  rintro _ ⟨⟩
  exact h

lemma covers_error (fault : Fault) : Covers s (.error fault) := nofun

/-- Parts whose values are put side by side cover the text, one after the other. -/
lemma holds_both_covers {d : Nat} {p q : Expr} {combine : Value → Value → Value} {tracing : Bool}
    (hp : p.IsLossless) (hq : q.IsLossless)
    (hcombine : ∀ v w t u, v.flatten? = some t → w.flatten? = some u →
      (q.IsLoop → ∃ ws, w = .list ws) → (combine v w).flatten? = some (t ++ u)) :
    (Plan.both ⟨d, p, .text s⟩ (⟨d, q, ·⟩) combine).Holds g (fun _ => True) (g.Covered) (Covers s)
      tracing := by
  refine Plan.holds_both trivial (fun _ _ _ => trivial) ?_ ?_ ?_
  · intro v rest hr t w rest' hr'
    have list : q.IsLoop → ∃ ws, w = .list ws := fun hloop => eq_list_of_isLoop hloop hr'.1
    have first : (Result.ok v rest).Covers s := hr.2 hp s rfl
    have second : ∀ u, rest = .text u → (Result.ok w rest').Covers u := hr'.2 hq
    exact covers_ok (first.combine second fun t u hv hw => hcombine v w t u hv hw list)
  · intro m _
    exact covers_ok trivial
  · intro rest t m _
    exact covers_ok trivial

/-- A round in front of a loop covers the text, as the value of the loop is a list. -/
lemma flatten?_cons_of_isLoop {e : Expr} (he : e.IsLoop) (v w : Value) (t u : Text)
    (hv : v.flatten? = some t) (hw : w.flatten? = some u) (hlist : e.IsLoop → ∃ ws, w = .list ws) :
    (v.cons w).flatten? = some (t ++ u) := by
  obtain ⟨ws, rfl⟩ := hlist he
  exact Value.flattenAll?_cons hv hw

open Plan in
/-- A node that keeps what it takes covers its text, if its answers do. -/
lemma holds_covers {d : Nat} {e : Expr} (he : e.IsLossless) (tracing : Bool) :
    (g.plan ⟨d, e, .text s⟩).Holds g (fun _ => True) (g.Covered) (Covers s) tracing := by
  have nothing : (Result.ok (.list []) (.text s)).Covers s := Result.covers_of_nothing rfl
  cases e with
  | char c => exact fun r hr => Parser.covers_unit hr
  | literal us => exact fun r hr => Parser.covers_literal hr
  | satisfy test => exact fun r hr => Parser.covers_unit hr
  | andThen p q =>
    exact holds_both_covers he.1 he.2 fun v w t u hv hw _ => Value.flatten?_pair hv hw
  | takeFirst p q =>
    obtain ⟨hp, rfl⟩ := he
    refine holds_both trivial (fun _ _ _ => trivial) ?_ (fun m _ => covers_ok trivial)
      fun rest t m _ => covers_ok trivial
    intro v rest hr t w rest' hr'
    -- the end of the input takes nothing, so that its value can be dropped
    obtain rfl : rest' = rest := Parser.eq_of_endOfInput hr'.1
    exact covers_ok (hr.2 hp s rfl)
  | sequence ps =>
    cases ps with
    | nil => exact covers_ok nothing
    | cons p ps =>
      exact holds_both_covers (q := .sequence ps) he.1 he.2 (flatten?_cons_of_isLoop trivial)
  | times n p =>
    cases n with
    | zero => exact covers_ok nothing
    | succ n =>
      exact holds_both_covers (p := p) (q := .times n p) he he (flatten?_cons_of_isLoop trivial)
  | alt ps =>
    match ps with
    | [] => exact covers_ok trivial
    | [p] => exact holds_pass trivial fun r hr => covers_ok (hr.2 he.1 s rfl)
    | p :: q :: ps =>
      refine ⟨trivial, fun r hr => ?_⟩
      cases r with
      | ok v rest => exact covers_ok (hr.2 he.1 s rfl)
      -- what has failed has taken nothing: the others start from the same text
      | err m => exact holds_pass trivial fun r hr' => covers_ok (hr'.2 he.2 s rfl)
  | manyM least p =>
    refine ⟨trivial, fun r hr => ?_⟩
    cases r with
    | err m => exact holds_settle (covers_ok trivial) (covers_ok nothing)
    | ok v rest =>
      dsimp only
      split
      · refine holds_follow trivial (fun w rest' hr' => ?_) fun m _ => covers_ok trivial
        have first : (Result.ok v rest).Covers s := hr.2 he s rfl
        have later : ∀ u, rest = .text u → (Result.ok w rest').Covers u := hr'.2 he
        refine covers_ok (first.combine later fun t u hv hw => ?_)
        exact flatten?_cons_of_isLoop (e := .manyM (least - 1) p) trivial v w t u hv hw
          fun hloop => eq_list_of_isLoop hloop hr'.1
      -- a round without progress is dropped, value and rest together
      · exact holds_settle (covers_ok trivial) (covers_ok nothing)
      · exact covers_error _
  | optional p default =>
    obtain ⟨hp, rfl⟩ := he
    refine ⟨trivial, fun r hr => ?_⟩
    cases r with
    | ok v rest => exact covers_ok (hr.2 hp s rfl)
    | err m => exact covers_ok (Result.covers_of_nothing rfl)
  | validate p m test =>
    refine ⟨trivial, fun r hr => ?_⟩
    cases r with
    | err m' => exact covers_ok trivial
    | ok v rest =>
      show Covers s (test v >>= _)
      cases test v with
      | error fault => exact covers_error fault
      | ok passed =>
        cases passed with
        | true => exact covers_ok (hr.2 he s rfl)
        | false => exact covers_ok trivial
  | named p name => exact holds_pass trivial fun r hr => covers_ok (hr.2 he s rfl)
  | spy p label => exact holds_pass trivial fun r hr => covers_ok (hr.2 he s rfl)
  | _ => exact he.elim

/-- On a text, what is taken and what is left cover the text. -/
lemma covers_runJob (g : Grammar) (task : Task) : task.expr.IsLossless →
    ∀ s, task.input = .text s → ∀ tracing, Covers s (g.runJob ⟨task, tracing⟩).outcome := by
  induction task using g.task_induction with
  | step task ih =>
    intro he s hs tracing
    obtain ⟨d, e, i⟩ := task
    cases hs
    refine outcome_of_holds (holds_covers he tracing) ?_ ?_ fun _ => covers_error _
    · intro job hcall _ r hr
      exact ⟨hr, fun he' s' hs' => ih job.task hcall.asks he' s' hs' job.tracing r hr⟩
    · intro job _ _ fault _
      exact covers_error fault

/-- **Nothing of a text is lost.**  If an expression that keeps what it takes succeeds on a text,
its value is made of texts, lists and tuples, a text is left, and the texts in the value, read from
left to right, followed by what is left are the text it was given. -/
theorem flatten_append_rest (g : Grammar) (e : Expr) (he : e.IsLossless) (s : Text)
    (tracing : Bool) (v rest : Value)
    (h : (g.parser e (.text s) tracing).outcome = .ok (.ok v rest)) :
    ∃ t u, v.flatten? = some t ∧ rest = .text u ∧ t ++ u = s :=
  covers_runJob g ⟨maxDepth, e, .text s⟩ he s rfl tracing (.ok v rest) h

/-- Words over two alternatives of which the second begins like the first, with a sign between them
that may be missing. -/
def joinedWords : Expr :=
  .many (.andThen (.alt [.word ['a', 'b', 'c'], .word ['a', 'b']])
    (.optional (.char (.unit '-')) (.text [])))

/-- Three words as they are read, with a sign behind the first only. -/
def threeWords : Value :=
  .list [.pair (.text ['a', 'b']) (.unit '-'), .pair (.text ['a', 'b', 'c']) (.text []),
    .pair (.text ['a', 'b']) (.text [])]

theorem flatten_append_rest_joinedWords :
    (({} : Grammar).parser joinedWords (.text "ab-abcab?".toList) false).outcome =
      .ok (.ok threeWords (.text ['?'])) ∧
    ∃ t u, threeWords.flatten? = some t ∧ Value.text ['?'] = .text u ∧
      t ++ u = "ab-abcab?".toList := by
  have he : joinedWords.IsLossless :=
    ⟨⟨Expr.isLossless_word _, Expr.isLossless_word _, trivial⟩, trivial, rfl⟩
  -- the loop is defined by well-founded recursion, on the length of a text that is known here
  have run : (({} : Grammar).parser joinedWords (.text "ab-abcab?".toList) false).outcome =
      .ok (.ok threeWords (.text ['?'])) := by
    with_unfolding_all rfl
  exact ⟨run, flatten_append_rest {} joinedWords he "ab-abcab?".toList false _ _ run⟩

end Grammar

end GrammarKit
