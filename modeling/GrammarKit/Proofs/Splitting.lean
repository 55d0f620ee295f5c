/-
# A repetition with a minimum

A repetition that asks for `n` values looks at the minimum only where it stops: too few values, and
the last attempt decides about the failure.  If every success of the parser leaves a shorter input,
such a repetition splits into a fixed part and a free one: the parser `n` times in sequence, and
then as often as it succeeds.  Both sides stop at the first failure, the one by counting and the
other by the end of its sequence, and `Parser.Shortens.manyM_run` brings them together round by
round.

A parser that succeeds without taking anything is left out, and must be: in a sequence it may do
so `n` times, but a repetition stops at the first time.
-/
import GrammarKit.Proofs.Attempts
import GrammarKit.Proofs.Sequencing

namespace GrammarKit

/-- What is left behind the first unit is shorter. -/
lemma Value.isShorterThan_tail {input rest : Value} (hne : input.isEmpty = .ok false)
    (h : input.tail = .ok rest) : rest.IsShorterThan input := by
  have shorter {α : Type} {items : List α} (h : items.isEmpty = false) :
      items.tail.length < items.length := by
    cases items with
    | nil => cases h
    | cons item items => exact Nat.lt_succ_self _
  cases input with
  | text s =>
    cases h
    exact ⟨_, _, rfl, rfl, shorter (Except.ok.inj hne)⟩
  | bytes bs =>
    cases h
    exact ⟨_, _, rfl, rfl, shorter (Except.ok.inj hne)⟩
  | list vs =>
    cases h
    exact ⟨_, _, rfl, rfl, shorter (Except.ok.inj hne)⟩
  | tuple vs =>
    cases h
    exact ⟨_, _, rfl, rfl, shorter (Except.ok.inj hne)⟩
  | _ => cases h

namespace Parser

variable {α : Type} {p : Parser α} {input : Value}

/-- Whether every success of a parser on a value with a length leaves a shorter one. -/
def Shortens (p : Parser α) : Prop :=
  ∀ input : Value, input.IsSized → ∀ tracing v rest,
    (p input tracing).outcome = .ok (.ok v rest) → rest.IsShorterThan input

lemma Shortens.spy (hp : p.Shortens) (label : Text) : (p.spy label).Shortens := hp

/-- A unit that is taken is no longer there. -/
lemma shortens_unit (test : Value → Except Fault Bool) (complaint : Value → Except Fault Value) :
    (unit test complaint).Shortens := by
  intro input _ tracing v rest hrun
  obtain ⟨hne, -, -, htail⟩ := unit_eq_ok hrun
  exact Value.isShorterThan_tail hne htail

/-- A parser a number of times, and then as often as it makes progress. -/
def timesThenMany (n : Nat) (p : Parser α) : Parser (List α) :=
  ((sequence (List.replicate n p)).andThen (manyM 0 p)).map fun vs => vs.1 ++ vs.2

lemma timesThenMany_zero (p : Parser α) : timesThenMany 0 p = manyM 0 p := by
  simp only [timesThenMany, List.replicate_zero, sequence_nil, andThen_eq_bind, map_eq_bind,
    bind_bind, succeed_bind, List.nil_append, bind_succeed]

lemma timesThenMany_succ (n : Nat) (p : Parser α) :
    timesThenMany (n + 1) p = p.prepend (timesThenMany n p) := by
  simp only [timesThenMany, List.replicate_succ, sequence_cons, prepend_eq_bind, andThen_eq_bind,
    map_eq_bind, bind_bind, succeed_bind, List.cons_append]

/-- Round by round, the repetition does what the fixed part does, and then the free one. -/
lemma Shortens.manyM_run (hp : p.Shortens) (hsize : input.IsSized) (n : Nat) (tracing : Bool) :
    manyM n p input tracing = timesThenMany n p input tracing := by
  induction n generalizing input tracing with
  | zero =>
    rw [timesThenMany_zero]
    rfl
  | succ n ih =>
    have asked : (0 : Int) < (n + 1 : Nat) := by omega
    have less : ((n + 1 : Nat) : Int) - 1 = n := by omega
    rw [timesThenMany_succ, prepend_run, Parser.manyM_eq, Effect.bind_run, Effect.bind_run]
    rcases hrun : p input tracing with ⟨fault | ⟨v, rest⟩ | m, t, events⟩
    · rfl
    · have shorter : rest.IsShorterThan input :=
        hp input hsize tracing v rest (congrArg Run.outcome hrun)
      simp only [Effect.continueWith_ok, Value.isShorter?_eq_true shorter, less, Effect.map_run,
        ih shorter.isSized t]
    · simp only [Effect.continueWith_ok, if_pos asked]

/-- **A repetition with a minimum splits.**  If every success of a parser leaves a shorter input, to
repeat it at least `n` times is to run it `n` times in sequence, and then to repeat it freely, and
to put the values together.  The runs of the two are the same, with all that happens in them, so
that either ends in the same failure or fault; and it is the same inputs on which the parser is
run, as the record shows in which its runs are announced.  Of expressions this is true as well. -/
theorem manyM_eq_sequence_then_many {p : Parser α} (hp : p.Shortens) {input : Value}
    (hsize : input.IsSized) (n : Nat) :
    manyM n p input =
      ((sequence (List.replicate n p)).andThen (manyM 0 p)).map (fun vs => vs.1 ++ vs.2) input ∧
    (∀ label, manyM n (p.spy label) input =
      ((sequence (List.replicate n (p.spy label))).andThen (manyM 0 (p.spy label))).map
        (fun vs => vs.1 ++ vs.2) input) ∧
    ∀ (resolve : Text → Parser Value) (e : Expr), (e.parser resolve).Shortens →
      (Expr.manyM n e).parser resolve input =
        (Expr.fmap Value.concatenate
          (.andThen (.sequence (List.replicate n e)) e.many)).parser resolve input := by
  refine ⟨funext (hp.manyM_run hsize n), fun label => funext ((hp.spy label).manyM_run hsize n),
    fun resolve e he => ?_⟩
  have fixed : (Expr.sequence (List.replicate n e)).parser resolve =
      (sequence (List.replicate n (e.parser resolve))).map .list := by
    rw [← List.map_replicate, ← Expr.parsers_eq_map]
    rfl
  have split : (Expr.concat (.sequence (List.replicate n e)) e.many).parser resolve =
      (timesThenMany n (e.parser resolve)).map .list := Expr.parser_concat resolve fixed rfl
  have runs : manyM n (e.parser resolve) input = timesThenMany n (e.parser resolve) input :=
    funext (he.manyM_run hsize n)
  calc (Expr.manyM n e).parser resolve input
      = (manyM n (e.parser resolve)).map Value.list input := rfl
    _ = (timesThenMany n (e.parser resolve)).map Value.list input := by
        show manyM n (e.parser resolve) input >>= _ = _
        rw [runs]
        rfl
    _ = (Expr.concat (.sequence (List.replicate n e)) e.many).parser resolve input := by rw [split]

/-- Three ones are asked for, and the third attempt fails. -/
theorem manyM_eq_sequence_then_many_threeOnes :
    (char (.unit '1')).Shortens ∧ (Value.text ['1', '1', 'a']).IsSized ∧
    (manyM 3 (char (.unit '1')) (.text ['1', '1', 'a']) true).outcome =
      .ok (.err (.text "Expecting 1, but got a".toList)) ∧
    (manyM 3 ((char (.unit '1')).spy ['t']) (.text ['1', '1', 'a']) true).events =
      [.called ['t'] (.text ['1', '1', 'a']), .called ['t'] (.text ['1', 'a']),
        .called ['t'] (.text ['a'])] := by
  have hp : (char (.unit '1')).Shortens := shortens_unit _ _
  have hsize : (Value.text ['1', '1', 'a']).IsSized := ⟨3, rfl⟩
  obtain ⟨split, spied, -⟩ := manyM_eq_sequence_then_many hp hsize 3
  refine ⟨hp, hsize, ?_, ?_⟩
  · rw [show (3 : Int) = (3 : Nat) from rfl, split]
    rfl
  · rw [show (3 : Int) = (3 : Nat) from rfl, spied]
    rfl

end Parser

end GrammarKit
