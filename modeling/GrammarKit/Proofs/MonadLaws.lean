/-
# The laws of steps

`Parser.succeed` and `Parser.bind` are the unit and the step of a monad, and the combinators that
run one parser after the other are chains of steps.  `GrammarKit.Proofs.Sequencing` has the laws of
the monad and the first of these chains.  This file adds the chains in which a value is checked or
dropped, and draws the conclusion for brackets: parsers whose values are dropped, before or behind
the one whose value is kept, can be bracketed in any way.

A step of an expression has more to it than one of a parser, as its function may give up.  To run
what the function has made is to run its computation first and then the parser that has come of it
(`Expr.parser_bind_make`).  Giving up is then one more step of the chain, and the laws for
expressions follow from those for parsers.
-/
import GrammarKit.Proofs.Sequencing

namespace GrammarKit

namespace Parser

variable {α β γ : Type}

/-! ### Chains of steps -/

lemma validate_eq_bind (p : Parser α) (message : Value) (test : α → Except Fault Bool) :
    p.validate message test = p.bind fun v =>
      (ofExcept (test v)).bind fun passed => if passed then succeed v else fail message := by
  funext input
  show p input >>= _ = p input >>= _
  congr 1
  funext r
  cases r with
  | err m => rfl
  | ok v rest =>
    -- the result is checked by a computation, which is run here as a parser that takes nothing
    show Effect.ofExcept ((Result.ok v rest).validate message test) =
      (ofExcept (test v)).bind (fun passed => if passed then succeed v else fail message) rest
    rw [Result.validate]
    cases test v with
    | error fault => rfl
    | ok passed => cases passed <;> rfl

lemma fmap_eq_bind_succeed (f : α → Except Fault β) (p : Parser α) :
    p.fmap f = p.bind fun v => (ofExcept (f v)).bind succeed := by
  simp only [fmap_eq_bind, bind_succeed]

lemma takeFirst_eq_bind (p : Parser α) (q : Parser β) :
    p.takeFirst q = p.bind fun v => q.bind fun _ => succeed v := by
  simp only [takeFirst, map_eq_bind, andThen_eq_bind, bind_bind, succeed_bind]

lemma takeSecond_eq_bind (p : Parser α) (q : Parser β) : p.takeSecond q = p.bind fun _ => q := by
  simp only [takeSecond, map_eq_bind, andThen_eq_bind, bind_bind, succeed_bind, bind_succeed]

/-! ### Brackets -/

/-- What is dropped on the left and what is dropped on the right do not meet. -/
lemma takeFirst_takeSecond (p : Parser α) (q : Parser β) (r : Parser γ) :
    (p.takeSecond q).takeFirst r = p.takeSecond (q.takeFirst r) := by
  calc (p.takeSecond q).takeFirst r
      = (p.bind fun _ => q).bind fun w => r.bind fun _ => succeed w := by
        rw [takeFirst_eq_bind, takeSecond_eq_bind]
    _ = p.bind fun _ => q.bind fun w => r.bind fun _ => succeed w := bind_bind _ _ _
    _ = p.takeSecond (q.takeFirst r) := by rw [takeSecond_eq_bind, takeFirst_eq_bind]

lemma takeSecond_assoc (p : Parser α) (q : Parser β) (r : Parser γ) :
    (p.takeSecond q).takeSecond r = p.takeSecond (q.takeSecond r) := by
  calc (p.takeSecond q).takeSecond r
      = (p.bind fun _ => q).bind fun _ => r := by simp only [takeSecond_eq_bind]
    _ = p.bind fun _ => q.bind fun _ => r := bind_bind _ _ _
    _ = p.takeSecond (q.takeSecond r) := by simp only [takeSecond_eq_bind]

lemma takeFirst_assoc (p : Parser α) (q : Parser β) (r : Parser γ) :
    (p.takeFirst q).takeFirst r = p.takeFirst (q.takeFirst r) := by
  calc (p.takeFirst q).takeFirst r
      = (p.bind fun v => q.bind fun _ => succeed v).bind fun v => r.bind fun _ => succeed v := by
        simp only [takeFirst_eq_bind]
    _ = p.bind fun v => q.bind fun _ => r.bind fun _ => succeed v := by
        simp only [bind_bind, succeed_bind]
    -- on the other side it is the value of the second parser that the third one hands on
    _ = p.bind fun v => (q.bind fun w => r.bind fun _ => succeed w).bind fun _ => succeed v := by
        simp only [bind_bind, succeed_bind]
    _ = p.takeFirst (q.takeFirst r) := by simp only [takeFirst_eq_bind]

end Parser

/-! ### Steps of expressions -/

namespace Expr

variable (resolve : Text → Parser Value)

lemma parserOrFault_eq_bind (made : Except Fault Expr) :
    parserOrFault resolve made = (Parser.ofExcept made).bind (parser resolve) := by
  cases made <;> rfl

/-- Where the function of a step makes an expression from the value of a computation, the
computation is a step of its own. -/
lemma parser_bind_make {α : Type} (p : Expr) (x : Value → Except Fault α)
    (make : Value → α → Expr) :
    (bind p fun v => do return make v (← x v)).parser resolve =
      (p.parser resolve).bind fun v =>
        (Parser.ofExcept (x v)).bind fun a => (make v a).parser resolve := by
  show (p.parser resolve).bind _ = _
  congr 1
  funext v
  show parserOrFault resolve (do return make v (← x v)) = _
  cases x v <;> rfl

lemma parser_bind_bind (p : Expr) (g h : Value → Except Fault Expr) :
    (bind (bind p g) h).parser resolve =
      (bind p fun v => do return bind (← g v) h).parser resolve := by
  calc (bind (bind p g) h).parser resolve
      = ((p.parser resolve).bind fun v => parserOrFault resolve (g v)).bind
          fun w => parserOrFault resolve (h w) := rfl
    _ = (p.parser resolve).bind fun v => (parserOrFault resolve (g v)).bind
          fun w => parserOrFault resolve (h w) := Parser.bind_bind _ _ _
    -- the step of `h` moves behind the computation of `g`
    _ = (p.parser resolve).bind fun v => (Parser.ofExcept (g v)).bind fun e =>
          (parser resolve e).bind fun w => parserOrFault resolve (h w) := by
        simp only [parserOrFault_eq_bind, Parser.bind_bind]
    _ = (bind p fun v => do return bind (← g v) h).parser resolve :=
        (parser_bind_make resolve p g fun _ e => bind e h).symm

lemma parser_fmap_eq_bind (f : Value → Except Fault Value) (p : Expr) :
    (fmap f p).parser resolve = (bind p fun v => do return succeed (← f v)).parser resolve := by
  rw [parser_bind_make]
  exact Parser.fmap_eq_bind_succeed f _

lemma parser_validate_eq_bind (p : Expr) (message : Value) (test : Value → Except Fault Bool) :
    (validate p message test).parser resolve =
      (bind p fun v => do return if ← test v then succeed v else fail message).parser resolve := by
  rw [parser_bind_make]
  simp only [apply_ite (parser resolve)]
  exact Parser.validate_eq_bind _ message test

lemma parser_andThen_eq_bind (p q : Expr) :
    (andThen p q).parser resolve =
      (bind p fun v => .ok (bind q fun w => .ok (succeed (.pair v w)))).parser resolve := by
  show ((p.parser resolve).andThen (q.parser resolve)).map _ = _
  simp only [Parser.map_eq_bind, Parser.andThen_eq_bind, Parser.bind_bind, Parser.succeed_bind]
  rfl

end Expr

/-- **Parsers form a monad, and the ways to run them one after the other are derived from it.**  To
go on from a value that is given outright is to run what comes of it; to go on by giving the value
back is to do nothing more; and of two steps in a row it does not matter which is bracketed first.
To apply a function, to check a value and to pair two values are chains of such steps.  Hence a
parser whose value is kept can be bracketed with the dropped ones on either side of it first, and
dropped parsers that stand in a row can be bracketed with each other.

Functions and tests may give up, and then the step that applies them ends in the fault; a parser
that a function makes may do anything.  Since it is the parsers that are equal, so are their
outcomes, the events of their runs in order, those of the trace and those of the record of calls,
and the flag at the end, on every input and from either flag.  The same is true of expressions,
whatever their references stand for; there a function that makes an expression may give up too. -/
theorem Parser.monad_laws {α β γ : Type} (p : Parser α) (q : Parser β) (r : Parser γ) (v : α)
    (g : α → Parser β) (h : β → Parser γ) (f : α → Except Fault β) (message : Value)
    (test : α → Except Fault Bool) :
    (succeed v).bind g = g v ∧
    p.bind succeed = p ∧
    (p.bind g).bind h = p.bind (fun v => (g v).bind h) ∧
    p.fmap f = p.bind (fun v => (ofExcept (f v)).bind succeed) ∧
    p.validate message test = p.bind (fun v => (ofExcept (test v)).bind fun passed =>
      if passed then succeed v else fail message) ∧
    p.andThen q = p.bind (fun v => q.bind fun w => succeed (v, w)) ∧
    (p.takeSecond q).takeFirst r = p.takeSecond (q.takeFirst r) ∧
    (p.takeSecond q).takeSecond r = p.takeSecond (q.takeSecond r) ∧
    (p.takeFirst q).takeFirst r = p.takeFirst (q.takeFirst r) ∧
    ∀ (resolve : Text → Parser Value) (p q r : Expr) (v message : Value)
      (g h : Value → Except Fault Expr) (f : Value → Except Fault Value)
      (test : Value → Except Fault Bool),
      (Expr.bind (.succeed v) g).parser resolve = Expr.parserOrFault resolve (g v) ∧
      (Expr.bind p fun v => .ok (.succeed v)).parser resolve = p.parser resolve ∧
      (Expr.bind (.bind p g) h).parser resolve =
        (Expr.bind p fun v => do return .bind (← g v) h).parser resolve ∧
      (Expr.fmap f p).parser resolve =
        (Expr.bind p fun v => do return .succeed (← f v)).parser resolve ∧
      (Expr.validate p message test).parser resolve =
        (Expr.bind p fun v => do
          return if ← test v then .succeed v else .fail message).parser resolve ∧
      (Expr.andThen p q).parser resolve =
        (Expr.bind p fun v => .ok (.bind q fun w => .ok (.succeed (.pair v w)))).parser resolve ∧
      (Expr.between p q r).parser resolve =
        (Expr.takeFirst (.takeSecond p q) r).parser resolve ∧
      (Expr.between p q r).parser resolve =
        (Expr.takeSecond p (.takeFirst q r)).parser resolve ∧
      (Expr.takeSecond (.takeSecond p q) r).parser resolve =
        (Expr.takeSecond p (.takeSecond q r)).parser resolve ∧
      (Expr.takeFirst (.takeFirst p q) r).parser resolve =
        (Expr.takeFirst p (.takeFirst q r)).parser resolve := by
  refine ⟨succeed_bind v g, bind_succeed p, bind_bind p g h, fmap_eq_bind_succeed f p,
    validate_eq_bind p message test, andThen_eq_bind p q, takeFirst_takeSecond p q r,
    takeSecond_assoc p q r, takeFirst_assoc p q r, ?_⟩
  intro resolve p q r v message g h f test
  refine ⟨rfl, bind_succeed (p.parser resolve), Expr.parser_bind_bind resolve p g h,
    Expr.parser_fmap_eq_bind resolve f p, Expr.parser_validate_eq_bind resolve p message test,
    Expr.parser_andThen_eq_bind resolve p q, rfl, ?_, ?_, ?_⟩
  · exact takeFirst_takeSecond (p.parser resolve) (q.parser resolve) (r.parser resolve)
  · exact takeSecond_assoc (p.parser resolve) (q.parser resolve) (r.parser resolve)
  · exact takeFirst_assoc (p.parser resolve) (q.parser resolve) (r.parser resolve)

end GrammarKit
