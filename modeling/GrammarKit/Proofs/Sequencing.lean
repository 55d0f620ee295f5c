/-
# Parsers one after the other

To go on with a parser that is made of the value of another, `Parser.bind`, is the only step that
the sequential combinators take.  The first part of this file writes each of them as a chain of such
steps, and gives the three laws by which chains can be put into another shape.  As parsers are
compared here as a whole, whatever these laws equate has the same outcome, and lets the same events
happen in the same order, on every input and from every flag.

A sequence of parsers is then seen to be a fold, in either direction: over pairs that are
concatenated, from the left, and over pairs of a value and a list, from the right.  Where a function
of the fold is one on values, as in expressions, it is never given anything that it refuses.
-/
import GrammarKit.Proofs.Plan

namespace GrammarKit

namespace Parser

variable {α β γ : Type}

/-- Gives the value of a computation that can only fail, and leaves the input untouched. -/
def ofExcept : Except Fault α → Parser α
  | .ok v => succeed v
  | .error fault => raise fault

/-! ### Chains of steps -/

lemma succeed_bind (v : α) (next : α → Parser β) : (succeed v).bind next = next v := rfl

lemma bind_succeed (p : Parser α) : p.bind succeed = p := by
  funext input
  refine Eq.trans ?_ (bind_pure (p input))
  show p input >>= _ = p input >>= _
  congr 1
  funext r
  cases r <;> rfl

lemma bind_bind (p : Parser α) (f : α → Parser β) (g : β → Parser γ) :
    (p.bind f).bind g = p.bind fun v => (f v).bind g := by
  funext input
  refine Effect.map_bind_congr fun r => ?_
  cases r <;> rfl

lemma fmap_eq_bind (f : α → Except Fault β) (p : Parser α) :
    p.fmap f = p.bind fun v => ofExcept (f v) := by
  funext input
  show p input >>= _ = p input >>= _
  congr 1
  funext r
  cases r with
  | err m => rfl
  | ok v rest =>
    show Effect.ofExcept ((Result.ok v rest).map f) = ofExcept (f v) rest
    rw [Result.map]
    cases f v <;> rfl

lemma map_eq_bind (f : α → β) (p : Parser α) : p.map f = p.bind fun v => succeed (f v) :=
  fmap_eq_bind _ p

lemma andThen_eq_bind (p : Parser α) (q : Parser β) :
    p.andThen q = p.bind fun v => q.bind fun w => succeed (v, w) := by
  funext input
  show p input >>= _ = p input >>= _
  congr 1
  funext r
  cases r with
  | err m => rfl
  | ok v rest =>
    show q rest >>= _ = q rest >>= _
    congr 1
    funext s
    cases s <;> rfl

/-! ### Folds -/

/-- The values of a list of parsers, and behind them that of one more. -/
def append (front : Parser (List α)) (p : Parser α) : Parser (List α) :=
  (front.andThen (p.map fun v => [v])).map fun vs => vs.1 ++ vs.2

/-- The value of a parser, and behind it those of a list of parsers. -/
def prepend (p : Parser α) (back : Parser (List α)) : Parser (List α) :=
  (p.andThen back).map fun vs => vs.1 :: vs.2

lemma append_eq_bind (front : Parser (List α)) (p : Parser α) :
    front.append p = front.bind fun vs => p.bind fun v => succeed (vs ++ [v]) := by
  simp only [append, andThen_eq_bind, map_eq_bind, bind_bind, succeed_bind]

lemma prepend_eq_bind (p : Parser α) (back : Parser (List α)) :
    p.prepend back = p.bind fun v => back.bind fun vs => succeed (v :: vs) := by
  simp only [prepend, andThen_eq_bind, map_eq_bind, bind_bind, succeed_bind]

/-- The run of a parser with a list of parsers behind it. -/
lemma prepend_run (p : Parser α) (back : Parser (List α)) (input : Value) :
    p.prepend back input = (do
      match ← p input with
      | .err m => return .err m
      | .ok v rest => Result.prepend v <$> back rest) := by
  rw [prepend_eq_bind]
  show p input >>= _ = p input >>= _
  congr 1
  funext r
  cases r with
  | err m => rfl
  | ok v rest =>
    show back rest >>= _ = Result.prepend v <$> back rest
    rw [map_eq_pure_bind]
    congr 1
    funext s
    cases s <;> rfl

lemma sequence_nil : sequence ([] : List (Parser α)) = succeed [] := rfl

lemma sequence_cons (p : Parser α) (ps : List (Parser α)) :
    sequence (p :: ps) = p.prepend (sequence ps) := by
  funext input
  rw [prepend_run]
  rfl

/-- What a fold from the left has gathered stands in front of the rest of the sequence. -/
lemma foldl_append (ps : List (Parser α)) (front : Parser (List α)) :
    ps.foldl append front =
      front.bind fun vs => (sequence ps).bind fun ws => succeed (vs ++ ws) := by
  induction ps generalizing front with
  | nil => simp only [List.foldl_nil, sequence_nil, succeed_bind, List.append_nil, bind_succeed]
  | cons p ps ih =>
    rw [List.foldl_cons, ih (front.append p), append_eq_bind]
    simp only [sequence_cons, prepend_eq_bind, bind_bind, succeed_bind, List.append_assoc,
      List.singleton_append]

lemma sequence_eq_foldl (ps : List (Parser α)) : sequence ps = ps.foldl append (succeed []) := by
  rw [foldl_append]
  simp only [succeed_bind, List.nil_append, bind_succeed]

lemma sequence_eq_foldr (ps : List (Parser α)) : sequence ps = ps.foldr prepend (succeed []) := by
  induction ps with
  | nil => rfl
  | cons p ps ih => rw [List.foldr_cons, ← ih, sequence_cons]

end Parser

/-! ### Folds of expressions -/

namespace Value

/-- The list that has a value as its only item. -/
def wrap (v : Value) : Except Fault Value :=
  .ok (.list [v])

/-- Of a pair of two lists, the list with the items of both. -/
def concatenate (v : Value) : Except Fault Value := do
  let front ← (← v.first).asList
  return .list (front ++ (← (← v.second).asList))

end Value

namespace Expr

/-- Two expressions for lists one after the other; the list with the items of both. -/
def concat (p q : Expr) : Expr :=
  fmap Value.concatenate (andThen p q)

/-- The expression for a list, and behind its items the value of one more expression. -/
def append (front p : Expr) : Expr :=
  concat front (fmap Value.wrap p)

/-- The value of an expression, and behind it the items of one for a list. -/
def prepend (p back : Expr) : Expr :=
  fmap Value.prepend (andThen p back)

variable (resolve : Text → Parser Value) {p q : Expr} {ps qs : Parser (List Value)}

lemma parser_concat (hp : p.parser resolve = ps.map .list) (hq : q.parser resolve = qs.map .list) :
    (concat p q).parser resolve = ((ps.andThen qs).map fun vs => vs.1 ++ vs.2).map .list := by
  show (((p.parser resolve).andThen (q.parser resolve)).map _).fmap Value.concatenate = _
  rw [hp, hq]
  simp only [Parser.fmap_eq_bind, Parser.andThen_eq_bind, Parser.map_eq_bind, Parser.bind_bind,
    Parser.succeed_bind]
  rfl

lemma parser_append (hp : p.parser resolve = ps.map .list) (q : Expr) :
    (append p q).parser resolve = (ps.append (q.parser resolve)).map .list := by
  refine parser_concat resolve hp ?_
  show (q.parser resolve).fmap Value.wrap = _
  simp only [Parser.fmap_eq_bind, Parser.map_eq_bind, Parser.bind_bind, Parser.succeed_bind]
  rfl

lemma parser_prepend (p : Expr) (hq : q.parser resolve = qs.map .list) :
    (prepend p q).parser resolve = ((p.parser resolve).prepend qs).map .list := by
  show (((p.parser resolve).andThen (q.parser resolve)).map _).fmap Value.prepend = _
  rw [hq, Parser.prepend_eq_bind]
  simp only [Parser.fmap_eq_bind, Parser.andThen_eq_bind, Parser.map_eq_bind, Parser.bind_bind,
    Parser.succeed_bind]
  rfl

lemma parser_succeed_nil :
    (succeed (.list [])).parser resolve = (Parser.succeed []).map .list := rfl

lemma parser_foldl_append (es : List Expr) (hp : p.parser resolve = ps.map .list) :
    (es.foldl append p).parser resolve =
      ((es.map (parser resolve)).foldl Parser.append ps).map .list := by
  induction es generalizing p ps with
  | nil => exact hp
  | cons e es ih => exact ih (parser_append resolve hp e)

lemma parser_foldr_prepend (es : List Expr) :
    (es.foldr prepend (succeed (.list []))).parser resolve =
      ((es.map (parser resolve)).foldr Parser.prepend (Parser.succeed [])).map .list := by
  induction es with
  | nil => rfl
  | cons e es ih => exact parser_prepend resolve e ih

end Expr

/-- **A sequence is a fold.**  A list of parsers that run one after the other is the fold from the
left that starts with no values, and in which each further parser is run behind what has been
gathered and its value is concatenated as a list of its own; and it is the fold from the right in
which the value of each parser is put in front of those of the parsers behind it.  Since it is the
parsers that are equal, so are their outcomes, the events of their runs in order, and the flag at
the end, on every input.  The same is true of expressions, whose folds apply functions on values. -/
theorem Parser.sequence_eq_folds {α : Type} (ps : List (Parser α)) :
    sequence ps = ps.foldl
      (fun front p => (front.andThen (p.map fun v => [v])).map fun vs => vs.1 ++ vs.2)
      (succeed []) ∧
    sequence ps = ps.foldr (fun p back => (p.andThen back).map fun vs => vs.1 :: vs.2)
      (succeed []) ∧
    ∀ (resolve : Text → Parser Value) (es : List Expr),
      (Expr.sequence es).parser resolve =
        (es.foldl (fun front e =>
          Expr.fmap Value.concatenate (.andThen front (.fmap Value.wrap e)))
          (Expr.succeed (.list []))).parser resolve ∧
      (Expr.sequence es).parser resolve =
        (es.foldr (fun e back => Expr.fmap Value.prepend (.andThen e back))
          (Expr.succeed (.list []))).parser resolve := by
  refine ⟨sequence_eq_foldl ps, sequence_eq_foldr ps, fun resolve es => ?_⟩
  have meaning : (Expr.sequence es).parser resolve =
      (sequence (es.map (Expr.parser resolve))).map .list := by
    rw [← Expr.parsers_eq_map]
    rfl
  constructor
  · rw [meaning, sequence_eq_foldl]
    exact (Expr.parser_foldl_append resolve es (Expr.parser_succeed_nil resolve)).symm
  · rw [meaning, sequence_eq_foldr]
    exact (Expr.parser_foldr_prepend resolve es).symm

end GrammarKit
