/-
# Fragments of the language, given by their leaves

Many statements hold of all expressions but for a few kinds of leaves: those that give a fixed
result, that turn tracing on or off, or that stand for a rule of the grammar.  `Expr.Leaves ok` says
that every leaf is as `ok` says, also in the expressions that the functions of `bind` make.

A plan asks for expressions with such leaves only, which is `Grammar.leaves_of_asks`.
-/
import GrammarKit.Proofs.Job

namespace GrammarKit

variable (ok : Expr → Prop)

namespace Expr

mutual

/-- Whether every leaf of an expression is as `ok` says. -/
def Leaves : Expr → Prop
  | andThen p q => Leaves p ∧ Leaves q
  | takeFirst p q => Leaves p ∧ Leaves q
  | takeSecond p q => Leaves p ∧ Leaves q
  | sequence ps => AllLeaves ps
  | times _ p => Leaves p
  | alt ps => AllLeaves ps
  | manyM _ p => Leaves p
  | optional p _ => Leaves p
  | fmap _ p => Leaves p
  | bind p next => Leaves p ∧ ∀ v, MadeLeaves (next v)
  | validate p _ _ => Leaves p
  | named p _ => Leaves p
  | spy p _ => Leaves p
  | e => ok e
termination_by structural e => e

/-- Whether every leaf of some expressions is as `ok` says. -/
def AllLeaves : List Expr → Prop
  | [] => True
  | p :: ps => Leaves p ∧ AllLeaves ps
termination_by structural ps => ps

/-- Whether every leaf of an expression that a function has made is as `ok` says. -/
def MadeLeaves : Except Fault Expr → Prop
  | .ok e => Leaves e
  | .error _ => True
termination_by structural made => made

end

/-- The leaves that do not give a fixed result. -/
def IsParser : Expr → Prop
  | constant _ => False
  | _ => True

/-- The leaves that leave the tracing flag alone. -/
def KeepsFlag : Expr → Prop
  | setTracing _ => False
  | _ => True

/-- The leaves that can be written down without a grammar and that are what they seem: no fixed
result, no value in the place of a parser, and a literal only of characters. -/
def IsPlain : Expr → Prop
  | constant _ => False
  | ref _ => False
  | misfit _ => False
  | literal us => ∃ s : Text, us = s.map Value.unit
  | _ => True

end Expr

/-- Whether every leaf of the rules that a reference may stand for is as `ok` says. -/
def Grammar.Leaves (g : Grammar) : Prop :=
  ∀ name e, ok (.ref name) → g.rule name = .ok e → e.Leaves ok

variable {ok} {g : Grammar}

/-- The leaves of a grammar are those of the entries of its table. -/
lemma Grammar.leaves_of_rules (h : ∀ rule ∈ g.rules, rule.2.Leaves ok) : g.Leaves ok := by
  intro name e _ he
  unfold Grammar.rule at he
  split at he
  · rename_i e' hlookup
    -- what is looked up is one of the entries
    obtain ⟨before, after, hrules, -⟩ := List.lookup_eq_some_iff.mp hlookup
    cases he
    exact h (name, e) (hrules ▸ List.mem_append_right _ List.mem_cons_self)
  · cases he

lemma leaves_of_asks_both {d : Nat} {p q : Expr} {i : Value} {combine : Value → Value → Value}
    {task : Task} (hp : p.Leaves ok) (hq : q.Leaves ok)
    (h : (Plan.both ⟨d, p, i⟩ (⟨d, q, ·⟩) combine).Asks task) : task.expr.Leaves ok := by
  obtain rfl | ⟨rest, rfl⟩ := (Plan.asks_both _ _).mp h
  · exact hp
  · exact hq

/-- A plan asks for expressions whose leaves are as those of its own expression, or of a rule. -/
theorem Grammar.leaves_of_asks (hg : g.Leaves ok) {task task' : Task}
    (h : (g.plan task).Asks task') (he : task.expr.Leaves ok) : task'.expr.Leaves ok := by
  obtain ⟨d, e, i⟩ := task
  cases e with
  | char c => exact absurd h (Plan.asks_leaf _ _)
  | literal us => exact absurd h (Plan.asks_leaf _ _)
  | satisfy test => exact absurd h (Plan.asks_leaf _ _)
  | endOfInput => exact absurd h (Plan.asks_leaf _ _)
  | succeed v => exact absurd h (Plan.asks_yield _ _)
  | setTracing on => exact absurd h (Plan.asks_yield _ _)
  | fail m => exact absurd h (Plan.asks_finish _)
  | constant r => exact absurd h (Plan.asks_finish _)
  | misfit v => exact absurd h (Plan.asks_finish _)
  | andThen p q => exact leaves_of_asks_both he.1 he.2 h
  | takeFirst p q => exact leaves_of_asks_both he.1 he.2 h
  | takeSecond p q => exact leaves_of_asks_both he.1 he.2 h
  | sequence ps =>
    cases ps with
    | nil => exact absurd h (Plan.asks_yield _ _)
    | cons p ps => exact leaves_of_asks_both (q := .sequence ps) he.1 he.2 h
  -- the loops ask for themselves, with the same leaves
  | times n p =>
    cases n with
    | zero => exact absurd h (Plan.asks_yield _ _)
    | succ n => exact leaves_of_asks_both (p := p) (q := .times n p) he he h
  | alt ps =>
    match ps with
    | [] => exact absurd h (Plan.asks_finish _)
    | [p] => exact Plan.asks_pass.mp h ▸ he.1
    | p :: q :: ps =>
      obtain rfl | ⟨_ | m, h⟩ := h
      · exact he.1
      · exact absurd h (Plan.asks_yield _ _)
      · exact Plan.asks_pass.mp h ▸ he.2
  | manyM least p =>
    obtain rfl | ⟨⟨v, rest⟩ | m, h⟩ := h
    · exact he
    · dsimp only at h
      split at h
      · obtain rfl | ⟨_, _, h⟩ := (Plan.asks_follow _).mp h
        · exact he
        · exact absurd h (Plan.asks_yield _ _)
      · exact absurd h (Plan.asks_settle _ _ _)
      · exact absurd h (Plan.asks_finish _)
    · exact absurd h (Plan.asks_settle _ _ _)
  | optional p default =>
    obtain rfl | ⟨_ | _, h⟩ := h
    · exact he
    · exact absurd h (Plan.asks_yield _ _)
    · exact absurd h (Plan.asks_yield _ _)
  | fmap f p =>
    obtain rfl | ⟨_, h⟩ := h
    · exact he
    · exact absurd h (Plan.asks_finish _)
  | validate p m test =>
    obtain rfl | ⟨_, h⟩ := h
    · exact he
    · exact absurd h (Plan.asks_finish _)
  | bind p next =>
    obtain rfl | ⟨v, rest, h⟩ := (Plan.asks_follow _).mp h
    · exact he.1
    · have made := he.2 v
      split at h
      · rename_i e hmade
        rw [hmade] at made
        exact Plan.asks_pass.mp h ▸ made
      · exact absurd h (Plan.asks_finish _)
  | named p name => exact Plan.asks_pass.mp h ▸ he
  | spy p label => exact Plan.asks_pass.mp h ▸ he
  | ref name =>
    cases d with
    | zero => exact absurd h (Plan.asks_finish _)
    | succ d =>
      simp only [plan] at h
      split at h
      · rename_i e hrule
        exact Plan.asks_pass.mp h ▸ hg name e he hrule
      · exact absurd h (Plan.asks_finish _)

end GrammarKit
