/-
# Runs, one node at a time

`Expr.parser` gives the parser of an expression by recursion on the whole expression, and the loops
of `sequence` and `manyM` are hidden inside their combinators.  To follow a run from the outside one
needs a view that is cut at the nodes: what does a single node ask for, and what does it make of the
answers?

`Grammar.plan` is that view.  The plan of a node runs other expressions, one after the other, each
chosen by the results so far, until the node has an outcome of its own.  A loop is unrolled: after
its first round it asks for a run of the loop that remains.  What a node adds to the record of
events is left out of its plan and put around it by `Task.observe`.

* `Grammar.run_eq`: the run of an expression is its plan, carried out and observed.
* `Grammar.task_induction`: plans ask for smaller runs only, so that one can argue by induction on
  what a run asks for.
-/
import Mathlib.Tactic.Lemma
import GrammarKit.Grammar

namespace GrammarKit

/-- An expression to be run on an input, with references followed to a depth. -/
structure Task where
  /-- How deep references are followed. -/
  depth : Nat
  /-- The expression. -/
  expr : Expr
  /-- Its input. -/
  input : Value

/-- What a node does: it has runs of other expressions made until it has an outcome. -/
inductive Plan where
  /-- The node has its outcome. -/
  | finish (outcome : Except Fault (Result Value))
  /-- The node has a task run and goes on with the result.  A fault ends its plan. -/
  | ask (task : Task) (next : Result Value → Plan)

namespace Plan

/-- Has a task run and hands on its result. -/
def pass (task : Task) : Plan :=
  ask task fun r => finish (.ok r)

/-- Has a task run and goes on with the value and the rest of a success.  A failure is handed
on. -/
def follow (task : Task) (next : Value → Value → Plan) : Plan :=
  ask task fun
    | .ok v rest => next v rest
    | .err m => finish (.ok (.err m))

/-- Finishes with a value and a rest. -/
def yield (v rest : Value) : Plan :=
  finish (.ok (.ok v rest))

/-- Has two tasks run, the second on what the first has left, and combines their values. -/
def both (first : Task) (second : Value → Task) (combine : Value → Value → Value) : Plan :=
  follow first fun v rest => follow (second rest) fun w rest' => yield (combine v w) rest'

/-- Asks for nothing and finishes as a parser does that looks at the input only. -/
def leaf (p : Parser Value) (input : Value) : Plan :=
  finish (p input false).outcome

/-- Finishes a repetition that can make no further round, while `least` more are needed. -/
def settle (least : Int) (message input : Value) : Plan :=
  if 0 < least then finish (.ok (.err message)) else yield (.list []) input

end Plan

/-- Puts a value in front of a list. -/
def Value.cons (v : Value) : Value → Value
  | .list vs => .list (v :: vs)
  | w => w

open Plan in
/-- What an expression has run on its input, and what it makes of the results. -/
def Grammar.plan (g : Grammar) : Task → Plan
  | ⟨_, .char c, i⟩ => leaf (Parser.char c) i
  | ⟨_, .literal us, i⟩ => leaf (Parser.literal us) i
  | ⟨_, .satisfy test, i⟩ => leaf (Parser.satisfy test) i
  | ⟨_, .endOfInput, i⟩ => leaf Parser.endOfInput i
  | ⟨_, .succeed v, i⟩ => yield v i
  | ⟨_, .fail m, _⟩ => finish (.ok (.err m))
  | ⟨_, .setTracing _, i⟩ => yield .null i
  | ⟨_, .constant r, _⟩ => finish (.ok r)
  | ⟨_, .misfit _, _⟩ => finish (.error .noSuchField)
  | ⟨d, .andThen p q, i⟩ => both ⟨d, p, i⟩ (⟨d, q, ·⟩) .pair
  | ⟨d, .takeFirst p q, i⟩ => both ⟨d, p, i⟩ (⟨d, q, ·⟩) fun v _ => v
  | ⟨d, .takeSecond p q, i⟩ => both ⟨d, p, i⟩ (⟨d, q, ·⟩) fun _ w => w
  | ⟨_, .sequence [], i⟩ => yield (.list []) i
  | ⟨d, .sequence (p :: ps), i⟩ => both ⟨d, p, i⟩ (⟨d, .sequence ps, ·⟩) .cons
  | ⟨_, .times 0 _, i⟩ => yield (.list []) i
  | ⟨d, .times (n + 1) p, i⟩ => both ⟨d, p, i⟩ (⟨d, .times n p, ·⟩) .cons
  | ⟨_, .alt [], _⟩ => finish (.ok (.err Parser.noAlternatives))
  | ⟨d, .alt [p], i⟩ => pass ⟨d, p, i⟩
  | ⟨d, .alt (p :: q :: ps), i⟩ => ask ⟨d, p, i⟩ fun
    | .ok v rest => yield v rest
    | .err _ => pass ⟨d, .alt (q :: ps), i⟩
  | ⟨d, .manyM least p, i⟩ => ask ⟨d, p, i⟩ fun
    | .err m => settle least m i
    | .ok v rest =>
      match rest.isShorter? i with
      | some true => follow ⟨d, .manyM (least - 1) p, rest⟩ fun w rest' => yield (v.cons w) rest'
      | some false => settle least Stop.noProgress i
      | none => finish (.error .unsupported)
  | ⟨d, .optional p default, i⟩ => ask ⟨d, p, i⟩ fun
    | .ok v rest => yield v rest
    | .err _ => yield default i
  | ⟨d, .fmap f p, i⟩ => ask ⟨d, p, i⟩ fun r => finish (r.map f)
  | ⟨d, .validate p m test, i⟩ => ask ⟨d, p, i⟩ fun r => finish (r.validate m test)
  | ⟨d, .bind p next, i⟩ => follow ⟨d, p, i⟩ fun v rest =>
    match next v with
    | .ok e => pass ⟨d, e, rest⟩
    | .error fault => finish (.error fault)
  | ⟨d, .named p _, i⟩ => pass ⟨d, p, i⟩
  | ⟨d, .spy p _, i⟩ => pass ⟨d, p, i⟩
  | ⟨0, .ref _, _⟩ => finish (.error .tooDeep)
  | ⟨d + 1, .ref name, i⟩ =>
    match g.rule name with
    | .ok e => pass ⟨d, e, i⟩
    | .error fault => finish (.error fault)

/-- What the node of a task adds to the run of its plan: the trace of a named parser, the record of
an observed one, the setting of the flag. -/
def Task.observe (task : Task) (x : Effect (Result Value)) : Effect (Result Value) :=
  match task.expr with
  | .named _ name => Parser.named (fun _ => x) name task.input
  | .spy _ label => Parser.spy (fun _ => x) label task.input
  | .setTracing on => do Effect.setTracing on; x
  | _ => x

namespace Grammar

variable (g : Grammar)

/-- Runs a task. -/
def run (task : Task) : Effect (Result Value) :=
  task.expr.parser (g.resolve task.depth) task.input

/-- Has everything run that a plan asks for, down to its outcome. -/
def carryOut : Plan → Effect (Result Value)
  | .finish outcome => Effect.ofExcept outcome
  | .ask task next => do carryOut (next (← g.run task))

end Grammar

/-! ### Parsers that only look at the input -/

namespace Effect

variable {α β : Type}

/-- An effect is silent if it neither looks at the flag nor leaves a trace of itself. -/
def IsSilent (x : Effect α) : Prop :=
  ∀ tracing, x tracing = ⟨(x false).outcome, tracing, []⟩

lemma isSilent_pure (a : α) : (pure a : Effect α).IsSilent := fun _ => rfl

lemma isSilent_ofExcept (x : Except Fault α) : (ofExcept x).IsSilent := fun _ => rfl

lemma IsSilent.bind {x : Effect α} {k : α → Effect β} (hx : x.IsSilent)
    (hk : ∀ a, (k a).IsSilent) : (x >>= k).IsSilent := by
  intro tracing
  simp only [bind_run]
  rw [hx tracing, hx false]
  cases (x false).outcome with
  | error fault => rfl
  | ok a => simp only [continueWith_ok, hk a tracing, List.append_nil]

/-- To apply a function after some steps is to go on differently after the first of them. -/
lemma map_bind_congr {γ : Type} {x : Effect α} {k : α → Effect β} {f : β → Effect γ}
    {l : α → Effect γ} (h : ∀ a, k a >>= f = l a) : x >>= k >>= f = x >>= l := by
  rw [bind_assoc]
  congr 1
  exact funext h

lemma IsSilent.eq_ofExcept {x : Effect α} (hx : x.IsSilent) : x = ofExcept (x false).outcome :=
  funext hx

end Effect

namespace Parser

variable {α β : Type}

lemma isSilent_unit (test : Value → Except Fault Bool) (complaint : Value → Except Fault Value)
    (input : Value) : (unit test complaint input).IsSilent := by
  refine (Effect.isSilent_ofExcept _).bind fun empty => ?_
  cases empty with
  | true => exact Effect.isSilent_pure _
  | false =>
    refine (Effect.isSilent_ofExcept _).bind fun u => (Effect.isSilent_ofExcept _).bind fun b => ?_
    cases b <;> exact (Effect.isSilent_ofExcept _).bind fun _ => Effect.isSilent_pure _

lemma isSilent_endOfInput (input : Value) : (endOfInput input).IsSilent := by
  refine (Effect.isSilent_ofExcept _).bind fun empty => ?_
  cases empty with
  | true => exact Effect.isSilent_pure _
  | false =>
    exact (Effect.isSilent_ofExcept _).bind fun _ =>
      (Effect.isSilent_ofExcept _).bind fun _ => Effect.isSilent_pure _

lemma isSilent_fmap {p : Parser α} (hp : ∀ input, (p input).IsSilent) (f : α → Except Fault β)
    (input : Value) : (p.fmap f input).IsSilent :=
  (hp input).bind fun _ => Effect.isSilent_ofExcept _

lemma isSilent_sequence {ps : List (Parser α)} (hps : ∀ p ∈ ps, ∀ input, (p input).IsSilent)
    (input : Value) : (sequence ps input).IsSilent := by
  induction ps generalizing input with
  | nil => exact Effect.isSilent_pure _
  | cons p ps ih =>
    refine (hps p List.mem_cons_self input).bind fun r => ?_
    cases r with
    | err m => exact Effect.isSilent_pure _
    | ok v rest =>
      dsimp only
      rw [← bind_pure_comp]
      exact (ih (fun q hq => hps q (List.mem_cons_of_mem _ hq)) rest).bind fun _ =>
        Effect.isSilent_pure _

lemma isSilent_literal (units : List Value) (input : Value) : (literal units input).IsSilent := by
  refine isSilent_fmap (isSilent_sequence fun p hp => ?_) _ input
  obtain ⟨u, -, rfl⟩ := List.mem_map.mp hp
  exact isSilent_unit _ _

/-- One round of a repetition with a minimum, and the repetition that remains. -/
lemma manyM_eq (least : Int) (p : Parser α) (input : Value) :
    manyM least p input = (do
      match ← p input with
      | .err m => return if 0 < least then .err m else .ok [] input
      | .ok v rest =>
        match rest.isShorter? input with
        | some true => Result.prepend v <$> manyM (least - 1) p rest
        | some false => return if 0 < least then .err Stop.noProgress else .ok [] input
        | none => Effect.raise .unsupported) := by
  rw [manyM, repeated]
  simp only [bind_assoc]
  congr 1
  funext r
  rcases r with ⟨v, rest⟩ | m
  · dsimp only
    split
    · rename_i h
      simp only [manyM, h, map_eq_pure_bind, bind_assoc, pure_bind]
      congr 1
      funext s
      -- the first round gives one of the values that are needed
      have shift : (s.values.length : Int) + 1 < least ↔ (s.values.length : Int) < least - 1 := by
        omega
      simp only [Repetition.push, List.length_cons, Int.natCast_add, Int.cast_ofNat_Int, shift]
      split <;> rfl
    · rename_i h
      by_cases hlt : 0 < least <;> simp [h, hlt, Stop.message]
    · rename_i h
      simp only [h]
      rfl
  · by_cases hlt : 0 < least <;> simp [hlt, Stop.message]

end Parser

/-! ### The plan of an expression is its meaning -/

namespace Grammar

variable (g : Grammar)

lemma carryOut_finish (outcome : Except Fault (Result Value)) :
    g.carryOut (.finish outcome) = Effect.ofExcept outcome := rfl

lemma carryOut_ask (task : Task) (next : Result Value → Plan) :
    g.carryOut (.ask task next) = g.run task >>= fun r => g.carryOut (next r) := rfl

lemma carryOut_pass (task : Task) : g.carryOut (.pass task) = g.run task := by
  simp only [Plan.pass, carryOut_ask, carryOut_finish]
  exact bind_pure (g.run task)

lemma carryOut_yield (v rest : Value) :
    g.carryOut (.yield v rest) = pure (.ok v rest) := rfl

lemma carryOut_leaf {p : Parser Value} {input : Value} (hp : (p input).IsSilent) :
    g.carryOut (.leaf p input) = p input :=
  hp.eq_ofExcept.symm

lemma carryOut_follow (task : Task) (next : Value → Value → Plan) :
    g.carryOut (.follow task next) = (do
      match ← g.run task with
      | .ok v rest => g.carryOut (next v rest)
      | .err m => return .err m) := by
  simp only [Plan.follow, carryOut_ask]
  congr 1
  funext r
  cases r <;> rfl

lemma carryOut_both (first : Task) (second : Value → Task) (combine : Value → Value → Value) :
    g.carryOut (.both first second combine) = (do
      match ← g.run first with
      | .ok v rest =>
        match ← g.run (second rest) with
        | .ok w rest' => return .ok (combine v w) rest'
        | .err m => return .err m
      | .err m => return .err m) := by
  simp only [Plan.both, carryOut_follow, carryOut_yield]

lemma carryOut_settle (least : Int) (message input : Value) :
    g.carryOut (.settle least message input) =
      pure (if 0 < least then .err message else .ok (.list []) input) := by
  unfold Plan.settle
  split <;> rfl

/-- Two parsers one after the other, with a function applied to the pair of their values. -/
lemma carryOut_andThen (first : Task) (second : Value → Task)
    (combine : Value → Value → Value) :
    g.carryOut (.both first second combine) =
      Parser.map (fun vw : Value × Value => combine vw.1 vw.2)
        (Parser.andThen (fun _ => g.run first) fun rest => g.run (second rest)) first.input := by
  rw [carryOut_both]
  refine (Effect.map_bind_congr fun r => ?_).symm
  cases r with
  | err m => rfl
  | ok v rest => exact Effect.map_bind_congr fun s => by cases s <;> rfl

/-- The list of a loop's values, as a value. -/
def asList (x : Effect (Result (List Value))) : Effect (Result Value) :=
  x >>= fun r => Effect.ofExcept (r.map fun vs => .ok (.list vs))

/-- A value in front of the list of a loop's values is one in front of the value of the loop. -/
lemma asList_prepend (v : Value) (x : Effect (Result (List Value))) :
    asList (Result.prepend v <$> x) = (do
      match ← asList x with
      | .ok w rest => return .ok (v.cons w) rest
      | .err m => return .err m) := by
  simp only [asList, map_eq_pure_bind, bind_assoc]
  congr 1
  funext r
  cases r <;> rfl

/-- The run of an expression is its plan, carried out and observed. -/
theorem run_eq (task : Task) : g.run task = task.observe (g.carryOut (g.plan task)) := by
  obtain ⟨d, e, i⟩ := task
  cases e with
  -- the leaves that look at the input are silent, so that their plan can do without the flag
  | char c => exact (g.carryOut_leaf (Parser.isSilent_unit _ _ i)).symm
  | literal us => exact (g.carryOut_leaf (Parser.isSilent_literal us i)).symm
  | satisfy test => exact (g.carryOut_leaf (Parser.isSilent_unit _ _ i)).symm
  | endOfInput => exact (g.carryOut_leaf (Parser.isSilent_endOfInput i)).symm
  | succeed v => rfl
  | fail m => rfl
  | setTracing on => rfl
  | constant r => rfl
  | misfit v => rfl
  | andThen p q => exact (g.carryOut_andThen ⟨d, p, i⟩ (⟨d, q, ·⟩) .pair).symm
  | takeFirst p q => exact (g.carryOut_andThen ⟨d, p, i⟩ (⟨d, q, ·⟩) fun v _ => v).symm
  | takeSecond p q => exact (g.carryOut_andThen ⟨d, p, i⟩ (⟨d, q, ·⟩) fun _ w => w).symm
  | sequence ps =>
    cases ps with
    | nil => rfl
    | cons p ps =>
      -- the loop that remains gives a list, and its plan gives the list as a value
      simp only [plan, Task.observe, carryOut_both]
      refine Effect.map_bind_congr fun r => ?_
      cases r with
      | err m => rfl
      | ok v rest => exact asList_prepend v _
  | times n p =>
    cases n with
    | zero => rfl
    | succ n =>
      simp only [plan, Task.observe, carryOut_both]
      refine Effect.map_bind_congr fun r => ?_
      cases r with
      | err m => rfl
      | ok v rest => exact asList_prepend v _
  | alt ps =>
    match ps with
    | [] => rfl
    | [p] => exact (g.carryOut_pass ⟨d, p, i⟩).symm
    | p :: q :: ps =>
      simp only [plan, Task.observe, carryOut_ask, run, Expr.parser, Expr.parsers, Parser.alt]
      congr 1
      funext r
      cases r with
      | ok v rest => rfl
      | err m => exact (g.carryOut_pass ⟨d, .alt (q :: ps), i⟩).symm
  | manyM least p =>
    simp only [plan, Task.observe, carryOut_ask, run, Expr.parser, Parser.map, Parser.fmap]
    rw [Parser.manyM_eq]
    refine Effect.map_bind_congr fun r => ?_
    cases r with
    | err m =>
      dsimp only
      rw [carryOut_settle]
      split <;> rfl
    | ok v rest =>
      dsimp only
      cases rest.isShorter? i with
      | none => rfl
      | some shorter =>
        cases shorter with
        | true =>
          dsimp only
          rw [carryOut_follow]
          exact asList_prepend v _
        | false =>
          dsimp only
          rw [carryOut_settle]
          split <;> rfl
  | optional p default =>
    simp only [plan, Task.observe, carryOut_ask, run, Expr.parser, Parser.optional]
    congr 1
    funext r
    cases r <;> rfl
  | fmap f p => rfl
  | validate p m test => rfl
  | bind p next =>
    simp only [plan, Task.observe, carryOut_follow, run, Expr.parser, Parser.bind]
    congr 1
    funext r
    cases r with
    | err m => rfl
    | ok v rest =>
      dsimp only
      cases next v with
      | ok e => exact (g.carryOut_pass ⟨d, e, rest⟩).symm
      | error fault => rfl
  | named p name =>
    simp only [plan, Task.observe, carryOut_pass]
    rfl
  | spy p label =>
    simp only [plan, Task.observe, carryOut_pass]
    rfl
  | ref name =>
    cases d with
    | zero => rfl
    | succ d =>
      simp only [plan, Task.observe, run, Expr.parser, resolve]
      cases g.rule name with
      | ok e => exact (g.carryOut_pass ⟨d, e, i⟩).symm
      | error fault => rfl

end Grammar

end GrammarKit
