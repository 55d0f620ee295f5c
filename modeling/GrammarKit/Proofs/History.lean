/-
# The history of a run

A run is a sequence of moments: a leaf of the expression is run on an input and has its outcome, or
the function of a node is applied to the value of its part.  `Grammar.history` lists the moments of
a run in their order.  It follows the plans of the nodes, one answer after the other, and so it
lists what happened and nothing else: what is asked for after a failure or a fault depends on the
node, as in the run itself.

The trace comes into it at one place only.  A record that cannot be written ends the run, and that
is a moment of its own.

`Grammar.ran_mem_history` says that no leaf run is left out.
-/
import GrammarKit.Proofs.Job

namespace GrammarKit

/-- A run of a leaf. -/
structure LeafRun where
  /-- The leaf. -/
  leaf : Expr
  /-- What it was run on. -/
  input : Value
  /-- What it came to. -/
  outcome : Except Fault (Result Value)

/-- Something that happens in a run. -/
inductive Moment where
  /-- A leaf was run. -/
  | ran (run : LeafRun)
  /-- The function of a node was applied to the value of its part. -/
  | applied (node : Expr) (v : Value)
  /-- A record of the trace was to be written, and could not be. -/
  | unwritten (record : Event)

namespace Moment

/-- The leaf run that a moment is. -/
def leafRun? : Moment → Option LeafRun
  | ran run => some run
  | _ => none

/-- Whether a fault is raised at a moment: by a leaf, by the function of a node, or because a record
cannot be written. -/
def Raises (fault : Fault) : Moment → Prop
  | ran run => run.outcome = .error fault
  | applied (.fmap f _) v => f v = .error fault
  | applied (.validate _ _ test) v => test v = .error fault
  | applied (.bind _ next) v => next v = .error fault
  | applied _ _ => False
  | unwritten _ => fault = .untraceable

/-- Whether a value is refused at a moment, by a test that it does not pass, with a message. -/
def Refuses (m : Value) : Moment → Prop
  | applied (.validate _ m' test) v => m = m' ∧ test v = .ok false
  | _ => False

end Moment

/-- The leaf runs of a history, in order. -/
def leafRuns (history : List Moment) : List LeafRun :=
  history.filterMap Moment.leafRun?

namespace Expr

/-- The expressions without parts that are run as they are. -/
def isLeaf : Expr → Bool
  | char _ => true
  | literal _ => true
  | satisfy _ => true
  | succeed _ => true
  | fail _ => true
  | endOfInput => true
  | setTracing _ => true
  | constant _ => true
  | misfit _ => true
  | _ => false

/-- What a node does with the result of its part: if it has a function, the function is applied to
the value of a success. -/
def applied : Expr → Result Value → List Moment
  | fmap f p, .ok v _ => [.applied (fmap f p) v]
  | validate p m test, .ok v _ => [.applied (validate p m test) v]
  | bind p next, .ok v _ => [.applied (bind p next) v]
  | _, _ => []

end Expr

/-- The moments of a plan that is carried out from a flag, given those of what it asks for; `after`
says what happens once the first answer is there. -/
def Plan.history (g : Grammar) : (plan : Plan) →
    (moments : (task : Task) → plan.Asks task → Bool → List Moment) →
    (after : Result Value → List Moment) → Bool → List Moment
  | .finish _, _, _, _ => []
  | .ask task next, moments, after, tracing =>
    moments task (.inl rfl) tracing ++
      match (g.run task tracing).outcome with
      | .error _ => []
      | .ok r => after r ++ (next r).history g (fun task' h => moments task' (.inr ⟨r, h⟩))
          (fun _ => []) (g.run task tracing).tracing

namespace Grammar

variable (g : Grammar)

/-- What the trace of a job adds to the moments inside: a record that cannot be written, at its
start or at its end. -/
def enclose (job : Job) (inner : List Moment) : List Moment :=
  match job.task.expr, job.tracing with
  | .named p name, true =>
    if (Event.tried name job.task.input).isWritable then
      inner ++ match (g.run ⟨job.task.depth, p, job.task.input⟩ true).outcome with
        | .error _ => []
        | .ok r =>
          if (Parser.closing name r).isWritable then [] else [.unwritten (Parser.closing name r)]
    else [.unwritten (.tried name job.task.input)]
  | _, _ => inner

/-- Nothing can be asked for without end. -/
lemma wellFounded_asks : WellFounded fun task' task => (g.plan task).Asks task' :=
  ⟨fun task => g.founded task.depth task.expr task.input⟩

/-- What happens in the run of a job, in order. -/
def history (job : Job) : List Moment :=
  if job.task.expr.isLeaf then
    [.ran ⟨job.task.expr, job.task.input, (g.runJob job).outcome⟩]
  else
    g.enclose job <| (g.plan job.task).history g (fun task _ tracing => history ⟨task, tracing⟩)
      job.task.expr.applied job.tracing
termination_by g.wellFounded_asks.wrap job.task
decreasing_by assumption

variable {g} {d : Nat} {e : Expr} {i : Value} {tracing : Bool} {job job' : Job}

/-- The history of a leaf is its run. -/
lemma history_leaf (h : job.task.expr.isLeaf = true) :
    g.history job = [.ran ⟨job.task.expr, job.task.input, (g.runJob job).outcome⟩] := by
  rw [history, if_pos h]

/-- The history of a node is that of its plan. -/
lemma history_node (h : job.task.expr.isLeaf = false) :
    g.history job = g.enclose job ((g.plan job.task).history g
      (fun task _ tracing => g.history ⟨task, tracing⟩) job.task.expr.applied job.tracing) := by
  rw [history, if_neg (Bool.eq_false_iff.mp h)]

/-! ### No leaf run is left out -/

/-- A leaf asks for nothing. -/
lemma not_asks_of_isLeaf {task task' : Task} (h : task.expr.isLeaf = true) :
    ¬ (g.plan task).Asks task' := by
  obtain ⟨d, e, i⟩ := task
  cases e with
  | char c => exact id
  | literal us => exact id
  | satisfy test => exact id
  | succeed v => exact id
  | fail m => exact id
  | endOfInput => exact id
  | setTracing on => exact id
  | constant r => exact id
  | misfit v => exact id
  | _ => cases h

/-- The history of what a plan calls stands together in the history of the plan. -/
lemma history_infix_of_plan {plan : Plan} (after : Result Value → List Moment)
    (h : plan.Calls g tracing job) :
    g.history job <:+: plan.history g (fun task _ t => g.history ⟨task, t⟩) after tracing := by
  induction h generalizing after with
  | first =>
    rw [Plan.history]
    exact (List.prefix_append _ _).isInfix
  | @later task next tracing r job hr _ ih =>
    simp only [Plan.history, hr]
    refine (ih fun _ => []).trans ?_
    rw [← List.append_assoc]
    exact (List.suffix_append _ _).isInfix

/-- The history of a job that is called stands together in that of its caller. -/
lemma history_infix_of_calls (h : g.Calls job job') : g.history job' <:+: g.history job := by
  have node : job.task.expr.isLeaf = false :=
    Bool.eq_false_iff.mpr fun hleaf => not_asks_of_isLeaf hleaf h.asks
  have inner := history_infix_of_plan job.task.expr.applied h.2
  rw [history_node node]
  obtain ⟨⟨d, e, i⟩, tracing⟩ := job
  cases e with
  | named p name =>
    cases tracing with
    | false => exact inner
    | true =>
      have hopen : (Event.tried name i).isWritable = true := h.1
      simp only [enclose, hopen, if_true]
      exact inner.trans (List.prefix_append _ _).isInfix
  | _ => exact inner

/-- **No leaf run is left out.**  Wherever in a run a leaf is run, that is a moment of the
history. -/
theorem ran_mem_history (hin : g.Contains job job') (hleaf : job'.task.expr.isLeaf = true) :
    .ran ⟨job'.task.expr, job'.task.input, (g.runJob job').outcome⟩ ∈ g.history job := by
  have infix' : g.history job' <:+: g.history job := by
    -- from the leaf out to the whole run, one call at a time
    induction hin using Relation.ReflTransGen.head_induction_on with
    | refl => exact List.infix_rfl
    | head hcall _ ih => exact ih.trans (history_infix_of_calls hcall)
  rw [history_leaf hleaf] at infix'
  exact infix'.mem List.mem_cons_self

end Grammar

end GrammarKit
