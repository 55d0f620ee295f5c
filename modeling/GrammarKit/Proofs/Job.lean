/-
# The runs within a run

A job is a task with the flag at its start.  Its run contains the runs of other jobs, and
`Grammar.Calls` says which: the tasks that the plan of its node asks for after the results so far,
each with the flag as it is by then.  `Grammar.Contains` is the closure of this relation, by which
one can speak of what happened somewhere within a run.

`Grammar.outcome_of_holds` is the rule for the outcome of a run: a condition on the outcome of a
node follows from conditions on the answers that the node is given.
-/
import Mathlib.Logic.Relation
import GrammarKit.Proofs.Induction

namespace GrammarKit

/-- A task with the flag at its start. -/
structure Job where
  /-- What is run. -/
  task : Task
  /-- Whether tracing is on at the start. -/
  tracing : Bool

namespace Grammar

variable (g : Grammar)

/-- The run of a job. -/
def runJob (job : Job) : Run (Result Value) :=
  g.run job.task job.tracing

end Grammar

/-- The jobs that carrying out a plan has run: each task that is asked for after the results so
far, with the flag as it is by then. -/
inductive Plan.Calls (g : Grammar) : Plan → Bool → Job → Prop where
  | first {task : Task} {next : Result Value → Plan} {tracing : Bool} :
    Calls g (.ask task next) tracing ⟨task, tracing⟩
  | later {task : Task} {next : Result Value → Plan} {tracing : Bool} {r : Result Value}
    {job : Job} (h : (g.run task tracing).outcome = .ok r)
    (hc : Calls g (next r) (g.run task tracing).tracing job) :
    Calls g (.ask task next) tracing job

/-- Whether the trace of a job can be opened: if its node has a name and tracing is on at its start,
it must be possible to write its input. -/
def Job.Opens (job : Job) : Prop :=
  match job.task.expr, job.tracing with
  | .named _ name, true => (Event.tried name job.task.input).isWritable = true
  | _, _ => True

namespace Grammar

variable (g : Grammar)

/-- A job calls the jobs that its plan has run.  One whose trace cannot be opened calls none. -/
def Calls (job job' : Job) : Prop :=
  job.Opens ∧ (g.plan job.task).Calls g job.tracing job'

/-- A job contains itself, what it calls, what that calls, and so on. -/
def Contains : Job → Job → Prop :=
  Relation.ReflTransGen g.Calls

/-- Whether the events that open and close the trace of a job can be written, if there are any. -/
def Traceable (job : Job) : Prop :=
  match job.task.expr, job.tracing with
  | .named p name, true => (Event.tried name job.task.input).isWritable = true ∧
    ∀ r, (g.run ⟨job.task.depth, p, job.task.input⟩ true).outcome = .ok r →
      (Parser.closing name r).isWritable = true
  | _, _ => True

end Grammar

variable {g : Grammar}

lemma Plan.Calls.asks {plan : Plan} {tracing : Bool} {job : Job} (h : plan.Calls g tracing job) :
    plan.Asks job.task := by
  induction h with
  | first => exact .inl rfl
  | later _ _ ih => exact .inr ⟨_, ih⟩

lemma Grammar.Calls.asks {job job' : Job} (h : g.Calls job job') :
    (g.plan job.task).Asks job'.task :=
  h.2.asks

/-- What asks for nothing contains only itself. -/
lemma Grammar.eq_of_contains {job job' : Job} (h : ∀ task, ¬ (g.plan job.task).Asks task)
    (hin : g.Contains job job') : job' = job := by
  obtain rfl | ⟨job'', hcall, -⟩ := Relation.ReflTransGen.cases_head hin
  · rfl
  · exact absurd hcall.asks (h _)

/-! ### The outcome of a run -/

namespace Effect

variable {α : Type}

lemma continueWith_of_error {β : Type} {r : Run α} {fault : Fault} (h : r.outcome = .error fault)
    (k : α → Effect β) : continueWith r k = ⟨.error fault, r.tracing, r.events⟩ := by
  rw [continueWith, h]

lemma continueWith_of_ok {β : Type} {r : Run α} {a : α} (h : r.outcome = .ok a)
    (k : α → Effect β) : continueWith r k =
      ⟨(k a r.tracing).outcome, (k a r.tracing).tracing, r.events ++ (k a r.tracing).events⟩ := by
  rw [continueWith, h]

lemma trace_run (event : Event) (tracing : Bool) :
    trace event tracing =
      if event.isWritable then ⟨.ok (), tracing, [event]⟩
      else ⟨.error .untraceable, tracing, []⟩ := by
  unfold trace
  split <;> rfl

end Effect

namespace Parser

/-- The run of a named parser that is not traced. -/
lemma named_false (p : Parser Value) (name : Text) (input : Value) :
    p.named name input false = p input false := rfl

/-- The run of a named parser that is traced. -/
lemma named_true (p : Parser Value) (name : Text) (input : Value) :
    p.named name input true =
      if (Event.tried name input).isWritable then
        match p input true with
        | ⟨.error fault, tracing, events⟩ => ⟨.error fault, tracing, .tried name input :: events⟩
        | ⟨.ok r, tracing, events⟩ =>
          if (closing name r).isWritable then
            ⟨.ok r, tracing, .tried name input :: (events ++ [closing name r])⟩
          else ⟨.error .untraceable, tracing, .tried name input :: events⟩
      else ⟨.error .untraceable, true, []⟩ := by
  show Effect.continueWith (Effect.trace _ true) _ = _
  rw [Effect.trace_run]
  split
  · rw [Effect.continueWith_ok, Effect.bind_run]
    rcases p input true with ⟨_ | r, tracing, events⟩
    · rfl
    · rw [Effect.continueWith_ok, Effect.bind_run, Effect.trace_run]
      split
      · rename_i hclose
        simp only [hclose, if_true, Effect.continueWith_ok, Effect.pure_run, List.append_nil]
        rfl
      · rename_i hclose
        simp only [hclose, Bool.false_eq_true, if_false, Effect.continueWith_error, List.append_nil]
        rfl
  · rfl

end Parser

namespace Grammar

variable (g : Grammar)

/-- The run of a named parser. -/
lemma run_named (d : Nat) (p : Expr) (name : Text) (i : Value) :
    g.run ⟨d, .named p name, i⟩ = Parser.named (fun _ => g.run ⟨d, p, i⟩) name i := rfl

/-- The outcome of a job is that of its plan, or a trace that cannot be written. -/
lemma outcome_runJob (job : Job) :
    (g.runJob job).outcome = (g.carryOut (g.plan job.task) job.tracing).outcome ∧ job.Opens ∨
      (g.runJob job).outcome = .error .untraceable ∧ ¬ g.Traceable job := by
  obtain ⟨⟨d, e, i⟩, tracing⟩ := job
  cases e with
  | named p name =>
    simp only [runJob, run_named, plan, carryOut_pass]
    cases tracing with
    | false => exact .inl ⟨rfl, trivial⟩
    | true =>
      rw [Parser.named_true]
      split
      · rename_i hopen
        rcases hrun : g.run ⟨d, p, i⟩ true with ⟨_ | r, t, events⟩
        · exact .inl ⟨rfl, hopen⟩
        · dsimp only
          split
          · exact .inl ⟨rfl, hopen⟩
          · -- the part has come to a result, but the record of it cannot be written
            rename_i hclose
            exact .inr ⟨rfl, fun h => hclose (h.2 r (congrArg Run.outcome hrun))⟩
      · rename_i hopen
        exact .inr ⟨rfl, fun h => hopen h.1⟩
  | _ => exact .inl ⟨by rw [runJob, run_eq]; rfl, trivial⟩

end Grammar

variable (g) in
/-- A condition on a plan that is carried out from a flag: what it asks for is as `asked` says, and
once each answer is as `answers` says, its outcome is as `final` says. -/
def Plan.Holds (asked : Task → Prop) (answers : Job → Result Value → Prop)
    (final : Except Fault (Result Value) → Prop) : Plan → Bool → Prop
  | .finish outcome, _ => final outcome
  | .ask task next, tracing => asked task ∧ ∀ r, answers ⟨task, tracing⟩ r →
    (next r).Holds asked answers final (g.run task tracing).tracing

namespace Plan

variable {asked : Task → Prop} {answers : Job → Result Value → Prop}
  {final : Except Fault (Result Value) → Prop} {plan : Plan} {tracing : Bool}

lemma holds_pass {task : Task} (hask : asked task)
    (h : ∀ r, answers ⟨task, tracing⟩ r → final (.ok r)) :
    (pass task).Holds g asked answers final tracing :=
  ⟨hask, h⟩

lemma holds_follow {task : Task} {next : Value → Value → Plan} (hask : asked task)
    (hok : ∀ v rest, answers ⟨task, tracing⟩ (.ok v rest) →
      (next v rest).Holds g asked answers final (g.run task tracing).tracing)
    (herr : ∀ m, answers ⟨task, tracing⟩ (.err m) → final (.ok (.err m))) :
    (follow task next).Holds g asked answers final tracing := by
  refine ⟨hask, fun r hr => ?_⟩
  cases r with
  | ok v rest => exact hok v rest hr
  | err m => exact herr m hr

lemma holds_both {first : Task} {second : Value → Task} {combine : Value → Value → Value}
    (hask : asked first)
    (hask' : ∀ v rest, answers ⟨first, tracing⟩ (.ok v rest) → asked (second rest))
    (hok : ∀ v rest, answers ⟨first, tracing⟩ (.ok v rest) →
      ∀ t w rest', answers ⟨second rest, t⟩ (.ok w rest') →
        final (.ok (.ok (combine v w) rest')))
    (herr : ∀ m, answers ⟨first, tracing⟩ (.err m) → final (.ok (.err m)))
    (herr' : ∀ rest t m, answers ⟨second rest, t⟩ (.err m) → final (.ok (.err m))) :
    (both first second combine).Holds g asked answers final tracing := by
  refine holds_follow hask ?_ herr
  intro v rest h
  exact holds_follow (hask' v rest h) (hok v rest h _) (herr' rest _)

lemma holds_settle {least : Int} {message input : Value} (herr : final (.ok (.err message)))
    (hok : final (.ok (.ok (.list []) input))) :
    (settle least message input).Holds g asked answers final tracing := by
  unfold settle
  split
  · exact herr
  · exact hok

/-- What a plan calls is as its condition says. -/
lemma asked_of_holds (h : plan.Holds g asked answers final tracing)
    (hans : ∀ job, plan.Calls g tracing job → asked job.task →
      ∀ r, (g.runJob job).outcome = .ok r → answers job r)
    {job : Job} (hjob : plan.Calls g tracing job) : asked job.task := by
  induction hjob with
  | first => exact h.1
  | @later task next tracing r job hr _ ih =>
    have answer : answers ⟨task, tracing⟩ r := hans _ .first h.1 r hr
    refine ih (h.2 r answer) ?_
    intro job hjob
    exact hans job (.later hr hjob)

/-- The outcome of a plan is as its condition says, or it is a fault of what it calls. -/
lemma outcome_of_holds (h : plan.Holds g asked answers final tracing)
    (hans : ∀ job, plan.Calls g tracing job → asked job.task →
      ∀ r, (g.runJob job).outcome = .ok r → answers job r)
    (hfault : ∀ job, plan.Calls g tracing job → asked job.task →
      ∀ fault, (g.runJob job).outcome = .error fault → final (.error fault)) :
    final (g.carryOut plan tracing).outcome := by
  -- an answer leaves a smaller plan, and the flag where the answer has left it
  induction plan generalizing tracing with
  | finish outcome => exact h
  | ask task next ih =>
    cases hrun : (g.run task tracing).outcome with
    | error fault =>
      have hout : (g.carryOut (ask task next) tracing).outcome = .error fault := by
        rw [Grammar.carryOut_ask, Effect.bind_run, Effect.continueWith_of_error hrun]
      exact hout ▸ hfault _ .first h.1 fault hrun
    | ok r =>
      have hout : (g.carryOut (ask task next) tracing).outcome =
          (g.carryOut (next r) (g.run task tracing).tracing).outcome := by
        rw [Grammar.carryOut_ask, Effect.bind_run, Effect.continueWith_of_ok hrun]
      have answer : answers ⟨task, tracing⟩ r := hans _ .first h.1 r hrun
      rw [hout]
      refine ih r (h.2 r answer) ?_ ?_
      · intro job hjob
        exact hans job (.later hrun hjob)
      · intro job hjob
        exact hfault job (.later hrun hjob)

end Plan

namespace Grammar

variable {asked : Task → Prop} {answers : Job → Result Value → Prop}
  {final : Except Fault (Result Value) → Prop} {job : Job}

/-- What a job calls is as the condition on its plan says. -/
theorem asked_of_calls (h : (g.plan job.task).Holds g asked answers final job.tracing)
    (hans : ∀ job', g.Calls job job' → asked job'.task →
      ∀ r, (g.runJob job').outcome = .ok r → answers job' r)
    {job' : Job} (hcall : g.Calls job job') : asked job'.task :=
  Plan.asked_of_holds h (fun j hj => hans j ⟨hcall.1, hj⟩) hcall.2

/-- **The rule for outcomes.**  The outcome of a job is as the condition on its plan says, if the
jobs it calls answer as they should and their faults, and that of a trace that cannot be written,
are admitted. -/
theorem outcome_of_holds (h : (g.plan job.task).Holds g asked answers final job.tracing)
    (hans : ∀ job', g.Calls job job' → asked job'.task →
      ∀ r, (g.runJob job').outcome = .ok r → answers job' r)
    (hfault : ∀ job', g.Calls job job' → asked job'.task →
      ∀ fault, (g.runJob job').outcome = .error fault → final (.error fault))
    (htrace : ¬ g.Traceable job → final (.error .untraceable)) :
    final (g.runJob job).outcome := by
  rcases g.outcome_runJob job with ⟨hout, hopen⟩ | ⟨hout, hnot⟩
  · rw [hout]
    refine Plan.outcome_of_holds h ?_ ?_
    · intro job' hjob
      exact hans job' ⟨hopen, hjob⟩
    · intro job' hjob
      exact hfault job' ⟨hopen, hjob⟩
  · rw [hout]
    exact htrace hnot

end Grammar

end GrammarKit
