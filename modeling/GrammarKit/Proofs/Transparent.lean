/-
# Names are for the trace only

`Expr.unnamed` takes every name off an expression, also off the expressions that its functions make,
and `Grammar.unnamed` does so for the rules.  `Grammar.agree_run` compares a run with one of the
unnamed expression.  The two may start with different settings of the flag, and the flag may be
turned on and off along the way, so that the named parsers of the first run take now one branch and
now the other.  The outcome and the record of calls are the same all the same, and so is the flag at
the end if it was the same at the start.

The only thing that a name can do to a run is to ask for a trace that cannot be written.  The
comparison is therefore for runs in which this does not happen.  Where it happens, it is the end of
the run, so that the flag at the start matters to the outcome in no other way:
`Grammar.outcome_run_of_flags`.
-/
import GrammarKit.Proofs.Leaves

namespace GrammarKit

/-! ### Taking the names off -/

namespace Expr

mutual

/-- The expression without the names in it. -/
def unnamed : Expr → Expr
  | char c => char c
  | literal us => literal us
  | satisfy test => satisfy test
  | succeed v => succeed v
  | fail m => fail m
  | andThen p q => andThen (unnamed p) (unnamed q)
  | takeFirst p q => takeFirst (unnamed p) (unnamed q)
  | takeSecond p q => takeSecond (unnamed p) (unnamed q)
  | sequence ps => sequence (allUnnamed ps)
  | times n p => times n (unnamed p)
  | alt ps => alt (allUnnamed ps)
  | manyM least p => manyM least (unnamed p)
  | optional p default => optional (unnamed p) default
  | endOfInput => endOfInput
  | fmap f p => fmap f (unnamed p)
  | bind p next => bind (unnamed p) fun v => madeUnnamed (next v)
  | validate p m test => validate (unnamed p) m test
  | named p _ => unnamed p
  | ref name => ref name
  | spy p label => spy (unnamed p) label
  | setTracing on => setTracing on
  | constant r => constant r
  | misfit v => misfit v
termination_by structural e => e

/-- Some expressions without the names in them. -/
def allUnnamed : List Expr → List Expr
  | [] => []
  | p :: ps => unnamed p :: allUnnamed ps
termination_by structural ps => ps

/-- An expression that a function has made, without the names in it. -/
def madeUnnamed : Except Fault Expr → Except Fault Expr
  | .ok e => .ok (unnamed e)
  | .error fault => .error fault
termination_by structural made => made

end

end Expr

namespace Grammar

/-- The grammar without the names in its rules. -/
def unnamed (g : Grammar) : Grammar :=
  ⟨g.rules.map fun rule => (rule.1, rule.2.unnamed)⟩

lemma rule_unnamed (g : Grammar) (name : Text) :
    g.unnamed.rule name = Expr.madeUnnamed (g.rule name) := by
  obtain ⟨rules⟩ := g
  have lookup : (rules.map fun rule => (rule.1, rule.2.unnamed)).lookup name =
      (rules.lookup name).map Expr.unnamed := by
    induction rules with
    | nil => rfl
    | cons rule rules ih =>
      obtain ⟨name', e⟩ := rule
      simp only [List.map_cons, List.lookup_cons, ih]
      cases name == name' <;> rfl
  rw [rule, unnamed, lookup, rule]
  cases rules.lookup name <;> rfl

end Grammar

/-- The task without the names in its expression. -/
def Task.unnamed (task : Task) : Task :=
  ⟨task.depth, task.expr.unnamed, task.input⟩

namespace Plan

/-- The plan that asks for the same tasks without the names in them. -/
def unnamed : Plan → Plan
  | finish outcome => finish outcome
  | ask task next => ask task.unnamed fun r => (next r).unnamed

lemma unnamed_follow (task : Task) (next : Value → Value → Plan) :
    (follow task next).unnamed = follow task.unnamed fun v rest => (next v rest).unnamed := by
  show ask task.unnamed _ = ask task.unnamed _
  congr 1
  funext r
  cases r <;> rfl

lemma unnamed_both (d : Nat) (p q : Expr) (i : Value) (combine : Value → Value → Value) :
    (both ⟨d, p, i⟩ (⟨d, q, ·⟩) combine).unnamed =
      both ⟨d, p.unnamed, i⟩ (⟨d, q.unnamed, ·⟩) combine := by
  simp only [both, unnamed_follow]
  rfl

lemma unnamed_settle (least : Int) (message input : Value) :
    (settle least message input).unnamed = settle least message input := by
  unfold settle
  split <;> rfl

end Plan

namespace Grammar

variable {g : Grammar}

open Plan in
/-- Without names, a node asks for the same as before, but without names.  A node that is itself a
name is gone. -/
lemma plan_unnamed (g : Grammar) (task : Task) (h : ∀ p name, task.expr ≠ .named p name) :
    g.unnamed.plan task.unnamed = (g.plan task).unnamed := by
  obtain ⟨d, e, i⟩ := task
  cases e with
  | andThen p q => exact (unnamed_both d p q i _).symm
  | takeFirst p q => exact (unnamed_both d p q i _).symm
  | takeSecond p q => exact (unnamed_both d p q i _).symm
  | sequence ps =>
    cases ps with
    | nil => rfl
    | cons p ps => exact (unnamed_both d p (.sequence ps) i _).symm
  | times n p =>
    cases n with
    | zero => rfl
    | succ n => exact (unnamed_both d p (.times n p) i _).symm
  | alt ps =>
    match ps with
    | [] => rfl
    | [p] => rfl
    | p :: q :: ps =>
      show ask _ _ = ask _ _
      congr 1
      funext r
      cases r <;> rfl
  | manyM least p =>
    show ask _ _ = ask _ _
    congr 1
    funext r
    cases r with
    | err m => exact (unnamed_settle _ _ _).symm
    | ok v rest =>
      dsimp only
      split
      · exact (unnamed_follow ⟨d, .manyM (least - 1) p, rest⟩ fun w rest' =>
          yield (v.cons w) rest').symm
      · exact (unnamed_settle _ _ _).symm
      · rfl
  | optional p default =>
    show ask _ _ = ask _ _
    congr 1
    funext r
    cases r <;> rfl
  | bind p next =>
    refine Eq.trans ?_ (unnamed_follow ⟨d, p, i⟩ _).symm
    show follow _ _ = follow _ _
    congr 1
    funext v rest
    show (match Expr.madeUnnamed (next v) with | .ok e => _ | .error fault => _) = _
    cases next v <;> rfl
  | named p name => exact (h p name rfl).elim
  | ref name =>
    cases d with
    | zero => rfl
    | succ d =>
      show (match g.unnamed.rule name with | .ok e => _ | .error fault => _) =
        Plan.unnamed (match g.rule name with | .ok e => _ | .error fault => _)
      rw [rule_unnamed]
      cases g.rule name <;> rfl
  | _ => rfl

end Grammar

/-! ### Runs that agree -/

namespace Effect

variable {α β : Type}

/-- Whether an effect from one flag and another effect from another flag cannot be told apart but by
the trace: they have the same outcome and the same record of calls, and if they start with the same
flag, they end with the same flag. -/
structure Agree (x y : Effect α) (t t' : Bool) : Prop where
  /-- The outcome is the same. -/
  outcome : (y t').outcome = (x t).outcome
  /-- The calls are the same. -/
  calls : (y t').calls = (x t).calls
  /-- The flag at the end is the same if it is at the start. -/
  tracing : t = t' → (y t').tracing = (x t).tracing

variable {x y z : Effect α} {t t' : Bool}

/-- What does not look at the flag agrees with itself. -/
lemma agree_ofExcept (o : Except Fault α) : Agree (ofExcept o) (ofExcept o) t t' :=
  ⟨rfl, rfl, Eq.symm⟩

lemma agree_emit (event : Event) : Agree (emit event) (emit event) t t' :=
  ⟨rfl, rfl, Eq.symm⟩

lemma agree_setTracing (on : Bool) : Agree (setTracing on) (setTracing on) t t' :=
  ⟨rfl, rfl, fun _ => rfl⟩

/-- Effects that agree still do if they go on with effects that agree. -/
lemma Agree.bind {k l : α → Effect β} (h : Agree x y t t')
    (hk : ∀ a, (x t).outcome = .ok a → Agree (k a) (l a) (x t).tracing (y t').tracing) :
    Agree (x >>= k) (y >>= l) t t' := by
  cases hx : (x t).outcome with
  | error fault =>
    have hy : (y t').outcome = .error fault := h.outcome.trans hx
    constructor <;> rw [bind_run, bind_run, continueWith_of_error hx, continueWith_of_error hy]
    · exact h.calls
    · exact h.tracing
  | ok a =>
    have hy : (y t').outcome = .ok a := h.outcome.trans hx
    have next : Agree (k a) (l a) (x t).tracing (y t').tracing := hk a hx
    constructor <;> rw [bind_run, bind_run, continueWith_of_ok hx, continueWith_of_ok hy]
    · exact next.outcome
    · have calls : (x t).calls ++ (k a (x t).tracing).calls =
          (y t').calls ++ (l a (y t').tracing).calls := by rw [h.calls, next.calls]
      simpa only [Run.calls, List.filterMap_append] using calls.symm
    · exact fun ht => next.tracing (h.tracing ht).symm

end Effect

namespace Parser

/-- A trace that can be written adds nothing to a run but records. -/
lemma named_true_of_isWritable {p : Parser Value} {name : Text} {input : Value}
    (hopen : (Event.tried name input).isWritable = true)
    (hclose : ∀ r, (p input true).outcome = .ok r → (closing name r).isWritable = true) :
    ∃ events, events.filterMap Event.call? = (p input true).calls ∧
      p.named name input true = ⟨(p input true).outcome, (p input true).tracing, events⟩ := by
  rw [named_true, if_pos hopen]
  rcases hrun : p input true with ⟨fault | r, t, events⟩
  · exact ⟨.tried name input :: events, rfl, rfl⟩
  · have noCall : (closing name r).call? = none := by cases r <;> rfl
    refine ⟨.tried name input :: (events ++ [closing name r]), ?_, ?_⟩
    · rw [List.filterMap_cons_none rfl, List.filterMap_append, List.filterMap_cons_none noCall,
        List.filterMap_nil, List.append_nil]
      rfl
    · dsimp only
      rw [if_pos (hclose r (congrArg Run.outcome hrun))]

/-- A named parser whose trace can be written does what the parser does. -/
lemma agree_named {p q : Parser Value} {name : Text} {input : Value} {t t' : Bool}
    (h : Effect.Agree (p input) (q input) t t')
    (hw : t = true → (Event.tried name input).isWritable = true ∧
      ∀ r, (p input true).outcome = .ok r → (closing name r).isWritable = true) :
    Effect.Agree (p.named name input) (q input) t t' := by
  cases t with
  | false => exact ⟨h.outcome, h.calls, h.tracing⟩
  | true =>
    obtain ⟨hopen, hclose⟩ := hw rfl
    obtain ⟨events, hcalls, hrun⟩ := named_true_of_isWritable hopen hclose
    constructor <;> rw [hrun]
    · exact h.outcome
    · exact h.calls.trans hcalls.symm
    · exact h.tracing

end Parser

namespace Grammar

variable {g : Grammar}

/-- Carrying out a plan without names agrees with carrying it out with them, if that is so of what
it calls. -/
lemma agree_carryOut {plan : Plan} {t t' : Bool}
    (h : ∀ job, plan.Calls g t job → ∀ t'',
      Effect.Agree (g.run job.task) (g.unnamed.run job.task.unnamed) job.tracing t'') :
    Effect.Agree (g.carryOut plan) (g.unnamed.carryOut plan.unnamed) t t' := by
  induction plan generalizing t t' with
  | finish outcome => exact Effect.agree_ofExcept outcome
  | ask task next ih =>
    simp only [carryOut_ask, Plan.unnamed]
    refine (h _ .first t').bind ?_
    intro r hr
    refine ih r ?_
    intro job hjob
    exact h job (.later hr hjob)

/-- A job whose trace can be written calls what its plan asks for. -/
lemma opens_of_traceable {job : Job} (h : g.Traceable job) : job.Opens := by
  obtain ⟨⟨d, e, i⟩, tracing⟩ := job
  cases e with
  | named p name =>
    cases tracing with
    | true => exact h.1
    | false => trivial
  | _ => trivial

/-- **Names do nothing to a run but trace it.** -/
lemma agree_run (g : Grammar) (task : Task) : ∀ t t',
    (∀ job, g.Contains ⟨task, t⟩ job → g.Traceable job) →
    Effect.Agree (g.run task) (g.unnamed.run task.unnamed) t t' := by
  induction task using g.task_induction with
  | step task ih =>
    intro t t' htrace
    have called : ∀ job, (g.plan task).Calls g t job → ∀ t'',
        Effect.Agree (g.run job.task) (g.unnamed.run job.task.unnamed) job.tracing t'' := by
      intro job hjob t''
      have hcall : g.Calls ⟨task, t⟩ job := ⟨opens_of_traceable (htrace _ .refl), hjob⟩
      exact ih job.task hjob.asks job.tracing t'' fun job' hin => htrace job' (.head hcall hin)
    obtain ⟨d, e, i⟩ := task
    by_cases hnamed : ∃ p name, e = .named p name
    · -- without its name, the task is that of the part
      obtain ⟨p, name, rfl⟩ := hnamed
      rw [run_named]
      refine Parser.agree_named (called _ .first t') ?_
      intro ht
      subst ht
      exact htrace _ .refl
    · -- any other node has the same plan as before, up to the names in what it asks for
      rw [run_eq g, run_eq g.unnamed, plan_unnamed g _ fun p name h => hnamed ⟨p, name, h⟩]
      have plans : Effect.Agree (g.carryOut (g.plan ⟨d, e, i⟩))
          (g.unnamed.carryOut (g.plan ⟨d, e, i⟩).unnamed) t t' := agree_carryOut called
      cases e with
      | named p name => exact (hnamed ⟨p, name, rfl⟩).elim
      -- the nodes that do something besides carrying out their plan
      | spy p label => exact (Effect.agree_emit _).bind fun _ _ => plans
      | setTracing on => exact (Effect.agree_setTracing on).bind fun _ _ => Effect.agree_ofExcept _
      | _ => exact plans

end Grammar

/-! ### Runs without a trace -/

namespace Run

/-- Whether a run leaves tracing off and no trace. -/
def IsQuiet {α : Type} (r : Run α) : Prop :=
  r.tracing = false ∧ r.trace = []

end Run

namespace Effect

variable {α β : Type}

lemma isQuiet_bind {x : Effect α} {k : α → Effect β} (hx : (x false).IsQuiet)
    (hk : ∀ a, (k a false).IsQuiet) : ((x >>= k) false).IsQuiet := by
  obtain ⟨htracing, htrace⟩ := hx
  cases hout : (x false).outcome with
  | error fault =>
    rw [bind_run, continueWith_of_error hout]
    exact ⟨htracing, htrace⟩
  | ok a =>
    rw [bind_run, continueWith_of_ok hout, htracing]
    refine ⟨(hk a).1, ?_⟩
    rw [Run.trace, List.filterMap_append]
    exact List.append_eq_nil_iff.mpr ⟨htrace, (hk a).2⟩

end Effect

namespace Grammar

variable {g : Grammar}

lemma isQuiet_carryOut {plan : Plan} (h : ∀ task, plan.Asks task → (g.run task false).IsQuiet) :
    (g.carryOut plan false).IsQuiet := by
  induction plan with
  | finish outcome => exact ⟨rfl, rfl⟩
  | ask task next ih =>
    rw [carryOut_ask]
    refine Effect.isQuiet_bind (h task (.inl rfl)) ?_
    intro r
    refine ih r ?_
    intro task' h'
    exact h task' (.inr ⟨r, h'⟩)

/-- What nobody turns on stays off. -/
lemma isQuiet_run (hg : g.Leaves Expr.KeepsFlag) (task : Task) :
    task.expr.Leaves Expr.KeepsFlag → (g.run task false).IsQuiet := by
  induction task using g.task_induction with
  | step task ih =>
    intro he
    have quiet : (g.carryOut (g.plan task) false).IsQuiet :=
      isQuiet_carryOut fun task' h => ih task' h (leaves_of_asks hg h he)
    rw [run_eq]
    obtain ⟨d, e, i⟩ := task
    cases e with
    | spy p label => exact Effect.isQuiet_bind ⟨rfl, rfl⟩ fun _ => quiet
    | setTracing on => exact he.elim
    | _ => exact quiet

/-- **Tracing is transparent.**  Where the trace can be written, an expression from one flag and the
unnamed expression from another come to the same outcome with the same calls in the same order, and
from the same flag also to the same flag.  Without leaves that turn tracing on, a run that starts
with tracing off leaves no trace. -/
theorem unnamed_agrees (g : Grammar) (e : Expr) (input : Value) (t t' : Bool)
    (h : ∀ job, g.Contains ⟨⟨maxDepth, e, input⟩, t⟩ job → g.Traceable job) :
    (g.unnamed.parser e.unnamed input t').outcome = (g.parser e input t).outcome ∧
    (g.unnamed.parser e.unnamed input t').calls = (g.parser e input t).calls ∧
    (t = t' → (g.unnamed.parser e.unnamed input t').tracing = (g.parser e input t).tracing) ∧
    (g.Leaves Expr.KeepsFlag → e.Leaves Expr.KeepsFlag → (g.parser e input false).trace = []) := by
  have agree := agree_run g ⟨maxDepth, e, input⟩ t t' h
  exact ⟨agree.outcome, agree.calls, agree.tracing,
    fun hg he => (isQuiet_run hg ⟨maxDepth, e, input⟩ he).2⟩

/-- A letter with a name and a label. -/
def namedLetter : Expr :=
  .named (.spy (.char (.unit 'a')) ['s']) ['n']

theorem unnamed_agrees_namedLetter :
    (({} : Grammar).parser namedLetter (.text ['a', 'b']) true).trace =
      ["trying n on 'ab'".toList, "n matched 'a', rest 'b'".toList] ∧
    (({} : Grammar).unnamed.parser namedLetter.unnamed (.text ['a', 'b']) false).trace = [] ∧
    (({} : Grammar).unnamed.parser namedLetter.unnamed (.text ['a', 'b']) false).outcome =
      (({} : Grammar).parser namedLetter (.text ['a', 'b']) true).outcome := by
  refine ⟨by decide, by decide, (unnamed_agrees {} namedLetter (.text ['a', 'b']) true false ?_).1⟩
  intro job hin
  obtain rfl | ⟨called, ⟨-, hcall⟩, hin⟩ := Relation.ReflTransGen.cases_head hin
  · refine ⟨rfl, fun r hr => ?_⟩
    cases hr
    rfl
  · cases hcall with
    | later hr hc => cases hc
    | first =>
      obtain rfl | ⟨called, ⟨-, hcall⟩, hin⟩ := Relation.ReflTransGen.cases_head hin
      · trivial
      · cases hcall with
        | later hr hc => cases hc
        | first =>
          cases eq_of_contains (fun _ => id) hin
          trivial

/-! ### The flag and the outcome -/

/-- A named parser ends in a fault if there is to be a trace that cannot be written. -/
lemma untraceable_of_not_traceable {job : Job} (h : ¬ g.Traceable job) :
    (g.runJob job).outcome = .error .untraceable := by
  obtain ⟨⟨d, e, i⟩, tracing⟩ := job
  cases e with
  | named p name =>
    cases tracing with
    | false => exact absurd trivial h
    | true =>
      rw [runJob, run_named, Parser.named_true]
      split
      · rename_i hopen
        rcases hrun : g.run ⟨d, p, i⟩ true with ⟨fault | r, t, events⟩
        · refine absurd ⟨hopen, fun r hr => ?_⟩ h
          rw [hrun] at hr
          cases hr
        · dsimp only
          split
          · rename_i hclose
            refine absurd ⟨hopen, fun r' hr => ?_⟩ h
            rw [hrun] at hr
            cases hr
            exact hclose
          · rfl
      · rfl
  | _ => exact absurd trivial h

/-- What a plan calls ends it with its fault. -/
lemma outcome_carryOut_of_calls {plan : Plan} {tracing : Bool} {job : Job} {fault : Fault}
    (h : plan.Calls g tracing job) (hfault : (g.runJob job).outcome = .error fault) :
    (g.carryOut plan tracing).outcome = .error fault := by
  induction h with
  | first =>
    rw [carryOut_ask, Effect.bind_run]
    exact congrArg Run.outcome (Effect.continueWith_of_error hfault _)
  | later hr _ ih =>
    rw [carryOut_ask, Effect.bind_run, Effect.continueWith_of_ok hr]
    exact ih hfault

/-- A record that cannot be written anywhere within a run is the end of all of it. -/
lemma untraceable_of_contains {job job' : Job} (hin : g.Contains job job')
    (h : ¬ g.Traceable job') : (g.runJob job).outcome = .error .untraceable := by
  induction hin using Relation.ReflTransGen.head_induction_on with
  | refl => exact untraceable_of_not_traceable h
  | @head job called hcall _ ih =>
    rcases g.outcome_runJob job with ⟨hout, -⟩ | ⟨hout, -⟩
    · exact hout.trans (outcome_carryOut_of_calls hcall.2 ih)
    · exact hout

/-- The flag at the start of a run matters to its outcome only if there is a record that cannot be
written. -/
theorem outcome_run_of_flags (g : Grammar) (task : Task) (t t' : Bool) :
    (g.run task t).outcome = .error .untraceable ∨
      (g.run task t').outcome = .error .untraceable ∨
      (g.run task t').outcome = (g.run task t).outcome := by
  by_cases h : ∀ job, g.Contains ⟨task, t⟩ job → g.Traceable job
  · by_cases h' : ∀ job, g.Contains ⟨task, t'⟩ job → g.Traceable job
    · -- both runs agree with the one without names
      exact .inr (.inr ((agree_run g task t' t' h').outcome.symm.trans
        (agree_run g task t t' h).outcome))
    · obtain ⟨job, hjob⟩ := Classical.not_forall.mp h'
      obtain ⟨hin, hnot⟩ := Classical.not_imp.mp hjob
      exact .inr (.inl (untraceable_of_contains hin hnot))
  · obtain ⟨job, hjob⟩ := Classical.not_forall.mp h
    obtain ⟨hin, hnot⟩ := Classical.not_imp.mp hjob
    exact .inl (untraceable_of_contains hin hnot)

end Grammar

end GrammarKit
