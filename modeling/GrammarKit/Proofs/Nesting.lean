/-
# The trace is well nested

The records of a trace are brackets: the run of a named parser opens one, and its result closes it.
`Nested` is the grammar of properly bracketed words, in which every pair belongs to an invocation
that is given as a parameter; `Cut` is that of the words that break off within some of the brackets.

`Grammar.WellNested` says that the trace of a run that comes to a result is such a word, in which
each pair encloses the records of one invocation and is closed by what that invocation returned.  If
the run ends in a fault, its trace breaks off within the brackets of the traced invocations that the
fault has passed through, and `Grammar.Unwinds` says which these are.  By
`Grammar.records_of_contains` no traced invocation is left out.

The flag may be turned on or off between the opening and the closing of a bracket.  This does no
harm, as a named parser looks at the flag once, at its start.
-/
import GrammarKit.Proofs.Job

namespace GrammarKit

/-- Whether an event is a record of the trace. -/
def Event.isRecord : Event → Bool
  | .tried .. | .matched .. | .failed .. => true
  | _ => false

/-- The records are the events that have a message in the trace. -/
lemma Event.isRecord_eq (event : Event) : event.isRecord = event.trace?.isSome := by
  cases event <;> rfl

/-- The events of a run that belong to its trace. -/
def Run.records {α : Type} (r : Run α) : List Event :=
  r.events.filter Event.isRecord

/-- The trace of a run consists of the messages of its records. -/
lemma Run.trace_eq {α : Type} (r : Run α) : r.trace = r.records.filterMap Event.trace? := by
  rw [records, List.filterMap_filter]
  refine congrArg (List.filterMap · r.events) (funext fun event => ?_)
  rw [Event.isRecord_eq]
  cases event.trace? <;> rfl

/-! ### Bracketed words -/

/-- The records that can close the bracket of an invocation with a name: on a success, the one that
tells its value and its rest, and on a failure, the one that tells its message. -/
inductive Event.Closes (name : Text) : Result Value → Event → Prop where
  | matched (v rest : Value) : Closes name (.ok v rest) (.matched name v rest)
  | failed (m : Value) : Closes name (.err m) (.failed name m)

/-- What a named parser adds to the trace at its end closes its bracket. -/
lemma Event.closes_closing (name : Text) (r : Result Value) :
    Event.Closes name r (Parser.closing name r) := by
  cases r with
  | ok v rest => exact .matched v rest
  | err m => exact .failed m

section

variable (Invoked : Text → Value → List Event → Result Value → Prop)

/-- Properly bracketed words of records: whatever is opened is closed under the same name, and
nothing else is.  Each pair, with the records inside and the result that closes it, is that of an
invocation. -/
inductive Nested : List Event → Prop where
  /-- Nothing. -/
  | nil : Nested []
  /-- A pair of records around a word, and another word behind it. -/
  | pair {name : Text} {input : Value} {inner later : List Event} {r : Result Value} {last : Event}
    (hlast : Event.Closes name r last) (hinner : Nested inner)
    (hinvoked : Invoked name input inner r) (hlater : Nested later) :
    Nested (.tried name input :: (inner ++ last :: later))

/-- Words of records that break off within some brackets, whose names and inputs are listed from the
outermost to the innermost. -/
inductive Cut : List (Text × Value) → List Event → Prop where
  /-- A word that is not within any bracket. -/
  | closed {w : List Event} (h : Nested Invoked w) : Cut [] w
  /-- A word, a bracket that is not closed, and what breaks off within it. -/
  | opened {name : Text} {input : Value} {inside : List (Text × Value)} {w w' : List Event}
    (h : Nested Invoked w) (h' : Cut inside w') :
    Cut ((name, input) :: inside) (w ++ .tried name input :: w')

end

section

variable {R S : Text → Value → List Event → Result Value → Prop} {w w' : List Event}
  {opened : List (Text × Value)}

lemma Nested.mono (hRS : ∀ name i inner r, R name i inner r → S name i inner r)
    (h : Nested R w) : Nested S w := by
  induction h with
  | nil => exact .nil
  | pair hlast _ hr _ ihinner ihlater => exact .pair hlast ihinner (hRS _ _ _ _ hr) ihlater

lemma Nested.append (h : Nested R w) (h' : Nested R w') : Nested R (w ++ w') := by
  induction h with
  | nil => exact h'
  | pair hlast hinner hr _ _ ihlater =>
    rw [List.cons_append, List.append_assoc, List.cons_append]
    exact .pair hlast hinner hr ihlater

lemma Cut.mono (hRS : ∀ name i inner r, R name i inner r → S name i inner r)
    (h : Cut R opened w) : Cut S opened w := by
  induction h with
  | closed h => exact .closed (h.mono hRS)
  | opened h _ ih => exact .opened (h.mono hRS) ih

lemma Nested.append_cut (h : Nested R w) (h' : Cut R opened w') : Cut R opened (w ++ w') := by
  cases h' with
  | closed h' => exact .closed (h.append h')
  | opened h' hcut =>
    rw [← List.append_assoc]
    exact .opened (h.append h') hcut

/-- What breaks off can be completed to a bracketed word. -/
lemma Cut.completes (h : Cut R opened w) :
    ∃ w', Nested (fun _ _ _ _ => True) (w ++ w') := by
  induction h with
  | @closed w h =>
    refine ⟨[], ?_⟩
    rw [List.append_nil]
    exact h.mono fun _ _ _ _ _ => trivial
  | @opened name _ _ w v h _ ih =>
    obtain ⟨v', hv⟩ := ih
    refine ⟨v' ++ [.failed name .null], ?_⟩
    rw [List.append_assoc, List.cons_append, ← List.append_assoc v]
    exact (h.mono fun _ _ _ _ _ => trivial).append (.pair (.failed .null) hv trivial .nil)

end

/-! ### The brackets of a run -/

/-- The bracket that a job opens: that of a named parser if tracing is on at its start and its input
can be written. -/
def Job.opening (job : Job) : List (Text × Value) :=
  match job.task.expr, job.tracing with
  | .named _ name, true =>
    if (Event.tried name job.task.input).isWritable then [(name, job.task.input)] else []
  | _, _ => []

/-- Whether a job is that of a named parser with tracing on at its start. -/
def Job.IsTraced (job : Job) : Prop :=
  (∃ p name, job.task.expr = .named p name) ∧ job.tracing = true

/-- A job that is not traced is run in any case, and opens no bracket. -/
lemma Job.opens_of_not_isTraced {job : Job} (h : ¬ job.IsTraced) :
    job.Opens ∧ job.opening = [] := by
  obtain ⟨⟨d, e, i⟩, tracing⟩ := job
  cases e with
  | named p name =>
    cases tracing with
    | true => exact absurd ⟨⟨p, name, rfl⟩, rfl⟩ h
    | false => exact ⟨trivial, rfl⟩
  | _ => exact ⟨trivial, rfl⟩

namespace Grammar

variable (g : Grammar)

/-- Whether a job contains an invocation of a named parser with the given name and input, traced
from its start, that returned the given result and left the given records inside its bracket. -/
def Invoked (job : Job) (name : Text) (input : Value) (inner : List Event) (r : Result Value) :
    Prop :=
  ∃ d p last, g.Contains job ⟨⟨d, .named p name, input⟩, true⟩ ∧
    (g.runJob ⟨⟨d, .named p name, input⟩, true⟩).outcome = .ok r ∧ Event.Closes name r last ∧
    (g.runJob ⟨⟨d, .named p name, input⟩, true⟩).records = .tried name input :: (inner ++ [last])

/-- The way of a fault out of the job that raised it, through the jobs that called it, up to the
given one; the list is that of the brackets on the way, the outermost first. -/
inductive Unwinds (fault : Fault) : Job → List (Text × Value) → Prop where
  /-- The job raises the fault itself. -/
  | raised {job : Job} (h : (g.runJob job).outcome = .error fault)
    (hc : ∀ job', g.Calls job job' → ∀ fault', (g.runJob job').outcome ≠ .error fault') :
    Unwinds fault job job.opening
  /-- The fault passes through the job. -/
  | passed {job job' : Job} {opened : List (Text × Value)}
    (h : (g.runJob job).outcome = .error fault) (hcall : g.Calls job job')
    (h' : Unwinds fault job' opened) : Unwinds fault job (job.opening ++ opened)

/-- Whether the trace of a job is well nested: a bracketed word if it comes to a result, and if it
ends in a fault, a word that breaks off within the brackets that the fault has passed. -/
def WellNested (job : Job) : Prop :=
  match (g.runJob job).outcome with
  | .ok _ => Nested (g.Invoked job) (g.runJob job).records
  | .error fault =>
    ∃ opened, g.Unwinds fault job opened ∧ Cut (g.Invoked job) opened (g.runJob job).records

variable {g} {job job' : Job} {fault : Fault}

lemma Unwinds.outcome {opened : List (Text × Value)} (h : g.Unwinds fault job opened) :
    (g.runJob job).outcome = .error fault := by
  cases h with
  | raised h _ => exact h
  | passed h _ _ => exact h

/-- Only one of the jobs that a plan calls can end in a fault, which is the last one. -/
lemma eq_of_calls_of_error {plan : Plan} {tracing : Bool} {fault' : Fault}
    (h : plan.Calls g tracing job) (h' : plan.Calls g tracing job')
    (hf : (g.runJob job).outcome = .error fault) (hf' : (g.runJob job').outcome = .error fault') :
    job = job' := by
  induction h with
  | first =>
    cases h' with
    | first => rfl
    | later hr _ => cases hf.symm.trans hr
  | later hr _ ih =>
    cases h' with
    | first => cases hf'.symm.trans hr
    | later hr' hc' =>
      cases hr.symm.trans hr'
      exact ih hc' hf

/-- A fault has one way out only. -/
theorem Unwinds.unique {opened opened' : List (Text × Value)} (h : g.Unwinds fault job opened)
    (h' : g.Unwinds fault job opened') : opened = opened' := by
  -- both ways go through the same jobs, as no job calls two that end in a fault
  induction h generalizing opened' with
  | raised hf hc =>
    cases h' with
    | raised _ _ => rfl
    | passed _ hcall hin => exact absurd hin.outcome (hc _ hcall _)
  | passed hf hcall hin ih =>
    cases h' with
    | raised _ hc => exact absurd hin.outcome (hc _ hcall _)
    | passed _ hcall' hin' =>
      obtain rfl := eq_of_calls_of_error hcall.2 hcall'.2 hin.outcome hin'.outcome
      rw [ih hin']

/-- What is invoked within a job is invoked within whatever calls the job. -/
lemma Invoked.of_calls (hcall : g.Calls job job') (name : Text) (i : Value) (inner : List Event)
    (r : Result Value) (h : g.Invoked job' name i inner r) : g.Invoked job name i inner r := by
  obtain ⟨d, p, last, hin, hrun⟩ := h
  exact ⟨d, p, last, .head hcall hin, hrun⟩

lemma wellNested_of_ok {r : Result Value} (h : (g.runJob job).outcome = .ok r)
    (hw : Nested (g.Invoked job) (g.runJob job).records) : g.WellNested job := by
  rw [WellNested, h]
  exact hw

lemma wellNested_of_error {opened : List (Text × Value)} (h : g.Unwinds fault job opened)
    (hw : Cut (g.Invoked job) opened (g.runJob job).records) : g.WellNested job := by
  rw [WellNested, h.outcome]
  exact ⟨opened, h, hw⟩

/-- The records of a plan that is carried out: bracketed words one after the other, and those of the
job that ends in a fault, if there is one. -/
lemma records_carryOut {R : Text → Value → List Event → Result Value → Prop} {plan : Plan}
    {tracing : Bool}
    (h : ∀ job, plan.Calls g tracing job → ∀ r, (g.runJob job).outcome = .ok r →
      Nested R (g.runJob job).records) :
    ∃ w, Nested R w ∧
      ((g.carryOut plan tracing).records = w ∧
        (∀ job, plan.Calls g tracing job → ∃ r, (g.runJob job).outcome = .ok r) ∨
      ∃ job fault, plan.Calls g tracing job ∧ (g.runJob job).outcome = .error fault ∧
        (g.carryOut plan tracing).outcome = .error fault ∧
        (g.carryOut plan tracing).records = w ++ (g.runJob job).records) := by
  induction plan generalizing tracing with
  | finish outcome => exact ⟨[], .nil, .inl ⟨rfl, fun _ hc => nomatch hc⟩⟩
  | ask task next ih =>
    cases hrun : (g.run task tracing).outcome with
    | error fault =>
      have run : g.carryOut (.ask task next) tracing =
          ⟨.error fault, (g.run task tracing).tracing, (g.run task tracing).events⟩ := by
        rw [carryOut_ask, Effect.bind_run, Effect.continueWith_of_error hrun]
      exact ⟨[], .nil, .inr ⟨⟨task, tracing⟩, fault, .first, hrun, congrArg Run.outcome run,
        (congrArg Run.records run :)⟩⟩
    | ok r =>
      have run : (g.carryOut (.ask task next) tracing).outcome =
            (g.carryOut (next r) (g.run task tracing).tracing).outcome ∧
          (g.carryOut (.ask task next) tracing).records = (g.run task tracing).records ++
            (g.carryOut (next r) (g.run task tracing).tracing).records := by
        rw [carryOut_ask, Effect.bind_run, Effect.continueWith_of_ok hrun]
        exact ⟨rfl, List.filter_append _ _⟩
      have first : Nested R (g.run task tracing).records := h ⟨task, tracing⟩ .first r hrun
      obtain ⟨w, hw, hcases⟩ := ih r fun job hjob => h job (.later hrun hjob)
      refine ⟨(g.run task tracing).records ++ w, first.append hw, ?_⟩
      rw [run.1, run.2]
      rcases hcases with ⟨hrec, hok⟩ | ⟨job, fault, hjob, hfault, hout, hrec⟩
      · refine .inl ⟨by rw [hrec], ?_⟩
        intro job hjob
        cases hjob with
        | first => exact ⟨r, hrun⟩
        | later hr hc =>
          cases hrun.symm.trans hr
          exact hok job hc
      · refine .inr ⟨job, fault, .later hrun hjob, hfault, hout, ?_⟩
        rw [hrec, List.append_assoc]

/-- A job that is not traced has the outcome and the records of its plan. -/
lemma runJob_of_not_isTraced (h : ¬ job.IsTraced) :
    (g.runJob job).outcome = (g.carryOut (g.plan job.task) job.tracing).outcome ∧
      (g.runJob job).records = (g.carryOut (g.plan job.task) job.tracing).records := by
  obtain ⟨⟨d, e, i⟩, tracing⟩ := job
  cases e with
  | named p name =>
    cases tracing with
    | true => exact absurd ⟨⟨p, name, rfl⟩, rfl⟩ h
    | false =>
      rw [runJob, run_named, Parser.named_false, plan, carryOut_pass]
      exact ⟨rfl, rfl⟩
  | _ =>
    rw [runJob, run_eq]
    exact ⟨rfl, rfl⟩

/-- A job that is not traced is well nested if what it calls is. -/
lemma wellNested_of_not_isTraced (h : ¬ job.IsTraced)
    (ih : ∀ job', g.Calls job job' → g.WellNested job') : g.WellNested job := by
  obtain ⟨hopen, hopening⟩ := Job.opens_of_not_isTraced h
  obtain ⟨hout, hrec⟩ := runJob_of_not_isTraced (g := g) h
  have called : ∀ job', (g.plan job.task).Calls g job.tracing job' → g.Calls job job' :=
    fun _ hjob => ⟨hopen, hjob⟩
  obtain ⟨w, hw, ⟨hrun, hok⟩ | ⟨job', fault, hjob, hfault, hrun, hrun'⟩⟩ :=
    records_carryOut fun job' hjob r hr => by
      have nested := ih job' (called job' hjob)
      rw [WellNested, hr] at nested
      exact nested.mono (Invoked.of_calls (called job' hjob))
  · -- everything that is called comes to a result, and a fault can only be the job's own
    cases houtcome : (g.runJob job).outcome with
    | ok r => exact wellNested_of_ok houtcome (by rwa [hrec, hrun])
    | error fault =>
      have raised : g.Unwinds fault job job.opening := by
        refine .raised houtcome ?_
        intro job' hcall fault' hf
        obtain ⟨r, hr⟩ := hok job' hcall.2
        cases hf.symm.trans hr
      refine wellNested_of_error raised ?_
      rw [hopening, hrec, hrun]
      exact .closed hw
  · -- what is called last ends in the fault, which passes through
    have nested := ih job' (called job' hjob)
    rw [WellNested, hfault] at nested
    obtain ⟨opened, hunwinds, hcut⟩ := nested
    refine wellNested_of_error (.passed (hout.trans hrun) (called job' hjob) hunwinds) ?_
    rw [hopening, hrec, hrun']
    exact hw.append_cut (hcut.mono (Invoked.of_calls (called job' hjob)))

/-- How the run of a named parser that is traced comes from that of its part: it ends in the same
fault, or with the same result and a record of it, or in a fault as there can be no such record. -/
lemma runJob_traced (d : Nat) (p : Expr) {name : Text} {i : Value}
    (hopen : (Event.tried name i).isWritable = true) :
    (∃ fault, (g.runJob ⟨⟨d, p, i⟩, true⟩).outcome = .error fault ∧
      (g.runJob ⟨⟨d, .named p name, i⟩, true⟩).outcome = .error fault ∧
      (g.runJob ⟨⟨d, .named p name, i⟩, true⟩).records =
        .tried name i :: (g.runJob ⟨⟨d, p, i⟩, true⟩).records) ∨
    (∃ r, (g.runJob ⟨⟨d, p, i⟩, true⟩).outcome = .ok r ∧
      (g.runJob ⟨⟨d, .named p name, i⟩, true⟩).outcome = .ok r ∧
      (g.runJob ⟨⟨d, .named p name, i⟩, true⟩).records =
        .tried name i :: ((g.runJob ⟨⟨d, p, i⟩, true⟩).records ++ [Parser.closing name r])) ∨
    ∃ r, (g.runJob ⟨⟨d, p, i⟩, true⟩).outcome = .ok r ∧
      (g.runJob ⟨⟨d, .named p name, i⟩, true⟩).outcome = .error .untraceable ∧
      (g.runJob ⟨⟨d, .named p name, i⟩, true⟩).records =
        .tried name i :: (g.runJob ⟨⟨d, p, i⟩, true⟩).records := by
  have run : g.runJob ⟨⟨d, .named p name, i⟩, true⟩ = _ :=
    Parser.named_true (fun _ => g.run ⟨d, p, i⟩) name i
  have part : g.runJob ⟨⟨d, p, i⟩, true⟩ = g.run ⟨d, p, i⟩ true := rfl
  rw [if_pos hopen] at run
  rw [run, part]
  rcases g.run ⟨d, p, i⟩ true with ⟨fault | r, t, events⟩
  · exact .inl ⟨fault, rfl, rfl, rfl⟩
  · by_cases hclose : (Parser.closing name r).isWritable = true
    · have closing : [Parser.closing name r].filter Event.isRecord = [Parser.closing name r] := by
        cases r <;> rfl
      refine .inr (.inl ⟨r, rfl, ?_, ?_⟩)
      · simp only [hclose, if_true]
      · simp only [hclose, if_true, Run.records]
        rw [List.filter_cons_of_pos rfl, List.filter_append, closing]
    · refine .inr (.inr ⟨r, rfl, ?_, ?_⟩)
      · simp only [if_neg hclose]
      · simp only [if_neg hclose]
        rfl

/-- A named parser that is traced puts a bracket around the records of its part. -/
lemma wellNested_named {d : Nat} {p : Expr} {name : Text} {i : Value}
    (ih : g.WellNested ⟨⟨d, p, i⟩, true⟩) : g.WellNested ⟨⟨d, .named p name, i⟩, true⟩ := by
  by_cases hopen : (Event.tried name i).isWritable = true
  · have hcall : g.Calls ⟨⟨d, .named p name, i⟩, true⟩ ⟨⟨d, p, i⟩, true⟩ := ⟨hopen, .first⟩
    have hopening : Job.opening ⟨⟨d, .named p name, i⟩, true⟩ = [(name, i)] := if_pos hopen
    rcases runJob_traced (g := g) d p hopen with
      ⟨fault, hpart, hout, hrec⟩ | ⟨r, hpart, hout, hrec⟩ | ⟨r, hpart, hout, hrec⟩
    · -- the bracket stays open, as the fault passes through it
      rw [WellNested, hpart] at ih
      obtain ⟨opened, hunwinds, hcut⟩ := ih
      refine wellNested_of_error (.passed hout hcall hunwinds) ?_
      rw [hopening, hrec]
      exact .opened .nil (hcut.mono (Invoked.of_calls hcall))
    · -- the bracket is closed
      rw [WellNested, hpart] at ih
      refine wellNested_of_ok hout ?_
      have hlast : Event.Closes name r (Parser.closing name r) := Event.closes_closing name r
      rw [hrec]
      exact .pair hlast (Nested.mono (Invoked.of_calls hcall) ih)
        ⟨d, p, _, .refl, hout, hlast, hrec⟩ .nil
    · -- the closing record cannot be written, which is a fault within the bracket
      rw [WellNested, hpart] at ih
      have raised : g.Unwinds .untraceable ⟨⟨d, .named p name, i⟩, true⟩
          (Job.opening ⟨⟨d, .named p name, i⟩, true⟩) := by
        refine .raised hout ?_
        intro job' hcall' fault' hf
        cases hcall'.2 with
        | first => cases hf.symm.trans hpart
        | later _ hc => cases hc
      refine wellNested_of_error raised ?_
      rw [hopening, hrec]
      exact .opened .nil (.closed (Nested.mono (Invoked.of_calls hcall) ih))
  · -- the opening record cannot be written, and there is no bracket
    have run : g.runJob ⟨⟨d, .named p name, i⟩, true⟩ = ⟨.error .untraceable, true, []⟩ :=
      (Parser.named_true (fun _ => g.run ⟨d, p, i⟩) name i).trans (if_neg hopen)
    have raised : g.Unwinds .untraceable ⟨⟨d, .named p name, i⟩, true⟩
        (Job.opening ⟨⟨d, .named p name, i⟩, true⟩) :=
      .raised (congrArg Run.outcome run) fun _ hcall => absurd hcall.1 hopen
    refine wellNested_of_error raised ?_
    rw [show Job.opening ⟨⟨d, .named p name, i⟩, true⟩ = [] from if_neg hopen, run]
    exact .closed .nil

/-- Every job has a well nested trace. -/
lemma wellNested_job (g : Grammar) (task : Task) : ∀ tracing, g.WellNested ⟨task, tracing⟩ := by
  induction task using g.task_induction with
  | step task ih =>
    intro tracing
    have called : ∀ job', g.Calls ⟨task, tracing⟩ job' → g.WellNested job' := fun job' hcall =>
      ih job'.task hcall.asks job'.tracing
    by_cases htraced : Job.IsTraced ⟨task, tracing⟩
    · obtain ⟨d, e, i⟩ := task
      obtain ⟨⟨p, name, rfl⟩, rfl⟩ := htraced
      exact wellNested_named (ih ⟨d, p, i⟩ (.inl rfl) true)
    · exact wellNested_of_not_isTraced htraced called

/-- **The trace is well nested.**  If a run comes to a result, its records are a bracketed word, in
which every pair is that of an invocation in the run, which returned what the closing record says.
If it ends in a fault, the records break off within the brackets of the traced invocations that the
fault has passed through, and they can be completed to a bracketed word. -/
theorem records_wellNested (g : Grammar) (e : Expr) (input : Value) (tracing : Bool) :
    match (g.parser e input tracing).outcome with
    | .ok _ =>
      Nested (g.Invoked ⟨⟨maxDepth, e, input⟩, tracing⟩) (g.parser e input tracing).records
    | .error fault => ∃ opened, g.Unwinds fault ⟨⟨maxDepth, e, input⟩, tracing⟩ opened ∧
      Cut (g.Invoked ⟨⟨maxDepth, e, input⟩, tracing⟩) opened (g.parser e input tracing).records ∧
      ∃ w, Nested (fun _ _ _ _ => True) ((g.parser e input tracing).records ++ w) := by
  have nested := g.wellNested_job ⟨maxDepth, e, input⟩ tracing
  unfold WellNested at nested
  show match (g.runJob ⟨⟨maxDepth, e, input⟩, tracing⟩).outcome with | .ok _ => _ | .error _ => _
  cases houtcome : (g.runJob ⟨⟨maxDepth, e, input⟩, tracing⟩).outcome with
  | ok r =>
    rw [houtcome] at nested
    exact nested
  | error fault =>
    rw [houtcome] at nested
    obtain ⟨opened, hunwinds, hcut⟩ := nested
    exact ⟨opened, hunwinds, hcut, hcut.completes⟩

/-- A bracket is closed also if tracing has been turned off inside. -/
example : (({} : Grammar).parser (.named (.setTracing false) ['n']) (.text []) true).trace =
    ["trying n on ''".toList, "n matched None, rest ''".toList] := by decide

/-! ### No invocation is left out -/

/-- The records of what a plan calls stand together in the records of the plan. -/
lemma records_infix_carryOut {plan : Plan} {tracing : Bool} (h : plan.Calls g tracing job) :
    (g.runJob job).records <:+: (g.carryOut plan tracing).records := by
  induction h with
  | @first task next tracing =>
    rw [carryOut_ask, Effect.bind_run]
    cases hrun : (g.run task tracing).outcome with
    | error fault =>
      rw [Effect.continueWith_of_error hrun]
      exact List.infix_rfl
    | ok r =>
      rw [Effect.continueWith_of_ok hrun]
      show List.filter _ _ <:+: List.filter _ (_ ++ _)
      rw [List.filter_append]
      exact (List.prefix_append _ _).isInfix
  | @later task next tracing r job hr _ ih =>
    rw [carryOut_ask, Effect.bind_run, Effect.continueWith_of_ok hr]
    refine ih.trans ?_
    show List.filter _ _ <:+: List.filter _ (_ ++ _)
    rw [List.filter_append]
    exact (List.suffix_append _ _).isInfix

/-- A named parser that is traced opens its bracket, and the records of its part stand inside. -/
lemma records_traced (d : Nat) (p : Expr) {name : Text} {i : Value}
    (hopen : (Event.tried name i).isWritable = true) :
    ∃ w, (g.runJob ⟨⟨d, .named p name, i⟩, true⟩).records = .tried name i :: w ∧
      (g.runJob ⟨⟨d, p, i⟩, true⟩).records <+: w := by
  rcases runJob_traced (g := g) d p hopen with
    ⟨_, -, -, hrec⟩ | ⟨_, -, -, hrec⟩ | ⟨_, -, -, hrec⟩
  · exact ⟨_, hrec, List.prefix_rfl⟩
  · exact ⟨_, hrec, List.prefix_append _ _⟩
  · exact ⟨_, hrec, List.prefix_rfl⟩

/-- The records of a job stand together in those of a job that calls it. -/
lemma records_infix_of_calls (hcall : g.Calls job job') :
    (g.runJob job').records <:+: (g.runJob job).records := by
  obtain ⟨hopen, hcalls⟩ := hcall
  have plan := records_infix_carryOut hcalls
  by_cases htraced : job.IsTraced
  · obtain ⟨⟨d, e, i⟩, tracing⟩ := job
    obtain ⟨⟨p, name, rfl⟩, rfl⟩ := htraced
    obtain ⟨w, hrec, hpart⟩ := records_traced (g := g) d p hopen
    rw [Grammar.plan, carryOut_pass] at plan
    rw [hrec]
    exact (plan.trans hpart.isInfix).trans (List.suffix_cons _ _).isInfix
  · rw [(runJob_of_not_isTraced htraced).2]
    exact plan

/-- **Every traced invocation leaves its records.**  Wherever in a run a named parser is started
with tracing on, on an input that can be written, its records stand together in the trace of the
run, from the record that opens its bracket. -/
theorem records_of_contains {d : Nat} {p : Expr} {name : Text} {i : Value}
    (hin : g.Contains job ⟨⟨d, .named p name, i⟩, true⟩)
    (hopen : (Event.tried name i).isWritable = true) :
    ∃ w, (g.runJob ⟨⟨d, .named p name, i⟩, true⟩).records = .tried name i :: w ∧
      .tried name i :: w <:+: (g.runJob job).records := by
  obtain ⟨w, hrec, -⟩ := records_traced (g := g) d p hopen
  refine ⟨w, hrec, ?_⟩
  rw [← hrec]
  -- from the invocation out to the whole run, one call at a time
  induction hin using Relation.ReflTransGen.head_induction_on with
  | refl => exact List.infix_rfl
  | head hcall _ ih => exact ih.trans (records_infix_of_calls hcall)

end Grammar

end GrammarKit
