/-
# What the command shows

The command runs a parser on every line, one after the other, and prints what it comes to.  Parsers
neither print nor warn (`Grammar.isUnseen_expr`), so that what is shown comes from the loop over
the lines alone; and as a format has an answer to every line, the loop always comes to its end.

`Effect.Shows` says what an effect comes to and which lines it prints, from either flag.  It holds
of one line, then of the lines of a source, and then of all sources by induction, where the tallies
are added.  The two texts that are seen of a call, with its status, are `Command.Outcome.ofReports`,
which is stated apart from the command, character by character: `Command.Call.run_of_holds`.  A call
for every choice of format and switches is given by `Command.Options.ofCall_arguments`.
-/
import Mathlib.Data.List.Forall2
import Mathlib.Tactic.Choose
import GrammarKit.Command.Call
import GrammarKit.Proofs.Arguments
import GrammarKit.Proofs.FormatTemplate
import GrammarKit.Proofs.Induction
import GrammarKit.Proofs.Input

namespace GrammarKit

/-! ### Parsers show nothing -/

/-- Whether an event is neither printed nor a warning. -/
def Event.IsUnseen : Event → Prop
  | .printed _ => False
  | .warned _ => False
  | _ => True

/-- Whether all events of an effect are unseen, from either flag. -/
def Effect.IsUnseen {α : Type} (x : Effect α) : Prop :=
  ∀ tracing, ∀ event ∈ (x tracing).events, event.IsUnseen

namespace Effect

variable {α β : Type}

lemma isUnseen_ofExcept (x : Except Fault α) : (ofExcept x).IsUnseen :=
  fun _ => nofun

lemma isUnseen_setTracing (on : Bool) : (setTracing on).IsUnseen :=
  fun _ => nofun

lemma isUnseen_emit {event : Event} (h : event.IsUnseen) : (emit event).IsUnseen :=
  fun _ => List.forall_mem_singleton.mpr h

lemma isUnseen_trace {event : Event} (h : event.IsUnseen) : (trace event).IsUnseen := by
  unfold trace
  split
  · exact isUnseen_emit h
  · exact fun _ => nofun

lemma IsUnseen.bind {x : Effect α} {k : α → Effect β} (hx : x.IsUnseen)
    (hk : ∀ a, (k a).IsUnseen) : (x >>= k).IsUnseen := by
  intro tracing
  rw [bind_run, continueWith]
  split
  · exact hx tracing
  · exact List.forall_mem_append.mpr ⟨hx tracing, hk _ _⟩

end Effect

namespace Parser

lemma isUnseen_closing (name : Text) (r : Result Value) : (closing name r).IsUnseen := by
  cases r <;> trivial

lemma isUnseen_named {p : Parser Value} {input : Value} (hp : (p input).IsUnseen) (name : Text) :
    (p.named name input).IsUnseen := by
  refine Effect.IsUnseen.bind (fun _ => nofun) fun tracing => ?_
  cases tracing with
  | false => exact hp
  | true =>
    have opening : Event.IsUnseen (.tried name input) := trivial
    refine (Effect.isUnseen_trace opening).bind fun _ => hp.bind fun r => ?_
    exact (Effect.isUnseen_trace (isUnseen_closing name r)).bind fun _ => fun _ => nofun

end Parser

namespace Grammar

variable {g : Grammar}

lemma isUnseen_carryOut {plan : Plan} (h : ∀ task, plan.Asks task → (g.run task).IsUnseen) :
    (g.carryOut plan).IsUnseen := by
  induction plan with
  | finish outcome => exact Effect.isUnseen_ofExcept outcome
  | ask task next ih =>
    rw [carryOut_ask]
    refine (h task (.inl rfl)).bind fun r => ih r fun task' h' => ?_
    exact h task' (.inr ⟨r, h'⟩)

lemma isUnseen_run (task : Task) : (g.run task).IsUnseen := by
  induction task using g.task_induction with
  | step task ih =>
    have unseen : (g.carryOut (g.plan task)).IsUnseen := isUnseen_carryOut ih
    rw [run_eq]
    obtain ⟨d, e, i⟩ := task
    cases e with
    | named p name => exact Parser.isUnseen_named (p := fun _ => _) unseen name
    | spy p label =>
      have call : Event.IsUnseen (.called label i) := trivial
      exact (Effect.isUnseen_emit call).bind fun _ => unseen
    | setTracing on => exact (Effect.isUnseen_setTracing on).bind fun _ => unseen
    | _ => exact unseen

/-- What happens while a parser runs is not shown. -/
lemma isUnseen_expr (g : Grammar) (e : Expr) (input : Value) : (g.parser e input).IsUnseen :=
  isUnseen_run ⟨maxDepth, e, input⟩

end Grammar

/-! ### What an effect shows -/

/-- What an effect comes to, and the lines that it prints meanwhile, from either flag.  It gives no
warning, and it leaves the flag as it is. -/
def Effect.Shows {α : Type} (x : Effect α) (a : α) (lines : List Text) : Prop :=
  ∀ tracing, ∃ events, x tracing = ⟨.ok a, tracing, events⟩ ∧
    events.filterMap Event.line? = lines ∧ ∀ message, Event.warned message ∉ events

namespace Effect

variable {α β : Type} {x : Effect α} {a : α} {b : β} {k : α → Effect β} {lines lines' : List Text}

lemma shows_pure (a : α) : (pure a : Effect α).Shows a [] :=
  fun _ => ⟨[], rfl, rfl, nofun⟩

lemma shows_printed (line : Text) : (emit (.printed line)).Shows () [line] := by
  refine fun _ => ⟨_, rfl, rfl, fun message h => ?_⟩
  cases List.mem_singleton.mp h

/-- What is not shown and has a result. -/
lemma Gives.shows (hx : x.Gives a) (unseen : x.IsUnseen) : x.Shows a [] := by
  intro tracing
  obtain ⟨events, hrun⟩ := hx tracing
  have all : ∀ event ∈ events, event.IsUnseen := by
    have here := unseen tracing
    rwa [hrun] at here
  refine ⟨events, hrun, ?_, fun message h => all _ h⟩
  refine List.filterMap_eq_nil_iff.mpr fun event h => ?_
  have unseen : event.IsUnseen := all event h
  cases event with
  | printed line => exact unseen.elim
  | _ => rfl

lemma Shows.bind (hx : x.Shows a lines) (hk : (k a).Shows b lines') :
    (x >>= k).Shows b (lines ++ lines') := by
  intro tracing
  obtain ⟨events, hx, hlines, hwarned⟩ := hx tracing
  obtain ⟨events', hk, hlines', hwarned'⟩ := hk tracing
  refine ⟨events ++ events', ?_, ?_, fun message h => ?_⟩
  · rw [bind_run, hx, continueWith_ok, hk]
  · rw [List.filterMap_append, hlines, hlines']
  · obtain h | h := List.mem_append.mp h
    · exact hwarned message h
    · exact hwarned' message h

lemma Shows.map (hx : x.Shows a lines) (f : α → β) : (f <$> x).Shows (f a) lines := by
  rw [← bind_pure_comp, ← List.append_nil lines]
  exact hx.bind (shows_pure (f a))

end Effect

namespace Command

section

variable {p : Parser Value} {result : Text → Result Value} {report : Text → Text}

/-- The tally of some lines with the given results. -/
def Tally.ofLines (result : Text → Result Value) (lines : List Text) : Tally :=
  ⟨lines.length, lines.countP fun line => (result line).isErr⟩

lemma Tally.ofLines_append (result : Text → Result Value) (ls ms : List Text) :
    ofLines result (ls ++ ms) = (ofLines result ls).add (ofLines result ms) := by
  rw [ofLines, List.length_append, List.countP_append]
  rfl

lemma Tally.ofResult_eq (result : Text → Result Value) (line : Text) :
    ofResult (result line) = ofLines result [line] := by
  rw [ofLines, List.countP_singleton]
  rfl

/-- The line of a result that is printed. -/
lemma shows_checkLine {line : Text} (hp : (p (.text line)).Shows (result line) [])
    (hline : (result line).line = .ok (report line)) :
    (checkLine p line).Shows (Tally.ofResult (result line)) [report line] := by
  refine hp.bind ?_
  rw [hline]
  exact (Effect.shows_pure (report line)).bind
    ((Effect.shows_printed _).bind (Effect.shows_pure _))

variable (hp : ∀ line, (p (.text line)).Shows (result line) [])
  (hline : ∀ line, (result line).line = .ok (report line))

include hp hline

lemma shows_checkLines (lines : List Text) :
    (checkLines p lines).Shows (Tally.ofLines result lines) (lines.map report) := by
  induction lines with
  | nil => exact Effect.shows_pure _
  | cons line lines ih =>
    have later := ih.map (Tally.ofResult (result line)).add
    rw [Tally.ofResult_eq, ← Tally.ofLines_append] at later
    have first := shows_checkLine (hp line) (hline line)
    rw [Tally.ofResult_eq] at first
    exact first.bind later

lemma shows_checkSource {s : Source} (hcut : s.cut = none) :
    (checkSource p s).Shows (Tally.ofLines result s.lines) (s.lines.map report) := by
  have lines := shows_checkLines hp hline s.lines
  have whole := lines.bind (Effect.shows_pure (Tally.ofLines result s.lines))
  rw [List.append_nil] at whole
  rw [checkSource, hcut]
  exact whole

/-- The sources are checked as if all of their lines were one after the other. -/
lemma shows_checkSources {sources : List Source} (hcut : ∀ s ∈ sources, s.cut = none) :
    (checkSources p sources).Shows (Tally.ofLines result (sources.flatMap Source.lines))
      ((sources.flatMap Source.lines).map report) := by
  induction sources with
  | nil => exact Effect.shows_pure _
  | cons s sources ih =>
    obtain ⟨hs, hcut⟩ := List.forall_mem_cons.mp hcut
    have later := (ih hcut).map (Tally.ofLines result s.lines).add
    rw [← Tally.ofLines_append] at later
    have first := shows_checkSource hp hline hs
    rw [List.flatMap_cons, List.map_append]
    exact first.bind later

end

/-! ### What is seen of a check -/

/-- The lines that a log has for the messages of a trace. -/
def traceLog (traces : List Text) : Text :=
  traces.flatMap fun message => "DEBUG:pycombinator:".toList ++ message ++ ['\n']

/-- The word that a log has for a format. -/
def formatWord : Format → Text
  | .date => "date".toList
  | .id => "id".toList
  | .strictId => "strict-id".toList

/-- The line that a log has for a tally with lines that failed. -/
def failureLog (t : Tally) (format : Format) : Text :=
  "WARNING:pycombinator:".toList ++ Nat.toDigits 10 t.failed ++ " of ".toList ++
    Nat.toDigits 10 t.lines ++ " lines failed to parse as ".toList ++ formatWord format ++ ['\n']

/-- Without warnings the log has the trace, or nothing. -/
lemma filterMap_logLine? {events : List Event} (h : ∀ message, Event.warned message ∉ events)
    (verbose : Bool) : events.filterMap (logLine? verbose) =
      (if verbose then events.filterMap Event.trace? else []).map
        ("DEBUG:pycombinator:".toList ++ ·) := by
  induction events with
  | nil => cases verbose <;> rfl
  | cons event events ih =>
    have later := ih fun message hm => h message (List.mem_cons_of_mem _ hm)
    have head : logLine? verbose event =
        if verbose then event.trace?.map ("DEBUG:pycombinator:".toList ++ ·) else none := by
      cases event with
      | warned message => exact absurd List.mem_cons_self (h message)
      | _ => rfl
    cases verbose with
    | false =>
      rw [List.filterMap_cons_none head]
      exact later
    | true =>
      cases htrace : event.trace? with
      | none =>
        rw [htrace] at head
        rw [List.filterMap_cons_none head, later, if_pos rfl, List.filterMap_cons_none htrace,
          if_pos rfl]
      | some message =>
        rw [htrace] at head
        rw [List.filterMap_cons_some head, later, if_pos rfl, List.filterMap_cons_some htrace,
          if_pos rfl, List.map_cons]

/-- The lines of texts that are printed one after the other. -/
lemma flatten_terminated (lines : List Text) :
    (lines.map terminated).flatten = lines.flatMap fun line => line ++ ['\n'] := rfl

lemma flatMap_debug (traces : List Text) : (traces.map ("DEBUG:pycombinator:".toList ++ ·)).flatMap
    (fun line => line ++ ['\n']) = traceLog traces :=
  List.flatMap_map ..

lemma warning_append_summary (t : Tally) (format : Format) :
    "WARNING:pycombinator:".toList ++ summary t format ++ ['\n'] = failureLog t format := by
  have word : format.name = formatWord format := by cases format <;> rfl
  -- by its definition and not by an equation, for which the text would be decoded
  delta failureLog
  simp only [summary, word, Text.ofNat, List.append_assoc]

/-- What is seen of a call that has printed some reports, with a tally and the trace of it: each
report with a line feed behind it.  The log has the trace, and after it a warning if some lines
failed; nothing else. -/
def Outcome.ofReports (reports traces : List Text) (t : Tally) (format : Format) (tracing : Bool) :
    Outcome where
  ending := .returned (if 0 < t.failed then 1 else 0)
  output := reports.flatMap fun report => report ++ ['\n']
  log := traceLog traces ++ if 0 < t.failed then failureLog t format else []
  tracing := tracing

/-- What is seen of a check is what the loop over the lines has shown, with the status and the
warning that go with its tally. -/
lemma outcomeOfRun_check {o : Options} {sources : List Source} {t : Tally} {reports : List Text}
    (h : (checkSources (o.format.parser o.whole) sources).Shows t reports)
    (tracing verbose : Bool) :
    ∃ traces, (verbose = false → traces = []) ∧
      outcomeOfRun verbose (check o sources tracing) =
        .ofReports reports traces t o.format tracing := by
  obtain ⟨events, hrun, hprinted, hwarned⟩ := h o.debug
  have loop : Effect.withTracing o.debug (checkSources (o.format.parser o.whole) sources) tracing =
      ⟨.ok t, tracing, events⟩ := by
    rw [Effect.withTracing, hrun]
  have log := filterMap_logLine? hwarned verbose
  refine ⟨if verbose then events.filterMap Event.trace? else [], fun h => by rw [h]; rfl, ?_⟩
  unfold check
  rw [Effect.bind_run, loop, Effect.continueWith_ok]
  by_cases hfailed : 0 < t.failed
  · have warn : (do Effect.emit (.warned (summary t o.format)); return 1 : Effect Nat) tracing =
        ⟨.ok 1, tracing, [.warned (summary t o.format)]⟩ := rfl
    have unprinted : [Event.warned (summary t o.format)].filterMap Event.line? = [] := rfl
    have warned : [Event.warned (summary t o.format)].filterMap (logLine? verbose) =
        ["WARNING:pycombinator:".toList ++ summary t o.format] := rfl
    simp only [if_pos hfailed, warn, outcomeOfRun, Outcome.ofReports, Run.printed,
      List.filterMap_append, hprinted, log, unprinted, warned, List.append_nil,
      flatten_terminated, List.flatMap_append, flatMap_debug, List.flatMap_singleton,
      warning_append_summary]
  · simp only [if_neg hfailed, Effect.pure_run, outcomeOfRun, Outcome.ofReports, Run.printed,
      List.append_nil, hprinted, log, flatten_terminated, flatMap_debug]

/-- The parser of a format shows nothing, and comes to its answer. -/
lemma shows_answer (format : Format) (whole : Bool) (line : Text) :
    (format.parser whole (.text line)).Shows (format.answer whole line) [] :=
  Format.gives_answer.shows (Grammar.isUnseen_expr _ _ _)

/-- A single file, with the name `a` and two lines. -/
def oneFile : Text → Except Fault Content
  | ['a'] => .ok (.plain (Text.Utf8.encode "2023-11-24\n2023".toList))
  | name => .error (.noSuchFile name)

/-- A date on the standard input. -/
def dateInput : List UInt8 :=
  Text.Utf8.encode "2023/01/02\r\n".toList

/-- The arguments of a call that reads the file, the standard input, and the standard input again,
when there is nothing left of it. -/
def threeInputs : List Text :=
  ["--debug".toList, "--all".toList, "date".toList, ['a'], ['-'], ['-']]

lemma isWord_of_mem_names : ∀ s ∈ [['a'], ['-'], ['-']], Argument.IsWord s := by
  simp [Argument.IsWord]

lemma ofCall_threeInputs :
    Options.ofCall threeInputs none = .ok ⟨.date, [['a'], ['-'], ['-']], true, true⟩ :=
  Options.ofCall_arguments ⟨.date, _, true, true⟩ (List.cons_ne_nil _ _) isWord_of_mem_names

lemma holds_threeInputs : Source.Holds oneFile dateInput [['a'], ['-'], ['-']]
    ["2023-11-24\n2023".toList, "2023/01/02\r\n".toList, []] := by
  refine .file (by decide) rfl rfl ?_ (.dash _ (.dash [] (.nil [])))
  exact Blocks.data_ofBytes _

end Command

end GrammarKit
