/-
# The input is threaded through the leaves

Without alternatives, repetitions and defaults a run never goes back: every leaf is run on what the
leaf before it has left, and the first failure is the last thing that happens.  `Threads` says this
of a history, together with what each outcome of the run then means: a fault is raised by the last
moment, a failure that is none of a leaf's is a value that is refused at the last moment, and a
success leaves what the last leaf has left.

`Thread` gives the histories of this kind from their beginning, so that they can be put one behind
the other.  A node then has such a history if its parts have, which is `Grammar.thread_history`.

The one thing that can come between a leaf and the outcome is the trace: a record that cannot be
written ends the run, also after a failure.
-/
import Mathlib.Data.List.Chain
import GrammarKit.Proofs.History
import GrammarKit.Proofs.Outcome

namespace GrammarKit

/-- Whether a run ends as its last moment is a record that cannot be written. -/
def IsLost (history : List Moment) (outcome : Except Fault (Result Value)) : Prop :=
  outcome = .error .untraceable ∧ ∃ record, history.getLast? = some (.unwritten record)

/-- What a run comes to in which no leaf fails: a fault is raised by the last moment, a failure is a
value refused at the last moment, and a success leaves what the last leaf has left, or the input if
there was none. -/
def EndsIn (input : Value) (history : List Moment) : Except Fault (Result Value) → Prop
  | .error fault => ∃ moment, history.getLast? = some moment ∧ moment.Raises fault
  | .ok (.err m) => ∃ moment, history.getLast? = some moment ∧ moment.Refuses m
  | .ok (.ok _ rest) => leafRuns history = [] ∧ rest = input ∨
    ∃ run v, (leafRuns history).getLast? = some run ∧ run.outcome = .ok (.ok v rest)

/-- Whether a history and an outcome are those of a run that threads the input through its leaves
and stops at the first failure or fault. -/
structure Threads (input : Value) (history : List Moment)
    (outcome : Except Fault (Result Value)) : Prop where
  /-- The first leaf is run on the input. -/
  first : ∀ run ∈ (leafRuns history).head?, run.input = input
  /-- Every later leaf is run on the rest that the leaf before it has left. -/
  next : (leafRuns history).IsChain fun run run' => ∃ v, run.outcome = .ok (.ok v run'.input)
  /-- A leaf that fails is the last one, and the run fails with its message, unless it ends as a
  record cannot be written. -/
  failure : ∀ before run after m, leafRuns history = before ++ run :: after →
    run.outcome = .ok (.err m) → after = [] ∧ (outcome = .ok (.err m) ∨ IsLost history outcome)
  /-- If no leaf fails, the outcome is that of the last moment. -/
  ending : (∀ run ∈ leafRuns history, ∀ m, run.outcome ≠ .ok (.err m)) →
    EndsIn input history outcome

/-! ### Histories from their beginning -/

/-- The histories that thread an input, with the outcomes they lead to. -/
inductive Thread : Value → List Moment → Except Fault (Result Value) → Prop where
  /-- Nothing happens. -/
  | done {i v : Value} : Thread i [] (.ok (.ok v i))
  /-- A leaf succeeds, and what follows starts from its rest. -/
  | ran {leaf : Expr} {i v rest : Value} {h : List Moment} {o : Except Fault (Result Value)}
    (later : Thread rest h o) : Thread i (.ran ⟨leaf, i, .ok (.ok v rest)⟩ :: h) o
  /-- A function gives a value, and the input stays as it is. -/
  | passed {node : Expr} {i v : Value} {h : List Moment} {o : Except Fault (Result Value)}
    (later : Thread i h o) : Thread i (.applied node v :: h) o
  /-- A leaf fails. -/
  | failed {leaf : Expr} {i m : Value} :
    Thread i [.ran ⟨leaf, i, .ok (.err m)⟩] (.ok (.err m))
  /-- A leaf ends in a fault. -/
  | broke {leaf : Expr} {i : Value} {fault : Fault} :
    Thread i [.ran ⟨leaf, i, .error fault⟩] (.error fault)
  /-- A function raises a fault. -/
  | raised {node : Expr} {i v : Value} {fault : Fault}
    (raises : (Moment.applied node v).Raises fault) : Thread i [.applied node v] (.error fault)
  /-- A value is refused. -/
  | refused {node : Expr} {i v m : Value} (refuses : (Moment.applied node v).Refuses m) :
    Thread i [.applied node v] (.ok (.err m))
  /-- A record cannot be written, at the start or once there is a result. -/
  | lost {record : Event} {i : Value} {h : List Moment} {r : Result Value}
    (before : Thread i h (.ok r)) : Thread i (h ++ [.unwritten record]) (.error .untraceable)

namespace Thread

variable {i rest v : Value} {h h' : List Moment} {o : Except Fault (Result Value)}

/-- The history of a leaf. -/
lemma of_leaf (run : LeafRun) : Thread run.input [.ran run] run.outcome := by
  obtain ⟨leaf, i, _ | ⟨v, rest⟩ | m⟩ := run
  · exact .broke
  · exact .ran .done
  · exact .failed

/-- Behind a history that leads to a success, another one goes on from the rest. -/
lemma append (first : Thread i h (.ok (.ok v rest))) (later : Thread rest h' o) :
    Thread i (h ++ h') o := by
  generalize ho : (Except.ok (.ok v rest) : Except Fault (Result Value)) = o₁ at first
  induction first with
  | done =>
    cases ho
    exact later
  | ran _ ih => exact .ran (ih ho)
  | passed _ ih => exact .passed (ih ho)
  | _ => cases ho

end Thread

/-! ### What such a history says -/

namespace Threads

variable {i rest v : Value} {h : List Moment} {o : Except Fault (Result Value)}

/-- A moment in front does not change what the last moment is. -/
lemma getLast?_cons_of_some {α : Type} {x y : α} {xs : List α} (hy : xs.getLast? = some y) :
    (x :: xs).getLast? = some y := by
  rw [List.getLast?_cons, hy, Option.getD_some]

lemma isLost_cons (x : Moment) (hlost : IsLost h o) : IsLost (x :: h) o := by
  obtain ⟨hout, record, hlast⟩ := hlost
  exact ⟨hout, record, getLast?_cons_of_some hlast⟩

lemma leafRuns_append_unwritten (h : List Moment) (record : Event) :
    leafRuns (h ++ [.unwritten record]) = leafRuns h := by
  rw [leafRuns, List.filterMap_append]
  exact List.append_nil _

/-- A history without leaves. -/
lemma of_leafRuns_eq_nil (hnone : leafRuns h = []) (hend : EndsIn i h o) : Threads i h o where
  first := by
    rw [hnone]
    exact nofun
  next := by
    rw [hnone]
    exact .nil
  failure before _ _ _ hruns := by
    rw [hnone] at hruns
    cases before <;> cases hruns
  ending _ := hend

lemma ran {leaf : Expr} (later : Threads rest h o) :
    Threads i (.ran ⟨leaf, i, .ok (.ok v rest)⟩ :: h) o where
  first := by
    rintro _ ⟨⟩
    rfl
  next := List.isChain_cons.mpr ⟨fun run hrun => ⟨v, by rw [later.first run hrun]⟩, later.next⟩
  failure := by
    intro before run after m hruns hm
    cases before with
    | nil =>
      cases hruns
      cases hm
    | cons _ before =>
      obtain ⟨hafter, hout⟩ := later.failure before run after m (List.cons.inj hruns).2 hm
      exact ⟨hafter, hout.imp_right (isLost_cons _)⟩
  ending := by
    intro hno
    have ending := later.ending fun run hrun => hno run (List.mem_cons_of_mem _ hrun)
    match o, ending with
    | .error fault, ⟨moment, hlast, hraises⟩ =>
      exact ⟨moment, getLast?_cons_of_some hlast, hraises⟩
    | .ok (.err m), ⟨moment, hlast, hrefuses⟩ =>
      exact ⟨moment, getLast?_cons_of_some hlast, hrefuses⟩
    | .ok (.ok w rest'), .inl ⟨hnone, hrest⟩ =>
      -- there is no later leaf, so that this one is the last
      subst hrest
      refine .inr ⟨⟨leaf, i, .ok (.ok v rest')⟩, v, ?_, rfl⟩
      show (_ :: leafRuns h).getLast? = _
      rw [hnone]
      rfl
    | .ok (.ok w rest'), .inr ⟨run, v', hlast, hrun⟩ =>
      exact .inr ⟨run, v', getLast?_cons_of_some hlast, hrun⟩

lemma passed {node : Expr} (later : Threads i h o) : Threads i (.applied node v :: h) o where
  first := later.first
  next := later.next
  failure before run after m hruns hm := by
    obtain ⟨hafter, hout⟩ := later.failure before run after m hruns hm
    exact ⟨hafter, hout.imp_right (isLost_cons _)⟩
  ending := by
    intro hno
    match o, later.ending hno with
    | .error fault, ⟨moment, hlast, hraises⟩ =>
      exact ⟨moment, getLast?_cons_of_some hlast, hraises⟩
    | .ok (.err m), ⟨moment, hlast, hrefuses⟩ =>
      exact ⟨moment, getLast?_cons_of_some hlast, hrefuses⟩
    | .ok (.ok w rest'), hend => exact hend

/-- A leaf that is the last one. -/
lemma single {run : LeafRun} (hinput : run.input = i)
    (hm : ∀ m, run.outcome = .ok (.err m) → o = .ok (.err m))
    (hend : (∀ m, run.outcome ≠ .ok (.err m)) → ∃ fault, o = .error fault ∧
      run.outcome = .error fault) : Threads i [.ran run] o where
  first := by
    rintro _ ⟨⟩
    exact hinput
  next := .singleton run
  failure := by
    intro before run' after m hruns hm'
    cases before with
    | nil =>
      cases hruns
      exact ⟨rfl, .inl (hm m hm')⟩
    | cons _ before => cases before <;> cases hruns
  ending := by
    intro hno
    obtain ⟨fault, rfl, hfault⟩ := hend (hno run List.mem_cons_self)
    exact ⟨.ran run, rfl, hfault⟩

lemma lost {record : Event} {r : Result Value} (before : Threads i h (.ok r)) :
    Threads i (h ++ [.unwritten record]) (.error .untraceable) where
  first := by
    rw [leafRuns_append_unwritten]
    exact before.first
  next := by
    rw [leafRuns_append_unwritten]
    exact before.next
  failure := by
    intro before' run after m hruns hm
    rw [leafRuns_append_unwritten] at hruns
    exact ⟨(before.failure before' run after m hruns hm).1,
      .inr ⟨rfl, record, List.getLast?_concat⟩⟩
  ending _ := ⟨.unwritten record, List.getLast?_concat, rfl⟩

end Threads

/-- A history that is built up from its beginning threads its input. -/
lemma Thread.threads {i : Value} {h : List Moment} {o : Except Fault (Result Value)}
    (thread : Thread i h o) : Threads i h o := by
  induction thread with
  | done => exact .of_leafRuns_eq_nil rfl (.inl ⟨rfl, rfl⟩)
  | ran _ ih => exact .ran ih
  | passed _ ih => exact .passed ih
  | failed => exact .single rfl (fun _ hm => hm) fun hno => absurd rfl (hno _)
  | broke => exact .single rfl (fun _ hm => nomatch hm) fun _ => ⟨_, rfl, rfl⟩
  | raised hraises => exact .of_leafRuns_eq_nil rfl ⟨_, rfl, hraises⟩
  | refused hrefuses => exact .of_leafRuns_eq_nil rfl ⟨_, rfl, hrefuses⟩
  | lost _ ih => exact .lost ih

/-! ### Linear expressions -/

namespace Expr

mutual

/-- Whether an expression runs its leaves one after the other without going back: it has no
alternatives, repetitions or defaults, and no references, and neither have the expressions that its
functions make. -/
def IsLinear : Expr → Prop
  | andThen p q => IsLinear p ∧ IsLinear q
  | takeFirst p q => IsLinear p ∧ IsLinear q
  | takeSecond p q => IsLinear p ∧ IsLinear q
  | sequence ps => AllLinear ps
  | times _ p => IsLinear p
  | fmap _ p => IsLinear p
  | bind p next => IsLinear p ∧ ∀ v, MadeLinear (next v)
  | validate p _ _ => IsLinear p
  | named p _ => IsLinear p
  | spy p _ => IsLinear p
  | e => e.isLeaf = true
termination_by structural e => e

/-- Whether all of some expressions are linear. -/
def AllLinear : List Expr → Prop
  | [] => True
  | p :: ps => IsLinear p ∧ AllLinear ps
termination_by structural ps => ps

/-- Whether an expression that a function has made is linear. -/
def MadeLinear : Except Fault Expr → Prop
  | .ok e => IsLinear e
  | .error _ => True
termination_by structural made => made

end

end Expr

namespace Plan

variable {g : Grammar} {i : Value} {task : Task} {next : Result Value → Plan} {tracing : Bool}
  {after : Result Value → List Moment}

/-- The moments of what a plan asks for. -/
abbrev moments (g : Grammar) (plan : Plan) (task : Task) (_ : plan.Asks task) (tracing : Bool) :
    List Moment :=
  g.history ⟨task, tracing⟩

lemma history_of_eq_finish {plan : Plan} {o : Except Fault (Result Value)} (h : plan = .finish o)
    (inner : (task : Task) → plan.Asks task → Bool → List Moment) :
    plan.history g inner after tracing = [] := by
  subst h
  rfl

/-- A plan threads its input if what it asks for first does, and if it goes on from the rest of a
success and hands on a failure. -/
lemma thread_ask (hfirst : Thread i (g.history ⟨task, tracing⟩) (g.run task tracing).outcome)
    (hok : ∀ v rest, (g.run task tracing).outcome = .ok (.ok v rest) →
      Thread rest (after (.ok v rest) ++ (next (.ok v rest)).history g (moments g _) (fun _ => [])
          (g.run task tracing).tracing)
        (g.carryOut (next (.ok v rest)) (g.run task tracing).tracing).outcome)
    (herr : ∀ m, next (.err m) = .finish (.ok (.err m)) ∧ after (.err m) = []) :
    Thread i ((ask task next).history g (moments g _) after tracing)
      (g.carryOut (ask task next) tracing).outcome := by
  rw [Plan.history, Grammar.carryOut_ask, Effect.bind_run]
  cases hrun : (g.run task tracing).outcome with
  | error fault =>
    rw [hrun] at hfirst
    rw [Effect.continueWith_of_error hrun, List.append_nil]
    exact hfirst
  | ok r =>
    rw [hrun] at hfirst
    rw [Effect.continueWith_of_ok hrun]
    cases r with
    | err m =>
      obtain ⟨hnext, hafter⟩ := herr m
      dsimp only
      rw [history_of_eq_finish hnext, hafter, hnext, List.append_nil, List.append_nil]
      exact hfirst
    | ok v rest => exact hfirst.append (hok v rest hrun)

/-- A plan that hands on what it asks for. -/
lemma thread_pass (hfirst : Thread i (g.history ⟨task, tracing⟩) (g.run task tracing).outcome) :
    Thread i ((pass task).history g (moments g _) (fun _ => []) tracing)
      (g.carryOut (pass task) tracing).outcome :=
  thread_ask hfirst (fun _ _ _ => .done) fun _ => ⟨rfl, rfl⟩

/-- Two parts, the second on what the first has left. -/
lemma thread_both {second : Value → Task} {combine : Value → Value → Value}
    (hfirst : Thread i (g.history ⟨task, tracing⟩) (g.run task tracing).outcome)
    (hsecond : ∀ rest t, Thread rest (g.history ⟨second rest, t⟩) (g.run (second rest) t).outcome) :
    Thread i ((both task second combine).history g (moments g _) (fun _ => []) tracing)
      (g.carryOut (both task second combine) tracing).outcome := by
  refine thread_ask hfirst (fun v rest _ => ?_) fun _ => ⟨rfl, rfl⟩
  exact thread_ask (hsecond rest _) (fun _ _ _ => .done) fun _ => ⟨rfl, rfl⟩

end Plan

namespace Grammar

variable {g : Grammar} {d : Nat} {e : Expr} {i : Value} {tracing : Bool}

open Plan in
/-- The plan of a linear node threads its input, if what it asks for does. -/
lemma thread_plan (he : e.IsLinear) (hnode : e.isLeaf = false)
    (ih : ∀ task, (g.plan ⟨d, e, i⟩).Asks task → task.expr.IsLinear →
      ∀ t, Thread task.input (g.history ⟨task, t⟩) (g.run task t).outcome) (tracing : Bool) :
    Thread i ((g.plan ⟨d, e, i⟩).history g (moments g _) e.applied tracing)
      (g.carryOut (g.plan ⟨d, e, i⟩) tracing).outcome := by
  cases e with
  | andThen p q =>
    exact thread_both (ih _ (.inl rfl) he.1 _) fun rest t =>
      ih ⟨d, q, rest⟩ ((asks_both _ _).mpr (.inr ⟨rest, rfl⟩)) he.2 t
  | takeFirst p q =>
    exact thread_both (ih _ (.inl rfl) he.1 _) fun rest t =>
      ih ⟨d, q, rest⟩ ((asks_both _ _).mpr (.inr ⟨rest, rfl⟩)) he.2 t
  | takeSecond p q =>
    exact thread_both (ih _ (.inl rfl) he.1 _) fun rest t =>
      ih ⟨d, q, rest⟩ ((asks_both _ _).mpr (.inr ⟨rest, rfl⟩)) he.2 t
  | sequence ps =>
    cases ps with
    | nil => exact .done
    | cons p ps =>
      exact thread_both (ih _ (.inl rfl) he.1 _) fun rest t =>
        ih ⟨d, .sequence ps, rest⟩ ((asks_both _ _).mpr (.inr ⟨rest, rfl⟩)) he.2 t
  | times n p =>
    cases n with
    | zero => exact .done
    | succ n =>
      exact thread_both (ih _ (.inl rfl) he _) fun rest t =>
        ih ⟨d, .times n p, rest⟩ ((asks_both _ _).mpr (.inr ⟨rest, rfl⟩)) he t
  | fmap f p =>
    refine thread_ask (ih _ (.inl rfl) he _) (fun v rest _ => ?_) fun _ => ⟨rfl, rfl⟩
    show Thread rest [.applied _ v] (f v >>= _)
    cases hf : f v with
    | error fault => exact .raised hf
    | ok w => exact .passed .done
  | validate p m test =>
    refine thread_ask (ih _ (.inl rfl) he _) (fun v rest _ => ?_) fun _ => ⟨rfl, rfl⟩
    show Thread rest [.applied _ v] (test v >>= _)
    cases htest : test v with
    | error fault => exact .raised htest
    | ok b =>
      cases b with
      | true => exact .passed .done
      | false => exact .refused ⟨rfl, htest⟩
  | bind p next =>
    refine thread_ask (ih _ (.inl rfl) he.1 _) (fun v rest _ => ?_) fun _ => ⟨rfl, rfl⟩
    -- the function comes between the two parts, and gives the second one
    have made : Expr.MadeLinear (next v) := he.2 v
    dsimp only
    cases hnext : next v with
    | error fault => exact .raised hnext
    | ok e =>
      rw [hnext] at made
      refine .passed (thread_pass (ih ⟨d, e, rest⟩ ?_ made _))
      refine (asks_follow _).mpr (.inr ⟨v, rest, ?_⟩)
      rw [hnext]
      exact asks_pass.mpr rfl
  | named p name => exact thread_pass (ih _ (.inl rfl) he _)
  | spy p label => exact thread_pass (ih _ (.inl rfl) he _)
  | _ => cases hnode.symm.trans he

/-- A trace that cannot be written ends the history. -/
lemma thread_named {p : Expr} {name : Text} {inner : List Moment}
    (h : Thread i inner (g.run ⟨d, p, i⟩ tracing).outcome) :
    Thread i (g.enclose ⟨⟨d, .named p name, i⟩, tracing⟩ inner)
      (g.run ⟨d, .named p name, i⟩ tracing).outcome := by
  cases tracing with
  | false => exact h
  | true =>
    rw [run_named, Parser.named_true]
    simp only [enclose]
    split
    · cases hrun : g.run ⟨d, p, i⟩ true with
      | mk outcome t events =>
        rw [hrun] at h
        cases outcome with
        | error fault =>
          simp only [List.append_nil]
          exact h
        | ok r =>
          dsimp only
          split
          · rw [List.append_nil]
            exact h
          · exact .lost h
    · exact .lost (.done (v := .null))

/-- A linear job threads its input. -/
lemma thread_history (g : Grammar) (task : Task) : task.expr.IsLinear →
    ∀ t, Thread task.input (g.history ⟨task, t⟩) (g.run task t).outcome := by
  induction task using g.task_induction with
  | step task ih =>
    intro he t
    cases hleaf : task.expr.isLeaf with
    | true =>
      rw [history_leaf hleaf]
      exact Thread.of_leaf ⟨task.expr, task.input, (g.run task t).outcome⟩
    | false =>
      rw [history_node hleaf]
      obtain ⟨d, e, i⟩ := task
      have plan := thread_plan he hleaf ih t
      cases e with
      | named p name =>
        rw [Grammar.plan, carryOut_pass] at plan
        exact thread_named plan
      | _ =>
        rw [run_eq]
        exact plan

/-- **The input is threaded through the leaves.**  In every run of a linear expression the first
leaf is run on the input, and every later one on what the leaf before it has left; a leaf that fails
is the last one, and the run fails with its message.  If none fails, the run ends in a fault that
the last moment has raised, or with the message of a test at the last moment, or it leaves what the
last leaf has left.  The only outcome besides is that of a record that cannot be written. -/
theorem threads_of_isLinear (g : Grammar) (e : Expr) (he : e.IsLinear) (input : Value)
    (tracing : Bool) :
    Threads input (g.history ⟨⟨maxDepth, e, input⟩, tracing⟩) (g.parser e input tracing).outcome :=
  (g.thread_history ⟨maxDepth, e, input⟩ he tracing).threads

/-- Any unit, and then the same again. -/
def doubledUnit : Expr :=
  .bind (.satisfy fun _ => .ok true) fun v => .ok (.char v)

lemma history_doubledUnit : g.history ⟨⟨d, doubledUnit, .text ['a', 'b']⟩, tracing⟩ =
    [.ran ⟨.satisfy fun _ => .ok true, .text ['a', 'b'], .ok (.ok (.unit 'a') (.text ['b']))⟩,
      .applied doubledUnit (.unit 'a'),
      .ran ⟨.char (.unit 'a'), .text ['b'],
        .ok (.err (.text "Expecting a, but got b".toList))⟩] := by
  have first : g.history ⟨⟨d, .satisfy fun _ => .ok true, .text ['a', 'b']⟩, tracing⟩ =
      [.ran ⟨.satisfy fun _ => .ok true, .text ['a', 'b'],
        .ok (.ok (.unit 'a') (.text ['b']))⟩] := history_leaf rfl
  have second : g.history ⟨⟨d, .char (.unit 'a'), .text ['b']⟩, tracing⟩ =
      [.ran ⟨.char (.unit 'a'), .text ['b'],
        .ok (.err (.text "Expecting a, but got b".toList))⟩] := history_leaf rfl
  rw [history_node rfl]
  show Plan.history _ _ _ _ _ = _
  simp only [doubledUnit, plan, Plan.follow, Plan.history, first]
  show [.ran _, .applied _ _] ++
    (g.history ⟨⟨d, .char (.unit 'a'), .text ['b']⟩, tracing⟩ ++ []) = _
  rw [second]
  rfl

theorem threads_of_isLinear_doubledUnit :
    (({} : Grammar).parser doubledUnit (.text ['a', 'b']) true).outcome =
      .ok (.err (.text "Expecting a, but got b".toList)) ∧
    (leafRuns (({} : Grammar).history
      ⟨⟨maxDepth, doubledUnit, .text ['a', 'b']⟩, true⟩)).map LeafRun.input =
      [.text ['a', 'b'], .text ['b']] ∧
    Threads (.text ['a', 'b'])
      (({} : Grammar).history ⟨⟨maxDepth, doubledUnit, .text ['a', 'b']⟩, true⟩)
      (({} : Grammar).parser doubledUnit (.text ['a', 'b']) true).outcome := by
  have linear : doubledUnit.IsLinear := ⟨rfl, fun _ => rfl⟩
  refine ⟨rfl, ?_, threads_of_isLinear {} doubledUnit linear _ true⟩
  rw [history_doubledUnit]
  rfl

/-! ### A record that cannot be written -/

/-- The product of two numbers, whatever the value. -/
def product (m n : Int) (_ : Value) : Except Fault Value :=
  (Value.pair (.int m) (.list [.pair (.text ['*']) (.int n)])).chain

/-- Takes a letter and gives the product of two numbers. -/
def letterToProduct (m n : Int) : Expr :=
  .fmap (product m n) (.char (.unit 'a'))

/-- Gives the product a name in the trace, and drops it. -/
def droppedProduct (m n : Int) : Expr :=
  .takeSecond (.named (letterToProduct m n) ['n']) (.succeed (.text ['z']))

section

variable {m n : Int}

lemma run_letterToProduct : g.run ⟨d, letterToProduct m n, .text ['a', 'b']⟩ true =
    ⟨.ok (.ok (.int (m * n)) (.text ['b'])), true, []⟩ := rfl

lemma history_letterToProduct : g.history ⟨⟨d, letterToProduct m n, .text ['a', 'b']⟩, true⟩ =
    [.ran ⟨.char (.unit 'a'), .text ['a', 'b'], .ok (.ok (.unit 'a') (.text ['b']))⟩,
      .applied (letterToProduct m n) (.unit 'a')] := by
  have letter : g.history ⟨⟨d, .char (.unit 'a'), .text ['a', 'b']⟩, true⟩ =
      [.ran ⟨.char (.unit 'a'), .text ['a', 'b'], .ok (.ok (.unit 'a') (.text ['b']))⟩] :=
    history_leaf rfl
  rw [history_node rfl]
  show Plan.history _ _ _ _ _ = _
  simp only [letterToProduct, plan, Plan.history, letter]
  rfl

/-- The record of the product cannot be written. -/
lemma run_named_letterToProduct (h : Text.hasNumeral (m * n) = false) :
    g.run ⟨d, .named (letterToProduct m n) ['n'], .text ['a', 'b']⟩ true =
      ⟨.error .untraceable, true, [.tried ['n'] (.text ['a', 'b'])]⟩ := by
  rw [run_named, Parser.named_true, run_letterToProduct]
  simp [Event.isWritable, Parser.closing, Value.isWritable, h]

lemma outcome_droppedProduct (h : Text.hasNumeral (m * n) = false) :
    (g.run ⟨d, droppedProduct m n, .text ['a', 'b']⟩ true).outcome = .error .untraceable := by
  rw [run_eq]
  show (g.carryOut (Plan.both _ _ _) true).outcome = _
  rw [Plan.both, Plan.follow, carryOut_ask, Effect.bind_run, run_named_letterToProduct h]
  rfl

lemma history_droppedProduct (h : Text.hasNumeral (m * n) = false) :
    g.history ⟨⟨d, droppedProduct m n, .text ['a', 'b']⟩, true⟩ =
      [.ran ⟨.char (.unit 'a'), .text ['a', 'b'], .ok (.ok (.unit 'a') (.text ['b']))⟩,
        .applied (letterToProduct m n) (.unit 'a'),
        .unwritten (.matched ['n'] (.int (m * n)) (.text ['b']))] := by
  have inner : g.history ⟨⟨d, .named (letterToProduct m n) ['n'], .text ['a', 'b']⟩, true⟩ =
      [.ran ⟨.char (.unit 'a'), .text ['a', 'b'], .ok (.ok (.unit 'a') (.text ['b']))⟩,
        .applied (letterToProduct m n) (.unit 'a'),
        .unwritten (.matched ['n'] (.int (m * n)) (.text ['b']))] := by
    rw [history_node rfl]
    simp [enclose, plan, Plan.pass, Plan.history, run_letterToProduct, history_letterToProduct,
      Expr.applied, Event.isWritable, Parser.closing, Value.isWritable, h]
  have node : (droppedProduct m n).isLeaf = false := rfl
  rw [history_node node, enclose, droppedProduct, plan, Plan.both, Plan.follow, Plan.history, inner,
    run_named_letterToProduct h]
  rfl

/-- Neither the leaf nor the function of the expression fails. -/
lemma droppedProduct_onlyUnwritten (h : Text.hasNumeral (m * n) = false) :
    ∀ moment ∈ g.history ⟨⟨d, droppedProduct m n, .text ['a', 'b']⟩, true⟩,
      (∀ run, moment = .ran run → ∃ v rest, run.outcome = .ok (.ok v rest)) ∧
      ∀ fault, moment.Raises fault → ∃ record, moment = .unwritten record := by
  rw [history_droppedProduct h]
  rintro moment (_ | ⟨_, _ | ⟨_, _ | ⟨_, ⟨⟩⟩⟩⟩)
  · refine ⟨?_, nofun⟩
    rintro run ⟨⟩
    exact ⟨_, _, rfl⟩
  · refine ⟨nofun, ?_⟩
    intro fault hraises
    cases hraises
  · exact ⟨nofun, fun _ _ => ⟨_, rfl⟩⟩

end

theorem droppedProduct_cannotTrace :
    (droppedProduct halfLong halfLong).IsLinear ∧
    (({} : Grammar).parser (droppedProduct halfLong halfLong) (.text ['a', 'b']) true).outcome =
      .error .untraceable ∧
    ∀ moment ∈ ({} : Grammar).history
      ⟨⟨maxDepth, droppedProduct halfLong halfLong, .text ['a', 'b']⟩, true⟩,
      (∀ run, moment = .ran run → ∃ v rest, run.outcome = .ok (.ok v rest)) ∧
      ∀ fault, moment.Raises fault → ∃ record, moment = .unwritten record := by
  have long : Text.hasNumeral (halfLong * halfLong) = false := by decide +kernel
  exact ⟨⟨rfl, rfl⟩, outcome_droppedProduct long, droppedProduct_onlyUnwritten long⟩

end Grammar

end GrammarKit
