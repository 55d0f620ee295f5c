/-
# The form of a text does not matter

A text can be given to a parser as it is, as the list of its characters or as the tuple of them.  A
parser asks of its input only whether it is empty, what its first unit is, what remains behind that
unit and whether it is shorter than another one, and to all of this the three forms have the same
answers.

`Indistinguishable` collects these questions for any relation between inputs, and
`Grammar.alike_run` compares two runs of an expression on related inputs in lockstep, node by node:
they give the same value or the same message, or end in the same fault, and the inputs that were
left or recorded are related again.  The forms of a text are then one relation of this kind.

Leaves that give a fixed result are left out, as such a result need not be related to itself.
-/
import Mathlib.Data.List.Forall2
import GrammarKit.Proofs.Leaves

namespace GrammarKit

/-! ### Runs that are alike -/

/-- Whether two outcomes are the same fault, or values that are related. -/
inductive SameOutcome {α : Type} (Q : α → α → Prop) : Except Fault α → Except Fault α → Prop where
  /-- Both come to a value. -/
  | ok {a b : α} (h : Q a b) : SameOutcome Q (.ok a) (.ok b)
  /-- Both end in the same fault. -/
  | error (fault : Fault) : SameOutcome Q (.error fault) (.error fault)

lemma SameOutcome.of_eq {α : Type} (o : Except Fault α) : SameOutcome Eq o o := by
  cases o with
  | error fault => exact .error fault
  | ok a => exact .ok rfl

/-- Whether two results have the same message, or the same value and rests that are related. -/
inductive Result.Alike (R : Value → Value → Prop) {α : Type} : Result α → Result α → Prop where
  /-- Both are successes. -/
  | ok (v : α) {rest rest' : Value} (h : R rest rest') : Alike R (.ok v rest) (.ok v rest')
  /-- Both are failures. -/
  | err (m : Value) : Alike R (.err m) (.err m)

/-- Whether two runs come to outcomes that are related by `Q`, leave the same flag, and have
recorded calls under the same labels, in the same order, on inputs that are related by `R`. -/
structure Run.Alike {α : Type} (Q : α → α → Prop) (R : Value → Value → Prop) (x y : Run α) :
    Prop where
  /-- The outcomes are alike. -/
  outcome : SameOutcome Q x.outcome y.outcome
  /-- The flags at the end are the same. -/
  tracing : x.tracing = y.tracing
  /-- The calls correspond position by position. -/
  calls : List.Forall₂ (fun call call' => call.1 = call'.1 ∧ R call.2 call'.2) x.calls y.calls

/-- Whether a relation between inputs is one that no parser can see: related inputs have the same
answers to everything that a parser asks of its input. -/
structure Indistinguishable (R : Value → Value → Prop) : Prop where
  /-- They are both empty or both not. -/
  isEmpty {i i' : Value} (h : R i i') : i.isEmpty = i'.isEmpty
  /-- They have the same first unit. -/
  item {i i' : Value} (h : R i i') : i.item 0 = i'.item 0
  /-- What remains behind the first unit is related again. -/
  tail {i i' : Value} (h : R i i') : SameOutcome R i.tail i'.tail
  /-- They compare alike with others. -/
  isShorter? {i i' j j' : Value} (h : R i i') (hj : R j j') : i.isShorter? j = i'.isShorter? j'
  /-- They can both be written or both not. -/
  isWritable {i i' : Value} (h : R i i') : i.isWritable = i'.isWritable

namespace Effect

variable {α β : Type} {Q : α → α → Prop} {P : β → β → Prop} {R : Value → Value → Prop}
  {x y : Effect α}

/-- Whether two effects have runs that are alike from every flag. -/
def Alike (Q : α → α → Prop) (R : Value → Value → Prop) (x y : Effect α) : Prop :=
  ∀ tracing, (x tracing).Alike Q R (y tracing)

lemma alike_ofExcept {o o' : Except Fault α} (h : SameOutcome Q o o') :
    Alike Q R (ofExcept o) (ofExcept o') :=
  fun _ => ⟨h, rfl, .nil⟩

/-- What does not depend on the input is the same in both runs. -/
lemma alike_self (o : Except Fault α) : Alike Eq R (ofExcept o) (ofExcept o) :=
  alike_ofExcept (.of_eq o)

lemma alike_pure {a b : α} (h : Q a b) : Alike Q R (pure a) (pure b) :=
  fun _ => ⟨.ok h, rfl, .nil⟩

/-- Effects that are alike still are if they go on alike from related values. -/
lemma Alike.bind {k l : α → Effect β} (h : Alike Q R x y)
    (hk : ∀ a b, Q a b → Alike P R (k a) (l b)) : Alike P R (x >>= k) (y >>= l) := by
  intro tracing
  obtain ⟨outcome, flag, calls⟩ := h tracing
  rw [bind_run, bind_run]
  generalize hx : (x tracing).outcome = ox at outcome
  generalize hy : (y tracing).outcome = oy at outcome
  cases outcome with
  | error fault =>
    rw [continueWith_of_error hx, continueWith_of_error hy]
    exact ⟨.error fault, flag, calls⟩
  | @ok a b hab =>
    obtain ⟨outcome', flag', calls'⟩ := hk a b hab (x tracing).tracing
    rw [continueWith_of_ok hx, continueWith_of_ok hy, ← flag]
    refine ⟨outcome', flag', ?_⟩
    simp only [Run.calls, List.filterMap_append] at calls calls' ⊢
    exact List.rel_append calls calls'

/-- A record of the trace is no call, so that it matters only whether it can be written. -/
lemma alike_trace {event event' : Event} (hw : event.isWritable = event'.isWritable)
    (h : event.call? = none) (h' : event'.call? = none) :
    Alike (fun _ _ => True) R (trace event) (trace event') := by
  intro tracing
  rw [trace_run, trace_run, hw]
  split
  · refine ⟨.ok trivial, rfl, ?_⟩
    simp only [Run.calls, List.filterMap_cons_none h, List.filterMap_cons_none h',
      List.filterMap_nil]
    exact .nil
  · exact ⟨.error _, rfl, .nil⟩

end Effect

/-! ### Leaves and names -/

namespace Parser

variable {α β : Type} {R : Value → Value → Prop} {i i' : Value}

/-- Whether a parser has runs that are alike on related inputs. -/
def Alike (R : Value → Value → Prop) (p : Parser α) : Prop :=
  ∀ i i', R i i' → Effect.Alike (Result.Alike R) R (p i) (p i')

lemma alike_unit (hR : Indistinguishable R) (test : Value → Except Fault Bool)
    (complaint : Value → Except Fault Value) : (unit test complaint).Alike R := by
  intro i i' hi
  unfold unit
  rw [hR.isEmpty hi, hR.item hi]
  refine (Effect.alike_self _).bind ?_
  rintro empty _ rfl
  cases empty with
  | true => exact Effect.alike_pure (.err _)
  | false =>
    refine (Effect.alike_self _).bind ?_
    rintro u _ rfl
    refine (Effect.alike_self _).bind ?_
    rintro passed _ rfl
    cases passed with
    | true =>
      exact (Effect.alike_ofExcept (hR.tail hi)).bind fun _ _ h => Effect.alike_pure (.ok u h)
    | false =>
      refine (Effect.alike_self _).bind ?_
      rintro m _ rfl
      exact Effect.alike_pure (.err m)

lemma alike_endOfInput (hR : Indistinguishable R) : endOfInput.Alike R := by
  intro i i' hi
  unfold endOfInput
  rw [hR.isEmpty hi, hR.item hi]
  refine (Effect.alike_self _).bind ?_
  rintro empty _ rfl
  cases empty with
  | true => exact Effect.alike_pure (.ok _ hi)
  | false =>
    refine (Effect.alike_self _).bind ?_
    rintro u _ rfl
    refine (Effect.alike_self _).bind ?_
    rintro m _ rfl
    exact Effect.alike_pure (.err m)

end Parser

namespace Result

variable {α β : Type} {R : Value → Value → Prop} {r r' : Result α}

lemma Alike.map (h : r.Alike R r') (f : α → Except Fault β) :
    SameOutcome (Alike R) (r.map f) (r'.map f) := by
  cases h with
  | err m => exact .ok (.err m)
  | ok v h =>
    simp only [Result.map]
    cases f v with
    | error fault => exact .error fault
    | ok w => exact .ok (.ok w h)

lemma Alike.validate (h : r.Alike R r') (m : Value) (test : α → Except Fault Bool) :
    SameOutcome (Alike R) (r.validate m test) (r'.validate m test) := by
  cases h with
  | err m' => exact .ok (.err m')
  | ok v h =>
    simp only [Result.validate]
    cases test v with
    | error fault => exact .error fault
    | ok passed =>
      cases passed with
      | true => exact .ok (.ok v h)
      | false => exact .ok (.err m)

lemma Alike.prepend {r r' : Result (List α)} (h : r.Alike R r') (v : α) :
    (Result.prepend v r).Alike R (Result.prepend v r') := by
  cases h with
  | err m => exact .err m
  | ok vs h => exact .ok (v :: vs) h

end Result

namespace Parser

variable {α β : Type} {R : Value → Value → Prop} {i i' : Value}

lemma Alike.fmap {p : Parser α} (hp : p.Alike R) (f : α → Except Fault β) : (p.fmap f).Alike R :=
  fun i i' hi => (hp i i' hi).bind fun _ _ h => Effect.alike_ofExcept (h.map f)

lemma alike_sequence {ps : List (Parser α)} (hps : ∀ p ∈ ps, p.Alike R) :
    (sequence ps).Alike R := by
  induction ps with
  | nil => exact fun i i' hi => Effect.alike_pure (.ok _ hi)
  | cons p ps ih =>
    intro i i' hi
    refine (hps p List.mem_cons_self i i' hi).bind ?_
    rintro _ _ (⟨v, hrest⟩ | m)
    · dsimp only
      rw [map_eq_pure_bind, map_eq_pure_bind]
      have later : (sequence ps).Alike R := ih fun q hq => hps q (List.mem_cons_of_mem _ hq)
      exact (later _ _ hrest).bind fun _ _ h => Effect.alike_pure (h.prepend v)
    · exact Effect.alike_pure (.err m)

lemma alike_literal (hR : Indistinguishable R) (units : List Value) :
    (literal units).Alike R := by
  refine (alike_sequence fun p hp => ?_).fmap _
  obtain ⟨u, -, rfl⟩ := List.mem_map.mp hp
  exact alike_unit hR _ _

/-- A name makes no difference between runs that are alike: their records can both be written or
both not. -/
lemma alike_named (hR : Indistinguishable R) (hi : R i i') {x y : Effect (Result Value)}
    (h : Effect.Alike (Result.Alike R) R x y) (name : Text) :
    Effect.Alike (Result.Alike R) R (named (fun _ => x) name i) (named (fun _ => y) name i') := by
  have flag : Effect.Alike Eq R Effect.isTracing Effect.isTracing := fun t => ⟨.ok rfl, rfl, .nil⟩
  refine flag.bind ?_
  rintro tracing _ rfl
  cases tracing with
  | false => exact h
  | true =>
    have opening : Effect.Alike (fun _ _ => True) R (Effect.trace (.tried name i))
        (Effect.trace (.tried name i')) :=
      Effect.alike_trace (hR.isWritable hi) rfl rfl
    refine opening.bind fun _ _ _ => h.bind fun r r' hr => ?_
    have close : Effect.Alike (fun _ _ => True) R (Effect.trace (closing name r))
        (Effect.trace (closing name r')) := by
      cases hr with
      | err m => exact Effect.alike_trace rfl rfl rfl
      | ok v hrest =>
        exact Effect.alike_trace (congrArg (v.isWritable && ·) (hR.isWritable hrest)) rfl rfl
    exact close.bind fun _ _ _ => Effect.alike_pure hr

/-- The record of a call holds the input. -/
lemma alike_spy (hi : R i i') {x y : Effect (Result Value)}
    (h : Effect.Alike (Result.Alike R) R x y) (label : Text) :
    Effect.Alike (Result.Alike R) R (spy (fun _ => x) label i) (spy (fun _ => y) label i') := by
  have record : Effect.Alike (fun _ _ => True) R (Effect.emit (.called label i))
      (Effect.emit (.called label i')) :=
    fun t => ⟨.ok trivial, rfl, .cons ⟨rfl, hi⟩ .nil⟩
  exact record.bind fun _ _ _ => h

end Parser

/-! ### Plans -/

/-- Whether two plans ask for the same expressions on related inputs, as long as the answers are
alike, and then finish alike. -/
inductive Plan.Alike (R : Value → Value → Prop) : Plan → Plan → Prop where
  /-- Both are finished. -/
  | finish {o o' : Except Fault (Result Value)} (h : SameOutcome (Result.Alike R) o o') :
    Alike R (.finish o) (.finish o')
  /-- Both ask for the same. -/
  | ask {d : Nat} {e : Expr} {i i' : Value} {next next' : Result Value → Plan} (hi : R i i')
    (h : ∀ r r', r.Alike R r' → Alike R (next r) (next' r')) :
    Alike R (.ask ⟨d, e, i⟩ next) (.ask ⟨d, e, i'⟩ next')

namespace Plan

variable {R : Value → Value → Prop} {d : Nat} {e : Expr} {i i' : Value}

lemma alike_result {r r' : Result Value} (h : r.Alike R r') :
    Alike R (finish (.ok r)) (finish (.ok r')) :=
  .finish (.ok h)

lemma alike_fault (fault : Fault) : Alike R (finish (.error fault)) (finish (.error fault)) :=
  .finish (.error fault)

lemma alike_leaf {p : Parser Value} (hp : p.Alike R) (hi : R i i') :
    Alike R (leaf p i) (leaf p i') :=
  .finish (hp i i' hi false).outcome

lemma alike_pass (hi : R i i') : Alike R (pass ⟨d, e, i⟩) (pass ⟨d, e, i'⟩) :=
  .ask hi fun _ _ h => alike_result h

lemma alike_follow {next next' : Value → Value → Plan} (hi : R i i')
    (h : ∀ v rest rest', R rest rest' → Alike R (next v rest) (next' v rest')) :
    Alike R (follow ⟨d, e, i⟩ next) (follow ⟨d, e, i'⟩ next') := by
  refine .ask hi ?_
  rintro _ _ (⟨v, hrest⟩ | m)
  · exact h v _ _ hrest
  · exact alike_result (.err m)

lemma alike_both (p q : Expr) (combine : Value → Value → Value) (hi : R i i') :
    Alike R (both ⟨d, p, i⟩ (⟨d, q, ·⟩) combine) (both ⟨d, p, i'⟩ (⟨d, q, ·⟩) combine) :=
  alike_follow hi fun v _ _ hrest =>
    alike_follow hrest fun w _ _ hrest' => alike_result (.ok (combine v w) hrest')

lemma alike_settle (least : Int) (m : Value) (hi : R i i') :
    Alike R (settle least m i) (settle least m i') := by
  unfold settle
  split
  · exact alike_result (.err m)
  · exact alike_result (.ok _ hi)

end Plan

namespace Grammar

variable {g : Grammar} {R : Value → Value → Prop} {ok : Expr → Prop}

open Plan in
/-- On related inputs a node has plans that are alike. -/
lemma plan_alike (hR : Indistinguishable R) (hok : ∀ r, ¬ ok (.constant r)) {d : Nat} {e : Expr}
    (he : e.Leaves ok) {i i' : Value} (hi : R i i') :
    Alike R (g.plan ⟨d, e, i⟩) (g.plan ⟨d, e, i'⟩) := by
  cases e with
  | char c => exact alike_leaf (Parser.alike_unit hR _ _) hi
  | literal us => exact alike_leaf (Parser.alike_literal hR us) hi
  | satisfy test => exact alike_leaf (Parser.alike_unit hR _ _) hi
  | endOfInput => exact alike_leaf (Parser.alike_endOfInput hR) hi
  | succeed v => exact alike_result (.ok v hi)
  | setTracing on => exact alike_result (.ok Value.null hi)
  | fail m => exact alike_result (.err m)
  | constant r => exact absurd he (hok r)
  | misfit v => exact alike_fault _
  | andThen p q => exact alike_both p q _ hi
  | takeFirst p q => exact alike_both p q _ hi
  | takeSecond p q => exact alike_both p q _ hi
  | sequence ps =>
    cases ps with
    | nil => exact alike_result (.ok _ hi)
    | cons p ps => exact alike_both p (.sequence ps) _ hi
  | times n p =>
    cases n with
    | zero => exact alike_result (.ok _ hi)
    | succ n => exact alike_both p (.times n p) _ hi
  | alt ps =>
    match ps with
    | [] => exact alike_result (.err _)
    | [p] => exact alike_pass hi
    | p :: q :: ps =>
      refine .ask hi ?_
      rintro _ _ (⟨v, hrest⟩ | m)
      · exact alike_result (.ok v hrest)
      · exact alike_pass hi
  | manyM least p =>
    refine .ask hi ?_
    rintro _ _ (⟨v, hrest⟩ | m)
    · -- the rests compare alike with the inputs, so that both loops go on or both stop
      dsimp only
      rw [hR.isShorter? hrest hi]
      split
      · exact alike_follow hrest fun w _ _ h => alike_result (.ok (v.cons w) h)
      · exact alike_settle _ _ hi
      · exact alike_fault _
    · exact alike_settle _ _ hi
  | optional p default =>
    refine .ask hi ?_
    rintro _ _ (⟨v, hrest⟩ | m)
    · exact alike_result (.ok v hrest)
    · exact alike_result (.ok default hi)
  | fmap f p => exact .ask hi fun _ _ h => .finish (h.map f)
  | validate p m test => exact .ask hi fun _ _ h => .finish (h.validate m test)
  | bind p next =>
    refine alike_follow hi fun v rest rest' hrest => ?_
    -- the function is given the same value in both runs
    cases next v with
    | ok e => exact alike_pass hrest
    | error fault => exact alike_fault fault
  | named p name => exact alike_pass hi
  | spy p label => exact alike_pass hi
  | ref name =>
    cases d with
    | zero => exact alike_fault _
    | succ d =>
      simp only [plan]
      cases g.rule name with
      | ok e => exact alike_pass hi
      | error fault => exact alike_fault fault

/-- Plans that are alike are carried out alike, if that is so of what they ask for. -/
lemma alike_carryOut {plan plan' : Plan} (hplan : plan.Alike R plan')
    (h : ∀ task, plan.Asks task → ∀ i', R task.input i' →
      Effect.Alike (Result.Alike R) R (g.run task) (g.run ⟨task.depth, task.expr, i'⟩)) :
    Effect.Alike (Result.Alike R) R (g.carryOut plan) (g.carryOut plan') := by
  induction hplan with
  | finish hout => exact Effect.alike_ofExcept hout
  | @ask d e i i' next next' hi _ ih =>
    refine (h ⟨d, e, i⟩ (.inl rfl) i' hi).bind fun r r' hr => ?_
    exact ih r r' hr fun task ha => h task (.inr ⟨r, ha⟩)

/-- **Runs on related inputs are alike.**  Two inputs that no parser can tell apart lead an
expression to the same outcome, up to the rests, through the same calls. -/
lemma alike_run (hR : Indistinguishable R) (hok : ∀ r, ¬ ok (.constant r)) (hg : g.Leaves ok)
    (task : Task) : task.expr.Leaves ok → ∀ i', R task.input i' →
      Effect.Alike (Result.Alike R) R (g.run task) (g.run ⟨task.depth, task.expr, i'⟩) := by
  induction task using g.task_induction with
  | step task ih =>
    intro he i' hi
    have plans : Effect.Alike (Result.Alike R) R (g.carryOut (g.plan task))
        (g.carryOut (g.plan ⟨task.depth, task.expr, i'⟩)) :=
      alike_carryOut (plan_alike hR hok he hi) fun task' ha i'' hi' =>
        ih task' ha (leaves_of_asks hg ha he) i'' hi'
    rw [run_eq g, run_eq g]
    obtain ⟨d, e, i⟩ := task
    cases e with
    | named p name => exact Parser.alike_named hR hi plans name
    | spy p label => exact Parser.alike_spy hi plans label
    | setTracing on =>
      have flag : Effect.Alike Eq R (Effect.setTracing on) (Effect.setTracing on) :=
        fun t => ⟨.ok rfl, rfl, .nil⟩
      exact flag.bind fun _ _ _ => plans
    | _ => exact plans

end Grammar

/-! ### The forms of a text -/

/-- The forms in which a text can be given to a parser. -/
inductive Form where
  /-- The text itself. -/
  | text
  /-- The list of its characters. -/
  | list
  /-- The tuple of its characters. -/
  | tuple
  deriving DecidableEq, Repr

namespace Form

/-- A text in one of the forms. -/
def value : Form → Text → Value
  | text, s => .text s
  | list, s => .list (s.map Value.unit)
  | tuple, s => .tuple (s.map Value.unit)

/-- Whether two values are the same text, each in a form of its own. -/
def SameText (f f' : Form) (v v' : Value) : Prop :=
  ∃ s, v = f.value s ∧ v' = f'.value s

lemma isEmpty_value (f : Form) (s : Text) : (f.value s).isEmpty = .ok s.isEmpty := by
  cases f with
  | text => rfl
  | list => exact congrArg Except.ok List.isEmpty_map
  | tuple => exact congrArg Except.ok List.isEmpty_map

lemma item_value (f : Form) (s : Text) (i : Nat) :
    (f.value s).item i = Value.found (s[i]?.map Value.unit) := by
  cases f with
  | text => rfl
  | list => exact congrArg Value.found List.getElem?_map
  | tuple => exact congrArg Value.found List.getElem?_map

lemma tail_value (f : Form) (s : Text) : (f.value s).tail = .ok (f.value s.tail) := by
  cases f with
  | text => rfl
  | list => exact congrArg (Except.ok ∘ Value.list) List.map_tail.symm
  | tuple => exact congrArg (Except.ok ∘ Value.tuple) List.map_tail.symm

lemma length?_value (f : Form) (s : Text) : (f.value s).length? = some s.length := by
  cases f with
  | text => rfl
  | list => exact congrArg some (List.length_map _)
  | tuple => exact congrArg some (List.length_map _)

lemma isWritable_value (f : Form) (s : Text) : (f.value s).isWritable = true := by
  have units : Value.areWritable (s.map Value.unit) = true := by
    induction s with
    | nil => rfl
    | cons c s ih => exact ih
  cases f with
  | text => rfl
  | list => exact units
  | tuple => exact units

/-- No parser can tell the forms of a text apart. -/
lemma indistinguishable (f f' : Form) : Indistinguishable (SameText f f') where
  isEmpty := by
    rintro _ _ ⟨s, rfl, rfl⟩
    rw [isEmpty_value, isEmpty_value]
  item := by
    rintro _ _ ⟨s, rfl, rfl⟩
    rw [item_value, item_value]
  tail := by
    rintro _ _ ⟨s, rfl, rfl⟩
    rw [tail_value, tail_value]
    exact .ok ⟨s.tail, rfl, rfl⟩
  isShorter? := by
    rintro _ _ _ _ ⟨s, rfl, rfl⟩ ⟨t, rfl, rfl⟩
    simp only [Value.isShorter?_eq, length?_value]
  isWritable := by
    rintro _ _ ⟨s, rfl, rfl⟩
    rw [isWritable_value, isWritable_value]

end Form

namespace Grammar

/-- **The form of a text does not matter.**  Without leaves that give a fixed result, an expression
comes to the same on a text in any of its forms: to the same value with the same text left, each in
its own form, to the same message, or to the same fault.  The recorded calls correspond position by
position in the same way. -/
theorem alike_of_sameText (g : Grammar) (hg : g.Leaves Expr.IsParser) (e : Expr)
    (he : e.Leaves Expr.IsParser) (s : Text) (tracing : Bool) (f f' : Form) :
    (g.parser e (f.value s) tracing).Alike (Result.Alike (f.SameText f')) (f.SameText f')
      (g.parser e (f'.value s) tracing) :=
  alike_run (f.indistinguishable f') (fun _ => id) hg ⟨maxDepth, e, f.value s⟩ he (f'.value s)
    ⟨s, rfl, rfl⟩ tracing

/-- A rule that refers to itself, with its runs recorded: as many letters `a` as there are. -/
def countedLetters : Grammar :=
  ⟨[(['w'], .spy (.optional (.andThen (.char (.unit 'a')) (.ref ['w'])) .null) ['s'])]⟩

theorem alike_of_sameText_countedLetters :
    (countedLetters.parser (.ref ['w']) (Form.list.value ['a', 'b']) true).outcome =
      .ok (.ok (.pair (.unit 'a') .null) (.list [.unit 'b'])) ∧
    (countedLetters.parser (.ref ['w']) (Form.list.value ['a', 'b']) true).calls =
      [(['s'], .list [.unit 'a', .unit 'b']), (['s'], .list [.unit 'b'])] ∧
    (countedLetters.parser (.ref ['w']) (Form.list.value ['a', 'b']) true).Alike
      (Result.Alike (Form.list.SameText .tuple)) (Form.list.SameText .tuple)
      (countedLetters.parser (.ref ['w']) (Form.tuple.value ['a', 'b']) true) := by
  have hg : countedLetters.Leaves Expr.IsParser :=
    leaves_of_rules fun rule h => List.mem_singleton.mp h ▸ ⟨trivial, trivial⟩
  exact ⟨rfl, rfl, alike_of_sameText countedLetters hg (.ref ['w']) trivial ['a', 'b'] true .list
    .tuple⟩

end Grammar

end GrammarKit
