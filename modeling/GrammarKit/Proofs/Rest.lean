/-
# What a run leaves of its input

A parser that succeeds hands on what it has left of its input.  `Value.IsRestOf` says what that can
be: of a sequence, the sequence without some of its units in front; of any other value, the value
itself.  No combinator makes up an input, puts units into another order, takes a unit from the
middle or goes back behind its own input, which is `Grammar.leavesRestOf_runJob`.

Only an expression that gives a fixed result can leave anything it likes.
-/
import GrammarKit.Proofs.Leaves

namespace GrammarKit

namespace Value

/-- Whether a value is what is left of another: of a sequence, the same sequence without its first
units, and of any other value nothing less than all of it. -/
def IsRestOf (rest : Value) : Value → Prop
  | .text s => ∃ k ≤ s.length, rest = .text (s.drop k)
  | .bytes bs => ∃ k ≤ bs.length, rest = .bytes (bs.drop k)
  | .list vs => ∃ k ≤ vs.length, rest = .list (vs.drop k)
  | .tuple vs => ∃ k ≤ vs.length, rest = .tuple (vs.drop k)
  | input => rest = input

lemma IsRestOf.refl (v : Value) : v.IsRestOf v := by
  cases v with
  | text s => exact ⟨0, Nat.zero_le _, rfl⟩
  | bytes bs => exact ⟨0, Nat.zero_le _, rfl⟩
  | list vs => exact ⟨0, Nat.zero_le _, rfl⟩
  | tuple vs => exact ⟨0, Nat.zero_le _, rfl⟩
  | _ => rfl

private lemma add_le_length {α : Type} {xs : List α} {k l : Nat} (hl : l ≤ xs.length)
    (hk : k ≤ (xs.drop l).length) : l + k ≤ xs.length := by
  rw [List.length_drop] at hk
  omega

lemma IsRestOf.trans {u v w : Value} (huv : u.IsRestOf v) (hvw : v.IsRestOf w) : u.IsRestOf w := by
  cases w with
  | text s =>
    obtain ⟨l, hl, rfl⟩ := hvw
    obtain ⟨k, hk, rfl⟩ := huv
    exact ⟨l + k, add_le_length hl hk, congrArg text List.drop_drop⟩
  | bytes bs =>
    obtain ⟨l, hl, rfl⟩ := hvw
    obtain ⟨k, hk, rfl⟩ := huv
    exact ⟨l + k, add_le_length hl hk, congrArg bytes List.drop_drop⟩
  | list vs =>
    obtain ⟨l, hl, rfl⟩ := hvw
    obtain ⟨k, hk, rfl⟩ := huv
    exact ⟨l + k, add_le_length hl hk, congrArg list List.drop_drop⟩
  | tuple vs =>
    obtain ⟨l, hl, rfl⟩ := hvw
    obtain ⟨k, hk, rfl⟩ := huv
    exact ⟨l + k, add_le_length hl hk, congrArg tuple List.drop_drop⟩
  | _ =>
    cases hvw
    exact huv

private lemma one_le_length {α : Type} {xs : List α} (h : xs.isEmpty = false) :
    1 ≤ xs.length :=
  List.length_pos_iff.mpr (List.isEmpty_eq_false_iff.mp h)

/-- What remains behind the first unit is what is left once that unit is taken. -/
lemma isRestOf_tail {input rest : Value} (hne : input.isEmpty = .ok false)
    (h : input.tail = .ok rest) : rest.IsRestOf input := by
  cases input with
  | text s =>
    cases h
    exact ⟨1, one_le_length (Except.ok.inj hne), by rw [List.drop_one]⟩
  | bytes bs =>
    cases h
    exact ⟨1, one_le_length (Except.ok.inj hne), by rw [List.drop_one]⟩
  | list vs =>
    cases h
    exact ⟨1, one_le_length (Except.ok.inj hne), by rw [List.drop_one]⟩
  | tuple vs =>
    cases h
    exact ⟨1, one_le_length (Except.ok.inj hne), by rw [List.drop_one]⟩
  | _ => cases h

end Value

/-- Whether a result, if it is a success, leaves a part of the given input. -/
def Result.LeavesRestOf {α : Type} (input : Value) : Result α → Prop
  | .ok _ rest => rest.IsRestOf input
  | .err _ => True

lemma Result.LeavesRestOf.trans {α : Type} {r : Result α} {rest input : Value}
    (hr : r.LeavesRestOf rest) (h : rest.IsRestOf input) : r.LeavesRestOf input := by
  cases r with
  | ok v rest' => exact Value.IsRestOf.trans hr h
  | err m => trivial

lemma Result.leavesRestOf_map {α β : Type} {f : α → Except Fault β} {input : Value}
    {r : Result α} {s : Result β} (h : r.map f = .ok s) (hr : r.LeavesRestOf input) :
    s.LeavesRestOf input := by
  cases r with
  | err m =>
    cases h
    trivial
  | ok v rest =>
    cases hf : f v with
    | error fault => simp [map, hf, bind, Except.bind] at h
    | ok w =>
      simp only [map, hf] at h
      cases h
      exact hr

lemma Result.leavesRestOf_validate {α : Type} {message : Value} {test : α → Except Fault Bool}
    {input : Value} {r s : Result α} (h : r.validate message test = .ok s)
    (hr : r.LeavesRestOf input) : s.LeavesRestOf input := by
  cases r with
  | err m =>
    cases h
    trivial
  | ok v rest =>
    cases ht : test v with
    | error fault => simp [validate, ht, bind, Except.bind] at h
    | ok b =>
      simp only [validate, ht] at h
      cases h
      cases b with
      | true => exact hr
      | false => trivial

/-! ### Leaves -/

namespace Effect

variable {α β : Type}

/-- Steps come to a value if the first of them does and what follows it does. -/
lemma bind_outcome_eq_ok {x : Effect α} {k : α → Effect β} {tracing : Bool} {b : β} :
    ((x >>= k) tracing).outcome = .ok b ↔ ∃ a, (x tracing).outcome = .ok a ∧
      (k a (x tracing).tracing).outcome = .ok b := by
  rw [bind_run]
  rcases x tracing with ⟨fault | a, t, events⟩
  · simp
  · simp

end Effect

namespace Parser

variable {α β : Type}

/-- Whether a parser leaves a part of its input whenever it succeeds. -/
def LeavesRest (p : Parser α) : Prop :=
  ∀ input tracing r, (p input tracing).outcome = .ok r → r.LeavesRestOf input

/-- A unit that is taken is the first one, and the rest is what remains behind it. -/
lemma unit_eq_ok {test : Value → Except Fault Bool} {complaint : Value → Except Fault Value}
    {input v rest : Value} {tracing : Bool}
    (h : (unit test complaint input tracing).outcome = .ok (.ok v rest)) :
    input.isEmpty = .ok false ∧ input.item 0 = .ok v ∧ test v = .ok true ∧
      input.tail = .ok rest := by
  obtain ⟨empty, hempty, h⟩ := Effect.bind_outcome_eq_ok.mp h
  cases empty with
  | true => cases h
  | false =>
    obtain ⟨u, hu, h⟩ := Effect.bind_outcome_eq_ok.mp h
    obtain ⟨b, hb, h⟩ := Effect.bind_outcome_eq_ok.mp h
    cases b with
    | true =>
      obtain ⟨r, hr, h⟩ := Effect.bind_outcome_eq_ok.mp h
      cases h
      exact ⟨hempty, hu, hb, hr⟩
    | false =>
      obtain ⟨m, -, h⟩ := Effect.bind_outcome_eq_ok.mp h
      cases h

lemma leavesRest_unit (test : Value → Except Fault Bool) (complaint : Value → Except Fault Value) :
    (unit test complaint).LeavesRest := by
  intro input tracing r h
  cases r with
  | ok v rest =>
    obtain ⟨hne, -, -, htail⟩ := unit_eq_ok h
    exact Value.isRestOf_tail hne htail
  | err m => trivial

lemma leavesRest_endOfInput : endOfInput.LeavesRest := by
  intro input tracing r h
  obtain ⟨empty, -, h⟩ := Effect.bind_outcome_eq_ok.mp h
  cases empty with
  | true =>
    cases h
    exact .refl input
  | false =>
    obtain ⟨u, -, h⟩ := Effect.bind_outcome_eq_ok.mp h
    obtain ⟨m, -, h⟩ := Effect.bind_outcome_eq_ok.mp h
    cases h
    trivial

lemma LeavesRest.fmap {p : Parser α} (hp : p.LeavesRest) (f : α → Except Fault β) :
    (p.fmap f).LeavesRest := by
  intro input tracing r h
  obtain ⟨s, hs, h⟩ := Effect.bind_outcome_eq_ok.mp h
  exact Result.leavesRestOf_map h (hp input tracing s hs)

lemma leavesRest_sequence {ps : List (Parser α)} (hps : ∀ p ∈ ps, p.LeavesRest) :
    (sequence ps).LeavesRest := by
  induction ps with
  | nil =>
    intro input tracing r h
    cases h
    exact .refl input
  | cons p ps ih =>
    intro input tracing r h
    obtain ⟨s, hs, h⟩ := Effect.bind_outcome_eq_ok.mp h
    cases s with
    | err m =>
      cases h
      trivial
    | ok v rest =>
      have hrest : rest.IsRestOf input := hps p List.mem_cons_self input tracing _ hs
      dsimp only at h
      rw [map_eq_pure_bind] at h
      obtain ⟨u, hu, h⟩ := Effect.bind_outcome_eq_ok.mp h
      have hu := ih (fun q hq => hps q (List.mem_cons_of_mem _ hq)) rest _ u hu
      cases h
      cases u with
      | err m => trivial
      | ok vs rest' => exact Value.IsRestOf.trans hu hrest

lemma leavesRest_literal (units : List Value) : (literal units).LeavesRest := by
  refine (leavesRest_sequence fun p hp => ?_).fmap _
  obtain ⟨u, -, rfl⟩ := List.mem_map.mp hp
  exact leavesRest_unit _ _

end Parser

/-! ### Nodes and runs -/

namespace Plan

variable {g : Grammar} {asked : Task → Prop} {answers : Job → Result Value → Prop} {input : Value}
  {tracing : Bool}

/-- An outcome that is no success, or one that leaves a part of the input. -/
def Keeps (input : Value) (outcome : Except Fault (Result Value)) : Prop :=
  ∀ r, outcome = .ok r → r.LeavesRestOf input

lemma keeps_ok {r : Result Value} (h : r.LeavesRestOf input) : Keeps input (.ok r) := by
  rintro _ ⟨⟩
  exact h

lemma keeps_error (fault : Fault) : Keeps input (.error fault) := nofun

lemma holds_leaf_of_leavesRest {p : Parser Value} (hp : p.LeavesRest) :
    (leaf p input).Holds g asked answers (Keeps input) tracing :=
  hp input false

/-- What two parts leave, one after the other, is a part of what they started from. -/
lemma holds_both_rest (d : Nat) (p q : Expr) (input : Value) (combine : Value → Value → Value) :
    (both ⟨d, p, input⟩ (⟨d, q, ·⟩) combine).Holds g (fun task => task.input.IsRestOf input)
      (fun job r => r.LeavesRestOf job.task.input) (Keeps input) tracing := by
  refine holds_both (.refl input) ?_ ?_ ?_ ?_
  · intro v rest hrest
    exact hrest
  · intro v rest hrest t w rest' hrest'
    exact keeps_ok (Value.IsRestOf.trans hrest' hrest)
  · intro m _
    exact keeps_ok trivial
  · intro rest t m _
    exact keeps_ok trivial

end Plan

namespace Grammar

variable {g : Grammar} {ok : Expr → Prop}

open Plan in
/-- What a node asks for is run on a part of its input, and if the answers leave parts of their
inputs, so does the node. -/
lemma holds_rest (hok : ∀ r, ¬ ok (.constant r)) {task : Task} (h : task.expr.Leaves ok)
    (tracing : Bool) :
    (g.plan task).Holds g (fun task' => task'.input.IsRestOf task.input)
      (fun job r => r.LeavesRestOf job.task.input) (Keeps task.input) tracing := by
  obtain ⟨d, e, i⟩ := task
  have start : i.IsRestOf i := .refl i
  cases e with
  | char c => exact holds_leaf_of_leavesRest (Parser.leavesRest_unit _ _)
  | literal us => exact holds_leaf_of_leavesRest (Parser.leavesRest_literal us)
  | satisfy test => exact holds_leaf_of_leavesRest (Parser.leavesRest_unit _ _)
  | endOfInput => exact holds_leaf_of_leavesRest Parser.leavesRest_endOfInput
  | succeed v => exact keeps_ok start
  | setTracing on => exact keeps_ok start
  | fail m => exact keeps_ok trivial
  | constant r => exact absurd h (hok r)
  | misfit v => exact keeps_error _
  | andThen p q => exact holds_both_rest d p q i _
  | takeFirst p q => exact holds_both_rest d p q i _
  | takeSecond p q => exact holds_both_rest d p q i _
  | sequence ps =>
    cases ps with
    | nil => exact keeps_ok start
    | cons p ps => exact holds_both_rest d p (.sequence ps) i _
  | times n p =>
    cases n with
    | zero => exact keeps_ok start
    | succ n => exact holds_both_rest d p (.times n p) i _
  | alt ps =>
    match ps with
    | [] => exact keeps_ok trivial
    | [p] => exact holds_pass start fun r hr => keeps_ok hr
    | p :: q :: ps =>
      refine ⟨start, fun r hr => ?_⟩
      cases r with
      | ok v rest => exact keeps_ok hr
      | err m => exact holds_pass start fun r hr => keeps_ok hr
  | manyM least p =>
    refine ⟨start, fun r hr => ?_⟩
    cases r with
    | err m => exact holds_settle (keeps_ok trivial) (keeps_ok start)
    | ok v rest =>
      have hrest : rest.IsRestOf i := hr
      dsimp only
      -- a round that goes on starts where the part has stopped; the last one gives back its input
      split
      · exact holds_follow hrest (fun w rest' h => keeps_ok (h.trans hrest))
          fun m _ => keeps_ok trivial
      · exact holds_settle (keeps_ok trivial) (keeps_ok start)
      · exact keeps_error _
  | optional p default =>
    refine ⟨start, fun r hr => ?_⟩
    cases r with
    | ok v rest => exact keeps_ok hr
    | err m => exact keeps_ok start
  | fmap f p => exact ⟨start, fun r hr s hs => Result.leavesRestOf_map hs hr⟩
  | validate p m test => exact ⟨start, fun r hr s hs => Result.leavesRestOf_validate hs hr⟩
  | bind p next =>
    refine holds_follow start (fun v rest hrest => ?_) fun m _ => keeps_ok trivial
    cases next v with
    | ok e => exact holds_pass hrest fun r hr => keeps_ok (hr.trans hrest)
    | error fault => exact keeps_error _
  | named p name => exact holds_pass start fun r hr => keeps_ok hr
  | spy p label => exact holds_pass start fun r hr => keeps_ok hr
  | ref name =>
    cases d with
    | zero => exact keeps_error _
    | succ d =>
      simp only [plan]
      cases g.rule name with
      | ok e => exact holds_pass start fun r hr => keeps_ok hr
      | error fault => exact keeps_error _

/-- What is left of a part of the input is left of the input. -/
lemma leavesRestOf_runJob (hok : ∀ r, ¬ ok (.constant r)) (hg : g.Leaves ok) (task : Task) :
    task.expr.Leaves ok → ∀ tracing, Plan.Keeps task.input (g.runJob ⟨task, tracing⟩).outcome := by
  induction task using g.task_induction with
  | step task ih =>
    intro he tracing
    refine outcome_of_holds (holds_rest hok he tracing) ?_ ?_ ?_
    · intro job hcall _ r hr
      have hleaves : job.task.expr.Leaves ok := leaves_of_asks hg hcall.asks he
      exact ih job.task hcall.asks hleaves job.tracing r hr
    · intro job _ _ fault _
      exact Plan.keeps_error fault
    · intro _
      exact Plan.keeps_error _

/-- What a job calls is run on a part of its input. -/
lemma isRestOf_of_calls (hok : ∀ r, ¬ ok (.constant r)) (hg : g.Leaves ok) {job job' : Job}
    (he : job.task.expr.Leaves ok) (hcall : g.Calls job job') :
    job'.task.input.IsRestOf job.task.input := by
  refine asked_of_calls (holds_rest hok he job.tracing) ?_ hcall
  intro called hcalled _ r hr
  have hleaves : called.task.expr.Leaves ok := leaves_of_asks hg hcalled.asks he
  exact leavesRestOf_runJob hok hg called.task hleaves called.tracing r hr

/-- **A run leaves a part of its input.**  Without leaves that give a fixed result, neither in the
expression nor in the rules it refers to, whatever a success leaves is what remains of the input
once some units are taken off its front; an input that is no sequence is left as it is. -/
theorem isRestOf_of_ok (g : Grammar) (hg : g.Leaves Expr.IsParser) (e : Expr)
    (he : e.Leaves Expr.IsParser) (input : Value) (tracing : Bool) (v rest : Value)
    (h : (g.parser e input tracing).outcome = .ok (.ok v rest)) : rest.IsRestOf input :=
  leavesRestOf_runJob (fun _ => id) hg ⟨maxDepth, e, input⟩ he tracing (.ok v rest) h

/-- A rule that refers to itself: any number of letters `a`, and then a digit. -/
def lettersAndDigit : Grammar :=
  ⟨[(['w'], .alt [.andThen (.char (.unit 'a')) (.ref ['w']), .char (.unit '7')])]⟩

theorem isRestOf_of_ok_lettersAndDigit :
    (lettersAndDigit.parser (.ref ['w']) (.text ['a', 'a', '7', '!']) true).outcome =
      .ok (.ok (.pair (.unit 'a') (.pair (.unit 'a') (.unit '7'))) (.text ['!'])) ∧
    (Value.text ['!']).IsRestOf (.text ['a', 'a', '7', '!']) := by
  have hg : lettersAndDigit.Leaves Expr.IsParser :=
    leaves_of_rules fun rule h => List.mem_singleton.mp h ▸ ⟨⟨trivial, trivial⟩, trivial, trivial⟩
  exact ⟨rfl, isRestOf_of_ok lettersAndDigit hg (.ref ['w']) trivial _ true _ _ rfl⟩

end Grammar

end GrammarKit
