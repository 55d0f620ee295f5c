/-
# Induction over what a run asks for

A plan asks for smaller tasks only: parts of its expression, the same loop with one round less to
go, or a rule of the grammar with less depth left.  `Plan.Asks` relates a plan to every task that it
could ask for, whatever the results, and `Grammar.founded` says that nothing can be asked for
without end.  The induction that follows, `Grammar.task_induction`, takes one case for each kind of
node, and none for the loops.
-/
import GrammarKit.Proofs.Plan

namespace GrammarKit

namespace Plan

/-- Whether a plan asks for a task, for some results of what it asks for before. -/
def Asks (task : Task) : Plan → Prop
  | finish _ => False
  | ask first next => task = first ∨ ∃ r, (next r).Asks task

variable {task first : Task}

@[simp] lemma asks_finish (outcome : Except Fault (Result Value)) :
    ¬ (finish outcome).Asks task := id

@[simp] lemma asks_yield (v rest : Value) : ¬ (yield v rest).Asks task := id

@[simp] lemma asks_leaf (p : Parser Value) (input : Value) : ¬ (leaf p input).Asks task := id

@[simp] lemma asks_settle (least : Int) (message input : Value) :
    ¬ (settle least message input).Asks task := by
  unfold settle
  split <;> exact id

@[simp] lemma asks_ask (next : Result Value → Plan) :
    (ask first next).Asks task ↔ task = first ∨ ∃ r, (next r).Asks task := Iff.rfl

@[simp] lemma asks_pass : (pass first).Asks task ↔ task = first := by
  simp [pass]

@[simp] lemma asks_follow (next : Value → Value → Plan) :
    (follow first next).Asks task ↔ task = first ∨ ∃ v rest, (next v rest).Asks task := by
  simp only [follow, asks_ask]
  refine or_congr_right ⟨?_, ?_⟩
  · rintro ⟨⟨v, rest⟩ | m, h⟩
    · exact ⟨v, rest, h⟩
    · exact absurd h (asks_finish _)
  · rintro ⟨v, rest, h⟩
    exact ⟨.ok v rest, h⟩

@[simp] lemma asks_both (second : Value → Task) (combine : Value → Value → Value) :
    (both first second combine).Asks task ↔ task = first ∨ ∃ rest, task = second rest := by
  simp only [both, asks_follow, asks_yield, exists_false, or_false]
  refine or_congr_right ⟨?_, fun h => ⟨.null, h⟩⟩
  rintro ⟨v, h⟩
  exact h

end Plan

namespace Grammar

variable (g : Grammar)

/-- An expression is founded if what its plans ask for, and what is asked for in turn, comes to an
end on every input. -/
def Founded (d : Nat) (e : Expr) : Prop :=
  ∀ i, Acc (fun task' task => (g.plan task).Asks task') ⟨d, e, i⟩

variable {g} {d : Nat} {p q e : Expr} {ps : List Expr}

/-- What asks for founded expressions only is founded. -/
lemma Founded.of_asks (h : ∀ i task, (g.plan ⟨d, e, i⟩).Asks task →
    ∃ e', g.Founded d e' ∧ ∃ i', task = ⟨d, e', i'⟩) : g.Founded d e := by
  refine fun i => .intro _ fun task ht => ?_
  obtain ⟨e', he', i', rfl⟩ := h i task ht
  exact he' i'

/-- A node with a single part is founded if that part is. -/
lemma founded_once (hp : g.Founded d p) (h : ∀ i, ∃ next, g.plan ⟨d, e, i⟩ = .ask ⟨d, p, i⟩ next ∧
    ∀ r task, ¬ (next r).Asks task) : g.Founded d e := by
  refine .of_asks fun i task ha => ?_
  obtain ⟨next, hplan, hnext⟩ := h i
  rw [hplan] at ha
  obtain rfl | ⟨r, hr⟩ := ha
  · exact ⟨p, hp, i, rfl⟩
  · exact absurd hr (hnext r task)

/-- A node that runs one part after the other is founded if both are. -/
lemma founded_both (hp : g.Founded d p) (hq : g.Founded d q) (h : ∀ i, ∃ combine,
    g.plan ⟨d, e, i⟩ = .both ⟨d, p, i⟩ (⟨d, q, ·⟩) combine) : g.Founded d e := by
  refine .of_asks fun i task ha => ?_
  obtain ⟨combine, hplan⟩ := h i
  rw [hplan, Plan.asks_both] at ha
  obtain rfl | ⟨rest, rfl⟩ := ha
  · exact ⟨p, hp, i, rfl⟩
  · exact ⟨q, hq, rest, rfl⟩

lemma founded_sequence (hps : ∀ p ∈ ps, g.Founded d p) : g.Founded d (.sequence ps) := by
  induction ps with
  | nil => exact .of_asks fun i task h => by simp [plan] at h
  | cons p ps ih =>
    refine .of_asks fun i task h => ?_
    obtain rfl | ⟨rest, rfl⟩ := (Plan.asks_both _ _).mp h
    · exact ⟨_, hps p List.mem_cons_self, _, rfl⟩
    · exact ⟨_, ih fun q hq => hps q (List.mem_cons_of_mem _ hq), _, rfl⟩

lemma founded_times (hp : g.Founded d p) (n : Nat) : g.Founded d (.times n p) := by
  induction n with
  | zero => exact .of_asks fun i task h => by simp [plan] at h
  | succ n ih =>
    refine .of_asks fun i task h => ?_
    obtain rfl | ⟨rest, rfl⟩ := (Plan.asks_both _ _).mp h
    · exact ⟨_, hp, _, rfl⟩
    · exact ⟨_, ih, _, rfl⟩

lemma founded_alt (hps : ∀ p ∈ ps, g.Founded d p) : g.Founded d (.alt ps) := by
  induction ps with
  | nil => exact .of_asks fun i task h => by simp [plan] at h
  | cons p ps ih =>
    refine .of_asks fun i task h => ?_
    cases ps with
    | nil =>
      rw [plan, Plan.asks_pass] at h
      exact ⟨_, hps p List.mem_cons_self, _, h⟩
    | cons q ps =>
      simp only [plan, Plan.asks_ask] at h
      obtain rfl | ⟨_ | m, h⟩ := h
      · exact ⟨_, hps p List.mem_cons_self, _, rfl⟩
      · exact absurd h (Plan.asks_yield _ _)
      · exact ⟨_, ih fun q hq => hps q (List.mem_cons_of_mem _ hq), _, Plan.asks_pass.mp h⟩

/-- A repetition asks for the same repetition again, but on a shorter input. -/
lemma founded_manyM (hp : g.Founded d p) (least : Int) : g.Founded d (.manyM least p) := by
  intro i
  -- the least number of rounds changes along the way, and can become negative
  induction hn : i.length?.getD 0 using Nat.strongRecOn generalizing least i with
  | ind n ih =>
    refine .intro _ fun task h => ?_
    simp only [plan, Plan.asks_ask] at h
    obtain rfl | ⟨⟨v, rest⟩ | m, h⟩ := h
    · exact hp i
    · dsimp only at h
      split at h
      · rename_i shorter
        simp only [Plan.asks_follow, Plan.asks_yield, exists_false, or_false] at h
        subst h
        exact ih _ (hn ▸ Value.length?_lt_of_isShorter? shorter) (least - 1) rest rfl
      · exact absurd h (Plan.asks_settle _ _ _)
      · exact absurd h (Plan.asks_finish _)
    · exact absurd h (Plan.asks_settle _ _ _)

lemma founded_bind {next : Value → Except Fault Expr} (hp : g.Founded d p)
    (hnext : ∀ v e, next v = .ok e → g.Founded d e) : g.Founded d (.bind p next) := by
  refine .of_asks fun i task h => ?_
  simp only [plan, Plan.asks_follow] at h
  obtain rfl | ⟨v, rest, h⟩ := h
  · exact ⟨_, hp, _, rfl⟩
  · split at h
    · rename_i e he
      exact ⟨e, hnext v e he, rest, Plan.asks_pass.mp h⟩
    · exact absurd h (Plan.asks_finish _)

/-- What asks for nothing is founded. -/
lemma founded_of_not_asks (h : ∀ i task, ¬ (g.plan ⟨d, e, i⟩).Asks task) : g.Founded d e :=
  .of_asks fun i task ha => absurd ha (h i task)

mutual

/-- Every expression is founded if the references are. -/
theorem founded_expr (refs : ∀ name, g.Founded d (.ref name)) : ∀ e, g.Founded d e
  | .char _ | .literal _ | .satisfy _ | .endOfInput => founded_of_not_asks fun _ _ => id
  | .succeed _ | .fail _ | .setTracing _ | .constant _ | .misfit _ =>
    founded_of_not_asks fun _ _ => id
  | .andThen p q => founded_both (founded_expr refs p) (founded_expr refs q) fun _ => ⟨_, rfl⟩
  | .takeFirst p q => founded_both (founded_expr refs p) (founded_expr refs q) fun _ => ⟨_, rfl⟩
  | .takeSecond p q => founded_both (founded_expr refs p) (founded_expr refs q) fun _ => ⟨_, rfl⟩
  | .sequence ps => founded_sequence (founded_exprs refs ps)
  | .times n p => founded_times (founded_expr refs p) n
  | .alt ps => founded_alt (founded_exprs refs ps)
  | .manyM least p => founded_manyM (founded_expr refs p) least
  | .optional p _ => founded_once (founded_expr refs p) fun _ => ⟨_, rfl, fun r _ => by
    cases r <;> exact Plan.asks_yield _ _⟩
  | .fmap _ p => founded_once (founded_expr refs p) fun _ => ⟨_, rfl, fun _ _ => id⟩
  | .validate p _ _ => founded_once (founded_expr refs p) fun _ => ⟨_, rfl, fun _ _ => id⟩
  | .bind p next =>
    founded_bind (founded_expr refs p) fun v => founded_made refs (next v)
  | .named p _ => founded_once (founded_expr refs p) fun _ => ⟨_, rfl, fun _ _ => id⟩
  | .spy p _ => founded_once (founded_expr refs p) fun _ => ⟨_, rfl, fun _ _ => id⟩
  | .ref name => refs name
termination_by structural e => e

/-- Every expression of a list is founded if the references are. -/
theorem founded_exprs (refs : ∀ name, g.Founded d (.ref name)) :
    ∀ ps : List Expr, ∀ p ∈ ps, g.Founded d p
  | [] => fun _ h => absurd h List.not_mem_nil
  | p :: ps => fun q hq => by
    rcases List.mem_cons.mp hq with h | h
    · exact h ▸ founded_expr refs p
    · exact founded_exprs refs ps q h
termination_by structural ps => ps

/-- An expression that a function has made is founded if the references are. -/
theorem founded_made (refs : ∀ name, g.Founded d (.ref name)) :
    ∀ made : Except Fault Expr, ∀ e, made = .ok e → g.Founded d e
  | .ok e => fun _ h => Except.ok.inj h ▸ founded_expr refs e
  | .error _ => fun _ h => nomatch h
termination_by structural made => made

end

variable (g) in
/-- References are founded, as each of them uses up some of the depth. -/
theorem founded (d : Nat) (e : Expr) : g.Founded d e := by
  induction d generalizing e with
  | zero => exact founded_expr (fun _ => founded_of_not_asks fun _ _ => id) e
  | succ d ih =>
    -- below this depth every expression is founded, and a rule is one
    refine founded_expr (fun name i => .intro _ fun task h => ?_) e
    rw [plan] at h
    split at h
    · exact Plan.asks_pass.mp h ▸ ih _ i
    · exact absurd h (Plan.asks_finish _)

/-- **Induction over what is asked for.**  What passes from the tasks that a plan could ask for to
the task itself holds of all tasks. -/
theorem task_induction (g : Grammar) {motive : Task → Prop}
    (step : ∀ task, (∀ task', (g.plan task).Asks task' → motive task') → motive task)
    (task : Task) : motive task := by
  have founded : Acc (fun task' task => (g.plan task).Asks task') task :=
    g.founded task.depth task.expr task.input
  induction founded with
  | intro task _ ih => exact step task ih

end Grammar

end GrammarKit
