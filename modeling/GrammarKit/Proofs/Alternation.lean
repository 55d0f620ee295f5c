/-
# One parser or another

A choice tries its alternatives on the same input until one does not fail.  The first part of this
file is about the bracketing of choices: `Choice` is the type of trees whose nodes are choices, of
two or of any positive number of parts, and a tree comes to the same as the flat choice between its
leaves, read from left to right.  The tree may be one of parsers or one of expressions, and so it is
built from whatever stands at its leaves, by `Choice.build`.

The second part says what a flat choice does, in terms of the runs that its alternatives have on the
input one after the other, `Parser.runsOn`.  They are made up to the first that does not end in a
failure, or to the last of all, and `Parser.EndsAt` says which one that is; its outcome is that of
the choice.
-/
import GrammarKit.Proofs.Job

namespace GrammarKit

/-- A choice between things of a type, in some bracketing. -/
inductive Choice (α : Type) where
  /-- A single alternative. -/
  | one (a : α)
  /-- A choice, or another one where it fails. -/
  | orElse (c d : Choice α)
  /-- The first of some choices that succeeds.  There is at least one. -/
  | anyOf (c : Choice α) (cs : List (Choice α))

namespace Choice

variable {α : Type}

section

variable (either : α → α → α) (any : List α → α)

mutual

/-- What a choice comes to, if two alternatives are joined by one function and a list of them by
another. -/
def build : Choice α → α
  | one a => a
  | orElse c d => either (build c) (build d)
  | anyOf c cs => any (build c :: buildAll cs)
termination_by structural c => c

/-- What each of some choices comes to. -/
def buildAll : List (Choice α) → List α
  | [] => []
  | c :: cs => build c :: buildAll cs
termination_by structural cs => cs

end

end

mutual

/-- The alternatives of a choice, from left to right. -/
def leaves : Choice α → List α
  | one a => [a]
  | orElse c d => leaves c ++ leaves d
  | anyOf c cs => (leaves c :: allLeaves cs).flatten
termination_by structural c => c

/-- The alternatives of each of some choices. -/
def allLeaves : List (Choice α) → List (List α)
  | [] => []
  | c :: cs => leaves c :: allLeaves cs
termination_by structural cs => cs

end

/-- The parser that a choice between parsers is. -/
def parser (c : Choice (Parser α)) : Parser α :=
  c.build (fun p q => Parser.alt [p, q]) Parser.alt

/-- The expression that a choice between expressions is. -/
def expr (c : Choice Expr) : Expr :=
  c.build Expr.orElse Expr.alt

mutual

/-- A choice has alternatives. -/
theorem leaves_ne_nil : ∀ c : Choice α, c.leaves ≠ []
  | one a => List.cons_ne_nil a []
  | orElse c _ => List.append_ne_nil_of_left_ne_nil (leaves_ne_nil c) _
  | anyOf c _ => List.append_ne_nil_of_left_ne_nil (leaves_ne_nil c) _
termination_by structural c => c

/-- Each of some choices has alternatives. -/
theorem allLeaves_ne_nil : ∀ cs : List (Choice α), ∀ as ∈ allLeaves cs, as ≠ []
  | [] => fun _ h => absurd h List.not_mem_nil
  | c :: cs => fun as h => by
    rcases List.mem_cons.mp h with rfl | h
    · exact leaves_ne_nil c
    · exact allLeaves_ne_nil cs as h
termination_by structural cs => cs

end

end Choice

/-! ### The bracketing does not matter -/

namespace Parser

variable {α : Type}

/-- A parser, or another one where it fails. -/
def orElse (p q : Parser α) : Parser α :=
  fun input => do
    match ← p input with
    | .ok v rest => return .ok v rest
    | .err _ => q input

lemma orElse_assoc (p q r : Parser α) : (p.orElse q).orElse r = p.orElse (q.orElse r) := by
  funext input
  refine Effect.map_bind_congr fun s => ?_
  cases s <;> rfl

lemma alt_cons (p : Parser α) {ps : List (Parser α)} (h : ps ≠ []) :
    alt (p :: ps) = p.orElse (alt ps) := by
  cases ps with
  | nil => exact absurd rfl h
  | cons q ps => rfl

lemma alt_append {ps qs : List (Parser α)} (hp : ps ≠ []) (hq : qs ≠ []) :
    alt (ps ++ qs) = (alt ps).orElse (alt qs) := by
  induction ps with
  | nil => exact absurd rfl hp
  | cons p ps ih =>
    by_cases hps : ps = []
    · subst hps
      exact alt_cons p hq
    · have hne : ps ++ qs ≠ [] := List.append_ne_nil_of_left_ne_nil hps qs
      rw [List.cons_append, alt_cons p hne, ih hps, alt_cons p hps, orElse_assoc]

/-- A choice between choices is the choice between all of their alternatives. -/
lemma alt_map_alt {pss : List (List (Parser α))} (h : ∀ ps ∈ pss, ps ≠ []) :
    alt (pss.map alt) = alt pss.flatten := by
  induction pss with
  | nil => rfl
  | cons ps pss ih =>
    have hps : ps ≠ [] := h ps List.mem_cons_self
    have hpss : ∀ qs ∈ pss, qs ≠ [] := fun qs hqs => h qs (List.mem_cons_of_mem ps hqs)
    by_cases hne : pss = []
    · subst hne
      rw [List.flatten_cons, List.flatten_nil, List.append_nil]
      rfl
    · have hmap : pss.map alt ≠ [] := fun hnil => hne (List.map_eq_nil_iff.mp hnil)
      have hflat : pss.flatten ≠ [] := by
        obtain ⟨qs, hqs⟩ := List.exists_mem_of_ne_nil pss hne
        exact List.flatten_ne_nil_iff.mpr ⟨qs, hqs, hpss qs hqs⟩
      rw [List.map_cons, alt_cons _ hmap, ih hpss, List.flatten_cons, alt_append hps hflat]

end Parser

namespace Choice

variable {α β : Type}

/-- Whether two functions that join things, a pair and a list of them, mean the choice between the
parsers that the things mean. -/
structure Joins (meaning : β → Parser α) (either : β → β → β) (any : List β → β) : Prop where
  either : ∀ b c, meaning (either b c) = Parser.alt [meaning b, meaning c]
  any : ∀ bs, meaning (any bs) = Parser.alt (bs.map meaning)

section

variable {either : β → β → β} {any : List β → β} {meaning : β → Parser α}

mutual

/-- What a choice comes to means the choice between what its alternatives mean. -/
theorem Joins.build (h : Joins meaning either any) : ∀ c : Choice β,
    meaning (c.build either any) = Parser.alt (c.leaves.map meaning)
  | one _ => rfl
  | orElse c d => by
    have hne (c : Choice β) : c.leaves.map meaning ≠ [] :=
      fun hnil => leaves_ne_nil c (List.map_eq_nil_iff.mp hnil)
    rw [Choice.build, h.either, h.build c, h.build d, leaves, List.map_append,
      Parser.alt_append (hne c) (hne d)]
    rfl
  | anyOf c cs => by
    have hne : ∀ ps ∈ (leaves c :: allLeaves cs).map (List.map meaning), ps ≠ [] := by
      intro ps hps
      obtain ⟨bs, hbs, rfl⟩ := List.mem_map.mp hps
      have hleaves : bs ≠ [] := by
        rcases List.mem_cons.mp hbs with rfl | hbs
        · exact leaves_ne_nil c
        · exact allLeaves_ne_nil cs bs hbs
      exact fun hnil => hleaves (List.map_eq_nil_iff.mp hnil)
    rw [Choice.build, h.any, List.map_cons, h.build c, h.buildAll cs, leaves, List.map_flatten,
      ← Parser.alt_map_alt hne, List.map_map, List.map_cons]
    rfl
termination_by structural c => c

/-- The same for each of some choices. -/
theorem Joins.buildAll (h : Joins meaning either any) : ∀ cs : List (Choice β),
    (Choice.buildAll either any cs).map meaning =
      (allLeaves cs).map fun bs => Parser.alt (bs.map meaning)
  | [] => rfl
  | c :: cs => by
    rw [Choice.buildAll, List.map_cons, h.build c, h.buildAll cs, allLeaves, List.map_cons]
termination_by structural cs => cs

end

end

lemma parser_eq_alt (c : Choice (Parser α)) : c.parser = Parser.alt c.leaves := by
  have joins : Joins id (fun p q : Parser α => Parser.alt [p, q]) Parser.alt :=
    ⟨fun _ _ => rfl, fun ps => by rw [List.map_id, id]⟩
  have flat := joins.build c
  rwa [List.map_id] at flat

lemma parser_expr (resolve : Text → Parser Value) (c : Choice Expr) :
    c.expr.parser resolve = (Expr.alt c.leaves).parser resolve := by
  have halt (es : List Expr) :
      (Expr.alt es).parser resolve = Parser.alt (es.map (Expr.parser resolve)) := by
    rw [← Expr.parsers_eq_map]
    rfl
  have joins : Joins (Expr.parser resolve) Expr.orElse Expr.alt := ⟨fun _ _ => rfl, halt⟩
  rw [halt]
  exact joins.build c

end Choice

/-! ### The run of a choice -/

namespace Run

variable {α : Type}

/-- Whether a run has come to a failure. -/
def Fails (r : Run (Result α)) : Prop :=
  ∃ m, r.outcome = .ok (.err m)

/-- The run with a record of its start under a label. -/
def announce (label : Text) (input : Value) (r : Run α) : Run α :=
  { r with events := .called label input :: r.events }

end Run

namespace Parser

variable {α : Type}

/-- The runs of some parsers on the same input, one after the other: each starts with the flag that
the one before it has left. -/
def runsOn (input : Value) : List (Parser α) → Bool → List (Run (Result α))
  | [], _ => []
  | p :: ps, tracing => p input tracing :: runsOn input ps (p input tracing).tracing

/-- Whether a choice with the given runs of its alternatives, of which there are `k` before `last`,
is over with that one. -/
structure EndsAt (runs : List (Run (Result α))) (k : Nat) (last : Run (Result α)) : Prop where
  /-- It is at the place behind the `k` others. -/
  here : runs[k]? = some last
  /-- All before it fail. -/
  failed : ∀ i < k, ∃ r, runs[i]? = some r ∧ r.Fails
  /-- It does not fail, unless it is the last of all. -/
  final : last.Fails → k + 1 = runs.length

variable {runs : List (Run (Result α))} {r last : Run (Result α)} {k : Nat} {ps : List (Parser α)}
  {input : Value} {tracing : Bool}

lemma EndsAt.zero (h : r.Fails → runs = []) : EndsAt (r :: runs) 0 r := by
  refine ⟨rfl, fun i hi => absurd hi (Nat.not_lt_zero i), fun hr => ?_⟩
  rw [h hr]
  rfl

lemma EndsAt.succ (h : EndsAt runs k last) (hr : r.Fails) : EndsAt (r :: runs) (k + 1) last := by
  refine ⟨h.here, fun i hi => ?_, fun hlast => ?_⟩
  · cases i with
    | zero => exact ⟨r, rfl, hr⟩
    | succ i => exact h.failed i (Nat.lt_of_succ_lt_succ hi)
  · rw [List.length_cons, h.final hlast]

lemma EndsAt.later (h : EndsAt (r :: runs) (k + 1) last) : r.Fails ∧ EndsAt runs k last := by
  obtain ⟨s, hs, hfails⟩ := h.failed 0 (Nat.succ_pos k)
  obtain rfl : r = s := Option.some.inj hs
  exact ⟨hfails, h.here, fun i hi => h.failed (i + 1) (Nat.succ_lt_succ hi),
    fun hlast => Nat.succ.inj (h.final hlast)⟩

/-- A choice with alternatives is over with one of them. -/
lemma exists_endsAt (h : runs ≠ []) : ∃ k last, EndsAt runs k last := by
  induction runs with
  | nil => exact absurd rfl h
  | cons r runs ih =>
    by_cases hgo : r.Fails ∧ runs ≠ []
    · obtain ⟨hr, hne⟩ := hgo
      obtain ⟨k, last, hend⟩ := ih hne
      exact ⟨k + 1, last, hend.succ hr⟩
    · exact ⟨0, r, .zero fun hr => Classical.not_not.mp fun hne => hgo ⟨hr, hne⟩⟩

lemma orElse_of_fails {p q : Parser α} (h : (p input tracing).Fails) :
    p.orElse q input tracing =
      { q input (p input tracing).tracing with
        events := (p input tracing).events ++ (q input (p input tracing).tracing).events } := by
  obtain ⟨m, hm⟩ := h
  show Effect.continueWith (p input tracing) _ = _
  rw [Effect.continueWith_of_ok hm]

lemma orElse_of_not_fails {p q : Parser α} (h : ¬ (p input tracing).Fails) :
    p.orElse q input tracing = p input tracing := by
  show Effect.continueWith (p input tracing) _ = _
  rcases hrun : p input tracing with ⟨fault | ⟨v, rest⟩ | m, t, events⟩
  · rfl
  · rw [Effect.continueWith_ok]
    simp [Effect.pure_run]
  · exact absurd ⟨m, congrArg Run.outcome hrun⟩ h

lemma length_runsOn (input : Value) (ps : List (Parser α)) (tracing : Bool) :
    (runsOn input ps tracing).length = ps.length := by
  induction ps generalizing tracing with
  | nil => rfl
  | cons p ps ih => rw [runsOn, List.length_cons, ih, List.length_cons]

/-- The run of a choice consists of those of its alternatives, up to the one with which it is
over. -/
lemma alt_run (h : EndsAt (runsOn input ps tracing) k last) : alt ps input tracing =
    ⟨last.outcome, last.tracing, ((runsOn input ps tracing).take (k + 1)).flatMap Run.events⟩ := by
  induction ps generalizing k tracing with
  | nil => cases h.here
  | cons p ps ih =>
    rw [runsOn] at h
    rw [runsOn, List.take_succ_cons, List.flatMap_cons]
    cases k with
    | zero =>
      obtain rfl : p input tracing = last := Option.some.inj h.here
      rw [List.take_zero, List.flatMap_nil, List.append_nil]
      by_cases hps : ps = []
      · rw [hps]
        rfl
      · have hgoes : ¬ (p input tracing).Fails := by
          intro hfails
          have hlength := h.final hfails
          rw [List.length_cons, length_runsOn] at hlength
          exact hps (List.length_eq_zero_iff.mp (Nat.succ.inj hlength).symm)
        rw [alt_cons p hps, orElse_of_not_fails hgoes]
    | succ k =>
      obtain ⟨hfails, hend⟩ := h.later
      have hps : ps ≠ [] := by
        rintro rfl
        cases hend.here
      rw [alt_cons p hps, orElse_of_fails hfails, ih hend]

/-- To announce the alternatives of a choice is to announce their runs. -/
lemma runsOn_announce (input : Value) (ps : List (Parser α)) (label : Nat → Text)
    (tracing : Bool) :
    runsOn input (ps.mapIdx fun i p => p.spy (label i)) tracing =
      (runsOn input ps tracing).mapIdx fun i r => r.announce (label i) input := by
  induction ps generalizing label tracing with
  | nil => rfl
  | cons p ps ih =>
    rw [List.mapIdx_cons, runsOn, runsOn, List.mapIdx_cons, ← ih fun i => label (i + 1)]
    rfl

/-- A choice is over with the same alternative if the runs are announced. -/
lemma EndsAt.announce (h : EndsAt runs k last) (label : Nat → Text) (input : Value) :
    EndsAt (runs.mapIdx fun i r => r.announce (label i) input) k
      (last.announce (label k) input) := by
  refine ⟨?_, ?_, fun hlast => ?_⟩
  · rw [List.getElem?_mapIdx, h.here]
    rfl
  · intro i hi
    obtain ⟨r, hr, hfails⟩ := h.failed i hi
    refine ⟨r.announce (label i) input, ?_, hfails⟩
    rw [List.getElem?_mapIdx, hr]
    rfl
  · rw [List.length_mapIdx]
    exact h.final hlast

end Parser

/-- **A choice runs its alternatives until one succeeds.**  A choice in any bracketing, of parsers
or of expressions, is the flat choice between its alternatives.  A flat choice runs the alternatives
on its own input, in order, each with the flag that the one before it has left.  It is over with the
first that does not fail, or else with the last, and its outcome is the outcome of that one:
the success as it is, the failure as it is if all have failed, or the fault.  What happens in it is
what happens in the runs up to that one and nothing else, as the record shows in which the start of
every alternative is announced. -/
theorem Choice.runs_until_success {α : Type} :
    (∀ c : Choice (Parser α), c.leaves ≠ [] ∧ c.parser = Parser.alt c.leaves) ∧
    (∀ (resolve : Text → Parser Value) (c : Choice Expr),
      c.expr.parser resolve = (Expr.alt c.leaves).parser resolve) ∧
    ∀ (p : Parser α) (ps : List (Parser α)) (input : Value) (tracing : Bool), ∃ k last,
      Parser.EndsAt (Parser.runsOn input (p :: ps) tracing) k last ∧
      Parser.alt (p :: ps) input tracing =
        ⟨last.outcome, last.tracing,
          ((Parser.runsOn input (p :: ps) tracing).take (k + 1)).flatMap Run.events⟩ ∧
      ∀ label : Nat → Text,
        Parser.alt ((p :: ps).mapIdx fun i q => q.spy (label i)) input tracing =
          ⟨last.outcome, last.tracing,
            (((Parser.runsOn input (p :: ps) tracing).mapIdx fun i r =>
              r.announce (label i) input).take (k + 1)).flatMap Run.events⟩ := by
  refine ⟨fun c => ⟨c.leaves_ne_nil, c.parser_eq_alt⟩, Choice.parser_expr, ?_⟩
  intro p ps input tracing
  obtain ⟨k, last, hend⟩ : ∃ k last, Parser.EndsAt (Parser.runsOn input (p :: ps) tracing) k last :=
    Parser.exists_endsAt (List.cons_ne_nil _ _)
  refine ⟨k, last, hend, Parser.alt_run hend, fun label => ?_⟩
  have announced := hend.announce label input
  rw [← Parser.runsOn_announce] at announced
  rw [Parser.alt_run announced, Parser.runsOn_announce]
  rfl

end GrammarKit
