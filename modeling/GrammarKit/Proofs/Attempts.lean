/-
# Repetition, attempt by attempt

A repetition runs its parser on the input, then on what that left, and so on.  A `Chain` is what
comes of it: the attempts that made progress, each on what the one before it left, and the place of
the attempt that ends it all.  `Parser.Chains` says which chain a parser has from an input, in terms
of the runs of the parser alone.

There is exactly one chain from every input, since the lengths of the inputs cannot go down for
ever, and it has no more attempts than the input has units: `Parser.exists_chains`,
`Parser.Chains.unique`, `Parser.Chains.length_le`.  The run of a repetition is the runs of the
attempts of its chain, one after the other, and what it comes to depends on how many there are and
on how the last one ended: `Parser.Chains.manyM_eq`.
-/
import GrammarKit.Proofs.Units

namespace GrammarKit

variable {α : Type}

/-- An attempt of a repetition that made progress. -/
structure Attempt (α : Type) where
  /-- What the parser was run on. -/
  input : Value
  /-- The value that it gave. -/
  value : α
  /-- What happened while it ran. -/
  events : List Event

/-- The attempts of a repetition. -/
structure Chain (α : Type) where
  /-- The attempts that made progress, in order. -/
  progress : List (Attempt α)
  /-- What the last attempt is made on, which makes no progress. -/
  last : Value
  /-- Whether tracing is on at the start of the last attempt. -/
  tracing : Bool

namespace Attempt

/-- The attempt with a record of its start under a label. -/
def announce (label : Text) (a : Attempt α) : Attempt α :=
  { a with events := .called label a.input :: a.events }

end Attempt

namespace Chain

/-- Puts one more attempt in front. -/
def push (a : Attempt α) (chain : Chain α) : Chain α :=
  { chain with progress := a :: chain.progress }

/-- The values of the attempts that made progress, in order. -/
def values (chain : Chain α) : List α :=
  chain.progress.map Attempt.value

/-- What happened in the attempts that made progress. -/
def events (chain : Chain α) : List Event :=
  chain.progress.flatMap Attempt.events

/-- The chain with a record of the start of every attempt under a label. -/
def announce (label : Text) (chain : Chain α) : Chain α :=
  { chain with progress := chain.progress.map (Attempt.announce label) }

/-- What a repetition comes to that asks for a number of values, if its last attempt has a given
outcome. -/
def conclude (least : Int) (chain : Chain α) :
    Except Fault (Result α) → Except Fault (Result (List α))
  | .error fault => .error fault
  | .ok (.err m) =>
    .ok (if (chain.progress.length : Int) < least then .err m else .ok chain.values chain.last)
  | .ok (.ok _ _) =>
    .ok (if (chain.progress.length : Int) < least then .err Stop.noProgress
      else .ok chain.values chain.last)

@[simp] lemma last_push (a : Attempt α) (chain : Chain α) : (chain.push a).last = chain.last := rfl

@[simp] lemma tracing_push (a : Attempt α) (chain : Chain α) :
    (chain.push a).tracing = chain.tracing := rfl

@[simp] lemma length_push (a : Attempt α) (chain : Chain α) :
    (chain.push a).progress.length = chain.progress.length + 1 := rfl

@[simp] lemma events_push (a : Attempt α) (chain : Chain α) :
    (chain.push a).events = a.events ++ chain.events := by
  simp [events, push]

@[simp] lemma last_announce (label : Text) (chain : Chain α) :
    (chain.announce label).last = chain.last := rfl

@[simp] lemma tracing_announce (label : Text) (chain : Chain α) :
    (chain.announce label).tracing = chain.tracing := rfl

@[simp] lemma length_announce (label : Text) (chain : Chain α) :
    (chain.announce label).progress.length = chain.progress.length := by
  simp [announce]

@[simp] lemma values_announce (label : Text) (chain : Chain α) :
    (chain.announce label).values = chain.values := by
  simp [values, announce, Function.comp_def, Attempt.announce]

lemma events_announce (label : Text) (chain : Chain α) : (chain.announce label).events =
    chain.progress.flatMap fun a => .called label a.input :: a.events := by
  simp [events, announce, List.flatMap_map, Attempt.announce]

/-- One attempt more makes up for one value more that is asked for. -/
lemma conclude_push (least : Int) (a : Attempt α) (chain : Chain α)
    (final : Except Fault (Result α)) :
    (chain.push a).conclude least final =
      (chain.conclude (least - 1) final).map (Result.prepend a.value) := by
  have shift : (chain.progress.length : Int) + 1 < least ↔
      (chain.progress.length : Int) < least - 1 := by omega
  rcases final with fault | ⟨v, rest⟩ | m
  · rfl
  · simp only [conclude, length_push, Int.natCast_add, Int.cast_ofNat_Int, shift, Except.map]
    split <;> rfl
  · simp only [conclude, length_push, Int.natCast_add, Int.cast_ofNat_Int, shift, Except.map]
    split <;> rfl

/-- Announcing the attempts does not change what a repetition comes to. -/
lemma conclude_announce (least : Int) (label : Text) (chain : Chain α)
    (final : Except Fault (Result α)) :
    (chain.announce label).conclude least final = chain.conclude least final := by
  rcases final with fault | ⟨v, rest⟩ | m
  · rfl
  · simp [conclude]
  · simp [conclude]

end Chain

namespace Value

/-- Whether a value has a length. -/
def IsSized (v : Value) : Prop :=
  ∃ n, v.length? = some n

/-- Whether a value has a smaller length than another one. -/
def IsShorterThan (v w : Value) : Prop :=
  ∃ m n, v.length? = some m ∧ w.length? = some n ∧ m < n

lemma IsSized.of_isRestOf {rest input : Value} (h : input.IsSized) (hrest : rest.IsRestOf input) :
    rest.IsSized := by
  cases input with
  | text s =>
    obtain ⟨k, -, rfl⟩ := hrest
    exact ⟨_, rfl⟩
  | bytes bs =>
    obtain ⟨k, -, rfl⟩ := hrest
    exact ⟨_, rfl⟩
  | list vs =>
    obtain ⟨k, -, rfl⟩ := hrest
    exact ⟨_, rfl⟩
  | tuple vs =>
    obtain ⟨k, -, rfl⟩ := hrest
    exact ⟨_, rfl⟩
  | _ =>
    cases hrest
    exact h

lemma isShorter?_eq_true {v w : Value} (h : v.IsShorterThan w) : v.isShorter? w = some true := by
  obtain ⟨m, n, hm, hn, hlt⟩ := h
  simp [isShorter?_eq, hm, hn, hlt]

lemma isShorter?_eq_false {v w : Value} (hv : v.IsSized) (hw : w.IsSized)
    (h : ¬ v.IsShorterThan w) : v.isShorter? w = some false := by
  obtain ⟨m, hm⟩ := hv
  obtain ⟨n, hn⟩ := hw
  have hlt : ¬ m < n := fun hlt => h ⟨m, n, hm, hn, hlt⟩
  simpa [isShorter?_eq, hm, hn] using hlt

section

variable {u v w : Value}

lemma IsShorterThan.isSized (h : v.IsShorterThan w) : v.IsSized := by
  obtain ⟨m, -, hm, -, -⟩ := h
  exact ⟨m, hm⟩

lemma IsShorterThan.trans (h : u.IsShorterThan v) (h' : v.IsShorterThan w) : u.IsShorterThan w := by
  obtain ⟨k, l, hk, hl, hlt⟩ := h
  obtain ⟨l', m, hl', hm, hlt'⟩ := h'
  obtain rfl : l = l' := Option.some.inj (hl.symm.trans hl')
  exact ⟨k, m, hk, hm, Nat.lt_trans hlt hlt'⟩

lemma not_isShorterThan_self (v : Value) : ¬ v.IsShorterThan v := by
  rintro ⟨m, n, hm, hn, hlt⟩
  obtain rfl : m = n := Option.some.inj (hm.symm.trans hn)
  exact Nat.lt_irrefl m hlt

lemma isShorterThan_of_isShorter? (h : v.isShorter? w = some true) : v.IsShorterThan w := by
  rw [isShorter?_eq] at h
  cases hv : v.length? with
  | none => simp [hv] at h
  | some m =>
    cases hw : w.length? with
    | none => simp [hv, hw] at h
    | some n => exact ⟨m, n, hv, hw, by simpa [hv, hw] using h⟩

/-- What passes to a value from the shorter ones holds of every value. -/
theorem shorter_induction {motive : Value → Prop}
    (step : ∀ v, (∀ w : Value, w.IsShorterThan v → motive w) → motive v) (v : Value) :
    motive v := by
  induction hn : v.length?.getD 0 using Nat.strongRecOn generalizing v with
  | ind n ih =>
    refine step v ?_
    rintro w ⟨k, l, hk, hl, hlt⟩
    refine ih _ ?_ w rfl
    rw [← hn, hk, hl]
    exact hlt

end

end Value

namespace Parser

variable {p : Parser α} {input : Value} {tracing : Bool} {chain chain' : Chain α}

/-- Whether a parser, run on a value with a length, leaves values with a length only. -/
def LeavesSized (p : Parser α) : Prop :=
  ∀ input : Value, input.IsSized → ∀ tracing v rest,
    (p input tracing).outcome = .ok (.ok v rest) → rest.IsSized

/-- The chain of a parser from an input. -/
inductive Chains (p : Parser α) : Value → Bool → Chain α → Prop
  /-- An attempt that fails, ends in a fault, or leaves no less than it was made on. -/
  | stops {input : Value} {tracing : Bool}
      (h : ∀ v rest, (p input tracing).outcome = .ok (.ok v rest) → ¬ rest.IsShorterThan input) :
      Chains p input tracing ⟨[], input, tracing⟩
  /-- An attempt that makes progress, and the chain from what it left. -/
  | goesOn {input rest : Value} {tracing : Bool} {v : α} {chain : Chain α}
      (h : (p input tracing).outcome = .ok (.ok v rest)) (shorter : rest.IsShorterThan input)
      (later : Chains p rest (p input tracing).tracing chain) :
      Chains p input tracing (chain.push ⟨input, v, (p input tracing).events⟩)

/-! ### There is one chain -/

theorem exists_chains (p : Parser α) (input : Value) (tracing : Bool) :
    ∃ chain, p.Chains input tracing chain := by
  -- every attempt that makes progress leaves a smaller length
  induction input using Value.shorter_induction generalizing tracing with
  | step input ih =>
    by_cases h : ∃ v rest, (p input tracing).outcome = .ok (.ok v rest) ∧ rest.IsShorterThan input
    · obtain ⟨v, rest, hrun, hshorter⟩ := h
      obtain ⟨chain, hchain⟩ := ih rest hshorter (p input tracing).tracing
      exact ⟨_, .goesOn hrun hshorter hchain⟩
    · refine ⟨_, .stops ?_⟩
      intro v rest hrun hshorter
      exact h ⟨v, rest, hrun, hshorter⟩

theorem Chains.unique (h : p.Chains input tracing chain) (h' : p.Chains input tracing chain') :
    chain = chain' := by
  induction h generalizing chain' with
  | stops hstop =>
    cases h' with
    | stops => rfl
    | goesOn hrun hshorter => exact absurd hshorter (hstop _ _ hrun)
  | goesOn hrun hshorter _ ih =>
    cases h' with
    | stops hstop => exact absurd hshorter (hstop _ _ hrun)
    | goesOn hrun' _ hlater =>
      obtain ⟨rfl, rfl⟩ : _ = _ ∧ _ = _ := by simpa using hrun.symm.trans hrun'
      rw [ih hlater]

/-- A chain has no more attempts than its input has units. -/
theorem Chains.length_le (h : p.Chains input tracing chain) {n : Nat}
    (hn : input.length? = some n) : chain.progress.length ≤ n := by
  induction h generalizing n with
  | stops => simp
  | goesOn _ hshorter _ ih =>
    obtain ⟨k, l, hk, hl, hlt⟩ := hshorter
    have hle := ih hk
    obtain rfl : l = n := by simpa using hl.symm.trans hn
    simp only [Chain.length_push]
    omega

/-! ### Parsers that leave something with a length -/

lemma LeavesRest.leavesSized (hp : p.LeavesRest) : p.LeavesSized := by
  intro input hsize tracing v rest hrun
  exact hsize.of_isRestOf (hp input tracing _ hrun)

/-- A default leaves the input as it is. -/
lemma LeavesSized.optional (hp : p.LeavesSized) (default : α) : (p.optional default).LeavesSized := by
  intro input hsize tracing v rest hrun
  obtain ⟨r, hr, hrun⟩ := Effect.bind_outcome_eq_ok.mp hrun
  cases r with
  | ok w rest' =>
    cases hrun
    exact hp input hsize tracing _ _ hr
  | err m =>
    cases hrun
    exact hsize

/-! ### Attempts that are announced -/

/-- A parser whose runs are recorded runs like the parser, behind the record. -/
lemma spy_run (p : Parser α) (label : Text) (input : Value) (tracing : Bool) :
    p.spy label input tracing = ⟨(p input tracing).outcome, (p input tracing).tracing,
      .called label input :: (p input tracing).events⟩ := rfl

lemma LeavesSized.spy (hp : p.LeavesSized) (label : Text) : (p.spy label).LeavesSized :=
  hp

lemma Chains.announce (h : p.Chains input tracing chain) (label : Text) :
    (p.spy label).Chains input tracing (chain.announce label) := by
  induction h with
  | stops hstop => exact .stops hstop
  | goesOn hrun hshorter _ ih => exact Chains.goesOn (p := p.spy label) hrun hshorter ih

/-! ### The run of a repetition -/

/-- A repetition runs its parser for every attempt of the chain, and once more. -/
theorem Chains.manyM_eq (h : p.Chains input tracing chain) (hsize : input.IsSized)
    (hp : p.LeavesSized) (least : Int) :
    manyM least p input tracing =
      ⟨chain.conclude least (p chain.last chain.tracing).outcome,
        (p chain.last chain.tracing).tracing,
        chain.events ++ (p chain.last chain.tracing).events⟩ := by
  induction h generalizing least with
  | @stops input tracing hstop =>
    rw [Parser.manyM_eq, Effect.bind_run]
    rcases hrun : p input tracing with ⟨_ | ⟨v, rest⟩ | m, t, events⟩
    · simp [Chain.conclude, Chain.events]
    · have hout : (p input tracing).outcome = .ok (.ok v rest) := by rw [hrun]
      have hstall : rest.isShorter? input = some false :=
        Value.isShorter?_eq_false (hp input hsize tracing v rest hout) hsize (hstop v rest hout)
      simp [Chain.conclude, Chain.events, Chain.values, hstall, Effect.pure_run]
    · simp [Chain.conclude, Chain.events, Chain.values, Effect.pure_run]
  | @goesOn input rest tracing v chain hout hshorter _ ih =>
    have hsized : rest.IsSized := hp input hsize tracing v rest hout
    have hlater := ih hsized (least - 1)
    rw [Parser.manyM_eq, Effect.bind_run, Effect.continueWith_of_ok hout]
    simp only [Value.isShorter?_eq_true hshorter, Effect.map_run, hlater, Run.map,
      Chain.conclude_push, Chain.last_push, Chain.tracing_push, Chain.events_push,
      List.append_assoc]

/-- **What a repetition does.**  Let a parser be given that leaves values with a length, and an
input of `n` units.  There is exactly one chain of attempts from the input, with at most `n` that
make progress.  The repetition runs the parser once for each of these and once more, in their
order, as the record shows in which every run is announced, and nothing else happens in it.  It
comes to the values of the chain if there are as many as are asked for, unless the last attempt ends
in a fault, which then ends the repetition.  Where there are too few, the last failure is handed on,
or there is a message of its own if the last attempt succeeded.  So a repetition that asks for
nothing never fails, and this is what `many` means; `many1` asks for one value. -/
theorem manyM_runs_chain {p : Parser α} (hp : p.LeavesSized) {input : Value} {n : Nat}
    (hn : input.length? = some n) (least : Int) (tracing : Bool) :
    (∃ chain, p.Chains input tracing chain ∧
      (∀ chain', p.Chains input tracing chain' → chain' = chain) ∧
      chain.progress.length ≤ n ∧
      (manyM least p input tracing).tracing = (p chain.last chain.tracing).tracing ∧
      (manyM least p input tracing).events =
        chain.events ++ (p chain.last chain.tracing).events ∧
      (∀ label, manyM least (p.spy label) input tracing =
        { manyM least p input tracing with
          events := (chain.progress.flatMap fun a => .called label a.input :: a.events) ++
            .called label chain.last :: (p chain.last chain.tracing).events }) ∧
      (∀ r, (p chain.last chain.tracing).outcome = .ok r → least ≤ chain.progress.length →
        (manyM least p input tracing).outcome = .ok (.ok chain.values chain.last)) ∧
      (∀ m, (p chain.last chain.tracing).outcome = .ok (.err m) → chain.progress.length < least →
        (manyM least p input tracing).outcome = .ok (.err m)) ∧
      (∀ v rest, (p chain.last chain.tracing).outcome = .ok (.ok v rest) →
        chain.progress.length < least → (manyM least p input tracing).outcome =
          .ok (.err (.text "Repetition made no progress".toList))) ∧
      ∀ fault, (p chain.last chain.tracing).outcome = .error fault →
        (manyM least p input tracing).outcome = .error fault) ∧
    (∀ m, least ≤ 0 → (manyM least p input tracing).outcome ≠ .ok (.err m)) ∧
    ∀ (resolve : Text → Parser Value) (e : Expr),
      e.many.parser resolve = (manyM 0 (e.parser resolve)).map Value.list ∧
      e.many1.parser resolve = (manyM 1 (e.parser resolve)).map Value.list := by
  have hsize : input.IsSized := ⟨n, hn⟩
  obtain ⟨chain, hchain⟩ := exists_chains p input tracing
  have hrun := hchain.manyM_eq hsize hp least
  refine ⟨⟨chain, hchain, fun _ h => h.unique hchain, hchain.length_le hn, ?_, ?_, ?_, ?_, ?_, ?_,
    ?_⟩, ?_, ?_⟩
  · rw [hrun]
  · rw [hrun]
  · intro label
    have hspied := (hchain.announce label).manyM_eq hsize (hp.spy label) least
    rw [hspied, hrun]
    simp [spy_run, Chain.conclude_announce, Chain.events_announce]
  · intro r hr hleast
    have henough : ¬ (chain.progress.length : Int) < least := by omega
    rw [hrun, hr]
    cases r <;> simp [Chain.conclude, henough]
  · intro m hm hfew
    rw [hrun, hm]
    simp [Chain.conclude, hfew]
  · intro v rest hv hfew
    rw [hrun, hv]
    simp [Chain.conclude, hfew, Stop.noProgress]
  · intro fault hfault
    rw [hrun, hfault]
    rfl
  · intro m hleast hm
    have henough : ¬ (chain.progress.length : Int) < least := by omega
    rw [hrun] at hm
    rcases hlast : (p chain.last chain.tracing).outcome with fault | ⟨v, rest⟩ | m'
    · simp [hlast, Chain.conclude] at hm
    · simp [hlast, Chain.conclude, henough] at hm
    · simp [hlast, Chain.conclude, henough] at hm
  · exact fun resolve e => ⟨rfl, rfl⟩

/-- A parser of the character `1` that succeeds everywhere. -/
def optionalOne : Parser Value :=
  (char (.unit '1')).optional .null

/-- The chain of `optionalOne` from a text with two ones in front. -/
def twoOnes : Chain Value :=
  Chain.push ⟨.text ['1', '1', 'a'], .unit '1', []⟩
    (Chain.push ⟨.text ['1', 'a'], .unit '1', []⟩ ⟨[], .text ['a'], true⟩)

lemma chains_twoOnes : optionalOne.Chains (.text ['1', '1', 'a']) true twoOnes := by
  have later : optionalOne.Chains (.text ['a']) true ⟨[], .text ['a'], true⟩ := by
    refine .stops ?_
    rintro v rest hrun ⟨m, n, hm, hn, hlt⟩
    have hout : (optionalOne (.text ['a']) true).outcome = .ok (.ok .null (.text ['a'])) := rfl
    cases hout.symm.trans hrun
    cases hm
    cases hn
    exact Nat.lt_irrefl _ hlt
  have second : optionalOne.Chains (.text ['1', 'a']) true
      (Chain.push ⟨.text ['1', 'a'], .unit '1', []⟩ ⟨[], .text ['a'], true⟩) :=
    .goesOn rfl ⟨1, 2, rfl, rfl, by decide⟩ later
  exact .goesOn rfl ⟨2, 3, rfl, rfl, by decide⟩ second

/-- The third attempt succeeds without taking anything, so that three ones are not found. -/
theorem manyM_runs_chain_twoOnes :
    optionalOne.LeavesSized ∧ (Value.text ['1', '1', 'a']).length? = some 3 ∧
    (manyM 2 optionalOne (.text ['1', '1', 'a']) true).outcome =
      .ok (.ok [.unit '1', .unit '1'] (.text ['a'])) ∧
    (manyM 3 optionalOne (.text ['1', '1', 'a']) true).outcome =
      .ok (.err (.text "Repetition made no progress".toList)) ∧
    (manyM 3 (optionalOne.spy ['t']) (.text ['1', '1', 'a']) true).events =
      [.called ['t'] (.text ['1', '1', 'a']), .called ['t'] (.text ['1', 'a']),
        .called ['t'] (.text ['a'])] := by
  have hp : optionalOne.LeavesSized := (leavesRest_unit _ _).leavesSized.optional _
  have hn : (Value.text ['1', '1', 'a']).length? = some 3 := rfl
  have hlast : (optionalOne (.text ['a']) true).outcome = .ok (.ok .null (.text ['a'])) := rfl
  refine ⟨hp, hn, ?_, ?_, ?_⟩
  · obtain ⟨⟨chain, -, unique, -, -, -, -, enough, -⟩, -⟩ := manyM_runs_chain hp hn 2 true
    obtain rfl := unique twoOnes chains_twoOnes
    exact enough _ hlast (by decide)
  · obtain ⟨⟨chain, -, unique, -, -, -, -, -, -, stalled, -⟩, -⟩ := manyM_runs_chain hp hn 3 true
    obtain rfl := unique twoOnes chains_twoOnes
    exact stalled _ _ hlast (by decide)
  · obtain ⟨⟨chain, -, unique, -, -, -, announced, -⟩, -⟩ := manyM_runs_chain hp hn 3 true
    obtain rfl := unique twoOnes chains_twoOnes
    rw [announced]
    rfl

end Parser

end GrammarKit
