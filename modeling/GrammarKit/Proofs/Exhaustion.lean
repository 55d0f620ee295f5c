/-
# Repeating what has been repeated

A repetition is over on an input on which its parser makes no progress: it fails there, or it
succeeds and leaves no less.  `Parser.HaltsOn` says this of an input, and by `Parser.exists_haltsOn`
it is true of whatever a repetition leaves.  So to repeat the parser once more from there gives no
values, and to repeat the repetition itself gives the values of its first round and nothing else.
A default that stands in for a failure is one more way of making no progress, and does not change a
repetition either.

A repetition that is started anew may find the flag in another position than the attempt with which
the one before it ended.  What parsers do depends on the flag in a single respect: a record that
cannot be written is a fault if there is to be a trace.  This is `Parser.IgnoresFlag`, which
every expression has by `Parser.ignoresFlag`.  It is then the only fault in which a repetition of
what has been repeated can end, and there are parsers for which it does.
-/
import GrammarKit.Proofs.Attempts
import GrammarKit.Proofs.Threading
import GrammarKit.Proofs.Transparent

namespace GrammarKit

namespace Parser

variable {α : Type} {p : Parser α} {input rest : Value} {tracing t : Bool} {least : Int} {v : α}

/-! ### One round -/

/-- Whether a parser makes no progress on an input: it fails, or it leaves no less. -/
def HaltsOn (p : Parser α) (input : Value) (tracing : Bool) : Prop :=
  ∃ r, (p input tracing).outcome = .ok r ∧
    ∀ v rest, r = .ok v rest → rest.isShorter? input = some false

/-- A repetition is over, without values, where its parser makes no progress. -/
lemma HaltsOn.manyM_run (h : p.HaltsOn input tracing) (hleast : least ≤ 0) :
    manyM least p input tracing =
      ⟨.ok (.ok [] input), (p input tracing).tracing, (p input tracing).events⟩ := by
  obtain ⟨r, hr, hstays⟩ := h
  have enough : ¬ 0 < least := Int.not_lt.mpr hleast
  rw [Parser.manyM_eq, Effect.bind_run, Effect.continueWith_of_ok hr]
  cases r with
  | ok v rest =>
    simp only [hstays v rest rfl, if_neg enough, Effect.pure_run, List.append_nil]
  | err m =>
    simp only [if_neg enough, Effect.pure_run, List.append_nil]

/-- A repetition goes on from what its parser has left, if that is shorter. -/
lemma manyM_run_of_shorter (h : (p input tracing).outcome = .ok (.ok v rest))
    (shorter : rest.IsShorterThan input) (least : Int) :
    manyM least p input tracing =
      { (manyM (least - 1) p rest (p input tracing).tracing).map (Result.prepend v) with
        events := (p input tracing).events ++
          (manyM (least - 1) p rest (p input tracing).tracing).events } := by
  rw [Parser.manyM_eq, Effect.bind_run, Effect.continueWith_of_ok h]
  simp only [Value.isShorter?_eq_true shorter, Effect.map_run]
  rfl

/-- A repetition ends in a fault of its parser. -/
lemma manyM_run_of_error {fault : Fault} (h : (p input tracing).outcome = .error fault)
    (least : Int) : manyM least p input tracing =
      ⟨.error fault, (p input tracing).tracing, (p input tracing).events⟩ := by
  rw [Parser.manyM_eq, Effect.bind_run, Effect.continueWith_of_error h]

/-- What can come of the first round of a repetition: a fault, no progress, or progress. -/
lemma round_cases (p : Parser α) (input : Value) (tracing : Bool) (least : Int) :
    (∃ fault, (manyM least p input tracing).outcome = .error fault) ∨ p.HaltsOn input tracing ∨
      ∃ v rest, (p input tracing).outcome = .ok (.ok v rest) ∧ rest.IsShorterThan input := by
  rcases hrun : (p input tracing).outcome with fault | ⟨v, rest⟩ | m
  · refine .inl ⟨fault, ?_⟩
    rw [manyM_run_of_error hrun]
  · rcases hshorter : rest.isShorter? input with _ | _ | _
    · -- one of the two has no length, so that they cannot be compared
      refine .inl ⟨.unsupported, ?_⟩
      rw [Parser.manyM_eq, Effect.bind_run, Effect.continueWith_of_ok hrun]
      simp only [hshorter]
      rfl
    · refine .inr (.inl ⟨_, hrun, ?_⟩)
      rintro _ _ ⟨⟩
      exact hshorter
    · exact .inr (.inr ⟨v, rest, rfl, Value.isShorterThan_of_isShorter? hshorter⟩)
  · exact .inr (.inl ⟨_, hrun, nofun⟩)

/-! ### Where a repetition ends -/

/-- A repetition leaves an input on which its parser makes no progress: its own, or a shorter
one. -/
lemma exists_haltsOn {vs : List α} (hleast : least ≤ 0)
    (h : (manyM least p input tracing).outcome = .ok (.ok vs rest)) :
    (∃ t, p.HaltsOn rest t) ∧ (rest = input ∨ rest.IsShorterThan input) := by
  induction input using Value.shorter_induction generalizing least tracing vs with
  | step input ih =>
    rcases round_cases p input tracing least with
      ⟨fault, hfault⟩ | hhalts | ⟨v, next, hnext, hshorter⟩
    · cases hfault.symm.trans h
    · rw [hhalts.manyM_run hleast] at h
      cases h
      exact ⟨⟨tracing, hhalts⟩, .inl rfl⟩
    · have hless : least - 1 ≤ 0 := by omega
      have hprepend : (manyM (least - 1) p next (p input tracing).tracing).outcome.map
          (Result.prepend v) = .ok (.ok vs rest) := by
        rwa [manyM_run_of_shorter hnext hshorter] at h
      rcases hlater : (manyM (least - 1) p next (p input tracing).tracing).outcome with
        fault | ⟨ws, rest'⟩ | m
      · rw [hlater] at hprepend
        cases hprepend
      · rw [hlater] at hprepend
        cases hprepend
        obtain ⟨hhalts, rfl | hrest⟩ := ih next hshorter hless hlater
        · exact ⟨hhalts, .inr hshorter⟩
        · exact ⟨hhalts, .inr (hrest.trans hshorter)⟩
      · rw [hlater] at hprepend
        cases hprepend

/-- What is left of a value with a length by a repetition has a length. -/
lemma isSized_of_manyM {vs : List α} (hsize : input.IsSized) (hleast : least ≤ 0)
    (h : (manyM least p input tracing).outcome = .ok (.ok vs rest)) : rest.IsSized := by
  obtain ⟨-, rfl | hshorter⟩ := exists_haltsOn hleast h
  · exact hsize
  · exact hshorter.isSized

/-- A default that stands in for a failure does not change a repetition. -/
lemma manyM_optional (default : α) (hsize : input.IsSized) (hleast : least ≤ 0) :
    manyM least (p.optional default) input = manyM least p input := by
  induction input using Value.shorter_induction generalizing least with
  | step input ih =>
    have enough : ¬ 0 < least := Int.not_lt.mpr hleast
    have hless : least - 1 ≤ 0 := by omega
    have same : input.isShorter? input = some false :=
      Value.isShorter?_eq_false hsize hsize (Value.not_isShorterThan_self input)
    rw [Parser.manyM_eq, Parser.manyM_eq]
    refine Effect.map_bind_congr fun r => ?_
    cases r with
    | err m => simp only [pure_bind, same, if_neg enough]
    | ok v rest =>
      rw [pure_bind]
      dsimp only
      split
      · rename_i hshorter
        have shorter : rest.IsShorterThan input := Value.isShorterThan_of_isShorter? hshorter
        rw [ih rest shorter shorter.isSized hless]
      · rfl
      · rfl

/-! ### The flag -/

/-- Whether the flag at the start of a run matters to its outcome only in that a record cannot be
written. -/
def IgnoresFlag (p : Parser α) : Prop :=
  ∀ input t t', (p input t).outcome = .error .untraceable ∨
    (p input t').outcome = .error .untraceable ∨ (p input t').outcome = (p input t).outcome

lemma ignoresFlag (g : Grammar) (e : Expr) : (g.parser e).IgnoresFlag :=
  fun input => g.outcome_run_of_flags ⟨Grammar.maxDepth, e, input⟩

/-- No progress from one flag is no progress from another. -/
lemma HaltsOn.of_flag (h : p.HaltsOn input tracing) (hp : p.IgnoresFlag) (t : Bool) :
    p.HaltsOn input t ∨ (p input t).outcome = .error .untraceable := by
  obtain ⟨r, hr, hstays⟩ := h
  rcases hp input tracing t with hfault | hfault | hsame
  · cases hr.symm.trans hfault
  · exact .inr hfault
  · exact .inl ⟨r, hsame.trans hr, hstays⟩

/-! ### Repetition once more -/

variable {vs : List α}

/-- Where a repetition is over, a new one gives no values. -/
lemma HaltsOn.outcome_manyM (h : p.HaltsOn input tracing) (hp : p.IgnoresFlag) (t : Bool)
    (hleast : least ≤ 0) :
    (manyM least p input t).outcome = .ok (.ok [] input) ∨
      (p input t).outcome = .error .untraceable ∧
        (manyM least p input t).outcome = .error .untraceable := by
  rcases h.of_flag hp t with hhalts | hfault
  · rw [hhalts.manyM_run hleast]
    exact .inl rfl
  · rw [manyM_run_of_error hfault]
    exact .inr ⟨hfault, rfl⟩

/-- A repetition that takes nothing makes no progress, and is not repeated. -/
lemma outcome_manyM_of_not_shorter (hsize : input.IsSized)
    (h : (manyM 0 p input tracing).outcome = .ok (.ok vs rest))
    (hnot : ¬ rest.IsShorterThan input) :
    (manyM 0 (manyM 0 p) input tracing).outcome = .ok (.ok [] input) := by
  have hrest : rest.IsSized := isSized_of_manyM hsize (Int.le_refl 0) h
  have hhalts : (manyM 0 p).HaltsOn input tracing := by
    refine ⟨_, h, ?_⟩
    rintro _ _ ⟨⟩
    exact Value.isShorter?_eq_false hrest hsize hnot
  rw [hhalts.manyM_run (Int.le_refl 0)]

/-- A repetition that takes something is repeated once, in vain. -/
lemma outcome_manyM_of_shorter (hsize : input.IsSized) (hp : p.IgnoresFlag)
    (h : (manyM 0 p input tracing).outcome = .ok (.ok vs rest))
    (hshorter : rest.IsShorterThan input) :
    (manyM 0 (manyM 0 p) input tracing).outcome = .ok (.ok [vs] rest) ∨
      (p rest (manyM 0 p input tracing).tracing).outcome = .error .untraceable ∧
        (manyM 0 (manyM 0 p) input tracing).outcome = .error .untraceable := by
  have hrest : rest.IsSized := isSized_of_manyM hsize (Int.le_refl 0) h
  have less : (0 : Int) - 1 ≤ 0 := by decide
  obtain ⟨⟨t, hhalts⟩, -⟩ := exists_haltsOn (Int.le_refl 0) h
  rw [manyM_run_of_shorter h hshorter]
  rcases hhalts.outcome_manyM hp (manyM 0 p input tracing).tracing (Int.le_refl 0) with
    hnone | ⟨hfault, hnone⟩
  · left
    have hhalts' : (manyM 0 p).HaltsOn rest (manyM 0 p input tracing).tracing := by
      refine ⟨_, hnone, ?_⟩
      rintro _ _ ⟨⟩
      exact Value.isShorter?_eq_false hrest hrest (Value.not_isShorterThan_self rest)
    rw [hhalts'.manyM_run less]
    rfl
  · refine .inr ⟨hfault, ?_⟩
    rw [manyM_run_of_error hnone]
    rfl

/-- **Nothing is repeated that makes no progress.**  A default for the failures of a parser does not
change its repetition.  If a repetition gives some values and leaves a rest, to repeat the parser
from that rest gives no values and leaves all of it; to repeat the repetition gives the one list of
these values if the rest is shorter than the input, and no list otherwise.  This is so for parsers
to which the flag matters only in that a record cannot be written, as are those of all expressions,
unless it is such a record that ends the attempt on the rest. -/
theorem manyM_nullable {p : Parser α} {input : Value} (hsize : input.IsSized) :
    (∀ default, manyM 0 (p.optional default) input = manyM 0 p input) ∧
    (∀ (g : Grammar) (e : Expr), (g.parser e).IgnoresFlag) ∧
    (p.IgnoresFlag → ∀ tracing vs rest, (manyM 0 p input tracing).outcome = .ok (.ok vs rest) →
      (∀ t, (manyM 0 p rest t).outcome = .ok (.ok [] rest) ∨
        (p rest t).outcome = .error .untraceable ∧
          (manyM 0 p rest t).outcome = .error .untraceable) ∧
      (¬ rest.IsShorterThan input →
        (manyM 0 (manyM 0 p) input tracing).outcome = .ok (.ok [] input)) ∧
      (rest.IsShorterThan input →
        (manyM 0 (manyM 0 p) input tracing).outcome = .ok (.ok [vs] rest) ∨
          (p rest (manyM 0 p input tracing).tracing).outcome = .error .untraceable ∧
            (manyM 0 (manyM 0 p) input tracing).outcome = .error .untraceable)) := by
  refine ⟨fun default => manyM_optional default hsize (Int.le_refl 0), ignoresFlag, ?_⟩
  intro hp tracing vs rest h
  obtain ⟨⟨t, hhalts⟩, -⟩ := exists_haltsOn (Int.le_refl 0) h
  exact ⟨fun t => hhalts.outcome_manyM hp t (Int.le_refl 0), outcome_manyM_of_not_shorter hsize h,
    outcome_manyM_of_shorter hsize hp h⟩

/-- A parser of the character `1` with a name. -/
def namedOne : Parser Value :=
  ({} : Grammar).parser (.named (.char (.unit '1')) ['n'])

lemma haltsOn_namedOne : namedOne.HaltsOn (.text ['a']) true :=
  ⟨_, rfl, nofun⟩

lemma manyM_namedOne : manyM 0 namedOne (.text ['1', 'a']) true =
    ⟨.ok (.ok [.unit '1'] (.text ['a'])), true,
      [.tried ['n'] (.text ['1', 'a']), .matched ['n'] (.unit '1') (.text ['a']),
        .tried ['n'] (.text ['a']),
        .failed ['n'] (.text "Expecting 1, but got a".toList)]⟩ := by
  have first : (namedOne (.text ['1', 'a']) true).outcome = .ok (.ok (.unit '1') (.text ['a'])) :=
    rfl
  have shorter : (Value.text ['a']).IsShorterThan (.text ['1', 'a']) := ⟨1, 2, rfl, rfl, by decide⟩
  have later : manyM (0 - 1) namedOne (.text ['a'])
      (namedOne (.text ['1', 'a']) true).tracing = _ := haltsOn_namedOne.manyM_run (by decide)
  rw [manyM_run_of_shorter first shorter, later]
  rfl

theorem manyM_nullable_namedOne :
    (Value.text ['1', 'a']).IsSized ∧ namedOne.IgnoresFlag ∧
    (manyM 0 namedOne (.text ['1', 'a']) true).outcome =
      .ok (.ok [.unit '1'] (.text ['a'])) ∧
    (Value.text ['a']).IsShorterThan (.text ['1', 'a']) ∧
    (manyM 0 (manyM 0 namedOne) (.text ['1', 'a']) true).outcome =
      .ok (.ok [[.unit '1']] (.text ['a'])) := by
  have hsize : (Value.text ['1', 'a']).IsSized := ⟨2, rfl⟩
  have shorter : (Value.text ['a']).IsShorterThan (.text ['1', 'a']) := ⟨1, 2, rfl, rfl, by decide⟩
  have hout : (manyM 0 namedOne (.text ['1', 'a']) true).outcome =
      .ok (.ok [.unit '1'] (.text ['a'])) := congrArg Run.outcome manyM_namedOne
  obtain ⟨-, ignores, once⟩ := manyM_nullable (p := namedOne) hsize
  have hp : namedOne.IgnoresFlag := ignores {} _
  refine ⟨hsize, hp, hout, shorter, ?_⟩
  rcases (once hp true _ _ hout).2.2 shorter with h | ⟨hfault, -⟩
  · exact h
  · rw [manyM_namedOne] at hfault
    cases hfault

end Parser

/-! ### A repetition that turns on the trace -/

namespace Grammar

variable {g : Grammar} {m n : Int} {least : Int}

/-- Gives the product of two numbers a name in the trace, turns on the trace, and fails. -/
def traceProduct (m n : Int) : Expr :=
  .takeSecond (.named (.fmap (product m n) (.succeed .null)) ['n'])
    (.takeSecond (.setTracing true) (.fail (.text ['x'])))

/-- Takes a character `1`, and traces a product where there is none. -/
def oneOrTrace (m n : Int) : Expr :=
  .orElse (.char (.unit '1')) (traceProduct m n)

/-- The job that gives the product a name in the trace. -/
def productJob (m n : Int) : Job :=
  ⟨⟨maxDepth, .named (.fmap (product m n) (.succeed .null)) ['n'], .text []⟩, true⟩

/-- The product is traced where there is no character. -/
lemma contains_productJob :
    g.Contains ⟨⟨maxDepth, oneOrTrace m n, .text []⟩, true⟩ (productJob m n) := by
  have choice : g.Calls ⟨⟨maxDepth, oneOrTrace m n, .text []⟩, true⟩
      ⟨⟨maxDepth, .alt [traceProduct m n], .text []⟩, true⟩ := ⟨trivial, .later rfl .first⟩
  have last : g.Calls ⟨⟨maxDepth, .alt [traceProduct m n], .text []⟩, true⟩
      ⟨⟨maxDepth, traceProduct m n, .text []⟩, true⟩ := ⟨trivial, .first⟩
  have front : g.Calls ⟨⟨maxDepth, traceProduct m n, .text []⟩, true⟩ (productJob m n) :=
    ⟨trivial, .first⟩
  exact .tail (.tail (.single choice) last) front

lemma not_traceable_productJob (h : Text.hasNumeral (m * n) = false) :
    ¬ g.Traceable (productJob m n) := by
  rintro ⟨-, hclose⟩
  have written : (Parser.closing ['n'] (.ok (.int (m * n)) (.text []))).isWritable = true :=
    hclose _ rfl
  simp [Parser.closing, Event.isWritable, Value.isWritable, h] at written

lemma outcome_oneOrTrace (h : Text.hasNumeral (m * n) = false) :
    (g.parser (oneOrTrace m n) (.text []) true).outcome = .error .untraceable := by
  have fault : (g.runJob ⟨⟨maxDepth, oneOrTrace m n, .text []⟩, true⟩).outcome =
      .error .untraceable :=
    untraceable_of_contains contains_productJob (not_traceable_productJob h)
  exact fault

/-- The character is taken in the first round, and the trace turned on in the second. -/
lemma manyM_oneOrTrace (hleast : least ≤ 0) :
    Parser.manyM least (g.parser (oneOrTrace m n)) (.text ['1']) false =
      ⟨.ok (.ok [.unit '1'] (.text [])), true, []⟩ := by
  have first : (g.parser (oneOrTrace m n) (.text ['1']) false).outcome =
      .ok (.ok (.unit '1') (.text [])) := rfl
  have shorter : (Value.text []).IsShorterThan (.text ['1']) := ⟨0, 1, rfl, rfl, by decide⟩
  have halts : (g.parser (oneOrTrace m n)).HaltsOn (.text []) false := ⟨_, rfl, nofun⟩
  have later : Parser.manyM (least - 1) (g.parser (oneOrTrace m n)) (.text [])
      (g.parser (oneOrTrace m n) (.text ['1']) false).tracing = _ := halts.manyM_run (by omega)
  rw [Parser.manyM_run_of_shorter first shorter, later]
  rfl

/-- Neither the repetition from what a repetition has left nor the repetition of a repetition comes
to values, where the trace is on by then and cannot be written. -/
theorem oneOrTrace_cannotRepeat :
    Parser.manyM 0 (({} : Grammar).parser (oneOrTrace halfLong halfLong)) (.text ['1']) false =
      ⟨.ok (.ok [.unit '1'] (.text [])), true, []⟩ ∧
    (Value.text []).IsShorterThan (.text ['1']) ∧
    (Parser.manyM 0 (({} : Grammar).parser (oneOrTrace halfLong halfLong)) (.text [])
      true).outcome = .error .untraceable ∧
    (Parser.manyM 0 (Parser.manyM 0 (({} : Grammar).parser (oneOrTrace halfLong halfLong)))
      (.text ['1']) false).outcome = .error .untraceable := by
  have long : Text.hasNumeral (halfLong * halfLong) = false := by decide +kernel
  have once : Parser.manyM 0 (({} : Grammar).parser (oneOrTrace halfLong halfLong)) (.text ['1'])
      false = _ := manyM_oneOrTrace (Int.le_refl 0)
  have shorter : (Value.text []).IsShorterThan (.text ['1']) := ⟨0, 1, rfl, rfl, by decide⟩
  have again : (Parser.manyM 0 (({} : Grammar).parser (oneOrTrace halfLong halfLong)) (.text [])
      true).outcome = .error .untraceable := by
    rw [Parser.manyM_run_of_error (outcome_oneOrTrace long)]
  refine ⟨once, shorter, again, ?_⟩
  rw [Parser.manyM_run_of_shorter (congrArg Run.outcome once) shorter, once]
  dsimp only
  rw [Parser.manyM_run_of_error again]
  rfl

end Grammar

end GrammarKit
