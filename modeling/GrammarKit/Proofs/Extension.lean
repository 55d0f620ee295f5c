/-
# What lies behind the part that is taken

A parser that never goes back decides by what it takes, and by nothing behind that.  If it succeeds
on a text, it takes the same part of every longer text that begins like it: the value is the same,
and whatever was put behind the text stands behind what is left of it.  `Parser.Extends` says this
of a parser, and there is one lemma for each way to put parsers together.

With alternatives this is not so in general: the first of them may fail on the short text only
because the text has come to its end.  A choice between single units is another matter, since all
of its alternatives look at the same first character.  `Parser.Glances` says that a parser looks at
nothing else; the expressions that are built in this way are those of `Expr.IsForward`.
-/
import GrammarKit.Format
import GrammarKit.Proofs.Units

namespace GrammarKit

namespace Parser

variable {α β : Type}

/-- Whether a success on a text carries over to every text that goes on behind it: with the same
value and the same flag at the end, and with what goes on behind the rest. -/
def Extends (p : Parser α) : Prop :=
  ∀ s t tracing v rest, (p (.text s) tracing).outcome = .ok (.ok v rest) →
    ∃ u, rest = .text u ∧ (p (.text (s ++ t)) tracing).outcome = .ok (.ok v (.text (u ++ t))) ∧
      (p (.text (s ++ t)) tracing).tracing = (p (.text s) tracing).tracing

/-! ### Parsers that look at one character -/

/-- Whether a parser does on a text what it does by the first character alone: it takes that
character or fails, and without one it does not succeed. -/
structure Glances (p : Parser α) : Prop where
  /-- The parser neither looks at the flag nor leaves a trace. -/
  silent (i : Value) : (p i).IsSilent
  /-- Where there is no character it does not succeed. -/
  empty (v : α) (rest : Value) : (p (.text []) false).outcome ≠ .ok (.ok v rest)
  /-- Where it succeeds it has taken the first character, and does so whatever follows. -/
  ok {c : Char} {s : Text} {v : α} {rest : Value}
    (h : (p (.text (c :: s)) false).outcome = .ok (.ok v rest)) : rest = .text s ∧
      ∀ s', (p (.text (c :: s')) false).outcome = .ok (.ok v (.text s'))
  /-- Where it fails it does so whatever follows. -/
  err {c : Char} {s : Text} {m : Value}
    (h : (p (.text (c :: s)) false).outcome = .ok (.err m)) (s' : Text) :
      (p (.text (c :: s')) false).outcome = .ok (.err m)

lemma glances_unit (test : Value → Except Fault Bool) (complaint : Value → Except Fault Value) :
    (unit test complaint).Glances where
  silent := isSilent_unit test complaint
  empty := nofun
  ok := by
    intro c s v rest h
    obtain ⟨-, hitem, htest, htail⟩ := unit_eq_ok h
    cases hitem
    cases htail
    refine ⟨rfl, fun s' => ?_⟩
    rw [outcome_unit_of_front rfl rfl rfl, htest]
    rfl
  err := by
    intro c s m h s'
    rw [outcome_unit_of_front rfl rfl rfl] at h ⊢
    cases htest : test (.unit c) with
    | error fault =>
      rw [htest] at h
      cases h
    | ok b =>
      rw [htest] at h
      cases b with
      | true => cases h
      | false => exact h

/-- What the first of several alternatives comes to decides whether the others are tried. -/
lemma outcome_alt {p q : Parser α} {ps : List (Parser α)} {i : Value} (hp : (p i).IsSilent) :
    (alt (p :: q :: ps) i false).outcome = (p i false).outcome >>= fun
      | .ok v rest => .ok (.ok v rest)
      | .err _ => (alt (q :: ps) i false).outcome := by
  show (Effect.continueWith (p i false) _).outcome = _
  rw [hp false]
  cases (p i false).outcome with
  | error fault => rfl
  | ok r => cases r <;> rfl

lemma isSilent_alt {ps : List (Parser α)} (hps : ∀ p ∈ ps, ∀ i, (p i).IsSilent) (i : Value) :
    (alt ps i).IsSilent := by
  induction ps with
  | nil => exact Effect.isSilent_pure _
  | cons p ps ih =>
    have hp : (p i).IsSilent := hps p List.mem_cons_self i
    cases ps with
    | nil => exact hp
    | cons q ps =>
      refine hp.bind fun r => ?_
      cases r with
      | ok v rest => exact Effect.isSilent_pure _
      | err m => exact ih fun p hp => hps p (List.mem_cons_of_mem _ hp)

/-- A choice between parsers that look at one character looks at one character: all of them look at
the same. -/
lemma glances_alt {ps : List (Parser α)} (hps : ∀ p ∈ ps, p.Glances) : (alt ps).Glances := by
  induction ps with
  | nil => exact ⟨fun _ => Effect.isSilent_pure _, nofun, nofun, fun h _ => h⟩
  | cons p ps ih =>
    have hp : p.Glances := hps p List.mem_cons_self
    cases ps with
    | nil => exact hp
    | cons q ps =>
      have later : (alt (q :: ps)).Glances := ih fun r hr => hps r (List.mem_cons_of_mem _ hr)
      refine ⟨fun i => isSilent_alt (fun r hr => (hps r hr).silent) i, ?_, ?_, ?_⟩
      · intro v rest h
        rw [outcome_alt (hp.silent _)] at h
        cases hrun : (p (.text []) false).outcome with
        | error fault =>
          rw [hrun] at h
          cases h
        | ok r =>
          cases r with
          | ok w rest' => exact hp.empty w rest' hrun
          | err m =>
            rw [hrun] at h
            exact later.empty v rest h
      · intro c s v rest h
        rw [outcome_alt (hp.silent _)] at h
        cases hrun : (p (.text (c :: s)) false).outcome with
        | error fault =>
          rw [hrun] at h
          cases h
        | ok r =>
          rw [hrun] at h
          cases r with
          | ok w rest' =>
            cases h
            obtain ⟨hrest, hok⟩ := hp.ok hrun
            refine ⟨hrest, fun s' => ?_⟩
            rw [outcome_alt (hp.silent _), hok s']
            rfl
          | err m =>
            obtain ⟨hrest, hok⟩ := later.ok h
            refine ⟨hrest, fun s' => ?_⟩
            rw [outcome_alt (hp.silent _), hp.err hrun s']
            exact hok s'
      · intro c s m h s'
        rw [outcome_alt (hp.silent _)] at h ⊢
        cases hrun : (p (.text (c :: s)) false).outcome with
        | error fault =>
          rw [hrun] at h
          cases h
        | ok r =>
          rw [hrun] at h
          cases r with
          | ok w rest' => cases h
          | err m' =>
            rw [hp.err hrun s']
            exact later.err h s'

lemma Glances.extends {p : Parser α} (hp : p.Glances) : p.Extends := by
  intro s t tracing v rest h
  rw [hp.silent _ tracing] at h ⊢
  rw [hp.silent (.text s) tracing]
  cases s with
  | nil => exact absurd h (hp.empty v rest)
  | cons c s =>
    obtain ⟨rfl, hok⟩ := hp.ok h
    exact ⟨s, rfl, hok (s ++ t), rfl⟩

/-! ### One after the other -/

/-- What does not depend on the input extends. -/
lemma extends_ofExcept (o : Except Fault α) :
    Extends fun input => Effect.ofExcept (o.map fun v => Result.ok v input) := by
  intro s t tracing v rest h
  cases o with
  | error fault => cases h
  | ok w =>
    cases h
    exact ⟨s, rfl, rfl, rfl⟩

lemma extends_succeed (v : α) : (succeed v).Extends :=
  extends_ofExcept (.ok v)

/-- What never succeeds extends. -/
lemma extends_of_ne {p : Parser α}
    (h : ∀ i tracing v rest, (p i tracing).outcome ≠ .ok (.ok v rest)) : p.Extends :=
  fun s _ tracing v rest hok => absurd hok (h (.text s) tracing v rest)

/-- A parser goes on with the result of another one.  If it goes on extending after a success, and
does not recover from a failure, then it extends. -/
lemma Extends.bindResult {p : Parser α} {k : Result α → Effect (Result β)} (hp : p.Extends)
    (hok : ∀ v, Extends fun rest => k (.ok v rest))
    (herr : ∀ m tracing v rest, (k (.err m) tracing).outcome ≠ .ok (.ok v rest)) :
    Extends fun input => p input >>= k := by
  intro s t tracing w rest h
  obtain ⟨r, hr, h⟩ := Effect.bind_outcome_eq_ok.mp h
  cases r with
  | err m => exact absurd h (herr m _ w rest)
  | ok v rest' =>
    obtain ⟨u, rfl, hrun, hflag⟩ := hp s t tracing v rest' hr
    obtain ⟨u', rfl, hrun', hflag'⟩ := hok v u t _ w rest h
    refine ⟨u', rfl, ?_⟩
    show (Effect.continueWith _ k).outcome = _ ∧
      (Effect.continueWith _ k).tracing = (Effect.continueWith _ k).tracing
    rw [Effect.continueWith_of_ok hrun, Effect.continueWith_of_ok hr, hflag]
    exact ⟨hrun', hflag'⟩

lemma Extends.fmap {p : Parser α} (hp : p.Extends) (f : α → Except Fault β) :
    (p.fmap f).Extends := by
  refine hp.bindResult (fun v => ?_) nofun
  simp only [Result.map]
  cases f v with
  | error fault => exact extends_ofExcept (.error fault)
  | ok w => exact extends_ofExcept (.ok w)

lemma Extends.validate {p : Parser α} (hp : p.Extends) (m : Value)
    (test : α → Except Fault Bool) : (p.validate m test).Extends := by
  refine hp.bindResult (fun v => ?_) fun _ _ _ _ h => by cases h
  simp only [Result.validate]
  cases test v with
  | error fault => exact extends_ofExcept (.error fault)
  | ok passed =>
    cases passed with
    | true => exact extends_ofExcept (.ok v)
    | false => exact extends_of_ne fun _ _ _ _ h => by cases h

lemma Extends.bind {p : Parser α} {next : α → Parser β} (hp : p.Extends)
    (hnext : ∀ v, (next v).Extends) : (p.bind next).Extends :=
  hp.bindResult hnext nofun

lemma Extends.andThen {p : Parser α} {q : Parser β} (hp : p.Extends) (hq : q.Extends) :
    (p.andThen q).Extends := by
  refine hp.bindResult (fun v => ?_) nofun
  exact hq.bindResult (fun w => extends_ofExcept (.ok (v, w))) nofun

lemma Extends.takeFirst {p : Parser α} {q : Parser β} (hp : p.Extends) (hq : q.Extends) :
    (p.takeFirst q).Extends :=
  (hp.andThen hq).fmap _

lemma Extends.takeSecond {p : Parser α} {q : Parser β} (hp : p.Extends) (hq : q.Extends) :
    (p.takeSecond q).Extends :=
  (hp.andThen hq).fmap _

lemma extends_sequence {ps : List (Parser α)} (hps : ∀ p ∈ ps, p.Extends) :
    (sequence ps).Extends := by
  induction ps with
  | nil => exact extends_succeed []
  | cons p ps ih =>
    have hp : p.Extends := hps p List.mem_cons_self
    have later : (sequence ps).Extends := ih fun q hq => hps q (List.mem_cons_of_mem _ hq)
    refine hp.bindResult (fun v => ?_) nofun
    dsimp only
    simp only [map_eq_pure_bind]
    exact later.bindResult (fun vs => extends_ofExcept (.ok (v :: vs))) nofun

lemma extends_times {p : Parser α} (hp : p.Extends) (n : Nat) : (p.times n).Extends := by
  rw [times_eq_sequence]
  refine extends_sequence fun q hq => ?_
  rw [List.eq_of_mem_replicate hq]
  exact hp

lemma extends_literal (units : List Value) : (literal units).Extends := by
  refine (extends_sequence fun p hp => ?_).fmap _
  obtain ⟨u, -, rfl⟩ := List.mem_map.mp hp
  exact (glances_unit _ _).extends

/-! ### Observation -/

section

variable {p : Parser Value} {name : Text} {i : Value}

/-- A named parser that is traced comes to a result if its part does and both records can be
written. -/
lemma outcome_named_true {r : Result Value} : (p.named name i true).outcome = .ok r ↔
    (Event.tried name i).isWritable = true ∧ (p i true).outcome = .ok r ∧
      (closing name r).isWritable = true := by
  rw [named_true]
  by_cases hopen : (Event.tried name i).isWritable = true
  · rcases p i true with ⟨fault | r', flag, events⟩
    · simp [hopen]
    · by_cases hclose : (closing name r').isWritable = true
      · simp only [hopen, hclose, if_true, true_and, Except.ok.injEq]
        exact ⟨fun h => ⟨h, h ▸ hclose⟩, And.left⟩
      · simp only [hopen, hclose, if_true, true_and, Bool.false_eq_true, if_false, Except.ok.injEq]
        exact ⟨nofun, fun ⟨h, hw⟩ => absurd (h ▸ hw) hclose⟩
  · simp [hopen]

/-- A record does not change the flag. -/
lemma tracing_named_true (hopen : (Event.tried name i).isWritable = true) :
    (p.named name i true).tracing = (p i true).tracing := by
  rw [named_true, if_pos hopen]
  rcases p i true with ⟨fault | r, flag, events⟩
  · rfl
  · dsimp only
    split <;> rfl

end

/-- The records of a name do not get in the way: of what is written in them, only the rest is
another one, and a text can always be written. -/
lemma Extends.named {p : Parser Value} (hp : p.Extends) (name : Text) : (p.named name).Extends := by
  intro s t tracing v rest h
  cases tracing with
  | false => exact hp s t false v rest h
  | true =>
    have opens (s : Text) : (Event.tried name (.text s)).isWritable = true := rfl
    obtain ⟨-, hpart, hclose⟩ := outcome_named_true.mp h
    obtain ⟨u, rfl, hout, hflag⟩ := hp s t true v rest hpart
    refine ⟨u, rfl, outcome_named_true.mpr ⟨opens (s ++ t), hout, hclose⟩, ?_⟩
    rw [tracing_named_true (opens s), tracing_named_true (opens (s ++ t)), hflag]

lemma Extends.spy {p : Parser α} (hp : p.Extends) (label : Text) : (p.spy label).Extends :=
  fun s t tracing v rest h => hp s t tracing v rest h

end Parser

/-! ### Expressions -/

namespace Expr

/-- Whether an expression takes a single unit that it looks at by itself. -/
def IsUnit : Expr → Prop
  | char _ => True
  | satisfy _ => True
  | _ => False

mutual

/-- Whether an expression never goes back: it has no repetitions or defaults, does not look at the
end of the input, and has no alternatives but single units.  Neither have the expressions that its
functions make. -/
def IsForward : Expr → Prop
  | char _ => True
  | literal _ => True
  | satisfy _ => True
  | succeed _ => True
  | fail _ => True
  | andThen p q => IsForward p ∧ IsForward q
  | takeFirst p q => IsForward p ∧ IsForward q
  | takeSecond p q => IsForward p ∧ IsForward q
  | sequence ps => AllForward ps
  | times _ p => IsForward p
  | alt ps => ∀ p ∈ ps, p.IsUnit
  | fmap _ p => IsForward p
  | bind p next => IsForward p ∧ ∀ v, MadeForward (next v)
  | validate p _ _ => IsForward p
  | named p _ => IsForward p
  | spy p _ => IsForward p
  | _ => False
termination_by structural e => e

/-- Whether none of some expressions goes back. -/
def AllForward : List Expr → Prop
  | [] => True
  | p :: ps => IsForward p ∧ AllForward ps
termination_by structural ps => ps

/-- Whether an expression that a function has made never goes back. -/
def MadeForward : Except Fault Expr → Prop
  | .ok e => IsForward e
  | .error _ => True
termination_by structural made => made

end

lemma allForward_iff {ps : List Expr} : AllForward ps ↔ ∀ p ∈ ps, p.IsForward := by
  induction ps with
  | nil => simp [AllForward]
  | cons p ps ih => rw [AllForward, ih, List.forall_mem_cons]

/-- A choice between the characters of a text. -/
lemma isForward_oneOf (s : Text) : (oneOf s).IsForward := by
  intro p hp
  obtain ⟨c, -, rfl⟩ := List.mem_map.mp hp
  trivial

section

variable (resolve : Text → Parser Value)

/-- A single unit is found by looking at it. -/
lemma glances_of_isUnit {e : Expr} (he : e.IsUnit) : (e.parser resolve).Glances := by
  cases e with
  | char c => exact Parser.glances_unit _ _
  | satisfy test => exact Parser.glances_unit _ _
  | _ => exact he.elim

mutual

/-- The parser of an expression that never goes back extends. -/
theorem extends_expr : ∀ e : Expr, e.IsForward → (e.parser resolve).Extends
  | .char _, _ => (Parser.glances_unit _ _).extends
  | .literal us, _ => Parser.extends_literal us
  | .satisfy _, _ => (Parser.glances_unit _ _).extends
  | .succeed v, _ => Parser.extends_succeed v
  | .fail _, _ => Parser.extends_of_ne nofun
  | .andThen p q, h => ((extends_expr p h.1).andThen (extends_expr q h.2)).fmap _
  | .takeFirst p q, h => (extends_expr p h.1).takeFirst (extends_expr q h.2)
  | .takeSecond p q, h => (extends_expr p h.1).takeSecond (extends_expr q h.2)
  | .sequence ps, h => (Parser.extends_sequence (extends_exprs ps h)).fmap _
  | .times n p, h => (Parser.extends_times (extends_expr p h) n).fmap _
  | .alt ps, h => by
    refine Parser.Glances.extends (Parser.glances_alt fun p hp => ?_)
    rw [parsers_eq_map] at hp
    obtain ⟨e, he, rfl⟩ := List.mem_map.mp hp
    exact glances_of_isUnit resolve (h e he)
  | .fmap f p, h => (extends_expr p h).fmap f
  | .bind p next, h => (extends_expr p h.1).bind fun v => extends_made (next v) (h.2 v)
  | .validate p m test, h => (extends_expr p h).validate m test
  | .named p name, h => (extends_expr p h).named name
  | .spy p label, h => (extends_expr p h).spy label
termination_by structural e => e

/-- The parsers of expressions that never go back extend. -/
theorem extends_exprs : ∀ ps : List Expr, AllForward ps →
    ∀ p ∈ parsers resolve ps, p.Extends
  | [], _ => fun _ hp => absurd hp List.not_mem_nil
  | p :: ps, h => fun q hq => by
    rcases List.mem_cons.mp hq with hq | hq
    · exact hq ▸ extends_expr p h.1
    · exact extends_exprs ps h.2 q hq
termination_by structural ps => ps

/-- The parser of an expression that a function has made extends, if the expression never goes
back. -/
theorem extends_made : ∀ made : Except Fault Expr, MadeForward made →
    (parserOrFault resolve made).Extends
  | .ok e, h => extends_expr e h
  | .error _, _ => Parser.extends_of_ne nofun
termination_by structural made => made

end

end

end Expr

/-! ### The formats of a fixed width -/

namespace Format

/-- A number of a fixed width never goes back. -/
lemma isForward_number (n : Nat) : (number n).IsForward := by
  refine Expr.allForward_iff.mpr fun p hp => ?_
  rw [List.eq_of_mem_replicate hp]
  exact Expr.isForward_oneOf _

lemma isForward_separator : separator.IsForward :=
  Expr.isForward_oneOf ['-', '/']

lemma isForward_dateExpr : dateExpr.IsForward :=
  ⟨⟨isForward_number 4, isForward_separator⟩, ⟨isForward_number 2, isForward_separator⟩,
    isForward_number 2, trivial⟩

lemma isForward_strictIdExpr : strictIdExpr.IsForward := by
  refine Expr.allForward_iff.mpr fun p hp => ?_
  simp only [List.mem_append, List.mem_singleton] at hp
  obtain (rfl | hp) | rfl := hp
  · trivial
  · rw [List.eq_of_mem_replicate hp]
    trivial
  · exact ⟨⟨trivial, trivial⟩, trivial⟩

end Format

namespace Grammar

/-- **What is taken decides.**  An expression that never goes back, and that succeeds on a text,
succeeds with the same value on every text that begins with it, and leaves what it had left with the
rest of the longer text behind it.  Dates and identity numbers with six digits are such
expressions. -/
theorem ok_append_of_isForward :
    (Format.date.expr.IsForward ∧ Format.strictId.expr.IsForward) ∧
    ∀ (g : Grammar) (e : Expr), e.IsForward → ∀ (s t : Text) (tracing : Bool) (v rest : Value),
      (g.parser e (.text s) tracing).outcome = .ok (.ok v rest) →
      ∃ u, rest = .text u ∧
        (g.parser e (.text (s ++ t)) tracing).outcome = .ok (.ok v (.text (u ++ t))) := by
  refine ⟨⟨Format.isForward_dateExpr, Format.isForward_strictIdExpr⟩, ?_⟩
  intro g e he s t tracing v rest h
  obtain ⟨u, hrest, hout, -⟩ := Expr.extends_expr _ e he s t tracing v rest h
  exact ⟨u, hrest, hout⟩

/-- One of two letters, the same letter again, and a sign behind them. -/
def doubledWithSign : Expr :=
  .named (.bind (.oneOf ['a', 'b']) fun v => .ok (.takeFirst (.char v) (.oneOf ['-', '/']))) ['d']

theorem ok_append_of_isForward_doubledWithSign :
    doubledWithSign.IsForward ∧
    (({} : Grammar).parser doubledWithSign (.text "bb/a".toList) true).outcome =
      .ok (.ok (.unit 'b') (.text ['a'])) ∧
    ∃ u, Value.text ['a'] = .text u ∧
      (({} : Grammar).parser doubledWithSign (.text ("bb/a".toList ++ "a-".toList)) true).outcome =
        .ok (.ok (.unit 'b') (.text (u ++ "a-".toList))) := by
  have forward : doubledWithSign.IsForward :=
    ⟨Expr.isForward_oneOf _, fun _ => ⟨trivial, Expr.isForward_oneOf _⟩⟩
  exact ⟨forward, rfl, ok_append_of_isForward.2 {} doubledWithSign forward "bb/a".toList
    "a-".toList true _ _ rfl⟩

/-- Between alternatives of several characters more text can change the choice. -/
example :
    (({} : Grammar).parser (.alt [.word ['a', 'b'], .word ['a']]) (.text ['a']) false).outcome =
      .ok (.ok (.text ['a']) (.text [])) ∧
    (({} : Grammar).parser (.alt [.word ['a', 'b'], .word ['a']]) (.text ['a', 'b'])
      false).outcome = .ok (.ok (.text ['a', 'b']) (.text [])) :=
  ⟨rfl, rfl⟩

end Grammar

end GrammarKit
