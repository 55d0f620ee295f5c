/-
# Taking units off a sequence

A sequence is empty, or it has a first unit and something behind it.  So the parsers that look at
units can come to little on one: they take what they find, they say that the input is empty, or they
have something to say about a unit that they find there.  `Parser.outcome_unit`,
`Parser.outcome_char` and `Parser.outcome_literal` list what there is.

A message about a unit shows it.  That fails only for a unit that cannot be written.
-/
import GrammarKit.Proofs.Rest

namespace GrammarKit

namespace Value

/-- Whether a value has units that can be taken one after the other. -/
def IsSequence : Value → Prop
  | text _ => True
  | bytes _ => True
  | list _ => True
  | tuple _ => True
  | _ => False

/-- Whether a value is a unit of another one, at whatever place. -/
def IsUnitOf (u v : Value) : Prop :=
  ∃ us, v.units = .ok us ∧ u ∈ us

lemma IsSequence.of_isRestOf {rest input : Value} (h : input.IsSequence)
    (hrest : rest.IsRestOf input) : rest.IsSequence := by
  cases input with
  | text s =>
    obtain ⟨k, -, rfl⟩ := hrest
    trivial
  | bytes bs =>
    obtain ⟨k, -, rfl⟩ := hrest
    trivial
  | list vs =>
    obtain ⟨k, -, rfl⟩ := hrest
    trivial
  | tuple vs =>
    obtain ⟨k, -, rfl⟩ := hrest
    trivial
  | _ => exact h.elim

/-- The units of what is left are units of the input. -/
lemma IsUnitOf.of_isRestOf {u rest input : Value} (h : u.IsUnitOf rest)
    (hrest : rest.IsRestOf input) : u.IsUnitOf input := by
  obtain ⟨us, hus, hu⟩ := h
  cases input with
  | text s =>
    obtain ⟨k, -, rfl⟩ := hrest
    cases hus
    exact ⟨_, rfl, List.mem_of_mem_drop (List.map_drop ▸ hu)⟩
  | bytes bs =>
    obtain ⟨k, -, rfl⟩ := hrest
    cases hus
    exact ⟨_, rfl, List.mem_of_mem_drop (List.map_drop ▸ hu)⟩
  | list vs =>
    obtain ⟨k, -, rfl⟩ := hrest
    cases hus
    exact ⟨_, rfl, List.mem_of_mem_drop hu⟩
  | tuple vs =>
    obtain ⟨k, -, rfl⟩ := hrest
    cases hus
    exact ⟨_, rfl, List.mem_of_mem_drop hu⟩
  | _ =>
    cases hrest
    exact ⟨us, hus, hu⟩

/-- A sequence is empty, or it has a first unit and something behind it. -/
lemma IsSequence.front {v : Value} (h : v.IsSequence) : v.isEmpty = .ok true ∨
    v.isEmpty = .ok false ∧ ∃ u rest, v.item 0 = .ok u ∧ v.tail = .ok rest ∧ u.IsUnitOf v := by
  match v, h with
  | text [], _ => exact .inl rfl
  | text (c :: s), _ => exact .inr ⟨rfl, _, _, rfl, rfl, _, rfl, List.mem_cons_self⟩
  | bytes [], _ => exact .inl rfl
  | bytes (b :: bs), _ => exact .inr ⟨rfl, _, _, rfl, rfl, _, rfl, List.mem_cons_self⟩
  | list [], _ => exact .inl rfl
  | list (u :: us), _ => exact .inr ⟨rfl, _, _, rfl, rfl, _, rfl, List.mem_cons_self⟩
  | tuple [], _ => exact .inl rfl
  | tuple (u :: us), _ => exact .inr ⟨rfl, _, _, rfl, rfl, _, rfl, List.mem_cons_self⟩

lemma IsSequence.length? {v : Value} (h : v.IsSequence) : ∃ n, v.length? = some n := by
  match v, h with
  | text _, _ | bytes _, _ | list _, _ | tuple _, _ => exact ⟨_, rfl⟩

/-- The lengths of two sequences can be compared. -/
lemma IsSequence.isShorter?_ne_none {v w : Value} (hv : v.IsSequence) (hw : w.IsSequence) :
    v.isShorter? w ≠ none := by
  obtain ⟨m, hm⟩ := hv.length?
  obtain ⟨n, hn⟩ := hw.length?
  rw [isShorter?_eq, hm, hn]
  exact Option.some_ne_none _

/-- Only a number with too many digits keeps a value from being displayed. -/
lemma displayed_eq_error {v : Value} {fault : Fault} (h : v.displayed = .error fault) :
    fault = .unwritable ∧ v.isWritable = false := by
  unfold displayed ifWritable at h
  split at h
  · cases h
  · rename_i hv
    exact ⟨(Except.error.inj h).symm, Bool.eq_false_iff.mpr hv⟩

/-- Nothing but a text equals a text. -/
lemma eq_of_equals_text {v : Value} {s : Text} (h : v.equals (.text s) = true) : v = .text s := by
  cases v with
  | text t => exact congrArg text (beq_iff_eq.mp h)
  | bool b => simp [equals, number?] at h
  | int n => simp [equals, number?] at h
  | _ => simp [equals] at h

/-- The characters of a text, joined again. -/
lemma joinTexts_map_unit (s : Text) : joinTexts (s.map unit) = .ok s := by
  have texts : (s.map unit).mapM asText = .ok (s.map fun c => [c]) := by
    induction s with
    | nil => rfl
    | cons c s ih =>
      rw [List.map_cons, List.mapM_cons, ih]
      rfl
  rw [joinTexts, texts]
  exact congrArg Except.ok (List.flatMap_singleton' s)

end Value

/-! ### Messages about units -/

namespace Parser

variable {input : Value} {tracing : Bool}

/-- A message about one value is made unless the value cannot be written. -/
lemma about_eq_error {u : Value} {say : Text → Value} {fault : Fault}
    (h : (do return say (← u.displayed)) = Except.error fault) :
    fault = .unwritable ∧ u.isWritable = false := by
  cases hu : u.displayed with
  | ok s =>
    rw [hu] at h
    cases h
  | error fault' =>
    rw [hu] at h
    cases h
    exact Value.displayed_eq_error hu

/-- A message about one value consists of what is said and of the value as it is displayed. -/
lemma about_eq_ok {u : Value} {say : Text → Value} {m : Value} :
    (do return say (← u.displayed)) = Except.ok (ε := Fault) m ↔
      ∃ shown, u.displayed = .ok shown ∧ m = say shown := by
  cases u.displayed with
  | error fault => exact ⟨nofun, nofun⟩
  | ok s =>
    constructor
    · rintro ⟨⟩
      exact ⟨s, rfl, rfl⟩
    · rintro ⟨_, ⟨⟩, rfl⟩
      rfl

lemma unexpected_eq_ok {c u m : Value} : unexpected c u = .ok m ↔
    ∃ expected shown, c.displayed = .ok expected ∧ u.displayed = .ok shown ∧
      m = .text ("Expecting ".toList ++ expected ++ ", but got ".toList ++ shown) := by
  unfold unexpected
  cases c.displayed with
  | error fault => exact ⟨nofun, nofun⟩
  | ok expected =>
    refine about_eq_ok.trans ⟨?_, ?_⟩
    · rintro ⟨shown, hu, rfl⟩
      exact ⟨expected, shown, rfl, hu, rfl⟩
    · rintro ⟨_, shown, ⟨⟩, hu, rfl⟩
      exact ⟨shown, hu, rfl⟩

lemma unexpected_eq_error {c u : Value} {fault : Fault} (h : unexpected c u = .error fault) :
    fault = .unwritable ∧ (c.isWritable = false ∨ u.isWritable = false) := by
  unfold unexpected at h
  cases hc : c.displayed with
  | error fault' =>
    rw [hc] at h
    cases h
    exact (Value.displayed_eq_error hc).imp_right .inl
  | ok s =>
    rw [hc] at h
    exact (about_eq_error h).imp_right .inr

section

variable {test : Value → Except Fault Bool} {complaint : Value → Except Fault Value}

/-- What a parser of a single unit comes to where there is one. -/
lemma outcome_unit_of_front {u rest : Value} (hne : input.isEmpty = .ok false)
    (hitem : input.item 0 = .ok u) (htail : input.tail = .ok rest) :
    (unit test complaint input tracing).outcome =
      test u >>= fun b => if b then .ok (.ok u rest) else (complaint u).map .err := by
  rw [unit, hne, hitem, htail]
  show (Effect.continueWith (Effect.ofExcept (test u) tracing) _).outcome = _
  cases test u with
  | error fault => rfl
  | ok b =>
    cases b with
    | true => rfl
    | false => cases complaint u <;> rfl

/-- What a parser of a single unit can come to on a sequence. -/
lemma outcome_unit (h : input.IsSequence) :
    (unit test complaint input tracing).outcome = .ok (.err emptyInput) ∨
    ∃ u rest, input.item 0 = .ok u ∧ u.IsUnitOf input ∧ rest.IsRestOf input ∧
      (unit test complaint input tracing).outcome =
        test u >>= fun b => if b then .ok (.ok u rest) else (complaint u).map .err := by
  rcases h.front with hempty | ⟨hne, u, rest, hitem, htail, hu⟩
  · rw [unit, hempty]
    exact .inl rfl
  · exact .inr ⟨u, rest, hitem, hu, Value.isRestOf_tail hne htail,
      outcome_unit_of_front hne hitem htail⟩

end

/-- What the parser of a unit says where it does not find the unit in a part of the input. -/
def Misses (c input : Value) (message : Except Fault Value) : Prop :=
  message = .ok emptyInput ∨ ∃ u, u.IsUnitOf input ∧ message = unexpected c u

/-- What the parser of a given unit can come to. -/
lemma outcome_char (c : Value) (h : input.IsSequence) (tracing : Bool) :
    (∃ u rest, u.equals c = true ∧ rest.IsRestOf input ∧
      (char c input tracing).outcome = .ok (.ok u rest)) ∨
    ∃ message, Misses c input message ∧ (char c input tracing).outcome = message.map .err := by
  rcases outcome_unit h with hempty | ⟨u, rest, -, hu, hrest, hrun⟩
  · exact .inr ⟨.ok emptyInput, .inl rfl, hempty⟩
  · cases heq : u.equals c with
    | true => exact .inl ⟨u, rest, heq, hrest, hrun.trans (by rw [heq]; rfl)⟩
    | false => exact .inr ⟨_, .inr ⟨u, hu, rfl⟩, hrun.trans (by rw [heq]; rfl)⟩

lemma Misses.of_isRestOf {c rest : Value} {message : Except Fault Value}
    (h : Misses c rest message) (hrest : rest.IsRestOf input) : Misses c input message :=
  h.imp_right fun ⟨u, hu, hm⟩ => ⟨u, hu.of_isRestOf hrest, hm⟩

lemma outcome_fmap {α β : Type} (f : α → Except Fault β) (p : Parser α) (input : Value)
    (tracing : Bool) :
    (p.fmap f input tracing).outcome = (p input tracing).outcome >>= fun r => r.map f := by
  show (Effect.continueWith (p input tracing) _).outcome = _
  rcases p input tracing with ⟨_ | r, t, events⟩ <;> rfl

section

variable {α : Type} {p : Parser α} {ps : List (Parser α)} {i : Value}

lemma outcome_sequence_of_ok {v : α} {rest : Value} (h : (p i tracing).outcome = .ok (.ok v rest)) :
    (sequence (p :: ps) i tracing).outcome =
      (sequence ps rest (p i tracing).tracing).outcome.map (Result.prepend v) := by
  show (Effect.continueWith (p i tracing) _).outcome = _
  rw [Effect.continueWith_of_ok h]
  rfl

lemma outcome_sequence_of_err {message : Except Fault Value}
    (h : (p i tracing).outcome = message.map .err) :
    (sequence (p :: ps) i tracing).outcome = message.map .err := by
  show (Effect.continueWith (p i tracing) _).outcome = _
  cases message with
  | error fault => rw [Effect.continueWith_of_error h]; rfl
  | ok m => rw [Effect.continueWith_of_ok h]; rfl

end

/-- What the parser of a unit says about another one. -/
lemma outcome_char_of_ne {c : Value} {u : Char} {s : Text} (h : (Value.unit u).equals c = false) :
    (char c (.text (u :: s)) tracing).outcome = (unexpected c (Value.unit u)).map .err := by
  refine (outcome_unit_of_front rfl rfl rfl).trans ?_
  rw [h]
  rfl

/-- What the parsers of the characters of a text, one after the other, can come to on a part of a
sequence. -/
lemma outcome_characters (s : Text) {i : Value} (h : i.IsSequence) (hi : i.IsRestOf input)
    (tracing : Bool) :
    (∃ rest, (sequence ((s.map Value.unit).map char) i tracing).outcome =
      .ok (.ok (s.map Value.unit) rest)) ∨
    ∃ c ∈ s.map Value.unit, ∃ message, Misses c input message ∧
      (sequence ((s.map Value.unit).map char) i tracing).outcome = message.map .err := by
  induction s generalizing i tracing with
  | nil => exact .inl ⟨i, rfl⟩
  | cons c s ih =>
    rcases outcome_char (Value.unit c) h tracing with ⟨u, rest, heq, hrest, hok⟩ | ⟨m, hm, herr⟩
    · -- what is taken is the character itself, and no other value that equals it
      obtain rfl : u = Value.unit c := Value.eq_of_equals_text heq
      rcases ih (h.of_isRestOf hrest) (hrest.trans hi) (char (Value.unit c) i tracing).tracing with
        ⟨rest', hrun⟩ | ⟨c', hc', m, hm, hrun⟩
      · exact .inl ⟨rest', (outcome_sequence_of_ok hok).trans (by rw [hrun]; rfl)⟩
      · refine .inr ⟨c', List.mem_cons_of_mem _ hc', m, hm, (outcome_sequence_of_ok hok).trans ?_⟩
        rw [hrun]
        cases m <;> rfl
    · exact .inr ⟨_, List.mem_cons_self, m, hm.of_isRestOf hi, outcome_sequence_of_err herr⟩

/-- What the parser of a text can come to: every unit that it takes is a character, so that they can
be joined. -/
lemma outcome_literal (s : Text) (h : input.IsSequence) (tracing : Bool) :
    (∃ rest, (literal (s.map Value.unit) input tracing).outcome = .ok (.ok (.text s) rest)) ∨
    ∃ c ∈ s.map Value.unit, ∃ message, Misses c input message ∧
      (literal (s.map Value.unit) input tracing).outcome = message.map .err := by
  have run : (literal (s.map Value.unit) input tracing).outcome = _ :=
    outcome_fmap _ _ input tracing
  rw [run]
  rcases outcome_characters s h (.refl input) tracing with ⟨rest, hrun⟩ | ⟨c, hc, m, hm, hrun⟩
  · refine .inl ⟨rest, ?_⟩
    rw [hrun]
    show (Value.joinTexts (s.map Value.unit) >>= _) >>= _ = _
    rw [Value.joinTexts_map_unit]
    rfl
  · refine .inr ⟨c, hc, m, hm, ?_⟩
    rw [hrun]
    cases m <;> rfl

end Parser

end GrammarKit
