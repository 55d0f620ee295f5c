/-
# The formats as templates

A date is a text that goes through the ten places of a template: `Format.date_eq`.  An identity
number has as many places as it happens to have digits, which is known once the digits behind the
letter have been counted: `Format.idNumber_skips`.  What a format answers to a text that it does not
accept is then a message about the first place where the text deviates.
-/
import GrammarKit.Proofs.Answer
import GrammarKit.Proofs.Template

namespace GrammarKit

namespace Reader

lemma map_eq_error {α β : Type} {f : α → β} {m : Reader α} {s t : Text} :
    (f <$> m) s = .error t ↔ m s = .error t := by
  rw [map_eq_pure_bind, bind_run]
  cases m s with
  | error u =>
    constructor
    · rintro ⟨⟩
      rfl
    · rintro ⟨⟩
      rfl
  | ok read => exact ⟨nofun, nofun⟩

end Reader

/-! ### Dates -/

namespace Place

/-- The place of a digit of a date. -/
def dateDigit : Place :=
  ⟨"0123456789".toList, Parser.unexpectedText '9'⟩

/-- The place of a sign between the parts of a date. -/
def dateSign : Place :=
  ⟨['-', '/'], Parser.unexpectedText '/'⟩

end Place

namespace Format

/-- The places of a date. -/
def dateTemplate : Template :=
  [.dateDigit, .dateDigit, .dateDigit, .dateDigit, .dateSign, .dateDigit, .dateDigit, .dateSign,
    .dateDigit, .dateDigit]

/-- The year, the month and the day that stand in the ten characters of a date. -/
def dateNumbers (cs : Text) : Nat × Nat × Nat :=
  (Nat.ofDigitChars 10 (cs.take 4) 0, Nat.ofDigitChars 10 ((cs.drop 5).take 2) 0,
    Nat.ofDigitChars 10 ((cs.drop 8).take 2) 0)

/-- A date is read place by place. -/
lemma date_eq : Reader.date = dateNumbers <$> dateTemplate.read := by
  have digit : Reader.take Place.dateDigit.chars.contains Place.dateDigit.complaint =
      Reader.dateDigit := rfl
  have sign : Reader.take Place.dateSign.chars.contains Place.dateSign.complaint =
      Reader.separator := rfl
  simp only [Reader.date, Reader.number, Reader.count, dateTemplate, Template.read, digit, sign,
    map_eq_pure_bind, bind_assoc, pure_bind, dateNumbers, List.take, List.drop]

/-- Only the first ten characters count. -/
lemma dateNumbers_take (s : Text) : dateNumbers (s.take 10) = dateNumbers s := by
  simp [dateNumbers, List.take_take, List.drop_take]

variable {s : Text} {i : Nat}

lemma date_of_matches (h : dateTemplate.Matches s) :
    Reader.date s = .ok (dateNumbers s, s.drop 10) := by
  rw [date_eq]
  exact Reader.map_eq_ok.mpr ⟨_, Template.read_of_matches h, dateNumbers_take s⟩

lemma reader_date_of_matches (h : dateTemplate.Matches s) :
    date.reader s = .ok (dateValue (dateNumbers s), s.drop 10) :=
  Reader.map_eq_ok.mpr ⟨_, date_of_matches h, rfl⟩

lemma reader_date_of_deviatesAt (h : dateTemplate.DeviatesAt s i) :
    date.reader s = .error (dateTemplate.message s i) := by
  rw [reader, date_eq, Functor.map_map]
  exact Reader.map_eq_error.mpr (Template.read_of_deviatesAt h)

/-- The parser of a format, without more, comes to what is read. -/
lemma outcome_plain (format : Format) (s : Text) (tracing : Bool) :
    (format.parser false (.text s) tracing).outcome =
      .ok (Reader.result (fun v => v) (format.reader s)) :=
  gives_answer.outcome tracing

/-- With the demand that nothing be left, the parser of a format succeeds where the whole text is
read. -/
lemma outcome_whole_eq_ok {format : Format} {tracing : Bool} :
    (∃ v rest, (format.parser true (.text s) tracing).outcome = .ok (.ok v rest)) ↔
      ∃ v, format.reader s = .ok (v, []) := by
  have hanswer : (format.parser true (.text s) tracing).outcome = _ := gives_answer.outcome tracing
  rw [hanswer, answer, lineReader, if_pos rfl, Reader.bind_run]
  rcases format.reader s with m | ⟨v, _ | ⟨c, rest⟩⟩
  · constructor
    · rintro ⟨v, rest, h⟩
      cases h
    · rintro ⟨v, h⟩
      cases h
  · constructor
    · intro _
      exact ⟨v, rfl⟩
    · intro _
      exact ⟨v, _, rfl⟩
  · constructor
    · rintro ⟨v, rest, h⟩
      cases h
    · rintro ⟨v, h⟩
      cases h

/-- **Dates.**  The format of dates has an answer to every text.  If the first ten characters are
digits and signs as in `YYYY-MM-DD`, with `/` as good a sign as `-`, it is the dictionary of the
three numbers with the rest of the text.  Any other text has a first place where it ends or has
another character, and the answer is a message about that place, which asks for a nine where a digit
should be, and for a slash where a sign should be.  So the texts that are dates as a whole are those
of ten characters that go through the ten places. -/
theorem date_outcome_of_template (s : Text) (tracing : Bool) :
    (∃ r, (date.parser false (.text s) tracing).outcome = .ok r) ∧
    (dateTemplate.Matches s ∨ ∃ i, dateTemplate.DeviatesAt s i) ∧
    (dateTemplate.Matches s → (date.parser false (.text s) tracing).outcome =
      .ok (.ok (.dict [
        (.text "year".toList, .int (Nat.ofDigitChars 10 (s.take 4) 0 : Nat)),
        (.text "month".toList, .int (Nat.ofDigitChars 10 ((s.drop 5).take 2) 0 : Nat)),
        (.text "day".toList, .int (Nat.ofDigitChars 10 ((s.drop 8).take 2) 0 : Nat))])
        (.text (s.drop 10)))) ∧
    (∀ i, dateTemplate.DeviatesAt s i → i ≤ s.length ∧
      (i = s.length → (date.parser false (.text s) tracing).outcome =
        .ok (.err (.text "Empty input".toList))) ∧
      ∀ u, s[i]? = some u →
        (dateTemplate[i]? = some .dateDigit → (date.parser false (.text s) tracing).outcome =
          .ok (.err (.text ("Expecting 9, but got ".toList ++ [u])))) ∧
        (dateTemplate[i]? = some .dateSign → (date.parser false (.text s) tracing).outcome =
          .ok (.err (.text ("Expecting /, but got ".toList ++ [u]))))) ∧
    ((∃ v rest, (date.parser true (.text s) tracing).outcome = .ok (.ok v rest)) ↔
      dateTemplate.Matches s ∧ s.length = 10) := by
  rw [outcome_plain, outcome_whole_eq_ok]
  refine ⟨⟨_, rfl⟩, dateTemplate.matches_or_deviatesAt s, ?_, ?_, ?_⟩
  · intro hmatches
    rw [reader_date_of_matches hmatches]
    rfl
  · intro i hdeviates
    rw [reader_date_of_deviatesAt hdeviates]
    refine ⟨hdeviates.le_length, fun hend => ?_, fun u hu => ⟨fun hplace => ?_, fun hplace => ?_⟩⟩
    · rw [Template.message_of_end hend]
      rfl
    · rw [Template.message_of_character hplace hu]
      rfl
    · rw [Template.message_of_character hplace hu]
      rfl
  · rcases dateTemplate.matches_or_deviatesAt s with hmatches | ⟨i, hdeviates⟩
    · rw [reader_date_of_matches hmatches]
      have hlen := hmatches.length_le
      constructor
      · rintro ⟨v, hv⟩
        have hnil : s.drop 10 = [] := congrArg Prod.snd (Except.ok.inj hv)
        rw [List.drop_eq_nil_iff] at hnil
        exact ⟨hmatches, le_antisymm hnil hlen⟩
      · rintro ⟨-, hten⟩
        exact ⟨_, by rw [List.drop_eq_nil_of_le hten.le]⟩
    · rw [reader_date_of_deviatesAt hdeviates]
      exact ⟨nofun, fun h => absurd h.1 hdeviates.not_matches⟩

/-- A date with two different signs and something behind it, a sign that does not come, a character
in the place of a digit, and a text that ends too early. -/
theorem date_outcome_of_template_mixedSigns :
    (dateTemplate.Matches "2023/11-24x".toList ∧
      (date.parser false (.text "2023/11-24x".toList) true).outcome =
        .ok (.ok (.dict [(.text "year".toList, .int 2023), (.text "month".toList, .int 11),
          (.text "day".toList, .int 24)]) (.text ['x']))) ∧
    (dateTemplate.DeviatesAt "20230".toList 4 ∧
      (date.parser false (.text "20230".toList) true).outcome =
        .ok (.err (.text "Expecting /, but got 0".toList))) ∧
    (dateTemplate.DeviatesAt "2023-1x".toList 6 ∧
      (date.parser false (.text "2023-1x".toList) true).outcome =
        .ok (.err (.text "Expecting 9, but got x".toList))) ∧
    dateTemplate.DeviatesAt "2023-".toList 5 ∧
      (date.parser false (.text "2023-".toList) true).outcome =
        .ok (.err (.text "Empty input".toList)) := by
  refine ⟨⟨by decide, ?_⟩, ⟨by decide, ?_⟩, ⟨by decide, ?_⟩, by decide, ?_⟩
  · obtain ⟨-, -, accepts, -⟩ := date_outcome_of_template "2023/11-24x".toList true
    exact accepts (by decide)
  · obtain ⟨-, -, -, refuses, -⟩ := date_outcome_of_template "20230".toList true
    exact ((refuses 4 (by decide)).2.2 '0' rfl).2 rfl
  · obtain ⟨-, -, -, refuses, -⟩ := date_outcome_of_template "2023-1x".toList true
    exact ((refuses 6 (by decide)).2.2 'x' rfl).1 rfl
  · obtain ⟨-, -, -, refuses, -⟩ := date_outcome_of_template "2023-".toList true
    exact (refuses 5 (by decide)).2.1 rfl

end Format

/-! ### Identity numbers -/

namespace Place

/-- The place of a letter. -/
def letter : Place :=
  ⟨"ABCDEFGHIJKLMNOPQRSTUVWXYZabcdefghijklmnopqrstuvwxyz".toList, Parser.unsatisfiedText⟩

/-- The place of a digit of an identity number. -/
def digit : Place :=
  ⟨"0123456789".toList, Parser.unsatisfiedText⟩

/-- The place of a given character. -/
def symbol (c : Char) : Place :=
  ⟨[c], Parser.unexpectedText c⟩

end Place

namespace Format

/-- The places of a check digit. -/
def checkDigitTemplate : Template :=
  [.symbol '(', .digit, .symbol ')']

/-- The places of an identity number with `n` digits. -/
def idTemplate (n : Nat) : Template :=
  .letter :: (List.replicate n .digit ++ checkDigitTemplate)

/-- The number of digits that stand together behind the first character of a text. -/
def digitRun (s : Text) : Nat :=
  ((s.drop 1).takeWhile Reader.isDigit).length

lemma take_symbol (c : Char) :
    Reader.take (Place.symbol c).chars.contains (Place.symbol c).complaint = Reader.symbol c := by
  have single : ([c] : Text).contains = (· == c) := by
    funext d
    rw [List.contains_cons, List.contains_nil, Bool.or_false]
  rw [Reader.symbol, ← single]
  rfl

/-- A check digit is read place by place. -/
lemma checkDigit_eq : Reader.checkDigit = (fun cs => cs.getD 1 '0') <$> checkDigitTemplate.read := by
  have digit : Reader.take Place.digit.chars.contains Place.digit.complaint = Reader.digit := rfl
  simp only [Reader.checkDigit, checkDigitTemplate, Template.read, take_symbol, digit,
    map_eq_pure_bind, bind_assoc, pure_bind]
  rfl

/-- Behind a letter, an identity number is read by its check digit. -/
lemma idNumber_cons {a : Char} (ha : a ∈ Place.letter.chars) (t : Text) :
    Reader.idNumber (.takeWhile Reader.isDigit) (a :: t) =
      (Reader.checkDigit (t.dropWhile Reader.isDigit)).map
        fun r => ((a, t.takeWhile Reader.isDigit, r.1), r.2) := by
  have hletter : Reader.letter (a :: t) = .ok (a, t) := if_pos (List.contains_iff_mem.mpr ha)
  rw [Reader.idNumber, Reader.bind_run, hletter]
  show (Reader.checkDigit (t.dropWhile Reader.isDigit) >>= _) = _
  cases Reader.checkDigit (t.dropWhile Reader.isDigit) <;> rfl

/-- An identity number is read like a text with as many digits as it happens to have. -/
lemma idNumber_skips (s : Text) :
    (Reader.idNumber (.takeWhile Reader.isDigit) s).map (fun _ => ()) =
      ((idTemplate (digitRun s)).read s).map fun _ => () := by
  cases s with
  | nil => rfl
  | cons a t =>
    by_cases ha : a ∈ Place.letter.chars
    · have hdigits : ∀ d ∈ t.takeWhile Reader.isDigit, d ∈ Place.digit.chars :=
        fun d hd => List.contains_iff_mem.mp (List.mem_takeWhile_imp hd)
      have hrun : Template.read (List.replicate (t.takeWhile Reader.isDigit).length .digit ++
            checkDigitTemplate) (t.takeWhile Reader.isDigit ++ t.dropWhile Reader.isDigit) = _ :=
        Template.read_replicate_append hdigits
      rw [List.takeWhile_append_dropWhile] at hrun
      have hread : (idTemplate (digitRun (a :: t))).read (a :: t) = _ :=
        Template.read_cons_of_mem ha
      have hcount : digitRun (a :: t) = (t.takeWhile Reader.isDigit).length := rfl
      rw [hread, hcount, hrun, idNumber_cons ha, checkDigit_eq, map_eq_pure_bind, Reader.bind_run]
      cases checkDigitTemplate.read (t.dropWhile Reader.isDigit) <;> rfl
    · have hread : (idTemplate (digitRun (a :: t))).read (a :: t) = _ :=
        Template.read_cons_of_not_mem ha
      have hletter : Reader.letter (a :: t) = .error (Place.letter.complaint a) :=
        if_neg fun hmem => ha (List.contains_iff_mem.mp hmem)
      rw [hread, Reader.idNumber, Reader.bind_run, hletter]
      rfl

variable {s : Text} {i : Nat}

/-- Whether a text begins with an identity number, which has the given parts. -/
structure SpellsId (s : Text) (letter : Char) (digits : Text) (check : Char) (rest : Text) :
    Prop where
  text_eq : s = letter :: (digits ++ '(' :: check :: ')' :: rest)
  letter_mem : letter ∈ "ABCDEFGHIJKLMNOPQRSTUVWXYZabcdefghijklmnopqrstuvwxyz".toList
  digits_mem : ∀ d ∈ digits, d ∈ "0123456789".toList
  check_mem : check ∈ "0123456789".toList

lemma checkDigit_eq_ok {c : Char} {rest : Text} : Reader.checkDigit s = .ok (c, rest) ↔
    s = '(' :: c :: ')' :: rest ∧ c ∈ "0123456789".toList := by
  simp only [Reader.checkDigit, Reader.symbol, Reader.digit, Reader.bind_eq_ok, Reader.pure_eq_ok,
    Reader.take_eq_ok, beq_iff_eq, Reader.isDigit, List.contains_iff_mem]
  constructor
  · rintro ⟨_, _, ⟨rfl, rfl⟩, d, _, ⟨rfl, hd⟩, _, _, ⟨rfl, rfl⟩, rfl, rfl⟩
    exact ⟨rfl, hd⟩
  · rintro ⟨rfl, hc⟩
    exact ⟨'(', _, ⟨rfl, rfl⟩, c, _, ⟨rfl, hc⟩, ')', rest, ⟨rfl, rfl⟩, rfl, rfl⟩

/-- The texts that are read as identity numbers are those that are put together from the parts. -/
lemma idNumber_eq_ok_iff_spellsId {a c : Char} {ds rest : Text} :
    Reader.idNumber (.takeWhile Reader.isDigit) s = .ok ((a, ds, c), rest) ↔
      SpellsId s a ds c rest := by
  rw [Reader.idNumber_eq_ok]
  constructor
  · rintro ⟨s', s'', ha, hds, hc⟩
    obtain ⟨rfl, hletter⟩ := Reader.take_eq_ok.mp ha
    obtain ⟨rfl, hdigits, -⟩ := Reader.takeWhile_eq_ok.mp hds
    obtain ⟨rfl, hcheck⟩ := checkDigit_eq_ok.mp hc
    exact ⟨rfl, List.contains_iff_mem.mp hletter,
      fun d hd => List.contains_iff_mem.mp (hdigits d hd), hcheck⟩
  · rintro ⟨rfl, hletter, hdigits, hcheck⟩
    -- a bracket is no digit, so that the digits end where they should
    have hbracket : ∀ d ∈ ('(' :: c :: ')' :: rest).head?, Reader.isDigit d = false := by
      rintro _ ⟨⟩
      decide
    refine ⟨_, _, Reader.take_eq_ok.mpr ⟨rfl, List.contains_iff_mem.mpr hletter⟩,
      Reader.takeWhile_eq_ok.mpr ⟨rfl, ?_, hbracket⟩, checkDigit_eq_ok.mpr ⟨rfl, hcheck⟩⟩
    exact fun d hd => List.contains_iff_mem.mpr (hdigits d hd)

/-- The parts of an identity number are found in one way only. -/
lemma SpellsId.unique {a a' c c' : Char} {ds ds' rest rest' : Text}
    (h : SpellsId s a ds c rest) (h' : SpellsId s a' ds' c' rest') :
    a = a' ∧ ds = ds' ∧ c = c' ∧ rest = rest' := by
  have hread := idNumber_eq_ok_iff_spellsId.mpr h
  rw [idNumber_eq_ok_iff_spellsId.mpr h'] at hread
  cases hread
  exact ⟨rfl, rfl, rfl, rfl⟩

lemma reader_id_of_deviatesAt (h : (idTemplate (digitRun s)).DeviatesAt s i) :
    id.reader s = .error ((idTemplate (digitRun s)).message s i) := by
  have hskip := idNumber_skips s
  rw [Template.read_of_deviatesAt h] at hskip
  refine Reader.map_eq_error.mpr ?_
  cases hread : Reader.idNumber (.takeWhile Reader.isDigit) s with
  | error m =>
    rw [hread] at hskip
    exact congrArg Except.error (Except.error.inj hskip)
  | ok read =>
    rw [hread] at hskip
    cases hskip

/-- A text that begins with no identity number deviates at some place. -/
lemma spellsId_or_deviatesAt (s : Text) : (∃ a ds c rest, SpellsId s a ds c rest) ∨
    ∃ i, (idTemplate (digitRun s)).DeviatesAt s i := by
  rcases Template.matches_or_deviatesAt (idTemplate (digitRun s)) s with hmatches | hdeviates
  · left
    have hskip := idNumber_skips s
    rw [Template.read_of_matches hmatches] at hskip
    obtain ⟨⟨⟨a, ds, c⟩, rest⟩, hread, -⟩ := Except.map_eq_ok.mp hskip
    exact ⟨a, ds, c, rest, idNumber_eq_ok_iff_spellsId.mp hread⟩
  · exact .inr hdeviates

/-- **Identity numbers.**  The format of identity numbers has an answer to every text.  It reads a
number off a text exactly if the text begins with a letter, some digits, and a digit in parentheses;
these are then the parts of the number, what stands behind them is left, and there is no other way to
find them.  Any other text has a first place where it ends or has another character than a number
with as many digits as stand behind its first character; the answer is a message about that place,
which shows the bracket that should be there. -/
theorem id_outcome_of_template (s : Text) (tracing : Bool) :
    (∃ r, (id.parser false (.text s) tracing).outcome = .ok r) ∧
    (∀ v rest, (id.parser false (.text s) tracing).outcome = .ok (.ok v rest) ↔
      ∃ a ds c t, SpellsId s a ds c t ∧ v = .idNumber (.text [a]) (.text ds) (.text [c]) ∧
        rest = .text t) ∧
    (∀ a ds c t a' ds' c' t', SpellsId s a ds c t → SpellsId s a' ds' c' t' →
      a = a' ∧ ds = ds' ∧ c = c' ∧ t = t') ∧
    ((∃ a ds c t, SpellsId s a ds c t) ∨ ∃ i, (idTemplate (digitRun s)).DeviatesAt s i) ∧
    ∀ i, (idTemplate (digitRun s)).DeviatesAt s i → i ≤ s.length ∧
      (i = s.length → (id.parser false (.text s) tracing).outcome =
        .ok (.err (.text "Empty input".toList))) ∧
      ∀ u, s[i]? = some u →
        ((idTemplate (digitRun s))[i]? = some .letter ∨
            (idTemplate (digitRun s))[i]? = some .digit →
          (id.parser false (.text s) tracing).outcome =
            .ok (.err (.text (u :: " cannot satisfy the condition".toList)))) ∧
        ((idTemplate (digitRun s))[i]? = some (.symbol '(') →
          (id.parser false (.text s) tracing).outcome =
            .ok (.err (.text ("Expecting (, but got ".toList ++ [u])))) ∧
        ((idTemplate (digitRun s))[i]? = some (.symbol ')') →
          (id.parser false (.text s) tracing).outcome =
            .ok (.err (.text ("Expecting ), but got ".toList ++ [u])))) := by
  rw [outcome_plain]
  refine ⟨⟨_, rfl⟩, ?_, ?_, spellsId_or_deviatesAt s, ?_⟩
  · intro v rest
    have hreads : (id.parser false).Reads _ idNumber := reads_idExpr _
    rw [← outcome_plain id s tracing, hreads.outcome_eq_ok]
    constructor
    · rintro ⟨⟨a, ds, c⟩, t, hread, rfl, rfl⟩
      exact ⟨a, ds, c, t, idNumber_eq_ok_iff_spellsId.mp hread, rfl, rfl⟩
    · rintro ⟨a, ds, c, t, hspells, rfl, rfl⟩
      exact ⟨(a, ds, c), t, idNumber_eq_ok_iff_spellsId.mpr hspells, rfl, rfl⟩
  · intro a ds c t a' ds' c' t' h h'
    exact h.unique h'
  · intro i hdeviates
    rw [reader_id_of_deviatesAt hdeviates]
    refine ⟨hdeviates.le_length, fun hend => ?_, fun u hu => ⟨fun hplace => ?_, fun hplace => ?_,
      fun hplace => ?_⟩⟩
    · rw [Template.message_of_end hend]
      rfl
    · rcases hplace with hplace | hplace
      · rw [Template.message_of_character hplace hu]
        rfl
      · rw [Template.message_of_character hplace hu]
        rfl
    · rw [Template.message_of_character hplace hu]
      rfl
    · rw [Template.message_of_character hplace hu]
      rfl

/-- A number with a rest; a digit where a letter should be, a wrong bracket behind the digits, no
check digit, and no bracket at the end. -/
theorem id_outcome_of_template_brackets :
    (SpellsId "A12(3)x".toList 'A' ['1', '2'] '3' ['x'] ∧
      (id.parser false (.text "A12(3)x".toList) true).outcome =
        .ok (.ok (.idNumber (.text ['A']) (.text ['1', '2']) (.text ['3'])) (.text ['x']))) ∧
    ((idTemplate (digitRun "1A".toList)).DeviatesAt "1A".toList 0 ∧
      (id.parser false (.text "1A".toList) true).outcome =
        .ok (.err (.text "1 cannot satisfy the condition".toList))) ∧
    ((idTemplate (digitRun "A12]".toList)).DeviatesAt "A12]".toList 3 ∧
      (id.parser false (.text "A12]".toList) true).outcome =
        .ok (.err (.text "Expecting (, but got ]".toList))) ∧
    ((idTemplate (digitRun "A()".toList)).DeviatesAt "A()".toList 2 ∧
      (id.parser false (.text "A()".toList) true).outcome =
        .ok (.err (.text ") cannot satisfy the condition".toList))) ∧
    (idTemplate (digitRun "A(3".toList)).DeviatesAt "A(3".toList 3 ∧
      (id.parser false (.text "A(3".toList) true).outcome =
        .ok (.err (.text "Empty input".toList)) := by
  have digits : ∀ d ∈ ['1', '2'], d ∈ "0123456789".toList :=
    List.forall_mem_cons.mpr ⟨by decide, List.forall_mem_singleton.mpr (by decide)⟩
  have spells : SpellsId "A12(3)x".toList 'A' ['1', '2'] '3' ['x'] :=
    ⟨rfl, by decide, digits, by decide⟩
  refine ⟨⟨spells, ?_⟩, ⟨by decide, ?_⟩, ⟨by decide, ?_⟩, ⟨by decide, ?_⟩, by decide, ?_⟩
  · obtain ⟨-, accepts, -⟩ := id_outcome_of_template "A12(3)x".toList true
    exact (accepts _ _).mpr ⟨_, _, _, _, spells, rfl, rfl⟩
  · obtain ⟨-, -, -, -, refuses⟩ := id_outcome_of_template "1A".toList true
    exact ((refuses 0 (by decide)).2.2 '1' rfl).1 (.inl rfl)
  · obtain ⟨-, -, -, -, refuses⟩ := id_outcome_of_template "A12]".toList true
    exact ((refuses 3 (by decide)).2.2 ']' rfl).2.1 rfl
  · obtain ⟨-, -, -, -, refuses⟩ := id_outcome_of_template "A()".toList true
    exact ((refuses 2 (by decide)).2.2 ')' rfl).1 (.inr rfl)
  · obtain ⟨-, -, -, -, refuses⟩ := id_outcome_of_template "A(3".toList true
    exact (refuses 3 (by decide)).2.1 rfl

end Format

end GrammarKit
