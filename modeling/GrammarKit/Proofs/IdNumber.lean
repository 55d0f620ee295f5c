/-
# Identity numbers with six digits

The two formats for identity numbers are built in different ways.  One is a letter, as many digits
as there are, and a check digit, put together in pairs; the other is a list of eight parts, of which
the value takes the first, the next six, and the last.  Both read a text: `Format.reads_idExpr` and
`Format.reads_strictIdExpr` say that they differ in nothing but in how the digits are read.

As many digits as there are is the same as a fixed number of them wherever no further digit follows,
and none can follow where a bracket must.  So the format with six digits accepts what the other
accepts with six digits, and nothing else: `Format.strictId_eq_ok_iff`.
-/
import GrammarKit.Format
import GrammarKit.Proofs.Reading

namespace GrammarKit

namespace Reader

variable {s ds rest : Text} {c : Char}

/-! ### Identity numbers -/

/-- Whether a character is a decimal digit. -/
def isDigit (c : Char) : Bool :=
  "0123456789".toList.contains c

/-- Reads a letter. -/
def letter : Reader Char :=
  take "ABCDEFGHIJKLMNOPQRSTUVWXYZabcdefghijklmnopqrstuvwxyz".toList.contains Parser.unsatisfiedText

/-- Reads a digit. -/
def digit : Reader Char :=
  take isDigit Parser.unsatisfiedText

/-- Reads a given character. -/
def symbol (c : Char) : Reader Char :=
  take (· == c) (Parser.unexpectedText c)

/-- Reads a digit in parentheses. -/
def checkDigit : Reader Char := do
  let _ ← symbol '('
  let c ← digit
  let _ ← symbol ')'
  return c

/-- Reads a letter, digits in a given way, and a check digit. -/
def idNumber (digits : Reader Text) : Reader (Char × Text × Char) := do
  let a ← letter
  let ds ← digits
  let c ← checkDigit
  return (a, ds, c)

/-- Where a check digit is read there is no digit. -/
lemma not_isDigit_of_checkDigit (h : checkDigit s = .ok (c, rest)) :
    ∀ d ∈ s.head?, isDigit d = false := by
  obtain ⟨d, s', hopen, -⟩ := bind_eq_ok.mp h
  obtain ⟨rfl, hd⟩ := take_eq_ok.mp hopen
  rintro _ ⟨⟩
  obtain rfl : d = '(' := beq_iff_eq.mp hd
  decide

lemma idNumber_eq_ok {digits : Reader Text} {a : Char} :
    idNumber digits s = .ok ((a, ds, c), rest) ↔ ∃ s' s'', letter s = .ok (a, s') ∧
      digits s' = .ok (ds, s'') ∧ checkDigit s'' = .ok (c, rest) := by
  simp only [idNumber, bind_eq_ok, pure_eq_ok, Prod.mk.injEq]
  constructor
  · rintro ⟨_, s', ha, _, s'', hds, _, _, hc, ⟨rfl, rfl, rfl⟩, rfl⟩
    exact ⟨s', s'', ha, hds, hc⟩
  · rintro ⟨s', s'', ha, hds, hc⟩
    exact ⟨a, s', ha, ds, s'', hds, c, rest, hc, ⟨rfl, rfl, rfl⟩, rfl⟩

/-- A number of digits that is fixed beforehand selects the identity numbers with as many digits. -/
lemma idNumber_count_iff {n : Nat} {a : Char} :
    idNumber (digit.count n) s = .ok ((a, ds, c), rest) ↔
      idNumber (takeWhile isDigit) s = .ok ((a, ds, c), rest) ∧ ds.length = n := by
  -- what is read behind the digits decides that there are no more of them
  have digits {s' s'' : Text} (hc : checkDigit s'' = .ok (c, rest)) :
      digit.count n s' = .ok (ds, s'') ↔
        takeWhile isDigit s' = .ok (ds, s'') ∧ ds.length = n :=
    count_take_iff_takeWhile (not_isDigit_of_checkDigit hc)
  rw [idNumber_eq_ok, idNumber_eq_ok]
  constructor
  · rintro ⟨s', s'', ha, hds, hc⟩
    obtain ⟨hds, hlen⟩ := (digits hc).mp hds
    exact ⟨⟨s', s'', ha, hds, hc⟩, hlen⟩
  · rintro ⟨⟨s', s'', ha, hds, hc⟩, hlen⟩
    exact ⟨s', s'', ha, (digits hc).mpr ⟨hds, hlen⟩, hc⟩

end Reader

namespace Format

/-- The identity number of the characters that are read. -/
def idNumber : Char × Text × Char → Value
  | (a, ds, c) => .idNumber (.unit a) (.text ds) (.unit c)

/-- The list of some characters of a text, joined again. -/
lemma join_list_units (ds : Text) : (Value.list (ds.map Value.unit)).join = .ok (.text ds) := by
  show Value.joinTexts (ds.map Value.unit) >>= _ = _
  rw [Value.joinTexts_map_unit]
  rfl

lemma idOfParts_units (a : Char) (ds : Text) (c : Char) :
    idOfParts (.pair (.pair (.unit a) (.list (ds.map Value.unit))) (.unit c)) =
      .ok (idNumber (a, ds, c)) := by
  show (Value.list (ds.map Value.unit)).join >>= _ = _
  rw [join_list_units]
  rfl

/-- Of eight characters the format with six digits takes the first, the six behind it, and the
last. -/
lemma strictIdOfParts_units (a : Char) {ds : Text} (c : Char) (hlen : ds.length = 6) :
    strictIdOfParts (.list (.unit a :: (ds.map Value.unit ++ [.unit c]))) =
      .ok (idNumber (a, ds, c)) := by
  have digits : (((Value.unit a :: (ds.map Value.unit ++ [.unit c])).drop 1).take 6) =
      ds.map Value.unit := List.take_left' (by rw [List.length_map, hlen])
  have check : (Value.unit a :: (ds.map Value.unit ++ [.unit c]))[7]? = some (.unit c) := by
    rw [List.getElem?_cons_succ, List.getElem?_append_right] <;> simp [hlen]
  show (Value.list (((Value.unit a :: (ds.map Value.unit ++ [.unit c])).drop 1).take 6)).join >>=
    (fun w => Value.found (Value.unit a :: (ds.map Value.unit ++ [.unit c]))[7]? >>=
      fun c' => .ok (Value.idNumber (.unit a) w c')) = _
  rw [digits, join_list_units, check]
  rfl

/-! ### The formats read identity numbers -/

section

variable (resolve : Text → Parser Value)

lemma reads_anyLetter : (anyLetter.parser resolve).Reads .letter Value.unit :=
  (Parser.reads_satisfy Value.isLetters_unit).named _ fun _ _ _ _ => rfl

lemma reads_anyNumber : (anyNumber.parser resolve).Reads .digit Value.unit :=
  (Parser.reads_satisfy Value.isDigits_unit).named _ fun _ _ _ _ => rfl

lemma reads_checkDigit : (checkDigit.parser resolve).Reads .checkDigit Value.unit := by
  have bracketed := ((Parser.reads_char '(').takeSecond (reads_anyNumber resolve)).takeFirst
    (Parser.reads_char ')')
  simp only [bind_assoc] at bracketed
  exact bracketed.named _ fun _ _ _ _ => rfl

lemma reads_idExpr :
    (idExpr.parser resolve).Reads (.idNumber (.takeWhile Reader.isDigit)) idNumber := by
  have digits := ((reads_anyNumber resolve).manyM (Int.le_refl 0)).map Value.list
  have front := ((reads_anyLetter resolve).andThen digits).map fun vw => Value.pair vw.1 vw.2
  have parts := (front.andThen (reads_checkDigit resolve)).map fun vw => Value.pair vw.1 vw.2
  -- a pair inside of a pair, which the function takes apart
  have made := parts.fmap (k := idOfParts)
    (h := idNumber ∘ fun (adc : (Char × Text) × Char) => (adc.1.1, adc.1.2, adc.2))
    fun _ adc _ _ => idOfParts_units adc.1.1 adc.1.2 adc.2
  have read := made.of_map
  simp only [map_eq_pure_bind, bind_assoc, pure_bind] at read
  exact read.named _ fun _ _ _ _ => rfl

lemma reads_strictIdExpr :
    (strictIdExpr.parser resolve).Reads (.idNumber (Reader.digit.count 6)) idNumber := by
  have parts := ((reads_anyLetter resolve).cons ((reads_anyNumber resolve).replicate_append
    (reads_checkDigit resolve).singleton 6)).map Value.list
  have read := parts.fmap (k := strictIdOfParts) (h := idNumber) ?_
  · simp only [bind_assoc, pure_bind] at read
    exact read.named _ fun _ _ _ _ => rfl
  · rintro s ⟨a, ds, c⟩ s' hread
    -- the digits have been counted
    simp only [Reader.bind_eq_ok, Reader.pure_eq_ok] at hread
    obtain ⟨_, _, -, _, _, ⟨_, _, hds, _, _, -, rfl, -⟩, ⟨⟩, -⟩ := hread
    exact strictIdOfParts_units a c (Reader.count_take_eq_ok.mp hds).2.2

end

/-- **Six digits.**  The format with six digits accepts an identity number with a rest if and only
if the other format accepts the same with the same rest, and the number has six digits. -/
theorem strictId_eq_ok_iff (s : Text) (letter digits check rest : Value) (tracing tracing' : Bool) :
    (strictId.parser false (.text s) tracing).outcome =
        .ok (.ok (.idNumber letter digits check) rest) ↔
      (id.parser false (.text s) tracing').outcome =
        .ok (.ok (.idNumber letter digits check) rest) ∧ digits.length = .ok 6 := by
  have strict : (strictId.parser false).Reads _ idNumber := reads_strictIdExpr _
  have loose : (id.parser false).Reads _ idNumber := reads_idExpr _
  rw [strict.outcome_eq_ok, loose.outcome_eq_ok]
  constructor
  · rintro ⟨⟨a, ds, c⟩, s', hread, ⟨⟩, rfl⟩
    obtain ⟨hread, hlen⟩ := Reader.idNumber_count_iff.mp hread
    exact ⟨⟨_, s', hread, rfl, rfl⟩, congrArg Except.ok hlen⟩
  · rintro ⟨⟨⟨a, ds, c⟩, s', hread, ⟨⟩, rfl⟩, hlen⟩
    exact ⟨_, s', Reader.idNumber_count_iff.mpr ⟨hread, Except.ok.inj hlen⟩, rfl, rfl⟩

end Format

end GrammarKit
