/-
# Dates

A date is read by ten choices between single characters, eight of them between the digits and two
between the two signs.  A choice between characters reads one of them; when it fails, the message is
about the last one, whatever the input has in its place: `Parser.reads_oneOf`.

The digits of a part are joined to a text and read as a numeral.  For digits that is never refused,
and the number is the positional value of the digits: `Text.readInteger_of_digits`.  It has no more
digits than were read, so that it can be written.  `Format.reads_dateExpr` puts the parts together.
-/
import Mathlib.Algebra.Group.Nat.Defs
import GrammarKit.Proofs.IdNumber

namespace GrammarKit

namespace Text

variable {ds : Text}

/-! ### Numerals of digits -/

/-- What holds of the ten digits holds of every digit. -/
lemma of_isDigit {P : Char → Prop} [DecidablePred P]
    (all : "0123456789".toList.all (fun d => decide (P d)) = true) {d : Char}
    (h : Reader.isDigit d = true) : P d :=
  of_decide_eq_true (List.all_eq_true.mp all d (List.contains_iff_mem.mp h))

lemma digitValue?_of_isDigit {d : Char} (h : Reader.isDigit d = true) :
    digitValue? d = some (d.toNat - '0'.toNat) :=
  of_isDigit (P := fun d => digitValue? d = some (d.toNat - '0'.toNat)) (by decide) h

lemma toNat_of_isDigit {d : Char} (h : Reader.isDigit d = true) : d.toNat - '0'.toNat < 10 :=
  of_isDigit (P := fun d => d.toNat - '0'.toNat < 10) (by decide) h

/-- A digit is neither blank nor a sign nor an underscore. -/
lemma ne_of_isDigit {d : Char} (h : Reader.isDigit d = true) :
    isBlank d = false ∧ d ≠ '-' ∧ d ≠ '+' ∧ d ≠ '_' :=
  of_isDigit (P := fun d => isBlank d = false ∧ d ≠ '-' ∧ d ≠ '+' ∧ d ≠ '_') (by decide) h

lemma spacedByDigits_of_digits (hds : ∀ d ∈ ds, Reader.isDigit d = true) :
    spacedByDigits ds = true := by
  induction ds with
  | nil => rfl
  | cons d ds ih =>
    obtain ⟨hd, hds⟩ := List.forall_mem_cons.mp hds
    have hne : (d != '_') = true := bne_iff_ne.mpr (ne_of_isDigit hd).2.2.2
    rw [spacedByDigits, hne, Bool.true_or, Bool.true_and, ih hds]

lemma filterMap_digitValue? (hds : ∀ d ∈ ds, Reader.isDigit d = true) :
    ds.filterMap digitValue? = ds.map fun d => d.toNat - '0'.toNat := by
  induction ds with
  | nil => rfl
  | cons d ds ih =>
    obtain ⟨hd, hds⟩ := List.forall_mem_cons.mp hds
    rw [List.filterMap_cons_some (digitValue?_of_isDigit hd), ih hds, List.map_cons]

/-- A numeral of digits is read as their positional value, unless there are too many of them. -/
lemma readInteger_of_digits (hne : ds ≠ []) (hds : ∀ d ∈ ds, Reader.isDigit d = true) :
    readInteger ds = if maxDigits < ds.length then .error (.oversized ds.length)
      else .ok (Nat.ofDigitChars 10 ds 0 : Nat) := by
  obtain ⟨d, ds', rfl⟩ := List.exists_cons_of_ne_nil hne
  have hd : Reader.isDigit d = true := hds d List.mem_cons_self
  obtain ⟨blank, minus, plus, -⟩ := ne_of_isDigit hd
  have strip : (d :: ds').dropWhile isBlank = d :: ds' := by
    rw [List.dropWhile_cons, blank]
    rfl
  have sign : splitSign (d :: ds') = (1, d :: ds') := by
    rw [splitSign]
    · exact fun _ h => minus (List.cons.inj h).1
    · exact fun _ h => plus (List.cons.inj h).1
  have isNumeral : ∀ c ∈ d :: ds', (isDecimalDigit c || c == '_') = true := by
    intro c hc
    rw [isDecimalDigit, digitValue?_of_isDigit (hds c hc)]
    rfl
  have run : (d :: ds').takeWhile (fun c => isDecimalDigit c || c == '_') = d :: ds' :=
    List.takeWhile_eq_self_iff.mpr isNumeral
  have behind : (d :: ds').dropWhile (fun c => isDecimalDigit c || c == '_') = [] :=
    List.dropWhile_eq_nil_iff.mpr isNumeral
  have starts : startsWithDigit (d :: ds') = true := by
    rw [startsWithDigit, isDecimalDigit, digitValue?_of_isDigit hd]
    rfl
  have value : ofDigits ((d :: ds').map fun d => d.toNat - '0'.toNat) =
      Nat.ofDigitChars 10 (d :: ds') 0 := by
    rw [ofDigits, List.foldl_map, Nat.ofDigitChars]
  simp only [readInteger, strip, sign, run, behind, starts, spacedByDigits_of_digits hds,
    filterMap_digitValue? hds, List.length_map, value]
  simp

lemma ofDigitChars_lt (hds : ∀ d ∈ ds, Reader.isDigit d = true) :
    Nat.ofDigitChars 10 ds 0 < 10 ^ ds.length := by
  induction ds with
  | nil => decide
  | cons d ds ih =>
    obtain ⟨hd, hds⟩ := List.forall_mem_cons.mp hds
    have head : d.toNat - '0'.toNat < 10 := toNat_of_isDigit hd
    have tail : Nat.ofDigitChars 10 ds 0 < 10 ^ ds.length := ih hds
    rw [Nat.ofDigitChars_cons, Nat.ofDigitChars_eq_ofDigitChars_zero, List.length_cons,
      Nat.pow_succ, Nat.mul_zero, Nat.zero_add]
    calc 10 ^ ds.length * (d.toNat - '0'.toNat) + Nat.ofDigitChars 10 ds 0
        < 10 ^ ds.length * (d.toNat - '0'.toNat) + 10 ^ ds.length := by omega
      _ = 10 ^ ds.length * (d.toNat - '0'.toNat + 1) := (Nat.mul_succ _ _).symm
      _ ≤ 10 ^ ds.length * 10 := Nat.mul_le_mul_left _ head

lemma ofDigitChars_lt_pow {n : Nat} (hds : ∀ d ∈ ds, Reader.isDigit d = true)
    (hlen : ds.length ≤ n) : Nat.ofDigitChars 10 ds 0 < Nat.pow 10 n :=
  Nat.lt_of_lt_of_le (ofDigitChars_lt hds) (Nat.pow_le_pow_right (by decide) hlen)

/-- A number has a numeral if it was read from one. -/
lemma hasNumeral_of_digits (hds : ∀ d ∈ ds, Reader.isDigit d = true)
    (hlen : ds.length ≤ maxDigits) : hasNumeral (Nat.ofDigitChars 10 ds 0 : Nat) = true := by
  have small := ofDigitChars_lt_pow hds hlen
  unfold hasNumeral numeralBound
  exact decide_eq_true small

end Text

namespace Value

/-- The units of digits, joined and read as a number. -/
lemma joinedInteger_units_eq {ds : Text} (hne : ds ≠ [])
    (hds : ∀ d ∈ ds, Reader.isDigit d = true) : joinedInteger (.list (ds.map unit)) =
      if Text.maxDigits < ds.length then .error (.oversizedNumeral ds.length)
      else .ok (.int (Nat.ofDigitChars 10 ds 0 : Nat)) := by
  rw [joinedInteger, Format.join_list_units]
  show (readNumeral ds _).map Value.int = _
  rw [readNumeral, Text.readInteger_of_digits hne hds]
  by_cases hlen : Text.maxDigits < ds.length
  · rw [if_pos hlen, if_pos hlen]
    rfl
  · rw [if_neg hlen, if_neg hlen]
    rfl

lemma joinedInteger_units {ds : Text} (hne : ds ≠ []) (hds : ∀ d ∈ ds, Reader.isDigit d = true)
    (hlen : ds.length ≤ Text.maxDigits) :
    joinedInteger (.list (ds.map unit)) = .ok (.int (Nat.ofDigitChars 10 ds 0 : Nat)) := by
  have enough : ¬ Text.maxDigits < ds.length := Nat.not_lt.mpr hlen
  rw [joinedInteger_units_eq hne hds, if_neg enough]

end Value

namespace Parser

variable {α β γ : Type}

/-! ### Choices between characters -/

section

variable {p q : Parser α} {ps : List (Parser α)} {b b' : Char → Bool} {say say' : Char → Text}
  {f : Char → α}

/-- A choice between characters reads the characters of all its alternatives, and complains like the
last of them. -/
lemma Reads.alt_cons (hp : p.Reads (.take b say) f)
    (hps : (alt (q :: ps)).Reads (.take b' say') f) :
    (alt (p :: q :: ps)).Reads (.take (fun c => b c || b' c) say') f := by
  intro s
  refine (hp s).bind ?_
  cases s with
  | nil => exact hps []
  | cons c s =>
    have later := hps (c :: s)
    rw [Reader.take] at later ⊢
    rw [Reader.take]
    cases hb : b c with
    | true => exact Effect.gives_pure _
    | false => exact later

end

lemma reads_alt_chars (cs : Text) (last : Char) :
    (alt ((cs ++ [last]).map fun c => char (.unit c))).Reads
      (.take (cs ++ [last]).contains (unexpectedText last)) Value.unit := by
  induction cs with
  | nil =>
    have single : ([last] : Text).contains = (· == last) := by
      funext c
      rw [List.contains_cons, List.contains_nil, Bool.or_false]
    rw [List.nil_append, single]
    exact reads_char last
  | cons c cs ih =>
    have more : (c :: (cs ++ [last])).contains =
        fun d => d == c || (cs ++ [last]).contains d := by
      funext d
      rw [List.contains_cons]
    have hne : cs ++ [last] ≠ [] := List.append_ne_nil_of_right_ne_nil cs (List.cons_ne_nil _ _)
    obtain ⟨d, ds, hds⟩ := List.exists_cons_of_ne_nil hne
    rw [hds] at ih
    rw [List.cons_append, more, hds]
    exact (reads_char c).alt_cons ih

/-- A choice between the characters of a text reads one of them.  The message is about the last one,
whatever the input has in its place. -/
lemma reads_oneOf (resolve : Text → Parser Value) (cs : Text) (last : Char) :
    ((Expr.oneOf (cs ++ [last])).parser resolve).Reads
      (.take (cs ++ [last]).contains (unexpectedText last)) Value.unit := by
  have chars (ds : Text) : Expr.parsers resolve (ds.map fun c => Expr.word [c]) =
      ds.map fun c => char (.unit c) := by
    induction ds with
    | nil => rfl
    | cons d ds ih => exact congrArg (List.cons _) ih
  show (alt (Expr.parsers resolve _)).Reads _ _
  rw [chars]
  exact reads_alt_chars cs last

lemma reads_sequence_nil : (sequence ([] : List (Parser α))).Reads (pure ()) fun _ => [] :=
  fun _ => Effect.gives_pure _

end Parser

namespace Reader

/-! ### Dates -/

/-- Reads a digit of a date. -/
def dateDigit : Reader Char :=
  take isDigit (Parser.unexpectedText '9')

/-- Reads a number of `n` digits. -/
def number (n : Nat) : Reader Nat := do
  let ds ← dateDigit.count n
  return Nat.ofDigitChars 10 ds 0

/-- Reads the sign between the parts of a date. -/
def separator : Reader Char :=
  take ['-', '/'].contains (Parser.unexpectedText '/')

/-- Reads the year, the month and the day of a date. -/
def date : Reader (Nat × Nat × Nat) := do
  let y ← number 4
  let _ ← separator
  let m ← number 2
  let _ ← separator
  let d ← number 2
  return (y, m, d)

/-- A number of a few digits can be written. -/
lemma hasNumeral_of_number {n v : Nat} {s rest : Text} (hn : n ≤ Text.maxDigits)
    (h : number n s = .ok (v, rest)) : Text.hasNumeral v = true := by
  obtain ⟨ds, s', hds, hv⟩ := bind_eq_ok.mp h
  obtain ⟨rfl, -⟩ := pure_eq_ok.mp hv
  obtain ⟨-, hdigits, hlen⟩ := count_take_eq_ok.mp hds
  exact Text.hasNumeral_of_digits hdigits (hlen ▸ hn)

/-- The numbers of a date that is read have numerals. -/
lemma hasNumeral_of_date {s rest : Text} {y m d : Nat} (h : date s = .ok ((y, m, d), rest)) :
    Text.hasNumeral y = true ∧ Text.hasNumeral m = true ∧ Text.hasNumeral d = true := by
  simp only [date, bind_eq_ok, pure_eq_ok, Prod.mk.injEq] at h
  obtain ⟨_, _, hy, _, _, -, _, _, hm, _, _, -, _, _, hd, ⟨rfl, rfl, rfl⟩, -⟩ := h
  exact ⟨hasNumeral_of_number (by decide) hy, hasNumeral_of_number (by decide) hm,
    hasNumeral_of_number (by decide) hd⟩

end Reader

namespace Format

/-- The dictionary of the numbers of a date. -/
def dateValue : Nat × Nat × Nat → Value
  | (y, m, d) => .dict [(.text "year".toList, .int y), (.text "month".toList, .int m),
      (.text "day".toList, .int d)]

variable (resolve : Text → Parser Value)

lemma reads_digit : (digit.parser resolve).Reads .dateDigit Value.unit :=
  (Parser.reads_oneOf resolve "012345678".toList '9').named _ fun _ _ _ _ => rfl

lemma reads_separator : (separator.parser resolve).Reads .separator Value.unit :=
  (Parser.reads_oneOf resolve ['-'] '/').named _ fun _ _ _ _ => rfl

lemma reads_digits (n : Nat) :
    (Parser.sequence (Expr.parsers resolve (List.replicate n digit))).Reads
      (Reader.dateDigit.count n) (List.map Value.unit) := by
  induction n with
  | zero => exact Parser.reads_sequence_nil.of_map (h := fun _ => []) (f := List.map Value.unit)
  | succ n ih =>
    have more := ((reads_digit resolve).cons ih).of_map (h := fun cd : Char × Text => cd.1 :: cd.2)
      (f := List.map Value.unit)
    simp only [map_eq_pure_bind, bind_assoc, pure_bind] at more
    exact more

/-- A number of some digits, at least one and not too many. -/
lemma reads_number {n : Nat} (hpos : 0 < n) (hn : n ≤ Text.maxDigits) :
    ((number n).parser resolve).Reads (.number n) fun v => .int v := by
  have digits := (reads_digits resolve n).map Value.list
  have value := digits.fmap (k := Value.joinedInteger)
    (h := (fun v : Nat => Value.int v) ∘ fun ds => Nat.ofDigitChars 10 ds 0) ?_
  · have read := value.of_map
    simp only [map_eq_pure_bind] at read
    exact read
  · intro s ds s' hread
    obtain ⟨-, hdigits, hlen⟩ := Reader.count_take_eq_ok.mp hread
    have hne : ds ≠ [] := List.ne_nil_of_length_pos (hlen ▸ hpos)
    exact Value.joinedInteger_units hne hdigits (hlen ▸ hn)

/-- A number with a name. -/
lemma reads_named_number {n : Nat} (hpos : 0 < n) (hn : n ≤ Text.maxDigits) (name : Text) :
    (((number n).named name).parser resolve).Reads (.number n) fun v => .int v :=
  (reads_number resolve hpos hn).named name fun _ _ _ h => Reader.hasNumeral_of_number hn h

lemma isWritable_dateValue {s rest : Text} {ymd : Nat × Nat × Nat}
    (h : Reader.date s = .ok (ymd, rest)) : (dateValue ymd).isWritable = true := by
  obtain ⟨hy, hm, hd⟩ := Reader.hasNumeral_of_date h
  simp [dateValue, Value.isWritable, Value.entriesAreWritable, hy, hm, hd]

lemma reads_dateExpr : (dateExpr.parser resolve).Reads .date dateValue := by
  have y := (reads_named_number resolve (n := 4) (by decide) (by decide) "year".toList).takeFirst
    (reads_separator resolve)
  have m := (reads_named_number resolve (n := 2) (by decide) (by decide) "month".toList).takeFirst
    (reads_separator resolve)
  have d := reads_named_number resolve (n := 2) (by decide) (by decide) "day".toList
  have parts := (y.cons (m.cons d.singleton)).map Value.list
  have value := parts.fmap (k := dateOfParts) (h := dateValue) fun _ _ _ _ => rfl
  simp only [bind_assoc, pure_bind] at value
  exact value.named _ fun _ _ _ => isWritable_dateValue

end Format

end GrammarKit
