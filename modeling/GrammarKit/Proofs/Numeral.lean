/-
# Reading a number

A number of one or more digits is read as far as its digits go: the repetition takes as many of them
as there are, and asks for one.  They are then joined and read as a numeral, which denotes their
positional value.  A numeral with too many digits is refused, and as nothing but digits is ever
joined, it is refused for no other reason: `Format.outcome_of_digits`.
-/
import Mathlib.Data.Nat.Digits.Defs
import GrammarKit.Proofs.Date

namespace GrammarKit

/-- Digits with the highest in front have the value of the same digits with the lowest in front. -/
lemma Text.ofDigitChars_eq_ofDigits (ds : Text) : Nat.ofDigitChars 10 ds 0 =
    Nat.ofDigits 10 (ds.map fun d => d.toNat - '0'.toNat).reverse := by
  induction ds with
  | nil => rfl
  | cons d ds ih =>
    rw [List.map_cons, Nat.ofDigits_reverse_cons, ← ih, List.length_map, Nat.ofDigitChars_cons,
      Nat.ofDigitChars_eq_ofDigitChars_zero, Nat.mul_zero, Nat.zero_add, Nat.add_comm]

namespace Reader

variable {test : Char → Bool} {complaint : Char → Text}

/-- Reads the characters that pass a test, up to the first that does not, but at least one. -/
def takeSome (test : Char → Bool) (complaint : Char → Text) : Reader Text
  | [] => .error "Empty input".toList
  | c :: s =>
    if test c then .ok (c :: s.takeWhile test, s.dropWhile test) else .error (complaint c)

lemma takeSome_of_takeWhile {s cs rest : Text} (h : takeWhile test s = .ok (cs, rest)) :
    takeSome test complaint s = if cs = [] then
        .error (match s.head? with | none => "Empty input".toList | some c => complaint c)
      else .ok (cs, rest) := by
  cases h
  cases s with
  | nil => rfl
  | cons c s =>
    rw [takeSome, List.takeWhile_cons, List.dropWhile_cons]
    cases test c with
    | true => rfl
    | false => rfl

end Reader

namespace Parser

/-- A repetition that asks for a value reads the characters that its parser reads, at least one. -/
lemma Reads.manyM_one {α : Type} {p : Parser α} {b : Char → Bool} {say : Char → Text}
    {h : Char → α} (hp : p.Reads (.take b say) h) :
    (Parser.manyM 1 p).Reads (.takeSome b say) (List.map h) := by
  intro s
  rw [manyM_eq]
  refine (hp s).bind ?_
  cases s with
  | nil => exact Effect.gives_pure _
  | cons c s =>
    rw [Reader.take, Reader.takeSome]
    cases hb : b c with
    | true =>
      -- one value is there, and the repetition that remains asks for none
      have later := (hp.manyM (Int.le_refl 0) s).map (Result.prepend (h c))
      simp only [if_true, Reader.result, Value.isShorter?_cons]
      exact later
    | false => exact Effect.gives_pure _

end Parser

namespace Format

/-- **Reading a number.**  A text goes on with what stands behind its digits, as many as it has in
front.  Without any, the message is that the text is empty, or that its first character does not
pass the test.  Up to 4300 digits are read as their positional value, the last digit the lowest, and
what stands behind them is left; more than that are refused for their number. -/
theorem outcome_of_digits (resolve : Text → Parser Value) (s : Text) (tracing : Bool) :
    ∃ digits rest, s = digits ++ rest ∧ (∀ d ∈ digits, d ∈ "0123456789".toList) ∧
      (∀ c ∈ rest.head?, c ∉ "0123456789".toList) ∧
      ((Expr.fmap Value.joinedInteger anyNumber.many1).parser resolve (.text s) tracing).outcome =
        if digits = [] then
          .ok (.err (.text (match s.head? with
            | none => "Empty input".toList
            | some c => c :: " cannot satisfy the condition".toList)))
        else if digits.length ≤ 4300 then
          .ok (.ok (.int (Nat.ofDigits 10 (digits.map fun d => d.toNat - '0'.toNat).reverse : Nat))
            (.text rest))
        else .error (.oversizedNumeral digits.length) := by
  obtain ⟨digits, rest, htake⟩ :
      ∃ digits rest, Reader.takeWhile Reader.isDigit s = .ok (digits, rest) := ⟨_, _, rfl⟩
  obtain ⟨hs, hdigits, hrest⟩ := Reader.takeWhile_eq_ok.mp htake
  refine ⟨digits, rest, hs, ?_, ?_, ?_⟩
  · exact fun d hd => List.contains_iff_mem.mp (hdigits d hd)
  · intro c hc hmem
    exact absurd (List.contains_iff_mem.mpr hmem) (Bool.eq_false_iff.mp (hrest c hc))
  · have read : (anyNumber.many1.parser resolve (.text s) tracing).outcome =
        .ok (Reader.result (Value.list ∘ List.map Value.unit)
          (Reader.takeSome Reader.isDigit Parser.unsatisfiedText s)) :=
      ((reads_anyNumber resolve).manyM_one.map Value.list s).outcome tracing
    have run : ((Expr.fmap Value.joinedInteger anyNumber.many1).parser resolve (.text s)
        tracing).outcome = _ := Parser.outcome_fmap Value.joinedInteger _ (.text s) tracing
    rw [run, read, Reader.takeSome_of_takeWhile htake]
    by_cases hnone : digits = []
    · rw [if_pos hnone, if_pos hnone]
      cases s.head? <;> rfl
    · rw [if_neg hnone, if_neg hnone]
      show Value.joinedInteger (.list (digits.map Value.unit)) >>= _ = _
      rw [Value.joinedInteger_units_eq hnone hdigits, Text.ofDigitChars_eq_ofDigits]
      by_cases hlen : digits.length ≤ 4300
      · have enough : ¬ Text.maxDigits < digits.length := Nat.not_lt.mpr hlen
        rw [if_neg enough, if_pos hlen]
        rfl
      · have tooMany : Text.maxDigits < digits.length := Nat.lt_of_not_le hlen
        rw [if_pos tooMany, if_neg hlen]
        rfl

end Format

end GrammarKit
