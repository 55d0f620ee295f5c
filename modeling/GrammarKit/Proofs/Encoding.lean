/-
# The UTF-8 form of a text is read as that text

`Utf8.decode` reads a block of bytes, and a character may be cut in two by the end of its block.
What stands before the cut is then kept, and read together with the next block.  So it does not
matter where the bytes of a text are cut: `Utf8.decodeBlocks_of_flatten_eq`.

The bytes of a character are described by `Utf8.IsForm`, one case for each number of bytes.  Read
with something behind them they give the character; a part of them gives nothing yet.
-/
import Mathlib.Tactic.IntervalCases
import Mathlib.Tactic.Lemma
import Mathlib.Tactic.SplitIfs
import GrammarKit.Text.Utf8

namespace GrammarKit.Text.Utf8

/-- The UTF-8 form of a text. -/
def encode (t : Text) : List UInt8 :=
  t.flatMap String.utf8EncodeChar

lemma encode_cons (c : Char) (t : Text) : encode (c :: t) = String.utf8EncodeChar c ++ encode t :=
  List.flatMap_cons

/-! ### The bytes of a character -/

/-- Whether bytes are the form of a code point. -/
inductive IsForm (v : Nat) : List UInt8 → Prop
  | one {a : UInt8} (hv : v < 0x80) (ha : a.toNat = v) : IsForm v [a]
  | two {a b : UInt8} (hlow : 0x80 ≤ v) (hv : v < 0x800) (ha : a.toNat = 0xC0 + v / 0x40)
      (hb : b.toNat = 0x80 + v % 0x40) : IsForm v [a, b]
  | three {a b c : UInt8} (hlow : 0x800 ≤ v) (hv : v < 0x10000)
      (hsurrogate : v < 0xD800 ∨ 0xDFFF < v) (ha : a.toNat = 0xE0 + v / 0x1000)
      (hb : b.toNat = 0x80 + v / 0x40 % 0x40) (hc : c.toNat = 0x80 + v % 0x40) : IsForm v [a, b, c]
  | four {a b c d : UInt8} (hlow : 0x10000 ≤ v) (hv : v < 0x110000)
      (ha : a.toNat = 0xF0 + v / 0x40000) (hb : b.toNat = 0x80 + v / 0x1000 % 0x40)
      (hc : c.toNat = 0x80 + v / 0x40 % 0x40) (hd : d.toNat = 0x80 + v % 0x40) :
      IsForm v [a, b, c, d]

lemma isForm_utf8EncodeChar (c : Char) : IsForm c.toNat (String.utf8EncodeChar c) := by
  have valid : c.toNat < 0xD800 ∨ 0xDFFF < c.toNat ∧ c.toNat < 0x110000 := c.valid
  have small {n : Nat} (h : n < 0x100) : (UInt8.ofNat n).toNat = n := UInt8.toNat_ofNat_of_lt' h
  rw [String.utf8EncodeChar]
  simp only [show c.val.toNat = c.toNat from rfl]
  split_ifs with h1 h2 h3
  · exact .one (by omega) (small (by omega))
  · refine .two (by omega) (by omega) ?_ ?_ <;> rw [small (by omega)] <;> omega
  · refine .three (by omega) (by omega) (by omega) ?_ ?_ ?_ <;> rw [small (by omega)] <;> omega
  · refine .four (by omega) (by omega) ?_ ?_ ?_ ?_ <;> rw [small (by omega)] <;> omega

lemma continues_iff {b : UInt8} : continues b = true ↔ 0x80 ≤ b.toNat ∧ b.toNat ≤ 0xBF := by
  simp [continues]

lemma follows_iff {a b : UInt8} : follows a b = true ↔
    (0x80 ≤ b.toNat ∧ b.toNat ≤ 0xBF) ∧ (a.toNat = 0xE0 → 0xA0 ≤ b.toNat) ∧
      (a.toNat = 0xED → b.toNat ≤ 0x9F) ∧ (a.toNat = 0xF0 → 0x90 ≤ b.toNat) ∧
      (a.toNat = 0xF4 → b.toNat ≤ 0x8F) := by
  simp only [follows, Bool.and_eq_true, continues_iff, Bool.or_eq_true, bne_iff_ne, ne_eq,
    decide_eq_true_eq, ← UInt8.toNat_inj, and_assoc, ← Decidable.imp_iff_not_or]
  rfl

/-- The bytes of a character give the character, whatever stands behind them. -/
lemma decode_append {c : Char} {bs : List UInt8} (h : IsForm c.toNat bs) (rest : List UInt8) :
    decode (bs ++ rest) = (decode rest).push c := by
  cases h with
  | one hv ha =>
    rename_i a
    have hchar : Char.ofNat a.toNat = c := by rw [ha, Char.ofNat_toNat]
    rw [List.singleton_append, decode.eq_def]
    simp only [if_pos (show a.toNat < 0x80 by omega), hchar]
  | two hlow hv ha hb =>
    rename_i a b
    have code : a.toNat % 0x20 * 0x40 + payload b = c.toNat := by
      rw [payload]
      omega
    have hcontinues : continues b = true := continues_iff.mpr (by omega)
    show decode (a :: b :: rest) = _
    rw [decode, if_neg (by omega), if_pos (by omega)]
    simp only [hcontinues, if_true, code, Char.ofNat_toNat]
  | three hlow hv hsurrogate ha hb hc =>
    rename_i a b c'
    have code : a.toNat % 0x10 * 0x1000 + payload b * 0x40 + payload c' = c.toNat := by
      rw [payload, payload]
      omega
    have hfollows : follows a b = true := follows_iff.mpr (by omega)
    have hcontinues : continues c' = true := continues_iff.mpr (by omega)
    show decode (a :: b :: c' :: rest) = _
    rw [decode, if_neg (by omega), if_neg (by omega), if_pos (by omega)]
    simp only [hfollows, hcontinues, Bool.and_true, if_true, code, Char.ofNat_toNat]
  | four hlow hv ha hb hc hd =>
    rename_i a b c' d
    have code : a.toNat % 8 * 0x40000 + payload b * 0x1000 + payload c' * 0x40 + payload d =
        c.toNat := by
      rw [payload, payload, payload]
      omega
    have hfollows : follows a b = true := follows_iff.mpr (by omega)
    have third : continues c' = true := continues_iff.mpr (by omega)
    have fourth : continues d = true := continues_iff.mpr (by omega)
    show decode (a :: b :: c' :: d :: rest) = _
    rw [decode, if_neg (by omega), if_neg (by omega), if_neg (by omega), if_pos (by omega)]
    simp only [hfollows, third, fourth, Bool.and_true, if_true, code, Char.ofNat_toNat]

lemma decode_first {a : UInt8} (ha : 0xC2 ≤ a.toNat) (ha' : a.toNat ≤ 0xF4) :
    decode [a] = .truncated [] [a] := by
  rw [decode.eq_def]
  dsimp only
  split_ifs <;> first | rfl | omega

lemma decode_first_two {a b : UInt8} (ha : 0xE0 ≤ a.toNat) (ha' : a.toNat ≤ 0xF4)
    (hb : follows a b = true) : decode [a, b] = .truncated [] [a, b] := by
  have hbegins : begins a b = true := by rw [begins, hb, Bool.true_or]
  rw [decode.eq_def]
  simp only [hb, hbegins, if_true]
  split_ifs <;> first | rfl | omega

lemma decode_first_three {a b c : UInt8} (ha : 0xF0 ≤ a.toNat) (ha' : a.toNat ≤ 0xF4)
    (hb : follows a b = true) (hc : continues c = true) :
    decode [a, b, c] = .truncated [] [a, b, c] := by
  rw [decode.eq_def]
  simp only [hb, hc, Bool.and_true, if_true]
  split_ifs <;> first | rfl | omega

/-- A part of the bytes of a character gives nothing yet. -/
lemma decode_take {v : Nat} {bs : List UInt8} (h : IsForm v bs) {k : Nat} (hk : 0 < k)
    (hk' : k < bs.length) : decode (bs.take k) = .truncated [] (bs.take k) := by
  cases h with
  | one hv ha =>
    rw [List.length_singleton] at hk'
    omega
  | two hlow hv ha hb =>
    change k < 2 at hk'
    interval_cases k
    exact decode_first (by omega) (by omega)
  | three hlow hv hsurrogate ha hb hc =>
    change k < 3 at hk'
    interval_cases k
    · exact decode_first (by omega) (by omega)
    · exact decode_first_two (by omega) (by omega) (follows_iff.mpr (by omega))
  | four hlow hv ha hb hc hd =>
    change k < 4 at hk'
    interval_cases k
    · exact decode_first (by omega) (by omega)
    · exact decode_first_two (by omega) (by omega) (follows_iff.mpr (by omega))
    · exact decode_first_three (by omega) (by omega) (follows_iff.mpr (by omega))
        (continues_iff.mpr (by omega))

/-! ### Bytes that are cut somewhere -/

/-- Whether bytes are less than the first character of a text.  There are none if the text is
empty. -/
def IsLessThanFirst (bs : List UInt8) : Text → Prop
  | [] => bs = []
  | c :: _ => bs.length < (String.utf8EncodeChar c).length

lemma isLessThanFirst_nil (t : Text) : IsLessThanFirst [] t := by
  cases t with
  | nil => rfl
  | cons c t => exact List.length_pos_iff.mpr String.utf8EncodeChar_ne_nil

/-- What is less than the first character and still all there is, is nothing. -/
lemma IsLessThanFirst.eq_nil {bs : List UInt8} {t : Text} (h : IsLessThanFirst bs t)
    (heq : bs = encode t) : t = [] := by
  cases t with
  | nil => rfl
  | cons c t =>
    have len := congrArg List.length heq
    have less : bs.length < (String.utf8EncodeChar c).length := h
    rw [encode_cons, List.length_append] at len
    omega

/-- What the bytes in front of a cut give: the characters that are complete, and what there is of
the next one. -/
lemma decode_of_append_eq {t : Text} {p q : List UInt8} (h : p ++ q = encode t) :
    ∃ t₁ t₂ u, t = t₁ ++ t₂ ∧ u ++ q = encode t₂ ∧ IsLessThanFirst u t₂ ∧
      decode p = if u.isEmpty then .whole t₁ else .truncated t₁ u := by
  induction t generalizing p with
  | nil =>
    obtain ⟨rfl, rfl⟩ := List.append_eq_nil_iff.mp h
    exact ⟨[], [], [], rfl, rfl, rfl, rfl⟩
  | cons c t ih =>
    rw [encode_cons] at h
    by_cases hlen : p.length < (String.utf8EncodeChar c).length
    · refine ⟨[], c :: t, p, rfl, h, hlen, ?_⟩
      cases p with
      | nil => rfl
      | cons a p =>
        have part : a :: p = (String.utf8EncodeChar c).take (a :: p).length := by
          have front := congrArg (List.take (a :: p).length) h
          rwa [List.take_left, List.take_append_of_le_length (Nat.le_of_lt hlen)] at front
        have hpos : 0 < (a :: p).length := Nat.succ_pos _
        have hdecode := decode_take (isForm_utf8EncodeChar c) hpos hlen
        rwa [← part] at hdecode
    · have hle : (String.utf8EncodeChar c).length ≤ p.length := by omega
      obtain ⟨p', rfl⟩ : ∃ p', p = String.utf8EncodeChar c ++ p' := by
        have front := congrArg (List.take (String.utf8EncodeChar c).length) h
        rw [List.take_left, List.take_append_of_le_length hle] at front
        exact ⟨p.drop _, by rw [← front, List.take_append_drop]⟩
      rw [List.append_assoc] at h
      obtain ⟨t₁, t₂, u, rfl, hu, hless, hdecode⟩ := ih (List.append_cancel_left h)
      refine ⟨c :: t₁, t₂, u, rfl, hu, hless, ?_⟩
      rw [decode_append (isForm_utf8EncodeChar c), hdecode]
      cases u <;> rfl

lemma decodeBlocks_of_append_eq {t : Text} {u : List UInt8} {blocks : List (List UInt8)}
    (hu : IsLessThanFirst u t) (h : u ++ blocks.flatten = encode t) :
    decodeBlocks u blocks = .whole t := by
  induction blocks generalizing t u with
  | nil =>
    rw [List.flatten_nil, List.append_nil] at h
    obtain rfl := hu.eq_nil h
    obtain rfl : u = [] := hu
    rfl
  | cons block blocks ih =>
    rw [List.flatten_cons, ← List.append_assoc] at h
    obtain ⟨t₁, t₂, u', rfl, hrest, hless, hdecode⟩ := decode_of_append_eq h
    have later : decodeBlocks u' blocks = .whole t₂ := ih hless hrest
    rw [decodeBlocks, hdecode]
    cases u' with
    | nil => exact congrArg (Decoded.after t₁) later
    | cons b u' => exact congrArg (Decoded.after t₁) later

/-- **The form of a text is read as that text**, in whatever blocks its bytes come. -/
theorem decodeBlocks_of_flatten_eq {t : Text} {blocks : List (List UInt8)}
    (h : blocks.flatten = encode t) : decodeBlocks [] blocks = .whole t :=
  decodeBlocks_of_append_eq (isLessThanFirst_nil t) h

/-- A character of three bytes, cut behind the first. -/
example : decodeBlocks [] [[0x41, 0xE2], [0x82, 0xAC]] = .whole ['A', Char.ofNat 0x20AC] := by
  decide

end GrammarKit.Text.Utf8
