/-
# The text of a JSON document determines it

Two documents with the same text are the same document, and what is more, the text of a document can
be told from whatever is written behind it: `Json.write_append_inj`.  A number is the only document
whose end does not show by itself, so that no digit may follow it; and none does, since what stands
behind an item is a comma, a bracket, a brace or a tab.

The characters of a string are read back one by one by `Json.unescape`, where a character beyond the
basic plane stands as two surrogates.  Lists of items and of entries are then taken apart from the
front, and the documents by induction on their structure.
-/
import Mathlib.Algebra.Group.Nat.Defs
import GrammarKit.Json.Basic
import GrammarKit.Proofs.Reading

namespace GrammarKit

namespace Text

/-- Whether a text can stand behind a numeral, as it does not begin with a digit. -/
def Ends (t : Text) : Prop :=
  ∀ c ∈ t.head?, c.isDigit = false

lemma ends_nil : Ends [] := nofun

lemma ends_cons {c : Char} (h : c.isDigit = false) (t : Text) : Ends (c :: t) := by
  rintro _ ⟨⟩
  exact h

/-! ### Numerals -/

lemma isDigit_of_mem_ofNat {n : Nat} {c : Char} (h : c ∈ ofNat n) : c.isDigit = true :=
  Nat.isDigit_of_mem_toDigits (by decide) (by decide) h

lemma ofNat_inj {m n : Nat} (h : ofNat m = ofNat n) : m = n := by
  have read := congrArg (Nat.ofDigitChars 10 · 0) h
  simpa only [ofNat, Nat.ofDigitChars_ten_toDigits] using read

/-- A numeral is all the digits there are in front, if no digit follows. -/
lemma ofNat_append_inj {m n : Nat} {t u : Text} (ht : Ends t) (hu : Ends u)
    (h : ofNat m ++ t = ofNat n ++ u) : m = n ∧ t = u := by
  have first : Reader.takeWhile Char.isDigit (ofNat m ++ t) = .ok (ofNat m, t) :=
    Reader.takeWhile_eq_ok.mpr ⟨rfl, fun _ => isDigit_of_mem_ofNat, ht⟩
  have second : Reader.takeWhile Char.isDigit (ofNat n ++ u) = .ok (ofNat n, u) :=
    Reader.takeWhile_eq_ok.mpr ⟨rfl, fun _ => isDigit_of_mem_ofNat, hu⟩
  rw [h, second] at first
  obtain ⟨hdigits, hrest⟩ := Prod.mk.inj (Except.ok.inj first)
  exact ⟨ofNat_inj hdigits.symm, hrest.symm⟩

lemma ofNat_eq_cons (n : Nat) : ∃ c s, ofNat n = c :: s ∧ c.isDigit = true := by
  obtain ⟨c, s, h⟩ := List.exists_cons_of_ne_nil (Nat.toDigits_ne_nil (n := n) (b := 10))
  exact ⟨c, s, h, isDigit_of_mem_ofNat (h ▸ List.mem_cons_self)⟩

/-- A numeral without a sign does not begin like one with a sign. -/
lemma ofNat_append_ne_minus (n : Nat) (t u : Text) : ofNat n ++ t ≠ '-' :: u := by
  obtain ⟨c, s, h, hc⟩ := ofNat_eq_cons n
  rw [h]
  rintro ⟨⟩
  simp at hc

lemma ofInt_append_inj {m n : Int} {t u : Text} (ht : Ends t) (hu : Ends u)
    (h : ofInt m ++ t = ofInt n ++ u) : m = n ∧ t = u := by
  cases m with
  | ofNat m =>
    cases n with
    | ofNat n => exact (ofNat_append_inj ht hu h).imp_left (congrArg Int.ofNat)
    | negSucc n => exact absurd h (ofNat_append_ne_minus _ _ _)
  | negSucc m =>
    cases n with
    | ofNat n => exact absurd h.symm (ofNat_append_ne_minus _ _ _)
    | negSucc n =>
      obtain ⟨hn, hrest⟩ := ofNat_append_inj ht hu (List.cons.inj h).2
      exact ⟨congrArg Int.negSucc (Nat.succ.inj hn), hrest⟩

/-! ### Hexadecimal numerals -/

/-- The value of a hexadecimal digit in lower case. -/
def hexValue (c : Char) : Nat :=
  if c.toNat < 0x3A then c.toNat - 0x30 else c.toNat - 0x57

/-- The number with the given hexadecimal digits. -/
def ofHexDigits (ds : Text) : Nat :=
  ds.foldl (fun n d => 16 * n + hexValue d) 0

lemma hexValue_digitChar : ∀ {d : Nat}, d < 16 → hexValue d.digitChar = d := by
  decide

lemma ofHexDigits_append_singleton (ds : Text) (d : Char) :
    ofHexDigits (ds ++ [d]) = 16 * ofHexDigits ds + hexValue d := by
  simp [ofHexDigits]

lemma ofHexDigits_toDigits (n : Nat) : ofHexDigits (Nat.toDigits 16 n) = n := by
  induction n using Nat.strongRecOn with
  | ind n ih =>
    by_cases h : n < 16
    · rw [Nat.toDigits_of_lt_base h]
      exact (Nat.zero_add _).trans (hexValue_digitChar h)
    · have hdiv : n / 16 < n := by omega
      have hmod : n % 16 < 16 := by omega
      rw [Nat.toDigits_of_base_le (by decide) (by omega), ofHexDigits_append_singleton,
        ih _ hdiv, hexValue_digitChar hmod]
      omega

/-- Zeros in front do not count. -/
lemma ofHexDigits_ofHex (width n : Nat) : ofHexDigits (ofHex width n) = n := by
  have zeros (k : Nat) : (List.replicate k '0').foldl (fun n d => 16 * n + hexValue d) 0 = 0 := by
    induction k with
    | zero => rfl
    | succ k ih => exact ih
  rw [ofHex, ofHexDigits, List.foldl_append, zeros]
  exact ofHexDigits_toDigits n

lemma length_ofHex {width n : Nat} (hwidth : 0 < width) (h : n < 16 ^ width) :
    (ofHex width n).length = width := by
  have fits : (Nat.toDigits 16 n).length ≤ width :=
    (Nat.length_toDigits_le_iff (by decide) hwidth).mpr h
  rw [ofHex, List.length_append, List.length_replicate]
  omega

/-! ### Items separated by commas -/

lemma commaSeparated_cons (x : Text) (xs : List Text) :
    commaSeparated (x :: xs) = x ++ xs.flatMap fun y => ',' :: ' ' :: y := by
  induction xs generalizing x with
  | nil => simp [commaSeparated]
  | cons y ys ih => simp [commaSeparated, ← ih]

section Items

variable {α : Type} {code : α → Text} {close : Char}

/-- What stands behind an item begins with a comma or with the closing bracket. -/
lemma ends_flatMap_comma (hdigit : close.isDigit = false) (as : List α) (t : Text) :
    Ends (as.flatMap (fun a => ',' :: ' ' :: code a) ++ close :: t) := by
  cases as with
  | nil => exact ends_cons hdigit t
  | cons a as => exact ends_cons (by decide) _

/-- The items behind the first one.  As long as there is one more it begins with a comma, which does
not close the list. -/
lemma flatMap_comma_inj (hcomma : close ≠ ',') (hdigit : close.isDigit = false)
    {as bs : List α} {t u : Text}
    (told : ∀ a ∈ as, ∀ b t u, Ends t → Ends u → code a ++ t = code b ++ u → a = b ∧ t = u)
    (h : as.flatMap (fun a => ',' :: ' ' :: code a) ++ close :: t =
      bs.flatMap (fun b => ',' :: ' ' :: code b) ++ close :: u) :
    as = bs ∧ t = u := by
  induction as generalizing bs with
  | nil =>
    cases bs with
    | nil => exact ⟨rfl, (List.cons.inj h).2⟩
    | cons b bs => exact absurd (List.cons.inj h).1 hcomma
  | cons a as ih =>
    cases bs with
    | nil => exact absurd (List.cons.inj h).1.symm hcomma
    | cons b bs =>
      simp only [List.flatMap_cons, List.cons_append, List.append_assoc, List.cons.injEq,
        true_and] at h
      obtain ⟨ha, hrest⟩ := told a List.mem_cons_self b _ _
        (ends_flatMap_comma hdigit as t) (ends_flatMap_comma hdigit bs u) h
      obtain ⟨has, ht⟩ := ih (fun a ha => told a (List.mem_cons_of_mem _ ha)) hrest
      exact ⟨by rw [ha, has], ht⟩

/-- A list of items up to its closing bracket, if every item can be told from what is behind it, and
none begins like the bracket. -/
lemma commaSeparated_append_inj (hcomma : close ≠ ',') (hdigit : close.isDigit = false)
    (nonempty : ∀ a t u, code a ++ t ≠ close :: u) {as bs : List α} {t u : Text}
    (told : ∀ a ∈ as, ∀ b t u, Ends t → Ends u → code a ++ t = code b ++ u → a = b ∧ t = u)
    (h : commaSeparated (as.map code) ++ close :: t =
      commaSeparated (bs.map code) ++ close :: u) :
    as = bs ∧ t = u := by
  cases as with
  | nil =>
    cases bs with
    | nil => exact ⟨rfl, (List.cons.inj h).2⟩
    | cons b bs =>
      rw [List.map_cons, commaSeparated_cons, List.append_assoc] at h
      exact absurd h.symm (nonempty _ _ _)
  | cons a as =>
    cases bs with
    | nil =>
      rw [List.map_cons, commaSeparated_cons, List.append_assoc] at h
      exact absurd h (nonempty _ _ _)
    | cons b bs =>
      simp only [List.map_cons, commaSeparated_cons, List.append_assoc, List.flatMap_map] at h
      obtain ⟨ha, hrest⟩ := told a List.mem_cons_self b _ _
        (ends_flatMap_comma hdigit as t) (ends_flatMap_comma hdigit bs u) h
      obtain ⟨has, ht⟩ := flatMap_comma_inj hcomma hdigit
        (fun a ha => told a (List.mem_cons_of_mem _ ha)) hrest
      exact ⟨by rw [ha, has], ht⟩

end Items

end Text

namespace Json

/-! ### Strings -/

/-- Reads a UTF-16 code unit in hexadecimal, and gives what stands behind it. -/
def readUnit (s : Text) : Nat × Text :=
  (Text.ofHexDigits (s.take 4), s.drop 4)

/-- Reads a character as it stands inside a JSON string, and gives what stands behind it.  There is
none where the string ends. -/
def unescape : Text → Option (Char × Text)
  | '\\' :: 'n' :: s => some ('\n', s)
  | '\\' :: 'r' :: s => some ('\r', s)
  | '\\' :: 't' :: s => some ('\t', s)
  | '\\' :: 'b' :: s => some ('\x08', s)
  | '\\' :: 'f' :: s => some ('\x0c', s)
  | '\\' :: 'u' :: s =>
    let (first, rest) := readUnit s
    if 0xD800 ≤ first ∧ first < 0xDC00 then
      let (second, rest) := readUnit (rest.drop 2)
      some (Char.ofNat (planeSize + (first - 0xD800) * 0x400 + (second - 0xDC00)), rest)
    else some (Char.ofNat first, rest)
  | '\\' :: c :: s => some (c, s)
  | '"' :: _ => none
  | c :: s => some (c, s)
  | [] => none

lemma readUnit_ofHex {n : Nat} (h : n < planeSize) (t : Text) :
    readUnit (Text.ofHex 4 n ++ t) = (n, t) := by
  have len : (Text.ofHex 4 n).length = 4 := Text.length_ofHex (by decide) h
  rw [readUnit, List.take_left' len, List.drop_left' len, Text.ofHexDigits_ofHex]

/-- A character is no surrogate, and lies within the planes. -/
lemma toNat_lt_or (c : Char) : c.toNat < 0xD800 ∨ 0xDFFF < c.toNat ∧ c.toNat < 0x110000 :=
  c.valid

/-- A code unit that is no surrogate is a character. -/
lemma unescape_unitEscape {n : Nat} (h : n < planeSize) (single : ¬ (0xD800 ≤ n ∧ n < 0xDC00))
    (t : Text) : unescape (unitEscape n ++ t) = some (Char.ofNat n, t) := by
  rw [unitEscape, List.cons_append, List.cons_append]
  simp only [unescape, readUnit_ofHex h, if_neg single]

/-- A high surrogate is a character together with the code unit behind it. -/
lemma unescape_unitEscape_pair {high low : Nat} (hhigh : 0xD800 ≤ high ∧ high < 0xDC00)
    (hlow : low < planeSize) (t : Text) :
    unescape (unitEscape high ++ (unitEscape low ++ t)) =
      some (Char.ofNat (planeSize + (high - 0xD800) * 0x400 + (low - 0xDC00)), t) := by
  have hplane : high < planeSize := hhigh.2.trans (by decide)
  have second (s : Text) : (unitEscape low ++ s).drop 2 = Text.ofHex 4 low ++ s := rfl
  rw [unitEscape, List.cons_append, List.cons_append]
  simp only [unescape, readUnit_ofHex hplane, if_pos hhigh, second, readUnit_ofHex hlow]

/-- A code point is read back from its one code unit, or from its two. -/
lemma unescape_codeEscape (c : Char) (t : Text) :
    unescape (codeEscape c.toNat ++ t) = some (c, t) := by
  have valid := toNat_lt_or c
  have size : planeSize = 0x10000 := rfl
  rw [codeEscape]
  split
  · rename_i hplane
    have single : ¬ (0xD800 ≤ c.toNat ∧ c.toNat < 0xDC00) := by omega
    rw [unescape_unitEscape hplane single, Char.ofNat_toNat]
  · rename_i hplane
    obtain ⟨high, hhigh⟩ : ∃ n, n = 0xD800 + (c.toNat - planeSize) / 0x400 := ⟨_, rfl⟩
    obtain ⟨low, hlow⟩ : ∃ n, n = 0xDC00 + (c.toNat - planeSize) % 0x400 := ⟨_, rfl⟩
    have whole : planeSize + (high - 0xD800) * 0x400 + (low - 0xDC00) = c.toNat := by omega
    rw [← hhigh, ← hlow, List.append_assoc,
      unescape_unitEscape_pair (by omega) (by omega), whole, Char.ofNat_toNat]

/-- What is written for a character is read back. -/
lemma unescape_escape (c : Char) (t : Text) : unescape (escape c ++ t) = some (c, t) := by
  unfold escape
  split_ifs with hquote hbackslash hn hr ht hb hf hprintable
  · rw [hquote]; rfl
  · rw [hbackslash]; rfl
  · rw [hn]; rfl
  · rw [hr]; rfl
  · rw [ht]; rfl
  · rw [hb]; rfl
  · rw [hf]; rfl
  · show unescape (c :: t) = _
    unfold unescape
    split <;> simp_all
  · exact unescape_codeEscape c t

/-- The characters of a string, and what stands behind its closing quote. -/
lemma flatMap_escape_inj {s s' t u : Text}
    (h : s.flatMap escape ++ '"' :: t = s'.flatMap escape ++ '"' :: u) : s = s' ∧ t = u := by
  induction s generalizing s' with
  | nil =>
    cases s' with
    | nil => exact ⟨rfl, (List.cons.inj h).2⟩
    | cons c s' =>
      have read := congrArg unescape h
      rw [List.flatMap_cons, List.append_assoc, unescape_escape] at read
      cases read
  | cons c s ih =>
    have read := congrArg unescape h
    rw [List.flatMap_cons, List.append_assoc, unescape_escape] at read
    cases s' with
    | nil => cases read
    | cons d s' =>
      rw [List.flatMap_cons, List.append_assoc, unescape_escape] at read
      obtain ⟨hc, hrest⟩ := Prod.mk.inj (Option.some.inj read)
      obtain ⟨hs, ht⟩ := ih hrest
      exact ⟨by rw [hc, hs], ht⟩

lemma quoted_append_inj {s s' t u : Text} (h : quoted s ++ t = quoted s' ++ u) :
    s = s' ∧ t = u := by
  simp only [quoted, List.cons_append, List.append_assoc, List.nil_append] at h
  exact flatMap_escape_inj (List.cons.inj h).2

/-! ### Documents -/

lemma writeItems_eq_map (js : List Json) : writeItems js = js.map write := by
  induction js with
  | nil => rfl
  | cons j js ih => rw [writeItems, ih, List.map_cons]

/-- The text of an entry of an object. -/
def writeEntry (e : Text × Json) : Text :=
  quoted e.1 ++ (':' :: ' ' :: write e.2)

lemma writeEntries_eq_map (es : List (Text × Json)) : writeEntries es = es.map writeEntry := by
  induction es with
  | nil => rfl
  | cons e es ih =>
    have entry : quoted e.1 ++ ": ".toList ++ write e.2 = writeEntry e := by
      rw [List.append_assoc]
      rfl
    rw [writeEntries, ih, entry, List.map_cons]

lemma write_array_append (js : List Json) (t : Text) :
    write (array js) ++ t = '[' :: (Text.commaSeparated (js.map write) ++ ']' :: t) := by
  rw [← writeItems_eq_map]
  exact congrArg (List.cons _) (List.append_assoc _ _ _)

lemma write_object_append (es : List (Text × Json)) (t : Text) :
    write (object es) ++ t =
      '\x7b' :: (Text.commaSeparated (es.map writeEntry) ++ '\x7d' :: t) := by
  rw [← writeEntries_eq_map]
  exact congrArg (List.cons _) (List.append_assoc _ _ _)

/-- The kinds of documents that differ in how they begin. -/
inductive Kind where
  | null
  | bool (b : Bool)
  | int
  | text
  | array
  | object

/-- The kind of a document. -/
def kind : Json → Kind
  | null => .null
  | bool b => .bool b
  | int _ => .int
  | text _ => .text
  | array _ => .array
  | object _ => .object

/-- The kind of the documents that begin with a character.  None begins with a closing bracket. -/
def kindOf : Char → Option Kind
  | 'n' => some .null
  | 't' => some (.bool true)
  | 'f' => some (.bool false)
  | '"' => some .text
  | '[' => some .array
  | '\x7b' => some .object
  | ']' => none
  | _ => some .int

lemma kindOf_of_isDigit {c : Char} (h : c.isDigit = true) : kindOf c = some .int := by
  unfold kindOf
  split <;> first | rfl | cases h

lemma write_eq_cons (j : Json) : ∃ c s, write j = c :: s ∧ kindOf c = some (kind j) := by
  match j with
  | null => exact ⟨'n', _, rfl, rfl⟩
  | bool true => exact ⟨'t', _, rfl, rfl⟩
  | bool false => exact ⟨'f', _, rfl, rfl⟩
  | int (.ofNat n) =>
    obtain ⟨c, s, h, hc⟩ := Text.ofNat_eq_cons n
    exact ⟨c, s, h, kindOf_of_isDigit hc⟩
  | int (.negSucc n) => exact ⟨'-', _, rfl, rfl⟩
  | text s => exact ⟨'"', _, rfl, rfl⟩
  | array js => exact ⟨'[', _, rfl, rfl⟩
  | object es => exact ⟨'\x7b', _, rfl, rfl⟩

/-- The first character tells of what kind a document is. -/
lemma kind_eq_of_write_append_eq {j k : Json} {t u : Text} (h : write j ++ t = write k ++ u) :
    kind j = kind k := by
  obtain ⟨c, s, hj, hc⟩ := write_eq_cons j
  obtain ⟨d, s', hk, hd⟩ := write_eq_cons k
  rw [hj, hk] at h
  rw [(List.cons.inj h).1, hd] at hc
  exact (Option.some.inj hc).symm

lemma write_append_ne_bracket (j : Json) (t u : Text) : write j ++ t ≠ ']' :: u := by
  obtain ⟨c, s, h, hc⟩ := write_eq_cons j
  intro heq
  rw [h] at heq
  rw [(List.cons.inj heq).1] at hc
  cases hc

lemma writeEntry_append_ne_brace (e : Text × Json) (t u : Text) :
    writeEntry e ++ t ≠ '\x7d' :: u := by
  rintro ⟨⟩

/-- Whether the text of a document can be told from what stands behind it. -/
def Told (j : Json) : Prop :=
  ∀ k t u, Text.Ends t → Text.Ends u → write j ++ t = write k ++ u → j = k ∧ t = u

/-- An entry can be told from what stands behind it, if its document can. -/
lemma writeEntry_append_inj {e : Text × Json} (told : Told e.2) (e' : Text × Json) (t u : Text)
    (ht : Text.Ends t) (hu : Text.Ends u) (h : writeEntry e ++ t = writeEntry e' ++ u) :
    e = e' ∧ t = u := by
  simp only [writeEntry, List.append_assoc, List.cons_append] at h
  obtain ⟨hkey, hrest⟩ := quoted_append_inj h
  obtain ⟨hdocument, ht⟩ := told e'.2 t u ht hu (List.cons.inj (List.cons.inj hrest).2).2
  exact ⟨Prod.ext hkey hdocument, ht⟩

lemma told_array {js : List Json} (told : ∀ j ∈ js, Told j) : Told (array js) := by
  intro k t u _ _ h
  have hkind := kind_eq_of_write_append_eq h
  cases k with
  | array ks =>
    rw [write_array_append, write_array_append] at h
    obtain ⟨hitems, ht⟩ := Text.commaSeparated_append_inj (by decide) (by decide)
      write_append_ne_bracket told (List.cons.inj h).2
    exact ⟨by rw [hitems], ht⟩
  | _ => cases hkind

lemma told_object {es : List (Text × Json)} (told : ∀ e ∈ es, Told e.2) : Told (object es) := by
  intro k t u _ _ h
  have hkind := kind_eq_of_write_append_eq h
  cases k with
  | object fs =>
    rw [write_object_append, write_object_append] at h
    obtain ⟨hentries, ht⟩ := Text.commaSeparated_append_inj (by decide) (by decide)
      writeEntry_append_ne_brace (fun e he => writeEntry_append_inj (told e he))
      (List.cons.inj h).2
    exact ⟨by rw [hentries], ht⟩
  | _ => cases hkind

/-- The documents without parts. -/
lemma told_of_atom {j : Json} (items : ∀ js, j ≠ array js) (entries : ∀ es, j ≠ object es) :
    Told j := by
  intro k t u ht hu h
  have hkind := kind_eq_of_write_append_eq h
  match j, k with
  | null, null => exact ⟨rfl, List.append_cancel_left h⟩
  | bool b, bool b' =>
    obtain rfl : b = b' := by injection hkind
    exact ⟨rfl, List.append_cancel_left h⟩
  | int m, int n =>
    obtain ⟨hn, ht⟩ := Text.ofInt_append_inj ht hu h
    exact ⟨by rw [hn], ht⟩
  | text s, text s' =>
    obtain ⟨hs, ht⟩ := quoted_append_inj h
    exact ⟨by rw [hs], ht⟩
  | array js, _ => exact absurd rfl (items js)
  | object es, _ => exact absurd rfl (entries es)

mutual

/-- Every document can be told from what stands behind it, by induction on its structure. -/
theorem told (j : Json) : Told j := by
  match j with
  | array js => exact told_array (told_of_mem js)
  | object es => exact told_object (told_of_mem_entries es)
  | null => exact told_of_atom nofun nofun
  | bool b => exact told_of_atom nofun nofun
  | int n => exact told_of_atom nofun nofun
  | text s => exact told_of_atom nofun nofun
termination_by structural j

theorem told_of_mem (js : List Json) : ∀ j ∈ js, Told j := by
  match js with
  | [] => nofun
  | j :: js => exact List.forall_mem_cons.mpr ⟨told j, told_of_mem js⟩
termination_by structural js

theorem told_of_mem_entries (es : List (Text × Json)) : ∀ e ∈ es, Told e.2 := by
  match es with
  | [] => nofun
  | (k, j) :: es => exact List.forall_mem_cons.mpr ⟨told j, told_of_mem_entries es⟩
termination_by structural es

end

/-- **The text of a document determines it.**  What is more, it can be told from whatever stands
behind it, if that does not begin with a digit. -/
theorem write_append_inj {j k : Json} {t u : Text} (ht : Text.Ends t) (hu : Text.Ends u)
    (h : write j ++ t = write k ++ u) : j = k ∧ t = u :=
  told j k t u ht hu h

end Json

end GrammarKit
