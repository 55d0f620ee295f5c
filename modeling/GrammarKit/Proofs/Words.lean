/-
# Words and choices between words

A word is taken character by character, so that it stands for a template with one place for each of
its characters.  A text goes through all of the places if it begins with the word; any other text
misses the word at a place, in one of the two ways of `Text.Misses`, and the message is about that
place.  As words of one character are no exception to this, it does not matter that they are taken
as units: `Expr.parser_word`.

A choice between words takes the first of them with which the text begins: the alternatives in front
of it fail without a trace, and each starts again at the beginning.  This is
`Expr.choice_of_words`.  A choice between characters is the special case of words of one character,
and it can be compared with a test on a single unit, which looks at the same character:
`Expr.oneOf_accepts_iff_satisfy`.
-/
import GrammarKit.Proofs.Alternation
import GrammarKit.Proofs.Extension
import GrammarKit.Proofs.FormatTemplate

namespace GrammarKit

/-- Where no character of a class stands in front, none is taken. -/
lemma Reader.take_of_not_mem {cs s : Text} {say : Char → Text} (h : ∀ c ∈ s.head?, c ∉ cs) :
    take cs.contains say s =
      .error (match s.head? with | none => "Empty input".toList | some c => say c) := by
  cases s with
  | nil => rfl
  | cons c s =>
    have hc : ¬ cs.contains c = true := fun hmem => h c rfl (List.contains_iff_mem.mp hmem)
    rw [take, if_neg hc]
    rfl

/-! ### How a text misses a word -/

/-- How a text does not begin with a word, and what is said about it.  The text may come to its end
within the word; or it has a first place where another character stands. -/
inductive Text.Misses (s w : Text) : Text → Prop
  | ends (part : s <+: w) (hne : s ≠ w) : Misses s w "Empty input".toList
  | differs {i : Nat} {a b : Char} (before : ∀ j < i, w[j]? = s[j]?) (hw : w[i]? = some a)
    (hs : s[i]? = some b) (hne : a ≠ b) :
    Misses s w ("Expecting ".toList ++ [a] ++ ", but got ".toList ++ [b])

namespace Template

variable {w s : Text} {i : Nat}

/-- The places of a word, one for each of its characters. -/
def ofWord (w : Text) : Template :=
  w.map .symbol

@[simp] lemma length_ofWord (w : Text) : (ofWord w).length = w.length :=
  List.length_map _

lemma fitsAt_ofWord : (ofWord w).FitsAt s i ↔ ∃ c, w[i]? = some c ∧ s[i]? = some c := by
  simp [FitsAt, ofWord, Place.symbol]

/-- The texts that go through the places of a word are those that begin with it. -/
lemma matches_ofWord : (ofWord w).Matches s ↔ w <+: s := by
  rw [List.prefix_iff_getElem?]
  constructor
  · intro h i hi
    obtain ⟨c, hw, hs⟩ := fitsAt_ofWord.mp (h i (by simpa using hi))
    rw [hs, ← hw, List.getElem?_eq_getElem hi]
  · intro h i hi
    have hlt : i < w.length := by simpa using hi
    exact fitsAt_ofWord.mpr ⟨w[i], List.getElem?_eq_getElem hlt, h i hlt⟩

/-- A text that deviates from a word misses it, and the message is about the place where it
deviates. -/
lemma DeviatesAt.misses (h : (ofWord w).DeviatesAt s i) :
    s.Misses w ((ofWord w).message s i) := by
  have hlt : i < w.length := by simpa using h.lt
  have hle : i ≤ s.length := h.le_length
  have before : ∀ j < i, w[j]? = s[j]? := by
    intro j hj
    obtain ⟨c, hw, hs⟩ := fitsAt_ofWord.mp (h.before j hj)
    rw [hw, hs]
  by_cases hend : i = s.length
  · rw [message_of_end hend]
    refine .ends (List.prefix_iff_getElem?.mpr fun j hj => ?_) fun heq => ?_
    · rw [before j (by omega), List.getElem?_eq_getElem hj]
    · rw [heq] at hend
      omega
  · have hs : s[i]? = some s[i] := List.getElem?_eq_getElem (by omega)
    have hw : w[i]? = some w[i] := List.getElem?_eq_getElem hlt
    have hplace : (ofWord w)[i]? = some (.symbol w[i]) := by simp [ofWord, hw]
    rw [message_of_character hplace hs]
    refine .differs before hw hs fun heq => h.here (fitsAt_ofWord.mpr ⟨w[i], hw, ?_⟩)
    rw [hs, heq]

end Template

/-! ### Words -/

/-- A silent effect that gives a result does nothing else. -/
lemma Effect.IsSilent.eq_pure {α : Type} {x : Effect α} {a : α} (silent : x.IsSilent)
    (h : x.Gives a) : x = pure a := by
  ext tracing
  rw [silent tracing, h.outcome]
  rfl

lemma Effect.pure_inj {α : Type} {a b : α} : (pure a : Effect α) = pure b ↔ a = b := by
  constructor
  · intro h
    have outcome : (Except.ok a : Except Fault α) = .ok b :=
      congrArg Run.outcome (congrFun h false)
    exact Except.ok.inj outcome
  · rintro rfl
    rfl

namespace Parser

/-- The parsers of the characters of a word read the word place by place. -/
lemma reads_characters (w : Text) :
    (sequence ((w.map Value.unit).map char)).Reads (Template.ofWord w).read
      (List.map Value.unit) := by
  induction w with
  | nil => exact reads_sequence_nil.of_map (h := fun _ => []) (f := List.map Value.unit)
  | cons c w ih =>
    have more := ((reads_char c).cons ih).of_map (h := fun cd : Char × Text => cd.1 :: cd.2)
      (f := List.map Value.unit)
    have symbol : Reader.take (Place.symbol c).chars.contains (Place.symbol c).complaint =
        Reader.take (· == c) (unexpectedText c) := Format.take_symbol c
    simp only [map_eq_pure_bind, bind_assoc, pure_bind] at more
    simp only [Template.ofWord, List.map_cons, Template.read, symbol]
    exact more

/-- A literal reads the word that it is made of. -/
lemma reads_literal (w : Text) :
    (literal (w.map Value.unit)).Reads (Template.ofWord w).read Value.text := by
  refine (reads_characters w).fmap fun s ds s' _ => ?_
  rw [Value.joinTexts_map_unit]
  rfl

/-- What a literal comes to, which is all that it does. -/
lemma literal_run (w s : Text) : literal (w.map Value.unit) (.text s) =
    pure (Reader.result .text ((Template.ofWord w).read s)) :=
  (isSilent_literal _ _).eq_pure (reads_literal w s)

lemma literal_run_of_prefix {w s : Text} (h : w <+: s) : literal (w.map Value.unit) (.text s) =
    pure (.ok (.text w) (.text (s.drop w.length))) := by
  have front : s.take w.length = w := (List.prefix_iff_eq_take.mp h).symm
  rw [literal_run, Template.read_of_matches (Template.matches_ofWord.mpr h),
    Template.length_ofWord, front]
  rfl

lemma literal_run_of_not_prefix {w s : Text} (h : ¬ w <+: s) :
    ∃ m, s.Misses w m ∧ literal (w.map Value.unit) (.text s) = pure (.err (.text m)) := by
  obtain hmatches | ⟨i, hdeviates⟩ := (Template.ofWord w).matches_or_deviatesAt s
  · exact absurd (Template.matches_ofWord.mp hmatches) h
  · refine ⟨_, hdeviates.misses, ?_⟩
    rw [literal_run, Template.read_of_deviatesAt hdeviates]
    rfl

/-! ### Alternatives that fail in front -/

section

variable {α : Type} {p : Parser α} {ps before : List (Parser α)} {input : Value}

lemma alt_run_of_ok {v : α} {rest : Value} (h : p input = pure (.ok v rest)) :
    alt (p :: ps) input = pure (.ok v rest) := by
  by_cases hps : ps = []
  · rw [hps]
    exact h
  · rw [alt_cons p hps]
    show p input >>= _ = _
    rw [h, pure_bind]

/-- Alternatives that do nothing but fail can be left out in front of others. -/
lemma alt_append_run (h : ∀ p ∈ before, ∃ m, p input = pure (.err m)) (hps : ps ≠ []) :
    alt (before ++ ps) input = alt ps input := by
  induction before with
  | nil => rfl
  | cons p before ih =>
    obtain ⟨⟨m, hm⟩, h⟩ := List.forall_mem_cons.mp h
    have hne : before ++ ps ≠ [] := List.append_ne_nil_of_right_ne_nil before hps
    rw [List.cons_append, alt_cons p hne, ← ih h]
    show p input >>= _ = _
    rw [hm, pure_bind]

end

end Parser

namespace Expr

variable (resolve : Text → Parser Value)

/-- A single character does the same as the literal that consists of it. -/
lemma parser_word (w s : Text) :
    (word w).parser resolve (.text s) = Parser.literal (w.map Value.unit) (.text s) := by
  match w with
  | [] => rfl
  | _ :: _ :: _ => rfl
  | [c] =>
    have read : (Template.ofWord [c]).read = (fun d => [d]) <$> Reader.symbol c := by
      simp only [Template.ofWord, List.map_cons, List.map_nil, Template.read, Format.take_symbol,
        pure_bind, map_eq_pure_bind]
    have reads : (Parser.char (.unit c)).Reads ((fun d => [d]) <$> Reader.symbol c) Value.text :=
      (Parser.reads_char c).of_map
    rw [Parser.literal_run, read]
    exact (Parser.isSilent_unit _ _ _).eq_pure (reads s)

/-! ### Choices between words -/

/-- The choice between the units of a value takes what each of them stands for. -/
lemma anyUnit_of_units {α : Type} {v : Value} {f : α → Value} {as : List α}
    (h : v.units = .ok (as.map f)) : anyUnit v = .ok (alt (as.map (ofAlternative ∘ f))) := by
  rw [anyUnit, h, ← List.map_map]
  rfl

/-- The choice between words, as one between their parsers. -/
lemma parser_words (ws : List Text) :
    (alt (ws.map word)).parser resolve = Parser.alt (ws.map fun w => (word w).parser resolve) := by
  show Parser.alt (parsers resolve (ws.map word)) = _
  rw [parsers_eq_map, List.map_map]
  rfl

variable {before : List Text} {w s : Text}

/-- Words with which a text does not begin can be left out in front of others. -/
lemma words_append_run (h : ∀ w ∈ before, ¬ w <+: s) {ws : List Text} (hws : ws ≠ []) :
    (alt ((before ++ ws).map word)).parser resolve (.text s) =
      (alt (ws.map word)).parser resolve (.text s) := by
  rw [parser_words, parser_words, List.map_append]
  refine Parser.alt_append_run ?_ fun hnil => hws (List.map_eq_nil_iff.mp hnil)
  intro p hp
  obtain ⟨w, hw, rfl⟩ := List.mem_map.mp hp
  obtain ⟨m, -, hm⟩ := Parser.literal_run_of_not_prefix (h w hw)
  exact ⟨_, (parser_word resolve w s).trans hm⟩

/-- A choice between words takes the first of them with which the text begins. -/
lemma words_run_of_prefix (h : ∀ w ∈ before, ¬ w <+: s) (hw : w <+: s) (after : List Text) :
    (alt ((before ++ w :: after).map word)).parser resolve (.text s) =
      pure (.ok (.text w) (.text (s.drop w.length))) := by
  rw [words_append_run resolve h (List.cons_ne_nil w after), parser_words, List.map_cons]
  exact Parser.alt_run_of_ok ((parser_word resolve w s).trans (Parser.literal_run_of_prefix hw))

/-- Where a text begins with none of the words, it is the last one that counts. -/
lemma words_run_of_not_prefix (h : ∀ w ∈ before, ¬ w <+: s) (hw : ¬ w <+: s) :
    ∃ m, s.Misses w m ∧
      (alt ((before ++ [w]).map word)).parser resolve (.text s) = pure (.err (.text m)) := by
  obtain ⟨m, hmisses, hm⟩ := Parser.literal_run_of_not_prefix hw
  refine ⟨m, hmisses, ?_⟩
  rw [words_append_run resolve h (List.cons_ne_nil w []), ← hm, ← parser_word resolve]
  rfl

/-- Among words, either there is a first with which a text begins, or it begins with none. -/
lemma exists_first_prefix (ws : List Text) (s : Text) :
    (∃ before w after, ws = before ++ w :: after ∧ (∀ v ∈ before, ¬ v <+: s) ∧ w <+: s) ∨
      ∀ w ∈ ws, ¬ w <+: s := by
  cases hfind : ws.find? fun w => decide (w <+: s) with
  | some w =>
    obtain ⟨hw, before, after, hws, hbefore⟩ := List.find?_eq_some_iff_append.mp hfind
    exact .inl ⟨before, w, after, hws, by simpa using hbefore, of_decide_eq_true hw⟩
  | none => exact .inr (by simpa using hfind)

/-- **The first word that fits.**  The choice between the units of a list of words is a choice
between these words.  On a text it comes to the first of them with which the text begins, and to
what stands behind that.  If there is none, it fails: without words because there are no
alternatives, and else with what is said about the last word, which is that the text ends within the
word, or how the two differ in the first place where they do.  Nothing else happens.  A word that is
spelled out character by character, be it one character or none, does the same as the choice of
which it is the only alternative. -/
theorem choice_of_words (resolve : Text → Parser Value) :
    (∀ ws : List Text, anyUnit (.list (ws.map .text)) = .ok (alt (ws.map word))) ∧
    (∀ (ws : List Text) (s : Text),
      (∃ before w after, ws = before ++ w :: after ∧ (∀ v ∈ before, ¬ v <+: s) ∧ w <+: s ∧
        (alt (ws.map word)).parser resolve (.text s) =
          pure (.ok (.text w) (.text (s.drop w.length)))) ∨
      (ws = [] ∧ (alt (ws.map word)).parser resolve (.text s) =
        pure (.err (.text "No alternatives".toList))) ∨
      ∃ before w m, ws = before ++ [w] ∧ (∀ v ∈ ws, ¬ v <+: s) ∧ s.Misses w m ∧
        (alt (ws.map word)).parser resolve (.text s) = pure (.err (.text m))) ∧
    ∀ w : Text, spell (.text w) = .ok (literal (w.map Value.unit)) ∧
      ∀ s, (literal (w.map Value.unit)).parser resolve (.text s) =
        (alt [word w]).parser resolve (.text s) := by
  refine ⟨fun ws => anyUnit_of_units (f := .text) rfl, fun ws s => ?_, fun w => ⟨rfl, fun s => ?_⟩⟩
  · obtain ⟨before, w, after, rfl, hbefore, hw⟩ | hnone := exists_first_prefix ws s
    · exact .inl ⟨before, w, after, rfl, hbefore, hw, words_run_of_prefix resolve hbefore hw after⟩
    · obtain rfl | ⟨before, w, hws⟩ := ws.eq_nil_or_concat
      · exact .inr (.inl ⟨rfl, rfl⟩)
      · obtain rfl : ws = before ++ [w] := by rw [hws, List.concat_eq_append]
        obtain ⟨hbefore, hw⟩ := List.forall_mem_append.mp hnone
        obtain ⟨m, hmisses, hrun⟩ :=
          words_run_of_not_prefix resolve hbefore (hw w (List.mem_singleton_self w))
        exact .inr (.inr ⟨before, w, m, rfl, hnone, hmisses, hrun⟩)
  · exact (parser_word resolve w s).symm

/-! ### Choices between characters -/

/-- A choice between characters does what a reader of one of them says, whose message is about the
last one. -/
lemma oneOf_run (cs : Text) (last : Char) (s : Text) :
    (oneOf (cs ++ [last])).parser resolve (.text s) = pure (Reader.result Value.unit
      (Reader.take (cs ++ [last]).contains (Parser.unexpectedText last) s)) := by
  have silent : ((oneOf (cs ++ [last])).parser resolve (.text s)).IsSilent := by
    show (Parser.alt (parsers resolve _) (.text s)).IsSilent
    rw [parsers_eq_map, List.map_map]
    refine Parser.isSilent_alt (fun p hp => ?_) _
    obtain ⟨c, -, rfl⟩ := List.mem_map.mp hp
    exact Parser.isSilent_unit _ _
  exact silent.eq_pure (Parser.reads_oneOf resolve cs last s)

/-- A test on a unit for being one of some characters. -/
lemma satisfy_isIn_run (cs s : Text) :
    (satisfy fun u => u.isIn (.text cs)).parser resolve (.text s) = pure (Reader.result Value.unit
      (Reader.take cs.contains Parser.unsatisfiedText s)) := by
  have test (c : Char) : (Value.unit c).isIn (.text cs) = .ok (cs.contains c) :=
    congrArg Except.ok (Value.occursIn_singleton c cs)
  exact (Parser.isSilent_unit _ _ _).eq_pure (Parser.reads_satisfy test s)

/-- What takes the first character if it passes a test succeeds where there is such a character,
whatever its message is elsewhere. -/
lemma take_run_eq_ok {b : Char → Bool} {say : Char → Text} {s : Text} {v rest : Value} :
    (pure (Reader.result Value.unit (Reader.take b say s)) : Effect (Result Value)) =
        pure (.ok v rest) ↔
      ∃ c s', s = c :: s' ∧ b c = true ∧ Value.unit c = v ∧ Value.text s' = rest := by
  rw [Effect.pure_inj]
  constructor
  · intro h
    rcases hread : Reader.take b say s with m | ⟨c, s'⟩
    · rw [hread] at h
      cases h
    · rw [hread] at h
      cases h
      obtain ⟨hs, hc⟩ := Reader.take_eq_ok.mp hread
      exact ⟨c, s', hs, hc, rfl, rfl⟩
  · rintro ⟨c, s', rfl, hc, rfl, rfl⟩
    rw [Reader.take_eq_ok.mpr ⟨rfl, hc⟩]
    rfl

lemma oneOf_run_eq_ok {cs s : Text} {v rest : Value} :
    (oneOf cs).parser resolve (.text s) = pure (.ok v rest) ↔
      ∃ c s', s = c :: s' ∧ cs.contains c = true ∧ Value.unit c = v ∧ Value.text s' = rest := by
  obtain rfl | ⟨before, last, hcs⟩ := cs.eq_nil_or_concat
  · have fails : (oneOf []).parser resolve (.text s) = pure (.err Parser.noAlternatives) := rfl
    rw [fails, Effect.pure_inj]
    simp
  · rw [hcs, List.concat_eq_append, oneOf_run]
    exact take_run_eq_ok

lemma oneOf_run_of_not_mem {cs s : Text} (h : ∀ c ∈ s.head?, c ∉ cs) :
    (oneOf cs).parser resolve (.text s) = pure (.err (.text
      (match cs.getLast?, s.head? with
      | none, _ => "No alternatives".toList
      | some _, none => "Empty input".toList
      | some l, some c => "Expecting ".toList ++ [l] ++ ", but got ".toList ++ [c]))) := by
  obtain rfl | ⟨before, last, hcs⟩ := cs.eq_nil_or_concat
  · rfl
  · rw [List.concat_eq_append] at hcs
    subst hcs
    rw [oneOf_run, List.getLast?_concat, Reader.take_of_not_mem h]
    cases s.head? <;> rfl

lemma satisfy_isIn_run_of_not_mem {cs s : Text} (h : ∀ c ∈ s.head?, c ∉ cs) :
    (satisfy fun u => u.isIn (.text cs)).parser resolve (.text s) = pure (.err (.text
      (match s.head? with
      | none => "Empty input".toList
      | some c => c :: " cannot satisfy the condition".toList))) := by
  rw [satisfy_isIn_run, Reader.take_of_not_mem h]
  cases s.head? <;> rfl

/-- **The two ways to write a class of characters.**  The choice between the units of a text, which
is one between its characters, and the test on a unit for being in the text succeed on the same
texts, with the same value and the same rest, and that is where the first character is one of the
class.  Elsewhere both fail.  The choice has no alternatives if the class is empty, and else its
message is about the last of them; the message of the test is about the character that it has
found.  So it is with the two formats of a digit, traced or not. -/
theorem oneOf_accepts_iff_satisfy (cs s : Text) :
    anyUnit (.text cs) = .ok (oneOf cs) ∧
    (∀ v rest, (oneOf cs).parser resolve (.text s) = pure (.ok v rest) ↔
      (satisfy fun u => u.isIn (.text cs)).parser resolve (.text s) = pure (.ok v rest)) ∧
    ((∃ c s', s = c :: s' ∧ c ∈ cs ∧
        (oneOf cs).parser resolve (.text s) = pure (.ok (.unit c) (.text s'))) ∨
      ((∀ c ∈ s.head?, c ∉ cs) ∧
        (oneOf cs).parser resolve (.text s) = pure (.err (.text
          (match cs.getLast?, s.head? with
          | none, _ => "No alternatives".toList
          | some _, none => "Empty input".toList
          | some l, some c => "Expecting ".toList ++ [l] ++ ", but got ".toList ++ [c]))) ∧
        (satisfy fun u => u.isIn (.text cs)).parser resolve (.text s) = pure (.err (.text
          (match s.head? with
          | none => "Empty input".toList
          | some c => c :: " cannot satisfy the condition".toList))))) ∧
    ∀ tracing tracing' v rest,
      (Format.digit.parser resolve (.text s) tracing).outcome = .ok (.ok v rest) ↔
        (Format.anyNumber.parser resolve (.text s) tracing').outcome = .ok (.ok v rest) := by
  refine ⟨anyUnit_of_units (f := .unit) rfl, fun v rest => ?_, ?_,
    fun tracing tracing' v rest => ?_⟩
  · rw [oneOf_run_eq_ok, satisfy_isIn_run]
    exact take_run_eq_ok.symm
  · by_cases hs : ∃ c s', s = c :: s' ∧ c ∈ cs
    · obtain ⟨c, s', rfl, hc⟩ := hs
      refine .inl ⟨c, s', rfl, hc, (oneOf_run_eq_ok resolve).mpr ⟨c, s', rfl, ?_, rfl, rfl⟩⟩
      exact List.contains_iff_mem.mpr hc
    · have hhead : ∀ c ∈ s.head?, c ∉ cs := by
        intro c hc hmem
        obtain ⟨s', rfl⟩ := List.head?_eq_some_iff.mp hc
        exact hs ⟨c, s', rfl, hmem⟩
      exact .inr ⟨hhead, oneOf_run_of_not_mem resolve hhead,
        satisfy_isIn_run_of_not_mem resolve hhead⟩
  · rw [(Format.reads_digit resolve).outcome_eq_ok, (Format.reads_anyNumber resolve).outcome_eq_ok]
    simp only [Reader.dateDigit, Reader.digit, Reader.take_eq_ok]

end Expr

end GrammarKit
