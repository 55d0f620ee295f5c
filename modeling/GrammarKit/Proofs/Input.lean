/-
# The lines of readable inputs

The names of a call stand for texts, as long as the files are there and hold UTF-8: this is what
`Source.Holds` says of a list of names.  A dash stands for the standard input, which holds a text
the first time and nothing from then on.  The sources of such names are not cut off, and their
lines are the lines of the texts: `Source.ofNames_of_holds`.

A line has neither of the two characters that end one.
-/
import GrammarKit.Command.Source
import GrammarKit.Proofs.Encoding

namespace GrammarKit

namespace Text

/-! ### What a line has not -/

lemma mem_pushOnFirst {c d : Char} {split : List Text × Text} {line : Text}
    (hline : line ∈ (pushOnFirst c split).1) (hd : d ∈ line) :
    d = c ∨ ∃ line' ∈ split.1, d ∈ line' := by
  obtain ⟨_ | ⟨first, later⟩, rest⟩ := split
  · cases hline
  · obtain rfl | hline := List.mem_cons.mp hline
    · obtain rfl | hd := List.mem_cons.mp hd
      · exact .inl rfl
      · exact .inr ⟨first, List.mem_cons_self, hd⟩
    · exact .inr ⟨line, List.mem_cons_of_mem _ hline, hd⟩

lemma mem_pushOnFirst_rest {c d : Char} {split : List Text × Text}
    (hd : d ∈ (pushOnFirst c split).2) : d = c ∨ d ∈ split.2 := by
  obtain ⟨_ | ⟨first, later⟩, rest⟩ := split
  · exact List.mem_cons.mp hd
  · exact .inr hd

/-- The certain lines have no mark in them, and what is left has no line feed. -/
lemma splitLines_marks (t : Text) :
    (∀ line ∈ (splitLines t).1, ∀ c ∈ line, c ≠ '\r' ∧ c ≠ '\n') ∧ '\n' ∉ (splitLines t).2 := by
  fun_induction splitLines t with
  | case1 => exact ⟨nofun, nofun⟩
  | case2 => exact ⟨nofun, by decide⟩
  | case3 s ih => exact ⟨List.forall_mem_cons.mpr ⟨nofun, ih.1⟩, ih.2⟩
  | case4 c s _ _ hmark ih => exact ⟨List.forall_mem_cons.mpr ⟨nofun, ih.1⟩, ih.2⟩
  | case5 c s _ _ hmark ih =>
    obtain ⟨hr, hn⟩ := not_or.mp hmark
    constructor
    · intro line hline d hd
      obtain rfl | ⟨line', hline', hd⟩ := mem_pushOnFirst hline hd
      · exact ⟨hr, hn⟩
      · exact ih.1 line' hline' d hd
    · intro h
      obtain h | h := mem_pushOnFirst_rest h
      · exact hn h.symm
      · exact ih.2 h

/-- No line has the mark of an end in it. -/
lemma ne_mark_of_mem_lines {t line : Text} (hline : line ∈ lines t) {c : Char} (hc : c ∈ line) :
    c ≠ '\r' ∧ c ≠ '\n' := by
  obtain ⟨certain, rest⟩ := splitLines_marks t
  obtain hline | hline := List.mem_append.mp hline
  · exact certain line hline c hc
  · rw [lastLine] at hline
    split at hline
    · cases hline
    · obtain rfl := List.mem_singleton.mp hline
      obtain ⟨hc, hr⟩ := List.mem_filter.mp hc
      exact ⟨by simpa using hr, fun h => rest (h ▸ hc)⟩

end Text

namespace Command.Source

/-- Whether the inputs with some names hold the given texts in their UTF-8 form, where the bytes are
what the standard input still has. -/
inductive Holds (contents : Text → Except Fault Content) :
    List UInt8 → List Text → List Text → Prop
  | nil (stdin : List UInt8) : Holds contents stdin [] []
  | dash {names texts : List Text} (t : Text) (later : Holds contents [] names texts) :
    Holds contents (Text.Utf8.encode t) (['-'] :: names) (t :: texts)
  | file {stdin : List UInt8} {name : Text} {names texts : List Text} {t : Text}
      {content : Content} (hname : name ≠ ['-']) (hcontent : contents name = .ok content)
      (hcut : (content.blocks (".gz".toList.isSuffixOf name)).cut = none)
      (hdata : (content.blocks (".gz".toList.isSuffixOf name)).data = Text.Utf8.encode t)
      (later : Holds contents stdin names texts) :
    Holds contents stdin (name :: names) (t :: texts)

/-- The source of a text. -/
def ofText (t : Text) : Source :=
  ⟨Text.lines t, none⟩

/-- The sources of texts are not cut off. -/
lemma cut_ofText (texts : List Text) : ∀ s ∈ texts.map ofText, s.cut = none :=
  List.forall_mem_map.mpr fun _ _ => rfl

/-- The lines of texts have no line feed in them. -/
lemma lines_ofText (texts : List Text) :
    ∀ s ∈ texts.map ofText, ∀ line ∈ s.lines, '\n' ∉ line :=
  List.forall_mem_map.mpr fun _ _ _ hline hfeed => (Text.ne_mark_of_mem_lines hline hfeed).2 rfl

lemma ofBlocks_of_data_eq {b : Blocks} {t : Text} (hcut : b.cut = none)
    (hdata : b.data = Text.Utf8.encode t) : ofBlocks b = ofText t := by
  rw [ofBlocks, Text.Utf8.decodeBlocks_of_flatten_eq hdata, hcut]
  rfl

/-- Inputs that hold texts give the lines of these texts, and behind them comes what the other names
give, with what is left of the standard input. -/
lemma ofNames_append_of_holds {contents : Text → Except Fault Content} {stdin : List UInt8}
    {names texts : List Text} (h : Holds contents stdin names texts) (later : List Text) :
    ∃ stdin', ofNames contents stdin (names ++ later) =
      texts.map ofText ++ ofNames contents stdin' later := by
  induction h with
  | nil stdin => exact ⟨stdin, rfl⟩
  | dash t _ ih =>
    obtain ⟨stdin', ih⟩ := ih
    have hbytes : ofBytes (Text.Utf8.encode t) = ofText t :=
      ofBlocks_of_data_eq rfl (Blocks.data_ofBytes _)
    refine ⟨stdin', ?_⟩
    rw [List.cons_append, ofNames, if_pos rfl, hbytes, ih, List.map_cons, List.cons_append]
  | file hname hcontent hcut hdata _ ih =>
    obtain ⟨stdin', ih⟩ := ih
    have hfile := ofBlocks_of_data_eq hcut hdata
    refine ⟨stdin', ?_⟩
    rw [List.cons_append, ofNames, if_neg hname, ofName, hcontent, ih, List.map_cons,
      List.cons_append]
    exact congrArg (· :: _) hfile

lemma ofNames_of_holds {contents : Text → Except Fault Content} {stdin : List UInt8}
    {names texts : List Text} (h : Holds contents stdin names texts) :
    ofNames contents stdin names = texts.map ofText := by
  obtain ⟨stdin', h⟩ := ofNames_append_of_holds h []
  rwa [List.append_nil, ofNames, List.append_nil] at h

end Command.Source

end GrammarKit
