/-
# One line for each line

The report on a line is a single line.  A JSON text has nothing but printable ASCII in it, so that
the tabs of a report on a success are the two that were put there.  A message is printed as it is,
and it shows what it is about; but a reader complains about a character of its input, in words of
printable ASCII: `Reader.Quotes` says this of a reader, and that what it leaves is part of its
input, which is why it holds of readers one after the other.

So the output of a check can be taken apart at its line feeds, and the reports are found in the
order of the lines that they answer: `Command.splitOn_output`.
-/
import GrammarKit.Proofs.Checking

namespace GrammarKit

namespace Text

/-- Whether a character is one of printable ASCII. -/
def IsPrintableAscii (c : Char) : Prop :=
  0x20 ≤ c.toNat ∧ c.toNat ≤ 0x7E

instance : DecidablePred IsPrintableAscii :=
  fun c => inferInstanceAs (Decidable (0x20 ≤ c.toNat ∧ c.toNat ≤ 0x7E))

/-- A given text is searched character by character. -/
lemma printable_of_all {t : Text} (h : t.all (fun c => decide (IsPrintableAscii c)) = true) :
    ∀ c ∈ t, IsPrintableAscii c :=
  fun c hc => of_decide_eq_true (List.all_eq_true.mp h c hc)

/-! ### Numerals -/

lemma printable_ofNat (n : Nat) : ∀ c ∈ ofNat n, IsPrintableAscii c := by
  intro c hc
  have digit := isDigit_of_mem_ofNat hc
  simp only [Char.isDigit, Bool.and_eq_true, decide_eq_true_eq, UInt32.le_iff_toNat_le] at digit
  exact ⟨le_trans (by decide) digit.1, le_trans digit.2 (by decide)⟩

lemma printable_ofInt (n : Int) : ∀ c ∈ ofInt n, IsPrintableAscii c := by
  cases n with
  | ofNat n => exact printable_ofNat n
  | negSucc n => exact List.forall_mem_cons.mpr ⟨by decide, printable_ofNat _⟩

lemma printable_digitChar : ∀ {d : Nat}, d < 16 → IsPrintableAscii d.digitChar := by
  decide

lemma printable_toDigits (n : Nat) : ∀ c ∈ Nat.toDigits 16 n, IsPrintableAscii c := by
  induction n using Nat.strongRecOn with
  | ind n ih =>
    by_cases h : n < 16
    · rw [Nat.toDigits_of_lt_base h]
      exact List.forall_mem_singleton.mpr (printable_digitChar h)
    · have hdiv : n / 16 < n := by omega
      have hmod : n % 16 < 16 := by omega
      rw [Nat.toDigits_of_base_le (by decide) (by omega)]
      exact List.forall_mem_append.mpr
        ⟨ih _ hdiv, List.forall_mem_singleton.mpr (printable_digitChar hmod)⟩

lemma printable_ofHex (width n : Nat) : ∀ c ∈ ofHex width n, IsPrintableAscii c := by
  refine List.forall_mem_append.mpr ⟨fun c hc => ?_, printable_toDigits n⟩
  rw [List.eq_of_mem_replicate hc]
  decide

lemma printable_commaSeparated {ts : List Text} (h : ∀ t ∈ ts, ∀ c ∈ t, IsPrintableAscii c) :
    ∀ c ∈ commaSeparated ts, IsPrintableAscii c := by
  cases ts with
  | nil => nofun
  | cons t ts =>
    obtain ⟨ht, h⟩ := List.forall_mem_cons.mp h
    rw [commaSeparated_cons]
    refine List.forall_mem_append.mpr ⟨ht, fun c hc => ?_⟩
    obtain ⟨u, hu, hc⟩ := List.mem_flatMap.mp hc
    simp only [List.mem_cons] at hc
    obtain rfl | rfl | hc := hc
    · decide
    · decide
    · exact h u hu c hc

end Text

namespace Json

open Text (IsPrintableAscii)

/-! ### JSON texts -/

lemma printable_unitEscape (n : Nat) : ∀ c ∈ unitEscape n, IsPrintableAscii c :=
  List.forall_mem_cons.mpr ⟨by decide,
    List.forall_mem_cons.mpr ⟨by decide, Text.printable_ofHex 4 n⟩⟩

lemma printable_escape (c : Char) : ∀ d ∈ escape c, IsPrintableAscii d := by
  unfold escape
  split_ifs with hquote hbackslash hn hr ht hb hf hprintable
  · exact Text.printable_of_all rfl
  · exact Text.printable_of_all rfl
  · exact Text.printable_of_all rfl
  · exact Text.printable_of_all rfl
  · exact Text.printable_of_all rfl
  · exact Text.printable_of_all rfl
  · exact Text.printable_of_all rfl
  · exact List.forall_mem_singleton.mpr hprintable
  · unfold codeEscape
    split
    · exact printable_unitEscape _
    · exact List.forall_mem_append.mpr ⟨printable_unitEscape _, printable_unitEscape _⟩

/-- What is printable between two marks. -/
lemma printable_between {opening closing : Char} (ho : IsPrintableAscii opening)
    (hc : IsPrintableAscii closing) {t : Text} (ht : ∀ c ∈ t, IsPrintableAscii c) :
    ∀ c ∈ opening :: t ++ [closing], IsPrintableAscii c :=
  List.forall_mem_append.mpr ⟨List.forall_mem_cons.mpr ⟨ho, ht⟩, List.forall_mem_singleton.mpr hc⟩

lemma printable_quoted (s : Text) : ∀ c ∈ quoted s, IsPrintableAscii c := by
  refine printable_between (by decide) (by decide) fun c hc => ?_
  obtain ⟨d, -, hc⟩ := List.mem_flatMap.mp hc
  exact printable_escape d c hc

mutual

/-- A JSON text is printable ASCII throughout. -/
theorem printable_write (j : Json) : ∀ c ∈ write j, IsPrintableAscii c := by
  match j with
  | null => exact Text.printable_of_all rfl
  | bool true => exact Text.printable_of_all rfl
  | bool false => exact Text.printable_of_all rfl
  | int n => exact Text.printable_ofInt n
  | text s => exact printable_quoted s
  | array js =>
    exact printable_between (by decide) (by decide)
      (Text.printable_commaSeparated (printable_writeItems js))
  | object es =>
    exact printable_between (by decide) (by decide)
      (Text.printable_commaSeparated (printable_writeEntries es))
termination_by structural j

theorem printable_writeItems (js : List Json) :
    ∀ t ∈ writeItems js, ∀ c ∈ t, IsPrintableAscii c := by
  match js with
  | [] => nofun
  | j :: js => exact List.forall_mem_cons.mpr ⟨printable_write j, printable_writeItems js⟩
termination_by structural js

theorem printable_writeEntries (es : List (Text × Json)) :
    ∀ t ∈ writeEntries es, ∀ c ∈ t, IsPrintableAscii c := by
  match es with
  | [] => nofun
  | (k, j) :: es =>
    refine List.forall_mem_cons.mpr ⟨?_, printable_writeEntries es⟩
    have key : ∀ c ∈ quoted k ++ ": ".toList, IsPrintableAscii c :=
      List.forall_mem_append.mpr ⟨printable_quoted k, Text.printable_of_all rfl⟩
    exact List.forall_mem_append.mpr ⟨key, printable_write j⟩
termination_by structural es

end

end Json

namespace Reader

open Text (IsPrintableAscii)

/-! ### Messages of readers -/

/-- Whether the messages of a reader show nothing but characters of the input, in words of printable
ASCII, where what the reader leaves is part of the input. -/
structure Quotes {α : Type} (m : Reader α) : Prop where
  /-- What is left is part of the input. -/
  rest {s s' : Text} {a : α} (h : m s = .ok (a, s')) : s' ⊆ s
  /-- A character of a message that is not printable ASCII is one of the input. -/
  message {s t : Text} (h : m s = .error t) : ∀ c ∈ t, c ∈ s ∨ IsPrintableAscii c

variable {α β : Type} {m : Reader α}

lemma quotes_pure (a : α) : (pure a : Reader α).Quotes where
  rest h := by
    obtain ⟨-, rfl⟩ := pure_eq_ok.mp h
    exact List.Subset.refl _
  message := nofun

lemma Quotes.bind {n : α → Reader β} (hm : m.Quotes) (hn : ∀ a, (n a).Quotes) :
    (m >>= n).Quotes where
  rest h := by
    obtain ⟨a, s', ha, hb⟩ := bind_eq_ok.mp h
    exact List.Subset.trans ((hn a).rest hb) (hm.rest ha)
  message {s t} h c hc := by
    rw [bind_run] at h
    cases hrun : m s with
    | error u =>
      rw [hrun] at h
      obtain rfl : u = t := Except.error.inj h
      exact hm.message hrun c hc
    | ok read =>
      rw [hrun] at h
      exact ((hn read.1).message h c hc).imp_left fun hc => hm.rest hrun hc

lemma Quotes.map (hm : m.Quotes) (f : α → β) : (f <$> m).Quotes := by
  rw [map_eq_pure_bind]
  exact hm.bind fun _ => quotes_pure _

lemma Quotes.count (hm : m.Quotes) (n : Nat) : (m.count n).Quotes := by
  induction n with
  | zero => exact quotes_pure _
  | succ n ih => exact hm.bind fun _ => ih.bind fun _ => quotes_pure _

/-- A complaint may name the character that it is about. -/
lemma quotes_take {test : Char → Bool} {complaint : Char → Text}
    (h : ∀ c, ∀ d ∈ complaint c, d = c ∨ IsPrintableAscii d) : (take test complaint).Quotes where
  rest hread := by
    obtain ⟨rfl, -⟩ := take_eq_ok.mp hread
    exact List.subset_cons_self _ _
  message {s t} hread d hd := by
    cases s with
    | nil =>
      have all : ∀ c ∈ "Empty input".toList, IsPrintableAscii c := Text.printable_of_all rfl
      rw [← Except.error.inj hread] at hd
      exact .inr (all d hd)
    | cons c s =>
      rw [take] at hread
      split at hread
      · cases hread
      · rw [← Except.error.inj hread] at hd
        obtain rfl | hd := h c d hd
        · exact .inl List.mem_cons_self
        · exact .inr hd

lemma quotes_takeWhile (test : Char → Bool) : (takeWhile test).Quotes where
  rest hread := by
    rw [(takeWhile_eq_ok.mp hread).1]
    exact List.subset_append_right _ _
  message := nofun

lemma quotes_done : done.Quotes where
  rest {s s' _} hread := by
    cases s with
    | nil =>
      cases hread
      exact List.Subset.refl _
    | cons c s => cases hread
  message {s t} hread d hd := by
    cases s with
    | nil => cases hread
    | cons c s =>
      have all : ∀ c ∈ "Expecting end of input, but got ".toList, IsPrintableAscii c :=
        Text.printable_of_all rfl
      rw [← Except.error.inj hread] at hd
      obtain hd | hd := List.mem_append.mp hd
      · exact .inr (all d hd)
      · exact .inl (List.mem_singleton.mp hd ▸ List.mem_cons_self)

lemma printable_unsatisfiedText (c d : Char) (hd : d ∈ Parser.unsatisfiedText c) :
    d = c ∨ IsPrintableAscii d := by
  have all : ∀ c ∈ " cannot satisfy the condition".toList, IsPrintableAscii c :=
    Text.printable_of_all rfl
  exact (List.mem_cons.mp hd).imp_right (all d)

lemma printable_unexpectedText {expected : Char} (h : IsPrintableAscii expected) (c d : Char)
    (hd : d ∈ Parser.unexpectedText expected c) : d = c ∨ IsPrintableAscii d := by
  have words : ∀ c ∈ "Expecting ".toList ++ [expected] ++ ", but got ".toList,
      IsPrintableAscii c := by
    have front : ∀ c ∈ "Expecting ".toList, IsPrintableAscii c := Text.printable_of_all rfl
    have middle : ∀ c ∈ ", but got ".toList, IsPrintableAscii c := Text.printable_of_all rfl
    exact List.forall_mem_append.mpr
      ⟨List.forall_mem_append.mpr ⟨front, List.forall_mem_singleton.mpr h⟩, middle⟩
  obtain hd | hd := List.mem_append.mp hd
  · exact .inr (words d hd)
  · exact .inl (List.mem_singleton.mp hd)

lemma quotes_symbol {c : Char} (h : IsPrintableAscii c) : (symbol c).Quotes :=
  quotes_take (printable_unexpectedText h)

lemma quotes_checkDigit : checkDigit.Quotes :=
  (quotes_symbol (by decide)).bind fun _ =>
    (quotes_take printable_unsatisfiedText).bind fun _ =>
      (quotes_symbol (by decide)).bind fun _ => quotes_pure _

lemma quotes_idNumber {digits : Reader Text} (h : digits.Quotes) : (idNumber digits).Quotes :=
  (quotes_take printable_unsatisfiedText).bind fun _ => h.bind fun _ =>
    quotes_checkDigit.bind fun _ => quotes_pure _

lemma quotes_number (n : Nat) : (number n).Quotes := by
  have digits : (dateDigit.count n).Quotes :=
    (quotes_take (printable_unexpectedText (by decide))).count n
  exact digits.bind fun _ => quotes_pure _

lemma quotes_date : date.Quotes := by
  have sign : separator.Quotes := quotes_take (printable_unexpectedText (by decide))
  exact (quotes_number 4).bind fun _ => sign.bind fun _ => (quotes_number 2).bind fun _ =>
    sign.bind fun _ => (quotes_number 2).bind fun _ => quotes_pure _

end Reader

namespace Format

open Text (IsPrintableAscii)

lemma quotes_reader (format : Format) : format.reader.Quotes := by
  cases format with
  | date => exact Reader.quotes_date.map dateValue
  | id => exact (Reader.quotes_idNumber (Reader.quotes_takeWhile _)).map idNumber
  | strictId =>
    have digits : (Reader.digit.count 6).Quotes :=
      (Reader.quotes_take Reader.printable_unsatisfiedText).count 6
    exact (Reader.quotes_idNumber digits).map idNumber

lemma quotes_lineReader (format : Format) (whole : Bool) : (format.lineReader whole).Quotes := by
  cases whole with
  | false => exact quotes_reader format
  | true =>
    exact (quotes_reader format).bind fun _ => Reader.quotes_done.bind fun _ => Reader.quotes_pure _

/-- Whether a report is the one on the result that the parser of a format comes to on a line,
traced or not. -/
def Answers (format : Format) (whole : Bool) (line report : Text) : Prop :=
  ∃ r, (∀ tracing, (format.parser whole (.text line) tracing).outcome = .ok r) ∧
    r.line = .ok report

/-- The report on a line is a single line.  On a success it has two tabs, and all else behind the
first of them is printable ASCII; on a failure it is the message with a word in front. -/
lemma line_answer (format : Format) (whole : Bool) {line : Text} (hline : '\n' ∉ line) :
    ∃ report, (format.answer whole line).line = .ok report ∧ '\n' ∉ report ∧
      ((∃ v rest first second, format.answer whole line = .ok v rest ∧
        report = "ok".toList ++ '\t' :: (first ++ '\t' :: second) ∧
        ∀ c ∈ first ++ second, IsPrintableAscii c) ∨
      ∃ m, format.answer whole line = .err (.text m) ∧ report = "err".toList ++ '\t' :: m) := by
  have noFeed {c : Char} (h : IsPrintableAscii c) : c ≠ '\n' := by
    rintro rfl
    exact absurd h (by decide)
  obtain ⟨m, hread, h⟩ | ⟨v, j, rest, hj, h⟩ := answer_cases format whole line
  · have message : '\n' ∉ m := by
      intro hm
      obtain hm | hm := (quotes_lineReader format whole).message hread _ hm
      · exact hline hm
      · exact noFeed hm rfl
    refine ⟨"err\t".toList ++ m, h ▸ Result.line_err_text m, ?_, .inr ⟨m, h, rfl⟩⟩
    exact List.not_mem_append (by decide) message
  · have both : ∀ c ∈ j.write ++ (Json.text rest).write, IsPrintableAscii c :=
      List.forall_mem_append.mpr ⟨j.printable_write, (Json.text rest).printable_write⟩
    obtain ⟨first, second⟩ := List.forall_mem_append.mp both
    refine ⟨_, h ▸ Result.line_ok_eq_ok.mpr ⟨j, _, hj, rfl, rfl⟩, ?_,
      .inl ⟨v, .text rest, j.write, (Json.text rest).write, h, ?_, both⟩⟩
    · refine List.not_mem_append (List.not_mem_append (by decide) fun hc => ?_) fun hc => ?_
      · exact noFeed (first _ hc) rfl
      · obtain hc | hc := List.mem_cons.mp hc
        · cases hc
        · exact noFeed (second _ hc) rfl
    · rw [List.append_assoc]
      rfl

end Format

namespace Command

/-- Lines that are printed one after the other are found again at the line feeds. -/
lemma splitOn_flatMap {reports : List Text} (h : ∀ report ∈ reports, '\n' ∉ report) :
    (reports.flatMap fun report => report ++ ['\n']).splitOn '\n' = reports ++ [[]] := by
  induction reports with
  | nil => rfl
  | cons report reports ih =>
    obtain ⟨hreport, h⟩ := List.forall_mem_cons.mp h
    rw [List.flatMap_cons, List.append_assoc, List.singleton_append,
      List.splitOn_append_cons_self_of_not_mem hreport, ih h, List.cons_append]

/-- The output of a check of sources that are not cut off, with lines that have no line feed. -/
lemma splitOn_output {o : Options} {sources : List Source} (hcut : ∀ s ∈ sources, s.cut = none)
    (hlines : ∀ s ∈ sources, ∀ line ∈ s.lines, '\n' ∉ line) (tracing verbose : Bool) :
    ∃ reports, (outcomeOfRun verbose (check o sources tracing)).output.splitOn '\n' =
        reports ++ [[]] ∧
      List.Forall₂ (o.format.Answers o.whole) (sources.flatMap Source.lines) reports := by
  choose report hreport using fun line => Format.exists_line_answer o.format o.whole line
  have shows := shows_checkSources (shows_answer o.format o.whole) hreport hcut
  obtain ⟨traces, -, hrun⟩ := outcomeOfRun_check shows tracing verbose
  refine ⟨(sources.flatMap Source.lines).map report, ?_, ?_⟩
  · rw [hrun]
    refine splitOn_flatMap fun r hr => ?_
    obtain ⟨line, hmem, rfl⟩ := List.mem_map.mp hr
    obtain ⟨s, hs, hmem⟩ := List.mem_flatMap.mp hmem
    obtain ⟨r, hline, hfeed, -⟩ := Format.line_answer o.format o.whole (hlines s hs line hmem)
    rw [hreport line] at hline
    exact Except.ok.inj hline ▸ hfeed
  · rw [List.forall₂_map_right_iff]
    exact List.forall₂_same.mpr fun line _ =>
      ⟨_, Format.gives_answer.outcome, hreport line⟩

/-- **One line for each line.**  The report on a line without a line feed has none either.  On a
success it has three fields between two tabs, of which the first is `ok`, and the others are
printable ASCII; on a failure it is `err`, a tab and the message.  So the output of a check of such
lines, split at its line feeds, is a report for each line, in order, and nothing behind the last
feed; and likewise the output of every call whose inputs can be read. -/
theorem output_answers_lines :
    (∀ (format : Format) (whole : Bool) (line : Text), '\n' ∉ line →
      ∃ r report, (∀ tracing, (format.parser whole (.text line) tracing).outcome = .ok r) ∧
        r.line = .ok report ∧ '\n' ∉ report ∧
        ((∃ v rest first second, r = .ok v rest ∧
          report = "ok".toList ++ '\t' :: (first ++ '\t' :: second) ∧
          ∀ c ∈ first ++ second, 0x20 ≤ c.toNat ∧ c.toNat ≤ 0x7E) ∨
        ∃ m, r = .err (.text m) ∧ report = "err".toList ++ '\t' :: m)) ∧
    (∀ (o : Options) (sources : List Source) (tracing verbose : Bool),
      (∀ s ∈ sources, s.cut = none) → (∀ s ∈ sources, ∀ line ∈ s.lines, '\n' ∉ line) →
      ∃ reports, (outcomeOfRun verbose (check o sources tracing)).output.splitOn '\n' =
          reports ++ [[]] ∧
        List.Forall₂ (o.format.Answers o.whole) (sources.flatMap Source.lines) reports) ∧
    ∀ (c : Call) (console : Console) (o : Options) (texts : List Text),
      Options.ofCall c.arguments c.setting = .ok o →
      Source.Holds c.contents c.stdin o.files texts →
      ∃ reports, (c.run console).1.output.splitOn '\n' = reports ++ [[]] ∧
        List.Forall₂ (o.format.Answers o.whole) (texts.flatMap Text.lines) reports := by
  refine ⟨?_, ?_, ?_⟩
  · intro format whole line hline
    obtain ⟨report, hreport, hfeed, hshape⟩ := Format.line_answer format whole hline
    exact ⟨_, report, Format.gives_answer.outcome, hreport, hfeed, hshape⟩
  · intro o sources tracing verbose hcut hlines
    exact splitOn_output hcut hlines tracing verbose
  · intro c console o texts ho htexts
    have hsources := Source.ofNames_of_holds htexts
    obtain ⟨reports, hsplit, hreports⟩ := splitOn_output (o := o) (Source.cut_ofText texts)
      (Source.lines_ofText texts) console.tracing (console.verbose.getD o.debug)
    rw [List.flatMap_map] at hreports
    refine ⟨reports, ?_, hreports⟩
    simp only [Call.run, ho, hsources]
    exact hsplit

/-- Two lines, of which one is no line of any file, as it has a mark in it. -/
def oddLines : Source :=
  ⟨["A12(3)\t".toList, "\r".toList], none⟩

theorem output_answers_lines_oddLines :
    (∃ report, Format.date.Answers false "2023-11-24\t".toList report ∧ '\n' ∉ report) ∧
    (∃ reports, (outcomeOfRun false (check ⟨.id, [], false, false⟩ [oddLines] true)).output.splitOn
        '\n' = reports ++ [[]] ∧
      List.Forall₂ (Format.id.Answers false) ["A12(3)\t".toList, "\r".toList] reports) ∧
    ∃ reports, (Call.run ⟨threeInputs, none, oneFile, dateInput⟩ {}).1.output.splitOn '\n' =
        reports ++ [[]] ∧
      List.Forall₂ (Format.date.Answers true)
        ["2023-11-24".toList, "2023".toList, "2023/01/02".toList] reports := by
  obtain ⟨report, outputs, calls⟩ := output_answers_lines
  have called := calls ⟨threeInputs, none, oneFile, dateInput⟩ {} _ _ ofCall_threeInputs
    holds_threeInputs
  refine ⟨?_, ?_, called⟩
  · obtain ⟨r, report, hr, hreport, hfeed, -⟩ :=
      report .date false "2023-11-24\t".toList (by decide)
    exact ⟨report, ⟨r, hr, hreport⟩, hfeed⟩
  · exact outputs ⟨.id, [], false, false⟩ [oddLines] true false
      (List.forall_mem_singleton.mpr rfl) (List.forall_mem_singleton.mpr (by decide))

end Command

end GrammarKit
