/-
# What a format answers to a line

Every format reads, with or without the demand that nothing be left, and so it has an answer to
every line: `Format.answer` is the result, and `Format.gives_answer` says that the parser comes to
it whether or not it is traced.

An answer can always be reported.  The values of a format are dictionaries of small numbers and
records of texts, and both have a JSON form; the rest of a line is a text, and so is a message.
-/
import GrammarKit.Proofs.Date
import GrammarKit.Proofs.Rendering

namespace GrammarKit

namespace Reader

/-- Reads nothing where nothing is left. -/
def done : Reader Unit
  | [] => .ok ((), [])
  | c :: _ => .error ("Expecting end of input, but got ".toList ++ [c])

lemma map_eq_ok {α β : Type} {f : α → β} {m : Reader α} {s rest : Text} {b : β} :
    (f <$> m) s = .ok (b, rest) ↔ ∃ a, m s = .ok (a, rest) ∧ f a = b := by
  rw [map_eq_pure_bind, bind_eq_ok]
  constructor
  · rintro ⟨a, s', hread, hpure⟩
    obtain ⟨rfl, rfl⟩ := pure_eq_ok.mp hpure
    exact ⟨a, hread, rfl⟩
  · rintro ⟨a, hread, rfl⟩
    exact ⟨a, rest, hread, pure_eq_ok.mpr ⟨rfl, rfl⟩⟩

end Reader

namespace Parser

lemma reads_endOfInput : endOfInput.Reads .done fun _ => Value.null := by
  intro s
  refine (isSilent_endOfInput (.text s)).gives ?_
  cases s <;> rfl

end Parser

namespace Format

/-- The reader of a format. -/
def reader : Format → Reader Value
  | date => dateValue <$> Reader.date
  | id => idNumber <$> Reader.idNumber (.takeWhile Reader.isDigit)
  | strictId => idNumber <$> Reader.idNumber (Reader.digit.count 6)

/-- The reader of a format, which must read the whole line if so asked. -/
def lineReader (format : Format) (whole : Bool) : Reader Value :=
  if whole then do
    let v ← format.reader
    let _ ← Reader.done
    return v
  else format.reader

/-- What a format answers to a line. -/
def answer (format : Format) (whole : Bool) (line : Text) : Result Value :=
  Reader.result (fun v => v) (format.lineReader whole line)

variable {format : Format} {whole : Bool} {line : Text}

/-! ### The parser of a format gives the answer -/

lemma reads_expr (resolve : Text → Parser Value) :
    (format.expr.parser resolve).Reads format.reader fun v => v := by
  cases format with
  | date => exact (reads_dateExpr resolve).of_map (h := dateValue) (f := fun v => v)
  | id => exact (reads_idExpr resolve).of_map (h := idNumber) (f := fun v => v)
  | strictId => exact (reads_strictIdExpr resolve).of_map (h := idNumber) (f := fun v => v)

lemma reads_lineExpr : (format.parser whole).Reads (format.lineReader whole) fun v => v := by
  cases whole with
  | false => exact reads_expr _
  | true => exact (reads_expr _).takeFirst Parser.reads_endOfInput

/-- The parser of a format comes to its answer on every line, traced or not. -/
lemma gives_answer : (format.parser whole (.text line)).Gives (format.answer whole line) :=
  reads_lineExpr line

/-! ### Answers can be reported -/

lemma reader_of_lineReader {v : Value} {rest : Text}
    (h : format.lineReader whole line = .ok (v, rest)) :
    ∃ rest', format.reader line = .ok (v, rest') := by
  cases whole with
  | false => exact ⟨rest, h⟩
  | true =>
    obtain ⟨w, rest', hread, h⟩ := Reader.bind_eq_ok.mp h
    obtain ⟨_, _, -, h⟩ := Reader.bind_eq_ok.mp h
    obtain ⟨rfl, -⟩ := Reader.pure_eq_ok.mp h
    exact ⟨rest', hread⟩

/-- The document of a date whose numbers can be written. -/
lemma toJson_dateValue {y m d : Nat} (hy : Text.hasNumeral y = true)
    (hm : Text.hasNumeral m = true) (hd : Text.hasNumeral d = true) :
    (dateValue (y, m, d)).toJson true = .ok (.object [("year".toList, .int y),
      ("month".toList, .int m), ("day".toList, .int d)]) := by
  simp only [dateValue, Value.toJson, Value.entriesToJson, Value.keyText, hy, hm, hd, if_true]
  rfl

/-- The document of an identity number. -/
lemma toJson_idNumber (a : Char) (ds : Text) (c : Char) :
    (idNumber (a, ds, c)).toJson true = .ok (.object [("prefix".toList, .text [a]),
      ("digits".toList, .text ds), ("check_digit".toList, .text [c])]) := rfl

/-- What a format reads has a JSON form. -/
lemma toJson_of_reader {v : Value} {rest : Text} (h : format.reader line = .ok (v, rest)) :
    ∃ j, v.toJson true = .ok j := by
  cases format with
  | date =>
    obtain ⟨⟨y, m, d⟩, hread, rfl⟩ := Reader.map_eq_ok.mp h
    obtain ⟨hy, hm, hd⟩ := Reader.hasNumeral_of_date hread
    exact ⟨_, toJson_dateValue hy hm hd⟩
  | id =>
    obtain ⟨⟨a, ds, c⟩, -, rfl⟩ := Reader.map_eq_ok.mp h
    exact ⟨_, toJson_idNumber a ds c⟩
  | strictId =>
    obtain ⟨⟨a, ds, c⟩, -, rfl⟩ := Reader.map_eq_ok.mp h
    exact ⟨_, toJson_idNumber a ds c⟩

/-- An answer is a message, or a value that has a JSON form with a text as rest. -/
lemma answer_cases (format : Format) (whole : Bool) (line : Text) :
    (∃ m, format.lineReader whole line = .error m ∧ format.answer whole line = .err (.text m)) ∨
      ∃ v j rest, v.toJson true = .ok j ∧ format.answer whole line = .ok v (.text rest) := by
  rw [answer]
  cases hread : format.lineReader whole line with
  | error m => exact .inl ⟨m, rfl, rfl⟩
  | ok read =>
    obtain ⟨v, rest⟩ := read
    obtain ⟨rest', hreader⟩ := reader_of_lineReader hread
    obtain ⟨j, hj⟩ := toJson_of_reader hreader
    exact .inr ⟨v, j, rest, hj, rfl⟩

/-- Every answer has a line that reports it. -/
lemma exists_line_answer (format : Format) (whole : Bool) (line : Text) :
    ∃ report, (format.answer whole line).line = .ok report := by
  obtain ⟨m, -, h⟩ | ⟨v, j, rest, hj, h⟩ := answer_cases format whole line
  · exact ⟨_, h ▸ Result.line_err_text m⟩
  · exact ⟨_, h ▸ Result.line_ok_eq_ok.mpr ⟨j, _, hj, rfl, rfl⟩⟩

end Format

end GrammarKit
