/-
# Values that can be written

A number with more digits than a numeral may have cannot be written, and neither can a value that
holds one.  `Value.literal` says what would be written; `Value.written` and `Value.displayed` give
it where that is allowed, and a fault otherwise.  The message of a fault can hold a value, so it
has the same limit.
-/
import GrammarKit.Fault

namespace GrammarKit.Value

mutual

/-- Whether every number in a value has a numeral. -/
def isWritable : Value → Bool
  | .int n => Text.hasNumeral n
  | .list vs => areWritable vs
  | .tuple vs => areWritable vs
  | .dict es => entriesAreWritable es
  | .idNumber letter digits check => isWritable letter && isWritable digits && isWritable check
  | .ok v rest => isWritable v && isWritable rest
  | .err m => isWritable m
  | .null | .bool _ | .text _ | .bytes _ | .verdict _ => true
termination_by structural v => v

/-- Whether every number in a list of values has a numeral. -/
def areWritable : List Value → Bool
  | [] => true
  | v :: vs => isWritable v && areWritable vs
termination_by structural vs => vs

/-- Whether every number in the entries of a dictionary has a numeral. -/
def entriesAreWritable : List (Value × Value) → Bool
  | [] => true
  | (k, v) :: es => isWritable k && isWritable v && entriesAreWritable es
termination_by structural es => es

end

/-- What is written for a value, if that is allowed. -/
def ifWritable (v : Value) (s : Text) : Except Fault Text :=
  if v.isWritable then .ok s else .error .unwritable

/-- Nothing else than the given text is written. -/
theorem eq_of_ifWritable {v : Value} {s t : Text} (h : v.ifWritable s = .ok t) : t = s := by
  unfold ifWritable at h
  split at h
  · exact (Except.ok.inj h).symm
  · cases h

/-- The literal of a value that can be written. -/
def written (v : Value) : Except Fault Text :=
  v.ifWritable v.literal

/-- A value that can be written, as it stands in running text. -/
def displayed (v : Value) : Except Fault Text :=
  v.ifWritable v.display

/-- A text can always be written. -/
@[simp] theorem displayed_text (s : Text) : (text s).displayed = .ok s := rfl

theorem displayed_eq_ok {v : Value} (h : v.isWritable = true) : v.displayed = .ok v.display := by
  simp [displayed, ifWritable, h]

theorem written_eq_ok {v : Value} (h : v.isWritable = true) : v.written = .ok v.literal := by
  simp [written, ifWritable, h]

end GrammarKit.Value

namespace GrammarKit.Fault

/-- The message of a fault, if it can be written. -/
def writtenMessage : Fault → Except Fault Text
  | raised m => m.displayed
  | rejected m => m.displayed
  | missingKey key => key.written
  | f => .ok f.message

/-- A message that can be written is written as it is. -/
theorem message_eq_of_writtenMessage {f : Fault} {s : Text} (h : f.writtenMessage = .ok s) :
    s = f.message := by
  unfold writtenMessage at h
  split at h
  · exact Value.eq_of_ifWritable h
  · exact Value.eq_of_ifWritable h
  · exact Value.eq_of_ifWritable h
  · exact (Except.ok.inj h).symm

end GrammarKit.Fault
