/-
# Arguments of the command

An argument is a word, that is the name of a format or a file, or it is a switch.  A long switch
may be shortened as long as it stays unique.  A double dash makes words of all arguments behind
it.  The following are words although they begin with a dash: the dash alone, a negative number,
and what holds a blank and is no switch.
-/
import GrammarKit.Command.Usage

namespace GrammarKit.Command

/-- The switches of the command. -/
inductive Switch where
  | help
  | debug
  | all
  deriving DecidableEq, Repr

namespace Switch

/-- The switches in the order in which they are listed. -/
def every : List Switch :=
  [help, debug, all]

/-- The long form of a switch. -/
def longForm : Switch → Text
  | help => "--help".toList
  | debug => "--debug".toList
  | all => "--all".toList

/-- A switch as messages name it. -/
def title : Switch → Text
  | help => "-h/--help".toList
  | s => s.longForm

end Switch

/-- The short form of the switch for help. -/
def shortHelp : Text := "-h".toList

/-- An argument by what it is taken for. -/
inductive Argument where
  /-- The name of a format or a file. -/
  | word (s : Text)
  /-- The double dash behind which all arguments are words. -/
  | separator
  /-- A switch in its long form, with what was attached to it by an equals sign. -/
  | long (switch : Switch) (attached : Option Text)
  /-- The short switch for help, with what follows it in the same argument. -/
  | short (attached : Option Text)
  /-- An argument that looks like a switch and is none. -/
  | unknown (s : Text)

/-- What is wrong with a call of the command. -/
inductive Misuse where
  /-- A shortened switch can be several ones. -/
  | ambiguous (argument : Text) (candidates : List Switch)
  /-- Something is attached to a switch. -/
  | attachment (switch : Switch) (attached : Text)
  /-- There is no format of that name. -/
  | badFormat (name : Text)
  /-- No format is given. -/
  | noFormat
  /-- Some arguments are of no use. -/
  | unrecognized (arguments : List Text)

namespace Misuse

/-- The message about a wrong call. -/
def message : Misuse → Text
  | ambiguous argument candidates =>
    "ambiguous option: ".toList ++ argument ++ " could match ".toList ++
      Text.commaSeparated (candidates.map Switch.longForm)
  | attachment switch attached =>
    "argument ".toList ++ switch.title ++ ": ignored explicit argument ".toList ++
      Text.quoted attached
  | badFormat name =>
    "argument format: invalid choice: ".toList ++ Text.quoted name ++ " (choose from ".toList ++
      Text.commaSeparated (Format.all.map fun format => Text.quoted format.name) ++ [')']
  | noFormat => "the following arguments are required: format".toList
  | unrecognized arguments =>
    "unrecognized arguments: ".toList ++ [' '].intercalate arguments

end Misuse

namespace Argument

/-- Cuts an argument at its first equals sign. -/
def splitEquals (s : Text) : Text × Option Text :=
  match s.dropWhile (· != '=') with
  | [] => (s, none)
  | _ :: attached => (s.takeWhile (· != '='), some attached)

/-- Whether a text is one or more decimal digits.  A line feed may stand at the end. -/
def isDigits (s : Text) : Bool :=
  let rest := s.dropWhile Text.isDecimalDigit
  Text.startsWithDigit s && (rest.isEmpty || rest == ['\n'])

/-- Whether an argument is a negative number, with or without a decimal point. -/
def isNegativeNumber : Text → Bool
  | '-' :: s =>
    isDigits s ||
      match s.dropWhile Text.isDecimalDigit with
      | '.' :: decimals => isDigits decimals
      | _ => false
  | _ => false

/-- An argument that begins with a dash and is no switch in full. -/
def classifyDashed (s : Text) : Argument :=
  if isNegativeNumber s || s.contains ' ' then word s else unknown s

/-- An argument that begins with two dashes: a switch, a shortened one, or neither. -/
def classifyLong (s : Text) : Except Misuse Argument :=
  let (name, attached) := splitEquals s
  match Switch.every.find? fun switch => switch.longForm == name with
  | some switch => .ok (long switch attached)
  | none =>
    match Switch.every.filter fun switch => name.isPrefixOf switch.longForm with
    | [] => .ok (classifyDashed s)
    | [switch] => .ok (long switch attached)
    | candidates => .error (.ambiguous s candidates)

/-- What follows the short switch for help in the same argument. -/
def shortAttachment (rest : Text) : Option Text :=
  match rest with
  | [] => none
  | '=' :: attached => some attached
  | attached => some attached

/-- What an argument is taken for, unless a double dash stands before it. -/
def classify (s : Text) : Except Misuse Argument :=
  match s with
  | '-' :: '-' :: _ => classifyLong s
  | '-' :: 'h' :: rest => .ok (short (shortAttachment rest))
  | '-' :: _ :: _ => .ok (classifyDashed s)
  | _ => .ok (word s)

/-- What the arguments of a call are taken for. -/
def classifyAll : List Text → Except Misuse (List Argument)
  | [] => .ok []
  | s :: rest =>
    if s = ['-', '-'] then .ok (separator :: rest.map word)
    else do return (← classify s) :: (← classifyAll rest)

end Argument

end GrammarKit.Command
