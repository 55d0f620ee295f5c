/-
# Usage texts of the command

What the command says about itself: the usage lines, the help page, and the lines about a wrong
call.
-/
import GrammarKit.Format

namespace GrammarKit.Command

/-- The name of the command in its messages. -/
def programName : Text := "python -m pycombinator".toList

/-- The names of the formats between braces. -/
def choices : Text :=
  '\x7b' :: [','].intercalate (Format.all.map Format.name) ++ ['\x7d']

/-- Some blanks. -/
def blanks (n : Nat) : Text :=
  List.replicate n ' '

/-- The usage lines. -/
def usage : Text :=
  "usage: ".toList ++ programName ++ " [-h] [--debug] [--all]\n".toList ++
    blanks 30 ++ choices ++ " [files ...]\n".toList

/-- The help page. -/
def helpPage : Text :=
  usage ++
    "\nRun one of the bundled parsers over candidate strings, one per line.\n".toList ++
    "\npositional arguments:\n".toList ++
    blanks 2 ++ choices ++ ['\n'] ++
    "  files                input files, - or none for stdin, .gz is decompressed\n".toList ++
    "\noptions:\n".toList ++
    "  -h, --help           show this help message and exit\n".toList ++
    "  --debug              log every named parser invocation\n".toList ++
    "  --all                require the whole line to match\n".toList

/-- The lines about a wrong call. -/
def misuseLines (message : Text) : Text :=
  usage ++ programName ++ ": error: ".toList ++ message ++ ['\n']

end GrammarKit.Command
