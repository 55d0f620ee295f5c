/-
# A directory of files

The files that the names of a call can refer to, as a table from paths to contents.  A path is a
list of steps; a step of one dot stays where it is, and one of two dots goes back.

Names lead out of the directory if they go back from it, or begin with a slash.  Outside there are
directories only, and none of them has a name that could be known.

A directory is filled name by name.  A file or directory is made only in a directory that is there
already; a file may take the place of another, but a directory takes the place of nothing.
-/
import GrammarKit.Command.Content

namespace GrammarKit.Command

/-- What a path can lead to. -/
inductive Entry where
  | file (content : Content)
  | directory

/-- The files and directories below a directory, each with its path. -/
abbrev Directory := List (List Text × Entry)

/-- Where the steps of a name have led. -/
inductive Place where
  /-- To an entry of the directory. -/
  | inside (path : List Text) (entry : Entry)
  /-- To some directory outside. -/
  | outside

namespace Directory

/-- The steps of a name. -/
def steps (name : Text) : List Text :=
  name.foldr
    (fun c parts =>
      match c, parts with
      | '/', parts => [] :: parts
      | c, part :: parts => (c :: part) :: parts
      | c, [] => [[c]])
    [[]]

/-- Whether a step stays where it is. -/
def stays (step : Text) : Bool :=
  step == [] || step == ['.']

/-- What is at a path. -/
def entry? (d : Directory) (path : List Text) : Option Entry :=
  if path.isEmpty then some .directory else d.lookup path

/-- Puts an entry at a path, in place of an earlier one. -/
def put (d : Directory) (path : List Text) (entry : Entry) : Directory :=
  (path, entry) :: d.filter fun other => other.1 != path

/-- The greatest number of bytes in a step of a name. -/
def maxStep : Nat := 255

/-- The greatest number of bytes in a name. -/
def maxName : Nat := 4095

/-- The number of bytes that a part of a name takes. -/
def width (part : Text) : Nat :=
  (String.ofList part).utf8ByteSize

/-- The step back from a place. -/
def back : Place → Place
  | .inside [] _ => .outside
  | .inside path _ => .inside path.dropLast .directory
  | .outside => .outside

/-- The step from a directory to the given name in it; `name` is what the fault names. -/
def enter (d : Directory) (name step : Text) (place : Place) : Except Fault Place :=
  if maxStep < width step then .error (.nameTooLong name)
  else
    match place with
    | .outside => .error (.noSuchFile name)
    | .inside path _ =>
      match d.entry? (path ++ [step]) with
      | some entry => .ok (.inside (path ++ [step]) entry)
      | none => .error (.noSuchFile name)

/-- Follows a step from a place; `name` is what the fault names. -/
def follow (d : Directory) (name step : Text) (place : Place) : Except Fault Place :=
  match place with
  | .inside _ (.file _) => .error (.notDirectory name)
  | place =>
    if stays step then .ok place
    else if step = ['.', '.'] then .ok (back place)
    else d.enter name step place

/-- Where a name begins to lead from. -/
def start (name : Text) : Place :=
  if name.head? = some '/' then .outside else .inside [] .directory

/-- Where some steps of a name lead. -/
def walk (d : Directory) (name : Text) (steps : List Text) : Except Fault Place :=
  steps.foldlM (fun place step => d.follow name step place) (start name)

/-- Refuses a text that is no name at all. -/
def checkName (name : Text) : Except Fault Unit :=
  if name.contains '\x00' then .error .nullInName
  else if name.isEmpty then .error (.noSuchFile name)
  else if maxName < width name then .error (.nameTooLong name)
  else .ok ()

/-- The content of the file with a name. -/
def contents (d : Directory) (name : Text) : Except Fault Content := do
  checkName name
  match ← d.walk name (steps name) with
  | .inside _ (.file content) => return content
  | _ => .error (.isDirectory name)

/-! ### Filling a directory -/

/-- The fault of making an entry where there is a directory. -/
def occupied (name : Text) : Entry → Fault
  | .directory => .alreadyThere name
  | .file _ => .isDirectory name

/-- Makes an entry at a path. -/
def make (d : Directory) (name : Text) (path : List Text) (entry : Entry) :
    Except Fault Directory :=
  match d.entry? path, entry with
  | some .directory, entry => .error (occupied name entry)
  | some (.file _), .directory => .error (.alreadyThere name)
  | _, entry => .ok (d.put path entry)

/-- Makes an entry under the last step of a name; `slashed` tells whether slashes follow it, which
only the name of a directory may have.  Nothing is known of what is made outside. -/
def makeStep (d : Directory) (name step : Text) (slashed : Bool) (place : Place) (entry : Entry) :
    Except Fault Directory :=
  match entry, slashed with
  | .file _, true => .error (.isDirectory name)
  | entry, _ =>
    if maxStep < width step then .error (.nameTooLong name)
    else
      match place with
      | .inside path _ => d.make name (path ++ [step]) entry
      | .outside => .ok d

/-- Makes a file or directory with a name. -/
def create (d : Directory) (name : Text) (entry : Entry) : Except Fault Directory := do
  checkName name
  let steps := steps name
  let named := (steps.reverse.dropWhile List.isEmpty).reverse
  match ← d.walk name named.dropLast, named.getLast? with
  | .inside _ (.file _), _ => .error (.notDirectory name)
  | place, some step =>
    if stays step ∨ step = ['.', '.'] then .error (occupied name entry)
    else d.makeStep name step (named.length < steps.length) place entry
  | _, none => .error (occupied name entry)

/-- The directory in which entries with the given names were made one after the other. -/
def ofNames (entries : List (Text × Entry)) : Except Fault Directory :=
  entries.foldlM (fun d entry => d.create entry.1 entry.2) []

end Directory

end GrammarKit.Command
