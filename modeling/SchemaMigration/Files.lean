import SchemaMigration.Text.Pieces

/-!
# Files and directories

The files that are known, and what a path leads to.

* `Files` lists each file and directory once, by its names from the root on.
* `Files.find` walks a path; points, double points and repeated slashes mean what they usually do.
* `Files.read` and `Files.list` are what a reader of a file or of a directory gets.
-/

namespace SchemaMigration

/-- Where a file or a directory is: the names from the root on. -/
abbrev Place := List String

/-- What is at a place. -/
inductive Entry where
  | file (bytes : ByteArray)
  | directory

/-- Files and directories. Those above the working directory are there without being listed. -/
structure Files where
  entries : List (Place × Entry)
  /-- Where the working directory is. -/
  here : Place := []

namespace Files

/-- A working directory with nothing in it. -/
def empty (here : Place) : Files := { entries := [], here := here }

/-- What is at a place, if anything. -/
def at? (files : Files) (place : Place) : Option Entry :=
  if place.isPrefixOf files.here then some .directory
  else (files.entries.find? fun e => e.1 == place).map (·.2)

/-- Why a path cannot be followed. -/
inductive Fault where
  | missing
  | notDirectory
  | isDirectory
  | nameTooLong
  | containsNul
  | notText
  deriving DecidableEq, Repr

/-- A fault in the words of the operating system. -/
def Fault.message : Fault → String
  | .missing => "No such file or directory (os error 2)"
  | .notDirectory => "Not a directory (os error 20)"
  | .isDirectory => "Is a directory (os error 21)"
  | .nameTooLong => "File name too long (os error 36)"
  | .containsNul => "file name contained an unexpected NUL byte"
  | .notText => "stream did not contain valid UTF-8"

/-- The greatest length of one name, in bytes. -/
def maxNameLength : Nat := 255

/-- The greatest length of a path, in bytes. -/
def maxPathLength : Nat := 4095

/-- Follows the names of a path from a place where something is. The place above the root is the root
itself. -/
def walk (files : Files) : Place → List String → Except Fault Place
  | place, [] => .ok place
  | place, name :: names =>
    match files.at? place with
    | none => .error .missing
    | some (.file _) => .error .notDirectory
    | some .directory =>
      if name = "" || name = "." then walk files place names
      else if name = ".." then walk files place.dropLast names
      else if maxNameLength < name.utf8ByteSize then .error .nameTooLong
      else if (files.at? (place ++ [name])).isSome then walk files (place ++ [name]) names
      else .error .missing

/-- The names of a path. -/
def names (path : String) : List String :=
  (Text.pieces '/' path.toList).map String.ofList

/-- Where a path starts: at the root, if it begins with a slash, else at the working directory. -/
def start (files : Files) (path : String) : Place :=
  if path.toList.head? = some '/' then [] else files.here

/-- Where a path leads, if something is there. -/
def find (files : Files) (path : String) : Except Fault Place :=
  if path.toList.contains '\x00' then .error .containsNul
  else if path = "" then .error .missing
  else if maxPathLength < path.utf8ByteSize then .error .nameTooLong
  else files.walk (files.start path) (names path)

/-- Whether something is at the end of a path. -/
def existsAt (files : Files) (path : String) : Bool :=
  match files.find path with
  | .ok _ => true
  | .error _ => false

/-- The bytes of the file at the end of a path. -/
def read (files : Files) (path : String) : Except Fault ByteArray :=
  match files.find path with
  | .error fault => .error fault
  | .ok place =>
    match files.at? place with
    | some (.file bytes) => .ok bytes
    | some .directory => .error .isDirectory
    | none => .error .missing

/-- The text of the file at the end of a path. -/
def readText (files : Files) (path : String) : Except Fault String :=
  match files.read path with
  | .error fault => .error fault
  | .ok bytes =>
    match String.fromUTF8? bytes with
    | some text => .ok text
    | none => .error .notText

/-- The name of an entry of the directory at a place. -/
def nameIn (place : Place) (entry : Place × Entry) : Option (String × Entry) :=
  match entry.1.getLast? with
  | some name => if entry.1.dropLast == place then some (name, entry.2) else none
  | none => none

/-- The entries of the directory at the end of a path. -/
def list (files : Files) (path : String) : Except Fault (List (String × Entry)) :=
  match files.find path with
  | .error fault => .error fault
  | .ok place =>
    match files.at? place with
    | some .directory => .ok (files.entries.filterMap (nameIn place))
    | some (.file _) => .error .notDirectory
    | none => .error .missing

/-- The files with one place set. -/
def put (files : Files) (place : Place) (entry : Entry) : Files :=
  match files.at? place with
  | some _ =>
    { files with entries := files.entries.map fun e => if e.1 == place then (place, entry) else e }
  | none => { files with entries := files.entries ++ [(place, entry)] }

/-- Where a new file at the end of a path would be: in a directory that is there, under a name that
nothing has. -/
def vacancy (files : Files) (path : String) : Except Fault Place :=
  match (names path).getLast? with
  | none => .error .missing
  | some name =>
    let front := (names path).dropLast
    match files.find path, files.walk (files.start path) front with
    | .ok _, _ | .error .missing, .error .missing => .error .missing
    | .error .missing, .ok place =>
      match files.at? place with
      | some .directory =>
        if ["", ".", ".."].contains name then .error .isDirectory else .ok (place ++ [name])
      | _ => .error .notDirectory
    | .error .missing, .error fault | .error fault, _ => .error fault

/-- The places above a place, from the root down. -/
def above : Place → List Place
  | [] => []
  | name :: rest => [] :: (above rest).map (name :: ·)

/-- The place that follows from another by one name of a path. -/
def step (place : Place) (name : String) : Place :=
  if name = "" || name = "." then place
  else if name = ".." then place.dropLast
  else place ++ [name]

/-- The place that a path names, whether or not something is there. -/
def placeOf (files : Files) (path : String) : Place :=
  (names path).foldl step (files.start path)

/-- The files with an entry at a path and with the directories above it. -/
def write (files : Files) (path : String) (entry : Entry) : Files :=
  let place := files.placeOf path
  let withParents := (above place).foldl
    (fun fs p => if (fs.at? p).isSome then fs else fs.put p .directory) files
  match entry, withParents.at? place with
  | .directory, some .directory => withParents
  | _, _ => withParents.put place entry

/-- The files without what is at a path and below it. -/
def remove (files : Files) (path : String) : Files :=
  let place := files.placeOf path
  { files with entries := files.entries.filter fun e => !place.isPrefixOf e.1 }

end Files

end SchemaMigration
