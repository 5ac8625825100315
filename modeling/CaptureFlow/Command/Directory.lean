import CaptureFlow.Command.Run

/-!
# A directory of files

The files that a run sees when they lie in one directory, and what that
directory holds once the run is over. A path is walked name by name: a name is
looked up in the directory, an empty name or `.` stays there, and `..` leaves it
for one around it. Other directories are taken to be empty.
-/

namespace CaptureFlow.Command

/-- A directory that holds files and no further directories. -/
structure Directory where
  /-- Its path, the slash at the end included. -/
  path : String
  /-- Its files by their names. -/
  entries : List (String × Bytes)
  deriving DecidableEq, Repr

/-- What a path leads to. -/
inductive Place where
  /-- This directory or another one. -/
  | directory
  /-- A name in this directory, whether it is that of a file or of none. -/
  | entry (name : String)
  /-- A name in another directory. -/
  | elsewhere
  deriving DecidableEq, Repr

/-- The octets of a name at most. -/
def maxNameLength : Nat := 255

/-- The octets of a path at most. -/
def maxPathLength : Nat := 4095

/-- Whether a name stays in a directory. -/
def stays (name : String) : Bool :=
  name = "" || name = "."

namespace Directory

/-- Whether there is a file of the given name. -/
def has (directory : Directory) (name : String) : Bool :=
  (directory.entries.lookup name).isSome

/-- Where names lead from another directory. -/
def walkElsewhere : (names : List String) → Except SystemFault Place
  | [] => .ok .directory
  | name :: names =>
    if stays name ∨ name = ".." then walkElsewhere names
    else if maxNameLength < name.utf8ByteSize then .error .nameTooLong
    else if names.isEmpty then .ok .elsewhere
    else .error .notFound

/-- Where names lead from the directory. -/
def walk (directory : Directory) : (names : List String) → Except SystemFault Place
  | [] => .ok .directory
  | name :: names =>
    if stays name then directory.walk names
    else if name = ".." then walkElsewhere names
    else if maxNameLength < name.utf8ByteSize then .error .nameTooLong
    else if names.isEmpty then .ok (.entry name)
    else .error (if directory.has name then .notDirectory else .notFound)

/-- The names of a path. -/
def names (path : List Char) : List String :=
  (path.splitOn '/').map String.ofList

/-- The names without those behind the last slashes that say nothing. -/
def trimNames (names : List String) : List String :=
  (names.reverse.dropWhile (· = "")).reverse

/-- Where the names of a path lead, after a change of these. -/
def locate (directory : Directory) (path : String) (change : List String → List String) :
    Except SystemFault Place :=
  if maxPathLength < path.utf8ByteSize then .error .nameTooLong
  else if directory.path.isPrefixOf path then
    directory.walk (change (names (path.toList.drop directory.path.length)))
  else walkElsewhere (change (names path.toList))

/-- Opens what a path leads to. -/
def read (directory : Directory) (path : String) : Except SystemFault Content := do
  match ← directory.locate path id with
  | .directory => .ok (.unreadable .isDirectory)
  | .entry name =>
    match directory.entries.lookup name with
    | some bytes => .ok (.octets bytes)
    | none => .error .notFound
  | .elsewhere => .error .notFound

/-- The place where a path creates a file. A slash behind its last name asks for
a directory. -/
def placeToCreate (directory : Directory) (path : String) : Except SystemFault Place := do
  match ← directory.locate path trimNames with
  | .directory => .error .isDirectory
  | place => if path.endsWith "/" then .error .isDirectory else .ok place

/-- The directory once a file is written. -/
def put (directory : Directory) (name : String) (bytes : Bytes) : Directory :=
  { directory with
    entries := (name, bytes) :: directory.entries.filter fun entry => entry.1 ≠ name }

/-- The files as a run sees them. -/
def files (directory : Directory) : Files where
  read := directory.read
  create path := (directory.placeToCreate path).map fun _ => ()

/-- The directory once a run is over. -/
def after (directory : Directory) (outcome : Outcome) : Directory :=
  match outcome.archive with
  | none => directory
  | some (path, trace) =>
    match directory.placeToCreate path with
    | .ok (.entry name) => directory.put name trace.archive
    | _ => directory

end Directory

end CaptureFlow.Command
