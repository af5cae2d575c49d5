import QueryBindings.Storage.Path
import QueryBindings.Text.Quoted
import QueryBindings.Text.Utf8

/-!
# Stored files

The files and directories that can be reached from a working directory.  A path
is followed name by name, and every name but the last must be a directory.
Writing one file leaves every other as it is.
-/

namespace QueryBindings.Storage

open Text (Bytes)

/-- A place that a path leads to, whether or not something is stored there. -/
structure Place where
  /-- Whether names count from the root and not from the working directory. -/
  absolute : Bool
  /-- How many levels above the working directory names count from. -/
  levelsUp : Nat
  names : List String
  deriving DecidableEq, Repr

namespace Place

/-- The place of a name in a directory; nothing is above the root. -/
def step (place : Place) (name : String) : Place :=
  if name = Path.above then
    match place.names with
    | [] => if place.absolute then place else { place with levelsUp := place.levelsUp + 1 }
    | _ :: _ => { place with names := place.names.dropLast }
  else { place with names := place.names ++ [name] }

def start (path : Path) : Place :=
  ⟨path.slashes != 0, 0, []⟩

/-- The place of a path if all its names but the last are directories. -/
def ofPath (path : Path) : Place :=
  path.names.foldl step (start path)

def isInside (inner outer : Place) : Bool :=
  inner.absolute == outer.absolute && inner.levelsUp == outer.levelsUp &&
    outer.names.isPrefixOf inner.names && outer.names.length < inner.names.length

end Place

inductive Entry where
  | file (content : Bytes)
  | directory
  deriving DecidableEq, Repr

inductive FileFault where
  | absent
  | notDirectory
  | isDirectory
  /-- Whatever else the system objects to, in its own words. -/
  | refused (reason : String)
  deriving DecidableEq, Repr

namespace FileFault

def message (path : Path) : FileFault → String
  | absent => "[Errno 2] No such file or directory: " ++ Text.quoted path.shown
  | notDirectory => "[Errno 20] Not a directory: " ++ Text.quoted path.shown
  | isDirectory => "[Errno 21] Is a directory: " ++ Text.quoted path.shown
  | refused reason => reason

end FileFault

/-- What is stored, each place once. -/
abbrev Tree := List (Place × Entry)

namespace Tree

def store (place : Place) (entry : Entry) : Tree → Tree
  | [] => [(place, entry)]
  | stored :: rest =>
      if stored.1 = place then (place, entry) :: rest else stored :: store place entry rest

/--
The entry at a place.  The directories that names count from are always there,
and so are those that something is stored in.
-/
def entry? (tree : Tree) (place : Place) : Option Entry :=
  if place.names = [] then some .directory
  else
    match tree.lookup place with
    | some entry => some entry
    | none => if tree.any fun stored => stored.1.isInside place then some .directory else none

def follow (tree : Tree) (place : Place) : List String → Except FileFault Place
  | [] => .ok place
  | name :: rest =>
      match tree.entry? place with
      | none => .error .absent
      | some (.file _) => .error .notDirectory
      | some .directory => follow tree (place.step name) rest

def locate (tree : Tree) (path : Path) : Except FileFault Place :=
  tree.follow (Place.start path) path.names

def find (tree : Tree) (path : Path) : Except FileFault Entry :=
  match tree.locate path with
  | .error fault => .error fault
  | .ok place =>
      match tree.entry? place with
      | none => .error .absent
      | some entry => .ok entry

def read (tree : Tree) (path : Path) : Except FileFault Bytes :=
  match tree.find path with
  | .error fault => .error fault
  | .ok .directory => .error .isDirectory
  | .ok (.file content) => .ok content

def write (tree : Tree) (path : Path) (content : Bytes) : Except FileFault Tree :=
  match tree.locate path with
  | .error fault => .error fault
  | .ok place =>
      match tree.entry? place with
      | some .directory => .error .isDirectory
      | _ => .ok (tree.store place (.file content))

def ofFiles (files : List (String × Bytes)) (directories : List String) : Tree :=
  (files.map fun file => (Place.ofPath (Path.ofString file.1), Entry.file file.2)) ++
    directories.map fun directory =>
      (Place.ofPath (Path.ofString directory), Entry.directory)

/-- The files below the working directory, with their paths. -/
def files (tree : Tree) : List (String × Bytes) :=
  tree.filterMap fun stored =>
    match stored with
    | (⟨false, 0, names⟩, .file content) => some ("/".intercalate names, content)
    | _ => none

theorem lookup_store (place : Place) (entry : Entry) (tree : Tree) :
    (store place entry tree).lookup place = some entry := by
  induction tree with
  | nil => simp [store]
  | cons stored rest ih =>
      by_cases h : stored.1 = place
      · simp [store, h]
      · have hne : (place == stored.1) = false := by
          simpa using fun equal => h equal.symm
        obtain ⟨key, value⟩ := stored
        simp only [store, h, if_false, List.lookup_cons]
        simp only at hne
        rw [hne]
        exact ih

end Tree

end QueryBindings.Storage
