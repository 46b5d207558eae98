import DebugTypes.ReadError

/-!
# Folders of files

Commands read and write files.  They do so through two operations in a monad, which are those of
the system in a program, and those of a folder in memory where nothing else is wanted.

A path is followed name by name from the folder, or from the outermost folder around it.  Of the
folders around it only those are known that every system has: the outermost one, the one for
devices, whose null device is empty whatever is written to it, and the one for temporary files.
Nothing else is found around the folder, and what is written there is not seen again.

## Main definitions

* `Files m` — reading and writing files in a monad `m`.
* `Folder` — a folder in memory that holds files only.
* `Folder.target` — what a path leads to.
* `Folder.files` — the two operations of a folder.
-/

namespace DebugTypes.CommandLine

/-- Reading and writing files. -/
structure Files (m : Type → Type) where
  read : String → m (Except FileFault ByteArray)
  write : String → String → m (Except FileFault Unit)

/-- A folder without folders in it: the contents of its files under their names. -/
abbrev Folder := List (String × ByteArray)

namespace Folder

/-- The contents of a file. -/
def get? (folder : Folder) (name : String) : Option ByteArray :=
  (folder.find? fun f => f.1 == name).map Prod.snd

/-- The folder with a file written, which replaces a file of the same name. -/
def put (folder : Folder) (name : String) (contents : ByteArray) : Folder :=
  (name, contents) :: folder.filter fun f => f.1 != name

/-- Where a path has led so far. -/
inductive Location where
  /-- The folder itself. -/
  | inside
  /-- A folder around it. -/
  | around
  /-- The outermost folder. -/
  | outermost
  /-- The folder of devices. -/
  | devices
  /-- The folder for temporary files. -/
  | temporary
  deriving DecidableEq, Repr

/-- The location around a location. -/
def Location.parent : Location → Location
  | .inside | .around => .around
  | .outermost | .devices | .temporary => .outermost

/-- The location that a name leads to, if it is that of a folder. -/
def Location.child? : Location → String → Option Location
  | .outermost, "dev" => some .devices
  | .outermost, "tmp" => some .temporary
  | _, _ => none

/-- What a path leads to. -/
inductive Target where
  /-- A folder. -/
  | folder
  /-- A name in a folder; `asFolder` says that the path asks for a folder of this name. -/
  | entry (location : Location) (name : String) (asFolder : Bool)
  deriving DecidableEq, Repr

/-- The greatest number of bytes in a name. -/
def nameLimit : Nat := 255

/-- The number of bytes that a path may not reach. -/
def pathLimit : Nat := 4096

/-- The contents of the file of a name at a location. -/
def contents? (folder : Folder) : Location → String → Option ByteArray
  | .inside, name => folder.get? name
  | .devices, "null" => some .empty
  | _, _ => none

/-- Follow the names of a path from a location.  Every name but the last has to be one of a
folder. -/
def follow (folder : Folder) (asFolder : Bool) : Location → List String → Except FileFault Target
  | _, [] => .ok .folder
  | location, name :: names =>
    if name = "." then follow folder asFolder location names
    else if name = ".." then follow folder asFolder location.parent names
    else
      match location.child? name with
      | some child => follow folder asFolder child names
      | none =>
        if names.isEmpty then .ok (.entry location name asFolder)
        else if nameLimit < name.utf8ByteSize then .error .nameTooLong
        else if (folder.contents? location name).isSome then .error .notFolder
        else .error .notFound

/-- What a path leads to. -/
def target (folder : Folder) (path : String) : Except FileFault Target :=
  if path.isEmpty then .error .notFound
  else if pathLimit ≤ path.utf8ByteSize then .error .nameTooLong
  else
    folder.follow (path.endsWith "/") (if path.startsWith "/" then .outermost else .inside)
      ((path.splitOn "/").filter fun name => !name.isEmpty)

/-- The contents of the file that a path leads to. -/
def read (folder : Folder) (path : String) : Except FileFault ByteArray := do
  match ← folder.target path with
  | .folder => .error .isFolder
  | .entry location name asFolder =>
    if nameLimit < name.utf8ByteSize then .error .nameTooLong
    else
      match folder.contents? location name with
      | none => .error .notFound
      | some contents => if asFolder then .error .notFolder else .ok contents

/-- The folder with a text written to the file that a path leads to. -/
def write (folder : Folder) (path text : String) : Except FileFault Folder := do
  match ← folder.target path with
  | .folder => .error .isFolder
  | .entry location name asFolder =>
    if asFolder then .error .isFolder
    else if nameLimit < name.utf8ByteSize then .error .nameTooLong
    else if location = .inside then .ok (folder.put name text.toUTF8)
    else .ok folder

/-- Reading and writing the files of a folder. -/
def files : Files (StateM Folder) where
  read path := do return (← get).read path
  write path text := do
    match (← get).write path text with
    | .ok folder => set folder; return .ok ()
    | .error fault => return .error fault

end Folder

end DebugTypes.CommandLine
