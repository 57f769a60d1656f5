import TextDiagram.Text.Characters

/-!
# Disks

The program reads and writes files wherever their paths lead: from the root, if a path begins there,
and otherwise from the folder in which the program runs. A disk knows all files and folders by their
places from the root on. Main statement: a file that is put at a place is found there
(`find?_put_self`).
-/

namespace TextDiagram.Command

open Text

/-- A path as it is written. -/
abbrev Path := List Char

/-- The names on the way from the root to a file or folder. -/
abbrev Place := List (List Char)

/-- Why a file cannot be read or written. -/
inductive FileFault
  /-- There is no such file, or no folder for it. -/
  | missing
  /-- A file stands where a folder is needed. -/
  | notFolder
  /-- A folder stands where a file is needed. -/
  | isFolder
  /-- A name or the whole path is too long. -/
  | nameTooLong
  /-- The path holds the character that no name may hold. -/
  | nulInPath
  /-- The file is no text. -/
  | notText
  /-- Any other fault, with its wording. -/
  | other (wording : List Char)
  deriving DecidableEq, Repr

/-- The wording of a fault. -/
def FileFault.message : FileFault → String
  | missing => "No such file or directory (os error 2)"
  | notFolder => "Not a directory (os error 20)"
  | isFolder => "Is a directory (os error 21)"
  | nameTooLong => "File name too long (os error 36)"
  | nulInPath => "file name contained an unexpected NUL byte"
  | notText => "stream did not contain valid UTF-8"
  | other wording => String.ofList wording

/-- What a file holds. -/
inductive Content
  /-- A text. -/
  | text (chars : List Char)
  /-- Bytes that are no text. -/
  | binary (bytes : List UInt8)
  deriving DecidableEq, Repr

/-- What some bytes say. -/
def Content.ofBytes (bytes : List UInt8) : Content :=
  match String.fromUTF8? ⟨bytes.toArray⟩ with
  | some s => .text s.toList
  | none => .binary bytes

/-- What is found at a path. -/
inductive Found
  /-- A file. -/
  | file (content : Content)
  /-- A folder. -/
  | folder
  /-- Nothing, for a reason. -/
  | nothing (fault : FileFault)
  deriving DecidableEq, Repr

namespace Found

/-- Whether there is a file or folder. -/
def isPresent : Found → Bool
  | file _ | folder => true
  | nothing _ => false

/-- The text of the file that is found. -/
def text : Found → Except FileFault (List Char)
  | file (.text chars) => .ok chars
  | file (.binary _) => .error .notText
  | folder => .error .isFolder
  | nothing fault => .error fault

end Found

/-- A file or a folder. -/
inductive Entry
  /-- A file. -/
  | file (content : Content)
  /-- A folder. -/
  | folder
  deriving DecidableEq, Repr

/-- The files and folders below the root, as a program sees them that runs in one of the folders. If
none is named, this is the root. -/
structure Disk (workingFolder : Place := []) where
  /-- The entries by their places. A folder need not be listed if something in it is. -/
  entries : List (Place × Entry)
  deriving DecidableEq, Repr

namespace Disk

variable {workingFolder : Place}

/-- The file or folder at a place. -/
def find? (d : Disk workingFolder) (place : Place) : Option Entry :=
  if place.isEmpty then some .folder
  else
    match d.entries.lookup place with
    | some entry => some entry
    | none =>
      if d.entries.any fun (other, _) => place.isPrefixOf other then some .folder else none

/-- The disk with a file at a place, instead of the one that may be there. -/
def put (d : Disk workingFolder) (place : Place) (content : Content) : Disk workingFolder :=
  ⟨(place, .file content) :: d.entries.filter fun (other, _) => other != place⟩

/-! ## Paths -/

/-- Where a path leads. -/
inductive Target
  /-- To a file. -/
  | file (place : Place) (content : Content)
  /-- To a folder. -/
  | folder
  /-- To a place in a folder at which there is nothing. -/
  | vacant (place : Place)
  /-- To a place in a folder at which there is nothing and only a folder could be. -/
  | vacantFolder
  /-- Nowhere. -/
  | nowhere (fault : FileFault)
  deriving DecidableEq, Repr

/-- The greatest number of bytes in a name. -/
def nameLimit : Nat := 255

/-- The greatest number of bytes in a path. -/
def pathLimit : Nat := 4095

/-- Follows names from a folder on. An empty name and a single dot stay in the folder, and two dots
lead to the one above, from the root to itself. -/
def follow (d : Disk workingFolder) : (here : Place) → List (List Char) → Target
  | _, [] => .folder
  | here, name :: rest =>
    if name.isEmpty || name = ['.'] then follow d here rest
    else if name = ['.', '.'] then follow d here.dropLast rest
    else if nameLimit < byteCount name then .nowhere .nameTooLong
    else
      let place := here ++ [name]
      match d.find? place with
      | some .folder => follow d place rest
      | some (.file content) =>
        if rest.isEmpty then .file place content else .nowhere .notFolder
      | none =>
        if rest.isEmpty then .vacant place
        else if rest.all List.isEmpty then .vacantFolder
        else .nowhere .missing

/-- The names to follow from the root on to where a path leads. -/
def namesFromRoot (workingFolder : Place) (path : Path) : List (List Char) :=
  if path.head? = some '/' then path.splitOn '/' else workingFolder ++ path.splitOn '/'

/-- Where a path leads. -/
def target (d : Disk workingFolder) (path : Path) : Target :=
  if path.contains '\x00' then .nowhere .nulInPath
  else if path.isEmpty then .nowhere .missing
  else if pathLimit < byteCount path then .nowhere .nameTooLong
  else d.follow [] (namesFromRoot workingFolder path)

/-- What is found at a path. -/
def look (d : Disk workingFolder) (path : Path) : Found :=
  match d.target path with
  | .file _ content => .file content
  | .folder => .folder
  | .vacant _ | .vacantFolder => .nothing .missing
  | .nowhere fault => .nothing fault

/-- Writes a text to a file, which need not be there yet. Its folder has to be there. -/
def write (d : Disk workingFolder) (path : Path) (chars : List Char) :
    Except FileFault (Disk workingFolder) :=
  match d.target path with
  | .file place _ | .vacant place => .ok (d.put place (.text chars))
  | .folder | .vacantFolder => .error .isFolder
  | .nowhere fault => .error fault

/-- Writing a text to a file, as a step that changes the disk or leaves it as it is. -/
def writeStep (path : Path) (chars : List Char) :
    StateM (Disk workingFolder) (Except FileFault Unit) := fun d =>
  match d.write path chars with
  | .error fault => (.error fault, d)
  | .ok written => (.ok (), written)

/-- The files that are new or hold something else than before. -/
def changes (before after : Disk workingFolder) : List (Place × Content) :=
  after.entries.filterMap fun (place, entry) =>
    match entry with
    | .folder => none
    | .file content =>
      if before.find? place = some (.file content) then none else some (place, content)

/-- A file that is put at a place is found there. -/
theorem find?_put_self (d : Disk workingFolder) {place : Place} (h : place ≠ []) (content : Content) :
    (d.put place content).find? place = some (.file content) := by
  simp [find?, put, h]

end Disk

end TextDiagram.Command
