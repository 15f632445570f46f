/-!
# Folders

The files among which a document is looked for. A path is followed from the left, a name at a time.
Only a directory leads further, so a name after a file is an error even if it is empty or a dot.
What lies around the folder is known as far as it is given, by entries that are reached from the
root.
-/
namespace Dashboard

/-- Why the text at a path cannot be had. -/
inductive Unreadable where
  | missing
  | directory
  | notADirectory
  | nameTooLong
  | notText
  | other (cause : String)
  deriving DecidableEq, Repr

def Unreadable.cause : Unreadable → String
  | missing => "No such file or directory (os error 2)"
  | directory => "Is a directory (os error 21)"
  | notADirectory => "Not a directory (os error 20)"
  | nameTooLong => "File name too long (os error 36)"
  | notText => "stream did not contain valid UTF-8"
  | other cause => cause

/-- Where a path has led: down some names from the folder or from the root. -/
structure Place where
  fromRoot : Bool
  names : List String

def Place.child (place : Place) (name : String) : Place :=
  { place with names := place.names ++ [name] }

inductive Entry where
  | file (bytes : ByteArray)
  | directory
  /-- Leads to another place, which holds no link. -/
  | link (target : Place)

/-- Entries by the names that lead to them. A later entry replaces an earlier one. -/
abbrev Entries := List (List String × Entry)

/-- What the names lead to. Names that begin the way to an entry lead to a directory. -/
def Entries.at? (entries : Entries) (names : List String) : Option Entry :=
  match entries.reverse.lookup names with
  | some entry => some entry
  | none =>
    if names.isEmpty || entries.any (names.isPrefixOf ·.1) then some .directory else none

structure Folder where
  entries : Entries
  /-- The names from the root to the directory around the folder. -/
  around : List String := []
  /-- Entries that are reached from the root. -/
  outside : Entries := []

namespace Folder

/-- The most bytes that a name may have. -/
def nameLimit : Nat := 255

/-- The most bytes that a path may have. -/
def pathLimit : Nat := 4095

def at? (folder : Folder) (place : Place) : Option Entry :=
  (if place.fromRoot then folder.outside else folder.entries).at? place.names

/-- The directory around a place. The root is its own. -/
def parent (folder : Folder) (place : Place) : Place :=
  if place.fromRoot || !place.names.isEmpty then { place with names := place.names.dropLast }
  else ⟨true, folder.around⟩

/-- Follows one name of a path. -/
def follow (folder : Folder) (place : Place) (name : String) : Except Unreadable Place :=
  match folder.at? place with
  | some (.file _) => .error .notADirectory
  | _ =>
    if name = "" ∨ name = "." then .ok place
    else if name = ".." then .ok (folder.parent place)
    else if nameLimit < name.utf8ByteSize then .error .nameTooLong
    else
      match folder.at? (place.child name) with
      | none => .error .missing
      | some (.link target) => .ok target
      | some _ => .ok (place.child name)

/-- The bytes at a path. -/
def read (folder : Folder) (path : String) : Except Unreadable ByteArray :=
  if path = "" then .error .missing
  else if pathLimit < path.utf8ByteSize then .error .nameTooLong
  else do
    let place ← (path.splitOn "/").foldlM folder.follow ⟨path.startsWith "/", []⟩
    match folder.at? place with
    | some (.file bytes) => .ok bytes
    | _ => .error .directory

end Folder

end Dashboard
