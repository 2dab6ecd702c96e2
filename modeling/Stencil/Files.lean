/-!
# Files

The files that a run of the program can read, as a value: names and contents. A path is a list
of names with slashes between them. Empty names and single points say nothing, except that in
front of them there has to be a directory.
-/

namespace Stencil

inductive FileEntry where
  | file (content : ByteArray)
  /-- A file whose size can be told but whose content cannot be read, in the words of the system. -/
  | locked (bytes : Nat) (reason : String)
  | directory

inductive FileFault where
  | notFound
  | notDirectory
  | isDirectory
  | nameTooLong
  | notText
  /-- Any other fault, in the words of the system. -/
  | other (reason : String)
deriving DecidableEq, Repr

def FileFault.message : FileFault → String
  | .notFound => "No such file or directory (os error 2)"
  | .notDirectory => "Not a directory (os error 20)"
  | .isDirectory => "Is a directory (os error 21)"
  | .nameTooLong => "File name too long (os error 36)"
  | .notText => "stream did not contain valid UTF-8"
  | .other reason => reason

namespace FileEntry

/-- The number of bytes of an entry; a directory has one block. -/
def size : FileEntry → Nat
  | .file content => content.size
  | .locked bytes _ => bytes
  | .directory => 4096

def text : FileEntry → Except FileFault String
  | .directory => .error .isDirectory
  | .locked _ reason => .error (.other reason)
  | .file content =>
    match String.fromUTF8? content with
    | some s => .ok s
    | none => .error .notText

end FileEntry

/-- The files in reach: what every path leads to. -/
structure Files where
  entry : String → Except FileFault FileEntry

namespace Files

def read (f : Files) (path : String) : Except FileFault String :=
  match f.entry path with
  | .ok e => e.text
  | .error fault => .error fault

end Files

/-! ### Trees of files -/

/-- Files by the names that lead to them from the current directory. -/
structure FileTree where
  entries : List (List String × FileEntry)

namespace FileTree

def names (path : String) : List String := (path.toList.splitOn '/').map String.ofList

def longestName : Nat := 255

def longestPath : Nat := 4095

/-- Whether a name in a path says nothing. -/
def isIdle (name : String) : Bool := name.isEmpty || name == "."

/-- What stands at a place: an entry, or a directory that holds some entry. -/
def lookup? (t : FileTree) (place : List String) : Option FileEntry :=
  match t.entries.lookup place with
  | some e => some e
  | none =>
    if place.isEmpty || t.entries.any (fun e => place.isPrefixOf e.1) then some .directory
    else none

/-- Follows names from a place on, the names that lead to it in reverse. -/
def follow (t : FileTree) (place : List String) : List String → Except FileFault FileEntry
  | [] =>
    match t.lookup? place.reverse with
    | some e => .ok e
    | none => .error .notFound
  | name :: rest =>
    match t.lookup? place.reverse with
    | some .directory =>
      if isIdle name then t.follow place rest
      else if longestName < name.utf8ByteSize then .error .nameTooLong
      else if name == ".." then t.follow place.tail rest
      else t.follow (name :: place) rest
    | some _ => .error .notDirectory
    | none => .error .notFound

def entry (t : FileTree) (path : String) : Except FileFault FileEntry :=
  if path.isEmpty || path.startsWith "/" then .error .notFound
  else if longestPath < path.utf8ByteSize then .error .nameTooLong
  else t.follow [] (names path)

def files (t : FileTree) : Files := ⟨t.entry⟩

end FileTree

end Stencil
