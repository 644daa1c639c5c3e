import Sandwich.Compiler
import Sandwich.Hex

/-! The files below a working directory, and what a path leads to from there:
one name after the other, each looked up in the directory before it. -/

namespace Sandwich

/-- What a path leads to. -/
inductive Entry
  | directory
  | file (content : Bytes)
  /-- A file that can be started. -/
  | program
deriving DecidableEq

/-- Where a path leads; the innermost name comes first. -/
inductive Place
  /-- Below the working directory. -/
  | below (names : List String)
  /-- Below the root of all directories. -/
  | beyond (names : List String)
  /-- A directory that holds the working directory. -/
  | above
deriving DecidableEq

/-- The files that there are. -/
structure Folder where
  /-- Below the working directory, by the names on their paths, the innermost first. -/
  entries : List (List String × Entry)
  /-- The same below the root of all directories. -/
  elsewhere : List (List String × Entry) := []

namespace Place

/-- The directory that holds a place; the root is its own. -/
def parent : Place → Place
  | below [] => above
  | below (_ :: names) => below names
  | beyond names => beyond names.tail
  | above => above

/-- The place of a name in a directory. What is in the directories above is not known. -/
def child? (name : String) : Place → Option Place
  | below names => some (below (name :: names))
  | beyond names => some (beyond (name :: names))
  | above => none

end Place

namespace Folder

/-- The entry at the names; what holds another entry is a directory. -/
def entryAt? (entries : List (List String × Entry)) (names : List String) : Option Entry :=
  match entries.lookup names with
  | some entry => some entry
  | none =>
    if names.isEmpty || entries.any fun (other, _) => names.isSuffixOf other then some .directory
    else none

def entry? (f : Folder) : Place → Option Entry
  | .below names => entryAt? f.entries names
  | .beyond names => entryAt? f.elsewhere names
  | .above => some .directory

/-- The length of the longest name. -/
def maxName : Nat := 255

/-- The length that a path has to stay below. -/
def maxPath : Nat := 4096

/-- The length that an argument of a program has to stay below. -/
def maxArgument : Nat := 131072

def size (text : String) : Nat := (Hex.utf8 text.toList).length

/-- The entry of a name in a directory. -/
def look (f : Folder) (place : Place) (name : String) : Except AccessError (Place × Entry) :=
  if maxName < size name then .error .nameTooLong
  else
    match (place.child? name).bind fun child => (f.entry? child).map (child, ·) with
    | some found => .ok found
    | none => .error .notFound

/-- One step of a path. -/
def step (f : Folder) : Place × Entry → String → Except AccessError (Place × Entry)
  | (place, .directory), name =>
    if name = "" || name = "." then .ok (place, .directory)
    else if name = ".." then .ok (place.parent, .directory)
    else f.look place name
  | _, _ => .error .notDirectory

/-- The names on a path, from the place that it starts at. -/
def names (path : String) : Except AccessError (Place × List String) :=
  if path.contains '\x00' then .error .zeroInName
  else if path.isEmpty then .error .notFound
  else if maxPath ≤ size path then .error .nameTooLong
  else .ok (if path.startsWith "/" then .beyond [] else .below [], path.splitOn "/")

/-- Where a path leads, and what is there. -/
def find (f : Folder) (path : String) : Except AccessError (Place × Entry) := do
  let (start, names) ← names path
  names.foldlM f.step (start, .directory)

/-- The content of the file at a path. -/
def read (f : Folder) (path : String) : Except AccessError Bytes := do
  match ← f.find path with
  | (_, .directory) => throw .isDirectory
  | (_, .file content) => return content
  | (_, .program) => return []

/-- Makes a file at a path or empties the one that is there, and tells where it is. -/
def create (f : Folder) (path : String) : Except AccessError (Place × Folder) := do
  let (start, names) ← names path
  let inner := names.reverse.dropWhile (· = "")
  match inner with
  | [] => throw .isDirectory
  | last :: before =>
    match ← before.reverse.foldlM f.step (start, .directory) with
    | (place, .directory) =>
      if last = "." || last = ".." || inner.length < names.length then throw .isDirectory
      if maxName < size last then throw .nameTooLong
      match place.child? last with
      | none => return (.above, f)
      | some child =>
        if f.entry? child = some .directory then throw .isDirectory
        match child with
        | .below names => return (child, { f with entries := (names, .file []) :: f.entries })
        | _ => return (child, f)
    | _ => throw .notDirectory

/-- Starts the program at a path; `script` tells what the one that there is does. A name
without a slash is looked for among the programs of the system, none of which is known. -/
def start (f : Folder) (script : List String → Exit) (path : String) (arguments : List String) :
    Except AccessError Exit :=
  if path.contains '\x00' || arguments.any (·.contains '\x00') then .error .zeroInCommand
  else if path.contains '/' then
    match f.find path with
    | .ok (_, .program) =>
      if arguments.any (maxArgument ≤ size ·) then .error .argumentTooLong
      else .ok (script arguments)
    | .ok _ => .error .denied
    | .error e => .error e
  else if maxName < size path then .error .nameTooLong
  else if path = "." || path = ".." then .error .denied
  else .error .notFound

end Folder

end Sandwich
