import MailExchange.Error
import MailExchange.Text.Basic

/-!
A tree of files. Its entries are listed under their paths from the top. Names as they are given lead
from the current folder, or from the top if the first of them is empty; they may also be `.` and
`..`. `locate` finds out where they lead.
-/

namespace MailExchange.Files

open Text (Bytes)

abbrev Path := List String

inductive Entry where
  /-- A file, and whether only its owner has access to it. -/
  | file (content : Bytes) (isPrivate : Bool)
  | folder
  deriving DecidableEq, Repr

def notFound : Error := .io .notFound "No such file or directory (os error 2)"

def alreadyExists : Error := .io .other "File exists (os error 17)"

def notAFolder : Error := .io .other "Not a directory (os error 20)"

def isAFolder : Error := .io .other "Is a directory (os error 21)"

def nameTooLong : Error := .io .other "File name too long (os error 36)"

def longestName : Nat := 255

structure Tree where
  entries : List (Path × Entry) := []
  here : Path := []
  deriving Repr, Inhabited

namespace Tree

def entry? (tree : Tree) (path : Path) : Option Entry :=
  if path = [] then some .folder else (tree.entries.find? (·.1 == path)).map (·.2)

def put (tree : Tree) (path : Path) (entry : Entry) : Tree :=
  { tree with entries := (path, entry) :: tree.entries.filter (·.1 != path) }

def remove (tree : Tree) (path : Path) : Bool × Tree :=
  ((tree.entry? path).isSome, { tree with entries := tree.entries.filter (·.1 != path) })

/-- Follows names from a folder. The last one need not exist. -/
def follow (tree : Tree) (here : Path) : List String → Except Error Path
  | [] => .ok here
  | name :: rest =>
    match tree.entry? here with
    | none => .error notFound
    | some (.file _ _) => .error notAFolder
    | some .folder =>
      if name = "" ∨ name = "." then tree.follow here rest
      else if name = ".." then tree.follow here.dropLast rest
      else if longestName < name.utf8ByteSize then .error nameTooLong
      else tree.follow (here ++ [name]) rest

def start (tree : Tree) (names : List String) : Path :=
  if names.head? = some "" then [] else tree.here

def locate (tree : Tree) (names : List String) : Except Error Path :=
  tree.follow (tree.start names) names

def read (tree : Tree) (names : List String) : Except Error Bytes :=
  match tree.locate names with
  | .error error => .error error
  | .ok path =>
    match tree.entry? path with
    | some (.file content _) => .ok content
    | some .folder => .error isAFolder
    | none => .error notFound

def isThere (tree : Tree) (names : List String) : Bool :=
  match tree.locate names with
  | .ok path => (tree.entry? path).isSome
  | .error _ => false

/-- Writes a file. One that is already there keeps its access rights. -/
def write (tree : Tree) (names : List String) (content : Bytes) (isPrivate : Bool) :
    Except Error Tree :=
  match tree.locate names with
  | .error error => .error error
  | .ok path =>
    match tree.entry? path, tree.entry? path.dropLast with
    | some .folder, _ => .error isAFolder
    | some (.file _ wasPrivate), _ => .ok (tree.put path (.file content wasPrivate))
    | none, some .folder => .ok (tree.put path (.file content isPrivate))
    | none, some (.file _ _) => .error notAFolder
    | none, none => .error notFound

/-- Creates the folders that are missing on the way that names lead from a folder. Those that it has
created before an error stay. -/
def createFrom (tree : Tree) (here : Path) : List String → Except Error Unit × Tree
  | [] => (.ok (), tree)
  | name :: rest =>
    if name = "" ∨ name = "." then tree.createFrom here rest
    else if name = ".." then tree.createFrom here.dropLast rest
    else
      let next := here ++ [name]
      match tree.entry? next with
      | some .folder => tree.createFrom next rest
      | some (.file _ _) => (.error (if rest = [] then alreadyExists else notAFolder), tree)
      | none =>
        if longestName < name.utf8ByteSize then (.error nameTooLong, tree)
        else (tree.put next .folder).createFrom next rest

def createFolders (tree : Tree) (names : List String) : Except Error Unit × Tree :=
  tree.createFrom (tree.start names) names

/-- A tree with one more file, and the folders that lead to it. What cannot be added is left out. -/
def withFile (tree : Tree) (names : List String) (content : Bytes) : Tree :=
  let tree := (tree.createFolders names.dropLast).2
  (tree.write names content false).toOption.getD tree

def withFolder (tree : Tree) (names : List String) : Tree := (tree.createFolders names).2

def children (tree : Tree) (path : Path) : List (String × Entry) :=
  tree.entries.filterMap fun (place, entry) =>
    match place.getLast? with
    | some name => if place.dropLast = path then some (name, entry) else none
    | none => none

end Tree

end MailExchange.Files

namespace MailExchange.Files.PathText

def isAbsolute (path : String) : Bool := path.toList.head? == some '/'

/-- A path without the slashes, and the dots between slashes, at its end; given in reverse. -/
def trimReversed : List Char → List Char
  | ['/'] => ['/']
  | '/' :: rest => trimReversed rest
  | '.' :: '/' :: rest => trimReversed ('/' :: rest)
  | path => path

def parent? (path : String) : Option String :=
  let trimmed := trimReversed path.toList.reverse
  if trimmed = [] ∨ trimmed = ['/'] then none
  else some (String.ofList (trimReversed (trimmed.dropWhile (· != '/'))).reverse)

def join (folder path : String) : String :=
  if isAbsolute path ∨ folder = "" then path
  else if folder.toList.getLast? = some '/' then folder ++ path
  else folder ++ "/" ++ path

/-- The names on a path. An absolute path begins with an empty one. -/
def names (path : String) : List String :=
  if path = "" then [] else Text.splitAtEach '/' path

def read (tree : Tree) (path : String) : Except Error (List UInt8) :=
  if path = "" then .error notFound else tree.read (names path)

def isFile (tree : Tree) (path : String) : Bool :=
  match tree.locate (names path) with
  | .ok place => (tree.entry? place).any fun entry => entry != .folder
  | .error _ => false

end MailExchange.Files.PathText
