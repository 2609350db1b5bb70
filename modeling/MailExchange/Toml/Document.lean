import MailExchange.Toml.Value

namespace MailExchange.Toml

namespace Parse

def skipLines : Nat → Parse Unit
  | 0 => failure
  | bound + 1 => do
    skipBlank
    if ← eat .newline then skipLines bound
    else if ← eatComment then skipLines bound

def skipAllLines : Parse Unit := do skipLines ((← get).length + 1)

end Parse

def addEntry (path : List String) (value : Value) (entries : Entries) : Option Entries :=
  match path with
  | [] => none
  | [name] => some (entries ++ [(name, value)])
  | name :: path =>
    match entries.find? (·.1 == name) with
    | some (_, .table inner true) =>
      (addEntry path value inner).map fun inner =>
        entries.map fun entry =>
          match entry with
          | (other, .table _ true) => if other = name then (name, .table inner true) else entry
          | _ => entry
    | some _ => none
    | none => (addEntry path value []).map fun inner => entries ++ [(name, .table inner true)]

namespace Parse

mutual

def value : Nat → Parse Value
  | 0 => failure
  | bound + 1 => do
    match ← next with
    | .quoted text _ => return .text (String.ofList text)
    | .word cs => wordValue cs
    | .mark '+' => number (← word)
    | .mark '[' => array bound []
    | .mark '\x7b' =>
      skipBlank
      if ← eat (.mark '\x7d') then return .table [] false
      inlineTable bound []
    | _ => failure

def array : Nat → List Value → Parse Value
  | 0, _ => failure
  | bound + 1, found => do
    skipAllLines
    if ← eat (.mark ']') then return .array found.reverse
    let element ← value bound
    skipAllLines
    if ← eat (.mark ',') then array bound (element :: found)
    else
      expect (.mark ']')
      return .array (element :: found).reverse

def inlineTable : Nat → Entries → Parse Value
  | 0, _ => failure
  | bound + 1, found => do
    let path ← dottedKey
    skipBlank
    expect (.mark '=')
    skipBlank
    let entry ← value bound
    let found ← lift (addEntry path entry found)
    skipBlank
    if ← eat (.mark '\x7d') then return .table found false
    expect (.mark ',')
    skipBlank
    inlineTable bound found

end

end Parse

inductive Line where
  | header (path : List String) (isArray : Bool)
  | entry (path : List String) (value : Value)

namespace Parse

def header : Parse Line := do
  let isArray ← eat (.mark '[')
  skipBlank
  let path ← dottedKey
  skipBlank
  expect (.mark ']')
  if isArray then expect (.mark ']')
  endOfLine
  return .header path isArray

def entry : Parse Line := do
  let path ← dottedKey
  skipBlank
  expect (.mark '=')
  skipBlank
  let entry ← value ((← get).length + 1)
  endOfLine
  return .entry path entry

def line : Parse Line := do
  if ← eat (.mark '[') then header else entry

def lines : Nat → Parse (List Line)
  | 0 => failure
  | bound + 1 => do
    skipAllLines
    if (← get).isEmpty then return []
    let first ← line
    return first :: (← lines bound)

end Parse

/--
A table under its header. Tables below it are kept apart from its own entries; a header with double
brackets makes a list of tables, of which later headers mean the last.
-/
inductive Section where
  | mk (isGiven isArray : Bool) (elements : List (Entries × List (String × Section)))

abbrev Sections := List (String × Section)

abbrev Body := Entries × Sections

def changeLast (change : Body → Option Body) : List Body → Option (List Body)
  | [] => none
  | [body] => (change body).map ([·])
  | body :: rest => (changeLast change rest).map (body :: ·)

def changeNamed (name : String) (change : Option Section → Option Section) :
    Sections → Option Sections
  | [] => (change none).map fun found => [(name, found)]
  | (other, found) :: rest =>
    if other = name then (change (some found)).map fun found => (name, found) :: rest
    else (changeNamed name change rest).map ((other, found) :: ·)

/-- What a header does to the tables of its name: no table is given twice. -/
def openSection (isArray : Bool) : Option Section → Option Section
  | none => some (.mk true isArray [([], [])])
  | some (.mk isGiven wasArray elements) =>
    if isArray then
      if wasArray then some (.mk true true (elements ++ [([], [])])) else none
    else if isGiven then none else some (.mk true false elements)

def changeAt (path : List String) (change : Body → Option Body) (body : Body) : Option Body :=
  match path with
  | [] => change body
  | name :: path =>
    (changeNamed name
      (fun found =>
        let (isGiven, isArray, elements) := match found with
          | some (.mk isGiven isArray elements) => (isGiven, isArray, elements)
          | none => (false, false, [([], [])])
        (changeLast (changeAt path change) elements).map (Section.mk isGiven isArray))
      body.2).map fun sections => (body.1, sections)

def openAt (path : List String) (isArray : Bool) (body : Body) : Option Body :=
  match path.getLast? with
  | none => none
  | some name =>
    changeAt path.dropLast
      (fun (entries, sections) =>
        (changeNamed name (openSection isArray) sections).map fun sections => (entries, sections))
      body

structure Draft where
  body : Body := ([], [])
  here : List String := []

def Draft.add (draft : Draft) : Line → Option Draft
  | .header path isArray => (openAt path isArray draft.body).map fun body => ⟨body, path⟩
  | .entry path value =>
    (changeAt draft.here
      (fun (entries, sections) =>
        (addEntry path value entries).map fun entries => (entries, sections))
      draft.body).map fun body => { draft with body }

def parse? (text : String) : Option Body := do
  let tokens ← tokens? text
  let (lines, _) ← (Parse.lines (tokens.length + 1)).run tokens
  let draft ← lines.foldlM Draft.add {}
  return draft.body

end MailExchange.Toml
