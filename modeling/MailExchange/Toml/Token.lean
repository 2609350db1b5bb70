namespace MailExchange.Toml

inductive Token where
  | blank (text : List Char)
  | newline
  | comment
  /-- One of the characters `= . , : + [ ]` or a brace. -/
  | mark (c : Char)
  | word (text : List Char)
  | quoted (value : List Char) (manyLines : Bool)
  deriving DecidableEq, Repr

def foldLineEnds (cs : List Char) : List Char :=
  let folded := cs.foldr
    (fun c (rest, next) =>
      (if c = '\r' ∧ next = some '\n' then rest else c :: rest, some c))
    (([] : List Char), none)
  folded.1

def isWordChar (c : Char) : Bool :=
  decide ('a' ≤ c ∧ c ≤ 'z' ∨ 'A' ≤ c ∧ c ≤ 'Z' ∨ '0' ≤ c ∧ c ≤ '9' ∨ c = '-' ∨ c = '_')

def isMark (c : Char) : Bool := "=.,:+[]\x7b\x7d".toList.contains c

def isSpace (c : Char) : Bool := c == ' ' || c == '\t'

def isSpaceOrLine (c : Char) : Bool := isSpace c || c == '\n'

def isCommentChar (c : Char) : Bool := decide (c = '\t' ∨ ' ' ≤ c)

def isTextChar (c : Char) : Bool := isCommentChar c && c != '\x7f'

def hexDigit? (c : Char) : Option Nat :=
  if '0' ≤ c ∧ c ≤ '9' then some (c.toNat - '0'.toNat)
  else if 'a' ≤ c ∧ c ≤ 'f' then some (c.toNat - 'a'.toNat + 10)
  else if 'A' ≤ c ∧ c ≤ 'F' then some (c.toNat - 'A'.toNat + 10)
  else none

def codeEscape? (count : Nat) (cs : List Char) : Option (Char × List Char) :=
  let digits := cs.take count
  match digits.mapM hexDigit? with
  | none => none
  | some values =>
    let code := values.foldl (fun code value => code * 16 + value) 0
    if digits.length = count ∧ code.isValidChar then some (Char.ofNat code, cs.drop count) else none

/-- The text after a line that ends in a backslash. Blanks may follow the backslash. -/
def continued? (cs : List Char) : Option (List Char) :=
  match cs.dropWhile isSpace with
  | '\n' :: rest => some (rest.dropWhile isSpaceOrLine)
  | [] => some []
  | _ => none

def escape? (manyLines : Bool) : List Char → Option (List Char × List Char)
  | [] => none
  | c :: rest =>
    match c with
    | '"' => some (['"'], rest)
    | '\\' => some (['\\'], rest)
    | 'b' => some (['\x08'], rest)
    | 'f' => some (['\x0c'], rest)
    | 'n' => some (['\n'], rest)
    | 'r' => some (['\r'], rest)
    | 't' => some (['\t'], rest)
    | 'u' => (codeEscape? 4 rest).map fun (code, rest) => ([code], rest)
    | 'U' => (codeEscape? 8 rest).map fun (code, rest) => ([code], rest)
    | _ =>
      if manyLines && isSpaceOrLine c then (continued? (c :: rest)).map fun rest => ([], rest)
      else none

/-- Up to two quotes that stand before the closing ones. -/
def lastQuotes (quote : Char) : List Char → List Char × List Char
  | a :: b :: rest =>
    if a ≠ quote then ([], a :: b :: rest)
    else if b ≠ quote then ([a], b :: rest)
    else ([a, b], rest)
  | [a] => if a = quote then ([a], []) else ([], [a])
  | [] => ([], [])

def scanQuoted (quote : Char) (manyLines : Bool) :
    Nat → List Char → List Char → Option (List Char × List Char)
  | 0, _, _ => none
  | _, _, [] => none
  | bound + 1, found, c :: rest =>
    if c = '\n' then
      if manyLines then scanQuoted quote manyLines bound ('\n' :: found) rest else none
    else if c = quote then
      if !manyLines then some (found.reverse, rest)
      else if rest.take 2 = [quote, quote] then
        let (last, rest) := lastQuotes quote (rest.drop 2)
        some (found.reverse ++ last, rest)
      else scanQuoted quote manyLines bound (c :: found) rest
    else if c = '\\' ∧ quote = '"' then
      match escape? manyLines rest with
      | some (meant, rest) => scanQuoted quote manyLines bound (meant.reverse ++ found) rest
      | none => none
    else if isTextChar c then scanQuoted quote manyLines bound (c :: found) rest
    else none

def quoted? (quote : Char) (cs : List Char) : Option (Token × List Char) :=
  let scan (manyLines : Bool) (cs : List Char) :=
    (scanQuoted quote manyLines (cs.length + 1) [] cs).map fun (value, rest) =>
      (Token.quoted value manyLines, rest)
  match cs with
  | a :: b :: rest =>
    if a = quote ∧ b = quote then
      match rest with
      | '\n' :: rest => scan true rest
      | _ => scan true rest
    else scan false cs
  | _ => scan false cs

def token? : List Char → Option (Token × List Char)
  | [] => none
  | c :: rest =>
    if c = '\n' then some (.newline, rest)
    else if isSpace c then some (.blank (c :: rest.takeWhile isSpace), rest.dropWhile isSpace)
    else if c = '#' then some (.comment, rest.dropWhile isCommentChar)
    else if isMark c then some (.mark c, rest)
    else if c = '"' ∨ c = '\'' then quoted? c rest
    else if isWordChar c then
      some (.word (c :: rest.takeWhile isWordChar), rest.dropWhile isWordChar)
    else none

def tokensWithin : Nat → List Char → Option (List Token)
  | _, [] => some []
  | 0, _ => none
  | bound + 1, cs =>
    match token? cs with
    | some (token, rest) => (tokensWithin bound rest).map (token :: ·)
    | none => none

/-- The tokens of a document, after a byte order mark if there is one. -/
def tokens? (text : String) : Option (List Token) :=
  let cs := foldLineEnds text.toList
  let cs := if cs.head? = some '\ufeff' then cs.drop 1 else cs
  tokensWithin cs.length cs

end MailExchange.Toml
