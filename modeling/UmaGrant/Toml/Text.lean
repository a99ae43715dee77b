import UmaGrant.Text.Hex
/-! # Blanks and strings of configuration files

Readers take a prefix off the characters in front of them and fail otherwise; nobody asks why a
configuration file cannot be read.
-/

namespace UmaGrant.Toml

/-- A reader takes a value off the front of a text, or fails. -/
abbrev Reader (α : Type) := List Char → Option (α × List Char)

def isBlank (char : Char) : Bool := char = ' ' || char = '\t'

def skipBlanks (chars : List Char) : List Char := chars.dropWhile isBlank

/-- Whether a character may stand in a comment or a string: no control character but the tab. -/
def isPlain (char : Char) : Bool := char = '\t' || (0x20 ≤ char.toNat && char.toNat ≠ 0x7F)

/-- The text after a line end, if one is next. -/
def afterLineEnd? : List Char → Option (List Char)
  | '\n' :: rest => some rest
  | '\r' :: '\n' :: rest => some rest
  | _ => none

/-- The text after blanks, line ends and comments. -/
def skipLines? (inComment : Bool) : List Char → Option (List Char)
  | [] => some []
  | '\n' :: rest => skipLines? false rest
  | '\r' :: '\n' :: rest => skipLines? false rest
  | char :: rest =>
    if inComment then if isPlain char then skipLines? true rest else none
    else if isBlank char then skipLines? false rest
    else if char = '#' then skipLines? true rest
    else some (char :: rest)

/-- The text after the rest of a line, which may hold a comment and nothing else. -/
def finishLine? (chars : List Char) : Option (List Char) :=
  match skipBlanks chars with
  | [] => some []
  | '#' :: rest =>
    match rest.dropWhile isPlain with
    | [] => some []
    | other => afterLineEnd? other
  | other => afterLineEnd? other

/-- The character of so many hexadecimal digits. -/
def hexChar? (count : Nat) (chars : List Char) : Option (Char × List Char) := do
  let digits := chars.take count
  if digits.length = count then
    let code ← Hex.toNat? digits
    if code.isValidChar then some (Char.ofNat code, chars.drop count) else none
  else none

/-- Reads the character of an escape, of which the backslash is read. -/
def escape? : Reader Char
  | 'b' :: rest => some ('\x08', rest)
  | 't' :: rest => some ('\t', rest)
  | 'n' :: rest => some ('\n', rest)
  | 'f' :: rest => some ('\x0c', rest)
  | 'r' :: rest => some ('\r', rest)
  | 'e' :: rest => some ('\x1b', rest)
  | '"' :: rest => some ('"', rest)
  | '\\' :: rest => some ('\\', rest)
  | 'x' :: rest => hexChar? 2 rest
  | 'u' :: rest => hexChar? 4 rest
  | 'U' :: rest => hexChar? 8 rest
  | _ => none

/-- Reads a string between double quotes, of which the first is read; at most `fuel` characters. -/
def basicRest? : Nat → Reader (List Char)
  | 0, _ => none
  | _ + 1, [] => none
  | fuel + 1, char :: rest =>
    if char = '"' then some ([], rest)
    else if char = '\\' then do
      let (escaped, rest) ← escape? rest
      let (text, rest) ← basicRest? fuel rest
      some (escaped :: text, rest)
    else if isPlain char then do
      let (text, rest) ← basicRest? fuel rest
      some (char :: text, rest)
    else none

/-- Reads a string between single quotes, of which the first is read. -/
def literalRest? : Reader (List Char)
  | [] => none
  | char :: rest =>
    if char = '\'' then some ([], rest)
    else if isPlain char then do
      let (text, rest) ← literalRest? rest
      some (char :: text, rest)
    else none

/-- The text after the end of a string of several lines, and what of the quotes at its end belongs
to it: up to two in front of the three that close it. -/
def closing? (quote : Char) (chars : List Char) : Option (List Char × List Char) :=
  let quotes := (chars.take 5).takeWhile (· = quote)
  if 3 ≤ quotes.length then some (quotes.drop 3, chars.drop quotes.length) else none

/-- The text after a backslash at the end of a line, with all blanks and line ends after it. -/
def continueLine? (chars : List Char) : Option (List Char) := do
  let next ← afterLineEnd? (skipBlanks chars)
  let rec skip : List Char → List Char
    | '\r' :: '\n' :: rest => skip rest
    | char :: rest => if isBlank char || char = '\n' then skip rest else char :: rest
    | [] => []
  some (skip next)

/-- Reads the lines of a string between three double quotes; at most `fuel` characters. -/
def basicLines? : Nat → Reader (List Char)
  | 0, _ => none
  | _ + 1, [] => none
  | fuel + 1, char :: rest =>
    match closing? '"' (char :: rest) with
    | some closed => some closed
    | none =>
      if char = '\\' then
        match continueLine? rest with
        | some rest => basicLines? fuel rest
        | none => do
          let (escaped, rest) ← escape? rest
          let (text, rest) ← basicLines? fuel rest
          some (escaped :: text, rest)
      else if isPlain char || (afterLineEnd? (char :: rest)).isSome then do
        let (text, rest) ← basicLines? fuel rest
        some (char :: text, rest)
      else none

/-- Reads the lines of a string between three single quotes. -/
def literalLines? : Reader (List Char)
  | [] => none
  | char :: rest =>
    match closing? '\'' (char :: rest) with
    | some closed => some closed
    | none =>
      if isPlain char || (afterLineEnd? (char :: rest)).isSome then do
        let (text, rest) ← literalLines? rest
        some (char :: text, rest)
      else none

/-- The text without a line end in front. -/
def dropLineEnd (chars : List Char) : List Char := (afterLineEnd? chars).getD chars

/-- Reads a string of either kind, on one line or on several. -/
def string? (chars : List Char) : Option (String × List Char) := do
  let (text, rest) ←
    match chars with
    | '"' :: '"' :: '"' :: rest => basicLines? (rest.length + 1) (dropLineEnd rest)
    | '\'' :: '\'' :: '\'' :: rest => literalLines? (dropLineEnd rest)
    | '"' :: rest => basicRest? (rest.length + 1) rest
    | '\'' :: rest => literalRest? rest
    | _ => none
  some (String.ofList text, rest)

/-- Whether a character may stand in a key without quotes. -/
def isBareKeyChar (char : Char) : Bool := char.isAlphanum || char = '_' || char = '-'

/-- Reads a key, with or without quotes. -/
def simpleKey? (chars : List Char) : Option (String × List Char) :=
  match chars with
  | '"' :: rest => (basicRest? (rest.length + 1) rest).map fun read => (String.ofList read.1, read.2)
  | '\'' :: rest => (literalRest? rest).map fun read => (String.ofList read.1, read.2)
  | other =>
    let key := other.takeWhile isBareKeyChar
    if key.isEmpty then none else some (String.ofList key, other.drop key.length)

/-- Reads keys with dots between them; at most `fuel`. -/
def dottedKey? : Nat → Reader (List String)
  | 0, _ => none
  | fuel + 1, chars => do
    let (key, rest) ← simpleKey? (skipBlanks chars)
    match skipBlanks rest with
    | '.' :: rest => do
      let (more, rest) ← dottedKey? fuel rest
      some (key :: more, rest)
    | other => some ([key], other)

def path? (chars : List Char) : Option (List String × List Char) :=
  dottedKey? (chars.length + 1) chars

end UmaGrant.Toml
