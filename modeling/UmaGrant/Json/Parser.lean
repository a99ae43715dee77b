import UmaGrant.Json.Value
import UmaGrant.Text.Hex
import UmaGrant.Text.Utf8
/-! # Reading JSON text

Readers take a prefix off the characters in front of them. One that cannot go on says what it met
and where it stood; `parse` turns that into a line and a column. Columns count bytes.

Nesting is limited: a value may lie in at most 127 arrays and objects.
-/

namespace UmaGrant.JsonText

/-- What keeps a text from being JSON. -/
inductive Defect where
  | endInValue
  | endInList
  | endInObject
  | endInString
  | expectedValue
  | expectedIdentifier
  | expectedColon
  | expectedListEnd
  | expectedObjectEnd
  | nameNotString
  | trailingComma
  | trailingCharacters
  | invalidNumber
  | numberOutOfRange
  | invalidEscape
  | controlCharacter
  | loneSurrogate
  | endOfEscape
  | invalidCodePoint
  | nestingLimit
  /-- The text is JSON and its content is refused. -/
  | content (complaint : String)
deriving DecidableEq, Repr

def Defect.message : Defect → String
  | .endInValue => "EOF while parsing a value"
  | .endInList => "EOF while parsing a list"
  | .endInObject => "EOF while parsing an object"
  | .endInString => "EOF while parsing a string"
  | .expectedValue => "expected value"
  | .expectedIdentifier => "expected ident"
  | .expectedColon => "expected `:`"
  | .expectedListEnd => "expected `,` or `]`"
  | .expectedObjectEnd => "expected `,` or `\x7d`"
  | .nameNotString => "key must be a string"
  | .trailingComma => "trailing comma"
  | .trailingCharacters => "trailing characters"
  | .invalidNumber => "invalid number"
  | .numberOutOfRange => "number out of range"
  | .invalidEscape => "invalid escape"
  | .controlCharacter => "control character (\\u0000-\\u001F) found while parsing a string"
  | .loneSurrogate => "lone leading surrogate in hex escape"
  | .endOfEscape => "unexpected end of hex escape"
  | .invalidCodePoint => "invalid unicode code point"
  | .nestingLimit => "recursion limit exceeded"
  | .content complaint => complaint

/-- Where reading stopped: the characters not yet read, and how many bytes of them the stop has
gone past. -/
structure Stop where
  defect : Defect
  rest : List Char
  past : Nat
deriving DecidableEq, Repr

/-- A reader takes a value off the front of a text. -/
abbrev Reader (α : Type) := List Char → Except Stop (α × List Char)

/-- Stops in front of the rest. -/
def stopAt {α : Type} (defect : Defect) (rest : List Char) : Except Stop α :=
  .error ⟨defect, rest, 0⟩

/-- Stops past the first byte of the rest, if there is one. -/
def stopAfter {α : Type} (defect : Defect) (rest : List Char) : Except Stop α :=
  .error ⟨defect, rest, if rest.isEmpty then 0 else 1⟩

def isBlank (char : Char) : Bool := char = ' ' || char = '\n' || char = '\t' || char = '\r'

def skipBlanks (chars : List Char) : List Char := chars.dropWhile isBlank

def literal {α : Type} (value : α) : List Char → Reader α
  | [], chars => .ok (value, chars)
  | _ :: _, [] => stopAt .endInValue []
  | expected :: more, char :: rest =>
    if char = expected then literal value more rest
    else stopAfter .expectedIdentifier (char :: rest)

/-! ## Strings -/

/-- Reads four hexadecimal digits. They are four bytes, whatever characters those are part of. -/
def fourDigits : Reader Nat
  | chars =>
    if Utf8.size chars < 4 then stopAt .endInString []
    else
      match chars with
      | a :: b :: c :: d :: rest =>
        match Hex.toNat? [a, b, c, d] with
        | some code => .ok (code, rest)
        | none => .error ⟨.invalidEscape, chars, 4⟩
      | _ => .error ⟨.invalidEscape, chars, 4⟩

/-- Whether a code is the first half of a surrogate pair. -/
def isLeadingHalf (code : Nat) : Bool := 0xD800 ≤ code && code ≤ 0xDBFF

/-- Whether a code is the second half of a surrogate pair. -/
def isTrailingHalf (code : Nat) : Bool := 0xDC00 ≤ code && code ≤ 0xDFFF

/-- Reads the character of a `\u` escape, of which the `\u` is read. A first half of a pair must
be followed by the escape of a second half. -/
def unicodeEscape : Reader Char
  | chars => do
    let (code, rest) ← fourDigits chars
    if isTrailingHalf code then stopAt .loneSurrogate rest
    else if isLeadingHalf code then
      match rest with
      | [] => stopAt .endInString []
      | '\\' :: rest =>
        match rest with
        | [] => stopAt .endInString []
        | 'u' :: rest => do
          let (second, rest) ← fourDigits rest
          if isTrailingHalf second then
            .ok (Char.ofNat ((code - 0xD800) * 1024 + (second - 0xDC00) + 0x10000), rest)
          else stopAt .loneSurrogate rest
        | other => stopAfter .endOfEscape other
      | other => stopAfter .endOfEscape other
    else .ok (Char.ofNat code, rest)

/-- Reads the character of an escape, of which the backslash is read. -/
def escape : Reader Char
  | [] => stopAt .endInString []
  | char :: rest =>
    match char with
    | '"' => .ok ('"', rest)
    | '\\' => .ok ('\\', rest)
    | '/' => .ok ('/', rest)
    | 'b' => .ok ('\x08', rest)
    | 'f' => .ok ('\x0c', rest)
    | 'n' => .ok ('\n', rest)
    | 'r' => .ok ('\r', rest)
    | 't' => .ok ('\t', rest)
    | 'u' => unicodeEscape rest
    | _ => stopAfter .invalidEscape (char :: rest)

/-- Reads the characters of a string up to its closing quote, at most `fuel` of them. -/
def stringBody : Nat → Reader (List Char)
  | 0, rest => stopAt .endInString rest
  | _ + 1, [] => stopAt .endInString []
  | fuel + 1, char :: rest =>
    if char = '"' then .ok ([], rest)
    else if char = '\\' then do
      let (escaped, rest) ← escape rest
      let (text, rest) ← stringBody fuel rest
      .ok (escaped :: text, rest)
    else if char.toNat < 0x20 then stopAfter .controlCharacter (char :: rest)
    else do
      let (text, rest) ← stringBody fuel rest
      .ok (char :: text, rest)

/-- Reads a string of which the opening quote is read. -/
def stringRest : Reader String
  | chars => do
    let (text, rest) ← stringBody (chars.length + 1) chars
    .ok (String.ofList text, rest)

/-! ## Numbers -/

def digitValue (char : Char) : Nat := char.toNat - '0'.toNat

/-- Adds the leading digits of a text to a significand for as long as it stays below `2 ^ 64`;
also says how many were added. -/
def addDigits (significand count : Nat) : List Char → Nat × Nat × List Char
  | [] => (significand, count, [])
  | char :: rest =>
    if char.isDigit ∧ significand * 10 + digitValue char < Nat.pow 2 64 then
      addDigits (significand * 10 + digitValue char) (count + 1) rest
    else (significand, count, char :: rest)

/-- Drops the leading digits of a text; also says how many. -/
def dropDigits (count : Nat) : List Char → Nat × List Char
  | [] => (count, [])
  | char :: rest => if char.isDigit then dropDigits (count + 1) rest else (count, char :: rest)

/-- Scales a number by a power of ten: by one rounded power where it is within range, else in
steps of `10 ^ 308`, which are at most `steps`. -/
def scaleByTens (exponent : Int) (number : Double) : Nat → Option Double
  | 0 => some number
  | steps + 1 =>
    if exponent.natAbs ≤ 308 then do
      let power ← Double.ofQuotient? false (Nat.pow 10 exponent.natAbs) 1
      if 0 ≤ exponent then number.mul? power else number.div? power
    else if number.significand = 0 then some number
    else if 0 ≤ exponent then none
    else do
      let power ← Double.ofQuotient? false (Nat.pow 10 308) 1
      let smaller ← number.div? power
      scaleByTens (exponent + 308) smaller steps

/-- The number `± significand · 10 ^ exponent`, by rounding the significand, the power and the
result each to a double. -/
def scaledNumber (negative : Bool) (significand : Nat) (exponent : Int) (rest : List Char) :
    Except Stop (Number × List Char) :=
  match (Double.ofQuotient? negative significand 1).bind (scaleByTens exponent · 4) with
  | some number => .ok (.double number, rest)
  | none => stopAt .numberOutOfRange rest

/-- Adds the digits of an exponent. One of more than 31 bits is out of range at once, unless the
number is zero or the exponent negative: then the number is zero. -/
def exponentDigits (negative : Bool) (significand : Nat) (start : Int) (down : Bool)
    (exponent : Nat) : List Char → Except Stop (Number × List Char)
  | [] => scaledNumber negative significand (if down then start - exponent else start + exponent) []
  | char :: rest =>
    if char.isDigit then
      let longer := exponent * 10 + digitValue char
      if longer < Nat.pow 2 31 then exponentDigits negative significand start down longer rest
      else if significand ≠ 0 ∧ !down then stopAt .numberOutOfRange rest
      else .ok (.double (.zero negative), (dropDigits 0 rest).2)
    else scaledNumber negative significand (if down then start - exponent else start + exponent)
      (char :: rest)

/-- Reads an exponent, of which the `e` is read. -/
def exponentPart (negative : Bool) (significand : Nat) (start : Int) (chars : List Char) :
    Except Stop (Number × List Char) :=
  let (down, chars) :=
    match chars with
    | '+' :: rest => (false, rest)
    | '-' :: rest => (true, rest)
    | other => (false, other)
  match chars with
  | [] => stopAt .endInValue []
  | char :: rest =>
    if char.isDigit then exponentDigits negative significand start down (digitValue char) rest
    else stopAfter .invalidNumber (char :: rest)

/-- Reads what may follow the digits of a number with a fraction or of a long whole number. -/
def afterDigits (negative : Bool) (significand : Nat) (exponent : Int) (chars : List Char) :
    Except Stop (Number × List Char) :=
  match chars with
  | 'e' :: rest | 'E' :: rest => exponentPart negative significand exponent rest
  | other => scaledNumber negative significand exponent other

/-- Reads a fraction, of which the point is read. Digits that the significand cannot take are
dropped. -/
def fractionPart (negative : Bool) (significand : Nat) (start : Int) (chars : List Char) :
    Except Stop (Number × List Char) :=
  let (longer, count, rest) := addDigits significand 0 chars
  let (dropped, rest) := dropDigits 0 rest
  if count + dropped = 0 then
    match rest with
    | [] => stopAt .endInValue []
    | other => stopAfter .invalidNumber other
  else afterDigits negative longer (start - count) rest

/-- Reads what follows the first digits of a number. -/
def afterWhole (negative : Bool) (significand : Nat) (chars : List Char) :
    Except Stop (Number × List Char) :=
  match chars with
  | '.' :: rest => fractionPart negative significand 0 rest
  | 'e' :: rest | 'E' :: rest => exponentPart negative significand 0 rest
  | other =>
    if !negative then .ok (.integer significand, other)
    else if significand = 0 ∨ Nat.pow 2 63 < significand then
      scaledNumber true significand 0 other
    else .ok (.integer (-significand), other)

/-- Reads a number, of which a minus sign is read. -/
def number (negative : Bool) : Reader Number
  | [] => stopAt .endInValue []
  | char :: rest =>
    if char = '0' then
      match rest with
      | next :: _ =>
        if next.isDigit then stopAfter .invalidNumber rest else afterWhole negative 0 rest
      | [] => afterWhole negative 0 []
    else if char.isDigit then
      let (significand, _, rest) := addDigits (digitValue char) 0 rest
      let (dropped, rest) := dropDigits 0 rest
      if dropped = 0 then afterWhole negative significand rest
      else
        match rest with
        | '.' :: rest => fractionPart negative significand dropped rest
        | other => afterDigits negative significand dropped other
    else stopAfter .invalidNumber (char :: rest)

/-! ## Values -/

mutual

/-- Reads a value in a place where `depth` more levels may be opened. -/
def value : Nat → Nat → Reader Json
  | 0, _, chars => stopAt .endInValue chars
  | fuel + 1, depth, chars =>
    match skipBlanks chars with
    | [] => stopAt .endInValue []
    | char :: rest =>
      match char with
      | 'n' => literal .null ['u', 'l', 'l'] rest
      | 't' => literal (.bool true) ['r', 'u', 'e'] rest
      | 'f' => literal (.bool false) ['a', 'l', 's', 'e'] rest
      | '-' => do
        let (amount, rest) ← number true rest
        .ok (.number amount, rest)
      | '"' => do
        let (text, rest) ← stringRest rest
        .ok (.string text, rest)
      | '[' =>
        if depth ≤ 1 then stopAfter .nestingLimit (char :: rest)
        else
          match skipBlanks rest with
          | [] => stopAt .endInList []
          | ']' :: rest => .ok (.array [], rest)
          | other => do
            let (items, rest) ← items fuel (depth - 1) other
            .ok (.array items, rest)
      | '\x7b' =>
        if depth ≤ 1 then stopAfter .nestingLimit (char :: rest)
        else
          match skipBlanks rest with
          | [] => stopAt .endInObject []
          | '\x7d' :: rest => .ok (.object [], rest)
          | other => do
            let (found, rest) ← members fuel (depth - 1) other
            .ok (.object (Dict.ofList found).entries, rest)
      | char =>
        if char.isDigit then do
          let (amount, rest) ← number false (char :: rest)
          .ok (.number amount, rest)
        else stopAfter .expectedValue (char :: rest)

/-- Reads one item or more and the closing bracket. -/
def items : Nat → Nat → Reader (List Json)
  | 0, _, chars => stopAt .endInList chars
  | fuel + 1, depth, chars => do
    let (item, rest) ← value fuel depth chars
    match skipBlanks rest with
    | [] => stopAt .endInList []
    | ']' :: rest => .ok ([item], rest)
    | ',' :: rest =>
      match skipBlanks rest with
      | [] => stopAt .endInValue []
      | ']' :: rest => stopAfter .trailingComma (']' :: rest)
      | other => do
        let (more, rest) ← items fuel depth other
        .ok (item :: more, rest)
    | other => stopAfter .expectedListEnd other

/-- Reads one member or more and the closing brace. Names may be written more than once. -/
def members : Nat → Nat → Reader (List (String × Json))
  | 0, _, chars => stopAt .endInObject chars
  | fuel + 1, depth, chars =>
    match chars with
    | '"' :: rest => do
      let (name, rest) ← stringRest rest
      match skipBlanks rest with
      | [] => stopAt .endInObject []
      | ':' :: rest => do
        let (member, rest) ← value fuel depth rest
        match skipBlanks rest with
        | [] => stopAt .endInObject []
        | '\x7d' :: rest => .ok ([(name, member)], rest)
        | ',' :: rest =>
          match skipBlanks rest with
          | [] => stopAt .endInValue []
          | '\x7d' :: rest => stopAfter .trailingComma ('\x7d' :: rest)
          | '"' :: rest => do
            let (more, rest) ← members fuel depth ('"' :: rest)
            .ok ((name, member) :: more, rest)
          | other => stopAfter .nameNotString other
        | other => stopAfter .expectedObjectEnd other
      | other => stopAfter .expectedColon other
    | other => stopAfter .nameNotString other

end

/-- How many levels a text may open, less one. -/
def nestingLimit : Nat := 128

/-- Enough fuel for any value in a text. -/
def fuelFor (chars : List Char) : Nat := 2 * chars.length + 2

/-- Reads a value at the front of a text, or of what is left of it after `opened` levels. -/
def leadingValue (opened : Nat) : Reader Json
  | chars => value (fuelFor chars) (nestingLimit - opened) chars

/-- Reads the members of an object of which the brace is read; with it `opened` levels are open. -/
def leadingMembers (opened : Nat) : Reader (List (String × Json))
  | chars =>
    match skipBlanks chars with
    | [] => stopAt .endInObject []
    | '\x7d' :: rest => .ok ([], rest)
    | other => members (fuelFor other) (nestingLimit - opened) other

/-- Reads the blanks that may end a text. -/
def endOfText (chars : List Char) : Except Stop Unit :=
  match skipBlanks chars with
  | [] => .ok ()
  | other => stopAfter .trailingCharacters other

/-! ## Whole texts -/

/-- A defect at a place of a text: lines from one, columns in bytes. -/
structure TextError where
  defect : Defect
  line : Nat
  column : Nat
deriving DecidableEq, Repr

def TextError.message (error : TextError) : String :=
  error.defect.message ++ " at line " ++ toString error.line ++ " column " ++ toString error.column

/-- The line and the column after `bytes` bytes of a text, from a line and column on. -/
def place (line column bytes : Nat) : List Char → Nat × Nat
  | [] => (line, column)
  | char :: rest =>
    if bytes < Utf8.width char ∨ bytes = 0 then (line, column + bytes)
    else if char = '\n' then place (line + 1) 0 (bytes - 1) rest
    else place line (column + Utf8.width char) (bytes - Utf8.width char) rest

/-- How many bytes of a text lie before a stop. -/
def Stop.offset (stop : Stop) (text : List Char) : Nat :=
  Utf8.size text - Utf8.size stop.rest + stop.past

/-- The error of a stop while reading a text. -/
def Stop.inText (stop : Stop) (text : List Char) : TextError :=
  let (line, column) := place 1 0 (stop.offset text) text
  ⟨stop.defect, line, column⟩

/-- Reads a text up to its end. -/
def whole {α : Type} (reader : Reader α) (text : List Char) : Except Stop α := do
  let (result, rest) ← reader text
  endOfText rest
  .ok result

/-- The outcome of reading a whole text. -/
def readAll {α : Type} (reader : Reader α) (text : List Char) : Except TextError α :=
  (whole reader text).mapError (·.inText text)

/-- Where a string with a stray byte is refused, given the text from that byte on: its rest after
the closing quote, and how many bytes the refusal stands in front of that, which are as many as the
characters from the stray byte on take when they are read. -/
def strayString? (stray : List Char) : Option (List Char × Nat) :=
  match stringBody (stray.length + 1) stray with
  | .ok (read, rest) => some (rest, Utf8.size read)
  | .error _ => none

/-- The outcome of reading bytes that should be a text. A byte that belongs to no character may
stand only in a string, like a delete character, and the string is refused as soon as its end is
found. -/
def readBytes {α : Type} (reader : Reader α) (bytes : List UInt8) : Except TextError α :=
  let found := Utf8.scan bytes
  let text := found.map (·.getD '\x7f')
  let stray := (found.dropWhile Option.isSome).map (·.getD '\x7f')
  match strayString? stray with
  | none => readAll reader text
  | some (rest, back) =>
    let closed := Utf8.size text - Utf8.size rest
    let (line, column) := place 1 0 (closed - back) text
    let refusal : TextError := ⟨.invalidCodePoint, line, column⟩
    match whole reader text with
    | .error stop => if stop.offset text < closed then .error (stop.inText text) else .error refusal
    | .ok _ => .error refusal

/-- The value that a text holds. -/
def parse (text : String) : Except TextError Json := readAll (leadingValue 0) text.toList

end UmaGrant.JsonText
