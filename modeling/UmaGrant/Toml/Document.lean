import UmaGrant.Toml.Scalar
import UmaGrant.Toml.Tables
import UmaGrant.Toml.Text
/-! # Documents of configuration files

A document is a sequence of headers and of keys with values, one to a line. Arrays and inline tables
may go over several lines and end in a comma. They nest up to 80 levels deep.
-/

namespace UmaGrant.Toml

mutual

/-- Reads a value in a place where `depth` more levels may be opened. -/
def value? : Nat → Nat → Reader Value
  | 0, _, _ => none
  | fuel + 1, depth, chars =>
    match chars with
    | '[' :: rest =>
      if depth = 0 then none
      else do
        let (items, rest) ← items? fuel (depth - 1) rest
        some (.array items, rest)
    | '\x7b' :: rest =>
      if depth = 0 then none
      else do
        let (entries, rest) ← inlineEntries? fuel (depth - 1) [] rest
        some (.table (Node.toEntries entries), rest)
    | first :: _ =>
      if first = '"' ∨ first = '\'' then
        (string? chars).map fun read => (.string read.1, read.2)
      else scalar? chars
    | [] => none

/-- Reads the items of an array up to its closing bracket. -/
def items? : Nat → Nat → Reader (List Value)
  | 0, _, _ => none
  | fuel + 1, depth, chars => do
    match ← skipLines? false chars with
    | ']' :: rest => some ([], rest)
    | other => do
      let (item, rest) ← value? fuel depth other
      match ← skipLines? false rest with
      | ']' :: rest => some ([item], rest)
      | ',' :: rest => do
        let (more, rest) ← items? fuel depth rest
        some (item :: more, rest)
      | _ => none

/-- Reads the entries of an inline table up to its closing brace, and adds them to those before. -/
def inlineEntries? : Nat → Nat → Entries → Reader Entries
  | 0, _, _, _ => none
  | fuel + 1, depth, before, chars => do
    match ← skipLines? false chars with
    | '\x7d' :: rest => some (before, rest)
    | other => do
      let (path, rest) ← path? other
      let rest ← after? '=' (← skipLines? false rest)
      let (value, rest) ← value? fuel depth (← skipLines? false rest)
      let entries ← Entries.add? path value before
      match ← skipLines? false rest with
      | '\x7d' :: rest => some (entries, rest)
      | ',' :: rest => inlineEntries? fuel depth entries rest
      | _ => none

end

/-- How many levels arrays and inline tables may nest. -/
def nestingLimit : Nat := 80

def keyValue? (chars : List Char) : Option ((List String × Value) × List Char) := do
  let (path, rest) ← path? chars
  let rest ← after? '=' (skipBlanks rest)
  let (value, rest) ← value? (2 * rest.length + 2) nestingLimit (skipBlanks rest)
  some ((path, value), rest)

/-- Reads lines after others, under the last header; at most `fuel` of them that are not empty. -/
def lines? (header : List String) (entries : Entries) : Nat → List Char → Option Entries
  | 0, _ => none
  | fuel + 1, chars => do
    match ← skipLines? false chars with
    | [] => some entries
    | '[' :: '[' :: rest => do
      let (path, rest) ← path? rest
      let rest ← after? ']' rest
      let rest ← after? ']' rest
      let rest ← finishLine? rest
      let entries ← Entries.openItem? path entries
      lines? path entries fuel rest
    | '[' :: rest => do
      let (path, rest) ← path? rest
      let rest ← after? ']' rest
      let rest ← finishLine? rest
      let entries ← Entries.openTable? path entries
      lines? path entries fuel rest
    | other => do
      let ((path, value), rest) ← keyValue? other
      let rest ← finishLine? rest
      let entries ← Entries.addUnder? header path value entries
      lines? header entries fuel rest

/-- The table that a document describes. A byte order mark in front of it does not count. -/
def parse? (text : String) : Option Value := do
  let chars :=
    match text.toList with
    | '\ufeff' :: rest => rest
    | other => other
  let entries ← lines? [] [] (chars.length + 1) chars
  some (.table (Node.toEntries entries))

end UmaGrant.Toml
