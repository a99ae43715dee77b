import UmaGrant.Text.Hex
import UmaGrant.Text.Obscure
/-! # Quoted text in messages

A message quotes a text between double quotes, with a backslash form for quotes, backslashes and
every character that would not show.
-/

namespace UmaGrant.Text

def quoteChar (char : Char) : List Char :=
  if char = '"' then ['\\', '"']
  else if char = '\\' then ['\\', '\\']
  else if char = '\n' then ['\\', 'n']
  else if char = '\r' then ['\\', 'r']
  else if char = '\t' then ['\\', 't']
  else if char = '\x00' then ['\\', '0']
  else if isObscure char then ['\\', 'u', '\x7b'] ++ Nat.toDigits 16 char.toNat ++ ['\x7d']
  else [char]

def quote (text : String) : String :=
  String.ofList ('"' :: text.toList.flatMap quoteChar ++ ['"'])

/-- The listing of a set of texts: each one quoted, between braces. -/
def quoteSet (texts : List String) : String :=
  "\x7b" ++ String.intercalate ", " (texts.map quote) ++ "\x7d"

end UmaGrant.Text
