import UmaGrant.Toml.Value
/-! # Tables under construction

The tables of a document grow header by header and key by key. A table remembers how it came to be,
since that decides how it may grow: a table with a header of its own does not get another one, keys
with dots add only to tables that such keys have made, and a written value does not grow at all.
-/

namespace UmaGrant.Toml

/-- How a table came to be. -/
inductive Origin where
  /-- By a header of its own. -/
  | header
  /-- As a table above one with a header. -/
  | above
  /-- By a key with dots. -/
  | dotted
deriving DecidableEq, Repr

/-- A value of a document under construction. -/
inductive Node where
  /-- A written value, which is complete. -/
  | leaf (value : Value)
  | table (origin : Origin) (entries : List (String × Node))
  /-- An array of tables, of which the last one grows. -/
  | tables (before : List Value) (last : List (String × Node))

abbrev Entries := List (String × Node)

mutual

def Node.toValue : Node → Value
  | leaf value => value
  | table _ entries => .table (Node.toEntries entries)
  | tables before last => .array (before ++ [.table (Node.toEntries last)])

def Node.toEntries : Entries → List (String × Value)
  | [] => []
  | (name, node) :: rest => (name, Node.toValue node) :: Node.toEntries rest

end

namespace Entries

def find? (key : String) : Entries → Option Node
  | [] => none
  | (name, node) :: rest => if name = key then some node else find? key rest

/-- Puts a node under a key, in place of what is there. -/
def put (key : String) (node : Node) : Entries → Entries
  | [] => [(key, node)]
  | (name, old) :: rest =>
    if name = key then (key, node) :: rest else (name, old) :: put key node rest

/-- Changes the table at the end of a path, making the tables on the way. `step` is the origin of
tables that are made, and `origin` that of the table at hand. -/
def change? (step : Origin) (update : Origin → Entries → Option Entries) (origin : Origin) :
    List String → Entries → Option Entries
  | [], entries => update origin entries
  | key :: path, entries =>
    match find? key entries with
    | none => do
      let inner ← change? step update step path []
      some (put key (.table step inner) entries)
    | some (.table inside inner) =>
      if step = .dotted ∧ inside = .header then none
      else do
        let inner ← change? step update inside path inner
        some (put key (.table inside inner) entries)
    | some (.tables before last) => do
      let last ← change? step update .header path last
      some (put key (.tables before last) entries)
    | some (.leaf _) => none

/-- Adds a value under a new key of a table. -/
def addHere? (path : List String) (key : String) (value : Value) (origin : Origin)
    (entries : Entries) : Option Entries :=
  if (!path.isEmpty && origin ≠ .dotted) || (find? key entries).isSome then none
  else some (put key (.leaf value) entries)

/-- The last key of a path and those before it. -/
def splitLast? : List String → Option (List String × String)
  | [] => none
  | [key] => some ([], key)
  | key :: rest => (splitLast? rest).map fun split => (key :: split.1, split.2)

/-- Adds a value under a key that may have dots. -/
def add? (path : List String) (value : Value) (entries : Entries) : Option Entries := do
  let (above, key) ← splitLast? path
  change? .dotted (addHere? above key value) .header above entries

/-- Adds a value in the table of a header. -/
def addUnder? (header path : List String) (value : Value) (entries : Entries) : Option Entries :=
  change? .above (fun _ table => add? path value table) .header header entries

/-- Opens the table of a header. -/
def openTable? (header : List String) (entries : Entries) : Option Entries := do
  let (above, key) ← splitLast? header
  let update (_ : Origin) (table : Entries) : Option Entries :=
    match find? key table with
    | none => some (put key (.table .header []) table)
    | some (.table .above inner) => some (put key (.table .header inner) table)
    | some _ => none
  change? .above update .header above entries

/-- Opens a further table of an array of tables. -/
def openItem? (header : List String) (entries : Entries) : Option Entries := do
  let (above, key) ← splitLast? header
  let update (_ : Origin) (table : Entries) : Option Entries :=
    match find? key table with
    | none => some (put key (.tables [] []) table)
    | some (.tables before last) =>
      some (put key (.tables (before ++ [.table (Node.toEntries last)]) []) table)
    | some _ => none
  change? .above update .header above entries

end Entries

end UmaGrant.Toml
