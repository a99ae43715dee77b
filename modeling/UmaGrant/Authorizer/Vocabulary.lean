import UmaGrant.Claim
/-! # The vocabulary of a policy engine

A policy engine has names of its own for what the server calls scopes. A vocabulary pairs scopes
with actions, one to one: adding a pair dissolves the pairs that either side was in before.
-/

namespace UmaGrant

/-- Pairs of scopes and actions. -/
structure Vocabulary where
  /-- The action of each scope. -/
  actions : Dict String
  /-- The scope of each action. -/
  scopes : Dict String
deriving DecidableEq, Repr

namespace Vocabulary

def empty : Vocabulary := ⟨.empty, .empty⟩

def pair (vocabulary : Vocabulary) (scope action : String) : Vocabulary :=
  let freed :=
    match vocabulary.actions.get? scope with
    | some old => vocabulary.scopes.erase old
    | none => vocabulary.scopes
  let actions := vocabulary.actions.insert scope action
  let actions :=
    match freed.get? action with
    | some old => if old = scope then actions else actions.erase old
    | none => actions
  ⟨actions, freed.insert action scope⟩

def pairAll (vocabulary : Vocabulary) (pairs : List (String × String)) : Vocabulary :=
  pairs.foldl (fun grown entry => grown.pair entry.1 entry.2) vocabulary

def action? (vocabulary : Vocabulary) (scope : String) : Option String :=
  vocabulary.actions.get? scope

def scope? (vocabulary : Vocabulary) (action : String) : Option String :=
  vocabulary.scopes.get? action

/-- What the names of actions in the ODRL vocabulary start with. -/
def odrlBase : String := "http://www.w3.org/ns/odrl/2/"

/-- The ODRL actions for the modes of access to a resource. -/
def odrl : Vocabulary :=
  empty.pairAll
    [(Scope.read, odrlBase ++ "read"), (Scope.append, odrlBase ++ "append"),
      (Scope.create, odrlBase ++ "create"), (Scope.delete, odrlBase ++ "delete"),
      (Scope.write, odrlBase ++ "write")]

end Vocabulary

end UmaGrant
