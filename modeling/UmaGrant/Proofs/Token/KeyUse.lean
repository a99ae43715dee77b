import UmaGrant.Token.Factory
/-! # What becomes of a ring of keys

A ring is shared by factories that issue and redeem tokens, and it is rotated now and then. Only a
rotation moves keys, each one place further from the front, and only issuing makes the key in front
remember more. So the keys of a ring are the latest of all that it ever had.
-/

namespace UmaGrant

/-- What may be done with a ring of keys. -/
inductive KeyUse where
  | rotate (number : Nat)
  | issue (tokens : SignedTokens) (now : Instant) (supply : Supply) (payload : AccessToken)
  | redeem (tokens : SignedTokens) (now : Instant) (token : String)

namespace KeyUse

/-- The number from which a rotation makes its key. -/
def rotation? : KeyUse → Option Nat
  | rotate number => some number
  | issue _ _ _ _ | redeem _ _ _ => none

/-- The numbers of the keys that come in turn. -/
def rotations (uses : List KeyUse) : List Nat := uses.filterMap rotation?

theorem rotations_append (before after : List KeyUse) :
    rotations (before ++ after) = rotations before ++ rotations after := List.filterMap_append

end KeyUse

namespace SigningKey

variable {scheme : SignatureScheme}

/-- Whether a key is the same one, which may have signed more in between. It verifies what it verified
before. -/
structure Grows (key : SigningKey) (scheme : SignatureScheme) (grown : SigningKey) : Prop where
  id : grown.id = key.id
  algorithm : grown.algorithm = key.algorithm
  numbers : grown.numbers = key.numbers
  verifies : ∀ {entry}, scheme.verifies key entry = true → scheme.verifies grown entry = true

theorem Grows.refl (key : SigningKey) : key.Grows scheme key := ⟨rfl, rfl, rfl, fun verified => verified⟩

theorem Grows.trans {first second third : SigningKey} (before : first.Grows scheme second)
    (after : second.Grows scheme third) : first.Grows scheme third :=
  ⟨after.id.trans before.id, after.algorithm.trans before.algorithm,
    after.numbers.trans before.numbers, fun verified => after.verifies (before.verifies verified)⟩

theorem Grows.toPublic {key grown : SigningKey} (grows : key.Grows scheme grown) :
    grown.toPublic = key.toPublic := by
  simp only [SigningKey.toPublic, grows.id, grows.algorithm, grows.numbers]

theorem grows_sign (key : SigningKey) (number : Nat) (text : List UInt8) :
    key.Grows scheme (key.sign scheme number text).2 :=
  ⟨rfl, rfl, rfl, scheme.verifies_onward key _ _⟩

/-- A key verifies what it has just signed. -/
theorem verifies_sign (key : SigningKey) (number : Nat) (text : List UInt8) :
    scheme.verifies (key.sign scheme number text).2 ⟨text, (key.sign scheme number text).1⟩ = true :=
  scheme.verifies_signed key number text

end SigningKey

namespace KeyRing

open KeyUse (rotations)

variable {ring : KeyRing}

/-- The ring of a factory that makes signed tokens. -/
def ofFactory (ring : KeyRing) : TokenFactory → KeyRing
  | .signed _ used => used
  | .reference _ => ring

/-- What a ring is once it was used. -/
def use (ring : KeyRing) : KeyUse → KeyRing
  | .rotate number => ring.rotate number
  | .issue tokens now supply payload =>
    match ((TokenFactory.signed tokens ring).issue now supply payload).1 with
    | some (_, factory) => ring.ofFactory factory
    | none => ring
  | .redeem tokens now token => ring.ofFactory ((TokenFactory.signed tokens ring).redeem now token).2

/-- What a ring is after uses in turn. -/
def after (ring : KeyRing) (uses : List KeyUse) : KeyRing := uses.foldl use ring

theorem after_append (ring : KeyRing) (before uses : List KeyUse) :
    ring.after (before ++ uses) = (ring.after before).after uses := List.foldl_append

/-! ## One use -/

/-- Redeeming a token leaves the keys alone. -/
theorem use_redeem (ring : KeyRing) (tokens : SignedTokens) (now : Instant) (token : String) :
    ring.use (.redeem tokens now token) = ring := rfl

/-- Issuing a token makes the current key sign its claims, if it has any. -/
theorem use_issue (ring : KeyRing) (tokens : SignedTokens) (now : Instant) (supply : Supply)
    (payload : AccessToken) :
    ring.use (.issue tokens now supply payload) =
      match tokens.claimsFor? now (Fresh.identifier supply.next) payload with
      | some claims => (SignedTokens.sign ring (supply.next + 1) claims).2
      | none => ring := by
  have issued : ((TokenFactory.signed tokens ring).issue now supply payload).1 =
      (tokens.issue? ring now supply.next (supply.next + 1) payload).map fun issued =>
        (issued.1, .signed tokens issued.2) := rfl
  rw [use, issued, SignedTokens.issue?]
  cases tokens.claimsFor? now (Fresh.identifier supply.next) payload <;> rfl

/-- A use either rotates the ring, or the key in front may grow and all else stays. -/
theorem use_cases (ring : KeyRing) (use : KeyUse) :
    (∃ number, use = .rotate number ∧ ring.use use =
      ⟨ring.scheme, ring.algorithm, ring.keep, .fresh ring.algorithm number,
        ring.keys.take ring.keep⟩) ∨
    use.rotation? = none ∧ ∃ grown, ring.current.Grows ring.scheme grown ∧
      ring.use use = { ring with current := grown } := by
  cases use with
  | rotate number => exact .inl ⟨number, rfl, rfl⟩
  | redeem tokens now token =>
    exact .inr ⟨rfl, ring.current, .refl _, ring.use_redeem tokens now token⟩
  | issue tokens now supply payload =>
    refine .inr ⟨rfl, ?_⟩
    rw [use_issue]
    cases tokens.claimsFor? now (Fresh.identifier supply.next) payload with
    | none => exact ⟨ring.current, .refl _, rfl⟩
    | some claims => exact ⟨_, ring.current.grows_sign _ _, rfl⟩

/-- Whether two rings are kept under the same terms. -/
structure SameTerms (ring other : KeyRing) : Prop where
  scheme : other.scheme = ring.scheme
  algorithm : other.algorithm = ring.algorithm
  keep : other.keep = ring.keep

theorem use_terms (ring : KeyRing) (use : KeyUse) : ring.SameTerms (ring.use use) := by
  rcases ring.use_cases use with ⟨number, -, used⟩ | ⟨-, grown, -, used⟩ <;> rw [used] <;>
    exact ⟨rfl, rfl, rfl⟩

/-! ## Many uses -/

theorem after_terms (ring : KeyRing) (uses : List KeyUse) : ring.SameTerms (ring.after uses) := by
  induction uses generalizing ring with
  | nil => exact ⟨rfl, rfl, rfl⟩
  | cons use rest ih =>
    have first := ring.use_terms use
    have others := ih (ring.use use)
    exact ⟨others.scheme.trans first.scheme, others.algorithm.trans first.algorithm,
      others.keep.trans first.keep⟩

/-- A key moves one place further with each rotation, for as long as the ring keeps it. -/
theorem grows_after {index : Nat} {key : SigningKey} (found : ring.keys[index]? = some key)
    {uses : List KeyUse} (kept : index + (rotations uses).length ≤ ring.keep) :
    ∃ grown, (ring.after uses).keys[index + (rotations uses).length]? = some grown ∧
      key.Grows ring.scheme grown := by
  induction uses generalizing ring index key with
  | nil => exact ⟨key, found, .refl key⟩
  | cons use rest ih =>
    obtain ⟨scheme, -, keep⟩ := ring.use_terms use
    rw [← scheme]
    rcases ring.use_cases use with ⟨number, rfl, used⟩ | ⟨still, grown, grows, used⟩
    · have count : index + (rotations (.rotate number :: rest)).length =
          index + 1 + (rotations rest).length := by
        change index + ((rotations rest).length + 1) = _
        omega
      rw [count] at kept ⊢
      rw [← keep] at kept
      refine ih ?_ kept
      rw [used, keys, List.getElem?_cons_succ, List.getElem?_take_of_lt (by omega)]
      exact found
    · have count : rotations (use :: rest) = rotations rest := List.filterMap_cons_none still
      rw [count] at kept ⊢
      rw [← keep] at kept
      cases index with
      | zero =>
        cases found
        have here : (ring.use use).keys[0]? = some grown := by rw [used]; rfl
        obtain ⟨last, present, later⟩ := ih here kept
        rw [← scheme] at grows
        exact ⟨last, present, grows.trans later⟩
      | succ index =>
        refine ih ?_ kept
        rw [used]
        exact found

/-! ## All keys that a ring ever had -/

/-- The public keys that a ring has had after uses in turn, the latest first. -/
def publicHistory (ring : KeyRing) (uses : List KeyUse) : List PublicKey :=
  (rotations uses).reverse.map (fun number => (SigningKey.fresh ring.algorithm number).toPublic) ++
    ring.toPublic.keys

private theorem publicHistory_use {use : KeyUse} (rest : List KeyUse)
    (still : use.rotation? = none) : ring.publicHistory (use :: rest) = ring.publicHistory rest := by
  rw [publicHistory, publicHistory, rotations, List.filterMap_cons_none still]
  rfl

private theorem publicHistory_rotate (number : Nat) (rest : List KeyUse) :
    ring.publicHistory (.rotate number :: rest) =
      (rotations rest).reverse.map
          (fun number => (SigningKey.fresh ring.algorithm number).toPublic) ++
        (SigningKey.fresh ring.algorithm number).toPublic :: ring.toPublic.keys := by
  have count : rotations (.rotate number :: rest) = number :: rotations rest := rfl
  rw [publicHistory, count, List.reverse_cons, List.map_append, List.append_assoc]
  rfl

/-- What was already cut off behind an entry makes no difference when more is cut off. -/
private theorem take_append_take {α : Type} (front : List α) (first : α) (rest : List α) (keep : Nat) :
    (front ++ first :: rest.take keep).take (keep + 1) = (front ++ first :: rest).take (keep + 1) := by
  rw [List.take_append, List.take_append]
  congr 1
  cases room : keep + 1 - front.length with
  | zero => rfl
  | succ left =>
    rw [List.take_succ_cons, List.take_succ_cons, List.take_take, Nat.min_eq_left (by omega)]

/-- A ring has the latest of all the keys that it ever had. -/
theorem publicKeys_after (small : ring.keys.length ≤ ring.keep + 1) (uses : List KeyUse) :
    (ring.after uses).toPublic.keys = (ring.publicHistory uses).take (ring.keep + 1) := by
  induction uses generalizing ring with
  | nil =>
    have whole : ring.toPublic.keys.length ≤ ring.keep + 1 := by
      rw [toPublic, List.length_map]
      exact small
    exact (List.take_of_length_le whole).symm
  | cons use rest ih =>
    obtain ⟨-, algorithm, keep⟩ := ring.use_terms use
    change ((ring.use use).after rest).toPublic.keys = _
    rcases ring.use_cases use with ⟨number, rfl, used⟩ | ⟨still, grown, grows, used⟩
    · have present : (ring.use (.rotate number)).toPublic.keys =
          (SigningKey.fresh ring.algorithm number).toPublic :: ring.toPublic.keys.take ring.keep := by
        rw [used]
        simp [toPublic, keys, List.map_take]
      have fits : (ring.use (.rotate number)).keys.length ≤ (ring.use (.rotate number)).keep + 1 := by
        rw [used, keys, List.length_cons, List.length_take]
        exact Nat.succ_le_succ (Nat.min_le_left _ _)
      rw [ih fits, keep, publicHistory, algorithm, present, publicHistory_rotate]
      exact take_append_take _ _ _ _
    · have present : (ring.use use).toPublic.keys = ring.toPublic.keys := by
        rw [used]
        exact congrArg (· :: _) grows.toPublic
      rw [ih, keep, publicHistory_use rest still, publicHistory, publicHistory, algorithm, present]
      rw [used]
      exact small

end KeyRing

end UmaGrant
