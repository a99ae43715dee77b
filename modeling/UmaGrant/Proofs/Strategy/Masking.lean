import UmaGrant.Proofs.Dict
import UmaGrant.Proofs.SyntheticId
import UmaGrant.Strategy.Derivation
/-! # Identifiers that the client sees

What a client asks for by a synthetic identifier is granted under a synthetic identifier again.
Both lead back to the same resource, so a grant is on what was asked for if both are read back.
-/

namespace UmaGrant.Derivation

variable {codec : IdCodec}

theorem unmask_resourceId (codec : IdCodec) (permission : Permission) :
    (unmask codec permission).resourceId = codec.realId permission.resourceId := by
  unfold unmask IdCodec.realId
  cases codec.decode? permission.resourceId <;> rfl

theorem unmask_resourceScopes (codec : IdCodec) (permission : Permission) :
    (unmask codec permission).resourceScopes = permission.resourceScopes := by
  unfold unmask
  cases codec.decode? permission.resourceId <;> rfl

/-! ## Aliases -/

/-- Remembers the synthetic identifier by which a permission is asked for. -/
private def remember (codec : IdCodec) (known : Dict String) (permission : Permission) :
    Dict String :=
  match codec.decode? permission.resourceId with
  | some id => known.insert id permission.resourceId
  | none => known

private theorem get?_remember {known : Dict String} {permission : Permission} {id cover : String}
    (found : (remember codec known permission).get? id = some cover) :
    known.get? id = some cover ∨ codec.decode? cover = some id := by
  unfold remember at found
  cases decoded : codec.decode? permission.resourceId with
  | none => exact .inl (by simpa only [decoded] using found)
  | some real =>
    simp only [decoded, Dict.get?_insert] at found
    by_cases same : id = real
    · rw [if_pos same] at found
      cases found
      exact .inr (by rw [decoded, same])
    · exact .inl (by rwa [if_neg same] at found)

private theorem contains_remember {known : Dict String} {permission : Permission} {id : String} :
    (remember codec known permission).contains id = true ↔
      codec.decode? permission.resourceId = some id ∨ known.contains id = true := by
  unfold remember
  cases codec.decode? permission.resourceId with
  | none => simp
  | some real => simp only [Dict.contains_insert, Option.some.injEq, @eq_comm _ id real]

/-- An alias is a synthetic identifier of the resource that it stands for. -/
theorem decode?_of_aliases {permissions : List Permission} {id cover : String}
    (found : (aliases codec permissions).get? id = some cover) : codec.decode? cover = some id := by
  change (permissions.foldl (remember codec) .empty).get? id = some cover at found
  have kept : ∀ known : Dict String, (permissions.foldl (remember codec) known).get? id = some cover →
      known.get? id = some cover ∨ codec.decode? cover = some id := by
    clear found
    induction permissions with
    | nil => exact fun _ found => .inl found
    | cons permission rest ih =>
      intro known found
      rcases ih (remember codec known permission) found with before | decoded
      · exact get?_remember before
      · exact .inr decoded
  exact (kept .empty found).resolve_left (by simp)

/-- A resource that is asked for by a synthetic identifier has an alias. -/
theorem contains_aliases {permissions : List Permission} {id : String} :
    (aliases codec permissions).contains id = true ↔
      ∃ permission ∈ permissions, codec.decode? permission.resourceId = some id := by
  change (permissions.foldl (remember codec) .empty).contains id = true ↔ _
  have grown : ∀ known : Dict String, (permissions.foldl (remember codec) known).contains id = true ↔
      (∃ permission ∈ permissions, codec.decode? permission.resourceId = some id) ∨
        known.contains id = true := by
    induction permissions with
    | nil => simp
    | cons permission rest ih =>
      intro known
      rw [List.foldl_cons, ih, contains_remember]
      simp only [List.mem_cons, exists_eq_or_imp]
      rw [or_left_comm, or_assoc]
  rw [grown]
  simp

/-- The alias of a resource is the last synthetic identifier by which it is asked for. -/
theorem get?_aliases (codec : IdCodec) (permissions : List Permission) (id : String) :
    (aliases codec permissions).get? id =
      ((permissions.map (·.resourceId)).filter fun cover => codec.decode? cover = some id).getLast? := by
  change (permissions.foldl (remember codec) .empty).get? id = _
  have grown : ∀ known : Dict String, (permissions.foldl (remember codec) known).get? id =
      (((permissions.map (·.resourceId)).filter fun cover =>
        codec.decode? cover = some id).getLast?).or (known.get? id) := by
    induction permissions with
    | nil => exact fun known => rfl
    | cons permission rest ih =>
      intro known
      rw [List.foldl_cons, ih, List.map_cons, List.filter_cons]
      unfold remember
      cases decoded : codec.decode? permission.resourceId with
      | none => simp
      | some real =>
        by_cases same : real = id
        · subst same
          simp [List.getLast?_cons, Option.or_some]
        · simp [same, Dict.get?_insert_other known (Ne.symm same)]
  exact (grown .empty).trans (Option.or_none ..)

/-- An alias is an identifier by which the client has asked. -/
theorem mem_of_get?_aliases {permissions : List Permission} {id cover : String}
    (found : (aliases codec permissions).get? id = some cover) :
    ∃ permission ∈ permissions, permission.resourceId = cover := by
  rw [get?_aliases] at found
  exact List.mem_map.mp (List.mem_filter.mp (List.mem_of_getLast? found)).1

/-! ## Masked grants -/

/-- A masked grant leads back to the resource of the grant, if that is one that was asked for. -/
theorem realId_mask {ticket : Ticket} {asked : List Permission} {wanted granted : Permission}
    (known : ticket.aliases = aliases codec asked) (member : wanted ∈ asked)
    (same : granted.resourceId = codec.realId wanted.resourceId) (supply : Supply) :
    codec.realId (mask codec ticket supply granted).1.resourceId = granted.resourceId := by
  unfold mask
  cases found : ticket.aliases.get? granted.resourceId with
  | some cover =>
    rw [known] at found
    simp only [IdCodec.realId, decode?_of_aliases found, Option.getD_some]
  | none =>
    by_cases reads : granted.hasScope Scope.derivationRead = true
    · simp only [reads, if_true, IdCodec.realId_encode]
    · simp only [reads]
      -- Without an alias the resource was asked for by its own identifier, which is no synthetic one.
      have plain : codec.decode? wanted.resourceId = none := by
        rw [Option.eq_none_iff_forall_ne_some]
        intro id decoded
        have real : granted.resourceId = id := by
          rw [same, IdCodec.realId, decoded, Option.getD_some]
        have aliased : ticket.aliases.contains granted.resourceId = true := by
          rw [known, real]
          exact contains_aliases.mpr ⟨wanted, member, decoded⟩
        rw [Dict.contains, found] at aliased
        cases aliased
      have own : codec.realId wanted.resourceId = wanted.resourceId := by
        rw [IdCodec.realId, plain, Option.getD_none]
      rw [own] at same
      exact same ▸ own

theorem mask_resourceScopes (ticket : Ticket) (supply : Supply) (granted : Permission) :
    (mask codec ticket supply granted).1.resourceScopes = granted.resourceScopes := by
  unfold mask
  split
  · rfl
  · split <;> rfl

/-- Masking draws numbers and gives none back. -/
theorem supply_maskAll (ticket : Ticket) (supply : Supply) (granted : List Permission) :
    supply.next ≤ (maskAll codec ticket supply granted).2.next := by
  induction granted generalizing supply with
  | nil => exact Nat.le_refl _
  | cons first rest ih =>
    refine Nat.le_trans ?_ (ih (mask codec ticket supply first).2)
    unfold mask
    split
    · exact Nat.le_refl _
    · split
      · exact Nat.le_succ _
      · exact Nat.le_refl _

theorem mem_maskAll {ticket : Ticket} {supply : Supply} {granted : List Permission}
    {masked : Permission} (member : masked ∈ (maskAll codec ticket supply granted).1) :
    ∃ grant ∈ granted, ∃ supply, masked = (mask codec ticket supply grant).1 := by
  induction granted generalizing supply with
  | nil => exact absurd member List.not_mem_nil
  | cons first rest ih =>
    rcases List.mem_cons.mp member with same | member
    · exact ⟨first, List.mem_cons_self, supply, same⟩
    · obtain ⟨grant, present, found⟩ := ih member
      exact ⟨grant, List.mem_cons_of_mem _ present, found⟩

end UmaGrant.Derivation
