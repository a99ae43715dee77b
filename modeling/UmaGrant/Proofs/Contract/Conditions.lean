import UmaGrant.Proofs.Contract
/-! # Which conditions of a contract are heeded

A contract is in force under conditions, but not all of them are looked at when it is used again: of those
on the purpose only the first, and of the others only those that name an instant that can be read, which
always counts as an end. What a server writes into a contract itself is heeded; of what others write, the
rest has no effect.
-/

namespace UmaGrant

/-- Whether a condition holds for a purpose at an instant. One that cannot be read does not, nor does one
that is neither on the purpose nor on an end in time. -/
def Constraint.holds (constraint : Constraint) (purpose : Option Json) (now : Instant) : Bool :=
  if constraint.leftOperand = purposeOperand then
    ContractPermission.samePurpose (some constraint.rightOperand) purpose
  else
    constraint.operator = "lt" &&
      constraint.expiry?.any fun expiry => now.nanos < expiry.instant.nanos

namespace ContractPermission

variable {permission : ContractPermission} {assignee : String} {purpose : Option Json}
  {resourceId scope : String} {now : Instant} {constraint : Constraint}

/-- Whether a permission heeds a condition for what it says: it asks for the purpose by which the
permission goes, or for an end in time that can be read. -/
def heeds (permission : ContractPermission) (constraint : Constraint) : Bool :=
  if constraint.leftOperand = Constraint.purposeOperand then
    samePurpose (some constraint.rightOperand) permission.purpose?
  else constraint.operator = "lt" && constraint.expiry?.isSome

/-- A permission is in force before all ends in time that can be read, with whatever operator. -/
theorem isLive_iff : permission.isLive now = true ↔ ∀ constraint ∈ permission.constraints,
    ∀ expiry, constraint.expiry? = some expiry → now.nanos < expiry.instant.nanos := by
  simp only [isLive, List.all_eq_true, List.mem_filterMap, decide_eq_true_eq, forall_exists_index,
    and_imp]
  exact ⟨fun live constraint member expiry read => live expiry constraint member read,
    fun live expiry constraint member read => live constraint member expiry read⟩

/-- Of a permission that allows something, those conditions hold that it heeds. -/
theorem holds_eq_heeds (allowed : permission.allows assignee purpose resourceId scope now = true)
    (member : constraint ∈ permission.constraints) :
    constraint.holds purpose now = permission.heeds constraint := by
  obtain ⟨-, -, -, purposes, live⟩ := allows_iff.mp allowed
  unfold Constraint.holds heeds
  by_cases asks : constraint.leftOperand = Constraint.purposeOperand
  · rw [if_pos asks, if_pos asks, Bool.eq_iff_iff]
    refine ⟨fun same => ?_, fun same => samePurpose_trans same purposes⟩
    exact samePurpose_trans same (samePurpose_comm purpose _ ▸ purposes)
  · rw [if_neg asks, if_neg asks]
    cases read : constraint.expiry? with
    | none => rfl
    | some expiry => simp [isLive_iff.mp live constraint member expiry read]

end ContractPermission

namespace Contracting

variable {contracting : Contracting} {claims : Claims} {granted : List Permission}
  {now : Instant} {uid : String} {contract : Contract}

/-- The conditions of a new contract are an end in time and the purpose that was declared. -/
private theorem mem_constraintsFor {constraints : List Constraint} {constraint : Constraint}
    (made : contracting.constraintsFor claims now = .ok constraints)
    (member : constraint ∈ constraints) :
    (∃ expiry, Constraint.expiresAt expiry = .ok constraint) ∨
      ∃ value, purpose? claims = some value ∧ constraint = .purpose value := by
  rw [constraintsFor] at made
  split at made
  case h_1 => cases made
  case h_2 expiry _ =>
    split at made
    case h_1 => cases made
    case h_2 first written =>
      cases made
      rcases List.mem_cons.mp member with rfl | declared
      · exact .inl ⟨_, written⟩
      · obtain ⟨value, known, same⟩ := Option.map_eq_some_iff.mp (Option.mem_toList.mp declared)
        exact .inr ⟨value, known, same.symm⟩

/-- Every permission of a new contract heeds all its conditions. -/
theorem draft_heeds (drafted : contracting.draft claims granted now uid = .ok contract)
    {permission : ContractPermission} (member : permission ∈ contract.permissions)
    {constraint : Constraint} (condition : constraint ∈ permission.constraints) :
    permission.heeds constraint = true := by
  have purposes := (draft_permission drafted member).1
  obtain ⟨constraints, made, rfl⟩ := of_draft drafted
  obtain ⟨grant, _, listed⟩ := List.mem_flatMap.mp member
  obtain ⟨scope, _, rfl⟩ := List.mem_map.mp listed
  rw [ContractPermission.heeds, purposes]
  rcases mem_constraintsFor made condition with ⟨expiry, written⟩ | ⟨value, declared, rfl⟩
  · obtain ⟨operand, operator, read⟩ := Constraint.expiry?_of_expiresAt written
    rw [operand, if_neg (by decide), operator, read]
    rfl
  · rw [declared]
    exact (if_pos rfl).trans (ContractPermission.samePurpose_refl (some value))

end Contracting

namespace Contract

/-- A contract covers grants if and only if for each scope of each grant it has a permission with that
assignee, resource and scope whose first condition on the purpose asks for the one that is given, or that
has none if none is given, and whose ends in time are yet to come, as far as they can be read. Of the
conditions of such a permission those hold that it heeds. A contract that a server has drawn up heeds them
all. -/
theorem covers_heeding (contract : Contract) (assignee : String) (purpose : Option Json)
    (granted : List Permission) (now : Instant) :
    (contract.covers assignee purpose granted now = true ↔
      ∀ grant ∈ granted, ∀ scope ∈ grant.resourceScopes, ∃ permission ∈ contract.permissions,
        (permission.assignee = assignee ∧ permission.target = grant.resourceId ∧
          permission.action = scope) ∧
        ContractPermission.samePurpose permission.purpose? purpose = true ∧
        (∀ constraint ∈ permission.constraints, ∀ expiry, constraint.expiry? = some expiry →
          now.nanos < expiry.instant.nanos) ∧
        ∀ constraint ∈ permission.constraints,
          constraint.holds purpose now = permission.heeds constraint) ∧
    ∀ (contracting : Contracting) (claims : Claims) (asked : List Permission) (drawnUp : Instant)
      (uid : String), contracting.draft claims asked drawnUp uid = .ok contract →
        ∀ permission ∈ contract.permissions, ∀ constraint ∈ permission.constraints,
          permission.heeds constraint = true := by
  refine ⟨?_, fun _ _ _ _ _ drafted _ member _ condition =>
    Contracting.draft_heeds drafted member condition⟩
  rw [covers_iff]
  constructor
  · intro covering grant among scope asked
    obtain ⟨permission, member, allowed⟩ := covering grant among scope asked
    obtain ⟨own, target, action, purposes, live⟩ := ContractPermission.allows_iff.mp allowed
    exact ⟨permission, member, ⟨own, target, action⟩, purposes, ContractPermission.isLive_iff.mp live,
      fun constraint condition => ContractPermission.holds_eq_heeds allowed condition⟩
  · intro permitted grant among scope asked
    obtain ⟨permission, member, ⟨own, target, action⟩, purposes, live, -⟩ :=
      permitted grant among scope asked
    exact ⟨permission, member, ContractPermission.allows_iff.mpr
      ⟨own, target, action, purposes, ContractPermission.isLive_iff.mpr live⟩⟩

/-! ## A letter lent for a purpose -/

/-- The claims of a reader who has said what for. -/
def careClaims : Claims :=
  .ofList [(ClaimType.webId, .string "https://alice"), (ClaimType.purpose, .string "care")]

/-- A contract that a server has drawn up is used again, and all its conditions hold then. -/
theorem covers_heeding_letter :
    ∃ contract, (Contracting.mk "https://rs" Contracting.defaultLifetime).draft careClaims
        [.of "letter" [Scope.read]] ⟨0⟩ "urn:loan" = .ok contract ∧
      contract.covers "https://alice" (some (.string "care")) [.of "letter" [Scope.read]]
          ⟨Lifetime.minutes 20⟩ = true ∧
      ∃ permission ∈ contract.permissions, permission.target = "letter" ∧
        ∀ constraint ∈ permission.constraints,
          constraint.holds (some (.string "care")) ⟨Lifetime.minutes 20⟩ = true := by
  obtain ⟨contract, drafted⟩ : ∃ contract,
      (Contracting.mk "https://rs" Contracting.defaultLifetime).draft careClaims
        [.of "letter" [Scope.read]] ⟨0⟩ "urn:loan" = .ok contract := ⟨_, rfl⟩
  have covering := (Contracting.draft_covers drafted).mpr fun _ =>
    show (⟨Lifetime.minutes 20⟩ : Instant).nanos < _ by decide
  obtain ⟨exact, heeding⟩ := covers_heeding contract "https://alice" (some (.string "care"))
    [.of "letter" [Scope.read]] ⟨Lifetime.minutes 20⟩
  obtain ⟨permission, member, ⟨-, target, -⟩, -, -, same⟩ :=
    exact.mp covering _ List.mem_cons_self _ List.mem_cons_self
  refine ⟨contract, drafted, covering, permission, member, target, fun constraint condition => ?_⟩
  rw [same constraint condition]
  exact heeding _ _ _ _ _ drafted permission member constraint condition

/-- Conditions that are not heeded: an end that is no instant, one with the opposite operator, another
purpose, and one on a place. -/
def unheeded : List Constraint :=
  [⟨Constraint.expiryOperand, "lt", .string "yesterday"⟩,
    ⟨Constraint.expiryOperand, "gt", .string "2030-01-01T00:00:00Z"⟩,
    .purpose (.string "research"), ⟨"spatial", "eq", .string "https://home"⟩]

/-- A letter lent to a reader for a purpose, and under all those conditions. -/
def loan : Contract :=
  ⟨"urn:loan", .utc ⟨0⟩, [⟨"https://rs", "https://alice", "letter", Scope.read,
    .purpose (.string "care") :: unheeded⟩]⟩

/-- A contract covers a grant although its only permission has conditions of which none holds. -/
theorem covers_unheeded :
    loan.covers "https://alice" (some (.string "care")) [.of "letter" [Scope.read]] ⟨0⟩ = true ∧
      ∀ permission ∈ loan.permissions, unheeded ⊆ permission.constraints ∧
        ∀ condition ∈ unheeded, condition.holds (some (.string "care")) ⟨0⟩ = false := by
  refine ⟨by decide +kernel, List.forall_mem_singleton.mpr ⟨?_, by decide +kernel⟩⟩
  exact List.subset_cons_self _ _

end Contract

end UmaGrant
