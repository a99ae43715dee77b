import UmaGrant.Contract.Drafting
import UmaGrant.Proofs.Json.Sameness
import UmaGrant.Proofs.Time.Rfc3339
/-! # Contracts and what they cover

What a contract is drawn up for it covers, from then on until its expiry: the purpose and the expiry that
are written into it are found in it again. Whether a contract covers a grant depends on its purpose only
up to sameness.
-/

namespace UmaGrant

namespace Constraint

/-- The expiry of a constraint is the one that it was made of. -/
theorem expiry?_of_expiresAt {instant : ZonedInstant} {constraint : Constraint}
    (made : expiresAt instant = .ok constraint) :
    constraint.leftOperand = expiryOperand ∧ constraint.operator = "lt" ∧
      constraint.expiry? = some instant := by
  unfold expiresAt at made
  split at made
  case h_2 => cases made
  case h_1 text written =>
    cases made
    refine ⟨rfl, rfl, ?_⟩
    have read := Rfc3339.parse_format written
    rw [expiry?, if_pos rfl]
    change ((Rfc3339.parse text).toOption : Option ZonedInstant) = some instant
    rw [read]
    rfl

theorem expiry?_purpose (value : Json) : (purpose value).expiry? = none := by
  have other : ¬ purposeOperand = expiryOperand := by decide
  exact if_neg other

end Constraint

namespace ContractPermission

theorem samePurpose_refl (purpose : Option Json) : samePurpose purpose purpose = true := by
  cases purpose with
  | none => rfl
  | some value => exact value.sameValue_refl

theorem samePurpose_comm (first second : Option Json) :
    samePurpose first second = samePurpose second first := by
  cases first <;> cases second <;> simp only [samePurpose]
  exact Json.sameValue_comm _ _

theorem samePurpose_trans {first second third : Option Json}
    (front : samePurpose first second = true) (back : samePurpose second third = true) :
    samePurpose first third = true := by
  cases first <;> cases second <;> cases third <;>
    simp only [samePurpose, Bool.false_eq_true] at front back ⊢
  exact Json.sameValue_trans _ _ _ front back

variable {permission : ContractPermission} {assignee : String} {purpose : Option Json}
  {resourceId scope : String} {now : Instant}

theorem allows_iff : permission.allows assignee purpose resourceId scope now = true ↔
    permission.assignee = assignee ∧ permission.target = resourceId ∧ permission.action = scope ∧
      samePurpose permission.purpose? purpose = true ∧ permission.isLive now = true := by
  simp only [allows, Bool.and_eq_true, decide_eq_true_eq, and_assoc]

end ContractPermission

namespace Contract

variable {contract : Contract} {assignee : String} {purpose other : Option Json}
  {granted : List Permission} {now later : Instant}

theorem covers_iff : contract.covers assignee purpose granted now = true ↔
    ∀ grant ∈ granted, ∀ scope ∈ grant.resourceScopes, ∃ permission ∈ contract.permissions,
      permission.allows assignee purpose grant.resourceId scope now = true := by
  simp only [covers, List.all_eq_true, List.any_eq_true]

/-- Another purpose that is the same makes no difference. -/
theorem covers_of_samePurpose (same : ContractPermission.samePurpose purpose other = true)
    (covering : contract.covers assignee purpose granted now = true) :
    contract.covers assignee other granted now = true := by
  rw [covers_iff] at covering ⊢
  intro grant member scope asked
  obtain ⟨permission, among, allowed⟩ := covering grant member scope asked
  obtain ⟨own, target, action, purposes, live⟩ := ContractPermission.allows_iff.mp allowed
  exact ⟨permission, among, ContractPermission.allows_iff.mpr
    ⟨own, target, action, ContractPermission.samePurpose_trans purposes same, live⟩⟩

/-- Another instant makes no difference for a contract that is no less in force then. -/
theorem covers_of_isLive
    (live : ∀ permission ∈ contract.permissions, permission.isLive now = true →
      permission.isLive later = true)
    (covering : contract.covers assignee purpose granted now = true) :
    contract.covers assignee purpose granted later = true := by
  rw [covers_iff] at covering ⊢
  intro grant member scope asked
  obtain ⟨permission, among, allowed⟩ := covering grant member scope asked
  obtain ⟨own, target, action, purposes, lasts⟩ := ContractPermission.allows_iff.mp allowed
  exact ⟨permission, among, ContractPermission.allows_iff.mpr
    ⟨own, target, action, purposes, live permission among lasts⟩⟩

end Contract

/-- Whether a grant gives any scope at all. -/
def Permission.Scoped (granted : List Permission) : Prop :=
  ∃ grant ∈ granted, grant.resourceScopes ≠ []

namespace Contract

variable {contract : Contract} {assignee : String} {purpose : Option Json}
  {granted : List Permission} {now : Instant}

/-- A contract that covers any scope is one of the assignee, and it is in force. -/
theorem covers_scoped (given : Permission.Scoped granted)
    (covering : contract.covers assignee purpose granted now = true) :
    contract.concerns assignee = true ∧
      ∃ permission ∈ contract.permissions, permission.isLive now = true := by
  obtain ⟨grant, member, some⟩ := given
  obtain ⟨scope, rest, scopes⟩ := List.exists_cons_of_ne_nil some
  obtain ⟨permission, among, allowed⟩ :=
    covers_iff.mp covering grant member scope (scopes ▸ List.mem_cons_self)
  obtain ⟨own, -, -, -, live⟩ := ContractPermission.allows_iff.mp allowed
  exact ⟨List.any_eq_true.mpr ⟨permission, among, decide_eq_true own⟩, permission, among, live⟩

end Contract

namespace Contracting

variable {contracting : Contracting} {claims : Claims} {granted : List Permission}
  {now later : Instant} {uid : String} {contract : Contract}

/-- The constraints of a new contract are on the purpose that was declared, if one was, and on an expiry
after the lifetime. -/
private theorem constraintsFor_spec {constraints : List Constraint}
    (made : contracting.constraintsFor claims now = .ok constraints) :
    ((constraints.find? fun constraint =>
        constraint.leftOperand = Constraint.purposeOperand).map (·.rightOperand)) = purpose? claims ∧
      ∃ expiry, constraints.filterMap Constraint.expiry? = [.utc expiry] ∧
        expiry.nanos = now.nanos + contracting.lifetime := by
  rw [constraintsFor] at made
  split at made
  case h_1 => cases made
  case h_2 expiry ending =>
    split at made
    case h_1 => cases made
    case h_2 first written =>
      cases made
      obtain ⟨operand, -, read⟩ := Constraint.expiry?_of_expiresAt written
      have other : ¬ first.leftOperand = Constraint.purposeOperand := by
        rw [operand]
        decide
      refine ⟨?_, expiry, ?_, ?_⟩
      · rw [List.find?_cons_of_neg (by simpa using other)]
        cases purpose? claims <;> rfl
      · rw [List.filterMap_cons_some read]
        cases purpose? claims with
        | none => rfl
        | some value =>
          change _ :: List.filterMap _ [Constraint.purpose value] = _
          rw [List.filterMap_cons_none (Constraint.expiry?_purpose value)]
          rfl
      · exact (Instant.of_after? ending).2

/-- A new contract is made up of the constraints that there are for it. -/
theorem of_draft (drafted : contracting.draft claims granted now uid = .ok contract) :
    ∃ constraints, contracting.constraintsFor claims now = .ok constraints ∧
      contract = ⟨uid, .utc now, contracting.permissionsFor claims constraints granted⟩ := by
  rw [draft] at drafted
  cases made : contracting.constraintsFor claims now with
  | error halt =>
    rw [made] at drafted
    cases drafted
  | ok constraints =>
    rw [made] at drafted
    exact ⟨constraints, rfl, (Except.ok.inj drafted).symm⟩

/-- Every permission of a new contract has the purpose that was declared, and is in force until the
lifetime is over. -/
theorem draft_permission (drafted : contracting.draft claims granted now uid = .ok contract)
    {permission : ContractPermission} (member : permission ∈ contract.permissions) :
    permission.purpose? = purpose? claims ∧ ∀ later : Instant,
      permission.isLive later = true ↔ later.nanos < now.nanos + contracting.lifetime := by
  obtain ⟨constraints, made, rfl⟩ := of_draft drafted
  obtain ⟨grant, _, listed⟩ := List.mem_flatMap.mp member
  obtain ⟨scope, _, rfl⟩ := List.mem_map.mp listed
  obtain ⟨purposes, expiry, expiries, lasting⟩ := constraintsFor_spec made
  refine ⟨purposes, fun later => ?_⟩
  have only : ContractPermission.isLive ⟨contracting.assigner, assignee claims, grant.resourceId, scope,
      constraints⟩ later = decide (later.nanos < expiry.nanos) := by
    rw [ContractPermission.isLive, expiries]
    simp [ZonedInstant.utc]
  rw [only, decide_eq_true_eq, lasting]

/-- A new contract has the identifier that it was given, and permits each scope of each grant. -/
theorem draft_permits (drafted : contracting.draft claims granted now uid = .ok contract) :
    contract.uid = uid ∧ ∀ grant ∈ granted, ∀ scope ∈ grant.resourceScopes,
      ∃ permission ∈ contract.permissions, permission.assignee = assignee claims ∧
        permission.target = grant.resourceId ∧ permission.action = scope := by
  obtain ⟨constraints, -, rfl⟩ := of_draft drafted
  refine ⟨rfl, fun grant member scope asked => ?_⟩
  refine ⟨⟨contracting.assigner, assignee claims, grant.resourceId, scope, constraints⟩, ?_, rfl, rfl, rfl⟩
  exact List.mem_flatMap.mpr ⟨grant, member, List.mem_map.mpr ⟨scope, asked, rfl⟩⟩

/-- A new contract covers nothing any more, if that gives a scope, once its lifetime is over. -/
theorem lasts_of_draft_covers (drafted : contracting.draft claims granted now uid = .ok contract)
    {assignee : String} {purpose : Option Json} {others : List Permission}
    (given : Permission.Scoped others) (covering : contract.covers assignee purpose others later = true) :
    later.nanos < now.nanos + contracting.lifetime := by
  obtain ⟨-, permission, member, live⟩ := Contract.covers_scoped given covering
  exact ((draft_permission drafted member).2 later).mp live

/-- A new contract covers what it was drawn up for exactly until its lifetime is over. What gives no
scope is covered for ever. -/
theorem draft_covers (drafted : contracting.draft claims granted now uid = .ok contract) :
    contract.covers (assignee claims) (purpose? claims) granted later = true ↔
      (Permission.Scoped granted → later.nanos < now.nanos + contracting.lifetime) := by
  constructor
  · exact fun covering given => lasts_of_draft_covers drafted given covering
  · intro lasting
    rw [Contract.covers_iff]
    intro grant member scope asked
    have some : grant.resourceScopes ≠ [] := List.ne_nil_of_mem asked
    obtain ⟨permission, among, own, target, action⟩ :=
      (draft_permits drafted).2 grant member scope asked
    obtain ⟨purposes, lives⟩ := draft_permission drafted among
    refine ⟨permission, among, ContractPermission.allows_iff.mpr ⟨own, target, action, ?_, ?_⟩⟩
    · rw [purposes]
      exact ContractPermission.samePurpose_refl _
    · exact (lives later).mpr (lasting ⟨grant, member, some⟩)

end Contracting

end UmaGrant
