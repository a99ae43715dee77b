import UmaGrant.Permission
/-! # Coverage

Grants cover a request scope by scope, and different scopes may be covered by different grants. So
more grants cover no less, and grants of everything that is asked for cover all of it.
-/

namespace UmaGrant

variable {granted more asked : List Permission} {grant wanted : Permission}

theorem covers_iff :
    covers granted wanted = true ↔
      ∀ scope ∈ wanted.resourceScopes, ∃ grant ∈ granted,
        grant.grants wanted.resourceId scope = true := by
  simp only [covers, List.all_eq_true, List.any_eq_true]

theorem covers_mono (within : granted ⊆ more) (covered : covers granted wanted = true) :
    covers more wanted = true := by
  refine covers_iff.mpr fun scope listed => ?_
  obtain ⟨grant, member, gives⟩ := covers_iff.mp covered scope listed
  exact ⟨grant, within member, gives⟩

namespace Permission

theorem hasScope_of_mem {scope : String} (listed : scope ∈ grant.resourceScopes) :
    grant.hasScope scope = true :=
  List.any_eq_true.mpr ⟨scope, listed, by simp⟩

/-- A grant on the resource itself that has all scopes covers a request alone. -/
theorem covers_of_hasScope (member : grant ∈ granted) (same : grant.resourceId = wanted.resourceId)
    (all : ∀ scope ∈ wanted.resourceScopes, grant.hasScope scope = true) :
    covers granted wanted = true := by
  refine covers_iff.mpr fun scope listed => ⟨grant, member, ?_⟩
  rw [grants, all scope listed, same]
  simp

theorem covers_of_mem (member : wanted ∈ granted) : covers granted wanted = true :=
  covers_of_hasScope member rfl fun _ listed => hasScope_of_mem listed

/-- Grants without scopes cover nothing that the others do not. -/
theorem covers_filter_nonempty (covered : covers granted wanted = true) :
    covers (granted.filter fun grant => !grant.resourceScopes.isEmpty) wanted = true := by
  refine covers_iff.mpr fun scope listed => ?_
  obtain ⟨grant, member, gives⟩ := covers_iff.mp covered scope listed
  refine ⟨grant, List.mem_filter.mpr ⟨member, ?_⟩, gives⟩
  have has : grant.hasScope scope = true := (Bool.and_eq_true_iff.mp gives).2
  cases scopes : grant.resourceScopes with
  | nil =>
    rw [hasScope, scopes] at has
    cases has
  | cons => rfl

end Permission

end UmaGrant
