import UmaGrant.Proofs.Consultation
import UmaGrant.Proofs.Dict
import UmaGrant.Strategy.Derivation
/-! # The sources that a ticket demands

Demanding sources adds entries to a ticket, each under the identifier of a source that has to be
opened. Claims take such entries away again, those of the sources that they open and no others.
-/

namespace UmaGrant

namespace Ticket

@[simp] theorem isDerived_addDerived {ticket : Ticket} {id other : String} :
    (ticket.addDerived id).isDerived other = true ↔ other = id ∨ ticket.isDerived other = true :=
  Dict.contains_insert ticket.derivedIds id other ()

theorem mem_resourcePermissions {ticket : Ticket} {permission : Permission} :
    permission ∈ ticket.resourcePermissions ↔
      permission ∈ ticket.permissions ∧ ticket.isDerived permission.resourceId = false := by
  simp [resourcePermissions]

end Ticket

namespace Derivation

/-! ## Opening sources -/

/-- Whether a grant lets its bearer read a source, under the very identifier of the source. -/
def Frees (grant : Permission) (id : String) : Prop :=
  grant.resourceId = id ∧ grant.hasScope Scope.derivationRead = true

/-- Whether a claim set opens a source: it proves grants, one of which is on the source. -/
def Opens (claims : Claims) (id : String) : Prop :=
  ∃ grants, provenGrants? claims = some grants ∧ ∃ grant ∈ grants, Frees grant id

theorem isDerived_prove {ticket : Ticket} {grant : Permission} {id : String} :
    (prove ticket grant).isDerived id = true ↔
      ticket.isDerived id = true ∧ ¬ Frees grant id := by
  unfold prove
  by_cases opened : (grant.hasScope Scope.derivationRead && ticket.isDerived grant.resourceId) = true
  · rw [if_pos opened]
    obtain ⟨reads, derived⟩ := Bool.and_eq_true_iff.mp opened
    change (ticket.derivedIds.erase grant.resourceId).contains id = true ↔ _
    rw [Dict.contains_erase]
    constructor
    · rintro ⟨differ, still⟩
      exact ⟨still, fun freed => differ freed.1.symm⟩
    · rintro ⟨still, kept⟩
      exact ⟨fun same => kept ⟨same.symm, reads⟩, still⟩
  · rw [if_neg opened]
    refine ⟨fun derived => ⟨derived, fun ⟨same, reads⟩ => opened ?_⟩, And.left⟩
    rw [same, reads, derived]
    rfl

/-- An entry stays unless its source is taken off the ticket. -/
theorem mem_permissions_prove {ticket : Ticket} {grant permission : Permission} :
    permission ∈ (prove ticket grant).permissions ↔
      permission ∈ ticket.permissions ∧
        (ticket.isDerived permission.resourceId = true →
          (prove ticket grant).isDerived permission.resourceId = true) := by
  rw [isDerived_prove]
  unfold prove
  by_cases opened : (grant.hasScope Scope.derivationRead && ticket.isDerived grant.resourceId) = true
  · rw [if_pos opened]
    obtain ⟨reads, derived⟩ := Bool.and_eq_true_iff.mp opened
    rw [List.mem_filter, decide_eq_true_eq]
    refine and_congr_right fun _ => ⟨fun differ still => ⟨still, fun freed => ?_⟩, ?_⟩
    · exact differ freed.1.symm
    · intro kept same
      exact (kept (same ▸ derived)).2 ⟨same.symm, reads⟩
  · rw [if_neg opened]
    refine ⟨fun member => ⟨member, fun derived => ⟨derived, ?_⟩⟩, And.left⟩
    rintro ⟨same, reads⟩
    rw [← same] at derived
    rw [reads, derived] at opened
    exact opened rfl

theorem prove_rest (ticket : Ticket) (grant : Permission) :
    ∃ permissions derivedIds, prove ticket grant = { ticket with permissions, derivedIds } := by
  unfold prove
  split
  · exact ⟨_, _, rfl⟩
  · exact ⟨_, _, rfl⟩

private theorem isDerived_foldl_prove {ticket : Ticket} {grants : List Permission} {id : String} :
    (grants.foldl prove ticket).isDerived id = true ↔
      ticket.isDerived id = true ∧ ∀ grant ∈ grants, ¬ Frees grant id := by
  induction grants generalizing ticket with
  | nil => simp
  | cons grant rest ih =>
    rw [List.foldl_cons, ih, isDerived_prove, List.forall_mem_cons, and_assoc]

private theorem mem_permissions_foldl_prove {ticket : Ticket} {grants : List Permission}
    {permission : Permission} :
    permission ∈ (grants.foldl prove ticket).permissions ↔
      permission ∈ ticket.permissions ∧
        (ticket.isDerived permission.resourceId = true →
          (grants.foldl prove ticket).isDerived permission.resourceId = true) := by
  induction grants generalizing ticket with
  | nil => simp
  | cons grant rest ih =>
    rw [List.foldl_cons, ih, mem_permissions_prove, isDerived_foldl_prove, isDerived_prove]
    constructor
    · rintro ⟨⟨member, first⟩, more⟩
      exact ⟨member, fun derived => more (first derived)⟩
    · rintro ⟨member, all⟩
      exact ⟨⟨member, fun derived => (all derived).1⟩, fun derived => all derived.1⟩

/-- A claim set takes the sources off a ticket that it opens, and no others. -/
theorem isDerived_proveAll {ticket : Ticket} {claims : Claims} {id : String} :
    (proveAll ticket claims).isDerived id = true ↔
      ticket.isDerived id = true ∧ ¬ Opens claims id := by
  rw [proveAll, isDerived_foldl_prove, Opens]
  cases provenGrants? claims <;> simp

theorem mem_permissions_proveAll {ticket : Ticket} {claims : Claims} {permission : Permission} :
    permission ∈ (proveAll ticket claims).permissions ↔
      permission ∈ ticket.permissions ∧
        (ticket.isDerived permission.resourceId = true →
          (proveAll ticket claims).isDerived permission.resourceId = true) :=
  mem_permissions_foldl_prove

theorem proveAll_rest (ticket : Ticket) (claims : Claims) :
    ∃ permissions derivedIds, proveAll ticket claims = { ticket with permissions, derivedIds } := by
  unfold proveAll
  generalize (provenGrants? claims).getD [] = grants
  induction grants generalizing ticket with
  | nil => exact ⟨_, _, rfl⟩
  | cons grant rest ih =>
    obtain ⟨_, _, first⟩ := prove_rest ticket grant
    obtain ⟨permissions, derivedIds, more⟩ := ih (prove ticket grant)
    exact ⟨permissions, derivedIds, by rw [List.foldl_cons, more, first]⟩

private theorem filter_permissions_prove {ticket : Ticket} {grant : Permission}
    {keep : Permission → Bool}
    (spared : ∀ entry, keep entry = true → ticket.isDerived entry.resourceId = false) :
    (prove ticket grant).permissions.filter keep = ticket.permissions.filter keep := by
  unfold prove
  by_cases opened : (grant.hasScope Scope.derivationRead && ticket.isDerived grant.resourceId) = true
  · rw [if_pos opened]
    obtain ⟨_, derived⟩ := Bool.and_eq_true_iff.mp opened
    rw [List.filter_filter]
    refine List.filter_congr fun entry _ => ?_
    cases kept : keep entry with
    | false => rfl
    | true =>
      rw [Bool.true_and, decide_eq_true_eq]
      intro same
      have other := spared entry kept
      rw [same, derived] at other
      cases other
  · rw [if_neg opened]

/-- The entries that are not for sources stay as they are and in their order. -/
theorem filter_permissions_proveAll {ticket : Ticket} {claims : Claims} {keep : Permission → Bool}
    (spared : ∀ entry, keep entry = true → ticket.isDerived entry.resourceId = false) :
    (proveAll ticket claims).permissions.filter keep = ticket.permissions.filter keep := by
  unfold proveAll
  generalize (provenGrants? claims).getD [] = grants
  induction grants generalizing ticket with
  | nil => rfl
  | cons grant rest ih =>
    rw [List.foldl_cons, ih, filter_permissions_prove spared]
    intro entry kept
    rw [← Bool.not_eq_true, isDerived_prove, spared entry kept]
    exact fun derived => nomatch derived.1

end Derivation

namespace Sourced

/-! ## Demanding sources -/

/-- What demands do to a ticket: they add sources, and entries for sources only. -/
structure Extends (extended before : Ticket) : Prop where
  rest : ∃ permissions derivedIds, extended = { before with permissions, derivedIds }
  derived : ∀ id, before.isDerived id = true → extended.isDerived id = true
  entries : ∀ permission ∈ extended.permissions,
    permission ∈ before.permissions ∨ extended.isDerived permission.resourceId = true

theorem Extends.refl (ticket : Ticket) : Extends ticket ticket :=
  ⟨⟨_, _, rfl⟩, fun _ derived => derived, fun _ member => .inl member⟩

theorem Extends.trans {last middle first : Ticket} (later : Extends last middle)
    (earlier : Extends middle first) : Extends last first where
  rest := by
    obtain ⟨_, _, rfl⟩ := earlier.rest
    obtain ⟨_, _, rfl⟩ := later.rest
    exact ⟨_, _, rfl⟩
  derived id derived := later.derived id (earlier.derived id derived)
  entries permission member := by
    rcases later.entries permission member with known | derived
    · exact (earlier.entries permission known).imp_right (later.derived _)
    · exact .inr derived

end Sourced

namespace Ticket

variable {ticket : Ticket} {source : Source} {sources : List Source} {id : String}

/-- A ticket that demands access to a source, once. -/
def demand (ticket : Ticket) (source : Source) : Ticket :=
  if ticket.isDerived source.derivationResourceId then ticket
  else
    { ticket.addDerived source.derivationResourceId with
      permissions :=
        ticket.permissions ++ [.of source.derivationResourceId [Scope.derivationRead]] }

private theorem isDerived_demand :
    (ticket.demand source).isDerived id = true ↔
      source.derivationResourceId = id ∨ ticket.isDerived id = true := by
  unfold demand
  by_cases known : ticket.isDerived source.derivationResourceId = true
  · rw [if_pos known]
    exact (or_iff_right_of_imp fun same => same ▸ known).symm
  · rw [if_neg known]
    exact isDerived_addDerived.trans (or_congr_left eq_comm)

/-- Entries for sources come after those that are there already. -/
private theorem permissions_demand (ticket : Ticket) (source : Source) :
    ∃ added, (ticket.demand source).permissions = ticket.permissions ++ added ∧
      ∀ entry ∈ added, entry.resourceId = source.derivationResourceId := by
  unfold demand
  by_cases known : ticket.isDerived source.derivationResourceId = true
  · rw [if_pos known]
    exact ⟨[], (List.append_nil _).symm, nofun⟩
  · rw [if_neg known]
    refine ⟨[.of source.derivationResourceId [Scope.derivationRead]], rfl, fun entry member => ?_⟩
    rw [List.mem_singleton.mp member]
    rfl

private theorem demand_extends (ticket : Ticket) (source : Source) :
    Sourced.Extends (ticket.demand source) ticket where
  rest := by
    unfold demand
    split
    · exact ⟨_, _, rfl⟩
    · exact ⟨_, _, rfl⟩
  derived _ derived := isDerived_demand.mpr (.inr derived)
  entries entry member := by
    obtain ⟨added, grown, own⟩ := permissions_demand ticket source
    rw [grown] at member
    exact (List.mem_append.mp member).imp_right fun new =>
      isDerived_demand.mpr (.inl (own entry new).symm)

private theorem foldl_demand_extends (ticket : Ticket) (sources : List Source) :
    Sourced.Extends (sources.foldl demand ticket) ticket := by
  induction sources generalizing ticket with
  | nil => exact .refl _
  | cons source rest ih => exact (ih (ticket.demand source)).trans (demand_extends ticket source)

theorem isDerived_foldl_demand :
    (sources.foldl demand ticket).isDerived id = true ↔
      (∃ source ∈ sources, source.derivationResourceId = id) ∨ ticket.isDerived id = true := by
  induction sources generalizing ticket with
  | nil => simp
  | cons source rest ih =>
    rw [List.foldl_cons, ih, isDerived_demand]
    simp only [List.mem_cons, exists_eq_or_imp]
    rw [or_left_comm, or_assoc]

private theorem permissions_foldl_demand (ticket : Ticket) (sources : List Source) :
    ∃ added, (sources.foldl demand ticket).permissions = ticket.permissions ++ added ∧
      ∀ entry ∈ added, ∃ source ∈ sources, source.derivationResourceId = entry.resourceId := by
  induction sources generalizing ticket with
  | nil => exact ⟨[], (List.append_nil _).symm, nofun⟩
  | cons source rest ih =>
    obtain ⟨first, grownFirst, own⟩ := permissions_demand ticket source
    obtain ⟨more, grown, others⟩ := ih (ticket.demand source)
    refine ⟨first ++ more, by rw [List.foldl_cons, grown, grownFirst, List.append_assoc], ?_⟩
    intro entry member
    rcases List.mem_append.mp member with early | late
    · exact ⟨source, List.mem_cons_self, (own entry early).symm⟩
    · obtain ⟨other, listed, same⟩ := others entry late
      exact ⟨other, List.mem_cons_of_mem _ listed, same⟩

end Ticket

/-- The servers behind sources, once those of some more are known. -/
def Issuers.register (issuers : Issuers) (sources : List Source) : Issuers :=
  sources.foldl (fun known source => Dict.insert known source.derivationResourceId source.issuer)
    issuers

namespace Sourced

variable {descriptions : Descriptions} {permissions : List Permission} {sourced demanded : Sourced}

/-! ## Demanding all sources -/

/-- The sources of resources, in the order in which they are demanded. -/
def sourcesOf (descriptions : Descriptions) : List Permission → Except GrantError (List Source)
  | [] => .ok []
  | permission :: rest => do
    let known ← descriptions.lookup permission.resourceId
    let more ← sourcesOf descriptions rest
    .ok ((known.map (·.derivedFrom)).getD [] ++ more)

theorem mem_sourcesOf {sources : List Source}
    (found : sourcesOf descriptions permissions = .ok sources) {source : Source} :
    source ∈ sources ↔ ∃ permission ∈ permissions, ∃ description,
      descriptions.lookup permission.resourceId = .ok (some description) ∧
      source ∈ description.derivedFrom := by
  induction permissions generalizing sources with
  | nil =>
    cases found
    simp
  | cons permission rest ih =>
    obtain ⟨known, looked, found⟩ := except_bind_eq_ok_iff.mp found
    obtain ⟨more, others, same⟩ := except_bind_eq_ok_iff.mp found
    cases same
    simp only [List.mem_append, ih others, List.mem_cons, exists_eq_or_imp, looked, Except.ok.injEq]
    cases known <;> simp

private theorem demand_eq (sourced : Sourced) (source : Source) :
    sourced.demand source =
      ⟨sourced.ticket.demand source,
        sourced.issuers.insert source.derivationResourceId source.issuer⟩ := by
  unfold demand Ticket.demand
  by_cases known : sourced.ticket.isDerived source.derivationResourceId = true
  · simp only [known, if_true]
  · simp only [known]
    rfl

private theorem foldl_demand_eq (sourced : Sourced) (sources : List Source) :
    sources.foldl demand sourced =
      ⟨sources.foldl Ticket.demand sourced.ticket, sourced.issuers.register sources⟩ := by
  induction sources generalizing sourced with
  | nil => rfl
  | cons source rest ih =>
    rw [List.foldl_cons, ih, demand_eq]
    rfl

/-- The sources of all resources are demanded one after the other. What becomes of the ticket does
not depend on the servers that are known already. -/
theorem demandFor_eq (descriptions : Descriptions) (sourced : Sourced)
    (permissions : List Permission) :
    demandFor descriptions sourced permissions =
      (sourcesOf descriptions permissions).map fun sources =>
        ⟨sources.foldl Ticket.demand sourced.ticket, sourced.issuers.register sources⟩ := by
  induction permissions generalizing sourced with
  | nil => rfl
  | cons permission rest ih =>
    rw [demandFor, sourcesOf]
    cases descriptions.lookup permission.resourceId with
    | error error => rfl
    | ok known =>
      change demandFor descriptions _ rest = Except.map _ (sourcesOf descriptions rest >>= _)
      rw [ih, foldl_demand_eq]
      cases sourcesOf descriptions rest with
      | error error => rfl
      | ok more =>
        refine congrArg Except.ok ?_
        simp only [Issuers.register, List.foldl_append]

private theorem of_demandFor (opened : demandFor descriptions sourced permissions = .ok demanded) :
    ∃ sources, sourcesOf descriptions permissions = .ok sources ∧
      demanded.ticket = sources.foldl Ticket.demand sourced.ticket := by
  rw [demandFor_eq] at opened
  cases found : sourcesOf descriptions permissions <;> rw [found] at opened <;> cases opened
  exact ⟨_, rfl, rfl⟩

/-- No sources are demanded but those of the resources that are asked for. -/
theorem isDerived_demandFor (opened : demandFor descriptions sourced permissions = .ok demanded)
    {id : String} :
    demanded.ticket.isDerived id = true ↔
      (∃ permission ∈ permissions, ∃ description,
        descriptions.lookup permission.resourceId = .ok (some description) ∧
        ∃ source ∈ description.derivedFrom, source.derivationResourceId = id) ∨
      sourced.ticket.isDerived id = true := by
  obtain ⟨sources, found, same⟩ := of_demandFor opened
  rw [same, Ticket.isDerived_foldl_demand]
  refine or_congr_left ⟨?_, ?_⟩
  · rintro ⟨source, listed, own⟩
    obtain ⟨permission, member, description, looked, among⟩ := (mem_sourcesOf found).mp listed
    exact ⟨permission, member, description, looked, source, among, own⟩
  · rintro ⟨permission, member, description, looked, source, among, own⟩
    exact ⟨source, (mem_sourcesOf found).mpr ⟨permission, member, description, looked, among⟩, own⟩

theorem demandFor_extends (opened : demandFor descriptions sourced permissions = .ok demanded) :
    Extends demanded.ticket sourced.ticket := by
  obtain ⟨sources, _, same⟩ := of_demandFor opened
  exact same ▸ sourced.ticket.foldl_demand_extends sources

/-- Entries for sources come after those that were asked for. -/
theorem permissions_demandFor (opened : demandFor descriptions sourced permissions = .ok demanded) :
    ∃ added, demanded.ticket.permissions = sourced.ticket.permissions ++ added ∧
      ∀ entry ∈ added, demanded.ticket.isDerived entry.resourceId = true := by
  obtain ⟨sources, _, same⟩ := of_demandFor opened
  obtain ⟨added, grown, own⟩ := sourced.ticket.permissions_foldl_demand sources
  refine ⟨added, same ▸ grown, fun entry member => ?_⟩
  rw [same]
  exact Ticket.isDerived_foldl_demand.mpr (.inl (own entry member))

end Sourced

end UmaGrant
