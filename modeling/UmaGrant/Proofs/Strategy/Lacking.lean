import UmaGrant.Proofs.Strategy.Remainder
/-! # What a ticket lacks

A ticket that goes by elimination lacks, of each alternative that the authorizer offered when it was
opened, what the claims shown since have not met, and every source of what was asked for that they have
not opened. It is granted once an alternative and all sources are settled, and it says what it lacks
until then.
-/

namespace UmaGrant

/-! ## Sources in order -/

namespace Ticket

theorem mem_keys_iff {ticket : Ticket} {id : String} :
    id ∈ ticket.derivedIds.keys ↔ ticket.isDerived id = true := Dict.mem_keys_iff

theorem keys_eq_nil (ticket : Ticket) (allOpen : ∀ id, ticket.isDerived id = false) :
    ticket.derivedIds.keys = [] := by
  refine List.eq_nil_iff_forall_not_mem.mpr fun id member => ?_
  rw [mem_keys_iff, allOpen] at member
  cases member

private theorem ordered_demand {ticket : Ticket} (ordered : ticket.derivedIds.Ordered)
    (source : Source) : (ticket.demand source).derivedIds.Ordered := by
  unfold demand
  split
  · exact ordered
  · exact ordered.insert source.derivationResourceId ()

private theorem ordered_foldl_demand {ticket : Ticket} (ordered : ticket.derivedIds.Ordered)
    (sources : List Source) : (sources.foldl demand ticket).derivedIds.Ordered := by
  induction sources generalizing ticket with
  | nil => exact ordered
  | cons source rest ih => exact ih (ordered_demand ordered source)

end Ticket

namespace Derivation

private theorem ordered_prove {ticket : Ticket} (ordered : ticket.derivedIds.Ordered)
    (grant : Permission) : (prove ticket grant).derivedIds.Ordered := by
  unfold prove
  split
  · exact ordered.erase grant.resourceId
  · exact ordered

private theorem ordered_proveAll {ticket : Ticket} (ordered : ticket.derivedIds.Ordered)
    (claims : Claims) : (proveAll ticket claims).derivedIds.Ordered := by
  unfold proveAll
  generalize (provenGrants? claims).getD [] = grants
  induction grants generalizing ticket with
  | nil => exact ordered
  | cons grant rest ih => exact ih (ordered_prove ordered grant)

/-- The descriptor of a source, which names the server that is known for it. -/
def Describes (issuers : Issuers) (id : String) (claim : DerivationClaim) : Prop :=
  ∃ issuer, issuers.get? id = some issuer ∧
    claim = ⟨ClaimFormat.accessToken, issuer, id, [Scope.derivationRead]⟩

/-- There is one descriptor for each source, in order. -/
theorem claimsFor_describes {issuers : Issuers} {ids : List String} {claims : List DerivationClaim}
    (demanded : claimsFor issuers ids = .ok claims) :
    List.Forall₂ (Describes issuers) ids claims := by
  induction ids generalizing claims with
  | nil =>
    cases demanded
    exact .nil
  | cons id rest ih =>
    rw [claimsFor] at demanded
    cases known : issuers.get? id with
    | none =>
      rw [known] at demanded
      cases demanded
    | some issuer =>
      rw [known] at demanded
      obtain ⟨more, others, same⟩ := except_bind_eq_ok_iff.mp demanded
      cases same
      exact .cons ⟨issuer, known, rfl⟩ (ih others)

end Derivation

namespace Strategy

variable {strategy : Strategy} {descriptions opening : Descriptions} {issuers : Issuers}
  {asked : List Permission} {sourced : Sourced} {shown : List Claims} {ticket : Ticket}

/-! ## What is offered and what is outstanding -/

/-- What is asked for, as the authorizer gets to see it. -/
def wanted (strategy : Strategy) (asked : List Permission) : List Permission :=
  match strategy.codec with
  | none => asked
  | some codec => asked.map (Derivation.unmask codec)

/-- The alternatives of claims that the authorizer offers for a request. -/
def offers (strategy : Strategy) (descriptions : Descriptions) (asked : List Permission) :
    Except GrantError (List Requirements) :=
  (strategy.settlement.authorizer.credentials descriptions (strategy.wanted asked) none).outcome

/-- Whether a source of what was asked for has not been opened by any claim set. -/
def Outstanding (strategy : Strategy) (opening : Descriptions) (asked : List Permission)
    (shown : List Claims) (id : String) : Prop :=
  strategy.codec.isSome = true ∧ strategy.Demands opening asked id ∧
    ∀ claims ∈ shown, ¬ Derivation.Opens claims id

/-- Whether a ticket lacks what its claims have left of the alternatives offered at the start, and the
sources that they have not opened. -/
structure Lacks (strategy : Strategy) (opening : Descriptions) (asked : List Permission)
    (shown : List Claims) (ticket : Ticket) : Prop where
  alternatives : ∃ offered, strategy.offers opening asked = .ok offered ∧
    ticket.required = offered.map (·.remaining (strategy.history shown))
  sources : ∀ id, ticket.isDerived id = true ↔ strategy.Outstanding opening asked shown id
  ordered : ticket.derivedIds.Ordered

private theorem settlement_offers (eliminating : strategy.settlement.method = .elimination)
    {permissions : List Permission}
    (opened : (strategy.settlement.openTicket descriptions permissions).outcome = .ok ticket) :
    ∃ offered, (strategy.settlement.authorizer.credentials descriptions permissions none).outcome =
      .ok offered ∧ ticket = .new permissions offered := by
  rw [Settlement.openTicket, eliminating] at opened
  obtain ⟨offered, answered, same⟩ := Consult.bind_outcome_eq_ok_iff.mp opened
  cases same
  exact ⟨offered, answered, rfl⟩

theorem openTicket_lacks (eliminating : strategy.settlement.method = .elimination)
    (opened : (strategy.openTicket descriptions issuers asked).outcome = .ok sourced) :
    strategy.Lacks descriptions asked [] sourced.ticket := by
  have opens := opened
  unfold openTicket at opens
  cases coded : strategy.codec with
  | none =>
    rw [coded] at opens
    obtain ⟨ticket, settled, same⟩ := Consult.bind_outcome_eq_ok_iff.mp opens
    obtain ⟨offered, answered, rfl⟩ := settlement_offers eliminating settled
    cases same
    refine ⟨⟨offered, ?_, (Requirements.map_remaining_nil offered).symm⟩, fun id => ?_,
      Dict.ordered_empty⟩
    · rw [offers, wanted, coded]
      exact answered
    · refine iff_of_false nofun fun outstanding => ?_
      rw [Outstanding, coded] at outstanding
      cases outstanding.1
  | some codec =>
    rw [coded] at opens
    obtain ⟨ticket, settled, demanded⟩ := Consult.bind_outcome_eq_ok_iff.mp opens
    obtain ⟨offered, answered, rfl⟩ := settlement_offers eliminating settled
    rw [Consult.outcome_lift] at demanded
    have sources : ∀ id, sourced.ticket.isDerived id = true ↔
        strategy.Demands descriptions asked id := fun _ => isDerived_openTicket coded opened
    refine ⟨⟨offered, ?_, ?_⟩, fun id => ?_, ?_⟩
    · rw [offers, wanted, coded]
      exact answered
    · obtain ⟨_, _, rest⟩ := (Sourced.demandFor_extends demanded).rest
      rw [rest]
      exact (Requirements.map_remaining_nil _).symm
    · rw [sources, Outstanding, coded]
      simp
    · rw [Sourced.demandFor_eq] at demanded
      cases found : Sourced.sourcesOf descriptions (asked.map (Derivation.unmask codec)) <;>
        rw [found] at demanded <;> cases demanded
      exact Ticket.ordered_foldl_demand Dict.ordered_empty _

/-- Claims leave what they do not meet, and close no source. -/
theorem Lacks.addClaims (eliminating : strategy.settlement.method = .elimination)
    (lacks : strategy.Lacks opening asked shown ticket) (claims : Claims) :
    strategy.Lacks opening asked (claims :: shown) (strategy.addClaims ticket claims).value := by
  have left : ∃ offered, strategy.offers opening asked = .ok offered ∧
      (strategy.addClaims ticket claims).value.required =
        offered.map (·.remaining (strategy.history (claims :: shown))) := by
    obtain ⟨offered, answered, required⟩ := lacks.alternatives
    refine ⟨offered, answered, ?_⟩
    rw [required_addClaims eliminating, required, List.map_map]
    refine List.map_congr_left fun alternative _ => ?_
    rw [Function.comp_apply, ← Requirements.remaining_append]
    refine alternative.remaining_congr fun claim => ?_
    rw [history, history, List.flatMap_cons, List.mem_append, List.mem_append, or_comm]
  cases coded : strategy.codec with
  | none =>
    obtain ⟨required, provided, same⟩ := addClaims_plain coded ticket claims
    refine ⟨left, fun id => ?_, by rw [same]; exact lacks.ordered⟩
    rw [same]
    refine (lacks.sources id).trans ?_
    simp [Outstanding, coded]
  | some codec =>
    obtain ⟨required, provided, same⟩ := addClaims_coded coded ticket claims
    refine ⟨left, fun id => ?_, ?_⟩
    · rw [same]
      refine Derivation.isDerived_proveAll.trans ?_
      rw [lacks.sources, Outstanding, Outstanding, List.forall_mem_cons, and_assoc, and_assoc,
        and_comm (a := ¬ Derivation.Opens claims id)]
    · rw [same]
      exact Derivation.ordered_proveAll lacks.ordered claims

/-- Without a codec there are no sources. -/
theorem Lacks.sourceless (lacks : strategy.Lacks opening asked shown ticket)
    (plain : strategy.codec = none) (id : String) : ticket.isDerived id = false := by
  rw [← Bool.not_eq_true, lacks.sources, Outstanding, plain]
  exact fun outstanding => nomatch outstanding.1

/-- A ticket lists the sources that are outstanding. -/
theorem Lacks.mem_keys (lacks : strategy.Lacks opening asked shown ticket) {id : String} :
    id ∈ ticket.derivedIds.keys ↔ strategy.Outstanding opening asked shown id :=
  Ticket.mem_keys_iff.trans (lacks.sources id)

/-! ## Resolving -/

/-- A ticket that lacks nothing is granted. -/
theorem resolve_of_settled (eliminating : strategy.settlement.method = .elimination)
    (settled : ticket.isSatisfied = true) (allOpen : ∀ id, ticket.isDerived id = false)
    (supply : Supply) :
    ∃ granted left, (strategy.resolve descriptions issuers supply ticket).outcome =
      .ok (.success granted, left) := by
  have resolves : ∀ other : Ticket, other.required = ticket.required →
      (strategy.settlement.resolve descriptions other).outcome =
        .ok (.success other.permissions) := by
    intro other same
    rw [Settlement.resolve_eq_of_elimination eliminating, Ticket.isSatisfied, same]
    exact congrArg Except.ok (if_pos settled)
  have nothing : Derivation.outstanding issuers ticket = .ok [] := by
    rw [Derivation.outstanding, ticket.keys_eq_nil allOpen]
    rfl
  rw [resolve]
  cases strategy.codec with
  | none =>
    dsimp only
    rw [Consult.outcome_bind, resolves ticket rfl]
    exact ⟨_, _, rfl⟩
  | some codec =>
    dsimp only
    rw [Consult.outcome_bind, resolves (Derivation.withoutSources ticket) rfl]
    dsimp only
    rw [Consult.outcome_bind, Consult.outcome_lift, nothing]
    exact ⟨_, _, rfl⟩

/-- Nothing is granted unless an alternative is settled. -/
theorem isSatisfied_of_success (eliminating : strategy.settlement.method = .elimination)
    {supply left : Supply} {granted : List Permission}
    (resolved : (strategy.resolve descriptions issuers supply ticket).outcome =
      .ok (.success granted, left)) : ticket.isSatisfied = true := by
  have settles : ∀ (other : Ticket) given, other.required = ticket.required →
      (strategy.settlement.resolve descriptions other).outcome = .ok (.success given) →
      ticket.isSatisfied = true := by
    intro other given same settled
    rw [Settlement.resolve_eq_of_elimination eliminating] at settled
    split at settled
    case isTrue satisfied =>
      rwa [Ticket.isSatisfied, same] at satisfied
    case isFalse => cases settled
  cases coded : strategy.codec with
  | none => exact settles ticket granted rfl (resolve_plain coded resolved)
  | some codec =>
    obtain ⟨_, given, settled, _⟩ := resolve_coded coded resolved
    exact settles (Derivation.withoutSources ticket) given rfl settled

private theorem derivations_of_missing (alternatives : List Requirements)
    (claims : List DerivationClaim) :
    (alternatives.map MissingClaims.alternative ++ claims.map MissingClaims.derivation).filterMap
      MissingClaims.derivation? = claims := by
  induction alternatives with
  | nil => exact (List.filterMap_map ..).trans List.filterMap_some
  | cons alternative rest ih => exact ih

private theorem derivations_of_settlement {missing : List MissingClaims}
    (failed : (strategy.settlement.resolve descriptions ticket).outcome = .ok (.failure missing)) :
    missing.filterMap MissingClaims.derivation? = [] := by
  cases method : strategy.settlement.method with
  | judgement =>
    rw [Settlement.resolve, method] at failed
    obtain ⟨decided, _, failed⟩ := Consult.bind_outcome_eq_ok_iff.mp failed
    generalize Settlement.nonemptyGrants decided = grants at failed
    cases grants with
    | nil =>
      cases failed
      rfl
    | cons first rest => cases failed
  | elimination =>
    rw [Settlement.resolve_eq_of_elimination method] at failed
    split at failed
    · cases failed
    · cases failed
      have none := derivations_of_missing ticket.required []
      rwa [List.map_nil, List.append_nil] at none

private theorem derivations_append {missing : List MissingClaims} (claims : List DerivationClaim)
    (none : missing.filterMap MissingClaims.derivation? = []) :
    (missing ++ claims.map MissingClaims.derivation).filterMap MissingClaims.derivation? = claims := by
  rw [List.filterMap_append, none]
  exact derivations_of_missing [] claims

/-- A ticket that is not granted says for which sources it lacks tokens. -/
theorem outstanding_of_failure
    (sourceless : strategy.codec = none → ∀ id, ticket.isDerived id = false)
    {supply left : Supply} {missing : List MissingClaims}
    (resolved : (strategy.resolve descriptions issuers supply ticket).outcome =
      .ok (.failure missing, left)) :
    List.Forall₂ (Derivation.Describes issuers) ticket.derivedIds.keys
      (missing.filterMap MissingClaims.derivation?) := by
  cases coded : strategy.codec with
  | none =>
    rw [derivations_of_settlement (resolve_plain coded resolved), ticket.keys_eq_nil (sourceless coded)]
    exact .nil
  | some codec =>
    rw [resolve, coded] at resolved
    obtain ⟨settled, settling, resolved⟩ := Consult.bind_outcome_eq_ok_iff.mp resolved
    obtain ⟨claims, demanded, resolved⟩ := Consult.bind_outcome_eq_ok_iff.mp resolved
    have described := Derivation.claimsFor_describes demanded
    cases settled with
    | success granted =>
      cases claims with
      | nil => cases resolved
      | cons claim rest =>
        cases resolved
        have all := derivations_of_missing [] (claim :: rest)
        exact all.symm ▸ described
    | failure lacking =>
      cases resolved
      rw [derivations_append claims (derivations_of_settlement settling)]
      exact described

end Strategy

end UmaGrant
