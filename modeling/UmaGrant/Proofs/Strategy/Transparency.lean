import UmaGrant.Proofs.Strategy.Lacking
/-! # A strategy for which nothing is derived

A strategy that knows derived resources does what its settlement does as long as nothing has to do with
them: no resource that is asked for has a synthetic identifier or a source, nobody asks to read for the
sake of a derived resource, and no claim set says what an access token grants. Then it undoes no
identifier, demands no source and puts no identifier back. For the last of these the authorizer must give
no scope that was not asked for.
-/

namespace UmaGrant

/-- Whether a permission has nothing to do with derived resources, and whatever is known of its resource
can be looked up. -/
structure Permission.IsPlain (codec : IdCodec) (descriptions : Descriptions)
    (permission : Permission) : Prop where
  undecoded : codec.decode? permission.resourceId = none
  sourceless : ∃ known, descriptions.lookup permission.resourceId = .ok known ∧
    ∀ description, known = some description → description.derivedFrom = []
  /-- No scope gives access to a source, neither by name nor by wildcard. -/
  scopes : ∀ scope ∈ permission.resourceScopes,
    scope ≠ Scope.derivationRead ∧ scope ≠ Permission.anyScope

/-- Whether a ticket has nothing to do with derived resources. -/
structure Ticket.IsPlain (ticket : Ticket) : Prop where
  derivedIds : ticket.derivedIds = .empty
  aliases : ticket.aliases = .empty
  scopes : ∀ permission ∈ ticket.permissions, ∀ scope ∈ permission.resourceScopes,
    scope ≠ Scope.derivationRead ∧ scope ≠ Permission.anyScope

/-- No grant within what such a ticket asks for opens a source. -/
theorem Ticket.IsPlain.opensNone {ticket : Ticket} (plain : ticket.IsPlain) {grant : Permission}
    (restricted : ∃ wanted ∈ ticket.permissions, grant.Restricts wanted) :
    grant.hasScope Scope.derivationRead = false := by
  obtain ⟨wanted, member, restricts⟩ := restricted
  refine List.any_eq_false.mpr fun scope own => ?_
  obtain ⟨other, limited⟩ := plain.scopes wanted member scope (restricts.2 own)
  simp [other, limited]

section

variable {codec : IdCodec} {descriptions : Descriptions} {asked : List Permission}
  (plain : ∀ permission ∈ asked, permission.IsPlain codec descriptions)

include plain

private theorem Derivation.unmask_plain : asked.map (Derivation.unmask codec) = asked := by
  have each : ∀ permission ∈ asked, Derivation.unmask codec permission = permission := by
    intro permission member
    rw [Derivation.unmask, (plain permission member).undecoded]
  rw [List.map_congr_left each, List.map_id']

private theorem Derivation.aliases_plain : Derivation.aliases codec asked = .empty := by
  unfold Derivation.aliases
  induction asked with
  | nil => rfl
  | cons permission rest ih =>
    obtain ⟨first, others⟩ := List.forall_mem_cons.mp plain
    rw [List.foldl_cons, first.undecoded]
    exact ih others

private theorem Sourced.demandFor_plain (sourced : Sourced) :
    Sourced.demandFor descriptions sourced asked = .ok sourced := by
  induction asked generalizing sourced with
  | nil => rfl
  | cons permission rest ih =>
    obtain ⟨first, others⟩ := List.forall_mem_cons.mp plain
    obtain ⟨known, looked, sourceless⟩ := first.sourceless
    have none : (known.map (·.derivedFrom)).getD [] = [] := by
      cases known with
      | none => rfl
      | some description => exact sourceless description rfl
    rw [Sourced.demandFor, looked]
    change Sourced.demandFor descriptions (((known.map (·.derivedFrom)).getD []).foldl _ _) rest = _
    rw [none]
    exact ih others sourced

end

namespace Derivation

variable {codec : IdCodec} {ticket : Ticket}

/-- Without sources there is nothing to take off a ticket. -/
private theorem withoutSources_plain (plain : ticket.IsPlain) : withoutSources ticket = ticket := by
  have own : ticket.resourcePermissions = ticket.permissions :=
    List.filter_eq_self.mpr fun permission _ => by rw [Ticket.isDerived, plain.derivedIds]; rfl
  rw [withoutSources, own, ← plain.derivedIds]

/-- Grants that open no source keep their identifiers. -/
private theorem maskAll_plain (plain : ticket.IsPlain) (supply : Supply) {granted : List Permission}
    (restricted : Permission.AllRestrict granted ticket.permissions) :
    maskAll codec ticket supply granted = (granted, supply) := by
  induction granted with
  | nil => rfl
  | cons first rest ih =>
    obtain ⟨within, others⟩ := List.forall_mem_cons.mp restricted
    have kept : mask codec ticket supply first = (first, supply) := by
      rw [mask, plain.aliases]
      simp [plain.opensNone within]
    rw [maskAll, kept]
    dsimp only
    rw [ih others]

end Derivation

namespace Strategy

variable {strategy : Strategy} {codec : IdCodec} {descriptions : Descriptions} {issuers : Issuers}
  {asked : List Permission} {ticket : Ticket} {claims : Claims}

/-- The strategy without its knowledge of derived resources. -/
def bare (strategy : Strategy) : Strategy := ⟨strategy.settlement, none⟩

/-! ## Opening -/

/-- A ticket for plain permissions is opened as without the knowledge of derived resources. -/
theorem openTicket_bare (coded : strategy.codec = some codec)
    (plain : ∀ permission ∈ asked, permission.IsPlain codec descriptions) :
    strategy.openTicket descriptions issuers asked =
      strategy.bare.openTicket descriptions issuers asked := by
  rw [openTicket, coded]
  dsimp only
  rw [Derivation.unmask_plain plain, Derivation.aliases_plain plain]
  refine Consult.bind_congr_outcome fun opened settled => ?_
  obtain ⟨required, rfl⟩ := Settlement.openTicket_eq settled
  rw [Sourced.demandFor_plain plain]
  rfl

/-- Such a ticket is plain. -/
theorem isPlain_openTicket (coded : strategy.codec = some codec)
    (plain : ∀ permission ∈ asked, permission.IsPlain codec descriptions) {sourced : Sourced}
    (opened : (strategy.openTicket descriptions issuers asked).outcome = .ok sourced) :
    sourced.ticket.IsPlain := by
  rw [openTicket_bare coded plain] at opened
  obtain ⟨ticket, settled, same⟩ := Consult.bind_outcome_eq_ok_iff.mp opened
  cases same
  obtain ⟨required, rfl⟩ := Settlement.openTicket_eq settled
  exact ⟨rfl, rfl, fun permission member => (plain permission member).scopes⟩

/-! ## Adding claims -/

/-- Claims that say nothing of what an access token grants are added as without that knowledge. -/
theorem addClaims_bare (coded : strategy.codec = some codec)
    (silent : claims.get? ClaimType.access = none) (ticket : Ticket) :
    strategy.addClaims ticket claims = strategy.bare.addClaims ticket claims := by
  have nothing : Derivation.provenGrants? claims = none := by
    rw [Derivation.provenGrants?, silent]
    rfl
  rw [addClaims, coded]
  dsimp only
  rw [Derivation.proveAll, Derivation.unmaskClaims, nothing]
  rfl

theorem isPlain_addClaims (plain : ticket.IsPlain) (coded : strategy.codec = some codec)
    (silent : claims.get? ClaimType.access = none) :
    (strategy.addClaims ticket claims).value.IsPlain := by
  rw [addClaims_bare coded silent]
  obtain ⟨required, provided, same⟩ := strategy.settlement.addClaims_value ticket claims
  change (strategy.settlement.addClaims ticket claims).value.IsPlain
  rw [same]
  exact { plain with }

theorem isPlain_addAll (plain : ticket.IsPlain) (coded : strategy.codec = some codec)
    {shown : List Claims} (silent : ∀ claims ∈ shown, claims.get? ClaimType.access = none) :
    (strategy.addAll ticket shown).IsPlain := by
  induction shown generalizing ticket with
  | nil => exact plain
  | cons claims rest ih =>
    obtain ⟨first, others⟩ := List.forall_mem_cons.mp silent
    exact ih (isPlain_addClaims plain coded first) others

/-! ## Resolving -/

/-- A plain ticket is resolved as without the knowledge of derived resources. -/
theorem resolve_bare (coded : strategy.codec = some codec)
    (own : strategy.settlement.authorizer.isOwn = true) (plain : ticket.IsPlain) (supply : Supply) :
    strategy.resolve descriptions issuers supply ticket =
      strategy.bare.resolve descriptions issuers supply ticket := by
  have noneLeft : Derivation.outstanding issuers ticket = .ok [] := by
    rw [Derivation.outstanding, plain.derivedIds]
    rfl
  unfold resolve
  rw [coded, Derivation.withoutSources_plain plain, noneLeft]
  refine Consult.bind_congr_outcome fun resolution resolved => ?_
  cases resolution with
  | success granted =>
    -- Nothing is granted that was not asked for, so no grant opens a source and gets another name.
    have restricted := Settlement.resolve_restricts own resolved
    change (pure _ : Consult _) = _
    rw [Derivation.maskAll_plain plain supply restricted]
  | failure missing =>
    change (pure (Outcome.failure (missing ++ []), supply) : Consult (Resolution × Supply)) = _
    rw [List.append_nil]

/-- It is not held up by sources. -/
theorem derivations_of_isPlain (plain : ticket.IsPlain) {supply left : Supply}
    {missing : List MissingClaims}
    (failed : (strategy.resolve descriptions issuers supply ticket).outcome =
      .ok (.failure missing, left)) :
    missing.filterMap MissingClaims.derivation? = [] := by
  have described := outstanding_of_failure
    (fun _ id => by rw [Ticket.isDerived, plain.derivedIds]; rfl) failed
  rw [plain.derivedIds] at described
  exact List.forall₂_nil_left_iff.mp described

/-- What is granted on it opens no source of another server. -/
theorem hasScope_of_isPlain (coded : strategy.codec = some codec)
    (own : strategy.settlement.authorizer.isOwn = true) (plain : ticket.IsPlain)
    {supply left : Supply} {granted : List Permission}
    (succeeded : (strategy.resolve descriptions issuers supply ticket).outcome =
      .ok (.success granted, left)) :
    ∀ grant ∈ granted, grant.hasScope Scope.derivationRead = false := by
  rw [resolve_bare coded own plain] at succeeded
  have sourceless : strategy.bare.codec = none := rfl
  have restricted := Settlement.resolve_restricts own (resolve_plain sourceless succeeded)
  exact fun grant member => plain.opensNone (restricted grant member)

end Strategy

end UmaGrant
