import UmaGrant.Proofs.Strategy.Independence
/-! # The servers behind sources are known

A server is written down for each source before a ticket demands the source, and nothing is ever taken
out of the register. So the register goes on naming a server for each source of a ticket, whatever is
written down and shown later, and no ticket fails to be resolved for want of one.
-/

namespace UmaGrant

variable {issuers later : Issuers} {ticket : Ticket} {sources : List Source} {id : String}

namespace Issuers

/-- Whether a register is another one in which more may have been written down since. -/
def GrownFrom (later issuers : Issuers) : Prop := ∃ sources, later = issuers.register sources

theorem GrownFrom.refl (issuers : Issuers) : issuers.GrownFrom issuers := ⟨[], rfl⟩

theorem GrownFrom.trans {last : Issuers} (after : last.GrownFrom later) (before : later.GrownFrom issuers) :
    last.GrownFrom issuers := by
  obtain ⟨sources, rfl⟩ := before
  obtain ⟨more, rfl⟩ := after
  exact ⟨sources ++ more, List.foldl_append.symm⟩

/-- Whether a server is known for each source that a ticket demands, and the ticket has an entry for each
of them. -/
def Knows (issuers : Issuers) (ticket : Ticket) : Prop :=
  ∀ id, ticket.isDerived id = true →
    (∃ issuer, issuers.get? id = some issuer) ∧ .of id [Scope.derivationRead] ∈ ticket.permissions

/-- What is known stays known, though the server may be another one. -/
theorem Knows.grown (knows : issuers.Knows ticket) (grown : later.GrownFrom issuers) :
    later.Knows ticket := by
  obtain ⟨sources, rfl⟩ := grown
  refine fun id derived => (knows id derived).imp_left fun ⟨issuer, known⟩ => ?_
  rcases register_cases sources id with ⟨last, -, registered⟩ | ⟨-, unchanged⟩
  · exact ⟨last, registered issuers⟩
  · exact ⟨issuer, (unchanged issuers).trans known⟩

end Issuers

/-! ## Entries for sources -/

/-- Whether a ticket has an entry for each source that it demands. -/
def Ticket.ListsSources (ticket : Ticket) : Prop :=
  ∀ id, ticket.isDerived id = true → .of id [Scope.derivationRead] ∈ ticket.permissions

namespace Ticket.ListsSources

theorem demand (lists : ticket.ListsSources) (source : Source) : (ticket.demand source).ListsSources := by
  unfold Ticket.demand
  by_cases known : ticket.isDerived source.derivationResourceId = true
  · rwa [if_pos known]
  · rw [if_neg known]
    intro id derived
    rcases isDerived_addDerived.mp derived with rfl | before
    · exact List.mem_append_right _ (List.mem_singleton_self _)
    · exact List.mem_append_left _ (lists id before)

theorem foldl_demand (lists : ticket.ListsSources) (sources : List Source) :
    (sources.foldl Ticket.demand ticket).ListsSources := by
  induction sources generalizing ticket with
  | nil => exact lists
  | cons source rest ih => exact ih (lists.demand source)

/-- Claims take an entry away only with its source. -/
theorem proveAll (lists : ticket.ListsSources) (claims : Claims) :
    (Derivation.proveAll ticket claims).ListsSources := fun id derived =>
  Derivation.mem_permissions_proveAll.mpr
    ⟨lists id (Derivation.isDerived_proveAll.mp derived).1, fun _ => derived⟩

end Ticket.ListsSources

namespace Strategy

variable {strategy : Strategy} {descriptions : Descriptions} {asked : List Permission}

theorem opening_listsSources {opened : Opening} (opens : strategy.opening descriptions asked = .ok opened) :
    opened.ticket.ListsSources := by
  unfold opening at opens
  cases coded : strategy.codec with
  | none =>
    rw [coded] at opens
    obtain ⟨ticket, settled, same⟩ := except_bind_eq_ok_iff.mp opens
    obtain ⟨required, rfl⟩ := Settlement.openTicket_eq settled
    cases same
    exact fun id derived => nomatch derived
  | some codec =>
    rw [coded] at opens
    obtain ⟨ticket, settled, opens⟩ := except_bind_eq_ok_iff.mp opens
    obtain ⟨sources, found, same⟩ := except_bind_eq_ok_iff.mp opens
    obtain ⟨required, rfl⟩ := Settlement.openTicket_eq settled
    cases same
    refine Ticket.ListsSources.foldl_demand (fun id derived => ?_) sources
    cases derived

/-- Opening a ticket writes down a server for each of its sources, and takes nothing out. -/
theorem knows_openTicket {sourced : Sourced}
    (opened : (strategy.openTicket descriptions issuers asked).outcome = .ok sourced) :
    sourced.issuers.GrownFrom issuers ∧ sourced.issuers.Knows sourced.ticket := by
  rw [openTicket_eq] at opened
  cases opens : strategy.opening descriptions asked with
  | error error =>
    rw [opens] at opened
    cases opened
  | ok opening =>
    rw [opens] at opened
    cases opened
    refine ⟨⟨opening.sources, rfl⟩, fun id derived => ⟨?_, opening_listsSources opens id derived⟩⟩
    obtain ⟨source, listed, own⟩ := (opening_sources opens).2 id derived
    rcases Issuers.register_cases opening.sources id with ⟨issuer, -, registered⟩ | ⟨others, -⟩
    · exact ⟨issuer, registered issuers⟩
    · exact absurd own (others source listed)

/-- Showing claims adds no sources and leaves the entries of those that stay. -/
theorem knows_addClaims (knows : issuers.Knows ticket) (claims : Claims) :
    issuers.Knows (strategy.addClaims ticket claims).value := by
  cases coded : strategy.codec with
  | none =>
    obtain ⟨required, provided, same⟩ := addClaims_plain coded ticket claims
    rw [same]
    exact knows
  | some codec =>
    obtain ⟨required, provided, same⟩ := addClaims_coded coded ticket claims
    have lists : ticket.ListsSources := fun id derived => (knows id derived).2
    rw [same]
    intro id derived
    exact ⟨(knows id (Derivation.isDerived_proveAll.mp derived).1).1, lists.proveAll claims id derived⟩

theorem knows_addAll (knows : issuers.Knows ticket) (shown : List Claims) :
    issuers.Knows (strategy.addAll ticket shown) := by
  induction shown generalizing ticket with
  | nil => exact knows
  | cons claims rest ih => exact ih (knows_addClaims knows claims)

end Strategy

/-! ## Resolving -/

theorem Derivation.claimsFor_eq_ok {ids : List String}
    (known : ∀ id ∈ ids, ∃ issuer, issuers.get? id = some issuer) :
    ∃ claims, claimsFor issuers ids = .ok claims := by
  induction ids with
  | nil => exact ⟨[], rfl⟩
  | cons id rest ih =>
    obtain ⟨⟨issuer, found⟩, others⟩ := List.forall_mem_cons.mp known
    obtain ⟨claims, more⟩ := ih others
    rw [claimsFor, found, more]
    exact ⟨_, rfl⟩

/-- A ticket can always say what it demands for its sources. -/
theorem Issuers.Knows.outstanding (knows : issuers.Knows ticket) :
    ∃ claims, Derivation.outstanding issuers ticket = .ok claims :=
  Derivation.claimsFor_eq_ok fun id member => (knows id (Dict.mem_keys_iff.mp member)).1

/-- So a ticket with sources fails to be resolved if and only if the ticket without them does. -/
theorem Strategy.resolve_eq_error_iff {strategy : Strategy} {codec : IdCodec}
    (coded : strategy.codec = some codec) (knows : issuers.Knows ticket) (descriptions : Descriptions)
    (supply : Supply) (error : GrantError) :
    (strategy.resolve descriptions issuers supply ticket).outcome = .error error ↔
      (strategy.settlement.resolve descriptions (Derivation.withoutSources ticket)).outcome =
        .error error := by
  obtain ⟨claims, demanded⟩ := knows.outstanding
  rw [resolve, coded]
  dsimp only
  rw [Consult.outcome_bind]
  cases (strategy.settlement.resolve descriptions (Derivation.withoutSources ticket)).outcome with
  | error own => simp only [Except.error.injEq]
  | ok resolution =>
    dsimp only
    rw [Consult.outcome_bind, Consult.outcome_lift, demanded]
    -- Both sides have succeeded by now.
    cases resolution with
    | failure missing => constructor <;> intro failed <;> cases failed
    | success granted => cases claims <;> constructor <;> intro failed <;> cases failed

end UmaGrant
