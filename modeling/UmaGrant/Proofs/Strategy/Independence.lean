import Mathlib.Data.List.Forall2
import Mathlib.Data.List.Induction
import UmaGrant.Proofs.Strategy.Provenance
/-! # What tickets do not depend on

Opening a ticket writes down the servers behind its sources, and resolving it reads them. Nothing
else that a strategy does depends on them: they are named to the client, and that is all. The same
goes for fresh numbers, which end up in synthetic identifiers. So a ticket that is resolved among
other servers and with other numbers comes to the same, up to the issuers that are named and to fresh
identifiers.
-/

namespace UmaGrant

/-! ## Servers behind sources -/

/-- Which sources are listed for what a client asks for, and which for what others ask for. -/
structure Listings where
  own : Source → Prop
  others : Source → Prop

/-- Whether all that is listed is listed in another place too. -/
structure Listings.Within (listings more : Listings) : Prop where
  own : ∀ source, listings.own source → more.own source
  others : ∀ source, listings.others source → more.others source

theorem Listings.Within.refl (listings : Listings) : listings.Within listings :=
  ⟨fun _ listed => listed, fun _ listed => listed⟩

/-- Whether no source is listed with one server for the client and with another one for others. -/
def Listings.Unambiguous (listings : Listings) : Prop :=
  ∀ issuer other id, listings.own ⟨issuer, id⟩ → listings.others ⟨other, id⟩ → other = issuer

/-- Nothing is listed. -/
def Listings.none : Listings := ⟨fun _ => False, fun _ => False⟩

namespace Issuers

/-- The server behind a source is that of its last listing, else the one that was known before. -/
theorem register_cases (sources : List Source) (id : String) :
    (∃ issuer, ⟨issuer, id⟩ ∈ sources ∧
        ∀ issuers : Issuers, (issuers.register sources).get? id = some issuer) ∨
      (∀ source ∈ sources, source.derivationResourceId ≠ id) ∧
        ∀ issuers : Issuers, (issuers.register sources).get? id = issuers.get? id := by
  induction sources using List.reverseRecOn with
  | nil => exact .inr ⟨nofun, fun _ => rfl⟩
  | append_singleton earlier last ih =>
    have grown : ∀ issuers : Issuers, issuers.register (earlier ++ [last]) =
        (issuers.register earlier).insert last.derivationResourceId last.issuer :=
      fun issuers => List.foldl_concat ..
    by_cases same : id = last.derivationResourceId
    · subst same
      refine .inl ⟨last.issuer, List.mem_append_right _ (List.mem_singleton_self _), ?_⟩
      intro issuers
      rw [grown, Dict.get?_insert_same]
    · rcases ih with ⟨issuer, listed, registered⟩ | ⟨others, unchanged⟩
      · refine .inl ⟨issuer, List.mem_append_left _ listed, fun issuers => ?_⟩
        rw [grown, Dict.get?_insert_other _ same, registered]
      · refine .inr ⟨fun source member => ?_, fun issuers => ?_⟩
        · rcases List.mem_append.mp member with early | late
          · exact others source early
          · rw [List.mem_singleton.mp late]
            exact Ne.symm same
        · rw [grown, Dict.get?_insert_other _ same, unchanged]

/-- Whether servers are known in two places for every source that a ticket demands. They are the same,
unless the client had one written down and in the second place another one had a different one. -/
def Back (listings : Listings) (first second : Issuers) (ticket : Ticket) : Prop :=
  ∀ id, ticket.isDerived id = true → ∃ issuer other, first.get? id = some issuer ∧
    second.get? id = some other ∧ listings.own ⟨issuer, id⟩ ∧
    (other = issuer ∨ listings.others ⟨other, id⟩)

variable {listings : Listings} {first second : Issuers} {ticket : Ticket} {sources : List Source}

/-- Sources of the client may be registered in both places. -/
theorem Back.register (back : first.Back listings second ticket)
    (own : ∀ source ∈ sources, listings.own source) :
    (first.register sources).Back listings (second.register sources) ticket := by
  intro id derived
  rcases register_cases sources id with ⟨issuer, listed, registered⟩ | ⟨_, unchanged⟩
  · exact ⟨issuer, issuer, registered first, registered second, own _ listed, .inl rfl⟩
  · rw [unchanged, unchanged]
    exact back id derived

/-- Sources of others may be registered in the second place alone. -/
theorem Back.register_others (back : first.Back listings second ticket)
    (others : ∀ source ∈ sources, listings.others source) :
    first.Back listings (second.register sources) ticket := by
  intro id derived
  obtain ⟨issuer, other, known, found, own, same⟩ := back id derived
  rcases register_cases sources id with ⟨last, listed, registered⟩ | ⟨_, unchanged⟩
  · exact ⟨issuer, last, known, registered second, own, .inr (others _ listed)⟩
  · exact ⟨issuer, other, known, (unchanged second).trans found, own, same⟩

/-- A ticket all of whose sources have been registered in both places. -/
theorem back_register (own : ∀ source ∈ sources, listings.own source)
    (demanded : ∀ id, ticket.isDerived id = true → ∃ source ∈ sources,
      source.derivationResourceId = id) :
    (first.register sources).Back listings (second.register sources) ticket := by
  intro id derived
  obtain ⟨source, listed, same⟩ := demanded id derived
  rcases register_cases sources id with ⟨issuer, among, registered⟩ | ⟨others, _⟩
  · exact ⟨issuer, issuer, registered first, registered second, own _ among, .inl rfl⟩
  · exact absurd same (others source listed)

end Issuers

/-! ## What the client gets to see -/

/-- Whether two descriptors of a source are the same, unless the client had the issuer of the first one
written down and another one had that of the second one. -/
def DerivationClaim.Alike (listings : Listings) (first second : DerivationClaim) : Prop :=
  ∃ issuer, second = { first with issuer } ∧ (issuer = first.issuer ∨
    listings.own ⟨first.issuer, first.derivationResourceId⟩ ∧
      listings.others ⟨issuer, first.derivationResourceId⟩)

theorem DerivationClaim.Alike.refl (listings : Listings) (claim : DerivationClaim) :
    claim.Alike listings claim := ⟨claim.issuer, rfl, .inl rfl⟩

theorem DerivationClaim.Alike.of_unambiguous {listings : Listings} {first second : DerivationClaim}
    (alike : first.Alike listings second) (unambiguous : listings.Unambiguous) :
    first.Alike .none second := by
  obtain ⟨issuer, rfl, same | ⟨own, others⟩⟩ := alike
  · exact ⟨issuer, rfl, .inl same⟩
  · exact ⟨issuer, rfl, .inl (unambiguous _ _ _ own others)⟩

/-- Whether the same is missing, up to issuers that others had written down. -/
inductive MissingClaims.Alike (listings : Listings) : MissingClaims → MissingClaims → Prop
  | alternative (requirements : Requirements) :
      Alike listings (.alternative requirements) (.alternative requirements)
  | derivation {claim other : DerivationClaim} (alike : claim.Alike listings other) :
      Alike listings (.derivation claim) (.derivation other)

theorem MissingClaims.filterMap_alike {listings : Listings} {missing others : List MissingClaims}
    (alike : List.Forall₂ (MissingClaims.Alike listings) missing others) :
    List.Forall₂ (DerivationClaim.Alike listings) (missing.filterMap MissingClaims.derivation?)
      (others.filterMap MissingClaims.derivation?) := by
  induction alike with
  | nil => exact .nil
  | cons related _ ih =>
    cases related with
    | alternative requirements => exact ih
    | derivation claims => exact .cons claims ih

namespace Strategy

variable {strategy : Strategy} {descriptions : Descriptions} {asked : List Permission}
  {ticket : Ticket} {listings : Listings} {first second : Issuers}

/-- Whether identifiers are the same, up to the fresh numbers in synthetic ones. -/
def SameId (strategy : Strategy) (first second : String) : Prop :=
  second = first ∨ ∃ codec number other id, strategy.codec = some codec ∧
    first = codec.encode (Fresh.nonce number) id ∧ second = codec.encode (Fresh.nonce other) id

/-- Whether grants are the same, up to the fresh numbers in synthetic identifiers. -/
def Renamed (strategy : Strategy) (first second : Permission) : Prop :=
  ∃ id, second = { first with resourceId := id } ∧ strategy.SameId first.resourceId id

theorem Renamed.refl (permission : Permission) : strategy.Renamed permission permission :=
  ⟨permission.resourceId, rfl, .inl rfl⟩

/-- Whether two resolutions are the same, up to fresh numbers and to issuers that others had written
down. -/
inductive Alike (strategy : Strategy) (listings : Listings) : Resolution → Resolution → Prop
  | success {granted others : List Permission}
      (renamed : List.Forall₂ strategy.Renamed granted others) :
      Alike strategy listings (.success granted) (.success others)
  | failure {missing others : List MissingClaims}
      (alike : List.Forall₂ (MissingClaims.Alike listings) missing others) :
      Alike strategy listings (.failure missing) (.failure others)

private theorem mask_renamed {codec : IdCodec} (coded : strategy.codec = some codec)
    (ticket : Ticket) (granted : Permission) (supply other : Supply) :
    strategy.Renamed (Derivation.mask codec ticket supply granted).1
      (Derivation.mask codec ticket other granted).1 := by
  unfold Derivation.mask
  cases ticket.aliases.get? granted.resourceId with
  | some cover => exact .refl _
  | none =>
    by_cases reads : granted.hasScope Scope.derivationRead = true
    · simp only [reads, if_true]
      exact ⟨_, rfl, .inr ⟨codec, supply.next, other.next, granted.resourceId, coded, rfl, rfl⟩⟩
    · simp only [reads]
      exact .refl _

private theorem maskAll_renamed {codec : IdCodec} (coded : strategy.codec = some codec)
    (ticket : Ticket) (granted : List Permission) (supply other : Supply) :
    List.Forall₂ strategy.Renamed (Derivation.maskAll codec ticket supply granted).1
      (Derivation.maskAll codec ticket other granted).1 := by
  induction granted generalizing supply other with
  | nil => exact .nil
  | cons grant rest ih => exact .cons (mask_renamed coded ticket grant supply other) (ih _ _)

/-! ## Opening -/

/-- Whether a source is listed for a resource that is asked for. -/
def Lists (strategy : Strategy) (descriptions : Descriptions) (asked : List Permission)
    (source : Source) : Prop :=
  strategy.codec.isSome = true ∧ ∃ wanted ∈ asked, ∃ description,
    descriptions.lookup (strategy.realId wanted.resourceId) = .ok (some description) ∧
    source ∈ description.derivedFrom

/-- A ticket that is opened, and the sources whose servers are registered with it. -/
structure Opening where
  ticket : Ticket
  sources : List Source

/-- What opening a ticket comes to, before the servers behind its sources are registered. -/
def opening (strategy : Strategy) (descriptions : Descriptions) (asked : List Permission) :
    Except GrantError Opening :=
  match strategy.codec with
  | none => do
    let ticket ← (strategy.settlement.openTicket descriptions asked).outcome
    .ok ⟨ticket, []⟩
  | some codec => do
    let unmasked := asked.map (Derivation.unmask codec)
    let ticket ← (strategy.settlement.openTicket descriptions unmasked).outcome
    let sources ← Sourced.sourcesOf descriptions unmasked
    .ok ⟨sources.foldl Ticket.demand { ticket with aliases := Derivation.aliases codec asked },
      sources⟩

/-- Opening a ticket does not depend on the servers that are known already. -/
theorem openTicket_eq (strategy : Strategy) (descriptions : Descriptions) (issuers : Issuers)
    (asked : List Permission) :
    (strategy.openTicket descriptions issuers asked).outcome =
      (strategy.opening descriptions asked).map fun opened =>
        ⟨opened.ticket, issuers.register opened.sources⟩ := by
  unfold openTicket opening
  cases strategy.codec with
  | none =>
    dsimp only
    rw [Consult.outcome_bind]
    cases (strategy.settlement.openTicket descriptions asked).outcome <;> rfl
  | some codec =>
    dsimp only
    rw [Consult.outcome_bind]
    cases (strategy.settlement.openTicket descriptions
        (asked.map (Derivation.unmask codec))).outcome with
    | error error => rfl
    | ok ticket =>
      dsimp only
      rw [Consult.outcome_lift, Sourced.demandFor_eq]
      change _ = Except.map _ (Sourced.sourcesOf descriptions _ >>= _)
      cases Sourced.sourcesOf descriptions (asked.map (Derivation.unmask codec)) <;> rfl

/-- The sources that are registered with a ticket are listed for what is asked for, and all sources
that the ticket demands are among them. -/
theorem opening_sources {opened : Opening}
    (opens : strategy.opening descriptions asked = .ok opened) :
    (∀ source ∈ opened.sources, strategy.Lists descriptions asked source) ∧
      ∀ id, opened.ticket.isDerived id = true →
        ∃ source ∈ opened.sources, source.derivationResourceId = id := by
  unfold opening at opens
  cases coded : strategy.codec with
  | none =>
    rw [coded] at opens
    obtain ⟨ticket, settled, same⟩ := except_bind_eq_ok_iff.mp opens
    obtain ⟨required, rfl⟩ := Settlement.openTicket_eq settled
    cases same
    exact ⟨nofun, fun id derived => nomatch derived⟩
  | some codec =>
    rw [coded] at opens
    obtain ⟨ticket, settled, opens⟩ := except_bind_eq_ok_iff.mp opens
    obtain ⟨sources, found, same⟩ := except_bind_eq_ok_iff.mp opens
    obtain ⟨required, rfl⟩ := Settlement.openTicket_eq settled
    cases same
    refine ⟨fun source listed => ?_, fun id derived => ?_⟩
    · obtain ⟨permission, member, description, looked, among⟩ :=
        (Sourced.mem_sourcesOf found).mp listed
      obtain ⟨wanted, asking, rfl⟩ := List.mem_map.mp member
      rw [Derivation.unmask_resourceId, ← realId_coded coded] at looked
      exact ⟨by rw [coded]; rfl, wanted, asking, description, looked, among⟩
    · exact (Ticket.isDerived_foldl_demand.mp derived).resolve_right nofun

/-! ## Resolving -/

private theorem claimsFor_alike {ids : List String}
    (back : ∀ id ∈ ids, ∃ issuer other, first.get? id = some issuer ∧
      second.get? id = some other ∧ listings.own ⟨issuer, id⟩ ∧
      (other = issuer ∨ listings.others ⟨other, id⟩)) :
    ∃ claims others, Derivation.claimsFor first ids = .ok claims ∧
      Derivation.claimsFor second ids = .ok others ∧
      List.Forall₂ (DerivationClaim.Alike listings) claims others := by
  induction ids with
  | nil => exact ⟨[], [], rfl, rfl, .nil⟩
  | cons id rest ih =>
    obtain ⟨issuer, other, known, found, own, same⟩ := back id List.mem_cons_self
    obtain ⟨claims, others, more, further, alike⟩ :=
      ih fun id member => back id (List.mem_cons_of_mem _ member)
    rw [Derivation.claimsFor, Derivation.claimsFor, known, found, more, further]
    exact ⟨_, _, rfl, rfl, .cons ⟨other, rfl, same.imp_right (.intro own)⟩ alike⟩

private theorem outstanding_alike (back : first.Back listings second ticket) :
    ∃ claims others, Derivation.outstanding first ticket = .ok claims ∧
      Derivation.outstanding second ticket = .ok others ∧
      List.Forall₂ (DerivationClaim.Alike listings) claims others :=
  claimsFor_alike fun id member => back id (Dict.mem_keys_iff.mp member)

private theorem missing_alike (missing : List MissingClaims) {claims others : List DerivationClaim}
    (alike : List.Forall₂ (DerivationClaim.Alike listings) claims others) :
    List.Forall₂ (MissingClaims.Alike listings) (missing ++ claims.map .derivation)
      (missing ++ others.map .derivation) := by
  induction missing with
  | nil =>
    rw [List.nil_append, List.nil_append, List.forall₂_map_left_iff, List.forall₂_map_right_iff]
    exact alike.imp fun _ _ => .derivation
  | cons first rest ih =>
    refine .cons ?_ ih
    cases first with
    | alternative requirements => exact .alternative requirements
    | derivation claim => exact .derivation (.refl listings claim)

private theorem resolve_alike_of_outstanding (strategy : Strategy) (descriptions : Descriptions)
    (demands :
      (∃ error, Derivation.outstanding first ticket = .error error ∧
        Derivation.outstanding second ticket = .error error) ∨
      ∃ claims others, Derivation.outstanding first ticket = .ok claims ∧
        Derivation.outstanding second ticket = .ok others ∧
        List.Forall₂ (DerivationClaim.Alike listings) claims others)
    (supply other : Supply) :
    (∃ error, (strategy.resolve descriptions first supply ticket).outcome = .error error ∧
        (strategy.resolve descriptions second other ticket).outcome = .error error) ∨
      ∃ resolution another left after,
        (strategy.resolve descriptions first supply ticket).outcome = .ok (resolution, left) ∧
        (strategy.resolve descriptions second other ticket).outcome = .ok (another, after) ∧
        strategy.Alike listings resolution another := by
  cases coded : strategy.codec with
  | none =>
    rw [resolve, resolve, coded]
    dsimp only
    rw [Consult.outcome_bind, Consult.outcome_bind]
    cases (strategy.settlement.resolve descriptions ticket).outcome with
    | error error => exact .inl ⟨error, rfl, rfl⟩
    | ok resolution =>
      refine .inr ⟨resolution, resolution, supply, other, rfl, rfl, ?_⟩
      cases resolution with
      | success granted => exact .success (List.forall₂_same.mpr fun grant _ => .refl grant)
      | failure missing =>
        have alike : List.Forall₂ (MissingClaims.Alike listings) (missing ++ []) (missing ++ []) :=
          missing_alike missing .nil
        rw [List.append_nil] at alike
        exact .failure alike
  | some codec =>
    rw [resolve, resolve, coded]
    dsimp only
    rw [Consult.outcome_bind, Consult.outcome_bind]
    cases (strategy.settlement.resolve descriptions (Derivation.withoutSources ticket)).outcome with
    | error error => exact .inl ⟨error, rfl, rfl⟩
    | ok resolution =>
      dsimp only
      rw [Consult.outcome_bind, Consult.outcome_bind, Consult.outcome_lift, Consult.outcome_lift]
      rcases demands with ⟨error, demanded, demandedToo⟩ |
        ⟨claims, others, demanded, demandedToo, alike⟩
      · rw [demanded, demandedToo]
        exact .inl ⟨error, rfl, rfl⟩
      · rw [demanded, demandedToo]
        refine .inr ?_
        cases resolution with
        | failure missing => exact ⟨_, _, _, _, rfl, rfl, .failure (missing_alike missing alike)⟩
        | success granted =>
          cases alike with
          | nil =>
            exact ⟨_, _, _, _, rfl, rfl, .success (maskAll_renamed coded ticket granted supply other)⟩
          | cons same more =>
            exact ⟨_, _, _, _, rfl, rfl, .failure (missing_alike [] (.cons same more))⟩

/-- A ticket is resolved alike among different servers and with different numbers, as long as there
are servers for all its sources. -/
theorem resolve_alike (strategy : Strategy) (descriptions : Descriptions)
    (back : first.Back listings second ticket) (supply other : Supply) :
    (∃ error, (strategy.resolve descriptions first supply ticket).outcome = .error error ∧
        (strategy.resolve descriptions second other ticket).outcome = .error error) ∨
      ∃ resolution another left after,
        (strategy.resolve descriptions first supply ticket).outcome = .ok (resolution, left) ∧
        (strategy.resolve descriptions second other ticket).outcome = .ok (another, after) ∧
        strategy.Alike listings resolution another :=
  resolve_alike_of_outstanding strategy descriptions (.inr (outstanding_alike back)) supply other

/-- Among the same servers a ticket is resolved alike with different numbers in any case. -/
theorem resolve_renumbered (strategy : Strategy) (descriptions : Descriptions) (issuers : Issuers)
    (ticket : Ticket) (supply other : Supply) :
    (∃ error, (strategy.resolve descriptions issuers supply ticket).outcome = .error error ∧
        (strategy.resolve descriptions issuers other ticket).outcome = .error error) ∨
      ∃ resolution another left after,
        (strategy.resolve descriptions issuers supply ticket).outcome = .ok (resolution, left) ∧
        (strategy.resolve descriptions issuers other ticket).outcome = .ok (another, after) ∧
        strategy.Alike .none resolution another := by
  refine resolve_alike_of_outstanding strategy descriptions ?_ supply other
  cases Derivation.outstanding issuers ticket with
  | error error => exact .inl ⟨error, rfl, rfl⟩
  | ok claims => exact .inr ⟨claims, claims, rfl, rfl, List.forall₂_same.mpr fun claim _ => .refl _ claim⟩

end Strategy

end UmaGrant
