import UmaGrant.Proofs.Strategy.Masking
import UmaGrant.Proofs.Strategy.Settlement
import UmaGrant.Proofs.Strategy.Sources
import UmaGrant.Strategy
/-! # Where the entries of a ticket come from

A ticket that was opened for some permissions and has seen some claim sets since has two kinds of
entries: those that were asked for, and those for sources that no claim set has opened so far. Both
invariants hold when a ticket is opened and claims keep them, so they bound what a strategy gives
in the end.
-/

namespace UmaGrant.Strategy

variable {strategy : Strategy} {descriptions opening : Descriptions} {issuers : Issuers}
  {asked : List Permission} {shown : List Claims} {ticket : Ticket} {claims : Claims}

/-- The resource behind an identifier: with a codec synthetic identifiers are undone. -/
def realId (strategy : Strategy) (id : String) : String :=
  match strategy.codec with
  | none => id
  | some codec => codec.realId id

theorem realId_plain (plain : strategy.codec = none) (id : String) : strategy.realId id = id := by
  rw [realId, plain]

theorem realId_coded {codec : IdCodec} (coded : strategy.codec = some codec) (id : String) :
    strategy.realId id = codec.realId id := by
  rw [realId, coded]

/-- Whether a grant is on the resource that is asked for and has only scopes that are asked for, once
synthetic identifiers are undone. -/
def Narrows (strategy : Strategy) (granted wanted : Permission) : Prop :=
  strategy.realId granted.resourceId = strategy.realId wanted.resourceId ∧
    granted.resourceScopes ⊆ wanted.resourceScopes

/-- Whether an identifier is that of a source of a resource that is asked for. -/
def Demands (strategy : Strategy) (descriptions : Descriptions) (asked : List Permission)
    (id : String) : Prop :=
  ∃ wanted ∈ asked, ∃ description,
    descriptions.lookup (strategy.realId wanted.resourceId) = .ok (some description) ∧
    ∃ source ∈ description.derivedFrom, source.derivationResourceId = id

/-- A ticket after claim sets were shown, one after the other. -/
def addAll (strategy : Strategy) (ticket : Ticket) (shown : List Claims) : Ticket :=
  shown.foldl (fun ticket claims => (strategy.addClaims ticket claims).value) ticket

/-- The same with the questions that it takes. -/
def showAll (strategy : Strategy) (ticket : Ticket) : List Claims → Logged Ticket
  | [] => Logged.pure ticket
  | claims :: rest => do
    let grown ← strategy.addClaims ticket claims
    strategy.showAll grown rest

/-! ## What the operations of a strategy do -/

private theorem openTicket_plain (plain : strategy.codec = none) {sourced : Sourced}
    (opened : (strategy.openTicket descriptions issuers asked).outcome = .ok sourced) :
    ∃ required, sourced.ticket = .new asked required := by
  rw [openTicket, plain] at opened
  obtain ⟨ticket, settled, same⟩ := Consult.bind_outcome_eq_ok_iff.mp opened
  cases same
  exact Settlement.openTicket_eq settled

theorem openTicket_coded {codec : IdCodec} (coded : strategy.codec = some codec)
    {sourced : Sourced}
    (opened : (strategy.openTicket descriptions issuers asked).outcome = .ok sourced) :
    ∃ required,
      Sourced.demandFor descriptions
        ⟨{ Ticket.new (asked.map (Derivation.unmask codec)) required with
            aliases := Derivation.aliases codec asked }, issuers⟩
        (asked.map (Derivation.unmask codec)) = .ok sourced := by
  rw [openTicket, coded] at opened
  obtain ⟨ticket, settled, demanded⟩ := Consult.bind_outcome_eq_ok_iff.mp opened
  obtain ⟨required, rfl⟩ := Settlement.openTicket_eq settled
  exact ⟨required, demanded⟩

/-- The sources that a ticket is opened with are those of what is asked for. -/
theorem isDerived_openTicket {codec : IdCodec} (coded : strategy.codec = some codec)
    {sourced : Sourced}
    (opened : (strategy.openTicket descriptions issuers asked).outcome = .ok sourced) {id : String} :
    sourced.ticket.isDerived id = true ↔ strategy.Demands descriptions asked id := by
  obtain ⟨required, demanded⟩ := openTicket_coded coded opened
  refine (Sourced.isDerived_demandFor demanded).trans ((or_iff_left nofun).trans ⟨?_, ?_⟩)
  · rintro ⟨permission, member, listed⟩
    obtain ⟨wanted, asking, rfl⟩ := List.mem_map.mp member
    rw [Derivation.unmask_resourceId, ← realId_coded coded] at listed
    exact ⟨wanted, asking, listed⟩
  · rintro ⟨wanted, asking, listed⟩
    refine ⟨_, List.mem_map_of_mem asking, ?_⟩
    rwa [Derivation.unmask_resourceId, ← realId_coded coded]

theorem addClaims_plain (plain : strategy.codec = none) (ticket : Ticket) (claims : Claims) :
    ∃ required provided,
      (strategy.addClaims ticket claims).value = { ticket with required, provided } := by
  rw [addClaims, plain]
  exact strategy.settlement.addClaims_value ticket claims

theorem addClaims_coded {codec : IdCodec} (coded : strategy.codec = some codec)
    (ticket : Ticket) (claims : Claims) :
    ∃ required provided,
      (strategy.addClaims ticket claims).value =
        { Derivation.proveAll ticket claims with required, provided } := by
  rw [addClaims, coded]
  exact strategy.settlement.addClaims_value _ _

/-- Claims add no sources to a ticket. -/
theorem isDerived_of_addClaims {id : String}
    (derived : (strategy.addClaims ticket claims).value.isDerived id = true) :
    ticket.isDerived id = true := by
  cases coded : strategy.codec with
  | none =>
    obtain ⟨required, provided, same⟩ := addClaims_plain coded ticket claims
    rwa [same] at derived
  | some codec =>
    obtain ⟨required, provided, same⟩ := addClaims_coded coded ticket claims
    rw [same] at derived
    exact (Derivation.isDerived_proveAll.mp derived).1

theorem resolve_plain (plain : strategy.codec = none) {supply left : Supply}
    {resolution : Resolution}
    (resolved : (strategy.resolve descriptions issuers supply ticket).outcome =
      .ok (resolution, left)) :
    (strategy.settlement.resolve descriptions ticket).outcome = .ok resolution := by
  rw [resolve, plain] at resolved
  obtain ⟨settled, resolution, same⟩ := Consult.bind_outcome_eq_ok_iff.mp resolved
  cases same
  exact resolution

private theorem claimsFor_eq_nil {ids : List String} (none : Derivation.claimsFor issuers ids = .ok []) :
    ids = [] := by
  cases ids with
  | nil => rfl
  | cons id rest =>
    rw [Derivation.claimsFor] at none
    cases known : issuers.get? id <;> rw [known] at none
    · cases none
    · obtain ⟨more, _, same⟩ := except_bind_eq_ok_iff.mp none
      cases same

/-- A strategy with a codec lets a success through only when no source is left to open. -/
theorem resolve_coded {codec : IdCodec} (coded : strategy.codec = some codec)
    {supply left : Supply} {masked : List Permission}
    (resolved : (strategy.resolve descriptions issuers supply ticket).outcome =
      .ok (.success masked, left)) :
    (∀ id, ticket.isDerived id = false) ∧ ∃ granted,
      (strategy.settlement.resolve descriptions (Derivation.withoutSources ticket)).outcome =
        .ok (.success granted) ∧
      masked = (Derivation.maskAll codec ticket supply granted).1 := by
  rw [resolve, coded] at resolved
  obtain ⟨resolution, settled, resolved⟩ := Consult.bind_outcome_eq_ok_iff.mp resolved
  obtain ⟨outstanding, demanded, resolved⟩ := Consult.bind_outcome_eq_ok_iff.mp resolved
  cases resolution with
  | failure missing => cases resolved
  | success granted =>
    cases outstanding with
    | cons claim rest => cases resolved
    | nil =>
      cases resolved
      have nothing : ticket.derivedIds.keys = [] := claimsFor_eq_nil demanded
      refine ⟨fun id => ?_, granted, settled, rfl⟩
      rw [← Bool.not_eq_true, Ticket.isDerived, ← Dict.mem_keys_iff, nothing]
      exact List.not_mem_nil

theorem supply_resolve {supply left : Supply} {resolution : Resolution}
    (resolved : (strategy.resolve descriptions issuers supply ticket).outcome =
      .ok (resolution, left)) : supply.next ≤ left.next := by
  cases coded : strategy.codec with
  | none =>
    rw [resolve, coded] at resolved
    obtain ⟨settled, _, same⟩ := Consult.bind_outcome_eq_ok_iff.mp resolved
    cases same
    exact Nat.le_refl _
  | some codec =>
    rw [resolve, coded] at resolved
    obtain ⟨settled, _, resolved⟩ := Consult.bind_outcome_eq_ok_iff.mp resolved
    obtain ⟨outstanding, _, resolved⟩ := Consult.bind_outcome_eq_ok_iff.mp resolved
    cases settled with
    | failure missing =>
      cases resolved
      exact Nat.le_refl _
    | success granted =>
      cases outstanding with
      | nil =>
        cases resolved
        exact Derivation.supply_maskAll ticket supply granted
      | cons claim rest =>
        cases resolved
        exact Nat.le_refl _

/-! ## Entries lead back to what was asked for -/

/-- Whether a ticket asks for nothing but what was asked for and sources that are still closed, and
knows by which identifiers it was asked. -/
structure Traces (strategy : Strategy) (asked : List Permission) (ticket : Ticket) : Prop where
  entries : ∀ permission ∈ ticket.permissions,
    (∃ wanted ∈ asked, permission.resourceId = strategy.realId wanted.resourceId ∧
        permission.resourceScopes = wanted.resourceScopes) ∨
      strategy.codec.isSome = true ∧ ticket.isDerived permission.resourceId = true
  aliases : ∀ codec, strategy.codec = some codec → ticket.aliases = Derivation.aliases codec asked

theorem openTicket_traces {sourced : Sourced}
    (opened : (strategy.openTicket descriptions issuers asked).outcome = .ok sourced) :
    strategy.Traces asked sourced.ticket := by
  cases coded : strategy.codec with
  | none =>
    obtain ⟨required, same⟩ := openTicket_plain coded opened
    rw [same]
    refine ⟨fun permission member => .inl ⟨permission, member, ?_, rfl⟩, by simp [coded]⟩
    rw [realId_plain coded]
  | some codec =>
    obtain ⟨required, demanded⟩ := openTicket_coded coded opened
    have extended := Sourced.demandFor_extends demanded
    refine ⟨fun permission member => ?_, fun other same => ?_⟩
    · rcases extended.entries permission member with known | derived
      · obtain ⟨wanted, present, rfl⟩ := List.mem_map.mp known
        refine .inl ⟨wanted, present, ?_, Derivation.unmask_resourceScopes codec wanted⟩
        rw [Derivation.unmask_resourceId, realId_coded coded]
      · exact .inr ⟨by rw [coded]; rfl, derived⟩
    · obtain ⟨_, _, same'⟩ := extended.rest
      rw [coded] at same
      cases same
      rw [same']

theorem Traces.addClaims (traces : strategy.Traces asked ticket) (claims : Claims) :
    strategy.Traces asked (strategy.addClaims ticket claims).value := by
  cases coded : strategy.codec with
  | none =>
    obtain ⟨required, provided, same⟩ := addClaims_plain coded ticket claims
    rw [same]
    exact ⟨traces.entries, traces.aliases⟩
  | some codec =>
    obtain ⟨required, provided, same⟩ := addClaims_coded coded ticket claims
    obtain ⟨_, _, rest⟩ := Derivation.proveAll_rest ticket claims
    rw [same]
    refine ⟨fun permission member => ?_, fun other found => ?_⟩
    · obtain ⟨before, kept⟩ := Derivation.mem_permissions_proveAll.mp member
      exact (traces.entries permission before).imp_right (And.imp_right kept)
    · rw [← traces.aliases other found, rest]

/-- Once all sources are open, what the settlement grants goes back to an entry of the ticket, and that
to something that was asked for. -/
theorem Traces.settled_entry (traces : strategy.Traces asked ticket)
    (own : strategy.settlement.authorizer.isOwn = true) {codec : IdCodec}
    (coded : strategy.codec = some codec) (closed : ∀ id, ticket.isDerived id = false)
    {granted : List Permission}
    (settled : (strategy.settlement.resolve descriptions (Derivation.withoutSources ticket)).outcome =
      .ok (.success granted)) {grant : Permission} (member : grant ∈ granted) :
    ∃ entry ∈ ticket.permissions, ∃ wanted ∈ asked, grant.resourceId = entry.resourceId ∧
      entry.resourceId = codec.realId wanted.resourceId ∧
      grant.resourceScopes ⊆ wanted.resourceScopes := by
  obtain ⟨entry, present, same, within⟩ :=
    strategy.settlement.resolve_restricts own settled grant member
  have known := (Ticket.mem_resourcePermissions.mp present).1
  rcases traces.entries entry known with ⟨wanted, asking, sameId, sameScopes⟩ | ⟨_, derived⟩
  · rw [realId_coded coded] at sameId
    exact ⟨entry, known, wanted, asking, same, sameId, sameScopes ▸ within⟩
  · rw [closed] at derived
    cases derived

/-- Every grant goes back to an entry of the ticket, and that to something that was asked for. -/
private theorem Traces.resolve_entry (traces : strategy.Traces asked ticket)
    (own : strategy.settlement.authorizer.isOwn = true) {supply left : Supply}
    {granted : List Permission}
    (resolved : (strategy.resolve descriptions issuers supply ticket).outcome =
      .ok (.success granted, left)) {grant : Permission} (member : grant ∈ granted) :
    ∃ entry ∈ ticket.permissions, ∃ wanted ∈ asked,
      strategy.realId grant.resourceId = entry.resourceId ∧
      entry.resourceId = strategy.realId wanted.resourceId ∧
      grant.resourceScopes ⊆ wanted.resourceScopes := by
  cases coded : strategy.codec with
  | none =>
    have settled := resolve_plain coded resolved
    obtain ⟨entry, present, same, within⟩ :=
      strategy.settlement.resolve_restricts own settled grant member
    rcases traces.entries entry present with ⟨wanted, asking, sameId, sameScopes⟩ | ⟨absurd, _⟩
    · refine ⟨entry, present, wanted, asking, ?_, sameId, sameScopes ▸ within⟩
      rw [realId_plain coded, same]
    · rw [coded] at absurd
      cases absurd
  | some codec =>
    obtain ⟨closed, inner, settled, rfl⟩ := resolve_coded coded resolved
    obtain ⟨given, listed, number, rfl⟩ := Derivation.mem_maskAll member
    obtain ⟨entry, known, wanted, asking, same, sameId, within⟩ :=
      traces.settled_entry own coded closed settled listed
    refine ⟨entry, known, wanted, asking, ?_, ?_, ?_⟩
    · rw [realId_coded coded, Derivation.realId_mask (traces.aliases codec coded) asking
        (same.trans sameId), same]
    · rw [sameId, realId_coded coded]
    · rw [Derivation.mask_resourceScopes]
      exact within

/-- A strategy gives nothing but restrictions of what was asked for. -/
theorem Traces.resolve (traces : strategy.Traces asked ticket)
    (own : strategy.settlement.authorizer.isOwn = true) {supply left : Supply}
    {granted : List Permission}
    (resolved : (strategy.resolve descriptions issuers supply ticket).outcome =
      .ok (.success granted, left)) :
    ∀ grant ∈ granted, ∃ wanted ∈ asked, strategy.Narrows grant wanted := by
  intro grant member
  obtain ⟨entry, _, wanted, asking, masked, sameId, within⟩ :=
    traces.resolve_entry own resolved member
  exact ⟨wanted, asking, masked.trans sameId, within⟩

/-! ## Sources are opened by claims -/

/-- Whether each source of what was asked for is either still closed, or has been opened by a claim
set that was shown, and then nothing is asked for under its identifier. -/
def Accounts (strategy : Strategy) (opening : Descriptions) (asked : List Permission)
    (shown : List Claims) (ticket : Ticket) : Prop :=
  ∀ id, strategy.Demands opening asked id →
    ticket.isDerived id = true ∨
      (∃ claims ∈ shown, Derivation.Opens claims id) ∧
        ∀ permission ∈ ticket.permissions, permission.resourceId ≠ id

theorem openTicket_accounts {codec : IdCodec} (coded : strategy.codec = some codec)
    {sourced : Sourced}
    (opened : (strategy.openTicket descriptions issuers asked).outcome = .ok sourced) :
    strategy.Accounts descriptions asked [] sourced.ticket :=
  fun _ demanded => .inl ((isDerived_openTicket coded opened).mpr demanded)

theorem Accounts.addClaims {codec : IdCodec} (coded : strategy.codec = some codec)
    (accounts : strategy.Accounts opening asked shown ticket) (claims : Claims) :
    strategy.Accounts opening asked (claims :: shown) (strategy.addClaims ticket claims).value := by
  obtain ⟨required, provided, same⟩ := addClaims_coded coded ticket claims
  rw [same]
  intro id demanded
  rcases accounts id demanded with derived | ⟨⟨earlier, member, opened⟩, cleared⟩
  · by_cases opened : Derivation.Opens claims id
    · refine .inr ⟨⟨claims, List.mem_cons_self, opened⟩, fun permission present sameId => ?_⟩
      subst sameId
      have kept := (Derivation.mem_permissions_proveAll.mp present).2 derived
      exact (Derivation.isDerived_proveAll.mp kept).2 opened
    · exact .inl (Derivation.isDerived_proveAll.mpr ⟨derived, opened⟩)
  · refine .inr ⟨⟨earlier, List.mem_cons_of_mem _ member, opened⟩, fun permission present => ?_⟩
    exact cleared permission (Derivation.mem_permissions_proveAll.mp present).1

/-- When a strategy with a codec gives anything, every source of what was asked for has been opened,
and nothing is given under the identifier of a source. -/
theorem Accounts.resolve {codec : IdCodec} (coded : strategy.codec = some codec)
    (accounts : strategy.Accounts opening asked shown ticket)
    (traces : strategy.Traces asked ticket)
    (own : strategy.settlement.authorizer.isOwn = true) {supply left : Supply}
    {granted : List Permission}
    (resolved : (strategy.resolve descriptions issuers supply ticket).outcome =
      .ok (.success granted, left)) {id : String} (demanded : strategy.Demands opening asked id) :
    (∃ claims ∈ shown, Derivation.Opens claims id) ∧
      ∀ grant ∈ granted, strategy.realId grant.resourceId ≠ id := by
  obtain ⟨closed, _⟩ := resolve_coded coded resolved
  obtain ⟨opened, cleared⟩ := (accounts id demanded).resolve_left (by rw [closed]; exact nofun)
  refine ⟨opened, fun grant member => ?_⟩
  obtain ⟨entry, present, _, _, masked, _, _⟩ := traces.resolve_entry own resolved member
  exact masked ▸ cleared entry present

end UmaGrant.Strategy
