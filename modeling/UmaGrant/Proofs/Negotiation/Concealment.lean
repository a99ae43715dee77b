import Mathlib.Data.List.Forall2
import UmaGrant.Proofs.Negotiation.Forfeit
import UmaGrant.Proofs.Negotiation.Issuing
/-! # Internal identifiers stay inside

What opens a source is for other servers to see, and what a client asked for by a synthetic identifier
it may not know by another one. Such grants leave under a synthetic identifier, which leads back to the
internal one. Access tokens, contracts and answers all take the identifiers from the same grants, once
these have been masked.
-/

namespace UmaGrant

namespace Derivation

variable {codec : IdCodec} {asked : List Permission} {ticket : Ticket}

/-- Whether the identifier of a grant is to stay inside: the grant opens a source, or its resource has
been asked for by synthetic identifiers only. -/
def Hides (codec : IdCodec) (asked : List Permission) (internal : Permission) : Prop :=
  internal.hasScope Scope.derivationRead = true ∨
    ∀ wanted ∈ asked, codec.realId wanted.resourceId = internal.resourceId →
      codec.decode? wanted.resourceId = some internal.resourceId

/-- Whether a grant is shown as it is but for its identifier, and that is a synthetic one if the
internal identifier is to stay inside. -/
structure Conceals (codec : IdCodec) (asked : List Permission) (internal shown : Permission) : Prop where
  /-- The resource is one that has been asked for. -/
  asking : ∃ wanted ∈ asked, internal.resourceId = codec.realId wanted.resourceId
  rest : shown = { internal with resourceId := shown.resourceId }
  hidden : Hides codec asked internal →
    shown.resourceId ≠ internal.resourceId ∧
      codec.decode? shown.resourceId = some internal.resourceId

theorem Conceals.hasScope {internal shown : Permission} (conceals : Conceals codec asked internal shown)
    (scope : String) : shown.hasScope scope = internal.hasScope scope := by
  rw [conceals.rest]
  rfl

/-- A grant that is neither known by an alias nor opens a source need not be hidden. -/
private theorem not_hides {granted : Permission}
    (plain : (aliases codec asked).contains granted.resourceId = false)
    (asking : ∃ wanted ∈ asked, granted.resourceId = codec.realId wanted.resourceId)
    (closed : granted.hasScope Scope.derivationRead = false) : ¬ Hides codec asked granted := by
  rintro (opens | byAlias)
  · rw [closed] at opens
    cases opens
  · obtain ⟨wanted, member, same⟩ := asking
    have aliased := contains_aliases.mpr ⟨wanted, member, byAlias wanted member same.symm⟩
    rw [plain] at aliased
    cases aliased

theorem mask_conceals (known : ticket.aliases = aliases codec asked) (supply : Supply)
    {granted : Permission}
    (asking : ∃ wanted ∈ asked, granted.resourceId = codec.realId wanted.resourceId) :
    Conceals codec asked granted (mask codec ticket supply granted).1 := by
  unfold mask
  cases found : ticket.aliases.get? granted.resourceId with
  | some cover =>
    rw [known] at found
    have decoded := decode?_of_aliases found
    exact ⟨asking, rfl, fun _ => ⟨IdCodec.ne_of_decode? decoded, decoded⟩⟩
  | none =>
    cases opens : granted.hasScope Scope.derivationRead with
    | true =>
      have decoded := codec.decode?_encode (Fresh.nonce supply.next) granted.resourceId
      exact ⟨asking, rfl, fun _ => ⟨IdCodec.ne_of_decode? decoded, decoded⟩⟩
    | false =>
      have plain : (aliases codec asked).contains granted.resourceId = false := by
        rw [Dict.contains, ← known, found]
        rfl
      exact ⟨asking, rfl, fun hides => absurd hides (not_hides plain asking opens)⟩

theorem maskAll_conceals (known : ticket.aliases = aliases codec asked) (supply : Supply)
    {granted : List Permission}
    (asking : ∀ grant ∈ granted, ∃ wanted ∈ asked,
      grant.resourceId = codec.realId wanted.resourceId) :
    List.Forall₂ (Conceals codec asked) granted (maskAll codec ticket supply granted).1 := by
  induction granted generalizing supply with
  | nil => exact .nil
  | cons first rest ih =>
    have here := mask_conceals known supply (asking first List.mem_cons_self)
    exact .cons here (ih _ fun grant member => asking grant (List.mem_cons_of_mem _ member))

end Derivation

open UmaGrant.Derivation (Conceals)

section

variable {codec : IdCodec} {asked internal shown : List Permission}

private theorem exists_concealed (conceals : List.Forall₂ (Conceals codec asked) internal shown)
    {granted : Permission} (member : granted ∈ shown) :
    ∃ inner ∈ internal, Conceals codec asked inner granted := by
  induction conceals with
  | nil => cases member
  | cons here _ ih =>
    rcases List.mem_cons.mp member with rfl | member
    · exact ⟨_, List.mem_cons_self, here⟩
    · obtain ⟨inner, among, conceals⟩ := ih member
      exact ⟨inner, List.mem_cons_of_mem _ among, conceals⟩

/-- The identifier for other servers leads back to a grant that opens a source. -/
private theorem decode?_derivationId? (conceals : List.Forall₂ (Conceals codec asked) internal shown)
    {id : String} (told : Server.derivationId? shown = some id) :
    ∃ inner ∈ internal, inner.hasScope Scope.derivationRead = true ∧
      codec.decode? id = some inner.resourceId := by
  obtain ⟨granted, found, rfl⟩ := Option.map_eq_some_iff.mp told
  obtain ⟨inner, member, here⟩ := exists_concealed conceals (List.mem_of_find?_eq_some found)
  have opens := List.find?_some found
  rw [here.hasScope] at opens
  exact ⟨inner, member, opens, (here.hidden (.inl opens)).2⟩

end

/-- A contract permits scopes of the grants, under the identifiers of the grants. -/
theorem Contracting.exists_of_draft {contracting : Contracting} {claims : Claims}
    {granted : List Permission} {now : Instant} {uid : String} {contract : Contract}
    (drafted : contracting.draft claims granted now uid = .ok contract)
    {permission : ContractPermission} (member : permission ∈ contract.permissions) :
    ∃ grant ∈ granted, permission.target = grant.resourceId ∧
      permission.action ∈ grant.resourceScopes := by
  unfold draft at drafted
  cases constrained : contracting.constraintsFor claims now with
  | error halt =>
    rw [constrained] at drafted
    cases drafted
  | ok constraints =>
  rw [constrained] at drafted
  cases drafted
  obtain ⟨grant, present, member⟩ := List.mem_flatMap.mp member
  obtain ⟨scope, among, rfl⟩ := List.mem_map.mp member
  exact ⟨grant, present, rfl, among⟩

namespace Run

variable {server : Server} {turn : Turn} {earlier : List Turn} {payload : AccessToken}

/-- A token shows grants under masked identifiers, and so do the contract that is drawn up for it and
the answer. What the settlement has granted, on internal identifiers, is shown grant by grant. -/
theorem issued_conceals {codec : IdCodec} (coded : server.strategy.codec = some codec)
    (own : server.strategy.settlement.authorizer.isOwn = true)
    (run : Run server (turn :: earlier)) (issued : turn.Issues server payload) :
    ∃ first asked ticket internal,
      (Turn.thread server (turn :: earlier)).getLast? = some first ∧ first.asked? = some asked ∧
      (turn.weighing server).outcome = .ok (ticket, .success payload.permissions) ∧
      (server.strategy.settlement.resolve turn.realm.descriptions
        (Derivation.withoutSources ticket)).outcome = .ok (.success internal) ∧
      List.Forall₂ (Conceals codec asked) internal payload.permissions ∧
      (∀ granted contract, turn.DrawsUp server ticket granted contract →
        ∀ permission ∈ contract.permissions, ∃ inner ∈ internal, ∃ shown ∈ payload.permissions,
          Conceals codec asked inner shown ∧ permission.target = shown.resourceId ∧
            permission.action ∈ shown.resourceScopes) ∧
      ∀ response id, turn.answer server = .ok response →
        response.derivationResourceId = some id →
        ∃ inner ∈ internal, inner.hasScope Scope.derivationRead = true ∧
          codec.decode? id = some inner.resourceId := by
  obtain ⟨ticket, weighed⟩ := issued.weighing
  obtain ⟨first, asked, last, asking, traces, _⟩ :=
    run.weighing_tells server.strategy.keeps_bounds weighed
  obtain ⟨_, _, _, _, _, supply, resolved⟩ := Server.weigh_ends ⟨weighed, rfl⟩
  obtain ⟨closed, internal, settled, masked⟩ := Strategy.resolve_coded coded resolved
  have conceals : List.Forall₂ (Conceals codec asked) internal payload.permissions := by
    rw [masked]
    refine Derivation.maskAll_conceals (traces.aliases codec coded) supply fun grant member => ?_
    obtain ⟨entry, _, wanted, among, same, sameId, _⟩ :=
      traces.settled_entry own coded closed settled member
    exact ⟨wanted, among, same.trans sameId⟩
  refine ⟨first, asked, ticket, internal, last, asking, weighed, settled, conceals, ?_, ?_⟩
  · intro granted contract drawsUp permission member
    cases weighed.symm.trans drawsUp.weighed
    obtain ⟨contracting, _, drafted⟩ := drawsUp.drafted
    obtain ⟨shown, among, target, action⟩ := Contracting.exists_of_draft drafted member
    obtain ⟨inner, present, here⟩ := exists_concealed conceals among
    exact ⟨inner, present, shown, among, here, target, action⟩
  · intro response id answered told
    obtain ⟨_, token, _, _, _, named, _⟩ := issued.minted
    cases answered.symm.trans named
    exact decode?_derivationId? conceals told

end Run

/-! ## A photo for another server

A client that may pass the photo on gets a token under a contract. -/

namespace Report

def passingOn : Server :=
  { server with contracting := some ⟨"https://studio.example", Contracting.defaultLifetime⟩ }

def photoFor : Turn := ⟨⟨0⟩, .forPermissions [.of "photo" [Scope.derivationRead]], realm⟩

/-- The identifier of the photo for other servers. -/
def photoId : String := codec.encode (Fresh.nonce 0) "photo"

/-- The ticket for the photo. -/
def photoTicket : Ticket := .new [.of "photo" [Scope.derivationRead]] [.empty]

theorem photoFor_weighing : (photoFor.weighing passingOn).outcome =
    .ok (photoTicket, .success [.of photoId [Scope.derivationRead]]) := rfl

theorem photoFor_settled :
    (passingOn.strategy.settlement.resolve photoFor.realm.descriptions
      (Derivation.withoutSources photoTicket)).outcome =
      .ok (.success [.of "photo" [Scope.derivationRead]]) := rfl

theorem passes_on : photoFor.Issues passingOn
    ⟨[.of photoId [Scope.derivationRead]], some (Contracting.contractId 1)⟩ :=
  ⟨rfl, _, rfl⟩

end Report

namespace Run

/-- The token, the contract and the answer all show the photo under its identifier for other servers. -/
theorem issued_conceals_photo :
    Report.photoId ≠ "photo" ∧
      Report.codec.decode? Report.photoId = some "photo" ∧
      ∃ ticket contract, Report.photoFor.DrawsUp Report.passingOn ticket
          [.of Report.photoId [Scope.derivationRead]] contract ∧
        contract.permissions.map (·.target) = [Report.photoId] := by
  obtain ⟨first, asked, ticket, internal, last, asking, weighed, settled, conceals, _⟩ :=
    issued_conceals rfl rfl (.first rfl) Report.passes_on
  obtain ⟨rfl, _⟩ := Prod.mk.inj (Except.ok.inj (weighed.symm.trans Report.photoFor_weighing))
  cases settled.symm.trans Report.photoFor_settled
  obtain ⟨here, _⟩ := List.forall₂_cons.mp conceals
  obtain ⟨differs, decoded⟩ := here.hidden (.inl rfl)
  refine ⟨differs, decoded, _, _, ⟨rfl, rfl, ⟨_, rfl, rfl⟩, rfl, nofun⟩, rfl⟩

end Run

end UmaGrant
