import UmaGrant.Proofs.Json.Shapes
import UmaGrant.Proofs.Negotiation.Run
import UmaGrant.Proofs.Strategy.Restoring
import UmaGrant.Proofs.Token.Lifetime
import UmaGrant.Proofs.Token.Rotation
/-! # Access tokens that open sources

A client that is to open a source asks the server of the source for it, by the synthetic identifier that
it was told. The access token that it gets there says that it may read the source, under the very
identifier by which it has asked, and a factory that still has what it needs takes the token for what it
says. Only a resource that is listed as a source of itself gets lost on the way.
-/

namespace UmaGrant

/-! ## What is granted on a single source -/

namespace Derivation

variable {codec : IdCodec} {wanted : Permission} {ticket : Ticket} {supply : Supply}
  {granted : List Permission} {resource : String}

theorem get?_aliases_singleton (synthetic : codec.decode? wanted.resourceId = some resource) :
    (aliases codec [wanted]).get? resource = some wanted.resourceId := by
  simp [get?_aliases, synthetic]

theorem maskAll_eq_nil_iff : (maskAll codec ticket supply granted).1 = [] ↔ granted = [] := by
  cases granted with
  | nil => exact iff_of_true rfl rfl
  | cons first rest => exact iff_of_false nofun nofun

end Derivation

/-- A judgement grants something, and every grant has scopes. -/
theorem Settlement.nonempty_of_judgement {settlement : Settlement} {descriptions : Descriptions}
    {ticket : Ticket} {granted : List Permission} (judging : settlement.method = .judgement)
    (resolved : (settlement.resolve descriptions ticket).outcome = .ok (.success granted)) :
    granted ≠ [] ∧ ∀ grant ∈ granted, grant.resourceScopes ≠ [] := by
  rw [resolve, judging] at resolved
  obtain ⟨decided, _, resolved⟩ := Consult.bind_outcome_eq_ok_iff.mp resolved
  have all : ∀ grant ∈ nonemptyGrants decided, grant.resourceScopes ≠ [] := by
    intro grant member
    simpa using (List.mem_filter.mp member).2
  generalize nonemptyGrants decided = grants at resolved all
  cases grants with
  | nil => cases resolved
  | cons first rest =>
    cases resolved
    exact ⟨List.cons_ne_nil _ _, all⟩

/-- A list of scopes that has no other scope has this one, unless it is empty. -/
theorem Permission.hasScope_of_subset {permission : Permission} {scope : String}
    (within : permission.resourceScopes ⊆ [scope]) (nonempty : permission.resourceScopes ≠ []) :
    permission.hasScope scope = true := by
  obtain ⟨first, member⟩ := List.exists_mem_of_ne_nil _ nonempty
  refine List.any_eq_true.mpr ⟨first, member, ?_⟩
  rw [List.mem_singleton.mp (within member), decide_eq_true rfl, Bool.true_or]

namespace Strategy

variable {strategy : Strategy} {codec : IdCodec} {descriptions : Descriptions} {issuers : Issuers}
  {sources ticket : Ticket} {wanted : Permission} {resource : String} {supply left : Supply}
  {granted : List Permission}

/-- Whether a ticket has kept the entries of what was asked for since it was opened. -/
def RetainsRequest (strategy : Strategy) (codec : IdCodec) (opening : Descriptions)
    (asked : List Permission) (_ : List Claims) (ticket : Ticket) : Prop :=
  ∃ sources, (∀ id, sources.isDerived id = true ↔ strategy.Demands opening asked id) ∧
    Retains codec asked sources ticket

theorem keeps_retainsRequest (coded : strategy.codec = some codec) :
    strategy.Keeps (strategy.RetainsRequest codec) where
  opened opening :=
    ⟨_, fun _ => isDerived_openTicket coded opening, openTicket_retains coded opening⟩
  shown := by
    rintro opening asked shown ticket ⟨sources, demands, retains⟩ claims
    exact ⟨sources, demands, retains.addClaims coded claims⟩

/-- Whoever has asked to read a single source, by a synthetic identifier of it, is granted to read that
under the same identifier. An elimination grants nothing if the source is a source of itself. -/
theorem Retains.grants_source (retains : Retains codec [wanted] sources ticket)
    (coded : strategy.codec = some codec) (own : strategy.settlement.authorizer.isOwn = true)
    (synthetic : codec.decode? wanted.resourceId = some resource)
    (reads : wanted.resourceScopes = [Scope.derivationRead])
    (resolved : (strategy.resolve descriptions issuers supply ticket).outcome =
      .ok (.success granted, left)) :
    (∀ grant ∈ granted, Derivation.Frees grant wanted.resourceId) ∧
      (granted = [] ↔
        strategy.settlement.method = .elimination ∧ sources.isDerived resource = true) := by
  obtain ⟨allOpen, inner, settled, rfl⟩ := resolve_coded coded resolved
  have real : (Derivation.unmask codec wanted).resourceId = resource := by
    rw [Derivation.unmask_resourceId, IdCodec.realId, synthetic, Option.getD_some]
  have entries : ticket.permissions =
      if sources.isDerived resource then [] else [Derivation.unmask codec wanted] := by
    rw [retains.permissions allOpen, List.filter_cons, ← Derivation.unmask_resourceId, real]
    cases sources.isDerived resource <;> rfl
  -- What is granted inside is on the resource, and it is read as a source.
  have inside : (∀ grant ∈ inner, grant.resourceId = resource ∧
        grant.hasScope Scope.derivationRead = true) ∧
      (inner = [] ↔
        strategy.settlement.method = .elimination ∧ sources.isDerived resource = true) := by
    cases method : strategy.settlement.method with
    | elimination =>
      obtain rfl := granted_of_elimination method settled allOpen
      rw [entries]
      cases sources.isDerived resource with
      | true => exact ⟨List.forall_mem_nil _, iff_of_true rfl ⟨rfl, rfl⟩⟩
      | false =>
        refine ⟨List.forall_mem_singleton.mpr ⟨real, ?_⟩,
          iff_of_false (List.cons_ne_nil _ _) fun both => Bool.false_ne_true both.2⟩
        rw [Permission.hasScope, Derivation.unmask_resourceScopes, reads]
        rfl
    | judgement =>
      obtain ⟨nonempty, all⟩ := Settlement.nonempty_of_judgement method settled
      refine ⟨fun grant member => ?_, iff_of_false nonempty fun both => by cases both.1⟩
      obtain ⟨entry, present, same, within⟩ :=
        strategy.settlement.resolve_restricts own settled grant member
      have known := (Ticket.mem_resourcePermissions.mp present).1
      rw [entries] at known
      split at known
      · cases known
      · obtain rfl := List.mem_singleton.mp known
        rw [Derivation.unmask_resourceScopes, reads] at within
        exact ⟨same.trans real, Permission.hasScope_of_subset within (all grant member)⟩
  refine ⟨fun grant member => ?_, Derivation.maskAll_eq_nil_iff.trans inside.2⟩
  obtain ⟨given, among, number, rfl⟩ := Derivation.mem_maskAll member
  obtain ⟨same, opens⟩ := inside.1 given among
  have aliased : ticket.aliases.get? given.resourceId = some wanted.resourceId := by
    rw [retains.aliases, same]
    exact Derivation.get?_aliases_singleton synthetic
  unfold Derivation.mask
  rw [aliased]
  exact ⟨rfl, opens⟩

end Strategy

/-! ## Tokens that a factory takes back -/

namespace TokenFactory

/-- Whether a factory that has just issued a token, at an instant, still has what it takes to redeem it
at another instant: the entry of the token, which is still live, or the key that signed it, which may
have signed more since. -/
inductive Honours (text : String) (issuedAt now : Instant) : TokenFactory → TokenFactory → Prop
  | reference {made later : ReferenceTokens} {stored : StoredToken}
      (issued : made.entries.get? text = some stored) (kept : later.entries.get? text = some stored)
      (live : ReferenceTokens.isLive now stored = true) :
      Honours text issuedAt now (.reference made) (.reference later)
  | signed {tokens : SignedTokens} {made later : KeyRing} {key : SigningKey}
      (scheme : later.scheme = made.scheme) (kept : later.find? made.current.id = some key)
      (grown : made.current.Grows made.scheme key)
      (counts : tokens.Counts issuedAt now) :
      Honours text issuedAt now (.signed tokens made) (.signed tokens later)

variable {factory made later : TokenFactory} {issuedAt now : Instant} {supply left : Supply}
  {payload : AccessToken} {token : IssuedToken}

/-- A factory of reference tokens that issues a token has an entry for it. -/
private theorem of_issue_reference {table : ReferenceTokens}
    (issued : (reference table).issue now supply payload = (some (token, made), left)) :
    ∃ expiresAt grown, now.after? table.lifetime = some expiresAt ∧ made = reference grown ∧
      grown.lifetime = table.lifetime ∧ grown.entries.get? token.text = some ⟨payload, expiresAt⟩ := by
  obtain ⟨made, _⟩ := Prod.mk.inj issued
  obtain ⟨_, made, same⟩ := Option.map_eq_some_iff.mp made
  obtain ⟨expiresAt, ending, rfl⟩ := Option.map_eq_some_iff.mp made
  obtain ⟨rfl, rfl⟩ := Prod.mk.inj same
  exact ⟨expiresAt, _, ending, rfl, rfl, Dict.get?_insert_same _ _ _⟩

/-- Such a factory takes the token for what it was issued for, and stays as it is. -/
theorem Honours.redeem (honours : Honours token.text issuedAt now made later)
    (issued : factory.issue issuedAt supply payload = (some (token, made), left))
    (dated : issuedAt.inRange = true) : later.redeem now token.text = (.ok payload, later) := by
  cases factory with
  | reference table =>
    obtain ⟨expiresAt, grown, _, rfl, _, entry⟩ := of_issue_reference issued
    cases honours with
    | reference known kept live =>
      cases entry.symm.trans known
      rw [TokenFactory.redeem, ReferenceTokens.redeem, kept]
      dsimp only
      rw [if_pos live]
  | signed tokens ring =>
    obtain ⟨claims, claimed, text, rfl⟩ := of_issue_signed issued
    cases honours with
    | @signed _ _ later key scheme kept grown counts =>
      have signing : (SignedTokens.sign ring (supply.next + 1) claims).2.current =
          (ring.current.sign ring.scheme (supply.next + 1)
            (SignedTokens.textFor ring.current claims)).2 := rfl
      rw [signing] at kept grown
      change later.scheme = ring.scheme at scheme
      change SigningKey.Grows _ ring.scheme key at grown
      rw [← scheme] at text grown kept
      generalize ring.current = current at text kept grown
      change later.find? current.id = some key at kept
      refine Prod.ext ?_ rfl
      change tokens.redeem later now token.text = .ok payload
      rw [text]
      exact SignedTokens.redeem_of_grown dated claimed kept grown counts

/-- A token that lasts is honoured at once. -/
theorem honours_at_once (issued : factory.issue now supply payload = (some (token, made), left))
    (lasting : 0 < made.lifetime) (epoch : 0 ≤ now.nanos) :
    Honours token.text now now made made := by
  cases factory with
  | reference table =>
    obtain ⟨expiresAt, grown, ending, rfl, lifetime, entry⟩ := of_issue_reference issued
    refine .reference entry entry (decide_eq_true ?_)
    rw [(Instant.of_after? ending).2, ← lifetime]
    exact Int.lt_add_of_pos_right _ lasting
  | signed tokens ring =>
    obtain ⟨claims, claimed, _, rfl⟩ := of_issue_signed issued
    obtain ⟨expiresAt, ending, _⟩ := Option.map_eq_some_iff.mp claimed
    refine .signed rfl (List.find?_cons_of_pos (decide_eq_true rfl)) (.refl _) ?_
    refine SignedTokens.counts_of_unexpired ending epoch ?_
    rw [(Instant.of_after? ending).2]
    exact Int.le_of_lt (Int.lt_add_of_pos_right _ lasting)

end TokenFactory

/-- A token that is issued comes from the factory, which takes the place of the one before. -/
theorem TokenFactories.of_issue {factories after : TokenFactories} {name : String} {now : Instant}
    {supply left : Supply} {payload : AccessToken} {token : IssuedToken}
    (issued : factories.issue name now supply payload = (.ok token, after, left)) :
    ∃ factory made, TokenFactory.issue factory now supply payload = (some (token, made), left) ∧
      after = factories.insert name made := by
  unfold issue at issued
  cases known : factories.get? name with
  | none =>
    rw [known] at issued
    cases issued
  | some factory =>
    rw [known] at issued
    dsimp only at issued
    generalize issuing : factory.issue now supply payload = made at issued
    obtain ⟨_ | ⟨text, grown⟩, used⟩ := made <;> cases issued
    exact ⟨factory, grown, issuing, rfl⟩

/-! ## Vouchers -/

/-- An access token of a server for one of its resources, and how the client has come by it: it has asked
to read the resource as a source, by a synthetic identifier, and for nothing else. -/
structure Voucher (server : Server) where
  codec : IdCodec
  /-- The synthetic identifier of the source. -/
  source : String
  resource : String
  /-- The turn that has asked. -/
  first : Turn
  /-- The turn that has got the token. -/
  turn : Turn
  earlier : List Turn
  payload : AccessToken
  response : TokenResponse
  coded : server.strategy.codec = some codec
  synthetic : codec.decode? source = some resource
  run : Run server (turn :: earlier)
  last : (Turn.thread server (turn :: earlier)).getLast? = some first
  asked : first.asked? = some [.of source [Scope.derivationRead]]
  dated : turn.now.inRange = true
  issued : turn.Issues server payload
  answered : turn.answer server = .ok response

namespace Voucher

variable {server : Server} (voucher : Voucher server) {now : Instant} {factories : TokenFactories}

/-- The token as it is shown to other servers. -/
def token : ClaimToken := ⟨voucher.response.accessToken, ClaimFormat.accessToken⟩

/-- What the token proves. -/
def claims : Claims :=
  Dict.empty.insert ClaimType.access (Permission.listToJson voucher.payload.permissions)

/-- Whether a voucher is for a resource that is listed as derived from a source with its own identifier.
An elimination then has nothing left to grant once that source is open. -/
def Void : Prop :=
  server.strategy.settlement.method = .elimination ∧ ∃ description,
    voucher.first.realm.descriptions.lookup voucher.resource = .ok (some description) ∧
      ∃ source ∈ description.derivedFrom, source.derivationResourceId = voucher.resource

/-- Whether the factory of the server still honours the token. -/
def Good (now : Instant) (factories : TokenFactories) : Prop :=
  ∃ made later, (voucher.turn.left server).factories.get? server.factory = some made ∧
    factories.get? server.factory = some later ∧
    made.Honours voucher.response.accessToken voucher.turn.now now later

variable {voucher}

private theorem demands_iff :
    server.strategy.Demands voucher.first.realm.descriptions [.of voucher.source [Scope.derivationRead]]
        voucher.resource ↔ ∃ description,
      voucher.first.realm.descriptions.lookup voucher.resource = .ok (some description) ∧
        ∃ source ∈ description.derivedFrom, source.derivationResourceId = voucher.resource := by
  have real : server.strategy.realId voucher.source = voucher.resource := by
    rw [Strategy.realId_coded voucher.coded, IdCodec.realId, voucher.synthetic, Option.getD_some]
  rw [Strategy.Demands, List.exists_mem_cons_iff, ← real]
  simp [Permission.of]

/-- All that a voucher grants is to read its source, and it grants that unless it is void. -/
theorem grants_source (own : server.strategy.settlement.authorizer.isOwn = true) :
    (∀ grant ∈ voucher.payload.permissions, Derivation.Frees grant voucher.source) ∧
      (voucher.payload.permissions = [] ↔ voucher.Void) := by
  obtain ⟨ticket, weighed⟩ := voucher.issued.weighing
  obtain ⟨first, asked, last, asking, sources, demands, retains⟩ :=
    voucher.run.weighing_tells (Strategy.keeps_retainsRequest voucher.coded) weighed
  cases voucher.last.symm.trans last
  cases voucher.asked.symm.trans asking
  obtain ⟨_, _, _, _, _, supply, resolved⟩ := Server.weigh_ends ⟨weighed, rfl⟩
  obtain ⟨frees, empty⟩ :=
    retains.grants_source voucher.coded own voucher.synthetic rfl resolved
  exact ⟨frees, empty.trans (and_congr_right fun _ => (demands _).trans demands_iff)⟩

/-- What a voucher proves opens its source and no other, and nothing if it is void. -/
theorem opens_claims (own : server.strategy.settlement.authorizer.isOwn = true) {id : String} :
    Derivation.Opens voucher.claims id ↔ voucher.source = id ∧ ¬ voucher.Void := by
  obtain ⟨frees, empty⟩ := voucher.grants_source own
  have proven : Derivation.provenGrants? voucher.claims = some voucher.payload.permissions := by
    rw [Derivation.provenGrants?, claims, Dict.get?_insert_same, Option.bind_some,
      Permission.listShape_listToJson]
    rfl
  rw [Derivation.Opens, proven]
  constructor
  · rintro ⟨grants, same, grant, member, opens⟩
    cases same
    refine ⟨(frees grant member).1.symm.trans opens.1, fun void => ?_⟩
    rw [empty.mpr void] at member
    cases member
  · rintro ⟨rfl, sound⟩
    obtain ⟨grant, member⟩ := List.exists_mem_of_ne_nil _ (mt empty.mp sound)
    exact ⟨_, rfl, grant, member, frees grant member⟩

/-- The token of a voucher was issued by a factory, which is there since. -/
private theorem exists_made (voucher : Voucher server) :
    ∃ factory made token supply left,
      TokenFactory.issue factory voucher.turn.now supply voucher.payload = (some (token, made), left) ∧
      (voucher.turn.left server).factories.get? server.factory = some made ∧
      voucher.response.accessToken = token.text := by
  obtain ⟨realm, token, after, supply, issuing, named, left⟩ := voucher.issued.minted
  obtain ⟨factory, made, issued, rfl⟩ := TokenFactories.of_issue issuing
  refine ⟨factory, made, token, _, _, issued, ?_, ?_⟩
  · rw [left]
    exact Dict.get?_insert_same _ _ _
  · exact congrArg TokenResponse.accessToken (Except.ok.inj (voucher.answered.symm.trans named))

/-- A voucher that lasts is good at once. -/
theorem good_at_once (voucher : Voucher server) (epoch : 0 ≤ voucher.turn.now.nanos)
    (lasting : ∀ made ∈ (voucher.turn.left server).factories.get? server.factory, 0 < made.lifetime) :
    voucher.Good voucher.turn.now (voucher.turn.left server).factories := by
  obtain ⟨factory, made, token, supply, left, issued, present, text⟩ := voucher.exists_made
  refine ⟨made, made, present, present, ?_⟩
  rw [text]
  exact TokenFactory.honours_at_once issued (lasting made present) epoch

/-- A good voucher is redeemed for what it says, and stays good. -/
theorem Good.redeem (good : voucher.Good now factories) :
    ∃ left, factories.redeem server.factory now voucher.response.accessToken =
        (.ok voucher.payload, left) ∧
      left.get? server.factory = factories.get? server.factory := by
  obtain ⟨made, later, here, there, honours⟩ := good
  obtain ⟨factory, grown, token, supply, left, issued, present, text⟩ := voucher.exists_made
  cases present.symm.trans here
  rw [text] at honours ⊢
  refine ⟨factories.insert server.factory later, ?_, ?_⟩
  · rw [TokenFactories.redeem, there]
    dsimp only
    rw [honours.redeem issued voucher.dated]
  · rw [Dict.get?_insert_same, there]

/-- Whether a voucher is good depends on the factory of its server only. -/
theorem Good.congr (good : voucher.Good now factories) {others : TokenFactories}
    (same : others.get? server.factory = factories.get? server.factory) : voucher.Good now others := by
  obtain ⟨made, later, here, there, honours⟩ := good
  exact ⟨made, later, here, same.trans there, honours⟩

end Voucher

end UmaGrant
