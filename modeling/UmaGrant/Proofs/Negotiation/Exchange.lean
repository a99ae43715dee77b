import UmaGrant.Proofs.Negotiation.Ledger
import UmaGrant.Proofs.Negotiation.Pursuing
import UmaGrant.Proofs.Negotiation.Voucher
import UmaGrant.Proofs.Strategy.Lacking
/-! # Vouchers of another server

A server that takes the access tokens of another one takes vouchers of that for what they say. So a
client that shows vouchers for a ticket, in any order and over any number of turns, opens exactly the
sources for which it has vouchers, void ones apart. Once all sources are open, the ticket is left to the
settlement.
-/

namespace UmaGrant

namespace Strategy

variable {strategy : Strategy} {codec : IdCodec} {descriptions : Descriptions} {issuers : Issuers}
  {ticket : Ticket} {supply : Supply}

/-- Claim sets take those sources off a ticket that one of them opens. -/
theorem isDerived_addAll (coded : strategy.codec = some codec) {shown : List Claims} {id : String} :
    (strategy.addAll ticket shown).isDerived id = true ↔
      ticket.isDerived id = true ∧ ∀ claims ∈ shown, ¬ Derivation.Opens claims id := by
  induction shown generalizing ticket with
  | nil => exact (and_iff_left nofun).symm
  | cons claims rest ih =>
    obtain ⟨required, provided, same⟩ := addClaims_coded coded ticket claims
    have first : (strategy.addClaims ticket claims).value.isDerived id = true ↔
        ticket.isDerived id = true ∧ ¬ Derivation.Opens claims id := by
      rw [same]
      exact Derivation.isDerived_proveAll
    rw [List.forall_mem_cons, ← and_assoc, ← first]
    exact ih

/-- A strategy with a codec grants a ticket if and only if no source is left to open and its settlement
grants what is left of the ticket without sources. -/
theorem exists_success_iff (coded : strategy.codec = some codec) :
    (∃ granted left, (strategy.resolve descriptions issuers supply ticket).outcome =
        .ok (.success granted, left)) ↔
      (∀ id, ticket.isDerived id = false) ∧ ∃ inner,
        (strategy.settlement.resolve descriptions (Derivation.withoutSources ticket)).outcome =
          .ok (.success inner) := by
  constructor
  · rintro ⟨granted, left, resolved⟩
    obtain ⟨allOpen, inner, settled, _⟩ := resolve_coded coded resolved
    exact ⟨allOpen, inner, settled⟩
  · rintro ⟨allOpen, inner, settled⟩
    have nothing : Derivation.outstanding issuers ticket = .ok [] := by
      rw [Derivation.outstanding, ticket.keys_eq_nil allOpen]
      rfl
    rw [resolve, coded]
    dsimp only
    rw [Consult.outcome_bind, settled]
    dsimp only
    rw [Consult.outcome_bind, Consult.outcome_lift, nothing]
    exact ⟨_, _, rfl⟩

end Strategy

/-- A descriptor of a source names the source. -/
theorem Derivation.ids_of_describes {issuers : Issuers} {ids : List String}
    {claims : List DerivationClaim} (described : List.Forall₂ (Describes issuers) ids claims) :
    claims.map (·.derivationResourceId) = ids := by
  induction described with
  | nil => rfl
  | cons here _ ih =>
    obtain ⟨issuer, _, rfl⟩ := here
    exact congrArg _ ih

/-! ## Taking vouchers -/

/-- A token goes to the verifier for its format. -/
theorem Verifier.verifyRouted_eq (now : Instant) (token : ClaimToken) (factories : TokenFactories)
    (routes : List (String × Verifier)) :
    verifyRouted now token factories routes =
      (Dict.lookup token.format routes).map (verify now token factories) := by
  induction routes with
  | nil => rw [verifyRouted, Dict.lookup, Option.map_none]
  | cons route rest ih =>
    obtain ⟨format, verifier⟩ := route
    rw [verifyRouted, Dict.lookup, ih]
    split <;> rfl

namespace Server

variable {server other : Server} {now : Instant} {factories : TokenFactories}
  {vouchers : List (Voucher other)}

/-- Whether a server takes access tokens of another one. -/
def Trusts (server other : Server) : Prop :=
  ∃ routes, server.verifier = .byFormat routes ∧
    Dict.lookup ClaimFormat.accessToken routes = some (.accessTokens other.factory)

/-- Such a server takes a good voucher for what it says. -/
theorem Trusts.verify (trusts : server.Trusts other) {voucher : Voucher other}
    (good : voucher.Good now factories) :
    ∃ left, server.verifier.verify now voucher.token factories = (.ok voucher.claims, left) ∧
      left.get? other.factory = factories.get? other.factory := by
  obtain ⟨routes, byFormat, route⟩ := trusts
  obtain ⟨left, redeemed, same⟩ := good.redeem
  have format : voucher.token.format = ClaimFormat.accessToken := rfl
  refine ⟨left, ?_, same⟩
  rw [byFormat, Verifier.verify, Verifier.verifyRouted_eq, format, route, Option.map_some,
    Verifier.verify]
  change (Verifier.accessClaims (factories.redeem other.factory now voucher.response.accessToken).1,
    (factories.redeem other.factory now voucher.response.accessToken).2) = _
  rw [redeemed]
  rfl

theorem Trusts.verifyAll (trusts : server.Trusts other)
    (good : ∀ voucher ∈ vouchers, voucher.Good now factories) :
    ∃ left, server.verifier.verifyAll now (vouchers.map Voucher.token) factories =
      (.ok (vouchers.map Voucher.claims), left) := by
  induction vouchers generalizing factories with
  | nil => exact ⟨factories, rfl⟩
  | cons voucher rest ih =>
    obtain ⟨here, others⟩ := List.forall_mem_cons.mp good
    obtain ⟨between, verified, same⟩ := trusts.verify here
    obtain ⟨left, more⟩ := ih fun voucher member => (others voucher member).congr same
    have proven : (server.verifier.verify now voucher.token factories).1 = .ok voucher.claims := by
      rw [verified]
    refine ⟨left, ?_⟩
    rw [List.map_cons, Verifier.verifyAll_ok proven, verified, more]
    rfl

end Server

/-! ## Exchanges -/

/-- Turns of a client that shows vouchers of another server for a ticket, some in each turn, up to a last
turn. Each turn after the first one goes on with the ticket that the one before has handed out, as that was
stored. What else happens to the server in between does not matter. The vouchers are good when they are
shown. -/
inductive Exchange (server : Server) {other : Server} (ticket : Ticket) :
    List (Voucher other) → Turn → Prop
  | start {turn : Turn} {aim : TokenRequest.Aim} {opened : Realm} {vouchers : List (Voucher other)}
      (checks : turn.request.check = .ok ⟨aim, vouchers.map Voucher.token⟩)
      (obtained : (server.obtainTicket turn.now aim).Ends turn.realm (.ok ticket) opened)
      (good : ∀ voucher ∈ vouchers, voucher.Good turn.now turn.realm.factories) :
      Exchange server ticket vouchers turn
  | next {shown vouchers : List (Voucher other)} {last turn : Turn} {id : String}
      (exchange : Exchange server ticket shown last) (handedOut : last.handedOut? server = some id)
      (kept : turn.realm.tickets.entries.get? id = (last.left server).tickets.entries.get? id)
      (checks : turn.request.check = .ok ⟨.resume id, vouchers.map Voucher.token⟩)
      (taking : server.takeOutage = none) (takes : turn.takes id = true)
      (good : ∀ voucher ∈ vouchers, voucher.Good turn.now turn.realm.factories) :
      Exchange server ticket (shown ++ vouchers) turn

namespace Exchange

variable {server other : Server} {ticket : Ticket} {vouchers : List (Voucher other)} {turn : Turn}

/-- The ticket that is weighed after vouchers were shown. -/
def grown (server : Server) (ticket : Ticket) (vouchers : List (Voucher other)) : Ticket :=
  server.strategy.addAll ticket (vouchers.map Voucher.claims)

theorem grown_append (server : Server) (ticket : Ticket) (shown more : List (Voucher other)) :
    grown server ticket (shown ++ more) = grown server (grown server ticket shown) more := by
  rw [grown, List.map_append]
  exact List.foldl_append

/-- How the weighing of a ticket ends that is resolved. -/
def resolved (server : Server) (turn : Turn) (issuers : Issuers) (supply : Supply) (ticket : Ticket) :
    Except Halt (Ticket × Resolution) :=
  ((server.strategy.resolve turn.realm.descriptions issuers supply ticket).outcome.map
    fun decided => (ticket, decided.1)).mapError .refused

private theorem resolved_eq_ok_iff {issuers : Issuers} {supply : Supply} {weighed : Ticket}
    {resolution : Resolution} :
    resolved server turn issuers supply ticket = .ok (weighed, resolution) ↔ weighed = ticket ∧
      ∃ left, (server.strategy.resolve turn.realm.descriptions issuers supply ticket).outcome =
        .ok (resolution, left) := by
  unfold resolved
  cases (server.strategy.resolve turn.realm.descriptions issuers supply ticket).outcome with
  | error error => exact iff_of_false nofun fun ⟨_, _, decided⟩ => nomatch decided
  | ok decided =>
    constructor
    · intro same
      cases same
      exact ⟨rfl, _, rfl⟩
    · rintro ⟨rfl, left, same⟩
      cases same
      rfl

/-- A turn that obtains its ticket shows it the vouchers and resolves it. -/
private theorem weighing_of_obtained (trusts : server.Trusts other) {aim : TokenRequest.Aim}
    {opened : Realm} (checks : turn.request.check = .ok ⟨aim, vouchers.map Voucher.token⟩)
    (obtained : (server.obtainTicket turn.now aim).Ends turn.realm (.ok ticket) opened)
    (good : ∀ voucher ∈ vouchers, voucher.Good turn.now turn.realm.factories) :
    (turn.weighing server).outcome =
      resolved server turn opened.issuers opened.supply (grown server ticket vouchers) := by
  obtain ⟨_, descriptions, factories⟩ := Server.obtainTicket_ends obtained
  obtain ⟨left, verified⟩ := trusts.verifyAll good
  rw [← factories] at verified
  unfold resolved
  rw [← descriptions]
  cases decision : (server.strategy.resolve opened.descriptions opened.issuers opened.supply
      (grown server ticket vouchers)).outcome with
  | error error =>
    exact (Server.weigh_of_obtained checks obtained (Server.pursue_unresolved verified decision)).1
  | ok decided =>
    exact (Server.weigh_of_obtained checks obtained (Server.pursue_ok verified decision)).1

/-- In the last turn the ticket has been shown all vouchers and is resolved. -/
theorem weighing (exchange : Exchange server ticket vouchers turn) (trusts : server.Trusts other) :
    ∃ issuers supply, (turn.weighing server).outcome =
      resolved server turn issuers supply (grown server ticket vouchers) := by
  induction exchange with
  | start checks obtained good => exact ⟨_, _, weighing_of_obtained trusts checks obtained good⟩
  | @next shown vouchers last turn id exchange handedOut kept checks taking takes good ih =>
    obtain ⟨ticket, missing, expiresAt, weighed, rfl, putsBack, _⟩ := Turn.told_of_handedOut handedOut
    obtain ⟨issuers, supply, outcome⟩ := ih
    -- The turn before has resolved the ticket in vain, and this one finds it as it was put back.
    obtain ⟨same, _⟩ := resolved_eq_ok_iff.mp (outcome.symm.trans weighed)
    obtain ⟨_, stored, found, live⟩ := Turn.takes_iff.mp takes
    cases putsBack.present.symm.trans (kept.symm.trans found)
    have goesOn := weighing_of_obtained trusts checks (Server.obtainTicket_resume taking found live) good
    refine ⟨turn.realm.issuers, turn.realm.supply, ?_⟩
    rw [grown_append, ← same]
    exact goesOn

/-- Vouchers open their sources and no others, void ones open nothing, and none of them is turned down.
The ticket is granted if and only if all its sources are open and the settlement grants the rest; else
the client is told of the sources that are left. -/
theorem opens_sources (exchange : Exchange server ticket vouchers turn) (trusts : server.Trusts other)
    {codec : IdCodec} (coded : server.strategy.codec = some codec)
    (own : other.strategy.settlement.authorizer.isOwn = true) :
    (∀ id, (grown server ticket vouchers).isDerived id = true ↔
        ticket.isDerived id = true ∧
          ∀ voucher ∈ vouchers, voucher.source = id → voucher.Void) ∧
      (∃ issuers supply, (turn.weighing server).outcome =
        resolved server turn issuers supply (grown server ticket vouchers)) ∧
      ((∃ granted, (turn.weighing server).outcome =
          .ok (grown server ticket vouchers, .success granted)) ↔
        (∀ id, (grown server ticket vouchers).isDerived id = false) ∧ ∃ inner,
          (server.strategy.settlement.resolve turn.realm.descriptions
            (Derivation.withoutSources (grown server ticket vouchers))).outcome =
            .ok (.success inner)) ∧
      ∀ id, turn.handedOut? server = some id → ∃ required,
        turn.answer server = .error (.refused (.needInfo id required)) ∧
          required.derivations.map (·.derivationResourceId) =
            (grown server ticket vouchers).derivedIds.keys := by
  obtain ⟨issuers, supply, outcome⟩ := exchange.weighing trusts
  refine ⟨fun id => ?_, ⟨issuers, supply, outcome⟩, ?_, fun id handedOut => ?_⟩
  · refine (Strategy.isDerived_addAll coded).trans (and_congr_right fun _ => ?_)
    rw [List.forall_mem_map]
    refine forall₂_congr fun voucher _ => ?_
    rw [voucher.opens_claims own, not_and_not_right]
  · simp only [outcome, resolved_eq_ok_iff, true_and]
    exact Strategy.exists_success_iff coded
  · obtain ⟨ticket, missing, _, weighed, _, _, answered, _⟩ := Turn.told_of_handedOut handedOut
    obtain ⟨rfl, left, failed⟩ := resolved_eq_ok_iff.mp (outcome.symm.trans weighed)
    have described :=
      Strategy.outstanding_of_failure (fun plain => nomatch plain.symm.trans coded) failed
    exact ⟨_, answered, Derivation.ids_of_describes described⟩

end Exchange

/-! ## A collage of a photo that lies elsewhere

A gallery gives a client a token for the photo, and the studio of the collage takes it. -/

namespace Collage

def photoCodec : IdCodec := ⟨⟨.replicate 32 3, rfl⟩⟩

/-- The identifier of the photo for other servers. -/
@[irreducible] def photoId : String := photoCodec.encode (Fresh.nonce 0) "photo"

theorem decode?_photoId : photoCodec.decode? photoId = some "photo" := by
  unfold photoId
  exact photoCodec.decode?_encode _ _

def gallery : Server where
  strategy := ⟨⟨.elimination, .everyone⟩, some photoCodec⟩
  verifier := .known
    [("negative", .ok (Dict.empty.insert ClaimType.access
      (Permission.listToJson [.of "photo" [Scope.derivationRead]])))]
    (.verification "Unknown token")
  factory := "gallery"
  contracting := none
  putOutage := none
  takeOutage := none

def realm (descriptions : Descriptions) : Realm where
  tickets := .empty Tickets.defaultLifetime
  issuers := .empty
  contracts := .empty
  descriptions := descriptions
  factories := Dict.empty.insert "gallery" (.reference (.empty ReferenceTokens.defaultLifetime))
  supply := ⟨1⟩

def photoFor : Turn := ⟨⟨0⟩, .forPermissions [.of photoId [Scope.derivationRead]], realm .empty⟩

theorem photoFor_answer :
    photoFor.answer gallery = .ok ⟨Fresh.credential 1, bearer, some photoId⟩ := by decide +kernel

def voucher : Voucher gallery where
  codec := photoCodec
  source := photoId
  resource := "photo"
  first := photoFor
  turn := photoFor
  earlier := []
  payload := ⟨[.of photoId [Scope.derivationRead]], none⟩
  response := ⟨Fresh.credential 1, bearer, some photoId⟩
  coded := rfl
  synthetic := decode?_photoId
  run := .first rfl
  last := rfl
  asked := rfl
  dated := rfl
  issued := ⟨by decide +kernel, _, photoFor_answer⟩
  answered := photoFor_answer

def studio : Server where
  strategy := ⟨⟨.elimination, .everyone⟩, some ⟨⟨.replicate 32 4, rfl⟩⟩⟩
  verifier := .byFormat [(ClaimFormat.accessToken, .accessTokens "gallery")]
  factory := "studio"
  contracting := none
  putOutage := none
  takeOutage := none

theorem studio_trusts : studio.Trusts gallery := ⟨_, rfl, rfl⟩

def collageFor : Turn where
  now := ⟨0⟩
  request := .forPermissions [.of "collage" [Scope.read]]
  realm := realm <|
    Descriptions.empty.describe "collage" ⟨none, [], [⟨"https://gallery.example", photoId⟩]⟩

/-- The ticket for the collage. -/
def ticket : Ticket :=
  ⟨[.of "collage" [Scope.read], .of photoId [Scope.derivationRead]], [.empty], .empty,
    Dict.empty.insert photoId (), .empty⟩

/-- The client comes back with what it has got from the gallery. -/
def showing (voucher : Voucher gallery) : Turn where
  now := ⟨0⟩
  request := (TokenRequest.forTicket (Fresh.identifier 1)).push voucher.token
  realm := { collageFor.left studio with factories := (voucher.turn.left gallery).factories }

private theorem obtains (source : String) : ∃ opened,
    (studio.obtainTicket ⟨0⟩ (.begin [.of "collage" [Scope.read]])).Ends
      (realm (Descriptions.empty.describe "collage" ⟨none, [], [⟨"https://gallery.example", source⟩]⟩))
      (.ok ⟨[.of "collage" [Scope.read], .of source [Scope.derivationRead]], [.empty], .empty,
        Dict.empty.insert source (), .empty⟩) opened := ⟨_, rfl, rfl⟩

private theorem start : Exchange studio ticket ([] : List (Voucher gallery)) collageFor := by
  obtain ⟨opened, obtained⟩ := obtains photoId
  have checks : collageFor.request.check =
      .ok ⟨.begin [.of "collage" [Scope.read]], ([] : List (Voucher gallery)).map Voucher.token⟩ := rfl
  exact .start checks obtained (List.forall_mem_nil _)

theorem exchange (voucher : Voucher gallery)
    (takes : (showing voucher).takes (Fresh.identifier 1) = true)
    (good : voucher.Good ⟨0⟩ (voucher.turn.left gallery).factories) :
    Exchange studio ticket [voucher] (showing voucher) := by
  have handedOut : collageFor.handedOut? studio = some (Fresh.identifier 1) := by decide +kernel
  have kept : (showing voucher).realm.tickets.entries.get? (Fresh.identifier 1) =
      (collageFor.left studio).tickets.entries.get? (Fresh.identifier 1) := rfl
  have checks : (showing voucher).request.check =
      .ok ⟨.resume (Fresh.identifier 1), [voucher].map Voucher.token⟩ := rfl
  exact start.next handedOut kept checks rfl takes (List.forall_mem_singleton.mpr good)

theorem exchange_voucher : Exchange studio ticket [voucher] (showing voucher) :=
  exchange voucher (by decide +kernel) (voucher.good_at_once (by decide) (by decide +kernel))

theorem not_void : ¬ voucher.Void := by
  rintro ⟨_, description, described, _⟩
  cases described

theorem ticket_isDerived {id : String} (derived : ticket.isDerived id = true) : id = photoId := by
  simpa [Ticket.isDerived, ticket] using derived

theorem settled (vouchers : List (Voucher gallery)) : ∃ inner,
    (studio.strategy.settlement.resolve (showing voucher).realm.descriptions
      (Derivation.withoutSources (Exchange.grown studio ticket vouchers))).outcome =
      .ok (.success inner) := by
  have satisfied : (Derivation.withoutSources (Exchange.grown studio ticket vouchers)).isSatisfied =
      true := by
    refine (Strategy.isSatisfied_addAll rfl ticket _).mpr ⟨.empty, List.mem_singleton_self _, ?_⟩
    exact fun claimType predicate required => nomatch required
  rw [Settlement.resolve_eq_of_elimination rfl, satisfied]
  exact ⟨_, rfl⟩

end Collage

open Collage in
/-- The token for the photo opens the collage. -/
theorem Exchange.opens_sources_collage :
    (∀ id, (grown studio ticket [voucher]).isDerived id = false) ∧
      ∃ granted, ((showing voucher).weighing studio).outcome =
        .ok (grown studio ticket [voucher], .success granted) := by
  obtain ⟨sources, _, success, _⟩ := opens_sources exchange_voucher studio_trusts rfl rfl
  have allOpen : ∀ id, (grown studio ticket [voucher]).isDerived id = false := by
    intro id
    rw [← Bool.not_eq_true, sources]
    rintro ⟨derived, void⟩
    exact not_void (void voucher (List.mem_singleton_self _) (ticket_isDerived derived).symm)
  exact ⟨allOpen, success.mpr ⟨allOpen, settled _⟩⟩

namespace Collage

/-- The photo is listed as derived from a photo with the same identifier in an archive, and the client
has a token for that. -/
def photoAgain : Turn where
  now := ⟨0⟩
  request := (TokenRequest.forPermissions [.of photoId [Scope.derivationRead]]).push
    ⟨"negative", ClaimFormat.accessToken⟩
  realm := realm <|
    Descriptions.empty.describe "photo" ⟨none, [], [⟨"https://archive.example", "photo"⟩]⟩

theorem photoAgain_answer : photoAgain.answer gallery = .ok ⟨Fresh.credential 1, bearer, none⟩ := by
  decide +kernel

def voidVoucher : Voucher gallery where
  codec := photoCodec
  source := photoId
  resource := "photo"
  first := photoAgain
  turn := photoAgain
  earlier := []
  payload := ⟨[], none⟩
  response := ⟨Fresh.credential 1, bearer, none⟩
  coded := rfl
  synthetic := decode?_photoId
  run := .first rfl
  last := rfl
  asked := rfl
  dated := rfl
  issued := ⟨by decide +kernel, _, photoAgain_answer⟩
  answered := photoAgain_answer

end Collage

open Collage in
/-- Whoever has got a token for a resource that is listed as a source of itself is told again to get
one. -/
theorem Exchange.void_opens_nothing :
    Exchange studio ticket [voidVoucher] (showing voidVoucher) ∧
      (showing voidVoucher).answer studio =
        .error (.refused (.needInfo (Fresh.identifier 2)
          ⟨[[]], [⟨ClaimFormat.accessToken, "https://gallery.example", photoId,
            [Scope.derivationRead]⟩]⟩)) := by
  have good := voidVoucher.good_at_once (by decide) (by decide +kernel)
  exact ⟨exchange voidVoucher (by decide +kernel) good, by decide +kernel⟩

end UmaGrant
