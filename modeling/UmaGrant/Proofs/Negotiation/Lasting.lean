import UmaGrant.Proofs.Negotiation.Concluding
/-! # What lasts through a round

A round changes the realm in few ways, and in none at the same time. A property that each of these
changes keeps lasts through the whole round, however early that ends.
-/

namespace UmaGrant

namespace Round

variable {α β : Type} {holds : Realm → Prop}

/-- Whether a property of realms lasts through a round, however it ends. -/
def Keeps (holds : Realm → Prop) (round : Round α) : Prop :=
  ∀ realm : Realm, holds realm → holds (round.run realm).realm

theorem Keeps.bind {first : Round α} {next : α → Round β} (keeps : first.Keeps holds)
    (keepsNext : ∀ value, (next value).Keeps holds) : (first >>= next).Keeps holds := by
  intro realm holding
  rw [run_bind]
  cases (first.run realm).outcome with
  | error halt => exact keeps realm holding
  | ok value => exact keepsNext value _ (keeps realm holding)

theorem keeps_pure (value : α) : (pure value : Round α).Keeps holds := fun _ holding => holding

theorem keeps_ofLogged (computation : Logged α) : (ofLogged computation).Keeps holds :=
  fun _ holding => holding

end Round

namespace Server

variable {server : Server} {now : Instant} {request : TokenRequest} {holds : Realm → Prop}

/-- Whether a property of realms is kept by each change that a request to a server makes, apart from
what it does to contracts. -/
structure Preserves (server : Server) (now : Instant) (request : TokenRequest)
    (holds : Realm → Prop) : Prop where
  takes : ∀ realm id, request.named? = some id → holds realm →
    holds { realm with tickets := (realm.tickets.take now id).2 }
  opens : ∀ realm asked tokens sourced, request.check = .ok ⟨.begin asked, tokens⟩ → holds realm →
    (server.strategy.openTicket realm.descriptions realm.issuers asked).outcome = .ok sourced →
    holds { realm with issuers := sourced.issuers }
  verifies : ∀ realm checked token, request.check = .ok checked → token ∈ checked.tokens →
    holds realm →
    holds { realm with factories := (server.verifier.verify now token realm.factories).2 }
  draws : ∀ realm supply, realm.supply.next ≤ supply.next → holds realm →
    holds { realm with supply }
  stores : ∀ realm ticket tickets,
    realm.tickets.put? now (Fresh.identifier realm.supply.next) ticket = some tickets →
    holds realm → holds { realm with tickets, supply := ⟨realm.supply.next + 1⟩ }
  issues : ∀ realm payload issued factories supply,
    realm.factories.issue server.factory now realm.supply payload = (issued, factories, supply) →
    holds realm → holds { realm with factories, supply }

namespace Preserves

variable (preserves : server.Preserves now request holds)

include preserves

theorem obtainTicket {checked : TokenRequest.Checked} (checks : request.check = .ok checked) :
    (server.obtainTicket now checked.aim).Keeps holds := by
  obtain ⟨aim, tokens⟩ := checked
  intro realm holding
  cases aim with
  | begin asked =>
    rw [Server.obtainTicket, Server.openTicket, Round.run_realm_bind, Round.run_consult_bind]
    cases opened : (server.strategy.openTicket realm.descriptions realm.issuers asked).outcome with
    | error error => exact holding
    | ok sourced => exact preserves.opens realm asked tokens sourced checks holding opened
  | resume id =>
    rw [Server.obtainTicket]
    cases working : server.takeOutage with
    | some error =>
      rw [takeTicket, working]
      exact holding
    | none =>
      rw [run_takeTicket working]
      exact preserves.takes realm id (TokenRequest.named?_eq_some_iff.mpr ⟨tokens, checks⟩) holding

theorem addTokens {checked : TokenRequest.Checked} (checks : request.check = .ok checked)
    {tokens : List ClaimToken} (pushed : tokens ⊆ checked.tokens) (ticket : Ticket) :
    (server.addTokens now ticket tokens).Keeps holds := by
  induction tokens generalizing ticket with
  | nil => exact Round.keeps_pure ticket
  | cons token rest ih =>
    obtain ⟨among, others⟩ := List.cons_subset.mp pushed
    refine Round.Keeps.bind (fun realm holding => ?_) fun claims =>
      (Round.keeps_ofLogged _).bind fun grown => ih others grown
    rw [run_verifyToken]
    exact preserves.verifies realm checked token checks among holding

private theorem resolveTicket (ticket : Ticket) : (server.resolveTicket ticket).Keeps holds := by
  intro realm holding
  rw [Server.resolveTicket, Round.run_realm_bind, Round.run_consult_bind]
  cases resolved : (server.strategy.resolve realm.descriptions realm.issuers realm.supply
      ticket).outcome with
  | error error => exact holding
  | ok resolution =>
    exact preserves.draws realm resolution.2 (Strategy.supply_resolve resolved) holding

theorem weigh : (server.weigh now request).Keeps holds := by
  intro realm holding
  cases checks : request.check with
  | error error =>
    rw [run_weigh_error checks]
    exact holding
  | ok checked =>
    rw [run_weigh checks]
    refine Round.Keeps.bind (preserves.obtainTicket checks) (fun ticket => ?_) realm holding
    refine Round.Keeps.bind (preserves.addTokens checks (List.Subset.refl _) ticket) fun grown => ?_
    exact (preserves.resolveTicket grown).bind fun resolution => Round.keeps_pure _

theorem suspend {α : Type} (ticket : Ticket) (missing : List MissingClaims) :
    (server.suspend now ticket missing : Round α).Keeps holds := by
  intro realm holding
  have drawn := preserves.draws realm ⟨realm.supply.next + 1⟩ (Nat.le_succ _) holding
  rw [run_suspend]
  dsimp only
  split
  · exact holding
  · split
    case h_1 => exact drawn
    case h_2 => exact drawn
    case h_3 tickets _ stored => exact preserves.stores realm ticket tickets stored holding

theorem issue (payload : AccessToken) : (server.issue now payload).Keeps holds := by
  intro realm holding
  rw [run_issue]
  generalize issuing : realm.factories.issue server.factory now realm.supply payload = issued
  obtain ⟨token, factories, supply⟩ := issued
  exact preserves.issues realm payload token factories supply issuing holding

/-- A property that each change keeps lasts through a whole round of a server that draws up no
contracts. -/
theorem negotiate (plain : server.contracting = none) :
    (server.negotiate now request).Keeps holds := by
  rw [negotiate_eq]
  refine Round.Keeps.bind preserves.weigh fun weighed => ?_
  obtain ⟨ticket, resolution⟩ := weighed
  cases resolution with
  | failure missing => exact preserves.suspend ticket missing
  | success granted =>
    have drafting : (server.draft now ⟨ticket, granted⟩).Keeps holds := by
      rw [draft, plain]
      exact Round.keeps_pure _
    exact drafting.bind fun payload => preserves.issue payload

/-- What is put down in contracts does not matter to a property that does not look at them. -/
theorem conclude (drafts : ∀ realm contracts, holds realm → holds { realm with contracts })
    (weighed : Ticket × Resolution) : (server.conclude now weighed).Keeps holds := by
  obtain ⟨ticket, resolution⟩ := weighed
  cases resolution with
  | failure missing => exact preserves.suspend ticket missing
  | success granted =>
    have drafting : (server.draft now ⟨ticket, granted⟩).Keeps holds := by
      unfold draft
      cases server.contracting with
      | none => exact Round.keeps_pure _
      | some contracting =>
        refine Round.Keeps.bind (fun realm holding => ?_) fun uid => Round.keeps_pure _
        have drawn := preserves.draws realm ⟨realm.supply.next + 1⟩ (Nat.le_succ _) holding
        rw [run_contractFor]
        dsimp only
        split
        case h_1 => exact drawn
        case h_2 => exact drawn
        case h_3 contract _ _ => exact drafts _ (realm.contracts.put contract) drawn
    exact drafting.bind fun payload => preserves.issue payload

end Preserves

end Server

end UmaGrant
