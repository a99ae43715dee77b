import UmaGrant.Proofs.Negotiation.Lasting
import UmaGrant.Proofs.Negotiation.Run
import UmaGrant.Proofs.Strategy.Issuers
/-! # No ticket is without issuers

All tickets of a server share one register of the servers behind sources. It goes on naming a server for
each source of each ticket, in the store and on its way through a turn, because a turn only ever writes to
the register, and because a ticket comes from the store or is opened with its sources written down.
-/

namespace UmaGrant

variable {server : Server} {now : Instant} {request : TokenRequest} {realm left : Realm} {turn : Turn}
  {ticket : Ticket}

/-- Whether the register of a realm knows servers for all sources of all stored tickets. -/
def Realm.KnowsAll (realm : Realm) : Prop :=
  ∀ id stored, realm.tickets.entries.get? id = some stored → realm.issuers.Knows stored.ticket

/-- Tickets may be lost and servers may be written down. -/
theorem Realm.KnowsAll.later (knows : realm.KnowsAll) (within : left.tickets.Within realm.tickets)
    (grown : left.issuers.GrownFrom realm.issuers) : left.KnowsAll :=
  fun id stored found => (knows id stored (within.entries id stored found)).grown grown

/-! ## What a turn does to the register -/

namespace Server

/-- Each change that a round makes leaves in the register what is there. -/
theorem preserves_grownFrom (server : Server) (now : Instant) (request : TokenRequest)
    (issuers : Issuers) :
    server.Preserves now request fun realm => realm.issuers.GrownFrom issuers where
  takes _ _ _ grown := grown
  opens _ _ _ _ _ grown opened := (Strategy.knows_openTicket opened).1.trans grown
  verifies _ _ _ _ _ grown := grown
  draws _ _ _ grown := grown
  stores _ _ _ _ grown := grown
  issues _ _ _ _ _ _ grown := grown

/-- Getting a ticket puts none into the store. -/
theorem within_obtainTicket {aim : TokenRequest.Aim}
    (ended : (server.obtainTicket now aim).Ends realm (.ok ticket) left) :
    left.tickets.Within realm.tickets := by
  cases aim with
  | begin asked =>
    rw [((isSteady_openTicket asked).ends ended).tickets]
    exact .refl _
  | resume id =>
    cases (obtainTicket_ends ended).1 with
    | taken working found live =>
      obtain ⟨-, rfl⟩ := ended
      rw [obtainTicket, run_takeTicket working]
      exact realm.tickets.take_within now id

/-- A ticket that a round gets has servers written down for its sources. -/
theorem knows_obtainTicket (before : realm.KnowsAll) {aim : TokenRequest.Aim}
    (ended : (server.obtainTicket now aim).Ends realm (.ok ticket) left)
    (grown : left.issuers.GrownFrom realm.issuers) : left.issuers.Knows ticket := by
  cases aim with
  | begin asked =>
    obtain ⟨sourced, opened, same, rfl⟩ := Round.ends_realm_consult_ok.mp ended
    cases same
    exact (Strategy.knows_openTicket opened).2
  | resume id =>
    cases (obtainTicket_ends ended).1 with
    | taken working found live => exact (before id _ found).grown grown

end Server

namespace Turn

/-- Whether a ticket is on its way through a turn in some realm: it has been obtained, and it has been
shown what the first few of the tokens prove. -/
def Carries (server : Server) (turn : Turn) (ticket : Ticket) (realm : Realm) : Prop :=
  ∃ checked tokens, turn.request.check = .ok checked ∧ tokens <+: checked.tokens ∧
    (server.obtainTicket turn.now checked.aim >>= fun start =>
      server.addTokens turn.now start tokens).Ends turn.realm (.ok ticket) realm

/-- The register names servers for the sources of a ticket at any time on its way. -/
theorem Carries.knows (carries : turn.Carries server ticket realm) (before : turn.realm.KnowsAll) :
    realm.issuers.Knows ticket ∧ realm.KnowsAll := by
  obtain ⟨checked, tokens, checks, first, ended⟩ := carries
  obtain ⟨start, between, obtained, added⟩ := Round.ends_bind_ok.mp ended
  have preserves := server.preserves_grownFrom turn.now turn.request
  have grown : between.issuers.GrownFrom turn.realm.issuers :=
    obtained.2 ▸ (preserves _).obtainTicket checks turn.realm (.refl _)
  have more : realm.issuers.GrownFrom between.issuers :=
    added.2 ▸ (preserves _).addTokens checks first.subset start between (.refl _)
  refine ⟨?_, before.later ?_ (more.trans grown)⟩
  · rw [Server.addTokens_ends added]
    exact Strategy.knows_addAll ((Server.knows_obtainTicket before obtained grown).grown more) _
  · rw [((Server.isSteady_addTokens start tokens).ends added).tickets]
    exact Server.within_obtainTicket obtained

/-- A ticket that is weighed has been carried there. -/
theorem carries_of_weighing {resolution : Resolution}
    (weighed : (turn.weighing server).outcome = .ok (ticket, resolution)) :
    ∃ realm, turn.Carries server ticket realm ∧ (turn.weighing server).realm.issuers = realm.issuers := by
  have ended : (server.weigh turn.now turn.request).Ends turn.realm (.ok (ticket, resolution))
      (turn.weighing server).realm := ⟨weighed, rfl⟩
  rw [Server.weigh] at ended
  obtain ⟨checked, _, consulted, ended⟩ := Round.ends_bind_ok.mp ended
  obtain ⟨checks, rfl⟩ := Round.ends_consult_ok.mp consulted
  obtain ⟨start, between, obtained, ended⟩ := Round.ends_bind_ok.mp ended
  obtain ⟨grown, later, added, ended⟩ := Round.ends_bind_ok.mp ended
  obtain ⟨decided, last, resolved, same, rfl⟩ := Round.ends_bind_ok.mp ended
  cases same
  exact ⟨later, ⟨checked, checked.tokens, checks, List.prefix_refl _, obtained.bind added⟩,
    (Server.resolveTicket_ends resolved).2⟩

/-- Nor does the rest of a turn take anything out of the register. -/
theorem grownFrom_weighing (server : Server) (turn : Turn) :
    (turn.weighing server).realm.issuers.GrownFrom turn.realm.issuers :=
  (server.preserves_grownFrom turn.now turn.request _).weigh turn.realm (.refl _)

theorem grownFrom_left (server : Server) (turn : Turn) :
    (turn.left server).issuers.GrownFrom (turn.weighing server).realm.issuers := by
  cases ended : (turn.weighing server).outcome with
  | error halt =>
    rw [(of_weighing_error ended).2]
    exact .refl _
  | ok weighed =>
    rw [(of_weighing_ok ended).2]
    exact (server.preserves_grownFrom turn.now turn.request _).conclude (fun _ _ grown => grown) weighed _
      (.refl _)

/-- A turn leaves the register naming servers for the sources of all stored tickets. -/
theorem knowsAll_left (server : Server) (before : turn.realm.KnowsAll) : (turn.left server).KnowsAll := by
  have grown := (turn.grownFrom_left server).trans (turn.grownFrom_weighing server)
  have stays : ∀ id stored, (server.storeWithout turn.now turn.request turn.realm.tickets).entries.get? id =
      some stored → (turn.left server).issuers.Knows stored.ticket := fun id stored found =>
    (before id stored ((Server.storeWithout_within _).entries id stored found)).grown grown
  rcases turn.store_cases server with ⟨-, left⟩ | ⟨ticket, expiresAt, putsBack⟩
  · unfold Realm.KnowsAll
    rwa [left]
  · intro id stored found
    rw [putsBack.stored, Dict.get?_insert] at found
    by_cases same : id = turn.freshId server
    · rw [if_pos same] at found
      cases found
      obtain ⟨missing, weighed⟩ := putsBack.weighed
      obtain ⟨realm, carries, kept⟩ := carries_of_weighing weighed
      exact (kept ▸ (carries.knows before).1).grown (turn.grownFrom_left server)
    · rw [if_neg same] at found
      exact stays id stored found

/-- Whether in a history the register is only ever written to, also between turns. -/
def KeepRegister (server : Server) : List Turn → Prop
  | turn :: last :: earlier =>
    turn.realm.issuers.GrownFrom (last.left server).issuers ∧ KeepRegister server (last :: earlier)
  | _ => True

end Turn

/-! ## Histories -/

theorem Run.knowsAll {earlier : List Turn} (run : Run server (turn :: earlier))
    (kept : Turn.KeepRegister server (turn :: earlier)) : turn.realm.KnowsAll := by
  generalize same : turn :: earlier = history at run kept
  induction run generalizing turn earlier with
  | first empty =>
    cases same
    intro id stored found
    rw [empty] at found
    cases found
  | next run within ih =>
    cases same
    obtain ⟨grown, kept⟩ := kept
    exact (Turn.knowsAll_left server (ih rfl kept)).later within grown

/-- In a history of a server that knows derived resources, the register names a server for each source of
each ticket, and each ticket has entries for its sources: of the tickets in the store before and after a
turn, and of the ticket of the turn at any time on its way, whatever other rounds have written down in the
meantime. So a ticket can always say what it demands for its sources, and it fails to be resolved only where
the settlement fails. -/
theorem Run.issuers_known {codec : IdCodec} (coded : server.strategy.codec = some codec)
    {earlier : List Turn} (run : Run server (turn :: earlier))
    (kept : Turn.KeepRegister server (turn :: earlier)) :
    turn.realm.KnowsAll ∧ (turn.left server).KnowsAll ∧
      ∀ ticket realm, turn.Carries server ticket realm →
        ∀ issuers : Issuers, issuers.GrownFrom realm.issuers →
          issuers.Knows ticket ∧ ({ realm with issuers } : Realm).KnowsAll ∧
          (∃ claims, Derivation.outstanding issuers ticket = .ok claims) ∧
          ∀ descriptions supply error,
            (server.strategy.resolve descriptions issuers supply ticket).outcome = .error error ↔
              (server.strategy.settlement.resolve descriptions
                (Derivation.withoutSources ticket)).outcome = .error error := by
  have before := run.knowsAll kept
  refine ⟨before, Turn.knowsAll_left server before, fun ticket realm carries issuers grown => ?_⟩
  obtain ⟨knows, all⟩ := carries.knows before
  have later := knows.grown grown
  exact ⟨later, all.later (.refl _) grown, later.outstanding, Strategy.resolve_eq_error_iff coded later⟩

namespace Report

/-- The ticket of the second turn, as it is taken from the store. -/
def taken : Ticket := (proving.realm.tickets.take proving.now (Fresh.identifier 0)).1.getD .blank

/-- The realm once the ticket has been taken. -/
def taking : Realm :=
  { proving.realm with tickets := (proving.realm.tickets.take proving.now (Fresh.identifier 0)).2 }

theorem carries : proving.Carries Report.server taken taking :=
  ⟨⟨.resume (Fresh.identifier 0), [⟨"upstream grant", ClaimFormat.accessToken⟩]⟩, [], rfl,
    List.nil_prefix, rfl, rfl⟩

end Report

theorem Run.issuers_known_report :
    Report.taken.isDerived "upstream" = true ∧ Report.taking.issuers.Knows Report.taken ∧
      ∃ claims, Derivation.outstanding Report.taking.issuers Report.taken = .ok claims := by
  obtain ⟨-, -, known⟩ := Run.issuers_known rfl Report.run ⟨.refl _, trivial⟩
  obtain ⟨knows, -, outstanding, -⟩ := known Report.taken Report.taking Report.carries _ (.refl _)
  exact ⟨rfl, knows, outstanding⟩

end UmaGrant
