import UmaGrant.Proofs.Negotiation.Weighing
/-! # How a round concludes

A ticket that could not be resolved is gone, or it goes back into the store under a fresh identifier.
A ticket that could is turned into what an access token says.
-/

namespace UmaGrant.Server

variable {server : Server} {now : Instant} {request : TokenRequest} {realm left : Realm}

/-! ## Suspended tickets -/

/-- A ticket that nothing could ever help is gone. Any other goes back into the store under a fresh
identifier, which is the answer. -/
theorem run_suspend {α : Type} (ticket : Ticket) (missing : List MissingClaims) :
    (server.suspend now ticket missing : Round α).run realm =
      let derivations := missing.filterMap MissingClaims.derivation?
      let id := Fresh.identifier realm.supply.next
      let drawn := { realm with supply := ⟨realm.supply.next + 1⟩ }
      if ticket.required.isEmpty && derivations.isEmpty then
        ⟨.error (.refused .requestDenied), realm, []⟩
      else
        match server.putOutage, realm.tickets.put? now id ticket with
        | some error, _ => ⟨.error (.refused error), drawn, []⟩
        | none, none => ⟨.error .beyondCalendar, drawn, []⟩
        | none, some tickets =>
          ⟨.error (.refused (.needInfo id ⟨ticket.outstandingClaimTypes, derivations⟩)),
            { drawn with tickets }, []⟩ := by
  unfold suspend
  by_cases denied : (ticket.required.isEmpty &&
      (missing.filterMap MissingClaims.derivation?).isEmpty) = true
  · simp only [denied, if_true]
    rfl
  · simp only [denied, Bool.false_eq_true, if_false, Round.run_draw_bind, putTicket]
    cases server.putOutage with
    | some error => rfl
    | none =>
      dsimp only
      rw [bind_assoc, Round.run_realm_bind]
      cases realm.tickets.put? now (Fresh.identifier realm.supply.next) ticket <;> rfl

theorem supply_suspend {α : Type} (ticket : Ticket) (missing : List MissingClaims) :
    realm.supply.next ≤
      ((server.suspend now ticket missing : Round α).run realm).realm.supply.next := by
  rw [run_suspend]
  dsimp only
  split
  · exact Nat.le_refl _
  · split <;> exact Nat.le_succ _

/-! ## Granting -/

/-- Without contracts a ticket that has been resolved is turned into a token at once. -/
theorem conclude_success (plain : server.contracting = none) (now : Instant) (ticket : Ticket)
    (granted : List Permission) :
    server.conclude now (ticket, .success granted) = server.issue now ⟨granted, none⟩ := by
  simp only [conclude, draft, plain, pure_bind]

private theorem not_suspend_ends_ok {α : Type} {ticket : Ticket} {missing : List MissingClaims}
    {value : α} : ¬ (server.suspend now ticket missing).Ends realm (.ok value) left := by
  rintro ⟨ended, _⟩
  rw [run_suspend] at ended
  dsimp only at ended
  split at ended
  · cases ended
  · split at ended <;> cases ended

private theorem draft_ends {resolved : Resolved} {payload : AccessToken}
    (ended : (server.draft now resolved).Ends realm (.ok payload) left) :
    payload.permissions = resolved.granted := by
  unfold draft at ended
  cases contracted : server.contracting with
  | none =>
    rw [contracted] at ended
    cases ended.1
    rfl
  | some contracting =>
    simp only [contracted] at ended
    obtain ⟨uid, between, _, same, _⟩ := Round.ends_bind_ok.mp ended
    cases same
    rfl

/-- What a token says has been granted on a ticket. -/
theorem grant_ends {payload : AccessToken}
    (ended : (server.grant now request).Ends realm (.ok payload) left) :
    ∃ ticket between,
      (server.weigh now request).Ends realm (.ok (ticket, .success payload.permissions)) between := by
  rw [grant, settle_eq] at ended
  obtain ⟨resolved, between, settled, drafted⟩ := Round.ends_bind_ok.mp ended
  obtain ⟨weighed, middle, weighing, settled⟩ := Round.ends_bind_ok.mp settled
  obtain ⟨ticket, resolution⟩ := weighed
  cases resolution with
  | failure missing => exact absurd settled not_suspend_ends_ok
  | success granted =>
    cases settled.1
    rw [draft_ends drafted]
    exact ⟨ticket, middle, weighing⟩

end UmaGrant.Server
