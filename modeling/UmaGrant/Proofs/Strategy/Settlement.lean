import UmaGrant.Proofs.Authorizer.Restriction
import UmaGrant.Strategy.Settlement
/-! # What settling gives and what it leaves alone

A settlement opens tickets for exactly what is asked for. Claims change the requirements and the
claims of a ticket, and nothing else of it. What comes of a ticket in the end restricts what the
ticket asks for.
-/

namespace UmaGrant

theorem Ticket.strikeEach_value (ticket : Ticket) (claims : List (String × Json)) :
    ∃ required provided, (ticket.strikeEach claims).value = { ticket with required, provided } := by
  induction claims generalizing ticket with
  | nil => exact ⟨_, _, rfl⟩
  | cons claim rest ih =>
    obtain ⟨required, provided, same⟩ := ih (ticket.strike claim.1 claim.2).value
    exact ⟨required, provided, same⟩

namespace Settlement

variable {settlement : Settlement} {descriptions : Descriptions}

theorem openTicket_eq {permissions : List Permission} {ticket : Ticket}
    (opened : (settlement.openTicket descriptions permissions).outcome = .ok ticket) :
    ∃ required, ticket = .new permissions required := by
  unfold openTicket at opened
  cases method : settlement.method <;> rw [method] at opened
  case judgement =>
    cases opened
    exact ⟨_, rfl⟩
  case elimination =>
    obtain ⟨alternatives, _, same⟩ := Consult.bind_outcome_eq_ok_iff.mp opened
    cases same
    exact ⟨_, rfl⟩

theorem addClaims_value (settlement : Settlement) (ticket : Ticket) (claims : Claims) :
    ∃ required provided,
      (settlement.addClaims ticket claims).value = { ticket with required, provided } := by
  unfold addClaims
  cases settlement.method
  case judgement => exact ⟨_, _, rfl⟩
  case elimination => exact ticket.strikeEach_value claims.entries

/-- An elimination grants what is asked for as soon as an alternative is met. -/
theorem resolve_eq_of_elimination (eliminating : settlement.method = .elimination) (ticket : Ticket) :
    (settlement.resolve descriptions ticket).outcome =
      .ok (if ticket.isSatisfied then .success ticket.permissions
        else .failure (ticket.required.map .alternative)) := by
  rw [resolve, eliminating]
  rfl

/-- A settlement gives no more than the ticket asks for. -/
theorem resolve_restricts (own : settlement.authorizer.isOwn = true) {ticket : Ticket}
    {granted : List Permission}
    (resolved : (settlement.resolve descriptions ticket).outcome = .ok (.success granted)) :
    Permission.AllRestrict granted ticket.permissions := by
  cases method : settlement.method
  case judgement =>
    rw [resolve, method] at resolved
    obtain ⟨decided, decision, resolved⟩ := Consult.bind_outcome_eq_ok_iff.mp resolved
    have within := (settlement.authorizer.permissions_restrict own decision).filter
      fun permission => !permission.resourceScopes.isEmpty
    change Permission.AllRestrict (nonemptyGrants decided) _ at within
    cases nonempty : nonemptyGrants decided <;> rw [nonempty] at resolved within <;> cases resolved
    exact within
  case elimination =>
    rw [resolve_eq_of_elimination method] at resolved
    split at resolved
    · cases resolved
      exact .refl _
    · cases resolved

end Settlement

end UmaGrant
