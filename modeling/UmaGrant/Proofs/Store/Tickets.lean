import Mathlib.Logic.Relation
import UmaGrant.Proofs.Dict
import UmaGrant.Store.Tickets
/-! # What a store of tickets holds

Taking a ticket finds it if it is there and still good, and removes it in any case. A store is within
another one if it differs at most by lacking tickets. Whatever is done with a store, its tickets last as
long as before, so whether one can be stored depends on the clock alone.
-/

namespace UmaGrant.Tickets

variable {tickets : Tickets} {now : Instant} {id : String}

/-- Whether a store has nothing that another one does not have. -/
structure Within (tickets others : Tickets) : Prop where
  lifetime : tickets.lifetime = others.lifetime
  entries : ∀ id stored, tickets.entries.get? id = some stored → others.entries.get? id = some stored

theorem Within.refl (tickets : Tickets) : tickets.Within tickets := ⟨rfl, fun _ _ found => found⟩

theorem take_eq_some_iff {ticket : Ticket} :
    (tickets.take now id).1 = some ticket ↔
      ∃ stored, tickets.entries.get? id = some stored ∧ isLive now stored = true ∧
        stored.ticket = ticket := by
  simp only [take, Option.map_eq_some_iff, Option.filter_eq_some_iff, and_assoc]

theorem take_within (tickets : Tickets) (now : Instant) (id : String) :
    (tickets.take now id).2.Within tickets :=
  ⟨rfl, fun _ _ found => (Dict.get?_erase_eq_some_iff.mp found).2⟩

/-! ## A store in use -/

/-- What can be done with a store. -/
inductive Step : Tickets → Tickets → Prop where
  | put {tickets next : Tickets} {now : Instant} {id : String} {ticket : Ticket}
      (stored : tickets.put? now id ticket = some next) : Step tickets next
  | take (tickets : Tickets) (now : Instant) (id : String) : Step tickets (tickets.take now id).2
  | sweep (tickets : Tickets) (now : Instant) : Step tickets (tickets.sweep now).2

/-- What a store can be once it was used. -/
abbrev Steps : Tickets → Tickets → Prop := Relation.ReflTransGen Step

theorem Step.lifetime {next : Tickets} (step : Step tickets next) : next.lifetime = tickets.lifetime := by
  cases step with
  | put stored =>
    obtain ⟨_, _, rfl⟩ := Option.map_eq_some_iff.mp stored
    rfl
  | take => rfl
  | sweep => rfl

theorem Steps.lifetime {next : Tickets} (steps : Steps tickets next) :
    next.lifetime = tickets.lifetime := by
  induction steps with
  | refl => rfl
  | tail _ step ih => exact step.lifetime.trans ih

/-- A ticket is stored exactly where its expiry has a date. -/
theorem isSome_put? (tickets : Tickets) (now : Instant) (id : String) (ticket : Ticket) :
    (tickets.put? now id ticket).isSome = (now.after? tickets.lifetime).isSome := Option.isSome_map

end UmaGrant.Tickets
