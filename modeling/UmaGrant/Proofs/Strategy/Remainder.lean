import Mathlib.Data.List.Forall2
import UmaGrant.Proofs.Strategy.Elimination
/-! # What elimination leaves

Elimination leaves of every alternative the requirements that no claim has met, as they were. What is
left depends on which claims have been shown, and neither on their order nor on the claim sets in which
they came. A strategy that knows derived resources lets its settlement see the claims with grants on
real identifiers; apart from that its tickets are eliminated in the same way.
-/

namespace UmaGrant

namespace Requirements

variable {requirements : Requirements} {claimType : String} {predicate : Predicate}
  {shown more : List (String × Json)}

/-- Whether a claim is required and has been shown with a value that passes. -/
def isMet (requirements : Requirements) (shown : List (String × Json)) (claimType : String) : Bool :=
  (requirements.get? claimType).any fun predicate =>
    shown.any fun claim => claim.1 = claimType && predicate.passes claim.2

/-- The requirements that no claim has met. -/
def remaining (requirements : Requirements) (shown : List (String × Json)) : Requirements :=
  requirements.filter fun claimType _ => !requirements.isMet shown claimType

private theorem isMet_append (claimType : String) :
    requirements.isMet (shown ++ more) claimType =
      (requirements.isMet shown claimType || requirements.isMet more claimType) := by
  unfold isMet
  cases requirements.get? claimType with
  | none => rfl
  | some predicate => exact List.any_append

/-- Claims that come later meet of what is left what they would have met at the start. -/
theorem remaining_append (requirements : Requirements) (shown more : List (String × Json)) :
    requirements.remaining (shown ++ more) = (requirements.remaining shown).remaining more := by
  unfold remaining
  rw [Dict.filter_filter]
  refine congrArg (Dict.filter · requirements) (funext fun claimType => funext fun _ => ?_)
  rw [isMet_append, Bool.not_or, Bool.and_comm]
  cases met : requirements.isMet shown claimType with
  | true => rw [Bool.not_true, Bool.and_false, Bool.and_false]
  | false =>
    have kept : (requirements.filter fun claimType _ =>
        !requirements.isMet shown claimType).get? claimType = requirements.get? claimType := by
      rw [Dict.get?_filter requirements fun claimType => !requirements.isMet shown claimType, met]
      rfl
    rw [isMet, isMet, kept]

theorem meet_eq (requirements : Requirements) (claimType : String) (value : Json) :
    (requirements.meet claimType value).value = requirements.remaining [(claimType, value)] := by
  unfold meet check remaining
  cases required : requirements.get? claimType with
  | none =>
    have unmet : ∀ name, requirements.isMet [(claimType, value)] name = false := by
      intro name
      by_cases same : claimType = name
      · rw [isMet, ← same, required]
        rfl
      · cases found : requirements.get? name <;> simp [isMet, found, same]
    rw [Dict.filter_eq_self requirements fun name => by rw [unmet]; rfl]
    rfl
  | some test =>
    change (if some (test.passes value) = some true then requirements.erase claimType
      else requirements) = _
    have met : ∀ name, requirements.isMet [(claimType, value)] name =
        (decide (name = claimType) && test.passes value) := by
      intro name
      by_cases same : name = claimType
      · subst same
        simp [isMet, required]
      · cases found : requirements.get? name <;> simp [isMet, found, same, Ne.symm same]
    simp only [met]
    cases test.passes value with
    | true => simp [Dict.erase_eq_filter]
    | false =>
      rw [Dict.filter_eq_self requirements fun name => by rw [Bool.and_false]; rfl]
      rfl

/-- Where nothing is shown, all is left. -/
theorem remaining_nil (requirements : Requirements) : requirements.remaining [] = requirements := by
  refine Dict.filter_eq_self requirements fun claimType => ?_
  unfold isMet
  cases requirements.get? claimType <;> rfl

theorem map_remaining_nil (alternatives : List Requirements) :
    alternatives.map (·.remaining []) = alternatives :=
  (List.map_congr_left fun alternative _ => alternative.remaining_nil).trans (List.map_id _)

/-- What claims leave, one after the other, is what none of them has met. -/
theorem meetEach_eq (requirements : Requirements) (shown : List (String × Json)) :
    requirements.meetEach shown = requirements.remaining shown := by
  induction shown generalizing requirements with
  | nil => exact requirements.remaining_nil.symm
  | cons claim rest ih =>
    change (requirements.meet claim.1 claim.2).value.meetEach rest = _
    rw [ih, meet_eq, ← remaining_append]
    rfl

theorem get?_remaining :
    (requirements.remaining shown).get? claimType = some predicate ↔
      requirements.get? claimType = some predicate ∧
        ∀ value, (claimType, value) ∈ shown → predicate.passes value = false := by
  rw [← meetEach_eq]
  exact get?_meetEach

theorem isSolved_remaining :
    (requirements.remaining shown).isSolved = true ↔ requirements.MetBy shown := by
  rw [← meetEach_eq]
  exact isSolved_meetEach

/-- The order of claims does not matter, nor does it that some are shown again. -/
theorem remaining_congr (requirements : Requirements)
    (same : ∀ claim, claim ∈ shown ↔ claim ∈ more) :
    requirements.remaining shown = requirements.remaining more := by
  have met : requirements.isMet shown = requirements.isMet more := by
    funext claimType
    refine congrArg (requirements.get? claimType).any (funext fun predicate => ?_)
    rw [Bool.eq_iff_iff, List.any_eq_true, List.any_eq_true]
    simp only [same]
  rw [remaining, met, remaining]

/-- Requirements are only taken away. -/
theorem remaining_sublist (requirements : Requirements) (shown : List (String × Json)) :
    (requirements.remaining shown).entries.Sublist requirements.entries := List.filter_sublist

end Requirements

namespace Strategy

variable {strategy : Strategy} {descriptions : Descriptions} {issuers : Issuers} {ticket : Ticket}

/-! ## Claims as they are read -/

/-- Claims as the settlement gets to see them. -/
def read (strategy : Strategy) (claims : Claims) : Claims :=
  match strategy.codec with
  | none => claims
  | some codec => Derivation.unmaskClaims codec claims

/-- A claim value as the settlement gets to see it. With a codec, grants that access tokens prove are written
down anew, on real identifiers; all else is passed on as it was shown. -/
def readValue (strategy : Strategy) (claimType : String) (value : Json) : Json :=
  match strategy.codec with
  | none => value
  | some codec =>
    if claimType = ClaimType.access then
      match (Permission.listShape value).toOption with
      | some grants => Permission.listToJson (grants.map (Derivation.unmask codec))
      | none => value
    else value

theorem get?_read (strategy : Strategy) (claims : Claims) (claimType : String) :
    (strategy.read claims).get? claimType =
      (claims.get? claimType).map (strategy.readValue claimType) := by
  unfold read readValue
  cases strategy.codec with
  | none => exact Option.map_id'.symm
  | some codec =>
    dsimp only
    rw [Derivation.unmaskClaims]
    by_cases access : claimType = ClaimType.access
    · subst access
      cases shown : claims.get? ClaimType.access with
      | none =>
        rw [Derivation.provenGrants?, shown]
        exact shown
      | some value =>
        rw [Derivation.provenGrants?, shown, Option.bind_some, Option.map_some, if_pos rfl]
        cases (Permission.listShape value).toOption with
        | none => exact shown
        | some grants => exact Dict.get?_insert_same claims _ _
    · simp only [if_neg access, Option.map_id']
      cases Derivation.provenGrants? claims with
      | none => rfl
      | some grants => exact Dict.get?_insert_other claims access _

/-- All claims of claim sets, one after the other. -/
def history (strategy : Strategy) (shown : List Claims) : List (String × Json) :=
  shown.flatMap fun claims => (strategy.read claims).entries

/-- Whether claim sets meet requirements: all claim types that are required are shown, with values that pass
as they are read. -/
def Meets (strategy : Strategy) (requirements : Requirements) (shown : List Claims) : Prop :=
  ∀ claimType predicate, requirements.get? claimType = some predicate →
    ∃ claims ∈ shown, ∃ value, claims.get? claimType = some value ∧
      predicate.passes (strategy.readValue claimType value) = true

theorem Meets.metBy {requirements : Requirements} {shown : List Claims}
    (meets : strategy.Meets requirements shown) : requirements.MetBy (strategy.history shown) := by
  intro claimType predicate required
  obtain ⟨claims, among, value, found, passes⟩ := meets claimType predicate required
  have read : (strategy.read claims).get? claimType = some (strategy.readValue claimType value) := by
    rw [get?_read, found]
    rfl
  exact ⟨_, List.mem_flatMap.mpr ⟨claims, among, Dict.mem_entries_of_get? read⟩, passes⟩

/-! ## Tickets after claims -/

/-- Claims leave of each alternative what they do not meet. -/
theorem required_addClaims (eliminating : strategy.settlement.method = .elimination)
    (ticket : Ticket) (claims : Claims) :
    (strategy.addClaims ticket claims).value.required =
      ticket.required.map (·.remaining (strategy.read claims).entries) := by
  have settled : ∀ start : Ticket, ∀ shown : Claims,
      (strategy.settlement.addClaims start shown).value.required =
        start.required.map (·.remaining shown.entries) := by
    intro start shown
    rw [Settlement.addClaims, eliminating]
    dsimp only
    rw [Ticket.strikeEach_eq]
    exact List.map_congr_left fun alternative _ => alternative.meetEach_eq shown.entries
  rw [addClaims, read]
  cases strategy.codec with
  | none => exact settled ticket claims
  | some codec =>
    obtain ⟨_, _, rest⟩ := Derivation.proveAll_rest ticket claims
    dsimp only
    rw [settled, rest]

/-- So do claim sets, one after the other. -/
theorem required_addAll (eliminating : strategy.settlement.method = .elimination)
    (ticket : Ticket) (shown : List Claims) :
    (strategy.addAll ticket shown).required =
      ticket.required.map (·.remaining (strategy.history shown)) := by
  induction shown generalizing ticket with
  | nil => exact (Requirements.map_remaining_nil ticket.required).symm
  | cons claims rest ih =>
    change (strategy.addAll (strategy.addClaims ticket claims).value rest).required = _
    rw [ih, required_addClaims eliminating, List.map_map]
    exact List.map_congr_left fun alternative _ => (alternative.remaining_append _ _).symm

theorem isSatisfied_addAll (eliminating : strategy.settlement.method = .elimination)
    (ticket : Ticket) (shown : List Claims) :
    (strategy.addAll ticket shown).isSatisfied = true ↔
      ∃ alternative ∈ ticket.required, alternative.MetBy (strategy.history shown) := by
  rw [Ticket.isSatisfied, required_addAll eliminating, List.any_map, List.any_eq_true]
  simp only [Function.comp_apply, Requirements.isSolved_remaining]

/-! ## What is left of a ticket -/

section

variable {authorizer : Authorizer}

private theorem outcome_resolve_eliminating (supply : Supply) :
    ((eliminating authorizer).resolve descriptions issuers supply ticket).outcome =
      .ok (if ticket.isSatisfied then .success ticket.permissions
        else .failure (ticket.required.map .alternative), supply) := rfl

private theorem permissions_eliminating (ticket : Ticket) (shown : List Claims) :
    ((eliminating authorizer).addAll ticket shown).permissions = ticket.permissions := by
  rw [addAll_eliminating, Ticket.strikeEach_eq]

/-- Of each alternative those requirements are left for which no value that was shown has passed the
test. The ticket is granted as it was if an alternative has had all its requirements met, and else
lacks what is left. The order of claims and the claim sets in which they come do not matter, and
further claims only take requirements away. -/
theorem eliminating_leaves (authorizer : Authorizer) (ticket : Ticket) (shown : List Claims) :
    let strategy := eliminating authorizer
    let left := strategy.addAll ticket shown
    let history := shown.flatMap (·.entries)
    List.Forall₂
      (fun before after : Requirements => ∀ claimType predicate,
        after.get? claimType = some predicate ↔ before.get? claimType = some predicate ∧
          ∀ value, (claimType, value) ∈ history → predicate.passes value = false)
      ticket.required left.required ∧
    (∀ descriptions issuers supply,
      (∃ alternative ∈ ticket.required, alternative.MetBy history) ∧
          (strategy.resolve descriptions issuers supply left).outcome =
            .ok (.success ticket.permissions, supply) ∨
        (¬ ∃ alternative ∈ ticket.required, alternative.MetBy history) ∧
          (strategy.resolve descriptions issuers supply left).outcome =
            .ok (.failure (left.required.map .alternative), supply)) ∧
    (∀ others : List Claims, (∀ claim, claim ∈ others.flatMap (·.entries) ↔ claim ∈ history) →
      (strategy.addAll ticket others).required = left.required ∧
      ∀ descriptions issuers supply,
        (strategy.resolve descriptions issuers supply (strategy.addAll ticket others)).outcome =
          (strategy.resolve descriptions issuers supply left).outcome) ∧
    ∀ more, List.Forall₂
      (fun before after : Requirements => after.entries.Sublist before.entries)
      left.required (strategy.addAll left more).required := by
  intro strategy left history
  have required : left.required = ticket.required.map (·.remaining history) :=
    required_addAll rfl ticket shown
  have settled : left.isSatisfied = true ↔
      ∃ alternative ∈ ticket.required, alternative.MetBy history := isSatisfied_addAll rfl ticket shown
  have permissions : left.permissions = ticket.permissions := permissions_eliminating ticket shown
  refine ⟨?_, fun descriptions issuers supply => ?_, fun others same => ?_, fun more => ?_⟩
  · rw [required, List.forall₂_map_right_iff]
    exact List.forall₂_same.mpr fun alternative _ claimType predicate =>
      Requirements.get?_remaining
  · rw [outcome_resolve_eliminating, permissions, ← settled]
    cases left.isSatisfied with
    | true => exact .inl ⟨rfl, rfl⟩
    | false => exact .inr ⟨nofun, rfl⟩
  · have equal : (strategy.addAll ticket others).required = left.required := by
      rw [required_addAll rfl, required]
      exact List.map_congr_left fun alternative _ => alternative.remaining_congr same
    refine ⟨equal, fun descriptions issuers supply => ?_⟩
    rw [outcome_resolve_eliminating, outcome_resolve_eliminating, Ticket.isSatisfied, equal,
      permissions_eliminating, permissions]
    rfl
  · rw [required_addAll rfl left more, List.forall₂_map_right_iff]
    exact List.forall₂_same.mpr fun alternative _ => alternative.remaining_sublist _

end

end Strategy

end UmaGrant
