import UmaGrant.Contract.Drafting
import UmaGrant.Proofs.Strategy.Provenance
/-! # What elimination remembers

Elimination strikes a requirement once a claim meets it, and keeps the last value of each claim. So a
ticket is settled if all claims of an alternative were good at some time. They still are if no later
value has taken the place of a good one.
-/

namespace UmaGrant

namespace Predicate

variable {predicate : Predicate} {claimType name : String} {value : Json}
  {shown : List (String × Json)}

/-- Whether a claim value passes a test. -/
def passes (predicate : Predicate) (value : Json) : Bool := (predicate.accepts value).value

/-- Whether a claim was shown with a value that passes, and since then with none that does not. -/
def Lasts (predicate : Predicate) (claimType : String) (shown : List (String × Json)) : Prop :=
  ∃ before value after, shown = before ++ (claimType, value) :: after ∧
    predicate.passes value = true ∧
    ∀ other, (claimType, other) ∈ after → predicate.passes other = true

private theorem lasts_cons :
    predicate.Lasts claimType ((name, value) :: shown) ↔
      predicate.Lasts claimType shown ∨
        (name = claimType ∧ predicate.passes value = true ∧
          ∀ other, (claimType, other) ∈ shown → predicate.passes other = true) := by
  constructor
  · rintro ⟨before, good, after, same, passed, kept⟩
    cases before with
    | nil =>
      cases same
      exact .inr ⟨rfl, passed, kept⟩
    | cons head before =>
      cases same
      exact .inl ⟨before, good, after, rfl, passed, kept⟩
  · rintro (⟨before, good, after, rfl, passed, kept⟩ | ⟨rfl, passed, kept⟩)
    · exact ⟨(name, value) :: before, good, after, rfl, passed, kept⟩
    · exact ⟨[], value, shown, rfl, passed, kept⟩

/-- The value of a claim passes if a good one has lasted, or if it passed before and no bad one has
been shown. -/
private theorem passes_recorded {claims : Claims} :
    (∃ last, (shown.foldl (fun known claim => known.insert claim.1 claim.2) claims).get? claimType =
        some last ∧ predicate.passes last = true) ↔
      predicate.Lasts claimType shown ∨
        ((∃ old, claims.get? claimType = some old ∧ predicate.passes old = true) ∧
          ∀ other, (claimType, other) ∈ shown → predicate.passes other = true) := by
  -- Each claim that is shown changes what the others start from, so that stays general.
  induction shown generalizing claims with
  | nil => simp [Lasts]
  | cons claim rest ih =>
    obtain ⟨name, value⟩ := claim
    rw [List.foldl_cons, ih, lasts_cons, or_assoc]
    refine or_congr_right ?_
    dsimp only
    by_cases same : name = claimType
    · subst same
      simp only [Dict.get?_insert_same, Option.some.injEq, exists_eq_left', true_and,
        List.mem_cons, Prod.mk.injEq, forall_eq_or_imp]
      exact (or_iff_left_of_imp fun kept => kept.2).symm
    · rw [Dict.get?_insert_other claims (Ne.symm same)]
      simp [same, Ne.symm same]

end Predicate

namespace Requirements

variable {requirements : Requirements} {claimType key : String} {predicate : Predicate}
  {value : Json} {shown : List (String × Json)}

/-- Whether all claims that are required have been shown at some time with a value that passes. -/
def MetBy (requirements : Requirements) (shown : List (String × Json)) : Prop :=
  ∀ claimType predicate, requirements.get? claimType = some predicate →
    ∃ value, (claimType, value) ∈ shown ∧ predicate.passes value = true

/-- Whether all claims that are required have a value that passes. -/
def HoldIn (requirements : Requirements) (claims : Claims) : Prop :=
  ∀ claimType predicate, requirements.get? claimType = some predicate →
    ∃ value, claims.get? claimType = some value ∧ predicate.passes value = true

/-- Whether all claims that are required have been shown with a value that passes, and since then with
none that does not. -/
def LastIn (requirements : Requirements) (shown : List (String × Json)) : Prop :=
  ∀ claimType predicate, requirements.get? claimType = some predicate →
    predicate.Lasts claimType shown

/-- The requirements that are left after claims, one after the other. -/
def meetEach (requirements : Requirements) (shown : List (String × Json)) : Requirements :=
  shown.foldl (fun left claim => (left.meet claim.1 claim.2).value) requirements

/-- A claim strikes its own requirement if it passes the test, and no other. -/
private theorem get?_meet :
    (requirements.meet claimType value).value.get? key = some predicate ↔
      requirements.get? key = some predicate ∧
        (claimType = key → predicate.passes value = false) := by
  cases required : requirements.get? claimType with
  | none =>
    have untouched : (requirements.meet claimType value).value = requirements := by
      unfold meet check
      rw [required]
      rfl
    rw [untouched]
    refine (and_iff_left_of_imp fun found same => ?_).symm
    rw [← same, required] at found
    cases found
  | some test =>
    have struck : (requirements.meet claimType value).value =
        if test.passes value = true then requirements.erase claimType else requirements := by
      unfold meet check
      rw [required]
      change (if some (test.passes value) = some true then _ else _) = _
      simp only [Option.some.injEq]
    rw [struck]
    by_cases same : claimType = key
    · subst same
      cases passed : test.passes value <;> simp [required]
      · rintro rfl
        exact passed
      · rintro rfl
        exact passed
    · cases passed : test.passes value
      · simp [same]
      · simp [same, Dict.get?_erase_other requirements (Ne.symm same)]

/-- A requirement is left if and only if no claim has met it. -/
theorem get?_meetEach :
    (requirements.meetEach shown).get? key = some predicate ↔
      requirements.get? key = some predicate ∧
        ∀ value, (key, value) ∈ shown → predicate.passes value = false := by
  induction shown generalizing requirements with
  | nil => simp [meetEach]
  | cons claim rest ih =>
    obtain ⟨name, value⟩ := claim
    have step : (requirements.meetEach ((name, value) :: rest)) =
        (requirements.meet name value).value.meetEach rest := rfl
    rw [step, ih, get?_meet, and_assoc]
    refine and_congr_right fun _ => ⟨?_, ?_⟩
    · rintro ⟨first, later⟩ other member
      rcases List.mem_cons.mp member with same | member
      · cases same
        exact first rfl
      · exact later other member
    · intro unmet
      refine ⟨?_, fun other member => unmet other (List.mem_cons_of_mem _ member)⟩
      rintro rfl
      exact unmet value List.mem_cons_self

/-- Nothing is left if and only if all claims that are required were good at some time. -/
theorem isSolved_meetEach :
    (requirements.meetEach shown).isSolved = true ↔ requirements.MetBy shown := by
  rw [isSolved, Dict.isEmpty_iff]
  constructor
  · intro nothing claimType predicate required
    refine Classical.byContradiction fun unmet => ?_
    have left : (requirements.meetEach shown).get? claimType = some predicate := by
      refine get?_meetEach.mpr ⟨required, fun value member => ?_⟩
      exact Bool.eq_false_iff.mpr fun passed => unmet ⟨value, member, passed⟩
    rw [nothing claimType] at left
    cases left
  · intro met claimType
    refine Option.eq_none_iff_forall_ne_some.mpr fun predicate left => ?_
    obtain ⟨required, unmet⟩ := get?_meetEach.mp left
    obtain ⟨value, member, passed⟩ := met claimType predicate required
    rw [unmet value member] at passed
    cases passed

/-- Requirements of a single claim type require nothing else. -/
theorem eq_of_get?_withOneOf {allowed : List String} {name : String}
    (required : (withOneOf .empty claimType allowed).get? name = some predicate) :
    name = claimType ∧ predicate = .oneOf allowed := by
  rw [withOneOf, Dict.get?_insert] at required
  split at required
  case isTrue same =>
    cases required
    exact ⟨same, rfl⟩
  case isFalse => cases required

/-- The claims that were shown last are good if and only if a good value of each has lasted. -/
theorem holdIn_ofList : requirements.HoldIn (Dict.ofList shown) ↔ requirements.LastIn shown := by
  refine forall_congr' fun claimType => forall_congr' fun predicate => imp_congr_right fun _ => ?_
  rw [Dict.ofList, Predicate.passes_recorded]
  simp

end Requirements

namespace Ticket

private theorem strikeAll_value (claimType : String) (value : Json)
    (alternatives : List Requirements) :
    (strikeAll claimType value alternatives).value =
      alternatives.map fun alternative => (alternative.meet claimType value).value := by
  induction alternatives with
  | nil => rfl
  | cons alternative rest ih =>
    rw [List.map_cons, ← ih]
    rfl

/-- Claims strike requirements in all alternatives, and each takes its place among what has been
shown. -/
theorem strikeEach_eq (ticket : Ticket) (shown : List (String × Json)) :
    (ticket.strikeEach shown).value =
      { ticket with
        required := ticket.required.map (·.meetEach shown)
        provided := shown.foldl (fun known claim => known.insert claim.1 claim.2)
          ticket.provided } := by
  induction shown generalizing ticket with
  | nil =>
    have same : ticket.required.map (·.meetEach []) = ticket.required := List.map_id' _
    rw [same]
    rfl
  | cons claim rest ih =>
    obtain ⟨claimType, value⟩ := claim
    have struck : (ticket.strike claimType value).value =
        { ticket with
          required := ticket.required.map fun alternative =>
            (alternative.meet claimType value).value
          provided := ticket.provided.insert claimType value } := by
      rw [← strikeAll_value]
      rfl
    change ((ticket.strike claimType value).value.strikeEach rest).value = _
    rw [struck, ih, List.map_map]
    rfl

end Ticket

namespace Strategy

variable {authorizer : Authorizer} {descriptions : Descriptions} {issuers : Issuers}
  {asked : List Permission} {sourced : Sourced}

/-- The strategy that goes by elimination and knows no derived resources. -/
def eliminating (authorizer : Authorizer) : Strategy := ⟨⟨.elimination, authorizer⟩, none⟩

theorem addAll_eliminating (ticket : Ticket) (shown : List Claims) :
    (eliminating authorizer).addAll ticket shown =
      (ticket.strikeEach (shown.flatMap (·.entries))).value := by
  induction shown generalizing ticket with
  | nil => rfl
  | cons claims rest ih =>
    change (eliminating authorizer).addAll (ticket.strikeEach claims.entries).value rest = _
    rw [ih, List.flatMap_cons, Ticket.strikeEach_eq, Ticket.strikeEach_eq, Ticket.strikeEach_eq,
      List.foldl_append, List.map_map]
    have both : (fun alternative : Requirements => alternative.meetEach
        (claims.entries ++ rest.flatMap (·.entries))) =
        (·.meetEach (rest.flatMap (·.entries))) ∘ (·.meetEach claims.entries) := by
      funext alternative
      exact List.foldl_append
    rw [both]

private theorem openTicket_eliminating
    (opened : ((eliminating authorizer).openTicket descriptions issuers asked).outcome =
      .ok sourced) : sourced.ticket = .new asked sourced.ticket.required := by
  obtain ⟨ticket, settled, same⟩ := Consult.bind_outcome_eq_ok_iff.mp opened
  cases same
  obtain ⟨required, rfl⟩ := Settlement.openTicket_eq settled
  rfl

private theorem resolve_eliminating {supply left : Supply} {ticket : Ticket}
    {granted : List Permission} :
    ((eliminating authorizer).resolve descriptions issuers supply ticket).outcome =
        .ok (.success granted, left) ↔
      ticket.isSatisfied = true ∧ granted = ticket.permissions ∧ left = supply := by
  change Except.ok (if ticket.isSatisfied then Outcome.success ticket.permissions
    else .failure (ticket.required.map MissingClaims.alternative), supply) = _ ↔ _
  cases ticket.isSatisfied
  · constructor
    · intro same
      cases same
    · rintro ⟨satisfied, _⟩
      cases satisfied
  · constructor
    · intro same
      cases same
      exact ⟨rfl, rfl, rfl⟩
    · rintro ⟨_, rfl, rfl⟩
      rfl

end Strategy

/-! ## A diary that is open to its writer -/

namespace Diary

def writer : String := "https://alice.example/me"

def reader : String := "https://mallory.example/me"

def asked : List Permission := [.of "diary" [Scope.read]]

def strategy : Strategy := .eliminating (.webIds [writer])

def alternative : Requirements := .withOneOf .empty ClaimType.webId [writer]

def opened : Sourced := ⟨.new asked [alternative], .empty⟩

/-- Claim sets of nothing but a WebID. -/
def shown (webIds : List String) : List Claims :=
  webIds.map fun webId => Dict.empty.insert ClaimType.webId (.string webId)

theorem opens : (strategy.openTicket .empty .empty asked).outcome = .ok opened := rfl

theorem alternative_metBy : alternative.MetBy ((shown [writer]).flatMap (·.entries)) := by
  intro claimType predicate required
  obtain ⟨rfl, rfl⟩ := Requirements.eq_of_get?_withOneOf required
  exact ⟨_, List.mem_cons_self, rfl⟩

end Diary

namespace Strategy

variable {authorizer : Authorizer} {descriptions : Descriptions} {issuers : Issuers}
  {asked : List Permission} {sourced : Sourced}

/-- A ticket is settled if and only if all claims of an alternative were good at some time. An
alternative is good by what is provided in the end if and only if good values of its claims have
lasted; then the assignee of a contract is good too, if it is named in a claim of the alternative. -/
theorem eliminating_settles
    (opened : ((eliminating authorizer).openTicket descriptions issuers asked).outcome = .ok sourced)
    (shown : List Claims) :
    let ticket := (eliminating authorizer).addAll sourced.ticket shown
    let history := shown.flatMap (·.entries)
    (∀ descriptions issuers supply granted left,
      ((eliminating authorizer).resolve descriptions issuers supply ticket).outcome =
          .ok (.success granted, left) ↔
        (∃ alternative ∈ sourced.ticket.required, alternative.MetBy history) ∧ granted = asked ∧
          left = supply) ∧
    (∀ alternative ∈ sourced.ticket.required,
      alternative.HoldIn ticket.provided ↔ alternative.LastIn history) ∧
    ∀ alternative ∈ sourced.ticket.required, alternative.LastIn history →
      ∀ claimType predicate, alternative.get? claimType = some predicate →
        ticket.provided.text? claimType = some (Contracting.assignee ticket.provided) →
        predicate.passes (.string (Contracting.assignee ticket.provided)) = true := by
  intro ticket history
  have start := openTicket_eliminating opened
  have shape : ticket = { sourced.ticket with
      required := sourced.ticket.required.map (·.meetEach history)
      provided := .ofList history } := by
    change (eliminating authorizer).addAll sourced.ticket shown = _
    rw [addAll_eliminating, Ticket.strikeEach_eq, start]
    rfl
  have lasting : ∀ alternative ∈ sourced.ticket.required,
      alternative.HoldIn ticket.provided ↔ alternative.LastIn history := by
    intro alternative _
    rw [shape]
    exact Requirements.holdIn_ofList
  refine ⟨fun descriptions issuers supply granted left => ?_, lasting, ?_⟩
  · have satisfied : ticket.isSatisfied = true ↔
        ∃ alternative ∈ sourced.ticket.required, alternative.MetBy history := by
      rw [shape, Ticket.isSatisfied, List.any_map, List.any_eq_true]
      simp only [Function.comp_apply, Requirements.isSolved_meetEach]
    have permissions : ticket.permissions = asked := by
      rw [shape, start]
      rfl
    rw [resolve_eliminating, satisfied, permissions]
  · intro alternative member lasts claimType predicate required named
    obtain ⟨value, found, passed⟩ :=
      (lasting alternative member).mpr lasts claimType predicate required
    rw [Claims.text?, found, Option.bind_some] at named
    cases value <;> cases named
    exact passed

theorem eliminating_settles_diary :
    (Diary.strategy.resolve .empty .empty ⟨0⟩
        (Diary.strategy.addAll Diary.opened.ticket (Diary.shown [Diary.writer]))).outcome =
      .ok (.success Diary.asked, ⟨0⟩) :=
  ((eliminating_settles Diary.opens (Diary.shown [Diary.writer])).1 _ _ _ _ _).mpr
    ⟨⟨Diary.alternative, List.mem_cons_self, Diary.alternative_metBy⟩, rfl, rfl⟩

/-- The WebID of someone else, shown after the right one, ends up as the assignee. -/
theorem eliminating_forgets :
    let ticket := Diary.strategy.addAll Diary.opened.ticket
      (Diary.shown [Diary.writer, Diary.reader])
    (Diary.strategy.openTicket .empty .empty Diary.asked).outcome = .ok Diary.opened ∧
      (Diary.strategy.resolve .empty .empty ⟨0⟩ ticket).outcome =
        .ok (.success Diary.asked, ⟨0⟩) ∧
      (¬ ∃ alternative ∈ Diary.opened.ticket.required, alternative.HoldIn ticket.provided) ∧
      Contracting.assignee ticket.provided = Diary.reader := by
  refine ⟨rfl, rfl, ?_, rfl⟩
  rintro ⟨alternative, member, holds⟩
  obtain rfl := List.mem_singleton.mp member
  obtain ⟨value, found, passed⟩ := holds ClaimType.webId (.oneOf [Diary.writer]) rfl
  cases found
  cases passed

end Strategy

end UmaGrant
