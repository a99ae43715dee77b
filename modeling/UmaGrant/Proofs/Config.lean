import UmaGrant.Config
import UmaGrant.Proofs.Store.Tickets
import UmaGrant.Proofs.Time.Calendar
import UmaGrant.Proofs.Token.Lifetime
/-! # What an accepted configuration is good for

A file gives a configuration if it can be read and passes all checks, and else the first error. A
configuration is accepted with lifetimes of any length but zero. A ticket is stored and a token is issued
only if its expiry has a date, so a lifetime is of use only where it ends within the calendar.
-/

namespace UmaGrant

open Instant (startOf latest)

/-- No span reaches into the past. -/
theorem Span.toLifetime_nonneg (span : Span) : 0 ≤ span.toLifetime := by
  unfold toLifetime
  split
  · have seconds : 0 ≤ Lifetime.seconds span.seconds := Int.mul_nonneg (Int.natCast_nonneg _) (by decide)
    exact Int.add_nonneg seconds (Int.natCast_nonneg _)
  · decide

/-- From 1970 on, the instant after a span has a date unless it is beyond the last one. -/
theorem Instant.isSome_after?_span_iff {now : Instant} (epoch : 0 ≤ now.nanos) (span : Span) :
    (now.after? span.toLifetime).isSome ↔ now.nanos + span.toLifetime ≤ latest.nanos := by
  have onward : earliest.nanos ≤ now.nanos + span.toLifetime :=
    Int.le_trans (by decide) (Int.add_nonneg epoch span.toLifetime_nonneg)
  rw [isSome_after?_iff, inRange, Bool.and_eq_true, decide_eq_true_eq, decide_eq_true_eq]
  exact and_iff_right onward

namespace Config

/-! ## What is checked -/

/-- A check that is passed, and those after it. -/
private theorem checks_iff {fails : Prop} [Decidable fails] {error : ConfigError}
    {rest : Except ConfigError Unit} :
    (if fails then .error error else rest) = .ok () ↔ ¬ fails ∧ rest = .ok () := by
  split <;> simp_all

/-- A configuration is accepted if it names its issuer by an absolute address and an audience, and if
neither of its lifetimes is zero. -/
theorem validate_eq_ok_iff {config : Config} :
    config.validate = .ok () ↔ ¬ config.issuer.isEmpty ∧ ¬ (Url.parse? config.issuer).isNone ∧
      ¬ config.ticket.lifetime.isZero ∧ ¬ config.token.lifetime.isZero ∧
        ¬ config.token.audience.isEmpty := by
  rw [validate, checks_iff, checks_iff, checks_iff, checks_iff, checks_iff, and_iff_left rfl]

/-- The same configuration with other lifetimes. -/
def withLifetimes (config : Config) (ticket token : Span) : Config :=
  { config with ticket := ⟨ticket⟩, token := { config.token with lifetime := token } }

/-- Of a lifetime is looked at only whether it is zero. -/
theorem validate_withLifetimes_iff {config : Config} (accepted : config.validate = .ok ())
    (ticket token : Span) :
    (config.withLifetimes ticket token).validate = .ok () ↔ ¬ ticket.isZero ∧ ¬ token.isZero := by
  obtain ⟨issuer, address, _, _, audience⟩ := validate_eq_ok_iff.mp accepted
  rw [validate_eq_ok_iff]
  exact ⟨fun ⟨_, _, ticket, token, _⟩ => ⟨ticket, token⟩,
    fun ⟨ticket, token⟩ => ⟨issuer, address, ticket, token, audience⟩⟩

/-! ## What a file gives -/

/-- The settings that a file spells out, accepted or not. -/
def settings? (text : String) : Option Config :=
  (Toml.parse? text).bind fun document => (shape tomlDialect document.toJson).toOption

/-- Of a file that cannot be read the reader's account is reported, of any other one the first check that it
does not pass. -/
theorem load_eq (account : String → String) (text : String) :
    load account text =
      match settings? text with
      | none => .error (.invalidValue (account text))
      | some config => config.validate.map fun _ => config := by
  rw [load, ofToml, settings?]
  cases Toml.parse? text with
  | none => rfl
  | some document =>
    rw [Option.bind_some]
    dsimp only
    cases shape tomlDialect document.toJson with
    | error _ => rfl
    | ok config =>
      dsimp only [Except.toOption]
      cases config.validate <;> rfl

/-- What is loaded has been accepted. -/
theorem validate_of_load {account : String → String} {text : String} {config : Config}
    (loaded : load account text = .ok config) : config.validate = .ok () := by
  rw [load_eq] at loaded
  split at loaded
  · cases loaded
  rename_i given _
  cases checked : given.validate with
  | error error =>
    rw [checked] at loaded
    cases loaded
  | ok _ =>
    rw [checked] at loaded
    cases loaded
    exact checked

/-! ## A server at work -/

/-- The ticket stores that a server may have. -/
def HasStore (config : Config) (tickets : Tickets) : Prop := config.tickets.Steps tickets

/-- The token factories that a server may have. -/
def HasFactory (config : Config) (factory : TokenFactory) : Prop :=
  ∃ number scheme, (config.tokenFactory number scheme).Steps factory

variable {config : Config} {now : Instant}

theorem lifetime_tokenFactory (config : Config) (number : Nat) (scheme : SignatureScheme) :
    (config.tokenFactory number scheme).lifetime = config.tokenLifetime := by
  unfold tokenFactory
  cases config.token.format <;> rfl

theorem HasStore.isSome_put?_iff {tickets : Tickets} (store : config.HasStore tickets)
    (epoch : 0 ≤ now.nanos) (id : String) (ticket : Ticket) :
    (tickets.put? now id ticket).isSome ↔ now.nanos + config.ticketLifetime ≤ latest.nanos := by
  have lifetime : tickets.lifetime = config.ticketLifetime := Tickets.Steps.lifetime store
  rw [Tickets.isSome_put?, lifetime]
  exact Instant.isSome_after?_span_iff epoch config.ticket.lifetime

theorem HasFactory.isSome_issue_iff {factory : TokenFactory} (made : config.HasFactory factory)
    (epoch : 0 ≤ now.nanos) (supply : Supply) (payload : AccessToken) :
    (factory.issue now supply payload).1.isSome ↔
      now.nanos + config.tokenLifetime ≤ latest.nanos := by
  obtain ⟨number, scheme, steps⟩ := made
  have lifetime := steps.lifetime.trans (config.lifetime_tokenFactory number scheme)
  rw [TokenFactory.isSome_issue, lifetime]
  exact Instant.isSome_after?_span_iff epoch config.token.lifetime

/-- Whether a server can do its work at an instant: store any ticket, and issue a token for any payload. -/
structure UsableAt (config : Config) (now : Instant) : Prop where
  stores : ∀ {tickets}, config.HasStore tickets → ∀ id ticket, (tickets.put? now id ticket).isSome
  issues : ∀ {factory}, config.HasFactory factory → ∀ supply payload,
    (factory.issue now supply payload).1.isSome

/-- From 1970 on, a server can do its work as long as both lifetimes end within the calendar. -/
theorem usableAt_iff (epoch : 0 ≤ now.nanos) :
    config.UsableAt now ↔ now.nanos + config.ticketLifetime ≤ latest.nanos ∧
      now.nanos + config.tokenLifetime ≤ latest.nanos := by
  constructor
  · intro usable
    have store : config.HasStore config.tickets := .refl
    have factory : config.HasFactory (config.tokenFactory 0) := ⟨0, .ideal, .refl⟩
    have ticket := usable.stores store "" ⟨[], [], .empty, .empty, .empty⟩
    have token := usable.issues factory ⟨0⟩ ⟨[], none⟩
    exact ⟨(store.isSome_put?_iff epoch _ _).mp ticket, (factory.isSome_issue_iff epoch _ _).mp token⟩
  · rintro ⟨ticket, token⟩
    exact ⟨fun store id content => (store.isSome_put?_iff epoch id content).mpr ticket,
      fun factory supply payload => (factory.isSome_issue_iff epoch supply payload).mpr token⟩

/-! ## The years 1970 to 2100 -/

/-- From the end of the year 2100 to the end of the calendar. -/
def room : Lifetime := (startOf ⟨10000, 1, 1⟩).nanos - (startOf ⟨2101, 1, 1⟩).nanos

theorem epoch_of_inYears {last : Int} (years : now.InYears 1970 last) : 0 ≤ now.nanos := by
  have epoch : (startOf ⟨1970, 1, 1⟩).nanos = 0 := by decide
  rw [← epoch]
  exact years.1

/-- A lifetime that ends within the calendar at the last instant of those years does so at each. -/
theorem fits_throughout_iff {lifetime : Lifetime} :
    (∀ now : Instant, now.InYears 1970 2100 → now.nanos + lifetime ≤ latest.nanos) ↔
      lifetime ≤ room := by
  have end_eq : latest.nanos = (startOf ⟨2101, 1, 1⟩).nanos - 1 + room := by decide
  constructor
  · intro fits
    have lastly := fits ⟨(startOf ⟨2101, 1, 1⟩).nanos - 1⟩ (by decide)
    rw [end_eq] at lastly
    exact Int.le_of_add_le_add_left lastly
  · intro fits now years
    rw [end_eq]
    exact Int.add_le_add (Int.le_sub_one_of_lt years.2) fits

/-- An accepted configuration is of use in the years 1970 to 2100 exactly as far as its lifetimes end within
the calendar: where that of tickets does, every ticket can be stored, and else none; where that of tokens
does, every token can be issued, and else none. Both do at each instant of those years if neither exceeds
what is left of the calendar afterwards. That is not part of what is accepted, for with any lifetimes but
zero the configuration is accepted as well. -/
theorem usable_iff_of_accepted (accepted : config.validate = .ok ()) :
    (∀ now : Instant, now.InYears 1970 2100 →
      (∀ tickets, config.HasStore tickets → ∀ id ticket,
        (tickets.put? now id ticket).isSome ↔ now.nanos + config.ticketLifetime ≤ latest.nanos) ∧
      ∀ factory, config.HasFactory factory → ∀ supply payload,
        (factory.issue now supply payload).1.isSome ↔
          now.nanos + config.tokenLifetime ≤ latest.nanos) ∧
    ((∀ now : Instant, now.InYears 1970 2100 → config.UsableAt now) ↔
      config.ticketLifetime ≤ room ∧ config.tokenLifetime ≤ room) ∧
    ∀ ticket token : Span,
      (config.withLifetimes ticket token).validate = .ok () ↔ ¬ ticket.isZero ∧ ¬ token.isZero := by
  refine ⟨fun now years => ?_, ?_, validate_withLifetimes_iff accepted⟩
  · have epoch := epoch_of_inYears years
    exact ⟨fun _ store => store.isSome_put?_iff epoch, fun _ factory => factory.isSome_issue_iff epoch⟩
  · rw [← fits_throughout_iff, ← fits_throughout_iff, ← forall_and]
    refine forall_congr' fun now => ?_
    rw [← imp_and]
    exact forall_congr' fun years => usableAt_iff (epoch_of_inYears years)

/-- A configuration that gives nothing but the issuer. -/
def minimal : Config where
  issuer := "https://[2001:db8::1]"
  ticket := defaultTicket
  token := defaultToken
  signing := defaultSigning
  policy := defaultPolicy

private theorem minimal_accepted : minimal.validate = .ok () :=
  validate_eq_ok_iff.mpr (by decide +kernel)

/-- Ten thousand years. -/
def tenMillennia : Span := .ofSeconds 315576000000

theorem usable_iff_of_accepted_minimal :
    minimal.validate = .ok () ∧ (∀ now : Instant, now.InYears 1970 2100 → minimal.UsableAt now) ∧
      (minimal.withLifetimes tenMillennia tenMillennia).validate = .ok () := by
  obtain ⟨-, usable, lengthened⟩ := usable_iff_of_accepted minimal_accepted
  exact ⟨minimal_accepted, usable.mpr (by decide), (lengthened _ _).mpr (by decide)⟩

/-- A configuration with tickets and tokens that last so long. -/
def lasting (format : TokenFormat) : Config :=
  { minimal with
    ticket := ⟨tenMillennia⟩
    token := { defaultToken with format, lifetime := tenMillennia } }

/-- The file of that configuration. -/
def lastingFile (format : TokenFormat) : String :=
  "issuer = \"https://[2001:db8::1]\"\n[ticket]\nlifetime = \"10000years\"\n[token]\nformat = \"" ++
    format.name ++ "\"\nlifetime = \"10000years\"\n"

/-- A time at which a server may well be at work. -/
def midyear : Instant := startOf ⟨2024, 7, 1⟩

/-- A configuration file may let tickets and tokens last ten thousand years, and is accepted. A server that
is set up in this way can neither store a ticket nor issue a token. -/
theorem lasting_useless :
    ((Config.ofToml (lastingFile .signed)).toOption = some (lasting .signed) ∧
        (Config.ofToml (lastingFile .reference)).toOption = some (lasting .reference)) ∧
      (∀ format, (lasting format).validate = .ok ()) ∧ midyear.InYears 1970 2100 ∧
      (∀ format id ticket, (lasting format).tickets.put? midyear id ticket = none) ∧
      ∀ format number supply payload,
        (((lasting format).tokenFactory number).issue midyear supply payload).1 = none := by
  refine ⟨⟨by decide +kernel, by decide +kernel⟩, fun format => ?_, by decide,
    fun format id ticket => ?_, fun format number supply payload => ?_⟩
  · obtain ⟨issuer, address, -⟩ := validate_eq_ok_iff.mp minimal_accepted
    rw [validate_eq_ok_iff]
    cases format <;> exact ⟨issuer, address, by decide, by decide, by decide⟩
  · rw [← Option.not_isSome_iff_eq_none, HasStore.isSome_put?_iff .refl (by decide)]
    cases format <;> decide
  · rw [← Option.not_isSome_iff_eq_none, HasFactory.isSome_issue_iff ⟨number, .ideal, .refl⟩ (by decide)]
    cases format <;> decide

end Config

end UmaGrant
