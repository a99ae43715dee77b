import Mathlib.Data.List.Forall2
import UmaGrant.Proofs.Strategy.Provenance
/-! # How what was asked for comes back

A strategy that goes by elimination grants a settled ticket as it stands: what was asked for, in
order, less the entries under identifiers of sources. The identifier that the client sees on an entry
depends on the whole request, since a resource has one alias, which is the last synthetic identifier
by which the request names it. So a request comes back entry by entry only if it names every resource
in one way and asks for nothing under the identifier of a source.
-/

namespace UmaGrant

namespace Derivation

variable {codec : IdCodec} {asked kept : List Permission} {wanted granted : Permission}
  {ticket : Ticket} {supply : Supply}

/-- How an entry of a request comes back. -/
inductive ComesBack (codec : IdCodec) (asked : List Permission) (wanted : Permission) :
    Permission → Prop
  /-- Under the alias of its resource, if the request has one for it. -/
  | aliased {cover : String}
      (found : (aliases codec asked).get? (codec.realId wanted.resourceId) = some cover) :
      ComesBack codec asked wanted { wanted with resourceId := cover }
  /-- Else under a fresh synthetic identifier, if it is to be read as a source. -/
  | masked (nonce : Gcm.Nonce)
      (unnamed : (aliases codec asked).get? (codec.realId wanted.resourceId) = none)
      (reads : wanted.hasScope Scope.derivationRead = true) :
      ComesBack codec asked wanted
        { wanted with resourceId := codec.encode nonce wanted.resourceId }
  /-- Else as it is. -/
  | plain (unnamed : (aliases codec asked).get? (codec.realId wanted.resourceId) = none)
      (other : wanted.hasScope Scope.derivationRead = false) : ComesBack codec asked wanted wanted

/-- Whether an entry comes back under the identifier that the client wrote. If that is the real one of
a resource to be read as a source, it has to be a synthetic one that stands for it and by which
nothing was asked for. -/
structure Faithful (codec : IdCodec) (asked : List Permission) (wanted granted : Permission) :
    Prop where
  scopes : granted.resourceScopes = wanted.resourceScopes
  written : (codec.decode? wanted.resourceId).isSome = true ∨
    wanted.hasScope Scope.derivationRead = false → granted.resourceId = wanted.resourceId
  synthetic : codec.decode? wanted.resourceId = none →
    wanted.hasScope Scope.derivationRead = true →
      codec.decode? granted.resourceId = some wanted.resourceId ∧
        ∀ other ∈ asked, other.resourceId ≠ granted.resourceId

/-- Whether a request that names a resource by a synthetic identifier names it so throughout. -/
def NamesInOneWay (codec : IdCodec) (asked : List Permission) : Prop :=
  ∀ first ∈ asked, ∀ second ∈ asked,
    codec.decode? first.resourceId = some (codec.realId second.resourceId) →
      second.resourceId = first.resourceId

/-! ## Masking by the aliases of a request -/

private theorem realId_of_decode? {id real : String} (decoded : codec.decode? id = some real) :
    codec.realId id = real := by
  rw [IdCodec.realId, decoded, Option.getD_some]

private theorem realId_of_plain {id : String} (plain : codec.decode? id = none) :
    codec.realId id = id := by
  rw [IdCodec.realId, plain, Option.getD_none]

/-- A resource without an alias is asked for by its own identifier. -/
private theorem decode?_of_unnamed (member : wanted ∈ asked)
    (unnamed : (aliases codec asked).get? (codec.realId wanted.resourceId) = none) :
    codec.decode? wanted.resourceId = none := by
  refine Option.eq_none_iff_forall_ne_some.mpr fun real decoded => ?_
  have named : (aliases codec asked).contains real = true :=
    contains_aliases.mpr ⟨wanted, member, decoded⟩
  rw [← realId_of_decode? decoded, Dict.contains, unnamed] at named
  cases named

private theorem unmask_eq (codec : IdCodec) (wanted : Permission) :
    unmask codec wanted = { wanted with resourceId := codec.realId wanted.resourceId } := by
  unfold unmask IdCodec.realId
  cases codec.decode? wanted.resourceId <;> rfl

private theorem mask_comesBack (known : ticket.aliases = aliases codec asked)
    (member : wanted ∈ asked) (supply : Supply) :
    ComesBack codec asked wanted (mask codec ticket supply (unmask codec wanted)).1 := by
  rw [unmask_eq, mask, known]
  dsimp only
  cases found : (aliases codec asked).get? (codec.realId wanted.resourceId) with
  | some cover => exact .aliased found
  | none =>
    rw [realId_of_plain (decode?_of_unnamed member found)]
    change ComesBack codec asked wanted (if wanted.hasScope Scope.derivationRead = true then _ else
      (wanted, supply)).1
    cases reads : wanted.hasScope Scope.derivationRead with
    | true => exact .masked (Fresh.nonce supply.next) found reads
    | false => exact .plain found reads

/-- Entries of a request come back one by one and in order. -/
theorem maskAll_comeBack (known : ticket.aliases = aliases codec asked) (within : kept ⊆ asked) :
    List.Forall₂ (ComesBack codec asked) kept
      (maskAll codec ticket supply (kept.map (unmask codec))).1 := by
  induction kept generalizing supply with
  | nil => exact .nil
  | cons wanted rest ih =>
    obtain ⟨member, others⟩ := List.cons_subset.mp within
    exact .cons (mask_comesBack known member supply) (ih others)

/-! ## When everything comes back as it was written -/

theorem ComesBack.faithful (returned : ComesBack codec asked wanted granted)
    (uniform : NamesInOneWay codec asked) (member : wanted ∈ asked) :
    Faithful codec asked wanted granted := by
  cases returned with
  | @aliased cover found =>
    obtain ⟨namer, asking, rfl⟩ := mem_of_get?_aliases found
    have decoded := decode?_of_aliases found
    have same : wanted.resourceId = namer.resourceId := uniform namer asking wanted member decoded
    refine ⟨rfl, fun _ => same.symm, fun plain _ => ?_⟩
    rw [same, decoded] at plain
    cases plain
  | masked nonce unnamed reads =>
    have plain := decode?_of_unnamed member unnamed
    refine ⟨rfl, ?_, fun _ _ => ⟨codec.decode?_encode nonce _, fun other asking same => ?_⟩⟩
    · rintro (synthetic | silent)
      · rw [plain] at synthetic
        cases synthetic
      · rw [reads] at silent
        cases silent
    · -- A synthetic identifier of the resource in the request would have given it an alias.
      have named : (aliases codec asked).contains wanted.resourceId = true :=
        contains_aliases.mpr ⟨other, asking, by rw [same]; exact codec.decode?_encode nonce _⟩
      rw [realId_of_plain plain] at unnamed
      rw [Dict.contains, unnamed] at named
      cases named
  | plain unnamed silent =>
    refine ⟨rfl, fun _ => rfl, fun _ reads => ?_⟩
    rw [silent] at reads
    cases reads

/-- An entry that comes back as it was written is named by the alias of its resource. -/
theorem Faithful.named {cover : String} (faithful : Faithful codec asked wanted granted)
    (returned : ComesBack codec asked wanted granted)
    (found : (aliases codec asked).get? (codec.realId wanted.resourceId) = some cover) :
    wanted.resourceId = cover := by
  have under : granted.resourceId = cover := by
    cases returned with
    | aliased other => exact Option.some.inj (other.symm.trans found)
    | masked _ unnamed => exact nomatch unnamed.symm.trans found
    | plain unnamed => exact nomatch unnamed.symm.trans found
  cases decoded : codec.decode? wanted.resourceId with
  | some real => exact (faithful.written (.inl (by rw [decoded]; rfl))).symm.trans under
  | none =>
    cases reads : wanted.hasScope Scope.derivationRead with
    | false => exact (faithful.written (.inr reads)).symm.trans under
    | true =>
      obtain ⟨namer, asking, same⟩ := mem_of_get?_aliases found
      exact absurd (same.trans under.symm) ((faithful.synthetic decoded reads).2 namer asking)

private theorem named_of_faithful {back : List Permission}
    (returned : List.Forall₂ (ComesBack codec asked) kept back)
    (faithful : List.Forall₂ (Faithful codec asked) kept back) :
    ∀ wanted ∈ kept, ∀ cover,
      (aliases codec asked).get? (codec.realId wanted.resourceId) = some cover →
        wanted.resourceId = cover := by
  induction returned with
  | nil => exact fun _ member => nomatch member
  | cons first _ ih =>
    cases faithful with
    | cons firstFaithful rest =>
      exact List.forall_mem_cons.mpr ⟨fun cover => firstFaithful.named first, ih rest⟩

/-- A request of which every entry comes back comes back as it was written if and only if it names
resources in one way. -/
theorem forall_faithful_iff {back : List Permission}
    (returned : List.Forall₂ (ComesBack codec asked) asked back) :
    List.Forall₂ (Faithful codec asked) asked back ↔ NamesInOneWay codec asked := by
  constructor
  · intro faithful first firstMember second secondMember decoded
    have named := named_of_faithful returned faithful
    have aliased : (aliases codec asked).contains (codec.realId second.resourceId) = true :=
      contains_aliases.mpr ⟨first, firstMember, decoded⟩
    obtain ⟨cover, found⟩ := Dict.contains_iff.mp aliased
    rw [named second secondMember cover found]
    refine (named first firstMember cover ?_).symm
    rw [realId_of_decode? decoded]
    exact found
  · intro uniform
    have asking := (List.forall₂_and_left _ _).mpr ⟨fun wanted member => member, returned⟩
    exact asking.imp fun wanted granted ⟨member, back⟩ => back.faithful uniform member

end Derivation

namespace Strategy

variable {strategy : Strategy} {codec : IdCodec} {descriptions : Descriptions} {issuers : Issuers}
  {asked : List Permission} {sourced : Sourced} {sources ticket : Ticket}

/-! ## The entries that are not for sources -/

/-- Whether a ticket still has all entries that are not for sources, in the order in which they were
asked for, and of the others those of sources that are still closed. The sources are those that the
ticket was opened with. -/
structure Retains (codec : IdCodec) (asked : List Permission) (sources ticket : Ticket) : Prop where
  own : ticket.permissions.filter (fun entry => !sources.isDerived entry.resourceId) =
    (asked.map (Derivation.unmask codec)).filter fun entry => !sources.isDerived entry.resourceId
  derived : ∀ id, ticket.isDerived id = true → sources.isDerived id = true
  closed : ∀ entry ∈ ticket.permissions,
    sources.isDerived entry.resourceId = true → ticket.isDerived entry.resourceId = true
  aliases : ticket.aliases = Derivation.aliases codec asked

theorem openTicket_retains (coded : strategy.codec = some codec)
    (opened : (strategy.openTicket descriptions issuers asked).outcome = .ok sourced) :
    Retains codec asked sourced.ticket sourced.ticket := by
  obtain ⟨required, demanded⟩ := openTicket_coded coded opened
  obtain ⟨added, grown, forSources⟩ := Sourced.permissions_demandFor demanded
  obtain ⟨_, _, rest⟩ := (Sourced.demandFor_extends demanded).rest
  refine ⟨?_, fun _ derived => derived, fun _ _ derived => derived, by rw [rest]⟩
  have none : added.filter (fun entry => !sourced.ticket.isDerived entry.resourceId) = [] :=
    List.filter_eq_nil_iff.mpr fun entry member => by simp [forSources entry member]
  rw [grown, List.filter_append, none, List.append_nil]
  rfl

theorem Retains.addClaims (coded : strategy.codec = some codec)
    (retains : Retains codec asked sources ticket) (claims : Claims) :
    Retains codec asked sources (strategy.addClaims ticket claims).value := by
  obtain ⟨required, provided, same⟩ := addClaims_coded coded ticket claims
  obtain ⟨_, _, rest⟩ := Derivation.proveAll_rest ticket claims
  rw [same]
  refine ⟨?_, fun id derived => ?_, fun entry member derived => ?_, ?_⟩
  · refine (Derivation.filter_permissions_proveAll fun entry kept => ?_).trans retains.own
    rw [← Bool.not_eq_true]
    intro derived
    rw [retains.derived _ derived] at kept
    cases kept
  · exact retains.derived id (Derivation.isDerived_proveAll.mp derived).1
  · obtain ⟨before, after⟩ := Derivation.mem_permissions_proveAll.mp member
    exact after (retains.closed entry before derived)
  · exact (by rw [rest] : (Derivation.proveAll ticket claims).aliases = ticket.aliases).trans
      retains.aliases

theorem Retains.addAll (coded : strategy.codec = some codec)
    (retains : Retains codec asked sources ticket) (shown : List Claims) :
    Retains codec asked sources (strategy.addAll ticket shown) := by
  induction shown generalizing ticket with
  | nil => exact retains
  | cons claims rest ih => exact ih (retains.addClaims coded claims)

/-- Once no source is closed, the entries are those of the request that are not for sources. -/
theorem Retains.permissions (retains : Retains codec asked sources ticket)
    (allOpen : ∀ id, ticket.isDerived id = false) :
    ticket.permissions =
      (asked.filter fun wanted => !sources.isDerived (codec.realId wanted.resourceId)).map
        (Derivation.unmask codec) := by
  have all : ticket.permissions.filter (fun entry => !sources.isDerived entry.resourceId) =
      ticket.permissions := by
    refine List.filter_eq_self.mpr fun entry member => ?_
    rw [Bool.not_eq_true', ← Bool.not_eq_true]
    intro derived
    have closed := retains.closed entry member derived
    rw [allOpen] at closed
    cases closed
  rw [← all, retains.own, List.filter_map]
  congr 1
  exact List.filter_congr fun wanted _ => by
    rw [Function.comp_apply, Derivation.unmask_resourceId]

/-- An elimination grants what is not for sources, just as it stands on the ticket. -/
theorem granted_of_elimination {settlement : Settlement}
    (eliminating : settlement.method = .elimination) {granted : List Permission}
    (resolved : (settlement.resolve descriptions (Derivation.withoutSources ticket)).outcome =
      .ok (.success granted)) (allOpen : ∀ id, ticket.isDerived id = false) :
    granted = ticket.permissions := by
  rw [Settlement.resolve_eq_of_elimination eliminating] at resolved
  split at resolved
  · cases resolved
    exact List.filter_eq_self.mpr fun entry _ => by rw [allOpen]; rfl
  · cases resolved

/-- What is granted in the end is what was asked for less what was asked for under the identifiers of
sources, in order, each entry as its resource has it. So the request comes back as the client wrote it
if and only if it asks for nothing under the identifier of a source and names resources in one way. -/
theorem granted_comesBack (coded : strategy.codec = some codec)
    (eliminating : strategy.settlement.method = .elimination)
    (opened : (strategy.openTicket descriptions issuers asked).outcome = .ok sourced)
    (shown : List Claims) {later : Descriptions} {known : Issuers} {supply left : Supply}
    {granted : List Permission}
    (resolved : (strategy.resolve later known supply
      (strategy.addAll sourced.ticket shown)).outcome = .ok (.success granted, left)) :
    (∀ id, sourced.ticket.isDerived id = true ↔ strategy.Demands descriptions asked id) ∧
      List.Forall₂ (Derivation.ComesBack codec asked)
        (asked.filter fun wanted => !sourced.ticket.isDerived (codec.realId wanted.resourceId))
        granted ∧
      (List.Forall₂ (Derivation.Faithful codec asked) asked granted ↔
        (∀ wanted ∈ asked,
          ¬ strategy.Demands descriptions asked (codec.realId wanted.resourceId)) ∧
        Derivation.NamesInOneWay codec asked) := by
  have demands : ∀ id, sourced.ticket.isDerived id = true ↔
      strategy.Demands descriptions asked id := fun _ => isDerived_openTicket coded opened
  have retains := (openTicket_retains coded opened).addAll coded shown
  obtain ⟨allOpen, settled, settling, rfl⟩ := resolve_coded coded resolved
  obtain rfl := granted_of_elimination eliminating settling allOpen
  have back : List.Forall₂ (Derivation.ComesBack codec asked)
      (asked.filter fun wanted => !sourced.ticket.isDerived (codec.realId wanted.resourceId))
      (Derivation.maskAll codec (strategy.addAll sourced.ticket shown) supply
        (strategy.addAll sourced.ticket shown).permissions).1 := by
    rw [retains.permissions allOpen]
    exact Derivation.maskAll_comeBack retains.aliases List.filter_sublist.subset
  refine ⟨demands, back, ?_⟩
  have complete : (asked.filter fun wanted =>
      !sourced.ticket.isDerived (codec.realId wanted.resourceId)) = asked ↔
        ∀ wanted ∈ asked, ¬ strategy.Demands descriptions asked (codec.realId wanted.resourceId) := by
    simp only [List.filter_eq_self, Bool.not_eq_true', ← Bool.not_eq_true, demands]
  constructor
  · intro faithful
    have all := List.length_filter_eq_length_iff.mp (back.length_eq.trans faithful.length_eq.symm)
    rw [List.filter_eq_self.mpr all] at back
    exact ⟨complete.mp (List.filter_eq_self.mpr all), (Derivation.forall_faithful_iff back).mp faithful⟩
  · rintro ⟨unasked, uniform⟩
    rw [complete.mpr unasked] at back
    exact (Derivation.forall_faithful_iff back).mpr uniform

end Strategy

/-! ## An album

A photo has two synthetic identifiers, and a collage is derived from a negative that lies elsewhere. -/

namespace Album

def codec : IdCodec := ⟨⟨.replicate 32 1, rfl⟩⟩

def strategy : Strategy := ⟨⟨.elimination, .everyone⟩, some codec⟩

@[irreducible] def cover (number : Nat) : String := codec.encode (Fresh.nonce number) "photo"

/-- The photo under a synthetic identifier. -/
def photo (number : Nat) : Permission := .of (cover number) [Scope.read]

def collage : Permission := .of "collage" [Scope.read]

def negative : Permission := .of "negative" [Scope.derivationRead]

def descriptions : Descriptions :=
  Descriptions.empty.describe "collage" ⟨none, [], [⟨"https://as.example", "negative"⟩]⟩

/-- A grant on the negative is shown. -/
def shown : List Claims :=
  [Dict.empty.insert ClaimType.access (Permission.listToJson [negative])]

def asked : List Permission := [photo 0, collage]

def opened : Sourced :=
  ⟨{ Ticket.new [.of "photo" [Scope.read], collage, negative] [.empty] with
      derivedIds := Dict.empty.insert "negative" ()
      aliases := Dict.empty.insert "photo" (cover 0) },
    Dict.empty.insert "negative" "https://as.example"⟩

/-- The same photo twice, each time under another identifier. -/
def askedTwice : List Permission := [photo 0, photo 1]

def openedTwice : Sourced :=
  ⟨{ Ticket.new [.of "photo" [Scope.read], .of "photo" [Scope.read]] [.empty] with
      aliases := Dict.empty.insert "photo" (cover 1) }, .empty⟩

theorem decode?_cover (number : Nat) : codec.decode? (cover number) = some "photo" := by
  unfold cover
  exact codec.decode?_encode _ _

theorem decode?_collage : codec.decode? "collage" = none := rfl

theorem cover_ne : cover 0 ≠ cover 1 := by
  unfold cover
  exact fun same => absurd (IdCodec.nonce_of_encode_eq same) (by decide)

/-! Which identifiers of the photo are asked for does not matter. -/

section

variable {first second : String}

private theorem unmask_photo (decoded : codec.decode? first = some "photo") :
    Derivation.unmask codec (.of first [Scope.read]) = .of "photo" [Scope.read] := by
  rw [Derivation.unmask, Permission.of, decoded]
  rfl

private theorem opens_as (decoded : codec.decode? first = some "photo") :
    (strategy.openTicket descriptions .empty [.of first [Scope.read], collage]).outcome =
      .ok { opened with
        ticket := { opened.ticket with aliases := Dict.empty.insert "photo" first } } := by
  have aliases : Derivation.aliases codec [.of first [Scope.read], collage] =
      Dict.empty.insert "photo" first := by
    simp only [Derivation.aliases, collage, Permission.of, List.foldl_cons, List.foldl_nil, decoded,
      decode?_collage]
  have unmasked : [.of first [Scope.read], collage].map (Derivation.unmask codec) =
      [.of "photo" [Scope.read], collage] := by
    rw [List.map_cons, unmask_photo decoded]
    rfl
  simp only [Strategy.openTicket, strategy, aliases, unmasked]
  rfl

private theorem opensTwice_as (decoded : codec.decode? first = some "photo")
    (again : codec.decode? second = some "photo") :
    (strategy.openTicket descriptions .empty
      [.of first [Scope.read], .of second [Scope.read]]).outcome =
      .ok { openedTwice with
        ticket := { openedTwice.ticket with aliases := Dict.empty.insert "photo" second } } := by
  have aliases : Derivation.aliases codec [.of first [Scope.read], .of second [Scope.read]] =
      (Dict.empty.insert "photo" first).insert "photo" second := by
    simp only [Derivation.aliases, Permission.of, List.foldl_cons, List.foldl_nil, decoded, again]
  have unmasked : [.of first [Scope.read], .of second [Scope.read]].map (Derivation.unmask codec) =
      [.of "photo" [Scope.read], .of "photo" [Scope.read]] := by
    rw [List.map_cons, List.map_cons, List.map_nil, unmask_photo decoded, unmask_photo again]
  simp only [Strategy.openTicket, strategy, aliases, unmasked]
  rfl

end

theorem opens : (strategy.openTicket descriptions .empty asked).outcome = .ok opened :=
  opens_as (decode?_cover 0)

theorem opensTwice : (strategy.openTicket descriptions .empty askedTwice).outcome =
    .ok openedTwice :=
  opensTwice_as (decode?_cover 0) (decode?_cover 1)

theorem resolves : (strategy.resolve descriptions opened.issuers ⟨2⟩
    (strategy.addAll opened.ticket shown)).outcome = .ok (.success asked, ⟨2⟩) := rfl

theorem namesInOneWay : Derivation.NamesInOneWay codec asked := by
  have other : codec.realId "collage" = "collage" := rfl
  intro first firstMember second secondMember decoded
  simp only [asked, List.mem_cons, List.not_mem_nil, or_false] at firstMember secondMember
  rcases firstMember with rfl | rfl
  · rcases secondMember with rfl | rfl
    · rfl
    · have same : "photo" = codec.realId "collage" :=
        Option.some.inj ((decode?_cover 0).symm.trans decoded)
      rw [other] at same
      exact absurd same (by decide)
  · cases decode?_collage.symm.trans decoded

end Album

namespace Strategy

/-- The album comes back as it was asked for, once the negative is open. -/
theorem granted_comesBack_album :
    (Album.strategy.resolve Album.descriptions Album.opened.issuers ⟨2⟩
        (Album.strategy.addAll Album.opened.ticket Album.shown)).outcome =
      .ok (.success Album.asked, ⟨2⟩) ∧
    List.Forall₂ (Derivation.Faithful Album.codec Album.asked) Album.asked Album.asked := by
  obtain ⟨demands, _, faithful⟩ :=
    granted_comesBack rfl rfl Album.opens Album.shown Album.resolves
  refine ⟨Album.resolves, faithful.mpr ⟨fun wanted member demanded => ?_, Album.namesInOneWay⟩⟩
  have derived := (demands _).mpr demanded
  simp only [Album.asked, List.mem_cons, List.not_mem_nil, or_false] at member
  rcases member with rfl | rfl
  · rw [Album.photo, Permission.of, Album.cover, IdCodec.realId_encode] at derived
    cases derived
  · cases derived

/-- Both photos come back under the second identifier. -/
theorem granted_under_last_alias :
    (Album.strategy.openTicket Album.descriptions .empty Album.askedTwice).outcome =
        .ok Album.openedTwice ∧
      (Album.strategy.resolve Album.descriptions Album.openedTwice.issuers ⟨2⟩
          (Album.strategy.addAll Album.openedTwice.ticket [])).outcome =
        .ok (.success [Album.photo 1, Album.photo 1], ⟨2⟩) ∧
      ¬ List.Forall₂ (Derivation.Faithful Album.codec Album.askedTwice) Album.askedTwice
        [Album.photo 1, Album.photo 1] := by
  refine ⟨Album.opensTwice, rfl, fun faithful => ?_⟩
  obtain ⟨first, _⟩ := List.forall₂_cons.mp faithful
  have synthetic : (Album.codec.decode? (Album.photo 0).resourceId).isSome = true := by
    change (Album.codec.decode? (Album.cover 0)).isSome = true
    rw [Album.decode?_cover]
    rfl
  exact Album.cover_ne (first.written (.inl synthetic)).symm

end Strategy

end UmaGrant
