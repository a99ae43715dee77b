import Mathlib.Data.List.Basic
import Mathlib.Data.List.Induction
import UmaGrant.Proofs.Dict
import UmaGrant.Time.Instant
/-! # Entries that expire

A store of entries that expire is used in turn, and each use means something for the entry under one
identifier: the entry is made or taken away, or it is looked over and dropped if it has expired, or it is
left alone. While time does not run back, nobody who asks for entries that are still good can tell how
often they were looked over.
-/

namespace UmaGrant

/-- What a use of a store means for the entry under one identifier. -/
inductive EntryEvent (α : Type) where
  /-- The entry is made, in place of one that is there. -/
  | enter (entry : α)
  | remove
  /-- The entry is dropped if it has expired by then. -/
  | inspect (now : Instant)
  | spare

/-- Whether uses follow one another in time. -/
def Onward {Use : Type} (now : Use → Instant) (uses : List Use) : Prop :=
  uses.Pairwise fun earlier later => (now earlier).nanos ≤ (now later).nanos

theorem Onward.before {Use : Type} {now : Use → Instant} {before rest : List Use} {use : Use}
    (onward : Onward now (before ++ use :: rest)) :
    Onward now before ∧ ∀ earlier ∈ before, (now earlier).nanos ≤ (now use).nanos := by
  obtain ⟨first, -, across⟩ := List.pairwise_append.mp onward
  exact ⟨first, fun earlier member => across earlier member use List.mem_cons_self⟩

namespace EntryEvent

variable {α Use : Type} {expiresAt : α → Instant} {now later : Instant} {entry : α}
  {event : Use → EntryEvent α} {uses : List Use} {use : Use}

/-- Whether the entry is neither made nor taken away. -/
def IsPassing : EntryEvent α → Prop
  | enter _ | remove => False
  | inspect _ | spare => True

/-- Whether an entry was made in the course of uses, and neither replaced nor taken away since. -/
def Stands (event : Use → EntryEvent α) (uses : List Use) (entry : α) : Prop :=
  ∃ before use after, uses = before ++ use :: after ∧ event use = enter entry ∧
    ∀ other ∈ after, (event other).IsPassing

/-- Whether an entry is still good. -/
def isLive (expiresAt : α → Instant) (now : Instant) (entry : α) : Bool :=
  now.nanos < (expiresAt entry).nanos

/-- The entry after an event. -/
def apply (expiresAt : α → Instant) (entry : Option α) : EntryEvent α → Option α
  | enter new => some new
  | remove => none
  | inspect now => entry.filter (isLive expiresAt now)
  | spare => entry

/-- The entry after uses in turn. -/
def fold (expiresAt : α → Instant) (event : Use → EntryEvent α) (entry : Option α)
    (uses : List Use) : Option α :=
  uses.foldl (fun entry use => (event use).apply expiresAt entry) entry

theorem fold_append_singleton (entry : Option α) (uses : List Use) (use : Use) :
    fold expiresAt event entry (uses ++ [use]) =
      (event use).apply expiresAt (fold expiresAt event entry uses) := List.foldl_append

/-- If each use of a store does to an entry what it means for it, and keeps what that depends on, then the
entry is what has become of it in the course of uses. -/
theorem get_foldl {Store : Type} {use : Store → Use → Store} (get : Store → Option α)
    {sound : Store → Prop}
    (step : ∀ store, sound store → ∀ next, sound (use store next) ∧
      get (use store next) = (event next).apply expiresAt (get store))
    (uses : List Use) {store : Store} (start : sound store) :
    sound (uses.foldl use store) ∧ get (uses.foldl use store) = fold expiresAt event (get store) uses := by
  induction uses generalizing store with
  | nil => exact ⟨start, rfl⟩
  | cons next rest ih =>
    obtain ⟨kept, entry⟩ := step store start next
    obtain ⟨sounds, found⟩ := ih kept
    exact ⟨sounds, found.trans (by rw [entry]; rfl)⟩

/-! ## What stands -/

theorem not_stands_nil : ¬ Stands event [] entry := by
  rintro ⟨before, use, after, split, -⟩
  exact List.append_ne_nil_of_right_ne_nil before (List.cons_ne_nil use after) split.symm

theorem stands_append_singleton :
    Stands event (uses ++ [use]) entry ↔
      event use = enter entry ∨ (event use).IsPassing ∧ Stands event uses entry := by
  constructor
  · rintro ⟨before, maker, after, split, made, passing⟩
    cases after using List.reverseRecOn with
    | nil =>
      obtain ⟨rfl, same⟩ := List.append_inj' split rfl
      cases same
      exact .inl made
    | append_singleton others last =>
      rw [← List.cons_append, ← List.append_assoc] at split
      obtain ⟨rfl, same⟩ := List.append_inj' split rfl
      cases same
      obtain ⟨quiet, ending⟩ := List.forall_mem_append.mp passing
      exact .inr ⟨ending use List.mem_cons_self, before, maker, others, rfl, made, quiet⟩
  · rintro (made | ⟨passing, before, maker, after, rfl, made, others⟩)
    · exact ⟨uses, use, [], rfl, made, List.forall_mem_nil _⟩
    · refine ⟨before, maker, after ++ [use], by rw [List.append_assoc, List.cons_append], made, ?_⟩
      exact List.forall_mem_append.mpr ⟨others, List.forall_mem_singleton.mpr passing⟩

/-- To leave out uses that neither make nor take an entry away leaves what stands. -/
theorem stands_filter {keep : Use → Bool}
    (dropped : ∀ use, keep use = false → (event use).IsPassing) (uses : List Use) :
    Stands event (uses.filter keep) entry ↔ Stands event uses entry := by
  induction uses using List.reverseRecOn with
  | nil => rfl
  | append_singleton uses use ih =>
    rw [List.filter_append, stands_append_singleton]
    cases kept : keep use with
    | true => rw [List.filter_cons_of_pos kept, List.filter_nil, stands_append_singleton, ih]
    | false =>
      have passing := dropped use kept
      have quiet : event use ≠ enter entry := fun made => by
        rw [made] at passing
        exact passing
      rw [List.filter_cons_of_neg (by rw [kept]; nofun), List.filter_nil, List.append_nil, ih]
      exact ((or_iff_right quiet).trans (and_iff_right passing)).symm

/-! ## What is found -/

theorem isLive_of_isLive (onward : now.nanos ≤ later.nanos)
    (lasts : isLive expiresAt later entry = true) : isLive expiresAt now entry = true := by
  simp only [isLive, decide_eq_true_eq] at lasts ⊢
  omega

/-- What is good later is good now, so looking an entry over now takes nothing away that is found later. -/
theorem filter_isLive_inspected (onward : now.nanos ≤ later.nanos) (found : Option α) :
    (found.filter (isLive expiresAt now)).filter (isLive expiresAt later) =
      found.filter (isLive expiresAt later) := by
  rw [Option.filter_filter]
  congr 1
  funext entry
  cases lasts : isLive expiresAt later entry with
  | true => rw [isLive_of_isLive onward lasts, Bool.and_self]
  | false => exact Bool.and_false _

/-- The entry that is found is the one that stands, as long as that is good, however often it was looked
over. -/
theorem filter_fold_eq_some_iff
    (past : ∀ use ∈ uses, ∀ now, event use = inspect now → now.nanos ≤ later.nanos) :
    (fold expiresAt event none uses).filter (isLive expiresAt later) = some entry ↔
      Stands event uses entry ∧ isLive expiresAt later entry = true := by
  induction uses using List.reverseRecOn with
  | nil => simp [fold, not_stands_nil]
  | append_singleton uses use ih =>
    have before := ih fun other member => past other (List.mem_append_left _ member)
    have lastly := past use (List.mem_append_right _ List.mem_cons_self)
    rw [fold_append_singleton, stands_append_singleton]
    cases meant : event use with
    | enter new => simp [apply, IsPassing, Option.filter_eq_some_iff]
    | remove => simp [apply, IsPassing]
    | inspect now => simp [apply, IsPassing, filter_isLive_inspected (lastly now meant), before]
    | spare => simpa [apply, IsPassing] using before

/-- What is found does not depend on uses that neither make nor take an entry away. -/
theorem filter_fold_filter {keep : Use → Bool}
    (dropped : ∀ use, keep use = false → (event use).IsPassing)
    (past : ∀ use ∈ uses, ∀ now, event use = inspect now → now.nanos ≤ later.nanos) :
    (fold expiresAt event none (uses.filter keep)).filter (isLive expiresAt later) =
      (fold expiresAt event none uses).filter (isLive expiresAt later) := by
  have kept : ∀ use ∈ uses.filter keep, ∀ now, event use = inspect now → now.nanos ≤ later.nanos :=
    fun use member => past use (List.mem_of_mem_filter member)
  refine Option.ext fun entry => ?_
  rw [filter_fold_eq_some_iff kept, filter_fold_eq_some_iff past, stands_filter dropped]

/-- What has expired is not found any more, unless an entry is made again. -/
theorem filter_fold_eq_none (unmade : ∀ use ∈ uses, ∀ entry, event use ≠ enter entry)
    (onward : now.nanos ≤ later.nanos) {found : Option α}
    (expired : found.filter (isLive expiresAt now) = none) :
    (fold expiresAt event found uses).filter (isLive expiresAt later) = none := by
  rw [← filter_isLive_inspected onward]
  suffices kept : (fold expiresAt event found uses).filter (isLive expiresAt now) = none by
    rw [kept, Option.filter_none]
  clear onward
  induction uses generalizing found with
  | nil => exact expired
  | cons use rest ih =>
    obtain ⟨unmadeNow, unmadeLater⟩ := List.forall_mem_cons.mp unmade
    refine ih unmadeLater ?_
    dsimp only
    cases meant : event use with
    | enter new => exact absurd meant (unmadeNow new)
    | remove => rfl
    | spare => exact expired
    | inspect instant =>
      rw [Option.filter_eq_none_iff] at expired ⊢
      exact fun entry kept => expired entry (Option.filter_eq_some_iff.mp kept).1

end EntryEvent

/-! ## What uses make known -/

section Answers

variable {Store Use β : Type} {use : Store → Use → Store} {answer : Store → Use → List β}

/-- What uses of a store make known in turn. -/
def answers (use : Store → Use → Store) (answer : Store → Use → List β) (store : Store) :
    List Use → List β
  | [] => []
  | next :: rest => answer store next ++ answers use answer (use store next) rest

theorem answers_append_singleton (store : Store) (uses : List Use) (last : Use) :
    answers use answer store (uses ++ [last]) =
      answers use answer store uses ++ answer (uses.foldl use store) last := by
  induction uses generalizing store with
  | nil => exact List.append_nil _
  | cons first rest ih => rw [List.cons_append, answers, answers, ih, List.append_assoc, List.foldl_cons]

/-- Uses that make nothing known may be left out if no other one tells the difference. -/
theorem answers_filter {keep : Use → Bool} {store : Store} {uses : List Use}
    (silent : ∀ store use, keep use = false → answer store use = [])
    (same : ∀ before next rest, uses = before ++ next :: rest →
      answer ((before.filter keep).foldl use store) next = answer (before.foldl use store) next) :
    answers use answer store (uses.filter keep) = answers use answer store uses := by
  induction uses using List.reverseRecOn with
  | nil => rfl
  | append_singleton uses last ih =>
    have before := ih fun before next rest split =>
      same before next (rest ++ [last]) (by rw [split, List.append_assoc, List.cons_append])
    rw [List.filter_append, answers_append_singleton, ← before]
    cases kept : keep last with
    | true =>
      rw [List.filter_cons_of_pos kept, List.filter_nil, answers_append_singleton,
        same uses last [] rfl]
    | false =>
      rw [List.filter_cons_of_neg (by rw [kept]; nofun), List.filter_nil, List.append_nil,
        silent _ last kept, List.append_nil]

end Answers

namespace Dict

variable {α : Type} {dict : Dict α}

/-- Whether entries have been dropped from a map, so many of them, and all others are as before. -/
structure Drops (before after : Dict α) (count : Nat) : Prop where
  counted : ∃ keys : List String, keys.Nodup ∧ keys.length = count ∧
    ∀ key, key ∈ keys ↔ before.contains key = true ∧ after.contains key = false
  kept : ∀ key, after.contains key = true → after.get? key = before.get? key

theorem Ordered.mem_entries_iff (ordered : dict.Ordered) {key : String} {value : α} :
    (key, value) ∈ dict.entries ↔ dict.get? key = some value :=
  ⟨ordered.get?_of_mem, mem_entries_of_get?⟩

/-- A filter drops as many entries as it makes a map shorter. -/
theorem Ordered.filter_drops (ordered : dict.Ordered) (keep : String → α → Bool) :
    dict.Drops (dict.filter keep) (dict.size - (dict.filter keep).size) where
  counted := by
    let keeps : String × α → Bool := fun entry => keep entry.1 entry.2
    refine ⟨(dict.entries.filter fun entry => !keeps entry).map (·.1), ?_, ?_, fun key => ?_⟩
    · exact (List.Pairwise.imp String.ne_of_lt ordered).sublist (List.filter_sublist.map _)
    · have parts := List.length_eq_length_filter_add (l := dict.entries) keeps
      rw [List.length_map]
      exact (Nat.sub_eq_of_eq_add (parts.trans (Nat.add_comm _ _))).symm
    · have listed : key ∈ (dict.entries.filter fun entry => !keeps entry).map (·.1) ↔
          ∃ value, dict.get? key = some value ∧ keep key value = false := by
        simp [keeps, ordered.mem_entries_iff]
      rw [listed, contains, contains, ordered.get?_filter]
      cases dict.get? key <;> simp [Option.isSome_filter]
  kept key present := by
    rw [contains, ordered.get?_filter] at present
    rw [ordered.get?_filter]
    obtain ⟨value, found⟩ := Option.isSome_iff_exists.mp present
    rw [found, (Option.filter_eq_some_iff.mp found).1]

end Dict

end UmaGrant
