import Mathlib.Data.List.Lex
import Mathlib.Data.List.Sort

/-! Keys with deadlines, as a key-value server has them, and sorted sets under such
keys. A key can be read before its deadline and is dropped at it. -/

namespace Perfcho.Foundation

open List Function

structure Timed (Value : Type) where
  value : Value
  deadline : Nat

abbrev Keyspace (Key Value : Type) := Key → Option (Timed Value)

namespace Keyspace

variable {Key Value : Type}

def get (keys : Keyspace Key Value) (key : Key) : Option Value := (keys key).map (·.value)

/-- What can still be read at a time. -/
def purge (now : Nat) (keys : Keyspace Key Value) : Keyspace Key Value :=
  fun key => (keys key).filter fun entry => decide (now < entry.deadline)

theorem get_eq_some {keys : Keyspace Key Value} :
    keys.get key = some value ↔ ∃ deadline, keys key = some ⟨value, deadline⟩ := by
  simp only [get, Option.map_eq_some_iff]
  constructor
  · rintro ⟨entry, found, rfl⟩
    exact ⟨entry.deadline, found⟩
  · rintro ⟨deadline, found⟩
    exact ⟨_, found, rfl⟩

theorem purge_eq_some {keys : Keyspace Key Value} :
    keys.purge now key = some entry ↔ keys key = some entry ∧ now < entry.deadline := by
  simp [purge, Option.filter_eq_some_iff]

variable [DecidableEq Key]

def put (keys : Keyspace Key Value) (key : Key) (value : Value) (deadline : Nat) : Keyspace Key Value :=
  update keys key (some ⟨value, deadline⟩)

def drop (keys : Keyspace Key Value) (key : Key) : Keyspace Key Value := update keys key none

/-- A new deadline for a key that exists. -/
def touch (keys : Keyspace Key Value) (key : Key) (deadline : Nat) : Keyspace Key Value :=
  update keys key ((keys key).map fun entry => ⟨entry.value, deadline⟩)

variable {keys : Keyspace Key Value} {key : Key}

@[simp] theorem put_same : keys.put key value deadline key = some ⟨value, deadline⟩ := update_self ..

@[simp] theorem put_other (different : other ≠ key) : keys.put key value deadline other = keys other :=
  update_of_ne different ..

@[simp] theorem drop_same : keys.drop key key = none := update_self ..

@[simp] theorem drop_other (different : other ≠ key) : keys.drop key other = keys other :=
  update_of_ne different ..

@[simp] theorem touch_same :
    keys.touch key deadline key = (keys key).map fun entry => ⟨entry.value, deadline⟩ :=
  update_self ..

@[simp] theorem touch_other (different : other ≠ key) : keys.touch key deadline other = keys other :=
  update_of_ne different ..

theorem of_drop (found : keys.drop key other = some entry) : other ≠ key ∧ keys other = some entry := by
  by_cases same : other = key
  · subst same
    simp at found
  · exact ⟨same, by simpa [same] using found⟩

end Keyspace

/-- The members of a sorted set with their scores, ordered by score and among equal
scores by a rank. A set without members is a key that does not exist. -/
structure SortedSet {Member : Type} (rank : Member → List Nat) where
  entries : List (Member × Nat)
  deadline : Option Nat
  distinct : (entries.map Prod.fst).Nodup

namespace SortedSet

variable {Member : Type} {rank : Member → List Nat}

def before (rank : Member → List Nat) (first second : Member × Nat) : Prop :=
  first.2 < second.2 ∨ first.2 = second.2 ∧ rank first.1 ≤ rank second.1

instance : DecidableRel (before rank) := fun first second =>
  inferInstanceAs (Decidable (first.2 < second.2 ∨ first.2 = second.2 ∧ rank first.1 ≤ rank second.1))

def empty : SortedSet rank := ⟨[], none, nodup_nil⟩

def members (set : SortedSet rank) : List Member := set.entries.map Prod.fst

/-- A part of the entries, which are still distinct. -/
def restrict (set : SortedSet rank) (keep : Member × Nat → Bool) : SortedSet rank where
  entries := set.entries.filter keep
  deadline := set.deadline
  distinct := set.distinct.sublist (filter_sublist.map _)

def latest (set : SortedSet rank) : Option Nat := (set.entries.map Prod.snd).max?

/-- A set that expires with its highest score. -/
def refresh (now : Nat) (set : SortedSet rank) : SortedSet rank :=
  match set.latest with
  | none => empty
  | some score => if score ≤ now then empty else { set with deadline := some score }

def purge (now : Nat) (set : SortedSet rank) : SortedSet rank :=
  if set.deadline.any (· ≤ now) then empty else set

def popMin (set : SortedSet rank) : Option Member × SortedSet rank :=
  match same : set.entries with
  | [] => (none, set)
  | first :: rest => (some first.1, ⟨rest, set.deadline, (nodup_cons.mp (same ▸ set.distinct)).2⟩)

section

variable [DecidableEq Member]

def remove (set : SortedSet rank) (member : Member) : SortedSet rank :=
  set.restrict fun entry => entry.1 ≠ member

theorem insert_distinct (set : SortedSet rank) (member : Member) (score : Nat) :
    ((orderedInsert (before rank) (member, score) (set.remove member).entries).map Prod.fst).Nodup := by
  have same := (perm_orderedInsert (before rank) (member, score) (set.remove member).entries).map Prod.fst
  rw [same.nodup_iff, map_cons, nodup_cons]
  constructor
  · simp [remove, restrict]
  · exact (set.remove member).distinct

def add (set : SortedSet rank) (member : Member) (score : Nat) : SortedSet rank where
  entries := orderedInsert (before rank) (member, score) (set.remove member).entries
  deadline := set.deadline
  distinct := set.insert_distinct member score

variable {set : SortedSet rank} {member : Member} {entry : Member × Nat}

@[simp] theorem mem_remove : entry ∈ (set.remove member).entries ↔ entry ∈ set.entries ∧
    entry.1 ≠ member := by
  simp [remove, restrict]

@[simp] theorem mem_add : entry ∈ (set.add member score).entries ↔
    entry = (member, score) ∨ entry ∈ set.entries ∧ entry.1 ≠ member := by
  simp [add, mem_orderedInsert]

theorem add_last (absent : member ∉ set.members)
    (last : ∀ entry ∈ set.entries, entry.2 = score ∧ rank entry.1 < rank member) :
    (set.add member score).entries = set.entries ++ [(member, score)] := by
  have same : (set.remove member).entries = set.entries := by
    apply filter_eq_self.mpr
    intro entry stored
    exact decide_eq_true fun equal => absent (mem_map.mpr ⟨entry, stored, equal⟩)
  change orderedInsert (before rank) (member, score) (set.remove member).entries = _
  rw [same]
  generalize set.entries = entries at last
  induction entries with
  | nil => rfl
  | cons head rest ih =>
    have behind : ¬ before rank (member, score) head := by
      obtain ⟨level, less⟩ := last head mem_cons_self
      rintro (lower | ⟨_, ranked⟩)
      · exact absurd level (Nat.ne_of_gt lower)
      · exact absurd less (not_lt.mpr ranked)
    rw [orderedInsert_cons, if_neg behind, ih fun entry stored => last entry (mem_cons_of_mem _ stored)]
    rfl

end

variable {set : SortedSet rank} {entry : Member × Nat}

theorem le_latest (stored : entry ∈ set.entries) : ∃ score, set.latest = some score ∧ entry.2 ≤ score := by
  have listed : entry.2 ∈ set.entries.map Prod.snd := mem_map.mpr ⟨entry, stored, rfl⟩
  cases found : set.latest with
  | none => simp [max?_eq_none_iff.mp found] at listed
  | some score => exact ⟨score, rfl, (max?_eq_some_iff.mp found).2 _ listed⟩

theorem mem_refresh (stored : entry ∈ set.entries) (live : now < entry.2) :
    entry ∈ (set.refresh now).entries ∧ ∃ limit, (set.refresh now).deadline = some limit ∧
    entry.2 ≤ limit := by
  obtain ⟨score, found, bounded⟩ := le_latest stored
  have open_ : ¬ score ≤ now := by omega
  simp only [refresh, found, if_neg open_]
  exact ⟨stored, score, rfl, bounded⟩

theorem purge_eq_self (timed : set.deadline = some limit) (live : now < limit) : set.purge now = set := by
  simp [purge, timed, live]

theorem members_nodup (set : SortedSet rank) : set.members.Nodup := set.distinct

theorem mem_members : member ∈ set.members ↔ ∃ score, (member, score) ∈ set.entries := by
  simp [members]

end SortedSet

/-- A loop that keeps an answer for each key that passes a check and edits the store for
each one that does not. -/
def sweep {Key Store Answer : Type} (check : Store → Key → Option Answer) (prune : Store → Key → Store) :
    List Key → Store → List Answer × Store
  | [], store => ([], store)
  | key :: rest, store =>
    match check store key with
    | some answer =>
      let swept := sweep check prune rest store
      (answer :: swept.1, swept.2)
    | none => sweep check prune rest (prune store key)

section

variable {Key Store Answer : Type} {check : Store → Key → Option Answer} {prune : Store → Key → Store}
variable {keys : List Key} {store : Store}

/-- What every edit preserves holds after the loop. -/
theorem sweep_preserves (invariant : Store → Prop) (kept : ∀ store key, key ∈ keys → invariant store →
    check store key = none → invariant (prune store key)) (holds : invariant store) :
    invariant (sweep check prune keys store).2 := by
  induction keys generalizing store with
  | nil => exact holds
  | cons key rest ih =>
    have later : ∀ store other, other ∈ rest → invariant store → check store other = none →
      invariant (prune store other) :=
      fun store other member => kept store other (mem_cons_of_mem _ member)
    unfold sweep
    split
    · exact ih later holds
    · next failed => exact ih later (kept _ _ mem_cons_self holds failed)

/-- Each answer is one of a check made along the way. -/
theorem mem_sweep (invariant : Store → Prop) (kept : ∀ store key, key ∈ keys → invariant store →
    check store key = none → invariant (prune store key)) (holds : invariant store)
    (answered : answer ∈ (sweep check prune keys store).1) :
    ∃ middle key, invariant middle ∧ key ∈ keys ∧ check middle key = some answer := by
  induction keys generalizing store with
  | nil => cases answered
  | cons key rest ih =>
    have later : ∀ store other, other ∈ rest → invariant store → check store other = none →
      invariant (prune store other) :=
      fun store other member => kept store other (mem_cons_of_mem _ member)
    suffices found : check store key = some answer ∨ ∃ middle other, invariant middle ∧
      other ∈ rest ∧ check middle other = some answer by
      rcases found with here | ⟨middle, other, holds, member, passed⟩
      · exact ⟨store, key, holds, mem_cons_self, here⟩
      · exact ⟨middle, other, holds, mem_cons_of_mem _ member, passed⟩
    unfold sweep at answered
    split at answered
    · next passed =>
      rcases mem_cons.mp answered with rfl | answered
      · exact .inl passed
      · exact .inr (ih later holds answered)
    · next failed => exact .inr (ih later (kept _ _ mem_cons_self holds failed) answered)

/-- If an edit for one key changes no check of another, the answers are those of the
checks before the loop. -/
theorem sweep_answers (distinct : keys.Nodup)
    (apart : ∀ store key other, other ≠ key → check (prune store key) other = check store other) :
    (sweep check prune keys store).1 = keys.filterMap (check store) := by
  induction keys generalizing store with
  | nil => rfl
  | cons key rest ih =>
    obtain ⟨absent, distinct⟩ := nodup_cons.mp distinct
    unfold sweep
    split
    · next answer passed =>
      rw [filterMap_cons_some passed]
      exact congrArg (answer :: ·) (ih distinct)
    · next failed =>
      rw [filterMap_cons_none failed, ih distinct]
      apply filterMap_congr
      intro other member
      exact apart store key other fun same => absent (same ▸ member)

end

end Perfcho.Foundation
