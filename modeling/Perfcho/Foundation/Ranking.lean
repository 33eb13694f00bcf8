import Mathlib.Data.List.Sort

/-! Rankings. Items are ordered by a measure, the largest first, and items of one
measure by their keys. With distinct keys the ranking does not depend on the order in
which the items are given. -/

namespace Perfcho.Foundation

open List

variable {Item Measure Key Row : Type} [LinearOrder Measure] [LinearOrder Key]

/-- The first item may stand before the second. -/
def Outranks (measure : Item → Measure) (key : Item → Key) (first second : Item) : Prop :=
  measure second < measure first ∨ measure second = measure first ∧ key first ≤ key second

section

variable (measure : Item → Measure) (key : Item → Key)

instance : DecidableRel (Outranks measure key) := fun _ _ => inferInstanceAs (Decidable (_ ∨ _))

instance : Std.Total (Outranks measure key) where
  total first second := by
    rcases lt_trichotomy (measure first) (measure second) with less | same | more
    · exact .inr (.inl less)
    · rcases le_total (key first) (key second) with before | after
      · exact .inl (.inr ⟨same.symm, before⟩)
      · exact .inr (.inr ⟨same, after⟩)
    · exact .inl (.inl more)

instance : IsTrans Item (Outranks measure key) where
  trans first second third := by
    rintro (less | ⟨same, before⟩) (less' | ⟨same', before'⟩)
    · exact .inl (less'.trans less)
    · exact .inl (same' ▸ less)
    · exact .inl (same ▸ less')
    · exact .inr ⟨same'.trans same, before.trans before'⟩

variable {measure key}

theorem Outranks.same_key (one : Outranks measure key first second)
    (two : Outranks measure key second first) : key first = key second := by
  rcases one with less | ⟨same, before⟩
  · rcases two with less' | ⟨same, _⟩
    · exact absurd less less'.not_gt
    · exact absurd same less.ne'
  · rcases two with less | ⟨_, after⟩
    · exact absurd same less.ne'
    · exact le_antisymm before after

end

def ranking (measure : Item → Measure) (key : Item → Key) (items : List Item) : List Item :=
  items.insertionSort (Outranks measure key)

section

variable {measure : Item → Measure} {key : Item → Key} {items : List Item}

theorem ranking_perm : (ranking measure key items).Perm items := perm_insertionSort _ items

theorem ranking_sorted : (ranking measure key items).Pairwise (Outranks measure key) :=
  pairwise_insertionSort _ items

theorem eq_ranking (sorted : others.Pairwise (Outranks measure key)) (same : others.Perm items)
    (distinct : (items.map key).Nodup) : others = ranking measure key items := by
  apply List.Perm.eq_of_pairwise _ sorted ranking_sorted (same.trans ranking_perm.symm)
  intro first second member member' one two
  exact inj_on_of_nodup_map distinct (same.subset member) (ranking_perm.subset member') (one.same_key two)

theorem ranking_congr (same : items.Perm others) (distinct : (items.map key).Nodup) :
    ranking measure key items = ranking measure key others :=
  eq_ranking ranking_sorted (ranking_perm.trans same) ((same.map key).nodup_iff.mp distinct)

end

/-- The rows of a ranked list: each item with its rank, from one, and its points, from
the number of items down to one. -/
def numbered (row : Item → Nat → Nat → Row) (ranked : List Item) : List Row :=
  ranked.zipIdx.map fun entry => row entry.1 (entry.2 + 1) (ranked.length - entry.2)

section

variable {row : Item → Nat → Nat → Row} {ranked : List Item}

theorem mem_numbered : made ∈ numbered row ranked ↔
    ∃ item index, ranked[index]? = some item ∧ made = row item (index + 1) (ranked.length - index) := by
  constructor
  · intro member
    obtain ⟨⟨item, index⟩, placed, rfl⟩ := mem_map.mp member
    exact ⟨item, index, mk_mem_zipIdx_iff_getElem?.mp placed, rfl⟩
  · rintro ⟨item, index, placed, rfl⟩
    exact mem_map.mpr ⟨(item, index), mk_mem_zipIdx_iff_getElem?.mpr placed, rfl⟩

theorem length_numbered : (numbered row ranked).length = ranked.length := by simp [numbered]

theorem map_numbered (read : ∀ item rank points, label (row item rank points) = name item) :
    (numbered row ranked).map label = ranked.map name := by
  have along : ∀ start count, (ranked.zipIdx start).map (fun entry =>
    label (row entry.1 (entry.2 + 1) (count - entry.2))) = ranked.map name := by
    intro start count
    induction ranked generalizing start with
    | nil => rfl
    | cons head rest ih =>
      rw [zipIdx_cons, map_cons, map_cons, read, ih]
  rw [numbered, map_map]
  exact along 0 ranked.length

theorem ranks_numbered (read : ∀ item place points, rank (row item place points) = place) :
    (numbered row ranked).map rank = range' 1 ranked.length := by
  have along : ∀ start count, (ranked.zipIdx start).map (fun entry =>
    rank (row entry.1 (entry.2 + 1) (count - entry.2))) = range' (start + 1) ranked.length := by
    intro start count
    induction ranked generalizing start with
    | nil => rfl
    | cons head rest ih =>
      rw [zipIdx_cons, map_cons, read, ih, length_cons, range'_succ]
  rw [numbered, map_map]
  exact along 0 ranked.length

end

end Perfcho.Foundation
