import Mathlib.Data.List.Nodup
import Mathlib.Data.List.Perm.Subperm
import Mathlib.Data.List.Range

/-! Items at numbered places. Items whose places are distinct and below a count
can be laid out along the count without losing or repeating any. -/

namespace Perfcho.Foundation

namespace Seating

variable {Item : Type} {position : Item → Nat}

/-- The item at a place; of several there, the last one. -/
def seatAt (position : Item → Nat) (items : List Item) (place : Nat) : Option Item :=
  items.reverse.find? fun item => position item = place

theorem position_of_seatAt (found : seatAt position items place = some item) :
    item ∈ items ∧ position item = place := by
  have member := List.mem_of_find?_eq_some found
  have here := List.find?_some found
  exact ⟨List.mem_reverse.mp member, by simpa using here⟩

theorem seatAt_eq_some (distinct : (items.map position).Nodup) :
    seatAt position items place = some item ↔ item ∈ items ∧ position item = place := by
  constructor
  · exact position_of_seatAt
  rintro ⟨member, here⟩
  cases found : seatAt position items place with
  | none => simpa [here] using List.find?_eq_none.mp found item (List.mem_reverse.mpr member)
  | some other =>
    obtain ⟨otherMember, there⟩ := position_of_seatAt found
    rw [List.inj_on_of_nodup_map distinct otherMember member (there.trans here.symm)]

/-- Reading the places in order finds every item exactly once. -/
theorem filterMap_seatAt_perm (distinct : (items.map position).Nodup) (inside : ∀ item ∈ items,
    position item < count) : ((List.range count).filterMap (seatAt position items)).Perm items := by
  have once : ((List.range count).filterMap (seatAt position items)).Nodup := by
    refine List.nodup_range.filterMap fun first second item left right => ?_
    exact (position_of_seatAt left).2.symm.trans (position_of_seatAt right).2
  refine (List.perm_ext_iff_of_nodup once distinct.of_map).mpr fun item => ?_
  simp only [List.mem_filterMap, List.mem_range, seatAt_eq_some distinct]
  constructor
  · rintro ⟨_, _, member, _⟩
    exact member
  · intro member
    exact ⟨position item, inside item member, member, rfl⟩

/-- The places below a count that are not used, in order. -/
def freePlaces (used : List Nat) (count : Nat) : List Nat := (List.range count).filter (· ∉ used)

theorem mem_freePlaces : place ∈ freePlaces used count ↔ place < count ∧ place ∉ used := by simp [freePlaces]

theorem count_le_used_add_free (used : List Nat) (count : Nat) :
    count ≤ used.length + (freePlaces used count).length := by
  have split := List.length_eq_length_filter_add (l := List.range count) (· ∈ used)
  have few : ((List.range count).filter (· ∈ used)).length ≤ used.length := by
    refine (List.subperm_of_subset (List.nodup_range.filter _) fun place member => ?_).length_le
    simpa using (List.mem_filter.mp member).2
  simp only [List.length_range] at split
  simp only [freePlaces, decide_not]
  omega

end Seating

end Perfcho.Foundation
