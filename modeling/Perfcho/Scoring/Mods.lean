import Perfcho.Scoring.Models
import Mathlib.Data.List.Sort
import Mathlib.Data.String.Basic

/-! Mod sets in the form they are stored in. -/

namespace Perfcho.Scoring

open List

/-- `_canonical_mods_by_acronym`: refuse a repeated acronym and both assistances. -/
def canonicalModsByAcronym (mods : List CanonicalMod) : Except String (List CanonicalMod) :=
  match firstRepeated [] mods with
  | some acronym => .error ("duplicate mod acronym: " ++ acronym)
  | none =>
    if (mods.any (·.acronym = "RX")) ∧ (mods.any (·.acronym = "AP")) then
      .error "relax and autopilot cannot be combined"
    else .ok mods
where
  firstRepeated (seen : List String) : List CanonicalMod → Option String
    | [] => none
    | mod :: rest => if mod.acronym ∈ seen then some mod.acronym else firstRepeated (mod.acronym :: seen) rest

/-- The mods of `canonical_mods_details`, sorted by acronym. -/
def canonicalModsDetails (mods : List CanonicalMod) : Except String (List CanonicalMod) := do
  let unique ← canonicalModsByAcronym mods
  return unique.insertionSort fun first second => first.acronym ≤ second.acronym

def projectScoreboardVariant (mods : List CanonicalMod) : Except String ScoreboardVariant := do
  let unique ← canonicalModsByAcronym mods
  return if unique.any (·.acronym = "RX") then .relax else if unique.any (·.acronym = "AP") then
    .autopilot else .vanilla

/-- A mod entered in a dictionary by acronym: it takes the place of an earlier one. -/
def mergeMod (merged : List CanonicalMod) (mod : CanonicalMod) : List CanonicalMod :=
  if merged.any (·.acronym = mod.acronym) then merged.map fun old =>
    if old.acronym = mod.acronym then mod else old
  else merged ++ [mod]

def mergeMods (mods : List CanonicalMod) : List CanonicalMod := mods.foldl mergeMod []

section

variable {mods merged : List CanonicalMod} {mod : CanonicalMod}

theorem canonicalModsByAcronym_eq_ok (ran : canonicalModsByAcronym mods = .ok details) : details = mods := by
  unfold canonicalModsByAcronym at ran
  split at ran
  · cases ran
  split at ran
  · cases ran
  · cases ran
    rfl

theorem canonicalModsDetails_eq_ok (ran : canonicalModsDetails mods = .ok details) :
    details = mods.insertionSort fun first second => first.acronym ≤ second.acronym := by
  unfold canonicalModsDetails at ran
  cases unique : canonicalModsByAcronym mods with
  | error reason =>
    rw [unique] at ran
    cases ran
  | ok same =>
    rw [unique] at ran
    cases ran
    rw [canonicalModsByAcronym_eq_ok unique]

theorem mem_canonicalModsDetails (ran : canonicalModsDetails mods = .ok details) :
    item ∈ details ↔ item ∈ mods := by
  rw [canonicalModsDetails_eq_ok ran]
  exact (perm_insertionSort _ mods).mem_iff

theorem mem_mergeMod : item ∈ mergeMod merged mod ↔ item = mod ∨ item ∈ merged ∧
    item.acronym ≠ mod.acronym := by
  unfold mergeMod
  split
  · next taken =>
    obtain ⟨old, there, same⟩ := any_eq_true.mp taken
    constructor
    · intro member
      obtain ⟨before, present, replaced⟩ := mem_map.mp member
      split at replaced
      · exact .inl replaced.symm
      · next different => exact .inr (replaced ▸ ⟨present, different⟩)
    · rintro (rfl | ⟨present, different⟩)
      · exact mem_map.mpr ⟨old, there, if_pos (of_decide_eq_true same)⟩
      · exact mem_map.mpr ⟨item, present, if_neg different⟩
  · next fresh =>
    have other : item ∈ merged → item.acronym ≠ mod.acronym := by
      intro present same
      exact fresh (any_eq_true.mpr ⟨item, present, decide_eq_true same⟩)
    rw [mem_append, mem_singleton]
    constructor
    · rintro (present | here)
      · exact .inr ⟨present, other present⟩
      · exact .inl here
    · rintro (here | ⟨present, _⟩)
      · exact .inr here
      · exact .inl present

theorem mem_of_mem_mergeMods (member : item ∈ mergeMods mods) : item ∈ mods := by
  have step : ∀ (rest merged : List CanonicalMod), item ∈ rest.foldl mergeMod merged →
    item ∈ merged ∨ item ∈ rest := by
    intro rest
    induction rest with
    | nil => exact fun _ => .inl
    | cons first rest ih =>
      intro merged found
      rcases ih _ found with early | late
      · rcases mem_mergeMod.mp early with here | ⟨there, _⟩
        · exact .inr (here ▸ mem_cons_self)
        · exact .inl there
      · exact .inr (mem_cons_of_mem _ late)
  rcases step mods [] member with none | there
  · cases none
  · exact there

end

section

variable {mods details : List CanonicalMod}

/-- Mods as normalization leaves them: by acronym, each of them once. -/
def Normalized (mods : List CanonicalMod) : Prop :=
  mods.Pairwise fun first second => first.acronym < second.acronym

theorem Normalized.sorted (normal : Normalized mods) :
    mods.Pairwise fun first second => first.acronym ≤ second.acronym :=
  normal.imp fun before => before.le

theorem Normalized.distinct (normal : Normalized mods) : (mods.map (·.acronym)).Nodup :=
  pairwise_map.mpr (normal.imp fun before => before.ne)

theorem Normalized.eq_of_acronym (normal : Normalized mods) (one : first ∈ mods)
    (two : second ∈ mods) (same : first.acronym = second.acronym) : first = second :=
  inj_on_of_nodup_map normal.distinct one two same

theorem pairwise_acronyms (mods : List CanonicalMod) :
    (mods.insertionSort fun first second => first.acronym ≤ second.acronym).Pairwise
      fun first second => first.acronym ≤ second.acronym := by
  exact pairwise_insertionSort _ _

theorem sorted_canonicalModsDetails (ran : canonicalModsDetails mods = .ok details) :
    details.Pairwise fun first second => first.acronym ≤ second.acronym := by
  rw [canonicalModsDetails_eq_ok ran]
  exact pairwise_acronyms _

theorem mergeMods_append (normal : Normalized own) (apart : ∀ item ∈ own,
    item.acronym ∉ room.map (·.acronym)) : mergeMods (room ++ own) = mergeMods room ++ own := by
  refine foldl_append.trans ?_
  change own.foldl mergeMod (mergeMods room) = _
  have fresh : ∀ item ∈ own, ∀ old ∈ mergeMods room, old.acronym ≠ item.acronym :=
    fun item member old there same => apart item member (mem_map.mpr ⟨old, mem_of_mem_mergeMods there, same⟩)
  generalize mergeMods room = merged at fresh
  clear apart
  induction own generalizing merged with
  | nil => exact (append_nil merged).symm
  | cons item rest ih =>
    have none : merged.any (·.acronym = item.acronym) = false := by
      simpa using fresh item mem_cons_self
    rw [foldl_cons, mergeMod, none, if_neg Bool.false_ne_true, ih normal.of_cons]
    · rw [append_assoc, singleton_append]
    · intro other later old there
      rcases mem_append.mp there with before | here
      · exact fresh other (mem_cons_of_mem _ later) old before
      · rw [mem_singleton.mp here]
        exact (rel_of_pairwise_cons normal later).ne

/-- The mods of a participant are told from those of the room by their acronyms. -/
theorem filter_details (normal : Normalized own) (apart : ∀ item ∈ own, item.acronym ∉ room.map (·.acronym))
    (ran : canonicalModsDetails (mergeMods (room ++ own)) = .ok details) :
    details.filter (fun item => item.acronym ∉ room.map (·.acronym)) = own := by
  have ours : (mergeMods (room ++ own)).filter (fun item => item.acronym ∉ room.map (·.acronym)) = own := by
    rw [mergeMods_append normal apart, filter_append]
    have gone : (mergeMods room).filter (fun item => item.acronym ∉ room.map (·.acronym)) = [] := by
      rw [filter_eq_nil_iff]
      intro item member
      simpa using ⟨item, mem_of_mem_mergeMods member, rfl⟩
    have kept : own.filter (fun item => item.acronym ∉ room.map (·.acronym)) = own := by
      rw [filter_eq_self]
      exact fun item member => decide_eq_true (apart item member)
    rw [gone, kept, nil_append]
  have same : (details.filter fun item => item.acronym ∉ room.map (·.acronym)).Perm own := by
    have moved := (perm_insertionSort (fun first second : CanonicalMod => first.acronym ≤ second.acronym)
      (mergeMods (room ++ own))).filter fun item => item.acronym ∉ room.map (·.acronym)
    rwa [← canonicalModsDetails_eq_ok ran, ours] at moved
  apply same.eq_of_pairwise _ ((sorted_canonicalModsDetails ran).filter _) normal.sorted
  intro first second one two before after
  exact normal.eq_of_acronym (same.mem_iff.mp one) two (le_antisymm before after)

end

theorem unset_frozen : frozenFields [] = true := rfl

end Perfcho.Scoring
