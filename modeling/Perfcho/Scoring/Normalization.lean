import Perfcho.Foundation.Action
import Perfcho.Scoring.Mods

/-! The two normalizations of mods. A room is normalized for its scoreboard variant, and the
assistance mod of the variant is taken out; a score is normalized without a variant, and
keeps it. -/

namespace Perfcho.Scoring

open Foundation Json List

mutual

/-- The comparison of two JSON values. -/
def Json.same : Json → Json → Bool
  | .null, .null => true
  | .bool first, .bool second => first = second
  | .int first, .int second => first = second
  | .float first, .float second => first = second
  | .str first, .str second => first = second
  | .list first, .list second => sameItems first second
  | .object first, .object second => sameFields first second
  | _, _ => false

def sameItems : List Json → List Json → Bool
  | [], [] => true
  | first :: firsts, second :: seconds => first.same second && sameItems firsts seconds
  | _, _ => false

def sameFields : List (String × Json) → List (String × Json) → Bool
  | [], [] => true
  | (key, first) :: firsts, (key', second) :: seconds => decide (key = key') && first.same second &&
      sameFields firsts seconds
  | _, _ => false

end

mutual

theorem Json.same_iff : (first second : Json) → (first.same second = true ↔ first = second)
  | .list first, .list second => by simp [same, sameItems_iff first second]
  | .object first, .object second => by simp [same, sameFields_iff first second]
  | .null, second | .bool _, second | .int _, second | .float _, second | .str _, second => by
    cases second <;> simp [same]
  | .list _, .null | .list _, .bool _ | .list _, .int _ | .list _, .float _ | .list _, .str _
  | .list _, .object _ => by
    simp [same]
  | .object _, .null | .object _, .bool _ | .object _, .int _ | .object _, .float _ | .object _, .str _
  | .object _, .list _ => by simp [same]

theorem sameItems_iff : (first second : List Json) → (sameItems first second = true ↔ first = second)
  | [], [] => by simp [sameItems]
  | first :: firsts, second :: seconds => by
    simp [sameItems, Json.same_iff first second, sameItems_iff firsts seconds]
  | [], _ :: _ | _ :: _, [] => by simp [sameItems]

theorem sameFields_iff :
    (first second : List (String × Json)) → (sameFields first second = true ↔ first = second)
  | [], [] => by simp [sameFields]
  | (key, first) :: firsts, (key', second) :: seconds => by
    simp [sameFields, Json.same_iff first second, sameFields_iff firsts seconds]
  | [], _ :: _ | _ :: _, [] => by simp [sameFields]

end

instance : DecidableEq Json := fun first second => decidable_of_iff _ (same_iff first second)

deriving instance DecidableEq for CanonicalMod

/-- `as_json` -/
def CanonicalMod.asJson (mod : CanonicalMod) : Json :=
  .object (("acronym", .str mod.acronym) :: if mod.settings.isEmpty then [] else
    [("settings", .object mod.settings)])

/-- `_KEY_MODS` -/
def keyMods : List String := ["1K", "2K", "3K", "4K", "5K", "6K", "7K", "8K", "9K", "CO"]

/-- `_INCOMPATIBLE_GROUPS` -/
def incompatibleGroups : List (List String) := [["EZ", "HR"], ["HT", "DT", "NC"], ["NF", "SD", "PF"]]

def assistanceMods : List String := ["RX", "AP"]

def automaticMods : List String := ["AT", "CN"]

/-- The mods of a list that are in a group. -/
def selectedOf (group : List String) (mods : List CanonicalMod) : List CanonicalMod :=
  mods.filter (·.acronym ∈ group)

def sortMods (mods : List CanonicalMod) : List CanonicalMod :=
  mods.insertionSort fun first second => first.acronym ≤ second.acronym

/-- The checks of a combination that both normalizations end with. -/
def checkCombination (ruleset : Ruleset) (mods : List CanonicalMod) : Except String Unit :=
  if selectedOf automaticMods mods ≠ [] then .error "automatic play mods cannot submit scores"
  else
    match incompatibleGroups.find? fun group => 1 < (selectedOf group mods).length with
    | some group =>
      .error ("incompatible mods: " ++ ", ".intercalate ((sortMods (selectedOf group mods)).map (·.acronym)))
    | none =>
      if ruleset ≠ .mania ∧ selectedOf keyMods mods ≠ [] then .error "key-count mods are only valid for mania"
      else if 1 < (selectedOf keyMods mods).length then .error "multiple key-count mods cannot be combined"
      else .ok ()

/-- The assistance mod that a variant expects. -/
def ScoreboardVariant.assistance : ScoreboardVariant → Option String
  | .vanilla => none
  | .relax => some "RX"
  | .autopilot => some "AP"

/-- `normalize_mods`: the mods of a room. -/
def normalizeMods (ruleset : Ruleset) (variant : ScoreboardVariant) (mods : List CanonicalMod) :
    Except String (List CanonicalMod) := do
  let unique ← canonicalModsByAcronym mods
  if (selectedOf assistanceMods unique).any (fun supplied => some supplied.acronym ≠ variant.assistance) then
    .error "assistance mod conflicts with the selected scoreboard variant"
  else
    let remaining := unique.filter (·.acronym ∉ assistanceMods)
    if variant = .relax ∧ ruleset = .mania then .error "mania has no relax scoreboard"
    else if variant = .autopilot ∧ ruleset ≠ .osu then .error "autopilot is only supported by osu"
    else
      checkCombination ruleset remaining
      return sortMods remaining

/-- `_normalize_mods`: the mods of a submitted score. -/
def normalizeSubmittedMods (ruleset : Ruleset) (mods : List CanonicalMod) :
    Except String (List CanonicalMod) := do
  let unique ← canonicalModsByAcronym mods
  if selectedOf ["RX"] unique ≠ [] ∧ ruleset = .mania then .error "mania does not support relax"
  else if selectedOf ["AP"] unique ≠ [] ∧ ruleset ≠ .osu then .error "autopilot is only supported by osu"
  else
    checkCombination ruleset unique
    return sortMods unique

section

variable {mods others result : List CanonicalMod} {item : CanonicalMod} {ruleset : Ruleset}
  {variant : ScoreboardVariant}

theorem selectedOf_eq_nil : selectedOf group mods = [] ↔ ∀ item ∈ mods, item.acronym ∉ group := by
  simp [selectedOf]

theorem selectedOf_perm (same : mods.Perm others) (group : List String) :
    (selectedOf group mods).Perm (selectedOf group others) :=
  same.filter _

/-- Mods that can be played together. -/
structure Combinable (ruleset : Ruleset) (mods : List CanonicalMod) : Prop where
  groups : ∀ group ∈ incompatibleGroups, (selectedOf group mods).length ≤ 1
  keyed : ruleset ≠ .mania → selectedOf keyMods mods = []
  single : (selectedOf keyMods mods).length ≤ 1

theorem Combinable.perm (combinable : Combinable ruleset mods) (same : mods.Perm others) :
    Combinable ruleset others := by
  have selects := selectedOf_perm same
  constructor
  · intro group listed
    rw [← (selects group).length_eq]
    exact combinable.groups group listed
  · intro other
    have none := selects keyMods
    rw [combinable.keyed other] at none
    exact none.symm.eq_nil
  · rw [← (selects keyMods).length_eq]
    exact combinable.single

/-- A combination passes the checks if nothing plays by itself and all can be combined. -/
theorem checkCombination_eq_ok : checkCombination ruleset mods = .ok () ↔
    (∀ item ∈ mods, item.acronym ∉ automaticMods) ∧ Combinable ruleset mods := by
  unfold checkCombination
  rw [← selectedOf_eq_nil]
  split
  · next automatic => exact ⟨nofun, fun passes => absurd passes.1 automatic⟩
  next manual =>
  split
  · next group found =>
    refine ⟨nofun, fun passes => ?_⟩
    have several := find?_some found
    have few := passes.2.groups group (mem_of_find?_eq_some found)
    exact absurd (of_decide_eq_true several) (Nat.not_lt.mpr few)
  next none =>
  have few : ∀ group ∈ incompatibleGroups, (selectedOf group mods).length ≤ 1 := by
    intro group listed
    have fails := find?_eq_none.mp none group listed
    exact Nat.not_lt.mp fun several => fails (decide_eq_true several)
  split
  · next keyed => exact ⟨nofun, fun passes => absurd (passes.2.keyed keyed.1) keyed.2⟩
  next keyed =>
  split
  · next several => exact ⟨nofun, fun passes => absurd several (Nat.not_lt.mpr passes.2.single)⟩
  · next single =>
    refine ⟨fun _ => ⟨not_not.mp manual, few, fun other => ?_, Nat.not_lt.mp single⟩, fun _ => rfl⟩
    by_contra some
    exact keyed ⟨other, some⟩

theorem firstRepeated_eq_none : canonicalModsByAcronym.firstRepeated seen mods = none ↔
    (mods.map (·.acronym)).Nodup ∧ ∀ item ∈ mods, item.acronym ∉ seen := by
  induction mods generalizing seen with
  | nil => simp [canonicalModsByAcronym.firstRepeated]
  | cons mod rest ih =>
    unfold canonicalModsByAcronym.firstRepeated
    by_cases known : mod.acronym ∈ seen
    · simp [known]
    rw [if_neg known, ih]
    simp only [map_cons, nodup_cons, mem_map, mem_cons, not_or, forall_eq_or_imp]
    constructor
    · rintro ⟨distinct, fresh⟩
      refine ⟨⟨?_, distinct⟩, known, fun item later => (fresh item later).2⟩
      rintro ⟨item, later, same⟩
      exact (fresh item later).1 same
    · rintro ⟨⟨first, distinct⟩, _, fresh⟩
      exact ⟨distinct, fun item later => ⟨fun same => first ⟨item, later, same⟩, fresh item later⟩⟩

theorem canonicalModsByAcronym_ok_iff : canonicalModsByAcronym mods = .ok result ↔
    result = mods ∧ (mods.map (·.acronym)).Nodup ∧
      ¬ (mods.any (·.acronym = "RX") = true ∧ mods.any (·.acronym = "AP") = true) := by
  unfold canonicalModsByAcronym
  split
  · next acronym repeated =>
    refine ⟨nofun, fun passes => ?_⟩
    rw [firstRepeated_eq_none.mpr ⟨passes.2.1, by simp⟩] at repeated
    cases repeated
  · next none =>
    have distinct := (firstRepeated_eq_none.mp none).1
    split
    · next both => exact ⟨nofun, fun passes => absurd both passes.2.2⟩
    · next apart => exact ⟨fun same => ⟨(Except.ok.inj same).symm, distinct, apart⟩,
        fun passes => by rw [passes.1]⟩

theorem mem_sortMods : item ∈ sortMods mods ↔ item ∈ mods := (perm_insertionSort _ mods).mem_iff

theorem normalized_sortMods (distinct : (mods.map (·.acronym)).Nodup) : Normalized (sortMods mods) := by
  have apart : ((sortMods mods).map (·.acronym)).Nodup :=
    ((perm_insertionSort _ mods).map _).nodup_iff.mpr distinct
  exact ((pairwise_acronyms mods).and (pairwise_map.mp apart)).imp fun both => lt_of_le_of_ne both.1 both.2

theorem normalized_canonicalModsDetails (ran : canonicalModsDetails mods = .ok result) :
    Normalized result := by
  obtain ⟨unique, checked, _⟩ := of_bind_eq_ok ran
  rw [canonicalModsDetails_eq_ok ran]
  exact normalized_sortMods (canonicalModsByAcronym_ok_iff.mp checked).2.1

theorem Normalized.ext (one : Normalized mods) (two : Normalized others)
    (same : ∀ item, item ∈ mods ↔ item ∈ others) : mods = others := by
  have once : ∀ {list : List CanonicalMod}, Normalized list → list.Nodup := by
    intro list normal
    exact List.Pairwise.imp (fun before equal => before.ne (congrArg CanonicalMod.acronym equal)) normal
  apply ((perm_ext_iff_of_nodup (once one) (once two)).mpr same).eq_of_pairwise _ one.sorted two.sorted
  intro first second there here before after
  exact two.eq_of_acronym ((same first).mp there) here (le_antisymm before after)

/-- Mods of somebody who plays by themselves. -/
def Unaided (mods : List CanonicalMod) : Prop :=
  ∀ item ∈ mods, item.acronym ∉ assistanceMods ∧ item.acronym ∉ automaticMods

theorem unaided_nil : Unaided [] := by simp [Unaided]

theorem Unaided.subset (unaided : Unaided others) (inside : mods ⊆ others) : Unaided mods :=
  fun item member => unaided item (inside member)

/-- What is accepted is what is left without the assistance, which is accepted as well. -/
theorem normalizeMods_eq_ok (ran : normalizeMods ruleset variant mods = .ok result) :
    (mods.map (·.acronym)).Nodup ∧ result = sortMods (mods.filter (·.acronym ∉ assistanceMods)) ∧
      checkCombination ruleset (mods.filter (·.acronym ∉ assistanceMods)) = .ok () ∧
      normalizeMods ruleset variant (mods.filter (·.acronym ∉ assistanceMods)) = .ok result := by
  obtain ⟨unique, checked, normal⟩ := of_bind_eq_ok ran
  obtain ⟨rfl, distinct, _⟩ := canonicalModsByAcronym_ok_iff.mp checked
  have alone : canonicalModsByAcronym (unique.filter (·.acronym ∉ assistanceMods)) =
    .ok (unique.filter (·.acronym ∉ assistanceMods)) := by
    refine canonicalModsByAcronym_ok_iff.mpr ⟨rfl, distinct.sublist (filter_sublist.map _), ?_⟩
    simp [assistanceMods]
  have none : selectedOf assistanceMods (unique.filter (·.acronym ∉ assistanceMods)) = [] := by
    simp [selectedOf_eq_nil]
  split at normal
  · cases normal
  have again : normalizeMods ruleset variant (unique.filter (·.acronym ∉ assistanceMods)) = .ok result := by
    rw [normalizeMods, alone, ok_bind, none]
    simpa using normal
  split at normal
  · cases normal
  split at normal
  · cases normal
  obtain ⟨_, passes, sorted⟩ := of_bind_eq_ok normal
  cases sorted
  exact ⟨distinct, rfl, passes, again⟩

/-- A room that is normalized has lost its assistance. -/
theorem normalizeMods_unaided (ran : normalizeMods ruleset variant mods = .ok result) : Unaided result := by
  obtain ⟨_, rfl, passes, _⟩ := normalizeMods_eq_ok ran
  intro item member
  have remaining := mem_sortMods.mp member
  exact ⟨of_decide_eq_true (mem_filter.mp remaining).2, (checkCombination_eq_ok.mp passes).1 item remaining⟩

theorem normalizeSubmittedMods_eq_ok (ran : normalizeSubmittedMods ruleset mods = .ok result) :
    Combinable ruleset mods ∧ result = sortMods mods ∧ canonicalModsByAcronym mods = .ok mods := by
  obtain ⟨unique, checked, normal⟩ := of_bind_eq_ok ran
  obtain rfl := canonicalModsByAcronym_eq_ok checked
  split at normal
  · cases normal
  split at normal
  · cases normal
  obtain ⟨_, passes, sorted⟩ := of_bind_eq_ok normal
  cases sorted
  exact ⟨(checkCombination_eq_ok.mp passes).2, rfl, checked⟩

theorem normalizeSubmittedMods_ok (distinct : (mods.map (·.acronym)).Nodup)
    (unaided : Unaided mods) (combinable : Combinable ruleset mods) :
    normalizeSubmittedMods ruleset mods = .ok (sortMods mods) := by
  have without : ∀ acronym ∈ assistanceMods, selectedOf [acronym] mods = [] := by
    intro acronym assists
    rw [selectedOf_eq_nil]
    intro item member same
    exact (unaided item member).1 (mem_singleton.mp same ▸ assists)
  have checked : canonicalModsByAcronym mods = .ok mods := by
    refine canonicalModsByAcronym_ok_iff.mpr ⟨rfl, distinct, fun both => ?_⟩
    obtain ⟨item, member, same⟩ := any_eq_true.mp both.1
    exact (unaided item member).1 (of_decide_eq_true same ▸ mem_cons_self)
  rw [normalizeSubmittedMods, checked, ok_bind, without "RX" (by decide), without "AP" (by decide),
    checkCombination_eq_ok.mpr ⟨fun item member => (unaided item member).2, combinable⟩]
  rfl

theorem sortMods_perm (distinct : (mods.map (·.acronym)).Nodup) (same : mods.Perm others) :
    sortMods mods = sortMods others :=
  (normalized_sortMods distinct).ext (normalized_sortMods ((same.map _).nodup_iff.mp distinct))
    fun _ => mem_sortMods.trans (same.mem_iff.trans mem_sortMods.symm)

theorem checkCombination_perm (distinct : (mods.map (·.acronym)).Nodup) (same : mods.Perm others) :
    checkCombination ruleset mods = checkCombination ruleset others := by
  have selects := selectedOf_perm same
  have empty : ∀ group, selectedOf group mods = [] ↔ selectedOf group others = [] := fun group => by
    rw [← length_eq_zero_iff, (selects group).length_eq, length_eq_zero_iff]
  have sorts : ∀ group, sortMods (selectedOf group mods) = sortMods (selectedOf group others) := fun group =>
    sortMods_perm (distinct.sublist (filter_sublist.map _)) (selects group)
  simp only [checkCombination, ne_eq, empty, (selects _).length_eq, sorts]

/-- What is not repeated is normalized in any order. -/
theorem normalizeMods_perm (distinct : (mods.map (·.acronym)).Nodup) (same : mods.Perm others) :
    normalizeMods ruleset variant mods = normalizeMods ruleset variant others := by
  have remaining : (mods.filter (·.acronym ∉ assistanceMods)).Perm
    (others.filter (·.acronym ∉ assistanceMods)) := same.filter _
  have apart : ((mods.filter (·.acronym ∉ assistanceMods)).map (·.acronym)).Nodup :=
    distinct.sublist (filter_sublist.map _)
  have checked : ∀ {list : List CanonicalMod}, (list.map (·.acronym)).Nodup → canonicalModsByAcronym list =
    if (list.any (·.acronym = "RX")) ∧ (list.any (·.acronym = "AP")) then
    .error "relax and autopilot cannot be combined" else .ok list := fun distinct => by
    rw [canonicalModsByAcronym, firstRepeated_eq_none.mpr ⟨distinct, by simp⟩]
  rw [normalizeMods, normalizeMods, checked distinct, checked ((same.map _).nodup_iff.mp distinct),
    same.any_eq, same.any_eq]
  split
  · rfl
  · rw [ok_bind, ok_bind, (selectedOf_perm same _).any_eq]
    dsimp only
    rw [checkCombination_perm apart remaining, sortMods_perm apart remaining]

/-- A repeated acronym is all that depends on the order. -/
theorem normalizeMods_repeated (repeated : ¬ (mods.map (·.acronym)).Nodup) :
    ∃ acronym, normalizeMods ruleset variant mods = .error ("duplicate mod acronym: " ++ acronym) := by
  cases found : canonicalModsByAcronym.firstRepeated [] mods with
  | none => exact absurd (firstRepeated_eq_none.mp found).1 repeated
  | some acronym =>
    rw [normalizeMods, canonicalModsByAcronym, found]
    exact ⟨acronym, rfl⟩

/-- The laws of the normalization. Only the name of a repeated acronym depends on the order, what
is normalized stays so, and without assistance each of the normalizations has the same digest. -/
theorem normalizeMods_laws (digest : List Json → Digest) (ruleset : Ruleset)
    (variant : ScoreboardVariant) (mods : List CanonicalMod) :
    (∀ others, mods.Perm others → normalizeMods ruleset variant mods = normalizeMods ruleset variant others ∨
      ∃ acronym other, normalizeMods ruleset variant mods = .error ("duplicate mod acronym: " ++ acronym) ∧
        normalizeMods ruleset variant others = .error ("duplicate mod acronym: " ++ other)) ∧
    ∀ result, normalizeMods ruleset variant mods = .ok result →
      normalizeMods ruleset variant result = .ok result ∧
      ((∀ item ∈ mods, item.acronym ∉ assistanceMods) →
        ∀ submitted details, normalizeSubmittedMods ruleset mods = .ok submitted →
        canonicalModsDetails mods = .ok details → digest
          (result.map (·.asJson)) = digest (submitted.map (·.asJson)) ∧
          digest (result.map (·.asJson)) = digest (details.map (·.asJson))) := by
  constructor
  · intro others same
    by_cases distinct : (mods.map (·.acronym)).Nodup
    · exact .inl (normalizeMods_perm distinct same)
    · obtain ⟨acronym, first⟩ := normalizeMods_repeated distinct
      obtain ⟨other, second⟩ := normalizeMods_repeated (mt (same.map _).nodup_iff.mpr distinct)
      exact .inr ⟨acronym, other, first, second⟩
  · intro result ran
    obtain ⟨distinct, sorted, _, again⟩ := normalizeMods_eq_ok ran
    constructor
    · rw [← again]
      apply normalizeMods_perm
      · rw [sorted]
        exact (normalized_sortMods (distinct.sublist (filter_sublist.map _))).distinct
      · rw [sorted]
        exact perm_insertionSort _ _
    · intro unaided submitted details accepted listed
      obtain ⟨_, rfl, _⟩ := normalizeSubmittedMods_eq_ok accepted
      have kept : mods.filter (·.acronym ∉ assistanceMods) = mods := by
        simpa [filter_eq_self] using unaided
      rw [sorted, kept, canonicalModsDetails_eq_ok listed]
      exact ⟨rfl, rfl⟩

theorem easy_matched : acronymMatches "EZ" = true := by decide

theorem flashlight_matched : acronymMatches "FL" = true := by decide

def easy : CanonicalMod := ⟨"EZ", [], easy_matched, unset_frozen⟩

def flashlight : CanonicalMod := ⟨"FL", [], flashlight_matched, unset_frozen⟩

theorem normalizeMods_laws_sorted : normalizeMods .osu .vanilla [easy, flashlight] = .ok [easy, flashlight] :=
  ((normalizeMods_laws id .osu .vanilla [flashlight, easy]).2 [easy, flashlight] rfl).1

theorem normalizeMods_repeats :
    normalizeMods .osu .vanilla [flashlight, flashlight, easy, easy] = .error "duplicate mod acronym: FL" ∧
      normalizeMods .osu .vanilla [easy, easy, flashlight, flashlight] = .error "duplicate mod acronym: EZ" :=
  ⟨rfl, rfl⟩

end

end Perfcho.Scoring
