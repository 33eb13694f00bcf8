import Mathlib.Data.Nat.Bitwise
import Perfcho.Foundation.Action
import Perfcho.Stable.LegacyMods

/-! The flags of the mods that the adapter of Stable clients parses. -/

namespace Perfcho.Stable

open Foundation Scoring List Nat

abbrev Sets (mask : Nat) (acronym : String) : Prop := mask &&& legacyModBit acronym ≠ 0

/-- Add a flag under another one. -/
def bring (trigger brought : String) (bits : Nat) :
    Nat := if Sets bits trigger then bits ||| legacyModBit brought else bits

def projectLegacyMods (mods : List CanonicalMod) : Nat :=
  bring "PF" "SD" (bring "NC" "DT" (mods.foldl (fun bits mod => bits ||| legacyModBit mod.acronym) 0))

def flaggedMods : List String := legacyModBits.map Prod.fst

theorem sets_flag : ∀ one ∈ flaggedMods, ∀ two ∈ flaggedMods, Sets (legacyModBit one) two ↔
    one = two := by decide

theorem legacyModBit_entry : ∀ entry ∈ legacyModBits, entry.2 = legacyModBit entry.1 := by decide

theorem legacyModBit_lt : ∀ acronym ∈ flaggedMods, legacyModBit acronym < 2 ^ 31 := by decide

theorem exists_flag : ∀ position < 31, ∃ acronym ∈ flaggedMods,
    legacyModBit acronym = 2 ^ position := by decide

theorem upper_flagged : ∀ acronym ∈ flaggedMods, Text.upper (Text.strip acronym) = acronym ∧
    acronymMatches acronym = true := by
  decide

section

variable {mods : List CanonicalMod} {mask : Nat} {acronym : String}

/-- Known flags tell two masks apart. -/
theorem mask_ext (one : first < 2 ^ 31) (two : second < 2 ^ 31)
    (same : ∀ acronym ∈ flaggedMods, Sets first acronym ↔ Sets second acronym) : first = second := by
  refine eq_of_testBit_eq fun position => ?_
  rcases lt_or_ge position 31 with low | high
  · obtain ⟨acronym, flagged, flag⟩ := exists_flag position low
    have alike := same acronym flagged
    rw [Sets, Sets, flag, and_two_pow, and_two_pow] at alike
    exact Bool.eq_iff_iff.mpr (by simpa using alike)
  · have above := Nat.pow_le_pow_right (show 0 < 2 by decide) high
    rw [testBit_lt_two_pow (one.trans_le above), testBit_lt_two_pow (two.trans_le above)]

theorem sets_or (there : acronym ∈ flaggedMods) (flagged : added ∈ flaggedMods) :
    Sets (mask ||| legacyModBit added) acronym ↔ Sets mask acronym ∨ acronym = added := by
  rw [eq_comm, ← sets_flag added flagged acronym there]
  simp [Sets, and_or_distrib_right, imp_iff_not_or]

/-- Both rules for the flags that others bring. -/
theorem sets_brought (there : acronym ∈ flaggedMods) : Sets (bring "PF" "SD" (bring "NC" "DT" mask)) acronym ↔
    Sets mask acronym ∨ acronym = "DT" ∧ Sets mask "NC" ∨ acronym = "SD" ∧ Sets mask "PF" := by
  have one : ∀ {trigger added bits}, added ∈ flaggedMods → ∀ {acronym}, acronym ∈ flaggedMods →
    (Sets (bring trigger added bits) acronym ↔ Sets bits acronym ∨ acronym = added ∧ Sets bits trigger) := by
    intro trigger added bits flagged acronym there
    unfold bring
    split <;> simp [sets_or there flagged, *]
  rw [one (by decide) there, one (by decide) there, one (by decide) (by decide), or_assoc]
  simp

theorem bring_lt (low : mask < 2 ^ 31) : bring "PF" "SD" (bring "NC" "DT" mask) < 2 ^ 31 := by
  have one : ∀ {trigger added bits}, added ∈ flaggedMods → bits < 2 ^ 31 →
    bring trigger added bits < 2 ^ 31 := by
    intro trigger added bits flagged low
    unfold bring
    split
    · exact or_lt_two_pow low (legacyModBit_lt added flagged)
    · exact low
  exact one (by decide) (one (by decide) low)

/-- The flags of some mods before others are added. -/
theorem flags_sets (known : ∀ mod ∈ mods, mod.acronym ∈ flaggedMods) :
    mods.foldl (fun bits mod => bits ||| legacyModBit mod.acronym) 0 < 2 ^ 31 ∧ ∀ acronym ∈ flaggedMods,
      (Sets (mods.foldl (fun bits mod => bits ||| legacyModBit mod.acronym) 0) acronym ↔
        acronym ∈ mods.map (·.acronym)) := by
  induction mods using reverseRecOn with
  | nil => simp
  | append_singleton rest mod ih =>
    obtain ⟨low, sets⟩ := ih fun other member => known other (mem_append_left _ member)
    have flagged := known mod (by simp)
    rw [foldl_append]
    refine ⟨or_lt_two_pow low (legacyModBit_lt _ flagged), fun acronym there => ?_⟩
    simp [sets_or there flagged, sets acronym there]

/-- The mods whose flags the parser of a mask takes. -/
def Taken (mask : Nat) (acronym : String) : Prop :=
  Sets mask acronym ∧ ¬ (acronym = "DT" ∧ Sets mask "NC" ∨ acronym = "SD" ∧ Sets mask "PF")

instance : Decidable (Taken mask acronym) := inferInstanceAs (Decidable (_ ∧ _))

theorem parse_eq (mask : Nat) : parseLegacyMods mask =
    if 2 ^ 31 ≤ mask then .error "legacy mod bits contain unknown flags"
    else if Sets mask "RX" ∧ Sets mask "AP" then .error "relax and autopilot cannot be combined"
    else (legacyModBits.filter fun entry => Taken mask entry.1).mapM fun entry =>
    CanonicalMod.new entry.1 [] := by
  have unknown : mask &&& knownLegacyModMask ≠ mask ↔ 2 ^ 31 ≤ mask := by
    rw [show knownLegacyModMask = 2 ^ 31 - 1 by decide, and_two_pow_sub_one_eq_mod]
    omega
  simp only [parseLegacyMods, Int.toNat_natCast, unknown]
  rw [if_neg (by omega)]
  refine ite_congr rfl (fun _ => rfl) fun _ => ite_congr rfl (fun _ => rfl) fun _ => congrArg (mapM _) ?_
  refine filter_congr fun entry listed => ?_
  obtain ⟨acronym, bit⟩ := entry
  rw [show bit = _ from legacyModBit_entry _ listed]
  rfl

/-- The mods that a mask is parsed to, by the flags that it sets. -/
theorem parse_ok (low : mask < 2 ^ 31) (single : ¬ (Sets mask "RX" ∧ Sets mask "AP")) :
    ∃ mods, parseLegacyMods mask = .ok mods ∧ (mods.map (·.acronym)).Nodup ∧
      ∀ acronym, acronym ∈ mods.map (·.acronym) ↔ acronym ∈ flaggedMods ∧ Taken mask acronym := by
  rw [parse_eq, if_neg (not_le.mpr low), if_neg single]
  obtain ⟨mods, ran, related⟩ : ∃ mods, ((legacyModBits.filter fun entry => Taken mask entry.1).mapM
    fun entry => CanonicalMod.new entry.1 []) = .ok mods ∧
      List.Forall₂ (fun (entry : String × Nat) mod => entry.1 = mod.acronym) _ mods := by
    refine mapM_related fun entry chosen => ?_
    obtain ⟨same, matched⟩ := upper_flagged entry.1 (mem_map_of_mem (mem_of_mem_filter chosen))
    refine ⟨⟨entry.1, [], matched, rfl⟩, ?_, rfl⟩
    rw [CanonicalMod.new, same, dif_pos matched]
    rfl
  refine ⟨mods, ran, ?_, fun acronym => ?_⟩ <;> rw [← map_eq_of_related related]
  · exact (filter_sublist.map Prod.fst).nodup (show flaggedMods.Nodup by decide)
  · simp only [flaggedMods, mem_map, mem_filter, decide_eq_true_eq]
    grind

/-- The parser takes the masks of known flags without both assistances. Its mods have the
flags that they were parsed from and those they bring, and are parsed from them again. -/
theorem parseLegacyMods_projectLegacyMods (mask : Nat) :
    ((∃ mods, parseLegacyMods mask = .ok mods) ↔ mask < 2 ^ 31 ∧ ¬ (Sets mask "RX" ∧ Sets mask "AP")) ∧
    ∀ mods, parseLegacyMods mask = .ok mods →
      projectLegacyMods mods = bring "PF" "SD" (bring "NC" "DT" mask) ∧
      parseLegacyMods (projectLegacyMods mods) = .ok mods ∧ (mods.map (·.acronym)).Nodup := by
  have accepts : (∃ mods, parseLegacyMods mask = .ok mods) ↔ mask < 2 ^ 31 ∧
    ¬ (Sets mask "RX" ∧ Sets mask "AP") := by
    constructor
    · rintro ⟨mods, ran⟩
      rw [parse_eq] at ran
      split_ifs at ran with high both
      exact ⟨not_le.mp high, both⟩
    · rintro ⟨low, single⟩
      obtain ⟨mods, ran, _⟩ := parse_ok low single
      exact ⟨mods, ran⟩
  refine ⟨accepts, fun mods ran => ?_⟩
  obtain ⟨low, single⟩ := accepts.mp ⟨mods, ran⟩
  obtain ⟨parsed, same, distinct, names⟩ := parse_ok low single
  cases ran.symm.trans same
  obtain ⟨within, sets⟩ := flags_sets fun mod member => ((names mod.acronym).mp (mem_map_of_mem member)).1
  have equal : projectLegacyMods mods = bring "PF" "SD" (bring "NC" "DT" mask) := by
    refine mask_ext (bring_lt within) (bring_lt low) fun acronym there => ?_
    rw [projectLegacyMods, sets_brought there, sets_brought there, sets acronym there,
      sets "NC" (by decide), sets "PF" (by decide)]
    have known : "NC" ∈ flaggedMods ∧ "PF" ∈ flaggedMods := by decide
    simp only [names, Taken]
    grind
  refine ⟨equal, ?_, distinct⟩
  have taken : ∀ entry ∈ legacyModBits,
    decide (Taken (bring "PF" "SD" (bring "NC" "DT" mask)) entry.1) = decide (Taken mask entry.1) := by
    intro entry listed
    rw [decide_eq_decide, Taken, Taken, sets_brought (mem_map_of_mem listed),
      sets_brought (by decide), sets_brought (by decide)]
    grind
  have relaxes := @sets_brought mask _ (show "RX" ∈ flaggedMods by decide)
  have piloted := @sets_brought mask _ (show "AP" ∈ flaggedMods by decide)
  rw [equal, ← ran, parse_eq, parse_eq, filter_congr taken, if_neg (not_le.mpr (bring_lt low)),
    if_neg (not_le.mpr low)]
  simp [relaxes, piloted]

end

end Perfcho.Stable
