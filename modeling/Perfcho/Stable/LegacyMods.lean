import Perfcho.Scoring.Models

/-! Mods as the flags of a Stable client. -/

namespace Perfcho.Stable

open Scoring

/-- `LEGACY_MOD_BITS` -/
def legacyModBits : List (String × Nat) :=
  [("NF", 1 <<< 0), ("EZ", 1 <<< 1), ("TD", 1 <<< 2), ("HD", 1 <<< 3), ("HR", 1 <<< 4),
    ("SD", 1 <<< 5), ("DT", 1 <<< 6), ("RX", 1 <<< 7), ("HT", 1 <<< 8), ("NC", 1 <<< 9),
    ("FL", 1 <<< 10), ("AT", 1 <<< 11), ("SO", 1 <<< 12), ("AP", 1 <<< 13), ("PF", 1 <<< 14),
    ("4K", 1 <<< 15), ("5K", 1 <<< 16), ("6K", 1 <<< 17), ("7K", 1 <<< 18), ("8K", 1 <<< 19),
    ("FI", 1 <<< 20), ("RD", 1 <<< 21), ("CN", 1 <<< 22), ("TP", 1 <<< 23), ("9K", 1 <<< 24),
    ("CO", 1 <<< 25), ("1K", 1 <<< 26), ("3K", 1 <<< 27), ("2K", 1 <<< 28), ("SV2", 1 <<< 29),
    ("MR", 1 <<< 30)]

/-- `_KNOWN_LEGACY_MOD_MASK` -/
def knownLegacyModMask : Nat := legacyModBits.foldl (fun mask (_, bit) => mask + bit) 0

/-- `LEGACY_MOD_BITS[acronym]`, with no flag for an acronym that has none. -/
def legacyModBit (acronym : String) : Nat := ((legacyModBits.find? (·.1 = acronym)).map (·.2)).getD 0

def parseLegacyMods (legacyBits : Int) : Except String (List CanonicalMod) :=
  if legacyBits < 0 then .error "legacy mod bits must be a non-negative integer"
  else
    let bits := legacyBits.toNat
    -- A flag outside the mask is set if masking loses something.
    if bits &&& knownLegacyModMask ≠ bits then .error "legacy mod bits contain unknown flags"
    else if bits &&& legacyModBit "RX" ≠ 0 ∧ bits &&& legacyModBit "AP" ≠ 0 then
      .error "relax and autopilot cannot be combined"
    else
      let selected := legacyModBits.filter fun (acronym, bit) => bits &&& bit ≠ 0 ∧
        ¬ (acronym = "DT" ∧ bits &&& legacyModBit "NC" ≠ 0 ∨ acronym = "SD" ∧ bits &&& legacyModBit "PF" ≠ 0)
      selected.mapM fun (acronym, _) => CanonicalMod.new acronym []

end Perfcho.Stable
