import Perfcho.Foundation.Values

/-! Rulesets, scoreboard variants and canonical mods. -/

namespace Perfcho.Scoring

open Foundation

inductive Ruleset where
  | osu | taiko | fruits | mania
  deriving DecidableEq

inductive ScoreboardVariant where
  | vanilla | relax | autopilot
  deriving DecidableEq

/-- A JSON value. A float is its 64-bit pattern. -/
inductive Json where
  | null
  | bool (value : Bool)
  | int (value : Int)
  | float (bits : UInt64)
  | str (value : String)
  | list (items : List Json)
  | object (fields : List (String × Json))

/-- A float whose exponent bits are all set is infinite or not a number. -/
def finiteBits (bits : UInt64) : Bool := (bits >>> 52) &&& 0x7FF != 0x7FF

mutual

/-- What freezing accepts: every number is finite. Keys are strings by type. -/
def Json.frozen : Json → Bool
  | .null | .bool _ | .int _ | .str _ => true
  | .float bits => finiteBits bits
  | .list items => frozenItems items
  | .object fields => frozenFields fields

def frozenItems : List Json → Bool
  | [] => true
  | item :: items => item.frozen && frozenItems items

def frozenFields : List (String × Json) → Bool
  | [] => true
  | (_, item) :: fields => item.frozen && frozenFields fields

end

def acronymChar (character : Char) : Bool :=
  ('A' ≤ character && character ≤ 'Z') || ('0' ≤ character && character ≤ '9')

/-- One to eight uppercase letters or digits. -/
def acronymMatches (acronym : String) : Bool :=
  1 ≤ acronym.length && acronym.length ≤ 8 && acronym.toList.all acronymChar

/-- A mod and its settings, in the form its constructor leaves them. -/
structure CanonicalMod where
  acronym : String
  settings : List (String × Json)
  matched : acronymMatches acronym = true
  frozen : frozenFields settings = true

/-- Normalize the acronym and freeze the settings. -/
def CanonicalMod.new (acronym : String) (settings : List (String × Json)) : Except String CanonicalMod :=
  let acronym := Text.upper (Text.strip acronym)
  if matched : acronymMatches acronym = true then
    if frozen : frozenFields settings = true then .ok ⟨acronym, settings, matched, frozen⟩
    else .error "JSON numbers must be finite"
  else .error "mod acronym must contain 1-8 uppercase ASCII letters or digits"

end Perfcho.Scoring
