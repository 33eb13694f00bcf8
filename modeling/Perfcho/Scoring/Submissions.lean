import Perfcho.Foundation.Action
import Perfcho.Foundation.Struct
import Perfcho.Scoring.Models

/-! The hits that clients submit of a score. -/

namespace Perfcho.Scoring

open Foundation

inductive ScoreOutcome where
  | abandoned | failed | passed
  deriving DecidableEq

inductive ScoreGrade where
  | N | F | D | C | B | A | S | SH | X | XH

def ScoreGrade.value : ScoreGrade → String
  | .N => "N" | .F => "F" | .D => "D" | .C => "C" | .B => "B" | .A => "A" | .S => "S" | .SH =>
    "SH" | .X => "X" | .XH => "XH"

def ScoreGrade.ofValue? (value : String) : Option ScoreGrade :=
  [ScoreGrade.N, .F, .D, .C, .B, .A, .S, .SH, .X, .XH].find? (·.value = value)

/-- The names of results that the server itself writes. -/
def hitNames : List String :=
  ["perfect", "great", "good", "ok", "meh", "miss", "large_tick_hit", "small_tick_hit",
    "large_tick_miss", "small_tick_miss"]

/-- The letter tables of the runtime. They take the names of the server as they are. -/
structure Letters where
  lower : String → String
  isAlnum : Char → Bool
  lower_name : ∀ name ∈ hitNames, lower name = name
  alnum_name : ∀ name ∈ hitNames,
    name.toList.all (fun character => isAlnum character || character == '_') = true

/-- The tables of a runtime that knows plain letters only. -/
def plainLetters : Letters where
  lower := id
  isAlnum := Char.isLower
  lower_name _ _ := rfl
  alnum_name := by decide

structure HitStatistic where
  hitResult : String
  actual : Nat
  maximum : Option Nat
  deriving DecidableEq

/-- Normalize the name and check the counts. -/
def HitStatistic.new (letters : Letters) (hitResult : String) (actual : Int)
    (maximum : Option Int := none) : Except String HitStatistic := do
  let name := letters.lower (Text.strip hitResult)
  refuse (name = "" ∨ 32 < name.length ∨
      name.toList.all (fun character => letters.isAlnum character || character == '_') = false)
    "hit_result must be a non-empty snake-case name"
  refuse (actual < 0) "hit statistic actual count must be nonnegative"
  refuse (maximum.any (· < actual) = true) "hit statistic maximum must not be smaller than actual"
  return ⟨name, actual.toNat, maximum.map Int.toNat⟩

theorem HitStatistic.new_name (letters : Letters) (named : name ∈ hitNames) (actual : Nat) :
    HitStatistic.new letters name actual = .ok ⟨name, actual, none⟩ := by
  have short : ∀ name ∈ hitNames, Text.strip name = name ∧ name ≠ "" ∧ name.length ≤ 32 := by decide
  obtain ⟨stripped, present, length⟩ := short name named
  have same : letters.lower (Text.strip name) = name := by rw [stripped, letters.lower_name name named]
  have passes : ¬ (name = "" ∨ 32 < name.length ∨
    name.toList.all (fun character => letters.isAlnum character || character == '_') = false) := by
    rw [letters.alnum_name name named]
    simp [present, length]
  have unbounded : ¬ ((none : Option Int).any (· < (actual : Int)) = true) := Bool.false_ne_true
  unfold HitStatistic.new
  rw [same, refuse_bind passes, refuse_bind (Int.not_lt.mpr (Int.natCast_nonneg actual)),
    refuse_bind unbounded]
  rfl

def hitValues (hits : List HitStatistic) : List (String × Nat) :=
  hits.map fun statistic => (statistic.hitResult, statistic.actual)

/-- `values.get(name, 0)` -/
def count (values : List (String × Nat)) (name : String) : Nat := (values.lookup name).getD 0

/-- The six counts of a legacy client. -/
structure LegacyCounts where
  n300 : Nat
  n100 : Nat
  n50 : Nat
  ngeki : Nat
  nkatu : Nat
  nmiss : Nat
  deriving DecidableEq

end Perfcho.Scoring
