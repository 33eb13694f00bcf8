import Mathlib.Data.List.Sort
import Mathlib.Data.String.Basic
import Perfcho.Scoring.Submissions

/-! The six hit counts of a score in two places: the header of the replay that is rebuilt
for it, and its row of a leaderboard. -/

namespace Perfcho.Scoring

open Foundation Option

/-- The legacy counts in the order in which a header has them. -/
def LegacyCounts.toList (counts : LegacyCounts) : List Int :=
  [counts.n300, counts.n100, counts.n50, counts.ngeki, counts.nkatu, counts.nmiss]

/-- `_LEGACY_MOD_BITS` of the encoder. -/
def replayModBits : List (String × Nat) :=
  [("NF", 1 <<< 0), ("EZ", 1 <<< 1), ("TD", 1 <<< 2), ("HD", 1 <<< 3), ("HR", 1 <<< 4),
    ("SD", 1 <<< 5), ("DT", 1 <<< 6), ("RX", 1 <<< 7), ("HT", 1 <<< 8), ("NC", 1 <<< 9),
    ("FL", 1 <<< 10), ("AT", 1 <<< 11), ("SO", 1 <<< 12), ("AP", 1 <<< 13), ("PF", 1 <<< 14),
    ("K4", 1 <<< 15), ("K5", 1 <<< 16), ("K6", 1 <<< 17), ("K7", 1 <<< 18), ("K8", 1 <<< 19),
    ("FI", 1 <<< 20), ("RD", 1 <<< 21), ("CN", 1 <<< 22), ("TP", 1 <<< 23), ("K9", 1 <<< 24),
    ("CO", 1 <<< 25), ("K1", 1 <<< 26), ("K3", 1 <<< 27), ("K2", 1 <<< 28), ("V2", 1 <<< 29),
    ("MR", 1 <<< 30)]

/-- `_legacy_mod_bits` -/
def replayModMask (mods : List String) : Nat :=
  let bits := mods.foldl (fun bits mod => bits ||| (replayModBits.lookup mod).getD 0) 0
  let bits := if "NC" ∈ mods then bits ||| 1 <<< 6 else bits
  if "PF" ∈ mods then bits ||| 1 <<< 5 else bits

/-- `_hit`: the count under the first key that is there. -/
def hit (hits : List (String × Nat)) (keys : List String) :
    Nat := (keys.findSome? fun key => hits.lookup key).getD 0

def headerCounts (hits : List (String × Nat)) : LegacyCounts where
  n300 := hit hits ["great", "count300"]
  n100 := hit hits ["ok", "count100"]
  n50 := hit hits ["meh", "count50"]
  ngeki := hit hits ["geki", "countGeki"]
  nkatu := hit hits ["katu", "countKatu"]
  nmiss := hit hits ["miss", "countMiss"]

/-- The counts of `_leaderboard_view`. -/
def leaderboardCounts (ruleset : Ruleset) (hits : List (String × Nat)) : LegacyCounts :=
  match ruleset with
  | .osu => ⟨count hits "great", count hits "ok", count hits "meh", 0, 0, count hits "miss"⟩
  | .taiko => ⟨count hits "great", count hits "ok", 0, 0, 0, count hits "miss"⟩
  | .fruits => ⟨count hits "great", count hits "large_tick_hit", count hits "small_tick_hit",
      count hits "large_tick_miss", count hits "small_tick_miss", count hits "miss"⟩
  | .mania => ⟨count hits "great", count hits "ok", count hits "meh", count hits "perfect",
      count hits "good", count hits "miss"⟩

/-- Seven bits to a byte, the lowest first; the last byte has no mark. -/
def uleb128 (value : Nat) : Bytes :=
  if value < 128 then [UInt8.ofNat value] else UInt8.ofNat (value % 128 + 128) :: uleb128 (value / 128)

/-- `_string` -/
def replayString (text : String) : Bytes :=
  let raw := text.toUTF8.toList
  0x0B :: uleb128 raw.length ++ raw

/-- `ReplayReconstructionFacts`, with the end of the play in microseconds of the calendar. -/
structure ReplayFacts where
  displayName : String
  beatmapMd5 : Bytes
  ruleset : Ruleset
  totalScore : Nat
  maxCombo : Nat
  perfect : Bool
  mods : List String
  statistics : List (String × Nat)
  endedAt : Nat

/-- `_RULESET_IDS` -/
def rulesetId : Ruleset → Nat
  | .osu => 0 | .taiko => 1 | .fruits => 2 | .mania => 3

/-- What stands before the counts. The hash of the replay is over its name and time. -/
def headerFront (replayHash : String → Nat → Bytes) (facts : ReplayFacts) : Bytes :=
  UInt8.ofNat (rulesetId facts.ruleset) :: (Field.signed 4).encode 30000019 ++
    replayString (String.ofList (Hex.encode facts.beatmapMd5)) ++ replayString facts.displayName ++
    replayString (String.ofList (Hex.encode (replayHash facts.displayName facts.endedAt)))

def countsLayout : Layout := List.replicate 6 (.unsigned 2)

/-- `_encode_header`. There is none if a number does not fit its field. -/
def encodeHeader (replayHash : String → Nat → Bytes) (facts : ReplayFacts) (replayData : Bytes) :
    Option Bytes := do
  let counts ← countsLayout.pack (headerCounts facts.statistics).toList
  let totals ← Layout.pack [.signed 4, .unsigned 2] [facts.totalScore, facts.maxCombo]
  let mods ← Layout.pack [.signed 4] [replayModMask facts.mods]
  let ticks ← Layout.pack [.signed 8] [10 * facts.endedAt]
  let size ← Layout.pack [.signed 4] [replayData.length]
  return headerFront replayHash facts ++ counts ++ totals ++ [if facts.perfect then 1 else 0] ++
    mods ++ replayString "" ++ ticks ++ size ++ replayData ++ (Field.signed 8).encode 0 ++
    (Field.signed 4).encode 0

/-- The six numbers after the front of a header. -/
def readCounts (front : Nat) (header : Bytes) : Option (List Int) := countsLayout.unpack (header.drop front)

/-- The results that a ruleset requires, `_REQUIRED_HITS`. -/
def requiredHits : Ruleset → List String
  | .osu => ["great", "ok", "meh", "miss"]
  | .taiko => ["great", "ok", "miss"]
  | .fruits => ["great", "large_tick_hit", "small_tick_hit", "small_tick_miss", "miss"]
  | .mania => ["perfect", "great", "good", "ok", "meh", "miss"]

/-- `_hit_statistics` of the Lazer routes: the submitted names and those that are required. -/
def soloHitStatistics (letters : Letters) (ruleset : Ruleset)
    (actual maximum : List (String × Int)) : Except String (List HitStatistic) :=
  let names := (actual.map (·.1) ++ maximum.map (·.1) ++ requiredHits ruleset).dedup
  (names.insertionSort (· ≤ ·)).mapM fun name =>
    HitStatistic.new letters name ((actual.lookup name).getD 0) (maximum.lookup name)

/-- The hit statistics that are stored for a Lazer score. What else the scoring service checks
of them on its beatmap is the last argument. -/
def acceptSoloScore (letters : Letters) (ruleset : Ruleset) (statistics maximum : List (String × Int))
    (admits : List HitStatistic → Bool) : Except String (List HitStatistic) := do
  let hits ← soloHitStatistics letters ruleset statistics maximum
  refuse (¬ (hits.map (·.hitResult)).Nodup) "hit statistics must be non-empty and unique by hit_result"
  refuse ((requiredHits ruleset).any (fun name => ((hitValues hits).lookup name).isNone) = true)
    "missing required hit statistics"
  refuse (admits hits = false) "score was rejected"
  refuse (hits.any (fun statistic => decide (2 ^ 31 ≤ statistic.actual) ||
    statistic.maximum.any (2 ^ 31 ≤ ·)) = true)
    "integer out of range"
  return hits

section

variable {replayHash : String → Nat → Bytes} {facts : ReplayFacts} {replayData header : Bytes}
  {hits : List (String × Nat)}

theorem LegacyCounts.toList_injective {first second : LegacyCounts}
    (same : first.toList = second.toList) : first = second := by
  cases first
  cases second
  simpa [LegacyCounts.toList] using same

/-- What is read after the front of a header is what it was written with. -/
theorem readCounts_encodeHeader (written : encodeHeader replayHash facts replayData = some header) :
    readCounts (headerFront replayHash facts).length header =
    some (headerCounts facts.statistics).toList := by
  unfold encodeHeader at written
  obtain ⟨counts, packed, written⟩ := bind_eq_some_iff.mp written
  obtain ⟨totals, _, written⟩ := bind_eq_some_iff.mp written
  obtain ⟨mods, _, written⟩ := bind_eq_some_iff.mp written
  obtain ⟨ticks, _, written⟩ := bind_eq_some_iff.mp written
  obtain ⟨size, _, written⟩ := bind_eq_some_iff.mp written
  cases written
  unfold readCounts
  simp only [List.append_assoc, List.drop_left]
  exact Layout.unpack_pack packed _

/-- A score has the results that its ruleset requires. -/
def Complete (ruleset : Ruleset) (hits : List (String × Nat)) : Prop :=
  ∀ name ∈ requiredHits ruleset, (hits.lookup name).isSome = true

theorem Complete.hit_eq (complete : Complete ruleset hits) (required : name ∈ requiredHits ruleset)
    (other : String) : hit hits [name, other] = count hits name := by
  obtain ⟨value, found⟩ := isSome_iff_exists.mp (complete name required)
  simp [hit, count, found]

theorem acceptSoloScore_complete
    (accepted : acceptSoloScore letters ruleset statistics maximum admits = .ok stored) :
    Complete ruleset (hitValues stored) := by
  obtain ⟨hits, _, _, _, accepted⟩ := of_bind_bind_eq_ok accepted
  obtain ⟨_, present, _, _, accepted⟩ := of_bind_bind_eq_ok accepted
  obtain ⟨_, _, accepted⟩ := of_bind_eq_ok accepted
  cases accepted
  intro name required
  have all := refuse_eq_ok.mp present
  rw [Bool.not_eq_true, List.any_eq_false] at all
  have found := all name required
  rwa [Bool.not_eq_true, isNone_eq_false_iff] at found

/-- The statistics for which a header and a leaderboard agree. The header knows no name
of a ruleset but the first one's; what it takes for the other counts has to match. -/
def Agreeing (hits : List (String × Nat)) : Ruleset → Prop
  | .osu => hit hits ["geki", "countGeki"] = 0 ∧ hit hits ["katu", "countKatu"] = 0
  | .taiko => hit hits ["meh", "count50"] = 0 ∧ hit hits ["geki", "countGeki"] = 0 ∧
      hit hits ["katu", "countKatu"] = 0
  | .fruits => hit hits ["ok", "count100"] = count hits "large_tick_hit" ∧
      hit hits ["meh", "count50"] = count hits "small_tick_hit" ∧
      hit hits ["geki", "countGeki"] = count hits "large_tick_miss" ∧
      hit hits ["katu", "countKatu"] = count hits "small_tick_miss"
  | .mania => hit hits ["geki", "countGeki"] = count hits "perfect" ∧
      hit hits ["katu", "countKatu"] = count hits "good"

theorem headerCounts_eq_iff (complete : Complete ruleset hits) :
    headerCounts hits = leaderboardCounts ruleset hits ↔ Agreeing hits ruleset := by
  have great : hit hits ["great", "count300"] = count hits "great" :=
    complete.hit_eq (by cases ruleset <;> decide) _
  have miss : hit hits ["miss", "countMiss"] = count hits "miss" :=
    complete.hit_eq (by cases ruleset <;> decide) _
  cases ruleset with
  | osu | mania =>
    have ok : hit hits ["ok", "count100"] = count hits "ok" := complete.hit_eq (by decide) _
    have meh : hit hits ["meh", "count50"] = count hits "meh" := complete.hit_eq (by decide) _
    simp [headerCounts, leaderboardCounts, Agreeing, great, ok, meh, miss]
  | taiko =>
    have ok : hit hits ["ok", "count100"] = count hits "ok" := complete.hit_eq (by decide) _
    simp [headerCounts, leaderboardCounts, Agreeing, great, ok, miss]
  | fruits => simp [headerCounts, leaderboardCounts, Agreeing, great, miss]

/-- The header of the replay that is rebuilt for an accepted Lazer score has the counts of
the leaderboard just if the statistics agree. -/
theorem replay_counts_iff (letters : Letters) (ruleset : Ruleset) (statistics maximum : List (String × Int))
    (admits : List HitStatistic → Bool) (stored : List HitStatistic)
    (accepted : acceptSoloScore letters ruleset statistics maximum admits = .ok stored)
    (replayHash : String → Nat → Bytes) (facts : ReplayFacts)
    (read : facts.statistics = hitValues stored) (replayData header : Bytes)
    (written : encodeHeader replayHash facts replayData = some header) :
    readCounts (headerFront replayHash facts).length header =
    some (leaderboardCounts ruleset (hitValues stored)).toList ↔
      Agreeing (hitValues stored) ruleset := by
  rw [readCounts_encodeHeader written, read, ← headerCounts_eq_iff (acceptSoloScore_complete accepted)]
  constructor
  · intro equal
    exact LegacyCounts.toList_injective (some.inj equal)
  · intro equal
    rw [equal]

/-- The results of a play of one object, stored by their names. -/
def maniaHits : List HitStatistic :=
  [⟨"good", 0, none⟩, ⟨"great", 0, none⟩, ⟨"meh", 0, none⟩, ⟨"miss", 0, none⟩, ⟨"ok", 0, none⟩,
    ⟨"perfect", 1, none⟩]

def osuHits : List HitStatistic := [⟨"great", 1, none⟩, ⟨"meh", 0, none⟩, ⟨"miss", 0, none⟩, ⟨"ok", 0, none⟩]

/-- The facts of such a play, at the start of a calendar. -/
def playFacts (ruleset : Ruleset) (hits : List HitStatistic) : ReplayFacts where
  displayName := "alice"
  beatmapMd5 := List.replicate 16 0
  ruleset := ruleset
  totalScore := 1000000
  maxCombo := 1
  perfect := true
  mods := []
  statistics := hitValues hits
  endedAt := 0

def blankHash (_ : String) (_ : Nat) : Bytes := List.replicate 16 0

/-- The best hit of a mania play is on the leaderboard, and in no count of the header. -/
theorem maniaPlay_miscounted :
    ∃ header, acceptSoloScore plainLetters .mania [("perfect", 1)] [] (fun _ => true) =
      .ok maniaHits ∧ encodeHeader blankHash (playFacts .mania maniaHits) [] = some header ∧
      readCounts (headerFront blankHash (playFacts .mania maniaHits)).length header = some [0, 0, 0,
      0, 0, 0] ∧ (leaderboardCounts .mania (hitValues maniaHits)).toList = [0, 0, 0, 1, 0, 0] := by
  have fits : (encodeHeader blankHash (playFacts .mania maniaHits) []).isSome = true := by decide
  obtain ⟨header, written⟩ := isSome_iff_exists.mp fits
  have zeros : (headerCounts (playFacts .mania maniaHits).statistics).toList = [0, 0, 0, 0, 0, 0] := by decide
  refine ⟨header, eq_ok_of_toOption (by decide), written, ?_, by decide⟩
  rw [readCounts_encodeHeader written, zeros]

theorem osuPlay_counted : ∃ header, encodeHeader blankHash (playFacts .osu osuHits)
    [] = some header ∧ readCounts (headerFront blankHash (playFacts .osu osuHits)).length header =
      some (leaderboardCounts .osu (hitValues osuHits)).toList := by
  have fits : (encodeHeader blankHash (playFacts .osu osuHits) []).isSome = true := by decide
  obtain ⟨header, written⟩ := isSome_iff_exists.mp fits
  have accepted : acceptSoloScore plainLetters .osu [("great", 1)] [] (fun _ => true) = .ok osuHits :=
    eq_ok_of_toOption (by decide)
  exact ⟨header, written, (replay_counts_iff plainLetters .osu _ _ _ osuHits accepted blankHash
    (playFacts .osu osuHits) rfl
    [] header written).mpr ⟨by decide, by decide⟩⟩

end

end Perfcho.Scoring
