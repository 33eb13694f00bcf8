import Mathlib.Data.List.SplitBy
import Perfcho.Scoring.Submissions
import Perfcho.Stable.Dispatcher

/-! The score that a Stable client submits: its encrypted fields, its hit counts and the
checksum over them. -/

namespace Perfcho.Stable

open Foundation Scoring

/-- The parts of the runtime that a submission passes through: the ciphers and digests, the
tables of letters and digits and the formats of time, which is in milliseconds. -/
structure ScoreRuntime where
  letters : Letters
  upper : String → String
  printable : Char → Bool
  decimal : Char → Bool
  integer : String → Option Int
  base64 : String → Option Bytes
  decrypt : (key iv data : Bytes) → Option Bytes
  utf8 : Bytes → Option (List Char)
  readTime : String → Option Int
  writeTime : Int → String
  md5 : String → Bytes

def namedCounts (ruleset : Ruleset) (counts : LegacyCounts) : List (String × Nat) :=
  match ruleset with
  | .osu => [("great", counts.n300), ("ok", counts.n100), ("meh", counts.n50), ("miss", counts.nmiss)]
  | .taiko => [("great", counts.n300), ("ok", counts.n100), ("miss", counts.nmiss)]
  | .fruits => [("great", counts.n300), ("large_tick_hit", counts.n100), ("small_tick_hit", counts.n50),
      ("small_tick_miss", counts.nkatu), ("large_tick_miss", counts.ngeki), ("miss", counts.nmiss)]
  | .mania => [("perfect", counts.ngeki), ("great", counts.n300), ("good", counts.nkatu),
      ("ok", counts.n100), ("meh", counts.n50), ("miss", counts.nmiss)]

/-- `_hit_statistics` -/
def hitStatistics (letters : Letters) (ruleset : Ruleset) (counts : LegacyCounts) :
    Except String (List HitStatistic) :=
  (namedCounts ruleset counts).mapM fun (name, value) => HitStatistic.new letters name value

/-- `_legacy_hit_counts`. There are none if a name is missing. -/
def legacyHitCounts (ruleset : Ruleset) (values : List (String × Nat)) : Option LegacyCounts := do
  match ruleset with
  | .osu => return ⟨← values.lookup "great", ← values.lookup "ok", ← values.lookup "meh", 0,
      0, ← values.lookup "miss"⟩
  | .taiko => return ⟨← values.lookup "great", ← values.lookup "ok", 0, 0, 0, ← values.lookup "miss"⟩
  | .fruits => return ⟨← values.lookup "great", ← values.lookup "large_tick_hit", ← values.lookup
      "small_tick_hit",
      ← values.lookup "large_tick_miss", ← values.lookup "small_tick_miss", ← values.lookup "miss"⟩
  | .mania => return ⟨← values.lookup "great", ← values.lookup "ok", ← values.lookup
      "meh", ← values.lookup "perfect",
      ← values.lookup "good", ← values.lookup "miss"⟩

/-- The counts that have a name in a ruleset; the others are lost. -/
def keptCounts (ruleset : Ruleset) (counts : LegacyCounts) : LegacyCounts :=
  match ruleset with
  | .osu => { counts with ngeki := 0, nkatu := 0 }
  | .taiko => { counts with n50 := 0, ngeki := 0, nkatu := 0 }
  | .fruits | .mania => counts

theorem hitStatistics_eq (letters : Letters) (ruleset : Ruleset) (counts : LegacyCounts) :
    hitStatistics letters ruleset counts = .ok
    ((namedCounts ruleset counts).map fun entry => ⟨entry.1, entry.2, none⟩) := by
  apply mapM_ok
  intro entry member
  have names : ∀ name ∈ (namedCounts ruleset counts).map (·.1), name ∈ hitNames := by
    cases ruleset <;> simp only [namedCounts, List.map_cons, List.map_nil] <;> decide
  exact HitStatistic.new_name letters (names entry.1 (List.mem_map_of_mem member)) entry.2

theorem hitValues_namedCounts (ruleset : Ruleset) (counts : LegacyCounts) :
    hitValues ((namedCounts ruleset counts).map fun entry => ⟨entry.1, entry.2, none⟩) =
    namedCounts ruleset counts := by
  rw [hitValues, List.map_map]
  exact List.map_id _

/-- What comes back from the names is what has a name. -/
theorem legacyHitCounts_namedCounts (ruleset : Ruleset) (counts : LegacyCounts) :
    legacyHitCounts ruleset (namedCounts ruleset counts) = some (keptCounts ruleset counts) := by
  cases ruleset <;> rfl

/-- The counts that are zero if a ruleset loses none. -/
def Unlost (ruleset : Ruleset) (counts : LegacyCounts) : Prop :=
  match ruleset with
  | .osu => counts.ngeki = 0 ∧ counts.nkatu = 0
  | .taiko => counts.n50 = 0 ∧ counts.ngeki = 0 ∧ counts.nkatu = 0
  | .fruits | .mania => True

theorem keptCounts_eq_iff : keptCounts ruleset counts = counts ↔ Unlost ruleset counts := by
  obtain ⟨n300, n100, n50, ngeki, nkatu, nmiss⟩ := counts
  cases ruleset <;> simp [keptCounts, Unlost, eq_comm]

/-- `StableScoreSubmissionForm`, with the content of the replay. -/
structure ScoreForm where
  encryptedScore : String
  replay : Bytes
  exited : Bool
  failTime : Nat
  scoreTime : Nat
  passwordToken : String
  osuVersion : String
  encryptedClientHash : String
  iv : String
  updatedBeatmapHash : String
  storyboardHash : Option String
  uniqueIds : String

/-- `ParsedStableScore` with the facts of its score. Its progress and accuracy follow from
them. -/
structure ParsedStableScore where
  beatmapMd5 : Bytes
  username : String
  ruleset : Ruleset
  mods : List CanonicalMod
  startedAt : Int
  endedAt : Int
  totalScore : Nat
  maxCombo : Nat
  grade : ScoreGrade
  outcome : ScoreOutcome
  perfect : Bool
  hits : List HitStatistic
  clientFlags : Nat
  onlineChecksum : Bytes
  clientHash : String
  legacyModBits : Nat

/-- Sixteen bytes in thirty-two digits. -/
def md5Digits (digits : List Char) (message : String) : Except String Bytes :=
  if digits.length ≠ 32 then .error message
  else match bytesFromHex digits with
    | some digest => if digest.length = 16 then .ok digest else .error message
    | none => .error message

/-- `_integer` -/
def boundedInteger (runtime : ScoreRuntime) (text : String) (maximum : Nat) : Except String Nat := do
  let value ← (runtime.integer text).elim (.error "Stable score integer field is invalid") .ok
  refuse (value < 0 ∨ maximum < value) "Stable score integer field is outside its supported range"
  return value.toNat

/-- `_boolean` -/
def boolean (text : String) : Except String Bool :=
  if text = "True" then .ok true else if text = "False" then .ok false else
    .error "Stable score boolean field is invalid"

/-- `_valid_client_value` -/
def validClientValue (runtime : ScoreRuntime) (text : String) (maximum : Nat) : Bool :=
  text ≠ "" && text.length ≤ maximum && text.toList.all runtime.printable

def maxElapsed : Nat := 7 * 24 * 60 * 60 * 1000

/-- What the cipher and the encoding make of the encrypted fields. -/
def decryptFields (runtime : ScoreRuntime) (form : ScoreForm) : Option (List (List Char) × String) := do
  let iv ← runtime.base64 form.iv
  let data ← runtime.base64 form.encryptedScore
  let hash ← runtime.base64 form.encryptedClientHash
  let key := ("osu!-scoreburgr---------" ++ form.osuVersion).toUTF8.toList
  let text ← (runtime.decrypt key iv data).bind runtime.utf8
  let clientHash ← (runtime.decrypt key iv hash).bind runtime.utf8
  return (text.splitOn ':', String.ofList clientHash)

/-- `decrypt_stable_score` -/
def decryptStableScore (runtime : ScoreRuntime) (form : ScoreForm) (supportedBuild : String) :
    Except String ParsedStableScore := do
  refuse (form.osuVersion.length ≠ 8 ∨ form.osuVersion.toList.all runtime.decimal = false)
    "osu version must contain eight digits"
  refuse (('b' :: form.osuVersion.toList).isPrefixOf supportedBuild.toList = false)
    "score was submitted by an unsupported Stable build"
  refuse (maxElapsed < form.failTime ∨ maxElapsed < form.scoreTime) "Stable score timing values are too large"
  refuse (16384 < max (max form.encryptedScore.length form.encryptedClientHash.length) form.iv.length)
    "encrypted Stable score fields are too large"
  let (fields, clientHash) ← (decryptFields runtime form).elim
    (.error "Stable score encryption is invalid") .ok
  refuse (validClientValue runtime clientHash 512 = false) "decrypted Stable score payload is invalid"
  match fields with
  | [md5, name, checksum, n300, n100, n50, ngeki, nkatu, nmiss, total, combo, perfect, grade,
      modBits, passed, mode, time, version, flags] =>
    let beatmapMd5 ← md5Digits md5 "Stable score beatmap MD5 is invalid"
    let username := String.ofList (if name.getLast? = some ' ' then name.dropLast else name)
    refuse (username = "" ∨ 64 < username.length) "Stable score username is invalid"
    let onlineChecksum ← md5Digits checksum "Stable score online checksum is invalid"
    let number text := boundedInteger runtime (String.ofList text) (2 ^ 31 - 1)
    let counts : LegacyCounts :=
      ⟨← number n300, ← number n100, ← number n50, ← number ngeki, ← number nkatu, ← number nmiss⟩
    let totalScore ← boundedInteger runtime (String.ofList total) (2 ^ 63 - 1)
    let maxCombo ← number combo
    let perfect ← boolean (String.ofList perfect)
    let grade ← (ScoreGrade.ofValue? (runtime.upper (String.ofList grade))).elim
      (.error "Stable score grade is invalid") .ok
    let legacyModBits ← number modBits
    let passed ← boolean (String.ofList passed)
    let mode ← boundedInteger runtime (String.ofList mode) 3
    let ruleset ← (rulesets[mode]?).elim (.error "Stable score ruleset is invalid") .ok
    let mods ← parseLegacyMods legacyModBits
    let endedAt ← (runtime.readTime (String.ofList time)).elim
      (.error "Stable score timestamp is invalid") .ok
    refuse (version ≠ form.osuVersion.toList) "Stable score client version marker is invalid"
    let clientFlags ← number flags
    let outcome : ScoreOutcome := if passed then .passed else if form.exited then .abandoned else .failed
    refuse (passed ∧ (form.exited ∨ form.scoreTime = 0 ∨ form.failTime ≠ 0))
      "passed Stable score timing fields are inconsistent"
    refuse (passed = false ∧ form.failTime = 0) "failed Stable score timing fields are inconsistent"
    let elapsed := if outcome = .passed then form.scoreTime else form.failTime
    let hits ← hitStatistics runtime.letters ruleset counts
    return ⟨beatmapMd5, username, ruleset, mods, endedAt - elapsed, endedAt, totalScore, maxCombo,
      grade, outcome, perfect, hits, clientFlags, onlineChecksum, clientHash, legacyModBits⟩
  | _ => .error "decrypted Stable score payload is invalid"

def rulesetNumber : Ruleset → Nat
  | .osu => 0 | .taiko => 1 | .fruits => 2 | .mania => 3

def boolText (value : Bool) : String := if value then "True" else "False"

/-- The text that the online checksum is over, with given counts. -/
def checksumPayload (runtime : ScoreRuntime) (counts : LegacyCounts) (parsed : ParsedStableScore)
    (osuVersion : String) (storyboardHash username : Option String) : String :=
  let name := match username with
    | some name => if name = "" then parsed.username else name
    | none => parsed.username
  "chickenmcnuggets" ++ toString (counts.n100 + counts.n300) ++ "o15" ++ toString counts.n50 ++
    toString counts.ngeki ++ "smustard" ++ toString counts.nkatu ++ toString counts.nmiss ++ "uu" ++
    String.ofList (Hex.encode parsed.beatmapMd5) ++ toString parsed.maxCombo ++
    boolText parsed.perfect ++ name ++ toString parsed.totalScore ++ parsed.grade.value ++
    toString parsed.legacyModBits ++ "Q" ++ boolText (parsed.outcome = .passed) ++
    toString (rulesetNumber parsed.ruleset) ++ osuVersion ++ runtime.writeTime parsed.endedAt ++
    parsed.clientHash ++ storyboardHash.getD ""

/-- `stable_online_checksum`. There is none if a count has no name. -/
def stableOnlineChecksum (runtime : ScoreRuntime) (parsed : ParsedStableScore) (osuVersion : String)
    (storyboardHash username : Option String) : Option Bytes := do
  let counts ← legacyHitCounts parsed.ruleset (hitValues parsed.hits)
  return runtime.md5 (checksumPayload runtime counts parsed osuVersion storyboardHash username)

/-- `verify_stable_online_checksum`, with the checksum that was recomputed if one was. -/
def verifyStableOnlineChecksum (runtime : ScoreRuntime) (parsed : ParsedStableScore) (osuVersion : String)
    (storyboardHash username : Option String) : Except String (Option Bytes) := do
  if storyboardHash.isNone then return none
  let expected ← (stableOnlineChecksum runtime parsed osuVersion storyboardHash username).elim
    (.error "KeyError") .ok
  refuse (parsed.onlineChecksum ≠ expected) "Stable online checksum does not match the submitted score"
  return some expected

theorem verify_returned (returned : legacyHitCounts parsed.ruleset (hitValues parsed.hits) = some counts)
    (genuine : parsed.onlineChecksum = runtime.md5
      (checksumPayload runtime counts parsed osuVersion storyboardHash username)) :
    ∃ recomputed, verifyStableOnlineChecksum runtime parsed osuVersion storyboardHash username =
    .ok recomputed := by
  have expected : stableOnlineChecksum runtime parsed osuVersion storyboardHash username =
    some parsed.onlineChecksum := by
    rw [stableOnlineChecksum, returned, genuine]
    rfl
  unfold verifyStableOnlineChecksum
  split
  · exact ⟨none, rfl⟩
  · rw [expected]
    exact ⟨_, refuse_bind (fun differs => differs rfl) _ _⟩

/-- The submitted counts come back just if those without a name are zero, and then the
checksum that a client makes of them is accepted. -/
theorem counts_returned_iff (runtime : ScoreRuntime) (ruleset : Ruleset) (counts : LegacyCounts) :
    (∃ hits, hitStatistics runtime.letters ruleset counts = .ok hits ∧
      legacyHitCounts ruleset (hitValues hits) = some counts ∧
      ∀ (parsed : ParsedStableScore) (osuVersion : String) (storyboardHash username : Option String),
        parsed.ruleset = ruleset → parsed.hits = hits →
        parsed.onlineChecksum = runtime.md5
        (checksumPayload runtime counts parsed osuVersion storyboardHash username) →
        ∃ recomputed, verifyStableOnlineChecksum runtime parsed osuVersion storyboardHash username =
        .ok recomputed) ↔
      Unlost ruleset counts := by
  rw [← keptCounts_eq_iff]
  constructor
  · rintro ⟨hits, made, returned, _⟩
    rw [hitStatistics_eq] at made
    cases made
    rw [hitValues_namedCounts, legacyHitCounts_namedCounts] at returned
    exact Option.some.inj returned
  · intro kept
    have returned := legacyHitCounts_namedCounts ruleset counts
    rw [kept, ← hitValues_namedCounts] at returned
    refine ⟨_, hitStatistics_eq runtime.letters ruleset counts, returned, ?_⟩
    intro parsed osuVersion storyboardHash username same drawn genuine
    subst same
    rw [← drawn] at returned
    exact verify_returned returned genuine

end Perfcho.Stable
