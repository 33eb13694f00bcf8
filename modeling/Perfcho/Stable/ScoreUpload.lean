import Perfcho.Stable.Scores

/-! The route that takes a Stable score, up to the attestation that is stored with it. -/

namespace Perfcho.Stable

open Foundation Scoring

/-- A field of a multipart form. -/
inductive FormPart where
  | text (value : String)
  | upload (content : Bytes)

abbrev Form := List (String × FormPart)

def Form.getlist (form : Form) (key : String) : List FormPart := (form.filter (·.1 = key)).map (·.2)

def Form.get (form : Form) (key : String) : Option FormPart := (form.getlist key).getLast?

def FormPart.text? : FormPart → Option String
  | text value => some value
  | upload _ => none

def FormPart.upload? : FormPart → Option Bytes
  | text _ => none
  | upload content => some content

def invalidField (key : String) : String := "Stable score field " ++ key ++ " is invalid"

/-- `_form_text` -/
def formText (form : Form) (key : String) (maximum : Nat) : Except String String :=
  match form.get key with
  | some (.text value) => if value = "" ∨ maximum < value.length then .error (invalidField key) else .ok value
  | _ => .error (invalidField key)

/-- `_optional_form_text` -/
def optionalFormText (form : Form) (key : String) (maximum : Nat) : Except String (Option String) :=
  match form.get key with
  | none => .ok none
  | some (.text value) =>
    if value = "" then .ok none else if maximum < value.length then .error (invalidField key) else
      .ok (some value)
  | some (.upload _) => .error (invalidField key)

/-- `_form_integer` -/
def formInteger (form : Form) (key : String) (maximum : Nat) : Except String Nat := do
  let value ← formText form key 20
  refuse (value.toList.all Char.isDigit = false) (invalidField key)
  let number ← (Text.natural? value.toList).elim (.error (invalidField key)) .ok
  refuse (maximum < number) ("Stable score field " ++ key ++ " is outside its supported range")
  return number

/-- `_form_boolean` -/
def formBoolean (form : Form) (key : String) : Except String Bool := do
  let value ← formText form key 5
  if value = "1" ∨ value = "True" then return true
  else if value = "0" ∨ value = "False" then return false
  else .error (invalidField key)

/-- `_parse_submission_form` -/
def parseSubmissionForm (form : Form) : Except String ScoreForm := do
  let parts := form.getlist "score"
  let encryptedScore ← (parts.findSome? FormPart.text?).elim
    (.error "Stable score multipart fields are invalid") .ok
  let replay ← (parts.findSome? FormPart.upload?).elim
    (.error "Stable score multipart fields are invalid") .ok
  refuse (parts.length ≠ 2) "Stable score multipart fields are invalid"
  let exited ← formBoolean form "x"
  let failTime ← formInteger form "ft" maxElapsed
  let scoreTime ← formInteger form "st" maxElapsed
  let passwordToken ← formText form "pass" 32
  let osuVersion ← formText form "osuver" 16
  let encryptedClientHash ← formText form "s" 16384
  let iv ← formText form "iv" 1024
  let updatedBeatmapHash ← formText form "bmk" 128
  let storyboardHash ← optionalFormText form "sbk" 128
  let uniqueIds ← formText form "c1" 2048
  return ⟨encryptedScore, replay, exited, failTime, scoreTime, passwordToken, osuVersion,
    encryptedClientHash, iv, updatedBeatmapHash, storyboardHash, uniqueIds⟩

/-- A storyboard hash is there if its field has a text that is not empty. -/
def SuppliesStoryboard (form : Form) : Prop := ∃ value, form.get "sbk" = some (.text value) ∧ value ≠ ""

/-- `validate_stable_submission_evidence` -/
def validateSubmissionEvidence (runtime : ScoreRuntime) (form : ScoreForm)
    (parsed : ParsedStableScore) : Except String Unit := do
  let updated ← md5Digits form.updatedBeatmapHash.toList "Stable score field bmk is not an MD5"
  refuse (updated ≠ parsed.beatmapMd5) "Stable updated beatmap hash does not match the score"
  match form.storyboardHash with
  | some hash => let _ ← md5Digits hash.toList "Stable score field sbk is not an MD5"
  | none => pure ()
  let identifiers := (form.uniqueIds.toList.splitOn '|').map String.ofList
  refuse (identifiers.length ≠ 2 ∨ identifiers.all (fun value => validClientValue runtime value 1024) = false)
    "Stable unique client identifiers are invalid"

/-- `ScoreAttestation`, without the digests of its evidence. -/
structure ScoreAttestation where
  clientVersion : String
  verificationState : String
  clientFlags : Nat
  checksum : Bytes
  evidence : List (String × String)

/-- `normalize_stable_attestation` of the pending attestation that a parsed score has. -/
def normalizeStableAttestation (form : ScoreForm) (parsed : ParsedStableScore)
    (supportedBuild : String) : ScoreAttestation where
  clientVersion := supportedBuild
  verificationState := "pending"
  clientFlags := parsed.clientFlags
  checksum := parsed.onlineChecksum
  evidence :=
    [("osu_version", form.osuVersion), ("online_checksum", "verified"), ("updated_beatmap_hash", "verified"),
      ("storyboard_hash", if form.storyboardHash.isSome then
        "format_valid_authoritative_match_pending" else "not_supplied"),
        ("client_hash", "format_valid_authoritative_session_match_pending"),
      ("unique_ids", "format_valid_authoritative_session_match_pending")]

structure Principal where
  accountId : Nat
  currentName : String

/-- What the route asks of the rest of the server. The last answer is the decision of the
scoring service. -/
structure ScoreServices where
  supportedBuild : String
  replayMaximum : Nat
  now : Int
  authenticate : String → String → Option Principal
  lookupMd5 : Bytes → Bool
  put : Bytes → Bool
  accept : Principal → ParsedStableScore → ScoreAttestation → Except String Unit

/-- What was stored of an accepted submission, with the checksum that was recomputed for it. -/
structure Accepted where
  attestation : ScoreAttestation
  recomputed : Option Bytes

/-- `submit_score`. A failure is the text of the answer. -/
def submitScore (runtime : ScoreRuntime) (services : ScoreServices) (request : Form) :
    Except String Accepted := do
  let form ← (parseSubmissionForm request).mapError fun _ => "error: no"
  let parsed ← (decryptStableScore runtime form services.supportedBuild).mapError fun _ => "error: no"
  let _ ← (validateSubmissionEvidence runtime form parsed).mapError fun _ => "error: no"
  let principal ← (services.authenticate parsed.username form.passwordToken).elim (.error "error: pass") .ok
  let recomputed ← (verifyStableOnlineChecksum runtime parsed form.osuVersion form.storyboardHash
    (some principal.currentName)).mapError fun _ => "error: no"
  refuse (services.lookupMd5 parsed.beatmapMd5 = false) "error: beatmap"
  refuse (parsed.endedAt < services.now - 30 * 24 * 60 * 60 * 1000 ∨
    services.now + 5 * 60 * 1000 < parsed.endedAt) "error: no"
  refuse (services.replayMaximum < form.replay.length ∨ parsed.outcome = .passed ∧
    form.replay.length < 24) "error: no"
  refuse (parsed.outcome = .passed ∧ services.put form.replay = false) ""
  let attestation := normalizeStableAttestation form parsed services.supportedBuild
  services.accept principal parsed attestation
  return ⟨attestation, recomputed⟩

section

variable {runtime : ScoreRuntime} {services : ScoreServices}

theorem parseSubmissionForm_storyboard (parsed : parseSubmissionForm request = .ok form) :
    optionalFormText request "sbk" 128 = .ok form.storyboardHash := by
  iterate 11 obtain ⟨_, _, parsed⟩ := of_bind_eq_ok parsed
  obtain ⟨storyboard, read, _, _, parsed⟩ := of_bind_bind_eq_ok parsed
  cases parsed
  exact read

theorem optionalFormText_isSome_iff {read : Option String}
    (parsed : optionalFormText form key maximum = .ok read) :
    read.isSome = true ↔ ∃ value, form.get key = some (.text value) ∧ value ≠ "" := by
  unfold optionalFormText at parsed
  split at parsed
  case h_1 missing =>
    cases parsed
    simp [missing]
  case h_2 value found =>
    by_cases empty : value = ""
    · rw [if_pos empty] at parsed
      cases parsed
      simp [found, empty]
    · rw [if_neg empty] at parsed
      split at parsed <;> cases parsed
      simp [found, empty]
  case h_3 => cases parsed

theorem verify_eq_ok
    (verified : verifyStableOnlineChecksum runtime parsed osuVersion storyboardHash username = .ok
      recomputed) :
    recomputed = if storyboardHash.isSome = true then some parsed.onlineChecksum else none := by
  cases storyboardHash with
  | none =>
    cases verified
    rfl
  | some storyboard =>
    obtain ⟨expected, _, _, same, verified⟩ := of_bind_bind_eq_ok verified
    cases verified
    rw [not_not.mp (refuse_eq_ok.mp same)]
    rfl

/-- What an accepted submission went through, as far as its checksum goes. -/
theorem submitScore_eq_ok (ran : submitScore runtime services request = .ok accepted) :
    ∃ form parsed username, parseSubmissionForm request = .ok form ∧
      verifyStableOnlineChecksum runtime parsed form.osuVersion form.storyboardHash username =
      .ok accepted.recomputed ∧
      accepted.attestation = normalizeStableAttestation form parsed services.supportedBuild := by
  obtain ⟨form, read, parsed, _, ran⟩ := of_bind_bind_eq_ok ran
  obtain ⟨_, _, principal, _, ran⟩ := of_bind_bind_eq_ok ran
  obtain ⟨recomputed, verified, ran⟩ := of_bind_eq_ok ran
  iterate 5 obtain ⟨_, _, ran⟩ := of_bind_eq_ok ran
  cases ran
  exact ⟨form, parsed, some principal.currentName, of_mapError_eq_ok read, of_mapError_eq_ok verified, rfl⟩

/-- The attestation of an accepted submission states a verification that took place just
if the submission has a storyboard hash. -/
theorem verified_recomputed_iff (runtime : ScoreRuntime) (services : ScoreServices) (request : Form)
    (accepted : Accepted) (ran : submitScore runtime services request = .ok accepted) :
    (("online_checksum", "verified") ∈ accepted.attestation.evidence →
        accepted.recomputed = some accepted.attestation.checksum) ↔ SuppliesStoryboard request := by
  obtain ⟨form, parsed, username, read, verified, attested⟩ := submitScore_eq_ok ran
  have stated : ("online_checksum", "verified") ∈ accepted.attestation.evidence := by
    rw [attested]
    exact List.mem_cons_of_mem _ List.mem_cons_self
  unfold SuppliesStoryboard
  rw [← optionalFormText_isSome_iff (parseSubmissionForm_storyboard read), verify_eq_ok verified, attested]
  by_cases storyboard : form.storyboardHash.isSome = true
  · rw [if_pos storyboard]
    exact ⟨fun _ => storyboard, fun _ _ => rfl⟩
  rw [if_neg storyboard]
  rw [attested] at stated
  constructor
  · intro sound
    cases sound stated
  · exact fun supplied => absurd supplied storyboard

end

/-- A runtime that encrypts nothing but the score, and whose checksum is the sum of the
letters. -/
def plainRuntime (score : Bytes) : ScoreRuntime where
  letters := plainLetters
  upper := id
  printable _ := true
  decimal := Char.isDigit
  integer := Text.int?
  base64 text := some (text.toList.map fun character => UInt8.ofNat character.toNat)
  decrypt _ _ data := some (if data = [] then score else data)
  utf8 bytes := some (bytes.map fun byte => Char.ofNat byte.toNat)
  readTime _ := some 0
  writeTime _ := "700101000000"
  md5 text := List.replicate 16 (UInt8.ofNat (text.toList.map Char.toNat).sum)

/-- A server with one account that accepts every score. -/
def soleServices : ScoreServices where
  supportedBuild := "b20260101"
  replayMaximum := 1000
  now := 0
  authenticate _ _ := some ⟨1, "alice"⟩
  lookupMd5 _ := true
  put _ := true
  accept _ _ _ := .ok ()

def zeroDigits : String := "00000000000000000000000000000000"

/-- A play of one object with a number of gekis, signed with a repeated pair of digits. -/
def playedScore (geki high low : Char) : Bytes :=
  (List.replicate 32 '0' ++ ":alice:".toList ++ (List.replicate 16 [high, low]).flatten ++
    ":1:0:0:".toList ++ [geki] ++ ":0:0:300:1:True:X:0:True:0:700101000000:20260101:0".toList).map
    fun character => UInt8.ofNat character.toNat

def scoreRequest (storyboard : List (String × FormPart)) : Form :=
  [("score", .text ""), ("score", .upload (List.replicate 24 0)), ("x", .text "0"),
    ("ft", .text "0"), ("st", .text "1000"), ("pass", .text "secret"), ("osuver", .text "20260101"),
    ("s", .text "client"), ("iv", .text "iv"), ("bmk", .text zeroDigits),
    ("c1", .text "first|second")] ++ storyboard

def storyboardPart : List (String × FormPart) := [("sbk", .text zeroDigits)]

/-- The play with a geki, signed with its checksum. -/
def gekiRuntime : ScoreRuntime := plainRuntime (playedScore '1' '2' '5')

/-- A client that counts a geki signs its own counts, and is rejected. -/
theorem geki_rejected : ∃ form parsed, parseSubmissionForm (scoreRequest storyboardPart) = .ok
    form ∧ decryptStableScore gekiRuntime form "b20260101" = .ok parsed ∧ parsed.ruleset = .osu ∧
    parsed.onlineChecksum = gekiRuntime.md5
    (checksumPayload gekiRuntime ⟨1, 0, 0, 1, 0, 0⟩ parsed form.osuVersion
      form.storyboardHash (some "alice")) ∧
    legacyHitCounts parsed.ruleset (hitValues parsed.hits) = some ⟨1, 0, 0, 0, 0, 0⟩ ∧
    (verifyStableOnlineChecksum gekiRuntime parsed form.osuVersion form.storyboardHash
      (some "alice")).toOption = none := by
  have evaluated : (parseSubmissionForm (scoreRequest storyboardPart)).toOption.any (fun form =>
      (decryptStableScore gekiRuntime form "b20260101").toOption.any fun parsed =>
        decide (parsed.ruleset = .osu ∧
          parsed.onlineChecksum = gekiRuntime.md5
          (checksumPayload gekiRuntime ⟨1, 0, 0, 1, 0, 0⟩ parsed form.osuVersion
            form.storyboardHash (some "alice")) ∧
          legacyHitCounts parsed.ruleset (hitValues parsed.hits) = some ⟨1, 0, 0, 0, 0, 0⟩ ∧
          (verifyStableOnlineChecksum gekiRuntime parsed form.osuVersion form.storyboardHash
            (some "alice")).toOption = none)) =
      true := by decide +kernel
  obtain ⟨form, read, opens⟩ := exists_of_any evaluated
  obtain ⟨parsed, opened, facts⟩ := exists_of_any opens
  exact ⟨form, parsed, read, opened, of_decide_eq_true facts⟩

/-- A submission without a storyboard hash is attested as verified, whatever its checksum. -/
theorem unverified_attested :
    ∃ accepted, submitScore (plainRuntime (playedScore '0' '0' '0')) soleServices
      (scoreRequest []) = .ok accepted ∧
      ("online_checksum", "verified") ∈ accepted.attestation.evidence ∧ accepted.recomputed = none := by
  have evaluated : (submitScore (plainRuntime (playedScore '0' '0' '0')) soleServices
    (scoreRequest [])).toOption.any (fun accepted =>
      decide (("online_checksum", "verified") ∈ accepted.attestation.evidence ∧
        accepted.recomputed = none)) = true := by
    decide
  obtain ⟨accepted, ran, facts⟩ := exists_of_any evaluated
  exact ⟨accepted, ran, of_decide_eq_true facts⟩

theorem verified_attested :
    ∃ accepted, submitScore (plainRuntime (playedScore '0' '2' '4')) soleServices
      (scoreRequest storyboardPart) = .ok accepted ∧
      (("online_checksum", "verified") ∈ accepted.attestation.evidence →
        accepted.recomputed = some accepted.attestation.checksum) := by
  have passes : (submitScore (plainRuntime (playedScore '0' '2' '4')) soleServices
    (scoreRequest storyboardPart)).toOption.any
    (fun _ => true) = true := by decide +kernel
  obtain ⟨accepted, ran, _⟩ := exists_of_any passes
  exact ⟨accepted, ran, (verified_recomputed_iff (plainRuntime (playedScore '0' '2' '4'))
    soleServices _ accepted ran).mpr
    ⟨zeroDigits, rfl, by decide⟩⟩

end Perfcho.Stable
