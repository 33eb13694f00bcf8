import Perfcho.Stable.RoundTrip
import Perfcho.Stable.ScoreUpload

/-! The digest that identifies a submission. Every field is framed by the length
of its name and of its value, so what is hashed can be read back. -/

namespace Perfcho.Stable

open Foundation PacketWriter

def bigEndian (width number : Nat) : Bytes := (LittleEndian.encode width number).reverse

theorem bigEndian_injective (small : number < 256 ^ width) (low : other < 256 ^ width)
    (same : bigEndian width number = bigEndian width other) : number = other := by
  have decoded := congrArg LittleEndian.decode (List.reverse_injective same)
  rwa [LittleEndian.decode_encode, LittleEndian.decode_encode, Nat.mod_eq_of_lt small,
    Nat.mod_eq_of_lt low] at decoded

def hashedFields (form : ScoreForm) (replayDigest : Bytes) : List (String × Bytes) :=
  [("score", encodeUtf8 form.encryptedScore), ("replay_sha256", replayDigest),
    ("x", encodeUtf8 (toString form.exited.toNat)), ("ft", encodeUtf8 (toString form.failTime)),
    ("st", encodeUtf8 (toString form.scoreTime)), ("pass", encodeUtf8 form.passwordToken),
    ("osuver", encodeUtf8 form.osuVersion), ("s", encodeUtf8 form.encryptedClientHash),
    ("iv", encodeUtf8 form.iv), ("bmk", encodeUtf8 form.updatedBeatmapHash),
    ("sbk", encodeUtf8 (form.storyboardHash.getD "")), ("c1", encodeUtf8 form.uniqueIds)]

def framedField (field : String × Bytes) : Bytes :=
  bigEndian 2 (encodeUtf8 field.1).length ++ encodeUtf8 field.1 ++ bigEndian 8 field.2.length ++ field.2

/-- `stable_submission_digest`. A value whose length does not fit its frame is an
error. -/
def stableSubmissionDigest (sha256 : Bytes → Digest) (form : ScoreForm) (replayDigest : Bytes) :
    Option Digest :=
  let fields := hashedFields form replayDigest
  if ∀ field ∈ fields, field.2.length < 256 ^ 8 then some (sha256 (fields.flatMap framedField)) else none

/-- Fields under the same names are told apart by what is hashed of them. -/
theorem framedFields_injective {first second : List (String × Bytes)}
    (names : first.map Prod.fst = second.map Prod.fst)
    (small : ∀ field ∈ first, field.2.length < 256 ^ 8) (low : ∀ field ∈ second, field.2.length < 256 ^ 8)
    (same : first.flatMap framedField = second.flatMap framedField) : first = second := by
  induction first generalizing second with
  | nil => exact (List.map_eq_nil_iff.mp names.symm).symm
  | cons field rest ih =>
    obtain _ | ⟨⟨name, value⟩, others⟩ := second
    · cases names
    obtain ⟨rfl, tail⟩ := List.cons.inj names
    simp only [List.flatMap_cons, framedField, List.append_assoc, List.append_cancel_left_eq] at same
    obtain ⟨length, same⟩ := List.append_inj same (by simp [bigEndian])
    have sizes := bigEndian_injective (small field (by simp)) (low (field.1, value) (by simp)) length
    obtain ⟨values, same⟩ := List.append_inj same sizes
    rw [ih tail (fun _ member => small _ (by simp [member])) (fun _ member =>
      low _ (by simp [member])) same, ← values]

theorem encodeUtf8_injective (same : encodeUtf8 text = encodeUtf8 other) : text = other :=
  Option.some.inj (by rw [← decodeUtf8_encodeUtf8, same, decodeUtf8_encodeUtf8])

/-- A storyboard hash that was parsed is not empty, so it is told apart from a missing one. -/
theorem parseSubmissionForm_storyboard_ne (parsed : parseSubmissionForm request = .ok form) :
    form.storyboardHash ≠ some "" := by
  have read := parseSubmissionForm_storyboard parsed
  intro empty
  rw [empty, optionalFormText] at read
  split at read
  · cases read
  · split at read
    · cases read
    · rename_i filled
      split at read <;> cases read
      exact filled rfl
  · cases read

theorem filled_injective {text other : Option String} (filled : text ≠ some "")
    (filledOther : other ≠ some "") (same : text.getD "" = other.getD "") : text = other := by
  cases text <;> cases other <;> simp_all

/-- Parsed forms whose digests are equal agree on every hashed field, and their
replays have the same digest. -/
theorem stableSubmissionDigest_injective {sha256 : Bytes → Digest} (collisionFree : Function.Injective sha256)
    (parsed : parseSubmissionForm request = .ok form)
    (parsedOther : parseSubmissionForm otherRequest = .ok other)
    (hashed : stableSubmissionDigest sha256 form replayDigest = some digest)
    (hashedOther : stableSubmissionDigest sha256 other otherDigest = some digest) :
    replayDigest = otherDigest ∧ form = { other with replay := form.replay } := by
  obtain ⟨small, stated⟩ := Option.ite_none_right_eq_some.mp hashed
  obtain ⟨low, same⟩ := Option.ite_none_right_eq_some.mp hashedOther
  have names : (hashedFields form replayDigest).map Prod.fst =
    (hashedFields other otherDigest).map Prod.fst := rfl
  have fields := framedFields_injective names small low
    (collisionFree (Option.some.inj (stated.trans same.symm)))
  simp only [hashedFields, List.cons.injEq, Prod.mk.injEq, true_and, and_true] at fields
  obtain ⟨score, replays, exited, failTime, scoreTime, token, version, clientHash, iv, beatmap,
    storyboard, ids⟩ := fields
  have number {first second : Nat}
    (same : encodeUtf8 (toString first) = encodeUtf8 (toString second)) : first = second :=
    Text.toString_injective (encodeUtf8_injective same)
  have flag : form.exited = other.exited := by
    have flags := number exited
    revert flags
    cases form.exited <;> cases other.exited <;> decide
  have hash := filled_injective (parseSubmissionForm_storyboard_ne parsed)
    (parseSubmissionForm_storyboard_ne parsedOther) (encodeUtf8_injective storyboard)
  refine ⟨replays, ?_⟩
  cases form
  cases other
  rw [ScoreForm.mk.injEq]
  exact ⟨encodeUtf8_injective score, rfl, flag, number failTime, number scoreTime,
    encodeUtf8_injective token, encodeUtf8_injective version, encodeUtf8_injective clientHash,
    encodeUtf8_injective iv, encodeUtf8_injective beatmap, hash, encodeUtf8_injective ids⟩

/-- Two requests that write the same flag in different ways have one digest. -/
theorem stableSubmissionDigest_flag : ∃ form other digest,
    parseSubmissionForm (scoreRequest storyboardPart) = .ok form ∧
      parseSubmissionForm (scoreRequest storyboardPart ++ [("x", .text "False")]) = .ok other ∧
      stableSubmissionDigest id form [1] = some digest ∧ stableSubmissionDigest id other [1] =
      some digest ∧ form = { other with replay := form.replay } := by
  have evaluated : (parseSubmissionForm (scoreRequest storyboardPart)).toOption.any (fun form =>
      (parseSubmissionForm (scoreRequest storyboardPart ++ [("x", .text "False")])).toOption.any fun other =>
        (stableSubmissionDigest id form [1]).any fun digest => stableSubmissionDigest id other [1] =
          some digest) = true := by
    decide +kernel
  obtain ⟨form, parsed, reads⟩ := exists_of_any evaluated
  obtain ⟨other, parsedOther, hashes⟩ := exists_of_any reads
  obtain ⟨digest, hashed, same⟩ := (Option.any_eq_true _ _).mp hashes
  have hashedOther := of_decide_eq_true same
  exact ⟨form, other, digest, parsed, parsedOther, hashed, hashedOther,
    (stableSubmissionDigest_injective Function.injective_id parsed parsedOther hashed hashedOther).2⟩

end Perfcho.Stable
