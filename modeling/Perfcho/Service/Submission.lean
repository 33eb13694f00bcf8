import Perfcho.Scoring.Normalization
import Perfcho.Service.FreeMods

/-! The mods of a score that is submitted for a round. The room is normalized with its
variant, the score without one, and the validator compares what is left of both. -/

namespace Perfcho.Service

open Foundation Scoring Multiplayer Durable Redis
open CanonicalMod (asJson)

variable {Blob : Type}

/-- The exceptions of a score submission. -/
inductive SubmissionFailure where
  | scoreRejected (message : String)
  | multiplayerContextRejected (message : String)
  deriving DecidableEq

/-- What a playlist revision says of the scores of its rounds. -/
structure PlaylistRevision where
  ruleset : Ruleset
  requiredModsDetails : List Json
  requiredModsDigest : Vector UInt8 32

section

variable (digest : List Json → Vector UInt8 32)

/-- The playlist revision of `_create_round`. -/
def playlistRevision (settings : RoomSettings) : Except String PlaylistRevision := do
  let normalizedDetails ← canonicalModsDetails settings.mods
  let details := if settings.freeMods then [] else normalizedDetails.map asJson
  return ⟨settings.ruleset, details, digest details⟩

/-- `_submission_dimensions`: the mods expected of a participant, as details and digest. -/
def submissionMods (revision : PlaylistRevision) (row : RoundParticipant) : List Json × Vector UInt8 32 :=
  let details := row.mods.map asJson
  -- The stored digest has 32 bytes, so there is no falling back on the required one.
  (if details.isEmpty then revision.requiredModsDetails else details, digest details)

/-- The comparisons of `validate` with the frozen dimensions. -/
def validateDimensions (revision : PlaylistRevision) (row : RoundParticipant) (ruleset : Ruleset)
    (mods : List CanonicalMod) : Except SubmissionFailure Unit :=
  let details := mods.map asJson
  let (expectedDetails, expectedDigest) := submissionMods digest revision row
  if revision.ruleset ≠ ruleset then
    .error (.multiplayerContextRejected "multiplayer attempt dimensions do not match the score")
  else if expectedDetails ≠ details ∨ expectedDigest ≠ digest details then
    .error (.multiplayerContextRejected "multiplayer attempt mods do not match the score")
  else .ok ()

/-- The mods of a score on their way through `submit_score`. -/
def submitMods (revision : PlaylistRevision) (row : RoundParticipant) (ruleset : Ruleset)
    (mods : List CanonicalMod) : Except SubmissionFailure Unit := do
  let normalized ← (normalizeSubmittedMods ruleset mods).mapError .scoreRejected
  validateDimensions digest revision row ruleset normalized

end

/-- The mods of a score that was played with what has been selected: the mods of the room,
with free mods also those of the slot, and the assistance that the variant stands for. -/
def Played (settings : RoomSettings) (participant : RoundParticipantSelection)
    (mods : List CanonicalMod) : Prop :=
  ∃ assistance : List CanonicalMod, assistance.map (·.acronym) = settings.variant.assistance.toList ∧
    mods.Perm (participantMods settings participant ++ assistance)

section

variable {digest : List Json → Vector UInt8 32} {settings : RoomSettings}
  {participant : RoundParticipantSelection}
variable {row : RoundParticipant} {revision : PlaylistRevision} {mods : List CanonicalMod}

theorem asJson_injective : Function.Injective asJson := by
  rintro ⟨acronym, fields, _, _⟩ ⟨acronym', fields', _, _⟩ same
  simp only [asJson, Json.object.injEq, List.cons.injEq, Prod.mk.injEq, Json.str.injEq, true_and] at same
  obtain ⟨rfl, same⟩ := same
  cases fields <;> cases fields' <;> simp_all

/-- A participant without mods falls back on the required ones, of which there are none. -/
theorem submissionMods_eq (frozen : Freezes settings roundId participant row)
    (revised : playlistRevision digest settings = .ok revision) :
    revision.ruleset = settings.ruleset ∧
      submissionMods digest revision row = (row.mods.map asJson, digest (row.mods.map asJson)) := by
  obtain ⟨details, normalized, made⟩ := of_bind_eq_ok revised
  cases made
  refine ⟨rfl, ?_⟩
  have fallback : row.mods = [] → (if settings.freeMods then [] else details.map asJson) = [] := by
    intro none
    split
    · rfl
    · next off =>
      have same := frozen.mods
      rw [participantMods, if_neg off, normalized, none] at same
      rw [Except.ok.inj same]
      rfl
  cases kept : row.mods with
  | nil => simp [submissionMods, kept, fallback kept]
  | cons first rest => simp [submissionMods, kept]

theorem submitMods_iff (unaided : Unaided (participantMods settings participant))
    (frozen : Freezes settings roundId participant row)
    (revised : playlistRevision digest settings = .ok revision)
    (played : Played settings participant mods) :
    submitMods digest revision row settings.ruleset mods = .ok () ↔
      settings.variant = .vanilla ∧ Combinable settings.ruleset (participantMods settings participant) := by
  obtain ⟨ruleset, expected⟩ := submissionMods_eq frozen revised
  obtain ⟨assistance, assists, same⟩ := played
  have members : ∀ item, item ∈ row.mods ↔ item ∈ participantMods settings participant :=
    fun item => mem_canonicalModsDetails frozen.mods
  constructor
  · intro accepted
    obtain ⟨normalized, passes, compared⟩ := of_bind_eq_ok accepted
    obtain ⟨combinable, sorted, _⟩ := normalizeSubmittedMods_eq_ok (of_mapError_eq_ok passes)
    have equal : row.mods = normalized := by
      rw [validateDimensions, expected] at compared
      dsimp only at compared
      split at compared
      · cases compared
      split at compared
      · cases compared
      · next alike =>
        rw [not_or, not_not] at alike
        exact asJson_injective.list_map alike.1
    -- An assistance that was played would have been frozen.
    have none : assistance = [] := by
      rw [List.eq_nil_iff_forall_not_mem]
      intro item member
      have stored : item ∈ participantMods settings participant := by
        rw [← members, equal, sorted, mem_sortMods, same.mem_iff]
        exact List.mem_append_right _ member
      have named : item.acronym ∈ settings.variant.assistance.toList := assists ▸ List.mem_map_of_mem member
      apply (unaided item stored).1
      cases variant : settings.variant <;> simp_all [ScoreboardVariant.assistance, assistanceMods]
    rw [none] at assists same
    constructor
    · cases variant : settings.variant <;> simp_all [ScoreboardVariant.assistance]
    · rw [List.append_nil] at same
      exact combinable.perm same
  · rintro ⟨vanilla, combinable⟩
    rw [vanilla] at assists
    rw [List.map_eq_nil_iff.mp assists, List.append_nil] at same
    obtain ⟨unique, checked, _⟩ := of_bind_eq_ok frozen.mods
    have distinct : (mods.map (·.acronym)).Nodup :=
      (same.map _).nodup_iff.mpr (canonicalModsByAcronym_ok_iff.mp checked).2.1
    have normal : normalizeSubmittedMods settings.ruleset mods = .ok (sortMods mods) :=
      normalizeSubmittedMods_ok distinct (fun item member => unaided item (same.mem_iff.mp member))
        (combinable.perm same.symm)
    have equal : sortMods mods = row.mods := by
      apply (normalized_sortMods distinct).ext (normalized_canonicalModsDetails frozen.mods)
      intro item
      rw [mem_sortMods, members, same.mem_iff]
    rw [submitMods, normal, equal]
    change validateDimensions digest revision row settings.ruleset row.mods = _
    rw [validateDimensions, expected]
    simp [ruleset]

end

section

variable {service : MultiplayerService Blob} {permitted : World Blob → Call → Prop}
  {waits : World Blob → Int → Prop}
variable {world : World Blob} {state : RoomState}

/-- Nobody's mods are an assistance. -/
def unaidedLaw : Law where
  settings settings := Unaided settings.mods
  state state := ∀ slot ∈ state.slots, Unaided slot.mods
  row _ row := Unaided row.mods

theorem unaided_participantMods (room : Unaided settings.mods) (own : Unaided participant.mods) :
    Unaided (participantMods settings participant) := by
  unfold participantMods
  split
  · intro item member
    rcases List.mem_append.mp (mem_of_mem_mergeMods member) with shared | personal
    · exact room item shared
    · exact own item personal
  · exact room

theorem Rebuilt.unaided (rebuilt : Rebuilt snapshot state) (current : Current tables snapshot)
    (paced : Paced tables) (rows : RowsFit unaidedLaw.row tables) :
    ∀ slot ∈ state.slots, Unaided slot.mods := by
  refine Rebuilt.each rebuilt current paced rows ?_ ?_ ?_
  · exact fun slot _ bare => bare ▸ unaided_nil
  · exact fun slot _ bare => bare ▸ unaided_nil
  · intro slot row fits _ _ mods
    exact mods ▸ Unaided.subset fits fun item own => (mem_personalMods own).1

theorem Edited.unaided (composed : service.normalizeMods = normalizeMods)
    (edited : Edited mutation state updated) (asked : Asked service state mutation)
    (unaided : ∀ slot ∈ state.slots, Unaided slot.mods) : ∀ slot ∈ updated.slots, Unaided slot.mods := by
  intro slot member
  cases edited.came slot member with
  | kept member => exact unaided slot member
  | seated _ _ _ _ _ bare => exact bare ▸ unaided_nil
  | vacant _ bare =>
    rcases bare with bare | ⟨old, there, _, same⟩
    · exact bare ▸ unaided_nil
    · exact same ▸ unaided old there
  | altered member _ alters =>
    have before := unaided _ member
    cases mutation with
    | setSlotMods account mods =>
      obtain ⟨_, _, _, chosen⟩ := alters
      obtain ⟨_, _, _, requested, normal⟩ := asked
      rw [composed] at normal
      exact chosen ▸ normalizeMods_unaided normal
    | setSlotStatus | setSlotTeam | moveSlot | markLoaded | markSkipped => exact alters.2.2.2 ▸ before
    | markFailed => exact alters.2.2.2.2 ▸ before
    | join | leave | lockSlot => exact alters.elim

theorem Transit.unaided {record : RoomRecord}
    (transit : Transit service state record active command next) (room : Unaided state.room.settings.mods)
    (unaided : ∀ slot ∈ state.slots, Unaided slot.mods) : ∀ slot ∈ next.slots, Unaided slot.mods := by
  intro next member
  rcases transit.turned.came next member with ⟨_, there⟩ | ⟨slot, there, _, _, _, remodded⟩
  · exact unaided next there
  rcases remodded with ⟨_, mods⟩ | ⟨_, _, mods⟩ | ⟨_, _, mods⟩
  · exact mods ▸ unaided slot there
  · exact mods ▸ room.subset List.filter_sublist.subset
  · exact mods ▸ unaided_nil

theorem unaidedLaw_keeps (composed : service.normalizeMods = normalizeMods) :
    unaidedLaw.Keeps service permitted where
  alike same unaided := by
    intro slot member
    exact unaided slot (same.slots ▸ member)
  opens := by
    rintro world moment request _ ⟨requested, checked⟩
    obtain ⟨mods, normal, made⟩ := of_bind_eq_ok checked
    rw [composed] at normal
    rw [← Except.ok.inj made]
    exact normalizeMods_unaided (of_mapError_eq_ok normal)
  settles := by
    intro world moment commandId actor version settings requested room session state slots _ _ _ checked _
    obtain ⟨_, _, _, mods, normal, inside⟩ := settingsTransition_mods checked
    rw [composed] at normal
    exact (normalizeMods_unaided normal).subset inside
  rebuilt facts current paced rows := Rebuilt.unaided facts current paced rows
  retained _ _ _ _ retained unaided := by
    intro slot member
    cases retained.laid slot member with
    | kept member => exact unaided slot (List.mem_filter.mp member).1
    | seat _ _ _ _ _ bare | vacant _ bare => exact bare ▸ unaided_nil
  edited _ _ _ _ asked edited unaided := Edited.unaided composed edited asked unaided
  transit _ transit _ room unaided := Transit.unaided transit room unaided
  freezes := by
    intro state participants participant roundId row room unaided selected member frozen item inside
    obtain ⟨slot, there, _, _, _, _, mods⟩ := mem_selections selected member
    apply unaided_participantMods room (mods ▸ unaided slot there) item
    exact (mem_canonicalModsDetails frozen.mods).mp inside

/-- In every run, the score of a participant who has played with the selected mods of a
round is accepted if the room has no assistance and those mods can be combined. -/
theorem played_accepted_iff (digest : List Json → Vector UInt8 32)
    (composed : service.normalizeMods = normalizeMods)
    (runs : Runs service permitted waits (.empty clock) world) {room : Nat}
    {participants : List RoundParticipantSelection} {participant : RoundParticipantSelection}
    {row : RoundParticipant} {revision : PlaylistRevision} {mods : List CanonicalMod}
    (shown : Shown service permitted world room state)
    (selected : selections state = .ok participants) (member : participant ∈ participants)
    (frozen : Freezes state.room.settings roundId participant row)
    (revised : playlistRevision digest state.room.settings = .ok revision)
    (played : Played state.room.settings participant mods) :
    submitMods digest revision row state.room.settings.ruleset mods = .ok () ↔
      state.room.settings.variant = .vanilla ∧
      Combinable state.room.settings.ruleset (participantMods state.room.settings participant) := by
  have keeps : unaidedLaw.Keeps service permitted := unaidedLaw_keeps composed
  obtain ⟨unaided, made, standing, _, settings⟩ := (keeps.runs runs).shown keeps shown
  have room := (keeps.runs runs).standing standing
  obtain ⟨slot, there, _, _, _, _, same⟩ := mem_selections selected member
  apply submitMods_iff (unaided_participantMods (settings ▸ room) (same ▸ unaided slot there))
    frozen revised played

end

theorem relax_matched : acronymMatches "RX" = true := by decide

def relax : CanonicalMod := ⟨"RX", [], relax_matched, unset_frozen⟩

/-- A service that normalizes mods as the code does. -/
def normalizingService : MultiplayerService RoomState := { plainService with normalizeMods }

def sampleDigest (_ : List Json) : Vector UInt8 32 := Vector.replicate 32 7

/-- A room is opened with the given settings, and the host starts a round. -/
def startedRequests (settings : RoomSettings) : List Request :=
  [sampleOpening settings 2, .startRound (sampleOrigin 1 "start" 9) 1 1 (sampleKey 31)]

/-- What becomes of a score of the host for the round that is played: the frozen mods, and
the answer. -/
def submitted (mods : List CanonicalMod) (world : World RoomState) :
    Option (List String × Except SubmissionFailure Unit) :=
  match world.tables.rounds.rows, world.tables.roundParticipants.rows with
  | [round], [row] =>
    match playlistRevision sampleDigest round.settings with
    | .ok revision => some (row.mods.map (·.acronym),
        submitMods sampleDigest revision row round.settings.ruleset mods)
    | .error _ => none
  | _, _ => none

def relaxWorld : World RoomState :=
  (startedRequests { sampleSettings with variant := .relax, mods := [relax, hidden] }).foldl
    (serve normalizingService) (.empty 0)

/-- A relax round is frozen without its assistance, and a score with it is rejected. -/
theorem relax_rejected :
    Reached normalizingService relaxWorld ∧ submitted
    [hidden, relax] relaxWorld =
    some (["HD"], .error (.multiplayerContextRejected "multiplayer attempt mods do not match the score")) :=
  ⟨.serve ⟨0, .refl⟩ _, by decide +kernel⟩

def hiddenWorld : World RoomState := serve normalizingService (.empty 0)
    (sampleOpening { sampleSettings with mods := [hidden] } 2)

/-- Whether the first participant of a room that is in step plays with the hidden mod only. -/
def hiddenTest (world : World RoomState) : Bool :=
  match content plainRepo 1 world.store, loaded world.tables (world.tables.getRoom 1) with
  | some state, .ok (some before) =>
    match selections state with
    | .ok (participant :: _) =>
      match canonicalModsDetails (participantMods state.room.settings participant),
        playlistRevision sampleDigest state.room.settings with
      | .ok _, .ok _ =>
        (state.room.sessionId = before.room.sessionId ∧ state.room.version = before.room.version ∧
          state.roundId = before.roundId ∧ accountsOf state.slots ⊆ before.activeAccountIds ∧
          before.room.publicId = 1 ∧ state.room.settings.variant = .vanilla ∧
          participantMods state.room.settings participant = [hidden])
      | _, _ => false
    | _ => false
  | _, _ => false

theorem hidden_combinable (ruleset : Ruleset) : Combinable ruleset [hidden] :=
  ⟨by decide, fun _ => by decide, by decide⟩

theorem hidden_accepted : ∃ state participants participant row revision,
    Shown normalizingService (fun _ _ => True) hiddenWorld 1 state ∧ selections state = .ok participants ∧
    participant ∈ participants ∧ Freezes state.room.settings (sampleKey 31) participant row ∧
    playlistRevision sampleDigest state.room.settings = .ok revision ∧
    submitMods sampleDigest revision row state.room.settings.ruleset [hidden] = .ok () := by
  have passed : hiddenTest hiddenWorld = true := by decide +kernel
  have reached : Reached normalizingService hiddenWorld := .serve ⟨0, .refl⟩ [_]
  generalize hiddenWorld = world at *
  unfold hiddenTest at passed
  split at passed
  case h_2 => cases passed
  next state before found loads =>
  split at passed
  case h_2 => cases passed
  next participant rest selected =>
  split at passed
  case h_2 => cases passed
  next details revision normalized revised =>
  obtain ⟨session, version, round, inside, keyed, vanilla, only⟩ := of_decide_eq_true passed
  obtain ⟨_, _, ran⟩ := loaded_eq_ok loads
  have shown : Shown normalizingService (fun _ _ => True) world 1 state :=
    .projected ⟨_, ran⟩ keyed (reached.kept.holds found) ⟨session, version, round, fun _ seated =>
      inside seated⟩
  have frozen : Freezes state.room.settings (sampleKey 31) participant
    ⟨sampleKey 31, participant.accountId, none, some participant.slotPosition, participant.team, details⟩ :=
    ⟨rfl, rfl, rfl, rfl, normalized⟩
  have played : Played state.room.settings participant [hidden] := by
    refine ⟨[], by simp [vanilla, ScoreboardVariant.assistance], ?_⟩
    rw [only, List.append_nil]
  obtain ⟨_, runs⟩ := reached
  have accepted := played_accepted_iff sampleDigest rfl runs shown selected List.mem_cons_self
    frozen revised played
  refine ⟨state, _, participant, _, revision, shown, selected, List.mem_cons_self, frozen, revised,
    accepted.mpr ⟨vanilla, ?_⟩⟩
  rw [only]
  exact hidden_combinable _

end Perfcho.Service
