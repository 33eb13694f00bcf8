import Perfcho.Multiplayer.Projection
import Perfcho.Multiplayer.Reconcile

/-! The states that a committed command leaves in the projection: what `update_settings`,
`change_host`, `change_password`, `start_round` and `complete_round` make of the state
they have read and of the record they have committed. -/

namespace Perfcho.Multiplayer

open Foundation Scoring RoomSlot

/-- The check and the order of a list of mods, or the reason for which it is refused. -/
abbrev NormalizeMods := Ruleset → ScoreboardVariant → List CanonicalMod → Except String (List CanonicalMod)

def speedMods : List String := ["DT", "NC", "HT"]

def isSpeedMod (item : CanonicalMod) : Bool := item.acronym ∈ speedMods

def stateRejected (result : Except String α) : Except Failure α := result.mapError .matchStateRejected

/-- `_normalized_settings` -/
def normalizedSettings (normalizeMods : NormalizeMods) (settings : RoomSettings) :
    Except Failure RoomSettings := do
  let mods ← stateRejected (normalizeMods settings.ruleset settings.variant settings.mods)
  return { settings with mods }

/-- A change of the slots that somebody occupies. -/
def mapOccupied (change : RoomSlot → Except Failure RoomSlot) (slots : List RoomSlot) :
    Except Failure (List RoomSlot) :=
  slots.mapM fun slot => if slot.accountId.isSome then change slot else .ok slot

def RoomSlot.withTeam (team : Nat) (slot : RoomSlot) : Except Failure RoomSlot :=
  new slot.position slot.status slot.accountId team slot.mods slot.loaded slot.skipped slot.failed

def RoomSlot.withMods (mods : List CanonicalMod) (slot : RoomSlot) : Except Failure RoomSlot :=
  new slot.position slot.status slot.accountId slot.team mods slot.loaded slot.skipped slot.failed

/-- `replace(slot, status=status, loaded=False, skipped=False, failed=False)` -/
def RoomSlot.restarted (status : SlotStatus) (slot : RoomSlot) : Except Failure RoomSlot :=
  new slot.position status slot.accountId slot.team slot.mods false false false

/-- `_settings_transition`: the settings to store and the slots that go with them. -/
def settingsTransition (normalizeMods : NormalizeMods) (state : RoomState)
    (requested : RoomSettings) : Except Failure (RoomSettings × List RoomSlot) := do
  let settings ← normalizedSettings normalizeMods requested
  let current := state.room.settings
  let slots ← if current.teamMode ≠ settings.teamMode then
      mapOccupied (withTeam (defaultTeam { state.room with settings })) state.slots
    else .ok state.slots
  if !current.freeMods && settings.freeMods then
    let slots ← mapOccupied (withMods (current.mods.filter (!isSpeedMod ·))) slots
    return ({ settings with mods := settings.mods.filter isSpeedMod }, slots)
  else if current.freeMods && !settings.freeMods then
    let hostMods := ((state.slotFor state.room.hostAccountId).map (·.mods)).getD []
    let mods ← stateRejected
      (normalizeMods settings.ruleset settings.variant (settings.mods.filter isSpeedMod ++ hostMods))
    let slots ← mapOccupied (withMods []) slots
    return ({ settings with mods }, slots)
  else return (settings, slots)

section

variable (current : RoomState) (room : RoomRecord)

/-- After `update_settings`: nobody is ready and no round is played. -/
def settingsUpdated (expiresAt : Datetime) (transitioned : List RoomSlot) : Except Failure RoomState := do
  let slots ← mapOccupied (restarted .notReady) transitioned
  RoomState.new room (current.stateRevision + 1) slots false expiresAt none [] current.projectionStatus

/-- After `change_host` and `change_password`. -/
def recordChanged : Except Failure RoomState :=
  current.replaced room (current.stateRevision + 1) current.slots current.expiresAt

/-- Who plays a round that starts: everybody with the beatmap. -/
def plays (slot : RoomSlot) : Bool := slot.accountId.isSome && slot.status ≠ .noBeatmap

def selections : Except Failure (List RoundParticipantSelection) :=
  (current.slots.filter plays).mapM fun slot =>
    RoundParticipantSelection.new (slot.accountId.getD 0) slot.position slot.team slot.mods

/-- After `start_round`. -/
def roundStarted (roundId : Option Uuid) (participants : List RoundParticipantSelection) :
    Except Failure RoomState := do
  let slots ← current.slots.mapM fun slot => if plays slot then slot.restarted .playing else .ok slot
  RoomState.new room (current.stateRevision + 1) slots true current.expiresAt roundId
    (participants.map (·.accountId)) current.projectionStatus

/-- After `complete_round`. -/
def roundCompleted : Except Failure RoomState := do
  let slots ← current.slots.mapM fun slot =>
    if slot.accountId.any (· ∈ current.roundParticipantAccountIds) then slot.restarted .notReady else .ok slot
  RoomState.new room (current.stateRevision + 1) slots false current.expiresAt none []
    current.projectionStatus

end

end Perfcho.Multiplayer
