import Perfcho.Foundation.Seating
import Perfcho.Multiplayer.Models

/-! Repair of a projected room from its durable facts: `_state_from_snapshot`
rebuilds a projection, `_reconcile_snapshot` repairs one that is out of date. -/

namespace Perfcho.Multiplayer

open Foundation Scoring

def defaultTeam (room : RoomRecord) : Nat :=
  if room.settings.teamMode = .teamVs ∨ room.settings.teamMode = .tagTeamVs then 1 else 0

def personalMods (room : RoomRecord) (frozenMods : List CanonicalMod) : List CanonicalMod :=
  if room.settings.freeMods then
    frozenMods.filter fun item => item.acronym ∉ room.settings.mods.map (·.acronym)
  else []

/-- The loop of both repairs: each account that has no slot yet takes the next
available position. The iterator raises when no position is left. -/
def seatMissing (room : RoomRecord) (status : SlotStatus) (placed : List Nat) :
    (available accounts : List Nat) → (occupied : List RoomSlot) → Except Failure (List RoomSlot)
  | _, [], occupied => .ok occupied
  | available, account :: accounts, occupied =>
    if account ∈ placed then seatMissing room status placed available accounts occupied
    else match available with
      | [] => .error .stopIteration
      | position :: later => do
        let slot ← RoomSlot.new position status (some account) (defaultTeam room)
        seatMissing room status placed later accounts (occupied ++ [slot])

/-- `occupied.get(position, RoomSlot(position, SlotStatus.OPEN))` -/
def slotAt (occupied : List RoomSlot) (position : Nat) : Except Failure RoomSlot := do
  let vacant ← RoomSlot.new position .open
  return (Seating.seatAt (·.position) occupied position).getD vacant

def fillSlots (capacity : Nat) (occupied : List RoomSlot) : Except Failure (List RoomSlot) :=
  (List.range capacity).mapM (slotAt occupied)

/-- A frozen participant's slot while its round is played. -/
def participantSlot (room : RoomRecord) (participant : RoundParticipantSelection) : Except Failure RoomSlot :=
  RoomSlot.new participant.slotPosition .playing (some participant.accountId) participant.team
    (personalMods room participant.mods)

/-- Build a projection from durable facts alone. -/
def stateFromSnapshot (now stateLifetime : Int) (source : Option DurableRoomSnapshot)
    (degraded : Bool := false) : Except Failure RoomState :=
  match source with
  | none => .error (.matchNotFound "room has no durable snapshot")
  | some snapshot =>
    let room := snapshot.room
    if room.hostAccountId ∉ snapshot.activeAccountIds then
      .error (.matchNotFound "active room has no durable host presence")
    else do
      let playing ← snapshot.roundParticipants.mapM (participantSlot room)
      let available := Seating.freePlaces (playing.map (·.position)) room.capacity
      let status := if snapshot.roundId.isSome then SlotStatus.noBeatmap else .notReady
      let occupied ← seatMissing room status (snapshot.roundParticipants.map (·.accountId))
        available snapshot.activeAccountIds playing
      let slots ← fillSlots room.capacity occupied
      RoomState.new room room.version slots snapshot.roundId.isSome (.aware (now + stateLifetime))
        snapshot.roundId (snapshot.roundParticipants.map (·.accountId)) (if degraded then
        .durableRecovery else .live)

/-- `replace` of a state's revision and projection status, which no check reads. -/
def RoomState.withRevision (state : RoomState) (revision : Nat) :
    RoomState := { state with stateRevision := revision }

def RoomState.withStatus (state : RoomState) (status : ProjectionStatus) : RoomState :=
  { state with projectionStatus := status }

/-- What the repair does up to its compare-and-set: the projection is up to date,
or a new state is to be stored over the one that was read. -/
inductive Reconciled where
  | current (state : RoomState)
  | updated (state : RoomState)

def Reconciled.state : Reconciled → RoomState
  | current state | updated state => state

/-- The slots of a state whose accounts are still present. -/
def retainedSlots (state : RoomState) (snapshot : DurableRoomSnapshot) : List RoomSlot :=
  state.slots.filter fun slot => slot.accountId.any (· ∈ snapshot.activeAccountIds)

/-- Keep the slots of accounts that are still present and seat the others. -/
def retainSlots (state : RoomState) (snapshot : DurableRoomSnapshot) : Except Failure RoomState := do
  let room := snapshot.room
  let retained := retainedSlots state snapshot
  let available := Seating.freePlaces (retained.map (·.position)) room.capacity
  let occupied ← seatMissing room .notReady (accountsOf retained) available snapshot.activeAccountIds retained
  let slots ← fillSlots room.capacity occupied
  RoomState.new room (state.stateRevision + 1) slots state.inProgress state.expiresAt state.roundId
    state.roundParticipantAccountIds .live

/-- `_reconcile_snapshot` before its compare-and-set. The accounts of a state and
of a snapshot have no repeats, so their sets agree when each contains the other. -/
def reconcile (now stateLifetime : Int) (state : RoomState) (snapshot : DurableRoomSnapshot) :
    Except Failure Reconciled :=
  let room := snapshot.room
  let durable := snapshot.activeAccountIds
  let projected := accountsOf state.slots
  let sameEpoch := state.room.roomId = room.roomId ∧ state.room.sessionId = room.sessionId
  if sameEpoch ∧ state.room.version = room.version ∧ (projected ⊆ durable ∧ durable ⊆ projected) ∧
    state.roundId = snapshot.roundId then
    .ok (.current (state.withStatus .live))
  else if sameEpoch ∧ state.roundId = snapshot.roundId then do
    return .updated (← retainSlots state snapshot)
  else do
    let rebuilt ← stateFromSnapshot now stateLifetime (some snapshot)
    return .updated (rebuilt.withRevision (max (state.stateRevision + 1) room.version))

/-- `_reconcile_snapshot`: a failed compare-and-set falls back to a state that is
marked as recovered. `replace` is the projection's own operation. -/
def reconcileSnapshot (replace : RoomState → Nat → Uuid → Except Failure RoomState) (now stateLifetime : Int)
    (state : RoomState) (snapshot : DurableRoomSnapshot) : Except Failure RoomState := do
  match ← reconcile now stateLifetime state snapshot with
  | .current unchanged => return unchanged
  | .updated state' =>
    match replace state' state.stateRevision state.room.sessionId with
    | .ok stored => return stored
    | .error _ => return (← stateFromSnapshot now stateLifetime (some snapshot)).withStatus .durableRecovery

end Perfcho.Multiplayer
