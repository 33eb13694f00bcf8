import Perfcho.Foundation.Action
import Perfcho.Foundation.Table
import Perfcho.Multiplayer.Models

/-! The multiplayer tables with their constraints, and what the commands read from them. -/

namespace Perfcho.Durable

open Foundation Scoring Multiplayer

inductive RoomStatus where
  | pending | open | started | ended | cancelled

/-- The statuses of a room that can be found and joined. -/
def RoomStatus.active : RoomStatus → Bool
  | .open | .started => true
  | _ => false

inductive SessionStatus where
  | pending | active | paused | completed | aborted
  deriving DecidableEq

inductive RoundStatus where
  | pending | inProgress | completed | aborted
  deriving DecidableEq

inductive Admission where
  | active | banned
  deriving DecidableEq

inductive EventType where
  | roomCreated | participantJoined | participantLeft | roomClosed | participantKicked | settingsUpdated
  | hostChanged | passwordChanged | roundStarted | roundCompleted | roundAborted

/-- A room. Its name and configuration are the settings they are read back as; times
are microseconds. -/
structure Room where
  id : Uuid
  publicId : Nat
  publicIdEpoch : Nat
  creatorAccountId : Nat
  passwordVerifier : Option String
  passwordPrefix : Option String
  status : RoomStatus
  capacity : Nat
  startsAt : Option Int
  endsAt : Option Int
  settings : RoomSettings

structure MultiplayerSession where
  id : Uuid
  roomId : Uuid
  ordinal : Nat
  hostAccountId : Option Nat
  protocol : String
  status : SessionStatus
  version : Nat
  createdAt : Int
  endedAt : Option Int

structure RoomParticipant where
  roomId : Uuid
  accountId : Nat
  status : Admission
  lastActivityAt : Int
  bannedAt : Option Int

structure SessionPresence where
  id : Uuid
  sessionId : Uuid
  roomId : Uuid
  accountId : Nat
  connectionSessionId : Uuid
  joinNumber : Nat
  createdAt : Int
  leftAt : Option Int
  leaveReason : Option String

def SessionPresence.current (presence : SessionPresence) : Bool := presence.leftAt.isNone

structure Round where
  id : Uuid
  sessionId : Uuid
  roundNumber : Nat
  status : RoundStatus
  settings : RoomSettings
  createdAt : Int
  startedAt : Option Int
  endedAt : Option Int

structure RoundParticipant where
  roundId : Uuid
  accountId : Nat
  presenceId : Option Uuid
  slotNumber : Option Nat
  teamNumber : Nat
  mods : List CanonicalMod

structure MultiplayerEvent where
  roomId : Uuid
  roomSequence : Nat
  commandId : Uuid
  sessionId : Uuid
  actorAccountId : Nat
  aggregateVersion : Nat
  eventType : EventType

/-- Whether a period that has both ends ends after it starts. -/
def validPeriod (start finish : Option Int) : Bool :=
  match start, finish with
  | some start, some finish => start < finish
  | _, _ => true

def roomConstraints : List (Constraint Room) := [ .unique "pk_room" (fun _ => true) (·.id),
  .check "capacity_range" fun room => 1 ≤ room.capacity && room.capacity ≤ 1024,
  .check "public_id_range" fun room => 1 ≤ room.publicId && room.publicId ≤ 2147483647,
  .check "complete_password_credentials" fun room =>
  room.passwordVerifier.isSome == room.passwordPrefix.isSome,
  .check "valid_period" fun room => validPeriod room.startsAt room.endsAt,
  .unique "uq_room_active_public_id" (·.status.active) (·.publicId),
  .unique "uq_room_public_id_epoch" (fun _ => true) (·.publicIdEpoch)]

def sessionConstraints : List (Constraint MultiplayerSession) :=
  [ .unique "pk_session" (fun _ => true) (·.id),
  .check "positive_ordinal_version" fun session => 0 < session.ordinal,
  .check "valid_period" fun session => validPeriod (some session.createdAt) session.endedAt,
  .unique "uq_session_room_id_ordinal" (fun _ => true) fun session => (session.roomId, session.ordinal)]

def participantConstraints : List (Constraint RoomParticipant) := [
  .unique "pk_room_participant" (fun _ => true) fun participant =>
  (participant.roomId, participant.accountId)]

def presenceConstraints : List (Constraint SessionPresence) :=
  [ .unique "pk_session_presence" (fun _ => true) (·.id),
  .check "positive_join_number" fun presence => 0 < presence.joinNumber,
  .check "valid_period" fun presence => validPeriod (some presence.createdAt) presence.leftAt,
  .unique "uq_session_presence_session_id_account_id_join_number" (fun _ => true) fun presence =>
    (presence.sessionId, presence.accountId, presence.joinNumber),
  .unique "uq_session_presence_current" (·.current) fun presence => (presence.sessionId, presence.accountId),
  .unique "uq_session_presence_account_current" (·.current) (·.accountId)]

def roundConstraints : List (Constraint Round) := [ .unique "pk_round" (fun _ => true) (·.id),
  .check "positive_round_number" fun round => 0 < round.roundNumber,
  .check "valid_period" fun round => validPeriod round.startedAt round.endedAt,
  .unique "uq_round_session_id_round_number" (fun _ => true) fun round => (round.sessionId,
  round.roundNumber), .unique "uq_round_session_active" (·.status = .inProgress) (·.sessionId)]

def roundParticipantConstraints : List (Constraint RoundParticipant) := [
  .unique "pk_round_participant" (fun _ => true) fun participant =>
  (participant.roundId, participant.accountId),
  .check "slot_range" fun participant => participant.slotNumber.all (· ≤ 1023),
  .check "team_range" fun participant => participant.teamNumber ≤ 2,
  .unique "uq_round_participant_slot" (·.slotNumber.isSome) fun participant =>
    (participant.roundId, participant.slotNumber)]

def eventConstraints : List (Constraint MultiplayerEvent) := [
  .check "positive_versions" fun event => 0 < event.roomSequence,
  .unique "uq_event_room_id_room_sequence" (fun _ => true) fun event =>
  (event.roomId, event.roomSequence), .unique "uq_event_command_id" (fun _ => true) (·.commandId),
  .unique "uq_multiplayer_events_room_version" (fun _ => true) fun event =>
    (event.roomId, event.aggregateVersion)]

/-- The committed rows, and the last epoch that the identity column has issued. -/
structure Tables where
  rooms : Table roomConstraints
  sessions : Table sessionConstraints
  participants : Table participantConstraints
  presences : Table presenceConstraints
  rounds : Table roundConstraints
  roundParticipants : Table roundParticipantConstraints
  events : Table eventConstraints
  epochs : Nat

namespace Tables

def empty : Tables where
  rooms := ⟨[], by decide⟩
  sessions := ⟨[], by decide⟩
  participants := ⟨[], by decide⟩
  presences := ⟨[], by decide⟩
  rounds := ⟨[], by decide⟩
  roundParticipants := ⟨[], by decide⟩
  events := ⟨[], by decide⟩
  epochs := 0

variable (tables : Tables)

/-- The active rooms with each of their active sessions. -/
def activeRooms : List (Room × MultiplayerSession) :=
  (tables.rooms.rows.filter (·.status.active)).flatMap fun room =>
    (tables.sessions.rows.filter fun session => session.roomId = room.id ∧
      session.status = .active).map fun session =>
      (room, session)

/-- `_entities`, also the query of `get_room`: the active room of a public identifier
with its latest active session. -/
def entities (publicId : Nat) : Option (Room × MultiplayerSession) :=
  firstBy (fun first second => second.2.ordinal ≤ first.2.ordinal)
    (tables.activeRooms.filter fun found => found.1.publicId = publicId)

def present (sessionId : Uuid) : List SessionPresence :=
  tables.presences.rows.filter fun presence => presence.current && decide (presence.sessionId = sessionId)

def playing (sessionId : Uuid) : List Round :=
  tables.rounds.rows.filter fun round => decide (round.status = .inProgress) &&
    decide (round.sessionId = sessionId)

def activeRoundId (sessionId : Uuid) : Option Uuid := (tables.playing sessionId).head?.map (·.id)

end Tables

/-- The order in which presences are listed: by creation, then by identifier. -/
def SessionPresence.Before (first second : SessionPresence) : Prop :=
  first.createdAt < second.createdAt ∨ first.createdAt = second.createdAt ∧ first.id.number ≤ second.id.number

instance : DecidableRel SessionPresence.Before := fun _ _ => inferInstanceAs (Decidable (_ ∨ _))

/-- `_record` -/
def record (room : Room) (session : MultiplayerSession) : Except Failure RoomRecord :=
  match session.hostAccountId with
  | none => .error (.runtimeError "active multiplayer session has no host")
  | some host => RoomRecord.new room.id room.publicId session.id session.version
    room.creatorAccountId host room.capacity room.settings room.passwordVerifier.isSome
    room.passwordPrefix room.passwordVerifier room.publicIdEpoch

namespace Tables

variable (tables : Tables)

def getRoom (publicId : Nat) : Except Failure (Option RoomRecord) :=
  match tables.entities publicId with
  | none => .ok none
  | some (room, session) => do
    let found ← record room session
    return some found

/-- The current presences of an account in active sessions, the latest first. -/
def findRoomForAccount (account : Nat) : Except Failure (Option RoomRecord) :=
  let presences := tables.presences.rows.filter fun presence => presence.current &&
    decide (presence.accountId = account)
  let found := presences.flatMap fun presence =>
    (tables.activeRooms.filter fun entry => entry.2.id = presence.sessionId ∧
      entry.1.id = presence.roomId).map fun entry =>
      (presence, entry)
  match firstBy (fun first second => second.1.createdAt ≤ first.1.createdAt) found with
  | none => .ok none
  | some (_, room, session) => do
    let found ← record room session
    return some found

/-- `_room_for_command`: by the public identifier of the room that the command changed. -/
def findCommandRoom (commandId : Uuid) : Except Failure (Option RoomRecord) :=
  match tables.events.rows.find? (·.commandId = commandId) with
  | none => .ok none
  | some event =>
    match tables.rooms.rows.find? (·.id = event.roomId) with
    | none => .ok none
    | some room => tables.getRoom room.publicId

def commandApplied (commandId : Uuid) : Bool := tables.events.rows.any (·.commandId = commandId)

/-- Current accounts in the order they joined, the host first. -/
def listParticipantAccountIds (room : RoomRecord) : List Nat :=
  let accounts := ((tables.present room.sessionId).insertionSort SessionPresence.Before).map (·.accountId)
  if room.hostAccountId ∈ accounts then
    room.hostAccountId :: accounts.filter (· ≠ room.hostAccountId) else accounts

def roundSelections (roundId : Uuid) (accounts : List Nat) :
    Except Failure (List RoundParticipantSelection) :=
  let rows := tables.roundParticipants.rows.filter fun row => row.roundId = roundId ∧ row.accountId ∈ accounts
  let ordered := rows.insertionSort fun first second => first.slotNumber.getD 0 < second.slotNumber.getD 0 ∨
    first.slotNumber.getD 0 = second.slotNumber.getD 0 ∧ first.accountId ≤ second.accountId
  ordered.filterMap (fun row => row.slotNumber.map fun slot => (row, slot)) |>.mapM fun (row, slot) =>
    RoundParticipantSelection.new row.accountId slot row.teamNumber row.mods

def loadSnapshot (room : RoomRecord) : Except Failure DurableRoomSnapshot := do
  match ← tables.getRoom room.publicId with
  | none => .error (.matchNotFound "room is not active")
  | some durable =>
    if durable.sessionId ≠ room.sessionId then .error (.matchNotFound "room is not active")
    else
      let accounts := tables.listParticipantAccountIds durable
      match firstBy (fun first second => second.roundNumber ≤ first.roundNumber)
        (tables.playing durable.sessionId) with
      | none => DurableRoomSnapshot.new durable accounts
      | some round => do
        let participants ← tables.roundSelections round.id accounts
        DurableRoomSnapshot.new durable accounts (some round.id) participants

end Tables

end Perfcho.Durable
