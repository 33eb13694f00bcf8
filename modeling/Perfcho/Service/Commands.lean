import Perfcho.Service.World

/-! The service methods as programs: each commits its transaction, and then brings the
projection up to date as well as it can. -/

namespace Perfcho.Service

open Foundation Scoring Multiplayer Durable Method Program

/-- Who sends a command and by what it is recognised, with the time of its transaction. -/
structure CommandMeta where
  accountId : Nat
  authSessionId : Uuid
  idempotencyKey : String
  family : String
  moment : Moment

/-- `_COMMAND_NAMESPACE` -/
def commandNamespace : Uuid :=
  ⟨[0xd1, 0x84, 0xef, 0xea, 0x94, 0x8d, 0x5e, 0x23, 0x80, 0xd2, 0x0d, 0x66, 0xfa, 0x0e, 0x81, 0x3a], rfl⟩

/-- The salt and the verifier of a password, or nothing for a room without one. -/
structure PasswordFields where
  salt : Option String
  verifier : Option String

/-- The identifiers that a creation generates. -/
structure Generated where
  roomId : Uuid
  sessionId : Uuid
  presenceId : Uuid

/-- One call of the service. -/
inductive Request where
  | createRoom (origin : CommandMeta) (settings : RoomSettings) (capacity publicIdLimit : Nat)
      (password : PasswordFields) (generated : Generated)
  | joinRoom (origin : CommandMeta) (publicId : Nat) (password : String) (presenceId : Uuid)
  | leaveRoom (origin : CommandMeta) (publicId : Nat)
  | cleanupPresence (origin : CommandMeta) (account : Nat) (connectionSessionId : Uuid) (reason : String)
  | kickParticipant (origin : CommandMeta) (publicId expectedVersion target : Nat)
  | updateSettings (origin : CommandMeta) (publicId expectedVersion : Nat) (settings : RoomSettings)
  | changeHost (origin : CommandMeta) (publicId expectedVersion target : Nat)
  | changePassword (origin : CommandMeta) (publicId expectedVersion : Nat) (password : PasswordFields)
  | startRound (origin : CommandMeta) (publicId expectedVersion : Nat) (roundId : Uuid)
  | completeRound (origin : CommandMeta) (publicId expectedVersion : Nat) (aborted : Bool)
  | getRoom (publicId : Nat)
  | findRoomForAccount (account : Nat)
  | moveSlot (publicId account : Nat) (position : Int)
  | lockSlot (publicId actor : Nat) (position : Int)
  | setSlotStatus (publicId account : Nat) (status : SlotStatus)
  | setSlotTeam (publicId account team : Nat)
  | setSlotMods (publicId account : Nat) (mods : List CanonicalMod)
  | markLoaded (publicId account : Nat)
  | markSkipped (publicId account : Nat)
  | markFailed (publicId account : Nat)

def playPermissions : List String := ["multiplayer.play"]

def hostPermissions : List String := ["multiplayer.play", "multiplayer.host"]

namespace Method

/-- `_cached_room_for_account` -/
def cachedRoomForAccount (account : Nat) : Method (Option RoomState) := do
  let now ← clock
  match ← (state (.findForAccount account now)).attempt with
  | .ok found => return found
  | .error _ => return none

/-- `_replace_after_commit` -/
def replaceAfterCommit (updated previous : RoomState) : Method RoomState := do
  match ← (projected (.replace updated previous.stateRevision previous.room.sessionId)).attempt with
  | .ok stored => return stored
  | .error _ => return updated.withStatus .durableRecovery

/-- Build the next state from the committed record, and put it in the place of the old one. -/
def projectReplacement (current : RoomState) (committed : Committed)
    (next : RoomRecord → Except Failure RoomState) : Method (Option RoomState) :=
  match committed.room with
  | none => return none
  | some room => do
    let updated ← ofExcept (next room)
    let stored ← replaceAfterCommit updated current
    return some stored

end Method

namespace MultiplayerService

variable {Blob : Type} (service : MultiplayerService Blob)

/-- `_command_id` -/
def commandId (account : Nat) (origin : CommandMeta) : Uuid :=
  service.policies.uuid5 commandNamespace (toString account ++ ":" ++ origin.idempotencyKey)

def recovered (snapshot : DurableRoomSnapshot) (degraded : Bool) : Method RoomState := do
  let now ← clock
  ofExcept (stateFromSnapshot now service.stateLifetime (some snapshot) degraded)

/-- `_reconcile_snapshot` -/
def reconcileSnapshot (state : RoomState) (snapshot : DurableRoomSnapshot) : Method RoomState := do
  let now ← clock
  match ← ofExcept (reconcile now service.stateLifetime state snapshot) with
  | .current unchanged => return unchanged
  | .updated updated =>
    match ← (repaired updated state).attempt with
    | .ok stored => return stored
    | .error _ => do
      let rebuilt ← service.recovered snapshot false
      return rebuilt.withStatus .durableRecovery

/-- `_publish_snapshot` -/
def publishSnapshot (snapshot : DurableRoomSnapshot) : Method RoomState := do
  let durable ← service.recovered snapshot false
  let now ← clock
  match ← (state (.get snapshot.room.publicId now)).attempt with
  | .error _ => return durable.withStatus .durableRecovery
  | .ok (some current) => service.reconcileSnapshot current snapshot
  | .ok none =>
    match ← (projected (.create durable)).attempt with
    | .ok created => return created
    | .error _ => return durable.withStatus .durableRecovery

/-- `_require_state` -/
def requireState (publicId : Nat) : Method RoomState := do
  let now ← clock
  let found ← (state (.get publicId now)).attempt
  match ← snapshot publicId with
  | none => fail (.matchNotFound "room has no live state")
  | some snapshot =>
    match found with
    | .ok (some state) => service.reconcileSnapshot state snapshot
    | _ => service.publishSnapshot snapshot

/-- `_require_live_state` -/
def requireLiveState (publicId : Nat) : Method RoomState := do
  let state ← service.requireState publicId
  if state.projectionStatus ≠ .live then
    fail (.matchProjectionUnavailable "multiplayer projection is recovering; retry the action")
  else return state

/-- Publish the snapshot of a transaction that has one. -/
def publishCommitted (committed : Committed) : Method (Option RoomState) := do
  match committed.snapshot with
  | none => return none
  | some snapshot => do
    let state ← service.publishSnapshot snapshot
    return some state

def createRoom (origin : CommandMeta) (settings : RoomSettings) (capacity publicIdLimit : Nat)
    (password : PasswordFields) (generated : Generated) : Method (Option RoomState) := do
  let commandId := service.commandId origin.accountId origin
  match normalizedSettings service.normalizeMods settings with
  | .ok settings => do
    let committed ← Method.commit origin.moment (.create {
      commandId, actor := origin.accountId, connectionSessionId := origin.authSessionId, settings,
      capacity, publicIdLimit, protocol := origin.family, passwordSalt := password.salt,
      passwordVerifier := password.verifier, roomId := generated.roomId,
      sessionId := generated.sessionId, presenceId := generated.presenceId })
    service.publishCommitted committed
  | .error failure => do
    -- The settings are checked only when the command is not a repeated one.
    match ← replay origin.accountId hostPermissions commandId with
    | none => fail failure
    | some snapshot => do
      let state ← service.publishSnapshot snapshot
      return some state

def joinRoom (origin : CommandMeta) (publicId : Nat) (password : String) (presenceId : Uuid) :
    Method (Option RoomState) := do
  let actor := origin.accountId
  let now ← clock
  let current ← cachedRoomForAccount actor
  if current.any (·.room.publicId ≠ publicId) then
    fail (.matchAlreadyJoined "account already occupies another room")
  else
    let committed ← Method.commit origin.moment
      (.join (service.commandId actor origin) actor origin.authSessionId publicId password presenceId)
    match committed.room, committed.snapshot, current.filter (·.slotFor actor |>.isSome) with
    | _, some snapshot, some state => do
      let reconciled ← service.reconcileSnapshot state snapshot
      return some reconciled
    | some room, some snapshot, none => do
      match ← (Method.state (.get room.publicId now)).attempt with
      | .ok (some projected) =>
        if (projected.slotFor actor).isSome then service.publishCommitted committed
        else
          match ← (Method.projected (.join room actor (.aware (now + service.stateLifetime)))).attempt with
          | .ok joined => return some joined
          | .error _ => do
            let state ← service.publishSnapshot snapshot
            return some state
      | _ => do
        let state ← service.publishSnapshot snapshot
        return some state
    | _, none, _ => return none
    | none, some _, none => return none

/-- The projection after a leave: `_state.leave`, or a degraded state if it raises. -/
def projectLeave (publicId account : Nat) (committed : Committed) : Method (Option RoomState) := do
  match ← (state (.leave publicId account committed.room)).attempt with
  | .ok state => return state
  | .error _ =>
    match committed.snapshot with
    | none => return none
    | some snapshot => do
      let state ← service.recovered snapshot true
      return some state

def leaveRoom (origin : CommandMeta) (publicId : Nat) : Method (Option RoomState) := do
  let committed ← Method.commit origin.moment
    (.leave (service.commandId origin.accountId origin) origin.accountId origin.authSessionId publicId)
  match committed.locked with
  | none => return none
  | some _ =>
    if committed.replayed then service.publishCommitted committed
    else service.projectLeave publicId origin.accountId committed

def cleanupPresence (origin : CommandMeta) (account : Nat) (connectionSessionId : Uuid)
    (reason : String) : Method (Option RoomState) := do
  let committed ← Method.commit origin.moment
    (.cleanup (service.commandId account origin) account connectionSessionId reason)
  match committed.locked with
  | none => return none
  | some room => service.projectLeave room.publicId account committed

/-- What the commands of a host and the end of a round share: answer a repeated command
with the room as it is, read and check the projection, commit, and project. -/
def mutateRoom (origin : CommandMeta) (permissions : List String) (publicId : Nat)
    (check : RoomState → Except Failure α) (command : α → Durable.Command) (project : RoomState →
      α → Committed → Method (Option RoomState)) : Method (Option RoomState) := do
  match ← replay origin.accountId permissions (service.commandId origin.accountId origin) with
  | some snapshot => do
    let state ← service.publishSnapshot snapshot
    return some state
  | none => do
    let current ← service.requireState publicId
    let checked ← ofExcept (check current)
    let committed ← Method.commit origin.moment (command checked)
    project current checked committed

def kickParticipant (origin : CommandMeta) (publicId expectedVersion target : Nat) :
    Method (Option RoomState) :=
  service.mutateRoom origin hostPermissions publicId (fun current =>
      if (current.slotFor target).isNone then .error (.matchNotFound "target participant is not in the room")
      else if target = current.room.hostAccountId then
        .error (.matchStateRejected "the room host cannot be kicked")
      else .ok ())
    (fun _ => .kick (service.commandId origin.accountId origin) origin.accountId publicId
      expectedVersion target)
    fun _ _ committed => do
      match ← service.projectLeave publicId target committed with
      | some state => return some state
      | none =>
        match committed.snapshot with
        | none => return none
        | some snapshot => do
          let state ← service.recovered snapshot true
          return some state

def updateSettings (origin : CommandMeta) (publicId expectedVersion : Nat)
    (settings : RoomSettings) : Method (Option RoomState) := do
  let now ← clock
  service.mutateRoom origin hostPermissions publicId (settingsTransition service.normalizeMods · settings)
    (fun (settings, _) =>
      .updateSettings (service.commandId origin.accountId origin) origin.accountId publicId
        expectedVersion settings)
    fun current (_, slots) committed => projectReplacement current committed fun room =>
      settingsUpdated current room (.aware (now + service.stateLifetime)) slots

def changeHost (origin : CommandMeta) (publicId expectedVersion target : Nat) : Method (Option RoomState) :=
  service.mutateRoom origin hostPermissions publicId (fun current =>
      if (current.slotFor target).isNone then
        .error (.matchStateRejected "target account is not in the room") else .ok ())
    (fun _ => .changeHost (service.commandId origin.accountId origin) origin.accountId publicId
      expectedVersion target)
    fun current _ committed => projectReplacement current committed (recordChanged current)

def changePassword (origin : CommandMeta) (publicId expectedVersion : Nat)
    (password : PasswordFields) : Method (Option RoomState) :=
  service.mutateRoom origin hostPermissions publicId (fun _ => .ok ())
    (fun _ => .changePassword (service.commandId origin.accountId origin) origin.accountId publicId
      expectedVersion
      password.salt password.verifier)
    fun current _ committed => projectReplacement current committed (recordChanged current)

def startRound (origin : CommandMeta) (publicId expectedVersion : Nat) (roundId : Uuid) :
    Method (Option RoomState) :=
  service.mutateRoom origin hostPermissions publicId (fun current => do
      if current.inProgress then .error (.matchStateRejected "room already has a round in progress")
      else
        let participants ← selections current
        if participants.isEmpty then .error (.matchStateRejected "no participants have the selected beatmap")
        else return participants)
    (fun participants => .startRound (service.commandId origin.accountId origin) origin.accountId
      publicId expectedVersion
      roundId participants)
    fun current participants committed => projectReplacement current committed fun room =>
      roundStarted current room committed.roundId participants

def completeRound (origin : CommandMeta) (publicId expectedVersion : Nat) (aborted : Bool) :
    Method (Option RoomState) :=
  service.mutateRoom origin (if aborted then hostPermissions else playPermissions) publicId (fun current =>
      if !current.inProgress then .error (.matchStateRejected "room has no round in progress")
      else if (current.slotFor origin.accountId).isNone then
        .error (.matchPermissionDenied "only a current participant can complete a round")
      else if aborted ∧ current.room.hostAccountId ≠ origin.accountId then
        .error (.matchPermissionDenied "only the host can abort a round")
      else .ok current.roundId)
    (fun roundId => .completeRound (service.commandId origin.accountId origin) origin.accountId
      publicId expectedVersion
      roundId aborted)
    fun current _ committed => projectReplacement current committed (roundCompleted current)

def findRoomForAccount (account : Nat) : Method (Option RoomState) := do
  match ← cachedRoomForAccount account with
  | some state =>
    match ← snapshot state.room.publicId with
    | some snapshot => do
      let reconciled ← service.reconcileSnapshot state snapshot
      return if (reconciled.slotFor account).isSome then some reconciled else none
    | none => do
      let _ ← (Method.state (.remove state.room.publicId state.stateRevision state.room.sessionId)).attempt
      return none
  | none =>
    match ← accountSnapshot account with
    | some snapshot => do
      let published ← service.publishSnapshot snapshot
      return if (published.slotFor account).isSome then some published else none
    | none => return none

/-- What the slot updates share: the permission, a live projection that passes a check,
and the edit. -/
def editSlot (account : Nat) (permissions : List String) (publicId : Nat)
    (check : RoomState → Except Failure Mutation) : Method (Option RoomState) := do
  access account permissions
  let state ← service.requireLiveState publicId
  let mutation ← ofExcept (check state)
  Method.state (.edit publicId mutation)

def moveSlot (publicId account : Nat) (position : Int) : Method (Option RoomState) :=
  service.editSlot account playPermissions publicId fun _ => .ok (.moveSlot account position)

def lockSlot (publicId actor : Nat) (position : Int) : Method (Option RoomState) :=
  service.editSlot actor hostPermissions publicId fun state =>
    if state.room.hostAccountId ≠ actor then .error (.matchPermissionDenied "only the host can lock a slot")
    else .ok (.lockSlot actor position)

def setSlotStatus (publicId account : Nat) (status : SlotStatus) : Method (Option RoomState) :=
  service.editSlot account playPermissions publicId fun state =>
    if state.inProgress ∧ account ∉ state.roundParticipantAccountIds then
      .error (.matchStateRejected "account is not a participant in the active round")
    else .ok (.setSlotStatus account status)

def setSlotTeam (publicId account team : Nat) : Method (Option RoomState) :=
  service.editSlot account playPermissions publicId fun _ => .ok (.setSlotTeam account team)

def setSlotMods (publicId account : Nat) (mods : List CanonicalMod) : Method (Option RoomState) :=
  service.editSlot account playPermissions publicId fun state => do
    if !state.room.settings.freeMods then .error (.matchStateRejected "personal mods require Free Mod mode")
    else if state.inProgress then
      .error (.matchStateRejected "personal mods cannot change during an active round")
    else
      let normalized ← stateRejected
        (service.normalizeMods state.room.settings.ruleset state.room.settings.variant mods)
      if normalized.any isSpeedMod then
        .error (.matchStateRejected "personal Free Mod selection cannot contain speed mods")
      else return .setSlotMods account normalized

def markLoaded (publicId account : Nat) : Method (Option RoomState) :=
  service.editSlot account playPermissions publicId fun _ => .ok (.markLoaded account)

def markSkipped (publicId account : Nat) : Method (Option RoomState) :=
  service.editSlot account playPermissions publicId fun _ => .ok (.markSkipped account)

def markFailed (publicId account : Nat) : Method (Option RoomState) :=
  service.editSlot account playPermissions publicId fun _ => .ok (.markFailed account)

def body : Request → Method (Option RoomState)
  | .createRoom origin settings capacity publicIdLimit password generated =>
    service.createRoom origin settings capacity publicIdLimit password generated
  | .joinRoom origin publicId password presenceId => service.joinRoom origin publicId password presenceId
  | .leaveRoom origin publicId => service.leaveRoom origin publicId
  | .cleanupPresence origin account connectionSessionId reason =>
    service.cleanupPresence origin account connectionSessionId reason
  | .kickParticipant origin publicId expectedVersion target =>
    service.kickParticipant origin publicId expectedVersion target
  | .updateSettings origin publicId expectedVersion settings =>
    service.updateSettings origin publicId expectedVersion settings
  | .changeHost origin publicId expectedVersion target =>
    service.changeHost origin publicId expectedVersion target
  | .changePassword origin publicId expectedVersion password =>
    service.changePassword origin publicId expectedVersion password
  | .startRound origin publicId expectedVersion roundId =>
    service.startRound origin publicId expectedVersion roundId
  | .completeRound origin publicId expectedVersion aborted =>
    service.completeRound origin publicId expectedVersion aborted
  | .getRoom publicId => some <$> service.requireState publicId
  | .findRoomForAccount account => service.findRoomForAccount account
  | .moveSlot publicId account position => service.moveSlot publicId account position
  | .lockSlot publicId actor position => service.lockSlot publicId actor position
  | .setSlotStatus publicId account status => service.setSlotStatus publicId account status
  | .setSlotTeam publicId account team => service.setSlotTeam publicId account team
  | .setSlotMods publicId account mods => service.setSlotMods publicId account mods
  | .markLoaded publicId account => service.markLoaded publicId account
  | .markSkipped publicId account => service.markSkipped publicId account
  | .markFailed publicId account => service.markFailed publicId account

end MultiplayerService

end Perfcho.Service
