import Perfcho.Durable.Tables
import Perfcho.Scoring.Mods

/-! The commands on durable rooms, each as the transaction it commits. A transaction
locks its room before it reads it, so what it reads of the room is what it changes;
what it reads of other rooms may be older than its commit, and the unique indexes
decide. Every method therefore takes two states of the tables: the one its unlocked
reads saw, and the one it commits to. An error rolls the transaction back. -/

namespace Perfcho.Durable

open Foundation Scoring Multiplayer

/-- The clock of the service and the transaction time of the database, which stamps
what the transaction inserts. -/
structure Moment where
  now : Int
  stamp : Int

/-- What the service relies on: the access policy, the check of a password or an
admission token, and name-based identifiers. -/
structure Policies where
  require : Nat → List String → Int → Except Failure Unit
  verifyAdmission : RoomRecord → Nat → String → Int → Except Failure Unit
  uuid5 : Uuid → String → Uuid

/-- A broken constraint that nobody catches. -/
def integrity (result : Except String α) : Except Failure α := result.mapError .integrityError

/-- `_map_integrity_error` -/
def mapIntegrityError (constraintName : String) : Failure :=
  if constraintName = "uq_session_presence_account_current" then
    .matchAlreadyJoined "account already has an active multiplayer presence"
  else if constraintName = "uq_round_session_active" then
    .matchStateRejected "session already has an active round"
  else .matchConcurrencyConflict "concurrent multiplayer write conflicted"

def mapped (result : Except String α) : Except Failure α := result.mapError mapIntegrityError

def requireVersion (room : RoomRecord) (session : MultiplayerSession) : Except Failure Unit :=
  if session.version ≠ room.version then
    .error (.matchConcurrencyConflict "room aggregate version changed") else .ok ()

def requireHostVersion (room : RoomRecord) (session : MultiplayerSession) (actor : Nat) :
    Except Failure Unit :=
  if session.hostAccountId ≠ some actor then
    .error (.matchPermissionDenied "only the current host can mutate the room")
  else requireVersion room session

def highest (numbers : List Nat) : Nat := numbers.foldl max 0

section

variable (read tables : Tables)

/-- `_entities` on the locked rows. -/
def lockedEntities (publicId : Nat) : Except Failure (Room × MultiplayerSession) :=
  match tables.entities publicId with
  | none => .error (.matchNotFound "room is not active")
  | some found => .ok found

/-- `_append_event`: the next event of the room, unless the command has one already. -/
def appendEvent (raised : Except String (Table eventConstraints) → Except Failure (Table eventConstraints))
    (room : Room) (session : MultiplayerSession) (commandId : Uuid) (actor : Nat)
    (eventType : EventType) : Except Failure Tables :=
  if read.commandApplied commandId then .ok tables
  else do
    let last := highest ((tables.events.rows.filter (·.roomId = room.id)).map (·.roomSequence))
    let events ← raised (tables.events.insert {
      roomId := room.id, roomSequence := last + 1, commandId, sessionId := session.id,
      actorAccountId := actor, aggregateVersion := session.version, eventType })
    return { tables with events }

/-- Write back the session, and append the event that says what changed. -/
def commitSession (room : Room) (session : MultiplayerSession) (commandId : Uuid) (actor : Nat)
    (eventType : EventType) : Except Failure (RoomRecord × Tables) := do
  let sessions ← integrity (tables.sessions.update (·.id) session)
  let after ← appendEvent read { tables with sessions } integrity room session commandId actor eventType
  let committed ← record room session
  return (committed, after)

/-- The lowest public identifier that is not taken. -/
def nextPublicId (publicId : Nat) : List Nat → Nat
  | [] => publicId
  | active :: rest =>
    if active = publicId then nextPublicId (publicId + 1) rest
    else if publicId < active then publicId
    else nextPublicId publicId rest

structure CreateRequest where
  commandId : Uuid
  actor : Nat
  connectionSessionId : Uuid
  settings : RoomSettings
  capacity : Nat
  publicIdLimit : Nat
  protocol : String
  passwordSalt : Option String
  passwordVerifier : Option String
  /-- The identifiers generated for the room, its session and the presence. -/
  roomId : Uuid
  sessionId : Uuid
  presenceId : Uuid

def freePublicId (limit : Nat) : Nat :=
  let active := (read.rooms.rows.filter (·.status.active)).map (·.publicId)
  nextPublicId 1 ((active.filter (· ≤ limit)).dedup.insertionSort (· ≤ ·))

def CreateRequest.room (request : CreateRequest) (publicId epoch : Nat) (now : Int) : Room where
  id := request.roomId
  publicId := publicId
  publicIdEpoch := epoch
  creatorAccountId := request.actor
  passwordVerifier := request.passwordVerifier
  passwordPrefix := request.passwordSalt
  status := .open
  capacity := request.capacity
  startsAt := some now
  endsAt := none
  settings := request.settings

def CreateRequest.session (request : CreateRequest) (stamp : Int) : MultiplayerSession where
  id := request.sessionId
  roomId := request.roomId
  ordinal := 1
  hostAccountId := some request.actor
  protocol := request.protocol
  status := .active
  version := 1
  createdAt := stamp
  endedAt := none

def CreateRequest.presence (request : CreateRequest) (stamp : Int) : SessionPresence where
  id := request.presenceId
  sessionId := request.sessionId
  roomId := request.roomId
  accountId := request.actor
  connectionSessionId := request.connectionSessionId
  joinNumber := 1
  createdAt := stamp
  leftAt := none
  leaveReason := none

def createRoom (moment : Moment) (request : CreateRequest) : Except Failure (RoomRecord × Tables) := do
  match ← read.findCommandRoom request.commandId with
  | some replay => return (replay, tables)
  | none =>
    match ← read.findRoomForAccount request.actor with
    | some _ => .error (.matchAlreadyJoined "account already has an active multiplayer presence")
    | none =>
      let publicId := freePublicId read request.publicIdLimit
      if request.publicIdLimit < publicId then
        .error (.matchFull "no multiplayer room identifiers are available")
      else
        let epochs := tables.epochs + 1
        let room := request.room publicId epochs moment.now
        let session := request.session moment.stamp
        let rooms ← integrity (tables.rooms.insert room)
        let sessions ← integrity (tables.sessions.insert session)
        let participants ← mapped (tables.participants.insert {
          roomId := room.id, accountId := request.actor, status := .active,
          lastActivityAt := moment.now, bannedAt := none })
        let presences ← mapped (tables.presences.insert (request.presence moment.stamp))
        let after ← appendEvent read
          { tables with rooms, sessions, participants, presences, epochs } mapped room session
          request.commandId request.actor .roomCreated
        let created ← record room session
        return (created, after)

/-- An account may come in: a participant row that is not banned. -/
def admitParticipant (roomId : Uuid) (account : Nat) (now : Int) :
    Except Failure (Table participantConstraints) :=
  match tables.participants.rows.find? fun row => row.roomId = roomId ∧ row.accountId = account with
  | none => integrity (tables.participants.insert {
      roomId, accountId := account, status := .active, lastActivityAt := now, bannedAt := none })
  | some participant =>
    if participant.bannedAt.isSome ∨ participant.status = .banned then
      .error (.matchPermissionDenied "account is banned from the room")
    else integrity (tables.participants.update (fun row => (row.roomId, row.accountId))
      { participant with status := .active, lastActivityAt := now })

/-- Note the activity of a participant that is leaving, if it has a row. -/
def noteActivity (roomId : Uuid) (account : Nat) (now : Int) :
    Except Failure (Table participantConstraints) :=
  match tables.participants.rows.find? fun row => row.roomId = roomId ∧ row.accountId = account with
  | none => .ok tables.participants
  | some participant =>
    integrity (tables.participants.update (fun row => (row.roomId, row.accountId))
      { participant with lastActivityAt := now })

def joinRoom (moment : Moment) (room : RoomRecord) (commandId : Uuid) (account : Nat)
    (connectionSessionId presenceId : Uuid) : Except Failure (RoomRecord × Tables) := do
  let (dbRoom, session) ← lockedEntities tables room.publicId
  let durable ← record dbRoom session
  if read.commandApplied commandId then return (durable, tables)
  else match ← read.findRoomForAccount account with
  | some current =>
    if current.publicId = room.publicId then return (durable, tables)
    else .error (.matchAlreadyJoined "account already has an active multiplayer presence")
  | none =>
    if durable.capacity ≤ (tables.present durable.sessionId).length then
      .error (.matchFull "room has no available participant capacity")
    else
      let participants ← admitParticipant tables durable.roomId account moment.now
      let joins := (tables.presences.rows.filter fun row => row.sessionId = durable.sessionId ∧
        row.accountId = account)
      let joined := { session with version := session.version + 1 }
      let sessions ← integrity (tables.sessions.update (·.id) joined)
      let after ← appendEvent read { tables with participants, sessions } mapped dbRoom joined
        commandId account .participantJoined
      let presences ← mapped (after.presences.insert {
        id := presenceId, sessionId := durable.sessionId, roomId := durable.roomId, accountId := account,
        connectionSessionId, joinNumber := highest (joins.map (·.joinNumber)) + 1,
        createdAt := moment.stamp, leftAt := none, leaveReason := none })
      let committed ← record dbRoom joined
      return (committed, { after with presences })

/-- `_finish_active_round` -/
def finishActiveRound (session : MultiplayerSession) (aborted : Bool) (now : Int)
    (roundId : Option Uuid) : Except Failure (Table roundConstraints) :=
  match roundId <|> tables.activeRoundId session.id with
  | none => .ok tables.rounds
  | some selected =>
    match tables.rounds.rows.find? (·.id = selected) with
    | none => .ok tables.rounds
    | some round =>
      if round.sessionId ≠ session.id ∨ round.status ≠ .inProgress then .ok tables.rounds
      else
        let started := round.startedAt.getD round.createdAt
        integrity (tables.rounds.update (·.id) { round with
          status := if aborted then .aborted else .completed, endedAt := some (max now (started + 1)) })

/-- The current presence of an account in a session, of one connection if it is given. -/
def currentPresence (sessionId : Uuid) (account : Nat) (connectionSessionId : Option Uuid) :
    Option SessionPresence :=
  (tables.present sessionId).find? fun presence =>
    presence.accountId = account ∧ connectionSessionId.all (presence.connectionSessionId = ·)

/-- The other accounts in a session, in the order they joined. -/
def remainingAccounts (sessionId : Uuid) (account : Nat) : List Nat :=
  (((tables.present sessionId).filter (·.accountId ≠ account)).insertionSort
    SessionPresence.Before).map (·.accountId)

/-- When a session that loses its last account ends. -/
def endTime (room : Room) (session : MultiplayerSession) (now : Int) : Int :=
  max (max now (room.startsAt.getD session.createdAt + 1)) (session.createdAt + 1)

def leaveRoom (moment : Moment) (publicId : Nat) (commandId : Uuid) (account : Nat)
    (connectionSessionId : Option Uuid) (reason : String) : Except Failure (Option RoomRecord × Tables) := do
  let (room, session) ← lockedEntities tables publicId
  if read.commandApplied commandId then
    let unchanged ← record room session
    return (some unchanged, tables)
  else match currentPresence tables session.id account connectionSessionId with
  | none =>
    let unchanged ← record room session
    return (some unchanged, tables)
  | some presence =>
    let remaining := remainingAccounts tables session.id account
    let presences ← integrity (tables.presences.update (·.id)
      { presence with leftAt := some moment.now, leaveReason := some reason })
    let participants ← noteActivity tables room.id account moment.now
    let host := if session.hostAccountId = some account then remaining.head? else session.hostAccountId
    let left := { session with version := session.version + 1, hostAccountId := host }
    let tables := { tables with presences, participants }
    if remaining = [] then
      let ended := endTime room session moment.now
      let closed := { left with status := .completed, endedAt := some ended }
      let closedRoom := { room with status := .ended, endsAt := some ended }
      let rounds ← finishActiveRound tables session true moment.now none
      let rooms ← integrity (tables.rooms.update (·.id) closedRoom)
      let sessions ← integrity (tables.sessions.update (·.id) closed)
      let after ← appendEvent read { tables with rounds, rooms, sessions } integrity closedRoom
        closed commandId account .roomClosed
      return (none, after)
    else
      let (committed, after) ← commitSession read tables room left commandId account .participantLeft
      return (some committed, after)

/-- What the commands on an existing room share: lock it, answer a repeated command
with the room as it is, check the actor and the version, then act. -/
def mutating (publicId : Nat) (commandId : Uuid) (check : MultiplayerSession → Except Failure Unit)
    (act : Room → MultiplayerSession → Except Failure (RoomRecord × Tables)) :
    Except Failure (RoomRecord × Tables) := do
  let (room, session) ← lockedEntities tables publicId
  if read.commandApplied commandId then
    let unchanged ← record room session
    return (unchanged, tables)
  else
    check session
    act room session

def kickParticipant (moment : Moment) (room : RoomRecord) (commandId : Uuid) (actor target : Nat) :
    Except Failure (RoomRecord × Tables) :=
  mutating read tables room.publicId commandId (requireHostVersion room · actor) fun dbRoom session => do
    if target = actor then .error (.matchPermissionDenied "the host cannot kick itself")
    else match currentPresence tables session.id target none with
    | none => .error (.matchNotFound "target participant is not present")
    | some presence =>
      let presences ← integrity (tables.presences.update (·.id)
        { presence with leftAt := some moment.now, leaveReason := some "kicked" })
      let participants ← noteActivity tables dbRoom.id target moment.now
      commitSession read { tables with presences, participants } dbRoom
        { session with version := session.version + 1 } commandId actor .participantKicked

def updateSettings (room : RoomRecord) (commandId : Uuid) (actor : Nat) (settings : RoomSettings) :
    Except Failure (RoomRecord × Tables) :=
  mutating read tables room.publicId commandId (requireHostVersion room · actor) fun dbRoom session => do
    if (tables.activeRoundId session.id).isSome then
      .error (.matchStateRejected "room settings cannot change during an active round")
    else
      let changed := { dbRoom with settings }
      let rooms ← integrity (tables.rooms.update (·.id) changed)
      commitSession read { tables with rooms } changed
        { session with version := session.version + 1 } commandId actor
        .settingsUpdated

def changeHost (room : RoomRecord) (commandId : Uuid) (actor target : Nat) :
    Except Failure (RoomRecord × Tables) :=
  mutating read tables room.publicId commandId (requireHostVersion room · actor) fun dbRoom session =>
    if (currentPresence tables session.id target none).isNone then
      .error (.matchNotFound "target participant is not present")
    else
      commitSession read tables dbRoom
        { session with hostAccountId := some target, version := session.version + 1 }
        commandId actor .hostChanged

def changePassword (room : RoomRecord) (commandId : Uuid) (actor : Nat)
    (passwordSalt passwordVerifier : Option String) : Except Failure (RoomRecord × Tables) :=
  mutating read tables room.publicId commandId (requireHostVersion room · actor) fun dbRoom session => do
    let changed := { dbRoom with passwordPrefix := passwordSalt, passwordVerifier }
    let rooms ← integrity (tables.rooms.update (·.id) changed)
    commitSession read { tables with rooms } changed { session with version := session.version + 1 }
      commandId actor .passwordChanged

/-- The mods a participant plays with: the room's, and with free mods also its own. -/
def participantMods (settings : RoomSettings) (participant : RoundParticipantSelection) : List CanonicalMod :=
  if settings.freeMods then mergeMods (settings.mods ++ participant.mods) else settings.mods

def valueError (result : Except String α) : Except Failure α := result.mapError .valueError

def freezeParticipants (settings : RoomSettings) (sessionId roundId : Uuid) :
    List RoundParticipantSelection → Table roundParticipantConstraints →
    Except Failure (Table roundParticipantConstraints)
  | [], frozen => .ok frozen
  | participant :: rest, frozen => do
    let mods ← valueError (canonicalModsDetails (participantMods settings participant))
    let frozen ← mapped (frozen.insert {
      roundId, accountId := participant.accountId,
      presenceId := ((tables.present sessionId).find? (·.accountId = participant.accountId)).map (·.id),
      slotNumber := some participant.slotPosition, teamNumber := participant.team, mods })
    freezeParticipants settings sessionId roundId rest frozen

/-- `_create_round` -/
def createRound (moment : Moment) (room : Room) (session : MultiplayerSession) (roundId : Uuid)
    (participants : List RoundParticipantSelection) : Except Failure Tables := do
  let _ ← valueError (canonicalModsDetails room.settings.mods)
  let number := highest ((tables.rounds.rows.filter (·.sessionId = session.id)).map (·.roundNumber))
  let rounds ← mapped (tables.rounds.insert {
    id := roundId, sessionId := session.id, roundNumber := number + 1, status := .inProgress,
    settings := room.settings, createdAt := moment.stamp, startedAt := some moment.now, endedAt := none })
  let roundParticipants ← freezeParticipants tables room.settings session.id roundId participants
    tables.roundParticipants
  return { tables with rounds, roundParticipants }

def startRound (moment : Moment) (room : RoomRecord) (commandId : Uuid) (actor : Nat) (roundId : Uuid)
    (participants : List RoundParticipantSelection) : Except Failure (RoomRecord × Tables) :=
  mutating read tables room.publicId commandId (requireHostVersion room · actor) fun dbRoom session => do
    if (tables.activeRoundId session.id).isSome then
      .error (.matchStateRejected "session already has an active round")
    else
      let started ← createRound tables moment dbRoom session roundId participants
      commitSession read started dbRoom { session with version := session.version + 1 } commandId
        actor .roundStarted

def completeRound (moment : Moment) (room : RoomRecord) (commandId : Uuid) (actor : Nat)
    (roundId : Option Uuid) (aborted : Bool) : Except Failure (RoomRecord × Tables) :=
  mutating read tables room.publicId commandId (requireVersion room) fun dbRoom session => do
    match tables.activeRoundId session.id with
    | none => .error (.matchStateRejected "session has no matching active round")
    | some active =>
      if roundId.any (· ≠ active) then .error (.matchStateRejected "session has no matching active round")
      else
        let rounds ← finishActiveRound tables session aborted moment.now (some active)
        commitSession read { tables with rounds } dbRoom
          { session with version := session.version + 1 } commandId actor
          (if aborted then .roundAborted else .roundCompleted)

end

section

variable (policies : Policies) (read tables : Tables)

/-- `_locked_room` -/
def lockedRoom (publicId expectedVersion : Nat) : Except Failure RoomRecord := do
  match ← tables.getRoom publicId with
  | none => .error (.matchNotFound "room is not active")
  | some room =>
    if room.version ≠ expectedVersion then .error (.matchConcurrencyConflict "room aggregate version changed")
    else return room

/-- `_locked_host_room` -/
def lockedHostRoom (publicId actor expectedVersion : Nat) : Except Failure RoomRecord := do
  match ← tables.getRoom publicId with
  | none => .error (.matchNotFound "room is not active")
  | some room =>
    if room.hostAccountId ≠ actor then
      .error (.matchPermissionDenied "only the current host can mutate the room")
    else if room.version ≠ expectedVersion then
      .error (.matchConcurrencyConflict "room aggregate version changed")
    else return room

/-- One command and everything it brings: who sends it, what it asks for, the version
it expects and the identifiers generated for it. -/
inductive Command where
  | create (request : CreateRequest)
  | join (commandId : Uuid) (actor : Nat) (connectionSessionId : Uuid) (publicId : Nat)
      (password : String) (presenceId : Uuid)
  | leave (commandId : Uuid) (actor : Nat) (connectionSessionId : Uuid) (publicId : Nat)
  | cleanup (commandId : Uuid) (account : Nat) (connectionSessionId : Uuid) (reason : String)
  | kick (commandId : Uuid) (actor publicId expectedVersion target : Nat)
  | changeHost (commandId : Uuid) (actor publicId expectedVersion target : Nat)
  | updateSettings (commandId : Uuid) (actor publicId expectedVersion : Nat) (settings : RoomSettings)
  | changePassword (commandId : Uuid) (actor publicId expectedVersion : Nat) (salt verifier : Option String)
  | startRound (commandId : Uuid) (actor publicId expectedVersion : Nat) (roundId : Uuid)
      (participants : List RoundParticipantSelection)
  | completeRound (commandId : Uuid) (actor publicId expectedVersion : Nat) (roundId : Option Uuid)
      (aborted : Bool)

/-- Load the snapshot that the service publishes, and commit. -/
def committed (result : RoomRecord × Tables) : Except Failure (Option RoomRecord × Tables) := do
  let _ ← result.2.loadSnapshot result.1
  return (some result.1, result.2)

def committedIfOpen (result : Option RoomRecord × Tables) : Except Failure (Option RoomRecord × Tables) :=
  match result with
  | (none, after) => .ok (none, after)
  | (some room, after) => committed (room, after)

/-- Answer a repeated command with the room it has changed, or run it. -/
def replayed (commandId : Uuid) (run : Except Failure (Option RoomRecord × Tables)) :
    Except Failure (Option RoomRecord × Tables) := do
  match ← read.findCommandRoom commandId with
  | some room => do
    let _ ← read.loadSnapshot room
    return (some room, tables)
  | none => run

def createTransaction (moment : Moment) (request : CreateRequest) :
    Except Failure (Option RoomRecord × Tables) := do
  policies.require request.actor ["multiplayer.play", "multiplayer.host"] moment.now
  replayed read tables request.commandId do
    let created ← createRoom read tables moment request
    committed created

def joinTransaction (moment : Moment) (commandId : Uuid) (actor : Nat) (connectionSessionId : Uuid)
    (publicId : Nat) (password : String) (presenceId : Uuid) :
    Except Failure (Option RoomRecord × Tables) := do
  policies.require actor ["multiplayer.play"] moment.now
  match ← tables.getRoom publicId with
  | none => .error (.matchNotFound "room is not active")
  | some room =>
    let commandRoom ← read.findCommandRoom commandId
    match ← read.findRoomForAccount actor with
    | some active =>
      if active.publicId ≠ publicId then
        .error (.matchAlreadyJoined "account already has an active multiplayer presence")
      else
        if commandRoom.isNone then policies.verifyAdmission room actor password moment.now
        committed (active, tables)
    | none =>
      policies.verifyAdmission room actor password moment.now
      let commandId := if commandRoom.isSome then
        policies.uuid5 commandId ("membership:" ++ room.sessionId.text ++ ":" ++
          toString room.version) else commandId
      let joined ← joinRoom read tables moment room commandId actor connectionSessionId presenceId
      committed joined

def leaveTransaction (moment : Moment) (commandId : Uuid) (actor : Nat) (connectionSessionId : Uuid)
    (publicId : Nat) : Except Failure (Option RoomRecord × Tables) := do
  policies.require actor ["multiplayer.play"] moment.now
  match ← read.findCommandRoom commandId with
  | some replay => do
    let _ ← read.loadSnapshot replay
    let room ← tables.getRoom publicId
    return (room.map fun _ => replay, tables)
  | none =>
    match ← tables.getRoom publicId with
    | none => return (none, tables)
    | some room => do
      let left ← leaveRoom read tables moment room.publicId commandId actor
        (some connectionSessionId) "client_parted"
      committedIfOpen left

def cleanupTransaction (moment : Moment) (commandId : Uuid) (account : Nat)
    (connectionSessionId : Uuid) (reason : String) : Except Failure (Option RoomRecord × Tables) := do
  match ← read.findRoomForAccount account with
  | none => return (none, tables)
  | some room => do
    let left ← leaveRoom read tables moment room.publicId commandId account (some connectionSessionId) reason
    committedIfOpen left

/-- A host command: the permission, the locked room at the expected version, the method. -/
def hostTransaction (moment : Moment) (commandId : Uuid) (actor publicId expectedVersion : Nat)
    (act : RoomRecord → Except Failure (RoomRecord × Tables)) :
    Except Failure (Option RoomRecord × Tables) := do
  policies.require actor ["multiplayer.play", "multiplayer.host"] moment.now
  replayed read tables commandId do
    let room ← lockedHostRoom tables publicId actor expectedVersion
    let changed ← act room
    committed changed

def completeTransaction (moment : Moment) (commandId : Uuid) (actor publicId expectedVersion : Nat)
    (roundId : Option Uuid) (aborted : Bool) : Except Failure (Option RoomRecord × Tables) := do
  policies.require actor (if aborted then ["multiplayer.play", "multiplayer.host"] else
    ["multiplayer.play"]) moment.now
  replayed read tables commandId do
    let room ← lockedRoom tables publicId expectedVersion
    let completed ← completeRound read tables moment room commandId actor roundId aborted
    committed completed

def transact (moment : Moment) : Command → Except Failure (Option RoomRecord × Tables)
  | .create request => createTransaction policies read tables moment request
  | .join commandId actor connectionSessionId publicId password presenceId =>
    joinTransaction policies read tables moment commandId actor connectionSessionId publicId
      password presenceId
  | .leave commandId actor connectionSessionId publicId =>
    leaveTransaction policies read tables moment commandId actor connectionSessionId publicId
  | .cleanup commandId account connectionSessionId reason =>
    cleanupTransaction read tables moment commandId account connectionSessionId reason
  | .kick commandId actor publicId expectedVersion target =>
    hostTransaction policies read tables moment commandId actor publicId expectedVersion fun room =>
      kickParticipant read tables moment room commandId actor target
  | .changeHost commandId actor publicId expectedVersion target =>
    hostTransaction policies read tables moment commandId actor publicId expectedVersion fun room =>
      changeHost read tables room commandId actor target
  | .updateSettings commandId actor publicId expectedVersion settings =>
    hostTransaction policies read tables moment commandId actor publicId expectedVersion fun room =>
      updateSettings read tables room commandId actor settings
  | .changePassword commandId actor publicId expectedVersion salt verifier =>
    hostTransaction policies read tables moment commandId actor publicId expectedVersion fun room =>
      changePassword read tables room commandId actor salt verifier
  | .startRound commandId actor publicId expectedVersion roundId participants =>
    hostTransaction policies read tables moment commandId actor publicId expectedVersion fun room =>
      startRound read tables moment room commandId actor roundId participants
  | .completeRound commandId actor publicId expectedVersion roundId aborted =>
    completeTransaction policies read tables moment commandId actor publicId expectedVersion roundId aborted

end

end Perfcho.Durable
