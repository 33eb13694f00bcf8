import Perfcho.Durable.RoomInvariant

/-! What a committed transaction can do to the tables: nothing, open a room, or edit
one active room and append the event that says so. -/

namespace Perfcho.Durable

open Foundation Scoring Multiplayer Table List

variable {presence ended : SessionPresence} {constraints : List (Constraint Row)}
  {table : Table constraints} {round : Round}

/-- The rounds after the active round of a session, if there is one, has ended. -/
inductive Finishes (tables : Tables) (sessionId : Uuid) : List Round → Prop where
  | idle (none : tables.playing sessionId = []) : Finishes tables sessionId tables.rounds.rows
  | ended {round ended : Round} (active : round ∈ tables.playing sessionId) (key : ended.id = round.id)
      (stopped : ended.status ≠ .inProgress) (house : ended.sessionId = round.sessionId)
      (settings : ended.settings = round.settings) :
      Finishes tables sessionId (replaced (·.id) tables.rounds.rows ended)

/-- What a command brings along: a round and its participants, new settings, or the
account that departs. -/
structure Brought where
  round : Option Uuid := none
  participants : List RoundParticipantSelection := []
  settings : Option RoomSettings := none
  departs : Option Nat := none

/-- The row of a participant. It has the mods of the room with those of the participant. -/
structure Freezes (settings : RoomSettings) (roundId : Uuid)
    (participant : RoundParticipantSelection) (row : RoundParticipant) : Prop where
  round : row.roundId = roundId
  account : row.accountId = participant.accountId
  slot : row.slotNumber = some participant.slotPosition
  team : row.teamNumber = participant.team
  mods : canonicalModsDetails (participantMods settings participant) = .ok row.mods

/-- The edits of an active room: the rows of the room, its session, the presences, the
rounds and their participants afterwards. Every edit is one version of the session. -/
inductive Edit (brought : Brought) (tables : Tables) (room : Room) (session : MultiplayerSession) :
    Room → MultiplayerSession → List SessionPresence → List Round → List RoundParticipant → Prop where
  | joined {presence : SessionPresence} (sessionId : presence.sessionId = session.id)
      (roomId : presence.roomId = room.id) (current : presence.current = true)
      (spare : (tables.present session.id).length < room.capacity) :
      Edit brought tables room session room { session with version := session.version + 1 }
        (tables.presences.rows ++ [presence]) tables.rounds.rows tables.roundParticipants.rows
  | left {presence : SessionPresence} {host : Option Nat} {now : Int} {reason : String}
      (stored : presence ∈ tables.present session.id) (departs : brought.departs = some presence.accountId)
      (heir : host = session.hostAccountId ∧ session.hostAccountId ≠ some presence.accountId ∨
        ∃ other ∈ tables.present session.id, other.accountId ≠ presence.accountId ∧
        host = some other.accountId) :
      Edit brought tables room session room
      { session with version := session.version + 1, hostAccountId := host }
        (replaced (·.id) tables.presences.rows
          { presence with leftAt := some now, leaveReason := some reason })
        tables.rounds.rows tables.roundParticipants.rows
  | closed {presence : SessionPresence} {host : Option Nat} {now ended : Int} {reason : String}
      {rounds : List Round} (stored : presence ∈ tables.present session.id)
      (last : ∀ other ∈ tables.present session.id, other.accountId = presence.accountId)
      (finishes : Finishes tables session.id rounds) :
      Edit brought tables room session { room with status := .ended, endsAt := some ended } { session with
          version := session.version + 1, hostAccountId := host, status := .completed, endedAt := some ended }
        (replaced (·.id) tables.presences.rows
          { presence with leftAt := some now, leaveReason := some reason })
        rounds tables.roundParticipants.rows
  | revised {revised : Room} {host : Option Nat} (id : revised.id = room.id)
      (publicId : revised.publicId = room.publicId) (status : revised.status = room.status)
      (capacity : revised.capacity = room.capacity) (hosted : host = session.hostAccountId ∨
        ∃ presence ∈ tables.present session.id, host = some presence.accountId) (settings :
        revised.settings = room.settings ∨ tables.playing session.id = [] ∧
        brought.settings = some revised.settings) :
      Edit brought tables room session revised
      { session with version := session.version + 1, hostAccountId := host }
        tables.presences.rows tables.rounds.rows tables.roundParticipants.rows
  | started {round : Round} {frozen : List RoundParticipant} (begins : brought.round = some round.id)
      (sessionId : round.sessionId = session.id) (settings : round.settings = room.settings)
      (idle : tables.playing session.id = [])
      (theirs : List.Forall₂ (Freezes room.settings round.id) brought.participants frozen) :
      Edit brought tables room session room { session with version := session.version + 1 }
        tables.presences.rows (tables.rounds.rows ++ [round]) (tables.roundParticipants.rows ++ frozen)
  | finished {rounds : List Round} (finishes : Finishes tables session.id rounds) :
      Edit brought tables room session room { session with version := session.version + 1 }
        tables.presences.rows rounds tables.roundParticipants.rows

theorem Edit.keyed (edit : Edit brought tables room session editedRoom edited presences rounds frozen) :
    editedRoom.id = room.id ∧ editedRoom.publicId = room.publicId ∧ editedRoom.capacity = room.capacity ∧
      edited.id = session.id ∧ edited.roomId = session.roomId ∧ edited.version = session.version + 1 := by
  cases edit with
  | revised id publicId _ capacity _ _ => exact ⟨id, publicId, capacity, rfl, rfl, rfl⟩
  | _ => exact ⟨rfl, rfl, rfl, rfl, rfl, rfl⟩

/-- The event that an edit appends: the next of its room, at the new version. -/
def nextEvent (tables : Tables) (room : Room) (session : MultiplayerSession) (commandId : Uuid)
    (actor : Nat) (eventType : EventType) : MultiplayerEvent where
  roomId := room.id
  roomSequence := highest ((tables.events.rows.filter (·.roomId = room.id)).map (·.roomSequence)) + 1
  commandId := commandId
  sessionId := session.id
  actorAccountId := actor
  aggregateVersion := session.version
  eventType := eventType

/-- The rows that a transaction has edited in an active room, and its event. -/
structure Edits (brought : Brought) (read tables : Tables) (commandId : Uuid) (room : Room)
    (session : MultiplayerSession) (after : Tables) : Prop where
  found : (room, session) ∈ tables.activeRooms
  unknown : read.commandApplied commandId = false
  edit : ∃ editedRoom edited actor eventType,
    Edit brought tables room session editedRoom edited after.presences.rows after.rounds.rows
    after.roundParticipants.rows ∧ after.rooms.rows = replaced (·.id) tables.rooms.rows editedRoom ∧
    after.sessions.rows = replaced (·.id) tables.sessions.rows edited ∧
    after.events.rows = tables.events.rows ++ [nextEvent tables editedRoom edited commandId actor eventType] ∧
    (editedRoom.status.active = true → ∃ made, record editedRoom edited = .ok made)
  epochs : after.epochs = tables.epochs

/-- A created room: fresh rows, and an event if the command has none. -/
structure Opens (read tables : Tables) (request : CreateRequest) (after : Tables) : Prop where
  rows : ∃ publicId now stamp, after.rooms.rows = tables.rooms.rows ++
    [request.room publicId (tables.epochs + 1) now] ∧ after.sessions.rows = tables.sessions.rows ++
    [request.session stamp] ∧
    ∃ made, record (request.room publicId (tables.epochs + 1) now) (request.session stamp) = .ok made
  presence : ∃ stamp, after.presences.rows = tables.presences.rows ++ [request.presence stamp]
  rounds : after.rounds = tables.rounds
  frozen : after.roundParticipants = tables.roundParticipants
  event : read.commandApplied request.commandId = true ∧ after.events = tables.events ∨
    read.commandApplied request.commandId = false ∧ ∃ room session, room.id = request.roomId ∧
      session.id = request.sessionId ∧ session.version = 1 ∧ after.events.rows =
        tables.events.rows ++ [nextEvent tables room session request.commandId request.actor .roomCreated]
  epochs : after.epochs = tables.epochs + 1

def Command.expectedVersion : Command → Option Nat
  | .kick _ _ _ version _ | .changeHost _ _ _ version _ | .updateSettings _ _ _ version _
  | .changePassword _ _ _ version _ _ | .startRound _ _ _ version _ _
  | .completeRound _ _ _ version _ _ => some version
  | .create _ | .join .. | .leave .. | .cleanup .. => none

/-- The room and the identifier of a command that is checked against the version of its
room. -/
def Command.hosted : Command → Option (Nat × Uuid)
  | .kick commandId _ publicId _ _ | .changeHost commandId _ publicId _ _ | .updateSettings
      commandId _ publicId _ _
  | .changePassword commandId _ publicId _ _ _ | .startRound commandId _ publicId _ _ _
  | .completeRound commandId _ publicId _ _ _ => some (publicId, commandId)
  | .create _ | .join .. | .leave .. | .cleanup .. => none

def Command.brought : Command → Brought
  | .startRound _ _ _ _ roundId participants => { round := some roundId, participants }
  | .updateSettings _ _ _ _ settings => { settings := some settings }
  | .leave _ actor _ _ => { departs := some actor }
  | .cleanup _ account _ _ => { departs := some account }
  | .kick _ _ _ _ target => { departs := some target }
  | _ => {}

/-- What a committed command can have done to the tables. -/
inductive Change (read tables : Tables) (command : Command) : Tables → Prop where
  | unchanged : Change read tables command tables
  | opened {request : CreateRequest} {after : Tables} (create : command = .create request)
      (opens : Opens read tables request after) : Change read tables command after
  | edited {commandId : Uuid} {room : Room} {session : MultiplayerSession} {after : Tables}
      (edits : Edits command.brought read tables commandId room session after)
      (expected : ∀ version, command.expectedVersion = some version → session.version = version)
      (placed : ∀ publicId key, command.hosted = some (publicId, key) → room.publicId = publicId) :
      Change read tables command after

/-- The record of an active room and its session. -/
def Standing (tables : Tables) (made : RoomRecord) : Prop :=
  ∃ room session, (room, session) ∈ tables.activeRooms ∧ record room session = .ok made

/-- The record of an edited room stands under the same public identifier. -/
structure Revises (room : Room) (settings : RoomSettings) (after : Tables) (made : RoomRecord) : Prop where
  standing : Standing after made
  publicId : made.publicId = room.publicId
  settings : made.settings = settings

/-- A command on the active room of a public identifier answers with a record that
stands. A repeated one changes nothing. -/
def Serves (read tables : Tables) (publicId : Nat) (commandId : Uuid)
    (settle : RoomSettings → RoomSettings) (after : Tables) (made : RoomRecord) : Prop :=
  ∃ room session, (room, session) ∈ tables.activeRooms ∧ room.publicId = publicId ∧
    (read.commandApplied commandId = true ∧ record room session = .ok made ∧ after = tables ∨
      read.commandApplied commandId = false ∧ Revises room (settle room.settings) after made)

/-- What a leave answers about a room: its record, or that it is no longer found. -/
def Remains (after : Tables) (publicId : Nat) : Option RoomRecord → Prop
  | some made => Standing after made ∧ made.publicId = publicId
  | none => after.getRoom publicId = .ok none

/-- What a command makes of the settings of its room. -/
def Command.settle : Command → RoomSettings → RoomSettings
  | .updateSettings _ _ _ _ settings => fun _ => settings
  | _ => id

/-- The rooms and the rounds are as they were. -/
def Untouched (tables after : Tables) :
    Prop := after.rooms.rows = tables.rooms.rows ∧ after.rounds.rows = tables.rounds.rows

/-- A room whose row is put in the place of the one that was found. -/
def Rewrites (tables : Tables) (publicId : Nat) (rewrite : Room → Room) (after : Tables) : Prop :=
  ∃ room session, tables.entities publicId = some (room, session) ∧
    after.rooms.rows = replaced (·.id) tables.rooms.rows (rewrite room) ∧
    after.rounds.rows = tables.rounds.rows

/-- A round that was in progress has ended; no other row has changed. -/
def Ends (tables : Tables) (sessionId roundId : Uuid) (after : Tables) : Prop :=
  ∃ round ended : Round, round ∈ tables.playing sessionId ∧ round.id = roundId ∧
    ended.id = roundId ∧ ended.status ≠ .inProgress ∧ ended.sessionId = round.sessionId ∧
    after.rounds.rows = replaced (·.id) tables.rounds.rows ended

/-- An account closes its room when it leaves: it is there on this connection, and
nobody else is. -/
def Closes (tables : Tables) (sessionId : Uuid) (account : Nat) (connection : Option Uuid) : Prop :=
  (currentPresence tables sessionId account connection).isSome = true ∧
    remainingAccounts tables sessionId account = []

/-- Who departs with a command, and on which connection. -/
def Command.departs : Command → Option (Nat × Uuid)
  | .leave _ actor connection _ | .cleanup _ actor connection _ => some (actor, connection)
  | _ => none

/-- What a committed command has written in the rooms and the rounds. -/
inductive Wrote (read tables : Tables) (command : Command) (after : Tables) : Prop where
  | untouched (same : Untouched tables after)
      (calm : ∀ commandId actor publicId version salt verifier,
        command = .changePassword commandId actor publicId version salt verifier → after = tables)
  | opened {request : CreateRequest} {publicId : Nat} {now : Int} (create : command = .create request)
      (rooms : after.rooms.rows = tables.rooms.rows ++ [request.room publicId (tables.epochs + 1) now])
      (rounds : after.rounds.rows = tables.rounds.rows)
  | settled {commandId : Uuid} {actor publicId version : Nat} {settings : RoomSettings}
      (update : command = .updateSettings commandId actor publicId version settings)
      (rewrites : Rewrites tables publicId (fun stored => { stored with settings }) after)
  | secured {commandId : Uuid} {actor publicId version : Nat} {salt verifier : Option String}
      (change : command = .changePassword commandId actor publicId version salt verifier)
      (logged : after.events.rows.length = tables.events.rows.length + 1)
      (rewrites : Rewrites tables publicId
        (fun stored => { stored with passwordPrefix := salt, passwordVerifier := verifier }) after)
  | started {commandId roundId : Uuid} {actor publicId version : Nat}
      {participants : List RoundParticipantSelection} {round : Round}
      (start : command = .startRound commandId actor publicId version roundId participants)
      (rooms : after.rooms.rows = tables.rooms.rows)
      (rounds : after.rounds.rows = tables.rounds.rows ++ [round])
      (status : round.status = .inProgress)
  | completed {commandId : Uuid} {actor publicId version : Nat} {roundId : Option Uuid} {aborted : Bool}
      {session active : Uuid} (complete : command = .completeRound commandId actor publicId version
      roundId aborted)
      (rooms : after.rooms.rows = tables.rooms.rows) (ends : Ends tables session active after)
  | closed {account publicId : Nat} {connection : Uuid} {room : Room} {session : MultiplayerSession}
      {ended : Int} (departs : command.departs = some (account, connection))
      (found : tables.entities publicId = some (room, session))
      (closes : Closes tables session.id account (some connection))
      (rooms : after.rooms.rows =
        replaced (·.id) tables.rooms.rows { room with status := .ended, endsAt := some ended })
      (rounds : tables.playing session.id = [] ∧ after.rounds.rows = tables.rounds.rows ∨
        ∃ active, tables.activeRoundId session.id = some active ∧ Ends tables session.id active after)

theorem Wrote.unchanged {read tables : Tables} : Wrote read tables command tables :=
  .untouched ⟨rfl, rfl⟩ fun _ _ _ _ _ _ _ => rfl

/-- The identifier by which a repeated command is recognised before anything else. -/
def Command.replayId : Command → Option Uuid
  | .create request => some request.commandId
  | .leave commandId _ _ _ | .kick commandId _ _ _ _ | .changeHost commandId _ _ _
      _ | .updateSettings commandId _ _ _ _
  | .changePassword commandId _ _ _ _ _ | .startRound commandId _ _ _ _ _
  | .completeRound commandId _ _ _ _ _ => some commandId
  | .join .. | .cleanup .. => none

section

variable {read tables after : Tables}

theorem appendEvent_eq_ok (names : ∀ result events, raised result = .ok events → result = .ok events)
    (ran : appendEvent read tables raised room session commandId actor eventType = .ok after) :
    ∃ events, after = { tables with events } ∧ (read.commandApplied commandId = true ∧
        events = tables.events ∨ read.commandApplied commandId = false ∧
          events.rows = tables.events.rows ++ [nextEvent tables room session commandId actor eventType]) := by
  unfold appendEvent at ran
  split at ran
  · next known =>
    cases ran
    exact ⟨tables.events, rfl, .inl ⟨known, rfl⟩⟩
  · next unknown =>
    obtain ⟨events, inserted, ran⟩ := of_bind_eq_ok ran
    cases ran
    refine ⟨events, rfl, .inr ⟨by simpa using unknown, ?_⟩⟩
    exact insert_eq_ok (names _ _ inserted)

theorem integrity_names (result : Except String α) (value : α)
    (ran : integrity result = .ok value) : result = .ok value :=
  of_mapError_eq_ok ran

theorem mapped_names (result : Except String α) (value : α) (ran : mapped result = .ok value) :
    result = .ok value :=
  of_mapError_eq_ok ran

theorem rows_of_insert {after : Table constraints}
    (ran : (table.insert row).mapError raise = .ok after) : after.rows = table.rows ++ [row] :=
  insert_eq_ok (of_mapError_eq_ok ran)

theorem rows_of_update [DecidableEq Key] {key : Row → Key}
    {after : Table constraints} (ran : (table.update key row).mapError raise = .ok after) :
    after.rows = replaced key table.rows row :=
  update_eq_ok (of_mapError_eq_ok ran)

theorem commitSession_eq_ok (unknown : read.commandApplied commandId = false)
    (ran : commitSession read tables room session commandId actor eventType = .ok (made, after)) :
    ∃ sessions events, after = { tables with sessions, events } ∧
      sessions.rows = replaced (·.id) tables.sessions.rows session ∧
      events.rows = tables.events.rows ++ [nextEvent tables room session commandId actor eventType] ∧
      record room session = .ok made := by
  obtain ⟨sessions, updated, appended, event, ran⟩ := of_bind_bind_eq_ok ran
  obtain ⟨_, recorded, ran⟩ := of_bind_eq_ok ran
  cases ran
  obtain ⟨events, rfl, ⟨known, _⟩ | ⟨_, rows⟩⟩ := appendEvent_eq_ok integrity_names event
  · rw [unknown] at known
    cases known
  · exact ⟨sessions, events, rfl, rows_of_update updated, rows, recorded⟩

theorem record_eq_ok (ran : record room session = .ok made) :
    made.roomId = room.id ∧ made.publicId = room.publicId ∧ made.sessionId = session.id ∧
      made.version = session.version ∧ made.capacity = room.capacity ∧
      session.hostAccountId = some made.hostAccountId := by
  unfold record at ran
  split at ran
  · cases ran
  · next host hosted =>
    unfold RoomRecord.new at ran
    iterate 7 (split at ran; rotate_left; cases ran)
    cases ran
    exact ⟨rfl, rfl, rfl, rfl, rfl, hosted⟩

theorem record_settings (ran : record room session = .ok made) : made.settings = room.settings := by
  unfold record at ran
  split at ran
  · cases ran
  · unfold RoomRecord.new at ran
    iterate 7 (split at ran; rotate_left; cases ran)
    cases ran
    rfl

theorem rooms_kept (found : (room, session) ∈ tables.activeRooms) :
    tables.rooms.rows = replaced (·.id) tables.rooms.rows room :=
  (replaced_self fun _ member key => room_unique (mem_activeRooms.mp found).1.1 member key).symm

end

section

variable {tables : Tables}

theorem getRoom_eq_some (found : tables.getRoom publicId = .ok (some made)) :
    ∃ room session, (room, session) ∈ tables.activeRooms ∧ room.publicId = publicId ∧
    record room session = .ok made := by
  unfold Tables.getRoom at found
  split at found
  · cases found
  · next room session entry =>
    obtain ⟨_, recorded, found⟩ := of_bind_eq_ok found
    cases found
    have member := mem_of_firstBy entry
    exact ⟨room, session, mem_of_entities entry, by simpa using (mem_filter.mp member).2, recorded⟩

theorem entities_public (found : tables.entities publicId = some (room, session)) :
    room.publicId = publicId := by
  simpa using (mem_filter.mp (mem_of_firstBy found)).2

theorem entities_of_locked (ran : lockedEntities tables publicId = .ok (room, session)) :
    tables.entities publicId = some (room, session) := by
  unfold lockedEntities at ran
  split at ran
  · cases ran
  · next found =>
    cases ran
    exact found

theorem active_public_unique (one : room ∈ tables.rooms.rows) (open_ : room.status.active = true)
    (two : other ∈ tables.rooms.rows) (alsoOpen : other.status.active = true)
    (same : other.publicId = room.publicId) : other = room := by
  have indexed : .unique "uq_room_active_public_id" (·.status.active) (·.publicId) ∈ roomConstraints := by
    simp [roomConstraints]
  exact tables.rooms.eq_of_unique indexed two alsoOpen one open_ same

theorem getRoom_public (found : tables.getRoom publicId = .ok (some made)) : made.publicId = publicId := by
  obtain ⟨room, session, _, taken, recorded⟩ := getRoom_eq_some found
  exact (record_eq_ok recorded).2.1.trans taken

theorem currentPresence_eq_some
    (found : currentPresence tables sessionId account connection = some presence) :
    presence ∈ tables.present sessionId ∧ presence.accountId = account ∧
      connection.all (presence.connectionSessionId = ·) = true := by
  have matched := find?_some found
  simp only [Bool.decide_and, Bool.and_eq_true, decide_eq_true_eq, Bool.decide_eq_true] at matched
  exact ⟨mem_of_find?_eq_some found, matched⟩

theorem mem_remainingAccounts : other ∈ remainingAccounts tables sessionId account ↔
    other ≠ account ∧ ∃ presence ∈ tables.present sessionId, presence.accountId = other := by
  simp only [remainingAccounts, mem_map, mem_insertionSort, mem_filter, decide_eq_true_eq]
  constructor
  · rintro ⟨presence, ⟨inside, different⟩, rfl⟩
    exact ⟨different, presence, inside, rfl⟩
  · rintro ⟨different, presence, inside, rfl⟩
    exact ⟨presence, ⟨inside, different⟩, rfl⟩

theorem activeRoundId_eq_none : tables.activeRoundId sessionId = none ↔ tables.playing sessionId = [] := by
  simp [Tables.activeRoundId]

theorem activeRoundId_eq_some (active : tables.activeRoundId sessionId = some roundId) :
    ∃ round ∈ tables.playing sessionId, round.id = roundId := by
  obtain ⟨round, first, rfl⟩ := Option.map_eq_some_iff.mp active
  exact ⟨round, mem_of_mem_head? first, rfl⟩

theorem mem_playing : round ∈ tables.playing sessionId ↔
    round ∈ tables.rounds.rows ∧ round.status = .inProgress ∧ round.sessionId = sessionId := by
  simp [Tables.playing]

/-- The active round of a session ends; without one nothing does. -/
theorem finishActiveRound_finishes
    (selected : (roundId <|> tables.activeRoundId session.id) = tables.activeRoundId session.id)
    (ran : finishActiveRound tables session aborted now roundId = .ok rounds) :
    Finishes tables session.id rounds.rows := by
  rw [finishActiveRound, selected] at ran
  cases active : tables.activeRoundId session.id with
  | none =>
    rw [active] at ran
    cases ran
    exact .idle (activeRoundId_eq_none.mp active)
  | some key =>
    obtain ⟨round, playing, rfl⟩ := activeRoundId_eq_some active
    obtain ⟨stored, inProgress, ours⟩ := mem_playing.mp playing
    have found : tables.rounds.rows.find? (·.id = round.id) = some round := by
      cases looked : tables.rounds.rows.find? (·.id = round.id) with
      | none => exact absurd (decide_eq_true rfl) (find?_eq_none.mp looked round stored)
      | some other =>
        rw [round_unique stored (mem_of_find?_eq_some looked) (by simpa using find?_some looked)]
    simp only [active, found, ours, inProgress, ne_eq, not_true_eq_false, or_self, ↓reduceIte] at ran
    rw [rows_of_update ran]
    exact .ended playing rfl (by cases aborted <;> simp) ours.symm rfl

end

section

variable {tables after : Tables}

theorem present_congr (same : after.presences.rows = tables.presences.rows) (sessionId : Uuid) :
    after.present sessionId = tables.present sessionId := by
  rw [Tables.present, same]
  rfl

theorem playing_congr (same : after.rounds.rows = tables.rounds.rows) (sessionId : Uuid) :
    after.playing sessionId = tables.playing sessionId := by
  rw [Tables.playing, same]
  rfl

theorem present_inserted (inserted : after.presences.rows = tables.presences.rows ++ [presence])
    (current : presence.current = true) (sessionId : Uuid) :
    after.present sessionId =
      tables.present sessionId ++ if presence.sessionId = sessionId then [presence] else [] := by
  rw [Tables.present, inserted, filter_append]
  by_cases same : presence.sessionId = sessionId <;> simp [Tables.present, same, current]

theorem present_ended (stored : presence ∈ tables.present session)
    (updated : after.presences.rows = replaced (·.id) tables.presences.rows ended)
    (key : ended.id = presence.id) (left : ended.current = false) (sessionId : Uuid) :
    after.present sessionId = (tables.present sessionId).filter (·.accountId ≠ presence.accountId) := by
  rw [Tables.present, updated, filter_replaced _ (by simp [left])]
  apply filter_congr
  intro other member
  obtain ⟨here, current, _⟩ := mem_present.mp stored
  obtain ⟨there, alsoCurrent, _⟩ := mem_present.mp (show other ∈ tables.present sessionId from member)
  have same : other.id = ended.id ↔ other.accountId = presence.accountId := by
    rw [key]
    constructor
    · exact fun same => congrArg _ (tables.presences.eq_of_unique mem_cons_self there rfl here rfl same)
    · exact fun same => congrArg _ (account_unique here current there alsoCurrent same)
  simp [same]

theorem present_ended_elsewhere (stored : presence ∈ tables.present session)
    (updated : after.presences.rows = replaced (·.id) tables.presences.rows ended)
    (key : ended.id = presence.id) (left : ended.current = false) (different : other ≠ session) :
    after.present other = tables.present other := by
  rw [present_ended stored updated key left, filter_eq_self]
  intro elsewhere member
  obtain ⟨here, current, inside⟩ := mem_present.mp stored
  obtain ⟨there, alsoCurrent, outside⟩ := mem_present.mp member
  apply decide_eq_true
  intro same
  obtain rfl := account_unique here current there alsoCurrent same
  exact different (outside.symm.trans inside)

theorem playing_finished (finishes : Finishes tables sessionId after.rounds.rows) (other : Uuid) :
    after.playing other = if other = sessionId then [] else tables.playing other := by
  generalize rounds : after.rounds.rows = rows at finishes
  cases finishes with
  | idle none =>
    rw [playing_congr rounds]
    split
    · next same => rw [same, none]
    · rfl
  | @ended round ended active key stopped =>
    rw [Tables.playing, rounds, filter_replaced _ (by simp [stopped])]
    split
    · next same =>
      subst same
      rw [filter_eq_nil_iff]
      intro playing member
      obtain rfl := playing_unique active (show playing ∈ tables.playing other from member)
      simp [key]
    · next different =>
      apply filter_eq_self.mpr
      intro playing member
      obtain ⟨stored, _, ours⟩ := mem_playing.mp active
      obtain ⟨elsewhere, _, theirs⟩ := mem_playing.mp (show playing ∈ tables.playing other from member)
      apply decide_eq_true
      rw [key]
      intro same
      obtain rfl := round_unique stored elsewhere same
      exact different (theirs.symm.trans ours)

end

end Perfcho.Durable
