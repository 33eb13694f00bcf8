import Perfcho.Durable.Changes

/-! What the commands run. Each method is followed once, to the rows that it edits, the
record that it answers with and what it has written in the rooms and the rounds; each
transaction is followed once to its method. -/

namespace Perfcho.Durable

open Foundation Multiplayer Option

variable {read tables after : Tables} {command : Command}

/-- New settings find no round in progress, and the end of a round leaves none. -/
def Command.Halts (tables after : Tables) (sessionId : Uuid) : Command → Prop
  | .updateSettings .. => tables.playing sessionId = []
  | .completeRound .. => after.playing sessionId = []
  | _ => True

/-- What a method on an active room has done for its command. -/
structure Performs (command : Command) (read tables : Tables) (commandId : Uuid) (room : Room)
    (session : MultiplayerSession) (made : RoomRecord) (after : Tables) : Prop where
  edits : Edits command.brought read tables commandId room session after
  revises : Revises room (command.settle room.settings) after made
  wrote : Wrote read tables command after
  halts : command.Halts tables after session.id

/-- A method answers a repeated command with the room as it is, and another one when it
has found the room at the version that was shown. -/
def Handles (command : Command) (read tables : Tables) (shown : RoomRecord) (commandId : Uuid)
    (made : RoomRecord) (after : Tables) : Prop :=
  ∃ room session, tables.entities shown.publicId = some (room, session) ∧
    (read.commandApplied commandId = true ∧ record room session = .ok made ∧ after = tables ∨
      session.version = shown.version ∧ Performs command read tables commandId room session made after)

theorem revises_of_rows (found : (room, session) ∈ tables.activeRooms)
    (rooms : after.rooms.rows = Table.replaced (·.id) tables.rooms.rows editedRoom)
    (sessions : after.sessions.rows = Table.replaced (·.id) tables.sessions.rows edited)
    (edit : Edit brought tables room session editedRoom edited occupants played frozen)
    (open_ : editedRoom.status = room.status) (status : edited.status = session.status)
    (recorded : record editedRoom edited = .ok made) : Revises room editedRoom.settings after made := by
  obtain ⟨roomKey, publicId, _, key, house, _⟩ := edit.keyed
  obtain ⟨⟨stored, active⟩, hosting, named, running⟩ := mem_activeRooms.mp found
  refine ⟨⟨editedRoom, edited,
    mem_activeRooms.mpr ⟨⟨?_, by rw [open_, active]⟩, ?_, ?_, status.trans running⟩, recorded⟩,
    (record_eq_ok recorded).2.1.trans publicId, record_settings recorded⟩
  · exact rooms ▸ row_mem_replaced stored roomKey.symm
  · exact sessions ▸ row_mem_replaced hosting key.symm
  · rw [house, named, roomKey]

/-- A method that stages its rows and then commits the session. -/
theorem commitSession_performs
    (ran : commitSession read staged editedRoom
      { session with version := session.version + 1, hostAccountId := host } commandId
      actor eventType = .ok (made, after))
    (found : (room, session) ∈ tables.activeRooms) (unknown : read.commandApplied commandId = false)
    (rest : staged.sessions = tables.sessions ∧ staged.events = tables.events ∧ staged.epochs = tables.epochs)
    (rooms : staged.rooms.rows = Table.replaced (·.id) tables.rooms.rows editedRoom)
    (edit : Edit command.brought tables room session editedRoom
      { session with version := session.version + 1, hostAccountId := host } staged.presences.rows
      staged.rounds.rows staged.roundParticipants.rows)
    (open_ : editedRoom.status = room.status) (settled : editedRoom.settings = command.settle room.settings)
    (wrote : after.rooms.rows = staged.rooms.rows → after.rounds.rows = staged.rounds.rows →
      after.events.rows.length = tables.events.rows.length + 1 →
      Wrote read tables command after ∧ command.Halts tables after session.id) :
    Performs command read tables commandId room session made after := by
  obtain ⟨sameSessions, sameEvents, epochs⟩ := rest
  obtain ⟨sessions, events, rfl, replaced, logged, recorded⟩ := commitSession_eq_ok unknown ran
  obtain ⟨wrote, halts⟩ := wrote rfl rfl (by simp [logged, sameEvents])
  rw [sameSessions] at replaced
  rw [nextEvent, sameEvents] at logged
  refine ⟨⟨found, unknown, ⟨editedRoom, _, actor, eventType, edit, rooms, replaced, logged, fun _ =>
    ⟨made, recorded⟩⟩, epochs⟩,
    settled ▸ revises_of_rows found rooms replaced edit open_ rfl recorded, wrote, halts⟩

theorem mutating_eq_ok (ran : mutating read tables publicId commandId check act = .ok (made, after)) :
    ∃ room session, tables.entities publicId = some (room, session) ∧
      (read.commandApplied commandId = true ∧ record room session = .ok made ∧ after = tables ∨
        read.commandApplied commandId = false ∧ check session = .ok () ∧
        act room session = .ok (made, after)) := by
  obtain ⟨⟨room, session⟩, located, ran⟩ := of_bind_eq_ok ran
  refine ⟨room, session, entities_of_locked located, ?_⟩
  cases known : read.commandApplied commandId with
  | true =>
    simp only [known, ↓reduceIte] at ran
    obtain ⟨_, recorded, ran⟩ := of_bind_eq_ok ran
    cases ran
    exact .inl ⟨rfl, recorded, rfl⟩
  | false =>
    simp only [known, Bool.false_eq_true, ↓reduceIte] at ran
    obtain ⟨_, checked, ran⟩ := of_bind_eq_ok ran
    exact .inr ⟨rfl, checked, ran⟩

theorem mutating_handles (versioned : ∀ session, check session = .ok () → session.version = shown.version)
    (acts : ∀ room session, tables.entities shown.publicId = some (room, session) →
      read.commandApplied commandId = false →
      check session = .ok () → act room session = .ok (made, after) →
      Performs command read tables commandId room session made after)
    (ran : mutating read tables shown.publicId commandId check act = .ok (made, after)) :
    Handles command read tables shown commandId made after := by
  obtain ⟨room, session, found, known | ⟨unknown, checked, ran⟩⟩ := mutating_eq_ok ran
  · exact ⟨room, session, found, .inl known⟩
  · exact ⟨room, session, found,
      .inr ⟨versioned session checked, acts room session found unknown checked ran⟩⟩

theorem requireVersion_eq_ok (checked : requireVersion room session = .ok ()) :
    session.version = room.version := by
  unfold requireVersion at checked
  split at checked
  · cases checked
  · next version => exact not_not.mp version

theorem requireHostVersion_eq_ok (checked : requireHostVersion room session actor = .ok ()) :
    session.hostAccountId = some actor ∧ session.version = room.version := by
  unfold requireHostVersion at checked
  split at checked
  · cases checked
  · next host => exact ⟨not_not.mp host, requireVersion_eq_ok checked⟩

theorem hostVersioned (session : MultiplayerSession)
    (checked : requireHostVersion room session actor = .ok ()) : session.version = room.version :=
  (requireHostVersion_eq_ok checked).2

theorem kickParticipant_handles
    (ran : kickParticipant read tables moment shown commandId actor target = .ok (made, after)) :
    Handles (.kick commandId actor shown.publicId version target) read tables shown commandId made after := by
  refine mutating_handles hostVersioned ?_ ran
  intro room session found unknown checked ran
  split at ran
  · cases ran
  next different =>
  split at ran
  · cases ran
  next presence inside =>
  obtain ⟨presences, ended, participants, _, ran⟩ := of_bind_bind_eq_ok ran
  obtain ⟨current, account, _⟩ := currentPresence_eq_some inside
  -- The actor is the host and is not the target.
  have stays : session.hostAccountId ≠ some presence.accountId := by
    rw [(requireHostVersion_eq_ok checked).1, account]
    exact fun same => different (some.inj same).symm
  refine commitSession_performs ran (mem_of_entities found) unknown ⟨rfl, rfl,
    rfl⟩ (rooms_kept (mem_of_entities found)) ?_ rfl rfl fun rooms rounds _ =>
    ⟨.untouched ⟨rooms, rounds⟩ (fun _ _ _ _ _ _ same => by cases same), trivial⟩
  rw [show presences.rows = _ from rows_of_update ended]
  exact .left current (congrArg some account.symm) (.inl ⟨rfl, stays⟩)

theorem changeHost_handles (ran : changeHost read tables shown commandId actor target = .ok (made, after)) :
    Handles (.changeHost commandId actor shown.publicId version target) read tables shown commandId
    made after := by
  refine mutating_handles hostVersioned ?_ ran
  intro room session found unknown checked ran
  split at ran
  · cases ran
  next inside =>
  obtain ⟨presence, present⟩ := isSome_iff_exists.mp (isSome_iff_ne_none.mpr (by simpa using inside))
  obtain ⟨current, account, _⟩ := currentPresence_eq_some present
  refine commitSession_performs ran (mem_of_entities found) unknown ⟨rfl, rfl,
    rfl⟩ (rooms_kept (mem_of_entities found)) ?_ rfl rfl fun rooms rounds _ =>
    ⟨.untouched ⟨rooms, rounds⟩ (fun _ _ _ _ _ _ same => by cases same), trivial⟩
  exact .revised rfl rfl rfl rfl (.inr ⟨presence, current, by rw [account]⟩) (.inl rfl)

theorem updateSettings_handles
    (ran : updateSettings read tables shown commandId actor settings = .ok (made, after)) :
    Handles (.updateSettings commandId actor shown.publicId version settings) read tables shown
    commandId made after := by
  refine mutating_handles hostVersioned ?_ ran
  intro room session found unknown checked ran
  split at ran
  · cases ran
  next idle =>
  obtain ⟨rooms, updated, ran⟩ := of_bind_eq_ok ran
  have none : tables.playing session.id = [] := activeRoundId_eq_none.mp (by simpa using idle)
  exact commitSession_performs ran (mem_of_entities found) unknown ⟨rfl, rfl, rfl⟩ (rows_of_update updated)
    (.revised rfl rfl rfl rfl (.inl rfl) (.inr ⟨none, rfl⟩)) rfl rfl fun rooms rounds _ =>
      ⟨.settled rfl ⟨room, session, found, rooms.trans (rows_of_update updated), rounds⟩, none⟩

theorem changePassword_handles
    (ran : changePassword read tables shown commandId actor salt verifier = .ok (made, after)) :
    Handles (.changePassword commandId actor shown.publicId version salt verifier) read tables shown
    commandId made after := by
  refine mutating_handles hostVersioned ?_ ran
  intro room session found unknown checked ran
  obtain ⟨rooms, updated, ran⟩ := of_bind_eq_ok ran
  exact commitSession_performs ran (mem_of_entities found) unknown ⟨rfl, rfl, rfl⟩ (rows_of_update updated)
    (.revised rfl rfl rfl rfl (.inl rfl) (.inl rfl)) rfl rfl fun rooms rounds logged =>
      ⟨.secured rfl logged ⟨room, session, found, rooms.trans (rows_of_update updated), rounds⟩, trivial⟩

theorem freezeParticipants_eq_ok {frozen after : Table roundParticipantConstraints}
    (ran : freezeParticipants tables settings sessionId roundId participants frozen = .ok after) :
    ∃ rows, after.rows = frozen.rows ++ rows ∧ List.Forall₂ (Freezes settings roundId) participants rows := by
  induction participants generalizing frozen with
  | nil =>
    cases ran
    exact ⟨[], by simp⟩
  | cons participant rest ih =>
    obtain ⟨mods, canonical, grown, inserted, ran⟩ := of_bind_bind_eq_ok ran
    obtain ⟨rows, appended, theirs⟩ := ih ran
    rw [rows_of_insert inserted, List.append_assoc] at appended
    exact ⟨_, appended, .cons ⟨rfl, rfl, rfl, rfl, of_mapError_eq_ok canonical⟩ theirs⟩

theorem startRound_handles
    (ran : startRound read tables moment shown commandId actor roundId participants = .ok (made, after)) :
    Handles (.startRound commandId actor shown.publicId version roundId participants) read tables
    shown commandId made after := by
  refine mutating_handles hostVersioned ?_ ran
  intro room session found unknown checked ran
  split at ran
  · cases ran
  next idle =>
  obtain ⟨started, begun, ran⟩ := of_bind_eq_ok ran
  obtain ⟨_, _, rounds, inserted, begun⟩ := of_bind_bind_eq_ok begun
  obtain ⟨frozen, froze, begun⟩ := of_bind_eq_ok begun
  cases begun
  obtain ⟨rows, appended, theirs⟩ := freezeParticipants_eq_ok froze
  refine commitSession_performs ran (mem_of_entities found) unknown ⟨rfl, rfl,
    rfl⟩ (rooms_kept (mem_of_entities found)) ?_ rfl rfl fun rooms rounds _ =>
    ⟨.started rfl rooms (rounds.trans (rows_of_insert inserted)) rfl, trivial⟩
  rw [show rounds.rows = _ from rows_of_insert inserted, show frozen.rows = _ from appended]
  exact .started rfl rfl rfl (activeRoundId_eq_none.mp (by simpa using idle)) theirs

theorem finishActiveRound_writes
    (same : staged.rounds = tables.rounds)
    (selected : (roundId <|> staged.activeRoundId session.id) = staged.activeRoundId session.id)
    (ran : finishActiveRound staged session aborted now roundId = .ok rounds)
    (stored : after.rounds.rows = rounds.rows) :
    tables.playing session.id = [] ∧ after.rounds.rows = tables.rounds.rows ∨
      ∃ active, tables.activeRoundId session.id = some active ∧ Ends tables session.id active after := by
  have playing : staged.playing session.id = tables.playing session.id := by
    unfold Tables.playing
    rw [same]
  have finishes := finishActiveRound_finishes selected ran
  rw [← stored] at finishes
  generalize finished : after.rounds.rows = rows at finishes
  cases finishes with
  | idle none => exact .inl ⟨playing ▸ none, by rw [same]⟩
  | @ended round ended active key stopped house _ =>
    rw [playing] at active
    refine .inr ⟨round.id, ?_, round, ended, active, rfl, key, stopped, house, by rw [finished, same]⟩
    unfold Tables.activeRoundId
    cases listed : tables.playing session.id with
    | nil => simp [listed] at active
    | cons first rest =>
      have first_eq : round = first := playing_unique (by rw [listed]; exact List.mem_cons_self) active
      rw [first_eq]
      rfl

theorem completeRound_handles (version : Nat)
    (ran : completeRound read tables moment shown commandId actor roundId aborted = .ok (made, after)) :
    Handles (.completeRound commandId actor shown.publicId version roundId aborted) read tables
      shown commandId made after ∧ (read.commandApplied commandId = false →
        ∃ session active, roundId.any (· ≠ active) = false ∧ Ends tables session active after) := by
  obtain ⟨room, session, found, known | ⟨unknown, checked, ran⟩⟩ := mutating_eq_ok ran
  · exact ⟨⟨room, session, found, .inl known⟩, fun fresh => by simp [fresh] at known⟩
  split at ran
  · cases ran
  next active current =>
  split at ran
  · cases ran
  next same =>
  obtain ⟨rounds, finished, ran⟩ := of_bind_eq_ok ran
  have selected : (some active <|> tables.activeRoundId session.id) = tables.activeRoundId session.id := by
    rw [current]
    rfl
  have stored : after.rounds.rows = rounds.rows := by
    obtain ⟨_, _, rfl, _⟩ := commitSession_eq_ok unknown ran
    rfl
  have ends : Ends tables session.id active after := by
    rcases finishActiveRound_writes rfl selected finished stored with ⟨idle, _⟩ | ⟨other, chosen, ends⟩
    · rw [activeRoundId_eq_none.mpr idle] at current
      cases current
    · rw [current] at chosen
      cases chosen
      exact ends
  have finishes := finishActiveRound_finishes selected finished
  have idle : after.playing session.id = [] := by rw [playing_finished (stored ▸ finishes), if_pos rfl]
  refine ⟨⟨room, session, found, .inr ⟨requireVersion_eq_ok checked, ?_⟩⟩, fun _ =>
    ⟨_, active, by simpa using same, ends⟩⟩
  exact commitSession_performs ran (mem_of_entities found) unknown ⟨rfl, rfl,
    rfl⟩ (rooms_kept (mem_of_entities found)) (.finished finishes) rfl rfl fun rooms _ _ =>
    ⟨.completed rfl rooms ends, idle⟩

theorem joinRoom_performs
    (join : command = .join commandId account connection room.publicId password presenceId)
    (ran : joinRoom read tables moment room key account connection presenceId = .ok (made, after)) :
    (Standing after made ∧ made.publicId = room.publicId) ∧ Change read tables command after ∧
      Wrote read tables command after := by
  subst join
  obtain ⟨⟨stored, session⟩, located, ran⟩ := of_bind_eq_ok ran
  obtain ⟨durable, recorded, ran⟩ := of_bind_eq_ok ran
  have found := mem_of_entities (entities_of_locked located)
  have public_ := entities_public (entities_of_locked located)
  obtain ⟨roomKey, samePublic, sessionKey, _, capacity, _⟩ := record_eq_ok recorded
  have unchanged : Standing tables durable ∧ durable.publicId = room.publicId :=
    ⟨⟨stored, session, found, recorded⟩, samePublic.trans public_⟩
  split at ran
  · cases ran
    exact ⟨unchanged, .unchanged, .unchanged⟩
  next unknown =>
  obtain ⟨current, _, ran⟩ := of_bind_eq_ok ran
  cases current with
  | some other =>
    simp only at ran
    split at ran
    · cases ran
      exact ⟨unchanged, .unchanged, .unchanged⟩
    · cases ran
  | none =>
    simp only at ran
    split at ran
    · cases ran
    next spare =>
    obtain ⟨participants, _, sessions, updated, ran⟩ := of_bind_bind_eq_ok ran
    obtain ⟨appended, event, presences, inserted, ran⟩ := of_bind_bind_eq_ok ran
    obtain ⟨made, recorded, ran⟩ := of_bind_eq_ok ran
    cases ran
    obtain ⟨events, rfl, ⟨known, _⟩ | ⟨fresh, logged⟩⟩ := appendEvent_eq_ok mapped_names event
    · exact absurd known unknown
    have edit : Edit {} tables stored session stored { session with version := session.version + 1 }
      presences.rows tables.rounds.rows tables.roundParticipants.rows := by
      rw [rows_of_insert inserted]
      exact .joined sessionKey roomKey rfl (sessionKey ▸ capacity ▸ not_le.mp spare)
    have kept := rooms_kept found
    have revises : Revises stored stored.settings
      { tables with participants, sessions, events, presences } made :=
      revises_of_rows found kept (rows_of_update updated) edit rfl rfl recorded
    refine ⟨⟨revises.standing, revises.publicId.trans public_⟩, .edited ⟨found, fresh, ⟨stored, _, account,
      .participantJoined, edit, kept, rows_of_update updated, logged, fun _ => ⟨made, recorded⟩⟩, rfl⟩
      (fun _ expected => by cases expected) (fun _ _ hosted => by cases hosted),
      .untouched ⟨rfl, rfl⟩ fun _ _ _ _ _ _ same => by cases same⟩

theorem brought_of_departs (departs : command.departs = some (account, connection)) :
    command.brought = { departs := some account } ∧ command.expectedVersion = none ∧
    command.hosted = none := by
  cases command with
  | leave | cleanup =>
    cases departs
    exact ⟨rfl, rfl, rfl⟩
  | _ => cases departs

theorem getRoom_closed (found : tables.entities publicId = some (room, session))
    (rooms : after.rooms.rows = Table.replaced (·.id) tables.rooms.rows
      { room with status := .ended, endsAt := ended }) :
    after.getRoom publicId = .ok none := by
  rw [Tables.getRoom]
  split
  · rfl
  next other hosting entry =>
  exfalso
  obtain ⟨⟨member, active⟩, _⟩ := mem_activeRooms.mp (mem_of_entities entry)
  rw [rooms] at member
  rcases mem_replaced member with rfl | ⟨old, different⟩
  · cases active
  · obtain ⟨⟨stored, open_⟩, _⟩ := mem_activeRooms.mp (mem_of_entities found)
    cases active_public_unique stored open_ old active
      ((entities_public entry).trans (entities_public found).symm)
    exact different rfl

theorem leaveRoom_performs (departs : command.departs = some (account, connection))
    (ran : leaveRoom read tables moment publicId commandId account (some connection) reason = .ok
      (answer, after)) :
    Remains after publicId answer ∧ Change read tables command after ∧ Wrote read tables command after := by
  obtain ⟨⟨room, session⟩, located, ran⟩ := of_bind_eq_ok ran
  have entry := entities_of_locked located
  have found := mem_of_entities entry
  have public_ := entities_public entry
  have unchanged : ∀ made, record room session = .ok made →
    Remains tables publicId (some made) ∧ Change read tables command tables ∧
    Wrote read tables command tables :=
    fun made recorded =>
      ⟨⟨⟨room, session, found, recorded⟩, (record_eq_ok recorded).2.1.trans public_⟩, .unchanged, .unchanged⟩
  obtain ⟨brought, expects, unhosted⟩ := brought_of_departs departs
  have edited : Edits { departs := some account } read tables commandId room session after →
    Change read tables command after :=
    fun edits => .edited (brought ▸ edits) (by simp [expects]) (by simp [unhosted])
  dsimp only at ran
  split at ran
  · obtain ⟨made, recorded, ran⟩ := of_bind_eq_ok ran
    cases ran
    exact unchanged made recorded
  next unknown =>
  split at ran
  · obtain ⟨made, recorded, ran⟩ := of_bind_eq_ok ran
    cases ran
    exact unchanged made recorded
  next presence inside =>
  obtain ⟨current, rfl, _⟩ := currentPresence_eq_some inside
  obtain ⟨presences, ended, participants, _, ran⟩ := of_bind_bind_eq_ok ran
  have parted := rows_of_update ended
  split at ran
  · next alone =>
    obtain ⟨rounds, finished, rooms, closed, ran⟩ := of_bind_bind_eq_ok ran
    obtain ⟨sessions, completed, appended, event, ran⟩ := of_bind_bind_eq_ok ran
    cases ran
    obtain ⟨events, rfl, ⟨known, _⟩ | ⟨fresh, logged⟩⟩ := appendEvent_eq_ok integrity_names event
    · exact absurd known unknown
    refine ⟨getRoom_closed entry (rows_of_update closed),
      edited ⟨found, fresh, ⟨_, _, presence.accountId, .roomClosed, ?_,
      rows_of_update closed, rows_of_update completed, logged, fun active => by cases active⟩, rfl⟩,
      .closed departs entry ⟨by rw [inside]; rfl, alone⟩
        (rows_of_update closed) (finishActiveRound_writes rfl rfl finished rfl)⟩
    rw [show presences.rows = _ from parted]
    refine .closed current ?_ (finishActiveRound_finishes rfl finished)
    intro other there
    by_contra different
    exact List.not_mem_nil (alone ▸ mem_remainingAccounts.mpr ⟨different, other, there, rfl⟩)
  · next company =>
    obtain ⟨⟨made, final⟩, commits, ran⟩ := of_bind_eq_ok ran
    cases ran
    have performs : Performs command read tables commandId room session made final := by
      refine commitSession_performs commits found (Bool.eq_false_iff.mpr unknown) ⟨rfl, rfl,
        rfl⟩ (rooms_kept found) ?_ rfl ?_ ?_
      · rw [brought, show presences.rows = _ from parted]
        apply Edit.left current rfl
        by_cases host : session.hostAccountId = some presence.accountId
        · -- The host hands over to the first of those who remain.
          right
          obtain ⟨heir, first⟩ := isSome_iff_exists.mp (List.isSome_head?.mpr company)
          obtain ⟨different, other, there, rfl⟩ := mem_remainingAccounts.mp (List.mem_of_mem_head? first)
          exact ⟨other, there, different, by rw [if_pos host, first]⟩
        · exact .inl ⟨if_neg host, host⟩
      · cases command <;> first | rfl | cases departs
      · intro rooms rounds _
        refine ⟨.untouched ⟨rooms, rounds⟩ ?_, by cases command <;> trivial⟩
        rintro _ _ _ _ _ _ rfl
        cases departs
    exact ⟨⟨performs.revises.standing, performs.revises.publicId.trans public_⟩,
      edited (brought ▸ performs.edits), performs.wrote⟩

theorem createRoom_opens (ran : createRoom read tables moment request = .ok (made, after)) :
    after = tables ∨ Opens read tables request after := by
  obtain ⟨replay, _, ran⟩ := of_bind_eq_ok ran
  cases replay with
  | some room =>
    cases ran
    exact .inl rfl
  | none =>
    obtain ⟨current, _, ran⟩ := of_bind_eq_ok ran
    cases current with
    | some room => cases ran
    | none =>
      simp only at ran
      split at ran
      · cases ran
      obtain ⟨rooms, roomInserted, sessions, sessionInserted, ran⟩ := of_bind_bind_eq_ok ran
      obtain ⟨participants, _, presences, presenceInserted, ran⟩ := of_bind_bind_eq_ok ran
      obtain ⟨appended, event, _, recorded, ran⟩ := of_bind_bind_eq_ok ran
      cases ran
      obtain ⟨events, rfl, logged⟩ := appendEvent_eq_ok mapped_names event
      refine .inr ⟨⟨_, _, _, rows_of_insert roomInserted, rows_of_insert sessionInserted, made, recorded⟩,
        ⟨_, rows_of_insert presenceInserted⟩, rfl, rfl, ?_, rfl⟩
      rcases logged with known | ⟨unknown, rows⟩
      · exact .inl known
      · exact .inr ⟨unknown, _, _, rfl, rfl, rfl, rows⟩

/-- No event of a command is found before it runs. -/
def Unanswered (read : Tables) (command : Command) : Prop :=
  ∀ commandId, command.replayId = some commandId → read.findCommandRoom commandId = .ok none

/-- What a committed command has run: nothing, or the method that it is for. -/
inductive Ran (read tables : Tables) (moment : Moment) (command : Command) :
    Option RoomRecord → Tables → Prop where
  | replays {commandId : Uuid} {room : RoomRecord} {answer : Option RoomRecord}
      (named : command.replayId = some commandId)
      (found : read.findCommandRoom commandId = .ok (some room)) (answered : ∀ made,
        answer = some made → made = room) :
      Ran read tables moment command answer tables
  | missing {account : Nat} {connection : Uuid} (unanswered : Unanswered read command)
      (departs : command.departs = some (account, connection)) : Ran read tables moment command none tables
  | seated {commandId connection presenceId : Uuid} {actor : Nat} {password : String} {active : RoomRecord}
      (join : command = .join commandId actor connection active.publicId password presenceId)
      (found : read.findRoomForAccount actor = .ok (some active)) :
      Ran read tables moment command (some active) tables
  | created {request : CreateRequest} {made : RoomRecord} {after : Tables}
      (unanswered : Unanswered read command) (create : command = .create request)
      (ran : createRoom read tables moment request = .ok (made, after)) :
      Ran read tables moment command (some made) after
  | joined {commandId key connection presenceId : Uuid} {actor : Nat} {password : String}
      {room made : RoomRecord}
      {after : Tables} (join : command = .join commandId actor connection room.publicId password presenceId)
      (ran : joinRoom read tables moment room key actor connection presenceId = .ok (made, after)) :
      Ran read tables moment command (some made) after
  | left {commandId connection : Uuid} {account publicId : Nat} {reason : String}
      {answer : Option RoomRecord} {after : Tables} (unanswered : Unanswered read command)
      (departs : command.departs = some (account, connection))
      (ran : leaveRoom read tables moment publicId commandId account (some connection) reason = .ok
        (answer, after)) :
      Ran read tables moment command answer after
  | handled {commandId : Uuid} {shown made : RoomRecord} {after : Tables}
      (unanswered : Unanswered read command)
      (located : tables.getRoom shown.publicId = .ok (some shown))
      (hosted : command.hosted = some (shown.publicId, commandId))
      (expects : command.expectedVersion = some shown.version)
      (handles : Handles command read tables shown commandId made after) :
      Ran read tables moment command (some made) after

theorem committed_answer (ran : committed result = .ok (answer, after)) :
    answer = some result.1 ∧ after = result.2 := by
  obtain ⟨_, _, ran⟩ := of_bind_eq_ok ran
  cases ran
  exact ⟨rfl, rfl⟩

theorem committedIfOpen_answer (ran : committedIfOpen result = .ok (answer, after)) :
    answer = result.1 ∧ after = result.2 := by
  obtain ⟨_ | room, stored⟩ := result
  · cases ran
    exact ⟨rfl, rfl⟩
  · exact committed_answer ran

theorem replayed_eq_ok (ran : replayed read tables commandId run = .ok (answer, after)) :
    (∃ room, read.findCommandRoom commandId = .ok (some room) ∧ answer = some room ∧
      after = tables) ∨ read.findCommandRoom commandId = .ok none ∧ run = .ok (answer, after) := by
  obtain ⟨found, looked, ran⟩ := of_bind_eq_ok ran
  cases found with
  | some room =>
    obtain ⟨_, _, ran⟩ := of_bind_eq_ok ran
    cases ran
    exact .inl ⟨room, looked, rfl, rfl⟩
  | none => exact .inr ⟨looked, ran⟩

theorem lockedRoom_eq_ok (ran : lockedRoom tables publicId expectedVersion = .ok room) :
    room.version = expectedVersion ∧ room.publicId = publicId ∧
    tables.getRoom room.publicId = .ok (some room) := by
  obtain ⟨found, looked, ran⟩ := of_bind_eq_ok ran
  cases found with
  | none => cases ran
  | some stored =>
    simp only at ran
    split at ran
    · cases ran
    · next same =>
      cases ran
      have taken := getRoom_public looked
      exact ⟨not_not.mp same, taken, taken ▸ looked⟩

theorem lockedHostRoom_eq_ok (ran : lockedHostRoom tables publicId actor expectedVersion = .ok room) :
    room.version = expectedVersion ∧ room.publicId = publicId ∧
    tables.getRoom room.publicId = .ok (some room) := by
  obtain ⟨found, looked, ran⟩ := of_bind_eq_ok ran
  cases found with
  | none => cases ran
  | some stored =>
    simp only at ran
    split at ran
    · cases ran
    · exact lockedRoom_eq_ok (by rw [lockedRoom, looked]; exact ran)

theorem unanswered_of (named : command.replayId = some commandId)
    (unanswered : read.findCommandRoom commandId = .ok none) : Unanswered read command := by
  intro other same
  cases named.symm.trans same
  exact unanswered

theorem replayed_ran {act : RoomRecord → Except Failure (RoomRecord × Tables)}
    (locks : ∀ shown, lock = .ok shown →
      shown.version = version ∧ shown.publicId = publicId ∧ tables.getRoom shown.publicId = .ok (some shown))
    (hosted : command.hosted = some (publicId, commandId))
    (expects : command.expectedVersion = some version) (named : command.replayId = some commandId)
    (handles : ∀ shown made after, shown.publicId = publicId → act shown = .ok (made, after) →
      Handles command read tables shown commandId made after)
    (ran : replayed read tables commandId (do
      let room ← lock
      let changed ← act room
      committed changed) = .ok (answer, after)) : Ran read tables moment command answer after := by
  rcases replayed_eq_ok ran with ⟨room, found, rfl, rfl⟩ | ⟨unanswered, ran⟩
  · exact .replays named found fun _ same => (some.inj same).symm
  · obtain ⟨shown, locked, ⟨made, changed⟩, acted, ran⟩ := of_bind_bind_eq_ok ran
    obtain ⟨rfl, rfl⟩ := committed_answer ran
    obtain ⟨rfl, rfl, located⟩ := locks shown locked
    exact .handled (unanswered_of named unanswered) located hosted expects (handles shown made _ rfl acted)

theorem joinTransaction_ran
    (ran : joinTransaction policies read tables moment commandId actor connection publicId password
      presenceId =
      .ok (answer, after)) :
    Ran read tables moment (.join commandId actor connection publicId password presenceId) answer after := by
  obtain ⟨_, _, found, located, ran⟩ := of_bind_bind_eq_ok ran
  cases found with
  | none => cases ran
  | some room =>
    obtain rfl := getRoom_public located
    obtain ⟨commandRoom, _, current, looked, ran⟩ := of_bind_bind_eq_ok ran
    cases current with
    | some active =>
      simp only at ran
      split at ran
      · cases ran
      next same =>
      have seated : Ran read tables moment
        (.join commandId actor connection room.publicId password presenceId) (some active)
        tables := .seated (by rw [not_not.mp same]) looked
      split at ran
      · obtain ⟨_, _, ran⟩ := of_bind_eq_ok ran
        obtain ⟨rfl, rfl⟩ := committed_answer ran
        exact seated
      · obtain ⟨rfl, rfl⟩ := committed_answer ran
        exact seated
    | none =>
      obtain ⟨_, _, ⟨made, joined⟩, joins, ran⟩ := of_bind_bind_eq_ok ran
      obtain ⟨rfl, rfl⟩ := committed_answer ran
      exact .joined rfl joins

theorem leaveTransaction_ran
    (ran : leaveTransaction policies read tables moment commandId actor connection publicId = .ok
      (answer, after)) :
    Ran read tables moment (.leave commandId actor connection publicId) answer after := by
  obtain ⟨_, _, replay, looked, ran⟩ := of_bind_bind_eq_ok ran
  cases replay with
  | some room =>
    obtain ⟨_, _, still, _, ran⟩ := of_bind_bind_eq_ok ran
    cases ran
    refine .replays rfl looked fun made answered => ?_
    obtain ⟨_, _, rfl⟩ := map_eq_some_iff.mp answered
    rfl
  | none =>
    obtain ⟨found, _, ran⟩ := of_bind_eq_ok ran
    cases found with
    | none =>
      cases ran
      exact .missing (unanswered_of rfl looked) rfl
    | some room =>
      obtain ⟨⟨left, _⟩, leaves, ran⟩ := of_bind_eq_ok ran
      obtain ⟨rfl, rfl⟩ := committedIfOpen_answer ran
      exact .left (unanswered_of rfl looked) rfl leaves

theorem cleanupTransaction_ran
    (ran : cleanupTransaction read tables moment commandId account connection reason = .ok (answer, after)) :
    Ran read tables moment (.cleanup commandId account connection reason) answer after := by
  obtain ⟨found, _, ran⟩ := of_bind_eq_ok ran
  cases found with
  | none =>
    cases ran
    exact .missing nofun rfl
  | some room =>
    obtain ⟨⟨left, _⟩, leaves, ran⟩ := of_bind_eq_ok ran
    obtain ⟨rfl, rfl⟩ := committedIfOpen_answer ran
    exact .left nofun rfl leaves

theorem createTransaction_ran
    (ran : createTransaction policies read tables moment request = .ok (answer, after)) :
    Ran read tables moment (.create request) answer after := by
  obtain ⟨_, _, ran⟩ := of_bind_eq_ok ran
  rcases replayed_eq_ok ran with ⟨room, found, rfl, rfl⟩ | ⟨unanswered, ran⟩
  · exact .replays rfl found fun _ same => (some.inj same).symm
  · obtain ⟨⟨made, created⟩, creates, ran⟩ := of_bind_eq_ok ran
    obtain ⟨rfl, rfl⟩ := committed_answer ran
    exact .created (unanswered_of rfl unanswered) rfl creates

section

variable (ran : transact policies read tables moment command = .ok (answer, after))
include ran

theorem transact_ran : Ran read tables moment command answer after := by
  cases command with
  | create request => exact createTransaction_ran ran
  | join => exact joinTransaction_ran ran
  | leave => exact leaveTransaction_ran ran
  | cleanup => exact cleanupTransaction_ran ran
  | kick | changeHost | updateSettings | changePassword | startRound =>
    obtain ⟨_, _, ran⟩ := of_bind_eq_ok ran
    refine replayed_ran (fun _ => lockedHostRoom_eq_ok) rfl rfl rfl ?_ ran
    rintro shown made after rfl acted
    first
    | exact kickParticipant_handles acted
    | exact changeHost_handles acted
    | exact updateSettings_handles acted
    | exact changePassword_handles acted
    | exact startRound_handles acted
  | completeRound =>
    obtain ⟨_, _, ran⟩ := of_bind_eq_ok ran
    refine replayed_ran (fun _ => lockedRoom_eq_ok) rfl rfl rfl ?_ ran
    rintro shown made after rfl acted
    exact (completeRound_handles _ acted).1

/-- A committed command is one of the changes. -/
theorem transact_change : Change read tables command after := by
  cases transact_ran ran with
  | replays | missing | seated => exact .unchanged
  | created _ create ran =>
    rcases createRoom_opens ran with rfl | opens
    · exact .unchanged
    · exact .opened create opens
  | joined join joins => exact (joinRoom_performs join joins).2.1
  | left _ departs ran => exact (leaveRoom_performs departs ran).2.1
  | handled _ _ hosted expects handles =>
    obtain ⟨room, session, found, ⟨_, _, rfl⟩ | ⟨version, performs⟩⟩ := handles
    · exact .unchanged
    apply Change.edited performs.edits
    · intro expected same
      rw [expects] at same
      cases same
      exact version
    · intro target key same
      rw [hosted] at same
      cases same
      exact entities_public found

/-- A committed command has written what it is for. -/
theorem transact_wrote : Wrote read tables command after := by
  cases transact_ran ran with
  | replays | missing | seated => exact .unchanged
  | created _ create ran =>
    rcases createRoom_opens ran with rfl | opens
    · exact .unchanged
    · obtain ⟨publicId, now, stamp, rooms, _⟩ := opens.rows
      exact .opened create rooms (by rw [opens.rounds])
  | joined join joins => exact (joinRoom_performs join joins).2.2
  | left _ departs ran => exact (leaveRoom_performs departs ran).2.2
  | handled _ _ _ _ handles =>
    obtain ⟨room, session, found, ⟨_, _, rfl⟩ | ⟨_, performs⟩⟩ := handles
    · exact .unchanged
    · exact performs.wrote

end

end Perfcho.Durable
