import Perfcho.Durable.RoomRuns

/-! The event log of the rooms: which room a repeated command is answered with, and
how the log counts the versions of a session. -/

namespace Perfcho.Durable

open Foundation Multiplayer Tables List

section

variable {read tables after : Tables}

/-- The events of a session, in the order they were appended. -/
def Tables.eventLog (tables : Tables) (sessionId : Uuid) : List MultiplayerEvent :=
  tables.events.rows.filter (·.sessionId = sessionId)

/-- Every event belongs to a session and to its room. -/
def Attributed (tables : Tables) : Prop :=
  ∀ event ∈ tables.events.rows, ∃ session ∈ tables.sessions.rows,
    session.id = event.sessionId ∧ session.roomId = event.roomId

/-- Every active room can be read as a record. -/
def Recorded (tables : Tables) : Prop :=
  ∀ entry ∈ tables.activeRooms, ∃ made, record entry.1 entry.2 = .ok made

theorem Edits.session_kept (edits : Edits brought read tables commandId room session after)
    (stored : other ∈ tables.sessions.rows) :
    ∃ later ∈ after.sessions.rows, later.id = other.id ∧ later.roomId = other.roomId ∧
      later.version = if other.id = session.id then session.version + 1 else other.version := by
  obtain ⟨editedRoom, edited, _, _, edit, _, sessions, _⟩ := edits.edit
  obtain ⟨_, _, _, key, roomOf, version⟩ := edit.keyed
  by_cases same : other.id = session.id
  · obtain rfl := session_unique (mem_activeRooms.mp edits.found).2.1 stored same
    exact ⟨edited, sessions ▸ row_mem_replaced stored key.symm, key, roomOf, by rw [version, if_pos rfl]⟩
  · exact ⟨other, sessions ▸ other_mem_replaced stored (key ▸ same), rfl, rfl, (if_neg same).symm⟩

theorem Opens.session_kept (opens : Opens read tables request after)
    (stored : session ∈ tables.sessions.rows) : session ∈ after.sessions.rows := by
  obtain ⟨_, _, _, _, sessions, _⟩ := opens.rows
  exact sessions ▸ mem_append_left _ stored

theorem Attributed.change (attributed : Attributed tables)
    (change : Change read tables command after) : Attributed after := by
  cases change with
  | unchanged => exact attributed
  | @opened request _ create opens =>
    obtain ⟨_, _, stamp, _, sessions, _⟩ := opens.rows
    have old : ∀ event ∈ tables.events.rows, ∃ session ∈ after.sessions.rows,
      session.id = event.sessionId ∧ session.roomId = event.roomId := by
      intro event member
      obtain ⟨session, stored, named⟩ := attributed event member
      exact ⟨session, opens.session_kept stored, named⟩
    rcases opens.event with ⟨_, same⟩ | ⟨_, room, session, roomKey, sessionKey, _, rows⟩
    · intro event member
      exact old event (same ▸ member)
    intro event member
    rw [rows] at member
    rcases of_mem_concat member with known | new
    · exact old event known
    · cases new
      exact ⟨_, sessions ▸ mem_concat_self, sessionKey.symm, roomKey.symm⟩
  | @edited commandId room session _ edits _ =>
    obtain ⟨editedRoom, edited, actor, eventType, edit, _, _, rows, _⟩ := edits.edit
    obtain ⟨roomKey, _, _, key, _, _⟩ := edit.keyed
    obtain ⟨_, stored, hosts, _⟩ := mem_activeRooms.mp edits.found
    intro event member
    rw [rows] at member
    rcases of_mem_concat member with known | new
    · obtain ⟨other, inside, named, house⟩ := attributed event known
      obtain ⟨later, kept, sameKey, sameHouse, _⟩ := edits.session_kept inside
      exact ⟨later, kept, sameKey.trans named, sameHouse.trans house⟩
    · cases new
      obtain ⟨later, kept, sameKey, sameHouse, _⟩ := edits.session_kept stored
      exact ⟨later, kept, sameKey.trans key.symm, sameHouse.trans (hosts.trans roomKey.symm)⟩

theorem Recorded.change (recorded : Recorded tables) (sound : Sound tables)
    (change : Change read tables command after) : Recorded after := by
  rintro ⟨room, session⟩ member
  obtain ⟨⟨roomStored, active⟩, sessionStored, named, running⟩ := mem_activeRooms.mp member
  cases change with
  | unchanged => exact recorded _ member
  | @opened request _ create opens =>
    obtain ⟨publicId, now, stamp, rooms, sessions, made, ran⟩ := opens.rows
    obtain ⟨freshRoom, freshSession⟩ := opens.fresh
    rw [rooms] at roomStored
    rw [sessions] at sessionStored
    rcases of_mem_concat sessionStored with oldSession | newSession
    · rcases of_mem_concat roomStored with oldRoom | newRoom
      · exact recorded _ (mem_activeRooms.mpr ⟨⟨oldRoom, active⟩, oldSession, named, running⟩)
      · cases newRoom
        obtain ⟨house, inside, key⟩ := sound.housed session oldSession
        exact absurd (key.trans named) (freshRoom house inside)
    · cases newSession
      rcases of_mem_concat roomStored with oldRoom | newRoom
      · exact absurd named.symm (freshRoom room oldRoom)
      · cases newRoom
        exact ⟨made, ran⟩
  | @edited commandId oldRoom oldSession _ edits _ =>
    obtain ⟨editedRoom, edited, _, _, edit, rooms, sessions, _, made⟩ := edits.edit
    obtain ⟨roomKey, _, _, key, roomOf, _⟩ := edit.keyed
    obtain ⟨_, stored, hosts, _⟩ := mem_activeRooms.mp edits.found
    rw [rooms] at roomStored
    rw [sessions] at sessionStored
    rcases mem_replaced sessionStored with rfl | ⟨known, different⟩
    · rcases mem_replaced roomStored with rfl | ⟨_, elsewhere⟩
      · exact made active
      · exact absurd (by rw [← named, roomOf, hosts, roomKey]) elsewhere
    · rcases mem_replaced roomStored with rfl | ⟨knownRoom, _⟩
      · rw [key] at different
        exact absurd (congrArg _
          (sound.single oldSession stored session known (by rw [named, roomKey, hosts]))) different
      · exact recorded _ (mem_activeRooms.mpr ⟨⟨knownRoom, active⟩, known, named, running⟩)

theorem Reachable.attributed (reached : Reachable tables) : Attributed tables := by
  induction reached with
  | empty => simp [Attributed, Tables.empty]
  | step _ step attributed =>
    cases step with
    | commits ran => exact attributed.change (transact_change ran)
    | rollsBack => exact attributed

theorem Reachable.recorded (reached : Reachable tables) : Recorded tables := by
  induction reached with
  | empty => simp [Recorded, Tables.activeRooms, Tables.empty]
  | step before step recorded =>
    cases step with
    | commits ran => exact recorded.change before.sound (transact_change ran)
    | rollsBack => exact recorded

end

section

variable {read tables after : Tables}

/-- The log of a room names a command. -/
def Tables.Logs (tables : Tables) (roomId commandId : Uuid) : Prop :=
  ∃ event ∈ tables.events.rows, event.commandId = commandId ∧ event.roomId = roomId

/-- No other room is active under the public identifier of the room that a command changed. -/
def Unreplaced (tables : Tables) (commandId : Uuid) : Prop :=
  ∀ room ∈ tables.rooms.rows, tables.Logs room.id commandId →
    ∀ other ∈ tables.rooms.rows, other.status.active = true → other.publicId = room.publicId →
    other.id = room.id

instance : Decidable (tables.Logs roomId commandId) := inferInstanceAs (Decidable (∃ event ∈ _, _))

instance : Decidable (Unreplaced tables commandId) := inferInstanceAs (Decidable (∀ room ∈ _, _))

theorem Reachable.getRoom_active (reached : Reachable tables) (stored : room ∈ tables.rooms.rows)
    (active : room.status.active = true) :
    ∃ made, tables.getRoom room.publicId = .ok (some made) ∧ made.roomId = room.id := by
  obtain ⟨session, hosting, named⟩ := reached.sound.started room stored
  have running := ((reached.sound.healthy room stored session hosting named).hosted active).1
  have listed : (room, session) ∈ tables.activeRooms :=
    mem_activeRooms.mpr ⟨⟨stored, active⟩, hosting, named, running⟩
  cases entry : tables.entities room.publicId with
  | none =>
    have empty := firstBy_eq_none.mp entry
    exact absurd (mem_filter.mpr ⟨listed, by simp⟩) (empty ▸ not_mem_nil)
  | some pair =>
    obtain ⟨found, other⟩ := pair
    have member := mem_of_entities entry
    obtain ⟨made, ran⟩ := reached.recorded _ member
    obtain ⟨⟨foundStored, foundActive⟩, _⟩ := mem_activeRooms.mp member
    have same : found.publicId = room.publicId := by simpa using (mem_filter.mp (mem_of_firstBy entry)).2
    obtain rfl := active_public_unique stored active foundStored foundActive same
    refine ⟨made, ?_, (record_eq_ok ran).1⟩
    rw [getRoom, entry]
    simp only [ran]
    rfl

theorem findCommandRoom_eq (stored : room ∈ tables.rooms.rows) (logs : tables.Logs room.id commandId) :
    tables.findCommandRoom commandId = tables.getRoom room.publicId := by
  obtain ⟨event, logged, named, house⟩ := logs
  have indexed : .unique "uq_event_command_id" (fun _ => true) (·.commandId) ∈ eventConstraints := by
    simp [eventConstraints]
  have event? : tables.events.rows.find? (·.commandId = commandId) = some event := by
    cases looked : tables.events.rows.find? (·.commandId = commandId) with
    | none => exact absurd (decide_eq_true named) (find?_eq_none.mp looked event logged)
    | some other =>
      have matched : other.commandId = commandId := by simpa using find?_some looked
      rw [tables.events.eq_of_unique indexed (mem_of_find?_eq_some looked) rfl logged rfl
        (matched.trans named.symm)]
  have room? : tables.rooms.rows.find? (·.id = event.roomId) = some room := by
    cases looked : tables.rooms.rows.find? (·.id = event.roomId) with
    | none => exact absurd (decide_eq_true house.symm) (find?_eq_none.mp looked room stored)
    | some other =>
      have matched : other.id = event.roomId := by simpa using find?_some looked
      rw [room_unique stored (mem_of_find?_eq_some looked) (matched.trans house)]
  simp only [findCommandRoom, event?, room?]

theorem findCommandRoom_eq_some (found : tables.findCommandRoom commandId = .ok (some made)) :
    ∃ room ∈ tables.rooms.rows, tables.Logs room.id commandId := by
  unfold findCommandRoom at found
  split at found
  · cases found
  next event looked =>
  split at found
  · cases found
  · next room stored =>
    have named : event.commandId = commandId := by simpa using find?_some looked
    have house : room.id = event.roomId := by simpa using find?_some stored
    exact ⟨room, mem_of_find?_eq_some stored, event, mem_of_find?_eq_some looked, named, house.symm⟩

/-- A repeated command whose lookup finds a room is answered with that room, or with
nothing, and changes nothing. -/
theorem transact_replays (repeated : command.replayId = some commandId)
    (found : read.findCommandRoom commandId = .ok (some room))
    (ran : transact policies read tables moment command = .ok (answer, after)) :
    after = tables ∧ ∀ made, answer = some made → made = room := by
  cases transact_ran ran with
  | replays named looked answered =>
    cases repeated.symm.trans named
    cases found.symm.trans looked
    exact ⟨rfl, answered⟩
  | missing unanswered | created unanswered | left unanswered | handled unanswered =>
    cases found.symm.trans (unanswered commandId repeated)
  | seated join | joined join => simp [join, Command.replayId] at repeated

/-- The lookup of a command finds only the room that the command changed, and a
repeated command is answered only with that room, as long as no other room has taken
over its public identifier. -/
theorem replay_own_iff (reached : Reachable tables) (commandId : Uuid) :
    ((∀ made, tables.findCommandRoom commandId = .ok (some made) → tables.Logs made.roomId commandId) ∧
      ∀ policies stored moment command answer after, command.replayId = some commandId →
        transact policies tables stored moment command = .ok (answer, after) →
        (∃ found, tables.findCommandRoom commandId = .ok (some found)) →
        after = stored ∧ ∀ made, answer = some made → tables.Logs made.roomId commandId) ↔
      Unreplaced tables commandId := by
  constructor
  · rintro ⟨own, _⟩ room stored logs other otherStored active taken
    obtain ⟨made, found, named⟩ := reached.getRoom_active otherStored active
    rw [taken, ← findCommandRoom_eq stored logs] at found
    -- Two events of one command are one event, so both rooms are its room.
    obtain ⟨event, logged, one, house⟩ := own made found
    obtain ⟨first, inside, two, home⟩ := logs
    have indexed : .unique "uq_event_command_id" (fun _ => true) (·.commandId) ∈ eventConstraints := by
      simp [eventConstraints]
    obtain rfl := tables.events.eq_of_unique indexed inside rfl logged rfl (two.trans one.symm)
    rw [← named, ← house, home]
  · intro kept
    have own : ∀ made, tables.findCommandRoom commandId = .ok (some made) →
      tables.Logs made.roomId commandId := by
      intro made found
      obtain ⟨room, stored, logs⟩ := findCommandRoom_eq_some found
      rw [findCommandRoom_eq stored logs] at found
      obtain ⟨other, session, listed, taken, recorded⟩ := getRoom_eq_some found
      obtain ⟨⟨otherStored, active⟩, _⟩ := mem_activeRooms.mp listed
      rw [(record_eq_ok recorded).1, kept room stored logs other otherStored active taken]
      exact logs
    refine ⟨own, ?_⟩
    rintro policies stored moment command answer after repeated ran ⟨room, found⟩
    obtain ⟨unchanged, answered⟩ := transact_replays repeated found ran
    refine ⟨unchanged, ?_⟩
    intro made same
    rw [answered made same]
    exact own room found

/-- A room closes and the next one gets its public identifier. -/
def succeeded : Tables :=
  [(⟨1, 0⟩, sampleCreate 10 11 1), (⟨2, 1⟩, sampleLeave 20 1), (⟨3, 2⟩, sampleCreate 30 31 2)].foldl
    (perform openPolicies) .empty

theorem succeeded_reachable : Reachable succeeded := Reachable.empty.performs _

/-- The first creation, repeated now, is answered with the second room. -/
theorem succeeded_answers_other : Reachable succeeded ∧
    (succeeded.findCommandRoom (sampleKey 10)).toOption.join.map (·.roomId) = some (sampleKey 31) ∧
      ¬ succeeded.Logs (sampleKey 31) (sampleKey 10) ∧
      (transact openPolicies succeeded succeeded ⟨4, 3⟩ (sampleCreate 10 41 1)).toOption.map
        (·.1.map (·.roomId)) = some (some (sampleKey 31)) :=
  ⟨succeeded_reachable, by decide⟩

theorem succeeded_replays : Unreplaced succeeded (sampleKey 30) ∧
    ∀ made, succeeded.findCommandRoom (sampleKey 30) = .ok (some made) →
    succeeded.Logs made.roomId (sampleKey 30) :=
  ⟨by decide, ((replay_own_iff succeeded_reachable (sampleKey 30)).mpr (by decide)).1⟩

end

section

variable {read tables after : Tables}

theorem highest_range (count : Nat) : highest (range' 1 count) = count := by
  induction count with
  | zero => rfl
  | succ count ih =>
    rw [highest, range'_1_concat, foldl_append]
    rw [highest] at ih
    simp [ih, Nat.add_comm]

/-- The log of a session counts its versions, in the room's sequence as well. -/
def Counted (tables : Tables) (session : MultiplayerSession) : Prop :=
  (tables.eventLog session.id).map (fun event => (event.aggregateVersion, event.roomSequence)) =
    (range' 1 session.version).map fun version => (version, version)

theorem eventLog_eq (sound : Sound tables) (attributed : Attributed tables)
    (stored : session ∈ tables.sessions.rows) :
    tables.events.rows.filter (·.roomId = session.roomId) = tables.eventLog session.id := by
  apply filter_congr
  intro event member
  rw [decide_eq_decide.mpr (sound.ofRoom_iff stored (attributed event member))]

theorem eventLog_appended (appended : after.events.rows = tables.events.rows ++ [event]) (sessionId : Uuid) :
    after.eventLog sessionId = tables.eventLog sessionId ++ if event.sessionId = sessionId then
    [event] else [] := by
  rw [eventLog, appended, filter_append]
  by_cases same : event.sessionId = sessionId <;> simp [eventLog, same]

theorem Counted.next (counted : Counted tables session) (edited : MultiplayerSession)
    (key : edited.id = session.id) (version : edited.version = session.version + 1)
    (log : tables.events.rows.filter (·.roomId = room.id) = tables.eventLog session.id)
    (appended : after.events.rows = tables.events.rows ++
      [nextEvent tables room edited commandId actor eventType]) :
    Counted after edited := by
  have sequence : (tables.eventLog session.id).map (·.roomSequence) = range' 1 session.version := by
    have second := congrArg (map Prod.snd) counted
    simpa [map_map, Function.comp_def] using second
  have named : (nextEvent tables room edited commandId actor eventType).sessionId = session.id := key
  rw [Counted, eventLog_appended appended, key, if_pos named, map_append, counted, version,
    range'_1_concat, map_append]
  simp [nextEvent, log, sequence, highest_range, version, Nat.add_comm]

/-- A known command finds an active room under the public identifier of its own. -/
def Answers (tables : Tables) (commandId : Uuid) : Prop :=
  ∃ room ∈ tables.rooms.rows, tables.Logs room.id commandId ∧
    ∃ entry ∈ tables.activeRooms, entry.1.publicId = room.publicId

/-- A creation with a known command is a repeated one that is answered as such. -/
def CreatesOnce (read : Tables) (command : Command) : Prop :=
  ∀ request, command = .create request → read.commandApplied request.commandId = true →
    Answers read request.commandId

theorem Answers.findCommandRoom (answers : Answers tables commandId) :
    tables.findCommandRoom commandId ≠ .ok none := by
  obtain ⟨room, stored, logs, entry, listed, taken⟩ := answers
  rw [findCommandRoom_eq stored logs, getRoom]
  split
  · next none =>
    have empty := firstBy_eq_none.mp none
    exact absurd (mem_filter.mpr ⟨listed, by simpa using taken⟩) (empty ▸ not_mem_nil)
  · next found session _ =>
    cases record found session <;> simp

/-- A creation that is answered as a repeated one opens no room. -/
theorem createTransaction_fresh (answers : Answers read request.commandId)
    (ran : createTransaction policies read tables moment request = .ok (answer, after)) : after = tables := by
  cases createTransaction_ran ran with
  | replays | missing | seated => rfl
  | created unanswered | left unanswered | handled unanswered =>
    exact absurd (unanswered _ rfl) answers.findCommandRoom
  | joined join => cases join

/-- A change whose opened room logs its creation keeps every session counted. -/
theorem Counted.change (sound : Sound tables) (attributed : Attributed tables)
    (counted : ∀ session ∈ tables.sessions.rows, Counted tables session)
    (change : Change read tables command after)
    (fresh : ∀ request, command = .create request → after ≠ tables →
      read.commandApplied request.commandId = false) : ∀ session ∈ after.sessions.rows,
    Counted after session := by
  intro session stored
  cases change with
  | unchanged => exact counted session stored
  | @opened request _ create opens =>
    obtain ⟨_, _, stamp, rooms, sessions, _⟩ := opens.rows
    obtain ⟨freshRoom, freshSession⟩ := opens.fresh
    have changed : after ≠ tables := by
      intro same
      have grown := congrArg length (same ▸ rooms)
      simp at grown
    rcases opens.event with ⟨known, _⟩ | ⟨_, room, created, roomKey, sessionKey, version, rows⟩
    · rw [fresh request create changed] at known
      cases known
    rw [sessions] at stored
    rcases of_mem_concat stored with old | new
    · -- The new event is not one of an old session.
      have apart : (nextEvent tables room created request.commandId request.actor
        .roomCreated).sessionId ≠ session.id :=
        fun same => freshSession session old (same.symm.trans sessionKey)
      rw [Counted, eventLog_appended rows, if_neg apart, append_nil]
      exact counted session old
    · cases new
      -- No event names the fresh session or its fresh room.
      have silent : tables.eventLog request.sessionId = [] := by
        apply filter_eq_nil_iff.mpr
        intro event member
        obtain ⟨owner, owns, key, _⟩ := attributed event member
        simpa using fun same => freshSession owner owns (key.trans same)
      have empty : tables.events.rows.filter (·.roomId = room.id) = [] := by
        apply filter_eq_nil_iff.mpr
        intro event member
        obtain ⟨owner, owns, _, house⟩ := attributed event member
        obtain ⟨home, inside, key⟩ := sound.housed owner owns
        simpa using fun same => freshRoom home inside (by rw [key, house, same, roomKey])
      rw [Counted, eventLog_appended rows]
      simp [nextEvent, empty, highest, CreateRequest.session, silent, sessionKey, version]
  | @edited commandId room old _ edits _ =>
    obtain ⟨editedRoom, edited, actor, eventType, edit, _, sessions, rows, _⟩ := edits.edit
    obtain ⟨roomKey, _, _, key, _, version⟩ := edit.keyed
    obtain ⟨_, inside, hosts, _⟩ := mem_activeRooms.mp edits.found
    rw [sessions] at stored
    rcases mem_replaced stored with rfl | ⟨kept, different⟩
    · apply (counted old inside).next session key version _ rows
      rw [roomKey, ← hosts, eventLog_eq sound attributed inside]
    · rw [Counted, eventLog_appended rows, if_neg (fun same => different same.symm), append_nil]
      exact counted session kept

/-- A step whose command meets a condition on what it has read. -/
inductive StepWhen (condition : Tables → Command → Prop) : Tables → Tables → Prop where
  | commits {policies : Policies} {read tables after : Tables} {moment : Moment} {command : Command}
      {answer : Option RoomRecord} (met : condition read command)
      (ran : transact policies read tables moment command = .ok (answer, after)) :
      StepWhen condition tables after
  | rollsBack {tables : Tables} {epochs : Nat} (issued : tables.epochs ≤ epochs) :
      StepWhen condition tables { tables with epochs }

theorem StepWhen.step (step : StepWhen condition tables after) : Step tables after := by
  cases step with
  | commits _ ran => exact .commits ran
  | rollsBack issued => exact .rollsBack issued

/-- The session of an identifier has another version after than before. -/
def Advances (tables after : Tables) (sessionId : Uuid) : Prop :=
  ∃ old ∈ tables.sessions.rows, ∃ new ∈ after.sessions.rows,
    old.id = sessionId ∧ new.id = sessionId ∧ new.version ≠ old.version

/-- A command that advances a session found it at the version the command expects. -/
theorem Change.advances (change : Change read tables command after)
    (advances : Advances tables after sessionId) (expects : command.expectedVersion = some version) :
    (∃ old ∈ tables.sessions.rows, old.id = sessionId ∧ old.version = version) ∧
      ∃ new ∈ after.sessions.rows, new.id = sessionId ∧ new.version = version + 1 := by
  obtain ⟨old, stored, new, later, oldKey, newKey, different⟩ := advances
  cases change with
  | unchanged => exact absurd (congrArg _ (session_unique stored later (newKey.trans oldKey.symm))) different
  | opened create => simp [create, Command.expectedVersion] at expects
  | @edited commandId room session _ edits expected =>
    obtain ⟨next, kept, key, _, counted⟩ := edits.session_kept stored
    obtain rfl := session_unique kept later (by rw [newKey, key, oldKey])
    by_cases same : old.id = session.id
    · obtain rfl := session_unique (mem_activeRooms.mp edits.found).2.1 stored same
      have found := expected version expects
      rw [if_pos rfl, found] at counted
      exact ⟨⟨old, stored, oldKey, found⟩, new, later, newKey, counted⟩
    · rw [if_neg same] at counted
      exact absurd counted different

theorem Step.version_le (step : Step tables after) (stored : session ∈ tables.sessions.rows) :
    ∃ later ∈ after.sessions.rows, later.id = session.id ∧ session.version ≤ later.version := by
  cases step with
  | rollsBack => exact ⟨session, stored, rfl, Nat.le_refl _⟩
  | commits ran =>
    cases transact_change ran with
    | unchanged => exact ⟨session, stored, rfl, Nat.le_refl _⟩
    | opened _ opens => exact ⟨session, opens.session_kept stored, rfl, Nat.le_refl _⟩
    | edited edits _ =>
      obtain ⟨later, kept, key, _, counted⟩ := edits.session_kept stored
      refine ⟨later, kept, key, ?_⟩
      rw [counted]
      split
      · next same =>
        rw [session_unique (mem_activeRooms.mp edits.found).2.1 stored same]
        exact Nat.le_succ _
      · exact Nat.le_refl _

theorem version_le_of_steps (steps : Relation.ReflTransGen (StepWhen condition) tables after)
    (stored : session ∈ tables.sessions.rows) :
    ∃ later ∈ after.sessions.rows, later.id = session.id ∧ session.version ≤ later.version := by
  induction steps with
  | refl => exact ⟨session, stored, rfl, Nat.le_refl _⟩
  | tail _ step ih =>
    obtain ⟨middle, inside, key, below⟩ := ih
    obtain ⟨later, kept, sameKey, above⟩ := step.step.version_le inside
    exact ⟨later, kept, sameKey.trans key, below.trans above⟩

theorem reachable_of_steps (steps : Relation.ReflTransGen (StepWhen condition) .empty tables) :
    Reachable tables := by
  induction steps with
  | refl => exact .empty
  | tail _ step reached => exact reached.step step.step

theorem counted_of_steps (steps : Relation.ReflTransGen (StepWhen CreatesOnce) .empty tables) :
    ∀ session ∈ tables.sessions.rows, Counted tables session := by
  induction steps with
  | refl => simp [empty]
  | tail before step counted =>
    have reached := reachable_of_steps before
    cases step with
    | rollsBack => exact counted
    | @commits policies read _ _ moment command answer met ran =>
      apply Counted.change reached.sound reached.attributed counted (transact_change ran)
      rintro request rfl changed
      by_contra known
      exact changed (createTransaction_fresh (met request rfl (by simpa using known)) ran)

/-- In a run in which no known command opens another room, the log of every session
has one event for each version, numbered in sequence; and of the commands that expect
one version of a session at most one advances it. -/
theorem sessions_counted (steps : Relation.ReflTransGen (StepWhen CreatesOnce) .empty tables) :
    (∀ session ∈ tables.sessions.rows,
      (tables.eventLog session.id).map (fun event => (event.aggregateVersion, event.roomSequence)) =
        (range' 1 session.version).map fun version => (version, version)) ∧
    ∀ policies read moment first answer changed, transact policies read tables moment first =
    .ok (answer, changed) →
      ∀ later, Relation.ReflTransGen (StepWhen CreatesOnce) changed later →
      ∀ policies read moment second answer after, transact policies read later moment second =
      .ok (answer, after) →
      ∀ version, first.expectedVersion = some version → second.expectedVersion = some version →
      ∀ sessionId, ¬ (Advances tables changed sessionId ∧ Advances later after sessionId) := by
  refine ⟨counted_of_steps steps, ?_⟩
  intro policies read moment first answer changed ran later between policies' read' moment' second
    answer' after ran' version expects expects' sessionId ⟨advances, advances'⟩
  obtain ⟨_, new, stored, key, above⟩ := (transact_change ran).advances advances expects
  obtain ⟨⟨old, found, sameKey, below⟩, _⟩ := (transact_change ran').advances advances' expects'
  obtain ⟨kept, inside, keptKey, rises⟩ := version_le_of_steps between stored
  obtain rfl := session_unique inside found (by rw [sameKey, keptKey, key])
  rw [above, below] at rises
  exact absurd rises (Nat.not_succ_le_self version)

theorem steps_of_perform (policies : Policies) (turn : Moment × Command) (met : condition tables turn.2) :
    Relation.ReflTransGen (StepWhen condition) tables (perform policies tables turn) := by
  unfold perform
  split
  · next ran => exact .single (.commits met ran)
  · exact .refl

theorem handedOver_counted :
    (handedOver.sessions.rows.map fun session => (session.id, session.version)) =
      [(sampleKey 12, 3)] ∧ ∀ session ∈ handedOver.sessions.rows,
        (handedOver.eventLog session.id).map
        (fun event => (event.aggregateVersion, event.roomSequence)) =
        (range' 1 session.version).map fun version => (version, version) := by
  have created : CreatesOnce .empty (sampleCreate 10 11 1) := by
    intro request _ known
    simp [commandApplied, empty] at known
  have joined : ∀ tables, CreatesOnce tables (sampleJoin 20 2) := by
    intro tables request create
    cases create
  have left : ∀ tables, CreatesOnce tables (sampleLeave 30 1) := by
    intro tables request create
    cases create
  have steps : Relation.ReflTransGen (StepWhen CreatesOnce) .empty handedOver :=
    ((steps_of_perform openPolicies (⟨1, 0⟩, sampleCreate 10 11 1) created).trans
      (steps_of_perform openPolicies (⟨2, 1⟩, sampleJoin 20 2) (joined _))).trans
      (steps_of_perform openPolicies (⟨3, 2⟩, sampleLeave 30 1) (left _))
  exact ⟨by decide, (sessions_counted steps).1⟩

/-- A room closes, and the command that created it is sent again. -/
def recreated : Tables :=
  [(⟨1, 0⟩, sampleCreate 10 11 1), (⟨2, 1⟩, sampleLeave 20 1), (⟨3, 2⟩, sampleCreate 10 31 1)].foldl
    (perform openPolicies) .empty

/-- The second room is at version 1 and has no event. -/
theorem recreated_uncounted : Reachable recreated ∧
    recreated.sessions.rows.map (fun session => (session.id, session.version)) =
    [(sampleKey 12, 2), (sampleKey 32, 1)] ∧ recreated.eventLog (sampleKey 32) = [] :=
  ⟨Reachable.empty.performs _, by decide⟩

end

end Perfcho.Durable
