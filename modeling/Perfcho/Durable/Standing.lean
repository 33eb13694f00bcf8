import Perfcho.Durable.EventLog

/-! The records that transactions answer with. A record that is answered stands in the
tables afterwards: looking its room up gives the same record. -/

namespace Perfcho.Durable

open Foundation

variable {read : Tables} {command : Command}

theorem Sound.entities_eq (sound : Sound tables) (found : (room, session) ∈ tables.activeRooms) :
    tables.entities room.publicId = some (room, session) := by
  cases entry : tables.entities room.publicId with
  | none =>
    have empty := firstBy_eq_none.mp entry
    exact absurd (List.mem_filter.mpr ⟨found, decide_eq_true rfl⟩) (empty ▸ List.not_mem_nil)
  | some other =>
    obtain ⟨otherRoom, otherSession⟩ := other
    obtain ⟨⟨stored, active⟩, hosting, named, _⟩ := mem_activeRooms.mp found
    obtain ⟨⟨alsoStored, alsoActive⟩, alsoHosting, alsoNamed, _⟩ := mem_activeRooms.mp (mem_of_entities entry)
    have taken : otherRoom.publicId =
      room.publicId := by simpa using (List.mem_filter.mp (mem_of_firstBy entry)).2
    obtain rfl := active_public_unique stored active alsoStored alsoActive taken
    rw [sound.single session hosting otherSession alsoHosting (alsoNamed.trans named.symm)]

theorem Standing.found (standing : Standing tables made) (sound : Sound tables) :
    tables.getRoom made.publicId = .ok (some made) := by
  obtain ⟨room, session, found, recorded⟩ := standing
  rw [(record_eq_ok recorded).2.1, Tables.getRoom, sound.entities_eq found]
  simp only [recorded]
  rfl

theorem standing_of_getRoom (found : tables.getRoom publicId = .ok (some made)) :
    Standing tables made ∧ made.publicId = publicId := by
  obtain ⟨room, session, listed, taken, recorded⟩ := getRoom_eq_some found
  exact ⟨⟨room, session, listed, recorded⟩, (record_eq_ok recorded).2.1.trans taken⟩

theorem standing_of_findRoomForAccount
    (found : tables.findRoomForAccount account = .ok (some made)) : Standing tables made := by
  unfold Tables.findRoomForAccount at found
  dsimp only at found
  split at found
  · cases found
  next presence room session entry =>
  obtain ⟨_, recorded, found⟩ := of_bind_eq_ok found
  cases found
  obtain ⟨_, _, listed⟩ := List.mem_flatMap.mp (mem_of_firstBy entry)
  obtain ⟨_, member, same⟩ := List.mem_map.mp listed
  cases same
  exact ⟨room, session, (List.mem_filter.mp member).1, recorded⟩

theorem Serves.standing (serves : Serves read tables publicId commandId settle after made) :
    Standing after made ∧ made.publicId = publicId := by
  obtain ⟨room, session, found, public_, ⟨_, recorded, rfl⟩ | ⟨_, revises⟩⟩ := serves
  · exact ⟨⟨room, session, found, recorded⟩, (record_eq_ok recorded).2.1.trans public_⟩
  · exact ⟨revises.standing, revises.publicId.trans public_⟩

section

variable (hosted : command.hosted = some (publicId, commandId))
include hosted

theorem replayId_of_hosted : command.replayId = some commandId := by
  cases command <;> cases hosted <;> rfl

/-- What a host command, or the end of a round, that is no repeated one has run. -/
theorem transact_handles (unanswered : read.findCommandRoom commandId = .ok none)
    (ran : transact policies read tables moment command = .ok (answer, after)) :
    ∃ shown made, shown.publicId = publicId ∧ answer = some made ∧
      tables.getRoom publicId = .ok (some shown) ∧ command.expectedVersion = some shown.version ∧
      Handles command read tables shown commandId made after := by
  cases transact_ran ran with
  | replays named found =>
    cases (replayId_of_hosted hosted).symm.trans named
    cases unanswered.symm.trans found
  | missing _ departs | left _ departs => cases hosted.symm.trans (brought_of_departs departs).2.2
  | seated join | joined join => simp [join, Command.hosted] at hosted
  | created _ create => simp [create, Command.hosted] at hosted
  | @handled _ shown made _ _ located named expects handles =>
    cases hosted.symm.trans named
    exact ⟨shown, made, rfl, rfl, located, expects, handles⟩

/-- A host command, or the end of a round, that is no repeated one answers with a record
that stands. -/
theorem transact_serves (unanswered : read.findCommandRoom commandId = .ok none)
    (ran : transact policies read tables moment command = .ok (answer, after)) :
    ∃ made, answer = some made ∧ Serves read tables publicId commandId command.settle after made := by
  obtain ⟨shown, made, rfl, answered, _, _, room, session, found, known | ⟨_, performs⟩⟩ :=
    transact_handles hosted unanswered ran
  · exact ⟨made, answered, room, session, mem_of_entities found, entities_public found, .inl known⟩
  · exact ⟨made, answered, room, session, mem_of_entities found, entities_public found,
      .inr ⟨performs.edits.unknown, performs.revises⟩⟩

theorem transact_halts
    (unanswered : read.findCommandRoom commandId = .ok none) (fresh : read.commandApplied commandId = false)
    (ran : transact policies read tables moment command = .ok (answer, after)) :
    ∃ room session, (room, session) ∈ tables.activeRooms ∧ room.publicId = publicId ∧
    command.Halts tables after session.id := by
  obtain ⟨shown, made, rfl, _, _, _, room, session, found, ⟨known, _⟩ | ⟨_, performs⟩⟩ :=
    transact_handles hosted unanswered ran
  · simp [fresh] at known
  · exact ⟨room, session, mem_of_entities found, entities_public found, performs.halts⟩

/-- A command that is no repeated one and expects another version does not commit. -/
theorem transact_stale
    (unanswered : read.findCommandRoom commandId = .ok none)
    (located : tables.getRoom publicId = .ok (some made))
    (stale : command.expectedVersion ≠ some made.version) :
    transact policies read tables moment command ≠ .ok result := by
  intro ran
  obtain ⟨shown, made, _, _, found, expects, _⟩ := transact_handles hosted unanswered ran
  cases located.symm.trans found
  exact stale expects

end

theorem joinTransaction_standing
    (ran : joinTransaction policies tables tables moment commandId actor connection publicId
      password presenceId =
      .ok (answer, after)) : ∃ made, answer = some made ∧ Standing after made ∧ made.publicId = publicId := by
  cases joinTransaction_ran ran with
  | replays named => cases named
  | missing _ departs | left _ departs => cases departs
  | seated join found =>
    cases join
    exact ⟨_, rfl, standing_of_findRoomForAccount found, rfl⟩
  | created _ create => cases create
  | joined join joins =>
    obtain ⟨⟨standing, public_⟩, _⟩ := joinRoom_performs join joins
    cases join
    exact ⟨_, rfl, standing, public_⟩
  | handled _ _ hosted => cases hosted

theorem leaveTransaction_remains (unanswered : read.findCommandRoom commandId = .ok none)
    (located : tables.getRoom publicId = .ok (some room))
    (ran : leaveTransaction policies read tables moment commandId actor connection publicId = .ok
      (answer, after)) :
    Remains after publicId answer := by
  obtain ⟨_, _, ran⟩ := of_bind_eq_ok ran
  rw [unanswered, ok_bind] at ran
  rw [located, ok_bind] at ran
  obtain ⟨left, leaves, ran⟩ := of_bind_eq_ok ran
  obtain ⟨rfl, rfl⟩ := committedIfOpen_answer ran
  have departs : (Command.leave commandId actor connection publicId).departs = some (actor, connection) := rfl
  exact (standing_of_getRoom located).2 ▸ (leaveRoom_performs departs leaves).1

theorem cleanupTransaction_remains (located : read.findRoomForAccount account = .ok (some room))
    (ran : cleanupTransaction read tables moment commandId account connection reason = .ok (answer, after)) :
    Remains after room.publicId answer := by
  rw [cleanupTransaction, located, ok_bind] at ran
  obtain ⟨left, leaves, ran⟩ := of_bind_eq_ok ran
  obtain ⟨rfl, rfl⟩ := committedIfOpen_answer ran
  have departs : (Command.cleanup commandId account connection reason).departs =
    some (account, connection) := rfl
  exact (leaveRoom_performs departs leaves).1

end Perfcho.Durable
