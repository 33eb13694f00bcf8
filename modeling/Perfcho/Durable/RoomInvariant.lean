import Perfcho.Durable.Commands

/-! What holds of the tables between transactions. Every room has one session; while
the room is active its host is present, and when it is not nobody is present and no
round is played. A change of one room is judged by that room alone. -/

namespace Perfcho.Durable

open Foundation

section

variable {tables : Tables} {round : Round}

theorem room_unique (one : room ∈ tables.rooms.rows) (two : other ∈ tables.rooms.rows)
    (same : other.id = room.id) : other = room :=
  tables.rooms.eq_of_unique (List.mem_cons_self) two rfl one rfl same

theorem session_unique (one : session ∈ tables.sessions.rows) (two : other ∈ tables.sessions.rows)
    (same : other.id = session.id) : other = session :=
  tables.sessions.eq_of_unique (List.mem_cons_self) two rfl one rfl same

theorem round_unique (one : round ∈ tables.rounds.rows) (two : other ∈ tables.rounds.rows)
    (same : other.id = round.id) : other = round :=
  tables.rounds.eq_of_unique (List.mem_cons_self) two rfl one rfl same

theorem current_accounts_nodup (tables : Tables) :
    ((tables.presences.rows.filter (·.current)).map (·.accountId)).Nodup := by
  have indexed : .unique "uq_session_presence_account_current" (·.current)
    (·.accountId) ∈ presenceConstraints := by
    simp [presenceConstraints]
  exact tables.presences.nodup_of_unique indexed

theorem account_unique (one : presence ∈ tables.presences.rows) (open_ : presence.current = true)
    (two : other ∈ tables.presences.rows) (alsoOpen : other.current = true)
    (same : other.accountId = presence.accountId) : other = presence :=
  List.inj_on_of_nodup_map (current_accounts_nodup tables) (List.mem_filter.mpr ⟨two, alsoOpen⟩)
    (List.mem_filter.mpr ⟨one, open_⟩) same

theorem playing_unique (one : round ∈ tables.playing sessionId)
    (two : other ∈ tables.playing sessionId) : other = round := by
  have indexed : .unique "uq_round_session_active" (·.status = .inProgress)
    (·.sessionId) ∈ roundConstraints := by
    simp [roundConstraints]
  simp only [Tables.playing, List.mem_filter, Bool.and_eq_true, decide_eq_true_eq] at one two
  exact tables.rounds.eq_of_unique indexed two.1 (decide_eq_true two.2.1) one.1
    (decide_eq_true one.2.1) (two.2.2.trans one.2.2.symm)

end

section

variable {tables : Tables}

theorem mem_present : presence ∈ tables.present sessionId ↔
    presence ∈ tables.presences.rows ∧ presence.current = true ∧ presence.sessionId = sessionId := by
  simp [Tables.present]

theorem mem_activeRooms : (room, session) ∈ tables.activeRooms ↔
    (room ∈ tables.rooms.rows ∧ room.status.active = true) ∧
      session ∈ tables.sessions.rows ∧ session.roomId = room.id ∧ session.status = .active := by
  simp only [Tables.activeRooms, List.mem_flatMap, List.mem_filter, List.mem_map, Bool.decide_and,
    Bool.and_eq_true, decide_eq_true_eq, Prod.mk.injEq]
  constructor
  · rintro ⟨_, active, _, hosted, rfl, rfl⟩
    exact ⟨active, hosted⟩
  · exact fun ⟨active, hosted⟩ => ⟨room, active, session, hosted, rfl, rfl⟩

theorem mem_of_entities (found : tables.entities publicId = some (room, session)) :
    (room, session) ∈ tables.activeRooms :=
  (List.mem_filter.mp (mem_of_firstBy found)).1

end

section

/-- The invariant of one room and its session. -/
structure Healthy (tables : Tables) (room : Room) (session : MultiplayerSession) : Prop where
  bounded : (tables.present session.id).length ≤ room.capacity
  hosted : room.status.active = true → session.status = .active ∧
    ∃ presence ∈ tables.present session.id, session.hostAccountId = some presence.accountId
  closed : room.status.active = false →
    session.status ≠ .active ∧ tables.present session.id = [] ∧ tables.playing session.id = []

/-- The invariant of the tables: rooms and sessions correspond, presences name a
session with its room, and every room is healthy. -/
structure Sound (tables : Tables) : Prop where
  started : ∀ room ∈ tables.rooms.rows, ∃ session ∈ tables.sessions.rows, session.roomId = room.id
  housed : ∀ session ∈ tables.sessions.rows, ∃ room ∈ tables.rooms.rows, room.id = session.roomId
  single : ∀ session ∈ tables.sessions.rows, ∀ other ∈ tables.sessions.rows,
    other.roomId = session.roomId → other = session
  owned : ∀ presence ∈ tables.presences.rows, ∃ session ∈ tables.sessions.rows,
    session.id = presence.sessionId ∧ session.roomId = presence.roomId
  healthy : ∀ room ∈ tables.rooms.rows, ∀ session ∈ tables.sessions.rows, session.roomId = room.id →
    Healthy tables room session

theorem Sound.empty : Sound .empty := by
  constructor <;> simp [Tables.empty]

variable {tables : Tables}

theorem Healthy.framed (healthy : Healthy tables room session)
    (present : after.present session.id = tables.present session.id)
    (playing : after.playing session.id = tables.playing session.id) : Healthy after room session := by
  constructor
  · rw [present]
    exact healthy.bounded
  · rw [present]
    exact healthy.hosted
  · rw [present, playing]
    exact healthy.closed

/-- A change of one active room keeps the invariant if the room stays healthy and the
other sessions are left alone. -/
theorem Sound.within (sound : Sound tables) (found : (room, session) ∈ tables.activeRooms)
    (rooms : after.rooms.rows = Table.replaced (·.id) tables.rooms.rows changedRoom)
    (roomKey : changedRoom.id = room.id)
    (sessions : after.sessions.rows = Table.replaced (·.id) tables.sessions.rows changed)
    (sessionKey : changed.id = session.id) (roomOf : changed.roomId = session.roomId)
    (presences : ∀ presence ∈ after.presences.rows, presence.sessionId = session.id ∧
      presence.roomId = room.id ∨ ∃ old ∈ tables.presences.rows, old.sessionId =
    presence.sessionId ∧ old.roomId = presence.roomId) (framed : ∀ other, other ≠ session.id →
      after.present other = tables.present other ∧ after.playing other = tables.playing other)
    (healthy : Healthy after changedRoom changed) : Sound after := by
  obtain ⟨⟨roomStored, _⟩, sessionStored, hosts, _⟩ := mem_activeRooms.mp found
  -- Every session of the result is an old one or the changed one, and so is every room.
  have sessionCases : ∀ other ∈ after.sessions.rows,
    other = changed ∨ other ∈ tables.sessions.rows ∧ other.id ≠ session.id := by
    intro other member
    rw [sessions] at member
    simpa only [sessionKey] using mem_replaced member
  have roomCases : ∀ other ∈ after.rooms.rows, other = changedRoom ∨ other ∈ tables.rooms.rows ∧
    other.id ≠ room.id := by
    intro other member
    rw [rooms] at member
    simpa only [roomKey] using mem_replaced member
  have changedStored : changed ∈ after.sessions.rows :=
    sessions ▸ row_mem_replaced sessionStored sessionKey.symm
  have changedRoomStored : changedRoom ∈ after.rooms.rows := rooms ▸ row_mem_replaced roomStored roomKey.symm
  have otherStored : ∀ other ∈ tables.sessions.rows, other.id ≠ session.id → other ∈ after.sessions.rows :=
    fun other member different => sessions ▸ other_mem_replaced member (sessionKey ▸ different)
  have otherRoomStored : ∀ other ∈ tables.rooms.rows, other.id ≠ room.id → other ∈ after.rooms.rows :=
    fun other member different => rooms ▸ other_mem_replaced member (roomKey ▸ different)
  -- The session of another room is another session, and the other way round.
  have apart : ∀ other ∈ tables.sessions.rows, other.id ≠ session.id → other.roomId ≠ session.roomId :=
    fun other member different same =>
      different (congrArg _ (sound.single session sessionStored other member same))
  have sessionOf : ∀ other ∈ tables.sessions.rows, ∃ kept ∈ after.sessions.rows,
    kept.id = other.id ∧ kept.roomId = other.roomId := by
    intro other member
    by_cases same : other.id = session.id
    · obtain rfl := session_unique sessionStored member same
      exact ⟨changed, changedStored, sessionKey, roomOf⟩
    · exact ⟨other, otherStored other member same, rfl, rfl⟩
  constructor
  · intro other member
    rcases roomCases other member with rfl | ⟨old, _⟩
    · exact ⟨changed, changedStored, by rw [roomOf, hosts, roomKey]⟩
    · obtain ⟨hosting, stored, named⟩ := sound.started other old
      obtain ⟨kept, stays, _, same⟩ := sessionOf hosting stored
      exact ⟨kept, stays, same.trans named⟩
  · intro other member
    rcases sessionCases other member with rfl | ⟨old, different⟩
    · exact ⟨changedRoom, changedRoomStored, by rw [roomKey, roomOf, hosts]⟩
    · obtain ⟨house, stored, named⟩ := sound.housed other old
      refine ⟨house, otherRoomStored house stored ?_, named⟩
      rw [named, ← hosts]
      exact apart other old different
  · intro one first two second same
    rcases sessionCases one first with rfl | ⟨oldOne, differentOne⟩
    · rcases sessionCases two second with rfl | ⟨oldTwo, differentTwo⟩
      · rfl
      · exact absurd (same.trans roomOf) (apart two oldTwo differentTwo)
    · rcases sessionCases two second with rfl | ⟨oldTwo, _⟩
      · exact absurd (same.symm.trans roomOf) (apart one oldOne differentOne)
      · exact sound.single one oldOne two oldTwo same
  · intro presence member
    rcases presences presence member with ⟨ours, house⟩ | ⟨old, stored, sameSession, sameRoom⟩
    · exact ⟨changed, changedStored, by rw [sessionKey, ours], by rw [roomOf, hosts, house]⟩
    · obtain ⟨hosting, inside, keyed, named⟩ := sound.owned old stored
      obtain ⟨kept, stays, sameKey, sameHouse⟩ := sessionOf hosting inside
      exact ⟨kept, stays, by rw [sameKey, keyed, sameSession], by rw [sameHouse, named, sameRoom]⟩
  · intro other member hosting stored named
    rcases sessionCases hosting stored with rfl | ⟨old, different⟩
    · rcases roomCases other member with rfl | ⟨_, elsewhere⟩
      · exact healthy
      · exact absurd (by rw [← named, roomOf, hosts]) elsewhere
    · rcases roomCases other member with rfl | ⟨oldRoom, _⟩
      · exact absurd (by rw [named, roomKey, hosts]) (apart hosting old different)
      · exact (sound.healthy other oldRoom hosting old named).framed (framed _ different).1
          (framed _ different).2

end

end Perfcho.Durable
