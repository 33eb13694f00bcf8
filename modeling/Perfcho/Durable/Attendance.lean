import Perfcho.Durable.Rounds

/-! Who is there while a round is in progress. Nobody leaves a session but an account
that departs, and when the last account goes the round ends. A round starts among
accounts that are there. -/

namespace Perfcho.Durable

open Foundation Multiplayer

variable {read tables after : Tables} {round : Round}

/-- A round in progress has a participant who is present. -/
def Attends (tables : Tables) (round : Round) (presence : SessionPresence) : Prop :=
  presence ∈ tables.present round.sessionId ∧
    ∃ row ∈ tables.roundParticipants.rows, row.roundId = round.id ∧ row.accountId = presence.accountId

/-- Whoever is present stays, apart from an account that departs and leaves others
behind. -/
def Remain (tables after : Tables) (departs : Option Nat) (sessionId : Uuid) : Prop :=
  (∀ presence ∈ tables.present sessionId, presence ∈ after.present sessionId) ∨
    ∃ target, departs = some target ∧ (∃ other ∈ tables.present sessionId, other.accountId ≠ target) ∧
      ∀ presence ∈ tables.present sessionId, presence.accountId ≠ target → presence ∈ after.present sessionId

theorem Remain.of_eq (same : after.present sessionId = tables.present sessionId) :
    Remain tables after departs sessionId :=
  .inl fun _ present => same ▸ present

theorem Edit.remain (edit : Edit brought tables room session editedRoom edited after.presences.rows
    after.rounds.rows frozen)
    (healthy : Healthy tables room session) (active : room.status.active = true)
    (playing : round ∈ after.playing sessionId) : Remain tables after brought.departs sessionId := by
  by_cases same : sessionId = session.id
  · subst same
    generalize presences : after.presences.rows = presenceRows at edit
    generalize rounds : after.rounds.rows = roundRows at edit
    cases edit with
    | joined =>
      refine .inl fun presence present => ?_
      obtain ⟨stored, current⟩ := mem_present.mp present
      exact mem_present.mpr ⟨presences ▸ List.mem_append_left _ stored, current⟩
    | @left leaving host _ _ stored departs heirs =>
      have remaining := present_ended stored presences rfl rfl session.id
      refine .inr ⟨leaving.accountId, departs, ?_, fun presence present different => ?_⟩
      · rcases heirs with ⟨_, other⟩ | ⟨next, inside, different, _⟩
        · obtain ⟨_, owner, inside, named⟩ := healthy.hosted active
          exact ⟨owner, inside, fun same => other (named.trans (congrArg some same))⟩
        · exact ⟨next, inside, different⟩
      · rw [remaining]
        exact List.mem_filter.mpr ⟨present, decide_eq_true different⟩
    | closed _ _ finishes =>
      rw [playing_finished (rounds ▸ finishes), if_pos rfl] at playing
      cases playing
    | revised | started | finished => exact .of_eq (present_congr presences _)
  · exact .of_eq (edit.framed same).1

theorem Change.remain (change : Change read tables command after) (sound : Sound tables)
    (playing : round ∈ after.playing sessionId) : Remain tables after command.brought.departs sessionId := by
  cases change with
  | unchanged => exact .of_eq rfl
  | opened _ opens =>
    obtain ⟨_, presences⟩ := opens.presence
    refine .inl fun presence present => ?_
    obtain ⟨stored, current⟩ := mem_present.mp present
    exact mem_present.mpr ⟨presences ▸ List.mem_append_left _ stored, current⟩
  | edited edits =>
    obtain ⟨_, _, _, _, edit, _⟩ := edits.edit
    obtain ⟨⟨stored, active⟩, hosting, named, _⟩ := mem_activeRooms.mp edits.found
    exact edit.remain (sound.healthy _ stored _ hosting named) active playing

/-- A round that a command has started: it is the one that the command brings, its
participants are frozen, and nobody comes or goes. -/
theorem Change.begun (change : Change read tables command after) (playing : round ∈ after.playing sessionId)
    (unknown : ¬ ∃ old ∈ tables.rounds.rows, old.id = round.id) :
    command.brought.round = some round.id ∧ ∃ room session, (room, session) ∈ tables.activeRooms ∧
      session.id = sessionId ∧ (∀ publicId key, command.hosted = some (publicId, key) →
      room.publicId = publicId) ∧ after.present sessionId = tables.present sessionId ∧
      ∃ frozen, after.roundParticipants.rows = tables.roundParticipants.rows ++ frozen ∧
        List.Forall₂ (Freezes room.settings round.id) command.brought.participants frozen := by
  obtain ⟨stored, _, ours⟩ := mem_playing.mp playing
  cases change with
  | unchanged => exact absurd ⟨round, stored, rfl⟩ unknown
  | opened _ opens => exact absurd ⟨round, opens.rounds ▸ stored, rfl⟩ unknown
  | edited edits _ placed =>
    obtain ⟨_, _, _, _, edit, _⟩ := edits.edit
    generalize rounds : after.rounds.rows = roundRows at edit stored
    generalize presences : after.presences.rows = presenceRows at edit
    generalize rows : after.roundParticipants.rows = frozenRows at edit
    cases edit with
    | joined | left | revised => exact absurd ⟨round, stored, rfl⟩ unknown
    | closed _ _ finishes | finished finishes =>
      obtain ⟨old, there, key, _⟩ := finishes.came stored
      exact absurd ⟨old, there, key⟩ unknown
    | started begins sessionId _ _ theirs =>
      rcases of_mem_concat stored with old | new
      · exact absurd ⟨round, old, rfl⟩ unknown
      · cases new
        exact ⟨begins, _, _, edits.found, sessionId.symm.trans ours, placed,
          present_congr presences _, _, rfl, theirs⟩

theorem Hosts.place (one : Hosts tables publicId sessionId) (two : Hosts tables other sessionId) :
    other = publicId := by
  obtain ⟨room, session, found, rfl, rfl⟩ := one
  obtain ⟨room', session', found', rfl, same⟩ := two
  obtain ⟨⟨stored, _⟩, hosting, named, _⟩ := mem_activeRooms.mp found
  obtain ⟨⟨stored', _⟩, hosting', named', _⟩ := mem_activeRooms.mp found'
  obtain rfl := session_unique hosting hosting' same
  rw [room_unique stored stored' (named'.symm.trans named)]

theorem Sound.hosts (sound : Sound tables) (known : Known tables sessionId)
    (playing : round ∈ tables.playing sessionId) : ∃ publicId, Hosts tables publicId sessionId := by
  obtain ⟨session, hosting, rfl⟩ := known
  obtain ⟨room, stored, named⟩ := sound.housed session hosting
  have healthy := sound.healthy room stored session hosting named.symm
  cases active : room.status.active with
  | false =>
    rw [(healthy.closed active).2.2] at playing
    cases playing
  | true =>
    have running := (healthy.hosted active).1
    exact ⟨room.publicId, room, session,
      mem_activeRooms.mpr ⟨⟨stored, active⟩, hosting, named.symm, running⟩, rfl, rfl⟩

theorem Change.hosts (change : Change read tables command after) (sound : Sound tables) (later : Sound after)
    (hosts : Hosts tables publicId sessionId) (playing : round ∈ after.playing sessionId) :
    Hosts after publicId sessionId := by
  obtain ⟨place, there⟩ := later.hosts (change.known hosts.known) playing
  have before := change.hosted sound hosts.known there
  rwa [hosts.place before] at there

/-- A round in progress is played in an active room, and the room keeps the settings that
the round was started with. -/
theorem playing_settings {round : Round} (reached : Reachable tables)
    (stored : round ∈ tables.rounds.rows) (underway : round.status = .inProgress) :
    ∃ room session, (room, session) ∈ tables.activeRooms ∧ session.id = round.sessionId ∧
    room.settings = round.settings := by
  have playing : round ∈ tables.playing round.sessionId := by simp [Tables.playing, stored, underway]
  obtain ⟨_, room, session, found, _, named⟩ :=
    reached.sound.hosts (reached.paced.hosted round stored) playing
  exact ⟨room, session, found, named, (reached.paced.settled room session found round (named ▸ playing)).symm⟩

/-- A room is opened and its host starts a round. -/
def startedTables : Tables :=
  [(⟨1, 0⟩, sampleCreate 10 11 1), (⟨2, 1⟩, .startRound (sampleKey 20) 1 1 1 (sampleKey 50)
    [⟨1, 0, 0, [], sampleHost, sampleHostSlot, sampleTeam⟩])].foldl (perform openPolicies) .empty

theorem playing_settings_started : ∃ round ∈ startedTables.rounds.rows, round.status = .inProgress ∧
    ∃ room session, (room, session) ∈ startedTables.activeRooms ∧ session.id = round.sessionId ∧
      room.settings = round.settings := by
  have started : ∃ round ∈ startedTables.rounds.rows, round.status = .inProgress := by decide
  obtain ⟨round, stored, underway⟩ := started
  exact ⟨round, stored, underway, playing_settings (Reachable.empty.performs _) stored underway⟩

end Perfcho.Durable
