import Perfcho.Durable.Hosting
import Perfcho.Multiplayer.SlotFlow

/-! Rounds and their participants. A round in progress has the settings of its room,
and every participant belongs to a round of a known session. -/

namespace Perfcho.Durable

open Foundation Multiplayer List

variable {read tables after : Tables} {round : Round} {presence : SessionPresence}

/-- What holds of the rounds between transactions. -/
structure Paced (tables : Tables) : Prop where
  hosted : ∀ round ∈ tables.rounds.rows, Known tables round.sessionId
  owned : ∀ row ∈ tables.roundParticipants.rows, ∃ round ∈ tables.rounds.rows, round.id = row.roundId
  settled : ∀ room session, (room, session) ∈ tables.activeRooms →
    ∀ round ∈ tables.playing session.id, round.settings = room.settings

theorem Paced.empty : Paced .empty := by
  constructor
  · simp [Tables.empty]
  · simp [Tables.empty]
  · simp [Tables.empty, Tables.playing]

theorem Finishes.came (finishes : Finishes tables sessionId rounds) (member : round ∈ rounds) :
    ∃ old ∈ tables.rounds.rows, old.id = round.id ∧ old.sessionId = round.sessionId ∧
    old.settings = round.settings := by
  cases finishes with
  | idle => exact ⟨round, member, rfl, rfl, rfl⟩
  | ended active key _ house settings =>
    rcases mem_replaced member with rfl | ⟨old, _⟩
    · exact ⟨_, (mem_playing.mp active).1, key.symm, house.symm, settings.symm⟩
    · exact ⟨round, old, rfl, rfl, rfl⟩

theorem Finishes.kept (finishes : Finishes tables sessionId rounds)
    (member : round ∈ tables.rounds.rows) : ∃ later ∈ rounds, later.id = round.id := by
  cases finishes with
  | idle => exact ⟨round, member, rfl⟩
  | @ended active ended playing key =>
    by_cases same : round.id = ended.id
    · exact ⟨ended, row_mem_replaced member same, same.symm⟩
    · exact ⟨round, other_mem_replaced member same, rfl⟩

theorem Edit.rounds_came (edit : Edit brought tables room session editedRoom edited occupants played frozen)
    (member : round ∈ played) :
    (∃ old ∈ tables.rounds.rows, old.id = round.id ∧ old.sessionId = round.sessionId ∧
      old.settings = round.settings) ∨ round.sessionId = session.id := by
  cases edit with
  | joined | left | revised => exact .inl ⟨round, member, rfl, rfl, rfl⟩
  | closed _ _ finishes => exact .inl (finishes.came member)
  | finished finishes => exact .inl (finishes.came member)
  | started _ sessionId =>
    rcases of_mem_concat member with old | new
    · exact .inl ⟨round, old, rfl, rfl, rfl⟩
    · cases new
      exact .inr sessionId

theorem Edit.rounds_kept (edit : Edit brought tables room session editedRoom edited occupants played frozen)
    (member : round ∈ tables.rounds.rows) : ∃ later ∈ played, later.id = round.id := by
  cases edit with
  | joined | left | revised => exact ⟨round, member, rfl⟩
  | closed _ _ finishes => exact finishes.kept member
  | finished finishes => exact finishes.kept member
  | started => exact ⟨round, mem_append_left _ member, rfl⟩

theorem Edit.frozen_owned (edit : Edit brought tables room session editedRoom edited occupants played frozen)
    (member : row ∈ frozen) :
    row ∈ tables.roundParticipants.rows ∨ ∃ round ∈ played, round.id = row.roundId := by
  cases edit with
  | joined | left | revised | closed | finished => exact .inl member
  | started _ _ _ _ theirs =>
    rcases mem_append.mp member with old | new
    · exact .inl old
    · obtain ⟨_, _, frozen⟩ := exists_of_related theirs new
      exact .inr ⟨_, mem_append_right _ (mem_singleton.mpr rfl), frozen.round.symm⟩

theorem Edit.settled (edit : Edit brought tables room session editedRoom edited occupants
    after.rounds.rows frozen)
    (active : editedRoom.status.active = true)
    (settled : ∀ round ∈ tables.playing session.id, round.settings = room.settings) :
    ∀ round ∈ after.playing session.id, round.settings = editedRoom.settings := by
  generalize rows : after.rounds.rows = rounds at edit
  cases edit with
  | joined | left =>
    rw [playing_congr rows]
    exact settled
  | closed => cases active
  | revised _ _ _ _ _ settings =>
    rw [playing_congr rows]
    rcases settings with same | idle
    · rw [same]
      exact settled
    · simp [idle.1]
  | started _ _ settings idle =>
    intro round playing
    obtain ⟨stored, progress, ours⟩ := mem_playing.mp playing
    rw [rows] at stored
    rcases of_mem_concat stored with old | new
    · have member : round ∈ tables.playing session.id := mem_playing.mpr ⟨old, progress, ours⟩
      rw [idle] at member
      cases member
    · cases new
      exact settings
  | finished finishes =>
    rw [playing_finished (rows ▸ finishes), if_pos rfl]
    simp

theorem Paced.opens (paced : Paced tables) (sound : Sound tables)
    (opens : Opens read tables request after) : Paced after := by
  have change : Change read tables (.create request) after := .opened rfl opens
  constructor
  · intro round member
    rw [opens.rounds] at member
    exact change.known (paced.hosted round member)
  · rw [opens.frozen, opens.rounds]
    exact paced.owned
  · intro room session found round playing
    rw [playing_congr (congrArg _ opens.rounds)] at playing
    obtain ⟨stored, _, ours⟩ := mem_playing.mp playing
    obtain ⟨old, there, key⟩ := paced.hosted round stored
    have known : session.id ≠ request.sessionId := by
      rw [← ours, ← key]
      exact opens.fresh.2 old there
    exact paced.settled room session (opens.activeRooms sound found known) round playing

theorem Paced.edits (paced : Paced tables) (sound : Sound tables)
    (edits : Edits brought read tables commandId room session after) : Paced after := by
  obtain ⟨editedRoom, edited, _, _, edit, rooms, sessions, _⟩ := edits.edit
  obtain ⟨roomKey, _, _, key, _⟩ := edit.keyed
  obtain ⟨⟨stored, _⟩, hosting, named, _⟩ := mem_activeRooms.mp edits.found
  have knownNow : Known after session.id := ⟨edited, sessions ▸ row_mem_replaced hosting key.symm, key⟩
  have keeps : ∀ {sessionId}, Known tables sessionId → Known after sessionId := by
    rintro _ ⟨old, there, rfl⟩
    obtain ⟨later, stays, same, _⟩ := edits.session_kept there
    exact ⟨later, stays, same⟩
  constructor
  · intro round member
    rcases edit.rounds_came member with ⟨old, there, _, same, _⟩ | ours
    · exact same ▸ keeps (paced.hosted old there)
    · exact ours ▸ knownNow
  · intro row member
    rcases edit.frozen_owned member with old | new
    · obtain ⟨round, there, same⟩ := paced.owned row old
      obtain ⟨later, stays, key⟩ := edit.rounds_kept there
      exact ⟨later, stays, key.trans same⟩
    · exact new
  · intro room' session' found round playing
    rcases edits.activeRooms sound found with ⟨old, different⟩ | ⟨same, home, _⟩
    · rw [(edit.framed different).2] at playing
      exact paced.settled room' session' old round playing
    · obtain ⟨⟨stored', active⟩, _⟩ := mem_activeRooms.mp found
      have editedStored : editedRoom ∈ after.rooms.rows := rooms ▸ row_mem_replaced stored roomKey.symm
      obtain rfl := room_unique editedStored stored' (home.trans roomKey.symm)
      rw [same] at playing
      exact edit.settled active (paced.settled room session edits.found) round playing

theorem Paced.change (paced : Paced tables) (sound : Sound tables)
    (change : Change read tables command after) : Paced after := by
  cases change with
  | unchanged => exact paced
  | opened _ opens => exact paced.opens sound opens
  | edited edits _ => exact paced.edits sound edits

theorem Reachable.paced (reached : Reachable tables) : Paced tables := by
  induction reached with
  | empty => exact .empty
  | step before step paced =>
    cases step with
    | commits ran => exact paced.change before.sound (transact_change ran)
    | rollsBack => exact ⟨paced.hosted, paced.owned, paced.settled⟩

theorem Edit.frozen_kept (edit : Edit brought tables room session editedRoom edited occupants played frozen)
    (member : row ∈ tables.roundParticipants.rows) : row ∈ frozen := by
  cases edit with
  | started => exact mem_append_left _ member
  | _ => exact member

theorem Edit.playing_old
    (edit : Edit brought tables room session editedRoom edited occupants after.rounds.rows frozen)
    (playing : round ∈ after.playing sessionId)
    (known : ∃ old ∈ tables.rounds.rows, old.id = round.id) : round ∈ tables.playing sessionId := by
  obtain ⟨stored, progress, ours⟩ := mem_playing.mp playing
  have finished : Finishes tables session.id after.rounds.rows → round ∈ tables.playing sessionId := by
    intro finishes
    rw [playing_finished finishes] at playing
    split at playing
    · cases playing
    · exact playing
  generalize rows : after.rounds.rows = rounds at edit stored finished
  cases edit with
  | joined | left | revised => exact mem_playing.mpr ⟨stored, progress, ours⟩
  | closed _ _ finishes => exact finished finishes
  | finished finishes => exact finished finishes
  | started =>
    rcases of_mem_concat stored with old | here
    · exact mem_playing.mpr ⟨old, progress, ours⟩
    · cases here
      obtain ⟨old, there, same⟩ := known
      exact absurd same (after.rounds.fresh_of_unique mem_cons_self rows rfl old there rfl)

theorem Edit.presence_kept (edit : Edit brought tables room session editedRoom edited occupants played frozen)
    (member : presence ∈ tables.presences.rows) : ∃ later ∈ occupants, later.id = presence.id := by
  have parted : ∀ ended : SessionPresence,
    ∃ later ∈ Table.replaced (·.id) tables.presences.rows ended, later.id = presence.id := by
    intro ended
    by_cases same : presence.id = ended.id
    · exact ⟨ended, row_mem_replaced member same, same.symm⟩
    · exact ⟨presence, other_mem_replaced member same, rfl⟩
  cases edit with
  | joined => exact ⟨presence, mem_append_left _ member, rfl⟩
  | left | closed => exact parted _
  | _ => exact ⟨presence, member, rfl⟩

theorem Edit.present_old
    (edit : Edit brought tables room session editedRoom edited after.presences.rows played frozen)
(present : presence ∈ after.present sessionId) (known : ∃ old ∈ tables.presences.rows,
    old.id = presence.id) : presence ∈ tables.present sessionId := by
  obtain ⟨stored, current, ours⟩ := mem_present.mp present
  have parted : ∀ ended : SessionPresence, ended.current = false →
    presence ∈ Table.replaced (·.id) tables.presences.rows ended → presence ∈ tables.present sessionId := by
    intro ended left member
    rcases mem_replaced member with rfl | ⟨old, _⟩
    · rw [left] at current
      cases current
    · exact mem_present.mpr ⟨old, current, ours⟩
  generalize rows : after.presences.rows = occupants at edit stored
  cases edit with
  | joined =>
    rcases of_mem_concat stored with old | here
    · exact mem_present.mpr ⟨old, current, ours⟩
    · cases here
      obtain ⟨old, there, same⟩ := known
      exact absurd same (after.presences.fresh_of_unique mem_cons_self rows rfl old there rfl)
  | left | closed => exact parted _ rfl stored
  | _ => exact mem_present.mpr ⟨stored, current, ours⟩

/-- What lasts of a presence, a round and a participant. -/
structure Lasting (tables after : Tables) : Prop where
  presence : ∀ presence ∈ tables.presences.rows, ∃ later ∈ after.presences.rows, later.id = presence.id
  round : ∀ round ∈ tables.rounds.rows, ∃ later ∈ after.rounds.rows, later.id = round.id
  frozen : ∀ row ∈ tables.roundParticipants.rows, row ∈ after.roundParticipants.rows
  present : ∀ (sessionId : Uuid) (presence : SessionPresence), presence ∈ after.present sessionId →
    (∃ old ∈ tables.presences.rows, old.id = presence.id) → presence ∈ tables.present sessionId
  playing : ∀ (sessionId : Uuid) (round : Round), round ∈ after.playing sessionId →
    (∃ old ∈ tables.rounds.rows, old.id = round.id) → round ∈ tables.playing sessionId

theorem Change.lasting (change : Change read tables command after) : Lasting tables after := by
  cases change with
  | unchanged =>
    exact ⟨fun row member => ⟨row, member, rfl⟩, fun row member => ⟨row, member, rfl⟩, fun _ =>
      id, fun _ _ here _ => here, fun _ _ here _ => here⟩
  | opened _ opens =>
    obtain ⟨_, presences⟩ := opens.presence
    refine ⟨fun row member => ⟨row, presences ▸ mem_append_left _ member, rfl⟩,
      fun row member => ⟨row, opens.rounds ▸ member, rfl⟩, fun row member => opens.frozen ▸ member, ?_, ?_⟩
    · intro sessionId presence present ⟨old, there, same⟩
      obtain ⟨stored, current, ours⟩ := mem_present.mp present
      rw [presences] at stored
      rcases of_mem_concat stored with before | here
      · exact mem_present.mpr ⟨before, current, ours⟩
      · cases here
        exact absurd same (after.presences.fresh_of_unique mem_cons_self presences rfl old there rfl)
    · intro sessionId round playing _
      rwa [playing_congr (congrArg _ opens.rounds)] at playing
  | edited edits _ _ =>
    obtain ⟨_, _, _, _, edit, _⟩ := edits.edit
    exact ⟨fun _ => edit.presence_kept, fun _ => edit.rounds_kept, fun _ => edit.frozen_kept,
      fun _ _ => edit.present_old, fun _ _ => edit.playing_old⟩

theorem findCommandRoom_of_fresh (fresh : tables.commandApplied commandId = false) :
    tables.findCommandRoom commandId = .ok none := by
  have missing : tables.events.rows.find? (·.commandId = commandId) = none := by
    rw [find?_eq_none]
    exact any_eq_false.mp fresh
  rw [Tables.findCommandRoom, missing]

section

variable {fits : RoomSettings → RoundParticipant → Prop}

/-- The row of every participant fits the settings of its round. -/
def RowsFit (fits : RoomSettings → RoundParticipant → Prop) (tables : Tables) : Prop :=
  ∀ row ∈ tables.roundParticipants.rows, ∀ round ∈ tables.rounds.rows, round.id = row.roundId →
    fits round.settings row

theorem RowsFit.empty : RowsFit fits .empty := by
  intro row member
  cases member

theorem RowsFit.started (fit : RowsFit fits tables) (paced : Paced tables)
    (rounds : after.rounds.rows = tables.rounds.rows ++ [round])
    (rows : after.roundParticipants.rows = tables.roundParticipants.rows ++ frozen)
    (theirs : ∀ row ∈ frozen, row.roundId = round.id ∧ fits round.settings row) : RowsFit fits after := by
  have fresh : ∀ old ∈ tables.rounds.rows, old.id ≠ round.id := fun old there =>
    after.rounds.fresh_of_unique mem_cons_self rounds rfl old there rfl
  intro row member other stored key
  rw [rows] at member
  rw [rounds] at stored
  rcases mem_append.mp member with old | new
  · rcases of_mem_concat stored with before | new
    · exact fit row old other before key
    · cases new
      obtain ⟨mine, there, same⟩ := paced.owned row old
      exact absurd (same.trans key.symm) (fresh mine there)
  · obtain ⟨ours, fitting⟩ := theirs row new
    rcases of_mem_concat stored with before | new
    · exact absurd (key.trans ours) (fresh other before)
    · cases new
      exact fitting

theorem RowsFit.edit (fit : RowsFit fits tables) (paced : Paced tables)
    (edit : Edit brought tables room session editedRoom edited occupants after.rounds.rows
      after.roundParticipants.rows)
    (freezes : ∀ participant ∈ brought.participants, ∀ roundId row,
      Freezes room.settings roundId participant row →
      fits room.settings row) : RowsFit fits after := by
  have came : ∀ finished : Finishes tables session.id after.rounds.rows,
    after.roundParticipants.rows = tables.roundParticipants.rows → RowsFit fits after := by
    intro finishes same row member round stored key
    obtain ⟨old, there, sameKey, _, settings⟩ := finishes.came stored
    rw [same] at member
    exact settings ▸ fit row member old there (sameKey.trans key)
  generalize rounds : after.rounds.rows = roundRows at edit came
  generalize rows : after.roundParticipants.rows = frozenRows at edit came
  cases edit with
  | joined | left | revised =>
    intro row member round stored
    rw [rows] at member
    rw [rounds] at stored
    exact fit row member round stored
  | closed _ _ finishes => exact came finishes rfl
  | finished finishes => exact came finishes rfl
  | @started round frozen _ _ settings _ theirs =>
    apply fit.started paced rounds rows
    intro row member
    obtain ⟨participant, chosen, frozen⟩ := exists_of_related theirs member
    exact ⟨frozen.round, settings ▸ freezes participant chosen _ row frozen⟩

/-- The rows fit after a command if those that it freezes do. -/
theorem RowsFit.change (fit : RowsFit fits tables) (paced : Paced tables)
    (change : Change read tables command after)
    (freezes : ∀ room session, (room, session) ∈ tables.activeRooms →
      (∀ publicId key, command.hosted = some (publicId, key) → room.publicId = publicId) →
      ∀ participant ∈ command.brought.participants, ∀ roundId row,
      Freezes room.settings roundId participant row →
        fits room.settings row) : RowsFit fits after := by
  cases change with
  | unchanged => exact fit
  | opened _ opens =>
    intro row member round stored
    rw [opens.frozen] at member
    rw [opens.rounds] at stored
    exact fit row member round stored
  | edited edits _ placed =>
    obtain ⟨_, _, _, _, edit, _⟩ := edits.edit
    exact fit.edit paced edit (freezes _ _ edits.found placed)

end

end Perfcho.Durable
