import Perfcho.Durable.Rounds
import Perfcho.Service.Runs

/-! Laws of the stored rooms. A law says what settings a room may have, what holds of a
projected state, and how the row of a participant goes with the settings of its round.
A law that every kind of step keeps holds in every run. -/

namespace Perfcho.Service

open Foundation Multiplayer Durable Redis

variable {Blob : Type} {tables : Tables} {participants : List RoundParticipantSelection}
  {room : Nat} {next : Option RoomState}

structure Law where
  settings : RoomSettings → Prop
  state : RoomState → Prop
  row : RoomSettings → RoundParticipant → Prop

/-- What a law can see of a state. -/
structure Alike (state next : RoomState) : Prop where
  settings : next.room.settings = state.room.settings
  slots : next.slots = state.slots
  round : next.roundId = state.roundId
  frozen : next.roundParticipantAccountIds = state.roundParticipantAccountIds

theorem Alike.sanitized (state : RoomState) : Alike state state.sanitized := ⟨rfl, rfl, rfl, rfl⟩

theorem Alike.withStatus (state : RoomState) (status : ProjectionStatus) :
    Alike state (state.withStatus status) :=
  ⟨rfl, rfl, rfl, rfl⟩

theorem Alike.withRevision (state : RoomState) (revision : Nat) : Alike state (state.withRevision revision) :=
  ⟨rfl, rfl, rfl, rfl⟩

/-- The settings of the record that a command answers with: what the command makes of those
that it has found. A repeated command leaves them as they are. -/
def Settled (tables : Tables) (command : Durable.Command) (found settings : RoomSettings) : Prop :=
  settings = command.settle found ∨ settings = found ∧
    ∃ publicId commandId, command.hosted = some (publicId, commandId) ∧ tables.commandApplied commandId = true

theorem Settled.fresh
    (settled : Settled tables command found settings) (fresh : ∀ commandId actor publicId version requested,
      command = .updateSettings commandId actor publicId version requested →
    tables.commandApplied commandId = false) : settings = command.settle found := by
  rcases settled with made | ⟨same, publicId, key, hosted, applied⟩
  · exact made
  cases command with
  | updateSettings =>
    cases hosted
    rw [fresh _ _ _ _ _ rfl] at applied
    cases applied
  | _ => exact same

/-- A law is kept by each kind of step whose call is permitted. -/
structure Law.Keeps (law : Law) (service : MultiplayerService Blob)
    (permitted : World Blob → Call → Prop) : Prop where
  alike : ∀ {state next : RoomState}, Alike state next → law.state state → law.state next
  opens : ∀ {world : World Blob} {moment : Moment} {request : CreateRequest},
    permitted world (.commit moment (.create request)) →
    (∃ requested, normalizedSettings service.normalizeMods requested = .ok request.settings) →
    law.settings request.settings
  settles : ∀ {world : World Blob} {moment : Moment} {commandId : Uuid} {actor version : Nat}
    {settings requested : RoomSettings} {room : Room} {session : MultiplayerSession}
    {state : RoomState} {slots : List RoomSlot},
    permitted world (.commit moment (.updateSettings commandId actor room.publicId version settings)) →
    (room, session) ∈ world.tables.activeRooms → state.room.settings = room.settings →
    settingsTransition service.normalizeMods state requested = .ok (settings, slots) →
    law.settings room.settings → law.settings settings
  rebuilt : ∀ {tables : Tables} {snapshot : DurableRoomSnapshot} {state : RoomState}, Rebuilt snapshot state →
    Current tables snapshot → Paced tables → RowsFit law.row tables → law.state state
  retained : ∀ {world : World Blob} {snapshot : DurableRoomSnapshot} {state updated : RoomState},
    permitted world (.repair updated state) → Current world.tables snapshot →
    state.room.sessionId = snapshot.room.sessionId → state.roundId = snapshot.roundId →
    Retained state snapshot updated →
    law.state state → law.state updated
  edited : ∀ {world : World Blob} {task : Repository.Task} {mutation : Mutation} {room : Nat}
    {state updated : RoomState}, permitted world (.state task) →
    task.mutation = some mutation → task.target = some room →
    Holds service.repo room world.store state → Asked service state mutation → Edited mutation state updated →
    law.state state → law.state updated
  transit : ∀ {world : World Blob} {moment : Moment} {command : Durable.Command} {record : RoomRecord}
    {active : Option Uuid} {state next : RoomState},
    permitted world (.commit moment command) → Transit service state record active command next →
    Settled world.tables command state.room.settings record.settings → law.settings state.room.settings →
    law.state state → law.state next
  freezes : ∀ {state : RoomState} {participants : List RoundParticipantSelection}
    {participant : RoundParticipantSelection} {roundId : Uuid} {row : RoundParticipant},
    law.settings state.room.settings → law.state state →
    selections state = .ok participants →
    participant ∈ participants → Freezes state.room.settings roundId participant row →
    law.row state.room.settings row

/-- A stored state under a law. -/
structure Law.Fits (law : Law) (tables : Tables) (state : RoomState) : Prop where
  abreast : Abreast tables state.room
  settings : law.settings state.room.settings
  state : law.state state

/-- A world under a law. -/
structure Law.Rules (law : Law) (service : MultiplayerService Blob) (world : World Blob) : Prop where
  paced : Paced world.tables
  rows : RowsFit law.row world.tables
  rooms : ∀ room session, (room, session) ∈ world.tables.activeRooms → law.settings room.settings
  stored : ∀ room state, Holds service.repo room world.store state → law.Fits world.tables state

variable {law : Law} {service : MultiplayerService Blob} {permitted : World Blob → Call → Prop}
variable {world : World Blob}

/-- The rows of a round whose accounts are listed, by their places. -/
def placedRows (tables : Tables) (roundId : Uuid) (accounts : List Nat) : List (RoundParticipant × Nat) :=
  ((tables.roundParticipants.rows.filter fun row => row.roundId = roundId ∧
    row.accountId ∈ accounts).insertionSort
    fun first second => first.slotNumber.getD 0 < second.slotNumber.getD 0 ∨
      first.slotNumber.getD 0 = second.slotNumber.getD 0 ∧ first.accountId ≤
    second.accountId).filterMap fun row => row.slotNumber.map fun slot => (row, slot)

theorem mem_placedRows :
    (row, slot) ∈ placedRows tables roundId accounts ↔ row ∈ tables.roundParticipants.rows ∧
      row.roundId = roundId ∧ row.accountId ∈ accounts ∧ row.slotNumber = some slot := by
  simp only [placedRows, List.mem_filterMap, (List.perm_insertionSort _ _).mem_iff, List.mem_filter,
    decide_eq_true_eq, Option.map_eq_some_iff, Prod.mk.injEq]
  constructor
  · rintro ⟨_, ⟨stored, round, present⟩, _, placed, rfl, rfl⟩
    exact ⟨stored, round, present, placed⟩
  · rintro ⟨stored, round, present, placed⟩
    exact ⟨row, ⟨stored, round, present⟩, slot, placed, rfl, rfl⟩

/-- Each participant that a snapshot shows is that of its row. -/
theorem roundSelections_eq_ok (ran : tables.roundSelections roundId accounts = .ok participants) :
    List.Forall₂ (fun (row, slot) participant => participant.accountId = row.accountId ∧
      participant.slotPosition = slot ∧ participant.team = row.teamNumber ∧
      participant.mods = row.mods) (placedRows tables roundId accounts) participants :=
  (mapM_eq_ok ran).imp fun _ _ built => selection_eq_ok built

theorem mem_roundSelections
    (ran : tables.roundSelections roundId accounts = .ok participants) (member : participant ∈ participants) :
    ∃ row ∈ tables.roundParticipants.rows, row.roundId = roundId ∧ participant.accountId = row.accountId ∧
      row.slotNumber = some participant.slotPosition ∧ participant.team = row.teamNumber ∧
      participant.mods = row.mods := by
  obtain ⟨⟨row, slot⟩, listed, account, rfl, kept⟩ := exists_of_related (roundSelections_eq_ok ran) member
  obtain ⟨stored, round, _, placed⟩ := mem_placedRows.mp listed
  exact ⟨row, stored, round, account, placed, kept⟩

/-- Where the slots of a rebuilt room come from: the rows of its round, or nowhere. -/
theorem Rebuilt.each {each : RoomSlot → Prop}
    (rebuilt : Rebuilt snapshot state) (current : Current tables snapshot) (paced : Paced tables)
    (rows : RowsFit fits tables)
    (seats : ∀ slot, slot.team = defaultTeam snapshot.room → slot.mods = [] → each slot)
    (vacates : ∀ slot, slot.accountId = none → slot.mods = [] → each slot)
    (plays : ∀ slot row, fits snapshot.room.settings row → slot.accountId.isSome →
      slot.team = row.teamNumber →
      slot.mods = personalMods snapshot.room row.mods → each slot) : ∀ slot ∈ state.slots, each slot := by
  intro slot member
  obtain ⟨playing, played, laid⟩ := rebuilt.laid
  cases laid slot member with
  | seat _ _ _ _ team bare => exact seats slot team bare
  | vacant status bare => exact vacates slot (RoomSlot.vacant_of_open status) bare
  | kept member =>
    obtain ⟨participant, selected, built⟩ := exists_of_related played member
    obtain ⟨_, ran⟩ := current
    obtain ⟨located, _, _, ⟨idle, _⟩ | ⟨round, active, _, selects⟩⟩ := loadSnapshot_eq_ok ran
    · rw [snapshot.identified idle] at selected
      cases selected
    obtain ⟨row, stored, key, _, _, team, mods⟩ := mem_roundSelections selects selected
    obtain ⟨room, session, found, recorded⟩ := (standing_of_getRoom located).1
    rw [(record_eq_ok recorded).2.2.1] at active
    have fit := rows row stored round (mem_playing.mp active).1 key.symm
    rw [paced.settled room session found round active, ← record_settings recorded] at fit
    obtain ⟨_, _, named, side, own⟩ := RoomSlot.new_eq_ok built
    exact plays slot row fit (by simp [named]) (side.trans team) (mods ▸ own)

namespace Law

theorem Rules.standing (rules : law.Rules service world) (standing : Standing world.tables made) :
    law.settings made.settings := by
  obtain ⟨room, session, found, recorded⟩ := standing
  rw [record_settings recorded]
  exact rules.rooms room session found

/-- What a request reads is under the law and has the settings that stand. -/
theorem Rules.shown (rules : law.Rules service world) (keeps : law.Keeps service permitted)
    {state : RoomState} (shown : Shown service permitted world room state) :
    law.state state ∧ ∃ made, Standing world.tables made ∧ made.publicId = room ∧
    state.room.settings = made.settings := by
  cases shown with
  | projected current keyed holds inStep =>
    have fits := rules.stored room state holds
    exact ⟨fits.state, _, current.standing, keyed,
      fits.abreast.settings current.standing inStep.session inStep.version⟩
  | recovered current keyed built degraded =>
    have rebuilt := stateFromSnapshot_eq_ok built
    have held := keeps.rebuilt rebuilt current rules.paced rules.rows
    subst degraded
    exact ⟨keeps.alike (.withStatus _ _) held, _, current.standing, keyed,
      congrArg RoomRecord.settings rebuilt.room⟩

section

variable {command : Durable.Command} {committed : Committed} {moment : Moment} {tables : Tables}

theorem Rules.rows_commit (rules : law.Rules service world) (keeps : law.Keeps service permitted)
    (kept : Kept service world) (sends : Sends service permitted world command)
    (ran : commit world.tables service.policies moment command = .ok (committed, tables)) :
    RowsFit law.row tables := by
  apply rules.rows.change rules.paced (transact_change (commit_eq_ok ran).1)
  intro room session found placed participant member roundId row frozen
  cases command with
  | startRound commandId actor publicId version _ participants =>
    obtain ⟨state, shown, selected, _⟩ := sends
    obtain ⟨held, made, standing, keyed, same⟩ := rules.shown keeps shown
    have settings : state.room.settings = room.settings :=
      same.trans (standing.settings_eq kept.sound found ((placed publicId commandId rfl).trans keyed.symm))
    rw [← settings] at frozen ⊢
    exact keeps.freezes (same ▸ rules.standing standing) held selected member frozen
  | _ => cases member

theorem Rules.rooms_commit (rules : law.Rules service world) (keeps : law.Keeps service permitted)
    (kept : Kept service world) (allowed : permitted world (.commit moment command))
    (sends : Sends service permitted world command)
    (ran : commit world.tables service.policies moment command = .ok (committed, tables)) :
    ∀ room session, (room, session) ∈ tables.activeRooms → law.settings room.settings := by
  intro room session found
  rcases (transact_change (commit_eq_ok ran).1).settings kept.sound found with
    ⟨request, rfl, same⟩ | ⟨old, before, located, same | ⟨brought, placed⟩⟩
  · rw [same]
    exact keeps.opens allowed sends
  · rw [same]
    exact rules.rooms old before located
  cases command with
  | updateSettings commandId actor publicId version settings =>
    cases brought
    obtain rfl := placed publicId commandId rfl
    obtain ⟨state, requested, slots, shown, checked⟩ := sends
    obtain ⟨_, made, standing, keyed, same⟩ := rules.shown keeps shown
    have settings := same.trans (standing.settings_eq kept.sound located keyed.symm)
    exact keeps.settles allowed located settings checked (rules.rooms old before located)
  | _ => cases brought

end

theorem Rules.of_puts (rules : law.Rules service world)
    (paced : Paced after.tables) (rows : RowsFit law.row after.tables)
    (rooms : ∀ room session, (room, session) ∈ after.tables.activeRooms → law.settings room.settings)
    (abreast : ∀ record, Abreast world.tables record → Abreast after.tables record)
    (puts : Puts service.repo world.store after.store room next)
    (put : ∀ state, next = some state → law.Fits after.tables state) : law.Rules service after := by
  refine ⟨paced, rows, rooms, fun room' state holds => ?_⟩
  rcases puts.held holds with ⟨_, new⟩ | old
  · exact put state new
  · have fits := rules.stored room' state old
    exact ⟨abreast _ fits.abreast, fits.settings, fits.state⟩

theorem Rules.writes (rules : law.Rules service world)
    (tables : after.tables = world.tables) (puts : Puts service.repo world.store after.store room next)
    (put : ∀ state, next = some state → law.Fits world.tables state) : law.Rules service after := by
  apply rules.of_puts (tables ▸ rules.paced) (tables ▸ rules.rows) (tables ▸ rules.rooms)
    (fun _ abreast => tables ▸ abreast) puts
  rw [tables]
  exact put

theorem Rules.of_rooms (rules : law.Rules service world) (tables : after.tables = world.tables)
    (rooms : ∀ room state, Holds service.repo room after.store state →
      Holds service.repo room world.store state) : law.Rules service after :=
  ⟨tables ▸ rules.paced, tables ▸ rules.rows, tables ▸ rules.rooms,
    fun room state holds => tables ▸ rules.stored room state (rooms room state holds)⟩

theorem Fits.of_standing (keeps : law.Keeps service permitted) {next : RoomState}
    (standing : Standing tables made) (settings : law.settings made.settings)
    (room : publicRoom next.room = publicRoom made) (held : law.state next) :
    law.Fits tables next.sanitized := by
  refine ⟨?_, ?_, keeps.alike (.sanitized next) held⟩
  · change Abreast tables (publicRoom next.room)
    rw [room]
    exact standing.abreast
  · change law.settings (publicRoom next.room).settings
    rw [room]
    exact settings

theorem Rules.move (keeps : law.Keeps service permitted) (kept : Kept service world)
    (move : Move service permitted world after) (rules : law.Rules service world) :
    law.Rules service after := by
  cases move with
  | quiet tables same =>
    exact rules.of_rooms tables fun room _ holds => holds.of_rooms_eq (congrFun same.rooms room).symm
  | fades _ tables fades => exact rules.writes tables fades.puts (by simp)
  | drops tables _ puts => exact rules.writes tables puts (by simp)
  | commits allowed sends ran store =>
    have change := transact_change (commit_eq_ok ran).1
    refine ⟨rules.paced.change kept.sound change, rules.rows_commit keeps kept sends ran,
      rules.rooms_commit keeps kept allowed sends ran, ?_⟩
    rw [store]
    intro room state holds
    have fits := rules.stored room state holds
    exact ⟨fits.abreast.change kept.sound change, fits.settings, fits.state⟩
  | @creates snapshot _ _ bounded _ tables current _ built bounds puts =>
    have rebuilt := stateFromSnapshot_eq_ok built
    obtain ⟨room, _, slots, _, round, frozen⟩ := RoomState.replaced_eq_ok bounds
    have settings : bounded.room.settings = _ := congrArg RoomRecord.settings room
    have held := keeps.rebuilt rebuilt current rules.paced rules.rows
    apply rules.writes tables puts
    rintro _ ⟨⟩
    apply Fits.of_standing keeps current.standing (rules.standing current.standing)
    · rw [room, rebuilt.room]
      rfl
    · exact keeps.alike ⟨settings, slots, round, frozen⟩ held
  | @repairs snapshot _ stale _ allowed tables current holds reconciled puts =>
    apply rules.writes tables puts
    rintro _ ⟨⟩
    have settings := rules.standing current.standing
    rcases reconcile_updated reconciled with ⟨sameSession, sameRound, retained⟩ | ⟨_, rebuilt, facts, rfl⟩
    · apply Fits.of_standing keeps current.standing settings (congrArg publicRoom retained.room)
      exact keeps.retained allowed current sameSession sameRound retained (rules.stored _ _ holds).state
    · have room : (rebuilt.withRevision
        (max (stale.stateRevision + 1) snapshot.room.version)).room = snapshot.room :=
        facts.room
      apply Fits.of_standing keeps current.standing settings (congrArg publicRoom room)
      exact keeps.alike (.withRevision rebuilt _) (keeps.rebuilt facts current rules.paced rules.rows)
  | @edits task mutation room _ state updated allowed edits target brings tables holds asked built puts =>
    have edited := Mutation.apply_edited built
    have fits := rules.stored room state holds
    have held := keeps.edited allowed edits target holds asked edited fits.state
    apply rules.writes tables puts
    rintro _ ⟨⟩
    cases brought : mutation.record with
    | none =>
      have same : updated.room = state.room := by simpa [brought] using edited.room
      refine ⟨?_, ?_, keeps.alike (.sanitized updated) held⟩
      · change Abreast world.tables (publicRoom updated.room)
        rw [same]
        exact fits.abreast
      · change law.settings (publicRoom updated.room).settings
        rw [same]
        exact fits.settings
    | some record =>
      have standing := (standing_of_getRoom (brings record brought)).1
      have same : updated.room = publicRoom record := by simpa [brought] using edited.room
      apply Fits.of_standing keeps standing (rules.standing standing) _ held
      rw [same]
      rfl
  | replaces allowed sends ran hosted unanswered answered shown holds revision session transit puts =>
    obtain ⟨change, serves⟩ := commit_record hosted unanswered ran answered
    obtain ⟨held, shown, standing, keyed, settings⟩ := rules.shown keeps shown
    have rooms := rules.rooms_commit keeps kept allowed sends ran
    apply rules.of_puts (rules.paced.change kept.sound change) (rules.rows_commit keeps kept sends ran) rooms
      (fun _ abreast => abreast.change kept.sound change) puts
    rintro _ ⟨⟩
    apply Fits.of_standing keeps serves.standing.1 _ (congrArg publicRoom transit.room)
    · apply keeps.transit allowed transit _ (settings ▸ rules.standing standing) held
      obtain ⟨stored, _, found, public_, answer⟩ := serves
      rw [settings, standing.settings_eq kept.sound found (public_.trans keyed.symm)]
      rcases answer with ⟨applied, recorded, _⟩ | ⟨_, revises⟩
      · exact .inr ⟨record_settings recorded, _, _, hosted, applied⟩
      · exact .inl revises.settings
    · obtain ⟨edited, session, found, recorded⟩ := serves.standing.1
      exact record_settings recorded ▸ rooms edited session found

theorem Rules.wait (elapses : Elapses world after) (rules : law.Rules service world) :
    law.Rules service after := by
  apply rules.of_rooms elapses.tables
  intro room state holds
  rcases elapses.rooms room with same | ⟨gone, _⟩
  · exact holds.of_rooms_eq same.symm
  · obtain ⟨_, found⟩ := holds.stored
    rw [gone] at found
    cases found

theorem Rules.empty (clock : Int) : law.Rules service (.empty clock : World Blob) := by
  refine ⟨.empty, .empty, by simp [World.empty, Tables.empty, Tables.activeRooms], fun room state holds => ?_⟩
  obtain ⟨_, found⟩ := holds.stored
  cases found

/-- A law that is kept by every step holds in every run. -/
theorem Keeps.runs (keeps : law.Keeps service permitted)
    (runs : Runs service permitted waits (.empty clock) world) : law.Rules service world :=
  (Runs.preserves (law.Rules service) runs (Rules.move keeps) (fun elapses _ => Rules.wait elapses)
    (.empty clock)
    (.empty clock)).2

end Law

end Perfcho.Service
