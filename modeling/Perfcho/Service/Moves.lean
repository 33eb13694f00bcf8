import Perfcho.Durable.Standing
import Perfcho.Multiplayer.Rebuilt
import Perfcho.Redis.Effects
import Perfcho.Service.Commands

/-! What a request does to the tables and the projections, one small step after the
other. Requests are served one at a time; every property of a whole run is then a
property of these steps. -/

namespace Perfcho.Service

open Foundation Multiplayer Durable Redis

variable {Blob : Type} {committed : Committed}

section

variable {tables : Tables}

/-- The snapshot of an active room, as the tables have it now. -/
def Current (tables : Tables) (snapshot : DurableRoomSnapshot) : Prop :=
  ∃ room, tables.loadSnapshot room = .ok snapshot

theorem snapshot_new_eq_ok {round : Option Uuid}
    (built : DurableRoomSnapshot.new room accounts round participants = .ok snapshot) :
    snapshot.room = room ∧ snapshot.activeAccountIds = accounts ∧ snapshot.roundId = round ∧
      snapshot.roundParticipants = participants := by
  unfold DurableRoomSnapshot.new at built
  iterate 3
    split at built
    case isFalse => cases built
  cases built
  exact ⟨rfl, rfl, rfl, rfl⟩

/-- A snapshot shows the record of its room, the accounts in it, and the round that is
played with those of its participants who are there. -/
theorem loadSnapshot_eq_ok (ran : tables.loadSnapshot room = .ok snapshot) :
    tables.getRoom room.publicId = .ok (some snapshot.room) ∧ snapshot.room.sessionId =
      room.sessionId ∧ snapshot.activeAccountIds = tables.listParticipantAccountIds snapshot.room ∧
      (snapshot.roundId = none ∧ tables.playing snapshot.room.sessionId = [] ∨
        ∃ round ∈ tables.playing snapshot.room.sessionId, snapshot.roundId = some round.id ∧
          tables.roundSelections round.id snapshot.activeAccountIds = .ok snapshot.roundParticipants) := by
  obtain ⟨found, located, ran⟩ := of_bind_eq_ok ran
  cases found with
  | none => cases ran
  | some durable =>
    simp only at ran
    split at ran
    · cases ran
    next same =>
    split at ran
    · next none =>
      obtain ⟨rfl, accounts, round, _⟩ := snapshot_new_eq_ok ran
      exact ⟨located, not_not.mp same, accounts, .inl ⟨round, firstBy_eq_none.mp none⟩⟩
    · next round first =>
      obtain ⟨participants, selected, ran⟩ := of_bind_eq_ok ran
      obtain ⟨rfl, accounts, roundId, rfl⟩ := snapshot_new_eq_ok ran
      exact ⟨located, not_not.mp same, accounts,
        .inr ⟨round, mem_of_firstBy first, roundId, accounts ▸ selected⟩⟩

theorem Current.standing (current : Current tables snapshot) : Standing tables snapshot.room := by
  obtain ⟨room, ran⟩ := current
  exact (standing_of_getRoom (loadSnapshot_eq_ok ran).1).1

theorem loaded_eq_ok (ran : loaded tables found = .ok (some snapshot)) :
    ∃ room, found = .ok (some room) ∧ tables.loadSnapshot room = .ok snapshot := by
  obtain ⟨room, located, ran⟩ := of_bind_eq_ok ran
  cases room with
  | none => cases ran
  | some room =>
    obtain ⟨_, built, ran⟩ := of_bind_eq_ok ran
    cases ran
    exact ⟨room, located, built⟩

theorem loaded_eq_none (ran : loaded tables found = .ok none) : found = .ok none := by
  obtain ⟨room, located, ran⟩ := of_bind_eq_ok ran
  cases room with
  | none => exact located
  | some room =>
    obtain ⟨_, _, ran⟩ := of_bind_eq_ok ran
    cases ran

theorem commit_eq_ok (ran : commit tables policies moment command = .ok (committed, after)) :
    transact policies tables tables moment command = .ok (committed.room, after) ∧
      loaded after (.ok committed.room) = .ok committed.snapshot ∧
      committed.replayed = answeredBefore tables command ∧ committed.locked = lockedFor tables command ∧
      committed.roundId = committed.room.bind fun record => after.activeRoundId record.sessionId := by
  obtain ⟨⟨room, _⟩, transacted, ran⟩ := of_bind_eq_ok ran
  obtain ⟨snapshot, loads, ran⟩ := of_bind_eq_ok ran
  cases ran
  exact ⟨transacted, loads, rfl, rfl, rfl⟩

/-- What a host command, or the end of a round, has done that is no repeated one. -/
theorem commit_record {record : RoomRecord} (hosted : command.hosted = some (room, commandId))
    (unanswered : tables.findCommandRoom commandId = .ok none)
    (ran : commit tables policies moment command = .ok (committed, after))
    (answered : committed.room = some record) :
    Change tables tables command after ∧ Serves tables tables room commandId command.settle after record := by
  have transacted := (commit_eq_ok ran).1
  obtain ⟨_, same, serves⟩ := transact_serves hosted unanswered transacted
  cases answered.symm.trans same
  exact ⟨transact_change transacted, serves⟩

end

section

variable (service : MultiplayerService Blob) (permitted : World Blob → Call → Prop)

/-- A projection that has seen everything a snapshot shows. -/
structure InStep (snapshot : DurableRoomSnapshot) (state : RoomState) : Prop where
  session : state.room.sessionId = snapshot.room.sessionId
  version : state.room.version = snapshot.room.version
  round : state.roundId = snapshot.roundId
  accounts : ∀ account ∈ accountsOf state.slots, account ∈ snapshot.activeAccountIds

/-- What a request reads of a room: its projection, which is in step with the tables, or
a state that is rebuilt from the tables because a repair was refused or nothing could be
created. -/
inductive Shown (world : World Blob) (room : Nat) (state : RoomState) : Prop where
  | projected {snapshot : DurableRoomSnapshot} (current : Current world.tables snapshot)
      (keyed : snapshot.room.publicId = room) (holds : Holds service.repo room world.store state)
      (inStep : InStep snapshot state)
  | recovered {snapshot : DurableRoomSnapshot} {now : Int} {rebuilt : RoomState}
      (current : Current world.tables snapshot) (keyed : snapshot.room.publicId = room)
      (built : stateFromSnapshot now service.stateLifetime (some snapshot) = .ok rebuilt)
      (degraded : state = rebuilt.withStatus .durableRecovery)
      (cause : world.store.rooms room = none ∨ ∃ before stale updated, Same before.store world.store ∧
        before.tables = world.tables ∧ Holds service.repo room world.store stale ∧
        permitted before (.repair updated stale))

/-- The settings of a new room are normalized ones, the participants of a round that
starts are those whom the request has read, and new settings go with those that it has
read. -/
def Sends (world : World Blob) : Durable.Command → Prop
  | .create request => ∃ requested, normalizedSettings service.normalizeMods requested = .ok request.settings
  | .startRound _ _ publicId _ _ participants =>
    ∃ state, Shown service permitted world publicId state ∧ selections state = .ok participants ∧
      participants ≠ []
  | .updateSettings _ _ publicId _ settings => ∃ state requested slots,
    Shown service permitted world publicId state ∧
    settingsTransition service.normalizeMods state requested = .ok (settings, slots)
  | _ => True

/-- What a request has checked of a room before it edits a slot. -/
def Asked (state : RoomState) : Mutation → Prop
  | .lockSlot actor _ => state.room.hostAccountId = actor
  | .setSlotStatus account _ => state.inProgress = true → account ∈ state.roundParticipantAccountIds
  | .setSlotMods _ mods => state.room.settings.freeMods = true ∧ state.inProgress = false ∧
    mods.any isSpeedMod = false ∧
    ∃ requested, service.normalizeMods state.room.settings.ruleset state.room.settings.variant
    requested = .ok mods
  | _ => True

/-- The next state that goes with a committed command, from the one that was read and the
round that is in progress now. -/
inductive Transit (state : RoomState) (record : RoomRecord) (active : Option Uuid) :
    Durable.Command → RoomState → Prop where
  | settings {requested settings : RoomSettings} {slots : List RoomSlot} {expiresAt : Datetime}
      (checked : settingsTransition service.normalizeMods state requested = .ok (settings, slots))
      (built : settingsUpdated state record expiresAt slots = .ok next) :
      Transit state record active (.updateSettings commandId actor publicId version settings) next
  | host (built : recordChanged state record = .ok next) :
      Transit state record active (.changeHost commandId actor publicId version target) next
  | password (built : recordChanged state record = .ok next) :
      Transit state record active (.changePassword commandId actor publicId version salt verifier) next
  | started (idle : state.inProgress = false) (selected : selections state = .ok participants)
      (built : roundStarted state record active participants = .ok next) :
      Transit state record active (.startRound commandId actor publicId version roundId participants) next
  | completed (built : roundCompleted state record = .ok next) :
      Transit state record active (.completeRound commandId actor publicId version state.roundId aborted) next

/-- One step of a request whose calls are all permitted. -/
inductive Move : World Blob → World Blob → Prop where
  | quiet {world after : World Blob} (tables : after.tables = world.tables)
      (same : Same world.store after.store) :
      Move world after
  | fades {world after : World Blob} {call : Call} {room : Nat} (allowed : permitted world call)
      (tables : after.tables = world.tables) (fades : Fades service.repo room world.store after.store) :
      Move world after
  | drops {world after : World Blob} {room : Nat} (tables : after.tables = world.tables)
      (gone : world.tables.getRoom room = .ok none)
      (puts : Puts service.repo world.store after.store room none) :
      Move world after
  | commits {world after : World Blob} {moment : Moment} {command : Durable.Command} {committed : Committed}
      (allowed : permitted world (.commit moment command)) (sends : Sends service permitted world command)
      (ran : commit world.tables service.policies moment command = .ok (committed, after.tables))
      (store : after.store = world.store) : Move world after
  | creates {world after : World Blob} {snapshot : DurableRoomSnapshot} {now : Int}
      {rebuilt bounded : RoomState} {expiresAt : Datetime} (tables : after.tables = world.tables)
      (current : Current world.tables snapshot)
      (vacant : world.store.rooms snapshot.room.publicId = none)
      (built : stateFromSnapshot now service.stateLifetime (some snapshot) = .ok rebuilt)
      (bounds : rebuilt.replaced (publicRoom rebuilt.room) rebuilt.stateRevision rebuilt.slots
        expiresAt = .ok bounded)
      (puts : Puts service.repo world.store after.store snapshot.room.publicId (some bounded.sanitized)) :
      Move world after
  | repairs {world after : World Blob} {snapshot : DurableRoomSnapshot} {now : Int}
      {stale updated : RoomState} (allowed : permitted world (.repair updated stale))
      (tables : after.tables = world.tables) (current : Current world.tables snapshot)
      (holds : Holds service.repo snapshot.room.publicId world.store stale)
      (reconciled : reconcile now service.stateLifetime stale snapshot = .ok (.updated updated))
      (puts : Puts service.repo world.store after.store snapshot.room.publicId (some updated.sanitized)) :
      Move world after
  | edits {world after : World Blob} {task : Repository.Task} {mutation : Mutation} {room : Nat} {now : Int}
      {state updated : RoomState} (allowed : permitted world (.state task))
      (edits : task.mutation = some mutation) (target : task.target = some room)
      (brings : ∀ record, mutation.record = some record → world.tables.getRoom room = .ok (some record))
      (tables : after.tables = world.tables) (holds : Holds service.repo room world.store state)
      (asked : Asked service state mutation) (built : mutation.apply service.repo.ttl now state = .ok updated)
      (puts : Puts service.repo world.store after.store room (some updated.sanitized)) : Move world after
  | replaces {world after : World Blob} {moment : Moment} {command : Durable.Command} {committed : Committed}
      {room : Nat} {commandId : Uuid} {state stored next : RoomState} {record : RoomRecord}
      (allowed : permitted world (.commit moment command)) (sends : Sends service permitted world command)
      (ran : commit world.tables service.policies moment command = .ok (committed, after.tables))
      (hosted : command.hosted = some (room, commandId))
      (unanswered : world.tables.findCommandRoom commandId = .ok none)
      (answered : committed.room = some record) (shown : Shown service permitted world room state)
      (holds : Holds service.repo room world.store stored)
      (revision : stored.stateRevision = state.stateRevision)
      (session : stored.room.sessionId = state.room.sessionId)
      (transit : Transit service state record committed.roundId command next)
      (puts : Puts service.repo world.store after.store room (some next.sanitized)) : Move world after

abbrev Moves : World Blob → World Blob → Prop := Relation.ReflTransGen (Move service permitted)

/-- What holds of a world between two steps: states are stored as the repository stores
them, and the tables are sound. -/
structure Kept (world : World Blob) : Prop where
  stored : ∀ room, Stored service.repo room world.store
  sound : Sound world.tables

end

section

variable {service : MultiplayerService Blob} {permitted looser : World Blob → Call → Prop}
  {world after : World Blob}

section

variable (weaker : ∀ world call, permitted world call → looser world call)
include weaker

theorem Shown.mono (shown : Shown service permitted world room state) :
    Shown service looser world room state := by
  cases shown with
  | projected current keyed holds inStep => exact .projected current keyed holds inStep
  | recovered current keyed built degraded cause =>
    refine .recovered current keyed built degraded (cause.imp_right ?_)
    rintro ⟨before, stale, updated, same, tables, holds, allowed⟩
    exact ⟨before, stale, updated, same, tables, holds, weaker _ _ allowed⟩

theorem Sends.mono (sends : Sends service permitted world command) : Sends service looser world command := by
  cases command with
  | create => exact sends
  | startRound =>
    obtain ⟨state, shown, selected⟩ := sends
    exact ⟨state, shown.mono weaker, selected⟩
  | updateSettings =>
    obtain ⟨state, requested, slots, shown, checked⟩ := sends
    exact ⟨state, requested, slots, shown.mono weaker, checked⟩
  | _ => trivial

theorem Move.mono (move : Move service permitted world after) : Move service looser world after := by
  cases move with
  | quiet tables same => exact .quiet tables same
  | fades allowed tables fades => exact .fades (weaker _ _ allowed) tables fades
  | drops tables gone puts => exact .drops tables gone puts
  | commits allowed sends ran store => exact .commits (weaker _ _ allowed) (sends.mono weaker) ran store
  | creates tables current vacant built bounds puts => exact .creates tables current vacant built bounds puts
  | repairs allowed tables current holds reconciled puts =>
    exact .repairs (weaker _ _ allowed) tables current holds reconciled puts
  | edits allowed edits target brings tables holds asked built puts =>
    exact .edits (weaker _ _ allowed) edits target brings tables holds asked built puts
  | replaces allowed sends ran hosted unanswered answered shown holds revision session transit puts =>
    exact .replaces (weaker _ _ allowed) (sends.mono weaker) ran hosted unanswered answered
      (shown.mono weaker) holds revision session transit puts

theorem Moves.mono (moves : Moves service permitted world after) : Moves service looser world after := by
  induction moves with
  | refl => exact .refl
  | tail _ move ih => exact ih.tail (move.mono weaker)

end

end

section

variable {service : MultiplayerService Blob} {permitted : World Blob → Call → Prop}
variable {world after : World Blob}

theorem Move.kept (move : Move service permitted world after) (kept : Kept service world) :
    Kept service after := by
  cases move with
  | quiet tables same => exact ⟨fun room =>
      (kept.stored room).of_rooms_eq (congrFun same.rooms room), tables ▸ kept.sound⟩
  | fades _ tables fades => exact ⟨fades.puts.stored kept.stored, tables ▸ kept.sound⟩
  | drops tables _ puts => exact ⟨puts.stored kept.stored, tables ▸ kept.sound⟩
  | commits _ _ ran store =>
    exact ⟨store ▸ kept.stored, kept.sound.change (transact_change (commit_eq_ok ran).1)⟩
  | creates tables _ _ _ _ puts => exact ⟨puts.stored kept.stored, tables ▸ kept.sound⟩
  | repairs _ tables _ _ _ puts => exact ⟨puts.stored kept.stored, tables ▸ kept.sound⟩
  | edits _ _ _ _ tables _ _ _ puts => exact ⟨puts.stored kept.stored, tables ▸ kept.sound⟩
  | replaces _ _ ran _ _ _ _ _ _ _ _ puts =>
    exact ⟨puts.stored kept.stored, kept.sound.change (transact_change (commit_eq_ok ran).1)⟩

theorem Move.clock (move : Move service permitted world after) : after.store.clock = world.store.clock := by
  cases move with
  | quiet _ same => exact same.clock
  | fades _ _ fades => exact fades.puts.clock
  | drops _ _ puts => exact puts.clock
  | commits _ _ _ store => rw [store]
  | creates _ _ _ _ _ puts => exact puts.clock
  | repairs _ _ _ _ _ puts => exact puts.clock
  | edits _ _ _ _ _ _ _ _ puts => exact puts.clock
  | replaces _ _ _ _ _ _ _ _ _ _ _ puts => exact puts.clock

theorem Moves.kept (moves : Moves service permitted world after) (kept : Kept service world) :
    Kept service after := by
  induction moves with
  | refl => exact kept
  | tail _ move ih => exact move.kept ih

theorem Moves.clock (moves : Moves service permitted world after) :
    after.store.clock = world.store.clock := by
  induction moves with
  | refl => rfl
  | tail _ move ih => exact move.clock.trans ih

end

end Perfcho.Service
