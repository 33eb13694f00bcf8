import Perfcho.Multiplayer.MutationInvariant
import Perfcho.Multiplayer.Reconcile

/-! Where the slots of a repaired room come from: a repair keeps slots, seats accounts
that have none, and leaves the other slots open. -/

namespace Perfcho.Multiplayer

open Foundation Scoring

theorem RoomSlot.new_eq_ok {position team : Nat} {status : SlotStatus} {accountId : Option Nat}
    {mods : List CanonicalMod} {loaded skipped failed : Bool}
    (built : RoomSlot.new position status accountId team mods loaded skipped failed = .ok slot) :
    slot.position = position ∧ slot.status = status ∧ slot.accountId = accountId ∧
      slot.team = team ∧ slot.mods = mods := by
  unfold RoomSlot.new at built
  iterate 4
    split at built
    case isFalse => cases built
  cases built
  exact ⟨rfl, rfl, rfl, rfl, rfl⟩

theorem RoomSlot.vacant_of_free {slot : RoomSlot} (free : slot.status.occupied = false) :
    slot.accountId = none := by
  rw [slot.coherent] at free
  exact Option.isNone_iff_eq_none.mp (Option.isSome_eq_false_iff.mp free)

theorem RoomSlot.vacant_of_locked {slot : RoomSlot} (locked : slot.status = .locked) :
    slot.accountId = none :=
  RoomSlot.vacant_of_free (by rw [locked]; rfl)

theorem RoomSlot.vacant_of_open {slot : RoomSlot} (opened : slot.status = .open) : slot.accountId = none :=
  RoomSlot.vacant_of_free (by rw [opened]; rfl)

/-- A slot of a repaired room. -/
inductive Laid (room : RoomRecord) (status : SlotStatus) (base : List RoomSlot)
    (placed accounts : List Nat) (slot : RoomSlot) : Prop where
  | kept (member : slot ∈ base)
  | seat {account : Nat} (named : slot.accountId = some account) (present : account ∈ accounts)
      (missing : account ∉ placed) (status : slot.status = status) (team : slot.team = defaultTeam room)
      (bare : slot.mods = [])
  | vacant (status : slot.status = .open) (bare : slot.mods = [])

theorem seatMissing_laid (ran : seatMissing room status placed available accounts occupied = .ok seated)
    (member : slot ∈ seated) : slot ∈ occupied ∨ Laid room status [] placed accounts slot := by
  induction accounts generalizing available occupied with
  | nil =>
    cases ran
    exact .inl member
  | cons account rest ih =>
    have weaken : Laid room status [] placed rest slot →
      Laid room status [] placed (account :: rest) slot := by
      intro laid
      cases laid with
      | kept member => cases member
      | seat named present missing status team bare =>
        exact .seat named (List.mem_cons_of_mem _ present) missing status team bare
      | vacant status bare => exact .vacant status bare
    unfold seatMissing at ran
    split at ran
    · exact (ih ran).imp_right weaken
    next missing =>
    split at ran
    · cases ran
    obtain ⟨added, built, ran⟩ := of_bind_eq_ok ran
    rcases ih ran with old | laid
    · rcases of_mem_concat old with old | new
      · exact .inl old
      · cases new
        obtain ⟨_, status, named, team, bare⟩ := RoomSlot.new_eq_ok built
        exact .inr (.seat named List.mem_cons_self missing status team bare)
    · exact .inr (weaken laid)

theorem fillSlots_laid (ran : fillSlots capacity occupied = .ok slots) (member : slot ∈ slots) :
    slot ∈ occupied ∨ slot.status = .open ∧ slot.mods = [] := by
  obtain ⟨position, _, chosen⟩ := exists_of_related (mapM_eq_ok ran) member
  obtain ⟨vacant, built, chosen⟩ := of_bind_eq_ok chosen
  cases chosen
  cases found : Seating.seatAt (·.position) occupied position with
  | none =>
    obtain ⟨_, status, _, _, bare⟩ := RoomSlot.new_eq_ok built
    exact .inr ⟨status, bare⟩
  | some slot => exact .inl (Seating.position_of_seatAt found).1

theorem repair_laid (seats : seatMissing room status placed available accounts base = .ok occupied)
    (fills : fillSlots capacity occupied = .ok slots) (member : slot ∈ slots) :
    Laid room status base placed accounts slot := by
  rcases fillSlots_laid fills member with there | ⟨vacant, bare⟩
  · rcases seatMissing_laid seats there with kept | laid
    · exact .kept kept
    · cases laid with
      | kept member => cases member
      | seat named present missing status team bare => exact .seat named present missing status team bare
      | vacant status bare => exact .vacant status bare
  · exact .vacant vacant bare

theorem Laid.of_named (laid : Laid room status base placed accounts slot)
    (named : slot.accountId = some account) : slot ∈ base ∨ account ∈ accounts ∧ account ∉ placed := by
  cases laid with
  | kept member => exact .inl member
  | seat named' present missing =>
    cases named.symm.trans named'
    exact .inr ⟨present, missing⟩
  | vacant status => cases named.symm.trans (RoomSlot.vacant_of_open status)

/-- The facts of a state that is built from a snapshot alone. -/
structure Rebuilt (snapshot : DurableRoomSnapshot) (state : RoomState) : Prop where
  room : state.room = snapshot.room
  revision : state.stateRevision = snapshot.room.version
  progress : state.inProgress = snapshot.roundId.isSome
  round : state.roundId = snapshot.roundId
  frozen : state.roundParticipantAccountIds = snapshot.roundParticipants.map (·.accountId)
  laid : ∃ playing, List.Forall₂ (fun participant slot =>
      participantSlot snapshot.room participant = .ok slot) snapshot.roundParticipants playing ∧
    ∀ slot ∈ state.slots, Laid snapshot.room (if snapshot.roundId.isSome then .noBeatmap else
      .notReady) playing (snapshot.roundParticipants.map (·.accountId)) snapshot.activeAccountIds slot

theorem stateFromSnapshot_eq_ok
    (ran : stateFromSnapshot now stateLifetime (some snapshot) degraded = .ok state) :
    Rebuilt snapshot state := by
  unfold stateFromSnapshot at ran
  dsimp only at ran
  split at ran
  · cases ran
  · obtain ⟨playing, played, occupied, seats, ran⟩ := of_bind_bind_eq_ok ran
    obtain ⟨slots, fills, built⟩ := of_bind_eq_ok ran
    obtain ⟨room, revision, same, progress, _, round, frozen, _⟩ := RoomState.new_eq_ok built
    exact ⟨room, revision, progress, round, frozen, playing, mapM_eq_ok played,
      fun slot member => repair_laid seats fills (same ▸ member)⟩

theorem Rebuilt.accounts (rebuilt : Rebuilt snapshot state)
    (seated : account ∈ accountsOf state.slots) : account ∈ snapshot.activeAccountIds := by
  obtain ⟨slot, member, named⟩ := List.mem_filterMap.mp seated
  obtain ⟨playing, played, laid⟩ := rebuilt.laid
  rcases (laid slot member).of_named named with inside | ⟨present, _⟩
  · obtain ⟨participant, selected, built⟩ := exists_of_related played inside
    cases named.symm.trans (RoomSlot.new_eq_ok built).2.2.1
    exact snapshot.present participant selected
  · exact present

theorem Rebuilt.seats_frozen (rebuilt : Rebuilt snapshot state)
    (accounts : (snapshot.roundParticipants.map (·.accountId)).Nodup)
    (frozen : participant ∈ snapshot.roundParticipants) (member : slot ∈ state.slots)
    (named : slot.accountId = some participant.accountId) :
    participantSlot snapshot.room participant = .ok slot := by
  obtain ⟨playing, played, laid⟩ := rebuilt.laid
  rcases (laid slot member).of_named named with inside | ⟨_, missing⟩
  · obtain ⟨other, selected, built⟩ := exists_of_related played inside
    have same := named.symm.trans (RoomSlot.new_eq_ok built).2.2.1
    cases List.inj_on_of_nodup_map accounts frozen selected (Option.some.inj same)
    exact built
  · exact absurd (List.mem_map.mpr ⟨participant, frozen, rfl⟩) missing

/-- The facts of a state that keeps the slots of another one. -/
structure Retained (state : RoomState) (snapshot : DurableRoomSnapshot) (updated : RoomState) : Prop where
  room : updated.room = snapshot.room
  revision : updated.stateRevision = state.stateRevision + 1
  progress : updated.inProgress = state.inProgress
  round : updated.roundId = state.roundId
  frozen : updated.roundParticipantAccountIds = state.roundParticipantAccountIds
  laid : ∀ slot ∈ updated.slots, Laid snapshot.room .notReady (retainedSlots state snapshot)
    (accountsOf (retainedSlots state snapshot)) snapshot.activeAccountIds slot

theorem retainSlots_eq_ok (ran : retainSlots state snapshot = .ok updated) :
    Retained state snapshot updated := by
  obtain ⟨occupied, seats, slots, fills, built⟩ := of_bind_bind_eq_ok ran
  obtain ⟨room, revision, same, progress, _, round, frozen, _⟩ := RoomState.new_eq_ok built
  exact ⟨room, revision, progress, round, frozen, fun slot member => repair_laid seats fills (same ▸ member)⟩

theorem Retained.accounts (retained : Retained state snapshot updated)
    (seated : account ∈ accountsOf updated.slots) : account ∈ snapshot.activeAccountIds := by
  obtain ⟨slot, member, named⟩ := List.mem_filterMap.mp seated
  rcases (retained.laid slot member).of_named named with inside | ⟨present, _⟩
  · simpa [named] using (List.mem_filter.mp inside).2
  · exact present

/-- What a repair stores in the place of a state: the state with its slots kept, when
its session and its round are still the ones in the tables, or a rebuilt one. -/
theorem reconcile_updated (ran : reconcile now stateLifetime state snapshot = .ok (.updated updated)) :
    state.room.sessionId = snapshot.room.sessionId ∧ state.roundId = snapshot.roundId ∧
    Retained state snapshot updated ∨ ¬ (state.room.roomId = snapshot.room.roomId ∧
        state.room.sessionId = snapshot.room.sessionId ∧ state.roundId = snapshot.roundId) ∧
      ∃ rebuilt, Rebuilt snapshot rebuilt ∧
        updated = rebuilt.withRevision (max (state.stateRevision + 1) snapshot.room.version) := by
  unfold reconcile at ran
  dsimp only at ran
  split at ran
  · cases ran
  split at ran
  · next same =>
    obtain ⟨kept, retains, ran⟩ := of_bind_eq_ok ran
    cases ran
    exact .inl ⟨same.1.2, same.2, retainSlots_eq_ok retains⟩
  · next different =>
    obtain ⟨rebuilt, rebuilds, ran⟩ := of_bind_eq_ok ran
    cases ran
    exact .inr ⟨fun same => different ⟨⟨same.1, same.2.1⟩, same.2.2⟩, rebuilt,
      stateFromSnapshot_eq_ok rebuilds, rfl⟩

theorem reconcile_current (ran : reconcile now stateLifetime state snapshot = .ok (.current unchanged)) :
    unchanged = state.withStatus .live ∧ state.room.sessionId = snapshot.room.sessionId ∧
      state.room.version = snapshot.room.version ∧ state.roundId = snapshot.roundId ∧
      ∀ account ∈ accountsOf state.slots, account ∈ snapshot.activeAccountIds := by
  unfold reconcile at ran
  dsimp only at ran
  split at ran
  · next same =>
    cases ran
    exact ⟨rfl, same.1.2, same.2.1, same.2.2.2, fun _ seated => same.2.2.1.1 seated⟩
  split at ran
  · obtain ⟨_, _, ran⟩ := of_bind_eq_ok ran
    cases ran
  · obtain ⟨_, _, ran⟩ := of_bind_eq_ok ran
    cases ran

end Perfcho.Multiplayer
