import Perfcho.Multiplayer.ReconcileInvariant
import Perfcho.Multiplayer.SlotFlow

/-! Who plays. The participants of a round have to sit in every state of it, so a state
that is built from another one keeps the slots in which they play. -/

namespace Perfcho.Multiplayer

open Foundation RoomSlot List

/-- The statuses of somebody who takes part in a round. -/
def SlotStatus.busy : SlotStatus → Bool
  | .playing | .complete => true
  | _ => false

/-- An account plays in a state. -/
def Playing (state : RoomState) (account : Nat) : Prop :=
  ∃ slot ∈ state.slots, slot.accountId = some account ∧ slot.status = .playing

/-- Whoever takes part is a participant of the round that is in progress. -/
def Rightful (state : RoomState) : Prop :=
  ∀ slot ∈ state.slots, slot.status.busy = true →
    state.roundId.isSome ∧ ∃ account ∈ state.roundParticipantAccountIds, slot.accountId = some account

/-- Whoever plays while a round is in progress is a participant of it. -/
def Enrolled (state : RoomState) : Prop :=
  state.inProgress = true → ∀ account, Playing state account → account ∈ state.roundParticipantAccountIds

/-- The edits after which an account does not play. -/
def Mutation.Stops (account : Nat) : Mutation → Prop
  | .setSlotStatus other status => other = account ∧ status ≠ .playing
  | .markFailed other => other = account
  | _ => False

variable {state updated : RoomState} {snapshot : DurableRoomSnapshot} {account : Nat} {roundId : Option Uuid}

theorem RoomSlot.not_busy {slot : RoomSlot} (vacant : slot.accountId = none) : slot.status.busy = false := by
  have coherent := slot.coherent
  rw [vacant] at coherent
  cases status : slot.status with
  | «open» | locked => rfl
  | _ => simp [status, SlotStatus.occupied] at coherent

theorem RoomState.seat (state : RoomState) (frozen : account ∈ state.roundParticipantAccountIds) :
    ∃ slot ∈ state.slots, slot.accountId = some account :=
  mem_filterMap.mp (state.seated account frozen)

theorem Playing.status (playing : Playing state account) (member : slot ∈ state.slots)
    (named : slot.accountId = some account) : slot.status = .playing := by
  obtain ⟨other, there, named', status⟩ := playing
  rw [state.seat_unique member named there named', status]

theorem Rightful.frozen (rightful : Rightful state) (playing : Playing state account) :
    state.roundId.isSome ∧ account ∈ state.roundParticipantAccountIds := by
  obtain ⟨slot, member, named, status⟩ := playing
  obtain ⟨round, other, frozen, named'⟩ := rightful slot member (by rw [status]; rfl)
  rw [named] at named'
  cases named'
  exact ⟨round, frozen⟩

theorem Playing.edited (playing : Playing state account) (edited : Edited mutation state updated)
    (frozen : account ∈ state.roundParticipantAccountIds) (spares : ¬ mutation.Stops account) :
    Playing updated account := by
  obtain ⟨next, member, named⟩ := updated.seat (edited.frozen ▸ frozen)
  refine ⟨next, member, named, ?_⟩
  cases edited.came next member with
  | kept old => exact playing.status old named
  | vacant empty =>
    rw [named] at empty
    cases empty
  | seated joins unseated named' =>
    rw [named] at named'
    cases named'
    obtain ⟨slot, there, sits, _⟩ := playing
    have absent := find?_eq_none.mp unseated slot there
    exact absurd (decide_eq_true sits) absent
  | @altered slot old same alters =>
    rw [named] at same
    have status := playing.status old same.symm
    cases mutation with
    | setSlotStatus other chosen =>
      obtain ⟨theirs, chose, _⟩ := alters
      rw [← same] at theirs
      cases theirs
      rw [chose]
      exact not_not.mp fun different => spares ⟨rfl, different⟩
    | markFailed other =>
      obtain ⟨theirs, _⟩ := alters
      rw [← same] at theirs
      cases theirs
      exact absurd rfl spares
    | setSlotTeam | setSlotMods | moveSlot | markLoaded | markSkipped => exact alters.2.1.trans status
    | join | leave | lockSlot => exact alters.elim

/-- A repair that keeps slots keeps those in which participants play. -/
theorem Playing.retained (playing : Playing state account) (retained : Retained state snapshot updated)
    (frozen : account ∈ state.roundParticipantAccountIds) : Playing updated account := by
  obtain ⟨next, member, named⟩ := updated.seat (retained.frozen ▸ frozen)
  refine ⟨next, member, named, ?_⟩
  rcases (retained.laid next member).of_named named with old | ⟨present, missing⟩
  · exact playing.status (mem_filter.mp old).1 named
  · obtain ⟨slot, there, sits, _⟩ := playing
    exact absurd (mem_filterMap.mpr ⟨slot, mem_retainedSlots.mpr ⟨there, account, present, sits⟩,
      sits⟩) missing

/-- Every participant plays in a state that is rebuilt. -/
theorem Rebuilt.playing (rebuilt : Rebuilt snapshot state)
    (frozen : account ∈ state.roundParticipantAccountIds) : Playing state account := by
  obtain ⟨slot, member, named⟩ := state.seat frozen
  refine ⟨slot, member, named, ?_⟩
  obtain ⟨playing, played, laid⟩ := rebuilt.laid
  rcases (laid slot member).of_named named with old | ⟨_, missing⟩
  · obtain ⟨_, _, built⟩ := exists_of_related played old
    exact (new_eq_ok built).2.1
  · exact absurd (rebuilt.frozen ▸ frozen) missing

theorem roundStarted_playing
    (selected : selections state = .ok participants)
    (built : roundStarted state record roundId participants = .ok updated)
    (frozen : account ∈ updated.roundParticipantAccountIds) : Playing updated account := by
  obtain ⟨_, _, same, turned⟩ := roundStarted_eq_ok built
  rw [same] at frozen
  obtain ⟨participant, chosen, rfl⟩ := mem_map.mp frozen
  obtain ⟨old, there, plays, named, _⟩ := mem_selections selected chosen
  obtain ⟨next, member, named'⟩ := updated.seat (same ▸ mem_map.mpr ⟨participant, chosen, rfl⟩)
  refine ⟨next, member, named', ?_⟩
  rcases turned.came next member with ⟨vacant, _⟩ | ⟨slot, before, _, account, _, _, turns⟩
  · rw [named'] at vacant
    cases vacant
  rw [named'] at account
  obtain rfl := state.seat_unique before account.symm there named
  rcases turns with ⟨_, status⟩ | ⟨away, _⟩
  · exact status
  · rw [plays] at away
    cases away

theorem Rightful.edited (rightful : Rightful state) (edited : Edited mutation state updated)
    (takesPart : ∀ account status, mutation = .setSlotStatus account status → status.busy = true →
      state.roundId.isSome ∧ account ∈ state.roundParticipantAccountIds) : Rightful updated := by
  intro next member busy
  rw [edited.round, edited.frozen]
  cases edited.came next member with
  | kept old => exact rightful next old busy
  | vacant empty =>
    rw [not_busy empty] at busy
    cases busy
  | seated _ _ _ status =>
    rw [status] at busy
    cases busy
  | altered old same alters =>
    rw [same]
    cases mutation with
    | setSlotStatus account status =>
      obtain ⟨named, chose, _⟩ := alters
      obtain ⟨round, frozen⟩ := takesPart account status rfl (chose ▸ busy)
      exact ⟨round, account, frozen, named⟩
    | markFailed account =>
      obtain ⟨_, status, _⟩ := alters
      exact rightful _ old (by rw [status]; rfl)
    | setSlotTeam | setSlotMods | moveSlot | markLoaded | markSkipped =>
      exact rightful _ old (alters.2.1 ▸ busy)
    | join | leave | lockSlot => exact alters.elim

theorem Rightful.retained (rightful : Rightful state) (retained : Retained state snapshot updated) :
    Rightful updated := by
  intro next member busy
  rw [retained.round, retained.frozen]
  cases retained.laid next member with
  | kept old => exact rightful next (mem_filter.mp old).1 busy
  | seat _ _ _ status | vacant status =>
    rw [status] at busy
    cases busy

theorem Rebuilt.rightful (rebuilt : Rebuilt snapshot state) : Rightful state := by
  intro slot member busy
  obtain ⟨playing, played, laid⟩ := rebuilt.laid
  rw [rebuilt.round, rebuilt.frozen]
  cases laid slot member with
  | kept old =>
    obtain ⟨participant, chosen, built⟩ := exists_of_related played old
    refine ⟨?_, participant.accountId, mem_map.mpr ⟨participant, chosen, rfl⟩, (new_eq_ok built).2.2.1⟩
    rw [Option.isSome_iff_ne_none]
    intro none
    rw [snapshot.identified none] at chosen
    cases chosen
  | seat _ _ _ status =>
    rw [status] at busy
    split at busy <;> cases busy
  | vacant status =>
    rw [status] at busy
    cases busy

theorem Rightful.idle (rightful : Rightful state) (idle : state.inProgress = false)
    (member : slot ∈ state.slots) : slot.status.busy = false := by
  cases busy : slot.status.busy with
  | false => rfl
  | true =>
    have round := (rightful slot member busy).1
    rw [← state.progress, idle] at round
    cases round

theorem Rightful.started
    (rightful : Rightful state) (idle : state.inProgress = false)
    (selected : selections state = .ok participants)
    (built : roundStarted state record roundId participants = .ok updated) : Rightful updated := by
  obtain ⟨_, ⟨round, active⟩, frozen, turned⟩ := roundStarted_eq_ok built
  intro next member busy
  rw [round, frozen]
  rcases turned.came next member with ⟨vacant, _⟩ | ⟨slot, before, occupied, same, _, _,
    ⟨plays, _⟩ | ⟨_, rfl⟩⟩
  · rw [not_busy vacant] at busy
    cases busy
  · obtain ⟨account, named⟩ := Option.isSome_iff_exists.mp occupied
    obtain ⟨participant, chosen, made⟩ :=
      exists_related (mapM_eq_ok selected) (mem_filter.mpr ⟨before, plays⟩)
    refine ⟨active, account, mem_map.mpr ⟨participant, chosen, ?_⟩, same.trans named⟩
    rw [(selection_eq_ok made).1, named, Option.getD_some]
  · rw [rightful.idle idle before] at busy
    cases busy

theorem Rightful.completed (rightful : Rightful state)
    (built : roundCompleted state record = .ok updated) : Rightful updated := by
  obtain ⟨_, _, _, turned⟩ := roundCompleted_eq_ok built
  intro next member busy
  rcases turned.came next member with ⟨vacant, _⟩ | ⟨slot, before, _, _, _, _, status | ⟨rfl, away⟩⟩
  · rw [not_busy vacant] at busy
    cases busy
  · rw [status] at busy
    cases busy
  · obtain ⟨_, account, frozen, named⟩ := rightful next before busy
    exact absurd frozen (away account named)

theorem settingsUpdated_rightful {expiresAt : Datetime}
    (built : settingsUpdated state record expiresAt slots = .ok updated) : Rightful updated := by
  obtain ⟨_, _, _, turned⟩ := settingsUpdated_eq_ok built
  intro next member busy
  rcases turned.came next member with ⟨vacant, _⟩ | ⟨_, _, _, _, status, _⟩
  · rw [not_busy vacant] at busy
    cases busy
  · rw [status] at busy
    cases busy

theorem inProgress_of_round (same : updated.roundId = state.roundId)
    (progress : updated.inProgress = true) : state.inProgress = true := by
  rw [state.progress, ← same, ← updated.progress, progress]

theorem Enrolled.edited (enrolled : Enrolled state) (edited : Edited mutation state updated)
    (asked : ∀ account status, mutation = .setSlotStatus account status → state.inProgress = true →
      account ∈ state.roundParticipantAccountIds) : Enrolled updated := by
  rintro progress account ⟨next, member, named, status⟩
  have before := inProgress_of_round edited.round progress
  rw [edited.frozen]
  cases edited.came next member with
  | kept old => exact enrolled before account ⟨next, old, named, status⟩
  | vacant empty =>
    rw [named] at empty
    cases empty
  | seated _ _ _ rested =>
    rw [status] at rested
    cases rested
  | @altered slot old same alters =>
    have named' : slot.accountId = some account := same.symm.trans named
    cases mutation with
    | setSlotStatus other chosen =>
      obtain ⟨theirs, _⟩ := alters
      rw [named'] at theirs
      cases theirs
      exact asked account chosen rfl before
    | markFailed other =>
      obtain ⟨_, _, completed, _⟩ := alters
      rw [status] at completed
      cases completed
    | setSlotTeam | setSlotMods | moveSlot | markLoaded | markSkipped =>
      exact enrolled before account ⟨slot, old, named', alters.2.1.symm.trans status⟩
    | join | leave | lockSlot => exact alters.elim

theorem Enrolled.retained (enrolled : Enrolled state) (retained : Retained state snapshot updated) :
    Enrolled updated := by
  rintro progress account ⟨next, member, named, status⟩
  have before := inProgress_of_round retained.round progress
  rw [retained.frozen]
  cases retained.laid next member with
  | kept old => exact enrolled before account ⟨next, (mem_filter.mp old).1, named, status⟩
  | seat _ _ _ rested | vacant rested =>
    rw [status] at rested
    cases rested

theorem Enrolled.started (selected : selections state = .ok participants)
    (built : roundStarted state record roundId participants = .ok updated) : Enrolled updated := by
  obtain ⟨_, _, frozen, turned⟩ := roundStarted_eq_ok built
  rintro _ account ⟨next, member, named, status⟩
  rw [frozen]
  rcases turned.came next member with ⟨vacant, _⟩ | ⟨slot, before, _, same, _, _, ⟨plays, _⟩ | ⟨away, rfl⟩⟩
  · rw [named] at vacant
    cases vacant
  · obtain ⟨participant, chosen, made⟩ :=
      exists_related (mapM_eq_ok selected) (mem_filter.mpr ⟨before, plays⟩)
    refine mem_map.mpr ⟨participant, chosen, ?_⟩
    rw [(selection_eq_ok made).1, ← same, named, Option.getD_some]
  · simp [plays, named, status] at away

theorem Enrolled.idle (idle : state.roundId = none) : Enrolled state := by
  intro progress
  rw [state.progress, idle] at progress
  cases progress

theorem Rightful.enrolled (rightful : Rightful state) : Enrolled state :=
  fun _ _ playing => (rightful.frozen playing).2

theorem RoomState.slots_at (state : RoomState) (member : slot ∈ state.slots) :
    state.slots[slot.position]? = some slot := by
  obtain ⟨position, there⟩ := getElem?_of_mem member
  have entry := congrArg (·[position]?) state.ordered
  simp only [getElem?_map, there, Option.map_some] at entry
  obtain ⟨_, same⟩ := List.getElem?_eq_some_iff.mp entry.symm
  rw [getElem_range] at same
  rw [← same]
  exact there

/-- A snapshot that fits its room is rebuilt: the accounts that are present sit in one
slot each and nobody else does, and the participants of the round sit where they were
frozen. -/
theorem stateFromSnapshot_seats (now stateLifetime : Int) (degraded : Bool)
    (snapshot : DurableRoomSnapshot) (loaded : Loaded snapshot) :
    ∃ state, stateFromSnapshot now stateLifetime (some snapshot) degraded = .ok state ∧
      (∀ account ∈ snapshot.activeAccountIds, ∃! slot, slot ∈ state.slots ∧ slot.accountId = some account) ∧
      (∀ slot ∈ state.slots, ∀ account, slot.accountId = some account →
        account ∈ snapshot.activeAccountIds) ∧ (∀ participant ∈ snapshot.roundParticipants,
        (state.slots[participant.slotPosition]?).bind (·.accountId) = some participant.accountId) ∧
      state.roundId = snapshot.roundId ∧
      state.roundParticipantAccountIds = snapshot.roundParticipants.map (·.accountId) := by
  obtain ⟨state, ran, accounts, _, shown⟩ := stateFromSnapshot_ok now stateLifetime degraded loaded
  have rebuilt := stateFromSnapshot_eq_ok ran
  refine ⟨state, ran, ?_, ?_, ?_, rebuilt.round, rebuilt.frozen⟩
  · intro account present
    obtain ⟨slot, member, named⟩ := mem_filterMap.mp (accounts.mem_iff.mpr present)
    exact ⟨slot, ⟨member, named⟩, fun other ⟨there, same⟩ => state.seat_unique there same member named⟩
  · intro slot member account named
    exact rebuilt.accounts (mem_filterMap.mpr ⟨slot, member, named⟩)
  · intro participant frozen
    obtain ⟨slot, member, position, named⟩ := shown participant frozen
    rw [← position, state.slots_at member]
    exact named

theorem startedSnapshot_seats : ∃ state, stateFromSnapshot 0 60 (some startedSnapshot) true =
    .ok state ∧ (∀ account ∈ [1, 2], ∃! slot, slot ∈ state.slots ∧ slot.accountId = some account) ∧
    (state.slots[0]?).bind (·.accountId) = some 1 ∧ state.roundId = some sampleRound ∧
    state.roundParticipantAccountIds = [1] := by
  obtain ⟨state, ran, seated, _, frozen, identity, participants⟩ := stateFromSnapshot_seats 0 60
    true startedSnapshot ⟨by decide, by decide, by decide, by decide, by decide⟩
  exact ⟨state, ran, seated, frozen _ mem_cons_self, identity, participants⟩

/-- A snapshot that lists one participant twice, at two positions. -/
def doubledSnapshot : DurableRoomSnapshot where
  room := sampleRoom
  activeAccountIds := [1, 2]
  roundId := some sampleRound
  roundParticipants := [⟨1, 0, 0, [], sampleHost, sampleHostSlot, sampleTeam⟩,
    ⟨1, 1, 0, [], sampleHost, sampleGuestSlot, sampleTeam⟩]
  accounts := samplePlayers
  identified := by simp
  present := by decide

/-- Its account would sit in both slots. -/
theorem doubledSnapshot_rejected : doubledSnapshot.room.hostAccountId ∈ doubledSnapshot.activeAccountIds ∧
    doubledSnapshot.activeAccountIds.length ≤ doubledSnapshot.room.capacity ∧
    (doubledSnapshot.roundParticipants.map (·.slotPosition)).Nodup ∧
    (∀ participant ∈ doubledSnapshot.roundParticipants,
      participant.slotPosition < doubledSnapshot.room.capacity) ∧
    stateFromSnapshot 0 60 (some doubledSnapshot) = .error
    (.valueError "an account cannot occupy multiple slots") :=
  ⟨by decide, by decide, by decide, by decide, rfl⟩

end Perfcho.Multiplayer
