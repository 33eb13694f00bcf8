import Perfcho.Foundation.Action
import Perfcho.Multiplayer.Reconcile

/-! What a repair keeps and restores. Both repairs start from slots at distinct
positions, seat the remaining accounts at free positions and lay the slots out
along the capacity, so one statement about that layout serves both. -/

namespace Perfcho.Multiplayer

open Foundation Seating

theorem defaultTeam_le (room : RoomRecord) : defaultTeam room ≤ 2 := by
  unfold defaultTeam
  split <;> omega

theorem seatMissing_ok (occupies : status.occupied = true) (inside : ∀ position ∈ available,
    position < maxRoomCapacity) (positive : ∀ account ∈ accounts, 1 ≤ account)
    (enough : (accounts.filter (· ∉ placed)).length ≤ available.length) :
    ∃ added, seatMissing room status placed available accounts occupied = .ok (occupied ++ added) ∧
      (added.map (·.position)).Sublist available ∧
      added.map (·.accountId) = (accounts.filter (· ∉ placed)).map some := by
  induction accounts generalizing available occupied with
  | nil => exact ⟨[], by simp [seatMissing], by simp, rfl⟩
  | cons account rest ih =>
    have restPositive : ∀ other ∈ rest, 1 ≤ other := fun other member => positive other (by simp [member])
    by_cases here : account ∈ placed
    · simp only [seatMissing, here, ↓reduceIte, not_true_eq_false, decide_false, Bool.false_eq_true,
        not_false_eq_true, List.filter_cons_of_neg] at enough ⊢
      exact ih inside restPositive enough
    · simp only [here, not_false_eq_true, decide_true, List.filter_cons_of_pos, List.length_cons] at enough ⊢
      cases available with
      | nil => simp at enough
      | cons position later =>
        obtain ⟨slot, built, atPosition, seated⟩ : ∃ slot,
          RoomSlot.new position status (some account) (defaultTeam room) = .ok slot ∧
            slot.position = position ∧ slot.accountId = some account :=
          RoomSlot.new_taken (inside position (by simp)) occupies (positive account (by simp))
            (defaultTeam_le room)
        have laterInside : ∀ other ∈ later, other < maxRoomCapacity :=
          fun other member => inside other (by simp [member])
        obtain ⟨added, ran, places, names⟩ :=
          @ih later (occupied ++ [slot]) laterInside restPositive (by simpa using enough)
        refine ⟨slot :: added, ?_, ?_, ?_⟩
        · simp only [seatMissing, here, ↓reduceIte, built, ok_bind, ran, List.append_assoc,
            List.cons_append, List.nil_append]
        · simpa [atPosition] using places
        · simpa [seated] using names

/-- The slot chosen for a position: the occupied one there, or an empty one. -/
structure Chosen (occupied : List RoomSlot) (position : Nat) (slot : RoomSlot) : Prop where
  placed : slot.position = position
  account : slot.accountId = (seatAt (·.position) occupied position).bind (·.accountId)
  same : ∀ other, seatAt (·.position) occupied position = some other → slot = other

theorem slotAt_ok (occupied : List RoomSlot) (inside : position < maxRoomCapacity) :
    ∃ slot, slotAt occupied position = .ok slot ∧ Chosen occupied position slot := by
  obtain ⟨vacant, built, atPosition, empty⟩ := RoomSlot.new_open inside
  refine ⟨(seatAt (·.position) occupied position).getD vacant, by rw [slotAt, built]; rfl, ?_⟩
  cases found : seatAt (·.position) occupied position with
  | none => exact ⟨by simp [atPosition], by simp [found, empty], by simp [found]⟩
  | some slot => exact ⟨(position_of_seatAt found).2, by simp [found], by simp [found]⟩

theorem positions_chosen (chosen : List.Forall₂ (Chosen occupied) positions slots) :
    slots.map (·.position) = positions := by
  have same : positions.map id = slots.map (·.position) :=
    map_eq_of_related (chosen.imp fun _ _ first => first.placed.symm)
  rw [← same, List.map_id]

theorem accountsOf_chosen (chosen : List.Forall₂ (Chosen occupied) positions slots) :
    accountsOf slots = accountsOf (positions.filterMap (seatAt (·.position) occupied)) := by
  induction chosen with
  | nil => rfl
  | @cons position slot positions slots first _ ih =>
    cases found : seatAt (·.position) occupied position with
    | none =>
      have empty : slot.accountId = none := by simp [first.account, found]
      simpa [accountsOf, empty, found] using ih
    | some other =>
      rw [first.same other found, List.filterMap_cons_some found]
      simp only [accountsOf, List.filterMap_cons] at ih ⊢
      rw [ih]

theorem mem_of_chosen (distinct : (occupied.map (·.position)).Nodup) (member : slot ∈ occupied)
    (chosen : List.Forall₂ (Chosen occupied) positions slots) (listed : slot.position ∈ positions) :
    slot ∈ slots := by
  obtain ⟨other, found, here⟩ := exists_related chosen listed
  have seated := (seatAt_eq_some distinct).mpr ⟨member, rfl⟩
  exact here.same slot seated ▸ found

/-- The laid out slots: one for each position, with every occupied slot in its place. -/
structure LaidOut (capacity : Nat) (occupied slots : List RoomSlot) : Prop where
  ordered : slots.map (·.position) = List.range capacity
  accounts : (accountsOf slots).Perm (accountsOf occupied)
  kept : ∀ slot ∈ occupied, slot ∈ slots

/-- Slots at distinct positions below the capacity are laid out without loss. -/
theorem fillSlots_ok (bounded : capacity ≤ maxRoomCapacity) (distinct : (occupied.map (·.position)).Nodup)
    (inside : ∀ slot ∈ occupied, slot.position < capacity) :
    ∃ slots, fillSlots capacity occupied = .ok slots ∧ LaidOut capacity occupied slots := by
  have each : ∀ position ∈ List.range capacity,
    ∃ slot, slotAt occupied position = .ok slot ∧ Chosen occupied position slot := by
    intro position member
    apply slotAt_ok
    exact Nat.lt_of_lt_of_le (List.mem_range.mp member) bounded
  obtain ⟨slots, filled, chosen⟩ := mapM_related each
  refine ⟨slots, filled, positions_chosen chosen, ?_, ?_⟩
  · rw [accountsOf_chosen chosen]
    exact (filterMap_seatAt_perm distinct inside).filterMap _
  · intro slot member
    exact mem_of_chosen distinct member chosen (List.mem_range.mpr (inside slot member))

theorem accountsOf_eq (named : slots.map (·.accountId) = accounts.map some) :
    accountsOf slots = accounts := by
  have same := congrArg (List.filterMap id) named
  simpa [accountsOf, List.filterMap_map] using same

/-- What a repair starts from: slots of some of the accounts at distinct positions. -/
structure Placed (capacity : Nat) (accounts : List Nat) (base : List RoomSlot) (placed : List Nat) :
    Prop where
  distinct : (base.map (·.position)).Nodup
  inside : ∀ slot ∈ base, slot.position < capacity
  named : base.map (·.accountId) = placed.map some
  once : placed.Nodup
  present : placed ⊆ accounts

theorem Placed.accounts_perm (start : Placed capacity accounts base placed)
    (distinct : accounts.Nodup) : (placed ++ accounts.filter (· ∉ placed)).Perm accounts := by
  have apart : (placed ++ accounts.filter (· ∉ placed)).Nodup := by
    apply start.once.append (distinct.filter _)
    intro account here there
    simp [here] at there
  apply (List.perm_ext_iff_of_nodup apart distinct).mpr
  intro account
  simp only [List.mem_append, List.mem_filter, decide_eq_true_eq]
  constructor
  · rintro (here | ⟨member, _⟩)
    · exact start.present here
    · exact member
  · intro member
    by_cases here : account ∈ placed
    · exact .inl here
    · exact .inr ⟨member, here⟩

/-- A repair that has a position for every account seats exactly the accounts and
leaves every slot it started from as it was. -/
theorem Placed.seated (start : Placed room.capacity accounts base placed) (occupies : status.occupied = true)
    (distinct : accounts.Nodup) (positive : ∀ account ∈ accounts, 1 ≤ account)
    (fits : accounts.length ≤ room.capacity) :
    ∃ occupied slots,
      seatMissing room status placed
      (freePlaces (base.map (·.position)) room.capacity) accounts base = .ok occupied ∧
      fillSlots room.capacity occupied = .ok slots ∧ slots.map
      (·.position) = List.range room.capacity ∧ (accountsOf slots).Perm accounts ∧
      ∀ slot ∈ base, slot ∈ slots := by
  have free : ∀ position ∈ freePlaces (base.map (·.position)) room.capacity, position < maxRoomCapacity := by
    intro position member
    exact Nat.lt_of_lt_of_le (mem_freePlaces.mp member).1 room.sized.2
  have enough : (accounts.filter (· ∉ placed)).length ≤
    (freePlaces (base.map (·.position)) room.capacity).length := by
    have room' := count_le_used_add_free (base.map (·.position)) room.capacity
    have all := (start.accounts_perm distinct).length_eq
    have named := congrArg List.length start.named
    simp only [List.length_append, List.length_map] at room' all named
    omega
  obtain ⟨added, ran, places, names⟩ := seatMissing_ok occupies free positive enough
  have apart : ((base ++ added).map (·.position)).Nodup := by
    rw [List.map_append]
    apply start.distinct.append (places.nodup (List.nodup_range.filter _))
    intro position here there
    exact (mem_freePlaces.mp (places.subset there)).2 here
  have inside : ∀ slot ∈ base ++ added, slot.position < room.capacity := by
    intro slot member
    rcases List.mem_append.mp member with here | there
    · exact start.inside slot here
    · exact (mem_freePlaces.mp (places.subset (List.mem_map_of_mem there))).1
  obtain ⟨slots, filled, laid⟩ := fillSlots_ok room.sized.2 apart inside
  refine ⟨base ++ added, slots, ran, filled, laid.ordered, ?_, fun slot member =>
    laid.kept slot (by simp [member])⟩
  have names : accountsOf (base ++ added) = placed ++ accounts.filter (· ∉ placed) := by
    apply accountsOf_eq
    rw [List.map_append, start.named, names, List.map_append]
  exact laid.accounts.trans (names ▸ start.accounts_perm distinct)

/-- What the tables guarantee of a loaded snapshot. The host is present, presences
stay within the capacity, and the rows of a round are frozen from the room's slots
under a key over round and account and a unique index over round and slot. -/
structure Loaded (snapshot : DurableRoomSnapshot) : Prop where
  hosted : snapshot.room.hostAccountId ∈ snapshot.activeAccountIds
  fits : snapshot.activeAccountIds.length ≤ snapshot.room.capacity
  accounts : (snapshot.roundParticipants.map (·.accountId)).Nodup
  positions : (snapshot.roundParticipants.map (·.slotPosition)).Nodup
  inside : ∀ participant ∈ snapshot.roundParticipants, participant.slotPosition < snapshot.room.capacity

/-- A slot that shows a frozen participant where it was frozen. -/
def Shows (participant : RoundParticipantSelection) (slot : RoomSlot) : Prop :=
  slot.position = participant.slotPosition ∧ slot.accountId = some participant.accountId

theorem participantSlot_ok (room : RoomRecord) (participant : RoundParticipantSelection) :
    ∃ slot, participantSlot room participant = .ok slot ∧ Shows participant slot :=
  RoomSlot.new_taken participant.inside rfl participant.positive participant.teamed

theorem playing_placed (loaded : Loaded snapshot)
    (shown : List.Forall₂ Shows snapshot.roundParticipants playing) :
    Placed snapshot.room.capacity snapshot.activeAccountIds playing
    (snapshot.roundParticipants.map (·.accountId)) := by
  have positions : snapshot.roundParticipants.map (·.slotPosition) = playing.map (·.position) :=
    map_eq_of_related (shown.imp fun _ _ shows => shows.1.symm)
  have names : snapshot.roundParticipants.map (some ·.accountId) = playing.map (·.accountId) :=
    map_eq_of_related (shown.imp fun _ _ shows => shows.2.symm)
  constructor
  · exact positions ▸ loaded.positions
  · intro slot member
    have listed : slot.position ∈ snapshot.roundParticipants.map (·.slotPosition) := by
      rw [positions]
      exact List.mem_map_of_mem member
    obtain ⟨participant, frozen, same⟩ := List.mem_map.mp listed
    exact same ▸ loaded.inside participant frozen
  · rw [← names, List.map_map]
    rfl
  · exact loaded.accounts
  · intro account member
    obtain ⟨participant, frozen, same⟩ := List.mem_map.mp member
    exact same ▸ snapshot.present participant frozen

/-- A loaded snapshot always rebuilds a state: its accounts are the active ones and
each frozen participant sits where it was frozen. -/
theorem stateFromSnapshot_ok (now stateLifetime : Int) (degraded : Bool) (loaded : Loaded snapshot) :
    ∃ state, stateFromSnapshot now stateLifetime (some snapshot) degraded = .ok state ∧
      (accountsOf state.slots).Perm snapshot.activeAccountIds ∧ state.roundId = snapshot.roundId ∧
      ∀ participant ∈ snapshot.roundParticipants, ∃ slot ∈ state.slots, Shows participant slot := by
  obtain ⟨playing, built, shown⟩ := mapM_related fun participant
    (_ : participant ∈ snapshot.roundParticipants) => participantSlot_ok snapshot.room participant
  have occupies : (if snapshot.roundId.isSome then SlotStatus.noBeatmap else .notReady).occupied = true := by
    split <;> rfl
  obtain ⟨occupied, slots, ran, filled, ordered, accounts, kept⟩ :=
    (playing_placed loaded shown).seated occupies snapshot.accounts.1 snapshot.accounts.2 loaded.fits
  have present : ∀ account ∈ snapshot.roundParticipants.map (·.accountId),
      account ∈ snapshot.activeAccountIds :=
    fun account member => (playing_placed loaded shown).present member
  have coherent : Coherent snapshot.room slots snapshot.roundId.isSome
      (.aware (now + stateLifetime)) snapshot.roundId (snapshot.roundParticipants.map (·.accountId)) := {
    ordered
    distinct := accounts.nodup_iff.mpr snapshot.accounts.1
    hosted := accounts.mem_iff.mpr loaded.hosted
    participants := ⟨loaded.accounts, fun account member =>
      snapshot.accounts.2 account (present account member)⟩
    progress := rfl
    seated := fun account member => accounts.mem_iff.mpr (present account member)
    timed := rfl }
  refine ⟨coherent.state snapshot.room.version (if degraded then .durableRecovery else .live), ?_,
    accounts, rfl, ?_⟩
  · simp only [stateFromSnapshot, loaded.hosted, not_true_eq_false, ↓reduceIte, built, ok_bind, ran, filled]
    exact RoomState.new_ok coherent
  · intro participant member
    obtain ⟨slot, inside, shows⟩ := exists_related shown member
    exact ⟨slot, kept slot inside, shows⟩

theorem named_of_isSome (occupied : ∀ slot ∈ slots, slot.accountId.isSome = true) :
    slots.map (·.accountId) = (accountsOf slots).map some := by
  induction slots with
  | nil => rfl
  | cons slot rest ih =>
    obtain ⟨account, named⟩ := Option.isSome_iff_exists.mp (occupied slot (by simp))
    have later := ih fun other member => occupied other (by simp [member])
    simp [accountsOf, named, later]

theorem mem_retainedSlots : slot ∈ retainedSlots state snapshot ↔
    slot ∈ state.slots ∧ ∃ account ∈ snapshot.activeAccountIds, slot.accountId = some account := by
  simp only [retainedSlots, List.mem_filter, Option.any_eq_true, decide_eq_true_eq]
  tauto

theorem retained_placed (sameCapacity : state.room.capacity = snapshot.room.capacity) :
    Placed snapshot.room.capacity snapshot.activeAccountIds (retainedSlots state snapshot)
      (accountsOf (retainedSlots state snapshot)) := by
  have part : (retainedSlots state snapshot).Sublist state.slots := List.filter_sublist
  constructor
  · apply (part.map (·.position)).nodup
    rw [state.ordered]
    exact List.nodup_range
  · intro slot member
    have listed : slot.position ∈ state.slots.map (·.position) := List.mem_map_of_mem (part.subset member)
    rw [state.ordered, List.mem_range] at listed
    omega
  · apply named_of_isSome
    intro slot member
    obtain ⟨_, account, _, named⟩ := mem_retainedSlots.mp member
    simp [named]
  · exact (part.filterMap _).nodup state.distinct
  · intro account member
    obtain ⟨slot, kept, named⟩ := List.mem_filterMap.mp member
    obtain ⟨_, other, active, same⟩ := mem_retainedSlots.mp kept
    rw [named] at same
    exact Option.some.inj same ▸ active

/-- The repair always lays out the active accounts; what is left is whether its
fields are coherent. -/
theorem retainSlots_eq (loaded : Loaded snapshot)
    (sameCapacity : state.room.capacity = snapshot.room.capacity) :
    ∃ slots, retainSlots state snapshot = RoomState.new snapshot.room
        (state.stateRevision + 1) slots state.inProgress state.expiresAt state.roundId
      state.roundParticipantAccountIds .live ∧ slots.map (·.position) = List.range snapshot.room.capacity ∧
      (accountsOf slots).Perm snapshot.activeAccountIds ∧ ∀ slot ∈ retainedSlots state snapshot,
      slot ∈ slots := by
  have occupies : SlotStatus.notReady.occupied = true := rfl
  obtain ⟨occupied, slots, ran, filled, laid⟩ := (retained_placed sameCapacity).seated occupies
    snapshot.accounts.1 snapshot.accounts.2 loaded.fits
  refine ⟨slots, ?_, laid⟩
  simp only [retainSlots, ran, filled, ok_bind]

/-- While every round participant is still present, the repair keeps each slot
whose account is and shows exactly the active accounts. -/
theorem retainSlots_ok (loaded : Loaded snapshot)
    (sameCapacity : state.room.capacity = snapshot.room.capacity)
    (stayed : ∀ account ∈ state.roundParticipantAccountIds, account ∈ snapshot.activeAccountIds) :
    ∃ updated, retainSlots state snapshot = .ok updated ∧
      (accountsOf updated.slots).Perm snapshot.activeAccountIds ∧ updated.roundId = state.roundId ∧
      ∀ slot ∈ retainedSlots state snapshot, slot ∈ updated.slots := by
  obtain ⟨slots, ran, ordered, accounts, kept⟩ := retainSlots_eq loaded sameCapacity
  have coherent : Coherent snapshot.room slots state.inProgress state.expiresAt state.roundId
      state.roundParticipantAccountIds := {
    ordered
    distinct := accounts.nodup_iff.mpr snapshot.accounts.1
    hosted := accounts.mem_iff.mpr loaded.hosted
    participants := state.participants
    progress := state.progress
    seated := fun account member => accounts.mem_iff.mpr (stayed account member)
    timed := state.timed }
  exact ⟨coherent.state (state.stateRevision + 1) .live, ran.trans (RoomState.new_ok coherent),
    accounts, rfl, kept⟩

/-- The same room in the same hosting session. A room's capacity never changes. -/
structure SameSession (state : RoomState) (snapshot : DurableRoomSnapshot) : Prop where
  room : state.room.roomId = snapshot.room.roomId
  session : state.room.sessionId = snapshot.room.sessionId
  capacity : state.room.capacity = snapshot.room.capacity

/-- A repair within one round keeps its frozen participants, so one that has left makes it raise. -/
theorem reconcile_departed (loaded : Loaded snapshot) (same : SameSession state snapshot)
    (sameRound : state.roundId = snapshot.roundId)
    (participant : account ∈ state.roundParticipantAccountIds)
    (departed : account ∉ snapshot.activeAccountIds) :
    reconcile now stateLifetime state snapshot =
      .error (.valueError "round participants must occupy the room projection") := by
  have different : ¬ accountsOf state.slots ⊆ snapshot.activeAccountIds :=
    fun inside => departed (inside (state.seated account participant))
  obtain ⟨slots, ran, ordered, accounts, _⟩ := retainSlots_eq loaded same.capacity
  have refused := ran.trans (RoomState.new_unseated ordered
    (accounts.nodup_iff.mpr snapshot.accounts.1) (accounts.mem_iff.mpr loaded.hosted)
    state.participants state.progress fun seated =>
      departed (accounts.mem_iff.mp (seated account participant)))
  simp [reconcile, same.room, same.session, sameRound, different, refused]

/-- A repair produces a valid state of the snapshot's round that shows exactly the
active accounts. Within one round it moves nobody who stays; when the rounds differ
the projection is rebuilt and each frozen participant sits where it was frozen. -/
theorem reconcile_restores (now stateLifetime : Int) (state : RoomState)
    (snapshot : DurableRoomSnapshot) (loaded : Loaded snapshot) (same : SameSession state snapshot)
    (stayed : state.roundId = snapshot.roundId →
      ∀ account ∈ state.roundParticipantAccountIds, account ∈ snapshot.activeAccountIds) :
    ∃ result, reconcile now stateLifetime state snapshot = .ok result ∧
      (accountsOf result.state.slots).Perm snapshot.activeAccountIds ∧
      result.state.roundId = snapshot.roundId ∧
      (∀ account ∈ result.state.roundParticipantAccountIds, account ∈ accountsOf result.state.slots) ∧
      (state.roundId = snapshot.roundId → ∀ slot ∈ state.slots, ∀ account ∈ snapshot.activeAccountIds,
        slot.accountId = some account → slot ∈ result.state.slots) ∧
      (state.roundId ≠ snapshot.roundId → ∀ participant ∈ snapshot.roundParticipants,
        ∃ slot ∈ result.state.slots, Shows participant slot) := by
  by_cases sameRound : state.roundId = snapshot.roundId
  · by_cases current : state.room.version = snapshot.room.version ∧
      accountsOf state.slots ⊆ snapshot.activeAccountIds ∧ snapshot.activeAccountIds ⊆ accountsOf state.slots
    · refine ⟨.current (state.withStatus .live), ?_, ?_, sameRound, state.seated, ?_, ?_⟩
      · simp [reconcile, same.room, same.session, sameRound, current]
      · apply (List.perm_ext_iff_of_nodup state.distinct snapshot.accounts.1).mpr
        exact fun account => ⟨fun member => current.2.1 member, fun member => current.2.2 member⟩
      · exact fun _ slot member _ _ _ => member
      · exact fun different => absurd sameRound different
    · obtain ⟨updated, ran, accounts, round, kept⟩ := retainSlots_ok loaded same.capacity (stayed sameRound)
      refine ⟨.updated updated, ?_, accounts, round.trans sameRound, updated.seated, ?_, ?_⟩
      · simp [reconcile, same.room, same.session, sameRound, current, ran]
      · intro _ slot member account active named
        exact kept slot (mem_retainedSlots.mpr ⟨member, account, active, named⟩)
      · exact fun different => absurd sameRound different
  · obtain ⟨rebuilt, ran, accounts, round, shown⟩ := stateFromSnapshot_ok now stateLifetime false loaded
    refine ⟨.updated (rebuilt.withRevision (max (state.stateRevision + 1) snapshot.room.version)),
      ?_, accounts, round, rebuilt.seated, ?_, ?_⟩
    · simp [reconcile, same.room, same.session, sameRound, ran]
    · exact fun sameRound' => absurd sameRound' sameRound
    · exact fun _ => shown

/-- Once the compare-and-set is reached nothing raises: whatever it answers, the
caller gets the stored state or one that is rebuilt and marked as recovered. -/
theorem reconcileSnapshot_ok (loaded : Loaded snapshot)
    (reached : reconcile now stateLifetime state snapshot = .ok result) :
    ∃ answer, reconcileSnapshot replace now stateLifetime state snapshot = .ok answer ∧
        (result = .current answer ∨
          replace result.state state.stateRevision state.room.sessionId = .ok answer ∨
          (accountsOf answer.slots).Perm snapshot.activeAccountIds ∧
          answer.projectionStatus = .durableRecovery) := by
  cases result with
  | current unchanged =>
    refine ⟨unchanged, ?_, .inl rfl⟩
    simp only [reconcileSnapshot, reached, ok_bind]
    rfl
  | updated updated =>
    cases stored : replace updated state.stateRevision state.room.sessionId with
    | ok answer =>
      refine ⟨answer, ?_, .inr (.inl stored)⟩
      simp only [reconcileSnapshot, reached, ok_bind, stored]
      rfl
    | error failure =>
      obtain ⟨rebuilt, ran, accounts, _⟩ := stateFromSnapshot_ok now stateLifetime false loaded
      refine ⟨rebuilt.withStatus .durableRecovery, ?_, .inr (.inr ⟨accounts, rfl⟩)⟩
      simp only [reconcileSnapshot, reached, ok_bind, stored, ran]
      rfl

/-- The same accounts after a round has started in which only the host plays. -/
def startedSnapshot : DurableRoomSnapshot where
  room := sampleRoom
  activeAccountIds := [1, 2]
  roundId := some sampleRound
  roundParticipants := [⟨1, 0, 0, [], by decide, by decide, sampleTeam⟩]
  accounts := samplePlayers
  identified := by simp
  present := by decide

/-- A third account has joined and no round is played. -/
def joinedSnapshot : DurableRoomSnapshot where
  room := sampleRoom
  activeAccountIds := [1, 2, 3]
  accounts := by decide
  identified := fun _ => rfl
  present := by decide

/-- A rebuilt projection packs the accounts that do not play: the guest moves from
the last slot to the second. -/
theorem reconcile_moves_guest : Loaded startedSnapshot ∧ SameSession sampleState startedSnapshot ∧
    sampleState.roundParticipantAccountIds = [] ∧
    sampleState.slots.map (fun slot => (slot.position, slot.accountId)) = [(0, some 1), (1, none),
    (2, some 2)] ∧ (reconcile 0 60 sampleState startedSnapshot).toOption.map
        (fun result => result.state.slots.map fun slot => (slot.position, slot.accountId)) =
      some [(0, some 1), (1, some 2), (2, none)] :=
  ⟨⟨by decide, by decide, by decide, by decide, by decide⟩, ⟨rfl, rfl, rfl⟩, rfl, rfl, by decide⟩

theorem reconcile_restores_joined : ∃ result, reconcile 0 60 sampleState joinedSnapshot =
    .ok result ∧ (accountsOf result.state.slots).Perm [1, 2, 3] ∧ result.state.roundId = none ∧
    ∀ slot ∈ sampleState.slots, ∀ account ∈ [1, 2, 3], slot.accountId = some account →
    slot ∈ result.state.slots := by
  have loaded : Loaded joinedSnapshot := ⟨by decide, by decide, by decide, by decide, by decide⟩
  have stayed : ∀ account ∈ sampleState.roundParticipantAccountIds,
    account ∈ joinedSnapshot.activeAccountIds := by decide
  obtain ⟨result, ran, accounts, round, _, kept, _⟩ :=
    reconcile_restores 0 60 sampleState joinedSnapshot loaded ⟨rfl, rfl, rfl⟩ fun _ => stayed
  exact ⟨result, ran, accounts, round, kept rfl⟩

/-- The compare-and-set of that repair fails, and the account that joined is shown all the same. -/
theorem reconcileSnapshot_ok_refused : ∃ answer,
    reconcileSnapshot (fun _ _ _ => .error .stopIteration) 0 60 sampleState joinedSnapshot = .ok answer ∧
      (accountsOf answer.slots).Perm [1, 2, 3] ∧ answer.projectionStatus = .durableRecovery := by
  have loaded : Loaded joinedSnapshot := ⟨by decide, by decide, by decide, by decide, by decide⟩
  have repaired : ∃ state, reconcile 0 60 sampleState joinedSnapshot = .ok (.updated state) := ⟨_, rfl⟩
  obtain ⟨state, reached⟩ := repaired
  refine (reconcileSnapshot_ok loaded reached).imp fun answer ⟨ran, outcome⟩ => ⟨ran, ?_⟩
  rcases outcome with current | stored | recovered
  · cases current
  · cases stored
  · exact recovered

end Perfcho.Multiplayer
