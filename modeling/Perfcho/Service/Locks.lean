import Perfcho.Service.Runs

/-! Locked slots. A lock is kept in the projection alone, so it lasts as long as the
projection is neither repaired from the tables nor lost with its time. -/

namespace Perfcho.Service

open Foundation Multiplayer Durable Redis

variable {Blob : Type} (service : MultiplayerService Blob) (publicId : Nat)

def HasLock (state : RoomState) : Prop := ∃ slot ∈ state.slots, slot.status = .locked

instance (state : RoomState) : Decidable (HasLock state) :=
  inferInstanceAs (Decidable (∃ slot ∈ state.slots, _))

/-- The host does not toggle the slot. -/
def Untoggled (position : Nat) (world : World Blob) (call : Call) : Prop :=
  ∀ state, Holds service.repo publicId world.store state →
    call ≠ .state (.edit publicId (.lockSlot state.room.hostAccountId position))

/-- A projection with a locked slot is not repaired, and its time is not up. -/
def SparesLocks (world : World Blob) (call : Call) : Prop :=
  ∀ state, Holds service.repo publicId world.store state → HasLock state →
    world.store.clock < state.expiresAt.millis ∧ ∀ updated, call ≠ .repair updated state

/-- The key of a projection with a locked slot does not expire by then. -/
def LocksLast (world : World Blob) (now : Int) : Prop :=
  ∀ state deadline, world.store.rooms publicId = some ⟨service.repo.encode state, deadline⟩ → HasLock state →
    now < deadline

/-- The calls while a lock has to last. -/
def LeavesLock (position : Nat) (world : World Blob) (call : Call) : Prop :=
  Untoggled service publicId position world call ∧ SparesLocks service publicId world call

/-- While the session is hosted, its projection has the locked slot. -/
structure KeepsLock (sessionId : Uuid) (slot : RoomSlot) (world : World Blob) : Prop where
  known : Known world.tables sessionId
  locked : Hosts world.tables publicId sessionId → ∃ state, Holds service.repo publicId world.store
    state ∧ state.room.sessionId = sessionId ∧ slot ∈ state.slots

variable {service} {publicId} {sessionId : Uuid} {slot : RoomSlot} {position : Nat} {world after : World Blob}

/-- A request reads a projection with a lock as it is stored. -/
theorem Shown.unrepaired (shown : Shown service (LeavesLock service publicId position) world publicId state)
    (holds : Holds service.repo publicId world.store stored) (locked : HasLock stored) : state = stored := by
  cases shown with
  | projected _ _ read => exact read.unique holds
  | recovered _ _ _ _ cause =>
    rcases cause with vacant | ⟨before, stale, updated, same, _, read, allowed⟩
    · obtain ⟨_, found⟩ := holds.stored
      rw [vacant] at found
      cases found
    · have same' := read.unique holds
      rw [← same'] at locked
      exact absurd rfl ((allowed.2 stale (read.of_rooms_eq (congrFun same.symm.rooms _)) locked).2 updated)

/-- Only the host toggles a slot. -/
theorem toggles_eq {task : Repository.Task} (toggles : mutation.Toggles position)
    (edits : task.mutation = some mutation) (target : task.target = some publicId)
    (built : mutation.apply ttl now state = .ok updated) :
    task = .edit publicId (.lockSlot state.room.hostAccountId position) := by
  cases mutation with
  | lockSlot actor chosen =>
    obtain rfl : chosen = position := toggles
    have host : state.room.hostAccountId = actor := by
      change lockSlot actor position state = .ok updated at built
      unfold lockSlot at built
      split at built
      · cases built
      · next same => exact not_not.mp same
    rw [host]
    cases task with
    | edit room =>
      cases edits
      cases target
      rfl
    | leave _ _ durableRoom => cases durableRoom <;> cases edits
    | _ => cases edits
  | _ => exact toggles.elim

theorem KeepsLock.of_puts (keeps : KeepsLock service publicId sessionId slot world)
    (known : Known after.tables sessionId)
    (hosted : Hosts after.tables publicId sessionId → Hosts world.tables publicId sessionId)
    (puts : Puts service.repo world.store after.store room (some next))
    (here : ∀ state, room = publicId → Hosts after.tables publicId sessionId →
      Holds service.repo publicId world.store state → state.room.sessionId = sessionId → slot ∈ state.slots →
      next.room.sessionId = sessionId ∧ slot ∈ next.slots) : KeepsLock service publicId sessionId
      slot after := by
  refine ⟨known, fun hosts => ?_⟩
  obtain ⟨state, holds, session, member⟩ := keeps.locked (hosted hosts)
  by_cases same : room = publicId
  · obtain ⟨session', member'⟩ := here state same hosts holds session member
    exact ⟨next, same ▸ puts.holds, session', member'⟩
  · exact ⟨state, holds.elsewhere puts (Ne.symm same), session, member⟩

theorem KeepsLock.move (locked : slot.status = .locked) (kept : Kept service world)
    (move : Move service (LeavesLock service publicId slot.position) world after)
    (keeps : KeepsLock service publicId sessionId slot world) :
    KeepsLock service publicId sessionId slot after := by
  have lock : ∀ {state : RoomState}, slot ∈ state.slots → HasLock state :=
    fun member => ⟨slot, member, locked⟩
  cases move with
  | quiet tables same =>
    refine ⟨tables ▸ keeps.known, fun hosts => ?_⟩
    obtain ⟨state, holds, session, member⟩ := keeps.locked (tables ▸ hosts)
    exact ⟨state, holds.of_rooms_eq (congrFun same.rooms _), session, member⟩
  | fades allowed tables fades =>
    refine ⟨tables ▸ keeps.known, fun hosts => ?_⟩
    obtain ⟨state, holds, session, member⟩ := keeps.locked (tables ▸ hosts)
    refine ⟨state, holds.elsewhere fades.puts ?_, session, member⟩
    rintro rfl
    have live := (allowed.2 state holds (lock member)).1
    exact absurd (fades.expired state holds) (not_le.mpr live)
  | drops tables gone puts =>
    refine ⟨tables ▸ keeps.known, fun hosts => ?_⟩
    obtain ⟨state, holds, session, member⟩ := keeps.locked (tables ▸ hosts)
    refine ⟨state, holds.elsewhere puts ?_, session, member⟩
    rintro rfl
    exact (tables ▸ hosts : Hosts world.tables _ _).getRoom_ne_none kept.sound gone
  | commits _ _ ran store =>
    have change := transact_change (commit_eq_ok ran).1
    refine ⟨change.known keeps.known, fun hosts => ?_⟩
    rw [store]
    exact keeps.locked (change.hosted kept.sound keeps.known hosts)
  | creates tables _ vacant _ _ puts =>
    apply keeps.of_puts (tables ▸ keeps.known) (fun hosts => tables ▸ hosts) puts
    rintro state rfl _ holds
    obtain ⟨_, found⟩ := holds.stored
    rw [vacant] at found
    cases found
  | repairs allowed tables _ holds _ puts =>
    apply keeps.of_puts (tables ▸ keeps.known) (fun hosts => tables ▸ hosts) puts
    rintro state rfl _ stored _ member
    cases holds.unique stored
    exact absurd rfl ((allowed.2 _ holds (lock member)).2 _)
  | edits allowed edits target brings tables holds _ built puts =>
    apply keeps.of_puts (tables ▸ keeps.known) (fun hosts => tables ▸ hosts) puts
    rintro state rfl hosts stored session member
    cases holds.unique stored
    refine ⟨?_, (Mutation.apply_edited built).locked slot member locked ?_⟩
    · rcases (Mutation.apply_eq_ok built).1 with same | ⟨record, brought, same⟩
      · exact (congrArg _ same).trans session
      · obtain ⟨standing, rfl⟩ := standing_of_getRoom (brings record brought)
        exact (congrArg RoomRecord.sessionId same).trans
          (Hosts.unique kept.sound (tables ▸ hosts) standing.hosts)
    · intro toggles
      rw [toggles_eq toggles edits target built] at allowed
      exact allowed.1 _ holds rfl
  | replaces _ _ ran hosted unanswered answered shown holds _ _ transit puts =>
    obtain ⟨change, serves⟩ := commit_record hosted unanswered ran answered
    apply keeps.of_puts (change.known keeps.known) (change.hosted kept.sound keeps.known) puts
    rintro state rfl hosts stored session member
    cases holds.unique stored
    cases shown.unrepaired holds (lock member)
    have member' := transit.turned.keeps _ member (RoomSlot.vacant_of_locked locked)
    obtain ⟨standing, keyed⟩ := serves.standing
    have unique := Hosts.unique (kept.sound.change change) hosts (keyed ▸ standing.hosts)
    exact ⟨(congrArg RoomRecord.sessionId transit.room).trans unique, member'⟩

theorem KeepsLock.wait (locked : slot.status = .locked) (elapses : Elapses world after)
    (lasts : LocksLast service publicId world after.store.clock)
    (keeps : KeepsLock service publicId sessionId slot world) :
    KeepsLock service publicId sessionId slot after := by
  refine ⟨elapses.tables ▸ keeps.known, fun hosts => ?_⟩
  obtain ⟨state, holds, session, member⟩ := keeps.locked (elapses.tables ▸ hosts)
  rcases elapses.rooms publicId with same | ⟨_, entry, found, expired⟩
  · exact ⟨state, holds.of_rooms_eq same, session, member⟩
  · obtain ⟨deadline, stored⟩ := holds.stored
    rw [stored] at found
    cases found
    exact absurd expired (not_le.mpr (lasts state deadline stored ⟨slot, member, locked⟩))

/-- A slot that is locked stays as it is, locked and empty, in the projection of its
session until its host toggles it, in every run that neither repairs the projection
nor outlasts it. -/
theorem locks_last {state : RoomState} (reached : Reached service world)
    (holds : Holds service.repo publicId world.store state)
    (hosted : Hosts world.tables publicId state.room.sessionId) (member : slot ∈ state.slots)
    (locked : slot.status = .locked)
    (runs : Runs service (LeavesLock service publicId slot.position) (LocksLast service publicId) world after)
    (still : Hosts after.tables publicId state.room.sessionId) :
    slot.accountId = none ∧ ∃ later, Holds service.repo publicId after.store later ∧
      later.room.sessionId = state.room.sessionId ∧ slot ∈ later.slots := by
  have start : KeepsLock service publicId state.room.sessionId slot world :=
    ⟨hosted.known, fun _ => ⟨state, holds, rfl, member⟩⟩
  obtain ⟨_, keeps⟩ := Runs.preserves (KeepsLock service publicId state.room.sessionId slot) runs
    (.move locked) (.wait locked) reached.kept start
  exact ⟨RoomSlot.vacant_of_locked locked, keeps.locked still⟩

/-- The host of a room locks one of its slots. -/
def lockingWorld (capacity : Nat) (position : Int) : World RoomState :=
  [sampleOpening sampleSettings capacity, .lockSlot 1 1 position].foldl (serve plainService) (.empty 0)

/-- The state and the account of a slot that is projected. -/
def projectedSlot (world : World RoomState) (position : Nat) : Option (SlotStatus × Option Nat) :=
  ((content plainRepo 1 world.store).bind (·.slots[position]?)).map fun slot => (slot.status, slot.accountId)

/-- A room of two whose second slot is locked takes another account all the same: the
join finds no open slot, and the repair puts the account in the locked one. -/
theorem lock_overridden : Reached plainService (lockingWorld 2 1) ∧
    projectedSlot (lockingWorld 2 1) 1 = some (.locked, none) ∧
    projectedSlot (serve plainService (lockingWorld 2 1) (sampleJoining 2 2)) 1 =
    some (.notReady, some 2) ∧ Hosts (lockingWorld 2 1).tables 1 (sampleKey 12) ∧
    Hosts (serve plainService (lockingWorld 2 1) (sampleJoining 2 2)).tables 1 (sampleKey 12) :=
  ⟨reached_sample _, by decide +kernel, by decide +kernel, hosts_of_any (by decide +kernel),
    hosts_of_any (by decide +kernel)⟩

/-- A call that can only keep locks, while the projection lasts. -/
def lockTest (world : World RoomState) (call : Call) : Bool :=
  (content plainRepo 1 world.store).all (world.store.clock < ·.expiresAt.millis) &&
    match call with
    | .repair .. | .state (.edit _ (.lockSlot ..)) => false
    | _ => true

theorem leavesLock_of_test (world : World RoomState) (call : Call)
    (passed : lockTest world call = true) : LeavesLock plainService 1 position world call := by
  unfold lockTest at passed
  rw [Bool.and_eq_true] at passed
  constructor
  · rintro state holds rfl
    cases passed.2
  · intro state holds _
    rw [show content plainRepo 1 world.store = some state from holds.content] at passed
    refine ⟨by simpa using passed.1, ?_⟩
    rintro updated rfl
    cases passed.2

/-- With an open slot left, the account takes that one. -/
def joinedWorld : World RoomState := serve plainService (lockingWorld 3 2) (sampleJoining 2 2)

theorem lockingWorld_projected :
    (content plainRepo 1 (lockingWorld 3 2).store).isSome = true := by decide +kernel

def lockedState : RoomState := (content plainRepo 1 (lockingWorld 3 2).store).get lockingWorld_projected

theorem lock_kept : projectedSlot joinedWorld 1 = some (.notReady, some 2) ∧
    ∃ slot ∈ lockedState.slots, slot.status = .locked ∧ slot.accountId = none ∧
      ∃ later, Holds plainRepo 1 joinedWorld.store later ∧
        later.room.sessionId = lockedState.room.sessionId ∧ slot ∈ later.slots := by
  refine ⟨by decide +kernel, ?_⟩
  have locked : HasLock lockedState := by decide +kernel
  obtain ⟨slot, member, locked⟩ := locked
  have reached : Reached plainService (lockingWorld 3 2) := reached_sample _
  have holds : Holds plainRepo 1 (lockingWorld 3 2).store lockedState :=
    (reached.kept.stored 1).holds (Option.some_get _).symm
  have runs : Runs plainService (LeavesLock plainService 1 slot.position) (LocksLast plainService 1)
    (lockingWorld 3 2) ([sampleJoining 2 2].foldl (serve plainService) (lockingWorld 3 2)) :=
    runs_of_checks leavesLock_of_test (by decide +kernel)
  exact ⟨slot, member, locked, locks_last reached holds (hosts_of_any (by decide +kernel)) member locked
    runs (hosts_of_any (by decide +kernel))⟩

end Perfcho.Service
