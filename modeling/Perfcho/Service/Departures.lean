import Perfcho.Service.Recovery

/-! Leaves and cleanups from a connection that does not own the presence of the account.
The tables do not let go of the presence, but the projection is told of a leave all the
same. -/

namespace Perfcho.Service

open Foundation Multiplayer Durable Redis Program Yields

variable {Blob : Type} {service : MultiplayerService Blob} {reason : String} {committed : Committed}
variable {world : World Blob} {state : RoomState} {snapshot : DurableRoomSnapshot} {account : Nat}
  {connection : Uuid}

/-- No open presence of the account belongs to the connection. -/
def Foreign (tables : Tables) (account : Nat) (connection : Uuid) : Prop :=
  ∀ presence ∈ tables.presences.rows, presence.accountId = account → presence.current = true →
    presence.connectionSessionId ≠ connection

/-- A request to end the presence of an account in a room, made by a connection. -/
inductive Departs (account : Nat) (connection : Uuid) (publicId : Nat) : Request → Prop where
  | leave (origin : CommandMeta) (actor : origin.accountId = account)
      (session : origin.authSessionId = connection) :
      Departs account connection publicId (.leaveRoom origin publicId)
  | cleanup (origin : CommandMeta) (reason : String) :
      Departs account connection publicId (.cleanupPresence origin account connection reason)

/-- A leave that is not attempted: the account may not play, or the command is a repeated
one. A cleanup is always attempted. -/
def Declined (service : MultiplayerService Blob) (tables : Tables) : Request → Prop
  | .leaveRoom origin _ =>
    service.policies.require origin.accountId playPermissions origin.moment.now ≠ .ok () ∨
      tables.findCommandRoom (service.commandId origin.accountId origin) ≠ .ok none
  | _ => False

/-- A projection of a room: the parts of a record that never change are the same. -/
structure Pictures (room : RoomRecord) (state : RoomState) : Prop where
  publicId : room.publicId = state.room.publicId
  session : room.sessionId = state.room.sessionId
  epoch : room.publicIdEpoch = state.room.publicIdEpoch
  capacity : room.capacity = state.room.capacity

section

variable {tables : Tables} {publicId : Nat}

theorem Foreign.currentPresence (foreign : Foreign tables account connection) (sessionId : Uuid) :
    currentPresence tables sessionId account (some connection) = none := by
  apply List.find?_eq_none.mpr
  intro presence member
  obtain ⟨stored, current⟩ := List.mem_filter.mp member
  rw [Bool.and_eq_true] at current
  simp only [Option.all_some, decide_eq_true_eq, not_and]
  exact fun named => foreign presence stored named current.1

theorem leaveRoom_foreign (located : tables.getRoom publicId = .ok (some made))
    (foreign : Foreign tables account connection) (moment : Moment) (commandId : Uuid) (reason : String) :
    Durable.leaveRoom tables tables moment publicId commandId account (some connection) reason =
      .ok (some made, tables) := by
  unfold Tables.getRoom at located
  split at located
  · cases located
  next room session found =>
  obtain ⟨_, recorded, same⟩ := of_bind_eq_ok located
  cases same
  have locked : lockedEntities tables publicId = .ok (room, session) := by simp [lockedEntities, found]
  simp only [Durable.leaveRoom, locked, ok_bind, foreign.currentPresence, recorded]
  split <;> rfl

theorem loadSnapshot_room (ran : tables.loadSnapshot made = .ok snapshot) :
    tables.loadSnapshot snapshot.room = .ok snapshot ∧ snapshot.room.publicId = made.publicId := by
  obtain ⟨located, session, _⟩ := loadSnapshot_eq_ok ran
  have publicId := (standing_of_getRoom located).2
  refine ⟨?_, publicId⟩
  rw [← ran, Tables.loadSnapshot, Tables.loadSnapshot, publicId, session]

section

variable {policies : Policies} {moment : Moment} {commandId : Uuid}

/-- What a leave that has changed nothing hands to the projection. -/
structure Unmoved (snapshot : DurableRoomSnapshot) (committed : Committed) : Prop where
  room : committed.room = some snapshot.room
  snapshot : committed.snapshot = some snapshot

theorem commit_unmoved (loads : tables.loadSnapshot snapshot.room = .ok snapshot)
    (transacted : transact policies tables tables moment command = .ok (some snapshot.room, tables)) :
    ∃ committed, commit tables policies moment command = .ok (committed, tables) ∧
      Unmoved snapshot committed ∧ committed.replayed = answeredBefore tables command ∧
      committed.locked = lockedFor tables command := by
  have shows : loaded tables (.ok (some snapshot.room)) = .ok (some snapshot) := by simp [loaded, loads]
  refine ⟨⟨some snapshot.room, some snapshot, answeredBefore tables command, lockedFor tables command,
    tables.activeRoundId snapshot.room.sessionId⟩, ?_, ⟨rfl, rfl⟩, rfl, rfl⟩
  rw [commit, transacted, ok_bind]
  dsimp only
  rw [shows]
  rfl

theorem leaveTransaction_foreign (loads : tables.loadSnapshot snapshot.room = .ok snapshot)
    (foreign : Foreign tables account connection)
    (allowed : policies.require account playPermissions moment.now = .ok ())
    (unanswered : tables.findCommandRoom commandId = .ok none) :
    transact policies tables tables moment (.leave commandId account connection snapshot.room.publicId) =
      .ok (some snapshot.room, tables) := by
  have located := (loadSnapshot_eq_ok loads).1
  have left := leaveRoom_foreign located foreign moment commandId "client_parted"
  change leaveTransaction policies tables tables moment commandId account connection
    snapshot.room.publicId = _
  unfold leaveTransaction
  rw [show ["multiplayer.play"] = playPermissions from rfl, allowed, ok_bind, unanswered, ok_bind]
  rw [located, ok_bind]
  dsimp only
  rw [left, ok_bind, committedIfOpen, committed, loads]
  rfl

theorem cleanupTransaction_foreign (found : tables.findRoomForAccount account = .ok (some made))
    (ran : tables.loadSnapshot made = .ok snapshot) (foreign : Foreign tables account connection) :
    transact policies tables tables moment (.cleanup commandId account connection reason) =
      .ok (some snapshot.room, tables) := by
  obtain ⟨loads, publicId⟩ := loadSnapshot_room ran
  have located := (loadSnapshot_eq_ok loads).1
  have left := leaveRoom_foreign (publicId ▸ located) foreign moment commandId reason
  change cleanupTransaction tables tables moment commandId account connection reason = _
  unfold cleanupTransaction
  rw [found, ok_bind]
  dsimp only
  rw [left, ok_bind, committedIfOpen, committed, loads]
  rfl

end

end

section

/-- An account that its projection does not let go: nobody else there is the host of the
room, or the account plays in the round. -/
def Bound (room : RoomRecord) (state : RoomState) (account : Nat) : Prop :=
  room.hostAccountId ∉ (accountsOf state.slots).filter (· ≠ account) ∨
    account ∈ state.roundParticipantAccountIds

variable {record : RoomRecord} {repo : Repository Blob} {store : Store Blob}

theorem Pictures.leftBy (pictures : Pictures record state) (loose : ¬ Bound record state account) :
    LeftBy state account record ∧ account ∉ state.roundParticipantAccountIds := by
  rw [Bound, not_or, not_not, mem_remaining] at loose
  exact ⟨⟨pictures.publicId, pictures.session, pictures.epoch, pictures.capacity, loose.1.1,
    loose.1.2⟩, loose.2⟩

theorem leave_bound (pictures : Pictures record state) (occupant : account ∈ accountsOf state.slots)
    (bound : Bound record state account) : ∃ failure, leave account record state = .error failure := by
  by_cases hosted : record.hostAccountId ∈ (accountsOf state.slots).filter (· ≠ account)
  · obtain ⟨seated, other⟩ := mem_remaining.mp hosted
    have left : LeftBy state account record :=
      ⟨pictures.publicId, pictures.session, pictures.epoch, pictures.capacity, seated, other⟩
    exact ⟨_, leave_participant left (bound.resolve_left (not_not.mpr hosted))⟩
  · exact ⟨_, leave_unhosted occupant pictures.capacity hosted⟩

theorem run_leaveRoom_bound (projects : Projects repo store state) (pictures : Pictures record state)
    (occupant : account ∈ accountsOf state.slots) (bound : Bound record state account) :
    ∃ failure, runAlone repo (repo.body (.leave state.room.publicId account (some record))) store =
      (.error failure, store) := by
  obtain ⟨failure, raised⟩ := leave_bound pictures occupant bound
  obtain ⟨attempts, counted⟩ := Nat.exists_eq_add_of_le' repo.attempted.1
  have edited := run_mutate_error (.leave account record) attempts projects raised
  have ran := run_leaveRoom projects (counted ▸ edited)
  exact ⟨failure, ran⟩

theorem run_leaveRoom_loose (projects : Projects repo store state) (pictures : Pictures record state)
    (occupant : account ∈ accountsOf state.slots) (loose : ¬ Bound record state account) :
    ∃ updated after, runAlone repo (repo.body (.leave state.room.publicId account (some record)))
        store = (.ok (some updated), after) ∧ account ∉ accountsOf updated.slots ∧
      Holds repo state.room.publicId after updated := by
  obtain ⟨left, idle⟩ := pictures.leftBy loose
  obtain ⟨updated, built, room, _, accounts, _⟩ := leave_ok occupant left idle
  obtain ⟨after, accepted, stored⟩ := cas_leave projects left room accounts
  obtain ⟨attempts, counted⟩ := Nat.exists_eq_add_of_le' repo.attempted.1
  have edited := run_mutate_ok (.leave account record) attempts projects built accepted
  have ran := run_leaveRoom projects (counted ▸ edited)
  refine ⟨updated.sanitized, after, ran, ?_, ⟨_, stored⟩, rfl, ?_⟩
  · intro still
    rw [show accountsOf updated.sanitized.slots = _ from accounts] at still
    exact (mem_remaining.mp still).2 rfl
  · change updated.room.publicId = _
    rw [room]
    exact pictures.publicId

theorem state_answers (ran : runAlone service.repo (service.repo.body task) world.store = (answer, store)) :
    Ends service permitted (Method.state task) world fun result after => result = answer ∧
    after = { world with store } :=
  step fun _ => .ofExcept (by simp [execute, ran])

/-- The projection after a leave that the tables have not made: the account keeps its slot
only if it is bound. -/
theorem projectLeave_keeps (unmoved : Unmoved snapshot committed)
    (projects : Projects service.repo world.store state) (pictures : Pictures snapshot.room state)
    (occupant : account ∈ accountsOf state.slots) :
    Ends service permitted (service.projectLeave state.room.publicId account committed) world fun _ after =>
      after.tables = world.tables ∧
        (Holds service.repo state.room.publicId after.store state ↔ Bound snapshot.room state account) := by
  unfold MultiplayerService.projectLeave
  rw [unmoved.room, unmoved.snapshot]
  by_cases bound : Bound snapshot.room state account
  · obtain ⟨failure, ran⟩ := run_leaveRoom_bound projects pictures occupant bound
    apply rescue (state_answers ran)
    rintro _ middle ⟨rfl, rfl⟩
    have stays : Holds service.repo state.room.publicId world.store state ↔
      Bound snapshot.room state account :=
      iff_of_true projects.toLive.toHolds bound
    exact .map recovered_ends fun _ _ recovered => recovered.1 ▸ ⟨rfl, stays⟩
  · obtain ⟨updated, after, ran, gone, stored⟩ := run_leaveRoom_loose projects pictures occupant bound
    apply rescue (state_answers ran)
    rintro _ middle ⟨rfl, rfl⟩
    refine .pure ⟨rfl, iff_of_false (fun holds => ?_) bound⟩
    exact gone (stored.unique holds ▸ occupant)

end

section

variable {room : Nat}

theorem publishSnapshot_elsewhere (kept : Kept service world) (current : Current world.tables snapshot)
    (holds : Holds service.repo room world.store state) (other : room ≠ snapshot.room.publicId) :
    Ends service permitted (service.publishSnapshot snapshot) world fun _ after =>
      after.tables = world.tables ∧ Holds service.repo room after.store state := by
  apply seq recovered_ends
  · rintro durable middle ⟨rfl, built⟩
    apply clock_step
    have gets : Does service.repo
      (service.repo.body (.get snapshot.room.publicId middle.store.clock)) middle.store _ :=
      get_does (kept.stored snapshot.room.publicId)
    apply rescue (state_ends gets)
    rintro _ after ⟨_, tables, ⟨found, rfl, store, live⟩ | ⟨rfl, fades⟩⟩
    · obtain rfl := world_eq tables store
      apply clock_step
      apply given
      · intro reconciled ran
        cases reconciled with
        | current unchanged => exact .pure ⟨rfl, holds⟩
        | updated updated =>
          have target := (updated_inStep ran).1
          apply rescue (repaired_ends kept)
          rw [target]
          rintro _ middle ⟨_, tables, ⟨⟨failure, rfl⟩, unwritten⟩ | ⟨rfl, puts⟩⟩
          · have stays := holds.unwritten unwritten other
            exact .map recovered_ends fun _ _ recovered => recovered.1 ▸ ⟨tables, stays⟩
          · exact .pure ⟨tables, holds.elsewhere puts other⟩
      · exact fun failure _ => ⟨rfl, holds⟩
    · have stays := holds.elsewhere fades.puts other
      have keyed : durable.room.publicId =
        snapshot.room.publicId := by rw [(stateFromSnapshot_eq_ok built.symm).room]
      apply rescue (projected_ends (.create durable) rfl create_does)
      rintro _ final ⟨_, tables', ⟨⟨failure, rfl⟩, same⟩ | ⟨bounded, bounds, rfl, puts⟩⟩
      · exact .pure ⟨tables'.trans tables, stays.of_rooms_eq (congrFun same.rooms room)⟩
      · exact .pure ⟨tables'.trans tables, stays.elsewhere puts (keyed ▸ other)⟩
  · rintro failure after ⟨rfl, _⟩
    exact ⟨rfl, holds⟩

theorem publishSnapshot_current (live : Live service.repo room world.store state)
    (upToDate : UpToDate world.tables room state snapshot) (keyed : snapshot.room.publicId = room) :
    Ends service permitted (service.publishSnapshot snapshot) world fun _ after => after = world := by
  apply seq recovered_ends
  · rintro durable middle ⟨rfl, _⟩
    apply clock_step
    apply rescue (get_live (keyed ▸ live))
    rintro _ after ⟨rfl, rfl⟩
    apply clock_step
    rw [upToDate.reconcile]
    exact .pure rfl
  · rintro failure after ⟨rfl, _⟩
    rfl

theorem Current.unique (one : Current tables snapshot)
    (two : Current tables other) (same : other.room.publicId = snapshot.room.publicId) :
    other = snapshot := by
  obtain ⟨_, ran⟩ := one
  obtain ⟨_, ran'⟩ := two
  obtain ⟨loads, _⟩ := loadSnapshot_room ran
  obtain ⟨loads', _⟩ := loadSnapshot_room ran'
  have located := (loadSnapshot_eq_ok loads).1
  have located' := (loadSnapshot_eq_ok loads').1
  rw [same, located] at located'
  have room : snapshot.room = other.room := Option.some.inj (Except.ok.inj located')
  rw [← room, loads] at loads'
  exact (Except.ok.inj loads').symm

variable {origin : CommandMeta}

theorem leaveRoom_declined (kept : Kept service world) (current : Current world.tables snapshot)
    (live : Live service.repo snapshot.room.publicId world.store state)
    (declined : Declined service world.tables (.leaveRoom origin snapshot.room.publicId))
    (steady : ∀ found, world.tables.findCommandRoom (service.commandId origin.accountId origin) =
      .ok (some found) →
      UpToDate world.tables snapshot.room.publicId state snapshot) :
    Ends service permitted (service.leaveRoom origin snapshot.room.publicId) world fun _ after =>
      after.tables = world.tables ∧ Holds service.repo snapshot.room.publicId after.store state := by
  apply seq commit_ends
  · rintro committed after ⟨_, store, ⟨⟨_, ⟨⟩⟩, _⟩ | ⟨_, ⟨⟩, ran⟩⟩
    obtain ⟨transacted, shows, replayed, _⟩ := commit_eq_ok ran
    obtain ⟨_, allowed, answer, looked, transacted⟩ := of_bind_bind_eq_ok transacted
    cases answer with
    | none => exact absurd looked (declined.resolve_left (not_not.mpr allowed))
    | some replay =>
      obtain ⟨_, _, _, _, transacted⟩ := of_bind_bind_eq_ok transacted
      have tables := congrArg Prod.snd (Except.ok.inj transacted)
      obtain rfl : after = world := world_eq tables.symm store
      split
      · exact .pure ⟨rfl, live.toHolds⟩
      rw [if_pos (by simp [replayed, answeredBefore, looked, Except.toOption])]
      unfold MultiplayerService.publishCommitted
      split
      · exact .pure ⟨rfl, live.toHolds⟩
      next shown published =>
      rw [published] at shows
      obtain ⟨made, _, built⟩ := loaded_eq_ok shows
      have publishes : Ends service permitted (service.publishSnapshot shown) after fun _ final =>
          final.tables = after.tables ∧ Holds service.repo snapshot.room.publicId final.store state := by
        by_cases same : shown.room.publicId = snapshot.room.publicId
        · obtain rfl := current.unique ⟨made, built⟩ same
          refine (publishSnapshot_current live (steady replay looked) rfl).mono ?_
          rintro _ _ rfl
          exact ⟨rfl, live.toHolds⟩
        · exact publishSnapshot_elsewhere kept ⟨made, built⟩ live.toHolds (Ne.symm same)
      exact .map publishes fun _ _ held => held
  · rintro failure after ⟨_, _, ⟨_, rfl⟩ | ⟨_, ⟨⟩, _⟩⟩
    exact ⟨rfl, live.toHolds⟩

theorem commit_answers (ran : commit world.tables service.policies moment command = .ok (committed,
    world.tables)) :
    Ends service permitted (Method.commit moment command) world fun result after =>
    result = .ok committed ∧ after = world :=
  step fun _ => .ofExcept (by simp [execute, ran])

theorem leaveRoom_foreign_ends (current : Current world.tables snapshot)
    (foreign : Foreign world.tables origin.accountId origin.authSessionId)
    (attempted : ¬ Declined service world.tables (.leaveRoom origin snapshot.room.publicId))
    (projects : Projects service.repo world.store state) (pictures : Pictures snapshot.room state)
    (occupant : origin.accountId ∈ accountsOf state.slots) :
    Ends service permitted (service.leaveRoom origin snapshot.room.publicId) world fun _ after =>
      after.tables = world.tables ∧ (Holds service.repo snapshot.room.publicId after.store state ↔
        Bound snapshot.room state origin.accountId) := by
  obtain ⟨made, ran⟩ := current
  obtain ⟨loads, _⟩ := loadSnapshot_room ran
  rw [Declined, not_or, not_not, not_not] at attempted
  obtain ⟨committed, commits, unmoved, replayed, locked⟩ :=
    commit_unmoved loads (leaveTransaction_foreign loads foreign attempted.1 attempted.2)
  have located := (loadSnapshot_eq_ok loads).1
  apply seq (commit_answers commits)
  · rintro _ middle ⟨⟨⟩, rfl⟩
    rw [locked, lockedFor, located, replayed, answeredBefore, attempted.2]
    rw [pictures.publicId]
    exact projectLeave_keeps unmoved projects pictures occupant
  · rintro failure after ⟨⟨⟩, _⟩

theorem cleanupPresence_foreign_ends
    (loads : loaded world.tables (world.tables.findRoomForAccount account) = .ok (some snapshot))
    (foreign : Foreign world.tables account connection) (projects : Projects service.repo world.store state)
    (pictures : Pictures snapshot.room state) (occupant : account ∈ accountsOf state.slots) :
    Ends service permitted (service.cleanupPresence origin account connection reason) world fun _ after =>
      after.tables = world.tables ∧ (Holds service.repo snapshot.room.publicId after.store state ↔
        Bound snapshot.room state account) := by
  obtain ⟨made, found, ran⟩ := loaded_eq_ok loads
  obtain ⟨shows, publicId⟩ := loadSnapshot_room ran
  obtain ⟨committed, commits, unmoved, _, locked⟩ :=
    commit_unmoved shows (cleanupTransaction_foreign found ran foreign)
  apply seq (commit_answers commits)
  · rintro _ middle ⟨⟨⟩, rfl⟩
    rw [locked, lockedFor, found]
    rw [pictures.publicId] at publicId ⊢
    change Ends service permitted (service.projectLeave made.publicId account committed) middle _
    rw [← publicId]
    exact projectLeave_keeps unmoved projects pictures occupant
  · rintro failure after ⟨⟨⟩, _⟩

end

/-- A leave or a cleanup from a foreign connection changes neither the tables nor the
projection exactly if it is declined, or the projection does not let the account go. -/
theorem departs_unchanged_iff {request : Request} (kept : Kept service world)
    (loads : loaded world.tables (world.tables.findRoomForAccount account) = .ok (some snapshot))
    (foreign : Foreign world.tables account connection) (projects : Projects service.repo world.store state)
    (pictures : Pictures snapshot.room state) (occupant : account ∈ accountsOf state.slots)
    (departs : Departs account connection snapshot.room.publicId request)
    (steady : ∀ origin found, request = .leaveRoom origin snapshot.room.publicId →
      world.tables.findCommandRoom (service.commandId origin.accountId origin) = .ok (some found) →
      UpToDate world.tables snapshot.room.publicId state snapshot) :
    (serve service world request).tables = world.tables ∧
        Holds service.repo snapshot.room.publicId (serve service world request).store state ↔
      Declined service world.tables request ∨ Bound snapshot.room state account := by
  have permits : (service.body request).Permits (execute service) (fun _ _ => True) world :=
    permits_of_forall (fun _ _ => trivial) _ _
  cases departs with
  | leave origin actor session =>
    subst actor session
    obtain ⟨made, _, ran⟩ := loaded_eq_ok loads
    by_cases declined : Declined service world.tables (.leaveRoom origin snapshot.room.publicId)
    · have live := projects.toLive
      rw [← pictures.publicId] at live
      have steady := fun found => steady origin found rfl
      exact iff_of_true ((leaveRoom_declined kept ⟨made, ran⟩ live declined steady).ends permits)
        (.inl declined)
    · obtain ⟨tables, stays⟩ :=
        (leaveRoom_foreign_ends ⟨made, ran⟩ foreign declined projects pictures occupant).ends permits
      constructor
      · exact fun unchanged => .inr (stays.mp unchanged.2)
      · exact fun condition => ⟨tables, stays.mpr (condition.resolve_left declined)⟩
  | cleanup origin reason =>
    obtain ⟨tables, stays⟩ :=
      (cleanupPresence_foreign_ends loads foreign projects pictures occupant).ends permits
    constructor
    · exact fun unchanged => .inr (stays.mp unchanged.2)
    · exact fun condition => ⟨tables, stays.mpr (condition.resolve_left id)⟩

/-- A room with two accounts, each of whom has joined over a connection of its own. -/
def pairWorld : World RoomState :=
  [sampleOpening sampleSettings 2, sampleJoining 2 2].foldl (serve plainService) (.empty 0)

/-- A cleanup for a connection that has never been in the room. -/
def strayCleanup (account : Nat) :
    Request := .cleanupPresence (sampleOrigin account "expired" 5) account (sampleKey 99) "expired"

/-- The accounts that are present in the tables and those that have a slot. -/
def attendance (world : World RoomState) : List Nat × Option (List Nat) :=
  ((world.tables.presences.rows.filter (·.current)).map (·.accountId),
    (content plainRepo 1 world.store).map fun state => accountsOf state.slots)

/-- The guest is still present after the cleanup, and has lost its slot. -/
theorem guest_unseated : Reached plainService pairWorld ∧
    (∀ presence ∈ pairWorld.tables.presences.rows, presence.connectionSessionId ≠ sampleKey 99) ∧
    attendance pairWorld = ([1, 2], some [1, 2]) ∧
    attendance (serve plainService pairWorld (strayCleanup 2)) = ([1, 2], some [1]) :=
  ⟨reached_sample _, by decide +kernel⟩

/-- Whether the first account hosts a room that is stored as it should be, over no
connection that the cleanup names. -/
def hostTest (world : World RoomState) : Bool :=
  match content plainRepo 1 world.store, loaded world.tables (world.tables.findRoomForAccount 1) with
  | some state, .ok (some snapshot) =>
    (world.store.clock < state.expiresAt.millis ∧ snapshot.room.publicId = state.room.publicId ∧
      snapshot.room.sessionId = state.room.sessionId ∧
      snapshot.room.publicIdEpoch = state.room.publicIdEpoch ∧
      snapshot.room.capacity = state.room.capacity ∧ snapshot.room.hostAccountId = 1 ∧
      1 ∈ accountsOf state.slots ∧
      (∀ presence ∈ world.tables.presences.rows, presence.connectionSessionId ≠ sampleKey 99) ∧
      ∀ account ∈ accountsOf state.slots,
      (world.store.accounts (toString account)).all (·.value = ownerOf state))
  | _, _ => false

theorem host_unmoved : ∃ state snapshot,
    loaded pairWorld.tables (pairWorld.tables.findRoomForAccount 1) = .ok (some snapshot) ∧
    Foreign pairWorld.tables 1 (sampleKey 99) ∧ Projects plainRepo pairWorld.store state ∧
    1 ∈ accountsOf state.slots ∧
    (serve plainService pairWorld (strayCleanup 1)).tables = pairWorld.tables ∧
    Holds plainRepo snapshot.room.publicId (serve plainService pairWorld (strayCleanup 1)).store state := by
  have passed : hostTest pairWorld = true := by decide +kernel
  have reached : Reached plainService pairWorld := reached_sample _
  generalize pairWorld = world at *
  unfold hostTest at passed
  split at passed
  case h_2 => cases passed
  next state snapshot found loads =>
  obtain ⟨live, publicId, session, epoch, capacity, host, occupant, foreign, indexed⟩ :=
    of_decide_eq_true passed
  have holds : Holds plainService.repo 1 world.store state := reached.kept.holds found
  have projects : Projects plainService.repo world.store state := by
    refine ⟨holds.keyed ▸ holds.stored, holds.sanitized, live, fun account seated entry indexes => ?_⟩
    have owned := indexed account seated
    rw [indexes] at owned
    exact of_decide_eq_true owned
  have strange : Foreign world.tables 1 (sampleKey 99) := fun presence stored _ _ => foreign presence stored
  have bound : Bound snapshot.room state 1 := .inl fun hosted => (mem_remaining.mp hosted).2 host
  have unchanged := departs_unchanged_iff reached.kept loads strange projects ⟨publicId, session,
    epoch, capacity⟩ occupant (.cleanup (sampleOrigin 1 "expired" 5) "expired") (by simp)
  exact ⟨state, snapshot, loads, strange, projects, occupant, unchanged.mpr (.inr bound)⟩

end Perfcho.Service
