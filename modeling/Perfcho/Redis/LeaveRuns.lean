import Perfcho.Multiplayer.LeaveInvariant
import Perfcho.Redis.Fencing
import Perfcho.Redis.Repository

/-! A leave on the stored projection, run with no other process in between. -/

namespace Perfcho.Redis

open Foundation Multiplayer Repository Program

variable {Blob : Type} {repo : Repository Blob}

/-- A live room as the repository stores it: a public state under its own key that
has not expired, none of whose accounts is indexed to another room. -/
structure Projects (repo : Repository Blob) (store : Store Blob) (state : RoomState) : Prop where
  stored : ∃ deadline, store.rooms state.room.publicId = some ⟨repo.encode state, deadline⟩
  sanitized : state.sanitized = state
  live : store.clock < state.expiresAt.millis
  indexed : ∀ account ∈ accountsOf state.slots, ∀ entry,
    store.accounts (toString account) = some entry → entry.value = ownerOf state

abbrev runAlone (repo : Repository Blob) (method : Method Blob Value) (store : Store Blob) :
    Except Failure Value × Store Blob :=
  method.run (execute repo.lua) store

section

variable (lua : Lua Blob) (store : Store Blob)

theorem run_now : (Method.now : Method Blob Int).run (execute lua) store = (.ok store.clock, store) := rfl

theorem run_getRoom (publicId : Nat) : (Method.getRoom publicId : Method Blob (Option Blob)).run
    (execute lua) store = (.ok ((store.rooms publicId).map (·.value)), store) := rfl

theorem run_cas (call : CasCall Blob) :
    (Method.cas call).run (execute lua) store = (.ok (cas lua store call).1, (cas lua store call).2) := rfl

end

theorem run_decodeRoom (projects : Projects repo store state) :
    runAlone repo (repo.decodeRoom ((store.rooms state.room.publicId).map (·.value))) store =
      (.ok (some state), store) := by
  obtain ⟨deadline, stored⟩ := projects.stored
  rw [stored]
  simp only [runAlone, decodeRoom, Option.map_some, repo.decode_encode, projects.sanitized]
  rfl

theorem run_get (projects : Projects repo store state) :
    runAlone repo (repo.get state.room.publicId store.clock) store = (.ok (some state), store) := by
  have later : ¬ state.expiresAt.millis ≤ store.clock := by
    have live := projects.live
    omega
  rw [runAlone, Repository.get, run_bind_ok (run_getRoom _ _ _), run_bind_ok (run_decodeRoom projects)]
  simp only [ne_eq, not_true_eq_false, ↓reduceIte, later]
  rfl

theorem run_mutate_error {failure : Failure} (mutation : Mutation) (attempts : Nat)
    (projects : Projects repo store state)
    (raised : mutation.apply repo.ttl store.clock state = .error failure) :
    runAlone repo (repo.mutate state.room.publicId mutation (attempts + 1)) store =
    (.error failure, store) := by
  rw [runAlone, mutate, run_bind_ok (run_now _ _), run_bind_ok (run_get projects)]
  simp only
  rw [run_bind_ok (run_now _ _), raised]
  rfl

theorem run_write (accepted : cas repo.lua store (repo.casCall state expected session previous) =
      (.ok (), after)) :
    (repo.write state expected session previous).run (execute repo.lua) store =
      (.ok state.sanitized, after) := by
  rw [write, run_bind_ok (run_cas _ _ _), accepted]
  simp only [repo.decode_encode]
  rfl

theorem run_mutate_ok (mutation : Mutation) (attempts : Nat) (projects : Projects repo store state)
    (built : mutation.apply repo.ttl store.clock state = .ok updated)
    (accepted : cas repo.lua store (repo.casCall updated state.stateRevision
      (some state.room.sessionId) (accountKeys state)) = (.ok (), after)) :
    runAlone repo (repo.mutate state.room.publicId mutation (attempts + 1)) store =
      (.ok updated.sanitized, after) := by
  have wrote : (repo.write updated state.stateRevision (some state.room.sessionId)
    (accountKeys state)).attempt.run (execute repo.lua) store = (.ok (.ok updated.sanitized), after) := by
    rw [run_attempt, run_write accepted]
  rw [runAlone, mutate, run_bind_ok (run_now _ _), run_bind_ok (run_get projects)]
  simp only
  rw [run_bind_ok (run_now _ _), built]
  exact run_bind_ok wrote

/-- A leave with a record that stays behind is one edit. -/
theorem run_leaveRoom (projects : Projects repo store state)
    (edited : runAlone repo (repo.mutate state.room.publicId (.leave account record) repo.casAttempts)
      store = result) :
    runAlone repo (repo.leaveRoom state.room.publicId account (some record)) store =
      (result.1.map some, result.2) := by
  rw [runAlone, leaveRoom, run_bind_ok (run_now _ _), run_bind_ok (run_get projects)]
  simp only
  obtain ⟨outcome, after⟩ := result
  cases outcome with
  | ok value => exact run_bind_ok edited
  | error failure => exact run_bind_error edited

/-- The script accepts the state that an occupant's leave builds. -/
theorem cas_leave (projects : Projects repo store state) (left : LeftBy state account record)
    (room : updated.room = publicRoom record)
    (accounts : accountsOf updated.slots = (accountsOf state.slots).filter (· ≠ account)) :
    ∃ after, cas repo.lua store (repo.casCall updated state.stateRevision (some state.room.sessionId)
        (accountKeys state)) = (.ok (), after) ∧
      after.rooms state.room.publicId = some ⟨repo.encode updated.sanitized, updated.expiresAt.millis⟩ := by
  obtain ⟨deadline, stored⟩ := projects.stored
  have samePublic : updated.room.publicId = state.room.publicId := by rw [room]; exact left.publicId
  have sameSession : updated.room.sessionId = state.room.sessionId := by rw [room]; exact left.session
  have sameEpoch : updated.room.publicIdEpoch = state.room.publicIdEpoch := by rw [room]; exact left.epoch
  have sameOwner : ownerOf updated =
    ownerOf state := by rw [ownerOf, samePublic, sameEpoch, sameSession, ownerOf]
  refine ⟨_, cas_current (by simpa [casCall, samePublic] using stored) (repo.header_encode state)
    (by simp [casCall, headerOf, sameEpoch]) ?_ ?_ rfl (by simp [casCall, sameSession]) rfl ?_, ?_⟩
  · have positive := updated.room.positive.2.2.2
    simp only [casCall]
    omega
  · simp only [casCall]
    omega
  · intro key member entry found
    simp only [casCall, accountKeys, accounts, List.mem_map] at member
    obtain ⟨other, remaining, rfl⟩ := member
    exact (projects.indexed other (mem_remaining.mp remaining).1 entry found).trans sameOwner.symm
  · simp [casCall, samePublic]

/-- What a leave is to do: succeed and store a state in which the leaver has no slot
and no part in the round, everyone else sits as before, and the host is the record's. -/
def LeavesCleanly (repo : Repository Blob) (store : Store Blob) (state : RoomState) (account : Nat)
    (record : RoomRecord) : Prop :=
  ∃ left after entry,
    runAlone repo (repo.leaveRoom state.room.publicId account (some record)) store =
    (.ok (some left), after) ∧ after.rooms state.room.publicId = some entry ∧
    repo.decode entry.value = .ok left ∧ account ∉ accountsOf left.slots ∧
    account ∉ left.roundParticipantAccountIds ∧
    (∀ slot ∈ state.slots, slot.accountId.isSome → slot.accountId ≠ some account →
      slot ∈ left.slots) ∧ left.room.hostAccountId = record.hostAccountId

/-- A leave of a round participant raises and stores nothing. -/
theorem leaveRoom_participant (projects : Projects repo store state) (left : LeftBy state account record)
    (participant : account ∈ state.roundParticipantAccountIds) :
    runAlone repo (repo.leaveRoom state.room.publicId account (some record)) store =
      (.error (.valueError "round participants must occupy the room projection"), store) := by
  obtain ⟨attempts, counted⟩ := Nat.exists_eq_add_of_le' repo.attempted.1
  have edited := run_mutate_error (.leave account record) attempts projects
    (leave_participant left participant)
  exact run_leaveRoom projects (counted ▸ edited)

/-- A leave does what it is to do exactly when the leaver plays no round. -/
theorem leaveRoom_cleanly_iff (repo : Repository Blob) (store : Store Blob) (state : RoomState)
    (account : Nat) (record : RoomRecord) (projects : Projects repo store state)
    (occupant : account ∈ accountsOf state.slots) (left : LeftBy state account record) :
    LeavesCleanly repo store state account record ↔ account ∉ state.roundParticipantAccountIds := by
  constructor
  · rintro ⟨_, _, _, ran, _⟩ participant
    rw [leaveRoom_participant projects left participant] at ran
    cases ran
  · intro idle
    obtain ⟨updated, built, room, _, accounts, participants, kept⟩ := leave_ok occupant left idle
    obtain ⟨after, accepted, stored⟩ := cas_leave projects left room accounts
    obtain ⟨attempts, counted⟩ := Nat.exists_eq_add_of_le' repo.attempted.1
    have edited := run_mutate_ok (.leave account record) attempts projects built accepted
    refine ⟨updated.sanitized, after, _, run_leaveRoom projects (counted ▸ edited), stored, ?_, ?_,
      ?_, ?_, ?_⟩
    · exact repo.decode_encode updated.sanitized
    · intro still
      rw [show accountsOf updated.sanitized.slots = _ from accounts] at still
      exact (mem_remaining.mp still).2 rfl
    · rw [show updated.sanitized.roundParticipantAccountIds = _ from participants]
      exact idle
    · exact fun slot member _ other => kept slot member other
    · rw [show updated.sanitized.room.hostAccountId = updated.room.hostAccountId from rfl, room]
      rfl

theorem storeOf_projects (sanitized : state.sanitized = state) (live : 0 < state.expiresAt.millis) :
    Projects plainRepo (storeOf state) state := by
  refine ⟨⟨state.expiresAt.millis, by simp [storeOf, plainRepo]⟩, sanitized, live, ?_⟩
  intro account member entry found
  have listed : toString account ∈ accountKeys state := List.mem_map_of_mem member
  simp only [storeOf, listed, ↓reduceIte, Option.some.injEq] at found
  rw [← found]

theorem sampleRoom_left : LeftBy playingState 2 sampleRoom ∧ LeftBy idleState 2 sampleRoom :=
  ⟨⟨rfl, rfl, rfl, rfl, by decide, by decide⟩, ⟨rfl, rfl, rfl, rfl, by decide, by decide⟩⟩

/-- The guest of the sample room cannot leave its projection during the round. -/
theorem leaveRoom_raises_for_participant :
    Projects plainRepo (storeOf playingState) playingState ∧ 2 ∈ accountsOf playingState.slots ∧
      LeftBy playingState 2 sampleRoom ∧
      runAlone plainRepo (plainRepo.leaveRoom 5 2 (some sampleRoom)) (storeOf playingState) =
        (.error (.valueError "round participants must occupy the room projection"),
          storeOf playingState) := by
  have projects : Projects plainRepo (storeOf playingState) playingState := storeOf_projects rfl (by decide)
  exact ⟨projects, by decide, sampleRoom_left.1, leaveRoom_participant projects sampleRoom_left.1 (by decide)⟩

theorem leaveRoom_cleanly_iff_samples : LeavesCleanly plainRepo (storeOf idleState) idleState 2
    sampleRoom ∧ ¬ LeavesCleanly plainRepo (storeOf playingState) playingState 2 sampleRoom := by
  constructor
  · apply (leaveRoom_cleanly_iff plainRepo (storeOf idleState) idleState 2 sampleRoom
      (storeOf_projects rfl (by decide)) (by decide) sampleRoom_left.2).mpr
    decide
  · intro cleanly
    have idle := (leaveRoom_cleanly_iff plainRepo (storeOf playingState) playingState 2 sampleRoom
      (storeOf_projects rfl (by decide)) (by decide) sampleRoom_left.1).mp cleanly
    exact idle (by decide)

end Perfcho.Redis
