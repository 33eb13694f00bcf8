import Perfcho.Foundation.Action
import Perfcho.Multiplayer.Projection

/-! What a leave does to a projected room. It empties the leaver's slot and keeps
the frozen round participants, so it fails exactly for a participant of the round. -/

namespace Perfcho.Multiplayer

open Foundation RoomState

/-- A slot after its account may have left. -/
structure Vacates (account : Nat) (before after : RoomSlot) : Prop where
  position : after.position = before.position
  emptied : before.accountId = some account → after.accountId = none
  kept : before.accountId ≠ some account → after = before

theorem vacated_ok (account : Nat) (slot : RoomSlot) :
    ∃ after, vacated account slot = .ok after ∧ Vacates account slot after := by
  unfold vacated
  by_cases here : slot.accountId = some account
  · obtain ⟨after, built, placed, empty⟩ := RoomSlot.new_open slot.inside
    exact ⟨after, by rw [if_pos here, built], placed, fun _ => empty, fun other => absurd here other⟩
  · exact ⟨slot, by rw [if_neg here], rfl, fun named => absurd named here, fun _ => rfl⟩

theorem accountsOf_vacates (vacates : List.Forall₂ (Vacates account) before after) :
    accountsOf after = (accountsOf before).filter (· ≠ account) := by
  induction vacates with
  | nil => rfl
  | @cons first second before after vacate _ ih =>
    simp only [accountsOf] at ih
    cases named : first.accountId with
    | none =>
      have same := vacate.kept (by simp [named])
      simp [accountsOf, same, named, ih]
    | some other =>
      by_cases leaver : other = account
      · subst leaver
        simp [accountsOf, vacate.emptied named, named, ih]
      · have same := vacate.kept (by simpa [named] using leaver)
        simp [accountsOf, same, named, leaver, ih]

/-- The record that a leave leaves behind: the same room and session, hosted by an
account that stays. -/
structure LeftBy (state : RoomState) (account : Nat) (record : RoomRecord) : Prop where
  publicId : record.publicId = state.room.publicId
  session : record.sessionId = state.room.sessionId
  epoch : record.publicIdEpoch = state.room.publicIdEpoch
  capacity : record.capacity = state.room.capacity
  hosted : record.hostAccountId ∈ accountsOf state.slots
  stays : record.hostAccountId ≠ account

theorem slotFor_isSome {state : RoomState} (occupant : account ∈ accountsOf state.slots) :
    ∃ slot, state.slotFor account = some slot := by
  obtain ⟨slot, member, named⟩ := List.mem_filterMap.mp occupant
  cases found : state.slotFor account with
  | some slot => exact ⟨slot, rfl⟩
  | none =>
    have missing := List.find?_eq_none.mp found slot member
    simp [named] at missing

/-- An occupant's leave comes down to building a state over the emptied slots. -/
theorem leave_eq (occupant : account ∈ accountsOf state.slots)
    (capacity : record.capacity = state.room.capacity) :
    ∃ slots, leave account record state =
        state.replaced (publicRoom record) (state.stateRevision + 1) slots state.expiresAt ∧
      slots.map (·.position) = List.range (publicRoom record).capacity ∧
      accountsOf slots = (accountsOf state.slots).filter (· ≠ account) ∧
      ∀ slot ∈ state.slots, slot.accountId ≠ some account → slot ∈ slots := by
  obtain ⟨slots, emptied, vacates⟩ := mapM_related fun slot (_ : slot ∈ state.slots) =>
    vacated_ok account slot
  obtain ⟨slot, found⟩ := slotFor_isSome occupant
  refine ⟨slots, ?_, ?_, accountsOf_vacates vacates, ?_⟩
  · simp only [leave, found, emptied, ok_bind]
  · have positions : state.slots.map (·.position) = slots.map (·.position) :=
      map_eq_of_related (vacates.imp fun _ _ vacate => vacate.position.symm)
    rw [← positions, state.ordered, ← capacity]
    rfl
  · intro slot member other
    obtain ⟨after, inside, vacate⟩ := exists_related vacates member
    exact vacate.kept other ▸ inside

theorem mem_remaining {accounts : List Nat} :
    other ∈ accounts.filter (· ≠ account) ↔ other ∈ accounts ∧ other ≠ account := by simp

theorem leave_ok (occupant : account ∈ accountsOf state.slots) (left : LeftBy state account record)
    (idle : account ∉ state.roundParticipantAccountIds) :
    ∃ after, leave account record state = .ok after ∧ after.room = publicRoom record ∧
      after.expiresAt = state.expiresAt ∧ accountsOf after.slots = (accountsOf state.slots).filter
      (· ≠ account) ∧ after.roundParticipantAccountIds = state.roundParticipantAccountIds ∧
      ∀ slot ∈ state.slots, slot.accountId ≠ some account → slot ∈ after.slots := by
  obtain ⟨slots, built, ordered, accounts, kept⟩ := leave_eq occupant left.capacity
  have coherent : Coherent (publicRoom record) slots state.inProgress state.expiresAt state.roundId
      state.roundParticipantAccountIds := {
    ordered
    distinct := accounts ▸ state.distinct.filter _
    hosted := accounts ▸ mem_remaining.mpr ⟨left.hosted, left.stays⟩
    participants := state.participants
    progress := state.progress
    seated := fun other member => accounts ▸ mem_remaining.mpr
      ⟨state.seated other member, fun same => idle (same ▸ member)⟩
    timed := state.timed }
  exact ⟨coherent.state (state.stateRevision + 1) state.projectionStatus,
    built.trans (new_ok coherent), rfl, rfl, accounts, rfl, kept⟩

/-- The leave of a round participant raises, because the participant stays frozen. -/
theorem leave_participant (left : LeftBy state account record)
    (participant : account ∈ state.roundParticipantAccountIds) :
    leave account record state = .error
    (.valueError "round participants must occupy the room projection") := by
  obtain ⟨slots, built, ordered, accounts, _⟩ := leave_eq (state.seated account participant) left.capacity
  have hosted : (publicRoom record).hostAccountId ∈ accountsOf slots :=
    accounts ▸ mem_remaining.mpr ⟨left.hosted, left.stays⟩
  rw [built, replaced]
  apply new_unseated ordered (accounts ▸ state.distinct.filter _) hosted state.participants state.progress
  intro seated
  have still := seated account participant
  rw [accounts] at still
  exact (mem_remaining.mp still).2 rfl

/-- A leave that would leave the room without its host raises. -/
theorem leave_unhosted (occupant : account ∈ accountsOf state.slots)
    (capacity : record.capacity = state.room.capacity)
    (unhosted : record.hostAccountId ∉ (accountsOf state.slots).filter (· ≠ account)) :
    leave account record state = .error (.valueError "the room host must occupy a slot") := by
  obtain ⟨slots, built, ordered, accounts, _⟩ := leave_eq occupant capacity
  rw [built, replaced]
  exact new_unhosted ordered (accounts ▸ state.distinct.filter _) (accounts ▸ unhosted)

end Perfcho.Multiplayer
