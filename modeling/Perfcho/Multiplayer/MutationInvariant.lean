import Perfcho.Foundation.Action
import Perfcho.Multiplayer.Projection

/-! What every edit of a projected room has in common. An edit moves the state to
its next revision, except a join of an account that is seated and a leave of one
that is not: these only put another record in place. -/

namespace Perfcho.Multiplayer

open Foundation RoomState

variable {room : RoomRecord} {slots : List RoomSlot} {expiresAt : Datetime} {state : RoomState}

theorem RoomState.new_eq_ok {inProgress : Bool} {roundId : Option Uuid}
    (built : new room revision slots inProgress expiresAt roundId frozen status = .ok state) :
    state.room = room ∧ state.stateRevision = revision ∧ state.slots = slots ∧ state.inProgress = inProgress ∧
      state.expiresAt = expiresAt ∧ state.roundId = roundId ∧
      state.roundParticipantAccountIds = frozen ∧ state.projectionStatus = status := by
  unfold new at built
  -- One check after another: a failed one has raised.
  iterate 8
    split at built
    case isFalse => cases built
  cases built
  exact ⟨rfl, rfl, rfl, rfl, rfl, rfl, rfl, rfl⟩

theorem RoomState.replaced_eq_ok (built : state.replaced room revision slots expiresAt = .ok updated) :
    updated.room = room ∧ updated.stateRevision = revision ∧ updated.slots = slots ∧
      updated.expiresAt = expiresAt ∧ updated.roundId = state.roundId ∧
      updated.roundParticipantAccountIds = state.roundParticipantAccountIds := by
  obtain ⟨room, revision, slots, _, expiresAt, round, frozen, _⟩ := new_eq_ok built
  exact ⟨room, revision, slots, expiresAt, round, frozen⟩

theorem RoomState.replaced_same
    (built : state.replaced state.room state.stateRevision state.slots state.expiresAt = .ok
      updated) : updated = state := by
  have kept : state.replaced state.room state.stateRevision state.slots state.expiresAt = .ok state :=
    new_ok state.coherent
  exact Except.ok.inj (built.symm.trans kept)

/-- The record an edit puts in place without a new revision. -/
def Mutation.resends (state : RoomState) : Mutation → Option RoomRecord
  | .join room account _ => if (state.slotFor account).isSome then some room else none
  | .leave account durableRoom => if (state.slotFor account).isNone then some durableRoom else none
  | _ => none

def Mutation.record : Mutation → Option RoomRecord
  | .join room _ _ => some room
  | .leave _ durableRoom => some durableRoom
  | _ => none

theorem withSlots_eq_ok (built : state.withSlots slots = .ok updated) :
    updated.room = state.room ∧ updated.stateRevision = state.stateRevision + 1 := by
  obtain ⟨room, revision, _⟩ := replaced_eq_ok built
  exact ⟨room, revision⟩

theorem updateSlot_eq_ok (ran : updateSlot account update state = .ok updated) :
    updated.room = state.room ∧ updated.stateRevision = state.stateRevision + 1 := by
  unfold updateSlot at ran
  split at ran
  · cases ran
  · obtain ⟨_, _, built⟩ := of_bind_eq_ok ran
    exact withSlots_eq_ok built

theorem moveSlot_eq_ok (ran : moveSlot account targetPosition state = .ok updated) :
    updated.room = state.room ∧ updated.stateRevision = state.stateRevision + 1 := by
  unfold moveSlot at ran
  split at ran
  · cases ran
  split at ran
  · cases ran
  split at ran
  · cases ran
  obtain ⟨_, _, built⟩ := of_bind_eq_ok ran
  exact withSlots_eq_ok built

theorem lockSlot_eq_ok (ran : lockSlot actor position state = .ok updated) :
    updated.room = state.room ∧ updated.stateRevision = state.stateRevision + 1 := by
  unfold lockSlot at ran
  split at ran
  · cases ran
  split at ran
  · cases ran
  split at ran
  · cases ran
  obtain ⟨_, _, built⟩ := of_bind_eq_ok ran
  exact withSlots_eq_ok built

/-- The record is put in place at the next revision, or as the only change. -/
def Brings (resends : Prop) (record : RoomRecord) (state updated : RoomState) : Prop :=
  updated.room = publicRoom record ∧ (updated.stateRevision = state.stateRevision + 1 ∨
    resends ∧ state.replaced (publicRoom record) state.stateRevision state.slots state.expiresAt =
    .ok updated)

theorem join_eq_ok (ran : join ttl now record account expiresAt state = .ok updated) :
    Brings ((state.slotFor account).isSome = true) record state updated := by
  unfold join at ran
  split at ran
  · rename_i slot seat
    exact ⟨(replaced_eq_ok ran).1, .inr ⟨by simp [seat], ran⟩⟩
  · split at ran
    · cases ran
    · obtain ⟨slots, _, built⟩ := of_bind_eq_ok ran
      obtain ⟨room, revision, _⟩ := replaced_eq_ok built
      exact ⟨room, .inl revision⟩

theorem leave_eq_ok (ran : leave account record state = .ok updated) :
    Brings ((state.slotFor account).isNone = true) record state updated := by
  unfold leave at ran
  split at ran
  · rename_i seat
    exact ⟨(replaced_eq_ok ran).1, .inr ⟨by simp [seat], ran⟩⟩
  · obtain ⟨slots, _, built⟩ := of_bind_eq_ok ran
    obtain ⟨room, revision, _⟩ := replaced_eq_ok built
    exact ⟨room, .inl revision⟩

/-- An edit keeps the record or brings its own, and moves to the next revision
unless it only resends a record. -/
theorem Mutation.apply_eq_ok {mutation : Mutation} (ran : mutation.apply ttl now state = .ok updated) :
    (updated.room = state.room ∨ ∃ record, mutation.record = some record ∧ updated.room = publicRoom record) ∧
    (updated.stateRevision = state.stateRevision + 1 ∨ ∃ record, mutation.resends state = some record ∧
        state.replaced (publicRoom record) state.stateRevision state.slots state.expiresAt =
        .ok updated) := by
  cases mutation with
  | join record account expiresAt =>
    obtain ⟨room, next | ⟨seated, resent⟩⟩ := join_eq_ok ran
    · exact ⟨.inr ⟨record, rfl, room⟩, .inl next⟩
    · exact ⟨.inr ⟨record, rfl, room⟩, .inr ⟨record, by simp [Mutation.resends, seated], resent⟩⟩
  | leave account record =>
    obtain ⟨room, next | ⟨missing, resent⟩⟩ := leave_eq_ok ran
    · exact ⟨.inr ⟨record, rfl, room⟩, .inl next⟩
    · exact ⟨.inr ⟨record, rfl, room⟩,
        .inr ⟨record, by simp only [Mutation.resends, missing, ↓reduceIte], resent⟩⟩
  | moveSlot => exact ⟨.inl (moveSlot_eq_ok ran).1, .inl (moveSlot_eq_ok ran).2⟩
  | lockSlot => exact ⟨.inl (lockSlot_eq_ok ran).1, .inl (lockSlot_eq_ok ran).2⟩
  | setSlotStatus | setSlotTeam | setSlotMods | markLoaded | markSkipped | markFailed =>
    exact ⟨.inl (updateSlot_eq_ok ran).1, .inl (updateSlot_eq_ok ran).2⟩

end Perfcho.Multiplayer
