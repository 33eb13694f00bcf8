import Perfcho.Multiplayer.Models

/-! The edits of a projected room. Each reads one state and builds the next, or
raises; every `replace` of the source checks its fields again. -/

namespace Perfcho.Multiplayer

open Foundation Scoring RoomSlot

theorem unproved_paired : (none : Option String).isNone = (none : Option String).isNone := rfl

/-- `_public_room`: the record without its password proof. -/
def publicRoom (room : RoomRecord) : RoomRecord :=
  { room with passwordSalt := none, passwordVerifier := none, paired := unproved_paired, marked := by simp }

/-- What is stored of a state: no password proof, and a live status. -/
def RoomState.sanitized (state : RoomState) : RoomState :=
  { state with room := publicRoom state.room, projectionStatus := .live }

@[simp] theorem RoomState.sanitized_sanitized (state : RoomState) :
    state.sanitized.sanitized = state.sanitized := rfl

/-- `replace` of a state's record, revision, slots and expiry. -/
def RoomState.replaced (state : RoomState) (room : RoomRecord) (revision : Nat)
    (slots : List RoomSlot) (expiresAt : Datetime) : Except Failure RoomState :=
  RoomState.new room revision slots state.inProgress expiresAt state.roundId
    state.roundParticipantAccountIds state.projectionStatus

/-- `replace` of a state's slots at its next revision. -/
def RoomState.withSlots (state : RoomState) (slots : List RoomSlot) : Except Failure RoomState :=
  state.replaced state.room (state.stateRevision + 1) slots state.expiresAt

/-- `min(expires_at, datetime.now(expires_at.tzinfo) + self._ttl)` -/
def boundedExpiry (now ttl : Int) : Datetime → Datetime
  | .aware instant => .aware (min instant (now + ttl))
  | .naive clock => .naive (min clock (now + ttl))

def join (ttl now : Int) (room : RoomRecord) (account : Nat) (expiresAt : Datetime)
    (current : RoomState) : Except Failure RoomState :=
  match current.slotFor account with
  | some _ => current.replaced (publicRoom room) current.stateRevision current.slots current.expiresAt
  | none =>
    match current.slots.find? (·.status = .open) with
    | none => .error (.matchFull "room has no open slots")
    | some target => do
      let slots ← current.slots.mapM fun slot =>
        if slot.position = target.position then new slot.position .notReady (some account) else .ok slot
      current.replaced (publicRoom room) (current.stateRevision + 1) slots (boundedExpiry now ttl expiresAt)

/-- The slot a leave puts in the place of another. -/
def vacated (account : Nat) (slot : RoomSlot) : Except Failure RoomSlot :=
  if slot.accountId = some account then new slot.position .open else .ok slot

def leave (account : Nat) (durableRoom : RoomRecord) (state : RoomState) : Except Failure RoomState :=
  match state.slotFor account with
  | none => state.replaced (publicRoom durableRoom) state.stateRevision state.slots state.expiresAt
  | some _ => do
    let slots ← state.slots.mapM (vacated account)
    state.replaced (publicRoom durableRoom) (state.stateRevision + 1) slots state.expiresAt

def moveSlot (account : Nat) (targetPosition : Int) (state : RoomState) : Except Failure RoomState :=
  match state.slotFor account with
  | none => .error (.matchNotFound "account does not occupy the room")
  | some source =>
    match if 0 ≤ targetPosition then state.slots[targetPosition.toNat]? else none with
    | none => .error (.matchStateRejected "target slot is outside the room")
    | some target =>
      if target.status ≠ .open then .error (.matchStateRejected "target slot is not open")
      else do
        let slots ← state.slots.mapM fun slot =>
          if slot.position = targetPosition.toNat then
            new targetPosition.toNat source.status source.accountId source.team source.mods
              source.loaded source.skipped source.failed
          else if slot.position = source.position then new source.position .open
          else .ok slot
        state.withSlots (slots.mergeSort fun first second => first.position ≤ second.position)

/-- `replace(slot, status=status)` -/
def RoomSlot.withStatus (slot : RoomSlot) (status : SlotStatus) : Except Failure RoomSlot :=
  new slot.position status slot.accountId slot.team slot.mods slot.loaded slot.skipped slot.failed

def lockSlot (actor : Nat) (position : Int) (state : RoomState) : Except Failure RoomState :=
  if state.room.hostAccountId ≠ actor then .error (.matchPermissionDenied "only the host can lock slots")
  else
    match if 0 ≤ position then state.slots[position.toNat]? else none with
    | none => .error (.matchStateRejected "slot is outside the room")
    | some slot =>
      if slot.accountId.isSome then
        .error (.matchStateRejected "occupied slots require a durable kick command")
      else do
        let toggled ← slot.withStatus (if slot.status = .open then .locked else .open)
        state.withSlots (state.slots.map fun item => if item.position = position.toNat then toggled else item)

/-- `_update_slot`: change the slot of one account. -/
def updateSlot (account : Nat) (update : RoomSlot → Except Failure RoomSlot) (state : RoomState) :
    Except Failure RoomState :=
  match state.slotFor account with
  | none => .error (.matchNotFound "account does not occupy the room")
  | some current => do
    let replacement ← update current
    state.withSlots (state.slots.map fun slot => if slot.position = current.position then
      replacement else slot)

/-- A mark that only a playing participant gets. -/
def whilePlaying (update : RoomSlot → Except Failure RoomSlot) (slot : RoomSlot) : Except Failure RoomSlot :=
  if slot.status = .playing then update slot
  else .error (.matchStateRejected "participant is not currently playing")

def setSlotStatus (account : Nat) (status : SlotStatus) : RoomState → Except Failure RoomState :=
  updateSlot account (·.withStatus status)

def setSlotTeam (account team : Nat) : RoomState → Except Failure RoomState :=
  updateSlot account fun slot =>
    new slot.position slot.status slot.accountId team slot.mods slot.loaded slot.skipped slot.failed

def setSlotMods (account : Nat) (mods : List CanonicalMod) : RoomState → Except Failure RoomState :=
  updateSlot account fun slot =>
    new slot.position slot.status slot.accountId slot.team mods slot.loaded slot.skipped slot.failed

def markLoaded (account : Nat) : RoomState → Except Failure RoomState :=
  updateSlot account <| whilePlaying fun slot =>
    new slot.position slot.status slot.accountId slot.team slot.mods true slot.skipped slot.failed

def markSkipped (account : Nat) : RoomState → Except Failure RoomState :=
  updateSlot account <| whilePlaying fun slot =>
    new slot.position slot.status slot.accountId slot.team slot.mods slot.loaded true slot.failed

/-- A failed participant has also completed the round. -/
def markFailed (account : Nat) : RoomState → Except Failure RoomState :=
  updateSlot account <| whilePlaying fun slot =>
    new slot.position .complete slot.accountId slot.team slot.mods slot.loaded slot.skipped true

/-- The edits that go through `_mutate`. -/
inductive Mutation where
  | join (room : RoomRecord) (account : Nat) (expiresAt : Datetime)
  | leave (account : Nat) (durableRoom : RoomRecord)
  | moveSlot (account : Nat) (targetPosition : Int)
  | lockSlot (actor : Nat) (position : Int)
  | setSlotStatus (account : Nat) (status : SlotStatus)
  | setSlotTeam (account team : Nat)
  | setSlotMods (account : Nat) (mods : List CanonicalMod)
  | markLoaded (account : Nat)
  | markSkipped (account : Nat)
  | markFailed (account : Nat)

/-- What an edit makes of a state; a join also reads the clock. -/
def Mutation.apply (ttl now : Int) : Mutation → RoomState → Except Failure RoomState
  | .join room account expiresAt => Multiplayer.join ttl now room account expiresAt
  | .leave account durableRoom => Multiplayer.leave account durableRoom
  | .moveSlot account targetPosition => Multiplayer.moveSlot account targetPosition
  | .lockSlot actor position => Multiplayer.lockSlot actor position
  | .setSlotStatus account status => Multiplayer.setSlotStatus account status
  | .setSlotTeam account team => Multiplayer.setSlotTeam account team
  | .setSlotMods account mods => Multiplayer.setSlotMods account mods
  | .markLoaded account => Multiplayer.markLoaded account
  | .markSkipped account => Multiplayer.markSkipped account
  | .markFailed account => Multiplayer.markFailed account

end Perfcho.Multiplayer
