import Perfcho.Foundation.Program
import Perfcho.Multiplayer.Projection
import Perfcho.Redis.Scripts

/-! The projection repository as programs over the store. Each method reads and
writes Redis in separate calls, so other processes run in between them. -/

namespace Perfcho.Redis

open Foundation Multiplayer
open Program (ask ofExcept)

/-- The calls that the repository makes. Each of them is atomic. -/
inductive Command (Blob : Type) where
  | now
  | getRoom (publicId : Nat)
  | getRooms (publicIds : List Nat)
  | getAccount (account : String)
  | deleteAccount (account : String)
  | listIndex (since : Int) (limit : Nat)
  | dropIndex (publicId : Nat)
  | cas (call : CasCall Blob)
  | remove (call : RemoveCall)

def Answer {Blob : Type} : Command Blob → Type
  | .now => Int
  | .getRoom _ => Option Blob
  | .getRooms _ => List (Option Blob)
  | .getAccount _ => Option String
  | .deleteAccount _ => Unit
  | .listIndex _ _ => List Nat
  | .dropIndex _ => Unit
  | .cas _ => Status
  | .remove _ => Status

section

variable {Blob : Type}

def execute (lua : Lua Blob) : (command : Command Blob) → Store Blob → Answer command × Store Blob
  | .now, store => (store.clock, store)
  | .getRoom publicId, store => ((store.rooms publicId).map (·.value), store)
  | .getRooms publicIds, store => (publicIds.map fun publicId => (store.rooms publicId).map (·.value), store)
  | .getAccount account, store => ((store.accounts account).map (·.value), store)
  | .deleteAccount account, store =>
    ((), { store with accounts := Function.update store.accounts account none })
  | .listIndex since limit, store =>
    let live := store.index.filter (since < ·.2)
    let ordered := live.mergeSort fun first second => first.2 ≤ second.2
    ((ordered.take limit).map (·.1), { store with index := live })
  | .dropIndex publicId, store => ((), { store with index := store.index.filter (·.1 ≠ publicId) })
  | .cas call, store => cas lua store call
  | .remove call, store => remove lua store call

/-- `_owner` -/
def owner (publicId publicIdEpoch : Nat) (sessionId : Uuid) : String :=
  toString publicId ++ "|" ++ toString publicIdEpoch ++ "|" ++ sessionId.text

def ownerOf (state : RoomState) : String :=
  owner state.room.publicId state.room.publicIdEpoch state.room.sessionId

def accountKeys (state : RoomState) : List String := (accountsOf state.slots).map toString

/-- The fields of a stored state that the scripts read. -/
def headerOf (state : RoomState) : Header where
  sessionId := state.room.sessionId.text
  publicId := state.room.publicId
  publicIdEpoch := some state.room.publicIdEpoch
  stateRevision := some state.stateRevision
  slots := state.slots.map fun slot => slot.accountId.map Int.ofNat

/-- Limits of the repository and the codecs it stores states with. What is decoded
is what was encoded, without password proof and with a live status; the scripts read
the same fields from it, numbers being below 2^53, where theirs are exact. -/
structure Repository (Blob : Type) where
  ttl : Int
  maxRooms : Nat
  casAttempts : Nat
  lua : Lua Blob
  encode : RoomState → Blob
  decode : Blob → Except Failure RoomState
  lasting : 0 < ttl
  roomy : 1 ≤ maxRooms ∧ maxRooms ≤ 2147483647
  attempted : 1 ≤ casAttempts ∧ casAttempts ≤ 32
  decode_encode : ∀ state, decode (encode state) = .ok state.sanitized
  header_encode : ∀ state, lua.decode (encode state) = some (headerOf state)

abbrev Method (Blob : Type) := Program (Command Blob) Answer Failure

namespace Method

def now : Method Blob Int := ask Command.now

def getRoom (publicId : Nat) : Method Blob (Option Blob) := ask (Command.getRoom publicId)

def getRooms (publicIds : List Nat) : Method Blob (List (Option Blob)) := ask (Command.getRooms publicIds)

def getAccount (account : String) : Method Blob (Option String) := ask (Command.getAccount account)

def deleteAccount (account : String) : Method Blob Unit := ask (Command.deleteAccount account)

def listIndex (since : Int) (limit : Nat) : Method Blob (List Nat) := ask (Command.listIndex since limit)

def dropIndex (publicId : Nat) : Method Blob Unit := ask (Command.dropIndex publicId)

def cas (call : CasCall Blob) : Method Blob Status := ask (Command.cas call)

def remove (call : RemoveCall) : Method Blob Status := ask (Command.remove call)

end Method

end

namespace Repository

variable {Blob : Type} (repo : Repository Blob)

/-- The arguments of a write. `none` stands for the absent expected session, which
falls back to the session of the state. -/
def casCall (state : RoomState) (expected : Int) (expectedSession : Option Uuid)
    (previousAccounts : List String) : CasCall Blob where
  room := state.room.publicId
  oldAccounts := previousAccounts
  newAccounts := accountKeys state
  expected := expected
  expectedSession := (expectedSession.getD state.room.sessionId).text
  incomingSession := state.room.sessionId.text
  incomingEpoch := state.room.publicIdEpoch
  payload := repo.encode state.sanitized
  deadline := state.expiresAt.millis
  owner := ownerOf state
  publicId := state.room.publicId

/-- What a refused script call raises. -/
def casFailure : Refusal → Failure
  | .exists | .fenced | .epochFenced => .matchConcurrencyConflict "room state revision changed"
  | .notFound => .matchNotFound "room has no live projection"
  | .accountConflict => .matchAlreadyJoined "an account already occupies another room"
  | .invalidEpoch => .runtimeError "unexpected multiplayer CAS status: INVALID_EPOCH"
  | .scriptError => .responseError

def removeFailure : Refusal → Failure
  | .fenced | .epochFenced => .matchConcurrencyConflict "room state revision changed"
  | .exists => .runtimeError "unexpected multiplayer remove status: EXISTS"
  | .notFound => .runtimeError "unexpected multiplayer remove status: NOT_FOUND"
  | .accountConflict => .runtimeError "unexpected multiplayer remove status: ACCOUNT_CONFLICT"
  | .invalidEpoch => .runtimeError "unexpected multiplayer remove status: INVALID_EPOCH"
  | .scriptError => .responseError

/-- `_write` -/
def write (state : RoomState) (expected : Int) (expectedSession : Option Uuid)
    (previousAccounts : List String) : Method Blob RoomState := do
  match ← Method.cas (repo.casCall state expected expectedSession previousAccounts) with
  | .ok () => ofExcept (repo.decode (repo.encode state.sanitized))
  | .error refusal => Program.fail (casFailure refusal)

/-- The arguments of a removal, from the room that was read before it. -/
def removeCall (publicId : Nat) (expectedRevision : Nat) (expectedSession : Uuid)
    (current : Option RoomState) : RemoveCall where
  room := publicId
  accounts := (current.map accountKeys).getD []
  expected := expectedRevision
  expectedSession := expectedSession.text
  publicId := publicId
  owner := (current.map fun state => owner publicId state.room.publicIdEpoch expectedSession).getD ""

def decodeRoom : Option Blob → Method Blob (Option RoomState)
  | none => pure none
  | some raw => do
    let state ← ofExcept (repo.decode raw)
    return some state

def remove (publicId expectedRevision : Nat) (expectedSession : Uuid) : Method Blob Unit := do
  let raw ← Method.getRoom publicId
  let current ← repo.decodeRoom raw
  match ← Method.remove (removeCall publicId expectedRevision expectedSession current) with
  | .ok () => return ()
  | .error refusal => Program.fail (removeFailure refusal)

/-- Remove a room that has expired; another process may have changed it by then. -/
def prune (publicId : Nat) (state : RoomState) : Method Blob (Option RoomState) := do
  match ← (repo.remove publicId state.stateRevision state.room.sessionId).attempt with
  | .ok () => return none
  | .error (.matchConcurrencyConflict _) => return none
  | .error failure => Program.fail failure

def get (publicId : Nat) (time : Int) : Method Blob (Option RoomState) := do
  let raw ← Method.getRoom publicId
  match ← repo.decodeRoom raw with
  | none => return none
  | some state =>
    if state.room.publicId ≠ publicId then
      Program.fail (.runtimeError "stored room state does not match its Redis key")
    else if state.expiresAt.millis ≤ time then repo.prune publicId state
    else return some state

/-- The rooms of a listing, dropping identifiers whose room is gone. -/
def listed (time : Int) : List (Nat × Option Blob) → Method Blob (List RoomState)
  | [] => return []
  | (publicId, none) :: rest => do
    let _ ← Method.dropIndex publicId
    listed time rest
  | (_, some raw) :: rest => do
    let state ← ofExcept (repo.decode raw)
    let states ← listed time rest
    return if time < state.expiresAt.millis then state :: states else states

def listPublic (time : Int) (limit : Nat) : Method Blob (List RoomState) := do
  if limit < 1 ∨ repo.maxRooms < limit then
    Program.fail (.valueError "room list limit is outside the configured bound")
  else
    let publicIds ← Method.listIndex time limit
    if publicIds.isEmpty then return []
    else
      let values ← Method.getRooms publicIds
      repo.listed time (publicIds.zip values)

def create (state : RoomState) : Method Blob RoomState := do
  let time ← Method.now
  let rooms ← repo.listPublic time repo.maxRooms
  if repo.maxRooms ≤ rooms.length then Program.fail (.matchFull "active room projection limit reached")
  else
    let now ← Method.now
    let bounded ← ofExcept
      (state.replaced (publicRoom state.room) state.stateRevision state.slots
        (boundedExpiry now repo.ttl state.expiresAt))
    repo.write bounded (-1) none []

/-- `split("|", 2)` of an owner token, with its identifier, epoch and session read. -/
def parseOwner (token : String) : Option (Int × Int × Uuid) := do
  let characters := token.toList
  let first := characters.takeWhile (· ≠ '|')
  let rest := (characters.dropWhile (· ≠ '|')).tail
  let second := rest.takeWhile (· ≠ '|')
  if '|' ∈ characters ∧ '|' ∈ rest then
    let publicId ← Text.int? (String.ofList first)
    let epoch ← Text.int? (String.ofList second)
    let session ← Uuid.ofText (String.ofList (rest.dropWhile (· ≠ '|')).tail)
    return (publicId, epoch, session)
  else none

/-- A room key for any integer that an owner token names; only a public identifier has one. -/
def getNumbered (publicId : Int) (time : Int) : Method Blob (Option RoomState) :=
  if 0 ≤ publicId then repo.get publicId.toNat time else return none

def findForAccount (account : Nat) (time : Int) : Method Blob (Option RoomState) := do
  match ← Method.getAccount (toString account) with
  | none => return none
  | some raw =>
    match parseOwner raw with
    | none => Program.fail (.runtimeError "stored multiplayer account index is invalid")
    | some (publicId, epoch, session) =>
      match ← repo.getNumbered publicId time with
      | none => do
        Method.deleteAccount (toString account)
        return none
      | some state =>
        if state.room.publicIdEpoch ≠ epoch ∨ state.room.sessionId ≠ session ∨
          state.slotFor account = none then do
          Method.deleteAccount (toString account)
          return none
        else return some state

def replace (state : RoomState) (expectedRevision : Nat) (expectedSession : Uuid) :
    Method Blob RoomState := do
  let now ← Method.now
  match ← repo.get state.room.publicId now with
  | none => Program.fail (.matchNotFound "room has no live projection")
  | some current => repo.write state expectedRevision (some expectedSession) (accountKeys current)

/-- `_mutate`: read, edit and write, again while another process was faster. -/
def mutate (publicId : Nat) (mutation : Mutation) : (attempts : Nat) → Method Blob RoomState
  | 0 => Program.fail (.matchConcurrencyConflict "room state changed too frequently")
  | attempts + 1 => do
    let time ← Method.now
    match ← repo.get publicId time with
    | none => Program.fail (.matchNotFound "room has no live projection")
    | some current => do
      let now ← Method.now
      let updated ← ofExcept (mutation.apply repo.ttl now current)
      match ← (repo.write updated current.stateRevision (some current.room.sessionId)
        (accountKeys current)).attempt with
      | .ok stored => return stored
      | .error (.matchConcurrencyConflict _) => mutate publicId mutation attempts
      | .error failure => Program.fail failure

/-- What the methods that go through `_mutate` check before it. -/
def checked : Mutation → Except Failure Unit
  | .setSlotStatus _ status =>
    if status.occupied then .ok () else
      .error (.matchStateRejected "occupied slot cannot use an empty status")
  | .setSlotTeam _ team =>
    if team ≤ 2 then .ok () else .error (.matchStateRejected "team must be neutral, red, or blue")
  | _ => .ok ()

def leaveRoom (publicId account : Nat) (durableRoom : Option RoomRecord) :
    Method Blob (Option RoomState) := do
  let now ← Method.now
  match ← repo.get publicId now with
  | none => return none
  | some current =>
    match durableRoom with
    | none => do
      repo.remove publicId current.stateRevision current.room.sessionId
      return none
    | some record => do
      let state ← repo.mutate publicId (.leave account record) repo.casAttempts
      return some state

/-- One call of a repository method. An edit is a call of a method that does nothing
but `_mutate`. -/
inductive Task where
  | create (state : RoomState)
  | get (publicId : Nat) (time : Int)
  | findForAccount (account : Nat) (time : Int)
  | replace (state : RoomState) (expectedRevision : Nat) (expectedSession : Uuid)
  | remove (publicId expectedRevision : Nat) (expectedSession : Uuid)
  | leave (publicId account : Nat) (durableRoom : Option RoomRecord)
  | edit (publicId : Nat) (mutation : Mutation)

/-- A join finds its room by the record that it brings. -/
def Task.join (room : RoomRecord) (account : Nat) (expiresAt : Datetime) : Task :=
  .edit room.publicId (.join room account expiresAt)

def body : Task → Method Blob (Option RoomState)
  | .create state => some <$> repo.create state
  | .get publicId time => repo.get publicId time
  | .findForAccount account time => repo.findForAccount account time
  | .replace state expectedRevision expectedSession =>
    some <$> repo.replace state expectedRevision expectedSession
  | .remove publicId expectedRevision expectedSession => do
    repo.remove publicId expectedRevision expectedSession
    return none
  | .leave publicId account durableRoom => repo.leaveRoom publicId account durableRoom
  | .edit publicId mutation => do
    ofExcept (checked mutation)
    some <$> repo.mutate publicId mutation repo.casAttempts

end Repository

/-- A repository whose blobs are the public states themselves. -/
def plainRepo : Repository RoomState where
  ttl := 1000
  maxRooms := 16
  casAttempts := 8
  lua := fullLua fun state => some (headerOf state)
  encode := RoomState.sanitized
  decode := .ok
  lasting := by decide
  roomy := by decide
  attempted := by decide
  decode_encode := fun _ => rfl
  header_encode := fun _ => rfl

/-- The sample room while both of its accounts play a round. -/
def playingState : RoomState :=
  { sampleState with
    inProgress := true
    expiresAt := .aware 100
    roundId := some sampleRound
    roundParticipantAccountIds := [1, 2]
    participants := samplePlayers
    progress := rfl
    seated := by decide
    timed := rfl }

def idleState : RoomState := { sampleState with expiresAt := .aware 100, timed := rfl }

/-- A store that holds one state and the index entries of its accounts. -/
def storeOf (state : RoomState) : Store RoomState where
  rooms := fun room => if room = state.room.publicId then
    some ⟨state.sanitized, state.expiresAt.millis⟩ else none
  accounts := fun account => if account ∈ accountKeys state then
    some ⟨ownerOf state, state.expiresAt.millis⟩ else none
  index := [(state.room.publicId, state.expiresAt.millis)]
  indexDeadline := some state.expiresAt.millis
  clock := 0

end Perfcho.Redis
