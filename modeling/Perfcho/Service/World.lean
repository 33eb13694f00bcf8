import Perfcho.Durable.Commands
import Perfcho.Multiplayer.Transitions
import Perfcho.Redis.LeaveRuns

/-! The database and the projections as the service sees them. Every transaction is
one call and so is every method of the projection repository. -/

namespace Perfcho.Service

open Foundation Multiplayer Durable Redis Program

structure World (Blob : Type) where
  tables : Tables
  store : Store Blob

/-- What the service is built from: its projection repository, the policies of the
database layer, the lifetime of a published state and the rules of the mods. -/
structure MultiplayerService (Blob : Type) where
  repo : Repository Blob
  policies : Policies
  stateLifetime : Int
  normalizeMods : NormalizeMods
  lasting : 0 < stateLifetime

/-- What the service keeps of a committed transaction: the room it has changed and its
snapshot, whether the command was answered as a repeated one, the room that a leave has
locked, and the round that is in progress afterwards. -/
structure Committed where
  room : Option RoomRecord
  snapshot : Option DurableRoomSnapshot
  replayed : Bool
  locked : Option RoomRecord
  roundId : Option Uuid

/-- The calls of the service. A repair is the replacement that a reconciliation makes. -/
inductive Call where
  | clock
  | access (account : Nat) (permissions : List String) (time : Int)
  | replay (account : Nat) (permissions : List String) (time : Int) (commandId : Uuid)
  | snapshot (publicId : Nat)
  | accountSnapshot (account : Nat)
  | commit (moment : Moment) (command : Durable.Command)
  | state (task : Repository.Task)
  | repair (updated state : RoomState)

def Answer : Call → Type
  | .clock => Int
  | .access .. => Except Failure Unit
  | .replay .. => Except Failure (Option DurableRoomSnapshot)
  | .snapshot _ => Except Failure (Option DurableRoomSnapshot)
  | .accountSnapshot _ => Except Failure (Option DurableRoomSnapshot)
  | .commit .. => Except Failure Committed
  | .state _ => Except Failure (Option RoomState)
  | .repair _ _ => Except Failure (Option RoomState)

section

variable (tables : Tables)

/-- The snapshot of a room that was looked up. -/
def loaded (found : Except Failure (Option RoomRecord)) : Except Failure (Option DurableRoomSnapshot) := do
  match ← found with
  | none => return none
  | some room => do
    let snapshot ← tables.loadSnapshot room
    return some snapshot

/-- The room that a leave finds before it changes anything. -/
def lockedFor : Durable.Command → Option RoomRecord
  | .leave _ _ _ publicId => (tables.getRoom publicId).toOption.join
  | .cleanup _ account _ _ => (tables.findRoomForAccount account).toOption.join
  | _ => none

def answeredBefore : Durable.Command → Bool
  | .create request => (tables.findCommandRoom request.commandId).toOption.join.isSome
  | .leave commandId _ _ _ => (tables.findCommandRoom commandId).toOption.join.isSome
  | _ => false

def commit (policies : Policies) (moment : Moment) (command : Durable.Command) :
    Except Failure (Committed × Tables) := do
  let (room, after) ← transact policies tables tables moment command
  let snapshot ← loaded after (.ok room)
  let roundId := room.bind fun record => after.activeRoundId record.sessionId
  return (⟨room, snapshot, answeredBefore tables command, lockedFor tables command, roundId⟩, after)

end

variable {Blob : Type}

def execute (service : MultiplayerService Blob) : (call : Call) → World Blob → Answer call × World Blob
  | .clock, world => (world.store.clock, world)
  | .access account permissions time, world => (service.policies.require account permissions time, world)
  | .replay account permissions time commandId, world => (do
      service.policies.require account permissions time
      loaded world.tables (world.tables.findCommandRoom commandId), world)
  | .snapshot publicId, world => (loaded world.tables (world.tables.getRoom publicId), world)
  | .accountSnapshot account, world => (loaded world.tables (world.tables.findRoomForAccount account), world)
  | .commit moment command, world =>
    match commit world.tables service.policies moment command with
    | .ok (committed, after) => (.ok committed, { world with tables := after })
    | .error failure => (.error failure, world)
  | .state task, world =>
    let (result, after) := runAlone service.repo (service.repo.body task) world.store
    (result, { world with store := after })
  | .repair updated state, world =>
    let task := Repository.Task.replace updated state.stateRevision state.room.sessionId
    let (result, after) := runAlone service.repo (service.repo.body task) world.store
    (result, { world with store := after })

abbrev Method := Program Call Answer Failure

namespace Method

def clock : Method Int := ask Call.clock

def access (account : Nat) (permissions : List String) : Method Unit := do
  let now ← clock
  let answer ← ask (Call.access account permissions now)
  ofExcept (show Except Failure Unit from answer)

/-- `_replay_snapshot` -/
def replay (account : Nat) (permissions : List String) (commandId : Uuid) :
    Method (Option DurableRoomSnapshot) := do
  let now ← clock
  let answer ← ask (Call.replay account permissions now commandId)
  ofExcept (show Except Failure (Option DurableRoomSnapshot) from answer)

def snapshot (publicId : Nat) : Method (Option DurableRoomSnapshot) := do
  let answer ← ask (Call.snapshot publicId)
  ofExcept (show Except Failure (Option DurableRoomSnapshot) from answer)

def accountSnapshot (account : Nat) : Method (Option DurableRoomSnapshot) := do
  let answer ← ask (Call.accountSnapshot account)
  ofExcept (show Except Failure (Option DurableRoomSnapshot) from answer)

def commit (moment : Moment) (command : Durable.Command) : Method Committed := do
  let answer ← ask (Call.commit moment command)
  ofExcept (show Except Failure Committed from answer)

/-- A method of the projection repository. -/
def state (task : Repository.Task) : Method (Option RoomState) := do
  let answer ← ask (Call.state task)
  ofExcept (show Except Failure (Option RoomState) from answer)

/-- The state that a creation, a replacement or an edit returns. -/
def returned (method : Method (Option RoomState)) : Method RoomState := do
  match ← method with
  | some result => return result
  | none => fail .stopIteration

def projected (task : Repository.Task) : Method RoomState := returned (state task)

def repaired (updated current : RoomState) : Method RoomState := returned do
  let answer ← ask (Call.repair updated current)
  ofExcept (show Except Failure (Option RoomState) from answer)

end Method

end Perfcho.Service
