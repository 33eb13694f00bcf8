import Mathlib.Data.List.MinMax
import Perfcho.Foundation.Values

/-! The multiplayer keys and the two scripts that write them. A script runs
atomically; what it has already written stays when it answers with a refusal. -/

namespace Perfcho.Redis

open Foundation

/-- A stored string with the time at which the server drops it. -/
structure Entry (Value : Type) where
  value : Value
  deadline : Int

/-- The account index: the text of an account identifier to an owner token. -/
abbrev Accounts := String → Option (Entry String)

/-- The keys under `{prefix}:v2:multiplayer`: a blob for each public room identifier,
the account index, and the sorted set of public rooms. -/
structure Store (Blob : Type) where
  rooms : Nat → Option (Entry Blob)
  accounts : Accounts
  index : List (Nat × Int)
  indexDeadline : Option Int
  clock : Int

/-- The fields of a decoded room that the scripts read. A number that is missing
or is no number is `none`. -/
structure Header where
  sessionId : String
  publicId : Int
  publicIdEpoch : Option Int
  stateRevision : Option Int
  slots : List (Option Int)

/-- The script runtime: number texts, the text of a JSON null and `cjson.decode`.
A number prints in full or, from ten to the fourteenth on, with an exponent: it has
no bar, and it is not the digits of another number. -/
structure Lua (Blob : Type) where
  tostring : Int → String
  tonumber : String → Option Int
  null : String
  decode : Blob → Option Header
  tostring_unbarred : ∀ number : Nat, '|' ∉ (tostring number).toList
  tostring_exact : ∀ number other : Nat, tostring number = toString other → number = other

/-- A runtime that prints every number in full. -/
def fullLua (decode : Blob → Option Header) : Lua Blob where
  tostring := toString
  tonumber := Text.int?
  null := "userdata: NULL"
  decode := decode
  tostring_unbarred := Text.toString_unbarred
  tostring_exact := fun _ _ => Text.toString_injective

/-- Every answer of the scripts but `OK`. A script that cannot decode a room raises. -/
inductive Refusal where
  | exists | notFound | fenced | epochFenced | invalidEpoch | accountConflict | scriptError
  deriving DecidableEq

abbrev Status := Except Refusal Unit

structure CasCall (Blob : Type) where
  room : Nat
  oldAccounts : List String
  newAccounts : List String
  expected : Int
  expectedSession : String
  incomingSession : String
  incomingEpoch : Int
  payload : Blob
  deadline : Int
  owner : String
  publicId : Nat

structure RemoveCall where
  room : Nat
  accounts : List String
  expected : Int
  expectedSession : String
  publicId : Nat
  owner : String

/-- `DEL` of each key whose value is the given owner. -/
def dropOwned (owner : String) (keys : List String) (accounts : Accounts) : Accounts :=
  keys.foldl (fun accounts key =>
    if (accounts key).map (·.value) = some owner then Function.update accounts key none else
      accounts) accounts

/-- `SET` of each key to the owner. -/
def claimAll (owner : String) (deadline : Int) (keys : List String) (accounts : Accounts) : Accounts :=
  keys.foldl (fun accounts key => Function.update accounts key (some ⟨owner, deadline⟩)) accounts

section

variable {Blob : Type} (lua : Lua Blob)

def ownerToken (header : Header) (epoch : Int) : String :=
  lua.tostring header.publicId ++ "|" ++ lua.tostring epoch ++ "|" ++ header.sessionId

/-- The account keys of a decoded room. A null is not false in a script, so an
empty slot gives a key too, one that no account has. -/
def slotKeys (header : Header) : List String :=
  header.slots.map fun
    | some account => lua.tostring account
    | none => lua.null

/-- The public identifier of an owner token: what stands before its first bar. -/
def tokenPublic (token : String) : String := String.ofList (token.toList.takeWhile (· ≠ '|'))

/-- The epoch of an owner token: the number between its first two bars. -/
def tokenEpoch (token : String) : Option Int :=
  let rest := (token.toList.dropWhile (· ≠ '|')).tail
  if '|' ∈ rest then lua.tonumber (String.ofList (rest.takeWhile (· ≠ '|'))) else none

/-- Whether an index entry keeps a room from taking the account: it belongs to
another public identifier, or to the same one at no lower epoch. -/
def conflicts (call : CasCall Blob) (occupied : String) : Bool :=
  occupied ≠ call.owner ∧ (tokenPublic occupied ≠ toString call.publicId ∨
    ∀ epoch, tokenEpoch lua occupied = some epoch → call.incomingEpoch ≤ epoch)

/-- The first half of the script: refuse, or give the previous owner and the account
index without the entries of a room that is about to be replaced. -/
def casFence (store : Store Blob) (call : CasCall Blob) : Except Refusal (String × Accounts) :=
  if call.incomingEpoch < 1 then .error .invalidEpoch
  else if call.expected = -1 then
    match store.rooms call.room with
    | none => .ok (call.owner, store.accounts)
    | some entry =>
      match lua.decode entry.value with
      | none => .error .scriptError
      | some header =>
        match header.publicIdEpoch with
        | none => .error .invalidEpoch
        | some epoch =>
          if header.sessionId = call.incomingSession ∧ epoch = call.incomingEpoch then .error .exists
          else if call.incomingEpoch ≤ epoch then .error .epochFenced
          else .ok (ownerToken lua header epoch,
            dropOwned (ownerToken lua header epoch) (slotKeys lua header) store.accounts)
  else
    match store.rooms call.room with
    | none => .error .notFound
    | some entry =>
      match lua.decode entry.value with
      | none => .error .scriptError
      | some header =>
        match header.publicIdEpoch with
        | none => .error .invalidEpoch
        | some epoch =>
          if header.sessionId ≠ call.expectedSession ∨ call.incomingEpoch < epoch ∨
            (epoch = call.incomingEpoch ∧ call.incomingSession ≠ call.expectedSession) then
            .error .epochFenced
          else if header.stateRevision ≠ some call.expected then .error .fenced
          else .ok (ownerToken lua header epoch, store.accounts)

/-- The score that a sorted set expires with, its highest. -/
def latestScore (index : List (Nat × Int)) : Option Int := (index.map (·.2)).max?

/-- `ZADD` or `ZREM`, then `PEXPIREAT` at the highest score if one is left. -/
def withIndex (store : Store Blob) (index : List (Nat × Int)) : Store Blob :=
  { store with index, indexDeadline := latestScore index }

/-- The effect of a script that refuses nothing. -/
def casApply (store : Store Blob) (call : CasCall Blob) (previousOwner : String)
    (accounts : Accounts) : Store Blob :=
  withIndex { store with
      rooms := Function.update store.rooms call.room (some ⟨call.payload, call.deadline⟩)
      accounts := claimAll call.owner call.deadline call.newAccounts
        (dropOwned previousOwner call.oldAccounts accounts) }
    ((call.publicId, call.deadline) :: store.index.filter (·.1 ≠ call.publicId))

/-- `_CAS_SCRIPT` -/
def cas (store : Store Blob) (call : CasCall Blob) : Status × Store Blob :=
  match casFence lua store call with
  | .error refusal => (.error refusal, store)
  | .ok (previousOwner, accounts) =>
    if call.newAccounts.any fun key => (accounts key).any fun entry => conflicts lua call entry.value then
      (.error .accountConflict, { store with accounts })
    else (.ok (), casApply store call previousOwner accounts)

/-- The effect of a removal that is not refused. -/
def removeApply (store : Store Blob) (call : RemoveCall) : Store Blob :=
  withIndex { store with
      rooms := Function.update store.rooms call.room none
      accounts := dropOwned call.owner call.accounts store.accounts }
    (store.index.filter (·.1 ≠ call.publicId))

/-- `_REMOVE_SCRIPT` -/
def remove (store : Store Blob) (call : RemoveCall) : Status × Store Blob :=
  match store.rooms call.room with
  | none => (.ok (), store)
  | some entry =>
    match lua.decode entry.value with
    | none => (.error .scriptError, store)
    | some header =>
      if header.sessionId ≠ call.expectedSession then (.error .epochFenced, store)
      else if header.stateRevision ≠ some call.expected then (.error .fenced, store)
      else (.ok (), removeApply store call)

end

end Perfcho.Redis
