import Perfcho.Foundation.Keyspace
import Perfcho.Foundation.Struct
import Perfcho.Foundation.Values

/-! The frames of a host as the scripts keep them: members of a sorted set with one
score, each a cursor of nineteen digits, an expiry, a sequence of five digits and a
payload, with colons in between. -/

namespace Perfcho.Realtime

open Foundation

/-- The order of members with one score. -/
def byteRank (bytes : Bytes) : List Nat := bytes.map UInt8.toNat

abbrev FrameSet := SortedSet byteRank

def colon : UInt8 := 58

/-- The bytes of an ASCII text. -/
def ascii (text : String) : Bytes := text.toList.map fun character => UInt8.ofNat character.toNat

/-- The runtime of the scripts. A script prints a number with fourteen digits and hands
one to the server with seventeen: below ten to the fourteenth both are the number in
full, and a number that is printed with an exponent is no other number in full. -/
structure Lua where
  tostring : Nat → String
  argument : Nat → String
  tostring_exact : ∀ {number other : Nat}, tostring number = toString other → number = other
  tostring_full : ∀ number < 10 ^ 14, tostring number = toString number
  argument_full : ∀ number < 10 ^ 14, argument number = toString number

/-- A runtime that prints every number in full. -/
def fullLua : Lua where
  tostring := toString
  argument := toString
  tostring_exact := Text.toString_injective
  tostring_full _ _ := rfl
  argument_full _ _ := rfl

def padded (width : Nat) (text : Bytes) : Bytes := List.replicate (width - text.length) 48 ++ text

/-- `sequence_token` -/
def sequenceToken (cursor : Nat) : Bytes := padded 19 (ascii (toString cursor))

/-- The number that digits stand for. -/
def digitsValue (digits : Bytes) : Nat := digits.foldl (fun value digit => 10 * value + (digit.toNat - 48)) 0

/-- A number read from a text. Every text that is read here is made of digits. -/
def tonumber? (text : Bytes) : Option Nat :=
  if text ≠ [] ∧ text.all (fun digit => 48 ≤ digit.toNat ∧ digit.toNat ≤ 57) then
    some (digitsValue text) else none

/-- The first place of a byte at or after a start. -/
def findFrom (byte : UInt8) (start : Nat) (bytes : Bytes) : Option Nat :=
  ((bytes.drop start).idxOf? byte).map (start + ·)

structure FrameParts where
  expiry : Nat
  sequence : Nat
  size : Nat

/-- `frame_parts` -/
def frameParts (member : Bytes) : Option FrameParts := do
  let second ← findFrom colon 20 member
  let third ← findFrom colon (second + 1) member
  let expiry ← tonumber? ((member.take second).drop 20)
  let sequence ← tonumber? ((member.take third).drop (second + 1))
  return ⟨expiry, sequence, member.length - (third + 1)⟩

/-- What is counted over a history. -/
structure Totals where
  count : Nat
  bytes : Nat
  deadline : Nat

/-- The loop of `frame_stats`: frames that are over are removed, the others are counted. -/
def statsLoop (instant : Nat) : List Bytes → FrameSet → Totals → Option Totals × FrameSet
  | [], frames, totals => (some totals, frames)
  | member :: rest, frames, totals =>
    match frameParts member with
    | none => (none, frames)
    | some parts =>
      if parts.expiry ≤ instant then statsLoop instant rest (frames.remove member) totals
      else statsLoop instant rest frames ⟨totals.count + 1, totals.bytes + parts.size,
        max totals.deadline parts.expiry⟩

/-- `frame_stats` -/
def frameStats (instant maximum : Nat) (frames : FrameSet) : Option Totals × FrameSet :=
  let members := frames.members.take (maximum + 1)
  if maximum < members.length then (none, frames) else statsLoop instant members frames ⟨0, 0, 0⟩

/-- The oldest and the latest cursor of a history, whether frames are missing, and members. -/
structure Window where
  oldest : Bytes
  latest : Bytes
  truncated : Bool
  members : List Bytes
  deriving DecidableEq

def cursorOf (member : Bytes) : Bytes := member.take 19

def oldestCursor (members : List Bytes) : Bytes := (members.head?.map cursorOf).getD []

def latestCursor (members : List Bytes) : Bytes := (members.getLast?.map cursorOf).getD []

/-- `latest_frame_window` -/
def latestFrameWindow (limit : Nat) (members : List Bytes) : Window where
  oldest := oldestCursor members
  latest := latestCursor members
  truncated := decide (limit < members.length)
  members := members.drop (members.length - limit)

/-- The members after a cursor, at most a number of them. -/
def framesAfter (after : Bytes) (limit : Nat) (members : List Bytes) : List Bytes :=
  members.foldl (fun result member =>
    if byteRank after < byteRank (cursorOf member) ∧ result.length < limit then result ++ [member]
      else result) []

/-- The window that `READ_FRAMES` answers with. -/
def frameWindow (after : Option Nat) (limit : Nat) (members : List Bytes) : Window :=
  match after with
  | none => latestFrameWindow limit members
  | some cursor =>
    { oldest := oldestCursor members
      latest := latestCursor members
      truncated := decide (members ≠ [] ∧ (cursor : Int) < digitsValue (oldestCursor members) - 1)
      members := framesAfter (sequenceToken cursor) limit members }

/-- The loop that makes room for a frame: the oldest member goes until count and size
fit. It stops at an empty history; `none` is a loop that has not stopped yet. -/
def evictLoop (maxCount maxBytes size : Nat) : Nat → FrameSet → Int → Nat → Option (FrameSet × Int × Nat)
  | 0, _, _, _ => none
  | fuel + 1, frames, count, bytes =>
    if maxCount ≤ count ∨ maxBytes < bytes + size then
      match frames.popMin with
      | (none, _) => some (frames, count, bytes)
      | (some oldest, rest) =>
        evictLoop maxCount maxBytes size fuel rest (count - 1)
          (bytes - ((frameParts oldest).map (·.size)).getD 0)
    else some (frames, count, bytes)

def frameMember (lua : Lua) (cursor expiry sequence : Nat) (payload : Bytes) : Bytes :=
  padded 19 (ascii (lua.tostring cursor)) ++ colon :: ascii (toString expiry) ++
    colon :: padded 5 (ascii (toString sequence)) ++ colon :: payload

structure OrderedFrame where
  cursor : Nat
  sequence : Nat
  payload : Bytes
  expiresAt : Nat
  deriving DecidableEq

/-- What stands before the first colon and after it. -/
def splitColon (bytes : Bytes) : Option (Bytes × Bytes) :=
  (findFrom colon 0 bytes).map fun place => (bytes.take place, bytes.drop (place + 1))

/-- `decode_ordered_frame` -/
def decodeOrderedFrame (value : Bytes) : Option OrderedFrame := do
  let (rawCursor, rest) ← splitColon value
  let (rawExpiry, rest) ← splitColon rest
  let (rawSequence, payload) ← splitColon rest
  let cursor ← tonumber? rawCursor
  let expiry ← tonumber? rawExpiry
  let sequence ← tonumber? rawSequence
  if rawCursor ≠ sequenceToken cursor ∨ rawSequence.length ≠ 5 ∨
    rawSequence ≠ padded 5 (ascii (toString sequence)) ∨ 65535 < sequence then none
  else some ⟨cursor, sequence, payload, expiry⟩

end Perfcho.Realtime
