import Perfcho.Foundation.Struct

/-! Controlled failures, resource bounds, and record layouts shared by the
packet reader and the packet writer. -/

namespace Perfcho.Stable

open Foundation

/-- The protocol failures, each a `ValueError` of its own class. -/
inductive ProtocolError where
  | protocolState
  | bodyTooLarge
  | packetTooLarge
  | packetCountExceeded
  | stringTooLarge
  | listTooLarge
  | frameCountExceeded
  | truncatedHeader
  | truncatedPayload
  | invalidStringMarker
  | invalidStringEncoding
  | malformedUleb128
  | invalidStructure
  | trailingData

/-- Everything a codec call can raise. `structError` and `indexError` are what
the runtime raises when a buffer or a tuple is shorter than the code believes. -/
inductive Failure where
  | stopIteration
  | protocol (kind : ProtocolError) (message : String)
  | valueError (message : String)
  | structError
  | indexError

def Failure.isValueError : Failure → Bool
  | .protocol _ _ => true
  | .valueError _ => true
  | _ => false

/-- Resource bounds. The source rejects negative bounds and a ULEB128 width
outside one to five bytes, so a value of this type carries both facts. -/
structure CodecLimits where
  maxBodySize : Nat := 16 * 1024 * 1024
  maxPacketSize : Nat := 2 * 1024 * 1024
  maxPacketCount : Nat := 4096
  maxStringSize : Nat := 64 * 1024
  maxListLength : Nat := 8192
  maxFrameCount : Nat := 4096
  maxUleb128Bytes : Nat := 5
  uleb128_range : 1 ≤ maxUleb128Bytes ∧ maxUleb128Bytes ≤ 5 := by decide

def defaultLimits : CodecLimits := {}

def headerStruct : Layout := [.unsigned 2, .pad, .unsigned 4]

def headerSize : Nat := headerStruct.size

def scoreFrameStruct : Layout :=
  [.signed 4, .unsigned 1, .unsigned 2, .unsigned 2, .unsigned 2, .unsigned 2, .unsigned 2, .unsigned 2,
    .signed 4, .unsigned 2, .unsigned 2, .unsigned 1, .unsigned 1, .unsigned 1, .unsigned 1]

def replayFrameStruct : Layout := [.unsigned 1, .unsigned 1, .unsigned 4, .unsigned 4, .signed 4]

@[simp] theorem headerSize_eq : headerSize = 7 := rfl

/-- Two lowercase hexadecimal digits of a byte. -/
def hexByte (byte : Nat) : String := String.ofList [Nat.digitChar (byte / 16), Nat.digitChar (byte % 16)]

end Perfcho.Stable
