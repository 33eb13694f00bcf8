import Perfcho.Foundation.Action
import Perfcho.Stable.Models
import Perfcho.Stable.Wire

/-! The bounded packet reader. Reads move a position over one byte view; a read
that raises keeps the position it had reached. -/

namespace Perfcho.Stable

open Foundation Action

/-- Which packet inventory names the identifiers a reader meets. -/
inductive PacketEnum where
  | client
  | server

inductive PacketType where
  | client (packet : ClientPacket)
  | server (packet : ServerPacket)

def PacketEnum.lookup : PacketEnum → Int → Option PacketType
  | client, packetId => (ClientPacket.ofValue? packetId).map .client
  | server, packetId => (ServerPacket.ofValue? packetId).map .server

/-- A reader over one byte view. The position never leaves the view. -/
structure PacketReader where
  view : Bytes
  position : Nat
  packetCount : Nat
  packetEnum : PacketEnum
  limits : CodecLimits
  bounded : position ≤ view.length

/-- A framed packet with a reader over exactly its declared payload. -/
structure Packet where
  packetId : Int
  packetType : Option PacketType
  payload : PacketReader

namespace PacketReader

def fresh (data : Bytes) (packetEnum : PacketEnum) (limits : CodecLimits) : PacketReader :=
  ⟨data, 0, 0, packetEnum, limits, Nat.zero_le _⟩

def init (data : Bytes) (packetEnum : PacketEnum) (limits : CodecLimits) (payload : Bool := false) :
    Except Failure PacketReader :=
  let size := data.length
  if !payload ∧ size > limits.maxBodySize then
    .error (.protocol .bodyTooLarge s!"body length {size} exceeds limit {limits.maxBodySize}")
  else if payload ∧ size > limits.maxPacketSize then
    .error (.protocol .packetTooLarge s!"packet length {size} exceeds limit {limits.maxPacketSize}")
  else .ok (fresh data packetEnum limits)

variable {packetEnum : PacketEnum} {limits : CodecLimits}

theorem init_body (small : data.length ≤ limits.maxBodySize) :
    init data packetEnum limits = .ok (fresh data packetEnum limits) := by
  simp [init, small]

theorem init_payload (small : data.length ≤ limits.maxPacketSize) :
    init data packetEnum limits true = .ok (fresh data packetEnum limits) := by
  simp [init, small]

theorem init_eq_ok (created : init data packetEnum limits payload = .ok reader) :
    reader = fresh data packetEnum limits := by
  simp only [init] at created
  split at created
  · cases created
  split at created
  · cases created
  · exact (Except.ok.inj created).symm

def remaining (reader : PacketReader) : Nat := reader.view.length - reader.position

def unread (reader : PacketReader) : Bytes := reader.view.drop reader.position

end PacketReader

abbrev Read (Value : Type) := Action PacketReader Failure Value

namespace PacketReader

/-- Read one header and expose exactly its declared payload slice. The parent
advances before the child reader is built. -/
def readPacket : Read Packet := fun reader =>
  if reader.remaining = 0 then (.error .stopIteration, reader)
  else if reader.remaining < headerSize then
    (.error (.protocol .truncatedHeader
      s!"packet header requires {headerSize} bytes, only {reader.remaining} remain at offset {reader.position}"),
      reader)
  else if reader.packetCount ≥ reader.limits.maxPacketCount then
    (.error (.protocol .packetCountExceeded s!"packet count exceeds limit {reader.limits.maxPacketCount}"),
      reader)
  else match headerStruct.unpack reader.unread with
    | some [packetId, payloadSize] =>
      if payloadSize > reader.limits.maxPacketSize then
        (.error (.protocol .packetTooLarge
          s!"packet length {payloadSize} exceeds limit {reader.limits.maxPacketSize}"), reader)
      else
        let payloadStart := reader.position + headerSize
        let payloadEnd := payloadStart + payloadSize.toNat
        if inside : payloadEnd ≤ reader.view.length then
          let payloadView := (reader.view.drop payloadStart).take payloadSize.toNat
          let advanced : PacketReader :=
            { reader with position := payloadEnd, packetCount := reader.packetCount + 1, bounded := inside }
          match PacketReader.init payloadView reader.packetEnum reader.limits true with
          | .ok payload => (.ok ⟨packetId, reader.packetEnum.lookup packetId, payload⟩, advanced)
          | .error failure => (.error failure, advanced)
        else
          let available := (reader.view.length : Int) - payloadStart
          (.error (.protocol .truncatedPayload
            s!"packet {packetId} declares {payloadSize} bytes, only {available} remain"), reader)
    | _ => (.error .structError, reader)

/-- Iterating the reader stops when nothing remains. -/
def next : Read Packet := fun reader =>
  if reader.remaining = 0 then (.error .stopIteration, reader) else readPacket reader

def take (size : Int) : Read Bytes := fun reader =>
  if size < 0 then (.error (.valueError "read size must be non-negative"), reader)
  else if inside : reader.position + size.toNat ≤ reader.view.length then
    (.ok (reader.unread.take size.toNat),
      { reader with position := reader.position + size.toNat, bounded := inside })
  else
    (.error (.protocol .truncatedPayload
      s!"field requires {size} bytes, only {reader.remaining} remain at offset {reader.position}"), reader)

/-- Take the bytes of a record and unpack all its numbers. -/
def unpackAll (layout : Layout) : Read (List Int) := do
  let encoded ← take layout.size
  match layout.unpack encoded with
  | some values => return values
  | none => fail .structError

def unpack (field : Field) : Read Int := do
  match ← unpackAll [field] with
  | value :: _ => return value
  | [] => fail .indexError

def readBytes (size : Int) : Read Bytes := take size

def readRemaining : Read Bytes := do
  let reader ← read
  take reader.remaining

def readRaw (size : Option Int := none) : Read Bytes :=
  match size with
  | none => readRemaining
  | some size => readBytes size

def requireExhausted : Read Unit := do
  let reader ← read
  if reader.remaining ≠ 0 then
    fail (.protocol .trailingData s!"{reader.remaining} trailing payload bytes remain")

def readI8 : Read Int := unpack (.signed 1)

def readU8 : Read Int := unpack (.unsigned 1)

def readI16 : Read Int := unpack (.signed 2)

def readU16 : Read Int := unpack (.unsigned 2)

def readI32 : Read Int := unpack (.signed 4)

def readU32 : Read Int := unpack (.unsigned 4)

def readI64 : Read Int := unpack (.signed 8)

def readU64 : Read Int := unpack (.unsigned 8)

def readF16 : Read UInt16 := do return UInt16.ofNat (← unpack (.unsigned 2)).toNat

def readF32 : Read UInt32 := do return UInt32.ofNat (← unpack (.unsigned 4)).toNat

def readF64 : Read UInt64 := do return UInt64.ofNat (← unpack (.unsigned 8)).toNat

def readBool : Read Bool := do
  let value ← readU8
  if value ≠ 0 ∧ value ≠ 1 then
    fail (.protocol .invalidStructure s!"invalid Stable boolean value {value}")
  else return value ≠ 0

/-- The digits of a ULEB128 value from the given index on, with the value read
so far. The last argument is how many bytes may still be read. -/
def readUleb128Loop (index value : Nat) : Nat → Read Nat
  | 0 => do
    let reader ← read
    fail (.protocol .malformedUleb128
      s!"ULEB128 value exceeds {reader.limits.maxUleb128Bytes} bytes")
  | left + 1 => do
    let reader ← read
    if reader.remaining = 0 then
      fail (.protocol .malformedUleb128 "truncated ULEB128 value")
    else
      let byte := (← readU8).toNat
      let payload := byte &&& 0x7F
      if index = 4 ∧ payload > 0x0F then
        fail (.protocol .malformedUleb128 "ULEB128 value overflows 32 bits")
      else
        let value := value ||| payload <<< (index * 7)
        if byte &&& 0x80 = 0 then
          if index > 0 ∧ payload = 0 then
            fail (.protocol .malformedUleb128 "non-canonical ULEB128 value")
          else return value
        else readUleb128Loop (index + 1) value left

def readUleb128 : Read Nat := do
  let reader ← read
  readUleb128Loop 0 0 reader.limits.maxUleb128Bytes

def decodeUtf8 (encoded : Bytes) : Option String := String.fromUTF8? ⟨encoded.toArray⟩

def readString : Read String := do
  let marker ← readU8
  if marker = 0x00 then return ""
  else if marker ≠ 0x0B then
    let digits := hexByte marker.toNat
    fail (.protocol .invalidStringMarker s!"invalid Stable string marker 0x{digits}")
  else
    let length ← readUleb128
    let reader ← read
    if length > reader.limits.maxStringSize then
      fail (.protocol .stringTooLarge
        s!"string length {length} exceeds limit {reader.limits.maxStringSize}")
    else
      let encoded ← take length
      match decodeUtf8 encoded with
      | some text => return text
      | none => fail (.protocol .invalidStringEncoding "Stable string is not valid UTF-8")

/-- The optional bound of a caller may only lower the configured one. -/
def effectiveLimit (limits : CodecLimits) : Option Int → Read Int
  | none => pure limits.maxListLength
  | some bound =>
    if bound < 0 then fail (.valueError "max_length must be a non-negative integer")
    else pure (min (limits.maxListLength : Int) bound)

/-- A count, then that many signed 32-bit numbers. The bound of the caller is
checked after the count is read. -/
def readI32List (lengthField : Field) (maxLength : Option Int) : Read (List Int) := do
  let count ← unpack lengthField
  let reader ← read
  let limit ← effectiveLimit reader.limits maxLength
  if count > limit then
    fail (.protocol .listTooLarge s!"list length {count} exceeds limit {limit}")
  else if count = 0 then return []
  else unpackAll (List.replicate count.toNat (.signed 4))

def readI32ListU16 (maxLength : Option Int := none) : Read (List Int) := readI32List (.unsigned 2) maxLength

def readI32ListU32 (maxLength : Option Int := none) : Read (List Int) := readI32List (.unsigned 4) maxLength

def readMessage : Read Message := do
  let sender ← readString
  let text ← readString
  let recipient ← readString
  let senderId ← readI32
  return { sender, text, recipient, senderId }

def readChannel : Read Channel := do
  let name ← readString
  let topic ← readString
  let playerCount ← readU16
  return { name, topic, playerCount }

/-- The constructor of the status rejects unknown actions and modes, after all
its fields are consumed. -/
def newClientStatus (action : Int) (infoText beatmapMd5 : String) (mods mode beatmapId : Int) :
    Except Failure ClientStatus :=
  if actionRange : 0 ≤ action ∧ action ≤ 13 then
    if modeRange : 0 ≤ mode ∧ mode ≤ 3 then
      .ok ⟨action, infoText, beatmapMd5, mods, mode, beatmapId, actionRange, modeRange⟩
    else .error (.valueError "Stable client mode must be between 0 and 3")
  else .error (.valueError "Stable client action must be between 0 and 13")

def readClientStatus : Read ClientStatus := do
  let action ← readU8
  let infoText ← readString
  let beatmapMd5 ← readString
  let mods ← readU32
  let mode ← readU8
  let beatmapId ← readI32
  match newClientStatus action infoText beatmapMd5 mods mode beatmapId with
  | .ok status => return status
  | .error failure => fail failure

def readUserPresence : Read UserPresence := do
  let userId ← readI32
  let username ← readString
  let utcOffset := (← readU8) - 24
  let countryCode ← readU8
  let privilegesAndMode := (← readU8).toNat
  let longitude ← readF32
  let latitude ← readF32
  let globalRank ← readI32
  return {
    userId, username, utcOffset, countryCode
    privileges := (privilegesAndMode &&& 0x1F : Nat)
    mode := (privilegesAndMode >>> 5 : Nat)
    longitude, latitude, globalRank }

def readUserStats : Read UserStats := do
  let userId ← readI32
  let action ← readU8
  let infoText ← readString
  let beatmapMd5 ← readString
  let mods ← readI32
  let mode ← readU8
  let beatmapId ← readI32
  let rankedScore ← readI64
  let accuracy ← readF32
  let playCount ← readI32
  let totalScore ← readI64
  let globalRank ← readI32
  let performance ← readU16
  return { userId, action, infoText, beatmapMd5, mods, mode, beatmapId, rankedScore, accuracy,
           playCount, totalScore, globalRank, performance }

/-- A slot has a user identifier on the wire exactly when its status is occupied. -/
def readSlotUser (status : Int) : Read (Option Int) := do
  if statusOccupied status then return some (← readI32) else return none

/-- Per-slot mods are on the wire only while free mods are on. -/
def readSlotMods (freemods : Bool) : Read (List Int) :=
  if freemods then collect readI32 matchSlotCount else pure []

def readMultiplayerMatch : Read MultiplayerMatch := do
  let matchId ← readI16
  let inProgress ← readBool
  let matchType ← readI8
  let mods ← readI32
  let name ← readString
  let password ← readString
  let beatmapName ← readString
  let beatmapId ← readI32
  let beatmapMd5 ← readString
  let slotStatuses ← collect readU8 matchSlotCount
  let slotTeams ← collect readU8 matchSlotCount
  let slotUserIds ← collectOver slotStatuses readSlotUser
  let hostId ← readI32
  let mode ← readU8
  let winCondition ← readU8
  let teamType ← readU8
  let freemods ← readBool
  let slotMods ← readSlotMods freemods
  let seed ← readI32
  return { matchId, inProgress, matchType, mods, name, password, beatmapName, beatmapId, beatmapMd5,
           slotStatuses, slotTeams, slotUserIds, hostId, mode, winCondition, teamType, freemods,
           slotMods, seed }

/-- The combo and bonus portions follow the fixed record of a ScoreV2 frame. -/
def readPortion (scoreV2 : Bool) : Read (Option UInt64) := do
  if scoreV2 then return some (← readF64) else return none

def readScoreFrame : Read ScoreFrame := do
  match ← unpackAll scoreFrameStruct with
  | [time, frameId, count300, count100, count50, countGeki, countKatu, countMiss, totalScore,
      maxCombo, currentCombo, perfect, currentHp, tagByte, scoreV2] =>
    if perfect ≠ 0 ∧ perfect ≠ 1 then
      fail (.protocol .invalidStructure s!"invalid score-frame perfect boolean {perfect}")
    else if scoreV2 ≠ 0 ∧ scoreV2 ≠ 1 then
      fail (.protocol .invalidStructure s!"invalid score-frame ScoreV2 boolean {scoreV2}")
    else
      let comboPortion ← readPortion (scoreV2 ≠ 0)
      let bonusPortion ← readPortion (scoreV2 ≠ 0)
      return { time, frameId, count300, count100, count50, countGeki, countKatu, countMiss, totalScore,
               maxCombo, currentCombo, perfect := perfect ≠ 0, currentHp, tagByte,
               scoreV2 := scoreV2 ≠ 0, comboPortion, bonusPortion }
  | _ => fail .indexError

def readReplayFrame : Read ReplayFrame := do
  match ← unpackAll replayFrameStruct with
  | [buttonState, taikoByte, x, y, time] =>
    return { buttonState, taikoByte, x := UInt32.ofNat x.toNat, y := UInt32.ofNat y.toNat, time }
  | _ => fail .indexError

def readReplayFrameBundle : Read ReplayFrameBundle := do
  let extra ← readI32
  let frameCount ← readU16
  let reader ← read
  if frameCount > reader.limits.maxFrameCount then
    fail (.protocol .frameCountExceeded
      s!"frame count {frameCount} exceeds limit {reader.limits.maxFrameCount}")
  else
    let frames ← collect readReplayFrame frameCount.toNat
    let actionValue ← readU8
    match ReplayAction.ofValue? actionValue with
    | none => fail (.protocol .invalidStructure s!"invalid replay action {actionValue}")
    | some action =>
      let scoreFrame ← readScoreFrame
      let sequence ← readU16
      requireExhausted
      return { frames, scoreFrame, action, extra, sequence }

end PacketReader

end Perfcho.Stable
