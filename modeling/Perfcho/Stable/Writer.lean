import Perfcho.Foundation.Action
import Perfcho.Stable.Models
import Perfcho.Stable.Wire

/-! The append-only packet writer. A header is reserved when a packet begins and
its length is filled in when the packet ends. -/

namespace Perfcho.Stable

open Foundation Action

structure PacketWriter where
  buffer : Bytes
  packetCount : Nat
  packetStart : Option Nat
  limits : CodecLimits

abbrev Write (Value : Type) := Action PacketWriter Failure Value

namespace PacketWriter

def init (limits : CodecLimits) : PacketWriter := ⟨[], 0, none, limits⟩

def packetOpen (writer : PacketWriter) : Bool := writer.packetStart.isSome

/-- Whether the buffer may grow by a number of bytes, inside the body bound and,
while a packet is open, inside the packet bound. -/
def ensureCapacity (additional : Nat) : Write Unit := do
  let writer ← read
  let targetSize := writer.buffer.length + additional
  if targetSize > writer.limits.maxBodySize then
    fail (.protocol .bodyTooLarge
      s!"encoded body length {targetSize} exceeds limit {writer.limits.maxBodySize}")
  else match writer.packetStart with
    | none => return
    | some packetStart =>
      let payloadSize : Int := (targetSize : Int) - packetStart - headerSize
      if payloadSize > writer.limits.maxPacketSize then
        fail (.protocol .packetTooLarge
          s!"encoded packet length {payloadSize} exceeds limit {writer.limits.maxPacketSize}")
      else return

def extend (bytes : Bytes) : Write Unit := do
  let writer ← read
  write { writer with buffer := writer.buffer ++ bytes }

/-- Drop every byte from an offset on. -/
def truncate (offset : Nat) : Write Unit := do
  let writer ← read
  write { writer with buffer := writer.buffer.take offset }

/-- Overwrite bytes in place. The buffer does not grow. -/
def packInto (offset : Nat) (bytes : Bytes) : Write Unit := do
  let writer ← read
  if offset + bytes.length ≤ writer.buffer.length then
    write { writer with
      buffer := writer.buffer.take offset ++ bytes ++ writer.buffer.drop (offset + bytes.length) }
  else fail .structError

def reserve (size : Nat) : Write Nat := do
  ensureCapacity size
  let writer ← read
  extend (List.replicate size 0)
  return writer.buffer.length

/-- Reserve a record and fill it, or give the reserved bytes back when a value does not fit. -/
def packRecord (layout : Layout) (values : List Int) (message : String) : Write Unit := do
  let offset ← reserve layout.size
  match layout.pack values with
  | some bytes => packInto offset bytes
  | none => do
    truncate offset
    fail (.protocol .invalidStructure message)

def pack (field : Field) (value : Int) : Write Unit :=
  packRecord [field] [value] s!"value {value} does not fit its Stable wire type"

def beginPacket (packetId : Int) : Write Unit := do
  let writer ← read
  if writer.packetStart.isSome then
    fail (.protocol .protocolState "cannot begin a packet while another packet is open")
  else if writer.packetCount ≥ writer.limits.maxPacketCount then
    fail (.protocol .packetCountExceeded s!"packet count exceeds limit {writer.limits.maxPacketCount}")
  else if ¬ (0 ≤ packetId ∧ packetId ≤ 0xFFFF) then
    fail (.protocol .invalidStructure s!"packet identifier {packetId} is outside u16 range")
  else do
    ensureCapacity headerSize
    let start := writer.buffer.length
    write { writer with packetStart := some start }
    extend (List.replicate headerSize 0)
    packInto start ((Field.unsigned 2).encode packetId)

/-- Fill in the length of the open packet. A payload whose length does not fit
its header field leaves the packet open. -/
def endPacket : Write Unit := do
  let writer ← read
  match writer.packetStart with
  | none => fail (.protocol .protocolState "no packet is open")
  | some packetStart =>
    let payloadSize : Int := (writer.buffer.length : Int) - packetStart - headerSize
    match Layout.pack [.unsigned 4] [payloadSize] with
    | none => fail .structError
    | some bytes => do
      packInto (packetStart + 3) bytes
      let writer ← read
      write { writer with packetStart := none, packetCount := writer.packetCount + 1 }

def cancelPacket : Write Unit := do
  let writer ← read
  match writer.packetStart with
  | none => fail (.protocol .protocolState "no packet is open")
  | some packetStart => do
    truncate packetStart
    let writer ← read
    write { writer with packetStart := none }

/-- Leaving a packet context with a failure discards the packet, and the failure goes on. -/
def exit (writer : PacketWriter) (failure : Failure) : Failure × PacketWriter :=
  match cancelPacket writer with
  | (.ok (), cancelled) => (failure, cancelled)
  | (.error other, cancelled) => (other, cancelled)

/-- The packet context: a body that fails is discarded with its header; a body
that succeeds is finalized. -/
def packet (packetId : Int) (body : Write Unit) : Write Unit := do
  beginPacket packetId
  onFailure body exit
  endPacket

def writeRaw (value : Bytes) : Write Unit := do
  ensureCapacity value.length
  extend value

def writePacket (packetId : Int) (payload : Bytes) : Write Unit := packet packetId (writeRaw payload)

def toBytes (writer : PacketWriter) : Except Failure Bytes :=
  if writer.packetStart.isSome then
    .error (.protocol .protocolState "cannot export while a packet is open")
  else .ok writer.buffer

def writeI8 (value : Int) : Write Unit := pack (.signed 1) value

def writeU8 (value : Int) : Write Unit := pack (.unsigned 1) value

def writeI16 (value : Int) : Write Unit := pack (.signed 2) value

def writeU16 (value : Int) : Write Unit := pack (.unsigned 2) value

def writeI32 (value : Int) : Write Unit := pack (.signed 4) value

def writeU32 (value : Int) : Write Unit := pack (.unsigned 4) value

def writeI64 (value : Int) : Write Unit := pack (.signed 8) value

def writeU64 (value : Int) : Write Unit := pack (.unsigned 8) value

def writeF16 (value : UInt16) : Write Unit := pack (.unsigned 2) value.toNat

def writeF32 (value : UInt32) : Write Unit := pack (.unsigned 4) value.toNat

def writeF64 (value : UInt64) : Write Unit := pack (.unsigned 8) value.toNat

def writeBool (value : Bool) : Write Unit := pack (.unsigned 1) value.toNat

def bitLength (value : Nat) : Nat := if value = 0 then 0 else Nat.log2 value + 1

/-- The digits of a number in base 128, least significant first, all but the last
with the continuation bit. A number below the fuel ends before the fuel does. -/
def writeUleb128Loop : Nat → Nat → Write Unit
  | 0, _ => pure ()
  | fuel + 1, value => do
    let byte := value &&& 0x7F
    let remaining := value >>> 7
    writeU8 ((if remaining ≠ 0 then byte ||| 0x80 else byte : Nat))
    if remaining = 0 then return else writeUleb128Loop fuel remaining

def writeUleb128 (value : Int) : Write Unit := do
  if ¬ (0 ≤ value ∧ value ≤ 0xFFFFFFFF) then
    fail (.protocol .invalidStructure s!"ULEB128 value {value} is outside u32 range")
  else
    let writer ← read
    let byteCount := max 1 ((bitLength value.toNat + 6) / 7)
    if byteCount > writer.limits.maxUleb128Bytes then
      fail (.protocol .malformedUleb128
        s!"ULEB128 value requires more than {writer.limits.maxUleb128Bytes} bytes")
    else writeUleb128Loop (value.toNat + 1) value.toNat

def encodeUtf8 (text : String) : Bytes := text.toUTF8.data.toList

def writeString (value : String) : Write Unit := do
  if value = "" then writeU8 0x00
  else
    let encoded := encodeUtf8 value
    let writer ← read
    if encoded.length > writer.limits.maxStringSize then
      fail (.protocol .stringTooLarge
        s!"string length {encoded.length} exceeds limit {writer.limits.maxStringSize}")
    else do
      writeU8 0x0B
      writeUleb128 encoded.length
      writeRaw encoded

/-- A count, then the items. Items that do not fit take the count back with them. -/
def writeI32List (values : List Int) (lengthField : Field) : Write Unit := do
  let count := values.length
  let writer ← read
  if count > writer.limits.maxListLength then
    fail (.protocol .listTooLarge s!"list length {count} exceeds limit {writer.limits.maxListLength}")
  else if count > 256 ^ lengthField.size - 1 then
    fail (.protocol .listTooLarge s!"list length {count} cannot fit its wire prefix")
  else do
    let start := writer.buffer.length
    pack lengthField count
    let layout : Layout := List.replicate count (.signed 4)
    let offset ← reserve layout.size
    match layout.pack values with
    | some bytes => packInto offset bytes
    | none => do
      truncate start
      fail (.protocol .invalidStructure "list item does not fit the Stable i32 wire type")

def writeI32ListU16 (values : List Int) : Write Unit := writeI32List values (.unsigned 2)

def writeI32ListU32 (values : List Int) : Write Unit := writeI32List values (.unsigned 4)

def writeMessage (message : Message) : Write Unit := do
  writeString message.sender
  writeString message.text
  writeString message.recipient
  writeI32 message.senderId

def writeChannel (channel : Channel) : Write Unit := do
  writeString channel.name
  writeString channel.topic
  writeU16 channel.playerCount

def writeClientStatus (status : ClientStatus) : Write Unit := do
  writeU8 status.action
  writeString status.infoText
  writeString status.beatmapMd5
  writeU32 status.mods
  writeU8 status.mode
  writeI32 status.beatmapId

/-- The mode and the privileges share one byte, so each is held to its bits. -/
def writeUserPresence (presence : UserPresence) : Write Unit := do
  if ¬ (0 ≤ presence.mode ∧ presence.mode ≤ 7) then
    fail (.protocol .invalidStructure s!"mode {presence.mode} is outside packed 3-bit range")
  else if ¬ (0 ≤ presence.privileges ∧ presence.privileges ≤ 0x1F) then
    fail (.protocol .invalidStructure s!"privileges {presence.privileges} are outside packed 5-bit range")
  else do
    writeI32 presence.userId
    writeString presence.username
    writeU8 (presence.utcOffset + 24)
    writeU8 presence.countryCode
    writeU8 ((presence.privileges.toNat ||| presence.mode.toNat <<< 5 : Nat))
    writeF32 presence.longitude
    writeF32 presence.latitude
    writeI32 presence.globalRank

def writeUserStats (stats : UserStats) : Write Unit := do
  writeI32 stats.userId
  writeU8 stats.action
  writeString stats.infoText
  writeString stats.beatmapMd5
  writeI32 stats.mods
  writeU8 stats.mode
  writeI32 stats.beatmapId
  writeI64 stats.rankedScore
  writeF32 stats.accuracy
  writeI32 stats.playCount
  writeI64 stats.totalScore
  writeI32 stats.globalRank
  writeU16 stats.performance

def requireSlots (name : String) (length : Nat) : Write Unit := do
  if length ≠ matchSlotCount then
    fail (.protocol .invalidStructure s!"{name} must contain exactly {matchSlotCount} entries")

def requireSlotMods (value : MultiplayerMatch) : Write Unit := do
  if value.freemods then requireSlots "slot_mods" value.slotMods.length
  else if value.slotMods ≠ [] then
    fail (.protocol .invalidStructure "slot_mods must be empty when freemods is disabled")

/-- Every slot has a user exactly when its status is occupied. -/
def requireOccupancy (value : MultiplayerMatch) : Write Unit := do
  if (value.slotStatuses.zip value.slotUserIds).any fun (status, userId) =>
    statusOccupied status != userId.isSome then
    fail (.protocol .invalidStructure "slot status and user identifier occupancy disagree")

def writePassword (password : String) (sendPassword : Bool) : Write Unit :=
  if password ≠ "" ∧ !sendPassword then writeRaw [0x0B, 0x00] else writeString password

def writeSlotUser (userId : Option Int) : Write Unit :=
  match userId with
  | some userId => writeI32 userId
  | none => pure ()

def writeMultiplayerMatch (value : MultiplayerMatch) (sendPassword : Bool := true) : Write Unit := do
  requireSlots "slot_statuses" value.slotStatuses.length
  requireSlots "slot_teams" value.slotTeams.length
  requireSlots "slot_user_ids" value.slotUserIds.length
  requireSlotMods value
  requireOccupancy value
  writeI16 value.matchId
  writeBool value.inProgress
  writeI8 value.matchType
  writeI32 value.mods
  writeString value.name
  writePassword value.password sendPassword
  writeString value.beatmapName
  writeI32 value.beatmapId
  writeString value.beatmapMd5
  forEach value.slotStatuses writeU8
  forEach value.slotTeams writeU8
  forEach value.slotUserIds writeSlotUser
  writeI32 value.hostId
  writeU8 value.mode
  writeU8 value.winCondition
  writeU8 value.teamType
  writeBool value.freemods
  forEach value.slotMods writeI32
  writeI32 value.seed

/-- The portions of a ScoreV2 frame. Both are there when this is reached. -/
def writePortion (portion : Option UInt64) : Write Unit :=
  match portion with
  | some portion => writeF64 portion
  | none => pure ()

def scoreFrameValues (frame : ScoreFrame) : List Int :=
  [frame.time, frame.frameId, frame.count300, frame.count100, frame.count50, frame.countGeki,
    frame.countKatu, frame.countMiss, frame.totalScore, frame.maxCombo, frame.currentCombo,
    frame.perfect.toNat, frame.currentHp, frame.tagByte, frame.scoreV2.toNat]

def writeScoreFrame (frame : ScoreFrame) : Write Unit := do
  if frame.scoreV2 ∧ (frame.comboPortion.isNone ∨ frame.bonusPortion.isNone) then
    fail (.protocol .invalidStructure "ScoreV2 frames require combo and bonus portions")
  else if ¬ frame.scoreV2 ∧ (frame.comboPortion.isSome ∨ frame.bonusPortion.isSome) then
    fail (.protocol .invalidStructure "non-ScoreV2 frames cannot contain ScoreV2 portions")
  else do
    packRecord scoreFrameStruct (scoreFrameValues frame) "score frame value does not fit its Stable wire type"
    if frame.scoreV2 then do
      writePortion frame.comboPortion
      writePortion frame.bonusPortion

def writeReplayFrame (frame : ReplayFrame) : Write Unit :=
  packRecord replayFrameStruct [frame.buttonState, frame.taikoByte, frame.x.toNat, frame.y.toNat,
    frame.time] "replay frame value does not fit its Stable wire type"

def writeReplayFrameBundle (bundle : ReplayFrameBundle) : Write Unit := do
  let frameCount := bundle.frames.length
  let writer ← read
  if frameCount > writer.limits.maxFrameCount then
    fail (.protocol .frameCountExceeded
      s!"frame count {frameCount} exceeds limit {writer.limits.maxFrameCount}")
  else if frameCount > 0xFFFF then
    fail (.protocol .frameCountExceeded s!"frame count {frameCount} cannot fit its wire prefix")
  else do
    writeI32 bundle.extra
    writeU16 frameCount
    forEach bundle.frames writeReplayFrame
    writeU8 bundle.action.value
    writeScoreFrame bundle.scoreFrame
    writeU16 bundle.sequence

end PacketWriter

end Perfcho.Stable
