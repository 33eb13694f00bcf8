import Perfcho.Service.Commands
import Perfcho.Stable.LegacyMods
import Perfcho.Stable.Reader

/-! The match packets of a Stable client and its logout, as the calls of the multiplayer
service that they make. What a client is told is left out. -/

namespace Perfcho.Stable

open Foundation Scoring Multiplayer Service PacketReader Program
open Durable (Moment)

/-- What a packet may raise: a failure of the codec, a rule of the mods, or a failure of
the service. -/
inductive Rejection where
  | codec (failure : Stable.Failure)
  | scoreRejected (message : String)
  | service (failure : Multiplayer.Failure)

abbrev Dispatch := Program Call Answer Rejection

structure Caller where
  accountId : Nat
  sessionId : Uuid
  family : String

/-- What is drawn while a packet is served: identifiers, the salted verifier of a
password, the times of its transactions, and whether an invited player is online. -/
structure Draws where
  moment : Moment
  later : Moment
  generated : Generated
  presenceId : Uuid
  roundId : Uuid
  hashPassword : String → PasswordFields
  online : Bool

structure Dispatcher (Blob : Type) where
  service : MultiplayerService Blob
  sha256 : Bytes → Bytes

def stableRoomCapacity : Nat := 16

def stablePublicIdLimit : Nat := 32767

def rulesets : List Ruleset := [.osu, .taiko, .fruits, .mania]

def teamModes : List TeamMode := [.headToHead, .tagCoop, .teamVs, .tagTeamVs]

def winConditions : List WinCondition := [.score, .accuracy, .combo, .scoreV2]

/-- The item at an index that is inside. -/
def itemAt (items : List α) (index : Int) : Option α := if 0 ≤ index then items[index.toNat]? else none

def isHexSpace (character : Char) : Bool :=
  character.toNat = 0x20 || (0x09 ≤ character.toNat && character.toNat ≤ 0x0D)

/-- `bytes.fromhex`: two digits for each byte, with white space between bytes only. -/
def bytesFromHex : List Char → Option Bytes
  | [] => some []
  | [last] => if isHexSpace last then some [] else none
  | high :: low :: rest =>
    if isHexSpace high then bytesFromHex (low :: rest)
    else do
      let upper ← Hex.value? high
      let lower ← Hex.value? low
      let bytes ← bytesFromHex rest
      return UInt8.ofNat (16 * upper + lower) :: bytes

def valueError (message : String) : Rejection := .service (.valueError message)

/-- `_settings_from_wire` -/
def settingsFromWire (normalizeMods : NormalizeMods) (wire : MultiplayerMatch) :
    Except Rejection RoomSettings :=
  match itemAt rulesets wire.mode, itemAt teamModes wire.teamType, itemAt winConditions wire.winCondition with
  | none, _, _ => .error (valueError "Stable match ruleset is invalid")
  | _, none, _ => .error (valueError "Stable match team mode is invalid")
  | _, _, none => .error (valueError "Stable match win condition is invalid")
  | some ruleset, some teamMode, some winCondition => do
    let mods ← (parseLegacyMods wire.mods).mapError valueError
    let variant ← (projectScoreboardVariant mods).mapError valueError
    let checksum ← if wire.beatmapMd5 = "" then .ok none else match bytesFromHex wire.beatmapMd5.toList with
        | some digest => .ok (some digest)
        | none => .error (valueError "non-hexadecimal number found in fromhex() arg")
    let settings ← (RoomSettings.new wire.name wire.beatmapName wire.beatmapId checksum ruleset
      variant teamMode winCondition
      mods wire.freemods wire.seed).mapError .service
    let _ ← (normalizeMods settings.ruleset settings.variant settings.mods).mapError .scoreRejected
    return settings

/-- `_stable_visible` -/
def stableVisible (state : RoomState) : Bool :=
  state.room.capacity = stableRoomCapacity && 0 < state.room.publicId &&
    state.room.publicId ≤ stablePublicIdLimit

/-- The version of a room that a command is keyed by. -/
def roomEpoch (state : RoomState) : String := state.room.sessionId.text ++ ":" ++ toString state.room.version

def roundEpoch (state : RoomState) : String := (state.roundId.map Uuid.text).getD "None"

/-- A payload with a value and nothing else. -/
def decode (payload : PacketReader) (body : Read Value) : Dispatch Value :=
  let whole : Read Value := do
    let value ← body
    requireExhausted
    return value
  ofExcept ((whole payload).1.mapError .codec)

namespace Dispatcher

variable {Blob : Type} (dispatcher : Dispatcher Blob)

def request (request : Request) : Dispatch (Option RoomState) :=
  (dispatcher.service.body request).adapt .service

/-- A packet of a client, with what is drawn for it. -/
structure Delivery where
  packetType : ClientPacket
  payload : PacketReader
  caller : Caller
  draws : Draws

/-- `_meta` -/
def origin (delivery : Delivery) (operation : String) (moment : Moment)
    (epoch : Option String := none) : CommandMeta :=
  let packetId := delivery.packetType.value
  let digest := dispatcher.sha256
    (UInt8.ofNat (packetId % 256) :: UInt8.ofNat (packetId / 256) :: delivery.payload.view)
  { accountId := delivery.caller.accountId
    authSessionId := delivery.caller.sessionId
    idempotencyKey := "stable-multiplayer:" ++ operation ++ ":" ++ delivery.caller.sessionId.text ++
      ":" ++ epoch.getD "session" ++ ":" ++ String.ofList (Hex.encode digest)
    family := delivery.caller.family
    moment }

def createMatch (delivery : Delivery) : Dispatch Unit := do
  let incoming ← decode delivery.payload readMultiplayerMatch
  if incoming.hostId ≠ delivery.caller.accountId then return
  else
    let settings ← ofExcept (settingsFromWire dispatcher.service.normalizeMods incoming)
    if incoming.password.length > 64 then fail (valueError "room password must contain at most 64 characters")
    else
      let created ← dispatcher.request
        (.createRoom (dispatcher.origin delivery "create" delivery.draws.moment) settings
          stableRoomCapacity stablePublicIdLimit (delivery.draws.hashPassword incoming.password)
          delivery.draws.generated)
      match created with
      | none => return
      | some state =>
        if stableVisible state then return
        else
          let _ ← dispatcher.request (.leaveRoom (dispatcher.origin delivery "dispose" delivery.draws.later)
            state.room.publicId)
          return

def joinMatch (delivery : Delivery) : Dispatch Unit := do
  let (publicId, password) ← decode delivery.payload do
    let publicId ← readI32
    let password ← readString
    return (publicId, password)
  if publicId < 1 then fail (valueError "public_id must be a positive integer")
  else if password.length > 512 then
    fail (valueError "room admission credential must contain at most 512 characters")
  else
    let _ ← dispatcher.request (.joinRoom (dispatcher.origin delivery "join" delivery.draws.moment)
      publicId.toNat password
      delivery.draws.presenceId)
    return

section

variable (delivery : Delivery) (current : RoomState)

def partMatch : Dispatch Unit := do
  decode delivery.payload (return ())
  let _ ← dispatcher.request
    (.leaveRoom (dispatcher.origin delivery "part" delivery.draws.moment (roomEpoch current))
      current.room.publicId)
  return

def changeSlot : Dispatch Unit := do
  let target ← decode delivery.payload readI32
  if 0 ≤ target ∧ target < stableRoomCapacity then
    let _ ← dispatcher.request (.moveSlot current.room.publicId delivery.caller.accountId target)
    return
  else fail (valueError "Stable slot is outside the supported range")

/-- The packets that only say what a slot is doing now. -/
def setStatus (status : SlotStatus) (delivery : Delivery) (current : RoomState) : Dispatch Unit := do
  decode delivery.payload (return ())
  let _ ← dispatcher.request (.setSlotStatus current.room.publicId delivery.caller.accountId status)
  return

def lockSlot : Dispatch Unit := do
  let target ← decode delivery.payload readI32
  match itemAt current.slots target with
  | none => return
  | some slot =>
    if let some account := slot.accountId then
      let _ ← dispatcher.request
        (.kickParticipant (dispatcher.origin delivery "kick" delivery.draws.moment (roomEpoch current))
          current.room.publicId current.room.version account)
    let _ ← dispatcher.request (.lockSlot current.room.publicId delivery.caller.accountId target)
    return

def changeSettings : Dispatch Unit := do
  let incoming ← decode delivery.payload readMultiplayerMatch
  if incoming.hostId ≠ delivery.caller.accountId then return
  else
    let settings ← ofExcept (settingsFromWire dispatcher.service.normalizeMods incoming)
    let _ ← dispatcher.request (.updateSettings
      (dispatcher.origin delivery "settings" delivery.draws.moment (roomEpoch current))
      current.room.publicId current.room.version settings)
    return

def changePassword : Dispatch Unit := do
  let incoming ← decode delivery.payload readMultiplayerMatch
  if incoming.hostId ≠ delivery.caller.accountId then return
  else if incoming.password.length > 64 then
    fail (valueError "room password must contain at most 64 characters")
  else
    let _ ← dispatcher.request (.changePassword
      (dispatcher.origin delivery "password" delivery.draws.moment (roomEpoch current))
      current.room.publicId current.room.version (delivery.draws.hashPassword incoming.password))
    return

/-- New mods of the room, with the variant that they stand for. -/
def updateMods (operation : String) (mods : List CanonicalMod) :
    Dispatch Unit := do
  let variant ← ofExcept ((projectScoreboardVariant mods).mapError valueError)
  let _ ← dispatcher.request (.updateSettings
    (dispatcher.origin delivery operation delivery.draws.moment (roomEpoch current))
    current.room.publicId current.room.version { current.room.settings with mods, variant })
  return

def changeMods : Dispatch Unit := do
  let legacyBits ← decode delivery.payload readI32
  let mods ← ofExcept ((parseLegacyMods legacyBits).mapError valueError)
  let host := current.room.hostAccountId = delivery.caller.accountId
  if current.room.settings.freeMods then
    if host then dispatcher.updateMods delivery current "speed-mods" (mods.filter isSpeedMod)
    let _ ← dispatcher.request
      (.setSlotMods current.room.publicId delivery.caller.accountId (mods.filter (!isSpeedMod ·)))
    return
  else if host then dispatcher.updateMods delivery current "mods" mods
  else return

def changeTeam : Dispatch Unit := do
  decode delivery.payload (return ())
  match current.slotFor delivery.caller.accountId with
  | none => return
  | some slot =>
    let _ ← dispatcher.request
      (.setSlotTeam current.room.publicId delivery.caller.accountId (if slot.team = 2 then 1 else 2))
    return

def startRound : Dispatch Unit := do
  decode delivery.payload (return ())
  let _ ← dispatcher.request
    (.startRound (dispatcher.origin delivery "start" delivery.draws.moment (roomEpoch current))
      current.room.publicId current.room.version delivery.draws.roundId)
  return

def completeRound : Dispatch Unit := do
  decode delivery.payload (return ())
  match ← dispatcher.request (.setSlotStatus current.room.publicId delivery.caller.accountId .complete) with
  | none => return
  | some state =>
    if state.slots.any (·.status = .playing) then return
    else
      let _ ← dispatcher.request (.completeRound
        (dispatcher.origin delivery "complete" delivery.draws.moment (roundEpoch current))
        current.room.publicId state.room.version false)
      return

/-- The packets that set a mark of a player. -/
def mark (marks : Nat → Nat → Request) (delivery : Delivery) (current : RoomState) : Dispatch Unit := do
  decode delivery.payload (return ())
  let _ ← dispatcher.request (marks current.room.publicId delivery.caller.accountId)
  return

def transferHost : Dispatch Unit := do
  let position ← decode delivery.payload readI32
  match (itemAt (current.slots.take stableRoomCapacity) position).bind (·.accountId) with
  | none => return
  | some target =>
    let _ ← dispatcher.request
      (.changeHost (dispatcher.origin delivery "host" delivery.draws.moment (roomEpoch current))
        current.room.publicId current.room.version target)
    return

/-- The access check and the read of an invitation. -/
def invitePlayer : Dispatch Unit := do
  let target ← decode delivery.payload readI32
  if target < 1 ∨ target = delivery.caller.accountId ∨ delivery.draws.online = false then return
  else
    (Method.access delivery.caller.accountId playPermissions).adapt .service
    let _ ← dispatcher.request (.getRoom current.room.publicId)
    return

/-- `_dispatch_room_packet` -/
def roomPacket : Dispatch Unit :=
  match delivery.packetType with
  | .partMatch => dispatcher.partMatch delivery current
  | .matchChangeSlot => dispatcher.changeSlot delivery current
  | .matchReady => dispatcher.setStatus .ready delivery current
  | .matchLock => dispatcher.lockSlot delivery current
  | .matchChangeSettings => dispatcher.changeSettings delivery current
  | .matchChangePassword => dispatcher.changePassword delivery current
  | .matchChangeMods => dispatcher.changeMods delivery current
  | .matchChangeTeam => dispatcher.changeTeam delivery current
  | .matchStart => dispatcher.startRound delivery current
  | .matchComplete => dispatcher.completeRound delivery current
  | .matchLoadComplete => dispatcher.mark .markLoaded delivery current
  | .matchNoBeatmap => dispatcher.setStatus .noBeatmap delivery current
  | .matchNotReady | .matchHasBeatmap => dispatcher.setStatus .notReady delivery current
  | .matchFailed => dispatcher.mark .markFailed delivery current
  | .matchSkipRequest => dispatcher.mark .markSkipped delivery current
  | .matchTransferHost => dispatcher.transferHost delivery current
  | .matchInvite => dispatcher.invitePlayer delivery current
  | _ => return

end

/-- `_dispatch_multiplayer_packet` -/
def packet (delivery : Delivery) : Dispatch Unit :=
  match delivery.packetType with
  | .joinLobby | .partLobby => return
  | .createMatch => dispatcher.createMatch delivery
  | .joinMatch => dispatcher.joinMatch delivery
  | .matchScoreUpdate => do
    let _ ← decode delivery.payload readScoreFrame
    let _ ← (Method.cachedRoomForAccount delivery.caller.accountId).adapt .service
    return
  | _ => do
    match ← dispatcher.request (.findRoomForAccount delivery.caller.accountId) with
    | none => return
    | some current => dispatcher.roomPacket delivery current

/-- What `_logout` does to the rooms. -/
def logout (caller : Caller) (moment : Moment) : Dispatch Unit := do
  let _ ← dispatcher.request (.findRoomForAccount caller.accountId)
  let origin : CommandMeta := {
    accountId := caller.accountId, authSessionId := caller.sessionId, family := caller.family,
    moment, idempotencyKey := "stable-multiplayer:logout:" ++ caller.sessionId.text }
  let _ ← dispatcher.request (.cleanupPresence origin caller.accountId caller.sessionId "client_logout")
  return

end Dispatcher

end Perfcho.Stable
