import Perfcho.Scoring.Models

/-! Rooms, slots and their projections. Every constructor of the source checks
its fields; a value of these types carries what the checks established. -/

namespace Perfcho.Multiplayer

open Foundation Scoring List

/-- Everything the multiplayer component raises. -/
inductive Failure where
  | valueError (message : String)
  | typeError (message : String)
  | runtimeError (message : String)
  | stopIteration
  | matchNotFound (message : String)
  | matchFull (message : String)
  | matchStateRejected (message : String)
  | matchPermissionDenied (message : String)
  | matchConcurrencyConflict (message : String)
  | matchAlreadyJoined (message : String)
  | matchPasswordRejected (message : String)
  | matchProjectionUnavailable (message : String)
  | responseError
  | integrityError (constraintName : String)
  deriving DecidableEq

def maxRoomCapacity : Nat := 1024

inductive TeamMode where
  | headToHead | tagCoop | teamVs | tagTeamVs
  deriving DecidableEq

inductive WinCondition where
  | score | accuracy | combo | scoreV2
  deriving DecidableEq

inductive SlotStatus where
  | open | locked | notReady | ready | noBeatmap | playing | complete
  deriving DecidableEq

def SlotStatus.occupied : SlotStatus → Bool
  | .open | .locked => false
  | _ => true

/-- Whether a snapshot is backed by the live projection. -/
inductive ProjectionStatus where
  | live | durableRecovery
  deriving DecidableEq

/-- Shared room configuration. The name is stripped and neither empty nor too long. -/
structure RoomSettings where
  name : String
  beatmapName : String
  externalBeatmapId : Int
  beatmapMd5 : Option (List UInt8)
  ruleset : Ruleset
  variant : ScoreboardVariant
  teamMode : TeamMode
  winCondition : WinCondition
  mods : List CanonicalMod := []
  freeMods : Bool := false
  seed : Int := 0
  stripped : Text.strip name = name
  named : name ≠ "" ∧ name.length ≤ 255
  beatmapNamed : beatmapName.length ≤ 255
  identified : -1 ≤ externalBeatmapId
  checksum : ∀ digest, beatmapMd5 = some digest → digest.length = 16

/-- Strip the name, then check the bounded texts, the map identity and the checksum. -/
def RoomSettings.new (name beatmapName : String) (externalBeatmapId : Int) (beatmapMd5 : Option (List UInt8))
    (ruleset : Ruleset) (variant : ScoreboardVariant) (teamMode : TeamMode) (winCondition : WinCondition)
    (mods : List CanonicalMod) (freeMods : Bool) (seed : Int) : Except Failure RoomSettings :=
  if named : Text.strip name ≠ "" ∧ (Text.strip name).length ≤ 255 then
    if beatmapNamed : beatmapName.length ≤ 255 then
      if identified : -1 ≤ externalBeatmapId then
        if checksum : ∀ digest, beatmapMd5 = some digest → digest.length = 16 then
          .ok ⟨Text.strip name, beatmapName, externalBeatmapId, beatmapMd5, ruleset, variant, teamMode,
            winCondition, mods, freeMods, seed, Text.strip_idempotent name, named, beatmapNamed,
            identified, checksum⟩
        else .error (.valueError "beatmap_md5 must contain 16 bytes")
      else .error (.valueError "external_beatmap_id must be -1 or greater")
    else .error (.valueError "beatmap_name must contain at most 255 characters")
  else .error (.valueError "room name must contain at most 255 characters")

structure RoomSlot where
  position : Nat
  status : SlotStatus
  accountId : Option Nat
  team : Nat
  mods : List CanonicalMod
  loaded : Bool
  skipped : Bool
  failed : Bool
  inside : position < maxRoomCapacity
  positive : ∀ account, accountId = some account → 1 ≤ account
  coherent : status.occupied = accountId.isSome
  teamed : team ≤ 2

def RoomSlot.new (position : Nat) (status : SlotStatus) (accountId : Option Nat := none) (team : Nat := 0)
    (mods : List CanonicalMod := []) (loaded skipped failed : Bool := false) : Except Failure RoomSlot :=
  if inside : position < maxRoomCapacity then
    if positive : ∀ account, accountId = some account → 1 ≤ account then
      if coherent : status.occupied = accountId.isSome then
        if teamed : team ≤ 2 then
          .ok ⟨position, status, accountId, team, mods, loaded, skipped, failed, inside, positive,
            coherent, teamed⟩
        else .error (.valueError "slot team must be neutral, red, or blue")
      else .error (.valueError "occupied slot status and account_id are inconsistent")
    else .error (.valueError "account_id must be a positive integer")
  else .error (.valueError "slot position is outside the room capacity bound")

section

variable {position team : Nat} {status : SlotStatus} {accountId : Option Nat} {mods : List CanonicalMod}
variable {loaded skipped failed : Bool}

theorem RoomSlot.new_ok (inside : position < maxRoomCapacity)
    (positive : ∀ account, accountId = some account → 1 ≤ account)
    (coherent : status.occupied = accountId.isSome) (teamed : team ≤ 2) :
    RoomSlot.new position status accountId team mods loaded skipped failed =
      .ok ⟨position, status, accountId, team, mods, loaded, skipped, failed, inside, positive,
      coherent, teamed⟩ := by
  rw [RoomSlot.new, dif_pos inside, dif_pos positive, dif_pos coherent, dif_pos teamed]

theorem RoomSlot.new_open (inside : position < maxRoomCapacity) :
    ∃ slot, RoomSlot.new position .open = .ok slot ∧ slot.position = position ∧ slot.accountId = none :=
  ⟨_, RoomSlot.new_ok inside (by simp) rfl (by simp), rfl, rfl⟩

theorem RoomSlot.new_taken (inside : position < maxRoomCapacity) (occupies : status.occupied = true)
    (positive : 1 ≤ account) (teamed : team ≤ 2) :
    ∃ slot, RoomSlot.new position status (some account) team mods = .ok slot ∧
      slot.position = position ∧ slot.accountId = some account :=
  ⟨_, RoomSlot.new_ok inside (by simpa using positive) (by simpa using occupies) teamed, rfl, rfl⟩

end

/-- Durable facts of a room and of its current hosting session. -/
structure RoomRecord where
  roomId : Uuid
  publicId : Nat
  sessionId : Uuid
  version : Nat
  creatorAccountId : Nat
  hostAccountId : Nat
  capacity : Nat
  settings : RoomSettings
  requiresPassword : Bool := false
  passwordSalt : Option String := none
  passwordVerifier : Option String := none
  publicIdEpoch : Nat := 1
  positive : 1 ≤ publicId ∧ 1 ≤ creatorAccountId ∧ 1 ≤ hostAccountId ∧ 1 ≤ publicIdEpoch
  sized : 1 ≤ capacity ∧ capacity ≤ maxRoomCapacity
  paired : passwordSalt.isNone = passwordVerifier.isNone
  marked : passwordVerifier.isSome = true → requiresPassword = true

def RoomRecord.new (roomId : Uuid) (publicId : Nat) (sessionId : Uuid)
    (version creatorAccountId hostAccountId capacity : Nat) (settings : RoomSettings)
    (requiresPassword : Bool) (passwordSalt passwordVerifier : Option String)
    (publicIdEpoch : Nat) : Except Failure RoomRecord :=
  if positivePublicId : 1 ≤ publicId then
    if positiveCreator : 1 ≤ creatorAccountId then
      if positiveHost : 1 ≤ hostAccountId then
        if positiveEpoch : 1 ≤ publicIdEpoch then
          if sized : 1 ≤ capacity ∧ capacity ≤ maxRoomCapacity then
            if paired : passwordSalt.isNone = passwordVerifier.isNone then
              if marked : passwordVerifier.isSome = true → requiresPassword = true then
                .ok ⟨roomId, publicId, sessionId, version, creatorAccountId, hostAccountId,
                  capacity, settings, requiresPassword, passwordSalt, passwordVerifier, publicIdEpoch,
                  ⟨positivePublicId, positiveCreator, positiveHost, positiveEpoch⟩, sized, paired, marked⟩
              else .error (.valueError "stored room password requires its public protection marker")
            else .error (.valueError "room password fields must both be present or absent")
          else .error (.valueError "capacity is outside the supported range")
        else .error (.valueError "public_id_epoch must be a positive integer")
      else .error (.valueError "host_account_id must be a positive integer")
    else .error (.valueError "creator_account_id must be a positive integer")
  else .error (.valueError "public_id must be a positive integer")

/-- The accounts that sit in some slots, in slot order. -/
def accountsOf (slots : List RoomSlot) : List Nat := slots.filterMap (·.accountId)

/-- A room and its expiring realtime projection. -/
structure RoomState where
  room : RoomRecord
  stateRevision : Nat
  slots : List RoomSlot
  inProgress : Bool
  expiresAt : Datetime
  roundId : Option Uuid
  roundParticipantAccountIds : List Nat
  projectionStatus : ProjectionStatus
  sized : slots.length = room.capacity
  ordered : slots.map (·.position) = range room.capacity
  distinct : (accountsOf slots).Nodup
  hosted : room.hostAccountId ∈ accountsOf slots
  participants : roundParticipantAccountIds.Nodup ∧ ∀ account ∈ roundParticipantAccountIds, 1 ≤ account
  progress : inProgress = roundId.isSome
  seated : ∀ account ∈ roundParticipantAccountIds, account ∈ accountsOf slots
  timed : expiresAt.isAware = true

def RoomState.new (room : RoomRecord) (stateRevision : Nat) (slots : List RoomSlot) (inProgress : Bool)
    (expiresAt : Datetime) (roundId : Option Uuid := none) (roundParticipantAccountIds : List Nat := [])
    (projectionStatus : ProjectionStatus := .live) : Except Failure RoomState :=
  if sized : slots.length = room.capacity then
    if ordered : slots.map (·.position) = range room.capacity then
      if distinct : (accountsOf slots).Nodup then
        if hosted : room.hostAccountId ∈ accountsOf slots then
          if participants : roundParticipantAccountIds.Nodup ∧
            ∀ account ∈ roundParticipantAccountIds, 1 ≤ account then
            if progress : inProgress = roundId.isSome then
              if seated : ∀ account ∈ roundParticipantAccountIds, account ∈ accountsOf slots then
                if timed : expiresAt.isAware = true then
                  .ok ⟨room, stateRevision, slots, inProgress, expiresAt, roundId, roundParticipantAccountIds,
                    projectionStatus, sized, ordered, distinct, hosted, participants, progress, seated, timed⟩
                else .error (.valueError "expires_at must be timezone-aware")
              else .error (.valueError "round participants must occupy the room projection")
            else .error (.valueError "in-progress room state requires exactly one active round")
          else .error (.valueError "round participant account IDs must be unique and positive")
        else .error (.valueError "the room host must occupy a slot")
      else .error (.valueError "an account cannot occupy multiple slots")
    else .error (.valueError "slots must be ordered and contiguous")
  else .error (.valueError "slots must match room capacity")

/-- Everything the constructor checks, about fields that are not a state yet. -/
structure Coherent (room : RoomRecord) (slots : List RoomSlot) (inProgress : Bool) (expiresAt : Datetime)
    (roundId : Option Uuid) (roundParticipantAccountIds : List Nat) : Prop where
  ordered : slots.map (·.position) = range room.capacity
  distinct : (accountsOf slots).Nodup
  hosted : room.hostAccountId ∈ accountsOf slots
  participants : roundParticipantAccountIds.Nodup ∧ ∀ account ∈ roundParticipantAccountIds, 1 ≤ account
  progress : inProgress = roundId.isSome
  seated : ∀ account ∈ roundParticipantAccountIds, account ∈ accountsOf slots
  timed : expiresAt.isAware = true

theorem Coherent.sized (coherent : Coherent room slots inProgress expiresAt roundId frozen) :
    slots.length = room.capacity := by
  simpa using congrArg length coherent.ordered

def Coherent.state (coherent : Coherent room slots inProgress expiresAt roundId frozen)
    (stateRevision : Nat) (projectionStatus : ProjectionStatus) : RoomState :=
  ⟨room, stateRevision, slots, inProgress, expiresAt, roundId, frozen, projectionStatus, coherent.sized,
    coherent.ordered, coherent.distinct, coherent.hosted, coherent.participants, coherent.progress,
    coherent.seated, coherent.timed⟩

theorem RoomState.coherent (state : RoomState) : Coherent state.room state.slots state.inProgress
    state.expiresAt state.roundId state.roundParticipantAccountIds :=
  ⟨state.ordered, state.distinct, state.hosted, state.participants, state.progress, state.seated, state.timed⟩

section

variable {room : RoomRecord} {stateRevision : Nat} {slots : List RoomSlot} {inProgress : Bool}
  {expiresAt : Datetime} {roundId : Option Uuid} {frozen : List Nat} {projectionStatus : ProjectionStatus}

/-- The constructor accepts exactly coherent fields. -/
theorem RoomState.new_ok (coherent : Coherent room slots inProgress expiresAt roundId frozen) :
    RoomState.new room stateRevision slots inProgress expiresAt roundId frozen projectionStatus =
      .ok (coherent.state stateRevision projectionStatus) := by
  rw [RoomState.new, dif_pos coherent.sized, dif_pos coherent.ordered, dif_pos coherent.distinct,
    dif_pos coherent.hosted, dif_pos coherent.participants, dif_pos coherent.progress,
    dif_pos coherent.seated, dif_pos coherent.timed]
  rfl

theorem RoomState.new_unseated (ordered : slots.map (·.position) = range room.capacity)
    (distinct : (accountsOf slots).Nodup) (hosted : room.hostAccountId ∈ accountsOf slots)
    (participants : frozen.Nodup ∧ ∀ account ∈ frozen, 1 ≤ account)
    (progress : inProgress = roundId.isSome) (unseated : ¬ ∀ account ∈ frozen, account ∈ accountsOf slots) :
    RoomState.new room stateRevision slots inProgress expiresAt roundId frozen projectionStatus =
      .error (.valueError "round participants must occupy the room projection") := by
  have sized : slots.length = room.capacity := by simpa using congrArg length ordered
  rw [RoomState.new, dif_pos sized, dif_pos ordered, dif_pos distinct, dif_pos hosted,
    dif_pos participants, dif_pos progress, dif_neg unseated]

theorem RoomState.new_unhosted (ordered : slots.map (·.position) = range room.capacity)
    (distinct : (accountsOf slots).Nodup) (unhosted : room.hostAccountId ∉ accountsOf slots) :
    RoomState.new room stateRevision slots inProgress expiresAt roundId frozen projectionStatus =
      .error (.valueError "the room host must occupy a slot") := by
  have sized : slots.length = room.capacity := by simpa using congrArg length ordered
  rw [RoomState.new, dif_pos sized, dif_pos ordered, dif_pos distinct, dif_neg unhosted]

end

def RoomState.slotFor (state : RoomState) (account : Nat) : Option RoomSlot :=
  state.slots.find? fun slot => slot.accountId = some account

/-- One participant's place, team and mods, frozen when a round starts. -/
structure RoundParticipantSelection where
  accountId : Nat
  slotPosition : Nat
  team : Nat
  mods : List CanonicalMod
  positive : 1 ≤ accountId
  inside : slotPosition < maxRoomCapacity
  teamed : team ≤ 2

def RoundParticipantSelection.new (accountId slotPosition team : Nat) (mods : List CanonicalMod) :
    Except Failure RoundParticipantSelection :=
  if positive : 1 ≤ accountId then
    if inside : slotPosition < maxRoomCapacity then
      if teamed : team ≤ 2 then .ok ⟨accountId, slotPosition, team, mods, positive, inside, teamed⟩
      else .error (.valueError "round participant team is invalid")
    else .error (.valueError "round participant slot is outside the room capacity bound")
  else .error (.valueError "account_id must be a positive integer")

/-- The durable facts that rebuild a lost projection. -/
structure DurableRoomSnapshot where
  room : RoomRecord
  activeAccountIds : List Nat
  roundId : Option Uuid := none
  roundParticipants : List RoundParticipantSelection := []
  accounts : activeAccountIds.Nodup ∧ ∀ account ∈ activeAccountIds, 1 ≤ account
  identified : roundId = none → roundParticipants = []
  present : ∀ participant ∈ roundParticipants, participant.accountId ∈ activeAccountIds

def DurableRoomSnapshot.new (room : RoomRecord) (activeAccountIds : List Nat) (roundId : Option Uuid := none)
    (roundParticipants : List RoundParticipantSelection := []) : Except Failure DurableRoomSnapshot :=
  if accounts : activeAccountIds.Nodup ∧ ∀ account ∈ activeAccountIds, 1 ≤ account then
    if identified : roundId = none → roundParticipants.isEmpty = true then
      if present : ∀ participant ∈ roundParticipants, participant.accountId ∈ activeAccountIds then
        .ok ⟨room, activeAccountIds, roundId, roundParticipants, accounts,
          fun none => isEmpty_iff.mp (identified none), present⟩
      else .error (.valueError "active round participants must have an active presence")
    else .error (.valueError "round participants require an active round identity")
  else .error (.valueError "active account IDs must be unique and positive")

def sampleSettings : RoomSettings where
  name := "room"
  beatmapName := "map"
  externalBeatmapId := 7
  beatmapMd5 := none
  ruleset := .osu
  variant := .vanilla
  teamMode := .headToHead
  winCondition := .score
  stripped := by decide
  named := by decide
  beatmapNamed := by decide
  identified := by decide
  checksum := by decide

def sampleRoom : RoomRecord where
  roomId := ⟨replicate 16 0, rfl⟩
  publicId := 5
  sessionId := ⟨replicate 16 1, rfl⟩
  version := 3
  creatorAccountId := 1
  hostAccountId := 1
  capacity := 3
  settings := sampleSettings
  positive := by decide
  sized := by decide
  paired := rfl
  marked := by decide

def sampleRound : Uuid := ⟨replicate 16 2, rfl⟩

theorem samplePlayers : [1, 2].Nodup ∧ ∀ account ∈ [1, 2], 1 ≤ account := by decide

theorem sampleTeam : 0 ≤ 2 := by decide

theorem sampleHost : 1 ≤ 1 := by decide

theorem sampleGuest : 1 ≤ 2 := by decide

theorem sampleRival : 2 ≤ 2 := by decide

theorem sampleHostSlot : 0 < maxRoomCapacity := by decide

theorem sampleGuestSlot : 1 < maxRoomCapacity := by decide

def sampleSlot (position : Fin 3) (accountId : Option Nat)
    (positive : ∀ account, accountId = some account → 1 ≤ account) : RoomSlot where
  position := position
  status := if accountId.isSome then .ready else .open
  accountId := accountId
  team := 0
  mods := []
  loaded := false
  skipped := false
  failed := false
  inside := Nat.lt_of_lt_of_le position.isLt (by decide)
  positive := positive
  coherent := by cases accountId <;> rfl
  teamed := sampleTeam

/-- Two accounts in a room of three slots: the host in the first, a guest in the last. -/
def sampleState : RoomState where
  room := sampleRoom
  stateRevision := 3
  slots := [sampleSlot 0 (some 1) (by decide), sampleSlot 1 none (by decide),
    sampleSlot 2 (some 2) (by decide)]
  inProgress := false
  expiresAt := .aware 0
  roundId := none
  roundParticipantAccountIds := []
  projectionStatus := .live
  sized := rfl
  ordered := rfl
  distinct := by decide
  hosted := by decide
  participants := by decide
  progress := rfl
  seated := by decide
  timed := rfl

end Perfcho.Multiplayer
