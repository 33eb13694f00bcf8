import Perfcho.Service.Departures
import Perfcho.Stable.Dispatcher

/-! The multiplayer hub of a Lazer client, as the calls of the multiplayer service that its
invocations make. What a client is told is left out, and so is an invocation that does
nothing. -/

namespace Perfcho.Lazer

open Foundation Scoring Multiplayer Durable Redis Service Program Yields

/-- What is drawn while an invocation is served. -/
structure Draws where
  key : Uuid
  sessionId : Uuid
  moment : Moment
  generated : Generated
  presenceId : Uuid
  roundId : Uuid
  hashPassword : String → PasswordFields

/-- The first item of a playlist. -/
structure PlaylistItem where
  beatmapId : Option Int
  beatmapChecksum : Option String
  rulesetId : Option Int
  requiredMods : List (String × List (String × Json))

/-- The fields of a room that the hub reads from a client. -/
structure RoomFields where
  name : Option String
  matchType : Option String
  maxParticipants : Option Nat
  password : Option String
  playlist : List PlaylistItem

inductive HostInvocation where
  | transferHost (userId : Nat)
  | kickUser (userId : Nat)
  | changeSettings (name matchType : Option String)
  | startMatch
  | abortMatch

inductive Invocation where
  | createRoom (room : RoomFields)
  | joinRoomWithPassword (roomId : Nat) (password : String)
  | leaveRoom
  | changeState (newState : String)
  | changeUserMods (mods : List (String × List (String × Json)))
  | host (invocation : HostInvocation)

def maxRoomPublicId : Nat := 2147483647

/-- `_MATCH_TYPES` -/
def matchTypes : List (String × TeamMode) :=
  [("HeadToHead", .headToHead), ("TeamVersus", .teamVs), ("TagCoop", .tagCoop), ("TagTeamVersus", .tagTeamVs)]

/-- `_RULESET_IDS` -/
def rulesetIds : List (Int × Ruleset) := [(0, .osu), (1, .taiko), (2, .fruits), (3, .mania)]

/-- A text that is given and not empty, or another one. -/
def textOr (fallback : String) : Option String → String
  | none | some "" => fallback
  | some text => text

def canonicalMods (mods : List (String × List (String × Json))) : Except Failure (List CanonicalMod) :=
  mods.mapM fun (acronym, settings) => (CanonicalMod.new acronym settings).mapError .valueError

/-- `_settings_from_room` -/
def settingsFromRoom (room : RoomFields) : Except Failure RoomSettings := do
  let first := room.playlist.head?
  let beatmapId := match first.bind (·.beatmapId) with
    | none | some 0 => -1
    | some identifier => identifier
  let checksum := textOr "" (first.bind (·.beatmapChecksum))
  let ruleset := (rulesetIds.lookup ((first.bind (·.rulesetId)).getD 0)).getD .osu
  let required ← canonicalMods ((first.map (·.requiredMods)).getD [])
  let digest ← if checksum = "" then .ok none else match Stable.bytesFromHex checksum.toList with
      | some digest => .ok (some digest)
      | none => .error (.valueError "non-hexadecimal number found in fromhex() arg")
  RoomSettings.new (textOr "Unnamed room" room.name) "" beatmapId digest ruleset .vanilla
    ((matchTypes.lookup (room.matchType.getD "HeadToHead")).getD .headToHead) .score required true 0

/-- `_meta`: the key and the session are drawn anew for every command. -/
def hubMeta (account : Nat) (operation : String) (draws : Draws) : CommandMeta where
  accountId := account
  authSessionId := draws.sessionId
  idempotencyKey := "lazer-multiplayer:" ++ operation ++ ":" ++ toString account ++ ":" ++ draws.key.text
  family := "lazer"
  moment := draws.moment

/-- The settings of `_update_settings_cmd`. -/
def nextSettings (current : RoomSettings) (name matchType : Option String) : Except Failure RoomSettings :=
  RoomSettings.new (textOr current.name name) current.beatmapName current.externalBeatmapId
    current.beatmapMd5 current.ruleset
    current.variant ((matchTypes.lookup (matchType.getD "None")).getD current.teamMode)
    current.winCondition current.mods current.freeMods current.seed

def HostInvocation.operation : HostInvocation → String
  | .transferHost _ => "transfer_host"
  | .kickUser _ => "kick"
  | .changeSettings _ _ => "settings"
  | .startMatch => "start"
  | .abortMatch => "abort"

/-- The command of a host for a room that was read, with a version that it expects. -/
def HostInvocation.request (account : Nat) (draws : Draws) (state : RoomState)
    (expectedVersion : Nat) (invocation : HostInvocation) : Except Failure Request :=
  let origin := hubMeta account invocation.operation draws
  let publicId := state.room.publicId
  match invocation with
  | .transferHost userId => .ok (.changeHost origin publicId expectedVersion userId)
  | .kickUser userId => .ok (.kickParticipant origin publicId expectedVersion userId)
  | .changeSettings name matchType => do
    let settings ← nextSettings state.room.settings name matchType
    return .updateSettings origin publicId expectedVersion settings
  | .startMatch => .ok (.startRound origin publicId expectedVersion draws.roundId)
  | .abortMatch => .ok (.completeRound origin publicId expectedVersion true)

section

variable {Blob : Type} (service : MultiplayerService Blob) (account : Nat) (draws : Draws)

/-- `_current_room` -/
def currentRoom : Service.Method RoomState := do
  match ← service.findRoomForAccount account with
  | none => fail (.runtimeError "The caller is not in a room.")
  | some state => return state

def leaveRoom : Service.Method (Option RoomState) := do
  match ← service.findRoomForAccount account with
  | none => return none
  | some current => service.leaveRoom (hubMeta account "leave" draws) current.room.publicId

/-- A command of a host. The version that it quotes is the revision of the projection. -/
def command (invocation : HostInvocation) : Service.Method (Option RoomState) := do
  let state ← currentRoom service account
  let request ← ofExcept (invocation.request account draws state state.stateRevision)
  service.body request

def invoke : Invocation → Service.Method (Option RoomState)
  | .createRoom room => do
    let settings ← ofExcept (settingsFromRoom room)
    let capacity := match room.maxParticipants with
      | none | some 0 => 16
      | some count => count
    let password := textOr "" room.password
    if maxRoomCapacity < capacity then fail (.valueError "capacity is outside the supported range")
    else if 64 < password.length then fail (.valueError "room password must contain at most 64 characters")
    else
      service.createRoom (hubMeta account "create" draws) settings capacity maxRoomPublicId
        (draws.hashPassword password) draws.generated
  | .joinRoomWithPassword roomId password =>
    if roomId < 1 then fail (.valueError "public_id must be a positive integer")
    else if 512 < password.length then
      fail (.valueError "room admission credential must contain at most 512 characters")
    else service.joinRoom (hubMeta account "join" draws) roomId password draws.presenceId
  | .leaveRoom => leaveRoom service account draws
  | .changeState newState => do
    let state ← currentRoom service account
    match state.slotFor account with
    | none => return none
    | some _ =>
      service.setSlotStatus state.room.publicId account
        (if newState ∈ ["Ready", "Loaded", "ReadyForGameplay"] then .ready else .notReady)
  | .changeUserMods mods => do
    let state ← currentRoom service account
    let mods ← ofExcept (canonicalMods mods)
    service.setSlotMods state.room.publicId account mods
  | .host invocation => command service account draws invocation

end

section

variable {Blob : Type} {service : MultiplayerService Blob} {world : World Blob}
variable {account : Nat} {draws : Draws}

/-- An account has an open presence in a session. -/
def Attends (tables : Tables) (account : Nat) (sessionId : Uuid) : Prop :=
  ∃ presence ∈ tables.present sessionId, presence.accountId = account

/-- A leave over a foreign connection leaves the tables as they are. -/
theorem leaveTransaction_unchanged (foreign : Foreign tables account connection)
    (ran : leaveTransaction policies tables tables moment commandId account connection
      publicId = .ok (answer, after)) :
    after = tables := by
  obtain ⟨_, _, replay, _, ran⟩ := of_bind_bind_eq_ok ran
  cases replay with
  | some replay =>
    obtain ⟨_, _, _, _, ran⟩ := of_bind_bind_eq_ok ran
    cases ran
    rfl
  | none =>
    obtain ⟨found, located, ran⟩ := of_bind_eq_ok ran
    cases found with
    | none =>
      cases ran
      rfl
    | some room =>
      have same := (standing_of_getRoom located).2
      obtain ⟨left, leaves, ran⟩ := of_bind_eq_ok ran
      rw [leaveRoom_foreign (same.symm ▸ located) foreign] at leaves
      cases leaves
      exact (committedIfOpen_answer ran).2

theorem projectLeave_tables {committed : Committed} :
    Ends service permitted (service.projectLeave publicId account committed) world fun _ after =>
      after.tables = world.tables := by
  have does : Does service.repo (service.repo.body (.leave publicId account committed.room))
    world.store fun _ _ => True := ⟨fun _ => trivial⟩
  apply rescue (state_ends does)
  rintro result middle ⟨_, tables, _⟩
  cases result with
  | ok state => exact .pure tables
  | error failure =>
    dsimp only
    split
    · exact .pure tables
    · apply seq recovered_ends
      · rintro state after ⟨rfl, _⟩
        exact .pure tables
      · rintro failure after ⟨rfl, _⟩
        exact tables

theorem leaveRoom_tables (foreign : Foreign world.tables origin.accountId origin.authSessionId) :
    Ends service permitted (service.leaveRoom origin publicId) world fun _ after =>
    after.tables = world.tables := by
  apply seq commit_ends
  · rintro committed after ⟨_, _, ⟨⟨_, ⟨⟩⟩, _⟩ | ⟨_, ⟨⟩, ran⟩⟩
    have tables := leaveTransaction_unchanged foreign (commit_eq_ok ran).1
    have same : ∀ {method : Service.Method (Option RoomState)},
      (Ends service permitted method after fun _ final => final.tables = after.tables) →
      Ends service permitted method after fun _ final => final.tables = world.tables :=
      fun ends => ends.mono fun _ _ held => held.trans tables
    split
    · exact .pure tables
    split
    · apply same
      unfold MultiplayerService.publishCommitted
      split
      · exact .pure rfl
      · exact Asks.tables (.bind publishSnapshot_reads fun _ => .pure _)
    · exact same projectLeave_tables
  · rintro failure after ⟨_, _, ⟨_, rfl⟩ | ⟨_, ⟨⟩, _⟩⟩
    rfl

/-- A hub leave, whose session is drawn for the call, ends no presence: afterwards the
account is absent only if it was absent before. -/
theorem leaveRoom_absent_iff (drawn : Foreign world.tables account draws.sessionId) (sessionId : Uuid) :
    ¬ Attends ((leaveRoom service account draws).run (execute service) world).2.tables account sessionId ↔
      ¬ Attends world.tables account sessionId := by
  have ends : Ends service (fun _ _ => True) (leaveRoom service account draws) world fun _ after =>
      after.tables = world.tables := by
    apply seq (Asks.tables findRoomForAccount_reads)
    · intro found middle tables
      cases found with
      | none => exact .pure tables
      | some current =>
        have foreign : Foreign middle.tables account draws.sessionId := tables ▸ drawn
        exact (leaveRoom_tables foreign).mono fun _ _ same => same.trans tables
    · exact fun _ _ tables => tables
  rw [ends.ends (permits_of_forall (fun _ _ => trivial) _ _)]

def sampleDraws (number : UInt8) : Draws where
  key := sampleKey (40 + number)
  sessionId := sampleKey (60 + number)
  moment := ⟨number.toNat, number.toNat⟩
  generated := ⟨sampleKey (80 + number), sampleKey (100 + number), sampleKey (120 + number)⟩
  presenceId := sampleKey (140 + number)
  roundId := sampleKey (160 + number)
  hashPassword _ := ⟨none, none⟩

/-- A service that tells commands apart by how their keys end. -/
def hubService : MultiplayerService RoomState :=
  { plainService with policies := { plainService.policies with
      uuid5 := fun _ name => namedKey (String.ofList name.toList.reverse) } }

def sampleFields : RoomFields := ⟨some "room", none, some 2, none, []⟩

def served (world : World RoomState) (account : Nat) (number : UInt8) (invocation : Invocation) :
    World RoomState :=
  ((invoke hubService account (sampleDraws number) invocation).run (execute hubService) world).2

def raised (result : Except Multiplayer.Failure (Option RoomState)) : Option Multiplayer.Failure :=
  match result with
  | .ok _ => none
  | .error failure => some failure

def openedWorld : World RoomState := served (.empty 0) 1 1 (.createRoom sampleFields)

def presentAccounts (world : World RoomState) : List Nat :=
  (world.tables.presences.rows.filter (·.current)).map (·.accountId)

/-- An account that has left its room cannot open another one. -/
theorem left_and_present :
    presentAccounts openedWorld = [1] ∧ presentAccounts (served openedWorld 1 2 .leaveRoom) = [1] ∧
    raised ((invoke hubService 1 (sampleDraws 3) (.createRoom sampleFields)).run (execute hubService)
      (served openedWorld 1 2 .leaveRoom)).1 =
        some (.matchAlreadyJoined "account already has an active multiplayer presence") := by
  decide +kernel

instance (tables : Tables) (account : Nat) (sessionId : Uuid) :
    Decidable (Attends tables account sessionId) :=
  inferInstanceAs (Decidable (∃ presence ∈ _, _))

theorem opened_foreign : Foreign openedWorld.tables 1 (sampleDraws 2).sessionId := by
  have other : ∀ presence ∈ openedWorld.tables.presences.rows,
    presence.connectionSessionId ≠ (sampleDraws 2).sessionId := by
    decide +kernel
  exact fun presence stored _ _ => other presence stored

theorem opened_stays : Foreign openedWorld.tables 1 (sampleDraws 2).sessionId ∧
    Attends ((leaveRoom hubService 1 (sampleDraws 2)).run (execute hubService) openedWorld).2.tables
      1 (sampleKey 101) := by
  have attends : Attends openedWorld.tables 1 (sampleKey 101) := by decide +kernel
  have foreign := opened_foreign
  generalize openedWorld = world at *
  exact ⟨foreign, not_not.mp fun absent => (leaveRoom_absent_iff foreign _).mp absent attends⟩

end

section

variable {Blob : Type} {service : MultiplayerService Blob} {permitted : World Blob → Call → Prop}
variable {world middle : World Blob} {account : Nat} {draws : Draws} {state : RoomState} {room : RoomRecord}

/-- A service method whose command expects another version than the room has leaves the
tables as they are. -/
theorem mutateRoom_stale {command : Checked → Durable.Command}
    (located : world.tables.getRoom publicId = .ok (some room)) (stale : version ≠ room.version)
    (hosted : ∀ checked, (command checked).hosted = some (publicId,
      service.commandId origin.accountId origin))
    (expects : ∀ checked, (command checked).expectedVersion = some version) :
    Ends service permitted (service.mutateRoom origin permissions publicId check command project)
    world fun _ after =>
      after.tables = world.tables := by
  apply seq replay_ends
  · rintro found after ⟨rfl, _, unanswered⟩
    cases found with
    | some snapshot => exact Asks.tables (.bind publishSnapshot_reads fun _ => .pure _)
    | none =>
      apply seq (Asks.tables requireState_reads)
      · intro current before tables
        apply given
        · intro checked _
          apply seq commit_ends
          · rintro committed final ⟨_, _, ⟨⟨_, ⟨⟩⟩, _⟩ | ⟨_, ⟨⟩, ran⟩⟩
            rw [tables] at ran
            refine absurd (commit_eq_ok ran).1 (transact_stale (hosted checked) (unanswered rfl) located ?_)
            rw [expects checked]
            exact fun same => stale (Option.some.inj same)
          · rintro failure final ⟨_, _, ⟨_, rfl⟩ | ⟨_, ⟨⟩, _⟩⟩
            exact tables
        · exact fun _ _ => tables
      · exact fun _ _ tables => tables
  · rintro failure after ⟨rfl, _⟩
    rfl

theorem request_stale {invocation : HostInvocation}
    (located : world.tables.getRoom state.room.publicId = .ok (some room)) (stale : version ≠ room.version)
    (sends : invocation.request account draws state version = .ok request) :
    Ends service permitted (service.body request) world fun _ after => after.tables = world.tables := by
  cases invocation with
  | transferHost | kickUser | startMatch | abortMatch =>
    cases sends
    exact mutateRoom_stale located stale (fun _ => rfl) fun _ => rfl
  | changeSettings name matchType =>
    obtain ⟨settings, _, sends⟩ := of_bind_eq_ok sends
    cases sends
    exact clock_step (mutateRoom_stale located stale (fun _ => rfl) fun _ => rfl)

/-- A command of a host that would be committed with the version of the room is committed
by the hub exactly if the projection that the hub reads has that number as its revision. -/
theorem command_commits_iff {invocation : HostInvocation} {request : Request}
    (found : (service.findRoomForAccount account).run (execute service) world = (.ok (some state), middle))
    (located : middle.tables.getRoom state.room.publicId = .ok (some room))
    (fresh : middle.tables.commandApplied
      (service.commandId account (hubMeta account invocation.operation draws)) = false)
    (sends : invocation.request account draws state room.version = .ok request)
    (allowed : (serve service middle request).tables.commandApplied
      (service.commandId account (hubMeta account invocation.operation draws)) = true) :
    ((command service account draws invocation).run (execute service) world).2.tables.commandApplied
        (service.commandId account (hubMeta account invocation.operation draws)) = true ↔
      state.stateRevision = room.version := by
  have current : (currentRoom service account).run (execute service) world = (.ok state, middle) := by
    rw [currentRoom, run_bind_ok found]
    rfl
  rw [command, run_bind_ok current]
  by_cases same : state.stateRevision = room.version
  · rw [same, sends]
    exact iff_of_true allowed rfl
  refine iff_of_false ?_ same
  cases quoted : invocation.request account draws state state.stateRevision with
  | error failure =>
    have stopped : ∀ next : Request → Service.Method (Option RoomState),
      ((ofExcept (.error failure) >>= next).run (execute service) middle).2 = middle := fun _ => rfl
    rw [stopped, fresh]
    exact Bool.false_ne_true
  | ok quoting =>
    have tables : ((service.body quoting).run (execute service) middle).2.tables = middle.tables :=
      (request_stale located same quoted).ends (permits_of_forall (fun _ _ => trivial) _ _)
    change ¬ ((service.body quoting).run (execute service) middle).2.tables.commandApplied _ = true
    rw [tables, fresh]
    exact Bool.false_ne_true

def joinedWorld : World RoomState := served openedWorld 2 2 (.joinRoomWithPassword 1 "")

def readiedWorld : World RoomState := served joinedWorld 2 3 (.changeState "Ready")

def transferId : Uuid :=
  hubService.commandId 1 (hubMeta 1 (HostInvocation.transferHost 2).operation (sampleDraws 4))

/-- What a transfer of the host with a version is answered, and whether it is recorded. -/
def transferred (world : World RoomState) (version : Nat) : Option Multiplayer.Failure × Bool :=
  let run := (hubService.body (.changeHost (hubMeta 1 "transfer_host" (sampleDraws 4)) 1 version 2)).run
    (execute hubService) world
  (raised run.1, run.2.tables.commandApplied transferId)

def hubTransfer (world : World RoomState) : Option Multiplayer.Failure × Bool :=
  let run := (command hubService 1 (sampleDraws 4) (.transferHost 2)).run (execute hubService) world
  (raised run.1, run.2.tables.commandApplied transferId)

/-- After a slot has changed, the hub quotes a version that the room never had. -/
theorem readied_transfer_conflicts : transferred readiedWorld 2 = (none, true) ∧
    hubTransfer readiedWorld = (some (.matchConcurrencyConflict "room aggregate version changed"),
    false) := by
  decide +kernel

/-- A room read for account 1 whose host may be transferred and whose counters agree. -/
def agrees (world : World RoomState) : Bool :=
  match (hubService.findRoomForAccount 1).run (execute hubService) world with
  | (.ok (some state), middle) =>
    match middle.tables.getRoom state.room.publicId with
    | .ok (some room) => !middle.tables.commandApplied transferId && state.stateRevision == room.version &&
      (serve hubService middle (.changeHost (hubMeta 1 "transfer_host" (sampleDraws 4)) state.room.publicId
        room.version 2)).tables.commandApplied transferId
    | _ => false
  | _ => false

theorem joined_agrees : agrees joinedWorld = true := by
  decide +kernel

theorem joined_transfer_commits : agrees joinedWorld = true ∧ (hubTransfer joinedWorld).2 = true := by
  have agreed := joined_agrees
  generalize joinedWorld = world at *
  refine ⟨agreed, ?_⟩
  unfold agrees transferId at agreed
  unfold hubTransfer transferId
  split at agreed
  · next state middle found =>
    split at agreed
    · next room located =>
      simp only [Bool.and_eq_true, Bool.not_eq_true', beq_iff_eq] at agreed
      have sends : (HostInvocation.transferHost 2).request 1 (sampleDraws 4) state room.version = .ok _ := rfl
      exact (command_commits_iff found located agreed.1.1 sends agreed.2).mpr agreed.1.2
    · cases agreed
  · cases agreed

end

end Perfcho.Lazer
