import Perfcho.Service.Attendance
import Perfcho.Stable.Dispatcher
import Perfcho.Stable.Writer

/-! How rounds end among Stable clients. Only the packet that completes a play looks
whether somebody still plays. -/

namespace Perfcho.Stable

open Foundation Scoring Multiplayer Service Durable Redis Program Dispatcher

variable {Blob : Type} {dispatcher : Dispatcher Blob} {permitted : World Blob → Call → Prop}
  {world after : World Blob}

/-- A part of a packet that does what requests to the service do. -/
def Serving (service : MultiplayerService Blob) (permitted : World Blob → Call → Prop)
    (program : Dispatch Value) : Prop :=
  ∀ world, Kept service world →
    Yields (execute service) permitted program world fun _ after => Moves service permitted world after

namespace Serving

variable {service : MultiplayerService Blob}

theorem pure (value : Value) : Serving service permitted (Pure.pure value) := fun _ _ => .pure .refl

theorem fail (rejection : Rejection) : Serving service permitted (Program.fail rejection : Dispatch Value) :=
  fun _ _ => .fail .refl

theorem ofExcept (result : Except Rejection Value) : Serving service permitted (Program.ofExcept result) :=
  fun _ _ => .ofExcept .refl

theorem bind (serves : Serving service permitted first)
    (continues : ∀ value, Serving service permitted (next value)) :
    Serving service permitted (first >>= next) := by
  intro world kept
  apply Yields.seq (serves world kept)
  · intro value middle moves
    exact (continues value middle (moves.kept kept)).mono fun _ _ later => moves.trans later
  · exact fun _ _ moves => moves

theorem method {method : Method Value}
    (serves : ∀ world, Kept service world → Serves service permitted method world) :
    Serving service permitted (method.adapt Rejection.service) :=
  fun world kept => (serves world kept).adapt fun _ _ moves => moves

theorem request (request : Request) : Serving dispatcher.service permitted (dispatcher.request request) :=
  .method fun _ => body_serves request

theorem last (request : Request) (value : Value) :
    Serving dispatcher.service permitted (dispatcher.request request >>= fun _ => Pure.pure value) :=
  .bind (.request request) fun _ => .pure value

theorem decode (continues : ∀ value, Serving service permitted (next value)) :
    Serving service permitted (Stable.decode payload body >>= next) :=
  .bind (.ofExcept _) continues

end Serving

section

variable (delivery : Delivery) (current : RoomState)

theorem createMatch_serving : Serving dispatcher.service permitted (dispatcher.createMatch delivery) := by
  apply Serving.decode
  intro incoming
  split
  · exact .pure _
  apply Serving.bind (.ofExcept _)
  intro settings
  split
  · exact .fail _
  apply Serving.bind (.request _)
  intro created
  cases created with
  | none => exact .pure _
  | some state =>
    dsimp only
    split
    · exact .pure _
    · exact .last _ _

theorem joinMatch_serving : Serving dispatcher.service permitted (dispatcher.joinMatch delivery) := by
  apply Serving.decode
  rintro ⟨publicId, password⟩
  dsimp only
  split
  · exact .fail _
  split
  · exact .fail _
  · exact .last _ _

theorem lockSlot_serving : Serving dispatcher.service permitted (dispatcher.lockSlot delivery current) := by
  apply Serving.decode
  intro target
  split
  · exact .pure _
  · dsimp only
    split
    · exact .bind (.request _) fun _ => .last _ _
    · exact .last _ _

theorem updateMods_serving (operation : String) (mods : List CanonicalMod) :
    Serving dispatcher.service permitted (dispatcher.updateMods delivery current operation mods) :=
  .bind (.ofExcept _) fun _ => .last _ _

theorem changeMods_serving :
    Serving dispatcher.service permitted (dispatcher.changeMods delivery current) := by
  apply Serving.decode
  intro legacyBits
  apply Serving.bind (.ofExcept _)
  intro mods
  dsimp only
  split
  · split
    · exact .bind (updateMods_serving _ _ _ _) fun _ => .last _ _
    · exact .last _ _
  · split
    · exact updateMods_serving _ _ _ _
    · exact .pure _

theorem completeRound_serving :
    Serving dispatcher.service permitted (dispatcher.completeRound delivery current) := by
  apply Serving.decode
  intro _
  apply Serving.bind (.request _)
  intro updated
  cases updated with
  | none => exact .pure _
  | some state =>
    dsimp only
    split
    · exact .pure _
    · exact .last _ _

theorem changeSlot_serving :
    Serving dispatcher.service permitted (dispatcher.changeSlot delivery current) := by
  apply Serving.decode
  intro target
  split
  · exact .last _ _
  · exact .fail _

theorem changeSettings_serving :
    Serving dispatcher.service permitted (dispatcher.changeSettings delivery current) := by
  apply Serving.decode
  intro incoming
  split
  · exact .pure _
  · exact .bind (.ofExcept _) fun _ => .last _ _

theorem changePassword_serving :
    Serving dispatcher.service permitted (dispatcher.changePassword delivery current) := by
  apply Serving.decode
  intro incoming
  split
  · exact .pure _
  split
  · exact .fail _
  · exact .last _ _

theorem changeTeam_serving :
    Serving dispatcher.service permitted (dispatcher.changeTeam delivery current) := by
  apply Serving.decode
  intro _
  split
  · exact .pure _
  · exact .last _ _

theorem transferHost_serving :
    Serving dispatcher.service permitted (dispatcher.transferHost delivery current) := by
  apply Serving.decode
  intro position
  split
  · exact .pure _
  · exact .last _ _

theorem invitePlayer_serving :
    Serving dispatcher.service permitted (dispatcher.invitePlayer delivery current) := by
  apply Serving.decode
  intro target
  split
  · exact .pure _
  · exact .bind (.method fun _ _ => access_ends.mono fun _ _ same => same ▸ .refl) fun _ => .last _ _

/-- What a packet of a client in a room does. -/
theorem roomPacket_serving :
    Serving dispatcher.service permitted (dispatcher.roomPacket delivery current) := by
  unfold roomPacket
  split
  · exact .decode fun _ => .last _ _
  · exact changeSlot_serving _ _
  · exact .decode fun _ => .last _ _
  · exact lockSlot_serving _ _
  · exact changeSettings_serving _ _
  · exact changePassword_serving _ _
  · exact changeMods_serving _ _
  · exact changeTeam_serving _ _
  · exact .decode fun _ => .last _ _
  · exact completeRound_serving _ _
  · exact .decode fun _ => .last _ _
  · exact .decode fun _ => .last _ _
  · exact .decode fun _ => .last _ _
  · exact .decode fun _ => .last _ _
  · exact .decode fun _ => .last _ _
  · exact .decode fun _ => .last _ _
  · exact transferHost_serving _ _
  · exact invitePlayer_serving _ _
  · exact .pure _

theorem packet_serving : Serving dispatcher.service permitted (dispatcher.packet delivery) := by
  unfold packet
  split
  · exact .pure _
  · exact .pure _
  · exact createMatch_serving _
  · exact joinMatch_serving _
  · apply Serving.decode
    intro _
    refine .bind (.method fun world kept => ?_) fun _ => .pure _
    exact (cachedRoom_ends kept).mono fun _ _ ended => ended.1
  · apply Serving.bind (.request _)
    intro found
    cases found with
    | none => exact .pure _
    | some current => exact roomPacket_serving _ _

end

inductive Sent where
  | packet (delivery : Delivery)
  | logout (caller : Caller) (moment : Durable.Moment)

def Sent.body (dispatcher : Dispatcher Blob) : Sent → Dispatch Unit
  | .packet delivery => dispatcher.packet delivery
  | .logout caller moment => dispatcher.logout caller moment

/-- What a client has sent is served from start to end, or time passes. -/
inductive Step (dispatcher : Dispatcher Blob) (allowed : Sent → World Blob → Prop)
    (world after : World Blob) : Prop where
  | serves {sent : Sent} (allows : allowed sent world)
      (ran : ((sent.body dispatcher).run (execute dispatcher.service) world).2 = after)
  | waits (elapses : Elapses world after)

abbrev Runs (dispatcher : Dispatcher Blob) (allowed : Sent → World Blob → Prop) :
    World Blob → World Blob → Prop :=
  Relation.ReflTransGen (Step dispatcher allowed)

def Ended (dispatcher : Dispatcher Blob) (sent : Sent) (world : World Blob) : Prop :=
  ((sent.body dispatcher).run (execute dispatcher.service) world).1 = .ok ()

/-- Somebody plays on afterwards, or the packet is that of a player who completes the
round; then it runs to its end. -/
def Crews (dispatcher : Dispatcher Blob) (sent : Sent) (world : World Blob) : Prop :=
  (sent.body dispatcher).Permits (execute dispatcher.service) (Relieves dispatcher.service) world ∨
    (∃ delivery, sent = .packet delivery ∧ delivery.packetType = .matchComplete) ∧
      (sent.body dispatcher).Permits (execute dispatcher.service) (Completes dispatcher.service)
      world ∧ Ended dispatcher sent world

theorem Sent.serving (sent : Sent) : Serving dispatcher.service permitted (sent.body dispatcher) := by
  cases sent with
  | packet delivery => exact packet_serving delivery
  | logout caller moment => exact .bind (.request _) fun _ => .last _ _

theorem completeRound_crews (delivery : Delivery) (current : RoomState)
    (kept : Kept dispatcher.service world) (attended : Attended dispatcher.service none world) :
    Yields (execute dispatcher.service) (Completes dispatcher.service)
      (dispatcher.completeRound delivery current) world fun result after =>
      Kept dispatcher.service after ∧ (result = .ok () → Attended dispatcher.service none after) := by
  apply Yields.given
  · intro _ _
    apply Yields.adaptSeq (setSlotStatus_completes kept attended)
    · rintro updated middle ⟨kept, lenient, answered, onward⟩
      cases updated with
      | none => exact absurd rfl answered
      | some state =>
        dsimp only
        split
        · next plays =>
          obtain ⟨slot, member, status⟩ := List.any_eq_true.mp plays
          exact .pure ⟨kept, fun _ => onward state rfl ⟨slot, member, of_decide_eq_true status⟩⟩
        · apply Yields.adaptSeq (completeRound_attends kept lenient)
          · rintro answer after ⟨kept, attended⟩
            exact .pure ⟨kept, fun _ => attended answer rfl⟩
          · exact fun _ _ held => ⟨held.1, fun ended => nomatch ended⟩
    · rintro failure middle ⟨kept, _⟩
      exact ⟨kept, fun ended => nomatch ended⟩
  · exact fun _ _ => ⟨kept, fun ended => nomatch ended⟩

theorem complete_crews (completes : delivery.packetType = .matchComplete)
    (kept : Kept dispatcher.service world) (attended : Attended dispatcher.service none world) :
    Yields (execute dispatcher.service) (Completes dispatcher.service)
    (dispatcher.packet delivery) world fun result after =>
      Kept dispatcher.service after ∧ (result = .ok () → Attended dispatcher.service none after) := by
  have finds : Ends dispatcher.service (Completes dispatcher.service)
    (dispatcher.service.findRoomForAccount delivery.caller.accountId) world fun _ after =>
        Kept dispatcher.service after ∧ Attended dispatcher.service none after := by
    refine ⟨fun permits => attended.moves kept ((findRoomForAccount_serves kept).ends ?_)⟩
    exact (permits.restrict (findRoomForAccount_reads [])).mono fun _ _ allowed =>
      allowed.1.relieves allowed.2.aloof
  simp only [packet, completes]
  apply Yields.adaptSeq finds
  · rintro found middle ⟨kept, attended⟩
    cases found with
    | none => exact .pure ⟨kept, fun _ => attended⟩
    | some current =>
      simp only [roomPacket, completes]
      exact completeRound_crews delivery current kept attended
  · rintro failure middle ⟨kept, _⟩
    exact ⟨kept, fun ended => nomatch ended⟩

theorem Step.crewed (step : Step dispatcher (Crews dispatcher) world after)
    (kept : Kept dispatcher.service world) (attended : Attended dispatcher.service none world) :
    Kept dispatcher.service after ∧ Attended dispatcher.service none after := by
  cases step with
  | @serves sent allows ran =>
    subst ran
    rcases allows with permits | ⟨⟨delivery, rfl, completes⟩, permits, ended⟩
    · exact attended.moves kept ((sent.serving world kept).ends permits)
    · have crews := (complete_crews completes kept attended).ends permits
      exact ⟨crews.1, crews.2 ended⟩
  | waits elapses => exact ⟨elapses.kept kept, attended.wait elapses⟩

theorem Runs.crewed (runs : Runs dispatcher (Crews dispatcher) (.empty clock) world) :
    Kept dispatcher.service world ∧ Attended dispatcher.service none world := by
  induction runs with
  | refl => exact ⟨.empty clock, .empty clock⟩
  | tail _ step ih => exact step.crewed ih.1 ih.2

/-- As long as somebody plays on when a player stops or departs, other than by completing
the round, every state of a round in progress has a slot that is playing: what is stored,
and what is rebuilt from the tables. -/
theorem rounds_crewed (runs : Runs dispatcher (Crews dispatcher) (.empty clock) world) :
    (∀ room state round, Holds dispatcher.service.repo room world.store state →
      round ∈ world.tables.playing round.sessionId → state.roundId = some round.id →
      ∃ slot ∈ state.slots, slot.status = .playing) ∧
    ∀ snapshot now state, Current world.tables snapshot →
      stateFromSnapshot now dispatcher.service.stateLifetime (some snapshot) = .ok state →
      state.inProgress = true →
      ∃ slot ∈ state.slots, slot.status = .playing := by
  obtain ⟨_, attended⟩ := runs.crewed
  constructor
  · intro room state round holds playing shown
    obtain ⟨_, _, slot, member, _, status⟩ :=
      (attended.stored room state holds).crewed (by simp) round ⟨playing, shown⟩
    exact ⟨slot, member, status⟩
  · intro snapshot now state current built progress
    have rebuilt := stateFromSnapshot_eq_ok built
    rw [rebuilt.progress] at progress
    obtain ⟨key, shown⟩ := Option.isSome_iff_exists.mp progress
    obtain ⟨round, playing, rfl⟩ := current.running shown
    have house := (mem_playing.mp playing).2.2
    have staffed : Staffed world.tables none snapshot.room.publicId state :=
      .rebuilt current rebuilt attended.rounds attended.rules.rows
    obtain ⟨_, _, slot, member, _, status⟩ :=
      staffed.crewed (by simp) round ⟨house ▸ playing, rebuilt.round.trans shown⟩
    exact ⟨slot, member, status⟩

def served (dispatcher : Dispatcher Blob) (world : World Blob) (sent : Sent) : World Blob :=
  ((sent.body dispatcher).run (execute dispatcher.service) world).2

/-- Run a test before each of some clients is served, and another one in the end. -/
def servesTested (dispatcher : Dispatcher Blob) (test : Sent → World Blob → Bool)
    (last : World Blob → Prop) [DecidablePred last] : World Blob → List Sent → Bool
  | world, [] => last world
  | world, sent :: rest => test sent world &&
      servesTested dispatcher test last (served dispatcher world sent) rest

theorem runs_of_tested
    (sound : ∀ sent world, test sent world = true → allowed sent world) (last : World Blob → Prop)
    [DecidablePred last] (passed : servesTested dispatcher test last world sent = true) :
    Runs dispatcher allowed world (sent.foldl (served dispatcher) world) ∧
    last (sent.foldl (served dispatcher) world) := by
  induction sent generalizing world with
  | nil => exact ⟨.refl, of_decide_eq_true passed⟩
  | cons first rest ih =>
    rw [servesTested, Bool.and_eq_true] at passed
    obtain ⟨runs, ends⟩ := ih passed.2
    exact ⟨.head (.serves (sound _ _ passed.1) rfl) runs, ends⟩

/-- Identifiers that tell apart the names of a few commands. -/
def summedKey (name : String) : Uuid := sampleKey (name.toByteArray.data.toList.foldl (· + ·) 0)

def plainDispatcher : Dispatcher RoomState where
  service := { plainService with policies := { openPolicies with uuid5 := fun _ name => summedKey name } }
  sha256 _ := []

def sampleDraws (number : Nat) : Draws where
  moment := ⟨number, number⟩
  later := ⟨number, number⟩
  generated := ⟨sampleKey number.toUInt8, sampleKey number.toUInt8, sampleKey number.toUInt8⟩
  presenceId := sampleKey number.toUInt8
  roundId := sampleKey number.toUInt8
  hashPassword _ := ⟨none, none⟩
  online := true

def sampleSent (number account : Nat) (packetType : ClientPacket) (payload : Bytes := []) : Sent :=
  .packet {
    packetType, payload := .fresh payload .client defaultLimits, draws := sampleDraws number
    caller := ⟨account, sampleKey account.toUInt8, "stable"⟩ }

def sampleCreation : Sent :=
  sampleSent 1 1 .createMatch
    (PacketWriter.writeMultiplayerMatch { name := "match", hostId := 1 } true
      (PacketWriter.init defaultLimits)).2.buffer

def sampleJoin : Sent := sampleSent 2 2 .joinMatch [1, 0, 0, 0, 0]

def failing : List Sent := [sampleCreation, sampleSent 2 1 .matchStart, sampleSent 3 1 .matchFailed]

/-- The only player parts. The host, who does not play, stays. -/
def parting : List Sent :=
  [sampleCreation, sampleJoin, sampleSent 3 1 .matchNoBeatmap, sampleSent 4 1 .matchStart,
    sampleSent 5 2 .partMatch]

/-- One of two players fails, the other one completes the round, and the next round
starts. -/
def completing : List Sent :=
  [sampleCreation, sampleJoin, sampleSent 3 1 .matchStart, sampleSent 4 2 .matchFailed,
    sampleSent 5 1 .matchComplete, sampleSent 6 1 .matchStart]

/-- The world after some clients, from nothing. -/
def servedAll (sent : List Sent) : World RoomState := sent.foldl (served plainDispatcher) (.empty 0)

/-- Whether a state has a round in progress, and whether somebody plays. -/
def roundShown (state : RoomState) : Bool × Bool := (state.inProgress, state.slots.any (·.status = .playing))

def projectedRound (world : World RoomState) : Option (Bool × Bool) :=
  (content plainRepo 1 world.store).map roundShown

/-- What is shown of the room once its projection has to be rebuilt. -/
def rebuiltRound (world : World RoomState) : Option (Bool × Bool) :=
  ((loaded world.tables (world.tables.getRoom 1)).bind (stateFromSnapshot 0 1000 ·)).toOption.map roundShown

def endedTest (sent : Sent) (world : World RoomState) : Bool :=
  ((sent.body plainDispatcher).run (execute plainDispatcher.service) world).1.toBool

theorem ended_of_test (sent : Sent) (world : World RoomState)
    (passed : endedTest sent world = true) : Ended plainDispatcher sent world := by
  unfold endedTest at passed
  unfold Ended
  cases ran : ((sent.body plainDispatcher).run (execute plainDispatcher.service) world).1 with
  | ok value => rfl
  | error rejection =>
    rw [ran] at passed
    cases passed

/-- A round in progress without anybody who plays. -/
def Stranded (shown : World RoomState → Option (Bool × Bool)) (world : World RoomState) : Prop :=
  shown world = some (true, false) ∧ world.tables.rounds.rows.map (·.status) = [.inProgress]

instance (shown : World RoomState → Option (Bool × Bool)) : DecidablePred (Stranded shown) :=
  fun _ => inferInstanceAs (Decidable (_ ∧ _))

/-- The last player fails or parts, and the round stays in progress without anybody who
plays. -/
theorem rounds_stranded :
    (Runs plainDispatcher (Ended plainDispatcher) (.empty 0) (servedAll failing) ∧
      Stranded projectedRound (servedAll failing)) ∧
    Runs plainDispatcher (Ended plainDispatcher) (.empty 0)
    (servedAll parting) ∧ Stranded rebuiltRound (servedAll parting) :=
  ⟨runs_of_tested ended_of_test (Stranded projectedRound) (by decide +kernel),
    runs_of_tested ended_of_test (Stranded rebuiltRound) (by decide +kernel)⟩

/-- The accounts that an edit stops. -/
def stopping : Mutation → List Nat
  | .setSlotStatus account status => if status = .playing then [] else [account]
  | .markFailed account => [account]
  | _ => []

theorem mem_stopping (stops : mutation.Stops account) : account ∈ stopping mutation := by
  cases mutation with
  | setSlotStatus => simp [stopping, stops.1, stops.2]
  | markFailed => simp [stopping, show _ = account from stops]
  | _ => exact stops.elim

/-- A test for calls after which somebody plays on. Nobody departs. -/
def relievesTest (world : World RoomState) : Call → Bool
  | .state task =>
    match task.target, task.mutation with
    | some room, some mutation =>
      (content plainRepo room world.store).all fun state => (stopping mutation).all fun account =>
        world.tables.rounds.rows.all fun round => state.roundId ≠ some round.id ||
          (world.tables.present round.sessionId).any fun presence =>
            presence.accountId ≠ account ∧ Playing state presence.accountId
    | _, _ => true
  | .commit _ command => command.brought.departs.isNone
  | _ => true

theorem relieves_of_test (world : World RoomState) (call : Call)
    (passed : relievesTest world call = true) : Relieves plainDispatcher.service world call := by
  cases call with
  | state task =>
    intro room mutation state account target edits holds stops round underway
    simp only [relievesTest, target, edits] at passed
    rw [show content plainRepo room world.store = some state from holds.content] at passed
    have others := List.all_eq_true.mp (List.all_eq_true.mp passed _ (mem_stopping stops)) round
      (mem_playing.mp underway.playing).1
    rw [Bool.or_eq_true] at others
    rcases others with other | plays
    · exact absurd underway.shown (of_decide_eq_true other)
    · obtain ⟨presence, present, plays⟩ := List.any_eq_true.mp plays
      exact ⟨presence, present, of_decide_eq_true plays⟩
  | commit moment command =>
    intro account departs
    simp [relievesTest, departs] at passed
  | _ => trivial

def completesTest (world : World RoomState) : Call → Bool
  | .state (.edit _ (.setSlotStatus _ .complete)) => true
  | .replay _ _ _ commandId => !world.tables.commandApplied commandId
  | other => relievesTest world other

theorem completes_of_test (world : World RoomState) (call : Call)
    (passed : completesTest world call = true) : Completes plainDispatcher.service world call := by
  unfold completesTest at passed
  unfold Completes
  split
  · trivial
  · simpa using passed
  · next edits replays =>
    split at passed
    · exact absurd rfl (edits _ _)
    · exact absurd rfl (replays _ _ _ _)
    · exact relieves_of_test world _ passed

def crewsTest (sent : Sent) (world : World RoomState) : Bool :=
  (sent.body plainDispatcher).checks (execute plainDispatcher.service) relievesTest world ||
    (match sent with | .packet delivery => delivery.packetType = .matchComplete | .logout _ _ => false) &&
      (sent.body plainDispatcher).checks (execute plainDispatcher.service) completesTest world &&
      endedTest sent world

theorem crews_of_test (sent : Sent) (world : World RoomState)
    (passed : crewsTest sent world = true) : Crews plainDispatcher sent world := by
  unfold crewsTest at passed
  rw [Bool.or_eq_true, Bool.and_eq_true, Bool.and_eq_true] at passed
  rcases passed with relieves | ⟨⟨completes, checked⟩, ended⟩
  · exact .inl (permits_of_checks relieves_of_test relieves)
  · refine .inr ⟨?_, permits_of_checks completes_of_test checked, ended_of_test sent world ended⟩
    cases sent with
    | packet delivery => exact ⟨delivery, rfl, of_decide_eq_true completes⟩
    | logout => cases completes

/-- A round that is completed by the last player, and one that goes on. -/
theorem rounds_crewed_sample :
    Runs plainDispatcher (Crews plainDispatcher) (.empty 0)
      (servedAll completing) ∧ projectedRound (servedAll completing) = some (true, true) ∧
      ∀ room state round, Holds plainDispatcher.service.repo room (servedAll completing).store state →
        round ∈ (servedAll completing).tables.playing round.sessionId → state.roundId = some round.id →
        ∃ slot ∈ state.slots, slot.status = .playing := by
  obtain ⟨runs, ends⟩ : Runs plainDispatcher (Crews plainDispatcher) (.empty 0)
    (servedAll completing) ∧ projectedRound (servedAll completing) = some (true, true) :=
    runs_of_tested crews_of_test (fun world => projectedRound world = some (true, true)) (by decide +kernel)
  exact ⟨runs, ends, (rounds_crewed runs).1⟩

end Perfcho.Stable
