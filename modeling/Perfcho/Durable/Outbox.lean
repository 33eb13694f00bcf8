import Perfcho.Durable.Writes

/-! The events that announce ended rounds to the consumer of the results. The service
writes them when it completes a round, the repository ends rounds on its own. -/

namespace Perfcho.Durable

open Foundation Multiplayer List

structure RoundPayload where
  roundId : String
  sessionId : String
  roomId : String
  aborted : Bool

structure PendingEvent where
  aggregateType : String
  aggregateId : String
  eventType : String
  schemaVersion : Nat
  payload : RoundPayload
  consumers : List String
  partitionKey : String

/-- `_RESULTS_CONSUMER` -/
def resultsConsumer : String := "multiplayer-results-consumer.v1"

/-- The event that `complete_round` appends. -/
def roundCompleted (roundId : Uuid) (room : RoomRecord) (aborted : Bool) : PendingEvent where
  aggregateType := "multiplayer_round"
  aggregateId := roundId.text
  eventType := "multiplayer.round-completed.v1"
  schemaVersion := 1
  payload := ⟨roundId.text, room.sessionId.text, room.roomId.text, aborted⟩
  consumers := [resultsConsumer]
  partitionKey := "round:" ++ roundId.text

/-- The tables with the outbox, which a transaction commits together. -/
structure Ledger where
  tables : Tables
  outbox : List PendingEvent

def Ledger.empty : Ledger := ⟨.empty, []⟩

section

variable (policies : Policies) (replay read : Tables) (ledger : Ledger)

/-- `complete_round` of the service. It looks for a repeated command in a transaction
of its own, and writes the event whatever the repository has done. -/
def Ledger.completeRound (moment : Moment) (commandId : Uuid) (actor publicId expectedVersion : Nat)
    (roundId : Uuid) (aborted : Bool) : Except Failure (Option RoomRecord × Ledger) := do
  policies.require actor (if aborted then ["multiplayer.play", "multiplayer.host"] else
    ["multiplayer.play"]) moment.now
  match ← replay.findCommandRoom commandId with
  | some room => do
    let _ ← replay.loadSnapshot room
    return (some room, ledger)
  | none => do
    let room ← lockedRoom ledger.tables publicId expectedVersion
    let (completed, tables) ←
      Durable.completeRound read ledger.tables moment room commandId actor (some roundId) aborted
    let _ ← tables.loadSnapshot completed
    return (some completed, ⟨tables, ledger.outbox ++ [roundCompleted roundId completed aborted]⟩)

/-- The commands with the events they write. A projection that shows a round in
progress names it, so a completion without a round is not sent. -/
def Ledger.transact (moment : Moment) (command : Command) : Except Failure (Option RoomRecord × Ledger) :=
  match command with
  | .completeRound commandId actor publicId expectedVersion (some roundId) aborted =>
    ledger.completeRound policies replay read moment commandId actor publicId expectedVersion roundId aborted
  | .completeRound _ _ _ _ none _ => .error (.runtimeError "assertion failed: current.round_id is not None")
  | command => do
    let (answer, tables) ← Durable.transact policies read ledger.tables moment command
    return (answer, { ledger with tables })

end

/-- The event announces the end of a round to the consumer of the results. -/
def PendingEvent.Announces (event : PendingEvent) (roundId : Uuid) : Prop :=
  event.eventType = "multiplayer.round-completed.v1" ∧ event.payload.roundId = roundId.text ∧
    resultsConsumer ∈ event.consumers

instance (event : PendingEvent) : DecidablePred event.Announces :=
  fun _ => inferInstanceAs (Decidable (_ ∧ _ ∧ _))

def Ledger.announcements (ledger : Ledger) (roundId : Uuid) : List PendingEvent :=
  ledger.outbox.filter (·.Announces roundId)

/-- Every ended round has one event, and every event is of an ended round. -/
structure Announced (ledger : Ledger) : Prop where
  ended : ∀ round ∈ ledger.tables.rounds.rows, round.status ≠ .inProgress →
    (ledger.announcements round.id).length = 1
  playing : ∀ round ∈ ledger.tables.rounds.rows, round.status = .inProgress →
    ledger.announcements round.id = []
  known : ∀ event ∈ ledger.outbox, ∃ round ∈ ledger.tables.rounds.rows, event.Announces round.id

section

variable {policies : Policies} {replay read : Tables} {ledger after : Ledger} {moment : Moment}
  {command : Command} {round : Round}

theorem Announces.unique {event : PendingEvent} (one : event.Announces first)
    (two : event.Announces second) : first = second :=
  Uuid.text_injective (one.2.1.symm.trans two.2.1)

theorem roundCompleted_announces (roundId : Uuid) (room : RoomRecord) (aborted : Bool) :
    (roundCompleted roundId room aborted).Announces roundId :=
  ⟨rfl, rfl, mem_singleton_self _⟩

theorem announcements_appended (roundId other : Uuid) (room : RoomRecord) (aborted : Bool) :
    (⟨tables, ledger.outbox ++ [roundCompleted roundId room aborted]⟩ : Ledger).announcements other =
      ledger.announcements other ++ if other = roundId then [roundCompleted roundId room aborted]
      else [] := by
  unfold Ledger.announcements
  by_cases same : other = roundId
  · rw [if_pos same, same]
    simp [roundCompleted_announces]
  · have silent : ¬ (roundCompleted roundId room aborted).Announces other := fun announces =>
      same (Announces.unique announces (roundCompleted_announces roundId room aborted))
    simp [silent, same]

theorem Announced.same (announced : Announced ledger)
    (rounds : after.tables.rounds.rows = ledger.tables.rounds.rows)
    (outbox : after.outbox = ledger.outbox) : Announced after := by
  obtain ⟨ended, playing, known⟩ := announced
  constructor
  · intro round stored
    rw [Ledger.announcements, outbox]
    exact ended round (rounds ▸ stored)
  · intro round stored
    rw [Ledger.announcements, outbox]
    exact playing round (rounds ▸ stored)
  · intro event written
    rw [rounds]
    exact known event (outbox ▸ written)

theorem Announced.started (announced : Announced ledger)
    (rounds : after.tables.rounds.rows = ledger.tables.rounds.rows ++ [round])
    (status : round.status = .inProgress) (outbox : after.outbox = ledger.outbox) : Announced after := by
  have fresh : ∀ other ∈ ledger.tables.rounds.rows, other.id ≠ round.id := fun other stored =>
    after.tables.rounds.fresh_of_unique mem_cons_self rounds rfl other stored rfl
  constructor
  · intro other stored stopped
    rw [rounds] at stored
    rcases of_mem_concat stored with old | new
    · rw [Ledger.announcements, outbox]
      exact announced.ended other old stopped
    · cases new
      exact absurd status stopped
  · intro other stored plays
    rw [Ledger.announcements, outbox]
    rw [rounds] at stored
    rcases of_mem_concat stored with old | new
    · exact announced.playing other old plays
    cases new
    -- An event of the new round would belong to an old one.
    apply filter_eq_nil_iff.mpr
    intro event written announces
    obtain ⟨owner, stored, theirs⟩ := announced.known event written
    exact fresh owner stored (Announces.unique theirs (by simpa using announces))
  · intro event written
    obtain ⟨owner, stored, theirs⟩ := announced.known event (outbox ▸ written)
    exact ⟨owner, rounds ▸ mem_append_left _ stored, theirs⟩

theorem Announced.ends (announced : Announced ledger)
    (ends : Ends ledger.tables session roundId tables) (room : RoomRecord) (aborted : Bool) :
    Announced ⟨tables, ledger.outbox ++ [roundCompleted roundId room aborted]⟩ := by
  obtain ⟨round, ended, playing, rfl, key, stopped, _, rounds⟩ := ends
  obtain ⟨stored, inProgress, _⟩ := mem_playing.mp playing
  have silent := announced.playing round stored inProgress
  constructor
  · intro other member over_
    rw [announcements_appended]
    rw [rounds] at member
    rcases mem_replaced member with rfl | ⟨old, different⟩
    · rw [key, silent, if_pos rfl]
      rfl
    · rw [if_neg (key ▸ different), append_nil]
      exact announced.ended other old over_
  · intro other member plays
    rw [announcements_appended]
    rw [rounds] at member
    rcases mem_replaced member with rfl | ⟨old, different⟩
    · exact absurd plays stopped
    · rw [if_neg (key ▸ different), append_nil]
      exact announced.playing other old plays
  · intro event written
    have kept : ∀ owner ∈ ledger.tables.rounds.rows, event.Announces owner.id →
      ∃ round ∈ tables.rounds.rows, event.Announces round.id := by
      intro owner stored theirs
      rw [rounds]
      by_cases same : owner.id = ended.id
      · exact ⟨ended, row_mem_replaced stored same, same ▸ theirs⟩
      · exact ⟨owner, other_mem_replaced stored same, theirs⟩
    rcases of_mem_concat written with old | new
    · obtain ⟨owner, stored, theirs⟩ := announced.known event old
      exact kept owner stored theirs
    · cases new
      exact kept round stored (roundCompleted_announces round.id room aborted)

/-- What a command has to find: a completion is a new command, and nobody who leaves
closes a room in which a round is in progress. -/
structure Timely (read tables : Tables) (command : Command) : Prop where
  fresh : ∀ commandId actor publicId version roundId aborted,
    command = .completeRound commandId actor publicId version roundId aborted →
    read.commandApplied commandId = false
  idle : ∀ account connection room session, command.departs = some (account, connection) →
    (room, session) ∈ tables.activeRooms → tables.playing session.id ≠ [] →
    ¬ Closes tables session.id account (some connection)

theorem Announced.completes (announced : Announced ledger) (fresh : read.commandApplied commandId = false)
    (ran : ledger.completeRound policies replay read moment commandId actor publicId version roundId aborted =
      .ok (answer, after)) : Announced after := by
  obtain ⟨_, _, found, _, ran⟩ := of_bind_bind_eq_ok ran
  cases found with
  | some room =>
    obtain ⟨_, _, ran⟩ := of_bind_eq_ok ran
    cases ran
    exact announced
  | none =>
    obtain ⟨room, _, ⟨completed, tables⟩, acted, ran⟩ := of_bind_bind_eq_ok ran
    obtain ⟨_, _, ran⟩ := of_bind_eq_ok ran
    cases ran
    obtain ⟨session, active, chosen, ends⟩ := (completeRound_handles version acted).2 fresh
    have same : roundId = active := by simpa using chosen
    exact same ▸ announced.ends ends completed aborted

/-- A timely command keeps the outbox in step with the rounds. -/
theorem Announced.transact (announced : Announced ledger) (timely : Timely read ledger.tables command)
    (ran : ledger.transact policies replay read moment command = .ok (answer, after)) : Announced after := by
  have others : (∀ commandId actor publicId version roundId aborted,
      command ≠ .completeRound commandId actor publicId version roundId aborted) →
    ∀ tables, Durable.transact policies read ledger.tables moment command = .ok (answer, tables) →
      Announced { ledger with tables } := by
    intro different tables ran
    cases transact_wrote ran with
    | untouched same => exact announced.same same.2 rfl
    | opened _ _ rounds => exact announced.same rounds rfl
    | settled _ rewrites | secured _ _ rewrites =>
      obtain ⟨_, _, _, _, rounds⟩ := rewrites
      exact announced.same rounds rfl
    | started _ _ rounds status => exact announced.started rounds status rfl
    | completed complete => exact absurd complete (different _ _ _ _ _ _)
    | closed departs found closes _ rounds =>
      rcases rounds with ⟨_, same⟩ | ⟨active, current, _⟩
      · exact announced.same same rfl
      · have playing : ledger.tables.playing _ ≠ [] := fun idle => by
          rw [activeRoundId_eq_none.mpr idle] at current
          cases current
        exact absurd closes (timely.idle _ _ _ _ departs (mem_of_entities found) playing)
  cases command with
  | completeRound commandId actor publicId version roundId aborted =>
    cases roundId with
    | none => cases ran
    | some roundId => exact announced.completes (timely.fresh _ _ _ _ _ _ rfl) ran
  | _ =>
    obtain ⟨⟨answer, tables⟩, transacted, ran⟩ := of_bind_eq_ok ran
    cases ran
    exact others (fun _ _ _ _ _ _ same => by cases same) tables transacted

/-- One step of the database with its outbox. Unlocked reads are of any age. -/
inductive LedgerStep (allowed : Tables → Tables → Command → Prop) : Ledger → Ledger → Prop where
  | commits {policies : Policies} {replay read : Tables} {ledger after : Ledger} {moment : Moment}
      {command : Command}
      {answer : Option RoomRecord} (permitted : allowed read ledger.tables command)
      (ran : ledger.transact policies replay read moment command = .ok (answer, after)) :
      LedgerStep allowed ledger after
  | rollsBack {ledger : Ledger} {epochs : Nat} (issued : ledger.tables.epochs ≤ epochs) :
      LedgerStep allowed ledger { ledger with tables := { ledger.tables with epochs } }

/-- In a run of timely commands every ended round, and no other, has its one event. -/
theorem rounds_announced (steps : Relation.ReflTransGen (LedgerStep Timely) .empty ledger) :
    (∀ round ∈ ledger.tables.rounds.rows, round.status ≠ .inProgress →
      (ledger.announcements round.id).length = 1) ∧ ∀ round ∈ ledger.tables.rounds.rows,
      round.status = .inProgress → ledger.announcements round.id = [] := by
  have announced : Announced ledger := by
    induction steps with
    | refl =>
      exact ⟨fun _ member => absurd member not_mem_nil, fun _ member => absurd member not_mem_nil,
        fun _ member => absurd member not_mem_nil⟩
    | tail _ step ih =>
      cases step with
      | commits timely ran => exact ih.transact timely ran
      | rollsBack => exact ih.same rfl rfl
  exact ⟨announced.ended, announced.playing⟩

end

/-- Commands one after another, each reading what the one before it has committed. -/
def Ledger.perform (ledger : Ledger) (turn : Moment × Command) : Ledger :=
  match ledger.transact openPolicies ledger.tables ledger.tables turn.1 turn.2 with
  | .ok (_, after) => after
  | .error _ => ledger

theorem Ledger.perform_steps (ledger : Ledger) (turn : Moment × Command)
    (permitted : allowed ledger.tables ledger.tables turn.2) :
    Relation.ReflTransGen (LedgerStep allowed) ledger (ledger.perform turn) := by
  unfold Ledger.perform
  split
  · next ran => exact .single (.commits permitted ran)
  · exact .refl

theorem Ledger.performs_steps (ledger : Ledger) (turns : List (Moment × Command)) :
    Relation.ReflTransGen (LedgerStep fun _ _ _ => True) ledger (turns.foldl Ledger.perform ledger) := by
  induction turns generalizing ledger with
  | nil => exact .refl
  | cons turn rest ih => exact (ledger.perform_steps turn trivial).trans (ih _)

def sampleStart (command roundNumber : UInt8) (publicId version actor : Nat)
    (positive : 1 ≤ actor) : Command :=
  .startRound (sampleKey command) actor publicId version (sampleKey roundNumber)
    [⟨actor, 0, 0, [], positive, sampleHostSlot, sampleTeam⟩]

def sampleComplete (command roundNumber : UInt8) (publicId version actor : Nat) : Command :=
  .completeRound (sampleKey command) actor publicId version (some (sampleKey roundNumber)) false

/-- The only player leaves the room during a round. -/
def desertedLedger : Ledger :=
  [(⟨1, 0⟩, sampleCreate 10 11 1), (⟨2, 1⟩, sampleStart 20 50 1 1 1 sampleHost),
    (⟨3, 2⟩, sampleLeave 30 1)].foldl Ledger.perform .empty

/-- The round has ended and nobody is told. -/
theorem desertedLedger_silent : Relation.ReflTransGen (LedgerStep fun _ _ _ => True) .empty desertedLedger ∧
    desertedLedger.tables.rounds.rows.map (fun round => (round.id, round.status)) =
    [(sampleKey 50, .aborted)] ∧ desertedLedger.announcements (sampleKey 50) = [] :=
  ⟨Ledger.empty.performs_steps _, by decide, by decide⟩

/-- A player completes a round, closes its room, and completes a round in another room
under the key of the first completion. -/
def repeatedLedger : Ledger :=
  [(⟨1, 0⟩, sampleCreate 10 11 1), (⟨2, 1⟩, sampleCreate 20 21 2),
    (⟨3, 2⟩, sampleStart 30 50 1 1 1 sampleHost), (⟨4, 3⟩, sampleComplete 40 50 1 2 1), (⟨5, 4⟩,
      sampleLeave 41 1), (⟨6, 5⟩, .join (sampleKey 42) 1 (sampleKey 101) 2 "" (sampleKey 43)),
    (⟨7, 6⟩, sampleStart 44 51 2 2 2 sampleGuest), (⟨8, 7⟩, sampleComplete 40 51 2 3 1)].foldl
    Ledger.perform .empty

/-- The second round goes on, and its end is announced. -/
theorem repeatedLedger_early : Relation.ReflTransGen (LedgerStep fun _ _ _ => True) .empty
    repeatedLedger ∧ repeatedLedger.tables.rounds.rows.map (fun round => (round.id, round.status)) =
      [(sampleKey 50, .completed), (sampleKey 51, .inProgress)] ∧
    (repeatedLedger.announcements (sampleKey 51)).length = 1 :=
  ⟨Ledger.empty.performs_steps _, by decide, by decide⟩

def completedLedger : Ledger :=
  ((Ledger.empty.perform (⟨1, 0⟩, sampleCreate 10 11 1)).perform
    (⟨2, 1⟩, sampleStart 20 50 1 1 1 sampleHost)).perform (⟨3, 2⟩, sampleComplete 30 50 1 2 1)

theorem completedLedger_announced :
    completedLedger.tables.rounds.rows.map (fun round => (round.id, round.status)) =
      [(sampleKey 50, .completed)] ∧ (completedLedger.announcements (sampleKey 50)).length = 1 := by
  have staying : ∀ (read tables : Tables) (command : Command), command.departs = none →
    (∀ commandId actor publicId version roundId aborted,
      command = .completeRound commandId actor publicId version roundId aborted →
      read.commandApplied commandId = false) →
    Timely read tables command := fun _ _ _ stays fresh => ⟨fresh, fun _ _ _ _ departs => by
        rw [stays] at departs
        cases departs⟩
  have unused : (((Ledger.empty.perform (⟨1, 0⟩, sampleCreate 10 11 1)).perform
    (⟨2, 1⟩, sampleStart 20 50 1 1 1 sampleHost)).tables.commandApplied (sampleKey 30)) = false := by decide
  have steps : Relation.ReflTransGen (LedgerStep Timely) .empty completedLedger := by
    refine ((Ledger.perform_steps _ _ ?_).trans (Ledger.perform_steps _ _ ?_)).trans
      (Ledger.perform_steps _ _ ?_)
    · exact staying _ _ _ rfl fun _ _ _ _ _ _ same => by cases same
    · exact staying _ _ _ rfl fun _ _ _ _ _ _ same => by cases same
    · refine staying _ _ _ rfl fun _ _ _ _ _ _ same => ?_
      cases same
      exact unused
  have listed : completedLedger.tables.rounds.rows.map (fun round => (round.id, round.status)) =
    [(sampleKey 50, .completed)] := by decide
  refine ⟨listed, ?_⟩
  have member : (sampleKey 50, RoundStatus.completed) ∈
    completedLedger.tables.rounds.rows.map (fun round => (round.id, round.status)) := by
    exact mem_singleton_self _
  obtain ⟨round, stored, same⟩ := mem_map.mp member
  obtain ⟨key, status⟩ := Prod.mk.inj same
  have once := (rounds_announced steps).1 round stored (by rw [status]; decide)
  rwa [key] at once

end Perfcho.Durable
