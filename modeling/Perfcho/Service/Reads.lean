import Perfcho.Service.Serving

/-! Methods that only read. What they write brings a projection up to date with the
tables; they edit no slot and commit nothing. -/

namespace Perfcho.Service

open Foundation Program

variable {Blob : Type} {service : MultiplayerService Blob}

/-- A call that edits no slot. -/
def Call.Aloof : Call → Prop
  | .state task => task.mutation = none
  | _ => True

/-- A call that edits no slot and commits nothing. -/
def Call.Reads : Call → Prop
  | .commit _ _ => False
  | other => other.Aloof

theorem Call.Reads.aloof {call : Call} (reads : call.Reads) : call.Aloof := by
  cases call with
  | commit => exact reads.elim
  | _ => exact reads

theorem Asks.tables (asks : Asks Call.Reads method) :
    Ends service permitted method world fun _ after => after.tables = world.tables := by
  refine ⟨fun permits => ?_⟩
  clear permits
  have kept := asks []
  clear asks
  generalize [] = seen at kept
  induction method generalizing world seen with
  | done value => rfl
  | fail failure => rfl
  | call call rest ih =>
    obtain ⟨reads, continues⟩ := kept
    have same : (execute service call world).2.tables = world.tables := by
      cases call with
      | commit => exact reads.elim
      | _ => rfl
    exact (ih _ _ (continues _)).trans same

theorem clock_asks (clock : allowed .clock) : Asks allowed Method.clock := .ask clock

theorem snapshot_reads : Asks Call.Reads (Method.snapshot publicId) :=
  .bind (.ask trivial) fun _ => .ofExcept _

theorem accountSnapshot_reads : Asks Call.Reads (Method.accountSnapshot account) :=
  .bind (.ask trivial) fun _ => .ofExcept _

theorem state_reads (aloof : task.mutation = none) : Asks Call.Reads (Method.state task) :=
  .bind (.ask aloof) fun _ => .ofExcept _

theorem returned_reads (reads : Asks Call.Reads method) : Asks Call.Reads (Method.returned method) := by
  apply reads.bind
  intro found
  cases found with
  | none => exact .fail _
  | some state => exact .pure _

theorem recovered_reads : Asks Call.Reads (service.recovered snapshot degraded) :=
  .bind (clock_asks trivial) fun _ => .ofExcept _

theorem reconcileSnapshot_reads : Asks Call.Reads (service.reconcileSnapshot state snapshot) := by
  apply Asks.bind (clock_asks trivial)
  intro now
  apply Asks.bind (.ofExcept _)
  intro reconciled
  cases reconciled with
  | current unchanged => exact .pure _
  | updated updated =>
    have repairs : Asks Call.Reads (Method.repaired updated state) :=
      returned_reads (.bind (.ask trivial) fun _ => .ofExcept _)
    apply repairs.attempt.bind
    intro stored
    cases stored with
    | ok stored => exact .pure _
    | error failure => exact .bind recovered_reads fun _ => .pure _

theorem publishSnapshot_reads : Asks Call.Reads (service.publishSnapshot snapshot) := by
  apply recovered_reads.bind
  intro durable
  apply Asks.bind (clock_asks trivial)
  intro now
  apply (state_reads rfl).attempt.bind
  rintro (failure | found)
  · exact .pure _
  cases found with
  | some current => exact reconcileSnapshot_reads
  | none =>
    apply (returned_reads (state_reads rfl)).attempt.bind
    rintro (failure | created)
    · exact .pure _
    · exact .pure _

theorem requireState_reads : Asks Call.Reads (service.requireState publicId) := by
  apply Asks.bind (clock_asks trivial)
  intro now
  apply (state_reads rfl).attempt.bind
  intro found
  apply snapshot_reads.bind
  intro snapshot
  cases snapshot with
  | none => exact .fail _
  | some snapshot =>
    dsimp only
    split
    · exact reconcileSnapshot_reads
    · exact publishSnapshot_reads

theorem requireLiveState_reads : Asks Call.Reads (service.requireLiveState publicId) := by
  apply requireState_reads.bind
  intro state
  split
  · exact .fail _
  · exact .pure _

theorem cachedRoom_reads : Asks Call.Reads (Method.cachedRoomForAccount account) := by
  apply Asks.bind (clock_asks trivial)
  intro now
  apply (state_reads rfl).attempt.bind
  rintro (failure | found)
  · exact .pure _
  · exact .pure _

theorem findRoomForAccount_reads : Asks Call.Reads (service.findRoomForAccount account) := by
  apply cachedRoom_reads.bind
  intro cached
  cases cached with
  | some state =>
    apply snapshot_reads.bind
    intro found
    cases found with
    | some snapshot => exact .bind reconcileSnapshot_reads fun _ => .pure _
    | none => exact .bind (state_reads rfl).attempt fun _ => .pure _
  | none =>
    apply accountSnapshot_reads.bind
    intro found
    cases found with
    | some snapshot => exact .bind publishSnapshot_reads fun _ => .pure _
    | none => exact .pure _

theorem projectReplacement_reads {committed : Committed} :
    Asks Call.Reads (Method.projectReplacement current committed next) := by
  unfold Method.projectReplacement
  split
  · exact .pure _
  apply Asks.bind (.ofExcept _)
  intro updated
  have replaces : Asks Call.Reads (Method.replaceAfterCommit updated current) := by
    apply (returned_reads (state_reads rfl)).attempt.bind
    rintro (failure | stored)
    · exact .pure _
    · exact .pure _
  exact replaces.bind fun _ => .pure _

theorem replay_reads : Asks Call.Reads (Method.replay account permissions commandId) :=
  .bind (clock_asks trivial) fun _ => .bind (.ask trivial) fun _ => .ofExcept _

theorem completeRound_aloof :
    Asks Call.Aloof (service.completeRound origin publicId expectedVersion aborted) := by
  have weaken : ∀ {Value : Type} {method : Method Value}, Asks Call.Reads method → Asks Call.Aloof method :=
    fun reads seen => (reads seen).weaken fun _ _ => Call.Reads.aloof
  apply (weaken replay_reads).bind
  intro found
  cases found with
  | some snapshot => exact .bind (weaken publishSnapshot_reads) fun _ => .pure _
  | none =>
    apply (weaken requireState_reads).bind
    intro current
    apply Asks.bind (.ofExcept _)
    intro roundId
    have commits : ∀ moment command, Asks Call.Aloof (Method.commit moment command) :=
      fun _ _ => .bind (.ask trivial) fun _ => .ofExcept _
    exact .bind (commits _ _) fun committed => weaken projectReplacement_reads

theorem requireLiveState_aloof (kept : Kept service world) :
    ReadsLive service permitted (fun world call => permitted world call ∧ call.Reads) publicId world :=
  ⟨fun permits => (requireLiveState_ends kept).ends (permits.restrict (requireLiveState_reads []))⟩

/-- A round that is completed is completed by a commit, unless the command is a repeated
one. -/
theorem completeRound_commits (kept : Kept service world)
    (unanswered : world.tables.findCommandRoom (service.commandId origin.accountId origin) = .ok none) :
    Ends service permitted (service.completeRound origin publicId expectedVersion aborted) world
    fun result after =>
      ∀ answer, result = .ok answer → ∃ roundId committed, commit world.tables service.policies origin.moment
        (.completeRound (service.commandId origin.accountId origin) origin.accountId publicId
          expectedVersion roundId
          aborted) = .ok (committed, after.tables) := by
  apply Yields.seq replay_ends
  · rintro found middle ⟨rfl, loads, _⟩
    cases found with
    | some snapshot =>
      obtain ⟨_, room, found⟩ := loads snapshot rfl
      rw [unanswered] at found
      cases found
    | none =>
      apply Yields.seq (requireState_ends kept)
      · rintro state before ⟨_, tables, _⟩
        apply Yields.given
        · intro roundId _
          apply Yields.seq commit_ends
          · rintro committed after ⟨_, _, ⟨⟨_, ⟨⟩⟩, _⟩ | ⟨_, ⟨⟩, ran⟩⟩
            refine (Asks.tables projectReplacement_reads).mono ?_
            rintro result final same answer _
            rw [tables, ← same] at ran
            exact ⟨roundId, committed, ran⟩
          · rintro failure after _ answer ⟨⟩
        · rintro failure _ answer ⟨⟩
      · rintro failure middle _ answer ⟨⟩
  · rintro failure middle _ answer ⟨⟩

end Perfcho.Service
