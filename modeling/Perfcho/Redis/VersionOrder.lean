import Perfcho.Durable.RoomRuns
import Perfcho.Multiplayer.Reconcile
import Perfcho.Redis.Linearization

/-! The order of records in a projection. A write is fenced by the revision of the
projection and not by the version of its record, so a process that is overtaken
between its commit and its lookup puts an older record over a newer one. -/

namespace Perfcho.Redis

open Foundation Multiplayer Repository Durable Option

variable {Blob : Type}

def Repository.Task.record : Task → Option RoomRecord
  | .create state | .replace state _ _ => some state.room
  | .leave _ _ durableRoom => durableRoom
  | .edit _ mutation => mutation.record
  | _ => none

/-- The record is one of the room that the task is about, with the epoch of its session. -/
def Addressed (epochOf : Uuid → Nat) (task : Task) : Prop :=
  ∀ record, task.record = some record →
    task.target = some record.publicId ∧ record.publicIdEpoch = epochOf record.sessionId

/-- A task that looks at a state is not behind it: the record it brings is no older, and
what a replacement expects has been stored before. -/
structure Abreast (epochOf : Uuid → Nat) (task : Task) (current : RoomState) : Prop where
  version : ∀ record, task.record = some record → record.sessionId = current.room.sessionId →
    current.room.version ≤ record.version
  expected : ∀ state revision session, task = .replace state revision session →
    current.room.sessionId = session ∧ revision ≤ current.stateRevision ∨
      current.room.sessionId ≠ session ∧ epochOf session < current.room.publicIdEpoch

/-- Any number of repository methods. Those that look at this room are abreast of it,
its writes carry what they have to, and only a leave that closes it removes it. -/
def ordering (repo : Repository Blob) (epochOf : Uuid → Nat) (room : Nat) :
    Machine (Command Blob) Answer Failure (Option RoomState) (Store Blob) Task :=
  repo.machine (fun store task command => Addressed epochOf task ∧
    match command with
      | .getRoom publicId => publicId = room → ∀ current, content repo room store = some current →
          Abreast epochOf task current
      | .cas call => call.room = room → ∃ current, content repo room store = some current ∧
          Carries current task
      | .remove call => call.room = room → ∃ account, task = .leave room account none
      | _ => True)
    (fun before after => after.rooms room = before.rooms room)

section

variable {repo : Repository Blob}

def AllowedWrite (repo : Repository Blob) (task : Task) (seen : List (RedisEvent Blob)) : Command Blob → Prop
  | .cas call => Writes repo seen task call
  | _ => True

theorem body_writes (repo : Repository Blob) (task : Task) :
    (repo.body task).Keeps (AllowedWrite repo task) (fun _ _ => True) [] := by
  apply (body_keeps repo task).weaken
  intro seen command permitted
  cases command with
  | cas call => exact permitted
  | _ => trivial

end

section

variable {seen current next : RoomState}

/-- The order in which states follow each other under one key: by epoch, and within
one session by revision. -/
def Precedes (seen current : RoomState) : Prop :=
  seen.room.publicIdEpoch < current.room.publicIdEpoch ∨
    seen.room.publicIdEpoch = current.room.publicIdEpoch ∧ seen.room.sessionId =
      current.room.sessionId ∧ (seen = current ∨ seen.stateRevision < current.stateRevision)

theorem Precedes.refl (state : RoomState) : Precedes state state := .inr ⟨rfl, rfl, .inl rfl⟩

theorem Precedes.trans (first : Precedes seen current) (second : Precedes current next) :
    Precedes seen next := by
  rcases first with earlier | ⟨sameEpoch, sameSession, order⟩
  · rcases second with later | ⟨same, _⟩
    · exact .inl (earlier.trans later)
    · exact .inl (same ▸ earlier)
  · rcases second with later | ⟨nextEpoch, nextSession, nextOrder⟩
    · exact .inl (sameEpoch ▸ later)
    refine .inr ⟨sameEpoch.trans nextEpoch, sameSession.trans nextSession, ?_⟩
    rcases order with rfl | lower
    · exact nextOrder
    · rcases nextOrder with rfl | higher
      · exact .inr lower
      · exact .inr (lower.trans higher)

theorem Precedes.eq (precedes : Precedes seen current)
    (sameEpoch : seen.room.publicIdEpoch = current.room.publicIdEpoch)
    (revision : current.stateRevision ≤ seen.stateRevision) : seen = current := by
  rcases precedes with earlier | ⟨_, _, same | lower⟩
  · exact absurd sameEpoch earlier.ne
  · exact same
  · exact absurd lower revision.not_gt

/-- The next state follows the stored one, and does not go back to an older record. -/
structure Follows (current next : RoomState) : Prop where
  precedes : Precedes current next
  version : current.room.sessionId = next.room.sessionId → current.room.version ≤ next.room.version

end

section

variable {repo : Repository Blob} {epochOf : Uuid → Nat} {room : Nat} {store after : Store Blob}
variable {trace : List (Task × RedisEvent Blob)}

def Dated (epochOf : Uuid → Nat) (state : RoomState) : Prop :=
  state.room.publicIdEpoch = epochOf state.room.sessionId

/-- The invariant of a run: whatever a task has read precedes what is stored now, and
the task was abreast of it. -/
structure Ordered (repo : Repository Blob) (epochOf : Uuid → Nat) (room : Nat) (store : Store Blob)
    (trace : List (Task × RedisEvent Blob)) : Prop where
  stored : store.rooms room = none ∨ ∃ state, Holds repo room store state ∧ Dated epochOf state
  reads : ∀ task raw, (task, readEvent room raw) ∈ trace → ∃ seen, raw = repo.encode seen ∧
    seen.sanitized = seen ∧ Dated epochOf seen ∧ Abreast epochOf task seen ∧
    ∀ current, Holds repo room store current → Precedes seen current

theorem Ordered.dated (ordered : Ordered repo epochOf room store trace)
    (holds : Holds repo room store current) : Dated epochOf current := by
  rcases ordered.stored with absent | ⟨state, stored, dated⟩
  · obtain ⟨deadline, found⟩ := holds.stored
    rw [absent] at found
    cases found
  · exact holds.unique stored ▸ dated

theorem Ordered.read (ordered : Ordered repo epochOf room store trace)
    (witnessed : ∀ event ∈ seen, (task, event) ∈ trace) (read : HasRead repo room seen state) :
    Dated epochOf state ∧ Abreast epochOf task state ∧
      ∀ current, Holds repo room store current → Precedes state current := by
  obtain ⟨raw, event, decoded⟩ := read
  obtain ⟨stored, encoded, sanitized, dated, abreast, order⟩ := ordered.reads task raw (witnessed _ event)
  rw [encoded, repo.decode_encode, sanitized] at decoded
  cases decoded
  exact ⟨dated, abreast, order⟩

/-- The ways in which a write of a state reaches a room that is stored. -/
theorem cas_over (holds : Holds repo next.room.publicId store current)
    (wrote : cas repo.lua store (repo.casCall next expected session previous) = (.ok (), after)) :
    Holds repo next.room.publicId after next.sanitized ∧
      (expected = -1 ∧ current.room.publicIdEpoch < next.room.publicIdEpoch ∨
        current.room.sessionId = session.getD next.room.sessionId ∧ (current.stateRevision : Int) =
          expected ∧ current.room.publicIdEpoch ≤ next.room.publicIdEpoch ∧
          (current.room.publicIdEpoch = next.room.publicIdEpoch →
            current.room.sessionId = next.room.sessionId)) := by
  obtain ⟨deadline, kept⟩ := holds.stored
  rcases cas_cases repo.lua store (repo.casCall next expected session previous) with
    ⟨refusal, ran⟩ | ⟨previousOwner, accounts, passes, ⟨ran, _⟩ | ⟨ran, _⟩⟩
  · cases ran.symm.trans wrote
  · cases ran.symm.trans wrote
  obtain rfl : casApply store (repo.casCall next expected session previous) previousOwner accounts = after :=
    (Prod.mk.inj (ran.symm.trans wrote)).2
  refine ⟨⟨⟨next.expiresAt.millis, by simp [casCall]⟩, rfl, rfl⟩, ?_⟩
  cases passes with
  | vacant _ _ absent =>
    rw [show (repo.casCall next expected session previous).room = next.room.publicId from rfl, kept] at absent
    cases absent
  | supersedes _ creating found decoded numbered higher =>
    cases kept.symm.trans found
    cases (repo.header_encode current).symm.trans decoded
    cases numbered
    exact .inl ⟨creating, Int.ofNat_lt.mp higher⟩
  | current _ _ found decoded numbered named notLower sameEpoch matched =>
    cases kept.symm.trans found
    cases (repo.header_encode current).symm.trans decoded
    cases numbered
    refine .inr ⟨Uuid.text_injective
      named, by simpa [headerOf, casCall] using matched, Int.ofNat_le.mp notLower, ?_⟩
    intro same
    have incoming := sameEpoch (congrArg Int.ofNat same)
    exact (Uuid.text_injective named).trans (Uuid.text_injective incoming).symm

theorem edited_record {task : Task} (edits : task.mutation = some mutation)
    (built : mutation.apply repo.ttl now state = .ok updated) :
    updated.room = state.room ∨ ∃ record, task.record = some record ∧ updated.room = publicRoom record := by
  rcases (Mutation.apply_eq_ok built).1 with same | ⟨record, brings, same⟩
  · exact .inl same
  refine .inr ⟨record, ?_, same⟩
  cases task with
  | edit publicId other =>
    cases edits
    exact brings
  | leave publicId account durableRoom =>
    cases durableRoom with
    | none => cases edits
    | some other =>
      cases edits
      exact brings
  | _ => cases edits

theorem edit_follows (edits : task.mutation = some mutation)
    (built : mutation.apply repo.ttl now current = .ok updated) (addressed : Addressed epochOf task)
    (abreast : Abreast epochOf task current) (carries : Carries current task)
    (dated : Dated epochOf current) (sanitized : current.sanitized = current)
    (higher : current.room.publicIdEpoch ≤ updated.room.publicIdEpoch)
    (same : current.room.publicIdEpoch = updated.room.publicIdEpoch →
      current.room.sessionId = updated.room.sessionId) : Dated epochOf updated.sanitized ∧
    Follows current updated.sanitized := by
  have rises : Precedes current updated.sanitized := by
    rcases higher.lt_or_eq with later | equal
    · exact .inl later
    · refine .inr ⟨equal, same equal, ?_⟩
      rcases carries.raises edits built sanitized with kept | raised
      · exact .inl kept.symm
      · exact .inr raised
  rcases edited_record edits built with kept | ⟨record, brings, room⟩
  · refine ⟨?_, rises, fun _ => ?_⟩
    · change updated.room.publicIdEpoch = epochOf updated.room.sessionId
      rw [kept]
      exact dated
    · exact (congrArg RoomRecord.version kept).ge
  · refine ⟨?_, rises, fun sameSession => ?_⟩
    · change updated.room.publicIdEpoch = epochOf updated.room.sessionId
      rw [room]
      exact (addressed record brings).2
    · have version : updated.room.version = record.version := by rw [room, publicRoom]
      have session : updated.room.sessionId = record.sessionId := by rw [room, publicRoom]
      change current.room.version ≤ updated.room.version
      rw [version]
      exact abreast.version record brings (session.symm.trans sameSession.symm)

/-- A write of a task that was abreast of what it has read follows the stored state. -/
theorem Writes.follows (ordered : Ordered repo epochOf room store trace)
    (witnessed : ∀ event ∈ seen, (task, event) ∈ trace) (addressed : Addressed epochOf task)
    (writes : Writes repo seen task call) (target : call.room = room)
    (holds : Holds repo room store current) (carries : Carries current task)
    (wrote : cas repo.lua store call = (.ok (), after)) :
    ∃ next, Holds repo room after next ∧ Dated epochOf next ∧ Follows current next := by
  have dated := ordered.dated holds
  cases writes with
  | @edit _ mutation read updated now edits targeted hasRead built =>
    subst target
    have keyed : read.room.publicId = updated.room.publicId := by
      rcases edited_record edits built with same | ⟨record, brings, same⟩
      · rw [same]
      · rw [same]
        exact some.inj (targeted.symm.trans (addressed record brings).1)
    obtain ⟨written, ⟨creating, _⟩ | ⟨session, revision, higher, same⟩⟩ := cas_over holds wrote
    · cases creating
    obtain ⟨readDated, abreast, order⟩ := ordered.read witnessed (keyed ▸ hasRead)
    have epochs : read.room.publicIdEpoch = current.room.publicIdEpoch := by
      rw [readDated, dated, session]
      rfl
    obtain rfl : read = current := (order current holds).eq epochs (Int.ofNat.inj revision).le
    exact ⟨updated.sanitized, written,
      edit_follows edits built addressed abreast carries dated holds.sanitized higher same⟩
  | @replacement state read revision session hasRead =>
    subst target
    obtain ⟨written, ⟨creating, _⟩ | ⟨sameSession, matched, higher, same⟩⟩ := cas_over holds wrote
    · cases creating
    obtain ⟨readDated, abreast, order⟩ := ordered.read witnessed hasRead
    have matched : current.stateRevision = revision := Int.ofNat.inj matched
    have expects : current.room.sessionId = session := sameSession
    rcases abreast.expected state revision session rfl with ⟨reads, reached⟩ | ⟨_, superseded⟩
    · have epochs : read.room.publicIdEpoch = current.room.publicIdEpoch := by
        rw [readDated, dated, reads, expects]
      obtain rfl : read = current := (order current holds).eq epochs (matched ▸ reached)
      refine ⟨state.sanitized, written, (addressed state.room rfl).2, ?_, ?_⟩
      · rcases higher.lt_or_eq with later | equal
        · exact .inl later
        · exact .inr ⟨equal, same equal, .inr (matched ▸ carries)⟩
      · exact fun sameRoom => abreast.version state.room rfl sameRoom.symm
    · -- The expected session was superseded before the lookup, so it is not stored now.
      have later : read.room.publicIdEpoch ≤ current.room.publicIdEpoch := by
        rcases order current holds with earlier | ⟨equal, _⟩
        · exact earlier.le
        · exact equal.le
      rw [dated, expects] at later
      omega
  | @creation state bounded expiresAt built =>
    subst target
    obtain ⟨room, _⟩ := RoomState.replaced_eq_ok built
    have boundedDated : Dated epochOf bounded := by
      rw [Dated, room]
      exact (addressed state.room rfl).2
    obtain ⟨written, ⟨_, higher⟩ | ⟨_, matched, _⟩⟩ := cas_over holds wrote
    · refine ⟨bounded.sanitized, written, boundedDated, .inl higher, fun sameSession => ?_⟩
      have epochs : current.room.publicIdEpoch = bounded.room.publicIdEpoch := by
        rw [dated, boundedDated, sameSession]
        rfl
      omega
    · omega

/-- What one call does to the room: nothing, close it, or put a state after the stored one. -/
inductive Shift (repo : Repository Blob) (epochOf : Uuid → Nat) (room : Nat)
    (store after : Store Blob) : Prop where
  | quiet (same : after.rooms room = store.rooms room)
  | closed (gone : after.rooms room = none)
  | written (before : Holds repo room store current) (written : Holds repo room after next)
      (dated : Dated epochOf next) (follows : Follows current next)

section

variable (ordered : Ordered repo epochOf room store trace)
include ordered

theorem Ordered.holds_of_content
    (found : content repo room store = some current) : Holds repo room store current := by
  rcases ordered.stored with absent | ⟨state, holds, _⟩
  · simp [content, absent] at found
  · rw [holds.content] at found
    exact some.inj found ▸ holds

theorem move_shift (witnessed : ∀ event ∈ seen, (task, event) ∈ trace)
    (allowed : AllowedWrite repo task seen command)
    (permitted : (ordering repo epochOf room).guard store task command) :
    Shift repo epochOf room store (execute repo.lua command store).2 := by
  obtain ⟨addressed, condition⟩ := permitted
  cases command with
  | cas call =>
    by_cases target : call.room = room
    · obtain ⟨current, found, carries⟩ := condition target
      have holds := ordered.holds_of_content found
      rcases ran : cas repo.lua store call with ⟨status, after⟩
      cases status with
      | ok =>
        obtain ⟨next, written, dated, follows⟩ :=
          Writes.follows ordered witnessed addressed allowed target holds carries ran
        have result : (execute repo.lua (.cas call) store).2 = after := congrArg Prod.snd ran
        rw [result]
        exact .written holds written dated follows
      | error refusal =>
        rcases cas_cases repo.lua store call with ⟨_, refused⟩ | ⟨_, accounts, _, ⟨refused, _⟩ | ⟨wrote, _⟩⟩
        · exact .quiet (congrArg (·.2.rooms room) refused)
        · exact .quiet (congrArg (·.2.rooms room) refused)
        · cases ran.symm.trans wrote
    · rcases cas_cases repo.lua store call with ⟨_, ran⟩ | ⟨_, _, _, ⟨ran, _⟩ | ⟨ran, _⟩⟩
      · exact .quiet (congrArg (·.2.rooms room) ran)
      · exact .quiet (congrArg (·.2.rooms room) ran)
      · apply Shift.quiet
        rw [show (execute repo.lua (.cas call) store).2.rooms room = _ from congrArg (·.2.rooms room) ran]
        exact Function.update_of_ne (Ne.symm target) _ _
  | remove call =>
    rcases remove_cases repo.lua store call with ⟨status, ran, _⟩ | ⟨_, _, _, _, _, _, ran⟩
    · exact .quiet (congrArg (·.2.rooms room) ran)
    · have result := congrArg (·.2.rooms room) ran
      by_cases target : call.room = room
      · exact .closed (result.trans (by simp [target]))
      · exact .quiet (result.trans (Function.update_of_ne (Ne.symm target) _ _))
  | _ => exact .quiet rfl

theorem Ordered.observe (answer : ∀ raw, event = readEvent room raw →
      (store.rooms room).map (·.value) = some raw ∧
    ∀ current, content repo room store = some current → Abreast epochOf task current) : Ordered repo
    epochOf room store (trace ++ [(task, event)]) := by
  refine ⟨ordered.stored, fun reader raw member => ?_⟩
  rcases List.mem_append.mp member with earlier | here
  · exact ordered.reads reader raw earlier
  simp only [List.mem_singleton, Prod.mk.injEq] at here
  obtain ⟨rfl, same⟩ := here
  obtain ⟨found, abreast⟩ := answer raw same.symm
  rcases ordered.stored with absent | ⟨state, holds, dated⟩
  · simp [absent] at found
  · obtain ⟨deadline, stored⟩ := holds.stored
    have encoded : repo.encode state = raw := by simpa [stored] using found
    refine ⟨state, encoded.symm, holds.sanitized, dated, abreast state holds.content, fun current now => ?_⟩
    obtain rfl := holds.unique now
    exact .refl state

theorem Ordered.shift (shift : Shift repo epochOf room store after) :
    Ordered repo epochOf room after trace := by
  cases shift with
  | quiet same =>
    constructor
    · rcases ordered.stored with absent | ⟨state, holds, dated⟩
      · exact .inl (same.trans absent)
      · exact .inr ⟨state, holds.of_rooms_eq same, dated⟩
    · intro reader raw member
      obtain ⟨seen, encoded, sanitized, dated, abreast, order⟩ := ordered.reads reader raw member
      exact ⟨seen, encoded, sanitized, dated, abreast, fun current holds =>
        order current (holds.of_rooms_eq same.symm)⟩
  | closed gone =>
    refine ⟨.inl gone, fun reader raw member => ?_⟩
    obtain ⟨seen, encoded, sanitized, dated, abreast, _⟩ := ordered.reads reader raw member
    refine ⟨seen, encoded, sanitized, dated, abreast, fun current holds => ?_⟩
    obtain ⟨deadline, stored⟩ := holds.stored
    rw [gone] at stored
    cases stored
  | @written current next before written dated follows =>
    refine ⟨.inr ⟨next, written, dated⟩, fun reader raw member => ?_⟩
    obtain ⟨seen, encoded, sanitized, seenDated, abreast, order⟩ := ordered.reads reader raw member
    refine ⟨seen, encoded, sanitized, seenDated, abreast, fun other holds => ?_⟩
    obtain rfl := written.unique holds
    exact (order current before).trans follows.precedes

end

theorem ordering_disciplined (repo : Repository Blob) (epochOf : Uuid → Nat) (room : Nat) :
    (ordering repo epochOf room).Disciplined (AllowedWrite repo) (Ordered repo epochOf room) where
  kept := body_writes repo
  moves := by
    intro store trace task seen command ordered witnessed allowed permitted
    apply Ordered.shift _ (move_shift ordered witnessed allowed permitted)
    apply ordered.observe
    intro raw happened
    obtain rfl : command = .getRoom room := congrArg Sigma.fst happened
    exact ⟨@read_answer Blob repo room store _ raw happened, permitted.2 rfl⟩
  disturbed := fun ordered same => ordered.shift (.quiet same)

theorem Holds.ordered (holds : Holds repo room store state) (dated : Dated epochOf state) :
    Ordered repo epochOf room store [] :=
  ⟨.inr ⟨state, holds, dated⟩, by simp⟩

/-- In every interleaving of tasks that are abreast of the room when they look at it,
the version in the projection of one session never goes back. -/
theorem versions_ordered (repo : Repository Blob) (epochOf : Uuid → Nat) (room : Nat) (store : Store Blob)
    (initial : RoomState) (holds : Holds repo room store initial) (dated : Dated epochOf initial)
    (system next : RedisSystem Blob) (reached : (ordering repo epochOf room).Reachable store system)
    (moved : (ordering repo epochOf room).Step system next) (before after : RoomState)
    (was : content repo room system.store = some before) (is : content repo room next.store = some after)
    (sameSession : before.room.sessionId = after.room.sessionId) :
    before.room.version ≤ after.room.version := by
  have disciplined := ordering_disciplined repo epochOf room
  have ordered := (disciplined.holds (holds.ordered dated) reached).1
  have kept : next.store.rooms room = system.store.rooms room → before.room.version ≤ after.room.version := by
    intro same
    rw [content_eq_of_rooms_eq same, was] at is
    rw [some.inj is]
  rcases disciplined.step_cases (holds.ordered dated) reached moved with
    same | same | ⟨task, seen, command, witnessed, allowed, permitted, result⟩
  · exact kept (by rw [same])
  · exact kept same
  have shift := move_shift ordered witnessed allowed permitted
  rw [show (execute repo.lua command system.store).2 = next.store from result.symm] at shift
  cases shift with
  | quiet same => exact kept same
  | closed gone => simp [content, gone] at is
  | written stored written _ follows =>
    rw [stored.content] at was
    rw [written.content] at is
    cases was
    cases is
    exact follows.version sameSession

end

/-- The record that a command is answered with. -/
def answered (tables : Durable.Tables) (turn : Durable.Moment × Durable.Command) : Option RoomRecord :=
  match transact openPolicies tables tables turn.1 turn.2 with
  | .ok (record, _) => record
  | .error _ => none

/-- The projection that the database has for a public identifier. -/
def published (tables : Durable.Tables) (publicId : Nat) : Option RoomState := do
  let room ← (tables.getRoom publicId).toOption.join
  let snapshot ← (tables.loadSnapshot room).toOption
  (stateFromSnapshot 0 100 (some snapshot)).toOption

/-- The room of the first account, and the commands of two others that join it. -/
def opened : Durable.Tables := perform openPolicies .empty (⟨1, 0⟩, sampleCreate 10 11 1)

def firstJoin : Durable.Moment × Durable.Command := (⟨2, 1⟩, sampleJoin 20 2)

def secondJoin : Durable.Moment × Durable.Command := (⟨3, 2⟩, sampleJoin 30 3)

def openedState : RoomState := ((published opened 1).getD idleState).sanitized

theorem openedState_holds : Holds plainRepo 1 (storeOf openedState) openedState := by
  have keyed : openedState.room.publicId = 1 := by decide
  refine ⟨⟨openedState.expiresAt.millis, ?_⟩, rfl, keyed⟩
  simp [storeOf, keyed, plainRepo]

def firstRecord : RoomRecord := (answered opened firstJoin).getD sampleRoom

def secondRecord : RoomRecord := (answered (perform openPolicies opened firstJoin) secondJoin).getD sampleRoom

def joinFirst : Task := .join firstRecord 2 (.aware 100)

def joinSecond : Task := .join secondRecord 3 (.aware 100)

/-- The second join is projected from its start to its end before the first one looks
at the room; the first one is about to write. -/
def overtaken : RedisSystem RoomState :=
  [.start 0 joinFirst, .start 1 joinSecond, .move 1, .move 1, .move 1, .move 1, .move 0, .move 0,
    .move 0].foldl (plainRepo.unguarded.play fun _ _ _ => true) (.initial (storeOf openedState))

def overwritten : RedisSystem RoomState := plainRepo.unguarded.play (fun _ _ _ => true) overtaken (.move 0)

def projectedVersion (store : Store RoomState) : Option (Uuid × Nat) :=
  (content plainRepo 1 store).map fun state => (state.room.sessionId, state.room.version)

/-- The join that committed first is projected last: the version in the projection goes
from three back to two within one session. -/
theorem overtaken_goes_back : (answered opened firstJoin).map (·.version) = some 2 ∧
    (answered (perform openPolicies opened firstJoin) secondJoin).map (·.version) = some 3 ∧
    Holds plainRepo 1 (storeOf openedState) openedState ∧
    plainRepo.unguarded.Reachable (storeOf openedState) overtaken ∧
    plainRepo.unguarded.Step overtaken overwritten ∧
    projectedVersion overtaken.store = some (sampleKey 12, 3) ∧
    projectedVersion overwritten.store = some (sampleKey 12, 2) := by
  have newer : projectedVersion overtaken.store = some (sampleKey 12, 3) := by decide
  have older : projectedVersion overwritten.store = some (sampleKey 12, 2) := by decide
  refine ⟨by decide, by decide, openedState_holds, .plays (fun _ _ _ _ => trivial) .initial _, ?_, newer, older⟩
  have turn : plainRepo.unguarded.Step overtaken overwritten ∨ overwritten = overtaken :=
    Machine.step_or_idle_of_play (fun _ _ _ _ => trivial) overtaken (.move 0)
  apply turn.resolve_right
  intro idle
  rw [idle, newer] at older
  cases older

/-- The calls of a join that is not behind, of an account that has no slot yet. -/
def joinsInOrder (store : Store RoomState) (task : Task) (command : Command RoomState) : Bool :=
  match task with
  | .edit 1 (.join record account _) => record.publicId = 1 && record.publicIdEpoch = 1 &&
    match command with
    | .getRoom _ => (content plainRepo 1 store).all fun state => state.room.version ≤ record.version
    | .cas _ => (content plainRepo 1 store).any fun state => (state.slotFor account).isNone
    | .remove _ => false
    | _ => true
  | _ => false

theorem joinsInOrder_permitted (store : Store RoomState) (task : Task) (command : Command RoomState)
    (passes : joinsInOrder store task command = true) :
    (ordering plainRepo (fun _ => 1) 1).guard store task command := by
  unfold joinsInOrder at passes
  split at passes
  · next record account expiresAt =>
    simp only [Bool.and_eq_true, decide_eq_true_eq] at passes
    obtain ⟨⟨keyed, dated⟩, passes⟩ := passes
    constructor
    · rintro other brings
      cases brings
      exact ⟨congrArg some keyed.symm, dated⟩
    · cases command with
      | getRoom publicId =>
        intro _ current found
        constructor
        · rintro other brings _
          cases brings
          simpa [found] using passes
        · rintro _ _ _ ⟨⟩
      | cas call =>
        intro _
        obtain ⟨current, found, unseated⟩ := (any_eq_true _ _).mp passes
        refine ⟨current, found, ?_⟩
        rintro mutation other edits resends
        cases edits
        simp only [isNone_iff_eq_none] at unseated
        simp [Mutation.resends, unseated] at resends
      | remove call => cases passes
      | _ => trivial
  · cases passes

/-- Both joins in the order of their commits; the second one is about to write. -/
def inOrder : RedisSystem RoomState :=
  [.start 0 joinFirst, .start 1 joinSecond, .move 0, .move 0, .move 0, .move 0, .move 1, .move 1,
    .move 1].foldl ((ordering plainRepo (fun _ => 1) 1).play joinsInOrder) (.initial (storeOf openedState))

def inOrderNext : RedisSystem RoomState :=
  (ordering plainRepo (fun _ => 1) 1).play joinsInOrder inOrder (.move 1)

theorem inOrder_ordered : projectedVersion inOrder.store = some (sampleKey 12, 2) ∧
    projectedVersion inOrderNext.store = some (sampleKey 12, 3) ∧
    ∀ before after, content plainRepo 1 inOrder.store = some before →
      content plainRepo 1 inOrderNext.store = some after → before.room.version ≤ after.room.version := by
  have older : projectedVersion inOrder.store = some (sampleKey 12, 2) := by decide
  have newer : projectedVersion inOrderNext.store = some (sampleKey 12, 3) := by decide
  refine ⟨older, newer, fun before after was is => ?_⟩
  have turn : (ordering plainRepo (fun _ => 1) 1).Step inOrder inOrderNext ∨ inOrderNext = inOrder :=
    Machine.step_or_idle_of_play joinsInOrder_permitted inOrder (.move 1)
  have moved := turn.resolve_right fun idle => by
    rw [idle, older] at newer
    cases newer
  have dated : openedState.room.publicIdEpoch = 1 := by decide
  simp only [projectedVersion, was, is, map_some, some.injEq, Prod.mk.injEq] at older newer
  exact versions_ordered plainRepo (fun _ => 1) 1 (storeOf openedState) openedState
    openedState_holds dated inOrder inOrderNext (.plays joinsInOrder_permitted .initial _) moved
    before after was is (older.1.trans newer.1.symm)

end Perfcho.Redis
