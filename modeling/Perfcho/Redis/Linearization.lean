import Perfcho.Multiplayer.MutationInvariant
import Perfcho.Redis.Discipline
import Perfcho.Redis.Fencing

/-! Concurrent edits of one projected room. A write names the revision it read, so
while revisions tell states apart every write applies its edit to the stored state. -/

namespace Perfcho.Redis

open Foundation Multiplayer Repository Option

variable {Blob : Type}

/-- The edits of one room, each with a record of that room if it brings one. -/
def Concerns (room : Nat) : Task → Prop
  | .replace state _ _ => state.room.publicId = room
  | .leave publicId _ durableRoom => publicId = room ∧ ∀ record, durableRoom = some record →
      record.publicId = room
  | .edit publicId mutation => publicId = room ∧ ∀ record, mutation.record = some record →
      record.publicId = room
  | _ => False

theorem Concerns.target (concerns : Concerns room task) : task.target = some room := by
  cases task with
  | replace => exact congrArg some concerns
  | leave | edit => exact congrArg some concerns.1
  | create | get | findForAccount | remove => exact concerns.elim

section

variable (repo : Repository Blob)

/-- What a successful task makes of the stored state: a removal leaves nothing, a
replacement puts its own state over the revision and session it names, and an edit
is applied to what is there. -/
inductive Effect : Task → Option RoomState → Option RoomState → Prop where
  | removal : Effect (.leave publicId account none) before none
  | replacement (revision : current.stateRevision = expected)
      (session : current.room.sessionId.text = expectedSession.text) :
      Effect (.replace state expected expectedSession) (some current) (some state.sanitized)
  | edit (edits : task.mutation = some mutation) (built : mutation.apply repo.ttl now current = .ok updated) :
      Effect task (some current) (some updated.sanitized)

/-- The state after tasks were applied one after another. -/
inductive Replays (initial : RoomState) : List Task → Option RoomState → Prop where
  | start : Replays initial [] (some initial)
  | next (earlier : Replays initial log before) (effect : Effect repo task before after) :
      Replays initial (log ++ [task]) after

/-- What makes a write safe: a replacement raises the revision it expects, and an
edit that only resends a record resends the one that is stored. -/
def Carries (current : RoomState) : Task → Prop
  | .replace state expected _ => expected < state.stateRevision
  | task => ∀ mutation record, task.mutation = some mutation → mutation.resends current = some record →
      publicRoom record = current.room

/-- Any number of edits of one room. Whatever else runs may do anything but write
this room, and only a leave that closes the room removes it. -/
def editing (room : Nat) : Machine (Command Blob) Answer Failure (Option RoomState) (Store Blob) Task :=
  repo.machine (fun store task command => Concerns room task ∧
    match command with
      | .cas _ => ∀ current, content repo room store = some current → Carries current task
      | .remove _ => ∃ publicId account, task = .leave publicId account none
      | _ => True)
    (fun before after => after.rooms room = before.rooms room)

end

/-- Whether a call was a write or a removal that succeeded. -/
def succeeds : RedisEvent Blob → Bool
  | ⟨.cas _, status⟩ => Except.isOk (show Status from status)
  | ⟨.remove _, status⟩ => Except.isOk (show Status from status)
  | _ => false

/-- The tasks whose write or removal succeeded, in the order of these calls. -/
def succeeded (trace : List (Task × RedisEvent Blob)) : List Task :=
  trace.filterMap fun entry => if succeeds entry.2 then some entry.1 else none

theorem succeeded_append (trace : List (Task × RedisEvent Blob)) (task : Task) (event : RedisEvent Blob) :
    succeeded (trace ++ [(task, event)]) = succeeded trace ++ if succeeds event then [task] else [] := by
  by_cases success : succeeds event = true <;> simp [succeeded, success]

section

variable {repo : Repository Blob} {room : Nat}

/-- What a task writes: its edit of a room it has read, or the state it was given. -/
inductive Justified (repo : Repository Blob) (room : Nat) (seen : List (RedisEvent Blob)) :
    Task → CasCall Blob → Prop where
  | edit {mutation : Mutation} {current updated : RoomState} {now : Int}
      (edits : task.mutation = some mutation) (read : HasRead repo room seen current)
      (keyed : current.room.publicId = room)
      (built : mutation.apply repo.ttl now current = .ok updated) :
      Justified repo room seen task (repo.casCall updated current.stateRevision
        (some current.room.sessionId) (accountKeys current))
  | replacement {revision : Nat} : Justified repo room seen (.replace state revision session)
      (repo.casCall state revision (some session) previous)

def AllowedEdit (repo : Repository Blob) (room : Nat) (task : Task) (seen : List (RedisEvent Blob))
    (command : Command Blob) : Prop :=
  Concerns room task →
    match command with
    | .cas call => Justified repo room seen task call
    | .remove call => call.room = room
    | _ => True

theorem body_allowed (repo : Repository Blob) (room : Nat) (task : Task) :
    (repo.body task).Keeps (AllowedEdit repo room task) (fun _ _ => True) [] := by
  apply (body_keeps repo task).weaken
  intro seen command permitted concerns
  cases command with
  | cas call =>
    cases permitted with
    | edit edits target read built =>
      have keyed := concerns.target
      rw [target] at keyed
      cases keyed
      exact .edit edits read rfl built
    | replacement => exact .replacement
    | creation => exact concerns.elim
  | remove call =>
    obtain ⟨publicId, _, _, _, rfl, reaches⟩ := permitted
    simp only [concerns.target, all_some, decide_eq_true_eq] at reaches
    exact reaches.symm
  | _ => trivial

end

section

variable {repo : Repository Blob} {room : Nat} {store after : Store Blob} {current next : RoomState}

/-- A public state is stored under its room's key as the repository encodes it. -/
structure Holds (repo : Repository Blob) (room : Nat) (store : Store Blob) (state : RoomState) : Prop where
  stored : ∃ deadline, store.rooms room = some ⟨repo.encode state, deadline⟩
  sanitized : state.sanitized = state
  keyed : state.room.publicId = room

theorem Holds.content (holds : Holds repo room store current) : content repo room store = some current := by
  obtain ⟨deadline, stored⟩ := holds.stored
  simp [Redis.content, stored, repo.decode_encode, holds.sanitized, Except.toOption]

theorem Holds.unique (first : Holds repo room store current) (second : Holds repo room store next) :
    current = next :=
  some.inj (first.content.symm.trans second.content)

theorem Holds.of_rooms_eq (holds : Holds repo room store current)
    (same : after.rooms room = store.rooms room) : Holds repo room after current :=
  ⟨same ▸ holds.stored, holds.sanitized, holds.keyed⟩

/-- Nothing is stored for a room, or one of its states as the repository encodes it. -/
def Stored (repo : Repository Blob) (room : Nat) (store : Store Blob) : Prop :=
  store.rooms room = none ∨ ∃ state, Holds repo room store state

theorem Stored.of_rooms_eq (stored : Stored repo room store)
    (same : after.rooms room = store.rooms room) : Stored repo room after := by
  rcases stored with absent | ⟨state, holds⟩
  · exact .inl (same.trans absent)
  · exact .inr ⟨state, holds.of_rooms_eq same⟩

theorem content_eq_of_rooms_eq (same : after.rooms room = store.rooms room) :
    content repo room after = content repo room store := by rw [content, same, content]

theorem Concerns.keyed {ttl now : Int} (concerns : Concerns room task)
    (edits : task.mutation = some mutation) (built : mutation.apply ttl now current = .ok next)
    (keyed : current.room.publicId = room) : next.room.publicId = room := by
  have brings : ∀ record, mutation.record = some record → record.publicId = room := by
    cases task with
    | edit publicId other =>
      cases edits
      exact concerns.2
    | leave publicId account durableRoom =>
      cases durableRoom with
      | none => cases edits
      | some record =>
        cases edits
        intro other same
        cases same
        exact concerns.2 record rfl
    | _ => cases edits
  rcases (Mutation.apply_eq_ok built).1 with same | ⟨record, brought, same⟩
  · rw [same, keyed]
  · rw [same]
    exact brings record brought

/-- An edit that carries what it has to raises the revision or changes nothing. -/
theorem Carries.raises {ttl now : Int} (carries : Carries current task)
    (edits : task.mutation = some mutation) (built : mutation.apply ttl now current = .ok next)
    (sanitized : current.sanitized = current) :
    next.sanitized = current ∨ current.stateRevision < next.sanitized.stateRevision := by
  have resent : ∀ record, mutation.resends current = some record → publicRoom record = current.room := by
    cases task with
    | replace | create | get | findForAccount | remove => cases edits
    | edit => exact fun record => carries mutation record edits
    | leave => exact fun record => carries mutation record edits
  rcases (Mutation.apply_eq_ok built).2 with raised | ⟨record, resends, replaced⟩
  · right
    exact raised ▸ Nat.lt_succ_self _
  · left
    rw [resent record resends] at replaced
    rw [RoomState.replaced_same replaced, sanitized]

/-- A write that succeeds over a revision finds the state of that revision, and
stores what it brought. -/
theorem cas_holds {revision : Nat} (stored : store.rooms room = none ∨
    ∃ state, Holds repo room store state) (keyed : next.room.publicId = room)
    (wrote : cas repo.lua store (repo.casCall next revision session previous) = (.ok (), after)) :
    ∃ current, Holds repo room store current ∧ current.stateRevision = revision ∧
      current.room.sessionId.text = (session.getD next.room.sessionId).text ∧
      Holds repo room after next.sanitized := by
  have target : (repo.casCall next revision session previous).room = room := keyed
  rcases cas_cases repo.lua store (repo.casCall next revision session previous) with
    ⟨refusal, ran⟩ | ⟨previousOwner, accounts, passes, ⟨ran, _⟩ | ⟨ran, _⟩⟩
  · cases ran.symm.trans wrote
  · cases ran.symm.trans wrote
  obtain rfl : casApply store (repo.casCall next revision session previous) previousOwner accounts = after :=
    (Prod.mk.inj (ran.symm.trans wrote)).2
  have written : Holds repo room
    (casApply store (repo.casCall next revision session previous) previousOwner accounts) next.sanitized :=
    ⟨⟨next.expiresAt.millis, by simp [keyed, casCall]⟩, rfl, keyed⟩
  cases passes with
  | vacant _ creating => simp [casCall] at creating
  | supersedes _ creating => simp [casCall] at creating
  | @current entry header epoch _ _ found decoded numbered session notLower _ matched =>
    rw [target] at found
    rcases stored with absent | ⟨state, holds⟩
    · rw [absent] at found
      cases found
    · obtain ⟨deadline, kept⟩ := holds.stored
      obtain rfl : (⟨repo.encode state, deadline⟩ : Entry Blob) = entry := some.inj (kept.symm.trans found)
      obtain rfl : headerOf state = header := some.inj ((repo.header_encode state).symm.trans decoded)
      have same : (state.stateRevision : Int) = revision := by simpa [headerOf, casCall] using matched
      exact ⟨state, holds, Int.ofNat.inj same, session, written⟩

end

section

variable {repo : Repository Blob} {room : Nat} {store after : Store Blob} {initial : RoomState}
variable {trace : List (Task × RedisEvent Blob)}

/-- The invariant of a run. Every state that was read has a lower revision than the
stored one or is the stored one, and the stored one is what the successful tasks,
applied in order, make of the first. -/
structure Consistent (repo : Repository Blob) (room : Nat) (initial : RoomState)
    (store : Store Blob) (trace : List (Task × RedisEvent Blob)) : Prop where
  stored : store.rooms room = none ∨ ∃ state, Holds repo room store state
  reads : ∀ task raw, (task, readEvent room raw) ∈ trace → ∃ seen, raw = repo.encode seen ∧
    seen.sanitized = seen ∧ ∀ current, Holds repo room store current →
      seen.stateRevision < current.stateRevision ∨ seen = current
  replays : Replays repo initial (succeeded trace) (content repo room store)

/-- What one call does to the room: nothing, close it, or apply its task to it. -/
inductive Outcome (repo : Repository Blob) (room : Nat) (store after : Store Blob) (task : Task)
    (event : RedisEvent Blob) : Prop where
  | quiet (same : after.rooms room = store.rooms room) (silent : succeeds event = false)
  | closed (gone : after.rooms room = none) (success : succeeds event = true)
      (closing : ∃ publicId account, task = .leave publicId account none)
  | applied (before : Holds repo room store current) (written : Holds repo room after next)
      (effect : Effect repo task (some current) (some next))
      (raises : next = current ∨ current.stateRevision < next.stateRevision) (success : succeeds event = true)

/-- A process that has read a state of the stored revision has read the stored state. -/
theorem Consistent.read_current (consistent : Consistent repo room initial store trace)
    (witnessed : ∀ event ∈ seen, (task, event) ∈ trace) (read : HasRead repo room seen state)
    (holds : Holds repo room store current) (same : current.stateRevision = state.stateRevision) :
    state = current := by
  obtain ⟨raw, event, decoded⟩ := read
  obtain ⟨stored, encoded, sanitized, order⟩ := consistent.reads task raw (witnessed _ event)
  rw [encoded, repo.decode_encode, sanitized] at decoded
  obtain rfl : stored = state := Except.ok.inj decoded
  rcases order current holds with lower | equal
  · omega
  · exact equal

theorem cas_outcome (consistent : Consistent repo room initial store trace)
    (witnessed : ∀ event ∈ seen, (task, event) ∈ trace) (concerns : Concerns room task)
    (carries : ∀ current, content repo room store = some current → Carries current task)
    (justified : Justified repo room seen task call) :
    Outcome repo room store (cas repo.lua store call).2 task ⟨.cas call, (cas repo.lua store call).1⟩ := by
  rcases cas_cases repo.lua store call with ⟨refusal, ran⟩ | ⟨previousOwner, accounts, _, ⟨ran, _⟩ | ⟨ran, _⟩⟩
  · rw [ran]
    exact .quiet rfl rfl
  · rw [ran]
    exact .quiet rfl rfl
  rw [ran]
  cases justified with
  | edit edits read keyed built =>
    obtain ⟨current, holds, revision, _, written⟩ :=
      cas_holds consistent.stored (concerns.keyed edits built keyed) ran
    obtain rfl := consistent.read_current witnessed read holds revision
    exact .applied holds written (.edit edits built)
      ((carries _ holds.content).raises edits built holds.sanitized) rfl
  | @replacement state session previous revision =>
    obtain ⟨current, holds, matched, session, written⟩ := cas_holds consistent.stored concerns ran
    refine .applied holds written (.replacement matched session) (.inr ?_) rfl
    exact matched ▸ carries current holds.content

theorem remove_outcome (closing : ∃ publicId account, task = .leave publicId account none)
    (target : call.room = room) :
    Outcome repo room store (remove repo.lua store call).2 task
      ⟨.remove call, (remove repo.lua store call).1⟩ := by
  rcases remove_cases repo.lua store call with ⟨status, ran, absent⟩ | ⟨_, _, _, _, _, _, ran⟩
  · rw [ran]
    cases status with
    | ok => exact .closed (target ▸ absent rfl) rfl closing
    | error => exact .quiet rfl rfl
  · rw [ran]
    exact .closed (by simp [target]) rfl closing

theorem move_outcome (consistent : Consistent repo room initial store trace)
    (witnessed : ∀ event ∈ seen, (task, event) ∈ trace) (allowed : AllowedEdit repo room task seen command)
    (permitted : (editing repo room).guard store task command) :
    Outcome repo room store (execute repo.lua command store).2 task
      ⟨command, (execute repo.lua command store).1⟩ := by
  obtain ⟨concerns, condition⟩ := permitted
  cases command with
  | cas call => exact cas_outcome consistent witnessed concerns condition (allowed concerns)
  | remove call => exact remove_outcome condition (allowed concerns)
  | _ => exact .quiet rfl rfl

theorem read_answer (happened : (⟨command,
    (execute repo.lua command store).1⟩ : RedisEvent Blob) = readEvent room raw) :
    (store.rooms room).map (·.value) = some raw := by
  obtain rfl : command = .getRoom room := congrArg Sigma.fst happened
  exact eq_of_heq (Sigma.mk.inj happened).2

theorem earlier_of_success (success : succeeds event = true)
    (member : (reader, readEvent room raw) ∈ trace ++ [(task, event)]) :
    (reader, readEvent room raw) ∈ trace := by
  rcases List.mem_append.mp member with earlier | here
  · exact earlier
  · simp only [List.mem_singleton, Prod.mk.injEq] at here
    rw [← here.2] at success
    cases success

theorem Consistent.quiet (consistent : Consistent repo room initial store trace)
    (same : after.rooms room = store.rooms room) : Consistent repo room initial after trace := by
  refine ⟨?_, ?_, content_eq_of_rooms_eq same ▸ consistent.replays⟩
  · rcases consistent.stored with absent | ⟨state, holds⟩
    · exact .inl (same.trans absent)
    · exact .inr ⟨state, holds.of_rooms_eq same⟩
  · intro reader raw member
    obtain ⟨seen, encoded, sanitized, order⟩ := consistent.reads reader raw member
    exact ⟨seen, encoded, sanitized, fun current holds => order current (holds.of_rooms_eq same.symm)⟩

theorem Consistent.observe (consistent : Consistent repo room initial store trace)
    (answer : ∀ raw, event = readEvent room raw → (store.rooms room).map (·.value) = some raw)
    (silent : succeeds event = false) : Consistent repo room initial store (trace ++ [(task, event)]) := by
  refine ⟨consistent.stored, ?_, by simpa [succeeded_append, silent] using consistent.replays⟩
  intro reader raw member
  rcases List.mem_append.mp member with earlier | here
  · exact consistent.reads reader raw earlier
  simp only [List.mem_singleton, Prod.mk.injEq] at here
  have found := answer raw here.2.symm
  rcases consistent.stored with absent | ⟨state, holds⟩
  · simp [absent] at found
  · obtain ⟨deadline, stored⟩ := holds.stored
    have encoded : repo.encode state = raw := by simpa [stored] using found
    exact ⟨state, encoded.symm, holds.sanitized, fun current now => .inr (holds.unique now)⟩

theorem Consistent.move (consistent : Consistent repo room initial store trace)
    (outcome : Outcome repo room store after task event)
    (answer : ∀ raw, event = readEvent room raw → (store.rooms room).map (·.value) = some raw) :
    Consistent repo room initial after (trace ++ [(task, event)]) := by
  cases outcome with
  | quiet same silent => exact (consistent.observe answer silent).quiet same
  | closed gone success closing =>
    obtain ⟨publicId, account, rfl⟩ := closing
    refine ⟨.inl gone, ?_, ?_⟩
    · intro reader raw member
      obtain ⟨seen, encoded, sanitized, _⟩ := consistent.reads reader raw (earlier_of_success success member)
      refine ⟨seen, encoded, sanitized, fun current holds => ?_⟩
      obtain ⟨deadline, stored⟩ := holds.stored
      rw [gone] at stored
      cases stored
    · have empty : content repo room after = none := by simp [content, gone]
      rw [succeeded_append, success, empty]
      exact .next consistent.replays .removal
  | @applied current next before written effect raises success =>
    refine ⟨.inr ⟨next, written⟩, ?_, ?_⟩
    · intro reader raw member
      obtain ⟨seen, encoded, sanitized, order⟩ :=
        consistent.reads reader raw (earlier_of_success success member)
      refine ⟨seen, encoded, sanitized, fun other holds => ?_⟩
      obtain rfl := written.unique holds
      rcases order current before with lower | rfl
      · rcases raises with rfl | higher
        · exact .inl lower
        · exact .inl (Nat.lt_trans lower higher)
      · rcases raises with rfl | higher
        · exact .inr rfl
        · exact .inl higher
    · rw [succeeded_append, success, written.content]
      exact .next (before.content ▸ consistent.replays) effect

theorem editing_disciplined (repo : Repository Blob) (room : Nat) (initial : RoomState) :
    (editing repo room).Disciplined (AllowedEdit repo room) (Consistent repo room initial) where
  kept := body_allowed repo room
  moves := fun consistent witnessed allowed permitted =>
    consistent.move (move_outcome consistent witnessed allowed permitted) fun _ => read_answer
  disturbed := fun consistent same => consistent.quiet same

theorem Holds.consistent (holds : Holds repo room store initial) : Consistent repo room initial store [] :=
  ⟨.inr ⟨initial, holds⟩, by simp, holds.content ▸ .start⟩

/-- In every interleaving of edits of one room that carry what they have to, the
stored state is what the successful ones make of the first state one after another,
and whenever it changes its revision rises. -/
theorem edits_linearize (repo : Repository Blob) (room : Nat) (store : Store Blob)
    (initial : RoomState) (holds : Holds repo room store initial) (system : RedisSystem Blob)
    (reached : (editing repo room).Reachable store system) :
    Replays repo initial (succeeded system.trace) (content repo room system.store) ∧
      ∀ next before after, (editing repo room).Step system next →
        content repo room system.store = some before → content repo room next.store = some after →
        before ≠ after → before.stateRevision < after.stateRevision := by
  have disciplined := editing_disciplined repo room initial
  have consistent := (disciplined.holds holds.consistent reached).1
  refine ⟨consistent.replays, fun next before after moved was is changed => ?_⟩
  rcases disciplined.step_cases holds.consistent reached moved with
    same | same | ⟨task, seen, command, witnessed, allowed, permitted, result⟩
  · rw [same, was] at is
    exact absurd (some.inj is) changed
  · rw [content_eq_of_rooms_eq same, was] at is
    exact absurd (some.inj is) changed
  have outcome := move_outcome consistent witnessed allowed permitted
  rw [show (execute repo.lua command system.store).2 = next.store from result.symm] at outcome
  cases outcome with
  | quiet same _ =>
    rw [content_eq_of_rooms_eq same, was] at is
    exact absurd (some.inj is) changed
  | closed gone _ _ => simp [content, gone] at is
  | applied stored written _ raises _ =>
    rw [stored.content] at was
    rw [written.content] at is
    cases was
    cases is
    rcases raises with same | higher
    · exact absurd same.symm changed
    · exact higher

end

def nextRecord : RoomRecord := { sampleRoom with version := 4 }

def rejoin : Task := .join nextRecord 2 (.aware 100)

def unready : Task := .edit 5 (.setSlotStatus 2 .notReady)

/-- The second process reads, the first runs to its end, and the second writes. -/
def lostRecord : RedisSystem RoomState :=
  [.start 0 rejoin, .start 1 unready, .move 1, .move 1, .move 1, .move 0, .move 0, .move 0, .move 0,
    .move 1].foldl (plainRepo.unguarded.play fun _ _ _ => true) (.initial (storeOf idleState))

theorem lostRecord_succeeded : succeeded lostRecord.trace = [rejoin, unready] := rfl

theorem Replays.last (log : List Task) (replays : Replays repo initial (log ++ [task]) after) :
    ∃ before, Replays repo initial log before ∧ Effect repo task before after := by
  generalize whole : log ++ [task] = full at replays
  cases replays with
  | start => simp at whole
  | next earlier effect =>
    obtain ⟨rfl, same⟩ := List.append_inj' whole rfl
    cases same
    exact ⟨_, earlier, effect⟩

/-- Whoever applies the two tasks in order ends with the newer record. -/
theorem rejoin_then_unready (replays : Replays plainRepo idleState [rejoin, unready] (some final)) :
    final.room.version = 4 := by
  obtain ⟨middle, earlier, second⟩ := Replays.last [rejoin] replays
  obtain ⟨first, _, joined⟩ := Replays.last [] earlier
  cases joined with
  | edit edits joins =>
    cases edits
    cases second with
    | edit edits updates =>
      cases edits
      have brought := congrArg RoomRecord.version (join_eq_ok joins).1
      have kept := congrArg RoomRecord.version (updateSlot_eq_ok updates).1
      exact kept.trans brought

/-- The run loses the record that the first task brought: both tasks succeed, and
the room still has its old version. -/
theorem lostRecord_not_replayed : Holds plainRepo 5 (storeOf idleState) idleState ∧
    plainRepo.unguarded.Reachable (storeOf idleState) lostRecord ∧
    succeeded lostRecord.trace = [rejoin, unready] ∧
    (content plainRepo 5 lostRecord.store).map (·.room.version) = some 3 ∧
    ¬ Replays plainRepo idleState (succeeded lostRecord.trace) (content plainRepo 5 lostRecord.store) := by
  have version : (content plainRepo 5 lostRecord.store).map (·.room.version) = some 3 := by decide
  refine ⟨⟨⟨100, rfl⟩, rfl, rfl⟩, .plays (fun _ _ _ _ => trivial) .initial _, lostRecord_succeeded,
    version, ?_⟩
  intro replays
  obtain ⟨final, stored, old⟩ := map_eq_some_iff.mp version
  rw [lostRecord_succeeded, stored] at replays
  have new := rejoin_then_unready replays
  omega

/-- The calls of the second task that do not remove the room. -/
def unreadyCalls (task : Task) (command : Command RoomState) : Bool :=
  match task, command with
  | _, .remove _ => false
  | .edit 5 (.setSlotStatus _ _), _ => true
  | _, _ => false

theorem unreadyCalls_permitted (store : Store RoomState) (task : Task) (command : Command RoomState)
    (passes : unreadyCalls task command = true) : (editing plainRepo 5).guard store task command := by
  unfold unreadyCalls at passes
  split at passes
  · cases passes
  · next stays =>
    refine ⟨⟨rfl, fun record brings => by simp [Mutation.record] at brings⟩, ?_⟩
    cases command with
    | cas call =>
      intro current _ mutation record edits resends
      cases edits
      simp [Mutation.resends] at resends
    | remove call => exact absurd rfl (stays call)
    | _ => trivial
  · cases passes

/-- Both players change their status at once: both read, one writes, and the other is
fenced and tries again. -/
def unreadyRun : RedisSystem RoomState :=
  [.start 0 unready, .start 1 (.edit 5 (.setSlotStatus 1 .ready)), .move 0, .move 0, .move 0,
    .move 1, .move 1, .move 1, .move 0, .move 1, .move 1, .move 1, .move 1, .move 1].foldl
    ((editing plainRepo 5).play fun _ => unreadyCalls) (.initial (storeOf idleState))

theorem unreadyRun_linearizes : unreadyRun.trace.length = 12 ∧
    succeeded unreadyRun.trace = [unready, .edit 5 (.setSlotStatus 1 .ready)] ∧
    Replays plainRepo idleState (succeeded unreadyRun.trace) (content plainRepo 5 unreadyRun.store) :=
  ⟨rfl, rfl, (edits_linearize plainRepo 5 (storeOf idleState) idleState ⟨⟨100, rfl⟩, rfl, rfl⟩ unreadyRun
    (.plays unreadyCalls_permitted .initial _)).1⟩

end Perfcho.Redis
