import Perfcho.Redis.VersionOrder

/-! The projection of a closed room. Its public identifier is free again from the
commit on, while the closing process still has to remove the projection: it removes
the room that its own lookup has found, whoever's that is by then. -/

namespace Perfcho.Redis

open Foundation Multiplayer Repository Durable Option

variable {Blob : Type}

/-- What an event has read of a room. -/
def readOf (room : Nat) : RedisEvent Blob → Option Blob
  | ⟨.getRoom publicId, raw⟩ => if publicId = room then (show Option Blob from raw) else none
  | _ => none

def firstRead (room : Nat) : List (RedisEvent Blob) → Option Blob
  | [] => none
  | event :: earlier => (firstRead room earlier).or (readOf room event)

/-- Any number of repository methods, while keys expire. -/
def Repository.lossy (repo : Repository Blob) :
    Machine (Command Blob) Answer Failure (Option RoomState) (Store Blob) Task :=
  repo.machine (fun _ _ _ => True)
    (fun before after => ∀ room, after.rooms room = before.rooms room ∨ after.rooms room = none)

section

variable {repo : Repository Blob}

/-- A closing leave writes nothing, and removes the session that its lookup has found. -/
def AllowedRemoval (repo : Repository Blob) (task : Task) (seen : List (RedisEvent Blob)) :
    Command Blob → Prop
  | .cas call => (∃ state expected session previous, call = repo.casCall state expected session previous) ∧
      ∀ publicId account, task ≠ .leave publicId account none
  | .remove call => ∀ publicId account, task = .leave publicId account none →
      call.room = publicId ∧ ∃ raw found, firstRead publicId seen = some raw ∧
        repo.decode raw = .ok found ∧ call.expectedSession = found.room.sessionId.text
  | _ => True

theorem removal_keeps (first : firstRead publicId seen = some raw) (decoded : repo.decode raw = .ok found) :
    (repo.remove publicId found.stateRevision found.room.sessionId).Keeps
      (AllowedRemoval repo (.leave publicId account none)) (fun _ _ => True) seen := by
  refine ⟨trivial, fun again => ?_⟩
  apply (decodeRoom_keeps repo again _).andThen
  rintro _ current ⟨rfl, _⟩
  refine ⟨?_, fun status => ?_⟩
  · rintro _ _ ⟨⟩
    exact ⟨rfl, raw, found, by rw [firstRead, first, some_or], decoded, rfl⟩
  · cases status <;> trivial

/-- What the lookup of a closing leave returns is its first read, and so is what it prunes. -/
theorem lookup_keeps (repo : Repository Blob) (publicId account : Nat) (time : Int)
    (unread : firstRead publicId seen = none) :
    (repo.get publicId time).Keeps (AllowedRemoval repo (.leave publicId account none))
      (fun seen result => ∀ found, result = .ok (some found) →
        ∃ raw, firstRead publicId seen = some raw ∧ repo.decode raw = .ok found) seen := by
  refine ⟨trivial, fun raw => ?_⟩
  apply (decodeRoom_keeps repo raw _).seq
  · rintro _ current ⟨rfl, decoded⟩
    cases current with
    | none => exact fun found => nofun
    | some found =>
      obtain ⟨blob, rfl, decodes⟩ := decoded found rfl
      have first : firstRead publicId (⟨.getRoom publicId, some blob⟩ :: seen) = some blob := by
        simp [firstRead, unread, readOf]
      by_cases keyed : found.room.publicId = publicId
      · by_cases expired : found.expiresAt.millis ≤ time
        · simp only [keyed, expired, ne_eq, not_true_eq_false, ↓reduceIte]
          have tried : (repo.remove publicId found.stateRevision found.room.sessionId).attempt.Keeps
            (AllowedRemoval repo (.leave publicId account none)) (fun _ _ => True) _ :=
            Program.Keeps.attempt (removal_keeps first decodes)
          apply tried.seq
          · intro seen result _
            cases result with
            | ok => exact fun other => nofun
            | error failure => cases failure <;> exact fun other => nofun
          · exact fun _ _ _ _ => nofun
        · simp only [keyed, expired, ne_eq, not_true_eq_false, ↓reduceIte]
          intro other returned
          cases returned
          exact ⟨blob, first, decodes⟩
      · simp only [keyed, ne_eq, not_false_eq_true, ↓reduceIte]
        exact fun other => nofun
  · exact fun _ _ _ _ => nofun

theorem closing_keeps (repo : Repository Blob) (publicId account : Nat) :
    (repo.body (.leave publicId account none)).Keeps
      (AllowedRemoval repo (.leave publicId account none)) (fun _ _ => True) [] := by
  refine ⟨trivial, fun now => ?_⟩
  apply (lookup_keeps repo publicId account now rfl).andThen
  intro seen result looked
  cases result with
  | none => trivial
  | some found =>
    obtain ⟨raw, first, decoded⟩ := looked found rfl
    apply (removal_keeps first decoded).andThen
    intros
    trivial

theorem body_removes (repo : Repository Blob) (task : Task) :
    (repo.body task).Keeps (AllowedRemoval repo task) (fun _ _ => True) [] := by
  by_cases closing : ∃ publicId account, task = .leave publicId account none
  · obtain ⟨publicId, account, rfl⟩ := closing
    exact closing_keeps repo publicId account
  have other : ∀ publicId account, task ≠ .leave publicId account none :=
    fun publicId account same => closing ⟨publicId, account, same⟩
  apply (body_keeps repo task).weaken
  intro seen command permitted
  cases command with
  | cas call => exact ⟨permitted.made, other⟩
  | remove call => exact fun publicId account same => absurd same (other publicId account)
  | _ => trivial

end

section

variable {repo : Repository Blob} {room : Nat} {store after : Store Blob}

theorem Stored.move (stored : Stored repo room store) (allowed : AllowedRemoval repo task seen command) :
    Stored repo room (execute repo.lua command store).2 := by
  cases command with
  | cas call =>
    obtain ⟨⟨state, expected, session, previous, rfl⟩, _⟩ := allowed
    rcases cas_cases repo.lua store (repo.casCall state expected session previous) with
      ⟨_, ran⟩ | ⟨_, _, _, ⟨ran, _⟩ | ⟨ran, _⟩⟩
    · exact stored.of_rooms_eq (congrArg (·.2.rooms room) ran)
    · exact stored.of_rooms_eq (congrArg (·.2.rooms room) ran)
    · have result := congrArg (·.2.rooms room) ran
      by_cases target : state.room.publicId = room
      · exact .inr ⟨state.sanitized,
          ⟨state.expiresAt.millis, result.trans (by simp [casCall, target])⟩, rfl, target⟩
      · exact stored.of_rooms_eq (result.trans (Function.update_of_ne (Ne.symm target) _ _))
  | remove call =>
    rcases remove_cases repo.lua store call with ⟨status, ran, _⟩ | ⟨_, _, _, _, _, _, ran⟩
    · exact stored.of_rooms_eq (congrArg (·.2.rooms room) ran)
    · have result := congrArg (·.2.rooms room) ran
      by_cases target : call.room = room
      · exact .inl (result.trans (by simp [target]))
      · exact stored.of_rooms_eq (result.trans (Function.update_of_ne (Ne.symm target) _ _))
  | _ => exact stored.of_rooms_eq rfl

theorem lossy_disciplined (repo : Repository Blob) (room : Nat) :
    repo.lossy.Disciplined (AllowedRemoval repo) (fun store _ => Stored repo room store) where
  kept := body_removes repo
  moves := fun stored _ allowed _ => stored.move allowed
  disturbed := by
    intro store after trace stored change
    rcases change room with same | gone
    · exact stored.of_rooms_eq same
    · exact .inl gone

/-- A call of a closing leave spares a session that its lookup has not found. -/
theorem closing_move (allowed : AllowedRemoval repo (.leave room account none) seen command)
    (looked : ∀ raw found, firstRead room seen = some raw → repo.decode raw = .ok found →
      found.room.sessionId ≠ state.room.sessionId)
    (holds : Holds repo room store state) :
    (execute repo.lua command store).2.rooms room = store.rooms room := by
  cases command with
  | cas call => exact absurd rfl (allowed.2 room account)
  | remove call =>
    obtain ⟨target, raw, found, first, decoded, session⟩ := allowed room account rfl
    obtain ⟨deadline, kept⟩ := holds.stored
    rcases remove_cases repo.lua store call with ⟨status, ran, _⟩ | ⟨entry, header, stored, decodes,
      named, _, _⟩
    · exact congrArg (·.2.rooms room) ran
    · rw [target] at stored
      cases kept.symm.trans stored
      cases (repo.header_encode state).symm.trans decodes
      exact absurd (Uuid.text_injective (named.trans session)).symm (looked raw found first decoded)
  | _ => rfl

/-- In every interleaving, the next call of a process that closes a room leaves the
projection of another session alone that the process has not found in its lookup. -/
theorem closing_spares (repo : Repository Blob) (room account : Nat) (store : Store Blob)
    (initially : Stored repo room store) (system : RedisSystem Blob)
    (reached : repo.lossy.Reachable store system) (identity : Nat) (seen : List (RedisEvent Blob))
    (command : Command Blob) (rest : Answer command → Method Blob (Option RoomState))
    (running : system.processes identity = some ⟨.leave room account none, seen, .call command rest⟩)
    (state : RoomState) (stored : content repo room system.store = some state)
    (looked : ∀ raw found, firstRead room seen = some raw → repo.decode raw = .ok found →
      found.room.sessionId ≠ state.room.sessionId) :
    content repo room (repo.lossy.execute command system.store).2 = some state := by
  obtain ⟨inside, behave⟩ := (lossy_disciplined repo room).holds initially reached
  have holds : Holds repo room system.store state := by
    rcases inside with absent | ⟨other, holds⟩
    · simp [content, absent] at stored
    · rw [holds.content] at stored
      exact some.inj stored ▸ holds
  have allowed := (behave identity _ running).keeps.1
  rw [← stored]
  exact content_eq_of_rooms_eq (closing_move allowed looked holds)

end

/-- The room of the first account is closed by its leave, and the second account opens
the next one. -/
def closed : Durable.Tables := perform openPolicies opened (⟨2, 1⟩, sampleLeave 20 1)

def reopened : Durable.Tables := perform openPolicies closed (⟨3, 2⟩, sampleCreate 30 31 2)

def reopenedState : RoomState := ((published reopened 1).getD idleState).sanitized

def closeOpened : Task := .leave 1 1 none

def publishReopened : Task := .create reopenedState

def projectedSession (store : Store RoomState) : Option Uuid :=
  (content plainRepo 1 store).map (·.room.sessionId)

/-- The next room is published before the closing process looks the old one up; that
process is about to remove what it has found. -/
def foundReopened : RedisSystem RoomState :=
  [.start 0 closeOpened, .start 1 publishReopened, .move 1, .move 1, .move 1, .move 1, .move 1,
    .move 0, .move 0, .move 0].foldl (plainRepo.lossy.play fun _ _ _ => true) (.initial (storeOf openedState))

/-- A process that closes the first room and has not finished. -/
def closesOpened : Option (Process (Command RoomState) Answer Failure (Option RoomState) Task) → Bool
  | some ⟨.leave 1 1 none, _, .call _ _⟩ => true
  | _ => false

theorem running_of_closing (closes : closesOpened process = true) :
    ∃ seen command rest, process = some ⟨.leave 1 1 none, seen, .call command rest⟩ := by
  unfold closesOpened at closes
  split at closes
  · exact ⟨_, _, _, rfl⟩
  · cases closes

/-- The store after the next call of the closing process. -/
def afterClosing (system : RedisSystem RoomState) : Store RoomState :=
  (plainRepo.lossy.play (fun _ _ _ => true) system (.move 0)).store

theorem afterClosing_eq (running : system.processes 0 = some ⟨task, seen, .call command rest⟩) :
    afterClosing system = (plainRepo.lossy.execute command system.store).2 := by
  simp only [afterClosing, Machine.play, running, ↓reduceIte]

/-- The leave that closes the first room removes the projection of the second one, to
which the database has given the same public identifier. -/
theorem reopened_removed :
    ((transact openPolicies opened opened ⟨2, 1⟩ (sampleLeave 20 1)).toOption.map (·.1.isNone) =
        some true ∧
      (reopened.getRoom 1).toOption.join.map (·.sessionId) = some (sampleKey 32)) ∧
    Stored plainRepo 1 (storeOf openedState) ∧
    plainRepo.lossy.Reachable (storeOf openedState) foundReopened ∧
    projectedSession foundReopened.store = some (sampleKey 32) ∧
    ∃ seen command rest, foundReopened.processes 0 = some ⟨.leave 1 1 none, seen, .call command rest⟩ ∧
      content plainRepo 1 (plainRepo.lossy.execute command foundReopened.store).2 = none := by
  obtain ⟨seen, command, rest, running⟩ := running_of_closing
    (show closesOpened (foundReopened.processes 0) = true by decide +kernel)
  have removed : (content plainRepo 1 (afterClosing foundReopened)).isNone = true := by decide +kernel
  refine ⟨by decide +kernel, .inr ⟨openedState, openedState_holds⟩, .plays (fun _ _ _ _ => trivial) .initial _,
    by decide +kernel, seen, command, rest, running, ?_⟩
  rw [← afterClosing_eq running]
  exact isNone_iff_eq_none.mp removed

/-- The closing process looks the old room up before the next one is published, and is
about to remove it. -/
def foundOpened : RedisSystem RoomState :=
  [.start 0 closeOpened, .start 1 publishReopened, .move 0, .move 0, .move 0, .move 1, .move 1,
    .move 1, .move 1, .move 1].foldl (plainRepo.lossy.play fun _ _ _ => true) (.initial (storeOf openedState))

def firstSession (process : Process (Command RoomState) Answer Failure (Option RoomState) Task) :
    Option Uuid :=
  (firstRead 1 process.seen).map (·.room.sessionId)

theorem reopened_spared : projectedSession foundOpened.store = some (sampleKey 32) ∧
    projectedSession (afterClosing foundOpened) = some (sampleKey 32) := by
  have before : projectedSession foundOpened.store = some (sampleKey 32) := by decide +kernel
  have first : (foundOpened.processes 0).bind firstSession = some (sampleKey 12) := by decide +kernel
  obtain ⟨state, stored, session⟩ := map_eq_some_iff.mp before
  obtain ⟨seen, command, rest, running⟩ := running_of_closing
    (show closesOpened (foundOpened.processes 0) = true by decide +kernel)
  refine ⟨before, ?_⟩
  rw [projectedSession, afterClosing_eq running, closing_spares plainRepo 1 1 (storeOf openedState)
    (.inr ⟨openedState, openedState_holds⟩) foundOpened (.plays (fun _ _ _ _ => trivial) .initial _)
    0 seen command rest running state stored, map_some, session]
  intro raw found read decoded
  cases decoded
  rw [running, bind_some, firstSession, read, map_some, some.injEq] at first
  rw [first, session]
  decide

end Perfcho.Redis
