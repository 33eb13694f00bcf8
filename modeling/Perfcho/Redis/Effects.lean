import Perfcho.Foundation.Contract
import Perfcho.Redis.LeaveRuns
import Perfcho.Redis.VersionOrder

/-! What each repository method does to the stored rooms when no other process runs in
between: it leaves them, drops a room, or writes one. -/

namespace Perfcho.Redis

open Foundation Multiplayer Repository Program Yields Function

variable {Blob : Type} {repo : Repository Blob} {room : Nat} {store after : Store Blob}

/-- What holds of the result and the store after a method that runs alone. -/
abbrev Does (repo : Repository Blob) (method : Method Blob Value) (store : Store Blob)
    (post : Except Failure Value → Store Blob → Prop) : Prop :=
  Yields (execute repo.lua) (fun _ _ => True) method store post

theorem Does.runAlone (does : Does repo method store post) :
    post (Redis.runAlone repo method store).1 (Redis.runAlone repo method store).2 :=
  does.ends (permits_of_forall (fun _ _ => trivial) _ _)

/-- The rooms and the clock are as before; the indexes may differ. -/
structure Same (store after : Store Blob) : Prop where
  rooms : after.rooms = store.rooms
  clock : after.clock = store.clock

theorem Same.refl (store : Store Blob) : Same store store := ⟨rfl, rfl⟩

/-- One room is dropped or written, the other ones are as before. -/
inductive Puts (repo : Repository Blob) (store after : Store Blob) (room : Nat) :
    Option RoomState → Prop where
  | drops (clock : after.clock = store.clock) (rooms : after.rooms = update store.rooms room none) :
      Puts repo store after room none
  | writes {state : RoomState} {deadline : Int} (clock : after.clock = store.clock)
      (rooms : after.rooms = update store.rooms room (some ⟨repo.encode state, deadline⟩))
      (sanitized : state.sanitized = state) (keyed : state.room.publicId = room) :
      Puts repo store after room (some state)

/-- A stored state whose time is not up. -/
structure Live (repo : Repository Blob) (room : Nat) (store : Store Blob) (state : RoomState) : Prop
    extends Holds repo room store state where
  live : store.clock < state.expiresAt.millis

theorem Projects.toLive (projects : Projects repo store state) : Live repo state.room.publicId store state :=
  ⟨⟨projects.stored, projects.sanitized, rfl⟩, projects.live⟩

/-- A room that nobody stores or whose time is up is dropped. -/
structure Fades (repo : Repository Blob) (room : Nat) (store after : Store Blob) : Prop where
  puts : Puts repo store after room none
  expired : ∀ state, Holds repo room store state → state.expiresAt.millis ≤ store.clock

theorem Puts.clock (puts : Puts repo store after room next) : after.clock = store.clock := by
  cases puts <;> assumption

theorem Puts.elsewhere (puts : Puts repo store after room next) (other : room' ≠ room) :
    after.rooms room' = store.rooms room' := by
  cases puts with
  | drops _ rooms => rw [rooms, update_of_ne other]
  | writes _ rooms => rw [rooms, update_of_ne other]

theorem Puts.holds (puts : Puts repo store after room (some state)) : Holds repo room after state := by
  cases puts with
  | writes _ rooms sanitized keyed => exact ⟨⟨_, by rw [rooms, update_self]⟩, sanitized, keyed⟩

theorem Holds.elsewhere (holds : Holds repo room' store state) (puts : Puts repo store after room next)
    (other : room' ≠ room) : Holds repo room' after state :=
  holds.of_rooms_eq (puts.elsewhere other)

theorem Puts.dropped (puts : Puts repo store after room none) : after.rooms room = none := by
  cases puts with
  | drops _ rooms => rw [rooms, update_self]

/-- What is stored afterwards is what was put, or was stored before in another room. -/
theorem Puts.held (puts : Puts repo store after room next) (holds : Holds repo room' after state) :
    room' = room ∧ next = some state ∨ Holds repo room' store state := by
  by_cases same : room' = room
  · subst same
    cases puts with
    | drops _ rooms =>
      obtain ⟨_, found⟩ := holds.stored
      rw [rooms, update_self] at found
      cases found
    | writes clock rooms sanitized keyed =>
      exact .inl ⟨rfl, congrArg some ((Puts.writes clock rooms sanitized keyed).holds.unique holds)⟩
  · exact .inr (holds.of_rooms_eq (puts.elsewhere same).symm)

theorem Puts.stored (puts : Puts repo store after room next)
    (stored : ∀ room, Stored repo room store) (room' : Nat) : Stored repo room' after := by
  by_cases same : room' = room
  · subst same
    cases next with
    | none => exact .inl puts.dropped
    | some => exact .inr ⟨_, puts.holds⟩
  · exact (stored room').of_rooms_eq (puts.elsewhere same)

theorem Puts.same (puts : Puts repo store middle room next) (same : Same middle after) :
    Puts repo store after room next := by
  cases puts with
  | drops clock rooms => exact .drops (same.clock.trans clock) (same.rooms.trans rooms)
  | writes clock rooms sanitized keyed =>
    exact .writes (same.clock.trans clock) (same.rooms.trans rooms) sanitized keyed

theorem Same.trans (first : Same store middle) (second : Same middle after) : Same store after :=
  ⟨second.rooms.trans first.rooms, second.clock.trans first.clock⟩

theorem Same.symm (same : Same store after) : Same after store := ⟨same.rooms.symm, same.clock.symm⟩

theorem Live.of_same (live : Live repo room store state) (same : Same store after) :
    Live repo room after state :=
  ⟨live.toHolds.of_rooms_eq (congrFun same.rooms room), by rw [same.clock]; exact live.live⟩

theorem Puts.of_same (puts : Puts repo middle after room next) (same : Same store middle) :
    Puts repo store after room next := by
  cases puts with
  | drops clock rooms => exact .drops (clock.trans same.clock) (by rw [rooms, same.rooms])
  | writes clock rooms sanitized keyed =>
    exact .writes (clock.trans same.clock) (by rw [rooms, same.rooms]) sanitized keyed

theorem Fades.of_same (fades : Fades repo room middle after) (same : Same store middle) :
    Fades repo room store after := by
  constructor
  · exact fades.puts.of_same same
  · intro state holds
    rw [← same.clock]
    exact fades.expired state (holds.of_rooms_eq (congrFun same.rooms room))

theorem Stored.holds (stored : Stored repo room store)
    (found : content repo room store = some state) : Holds repo room store state := by
  rcases stored with absent | ⟨other, holds⟩
  · simp [content, absent] at found
  · rw [holds.content] at found
    exact Option.some.inj found ▸ holds

theorem now_step (continues : Does repo (next store.clock) store post) :
    Does repo (Method.now >>= next) store post :=
  step fun _ => continues

theorem decodeRoom_does (stored : Stored repo room store) :
    Does repo (repo.decodeRoom ((store.rooms room).map (·.value))) store fun result after =>
      after = store ∧ (result = .ok none ∧ store.rooms room = none ∨
        ∃ state, result = .ok (some state) ∧ Holds repo room store state) := by
  rcases stored with absent | ⟨state, holds⟩
  · rw [absent]
    exact .pure ⟨rfl, .inl ⟨rfl, rfl⟩⟩
  · obtain ⟨deadline, found⟩ := holds.stored
    simp only [found, Option.map_some, decodeRoom, repo.decode_encode, holds.sanitized]
    exact .pure ⟨rfl, .inr ⟨state, rfl, holds⟩⟩

theorem remove_held_does (holds : Holds repo room store state) :
    Does repo (repo.remove room state.stateRevision state.room.sessionId) store fun result after =>
      result = .ok () ∧ Puts repo store after room none := by
  obtain ⟨deadline, found⟩ := holds.stored
  apply step
  intro _
  apply seq (decodeRoom_does (.inr ⟨state, holds⟩))
  · rintro current middle ⟨rfl, _⟩
    apply step
    intro _
    have ran : Redis.remove repo.lua middle
      (removeCall room state.stateRevision state.room.sessionId current) =
      (.ok (), removeApply middle (removeCall room state.stateRevision state.room.sessionId current)) := by
      simp [Redis.remove, removeCall, found, repo.header_encode, headerOf]
    rw [show execute repo.lua
      (.remove (removeCall room state.stateRevision state.room.sessionId current)) middle = _
      from ran]
    exact .pure ⟨rfl, .drops rfl rfl⟩
  · rintro failure middle ⟨_, ⟨⟨⟩, _⟩ | ⟨_, ⟨⟩, _⟩⟩

theorem get_does (stored : Stored repo room store) :
    Does repo (repo.get room store.clock) store fun result after =>
      (∃ state, result = .ok (some state) ∧ after = store ∧ Live repo room store state) ∨
      result = .ok none ∧ Fades repo room store after := by
  apply step
  intro _
  apply seq (decodeRoom_does stored)
  · rintro current middle ⟨rfl, ⟨⟨⟩, absent⟩ | ⟨state, ⟨⟩, holds⟩⟩
    · refine .pure (.inr ⟨rfl, .drops rfl (by rw [← absent, update_eq_self]), ?_⟩)
      intro state holds
      obtain ⟨deadline, found⟩ := holds.stored
      cases absent.symm.trans found
    · simp only [holds.keyed, ne_eq, not_true_eq_false, ↓reduceIte]
      split
      · next expired =>
        apply rescue (remove_held_does holds)
        rintro _ middle ⟨rfl, puts⟩
        exact .pure (.inr ⟨rfl, puts, fun other also => holds.unique also ▸ expired⟩)
      · next later => exact .pure (.inl ⟨state, rfl, rfl, holds, not_le.mp later⟩)
  · rintro failure middle ⟨_, ⟨⟨⟩, _⟩ | ⟨_, ⟨⟩, _⟩⟩

/-- A write puts its state under its room's key, or leaves the rooms as they are. -/
theorem write_does (state : RoomState) (expected : Int) (session : Option Uuid) (previous : List String) :
    Does repo (repo.write state expected session previous) store fun result after =>
      (∃ failure, result = .error failure ∧ Same store after) ∨
      result = .ok state.sanitized ∧ Puts repo store after state.room.publicId (some state.sanitized) ∧
        cas repo.lua store (repo.casCall state expected session previous) = (.ok (), after) := by
  apply step
  intro _
  have cases := cas_cases repo.lua store (repo.casCall state expected session previous)
  rcases cases with ⟨refusal, ran⟩ | ⟨previousOwner, accounts, _, ⟨ran, _⟩ | ⟨ran, _⟩⟩ <;>
    rw [show execute repo.lua (.cas (repo.casCall state expected session previous)) store = _ from ran]
  · exact .fail (.inl ⟨_, rfl, .refl _⟩)
  · exact .fail (.inl ⟨_, rfl, rfl, rfl⟩)
  · refine .ofExcept (.inr ⟨?_, ?_, ran⟩)
    · rw [repo.decode_encode, RoomState.sanitized_sanitized]
    · exact .writes rfl (casApply_rooms _ _ _ _) rfl rfl

/-- Nothing was written, but a room whose time was up may be gone. -/
def Unwritten (repo : Repository Blob) (room : Nat) (store after : Store Blob) : Prop :=
  Same store after ∨ Fades repo room store after

theorem Holds.unwritten (holds : Holds repo room' store state) (unwritten : Unwritten repo room store after)
    (other : room' ≠ room) : Holds repo room' after state := by
  rcases unwritten with same | fades
  · exact holds.of_rooms_eq (congrFun same.rooms room')
  · exact holds.elsewhere fades.puts other

theorem replace_does (stored : Stored repo state.room.publicId store) :
    Does repo (repo.replace state revision session) store fun result after =>
      (∃ failure, result = .error failure) ∧ Unwritten repo state.room.publicId store after ∨
      result = .ok state.sanitized ∧ Puts repo store after state.room.publicId (some state.sanitized) ∧
        ∃ current, Live repo state.room.publicId store current ∧ current.stateRevision = revision ∧
          current.room.sessionId = session := by
  apply now_step
  apply seq (get_does stored)
  · rintro current middle (⟨_, ⟨⟩, rfl, live⟩ | ⟨⟨⟩, fades⟩)
    · refine (write_does state revision (some session) _).mono ?_
      rintro result after (⟨failure, failed, same⟩ | ⟨done, puts, wrote⟩)
      · exact .inl ⟨⟨failure, failed⟩, .inl same⟩
      · obtain ⟨_, ⟨creating, _⟩ | ⟨sameSession, sameRevision, _⟩⟩ := cas_over live.toHolds wrote
        · cases creating
        · exact .inr ⟨done, puts, _, live, Int.ofNat.inj sameRevision, sameSession⟩
    · exact .fail (.inl ⟨⟨_, rfl⟩, .inr fades⟩)
  · rintro failure middle (⟨_, ⟨⟩, _⟩ | ⟨⟨⟩, _⟩)

theorem mutate_does (stored : Stored repo room store)
    (keyed : ∀ record, mutation.record = some record → record.publicId = room) (attempts : Nat) :
    Does repo (repo.mutate room mutation attempts) store fun result after =>
      (∃ failure, result = .error failure) ∧ Unwritten repo room store after ∨
      ∃ current updated, Live repo room store current ∧
        mutation.apply repo.ttl store.clock current = .ok updated ∧ result = .ok updated.sanitized ∧
        Puts repo store after room (some updated.sanitized) := by
  -- Alone, a write that is refused is refused again, so every attempt starts from the same rooms.
  induction attempts generalizing store with
  | zero => exact .fail (.inl ⟨⟨_, rfl⟩, .inl (.refl _)⟩)
  | succ attempts ih =>
    apply now_step
    apply seq (get_does stored)
    · rintro current middle (⟨state, ⟨⟩, rfl, live⟩ | ⟨⟨⟩, fades⟩)
      · apply now_step
        apply given
        · intro updated built
          have target : updated.room.publicId = room := by
            rcases (Mutation.apply_eq_ok built).1 with same | ⟨record, brings, same⟩
            · rw [same, live.keyed]
            · rw [same]
              exact keyed record brings
          apply rescue (write_does updated _ _ _)
          rintro _ final (⟨failure, rfl, same⟩ | ⟨rfl, puts, _⟩)
          · cases failure with
            | matchConcurrencyConflict message =>
              -- The next attempt starts from the same rooms.
              refine (ih ((stored.of_rooms_eq (congrFun same.rooms room)))).mono ?_
              rintro result after (⟨failed, same' | fades⟩ | ⟨current, updated, live, built, done, puts⟩)
              · exact .inl ⟨failed, .inl (same.trans same')⟩
              · exact .inl ⟨failed, .inr (fades.of_same same)⟩
              · rw [same.clock] at built
                exact .inr ⟨current, updated, live.of_same same.symm, built, done, puts.of_same same⟩
            | _ => exact .fail (.inl ⟨⟨_, rfl⟩, .inl same⟩)
          · exact .pure (.inr ⟨state, updated, live, built, rfl, target ▸ puts⟩)
        · exact fun failure _ => .inl ⟨⟨failure, rfl⟩, .inl (.refl _)⟩
      · exact .fail (.inl ⟨⟨_, rfl⟩, .inr fades⟩)
    · rintro failure middle (⟨_, ⟨⟩, _⟩ | ⟨⟨⟩, _⟩)

theorem leaveRoom_does (stored : Stored repo room store)
    (keyed : ∀ record, durableRoom = some record → record.publicId = room) :
    Does repo (repo.leaveRoom room account durableRoom) store fun result after =>
      Unwritten repo room store after ∨ durableRoom = none ∧ Puts repo store after room none ∨
      ∃ record current updated, durableRoom = some record ∧ Live repo room store current ∧
        (Mutation.leave account record).apply repo.ttl store.clock current = .ok updated ∧
        result = .ok (some updated.sanitized) ∧
        Puts repo store after room (some updated.sanitized) := by
  apply now_step
  apply seq (get_does stored)
  · rintro found middle (⟨current, ⟨⟩, rfl, live⟩ | ⟨⟨⟩, fades⟩)
    · cases durableRoom with
      | none =>
        apply seq (remove_held_does live.toHolds)
        · exact fun _ after removed => .pure (.inr (.inl ⟨rfl, removed.2⟩))
        · rintro failure after ⟨⟨⟩, _⟩
      | some record =>
        have brings : ∀ made, (Mutation.leave account record).record = some made → made.publicId = room := by
          rintro made ⟨⟩
          exact keyed record rfl
        apply seq (mutate_does stored brings _)
        · rintro state after (⟨⟨_, ⟨⟩⟩, _⟩ | ⟨current, updated, live, built, ⟨⟩, puts⟩)
          exact .pure (.inr (.inr ⟨record, current, updated, rfl, live, built, rfl, puts⟩))
        · rintro failure after (⟨_, unwritten⟩ | ⟨_, _, _, _, ⟨⟩, _⟩)
          exact .inl unwritten
    · exact .pure (.inl (.inr fades))
  · rintro failure middle (⟨_, ⟨⟩, _⟩ | ⟨⟨⟩, _⟩)

theorem listed_does (time : Int) (values : List (Nat × Option Blob)) (store : Store Blob) :
    Does repo (repo.listed time values) store fun _ after => Same store after := by
  induction values generalizing store with
  | nil => exact .pure (.refl _)
  | cons entry values ih =>
    obtain ⟨publicId, _ | raw⟩ := entry
    · apply step
      intro _
      exact (ih _).mono fun _ _ same => ⟨same.rooms, same.clock⟩
    · apply given
      · intro state _
        apply seq (ih store)
        · exact fun _ _ same => .pure same
        · exact fun _ _ same => same
      · exact fun _ _ => .refl _

theorem listPublic_does (time : Int) (limit : Nat) (store : Store Blob) :
    Does repo (repo.listPublic time limit) store fun _ after => Same store after := by
  unfold listPublic
  split
  · exact .fail (.refl _)
  apply step
  intro _
  split
  · exact .pure ⟨rfl, rfl⟩
  · apply step
    intro _
    exact (listed_does _ _ _).mono fun _ _ same => ⟨same.rooms, same.clock⟩

theorem create_does : Does repo (repo.create state) store fun result after =>
      (∃ failure, result = .error failure) ∧ Same store after ∨
      ∃ bounded, state.replaced (publicRoom state.room) state.stateRevision state.slots
          (boundedExpiry store.clock repo.ttl state.expiresAt) = .ok bounded ∧
        result = .ok bounded.sanitized ∧
        Puts repo store after state.room.publicId (some bounded.sanitized) := by
  apply now_step
  apply seq (listPublic_does _ _ _)
  · intro rooms middle same
    split
    · exact .fail (.inl ⟨⟨_, rfl⟩, same⟩)
    apply now_step
    apply given
    · intro bounded built
      refine (write_does bounded _ _ _).mono ?_
      have keyed : bounded.room.publicId = state.room.publicId := by
        rw [(RoomState.replaced_eq_ok built).1, publicRoom]
      rintro result after (⟨failure, failed, same'⟩ | ⟨done, puts, _⟩)
      · exact .inl ⟨⟨failure, failed⟩, same.trans same'⟩
      · refine .inr ⟨bounded, ?_, done, keyed ▸ puts.of_same same⟩
        rw [← same.clock]
        exact built
    · exact fun failure _ => .inl ⟨⟨failure, rfl⟩, same⟩
  · exact fun failure middle same => .inl ⟨⟨failure, rfl⟩, same⟩

theorem getNumbered_does (stored : ∀ room, Stored repo room store) :
    Does repo (repo.getNumbered publicId store.clock) store fun result after =>
      (∃ room state, result = .ok (some state) ∧ after = store ∧ Live repo room store state) ∨
      result = .ok none ∧ ∃ room, Unwritten repo room store after := by
  unfold getNumbered
  split
  · refine (get_does (stored _)).mono ?_
    rintro result after (⟨state, found, same, live⟩ | ⟨missing, fades⟩)
    · exact .inl ⟨_, state, found, same, live⟩
    · exact .inr ⟨missing, _, .inr fades⟩
  · exact .pure (.inr ⟨rfl, 0, .inl (.refl _)⟩)

theorem deleteAccount_does (unwritten : Unwritten repo room store middle) :
    Does repo (do Method.deleteAccount account; return none : Method Blob (Option RoomState)) middle
      fun result after => result = .ok none ∧ Unwritten repo room store after := by
  apply step
  intro _
  have same : Same middle { middle with accounts := update middle.accounts account none } := ⟨rfl, rfl⟩
  exact .pure ⟨rfl, unwritten.imp (·.trans same) fun fades => ⟨fades.puts.same same, fades.expired⟩⟩

theorem findForAccount_does (stored : ∀ room, Stored repo room store) :
    Does repo (repo.findForAccount account store.clock) store fun result after =>
      (∃ room state, result = .ok (some state) ∧ after = store ∧ Live repo room store state) ∨
      (∀ state, result ≠ .ok (some state)) ∧ ∃ room, Unwritten repo room store after := by
  apply step
  intro _
  cases (execute repo.lua (.getAccount (toString account)) store).1 with
  | none => exact .pure (.inr ⟨by simp, 0, .inl (.refl _)⟩)
  | some raw =>
    dsimp only
    cases parsed : parseOwner raw with
    | none => exact .fail (.inr ⟨by simp, 0, .inl (.refl _)⟩)
    | some token =>
      obtain ⟨publicId, epoch, session⟩ := token
      apply seq (getNumbered_does stored)
      · rintro found middle (⟨room, state, ⟨⟩, rfl, live⟩ | ⟨⟨⟩, room, unwritten⟩)
        · dsimp only
          split
          · have kept : Unwritten repo room middle middle := .inl (.refl _)
            refine (deleteAccount_does kept).mono ?_
            exact fun result after deleted => .inr ⟨by simp [deleted.1], room, deleted.2⟩
          · exact .pure (.inl ⟨room, state, rfl, rfl, live⟩)
        · refine (deleteAccount_does unwritten).mono ?_
          exact fun result after deleted => .inr ⟨by simp [deleted.1], room, deleted.2⟩
      · rintro failure middle (⟨_, _, ⟨⟩, _⟩ | ⟨⟨⟩, _⟩)

end Perfcho.Redis
