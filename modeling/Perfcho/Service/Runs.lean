import Perfcho.Durable.Hosting
import Perfcho.Service.Serving

/-! Runs of the service: requests that are served one after the other, with time
passing in between. A property of worlds holds in every run if each step of a request
keeps it and no key that it needs expires. -/

namespace Perfcho.Service

open Foundation Multiplayer Durable Redis Program

variable {Blob : Type}

def World.empty (clock : Int) : World Blob where
  tables := .empty
  store := { rooms := fun _ => none, accounts := fun _ => none, index := [], indexDeadline := none, clock }

/-- A key is as before, or it is gone because its time is up. -/
def Lapses (now : Int) (before after : Option (Entry Value)) : Prop :=
  after = before ∨ after = none ∧ ∃ entry, before = some entry ∧ entry.deadline ≤ now

structure Elapses (world after : World Blob) : Prop where
  tables : after.tables = world.tables
  later : world.store.clock ≤ after.store.clock
  rooms : ∀ room, Lapses after.store.clock (world.store.rooms room) (after.store.rooms room)
  accounts : ∀ account, Lapses after.store.clock (world.store.accounts account) (after.store.accounts account)
  index : after.store.index = world.store.index ∧ after.store.indexDeadline =
    world.store.indexDeadline ∨ after.store.index = [] ∧ after.store.indexDeadline = none ∧
      ∃ deadline, world.store.indexDeadline = some deadline ∧ deadline ≤ after.store.clock

section

variable (service : MultiplayerService Blob) (permitted : World Blob → Call → Prop)
variable (waits : World Blob → Int → Prop)

/-- A request is served from start to end with permitted calls, or time passes. -/
inductive Step (world after : World Blob) : Prop where
  | serves {request : Request}
      (permits : (service.body request).Permits (execute service) permitted world)
      (ran : ((service.body request).run (execute service) world).2 = after)
  | waits (elapses : Elapses world after) (allowed : waits world after.store.clock)

abbrev Runs : World Blob → World Blob → Prop := Relation.ReflTransGen (Step service permitted waits)

def Reached (world : World Blob) : Prop :=
  ∃ clock, Runs service (fun _ _ => True) (fun _ _ => True) (.empty clock) world

end

variable {service : MultiplayerService Blob} {permitted : World Blob → Call → Prop}
variable {waits : World Blob → Int → Prop} {world after : World Blob}

theorem Kept.empty (clock : Int) : Kept service (.empty clock : World Blob) :=
  ⟨fun _ => .inl rfl, .empty⟩

theorem Elapses.kept (elapses : Elapses world after) (kept : Kept service world) : Kept service after := by
  constructor
  · intro room
    rcases elapses.rooms room with same | ⟨gone, _⟩
    · exact (kept.stored room).of_rooms_eq same
    · exact .inl gone
  · rw [elapses.tables]
    exact kept.sound

theorem Moves.preserves {holds : World Blob → Prop} (path : Moves service permitted world after)
    (moves : ∀ {world after}, Kept service world → Move service permitted world after →
      holds world → holds after) (kept : Kept service world) (start : holds world) : holds after := by
  induction path with
  | refl => exact start
  | tail before move ih => exact moves (Moves.kept before kept) move ih

/-- A property is kept by a run if it is kept by what requests do and by waiting. -/
theorem Runs.preserves (holds : World Blob → Prop) (runs : Runs service permitted waits world after)
    (moves : ∀ {world after}, Kept service world → Move service permitted world after →
      holds world → holds after) (passes :
      ∀ {world after}, Elapses world after → waits world after.store.clock → holds world → holds after)
    (kept : Kept service world) (start : holds world) : Kept service after ∧ holds after := by
  induction runs with
  | refl => exact ⟨kept, start⟩
  | tail _ step ih =>
    obtain ⟨kept, held⟩ := ih
    cases step with
    | serves permits ran =>
      subst ran
      have path := (body_serves _ kept).ends permits
      exact ⟨path.kept kept, Moves.preserves path moves kept held⟩
    | waits elapses allowed => exact ⟨elapses.kept kept, passes elapses allowed held⟩

theorem Reached.kept (reached : Reached service world) : Kept service world := by
  obtain ⟨clock, runs⟩ := reached
  exact (Runs.preserves (fun _ => True) runs (fun _ _ held => held) (fun _ _ held => held)
    (.empty clock) trivial).1

theorem Reached.tables (reached : Reached service world) : Durable.Reachable world.tables := by
  obtain ⟨clock, runs⟩ := reached
  refine (Runs.preserves (fun world => Durable.Reachable world.tables) runs ?_ ?_ (.empty clock) .empty).2
  · intro world after _ move reached
    cases move with
    | commits _ _ ran | replaces _ _ ran => exact reached.step (.commits (commit_eq_ok ran).1)
    | quiet tables | fades _ tables | drops tables | creates tables | repairs _ tables | edits _ _ _ _ tables =>
      exact tables ▸ reached
  · intro world after elapses _ reached
    exact elapses.tables ▸ reached

theorem Kept.holds (kept : Kept service world) (found : content service.repo room world.store = some state) :
    Holds service.repo room world.store state := by
  rcases kept.stored room with absent | ⟨other, holds⟩
  · simp [content, absent] at found
  · have content := holds.content
    rw [found] at content
    cases content
    exact holds

/-- Requests that run interleaved, one call at a time, while time passes. -/
def MultiplayerService.machine (service : MultiplayerService Blob) :
    Machine Call Answer Failure (Option RoomState) (World Blob) Request where
  execute := execute service
  body := service.body
  guard _ _ _ := True
  environment := Elapses

def serve (service : MultiplayerService Blob) (world : World Blob) (request : Request) : World Blob :=
  ((service.body request).run (execute service) world).2

theorem Reached.serve (reached : Reached service world) (requests : List Request) :
    Reached service (requests.foldl (serve service) world) := by
  induction requests generalizing world with
  | nil => exact reached
  | cons request rest ih =>
    obtain ⟨clock, runs⟩ := reached
    exact ih ⟨clock, runs.tail (.serves (permits_of_forall (fun _ _ => trivial) _ _) rfl)⟩

/-- Run a test at every call of some requests. -/
def servesChecked (service : MultiplayerService Blob) (test : World Blob → Call → Bool) :
    World Blob → List Request → Bool
  | _, [] => true
  | world, request :: rest =>
    (service.body request).checks (execute service) test world &&
      servesChecked service test (serve service world request) rest

theorem runs_of_checks (sound : ∀ world call, test world call = true → permitted world call)
    (passed : servesChecked service test world requests = true) :
    Runs service permitted waits world (requests.foldl (serve service) world) := by
  induction requests generalizing world with
  | nil => exact .refl
  | cons request rest ih =>
    rw [servesChecked, Bool.and_eq_true] at passed
    exact .head (.serves (permits_of_checks sound passed.1) rfl) (ih passed.2)

theorem namedKey_length (name : String) :
    ((name.toList.map Char.toUInt8 ++ List.replicate 16 0).take 16).length = 16 := by
  simp

/-- Identifiers that tell short names apart. -/
def namedKey (name : String) : Uuid :=
  ⟨(name.toList.map Char.toUInt8 ++ List.replicate 16 0).take 16, namedKey_length name⟩

def plainService : MultiplayerService RoomState where
  repo := plainRepo
  policies := { openPolicies with uuid5 := fun _ name => namedKey name }
  stateLifetime := 1000
  normalizeMods := fun _ _ mods => .ok mods
  lasting := plainRepo.lasting

def sampleOrigin (account : Nat) (key : String) (time : Int) : CommandMeta :=
  ⟨account, sampleKey (100 + account.toUInt8), key, "stable", ⟨time, time⟩⟩

def sampleOpening (settings : RoomSettings) (capacity : Nat) : Request :=
  .createRoom (sampleOrigin 1 "create" 1) settings capacity 64 ⟨none, none⟩ ⟨sampleKey 11,
    sampleKey 12, sampleKey 13⟩

def sampleJoining (account : Nat) (time : Int) : Request :=
  .joinRoom (sampleOrigin account "join" time) 1 "" (sampleKey (20 + account.toUInt8))

theorem reached_sample (requests : List Request) :
    Reached plainService (requests.foldl (serve plainService) (.empty 0)) :=
  Reached.serve ⟨0, .refl⟩ requests

theorem hosts_of_any
    (found : (tables.activeRooms.any fun (room, session) => room.publicId = publicId ∧
      session.id = sessionId) = true) :
    Hosts tables publicId sessionId := by
  obtain ⟨⟨room, session⟩, member, same⟩ := List.any_eq_true.mp found
  obtain ⟨public_, key⟩ := of_decide_eq_true same
  exact ⟨room, session, member, public_, key⟩

end Perfcho.Service
