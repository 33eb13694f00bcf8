import Perfcho.Foundation.Interleaving
import Perfcho.Redis.Repository

/-! The calls each repository method makes. A write of an edit is made from a room
the method has read, whatever the calls before it have answered. -/

namespace Perfcho.Redis

open Foundation Multiplayer Repository

variable {Blob : Type}

abbrev RedisEvent (Blob : Type) := Program.Event (Command Blob) Answer

abbrev RedisSystem (Blob : Type) := System (Command Blob) Answer Failure (Option RoomState) (Store Blob) Task

/-- Any number of processes, each of which runs one method of the repository. -/
def Repository.machine (repo : Repository Blob) (guard : Store Blob → Task → Command Blob → Prop)
    (environment : Store Blob → Store Blob → Prop) :
    Machine (Command Blob) Answer Failure (Option RoomState) (Store Blob) Task where
  execute := execute repo.lua
  body := repo.body
  guard := guard
  environment := environment

/-- Processes that nothing restrains. -/
def Repository.unguarded (repo : Repository Blob) :
    Machine (Command Blob) Answer Failure (Option RoomState) (Store Blob) Task :=
  repo.machine (fun _ _ _ => True) (fun _ _ => False)

/-- The state that is stored for a room. -/
def content (repo : Repository Blob) (room : Nat) (store : Store Blob) : Option RoomState :=
  (store.rooms room).bind fun entry => (repo.decode entry.value).toOption

def readEvent (publicId : Nat) (raw : Blob) : RedisEvent Blob := ⟨.getRoom publicId, (some raw : Option Blob)⟩

/-- The edit a task writes, if it writes one. -/
def Repository.Task.mutation : Task → Option Mutation
  | .edit _ mutation => some mutation
  | .leave _ account (some record) => some (.leave account record)
  | _ => none

def Repository.Task.target : Task → Option Nat
  | .create state | .replace state _ _ => some state.room.publicId
  | .get publicId _ | .remove publicId _ _ | .leave publicId _ _ | .edit publicId _ => some publicId
  | .findForAccount _ _ => none

section

variable {repo : Repository Blob} {task : Task}

/-- A program has read a room and decoded it to a state. -/
def HasRead (repo : Repository Blob) (publicId : Nat) (seen : List (RedisEvent Blob))
    (state : RoomState) : Prop :=
  ∃ raw, readEvent publicId raw ∈ seen ∧ repo.decode raw = .ok state

/-- What a task writes: its edit of a room it has read, the state it was given over a
room it has read, or a new room. -/
inductive Writes (repo : Repository Blob) (seen : List (RedisEvent Blob)) : Task → CasCall Blob → Prop where
  | edit {task : Task} {mutation : Mutation} {current updated : RoomState} {now : Int}
      (edits : task.mutation = some mutation) (target : task.target = some current.room.publicId)
      (read : HasRead repo current.room.publicId seen current)
      (built : mutation.apply repo.ttl now current = .ok updated) :
      Writes repo seen task (repo.casCall updated current.stateRevision (some current.room.sessionId)
        (accountKeys current))
  | replacement {state current : RoomState} {revision : Nat} {session : Uuid}
      (read : HasRead repo state.room.publicId seen current) :
      Writes repo seen (.replace state revision session)
        (repo.casCall state revision (some session) (accountKeys current))
  | creation {state bounded : RoomState} {expiresAt : Datetime}
      (built : state.replaced (publicRoom state.room) state.stateRevision state.slots
        expiresAt = .ok bounded) :
      Writes repo seen (.create state) (repo.casCall bounded (-1) none [])

theorem Writes.made (writes : Writes repo seen task call) :
    ∃ state expected session previous, call = repo.casCall state expected session previous := by
  cases writes <;> exact ⟨_, _, _, _, rfl⟩

/-- What a task may call: its write, and removals of the room that it is about. -/
def Permitted (repo : Repository Blob) (task : Task) (seen : List (RedisEvent Blob)) : Command Blob → Prop
  | .cas call => Writes repo seen task call
  | .remove call => ∃ publicId revision session current,
      call = removeCall publicId revision session current ∧ task.target.all (· = publicId)
  | _ => True

/-- A program that makes the calls of its task only. -/
abbrev Obeys (repo : Repository Blob) (task : Task) (seen : List (RedisEvent Blob))
    (program : Method Blob Value) : Prop :=
  program.Keeps (Permitted repo task) (fun _ _ => True) seen

theorem decodeRoom_keeps (repo : Repository Blob) (raw : Option Blob) (seen : List (RedisEvent Blob)) :
    (repo.decodeRoom raw).Keeps allowed (fun seen' result => seen' = seen ∧
      ∀ state, result = .ok (some state) → ∃ blob, raw = some blob ∧ repo.decode blob = .ok state) seen := by
  cases raw with
  | none => exact ⟨rfl, by simp⟩
  | some blob =>
    cases decoded : repo.decode blob with
    | error failure =>
      simp only [decodeRoom, decoded]
      exact ⟨rfl, by simp⟩
    | ok state =>
      simp only [decodeRoom, decoded]
      refine ⟨rfl, fun other same => ⟨blob, rfl, ?_⟩⟩
      cases same
      exact decoded

theorem remove_keeps (reaches : task.target.all (· = publicId)) (revision : Nat) (session : Uuid)
    (seen : List (RedisEvent Blob)) : Obeys repo task seen (repo.remove publicId revision session) := by
  refine ⟨trivial, fun raw => ?_⟩
  apply (decodeRoom_keeps repo raw _).andThen
  intro seen current _
  refine ⟨⟨_, _, _, _, rfl, reaches⟩, fun status => ?_⟩
  cases status <;> trivial

theorem prune_keeps (reaches : task.target.all (· = publicId)) (state : RoomState)
    (seen : List (RedisEvent Blob)) :
    (repo.prune publicId state).Keeps (Permitted repo task)
      (fun _ result => ∀ other, result ≠ .ok (some other)) seen := by
  have tried : Obeys repo task seen (repo.remove publicId state.stateRevision state.room.sessionId).attempt :=
    Program.Keeps.attempt (remove_keeps reaches _ _ seen)
  apply tried.seq
  · intro seen result _
    cases result with
    | ok => exact fun other => nofun
    | error failure => cases failure <;> exact fun other => nofun
  · intro seen failure _ other
    nofun

theorem get_keeps (reaches : task.target.all (· = publicId)) (time : Int) (seen : List (RedisEvent Blob)) :
    (repo.get publicId time).Keeps (Permitted repo task)
    (fun seen' result => ∀ state, result = .ok (some state) →
      HasRead repo publicId seen' state ∧ state.room.publicId = publicId) seen := by
  refine ⟨trivial, fun raw => ?_⟩
  apply (decodeRoom_keeps repo raw _).seq
  · intro seen' current ⟨same, decoded⟩
    cases current with
    | none => exact fun state => nofun
    | some state =>
      obtain ⟨blob, found, decodes⟩ := decoded state rfl
      by_cases keyed : state.room.publicId = publicId
      · by_cases expired : state.expiresAt.millis ≤ time
        · simp only [keyed, expired, ne_eq, not_true_eq_false, ↓reduceIte]
          exact (prune_keeps reaches state seen').mono fun _ _ none other some => absurd some (none other)
        simp only [keyed, expired, ne_eq, not_true_eq_false, ↓reduceIte]
        intro other returned
        cases returned
        refine ⟨⟨blob, ?_, decodes⟩, keyed⟩
        subst same
        rw [readEvent, ← found]
        exact List.mem_cons_self
      · simp only [keyed, ne_eq, not_false_eq_true, ↓reduceIte]
        exact fun other => nofun
  · exact fun _ _ _ _ => nofun

theorem write_keeps (writes : Writes repo seen task (repo.casCall state expected session previous)) :
    Obeys repo task seen (repo.write state expected session previous) := by
  refine ⟨writes, fun status => ?_⟩
  cases status with
  | ok => exact .ofExcept trivial
  | error => trivial

/-- Each attempt of an edit writes what it made of the room it read. -/
theorem mutate_keeps (edits : task.mutation = some mutation) (target : task.target = some publicId)
    (attempts : Nat) (seen : List (RedisEvent Blob)) :
    Obeys repo task seen (repo.mutate publicId mutation attempts) := by
  induction attempts generalizing seen with
  | zero => trivial
  | succ attempts ih =>
    refine ⟨trivial, fun time => ?_⟩
    apply (get_keeps (by simp [target]) time _).andThen
    intro seen found read
    cases found with
    | none => trivial
    | some current =>
      refine ⟨trivial, fun now => .ofExcept_bind fun updated built => ?_⟩
      obtain ⟨⟨raw, event, decoded⟩, rfl⟩ := read current rfl
      have writes := write_keeps (.edit edits target ⟨raw, List.mem_cons_of_mem ⟨.now, now⟩ event,
        decoded⟩ built)
      have tried : Obeys repo task _ (Program.attempt _) := .attempt writes
      apply tried.andThen
      intro seen result _
      cases result with
      | ok => trivial
      | error failure =>
        cases failure with
        | matchConcurrencyConflict => exact ih seen
        | _ => trivial

theorem map_keeps (kept : Obeys repo task seen program) : Obeys repo task seen (finish <$> program) := by
  apply kept.andThen
  intros
  trivial

theorem replace_keeps (state : RoomState) (revision : Nat) (session : Uuid) :
    Obeys repo (.replace state revision session) [] (repo.replace state revision session) := by
  refine ⟨trivial, fun now => ?_⟩
  apply (get_keeps (by simp [Task.target]) now _).andThen
  intro seen found read
  cases found with
  | none => trivial
  | some current => exact write_keeps (.replacement (read current rfl).1)

theorem leaveRoom_keeps (publicId account : Nat) (durableRoom : Option RoomRecord) :
    Obeys repo (.leave publicId account durableRoom) [] (repo.leaveRoom publicId account durableRoom) := by
  refine ⟨trivial, fun now => ?_⟩
  apply (get_keeps (by simp [Task.target]) now _).andThen
  intro seen found _
  cases found with
  | none => trivial
  | some current =>
    cases durableRoom with
    | none => exact map_keeps (remove_keeps (by simp [Task.target]) _ _ seen)
    | some record => exact map_keeps (mutate_keeps rfl rfl _ seen)

theorem listed_keeps (time : Int) (values : List (Nat × Option Blob))
    (seen : List (RedisEvent Blob)) : Obeys repo task seen (repo.listed time values) := by
  induction values generalizing seen with
  | nil => trivial
  | cons value rest ih =>
    obtain ⟨publicId, raw⟩ := value
    cases raw with
    | none => exact ⟨trivial, fun _ => ih _⟩
    | some raw =>
      apply Program.Keeps.ofExcept_bind
      intro state _
      apply (ih seen).andThen
      intros
      trivial

theorem listPublic_keeps (time : Int) (limit : Nat) (seen : List (RedisEvent Blob)) :
    Obeys repo task seen (repo.listPublic time limit) := by
  unfold listPublic
  split
  · trivial
  · refine ⟨trivial, fun publicIds => ?_⟩
    change Obeys repo task _ (if (show List Nat from publicIds).isEmpty then _ else _)
    split
    · trivial
    · exact ⟨trivial, fun values => listed_keeps _ _ _⟩

theorem create_keeps (state : RoomState) : Obeys repo (.create state) [] (repo.create state) := by
  refine ⟨trivial, fun time => ?_⟩
  apply (listPublic_keeps time _ _).andThen
  intro seen rooms _
  by_cases full : repo.maxRooms ≤ rooms.length
  · simp only [full, ↓reduceIte]
    trivial
  · simp only [full, ↓reduceIte]
    exact ⟨trivial, fun now => .ofExcept_bind fun next built => write_keeps (.creation built)⟩

theorem findForAccount_keeps (account : Nat) (time : Int) :
    Obeys repo (.findForAccount account time) [] (repo.findForAccount account time) := by
  have deletes : ∀ seen, Obeys repo (.findForAccount account time) seen
    (do Method.deleteAccount (toString account); return none : Method Blob (Option RoomState)) :=
    fun seen => ⟨trivial, fun _ => trivial⟩
  refine ⟨trivial, fun raw => ?_⟩
  cases raw with
  | none => trivial
  | some raw =>
    dsimp only [Program.bind]
    cases parsed : parseOwner raw with
    | none => trivial
    | some token =>
      obtain ⟨publicId, epoch, session⟩ := token
      have looks : ∀ seen, Obeys repo (.findForAccount account time) seen
        (repo.getNumbered publicId time) := by
        intro seen
        unfold getNumbered
        split
        · exact (get_keeps rfl time seen).mono fun _ _ _ => trivial
        · trivial
      apply (looks _).andThen
      intro seen found _
      cases found with
      | none => exact deletes seen
      | some state =>
        dsimp only
        split
        · exact deletes seen
        · trivial

/-- Every method makes the calls of its task. -/
theorem body_keeps (repo : Repository Blob) (task : Task) : Obeys repo task [] (repo.body task) := by
  cases task with
  | create state => exact map_keeps (create_keeps state)
  | get publicId time => exact (get_keeps (by simp [Task.target]) time []).mono fun _ _ _ => trivial
  | findForAccount account time => exact findForAccount_keeps account time
  | replace state revision session => exact map_keeps (replace_keeps state revision session)
  | remove publicId revision session =>
    exact map_keeps (remove_keeps (by simp [Task.target]) revision session [])
  | leave publicId account durableRoom => exact leaveRoom_keeps publicId account durableRoom
  | edit publicId mutation => exact .ofExcept_bind fun _ _ => map_keeps (mutate_keeps rfl rfl _ [])

end

end Perfcho.Redis
