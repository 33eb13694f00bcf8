import Perfcho.Foundation.Program

/-! Interleaved runs. A machine starts programs for tasks at any time and moves
any of them by one call; its environment may change the store in between. What
holds in every reachable system follows from what one allowed call preserves. -/

namespace Perfcho.Foundation

open Program Function

section

variable (Command : Type) (Answer : Command → Type) (Failure Value Store Task : Type)

/-- A started program, its task and the events it has seen, the latest first. -/
structure Process where
  task : Task
  seen : List (Event Command Answer)
  program : Program Command Answer Failure Value

/-- A store, the processes on it and every call made so far in order. -/
structure System where
  store : Store
  processes : Nat → Option (Process Command Answer Failure Value Task)
  trace : List (Task × Event Command Answer)

/-- How calls execute, what a task runs, when a call may be made and what else
may happen to the store. -/
structure Machine where
  execute : (command : Command) → Store → Answer command × Store
  body : Task → Program Command Answer Failure Value
  guard : Store → Task → Command → Prop
  environment : Store → Store → Prop

end

variable {Command : Type} {Answer : Command → Type} {Failure Value Store Task : Type}

/-- What is open under an identity after one of them was opened, moved or closed. -/
theorem update_eq_some [DecidableEq Identity] {identity other : Identity}
    (open_ : update opened identity entry other = some value) :
    other = identity ∧ entry = some value ∨ other ≠ identity ∧ opened other = some value := by
  by_cases here : other = identity
  · rw [here, update_self] at open_
    exact .inl ⟨here, open_⟩
  · rw [update_of_ne here] at open_
    exact .inr ⟨here, open_⟩

theorem update_none_eq_some [DecidableEq Identity]
    {identity other : Identity} (open_ : update opened identity none other = some value) :
    other ≠ identity ∧ opened other = some value := by
  obtain ⟨_, missing⟩ | still := update_eq_some open_
  · cases missing
  · exact still

def System.initial (store : Store) : System Command Answer Failure Value Store Task :=
  ⟨store, fun _ => none, []⟩

namespace Machine

variable (machine : Machine Command Answer Failure Value Store Task)

inductive Step : System Command Answer Failure Value Store Task →
    System Command Answer Failure Value Store Task → Prop where
  | start (task : Task) (free : system.processes identity = none) :
      Step system { system with
        processes := update system.processes identity (some ⟨task, [], machine.body task⟩) }
  | move {identity : Nat} {task : Task} {seen : List (Event Command Answer)} {command : Command}
      {rest : Answer command → Program Command Answer Failure Value}
      (running : system.processes identity = some ⟨task, seen, .call command rest⟩)
      (permitted : machine.guard system.store task command) :
      Step system {
        store := (machine.execute command system.store).2
        processes := update system.processes identity (some ⟨task,
          ⟨command, (machine.execute command system.store).1⟩ :: seen,
          rest (machine.execute command system.store).1⟩)
        trace := system.trace ++ [(task, ⟨command, (machine.execute command system.store).1⟩)] }
  | disturb (change : machine.environment system.store after) : Step system { system with store := after }

inductive Reachable (store : Store) : System Command Answer Failure Value Store Task → Prop where
  | initial : Reachable store (.initial store)
  | step (reached : Reachable store system) (moved : machine.Step system next) : Reachable store next

/-- Every task keeps to the allowed calls, and allowed calls and the environment
preserve an invariant of the store and the calls made so far. -/
structure Disciplined (allowed : Task → List (Event Command Answer) → Command → Prop)
    (invariant : Store → List (Task × Event Command Answer) → Prop) : Prop where
  kept : ∀ task, Keeps (allowed task) (fun _ _ => True) [] (machine.body task)
  moves : ∀ {store trace task seen command}, invariant store trace → (∀ event ∈ seen, (task, event) ∈ trace) →
    allowed task seen command → machine.guard store task command →
    invariant (machine.execute command store).2 (trace ++
    [(task, ⟨command, (machine.execute command store).1⟩)])
  disturbed : ∀ {store after trace}, invariant store trace → machine.environment store after →
    invariant after trace

/-- A process that will keep to its discipline and has seen only what happened. -/
structure Behaved (allowed : Task → List (Event Command Answer) → Command → Prop)
    (trace : List (Task × Event Command Answer))
    (process : Process Command Answer Failure Value Task) : Prop where
  keeps : Keeps (allowed process.task) (fun _ _ => True) process.seen process.program
  witnessed : ∀ event ∈ process.seen, (process.task, event) ∈ trace

variable {machine}

/-- The call a behaved process makes is allowed, and the process stays behaved. -/
theorem Behaved.move (behaved : Behaved allowed trace ⟨task, seen, .call command rest⟩)
    (answer : Answer command) :
    Behaved allowed (trace ++ [(task, ⟨command, answer⟩)]) ⟨task, ⟨command, answer⟩ :: seen,
    rest answer⟩ := by
  constructor
  · exact behaved.keeps.2 answer
  · intro event member
    rcases List.mem_cons.mp member with same | earlier
    · simp [same]
    · exact List.mem_append_left _ (behaved.witnessed event earlier)

/-- In every reachable system the invariant holds and every process behaves. -/
theorem Disciplined.holds (disciplined : machine.Disciplined allowed invariant)
    (initially : invariant store []) (reached : machine.Reachable store system) :
    invariant system.store system.trace ∧
      ∀ identity process, system.processes identity = some process →
      Behaved allowed system.trace process := by
  induction reached with
  | initial => exact ⟨initially, fun _ _ found => by simp [System.initial] at found⟩
  | step _ moved ih =>
    obtain ⟨holds, behave⟩ := ih
    cases moved with
    | @start system identity task free =>
      refine ⟨holds, fun other process found => ?_⟩
      by_cases same : other = identity
      · subst same
        simp only [update_self, Option.some.injEq] at found
        exact found ▸ ⟨disciplined.kept task, by simp⟩
      · simp only [update_of_ne same] at found
        exact behave other process found
    | @move _ identity task seen command rest running permitted =>
      have behaved := behave identity _ running
      refine ⟨disciplined.moves holds behaved.witnessed behaved.keeps.1 permitted,
        fun other process found => ?_⟩
      by_cases same : other = identity
      · subst same
        simp only [update_self, Option.some.injEq] at found
        exact found ▸ behaved.move _
      · simp only [update_of_ne same] at found
        have behaved := behave other process found
        exact ⟨behaved.keeps, fun event member => List.mem_append_left _ (behaved.witnessed event member)⟩
    | disturb change => exact ⟨disciplined.disturbed holds change, behave⟩

/-- One step of a reachable system leaves the store alone, is the environment's,
or is one allowed call. -/
theorem Disciplined.step_cases (disciplined : machine.Disciplined allowed invariant)
    (initially : invariant store []) (reached : machine.Reachable store system)
    (moved : machine.Step system next) :
    next.store = system.store ∨ machine.environment system.store next.store ∨
      ∃ task seen command, (∀ event ∈ seen, (task, event) ∈ system.trace) ∧ allowed task seen command ∧
        machine.guard system.store task command ∧ next.store = (machine.execute command system.store).2 := by
  obtain ⟨_, behave⟩ := disciplined.holds initially reached
  cases moved with
  | start => exact .inl rfl
  | @move _ identity task seen command rest running permitted =>
    have behaved := behave identity _ running
    exact .inr (.inr ⟨task, seen, command, behaved.witnessed, behaved.keeps.1, permitted, rfl⟩)
  | disturb change => exact .inr (.inl change)

inductive Turn (Task : Type) where
  | start (identity : Nat) (task : Task)
  | move (identity : Nat)

/-- Follow one entry of a schedule; an entry that is not possible, or whose call
does not pass the check, changes nothing. -/
def play (machine : Machine Command Answer Failure Value Store Task) (check : Store → Task → Command → Bool)
    (system : System Command Answer Failure Value Store Task) :
    Turn Task → System Command Answer Failure Value Store Task
  | .start identity task =>
    match system.processes identity with
    | none => { system with
        processes := update system.processes identity (some ⟨task, [], machine.body task⟩) }
    | some _ => system
  | .move identity =>
    match system.processes identity with
    | some ⟨task, seen, .call command rest⟩ =>
      if check system.store task command then {
        store := (machine.execute command system.store).2
        processes := update system.processes identity (some ⟨task,
          ⟨command, (machine.execute command system.store).1⟩ :: seen,
          rest (machine.execute command system.store).1⟩)
        trace := system.trace ++ [(task, ⟨command, (machine.execute command system.store).1⟩)] }
      else system
    | _ => system

/-- An entry of a schedule whose call is permitted is a step, or changes nothing. -/
theorem step_or_idle_of_play
    (sound : ∀ store task command, check store task command = true → machine.guard store task command)
    (system : System Command Answer Failure Value Store Task) (turn : Turn Task) :
    machine.Step system (machine.play check system turn) ∨ machine.play check system turn = system := by
  cases turn with
  | start identity task =>
    cases found : system.processes identity with
    | none => exact .inl (by simpa [play, found] using .start task found)
    | some process => exact .inr (by simp [play, found])
  | move identity =>
    cases found : system.processes identity with
    | none => exact .inr (by simp [play, found])
    | some process =>
      obtain ⟨task, seen, program⟩ := process
      cases program with
      | done value => exact .inr (by simp [play, found])
      | fail failure => exact .inr (by simp [play, found])
      | call command rest =>
        by_cases passes : check system.store task command = true
        · exact .inl (by simpa [play, found, passes] using .move found (sound _ _ _ passes))
        · exact .inr (by simp [play, found, passes])

/-- A schedule can be followed where the calls that pass the check are permitted. -/
theorem Reachable.plays
    (sound : ∀ store task command, check store task command = true → machine.guard store task command)
    (reached : machine.Reachable store system) (schedule : List (Turn Task)) :
    machine.Reachable store (schedule.foldl (machine.play check) system) := by
  induction schedule generalizing system with
  | nil => exact reached
  | cons turn rest ih =>
    apply ih
    rcases step_or_idle_of_play sound system turn with moved | idle
    · exact reached.step moved
    · exact idle.symm ▸ reached

end Machine

end Perfcho.Foundation
