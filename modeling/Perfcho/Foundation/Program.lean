import Mathlib.Data.List.Basic

/-! Programs that call a shared store. A program is the tree of the calls it may
make. Any number of them run interleaved, one call at a time, each call atomic.
A program that keeps to a discipline on its own keeps to it in every run. -/

namespace Perfcho.Foundation

/-- Finish with a value, fail, or make one call and go on with its answer. -/
inductive Program (Command : Type) (Answer : Command → Type) (Failure Value : Type) : Type where
  | done (value : Value)
  | fail (failure : Failure)
  | call (command : Command) (next : Answer command → Program Command Answer Failure Value)

namespace Program

variable {Command : Type} {Answer : Command → Type} {Failure Failure' Value Next Store : Type}
  {next : Value → Program Command Answer Failure Next}

protected def bind (first : Program Command Answer Failure Value)
    (next : Value → Program Command Answer Failure Next) : Program Command Answer Failure Next :=
  match first with
  | done value => next value
  | fail failure => fail failure
  | call command rest => call command fun answer => (rest answer).bind next

instance : Monad (Program Command Answer Failure) where
  pure := done
  bind := Program.bind

/-- Make one call and return its answer. -/
def ask (command : Command) : Program Command Answer Failure (Answer command) := call command done

def ofExcept : Except Failure Value → Program Command Answer Failure Value
  | .ok value => done value
  | .error failure => fail failure

/-- Return a failure as a value, for a handler to look at. -/
def attempt : Program Command Answer Failure Value → Program Command Answer Failure (Except Failure Value)
  | done value => done (.ok value)
  | fail failure => done (.error failure)
  | call command rest => call command fun answer => (rest answer).attempt

/-- Raise each failure as another one. -/
def adapt (raise : Failure → Failure') :
    Program Command Answer Failure Value → Program Command Answer Failure' Value
  | done value => done value
  | fail failure => fail (raise failure)
  | call command rest => call command fun answer => (rest answer).adapt raise

/-- Run a program with nothing in between its calls. -/
def run (execute : (command : Command) → Store → Answer command × Store) :
    Program Command Answer Failure Value → Store → Except Failure Value × Store
  | done value, store => (.ok value, store)
  | fail failure, store => (.error failure, store)
  | call command rest, store => (rest (execute command store).1).run execute (execute command store).2

section

variable {execute : (command : Command) → Store → Answer command × Store}

theorem run_bind (first : Program Command Answer Failure Value)
    (next : Value → Program Command Answer Failure Next) (store : Store) :
    (first >>= next).run execute store =
      match first.run execute store with
      | (.ok value, middle) => (next value).run execute middle
      | (.error failure, middle) => (.error failure, middle) := by
  induction first generalizing store with
  | done value => rfl
  | fail failure => rfl
  | call command rest ih => exact ih (execute command store).1 (execute command store).2

theorem run_bind_ok (ran : first.run execute store = (.ok value, middle)) :
    (first >>= next).run execute store = (next value).run execute middle := by
  rw [run_bind, ran]

theorem run_bind_error {failure : Failure} (ran : first.run execute store = (.error failure, middle)) :
    (first >>= next).run execute store = (.error failure, middle) := by
  rw [run_bind, ran]

theorem run_attempt (program : Program Command Answer Failure Value) (store : Store) :
    program.attempt.run execute store =
    (.ok (program.run execute store).1, (program.run execute store).2) := by
  induction program generalizing store with
  | done value => rfl
  | fail failure => rfl
  | call command rest ih => exact ih (execute command store).1 (execute command store).2

theorem run_adapt (raise : Failure → Failure') (program : Program Command Answer Failure Value)
    (store : Store) :
    (program.adapt raise).run execute store =
      ((program.run execute store).1.mapError raise, (program.run execute store).2) := by
  induction program generalizing store with
  | done value => rfl
  | fail failure => rfl
  | call command rest ih => exact ih (execute command store).1 (execute command store).2

end

/-- One call with the answer it got. -/
abbrev Event (Command : Type) (Answer : Command → Type) := (command : Command) × Answer command

/-- Whatever its calls answer, a program makes only calls that its own earlier
events allow, and ends in a result that its events support. -/
def Keeps (allowed : List (Event Command Answer) → Command → Prop)
    (post : List (Event Command Answer) → Except Failure Value → Prop) :
    List (Event Command Answer) → Program Command Answer Failure Value → Prop
  | seen, done value => post seen (.ok value)
  | seen, fail failure => post seen (.error failure)
  | seen, call command rest =>
    allowed seen command ∧ ∀ answer, Keeps allowed post (⟨command, answer⟩ :: seen) (rest answer)

section

variable {allowed : List (Event Command Answer) → Command → Prop}
  {post : List (Event Command Answer) → Except Failure Value → Prop}
  {seen : List (Event Command Answer)}

theorem Keeps.mono (kept : Keeps allowed post seen program)
    (weaker : ∀ seen result, post seen result → post' seen result) : Keeps allowed post' seen program := by
  induction program generalizing seen with
  | done value => exact weaker _ _ kept
  | fail failure => exact weaker _ _ kept
  | call command rest ih => exact ⟨kept.1, fun answer => ih answer (kept.2 answer)⟩

theorem Keeps.weaken (kept : Keeps allowed post seen program)
    (weaker : ∀ seen command, allowed seen command → looser seen command) :
    Keeps looser post seen program := by
  induction program generalizing seen with
  | done value => exact kept
  | fail failure => exact kept
  | call command rest ih => exact ⟨weaker _ _ kept.1, fun answer => ih answer (kept.2 answer)⟩

theorem Keeps.bind {post : List (Event Command Answer) → Except Failure Next → Prop}
    (kept : Keeps allowed (fun seen result => match result with
        | .ok value => Keeps allowed post seen (next value)
        | .error failure => post seen (.error failure)) seen first) :
    Keeps allowed post seen (first >>= next) := by
  induction first generalizing seen with
  | done value => exact kept
  | fail failure => exact kept
  | call command rest ih => exact ⟨kept.1, fun answer => ih answer (kept.2 answer)⟩

theorem Keeps.seq (kept : Keeps allowed post seen first)
    (continues : ∀ seen value, post seen (.ok value) → Keeps allowed final seen (next value))
    (stops : ∀ seen failure, post seen (.error failure) → final seen (.error failure)) :
    Keeps allowed final seen (first >>= next) := by
  apply Keeps.bind
  apply kept.mono
  intro seen result holds
  cases result with
  | ok value => exact continues seen value holds
  | error failure => exact stops seen failure holds

theorem Keeps.andThen (kept : Keeps allowed post seen first)
    (continues : ∀ seen value, post seen (.ok value) → Keeps allowed (fun _ _ => True) seen (next value)) :
    Keeps allowed (fun _ _ => True) seen (first >>= next) :=
  kept.seq continues fun _ _ _ => trivial

theorem Keeps.attempt {post : List (Event Command Answer) → Except Failure (Except Failure Value) → Prop}
    (kept : Keeps allowed (fun seen result => post seen (.ok result)) seen program) :
    Keeps allowed post seen program.attempt := by
  induction program generalizing seen with
  | done value => exact kept
  | fail failure => exact kept
  | call command rest ih => exact ⟨kept.1, fun answer => ih answer (kept.2 answer)⟩

theorem Keeps.ofExcept (holds : post seen result) :
    Keeps allowed post seen (ofExcept result : Program Command Answer Failure Value) := by
  cases result <;> exact holds

theorem Keeps.ofExcept_bind
    (passes : ∀ value, result = .ok value → Keeps allowed (fun _ _ => True) seen (next value)) :
    Keeps allowed (fun _ _ => True) seen (Program.ofExcept result >>= next) := by
  cases result with
  | error failure => trivial
  | ok value => exact passes value rfl

end

end Program

end Perfcho.Foundation
