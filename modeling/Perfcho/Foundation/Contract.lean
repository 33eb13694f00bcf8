import Perfcho.Foundation.Program

/-! Contracts of programs that run with nothing in between their calls: what holds of
the result and of the store afterwards, when every call that is made meets a condition. -/

namespace Perfcho.Foundation.Program

variable {Command : Type} {Answer : Command → Type} {Failure Failure' Value Next Store : Type}
  {program : Program Command Answer Failure Value} {next : Value → Program Command Answer Failure Next}
  {command : Command}
  {final : Except Failure Next → Store → Prop}

/-- Every call that a program makes from a store meets a condition. -/
def Permits (execute : (command : Command) → Store → Answer command × Store)
    (permitted : Store → Command → Prop) :
    Program Command Answer Failure Value → Store → Prop
  | done _, _ => True
  | fail _, _ => True
  | call command rest, store =>
    permitted store command ∧
      (rest (execute command store).1).Permits execute permitted (execute command store).2

/-- Run a test at every call that a program makes. -/
def checks (execute : (command : Command) → Store → Answer command × Store) (test : Store → Command → Bool) :
    Program Command Answer Failure Value → Store → Bool
  | done _, _ => true
  | fail _, _ => true
  | call command rest, store =>
    test store command && (rest (execute command store).1).checks execute test (execute command store).2

/-- A permitted run from a store ends with the postcondition. -/
structure Yields (execute : (command : Command) → Store → Answer command × Store)
    (permitted : Store → Command → Prop) (program : Program Command Answer Failure Value)
    (store : Store) (post : Except Failure Value → Store → Prop) : Prop where
  ends : program.Permits execute permitted store →
    post (program.run execute store).1 (program.run execute store).2

variable {execute : (command : Command) → Store → Answer command × Store}
  {permitted : Store → Command → Prop} {post : Except Failure Value → Store → Prop} {store : Store}

theorem permits_of_forall (always : ∀ store command, permitted store command)
    (program : Program Command Answer Failure Value) (store : Store) :
    program.Permits execute permitted store := by
  induction program generalizing store with
  | done value => trivial
  | fail failure => trivial
  | call command rest ih => exact ⟨always store command, ih _ _⟩

theorem permits_of_checks (sound : ∀ store command, test store command = true →
    permitted store command) (passed : program.checks execute test store = true) :
    program.Permits execute permitted store := by
  induction program generalizing store with
  | done value => trivial
  | fail failure => trivial
  | call command rest ih =>
    rw [checks, Bool.and_eq_true] at passed
    exact ⟨sound store command passed.1, ih _ passed.2⟩

theorem Permits.bind_first (permits : (first >>= next).Permits execute permitted store) :
    first.Permits execute permitted store := by
  induction first generalizing store with
  | done value => trivial
  | fail failure => trivial
  | call command rest ih => exact ⟨permits.1, ih _ permits.2⟩

theorem Permits.bind_next
    (permits : (first >>= next).Permits execute permitted store)
    (ran : first.run execute store = (.ok value, middle)) :
    (next value).Permits execute permitted middle := by
  induction first generalizing store with
  | done value =>
    cases ran
    exact permits
  | fail failure => cases ran
  | call command rest ih => exact ih _ permits.2 ran

theorem Permits.of_attempt (permits : program.attempt.Permits execute permitted store) :
    program.Permits execute permitted store := by
  induction program generalizing store with
  | done value => trivial
  | fail failure => trivial
  | call command rest ih => exact ⟨permits.1, ih _ permits.2⟩

theorem Permits.of_adapt (permits : (program.adapt raise).Permits execute permitted store) :
    program.Permits execute permitted store := by
  induction program generalizing store with
  | done value => trivial
  | fail failure => trivial
  | call command rest ih => exact ⟨permits.1, ih _ permits.2⟩

theorem Permits.mono (permits : program.Permits execute permitted store)
    (weaker : ∀ store command, permitted store command → looser store command) :
    program.Permits execute looser store := by
  induction program generalizing store with
  | done value => trivial
  | fail failure => trivial
  | call command rest ih => exact ⟨weaker _ _ permits.1, ih _ permits.2⟩

/-- A program that makes certain calls only, whatever they answer, is permitted under
that restriction too. -/
theorem Permits.restrict {allowed : Command → Prop}
    (permits : program.Permits execute permitted store)
    (keeps : Keeps (fun _ command => allowed command) result seen program) :
    program.Permits execute (fun store command => permitted store command ∧ allowed command) store := by
  induction program generalizing store seen with
  | done value => trivial
  | fail failure => trivial
  | call command rest ih => exact ⟨⟨permits.1, keeps.1⟩, ih _ permits.2 (keeps.2 _)⟩

/-- Whatever its calls answer, a program makes only certain calls. -/
def Asks (allowed : Command → Prop) (program : Program Command Answer Failure Value) : Prop :=
  ∀ seen, Keeps (fun _ command => allowed command) (fun _ _ => True) seen program

section

variable {allowed : Command → Prop} {program : Program Command Answer Failure Value}

theorem Asks.pure (value : Value) : Asks allowed (Pure.pure value : Program Command Answer Failure Value) :=
  fun _ => trivial

theorem Asks.fail (failure : Failure) :
    Asks allowed (Program.fail failure : Program Command Answer Failure Value) :=
  fun _ => trivial

theorem Asks.ofExcept (result : Except Failure Value) :
    Asks allowed (Program.ofExcept result : Program Command Answer Failure Value) :=
  fun _ => .ofExcept trivial

theorem Asks.ask (permitted : allowed command) :
    Asks allowed (Program.ask command : Program Command Answer Failure _) :=
  fun _ => ⟨permitted, fun _ => trivial⟩

theorem Asks.bind (first : Asks allowed program) (rest : ∀ value, Asks allowed (next value)) :
    Asks allowed (program >>= next) :=
  fun seen => (first seen).andThen fun seen value _ => rest value seen

theorem Asks.attempt (asks : Asks allowed program) : Asks allowed program.attempt :=
  fun seen => (asks seen).attempt

end

theorem Yields.pure (holds : post (.ok value) store) :
    Yields execute permitted
    (Pure.pure value : Program Command Answer Failure Value) store post := ⟨fun _ => holds⟩

theorem Yields.fail {failure : Failure} (holds : post (.error failure) store) :
    Yields execute permitted (Program.fail failure) store post := ⟨fun _ => holds⟩

theorem Yields.ofExcept (holds : post result store) :
    Yields execute permitted (Program.ofExcept result) store post :=
  ⟨fun _ => by cases result <;> exact holds⟩

theorem Yields.mono (yields : Yields execute permitted program store post)
    (implies : ∀ result after, post result after → weaker result after) :
    Yields execute permitted program store weaker :=
  ⟨fun permits => implies _ _ (yields.ends permits)⟩

theorem Yields.step {next : Answer command → Program Command Answer Failure Value}
    (continues : permitted store command →
      Yields execute permitted (next (execute command store).1) (execute command store).2 post) :
    Yields execute permitted (Program.ask command >>= next) store post :=
  ⟨fun permits => (continues permits.1).ends permits.2⟩

theorem Yields.seq (yields : Yields execute permitted first store post)
    (continues : ∀ value middle, post (.ok value) middle → Yields execute permitted (next value) middle final)
    (stops : ∀ failure middle, post (.error failure) middle → final (.error failure) middle) :
    Yields execute permitted (first >>= next) store final := by
  constructor
  intro permits
  have reached := yields.ends permits.bind_first
  rcases ran : first.run execute store with ⟨result, middle⟩
  rw [ran] at reached
  cases result with
  | ok value =>
    rw [run_bind_ok ran]
    exact (continues value middle reached).ends (permits.bind_next ran)
  | error failure =>
    rw [run_bind_error ran]
    exact stops failure middle reached

theorem Yields.map (yields : Yields execute permitted program store post)
    (finished : ∀ result after, post result after → final (result.map finish) after) :
    Yields execute permitted (finish <$> program) store final :=
  yields.seq (fun value middle held => .pure (finished (.ok value) middle held))
    fun failure middle held => finished (.error failure) middle held

theorem Yields.adapt
    {final : Except Failure' Value → Store → Prop} (yields : Yields execute permitted program store post)
    (raised : ∀ result after, post result after → final (result.mapError raise) after) :
    Yields execute permitted (program.adapt raise) store final := by
  refine ⟨fun permits => ?_⟩
  rw [run_adapt]
  exact raised _ _ (yields.ends permits.of_adapt)

theorem Yields.adaptSeq
    {next : Value → Program Command Answer Failure' Next} {final : Except Failure' Next → Store → Prop}
    (yields : Yields execute permitted first store post)
    (continues : ∀ value middle, post (.ok value) middle → Yields execute permitted (next value) middle final)
    (stops : ∀ failure middle, post (.error failure) middle → final (.error (raise failure)) middle) :
    Yields execute permitted (first.adapt raise >>= next) store final := by
  have raised : Yields execute permitted (first.adapt raise) store fun result middle =>
      ∃ original, result = original.mapError raise ∧ post original middle :=
    yields.adapt fun result _ held => ⟨result, rfl, held⟩
  apply raised.seq
  · rintro value middle ⟨original, same, held⟩
    cases original <;> cases same
    exact continues value middle held
  · rintro failure middle ⟨original, same, held⟩
    cases original <;> cases same
    exact stops _ middle held

theorem Yields.given (continues : ∀ value, result = .ok value →
    Yields execute permitted (next value) store final) (stops :
    ∀ failure, result = .error failure → final (.error failure) store) : Yields execute permitted
    (Program.ofExcept result >>= next) store final := by
  cases result with
  | ok value => exact continues value rfl
  | error failure => exact ⟨fun _ => stops failure rfl⟩

theorem Yields.rescue (yields : Yields execute permitted program store post)
    (continues : ∀ result middle, post result middle →
      Yields execute permitted (handler result) middle final) : Yields execute permitted
    (program.attempt >>= handler) store final := by
  constructor
  intro permits
  have ran := @run_attempt Command Answer Failure Value Store execute program store
  rw [run_bind_ok ran]
  have reached := yields.ends permits.bind_first.of_attempt
  exact (continues _ _ reached).ends (permits.bind_next ran)

end Perfcho.Foundation.Program
