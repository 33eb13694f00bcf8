import Mathlib.Data.List.Forall2

/-! Computations over a mutable state. A failure keeps whatever the state had
become when it was raised, as an exception does, so what a failed call leaves
behind can be stated. -/

namespace Perfcho.Foundation

/-- A computation that reads and writes a state and may fail in any state. -/
def Action (State Failure Value : Type) : Type := State → Except Failure Value × State

namespace Action

variable {State Failure Value Next : Type} {first : Action State Failure Value} {condition : Prop}

protected def pure (value : Value) : Action State Failure Value := fun state => (.ok value, state)

protected def bind (first : Action State Failure Value) (next : Value → Action State Failure Next) :
    Action State Failure Next := fun state =>
  match first state with
  | (.ok value, middle) => next value middle
  | (.error failure, middle) => (.error failure, middle)

instance : Monad (Action State Failure) where
  pure := Action.pure
  bind := Action.bind

def fail (failure : Failure) : Action State Failure Value := fun state => (.error failure, state)

def read : Action State Failure State := fun state => (.ok state, state)

def write (state : State) : Action State Failure Unit := fun _ => (.ok (), state)

/-- Run a handler on the state a failure left, then fail again with its failure. -/
def onFailure (body : Action State Failure Value) (handler : State → Failure → Failure × State) :
    Action State Failure Value := fun state =>
  match body state with
  | (.ok value, after) => (.ok value, after)
  | (.error failure, after) => (.error (handler after failure).1, (handler after failure).2)

/-- Run an action for every item of a list, in order, stopping at the first failure. -/
def forEach (items : List Value) (body : Value → Action State Failure Unit) : Action State Failure Unit :=
  match items with
  | [] => pure ()
  | item :: rest => do
    body item
    forEach rest body

/-- Repeat an action a fixed number of times and collect its values in order. -/
def collect (body : Action State Failure Value) : Nat → Action State Failure (List Value)
  | 0 => pure []
  | count + 1 => do
    let head ← body
    let tail ← collect body count
    return head :: tail

/-- Run an action for every item of a list and collect the values in order. -/
def collectOver (items : List Next) (body : Next → Action State Failure Value) :
    Action State Failure (List Value) :=
  match items with
  | [] => pure []
  | item :: rest => do
    let head ← body item
    let tail ← collectOver rest body
    return head :: tail

@[simp] theorem pure_apply (value : Value) (state : State) :
    (pure value : Action State Failure Value) state = (.ok value, state) := rfl

@[simp] theorem read_apply (state : State) :
    (read : Action State Failure State) state = (.ok state, state) := rfl

@[simp] theorem write_apply (next state : State) :
    (write next : Action State Failure Unit) state = (.ok (), next) := rfl

theorem bind_apply (first : Action State Failure Value) (next : Value → Action State Failure Next)
    (state : State) :
    (first >>= next) state = match first state with
      | (.ok value, middle) => next value middle
      | (.error failure, middle) => (.error failure, middle) := rfl

theorem bind_ok (success : first state = (.ok value, middle)) :
    (first >>= next) state = next value middle := by
  rw [bind_apply, success]

theorem bind_error {failure : Failure} (failed : first state = (.error failure, middle)) :
    (first >>= next) state = (.error failure, middle) := by
  rw [bind_apply, failed]

/-- A sequence succeeds exactly through a success of its first part. -/
theorem bind_eq_ok_iff : (first >>= next) state = (.ok result, final) ↔
    ∃ value middle, first state = (.ok value, middle) ∧ next value middle = (.ok result, final) := by
  rw [bind_apply]
  constructor
  · intro success
    split at success
    · rename_i value middle ran
      exact ⟨value, middle, ran, success⟩
    · cases success
  · rintro ⟨value, middle, ran, success⟩
    rw [ran]
    exact success

theorem onFailure_ok (success : body state = (.ok value, after))
    (handler : State → Failure → Failure × State) : onFailure body handler state = (.ok value, after) := by
  simp only [onFailure, success]

theorem forEach_map (label : Next → Value) (items : List Next) (body : Value → Action State Failure Unit) :
    forEach (items.map label) body = forEach items fun item => body (label item) := by
  induction items with
  | nil => rfl
  | cons item items ih => simp only [List.map_cons, forEach, ih]

@[simp] theorem read_bind (next : State → Action State Failure Next) (state : State) :
    ((read : Action State Failure State) >>= next) state = next state state := rfl

/-- Values satisfy one condition and failures another. -/
def Outcome (post : Value → Prop) (allowed : Failure → Prop) : Except Failure Value → Prop
  | .ok value => post value
  | .error failure => allowed failure

/-- A rule of pre- and postconditions. The invariant holds before and after,
whether the action succeeds or fails; the relation compares the state before
with the state after; values satisfy the postcondition and failures the
exceptional one. -/
def Sound (invariant : State → Prop) (moves : State → State → Prop) (allowed : Failure → Prop)
    (action : Action State Failure Value) (post : Value → Prop) : Prop :=
  ∀ state, invariant state →
    invariant (action state).2 ∧ moves state (action state).2 ∧ Outcome post allowed (action state).1

section

variable {invariant : State → Prop} {moves : State → State → Prop} {allowed : Failure → Prop}

theorem Sound.pure (stays : ∀ state, moves state state) (holds : post value) :
    Sound invariant moves allowed (Pure.pure value : Action State Failure Value) post :=
  fun state valid => ⟨valid, stays state, holds⟩

theorem Sound.fail {failure : Failure} (stays : ∀ state, moves state state) (permitted : allowed failure) :
    Sound invariant moves allowed (Action.fail failure : Action State Failure Value) post :=
  fun state valid => ⟨valid, stays state, permitted⟩

theorem Sound.bind (composes : ∀ {before middle after}, moves before middle → moves middle after →
    moves before after) (head : Sound invariant moves allowed first between)
    (tail : ∀ value, between value → Sound invariant moves allowed (next value) post) :
    Sound invariant moves allowed (first >>= next) post := by
  intro state valid
  obtain ⟨kept, moved, outcome⟩ := head state valid
  rw [bind_apply]
  cases ran : first state with
  | mk result middle =>
    rw [ran] at kept moved outcome
    cases result with
    | error failure => exact ⟨kept, moved, outcome⟩
    | ok value =>
      obtain ⟨kept', moved', outcome'⟩ := tail value outcome middle kept
      exact ⟨kept', composes moved moved', outcome'⟩

theorem Sound.weaken (strong : Sound invariant moves allowed action post)
    (implied : ∀ value, post value → weaker value) : Sound invariant moves allowed action weaker := by
  intro state valid
  obtain ⟨kept, moved, outcome⟩ := strong state valid
  refine ⟨kept, moved, ?_⟩
  cases ran : (action state).1 with
  | ok value => rw [ran] at outcome; exact implied value outcome
  | error failure => rw [ran] at outcome; exact outcome

theorem Sound.ite [Decidable condition] (whenTrue : condition → Sound invariant moves allowed yes post)
    (whenFalse : ¬ condition → Sound invariant moves allowed no post) :
    Sound invariant moves allowed (if condition then yes else no) post := by
  by_cases holds : condition
  · rw [if_pos holds]; exact whenTrue holds
  · rw [if_neg holds]; exact whenFalse holds

/-- Collecting keeps the rule of its body, and collects exactly the requested number of values. -/
theorem Sound.collect (stays : ∀ state, moves state state)
    (composes : ∀ {before middle after}, moves before middle → moves middle after →
      moves before after) (each : Sound invariant moves allowed body post) (count : Nat) :
    Sound invariant moves allowed (Action.collect body count)
      (fun values => values.length = count ∧ ∀ value ∈ values, post value) := by
  induction count with
  | zero => exact .pure stays ⟨rfl, by simp⟩
  | succ count ih =>
    refine .bind composes each fun head first => .bind composes ih fun tail rest =>
      Sound.pure stays ⟨by simp [rest.1], ?_⟩
    intro value member
    rcases List.mem_cons.mp member with same | later
    · exact same ▸ first
    · exact rest.2 value later

theorem Sound.collectOver (stays : ∀ state, moves state state)
    (composes : ∀ {before middle after}, moves before middle → moves middle after → moves before after)
    (each : ∀ item, Sound invariant moves allowed (body item) post) (items : List Next) :
    Sound invariant moves allowed (Action.collectOver items body)
      (fun values => values.length = items.length ∧ ∀ value ∈ values, post value) := by
  induction items with
  | nil => exact .pure stays ⟨rfl, by simp⟩
  | cons item items ih =>
    refine .bind composes (each item) fun head first => .bind composes ih fun tail rest =>
      Sound.pure stays ⟨by simp [rest.1], ?_⟩
    intro value member
    rcases List.mem_cons.mp member with same | later
    · exact same ▸ first
    · exact rest.2 value later

end

end Action

@[simp] theorem ok_bind (value : Value) (next : Value → Except Failure Next) :
    (Except.ok value >>= next) = next value := rfl

theorem of_bind_eq_ok {next : Value → Except Failure Next}
    (ran : (first >>= next) = .ok result) : ∃ value, first = .ok value ∧ next value = .ok result := by
  cases first with
  | error failure => cases ran
  | ok value => exact ⟨value, rfl, ran⟩

theorem of_bind_bind_eq_ok {second : Value → Except Failure Next}
    {last : Value → Next → Except Failure Final}
    (ran : (first >>= fun value => second value >>= last value) = .ok result) :
    ∃ value, first = .ok value ∧ ∃ next, second value = .ok next ∧ last value next = .ok result := by
  obtain ⟨value, started, ran⟩ := of_bind_eq_ok ran
  exact ⟨value, started, of_bind_eq_ok ran⟩

theorem of_ite_bind_eq_ok [Decidable condition] {next : Value → Except Failure Next}
    (ran : (if condition then yes >>= next else no >>= next) = .ok result) :
    ∃ value, (if condition then yes else no) = .ok value ∧ next value = .ok result := by
  split at ran
  · next chosen =>
    rw [if_pos chosen]
    exact of_bind_eq_ok ran
  · next refused =>
    rw [if_neg refused]
    exact of_bind_eq_ok ran

/-- A check that fails under a condition. -/
def refuse (condition : Prop) [Decidable condition] (failure : Failure) : Except Failure Unit :=
  if condition then .error failure else .ok ()

theorem refuse_eq_ok [Decidable condition] {failure : Failure} :
    refuse condition failure = .ok value ↔ ¬ condition := by
  unfold refuse
  by_cases holds : condition
  · simp [holds]
  · simp [holds]

theorem refuse_bind [Decidable condition] (passes : ¬ condition) (failure : Failure)
    (rest : Unit → Except Failure Value) : (refuse condition failure >>= rest) = rest () := by
  rw [refuse, if_neg passes]
  rfl

theorem of_mapError_eq_ok {result : Except Failure Value}
    (ran : result.mapError rename = .ok value) : result = .ok value := by
  cases result with
  | error failure => cases ran
  | ok other =>
    cases ran
    rfl

theorem eq_ok_of_toOption {result : Except Failure Value} (found : result.toOption = some value) :
    result = .ok value := by
  cases result with
  | ok answer =>
    cases found
    rfl
  | error failure => cases found

theorem of_mem_concat (member : item ∈ items ++ [last]) : item ∈ items ∨ item = last := by
  simpa using member

theorem exists_of_any {result : Except Failure Value} (found : result.toOption.any holds = true) :
    ∃ value, result = .ok value ∧ holds value = true := by
  obtain ⟨value, read, held⟩ := (Option.any_eq_true _ _).mp found
  exact ⟨value, eq_ok_of_toOption read, held⟩

theorem eq_ok_of_join {result : Except Failure (Option Value)}
    (found : result.toOption.join = some value) : result = .ok (some value) := by
  cases result with
  | error failure => cases found
  | ok inner =>
    rw [show inner = some value from found]

theorem mapM_related {body : Item → Except Failure Value}
    (each : ∀ item ∈ items, ∃ value, body item = .ok value ∧ relation item value) :
    ∃ values, items.mapM body = .ok values ∧ List.Forall₂ relation items values := by
  induction items with
  | nil => exact ⟨[], rfl, .nil⟩
  | cons item rest ih =>
    obtain ⟨value, head, related⟩ := each item (by simp)
    obtain ⟨values, tail, remaining⟩ := ih fun other member => each other (by simp [member])
    refine ⟨value :: values, ?_, .cons related remaining⟩
    rw [List.mapM_cons, head, tail]
    rfl

theorem mapM_ok {items : List Item} {body : Item → Except Failure Value}
    (each : ∀ item ∈ items, body item = .ok (result item)) : items.mapM body = .ok (items.map result) := by
  induction items with
  | nil => rfl
  | cons item rest ih =>
    rw [List.mapM_cons, each item List.mem_cons_self, ih fun other member =>
      each other (List.mem_cons_of_mem _ member)]
    rfl

theorem mapM_eq_ok {body : Item → Except Failure Value} (ran : items.mapM body = .ok values) :
    List.Forall₂ (fun item value => body item = .ok value) items values := by
  induction items generalizing values with
  | nil =>
    cases ran
    exact .nil
  | cons item rest ih =>
    rw [List.mapM_cons] at ran
    obtain ⟨value, head, ran⟩ := of_bind_eq_ok ran
    obtain ⟨later, tail, ran⟩ := of_bind_eq_ok ran
    cases ran
    exact .cons head (ih tail)

theorem map_eq_of_related (related : List.Forall₂ (fun item next => before item = after next) items nexts) :
    items.map before = nexts.map after := by
  induction related with
  | nil => rfl
  | cons first _ ih => simp [first, ih]

theorem exists_related (related : List.Forall₂ relation items values) (member : item ∈ items) :
    ∃ value ∈ values, relation item value := by
  induction related with
  | nil => simp at member
  | cons first _ ih =>
    rcases List.mem_cons.mp member with here | later
    · exact ⟨_, List.mem_cons_self, here ▸ first⟩
    · obtain ⟨value, found, holds⟩ := ih later
      exact ⟨value, List.mem_cons_of_mem _ found, holds⟩

theorem exists_of_related (related : List.Forall₂ relation items values) (member : value ∈ values) :
    ∃ item ∈ items, relation item value :=
  exists_related related.flip member

end Perfcho.Foundation
