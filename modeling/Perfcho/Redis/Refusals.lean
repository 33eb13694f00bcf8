import Perfcho.Redis.Fencing

/-! What a refused call leaves behind. The script deletes index entries before its last
check and before its first `SET`, and nothing of that is rolled back. -/

namespace Perfcho.Redis

/-- What the script raises at: in a stored room a slot that is no object, given by the
number of account keys before it; in the sorted set a score that prints as no integer. -/
structure Faults (Blob : Type) where
  broken : Blob → Option Nat
  printed : Int → Bool

/-- `PXAT` takes a positive deadline of 64 bits. -/
def settable (deadline : Int) : Bool := 0 < deadline ∧ deadline < 0x8000000000000000

/-- The rooms, the account index and the list of public rooms are as before. -/
structure Intact (store after : Store Blob) : Prop where
  rooms : after.rooms = store.rooms
  accounts : after.accounts = store.accounts
  index : after.index = store.index

section

variable {Blob : Type} (lua : Lua Blob) (faults : Faults Blob) (store : Store Blob) (call : CasCall Blob)

/-- The stored room that a creating call replaces. -/
def replaced : Option Blob := if call.expected = -1 then (store.rooms call.room).map (·.value) else none

def replacedKeys : List String := (((replaced store call).bind lua.decode).map (slotKeys lua)).getD []

/-- Where the script stops past its fence, with the keys that it has dealt with by then:
at a broken slot, at an account that is taken, or at a deadline that cannot be set. -/
def stops (accounts : Accounts) : Option (Refusal × List String) :=
  match (replaced store call).bind faults.broken with
  | some count => some (.scriptError, (replacedKeys lua store call).take count)
  | none =>
    if call.newAccounts.any fun key => (accounts key).any fun entry => conflicts lua call entry.value then
      some (.accountConflict, replacedKeys lua store call)
    else if settable call.deadline then none
    else some (.scriptError, replacedKeys lua store call ++ call.oldAccounts)

/-- `_CAS_SCRIPT` with the commands that raise. -/
def casScript : Status × Store Blob :=
  match casFence lua store call with
  | .error refusal => (.error refusal, store)
  | .ok (previousOwner, accounts) =>
    match stops lua faults store call accounts with
    | some (refusal, keys) =>
      (.error refusal, { store with accounts := dropOwned previousOwner keys store.accounts })
    | none =>
      let after := casApply store call previousOwner accounts
      (if (latestScore after.index).all faults.printed then .ok () else .error .scriptError, after)

/-- A call past the fence that does nothing by halves: where it stops, none of the keys
was the previous owner's; and if it writes, the list is given its deadline, or the write
changes nothing. -/
def Clean (owner : String) (accounts : Accounts) : Prop :=
  match stops lua faults store call accounts with
  | some (_, keys) => ∀ key ∈ keys, (store.accounts key).map (·.value) ≠ some owner
  | none => (latestScore (casApply store call owner accounts).index).all faults.printed = true ∨
      Intact store (casApply store call owner accounts)

end

variable {Blob : Type} {lua : Lua Blob} {faults : Faults Blob} {store : Store Blob} {call : CasCall Blob}

theorem dropOwned_eq_self_iff :
    dropOwned owner keys accounts = accounts ↔ ∀ key ∈ keys, (accounts key).map (·.value) ≠ some owner := by
  constructor
  · intro same key member owned
    have kept := congrFun same key
    rw [dropOwned_apply, if_pos ⟨member, owned⟩] at kept
    rw [← kept] at owned
    cases owned
  · intro foreign
    funext key
    rw [dropOwned_apply, if_neg]
    exact fun both => foreign key both.1 both.2

/-- The ways past the fence lead past it. -/
theorem Passes.ran (passes : Passes lua store call owner accounts) :
    casFence lua store call = .ok (owner, accounts) := by
  cases passes with
  | vacant positive creating absent => simp [casFence, Int.not_lt.mpr positive, creating, absent]
  | supersedes positive creating stored decoded numbered higher =>
    simp [casFence, Int.not_lt.mpr positive, creating, stored, decoded, numbered, higher.ne,
      Int.not_le.mpr higher]
  | current positive updating stored decoded numbered session notLower sameEpoch revision =>
    simpa [casFence, Int.not_lt.mpr positive, updating, stored, decoded, numbered, session,
      revision, Int.not_lt.mpr notLower] using sameEpoch

theorem Passes.accounts_eq (passes : Passes lua store call owner accounts) :
    accounts = dropOwned owner (replacedKeys lua store call) store.accounts := by
  cases passes with
  | vacant _ creating absent => simp [replacedKeys, replaced, creating, absent, dropOwned]
  | supersedes _ creating stored decoded => simp [replacedKeys, replaced, creating, stored, decoded]
  | current _ updating => simp [replacedKeys, replaced, updating, dropOwned]

/-- Where nothing raises, the script is `cas`. -/
theorem casScript_eq_cas (whole : (replaced store call).bind faults.broken = none)
    (set : settable call.deadline = true) (printed : ∀ score, faults.printed score = true) :
    casScript lua faults store call = cas lua store call := by
  unfold casScript cas
  cases ran : casFence lua store call with
  | error refusal => rfl
  | ok passed =>
    have expires : (latestScore (casApply store call passed.1 passed.2).index).all faults.printed = true := by
      simp [Option.all_eq_true, printed]
    simp only [stops, whole, set, if_true]
    cases call.newAccounts.any fun key => (passed.2 key).any fun entry => conflicts lua call entry.value with
    | true =>
      have same := (casFence_passes ran).accounts_eq.symm
      exact congrArg (fun accounts => (_, { store with accounts })) same
    | false =>
      simp only [Bool.false_eq_true, if_false]
      rw [if_pos expires]

theorem unwritten_iff_clean (passes : Passes lua store call owner accounts) :
    ((casScript lua faults store call).1 ≠ .ok () → Intact store (casScript lua faults store call).2) ↔
      Clean lua faults store call owner accounts := by
  simp only [casScript, passes.ran, Clean]
  cases stops lua faults store call accounts with
  | some stop =>
    exact ⟨fun intact => dropOwned_eq_self_iff.mp (intact nofun).accounts,
      fun foreign _ => ⟨rfl, dropOwned_eq_self_iff.mpr foreign, rfl⟩⟩
  | none =>
    dsimp only
    split
    · next printed => exact iff_of_true (fun refused => absurd rfl refused) (.inl printed)
    · next raised => exact ⟨fun intact => .inr (intact nofun), fun either _ => either.resolve_left raised⟩

/-- The second epoch of the sample room, with an account that sits in another room. -/
def takenUpdate : CasCall Header :=
  ⟨5, [], ["2"], -1, "later", "later", 2, ⟨"later", 5, some 2, some 1, [some 2]⟩, 200, "5|2|later", 5⟩

/-- The sample room, and another one where the second account sits. -/
def takenStore : Store Header :=
  { sampleStore with
    accounts := fun account =>
      if account = "1" then some ⟨"5|1|session", 100⟩ else if account = "2" then
        some ⟨"6|1|other", 100⟩ else none }

end Perfcho.Redis
