import Perfcho.Redis.Scripts

/-! Fencing. Whatever arguments the scripts are called with and in whatever order,
a write reaches a stored room only past its session, revision and epoch. -/

namespace Perfcho.Redis

variable {Blob : Type} {lua : Lua Blob}

/-- The index after a room's entries are gone: without the listed keys that name the room. -/
theorem dropOwned_apply (owner : String) (keys : List String) (accounts : Accounts) (key : String) :
    dropOwned owner keys accounts key =
      if key ∈ keys ∧ (accounts key).map (·.value) = some owner then none else accounts key := by
  induction keys generalizing accounts with
  | nil => simp [dropOwned]
  | cons head rest ih =>
    have step : dropOwned owner (head :: rest) accounts = dropOwned owner rest
      (if (accounts head).map (·.value) = some owner then Function.update accounts head none else
        accounts) := rfl
    rw [step, ih]
    by_cases same : key = head
    · subst same
      by_cases owned : (accounts key).map (·.value) = some owner <;> simp [owned]
    have kept : (if (accounts head).map (·.value) = some owner then
      Function.update accounts head none else accounts) key = accounts key := by
      split
      · exact Function.update_of_ne same _ _
      · rfl
    rw [kept]
    simp [same]

/-- The ways past the checks of the first half of the script, with the previous
owner and the account index each of them goes on with. -/
inductive Passes (lua : Lua Blob) (store : Store Blob) (call : CasCall Blob) : String → Accounts → Prop where
  | vacant (positive : 1 ≤ call.incomingEpoch) (creating : call.expected = -1)
      (absent : store.rooms call.room = none) :
      Passes lua store call call.owner store.accounts
  | supersedes (positive : 1 ≤ call.incomingEpoch) (creating : call.expected = -1)
      (stored : store.rooms call.room = some entry) (decoded : lua.decode entry.value = some header)
      (numbered : header.publicIdEpoch = some epoch) (higher : epoch < call.incomingEpoch) :
      Passes lua store call (ownerToken lua header epoch)
        (dropOwned (ownerToken lua header epoch) (slotKeys lua header) store.accounts)
  | current (positive : 1 ≤ call.incomingEpoch) (updating : call.expected ≠ -1)
      (stored : store.rooms call.room = some entry) (decoded : lua.decode entry.value = some header)
      (numbered : header.publicIdEpoch = some epoch) (session : header.sessionId = call.expectedSession)
      (notLower : epoch ≤ call.incomingEpoch)
      (sameEpoch : epoch = call.incomingEpoch → call.incomingSession = call.expectedSession)
      (revision : header.stateRevision = some call.expected) :
      Passes lua store call (ownerToken lua header epoch) store.accounts

theorem casFence_passes (ran : casFence lua store call = .ok (previousOwner, accounts)) :
    Passes lua store call previousOwner accounts := by
  unfold casFence at ran
  split at ran
  · cases ran
  rename_i positive
  have positive : 1 ≤ call.incomingEpoch := by omega
  split at ran
  · rename_i creating
    cases stored : store.rooms call.room with
    | none =>
      simp only [stored, Except.ok.injEq, Prod.mk.injEq] at ran
      obtain ⟨rfl, rfl⟩ := ran
      exact .vacant positive creating stored
    | some entry =>
      cases decoded : lua.decode entry.value with
      | none => simp [stored, decoded] at ran
      | some header =>
        cases numbered : header.publicIdEpoch with
        | none => simp [stored, decoded, numbered] at ran
        | some epoch =>
          simp only [stored, decoded, numbered] at ran
          split at ran
          · cases ran
          split at ran
          · cases ran
          rename_i higher
          obtain ⟨rfl, rfl⟩ := ran
          exact .supersedes positive creating stored decoded numbered (by omega)
  · rename_i updating
    cases stored : store.rooms call.room with
    | none => simp [stored] at ran
    | some entry =>
      cases decoded : lua.decode entry.value with
      | none => simp [stored, decoded] at ran
      | some header =>
        cases numbered : header.publicIdEpoch with
        | none => simp [stored, decoded, numbered] at ran
        | some epoch =>
          simp only [stored, decoded, numbered] at ran
          split at ran
          · cases ran
          rename_i open_
          split at ran
          · cases ran
          rename_i revision
          simp only [Except.ok.injEq, Prod.mk.injEq] at ran
          obtain ⟨rfl, rfl⟩ := ran
          simp only [not_or, not_and, not_not, Int.not_lt] at open_ revision
          exact .current positive updating stored decoded numbered open_.1 open_.2.1 open_.2.2 revision

/-- What a call of the script can do: refuse without a trace, give up after the
index of a superseded room is gone, or write. -/
theorem cas_cases (lua : Lua Blob) (store : Store Blob) (call : CasCall Blob) :
    (∃ refusal, cas lua store call = (.error refusal, store)) ∨
    ∃ previousOwner accounts, Passes lua store call previousOwner accounts ∧
      ((cas lua store call = (.error .accountConflict, { store with accounts }) ∧
          ∃ key ∈ call.newAccounts, ∃ entry, accounts key = some entry ∧
        conflicts lua call entry.value = true) ∨
        (cas lua store call = (.ok (), casApply store call previousOwner accounts) ∧
          ∀ key ∈ call.newAccounts, ∀ entry, accounts key = some entry →
          conflicts lua call entry.value = false)) := by
  cases ran : casFence lua store call with
  | error refusal => exact .inl ⟨refusal, by simp [cas, ran]⟩
  | ok passed =>
    refine .inr ⟨passed.1, passed.2, casFence_passes ran, ?_⟩
    simp only [cas, ran]
    split
    · next contested =>
      obtain ⟨key, member, occupied⟩ := List.any_eq_true.mp contested
      obtain ⟨entry, found, conflict⟩ := (Option.any_eq_true _ _).mp occupied
      exact .inl ⟨rfl, key, member, entry, found, conflict⟩
    · next uncontested =>
      refine .inr ⟨rfl, fun key member entry found => ?_⟩
      by_contra conflict
      apply uncontested
      exact List.any_eq_true.mpr ⟨key, member, by simpa [found] using conflict⟩

/-- A call that names the stored session and revision at the stored epoch writes,
unless an account of it is indexed to another owner. -/
theorem cas_current (stored : store.rooms call.room = some entry)
    (decoded : lua.decode entry.value = some header)
    (numbered : header.publicIdEpoch = some call.incomingEpoch) (positive : 1 ≤ call.incomingEpoch)
    (updating : call.expected ≠ -1) (session : header.sessionId = call.expectedSession)
    (sameSession : call.incomingSession = call.expectedSession)
    (revision : header.stateRevision = some call.expected)
    (free : ∀ key ∈ call.newAccounts, ∀ entry, store.accounts key = some entry → entry.value = call.owner) :
    cas lua store call = (.ok (),
    casApply store call (ownerToken lua header call.incomingEpoch) store.accounts) := by
  have passed : casFence lua store call = .ok (ownerToken lua header call.incomingEpoch, store.accounts) := by
    have notInvalid : ¬ call.incomingEpoch < 1 := by omega
    simp [casFence, notInvalid, updating, stored, decoded, numbered, session, sameSession, revision]
  have quiet : (call.newAccounts.any fun key =>
      (store.accounts key).any fun entry => conflicts lua call entry.value) = false := by
    simp only [List.any_eq_false, Bool.not_eq_true]
    intro key member
    cases found : store.accounts key with
    | none => rfl
    | some entry => simp [conflicts, free key member entry found]
  simp only [cas, passed, quiet, Bool.false_eq_true, ↓reduceIte]

/-- A removal leaves everything as it was, answering `OK` only if there is no room,
or removes the room it names. -/
theorem remove_cases (lua : Lua Blob) (store : Store Blob) (call : RemoveCall) :
    (∃ status, remove lua store call = (status, store) ∧ (status = .ok () → store.rooms call.room = none)) ∨
    ∃ entry header, store.rooms call.room = some entry ∧ lua.decode entry.value = some header ∧
      header.sessionId = call.expectedSession ∧ header.stateRevision = some call.expected ∧
      remove lua store call = (.ok (), removeApply store call) := by
  cases stored : store.rooms call.room with
  | none => exact .inl ⟨.ok (), by simp [remove, stored], by simp⟩
  | some entry =>
    cases decoded : lua.decode entry.value with
    | none => exact .inl ⟨.error .scriptError, by simp [remove, stored, decoded], by simp⟩
    | some header =>
      by_cases session : header.sessionId = call.expectedSession
      · by_cases revision : header.stateRevision = some call.expected
        · refine .inr ⟨entry, header, rfl, decoded, session, revision, ?_⟩
          simp [remove, stored, decoded, session, revision]
        · exact .inl ⟨.error .fenced, by simp [remove, stored, decoded, session, revision], by simp⟩
      · exact .inl ⟨.error .epochFenced, by simp [remove, stored, decoded, session], by simp⟩

section

/-- What can happen to the keys: a call of either script with any arguments, or the
server dropping keys. -/
inductive Happening (Blob : Type) where
  | cas (call : CasCall Blob)
  | remove (call : RemoveCall)
  | expire (rooms : Nat → Bool) (accounts : String → Bool)

def expire (store : Store Blob) (rooms : Nat → Bool) (accounts : String → Bool) : Store Blob :=
  { store with
    rooms := fun room => if rooms room then none else store.rooms room
    accounts := fun account => if accounts account then none else store.accounts account }

variable (lua)

def happen (store : Store Blob) : Happening Blob → Store Blob
  | .cas call => (cas lua store call).2
  | .remove call => (remove lua store call).2
  | .expire rooms accounts => expire store rooms accounts

def happenAll (store : Store Blob) (happenings : List (Happening Blob)) :
    Store Blob := happenings.foldl (happen lua) store

def storedEpoch (store : Store Blob) (room : Nat) : Option Int :=
  (store.rooms room).bind fun entry => (lua.decode entry.value).bind (·.publicIdEpoch)

/-- The payload of a call encodes the session and the epoch that the call names. -/
def Encodes (call : CasCall Blob) : Prop :=
  ∃ header, lua.decode call.payload = some header ∧ header.sessionId = call.incomingSession ∧
    header.publicIdEpoch = some call.incomingEpoch

/-- The fence one call has to pass. A call takes effect when it answers `OK` over a
stored room or changes anything. -/
def Fenced (store : Store Blob) : Happening Blob → Prop
  | .cas call =>
    (call.expected ≠ -1 → ((cas lua store call).1 = .ok () ∨ (cas lua store call).2 ≠ store) →
      ∃ entry header epoch, store.rooms call.room = some entry ∧ lua.decode entry.value = some header ∧
        header.sessionId = call.expectedSession ∧ header.stateRevision = some call.expected ∧
        header.publicIdEpoch = some epoch ∧ epoch ≤ call.incomingEpoch) ∧
    (call.expected = -1 → ∀ entry, store.rooms call.room = some entry →
      ((cas lua store call).1 = .ok () ∨ (cas lua store call).2.rooms call.room ≠ some entry) →
      ∃ header epoch, lua.decode entry.value = some header ∧ header.publicIdEpoch = some epoch ∧
        epoch < call.incomingEpoch)
  | .remove call => (remove lua store call).2 ≠ store →
      ∃ entry header, store.rooms call.room = some entry ∧ lua.decode entry.value = some header ∧
        header.sessionId = call.expectedSession ∧ header.stateRevision = some call.expected
  | .expire _ _ => True

variable {lua}

theorem fenced (store : Store Blob) (happening : Happening Blob) : Fenced lua store happening := by
  cases happening with
  | cas call =>
    rcases cas_cases lua store call with ⟨refusal, ran⟩ | ⟨previousOwner, accounts, passes, _⟩
    · refine ⟨fun _ effect => by simp [ran] at effect, fun _ entry stored effect => ?_⟩
      simp [ran, stored] at effect
    cases passes with
    | vacant _ creating absent => simp [Fenced, creating, absent]
    | @supersedes entry header epoch _ creating stored decoded numbered higher =>
      simp [Fenced, creating, stored, decoded, numbered, higher]
    | @current entry header epoch _ updating stored decoded numbered session notLower _ revision =>
      exact ⟨fun _ _ => ⟨entry, header, epoch, stored, decoded, session, revision, numbered, notLower⟩,
        fun creating => absurd creating updating⟩
  | remove call =>
    rcases remove_cases lua store call with ⟨status, ran, _⟩ | ⟨entry, header, stored, decoded,
      session, revision, _⟩
    · simp [Fenced, ran]
    · exact fun _ => ⟨entry, header, stored, decoded, session, revision⟩
  | expire => trivial

@[simp] theorem casApply_rooms (store : Store Blob) (call : CasCall Blob) (previousOwner : String)
    (accounts : Accounts) :
    (casApply store call previousOwner accounts).rooms =
      Function.update store.rooms call.room (some ⟨call.payload, call.deadline⟩) := rfl

@[simp] theorem removeApply_rooms (store : Store Blob) (call : RemoveCall) :
    (removeApply store call).rooms = Function.update store.rooms call.room none := rfl

/-- One call or expiry lowers no stored epoch: a room that is still there has the
epoch it had or a higher one. -/
theorem happen_storedEpoch (happening : Happening Blob)
    (encodes : ∀ call, happening = .cas call → Encodes lua call)
    (before : storedEpoch lua store room = some epoch)
    (present : (happen lua store happening).rooms room ≠ none) :
    ∃ later, storedEpoch lua (happen lua store happening) room = some later ∧ epoch ≤ later := by
  cases happening with
  | cas call =>
    rcases cas_cases lua store call with ⟨refusal, ran⟩ | ⟨previousOwner, accounts, passes,
      ⟨ran, _⟩ | ⟨ran, _⟩⟩
    · exact ⟨epoch, by simpa [happen, ran] using before, le_rfl⟩
    · exact ⟨epoch, by simpa [happen, ran, storedEpoch] using before, le_rfl⟩
    by_cases same : room = call.room
    · subst same
      obtain ⟨written, decoded, _, named⟩ := encodes call rfl
      refine ⟨call.incomingEpoch, by simp [happen, ran, storedEpoch, decoded, named], ?_⟩
      cases passes with
      | vacant _ _ absent => simp [storedEpoch, absent] at before
      | supersedes _ _ stored decoded numbered | current _ _ stored decoded numbered =>
        simp only [storedEpoch, stored, decoded, numbered, Option.bind_some, Option.some.injEq] at before
        omega
    · exact ⟨epoch, by simpa [happen, ran, storedEpoch, same] using before, le_rfl⟩
  | remove call =>
    rcases remove_cases lua store call with ⟨status, ran, _⟩ | ⟨_, _, _, _, _, _, ran⟩
    · exact ⟨epoch, by simpa [happen, ran] using before, le_rfl⟩
    · by_cases same : room = call.room
      · simp [happen, ran, same] at present
      · exact ⟨epoch, by simpa [happen, ran, storedEpoch, same] using before, le_rfl⟩
  | expire rooms accounts =>
    by_cases dropped : rooms room = true
    · simp [happen, expire, dropped] at present
    · exact ⟨epoch, by simpa [happen, expire, storedEpoch, dropped] using before, le_rfl⟩

/-- Over any sequence of calls a room that stays present never goes to a lower
epoch, and every call in it passes its fence or has no effect. -/
theorem scripts_fenced (lua : Lua Blob) (store : Store Blob) (happenings : List (Happening Blob))
    (encodes : ∀ call, .cas call ∈ happenings → Encodes lua call) :
    (∀ room epoch, storedEpoch lua store room = some epoch →
      (∀ part, part <+: happenings → (happenAll lua store part).rooms room ≠ none) →
      ∃ later, storedEpoch lua (happenAll lua store happenings) room = some later ∧ epoch ≤ later) ∧
    ∀ before happening after, happenings = before ++ happening :: after →
      Fenced lua (happenAll lua store before) happening := by
  constructor
  · induction happenings generalizing store with
    | nil => exact fun room epoch before _ => ⟨epoch, before, le_rfl⟩
    | cons happening rest ih =>
      intro room epoch before present
      have first : (happen lua store happening).rooms room ≠ none :=
        present [happening] (List.prefix_cons_inj happening |>.mpr List.nil_prefix)
      obtain ⟨middle, reached, raised⟩ := happen_storedEpoch happening
        (fun call same => encodes call (by simp [same])) before first
      have remaining : ∀ part, part <+: rest →
        (happenAll lua (happen lua store happening) part).rooms room ≠ none :=
        fun part inside => present (happening :: part) (List.prefix_cons_inj happening |>.mpr inside)
      obtain ⟨later, arrived, more⟩ := ih (happen lua store happening)
        (fun call member => encodes call (by simp [member])) room middle reached remaining
      exact ⟨later, arrived, le_trans raised more⟩
  · exact fun before happening _ _ => fenced (happenAll lua store before) happening

/-- A runtime whose blobs are headers. -/
def plainLua : Lua Header := fullLua some

def sampleHeader (epoch revision : Int) : Header := ⟨"session", 5, some epoch, some revision, [some 1, none]⟩

def sampleStore : Store Header where
  rooms := fun room => if room = 5 then some ⟨sampleHeader 1 3, 100⟩ else none
  accounts := fun account => if account = "1" then some ⟨"5|1|session", 100⟩ else none
  index := [(5, 100)]
  indexDeadline := some 100
  clock := 0

def sampleUpdate : CasCall Header :=
  ⟨5, ["1"], ["1"], 3, "session", "session", 1, sampleHeader 1 4, 200, "5|1|session", 5⟩

theorem scripts_fenced_sampleUpdate : (cas plainLua sampleStore sampleUpdate).1 = .ok () ∧
    (∃ later, storedEpoch plainLua (happenAll plainLua sampleStore [.cas sampleUpdate])
      5 = some later ∧ 1 ≤ later) ∧
      Fenced plainLua sampleStore (.cas sampleUpdate) := by
  have answered : (cas plainLua sampleStore sampleUpdate).1 = .ok () := by rfl
  have fence := scripts_fenced plainLua sampleStore [.cas sampleUpdate] (by
    intro call member
    obtain rfl : call = sampleUpdate := by simpa using member
    exact ⟨sampleHeader 1 4, rfl, rfl, rfl⟩)
  refine ⟨answered, fence.1 5 1 rfl ?_, fence.2 [] (.cas sampleUpdate) [] rfl⟩
  intro part inside
  rcases List.prefix_cons_iff.mp inside with rfl | ⟨rest, rfl, nothing⟩
  · exact Option.some_ne_none _
  · obtain rfl := List.prefix_nil.mp nothing
    exact Option.some_ne_none (⟨sampleHeader 1 4, 200⟩ : Entry Header)

end

end Perfcho.Redis
