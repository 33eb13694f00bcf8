import Perfcho.Redis.Discipline
import Perfcho.Redis.Fencing

/-! The account index. The scripts set the index of every account of the room they
write and spare the entries of other rooms, so the two stay in step unless an entry
is deleted, or a room superseded, behind the back of a stored room. -/

namespace Perfcho.Redis

open Foundation Multiplayer Repository Option

variable {Blob : Type} {expected : Int}

theorem tokenPublic_append (unbarred : '|' ∉ front.toList) (middle back : String) :
    tokenPublic (front ++ "|" ++ middle ++ "|" ++ back) = front := by
  have plain : ∀ character ∈ front.toList, (character ≠ '|' : Bool) = true := by
    intro character member
    apply decide_eq_true
    rintro rfl
    exact unbarred member
  apply String.toList_inj.mp
  simp only [tokenPublic, String.toList_ofList, String.toList_append, List.append_assoc]
  rw [List.takeWhile_append_of_pos plain]
  simp

theorem tokenPublic_owner (publicId epoch : Nat) (session : Uuid) :
    tokenPublic (owner publicId epoch session) = toString publicId :=
  tokenPublic_append (Text.toString_unbarred publicId) _ _

/-- An owner token of another room. -/
def Foreign (room : Nat) (token : String) : Prop :=
  ∃ other epoch session, token = owner other epoch session ∧ other ≠ room

theorem owner_not_foreign (room epoch : Nat) (session : Uuid) :
    ¬ Foreign room (owner room epoch session) := by
  rintro ⟨other, otherEpoch, otherSession, same, different⟩
  have publics := congrArg tokenPublic same
  rw [tokenPublic_owner, tokenPublic_owner] at publics
  exact different (Text.toString_injective publics).symm

theorem ownerToken_not_foreign (lua : Lua Blob) (state : RoomState) (epoch : Int) :
    ¬ Foreign state.room.publicId (ownerToken lua (headerOf state) epoch) := by
  rintro ⟨other, otherEpoch, otherSession, same, different⟩
  have front : tokenPublic (ownerToken lua (headerOf state) epoch) = lua.tostring state.room.publicId :=
    tokenPublic_append (lua.tostring_unbarred state.room.publicId) _ _
  have publics := congrArg tokenPublic same
  rw [front, tokenPublic_owner] at publics
  exact different (lua.tostring_exact _ _ publics).symm

theorem dropOwned_eq_some (dropped : dropOwned token keys accounts key = some entry) :
    accounts key = some entry := by
  rw [dropOwned_apply] at dropped
  split at dropped
  · cases dropped
  · exact dropped

theorem claimAll_other (absent : key ∉ keys) (token : String) (deadline : Int)
    (accounts : Accounts) : claimAll token deadline keys accounts key = accounts key := by
  induction keys generalizing accounts with
  | nil => rfl
  | cons head rest ih =>
    simp only [List.mem_cons, not_or] at absent
    exact (ih absent.2 _).trans (Function.update_of_ne absent.1 _ _)

theorem claimAll_member (member : key ∈ keys) (token : String) (deadline : Int)
    (accounts : Accounts) : claimAll token deadline keys accounts key = some ⟨token, deadline⟩ := by
  induction keys generalizing accounts with
  | nil => simp at member
  | cons head rest ih =>
    by_cases again : key ∈ rest
    · exact ih again _
    · obtain rfl : key = head := (List.mem_cons.mp member).resolve_right again
      exact (claimAll_other again _ _ _).trans (Function.update_self _ _ _)

section

variable (repo : Repository Blob)

/-- A stored room and the index entries of its accounts: it is a state under its own
key, and each entry names the state's owner. -/
def Seats (accounts : Accounts) (room : Nat) (value : Blob) : Prop :=
  ∃ state, value = repo.encode state ∧ state.room.publicId = room ∧
    ∀ key ∈ accountKeys state, (accounts key).map (·.value) = some (ownerOf state)

def Indexed (store : Store Blob) : Prop :=
  ∀ room entry, store.rooms room = some entry → Seats repo store.accounts room entry.value

/-- A creating write over a stored room of a lower epoch brings only accounts that are
free or, until it drops their entries, indexed to the room it replaces. -/
def Uncontested (store : Store Blob) (call : CasCall Blob) : Prop :=
  call.expected = -1 → ∀ entry ∈ store.rooms call.room, ∀ header ∈ repo.lua.decode entry.value,
    ∀ epoch ∈ header.publicIdEpoch, epoch < call.incomingEpoch → ∀ key ∈ call.newAccounts,
    ∀ occupied ∈ dropOwned (ownerToken repo.lua header epoch) (slotKeys repo.lua header)
      store.accounts key, conflicts repo.lua call occupied.value = false

instance (store : Store Blob) (call : CasCall Blob) : Decidable (Uncontested repo store call) := by
  delta Uncontested
  infer_instance

/-- Any number of repository methods while no key expires. An index entry is deleted
only for an account that no stored room seats, and a room is superseded only by one
whose accounts are free. -/
def indexing : Machine (Command Blob) Answer Failure (Option RoomState) (Store Blob) Task :=
  repo.machine (fun store _ command =>
      match command with
      | .deleteAccount key => ∀ room state, content repo room store = some state → key ∉ accountKeys state
      | .cas call => Uncontested repo store call
      | _ => True)
    (fun before after => after.rooms = before.rooms ∧ after.accounts = before.accounts)

end

section

variable {repo : Repository Blob}

/-- A change of the index that keeps what other rooms own. -/
def Spares (room : Nat) (accounts after : Accounts) : Prop :=
  ∀ key entry, accounts key = some entry → Foreign room entry.value → after key = some entry

theorem Spares.trans (first : Spares room accounts middle) (second : Spares room middle after) :
    Spares room accounts after :=
  fun key entry found foreign => second key entry (first key entry found foreign) foreign

theorem dropOwned_spares (own : ¬ Foreign room token) (keys : List String) (accounts : Accounts) :
    Spares room accounts (dropOwned token keys accounts) := by
  intro key entry found foreign
  rw [dropOwned_apply, if_neg, found]
  rintro ⟨_, owned⟩
  rw [found] at owned
  exact own (some.inj owned ▸ foreign)

theorem claimAll_spares (free : ∀ key ∈ keys, ∀ entry, accounts key = some entry → ¬ Foreign room entry.value)
    (token : String) (deadline : Int) : Spares room accounts (claimAll token deadline keys accounts) := by
  intro key entry found foreign
  by_cases member : key ∈ keys
  · exact absurd foreign (free key member entry found)
  · rw [claimAll_other member, found]

theorem not_foreign_of_free
    (free : conflicts repo.lua (repo.casCall state expected session previous) token = false) :
    ¬ Foreign state.room.publicId token := by
  rintro ⟨other, epoch, otherSession, rfl, different⟩
  simp only [conflicts, tokenPublic_owner, casCall, decide_eq_false_iff_not, not_and, not_or] at free
  by_cases own : owner other epoch otherSession = ownerOf state
  · exact owner_not_foreign state.room.publicId state.room.publicIdEpoch state.room.sessionId
      ⟨other, epoch, otherSession, own.symm, different⟩
  · exact (free own).1 fun same => different (Text.toString_injective same)

theorem Seats.spared (seats : Seats repo accounts other value) (different : other ≠ room)
    (spares : Spares room accounts after) : Seats repo after other value := by
  obtain ⟨state, stored, rfl, indexed⟩ := seats
  refine ⟨state, stored, rfl, fun key member => ?_⟩
  obtain ⟨entry, found, names⟩ := map_eq_some_iff.mp (indexed key member)
  rw [spares key entry found ⟨_, _, _, names, different⟩, map_some, names]

/-- The index that a write goes on with spares the other rooms, and so does its drop
of the previous owner's entries. -/
theorem Passes.spares (indexed : Indexed repo store)
    (passes : Passes repo.lua store (repo.casCall state expected session previous) previousOwner accounts) :
    ¬ Foreign state.room.publicId previousOwner ∧ Spares state.room.publicId store.accounts accounts := by
  have stored : ∀ {entry header} (epoch : Int), store.rooms state.room.publicId = some entry →
    repo.lua.decode entry.value = some header →
    ¬ Foreign state.room.publicId (ownerToken repo.lua header epoch) := by
    intro entry header epoch found decoded
    obtain ⟨current, written, keyed, _⟩ := indexed _ entry found
    rw [written, repo.header_encode] at decoded
    cases decoded
    exact keyed ▸ ownerToken_not_foreign repo.lua current epoch
  cases passes with
  | vacant => exact ⟨owner_not_foreign _ _ _, fun _ _ found _ => found⟩
  | @supersedes entry header epoch _ _ found decoded =>
    have own := stored epoch found decoded
    exact ⟨own, dropOwned_spares own _ _⟩
  | current _ _ found decoded => exact ⟨stored _ found decoded, fun _ _ found _ => found⟩

theorem casApply_spares (indexed : Indexed repo store)
    (passes : Passes repo.lua store (repo.casCall state expected session previous) previousOwner accounts)
    (free : ∀ key ∈ accountKeys state, ∀ entry, accounts key = some entry →
      conflicts repo.lua (repo.casCall state expected session previous) entry.value = false) :
    Spares state.room.publicId store.accounts
      (casApply store (repo.casCall state expected session previous) previousOwner accounts).accounts := by
  obtain ⟨own, spares⟩ := passes.spares indexed
  apply (spares.trans (dropOwned_spares own previous accounts)).trans
  apply claimAll_spares
  intro key member entry found
  exact not_foreign_of_free (free key member entry (dropOwned_eq_some found))

end

section

variable {repo : Repository Blob}

section

variable {store : Store Blob} (indexed : Indexed repo store)
include indexed

theorem Indexed.casApply
    (passes : Passes repo.lua store (repo.casCall state expected session previous) previousOwner accounts)
    (free : ∀ key ∈ accountKeys state, ∀ entry, accounts key = some entry →
      conflicts repo.lua (repo.casCall state expected session previous) entry.value = false) :
    Indexed repo (casApply store (repo.casCall state expected session previous) previousOwner accounts) := by
  intro room entry found
  by_cases same : room = state.room.publicId
  · subst same
    obtain rfl : (⟨repo.encode state.sanitized, state.expiresAt.millis⟩ : Entry Blob) = entry := by
      simpa [casCall] using found
    refine ⟨state.sanitized, rfl, rfl, fun key member => ?_⟩
    exact congrArg (Option.map _) (claimAll_member member (ownerOf state) state.expiresAt.millis _)
  · have before : store.rooms room = some entry := by simpa [casCall, same] using found
    exact (indexed room entry before).spared same (casApply_spares indexed passes free)

theorem Indexed.cas (uncontested : Uncontested repo store (repo.casCall state expected session previous)) :
    Indexed repo (cas repo.lua store (repo.casCall state expected session previous)).2 := by
  rcases cas_cases repo.lua store (repo.casCall state expected session previous) with
    ⟨refusal, ran⟩ | ⟨previousOwner, accounts, passes,
      ⟨ran, key, member, entry, found, conflict⟩ | ⟨ran, free⟩⟩
  · rw [ran]
    exact indexed
  · rw [ran]
    cases passes with
    | vacant => exact indexed
    | supersedes _ creating stored decoded numbered higher =>
      have free := uncontested creating _ stored _ decoded _ numbered higher key member entry found
      rw [free] at conflict
      cases conflict
    | current => exact indexed
  · rw [ran]
    exact indexed.casApply passes free

theorem Indexed.remove (publicId revision : Nat) (session : Uuid) (current : Option RoomState) :
    Indexed repo (remove repo.lua store (removeCall publicId revision session current)).2 := by
  rcases remove_cases repo.lua store (removeCall publicId revision session current) with
    ⟨status, ran, _⟩ | ⟨_, _, _, _, _, _, ran⟩
  · rw [ran]
    exact indexed
  rw [ran]
  intro room entry found
  by_cases same : room = publicId
  · simp [removeCall, same] at found
  · have before : store.rooms room = some entry := by simpa [removeCall, same] using found
    apply (indexed room entry before).spared same
    cases current with
    | none => exact fun _ _ found _ => found
    | some state => exact dropOwned_spares (owner_not_foreign publicId _ session) _ _

theorem Indexed.named (stored : content repo room store = some state) : state.room.publicId = room ∧
    ∀ key ∈ accountKeys state, (store.accounts key).map (·.value) = some (ownerOf state) := by
  obtain ⟨entry, found, decoded⟩ := bind_eq_some_iff.mp stored
  obtain ⟨encoded, written, keyed, accounts⟩ := indexed room entry found
  rw [written, repo.decode_encode] at decoded
  cases decoded
  exact ⟨keyed, accounts⟩

theorem Indexed.deleteAccount
    (unseated : ∀ room state, content repo room store = some state → key ∉ accountKeys state) :
    Indexed repo { store with accounts := Function.update store.accounts key none } := by
  intro room entry found
  obtain ⟨state, written, keyed, accounts⟩ := indexed room entry found
  refine ⟨state, written, keyed, fun other member => ?_⟩
  have different : other ≠ key := by
    rintro rfl
    have decoded : content repo room store = some state.sanitized := by
      rw [content, show store.rooms room = some entry from found, bind_some, written, repo.decode_encode]
      rfl
    exact unseated room _ decoded member
  simpa [Function.update_of_ne different] using accounts other member

end

end

/-- Every write and every removal has the arguments of the repository. -/
def AllowedCall (repo : Repository Blob) (_ : Task) (_ : List (RedisEvent Blob)) : Command Blob → Prop
  | .cas call => ∃ state expected session previous, call = repo.casCall state expected session previous
  | .remove call => ∃ publicId revision session current, call = removeCall publicId revision session current
  | _ => True

theorem body_calls (repo : Repository Blob) (task : Task) :
    (repo.body task).Keeps (AllowedCall repo task) (fun _ _ => True) [] := by
  apply (body_keeps repo task).weaken
  intro seen command permitted
  cases command with
  | cas call => exact permitted.made
  | remove call =>
    obtain ⟨publicId, revision, session, current, same, _⟩ := permitted
    exact ⟨publicId, revision, session, current, same⟩
  | _ => trivial

theorem indexing_disciplined (repo : Repository Blob) :
    (indexing repo).Disciplined (AllowedCall repo) (fun store _ => Indexed repo store) where
  kept := body_calls repo
  moves := by
    intro store trace task seen command indexed _ allowed permitted
    cases command with
    | cas call =>
      obtain ⟨state, expected, session, previous, rfl⟩ := allowed
      exact indexed.cas permitted
    | remove call =>
      obtain ⟨publicId, revision, session, current, rfl⟩ := allowed
      exact indexed.remove publicId revision session current
    | deleteAccount key => exact indexed.deleteAccount permitted
    | _ => exact indexed
  disturbed := by
    rintro store after _ indexed ⟨rooms, accounts⟩ room entry found
    rw [rooms] at found
    rw [accounts]
    exact indexed room entry found

/-- In every run in which no entry is deleted for a seated account and no room is
superseded by one whose accounts are taken, the index of every seated account names
its room's owner, and no account sits in two rooms. -/
theorem rooms_indexed (repo : Repository Blob) (store : Store Blob) (initially : Indexed repo store)
    (system : RedisSystem Blob) (reached : (indexing repo).Reachable store system) (room : Nat)
    (state : RoomState) (stored : content repo room system.store = some state) (account : Nat)
    (seated : account ∈ accountsOf state.slots) :
    (system.store.accounts (toString account)).map (·.value) = some (ownerOf state) ∧
      ∀ other otherState, content repo other system.store = some otherState →
        account ∈ accountsOf otherState.slots → other = room := by
  have indexed := ((indexing_disciplined repo).holds initially reached).1
  have names : ∀ room state, content repo room system.store = some state → account ∈ accountsOf state.slots →
    (system.store.accounts (toString account)).map (·.value) = some (ownerOf state) :=
    fun room state stored seated => (indexed.named stored).2 _ (List.mem_map_of_mem seated)
  refine ⟨names room state stored seated, fun other otherState alsoStored alsoSeated => ?_⟩
  have same : ownerOf otherState = ownerOf state :=
    some.inj ((names other otherState alsoStored alsoSeated).symm.trans (names room state stored seated))
  have publics := congrArg tokenPublic same
  rw [ownerOf, ownerOf, tokenPublic_owner, tokenPublic_owner] at publics
  rw [← (indexed.named alsoStored).1, ← (indexed.named stored).1]
  exact Text.toString_injective publics

theorem storeOf_indexed (state : RoomState) : Indexed plainRepo (storeOf state) := by
  intro room entry found
  simp only [storeOf] at found ⊢
  split at found
  · next same =>
    cases found
    exact ⟨state, rfl, same.symm, fun key member => by simp [member]⟩
  · cases found

/-- A lookup reads the index of the guest; the guest leaves, the lookup reads the room,
the guest joins again, and the lookup deletes the entry it has judged stale. -/
def deletedIndex : RedisSystem RoomState :=
  [.start 0 (.findForAccount 2 0), .move 0,
    .start 1 (.leave 5 2 (some sampleRoom)), .move 1, .move 1, .move 1, .move 1, .move 1, .move 1,
    .move 0,
    .start 2 (.join sampleRoom 2 (.aware 100)), .move 2, .move 2, .move 2, .move 2,
    .move 0].foldl (plainRepo.unguarded.play fun _ _ _ => true) (.initial (storeOf idleState))

/-- The guest sits in the room without an index entry. -/
theorem deletedIndex_unindexed : Indexed plainRepo (storeOf idleState) ∧
    plainRepo.unguarded.Reachable (storeOf idleState) deletedIndex ∧
    (content plainRepo 5 deletedIndex.store).map (fun state => accountsOf state.slots) =
    some [1, 2] ∧ (deletedIndex.store.accounts "2").isNone = true :=
  ⟨storeOf_indexed idleState, .plays (fun _ _ _ _ => trivial) .initial _, by decide, by decide⟩

/-- Calls that delete no index entry and bring no account that is taken. -/
def uncontested (store : Store RoomState) (_ : Task) : Command RoomState → Bool
  | .deleteAccount _ => false
  | .cas call => decide (Uncontested plainRepo store call)
  | _ => true

theorem uncontested_permitted (store : Store RoomState) (task : Task) (command : Command RoomState)
    (passes : uncontested store task command = true) : (indexing plainRepo).guard store task command := by
  cases command with
  | deleteAccount key => cases passes
  | cas call =>
    have free : Uncontested plainRepo store call := of_decide_eq_true passes
    exact free
  | _ => trivial

def secondState : RoomState :=
  { idleState with
    room := { sampleRoom with publicIdEpoch := 2, sessionId := sampleRound, positive := by decide } }

/-- The host is looked up while another process creates the room anew. -/
def secondRun : RedisSystem RoomState :=
  [.start 0 (.findForAccount 1 0), .start 1 (.create secondState), .move 0, .move 1, .move 1,
    .move 1, .move 0, .move 1, .move 1].foldl ((indexing plainRepo).play uncontested)
    (.initial (storeOf idleState))

theorem secondRun_indexed : ∃ state, content plainRepo 5 secondRun.store = some state ∧
    state.room.publicIdEpoch = 2 ∧ accountsOf state.slots = [1, 2] ∧
    (secondRun.store.accounts "1").map (·.value) = some (ownerOf state) := by
  have created : (content plainRepo 5 secondRun.store).map (fun state =>
      (state.room.publicIdEpoch, accountsOf state.slots)) = some (2, [1, 2]) := by decide +kernel
  obtain ⟨state, stored, seated⟩ := map_eq_some_iff.mp created
  obtain ⟨epoch, accounts⟩ := Prod.mk.inj seated
  refine ⟨state, stored, epoch, accounts, ?_⟩
  exact (rooms_indexed plainRepo (storeOf idleState) (storeOf_indexed idleState) secondRun
    (.plays uncontested_permitted .initial _) 5 state stored 1 (by simp [accounts])).1

end Perfcho.Redis
