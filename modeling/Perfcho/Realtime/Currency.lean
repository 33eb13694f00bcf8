import Perfcho.Realtime.Calls

/-! At most one epoch of an account is valid, and one that has stopped being valid never
is again: a session's revisions are counted for as long as the session can be opened. -/

namespace Perfcho.Realtime

open Foundation Keyspace Option Nat

variable {lua : Lua} {limits : Limits} {durable : Uuid → Nat} {store : Store}

/-- A session is opened with one durable expiry only. -/
def Dated (durable : Uuid → Nat) : Call → Prop
  | .openSession call => call.durableExpiry = durable call.session
  | _ => True

/-- Whether a session and a revision are valid for an account now. -/
def Passes (store : Store) (account : String) (session : Uuid) (revision : Nat) : Prop :=
  ∃ expiry durable, sessionStatus store account (SessionFence session revision) store.clock =
    .ok (expiry, durable)

/-- A revision of a session that was given out: the counter is no lower, or the session
can no longer be opened. -/
def Spent (lua : Lua) (durable : Uuid → Nat) (store : Store) (epoch : Epoch) : Prop :=
  ∃ revision, epoch.revision = lua.tostring revision ∧
    ((∃ counted, store.revisions epoch.session = some ⟨counted, durable epoch.session⟩ ∧ revision ≤ counted) ∨
      durable epoch.session ≤ store.clock)

theorem Spent.of_same (spent : Spent lua durable store epoch) (clock : after.clock = store.clock)
    (revisions : after.revisions = store.revisions) : Spent lua durable after epoch := by
  unfold Spent
  rw [clock, revisions]
  exact spent

theorem Spent.opened (spent : Spent lua durable store epoch)
    (dated : call.durableExpiry = durable call.session)
    (opened : Opened lua limits call store after revision expiry) : Spent lua durable after epoch := by
  obtain ⟨number, text, bounded⟩ := spent
  refine ⟨number, text, ?_⟩
  rw [opened.clock, opened.revisions]
  by_cases same : epoch.session = call.session
  · rcases bounded with ⟨counted, found, bounded⟩ | past
    · left
      rw [same, put_same, dated]
      refine ⟨revision, rfl, ?_⟩
      rw [same] at found
      rw [opened.next, get_eq_some.mpr ⟨_, found⟩]
      exact bounded.trans (le_succ _)
    · exact .inr past
  · rw [put_other same]
    exact bounded

theorem Spent.advance (spent : Spent lua durable store epoch) (later : store.clock ≤ now) :
    Spent lua durable (store.advance now) epoch := by
  obtain ⟨revision, text, ⟨counted, found, bounded⟩ | past⟩ := spent
  · by_cases live : now < durable epoch.session
    · exact ⟨revision, text, .inl ⟨counted, purge_eq_some.mpr ⟨found, live⟩, bounded⟩⟩
    · exact ⟨revision, text, .inr (Nat.le_of_not_lt live)⟩
  · exact ⟨revision, text, .inr (past.trans later)⟩

theorem Spent.step (spent : Spent lua durable store epoch)
    (step : Step lua limits (Dated durable) store after) : Spent lua durable after epoch := by
  cases step with
  | call call dated =>
    rcases call.run_cases lua limits store with ⟨parts, outside, touches⟩ | ⟨opening, _, _, rfl,
      opened⟩ | ⟨_, _, rfl, renewed⟩ | ⟨_, _, rfl, fenced⟩
    · exact spent.of_same touches.clock (touches.others _ outside).2.2
    · exact spent.opened dated opened
    · exact spent.of_same renewed.clock renewed.revisions
    · exact spent.of_same fenced.clock fenced.revisions
  | advance now later => exact spent.advance later

theorem Spent.runs (spent : Spent lua durable store epoch)
    (runs : Runs lua limits (Dated durable) store after) : Spent lua durable after epoch := by
  induction runs with
  | refl => exact spent
  | tail _ step ih => exact ih.step step

theorem Opened.fresh (opened : Opened lua limits call store after revision expiry)
    (dated : call.durableExpiry = durable call.session)
    (spent : Spent lua durable store (SessionFence session number)) :
    SessionFence session number ≠ ⟨call.session, lua.tostring revision⟩ := by
  intro same
  obtain ⟨rfl, text⟩ := Epoch.mk.inj same
  obtain rfl := lua.tostring_exact text.symm
  obtain ⟨counted, given, ⟨counter, found, bounded⟩ | past⟩ := spent
  · obtain rfl := lua.tostring_exact given.symm
    have next := opened.next
    have counter : store.revisions.get call.session = some _ := get_eq_some.mpr ⟨_, found⟩
    rw [counter, getD_some] at next
    omega
  · have live := opened.live
    have bounded := opened.bounded
    have past : durable call.session ≤ store.clock := past
    omega

/-- Only the epochs that were given out are current. -/
def Counted (lua : Lua) (durable : Uuid → Nat) (store : Store) : Prop :=
  ∀ account epoch, store.epochs.get account = some epoch → Spent lua durable store epoch

/-- A step makes an epoch current only by giving it out. -/
theorem Step.current_cases (step : Step lua limits (Dated durable) store after)
    (found : after.epochs.get account = some epoch) :
    store.epochs.get account = some epoch ∨ ∃ call revision expiry,
      call.durableExpiry = durable call.session ∧ epoch = ⟨call.session, lua.tostring revision⟩ ∧
      Opened lua limits call store after revision expiry := by
  cases step with
  | call call dated =>
    rcases call.run_cases lua limits store with ⟨parts, outside, touches⟩ | ⟨opening, revision,
      expiry, rfl, opened⟩ | ⟨beat, expiry, rfl, renewed⟩ | ⟨fencing, old, rfl, fenced⟩
    · rw [(touches.others _ outside).2.1] at found
      exact .inl found
    · by_cases same : account = opening.account
      · subst same
        rw [opened.epochs, Keyspace.get, put_same] at found
        exact .inr ⟨opening, revision, expiry, dated, (some.inj found).symm, opened⟩
      · rw [opened.epochs, Keyspace.get, put_other same] at found
        exact .inl found
    · rw [renewed.epochs] at found
      left
      by_cases same : account = beat.account
      · subst same
        simpa [Keyspace.get] using found
      · rwa [Keyspace.get, Keyspace.touch_other same] at found
    · rw [fenced.epochs] at found
      obtain ⟨deadline, found⟩ := get_eq_some.mp found
      exact .inl (get_eq_some.mpr ⟨deadline, (of_drop found).2⟩)
  | advance now later =>
    obtain ⟨deadline, found⟩ := get_eq_some.mp found
    exact .inl (get_eq_some.mpr ⟨deadline, (purge_eq_some.mp found).1⟩)

theorem Counted.step (counted : Counted lua durable store)
    (step : Step lua limits (Dated durable) store after) : Counted lua durable after := by
  intro account epoch found
  rcases step.current_cases found with current | ⟨call, revision, expiry, dated, rfl, opened⟩
  · exact (counted account epoch current).step step
  · refine ⟨revision, rfl, .inl ⟨revision, ?_, le_refl _⟩⟩
    rw [opened.revisions, put_same, dated]

theorem Counted.runs (runs : Runs lua limits (Dated durable) (.empty clock) store) :
    Counted lua durable store := by
  induction runs with
  | refl => exact fun _ _ found => nomatch found
  | tail _ step ih => exact ih.step step

/-- A step makes no epoch valid that was given out before. -/
theorem Passes.before (passes : Passes after account session revision)
    (step : Step lua limits (Dated durable) store after)
    (spent : Spent lua durable store (SessionFence session revision)) :
    Passes store account session revision := by
  obtain ⟨limit, record, valid⟩ := passes
  obtain ⟨current, found, live⟩ := sessionStatus_eq_ok.mp valid
  change after.sessions.get session = some ⟨account, toString revision, limit, record⟩ at found
  suffices earlier : ∃ expiry record, store.epochs.get account = some (SessionFence session revision) ∧
    store.sessions.get session = some ⟨account, toString revision, expiry, record⟩ ∧ store.clock < expiry by
    obtain ⟨expiry, record, facts⟩ := earlier
    exact ⟨expiry, record, sessionStatus_eq_ok.mpr facts⟩
  cases step with
  | call call dated =>
    rcases call.run_cases lua limits store with ⟨parts, outside, touches⟩ | ⟨opening, number,
      expiry, rfl, opened⟩ | ⟨beat, expiry, rfl, renewed⟩ | ⟨fencing, old, rfl, fenced⟩
    · obtain ⟨sessions, epochs, _⟩ := touches.others _ outside
      rw [epochs] at current
      rw [sessions] at found
      rw [touches.clock] at live
      exact ⟨limit, record, current, found, live⟩
    · -- The account that opens has a new epoch; another one keeps its epoch and its session.
      rw [opened.epochs] at current
      by_cases same : account = opening.account
      · subst same
        simp only [Keyspace.get, put_same, map_some, some.injEq] at current
        exact absurd current.symm (opened.fresh dated spent)
      · rw [Keyspace.get, put_other same] at current
        obtain ⟨deadline, found⟩ := get_eq_some.mp found
        have different : session ≠ opening.session := by
          rintro rfl
          rw [opened.opened] at found
          exact same (congrArg (·.value.account) (some.inj found)).symm
        rw [opened.clock] at live
        exact ⟨limit, record, current, get_eq_some.mpr ⟨deadline, opened.only _ _ different found⟩, live⟩
    · obtain ⟨present, dated, valid, _, _, sessions⟩ := renewed.valid
      obtain ⟨holder, stored, early⟩ := sessionStatus_eq_ok.mp valid
      have kept : store.epochs.get account = some (SessionFence session revision) := by
        rw [renewed.epochs] at current
        by_cases same : account = beat.account
        · subst same
          simpa [Keyspace.get] using current
        · rwa [Keyspace.get, Keyspace.touch_other same] at current
      by_cases same : session = beat.epoch.session
      · subst same
        rw [sessions, Keyspace.get, put_same] at found
        obtain ⟨rfl, text, -, -⟩ := Session.mk.inj (some.inj found)
        rw [text] at stored
        exact ⟨present, dated, kept, stored, early⟩
      · rw [sessions, Keyspace.get, put_other same] at found
        rw [renewed.clock] at live
        exact ⟨limit, record, kept, found, live⟩
    · rw [fenced.epochs] at current
      rw [fenced.sessions] at found
      obtain ⟨_, current⟩ := get_eq_some.mp current
      obtain ⟨_, found⟩ := get_eq_some.mp found
      rw [fenced.clock] at live
      exact ⟨limit, record, get_eq_some.mpr ⟨_, (of_drop current).2⟩,
        get_eq_some.mpr ⟨_, (of_drop found).2⟩, live⟩
  | advance now later =>
    obtain ⟨_, current⟩ := get_eq_some.mp current
    obtain ⟨_, found⟩ := get_eq_some.mp found
    exact ⟨limit, record, get_eq_some.mpr ⟨_, (purge_eq_some.mp current).1⟩,
      get_eq_some.mpr ⟨_, (purge_eq_some.mp found).1⟩, lt_of_le_of_lt later live⟩

theorem Passes.before_runs (passes : Passes after account session revision)
    (runs : Runs lua limits (Dated durable) store after)
    (spent : Spent lua durable store (SessionFence session revision)) :
    Passes store account session revision := by
  induction runs with
  | refl => exact passes
  | tail earlier step ih => exact ih (passes.before step (spent.runs earlier))

theorem Passes.current (passes : Passes store account session revision) :
    store.epochs.get account = some (SessionFence session revision) := by
  obtain ⟨_, _, valid⟩ := passes
  exact (sessionStatus_eq_ok.mp valid).1

/-- In every run at most one session and revision of an account is valid, and one that has
stopped being valid, by a later open of the account, by a fence or by its expiry, is
never valid again. -/
theorem passes_once (reached : Runs lua limits (Dated durable) (.empty clock) store) :
    (∀ account session revision other number, Passes store account session revision →
      Passes store account other number → session = other ∧ revision = number) ∧
    (∀ account session revision later final, Passes store account session revision →
      Runs lua limits (Dated durable) store later → ¬ Passes later account session revision →
      Runs lua limits (Dated durable) later final → ¬ Passes final account session revision) ∧
    (∀ call answer session revision final, Dated durable (.openSession call) →
      (openSession lua limits call store).1 = .ok answer → Passes store call.account session revision →
      Runs lua limits (Dated durable) (openSession lua limits call store).2 final →
      ¬ Passes final call.account session revision) ∧
    (∀ account session revision final,
      (fenceSession account (SessionFence session revision) store).1 = .ok () →
      Runs lua limits (Dated durable) (fenceSession account (SessionFence session revision) store).2 final →
      ¬ Passes final account session revision) := by
  have given : ∀ {account session revision}, Passes store account session revision →
    Spent lua durable store (SessionFence session revision) :=
    fun passes => Counted.runs reached _ _ passes.current
  refine ⟨?_, ?_, ?_, ?_⟩
  · intro account session revision other number first second
    have same := some.inj (first.current.symm.trans second.current)
    obtain ⟨rfl, text⟩ := Epoch.mk.inj same
    exact ⟨rfl, Text.toString_injective text⟩
  · intro account session revision later final passes onward stopped further again
    exact stopped (again.before_runs further ((given passes).runs onward))
  · intro call answer session revision final dated answered passes onward again
    rcases openSession_cases lua limits call store with ⟨refusal, refused⟩ | ⟨number, expiry, _, opened⟩
    · rw [refused] at answered
      cases answered
    · have spent := given passes
      have current := (again.before_runs onward (spent.opened dated opened)).current
      rw [opened.epochs, Keyspace.get, put_same] at current
      exact opened.fresh dated spent (some.inj current).symm
  · intro account session revision final answered onward again
    rcases fenceSession_cases account (SessionFence session revision) store with ⟨refusal,
      refused⟩ | ⟨_, fenced⟩
    · rw [refused] at answered
      cases answered
    · obtain ⟨expiry, record, valid⟩ := fenced.valid
      have spent := (given ⟨expiry, record, valid⟩).of_same fenced.clock fenced.revisions
      have current := (again.before_runs onward spent).current
      rw [fenced.epochs, Keyspace.get, Keyspace.drop_same] at current
      cases current

def sampleLimits : Limits :=
  ⟨100, 100, 2, 10, 4, 4, succ_pos _, succ_pos _, succ_pos _, succ_pos _, succ_pos _, succ_pos _⟩

def sampleSession (number : UInt8) : Uuid := ⟨List.replicate 16 number, List.length_replicate⟩

def sampleOpen (account : String) (number : UInt8) : OpenCall := ⟨account, sampleSession number, 50, 1000⟩

def openedStore : Store := (openSession fullLua sampleLimits (sampleOpen "1" 7) (.empty 0)).2

theorem openedStore_reached : Runs fullLua sampleLimits (Dated fun _ => 1000) (.empty 0) openedStore :=
  .single (.call (.openSession (sampleOpen "1" 7)) rfl)

theorem openedStore_passes : Passes openedStore "1" (sampleSession 7) 1 := ⟨50, 1000, rfl⟩

/-- The first revision of a session is never valid after the session has been opened again. -/
theorem reopened_fences : Passes openedStore "1" (sampleSession 7) 1 ∧
    ∀ final, Runs fullLua sampleLimits (Dated fun _ => 1000)
      (openSession fullLua sampleLimits (sampleOpen "1" 7) openedStore).2 final →
        ¬ Passes final "1" (sampleSession 7) 1 := by
  have answered : (openSession fullLua sampleLimits (sampleOpen "1" 7) openedStore).1 = .ok ("2", 50) := by
    rfl
  exact ⟨openedStore_passes, fun final onward =>
    (passes_once openedStore_reached).2.2.1 (sampleOpen "1" 7) _ _ _ final rfl answered
      openedStore_passes onward⟩

end Perfcho.Realtime
