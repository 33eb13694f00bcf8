import Perfcho.Realtime.Currency

/-! The expiry that opening or renewing a session returns, handed on to the presence and
the frames of the client. -/

namespace Perfcho.Realtime

open Foundation Keyspace Call

variable {lua : Lua} {limits : Limits} {store : Store}

/-- A call, or time that passes. A client stores its presence with the expiry that its
session was opened or renewed with last. -/
inductive Handed (lua : Lua) (limits : Limits) : Store → Store → Prop where
  | call {store : Store} (call : Call) (hands : ∀ presence, call = .setPresence presence → ∀ expiry durable,
      sessionStatus store presence.account presence.epoch store.clock = .ok (expiry, durable) →
      presence.expiry = expiry) :
      Handed lua limits store (call.run lua limits store)
  | advance {store : Store} (now : Nat) (later : store.clock ≤ now) :
      Handed lua limits store (store.advance now)

/-- No session lasts longer than a presence may, and none longer than the presence of its epoch. -/
structure Lasting (limits : Limits) (store : Store) : Prop where
  timely : ∀ {key session}, store.sessions key = some session →
    session.value.expiresAt ≤ store.clock + limits.presenceTtl
  matched : ∀ {account presence session}, store.presences account = some presence →
    store.sessions presence.value.epoch.session = some session → session.value.account = account →
    session.value.revision = presence.value.epoch.revision →
    session.value.expiresAt ≤ presence.value.expiresAt

section

variable (lasting : Lasting limits store)

include lasting

theorem Lasting.fewer (clock : store.clock ≤ after.clock)
    (sessions : ∀ key session, after.sessions key = some session → store.sessions key = some session)
    (presences : ∀ key presence, after.presences key = some presence →
      store.presences key = some presence) : Lasting limits after :=
  ⟨fun stored => (lasting.timely (sessions _ _ stored)).trans (Nat.add_le_add_right clock _),
    fun shown stored => lasting.matched (presences _ _ shown) (sessions _ _ stored)⟩

theorem Lasting.opened (within : limits.sessionTtl ≤ limits.presenceTtl)
    (opened : Opened lua limits call store after revision expiry) : Lasting limits after := by
  refine ⟨fun {key session} stored => ?_, fun {account presence session} shown stored owner => ?_⟩
  · rw [opened.clock]
    by_cases same : key = call.session
    · rw [same, opened.opened] at stored
      cases stored
      exact opened.within.trans (Nat.add_le_add_left within _)
    · exact lasting.timely (opened.only _ _ same stored)
  · rw [opened.presences] at shown
    obtain ⟨different, shown⟩ := of_drop shown
    by_cases same : presence.value.epoch.session = call.session
    · rw [same, opened.opened] at stored
      cases stored
      exact absurd owner.symm different
    · exact lasting.matched shown (opened.only _ _ same stored) owner

theorem Lasting.renewed (within : limits.sessionTtl ≤ limits.presenceTtl)
    (renewed : Renewed limits call store after expiry) : Lasting limits after := by
  obtain ⟨current, durable, valid, _, bounded, sessions⟩ := renewed.valid
  obtain ⟨_, held, _⟩ := sessionStatus_eq_ok.mp valid
  obtain ⟨_, held⟩ := get_eq_some.mp held
  have timely : current ≤ _ := lasting.timely held
  have timely : expiry ≤ store.clock + limits.presenceTtl := by omega
  refine ⟨fun {key session} stored => ?_, fun {account presence session} shown stored owner revision => ?_⟩
  · rw [renewed.clock]
    rw [sessions] at stored
    by_cases same : key = call.epoch.session
    · rw [same, put_same] at stored
      cases stored
      exact timely
    · exact lasting.timely ((put_other same).symm.trans stored)
  · rw [sessions] at stored
    by_cases same : presence.value.epoch.session = call.epoch.session
    · rw [same, put_same] at stored
      cases stored
      cases owner
      rcases renewed.presences with ⟨foreign, kept⟩ | ⟨_, _, rfl, _, _, written⟩
      · rw [kept] at shown
        exact absurd (Epoch.mk.injEq .. ▸ ⟨same, revision.symm⟩) (foreign _ (get_eq_some.mpr ⟨_, shown⟩))
      · rw [written, put_same] at shown
        cases shown
        exact (Nat.min_eq_left timely).ge
    · have stored := (put_other same).symm.trans stored
      rcases renewed.presences with ⟨_, kept⟩ | ⟨_, _, _, _, owned, written⟩
      · exact lasting.matched (kept ▸ shown) stored owner revision
      rw [written] at shown
      by_cases here : account = call.account
      · rw [here, put_same] at shown
        cases shown
        exact absurd (congrArg Epoch.session owned) same
      · exact lasting.matched ((put_other here).symm.trans shown) stored owner revision

theorem Lasting.presented (hands : ∀ expiry durable,
    sessionStatus store call.account call.epoch store.clock = .ok (expiry, durable) →
    call.expiry = expiry) : Lasting limits (setPresence limits call store).2 := by
  have touched : Touches [.presences] store (setPresence limits call store).2 := setPresence_touches store
  have sessions := (touched.others .sessions (by simp)).1
  rcases setPresence_cases limits call store with same | ⟨⟨expiry, durable, valid, _⟩, written⟩
  · exact lasting.fewer touched.clock.ge (by simp [sessions]) (by simp [same])
  refine ⟨fun stored => touched.clock ▸ lasting.timely (sessions ▸ stored),
    fun {account _ _} shown stored owner revision => ?_⟩
  rw [sessions] at stored
  rw [written] at shown
  by_cases here : account = call.account
  · rw [here, put_same] at shown
    cases shown
    have same := (get_eq_some.mpr ⟨_, stored⟩).symm.trans (sessionStatus_eq_ok.mp valid).2.1
    exact (congrArg Session.expiresAt (Option.some.inj same)).trans_le (hands _ _ valid).ge
  · exact lasting.matched ((put_other here).symm.trans shown) stored owner revision

theorem Lasting.step (within : limits.sessionTtl ≤ limits.presenceTtl)
    (step : Handed lua limits store after) : Lasting limits after := by
  cases step with
  | call call hands =>
    cases call with
    | openSession call =>
      rcases openSession_cases lua limits call store with ⟨_, refused⟩ | ⟨_, _, _, opened⟩
      · rwa [run, refused]
      · exact lasting.opened within opened
    | heartbeatSession call =>
      rcases heartbeatSession_cases limits call store with ⟨_, refused⟩ | ⟨_, _, renewed⟩
      · rwa [run, refused]
      · exact lasting.renewed within renewed
    | fenceSession account epoch =>
      rcases fenceSession_cases account epoch store with ⟨_, refused⟩ | ⟨_, fenced⟩
      · rwa [run, refused]
      · refine lasting.fewer fenced.clock.ge (fun _ _ stored => ?_) (fun _ _ shown => ?_)
        · exact (of_drop (fenced.sessions ▸ stored)).2
        · exact (of_drop (fenced.presences ▸ shown)).2
    | setPresence call => exact lasting.presented (hands call rfl)
    | clearPresence account epoch =>
      simp only [run, clearPresence]
      split
      · exact lasting.fewer le_rfl (fun _ _ stored => stored) fun _ _ shown => (of_drop shown).2
      · exact lasting
    | _ =>
      refine lasting.fewer (run_touches lua limits store _).clock.ge (fun _ _ stored => ?_)
        (fun _ _ shown => ?_)
      · exact (congrFun ((run_touches lua limits store _).others .sessions (by simp [parts])).1
          _).symm.trans stored
      · exact (congrFun ((run_touches lua limits store _).others .presences (by simp [parts])).1
          _).symm.trans shown
  | advance now later =>
    exact lasting.fewer later (fun _ _ stored => (purge_eq_some.mp stored).1)
      fun _ _ shown => (purge_eq_some.mp shown).1

end

/-- The expiry of a valid session passes the checks of the presence and of the frames. -/
def Accepts (lua : Lua) (limits : Limits) (store : Store) : Prop :=
  ∀ account epoch expiry durable, sessionStatus store account epoch store.clock = .ok (expiry, durable) →
    ∀ state payload capacity sequence reset,
      (setPresence limits ⟨account, epoch, expiry, state, capacity⟩ store).1 ≠ .error .invalidExpiry ∧
        (publishFrame lua limits ⟨account, epoch, sequence, payload, expiry, reset⟩ store).1 ≠
        .error .invalidExpiry

theorem Lasting.accepts (lasting : Lasting limits store) : Accepts lua limits store := by
  intro account epoch expiry durable valid state payload capacity sequence reset
  obtain ⟨_, held, live⟩ := sessionStatus_eq_ok.mp valid
  obtain ⟨_, held⟩ := get_eq_some.mp held
  have timely : expiry ≤ _ := lasting.timely held
  unfold setPresence publishFrame
  simp only [valid]
  constructor
  · rw [if_neg (by omega)]
    split_ifs <;> simp
  cases present : hostPresence store account epoch with
  | none => split_ifs <;> simp
  | some limit =>
    have lasts : expiry ≤ limit := by
      unfold hostPresence at present
      split at present
      · cases present
      · next presence shown =>
        split_ifs at present with ours
        cases present
        obtain ⟨_, shown⟩ := get_eq_some.mp shown
        exact lasting.matched shown (ours.1 ▸ held) rfl (ours.1 ▸ rfl)
    have passes : ¬ (expiry ≤ store.clock ∨ min expiry limit < expiry ∨
      limits.presenceTtl < expiry - store.clock) := by omega
    simp only [if_neg passes]
    generalize (if PublishCall.resets _ store = true then _ else store) = begun
    iterate 4
      split
      · simp
    split
    · next refused =>
      have stored := congrArg Prod.fst refused
      rw [(storeFrame_ok ..).1] at stored
      cases stored
    · simp

def fullCall (limits : Limits) : OpenCall := ⟨"1", sampleSession 7, limits.sessionTtl, limits.sessionTtl⟩

/-- Clients that hand on what they were given are never refused for it exactly when a
session is given no more time than a presence may have. -/
theorem deadlines_accepted_iff (lua : Lua) (limits : Limits) :
    (∀ clock store, Relation.ReflTransGen (Handed lua limits) (.empty clock) store →
      Accepts lua limits store) ↔
      limits.sessionTtl ≤ limits.presenceTtl := by
  constructor
  · intro always
    by_contra longer
    have ran : (openSession lua limits (fullCall limits) (.empty 0)).1 =
      .ok (lua.tostring 1, limits.sessionTtl) := by
      simp [openSession, fullCall, Store.empty, Keyspace.get, maxRevision, limits.sessionTtl_pos.ne']
    rcases openSession_cases lua limits (fullCall limits) (.empty 0) with ⟨_, refused⟩ | ⟨revision,
      expiry, given, opened⟩
    · rw [refused] at ran
      cases ran
    obtain rfl : revision = 1 := opened.next
    cases given.symm.trans ran
    have accepts := always 0 _ (.single (.call (.openSession (fullCall limits)) (by simp))) "1"
      ⟨sampleSession 7, lua.tostring 1⟩
    simp only [run] at accepts
    generalize (openSession lua limits (fullCall limits) (.empty 0)).2 = after at opened accepts
    have valid : sessionStatus after "1" ⟨sampleSession 7, lua.tostring 1⟩ after.clock =
      .ok (limits.sessionTtl, limits.sessionTtl) := by
      refine sessionStatus_eq_ok.mpr ⟨?_, ?_, opened.clock ▸ opened.live⟩
      · exact opened.epochs ▸ congrArg (Option.map Timed.value) put_same
      · rw [Keyspace.get, show after.sessions (sampleSession 7) = _ from opened.opened,
          lua.argument_full 1 (by decide), lua.tostring_full 1 (by decide)]
        rfl
    refine (accepts _ _ valid [] [] 0 0 false).1 ?_
    unfold setPresence
    simp only [valid]
    refine congrArg Prod.fst (if_pos (.inr (.inr ?_)))
    rw [opened.clock]
    exact Nat.lt_of_not_le longer
  · intro within clock store run
    have lasting : Lasting limits store := by
      induction run with
      | refl => exact ⟨by simp [Store.empty], by simp [Store.empty]⟩
      | tail _ step ih => exact ih.step within step
    exact lasting.accepts

/-- Sessions of two minutes and presences of one. -/
def longLimits : Limits :=
  { sampleLimits with
    sessionTtl := 120000, sessionTtl_pos := Nat.succ_pos _
    presenceTtl := 60000, presenceTtl_pos := Nat.succ_pos _ }

/-- A client logs in and is refused when it stores its presence with the expiry it was given. -/
theorem longSession_refused : Relation.ReflTransGen (Handed fullLua longLimits) (.empty 0)
      (openSession fullLua longLimits (fullCall longLimits) (.empty 0)).2 ∧
    (openSession fullLua longLimits (fullCall longLimits) (.empty 0)).1 = .ok ("1", 120000) ∧
    (setPresence longLimits ⟨"1", SessionFence (sampleSession 7) 1, 120000, [], 0⟩
      (openSession fullLua longLimits (fullCall longLimits) (.empty 0)).2).1 = .error .invalidExpiry :=
  ⟨.single (.call (.openSession (fullCall longLimits)) nofun), rfl, rfl⟩

end Perfcho.Realtime
