import Perfcho.Realtime.Relations

/-! What an epoch owns. Once it has been superseded or fenced, nothing that is read shows
it, and a call that quotes it changes nothing that the next epoch of its account owns. -/

namespace Perfcho.Realtime

open Foundation Keyspace Option

variable {lua : Lua} {limits : Limits} {store : Store} {account : String} {epoch : Epoch}

/-- The accounts and epochs that a call quotes. -/
def Call.quotes : Call → List (String × Epoch)
  | openSession _ | listChannel _ => []
  | heartbeatSession call => [(call.account, call.epoch)]
  | setPresence call => [(call.account, call.epoch)]
  | fenceSession account epoch | clearPresence account epoch | setPreference account epoch _ _
  | joinChannel account epoch _ | leaveChannel account epoch _ | getSpectator account epoch _
  | listSpectators account epoch _ | readFrames account epoch _ _ _ => [(account, epoch)]
  | attachSpectator call => [(call.host, call.hostEpoch), (call.spectator, call.spectatorEpoch)]
  | detachSpectator call => [(call.host, call.hostEpoch), (call.spectator, call.spectatorEpoch)]
  | publishFrame call => [(call.host, call.epoch)]

/-- Every presence is one of the current epoch of its account, which is no shorter. -/
def Presented (store : Store) : Prop :=
  ∀ ⦃account presence deadline⦄, store.presences account = some ⟨presence, deadline⟩ →
    ∃ limit, deadline ≤ limit ∧ store.epochs account = some ⟨presence.epoch, limit⟩

theorem Presented.current (presented : Presented store)
    (found : store.presences.get account = some presence) :
    store.epochs.get account = some presence.epoch := by
  obtain ⟨deadline, stored⟩ := get_eq_some.mp found
  obtain ⟨limit, _, current⟩ := presented stored
  exact get_eq_some.mpr ⟨limit, current⟩

section

variable (presented : Presented store)
include presented

theorem Presented.of_same (presences : after.presences = store.presences)
    (epochs : after.epochs = store.epochs) : Presented after := by
  unfold Presented
  rw [presences, epochs]
  exact presented

theorem Presented.drop (presences : after.presences = store.presences.drop account)
    (epochs : ∀ other, other ≠ account → after.epochs other = store.epochs other) : Presented after := by
  intro other presence deadline stored
  rw [presences] at stored
  obtain ⟨different, stored⟩ := of_drop stored
  rw [epochs other different]
  exact presented stored

theorem Presented.put (presences : after.presences = store.presences.put account presence deadline)
    (current : after.epochs account = some ⟨presence.epoch, limit⟩) (bounded : deadline ≤ limit)
    (epochs : ∀ other, other ≠ account → after.epochs other = store.epochs other) : Presented after := by
  intro other found lasts stored
  rw [presences] at stored
  by_cases same : other = account
  · subst same
    rw [put_same] at stored
    cases stored
    exact ⟨limit, bounded, current⟩
  · rw [put_other same] at stored
    rw [epochs other same]
    exact presented stored

theorem Presented.setPresence (paired : Paired store) : Presented (setPresence limits call store).2 := by
  have same := (setPresence_touches store : Touches [.presences] store
    (Realtime.setPresence limits call store).2)
  have epochs := (same.others .sessions (by simp)).2.1
  rcases setPresence_cases limits call store with kept | ⟨⟨current, durable, valid, bounded⟩, written⟩
  · exact presented.of_same kept epochs
  · exact presented.put written (epochs ▸ paired.valid valid) bounded fun other _ => congrFun epochs other

theorem Presented.clearPresence : Presented (clearPresence account epoch store).2 := by
  unfold Realtime.clearPresence
  split
  · exact presented.drop rfl fun _ _ => rfl
  · exact presented

theorem Presented.renewed (paired : Paired store)
    (renewed : Renewed limits call store after expiry) : Presented after := by
  obtain ⟨present, durable, valid, later, _, _⟩ := renewed.valid
  have held := paired.valid valid
  have here : after.epochs call.account = some ⟨call.epoch, expiry⟩ := by
    rw [renewed.epochs, touch_same, held]
    rfl
  have elsewhere : ∀ other, other ≠ call.account → after.epochs other = store.epochs other :=
    fun other different => by
    rw [renewed.epochs, touch_other different]
  rcases renewed.presences with ⟨_, same⟩ | ⟨presence, deadline, rfl, _, owned, written⟩
  · intro account presence deadline stored
    rw [same] at stored
    obtain ⟨limit, bounded, current⟩ := presented stored
    by_cases owner : account = call.account
    · subst owner
      rw [held] at current
      obtain ⟨same, rfl⟩ := Timed.mk.inj (some.inj current)
      exact ⟨expiry, bounded.trans later, same ▸ here⟩
    · exact ⟨limit, bounded, (elsewhere account owner).trans current⟩
  · exact presented.put written (owned ▸ here) (Nat.min_le_left _ _) elsewhere

theorem Presented.step (paired : Paired store) (step : Step lua limits allowed store after) :
    Presented after := by
  cases step with
  | call call _ =>
    cases call with
    | openSession call =>
      rcases openSession_cases lua limits call store with ⟨refusal, refused⟩ | ⟨_, _, _, opened⟩
      · rwa [Call.run, refused]
      · exact presented.drop opened.presences fun other different =>
          (congrFun opened.epochs other).trans (put_other different)
    | heartbeatSession call =>
      rcases heartbeatSession_cases limits call store with ⟨refusal, refused⟩ | ⟨_, _, renewed⟩
      · rwa [Call.run, refused]
      · exact presented.renewed paired renewed
    | fenceSession account epoch =>
      rcases fenceSession_cases account epoch store with ⟨refusal, refused⟩ | ⟨_, fenced⟩
      · rwa [Call.run, refused]
      · exact presented.drop fenced.presences fun other different =>
          (congrFun fenced.epochs other).trans (drop_other different)
    | setPresence call => exact presented.setPresence paired
    | clearPresence account epoch => exact presented.clearPresence
    | _ =>
      exact presented.of_same ((Call.run_touches lua limits store _).others .presences
        (by simp [Call.parts])).1
        ((Call.run_touches lua limits store _).others .sessions (by simp [Call.parts])).2.1
  | advance now later =>
    intro account presence deadline stored
    obtain ⟨stored, live⟩ := purge_eq_some.mp stored
    obtain ⟨limit, bounded, current⟩ := presented stored
    exact ⟨limit, bounded, purge_eq_some.mpr ⟨current, Nat.lt_of_lt_of_le live bounded⟩⟩

end

theorem Presented.runs (runs : Runs lua limits allowed (.empty clock) store) : Presented store := by
  induction runs with
  | refl => exact nofun
  | tail earlier step ih => exact ih.step (Linked.runs earlier).2 step

/-- Whatever is called, a presence is one of the current epoch of its account, and the
session of that epoch belongs to the account and lasts at least as long. -/
theorem presences_backed (runs : Runs lua limits allowed (.empty clock) store)
    (shown : store.presences account = some ⟨presence, deadline⟩) :
    ∃ revision durable limit, deadline ≤ limit ∧ store.epochs account = some ⟨presence.epoch, limit⟩ ∧
      store.sessions presence.epoch.session = some ⟨⟨account, revision, limit, durable⟩, limit⟩ := by
  obtain ⟨limit, longer, current⟩ := Presented.runs runs shown
  obtain ⟨revision, durable, session⟩ := (Linked.runs runs).2 current
  exact ⟨revision, durable, limit, longer, current, session⟩

theorem presences_backed_watched :
    ∃ presence deadline limit, watchedStore.presences "1" = some ⟨presence, deadline⟩ ∧
    deadline ≤ limit ∧ watchedStore.epochs "1" = some ⟨presence.epoch, limit⟩ := by
  obtain ⟨_, shown⟩ := Option.isSome_iff_exists.mp (by decide : (watchedStore.presences "1").isSome = true)
  obtain ⟨_, _, limit, longer, current, _⟩ := presences_backed (ranAll_reached fun _ _ => trivial) shown
  exact ⟨_, _, limit, shown, longer, current⟩

/-- An epoch that was given out and is no longer the current one of any account. -/
structure Retired (lua : Lua) (durable : Uuid → Nat) (store : Store) (session : Uuid)
    (revision : Nat) : Prop where
  spent : Spent lua durable store (SessionFence session revision)
  old : ∀ account, store.epochs.get account ≠ some (SessionFence session revision)

theorem Retired.runs (retired : Retired lua durable store session revision)
    (runs : Runs lua limits (Dated durable) store after) : Retired lua durable after session revision := by
  induction runs with
  | refl => exact retired
  | tail _ step ih =>
    refine ⟨ih.spent.step step, fun account current => ?_⟩
    rcases step.current_cases current with earlier | ⟨call, number, expiry, dated, given, opened⟩
    · exact ih.old account earlier
    · exact opened.fresh dated ih.spent given

/-- The end of an epoch of an account: the account opens a session, or the epoch is fenced. -/
inductive Ends (lua : Lua) (limits : Limits) (durable : Uuid → Nat) (account : String)
    (epoch : Epoch) : Store → Store → Prop where
  | superseded {store : Store} {call : OpenCall} {answer : String × Nat}
      (dated : Dated durable (.openSession call)) (opener : call.account = account)
      (answered : (openSession lua limits call store).1 = .ok answer) :
      Ends lua limits durable account epoch store (openSession lua limits call store).2
  | fenced {store : Store} (answered : (fenceSession account epoch store).1 = .ok ()) :
      Ends lua limits durable account epoch store (fenceSession account epoch store).2

/-- An epoch that is current later was current before, if it had been given out. -/
theorem Spent.current_before (spent : Spent lua durable store (SessionFence session revision))
    (runs : Runs lua limits (Dated durable) store after)
    (current : after.epochs.get account = some (SessionFence session revision)) :
    store.epochs.get account = some (SessionFence session revision) := by
  induction runs with
  | refl => exact current
  | tail earlier step ih =>
    rcases step.current_cases current with before | ⟨call, number, expiry, dated, given, opened⟩
    · exact ih before
    · exact absurd given (opened.fresh dated (spent.runs earlier))

theorem Ends.retired (reached : Runs lua limits (Dated durable) (.empty clock) store)
    (held : store.epochs.get account = some (SessionFence session revision))
    (onward : Runs lua limits (Dated durable) store middle)
    (ends : Ends lua limits durable account (SessionFence session revision) middle ended) :
    Retired lua durable ended session revision := by
  have given := Counted.runs reached account _ held
  have spent := given.runs onward
  have only : ∀ other, middle.epochs.get other = some (SessionFence session revision) → other = account :=
    fun other current => (Linked.runs reached).2.unique (given.current_before onward current) held rfl
  cases ends with
  | @superseded call answer dated opener answered =>
    rcases openSession_cases lua limits call middle with ⟨refusal, refused⟩ | ⟨number, expiry, _, opened⟩
    · rw [refused] at answered
      cases answered
    refine ⟨spent.opened dated opened, fun other current => ?_⟩
    by_cases same : other = call.account
    · rw [opened.epochs, same, Keyspace.get, Keyspace.put_same] at current
      exact opened.fresh dated spent (some.inj current).symm
    · rw [opened.epochs, Keyspace.get, Keyspace.put_other same] at current
      exact same ((only other current).trans opener.symm)
  | fenced answered =>
    rcases fenceSession_cases account (SessionFence session revision) middle with ⟨refusal,
      refused⟩ | ⟨_, fenced⟩
    · rw [refused] at answered
      cases answered
    · refine ⟨spent.of_same fenced.clock fenced.revisions, fun other current => ?_⟩
      rw [fenced.epochs] at current
      obtain ⟨deadline, current⟩ := get_eq_some.mp current
      obtain ⟨different, current⟩ := of_drop current
      exact different (only other (get_eq_some.mpr ⟨deadline, current⟩))

theorem Store.memberEpoch_of_remove
    (member : (store.removeMember channel gone).memberEpoch channel account = some epoch) :
    store.memberEpoch channel account = some epoch := by
  unfold Store.memberEpoch Keyspace.get Store.removeMember at *
  dsimp only at member
  rw [Function.update_self] at member
  cases found : store.channelEpochs channel with
  | none =>
    rw [found] at member
    cases member
  | some entry =>
    rw [found] at member
    by_cases same : account = gone
    · subst same
      simp at member
    · simpa [same] using member

theorem listChannel_current (listed : account ∈ (listChannel channel store).1) :
    ∃ epoch, store.memberEpoch channel account = some epoch ∧ store.epochs.get account = some epoch := by
  let Within (middle : Store) : Prop := middle.epochs = store.epochs ∧ ∀ account epoch,
    middle.memberEpoch channel account = some epoch → store.memberEpoch channel account = some epoch
  have kept : ∀ (middle : Store) (entry : String × Nat), Within middle →
    Within (middle.removeMember channel entry.1) :=
    fun middle entry within => ⟨within.1, fun account epoch member =>
      within.2 account epoch (Store.memberEpoch_of_remove member)⟩
  obtain ⟨middle, entry, ⟨epochs, members⟩, _, active⟩ := mem_sweep Within
    (fun middle entry _ within _ => kept middle entry within) ⟨rfl, fun _ _ member => member⟩ listed
  unfold activeMember at active
  split at active
  · cases active
  next epoch member =>
  split at active
  · next proper =>
    cases active
    exact ⟨epoch, members _ _ member, epochs ▸ proper.2.1⟩
  · cases active

theorem Linked.sides (linked : Linked loose store) (found : store.relations.get spectator = some relation) :
    store.epochs.get relation.host = some relation.hostEpoch ∧
      store.epochs.get spectator = some relation.spectatorEpoch := by
  obtain ⟨deadline, stored⟩ := get_eq_some.mp found
  obtain ⟨limit, _, watched⟩ := (linked stored).watched
  exact ⟨linked.current found, get_eq_some.mpr ⟨limit, watched⟩⟩

theorem listSpectators_related (answered : (listSpectators host epoch instant store).1 = .ok listed)
    (member : (spectator, relation) ∈ listed) : store.relations.get spectator = some relation := by
  unfold listSpectators at answered
  dsimp only at answered
  split at answered
  · cases answered
  · cases answered
    rw [sweep_answers (store.viewers host).members_nodup fun _ _ _ => validViewer_prune,
      List.mem_filterMap] at member
    obtain ⟨key, _, valid⟩ := member
    obtain ⟨rfl, related, _⟩ := validViewer_eq_some.mp valid
    exact related

theorem recipient_current (target : recipient host epoch store spectator = some found) :
    store.epochs.get found.account = some found.epoch := by
  unfold recipient at target
  split at target
  · cases target
  split at target
  · split at target
    · next valid =>
      cases target
      exact (sessionStatus_eq_ok.mp valid).1
    · cases target
  · cases target

theorem sweep_recipients
    (member : target ∈ (sweep (recipient host epoch) (pruneRecipient host epoch) keys store).1) :
    store.epochs.get target.account = some target.epoch := by
  obtain ⟨middle, spectator, epochs, _, passed⟩ := mem_sweep (fun middle : Store =>
    middle.epochs = store.epochs) (fun middle spectator _ same _ =>
      (((pruneRecipient_touches middle spectator).others .sessions (by simp)).2.1).trans same) rfl member
  exact epochs ▸ recipient_current passed

theorem publishFrame_targets (answered : (publishFrame lua limits call store).1 = .ok (cursor, targets)) :
    store.epochs.get call.host = some call.epoch ∧
      ∀ target ∈ targets, store.epochs.get target.account = some target.epoch := by
  rcases publishFrame_cases lua limits call store with ⟨refusal, refused, _⟩ | ⟨accepted, stored, _⟩
  · rw [refused] at answered
    cases answered
  · cases answered.symm.trans stored
    obtain ⟨_, _, _, valid, _⟩ := accepted.live
    refine ⟨(sessionStatus_eq_ok.mp valid).1, fun target member => ?_⟩
    exact ((call.begin_touches store).others .sessions (by simp)).2.1 ▸ sweep_recipients member

theorem sessionStatus_refused (old : store.epochs.get account ≠ some epoch) (now : Nat) :
    ∃ refusal, sessionStatus store account epoch now = .error refusal := by
  cases status : sessionStatus store account epoch now with
  | error refusal => exact ⟨refusal, rfl⟩
  | ok expiries => exact absurd (sessionStatus_eq_ok.mp status).1 old

/-- A call that quotes an epoch that is not current changes nothing. -/
theorem Call.run_of_old {call : Call} (linked : Linked loose store) (presented : Presented store)
    (old : store.epochs.get account ≠ some epoch) (quoted : (account, epoch) ∈ call.quotes) :
    call.run lua limits store = store := by
  have refused := sessionStatus_refused old
  cases call with
  | openSession | listChannel => cases quoted
  | heartbeatSession | fenceSession | setPresence | setPreference | joinChannel | leaveChannel =>
    obtain ⟨rfl, rfl⟩ := Prod.mk.inj (List.mem_singleton.mp quoted)
    obtain ⟨refusal, refused⟩ := refused store.clock
    simp only [Call.run, Realtime.heartbeatSession, Realtime.fenceSession, Realtime.setPresence,
      Realtime.setPreference, Realtime.joinChannel, Realtime.leaveChannel, refused]
  | clearPresence account epoch =>
    obtain ⟨rfl, rfl⟩ := Prod.mk.inj (List.mem_singleton.mp quoted)
    simp only [Call.run, Realtime.clearPresence]
    split
    · next shown =>
      obtain ⟨presence, found, same⟩ := (any_eq_true _ _).mp shown
      exact absurd (presented.current found) (of_decide_eq_true same ▸ old)
    · rfl
  | getSpectator _ _ instant | listSpectators _ _ instant =>
    obtain ⟨rfl, rfl⟩ := Prod.mk.inj (List.mem_singleton.mp quoted)
    obtain ⟨refusal, refused⟩ := refused (max store.clock instant)
    simp only [Call.run, Realtime.getSpectator, Realtime.listSpectators, refused]
  | readFrames host epoch instant after limit =>
    obtain ⟨rfl, rfl⟩ := Prod.mk.inj (List.mem_singleton.mp quoted)
    obtain ⟨refusal, refused⟩ := refused (max store.clock instant)
    simp only [Call.run, Realtime.readFrames, refused]
    split <;> rfl
  | publishFrame call =>
    obtain ⟨rfl, rfl⟩ := Prod.mk.inj (List.mem_singleton.mp quoted)
    obtain ⟨refusal, refused⟩ := refused store.clock
    simp only [Call.run, Realtime.publishFrame, refused]
    split <;> rfl
  | attachSpectator call =>
    simp only [Call.quotes, List.mem_cons, List.not_mem_nil, or_false, Prod.mk.injEq] at quoted
    simp only [Call.run, Realtime.attachSpectator]
    split
    · rfl
    rcases quoted with ⟨rfl, rfl⟩ | ⟨rfl, rfl⟩
    · obtain ⟨refusal, refused⟩ := refused store.clock
      rw [refused]
    · obtain ⟨refusal, refused⟩ := refused store.clock
      split
      · rfl
      · rw [refused]
  | detachSpectator call =>
    simp only [Call.quotes, List.mem_cons, List.not_mem_nil, or_false, Prod.mk.injEq] at quoted
    simp only [Call.run, Realtime.detachSpectator]
    split
    · next shown =>
      obtain ⟨relation, found, same⟩ := (any_eq_true _ _).mp shown
      obtain ⟨hosted, -, -, -, hostEpoch, spectatorEpoch⟩ := of_decide_eq_true same
      obtain ⟨hosting, watching⟩ := linked.sides found
      rw [hosted, hostEpoch] at hosting
      rw [spectatorEpoch] at watching
      rcases quoted with ⟨rfl, rfl⟩ | ⟨rfl, rfl⟩
      · exact absurd hosting old
      · exact absurd watching old
    · rfl

/-- Nothing that is read shows the epoch, and no call that quotes it changes anything. -/
structure Disowned (lua : Lua) (limits : Limits) (store : Store) (epoch : Epoch) : Prop where
  channels : ∀ channel member, member ∈ (listChannel channel store).1 →
    store.memberEpoch channel member ≠ some epoch
  presences : ∀ account instant presence, getPresence account instant store = some presence →
    presence.epoch ≠ epoch
  lookups : ∀ account quoted instant relation, (getSpectator account quoted instant store).1 = .ok relation →
    relation.hostEpoch ≠ epoch ∧ relation.spectatorEpoch ≠ epoch
  listings : ∀ host quoted instant listed, (listSpectators host quoted instant store).1 = .ok listed →
    ∀ spectator relation, (spectator, relation) ∈ listed → relation.hostEpoch ≠ epoch ∧
    relation.spectatorEpoch ≠ epoch
  recipients : ∀ call cursor targets, (publishFrame lua limits call store).1 = .ok (cursor, targets) →
    call.epoch ≠ epoch ∧ ∀ target ∈ targets, target.epoch ≠ epoch
  calls : ∀ (call : Call) account, (account, epoch) ∈ call.quotes → call.run lua limits store = store

/-- In every run, whatever the durable expiries, an epoch that is current for no account is disowned. -/
theorem Disowned.of_old (reached : Runs lua limits allowed (.empty clock) store)
    (old : ∀ account, store.epochs.get account ≠ some epoch) : Disowned lua limits store epoch := by
  have linked := (Linked.runs reached).1
  have presented := Presented.runs reached
  have apart : ∀ {account current}, store.epochs.get account = some current → current ≠ epoch := by
    rintro account _ current rfl
    exact old account current
  constructor
  · intro channel member listed same
    obtain ⟨epoch, joined, current⟩ := listChannel_current listed
    exact apart current (some.inj (joined.symm.trans same))
  · intro account instant presence shown
    exact apart (presented.current (filter_eq_some_iff.mp shown).1)
  · intro account quoted instant relation answered
    obtain ⟨hosting, watching⟩ := linked.sides (getSpectator_eq_ok.mp answered).2.1
    exact ⟨apart hosting, apart watching⟩
  · intro host quoted instant listed answered spectator relation member
    obtain ⟨hosting, watching⟩ := linked.sides (listSpectators_related answered member)
    exact ⟨apart hosting, apart watching⟩
  · intro call cursor targets answered
    obtain ⟨hosting, watching⟩ := publishFrame_targets answered
    exact ⟨apart hosting, fun target member => apart (watching target member)⟩
  · intro call account quoted
    exact Call.run_of_old linked presented (old account) quoted

/-- In every run, after an epoch that an account held has been superseded by an open of the
account or has been fenced, it owns nothing that is read and no call can act for it. -/
theorem ended_disowned (reached : Runs lua limits (Dated durable) (.empty clock) store)
    (held : store.epochs.get account = some (SessionFence session revision))
    (onward : Runs lua limits (Dated durable) store middle)
    (ends : Ends lua limits durable account (SessionFence session revision) middle ended)
    (later : Runs lua limits (Dated durable) ended final) :
    Disowned lua limits final (SessionFence session revision) := by
  have retired := (ends.retired reached held onward).runs later
  refine .of_old (((reached.trans onward).tail ?_).trans later) retired.old
  cases ends with
  | superseded dated _ _ => exact .call (.openSession _) dated
  | fenced _ => exact .call (.fenceSession _ _) trivial

/-- Account 2 watches account 1, which opens another session: the first epoch of account 1 owns
nothing afterwards. -/
theorem watchedStore_disowned : Disowned fullLua sampleLimits
    (openSession fullLua sampleLimits (sampleOpen "1" 5) watchedStore).2
    (SessionFence (sampleSession 7) 1) := by
  have reached : Runs fullLua sampleLimits (Dated fun _ => 1000) (.empty 0) watchedStore :=
    ranAll_reached (by simp [Dated, sampleOpen])
  have held : watchedStore.epochs.get "1" = some (SessionFence (sampleSession 7) 1) := by decide
  have dated : Dated (fun _ => 1000) (.openSession (sampleOpen "1" 5)) := rfl
  have answered : (openSession fullLua sampleLimits (sampleOpen "1" 5) watchedStore).1 = .ok ("1", 50) := by
    decide
  exact ended_disowned reached held .refl (.superseded dated rfl answered) .refl

end Perfcho.Realtime
