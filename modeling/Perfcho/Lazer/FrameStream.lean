import Perfcho.Realtime.FrameHistory
import Perfcho.Realtime.Relations

/-! The frames of a Lazer player. The spectator hub publishes every bundle as an update
with the sequence number 0, and drops what the store refuses. -/

namespace Perfcho.Lazer

open Foundation Realtime

section

variable (lua : Lua) (limits : Limits) (account : String)

/-- `_frame_bubble`, as it is published under a session and with its expiry. -/
def frameBubble (epoch : Epoch) (payload : Bytes) (expiry : Nat) : PublishCall :=
  ⟨account, epoch, 0, payload, expiry, false⟩

/-- `SendFrameDataV2`: the accounts that the bundle is sent to, if it is published. -/
def sendFrameData (session : Uuid) (instant : Nat) (payload : Bytes) (store : Store) :
    Option (List String) × Store :=
  match resolveSession session instant store with
  | .error _ => (none, store)
  | .ok (_, revision, expiry) =>
    match publishFrame lua limits (frameBubble account ⟨session, revision⟩ payload expiry) store with
    | (.error _, after) => (none, after)
    | (.ok (_, targets), after) => (some (targets.map (·.account)), after)

/-- A bundle becomes the last frame of the history, and every account that watches the
player gets it. -/
def Streams (session : Uuid) (instant : Nat) (payload : Bytes) (store : Store) : Prop :=
  ∃ accounts after frames frame, sendFrameData lua limits account session instant payload store =
    (some accounts, after) ∧ (after.frames account).members.map decodeOrderedFrame = frames ++ [some frame] ∧
    frames.Sublist ((store.frames account).members.map decodeOrderedFrame) ∧ frame.payload = payload ∧
    ∀ spectator epoch relation, (getSpectator spectator epoch instant store).1 = .ok relation →
    relation.host = account →
      spectator ∈ accounts

end

variable {lua : Lua} {limits : Limits} {store after : Store} {host : String}

theorem resolveSession_eq
    (valid : sessionStatus store host epoch (max store.clock instant) = .ok (expiry, durable)) :
    resolveSession epoch.session instant store = .ok (host, epoch.revision, expiry) := by
  obtain ⟨current, stored, live⟩ := sessionStatus_eq_ok.mp valid
  have open_ : ¬ expiry ≤ instant := not_le.mpr ((Nat.le_max_right _ _).trans_lt live)
  simp [resolveSession, stored, open_, current]

theorem sendFrameData_eq
    (resolved : resolveSession epoch.session instant store = .ok (host, epoch.revision, expiry))
    (answered : (publishFrame lua limits (frameBubble host epoch payload expiry) store).1 = .ok
      (cursor, targets)) :
    sendFrameData lua limits host epoch.session instant payload store =
      (some (targets.map (·.account)),
        (publishFrame lua limits (frameBubble host epoch payload expiry) store).2) := by
  simp only [sendFrameData, resolved]
  cases published : publishFrame lua limits (frameBubble host epoch payload expiry) store with
  | mk answer after =>
    rw [published] at answered
    cases answered
    rfl

theorem recipient_same (clock : after.clock = store.clock) (sessions : Part.sessions.Same store after)
    (related : after.relations.get spectator = store.relations.get spectator) :
    recipient host epoch after spectator = recipient host epoch store spectator := by
  unfold recipient sessionStatus
  rw [related, clock, sessions.1, sessions.2.1]

theorem recipient_prune (different : other ≠ spectator) :
    recipient host epoch (pruneRecipient host epoch store spectator) other =
    recipient host epoch store other := by
  have touches : Touches [.relations] store (pruneRecipient host epoch store spectator) :=
    pruneRecipient_touches store spectator
  refine recipient_same touches.clock (touches.others .sessions (by simp)) ?_
  unfold pruneRecipient
  split
  · exact congrArg (Option.map _) (Keyspace.drop_other different)
  · rfl

theorem history_reached (history : History lua limits host store log seen) :
    ∃ clock, Runs lua limits (fun _ => True) (.empty clock) store := by
  induction history with
  | start clock => exact ⟨clock, .refl⟩
  | call _ call _ ih => exact ih.imp fun _ runs => runs.tail (.call call trivial)
  | advance _ now later ih => exact ih.imp fun _ runs => runs.tail (.advance now later)

/-- An account that watches the host is a target of the frames of the host. -/
theorem watching_recipient (linked : Linked (fun _ => False) store)
    (hosting : store.epochs.get host = some epoch)
    (watching : (getSpectator spectator fence instant store).1 = .ok relation)
    (hosted : relation.host = host) :
    spectator ∈ (store.viewers host).members ∧ ∃ target, recipient host epoch store spectator =
      some target ∧ target.account = spectator := by
  obtain ⟨⟨_, _, valid⟩, related, open_, rfl, current, _⟩ := getSpectator_eq_ok.mp watching
  obtain ⟨deadline, stored⟩ := Keyspace.get_eq_some.mp related
  have link := linked stored
  subst hosted
  refine ⟨SortedSet.mem_members.mpr ⟨_, link.listed⟩,
    ⟨spectator, relation.spectatorEpoch, relation.expiresAt⟩, ?_, rfl⟩
  have now := Nat.le_max_left store.clock instant
  obtain ⟨known, session, live⟩ := sessionStatus_eq_ok.mp valid
  have status := sessionStatus_eq_ok.mpr ⟨known, session, now.trans_lt live⟩
  have same := Option.some.inj (current.symm.trans hosting)
  simp [recipient, related, link.named, same, now.trans_lt open_, status]

theorem frameBubble_begin :
    ((frameBubble host epoch payload expiry).begin store).frameStates.get host = some last ↔
    store.frameStates.get host = some last ∧ last.epoch = epoch := by
  constructor
  · intro found
    obtain ⟨goes, same⟩ := PublishCall.begin_of_some found
    rw [same] at found
    simp only [PublishCall.resets, frameBubble, found, Option.any_some, Bool.false_or] at goes
    exact ⟨found, not_not.mp (of_decide_eq_false goes)⟩
  · rintro ⟨found, rfl⟩
    simp [PublishCall.begin, PublishCall.resets, frameBubble, found]

theorem frameBubble_accepted (status : sessionStatus store host epoch store.clock = .ok (expiry, durable))
    (present : hostPresence store host epoch = some presenceExpiry)
    (fits : payload.length ≤ limits.maxFrameBytes)
    (small : ∀ last, store.frameStates.get host = some last → last.cursor + 1 < 10 ^ 14) :
    (frameBubble host epoch payload expiry).Accepted limits store ↔
      expiry ≤ presenceExpiry ∧ expiry - store.clock ≤ limits.presenceTtl ∧
        ∀ last, store.frameStates.get host = some last → last.epoch = epoch →
          32768 ≤ last.sequence ∧ last.sequence ≤ 65535 := by
  have now := (sessionStatus_eq_ok.mp status).2.2
  constructor
  · intro accepted
    obtain ⟨_, _, _, status', present', timely⟩ := accepted.live
    cases status.symm.trans status'
    cases present.symm.trans present'
    simp only [frameBubble, not_or, not_lt, le_min_iff] at timely
    refine ⟨timely.2.1.2, timely.2.2, fun last found same => ?_⟩
    have next := (accepted.next last (frameBubble_begin.mpr ⟨found, same⟩)).1
    simp only [frameBubble] at next
    omega
  · rintro ⟨within, short, next⟩
    refine ⟨Nat.zero_le _, fits, ⟨expiry, durable, presenceExpiry, status, present, ?_⟩, fun last found => ?_⟩
    · simp only [frameBubble, not_or, not_le, not_lt, le_min_iff]
      exact ⟨now, ⟨le_rfl, within⟩, short⟩
    · obtain ⟨found, same⟩ := frameBubble_begin.mp found
      have low := small last found
      have next := next last found same
      simp only [frameBubble, maxRevision]
      omega

theorem frameBubble_cursor
    (small : ∀ last, store.frameStates.get host = some last → last.cursor + 1 < 10 ^ 14) :
    ((frameBubble host epoch payload expiry).prune
      ((frameBubble host epoch payload expiry).begin store)).nextCursor host <
      10 ^ 14 := by
  unfold Store.nextCursor
  rw [((frameBubble host epoch payload expiry).prune_same _).1.2.2]
  cases found : ((frameBubble host epoch payload expiry).begin store).frameStates.get host with
  | none => decide
  | some last => exact small last (frameBubble_begin.mp found).1

/-- A bundle of a player whose session is current and who is online reaches the history
and those who watch just if the session ends with the presence or before it and within the
time that a presence may last, and the last frame of the session, if any, has a sequence
number that 0 follows. -/
theorem streams_iff (history : History lua limits host store log seen)
    (valid : sessionStatus store host epoch (max store.clock instant) = .ok (expiry, durable))
    (present : hostPresence store host epoch = some presenceExpiry)
    (fits : payload.length ≤ limits.maxFrameBytes)
    (small : ∀ last, store.frameStates.get host = some last → last.cursor + 1 < 10 ^ 14) :
    Streams lua limits host epoch.session instant payload store ↔
      expiry ≤ presenceExpiry ∧ expiry - store.clock ≤ limits.presenceTtl ∧
        ∀ last, store.frameStates.get host = some last → last.epoch = epoch →
          32768 ≤ last.sequence ∧ last.sequence ≤ 65535 := by
  obtain ⟨current, session, live⟩ := sessionStatus_eq_ok.mp valid
  have status := sessionStatus_eq_ok.mpr ⟨current, session, (Nat.le_max_left _ _).trans_lt live⟩
  have resolved := resolveSession_eq valid
  rw [← frameBubble_accepted status present fits small]
  rcases publishFrame_cases lua limits (frameBubble host epoch payload expiry) store with
    ⟨refusal, refused, _, unaccepted⟩ | ⟨accepted, answered, _⟩
  · refine iff_of_false ?_ unaccepted
    rintro ⟨accounts, after, _, _, sent, _⟩
    simp [sendFrameData, resolved, refused] at sent
  · refine iff_of_true ?_ accepted
    obtain ⟨⟨kept, holds, _⟩, _⟩ := history.retains
    obtain ⟨evicted, held⟩ := publishFrame_holds holds answered (frameBubble_cursor small)
    have sent := sendFrameData_eq resolved answered
    refine ⟨_, _, _, _, sent, held.decoded.trans (List.map_append ..), ?_, rfl, ?_⟩
    · rw [holds.decoded]
      apply List.Sublist.map
      refine ((List.drop_sublist ..).trans List.filter_sublist).trans ?_
      unfold PublishCall.base
      split
      · exact List.nil_sublist _
      · exact .refl _
    · intro spectator fence relation watching hosted
      obtain ⟨_, reached⟩ := history_reached history
      have begun := (frameBubble host epoch payload expiry).begin_touches store
      obtain ⟨listed, target, passed, rfl⟩ :=
        watching_recipient (Linked.runs reached).1 current watching hosted
      refine List.mem_map.mpr ⟨target, ?_, rfl⟩
      rw [sweep_answers (SortedSet.members_nodup _) fun _ _ _ => recipient_prune]
      have viewers := (begun.others .relations (by simp))
      refine List.mem_filterMap.mpr ⟨target.account, ?_, ?_⟩
      · rw [viewers.2.2]
        exact listed
      · rw [← passed]
        exact recipient_same begun.clock (begun.others .sessions (by simp)) (viewers.1 ▸ rfl)

/-- Account 2 watches account 1, which is online until its session ends. -/
def streamingStore : Store :=
  (Call.attachSpectator ⟨"1", "2", sampleSession 9, SessionFence (sampleSession 7) 1,
    SessionFence (sampleSession 8) 1, 30,
    1⟩).run fullLua sampleLimits <|
  (Call.setPresence ⟨"1", SessionFence (sampleSession 7) 1, 50, [], 0⟩).run fullLua sampleLimits <|
  (Call.openSession (sampleOpen "2" 8)).run fullLua sampleLimits openedStore

/-- The store after a first bundle. -/
def streamedStore : Store :=
  (sendFrameData fullLua sampleLimits "1" (sampleSession 7) 0 [1, 2] streamingStore).2

/-- The first bundle reaches account 2. Nobody gets the second one, though the session is
current and account 1 still online. -/
theorem secondBundle_lost :
    (sendFrameData fullLua sampleLimits "1" (sampleSession 7) 0 [1, 2] streamingStore).1 = some ["2"] ∧
      sessionStatus streamedStore "1" (SessionFence (sampleSession 7) 1) 0 = .ok (50, 1000) ∧
      hostPresence streamedStore "1" (SessionFence (sampleSession 7) 1) = some 50 ∧
      (sendFrameData fullLua sampleLimits "1" (sampleSession 7) 0 [3, 4] streamedStore).1 = none := by
  decide

theorem firstBundle_streams : Streams fullLua sampleLimits "1" (sampleSession 7) 0 [1, 2] streamingStore := by
  have history : ∃ log seen, History fullLua sampleLimits "1" streamingStore log seen := by
    refine ⟨_, _, .call (.call (.call (.call (.start 0) (.openSession (sampleOpen "1" 7)) ?_) _ ?_)
      _ ?_) _ ?_⟩
    all_goals exact nofun
  obtain ⟨log, seen, history⟩ := history
  have valid : sessionStatus streamingStore "1" (SessionFence (sampleSession 7) 1)
    (max streamingStore.clock 0) = .ok (50, 1000) := by decide
  have present : hostPresence streamingStore "1" (SessionFence (sampleSession 7) 1) = some 50 := by decide
  have unsent : ∀ last, streamingStore.frameStates.get "1" ≠ some last := by
    have none : streamingStore.frameStates.get "1" = none := by decide
    simp [none]
  exact (streams_iff history valid present (by decide) fun last found => absurd found (unsent last)).mpr
    ⟨le_rfl, by decide, fun last found => absurd found (unsent last)⟩

end Perfcho.Lazer
