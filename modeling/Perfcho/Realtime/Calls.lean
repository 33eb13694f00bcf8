import Perfcho.Realtime.Spectating

/-! Runs of realtime calls, and what a call can do to the sessions: nothing, or what an
open, a heartbeat or a fence that is answered does. -/

namespace Perfcho.Realtime

open Foundation Keyspace

inductive Call where
  | openSession (call : OpenCall)
  | heartbeatSession (call : HeartbeatCall)
  | fenceSession (account : String) (epoch : Epoch)
  | setPresence (call : PresenceCall)
  | clearPresence (account : String) (epoch : Epoch)
  | setPreference (account : String) (epoch : Epoch) (field value : String)
  | joinChannel (account : String) (epoch : Epoch) (channel : String)
  | leaveChannel (account : String) (epoch : Epoch) (channel : String)
  | listChannel (channel : String)
  | attachSpectator (call : AttachCall)
  | detachSpectator (call : DetachCall)
  | getSpectator (account : String) (epoch : Epoch) (instant : Nat)
  | listSpectators (host : String) (epoch : Epoch) (instant : Nat)
  | publishFrame (call : PublishCall)
  | readFrames (host : String) (epoch : Epoch) (instant : Nat) (after : Option Nat) (limit : Nat)

def Call.run (lua : Lua) (limits : Limits) (store : Store) : Call → Store
  | openSession call => (Realtime.openSession lua limits call store).2
  | heartbeatSession call => (Realtime.heartbeatSession limits call store).2
  | fenceSession account epoch => (Realtime.fenceSession account epoch store).2
  | setPresence call => (Realtime.setPresence limits call store).2
  | clearPresence account epoch => (Realtime.clearPresence account epoch store).2
  | setPreference account epoch field value => (Realtime.setPreference account epoch field value store).2
  | joinChannel account epoch channel => (Realtime.joinChannel limits account epoch channel store).2
  | leaveChannel account epoch channel => (Realtime.leaveChannel account epoch channel store).2
  | listChannel channel => (Realtime.listChannel channel store).2
  | attachSpectator call => (Realtime.attachSpectator lua limits call store).2
  | detachSpectator call => (Realtime.detachSpectator call store).2
  | getSpectator account epoch instant => (Realtime.getSpectator account epoch instant store).2
  | listSpectators host epoch instant => (Realtime.listSpectators host epoch instant store).2
  | publishFrame call => (Realtime.publishFrame lua limits call store).2
  | readFrames host epoch instant after limit =>
    (Realtime.readFrames limits host epoch instant after limit store).2

inductive Part where
  | sessions | presences | preferences | channels | relations | frames

def Part.Same (store after : Store) : Part → Prop
  | sessions => after.sessions = store.sessions ∧ after.epochs = store.epochs ∧
      after.revisions = store.revisions
  | presences => after.presences = store.presences ∧ after.presenceIndex = store.presenceIndex
  | preferences => after.preferences = store.preferences
  | channels => after.channels = store.channels ∧ after.channelMembers = store.channelMembers ∧
      after.channelEpochs = store.channelEpochs
  | relations => after.relations = store.relations ∧
      after.relationRevisions = store.relationRevisions ∧ after.viewers = store.viewers
  | frames => after.frames = store.frames ∧ after.frameBytes = store.frameBytes ∧
      after.frameStates = store.frameStates

/-- An edit of some parts at one time, which leaves the others as they are. -/
structure Touches (parts : List Part) (store after : Store) : Prop where
  clock : after.clock = store.clock
  others : ∀ part, part ∉ parts → part.Same store after

theorem Part.Same.refl (part : Part) : part.Same store store := by
  cases part <;> simp [Part.Same]

theorem Part.Same.trans {part : Part} (first : part.Same store middle)
    (second : part.Same middle after) : part.Same store after := by
  cases part <;> simp_all [Part.Same]

namespace Touches

theorem refl (store : Store) : Touches parts store store := ⟨rfl, fun part _ => .refl part⟩

theorem trans (first : Touches parts store middle) (second : Touches parts middle after) :
    Touches parts store after :=
  ⟨second.clock.trans first.clock, fun part outside =>
    (first.others part outside).trans (second.others part outside)⟩

theorem mono (touches : Touches parts store after) (inside : parts ⊆ more) : Touches more store after :=
  ⟨touches.clock, fun part outside => touches.others part fun member => outside (inside member)⟩

theorem foldl (keeps : ∀ store key, Touches parts store (edit store key)) (keys : List String) :
    Touches parts store (keys.foldl edit store) :=
  List.foldlRecOn keys edit (.refl store) fun after touches key _ => touches.trans (keeps after key)

theorem sweep (keeps : ∀ store key, Touches parts store (prune store key)) :
    Touches parts store (Foundation.sweep check prune keys store).2 :=
  sweep_preserves (Touches parts store) (fun after key _ touches _ =>
    touches.trans (keeps after key)) (.refl store)

end Touches

section

variable (store : Store)

theorem editChannels : Touches [.channels] store
    { store with channels, channelMembers := members, channelEpochs := epochs } := by
  constructor
  · rfl
  · intro part outside
    cases part <;> simp_all [Part.Same]

theorem editRelations : Touches [.relations] store
    { store with relations, relationRevisions := revisions, viewers } := by
  constructor
  · rfl
  · intro part outside
    cases part <;> simp_all [Part.Same]

theorem editFrames : Touches [.frames] store
    { store with frames, frameBytes := bytes, frameStates := states } := by
  constructor
  · rfl
  · intro part outside
    cases part <;> simp_all [Part.Same]

theorem editPresences : Touches [.presences] store { store with presences, presenceIndex := index } := by
  constructor
  · rfl
  · intro part outside
    cases part <;> simp_all [Part.Same]

theorem editPreferences : Touches [.preferences] store { store with preferences } := by
  constructor
  · rfl
  · intro part outside
    cases part <;> simp_all [Part.Same]

theorem editSessions : Touches [.sessions] store { store with sessions, epochs, revisions } := by
  constructor
  · rfl
  · intro part outside
    cases part <;> simp_all [Part.Same]

theorem leaveOwned_touches (channel : String) :
    Touches [.channels] store (store.leaveOwned account epoch channel) := by
  unfold Store.leaveOwned
  split
  · exact editChannels store
  · exact .refl store

theorem endWatching_touches : Touches [.relations] store (store.endWatching account epoch) := by
  unfold Store.endWatching
  split
  · exact .refl store
  · split
    · exact editRelations store
    · exact .refl store

theorem dropRelation_touches (spectator : String) :
    Touches [.relations] store (store.dropRelation epoch spectator) := by
  unfold Store.dropRelation
  split
  · exact editRelations store
  · exact .refl store

theorem pruneViewer_touches (spectator : String) :
    Touches [.relations] store (store.pruneViewer host epoch spectator) :=
  (dropRelation_touches store spectator).trans (editRelations _)

theorem releaseChannels_touches : Touches [.channels] store (store.releaseChannels account epoch) := by
  have left : Touches [.channels] store
    (((store.channels.get epoch.session).getD []).foldl (Store.leaveOwned account epoch) store) :=
    .foldl (fun store key => leaveOwned_touches store key) _
  exact left.trans (editChannels _)

theorem releaseViewers_touches : Touches [.relations] store (store.releaseViewers account epoch) := by
  have released : Touches [.relations] store ((store.viewers account).members.foldl
    (fun store spectator => store.dropRelation epoch spectator) store) :=
    .foldl (fun store key => dropRelation_touches store key) _
  exact released.trans (editRelations _)

theorem releaseEpoch_touches : Touches [.channels, .relations] store (store.releaseEpoch account epoch) :=
  ((releaseChannels_touches store).mono (by simp)).trans
    (((endWatching_touches _).trans (releaseViewers_touches _)).mono (by simp))

theorem renewPresence_touches : Touches [.presences] store (store.renewPresence account epoch expiry) := by
  unfold Store.renewPresence
  split
  · exact .refl store
  · split
    · exact editPresences store
    · exact .refl store

theorem renewPreference_touches :
    Touches [.preferences] store (store.renewPreference account epoch expiry) := by
  unfold Store.renewPreference
  split
  · exact editPreferences store
  · exact .refl store

theorem renewChannel_touches (channel : String) :
    Touches [.channels] store (store.renewChannel account epoch expiry channel) := by
  unfold Store.renewChannel
  split
  · exact editChannels store
  · exact editChannels store

theorem renewChannels_touches : Touches [.channels] store (store.renewChannels account epoch expiry) := by
  have renewed : Touches [.channels] store (((store.channels.get epoch.session).getD []).foldl
    (Store.renewChannel account epoch expiry) store) := .foldl (fun store key =>
    renewChannel_touches store key) _
  unfold Store.renewChannels
  dsimp only
  split
  · exact renewed.trans (editChannels _)
  · exact renewed.trans (editChannels _)

theorem renewRelation_touches : Touches [.relations] store (store.renewRelation account epoch expiry) := by
  unfold Store.renewRelation
  split
  · exact .refl store
  split
  · split
    · exact editRelations store
    · split
      · exact editRelations store
      · exact editRelations store
  · exact .refl store

theorem renewViewer_touches (spectator : String) :
    Touches [.relations] store (store.renewViewer account epoch expiry spectator) := by
  unfold Store.renewViewer
  split
  · exact editRelations store
  · exact pruneViewer_touches store spectator

theorem refreshViewers_touches : Touches [.relations] store (store.refreshViewers account) :=
  editRelations store

theorem renewViewers_touches : Touches [.relations] store (store.renewViewers account epoch expiry) := by
  have renewed : Touches [.relations] store
    ((store.viewers account).members.foldl (Store.renewViewer account epoch expiry) store) :=
    .foldl (fun store key => renewViewer_touches store key) _
  exact renewed.trans (refreshViewers_touches _)

theorem renewOwned_touches (account : String) (epoch : Epoch) (expiry presenceExpiry : Nat) :
    Touches [.presences, .preferences, .channels, .relations] store
      (store.renewOwned account epoch expiry presenceExpiry) := by
  apply Touches.trans ((renewPresence_touches store).mono (by simp))
  apply Touches.trans ((renewPreference_touches _).mono (by simp))
  apply Touches.trans ((renewChannels_touches _).mono (by simp))
  exact ((renewRelation_touches _).trans (renewViewers_touches _)).mono (by simp)

theorem expireFrames_touches :
    Touches [.frames] store (store.expireFrames host frames count bytes deadline) := by
  unfold Store.expireFrames
  split
  · exact editFrames store
  · exact editFrames store

theorem tidyFrames_touches : Touches [.frames] store (tidyFrames limits host instant store) := by
  unfold tidyFrames
  split
  · exact editFrames store
  · exact expireFrames_touches store

theorem relate_touches : Touches [.relations] store (relate lua call spectatorExpiry store) := by
  unfold relate
  cases store.relations.get call.spectator with
  | none => exact editRelations store
  | some previous => exact editRelations store

theorem pruneRecipient_touches (spectator : String) :
    Touches [.relations] store (pruneRecipient host epoch store spectator) := by
  unfold pruneRecipient
  split
  · exact editRelations store
  · exact editRelations store

theorem storeFrame_touches : Touches [.frames] store (storeFrame lua limits call store).2 := by
  unfold storeFrame
  dsimp only
  split
  · exact .refl store
  · exact (expireFrames_touches store).trans (editFrames _)

theorem setPresence_touches : Touches [.presences] store (setPresence limits call store).2 := by
  unfold setPresence
  dsimp only
  split
  · exact .refl store
  · split_ifs <;> first | exact .refl store | exact editPresences store

theorem setPresence_cases (limits : Limits) (call : PresenceCall) (store : Store) :
    (setPresence limits call store).2.presences = store.presences ∨
      (∃ current durable, sessionStatus store call.account call.epoch store.clock = .ok (current, durable) ∧
        call.expiry ≤ current) ∧ (setPresence limits call store).2.presences =
          store.presences.put call.account ⟨call.account, call.epoch, call.expiry, call.state⟩
          call.expiry := by
  unfold setPresence
  dsimp only
  split
  · exact .inl rfl
  · next current _ valid =>
    split_ifs with untimely
    · exact .inl rfl
    all_goals first | exact .inl rfl | exact .inr ⟨⟨current, _, valid, by omega⟩, rfl⟩

theorem clearPresence_touches : Touches [.presences] store (clearPresence account epoch store).2 := by
  unfold clearPresence
  split
  · exact editPresences store
  · exact .refl store

theorem setPreference_touches :
    Touches [.preferences] store (setPreference account epoch field value store).2 := by
  unfold setPreference
  split
  · exact .refl store
  · exact editPreferences store

theorem joinChannel_touches :
    Touches [.channels] store (joinChannel limits account epoch channel store).2 := by
  unfold joinChannel
  split
  · exact .refl store
  · dsimp only
    split
    · exact .refl store
    · exact editChannels store

theorem leaveChannel_touches : Touches [.channels] store (leaveChannel account epoch channel store).2 := by
  unfold leaveChannel
  split
  · exact .refl store
  · exact (leaveOwned_touches store channel).trans (editChannels _)

theorem listChannel_touches : Touches [.channels] store (listChannel channel store).2 := by
  have swept : Touches [.channels] store (sweep (activeMember channel)
    (fun store entry => store.removeMember channel entry.1) (store.channelMembers channel).entries store).2 :=
    .sweep fun after entry => editChannels after
  exact swept.trans (editChannels _)

theorem attachSpectator_touches :
    Touches [.relations, .frames] store (attachSpectator lua limits call store).2 := by
  have attached : ∀ expiry, Touches [.relations, .frames] store
    (tidyFrames limits call.host store.clock (relate lua call expiry store)) := fun expiry =>
    ((relate_touches store).mono (by simp)).trans ((tidyFrames_touches _).mono (by simp))
  unfold attachSpectator
  dsimp only
  split
  · exact .refl store
  split
  · exact .refl store
  · split
    · exact .refl store
    · split
      · exact .refl store
      · split_ifs <;> first | exact .refl store | exact attached _

theorem detachSpectator_touches : Touches [.relations] store (detachSpectator call store).2 := by
  unfold detachSpectator
  split
  · exact editRelations store
  · exact .refl store

theorem getSpectator_touches : Touches [.relations] store (getSpectator account epoch instant store).2 := by
  unfold getSpectator
  dsimp only
  split
  · exact .refl store
  · split
    · exact .refl store
    · split
      · exact .refl store
      · exact editRelations store

theorem listSpectators_touches : Touches [.relations] store (listSpectators host epoch instant store).2 := by
  unfold listSpectators
  dsimp only
  split
  · exact .refl store
  · have swept : Touches [.relations] store (sweep (validViewer host epoch (max store.clock instant))
      (fun store => store.pruneViewer host epoch) (store.viewers host).members store).2 :=
      .sweep fun store key => pruneViewer_touches store key
    exact swept.trans (refreshViewers_touches _)

theorem PublishCall.begin_touches (call : PublishCall) : Touches [.frames] store (call.begin store) := by
  unfold PublishCall.begin
  split
  · exact editFrames store
  · exact .refl store

theorem publishFrame_touches :
    Touches [.relations, .frames] store (publishFrame lua limits call store).2 := by
  rcases publishFrame_cases lua limits call store with ⟨refusal, refused, _⟩ | ⟨_, _, stored⟩
  · rw [refused]
    exact .refl store
  · rw [stored]
    have begun := call.begin_touches store
    have pruned : Touches [.relations] (call.begin store) (call.prune (call.begin store)) :=
      .trans (.sweep fun store key => pruneRecipient_touches store key) (refreshViewers_touches _)
    exact ((begun.mono (by simp)).trans (pruned.mono (by simp))).trans ((storeFrame_touches _).mono (by simp))

theorem readFrames_touches :
    Touches [.frames] store (readFrames limits host epoch instant after limit store).2 := by
  unfold readFrames
  dsimp only
  split
  · exact .refl store
  split
  · exact .refl store
  · split
    · exact .refl store
    · split
      · exact editFrames store
      · exact expireFrames_touches store

end

section

variable {store after : Store}

/-- An open that is answered: the next revision of the session is current for the
account, and a session that was current before is gone. -/
structure Opened (lua : Lua) (limits : Limits) (call : OpenCall) (store after : Store)
    (revision expiry : Nat) : Prop where
  clock : after.clock = store.clock
  live : store.clock < expiry
  bounded : expiry ≤ call.durableExpiry
  within : expiry ≤ store.clock + limits.sessionTtl
  next : revision = (store.revisions.get call.session).getD 0 + 1
  free : ∀ session, store.sessions.get call.session = some session → session.account = call.account
  revisions : after.revisions = store.revisions.put call.session revision call.durableExpiry
  epochs : after.epochs = store.epochs.put call.account ⟨call.session, lua.tostring revision⟩ expiry
  opened : after.sessions call.session =
    some ⟨⟨call.account, lua.argument revision, expiry, call.durableExpiry⟩, expiry⟩
  kept : ∀ session, session ≠ call.session →
    (∀ old, store.epochs.get call.account = some old → session ≠ old.session) →
    after.sessions session = store.sessions session
  only : ∀ session entry, session ≠ call.session → after.sessions session = some entry →
    store.sessions session = some entry
  presences : after.presences = store.presences.drop call.account

/-- A heartbeat that is answered: the session and the epoch have a later expiry. -/
structure Renewed (limits : Limits) (call : HeartbeatCall) (store after : Store) (expiry : Nat) : Prop where
  clock : after.clock = store.clock
  valid : ∃ current durable, sessionStatus store call.account call.epoch store.clock =
    .ok (current, durable) ∧ current ≤ expiry ∧
    expiry ≤ max current (min durable (store.clock + limits.sessionTtl)) ∧
    after.sessions = store.sessions.put call.epoch.session ⟨call.account, call.epoch.revision,
    expiry, durable⟩ expiry
  epochs : after.epochs = store.epochs.touch call.account expiry
  revisions : after.revisions = store.revisions
  presences : (∀ presence, store.presences.get call.account = some presence → presence.epoch ≠ call.epoch) ∧
      after.presences = store.presences ∨
    ∃ presence deadline, deadline = min expiry (store.clock + limits.presenceTtl) ∧
      store.presences.get call.account = some presence ∧ presence.epoch = call.epoch ∧
      after.presences = store.presences.put call.account { presence with expiresAt := deadline } deadline

/-- A fence that is answered: the session and the epoch are gone. -/
structure Fenced (account : String) (epoch : Epoch) (store after : Store) : Prop where
  clock : after.clock = store.clock
  valid : ∃ expiry durable, sessionStatus store account epoch store.clock = .ok (expiry, durable)
  sessions : after.sessions = store.sessions.drop epoch.session
  epochs : after.epochs = store.epochs.drop account
  revisions : after.revisions = store.revisions
  presences : after.presences = store.presences.drop account

theorem supersede_epochs (after : Store) (edited : store.supersede account session = after) :
    after.epochs = store.epochs ∧ after.revisions = store.revisions ∧ after.clock = store.clock ∧
      after.presences = store.presences := by
  subst edited
  unfold Store.supersede
  split
  · exact ⟨rfl, rfl, rfl, rfl⟩
  next old _ =>
  have released : Touches [.channels, .relations] store (store.releaseEpoch account old) :=
    releaseEpoch_touches store
  obtain ⟨_, epochs, revisions⟩ := released.others .sessions (by simp)
  obtain ⟨presences, _⟩ := released.others .presences (by simp)
  split
  · exact ⟨epochs, revisions, released.clock, presences⟩
  · exact ⟨epochs, revisions, released.clock, presences⟩

/-- A new open deletes the session that was current before, unless it is the same one. -/
theorem supersede_sessions (after : Store) (edited : store.supersede account session = after) :
    after.sessions = store.sessions ∨ ∃ old, store.epochs.get account = some old ∧
        old.session ≠ session ∧ after.sessions = store.sessions.drop old.session := by
  subst edited
  unfold Store.supersede
  split
  · exact .inl rfl
  next old found =>
  have released : Touches [.channels, .relations] store (store.releaseEpoch account old) :=
    releaseEpoch_touches store
  obtain ⟨sessions, _, _⟩ := released.others .sessions (by simp)
  split
  · exact .inl sessions
  · next different => exact .inr ⟨old, found, different, congrArg (drop · old.session) sessions⟩

theorem openSession_cases (lua : Lua) (limits : Limits) (call : OpenCall) (store : Store) :
    (∃ refusal, openSession lua limits call store = (.error refusal, store)) ∨
      ∃ revision expiry, (openSession lua limits call store).1 = .ok (lua.tostring revision, expiry) ∧
        Opened lua limits call store (openSession lua limits call store).2 revision expiry := by
  unfold openSession
  dsimp only
  split
  · exact .inl ⟨_, rfl⟩
  next proper =>
  split
  · exact .inl ⟨_, rfl⟩
  next live =>
  split
  · exact .inl ⟨_, rfl⟩
  split
  · exact .inl ⟨_, rfl⟩
  next free =>
  obtain ⟨epochs, revisions, clock, presences⟩ : _ ∧ _ ∧ _ ∧ _ :=
    supersede_epochs (store.supersede call.account call.session) rfl
  refine .inr ⟨_, _, rfl, ?_⟩
  constructor
  · exact clock
  · exact Nat.lt_of_not_le live
  · exact (Nat.min_le_left _ _).trans (Nat.min_le_right _ _)
  · exact Nat.min_le_right _ _
  · rfl
  · intro session found
    simpa [found] using free
  · exact congrArg (put · _ _ _) revisions
  · exact congrArg (put · _ _ _) epochs
  · exact put_same
  · intro session different unlisted
    refine (put_other different).trans ?_
    rcases supersede_sessions (store.supersede call.account call.session) rfl with same | ⟨old,
      found, _, dropped⟩
    · exact congrFun same session
    · exact (congrFun dropped session).trans (drop_other (unlisted old found))
  · intro session entry different found
    have kept := (put_other different).symm.trans found
    rcases supersede_sessions (store.supersede call.account call.session) rfl with same | ⟨old, _, _, dropped⟩
    · exact (congrFun same session).symm.trans kept
    · exact (of_drop ((congrFun dropped session).symm.trans kept)).2
  · exact congrArg (drop · call.account) presences

theorem renewOwned_presences (store : Store) :
    (∀ presence, store.presences.get account = some presence → presence.epoch ≠ epoch) ∧
        (store.renewOwned account epoch expiry presenceExpiry).presences = store.presences ∨
      ∃ presence, store.presences.get account = some presence ∧ presence.epoch = epoch ∧
        (store.renewOwned account epoch expiry presenceExpiry).presences =
          store.presences.put account { presence with expiresAt := presenceExpiry } presenceExpiry := by
  have others : Touches [.preferences, .channels, .relations]
    (store.renewPresence account epoch presenceExpiry)
    (store.renewOwned account epoch expiry presenceExpiry) :=
    ((renewPreference_touches _).mono (by simp)).trans (((renewChannels_touches _).mono (by simp)).trans
      (((renewRelation_touches _).trans (renewViewers_touches _)).mono (by simp)))
  obtain ⟨same, _⟩ := others.others .presences (by simp)
  rw [same]
  unfold Store.renewPresence
  split
  · next absent => exact .inl ⟨by simp [absent], rfl⟩
  · next presence found =>
    split
    · next owned => exact .inr ⟨presence, found, owned, rfl⟩
    · next foreign => exact .inl ⟨by simpa [found] using foreign, rfl⟩

theorem heartbeatSession_cases (limits : Limits) (call : HeartbeatCall) (store : Store) :
    (∃ refusal, heartbeatSession limits call store = (.error refusal, store)) ∨
      ∃ expiry, (heartbeatSession limits call store).1 = .ok expiry ∧
        Renewed limits call store (heartbeatSession limits call store).2 expiry := by
  unfold heartbeatSession
  dsimp only
  split
  · exact .inl ⟨_, rfl⟩
  next current durable valid =>
  split
  · exact .inl ⟨_, rfl⟩
  refine .inr ⟨_, rfl, ?_⟩
  have bounded : max current (min (min call.requestedExpiry durable) (store.clock + limits.sessionTtl)) ≤
    max current (min durable (store.clock + limits.sessionTtl)) :=
    max_le_max_left _ (min_le_min_right _ (Nat.min_le_right _ _))
  have later : current ≤ max current
    (min (min call.requestedExpiry durable) (store.clock + limits.sessionTtl)) :=
    Nat.le_max_left _ _
  generalize max current (min (min call.requestedExpiry durable)
    (store.clock + limits.sessionTtl)) = expiry at *
  have renewed := renewOwned_touches { store with
      sessions := store.sessions.put call.epoch.session ⟨call.account, call.epoch.revision, expiry,
        durable⟩ expiry
      epochs := store.epochs.touch call.account expiry }
    call.account call.epoch expiry (min expiry (store.clock + limits.presenceTtl))
  obtain ⟨sessions, epochs, revisions⟩ := renewed.others .sessions (by simp)
  refine ⟨renewed.clock, ⟨current, durable, valid, later, bounded, sessions⟩, epochs, revisions, ?_⟩
  rcases renewOwned_presences { store with
      sessions := store.sessions.put call.epoch.session ⟨call.account, call.epoch.revision, expiry,
        durable⟩ expiry
      epochs := store.epochs.touch call.account expiry } with same | ⟨presence, found, owned, written⟩
  · exact .inl same
  · exact .inr ⟨presence, _, rfl, found, owned, written⟩

theorem fenceSession_cases (account : String) (epoch : Epoch) (store : Store) :
    (∃ refusal, fenceSession account epoch store = (.error refusal, store)) ∨
      (fenceSession account epoch store).1 = .ok () ∧
      Fenced account epoch store (fenceSession account epoch store).2 := by
  unfold fenceSession
  split
  · exact .inl ⟨_, rfl⟩
  next answer valid =>
  have released : Touches [.channels, .relations] store (store.releaseEpoch account epoch) :=
    releaseEpoch_touches store
  obtain ⟨sessions, epochs, revisions⟩ := released.others .sessions (by simp)
  obtain ⟨presences, _⟩ := released.others .presences (by simp)
  refine .inr ⟨rfl, ?_⟩
  constructor
  · exact released.clock
  · exact ⟨_, _, valid⟩
  · exact congrArg (drop · epoch.session) sessions
  · exact congrArg (drop · account) epochs
  · exact revisions
  · exact congrArg (drop · account) presences

/-- The parts of a store that a call may edit. -/
def Call.parts : Call → List Part
  | openSession _ | fenceSession _ _ => [.sessions, .presences, .preferences, .channels, .relations, .frames]
  | heartbeatSession _ => [.sessions, .presences, .preferences, .channels, .relations]
  | setPresence _ | clearPresence _ _ => [.presences]
  | setPreference _ _ _ _ => [.preferences]
  | joinChannel _ _ _ | leaveChannel _ _ _ | listChannel _ => [.channels]
  | attachSpectator _ | publishFrame _ => [.relations, .frames]
  | detachSpectator _ | getSpectator _ _ _ | listSpectators _ _ _ => [.relations]
  | readFrames _ _ _ _ _ => [.frames]

theorem Call.run_touches (lua : Lua) (limits : Limits) (store : Store) (call : Call) :
    Touches call.parts store (call.run lua limits store) := by
  cases call with
  | openSession call =>
    rcases openSession_cases lua limits call store with ⟨refusal, refused⟩ | ⟨_, _, _, opened⟩
    · simp only [Call.run, refused]
      exact .refl store
    · refine ⟨opened.clock, fun part outside => ?_⟩
      cases part <;> simp [Call.parts] at outside
  | heartbeatSession call =>
    simp only [Call.run, Realtime.heartbeatSession]
    split
    · exact .refl store
    · split
      · exact .refl store
      · exact ((editSessions store).mono (by simp [Call.parts])).trans
          ((renewOwned_touches _ _ _ _ _).mono (by simp [Call.parts]))
  | fenceSession account epoch =>
    rcases fenceSession_cases account epoch store with ⟨refusal, refused⟩ | ⟨_, fenced⟩
    · simp only [Call.run, refused]
      exact .refl store
    · refine ⟨fenced.clock, fun part outside => ?_⟩
      cases part <;> simp [Call.parts] at outside
  | setPresence => exact setPresence_touches store
  | clearPresence => exact clearPresence_touches store
  | setPreference => exact setPreference_touches store
  | joinChannel => exact joinChannel_touches store
  | leaveChannel => exact leaveChannel_touches store
  | listChannel => exact listChannel_touches store
  | attachSpectator => exact attachSpectator_touches store
  | detachSpectator => exact detachSpectator_touches store
  | getSpectator => exact getSpectator_touches store
  | listSpectators => exact listSpectators_touches store
  | publishFrame => exact publishFrame_touches store
  | readFrames => exact readFrames_touches store

/-- What a call can do to the sessions. -/
theorem Call.run_cases (lua : Lua) (limits : Limits) (store : Store) (call : Call) :
    (∃ parts, .sessions ∉ parts ∧ Touches parts store (call.run lua limits store)) ∨
      (∃ opening revision expiry, call = .openSession opening ∧
        Opened lua limits opening store (call.run lua limits store) revision expiry) ∨
      (∃ beat expiry, call = .heartbeatSession beat ∧
        Renewed limits beat store (call.run lua limits store) expiry) ∨
      ∃ account epoch, call = .fenceSession account epoch ∧
      Fenced account epoch store (call.run lua limits store) := by
  cases call with
  | openSession call =>
    rcases openSession_cases lua limits call store with ⟨refusal, refused⟩ | ⟨revision, expiry, _, opened⟩
    · exact .inl ⟨[], by simp, by simp only [Call.run, refused]; exact .refl store⟩
    · exact .inr (.inl ⟨call, revision, expiry, rfl, opened⟩)
  | heartbeatSession call =>
    rcases heartbeatSession_cases limits call store with ⟨refusal, refused⟩ | ⟨expiry, _, renewed⟩
    · exact .inl ⟨[], by simp, by simp only [Call.run, refused]; exact .refl store⟩
    · exact .inr (.inr (.inl ⟨call, expiry, rfl, renewed⟩))
  | fenceSession account epoch =>
    rcases fenceSession_cases account epoch store with ⟨refusal, refused⟩ | ⟨_, fenced⟩
    · exact .inl ⟨[], by simp, by simp only [Call.run, refused]; exact .refl store⟩
    · exact .inr (.inr (.inr ⟨account, epoch, rfl, fenced⟩))
  | _ => exact .inl ⟨_, by simp [Call.parts], Call.run_touches lua limits store _⟩

end

section

variable (lua : Lua) (limits : Limits) (allowed : Call → Prop)

/-- An allowed call, or time that passes. -/
inductive Step : Store → Store → Prop where
  | call {store : Store} (call : Call) (permitted : allowed call) : Step store (call.run lua limits store)
  | advance {store : Store} (now : Nat) (later : store.clock ≤ now) : Step store (store.advance now)

abbrev Runs : Store → Store → Prop := Relation.ReflTransGen (Step lua limits allowed)

end

end Perfcho.Realtime
