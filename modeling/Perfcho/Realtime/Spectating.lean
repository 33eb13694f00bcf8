import Perfcho.Realtime.Sessions

/-! The scripts for spectators: the relation of an account with the host it watches,
which is kept on both sides, and the frames that a host publishes. -/

namespace Perfcho.Realtime

open Foundation Function

namespace Store

/-- `expire_frames` -/
def expireFrames (host : String) (frames : FrameSet) (count : Int) (bytes deadline : Nat)
    (store : Store) : Store :=
  if count = 0 then
    { store with
      frames := update store.frames host .empty
      frameBytes := store.frameBytes.drop host }
  else
    { store with
      frames := update store.frames host { frames with deadline := some deadline }
      frameBytes := store.frameBytes.put host bytes deadline }

def dropFrames (host : String) (store : Store) : Store :=
  { store with
    frames := update store.frames host .empty
    frameBytes := store.frameBytes.drop host }

end Store

section

variable (lua : Lua) (limits : Limits)

/-- The presence of a host that is not over, as its expiry. -/
def hostPresence (store : Store) (host : String) (epoch : Epoch) : Option Nat :=
  match store.presences.get host with
  | none => none
  | some presence => if presence.epoch = epoch ∧ store.clock < presence.expiresAt then
      some presence.expiresAt else none

structure AttachCall where
  host : String
  spectator : String
  relationId : Uuid
  hostEpoch : Epoch
  spectatorEpoch : Epoch
  expiry : Nat
  historyLimit : Nat

/-- A host that is fenced or gone is answered differently from a spectator. -/
def hostRefusal : Refusal → Refusal
  | .fenced => .hostFenced
  | .notFound => .hostNotFound
  | refusal => refusal

def AttachCall.relation (call : AttachCall) (revision : String) : Relation :=
  ⟨call.host, call.spectator, call.relationId, revision, call.hostEpoch, call.spectatorEpoch, call.expiry⟩

/-- The part of `ATTACH_SPECTATOR` that stores the relation. -/
def relate (call : AttachCall) (spectatorExpiry : Nat) (store : Store) : Store :=
  let unwatched := match store.relations.get call.spectator with
    | none => store
    | some previous => store.removeViewer previous.host call.spectator
  let revision := (store.relationRevisions.get call.spectator).getD 0 + 1
  { unwatched with
    relationRevisions := store.relationRevisions.put call.spectator revision spectatorExpiry
    relations := store.relations.put call.spectator (call.relation (lua.argument revision)) call.expiry
    viewers := update unwatched.viewers call.host
      (((unwatched.viewers call.host).add call.spectator call.expiry).refresh store.clock) }

/-- The frames of a host without those that are over. A history that cannot be read is
dropped. -/
def tidyFrames (host : String) (instant : Nat) (store : Store) : Store :=
  match frameStats instant limits.maxFrameCount (store.frames host) with
  | (none, _) => store.dropFrames host
  | (some totals, frames) => store.expireFrames host frames totals.count totals.bytes totals.deadline

/-- `attach_spectator` and `ATTACH_SPECTATOR`: the revision of the relation and the latest
frames. -/
def attachSpectator (call : AttachCall) (store : Store) : Reply (String × Window) :=
  let now := store.clock
  if call.host = call.spectator ∨ call.historyLimit = 0 ∨ limits.maxFrameCount < call.historyLimit then
    (.error .invalidArgument, store)
  else match sessionStatus store call.host call.hostEpoch now with
  | .error refusal => (.error (hostRefusal refusal), store)
  | .ok (hostExpiry, _) =>
    match sessionStatus store call.spectator call.spectatorEpoch now with
    | .error refusal => (.error refusal, store)
    | .ok (spectatorExpiry, _) =>
      match hostPresence store call.host call.hostEpoch with
      | none => (.error .offline, store)
      | some presenceExpiry =>
        if call.expiry ≤ now ∨ min (min hostExpiry spectatorExpiry) presenceExpiry < call.expiry ∨
          limits.presenceTtl < call.expiry - now then (.error .invalidExpiry, store)
        else if call.spectator ∉ (store.viewers call.host).members ∧
          limits.maxSpectators ≤ (store.viewers call.host).entries.length then (.error .limit, store)
        else if store.relationRevisions.get call.spectator = some maxRevision then
          (.error .revisionOverflow, store)
        else
          let attached := tidyFrames limits call.host now (relate lua call spectatorExpiry store)
          (.ok (lua.tostring ((store.relationRevisions.get call.spectator).getD 0 + 1),
            latestFrameWindow call.historyLimit (attached.frames call.host).members), attached)

structure DetachCall where
  host : String
  spectator : String
  relationId : Uuid
  revision : Nat
  hostEpoch : Epoch
  spectatorEpoch : Epoch

/-- `DETACH_SPECTATOR` -/
def detachSpectator (call : DetachCall) (store : Store) : Reply Unit :=
  if (store.relations.get call.spectator).any fun relation =>
      relation.host = call.host ∧ relation.spectator = call.spectator ∧
        relation.relationId = call.relationId ∧ relation.revision = toString call.revision ∧
        relation.hostEpoch = call.hostEpoch ∧ relation.spectatorEpoch = call.spectatorEpoch then
    (.ok (), { store.removeViewer call.host call.spectator with
      relations := store.relations.drop call.spectator })
  else (.error .stale, store)

/-- `GET_SPECTATOR`: the relation of a spectator. -/
def getSpectator (account : String) (epoch : Epoch) (instant : Nat) (store : Store) : Reply Relation :=
  let now := max store.clock instant
  match sessionStatus store account epoch now with
  | .error refusal => (.error refusal, store)
  | .ok _ =>
    match store.relations.get account with
    | none => (.error .none, store)
    | some relation =>
      if now < relation.expiresAt ∧ relation.spectatorEpoch = epoch ∧
        store.epochs.get relation.host = some relation.hostEpoch ∧
        (store.sessions.get relation.hostEpoch.session).any (now < ·.expiresAt) then
        (.ok relation, store)
      else
        (.error .none, { store.removeViewer relation.host account with
          relations := store.relations.drop account })

/-- The relation of an entry of the viewers of a host, if it is valid on both sides. -/
def validViewer (host : String) (epoch : Epoch) (now : Nat) (store : Store) (spectator : String) :
    Option (String × Relation) :=
  match store.relations.get spectator with
  | none => none
  | some relation =>
    if relation.host = host ∧ relation.hostEpoch = epoch ∧ now < relation.expiresAt ∧
      store.epochs.get spectator = some relation.spectatorEpoch ∧
      (store.sessions.get relation.spectatorEpoch.session).any (now < ·.expiresAt) then
      some (spectator, relation)
    else none

/-- `LIST_SPECTATORS`: every spectator with its relation. -/
def listSpectators (host : String) (epoch : Epoch) (instant : Nat) (store : Store) :
    Reply (List (String × Relation)) :=
  let now := max store.clock instant
  match sessionStatus store host epoch now with
  | .error refusal => (.error refusal, store)
  | .ok _ =>
    let swept := sweep (validViewer host epoch now) (fun store => store.pruneViewer host epoch)
      (store.viewers host).members store
    (.ok swept.1, swept.2.refreshViewers host)

/-- A target of a frame: an account, the epoch it watches under and the expiry of its relation. -/
structure Recipient where
  account : String
  epoch : Epoch
  expiresAt : Nat
  deriving DecidableEq

/-- The check of `PUBLISH_FRAME` for a viewer. -/
def recipient (host : String) (epoch : Epoch) (store : Store) (spectator : String) : Option Recipient :=
  match store.relations.get spectator with
  | none => none
  | some relation =>
    if relation.host = host ∧ relation.spectator = spectator ∧ relation.hostEpoch = epoch ∧
      store.clock < relation.expiresAt then
      match sessionStatus store spectator relation.spectatorEpoch store.clock with
      | .ok _ => some ⟨spectator, relation.spectatorEpoch, relation.expiresAt⟩
      | .error _ => none
    else none

/-- A viewer that gets no frame is taken out, with its relation if that is one with the host. -/
def pruneRecipient (host : String) (epoch : Epoch) (store : Store) (spectator : String) : Store :=
  let viewers := update store.viewers host ((store.viewers host).remove spectator)
  if (store.relations.get spectator).any fun relation => relation.host = host ∧
    relation.hostEpoch = epoch then
    { store with viewers, relations := store.relations.drop spectator }
  else { store with viewers }

structure PublishCall where
  host : String
  epoch : Epoch
  sequence : Nat
  payload : Bytes
  expiry : Nat
  reset : Bool

/-- Whether a frame starts a new history: it asks for it, or another epoch published the last one. -/
def PublishCall.resets (call : PublishCall) (store : Store) : Bool :=
  call.reset || (store.frameStates.get call.host).any (·.epoch ≠ call.epoch)

/-- The last part of `PUBLISH_FRAME`: room is made for the frame and it is stored under
the next cursor. -/
def storeFrame (call : PublishCall) (store : Store) : Except Refusal Nat × Store :=
  let stats := frameStats store.clock limits.maxFrameCount (store.frames call.host)
  let totals := stats.1.getD ⟨0, 0, 0⟩
  let frames := if stats.1.isNone then .empty else stats.2
  match evictLoop limits.maxFrameCount limits.maxFrameBytes call.payload.length
    (frames.entries.length + 1) frames totals.count totals.bytes with
  | none => (.error .running, store)
  | some (room, count, bytes) =>
    let cursor := ((store.frameStates.get call.host).map (·.cursor)).getD 0 + 1
    let deadline := max totals.deadline call.expiry
    (.ok cursor,
      { store.expireFrames call.host
          (room.add (frameMember lua cursor call.expiry call.sequence call.payload) 0)
          (count + 1) (bytes + call.payload.length) deadline with
        frameStates := store.frameStates.put call.host ⟨cursor, call.sequence, call.epoch⟩ deadline })

/-- `publish_spectator_frame` and `PUBLISH_FRAME`: the cursor of the frame and its targets. -/
def publishFrame (call : PublishCall) (store : Store) : Reply (Nat × List Recipient) :=
  let now := store.clock
  if 65535 < call.sequence then (.error .invalidArgument, store)
  else match sessionStatus store call.host call.epoch now with
  | .error refusal => (.error refusal, store)
  | .ok (hostExpiry, _) =>
    match hostPresence store call.host call.epoch with
    | none => (.error .offline, store)
    | some presenceExpiry =>
      if limits.maxFrameBytes < call.payload.length then (.error .frameTooLarge, store)
      else if call.expiry ≤ now ∨ min hostExpiry presenceExpiry < call.expiry ∨
        limits.presenceTtl < call.expiry - now then (.error .invalidExpiry, store)
      else
        let begun := if call.resets store then
            { store.dropFrames call.host with frameStates := store.frameStates.drop call.host }
          else store
        let last := begun.frameStates.get call.host
        if last.any fun state =>
            let delta := (call.sequence + 65536 - state.sequence) % 65536
            delta = 0 ∨ 32768 < delta then (.error .nonMonotonic, begun)
        else if last.any (·.cursor = maxRevision) then (.error .sequenceOverflow, begun)
        else
          let swept := sweep (recipient call.host call.epoch) (pruneRecipient call.host call.epoch)
            (begun.viewers call.host).members begun
          match storeFrame lua limits call (swept.2.refreshViewers call.host) with
          | (.error refusal, after) => (.error refusal, after)
          | (.ok cursor, after) => (.ok (cursor, swept.1), after)

/-- `read_spectator_frames` and `READ_FRAMES` -/
def readFrames (host : String) (epoch : Epoch) (instant : Nat) (after : Option Nat) (limit : Nat)
    (store : Store) : Reply Window :=
  let now := max store.clock instant
  if limit = 0 ∨ limits.maxFrameCount < limit ∨ after.any (maxRevision < ·) then
    (.error .invalidArgument, store)
  else match sessionStatus store host epoch now with
  | .error refusal => (.error refusal, store)
  | .ok _ =>
    if (store.frameStates.get host).any (·.epoch ≠ epoch) then (.error .fenced, store)
    else match frameStats now limits.maxFrameCount (store.frames host) with
      | (none, frames) => (.error .corrupt, { store with frames := update store.frames host frames })
      | (some totals, frames) =>
        let tidied := store.expireFrames host frames totals.count totals.bytes totals.deadline
        (.ok (frameWindow after limit (tidied.frames host).members), tidied)

end

section

variable {store : Store}

theorem popMin_nil {set : FrameSet} (entries : set.entries = []) : set.popMin = (none, set) := by
  unfold SortedSet.popMin
  split
  · rfl
  · next same => cases entries.symm.trans same

theorem popMin_cons {set : FrameSet} (entries : set.entries = first :: others) :
    ∃ rest : FrameSet, set.popMin = (some first.1, rest) ∧ rest.entries = others := by
  unfold SortedSet.popMin
  split
  · next same => cases entries.symm.trans same
  · next same =>
    cases entries.symm.trans same
    exact ⟨_, rfl, rfl⟩

/-- The loop stops after at most one turn for every member. -/
theorem evictLoop_stops (maxCount maxBytes size : Nat) (fuel : Nat) (frames : FrameSet)
    (count : Int) (bytes : Nat) (enough : frames.entries.length < fuel) :
    (evictLoop maxCount maxBytes size fuel frames count bytes).isSome := by
  induction fuel generalizing frames count bytes with
  | zero => omega
  | succ fuel ih =>
    unfold evictLoop
    split
    · cases entries : frames.entries with
      | nil =>
        rw [popMin_nil entries]
        rfl
      | cons first others =>
        obtain ⟨rest, popped, left⟩ := popMin_cons entries
        rw [popped]
        apply ih
        rw [left]
        rw [entries, List.length_cons] at enough
        omega
    · rfl

def Store.nextCursor (store : Store) (host : String) : Nat :=
  ((store.frameStates.get host).map (·.cursor)).getD 0 + 1

theorem storeFrame_ok (lua : Lua) (limits : Limits) (call : PublishCall) (store : Store) :
    (storeFrame lua limits call store).1 = .ok (store.nextCursor call.host) ∧
      ∃ state, (storeFrame lua limits call store).2.frameStates.get call.host = some state ∧
        state.cursor = store.nextCursor call.host := by
  unfold storeFrame
  dsimp only
  split
  · next running =>
    refine absurd running (Option.ne_none_iff_isSome.mpr ?_)
    exact evictLoop_stops _ _ _ _ _ _ _ (Nat.lt_succ_self _)
  · exact ⟨rfl, _, congrArg (Option.map _) Keyspace.put_same, rfl⟩

/-- The store from which a publish goes on, without the history if that starts anew. -/
def PublishCall.begin (call : PublishCall) (store : Store) : Store :=
  if call.resets store then
    { store.dropFrames call.host with frameStates := store.frameStates.drop call.host } else store

/-- The store with the targets that a frame no longer has taken out. -/
def PublishCall.prune (call : PublishCall) (store : Store) : Store :=
  (sweep (recipient call.host call.epoch) (pruneRecipient call.host call.epoch)
    (store.viewers call.host).members
    store).2.refreshViewers call.host

theorem sessionStatus_refuses (refused : sessionStatus store account epoch now = .error refusal) :
    refusal = .fenced ∨ refusal = .notFound := by
  unfold sessionStatus at refused
  dsimp only at refused
  split at refused
  · cases refused; exact .inl rfl
  · split at refused
    · cases refused; exact .inr rfl
    · split_ifs at refused <;> cases refused <;> simp

/-- A history that starts anew has no last frame that could refuse the next one. -/
theorem PublishCall.begin_of_some {call : PublishCall}
    (found : (call.begin store).frameStates.get call.host = some last) :
    call.resets store = false ∧ call.begin store = store := by
  unfold PublishCall.begin at *
  split at found
  · change ((store.frameStates.drop call.host) call.host).map _ = _ at found
    rw [Keyspace.drop_same] at found
    cases found
  · next goes => exact ⟨Bool.not_eq_true _ ▸ goes, if_neg goes⟩

/-- The checks that a published frame has to pass. -/
structure PublishCall.Accepted (limits : Limits) (store : Store) (call : PublishCall) : Prop where
  sequence : call.sequence ≤ 65535
  small : call.payload.length ≤ limits.maxFrameBytes
  live : ∃ hostExpiry durable presenceExpiry,
    sessionStatus store call.host call.epoch store.clock = .ok (hostExpiry, durable) ∧
    hostPresence store call.host call.epoch = some presenceExpiry ∧ ¬ (call.expiry ≤ store.clock ∨
      min hostExpiry presenceExpiry < call.expiry ∨ limits.presenceTtl < call.expiry - store.clock)
  next : ∀ last, (call.begin store).frameStates.get call.host = some last →
    ¬ ((call.sequence + 65536 - last.sequence) % 65536 = 0 ∨
      32768 < (call.sequence + 65536 - last.sequence) % 65536) ∧ last.cursor ≠ maxRevision

/-- A publish is refused and leaves the store as it is, or it stores a frame. -/
theorem publishFrame_cases (lua : Lua) (limits : Limits) (call : PublishCall) (store : Store) :
    (∃ refusal, publishFrame lua limits call store = (.error refusal, store) ∧ refusal ≠ .running ∧
      ¬ call.Accepted limits store) ∨
    call.Accepted limits store ∧
      (publishFrame lua limits call store).1 = .ok ((call.prune (call.begin store)).nextCursor call.host,
        (sweep (recipient call.host call.epoch) (pruneRecipient call.host call.epoch)
          ((call.begin store).viewers call.host).members (call.begin store)).1) ∧
      (publishFrame lua limits call store).2 =
      (storeFrame lua limits call (call.prune (call.begin store))).2 := by
  unfold publishFrame
  dsimp only
  rw [show (if call.resets store then
    { store.dropFrames call.host with frameStates := store.frameStates.drop call.host }
    else store) = call.begin store from rfl]
  split
  · next large => exact .inl ⟨_, rfl, nofun, fun accepted => absurd accepted.sequence (not_le.mpr large)⟩
  next sequence =>
  split
  · next refused =>
    refine .inl ⟨_, rfl, by rcases sessionStatus_refuses refused with rfl | rfl <;> nofun, fun accepted => ?_⟩
    obtain ⟨_, _, _, valid, _⟩ := accepted.live
    cases refused.symm.trans valid
  · next valid =>
    split
    · next absent =>
      refine .inl ⟨_, rfl, nofun, fun accepted => ?_⟩
      obtain ⟨_, _, _, _, present, _⟩ := accepted.live
      cases absent.symm.trans present
    · next present =>
      split
      · next large => exact .inl ⟨_, rfl, nofun, fun accepted => absurd accepted.small (not_le.mpr large)⟩
      next small =>
      split
      · next untimely =>
        refine .inl ⟨_, rfl, nofun, fun accepted => ?_⟩
        obtain ⟨_, _, _, valid', present', timely⟩ := accepted.live
        cases valid.symm.trans valid'
        cases present.symm.trans present'
        exact timely untimely
      · next timely =>
        split
        · next late =>
          obtain ⟨last, found, late⟩ := (Option.any_eq_true _ _).mp late
          have kept := (PublishCall.begin_of_some found).2
          exact .inl ⟨.nonMonotonic, by rw [kept], nofun,
            fun accepted => (accepted.next last found).1 (of_decide_eq_true late)⟩
        · next onward =>
          split
          · next full =>
            obtain ⟨last, found, full⟩ := (Option.any_eq_true _ _).mp full
            have kept := (PublishCall.begin_of_some found).2
            exact .inl ⟨.sequenceOverflow, by rw [kept], nofun,
              fun accepted => (accepted.next last found).2 (of_decide_eq_true full)⟩
          · next counted =>
            have stored := (storeFrame_ok lua limits call (call.prune (call.begin store))).1
            refine .inr ⟨⟨not_lt.mp sequence, not_lt.mp small, ⟨_, _, _, valid, present, timely⟩, ?_⟩, ?_⟩
            · intro last found
              rw [found] at onward counted
              exact ⟨by simpa using onward, by simpa using counted⟩
            · unfold PublishCall.prune at *
              split
              · next refused =>
                rw [refused] at stored
                cases stored
              · next cursor after answered =>
                rw [answered] at stored
                cases stored
                exact ⟨rfl, congrArg Prod.snd answered.symm⟩

end

end Perfcho.Realtime
