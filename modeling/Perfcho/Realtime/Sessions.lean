import Perfcho.Realtime.Store

/-! The scripts that open, renew and fence a session, and those for presences,
preferences and channels. -/

namespace Perfcho.Realtime

open Foundation Function

namespace Store

/-- `refresh_channel` -/
def refreshChannel (store : Store) (channel : String) : Store :=
  let members := (store.channelMembers channel).refresh store.clock
  { store with
    channelMembers := update store.channelMembers channel members
    channelEpochs := match members.deadline with
      | none => store.channelEpochs.drop channel
      | some deadline => store.channelEpochs.touch channel deadline }

/-- An account and its epoch are taken out of a channel. -/
def removeMember (store : Store) (channel account : String) : Store :=
  { store with
    channelMembers := update store.channelMembers channel ((store.channelMembers channel).remove account)
    channelEpochs := update store.channelEpochs channel ((store.channelEpochs channel).map fun entry =>
      ⟨update entry.value account none, entry.deadline⟩) }

/-- The epoch under which an account is in a channel. -/
def memberEpoch (store : Store) (channel account : String) : Option Epoch :=
  (store.channelEpochs.get channel).bind (· account)

/-- A channel is left if it was joined under the epoch. -/
def leaveOwned (account : String) (epoch : Epoch) (store : Store) (channel : String) : Store :=
  if store.memberEpoch channel account = some epoch then
    (store.removeMember channel account).refreshChannel channel
  else store

/-- `ZREM` and `refresh_viewers` -/
def removeViewer (store : Store) (host spectator : String) : Store :=
  { store with
    viewers := update store.viewers host (((store.viewers host).remove spectator).refresh store.clock) }

/-- The relation of an account is ended on both sides if it is one of the epoch. -/
def endWatching (account : String) (epoch : Epoch) (store : Store) : Store :=
  match store.relations.get account with
  | none => store
  | some relation =>
    if relation.spectatorEpoch = epoch then
      { store.removeViewer relation.host account with relations := store.relations.drop account }
    else store

/-- The relation of a spectator is dropped if it is one with an epoch of its host. -/
def dropRelation (store : Store) (epoch : Epoch) (spectator : String) : Store :=
  if (store.relations.get spectator).any (·.hostEpoch = epoch) then
    { store with relations := store.relations.drop spectator }
  else store

/-- A viewer that is not valid is taken out, with its relation if that is one with the epoch. -/
def pruneViewer (store : Store) (host : String) (epoch : Epoch) (spectator : String) : Store :=
  { store.dropRelation epoch spectator with
    viewers := update store.viewers host ((store.viewers host).remove spectator) }

/-- An epoch leaves its channels. -/
def releaseChannels (account : String) (epoch : Epoch) (store : Store) : Store :=
  let left := ((store.channels.get epoch.session).getD []).foldl (leaveOwned account epoch) store
  { left with channels := left.channels.drop epoch.session }

/-- The relations of those who watch an epoch end. -/
def releaseViewers (account : String) (epoch : Epoch) (store : Store) : Store :=
  let released := (store.viewers account).members.foldl (fun store spectator =>
    store.dropRelation epoch spectator) store
  { released with viewers := update released.viewers account .empty }

/-- What both a new open and a fence take away from an epoch: its channels, its own
relation and the relations of those who watch it. -/
def releaseEpoch (account : String) (epoch : Epoch) (store : Store) : Store :=
  ((store.releaseChannels account epoch).endWatching account epoch).releaseViewers account epoch

/-- The keys of an account and of a session that a new open and a fence delete. -/
def clearOwned (account : String) (session : Uuid) (store : Store) : Store :=
  { store with
    presences := store.presences.drop account
    presenceIndex := (store.presenceIndex.remove account).refresh store.clock
    preferences := store.preferences.drop account
    channels := store.channels.drop session
    relations := store.relations.drop account
    relationRevisions := store.relationRevisions.drop account
    viewers := update store.viewers account .empty
    frames := update store.frames account .empty
    frameBytes := store.frameBytes.drop account
    frameStates := store.frameStates.drop account }

/-- What a new open does to the epoch that it follows. -/
def supersede (account : String) (session : Uuid) (store : Store) : Store :=
  match store.epochs.get account with
  | none => store
  | some old =>
    let released := store.releaseEpoch account old
    if old.session = session then released else
      { released with sessions := released.sessions.drop old.session }

end Store

section

variable (lua : Lua) (limits : Limits)

structure OpenCall where
  account : String
  session : Uuid
  requestedExpiry : Nat
  durableExpiry : Nat

/-- `OPEN_SESSION`: the text of the revision and the expiry. -/
def openSession (call : OpenCall) (store : Store) : Reply (String × Nat) :=
  let now := store.clock
  if call.requestedExpiry ≤ now ∨ call.durableExpiry < call.requestedExpiry then
    (.error .invalidExpiry, store)
  else
    let expiry := min (min call.requestedExpiry call.durableExpiry) (now + limits.sessionTtl)
    if expiry ≤ now then (.error .invalidExpiry, store)
    else if store.revisions.get call.session = some maxRevision then (.error .revisionOverflow, store)
    else if (store.sessions.get call.session).any (·.account ≠ call.account) then (.error .fenced, store)
    else
      let cleared := (store.supersede call.account call.session).clearOwned call.account call.session
      let revision := (store.revisions.get call.session).getD 0 + 1
      (.ok (lua.tostring revision, expiry), { cleared with
          revisions := cleared.revisions.put call.session revision call.durableExpiry
          sessions := cleared.sessions.put call.session
            ⟨call.account, lua.argument revision, expiry, call.durableExpiry⟩ expiry
          epochs := cleared.epochs.put call.account ⟨call.session, lua.tostring revision⟩ expiry })

/-- `RESOLVE_SESSION`: the account, the revision and the expiry of a session. -/
def resolveSession (session : Uuid) (instant : Nat) (store : Store) :
    Except Refusal (String × String × Nat) :=
  match store.sessions.get session with
  | none => .error .notFound
  | some found =>
    if found.expiresAt ≤ instant then .error .notFound
    else if store.epochs.get found.account ≠ some ⟨session, found.revision⟩ then .error .fenced
    else .ok (found.account, found.revision, found.expiresAt)

namespace Store

variable (account : String) (epoch : Epoch) (expiry : Nat)

/-- A heartbeat renews the presence of its epoch. -/
def renewPresence (presenceExpiry : Nat) (store : Store) : Store :=
  match store.presences.get account with
  | none => store
  | some presence =>
    if presence.epoch = epoch then
      { store with
        presences := store.presences.put account { presence with expiresAt := presenceExpiry } presenceExpiry
        presenceIndex := (store.presenceIndex.add account presenceExpiry).refresh store.clock }
    else store

def renewPreference (store : Store) : Store :=
  if (store.preferences.get account).any (·.epoch = epoch) then
    { store with preferences := store.preferences.touch account expiry }
  else store

/-- One channel of a session: the membership is renewed, or the channel is forgotten if
the account is in it under another epoch. -/
def renewChannel (store : Store) (channel : String) : Store :=
  if store.memberEpoch channel account = some epoch then
    { store with
      channelMembers :=
        update store.channelMembers channel ((store.channelMembers channel).add account expiry)
          }.refreshChannel channel
  else
    { store with
      channels := update store.channels epoch.session ((store.channels epoch.session).map fun entry =>
        ⟨entry.value.filter (· ≠ channel), entry.deadline⟩) }

def renewChannels (store : Store) : Store :=
  let renewed := ((store.channels.get epoch.session).getD []).foldl (renewChannel account epoch expiry) store
  if ((renewed.channels.get epoch.session).getD []) = [] then
    { renewed with channels := renewed.channels.drop epoch.session }
  else { renewed with channels := renewed.channels.touch epoch.session expiry }

/-- The relation of an account with a host that is still current is renewed on both
sides, any other one of the epoch is dropped. -/
def renewRelation (store : Store) : Store :=
  match store.relations.get account with
  | none => store
  | some relation =>
    if relation.spectatorEpoch = epoch then
      match store.sessions.get relation.hostEpoch.session with
      | none => { store with relations := store.relations.drop account }
      | some host =>
        if store.clock < host.expiresAt ∧ store.epochs.get relation.host = some relation.hostEpoch then
          let relationExpiry := min expiry host.expiresAt
          { store with
            relations := store.relations.put account { relation with expiresAt := relationExpiry }
              relationExpiry
            viewers := update store.viewers relation.host
              (((store.viewers relation.host).add account relationExpiry).refresh store.clock) }
        else { store with relations := store.relations.drop account }
    else store

/-- The relation of a spectator with the epoch of its host and the expiry of the
spectator's session, if both are current. -/
def watching (epoch : Epoch) (store : Store) (spectator : String) : Option (Relation × Nat) :=
  match store.relations.get spectator with
  | none => none
  | some relation =>
    if relation.hostEpoch = epoch then
      match store.sessions.get relation.spectatorEpoch.session with
      | none => none
      | some session =>
        if store.clock < session.expiresAt ∧ store.epochs.get spectator = some relation.spectatorEpoch then
          some (relation, session.expiresAt)
        else none
    else none

/-- One spectator of a host that sends a heartbeat. -/
def renewViewer (store : Store) (spectator : String) : Store :=
  match store.watching epoch spectator with
  | some (relation, spectatorExpiry) =>
    let relationExpiry := min expiry spectatorExpiry
    { store with
      relations := store.relations.put spectator { relation with expiresAt := relationExpiry } relationExpiry
      viewers := update store.viewers account ((store.viewers account).add spectator relationExpiry) }
  | none => store.pruneViewer account epoch spectator

/-- `refresh_viewers` -/
def refreshViewers (store : Store) : Store :=
  { store with viewers := update store.viewers account ((store.viewers account).refresh store.clock) }

def renewViewers (store : Store) : Store :=
  ((store.viewers account).members.foldl (renewViewer account epoch expiry) store).refreshViewers account

/-- What a heartbeat renews besides the session. -/
def renewOwned (presenceExpiry : Nat) (store : Store) : Store :=
  let presented := store.renewPresence account epoch presenceExpiry
  let preferred := presented.renewPreference account epoch expiry
  let joined := preferred.renewChannels account epoch expiry
  let related := joined.renewRelation account epoch expiry
  related.renewViewers account epoch expiry

end Store

structure HeartbeatCall where
  account : String
  epoch : Epoch
  requestedExpiry : Nat

/-- `HEARTBEAT_SESSION`: the new expiry. -/
def heartbeatSession (call : HeartbeatCall) (store : Store) : Reply Nat :=
  let now := store.clock
  match sessionStatus store call.account call.epoch now with
  | .error refusal => (.error refusal, store)
  | .ok (currentExpiry, durableExpiry) =>
    if call.requestedExpiry ≤ now then (.error .invalidExpiry, store)
    else
      let expiry := max currentExpiry (min (min call.requestedExpiry durableExpiry) (now + limits.sessionTtl))
      let renewed := { store with
        sessions := store.sessions.put call.epoch.session
          ⟨call.account, call.epoch.revision, expiry, durableExpiry⟩ expiry
        epochs := store.epochs.touch call.account expiry }
      (.ok expiry, renewed.renewOwned call.account call.epoch expiry (min expiry (now + limits.presenceTtl)))

/-- `FENCE_SESSION` -/
def fenceSession (account : String) (epoch : Epoch) (store : Store) : Reply Unit :=
  match sessionStatus store account epoch store.clock with
  | .error refusal => (.error refusal, store)
  | .ok _ =>
    let cleared := (store.releaseEpoch account epoch).clearOwned account epoch.session
    (.ok (), { cleared with
      sessions := cleared.sessions.drop epoch.session
      epochs := cleared.epochs.drop account })

structure PresenceCall where
  account : String
  epoch : Epoch
  expiry : Nat
  state : Bytes
  capacity : Int

/-- `SET_PRESENCE` -/
def setPresence (call : PresenceCall) (store : Store) : Reply Unit :=
  let now := store.clock
  match sessionStatus store call.account call.epoch now with
  | .error refusal => (.error refusal, store)
  | .ok (sessionExpiry, _) =>
    if call.expiry ≤ now ∨ sessionExpiry < call.expiry ∨ limits.presenceTtl < call.expiry - now then
      (.error .invalidExpiry, store)
    else if call.capacity < 0 then (.error .invalidCapacity, store)
    else
      let index := if 0 < call.capacity then store.presenceIndex.restrict (now < ·.2) else store.presenceIndex
      if 0 < call.capacity ∧ call.account ∉ index.members ∧ call.capacity ≤ index.entries.length then
        (.error .capacity, { store with presenceIndex := index.refresh now })
      else
        (.ok (), { store with
          presences := store.presences.put call.account ⟨call.account, call.epoch, call.expiry,
            call.state⟩ call.expiry
          presenceIndex := (index.add call.account call.expiry).refresh now })

/-- `CLEAR_PRESENCE` -/
def clearPresence (account : String) (epoch : Epoch) (store : Store) : Reply Unit :=
  if (store.presences.get account).any (·.epoch = epoch) then
    (.ok (), { store with
      presences := store.presences.drop account
      presenceIndex := (store.presenceIndex.remove account).refresh store.clock })
  else (.error .stale, store)

/-- `get_presence`: a presence that is not over at a time. -/
def getPresence (account : String) (instant : Nat) (store : Store) : Option Presence :=
  (store.presences.get account).filter fun presence => decide (instant < presence.expiresAt)

/-- `SET_PREFERENCE` -/
def setPreference (account : String) (epoch : Epoch) (field value : String) (store : Store) : Reply Unit :=
  match sessionStatus store account epoch store.clock with
  | .error refusal => (.error refusal, store)
  | .ok (expiry, _) =>
    let fields := ((store.preferences.get account).map (·.fields)).getD fun _ => none
    (.ok (), { store with
      preferences := store.preferences.put account ⟨epoch, update fields field (some value)⟩ expiry })

/-- `JOIN_CHANNEL` -/
def joinChannel (account : String) (epoch : Epoch) (channel : String) (store : Store) : Reply Unit :=
  match sessionStatus store account epoch store.clock with
  | .error refusal => (.error refusal, store)
  | .ok (expiry, _) =>
    let joined := (store.channels.get epoch.session).getD []
    if channel ∉ joined ∧ limits.maxChannels ≤ joined.length then (.error .limit, store)
    else
      let epochs := (store.channelEpochs.get channel).getD fun _ => none
      (.ok (), { store with
        channelMembers :=
          update store.channelMembers channel ((store.channelMembers channel).add account expiry)
        channelEpochs := store.channelEpochs.put channel (update epochs account (some epoch)) expiry
        channels := store.channels.put epoch.session (joined.insert channel) expiry }.refreshChannel channel)

/-- `LEAVE_CHANNEL` -/
def leaveChannel (account : String) (epoch : Epoch) (channel : String) (store : Store) : Reply Unit :=
  match sessionStatus store account epoch store.clock with
  | .error refusal => (.error refusal, store)
  | .ok _ =>
    let left := store.leaveOwned account epoch channel
    let kept := ((left.channels.get epoch.session).getD []).filter (· ≠ channel)
    (.ok (), { left with
      channels := if kept = [] then left.channels.drop epoch.session else update left.channels
        epoch.session ((left.channels epoch.session).map fun entry => ⟨kept, entry.deadline⟩) })

/-- The check of `LIST_CHANNEL`: a member that is not over and whose epoch is the current
one of the account and of its session. -/
def activeMember (channel : String) (store : Store) (entry : String × Nat) : Option String :=
  match store.memberEpoch channel entry.1 with
  | none => none
  | some epoch =>
    if store.clock < entry.2 ∧ store.epochs.get entry.1 = some epoch ∧
      (store.sessions.get epoch.session).any fun session =>
          session.account = entry.1 ∧ session.revision = epoch.revision ∧ store.clock < session.expiresAt then
      some entry.1
    else none

/-- `LIST_CHANNEL` -/
def listChannel (channel : String) (store : Store) : List String × Store :=
  let swept := sweep (activeMember channel) (fun store entry => store.removeMember channel entry.1)
    (store.channelMembers channel).entries store
  (swept.1, swept.2.refreshChannel channel)

end

end Perfcho.Realtime
