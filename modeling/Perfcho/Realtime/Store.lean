import Perfcho.Realtime.Frames

/-! The keys of the realtime repository with the values the scripts keep under them. A
script runs at one time of the server and sees no key whose deadline has passed. -/

namespace Perfcho.Realtime

open Foundation

/-- The text `session|revision` of an account epoch. A session identifier has no bar. -/
structure Epoch where
  session : Uuid
  revision : String
  deriving DecidableEq

/-- The epoch that a caller quotes. -/
def SessionFence (session : Uuid) (revision : Nat) : Epoch := ⟨session, toString revision⟩

structure Session where
  account : String
  revision : String
  expiresAt : Nat
  durableExpiresAt : Nat

structure Presence where
  account : String
  epoch : Epoch
  expiresAt : Nat
  state : Bytes

structure Preference where
  epoch : Epoch
  fields : String → Option String

structure Relation where
  host : String
  spectator : String
  relationId : Uuid
  revision : String
  hostEpoch : Epoch
  spectatorEpoch : Epoch
  expiresAt : Nat

/-- The last cursor and sequence of a host with the epoch that published it. -/
structure FrameState where
  cursor : Nat
  sequence : Nat
  epoch : Epoch

/-- Accounts are ordered by their texts. -/
def textRank (text : String) : List Nat := text.toList.map Char.toNat

abbrev AccountSet := SortedSet textRank

structure Store where
  clock : Nat
  sessions : Keyspace Uuid Session
  /-- The current epoch of each account. -/
  epochs : Keyspace String Epoch
  /-- The revision counter of each session. -/
  revisions : Keyspace Uuid Nat
  presences : Keyspace String Presence
  presenceIndex : AccountSet
  preferences : Keyspace String Preference
  /-- The channels of each session. -/
  channels : Keyspace Uuid (List String)
  channelMembers : String → AccountSet
  channelEpochs : Keyspace String (String → Option Epoch)
  /-- The host that each account watches. -/
  relations : Keyspace String Relation
  relationRevisions : Keyspace String Nat
  /-- The accounts that watch each host. -/
  viewers : String → AccountSet
  frames : String → FrameSet
  frameBytes : Keyspace String Nat
  frameStates : Keyspace String FrameState

namespace Store

def empty (clock : Nat) : Store where
  clock
  sessions _ := none
  epochs _ := none
  revisions _ := none
  presences _ := none
  presenceIndex := .empty
  preferences _ := none
  channels _ := none
  channelMembers _ := .empty
  channelEpochs _ := none
  relations _ := none
  relationRevisions _ := none
  viewers _ := .empty
  frames _ := .empty
  frameBytes _ := none
  frameStates _ := none

/-- A later time: what is past its deadline can no longer be read. -/
def advance (now : Nat) (store : Store) : Store where
  clock := now
  sessions := store.sessions.purge now
  epochs := store.epochs.purge now
  revisions := store.revisions.purge now
  presences := store.presences.purge now
  presenceIndex := store.presenceIndex.purge now
  preferences := store.preferences.purge now
  channels := store.channels.purge now
  channelMembers channel := (store.channelMembers channel).purge now
  channelEpochs := store.channelEpochs.purge now
  relations := store.relations.purge now
  relationRevisions := store.relationRevisions.purge now
  viewers host := (store.viewers host).purge now
  frames host := (store.frames host).purge now
  frameBytes := store.frameBytes.purge now
  frameStates := store.frameStates.purge now

end Store

/-- Every answer of the scripts but `OK`, and the checks of a method before its script. -/
inductive Refusal where
  | notFound | fenced | invalidExpiry | revisionOverflow | limit | capacity | invalidCapacity | stale
  | hostNotFound | hostFenced | offline | none | frameTooLarge | nonMonotonic | sequenceOverflow | corrupt
  | invalidArgument | running
  deriving DecidableEq

abbrev Reply (Value : Type) := Except Refusal Value × Store

structure Limits where
  sessionTtl : Nat
  presenceTtl : Nat
  maxFrameCount : Nat
  maxFrameBytes : Nat
  maxChannels : Nat
  maxSpectators : Nat
  sessionTtl_pos : 0 < sessionTtl
  presenceTtl_pos : 0 < presenceTtl
  maxFrameCount_pos : 0 < maxFrameCount
  maxFrameBytes_pos : 0 < maxFrameBytes
  maxChannels_pos : 0 < maxChannels
  maxSpectators_pos : 0 < maxSpectators

/-- `MAX_REVISION` and `MAX_SEQUENCE` -/
def maxRevision : Nat := 2 ^ 63 - 1

/-- `session_status`: the expiry of a session and of its durable record. -/
def sessionStatus (store : Store) (account : String) (epoch : Epoch) (now : Nat) :
    Except Refusal (Nat × Nat) :=
  let current := store.epochs.get account
  if current.any (· ≠ epoch) then .error .fenced
  else match store.sessions.get epoch.session with
    | none => .error .notFound
    | some session =>
      if session.expiresAt ≤ now then .error .notFound
      else if session.account ≠ account ∨ session.revision ≠ epoch.revision ∨
        current ≠ some epoch then .error .fenced
      else .ok (session.expiresAt, session.durableExpiresAt)

theorem sessionStatus_eq_ok : sessionStatus store account epoch now = .ok (expiry, durable) ↔
    store.epochs.get account = some epoch ∧
      store.sessions.get epoch.session = some ⟨account, epoch.revision, expiry, durable⟩ ∧ now < expiry := by
  unfold sessionStatus
  dsimp only
  split
  · next other =>
    refine iff_of_false nofun ?_
    rintro ⟨current, _⟩
    simp [current] at other
  · next fits =>
    split
    · next absent =>
      refine iff_of_false nofun ?_
      rintro ⟨_, found, _⟩
      simp [absent] at found
    · next session found =>
      rw [found]
      split
      · next past =>
        refine iff_of_false nofun ?_
        rintro ⟨_, same, live⟩
        cases same
        exact absurd live (Nat.not_lt.mpr past)
      · next live =>
        split
        · next wrong =>
          refine iff_of_false nofun ?_
          rintro ⟨current, same, _⟩
          cases same
          simp [current] at wrong
        · next right =>
          obtain ⟨account, revision, expiry, durable⟩ := session
          simp only [not_or, not_not] at right
          obtain ⟨rfl, rfl, current⟩ := right
          simp only [Except.ok.injEq, Prod.mk.injEq, Option.some.injEq, Session.mk.injEq, true_and]
          constructor
          · rintro ⟨rfl, rfl⟩
            exact ⟨current, ⟨rfl, rfl⟩, Nat.lt_of_not_le live⟩
          · rintro ⟨_, ⟨rfl, rfl⟩, _⟩
            exact ⟨rfl, rfl⟩

end Perfcho.Realtime
