import Perfcho.Foundation.Retention
import Perfcho.Realtime.Currency
import Perfcho.Realtime.FrameShelf

/-! The history of a host over a run. What is retained is compared with the log of what
was published since the history last started anew. -/

namespace Perfcho.Realtime

open Foundation Keyspace List

variable {lua : Lua} {limits : Limits} {store : Store} {host : String}

def Call.publishes (lua : Lua) (limits : Limits) (host : String) (store : Store) : Call → Option OrderedFrame
  | publishFrame call =>
    if call.host = host then
      match (Realtime.publishFrame lua limits call store).1 with
      | .ok (cursor, _) => some (call.frame cursor)
      | .error _ => none
    else none
  | _ => none

def Call.restarts (lua : Lua) (limits : Limits) (host : String) (store : Store) : Call → Bool
  | openSession call => call.account = host ∧ (Realtime.openSession lua limits call store).1.isOk
  | fenceSession account epoch => account = host ∧ (Realtime.fenceSession account epoch store).1.isOk
  | publishFrame call => call.host = host ∧ call.resets store ∧
      (Realtime.publishFrame lua limits call store).1.isOk
  | _ => false

/-- The log of a host after a call. -/
def Call.log (lua : Lua) (limits : Limits) (host : String) (store : Store) (log : List OrderedFrame)
    (call : Call) : List OrderedFrame :=
  (if call.restarts lua limits host store then [] else log) ++ (call.publishes lua limits host store).toList

/-- The time at which a call judges what is over. -/
def Call.instant (store : Store) : Call → Nat
  | readFrames _ _ instant _ _ => max store.clock instant
  | _ => store.clock

/-- A run together with the log of a host and the latest time at which frames were judged.
The cursors of the host are below ten to the fourteenth. -/
inductive History (lua : Lua) (limits : Limits) (host : String) : Store → List OrderedFrame → Nat → Prop where
  | start (clock : Nat) : History lua limits host (.empty clock) [] clock
  | call {store : Store} {log : List OrderedFrame} {seen : Nat}
      (history : History lua limits host store log seen) (call : Call)
      (small : ∀ frame, call.publishes lua limits host store = some frame → frame.cursor < 10 ^ 14) :
      History lua limits host (call.run lua limits store) (call.log lua limits host store log)
      (max seen (call.instant store))
  | advance {store : Store} {log : List OrderedFrame} {seen : Nat}
      (history : History lua limits host store log seen) (now : Nat)
      (later : store.clock ≤ now) : History lua limits host (store.advance now) log (max seen now)

def Over (seen : Nat) (frame : OrderedFrame) : Prop := frame.expiresAt ≤ seen

/-- The frames that a shelf holds are the most recent ones of the log, apart from those
that are over. -/
def Retains (lua : Lua) (limits : Limits) (shelf : Shelf) (log : List OrderedFrame) (seen : Nat)
    (kept : List OrderedFrame) : Prop :=
  Holds lua limits shelf kept ∧ Recent (Over seen) log kept

section

variable {log kept : List OrderedFrame} {seen : Nat}

theorem Retains.later (retains : Retains lua limits shelf log seen kept) (later : seen ≤ now) :
    Retains lua limits shelf log now kept :=
  ⟨retains.1, retains.2.mono fun _ past => past.trans later⟩

theorem Retains.empty (state : Option (Timed FrameState)) (seen : Nat) :
    Retains lua limits ⟨.empty, none, state⟩ [] seen [] :=
  ⟨.empty state, .nil⟩

/-- The frames that are over at a time that was judged by are taken out. -/
theorem recent_live (recent : Recent (Over seen) log kept) (judged : instant ≤ seen) :
    Recent (Over seen) log (liveFrames instant kept) :=
  recent.filter _ fun frame _ gone => (Nat.le_of_not_lt (by simpa using gone)).trans judged

theorem Call.log_same {call : Call} (kept : call.restarts lua limits host store = false)
    (silent : call.publishes lua limits host store = none) : call.log lua limits host store log = log := by
  simp [Call.log, kept, silent]

theorem Retains.unchanged {call : Call} (retains : Retains lua limits (store.shelf host) log seen kept)
    (shelf : (call.run lua limits store).shelf host = store.shelf host)
    (goes : call.restarts lua limits host store = false)
    (silent : call.publishes lua limits host store = none) :
    ∃ held, Retains lua limits ((call.run lua limits store).shelf host)
      (call.log lua limits host store log) (max seen (call.instant store)) held := by
  rw [shelf, Call.log_same goes silent]
  exact ⟨kept, retains.later (Nat.le_max_left _ _)⟩

section

variable (retains : Retains lua limits (store.shelf host) log seen kept)
include retains

theorem Retains.cleared {call : Call} (shelves : ∀ host, (call.run lua limits store).shelf host =
      if host = account then ⟨.empty, none, none⟩ else store.shelf host)
    (restarts : call.restarts lua limits host store = decide (host = account))
    (silent : call.publishes lua limits host store = none) :
    ∃ held, Retains lua limits ((call.run lua limits store).shelf host)
      (call.log lua limits host store log) (max seen (call.instant store)) held := by
  by_cases same : host = account
  · have anew : call.log lua limits host store log = [] := by
      rw [Call.log, restarts, silent, decide_eq_true same]
      rfl
    rw [shelves, if_pos same, anew]
    exact ⟨[], .empty _ _⟩
  · exact retains.unchanged ((shelves host).trans (if_neg same)) (by simp [restarts, same]) silent

theorem Retains.openSession (call : OpenCall) :
    ∃ held, Retains lua limits ((Call.openSession call |>.run lua limits store).shelf host)
      ((Call.openSession call).log lua limits host store log)
      (max seen ((Call.openSession call).instant store)) held := by
  rcases openSession_shelf lua limits call store with ⟨refusal, refused⟩ | ⟨answer, answered, shelves⟩
  · refine retains.unchanged (congrArg (fun answer => answer.2.shelf host) refused) ?_ rfl
    simp [Call.restarts, refused, Except.isOk, Except.toBool]
  · refine retains.cleared shelves ?_ rfl
    simp [Call.restarts, answered, Except.isOk, Except.toBool, eq_comm]

theorem Retains.fenceSession (account : String) (epoch : Epoch) :
    ∃ held, Retains lua limits ((Call.fenceSession account epoch |>.run lua limits store).shelf host)
      ((Call.fenceSession account epoch).log lua limits host store log)
      (max seen ((Call.fenceSession account epoch).instant store)) held := by
  rcases fenceSession_shelf account epoch store with ⟨refusal, refused⟩ | ⟨answered, shelves⟩
  · refine retains.unchanged (congrArg (fun answer => answer.2.shelf host) refused) ?_ rfl
    simp [Call.restarts, refused, Except.isOk, Except.toBool]
  · refine retains.cleared shelves ?_ rfl
    simp [Call.restarts, answered, Except.isOk, Except.toBool, eq_comm]

theorem Retains.attachSpectator (clock : store.clock ≤ seen) (call : AttachCall) :
    ∃ held, Retains lua limits ((Call.attachSpectator call |>.run lua limits store).shelf host)
      ((Call.attachSpectator call).log lua limits host store log)
      (max seen ((Call.attachSpectator call).instant store)) held := by
  by_cases same : host = call.host
  · subst same
    rcases attachSpectator_holds retains.1 with refused | tidied
    · exact retains.unchanged (congrArg (Store.shelf · call.host) refused) rfl rfl
    · rw [Call.log_same rfl rfl]
      exact ⟨_, tidied, (recent_live retains.2 clock).mono fun _ past => past.trans (Nat.le_max_left _ _)⟩
  · exact retains.unchanged (attachSpectator_shelf_other same) rfl rfl

theorem Retains.readFrames (reader : String) (epoch : Epoch) (instant : Nat) (position : Option Nat)
    (limit : Nat) :
    ∃ held, Retains lua limits
      ((Call.readFrames reader epoch instant position limit |>.run lua limits store).shelf host)
      ((Call.readFrames reader epoch instant position limit).log lua limits host store log)
      (max seen ((Call.readFrames reader epoch instant position limit).instant store)) held := by
  by_cases same : host = reader
  · subst same
    rcases readFrames_holds retains.1 with ⟨refusal, refused⟩ | ⟨_, tidied⟩
    · exact retains.unchanged (congrArg (fun answer => answer.2.shelf host) refused) rfl rfl
    · rw [Call.log_same rfl rfl]
      exact ⟨_, tidied, recent_live (retains.later (Nat.le_max_left _ _)).2 (Nat.le_max_right _ _)⟩
  · exact retains.unchanged (readFrames_shelf_other same) rfl rfl

theorem Retains.publishFrame (clock : store.clock ≤ seen) (call : PublishCall)
    (small : ∀ frame, (Call.publishFrame call).publishes lua limits host store = some frame →
      frame.cursor < 10 ^ 14) :
    ∃ held, Retains lua limits ((Call.publishFrame call |>.run lua limits store).shelf host)
      ((Call.publishFrame call).log lua limits host store log)
      (max seen ((Call.publishFrame call).instant store)) held := by
  by_cases same : call.host = host
  · subst same
    cases answered : (Realtime.publishFrame lua limits call store).1 with
    | error refusal =>
      rcases publishFrame_cases lua limits call store with ⟨_, refused, _⟩ | ⟨_, stored, _⟩
      · refine retains.unchanged (congrArg (fun answer => answer.2.shelf call.host) refused) ?_ ?_
        · simp [Call.restarts, answered, Except.isOk, Except.toBool]
        · simp [Call.publishes, answered]
      · cases answered.symm.trans stored
    | ok answer =>
      obtain ⟨cursor, targets⟩ := answer
      have published : (Call.publishFrame call).publishes lua limits call.host store =
        some (call.frame cursor) := by
        simp [Call.publishes, answered]
      have base : Recent (Over seen) (if call.resets store then [] else log) (call.base store kept) := by
        unfold PublishCall.base
        split
        · exact .nil
        · exact retains.2
      have logged : (Call.publishFrame call).log lua limits call.host store log =
        (if call.resets store then [] else log) ++ [call.frame cursor] := by
        simp [Call.log, published, Call.restarts, answered, Except.isOk, Except.toBool]
      obtain ⟨evicted, held⟩ := publishFrame_holds retains.1 answered (small _ published)
      rw [logged]
      refine ⟨_, held, ?_⟩
      exact ((recent_live base clock).push evicted _).mono fun _ past => past.trans (Nat.le_max_left _ _)
  · refine retains.unchanged (publishFrame_shelf_other (Ne.symm same)) ?_ ?_
    · simp [Call.restarts, same]
    · simp [Call.publishes, same]

end

theorem Retains.call (retains : Retains lua limits (store.shelf host) log seen kept)
    (clock : store.clock ≤ seen) (call : Call)
    (small : ∀ frame, call.publishes lua limits host store = some frame → frame.cursor < 10 ^ 14) :
    ∃ held, Retains lua limits ((call.run lua limits store).shelf host)
      (call.log lua limits host store log) (max seen (call.instant store)) held := by
  cases call with
  | openSession call => exact retains.openSession call
  | fenceSession account epoch => exact retains.fenceSession account epoch
  | attachSpectator call => exact retains.attachSpectator clock call
  | publishFrame call => exact retains.publishFrame clock call small
  | readFrames reader epoch instant position limit =>
    exact retains.readFrames reader epoch instant position limit
  | _ =>
    exact retains.unchanged (((Call.run_touches lua limits store _).others .frames
      (by simp [Call.parts])).shelf host) rfl rfl

theorem shelf_advance (store : Store) (now : Nat) (host : String) : (store.advance now).shelf host =
    ⟨(store.frames host).purge now, store.frameBytes.purge now host, store.frameStates.purge now host⟩ := rfl

/-- The keys of a shelf stay together until the last of its frames is over. -/
theorem Stocked.stays (stocked : Stocked (store.shelf host) kept deadline) (live : now < deadline) :
    (store.advance now).shelf host = store.shelf host := by
  obtain ⟨state, limit, found, later, _⟩ := stocked.state
  have counted : store.frameBytes host = _ := stocked.counted
  have bytes : store.frameBytes.purge now host = _ := purge_eq_some.mpr ⟨counted, live⟩
  have states : store.frameStates.purge now host = _ :=
    purge_eq_some.mpr ⟨found, Nat.lt_of_lt_of_le live later⟩
  have frames : (store.frames host).purge now = store.frames host :=
    SortedSet.purge_eq_self stocked.timed live
  rw [shelf_advance, frames, bytes, states, ← counted, ← found]
  rfl

theorem Stocked.goes (stocked : Stocked (store.shelf host) kept deadline) (past : deadline ≤ now) :
    (store.advance now).shelf host = ⟨.empty, none, store.frameStates.purge now host⟩ ∧
    liveFrames now kept = [] := by
  have timed : (store.frames host).deadline = some deadline := stocked.timed
  have counted : store.frameBytes host = _ := stocked.counted
  have frames : (store.frames host).purge now = .empty := by simp [SortedSet.purge, timed, past]
  have bytes : store.frameBytes.purge now host = none := by simp [purge, counted, past]
  refine ⟨by rw [shelf_advance, frames, bytes], ?_⟩
  apply filter_eq_nil_iff.mpr
  intro frame member
  simpa using (stocked.latest frame member).trans past

theorem Holds.advance_empty (holds : Holds lua limits (store.shelf host) [])
    (absent : store.frameBytes host = none) (now : Nat) :
    Holds lua limits ((store.advance now).shelf host) [] := by
  have entries : ((store.frames host).purge now).entries = [] := by
    unfold SortedSet.purge
    split
    · rfl
    · exact holds.members
  have bytes : store.frameBytes.purge now host = none := by simp [purge, absent]
  exact ⟨entries, fun _ member => absurd member not_mem_nil, .nil, Nat.zero_le _, Nat.zero_le _,
    .inl ⟨rfl, bytes⟩⟩

theorem Retains.advance (retains : Retains lua limits (store.shelf host) log seen kept) (now : Nat) :
    ∃ held, Retains lua limits ((store.advance now).shelf host) log (max seen now) held := by
  obtain ⟨holds, recent⟩ := retains.later (Nat.le_max_left seen now)
  rcases holds.keys with ⟨rfl, absent⟩ | ⟨deadline, stocked⟩
  · exact ⟨[], holds.advance_empty absent now, recent⟩
  by_cases live : now < deadline
  · rw [stocked.stays live]
    exact ⟨kept, holds, recent⟩
  · obtain ⟨emptied, gone⟩ := stocked.goes (Nat.le_of_not_lt live)
    rw [emptied]
    exact ⟨[], .empty _, gone ▸ recent_live recent (Nat.le_max_right _ _)⟩

end

/-- In every history the retained frames are the most recent ones of the log, apart from
those that are over. -/
theorem History.retains (history : History lua limits host store log seen) :
    (∃ kept, Retains lua limits (store.shelf host) log seen kept) ∧ store.clock ≤ seen := by
  induction history with
  | start clock => exact ⟨⟨[], .empty none clock⟩, Nat.le_refl _⟩
  | @call store log seen _ call small ih =>
    obtain ⟨⟨kept, retains⟩, clock⟩ := ih
    refine ⟨retains.call clock call small, ?_⟩
    rw [(call.run_touches lua limits store).clock]
    exact clock.trans (Nat.le_max_left _ _)
  | advance _ now _ ih =>
    obtain ⟨⟨kept, retains⟩, _⟩ := ih
    exact ⟨retains.advance now, Nat.le_max_right _ _⟩

theorem Holds.decoded (holds : Holds lua limits (store.shelf host) kept) :
    (store.frames host).members.map decodeOrderedFrame = kept.map some := by
  have members : (store.frames host).members = kept.map (·.member lua) := members_of_entries holds.members
  rw [members, map_map]
  apply map_congr_left
  intro frame member
  exact (holds.published frame member).decode_member

theorem Holds.counter (holds : Holds lua limits (store.shelf host) kept) :
    (store.frameBytes.get host).getD 0 = payloadBytes kept := by
  rcases holds.keys with ⟨rfl, absent⟩ | ⟨deadline, stocked⟩
  · rw [Keyspace.get, show store.frameBytes host = none from absent]
    rfl
  · rw [Keyspace.get, show store.frameBytes host = _ from stocked.counted]
    rfl

/-- In every history of a host, the retained frames are within both limits, the counter is
the number of their payload bytes, their cursors rise, they are the most recent frames
since the history started anew, apart from those that are over, and the loop of the next
publish stops. -/
theorem retained_recent (history : History lua limits host store log seen) :
    ∃ kept, (store.frames host).members.map decodeOrderedFrame = kept.map some ∧
      kept.length ≤ limits.maxFrameCount ∧ payloadBytes kept ≤ limits.maxFrameBytes ∧
      (store.frameBytes.get host).getD 0 = payloadBytes kept ∧
      kept.Pairwise (fun first second => first.cursor < second.cursor) ∧ Recent (Over seen) log
      kept ∧ ∀ call, (publishFrame lua limits call store).1 ≠ .error .running := by
  obtain ⟨⟨kept, holds, recent⟩, _⟩ := history.retains
  refine ⟨kept, holds.decoded, holds.count, holds.size, holds.counter, holds.ordered, recent, ?_⟩
  intro call running
  rcases publishFrame_cases lua limits call store with ⟨refusal, refused, stops, _⟩ | ⟨_, stored, _⟩
  · rw [refused] at running
    exact stops (Except.error.inj running)
  · cases running.symm.trans stored

def samplePublish (sequence : Nat) (reset : Bool) : PublishCall :=
  ⟨"1", SessionFence (sampleSession 7) 1, sequence, [1, 2], 30, reset⟩

def hostingStore : Store :=
  (Call.setPresence ⟨"1", SessionFence (sampleSession 7) 1, 40, [], 0⟩).run fullLua sampleLimits openedStore

theorem hostingStore_history : History fullLua sampleLimits "1" hostingStore [] 0 :=
  .call (.call (.start 0) (.openSession (sampleOpen "1" 7)) nofun)
    (.setPresence ⟨"1", SessionFence (sampleSession 7) 1, 40, [], 0⟩) nofun

theorem History.publish {call : PublishCall} (history : History lua limits call.host store log seen)
    (answered : (publishFrame lua limits call store).1 = .ok (cursor, targets))
    (goes : call.resets store = false) (small : cursor < 10 ^ 14) :
    History lua limits call.host (publishFrame lua limits call store).2 (log ++ [call.frame cursor])
    (max seen store.clock) := by
  have published : (Call.publishFrame call).publishes lua limits call.host store =
    some (call.frame cursor) := by
    simp [Call.publishes, answered]
  have logged : (Call.publishFrame call).log lua limits call.host store log = log ++ [call.frame cursor] := by
    simp [Call.log, published, Call.restarts, goes]
  rw [← logged]
  refine .call history (.publishFrame call) fun frame same => ?_
  cases published.symm.trans same
  exact small

/-- In every history of a host, both parsers of a member return what its publish stored,
and the members are ordered as their cursors are. -/
theorem members_parsed (history : History lua limits host store log seen) :
    (∀ call cursor targets, call.host = host →
      (publishFrame lua limits call store).1 = .ok (cursor, targets) →
      cursor < 10 ^ 14 →
      (call.frame cursor).member lua ∈ ((publishFrame lua limits call store).2.frames host).members ∧
        decodeOrderedFrame ((call.frame cursor).member lua) = some (call.frame cursor) ∧
        frameParts ((call.frame cursor).member lua) =
    some ⟨call.expiry, call.sequence, call.payload.length⟩) ∧ ∀ first ∈ (store.frames host).members,
      ∀ second ∈ (store.frames host).members, ∃ frame other, decodeOrderedFrame first = some frame ∧
        decodeOrderedFrame second = some other ∧
        (byteRank first < byteRank second ↔ frame.cursor < other.cursor) := by
  obtain ⟨⟨kept, holds, _⟩, _⟩ := history.retains
  constructor
  · rintro call cursor targets rfl answered small
    obtain ⟨evicted, held⟩ := publishFrame_holds holds answered small
    have proper := held.published (call.frame cursor) (by simp)
    refine ⟨?_, proper.decode_member, proper.frameParts_member⟩
    rw [show ((publishFrame lua limits call store).2.frames call.host).members =
      _ from members_of_entries held.members]
    exact mem_map_of_mem (by simp)
  · rw [show (store.frames host).members = _ from members_of_entries holds.members]
    simp only [forall_mem_map]
    intro frame member other otherMember
    have proper := holds.published frame member
    have properOther := holds.published other otherMember
    refine ⟨frame, other, proper.decode_member, properOther.decode_member, ?_, proper.member_lt properOther⟩
    intro less
    -- The cursors of a host rise, so frames that are not in order are the same one or the other way round.
    by_contra above
    rcases Nat.lt_or_eq_of_le (Nat.le_of_not_lt above) with lower | same
    · exact lt_asymm less (properOther.member_lt proper lower)
    · have unique := holds.ordered.imp fun rises => rises.ne
      rw [inj_on_of_nodup_map (pairwise_map.mpr unique) otherMember member same] at less
      exact lt_irrefl _ less

/-- A frame whose payload has a separator and a zero. -/
def colonPublish : PublishCall := { samplePublish 1 false with payload := [58, 0] }

theorem colonPublish_parsed : (colonPublish.frame 1).member fullLua ∈
      ((publishFrame fullLua sampleLimits colonPublish hostingStore).2.frames "1").members ∧
    decodeOrderedFrame ((colonPublish.frame 1).member fullLua) = some ⟨1, 1, [58, 0], 30⟩ ∧
    frameParts ((colonPublish.frame 1).member fullLua) = some ⟨30, 1, 2⟩ := by
  have answered : (publishFrame fullLua sampleLimits colonPublish hostingStore).1 = .ok (1, []) := by decide
  exact (members_parsed hostingStore_history).1 colonPublish 1 [] rfl answered (by decide)

def firstStore : Store := (publishFrame fullLua sampleLimits (samplePublish 1 false) hostingStore).2

def secondStore : Store := (publishFrame fullLua sampleLimits (samplePublish 2 false) firstStore).2

def thirdStore : Store := (publishFrame fullLua sampleLimits (samplePublish 3 false) secondStore).2

theorem firstStore_history :
    History fullLua sampleLimits "1" firstStore [(samplePublish 1 false).frame 1] 0 := by
  have answered : (publishFrame fullLua sampleLimits (samplePublish 1 false) hostingStore).1 =
    .ok (1, []) := by decide
  have goes : (samplePublish 1 false).resets hostingStore = false := by decide
  exact hostingStore_history.publish answered goes (by decide)

/-- Three frames with room for two: the last two are retained. -/
theorem thirdStore_retains : ∃ kept, (thirdStore.frames "1").members.map decodeOrderedFrame = kept.map some ∧
    kept.length ≤ 2 ∧ Recent (Over 0) [(samplePublish 1 false).frame 1,
      (samplePublish 2 false).frame 2, (samplePublish 3 false).frame 3] kept := by
  have second : (publishFrame fullLua sampleLimits (samplePublish 2 false) firstStore).1 =
    .ok (2, []) := by decide
  have third : (publishFrame fullLua sampleLimits (samplePublish 3 false) secondStore).1 =
    .ok (3, []) := by decide
  have goes : (samplePublish 2 false).resets firstStore = false := by decide
  have continues : (samplePublish 3 false).resets secondStore = false := by decide
  obtain ⟨before, later⟩ : firstStore.clock = 0 ∧ secondStore.clock = 0 := by decide
  have next : History fullLua sampleLimits "1" secondStore _ _ :=
    firstStore_history.publish second goes (by decide)
  have last : History fullLua sampleLimits "1" thirdStore _ _ := next.publish third continues (by decide)
  obtain ⟨kept, decoded, count, _, _, _, recent, _⟩ := retained_recent last
  exact ⟨kept, decoded, count, recent⟩

end Perfcho.Realtime
