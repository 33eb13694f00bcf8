import Perfcho.Realtime.FrameHistory

/-! A reader that follows the frames of a host, each time from the last cursor that it
received, and when a read shows it every frame that was published since the one before. -/

namespace Perfcho.Realtime

open Foundation Keyspace

variable {lua : Lua} {limits : Limits} {store after : Store} {host : String}

def Window.received (window : Window) : List OrderedFrame := window.members.filterMap decodeOrderedFrame

def Store.retained (store : Store) (host : String) : List OrderedFrame :=
  (store.frames host).members.filterMap decodeOrderedFrame

/-- The last cursor that a reader has received after a window. -/
def Window.position (window : Window) (before : Option Nat) : Option Nat :=
  (window.received.getLast?.map (·.cursor)).or before

/-- A history with a reader of the host: the last cursor that it received and the frames
that were published since its last read. -/
inductive Follows (lua : Lua) (limits : Limits) (host : String) :
    Store → List OrderedFrame → Nat → Option Nat → List OrderedFrame → Prop where
  | start {store : Store} {log : List OrderedFrame} {seen : Nat}
      (history : History lua limits host store log seen) :
      Follows lua limits host store log seen none []
  | read {store : Store} {log pending : List OrderedFrame} {seen : Nat} {position : Option Nat}
      {epoch : Epoch}
      {instant limit : Nat} {window : Window}
      (follows : Follows lua limits host store log seen position pending)
      (answered : (readFrames limits host epoch instant position limit store).1 = .ok window) :
      Follows lua limits host (readFrames limits host epoch instant position limit store).2 log
        (max seen (max store.clock instant)) (window.position position) []
  | call {store : Store} {log pending : List OrderedFrame} {seen : Nat} {position : Option Nat}
      (follows : Follows lua limits host store log seen position pending) (call : Call)
      (small : ∀ frame, call.publishes lua limits host store = some frame → frame.cursor < 10 ^ 14) :
      Follows lua limits host (call.run lua limits store) (call.log lua limits host store log)
        (max seen (call.instant store)) position (pending ++ (call.publishes lua limits host store).toList)
  | advance {store : Store} {log pending : List OrderedFrame} {seen : Nat} {position : Option Nat}
      (follows : Follows lua limits host store log seen position pending) (now : Nat)
      (later : store.clock ≤ now) :
      Follows lua limits host (store.advance now) log (max seen now) position pending

theorem Follows.history (follows : Follows lua limits host store log seen position pending) :
    History lua limits host store log seen := by
  induction follows with
  | start history => exact history
  | @read store log _ seen position epoch instant limit _ _ answered ih =>
    have same : (Call.readFrames host epoch instant position limit).log lua limits host store log = log :=
      Call.log_same rfl rfl
    have next := ih.call (.readFrames host epoch instant position limit) nofun
    rw [same] at next
    exact next
  | call _ call small ih => exact ih.call call small
  | advance _ now later ih => exact ih.advance now later

/-- The condition of a read, on the frames that are retained before it: frames are left
out visibly, because the oldest one is not the next one, or because a first read shows
only the latest ones; or every frame that is pending is still retained, comes after the
position of the reader and is within the limit. -/
def Complete (retained pending : List OrderedFrame) (now : Nat) (position : Option Nat)
    (limit : Nat) : Prop :=
  match position with
  | none => limit < (liveFrames now retained).length ∨ pending.Sublist (liveFrames now retained)
  | some cursor =>
    (∃ oldest, (liveFrames now retained).head? = some oldest ∧ cursor + 1 < oldest.cursor) ∨
      pending.Sublist (liveFrames now retained) ∧ (∀ frame ∈ pending, cursor < frame.cursor) ∧
        (pending ≠ [] → ((liveFrames now retained).filter fun frame =>
          decide (cursor < frame.cursor)).length ≤ limit)

section

variable {kept : List OrderedFrame}

theorem framesAfter_eq (token : Bytes) (limit : Nat) (members : List Bytes) :
    framesAfter token limit members =
    (members.filter fun member => decide (byteRank token < byteRank (cursorOf member))).take limit := by
  suffices whole : ∀ result : List Bytes, members.foldl (fun result member =>
      if byteRank token < byteRank (cursorOf member) ∧ result.length < limit then result ++ [member]
        else result) result =
      result ++ (members.filter fun member =>
        decide (byteRank token < byteRank (cursorOf member))).take (limit - result.length) by
    have start := whole []
    exact start
  induction members with
  | nil => simp
  | cons member rest ih =>
    intro result
    rw [List.foldl_cons, ih]
    by_cases above : byteRank token < byteRank (cursorOf member)
    · by_cases room : result.length < limit
      · have more : limit - result.length = limit - (result.length + 1) + 1 := by omega
        rw [if_pos ⟨above, room⟩, List.filter_cons_of_pos (by simpa using above),
          List.length_append, List.length_singleton, more, List.take_succ_cons, List.append_assoc,
          List.singleton_append]
      · have full : limit - result.length = 0 := by omega
        rw [if_neg (fun both => room both.2), full, List.take_zero, List.take_zero]
    · rw [if_neg (fun both => above both.1), List.filter_cons_of_neg (by simpa using above)]

theorem decode_members (published : ∀ frame ∈ kept, frame.Published) :
    (kept.map (·.member lua)).filterMap decodeOrderedFrame = kept := by
  induction kept with
  | nil => rfl
  | cons frame rest ih =>
    obtain ⟨first, others⟩ := List.forall_mem_cons.mp published
    rw [List.map_cons, List.filterMap_cons_some first.decode_member, ih others]

theorem Holds.retained (holds : Holds lua limits (store.shelf host) kept) : store.retained host = kept := by
  have members : (store.frames host).members = kept.map (·.member lua) := members_of_entries holds.members
  rw [Store.retained, members, decode_members holds.published]

section

variable (published : ∀ frame ∈ kept, frame.Published)
include published

theorem framesAfter_members (small : cursor < 10 ^ 19) (limit : Nat) :
    framesAfter (sequenceToken cursor) limit (kept.map (·.member lua)) =
      ((kept.filter fun frame => decide (cursor < frame.cursor)).take limit).map (·.member lua) := by
  have agree : ∀ frame ∈ kept,
    ((fun member => decide (byteRank (sequenceToken cursor) < byteRank (cursorOf member))) ∘
      (·.member lua)) frame = decide (cursor < frame.cursor) := by
    intro frame member
    have proper := published frame member
    have level := sequenceToken_lt_iff small proper.token
    rw [← proper.cursorOf_member] at level
    rw [Function.comp_apply, decide_eq_decide]
    exact level
  rw [framesAfter_eq, List.filter_map, List.filter_congr agree, List.map_take]

theorem digitsValue_oldest (first : kept.head? = some frame) :
    digitsValue (oldestCursor (kept.map (·.member lua))) = frame.cursor := by
  have proper := published frame (List.mem_of_head? first)
  rw [oldestCursor, List.head?_map, first]
  change digitsValue (cursorOf (frame.member lua)) = _
  rw [proper.cursorOf_member, digitsValue_sequenceToken]

/-- What a read after a cursor shows of the frames that are kept. -/
theorem frameWindow_some (small : cursor < 10 ^ 19) (limit : Nat) :
    (frameWindow (some cursor) limit (kept.map (·.member lua))).received =
        (kept.filter fun frame => decide (cursor < frame.cursor)).take limit ∧
      ((frameWindow (some cursor) limit (kept.map (·.member lua))).truncated = true ↔
        ∃ oldest, kept.head? = some oldest ∧ cursor + 1 < oldest.cursor) := by
  constructor
  · change (framesAfter (sequenceToken cursor) limit (kept.map (·.member lua))).filterMap
      decodeOrderedFrame = _
    rw [framesAfter_members published small, decode_members]
    intro frame member
    exact published frame (List.mem_of_mem_filter (List.mem_of_mem_take member))
  · change decide _ = true ↔ _
    rw [decide_eq_true_iff]
    cases first : kept.head? with
    | none =>
      rw [List.head?_eq_none_iff] at first
      subst first
      simp
    | some oldest =>
      have nonempty : kept.map (·.member lua) ≠ [] := by
        rintro empty
        rw [List.map_eq_nil_iff] at empty
        subst empty
        cases first
      rw [digitsValue_oldest published first]
      simp only [nonempty, ne_eq, not_false_eq_true, true_and, Option.some.injEq, exists_eq_left']
      omega

theorem frameWindow_none (limit : Nat) :
    (frameWindow none limit (kept.map (·.member lua))).received = kept.drop (kept.length - limit) ∧
      ((frameWindow none limit (kept.map (·.member lua))).truncated = true ↔ limit < kept.length) := by
  constructor
  · change ((kept.map (·.member lua)).drop ((kept.map (·.member lua)).length - limit)).filterMap
      decodeOrderedFrame = _
    rw [List.length_map, ← List.map_drop, decode_members]
    exact fun frame member => published frame (List.mem_of_mem_drop member)
  · change decide _ = true ↔ _
    rw [decide_eq_true_iff, List.length_map]

end

end

theorem state_of_shelf (shelf : after.shelf host =
      if host = account then ⟨.empty, none, none⟩ else store.shelf host)
    (found : after.frameStates.get host = some state) : store.frameStates.get host = some state := by
  have same : after.frameStates host = (after.shelf host).state := rfl
  rw [Keyspace.get, same, shelf] at found
  split at found
  · cases found
  · exact found

theorem expireFrames_states (store : Store) :
    (store.expireFrames host frames count bytes deadline).frameStates = store.frameStates := by
  unfold Store.expireFrames
  split <;> rfl

theorem readFrames_states (store : Store) :
    (readFrames limits host epoch instant position limit store).2.frameStates = store.frameStates := by
  unfold readFrames
  dsimp only
  split
  · rfl
  split
  · rfl
  · split
    · rfl
    · split
      · rfl
      · exact expireFrames_states store

theorem attachSpectator_states (call : AttachCall) (store : Store) :
    (attachSpectator lua limits call store).2.frameStates = store.frameStates := by
  have attached : ∀ expiry,
    (tidyFrames limits call.host store.clock (relate lua call expiry store)).frameStates =
    store.frameStates := fun expiry => by
    have related : Part.frames.Same store (relate lua call expiry store) :=
      (relate_touches store).others .frames (by simp)
    refine Eq.trans ?_ related.2.2
    unfold tidyFrames
    split
    · rfl
    · exact expireFrames_states _
  unfold attachSpectator
  dsimp only
  split
  · rfl
  split
  · rfl
  · split
    · rfl
    · split
      · rfl
      · split_ifs <;> first | rfl | exact attached _

theorem publishFrame_state (answered : (publishFrame lua limits call store).1 = .ok (cursor, targets)) :
    ∃ state, (publishFrame lua limits call store).2.frameStates.get call.host = some state ∧
    state.cursor = cursor := by
  rcases publishFrame_cases lua limits call store with ⟨refusal, refused, _⟩ | ⟨_, stored, same⟩
  · rw [refused] at answered
    cases answered
  · rw [stored] at answered
    cases answered
    rw [same]
    exact (storeFrame_ok lua limits call _).2

theorem Call.state_before (lua : Lua) (limits : Limits) (call : Call)
    (silent : call.publishes lua limits host store = none)
    (found : (call.run lua limits store).frameStates.get host = some state) :
    store.frameStates.get host = some state := by
  cases call with
  | openSession call =>
    rcases openSession_shelf lua limits call store with ⟨refusal, refused⟩ | ⟨_, _, shelves⟩
    · rwa [Call.run, refused] at found
    · exact state_of_shelf (shelves host) found
  | fenceSession account epoch =>
    rcases fenceSession_shelf account epoch store with ⟨refusal, refused⟩ | ⟨_, shelves⟩
    · rwa [Call.run, refused] at found
    · exact state_of_shelf (shelves host) found
  | attachSpectator call => rwa [Call.run, attachSpectator_states] at found
  | readFrames => rwa [Call.run, readFrames_states] at found
  | publishFrame call =>
    rcases publishFrame_cases lua limits call store with ⟨refusal, refused, _⟩ | ⟨_, stored, _⟩
    · rwa [Call.run, refused] at found
    · by_cases same : call.host = host
      · simp [Call.publishes, same, stored] at silent
      · have shelf : (Realtime.publishFrame lua limits call store).2.shelf host = store.shelf host :=
          publishFrame_shelf_other (Ne.symm same)
        exact (congrArg (fun shelf => shelf.state.map (·.value)) shelf).symm.trans found
  | _ =>
    rwa [((Call.run_touches lua limits store _).others .frames (by simp [Call.parts])).2.2] at found

theorem Call.published_state (call : Call) (published : call.publishes lua limits host store = some frame) :
    ∃ state, (call.run lua limits store).frameStates.get host = some state ∧ state.cursor = frame.cursor := by
  cases call with
  | publishFrame call =>
    rw [Call.publishes] at published
    split at published
    · next same =>
      split at published
      · next answered =>
        cases published
        exact same ▸ publishFrame_state answered
      · cases published
    · cases published
  | _ => cases published

/-- The last pending frame has the highest cursor. -/
def Latest (store : Store) (host : String) (pending : List OrderedFrame) : Prop :=
  ∀ state last, store.frameStates.get host = some state → pending.getLast? = some last →
    last.cursor = state.cursor

theorem Follows.latest (follows : Follows lua limits host store log seen position pending) :
    Latest store host pending := by
  induction follows with
  | start | read => exact nofun
  | @call store _ pending _ _ _ call _ ih =>
    intro state last found ends
    cases published : call.publishes lua limits host store with
    | none =>
      rw [published, Option.toList_none, List.append_nil] at ends
      exact ih state last (call.state_before lua limits published found) ends
    | some frame =>
      rw [published, Option.toList_some, List.getLast?_concat] at ends
      cases ends
      obtain ⟨stored, kept, cursor⟩ := call.published_state published
      cases kept.symm.trans found
      exact cursor.symm
  | advance _ now _ ih =>
    intro state last found ends
    obtain ⟨deadline, stored⟩ := get_eq_some.mp found
    exact ih state last (get_eq_some.mpr ⟨deadline, (purge_eq_some.mp stored).1⟩) ends

/-- Frames that end with the one of the highest cursor are all among the first ones after
a cursor exactly if all frames after the cursor are. -/
theorem sublist_take_iff {live : List OrderedFrame}
    (ordered : live.Pairwise fun first second => first.cursor < second.cursor)
    (highest : ∀ last, pending.getLast? = some last → ∀ frame ∈ live, frame.cursor ≤ last.cursor) :
    pending.Sublist ((live.filter fun frame => decide (cursor < frame.cursor)).take limit) ↔
      pending.Sublist live ∧ (∀ frame ∈ pending, cursor < frame.cursor) ∧
        (pending ≠ [] → (live.filter fun frame => decide (cursor < frame.cursor)).length ≤ limit) := by
  generalize further : (live.filter fun frame => decide (cursor < frame.cursor)) = above
  have inside : above.Sublist live := further ▸ List.filter_sublist
  constructor
  · intro shown
    have whole := shown.trans (List.take_sublist limit above)
    refine ⟨whole.trans inside, ?_, ?_⟩
    · intro frame member
      have stored := whole.subset member
      rw [← further, List.mem_filter] at stored
      exact of_decide_eq_true stored.2
    · -- A frame beyond the limit would have a higher cursor than the last one that is shown.
      intro nonempty
      by_contra long
      obtain ⟨last, ends⟩ := Option.ne_none_iff_exists'.mp (mt List.getLast?_eq_none_iff.mp nonempty)
      have early : last ∈ above.take limit := shown.subset (List.mem_of_getLast? ends)
      have late : above.get ⟨limit, Nat.lt_of_not_le long⟩ ∈ above.drop limit := by
        rw [List.drop_eq_getElem_cons (Nat.lt_of_not_le long)]
        exact List.mem_cons_self
      have rising := ordered.sublist inside
      rw [← List.take_append_drop limit above] at rising
      have lower := (List.pairwise_append.mp rising).2.2 last early _ late
      have higher := highest last ends _ (inside.subset (List.mem_of_mem_drop late))
      omega
  · rintro ⟨whole, after, fits⟩
    by_cases nonempty : pending = []
    · subst nonempty
      exact List.nil_sublist _
    · rw [List.take_of_length_le (fits nonempty), ← further]
      have same : pending.filter (fun frame => decide (cursor < frame.cursor)) = pending :=
        List.filter_eq_self.mpr fun frame member => decide_eq_true (after frame member)
      exact same ▸ whole.filter _

theorem readFrames_position
    (answered : (readFrames limits host epoch instant position limit store).1 = .ok window) :
    ∀ cursor, position = some cursor → cursor < 10 ^ 19 := by
  rintro cursor rfl
  unfold readFrames at answered
  split at answered
  · cases answered
  · next proper =>
    have small : cursor ≤ maxRevision := by simpa using (not_or.mp (not_or.mp proper).2).2
    exact Nat.lt_of_le_of_lt small (by decide)

theorem Follows.highest (follows : Follows lua limits host store log seen position pending)
    (holds : Holds lua limits (store.shelf host) kept) (instant : Nat) :
    ∀ last, pending.getLast? = some last → ∀ frame ∈ liveFrames instant kept, frame.cursor ≤ last.cursor := by
  intro last ends frame member
  have stored := (mem_liveFrames.mp member).1
  rcases holds.keys with ⟨rfl, _⟩ | ⟨deadline, stocked⟩
  · cases stored
  · obtain ⟨state, limit, found, _, above⟩ := stocked.state
    rw [follows.latest state last (get_eq_some.mpr ⟨limit, found⟩) ends]
    exact above frame stored

/-- A read by a reader that follows a host shows every frame that was published since its
last read, in the order of publishing, or is marked as truncated, exactly if its
condition holds. -/
theorem read_complete_iff (follows : Follows lua limits host store log seen position pending)
    (answered : (readFrames limits host epoch instant position limit store).1 = .ok window) :
    (pending.Sublist window.received ∨ window.truncated = true) ↔
      Complete (store.retained host) pending (max store.clock instant) position limit := by
  obtain ⟨⟨kept, holds, _⟩, _⟩ := follows.history.retains
  rw [holds.retained]
  rcases readFrames_holds holds with ⟨refusal, refused⟩ | ⟨shown, tidied⟩
  · rw [refused] at answered
    cases answered
  have published : ∀ frame ∈ liveFrames (max store.clock instant) kept, frame.Published := tidied.published
  have ordered := tidied.ordered
  have bounded := readFrames_position answered
  have highest := follows.highest holds (max store.clock instant)
  rw [shown] at answered
  cases answered
  cases position with
  | none =>
    obtain ⟨received, truncated⟩ := frameWindow_none published limit
    rw [received, truncated, Complete]
    by_cases fits : (liveFrames (max store.clock instant) kept).length ≤ limit
    · rw [Nat.sub_eq_zero_of_le fits, List.drop_zero]
      exact or_comm
    · exact iff_of_true (.inr (Nat.lt_of_not_le fits)) (.inl (Nat.lt_of_not_le fits))
  | some cursor =>
    obtain ⟨received, truncated⟩ := frameWindow_some published (bounded cursor rfl) limit
    rw [received, truncated, sublist_take_iff ordered highest, Complete]
    exact or_comm

def sampleRead (position : Option Nat) (store : Store) : Reply Window :=
  readFrames sampleLimits "1" (SessionFence (sampleSession 7) 1) 0 position 2 store

/-- The store after a first frame and a first read of it. -/
def readStore : Store := (sampleRead none firstStore).2

def resetStore : Store := (publishFrame fullLua sampleLimits (samplePublish 2 true) readStore).2

def continuedStore : Store := (publishFrame fullLua sampleLimits (samplePublish 2 false) readStore).2

theorem Follows.publish {call : PublishCall}
    (follows : Follows lua limits call.host store log seen position pending)
    (answered : (publishFrame lua limits call store).1 = .ok (cursor, targets)) (small : cursor < 10 ^ 14) :
    ∃ log seen, Follows lua limits call.host (publishFrame lua limits call store).2 log seen
      position (pending ++ [call.frame cursor]) := by
  have published : (Call.publishFrame call).publishes lua limits call.host store =
    some (call.frame cursor) := by
    simp [Call.publishes, answered]
  have next := follows.call (.publishFrame call) fun frame same => by
    cases published.symm.trans same
    exact small
  rw [published] at next
  exact ⟨_, _, next⟩

theorem readStore_follows : ∃ log seen, Follows fullLua sampleLimits "1" readStore log seen (some 1) [] := by
  have published : (publishFrame fullLua sampleLimits (samplePublish 1 false) hostingStore).1 =
    .ok (1, []) := by decide
  obtain ⟨log, seen, first⟩ := (Follows.start hostingStore_history).publish published (by decide)
  have answered : (sampleRead none firstStore).1 =
    .ok ⟨sequenceToken 1, sequenceToken 1, false,
    [((samplePublish 1 false).frame 1).member fullLua]⟩ := by decide
  have position : (Window.mk (sequenceToken 1) (sequenceToken 1) false
    [((samplePublish 1 false).frame 1).member fullLua]).position none = some 1 := by decide
  have next := Follows.read first answered
  exact ⟨_, _, next⟩

/-- A frame that starts the history anew after a read has the cursor of the last frame
that was read: the next read shows nothing and is not truncated. -/
theorem reset_unseen : ∃ log seen window, Follows fullLua sampleLimits "1" resetStore log seen
    (some 1) [(samplePublish 2 true).frame 1] ∧ (sampleRead (some 1) resetStore).1 = .ok window ∧
    ¬ ([(samplePublish 2 true).frame 1].Sublist window.received ∨ window.truncated = true) := by
  have published : (publishFrame fullLua sampleLimits (samplePublish 2 true) readStore).1 =
    .ok (1, []) := by decide
  have answered : (sampleRead (some 1) resetStore).1 = .ok ⟨sequenceToken 1, sequenceToken 1, false,
    []⟩ := by decide
  obtain ⟨_, _, follows⟩ := readStore_follows
  obtain ⟨log, seen, reset⟩ := follows.publish published (by decide)
  exact ⟨log, seen, _, reset, answered, by decide⟩

/-- Without a new start the next read shows the next frame. -/
theorem continued_seen : ∃ window, (sampleRead (some 1) continuedStore).1 = .ok window ∧
    ([(samplePublish 2 false).frame 2].Sublist window.received ∨ window.truncated = true) := by
  have published : (publishFrame fullLua sampleLimits (samplePublish 2 false) readStore).1 =
    .ok (2, []) := by decide
  have answered : (sampleRead (some 1) continuedStore).1 =
    .ok ⟨sequenceToken 1, sequenceToken 2, false,
    [((samplePublish 2 false).frame 2).member fullLua]⟩ := by decide
  have retained : continuedStore.retained "1" =
    [(samplePublish 1 false).frame 1, (samplePublish 2 false).frame 2] := by
    decide
  have clock : continuedStore.clock = 0 := by decide
  have complete : Complete (continuedStore.retained "1") [(samplePublish 2 false).frame 2]
    (max continuedStore.clock 0) (some 1) 2 := by
    exact .inr (by decide)
  obtain ⟨_, _, follows⟩ := readStore_follows
  obtain ⟨log, seen, next⟩ := follows.publish published (by decide)
  exact ⟨_, answered, (read_complete_iff next answered).mpr complete⟩

end Perfcho.Realtime
