import Perfcho.Realtime.Calls
import Perfcho.Realtime.FrameMembers

/-! The three keys under which the frames of one host are kept, and what each script
does to them. -/

namespace Perfcho.Realtime

open Foundation

variable {lua : Lua} {limits : Limits} {store : Store} {set room : FrameSet} {call : PublishCall}

/-- The frames of a host, the counter of their bytes and the state of the last publish. -/
structure Shelf where
  frames : FrameSet
  bytes : Option (Timed Nat)
  state : Option (Timed FrameState)

def Store.shelf (store : Store) (host : String) : Shelf :=
  ⟨store.frames host, store.frameBytes host, store.frameStates host⟩

def payloadBytes (frames : List OrderedFrame) : Nat := (frames.map fun frame => frame.payload.length).sum

def latestExpiry (frames : List OrderedFrame) :
    Nat := frames.foldl (fun latest frame => max latest frame.expiresAt) 0

/-- The entries of frames in a set: all have one score. -/
def entriesOf (lua : Lua) (frames : List OrderedFrame) : List (Bytes × Nat) :=
  frames.map fun frame => (frame.member lua, 0)

/-- The keys of frames that are there: both expire after the last of the frames, and the
state, which has the highest cursor, does not expire before them. -/
structure Stocked (shelf : Shelf) (kept : List OrderedFrame) (deadline : Nat) : Prop where
  nonempty : kept ≠ []
  timed : shelf.frames.deadline = some deadline
  counted : shelf.bytes = some ⟨payloadBytes kept, deadline⟩
  latest : ∀ frame ∈ kept, frame.expiresAt ≤ deadline
  state : ∃ state limit, shelf.state = some ⟨state, limit⟩ ∧ deadline ≤ limit ∧
    ∀ frame ∈ kept, frame.cursor ≤ state.cursor

/-- A shelf with the frames that are kept, in the order of their cursors and within the limits. -/
structure Holds (lua : Lua) (limits : Limits) (shelf : Shelf) (kept : List OrderedFrame) : Prop where
  members : shelf.frames.entries = entriesOf lua kept
  published : ∀ frame ∈ kept, frame.Published
  ordered : kept.Pairwise fun first second => first.cursor < second.cursor
  count : kept.length ≤ limits.maxFrameCount
  size : payloadBytes kept ≤ limits.maxFrameBytes
  keys : kept = [] ∧ shelf.bytes = none ∨ ∃ deadline, Stocked shelf kept deadline

section

variable {frames : FrameSet} {kept : List OrderedFrame}

@[simp] theorem payloadBytes_nil : payloadBytes [] = 0 := rfl

@[simp] theorem payloadBytes_cons (frame : OrderedFrame) (rest : List OrderedFrame) :
    payloadBytes (frame :: rest) = frame.payload.length + payloadBytes rest := by
  simp [payloadBytes]

@[simp] theorem payloadBytes_append (first second : List OrderedFrame) :
    payloadBytes (first ++ second) = payloadBytes first + payloadBytes second := by
  simp [payloadBytes]

theorem payloadBytes_filter_le (live : OrderedFrame → Bool) (kept : List OrderedFrame) :
    payloadBytes (kept.filter live) ≤ payloadBytes kept := by
  induction kept with
  | nil => exact Nat.le_refl _
  | cons frame rest ih =>
    rw [List.filter_cons]
    split
    · simpa using ih
    · rw [payloadBytes_cons]
      omega

def liveFrames (instant : Nat) (kept : List OrderedFrame) : List OrderedFrame :=
  kept.filter fun frame => decide (instant < frame.expiresAt)

theorem remove_between (entries : set.entries = before ++ (member, score) :: rest) :
    (set.remove member).entries = before ++ rest := by
  have distinct := set.distinct
  rw [entries, List.map_append, List.map_cons] at distinct
  obtain ⟨_, behind, apart⟩ := List.nodup_append.mp distinct
  change set.entries.filter _ = _
  rw [entries, List.filter_append, List.filter_cons_of_neg (by simp)]
  congr 1
  · apply List.filter_eq_self.mpr
    intro entry stored
    exact decide_eq_true (apart entry.1 (List.mem_map.mpr ⟨entry, stored, rfl⟩) member List.mem_cons_self)
  · apply List.filter_eq_self.mpr
    intro entry stored
    refine decide_eq_true fun same => (List.nodup_cons.mp behind).1 ?_
    exact List.mem_map.mpr ⟨entry, stored, same⟩

theorem statsLoop_entries (instant : Nat) (published : ∀ frame ∈ kept, frame.Published)
    (before : List (Bytes × Nat)) (entries : frames.entries = before ++ entriesOf lua kept)
    (totals : Totals) :
    ∃ rest : FrameSet, statsLoop instant (kept.map (·.member lua)) frames totals =
      (some ⟨totals.count + (liveFrames instant kept).length,
        totals.bytes + payloadBytes (liveFrames instant kept),
        (liveFrames instant kept).foldl
      (fun latest frame => max latest frame.expiresAt) totals.deadline⟩, rest) ∧
      rest.entries = before ++ entriesOf lua (liveFrames instant kept) := by
  induction kept generalizing before frames totals with
  | nil => exact ⟨frames, rfl, entries⟩
  | cons frame kept ih =>
    obtain ⟨first, others⟩ := List.forall_mem_cons.mp published
    rw [List.map_cons, statsLoop, first.frameParts_member]
    dsimp only
    by_cases past : frame.expiresAt ≤ instant
    · rw [if_pos past]
      have gone : liveFrames instant (frame :: kept) = liveFrames instant kept :=
        List.filter_cons_of_neg (by simpa using past)
      rw [gone]
      exact ih others before (remove_between entries) totals
    · rw [if_neg past]
      have live : liveFrames instant (frame :: kept) = frame :: liveFrames instant kept :=
        List.filter_cons_of_pos (by simpa using past)
      obtain ⟨rest, counted, stored⟩ :=
        ih others (before ++ [(frame.member lua, 0)]) (by simpa [entriesOf] using entries)
        ⟨totals.count + 1, totals.bytes + frame.payload.length, max totals.deadline frame.expiresAt⟩
      refine ⟨rest, ?_, ?_⟩
      · rw [counted, live]
        simp [Nat.add_assoc, Nat.add_comm]
      · rw [stored, live]
        simp [entriesOf]

theorem le_foldl_latest (kept : List OrderedFrame) (start : Nat) :
    start ≤ kept.foldl (fun latest frame => max latest frame.expiresAt) start ∧
      ∀ frame ∈ kept, frame.expiresAt ≤ kept.foldl
      (fun latest frame => max latest frame.expiresAt) start := by
  induction kept generalizing start with
  | nil => exact ⟨Nat.le_refl _, nofun⟩
  | cons frame rest ih =>
    obtain ⟨above, others⟩ := ih (max start frame.expiresAt)
    refine ⟨(Nat.le_max_left _ _).trans above, ?_⟩
    rintro other member
    rcases List.mem_cons.mp member with rfl | member
    · exact (Nat.le_max_right _ _).trans above
    · exact others other member

theorem le_latestExpiry (member : frame ∈ kept) : frame.expiresAt ≤ latestExpiry kept :=
  (le_foldl_latest kept 0).2 frame member

theorem latestExpiry_le (bounded : ∀ frame ∈ kept, frame.expiresAt ≤ limit) : latestExpiry kept ≤ limit := by
  unfold latestExpiry
  generalize start : 0 = first
  have small : first ≤ limit := start ▸ Nat.zero_le limit
  clear start
  induction kept generalizing first with
  | nil => exact small
  | cons frame rest ih =>
    obtain ⟨here, others⟩ := List.forall_mem_cons.mp bounded
    exact ih others _ (Nat.max_le.mpr ⟨small, here⟩)

theorem members_of_entries (entries : set.entries = entriesOf lua kept) :
    set.members = kept.map (·.member lua) := by
  simp [SortedSet.members, entries, entriesOf]

/-- The statistics of a history that is held are those of the frames that are not over. -/
theorem frameStats_entries (instant : Nat) (entries : frames.entries = entriesOf lua kept)
    (published : ∀ frame ∈ kept, frame.Published) (bounded : kept.length ≤ maximum) :
    ∃ rest : FrameSet, frameStats instant maximum frames =
      (some ⟨(liveFrames instant kept).length, payloadBytes (liveFrames instant kept),
        latestExpiry (liveFrames instant kept)⟩, rest) ∧
        rest.entries = entriesOf lua (liveFrames instant kept) := by
  obtain ⟨rest, counted, stored⟩ := statsLoop_entries instant published [] entries ⟨0, 0, 0⟩
  refine ⟨rest, ?_, stored⟩
  have all : frames.members.take (maximum + 1) = kept.map (·.member lua) := by
    rw [members_of_entries entries, List.take_of_length_le (by simp; omega)]
  unfold frameStats
  rw [all, if_neg (by simpa using bounded), counted]
  simp [latestExpiry]

end

section

variable {frames : FrameSet} {kept : List OrderedFrame}

/-- The loop takes out the oldest frames until one more of the size fits. -/
theorem evictLoop_entries (positive : 0 < maxCount) (fits : size ≤ maxBytes)
    (published : ∀ frame ∈ kept, frame.Published) (entries : frames.entries = entriesOf lua kept)
    (enough : kept.length < fuel) :
    ∃ (evicted : Nat) (room : FrameSet),
        evictLoop maxCount maxBytes size fuel frames kept.length
        (payloadBytes kept) = some (room, ((kept.drop evicted).length : Int),
      payloadBytes (kept.drop evicted)) ∧ room.entries = entriesOf lua (kept.drop evicted) ∧
      (kept.drop evicted).length < maxCount ∧ payloadBytes (kept.drop evicted) + size ≤ maxBytes := by
  induction fuel generalizing frames kept with
  | zero => omega
  | succ fuel ih =>
    unfold evictLoop
    by_cases full : (maxCount : Int) ≤ kept.length ∨ maxBytes < payloadBytes kept + size
    · rw [if_pos full]
      cases kept with
      | nil =>
        simp at full
        omega
      | cons oldest kept =>
        obtain ⟨first, others⟩ := List.forall_mem_cons.mp published
        obtain ⟨rest, popped, left⟩ := popMin_cons entries
        rw [popped]
        dsimp only
        rw [first.frameParts_member]
        obtain ⟨evicted, room, stopped, facts⟩ := ih others left (by simpa using enough)
        refine ⟨evicted + 1, room, ?_, facts⟩
        rw [List.drop_succ_cons, ← stopped]
        congr 1
        · simp
        · simp
    · rw [if_neg full]
      refine ⟨0, frames, rfl, entries, ?_, ?_⟩
      · simpa using (not_or.mp full).1
      · simpa using (not_or.mp full).2

end

section

variable {kept : List OrderedFrame} {shelf : Shelf}

/-- `expire_frames` on one shelf. -/
def Shelf.expire (frames : FrameSet) (count : Int) (bytes deadline : Nat)
    (state : Option (Timed FrameState)) : Shelf :=
  if count = 0 then ⟨.empty, none, state⟩ else
    ⟨{ frames with deadline := some deadline }, some ⟨bytes, deadline⟩, state⟩

theorem shelf_expireFrames (store : Store) (host : String) :
    (store.expireFrames host frames count bytes deadline).shelf host =
      Shelf.expire frames count bytes deadline (store.frameStates host) := by
  unfold Store.expireFrames Shelf.expire
  split <;> simp [Store.shelf]

theorem shelf_expireFrames_other (store : Store) (different : other ≠ host) :
    (store.expireFrames host frames count bytes deadline).shelf other = store.shelf other := by
  unfold Store.expireFrames
  split <;> simp [Store.shelf, different]

theorem Holds.expire (entries : frames.entries = entriesOf lua kept)
    (published : ∀ frame ∈ kept, frame.Published)
    (ordered : kept.Pairwise fun first second => first.cursor < second.cursor)
    (count : kept.length ≤ limits.maxFrameCount) (size : payloadBytes kept ≤ limits.maxFrameBytes)
    (latest : ∀ frame ∈ kept, frame.expiresAt ≤ deadline)
    (stated : kept ≠ [] → ∃ last limit, state = some ⟨last, limit⟩ ∧ deadline ≤ limit ∧
      ∀ frame ∈ kept, frame.cursor ≤ last.cursor) : Holds lua limits
    (Shelf.expire frames kept.length (payloadBytes kept) deadline state) kept := by
  unfold Shelf.expire
  cases kept with
  | nil => exact ⟨rfl, published, ordered, count, size, .inl ⟨rfl, rfl⟩⟩
  | cons frame rest =>
    exact ⟨entries, published, ordered, count, size, .inr ⟨deadline, nofun, rfl, rfl, latest, stated nofun⟩⟩

theorem mem_liveFrames : frame ∈ liveFrames instant kept ↔ frame ∈ kept ∧ instant < frame.expiresAt := by
  simp [liveFrames]

theorem Holds.stated (holds : Holds lua limits shelf kept) (instant : Nat)
    (nonempty : liveFrames instant kept ≠ []) :
    ∃ last limit, shelf.state = some ⟨last, limit⟩ ∧ latestExpiry (liveFrames instant kept) ≤
      limit ∧ ∀ frame ∈ liveFrames instant kept, frame.cursor ≤ last.cursor := by
  rcases holds.keys with ⟨rfl, _⟩ | ⟨deadline, stocked⟩
  · exact absurd rfl nonempty
  · obtain ⟨last, limit, state, later, above⟩ := stocked.state
    refine ⟨last, limit, state, ?_, fun frame member => above frame (mem_liveFrames.mp member).1⟩
    exact (latestExpiry_le fun frame member => stocked.latest frame (mem_liveFrames.mp member).1).trans later

theorem Holds.tidy (holds : Holds lua limits (store.shelf host) kept) (instant : Nat) :
    ∃ rest : FrameSet, frameStats instant limits.maxFrameCount (store.frames host) =
      (some ⟨(liveFrames instant kept).length, payloadBytes (liveFrames instant kept),
        latestExpiry (liveFrames instant kept)⟩, rest) ∧
      Holds lua limits ((store.expireFrames host rest (liveFrames instant kept).length
        (payloadBytes (liveFrames instant kept))
        (latestExpiry (liveFrames instant kept))).shelf host) (liveFrames instant kept) := by
  obtain ⟨rest, counted, entries⟩ := frameStats_entries instant holds.members holds.published holds.count
  refine ⟨rest, counted, ?_⟩
  rw [shelf_expireFrames]
  apply Holds.expire entries
  · exact fun frame member => holds.published frame (mem_liveFrames.mp member).1
  · exact holds.ordered.sublist List.filter_sublist
  · exact (List.length_filter_le _ _).trans holds.count
  · exact (payloadBytes_filter_le _ _).trans holds.size
  · exact fun frame member => le_latestExpiry member
  · exact holds.stated instant

end

section

variable {kept : List OrderedFrame}

theorem tidyFrames_holds (holds : Holds lua limits (store.shelf host) kept) (instant : Nat) :
    Holds lua limits ((tidyFrames limits host instant store).shelf host) (liveFrames instant kept) := by
  obtain ⟨rest, counted, tidied⟩ := holds.tidy instant
  unfold tidyFrames
  rw [counted]
  exact tidied

theorem tidyFrames_shelf_other (store : Store) (instant : Nat) (different : other ≠ host) :
    (tidyFrames limits host instant store).shelf other = store.shelf other := by
  unfold tidyFrames
  split
  · simp [Store.dropFrames, Store.shelf, different]
  · exact shelf_expireFrames_other store different

theorem Part.Same.shelf (same : Part.frames.Same store after) (host : String) :
    after.shelf host = store.shelf host := by
  obtain ⟨frames, bytes, states⟩ := same
  rw [Store.shelf, frames, bytes, states]
  rfl

def PublishCall.frame (call : PublishCall) (cursor : Nat) :
    OrderedFrame := ⟨cursor, call.sequence, call.payload, call.expiry⟩

theorem Holds.below_next (holds : Holds lua limits (store.shelf host) kept)
    (member : frame ∈ kept) : frame.cursor < store.nextCursor host := by
  rcases holds.keys with ⟨rfl, _⟩ | ⟨deadline, stocked⟩
  · cases member
  · obtain ⟨last, limit, state, _, above⟩ := stocked.state
    have found : store.frameStates.get host = some last := Keyspace.get_eq_some.mpr ⟨limit, state⟩
    rw [Store.nextCursor, found]
    exact Nat.lt_succ_of_le (above frame member)

theorem add_entries (entries : room.entries = entriesOf lua kept)
    (published : ∀ frame ∈ kept, frame.Published) (proper : next.Published)
    (above : ∀ frame ∈ kept, frame.cursor < next.cursor) :
    (room.add (next.member lua) 0).entries = entriesOf lua (kept ++ [next]) := by
  have last : ∀ entry ∈ room.entries, entry.2 = 0 ∧ byteRank entry.1 < byteRank (next.member lua) := by
    rw [entries]
    rintro _ stored
    obtain ⟨frame, member, rfl⟩ := List.mem_map.mp stored
    exact ⟨rfl, (published frame member).member_lt proper (above frame member)⟩
  rw [SortedSet.add_last _ last, entries, entriesOf, entriesOf, List.map_append]
  · rfl
  · intro stored
    obtain ⟨score, stored⟩ := SortedSet.mem_members.mp stored
    exact lt_irrefl _ (last _ stored).2

theorem Holds.append (next : OrderedFrame) (entries : room.entries = entriesOf lua kept)
    (published : ∀ frame ∈ kept, frame.Published) (proper : next.Published)
    (ordered : kept.Pairwise fun first second => first.cursor < second.cursor)
    (above : ∀ frame ∈ kept, frame.cursor < next.cursor) (count : kept.length < limits.maxFrameCount)
    (size : payloadBytes kept + next.payload.length ≤ limits.maxFrameBytes)
    (latest : ∀ frame ∈ kept, frame.expiresAt ≤ deadline) (epoch : Epoch) :
    Holds lua limits (Shelf.expire (room.add (next.member lua) 0) ((kept.length : Int) + 1)
      (payloadBytes kept + next.payload.length) (max deadline next.expiresAt)
      (some ⟨⟨next.cursor, next.sequence, epoch⟩, max deadline next.expiresAt⟩)) (kept ++ [next]) := by
  have counted : ((kept.length : Int) + 1) = ((kept ++ [next]).length : Int) := by simp
  have weighed : payloadBytes kept + next.payload.length = payloadBytes (kept ++ [next]) := by simp
  rw [counted, weighed]
  apply Holds.expire (add_entries entries published proper above)
  · intro frame member
    rcases List.mem_append.mp member with old | new
    · exact published frame old
    · exact List.mem_singleton.mp new ▸ proper
  · refine List.pairwise_append.mpr ⟨ordered, List.pairwise_singleton _ _, ?_⟩
    intro frame member last new
    exact List.mem_singleton.mp new ▸ above frame member
  · rw [List.length_append, List.length_singleton]
    exact count
  · exact weighed ▸ size
  · intro frame member
    rcases List.mem_append.mp member with old | new
    · exact (latest frame old).trans (Nat.le_max_left _ _)
    · exact List.mem_singleton.mp new ▸ Nat.le_max_right _ _
  · refine fun _ => ⟨_, _, rfl, Nat.le_refl _, ?_⟩
    intro frame member
    rcases List.mem_append.mp member with old | new
    · exact (above frame old).le
    · exact (congrArg OrderedFrame.cursor (List.mem_singleton.mp new)).le

/-- A frame is added at the end, after the oldest frames have made room for it. -/
theorem storeFrame_holds (holds : Holds lua limits (store.shelf call.host) kept)
    (sequence : call.sequence ≤ 65535) (fits : call.payload.length ≤ limits.maxFrameBytes)
    (small : store.nextCursor call.host < 10 ^ 14) :
    ∃ evicted, (storeFrame lua limits call store).1 = .ok (store.nextCursor call.host) ∧
      Holds lua limits ((storeFrame lua limits call store).2.shelf call.host)
        ((liveFrames store.clock kept).drop evicted ++ [call.frame (store.nextCursor call.host)]) := by
  obtain ⟨rest, counted, entries⟩ := frameStats_entries store.clock holds.members holds.published holds.count
  have counted : frameStats store.clock limits.maxFrameCount (store.frames call.host) = _ := counted
  have inside : ∀ {frame}, frame ∈ liveFrames store.clock kept → frame ∈ kept :=
    fun member => (mem_liveFrames.mp member).1
  have published : ∀ frame ∈ liveFrames store.clock kept, frame.Published :=
    fun frame member => holds.published frame (inside member)
  have room : (liveFrames store.clock kept).length < rest.entries.length + 1 := by
    rw [entries]
    simp [entriesOf]
  obtain ⟨evicted, room, stopped, stored, count, size⟩ :=
    evictLoop_entries limits.maxFrameCount_pos fits published entries room
  have kept_of : ∀ {frame}, frame ∈ (liveFrames store.clock kept).drop evicted →
    frame ∈ liveFrames store.clock kept :=
    fun member => List.mem_of_mem_drop member
  have appended := Holds.append (call.frame (store.nextCursor call.host)) stored
    (fun frame member => published frame (kept_of member)) ⟨small, sequence⟩
    ((holds.ordered.sublist List.filter_sublist).sublist (List.drop_sublist _ _))
    (fun frame member => holds.below_next (inside (kept_of member))) count size
    (fun frame member => le_latestExpiry (kept_of member)) call.epoch
  refine ⟨evicted, ?_⟩
  unfold storeFrame
  simp only [counted, Option.getD_some, Option.isNone_some, Bool.false_eq_true, if_false, stopped]
  refine ⟨rfl, ?_⟩
  convert appended using 1
  unfold Store.expireFrames Shelf.expire
  split <;> simp [Store.shelf, PublishCall.frame, OrderedFrame.member, Store.nextCursor]

theorem storeFrame_shelf_other (different : other ≠ call.host) :
    (storeFrame lua limits call store).2.shelf other = store.shelf other := by
  unfold storeFrame
  dsimp only
  split
  · rfl
  · unfold Store.expireFrames
    split <;> simp [Store.shelf, different]

theorem PublishCall.prune_same (call : PublishCall) (store : Store) :
    Part.frames.Same store (call.prune store) ∧ (call.prune store).clock = store.clock := by
  have touches : Touches [.relations] store (call.prune store) :=
    (Touches.sweep fun store key => pruneRecipient_touches store key).trans (refreshViewers_touches _)
  exact ⟨touches.others .frames (by simp), touches.clock⟩

theorem Holds.empty (state : Option (Timed FrameState)) : Holds lua limits ⟨.empty, none, state⟩ [] :=
  ⟨rfl, nofun, .nil, Nat.zero_le _, Nat.zero_le _, .inl ⟨rfl, rfl⟩⟩

/-- The frames that are left when a publish begins. -/
def PublishCall.base (call : PublishCall) (store : Store) (kept : List OrderedFrame) : List OrderedFrame :=
  if call.resets store then [] else kept

theorem PublishCall.begin_holds (holds : Holds lua limits (store.shelf call.host) kept) :
    Holds lua limits ((call.begin store).shelf call.host) (call.base store kept) := by
  unfold PublishCall.begin PublishCall.base
  split
  · have cleared : Store.shelf
      { store.dropFrames call.host with frameStates := store.frameStates.drop call.host }
      call.host = ⟨.empty, none, none⟩ := by simp [Store.shelf, Store.dropFrames]
    rw [cleared]
    exact .empty none
  · exact holds

theorem PublishCall.begin_shelf_other (different : other ≠ call.host) :
    (call.begin store).shelf other = store.shelf other := by
  unfold PublishCall.begin
  split
  · simp [Store.shelf, Store.dropFrames, different]
  · rfl

theorem publishFrame_holds (holds : Holds lua limits (store.shelf call.host) kept)
    (answered : (publishFrame lua limits call store).1 = .ok (cursor, targets)) (small : cursor < 10 ^ 14) :
    ∃ evicted, Holds lua limits ((publishFrame lua limits call store).2.shelf call.host)
      ((liveFrames store.clock (call.base store kept)).drop evicted ++ [call.frame cursor]) := by
  rcases publishFrame_cases lua limits call store with ⟨refusal, refused, _⟩ | ⟨accepted, stored, same⟩
  · rw [refused] at answered
    cases answered
  rw [stored] at answered
  obtain ⟨frames, clock⟩ := call.prune_same (call.begin store)
  cases answered
  have begun : Holds lua limits ((call.prune (call.begin store)).shelf call.host) (call.base store kept) := by
    rw [frames.shelf call.host]
    exact call.begin_holds holds
  obtain ⟨evicted, _, after⟩ := storeFrame_holds begun accepted.sequence accepted.small small
  rw [clock, (call.begin_touches store).clock] at after
  exact ⟨evicted, same ▸ after⟩

theorem publishFrame_shelf_other (different : other ≠ call.host) :
    (publishFrame lua limits call store).2.shelf other = store.shelf other := by
  rcases publishFrame_cases lua limits call store with ⟨refusal, refused, _⟩ | ⟨_, _, same⟩
  · rw [refused]
  · rw [same, storeFrame_shelf_other different, (call.prune_same (call.begin store)).1.shelf other,
      call.begin_shelf_other different]

/-- A read is refused and leaves the frames as they are, or it takes out those that are
over and answers with a window of the others. -/
theorem readFrames_holds (holds : Holds lua limits (store.shelf host) kept) :
    (∃ refusal, readFrames limits host epoch instant position limit store = (.error refusal, store)) ∨
    (readFrames limits host epoch instant position limit store).1 =
        .ok (frameWindow position limit ((liveFrames (max store.clock instant) kept).map (·.member lua))) ∧
      Holds lua limits ((readFrames limits host epoch instant position limit store).2.shelf host)
        (liveFrames (max store.clock instant) kept) := by
  obtain ⟨rest, counted, tidied⟩ := holds.tidy (max store.clock instant)
  unfold readFrames
  dsimp only
  split
  · exact .inl ⟨_, rfl⟩
  split
  · exact .inl ⟨_, rfl⟩
  · split
    · exact .inl ⟨_, rfl⟩
    · rw [counted]
      exact .inr ⟨by rw [← members_of_entries tidied.members]; rfl, tidied⟩

theorem readFrames_shelf_other (different : other ≠ host) :
    (readFrames limits host epoch instant position limit store).2.shelf other = store.shelf other := by
  unfold readFrames
  dsimp only
  split
  · rfl
  split
  · rfl
  · split
    · rfl
    · split
      · simp [Store.shelf, different]
      · exact shelf_expireFrames_other store different

theorem attachSpectator_holds {call : AttachCall} (holds : Holds lua limits (store.shelf call.host) kept) :
    (attachSpectator lua limits call store).2 = store ∨
      Holds lua limits ((attachSpectator lua limits call store).2.shelf call.host)
      (liveFrames store.clock kept) := by
  have attached : ∀ expiry, Holds lua limits
    ((tidyFrames limits call.host store.clock (relate lua call expiry store)).shelf call.host)
    (liveFrames store.clock kept) := fun expiry =>
    tidyFrames_holds ((((relate_touches store).others .frames (by simp)).shelf call.host).symm ▸
      holds) store.clock
  unfold attachSpectator
  dsimp only
  split
  · exact .inl rfl
  split
  · exact .inl rfl
  · split
    · exact .inl rfl
    · split
      · exact .inl rfl
      · split_ifs <;> first | exact .inl rfl | exact .inr (attached _)

theorem attachSpectator_shelf_other {call : AttachCall} (different : other ≠ call.host) :
    (attachSpectator lua limits call store).2.shelf other = store.shelf other := by
  have attached : ∀ expiry,
    (tidyFrames limits call.host store.clock (relate lua call expiry store)).shelf other =
    store.shelf other := fun expiry =>
    (tidyFrames_shelf_other _ _ different).trans
      (((relate_touches store).others .frames (by simp)).shelf other)
  unfold attachSpectator
  dsimp only
  split
  · rfl
  split
  · rfl
  · split
    · rfl
    · split
      · rfl
      · split_ifs <;> first | rfl | exact attached _

theorem clearOwned_shelf (store : Store) (account : String) (session : Uuid) (host : String) :
    (store.clearOwned account session).shelf host = if host = account then ⟨.empty, none, none⟩ else
    store.shelf host := by
  by_cases same : host = account
  · subst same
    simp [Store.clearOwned, Store.shelf]
  · simp [Store.clearOwned, Store.shelf, same]

theorem supersede_frames (store : Store) (account : String) (session : Uuid) :
    Part.frames.Same store (store.supersede account session) := by
  unfold Store.supersede
  split
  · exact .refl _
  · next old _ =>
    have released : Part.frames.Same store (store.releaseEpoch account old) :=
      (releaseEpoch_touches store).others .frames (by simp)
    split
    · exact released
    · exact released

theorem openSession_shelf (lua : Lua) (limits : Limits) (call : OpenCall) (store : Store) :
    (∃ refusal, openSession lua limits call store = (.error refusal, store)) ∨
      ∃ answer, (openSession lua limits call store).1 = .ok answer ∧ ∀ host,
        (openSession lua limits call store).2.shelf host =
          if host = call.account then ⟨.empty, none, none⟩ else store.shelf host := by
  unfold openSession
  dsimp only
  split_ifs
  · exact .inl ⟨_, rfl⟩
  · exact .inl ⟨_, rfl⟩
  · exact .inl ⟨_, rfl⟩
  · exact .inl ⟨_, rfl⟩
  · refine .inr ⟨_, rfl, fun host => (clearOwned_shelf _ _ call.session host).trans ?_⟩
    rw [(supersede_frames store call.account call.session).shelf host]

theorem fenceSession_shelf (account : String) (epoch : Epoch) (store : Store) :
    (∃ refusal, fenceSession account epoch store = (.error refusal, store)) ∨
      (fenceSession account epoch store).1 = .ok () ∧
        ∀ host, (fenceSession account epoch store).2.shelf host = if host = account then
        ⟨.empty, none, none⟩ else store.shelf host := by
  unfold fenceSession
  split
  · exact .inl ⟨_, rfl⟩
  · refine .inr ⟨rfl, fun host => (clearOwned_shelf _ _ epoch.session host).trans ?_⟩
    have released : Part.frames.Same store (store.releaseEpoch account epoch) :=
      (releaseEpoch_touches store).others .frames (by simp)
    rw [released.shelf host]

end

end Perfcho.Realtime
