import Perfcho.Stable.ReaderSafety

/-! Arbitrary sequences of reads. A stream reader and the payload readers of the
packets it yields live side by side; a caller may read from any of them in any
order, and go on after a failure. -/

namespace Perfcho.Stable

open Foundation List

theorem headerStruct_unpack (enough : headerSize ≤ bytes.length) :
    headerStruct.unpack bytes = some [(LittleEndian.decode (bytes.take 2) : Int),
      LittleEndian.decode ((bytes.drop 3).take 4)] := by
  simp only [headerSize_eq] at enough
  simp [headerStruct, Layout.unpack, Field.size, Field.decode, show ¬ bytes.length < 2 by omega]
  omega

theorem headerStruct_unpack_take (enough : headerSize ≤ bytes.length) :
    headerStruct.unpack (bytes.take headerSize) = headerStruct.unpack bytes := by
  rw [headerStruct_unpack enough, headerStruct_unpack (length_take_of_le enough).ge]
  simp [take_take, drop_take]

namespace PacketReader

/-- What one packet read can do: end the stream, reject the bytes, or yield a
packet whose header and payload are the next bytes of the view. Only the last
moves the reader. -/
inductive PacketRead (before : PacketReader) : Except Failure Packet → PacketReader → Prop where
  | ended (empty : before.remaining = 0) : PacketRead before (.error .stopIteration) before
  | rejected (kind : ProtocolError) (message : String) :
      PacketRead before (.error (.protocol kind message)) before
  | yielded (packet : Packet) (after : PacketReader)
      (view : after.view = before.view) (limits : after.limits = before.limits)
      (advanced : after.position = before.position + (headerSize + packet.payload.view.length))
      (counted : after.packetCount = before.packetCount + 1)
      (below : before.packetCount < before.limits.maxPacketCount)
      (declared : headerStruct.unpack before.unread = some [packet.packetId, packet.payload.view.length])
      (sliced : packet.payload.view = (before.unread.drop headerSize).take packet.payload.view.length)
      (small : packet.payload.view.length ≤ before.limits.maxPacketSize)
      (payload : packet.payload = fresh packet.payload.view before.packetEnum before.limits) :
      PacketRead before (.ok packet) after

theorem readPacket_cases (reader : PacketReader) :
    PacketRead reader (readPacket reader).1 (readPacket reader).2 := by
  unfold readPacket
  split
  · rename_i empty
    exact .ended empty
  split
  · exact .rejected _ _
  split
  · exact .rejected _ _
  rename_i enough below
  have length : reader.unread.length = reader.remaining := by simp [unread, remaining]
  have unpacked := headerStruct_unpack (length.ge.trans' (Nat.le_of_not_lt enough))
  rw [unpacked]
  set payloadSize := LittleEndian.decode ((reader.unread.drop 3).take 4)
  simp only [Int.toNat_natCast]
  split
  · exact .rejected _ _
  rename_i small
  have small : payloadSize ≤ reader.limits.maxPacketSize := by omega
  split
  · rename_i inside
    have taken : ((reader.view.drop (reader.position + headerSize)).take payloadSize).length =
      payloadSize := by
      simp only [length_take, length_drop]
      omega
    rw [init_payload (by rw [taken]; exact small)]
    refine .yielded _ _ rfl rfl ?_ rfl (by omega) ?_ ?_ ?_ rfl
    · simp only [fresh, taken]; omega
    · simpa only [fresh, taken] using unpacked
    · simp only [fresh, taken, unread, drop_drop]
    · simpa only [fresh, taken] using small
  · exact .rejected _ _

theorem next_eq_readPacket (reader : PacketReader) : next reader = readPacket reader := by
  unfold next
  split
  · rename_i empty
    rw [readPacket, if_pos empty]
  · rfl

end PacketReader

/-- The public reads of a reader, with the arguments a caller chooses. Sizes are
non-negative; a caller's list bound may be any number. -/
inductive ReadCall where
  | packet | next | bytes (size : Nat) | remaining | raw (size : Option Nat) | exhausted
  | i8 | u8 | i16 | u16 | i32 | u32 | i64 | u64 | f16 | f32 | f64 | bool | uleb128 | string
  | i32ListU16 (maxLength : Option Int) | i32ListU32 (maxLength : Option Int)
  | message | channel | clientStatus | userPresence | userStats | multiplayerMatch | scoreFrame
  | replayFrame | replayFrameBundle

namespace ReadCall

open PacketReader

variable {limits : CodecLimits}

def Result : ReadCall → Type
  | packet | next => Packet
  | bytes _ | remaining | raw _ => Bytes
  | exhausted => Unit
  | i8 | u8 | i16 | u16 | i32 | u32 | i64 | u64 => Int
  | f16 => UInt16
  | f32 => UInt32
  | f64 => UInt64
  | bool => Bool
  | uleb128 => Nat
  | string => String
  | i32ListU16 _ | i32ListU32 _ => List Int
  | message => Message
  | channel => Channel
  | clientStatus => ClientStatus
  | userPresence => UserPresence
  | userStats => UserStats
  | multiplayerMatch => MultiplayerMatch
  | scoreFrame => ScoreFrame
  | replayFrame => ReplayFrame
  | replayFrameBundle => ReplayFrameBundle

def run : (call : ReadCall) → Read call.Result
  | packet => readPacket
  | next => PacketReader.next
  | bytes size => readBytes size
  | remaining => readRemaining
  | raw size => readRaw (size.map fun size => (size : Int))
  | exhausted => requireExhausted
  | i8 => readI8
  | u8 => readU8
  | i16 => readI16
  | u16 => readU16
  | i32 => readI32
  | u32 => readU32
  | i64 => readI64
  | u64 => readU64
  | f16 => readF16
  | f32 => readF32
  | f64 => readF64
  | bool => readBool
  | uleb128 => readUleb128
  | string => readString
  | i32ListU16 maxLength => readI32ListU16 maxLength
  | i32ListU32 maxLength => readI32ListU32 maxLength
  | message => readMessage
  | channel => readChannel
  | clientStatus => readClientStatus
  | userPresence => readUserPresence
  | userStats => readUserStats
  | multiplayerMatch => readMultiplayerMatch
  | scoreFrame => readScoreFrame
  | replayFrame => readReplayFrame
  | replayFrameBundle => readReplayFrameBundle

/-- The configured bound on what a call returns: payloads, texts, lists and frames. -/
def Within (limits : CodecLimits) : (call : ReadCall) → call.Result → Prop
  | .packet, yielded | .next, yielded => yielded.payload.view.length ≤ limits.maxPacketSize
  | .string, text => TextWithin limits text
  | .i32ListU16 maxLength, values | .i32ListU32 maxLength, values => ListWithin limits maxLength values
  | .message, value => MessageWithin limits value
  | .channel, value => ChannelWithin limits value
  | .clientStatus, status => ClientStatusWithin limits status
  | .userPresence, presence => TextWithin limits presence.username
  | .userStats, stats => UserStatsWithin limits stats
  | .multiplayerMatch, value => MatchWithin limits value
  | .replayFrameBundle, bundle => bundle.frames.length ≤ limits.maxFrameCount
  | _, _ => True

/-- The packet a call yields, if it is a packet read. -/
def packet? : (call : ReadCall) → call.Result → Option Packet
  | .packet, yielded | .next, yielded => some yielded
  | _, _ => none

def isPacketRead : ReadCall → Bool
  | packet | next => true
  | _ => false

def yielded (call : ReadCall) : Except Failure call.Result → Option Packet
  | .ok value => call.packet? value
  | .error _ => none

/-- A read returns a bounded value, raises a `ValueError`, or, if it is a packet
read with nothing left to read, signals the end of the stream. -/
def Settled (limits : CodecLimits) (call : ReadCall) (before : PacketReader) :
    Except Failure call.Result → Prop
  | .ok value => call.Within limits value
  | .error failure => failure.isValueError = true ∨
      failure = .stopIteration ∧ call.isPacketRead = true ∧ before.remaining = 0

theorem run_safe {call : ReadCall} (field : call.isPacketRead = false) :
    Safe limits call.run (fun value => call.Within limits value ∧ call.packet? value = none) := by
  have plain {Value : Type} {action : Read Value} {post : Value → Prop} (safe : Safe limits action post) :
    Safe limits action (fun value => post value ∧ (none : Option Packet) = none) :=
    Action.Sound.weaken safe fun _ holds => ⟨holds, rfl⟩
  have untold {Value : Type} {action : Read Value} {post : Value → Prop} (safe : Safe limits action post) :
    Safe limits action (fun _ => True ∧ (none : Option Packet) = none) :=
    Action.Sound.weaken safe fun _ _ => ⟨trivial, rfl⟩
  cases call with
  | packet | next => cases field
  | bytes size => exact untold (readBytes_safe size)
  | remaining => exact untold readRemaining_safe
  | raw size =>
    cases size with
    | none => exact untold readRemaining_safe
    | some size => exact untold (readBytes_safe size)
  | exhausted => exact untold requireExhausted_safe
  | i8 | u8 | i16 | u16 | i32 | u32 | i64 | u64 => exact untold (unpack_safe rfl)
  | f16 | f32 | f64 => exact untold (readFloat_safe rfl)
  | bool => exact untold readBool_safe
  | uleb128 => exact untold readUleb128_safe
  | string => exact plain readString_safe
  | i32ListU16 maxLength | i32ListU32 maxLength => exact plain (readI32List_safe rfl maxLength)
  | message => exact plain readMessage_safe
  | channel => exact plain readChannel_safe
  | clientStatus => exact plain readClientStatus_safe
  | userPresence => exact plain readUserPresence_safe
  | userStats => exact plain readUserStats_safe
  | multiplayerMatch => exact plain readMultiplayerMatch_safe
  | scoreFrame => exact untold readScoreFrame_safe
  | replayFrame => exact untold readReplayFrame_safe
  | replayFrameBundle => exact plain readReplayFrameBundle_safe

end ReadCall

/-- One read of one reader: what it was called on, what it gave and what it left. -/
structure ReadEvent where
  index : Nat
  call : ReadCall
  before : PacketReader
  outcome : Except Failure call.Result
  after : PacketReader

namespace ReadEvent

def packet? (event : ReadEvent) : Option Packet := event.call.yielded event.outcome

def consumed (event : ReadEvent) :
    Bytes := (event.after.view.take event.after.position).drop event.before.position

/-- Everything one read promises, on whatever bytes it met. -/
structure Controlled (limits : CodecLimits) (event : ReadEvent) : Prop where
  outcome : event.call.Settled limits event.before event.outcome
  view : event.after.view = event.before.view
  forward : event.before.position ≤ event.after.position
  inside : event.after.position ≤ event.after.view.length
  failed : event.call.isPacketRead = true → event.packet? = none → event.after = event.before
  framed : ∀ packet, event.packet? = some packet → ∃ header, header.length = headerSize ∧
    event.consumed = header ++ packet.payload.view ∧
    headerStruct.unpack header = some [packet.packetId, packet.payload.view.length]

/-- What a read does to the fields the reader is identified by, and to its packet count. -/
structure Accounted (event : ReadEvent) : Prop where
  limits : event.after.limits = event.before.limits
  packetCount : event.after.packetCount = event.before.packetCount + event.packet?.toList.length
  room : event.packet?.isSome → event.before.packetCount < event.before.limits.maxPacketCount
  payload : ∀ packet, event.packet? = some packet →
    packet.payload = .fresh packet.payload.view event.before.packetEnum event.before.limits

variable {limits : CodecLimits} {event : ReadEvent}

/-- A read that yields no packet only has to say what it returned and where it moved. -/
private theorem controlled_of_absent (absent : event.packet? = none)
    (outcome : event.call.Settled limits event.before event.outcome)
    (moved : event.before.Advances event.after)
    (failed : event.call.isPacketRead = true → event.after = event.before) :
    event.Controlled limits ∧ event.Accounted := by
  refine ⟨⟨outcome, moved.view, moved.position, event.after.bounded, fun packetRead _ =>
    failed packetRead, ?_⟩,
    ⟨moved.limits, ?_, ?_, ?_⟩⟩
  · simp [absent]
  · simp [absent, moved.packetCount]
  · simp [absent]
  · simp [absent]

private theorem field_controlled (field : event.call.isPacketRead = false)
    (same : event.before.limits = limits) (ran : event.call.run event.before = (event.outcome, event.after)) :
    event.Controlled limits ∧ event.Accounted := by
  obtain ⟨_, moved, result⟩ := ReadCall.run_safe field event.before same
  rw [ran] at moved result
  have packetRead : event.call.isPacketRead = true → event.after = event.before := by
    rw [field]
    intro impossible
    cases impossible
  obtain ⟨index, call, before, outcome, after⟩ := event
  cases outcome with
  | error failure => exact controlled_of_absent rfl (.inl result) moved packetRead
  | ok value => exact controlled_of_absent result.2 result.1 moved packetRead

private theorem yielded_framed {before after : PacketReader} (view : after.view = before.view)
    (advanced : after.position = before.position + (headerSize + payload.length))
    (sliced : payload = (before.unread.drop headerSize).take payload.length) :
    headerSize ≤ before.unread.length ∧
      (after.view.take after.position).drop before.position = before.unread.take headerSize ++ payload := by
  have bound := after.bounded
  rw [view, advanced] at bound
  constructor
  · simp only [PacketReader.unread, length_drop]
    omega
  · rw [view, advanced, drop_take, Nat.add_sub_cancel_left, take_add]
    exact congrArg (before.unread.take headerSize ++ ·) sliced.symm

private theorem controlled_of_read {result : Except Failure Packet}
    (same : event.before.limits = limits) (yields : event.packet? = result.toOption)
    (settled : ReadCall.Settled limits .packet event.before result →
      event.call.Settled limits event.before event.outcome) (read : PacketReader.PacketRead
      event.before result event.after) : event.Controlled limits ∧ event.Accounted := by
  obtain ⟨index, call, before, outcome, after⟩ := event
  dsimp only at same settled read
  cases read with
  | ended empty => exact controlled_of_absent yields (settled (.inr ⟨rfl, rfl, empty⟩)) (.refl _) fun _ => rfl
  | rejected kind message => exact controlled_of_absent yields (settled (.inl rfl)) (.refl _) fun _ => rfl
  | yielded packet _ view limits advanced counted below declared sliced small payload =>
    rw [same] at small
    obtain ⟨enough, framed⟩ := yielded_framed view advanced sliced
    refine ⟨⟨settled small, view, by simp only; omega, after.bounded, ?_, ?_⟩,
      ⟨limits, ?_, fun _ => below, ?_⟩⟩
    · simp [yields, Except.toOption]
    · intro other equal
      cases yields.symm.trans equal
      exact ⟨before.unread.take headerSize, length_take_of_le enough, framed,
        (headerStruct_unpack_take enough).trans declared⟩
    · simp [yields, counted, Except.toOption]
    · intro other equal
      cases yields.symm.trans equal
      exact payload

private theorem packet_controlled (packetRead : event.call.isPacketRead = true)
    (same : event.before.limits = limits) (ran : event.call.run event.before = (event.outcome, event.after)) :
    event.Controlled limits ∧ event.Accounted := by
  obtain ⟨index, call, before, outcome, after⟩ := event
  have read : ∀ {result : Except Failure Packet}, PacketReader.readPacket before = (result, after) →
    PacketReader.PacketRead before result after := by
    intro result equal
    simpa only [equal] using PacketReader.readPacket_cases before
  cases call with
  | packet => exact controlled_of_read same (by cases outcome <;> rfl) id (read ran)
  | next =>
    refine controlled_of_read same ?_ ?_ (read ((PacketReader.next_eq_readPacket before).symm.trans ran))
    · cases outcome <;> rfl
    · cases outcome <;> exact id
  | _ => cases packetRead

/-- One read, of any kind, keeps every promise. -/
theorem controlled_of_run (same : event.before.limits = limits)
    (ran : event.call.run event.before = (event.outcome, event.after)) :
    event.Controlled limits ∧ event.Accounted := by
  cases packetRead : event.call.isPacketRead with
  | false => exact field_controlled packetRead same ran
  | true => exact packet_controlled packetRead same ran

end ReadEvent

/-- Reads in some order from some of the readers at hand. A packet read that
succeeds adds the payload reader of its packet. -/
inductive Reads (start : List PacketReader) : List ReadEvent → List PacketReader → Prop where
  | none : Reads start [] start
  | read (earlier : Reads start events readers) (event : ReadEvent)
      (found : readers[event.index]? = some event.before)
      (ran : event.call.run event.before = (event.outcome, event.after)) :
      Reads start (events ++ [event]) (readers.set event.index event.after ++
      event.packet?.toList.map (·.payload))

def readsOf (index : Nat) (events : List ReadEvent) : List ReadEvent := events.filter (·.index = index)

/-- What a run has done to one of its readers. -/
structure History (limits : CodecLimits) (events : List ReadEvent) (index : Nat)
    (reader : PacketReader) : Prop where
  counted : ((readsOf index events).filterMap (·.packet?)).length = reader.packetCount
  bounded : reader.packetCount ≤ limits.maxPacketCount
  tiled : ((readsOf index events).map (·.consumed)).flatten = reader.view.take reader.position
  limits : reader.limits = limits

variable {limits : CodecLimits}

theorem History.start (unread : readsOf index events = [])
    (same : reader = .fresh data packetEnum limits) : History limits events index reader := by
  subst same
  exact ⟨by simp [unread, PacketReader.fresh], Nat.zero_le _, by simp [unread, PacketReader.fresh], rfl⟩

theorem History.other (history : History limits events index reader)
    (different : event.index ≠ index) : History limits (events ++ [event]) index reader := by
  have same : readsOf index (events ++ [event]) = readsOf index events := by simp [readsOf, different]
  exact ⟨same ▸ history.counted, history.bounded, same ▸ history.tiled, history.limits⟩

theorem History.read (history : History limits events event.index event.before)
    (controlled : event.Controlled limits) (accounted : event.Accounted) :
    History limits (events ++ [event]) event.index event.after := by
  have same : readsOf event.index (events ++ [event]) = readsOf event.index events ++
    [event] := by simp [readsOf]
  have split : event.before.view.take event.before.position =
    (event.after.view.take event.after.position).take event.before.position := by
    rw [take_take, Nat.min_eq_left controlled.forward, controlled.view]
  refine ⟨?_, ?_, ?_, accounted.limits.trans history.limits⟩
  · rw [same, accounted.packetCount, ← history.counted, filterMap_append, length_append]
    cases found : event.packet? <;> simp [found]
  · have before := history.bounded
    have count := accounted.packetCount
    cases found : event.packet? with
    | none =>
      simp only [found, Option.toList_none, length_nil] at count
      omega
    | some packet =>
      have room := accounted.room (by simp [found])
      rw [history.limits] at room
      simp only [found, Option.toList_some, length_singleton] at count
      omega
  · rw [same, map_append, flatten_append, history.tiled, split]
    simp only [map_cons, map_nil, flatten_cons, flatten_nil, append_nil, ReadEvent.consumed, take_append_drop]

/-- The state of a whole run: every read was controlled, and every reader has its history. -/
structure RunInvariant (limits : CodecLimits) (events : List ReadEvent)
    (readers : List PacketReader) : Prop where
  controlled : ∀ event ∈ events, event.Controlled limits
  known : ∀ event ∈ events, event.index < readers.length
  histories : ∀ index reader, readers[index]? = some reader → History limits events index reader

theorem Reads.invariant (run : Reads start events readers)
    (fresh : ∀ reader ∈ start, ∃ data packetEnum, reader = .fresh data packetEnum limits) :
    RunInvariant limits events readers := by
  induction run with
  | none =>
    refine ⟨by simp, by simp, fun index reader found => ?_⟩
    obtain ⟨data, packetEnum, same⟩ := fresh reader (mem_of_getElem? found)
    exact .start rfl same
  | @read events readers earlier event found ran ih =>
    have history := ih.histories event.index event.before found
    obtain ⟨controlled, accounted⟩ := ReadEvent.controlled_of_run history.limits ran
    have inside : event.index < readers.length := (List.getElem?_eq_some_iff.mp found).1
    refine ⟨?_, ?_, ?_⟩
    · simpa [or_imp, forall_and] using ⟨ih.controlled, controlled⟩
    · intro other member
      rcases of_mem_concat member with old | new
      · exact Nat.lt_of_lt_of_le (ih.known other old) (by simp)
      · rw [new]
        exact Nat.lt_of_lt_of_le inside (by simp)
    · intro index reader current
      rcases Nat.lt_or_ge index readers.length with old | new
      · rw [getElem?_append_left (by simpa using old)] at current
        by_cases same : event.index = index
        · subst same
          rw [getElem?_set_self inside] at current
          cases current
          exact history.read controlled accounted
        · rw [getElem?_set_ne same] at current
          exact (ih.histories index reader current).other same
      -- A reader that this read added has been read by nobody.
      · rw [getElem?_append_right (by simpa using new)] at current
        obtain ⟨packet, yielded, rfl⟩ := mem_map.mp (mem_of_getElem? current)
        have payload := accounted.payload packet (Option.mem_toList.mp yielded)
        rw [history.limits] at payload
        refine .start (filter_eq_nil_iff.mpr fun other member => ?_) payload
        rcases of_mem_concat member with old | added
        · have := ih.known other old
          simp only [decide_eq_true_eq]
          omega
        · rw [added]
          simp only [decide_eq_true_eq]
          omega

theorem Reads.unmoved (run : Reads start events readers) (present : start[index]? = some reader)
    (others : ∀ event ∈ events, event.index ≠ index) : readers[index]? = some reader := by
  induction run with
  | none => exact present
  | @read events readers earlier event found ran ih =>
    have kept := ih fun other member => others other (mem_append_left _ member)
    have inside : index < readers.length := (List.getElem?_eq_some_iff.mp kept).1
    rw [getElem?_append_left (by simpa using inside), getElem?_set_ne (others event (by simp))]
    exact kept

/-- Packet reads that fail consume nothing, so the packets alone tile what packet reads consumed. -/
theorem packets_tile {events : List ReadEvent} (controlled : ∀ event ∈ events,
    event.Controlled limits) (packetReads : ∀ event ∈ events, event.call.isPacketRead = true) :
    (events.map (·.consumed)).flatten = ((events.filter (·.packet?.isSome)).map (·.consumed)).flatten := by
  induction events with
  | nil => rfl
  | cons event events ih =>
    have rest := ih (fun other member => controlled other (mem_cons_of_mem _ member))
      (fun other member => packetReads other (mem_cons_of_mem _ member))
    cases found : event.packet? with
    | some packet => simp [found, rest]
    | none =>
      have first := (controlled event (mem_cons_self ..)).failed (packetReads event (mem_cons_self ..)) found
      have empty : event.consumed = [] := by simp [ReadEvent.consumed, first]
      simp [found, rest, empty]

/-- On any bytes and under any limits, a reader is refused with a `ValueError` or
built; and whatever reads follow, of it and of the payload readers it yields,
each is controlled, every reader counts and bounds its packets, its reads tile
the prefix it has consumed, its packets alone do so if it is only read by
packet, and reads of other readers do not move it. -/
theorem packetReader_reads_controlled (data : Bytes) (packetEnum : PacketEnum) (limits : CodecLimits) :
    (∀ failure, PacketReader.init data packetEnum limits = .error failure → failure.isValueError = true) ∧
    ∀ reader events readers, PacketReader.init data packetEnum limits = .ok reader →
    Reads [reader] events readers →
      (∀ event ∈ events, event.Controlled limits) ∧
      ∀ index current, readers[index]? = some current →
        ((readsOf index events).filterMap (·.packet?)).length ≤ limits.maxPacketCount ∧
        ((readsOf index events).map (·.consumed)).flatten = current.view.take current.position ∧
        ((∀ event ∈ readsOf index events, event.call.isPacketRead = true) →
          (((readsOf index events).filter (·.packet?.isSome)).map (·.consumed)).flatten =
            current.view.take current.position) ∧
        ∀ more later, Reads readers more later → (∀ event ∈ more, event.index ≠ index) →
          later[index]? = some current := by
  refine ⟨fun failure refused => ?_, fun reader events readers created run => ?_⟩
  · simp only [PacketReader.init] at refused
    split at refused
    · cases refused; rfl
    · simp at refused
  · have invariant : RunInvariant limits events readers := by
      refine run.invariant fun first member => ?_
      rw [mem_singleton.mp member]
      exact ⟨data, packetEnum, PacketReader.init_eq_ok created⟩
    refine ⟨invariant.controlled, fun index current found => ?_⟩
    have history := invariant.histories index current found
    have controlled : ∀ event ∈ readsOf index events, event.Controlled limits :=
      fun event member => invariant.controlled event (mem_of_mem_filter member)
    refine ⟨history.counted.trans_le history.bounded, history.tiled, fun packetReads =>
      ?_, fun more later rest others =>
      rest.unmoved found others⟩
    rw [← history.tiled, packets_tile controlled packetReads]

/-- A ping packet with one payload byte: the packet, then its byte, then the end of the stream. -/
theorem packetReader_reads_controlled_ping :
    ∃ reader events readers, PacketReader.init [4, 0, 0, 1, 0, 0, 0, 42] .client defaultLimits = .ok reader ∧
      Reads [reader] events readers ∧ events.length = 3 ∧ (∀ event ∈ events, event.Controlled defaultLimits) ∧
      ((readsOf 0 events).filterMap (·.packet?)).length ≤ defaultLimits.maxPacketCount := by
  let stream : PacketReader := .fresh [4, 0, 0, 1, 0, 0, 0, 42] .client defaultLimits
  let payload : PacketReader := .fresh [42] .client defaultLimits
  let first : ReadEvent :=
    ⟨0, .packet, stream, (PacketReader.readPacket stream).1, (PacketReader.readPacket stream).2⟩
  let second : ReadEvent :=
    ⟨1, .u8, payload, (PacketReader.readU8 payload).1, (PacketReader.readU8 payload).2⟩
  let third : ReadEvent := ⟨0, .next, first.after, .error .stopIteration, first.after⟩
  have begun : Reads [stream] [] [stream] := .none
  have run := ((begun.read first rfl rfl).read second rfl rfl).read third rfl rfl
  obtain ⟨controlled, histories⟩ :=
    (packetReader_reads_controlled stream.view .client defaultLimits).2 stream _ _ rfl run
  exact ⟨stream, _, _, rfl, run, rfl, controlled, (histories 0 _ rfl).1⟩

end Perfcho.Stable
