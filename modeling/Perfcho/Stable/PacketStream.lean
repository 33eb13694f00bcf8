import Perfcho.Stable.Reader
import Perfcho.Stable.WriterInvariant

/-! A stream of packets, written in any order of begins, field writes, ends and
cancels, is the concatenation of its finished packets, and reads back as them. -/

namespace Perfcho.Stable

open Foundation Action Field

/-- A finished packet, as a writer's caller means it. -/
abbrev Framed := Int × Bytes

def header (packetId : Int) (size : Nat) : Bytes :=
  (unsigned 2).encode packetId ++ 0 :: (unsigned 4).encode size

/-- The bytes of one packet: its header, then its payload. -/
def frame (packet : Framed) : Bytes := header packet.1 packet.2.length ++ packet.2

def frames (packets : List Framed) : Bytes := packets.flatMap frame

@[simp] theorem header_length (packetId : Int) (size : Nat) : (header packetId size).length = headerSize := by
  simp [header, Field.size]

@[simp] theorem frame_length (packet : Framed) : (frame packet).length = headerSize + packet.2.length := by
  simp [frame]

@[simp] theorem frames_nil : frames [] = [] := rfl

@[simp] theorem frames_cons (packet : Framed) (packets : List Framed) :
    frames (packet :: packets) = frame packet ++ frames packets := by simp [frames]

theorem frames_length_le (packets : List Framed) : packets.length ≤ (frames packets).length := by
  induction packets with
  | nil => exact Nat.le_refl _
  | cons packet packets ih =>
    simp only [List.length_cons, frames_cons, List.length_append, frame_length, headerSize_eq]
    omega

theorem frames_append (first second : List Framed) :
    frames (first ++ second) = frames first ++ frames second := by
  simp [frames]

/-- A packet whose identifier and length fit its header, inside the packet bound. -/
structure Fits (limits : CodecLimits) (packet : Framed) : Prop where
  identifier : 0 ≤ packet.1 ∧ packet.1 ≤ 0xFFFF
  small : packet.2.length ≤ limits.maxPacketSize
  encodable : packet.2.length < 256 ^ 4

theorem header_pack (fits : Fits limits packet) :
    headerStruct.pack [packet.1, packet.2.length] = some (header packet.1 packet.2.length) := by
  have identifier : (unsigned 2).Fits packet.1 := by
    have := fits.identifier
    simp only [Field.Fits]
    omega
  have size : (unsigned 4).Fits packet.2.length := by
    have := fits.encodable
    simp only [Field.Fits]
    omega
  simp [headerStruct, Layout.pack, identifier, size, header]

namespace PacketReader

/-- The packets of an iteration over the reader. Every packet takes at least its
header, so the unread bytes bound the loop. -/
def packetsWithin : Nat → Read (List Packet)
  | 0 => fail .stopIteration
  | fuel + 1 => fun reader =>
    match next reader with
    | (.error .stopIteration, after) => (.ok [], after)
    | (.error failure, after) => (.error failure, after)
    | (.ok packet, after) => (do return packet :: (← packetsWithin fuel)) after

def packets : Read (List Packet) := fun reader => packetsWithin (reader.remaining + 1) reader

def framed (packet : Packet) : Framed := (packet.packetId, packet.payload.view)

/-- The next packet of a view that goes on with a frame. -/
theorem next_frame (here : reader.unread = frame packet ++ rest) (fits : Fits reader.limits packet)
    (room : reader.packetCount < reader.limits.maxPacketCount) :
    ∃ yielded after, next reader = (.ok yielded, after) ∧ framed yielded = packet ∧ after.unread =
      rest ∧ after.limits = reader.limits ∧ after.packetCount = reader.packetCount + 1 := by
  have length : reader.unread.length = reader.remaining := by simp [unread, remaining]
  have total : reader.remaining = headerSize + packet.2.length + rest.length := by
    rw [← length, here]
    simp
  have unpacked : headerStruct.unpack reader.unread = some [packet.1, packet.2.length] := by
    rw [here, frame, List.append_assoc]
    exact Layout.unpack_pack (header_pack fits) _
  have drop : reader.view.drop (reader.position + headerSize) = packet.2 ++ rest := by
    rw [← List.drop_drop, ← unread, here, frame, List.append_assoc]
    exact List.drop_left' (header_length _ _)
  have inside : reader.position + headerSize + packet.2.length ≤ reader.view.length := by
    have := reader.bounded
    simp only [remaining] at total
    omega
  have small := fits.small
  have payload : (reader.view.drop (reader.position + headerSize)).take packet.2.length = packet.2 := by
    rw [drop, List.take_left]
  refine ⟨⟨packet.1, reader.packetEnum.lookup packet.1,
    fresh packet.2 reader.packetEnum reader.limits⟩, { reader with
      position := reader.position + headerSize + packet.2.length
      packetCount := reader.packetCount + 1
      bounded := inside }, ?_, rfl, ?_, rfl, rfl⟩
  · have seven : headerSize = 7 := rfl
    unfold next readPacket
    rw [if_neg (by omega), if_neg (by omega), if_neg (by omega), if_neg (by omega), unpacked]
    simp only [Int.toNat_natCast, payload, init_payload small]
    rw [if_neg (by omega), dif_pos inside]
  · rw [unread, ← List.drop_drop, drop, List.drop_left]

/-- Iterating over a view of frames yields them, in order, and consumes every byte. -/
theorem packetsWithin_frames {packets : List Framed} (here : reader.unread = frames packets)
    (fits : ∀ packet ∈ packets, Fits reader.limits packet)
    (room : reader.packetCount + packets.length ≤ reader.limits.maxPacketCount)
    (enough : packets.length < fuel) :
    ∃ yielded after, packetsWithin fuel reader = (.ok yielded, after) ∧
      yielded.map framed = packets ∧ after.unread = [] := by
  induction packets generalizing reader fuel with
  | nil =>
    have empty : reader.remaining = 0 := by simpa [unread, remaining] using congrArg List.length here
    match fuel, enough with
    | fuel + 1, _ =>
      refine ⟨[], reader, ?_, rfl, here⟩
      simp only [packetsWithin, next, if_pos empty]
  | cons packet packets ih =>
    rw [List.length_cons] at room enough
    obtain ⟨head, middle, read, same, after, limits, count⟩ :=
      next_frame here (fits packet (by simp)) (by omega)
    match fuel, enough with
    | fuel + 1, enough =>
      obtain ⟨tail, final, rest, tailSame, done⟩ := ih after
        (by rw [limits]; exact fun other member => fits other (by simp [member]))
        (by rw [limits, count]; omega) (by omega : packets.length < fuel)
      refine ⟨head :: tail, final, ?_, by rw [List.map_cons, same, tailSame], done⟩
      simp only [packetsWithin, read]
      rw [bind_ok rest]
      rfl

end PacketReader

/-- The public field writes of a writer, with the values a caller chooses. -/
inductive WriteCall where
  | raw (value : Bytes)
  | i8 (value : Int) | u8 (value : Int) | i16 (value : Int) | u16 (value : Int)
  | i32 (value : Int) | u32 (value : Int) | i64 (value : Int) | u64 (value : Int)
  | f16 (value : UInt16) | f32 (value : UInt32) | f64 (value : UInt64)
  | bool (value : Bool) | uleb128 (value : Int) | string (value : String)
  | i32ListU16 (values : List Int) | i32ListU32 (values : List Int)
  | message (value : Message) | channel (value : Channel) | clientStatus (value : ClientStatus)
  | userPresence (value : UserPresence) | userStats (value : UserStats)
  | multiplayerMatch (value : MultiplayerMatch) (sendPassword : Bool)
  | scoreFrame (value : ScoreFrame) | replayFrame (value : ReplayFrame)
  | replayFrameBundle (value : ReplayFrameBundle)

namespace WriteCall

open PacketWriter

def run : WriteCall → Write Unit
  | raw value => writeRaw value
  | i8 value => writeI8 value
  | u8 value => writeU8 value
  | i16 value => writeI16 value
  | u16 value => writeU16 value
  | i32 value => writeI32 value
  | u32 value => writeU32 value
  | i64 value => writeI64 value
  | u64 value => writeU64 value
  | f16 value => writeF16 value
  | f32 value => writeF32 value
  | f64 value => writeF64 value
  | bool value => writeBool value
  | uleb128 value => writeUleb128 value
  | string value => writeString value
  | i32ListU16 values => writeI32ListU16 values
  | i32ListU32 values => writeI32ListU32 values
  | message value => writeMessage value
  | channel value => writeChannel value
  | clientStatus value => writeClientStatus value
  | userPresence value => writeUserPresence value
  | userStats value => writeUserStats value
  | multiplayerMatch value sendPassword => writeMultiplayerMatch value sendPassword
  | scoreFrame value => writeScoreFrame value
  | replayFrame value => writeReplayFrame value
  | replayFrameBundle value => writeReplayFrameBundle value

theorem run_appends (call : WriteCall) : Appends call.run := by
  cases call with
  | raw value => exact writeRaw_appends value
  | i8 value | u8 value | i16 value | u16 value | i32 value | u32 value | i64 value | u64 value =>
    exact pack_appends _ value
  | f16 value => exact pack_appends (.unsigned 2) value.toNat
  | f32 value => exact pack_appends (.unsigned 4) value.toNat
  | f64 value => exact pack_appends (.unsigned 8) value.toNat
  | bool value => exact pack_appends (.unsigned 1) value.toNat
  | uleb128 value => exact writeUleb128_appends value
  | string value => exact writeString_appends value
  | i32ListU16 values | i32ListU32 values => exact writeI32List_appends values _
  | message value => exact writeMessage_appends value
  | channel value => exact writeChannel_appends value
  | clientStatus value => exact writeClientStatus_appends value
  | userPresence value => exact writeUserPresence_appends value
  | userStats value => exact writeUserStats_appends value
  | multiplayerMatch value sendPassword => exact writeMultiplayerMatch_appends value sendPassword
  | scoreFrame value => exact writeScoreFrame_appends value
  | replayFrame value => exact packRecord_appends _ _ _
  | replayFrameBundle value => exact writeReplayFrameBundle_appends value

end WriteCall

/-- What a caller has written so far: finished packets, and the open one. -/
structure PacketLog where
  done : List Framed
  current : Option Framed

/-- The bytes of an open packet, with its length still to be filled in. -/
def openFrame : Option Framed → Bytes
  | none => []
  | some packet => header packet.1 0 ++ packet.2

/-- Runs of a writer. Field writes are made while a packet is open, may fail
midway, and belong to the packet with whatever bytes they left. The packet
context is a begin and its field writes, with an end or, after a failure, a cancel. -/
inductive Written (limits : CodecLimits) : PacketLog → PacketWriter → Prop where
  | start : Written limits ⟨[], none⟩ (.init limits)
  | begin (earlier : Written limits log writer) (packetId : Int)
      (ran : PacketWriter.beginPacket packetId writer = (.ok (), after)) :
      Written limits { log with current := some (packetId, []) } after
  | write (earlier : Written limits log writer) (call : WriteCall) (opened : writer.packetOpen = true)
      (ran : call.run writer = (outcome, after)) :
      Written limits { log with
        current := log.current.map fun packet =>
          (packet.1, packet.2 ++ after.buffer.drop writer.buffer.length) } after
  | finish (earlier : Written limits log writer) (ran : PacketWriter.endPacket writer = (.ok (), after)) :
      Written limits ⟨log.done ++ log.current.toList, none⟩ after
  | cancel (earlier : Written limits log writer) (ran : PacketWriter.cancelPacket writer = (.ok (), after)) :
      Written limits { log with current := none } after
  | refused {control : Write Unit} {failure : Failure} (earlier : Written limits log writer)
      (kind : control = PacketWriter.endPacket ∨ control = PacketWriter.cancelPacket ∨
        ∃ packetId, control = PacketWriter.beginPacket packetId)
      (ran : control writer = (.error failure, after)) : Written limits log after

namespace PacketWriter

theorem packInto_middle (content : writer.buffer = before ++ (old ++ rest))
    (width : bytes.length = old.length) :
    packInto before.length bytes writer = (.ok (), { writer with buffer := before ++ (bytes ++ rest) }) := by
  simp [packInto, content, width]

structure CanBegin (packetId : Int) (writer : PacketWriter) : Prop where
  closed : writer.packetStart = none
  count : writer.packetCount < writer.limits.maxPacketCount
  identifier : 0 ≤ packetId ∧ packetId ≤ 0xFFFF
  room : writer.RoomFor headerSize

theorem beginPacket_ok (can : CanBegin packetId writer) : beginPacket packetId writer = (.ok (),
    { writer with
      packetStart := some writer.buffer.length
      buffer := writer.buffer ++ header packetId 0 }) := by
  obtain ⟨closed, count, identifier, room⟩ := can
  have zeros : List.replicate 5 (0 : UInt8) = 0 :: (unsigned 4).encode 0 := by decide
  have width : ((unsigned 2).encode packetId).length = 2 := encode_length _ _
  unfold beginPacket
  simp only [read_bind, closed]
  rw [if_neg (by simp), if_neg (by omega), if_neg (by simpa using identifier),
    bind_ok (ensureCapacity_ok room)]
  simp [extend, packInto, bind_apply, header, width, ← zeros, List.drop_append]

theorem beginPacket_cases (packetId : Int) (writer : PacketWriter) :
    CanBegin packetId writer ∨ Refuses (beginPacket packetId) writer := by
  unfold beginPacket Refuses
  simp only [read_bind]
  split
  · exact .inr ⟨_, rfl, rfl⟩
  split
  · exact .inr ⟨_, rfl, rfl⟩
  split
  · exact .inr ⟨_, rfl, rfl⟩
  rename_i closed count identifier
  rcases ensureCapacity_cases headerSize writer with room | refused
  · exact .inl ⟨by simpa using closed, by omega, by omega, room⟩
  · exact .inr refused.bind

private theorem endPacket_size {writer : PacketWriter}
    (content : writer.buffer = before ++ (header packetId 0 ++ payload)) :
    (writer.buffer.length : Int) - before.length - headerSize = payload.length := by
  rw [content]
  simp only [List.length_append, header_length]
  omega

/-- An end fills in the length behind the identifier. -/
theorem endPacket_ok {writer : PacketWriter} (opened : writer.packetStart = some before.length)
    (content : writer.buffer = before ++ (header packetId 0 ++ payload))
    (encodable : payload.length < 256 ^ 4) :
    endPacket writer = (.ok (), { writer with
        buffer := before ++ frame (packetId, payload)
        packetStart := none
        packetCount := writer.packetCount + 1 }) := by
  have fits : (unsigned 4).Fits payload.length := by
    simp only [Field.Fits]
    omega
  have split : writer.buffer =
    (before ++ ((unsigned 2).encode packetId ++ [0])) ++ ((unsigned 4).encode 0 ++ payload) := by
    rw [content]
    simp [header]
  have offset : before.length + 3 = (before ++ ((unsigned 2).encode packetId ++ [0])).length := by
    simp [size]
  have packed : Layout.pack [.unsigned 4] [(payload.length : Int)] =
    some ((unsigned 4).encode payload.length) := by
    simp [Layout.pack, fits]
  unfold endPacket
  simp only [read_bind, opened, endPacket_size content]
  rw [packed, offset]
  refine (bind_ok (packInto_middle split (by simp))).trans ?_
  simp [frame, header]

/-- A payload whose length does not fit its field leaves the packet open. -/
theorem endPacket_large {writer : PacketWriter} (opened : writer.packetStart = some before.length)
    (content : writer.buffer = before ++ (header packetId 0 ++ payload))
    (large : ¬ payload.length < 256 ^ 4) : endPacket writer = (.error .structError, writer) := by
  have fits : ¬ (unsigned 4).Fits payload.length := by
    simp only [Field.Fits]
    omega
  have unpacked : Layout.pack [.unsigned 4] [(payload.length : Int)] = none := by simp [Layout.pack, fits]
  unfold endPacket
  simp only [read_bind, opened, endPacket_size content]
  rw [unpacked]
  rfl

theorem endPacket_closed (closed : writer.packetStart = none) : Refuses endPacket writer :=
  ⟨_, rfl, by simp [endPacket, closed]; rfl⟩

theorem cancelPacket_open (opened : writer.packetStart = some before.length)
    (content : writer.buffer = before ++ rest) :
    cancelPacket writer = (.ok (), { writer with buffer := before, packetStart := none }) := by
  simp [cancelPacket, opened, truncate, bind_apply, content]

theorem cancelPacket_closed (closed : writer.packetStart = none) : Refuses cancelPacket writer :=
  ⟨_, rfl, by simp [cancelPacket, closed]; rfl⟩

end PacketWriter

/-- The writer holds exactly the finished packets and the open one. -/
structure Holds (limits : CodecLimits) (log : PacketLog) (writer : PacketWriter) : Prop where
  configured : writer.limits = limits
  valid : writer.Wellformed
  buffer : writer.buffer = frames log.done ++ openFrame log.current
  start : writer.packetStart = log.current.map fun _ => (frames log.done).length
  count : writer.packetCount = log.done.length
  counted : log.done.length + log.current.toList.length ≤ limits.maxPacketCount
  fits : ∀ packet ∈ log.done, Fits limits packet
  identifier : ∀ packet, log.current = some packet → 0 ≤ packet.1 ∧ packet.1 ≤ 0xFFFF

variable {limits : CodecLimits}

theorem Holds.init (limits : CodecLimits) : Holds limits ⟨[], none⟩ (.init limits) :=
  ⟨rfl, .init limits, rfl, rfl, rfl, Nat.zero_le _, by simp, by simp⟩

theorem Holds.begin (held : Holds limits log writer)
    (ran : PacketWriter.beginPacket packetId writer = (.ok (), after)) :
    Holds limits { log with current := some (packetId, []) } after := by
  rcases PacketWriter.beginPacket_cases packetId writer with can | refused
  · cases (PacketWriter.beginPacket_ok can).symm.trans ran
    obtain ⟨closed, room, identifier, capacity⟩ := can
    have none : log.current = none := by simpa [held.start] using closed
    have buffer : writer.buffer = frames log.done := by simp [held.buffer, none, openFrame]
    rw [held.configured, held.count] at room
    refine ⟨held.configured, ⟨?_, ?_⟩, ?_, ?_, held.count, ?_, held.fits, ?_⟩
    · simpa using capacity.1
    · rintro start ⟨⟩
      simp
    · simp [openFrame, buffer]
    · simp [buffer]
    · exact room
    · rintro packet ⟨⟩
      exact identifier
  · obtain ⟨failure, _, failed⟩ := refused
    cases failed.symm.trans ran

theorem Holds.write (held : Holds limits log writer) (call : WriteCall)
    (opened : writer.packetOpen = true) (ran : call.run writer = (outcome, after)) :
    Holds limits { log with
      current := log.current.map fun packet =>
        (packet.1, packet.2 ++ after.buffer.drop writer.buffer.length) } after := by
  obtain ⟨valid, ⟨bytes, appended⟩, _⟩ := call.run_appends writer held.valid
  rw [ran] at valid appended
  have extended : after = writer.append bytes := appended
  have added : after.buffer.drop writer.buffer.length = bytes := by simp [extended]
  have counted := held.counted
  rw [added]
  cases current : log.current with
  | none => simp [PacketWriter.packetOpen, held.start, current] at opened
  | some packet =>
    rw [current] at counted
    refine ⟨by simp [extended, held.configured], valid, ?_, ?_, ?_, counted, held.fits, ?_⟩
    · simp [extended, held.buffer, current, openFrame]
    · simp [extended, held.start, current]
    · simp [extended, held.count]
    · rintro other ⟨⟩
      exact held.identifier packet current

theorem Holds.closed (held : Holds limits log writer) (current : log.current = none) :
    writer.packetStart = none := by
  rw [held.start, current]
  rfl

theorem Holds.opened (held : Holds limits log writer) (current : log.current = some packet) :
    writer.packetStart = some (frames log.done).length ∧
      writer.buffer = frames log.done ++ (header packet.1 0 ++ packet.2) := by
  rw [held.start, held.buffer, current]
  exact ⟨rfl, rfl⟩

theorem Holds.finish (held : Holds limits log writer)
    (ran : PacketWriter.endPacket writer = (.ok (), after)) :
    Holds limits ⟨log.done ++ log.current.toList, none⟩ after := by
  cases current : log.current with
  | none =>
    obtain ⟨failure, _, failed⟩ := PacketWriter.endPacket_closed (held.closed current)
    cases failed.symm.trans ran
  | some packet =>
    obtain ⟨opened, content⟩ := held.opened current
    have counted := held.counted
    rw [current] at counted
    by_cases encodable : packet.2.length < 256 ^ 4
    · cases (PacketWriter.endPacket_ok opened content encodable).symm.trans ran
      have fits : Fits limits packet := by
        refine ⟨held.identifier packet current, ?_, encodable⟩
        have payload := (held.valid.payload _ opened).2
        simp only [content, List.length_append, header_length, held.configured] at payload
        omega
      refine ⟨held.configured, ⟨?_, by simp⟩, ?_, rfl, ?_, by simpa using counted, ?_, by simp⟩
      · have body := held.valid.body
        simp only [content, List.length_append, header_length] at body
        simpa [Nat.add_assoc] using body
      · simp [openFrame, frames_append]
      · simp [held.count]
      · intro other member
        rcases of_mem_concat member with old | rfl
        · exact held.fits other old
        · exact fits
    · cases (PacketWriter.endPacket_large opened content encodable).symm.trans ran

theorem Holds.cancel (held : Holds limits log writer)
    (ran : PacketWriter.cancelPacket writer = (.ok (), after)) :
    Holds limits { log with current := none } after := by
  cases current : log.current with
  | none =>
    obtain ⟨failure, _, failed⟩ := PacketWriter.cancelPacket_closed (held.closed current)
    cases failed.symm.trans ran
  | some packet =>
    cases (PacketWriter.cancelPacket_open (held.opened current).1 held.buffer).symm.trans ran
    have body := held.valid.body
    have counted := held.counted
    rw [held.buffer, List.length_append] at body
    refine ⟨held.configured, ⟨Nat.le_of_add_right_le body, by simp⟩, ?_, rfl, held.count, ?_,
      held.fits, by simp⟩
    · simp [openFrame]
    · simpa using Nat.le_of_add_right_le counted

/-- A begin, an end or a cancel that fails leaves the writer as it was. -/
theorem Holds.refused {control : Write Unit} {failure : Failure} (held : Holds limits log writer)
    (kind : control = PacketWriter.endPacket ∨ control = PacketWriter.cancelPacket ∨
      ∃ packetId, control = PacketWriter.beginPacket packetId)
    (ran : control writer = (.error failure, after)) : after = writer := by
  have same : PacketWriter.Refuses control writer → after = writer := by
    rintro ⟨_, _, failed⟩
    exact (congrArg Prod.snd (failed.symm.trans ran)).symm
  rcases kind with rfl | rfl | ⟨packetId, rfl⟩
  · cases current : log.current with
    | none => exact same (PacketWriter.endPacket_closed (held.closed current))
    | some packet =>
      obtain ⟨opened, content⟩ := held.opened current
      by_cases encodable : packet.2.length < 256 ^ 4
      · cases (PacketWriter.endPacket_ok opened content encodable).symm.trans ran
      · exact (congrArg Prod.snd ((PacketWriter.endPacket_large opened content encodable).symm.trans
          ran)).symm
  · cases current : log.current with
    | none => exact same (PacketWriter.cancelPacket_closed (held.closed current))
    | some packet => cases (PacketWriter.cancelPacket_open (held.opened current).1 held.buffer).symm.trans ran
  · rcases PacketWriter.beginPacket_cases packetId writer with can | refused
    · cases (PacketWriter.beginPacket_ok can).symm.trans ran
    · exact same refused

/-- Every run of a writer keeps what it holds in step with what was written. -/
theorem Written.holds (run : Written limits log writer) : Holds limits log writer := by
  induction run with
  | start => exact .init limits
  | begin _ packetId ran ih => exact ih.begin ran
  | write _ call opened ran ih => exact ih.write call opened ran
  | finish _ ran ih => exact ih.finish ran
  | cancel _ ran ih => exact ih.cancel ran
  | refused _ kind ran ih => exact ih.refused kind ran ▸ ih

theorem Holds.writePacket (held : Holds limits ⟨done, none⟩ writer) (fits : Fits limits packet)
    (count : done.length < limits.maxPacketCount)
    (room : (frames done).length + (frame packet).length ≤ limits.maxBodySize) :
    ∃ after, PacketWriter.writePacket packet.1 packet.2 writer = (.ok (), after) ∧
      Holds limits ⟨done ++ [packet], none⟩ after := by
  have buffer : writer.buffer = frames done := by simp [held.buffer, openFrame]
  have closed : writer.packetStart = none := held.start
  rw [frame_length] at room
  have can : PacketWriter.CanBegin packet.1 writer := by
    refine ⟨closed, by rw [held.count, held.configured]; exact count, fits.identifier, ?_, by simp [closed]⟩
    rw [buffer, held.configured]
    omega
  have began := held.begin (PacketWriter.beginPacket_ok can)
  set opened : PacketWriter :=
    { writer with
      packetStart := some writer.buffer.length
      buffer := writer.buffer ++ header packet.1 0 } with opening
  have payload : opened.RoomFor packet.2.length := by
    have small := fits.small
    refine ⟨?_, ?_⟩
    · simp only [opening, buffer, List.length_append, header_length, held.configured]
      omega
    · rintro start ⟨⟩
      simp only [opening, List.length_append, header_length, held.configured]
      omega
  have raw := PacketWriter.writeRaw_ok payload
  have wrote := began.write (.raw packet.2) rfl raw
  simp only [Option.map_some, List.nil_append, PacketWriter.append_buffer, List.drop_left] at wrote
  have start : (opened.append packet.2).packetStart = some (frames done).length := by simp [opening, buffer]
  have content : (opened.append packet.2).buffer = frames done ++ (header packet.1 0 ++ packet.2) := by
    simp [opening, buffer]
  have ended := PacketWriter.endPacket_ok start content fits.encodable
  refine ⟨_, ?_, wrote.finish ended⟩
  unfold PacketWriter.writePacket PacketWriter.packet
  rw [bind_ok (PacketWriter.beginPacket_ok can), bind_ok (onFailure_ok raw _)]
  exact ended

theorem Holds.writePackets (held : Holds limits ⟨done, none⟩ writer)
    (fits : ∀ packet ∈ packets, Fits limits packet) (count : (done ++ packets).length ≤ limits.maxPacketCount)
    (room : (frames (done ++ packets)).length ≤ limits.maxBodySize) :
    ∃ after, forEach packets (fun packet => PacketWriter.writePacket packet.1 packet.2) writer =
      (.ok (), after) ∧ Holds limits ⟨done ++ packets, none⟩ after := by
  induction packets generalizing done writer with
  | nil => exact ⟨writer, rfl, by simpa using held⟩
  | cons packet packets ih =>
    have assoc : done ++ packet :: packets = (done ++ [packet]) ++ packets := by simp
    obtain ⟨middle, wrote, holds⟩ := held.writePacket (fits packet (by simp))
      (by simp at count; omega) (by simp [frames_append] at room; simp; omega)
    rw [assoc] at count room ⊢
    obtain ⟨after, rest, final⟩ := ih holds (fun other member => fits other (by simp [member])) count room
    exact ⟨after, (bind_ok wrote).trans rest, final⟩

/-- Whatever was written, an export reads back as the finished packets, in
order and to the last byte, and writing them again exports the same bytes. -/
theorem packetStream_round_trip (packetEnum : PacketEnum) (run : Written limits log writer)
    (exported : writer.toBytes = .ok bytes) :
    ∃ reader packets final rewritten, PacketReader.init bytes packetEnum limits = .ok reader ∧
      PacketReader.packets reader = (.ok packets, final) ∧
      packets.map (fun packet => (packet.packetId, packet.payload.view)) = log.done ∧
      final.remaining = 0 ∧
      forEach packets (fun packet => PacketWriter.writePacket packet.packetId packet.payload.view)
        (.init limits) = (.ok (), rewritten) ∧
      rewritten.toBytes = .ok bytes := by
  have held := run.holds
  obtain ⟨done, current⟩ := log
  have closed : current = none := by
    unfold PacketWriter.toBytes at exported
    split at exported
    · cases exported
    · rename_i ended
      simpa [held.start] using ended
  subst closed
  have content : bytes = frames done := by
    have buffer : writer.buffer = frames done := by simp [held.buffer, openFrame]
    rw [PacketWriter.toBytes, held.start, buffer] at exported
    exact (Except.ok.inj exported).symm
  have body : (frames done).length ≤ limits.maxBodySize := by
    simpa [held.buffer, openFrame, held.configured] using held.valid.body
  have count : done.length ≤ limits.maxPacketCount := held.counted
  set reader := PacketReader.fresh bytes packetEnum limits
  have here : reader.unread = frames done := content
  have enough : done.length < reader.remaining + 1 := by
    have remaining : reader.remaining =
      (frames done).length := by rw [← here]; simp [PacketReader.unread, PacketReader.remaining]
    have := frames_length_le done
    omega
  obtain ⟨packets, final, read, same, consumed⟩ :=
    PacketReader.packetsWithin_frames here held.fits
      (by simpa [reader, PacketReader.fresh] using count) enough
  obtain ⟨rewritten, wrote, holds⟩ := (Holds.init limits).writePackets held.fits count body
  refine ⟨reader, packets, final, rewritten, PacketReader.init_body (content ▸ body), read, same, ?_, ?_, ?_⟩
  · simpa [PacketReader.unread, PacketReader.remaining, Nat.sub_eq_zero_iff_le] using consumed
  · rw [← same, forEach_map] at wrote
    exact wrote
  · have buffer : rewritten.buffer = bytes := by simp [holds.buffer, openFrame, content]
    rw [PacketWriter.toBytes, holds.start, buffer]
    rfl

/-- A context whose second write is refused is cancelled, the packet after it has
an unknown identifier, and only that packet is read back. -/
theorem packetStream_round_trip_cancelled : ∃ log writer bytes reader packets final,
    Written defaultLimits log writer ∧ writer.toBytes = .ok bytes ∧
    log.done = [(65535, [7])] ∧
    PacketReader.init bytes .client defaultLimits = .ok reader ∧
    PacketReader.packets reader = (.ok packets, final) ∧
    packets.map (fun packet => (packet.packetId, packet.payload.view)) = [(65535, [7])] := by
  have fresh : Written defaultLimits ⟨[], none⟩ (.init defaultLimits) := .start
  have cancelled := ((fresh.begin 4 rfl).write (.u8 300) rfl rfl).cancel rfl
  have run := ((cancelled.begin 65535 rfl).write (.u8 7) rfl rfl).finish rfl
  obtain ⟨reader, packets, final, _, created, read, same, _⟩ := packetStream_round_trip .client run rfl
  exact ⟨_, _, _, reader, packets, final, run, rfl, rfl, created, read, same⟩

end Perfcho.Stable
