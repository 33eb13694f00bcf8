import Perfcho.Stable.Writer

/-! Field writes only append, inside the configured bounds, and fail only with a
`ValueError`. What a failed write leaves behind is still an extension of what was
there, so an open packet stays intact until it is ended or cancelled. -/

namespace Perfcho.Stable

open Foundation Action

namespace PacketWriter

def append (writer : PacketWriter) (bytes : Bytes) : PacketWriter :=
  { writer with buffer := writer.buffer ++ bytes }

@[simp] theorem append_nil (writer : PacketWriter) : writer.append [] = writer := by simp [append]

@[simp] theorem append_append (writer : PacketWriter) (first second : Bytes) :
    (writer.append first).append second = writer.append (first ++ second) := by simp [append]

@[simp] theorem append_limits (writer : PacketWriter) (bytes : Bytes) :
    (writer.append bytes).limits = writer.limits := rfl

@[simp] theorem append_packetStart (writer : PacketWriter) (bytes : Bytes) :
    (writer.append bytes).packetStart = writer.packetStart := rfl

@[simp] theorem append_packetCount (writer : PacketWriter) (bytes : Bytes) :
    (writer.append bytes).packetCount = writer.packetCount := rfl

@[simp] theorem append_buffer (writer : PacketWriter) (bytes : Bytes) :
    (writer.append bytes).buffer = writer.buffer ++ bytes := rfl

/-- The buffer is inside the body bound, and an open packet has its header and a
payload inside the packet bound. -/
structure Wellformed (writer : PacketWriter) : Prop where
  body : writer.buffer.length ≤ writer.limits.maxBodySize
  payload : ∀ start, writer.packetStart = some start → start + headerSize ≤ writer.buffer.length ∧
    writer.buffer.length ≤ start + headerSize + writer.limits.maxPacketSize

theorem Wellformed.init (limits : CodecLimits) : (PacketWriter.init limits).Wellformed :=
  ⟨Nat.zero_le _, by simp [PacketWriter.init]⟩

/-- What the capacity check establishes about a number of further bytes. -/
def RoomFor (writer : PacketWriter) (additional : Nat) : Prop :=
  writer.buffer.length + additional ≤ writer.limits.maxBodySize ∧ ∀ start, writer.packetStart = some start →
    writer.buffer.length + additional ≤ start + headerSize + writer.limits.maxPacketSize

theorem RoomFor.fewer (room : RoomFor writer more) (fewer : less ≤ more) : writer.RoomFor less :=
  ⟨(Nat.add_le_add_left fewer _).trans room.1, fun start opened =>
    (Nat.add_le_add_left fewer _).trans (room.2 start opened)⟩

theorem Wellformed.append (valid : Wellformed writer) (room : writer.RoomFor bytes.length) :
    (writer.append bytes).Wellformed := by
  refine ⟨by simpa using room.1, fun start opened => ?_⟩
  have before := valid.payload start opened
  have after := room.2 start opened
  simp only [append_buffer, List.length_append, append_limits]
  omega

/-- An action fails with a `ValueError` and leaves the writer as it was. -/
def Refuses (action : Write Value) (writer : PacketWriter) : Prop :=
  ∃ failure, failure.isValueError = true ∧ action writer = (.error failure, writer)

theorem ensureCapacity_ok (room : writer.RoomFor additional) :
    ensureCapacity additional writer = (.ok (), writer) := by
  obtain ⟨body, payload⟩ := room
  unfold ensureCapacity
  simp only [read_bind, if_neg (Nat.not_lt.mpr body)]
  cases opened : writer.packetStart with
  | none => rfl
  | some start =>
    have small := payload start opened
    simp only
    rw [if_neg (by omega)]
    rfl

theorem ensureCapacity_cases (additional : Nat) (writer : PacketWriter) :
    writer.RoomFor additional ∨ Refuses (ensureCapacity additional) writer := by
  unfold ensureCapacity Refuses RoomFor
  simp only [read_bind]
  split
  · exact .inr ⟨_, rfl, rfl⟩
  rename_i body
  cases opened : writer.packetStart with
  | none => exact .inl ⟨by omega, by simp⟩
  | some start =>
    simp only
    split
    · exact .inr ⟨_, rfl, rfl⟩
    · refine .inl ⟨by omega, fun other equal => ?_⟩
      cases equal
      omega

theorem Refuses.bind (refused : Refuses first writer) : Refuses (first >>= next) writer := by
  obtain ⟨failure, controlled, failed⟩ := refused
  exact ⟨failure, controlled, bind_error failed⟩

theorem writeRaw_ok (room : writer.RoomFor value.length) :
    writeRaw value writer = (.ok (), writer.append value) :=
  bind_ok (ensureCapacity_ok room)

theorem writeRaw_cases (value : Bytes) (writer : PacketWriter) :
    writer.RoomFor value.length ∧ writeRaw value writer = (.ok (), writer.append value) ∨
      Refuses (writeRaw value) writer := by
  rcases ensureCapacity_cases value.length writer with room | refused
  · exact .inl ⟨room, writeRaw_ok room⟩
  · exact .inr refused.bind

theorem reserve_cases (size : Nat) (writer : PacketWriter) : writer.RoomFor size ∧
      reserve size writer = (.ok writer.buffer.length, writer.append (List.replicate size 0)) ∨
    Refuses (reserve size) writer := by
  rcases ensureCapacity_cases size writer with room | refused
  · exact .inl ⟨room, bind_ok (ensureCapacity_ok room)⟩
  · exact .inr refused.bind

/-- Filling exactly what was reserved at the end is appending. -/
theorem packInto_reserved (length : bytes.length = size) (writer : PacketWriter) :
    packInto writer.buffer.length bytes
    (writer.append (List.replicate size 0)) = (.ok (), writer.append bytes) := by
  simp [packInto, length, append]

theorem truncate_append (writer : PacketWriter) (bytes : Bytes) :
    truncate writer.buffer.length (writer.append bytes) = (.ok (), writer) := by
  simp [truncate, append]

theorem packRecord_ok (packed : layout.pack values = some bytes) (room : writer.RoomFor bytes.length) :
    packRecord layout values message writer = (.ok (), writer.append bytes) := by
  have length := Layout.pack_length packed
  have reserved : reserve layout.size writer = _ := bind_ok (ensureCapacity_ok (length ▸ room))
  rw [packRecord, bind_ok reserved, packed]
  exact packInto_reserved length writer

/-- A record is appended whole or refused without a trace. -/
theorem packRecord_cases (layout : Layout) (values : List Int) (message : String) (writer : PacketWriter) :
    (∃ bytes, layout.pack values = some bytes ∧ writer.RoomFor bytes.length ∧
        packRecord layout values message writer = (.ok (), writer.append bytes)) ∨
      Refuses (packRecord layout values message) writer := by
  rcases reserve_cases layout.size writer with ⟨room, reserved⟩ | refused
  · cases packed : layout.pack values with
    | some bytes =>
      have length := Layout.pack_length packed
      exact .inl ⟨bytes, rfl, length ▸ room, packRecord_ok packed (length ▸ room)⟩
    | none =>
      unfold packRecord Refuses
      rw [bind_ok reserved, packed]
      exact .inr ⟨_, rfl, bind_ok (truncate_append writer _)⟩
  · exact .inr refused.bind

theorem pack_eq_ok (packed : Layout.pack [field] [value] = some bytes) :
    pack field value writer = (.ok (), after) ↔ writer.RoomFor bytes.length ∧
    after = writer.append bytes := by
  constructor
  · intro ran
    rcases packRecord_cases [field] [value] _ writer with ⟨_, same, room, wrote⟩ | ⟨_, _, failed⟩
    · cases packed.symm.trans same
      cases wrote.symm.trans ran
      exact ⟨room, rfl⟩
    · cases failed.symm.trans ran
  · rintro ⟨room, rfl⟩
    exact packRecord_ok packed room

/-- The writer after a field write: the same packet, with some bytes appended. -/
def Extends (before after : PacketWriter) : Prop := ∃ bytes, after = before.append bytes

theorem Extends.refl (writer : PacketWriter) : Extends writer writer := ⟨[], by simp⟩

theorem Extends.trans (first : Extends before middle) (second : Extends middle after) :
    Extends before after := by
  obtain ⟨early, rfl⟩ := first
  obtain ⟨late, rfl⟩ := second
  exact ⟨early ++ late, by simp⟩

/-- A write that only appends, keeps the bounds and fails only with a `ValueError`. -/
def Appends (action : Write Value) : Prop :=
  Action.Sound Wellformed Extends (fun failure => failure.isValueError = true) action (fun _ => True)

theorem Appends.pure (value : Value) : Appends (Pure.pure value : Write Value) :=
  Action.Sound.pure .refl trivial

theorem Appends.fail {failure : Failure} (controlled : failure.isValueError = true) :
    Appends (fail failure : Write Value) :=
  Action.Sound.fail .refl controlled

theorem Appends.bind (head : Appends first) (tail : ∀ value, Appends (next value)) :
    Appends (first >>= next) :=
  Action.Sound.bind (fun early late => .trans early late) head fun value _ => tail value

theorem Appends.ite [Decidable condition] (whenTrue : Appends yes) (whenFalse : Appends no) :
    Appends (if condition then yes else no) :=
  Action.Sound.ite (fun _ => whenTrue) (fun _ => whenFalse)

theorem Appends.ofRead (tail : ∀ writer, Appends (next writer)) :
    Appends (read >>= next) := fun writer valid => tail writer writer valid

theorem Appends.forEach (each : ∀ item, Appends (body item)) : Appends (forEach items body) := by
  induction items with
  | nil => exact .pure ()
  | cons item items ih => exact .bind (each item) fun _ => ih

theorem Refuses.appends (refused : Refuses action writer) (valid : Wellformed writer) :
    Wellformed (action writer).2 ∧ Extends writer (action writer).2 ∧
      Action.Outcome (fun _ => True) (fun failure => failure.isValueError = true) (action writer).1 := by
  obtain ⟨failure, controlled, failed⟩ := refused
  rw [failed]
  exact ⟨valid, .refl writer, controlled⟩

theorem packRecord_appends (layout : Layout) (values : List Int) (message : String) :
    Appends (packRecord layout values message) := by
  intro writer valid
  rcases packRecord_cases layout values message writer with ⟨bytes, _, room, packed⟩ | refused
  · rw [packed]
    exact ⟨valid.append room, ⟨bytes, rfl⟩, trivial⟩
  · exact refused.appends valid

theorem writeRaw_appends (value : Bytes) : Appends (writeRaw value) := by
  intro writer valid
  rcases writeRaw_cases value writer with ⟨room, written⟩ | refused
  · rw [written]
    exact ⟨valid.append room, ⟨value, rfl⟩, trivial⟩
  · exact refused.appends valid

theorem pack_appends (field : Field) (value : Int) : Appends (pack field value) := packRecord_appends _ _ _

/-- A field, then the rest. -/
theorem Appends.field (tail : Appends rest) : Appends (pack kind value >>= fun _ => rest) :=
  .bind (pack_appends _ _) fun _ => tail

theorem writeUleb128Loop_appends (fuel value : Nat) : Appends (writeUleb128Loop fuel value) := by
  induction fuel generalizing value with
  | zero => exact .pure ()
  | succ fuel ih => exact .field (.ite (.pure ()) (ih _))

theorem writeUleb128_appends (value : Int) : Appends (writeUleb128 value) :=
  .ite (.fail rfl) (.ofRead fun _ => .ite (.fail rfl) (writeUleb128Loop_appends _ _))

theorem writeString_appends (value : String) : Appends (writeString value) :=
  .ite (pack_appends _ _) (.ofRead fun _ => .ite (.fail rfl)
    (.field (.bind (writeUleb128_appends _) fun _ => writeRaw_appends _)))

theorem Appends.text (tail : Appends rest) : Appends (writeString value >>= fun _ => rest) :=
  .bind (writeString_appends _) fun _ => tail

/-- A list is its count and its items, or it is refused; when only the items find
no room, their count stays behind. -/
theorem writeI32List_cases (values : List Int) (lengthField : Field) (writer : PacketWriter) :
    (∃ count items, Layout.pack [lengthField] [(values.length : Int)] = some count ∧
        Layout.pack (List.replicate values.length (.signed 4)) values = some items ∧
        values.length ≤ writer.limits.maxListLength ∧
        writer.RoomFor count.length ∧ (writer.append count).RoomFor items.length ∧
        writeI32List values lengthField writer = (.ok (), writer.append (count ++ items))) ∨
      Refuses (writeI32List values lengthField) writer ∨
      ∃ count failure, failure.isValueError = true ∧ writer.RoomFor count.length ∧
        writeI32List values lengthField writer = (.error failure, writer.append count) := by
  unfold writeI32List Refuses
  simp only [read_bind]
  split
  · exact .inr (.inl ⟨_, rfl, rfl⟩)
  split
  · exact .inr (.inl ⟨_, rfl, rfl⟩)
  rename_i within _
  rcases packRecord_cases [lengthField] [(values.length : Int)] _ writer with ⟨count, packed, room,
    wrote⟩ | refused
  · rw [pack, bind_ok wrote]
    rcases reserve_cases (Layout.size (List.replicate values.length (.signed 4))) (writer.append count) with
      ⟨itemRoom, reserved⟩ | ⟨failure, controlled, failed⟩
    · rw [bind_ok reserved]
      cases items : Layout.pack (List.replicate values.length (.signed 4)) values with
      | some bytes =>
        have length := Layout.pack_length items
        refine .inl ⟨count, bytes, packed, rfl, Nat.le_of_not_lt within, room, length ▸ itemRoom, ?_⟩
        exact (packInto_reserved length (writer.append count)).trans (by rw [append_append])
      | none =>
        rw [append_append]
        exact .inr (.inl ⟨_, rfl, bind_ok (truncate_append writer _)⟩)
    · exact .inr (.inr ⟨count, failure, controlled, room, bind_error failed⟩)
  · exact .inr (.inl refused.bind)

theorem writeI32List_appends (values : List Int) (lengthField : Field) :
    Appends (writeI32List values lengthField) := by
  intro writer valid
  rcases writeI32List_cases values lengthField writer with
    ⟨count, items, _, _, _, room, itemRoom, written⟩ | refused | ⟨count, failure, controlled, room, failed⟩
  · rw [written, ← append_append]
    exact ⟨(valid.append room).append itemRoom, ⟨count ++ items, append_append ..⟩, trivial⟩
  · exact refused.appends valid
  · rw [failed]
    exact ⟨valid.append room, ⟨count, rfl⟩, controlled⟩

theorem writeMessage_appends (message : Message) : Appends (writeMessage message) :=
  .text <| .text <| .text <| pack_appends _ _

theorem writeChannel_appends (channel : Channel) : Appends (writeChannel channel) :=
  .text <| .text <| pack_appends _ _

theorem writeClientStatus_appends (status : ClientStatus) : Appends (writeClientStatus status) :=
  .field <| .text <| .text <| .field <| .field <| pack_appends _ _

theorem writeUserPresence_appends (presence : UserPresence) : Appends (writeUserPresence presence) :=
  .ite (.fail rfl) (.ite (.fail rfl)
    (.field <| .text <| .field <| .field <| .field <| .field <| .field <| pack_appends _ _))

theorem writeUserStats_appends (stats : UserStats) : Appends (writeUserStats stats) :=
  .field <| .field <| .text <| .text <| .field <| .field <| .field <| .field <| .field <| .field <|
    .field <| .field <|
  pack_appends _ _

theorem requireSlots_appends (name : String) (length : Nat) : Appends (requireSlots name length) :=
  .ite (.fail rfl) (.pure ())

theorem requireSlotMods_appends (value : MultiplayerMatch) : Appends (requireSlotMods value) :=
  .ite (requireSlots_appends _ _) (.ite (.fail rfl) (.pure ()))

theorem writeSlotUser_appends (userId : Option Int) : Appends (writeSlotUser userId) := by
  cases userId with
  | none => exact .pure ()
  | some userId => exact pack_appends _ _

theorem writeMultiplayerMatch_appends (value : MultiplayerMatch) (sendPassword : Bool) :
    Appends (writeMultiplayerMatch value sendPassword) :=
  .bind (requireSlots_appends _ _) fun _ => .bind (requireSlots_appends _ _) fun _ =>
  .bind (requireSlots_appends _ _) fun _ => .bind (requireSlotMods_appends _) fun _ =>
  .bind (.ite (.fail rfl) (.pure ())) fun _ => .field <| .field <| .field <| .field <|
  .text <| .bind (.ite (writeRaw_appends _) (writeString_appends _)) fun _ => .text <| .field <|
  .text <| .bind (.forEach fun _ => pack_appends _ _) fun _ =>
    .bind (.forEach fun _ => pack_appends _ _) fun _ =>
  .bind (.forEach writeSlotUser_appends) fun _ => .field <| .field <| .field <| .field <| .field <|
  .bind (.forEach fun _ => pack_appends _ _) fun _ => pack_appends _ _

theorem writePortion_appends (portion : Option UInt64) : Appends (writePortion portion) := by
  cases portion with
  | none => exact .pure ()
  | some portion => exact pack_appends (.unsigned 8) portion.toNat

theorem writeScoreFrame_appends (frame : ScoreFrame) : Appends (writeScoreFrame frame) :=
  .ite (.fail rfl) (.ite (.fail rfl) (.bind (packRecord_appends _ _ _) fun _ =>
    .ite (.bind (writePortion_appends _) fun _ => writePortion_appends _) (.pure ())))

theorem writeReplayFrameBundle_appends (bundle : ReplayFrameBundle) :
    Appends (writeReplayFrameBundle bundle) :=
  .ofRead fun _ => .ite (.fail rfl) (.ite (.fail rfl) (.field <| .field <|
    .bind (.forEach fun _ => packRecord_appends _ _ _) fun _ => .field <|
    .bind (writeScoreFrame_appends _) fun _ => pack_appends _ _))

end PacketWriter

end Perfcho.Stable
