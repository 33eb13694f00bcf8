import Mathlib.Tactic.IntervalCases
import Mathlib.Tactic.Ring
import Perfcho.Scoring.Replays
import Perfcho.Stable.Reader
import Perfcho.Stable.WriterInvariant

/-! What a writer accepts, a reader with the same limits restores. -/

namespace Perfcho.Stable

open Foundation Nat
open Foundation.Action (bind_eq_ok_iff forEach read_bind bind_error)

/-- A read that meets these bytes, and whatever follows, returns the value and
stops right behind them. -/
def Decodes (limits : CodecLimits) (read : Read Value) (bytes rest : Bytes) (value : Value) : Prop :=
  ∀ reader : PacketReader, reader.limits = limits → reader.unread = bytes ++ rest →
    ∃ after, read reader = (.ok value, after) ∧ after.limits = limits ∧ after.unread = rest

/-- Whenever the write is accepted, it appends bytes that decode to the value. -/
def RoundTrip (limits : CodecLimits) (write : Write Unit) (read : Read Value) (value : Value)
    (rest : Bytes) : Prop :=
  ∀ writer after : PacketWriter, writer.limits = limits → write writer = (.ok (), after) →
    ∃ bytes, after = writer.append bytes ∧ Decodes limits read bytes rest value

section

variable {limits : CodecLimits} {Value : Type} {write : Write Unit}

theorem Decodes.pure (value : Value) : Decodes limits (Pure.pure value : Read Value) [] rest value :=
  fun reader same here => ⟨reader, rfl, same, here⟩

theorem Decodes.bind
    (head : Decodes limits first early (late ++ rest) value)
    (tail : Decodes limits (next value) late rest result) : Decodes limits (first >>= next)
    (early ++ late) rest result := by
  intro reader same here
  obtain ⟨middle, read, sameMiddle, onward⟩ := head reader same (by rw [here, List.append_assoc])
  obtain ⟨after, readNext, sameAfter, done⟩ := tail middle sameMiddle onward
  exact ⟨after, (Action.bind_ok read).trans readNext, sameAfter, done⟩

theorem Decodes.andThen
    (head : Decodes limits first bytes rest value) (tail : Decodes limits (next value) [] rest result) :
    Decodes limits (first >>= next) bytes rest result := by
  have bound : Decodes limits (first >>= next) (bytes ++ []) rest result := .bind (by simpa using head) tail
  simpa using bound

theorem RoundTrip.pure (value : Value) :
    RoundTrip limits (Pure.pure () : Write Unit) (Pure.pure value : Read Value) value rest := by
  intro writer after same ran
  cases ran
  exact ⟨[], by simp, .pure value⟩

theorem RoundTrip.bind {read : Read Value} (head : ∀ rest, RoundTrip limits first read value rest)
    (tail : RoundTrip limits second (next value) result rest) :
    RoundTrip limits (first >>= fun _ => second) (read >>= next) result rest := by
  intro writer after same ran
  obtain ⟨_, middle, wrote, ran⟩ := bind_eq_ok_iff.mp ran
  obtain ⟨_, extended, _⟩ := head [] writer middle same wrote
  have sameMiddle : middle.limits = limits := by rw [extended]; exact same
  obtain ⟨late, final, decodesLate⟩ := tail middle after sameMiddle ran
  obtain ⟨early, appended, decodesEarly⟩ := head (late ++ rest) writer middle same wrote
  exact ⟨early ++ late, by rw [final, appended, PacketWriter.append_append], decodesEarly.bind decodesLate⟩

theorem RoundTrip.andThen {read : Read Value}
    (field : RoundTrip limits write read value rest) (tail : Decodes limits (next value) [] rest result) :
    RoundTrip limits write (read >>= next) result rest := by
  intro writer after same ran
  obtain ⟨bytes, appended, decodes⟩ := field writer after same ran
  exact ⟨bytes, appended, decodes.andThen tail⟩

/-- A check before a write only says what an accepted write has passed. -/
theorem RoundTrip.guard [Decidable condition] {failure : Failure}
    {read : Read Value} (passed : ¬ condition → RoundTrip limits write read value rest) :
    RoundTrip limits (if condition then Action.fail failure else write) read value rest := by
  intro writer after same ran
  by_cases holds : condition
  · rw [if_pos holds] at ran
    cases ran
  · rw [if_neg holds] at ran
    exact passed holds writer after same ran

theorem RoundTrip.check {read : Read Value}
    (checks : ∀ writer after, first writer = (.ok (), after) → after = writer ∧ passed)
    (body : passed → RoundTrip limits second read value rest) :
    RoundTrip limits (first >>= fun _ => second) read value rest := by
  intro writer after same ran
  obtain ⟨_, middle, checked, wrote⟩ := bind_eq_ok_iff.mp ran
  obtain ⟨rfl, holds⟩ := checks writer middle checked
  exact body holds middle after same wrote

theorem RoundTrip.ofRead {write : PacketWriter → Write Unit} {read : Read Value}
    (body : ∀ writer, writer.limits = limits → RoundTrip limits (write writer) read value rest) :
    RoundTrip limits (Action.read >>= write) read value rest :=
  fun writer after same ran => body writer same writer after same ran

/-- A reader that looks at its own limits. The bytes are those of the write, so they are the same for every
reader. -/
theorem RoundTrip.ofReader
    (body : ∀ reader, reader.limits = limits → RoundTrip limits write (next reader) value rest) :
    RoundTrip limits write (Action.read >>= next) value rest := by
  intro writer after same ran
  have appended : ∀ reader : PacketReader, reader.limits = limits →
    after = writer.append (after.buffer.drop writer.buffer.length) ∧
      Decodes limits (next reader) (after.buffer.drop writer.buffer.length) rest value := by
    intro reader readerLimits
    obtain ⟨bytes, rfl, decodes⟩ := body reader readerLimits writer after same ran
    simpa using decodes
  exact ⟨_, (appended (.fresh [] .client limits) rfl).1,
    fun reader readerLimits here => (appended reader readerLimits).2 reader readerLimits here⟩

theorem RoundTrip.forEach {write : Value → Write Unit} {read : Read Value}
    (each : ∀ item rest, RoundTrip limits (write item) read item rest) :
    RoundTrip limits (forEach items write) (Action.collect read items.length) items rest := by
  induction items with
  | nil => exact .pure []
  | cons item items ih => exact .bind (each item) (.andThen ih (.pure (item :: items)))

end

section

variable {limits : CodecLimits}

open PacketReader PacketWriter
open Scoring (uleb128)

theorem take_decodes (bytes rest : Bytes) : Decodes limits (take bytes.length) bytes rest bytes := by
  intro reader same here
  have inside : reader.position + bytes.length ≤ reader.view.length := by
    have length := congrArg List.length here
    have bounded := reader.bounded
    simp only [unread, List.length_drop, List.length_append] at length
    omega
  refine ⟨{ reader with position := reader.position + bytes.length, bounded := inside }, ?_, same, ?_⟩
  · simp [take, inside, here]
  · have advanced : reader.view.drop (reader.position + bytes.length) = reader.unread.drop bytes.length := by
      simp [unread, List.drop_drop]
    rw [unread, advanced, here, List.drop_left]

theorem packRecord_round_trip (layout : Layout) (values : List Int) (message : String) (rest : Bytes) :
    RoundTrip limits (packRecord layout values message) (unpackAll layout) values rest := by
  intro writer after same ran
  rcases packRecord_cases layout values message writer with ⟨bytes, packed, _, wrote⟩ | ⟨_, _, failed⟩
  · cases wrote.symm.trans ran
    refine ⟨bytes, rfl, ?_⟩
    have unpacked : layout.unpack bytes = some values := by simpa using Layout.unpack_pack packed []
    unfold unpackAll
    rw [← Layout.pack_length packed]
    exact (take_decodes bytes rest).andThen (by rw [unpacked]; exact .pure values)
  · cases failed.symm.trans ran

theorem pack_round_trip (field : Field) (value : Int) (rest : Bytes) :
    RoundTrip limits (pack field value) (unpack field) value rest :=
  (packRecord_round_trip [field] [value] _ rest).andThen (.pure value)

/-- A field, then the rest. -/
theorem RoundTrip.field {next : Int → Read Value} (tail : RoundTrip limits second (next value) result rest) :
    RoundTrip limits (pack kind value >>= fun _ => second) (unpack kind >>= next) result rest :=
  .bind (pack_round_trip _ _) tail

theorem writeF32_round_trip (value : UInt32) (rest : Bytes) :
    RoundTrip limits (writeF32 value) readF32 value rest := by
  refine (pack_round_trip (.unsigned 4) value.toNat rest).andThen ?_
  simpa using .pure value

theorem writeF64_round_trip (value : UInt64) (rest : Bytes) :
    RoundTrip limits (writeF64 value) readF64 value rest := by
  refine (pack_round_trip (.unsigned 8) value.toNat rest).andThen ?_
  simpa using .pure value

theorem writeBool_round_trip (value : Bool) (rest : Bytes) :
    RoundTrip limits (writeBool value) readBool value rest := by
  refine (pack_round_trip (.unsigned 1) value.toNat rest).andThen ?_
  cases value
  · exact .pure false
  · exact .pure true

theorem writeRaw_round_trip (value rest : Bytes) :
    RoundTrip limits (writeRaw value) (take value.length) value rest := by
  intro writer after same ran
  rcases writeRaw_cases value writer with ⟨_, wrote⟩ | ⟨_, _, failed⟩
  · cases wrote.symm.trans ran
    exact ⟨value, rfl, take_decodes value rest⟩
  · cases failed.symm.trans ran

theorem take_truncated {size : Nat} (short : reader.remaining < size) :
    ∃ failure, take (size : Int) reader = (.error failure, reader) := by
  have outside : ¬ reader.position + (size : Int).toNat ≤ reader.view.length := by
    simp only [remaining] at short
    omega
  unfold take
  rw [if_neg (by omega), dif_neg outside]
  exact ⟨_, rfl⟩

/-- A read that starts with a byte found one, so a check for the end before it passed. -/
theorem Decodes.ifUnread {next : Int → Read Value}
    (inner : Decodes limits (readU8 >>= next) bytes rest value) :
    Decodes limits (Action.read >>= fun reader => if reader.remaining = 0 then ended else readU8 >>= next)
      bytes rest value := by
  intro reader same here
  obtain ⟨after, read, facts⟩ := inner reader same here
  refine ⟨after, ?_, facts⟩
  rw [read_bind, if_neg ?_]
  · exact read
  intro empty
  obtain ⟨failure, failed⟩ : ∃ failure, take (1 : Nat) reader = (.error failure, reader) :=
    take_truncated (by omega)
  have unread : readU8 reader = (.error failure, reader) := bind_error (bind_error failed)
  cases (bind_error unread).symm.trans read

private theorem byte_continues : ∀ byte : Fin 256, (byte.val &&& 0x80 = 0) ↔ byte.val < 128 := by
  decide +kernel

private theorem low_bits (value : Nat) : value &&& 0x7F = value % 128 := and_two_pow_sub_one_eq_mod value 7

private theorem continuation (digit : Nat) (small : digit < 128) : digit ||| 0x80 = digit + 128 := by
  rw [Nat.or_comm, Nat.add_comm]
  exact (two_pow_add_eq_or_of_lt (i := 7) small 1).symm

/-- A digit joins the digits read before it. -/
private theorem digit_place (below : low < 128 ^ index) (digit : Nat) :
    low ||| digit <<< (index * 7) = low + digit * 128 ^ index := by
  have power : 128 ^ index = 2 ^ (index * 7) := by rw [Nat.mul_comm, Nat.pow_mul]
  rw [power] at below ⊢
  rw [Nat.shiftLeft_eq, Nat.or_comm, Nat.mul_comm, ← Nat.two_pow_add_eq_or_of_lt below, Nat.add_comm]

private theorem digits_below (below : low < 128 ^ index) (small : digit < 128) :
    low + digit * 128 ^ index < 128 ^ (index + 1) :=
  calc low + digit * 128 ^ index < 128 ^ index + 127 * 128 ^ index :=
        add_lt_add_of_lt_of_le below (mul_le_mul_right _ (by omega))
    _ = 128 ^ (index + 1) := by rw [pow_succ]; omega

private theorem digits_split (low digit more index : Nat) :
    low + (digit + 128 * more) * 128 ^ index = low + digit * 128 ^ index + more * 128 ^ (index + 1) := by
  ring

theorem writeUleb128Loop_last (last : value < 128) (fuel : Nat) :
    writeUleb128Loop (fuel + 1) value = (writeU8 value >>= fun _ => pure ()) := by
  have shift : value >>> 7 = 0 := (shiftRight_eq_div_pow value 7).trans (div_eq_of_lt last)
  simp [writeUleb128Loop, shift, low_bits, mod_eq_of_lt last]

theorem writeUleb128Loop_more (more : ¬ value < 128) (fuel : Nat) : writeUleb128Loop (fuel + 1) value =
    (writeU8 (value % 128 + 128 : Nat) >>= fun _ => writeUleb128Loop fuel (value / 128)) := by
  have shift : value >>> 7 = value / 128 := shiftRight_eq_div_pow value 7
  have left : value / 128 ≠ 0 := by omega
  have marked := continuation (value % 128) (mod_lt _ (by omega))
  simp only [writeUleb128Loop, shift, low_bits, if_pos left, if_neg left, marked]

theorem writeU8_eq_ok {writer : PacketWriter} (small : byte < 256) :
    writeU8 (byte : Nat) writer = (.ok (), after) ↔ writer.RoomFor 1 ∧
    after = writer.append [UInt8.ofNat byte] := by
  have whole : ((byte : Int) % 256).toNat = byte := by omega
  have packed : Layout.pack [.unsigned 1] [(byte : Int)] = some [UInt8.ofNat byte] := by
    simp [Layout.pack, Field.Fits, Field.encode, Field.size, LittleEndian.encode, small, whole]
  exact pack_eq_ok packed

/-- The bytes of a number go out one by one: all of them, or not all fit. -/
theorem writeUleb128Loop_eq_ok (enough : value < fuel) :
    writeUleb128Loop fuel value writer = (.ok (), after) ↔
    writer.RoomFor (uleb128 value).length ∧ after = writer.append (uleb128 value) := by
  induction fuel generalizing value writer with
  | zero => omega
  | succ fuel ih =>
    rw [uleb128]
    by_cases last : value < 128
    · rw [writeUleb128Loop_last last, if_pos last, bind_eq_ok_iff]
      simp [writeU8_eq_ok (show value < 256 by omega), Action.pure_apply, and_assoc, eq_comm]
    rw [writeUleb128Loop_more last, if_neg last, bind_eq_ok_iff]
    simp only [writeU8_eq_ok (show value % 128 + 128 < 256 by omega), ih (show value / 128 < fuel by omega)]
    constructor
    · rintro ⟨_, _, ⟨_, rfl⟩, room, rfl⟩
      refine ⟨?_, PacketWriter.append_append ..⟩
      simpa [RoomFor, add_assoc, add_comm 1] using room
    · rintro ⟨room, rfl⟩
      refine ⟨(), _, ⟨RoomFor.fewer room (by simp), rfl⟩, ?_, by simp⟩
      simpa [RoomFor, add_assoc, add_comm 1] using room

theorem readU8_decodes (byte : UInt8) (rest : Bytes) : Decodes limits readU8 [byte] rest byte.toNat := by
  have unpacked : Layout.unpack [.unsigned 1] [byte] = some [(byte.toNat : Int)] := by
    simp [Layout.unpack, Field.size, Field.decode, LittleEndian.decode]
  have record : Decodes limits (unpackAll [.unsigned 1]) [byte] rest [(byte.toNat : Int)] :=
    (take_decodes [byte] rest).andThen (by rw [unpacked]; exact .pure _)
  exact record.andThen (.pure _)

/-- The digits of a number are read on top of the digits before them. -/
theorem readUleb128Loop_decodes (rest : Bytes) (bound : value < 128 ^ left) (positive : 0 < left)
    (small : value * 128 ^ index < 2 ^ 32) (below : low < 128 ^ index) (canonical : 0 < index → 0 < value) :
    Decodes limits (readUleb128Loop index low left) (uleb128 value) rest (low + value * 128 ^ index) := by
  induction value using Scoring.uleb128.induct generalizing index low left with
  | case1 value last =>
    obtain ⟨left, rfl⟩ : ∃ fewer, left = fewer + 1 := ⟨left - 1, by omega⟩
    have fits : ¬ (index = 4 ∧ value > 0x0F) := by
      rintro ⟨rfl, large⟩
      omega
    rw [uleb128, if_pos last]
    refine .ifUnread (.andThen (readU8_decodes _ _) ?_)
    have ends : value &&& 0x80 = 0 := (byte_continues ⟨value, by omega⟩).mpr last
    have byte : (UInt8.ofNat value).toNat = value := by simp; omega
    have nonzero : ¬ (index > 0 ∧ value = 0) := by omega
    simp only [Int.toNat_natCast, byte, low_bits, mod_eq_of_lt last, if_neg fits, if_pos ends,
      if_neg nonzero, digit_place below]
    exact .pure _
  | case2 value more ih =>
    obtain ⟨left, rfl⟩ : ∃ fewer, left = fewer + 1 := ⟨left - 1, by omega⟩
    have fits : ¬ (index = 4 ∧ value % 128 > 0x0F) := by
      rintro ⟨rfl, large⟩
      omega
    rw [uleb128, if_neg more, ← List.singleton_append]
    refine .ifUnread (.bind (readU8_decodes _ _) ?_)
    have goesOn : ¬ (value % 128 + 128) &&& 0x80 = 0 := fun stops =>
      absurd ((byte_continues ⟨value % 128 + 128, by omega⟩).mp stops) (by simp)
    have byte : (UInt8.ofNat (value % 128 + 128)).toNat = value % 128 + 128 := by simp; omega
    have digit : (value % 128 + 128) % 128 = value % 128 := by omega
    simp only [Int.toNat_natCast, byte, low_bits, digit, if_neg fits, if_neg goesOn, digit_place below]
    have result := digits_split low (value % 128) (value / 128) index
    rw [mod_add_div] at result
    rw [result]
    refine ih ?_ ?_ ?_ (digits_below below (mod_lt _ (by omega))) (by omega)
    · exact Nat.div_lt_of_lt_mul (by rwa [Nat.mul_comm, ← Nat.pow_succ])
    · refine pos_of_ne_zero fun none => more ?_
      simpa [none] using bound
    · calc value / 128 * 128 ^ (index + 1) = value / 128 * 128 * 128 ^ index := by
            rw [pow_succ, mul_comm (128 ^ index), mul_assoc]
        _ ≤ value * 128 ^ index := mul_le_mul_right _ (div_mul_le_self value 128)
        _ < 2 ^ 32 := small

theorem of_readU8 (ran : readU8 reader = (.ok value, after)) :
    ∃ byte : UInt8, value = byte.toNat ∧ reader.unread = byte :: after.unread := by
  cases unread : reader.unread with
  | nil =>
    obtain ⟨failure, failed⟩ : ∃ failure, take (1 : Nat) reader = (.error failure, reader) :=
      take_truncated (by have := congrArg List.length unread; simp [PacketReader.unread, remaining] at this ⊢; omega)
    have refused : readU8 reader = (.error failure, reader) := bind_error (bind_error failed)
    cases refused.symm.trans ran
  | cons byte rest =>
    obtain ⟨_, read, _, rfl⟩ := readU8_decodes byte rest reader rfl unread
    cases read.symm.trans ran
    exact ⟨byte, rfl, rfl⟩

private theorem digits_range (within : index < 4) (digit : low < 128)
    (small : more * 128 ^ (index + 1) < 2 ^ 32) : (low + 128 * more) * 128 ^ index < 2 ^ 32 := by
  have power : 2 ^ 32 = 2 ^ (25 - 7 * index) * 128 ^ (index + 1) := by interval_cases index <;> rfl
  rw [power] at small ⊢
  have fewer := Nat.lt_of_mul_lt_mul_right small
  calc (low + 128 * more) * 128 ^ index < 128 * (more + 1) * 128 ^ index :=
        Nat.mul_lt_mul_of_pos_right (by omega) (Nat.pow_pos (by omega))
    _ = (more + 1) * 128 ^ (index + 1) := by ring
    _ ≤ 2 ^ (25 - 7 * index) * 128 ^ (index + 1) := Nat.mul_le_mul_right _ fewer

/-- What was read from some index on are the digits of one number, in its only encoding. -/
theorem of_readUleb128Loop (ran : readUleb128Loop index low left reader = (.ok result, after))
    (below : low < 128 ^ index) (within : index + left ≤ 5) :
    ∃ value, result = low + value * 128 ^ index ∧ value < 128 ^ left ∧ value * 128 ^ index <
      2 ^ 32 ∧ (0 < index → 0 < value) ∧ reader.unread = uleb128 value ++ after.unread := by
  induction left generalizing index low reader with
  | zero => cases ran
  | succ left ih =>
    rw [readUleb128Loop, read_bind] at ran
    split at ran
    · cases ran
    obtain ⟨_, middle, read, ran⟩ := bind_eq_ok_iff.mp ran
    obtain ⟨byte, rfl, unread⟩ := of_readU8 read
    have digit : byte.toNat % 128 < 128 := mod_lt _ (by omega)
    simp only [Int.toNat_natCast, low_bits, digit_place below] at ran
    split at ran
    · cases ran
    rename_i fits
    split at ran
    · rename_i ends
      split at ran
      · cases ran
      rename_i nonzero
      cases ran
      have last : byte.toNat < 128 := (byte_continues ⟨_, byte.toNat_lt⟩).mp ends
      rw [mod_eq_of_lt last] at fits nonzero ⊢
      refine ⟨byte.toNat, rfl, ?_, ?_, by omega, ?_⟩
      · exact last.trans_le (le_self_pow (by omega) 128)
      · have within : index < 5 := by omega
        interval_cases index <;> omega
      · rw [uleb128, if_pos last, unread]
        simp
    · rename_i more
      have marked : ¬ byte.toNat < 128 := fun last => more ((byte_continues ⟨_, byte.toNat_lt⟩).mpr last)
      obtain ⟨value, rfl, bound, small, positive, rest⟩ := ih ran (digits_below below digit) (by omega)
      refine ⟨byte.toNat % 128 + 128 * value, (digits_split ..).symm, ?_, ?_, by omega, ?_⟩
      · rw [pow_succ]
        omega
      · have inner : left ≠ 0 := fun none => by simp [none] at bound; omega
        exact digits_range (by omega) digit small
      · have first : (byte.toNat % 128 + 128 * value) % 128 + 128 = byte.toNat := by
          have := byte.toNat_lt
          omega
        have others : (byte.toNat % 128 + 128 * value) / 128 = value := by omega
        rw [uleb128, if_neg (by omega), first, others, unread, rest, UInt8.ofNat_toNat, List.cons_append]

theorem byteCount_le (positive : 0 < bytes) (value : Nat) :
    max 1 ((bitLength value + 6) / 7) ≤ bytes ↔ value < 128 ^ bytes := by
  have power : 128 ^ bytes = 2 ^ (7 * bytes) := (pow_mul 2 7 bytes).symm
  unfold bitLength
  split
  · rename_i zero
    simp [zero, succ_le_iff, positive]
  · rename_i nonzero
    rw [power, ← log2_lt nonzero]
    omega

/-- The numbers of 32 bits that the bytes allowed for a number can hold. -/
def Supported (limits : CodecLimits) (number : Nat) :
    Prop := number ≤ 0xFFFFFFFF ∧ number < 128 ^ limits.maxUleb128Bytes

theorem writeUleb128_eq_ok {number : Nat} : writeUleb128 number writer = (.ok (), after) ↔
    Supported writer.limits number ∧ writer.RoomFor (uleb128 number).length ∧
    after = writer.append (uleb128 number) := by
  unfold writeUleb128 Supported
  rw [← byteCount_le writer.limits.uleb128_range.1]
  by_cases range : number ≤ 0xFFFFFFFF
  · rw [if_neg (by omega), read_bind, Int.toNat_natCast]
    split
    · rename_i long
      exact ⟨fun ran => (by cases ran), fun supported => absurd supported.1.2 (not_le.mpr long)⟩
    · rename_i short
      rw [writeUleb128Loop_eq_ok (lt_succ_self number)]
      exact (and_iff_right ⟨range, not_lt.mp short⟩).symm
  · rw [if_pos (by omega)]
    exact ⟨fun ran => (by cases ran), fun supported => absurd supported.1.1 range⟩

theorem readUleb128_decodes (supported : Supported limits number) (rest : Bytes) :
    Decodes limits readUleb128 (uleb128 number) rest number := by
  intro reader same here
  have loop := readUleb128Loop_decodes rest supported.2 limits.uleb128_range.1
    (show number * 128 ^ 0 < 2 ^ 32 by have := supported.1; omega) (show 0 < 128 ^ 0 by omega)
    (by omega) reader same here
  rw [readUleb128, read_bind, same]
  simpa using loop

theorem of_readUleb128 (ran : readUleb128 reader = (.ok number, after)) :
    Supported reader.limits number ∧ reader.unread = uleb128 number ++ after.unread := by
  obtain ⟨value, rfl, bound, small, _, unread⟩ := of_readUleb128Loop ran (by omega)
    (by have := reader.limits.uleb128_range; omega)
  simp only [pow_zero, mul_one, zero_add] at small ⊢
  exact ⟨⟨le_of_lt_succ small, bound⟩, unread⟩

/-- A number has one encoding: the writer writes it where there is room, and the
reader accepts it, and nothing else, for this number. -/
theorem uleb128_canonical (limits : CodecLimits) (number : Nat) :
    (∀ writer after : PacketWriter, writer.limits = limits → (writeUleb128 number writer = (.ok (), after) ↔
      Supported limits number ∧ writer.RoomFor (uleb128 number).length ∧
    after = writer.append (uleb128 number))) ∧
    (∀ reader after : PacketReader, reader.limits = limits → readUleb128 reader = (.ok number, after) →
      Supported limits number ∧ reader.unread = uleb128 number ++ after.unread) ∧
    ∀ bytes, (∀ rest, Decodes limits readUleb128 bytes rest number) ↔ Supported limits number ∧
    bytes = uleb128 number := by
  refine ⟨?_, ?_, fun bytes => ⟨fun decodes => ?_, ?_⟩⟩
  · rintro writer after rfl
    exact writeUleb128_eq_ok
  · rintro reader after rfl
    exact of_readUleb128
  · obtain ⟨after, ran, _, done⟩ := decodes [] (.fresh bytes .client limits) rfl (List.append_nil _).symm
    obtain ⟨supported, unread⟩ := of_readUleb128 ran
    rw [done, List.append_nil] at unread
    exact ⟨supported, unread⟩
  · rintro ⟨supported, rfl⟩
    exact readUleb128_decodes supported

theorem writeUleb128_round_trip (value : Nat) (rest : Bytes) :
    RoundTrip limits (writeUleb128 value) readUleb128 value rest := by
  rintro writer after rfl ran
  obtain ⟨supported, _, rfl⟩ := writeUleb128_eq_ok.mp ran
  exact ⟨_, rfl, readUleb128_decodes supported rest⟩

theorem decodeUtf8_encodeUtf8 (text : String) : decodeUtf8 (encodeUtf8 text) = some text := by
  exact dif_pos text.isValidUTF8

theorem writeString_round_trip (text : String) (rest : Bytes) :
    RoundTrip limits (writeString text) readString text rest := by
  unfold writeString
  split
  · rename_i empty
    subst empty
    exact (pack_round_trip (.unsigned 1) 0 rest).andThen (.pure "")
  · refine .ofRead fun writer same => .guard fun fits => ?_
    refine .bind (pack_round_trip (.unsigned 1) 0x0B) (.bind (writeUleb128_round_trip _)
      (.ofReader fun reader readerLimits => ?_))
    rw [same] at fits
    rw [readerLimits, if_neg fits]
    exact (writeRaw_round_trip _ rest).andThen (by rw [decodeUtf8_encodeUtf8]; exact .pure text)

theorem RoundTrip.text {text : String} {next : String → Read Value}
    (tail : RoundTrip limits second (next text) result rest) :
    RoundTrip limits (writeString text >>= fun _ => second) (readString >>= next) result rest :=
  .bind (writeString_round_trip _) tail

end

section

variable {limits : CodecLimits}

open PacketReader PacketWriter

theorem writeMessage_round_trip (message : Message) (rest : Bytes) :
    RoundTrip limits (writeMessage message) readMessage message rest :=
  .text (.text (.text ((pack_round_trip _ _ rest).andThen (.pure message))))

theorem writeChannel_round_trip (channel : Channel) (rest : Bytes) :
    RoundTrip limits (writeChannel channel) readChannel channel rest :=
  .text (.text ((pack_round_trip _ _ rest).andThen (.pure channel)))

theorem writeClientStatus_round_trip (status : ClientStatus) (rest : Bytes) :
    RoundTrip limits (writeClientStatus status) readClientStatus status rest := by
  refine .field (.text (.text (.field (.field ((pack_round_trip _ _ rest).andThen ?_)))))
  rw [newClientStatus, dif_pos status.action_range, dif_pos status.mode_range]
  exact .pure status

theorem writeUserStats_round_trip (stats : UserStats) (rest : Bytes) :
    RoundTrip limits (writeUserStats stats) readUserStats stats rest :=
  .field (.field (.text (.text (.field (.field (.field (.field (.bind (writeF32_round_trip _)
    (.field (.field (.field ((pack_round_trip _ _ rest).andThen (.pure stats)))))))))))))

private theorem packed_byte (low high : Nat) (fits : low < 32) :
    (low ||| high <<< 5) &&& 0x1F = low ∧ (low ||| high <<< 5) >>> 5 = high := by
  have packed : low ||| high <<< 5 = 2 ^ 5 * high + low := by
    rw [Nat.shiftLeft_eq, Nat.or_comm, Nat.mul_comm, Nat.two_pow_add_eq_or_of_lt fits]
  refine ⟨(and_two_pow_sub_one_eq_mod _ 5).trans ?_, ?_⟩
  · omega
  · omega

theorem writeUserPresence_round_trip (presence : UserPresence) (rest : Bytes) :
    RoundTrip limits (writeUserPresence presence) readUserPresence presence rest := by
  refine .guard fun mode => .guard fun privileges => ?_
  obtain ⟨low, high⟩ := packed_byte presence.privileges.toNat presence.mode.toNat (by omega)
  refine .field (.text (.field (.field (.field (.bind (writeF32_round_trip _) (.bind (writeF32_round_trip _)
    ((pack_round_trip _ _ rest).andThen ?_)))))))
  have offset : presence.utcOffset + 24 - 24 = presence.utcOffset := by omega
  have privileges : (presence.privileges.toNat : Int) = presence.privileges := by omega
  have mode : (presence.mode.toNat : Int) = presence.mode := by omega
  simp only [Int.toNat_natCast, low, high, offset, privileges, mode]
  exact .pure presence

/-- A hidden password is read as an empty one. -/
theorem writePassword_round_trip (password : String) (sendPassword : Bool) (rest : Bytes) :
    RoundTrip limits (writePassword password sendPassword) readString
    (if sendPassword then password else "") rest := by
  unfold writePassword
  split
  · next hidden =>
    obtain rfl : sendPassword = false := by simpa using hidden.2
    have empty : Decodes limits (take (0 : Nat)) [] rest [] := take_decodes [] rest
    have none : Supported limits 0 := ⟨by omega, by simp⟩
    have length : Decodes limits readUleb128 [0] rest 0 := by
      simpa [Scoring.uleb128] using readUleb128_decodes none rest
    intro writer after same ran
    rcases writeRaw_cases [0x0B, 0x00] writer with ⟨_, wrote⟩ | ⟨_, _, failed⟩
    · cases wrote.symm.trans ran
      refine ⟨_, rfl, .bind (readU8_decodes 0x0B _) (.andThen length fun reader same here => ?_)⟩
      exact empty.andThen (.pure "") reader same here
    · cases failed.symm.trans ran
  · next shown =>
    have same : (if sendPassword then password else "") = password := by
      cases sendPassword <;> simp_all
    rw [same]
    exact writeString_round_trip password rest

theorem requireSlots_checks (ran : requireSlots name length writer = (.ok (), after)) :
    after = writer ∧ length = matchSlotCount := by
  unfold requireSlots at ran
  split at ran
  · cases ran
  · rename_i same
    cases ran
    exact ⟨rfl, by simpa using same⟩

theorem requireSlotMods_checks (ran : requireSlotMods value writer = (.ok (), after)) :
    after = writer ∧ if value.freemods then value.slotMods.length = matchSlotCount else
    value.slotMods = [] := by
  unfold requireSlotMods at ran
  by_cases free : value.freemods = true
  · rw [if_pos free] at ran ⊢
    exact requireSlots_checks ran
  rw [if_neg free] at ran ⊢
  split at ran
  · cases ran
  · rename_i empty
    cases ran
    exact ⟨rfl, by simpa using empty⟩

theorem requireOccupancy_checks (ran : requireOccupancy value writer = (.ok (), after)) :
    after = writer ∧ ∀ slot ∈ value.slotStatuses.zip value.slotUserIds,
    statusOccupied slot.1 = slot.2.isSome := by
  unfold requireOccupancy at ran
  split at ran
  · cases ran
  · rename_i agree
    cases ran
    refine ⟨rfl, fun slot member => ?_⟩
    by_contra different
    exact agree (List.any_eq_true.mpr ⟨slot, member, by simpa using different⟩)

theorem writeSlotUser_round_trip (occupied : statusOccupied status = userId.isSome) (rest : Bytes) :
    RoundTrip limits (writeSlotUser userId) (readSlotUser status) userId rest := by
  cases userId with
  | none =>
    rw [readSlotUser, if_neg (by simp [occupied])]
    exact .pure none
  | some userId =>
    rw [readSlotUser, if_pos (by simp [occupied])]
    exact (pack_round_trip _ _ rest).andThen (.pure (some userId))

/-- Slot users are on the wire only for occupied slots, so the statuses read before tell where they are. -/
theorem writeSlotUsers_round_trip (same : statuses.length = userIds.length)
    (occupied : ∀ slot ∈ statuses.zip userIds, statusOccupied slot.1 = slot.2.isSome) (rest : Bytes) :
    RoundTrip limits (forEach userIds writeSlotUser)
    (Action.collectOver statuses readSlotUser) userIds rest := by
  induction userIds generalizing statuses with
  | nil =>
    rw [List.length_eq_zero_iff.mp same]
    exact .pure []
  | cons userId userIds ih =>
    match statuses, same with
    | status :: statuses, same =>
      have here := occupied (status, userId) (by simp)
      have tail := ih (succ.inj same) fun slot member => occupied slot (by simp [member])
      exact .bind (writeSlotUser_round_trip here) (.andThen tail (.pure (userId :: userIds)))

theorem writeSlotMods_round_trip
    (slots : if freemods = true then slotMods.length = matchSlotCount else slotMods = []) (rest : Bytes) :
    RoundTrip limits (forEach slotMods writeI32) (readSlotMods freemods) slotMods rest := by
  cases freemods with
  | false =>
    have empty : slotMods = [] := by simpa using slots
    subst empty
    exact .pure []
  | true =>
    have length : matchSlotCount = slotMods.length := by simpa using slots.symm
    simp only [readSlotMods, if_true, length]
    exact .forEach (pack_round_trip (.signed 4))

theorem writeMultiplayerMatch_round_trip (value : MultiplayerMatch) (sendPassword : Bool) (rest : Bytes) :
    RoundTrip limits (writeMultiplayerMatch value sendPassword) readMultiplayerMatch
      { value with password := if sendPassword then value.password else "" } rest := by
  refine .check (fun _ _ => requireSlots_checks) fun statuses =>
    .check (fun _ _ => requireSlots_checks) fun teams => ?_
  refine .check (fun _ _ => requireSlots_checks) fun users =>
    .check (fun _ _ => requireSlotMods_checks) fun mods => ?_
  refine .check (fun _ _ => requireOccupancy_checks) fun occupied => ?_
  refine .field (.bind (writeBool_round_trip _)
    (.field (.field (.text (.bind (writePassword_round_trip _ _) ?_)))))
  refine .text (.field (.text ?_))
  rw [← statuses]
  refine .bind (fun _ => .forEach (pack_round_trip _)) ?_
  rw [statuses, ← teams]
  refine .bind (fun _ => .forEach (pack_round_trip _)) ?_
  refine .bind (writeSlotUsers_round_trip (statuses.trans users.symm) occupied) ?_
  refine .field (.field (.field
    (.field (.bind (writeBool_round_trip _) (.bind (writeSlotMods_round_trip mods) ?_)))))
  exact (pack_round_trip _ _ rest).andThen (.pure _)

theorem writePortion_round_trip (portion : UInt64) (rest : Bytes) :
    RoundTrip limits (writePortion (some portion)) (readPortion true) (some portion) rest :=
  (writeF64_round_trip portion rest).andThen (.pure (some portion))

theorem writeScoreFrame_round_trip (frame : ScoreFrame) (rest : Bytes) :
    RoundTrip limits (writeScoreFrame frame) readScoreFrame frame rest := by
  refine .guard fun missing => .guard fun extra => .bind (packRecord_round_trip _ _ _) ?_
  obtain ⟨time, frameId, count300, count100, count50, countGeki, countKatu, countMiss, totalScore, maxCombo,
    currentCombo, perfect, currentHp, tagByte, scoreV2, comboPortion, bonusPortion⟩ := frame
  have flag (value : Bool) : ¬ ((value.toNat : Int) ≠ 0 ∧ (value.toNat : Int) ≠ 1) := by cases value <;> simp
  have restored (value : Bool) : decide ((value.toNat : Int) ≠ 0) = value := by cases value <;> rfl
  simp only [scoreFrameValues, if_neg (flag _), restored]
  cases scoreV2 with
  | false =>
    obtain ⟨rfl, rfl⟩ : comboPortion = none ∧ bonusPortion = none := by simpa using extra
    exact .pure _
  | true =>
    match comboPortion, bonusPortion with
    | none, _ | some _, none => simp at missing
    | some combo, some bonus =>
      exact .bind (writePortion_round_trip combo) ((writePortion_round_trip bonus rest).andThen (.pure _))

theorem writeReplayFrame_round_trip (frame : ReplayFrame) (rest : Bytes) :
    RoundTrip limits (writeReplayFrame frame) readReplayFrame frame rest := by
  refine (packRecord_round_trip _ _ _ rest).andThen ?_
  simpa using .pure frame

theorem replayAction_ofValue (action : ReplayAction) : ReplayAction.ofValue? action.value = some action := by
  cases action <;> rfl

theorem requireExhausted_decodes : Decodes limits requireExhausted [] [] () := by
  intro reader same here
  have exhausted : reader.remaining = 0 := by simpa [unread, remaining] using congrArg List.length here
  exact ⟨reader, by simp [requireExhausted, exhausted], same, here⟩

/-- The reader of a bundle demands that nothing follows it. -/
theorem writeReplayFrameBundle_round_trip (bundle : ReplayFrameBundle) :
    RoundTrip limits (writeReplayFrameBundle bundle) readReplayFrameBundle bundle [] := by
  refine .ofRead fun writer same => .guard fun count => .guard fun _ => ?_
  refine .field (.field (.ofReader fun reader readerLimits => ?_))
  rw [same] at count
  rw [readerLimits, if_neg (by omega), Int.toNat_natCast]
  refine .bind (fun _ => .forEach writeReplayFrame_round_trip) (.field ?_)
  simp only [replayAction_ofValue]
  refine .bind (writeScoreFrame_round_trip _) ((pack_round_trip _ _ []).andThen ?_)
  exact requireExhausted_decodes.andThen (.pure bundle)

end

/-- A write that is accepted, by a writer in any state inside its bounds, appends
bytes of which a reader with the same limits restores the value and leaves nothing. -/
def Restored (limits : CodecLimits) (write : Write Unit) (read : Read Value) (value : Value) : Prop :=
  ∀ writer after : PacketWriter, writer.limits = limits → writer.Wellformed → write writer = (.ok (), after) →
    ∃ bytes, after = writer.append bytes ∧ ∀ packetEnum, ∃ reader final,
      PacketReader.init bytes packetEnum limits = .ok reader ∧ read reader = (.ok value, final) ∧
      final.remaining = 0

theorem RoundTrip.restored {read : Read Value}
    (trip : RoundTrip limits write read value []) (appends : PacketWriter.Appends write) :
    Restored limits write read value := by
  intro writer after same valid ran
  obtain ⟨bytes, appended, decodes⟩ := trip writer after same ran
  refine ⟨bytes, appended, fun packetEnum => ?_⟩
  obtain ⟨final, read, _, unread⟩ :=
    decodes (.fresh bytes packetEnum limits) rfl (by simp [PacketReader.unread, PacketReader.fresh])
  have body := (appends writer valid).1.body
  rw [ran, appended] at body
  simp only [PacketWriter.append_buffer, PacketWriter.append_limits, same, List.length_append] at body
  refine ⟨_, final, PacketReader.init_body (by omega), read, ?_⟩
  simpa [PacketReader.unread, PacketReader.remaining, Nat.sub_eq_zero_iff_le] using unread

open PacketReader PacketWriter
/-- Every structure with a writer and a reader is restored, whichever of its
optional parts are on the wire, a match without its password if that is hidden. -/
theorem structures_restored (limits : CodecLimits) :
    (∀ message, Restored limits (writeMessage message) readMessage message) ∧
    (∀ channel, Restored limits (writeChannel channel) readChannel channel) ∧
    (∀ status, Restored limits (writeClientStatus status) readClientStatus status) ∧
    (∀ presence, Restored limits (writeUserPresence presence) readUserPresence presence) ∧
    (∀ stats, Restored limits (writeUserStats stats) readUserStats stats) ∧
    (∀ value, Restored limits (writeMultiplayerMatch value) readMultiplayerMatch value) ∧
    (∀ value, Restored limits (writeMultiplayerMatch value false) readMultiplayerMatch
      { value with password := "" }) ∧
    (∀ frame, Restored limits (writeScoreFrame frame) readScoreFrame frame) ∧
    (∀ frame, Restored limits (writeReplayFrame frame) readReplayFrame frame) ∧
    ∀ bundle, Restored limits (writeReplayFrameBundle bundle) readReplayFrameBundle bundle := by
  refine ⟨fun message => ?_, fun channel => ?_, fun status => ?_, fun presence => ?_, fun stats =>
    ?_, fun value => ?_, fun value => ?_, fun frame => ?_, fun frame => ?_, fun bundle => ?_⟩
  · exact (writeMessage_round_trip message []).restored (writeMessage_appends message)
  · exact (writeChannel_round_trip channel []).restored (writeChannel_appends channel)
  · exact (writeClientStatus_round_trip status []).restored (writeClientStatus_appends status)
  · exact (writeUserPresence_round_trip presence []).restored (writeUserPresence_appends presence)
  · exact (writeUserStats_round_trip stats []).restored (writeUserStats_appends stats)
  · exact (writeMultiplayerMatch_round_trip value true []).restored (writeMultiplayerMatch_appends value true)
  · exact (writeMultiplayerMatch_round_trip value false []).restored
      (writeMultiplayerMatch_appends value false)
  · exact (writeScoreFrame_round_trip frame []).restored (writeScoreFrame_appends frame)
  · exact (writeReplayFrame_round_trip frame []).restored (packRecord_appends _ _ _)
  · exact (writeReplayFrameBundle_round_trip bundle).restored (writeReplayFrameBundle_appends bundle)

/-- A match with one occupied slot and free mods. -/
def sampleMatch : MultiplayerMatch :=
  { name := "room", slotStatuses := 8 :: List.replicate 15 1, slotUserIds := some 7 :: List.replicate 15 none,
    freemods := true, slotMods := List.replicate 16 64 }

private theorem sampleMatch_accepted :
    (PacketWriter.writeMultiplayerMatch sampleMatch true (.init defaultLimits)).1.toOption = some () := by
  decide +kernel

theorem structures_restored_sampleMatch : ∃ after bytes reader final,
    PacketWriter.writeMultiplayerMatch sampleMatch true (.init defaultLimits) = (.ok (), after) ∧
    after = PacketWriter.append (.init defaultLimits) bytes ∧
    PacketReader.init bytes .server defaultLimits = .ok reader ∧
    PacketReader.readMultiplayerMatch reader = (.ok sampleMatch, final) ∧ final.remaining = 0 := by
  have accepted := sampleMatch_accepted
  cases ran : PacketWriter.writeMultiplayerMatch sampleMatch true (.init defaultLimits) with
  | mk outcome after =>
    rw [ran] at accepted
    cases outcome with
    | error failure => cases accepted
    | ok _ =>
      obtain ⟨bytes, appended, restored⟩ := (structures_restored defaultLimits).2.2.2.2.2.1
        sampleMatch (.init defaultLimits) after rfl (.init defaultLimits) ran
      obtain ⟨reader, final, created, read, done⟩ := restored .server
      exact ⟨after, bytes, reader, final, rfl, appended, created, read, done⟩

end Perfcho.Stable
