import Mathlib.Tactic.Positivity

/-! Little-endian binary records with fixed field widths. A float field is
its bit pattern, so it is packed as an unsigned number of the same width. -/

namespace Perfcho.Foundation

abbrev Bytes := List UInt8

namespace LittleEndian

/-- The lowest `width` bytes of a number, least significant first. -/
def encode : Nat → Nat → Bytes
  | 0, _ => []
  | width + 1, number => UInt8.ofNat number :: encode width (number / 256)

def decode : Bytes → Nat
  | [] => 0
  | byte :: rest => byte.toNat + 256 * decode rest

@[simp] theorem encode_length (width number : Nat) : (encode width number).length = width := by
  induction width generalizing number with
  | zero => rfl
  | succ width ih => simp [encode, ih]

theorem decode_encode (width number : Nat) : decode (encode width number) = number % 256 ^ width := by
  induction width generalizing number with
  | zero => simp [encode, decode, Nat.mod_one]
  | succ width ih =>
    have low : (UInt8.ofNat number).toNat = number % 256 := by simp
    rw [encode, decode, ih, low, pow_succ, Nat.mul_comm (256 ^ width), Nat.mod_mul]

end LittleEndian

/-- One field of a record: a pad byte, or a signed or unsigned number. -/
inductive Field where
  | pad
  | signed (width : Nat)
  | unsigned (width : Nat)
  deriving DecidableEq

namespace Field

def size : Field → Nat
  | pad => 1
  | signed width => width
  | unsigned width => width

/-- The numbers a field can hold. -/
def Fits : Field → Int → Prop
  | pad, _ => False
  | signed width, value => -(256 ^ width / 2) ≤ value ∧ value < 256 ^ width / 2
  | unsigned width, value => 0 ≤ value ∧ value < 256 ^ width

instance (field : Field) (value : Int) : Decidable (field.Fits value) :=
  match field with
  | pad => inferInstanceAs (Decidable False)
  | signed width => inferInstanceAs (Decidable (-(256 ^ width / 2) ≤ value ∧ value < 256 ^ width / 2))
  | unsigned width => inferInstanceAs (Decidable (0 ≤ value ∧ value < 256 ^ width))

def encode (field : Field) (value : Int) : Bytes :=
  LittleEndian.encode field.size (value % 256 ^ field.size).toNat

def decode : Field → Bytes → Int
  | pad, _ => 0
  | signed width, bytes => Int.bmod (LittleEndian.decode bytes) (256 ^ width)
  | unsigned _, bytes => LittleEndian.decode bytes

@[simp] theorem encode_length (field : Field) (value : Int) : (field.encode value).length = field.size :=
  LittleEndian.encode_length _ _

private theorem decode_residue (width : Nat) (value : Int) :
    (LittleEndian.decode (LittleEndian.encode width (value % 256 ^ width).toNat) : Int) =
    value % 256 ^ width := by
  have positive : (0 : Int) < 256 ^ width := by positivity
  have lower : 0 ≤ value % 256 ^ width := Int.emod_nonneg _ (by omega)
  have upper : value % 256 ^ width < 256 ^ width := Int.emod_lt_of_pos _ positive
  rw [LittleEndian.decode_encode]
  push_cast [Int.toNat_of_nonneg lower]
  exact Int.emod_eq_of_lt lower upper

/-- Every number that fits a field is read back from its bytes. -/
theorem decode_encode (fits : field.Fits value) : decode field (encode field value) = value := by
  cases field with
  | pad => exact False.elim fits
  | unsigned width =>
    obtain ⟨lower, upper⟩ := fits
    simp only [decode, encode, size, decode_residue]
    exact Int.emod_eq_of_lt lower upper
  | signed width =>
    obtain ⟨lower, upper⟩ := fits
    have cast : ((256 ^ width : Nat) : Int) = 256 ^ width := by push_cast; rfl
    simp only [decode, encode, size, decode_residue]
    rw [← cast, Int.emod_bmod]
    apply Int.bmod_eq_of_le
    · rw [cast]; exact lower
    · rw [cast]; omega

end Field

/-- A record layout: its fields, in order, without alignment. -/
abbrev Layout := List Field

namespace Layout

def size (layout : Layout) : Nat := (layout.map Field.size).sum

/-- Pack one number for each field that is not padding. Nothing is packed when
a number does not fit or the number of values is wrong. -/
def pack : Layout → List Int → Option Bytes
  | [], [] => some []
  | .pad :: layout, values => (pack layout values).map (0 :: ·)
  | field :: layout, value :: values =>
    if field.Fits value then (pack layout values).map (field.encode value ++ ·) else none
  | _, _ => none

/-- Unpack the numbers of a record that starts at the given bytes. Nothing is
unpacked when fewer bytes than the record needs are there. -/
def unpack : Layout → Bytes → Option (List Int)
  | [], _ => some []
  | field :: layout, bytes =>
    if bytes.length < field.size then none
    else match field with
      | .pad => unpack layout (bytes.drop 1)
      | field => (unpack layout (bytes.drop field.size)).map (field.decode (bytes.take field.size) :: ·)

@[simp] theorem size_nil : size [] = 0 := rfl

@[simp] theorem size_cons (field : Field) (layout : Layout) :
    size (field :: layout) = field.size + layout.size := by
  simp [size]

theorem pack_length {layout : Layout} (packed : layout.pack values = some bytes) :
    bytes.length = layout.size := by
  induction layout generalizing values bytes with
  | nil =>
    cases values with
    | nil => simp only [pack, Option.some.injEq] at packed; simp [← packed]
    | cons _ _ => simp [pack] at packed
  | cons field layout ih =>
    cases field with
    | pad =>
      simp only [pack, Option.map_eq_some_iff] at packed
      obtain ⟨rest, tail, same⟩ := packed
      simp [← same, ih tail, Field.size, Nat.add_comm]
    | signed _ | unsigned _ =>
      cases values with
      | nil => simp [pack] at packed
      | cons value values =>
        simp only [pack] at packed
        split at packed
        · obtain ⟨rest, tail, same⟩ := Option.map_eq_some_iff.mp packed
          simp [← same, ih tail]
        · cases packed

/-- Unpacking starts where packing did, whatever bytes follow the record. -/
theorem unpack_pack {layout : Layout} (packed : layout.pack values = some bytes) (rest : Bytes) :
    layout.unpack (bytes ++ rest) = some values := by
  induction layout generalizing values bytes with
  | nil =>
    cases values with
    | nil => rfl
    | cons _ _ => simp [pack] at packed
  | cons field layout ih =>
    cases field with
    | pad =>
      simp only [pack, Option.map_eq_some_iff] at packed
      obtain ⟨tailBytes, tail, same⟩ := packed
      simp [← same, unpack, Field.size, ih tail]
    | signed _ | unsigned _ =>
      cases values with
      | nil => simp [pack] at packed
      | cons value values =>
        simp only [pack] at packed
        split at packed
        · rename_i fits
          obtain ⟨tailBytes, tail, same⟩ := Option.map_eq_some_iff.mp packed
          simp [← same, unpack, List.append_assoc, ih tail, Field.decode_encode fits]
        · cases packed

def count (layout : Layout) : Nat := layout.countP (· ≠ .pad)

/-- Enough bytes always unpack, to one number for each field that is not padding. -/
theorem unpack_complete (layout : Layout) (enough : layout.size ≤ bytes.length) :
    ∃ values, layout.unpack bytes = some values ∧ values.length = layout.count := by
  induction layout generalizing bytes with
  | nil => exact ⟨[], rfl, rfl⟩
  | cons field layout ih =>
    rw [size_cons] at enough
    have rest : size layout ≤ (bytes.drop field.size).length := by simp; omega
    obtain ⟨values, unpacked, length⟩ := ih rest
    have present : ¬ bytes.length < field.size := by omega
    cases field with
    | pad =>
      refine ⟨values, ?_, by simpa [count] using length⟩
      simp only [unpack, if_neg present]
      exact unpacked
    | signed width | unsigned width =>
      simp only [unpack, if_neg present, unpacked, Option.map_some]
      refine ⟨_, rfl, ?_⟩
      simp [length, count]

end Layout

end Perfcho.Foundation
