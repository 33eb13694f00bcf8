import Mathlib.Data.List.DropRight

/-! Text, time and identity values as the runtime of the source has them. -/

namespace Perfcho.Foundation

open List

namespace Text

/-- The characters that stripping removes. -/
def isSpace (character : Char) : Bool :=
  let code := character.toNat
  (0x09 ≤ code && code ≤ 0x0D) || (0x1C ≤ code && code ≤ 0x20) || code == 0x85 || code == 0xA0 ||
    code == 0x1680 || (0x2000 ≤ code && code ≤ 0x200A) || code == 0x2028 || code == 0x2029 ||
    code == 0x202F || code == 0x205F || code == 0x3000

def stripChars (characters : List Char) : List Char := (characters.dropWhile isSpace).rdropWhile isSpace

def strip (text : String) : String := String.ofList (stripChars text.toList)

/-- Uppercase, exact wherever the result is ASCII: besides the lowercase letters
only a dotless i, a long s, a sharp s and the Latin ligatures become ASCII. -/
def upperChar (character : Char) : List Char :=
  if 'a' ≤ character ∧ character ≤ 'z' then [Char.ofNat (character.toNat - 32)]
  else match character.toNat with
    | 0x131 => ['I']
    | 0x17F => ['S']
    | 0xDF => ['S', 'S']
    | 0xFB00 => ['F', 'F']
    | 0xFB01 => ['F', 'I']
    | 0xFB02 => ['F', 'L']
    | 0xFB03 => ['F', 'F', 'I']
    | 0xFB04 => ['F', 'F', 'L']
    | 0xFB05 => ['S', 'T']
    | 0xFB06 => ['S', 'T']
    | _ => [character]

def upper (text : String) : String := String.ofList (text.toList.flatMap upperChar)

def digit? (character : Char) : Option Nat :=
  if '0' ≤ character ∧ character ≤ '9' then some (character.toNat - 48) else none

/-- Further digits, each of which may follow one underscore. -/
def digitsAfter (value : Nat) : List Char → Option Nat
  | [] => some value
  | character :: rest =>
    match digit? character with
    | some digit => digitsAfter (10 * value + digit) rest
    | none =>
      match character, rest with
      | '_', next :: rest => (digit? next).bind fun digit => digitsAfter (10 * value + digit) rest
      | _, _ => none

def natural? : List Char → Option Nat
  | [] => none
  | character :: rest => (digit? character).bind fun digit => digitsAfter digit rest

/-- A decimal integer as the source's runtime reads it from ASCII text. -/
def int? (text : String) : Option Int :=
  match stripChars text.toList with
  | '-' :: digits => (natural? digits).map fun number => -Int.ofNat number
  | '+' :: digits => (natural? digits).map Int.ofNat
  | digits => (natural? digits).map Int.ofNat

theorem stripChars_idempotent (characters : List Char) :
    stripChars (stripChars characters) = stripChars characters := by
  have front : (stripChars characters).dropWhile isSpace = stripChars characters := by
    refine dropWhile_eq_self_iff.mpr fun nonempty => ?_
    -- What is left after the back is cut starts as the text did after the front was cut.
    have start := rdropWhile_prefix isSpace (characters.dropWhile isSpace)
    have first := dropWhile_eq_self_iff.mp (dropWhile_idempotent isSpace characters)
    rw [show (stripChars characters)[0] = _ from start.getElem nonempty]
    exact first (Nat.lt_of_lt_of_le nonempty start.length_le)
  have back : (stripChars characters).rdropWhile isSpace = stripChars characters :=
    rdropWhile_idempotent isSpace _
  rw [stripChars, front, back]

theorem strip_idempotent (text : String) : strip (strip text) = strip text := by
  simp [strip, stripChars_idempotent]

theorem isDigit_of_mem_toString {number : Nat} (member : character ∈ (toString number).toList) :
    character.isDigit = true := by
  rw [show toString number = number.repr from rfl, Nat.repr_eq_ofList_toDigits,
    String.toList_ofList] at member
  exact Nat.isDigit_of_mem_toDigits (by decide) (by decide) member

theorem toString_unbarred (number : Nat) : '|' ∉ (toString number).toList :=
  fun member => absurd (isDigit_of_mem_toString member) (by decide)

theorem toString_injective {number other : Nat} (same : toString number = toString other) :
    number = other := by
  have digits : Nat.toDigits 10 number = Nat.toDigits 10 other := String.ofList_injective same
  rw [← Nat.ofDigitChars_toDigits (b := 10) (n := number) (by decide) (by decide), digits,
    Nat.ofDigitChars_toDigits (by decide) (by decide)]

end Text

/-- A point in time with or without a zone. The number counts milliseconds. -/
inductive Datetime where
  | naive (clock : Int)
  | aware (instant : Int)

def Datetime.isAware : Datetime → Bool
  | naive _ => false
  | aware _ => true

/-- A universally unique identifier: sixteen bytes. -/
structure Uuid where
  bytes : List UInt8
  sixteen : bytes.length = 16
  deriving DecidableEq

/-- The bytes as one number, by which identifiers are ordered. -/
def Uuid.number (identity : Uuid) :
    Nat := identity.bytes.foldl (fun number byte => 256 * number + byte.toNat) 0

/-- The instant or clock reading as a number. -/
def Datetime.millis : Datetime → Int
  | naive clock => clock
  | aware instant => instant

namespace Hex

def digit (value : Nat) : Char := if value < 10 then Char.ofNat (48 + value) else Char.ofNat (87 + value)

def value? (digit : Char) : Option Nat :=
  if '0' ≤ digit ∧ digit ≤ '9' then some (digit.toNat - 48)
  else if 'a' ≤ digit ∧ digit ≤ 'f' then some (digit.toNat - 87)
  else if 'A' ≤ digit ∧ digit ≤ 'F' then some (digit.toNat - 55)
  else none

def encode (bytes : List UInt8) : List Char :=
  bytes.flatMap fun byte => [digit (byte.toNat / 16), digit (byte.toNat % 16)]

def decode : List Char → Option (List UInt8)
  | [] => some []
  | [_] => none
  | high :: low :: rest => do
    let upper ← value? high
    let lower ← value? low
    let bytes ← decode rest
    return UInt8.ofNat (16 * upper + lower) :: bytes

theorem value?_digit : ∀ value < 16, value? (digit value) = some value ∧ digit value ≠ '-' := by decide

theorem decode_encode (bytes : List UInt8) : decode (encode bytes) = some bytes := by
  induction bytes with
  | nil => rfl
  | cons byte rest ih =>
    have bounded := byte.toNat_lt
    have upper := (value?_digit (byte.toNat / 16) (by omega)).1
    have lower := (value?_digit (byte.toNat % 16) (by omega)).1
    have whole : 16 * (byte.toNat / 16) + byte.toNat % 16 = byte.toNat := by omega
    have unfolded : encode (byte :: rest) =
      digit (byte.toNat / 16) :: digit (byte.toNat % 16) :: encode rest := rfl
    simp only [unfolded, decode, upper, lower, ih, Option.bind_eq_bind, Option.bind_some, whole,
      UInt8.ofNat_toNat, Option.pure_def]

theorem undashed_of_mem_encode (member : character ∈ encode bytes) : character ≠ '-' := by
  simp only [encode, mem_flatMap, mem_cons, not_mem_nil, or_false] at member
  obtain ⟨byte, _, rfl | rfl⟩ := member
  all_goals
    have bounded := byte.toNat_lt
    exact (value?_digit _ (by omega)).2

end Hex

/-- Thirty-two hexadecimal digits in groups of 8, 4, 4, 4 and 12. -/
def Uuid.text (identity : Uuid) : String :=
  let digits := Hex.encode identity.bytes
  String.ofList (digits.take 8 ++ '-' :: (digits.drop 8).take 4 ++ '-' :: (digits.drop 12).take 4 ++
    '-' :: (digits.drop 16).take 4 ++ '-' :: digits.drop 20)

def Uuid.ofText (text : String) : Option Uuid := do
  let bytes ← Hex.decode (text.toList.filter (· ≠ '-'))
  if sixteen : bytes.length = 16 then some ⟨bytes, sixteen⟩ else none

theorem Uuid.filter_text (identity : Uuid) :
    identity.text.toList.filter (· ≠ '-') = Hex.encode identity.bytes := by
  have undashed : ∀ character ∈ Hex.encode identity.bytes, character ≠ '-' :=
    fun _ => Hex.undashed_of_mem_encode
  simp only [Uuid.text, String.toList_ofList]
  generalize Hex.encode identity.bytes = digits at undashed
  have kept : ∀ part, part ⊆ digits → part.filter (· ≠ '-') = part := fun part inside =>
    filter_eq_self.mpr fun character member => decide_eq_true (undashed character (inside member))
  have dropped : ∀ count, digits.drop count ⊆ digits := fun count => drop_subset count digits
  have taken : ∀ count size, (digits.drop count).take size ⊆ digits :=
    fun count size => List.Subset.trans (take_subset _ _) (dropped count)
  have joined : ∀ count size, (digits.drop count).take size ++ digits.drop (count + size) =
    digits.drop count :=
    fun count size => by rw [← drop_drop, take_append_drop]
  have dash : ∀ part : List Char, ('-' :: part).filter (· ≠ '-') = part.filter (· ≠ '-') :=
    fun part => by simp
  simp only [filter_append, dash, kept _ (take_subset 8 digits), kept _ (taken _ _),
    kept _ (dropped _), append_assoc, joined 16 4, joined 12 4, joined 8 4, take_append_drop]

theorem Uuid.ofText_text (identity : Uuid) : Uuid.ofText identity.text = some identity := by
  rw [Uuid.ofText, Uuid.filter_text, Hex.decode_encode]
  simp [identity.sixteen]

theorem Uuid.text_injective {first second : Uuid} (same : first.text = second.text) : first = second := by
  have read := Uuid.ofText_text first
  rw [same, Uuid.ofText_text] at read
  exact (Option.some.inj read).symm

end Perfcho.Foundation
