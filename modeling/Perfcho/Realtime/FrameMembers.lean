import Perfcho.Realtime.Frames
import Mathlib.Data.Nat.Digits.Defs

/-! The text of a frame: its parts are read back from it, and frames are ordered by
their cursors, because a cursor is written with a fixed number of digits. -/

namespace Perfcho.Realtime

open Foundation List Nat

def digit (number : Nat) : UInt8 := UInt8.ofNat (48 + number % 10)

@[simp] theorem digit_toNat (number : Nat) : (digit number).toNat = 48 + number % 10 := by
  have small : 48 + number % 10 < 256 := by omega
  simp [digit, mod_eq_of_lt small]

theorem ascii_digit (small : number < 10) : UInt8.ofNat number.digitChar.toNat = digit number :=
  (by decide : ∀ number < 10, UInt8.ofNat (digitChar number).toNat = digit number) number small

theorem ascii_toString (number : Nat) : ascii (toString number) =
    (if number < 10 then [] else ascii (toString (number / 10))) ++ [digit number] := by
  have text : ∀ number : Nat, ascii (toString number) =
    (toDigits 10 number).map fun character => UInt8.ofNat character.toNat := fun number => by
    simp [ascii, toString_eq_repr, repr_eq_ofList_toDigits]
  rw [text, text, toDigits_eq_if (by decide)]
  split
  · next small => simp [ascii_digit small]
  · have small : number % 10 < 10 := mod_lt _ (by decide)
    simp [ascii_digit small, digit]

/-- A text of digits is read as a number. -/
def Digits (text : Bytes) : Prop := ∀ byte ∈ text, 48 ≤ byte.toNat ∧ byte.toNat ≤ 57

theorem digits_digit (number : Nat) : Digits [digit number] := by
  intro byte member
  rw [mem_singleton.mp member, digit_toNat]
  omega

theorem Digits.append (first : Digits text) (second : Digits rest) : Digits (text ++ rest) :=
  fun byte member => (mem_append.mp member).elim (first byte) (second byte)

theorem Digits.padded (digits : Digits text) : Digits (padded width text) := by
  apply Digits.append _ digits
  intro byte member
  rw [eq_of_mem_replicate member]
  decide

theorem Digits.uncoloned (digits : Digits text) : colon ∉ text := fun member => by
  have bounds := digits colon member
  revert bounds
  decide

theorem digitsValue_append (text : Bytes) (number : Nat) :
    digitsValue (text ++ [digit number]) = 10 * digitsValue text + number % 10 := by
  simp [digitsValue]

theorem ascii_number (number : Nat) :
    ascii (toString number) ≠ [] ∧ Digits (ascii (toString number)) ∧
    digitsValue (ascii (toString number)) = number := by
  induction number using Nat.strong_induction_on with
  | _ number ih =>
    rw [ascii_toString]
    split
    · next small => exact ⟨by simp, digits_digit number, by rw [digitsValue_append]; simp [digitsValue]; omega⟩
    · next large =>
      obtain ⟨_, digits, value⟩ := ih (number / 10) (by omega)
      refine ⟨by simp, digits.append (digits_digit number), ?_⟩
      rw [digitsValue_append, value]
      omega

theorem digitsValue_padded (width : Nat) (text : Bytes) :
    digitsValue (padded width text) = digitsValue text := by
  unfold padded digitsValue
  rw [foldl_append]
  congr 1
  generalize width - text.length = zeros
  induction zeros with
  | zero => rfl
  | succ zeros ih => simpa [replicate_succ] using ih

theorem tonumber_padded (width number : Nat) :
    tonumber? (padded width (ascii (toString number))) = some number := by
  obtain ⟨nonempty, digits, value⟩ := ascii_number number
  unfold tonumber?
  rw [if_pos, digitsValue_padded, value]
  constructor
  · exact append_ne_nil_of_right_ne_nil _ nonempty
  · exact all_eq_true.mpr fun byte member => decide_eq_true (digits.padded byte member)

theorem tonumber_ascii (number : Nat) : tonumber? (ascii (toString number)) = some number := by
  simpa [padded] using tonumber_padded 0 number

def fixed : Nat → Nat → Bytes
  | 0, _ => []
  | width + 1, number => fixed width (number / 10) ++ [digit number]

@[simp] theorem length_fixed (width number : Nat) : (fixed width number).length = width := by
  induction width generalizing number with
  | zero => rfl
  | succ width ih => simp [fixed, ih]

theorem fixed_zero (width : Nat) : fixed width 0 = replicate width 48 := by
  induction width with
  | zero => rfl
  | succ width ih =>
    rw [fixed, Nat.zero_div, ih, replicate_succ']
    rfl

theorem padded_eq_fixed (width : Nat) (small : number < 10 ^ (width + 1)) :
    padded (width + 1) (ascii (toString number)) = fixed (width + 1) number := by
  induction width generalizing number with
  | zero =>
    have small : number < 10 := by simpa using small
    rw [ascii_toString, if_pos small]
    rfl
  | succ width ih =>
    rw [ascii_toString, fixed]
    split
    · next small =>
      rw [div_eq_of_lt small, fixed_zero]
      rfl
    · have shorter : padded (width + 1) (ascii (toString (number / 10))) =
        fixed (width + 1) (number / 10) := by
        apply ih
        omega
      rw [← shorter, padded, padded, length_append, length_singleton, Nat.add_sub_add_right, append_assoc]

@[simp] theorem byteRank_append (first second : Bytes) :
    byteRank (first ++ second) = byteRank first ++ byteRank second :=
  map_append

@[simp] theorem length_byteRank (bytes : Bytes) : (byteRank bytes).length = bytes.length := length_map _

theorem append_lt_append (level : first.length = second.length) (less : first < second)
    (rest others : List Nat) : first ++ rest < second ++ others := by
  induction first generalizing second with
  | nil =>
    rw [length_nil, eq_comm, length_eq_zero_iff] at level
    subst level
    exact absurd less (lt_irrefl _)
  | cons head tail ih =>
    cases second with
    | nil => cases level
    | cons other tail =>
      rw [cons_append, cons_append, cons_lt_cons_iff]
      rcases cons_lt_cons_iff.mp less with lower | ⟨same, less⟩
      · exact .inl lower
      · exact .inr ⟨same, ih (succ.inj level) less⟩

theorem fixed_lt_fixed (bounded : other < 10 ^ width) (less : number < other) :
    byteRank (fixed width number) < byteRank (fixed width other) := by
  induction width generalizing number other with
  | zero =>
    simp at bounded
    omega
  | succ width ih =>
    rw [fixed, fixed, byteRank_append, byteRank_append]
    by_cases same : number / 10 = other / 10
    · rw [same]
      have last : byteRank [digit number] < byteRank [digit other] := by
        simp only [byteRank, map_cons, map_nil, digit_toNat]
        exact cons_lt_cons_iff.mpr (.inl (by omega))
      exact List.Lex.append_left _ last _
    · exact append_lt_append (by simp) (ih (by omega) (by omega)) _ _

theorem sequenceToken_eq_fixed (small : cursor < 10 ^ 19) : sequenceToken cursor = fixed 19 cursor :=
  padded_eq_fixed 18 small

theorem length_sequenceToken (small : cursor < 10 ^ 19) : (sequenceToken cursor).length = 19 := by
  rw [sequenceToken_eq_fixed small, length_fixed]

theorem digitsValue_sequenceToken (cursor : Nat) : digitsValue (sequenceToken cursor) = cursor := by
  rw [sequenceToken, digitsValue_padded]
  exact (ascii_number cursor).2.2

/-- Tokens are ordered as the cursors are. -/
theorem sequenceToken_lt_iff (first : cursor < 10 ^ 19) (second : other < 10 ^ 19) :
    byteRank (sequenceToken cursor) < byteRank (sequenceToken other) ↔ cursor < other := by
  rw [sequenceToken_eq_fixed first, sequenceToken_eq_fixed second]
  constructor
  · intro less
    by_contra above
    rcases Nat.lt_or_eq_of_le (Nat.le_of_not_lt above) with lower | same
    · exact lt_asymm less (fixed_lt_fixed first lower)
    · rw [same] at less
      exact lt_irrefl _ less
  · exact fixed_lt_fixed second

section

variable {lua : Lua} {frame other : OrderedFrame}

def OrderedFrame.member (lua : Lua) (frame : OrderedFrame) : Bytes :=
  frameMember lua frame.cursor frame.expiresAt frame.sequence frame.payload

/-- A frame that was published: its cursor is written in full and its sequence fits in
sixteen bits. -/
structure OrderedFrame.Published (frame : OrderedFrame) : Prop where
  cursor : frame.cursor < 10 ^ 14
  sequence : frame.sequence ≤ 65535

theorem OrderedFrame.Published.token (published : frame.Published) : frame.cursor < 10 ^ 19 :=
  published.cursor.trans (by decide)

theorem OrderedFrame.Published.member_eq (published : frame.Published) (lua : Lua) :
    frame.member lua = sequenceToken frame.cursor ++ colon :: (ascii (toString frame.expiresAt) ++
      colon :: (padded 5 (ascii (toString frame.sequence)) ++ colon :: frame.payload)) := by
  rw [member, frameMember, lua.tostring_full _ published.cursor]
  simp [sequenceToken]

theorem OrderedFrame.Published.cursorOf_member (published : frame.Published) :
    cursorOf (frame.member lua) = sequenceToken frame.cursor := by
  rw [published.member_eq, cursorOf]
  exact take_left' (length_sequenceToken published.token)

theorem OrderedFrame.Published.member_lt (first : frame.Published) (second : other.Published)
    (less : frame.cursor < other.cursor) : byteRank (frame.member lua) < byteRank (other.member lua) := by
  rw [first.member_eq, second.member_eq, byteRank_append, byteRank_append]
  apply append_lt_append
  · rw [length_byteRank, length_byteRank, length_sequenceToken first.token, length_sequenceToken second.token]
  · exact (sequenceToken_lt_iff first.token second.token).mpr less

theorem idxOf_colon (plain : colon ∉ text) : (text ++ colon :: rest).idxOf? colon = some text.length := by
  induction text with
  | nil => simp [idxOf?_cons]
  | cons head tail ih =>
    obtain ⟨different, plain⟩ := not_or.mp (mt mem_cons.mpr plain)
    rw [cons_append, idxOf?_cons, if_neg (by simpa using Ne.symm different), ih plain]
    rfl

theorem findFrom_colon (start : before.length = place) (plain : colon ∉ text) :
    findFrom colon place (before ++ (text ++ colon :: rest)) = some (place + text.length) := by
  rw [findFrom, drop_left' start, idxOf_colon plain]
  rfl

theorem take_drop_between {before text rest : Bytes} (start : before.length = place) :
    ((before ++ (text ++ rest)).take (place + text.length)).drop place = text := by
  rw [← append_assoc, take_left' (by simp [start]), drop_left' start]

theorem splitColon_append (plain : colon ∉ text) :
    splitColon (text ++ colon :: rest) = some (text, rest) := by
  have found : findFrom colon 0 ([] ++ (text ++ colon :: rest)) = some (0 + text.length) :=
    findFrom_colon rfl plain
  rw [nil_append, zero_add] at found
  rw [splitColon, found]
  simp

theorem OrderedFrame.Published.frameParts_member (published : frame.Published) :
    frameParts (frame.member lua) = some ⟨frame.expiresAt, frame.sequence, frame.payload.length⟩ := by
  obtain ⟨_, expiryDigits, _⟩ := ascii_number frame.expiresAt
  have sequenceDigits : Digits (padded 5 (ascii (toString frame.sequence))) :=
    (ascii_number frame.sequence).2.1.padded
  have whole := published.member_eq lua
  have readExpiry := tonumber_ascii frame.expiresAt
  have readSequence := tonumber_padded 5 frame.sequence
  generalize ascii (toString frame.expiresAt) = expiry at *
  generalize padded 5 (ascii (toString frame.sequence)) = sequence at *
  have atExpiry : frame.member lua = (sequenceToken frame.cursor ++ [colon]) ++
    (expiry ++ colon :: (sequence ++ colon :: frame.payload)) := by simpa using whole
  have atSequence : frame.member lua = (sequenceToken frame.cursor ++ colon :: expiry ++ [colon]) ++
    (sequence ++ colon :: frame.payload) := by simpa using whole
  have token := length_sequenceToken published.token
  have second : findFrom colon 20 (frame.member lua) = some (20 + expiry.length) := by
    rw [atExpiry]
    exact findFrom_colon (by simp [token]) expiryDigits.uncoloned
  have third : findFrom colon (20 + expiry.length + 1) (frame.member lua) =
    some (20 + expiry.length + 1 + sequence.length) := by
    rw [atSequence]
    exact findFrom_colon (by simp [token]; omega) sequenceDigits.uncoloned
  have expiryText : ((frame.member lua).take (20 + expiry.length)).drop 20 = expiry := by
    rw [atExpiry]
    exact take_drop_between (by simp [token])
  have sequenceText : ((frame.member lua).take (20 + expiry.length + 1 + sequence.length)).drop
    (20 + expiry.length + 1) = sequence := by
    rw [atSequence]
    exact take_drop_between (by simp [token]; omega)
  have size : (frame.member lua).length - (20 + expiry.length + 1 + sequence.length + 1) =
    frame.payload.length := by
    rw [whole]
    simp [token]
    omega
  unfold frameParts
  simp only [second, third, expiryText, sequenceText, readExpiry, readSequence, size,
    Option.bind_eq_bind, Option.bind_some, Option.pure_def]

theorem OrderedFrame.Published.decode_member (published : frame.Published) :
    decodeOrderedFrame (frame.member lua) = some frame := by
  have cursorDigits : Digits (sequenceToken frame.cursor) := (ascii_number frame.cursor).2.1.padded
  have expiryDigits := (ascii_number frame.expiresAt).2.1
  have sequenceDigits : Digits (padded 5 (ascii (toString frame.sequence))) :=
    (ascii_number frame.sequence).2.1.padded
  have width : (padded 5 (ascii (toString frame.sequence))).length = 5 := by
    rw [padded_eq_fixed 4 (lt_of_le_of_lt published.sequence (by decide)), length_fixed]
  have proper : ¬ (sequenceToken frame.cursor ≠ sequenceToken frame.cursor ∨
    (padded 5 (ascii (toString frame.sequence))).length ≠ 5 ∨
    padded 5 (ascii (toString frame.sequence)) ≠ padded 5 (ascii (toString frame.sequence)) ∨
    65535 < frame.sequence) := by
    simp only [width, not_or, not_not, not_lt]
    exact ⟨trivial, trivial, trivial, published.sequence⟩
  unfold decodeOrderedFrame
  rw [published.member_eq]
  simp only [splitColon_append cursorDigits.uncoloned, splitColon_append expiryDigits.uncoloned,
    splitColon_append sequenceDigits.uncoloned, Option.bind_eq_bind, Option.bind_some,
    show tonumber? (sequenceToken frame.cursor) = _ from tonumber_padded 19 frame.cursor,
    tonumber_ascii, tonumber_padded, if_neg proper]

end

end Perfcho.Realtime
