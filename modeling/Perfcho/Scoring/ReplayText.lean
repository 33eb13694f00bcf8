import Mathlib.Data.List.Basic
import Mathlib.Data.Nat.Digits.Defs

/-! The text of the samples in a rebuilt replay: one entry for each, with the time since
the one before, and an end marker. -/

namespace Perfcho.Scoring

open List

/-- What an entry has of a `CanonicalReplayFrame`. -/
structure ReplayFrame (Number : Type) where
  timestampMs : Int
  positionX : Number
  positionY : Number
  inputState : Nat

section

variable {Number : Type} (format : Number → List Char)

def ReplayFrame.fields (frame : ReplayFrame Number) : List (List Char) :=
  [format frame.positionX, format frame.positionY, Nat.toDigits 10 frame.inputState]

/-- The loop of `_replay_string`: each frame with the time since the last one, not below zero. -/
def replayDeltas : Int → List (ReplayFrame Number) → List (Nat × ReplayFrame Number)
  | _, [] => []
  | lastTime, frame :: rest =>
    ((max 0 (frame.timestampMs - lastTime)).toNat, frame) :: replayDeltas frame.timestampMs rest

def entryText (entry : Nat × ReplayFrame Number) : List Char :=
  ['|'].intercalate (Nat.toDigits 10 entry.1 :: entry.2.fields format)

/-- `_END_MARKER` -/
def endMarker : List Char := ['-', '1', '2', '3', '4', '5', '|', '0', '|', '0', '|', '0']

/-- `_replay_string` -/
def replayText (frames : List (ReplayFrame Number)) : List Char :=
  if frames.isEmpty then endMarker
  else [','].intercalate ((replayDeltas 0 frames).map (entryText format) ++ [endMarker]) ++ [',']

/-- The time of an entry and its other fields. -/
def readEntry (entry : List Char) : Nat × List (List Char) :=
  (Nat.ofDigitChars 10 ((entry.splitOn '|').headD []) 0, (entry.splitOn '|').tail)

def readText (text : List Char) : List (Nat × List (List Char)) :=
  ((text.splitOn ',').takeWhile (· ≠ endMarker)).map readEntry

/-- A text has an entry for each frame, and the times of its entries add up to the frames' own. -/
structure Recorded (frames : List (ReplayFrame Number)) (text : List Char) : Prop where
  entries : (readText text).map (·.2) = frames.map (·.fields format)
  times : ((readText text).map fun entry => (entry.1 : Int)).scanl (· + ·) 0 = 0 :: frames.map (·.timestampMs)

variable {format} {frames : List (ReplayFrame Number)}

theorem not_mem_toDigits (plain : separator.isDigit = false) (value : Nat) :
    separator ∉ Nat.toDigits 10 value := by
  intro member
  have digit := Nat.isDigit_of_mem_toDigits (by decide) (by decide) member
  simp [plain] at digit

theorem splitOn_entryText (bars : ∀ number, '|' ∉ format number) (entry : Nat × ReplayFrame Number) :
    (entryText format entry).splitOn '|' = Nat.toDigits 10 entry.1 :: entry.2.fields format := by
  refine splitOn_intercalate _ ?_ (by simp)
  simp [ReplayFrame.fields, bars, not_mem_toDigits]

theorem entryText_ne_endMarker (bars : ∀ number, '|' ∉ format number)
    (entry : Nat × ReplayFrame Number) : entryText format entry ≠ endMarker := by
  intro same
  have parts := splitOn_entryText bars entry
  rw [same] at parts
  have sign : '-' ∉ Nat.toDigits 10 entry.1 := not_mem_toDigits rfl _
  rw [← (cons.inj parts).1] at sign
  exact sign (by decide)

theorem not_mem_entryText (commas : ∀ number, ',' ∉ format number)
    (entry : Nat × ReplayFrame Number) : ',' ∉ entryText format entry := by
  have digits : ∀ value, ',' ∉ Nat.toDigits 10 value := not_mem_toDigits rfl
  simp [entryText, ReplayFrame.fields, intercalate_cons_cons, commas, digits]

theorem intercalate_closed (parts : List (List Char)) (last : List Char) :
    [','].intercalate (parts ++ [last]) ++ [','] = [','].intercalate (parts ++ [last, []]) := by
  induction parts with
  | nil => simp
  | cons part rest ih => simp [intercalate_cons_of_ne_nil, ← ih]

/-- A text is read back as it was written. -/
theorem readText_replayText (bars : ∀ number, '|' ∉ format number)
    (commas : ∀ number, ',' ∉ format number) (frames : List (ReplayFrame Number)) :
    readText (replayText format frames) = (replayDeltas 0 frames).map fun entry =>
    (entry.1, entry.2.fields format) := by
  cases frames with
  | nil => exact (by decide : readText endMarker = [])
  | cons frame rest =>
    have joined : replayText format (frame :: rest) =
      [','].intercalate ((replayDeltas 0 (frame :: rest)).map (entryText format) ++ [endMarker, []]) :=
      intercalate_closed _ _
    have read : ∀ entry, readEntry (entryText format entry) = (entry.1, entry.2.fields format) := by
      simp [readEntry, splitOn_entryText bars, Nat.ofDigitChars_toDigits]
    rw [joined, readText, splitOn_intercalate _ _ (by simp), takeWhile_append_of_pos]
    · simp [endMarker, read]
    · exact forall_mem_map.mpr fun entry _ => decide_eq_true (entryText_ne_endMarker bars entry)
    · refine forall_mem_append.mpr ⟨forall_mem_map.mpr fun entry _ => not_mem_entryText commas entry, ?_⟩
      decide

theorem replayDeltas_frames (lastTime : Int) (frames : List (ReplayFrame Number)) :
    (replayDeltas lastTime frames).map (·.2) = frames := by
  induction frames generalizing lastTime with
  | nil => rfl
  | cons frame rest ih => simp [replayDeltas, ih]

/-- From a time that is not after the first frame's, the times add up to each frame's. -/
theorem replayDeltas_times (ordered : (lastTime :: frames.map (·.timestampMs)).Pairwise (· ≤ ·)) :
    ((replayDeltas lastTime frames).map fun entry => (entry.1 : Int)).scanl (· + ·) lastTime =
      lastTime :: frames.map (·.timestampMs) := by
  induction frames generalizing lastTime with
  | nil => rfl
  | cons frame rest ih =>
    obtain ⟨first, later⟩ := pairwise_cons.mp ordered
    have after : lastTime ≤ frame.timestampMs := first _ (by simp)
    have reached : lastTime + (frame.timestampMs - lastTime) = frame.timestampMs := by omega
    simp [replayDeltas, after, reached, ih later]

/-- Frames in order are all recorded at their times just if the first is not before the start
of the map: the first time is counted from there. -/
theorem replayText_recorded_iff (format : Number → List Char) (bars : ∀ number, '|' ∉ format number)
    (commas : ∀ number, ',' ∉ format number) (frames : List (ReplayFrame Number))
    (ordered : (frames.map (·.timestampMs)).Pairwise (· ≤ ·)) :
    Recorded format frames (replayText format frames) ↔ ∀ frame ∈ frames.head?, 0 ≤ frame.timestampMs := by
  have read := readText_replayText bars commas frames
  constructor
  · intro recorded frame head
    obtain ⟨rest, rfl⟩ := head?_eq_some_iff.mp head
    have times := congrArg (fun sums => sums.tail.head?) recorded.times
    have reached : max 0 frame.timestampMs = frame.timestampMs := by simpa [read, replayDeltas] using times
    omega
  · intro started
    have fields := congrArg (map (·.fields format)) (replayDeltas_frames 0 frames)
    refine ⟨by simpa [read, Function.comp_def] using fields, ?_⟩
    rw [read, map_map]
    refine replayDeltas_times (pairwise_cons.mpr ⟨?_, ordered⟩)
    intro time member
    cases frames with
    | nil => simp at member
    | cons frame rest =>
      have first := started frame rfl
      obtain same | later := mem_cons.mp member
      · exact same ▸ first
      · exact first.trans ((pairwise_cons.mp ordered).1 time later)

/-- A frame before the start of the map and one at its start. -/
def earlyFrames : List (ReplayFrame (List Char)) := [⟨-100, ['0'], ['0'], 0⟩, ⟨0, ['0'], ['0'], 1⟩]

theorem earlyFrames_late : (earlyFrames.map (·.timestampMs)).Pairwise (· ≤ ·) ∧
    ((readText (replayText id earlyFrames)).map (·.1)) = [0, 100] ∧
    ¬ Recorded id earlyFrames (replayText id earlyFrames) :=
  ⟨by decide, by decide, fun recorded => absurd recorded.times (by decide)⟩

theorem laterFrames_recorded : Recorded (fun _ : Unit => ['0']) [⟨5, (), (), 0⟩, ⟨7, (), (), 1⟩]
    (replayText (fun _ => ['0']) [⟨5, (), (), 0⟩, ⟨7, (), (), 1⟩]) :=
  (replayText_recorded_iff _ (by simp) (by simp) _ (by decide)).mpr (by simp)

end

end Perfcho.Scoring
