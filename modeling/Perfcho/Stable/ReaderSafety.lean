import Perfcho.Stable.Reader

namespace Perfcho.Stable

open Foundation

namespace PacketReader

/-- What a field read may do to its reader: move forward, and nothing else. -/
structure Advances (before after : PacketReader) : Prop where
  view : after.view = before.view
  limits : after.limits = before.limits
  packetEnum : after.packetEnum = before.packetEnum
  packetCount : after.packetCount = before.packetCount
  position : before.position ≤ after.position

theorem Advances.refl (reader : PacketReader) : Advances reader reader := ⟨rfl, rfl, rfl, rfl, Nat.le_refl _⟩

theorem Advances.trans (first : Advances before middle) (second : Advances middle after) :
    Advances before after :=
  ⟨second.view.trans first.view, second.limits.trans first.limits,
    second.packetEnum.trans first.packetEnum, second.packetCount.trans first.packetCount,
    Nat.le_trans first.position second.position⟩

/-- A field read that only advances, fails only with a `ValueError`, and returns
only values with the given property, on every reader with these limits. -/
def Safe (limits : CodecLimits) (action : Read Value) (post : Value → Prop) : Prop :=
  Action.Sound (fun reader => reader.limits = limits) Advances (fun failure =>
    failure.isValueError = true) action post

variable {limits : CodecLimits} {Value Next : Type}

theorem Safe.pure (holds : post value) : Safe limits (Pure.pure value : Read Value) post :=
  Action.Sound.pure .refl holds

theorem Safe.fail {failure : Failure} (permitted : failure.isValueError = true) :
    Safe limits (Action.fail failure : Read Value) post :=
  Action.Sound.fail .refl permitted

theorem Safe.bind {next : Value → Read Next}
    (head : Safe limits first between) (tail : ∀ value, between value →
      Safe limits (next value) post) : Safe limits (first >>= next) post :=
  Action.Sound.bind (fun first second => .trans first second) head tail

/-- A read of the reader itself only tells its limits. -/
theorem Safe.ofRead {next : PacketReader → Read Next}
    (tail : ∀ reader, reader.limits = limits → Safe limits (next reader) post) :
    Safe limits (Action.read >>= next) post := by
  intro reader same
  exact tail reader same reader same

theorem take_safe (size : Int) : Safe limits (take size)
    (fun bytes => 0 ≤ size ∧ bytes.length = size.toNat) := by
  intro reader same
  unfold take
  split
  · exact ⟨same, .refl reader, rfl⟩
  rename_i nonneg
  split
  · rename_i inside
    refine ⟨same, ⟨rfl, rfl, rfl, rfl, Nat.le_add_right _ _⟩, by omega, ?_⟩
    simp only [List.length_take, unread, List.length_drop]
    omega
  · exact ⟨same, .refl reader, rfl⟩

theorem unpackAll_safe (layout : Layout) :
    Safe limits (unpackAll layout) (fun values => values.length = layout.count) := by
  refine .bind (take_safe layout.size) fun encoded taken => ?_
  obtain ⟨values, unpacked, length⟩ := Layout.unpack_complete layout (taken.2.trans (Int.toNat_natCast _)).ge
  rw [unpacked]
  exact .pure length

theorem unpack_safe (numeric : field != .pad) : Safe limits (unpack field) (fun _ => True) := by
  refine .bind (unpackAll_safe [field]) fun values length => ?_
  have one : Layout.count [field] = 1 := by simp [Layout.count, bne_iff_ne.mp numeric]
  obtain ⟨value, rfl⟩ := List.length_eq_one_iff.mp (length.trans one)
  exact .pure trivial

/-- A field, of which nothing is known, then the rest. -/
theorem Safe.field {next : Int → Read Next} (numeric : kind != .pad)
    (tail : ∀ value, Safe limits (next value) post) : Safe limits (unpack kind >>= next) post :=
  Safe.bind (unpack_safe numeric) fun value _ => tail value

theorem readBytes_safe (size : Nat) : Safe limits (readBytes size) (fun bytes => bytes.length = size) :=
  Action.Sound.weaken (take_safe size) fun _ taken => by simpa using taken.2

theorem readRemaining_safe : Safe limits readRemaining (fun _ => True) :=
  Safe.ofRead fun reader _ => .weaken (take_safe reader.remaining) fun _ _ => trivial

theorem requireExhausted_safe : Safe limits requireExhausted (fun _ => True) := by
  refine Safe.ofRead fun reader _ => Action.Sound.ite (fun _ => Safe.fail rfl) (fun _ => Safe.pure trivial)

theorem readFloat_safe {convert : Int → Value} (numeric : kind != .pad) :
    Safe limits (unpack kind >>= fun raw => Pure.pure (convert raw)) (fun _ => True) :=
  Safe.field numeric fun _ => .pure trivial

theorem readBool_safe : Safe limits readBool (fun _ => True) :=
  Safe.field rfl fun _ => Action.Sound.ite (fun _ => Safe.fail rfl) (fun _ => Safe.pure trivial)

theorem readUleb128Loop_safe (index value left : Nat) :
    Safe limits (readUleb128Loop index value left) (fun _ => True) := by
  induction left generalizing index value with
  | zero => exact .ofRead fun _ _ => .fail rfl
  | succ left ih =>
    refine Safe.ofRead fun _ _ => Action.Sound.ite (fun _ => Safe.fail rfl) fun _ => ?_
    refine Safe.field rfl fun byte => Action.Sound.ite (fun _ => Safe.fail rfl) fun _ => ?_
    refine Action.Sound.ite (fun _ => ?_) (fun _ => ih _ _)
    exact Action.Sound.ite (fun _ => Safe.fail rfl) (fun _ => Safe.pure trivial)

theorem readUleb128_safe : Safe limits readUleb128 (fun _ => True) :=
  Safe.ofRead fun _ _ => readUleb128Loop_safe _ _ _

theorem decodeUtf8_size (decoded : decodeUtf8 encoded = some text) : text.utf8ByteSize = encoded.length := by
  unfold decodeUtf8 String.fromUTF8? at decoded
  split at decoded
  · cases decoded
    rfl
  · cases decoded

def TextWithin (limits : CodecLimits) (text : String) : Prop := text.utf8ByteSize ≤ limits.maxStringSize

theorem readString_safe : Safe limits readString (TextWithin limits) := by
  refine .field rfl fun marker => .ite (fun _ => ?_) fun _ => ?_
  · exact Safe.pure (Nat.zero_le _)
  refine Action.Sound.ite (fun _ => Safe.fail rfl) fun _ => ?_
  refine Safe.bind readUleb128_safe fun length _ => Safe.ofRead fun reader same => ?_
  refine Action.Sound.ite (fun _ => Safe.fail rfl) fun fits => ?_
  refine Safe.bind (take_safe length) fun encoded taken => ?_
  cases decoded : decodeUtf8 encoded with
  | none => exact Safe.fail rfl
  | some text =>
    refine .pure ?_
    rw [TextWithin, decodeUtf8_size decoded, taken.2, Int.toNat_natCast, ← same]
    exact Nat.le_of_not_lt fits

theorem effectiveLimit_safe (maxLength : Option Int) : Safe limits (effectiveLimit limits maxLength)
    (fun limit => limit ≤ limits.maxListLength ∧ ∀ bound, maxLength = some bound → 0 ≤ limit ∧
      limit ≤ bound) := by
  cases maxLength with
  | none => exact Safe.pure ⟨Int.le_refl _, by simp⟩
  | some bound =>
    refine Action.Sound.ite (fun _ => Safe.fail rfl) fun nonneg => Safe.pure ⟨Int.min_le_left _ _, ?_⟩
    intro other equal
    cases equal
    omega

/-- A list within the configured length, and within the bound of the caller if there is one. -/
def ListWithin (limits : CodecLimits) (maxLength : Option Int) (values : List Int) : Prop :=
  values.length ≤ limits.maxListLength ∧ ∀ bound, maxLength = some bound → (values.length : Int) ≤ bound

theorem readI32List_safe (numeric : lengthField != .pad) (maxLength : Option Int) :
    Safe limits (readI32List lengthField maxLength) (ListWithin limits maxLength) := by
  refine .bind (unpack_safe numeric) fun count _ => .ofRead fun reader same => ?_
  rw [same]
  refine .bind (effectiveLimit_safe maxLength) fun limit bounded => ?_
  refine Action.Sound.ite (fun _ => Safe.fail rfl) fun within => Action.Sound.ite (fun _ => ?_) fun _ => ?_
  · refine Safe.pure ⟨Nat.zero_le _, fun bound equal => ?_⟩
    obtain ⟨nonneg, below⟩ := bounded.2 bound equal
    exact Int.le_trans nonneg below
  · refine .weaken (unpackAll_safe _) fun values length => ?_
    have replicated : Layout.count (List.replicate count.toNat (.signed 4)) = count.toNat := by
      simp [Layout.count, List.countP_replicate]
    refine ⟨by omega, fun bound equal => ?_⟩
    have := bounded.2 bound equal
    omega

/-- Every text of the structure stays within the configured string size. -/
def MessageWithin (limits : CodecLimits) (message : Message) : Prop :=
  TextWithin limits message.sender ∧ TextWithin limits message.text ∧ TextWithin limits message.recipient

def ChannelWithin (limits : CodecLimits) (channel : Channel) : Prop :=
  TextWithin limits channel.name ∧ TextWithin limits channel.topic

def ClientStatusWithin (limits : CodecLimits) (status : ClientStatus) : Prop :=
  TextWithin limits status.infoText ∧ TextWithin limits status.beatmapMd5

def UserStatsWithin (limits : CodecLimits) (stats : UserStats) : Prop :=
  TextWithin limits stats.infoText ∧ TextWithin limits stats.beatmapMd5

def MatchWithin (limits : CodecLimits) (value : MultiplayerMatch) : Prop :=
  TextWithin limits value.name ∧ TextWithin limits value.password ∧ TextWithin limits value.beatmapName ∧
    TextWithin limits value.beatmapMd5 ∧ value.slotStatuses.length = matchSlotCount ∧
    value.slotTeams.length = matchSlotCount ∧ value.slotUserIds.length = matchSlotCount

theorem readMessage_safe : Safe limits readMessage (MessageWithin limits) :=
  Safe.bind readString_safe fun _ sender => .bind readString_safe fun _ text =>
  Safe.bind readString_safe fun _ recipient => .field rfl fun _ => .pure ⟨sender, text, recipient⟩

theorem readChannel_safe : Safe limits readChannel (ChannelWithin limits) :=
  Safe.bind readString_safe fun _ name => .bind readString_safe fun _ topic =>
  Safe.field rfl fun _ => .pure ⟨name, topic⟩

theorem readClientStatus_safe : Safe limits readClientStatus (ClientStatusWithin limits) := by
  refine .field rfl fun action => .bind readString_safe fun infoText info => ?_
  refine .bind readString_safe fun beatmapMd5 checksum => .field rfl fun mods => .field rfl fun mode =>
    Safe.field rfl fun beatmapId => ?_
  unfold newClientStatus
  split
  · rename_i status accepted
    split at accepted
    · split at accepted
      · cases accepted
        exact .pure ⟨info, checksum⟩
      · cases accepted
    · cases accepted
  · rename_i failure rejected
    refine .fail ?_
    split at rejected
    · split at rejected
      · cases rejected
      · cases rejected
        rfl
    · cases rejected
      rfl

theorem readUserPresence_safe :
    Safe limits readUserPresence (fun presence => TextWithin limits presence.username) :=
  Safe.field rfl fun _ => .bind readString_safe fun _ username => .field rfl fun _ => .field rfl fun _ =>
  Safe.field rfl fun _ => .bind (readFloat_safe rfl) fun _ _ =>
    .bind (readFloat_safe rfl) fun _ _ => .field rfl fun _ =>
  Safe.pure username

theorem readUserStats_safe : Safe limits readUserStats (UserStatsWithin limits) :=
  Safe.field rfl fun _ => .field rfl fun _ => .bind readString_safe fun _ info =>
  Safe.bind readString_safe fun _ checksum => .field rfl fun _ => .field rfl fun _ => .field rfl fun _ =>
  Safe.field rfl fun _ => .bind (readFloat_safe rfl) fun _ _ => .field rfl fun _ =>
    .field rfl fun _ => .field rfl fun _ =>
  Safe.field rfl fun _ => .pure ⟨info, checksum⟩

theorem readSlotUser_safe (status : Int) : Safe limits (readSlotUser status) (fun _ => True) :=
  Action.Sound.ite (fun _ => Safe.field rfl fun _ => Safe.pure trivial) (fun _ => Safe.pure trivial)

theorem Safe.collect (each : Safe limits body post) (count : Nat) :
    Safe limits (Action.collect body count)
    (fun values => values.length = count ∧ ∀ value ∈ values, post value) :=
  Action.Sound.collect .refl (fun first second => .trans first second) each count

theorem readSlotMods_safe (freemods : Bool) : Safe limits (readSlotMods freemods) (fun _ => True) :=
  Action.Sound.ite (fun _ => Action.Sound.weaken (Safe.collect (unpack_safe rfl) _) fun _ _ => trivial)
    (fun _ => Safe.pure trivial)

theorem readMultiplayerMatch_safe : Safe limits readMultiplayerMatch (MatchWithin limits) := by
  refine .field rfl fun _ => .bind readBool_safe fun _ _ => .field rfl fun _ => .field rfl fun _ => ?_
  refine .bind readString_safe fun _ name => .bind readString_safe fun _ password => ?_
  refine .bind readString_safe fun _ beatmapName => .field rfl fun _ =>
    .bind readString_safe fun _ checksum => ?_
  refine .bind (.collect (unpack_safe rfl) _) fun _ statuses =>
    .bind (.collect (unpack_safe rfl) _) fun _ teams => ?_
  refine .bind (.collectOver .refl (fun first second => .trans first second)
    readSlotUser_safe _) fun _ users => .field rfl fun _ => ?_
  refine .field rfl fun _ => .field rfl fun _ => .field rfl fun _ => .bind readBool_safe fun freemods _ => ?_
  refine .bind (readSlotMods_safe freemods) fun _ _ => .field rfl fun _ => .pure ?_
  exact ⟨name, password, beatmapName, checksum, statuses.1, teams.1, users.1.trans statuses.1⟩

theorem readPortion_safe (scoreV2 : Bool) : Safe limits (readPortion scoreV2) (fun _ => True) :=
  Action.Sound.ite (fun _ => Safe.bind (readFloat_safe rfl) fun _ _ => Safe.pure trivial) (fun _ =>
    Safe.pure trivial)

theorem readScoreFrame_safe : Safe limits readScoreFrame (fun _ => True) := by
  refine .bind (unpackAll_safe scoreFrameStruct) fun values length => ?_
  match values, length with
  | [_, _, _, _, _, _, _, _, _, _, _, _, _, _, _], _ =>
    refine Action.Sound.ite (fun _ => Safe.fail rfl) fun _ =>
      Action.Sound.ite (fun _ => Safe.fail rfl) fun _ => ?_
    exact Safe.bind (readPortion_safe _) fun _ _ => Safe.bind (readPortion_safe _) fun _ _ =>
      Safe.pure trivial

theorem readReplayFrame_safe : Safe limits readReplayFrame (fun _ => True) := by
  refine .bind (unpackAll_safe replayFrameStruct) fun values length => ?_
  match values, length with
  | [_, _, _, _, _], _ => exact .pure trivial

theorem readReplayFrameBundle_safe :
    Safe limits readReplayFrameBundle (fun bundle => bundle.frames.length ≤ limits.maxFrameCount) := by
  refine .field rfl fun extra => .field rfl fun frameCount => ?_
  refine Safe.ofRead fun reader same => Action.Sound.ite (fun _ => Safe.fail rfl) fun within => ?_
  refine Safe.bind (readReplayFrame_safe.collect _) fun frames collected => Safe.field rfl fun value => ?_
  cases ReplayAction.ofValue? value with
  | none => exact Safe.fail rfl
  | some action =>
    refine .bind readScoreFrame_safe fun scoreFrame _ => .field rfl fun sequence => ?_
    refine .bind requireExhausted_safe fun _ _ => .pure ?_
    rw [same] at within
    rw [collected.1]
    omega

end PacketReader

end Perfcho.Stable
