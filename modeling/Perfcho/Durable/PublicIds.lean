import Perfcho.Durable.Admission

/-! The public identifier of a new room: the lowest one that no active room has. -/

namespace Perfcho.Durable

open Foundation Multiplayer List Nat

def Tables.Taken (tables : Tables) (publicId : Nat) : Prop :=
  ∃ room ∈ tables.rooms.rows, room.status.active = true ∧ room.publicId = publicId

theorem nextPublicId_least (rising : ids.Pairwise (· < ·)) (start : Nat) :
    IsLeast {publicId | start ≤ publicId ∧ publicId ∉ ids} (nextPublicId start ids) := by
  induction ids generalizing start with
  | nil => exact ⟨⟨le_refl _, not_mem_nil⟩, fun _ free => free.1⟩
  | cons first rest ih =>
    obtain ⟨above, rising⟩ := pairwise_cons.mp rising
    unfold nextPublicId
    split
    · next same =>
      subst same
      obtain ⟨⟨later, free⟩, least⟩ := ih rising (first + 1)
      refine ⟨⟨le_of_succ_le later, ?_⟩, ?_⟩
      · exact fun member => (mem_cons.mp member).elim (ne_of_gt later) free
      · rintro publicId ⟨from_, unused⟩
        obtain ⟨different, unused⟩ := not_or.mp (mt mem_cons.mpr unused)
        exact least ⟨lt_of_le_of_ne from_ (Ne.symm different), unused⟩
    · next different =>
      split
      · next gap =>
        refine ⟨⟨le_refl _, fun member => ?_⟩, fun _ free => free.1⟩
        rcases mem_cons.mp member with same | member
        · exact different same.symm
        · exact lt_asymm gap (above start member)
      · next passed =>
        obtain ⟨⟨later, free⟩, least⟩ := ih rising start
        refine ⟨⟨later, fun member => (mem_cons.mp member).elim (fun same => ?_) free⟩, ?_⟩
        · omega
        · exact fun publicId unused => least ⟨unused.1, fun member => unused.2 (.tail _ member)⟩

theorem dedup_rising (ids : List Nat) : (ids.dedup.insertionSort (· ≤ ·)).Pairwise (· < ·) := by
  have distinct : (ids.dedup.insertionSort (· ≤ ·)).Nodup :=
    (perm_insertionSort _ _).nodup_iff.mpr ids.nodup_dedup
  exact (pairwise_insertionSort _ _).imp₂ (fun _ _ => lt_of_le_of_ne) distinct

theorem freePublicId_least (read : Tables) (limit : Nat) :
    IsLeast {publicId | 1 ≤ publicId ∧ ¬ (read.Taken publicId ∧ publicId ≤ limit)}
    (freePublicId read limit) := by
  have least : IsLeast _ (freePublicId read limit) := nextPublicId_least (dedup_rising _) 1
  simpa only [mem_insertionSort, mem_dedup, mem_filter, mem_map, decide_eq_true_eq, Tables.Taken,
    and_assoc] using least

theorem limit_lt_freePublicId (read : Tables) (limit : Nat) :
    limit < freePublicId read limit ↔ ∀ publicId, 1 ≤ publicId → publicId ≤ limit → read.Taken publicId := by
  obtain ⟨⟨positive, free⟩, least⟩ := freePublicId_least read limit
  constructor
  · intro full publicId from_ within
    by_contra unused
    exact lt_irrefl _ (lt_of_lt_of_le full ((least ⟨from_, fun taken => unused taken.1⟩).trans within))
  · intro full
    by_contra within
    exact free ⟨full _ positive (Nat.le_of_not_lt within), Nat.le_of_not_lt within⟩

section

variable {failure : Failure} {message : String}

theorem bind_ne_error {first : Except Failure Value} {next : Value → Except Failure Next}
    (head : first ≠ .error failure) (tail : ∀ value, next value ≠ .error failure) :
    (first >>= next) ≠ .error failure := by
  cases first with
  | error other => exact fun same => head (congrArg _ (Except.error.inj same))
  | ok value => exact tail value

theorem integrity_ne_full (result : Except String Value) :
    integrity result ≠ .error (.matchFull message) := by
  cases result <;> intro full <;> cases full

theorem mapped_ne_full (result : Except String Value) : mapped result ≠ .error (.matchFull message) := by
  cases result with
  | ok =>
    intro full
    cases full
  | error name =>
    intro same
    have named : mapIntegrityError name = .matchFull message := Except.error.inj same
    unfold mapIntegrityError at named
    split_ifs at named

theorem record_ne_full (room : Room) (session : MultiplayerSession) :
    record room session ≠ .error (.matchFull message) := by
  intro full
  unfold record at full
  split at full
  · cases full
  · unfold RoomRecord.new at full
    split_ifs at full <;> cases full

end

/-- A room is refused for want of an identifier exactly if all of them are taken up to the
limit, and a room that is created has the lowest one that is not. -/
theorem createRoom_publicId {read tables : Tables} {request : CreateRequest} {moment : Moment}
    (unanswered : read.findCommandRoom request.commandId = .ok none)
    (alone : read.findRoomForAccount request.actor = .ok none) :
    (createRoom read tables moment request = .error
      (.matchFull "no multiplayer room identifiers are available") ↔
      ∀ publicId, 1 ≤ publicId → publicId ≤ request.publicIdLimit → read.Taken publicId) ∧
    ∀ made after, createRoom read tables moment request = .ok (made, after) →
      IsLeast {publicId | 1 ≤ publicId ∧ ¬ read.Taken publicId} made.publicId := by
  obtain ⟨⟨positive, free⟩, least⟩ := freePublicId_least read request.publicIdLimit
  rw [← limit_lt_freePublicId]
  unfold createRoom
  rw [unanswered, ok_bind]
  dsimp only
  rw [alone, ok_bind]
  dsimp only
  split
  · next full => exact ⟨iff_of_true rfl full, fun _ _ ran => by cases ran⟩
  next within =>
  refine ⟨iff_of_false ?_ within, fun made after ran => ?_⟩
  · refine bind_ne_error (integrity_ne_full _) fun _ => bind_ne_error (integrity_ne_full _) fun _ => ?_
    refine bind_ne_error (mapped_ne_full _) fun _ => bind_ne_error (mapped_ne_full _) fun _ => ?_
    refine bind_ne_error ?_ fun _ => bind_ne_error (record_ne_full _ _) fun _ => nofun
    unfold appendEvent
    split
    · nofun
    · exact bind_ne_error (mapped_ne_full _) fun _ => nofun
  · obtain ⟨_, _, _, _, ran⟩ := of_bind_bind_eq_ok ran
    obtain ⟨_, _, _, _, ran⟩ := of_bind_bind_eq_ok ran
    obtain ⟨_, _, _, recorded, ran⟩ := of_bind_bind_eq_ok ran
    cases ran
    rw [show made.publicId = freePublicId read request.publicIdLimit from (record_eq_ok recorded).2.1]
    exact ⟨⟨positive, fun taken => free ⟨taken, Nat.le_of_not_lt within⟩⟩,
      fun publicId unused => least ⟨unused.1, fun taken => unused.2 taken.1⟩⟩

/-- A second room, next to the one that has identifier one. -/
def secondRequest (limit : Nat) : CreateRequest :=
  { guardedRequest "" with commandId := sampleKey 40, actor := 2, publicIdLimit := limit }

theorem secondRequest_full : createRoom (guarded "") (guarded "") ⟨2, 1⟩ (secondRequest 1) =
    .error (.matchFull "no multiplayer room identifiers are available") := by
  have unanswered : (guarded "").findCommandRoom (secondRequest 1).commandId = .ok none := rfl
  have alone : (guarded "").findRoomForAccount (secondRequest 1).actor = .ok none := rfl
  refine (createRoom_publicId unanswered alone).1.mpr fun publicId from_ within => ?_
  obtain rfl : publicId = 1 := le_antisymm within from_
  have taken : ∃ room ∈ (guarded "").rooms.rows, room.status.active = true ∧ room.publicId = 1 := by decide
  exact taken

end Perfcho.Durable
