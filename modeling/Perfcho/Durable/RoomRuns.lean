import Perfcho.Durable.Methods

/-! Runs of transactions. Each transaction that commits keeps the invariant of the
rooms, whatever its unlocked reads have seen. -/

namespace Perfcho.Durable

open Foundation Multiplayer List

section

variable {read tables after : Tables}

theorem Edit.presences (edit : Edit brought tables room session editedRoom edited
    after.presences.rows rounds frozen) :
    ∀ presence ∈ after.presences.rows, presence.sessionId = session.id ∧ presence.roomId = room.id ∨
      ∃ old ∈ tables.presences.rows, old.sessionId = presence.sessionId ∧ old.roomId = presence.roomId := by
  generalize after.presences.rows = presences at edit
  -- Leaving rewrites one presence and keeps where it was.
  have parted : ∀ presence ∈ tables.present session.id, ∀ now reason,
    ∀ other ∈ Table.replaced (·.id) tables.presences.rows
    { presence with leftAt := some now, leaveReason := some reason }, other.sessionId = session.id ∧
    other.roomId = room.id ∨ ∃ old ∈ tables.presences.rows, old.sessionId = other.sessionId ∧
    old.roomId = other.roomId := by
    intro presence stored now reason other member
    rcases mem_replaced member with rfl | ⟨old, _⟩
    · exact .inr ⟨presence, (mem_present.mp stored).1, rfl, rfl⟩
    · exact .inr ⟨other, old, rfl, rfl⟩
  cases edit with
  | joined sessionId roomId _ _ =>
    intro other member
    rcases of_mem_concat member with old | new
    · exact .inr ⟨other, old, rfl, rfl⟩
    · cases new
      exact .inl ⟨sessionId, roomId⟩
  | left stored _ => exact parted _ stored _ _
  | closed stored _ _ => exact parted _ stored _ _
  | revised => exact fun other member => .inr ⟨other, member, rfl, rfl⟩
  | started => exact fun other member => .inr ⟨other, member, rfl, rfl⟩
  | finished => exact fun other member => .inr ⟨other, member, rfl, rfl⟩

theorem Edit.framed (edit : Edit brought tables room session editedRoom edited after.presences.rows
    after.rounds.rows frozen)
    (different : other ≠ session.id) :
    after.present other = tables.present other ∧ after.playing other = tables.playing other := by
  generalize presences : after.presences.rows = presenceRows at edit
  generalize rounds : after.rounds.rows = roundRows at edit
  cases edit with
  | @joined presence sessionId _ current _ =>
    refine ⟨?_, playing_congr rounds other⟩
    rw [present_inserted presences current, if_neg (by rw [sessionId]; exact different.symm), append_nil]
  | left stored _ =>
    exact ⟨present_ended_elsewhere stored presences rfl rfl different, playing_congr rounds other⟩
  | closed stored _ finishes =>
    refine ⟨present_ended_elsewhere stored presences rfl rfl different, ?_⟩
    rw [playing_finished (rounds ▸ finishes), if_neg different]
  | revised => exact ⟨present_congr presences other, playing_congr rounds other⟩
  | @started round _ _ sessionId =>
    refine ⟨present_congr presences other, ?_⟩
    rw [Tables.playing, rounds, filter_append]
    simp [Tables.playing, sessionId, different.symm]
  | finished finishes =>
    refine ⟨present_congr presences other, ?_⟩
    rw [playing_finished (rounds ▸ finishes), if_neg different]

theorem Edit.healthy (healthy : Healthy tables room session) (active : room.status.active = true)
    (edit : Edit brought tables room session editedRoom edited after.presences.rows
      after.rounds.rows frozen) :
    Healthy after editedRoom edited := by
  obtain ⟨running, host, hostPresent, hostNamed⟩ := healthy.hosted active
  generalize presences : after.presences.rows = presenceRows at edit
  generalize rounds : after.rounds.rows = roundRows at edit
  -- An active room whose presences stay has nothing else to keep.
  have stays : ∀ (changedRoom : Room) (changed : MultiplayerSession), changed.id = session.id →
    changed.status = .active →
    changedRoom.capacity = room.capacity → changedRoom.status.active = true →
    after.presences.rows = tables.presences.rows →
    (∃ presence ∈ tables.present session.id, changed.hostAccountId = some presence.accountId) →
    Healthy after changedRoom changed := by
    intro changedRoom changed key status capacity open_ same hosted
    constructor
    · rw [key, present_congr same, capacity]
      exact healthy.bounded
    · intro _
      rw [key, present_congr same]
      exact ⟨status, hosted⟩
    · simp [open_]
  cases edit with
  | @joined presence sessionId _ current spare =>
    have present := present_inserted presences current session.id
    rw [if_pos sessionId] at present
    constructor
    · rw [present, length_append]
      exact spare
    · intro _
      rw [present]
      exact ⟨running, host, mem_append_left _ hostPresent, hostNamed⟩
    · simp [active]
  | @left presence heir now reason stored _ heirs =>
    have present := present_ended stored presences rfl rfl session.id
    constructor
    · rw [present]
      exact (length_filter_le _ _).trans healthy.bounded
    · intro _
      rw [present]
      refine ⟨running, ?_⟩
      rcases heirs with ⟨rfl, other⟩ | ⟨next, inside, different, rfl⟩
      · refine ⟨host, mem_filter.mpr ⟨hostPresent, decide_eq_true ?_⟩, hostNamed⟩
        rintro same
        exact other (hostNamed.trans (congrArg some same))
      · exact ⟨next, mem_filter.mpr ⟨inside, decide_eq_true different⟩, rfl⟩
    · simp [active]
  | closed stored last finishes =>
    have present := present_ended stored presences rfl rfl session.id
    have emptied : after.present session.id = [] := by
      rw [present, filter_eq_nil_iff]
      intro other member
      simp [last other member]
    constructor
    · rw [emptied]
      exact Nat.zero_le _
    · simp [RoomStatus.active]
    · intro _
      refine ⟨by simp, emptied, ?_⟩
      rw [playing_finished (rounds ▸ finishes), if_pos rfl]
  | @revised revised heir id publicId status capacity hosted _ =>
    refine stays _ _ rfl running capacity (by rw [status, active]) presences ?_
    rcases hosted with rfl | other
    · exact ⟨host, hostPresent, hostNamed⟩
    · exact other
  | started => exact stays _ _ rfl running rfl active presences ⟨host, hostPresent, hostNamed⟩
  | finished => exact stays _ _ rfl running rfl active presences ⟨host, hostPresent, hostNamed⟩

theorem Sound.edits (sound : Sound tables)
    (edits : Edits brought read tables commandId room session after) : Sound after := by
  obtain ⟨editedRoom, edited, _, _, edit, rooms, sessions, _⟩ := edits.edit
  obtain ⟨⟨roomStored, active⟩, sessionStored, named, _⟩ := mem_activeRooms.mp edits.found
  obtain ⟨roomKey, _, _, sessionKey, roomOf, _⟩ := edit.keyed
  exact sound.within edits.found rooms roomKey sessions sessionKey roomOf edit.presences
    (fun _ => edit.framed)
    (edit.healthy (sound.healthy room roomStored session sessionStored named) active)

theorem Opens.fresh (opens : Opens read tables request after) :
    (∀ room ∈ tables.rooms.rows, room.id ≠ request.roomId) ∧ ∀ session ∈ tables.sessions.rows,
    session.id ≠ request.sessionId := by
  obtain ⟨_, _, _, rooms, sessions, _⟩ := opens.rows
  exact ⟨fun room member => after.rooms.fresh_of_unique (mem_cons_self) rooms rfl room member rfl,
    fun session member => after.sessions.fresh_of_unique (mem_cons_self) sessions rfl session member rfl⟩

theorem Opens.framed (opens : Opens read tables request after) (different : other ≠ request.sessionId) :
    after.present other = tables.present other ∧ after.playing other = tables.playing other := by
  obtain ⟨_, presences⟩ := opens.presence
  refine ⟨?_, playing_congr (congrArg _ opens.rounds) other⟩
  rw [present_inserted presences rfl]
  simp [CreateRequest.presence, different.symm]

theorem Opens.present (sound : Sound tables) (opens : Opens read tables request after) :
    ∃ stamp, after.present request.sessionId = [request.presence stamp] := by
  obtain ⟨stamp, presences⟩ := opens.presence
  refine ⟨stamp, ?_⟩
  have nobody : tables.present request.sessionId = [] := by
    apply eq_nil_iff_forall_not_mem.mpr
    intro presence member
    obtain ⟨stored, _, inside⟩ := mem_present.mp member
    obtain ⟨session, old, key, _⟩ := sound.owned presence stored
    exact opens.fresh.2 session old (key.trans inside)
  rw [present_inserted presences rfl, nobody]
  simp [CreateRequest.presence]

theorem Sound.opens (sound : Sound tables) (opens : Opens read tables request after) : Sound after := by
  obtain ⟨publicId, now, stamp, rooms, sessions, _⟩ := opens.rows
  obtain ⟨_, presences⟩ := opens.presence
  obtain ⟨freshRoom, freshSession⟩ := opens.fresh
  have roomCases : ∀ room ∈ after.rooms.rows,
    room ∈ tables.rooms.rows ∨ room = request.room publicId (tables.epochs + 1) now := by
    intro room member
    simpa only [rooms, mem_append, mem_singleton] using member
  have sessionCases : ∀ session ∈ after.sessions.rows, session ∈ tables.sessions.rows ∨
    session = request.session stamp := by
    intro session member
    simpa only [sessions, mem_append, mem_singleton] using member
  have oldRoom : ∀ room ∈ tables.rooms.rows, room ∈ after.rooms.rows :=
    fun _ old => rooms ▸ mem_append_left _ old
  have oldSession : ∀ session ∈ tables.sessions.rows, session ∈ after.sessions.rows :=
    fun _ old => sessions ▸ mem_append_left _ old
  have newRoom : request.room publicId (tables.epochs + 1) now ∈ after.rooms.rows := rooms ▸ mem_concat_self
  have newSession : request.session stamp ∈ after.sessions.rows := sessions ▸ mem_concat_self
  -- No old session belongs to the new room.
  have apart : ∀ session ∈ tables.sessions.rows, session.roomId ≠ request.roomId := by
    intro session old same
    obtain ⟨room, stored, key⟩ := sound.housed session old
    exact freshRoom room stored (key.trans same)
  constructor
  · intro room member
    rcases roomCases room member with old | rfl
    · obtain ⟨session, stored, named⟩ := sound.started room old
      exact ⟨session, oldSession session stored, named⟩
    · exact ⟨_, newSession, rfl⟩
  · intro session member
    rcases sessionCases session member with old | rfl
    · obtain ⟨room, stored, key⟩ := sound.housed session old
      exact ⟨room, oldRoom room stored, key⟩
    · exact ⟨_, newRoom, rfl⟩
  · intro one first two second same
    rcases sessionCases one first with oldOne | rfl
    · rcases sessionCases two second with oldTwo | rfl
      · exact sound.single one oldOne two oldTwo same
      · exact absurd same.symm (apart one oldOne)
    · rcases sessionCases two second with oldTwo | rfl
      · exact absurd same (apart two oldTwo)
      · rfl
  · intro presence member
    rw [presences] at member
    rcases of_mem_concat member with old | new
    · obtain ⟨session, stored, key, named⟩ := sound.owned presence old
      exact ⟨session, oldSession session stored, key, named⟩
    · cases new
      exact ⟨_, newSession, rfl, rfl⟩
  · intro room member session stored named
    rcases sessionCases session stored with old | rfl
    · rcases roomCases room member with oldRoom | rfl
      · obtain ⟨present, playing⟩ := opens.framed (freshSession session old)
        exact (sound.healthy room oldRoom session old named).framed present playing
      · exact absurd named (apart session old)
    · rcases roomCases room member with oldRoom | rfl
      · exact absurd named.symm (freshRoom room oldRoom)
      obtain ⟨joined, alone⟩ := opens.present sound
      have capacity := after.rooms.passes_of_check (mem_cons_of_mem _ mem_cons_self) newRoom
      constructor
      · rw [show (request.session stamp).id = request.sessionId from rfl, alone]
        exact of_decide_eq_true (Bool.and_eq_true_iff.mp capacity).1
      · intro _
        rw [show (request.session stamp).id = request.sessionId from rfl, alone]
        exact ⟨rfl, _, mem_singleton_self _, rfl⟩
      · simp [CreateRequest.room, RoomStatus.active]

theorem Sound.change (sound : Sound tables) (change : Change read tables command after) : Sound after := by
  cases change with
  | unchanged => exact sound
  | opened _ opens => exact sound.opens opens
  | edited edits _ => exact sound.edits edits

end

section

/-- One step of the database: a command commits, with unlocked reads of any age, or a
transaction rolls back and leaves a gap in the epochs. -/
inductive Step : Tables → Tables → Prop where
  | commits {policies : Policies} {read tables after : Tables} {moment : Moment} {command : Command}
      {answer : Option RoomRecord}
      (ran : transact policies read tables moment command = .ok (answer, after)) :
      Step tables after
  | rollsBack {tables : Tables} {epochs : Nat} (issued : tables.epochs ≤ epochs) :
      Step tables { tables with epochs }

/-- The tables reached from an empty database. -/
inductive Reachable : Tables → Prop where
  | empty : Reachable .empty
  | step {tables after : Tables} (reached : Reachable tables) (step : Step tables after) : Reachable after

variable {tables after : Tables}

theorem Step.sound (step : Step tables after) (sound : Sound tables) : Sound after := by
  cases step with
  | commits ran => exact sound.change (transact_change ran)
  | rollsBack =>
    exact ⟨sound.started, sound.housed, sound.single, sound.owned, fun room stored session hosting named =>
      (sound.healthy room stored session hosting named).framed rfl rfl⟩

theorem Reachable.sound (reached : Reachable tables) : Sound tables := by
  induction reached with
  | empty => exact .empty
  | step _ step sound => exact step.sound sound

def Tables.occupants (tables : Tables) (roomId : Uuid) : List SessionPresence :=
  tables.presences.rows.filter fun presence => presence.current && decide (presence.roomId = roomId)

/-- A row that names a session and its room is of a room just if it is of its session. -/
theorem Sound.ofRoom_iff (sound : Sound tables) (stored : session ∈ tables.sessions.rows)
    (owned : ∃ owner ∈ tables.sessions.rows, owner.id = sessionId ∧ owner.roomId = roomId) :
    roomId = session.roomId ↔ sessionId = session.id := by
  obtain ⟨owner, owns, key, house⟩ := owned
  constructor
  · intro here
    rw [← key, sound.single session stored owner owns (house.trans here)]
  · intro here
    rw [← house, session_unique stored owns (key.trans here)]

theorem Sound.occupants_eq (sound : Sound tables) (stored : session ∈ tables.sessions.rows) :
    tables.occupants session.roomId = tables.present session.id := by
  apply filter_congr
  intro presence member
  rw [decide_eq_decide.mpr (sound.ofRoom_iff stored (sound.owned presence member))]

theorem Sound.active_iff (sound : Sound tables) (stored : room ∈ tables.rooms.rows) :
    room.status.active = true ↔ tables.occupants room.id ≠ [] := by
  obtain ⟨session, hosting, named⟩ := sound.started room stored
  have healthy := sound.healthy room stored session hosting named
  rw [← named, sound.occupants_eq hosting]
  constructor
  · intro active
    obtain ⟨_, presence, inside, _⟩ := healthy.hosted active
    exact ne_nil_of_mem inside
  · intro occupied
    by_contra inactive
    exact occupied (healthy.closed (by simpa using inactive)).2.1

theorem Step.room_kept (step : Step tables after) (stored : room ∈ tables.rooms.rows) :
    ∃ later ∈ after.rooms.rows, later.id = room.id := by
  cases step with
  | rollsBack => exact ⟨room, stored, rfl⟩
  | commits ran =>
    cases transact_change ran with
    | unchanged => exact ⟨room, stored, rfl⟩
    | opened _ opens =>
      obtain ⟨_, _, _, rooms, _, _⟩ := opens.rows
      exact ⟨room, rooms ▸ mem_append_left _ stored, rfl⟩
    | edited edits _ =>
      obtain ⟨editedRoom, edited, _, _, edit, rooms, _⟩ := edits.edit
      by_cases same : room.id = editedRoom.id
      · exact ⟨editedRoom, rooms ▸ row_mem_replaced stored same, same.symm⟩
      · exact ⟨room, rooms ▸ other_mem_replaced stored same, rfl⟩

/-- In every reachable database a room is active as long as somebody is in it: its
host is, no more are than fit, nobody is in two rooms, it closes in the step that ends
its last presence, and a session plays one round at a time while it is active. -/
theorem rooms_governed (reached : Reachable tables) : (∀ room ∈ tables.rooms.rows, room.status.active = true →
      ∃ session ∈ tables.sessions.rows, session.roomId = room.id ∧ session.status = .active ∧
        ∃ presence ∈ tables.occupants room.id, session.hostAccountId = some presence.accountId) ∧
    (∀ room ∈ tables.rooms.rows, (tables.occupants room.id).length ≤ room.capacity) ∧
    ((tables.presences.rows.filter (·.current)).map (·.accountId)).Nodup ∧
    (∀ room ∈ tables.rooms.rows, room.status.active = true ↔ tables.occupants room.id ≠ []) ∧
    (∀ after, Step tables after → ∀ room ∈ tables.rooms.rows, ∃ later ∈ after.rooms.rows,
      later.id = room.id ∧ ((room.status.active = true ∧ later.status.active = false) ↔
        tables.occupants room.id ≠ [] ∧ after.occupants room.id = [])) ∧
    ∀ session ∈ tables.sessions.rows, (tables.playing session.id).length ≤ 1 ∧
      (session.status ≠ .active → tables.playing session.id = []) := by
  have sound := reached.sound
  refine ⟨?_, ?_, current_accounts_nodup tables, fun room stored => sound.active_iff stored, ?_, ?_⟩
  · intro room stored active
    obtain ⟨session, hosting, named⟩ := sound.started room stored
    obtain ⟨running, host⟩ := (sound.healthy room stored session hosting named).hosted active
    refine ⟨session, hosting, named, running, ?_⟩
    rw [← named, sound.occupants_eq hosting]
    exact host
  · intro room stored
    obtain ⟨session, hosting, named⟩ := sound.started room stored
    rw [← named, sound.occupants_eq hosting]
    exact (sound.healthy room stored session hosting named).bounded
  · intro after step room stored
    obtain ⟨later, kept, key⟩ := step.room_kept stored
    refine ⟨later, kept, key, ?_⟩
    rw [sound.active_iff stored, ← Bool.not_eq_true, (step.sound sound).active_iff kept, key, not_not]
  · intro session stored
    constructor
    · rcases rounds : tables.playing session.id with _ | ⟨round, _ | ⟨other, rest⟩⟩
      · exact Nat.zero_le _
      · exact Nat.le_refl _
      -- Two rounds in the list would be one round twice, against the distinct keys.
      have same : other = round :=
        playing_unique (rounds ▸ mem_cons_self) (rounds ▸ mem_cons_of_mem _ mem_cons_self)
      have distinct := tables.rounds.nodup_of_unique (mem_cons_self)
      rw [filter_true] at distinct
      have sublist := (filter_sublist (l := tables.rounds.rows)
        (p := fun round => decide (round.status = .inProgress) &&
          decide (round.sessionId = session.id))).map (·.id)
      have twice := distinct.sublist sublist
      rw [show tables.rounds.rows.filter _ = _ from rounds, same] at twice
      simp at twice
    · intro ended
      obtain ⟨room, house, named⟩ := sound.housed session stored
      have healthy := sound.healthy room house session stored named.symm
      by_cases active : room.status.active = true
      · exact absurd (healthy.hosted active).1 ended
      · exact (healthy.closed (by simpa using active)).2.2

end

/-- Commands one after another, each reading what the one before it has committed. -/
def perform (policies : Policies) (tables : Tables) (turn : Moment × Command) : Tables :=
  match transact policies tables tables turn.1 turn.2 with
  | .ok (_, after) => after
  | .error _ => tables

theorem Reachable.performs (reached : Reachable tables) (turns : List (Moment × Command)) :
    Reachable (turns.foldl (perform policies) tables) := by
  induction turns generalizing tables with
  | nil => exact reached
  | cons turn rest ih =>
    apply ih
    unfold perform
    split
    · next ran => exact reached.step (.commits ran)
    · exact reached

/-- Everybody may play, every password fits. -/
def openPolicies : Policies where
  require _ _ _ := .ok ()
  verifyAdmission _ _ _ _ := .ok ()
  uuid5 _ _ := ⟨replicate 16 255, rfl⟩

def sampleKey (number : UInt8) : Uuid := ⟨replicate 16 number, rfl⟩

/-- A room for three, created with identifiers that follow a number. -/
def sampleCreate (command generated : UInt8) (actor : Nat) : Command := .create {
  commandId := sampleKey command, actor, connectionSessionId := sampleKey (100 + actor.toUInt8),
  settings := sampleSettings, capacity := 3, publicIdLimit := 64, protocol := "stable",
  passwordSalt := none, passwordVerifier := none, roomId := sampleKey generated,
  sessionId := sampleKey (generated + 1), presenceId := sampleKey (generated + 2) }

def sampleJoin (command : UInt8) (actor : Nat) : Command :=
  .join (sampleKey command) actor (sampleKey (100 + actor.toUInt8)) 1 "" (sampleKey (command + 1))

def sampleLeave (command : UInt8) (actor : Nat) : Command :=
  .leave (sampleKey command) actor (sampleKey (100 + actor.toUInt8)) 1

/-- Two accounts share a room, and its creator leaves it. -/
def handedOver : Tables :=
  [(⟨1, 0⟩, sampleCreate 10 11 1), (⟨2, 1⟩, sampleJoin 20 2), (⟨3, 2⟩, sampleLeave 30 1)].foldl
    (perform openPolicies) .empty

theorem handedOver_governed : (handedOver.rooms.rows.map (·.status.active) = [true] ∧
      handedOver.sessions.rows.map (·.hostAccountId) = [some 2]) ∧
    ∀ room ∈ handedOver.rooms.rows, room.status.active = true ↔ handedOver.occupants room.id ≠ [] :=
  ⟨by decide, (rooms_governed (Reachable.empty.performs _)).2.2.2.1⟩

end Perfcho.Durable
