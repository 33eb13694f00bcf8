import Perfcho.Multiplayer.Playing
import Perfcho.Scoring.Normalization
import Perfcho.Service.Laws

/-! Rounds in the projections. Whoever takes part is a participant of the round, and a
participant plays until it completes, fails or leaves, or the round ends. Both need that
no client sets a status that does not belong there, which nothing checks. -/

namespace Perfcho.Service

open Foundation Multiplayer Durable Redis

variable {Blob : Type} (service : MultiplayerService Blob) {row : RoundParticipant}
  {presence : SessionPresence} {state : RoomState} {tables : Tables} {account : Nat}

/-- Participants take part, and their rows say where they sit. -/
def playLaw : Law where
  settings _ := True
  state := Rightful
  row _ row := row.slotNumber.isSome

/-- A status that belongs where it is set: one of a round only during a round, and for
somebody who plays only that of having completed it. Whoever joins or leaves does so in
the session that the state is of. -/
def KeepsPlay (state : RoomState) : Mutation → Prop
  | .setSlotStatus account status => (status.busy = true → state.inProgress = true) ∧
      (Playing state account → status.busy = true)
  | .join record _ _ | .leave _ record => record.sessionId = state.room.sessionId
  | _ => True

/-- The calls that set no other status. A change of settings and the end of a round are
not repeated commands. -/
def SparesPlay (world : World Blob) : Call → Prop
  | .state task => ∀ room mutation state, task.target = some room → task.mutation = some mutation →
      Holds service.repo room world.store state → KeepsPlay state mutation
  | .commit _ (.updateSettings commandId _ _ _ _) => world.tables.commandApplied commandId = false
  | .commit _ (.completeRound commandId _ _ _ _ _) => world.tables.commandApplied commandId = false
  | _ => True

/-- The calls after which an account plays on: it does not complete the round and does
not fail. -/
def PlaysOn (room account : Nat) : Call → Prop
  | .state task => task.target = some room → ∀ mutation, task.mutation = some mutation →
      ¬ mutation.Stops account
  | _ => True

variable {service} {world after : World Blob}

theorem playLaw_keeps : playLaw.Keeps service (SparesPlay service) where
  alike same rightful := by
    intro slot member
    rw [same.round, same.frozen]
    exact rightful slot (same.slots ▸ member)
  opens _ _ := trivial
  settles _ _ _ _ _ := trivial
  rebuilt facts _ _ _ := facts.rightful
  retained _ _ _ _ retained rightful := rightful.retained retained
  edited allowed edits target holds asked edited rightful := by
    apply rightful.edited edited
    rintro account status rfl busy
    have progress := (allowed _ _ _ target edits holds).1 busy
    exact ⟨by rw [← RoomState.progress, progress], asked progress⟩
  transit := by
    intro world moment command record active state next allowed transit _ _ rightful
    cases transit with
    | settings _ built => exact settingsUpdated_rightful built
    | host built | password built =>
      obtain ⟨_, round, frozen, slots⟩ := recordChanged_eq_ok built
      intro slot member
      rw [round, frozen]
      exact rightful slot (slots ▸ member)
    | started idle selected built => exact rightful.started idle selected built
    | completed built => exact rightful.completed built
  freezes := by
    intro state participants participant roundId row _ _ _ _ frozen
    simp [playLaw, frozen.slot]

section

variable {tables : Tables}

/-- A participant who is present is in the snapshot of the round. -/
theorem mem_of_roundSelections
    (ran : tables.roundSelections roundId accounts = .ok participants)
    (stored : row ∈ tables.roundParticipants.rows) (round : row.roundId = roundId)
    (placed : row.slotNumber.isSome) (present : row.accountId ∈ accounts) :
    row.accountId ∈ participants.map (·.accountId) := by
  obtain ⟨slot, located⟩ := Option.isSome_iff_exists.mp placed
  obtain ⟨participant, chosen, account, _⟩ :=
    exists_related (roundSelections_eq_ok ran) (mem_placedRows.mpr ⟨stored, round, present, located⟩)
  exact List.mem_map.mpr ⟨participant, chosen, account⟩

theorem mem_listParticipants (present : presence ∈ tables.present room.sessionId) :
    presence.accountId ∈ tables.listParticipantAccountIds room := by
  have listed : presence.accountId ∈ ((tables.present room.sessionId).insertionSort
    SessionPresence.Before).map (·.accountId) :=
    List.mem_map.mpr ⟨presence, (List.perm_insertionSort _ _).mem_iff.mpr present, rfl⟩
  unfold Tables.listParticipantAccountIds
  dsimp only
  split
  · by_cases host : presence.accountId = room.hostAccountId
    · exact host ▸ List.mem_cons_self
    · exact List.mem_cons_of_mem _ (List.mem_filter.mpr ⟨listed, decide_eq_true host⟩)
  · exact listed

theorem Current.selected {round : Round} (current : Current tables snapshot)
    (playing : round ∈ tables.playing snapshot.room.sessionId)
    (present : presence ∈ tables.present snapshot.room.sessionId)
    (stored : row ∈ tables.roundParticipants.rows) (ofRound : row.roundId = round.id)
    (ofAccount : row.accountId = presence.accountId) (placed : row.slotNumber.isSome) :
    snapshot.roundId = some round.id ∧ presence.accountId ∈ snapshot.roundParticipants.map (·.accountId) := by
  obtain ⟨_, ran⟩ := current
  obtain ⟨_, _, accounts, ⟨_, none⟩ | ⟨other, active, roundId, selects⟩⟩ := loadSnapshot_eq_ok ran
  · rw [none] at playing
    cases playing
  obtain rfl := playing_unique playing active
  refine ⟨roundId, ?_⟩
  rw [← ofAccount]
  apply mem_of_roundSelections selects stored ofRound placed
  rw [accounts, ofAccount]
  exact mem_listParticipants present

end

section

/-- A participant of a round in progress who is present in its session. -/
structure Partakes (tables : Tables) (round : Round) (presence : SessionPresence)
    (row : RoundParticipant) : Prop where
  playing : round ∈ tables.playing presence.sessionId
  present : presence ∈ tables.present presence.sessionId
  stored : row ∈ tables.roundParticipants.rows
  ofRound : row.roundId = round.id
  ofAccount : row.accountId = presence.accountId
  placed : row.slotNumber.isSome

/-- A state of a round in which an account plays. -/
structure PlaysIn (round : Uuid) (account : Nat) (state : RoomState) : Prop where
  round : state.roundId = some round
  frozen : account ∈ state.roundParticipantAccountIds
  playing : Playing state account

/-- While it takes part, a participant plays in whatever is stored for the room. -/
structure Stays (service : MultiplayerService Blob) (room : Nat) (round : Round)
    (presence : SessionPresence) (row : RoundParticipant) (world : World Blob) : Prop where
  knownPresence : ∃ old ∈ world.tables.presences.rows, old.id = presence.id
  knownRound : ∃ old ∈ world.tables.rounds.rows, old.id = round.id
  knownRow : row ∈ world.tables.roundParticipants.rows
  plays : Partakes world.tables round presence row → ∀ state, Holds service.repo room world.store state →
    state.room.sessionId = presence.sessionId → PlaysIn round.id presence.accountId state

variable {room : Nat} {round : Round} {presence : SessionPresence} {row : RoundParticipant}

theorem PlaysIn.alike (plays : PlaysIn roundId account state) (same : Alike state next) :
    PlaysIn roundId account next := by
  refine ⟨same.round.trans plays.round, same.frozen ▸ plays.frozen, ?_⟩
  unfold Playing
  rw [same.slots]
  exact plays.playing

theorem Partakes.rebuilt
    (partakes : Partakes tables round presence row) (current : Current tables snapshot)
    (rebuilt : Rebuilt snapshot state) (session : snapshot.room.sessionId = presence.sessionId) :
    PlaysIn round.id presence.accountId state := by
  obtain ⟨roundId, selected⟩ := current.selected (session ▸ partakes.playing)
    (session ▸ partakes.present) partakes.stored partakes.ofRound partakes.ofAccount partakes.placed
  rw [← rebuilt.frozen] at selected
  exact ⟨rebuilt.round.trans roundId, selected, rebuilt.playing selected⟩

theorem Stays.shown
    (stays : Stays service room round presence row world)
    (partakes : Partakes world.tables round presence row)
    (shown : Shown service permitted world room state)
    (session : state.room.sessionId = presence.sessionId) : PlaysIn round.id presence.accountId state := by
  cases shown with
  | projected _ _ holds _ => exact stays.plays partakes state holds session
  | recovered current _ built degraded =>
    subst degraded
    have rebuilt := stateFromSnapshot_eq_ok built
    exact (partakes.rebuilt current rebuilt (rebuilt.room ▸ session)).alike (.withStatus _ _)

theorem Stays.of_tables (stays : Stays service room round presence row world)
    (tables : after.tables = world.tables)
    (plays : Partakes world.tables round presence row → ∀ state, Holds service.repo room after.store state →
      state.room.sessionId = presence.sessionId → PlaysIn round.id presence.accountId state) :
    Stays service room round presence row after := by
  refine ⟨?_, ?_, ?_, ?_⟩
  all_goals rw [tables]
  · exact stays.knownPresence
  · exact stays.knownRound
  · exact stays.knownRow
  · exact plays

theorem Stays.writes (stays : Stays service room round presence row world)
    (tables : after.tables = world.tables) (puts : Puts service.repo world.store after.store target next)
    (put : Partakes world.tables round presence row → target = room → ∀ state, next = some state →
      state.room.sessionId = presence.sessionId → PlaysIn round.id presence.accountId state) :
    Stays service room round presence row after := by
  apply stays.of_tables tables
  intro partakes state holds session
  rcases puts.held holds with ⟨same, new⟩ | old
  · exact put partakes same.symm state new session
  · exact stays.plays partakes state old session

theorem Partakes.before (partakes : Partakes later round presence row) (lasting : Lasting tables later)
    (known : ∃ old ∈ tables.presences.rows, old.id = presence.id)
    (knownRound : ∃ old ∈ tables.rounds.rows, old.id = round.id)
    (stored : row ∈ tables.roundParticipants.rows) : Partakes tables round presence row :=
  ⟨lasting.playing _ _ partakes.playing knownRound, lasting.present _ _ partakes.present known,
    stored, partakes.ofRound, partakes.ofAccount, partakes.placed⟩

/-- A step that commits: what was stored before has somebody playing who takes part
afterwards. -/
theorem Stays.commits (stays : Stays service room round presence row world)
    (lasting : Lasting world.tables after.tables)
    (plays : Partakes world.tables round presence row → Partakes after.tables round presence row →
      ∀ state, Holds service.repo room after.store state → state.room.sessionId = presence.sessionId →
      PlaysIn round.id presence.accountId state) : Stays service room round presence row after := by
  obtain ⟨old, there, same⟩ := stays.knownPresence
  obtain ⟨before, found, key⟩ := stays.knownRound
  obtain ⟨later, stored, kept⟩ := lasting.presence old there
  obtain ⟨laterRound, storedRound, keptRound⟩ := lasting.round before found
  refine ⟨⟨later, stored, kept.trans same⟩, ⟨laterRound, storedRound, keptRound.trans key⟩,
    lasting.frozen row stays.knownRow, ?_⟩
  exact fun partakes => plays
    (partakes.before lasting stays.knownPresence stays.knownRound stays.knownRow) partakes

/-- The next state of a committed command has the participant playing, if it still takes
part. -/
theorem Stays.transit {committed : Committed} {record : RoomRecord}
    (stays : Stays service room round presence row world) (kept : Kept service world)
    (allowed : SparesPlay service world (.commit moment command))
    (ran : commit world.tables service.policies moment command = .ok (committed, tables))
    (hosted : command.hosted = some (room, commandId))
    (unanswered : world.tables.findCommandRoom commandId = .ok none)
    (shown : Shown service permitted world room state) (session : state.room.sessionId = presence.sessionId)
    (hosts : Hosts world.tables room presence.sessionId)
    (transit : Transit service state record active command next)
    (partakes : Partakes world.tables round presence row)
    (still : Partakes tables round presence row) : PlaysIn round.id presence.accountId next := by
  have plays := stays.shown partakes shown session
  have transacted := (commit_eq_ok ran).1
  cases transit with
  | settings =>
    cases hosted
    obtain ⟨found, active, located, public_, idle⟩ := transact_halts rfl unanswered allowed transacted
    have playing := partakes.playing
    rw [← hosts.unique kept.sound ⟨found, active, located, public_, rfl⟩, idle] at playing
    cases playing
  | host built | password built =>
    obtain ⟨_, sameRound, frozen, slots⟩ := recordChanged_eq_ok built
    refine ⟨sameRound.trans plays.round, frozen ▸ plays.frozen, ?_⟩
    unfold Playing
    rw [slots]
    exact plays.playing
  | started idle =>
    rw [state.progress, plays.round] at idle
    cases idle
  | completed =>
    cases hosted
    obtain ⟨found, active, located, public_, idle⟩ := transact_halts rfl unanswered allowed transacted
    have playing := still.playing
    rw [← hosts.unique kept.sound ⟨found, active, located, public_, rfl⟩, idle] at playing
    cases playing

theorem Shown.hosts (shown : Shown service permitted world room state) :
    Hosts world.tables room state.room.sessionId := by
  cases shown with
  | projected current keyed _ inStep => exact keyed ▸ inStep.session ▸ current.standing.hosts
  | recovered current keyed built degraded =>
    subst degraded
    have same := (stateFromSnapshot_eq_ok built).room
    have hosts := current.standing.hosts
    rw [keyed, ← same] at hosts
    exact hosts

theorem Stays.move (kept : Kept service world)
    (move : Move service (fun world call => SparesPlay service world call ∧
      PlaysOn room presence.accountId call) world after)
    (stays : Stays service room round presence row world) : Stays service room round presence row after := by
  cases move with
  | quiet tables same =>
    apply stays.of_tables tables
    exact fun partakes state holds =>
      stays.plays partakes state (holds.of_rooms_eq (congrFun same.rooms room).symm)
  | fades _ tables fades => exact stays.writes tables fades.puts (by simp)
  | drops tables _ puts => exact stays.writes tables puts (by simp)
  | commits _ _ ran store =>
    apply stays.commits (transact_change (commit_eq_ok ran).1).lasting
    rw [store]
    exact fun before _ => stays.plays before
  | @creates _ _ _ bounded _ tables current _ built bounds puts =>
    have rebuilt := stateFromSnapshot_eq_ok built
    obtain ⟨shown, _, slots, _, sameRound, frozen⟩ := RoomState.replaced_eq_ok bounds
    apply stays.writes tables puts
    rintro partakes _ _ ⟨⟩ session
    have plays := partakes.rebuilt current rebuilt <| by
      rw [← session, ← rebuilt.room]
      exact (congrArg RoomRecord.sessionId shown).symm
    have settings : bounded.room.settings = _ := congrArg RoomRecord.settings shown
    exact (plays.alike ⟨settings, slots, sameRound, frozen⟩).alike (.sanitized _)
  | repairs _ tables current holds reconciled puts =>
    apply stays.writes tables puts
    rintro partakes rfl _ ⟨⟩ session
    rcases reconcile_updated reconciled with ⟨sameSession, sameRound, retained⟩ | ⟨_, rebuilt, facts, rfl⟩
    · have old := stays.plays partakes _ holds (sameSession.trans (retained.room ▸ session))
      have plays : PlaysIn round.id presence.accountId _ :=
        ⟨retained.round.trans old.round, retained.frozen ▸ old.frozen,
          old.playing.retained retained old.frozen⟩
      exact plays.alike (.sanitized _)
    · have plays := partakes.rebuilt current facts (facts.room ▸ session)
      exact (plays.alike (.withRevision _ _)).alike (.sanitized _)
  | @edits _ mutation _ _ state updated allowed edits target _ tables holds _ built puts =>
    have edited := Mutation.apply_edited built
    apply stays.writes tables puts
    rintro partakes rfl _ ⟨⟩ session
    have keeps := allowed.1 _ _ _ target edits holds
    have same : updated.room.sessionId = state.room.sessionId := by
      rw [edited.room]
      cases mutation with
      | join | leave => exact keeps
      | _ => rfl
    have old := stays.plays partakes state holds (same.symm.trans session)
    have playing := old.playing.edited edited old.frozen (allowed.2 target mutation edits)
    exact (PlaysIn.mk (edited.round.trans old.round) (edited.frozen ▸ old.frozen) playing).alike
      (.sanitized _)
  | replaces allowed _ ran hosted unanswered answered shown _ _ _ transit puts =>
    obtain ⟨change, serves⟩ := commit_record hosted unanswered ran answered
    apply stays.commits change.lasting
    intro before partakes state holds session
    rcases puts.held holds with ⟨rfl, new⟩ | old
    · cases new
      have known : Known world.tables presence.sessionId := by
        obtain ⟨owner, hosting, same, _⟩ := kept.sound.owned presence (mem_present.mp before.present).1
        exact ⟨owner, hosting, same⟩
      have hosts : Hosts world.tables room presence.sessionId := by
        apply change.hosted kept.sound known
        rw [← session]
        have standing := serves.standing.1.hosts
        rw [serves.standing.2, ← transit.room] at standing
        exact standing
      have shownSession := hosts.unique kept.sound (shown.hosts)
      exact (stays.transit kept allowed.1 ran hosted unanswered shown shownSession hosts transit
        before partakes).alike
        (.sanitized _)
    · exact stays.plays before state old session

theorem Stays.wait (elapses : Elapses world after) (stays : Stays service room round presence row world) :
    Stays service room round presence row after := by
  apply stays.of_tables elapses.tables
  intro partakes state holds
  rcases elapses.rooms room with same | ⟨gone, _⟩
  · exact stays.plays partakes state (holds.of_rooms_eq same.symm)
  · obtain ⟨_, found⟩ := holds.stored
    rw [gone] at found
    cases found

end

/-- In a run that sets no status out of place, a slot is playing or complete only during
a round and for a participant of it. From there on a participant plays as long as it
neither completes nor fails, is present, and the round is in progress. -/
theorem rounds_played (runs : Runs service (SparesPlay service) (fun _ _ => True) (.empty clock) world) :
    (∀ room state, Holds service.repo room world.store state → ∀ slot ∈ state.slots,
      slot.status = .playing ∨ slot.status = .complete → state.inProgress = true ∧
        ∃ account ∈ state.roundParticipantAccountIds, slot.accountId = some account) ∧
    ∀ (room : Nat) (state : RoomState) (round : Round) (presence : SessionPresence) (row : RoundParticipant),
      Holds service.repo room world.store state → state.room.sessionId = presence.sessionId →
      state.roundId = some round.id → Playing state presence.accountId →
      round ∈ world.tables.playing presence.sessionId → presence ∈ world.tables.present presence.sessionId →
      row ∈ world.tables.roundParticipants.rows → row.roundId = round.id →
      row.accountId = presence.accountId →
      ∀ after, Runs service (fun world call => SparesPlay service world call ∧
          PlaysOn room presence.accountId call) (fun _ _ => True) world after →
        round ∈ after.tables.playing presence.sessionId → presence ∈ after.tables.present presence.sessionId →
        ∀ later, Holds service.repo room after.store later → later.room.sessionId = presence.sessionId →
          Playing later presence.accountId := by
  have rules := playLaw_keeps.runs runs
  have kept : Kept service world :=
    (Runs.preserves (fun _ => True) runs (fun _ _ held => held) (fun _ _ held => held)
      (.empty clock) trivial).1
  constructor
  · intro room state holds slot member status
    have busy : slot.status.busy = true := by rcases status with status | status <;> rw [status] <;> rfl
    obtain ⟨round, frozen⟩ := (rules.stored room state holds).state slot member busy
    exact ⟨by rw [state.progress, round], frozen⟩
  · intro room state round presence row holds session roundId plays playing present stored ofRound
      ofAccount after onward
    have placed : row.slotNumber.isSome := rules.rows row stored round (mem_playing.mp playing).1 ofRound.symm
    have frozen := ((rules.stored room state holds).state.frozen plays).2
    have start : Stays service room round presence row world := by
      refine ⟨⟨presence, (mem_present.mp present).1, rfl⟩, ⟨round, (mem_playing.mp playing).1, rfl⟩,
        stored, ?_⟩
      intro _ other holds' _
      rw [holds'.unique holds]
      exact ⟨roundId, frozen, plays⟩
    obtain ⟨_, stays⟩ := Runs.preserves (Stays service room round presence row) onward .move
      (fun elapses _ => .wait elapses) kept start
    intro still there later holds' session'
    exact (stays.plays ⟨still, there, stays.knownRow, ofRound, ofAccount, placed⟩ later holds'
      session').playing

/-- The account, the status and the round of a slot that is projected. -/
def projectedStatus (world : World RoomState) (position : Nat) : Option (Option Nat × SlotStatus × Bool) :=
  (content plainRepo 1 world.store).bind fun state =>
    (state.slots[position]?).map fun slot => (slot.accountId, slot.status, state.inProgress)

/-- A client completes a round that nobody has started. -/
def completedWorld : World RoomState :=
  [sampleOpening sampleSettings 2, .setSlotStatus 1 1 .complete].foldl (serve plainService) (.empty 0)

/-- A client says that it is ready while it plays. -/
def readyWorld : World RoomState :=
  [sampleOpening sampleSettings 2, .startRound (sampleOrigin 1 "start" 2) 1 1 sampleRound,
    .setSlotStatus 1 1 .ready].foldl (serve plainService) (.empty 0)

theorem statuses_unchecked :
    (Reached plainService completedWorld ∧
      projectedStatus completedWorld 0 = some (some 1, .complete, false)) ∧
      (Reached plainService readyWorld ∧
        projectedStatus readyWorld 0 = some (some 1, .ready, true) ∧
        readyWorld.tables.rounds.rows.map (·.status) = [.inProgress]) :=
  ⟨⟨reached_sample _, by decide +kernel⟩, reached_sample _, by decide +kernel, by decide +kernel⟩

instance (state : RoomState) (account : Nat) : Decidable (Playing state account) :=
  inferInstanceAs (Decidable (∃ _ ∈ _, _))

instance (state : RoomState) : (mutation : Mutation) → Decidable (KeepsPlay state mutation)
  | .setSlotStatus .. => inferInstanceAs (Decidable (_ ∧ _))
  | .join .. | .leave .. => inferInstanceAs (Decidable (_ = _))
  | .moveSlot .. | .lockSlot .. | .setSlotTeam .. | .setSlotMods ..
  | .markLoaded _ | .markSkipped _ | .markFailed _ => inferInstanceAs (Decidable True)

instance (account : Nat) : (mutation : Mutation) → Decidable (mutation.Stops account)
  | .setSlotStatus .. => inferInstanceAs (Decidable (_ ∧ _))
  | .markFailed .. => inferInstanceAs (Decidable (_ = _))
  | .moveSlot .. | .lockSlot .. | .setSlotTeam .. | .setSlotMods ..
  | .markLoaded _ | .markSkipped _ | .join .. | .leave .. => inferInstanceAs (Decidable False)

def playTest (world : World RoomState) : Call → Bool
  | .state task =>
    match task.target, task.mutation with
    | some room, some mutation => (content plainRepo room world.store).all (KeepsPlay · mutation)
    | _, _ => true
  | .commit _ (.updateSettings commandId _ _ _ _) => !world.tables.commandApplied commandId
  | .commit _ (.completeRound commandId _ _ _ _ _) => !world.tables.commandApplied commandId
  | _ => true

theorem sparesPlay_of_test (world : World RoomState) (call : Call)
    (passed : playTest world call = true) : SparesPlay plainService world call := by
  cases call with
  | state task =>
    intro room mutation state target edits holds
    simp only [playTest, target, edits] at passed
    rw [show content plainRepo room world.store = some state from holds.content] at passed
    exact of_decide_eq_true passed
  | commit moment command =>
    cases command with
    | updateSettings | completeRound =>
      change world.tables.commandApplied _ = false
      simpa [playTest] using passed
    | _ => trivial
  | _ => trivial

def onwardTest (room account : Nat) : Call → Bool
  | .state task => task.target ≠ some room || task.mutation.all fun mutation =>
    !decide (mutation.Stops account)
  | _ => true

theorem playsOn_of_test (call : Call) (passed : onwardTest room account call = true) :
    PlaysOn room account call := by
  cases call with
  | state task =>
    intro target mutation edits
    simpa [onwardTest, target, edits] using passed
  | _ => trivial

def onwardChecks (world : World RoomState) (call : Call) : Bool := playTest world call && onwardTest 1 2 call

theorem onward_of_checks (world : World RoomState) (call : Call) (passed : onwardChecks world call = true) :
    SparesPlay plainService world call ∧ PlaysOn 1 2 call := by
  obtain ⟨spares, plays⟩ := Bool.and_eq_true_iff.mp passed
  exact ⟨sparesPlay_of_test world call spares, playsOn_of_test call plays⟩

def playWorld : World RoomState :=
  [sampleOpening sampleSettings 2, sampleJoining 2 2,
    .startRound (sampleOrigin 1 "start" 3) 1 2 sampleRound].foldl
    (serve plainService) (.empty 0)

/-- The first account has completed the round. -/
def onwardWorld : World RoomState :=
  [.markLoaded 1 2, .setSlotStatus 1 1 .complete].foldl (serve plainService) playWorld

deriving instance DecidableEq for RoomSettings

deriving instance DecidableEq for Round, SessionPresence

theorem playing_onward : projectedStatus onwardWorld 0 = some (some 1, .complete, true) ∧
    ∀ later, Holds plainRepo 1 onwardWorld.store later → later.room.sessionId = sampleKey 12 →
    Playing later 2 := by
  have runs : Runs plainService (SparesPlay plainService) (fun _ _ => True) (.empty 0) playWorld :=
    runs_of_checks sparesPlay_of_test (by decide +kernel)
  have onward : Runs plainService (fun world call => SparesPlay plainService world call ∧ PlaysOn 1 2 call)
    (fun _ _ => True) playWorld onwardWorld := runs_of_checks onward_of_checks (by decide +kernel)
  have joined : 2 ∈ (playWorld.tables.present (sampleKey 12)).map (·.accountId) := by decide +kernel
  obtain ⟨presence, present, account⟩ := List.mem_map.mp joined
  have session := (mem_present.mp present).2.2
  have started : sampleRound ∈ (playWorld.tables.playing (sampleKey 12)).map (·.id) := by decide +kernel
  obtain ⟨round, playing, key⟩ := List.mem_map.mp started
  have froze : (sampleRound, 2) ∈ playWorld.tables.roundParticipants.rows.map fun row =>
    (row.roundId, row.accountId) := by
    decide +kernel
  obtain ⟨row, stored, same⟩ := List.mem_map.mp froze
  obtain ⟨ofRound, ofAccount⟩ := Prod.mk.inj same
  have shown : (content plainRepo 1 playWorld.store).any (fun state => state.room.sessionId = sampleKey 12 ∧
    state.roundId = some sampleRound ∧ Playing state 2) = true := by decide +kernel
  obtain ⟨state, found, facts⟩ := (Option.any_eq_true _ _).mp shown
  obtain ⟨sameSession, sameRound, plays⟩ := of_decide_eq_true facts
  have holds : Holds plainRepo 1 playWorld.store state := (reached_sample _).kept.holds found
  have samePlaying : onwardWorld.tables.playing (sampleKey 12) =
    playWorld.tables.playing (sampleKey 12) := by decide +kernel
  have samePresent : onwardWorld.tables.present (sampleKey 12) =
    playWorld.tables.present (sampleKey 12) := by decide +kernel
  refine ⟨by decide +kernel, fun later holds' sameSession' => ?_⟩
  rw [← account] at plays onward ⊢
  rw [← session] at present playing sameSession sameSession' samePlaying samePresent
  exact (rounds_played runs).2 1 state round presence row holds sameSession (key ▸ sameRound) plays
    playing present stored (ofRound.trans key.symm) (ofAccount.trans account.symm) onwardWorld
    onward (samePlaying ▸ playing) (samePresent ▸ present) later holds' sameSession'

end Perfcho.Service
