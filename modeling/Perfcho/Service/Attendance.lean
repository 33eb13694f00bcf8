import Perfcho.Durable.Attendance
import Perfcho.Service.Reads
import Perfcho.Service.Rounds

/-! Rounds that are attended. As long as somebody else plays on when a player stops or
departs, every round in progress has a participant who is present, and every state of it
a slot that is playing. -/

namespace Perfcho.Service

open Foundation Multiplayer Durable Redis

variable {Blob : Type} {service : MultiplayerService Blob} {mutation : Mutation}
variable {world : World Blob}

/-- Players are participants, and the rows of participants say where they sit. -/
def enrolLaw : Law where
  settings _ := True
  state := Enrolled
  row _ row := row.slotNumber.isSome

theorem enrolLaw_keeps : enrolLaw.Keeps service permitted where
  alike same enrolled := by
    rintro progress account ⟨slot, member, named⟩
    rw [same.frozen]
    exact enrolled (inProgress_of_round same.round progress) account ⟨slot, same.slots ▸ member, named⟩
  opens _ _ := trivial
  settles _ _ _ _ _ := trivial
  rebuilt facts _ _ _ := facts.rightful.enrolled
  retained _ _ _ _ retained enrolled := enrolled.retained retained
  edited _ _ _ _ asked edited enrolled := by
    apply enrolled.edited edited
    rintro account status rfl
    exact asked
  transit := by
    intro world moment command record active state next _ transit _ _ enrolled
    cases transit with
    | settings _ built => exact .idle (settingsUpdated_eq_ok built).2.1
    | host built | password built =>
      obtain ⟨_, round, frozen, slots⟩ := recordChanged_eq_ok built
      rintro progress account ⟨slot, member, named⟩
      rw [frozen]
      exact enrolled (inProgress_of_round round progress) account ⟨slot, slots ▸ member, named⟩
    | started _ selected built => exact .started selected built
    | completed built => exact .idle (roundCompleted_eq_ok built).2.1
  freezes := by
    intro state participants participant roundId row _ _ _ _ frozen
    simp [enrolLaw, frozen.slot]

/-- A round in progress that a state shows. -/
structure Underway (tables : Tables) (state : RoomState) (round : Round) : Prop where
  playing : round ∈ tables.playing round.sessionId
  shown : state.roundId = some round.id

def Crewed (tables : Tables) (state : RoomState) (round : Round) : Prop :=
  ∃ presence ∈ tables.present round.sessionId, Playing state presence.accountId

def CrewedWithout (tables : Tables) (state : RoomState) (round : Round) (account : Nat) : Prop :=
  ∃ presence ∈ tables.present round.sessionId, presence.accountId ≠ account ∧ Playing state presence.accountId

/-- What holds of a state that is stored for a room. One room may be excepted from
having somebody who plays. -/
structure Staffed (tables : Tables) (except : Option Nat) (room : Nat) (state : RoomState) : Prop where
  known : ∀ key, state.roundId = some key → ∃ round ∈ tables.rounds.rows, round.id = key
  housed : ∀ round, Underway tables state round → Hosts tables room round.sessionId
  crewed : except ≠ some room → ∀ round, Underway tables state round → Crewed tables state round

structure Attended (service : MultiplayerService Blob) (except : Option Nat) (world : World Blob) : Prop where
  rules : enrolLaw.Rules service world
  rounds : ∀ round, round ∈ world.tables.playing round.sessionId →
    ∃ presence, Attends world.tables round presence
  stored : ∀ room state, Holds service.repo room world.store state → Staffed world.tables except room state

/-- An account may depart: if others are there, one of them takes part in the round, and
one plays in what is stored of it. -/
def Relieved (service : MultiplayerService Blob) (world : World Blob) (account : Nat) : Prop :=
  ∀ round, round ∈ world.tables.playing round.sessionId →
    (∃ presence ∈ world.tables.present round.sessionId, presence.accountId = account) →
    (∃ presence ∈ world.tables.present round.sessionId, presence.accountId ≠ account) →
    (∃ presence, Attends world.tables round presence ∧ presence.accountId ≠ account) ∧
    ∀ room state, Holds service.repo room world.store state → state.roundId = some round.id →
      CrewedWithout world.tables state round account

/-- The calls after which somebody plays on: a player stops only if another one plays, an
account departs only if it is relieved. -/
def Relieves (service : MultiplayerService Blob) (world : World Blob) : Call → Prop
  | .state task => ∀ room mutation state account, task.target = some room → task.mutation = some mutation →
      Holds service.repo room world.store state → mutation.Stops account →
      ∀ round, Underway world.tables state round → CrewedWithout world.tables state round account
  | .commit _ command => ∀ account, command.brought.departs = some account → Relieved service world account
  | _ => True

section

variable {tables : Tables} {except : Option Nat} {room : Nat} {state : RoomState} {round : Round}

theorem Staffed.idle (idle : state.roundId = none) : Staffed tables except room state := by
  have none : ∀ {round}, ¬ Underway tables state round := by
    intro round underway
    have shown := underway.shown
    rw [idle] at shown
    cases shown
  refine ⟨?_, fun _ underway => (none underway).elim, fun _ _ underway => (none underway).elim⟩
  intro key shown
  rw [idle] at shown
  cases shown

theorem Staffed.onward (staffed : Staffed tables except room state) (sameRound : next.roundId = state.roundId)
    (crewed : except ≠ some room → ∀ round, Underway tables state round →
      Crewed tables next round) : Staffed tables except room next := by
  have before : ∀ {round}, Underway tables next round → Underway tables state round :=
    fun underway => ⟨underway.playing, sameRound.symm.trans underway.shown⟩
  exact ⟨fun key shown => staffed.known key (sameRound.symm.trans shown), fun round underway =>
    staffed.housed round
    (before underway), fun spared round underway => crewed spared round (before underway)⟩

theorem Staffed.congr (staffed : Staffed tables except room state) (sameRound : next.roundId = state.roundId)
    (slots : next.slots = state.slots) : Staffed tables except room next := by
  refine staffed.onward sameRound fun spared round underway => ?_
  obtain ⟨presence, present, slot, member, plays⟩ := staffed.crewed spared round underway
  exact ⟨presence, present, slot, slots ▸ member, plays⟩

theorem Underway.inProgress (underway : Underway tables state round) : state.inProgress = true := by
  rw [state.progress, underway.shown]
  rfl

theorem Stops.unique (one : mutation.Stops account) (two : mutation.Stops other) : other = account := by
  cases mutation with
  | setSlotStatus => exact two.1.symm.trans one.1
  | markFailed =>
    cases one
    cases two
    rfl
  | _ => exact one.elim

/-- Somebody plays on after an edit if somebody does whom it does not stop. -/
theorem Staffed.edited (staffed : Staffed tables except room state) (enrolled : Enrolled state)
    (edited : Edited mutation state next)
    (relieved : ∀ account, mutation.Stops account → ∀ round, Underway tables state round →
      CrewedWithout tables state round account) : Staffed tables except room next := by
  apply staffed.onward edited.round
  intro spared round underway
  obtain ⟨presence, present, plays⟩ := staffed.crewed spared round underway
  have frozen := enrolled underway.inProgress
  by_cases stops : mutation.Stops presence.accountId
  · obtain ⟨other, there, different, plays⟩ := relieved _ stops round underway
    refine ⟨other, there, plays.edited edited (frozen _ plays) fun stopsToo => different ?_⟩
    exact Stops.unique stops stopsToo
  · exact ⟨presence, present, plays.edited edited (frozen _ plays) stops⟩

theorem Staffed.retained (staffed : Staffed tables except room state) (enrolled : Enrolled state)
    (retained : Retained state snapshot next) : Staffed tables except room next := by
  apply staffed.onward retained.round
  intro spared round underway
  obtain ⟨presence, present, plays⟩ := staffed.crewed spared round underway
  exact ⟨presence, present, plays.retained retained (enrolled underway.inProgress _ plays)⟩

theorem Current.running (current : Current tables snapshot) (shown : snapshot.roundId = some key) :
    ∃ round ∈ tables.playing snapshot.room.sessionId, round.id = key := by
  obtain ⟨_, ran⟩ := current
  obtain ⟨_, _, _, ⟨none, _⟩ | ⟨round, playing, same, _⟩⟩ := loadSnapshot_eq_ok ran
  · rw [shown] at none
    cases none
  · rw [shown] at same
    cases same
    exact ⟨round, playing, rfl⟩

theorem Underway.session (underway : Underway tables state round)
    (current : Current tables snapshot) (same : state.roundId = snapshot.roundId) :
    round.sessionId = snapshot.room.sessionId := by
  obtain ⟨other, playing, key⟩ := current.running (same.symm.trans underway.shown)
  obtain ⟨stored, _, ours⟩ := mem_playing.mp playing
  rw [round_unique stored (mem_playing.mp underway.playing).1 key.symm, ours]

/-- Everybody who takes part and is present plays in a rebuilt state. -/
theorem Staffed.rebuilt (current : Current tables snapshot) (rebuilt : Rebuilt snapshot state)
    (attends : ∀ round, round ∈ tables.playing round.sessionId → ∃ presence, Attends tables round presence)
    (rows : RowsFit enrolLaw.row tables) : Staffed tables except snapshot.room.publicId state := by
  refine ⟨fun key shown => ?_, fun round underway => ?_, fun _ round underway => ?_⟩
  · obtain ⟨round, playing, same⟩ := current.running (rebuilt.round.symm.trans shown)
    exact ⟨round, (mem_playing.mp playing).1, same⟩
  · rw [underway.session current rebuilt.round]
    exact current.standing.hosts
  obtain ⟨presence, present, row, stored, ofRound, ofAccount⟩ := attends round underway.playing
  have house := (mem_present.mp present).2.2
  have placed : row.slotNumber.isSome :=
    rows row stored round (mem_playing.mp underway.playing).1 ofRound.symm
  have partakes : Partakes tables round presence row :=
    ⟨house ▸ underway.playing, house ▸ present, stored, ofRound, ofAccount, placed⟩
  have session : snapshot.room.sessionId = presence.sessionId :=
    (underway.session current rebuilt.round).symm.trans house.symm
  exact ⟨presence, present, (partakes.rebuilt current rebuilt session).playing⟩

theorem Current.present (current : Current tables snapshot) (active : account ∈ snapshot.activeAccountIds) :
    ∃ presence ∈ tables.present snapshot.room.sessionId, presence.accountId = account := by
  obtain ⟨_, ran⟩ := current
  obtain ⟨_, _, accounts, _⟩ := loadSnapshot_eq_ok ran
  rw [accounts] at active
  have listed : account ∈ ((tables.present snapshot.room.sessionId).insertionSort
    SessionPresence.Before).map (·.accountId) := by
    unfold Tables.listParticipantAccountIds at active
    dsimp only at active
    split at active
    · next host =>
      rcases List.mem_cons.mp active with rfl | other
      · exact host
      · exact (List.mem_filter.mp other).1
    · exact active
  obtain ⟨presence, sorted, same⟩ := List.mem_map.mp listed
  exact ⟨presence, (List.perm_insertionSort _ _).mem_iff.mp sorted, same⟩

theorem Shown.present (shown : Shown service permitted world room state)
    (seated : account ∈ accountsOf state.slots) :
    ∃ presence ∈ world.tables.present state.room.sessionId, presence.accountId = account := by
  cases shown with
  | projected current _ _ inStep =>
    rw [inStep.session]
    exact current.present (inStep.accounts account seated)
  | recovered current _ built degraded =>
    subst degraded
    have rebuilt := stateFromSnapshot_eq_ok built
    have present := current.present (rebuilt.accounts seated)
    rwa [← rebuilt.room] at present

theorem Attended.shown (attended : Attended service except world)
    (shown : Shown service permitted world room state) : Staffed world.tables except room state := by
  cases shown with
  | projected _ _ holds => exact attended.stored room state holds
  | recovered current keyed built degraded =>
    subst degraded keyed
    exact (Staffed.rebuilt current (stateFromSnapshot_eq_ok built) attended.rounds
      attended.rules.rows).congr rfl rfl

end

section

variable {tables : Tables} {command : Durable.Command} {except : Option Nat} {room : Nat} {state : RoomState}

/-- A state stays staffed when a command is committed, if somebody plays on whom the
command does not take away. -/
theorem Staffed.change (staffed : Staffed world.tables except room state)
    (kept : Kept service world) (change : Change world.tables world.tables command tables)
    (relieved : ∀ account, command.brought.departs = some account →
      ∀ round, Underway world.tables state round →
      (∃ presence ∈ world.tables.present round.sessionId, presence.accountId = account) →
      (∃ presence ∈ world.tables.present round.sessionId, presence.accountId ≠ account) →
      CrewedWithout world.tables state round account) : Staffed tables except room state := by
  have before : ∀ {round}, Underway tables state round → Underway world.tables state round :=
    fun {round} underway =>
    ⟨change.lasting.playing _ _ underway.playing (staffed.known _ underway.shown), underway.shown⟩
  refine ⟨fun key shown => ?_, fun round underway => ?_, fun spared round underway => ?_⟩
  · obtain ⟨old, there, rfl⟩ := staffed.known key shown
    exact change.lasting.round old there
  · exact change.hosts kept.sound (kept.sound.change change)
      (staffed.housed round (before underway)) underway.playing
  obtain ⟨presence, present, plays⟩ := staffed.crewed spared round (before underway)
  rcases change.remain kept.sound underway.playing with stay | ⟨account, departs, company, stay⟩
  · exact ⟨presence, stay presence present, plays⟩
  · by_cases same : presence.accountId = account
    · obtain ⟨other, there, different, plays⟩ :=
        relieved account departs round (before underway) ⟨presence, present, same⟩ company
      exact ⟨other, stay other there different, plays⟩
    · exact ⟨presence, stay presence present same, plays⟩

theorem Relieves.departs (relieves : Relieves service world (.commit moment command))
    (departs : command.brought.departs = some account) : Relieved service world account := by
  exact relieves account departs

theorem Attended.rounds_commit (attended : Attended service except world) (kept : Kept service world)
    (allowed : Relieves service world (.commit moment command))
    (sends : Sends service permitted world command)
    (change : Change world.tables world.tables command tables) (round : Round)
    (playing : round ∈ tables.playing round.sessionId) : ∃ presence, Attends tables round presence := by
  by_cases known : ∃ old ∈ world.tables.rounds.rows, old.id = round.id
  · have before := change.lasting.playing _ _ playing known
    have onward : ∀ {presence}, Attends world.tables round presence →
      presence ∈ tables.present round.sessionId →
      Attends tables round presence := by
      rintro presence ⟨_, row, stored, facts⟩ present
      exact ⟨present, row, change.lasting.frozen row stored, facts⟩
    obtain ⟨presence, attends⟩ := attended.rounds round before
    rcases change.remain kept.sound playing with stay | ⟨account, departs, company, stay⟩
    · exact ⟨presence, onward attends (stay presence attends.1)⟩
    · by_cases same : presence.accountId = account
      · obtain ⟨⟨other, attendsToo, different⟩, _⟩ :=
          allowed.departs departs round before ⟨presence, attends.1, same⟩ company
        exact ⟨other, onward attendsToo (stay other attendsToo.1 different)⟩
      · exact ⟨presence, onward attends (stay presence attends.1 same)⟩
  · obtain ⟨begins, house, session, found, ours, placed, same, frozen, rows, froze⟩ :=
      change.begun playing known
    cases command with
    | startRound commandId actor publicId version roundId participants =>
      obtain ⟨state, shown, selected, some⟩ := sends
      obtain ⟨participant, chosen⟩ := List.exists_mem_of_ne_nil _ some
      obtain ⟨row, stored, freezes⟩ := exists_related froze chosen
      obtain ⟨slot, member, _, named, _⟩ := mem_selections selected chosen
      have seated : participant.accountId ∈ accountsOf state.slots :=
        List.mem_filterMap.mpr ⟨slot, member, named⟩
      obtain ⟨presence, present, account⟩ := shown.present seated
      have hosts : Hosts world.tables publicId round.sessionId :=
        ⟨house, session, found, placed publicId commandId rfl, ours⟩
      rw [hosts.unique kept.sound shown.hosts, ← same] at present
      exact ⟨presence, present, row, rows ▸ List.mem_append_right _ stored, freezes.round,
        freezes.account.trans account.symm⟩
    | _ => cases begins

theorem Attended.stored_commit (attended : Attended service except world) (kept : Kept service world)
    (allowed : Relieves service world (.commit moment command))
    (change : Change world.tables world.tables command tables)
    (holds : Holds service.repo room world.store state) : Staffed tables except room state := by
  apply (attended.stored room state holds).change kept change
  intro account departs round underway leaving staying
  exact (allowed.departs departs round underway.playing leaving staying).2 room state holds underway.shown

theorem Attended.transit (attended : Attended service except world) (kept : Kept service world)
    (sends : Sends service permitted world command) {committed : Committed} {record : RoomRecord}
    (ran : commit world.tables service.policies moment command = .ok (committed, tables))
    (hosted : command.hosted = some (room, commandId))
    (unanswered : world.tables.findCommandRoom commandId = .ok none)
    (answered : committed.room = some record) (shown : Shown service permitted world room state)
    (transit : Transit service state record committed.roundId command next) :
    Staffed tables except room next := by
  obtain ⟨_, _, _, _, active⟩ := commit_eq_ok ran
  obtain ⟨change, serves⟩ := commit_record hosted unanswered ran answered
  cases transit with
  | settings _ built => exact .idle (settingsUpdated_eq_ok built).2.1
  | completed built => exact .idle (roundCompleted_eq_ok built).2.1
  | host built | password built =>
    obtain ⟨_, sameRound, _, slots⟩ := recordChanged_eq_ok built
    have read : Staffed world.tables except room state := attended.shown shown
    exact (read.change kept change fun _ departs => nomatch departs).congr sameRound slots
  | started _ selected built =>
    cases hosted
    obtain ⟨_, ⟨shownRound, _⟩, frozen, _⟩ := roundStarted_eq_ok built
    have hosts : Hosts tables room record.sessionId := serves.standing.2 ▸ serves.standing.1.hosts
    have begun : ∀ key, next.roundId = some key → ∃ round ∈ tables.playing record.sessionId,
      round.id = key := by
      intro key shown
      rw [shownRound, active, answered] at shown
      exact activeRoundId_eq_some shown
    have house : ∀ {round}, Underway tables next round → round.sessionId = record.sessionId := by
      intro round underway
      obtain ⟨other, playing, key⟩ := begun round.id underway.shown
      obtain ⟨stored, _, ours⟩ := mem_playing.mp playing
      rw [round_unique stored (mem_playing.mp underway.playing).1 key.symm, ours]
    refine ⟨?_, ?_, ?_⟩
    · intro key shown
      obtain ⟨round, playing, same⟩ := begun key shown
      exact ⟨round, (mem_playing.mp playing).1, same⟩
    · intro round underway
      rw [house underway]
      exact hosts
    · intro _ round underway
      obtain ⟨_, _, _, some⟩ := sends
      obtain ⟨participant, chosen⟩ := List.exists_mem_of_ne_nil _ some
      obtain ⟨slot, member, _, named, _⟩ := mem_selections selected chosen
      obtain ⟨presence, present, account⟩ := shown.present (List.mem_filterMap.mpr ⟨slot, member, named⟩)
      have before := change.hosted_before kept.sound rfl hosts
      rw [before.unique kept.sound shown.hosts, ← house underway] at present
      rcases change.remain kept.sound underway.playing with stay | ⟨_, departs, _⟩
      · refine ⟨presence, stay presence present, roundStarted_playing selected built ?_⟩
        rw [frozen, account]
        exact List.mem_map.mpr ⟨participant, chosen, rfl⟩
      · cases departs

end

section

variable {except : Option Nat} {room : Nat}

theorem Attended.writes (attended : Attended service except world)
    (rules : enrolLaw.Rules service after) (tables : after.tables = world.tables)
    (puts : Puts service.repo world.store after.store room next)
    (put : ∀ state, next = some state → Staffed world.tables except room state) :
    Attended service except after := by
  refine ⟨rules, tables ▸ attended.rounds, fun other state holds => ?_⟩
  rw [tables]
  rcases puts.held holds with ⟨rfl, new⟩ | old
  · exact put state new
  · exact attended.stored other state old

theorem Attended.of_rooms (attended : Attended service except world)
    (rules : enrolLaw.Rules service after) (tables : after.tables = world.tables)
    (rooms : ∀ room state, Holds service.repo room after.store state →
      Holds service.repo room world.store state) : Attended service except after :=
  ⟨rules, tables ▸ attended.rounds, fun room state holds =>
    tables ▸ attended.stored room state (rooms room state holds)⟩

theorem Attended.move (kept : Kept service world) (move : Move service (Relieves service) world after)
    (attended : Attended service except world) : Attended service except after := by
  have rules := attended.rules.move enrolLaw_keeps kept move
  have rebuilds : ∀ {snapshot state}, Current world.tables snapshot → Rebuilt snapshot state →
    Staffed world.tables except snapshot.room.publicId state :=
    fun current rebuilt => .rebuilt current rebuilt attended.rounds attended.rules.rows
  cases move with
  | quiet tables same =>
    exact attended.of_rooms rules tables fun room _ holds => holds.of_rooms_eq (congrFun same.rooms room).symm
  | fades _ tables fades => exact attended.writes rules tables fades.puts (by simp)
  | drops tables _ puts => exact attended.writes rules tables puts (by simp)
  | commits allowed sends ran store =>
    have change := transact_change (commit_eq_ok ran).1
    refine ⟨rules, attended.rounds_commit kept allowed sends change, fun room state holds => ?_⟩
    rw [store] at holds
    exact attended.stored_commit kept allowed change holds
  | creates tables current _ built bounds puts =>
    obtain ⟨_, _, slots, _, sameRound, _⟩ := RoomState.replaced_eq_ok bounds
    apply attended.writes rules tables puts
    rintro _ ⟨⟩
    exact (rebuilds current (stateFromSnapshot_eq_ok built)).congr sameRound slots
  | repairs _ tables current holds reconciled puts =>
    apply attended.writes rules tables puts
    rintro _ ⟨⟩
    rcases reconcile_updated reconciled with ⟨_, _, retained⟩ | ⟨_, rebuilt, facts, rfl⟩
    · have enrolled := (attended.rules.stored _ _ holds).state
      exact ((attended.stored _ _ holds).retained enrolled retained).congr rfl rfl
    · exact (rebuilds current facts).congr rfl rfl
  | edits allowed edits target _ tables holds _ built puts =>
    apply attended.writes rules tables puts
    rintro _ ⟨⟩
    have enrolled := (attended.rules.stored _ _ holds).state
    have staffed := (attended.stored _ _ holds).edited enrolled (Mutation.apply_edited built)
      fun account stops =>
      allowed _ _ _ account target edits holds stops
    exact staffed.congr rfl rfl
  | replaces allowed sends ran hosted unanswered answered shown _ _ _ transit puts =>
    have change := transact_change (commit_eq_ok ran).1
    refine ⟨rules, attended.rounds_commit kept allowed sends change, fun room state holds => ?_⟩
    rcases puts.held holds with ⟨rfl, new⟩ | old
    · cases new
      exact (attended.transit kept sends ran hosted unanswered answered shown transit).congr rfl rfl
    · exact attended.stored_commit kept allowed change old

theorem Attended.wait (elapses : Elapses world after) (attended : Attended service except world) :
    Attended service except after := by
  apply attended.of_rooms (attended.rules.wait elapses) elapses.tables
  intro room state holds
  rcases elapses.rooms room with same | ⟨gone, _⟩
  · exact holds.of_rooms_eq same.symm
  · obtain ⟨_, found⟩ := holds.stored
    rw [gone] at found
    cases found

theorem Attended.empty (clock : Int) : Attended service except (.empty clock : World Blob) := by
  refine ⟨.empty clock, ?_, fun room state holds => ?_⟩
  · intro round playing
    cases (mem_playing.mp playing).1
  · obtain ⟨_, found⟩ := holds.stored
    cases found

end

section

variable {room : Nat}

/-- The calls of a command that completes the play of an account, and then the round if
nobody is left. The command that ends the round is not a repeated one. -/
def Completes (service : MultiplayerService Blob) (world : World Blob) : Call → Prop
  | .state (.edit _ (.setSlotStatus _ .complete)) => True
  | .replay _ _ _ commandId => world.tables.commandApplied commandId = false
  | other => Relieves service world other

theorem Completes.relieves {call : Call} (completes : Completes service world call)
    (aloof : call.Aloof) : Relieves service world call := by
  cases call with
  | state task =>
    intro room mutation state account _ edits
    rw [show task.mutation = none from aloof] at edits
    cases edits
  | commit => exact completes
  | _ => trivial

theorem Attended.weaken (attended : Attended service none world) : Attended service (some room) world :=
  ⟨attended.rules, attended.rounds, fun other state holds =>
    have staffed := attended.stored other state holds
    ⟨staffed.known, staffed.housed, fun _ => staffed.crewed (by simp)⟩⟩

/-- What is excepted is staffed after all if somebody plays in what is stored of it. -/
theorem Attended.strengthen (attended : Attended service (some room) world)
    (crewed : ∀ state round, Holds service.repo room world.store state → Underway world.tables state round →
      Crewed world.tables state round) : Attended service none world := by
  refine ⟨attended.rules, attended.rounds, fun other state holds => ?_⟩
  have staffed := attended.stored other state holds
  refine ⟨staffed.known, staffed.housed, fun _ round underway => ?_⟩
  by_cases same : other = room
  · subst same
    exact crewed state round holds underway
  · exact staffed.crewed (fun equal => same (Option.some.inj equal).symm) round underway

theorem Attended.moves (attended : Attended service except world) (kept : Kept service world)
    (moves : Moves service (Relieves service) world after) :
    Kept service after ∧ Attended service except after :=
  ⟨moves.kept kept, moves.preserves .move kept attended⟩

/-- After its slot is complete an account may have been the last one to play. If somebody
plays, that is somebody who is present. -/
theorem setSlotStatus_completes (kept : Kept service world) (attended : Attended service none world) :
    Ends service (Completes service) (service.setSlotStatus room account .complete) world fun result after =>
      Kept service after ∧ Attended service (some room) after ∧ result ≠ .ok none ∧
        ∀ state, result = .ok (some state) → (∃ slot ∈ state.slots, slot.status = .playing) →
        Attended service none after := by
  have lenient : ∀ (world : World Blob) (call : Call), Completes service world call ∧ call.Reads →
    Relieves service world call :=
    fun _ _ allowed => allowed.1.relieves allowed.2.aloof
  refine (editSlot_ends kept (requireLiveState_aloof kept) ?_).mono ?_
  · intro state mutation passed
    split at passed
    · cases passed
    · cases passed
      rfl
  rintro result after outcome
  cases outcome with
  | refused moves =>
    obtain ⟨kept, attended⟩ := attended.moves kept (moves.mono lenient)
    exact ⟨kept, attended.weaken, by simp, by simp⟩
  | @failed _ middle _ _ moves _ tables unwritten =>
    obtain ⟨kept, attended⟩ := attended.moves kept (moves.mono lenient)
    have relieves : Relieves service middle .clock := trivial
    obtain ⟨kept, attended⟩ := attended.moves kept (unwritten_moves relieves tables unwritten)
    exact ⟨kept, attended.weaken, by simp, by simp⟩
  | @done middle after snapshot state updated mutation moves read current inStep holds passed allowed tables built puts =>
    obtain ⟨kept, attended⟩ := attended.moves kept (moves.mono lenient)
    have edited := Mutation.apply_edited built
    split at passed
    · cases passed
    next plays =>
    cases passed
    have asked : Asked service state (.setSlotStatus account .complete) :=
      fun progress => not_not.mp fun away => plays ⟨progress, away⟩
    have edits : (Repository.Task.edit room (.setSlotStatus account .complete)).mutation =
      some (.setSlotStatus account .complete) := rfl
    have move : Move service (fun _ _ => True) middle after :=
      .edits trivial edits rfl (by simp [Mutation.record]) tables holds asked built puts
    have rules := attended.rules.move enrolLaw_keeps kept move
    have lenient : Attended service (some room) after := by
      apply attended.weaken.writes rules tables puts
      rintro _ ⟨⟩
      have staffed := (attended.weaken.stored room state holds).onward edited.round fun spared =>
        absurd rfl spared
      exact staffed.congr rfl rfl
    refine ⟨move.kept kept, lenient, by simp, ?_⟩
    rintro _ ⟨⟩ ⟨slot, member, status⟩
    apply lenient.strengthen
    intro other round stored underway
    obtain rfl := stored.unique puts.holds
    obtain ⟨player, named⟩ : ∃ player, slot.accountId = some player := by
      rw [← Option.isSome_iff_exists, ← slot.coherent, status]
      rfl
    have frozen : player ∈ updated.roundParticipantAccountIds :=
      (rules.stored room _ stored).state underway.inProgress player ⟨slot, member, named, status⟩
    rw [edited.frozen] at frozen
    obtain ⟨presence, present, rfl⟩ := current.present (inStep.accounts player (state.seated player frozen))
    rw [tables, read] at underway ⊢
    have before : Underway world.tables state round :=
      ⟨underway.playing, edited.round.symm.trans underway.shown⟩
    rw [← before.session current inStep.round] at present
    exact ⟨presence, present, slot, member, named, status⟩

/-- The command that ends the round leaves no state of a round without somebody who
plays. -/
theorem completeRound_attends (kept : Kept service world) (attended : Attended service (some room) world) :
    Ends service (Completes service)
    (service.completeRound origin room expectedVersion aborted) world fun result after =>
      Kept service after ∧ ∀ answer, result = .ok answer → Attended service none after := by
  refine ⟨fun permits => ?_⟩
  have fresh : world.tables.commandApplied (service.commandId origin.accountId origin) = false := permits.2.1
  have unanswered := findCommandRoom_of_fresh fresh
  have relieved : (service.completeRound origin room expectedVersion aborted).Permits
    (execute service) (Relieves service) world :=
    (permits.restrict (completeRound_aloof [])).mono fun _ _ allowed => allowed.1.relieves allowed.2
  obtain ⟨later, onward⟩ := attended.moves kept ((completeRound_serves kept).ends relieved)
  refine ⟨later, fun answer answered => ?_⟩
  obtain ⟨roundId, committed, ran⟩ := (completeRound_commits kept unanswered).ends permits answer answered
  have transacted := (commit_eq_ok ran).1
  obtain ⟨house, session, found, public_, idle⟩ := transact_halts rfl unanswered fresh transacted
  apply onward.strengthen
  intro state round stored underway
  have change := transact_change transacted
  have hosts := change.hosted_before kept.sound rfl ((onward.stored room state stored).housed round underway)
  have playing := underway.playing
  rw [← hosts.unique kept.sound ⟨house, session, found, public_, rfl⟩, idle] at playing
  cases playing

end

end Perfcho.Service
