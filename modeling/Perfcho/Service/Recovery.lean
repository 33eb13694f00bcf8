import Perfcho.Service.Attendance
import Perfcho.Service.FreeMods

/-! A round that starts, and the same room rebuilt from the tables. The rows of the round
freeze the place, the team and the mods of each player; a rebuilt room takes the mods of
the room out of them again. -/

namespace Perfcho.Service

open Foundation Scoring Multiplayer Durable Redis Program Yields Option

variable {Blob : Type} {service : MultiplayerService Blob}
variable {world after : World Blob} {state result rebuilt : RoomState} {before : DurableRoomSnapshot}
variable {publicId : Nat}

/-- A projection that shows its room as the tables have it. -/
structure UpToDate (tables : Tables) (publicId : Nat) (state : RoomState)
    (snapshot : DurableRoomSnapshot) : Prop where
  loads : loaded tables (tables.getRoom publicId) = .ok (some snapshot)
  room : state.room.roomId = snapshot.room.roomId
  session : state.room.sessionId = snapshot.room.sessionId
  version : state.room.version = snapshot.room.version
  settings : state.room.settings = snapshot.room.settings
  round : state.roundId = snapshot.roundId
  accounts : ∀ account, account ∈ accountsOf state.slots ↔ account ∈ snapshot.activeAccountIds

theorem UpToDate.reconcile (upToDate : UpToDate tables publicId state before) (now stateLifetime : Int) :
    reconcile now stateLifetime state before = .ok (.current (state.withStatus .live)) :=
  if_pos ⟨⟨upToDate.room, upToDate.session⟩, upToDate.version,
    ⟨fun _ => (upToDate.accounts _).mp, fun _ => (upToDate.accounts _).mpr⟩, upToDate.round⟩

/-- An account plays in both states, in the same place and team and with the same mods. -/
def SamePlay (state rebuilt : RoomState) (account : Nat) : Prop :=
  ∃ slot ∈ state.slots, ∃ other ∈ rebuilt.slots, slot.accountId = some account ∧
    other.accountId = some account ∧ slot.status = .playing ∧ other.status = .playing ∧
    other.position = slot.position ∧ other.team = slot.team ∧ other.mods = slot.mods

/-- An account sits in a place that no player of the round has. -/
def SeatedApart (state rebuilt : RoomState) (account : Nat) : Prop :=
  ∃ slot ∈ rebuilt.slots, slot.accountId = some account ∧ ∀ player ∈ state.roundParticipantAccountIds,
    ∀ taken ∈ state.slots, taken.accountId = some player → taken.position ≠ slot.position

theorem snapshot_answers : Ends service permitted (Method.snapshot publicId) world fun answer after =>
    after = world ∧ answer = loaded world.tables (world.tables.getRoom publicId) :=
  step fun _ => .ofExcept ⟨rfl, rfl⟩

theorem get_live (live : Live service.repo publicId world.store state) :
    Ends service permitted (Method.state (.get publicId world.store.clock)) world fun answer after =>
      answer = .ok (some state) ∧ after = world := by
  have does : Does service.repo (service.repo.body (.get publicId world.store.clock)) world.store _ :=
    get_does (.inr ⟨state, live.toHolds⟩)
  refine (state_ends does).mono ?_
  rintro _ after ⟨_, tables, ⟨found, rfl, store, also⟩ | ⟨rfl, fades⟩⟩
  · rw [also.toHolds.unique live.toHolds]
    exact ⟨rfl, world_eq tables store⟩
  · exact absurd live.live (not_lt.mpr (fades.expired state live.toHolds))

theorem requireState_current (live : Live service.repo publicId world.store state)
    (upToDate : UpToDate world.tables publicId state before) :
    Ends service permitted (service.requireState publicId) world fun answer after =>
    answer = .ok state ∧ after = world := by
  apply clock_step
  apply rescue (get_live live)
  rintro _ middle ⟨rfl, rfl⟩
  apply seq snapshot_answers
  · rintro answer after ⟨rfl, answered⟩
    cases answered.trans upToDate.loads
    apply clock_step
    rw [upToDate.reconcile]
    refine .pure ⟨?_, rfl⟩
    rw [← live.toHolds.sanitized]
    rfl
  · rintro failure after ⟨rfl, answered⟩
    cases answered.trans upToDate.loads

/-- What a replacement returns: the state that is stored now, or one that is marked
because nothing could be stored. -/
theorem projectReplacement_ends {committed : Committed}
    (stored : ∀ record updated, committed.room = some record → next record = .ok updated →
      Stored service.repo updated.room.publicId world.store) :
    Ends service permitted (Method.projectReplacement state committed next) world fun answer after =>
      after.tables = world.tables ∧ ∀ result, answer = .ok (some result) → ∃ record updated,
        committed.room = some record ∧ next record = .ok updated ∧
        (result = updated.sanitized ∧ Holds service.repo updated.room.publicId after.store result ∨
          result = updated.withStatus .durableRecovery) := by
  unfold Method.projectReplacement
  cases answered : committed.room with
  | none => exact .pure ⟨rfl, by simp⟩
  | some record =>
    apply given
    · intro updated built
      have stores : Ends service permitted (Method.replaceAfterCommit updated state) world fun answer after =>
          after.tables = world.tables ∧ ∀ result, answer = .ok result →
            (result = updated.sanitized ∧ Holds service.repo updated.room.publicId after.store result ∨
              result = updated.withStatus .durableRecovery) := by
        apply rescue (projected_ends (.replace updated state.stateRevision state.room.sessionId) rfl
          (replace_does (stored record updated answered built)))
        rintro _ after ⟨_, tables, ⟨⟨failure, rfl⟩, _⟩ | ⟨rfl, puts, _⟩⟩
        · refine .pure ⟨tables, ?_⟩
          rintro _ ⟨⟩
          exact .inr rfl
        · refine .pure ⟨tables, ?_⟩
          rintro _ ⟨⟩
          exact .inl ⟨rfl, puts.holds⟩
      apply seq stores
      · rintro found after ⟨tables, gives⟩
        refine .pure ⟨tables, ?_⟩
        rintro _ ⟨⟩
        exact ⟨record, updated, rfl, built, gives found rfl⟩
      · exact fun failure after held => ⟨held.1, by simp⟩
    · exact fun failure _ => ⟨rfl, by simp⟩

/-- What a start of a round makes of a projection that is up to date. -/
theorem startRound_ends
    (live : Live service.repo publicId world.store state)
    (upToDate : UpToDate world.tables publicId state before)
    (unanswered : world.tables.findCommandRoom (service.commandId origin.accountId origin) = .ok none) :
    Ends service permitted (service.startRound origin publicId expectedVersion roundId) world
    fun answer after =>
      ∀ result, answer = .ok (some result) → ∃ participants committed record next,
        state.inProgress = false ∧ selections state = .ok participants ∧
        commit world.tables service.policies origin.moment
        (.startRound (service.commandId origin.accountId origin)
          origin.accountId publicId expectedVersion roundId participants) = .ok (committed, after.tables) ∧
        committed.room = some record ∧ roundStarted state record committed.roundId participants =
        .ok next ∧ (result = next.sanitized ∧ Holds service.repo publicId after.store result ∨
          result = next.withStatus .durableRecovery) := by
  apply seq replay_ends
  · rintro found middle ⟨rfl, loads, _⟩
    cases found with
    | some snapshot =>
      obtain ⟨_, room, found⟩ := loads snapshot rfl
      rw [unanswered] at found
      cases found
    | none =>
      apply seq (requireState_current live upToDate)
      · rintro _ before ⟨⟨⟩, rfl⟩
        apply given
        · intro participants checked
          dsimp only at checked
          split at checked
          · cases checked
          next idle =>
          obtain ⟨selected, selects, checked⟩ := of_bind_eq_ok checked
          split at checked
          · cases checked
          cases checked
          apply seq commit_ends
          · rintro committed after ⟨_, store, ⟨⟨_, ⟨⟩⟩, _⟩ | ⟨_, ⟨⟩, ran⟩⟩
            obtain ⟨made, answered, serves⟩ := transact_serves rfl unanswered (commit_eq_ok ran).1
            have keyed : ∀ updated, roundStarted state made committed.roundId participants = .ok updated →
              updated.room.publicId = publicId := by
              intro updated built
              rw [(roundStarted_eq_ok built).1, serves.standing.2]
            refine (projectReplacement_ends ?_).mono ?_
            · intro record updated here built
              rw [answered] at here
              cases here
              rw [keyed updated built, store]
              exact .inr ⟨state, live.toHolds⟩
            · rintro answer final ⟨tables, gives⟩ result given
              obtain ⟨record, updated, here, built, outcome⟩ := gives result given
              rw [answered] at here
              cases here
              rw [keyed updated built] at outcome
              exact ⟨participants, committed, made,
                updated, by simpa using idle, selects, tables ▸ ran, answered, built, outcome⟩
          · rintro failure after _ answer ⟨⟩
        · rintro failure _ answer ⟨⟩
      · rintro failure middle ⟨⟨⟩, _⟩
  · rintro failure middle _ answer ⟨⟩

section

variable {tables later : Tables} {snapshot : DurableRoomSnapshot}
  {participants : List RoundParticipantSelection}

/-- A selection with the mods that a round freezes for it. -/
structure Frozen (settings : RoomSettings) (selected frozen : RoundParticipantSelection) : Prop where
  account : frozen.accountId = selected.accountId
  position : frozen.slotPosition = selected.slotPosition
  team : frozen.team = selected.team
  mods : canonicalModsDetails (participantMods settings selected) = .ok frozen.mods

theorem roundSelections_nodup (ran : tables.roundSelections roundId accounts = .ok participants) :
    (participants.map (·.accountId)).Nodup ∧ (participants.map (·.slotPosition)).Nodup := by
  have related := roundSelections_eq_ok ran
  have byAccount : (placedRows tables roundId accounts).map (·.1.accountId) =
    participants.map (·.accountId) :=
    map_eq_of_related (related.imp fun _ _ same => same.1.symm)
  have byPlace : (placedRows tables roundId accounts).map (·.2) = participants.map (·.slotPosition) :=
    map_eq_of_related (related.imp fun _ _ same => same.2.1.symm)
  have rows : tables.roundParticipants.rows.Nodup := by
    have distinct := tables.roundParticipants.nodup_of_unique (List.mem_cons_self ..)
    rw [List.filter_eq_self.mpr fun _ _ => rfl] at distinct
    exact .of_map _ distinct
  have listed : (placedRows tables roundId accounts).Nodup := by
    apply List.Nodup.filterMap
    · intro first second entry one two
      obtain ⟨_, _, rfl⟩ := map_eq_some_iff.mp one
      obtain ⟨_, _, same⟩ := map_eq_some_iff.mp two
      exact (congrArg Prod.fst same).symm
    · exact (List.perm_insertionSort _ _).nodup_iff.mpr (rows.filter _)
  have unique : ∀ {one two}, one ∈ placedRows tables roundId accounts →
    two ∈ placedRows tables roundId accounts →
    one.1.accountId = two.1.accountId ∨ one.2 = two.2 → one = two := by
    rintro ⟨row, slot⟩ ⟨other, slot'⟩ one two same
    obtain ⟨stored, round, _, placed⟩ := mem_placedRows.mp one
    obtain ⟨stored', round', _, placed'⟩ := mem_placedRows.mp two
    have rounds := round.trans round'.symm
    obtain rfl : row = other := by
      rcases same with same | same
      · exact tables.roundParticipants.eq_of_unique (List.mem_cons_self ..) stored rfl stored' rfl
          (Prod.ext rounds same)
      · have slots : row.slotNumber = other.slotNumber :=
          placed.trans ((congrArg some same).trans placed'.symm)
        exact tables.roundParticipants.eq_of_unique
          (List.mem_cons_of_mem _ (List.mem_cons_of_mem _
            (List.mem_cons_of_mem _ (List.mem_cons_self ..)))) stored
          (isSome_of_eq_some placed) stored' (isSome_of_eq_some placed') (Prod.ext rounds slots)
    rw [placed] at placed'
    rw [some.inj placed']
  rw [← byAccount, ← byPlace]
  constructor
  · exact listed.map_on fun _ one _ two same => unique one two (.inl same)
  · exact listed.map_on fun _ one _ two same => unique one two (.inr same)

/-- The tables after a round has started, as a snapshot shows them: the same accounts, and
the participants with their mods frozen. -/
structure Begins (before : DurableRoomSnapshot) (participants : List RoundParticipantSelection)
    (record : RoomRecord) (snapshot : DurableRoomSnapshot) : Prop where
  room : snapshot.room = record
  settings : record.settings = before.room.settings
  accounts : ∀ account, account ∈ snapshot.activeAccountIds ↔ account ∈ before.activeAccountIds
  distinct : (snapshot.roundParticipants.map (·.accountId)).Nodup ∧
    (snapshot.roundParticipants.map (·.slotPosition)).Nodup
  selected : ∀ participant ∈ participants, participant.accountId ∈ before.activeAccountIds →
    ∃ frozen ∈ snapshot.roundParticipants, Frozen before.room.settings participant frozen
  frozen : ∀ frozen ∈ snapshot.roundParticipants, ∃ participant ∈ participants,
    Frozen before.room.settings participant frozen

theorem Current.present_iff (current : Current tables snapshot) : account ∈ snapshot.activeAccountIds ↔
    ∃ presence ∈ tables.present snapshot.room.sessionId, presence.accountId = account := by
  constructor
  · exact current.present
  · rintro ⟨presence, present, rfl⟩
    obtain ⟨_, ran⟩ := current
    obtain ⟨_, _, accounts, _⟩ := loadSnapshot_eq_ok ran
    rw [accounts]
    exact mem_listParticipants present

section

variable {commandId roundId : Uuid} {expectedVersion : Nat}
variable {committed : Committed} {record : RoomRecord}

/-- The rows of a round that has just started. -/
structure Opening (tables later : Tables) (before : DurableRoomSnapshot)
    (participants : List RoundParticipantSelection) (record : RoomRecord) (round : Round)
    (frozen : List RoundParticipant) : Prop where
  session : record.sessionId = before.room.sessionId
  playing : round ∈ later.playing record.sessionId
  unknown : ¬ ∃ old ∈ tables.rounds.rows, old.id = round.id
  present : later.present record.sessionId = tables.present record.sessionId
  rows : later.roundParticipants.rows = tables.roundParticipants.rows ++ frozen
  froze : List.Forall₂ (Freezes before.room.settings round.id) participants frozen

theorem startRound_opening (sound : Sound tables) (current : Current tables before)
    (keyed : before.room.publicId = publicId) (idle : before.roundId = none)
    (change : Change tables tables
      (.startRound commandId actor publicId expectedVersion roundId participants) later)
    (standing : Standing later record) (public_ : record.publicId = publicId)
    (active : (later.activeRoundId record.sessionId).isSome = true) :
    ∃ round frozen, Opening tables later before participants record round frozen := by
  have session : record.sessionId = before.room.sessionId := by
    have hosts := change.hosted_before sound rfl standing.hosts
    rw [public_, ← keyed] at hosts
    exact current.standing.hosts.unique sound hosts
  have quiet : tables.playing record.sessionId = [] := by
    rw [session]
    obtain ⟨_, ran⟩ := current
    obtain ⟨_, _, _, ⟨_, none⟩ | ⟨_, _, named, _⟩⟩ := loadSnapshot_eq_ok ran
    · exact none
    · rw [idle] at named
      cases named
  obtain ⟨key, begun⟩ := isSome_iff_exists.mp active
  obtain ⟨round, playing, _⟩ := activeRoundId_eq_some begun
  have unknown : ¬ ∃ old ∈ tables.rounds.rows, old.id = round.id := by
    intro known
    have old := change.lasting.playing _ _ playing known
    rw [quiet] at old
    cases old
  obtain ⟨_, house, _, found, _, placed, present, frozen, rows, froze⟩ := change.begun playing unknown
  have settings : before.room.settings = house.settings :=
    current.standing.settings_eq sound found ((placed publicId commandId rfl).trans keyed.symm)
  exact ⟨round, frozen, session, playing, unknown, present, rows, settings ▸ froze⟩

/-- What a snapshot shows of a round that has just started. -/
theorem Opening.begins {round : Round} (paced : Paced tables)
    (opening : Opening tables later before participants record round frozen) (current : Current tables before)
    (loads : later.loadSnapshot record = .ok snapshot) (room : snapshot.room = record)
    (settings : record.settings = before.room.settings) : Begins before participants record snapshot := by
  have currentAfter : Current later snapshot := ⟨record, loads⟩
  have accounts : ∀ account, account ∈ snapshot.activeAccountIds ↔ account ∈ before.activeAccountIds := by
    intro account
    rw [currentAfter.present_iff, current.present_iff, room, opening.present, opening.session]
  obtain ⟨_, _, _, ⟨_, none⟩ | ⟨other, playing, _, selects⟩⟩ := loadSnapshot_eq_ok loads
  · have playing := opening.playing
    rw [← room, none] at playing
    cases playing
  obtain rfl := playing_unique opening.playing (room ▸ playing)
  refine ⟨room, settings, accounts, roundSelections_nodup selects, ?_, ?_⟩
  · intro participant chosen there
    obtain ⟨row, stored, freezes⟩ := exists_related opening.froze chosen
    have listed : (row, participant.slotPosition) ∈ placedRows later other.id snapshot.activeAccountIds := by
      refine mem_placedRows.mpr ⟨opening.rows ▸ List.mem_append_right _ stored, freezes.round, ?_,
        freezes.slot⟩
      rw [freezes.account]
      exact (accounts _).mpr there
    obtain ⟨selected, shown, account, position, team, mods⟩ :=
      exists_related (roundSelections_eq_ok selects) listed
    exact ⟨selected, shown, account.trans freezes.account, position, team.trans freezes.team,
      mods ▸ freezes.mods⟩
  · intro selected shown
    obtain ⟨row, stored, ofRound, account, position, team, mods⟩ := mem_roundSelections selects shown
    rw [opening.rows] at stored
    rcases List.mem_append.mp stored with old | new
    · obtain ⟨owner, there, same⟩ := paced.owned row old
      exact absurd ⟨owner, there, same.trans ofRound⟩ opening.unknown
    · obtain ⟨participant, chosen, freezes⟩ := exists_of_related opening.froze new
      have place := freezes.slot.symm.trans position
      exact ⟨participant, chosen, account.trans freezes.account, (some.inj place).symm,
        team.trans freezes.team, mods ▸ freezes.mods⟩

theorem startRound_begins (reached : Reachable tables)
    (loads : loaded tables (tables.getRoom publicId) = .ok (some before))
    (idle : before.roundId = none) (unanswered : tables.findCommandRoom commandId = .ok none)
    (ran : commit tables policies moment
      (.startRound commandId actor publicId expectedVersion roundId participants) =
      .ok (committed, later))
    (answered : committed.room = some record) (active : committed.roundId.isSome = true) :
    ∃ snapshot, loaded later (later.getRoom publicId) = .ok (some snapshot) ∧
      Begins before participants record snapshot := by
  obtain ⟨_, published, _, _, round⟩ := commit_eq_ok ran
  obtain ⟨change, serves⟩ := commit_record rfl unanswered ran answered
  have sound := reached.sound
  rw [answered] at published round
  obtain ⟨standing, keyed⟩ := serves.standing
  obtain ⟨_, located, loadsBefore⟩ := loaded_eq_ok loads
  have current : Current tables before := ⟨_, loadsBefore⟩
  have keyedBefore : before.room.publicId = publicId :=
    (standing_of_getRoom (loadSnapshot_eq_ok loadsBefore).1).2.trans (standing_of_getRoom located).2
  have settings : record.settings = before.room.settings := by
    obtain ⟨house, _, found, public_, answer⟩ := serves
    rw [current.standing.settings_eq sound found (public_.trans keyedBefore.symm)]
    rcases answer with ⟨_, recorded, _⟩ | ⟨_, revises⟩
    · exact record_settings recorded
    · exact revises.settings
  obtain ⟨started, frozen, opening⟩ := startRound_opening sound current keyedBefore idle
    change standing keyed (by rwa [round] at active)
  obtain ⟨snapshot, some, _⟩ := loaded_standing published
  rw [some] at published
  obtain ⟨_, ⟨⟩, loadsAfter⟩ := loaded_eq_ok published
  have standingAfter := standing.found (sound.change change)
  have shown : snapshot.room = record := by
    have located := (loadSnapshot_eq_ok loadsAfter).1
    rw [standingAfter] at located
    cases located
    rfl
  exact ⟨snapshot, by rwa [← keyed, standingAfter],
    opening.begins reached.paced current loadsAfter shown settings⟩

end

section

variable {record : RoomRecord} {roundId : Option Uuid}

theorem Begins.loaded (begins : Begins before participants record snapshot)
    (selected : selections state = .ok participants)
    (built : roundStarted state record roundId participants = .ok next)
    (accounts : ∀ account, account ∈ accountsOf state.slots ↔ account ∈ before.activeAccountIds) :
    Loaded snapshot := by
  have room : next.room = snapshot.room := (roundStarted_eq_ok built).1.trans begins.room.symm
  have seated : ∀ account, account ∈ accountsOf next.slots ↔ account ∈ snapshot.activeAccountIds := by
    intro account
    rw [roundStarted_accounts built, accounts, begins.accounts]
  refine ⟨?_, ?_, begins.distinct.1, begins.distinct.2, ?_⟩
  · rw [← seated, ← room]
    exact next.hosted
  · calc snapshot.activeAccountIds.length
      ≤ (accountsOf next.slots).length :=
          (List.subperm_of_subset snapshot.accounts.1 fun _ active => (seated _).mpr active).length_le
      _ ≤ next.slots.length := List.length_filterMap_le _ _
      _ = snapshot.room.capacity := by rw [next.sized, room]
  · intro frozen shown
    obtain ⟨participant, chosen, same⟩ := begins.frozen frozen shown
    obtain ⟨slot, member, playing, _, position, _⟩ := mem_selections selected chosen
    obtain ⟨turned, there, place, _⟩ := roundStarted_plays built member playing
    have listed : turned.position ∈ next.slots.map (·.position) := List.mem_map_of_mem there
    rw [next.ordered, room, List.mem_range] at listed
    rwa [same.position, position, ← place]

/-- What a rebuilt room makes of the mods that were frozen for a player. -/
theorem Frozen.personal (froze : Frozen room.settings selection frozen) (normal : Normalized selection.mods)
    (apart : ∀ item ∈ selection.mods, item.acronym ∉ room.settings.mods.map (·.acronym)) :
    personalMods room frozen.mods = selection.mods ↔ room.settings.freeMods = true ∨ selection.mods = [] := by
  have details := froze.mods
  unfold participantMods at details
  unfold personalMods
  by_cases free : room.settings.freeMods = true
  · rw [if_pos free] at details ⊢
    exact ⟨fun _ => .inl free, fun _ => filter_details normal apart details⟩
  · rw [if_neg free]
    exact ⟨fun none => .inr none.symm, fun either => (either.resolve_left free).symm⟩

section

variable (begins : Begins before participants record snapshot)
  (selected : selections state = .ok participants)
  (accounts : ∀ account, account ∈ accountsOf state.slots ↔ account ∈ before.activeAccountIds)
  (facts : Rebuilt snapshot rebuilt) (seats : (accountsOf rebuilt.slots).Perm snapshot.activeAccountIds)
  (normal : ∀ slot ∈ state.slots, Normalized slot.mods)
  (apart : ∀ slot ∈ state.slots, ∀ item ∈ slot.mods, item.acronym ∉ before.room.settings.mods.map (·.acronym))

include begins selected accounts facts seats normal apart

/-- A player in a rebuilt room. Only its mods may be lost. -/
theorem Begins.restores (member : slot ∈ state.slots) (playing : plays slot = true) :
    ∃ other ∈ rebuilt.slots, other.accountId = slot.accountId ∧ other.status = .playing ∧
      other.position = slot.position ∧ other.team = slot.team ∧
      (other.mods = slot.mods ↔ before.room.settings.freeMods = true ∨ slot.mods = []) := by
  obtain ⟨participant, chosen, named, position, team, mods⟩ := selections_complete selected member playing
  have present : participant.accountId ∈ before.activeAccountIds :=
    (accounts _).mp (List.mem_filterMap.mpr ⟨slot, member, named⟩)
  obtain ⟨frozen, shown, froze⟩ := begins.selected participant chosen present
  have seated : frozen.accountId ∈ accountsOf rebuilt.slots := by
    rw [seats.mem_iff, froze.account, begins.accounts]
    exact present
  obtain ⟨other, there, account⟩ := List.mem_filterMap.mp seated
  have built := facts.seats_frozen begins.distinct.1 shown there account
  obtain ⟨place, status, _, side, own⟩ := RoomSlot.new_eq_ok built
  refine ⟨other, there, ?_, status, ?_, ?_, ?_⟩
  · rw [account, named, froze.account]
  · rw [place, froze.position, position]
  · rw [side, froze.team, team]
  have settings : snapshot.room.settings = before.room.settings := by rw [begins.room, begins.settings]
  rw [← settings] at froze apart ⊢
  rw [own, ← mods]
  apply froze.personal
  · exact mods ▸ normal slot member
  · exact mods ▸ apart slot member

/-- Players keep their mods where free mods are on, or where they have none. -/
theorem Begins.samePlay (built : roundStarted state record roundId participants = .ok next) :
    (∀ account ∈ participants.map (·.accountId), SamePlay next rebuilt account) ↔
      before.room.settings.freeMods = true ∨ ∀ slot ∈ state.slots, plays slot = true → slot.mods = [] := by
  constructor
  · intro all
    by_cases free : before.room.settings.freeMods = true
    · exact .inl free
    refine .inr fun slot member playing => ?_
    obtain ⟨participant, chosen, named, _⟩ := selections_complete selected member playing
    obtain ⟨turned, there, other, seated, account, account', _, _, _, _, mods⟩ :=
      all _ (List.mem_map_of_mem chosen)
    obtain ⟨started, inside, _, _, same, _, kept⟩ := roundStarted_plays built member playing
    obtain ⟨found, present, holder, _, _, _, only⟩ :=
      begins.restores selected accounts facts seats normal apart member playing
    obtain rfl := next.seat_unique there account inside (same.trans named)
    obtain rfl := rebuilt.seat_unique seated account' present (holder.trans named)
    exact (only.mp (mods.trans kept)).resolve_left free
  · intro either account chosen
    obtain ⟨participant, listed, rfl⟩ := List.mem_map.mp chosen
    obtain ⟨slot, member, playing, named, _⟩ := mem_selections selected listed
    obtain ⟨started, inside, place, status, same, team, kept⟩ := roundStarted_plays built member playing
    obtain ⟨found, present, holder, status', place', team', only⟩ :=
      begins.restores selected accounts facts seats normal apart member playing
    have mods := only.mpr (either.imp_right fun none => none slot member playing)
    exact ⟨started, inside, found, present, same.trans named, holder.trans named, status, status',
      place'.trans place.symm, team'.trans team.symm, mods.trans kept.symm⟩

theorem Begins.seatedApart (built : roundStarted state record roundId participants = .ok next)
    (active : account ∈ snapshot.activeAccountIds) (away : account ∉ participants.map (·.accountId)) :
    ∃ slot ∈ rebuilt.slots, slot.accountId = some account ∧ ∀ player ∈ participants.map (·.accountId),
      ∀ taken ∈ next.slots, taken.accountId = some player → taken.position ≠ slot.position := by
  obtain ⟨slot, there, named⟩ := List.mem_filterMap.mp (seats.mem_iff.mpr active)
  refine ⟨slot, there, named, fun player chosen taken inside holder same => ?_⟩
  obtain ⟨participant, listed, rfl⟩ := List.mem_map.mp chosen
  obtain ⟨seat, member, playing, occupant, _⟩ := mem_selections selected listed
  obtain ⟨started, turned, place, _, account', _⟩ := roundStarted_plays built member playing
  obtain ⟨found, present, account'', _, place', _⟩ :=
    begins.restores selected accounts facts seats normal apart member playing
  obtain rfl := next.seat_unique inside holder turned (account'.trans occupant)
  have positions : (rebuilt.slots.map (·.position)).Nodup := rebuilt.ordered ▸ List.nodup_range
  obtain rfl := List.inj_on_of_nodup_map positions present there (place'.trans (place.symm.trans same))
  rw [account'', occupant] at named
  exact away (some.inj named ▸ chosen)

end

end

end

/-- A round is started in a live room, and the room is then rebuilt from the tables. Every
account that does not play has a free place in the rebuilt room. Every player has the same
place, team and mods and plays as in the projection, if free mods are on or no player has
mods of its own, and only then. -/
theorem startRound_recovers {origin : CommandMeta} {expectedVersion : Nat} {roundId : Uuid}
    (reached : Reachable world.tables) (live : Live service.repo publicId world.store state)
    (upToDate : UpToDate world.tables publicId state before)
    (normal : ∀ slot ∈ state.slots, Normalized slot.mods)
    (apart : ∀ slot ∈ state.slots, ∀ item ∈ slot.mods,
      item.acronym ∉ state.room.settings.mods.map (·.acronym))
    (unanswered : world.tables.findCommandRoom (service.commandId origin.accountId origin) = .ok none)
    (ran : (service.startRound origin publicId expectedVersion roundId).run (execute service) world =
      (.ok (some result), after)) :
    (Holds service.repo publicId after.store result ∨ result.projectionStatus = .durableRecovery) ∧
    ∃ snapshot, loaded after.tables (after.tables.getRoom publicId) = .ok (some snapshot) ∧
      ∀ now degraded, ∃ rebuilt,
      stateFromSnapshot now service.stateLifetime (some snapshot) degraded = .ok rebuilt ∧
      (∀ account ∈ snapshot.activeAccountIds, account ∉ result.roundParticipantAccountIds →
        SeatedApart result rebuilt account) ∧
      ((∀ account ∈ result.roundParticipantAccountIds, SamePlay result rebuilt account) ↔
        state.room.settings.freeMods = true ∨ ∀ slot ∈ state.slots, plays slot = true → slot.mods = []) := by
  have ends : Ends service (fun _ _ => True)
    (service.startRound origin publicId expectedVersion roundId) world _ :=
    startRound_ends live upToDate unanswered
  have held := ends.ends (permits_of_forall (fun _ _ => trivial) _ _)
  rw [ran] at held
  obtain ⟨participants, committed, record, next, idle, selected, commits, answered, built,
    outcome⟩ := held result rfl
  obtain ⟨_, ⟨_, active⟩, frozen, _⟩ := roundStarted_eq_ok built
  have resting : before.roundId = none := by
    rw [← upToDate.round, ← not_isSome_iff_eq_none, ← state.progress, idle]
    exact Bool.false_ne_true
  obtain ⟨snapshot, shows, begins⟩ :=
    startRound_begins reached upToDate.loads resting unanswered commits answered active
  have accounts := upToDate.accounts
  rw [upToDate.settings] at apart ⊢
  -- What is stored and what is returned have the slots of the next state.
  have same : result.slots = next.slots ∧
    result.roundParticipantAccountIds = next.roundParticipantAccountIds := by
    rcases outcome with ⟨rfl, _⟩ | rfl
    · exact ⟨rfl, rfl⟩
    · exact ⟨rfl, rfl⟩
  refine ⟨?_, snapshot, shows, fun now degraded => ?_⟩
  · rcases outcome with ⟨_, holds⟩ | rfl
    · exact .inl holds
    · exact .inr rfl
  obtain ⟨rebuilt, rebuilds, seats, _, _⟩ :=
    stateFromSnapshot_ok now service.stateLifetime degraded (begins.loaded selected built accounts)
  have facts := stateFromSnapshot_eq_ok rebuilds
  refine ⟨rebuilt, rebuilds, ?_⟩
  simp only [SeatedApart, SamePlay, same.1, same.2, frozen]
  constructor
  · exact fun account active away =>
      begins.seatedApart selected accounts facts seats normal apart built active away
  · exact begins.samePlay selected accounts facts seats normal apart built

def startOrigin : CommandMeta := sampleOrigin 1 "start" 9

def sampleStart (expectedVersion : Nat) : Method (Option RoomState) :=
  plainService.startRound startOrigin 1 expectedVersion (sampleKey 31)

/-- The mods of the slots when a round starts: before, in the projection that the start
leaves, and in the room that is rebuilt from the tables. -/
structure RecoveredMods where
  players : List Nat
  before : List (List String)
  projected : List (List String)
  rebuilt : List (List String)
  deriving DecidableEq

def slotMods (state : RoomState) : List (List String) := state.slots.map fun slot => slot.mods.map (·.acronym)

/-- Start a round in a room whose projection is live and in step with the tables, and
rebuild it. -/
def recoveredMods (expectedVersion : Nat) (world : World RoomState) : Option RecoveredMods :=
  match content plainRepo 1 world.store, loaded world.tables (world.tables.getRoom 1),
    (sampleStart expectedVersion).run (execute plainService) world with
  | some state, .ok (some before), (.ok (some result), after) =>
    match reconcile world.store.clock 1000 state before, loaded after.tables (after.tables.getRoom 1) with
    | .ok (.current current), .ok (some snapshot) =>
      match stateFromSnapshot after.store.clock 1000 (some snapshot) with
      | .ok rebuilt =>
        if world.store.clock < current.expiresAt.millis then
          some ⟨result.roundParticipantAccountIds, slotMods state, slotMods result, slotMods rebuilt⟩
        else none
      | _ => none
    | _, _ => none
  | _, _, _ => none

/-- Enough calls for a request to end. -/
def toTheEnd (identity : Nat) : List (Machine.Turn Request) := List.replicate 12 (.move identity)

/-- A guest chooses a mod while the host turns free mods off: the choice is checked before
the change and stored after it. -/
def racedTurns : List (Machine.Turn Request) :=
  .start 0 (sampleOpening { sampleSettings with freeMods := true, mods := [doubleTime] } 2) :: toTheEnd 0 ++
  .start 1 (sampleJoining 2 2) :: toTheEnd 1 ++
  .start 2 (.setSlotMods 1 2 [hidden]) :: List.replicate 6 (.move 2) ++
  .start 3 (.updateSettings (sampleOrigin 1 "settings" 3) 1 2
    { sampleSettings with mods := [doubleTime] }) :: toTheEnd 3 ++
  toTheEnd 2

def racedSystem : System Call Answer Failure (Option RoomState) (World RoomState) Request :=
  racedTurns.foldl (plainService.machine.play fun _ _ _ => true) (.initial (.empty 0))

/-- The guest has a mod of its own in a room without free mods. It plays the round with the
mod, and without it once the room is rebuilt. -/
theorem raced_unrecovered : plainService.machine.Reachable (.empty 0) racedSystem ∧
    projectedMods racedSystem.store = some (false, ["DT"], [[], ["HD"]]) ∧
    recoveredMods 3 racedSystem.store = some ⟨[1, 2], [[], ["HD"]], [[], ["HD"]], [[], []]⟩ :=
  ⟨.plays (fun _ _ _ _ => trivial) .initial _, by decide +kernel⟩

instance : DecidablePred Normalized := fun _ => inferInstanceAs (Decidable (List.Pairwise _ _))

/-- Whether a projection is live and up to date, its settings apart, with mods that can be
told from those of the room. -/
def upToDateTest (world : World RoomState) : Bool :=
  match content plainRepo 1 world.store, loaded world.tables (world.tables.getRoom 1) with
  | some state, .ok (some before) =>
    (world.store.clock < state.expiresAt.millis ∧ state.room.roomId = before.room.roomId ∧
      state.room.sessionId = before.room.sessionId ∧ state.room.version = before.room.version ∧
      state.roundId = before.roundId ∧ accountsOf state.slots ⊆ before.activeAccountIds ∧
      before.activeAccountIds ⊆ accountsOf state.slots ∧ (∀ slot ∈ state.slots, Normalized slot.mods) ∧
      (∀ slot ∈ state.slots, ∀ item ∈ slot.mods, item.acronym ∉ state.room.settings.mods.map (·.acronym)) ∧
      state.room.settings.freeMods = true)
  | _, _ => false

theorem upToDate_of_test {world : World RoomState} (kept : Kept plainService world)
    (rules : modLaw.Rules plainService world) (passed : upToDateTest world = true) :
    ∃ state before, Live plainService.repo 1 world.store state ∧
      UpToDate world.tables 1 state before ∧ (∀ slot ∈ state.slots, Normalized slot.mods) ∧
      (∀ slot ∈ state.slots, ∀ item ∈ slot.mods, item.acronym ∉ state.room.settings.mods.map (·.acronym)) ∧
      state.room.settings.freeMods = true := by
  unfold upToDateTest at passed
  split at passed
  · next state before found loads =>
    obtain ⟨live, room, session, version, round, inside, covers, normal, apart, free⟩ :=
      of_decide_eq_true passed
    have holds := kept.holds found
    obtain ⟨_, _, ran⟩ := loaded_eq_ok loads
    have current : Current world.tables before := ⟨_, ran⟩
    have settings := (rules.stored 1 state holds).abreast.settings current.standing session version
    exact ⟨state, before, ⟨holds, live⟩, ⟨loads, room, session, version, settings, round,
      fun _ => ⟨fun seated => inside seated, fun active => covers active⟩⟩, normal, apart, free⟩
  · cases passed

theorem split_recovers : ∃ result after snapshot,
    (sampleStart 3).run (execute plainService) splitWorld = (.ok (some result), after) ∧
    result.roundParticipantAccountIds = [1, 2] ∧
    loaded after.tables (after.tables.getRoom 1) = .ok (some snapshot) ∧ ∀ now degraded, ∃ rebuilt,
      stateFromSnapshot now plainService.stateLifetime (some snapshot) degraded = .ok rebuilt ∧
      SamePlay result rebuilt 1 ∧ SamePlay result rebuilt 2 := by
  have runs : Runs plainService (SparesMods plainService) (fun _ _ => True) (.empty 0) splitWorld :=
    runs_of_checks sparesMods_of_test (by decide +kernel)
  obtain ⟨tested, players, fresh⟩ : upToDateTest splitWorld = true ∧
    ((sampleStart 3).run (execute plainService) splitWorld).1.toOption.join.map
      (·.roundParticipantAccountIds) = some [1, 2] ∧
    splitWorld.tables.commandApplied (plainService.commandId startOrigin.accountId startOrigin) = false := by
    decide +kernel
  have reached : Reached plainService splitWorld := reached_sample _
  have rules := modLaw_keeps.runs runs
  generalize splitWorld = world at *
  obtain ⟨state, before, live, upToDate, normal, apart, free⟩ := upToDate_of_test reached.kept rules tested
  obtain ⟨result, found, players⟩ := map_eq_some_iff.mp players
  have ran : (sampleStart 3).run (execute plainService) world =
    (.ok (some result), ((sampleStart 3).run (execute plainService) world).2) :=
    Prod.ext (eq_ok_of_join found) rfl
  have unanswered := findCommandRoom_of_fresh fresh
  obtain ⟨_, snapshot, loads, recovers⟩ :=
    startRound_recovers reached.tables live upToDate normal apart unanswered ran
  refine ⟨result, _, snapshot, ran, players, loads, fun now degraded => ?_⟩
  obtain ⟨rebuilt, rebuilds, _, same⟩ := recovers now degraded
  have all := same.mpr (.inl free)
  rw [players] at all
  exact ⟨rebuilt, rebuilds, all 1 (by decide), all 2 (by decide)⟩

end Perfcho.Service
