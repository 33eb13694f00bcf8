import Perfcho.Consumers.RoundResults
import Perfcho.Durable.Writes

/-! Results and standings along whole runs, in which rounds are played, scores are bound
and settings change while the events are delivered in any order. -/

namespace Perfcho.Consumers

open Foundation Multiplayer Durable Function List

/-- The scores that a round had when it was last processed. -/
abbrev Seen := Uuid → Option (Nat → Option ScoreValues)

/-- Whether a round was started in teams. -/
def playsTeams (round : Round) : Bool := round.settings.teamMode ∈ teamModes

/-- The scores that count for a round when its participants have these. -/
def counted (tables : Tables) (scores : Nat → Option ScoreValues) (round : Round) :
    List (MetricRow ScoreValues) :=
  if round.status = .completed then scored tables (fun _ => scores) round.id else []

/-- The rows of a round, from what was frozen with it and the scores. -/
def frozenRows (tables : Tables) (scores : Nat → Option ScoreValues) (round : Round) : List RoundResult :=
  keptRows round.id (playsTeams round) round.settings.winCondition (counted tables scores round)

def Board.empty : Board where
  tables := .empty
  issued _ := false
  scores _ _ := none
  results _ := []
  standings _ _ _ := none

/-- The score of an account is accepted for a round. -/
def Board.bindScore (board : Board) (roundId : Uuid) (account : Nat) (score : ScoreValues) : Board :=
  { board with
    scores := update board.scores roundId (update (board.scores roundId) account (some score)) }

/-- What is seen after a delivery: a round in progress is left for later. -/
def Board.seenAfter (board : Board) (roundId : Uuid) (seen : Seen) : Seen :=
  match board.lifecycle roundId with
  | none => seen
  | some (round, _) =>
    if round.status = .inProgress then seen else update seen roundId (some (board.scores roundId))

/-- The boards of a run: rooms change, attempts are issued, scores are bound once, and
events are delivered in any order and any number of times. -/
inductive Delivered (allowed : Board → Uuid → Prop) : Board → Seen → Prop where
  | start : Delivered allowed .empty fun _ => none
  | command {board : Board} {seen : Seen} {policies : Policies} {read after : Tables}
      {moment : Moment} {command : Command} {answer : Option RoomRecord} {issued : Uuid → Bool}
      (run : Delivered allowed board seen)
      (ran : transact policies read board.tables moment command = .ok (answer, after)) :
      Delivered allowed { board with tables := after, issued } seen
  | rollsBack {board : Board} {seen : Seen} {epochs : Nat} (run : Delivered allowed board seen)
      (spent : board.tables.epochs ≤ epochs) :
      Delivered allowed { board with tables := { board.tables with epochs } } seen
  | binds {board : Board} {seen : Seen} {roundId : Uuid} {account : Nat} (run : Delivered allowed board seen)
      (free : board.scores roundId account = none) (score : ScoreValues) :
      Delivered allowed (board.bindScore roundId account score) seen
  | delivers {board after : Board} {seen : Seen} {roundId : Uuid} (run : Delivered allowed board seen)
      (permitted : allowed board roundId) (ran : board.applyRound roundId = .ok after) :
      Delivered allowed after (board.seenAfter roundId seen)

/-- The session plays in teams now exactly if it did in each of its completed rounds. -/
def Steady (board : Board) (roundId : Uuid) : Prop :=
  ∀ round session, board.lifecycle roundId = some (round, session) →
    ∀ other ∈ board.roundsOf session.id, other.status = .completed → playsTeams other = board.teamed session

section

variable {board after : Board} {results : Uuid → List RoundResult} {sessionId : Uuid} {team : Bool}
  {key : Nat} {tables : Tables}

def pointsOf (results : Uuid → List RoundResult) (team : Bool) (key : Nat) (roundId : Uuid) : Nat :=
  (((results roundId).filter (·.subject team = some key)).map (·.points)).sum

theorem total_eq : board.total results sessionId team key =
    ((board.tables.roundIds sessionId).map (pointsOf results team key)).sum := by
  unfold Board.total Board.roundsOf Tables.roundIds
  rw [map_map]
  rfl

theorem mem_roundIds : roundId ∈ tables.roundIds sessionId ↔
    ∃ round ∈ tables.rounds.rows, round.sessionId = sessionId ∧ round.id = roundId := by
  unfold Tables.roundIds
  simp only [mem_map, mem_filter, decide_eq_true_eq, and_assoc]

theorem total_congr (ids : after.tables.roundIds sessionId = board.tables.roundIds sessionId)
    (same : ∀ roundId ∈ board.tables.roundIds sessionId, others roundId = results roundId) :
    after.total others sessionId team key = board.total results sessionId team key := by
  rw [total_eq, total_eq, ids]
  congr 1
  apply map_congr_left
  intro roundId member
  rw [pointsOf, same roundId member]
  rfl

theorem tookPart_of_row {round : Round} (stored : round ∈ board.tables.rounds.rows)
    (listed : row ∈ frozenRows board.tables scores round)
    (named : row.subject (playsTeams round) = some key) :
    board.tookPart round.sessionId (playsTeams round) key = true := by
  have distinct : ((counted board.tables scores round).map (·.accountId)).Nodup := by
    unfold counted
    split
    · exact scored_accounts ..
    · exact nodup_nil
  have tabled : Tabled (playsTeams round)
    (subjects (playsTeams round) round.settings.winCondition (counted board.tables scores round))
    (frozenRows board.tables scores round) := keptRows_tabled round.id distinct
  obtain ⟨entry, member, theirs, _⟩ := tabled.metrics row listed
  rw [named] at theirs
  -- The subject is the account or the team of a participant with a score.
  have participant : ∀ scored ∈ counted board.tables scores round,
    ∃ participant ∈ board.tables.roundParticipants.rows, participant.roundId = round.id ∧
      participant.accountId = scored.accountId ∧ participant.teamNumber = scored.teamNumber := by
    intro scored member
    unfold counted at member
    split at member
    · obtain ⟨participant, inside, made⟩ := mem_filterMap.mp member
      obtain ⟨held, here⟩ := mem_filter.mp ((mem_insertionSort _).mp inside)
      obtain ⟨_, _, rfl⟩ := Option.map_eq_some_iff.mp made
      exact ⟨participant, held, of_decide_eq_true here, rfl, rfl⟩
    · cases member
  refine any_eq_true.mpr ⟨round, mem_filter.mpr ⟨stored, decide_eq_true rfl⟩, ?_⟩
  unfold subjects at member
  split at member
  · next teams =>
    obtain ⟨number, inside, rfl⟩ := mem_map.mp member
    obtain ⟨found, positive⟩ := mem_filter.mp (mem_dedup.mp inside)
    obtain ⟨scored, listed, rfl⟩ := mem_map.mp found
    obtain ⟨participant, held, here, _, team⟩ := participant scored listed
    refine any_eq_true.mpr ⟨participant, held, ?_⟩
    have same : key = scored.teamNumber := Option.some.inj theirs
    simpa [here, teams, team, same] using positive
  · next alone =>
    obtain ⟨scored, listed, rfl⟩ := mem_map.mp member
    obtain ⟨participant, held, here, account, _⟩ := participant scored listed
    refine any_eq_true.mpr ⟨participant, held, ?_⟩
    have same : key = scored.accountId := Option.some.inj theirs
    simp [here, alone, account, same]

end

/-- The rounds that were processed have the rows of what was frozen with them, and the
standings count these rows. -/
structure Kept (board : Board) (seen : Seen) : Prop where
  frozen : ∀ roundId scores, seen roundId = some scores → ∃ round ∈ board.tables.rounds.rows,
    round.id = roundId ∧ round.status ≠ .inProgress ∧
    board.results roundId = frozenRows board.tables scores round
  unseen : ∀ roundId, seen roundId = none → board.results roundId = []
  stands : ∀ round ∈ board.tables.rounds.rows, ∀ scores, seen round.id = some scores →
    ∀ row ∈ board.results round.id, ∀ key, row.subject (playsTeams round) = some key →
      board.standings round.sessionId (playsTeams round) key =
        some (board.total board.results round.sessionId (playsTeams round) key)

section

variable {board after : Board} {seen : Seen}

/-- What a round has frozen does not change with the rooms. -/
theorem counted_kept {round : Round}
    (participants : later.roundParticipants.rows.filter (·.roundId = round.id) =
      tables.roundParticipants.rows.filter (·.roundId = round.id)) (scores :
    Nat → Option ScoreValues) : counted later scores round = counted tables scores round := by
  unfold counted scored
  rw [participants]

theorem Board.seenAfter_self {round : Round}
    (found : board.lifecycle roundId = some (round, session)) (ended : round.status ≠ .inProgress) :
    board.seenAfter roundId seen = update seen roundId (some (board.scores roundId)) := by
  unfold Board.seenAfter
  rw [found]
  exact if_neg ended

theorem Kept.command {read : Tables} {command : Command} (kept : Kept board seen) (issued : Uuid →
    Bool) (ran : transact policies read board.tables moment command = .ok (answer, later)) :
    Kept { board with tables := later, issued } seen := by
  have wrote := transact_wrote ran
  have change := transact_change ran
  constructor
  · intro roundId scores processed
    obtain ⟨round, stored, rfl, ended, rows⟩ := kept.frozen roundId scores processed
    refine ⟨round, wrote.ended_kept stored ended, rfl, ended, rows.trans ?_⟩
    rw [frozenRows, frozenRows, counted_kept (change.participants_kept stored) scores]
  · exact kept.unseen
  · intro round member scores processed row listed key named
    obtain ⟨old, stored, same, ended, _⟩ := kept.frozen round.id scores processed
    cases round_unique member (wrote.ended_kept stored ended) same
    refine (kept.stands round stored scores processed row listed key named).trans (congrArg some ?_)
    rw [total_eq, total_eq]
    rcases wrote.roundIds round.sessionId with ids | ⟨fresh, new, ids⟩
    · rw [ids]
    -- The new round has no results yet.
    have none : board.results fresh = [] := by
      apply kept.unseen
      cases known : seen fresh with
      | none => rfl
      | some scores =>
        obtain ⟨old, stored, same, _⟩ := kept.frozen fresh scores known
        exact absurd same (new old stored)
    rw [ids, map_append, sum_append]
    simp [pointsOf, none]

/-- A delivery does nothing to a round in progress and processes one that has ended. -/
theorem Board.applyRound_cases (ran : board.applyRound roundId = .ok after) :
    ∃ round session, board.lifecycle roundId = some (round, session) ∧ (round.status = .inProgress ∧
        after = board ∨ round.status ≠ .inProgress ∧ after = board.processed round session) := by
  cases found : board.lifecycle roundId with
  | none => simp [Board.applyRound, found] at ran
  | some entry =>
    obtain ⟨round, session⟩ := entry
    refine ⟨round, session, rfl, ?_⟩
    cases status : round.status with
    | inProgress =>
      simp only [Board.applyRound, found, status, Except.ok.injEq] at ran
      exact .inl ⟨rfl, ran.symm⟩
    | pending => simp [Board.applyRound, found, status] at ran
    | completed => exact .inr ⟨by decide, ((Board.applyRound_eq_ok found (.inl status)).mp ran).2⟩
    | aborted => exact .inr ⟨by decide, ((Board.applyRound_eq_ok found (.inr status)).mp ran).2⟩

/-- Only a completed round has rows. -/
theorem keptRows_uncompleted {round : Round} (uncompleted : round.status ≠ .completed) :
    keptRows roundId team winCondition (counted tables scores round) = [] := by
  rw [counted, if_neg uncompleted]
  refine eq_nil_iff_forall_not_mem.mpr fun row listed => ?_
  have tabled : Tabled team (subjects team winCondition []) _ := keptRows_tabled roundId nodup_nil
  obtain ⟨entry, member, _⟩ := tabled.metrics row listed
  cases team <;> cases member

theorem Kept.processed {round : Round} (kept : Kept board seen)
    (found : board.lifecycle round.id = some (round, session)) (ended : round.status ≠ .inProgress)
    (steady : Steady board round.id) :
    Kept (board.processed round session) (update seen round.id (some (board.scores round.id))) := by
  obtain ⟨⟨_, house⟩, stored, _⟩ := Board.of_lifecycle found
  have kind : ∀ other ∈ board.tables.rounds.rows, other.sessionId = session.id → other.status = .completed →
    playsTeams other = board.teamed session := fun other member ours completed =>
    steady round session found other (mem_filter.mpr ⟨member, decide_eq_true ours⟩) completed
  have here : (board.processed round session).results round.id =
    frozenRows board.tables (board.scores round.id) round := by
    refine (update_self ..).trans ?_
    by_cases completed : round.status = .completed
    · rw [frozenRows, kind round stored house.symm completed]
      rfl
    · exact (keptRows_uncompleted completed).trans (keptRows_uncompleted completed).symm
  have elsewhere : ∀ other, other ≠ round.id →
    (board.processed round session).results other = board.results other :=
    fun other different => update_of_ne different ..
  constructor
  · intro roundId scores processed
    by_cases same : roundId = round.id
    · rw [same, update_self] at processed
      cases processed
      exact ⟨round, stored, same.symm, ended, by rw [same, here]; rfl⟩
    · rw [update_of_ne same] at processed
      rw [elsewhere roundId same]
      exact kept.frozen roundId scores processed
  · intro roundId fresh
    have different : roundId ≠ round.id := fun same => by
      rw [same, update_self] at fresh
      cases fresh
    rw [update_of_ne different] at fresh
    rw [elsewhere roundId different]
    exact kept.unseen roundId fresh
  · intro other member scores processed row listed key named
    have frozen : (board.processed round session).results other.id =
      frozenRows board.tables scores other := by
      by_cases same : other.id = round.id
      · cases round_unique stored member same
        rw [update_self] at processed
        cases processed
        exact here
      · rw [update_of_ne same] at processed
        obtain ⟨old, held, key, _, rows⟩ := kept.frozen other.id scores processed
        cases round_unique member held key
        exact (elsewhere _ same).trans rows
    by_cases ours : other.sessionId = session.id
    · have part := tookPart_of_row member (frozen ▸ listed) named
      have completed : other.status = .completed := by
        by_contra uncompleted
        rw [frozen, frozenRows, keptRows_uncompleted uncompleted] at listed
        cases listed
      rw [kind other member ours completed] at part ⊢
      rw [ours] at part ⊢
      exact (if_pos rfl).trans (if_pos ⟨rfl, part⟩)
    · have different : other.id ≠ round.id := fun same => by
        cases round_unique stored member same
        exact ours house.symm
      have before : (board.processed round session).standings other.sessionId =
        board.standings other.sessionId := by
        funext kind key
        exact if_neg ours
      rw [update_of_ne different] at processed
      rw [elsewhere _ different] at listed
      rw [before, kept.stands other member scores processed row listed key named]
      congr 1
      symm
      apply total_congr rfl
      intro roundId inside
      apply elsewhere
      rintro rfl
      obtain ⟨owner, held, theirs, same⟩ := mem_roundIds.mp inside
      cases round_unique stored held same
      exact ours (theirs.symm.trans house.symm)

theorem Delivered.kept (run : Delivered Steady board seen) : Kept board seen := by
  induction run with
  | start =>
    constructor
    · intro _ _ processed
      cases processed
    · intro _ _
      rfl
    · intro _ member
      exact absurd member not_mem_nil
  | command _ ran ih => exact ih.command _ ran
  | rollsBack _ _ ih => exact ⟨ih.frozen, ih.unseen, ih.stands⟩
  | binds _ _ _ ih => exact ⟨ih.frozen, ih.unseen, ih.stands⟩
  | delivers _ steady ran ih =>
    obtain ⟨round, session, found, ⟨status, rfl⟩ | ⟨ended, rfl⟩⟩ := Board.applyRound_cases ran
    · simpa [Board.seenAfter, found, status] using ih
    · obtain ⟨⟨rfl, _⟩, _⟩ := Board.of_lifecycle found
      rw [Board.seenAfter_self found ended]
      exact ih.processed found ended steady

end

/-- While every delivery finds its session as its rounds were started, the rows of a
round are those of what was frozen with it and of the scores it was last processed
with, and the standings count all of them. -/
theorem results_frozen {board : Board} {seen : Seen} (run : Delivered Steady board seen) {round : Round}
    (stored : round ∈ board.tables.rounds.rows) {scores : Nat → Option ScoreValues}
    (processed : seen round.id = some scores) :
    board.results round.id = keptRows round.id (playsTeams round) round.settings.winCondition
        (counted board.tables scores round) ∧
      ∀ row ∈ board.results round.id, ∀ key, row.subject (playsTeams round) = some key →
        board.standings round.sessionId (playsTeams round) key =
          some (board.total board.results round.sessionId (playsTeams round) key) := by
  obtain ⟨old, held, same, _, rows⟩ := run.kept.frozen round.id scores processed
  cases round_unique stored held same
  exact ⟨rows, run.kept.stands round stored scores processed⟩

theorem Delivered.performs (run : Delivered allowed board seen) (turns : List (Moment × Command)) :
    Delivered allowed { board with tables := turns.foldl (perform openPolicies) board.tables } seen := by
  induction turns generalizing board with
  | nil => exact run
  | cons turn rest ih =>
    suffices step : Delivered allowed
      { board with tables := perform openPolicies board.tables turn } seen from ih step
    unfold perform
    split
    · next ran => exact run.command ran
    · exact run

/-- A round in teams, to which both accounts have submitted their scores. -/
def teamBoard : Board :=
  ({ Board.empty with tables := playedTables { sampleSettings with teamMode := .teamVs } }.bindScore
    (sampleKey 50) 1
    (sampleScore 1 500 (by decide))).bindScore (sampleKey 50) 2 (sampleScore 2 700 (by decide))

/-- The host leaves the team mode after the round. -/
def switchedTables : Tables :=
  perform openPolicies (playedTables { sampleSettings with teamMode := .teamVs })
    (⟨5, 4⟩, .updateSettings (sampleKey 60) 1 1 4 { sampleSettings with teamMode := .headToHead })

/-- The two accounts or teams of the round in teams are about to get their results. -/
def Board.due (board : Board) (team : Bool) : Bool :=
  (board.lifecycle (sampleKey 50)).any fun found =>
    decide (found.1.status = .completed ∧ found.2.id = sampleKey 12 ∧ board.teamed found.2 = team ∧
      (subjects team found.1.settings.winCondition (board.scored found.1)).map Prod.fst = [1, 2] ∧
      (∀ entry ∈ subjects team found.1.settings.winCondition (board.scored found.1), ColumnFits entry.2) ∧
      board.issued found.1.id = false ∧ board.RoomFits found.2.roomId ∧ playsTeams found.1 = true ∧
      (∀ other ∈ board.roundsOf found.2.id, playsTeams other = true) ∧
      board.tookPart (sampleKey 12) team 2 = true)

theorem Board.due_delivered {board : Board} (due : board.due team = true) :
    ∃ round session, board.lifecycle (sampleKey 50) = some (round, session) ∧
      (round.id = sampleKey 50 ∧ round.sessionId = sampleKey 12) ∧ round.status = .completed ∧
      playsTeams round = true ∧ board.teamed session = team ∧
      (∀ other ∈ board.roundsOf session.id, playsTeams other = true) ∧
      board.applyRound (sampleKey 50) = .ok (board.processed round session) ∧
      (board.processed round session).results (sampleKey 50) ≠ [] ∧
      (∀ row ∈ (board.processed round session).results (sampleKey 50), row.subject (!team) = none) ∧
      (board.processed round session).standings (sampleKey 12) team 2 ≠ none ∧
      (board.processed round session).standings (sampleKey 12) (!team) 2 = none := by
  unfold Board.due at due
  cases found : board.lifecycle (sampleKey 50) with
  | none =>
    rw [found] at due
    cases due
  | some entry =>
    obtain ⟨round, session⟩ := entry
    rw [found] at due
    obtain ⟨status, house, mode, named, columns, unissued, room, teams, all, part⟩ := of_decide_eq_true due
    obtain ⟨⟨key, owner⟩, _⟩ := Board.of_lifecycle found
    subst mode
    have fits : board.Fits round session :=
      ⟨columns, fun issued => absurd (unissued.symm.trans issued) Bool.false_ne_true, room⟩
    have ran := (Board.applyRound_eq_ok found (.inl status)).mpr ⟨fits, rfl⟩
    have tabled : Tabled (board.teamed session)
      (subjects (board.teamed session) round.settings.winCondition (board.scored round))
      (keptRows round.id (board.teamed session) round.settings.winCondition (board.scored round)) :=
      keptRows_tabled round.id (Board.scored_distinct board round)
    have rows : (board.processed round session).results (sampleKey 50) =
      keptRows round.id (board.teamed session) round.settings.winCondition (board.scored round) := by
      rw [← key]
      exact update_self ..
    refine ⟨round, session, rfl, ⟨key, owner.symm.trans house⟩, status, teams, rfl, all, ran, ?_, ?_, ?_, ?_⟩
    · intro none
      have count := tabled.named.length_eq
      rw [← rows, none, length_map, length_map, ← length_map (f := Prod.fst), named] at count
      cases count
    · rw [rows]
      exact tabled.single
    · intro none
      have stands : (board.processed round session).standings (sampleKey 12) (board.teamed session)
        2 = some _ :=
        (if_pos house.symm).trans (if_pos ⟨rfl, house ▸ part⟩)
      rw [none] at stands
      cases stands
    · exact (if_pos house.symm).trans (if_neg fun both => Bool.not_ne_self _ both.1)

theorem teamBoard_delivered : Delivered allowed teamBoard fun _ => none :=
  (((Delivered.start.performs _).binds rfl _).binds rfl _)

theorem perform_kept {round : Round} (stored : round ∈ tables.rounds.rows)
    (ended : round.status ≠ .inProgress) (turn : Moment × Command) :
    round ∈ (perform openPolicies tables turn).rounds.rows ∧
      (perform openPolicies tables turn).roundParticipants.rows.filter (·.roundId = round.id) =
        tables.roundParticipants.rows.filter (·.roundId = round.id) := by
  unfold perform
  split
  · next ran => exact ⟨(transact_wrote ran).ended_kept stored ended,
      (transact_change ran).participants_kept stored⟩
  · exact ⟨stored, rfl⟩

/-- A round in teams is processed, and once more after its room has left the team mode:
the results and standings of its teams are gone. -/
theorem switched_forgotten : ∃ (before after : Board) (seen later : Seen) (round : Round),
    Delivered (fun _ _ => True) before seen ∧ Delivered (fun _ _ => True) after later ∧
      round ∈ before.tables.rounds.rows ∧ round ∈ after.tables.rounds.rows ∧ round.status =
      .completed ∧ playsTeams round = true ∧ seen round.id = some (before.scores round.id) ∧
      later round.id = some (after.scores round.id) ∧ before.scores = after.scores ∧
      counted before.tables (before.scores round.id) round =
      counted after.tables (after.scores round.id) round ∧
      (before.results round.id ≠ [] ∧ ∀ row ∈ before.results round.id, row.accountId = none) ∧
      (after.results round.id ≠ [] ∧ ∀ row ∈ after.results round.id, row.teamNumber = none) ∧
      before.standings round.sessionId true 2 ≠ none ∧ after.standings round.sessionId true 2 = none := by
  have due : teamBoard.due true = true := by decide +kernel
  have still : { teamBoard with tables := switchedTables }.due false = true := by decide +kernel
  obtain ⟨round, session, found, ⟨key, house⟩, status, teams, _, _, ran, some_, single, stands,
    _⟩ := Board.due_delivered due
  have first : Delivered (fun _ _ => True) _ _ := teamBoard_delivered.delivers trivial ran
  have moved : Delivered (fun _ _ => True)
    { teamBoard.processed round session with tables := switchedTables } _ :=
    first.performs [(⟨5, 4⟩,
      .updateSettings (sampleKey 60) 1 1 4 { sampleSettings with teamMode := .headToHead })]
  have moved_due : { teamBoard.processed round session with tables := switchedTables }.due false =
    true := still
  obtain ⟨again, owner, found', ⟨key', _⟩, status', _, _, _, ran', some', single', _, gone⟩ :=
    Board.due_delivered moved_due
  have ended : round.status ≠ .inProgress := by
    rw [status]
    decide
  have stored := (Board.of_lifecycle found).2.1
  have held : again ∈ switchedTables.rounds.rows := (Board.of_lifecycle found').2.1
  obtain ⟨kept, participants⟩ := perform_kept stored ended
    (⟨5, 4⟩, .updateSettings (sampleKey 60) 1 1 4 { sampleSettings with teamMode := .headToHead })
  cases round_unique held kept (key.trans key'.symm)
  refine ⟨_, _, _, _, round, first, moved.delivers trivial ran', stored, held, status, teams, ?_,
    ?_, rfl, ?_, ?_⟩
  · rw [Board.seenAfter_self found ended, key]
    exact update_self ..
  · rw [Board.seenAfter_self found' ended, key]
    exact update_self ..
  · exact (counted_kept participants _).symm
  · rw [key, house]
    exact ⟨⟨some_, single⟩, ⟨some', single'⟩, stands, gone⟩

/-- The same round is processed while its room is in team mode. -/
theorem teamBoard_frozen :
    ∃ (board : Board) (seen : Seen) (round : Round) (scores : Nat → Option ScoreValues),
    Delivered Steady board seen ∧ round ∈ board.tables.rounds.rows ∧ seen round.id = some scores ∧
    (playsTeams round = true ∧ board.results round.id ≠ []) ∧ board.results round.id = keptRows
      round.id (playsTeams round) round.settings.winCondition (counted board.tables scores round) ∧
    ∀ row ∈ board.results round.id, ∀ key, row.subject (playsTeams round) = some key →
      board.standings round.sessionId (playsTeams round) key =
        some (board.total board.results round.sessionId (playsTeams round) key) := by
  have due : teamBoard.due true = true := by decide +kernel
  obtain ⟨round, session, found, ⟨key, house⟩, status, teams, mode, all, ran, some_, _⟩ :=
    Board.due_delivered due
  have steady : Steady teamBoard (sampleKey 50) := by
    intro located owner found' other member _
    rw [found] at found'
    cases found'
    exact (all other member).trans mode.symm
  have ended : round.status ≠ .inProgress := by
    rw [status]
    decide
  have run := teamBoard_delivered.delivers steady ran
  have seen : (teamBoard.seenAfter (sampleKey 50) fun _ => none) round.id =
    some (teamBoard.scores (sampleKey 50)) := by
    rw [Board.seenAfter_self found ended, key]
    exact update_self ..
  have stored := (Board.of_lifecycle found).2.1
  rw [← key] at some_
  exact ⟨_, _, round, _, run, stored, seen, ⟨teams, some_⟩, results_frozen run stored seen⟩

end Perfcho.Consumers
