import Mathlib.Data.Int.Log
import Mathlib.Data.List.Dedup
import Mathlib.Data.Rat.Floor
import Perfcho.Consumers.Results
import Perfcho.Durable.RoomRuns
import Perfcho.Foundation.Ranking

/-! What the consumer of completed rounds stores: the results of the round it is told
of, and the standings of the round's session. -/

namespace Perfcho.Consumers

open Foundation Multiplayer Durable Function List

inductive ConsumerFailure where
  | runtimeError (message : String)
  | numericOverflow

/-- The values of an accepted score. An accuracy counts units of the ninth decimal. -/
structure ScoreValues where
  scoreId : Nat
  totalScore : Nat
  accuracy : Nat
  maxCombo : Nat
  bounded : totalScore < 2 ^ 63 ∧ accuracy ≤ 10 ^ 9 ∧ maxCombo < 2 ^ 31

/-- `_score_metric` -/
def scoreMetric (winCondition : WinCondition) (score : ScoreValues) : ℚ :=
  match winCondition with
  | .accuracy => score.accuracy / 10 ^ 9
  | .combo => score.maxCombo
  | .score | .scoreV2 => score.totalScore

def roundHalfEven (value : ℚ) : ℤ :=
  let lower := ⌊value⌋
  let rest := value - lower
  if rest < 1 / 2 then lower else if 1 / 2 < rest then lower + 1 else if lower % 2 = 0 then lower
    else lower + 1

/-- A quotient of decimals has at most twenty-eight significant digits. -/
def significant (value : ℚ) : ℚ :=
  if value = 0 then 0
  else
    let unit : ℚ := 10 ^ (Int.log 10 |value| - 27)
    roundHalfEven (value / unit) * unit

/-- `_team_metric`. The sums are exact: they have fewer digits than the quotients. -/
def teamMetric (winCondition : WinCondition) (rows : List (MetricRow ScoreValues)) : ℚ :=
  let total := (rows.map fun row => scoreMetric winCondition row.score).sum
  match winCondition with
  | .accuracy => significant (total / rows.length)
  | _ => total

/-- What a `Numeric(20, 5)` column keeps of a value that is not negative. -/
def columnValue (metric : ℚ) : ℚ := (⌊metric * 10 ^ 5 + 1 / 2⌋ : ℤ) / 10 ^ 5

/-- Fifteen digits remain before the decimals. -/
def ColumnFits (metric : ℚ) : Prop := columnValue metric < 10 ^ 15

instance : DecidablePred ColumnFits :=
  fun metric => inferInstanceAs (Decidable (columnValue metric < 10 ^ 15))

theorem columnValue_mono (less : first ≤ second) : columnValue first ≤ columnValue second := by
  unfold columnValue
  gcongr

/-- A row of the results of a round: of an account or of a team. -/
structure RoundResult where
  roundId : Uuid
  accountId : Option Nat
  teamNumber : Option Nat
  scoreId : Option Nat
  rank : Nat
  metricValue : ℚ
  points : Nat

/-- The number of the subject: a team in team mode, otherwise an account. -/
def RoundResult.subject (team : Bool) (result : RoundResult) : Option Nat :=
  if team then result.teamNumber else result.accountId

def teamRow (roundId : Uuid) (result : TeamResult ℚ) : RoundResult where
  roundId := roundId
  accountId := none
  teamNumber := some result.teamNumber
  scoreId := none
  rank := result.rank
  metricValue := result.metricValue
  points := result.points

def accountRow (roundId : Uuid) (winCondition : WinCondition) (row : MetricRow ScoreValues)
    (rank points : Nat) : RoundResult where
  roundId := roundId
  accountId := some row.accountId
  teamNumber := none
  scoreId := some row.score.scoreId
  rank := rank
  metricValue := scoreMetric winCondition row.score
  points := points

/-- The rows that `_replace_round_results` computes. -/
def resultRows (roundId : Uuid) (team : Bool) (winCondition : WinCondition)
    (rows : List (MetricRow ScoreValues)) : List RoundResult :=
  if team then (teamResults (teamMetric winCondition) rows).map (teamRow roundId)
  else numbered (accountRow roundId winCondition)
    (ranking (fun row => scoreMetric winCondition row.score) (·.accountId) rows)

def storeRow (row : RoundResult) : Except ConsumerFailure RoundResult :=
  if ColumnFits row.metricValue then .ok { row with metricValue := columnValue row.metricValue }
    else .error .numericOverflow

/-- The tables that the consumer reads and writes. Attempts are issued to the
participants of the rounds that are played on known content, and name the scores that
were bound to them; results are the rows of each round, and standings the points of a
team or an account in a session. -/
structure Board where
  tables : Tables
  issued : Uuid → Bool
  scores : Uuid → Nat → Option ScoreValues
  results : Uuid → List RoundResult
  standings : Uuid → Bool → Nat → Option Nat

/-- `_TEAM_MODES` -/
def teamModes : List TeamMode := [.teamVs, .tagTeamVs]

namespace Board

variable (board : Board)

/-- The round with its session, as `_apply_round` locks it. -/
def lifecycle (roundId : Uuid) : Option (Round × MultiplayerSession) := do
  let round ← board.tables.rounds.rows.find? (·.id = roundId)
  let session ← board.tables.sessions.rows.find? (·.id = round.sessionId)
  return (round, session)

/-- `multiplayer_session.team_mode in _TEAM_MODES`. The team mode of a session is
written together with the settings of its room. -/
def teamed (session : MultiplayerSession) : Bool :=
  (board.tables.rooms.rows.find? (·.id = session.roomId)).any (·.settings.teamMode ∈ teamModes)

/-- The scores that count for a round: none if it was aborted. -/
def scored (round : Round) : List (MetricRow ScoreValues) :=
  if round.status = .completed then Consumers.scored board.tables board.scores round.id else []

/-- `_replace_round_results` -/
def replaceRoundResults (round : Round) (team : Bool) : Except ConsumerFailure (Uuid → List RoundResult) := do
  let rows ← (resultRows round.id team round.settings.winCondition (board.scored round)).mapM storeRow
  return update board.results round.id rows

def roundsOf (sessionId : Uuid) : List Round := board.tables.rounds.rows.filter (·.sessionId = sessionId)

/-- Whether a subject has taken part in a round of the session. -/
def tookPart (sessionId : Uuid) (team : Bool) (key : Nat) : Bool :=
  (board.roundsOf sessionId).any fun round => board.tables.roundParticipants.rows.any fun participant =>
    decide (participant.roundId = round.id) &&
      if team then decide (0 < participant.teamNumber) && decide (participant.teamNumber = key)
      else decide (participant.accountId = key)

/-- The points of a subject in the results of a session. -/
def total (results : Uuid → List RoundResult) (sessionId : Uuid) (team : Bool) (key : Nat) : Nat :=
  ((board.roundsOf sessionId).map fun round =>
    (((results round.id).filter (·.subject team = some key)).map (·.points)).sum).sum

/-- `_rebuild_session_standings`: what is left of a session are the subjects of the
current kind that take part, with their totals. -/
def rebuildSessionStandings (results : Uuid → List RoundResult) (sessionId : Uuid) (team : Bool) :
    Uuid → Bool → Nat → Option Nat := fun other kind key =>
  if other = sessionId then
    if kind = team ∧ board.tookPart sessionId team key then
      some (board.total results sessionId team key) else none
  else board.standings other kind key

/-- The scores bound in the rounds of a room. -/
def roomAttempts (roomId : Uuid) : List (Round × Nat × ScoreValues) :=
  (board.tables.rounds.rows.filter fun round =>
    board.tables.sessions.rows.any fun session => session.id = round.sessionId ∧
      session.roomId = roomId).flatMap fun round =>
    (board.tables.roundParticipants.rows.filter (·.roundId = round.id)).filterMap fun participant =>
      (board.scores round.id participant.accountId).map fun score => (round, participant.accountId, score)

/-- The summaries of a playlist item keep the metric of every attempt in a column like
that of the results. -/
def PlaylistFits (roomId : Uuid) : Prop :=
  ∀ attempt ∈ board.roomAttempts roomId, ColumnFits (scoreMetric attempt.1.settings.winCondition attempt.2.2)

/-- The summaries of a room add up the scores of an account in a column of sixty-four bits. -/
def RoomFits (roomId : Uuid) : Prop :=
  ∀ attempt ∈ board.roomAttempts roomId,
    (((board.roomAttempts roomId).filter fun other => other.2.1 = attempt.2.1 ∧
      other.1.status = .completed).map
      (·.2.2.totalScore)).sum < 2 ^ 63

instance (roomId : Uuid) : Decidable (board.PlaylistFits roomId) := inferInstanceAs (Decidable (∀ _ ∈ _, _))

instance (roomId : Uuid) : Decidable (board.RoomFits roomId) := inferInstanceAs (Decidable (∀ _ ∈ _, _))

/-- `_rebuild_playlist_summaries` and `_rebuild_room_summaries`. Nothing reads their
rows back, so all that matters here is whether they fit. -/
def rebuildSummaries (round : Round) (session : MultiplayerSession) : Except ConsumerFailure Unit :=
  if board.issued round.id ∧ ¬ board.PlaylistFits session.roomId then .error .numericOverflow
  else if ¬ board.RoomFits session.roomId then .error .numericOverflow
  else .ok ()

/-- `_apply_round` -/
def applyRound (roundId : Uuid) : Except ConsumerFailure Board :=
  match board.lifecycle roundId with
  | none => .error (.runtimeError "multiplayer result event references a missing round")
  | some (round, session) =>
    match round.status with
    | .inProgress => .ok board
    | .pending => .error (.runtimeError "multiplayer result event references an unprojectable round state")
    | .completed | .aborted => do
      let team := board.teamed session
      let results ← board.replaceRoundResults round team
      let standings := board.rebuildSessionStandings results session.id team
      board.rebuildSummaries round session
      return { board with results, standings }

end Board

section

variable {Score : Type}

/-- The groups of some rows: one for each team that occurs, with the rows of the team. -/
structure Grouped (rows : List (MetricRow Score)) (groups : Groups Score) : Prop where
  distinct : (groups.map (·.1)).Nodup
  values : ∀ group ∈ groups, group.2 = rows.filter (·.teamNumber = group.1)
  teams : ∀ team, team ∈ groups.map (·.1) ↔ 0 < team ∧ ∃ row ∈ rows, row.teamNumber = team

theorem Groups.append_known {groups : Groups Score} (known : row.teamNumber ∈ groups.map (·.1)) :
    groups.append row = groups.map fun group => if group.1 = row.teamNumber then
    (group.1, group.2 ++ [row]) else group := by
  obtain ⟨group, member, same⟩ := mem_map.mp known
  exact if_pos (any_eq_true.mpr ⟨group, member, decide_eq_true same⟩)

theorem Groups.append_fresh {groups : Groups Score} (fresh : row.teamNumber ∉ groups.map (·.1)) :
    groups.append row = groups ++ [(row.teamNumber, [row])] := by
  apply if_neg
  intro known
  obtain ⟨group, member, same⟩ := any_eq_true.mp known
  exact fresh (mem_map.mpr ⟨group, member, of_decide_eq_true same⟩)

theorem Grouped.append {rows : List (MetricRow Score)}
    (grouped : Grouped rows groups) (team : 0 < row.teamNumber) : Grouped (rows ++ [row])
    (groups.append row) := by
  have teams : ∀ other, other ∈ groups.map (·.1) ∨ other = row.teamNumber ↔
    0 < other ∧ ∃ member ∈ rows ++ [row], member.teamNumber = other := by
    intro other
    rw [grouped.teams other]
    constructor
    · rintro (⟨positive, member, inside, same⟩ | rfl)
      · exact ⟨positive, member, mem_append_left _ inside, same⟩
      · exact ⟨team, row, by simp, rfl⟩
    · rintro ⟨positive, member, inside, same⟩
      rcases of_mem_concat inside with old | new
      · exact .inl ⟨positive, member, old, same⟩
      · exact .inr (by rw [← same, new])
  by_cases known : row.teamNumber ∈ groups.map (·.1)
  · rw [Groups.append_known known]
    have keys : (groups.map fun group => if group.1 = row.teamNumber then
      (group.1, group.2 ++ [row]) else group).map (·.1) = groups.map (·.1) := by
      rw [map_map]
      apply map_congr_left
      intro group _
      dsimp only [comp_apply]
      split <;> rfl
    refine ⟨keys ▸ grouped.distinct, ?_, fun other => ?_⟩
    · intro made member
      obtain ⟨group, inside, rfl⟩ := mem_map.mp member
      by_cases same : group.1 = row.teamNumber
      · simp [same, grouped.values group inside]
      · simp [same, Ne.symm same, grouped.values group inside]
    · rw [keys, ← teams other]
      constructor
      · exact .inl
      · rintro (old | rfl)
        · exact old
        · exact known
  · rw [Groups.append_fresh known]
    refine ⟨?_, ?_, fun other => ?_⟩
    · rw [map_append]
      exact nodup_append.mpr ⟨grouped.distinct, nodup_singleton _, fun key old other new same => by
        rw [same, mem_singleton.mp new] at old
        exact known old⟩
    · intro made member
      rw [filter_append]
      rcases of_mem_concat member with old | new
      · have different : row.teamNumber ≠ made.1 := fun same => known (same ▸ mem_map_of_mem old)
        simp [different, grouped.values made old]
      cases new
      have none : rows.filter (·.teamNumber = row.teamNumber) = [] := by
        apply filter_eq_nil_iff.mpr
        intro member inside same
        exact known ((grouped.teams _).mpr ⟨team, member, inside, of_decide_eq_true same⟩)
      simp [none]
    · rw [map_append, mem_append, map_singleton, mem_singleton]
      exact teams other

theorem grouped_grouped (rows : List (MetricRow Score)) : Grouped rows (grouped rows) := by
  induction rows using reverseRecOn with
  | nil => exact ⟨nodup_nil, fun _ member => absurd member not_mem_nil, by simp [grouped]⟩
  | append_singleton rows row ih =>
    have step : grouped (rows ++ [row]) = if 0 < row.teamNumber then (grouped rows).append row else
      grouped rows := by
      simp [grouped]
    rw [step]
    split
    · next team => exact ih.append team
    next free =>
    refine ⟨ih.distinct, fun group member => ?_, fun other => ?_⟩
    · have positive := ((ih.teams group.1).mp (mem_map_of_mem member)).1
      have different : row.teamNumber ≠ group.1 := fun same => free (same ▸ positive)
      simp [filter_append, different, ih.values group member]
    · rw [ih.teams other]
      constructor
      · rintro ⟨positive, member, inside, same⟩
        exact ⟨positive, member, mem_append_left _ inside, same⟩
      · rintro ⟨positive, member, inside, same⟩
        rcases of_mem_concat inside with old | new
        · exact ⟨positive, member, old, same⟩
        · rw [new] at same
          exact absurd (same ▸ positive) free

end

section

/-- The subjects of a round with their metrics, in any order. -/
def subjects (team : Bool) (winCondition : WinCondition) (rows : List (MetricRow ScoreValues)) :
    List (Nat × ℚ) :=
  if team then
    ((rows.map (·.teamNumber)).filter (0 < ·)).dedup.map fun number =>
      (number, teamMetric winCondition (rows.filter (·.teamNumber = number)))
  else rows.map fun row => (row.accountId, scoreMetric winCondition row.score)

variable {team : Bool} {winCondition : WinCondition} {rows shuffled : List (MetricRow ScoreValues)}

theorem subjects_distinct (accounts : (rows.map (·.accountId)).Nodup) :
    ((subjects team winCondition rows).map (·.1)).Nodup := by
  unfold subjects
  split
  · rw [map_map]
    have identity : ((fun entry : Nat × ℚ => entry.1) ∘ fun number =>
        (number, teamMetric winCondition (rows.filter (·.teamNumber = number)))) = id := rfl
    rw [identity, map_id]
    exact nodup_dedup _
  · rw [map_map]
    exact accounts

theorem teamMetric_perm (same : rows.Perm shuffled) :
    teamMetric winCondition rows = teamMetric winCondition shuffled := by
  have totals := (same.map fun row => scoreMetric winCondition row.score).sum_eq
  unfold teamMetric
  rw [totals, same.length_eq]

theorem subjects_perm (same : rows.Perm shuffled) :
    (subjects team winCondition rows).Perm (subjects team winCondition shuffled) := by
  unfold subjects
  split
  · have metrics : (fun number => (number, teamMetric winCondition (rows.filter (·.teamNumber = number)))) =
      fun number => (number, teamMetric winCondition (shuffled.filter (·.teamNumber = number))) := by
      funext number
      rw [teamMetric_perm (same.filter _)]
    rw [metrics]
    exact (((same.map _).filter _).dedup).map _
  · exact same.map _

theorem teamRanked_eq : teamRanked (teamMetric winCondition) rows =
    ranking Prod.snd Prod.fst (subjects true winCondition rows) := by
  have groups := grouped_grouped rows
  have same : ((grouped rows).map fun group => (group.1, teamMetric winCondition group.2)).Perm
    (subjects true winCondition rows) := by
    apply (perm_ext_iff_of_nodup _ _).mpr
    · rintro ⟨number, metric⟩
      simp only [subjects, ↓reduceIte, mem_map, mem_dedup, mem_filter, decide_eq_true_eq, Prod.mk.injEq]
      constructor
      · rintro ⟨group, member, rfl, rfl⟩
        obtain ⟨positive, row, inside, named⟩ := (groups.teams group.1).mp (mem_map_of_mem member)
        exact ⟨group.1, ⟨⟨row, inside, named⟩, positive⟩, rfl, by rw [groups.values group member]⟩
      · rintro ⟨other, ⟨⟨row, inside, named⟩, positive⟩, rfl, rfl⟩
        obtain ⟨group, member, rfl⟩ := mem_map.mp ((groups.teams other).mpr ⟨positive, row, inside, named⟩)
        exact ⟨group, member, rfl, by rw [groups.values group member]⟩
    · apply List.Nodup.of_map (·.1)
      rw [map_map]
      exact groups.distinct
    · exact (nodup_dedup _).map fun _ _ same => (Prod.mk.inj same).1
  have sorted : (teamRanked (teamMetric winCondition) rows).Pairwise (Outranks Prod.snd Prod.fst) :=
    pairwise_mergeSort' _ _
  apply eq_ranking sorted ((mergeSort_perm _ _).trans same)
  exact (same.map Prod.fst).nodup_iff.mp (by rw [map_map]; exact groups.distinct)

/-- Rows that rank some subjects. Ties are those of the metrics themselves; the column
rounds them, which keeps their order. -/
structure Tabled (team : Bool) (subjects : List (Nat × ℚ)) (rows : List RoundResult) : Prop where
  named : (rows.map (·.subject team)).Perm (subjects.map fun entry => some entry.1)
  single : ∀ row ∈ rows, row.subject (!team) = none
  ranks : rows.map (·.rank) = range' 1 rows.length
  metrics : ∀ row ∈ rows, ∃ entry ∈ subjects, row.subject team = some entry.1 ∧
    row.metricValue = columnValue entry.2
  falling : ∀ better ∈ rows, ∀ worse ∈ rows, better.rank < worse.rank → worse.metricValue ≤ better.metricValue
  ordered : ∀ better ∈ rows, ∀ worse ∈ rows, better.rank < worse.rank → ∀ first ∈ subjects,
    ∀ second ∈ subjects, better.subject team = some first.1 → worse.subject team = some second.1 →
    second.2 < first.2 ∨ second.2 = first.2 ∧ first.1 < second.1
  points : ∀ row ∈ rows, row.points = rows.length - row.rank + 1

def keepRow (row : RoundResult) : RoundResult := { row with metricValue := columnValue row.metricValue }

/-- How a row is made of an item of a ranking. -/
structure Lists (team : Bool) (measure : Item → ℚ) (key : Item → Nat)
    (row : Item → Nat → Nat → RoundResult) : Prop where
  subject : ∀ item rank points, (row item rank points).subject team = some (key item)
  other : ∀ item rank points, (row item rank points).subject (!team) = none
  rank : ∀ item rank points, (row item rank points).rank = rank
  metric : ∀ item rank points, (row item rank points).metricValue = measure item
  points : ∀ item rank points, (row item rank points).points = points

section

variable {Item : Type} {measure : Item → ℚ} {key : Item → Nat} {row : Item → Nat → Nat → RoundResult}

theorem outranks_of_placed (distinct : (items.map key).Nodup) {first second : Nat}
    (one : (ranking measure key items)[first]? = some better)
    (two : (ranking measure key items)[second]? = some worse) (before : first < second) :
    measure worse < measure better ∨ measure worse = measure better ∧ key better < key worse := by
  obtain ⟨inside, rfl⟩ := List.getElem?_eq_some_iff.mp one
  obtain ⟨inside', rfl⟩ := List.getElem?_eq_some_iff.mp two
  have pairs : (ranking measure key items).Pairwise (Outranks measure key) := ranking_sorted
  have sorted := pairwise_iff_getElem.mp pairs first second inside inside' before
  have keys : ((ranking measure key items).map key).Nodup := (ranking_perm.map key).nodup_iff.mpr distinct
  have apart := pairwise_iff_getElem.mp keys first second (by simpa using inside)
    (by simpa using inside') before
  rw [getElem_map, getElem_map] at apart
  exact sorted.imp_right fun ⟨same, least⟩ => ⟨same, lt_of_le_of_ne least apart⟩

theorem tabled_of_lists (lists : Lists team measure key row) (distinct : (items.map key).Nodup) :
    Tabled team (items.map fun item => (key item, measure item))
      ((numbered row (ranking measure key items)).map keepRow) := by
  have length : ((numbered row (ranking measure key items)).map keepRow).length =
    (ranking measure key items).length := by
    rw [length_map, length_numbered]
  have entry : ∀ {made}, made ∈ (numbered row (ranking measure key items)).map keepRow →
    ∃ item index, (ranking measure key items)[index]? = some item ∧
      made = keepRow (row item (index + 1) ((ranking measure key items).length - index)) := by
    intro made member
    obtain ⟨plain, inside, rfl⟩ := mem_map.mp member
    obtain ⟨item, index, placed, rfl⟩ := mem_numbered.mp inside
    exact ⟨item, index, placed, rfl⟩
  -- A subject with the key of an item has its measure.
  have measured : ∀ {item} {index : Nat} {subject : Nat × ℚ}, (ranking measure key items)[index]? =
    some item →
    subject ∈ items.map (fun item => (key item, measure item)) → subject.1 = key item →
    subject.2 = measure item := by
    intro item index subject placed member same
    obtain ⟨other, inside, rfl⟩ := mem_map.mp member
    have present := ranking_perm.subset (mem_of_getElem? placed)
    rw [inj_on_of_nodup_map distinct inside present same]
  constructor
  · have names : ((numbered row (ranking measure key items)).map keepRow).map (·.subject team) =
      (ranking measure key items).map fun item => some (key item) := by
      rw [map_map]
      exact map_numbered fun item rank points => lists.subject item rank points
    rw [names, map_map]
    exact ranking_perm.map _
  · intro made member
    obtain ⟨item, index, _, rfl⟩ := entry member
    exact lists.other _ _ _
  · rw [length, map_map]
    exact ranks_numbered fun item rank points => lists.rank item rank points
  · intro made member
    obtain ⟨item, index, placed, rfl⟩ := entry member
    refine ⟨(key item, measure item), mem_map.mpr ⟨item, ranking_perm.subset (mem_of_getElem? placed), rfl⟩,
      lists.subject _ _ _, ?_⟩
    exact congrArg columnValue (lists.metric _ _ _)
  · intro better member worse member' before
    obtain ⟨item, index, placed, rfl⟩ := entry member
    obtain ⟨item', index', placed', rfl⟩ := entry member'
    have later : index < index' := by simpa [keepRow, lists.rank] using before
    have least : measure item' ≤ measure item := by
      rcases outranks_of_placed distinct placed placed' later with less | ⟨same, _⟩
      · exact less.le
      · exact same.le
    simpa [keepRow, lists.metric] using columnValue_mono least
  · intro better member worse member' before first inside second inside' named named'
    obtain ⟨item, index, placed, rfl⟩ := entry member
    obtain ⟨item', index', placed', rfl⟩ := entry member'
    have later : index < index' := by simpa [keepRow, lists.rank] using before
    have same := Option.some.inj ((lists.subject _ _ _).symm.trans named)
    have same' := Option.some.inj ((lists.subject _ _ _).symm.trans named')
    rw [measured placed inside same.symm, measured placed' inside' same'.symm, ← same, ← same']
    exact outranks_of_placed distinct placed placed' later
  · intro made member
    obtain ⟨item, index, placed, rfl⟩ := entry member
    obtain ⟨inside, _⟩ := List.getElem?_eq_some_iff.mp placed
    simp only [keepRow, lists.points, lists.rank]
    omega

end

def teamEntry (roundId : Uuid) (entry : Nat × ℚ) (rank points : Nat) : RoundResult :=
  teamRow roundId ⟨entry.1, rank, entry.2, points⟩

theorem resultRows_teams (roundId : Uuid) : resultRows roundId true winCondition rows =
    numbered (teamEntry roundId) (ranking Prod.snd Prod.fst (subjects true winCondition rows)) := by
  rw [← teamRanked_eq]
  simp only [resultRows, ↓reduceIte, teamResults, map_map]
  rfl

theorem teamEntry_lists (roundId : Uuid) : Lists true Prod.snd Prod.fst (teamEntry roundId) :=
  ⟨fun _ _ _ => rfl, fun _ _ _ => rfl, fun _ _ _ => rfl, fun _ _ _ => rfl, fun _ _ _ => rfl⟩

theorem accountRow_lists (roundId : Uuid) :
    Lists false (fun row : MetricRow ScoreValues => scoreMetric winCondition row.score)
    (·.accountId) (accountRow roundId winCondition) :=
  ⟨fun _ _ _ => rfl, fun _ _ _ => rfl, fun _ _ _ => rfl, fun _ _ _ => rfl, fun _ _ _ => rfl⟩

/-- The rows of a round as they are stored. -/
def keptRows (roundId : Uuid) (team : Bool) (winCondition : WinCondition)
    (rows : List (MetricRow ScoreValues)) : List RoundResult :=
  (resultRows roundId team winCondition rows).map keepRow

theorem keptRows_tabled (roundId : Uuid) (accounts : (rows.map (·.accountId)).Nodup) :
    Tabled team (subjects team winCondition rows) (keptRows roundId team winCondition rows) := by
  cases team with
  | true =>
    have distinct : ((subjects true winCondition rows).map Prod.fst).Nodup := subjects_distinct accounts
    have tabled := tabled_of_lists (teamEntry_lists roundId) distinct
    rw [← resultRows_teams, map_id''] at tabled
    · exact tabled
    · exact fun _ => rfl
  | false => exact tabled_of_lists (accountRow_lists roundId) accounts

theorem keptRows_nil (roundId : Uuid) (team : Bool) (winCondition : WinCondition) :
    keptRows roundId team winCondition [] = [] := by
  cases team with
  | true =>
    rw [keptRows, resultRows_teams]
    rfl
  | false => rfl

theorem resultRows_perm (roundId : Uuid) (accounts : (rows.map (·.accountId)).Nodup)
    (same : rows.Perm shuffled) :
    resultRows roundId team winCondition rows = resultRows roundId team winCondition shuffled := by
  cases team with
  | true => rw [resultRows_teams, resultRows_teams,
      ranking_congr (subjects_perm same) (subjects_distinct accounts)]
  | false => exact congrArg (numbered _) (ranking_congr same accounts)

theorem metrics_numbered {measure : Item → ℚ} (lists : Lists team measure key row) :
    ((numbered row (ranking measure key items)).map (·.metricValue)).Perm (items.map measure) := by
  have metrics : (numbered row (ranking measure key items)).map (·.metricValue) =
    (ranking measure key items).map measure :=
    map_numbered lists.metric
  rw [metrics]
  exact ranking_perm.map measure

theorem metrics_resultRows (roundId : Uuid) :
    ((resultRows roundId team winCondition rows).map (·.metricValue)).Perm
    ((subjects team winCondition rows).map (·.2)) := by
  cases team with
  | true =>
    rw [resultRows_teams]
    exact metrics_numbered (teamEntry_lists roundId)
  | false =>
    have metrics : ((resultRows roundId false winCondition rows).map (·.metricValue)).Perm
      (rows.map fun row => scoreMetric winCondition row.score) := metrics_numbered (accountRow_lists roundId)
    have listed : (subjects false winCondition rows).map (·.2) = rows.map fun row =>
      scoreMetric winCondition row.score :=
      map_map ..
    rwa [listed]

end

theorem storeRow_eq_ok : storeRow row = .ok kept ↔ ColumnFits row.metricValue ∧ keepRow row = kept := by
  unfold storeRow
  split
  · next fits => simp [fits, keepRow]
  · next tight => simp [tight]

theorem mapM_storeRow {rows kept : List RoundResult} : rows.mapM storeRow = .ok kept ↔
    (∀ row ∈ rows, ColumnFits row.metricValue) ∧ kept = rows.map keepRow := by
  constructor
  · intro ran
    have each := (mapM_eq_ok ran).imp fun _ _ => storeRow_eq_ok.mp
    have same : rows.map keepRow = kept.map id := map_eq_of_related (each.imp fun _ _ both => both.2)
    refine ⟨fun row member => ?_, by rw [same, map_id]⟩
    obtain ⟨_, _, fits, _⟩ := exists_related each member
    exact fits
  · rintro ⟨fits, rfl⟩
    exact mapM_ok fun row member => storeRow_eq_ok.mpr ⟨fits row member, rfl⟩

/-- The accounts with a score are distinct: a participant has one row in a round. -/
theorem scored_accounts (tables : Tables) (scores : Uuid → Nat → Option Score) (roundId : Uuid) :
    ((scored tables scores roundId).map (·.accountId)).Nodup := by
  have unique : ((tables.roundParticipants.rows.filter (·.roundId = roundId)).map (·.accountId)).Nodup := by
    have keys := tables.roundParticipants.nodup_of_unique mem_cons_self
    rw [filter_true] at keys
    have part := (keys.of_map _).filter (fun row : RoundParticipant => row.roundId = roundId)
    apply List.Nodup.map_on _ part
    intro one member two member' same
    obtain ⟨stored, here⟩ := mem_filter.mp member
    obtain ⟨stored', here'⟩ := mem_filter.mp member'
    refine inj_on_of_nodup_map keys stored stored' ?_
    rw [of_decide_eq_true here, of_decide_eq_true here', same]
  have sorted := ((perm_insertionSort (fun first second : RoundParticipant =>
    first.accountId ≤ second.accountId)
    (tables.roundParticipants.rows.filter (·.roundId = roundId))).map (·.accountId)).nodup_iff.mpr unique
  -- Leaving out participants without a score leaves out accounts.
  have part : ∀ listed : List RoundParticipant, ((listed.filterMap fun row =>
      (scores roundId row.accountId).map (MetricRow.mk row.accountId row.teamNumber)).map
        (·.accountId)).Sublist (listed.map (·.accountId)) := by
    intro listed
    induction listed with
    | nil => exact List.Sublist.slnil
    | cons row rest ih =>
      rw [filterMap_cons]
      cases scores roundId row.accountId with
      | none => exact ih.cons _
      | some score => exact ih.cons_cons _
  exact (part _).nodup sorted

namespace Board

variable {board after : Board} {roundId : Uuid} {round : Round} {session : MultiplayerSession}

theorem scored_distinct (board : Board) (round : Round) : ((board.scored round).map (·.accountId)).Nodup := by
  unfold Board.scored
  split
  · exact scored_accounts board.tables board.scores round.id
  · exact nodup_nil

/-- Everything that is computed of the round fits its column. -/
def Fits (board : Board) (round : Round) (session : MultiplayerSession) : Prop :=
  (∀ entry ∈ subjects (board.teamed session) round.settings.winCondition (board.scored round),
    ColumnFits entry.2) ∧ (board.issued round.id = true → board.PlaylistFits session.roomId) ∧
    board.RoomFits session.roomId

def processed (board : Board) (round : Round) (session : MultiplayerSession) : Board :=
  let rows := keptRows round.id (board.teamed session) round.settings.winCondition (board.scored round)
  let results := update board.results round.id rows
  { board with results, standings := board.rebuildSessionStandings results session.id (board.teamed session) }

theorem rebuildSummaries_eq_ok : board.rebuildSummaries round session = .ok () ↔
    (board.issued round.id = true → board.PlaylistFits session.roomId) ∧ board.RoomFits session.roomId := by
  unfold rebuildSummaries
  split
  · next tight => exact iff_of_false (by simp) fun fits => tight.2 (fits.1 tight.1)
  next loose =>
  have listed : board.issued round.id = true → board.PlaylistFits session.roomId := fun issued =>
    by_contra fun tight => loose ⟨issued, tight⟩
  split
  · next tight => exact iff_of_false (by simp) fun fits => tight fits.2
  · next room => exact iff_of_true rfl ⟨listed, not_not.mp room⟩

theorem replaceRoundResults_eq_ok {results : Uuid → List RoundResult} :
    board.replaceRoundResults round team = .ok results ↔
      (∀ entry ∈ subjects team round.settings.winCondition (board.scored round),
        ColumnFits entry.2) ∧ results = update board.results round.id
          (keptRows round.id team round.settings.winCondition (board.scored round)) := by
  have same : (∀ row ∈ resultRows round.id team round.settings.winCondition (board.scored round),
      ColumnFits row.metricValue) ↔
    ∀ entry ∈ subjects team round.settings.winCondition (board.scored round), ColumnFits entry.2 := by
    constructor
    · intro fits entry member
      have listed := (metrics_resultRows round.id).mem_iff.mpr (mem_map_of_mem member)
      obtain ⟨row, inside, metric⟩ := mem_map.mp listed
      exact metric ▸ fits row inside
    · intro fits row member
      have listed := (metrics_resultRows round.id).mem_iff.mp (mem_map_of_mem member)
      obtain ⟨entry, inside, metric⟩ := mem_map.mp listed
      exact metric ▸ fits entry inside
  unfold replaceRoundResults
  constructor
  · intro ran
    obtain ⟨rows, stored, ran⟩ := of_bind_eq_ok ran
    cases ran
    obtain ⟨fits, rfl⟩ := mapM_storeRow.mp stored
    exact ⟨same.mp fits, rfl⟩
  · rintro ⟨fits, rfl⟩
    rw [mapM_storeRow.mpr ⟨same.mpr fits, rfl⟩]
    rfl

/-- An ended round is processed exactly if everything fits. -/
theorem applyRound_eq_ok (found : board.lifecycle roundId = some (round, session))
    (ended : round.status = .completed ∨ round.status = .aborted) :
    board.applyRound roundId = .ok after ↔ board.Fits round session ∧
    after = board.processed round session := by
  have unfolded : board.applyRound roundId = (do
    let results ← board.replaceRoundResults round (board.teamed session)
    board.rebuildSummaries round session
    return { board with
        results, standings := board.rebuildSessionStandings results session.id (board.teamed session) }) := by
    unfold applyRound
    rcases ended with completed | aborted
    · simp [found, completed]
    · simp [found, aborted]
  rw [unfolded]
  constructor
  · intro ran
    obtain ⟨results, replaced, _, summed, ran⟩ := of_bind_bind_eq_ok ran
    cases ran
    obtain ⟨fits, rfl⟩ := replaceRoundResults_eq_ok.mp replaced
    exact ⟨⟨fits, rebuildSummaries_eq_ok.mp summed⟩, rfl⟩
  · rintro ⟨⟨fits, summed⟩, rfl⟩
    rw [replaceRoundResults_eq_ok.mpr ⟨fits, rfl⟩, ok_bind, rebuildSummaries_eq_ok.mpr summed]
    rfl

theorem rebuildSessionStandings_again (results : Uuid → List RoundResult) (sessionId : Uuid) (team : Bool) :
    ({ board with
        results
        standings := board.rebuildSessionStandings results sessionId team }).rebuildSessionStandings
      results sessionId team = board.rebuildSessionStandings results sessionId team := by
  funext other kind key
  by_cases same : other = sessionId
  · simp [same, rebuildSessionStandings, tookPart, total, roundsOf]
  · simp [same, rebuildSessionStandings]

/-- To process a round again changes nothing. -/
theorem processed_again (board : Board) (round : Round) (session : MultiplayerSession) :
    (board.processed round session).processed round session = board.processed round session := by
  simp only [processed, teamed, Board.scored, update_idem, rebuildSessionStandings_again]

def applyTimes (board : Board) (roundId : Uuid) : Nat → Except ConsumerFailure Board
  | 0 => .ok board
  | times + 1 => do
    let next ← board.applyRound roundId
    next.applyTimes roundId times

theorem of_lifecycle (found : board.lifecycle roundId = some (round, session)) :
    (round.id = roundId ∧ session.id = round.sessionId) ∧ round ∈ board.tables.rounds.rows ∧
      session ∈ board.tables.sessions.rows := by
  obtain ⟨located, looked, found⟩ := Option.bind_eq_some_iff.mp found
  obtain ⟨owner, held, found⟩ := Option.bind_eq_some_iff.mp found
  cases found
  exact ⟨⟨by simpa using find?_some looked, by simpa using find?_some held⟩,
    mem_of_find?_eq_some looked, mem_of_find?_eq_some held⟩

theorem applyTimes_processed (found : board.lifecycle roundId = some (round, session))
    (ended : round.status = .completed ∨ round.status = .aborted) (fits : board.Fits round session)
    (times : Nat) : board.applyTimes roundId (times + 1) = .ok (board.processed round session) := by
  induction times generalizing board with
  | zero =>
    rw [applyTimes, (applyRound_eq_ok found ended).mpr ⟨fits, rfl⟩]
    rfl
  | succ times ih =>
    rw [applyTimes, (applyRound_eq_ok found ended).mpr ⟨fits, rfl⟩, ok_bind]
    have again : (board.processed round session).applyTimes roundId (times + 1) =
      .ok ((board.processed round session).processed round session) := ih found fits
    rwa [processed_again] at again

end Board

/-- A round that has ended is stored as it should be exactly if its values fit: one row
for each subject, ranked by the metrics and then by the numbers, whatever the order of
the participants and however often the round is processed. -/
theorem results_stored_iff {roundId : Uuid} {round : Round} {session : MultiplayerSession}
    (board : Board) (found : board.lifecycle roundId = some (round, session))
    (ended : round.status = .completed ∨ round.status = .aborted) :
    (∃ after, board.applyRound roundId = .ok after ∧
      Tabled (board.teamed session)
        (subjects (board.teamed session) round.settings.winCondition (board.scored round))
      (after.results roundId) ∧ (round.status = .aborted → after.results roundId = []) ∧
      (∀ shuffled, shuffled.Perm (board.scored round) →
        after.results roundId = keptRows roundId (board.teamed session) round.settings.winCondition
      shuffled) ∧ ∀ times, ∃ again, board.applyTimes roundId (times + 1) = .ok again ∧
        again.results roundId = after.results roundId) ↔ board.Fits round session := by
  obtain ⟨⟨rfl, _⟩, _⟩ := Board.of_lifecycle found
  constructor
  · rintro ⟨after, ran, _⟩
    exact ((Board.applyRound_eq_ok found ended).mp ran).1
  intro fits
  have rows : (board.processed round session).results round.id =
    keptRows round.id (board.teamed session) round.settings.winCondition (board.scored round) :=
    update_self ..
  refine ⟨board.processed round session, (Board.applyRound_eq_ok found ended).mpr ⟨fits, rfl⟩, ?_, ?_, ?_, ?_⟩
  · rw [rows]
    exact keptRows_tabled round.id (board.scored_distinct round)
  · intro aborted
    have none : board.scored round = [] := if_neg (by simp [aborted])
    rw [rows, none, keptRows_nil]
  · intro shuffled same
    rw [rows, keptRows, keptRows, resultRows_perm round.id (board.scored_distinct round) same.symm]
  · intro times
    exact ⟨_, Board.applyTimes_processed found ended fits times, rfl⟩

def playedRequest (settings : RoomSettings) : CreateRequest where
  commandId := sampleKey 10
  actor := 1
  connectionSessionId := sampleKey 101
  settings := settings
  capacity := 3
  publicIdLimit := 64
  protocol := "stable"
  passwordSalt := none
  passwordVerifier := none
  roomId := sampleKey 11
  sessionId := sampleKey 12
  presenceId := sampleKey 13

def rivals : List RoundParticipantSelection :=
  [⟨1, 0, 1, [], sampleHost, sampleHostSlot, sampleGuest⟩,
    ⟨2, 1, 2, [], sampleGuest, sampleGuestSlot, sampleRival⟩]

/-- Two accounts play a round to its end, one on each team. -/
def playedTables (settings : RoomSettings) : Tables :=
  [(⟨1, 0⟩, .create (playedRequest settings)), (⟨2, 1⟩, sampleJoin 20 2),
    (⟨3, 2⟩, .startRound (sampleKey 30) 1 1 2 (sampleKey 50) rivals),
    (⟨4, 3⟩, .completeRound (sampleKey 40) 1 1 3 (some (sampleKey 50)) false)].foldl
    (perform openPolicies) .empty

def sampleScore (account totalScore : Nat) (bounded : totalScore < 2 ^ 63) : ScoreValues where
  scoreId := account
  totalScore := totalScore
  accuracy := 900000000
  maxCombo := 100
  bounded := ⟨bounded, by decide, by decide⟩

/-- The round with the scores of both accounts bound to it, and nothing processed. -/
def playedBoard (settings : RoomSettings) (first second : Nat)
    (bounded : first < 2 ^ 63 ∧ second < 2 ^ 63) : Board where
  tables := playedTables settings
  issued _ := true
  scores _ account := if account = 1 then some (sampleScore 1 first bounded.1) else
    some (sampleScore 2 second bounded.2)
  results _ := []
  standings _ _ _ := none

/-- A score with sixteen digits is accepted, and its round is never stored. -/
theorem overfull_unstored :
    ((playedBoard sampleSettings (10 ^ 15) 700 (by decide)).lifecycle (sampleKey 50)).map
        (·.1.status) = some .completed ∧
      ∀ after, (playedBoard sampleSettings (10 ^ 15) 700 (by decide)).applyRound (sampleKey 50) ≠
      .ok after := by
  have failed : ((playedBoard sampleSettings (10 ^ 15) 700 (by decide)).applyRound
    (sampleKey 50)).toOption.isSome = false := by
    decide +kernel
  refine ⟨by decide +kernel, fun after ran => ?_⟩
  rw [ran] at failed
  cases failed

theorem playedBoard_stored :
    ∃ after, (playedBoard sampleSettings 500 700 (by decide)).applyRound (sampleKey 50) =
      .ok after ∧ Tabled false [(1, 500), (2, 700)] (after.results (sampleKey 50)) := by
  have listed : ((playedBoard sampleSettings 500 700 (by decide)).lifecycle (sampleKey 50)).map (fun found =>
      ((playedBoard sampleSettings 500 700 (by decide)).teamed found.2, found.1.status,
        subjects ((playedBoard sampleSettings 500 700 (by decide)).teamed found.2)
        found.1.settings.winCondition
          ((playedBoard sampleSettings 500 700 (by decide)).scored found.1))) =
      some (false, .completed, [(1, 500), (2, 700)]) := by decide
  have processes : ((playedBoard sampleSettings 500 700 (by decide)).applyRound
    (sampleKey 50)).toOption.isSome = true := by
    decide +kernel
  generalize playedBoard sampleSettings 500 700 (by decide) = board at *
  obtain ⟨⟨round, session⟩, found, facts⟩ := Option.map_eq_some_iff.mp listed
  obtain ⟨alone, status, named⟩ : board.teamed session = false ∧ round.status = .completed ∧
    subjects (board.teamed session) round.settings.winCondition (board.scored round) =
    [(1, 500), (2, 700)] := by
    simpa using facts
  cases ran : board.applyRound (sampleKey 50) with
  | error failure =>
    rw [ran] at processes
    cases processes
  | ok after =>
    have fits := ((Board.applyRound_eq_ok found (.inl status)).mp ran).1
    obtain ⟨stored, ran', tabled, _⟩ := (results_stored_iff board found (.inl status)).mpr fits
    rw [ran] at ran'
    cases ran'
    rw [named, alone] at tabled
    exact ⟨after, rfl, tabled⟩

end Perfcho.Consumers
