import Perfcho.Durable.Tables

/-! Results of a team round, as the consumer of completed rounds projects them. -/

namespace Perfcho.Consumers

open Foundation Durable List

variable {Score Metric : Type}

/-- A participant's team and the values of the accepted score. -/
structure MetricRow (Score : Type) where
  accountId : Nat
  teamNumber : Nat
  score : Score

/-- One row of the results of a team round. -/
structure TeamResult (Metric : Type) where
  teamNumber : Nat
  rank : Nat
  metricValue : Metric
  points : Nat

/-- The participants of a round who have a score, in the order of their accounts. The
scores are those that the attempts of the round name. -/
def scored (tables : Tables) (scores : Uuid → Nat → Option Score) (roundId : Uuid) : List (MetricRow Score) :=
  ((tables.roundParticipants.rows.filter (·.roundId = roundId)).insertionSort
    (·.accountId ≤ ·.accountId)).filterMap
    fun row => (scores roundId row.accountId).map (MetricRow.mk row.accountId row.teamNumber)

abbrev Groups (Score : Type) := List (Nat × List (MetricRow Score))

/-- `grouped[row.team_number].append(row)` on a dictionary with empty lists as default. -/
def Groups.append (groups : Groups Score) (row : MetricRow Score) : Groups Score :=
  if groups.any (·.1 = row.teamNumber) then
    groups.map fun group => if group.1 = row.teamNumber then (group.1, group.2 ++ [row]) else group
  else groups ++ [(row.teamNumber, [row])]

def grouped (rows : List (MetricRow Score)) : Groups Score :=
  rows.foldl (fun groups row => if 0 < row.teamNumber then groups.append row else groups) []

def teamRanked [LinearOrder Metric] (teamMetric : List (MetricRow Score) → Metric)
    (rows : List (MetricRow Score)) : List (Nat × Metric) :=
  ((grouped rows).map fun group => (group.1, teamMetric group.2)).mergeSort fun first second =>
    second.2 < first.2 ∨ second.2 = first.2 ∧ first.1 ≤ second.1

/-- The team branch of `_replace_round_results`. -/
def teamResults [LinearOrder Metric] (teamMetric : List (MetricRow Score) → Metric)
    (rows : List (MetricRow Score)) : List (TeamResult Metric) :=
  let ranked := teamRanked teamMetric rows
  ranked.zipIdx.map fun entry => ⟨entry.1.1, entry.2 + 1, entry.1.2, ranked.length - entry.2⟩

/-- The row stands in the group of its team. -/
def Groups.Counts (groups : Groups Score) (row : MetricRow Score) : Prop :=
  ∃ values, (row.teamNumber, values) ∈ groups ∧ row ∈ values

theorem Groups.append_counts (groups : Groups Score) (row : MetricRow Score) :
    (groups.append row).Counts row := by
  unfold append
  split
  · next known =>
    obtain ⟨⟨team, values⟩, member, same⟩ := any_eq_true.mp known
    obtain rfl : team = row.teamNumber := by simpa using same
    exact ⟨values ++ [row], mem_map.mpr ⟨_, member, if_pos rfl⟩, by simp⟩
  · exact ⟨[row], by simp, by simp⟩

theorem Groups.Counts.append {groups : Groups Score} (counts : groups.Counts row)
    (other : MetricRow Score) : (groups.append other).Counts row := by
  obtain ⟨values, member, inside⟩ := counts
  unfold Groups.append
  split
  · by_cases same : row.teamNumber = other.teamNumber
    · exact ⟨values ++ [other], mem_map.mpr ⟨_, member, if_pos same⟩, mem_append_left _ inside⟩
    · exact ⟨values, mem_map.mpr ⟨_, member, if_neg same⟩, inside⟩
  · exact ⟨values, mem_append_left _ member, inside⟩

theorem grouped_counts {rows : List (MetricRow Score)} (member : row ∈ rows)
    (team : 0 < row.teamNumber) : (grouped rows).Counts row := by
  have folds : ∀ (groups : Groups Score), row ∈ rows ∨ groups.Counts row →
    (rows.foldl (fun groups row => if 0 < row.teamNumber then groups.append row else
      groups) groups).Counts row := by
    clear member
    induction rows with
    | nil =>
      rintro groups (member | counts)
      · cases member
      · exact counts
    | cons head rest ih =>
      intro groups start
      rw [foldl_cons]
      apply ih
      rcases start with member | counts
      · rcases mem_cons.mp member with rfl | later
        · right
          rw [if_pos team]
          exact groups.append_counts row
        · exact .inl later
      · right
        split
        · exact counts.append head
        · exact counts
  exact folds [] (.inl member)

theorem teamResults_complete [LinearOrder Metric] (member : row ∈ rows)
    (team : 0 < row.teamNumber) (teamMetric : List (MetricRow Score) → Metric) :
    ∃ result ∈ teamResults teamMetric rows, ∃ values, result.teamNumber = row.teamNumber ∧
      result.metricValue = teamMetric values ∧ row ∈ values := by
  obtain ⟨values, grouped, inside⟩ := grouped_counts member team
  have ranked : (row.teamNumber, teamMetric values) ∈ teamRanked teamMetric rows := by
    apply (mergeSort_perm _ _).mem_iff.mpr
    exact mem_map.mpr ⟨_, grouped, rfl⟩
  obtain ⟨index, placed⟩ := mem_iff_getElem?.mp ranked
  exact ⟨_, mem_map.mpr ⟨_, mk_mem_zipIdx_iff_getElem?.mpr placed, rfl⟩, values, rfl, rfl, inside⟩

end Perfcho.Consumers
