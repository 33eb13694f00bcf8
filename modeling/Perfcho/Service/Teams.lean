import Perfcho.Consumers.Results
import Perfcho.Service.Laws

/-! Teams. In a team mode everybody has a team, and so everybody counts in the team
results, as long as nobody joins: a join seats an account without a team. -/

namespace Perfcho.Service

open Foundation Multiplayer Durable Redis Consumers

variable {Blob : Type} (service : MultiplayerService Blob)

instance (settings : RoomSettings) : Decidable settings.teams := inferInstanceAs (Decidable (_ ∨ _))

/-- Everybody has a team if the mode counts by team. -/
def Teamed (state : RoomState) : Prop :=
  state.room.settings.teams → ∀ slot ∈ state.slots, slot.accountId.isSome → slot.team ≠ 0

/-- An edit that leaves nobody without a team. -/
def KeepsTeams (state : RoomState) : Mutation → Prop
  | .join record account _ => record.settings.teams → state.room.settings.teams ∧
      (state.slotFor account).isSome
  | .leave _ record => record.settings.teams → state.room.settings.teams
  | .setSlotTeam _ team => state.room.settings.teams → team ≠ 0
  | _ => True

/-- The calls that leave nobody without a team: no account is seated by a join in a team
mode, no stored state gets a team mode without its teams, and a change of settings is
not a repeated command. -/
def SparesTeams (world : World Blob) : Call → Prop
  | .state task => ∀ room mutation state, task.target = some room → task.mutation = some mutation →
      Holds service.repo room world.store state → KeepsTeams state mutation
  | .repair updated stale => updated.room.sessionId = stale.room.sessionId → updated.roundId = stale.roundId →
      updated.room.settings.teams → stale.room.settings.teams
  | .commit _ (.updateSettings commandId _ _ _ _) => world.tables.commandApplied commandId = false
  | _ => True

/-- Everybody has a team, in the slots and in the rounds. -/
def teamLaw : Law where
  settings _ := True
  state := Teamed
  row settings row := settings.teams → row.teamNumber ≠ 0

variable {service} {world : World Blob} {state updated : RoomState}

section

variable {tables : Tables}

/-- A state that is rebuilt has the teams of the round, or the first team. -/
theorem Rebuilt.teamed (rebuilt : Rebuilt snapshot state) (current : Current tables snapshot)
    (paced : Paced tables) (rows : RowsFit teamLaw.row tables) : Teamed state := by
  intro teams
  rw [rebuilt.room] at teams
  refine Rebuilt.each rebuilt current paced rows ?_ ?_ ?_
  · intro slot team _ _
    rw [team]
    exact defaultTeam_ne_zero teams
  · exact fun slot empty _ occupied => by simp [empty] at occupied
  · exact fun slot row fits _ team _ _ => team ▸ fits teams

theorem Retained.teamed (retained : Retained state snapshot updated) (teamed : Teamed state)
    (kept : updated.room.settings.teams → state.room.settings.teams) : Teamed updated := by
  intro teams slot member occupied
  cases retained.laid slot member with
  | kept member => exact teamed (kept teams) slot (List.mem_filter.mp member).1 occupied
  | seat _ _ _ _ team =>
    rw [team, ← retained.room]
    exact defaultTeam_ne_zero teams
  | vacant status => simp [RoomSlot.vacant_of_open status] at occupied

end

theorem Edited.teamed (edited : Edited mutation state updated) (teamed : Teamed state)
    (keeps : KeepsTeams state mutation) : Teamed updated := by
  intro teams slot member occupied
  rw [edited.room] at teams
  have grouped : state.room.settings.teams := by
    cases mutation with
    | join => exact (keeps teams).1
    | leave => exact keeps teams
    | _ => exact teams
  cases edited.came slot member with
  | kept member => exact teamed grouped slot member occupied
  | vacant empty => simp [empty] at occupied
  | seated joins unseated =>
    subst joins
    have seat := (keeps teams).2
    rw [unseated] at seat
    cases seat
  | altered member same alters =>
    have before := teamed grouped _ member (same ▸ occupied)
    cases mutation with
    | setSlotTeam account team =>
      rw [alters.2.2.1]
      exact keeps grouped
    | setSlotStatus | moveSlot | setSlotMods | markLoaded | markSkipped =>
      rw [alters.2.2.1]
      exact before
    | markFailed =>
      rw [alters.2.2.2.1]
      exact before
    | join | leave | lockSlot => exact alters.elim

theorem Transit.teamed {record : RoomRecord}
    (transit : Transit service state record active command next) (teamed : Teamed state)
    (settled : record.settings = command.settle state.room.settings) : Teamed next := by
  intro teams slot member occupied
  rw [transit.room, settled] at teams
  rcases transit.turned.came slot member with ⟨empty, _⟩ | ⟨old, there, _, account, regrouped, _⟩
  · simp [empty] at occupied
  rcases regrouped with ⟨mode, same⟩ | chosen
  · rw [same]
    apply teamed _ old there (account ▸ occupied)
    rwa [RoomSettings.teams, ← mode]
  · exact chosen teams

theorem teamLaw_keeps : teamLaw.Keeps service (SparesTeams service) where
  alike same teamed := by
    change Teamed _
    rw [Teamed, same.settings, same.slots]
    exact teamed
  opens _ _ := trivial
  settles _ _ _ _ _ := trivial
  rebuilt facts current paced rows := Rebuilt.teamed facts current paced rows
  retained allowed current session round retained teamed :=
    Retained.teamed retained teamed (allowed (by rw [retained.room, session]) retained.round)
  edited allowed edits target holds _ edited teamed := Edited.teamed edited teamed
    (allowed _ _ _ target edits holds)
  transit allowed transit settled _ teamed := by
    apply transit.teamed teamed
    apply settled.fresh
    rintro _ _ _ _ _ rfl
    exact allowed
  freezes := by
    intro state participants participant roundId row _ teamed selected member frozen teams
    obtain ⟨slot, there, _, named, _, team, _⟩ := mem_selections selected member
    rw [frozen.team, team]
    exact teamed teams slot there (by simp [named])

/-- In a run that never seats an account without a team, everybody in a team mode is on
one of the two teams, and every participant of a team round whose score counts has a
part in the result of a team. -/
theorem teams_assigned {Score Metric : Type} [LinearOrder Metric]
    (runs : Runs service (SparesTeams service) (fun _ _ => True) (.empty clock) world) :
    (∀ room state, Holds service.repo room world.store state → state.room.settings.teams →
      ∀ slot ∈ state.slots, slot.accountId.isSome → slot.team = 1 ∨ slot.team = 2) ∧
    ∀ round ∈ world.tables.rounds.rows, round.settings.teams →
      ∀ (scores : Uuid → Nat → Option Score) (teamMetric : List (MetricRow Score) → Metric),
      ∀ row ∈ scored world.tables scores round.id,
        ∃ result ∈ teamResults teamMetric (scored world.tables scores round.id), ∃ values,
        result.teamNumber = row.teamNumber ∧ result.metricValue = teamMetric values ∧ row ∈ values := by
  have rules := teamLaw_keeps.runs runs
  constructor
  · intro room state holds teams slot member occupied
    have team := (rules.stored room state holds).state teams slot member occupied
    have bound := slot.teamed
    omega
  · intro round stored teams scores teamMetric row member
    apply teamResults_complete member
    obtain ⟨participant, listed, made⟩ := List.mem_filterMap.mp member
    obtain ⟨inside, key⟩ := List.mem_filter.mp ((List.perm_insertionSort _ _).mem_iff.mp listed)
    obtain ⟨score, _, rfl⟩ := Option.map_eq_some_iff.mp made
    exact Nat.pos_of_ne_zero (rules.rows participant inside round stored (of_decide_eq_true key).symm teams)

def teamSettings : RoomSettings := { sampleSettings with teamMode := .teamVs }

/-- The team and the account of a slot that is projected. -/
def projectedTeam (world : World RoomState) (position : Nat) : Option (Option Nat × Nat) :=
  ((content plainRepo 1 world.store).bind (·.slots[position]?)).map fun slot => (slot.accountId, slot.team)

/-- A second account joins a room in a team mode, and a round is started. -/
def neutralWorld : World RoomState :=
  [sampleOpening teamSettings 2, sampleJoining 2 2,
    .startRound (sampleOrigin 1 "start" 3) 1 2 sampleRound].foldl
    (serve plainService) (.empty 0)

/-- The second account has no team, and no team result counts its score. -/
theorem joined_neutral : Reached plainService neutralWorld ∧ projectedTeam neutralWorld 1 = some (some 2, 0) ∧
    (neutralWorld.tables.rounds.rows.map fun round => (round.id, decide round.settings.teams)) =
    [(sampleRound, true)] ∧
    ((scored neutralWorld.tables (fun _ _ => some ()) sampleRound).map fun row => (row.accountId,
      row.teamNumber)) =
      [(1, 1), (2, 0)] ∧
    ((grouped (scored neutralWorld.tables (fun _ _ => some ()) sampleRound)).map fun group =>
      (group.1, group.2.map (·.accountId))) = [(1, [1])] :=
  ⟨reached_sample _, by decide +kernel, by decide +kernel, by decide +kernel, by decide +kernel⟩

instance (state : RoomState) : (mutation : Mutation) → Decidable (KeepsTeams state mutation)
  | .join .. | .leave .. | .setSlotTeam .. => inferInstanceAs (Decidable (_ → _))
  | .moveSlot .. | .lockSlot .. | .setSlotStatus .. | .setSlotMods ..
  | .markLoaded _ | .markSkipped _ | .markFailed _ => inferInstanceAs (Decidable True)

def teamTest (world : World RoomState) : Call → Bool
  | .state task =>
    match task.target, task.mutation with
    | some room, some mutation => (content plainRepo room world.store).all (KeepsTeams · mutation)
    | _, _ => true
  | .repair updated stale => updated.room.settings.teams → stale.room.settings.teams
  | .commit _ (.updateSettings commandId _ _ _ _) => !world.tables.commandApplied commandId
  | _ => true

theorem sparesTeams_of_test (world : World RoomState) (call : Call)
    (passed : teamTest world call = true) : SparesTeams plainService world call := by
  cases call with
  | state task =>
    intro room mutation state target edits holds
    simp only [teamTest, target, edits] at passed
    rw [show content plainRepo room world.store = some state from holds.content] at passed
    exact of_decide_eq_true passed
  | repair => exact fun _ _ => of_decide_eq_true passed
  | commit moment command =>
    cases command with
    | updateSettings =>
      change world.tables.commandApplied _ = false
      simpa [teamTest] using passed
    | _ => trivial
  | _ => trivial

/-- The second account has joined before the mode is changed, and the two play a round. -/
def teamRequests : List Request :=
  [sampleOpening sampleSettings 2, sampleJoining 2 2,
    .updateSettings (sampleOrigin 1 "settings" 3) 1 2 teamSettings,
    .startRound (sampleOrigin 1 "start" 4) 1 3 sampleRound]

def teamWorld : World RoomState := teamRequests.foldl (serve plainService) (.empty 0)

theorem teamed_counted : (projectedTeam teamWorld 1 = some (some 2, 1) ∧
      ((scored teamWorld.tables (fun _ _ => some ()) sampleRound).map fun row => (row.accountId,
        row.teamNumber)) =
        [(1, 1), (2, 1)]) ∧
    ∀ round ∈ teamWorld.tables.rounds.rows, round.settings.teams →
      ∀ row ∈ scored teamWorld.tables (fun _ account => some account) round.id,
        ∃ result ∈ teamResults List.length (scored teamWorld.tables (fun _ account => some account) round.id),
          ∃ values, result.teamNumber = row.teamNumber ∧ result.metricValue = List.length values ∧
          row ∈ values := by
  have runs : Runs plainService (SparesTeams plainService) (fun _ _ => True) (.empty 0) teamWorld :=
    runs_of_checks sparesTeams_of_test (by decide +kernel)
  exact ⟨⟨by decide +kernel, by decide +kernel⟩, fun round stored teams =>
    (teams_assigned runs).2 round stored teams _ _⟩

end Perfcho.Service
