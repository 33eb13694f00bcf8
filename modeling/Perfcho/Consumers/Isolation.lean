import Perfcho.Consumers.Standings
import Perfcho.Foundation.Interleaving

/-! Results processed concurrently. Each transaction locks its own round, reads what is
committed when its statements run, and publishes its writes at its commit. -/

namespace Perfcho.Consumers

open Foundation Multiplayer Durable Function Option

/-- How far a transaction has come: its round is locked, the rows of the round are
written, or the standings are computed over all rounds that are visible to it. -/
inductive Stage where
  | locked
  | ranked (rows : List RoundResult)
  | added (rows : List RoundResult) (standings : Nat → Option Nat)

def Stage.summed : Stage → Bool
  | .added _ _ => true
  | _ => false

/-- A transaction of `consume_multiplayer_results` that has read its round and session. -/
structure Transaction where
  round : Round
  session : MultiplayerSession
  stage : Stage

/-- The committed board, the open transaction on each round, and the rounds for which
one was committed. -/
structure Processing where
  board : Board
  opened : Uuid → Option Transaction
  processed : Uuid → Bool

def Processing.start (board : Board) : Processing := ⟨board, fun _ => none, fun _ => false⟩

inductive Move where
  | locks (roundId : Uuid)
  | ranks (roundId : Uuid)
  | adds (roundId : Uuid)
  | commits (roundId : Uuid)
  | aborts (roundId : Uuid)
  | binds (roundId : Uuid) (account : Nat) (score : ScoreValues)

/-- The standings of the current kind that a session has with these results. -/
def Board.standingsOf (board : Board) (results : Uuid → List RoundResult)
    (session : MultiplayerSession) (key : Nat) : Option Nat :=
  if board.tookPart session.id (board.teamed session) key = true then
    some (board.total results session.id (board.teamed session) key)
  else none

namespace Processing

variable (state : Processing) {session : MultiplayerSession}

/-- A transaction waits for the lock while another one holds it. -/
def lock (roundId : Uuid) : Option Processing :=
  match state.board.lifecycle roundId, state.opened roundId with
  | some (round, session), none =>
    if round.status = .completed ∨ round.status = .aborted then
      some { state with opened := update state.opened roundId (some ⟨round, session, .locked⟩) }
    else none
  | _, _ => none

def rank (roundId : Uuid) : Option Processing :=
  match state.opened roundId with
  | some ⟨round, session, .locked⟩ =>
    match state.board.replaceRoundResults round (state.board.teamed session) with
    | .ok results =>
      some { state with
        opened := update state.opened roundId (some ⟨round, session, .ranked (results roundId)⟩) }
    | .error _ => none
  | _ => none

/-- The rows of other rounds are read as committed, its own as written. -/
def add (roundId : Uuid) : Option Processing :=
  match state.opened roundId with
  | some ⟨round, session, .ranked rows⟩ =>
    some { state with
      opened := update state.opened roundId (some ⟨round, session, .added rows
        (state.board.standingsOf (update state.board.results roundId rows) session)⟩) }
  | _ => none

def commit (roundId : Uuid) : Option Processing :=
  match state.opened roundId with
  | some ⟨round, session, .added rows standings⟩ =>
    match state.board.rebuildSummaries round session with
    | .ok () => some {
      board := { state.board with
        results := update state.board.results roundId rows
        standings := update state.board.standings session.id fun kind key =>
          if kind = state.board.teamed session then standings key else none }
      opened := update state.opened roundId none
      processed := update state.processed roundId true }
    | .error _ => none
  | _ => none

def move : Move → Option Processing
  | .locks roundId => state.lock roundId
  | .ranks roundId => state.rank roundId
  | .adds roundId => state.add roundId
  | .commits roundId => state.commit roundId
  | .aborts roundId => some { state with opened := update state.opened roundId none }
  | .binds roundId account score =>
    if state.board.scores roundId account = none then
      some { state with board := state.board.bindScore roundId account score }
    else none

end Processing

/-- The states of a run that starts with no transaction. -/
inductive Processes (allowed : Processing → Move → Prop) (tables : Tables) : Processing → Prop where
  | start {board : Board} (placed : board.tables = tables) : Processes allowed tables (.start board)
  | step {state after : Processing} {move : Move} (run : Processes allowed tables state)
      (permitted : allowed state move) (moved : state.move move = some after) : Processes allowed tables after

/-- A transaction computes standings only when none has computed those of its session
and is still open. -/
def Alone (state : Processing) : Move → Prop
  | .adds roundId => ∀ transaction, state.opened roundId = some transaction →
      ∀ other ∈ state.board.roundsOf transaction.session.id, ∀ two, state.opened other.id = some two →
        two.stage.summed = false
  | _ => True

namespace Processing

variable {state after : Processing} {roundId : Uuid}

theorem lock_eq_some (locked : state.lock roundId = some after) :
    ∃ round session, state.board.lifecycle roundId = some (round, session) ∧
      state.opened roundId = none ∧ (round.status = .completed ∨ round.status = .aborted) ∧
      after = { state with opened := update state.opened roundId (some ⟨round, session, .locked⟩) } := by
  unfold lock at locked
  split at locked
  · next round session found free =>
    split at locked
    · next ended => exact ⟨round, session, found, free, ended, (some.inj locked).symm⟩
    · cases locked
  · cases locked

theorem rank_eq_some (ranked : state.rank roundId = some after) :
    ∃ round session results, state.opened roundId = some ⟨round, session, .locked⟩ ∧
      state.board.replaceRoundResults round (state.board.teamed session) = .ok results ∧
      after = { state with
        opened := update state.opened roundId (some ⟨round, session, .ranked (results roundId)⟩) } := by
  unfold rank at ranked
  split at ranked
  · next round session open_ =>
    split at ranked
    · next results computed => exact ⟨round, session, results, open_, computed, (some.inj ranked).symm⟩
    · cases ranked
  · cases ranked

theorem add_eq_some (added : state.add roundId = some after) :
    ∃ round session rows, state.opened roundId = some ⟨round, session, .ranked rows⟩ ∧ after = { state with
        opened := update state.opened roundId (some ⟨round, session, .added rows
          (state.board.standingsOf (update state.board.results roundId rows) session)⟩) } := by
  unfold add at added
  split at added
  · next round session rows open_ => exact ⟨round, session, rows, open_, (some.inj added).symm⟩
  · cases added

theorem commit_eq_some (committed : state.commit roundId = some after) :
    ∃ round session rows standings,
      state.opened roundId = some ⟨round, session, .added rows standings⟩ ∧ after = {
        board := { state.board with
          results := update state.board.results roundId rows
          standings := update state.board.standings session.id fun kind key =>
            if kind = state.board.teamed session then standings key else none }
        opened := update state.opened roundId none
        processed := update state.processed roundId true } := by
  unfold commit at committed
  split at committed
  · next round session rows standings open_ =>
    split at committed
    · exact ⟨round, session, rows, standings, open_, (some.inj committed).symm⟩
    · cases committed
  · cases committed

end Processing

/-- Open transactions that have computed standings are on different sessions and would
still compute the same, and the standings of a session with a processed round count its
results. -/
structure Balanced (state : Processing) : Prop where
  read : ∀ roundId transaction, state.opened roundId = some transaction →
    state.board.lifecycle roundId = some (transaction.round, transaction.session)
  exclusive : ∀ first second one two, state.opened first = some one → state.opened second = some two →
    one.stage.summed = true → two.stage.summed = true → one.session.id = two.session.id → first = second
  added : ∀ roundId round session rows standings,
    state.opened roundId = some ⟨round, session, .added rows standings⟩ →
    standings = state.board.standingsOf (update state.board.results roundId rows) session
  settled : ∀ session ∈ state.board.tables.sessions.rows,
    (∃ round ∈ state.board.roundsOf session.id, state.processed round.id = true) →
      ∀ key, state.board.standings session.id (state.board.teamed session) key =
        state.board.standingsOf state.board.results session key

section

variable {state after : Processing} {roundId : Uuid}

theorem Board.mem_roundIds_iff {board : Board} {round : Round}
    (found : board.lifecycle roundId = some (round, session)) (sessionId : Uuid) :
    roundId ∈ board.tables.roundIds sessionId ↔ sessionId = session.id := by
  obtain ⟨⟨rfl, house⟩, stored, _⟩ := Board.of_lifecycle found
  rw [mem_roundIds]
  constructor
  · rintro ⟨other, held, rfl, same⟩
    cases round_unique stored held same
    exact house.symm
  · rintro rfl
    exact ⟨round, stored, house.symm, rfl⟩

theorem Balanced.advance (balanced : Balanced state)
    (found : state.board.lifecycle roundId = some (transaction.round, transaction.session))
    (alone : transaction.stage.summed = true → ∀ other two, state.opened other = some two →
      two.session.id = transaction.session.id → two.stage.summed = false)
    (computed : ∀ rows standings, transaction.stage = .added rows standings →
      standings = state.board.standingsOf (update state.board.results roundId rows) transaction.session) :
    Balanced { state with opened := update state.opened roundId (some transaction) } := by
  constructor
  · intro other two open_
    obtain ⟨rfl, same⟩ | ⟨_, open_⟩ := update_eq_some open_
    · cases same
      exact found
    · exact balanced.read other two open_
  · intro first second one two left right mine yours same
    obtain ⟨here, ⟨⟩⟩ | ⟨_, left⟩ := update_eq_some left
    · obtain ⟨there, _⟩ | ⟨_, right⟩ := update_eq_some right
      · exact here.trans there.symm
      · cases (alone mine second two right same.symm).symm.trans yours
    · obtain ⟨there, ⟨⟩⟩ | ⟨_, right⟩ := update_eq_some right
      · cases (alone yours first one left same).symm.trans mine
      · exact balanced.exclusive first second one two left right mine yours same
  · intro other round session rows standings open_
    obtain ⟨rfl, same⟩ | ⟨_, open_⟩ := update_eq_some open_
    · cases same
      exact computed rows standings rfl
    · exact balanced.added other round session rows standings open_
  · exact balanced.settled

theorem Balanced.abort (balanced : Balanced state) (roundId : Uuid) :
    Balanced { state with opened := update state.opened roundId none } := by
  have still : ∀ other transaction, update state.opened roundId none other = some transaction →
    state.opened other = some transaction := fun other transaction open_ => (update_none_eq_some open_).2
  exact ⟨fun other two open_ => balanced.read other two (still _ _ open_),
    fun first second one two left right =>
    balanced.exclusive first second one two (still _ _ left) (still _ _ right),
    fun other round session rows standings open_ =>
      balanced.added other round session rows standings (still _ _ open_),
    balanced.settled⟩

theorem Balanced.commit (balanced : Balanced state)
    (committed : state.commit roundId = some after) : Balanced after := by
  obtain ⟨round, session, rows, standings, open_, rfl⟩ := Processing.commit_eq_some committed
  have found : state.board.lifecycle roundId = some (round, session) := balanced.read _ _ open_
  have computed := balanced.added _ _ _ _ _ open_
  have rest := balanced.abort roundId
  -- What other sessions add up is not touched.
  have elsewhere : ∀ (results : Uuid → List RoundResult) (other : MultiplayerSession), other.id ≠ session.id →
    state.board.standingsOf (update results roundId rows) other = state.board.standingsOf results other := by
    intro results other different
    funext key
    unfold Board.standingsOf
    rw [total_congr rfl]
    intro inside member
    apply update_of_ne
    rintro rfl
    exact different ((Board.mem_roundIds_iff found _).mp member)
  constructor
  · exact rest.read
  · exact rest.exclusive
  · intro other located owner others totals still
    obtain ⟨apart, still⟩ := update_none_eq_some still
    have different : owner.id ≠ session.id := fun same =>
      apart (balanced.exclusive _ _ _ _ still open_ rfl rfl same)
    rw [balanced.added _ _ _ _ _ still, ← elsewhere _ owner different, update_comm apart]
    rfl
  · intro owner member done key
    by_cases ours : owner.id = session.id
    · cases session_unique (Board.of_lifecycle found).2.2 member ours
      have written : update state.board.standings session.id (fun kind key =>
          if kind = state.board.teamed session then standings key else
            none) session.id (state.board.teamed session) key = standings key := by
        rw [update_self]
        exact if_pos rfl
      exact written.trans (congrFun computed key)
    · have before : ∃ round ∈ state.board.roundsOf owner.id, state.processed round.id = true := by
        obtain ⟨inside, listed, done⟩ := done
        obtain ⟨held, theirs⟩ := List.mem_filter.mp listed
        have apart : inside.id ≠ roundId := fun same =>
          ours ((Board.mem_roundIds_iff found _).mp
            (mem_roundIds.mpr ⟨inside, held, of_decide_eq_true theirs, same⟩))
        exact ⟨inside, listed, (update_of_ne apart true state.processed).symm.trans done⟩
      have same : update state.board.standings session.id (fun kind key =>
          if kind = state.board.teamed session then standings key else
            none) owner.id = state.board.standings owner.id :=
        update_of_ne ours ..
      refine (congrFun (congrFun same _) key).trans ((balanced.settled owner member before key).trans ?_)
      exact (congrFun (elsewhere _ owner ours) key).symm

theorem Balanced.move {move : Move} (balanced : Balanced state) (alone : Alone state move)
    (moved : state.move move = some after) : Balanced after := by
  cases move with
  | locks roundId =>
    obtain ⟨round, session, found, _, _, rfl⟩ := Processing.lock_eq_some moved
    exact balanced.advance found (fun summed => by cases summed) (fun _ _ staged => by cases staged)
  | ranks roundId =>
    obtain ⟨round, session, results, open_, _, rfl⟩ := Processing.rank_eq_some moved
    have found : state.board.lifecycle roundId = some (round, session) := balanced.read _ _ open_
    exact balanced.advance found (fun summed => by cases summed) (fun _ _ staged => by cases staged)
  | adds roundId =>
    obtain ⟨round, session, rows, open_, rfl⟩ := Processing.add_eq_some moved
    have found : state.board.lifecycle roundId = some (round, session) := balanced.read _ _ open_
    refine balanced.advance found (fun _ other two other_open same => ?_) ?_
    · obtain ⟨⟨rfl, house⟩, stored, _⟩ := Board.of_lifecycle (balanced.read other two other_open)
      exact alone _ open_ two.round
        (List.mem_filter.mpr ⟨stored, decide_eq_true (house.symm.trans same)⟩) two other_open
    · rintro _ _ ⟨⟩
      rfl
  | commits roundId => exact balanced.commit moved
  | aborts roundId =>
    cases moved
    exact balanced.abort roundId
  | binds roundId account score =>
    dsimp only [Processing.move] at moved
    split at moved
    · cases moved
      exact ⟨balanced.read, balanced.exclusive, balanced.added, balanced.settled⟩
    · cases moved

theorem Processes.balanced (run : Processes Alone tables state) : Balanced state := by
  induction run with
  | start placed =>
    constructor
    · intro _ _ open_
      cases open_
    · intro _ _ _ _ open_
      cases open_
    · intro _ _ _ _ _ open_
      cases open_
    · rintro _ _ ⟨_, _, done⟩
      cases done
  | step _ alone moved ih => exact ih.move alone moved

end

/-- The standings that a transaction publishes are those of `_rebuild_session_standings`. -/
theorem rebuildSessionStandings_eq (board : Board) (results : Uuid → List RoundResult)
    (session : MultiplayerSession) :
    board.rebuildSessionStandings results session.id (board.teamed session) =
      update board.standings session.id fun kind key =>
        if kind = board.teamed session then board.standingsOf results session key else none := by
  funext other kind key
  unfold Board.rebuildSessionStandings Board.standingsOf
  by_cases here : other = session.id
  · rw [here, update_self, if_pos rfl]
    by_cases same : kind = board.teamed session
    · simp only [same, true_and, if_true]
    · simp only [same, false_and, if_false]
  · rw [update_of_ne here, if_neg here]

/-- A transaction that nothing interrupts does what `_apply_round` does. -/
theorem Processing.applies {board : Board} {round : Round}
    (found : state.board.lifecycle roundId = some (round, session))
    (ended : round.status = .completed ∨ round.status = .aborted)
    (free : state.opened roundId = none) (ran : state.board.applyRound roundId = .ok board) :
    [Move.locks roundId, .ranks roundId, .adds roundId, .commits roundId].foldlM Processing.move
      state = some ⟨board, state.opened, update state.processed roundId true⟩ := by
  obtain ⟨⟨columns, summaries⟩, rfl⟩ := (Board.applyRound_eq_ok found ended).mp ran
  obtain ⟨⟨rfl, _⟩, _⟩ := Board.of_lifecycle found
  have replaced := Board.replaceRoundResults_eq_ok.mpr ⟨columns, rfl⟩
  have summed := Board.rebuildSummaries_eq_ok.mpr summaries
  have closed : update state.opened round.id none = state.opened := by
    rw [← free]
    exact update_eq_self ..
  simp only [List.foldlM, Processing.move, Processing.lock, found, free, ended, if_true,
    bind_eq_bind, bind_some, Processing.rank, update_self, replaced, Processing.add,
    Processing.commit, summed, update_idem, closed, pure, Board.processed, rebuildSessionStandings_eq]

/-- When the transactions of a session compute its standings one after the other, these
are the points of its stored results as soon as all its rounds were processed. -/
theorem standings_balanced {tables : Tables} {state : Processing} (run : Processes Alone tables state)
    {session : MultiplayerSession} (stored : session ∈ state.board.tables.sessions.rows)
    (processed : ∀ round ∈ state.board.roundsOf session.id, state.processed round.id = true)
    {key : Nat} (part : state.board.tookPart session.id (state.board.teamed session) key = true) :
    state.board.standings session.id (state.board.teamed session) key =
      some (state.board.total state.board.results session.id (state.board.teamed session) key) := by
  obtain ⟨round, listed, _⟩ := List.any_eq_true.mp part
  rw [run.balanced.settled session stored ⟨round, listed, processed round listed⟩ key,
    Board.standingsOf, if_pos part]

/-- Moves that pass a test one after the other, and what holds in the end. -/
theorem Processes.tested (run : Processes allowed tables state) (moves : List Move)
    (test : Processing → Move → Bool) (sound : ∀ state move, test state move = true →
      allowed state move) (last : Processing → Prop) [DecidablePred last]
    (passed : (moves.foldlM (fun state move => if test state move then state.move move else
      none) state).any (last ·) = true) :
    ∃ after, Processes allowed tables after ∧ last after := by
  induction moves generalizing state with
  | nil => exact ⟨state, run, of_decide_eq_true passed⟩
  | cons move rest ih =>
    obtain ⟨after, moved, held⟩ := (any_eq_true _ _).mp passed
    obtain ⟨next, stepped, moved⟩ := bind_eq_some_iff.mp moved
    rw [ite_none_right_eq_some] at stepped
    exact ih (run.step (sound state move stepped.1) stepped.2) ((any_eq_true _ _).mpr ⟨after, moved, held⟩)

/-- A second round of the two accounts. -/
def pairTables : Tables :=
  [(⟨5, 4⟩, .startRound (sampleKey 60) 1 1 4 (sampleKey 51) rivals),
    (⟨6, 5⟩, .completeRound (sampleKey 70) 1 1 5 (some (sampleKey 51)) false)].foldl
      (perform openPolicies) (playedTables sampleSettings)

/-- The second account is better in both rounds. -/
def pairBoard : Board := { playedBoard sampleSettings 500 700 (by decide) with tables := pairTables }

theorem pairBoard_starts : Processes allowed pairTables (.start pairBoard) := .start rfl

theorem applies_pairBoard : ∃ board, pairBoard.applyRound (sampleKey 50) = .ok board ∧
    [Move.locks (sampleKey 50), .ranks (sampleKey 50), .adds (sampleKey 50),
      .commits (sampleKey 50)].foldlM Processing.move (.start pairBoard) = some ⟨board, fun _ =>
      none, update (fun _ => false) (sampleKey 50) true⟩ := by
  have ended : (pairBoard.lifecycle (sampleKey 50)).any (·.1.status = .completed) = true := by decide +kernel
  obtain ⟨_, found, ended⟩ := (any_eq_true _ _).mp ended
  have succeeds : (pairBoard.applyRound (sampleKey 50)).isOk = true := by decide +kernel
  cases ran : pairBoard.applyRound (sampleKey 50) with
  | error => simp [ran, Except.isOk, Except.toBool] at succeeds
  | ok board => exact ⟨board, rfl, Processing.applies found (.inl (of_decide_eq_true ended)) rfl ran⟩

/-- The transactions of two rounds that overlap: neither sees the results of the other. -/
def overlap : List Move :=
  [.locks (sampleKey 50), .locks (sampleKey 51), .ranks (sampleKey 50), .ranks (sampleKey 51),
    .adds (sampleKey 51), .adds (sampleKey 50), .commits (sampleKey 51), .commits (sampleKey 50)]

/-- Both rounds are processed, and the standings lack the points of one of them. -/
theorem overlap_unbalanced : ∃ state, Processes (fun _ _ => True) pairTables state ∧
    (∀ round ∈ state.board.tables.rounds.rows, (state.opened round.id).isNone ∧
      state.processed round.id = true) ∧ state.board.tookPart (sampleKey 12) false 2 = true ∧
    state.board.standings (sampleKey 12) false 2 = some 2 ∧
    state.board.total state.board.results (sampleKey 12) false 2 = 4 := by
  exact pairBoard_starts.tested overlap (fun _ _ => true) (fun _ _ _ => trivial) _ (by decide +kernel)

def aloneTest (state : Processing) : Move → Bool
  | .adds roundId => (state.opened roundId).all fun transaction =>
    (state.board.roundsOf transaction.session.id).all fun other =>
      (state.opened other.id).all fun two => !two.stage.summed
  | _ => true

theorem alone_of_test (state : Processing) (move : Move) (passed : aloneTest state move = true) :
    Alone state move := by
  cases move with
  | adds roundId =>
    intro transaction open_ other member two other_open
    rw [aloneTest, open_] at passed
    simpa [other_open] using List.all_eq_true.mp passed other member
  | _ => trivial

/-- The same transactions, with the standings of the second round computed after the first
has committed. -/
theorem pairBoard_balanced :
    ∃ state, ∃ session ∈ state.board.tables.sessions.rows, Processes Alone pairTables state ∧
    (∀ round ∈ state.board.roundsOf session.id, state.processed round.id = true) ∧
    state.board.tookPart session.id (state.board.teamed session) 2 = true ∧
    state.board.total state.board.results session.id (state.board.teamed session) 2 = 4 ∧
      state.board.standings session.id
      (state.board.teamed session) 2 =
      some (state.board.total state.board.results session.id (state.board.teamed session) 2) := by
  obtain ⟨state, run, session, stored, processed, part, four⟩ := pairBoard_starts.tested
    [.locks (sampleKey 50), .locks (sampleKey 51), .ranks (sampleKey 50), .ranks (sampleKey 51),
      .adds (sampleKey 50), .commits (sampleKey 50), .adds (sampleKey 51), .commits (sampleKey 51)]
    aloneTest alone_of_test (fun state => ∃ session ∈ state.board.tables.sessions.rows,
      (∀ round ∈ state.board.roundsOf session.id, state.processed round.id = true) ∧
      state.board.tookPart session.id (state.board.teamed session) 2 = true ∧
      state.board.total state.board.results session.id (state.board.teamed session) 2 = 4) (by decide +kernel)
  exact ⟨state, session, stored, run, processed, part, four, standings_balanced run stored processed part⟩

end Perfcho.Consumers
