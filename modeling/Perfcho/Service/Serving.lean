import Perfcho.Multiplayer.SlotFlow
import Perfcho.Service.Moves

/-! Every request is a run of such steps: each method of the service, with all of its
error paths, moves the world step by step. -/

namespace Perfcho.Service

open Foundation Multiplayer Durable Redis Program Yields

variable {Blob : Type} {service : MultiplayerService Blob} {permitted : World Blob → Call → Prop}
  {snapshot : DurableRoomSnapshot} {check : RoomState → Except Failure Mutation}
  {state updated : RoomState} {committed : Committed} {record : RoomRecord}
  {after : World Blob} {publicId : Nat}

variable {world : World Blob}

/-- What holds of the result of a method and of the world it ends in. -/
abbrev Ends (service : MultiplayerService Blob) (permitted : World Blob → Call → Prop) (method : Method Value)
    (world : World Blob) (post : Except Failure Value → World Blob → Prop) : Prop :=
  Yields (execute service) permitted method world post

/-- A committed command leaves its record in the projection. -/
theorem Transit.room (transit : Transit service state record active command next) : next.room = record := by
  cases transit with
  | settings _ built => exact (settingsUpdated_eq_ok built).1
  | host built | password built => exact (recordChanged_eq_ok built).1
  | started _ _ built => exact (roundStarted_eq_ok built).1
  | completed built => exact (roundCompleted_eq_ok built).1

theorem Transit.turned (transit : Transit service state record active command next) :
    Turned (fun slot turned =>
    Regrouped state.room.settings (command.settle state.room.settings) slot turned ∧
      Remodded state.room.settings (command.settle state.room.settings) slot turned) state.slots
      next.slots := by
  cases transit with
  | settings checked built =>
    obtain ⟨_, _, _, restarted⟩ := settingsUpdated_eq_ok built
    apply (settingsTransition_eq_ok checked).1.trans restarted
    rintro slot middle turned ⟨regrouped, remodded⟩ ⟨_, team, mods⟩
    rw [Regrouped, Remodded, team, mods]
    exact ⟨regrouped, remodded⟩
  | host built | password built =>
    obtain ⟨_, _, _, slots⟩ := recordChanged_eq_ok built
    exact slots ▸ .refl fun slot => ⟨.inl ⟨rfl, rfl⟩, .inl ⟨rfl, rfl⟩⟩
  | started _ _ built =>
    obtain ⟨_, _, _, turned⟩ := roundStarted_eq_ok built
    exact turned.imp fun slot next turn => ⟨.inl ⟨rfl, turn.1⟩, .inl ⟨rfl, turn.2.1⟩⟩
  | completed built =>
    obtain ⟨_, _, _, turned⟩ := roundCompleted_eq_ok built
    exact turned.imp fun slot next turn => ⟨.inl ⟨rfl, turn.1⟩, .inl ⟨rfl, turn.2.1⟩⟩

theorem clock_step (continues : Ends service permitted (next world.store.clock) world post) :
    Ends service permitted (Method.clock >>= next) world post :=
  step fun _ => continues

theorem state_ends (does : Does service.repo (service.repo.body task) world.store post) :
    Ends service permitted (Method.state task) world fun result after =>
      permitted world (.state task) ∧ after.tables = world.tables ∧ post result after.store :=
  step fun allowed => .ofExcept ⟨allowed, rfl, does.runAlone⟩

theorem access_ends : Ends service permitted
    (Method.access account permissions) world fun _ after => after = world :=
  clock_step (.step fun _ => .ofExcept rfl)

theorem snapshot_ends : Ends service permitted (Method.snapshot publicId) world fun result after =>
    after = world ∧ (∀ snapshot, result = .ok (some snapshot) →
      Current world.tables snapshot ∧ snapshot.room.publicId = publicId) ∧
      (result = .ok none → world.tables.getRoom publicId = .ok none) := by
  refine .step fun _ => .ofExcept ⟨rfl, ?_, loaded_eq_none⟩
  intro snapshot ran
  obtain ⟨room, found, built⟩ := loaded_eq_ok ran
  obtain ⟨located, _⟩ := loadSnapshot_eq_ok built
  exact ⟨⟨room, built⟩, (standing_of_getRoom located).2.trans (standing_of_getRoom found).2⟩

theorem accountSnapshot_ends :
    Ends service permitted (Method.accountSnapshot account) world fun result after =>
      after = world ∧ ∀ snapshot, result = .ok (some snapshot) → Current world.tables snapshot := by
  refine .step fun _ => .ofExcept ⟨rfl, ?_⟩
  intro snapshot ran
  obtain ⟨room, _, built⟩ := loaded_eq_ok ran
  exact ⟨room, built⟩

theorem replay_ends : Ends service permitted
    (Method.replay account permissions commandId) world fun result after =>
      after = world ∧ (∀ snapshot, result = .ok (some snapshot) → Current world.tables snapshot ∧
          ∃ room, world.tables.findCommandRoom commandId = .ok (some room)) ∧
        (result = .ok none → world.tables.findCommandRoom commandId = .ok none) := by
  refine clock_step (.step fun _ => .ofExcept ⟨rfl, ?_, ?_⟩)
  · intro snapshot ran
    obtain ⟨_, _, ran⟩ := of_bind_eq_ok ran
    obtain ⟨room, found, built⟩ := loaded_eq_ok ran
    exact ⟨⟨room, built⟩, room, found⟩
  · intro ran
    obtain ⟨_, _, ran⟩ := of_bind_eq_ok ran
    exact loaded_eq_none ran

theorem commit_ends : Ends service permitted (Method.commit moment command) world fun result after =>
      permitted world (.commit moment command) ∧ after.store = world.store ∧
        ((∃ failure, result = .error failure) ∧ after = world ∨ ∃ committed, result = .ok committed ∧
            commit world.tables service.policies moment command = .ok (committed, after.tables)) := by
  apply step
  intro allowed
  apply Yields.ofExcept
  simp only [execute]
  cases ran : commit world.tables service.policies moment command with
  | error failure => exact ⟨allowed, rfl, .inl ⟨⟨failure, rfl⟩, rfl⟩⟩
  | ok result => exact ⟨allowed, rfl, .inr ⟨result.1, rfl, rfl⟩⟩

theorem unwritten_moves {call : Call} (allowed : permitted world call)
    (tables : after.tables = world.tables) (unwritten : Unwritten service.repo room world.store after.store) :
    Moves service permitted world after := by
  rcases unwritten with same | fades
  · exact .single (.quiet tables same)
  · exact .single (.fades allowed tables fades)

theorem world_eq (tables : after.tables = world.tables) (store : after.store = world.store) :
    after = world := by
  cases after
  cases world
  cases tables
  cases store
  rfl

theorem get_ends (kept : Kept service world) :
    Ends service permitted (Method.state (.get room world.store.clock)) world fun result after =>
      (∃ state, result = .ok (some state) ∧ after = world ∧ Holds service.repo room world.store state) ∨
      result = .ok none ∧ Moves service permitted world after ∧ after.tables = world.tables ∧
        after.store.rooms room = none := by
  have does : Does service.repo (service.repo.body (.get room world.store.clock)) world.store _ :=
    get_does (kept.stored room)
  refine (state_ends does).mono ?_
  rintro result after ⟨allowed, tables, ⟨state, found, store, live⟩ | ⟨missing, fades⟩⟩
  · exact .inl ⟨state, found, world_eq tables store, live.toHolds⟩
  · exact .inr ⟨missing, .single (.fades allowed tables fades), tables, fades.puts.dropped⟩

theorem recovered_ends :
    Ends service permitted (service.recovered snapshot degraded) world fun result after => after = world ∧
      result = stateFromSnapshot world.store.clock service.stateLifetime (some snapshot) degraded :=
  clock_step (.ofExcept ⟨rfl, rfl⟩)

/-- A method that gives a state whenever it does not fail, asked for that state. -/
theorem returned_ends
    (ends : Ends service permitted method world fun result after => ∃ outcome,
      result = outcome.map some ∧ post outcome after) : Ends service permitted
    (Method.returned method) world post := by
  apply seq ends
  · rintro _ after ⟨outcome, given, held⟩
    cases outcome <;> cases given
    exact .pure held
  · rintro failure after ⟨outcome, given, held⟩
    cases outcome <;> cases given
    exact held

section

variable (task : Repository.Task) {method : Redis.Method Blob RoomState}
  {post : Except Failure RoomState → Store Blob → Prop}
  (body : service.repo.body task = some <$> method) (does : Does service.repo method world.store post)
include body does

theorem body_does : Does service.repo (service.repo.body task) world.store fun result after =>
    ∃ outcome, result = outcome.map some ∧ post outcome after := by
  rw [body]
  exact .map does fun result after held => ⟨result, rfl, held⟩

theorem projected_ends : Ends service permitted (Method.projected task) world fun result after =>
    permitted world (.state task) ∧ after.tables = world.tables ∧ post result after.store := by
  apply returned_ends
  refine (state_ends (body_does task body does)).mono ?_
  rintro _ after ⟨allowed, tables, outcome, given, held⟩
  exact ⟨outcome, given, allowed, tables, held⟩

end

/-- A repair replaces the state it was made for. -/
theorem repaired_ends (kept : Kept service world) :
    Ends service permitted (Method.repaired updated state) world fun result after =>
      permitted world (.repair updated state) ∧ after.tables = world.tables ∧
          ((∃ failure, result = .error failure) ∧
        Unwritten service.repo updated.room.publicId world.store after.store ∨
          result = .ok updated.sanitized ∧
          Puts service.repo world.store after.store updated.room.publicId (some updated.sanitized)) := by
  apply returned_ends
  apply step
  intro allowed
  have replaces := body_does (.replace updated state.stateRevision state.room.sessionId) rfl
    (replace_does (kept.stored _))
  obtain ⟨outcome, given, held⟩ := replaces.runAlone
  exact .ofExcept ⟨outcome, given, allowed, rfl, held.imp_right fun replaced => ⟨replaced.1, replaced.2.1⟩⟩

theorem updated_inStep (ran : reconcile now stateLifetime state snapshot = .ok (.updated updated)) :
    updated.room.publicId = snapshot.room.publicId ∧ InStep snapshot updated.sanitized := by
  have facts : updated.room = snapshot.room ∧ updated.roundId = snapshot.roundId ∧
    ∀ account ∈ accountsOf updated.slots, account ∈ snapshot.activeAccountIds := by
    rcases reconcile_updated ran with ⟨_, sameRound, retained⟩ | ⟨_, rebuilt, facts, rfl⟩
    · exact ⟨retained.room, retained.round.trans sameRound, fun _ => retained.accounts⟩
    · exact ⟨facts.room, facts.round, fun _ => facts.accounts⟩
  have session := congrArg RoomRecord.sessionId facts.1
  have version := congrArg RoomRecord.version facts.1
  exact ⟨by rw [facts.1], session, version, facts.2.1, facts.2.2⟩

/-- A repair leaves the stored state in step with the tables, or the caller with one
that is rebuilt. -/
theorem reconcileSnapshot_ends
    (kept : Kept service world) (current : Current world.tables snapshot)
    (keyed : snapshot.room.publicId = room) (holds : Holds service.repo room world.store state) :
    Ends service permitted (service.reconcileSnapshot state snapshot) world fun result after =>
      Moves service permitted world after ∧ after.tables = world.tables ∧
        ∀ shown, result = .ok shown → Shown service permitted after room shown := by
  subst keyed
  apply clock_step
  apply given
  · intro reconciled ran
    cases reconciled with
    | current unchanged =>
      obtain ⟨rfl, session, version, round, accounts⟩ := reconcile_current ran
      refine .pure ⟨.refl, rfl, ?_⟩
      rintro shown ⟨⟩
      have same : state.withStatus .live = state := by
        rw [← holds.sanitized]
        rfl
      rw [same]
      exact .projected current rfl holds ⟨session, version, round, accounts⟩
    | updated updated =>
      obtain ⟨target, inStep⟩ := updated_inStep ran
      apply rescue (repaired_ends kept)
      rw [target]
      rintro _ middle ⟨allowed, tables, ⟨⟨failure, rfl⟩, unwritten⟩ | ⟨rfl, puts⟩⟩
      · have moves : Moves service permitted world middle := unwritten_moves allowed tables unwritten
        apply seq recovered_ends
        · rintro rebuilt after ⟨rfl, built⟩
          refine .pure ⟨moves, tables, ?_⟩
          rintro shown ⟨⟩
          refine .recovered (tables ▸ current) rfl built.symm rfl ?_
          rcases unwritten with same | fades
          · exact .inr ⟨world, state, updated, same, tables.symm,
              holds.of_rooms_eq (congrFun same.rooms _), allowed⟩
          · exact .inl fades.puts.dropped
        · rintro failure after ⟨rfl, _⟩
          exact ⟨moves, tables, by simp⟩
      · refine .pure ⟨.single (.repairs allowed tables current holds ran puts), tables, ?_⟩
        rintro shown ⟨⟩
        exact .projected (tables ▸ current) rfl puts.holds inStep
  · exact fun failure _ => ⟨.refl, rfl, by simp⟩

/-- Publishing a snapshot repairs the projection, or creates one. -/
theorem publishSnapshot_ends (kept : Kept service world) (current : Current world.tables snapshot) :
    Ends service permitted (service.publishSnapshot snapshot) world fun result after =>
      Moves service permitted world after ∧ after.tables = world.tables ∧
        ∀ shown, result = .ok shown → Shown service permitted after snapshot.room.publicId shown := by
  apply seq recovered_ends
  · rintro durable middle ⟨rfl, built⟩
    apply clock_step
    apply rescue (get_ends kept)
    rintro _ after (⟨state, rfl, rfl, holds⟩ | ⟨rfl, moves, tables, vacant⟩)
    · exact reconcileSnapshot_ends kept current rfl holds
    have rebuilt := stateFromSnapshot_eq_ok built.symm
    have keyed : durable.room.publicId = snapshot.room.publicId := by rw [rebuilt.room]
    apply rescue (projected_ends (.create durable) rfl create_does)
    rw [keyed]
    rintro _ final ⟨_, tables', ⟨⟨failure, rfl⟩, same⟩ | ⟨bounded, bounds, rfl, puts⟩⟩
    · refine .pure ⟨moves.tail (.quiet tables' same), tables'.trans tables, ?_⟩
      rintro shown ⟨⟩
      refine .recovered ((tables'.trans tables) ▸ current) rfl built.symm rfl (.inl ?_)
      rw [same.rooms, vacant]
    · have current' : Current after.tables snapshot := tables ▸ current
      refine .pure ⟨moves.tail (.creates tables' current' vacant built.symm bounds puts),
        tables'.trans tables, ?_⟩
      rintro shown ⟨⟩
      obtain ⟨room, _, slots, _, round, _⟩ := RoomState.replaced_eq_ok bounds
      have record : bounded.room = publicRoom snapshot.room := by rw [room, rebuilt.room]
      have session := congrArg RoomRecord.sessionId record
      have version := congrArg RoomRecord.version record
      refine .projected ((tables'.trans tables) ▸ current) rfl puts.holds ⟨session, version,
        round.trans rebuilt.round, ?_⟩
      intro account seated
      have seated' : account ∈ accountsOf durable.slots := slots ▸ seated
      exact rebuilt.accounts seated'
  · rintro failure after ⟨rfl, _⟩
    exact ⟨.refl, rfl, by simp⟩

/-- Reading a room gives its projection in step with the tables, or a rebuilt state. -/
theorem requireState_ends (kept : Kept service world) :
    Ends service permitted (service.requireState publicId) world fun result after =>
      Moves service permitted world after ∧ after.tables = world.tables ∧
        ∀ shown, result = .ok shown → Shown service permitted after publicId shown := by
  apply clock_step
  apply rescue (get_ends kept)
  intro found middle got
  have reached : Moves service permitted world middle ∧ middle.tables = world.tables := by
    rcases got with ⟨_, _, rfl, _⟩ | ⟨_, moves, tables, _⟩
    · exact ⟨.refl, rfl⟩
    · exact ⟨moves, tables⟩
  have kept' := reached.1.kept kept
  apply seq snapshot_ends
  · rintro snapshot after ⟨rfl, loads, _⟩
    cases snapshot with
    | none => exact .fail ⟨reached.1, reached.2, by simp⟩
    | some snapshot =>
      obtain ⟨current, keyed⟩ := loads snapshot rfl
      rcases got with ⟨state, rfl, rfl, holds⟩ | ⟨rfl, _⟩
      · exact reconcileSnapshot_ends kept current keyed holds
      · refine (publishSnapshot_ends kept' current).mono ?_
        rintro result final ⟨moves, tables, shows⟩
        exact ⟨reached.1.trans moves, tables.trans reached.2, keyed ▸ shows⟩
  · rintro failure after ⟨rfl, _⟩
    exact ⟨reached.1, reached.2, by simp⟩

/-- What `requireLiveState` gives: the state that is stored, in step with the tables. -/
abbrev ReadsLive (service : MultiplayerService Blob) (permitted reading : World Blob → Call → Prop)
    (publicId : Nat) (world : World Blob) : Prop :=
  Ends service permitted (service.requireLiveState publicId) world fun result after =>
    Moves service reading world after ∧ after.tables = world.tables ∧
      ∀ state, result = .ok state → Holds service.repo publicId after.store state ∧
        ∃ snapshot, Current world.tables snapshot ∧ InStep snapshot state

/-- A live state is the one that is stored. -/
theorem requireLiveState_ends (kept : Kept service world) :
    ReadsLive service permitted permitted publicId world := by
  apply seq (requireState_ends kept)
  · rintro state middle ⟨moves, tables, shows⟩
    split
    · exact .fail ⟨moves, tables, by simp⟩
    next live =>
    refine .pure ⟨moves, tables, ?_⟩
    rintro _ ⟨⟩
    cases shows state rfl with
    | projected current _ holds inStep => exact ⟨holds, _, tables ▸ current, inStep⟩
    | recovered _ _ _ degraded =>
      subst degraded
      exact absurd (by simp [RoomState.withStatus]) live
  · exact fun failure middle read => ⟨read.1, read.2.1, by simp⟩

theorem cachedRoom_ends (kept : Kept service world) :
    Ends service permitted (Method.cachedRoomForAccount account) world fun result after =>
      Moves service permitted world after ∧ after.tables = world.tables ∧
        ∀ state, result = .ok (some state) → Holds service.repo state.room.publicId after.store state := by
  apply clock_step
  have does : Does service.repo (service.repo.body (.findForAccount account world.store.clock))
    world.store _ :=
    findForAccount_does kept.stored
  apply rescue (state_ends does)
  rintro result middle ⟨allowed, tables, ⟨room, state, rfl, same, live⟩ | ⟨missing, room, unwritten⟩⟩
  · refine .pure ⟨.single (.quiet tables (same ▸ .refl _)), tables, ?_⟩
    rintro other ⟨⟩
    rw [same, live.keyed]
    exact live.toHolds
  · have moves : Moves service permitted world middle := unwritten_moves allowed tables unwritten
    cases result with
    | error failure => exact .pure ⟨moves, tables, by simp⟩
    | ok found =>
      cases found with
      | none => exact .pure ⟨moves, tables, by simp⟩
      | some state => exact absurd rfl (missing state)

/-- A method whose calls are all permitted moves the world step by step. -/
abbrev Serves (service : MultiplayerService Blob) (permitted : World Blob → Call → Prop)
    (method : Method Value) (world : World Blob) : Prop :=
  Ends service permitted method world fun _ after => Moves service permitted world after

theorem Moves.serve (moves : Moves service permitted world middle)
    (serves : Serves service permitted method middle) :
    Ends service permitted method middle fun _ after => Moves service permitted world after :=
  serves.mono fun _ _ later => moves.trans later

theorem publish_serves (kept : Kept service world) (current : Current world.tables snapshot) :
    Serves service permitted (do
      let state ← service.publishSnapshot snapshot
      return some state) world := by
  exact .map (publishSnapshot_ends kept current) fun _ _ published => published.1

theorem publishCommitted_serves (kept : Kept service world)
    (loads : loaded world.tables (.ok committed.room) = .ok committed.snapshot) :
    Serves service permitted (service.publishCommitted committed) world := by
  unfold MultiplayerService.publishCommitted
  cases published : committed.snapshot with
  | none => exact .pure .refl
  | some snapshot =>
    rw [published] at loads
    obtain ⟨room, _, built⟩ := loaded_eq_ok loads
    exact publish_serves kept ⟨room, built⟩

/-- Commit, and go on from what has been committed. -/
theorem commit_serves (kept : Kept service world) (sends : Sends service permitted world command)
    (continues : ∀ committed after, after.store = world.store →
      commit world.tables service.policies moment command = .ok (committed, after.tables) →
      Move service permitted world after → Kept service after →
      Serves service permitted (next committed) after) :
    Serves service permitted (Method.commit moment command >>= next) world := by
  apply seq commit_ends
  · rintro committed after ⟨allowed, store, ⟨⟨_, ⟨⟩⟩, _⟩ | ⟨_, ⟨⟩, ran⟩⟩
    have move : Move service permitted world after := .commits allowed sends ran store
    exact Moves.serve (.single move) (continues committed after store ran move (move.kept kept))
  · rintro failure after ⟨_, _, ⟨_, rfl⟩ | ⟨_, ⟨⟩, _⟩⟩
    exact .refl

theorem createRoom_serves (kept : Kept service world) : Serves service permitted
    (service.createRoom origin settings capacity publicIdLimit password generated) world := by
  unfold MultiplayerService.createRoom
  split
  · next normalized =>
    apply commit_serves kept
    · exact ⟨_, normalized⟩
    · intro committed after _ ran _ kept
      exact publishCommitted_serves kept (commit_eq_ok ran).2.1
  · apply seq replay_ends
    · rintro found after ⟨rfl, loads, _⟩
      cases found with
      | none => exact .fail .refl
      | some snapshot => exact publish_serves kept (loads snapshot rfl).1
    · rintro failure after ⟨rfl, _⟩
      exact .refl

theorem brought_moves (kept : Kept service world) (allowed : permitted world (.state task))
    (edits : task.mutation = some mutation) (target : task.target = some room)
    (brings : mutation.record = some record) (standing : Standing world.tables record)
    (keyed : record.publicId = room) (tables : after.tables = world.tables)
    (holds : Holds service.repo room world.store state) (asked : Asked service state mutation)
    (built : mutation.apply service.repo.ttl now state = .ok updated)
    (puts : Puts service.repo world.store after.store room (some updated.sanitized)) :
    Moves service permitted world after := by
  refine .single (.edits allowed edits target ?_ tables holds asked built puts)
  intro other brings'
  rw [brings] at brings'
  cases brings'
  exact keyed ▸ standing.found kept.sound

theorem loaded_standing {snapshot : Option DurableRoomSnapshot}
    (loads : loaded tables (.ok (some made)) = .ok snapshot) :
    ∃ shown, snapshot = some shown ∧ Current tables shown ∧ shown.room.publicId = made.publicId := by
  cases snapshot with
  | none => cases loaded_eq_none loads
  | some shown =>
    obtain ⟨_, ⟨⟩, built⟩ := loaded_eq_ok loads
    exact ⟨shown, rfl, ⟨made, built⟩, (standing_of_getRoom (loadSnapshot_eq_ok built).1).2⟩

section

variable (kept : Kept service world)
include kept

/-- The projection after a join: one more seat, or whatever publishing makes of it. -/
theorem joined_serves (standing : Standing world.tables made)
    (current : Current world.tables snapshot)
    (loads : loaded world.tables (.ok committed.room) = .ok committed.snapshot) :
    Serves service permitted (do
      match ← (Method.state (.get made.publicId world.store.clock)).attempt with
      | .ok (some projected) =>
        if (projected.slotFor account).isSome then service.publishCommitted committed
        else
          match ← (Method.projected (.join made account expiresAt)).attempt with
          | .ok joined => return some joined
          | .error _ => do
            let state ← service.publishSnapshot snapshot
            return some state
      | _ => do
        let state ← service.publishSnapshot snapshot
        return some state) world := by
  apply rescue (get_ends kept)
  rintro _ middle (⟨state, rfl, rfl, holds⟩ | ⟨rfl, moves, tables, _⟩)
  · dsimp only
    split
    · exact publishCommitted_serves kept loads
    have keyed : ∀ record, (Mutation.join made account expiresAt).record = some record →
      record.publicId = made.publicId := by
      rintro record ⟨⟩
      rfl
    apply rescue (projected_ends (.join made account expiresAt) rfl (mutate_does (kept.stored _) keyed _))
    rintro _ after ⟨allowed, tables, ⟨⟨failure, rfl⟩, unwritten⟩ | ⟨state, updated, live, built, rfl, puts⟩⟩
    · have moves : Moves service permitted middle after := unwritten_moves allowed tables unwritten
      exact moves.serve (publish_serves (moves.kept kept) (tables ▸ current))
    · exact .pure (brought_moves kept allowed rfl rfl rfl standing rfl tables live.toHolds trivial built puts)
  · exact moves.serve (publish_serves (moves.kept kept) (tables ▸ current))

theorem joinRoom_serves :
    Serves service permitted (service.joinRoom origin publicId password presenceId) world := by
  apply clock_step
  apply seq (cachedRoom_ends kept)
  · rintro current middle ⟨moves, tables, cached⟩
    have clock := moves.clock
    split
    · exact .fail moves
    next here =>
    apply moves.serve
    apply commit_serves (moves.kept kept)
    · trivial
    intro committed after store ran _ kept
    obtain ⟨transacted, loads, _⟩ := commit_eq_ok ran
    obtain ⟨made, answered, standing, keyed⟩ := joinTransaction_standing transacted
    have loads' := loads
    rw [answered] at loads'
    obtain ⟨snapshot, published, loadedNow, same⟩ := loaded_standing loads'
    rw [answered, published]
    cases seated : current.filter (·.slotFor origin.accountId |>.isSome) with
    | some state =>
      obtain rfl : current = some state := (Option.filter_eq_some_iff.mp seated).1
      have public_ : state.room.publicId = publicId := by simpa using here
      have holds : Holds service.repo publicId after.store state := public_ ▸ store ▸ cached state rfl
      exact .map (reconcileSnapshot_ends kept loadedNow (same.trans keyed) holds)
        fun _ _ reconciled => reconciled.1
    | none =>
      rw [← clock, ← store]
      exact joined_serves kept standing loadedNow loads
  · exact fun _ _ read => read.1

/-- The projection after a leave: the room is dropped, edited, or left as it is. -/
theorem projectLeave_serves (remains : Remains world.tables room committed.room) :
    Serves service permitted (service.projectLeave room account committed) world := by
  have keyed : ∀ record, committed.room = some record → record.publicId = room := by
    intro record answered
    rw [answered] at remains
    exact remains.2
  have does : Does service.repo (service.repo.body (.leave room account committed.room)) world.store _ :=
    leaveRoom_does (kept.stored room) keyed
  apply rescue (state_ends does)
  rintro result middle ⟨allowed, tables, outcome⟩
  have moves : Moves service permitted world middle := by
    rcases outcome with unwritten | ⟨closed, puts⟩ | ⟨record, state, updated, answered, live, built, _, puts⟩
    · exact unwritten_moves allowed tables unwritten
    · rw [closed] at remains
      exact .single (.drops tables remains puts)
    · have edits : (Repository.Task.leave room account committed.room).mutation =
        some (.leave account record) := by
        rw [answered]
        rfl
      rw [answered] at remains
      exact brought_moves kept allowed edits rfl rfl remains.1 remains.2 tables live.toHolds trivial
        built puts
  cases result with
  | ok state => exact .pure moves
  | error failure =>
    dsimp only
    split
    · exact .pure moves
    · exact .map recovered_ends fun _ _ recovered => recovered.1 ▸ moves

theorem leaveRoom_serves : Serves service permitted (service.leaveRoom origin publicId) world := by
  apply commit_serves kept
  · trivial
  intro committed after _ ran _ kept
  obtain ⟨transacted, loads, replayed, locked, _⟩ := commit_eq_ok ran
  rw [locked, replayed]
  cases located : lockedFor world.tables (.leave (service.commandId origin.accountId origin) origin.accountId
    origin.authSessionId publicId) with
  | none => exact .pure .refl
  | some room =>
    dsimp only
    split
    · exact publishCommitted_serves kept loads
    next fresh =>
    apply projectLeave_serves kept
    apply leaveTransaction_remains _ (eq_ok_of_join located) transacted
    obtain ⟨_, _, answer, looked, _⟩ := of_bind_bind_eq_ok transacted
    cases answer with
    | none => exact looked
    | some other => exact absurd (by simp [answeredBefore, looked, Except.toOption]) fresh

theorem cleanupPresence_serves :
    Serves service permitted (service.cleanupPresence origin account connection reason) world := by
  apply commit_serves kept
  · trivial
  intro committed after _ ran _ kept
  obtain ⟨transacted, _, _, locked, _⟩ := commit_eq_ok ran
  rw [locked]
  cases located : lockedFor world.tables
    (.cleanup (service.commandId account origin) account connection reason) with
  | none => exact .pure .refl
  | some room =>
    apply projectLeave_serves kept
    exact cleanupTransaction_remains (eq_ok_of_join located) transacted

/-- The commands of a host and the end of a round: what is left to show is the
projection of each. -/
theorem mutateRoom_serves {check : RoomState → Except Failure Checked}
    (projects : ∀ before state checked committed after, Kept service before →
      Shown service permitted before publicId state → check state = .ok checked →
      before.tables.findCommandRoom (service.commandId origin.accountId origin) = .ok none →
      permitted before (.commit origin.moment (command checked)) → after.store = before.store →
      commit before.tables service.policies origin.moment (command checked) = .ok (committed, after.tables) →
      Ends service permitted (project state checked committed) after fun _ final =>
        Moves service permitted before final) :
    Serves service permitted (service.mutateRoom origin permissions publicId check command project)
      world := by
  apply seq replay_ends
  · rintro found middle ⟨rfl, loads, unanswered⟩
    cases found with
    | some snapshot => exact publish_serves kept (loads snapshot rfl).1
    | none =>
      apply seq (requireState_ends kept)
      · rintro state before ⟨moves, tables, shows⟩
        apply given
        · intro checked passed
          have shown := shows state rfl
          have unanswered : before.tables.findCommandRoom
            (service.commandId origin.accountId origin) = .ok none := by
            rw [tables]
            exact unanswered rfl
          apply seq commit_ends
          · rintro committed after ⟨allowed, store, ⟨⟨_, ⟨⟩⟩, _⟩ | ⟨_, ⟨⟩, ran⟩⟩
            refine (projects before state checked committed after (moves.kept kept) shown passed
              unanswered allowed store
              ran).mono ?_
            exact fun _ _ later => moves.trans later
          · rintro failure after ⟨_, _, ⟨_, rfl⟩ | ⟨_, ⟨⟩, _⟩⟩
            exact moves
        · exact fun _ _ => moves
      · exact fun _ _ read => read.1
  · rintro failure middle ⟨rfl, _⟩
    exact .refl

end

/-- Putting the next state in the place of the one that was read. -/
theorem projectReplacement_serves (kept : Kept service before)
    (shown : Shown service permitted before room state) (allowed : permitted before (.commit moment command))
    (sends : Sends service permitted before command) (store : world.store = before.store)
    (ran : commit before.tables service.policies moment command = .ok (committed, world.tables))
    (hosted : command.hosted = some (room, commandId))
    (unanswered : before.tables.findCommandRoom commandId = .ok none)
    (transit : ∀ record updated, next record = .ok updated →
      Transit service state record committed.roundId command updated) :
    Ends service permitted (Method.projectReplacement state committed next) world fun _ final =>
      Moves service permitted before final := by
  have move : Move service permitted before world := .commits allowed sends ran store
  have kept' := move.kept kept
  obtain ⟨record, answered, serves⟩ := transact_serves hosted unanswered (commit_eq_ok ran).1
  unfold Method.projectReplacement
  rw [answered]
  apply given
  · intro updated built
    have transits := transit record updated built
    have keyed : updated.room.publicId = room := by rw [transits.room, serves.standing.2]
    have stores : Ends service permitted (Method.replaceAfterCommit updated state) world fun _ final =>
        Moves service permitted before final := by
      apply rescue (projected_ends (.replace updated state.stateRevision state.room.sessionId) rfl
        (replace_does (kept'.stored _)))
      rw [keyed]
      rintro _ final ⟨allowed', tables,
        ⟨⟨failure, rfl⟩, unwritten⟩ | ⟨rfl, puts, current, live, revision, session⟩⟩
      · exact .pure ((Relation.ReflTransGen.single move).trans (unwritten_moves allowed' tables unwritten))
      · rw [store] at live puts
        rw [← tables] at ran
        exact .pure (.single (.replaces allowed sends ran hosted unanswered answered shown
          live.toHolds revision
          session transits puts))
    exact .map stores fun _ _ moved => moved
  · exact fun _ _ => .single move

section

variable (kept : Kept service world)
include kept

theorem kickParticipant_serves :
    Serves service permitted (service.kickParticipant origin publicId expectedVersion target) world := by
  apply mutateRoom_serves kept
  intro before state checked committed after kept _ _ unanswered allowed store ran
  have move : Move service permitted before after := .commits allowed trivial ran store
  obtain ⟨record, answered, serves⟩ := transact_serves rfl unanswered (commit_eq_ok ran).1
  have remains : Remains after.tables publicId committed.room := by
    rw [answered]
    exact serves.standing
  apply seq (Moves.serve (.single move) (projectLeave_serves (move.kept kept) remains))
  · intro left final moves
    cases left with
    | some state => exact .pure moves
    | none =>
      dsimp only
      split
      · exact .pure moves
      · exact .map recovered_ends fun _ _ recovered => recovered.1 ▸ moves
  · exact fun _ _ moves => moves

theorem updateSettings_serves :
    Serves service permitted (service.updateSettings origin publicId expectedVersion settings) world := by
  apply clock_step
  apply mutateRoom_serves kept
  intro before state checked committed after kept shown passed unanswered allowed store ran
  have sends : Sends service permitted before (.updateSettings (service.commandId origin.accountId origin)
    origin.accountId publicId expectedVersion checked.1) := ⟨state, settings, checked.2, shown, passed⟩
  exact projectReplacement_serves kept shown allowed sends store ran rfl unanswered fun _ _ =>
    .settings passed

theorem changeHost_serves :
    Serves service permitted (service.changeHost origin publicId expectedVersion target) world := by
  apply mutateRoom_serves kept
  intro before state checked committed after kept shown passed unanswered allowed store ran
  exact projectReplacement_serves kept shown allowed trivial store ran rfl unanswered fun _ _ => .host

theorem changePassword_serves :
    Serves service permitted (service.changePassword origin publicId expectedVersion password) world := by
  apply mutateRoom_serves kept
  intro before state checked committed after kept shown passed unanswered allowed store ran
  exact projectReplacement_serves kept shown allowed trivial store ran rfl unanswered fun _ _ => .password

theorem startRound_serves :
    Serves service permitted (service.startRound origin publicId expectedVersion roundId) world := by
  apply mutateRoom_serves kept
  intro before state participants committed after kept shown passed unanswered allowed store ran
  have selected : state.inProgress = false ∧ selections state = .ok participants ∧ participants ≠ [] := by
    split at passed
    · cases passed
    next idle =>
    obtain ⟨chosen, selected, passed⟩ := of_bind_eq_ok passed
    split at passed
    · cases passed
    next some =>
    cases passed
    exact ⟨Bool.eq_false_iff.mpr idle, selected, by simpa using some⟩
  have sends : Sends service permitted before
    (.startRound (service.commandId origin.accountId origin) origin.accountId
      publicId expectedVersion roundId participants) := ⟨state, shown, selected.2⟩
  exact projectReplacement_serves kept shown allowed sends store ran rfl unanswered fun _ _ =>
    .started selected.1 selected.2.1

theorem completeRound_serves :
    Serves service permitted (service.completeRound origin publicId expectedVersion aborted) world := by
  apply mutateRoom_serves kept
  intro before state roundId committed after kept shown passed unanswered allowed store ran
  have same : roundId = state.roundId := by
    iterate 3
      split at passed
      · cases passed
    cases passed
    rfl
  subst same
  exact projectReplacement_serves kept shown allowed trivial store ran rfl unanswered fun _ _ => .completed

theorem findRoomForAccount_serves : Serves service permitted (service.findRoomForAccount account) world := by
  apply seq (cachedRoom_ends kept)
  · rintro cached middle ⟨moves, tables, held⟩
    have kept' := moves.kept kept
    apply moves.serve
    cases cached with
    | some state =>
      have holds := held state rfl
      apply seq snapshot_ends
      · rintro found after ⟨rfl, loads, missing⟩
        cases found with
        | some snapshot =>
          obtain ⟨current, keyed⟩ := loads snapshot rfl
          exact .map (reconcileSnapshot_ends kept' current keyed holds) fun _ _ reconciled => reconciled.1
        | none =>
          have does : Does service.repo
            (service.repo.body (.remove state.room.publicId state.stateRevision
              state.room.sessionId)) after.store
            fun _ final => Puts service.repo after.store final state.room.publicId none := by
            exact .map (remove_held_does holds) fun _ _ removed => removed.2
          apply rescue (state_ends does)
          rintro result final ⟨_, tables, puts⟩
          exact .pure (.single (.drops tables (missing rfl) puts))
      · rintro failure after ⟨rfl, _⟩
        exact .refl
    | none =>
      apply seq accountSnapshot_ends
      · rintro found after ⟨rfl, loads⟩
        cases found with
        | some snapshot =>
          exact .map (publishSnapshot_ends kept' (loads snapshot rfl)) fun _ _ published => published.1
        | none => exact .pure .refl
      · rintro failure after ⟨rfl, _⟩
        exact .refl
  · exact fun _ _ read => read.1

end

/-- How an update of a slot ends: it is refused on the way or by the repository, or it
edits the state that it has read. -/
inductive SlotOutcome (service : MultiplayerService Blob) (permitted reading : World Blob → Call →
    Prop) (publicId : Nat) (check : RoomState → Except Failure Mutation) (world : World Blob) :
    Except Failure (Option RoomState) → World Blob → Prop where
  | refused {failure : Failure} {after : World Blob} (moves : Moves service reading world after) :
      SlotOutcome service permitted reading publicId check world (.error failure) after
  | failed {failure : Failure} {middle after : World Blob} {call : Call}
      (moves : Moves service reading world middle) (allowed : permitted middle call)
      (tables : after.tables = middle.tables)
      (unwritten : Unwritten service.repo publicId middle.store after.store) :
      SlotOutcome service permitted reading publicId check world (.error failure) after
  | done {middle after : World Blob} {snapshot : DurableRoomSnapshot} {state updated : RoomState}
      {mutation : Mutation} (moves : Moves service reading world middle) (read : middle.tables = world.tables)
      (current : Current world.tables snapshot) (inStep : InStep snapshot state)
      (holds : Holds service.repo publicId middle.store state) (passed : check state = .ok mutation)
      (allowed : permitted middle (.state (.edit publicId mutation))) (tables : after.tables = middle.tables)
      (built : mutation.apply service.repo.ttl middle.store.clock state = .ok updated)
      (puts : Puts service.repo middle.store after.store publicId (some updated.sanitized)) :
      SlotOutcome service permitted reading publicId check world (.ok (some updated.sanitized)) after

theorem editSlot_ends (kept : Kept service world) (reads : ReadsLive service permitted reading publicId world)
    (recordless : ∀ state mutation, check state = .ok mutation → mutation.record = none) :
    Ends service permitted (service.editSlot account permissions publicId check) world
      (SlotOutcome service permitted reading publicId check world) := by
  apply seq access_ends
  · rintro _ _ rfl
    apply seq reads
    · rintro state middle ⟨moves, tables, live⟩
      obtain ⟨holds, snapshot, current, inStep⟩ := live state rfl
      apply given
      · intro mutation passed
        have does : Does service.repo (service.repo.body (.edit publicId mutation)) middle.store
          fun result after =>
              (∃ failure, result = .error failure) ∧ Unwritten service.repo publicId middle.store after ∨
              ∃ current updated, Live service.repo publicId middle.store current ∧
                mutation.apply service.repo.ttl middle.store.clock current = .ok updated ∧
                result = .ok (some updated.sanitized) ∧
                Puts service.repo middle.store after publicId (some updated.sanitized) := by
          apply given
          · intro _ _
            have noRecord := recordless state mutation passed
            apply map (mutate_does ((moves.kept kept).stored publicId) (by simp [noRecord]) _)
            rintro result after (⟨⟨failure, rfl⟩, unwritten⟩ | ⟨current, updated, live, built, rfl, puts⟩)
            · exact .inl ⟨⟨failure, rfl⟩, unwritten⟩
            · exact .inr ⟨current, updated, live, built, rfl, puts⟩
          · exact fun failure _ => .inl ⟨⟨failure, rfl⟩, .inl (.refl _)⟩
        refine (state_ends does).mono ?_
        rintro result after ⟨allowed, same,
          ⟨⟨failure, rfl⟩, unwritten⟩ | ⟨found, updated, live, built, rfl, puts⟩⟩
        · exact .failed moves allowed same unwritten
        · rw [live.toHolds.unique holds] at built
          exact .done moves tables current inStep holds passed allowed same built puts
      · exact fun _ _ => .refused moves
    · exact fun _ _ read => .refused read.1
  · rintro failure _ rfl
    exact .refused .refl

theorem editSlot_serves (kept : Kept service world)
    (checks : ∀ state mutation, check state = .ok mutation → mutation.record = none ∧
      Asked service state mutation) : Serves service permitted
    (service.editSlot account permissions publicId check) world := by
  refine (editSlot_ends kept (requireLiveState_ends kept) fun state mutation passed =>
    (checks state mutation passed).1).mono ?_
  intro result after outcome
  cases outcome with
  | refused moves => exact moves
  | failed moves allowed tables unwritten => exact moves.trans (unwritten_moves allowed tables unwritten)
  | done moves _ _ _ holds passed allowed tables built puts =>
    obtain ⟨recordless, asked⟩ := checks _ _ passed
    exact moves.tail (.edits allowed rfl rfl (by simp [recordless]) tables holds asked built puts)

/-- Every request moves the world step by step. -/
theorem body_serves (request : Request) (kept : Kept service world) :
    Serves service permitted (service.body request) world := by
  cases request with
  | createRoom => exact createRoom_serves kept
  | joinRoom => exact joinRoom_serves kept
  | leaveRoom => exact leaveRoom_serves kept
  | cleanupPresence => exact cleanupPresence_serves kept
  | kickParticipant => exact kickParticipant_serves kept
  | updateSettings => exact updateSettings_serves kept
  | changeHost => exact changeHost_serves kept
  | changePassword => exact changePassword_serves kept
  | startRound => exact startRound_serves kept
  | completeRound => exact completeRound_serves kept
  | getRoom publicId =>
    apply map (requireState_ends kept)
    exact fun _ _ read => read.1
  | findRoomForAccount => exact findRoomForAccount_serves kept
  | moveSlot | setSlotTeam | markLoaded | markSkipped | markFailed =>
    apply editSlot_serves kept
    rintro state mutation ⟨⟩
    exact ⟨rfl, trivial⟩
  | lockSlot =>
    apply editSlot_serves kept
    intro state mutation passed
    split at passed
    · cases passed
    next host =>
    cases passed
    exact ⟨rfl, not_not.mp host⟩
  | setSlotStatus =>
    apply editSlot_serves kept
    intro state mutation passed
    split at passed
    · cases passed
    next plays =>
    cases passed
    exact ⟨rfl, fun progress => not_not.mp fun away => plays ⟨progress, away⟩⟩
  | setSlotMods =>
    apply editSlot_serves kept
    intro state mutation passed
    split at passed
    · cases passed
    next free =>
    split at passed
    · cases passed
    next idle =>
    obtain ⟨normalized, normalizes, passed⟩ := of_bind_eq_ok passed
    split at passed
    · cases passed
    next slow =>
    cases passed
    exact ⟨rfl, by simpa using free, by simpa using idle, by simpa using slow, _, of_mapError_eq_ok normalizes⟩

end Perfcho.Service
