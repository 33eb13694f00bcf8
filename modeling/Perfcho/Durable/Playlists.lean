import Perfcho.Content.Synchronization
import Perfcho.Durable.RoomRuns

/-! The playlist revision of a round. It is found again by a digest of the settings, and
stays with the beatmap revision that it was created for. -/

namespace Perfcho.Durable

open Foundation Scoring Multiplayer Relation

structure PlaylistRevision where
  id : Uuid
  itemId : Uuid
  revisionNumber : Nat
  ownerAccountId : Nat
  beatmapRevisionId : Nat
  rankingPolicyId : Uuid
  configurationDigest : Bytes
  isCurrent : Bool

def playlistRevisionConstraints : List (Constraint PlaylistRevision) :=
  [.unique "pk_playlist_revision" (fun _ => true) (·.id),
    .check "ck_playlist_revision_positive_revision" (fun row => decide (0 < row.revisionNumber)),
    .unique "uq_playlist_revision_item_revision" (fun _ => true) (fun row =>
    (row.itemId, row.revisionNumber)),
    .unique "uq_playlist_revision_item_digest" (fun _ => true) (fun row =>
      (row.itemId, row.configurationDigest)),
    .unique "uq_playlist_revision_current" (·.isCurrent) (·.itemId)]

/-- The items by room (those with client identifier 1), their revisions, and the
revision that every round points to. -/
structure Playlists where
  items : List (Uuid × Uuid)
  revisions : Table playlistRevisionConstraints
  rounds : List (Uuid × Option Uuid)

/-- What a round is created from: the room, the content tables and ranking policies of
that moment, and the identifiers that are drawn. -/
structure RoundStart where
  roomId : Uuid
  hostAccountId : Nat
  settings : RoomSettings
  catalog : Content.Catalog
  rankingPolicy : Ruleset → Option Uuid
  roundId : Uuid
  itemId : Uuid
  revisionId : Uuid

/-- The current beatmap revision that the settings select. -/
def RoundStart.beatmapRevision (start : RoundStart) : Option Content.Revision :=
  if 0 < start.settings.externalBeatmapId then
    start.catalog.revisions.rows.find? fun row =>
      row.isCurrent && start.settings.beatmapMd5.all (fun md5 => decide (row.md5 = md5)) &&
        start.catalog.beatmaps.rows.any fun beatmap =>
          decide (beatmap.id = row.beatmapId ∧ beatmap.externalId = start.settings.externalBeatmapId)
  else none

namespace Playlists

variable (digest : RoomSettings → Bytes) (playlists : Playlists) (start : RoundStart)

def item : Uuid := (playlists.items.lookup start.roomId).getD start.itemId

/-- The revision that the digest of the settings finds. -/
def stored : Option PlaylistRevision :=
  playlists.revisions.rows.find? fun row =>
    decide (row.itemId = playlists.item start ∧ row.configurationDigest = digest start.settings)

/-- The revision that the round points to: the one found, or a new one. It takes a beatmap
revision and a ranking policy. -/
def chosen : Option PlaylistRevision :=
  match start.beatmapRevision, start.rankingPolicy start.settings.ruleset with
  | some revision, some policy =>
    let numbers := (playlists.revisions.rows.filter (·.itemId = playlists.item start)).map (·.revisionNumber)
    some ((playlists.stored digest start).getD {
      id := start.revisionId, itemId := playlists.item start, revisionNumber := highest numbers + 1,
      ownerAccountId := start.hostAccountId, beatmapRevisionId := revision.id,
      rankingPolicyId := policy, configurationDigest := digest start.settings, isCurrent := true })
  | _, _ => none

/-- The rows in which the chosen revision is the current one of its item. -/
def rowsAfter : List PlaylistRevision :=
  match playlists.chosen digest start with
  | none => playlists.revisions.rows
  | some row =>
    playlists.revisions.rows.map (fun other =>
      if other.itemId = row.itemId then { other with isCurrent := decide (other.id = row.id) } else
        other) ++ if (playlists.stored digest start).isSome then [] else [row]

/-- `_create_round`, as far as the playlist goes. -/
def createRound : Except Failure Playlists := do
  let revisions ← mapped (Table.write playlistRevisionConstraints (playlists.rowsAfter digest start))
  if start.roundId ∈ playlists.rounds.map Prod.fst then .error (mapIntegrityError "pk_round")
  else
    let items := if (playlists.items.lookup start.roomId).isSome then [] else [(start.roomId, start.itemId)]
    return ⟨playlists.items ++ items, revisions,
      playlists.rounds ++ [(start.roundId, (playlists.chosen digest start).map (·.id))]⟩

/-- If the round points to a playlist revision, then to one of the beatmap revision that was
selected when it started; a submitted score is compared with that revision. -/
def Refers : Prop :=
  ∀ key, (start.roundId, some key) ∈ playlists.rounds →
    ∃ row ∈ playlists.revisions.rows, row.id = key ∧
    start.beatmapRevision.map (·.id) = some row.beatmapRevisionId

/-- A revision that is found again is of the beatmap revision that is selected now. -/
def UpToDate : Prop :=
  ∀ revision found, start.beatmapRevision = some revision →
    (start.rankingPolicy start.settings.ruleset).isSome →
    playlists.stored digest start = some found → found.beatmapRevisionId = revision.id

variable {digest playlists start} {after : Playlists}

/-- Every row keeps its identifier and its beatmap revision. -/
theorem keeps_rowsAfter (digest : RoomSettings → Bytes) (start : RoundStart)
    (member : row ∈ playlists.revisions.rows) :
    ∃ kept ∈ playlists.rowsAfter digest start, kept.id = row.id ∧
    kept.beatmapRevisionId = row.beatmapRevisionId := by
  unfold rowsAfter
  split
  · exact ⟨row, member, rfl, rfl⟩
  · refine ⟨_, List.mem_append_left _ (List.mem_map_of_mem member), ?_⟩
    split <;> exact ⟨rfl, rfl⟩

theorem mem_rowsAfter (chose : playlists.chosen digest start = some row) :
    ∃ kept ∈ playlists.rowsAfter digest start, kept.id = row.id ∧
    kept.beatmapRevisionId = row.beatmapRevisionId := by
  cases located : playlists.stored digest start with
  | none =>
    unfold rowsAfter
    rw [chose, located]
    exact ⟨row, List.mem_append_right _ (List.mem_singleton_self row), rfl, rfl⟩
  | some found =>
    obtain rfl : found = row := by
      unfold chosen at chose
      split at chose
      · rw [located] at chose
        exact Option.some.inj chose
      · cases chose
    exact keeps_rowsAfter digest start (List.mem_of_find?_eq_some located)

/-- What is chosen is of the selected revision, unless a row of another was found. -/
theorem chosen_iff (chose : playlists.chosen digest start = some row) :
    start.beatmapRevision.map (·.id) = some row.beatmapRevisionId ↔ playlists.UpToDate digest start := by
  unfold chosen at chose
  unfold UpToDate
  split at chose
  · rename_i revision policy selected ranked
    cases located : playlists.stored digest start with
    | none =>
      rw [located] at chose
      cases chose
      simp [selected]
    | some found =>
      rw [located] at chose
      cases chose
      simp [selected, ranked, eq_comm]
  · cases chose

/-- A round was started, pointing to this playlist revision, which is of this beatmap
revision, or to none. -/
structure Points (playlists : Playlists) (roundId : Uuid) (pointed : Option (Uuid × Nat)) : Prop where
  started : roundId ∈ playlists.rounds.map Prod.fst
  only : ∀ key, (roundId, some key) ∈ playlists.rounds ↔ pointed.map Prod.fst = some key
  held : ∀ target ∈ pointed, ∃ row ∈ playlists.revisions.rows, row.id = target.1 ∧
    row.beatmapRevisionId = target.2

theorem createRound_eq_ok (ran : playlists.createRound digest start = .ok after) :
    start.roundId ∉ playlists.rounds.map Prod.fst ∧ after.revisions.rows = playlists.rowsAfter digest start ∧
      after.rounds = playlists.rounds ++ [(start.roundId, (playlists.chosen digest start).map (·.id))] := by
  obtain ⟨revisions, wrote, ran⟩ := of_bind_eq_ok ran
  split at ran
  · cases ran
  · next fresh =>
    cases ran
    exact ⟨fresh, Table.write_eq_ok (of_mapError_eq_ok wrote), rfl⟩

theorem createRound_points (ran : playlists.createRound digest start = .ok after) :
    after.Points start.roundId
    ((playlists.chosen digest start).map fun row => (row.id, row.beatmapRevisionId)) := by
  obtain ⟨fresh, revisions, rounds⟩ := createRound_eq_ok ran
  constructor
  · simp [rounds]
  · intro key
    have absent : (start.roundId, some key) ∉ playlists.rounds :=
      fun member => fresh (List.mem_map_of_mem member)
    simp [rounds, absent, eq_comm]
  · intro target pointed
    obtain ⟨row, chose, rfl⟩ := Option.mem_map.mp pointed
    rw [revisions]
    exact mem_rowsAfter chose

/-- What a round points to stays when another one starts. -/
theorem Points.later (points : playlists.Points roundId pointed)
    (ran : playlists.createRound digest start = .ok after) : after.Points roundId pointed := by
  obtain ⟨fresh, revisions, rounds⟩ := createRound_eq_ok ran
  have other : roundId ≠ start.roundId := fun same => fresh (same ▸ points.started)
  constructor
  · rw [rounds, List.map_append]
    exact List.mem_append_left _ points.started
  · intro key
    rw [rounds, ← points.only key]
    simp [other]
  · intro target named
    obtain ⟨row, member, key, beatmap⟩ := points.held target named
    obtain ⟨kept, stays, same⟩ := keeps_rowsAfter digest start member
    exact ⟨kept, revisions ▸ stays, same.1.trans key, same.2.trans beatmap⟩

theorem Points.run (points : playlists.Points roundId pointed)
    (run : ReflTransGen (fun before next => ∃ start,
      before.createRound digest start = .ok next) playlists after) :
    after.Points roundId pointed := by
  induction run with
  | refl => exact points
  | tail _ started ih => exact ih.later started.choose_spec

theorem Points.refers_iff (points : playlists.Points start.roundId pointed) :
    playlists.Refers start ↔ ∀ target ∈ pointed, start.beatmapRevision.map (·.id) = some target.2 := by
  constructor
  · intro refers target named
    obtain ⟨row, member, key, beatmap⟩ := points.held target named
    obtain ⟨other, listed, same, selected⟩ := refers target.1 ((points.only _).mpr (named ▸ rfl))
    rw [selected, playlists.revisions.eq_of_unique List.mem_cons_self listed rfl member rfl
      (same.trans key.symm), beatmap]
  · intro selected key named
    obtain ⟨target, same, rfl⟩ := Option.map_eq_some_iff.mp ((points.only key).mp named)
    obtain ⟨row, member, key, beatmap⟩ := points.held target same
    exact ⟨row, member, key, beatmap ▸ selected target same⟩

/-- However many rounds are started after it, a round refers to the beatmap revision that
was selected at its start exactly if the digest of the settings did not find a playlist
revision of another one. -/
theorem round_refers_iff (digest : RoomSettings → Bytes)
    (ran : playlists.createRound digest start = .ok after)
    (run : ReflTransGen (fun before next => ∃ start,
      before.createRound digest start = .ok next) after final) :
    final.Refers start ↔ playlists.UpToDate digest start := by
  rw [((createRound_points ran).run run).refers_iff]
  cases chose : playlists.chosen digest start with
  | none =>
    refine iff_of_true nofun fun revision found selected ranked => ?_
    unfold chosen at chose
    cases policy : start.rankingPolicy start.settings.ruleset with
    | none => simp [policy] at ranked
    | some policy => simp [selected, policy] at chose
  | some row =>
    rw [← chosen_iff chose]
    simp

/-- The playlists have the rounds of the tables, and still have them after both parts of
`_create_round`. -/
theorem createRound_matched {tables later : Tables}
    (matched : playlists.rounds.map Prod.fst = tables.rounds.rows.map (·.id))
    (ran : Durable.createRound tables moment room session start.roundId participants = .ok later)
    (chose : playlists.createRound digest start = .ok after) :
    after.rounds.map Prod.fst = later.rounds.rows.map (·.id) := by
  obtain ⟨_, _, ran⟩ := of_bind_eq_ok ran
  obtain ⟨rounds, inserted, ran⟩ := of_bind_eq_ok ran
  obtain ⟨_, _, ran⟩ := of_bind_eq_ok ran
  cases ran
  simp [(createRound_eq_ok chose).2.2, matched, Table.insert_eq_ok (of_mapError_eq_ok inserted)]

end Playlists

section

open Content

/-- A beatmap with some revisions. -/
def revisedCatalog (revisions : List Revision) : Catalog := { sampleDesk.catalog with
  beatmaps := (Table.write beatmapConstraints [⟨1, 1, 1, 7, .osu, "Normal", none⟩]).toOption.getD
    sampleDesk.catalog.beatmaps
  revisions := (Table.write revisionConstraints revisions).toOption.getD sampleDesk.catalog.revisions }

def sampleRevision (number : Nat) (isCurrent : Bool) : Revision :=
  ⟨number, 1, none, (sampleContent number).take 16, sampleContent number, sampleMapFacts, 1, isCurrent⟩

def playlistStart (catalog : Catalog) (number : UInt8) : RoundStart :=
  ⟨sampleKey 1, 1, sampleSettings, catalog, fun _ => some (sampleKey 2), sampleKey number,
    sampleKey 3, sampleKey number⟩

def firstStart : RoundStart := playlistStart (revisedCatalog [sampleRevision 1 true]) 4

/-- The beatmap has a new revision; the settings have no checksum and are the same. -/
def secondStart : RoundStart :=
  playlistStart (revisedCatalog [sampleRevision 1 false, sampleRevision 2 true]) 5

def sampleDigest (settings : RoomSettings) : Bytes := [settings.externalBeatmapId.toNat.toUInt8]

def emptyPlaylists : Playlists := ⟨[], ⟨[], by decide⟩, []⟩

def playedPlaylists : Playlists :=
  (emptyPlaylists.createRound sampleDigest firstStart).toOption.getD emptyPlaylists

/-- The second round points to the revision of the first, which is not of the beatmap
revision that is current. -/
theorem second_round_stale : ∃ after, playedPlaylists.createRound sampleDigest secondStart =
    .ok after ∧ secondStart.beatmapRevision.map (·.id) = some 2 ∧ ¬ after.Refers secondStart := by
  have selected : secondStart.beatmapRevision.map (·.id) = some 2 := by decide
  obtain ⟨after, ran, outcome⟩ : ∃ after, playedPlaylists.createRound sampleDigest secondStart =
    .ok after ∧ decide ((secondStart.roundId, some (sampleKey 4)) ∈ after.rounds ∧
      ∀ row ∈ after.revisions.rows, row.beatmapRevisionId = 1) = true := exists_of_any (by decide)
  obtain ⟨points, first⟩ := of_decide_eq_true outcome
  refine ⟨after, ran, selected, fun refers => ?_⟩
  obtain ⟨row, member, _, same⟩ := refers _ points
  rw [selected, first row member] at same
  cases same

/-- The same beatmap revision is played again. -/
def againStart : RoundStart := playlistStart (revisedCatalog [sampleRevision 1 true]) 5

/-- The second round finds the playlist revision of the first, and refers to it. -/
theorem repeated_round_refers : ∃ after, playedPlaylists.createRound sampleDigest againStart =
    .ok after ∧ after.revisions.rows.length = 1 ∧ after.Refers againStart := by
  obtain ⟨after, ran, single⟩ : ∃ after, playedPlaylists.createRound sampleDigest againStart =
    .ok after ∧ decide (after.revisions.rows.length = 1) = true := exists_of_any (by decide)
  refine ⟨after, ran, of_decide_eq_true single, (Playlists.round_refers_iff sampleDigest ran .refl).mpr ?_⟩
  have current : againStart.beatmapRevision.map (·.id) = some 1 := by decide
  have found : (playedPlaylists.stored sampleDigest againStart).map (·.beatmapRevisionId) =
    some 1 := by decide
  intro revision row selected _ located
  rw [selected] at current
  rw [located] at found
  exact Option.some.inj (found.trans current.symm)

end

end Perfcho.Durable
