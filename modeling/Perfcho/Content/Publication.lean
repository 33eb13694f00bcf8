import Perfcho.Content.Catalog

/-! What publications and transitions do to the rows of sets, beatmaps and revisions. -/

namespace Perfcho.Content

open Foundation Catalog Table List

section

variable {catalog : Catalog} {set : Beatmapset} {beatmap row : Beatmap} {externalId : Int} {beatmapId : Nat}

theorem set_unique (one : set ∈ catalog.sets.rows) (two : other ∈ catalog.sets.rows)
    (same : other.id = set.id) : other = set :=
  catalog.sets.eq_of_unique mem_cons_self two rfl one rfl same

theorem beatmap_unique (one : beatmap ∈ catalog.beatmaps.rows) (two : other ∈ catalog.beatmaps.rows)
    (same : other.id = beatmap.id) : other = beatmap :=
  catalog.beatmaps.eq_of_unique mem_cons_self two rfl one rfl same

theorem current_unique (one : revision ∈ catalog.revisions.rows) (current : revision.isCurrent = true)
    (two : other ∈ catalog.revisions.rows) (current' : other.isCurrent = true)
    (same : other.beatmapId = revision.beatmapId) : other = revision :=
  catalog.revisions.eq_of_unique
    (mem_cons_of_mem _ (mem_cons_of_mem _ (mem_cons_of_mem _ mem_cons_self))) two current' one current same

theorem findSet_eq_some :
    catalog.findSet key = some set ↔ set ∈ catalog.sets.rows ∧ (set.sourceId, set.externalId) = key := by
  unfold findSet
  constructor
  · intro found
    have named := find?_some found
    simp only [decide_eq_true_eq] at named
    exact ⟨mem_of_find?_eq_some found, Prod.ext named.1 named.2⟩
  · rintro ⟨stored, rfl⟩
    cases found : catalog.sets.rows.find? fun row =>
      decide (row.sourceId = set.sourceId ∧ row.externalId = set.externalId) with
    | none => simpa using find?_eq_none.mp found set stored
    | some other =>
      have named := find?_some found
      simp only [decide_eq_true_eq] at named
      rw [catalog.sets.eq_of_unique (mem_cons_of_mem _ mem_cons_self) (mem_of_find?_eq_some found)
        rfl stored rfl
        (Prod.ext named.1 named.2)]

theorem of_getStatusState (found : catalog.getStatusState externalId = some set) :
    set ∈ catalog.sets.rows ∧ set.externalId = externalId := by
  have named := find?_some found
  exact ⟨mem_of_find?_eq_some found, of_decide_eq_true named⟩

theorem currentRevision_eq_some : catalog.currentRevision beatmapId = some revision ↔
    revision ∈ catalog.revisions.rows ∧ revision.beatmapId = beatmapId ∧ revision.isCurrent = true := by
  unfold currentRevision
  constructor
  · intro found
    have named := find?_some found
    simp only [decide_eq_true_eq] at named
    exact ⟨mem_of_find?_eq_some found, named⟩
  · rintro ⟨stored, rfl, current⟩
    cases found : catalog.revisions.rows.find? fun row =>
        decide (row.beatmapId = revision.beatmapId ∧ row.isCurrent = true) with
    | none => simpa [current] using find?_eq_none.mp found revision stored
    | some other =>
      have named := find?_some found
      simp only [decide_eq_true_eq] at named
      rw [current_unique stored current (mem_of_find?_eq_some found) named.2 named.1]

end

section

variable {catalog : Catalog}

/-- What the placement of a file has found. -/
inductive Placed (catalog : Catalog) (beatmap : Beatmap) (file : SyncedFile) : Catalog.Placement → Prop where
  | unchanged {row : Revision} (stored : row ∈ catalog.revisions.rows) (owner : row.beatmapId = beatmap.id)
      (current : row.isCurrent = true) (digest : row.sha256 = file.storedObject.sha256) :
      Placed catalog beatmap file .unchanged
  | restored {row : Revision} {assetId : Uuid} (stored : row ∈ catalog.revisions.rows)
      (owner : row.beatmapId = beatmap.id) (digest : row.sha256 = file.storedObject.sha256)
      (retired : row.isCurrent = false) :
      Placed catalog beatmap file (.restored beatmap.id row.id assetId)
  | created {assetId : Uuid} : Placed catalog beatmap file (.created beatmap.id assetId file)

theorem place_eq_ok (ran : catalog.place sourceId file = .ok placement) :
    ∃ beatmap ∈ catalog.beatmaps.rows, beatmap.sourceId = sourceId ∧ beatmap.externalId =
      file.beatmap.externalBeatmapId ∧ Placed catalog beatmap file placement := by
  unfold place at ran
  split at ran
  · cases ran
  · cases ran
  next beatmap asset found _ =>
  have stored : beatmap ∈ catalog.beatmaps.rows := mem_of_find?_eq_some found
  have named : beatmap.sourceId = sourceId ∧ beatmap.externalId = file.beatmap.externalBeatmapId := by
    simpa [findBeatmap] using find?_some found
  refine ⟨beatmap, stored, named.1, named.2, ?_⟩
  split at ran
  · next same =>
    cases ran
    cases current : catalog.currentRevision beatmap.id with
    | none => simp [current] at same
    | some row =>
      obtain ⟨held, owner, current'⟩ := currentRevision_eq_some.mp current
      exact .unchanged held owner current' (by simpa [current] using same)
  · next different =>
    split at ran
    · next row located =>
      cases ran
      have held := mem_of_find?_eq_some located
      have named := find?_some located
      simp only [decide_eq_true_eq] at named
      obtain ⟨owner, digest⟩ := named
      refine .restored held owner digest (Bool.eq_false_iff.mpr fun current => different ?_)
      simp [currentRevision_eq_some.mpr ⟨held, owner, current⟩, digest]
    · cases ran
      exact .created

end

section

variable {catalog after : Catalog} {mapper : Mapper} {draft : Draft}

/-- The row of a set and the rows with it, found or inserted. -/
inductive Resolved (catalog : Catalog) (draft : Draft) (set : Beatmapset) : List Beatmapset → Prop where
  | found (located : catalog.findSet draft.key = some set) : Resolved catalog draft set catalog.sets.rows
  | inserted (missing : catalog.findSet draft.key = none) (key : (set.sourceId, set.externalId) = draft.key)
      (status : set.status = draft.snapshot.status) (source : set.sourceStatus = draft.snapshot.status) :
      Resolved catalog draft set (catalog.sets.rows ++ [set])

/-- A beatmap as it is inserted for a file. -/
structure Inserted (setId sourceId : Nat) (files : List SyncedFile) (row : Beatmap) : Prop where
  set : row.beatmapsetId = setId
  source : row.sourceId = sourceId
  listed : ∃ file ∈ files, row.externalId = file.beatmap.externalBeatmapId
  live : row.deletedAt = none

/-- What a publication has done: to the rows of sets, by way of the beatmaps and
revisions in between, to all of them. -/
structure Publication (mapper : Mapper) (draft : Draft) (before : Catalog) (set : Beatmapset)
    (rows : List Beatmapset) (middle : Catalog) (placements : List Catalog.Placement)
    (after : Catalog) : Prop where
  resolved : Resolved before draft set rows
  sets : after.sets.rows = replaced (·.id) rows (refreshed set draft.snapshot)
  distinct : (rows.map (·.id)).Nodup
  events : after.events = before.events ++
    if (if mapper.refreshes then refreshed set draft.snapshot else set).status ≠ draft.snapshot.status then
      [⟨set.id, (if mapper.refreshes then refreshed set draft.snapshot else set).status,
        draft.snapshot.status,
        .upstreamSync, none, none, draft.now⟩]
    else []
  beatmaps : ∃ inserted, (∀ row ∈ inserted, Inserted set.id draft.sourceId draft.files row) ∧
    middle.beatmaps.rows = before.beatmaps.rows.map (claimed set.id draft.sourceId draft.files) ++ inserted
  revisions : middle.revisions = before.revisions
  placed : List.Forall₂ (fun file placement => middle.place draft.sourceId file = .ok placement)
    draft.files placements
  revised : ∃ start, after.revisions.rows = before.revisions.rows.map
      (fun row => restored placements (retired (placements.filterMap Catalog.Placement.changed) row)) ++
    (created placements).mapIdx fun index entry => newRevision (start + index) entry
  dismissed : after.beatmaps.rows =
    middle.beatmaps.rows.map (dismissed set.id draft.sourceId draft.snapshot draft.now)

theorem resolveSet_eq_ok {set : Beatmapset} (ran : catalog.resolveSet draft = .ok (set, after)) :
    Resolved catalog draft set after.sets.rows ∧ after.beatmaps = catalog.beatmaps ∧
      after.revisions = catalog.revisions ∧ after.events = catalog.events := by
  unfold resolveSet at ran
  split at ran
  · next located =>
    cases ran
    exact ⟨.found located, rfl, rfl, rfl⟩
  · next missing =>
    obtain ⟨sets, written, ran⟩ := of_bind_eq_ok ran
    cases ran
    have rows := insert_eq_ok (of_mapError_eq_ok written)
    refine ⟨?_, rfl, rfl, rfl⟩
    rw [rows]
    exact .inserted missing rfl rfl rfl

theorem updateSet_eq_ok {set : Beatmapset} (ran : catalog.updateSet mapper set draft = .ok after) :
    after.sets.rows = replaced (·.id) catalog.sets.rows (refreshed set draft.snapshot) ∧
      (after.events = catalog.events ++
        if (if mapper.refreshes then refreshed set draft.snapshot else set).status ≠
        draft.snapshot.status then
          [⟨set.id, (if mapper.refreshes then refreshed set draft.snapshot else set).status,
            draft.snapshot.status,
            .upstreamSync, none, none, draft.now⟩]
        else []) ∧
      after.beatmaps = catalog.beatmaps ∧ after.revisions = catalog.revisions := by
  obtain ⟨sets, written, ran⟩ := of_bind_eq_ok ran
  cases ran
  exact ⟨update_eq_ok (of_mapError_eq_ok written), rfl, rfl, rfl⟩

theorem upsertBeatmaps_eq_ok (ran : catalog.upsertBeatmaps setId sourceId files = .ok after) :
    (∃ inserted, (∀ row ∈ inserted, Inserted setId sourceId files row) ∧
      after.beatmaps.rows = catalog.beatmaps.rows.map (claimed setId sourceId files) ++ inserted) ∧
      after.sets = catalog.sets ∧ after.events = catalog.events ∧ after.revisions = catalog.revisions := by
  obtain ⟨beatmaps, written, ran⟩ := of_bind_eq_ok ran
  cases ran
  refine ⟨⟨_, ?_, write_eq_ok (of_mapError_eq_ok written)⟩, rfl, rfl, rfl⟩
  intro row member
  obtain ⟨index, bound, rfl⟩ := mem_mapIdx.mp member
  have listed := (mem_filter.mp (getElem_mem bound)).1
  exact ⟨rfl, rfl, ⟨_, listed, rfl⟩, rfl⟩

theorem reviseBeatmaps_eq_ok (ran : catalog.reviseBeatmaps placements = .ok after) :
    (after.revisions.rows = catalog.revisions.rows.map
        (fun row => restored placements (retired (placements.filterMap Catalog.Placement.changed) row)) ++
      (created placements).mapIdx fun index entry => newRevision (catalog.nextRevision + index) entry) ∧
      after.sets = catalog.sets ∧ after.events = catalog.events ∧ after.beatmaps = catalog.beatmaps := by
  obtain ⟨revisions, written, ran⟩ := of_bind_eq_ok ran
  cases ran
  exact ⟨write_eq_ok (of_mapError_eq_ok written), rfl, rfl, rfl⟩

theorem dismissBeatmaps_eq_ok (ran : catalog.dismissBeatmaps setId draft = .ok after) :
    after.beatmaps.rows = catalog.beatmaps.rows.map
      (dismissed setId draft.sourceId draft.snapshot draft.now) ∧ after.sets = catalog.sets ∧
      after.events = catalog.events ∧ after.revisions = catalog.revisions := by
  obtain ⟨beatmaps, written, ran⟩ := of_bind_eq_ok ran
  cases ran
  exact ⟨write_eq_ok (of_mapError_eq_ok written), rfl, rfl, rfl⟩

theorem publish_eq_ok (ran : catalog.publish mapper draft = .ok (result, after)) :
    ∃ set rows middle placements, Publication mapper draft catalog set rows middle placements after := by
  obtain ⟨⟨set, first⟩, resolving, ran⟩ := of_bind_eq_ok ran
  obtain ⟨second, updating, third, upserting, ran⟩ := of_bind_bind_eq_ok ran
  obtain ⟨placements, placing, fourth, revising, ran⟩ := of_bind_bind_eq_ok ran
  obtain ⟨last, dismissing, ran⟩ := of_bind_eq_ok ran
  cases ran
  obtain ⟨resolved, beatmaps, revisions, events⟩ := resolveSet_eq_ok resolving
  obtain ⟨sets, events', beatmaps', revisions'⟩ := updateSet_eq_ok updating
  obtain ⟨upserted, sets', kept, same⟩ := upsertBeatmaps_eq_ok upserting
  obtain ⟨revised, sets_, kept', beatmaps_⟩ := reviseBeatmaps_eq_ok revising
  obtain ⟨dismissed, final, kept_, revisions_⟩ := dismissBeatmaps_eq_ok dismissing
  have ids := first.sets.nodup_of_unique mem_cons_self
  rw [filter_true] at ids
  have before : third.revisions = catalog.revisions := same.trans (revisions'.trans revisions)
  refine ⟨set, first.sets.rows, third.insertAssets draft.files, placements, resolved, ?_, ids, ?_,
    ?_, before, mapM_eq_ok placing, ⟨third.nextRevision, ?_⟩, ?_⟩
  · rw [final, sets_]
    exact (congrArg rows sets').trans sets
  · rw [kept_, kept', ← events, ← events']
    exact kept
  · obtain ⟨inserted, each, rows⟩ := upserted
    exact ⟨inserted, each, rows.trans (by rw [beatmaps', beatmaps])⟩
  · rw [revisions_, revised, ← before]
    rfl
  · rw [dismissed, beatmaps_]

end

section

variable {before middle after : Catalog} {mapper : Mapper} {draft : Draft} {set : Beatmapset}
  {rows : List Beatmapset} {placements : List Catalog.Placement} {row : Revision}

/-- The same revision: which beatmap it is of, its digests and its facts. -/
structure SameFile (row later : Revision) : Prop where
  id : later.id = row.id
  beatmap : later.beatmapId = row.beatmapId
  md5 : later.md5 = row.md5
  sha256 : later.sha256 = row.sha256
  facts : later.facts = row.facts
  objectCount : later.objectCount = row.objectCount

theorem retired_sameFile (changed : List Nat) (row : Revision) : SameFile row (retired changed row) := by
  unfold retired
  split <;> exact ⟨rfl, rfl, rfl, rfl, rfl, rfl⟩

theorem restored_sameFile (placements : List Catalog.Placement) (row : Revision) :
    SameFile row (restored placements row) := by
  unfold restored
  split <;> exact ⟨rfl, rfl, rfl, rfl, rfl, rfl⟩

theorem SameFile.trans (one : SameFile first second) (two : SameFile second third) : SameFile first third :=
  ⟨two.id.trans one.id, two.beatmap.trans one.beatmap, two.md5.trans one.md5,
    two.sha256.trans one.sha256, two.facts.trans one.facts, two.objectCount.trans one.objectCount⟩

/-- A row as a publication leaves it. -/
def revisedRow (placements : List Catalog.Placement) (row : Revision) : Revision :=
  restored placements (retired (placements.filterMap Catalog.Placement.changed) row)

theorem revisedRow_sameFile (placements : List Catalog.Placement) (row : Revision) :
    SameFile row (revisedRow placements row) :=
  (retired_sameFile _ row).trans (restored_sameFile placements _)

namespace Publication

section

variable (publication : Publication mapper draft before set rows middle placements after)
include publication

/-- No publication changes the digests or facts of a revision. -/
theorem revision_kept (stored : row ∈ before.revisions.rows) :
    ∃ later ∈ after.revisions.rows, SameFile row later := by
  obtain ⟨start, revised⟩ := publication.revised
  refine ⟨revisedRow placements row, ?_, revisedRow_sameFile placements row⟩
  rw [revised]
  exact mem_append_left _ (mem_map_of_mem stored)

theorem of_placement (member : placement ∈ placements) :
    ∃ file ∈ draft.files, ∃ beatmap ∈ middle.beatmaps.rows, beatmap.sourceId = draft.sourceId ∧
      beatmap.externalId = file.beatmap.externalBeatmapId ∧
      middle.place draft.sourceId file = .ok placement ∧ Placed middle beatmap file placement := by
  obtain ⟨file, listed, placed⟩ := exists_of_related publication.placed member
  obtain ⟨beatmap, stored, source, external, found⟩ := place_eq_ok placed
  exact ⟨file, listed, beatmap, stored, source, external, placed, found⟩

theorem revisedRow_eq (stored : row ∈ before.revisions.rows)
    (outside : row.beatmapId ∉ placements.filterMap Catalog.Placement.changed) :
    revisedRow placements row = row := by
  have kept : retired (placements.filterMap Catalog.Placement.changed) row = row :=
    if_neg fun both => outside both.2
  unfold revisedRow
  rw [kept]
  unfold restored
  split
  · next found =>
    obtain ⟨placement, member, chosen⟩ := exists_of_findSome?_eq_some found
    cases placement with
    | unchanged => cases chosen
    | created => cases chosen
    | restored beatmapId revisionId assetId =>
      dsimp only at chosen
      split at chosen
      · next same =>
        obtain ⟨file, _, beatmap, _, _, _, _, placed⟩ := publication.of_placement member
        cases placed with
        | restored held owner =>
          rw [publication.revisions] at held
          cases before.revisions.eq_of_unique mem_cons_self stored rfl held rfl same.symm
          exact (outside (mem_filterMap.mpr ⟨_, member, congrArg some owner.symm⟩)).elim
      · cases chosen
  · rfl

end

theorem mem_created (member : entry ∈ created placements) :
    .created entry.1 entry.2.1 entry.2.2 ∈ placements := by
  obtain ⟨placement, listed, made⟩ := mem_filterMap.mp member
  cases placement with
  | unchanged => cases made
  | restored => cases made
  | created =>
    cases made
    exact listed

theorem revisions_frame (publication : Publication mapper draft before set rows middle placements after)
    (outside : beatmapId ∉ placements.filterMap Catalog.Placement.changed) :
    after.revisions.rows.filter
    (·.beatmapId = beatmapId) = before.revisions.rows.filter (·.beatmapId = beatmapId) := by
  obtain ⟨start, revised⟩ := publication.revised
  rw [revised, filter_append, filter_map]
  have fresh : ((created placements).mapIdx fun index entry =>
    newRevision (start + index) entry).filter (·.beatmapId = beatmapId) = [] := by
    rw [filter_eq_nil_iff]
    intro row member owner
    obtain ⟨index, bound, rfl⟩ := mem_mapIdx.mp member
    have listed := mem_created (getElem_mem bound)
    exact outside (mem_filterMap.mpr ⟨_, listed, congrArg some (of_decide_eq_true owner)⟩)
  have ours : (before.revisions.rows.filter ((fun row : Revision => decide (row.beatmapId = beatmapId)) ∘
    revisedRow placements)) = before.revisions.rows.filter (·.beatmapId = beatmapId) := by
    apply filter_congr
    intro row _
    simp only [Function.comp_apply, (revisedRow_sameFile placements row).beatmap]
  rw [fresh, append_nil]
  change (before.revisions.rows.filter ((fun row : Revision => decide (row.beatmapId = beatmapId)) ∘
    revisedRow placements)).map (revisedRow placements) = _
  rw [ours]
  conv_rhs => rw [← map_id (before.revisions.rows.filter (·.beatmapId = beatmapId))]
  apply map_congr_left
  intro row member
  obtain ⟨stored, owner⟩ := mem_filter.mp member
  exact publication.revisedRow_eq stored (of_decide_eq_true owner ▸ outside)

end Publication

end

section

variable {before middle after : Catalog} {mapper : Mapper} {draft : Draft} {set : Beatmapset}
  {rows : List Beatmapset} {placements : List Catalog.Placement}

/-- The same beatmap of the source. -/
structure SameBeatmap (row later : Beatmap) : Prop where
  id : later.id = row.id
  source : later.sourceId = row.sourceId
  external : later.externalId = row.externalId

theorem claimed_same (setId sourceId : Nat) (files : List SyncedFile) (row : Beatmap) :
    SameBeatmap row (claimed setId sourceId files row) := by
  unfold claimed
  split <;> exact ⟨rfl, rfl, rfl⟩

theorem claimed_eq
    (outside : row.sourceId = sourceId → ∀ file ∈ files, row.externalId ≠ file.beatmap.externalBeatmapId) :
    claimed setId sourceId files row = row := by
  unfold claimed
  split
  · next file found =>
    have named := find?_some found
    simp only [decide_eq_true_eq] at named
    exact absurd named.2 (outside named.1 file (mem_of_find?_eq_some found))
  · rfl

theorem claimed_of_file (setId : Nat) (listed : file ∈ files)
    (source : row.sourceId = sourceId) (external : row.externalId = file.beatmap.externalBeatmapId) :
    ∃ other ∈ files, other.beatmap.externalBeatmapId = row.externalId ∧
    claimed setId sourceId files row = { row with
          beatmapsetId := setId
          ruleset := other.beatmap.ruleset
          difficultyName := other.beatmap.difficultyName
          deletedAt := none } := by
  unfold claimed
  split
  · next other found =>
    have named := find?_some found
    simp only [decide_eq_true_eq] at named
    exact ⟨other, mem_of_find?_eq_some found, named.2.symm, rfl⟩
  · next missing =>
    have nowhere := find?_eq_none.mp missing file listed
    simp [source, external] at nowhere

namespace Publication

theorem file_unique (named : draft.files.map (·.beatmap) = draft.snapshot.beatmaps)
    (first : one ∈ draft.files) (second : two ∈ draft.files)
    (same : one.beatmap.externalBeatmapId = two.beatmap.externalBeatmapId) : one = two := by
  have distinct : (draft.files.map fun file => file.beatmap.externalBeatmapId).Nodup := by
    have snapshot := draft.snapshot.distinct
    rwa [← named, map_map] at snapshot
  exact inj_on_of_nodup_map distinct first second same

theorem changed_placed
    (placed : Placed middle beatmap file placement) (changed : placement.changed = some beatmapId) :
    beatmapId = beatmap.id := by
  cases placed with
  | unchanged => cases changed
  | restored | created => exact (Option.some.inj changed).symm

theorem changed_iff (publication : Publication mapper draft before set rows middle placements after)
(named : draft.files.map (·.beatmap) = draft.snapshot.beatmaps) (stored : beatmap ∈ middle.beatmaps.rows)
  (external : beatmap.externalId = file.beatmap.externalBeatmapId) (listed : file ∈ draft.files)
  (placed : middle.place draft.sourceId file = .ok placement)
  (changed : beatmap.id ∈ placements.filterMap Catalog.Placement.changed) :
  placement.changed = some beatmap.id := by
  obtain ⟨other, member, theirs⟩ := mem_filterMap.mp changed
  obtain ⟨file', listed', beatmap', stored', source', external', placed', found⟩ :=
    publication.of_placement member
  cases beatmap_unique stored stored' (changed_placed found theirs).symm
  cases file_unique named listed listed' (external.symm.trans external')
  rw [placed] at placed'
  cases placed'
  exact theirs

/-- The row of a file in between: it is of the set and live. -/
theorem beatmap_of_file (publication : Publication mapper draft before set rows middle placements after)
    (listed : file ∈ draft.files) (stored : beatmap ∈ middle.beatmaps.rows)
    (source : beatmap.sourceId = draft.sourceId)
    (external : beatmap.externalId = file.beatmap.externalBeatmapId) :
    beatmap.beatmapsetId = set.id ∧ beatmap.deletedAt = none := by
  obtain ⟨inserted, each, all⟩ := publication.beatmaps
  rw [all] at stored
  rcases mem_append.mp stored with old | fresh
  · obtain ⟨row, _, rfl⟩ := mem_map.mp old
    have same := claimed_same set.id draft.sourceId draft.files row
    obtain ⟨_, _, _, claimed⟩ := claimed_of_file set.id listed (same.source.symm.trans source)
      (same.external.symm.trans external)
    rw [claimed]
    exact ⟨rfl, rfl⟩
  · exact ⟨(each _ fresh).set, (each _ fresh).live⟩

theorem restored_current (member : .restored beatmapId row.id assetId ∈ placements) :
    (revisedRow placements row).isCurrent = true := by
  unfold revisedRow restored
  split
  · rfl
  · next missing =>
    have nowhere := findSome?_eq_none_iff.mp missing _ member
    rw [(retired_sameFile _ row).id] at nowhere
    simp at nowhere

/-- Every file of a published snapshot is the current revision of its beatmap. -/
theorem current (publication : Publication mapper draft before set rows middle placements after)
    (named : draft.files.map (·.beatmap) = draft.snapshot.beatmaps) (listed : file ∈ draft.files) :
    ∃ beatmap ∈ after.beatmaps.rows, (beatmap.sourceId = draft.sourceId ∧
        beatmap.externalId = file.beatmap.externalBeatmapId ∧ beatmap.beatmapsetId = set.id ∧
      beatmap.deletedAt = none) ∧ ∃ row ∈ after.revisions.rows, row.beatmapId = beatmap.id ∧
        row.isCurrent = true ∧ row.sha256 = file.storedObject.sha256 := by
  obtain ⟨placement, member, placed⟩ := exists_related publication.placed listed
  obtain ⟨beatmap, stored, source, external, found⟩ := place_eq_ok placed
  obtain ⟨owner, live⟩ := publication.beatmap_of_file listed stored source external
  have inside : beatmap.externalId ∈ draft.snapshot.beatmaps.map (·.externalBeatmapId) := by
    rw [← named, map_map, external]
    exact mem_map_of_mem listed
  have kept : Catalog.dismissed set.id draft.sourceId draft.snapshot draft.now beatmap = beatmap :=
    if_neg fun gone => gone.2.2.1 inside
  have present : beatmap ∈ after.beatmaps.rows := by
    rw [publication.dismissed, ← kept]
    exact mem_map_of_mem stored
  obtain ⟨start, revised⟩ := publication.revised
  have old : ∀ row ∈ before.revisions.rows, revisedRow placements row ∈ after.revisions.rows := by
    intro row held
    rw [revised]
    exact mem_append_left _ (mem_map_of_mem held)
  refine ⟨beatmap, present, ⟨source, external, owner, live⟩, ?_⟩
  cases found with
  | @unchanged row held mine isCurrent digest =>
    rw [publication.revisions] at held
    have outside : row.beatmapId ∉ placements.filterMap Catalog.Placement.changed := by
      rw [mine]
      intro changed
      cases publication.changed_iff named stored external listed placed changed
    have same := publication.revisedRow_eq held outside
    exact ⟨row, same ▸ old row held, mine, isCurrent, digest⟩
  | @restored row _ held mine digest =>
    rw [publication.revisions] at held
    have same := revisedRow_sameFile placements row
    exact ⟨_, old row held, same.beatmap.trans mine, restored_current member, same.sha256.trans digest⟩
  | @created assetId =>
    have made : (beatmap.id, assetId, file) ∈ created placements := mem_filterMap.mpr ⟨_, member, rfl⟩
    obtain ⟨index, bound, entry⟩ := mem_iff_getElem.mp made
    refine ⟨newRevision (start + index) (beatmap.id, assetId, file), ?_, rfl, rfl, rfl⟩
    rw [revised]
    exact mem_append_right _ (mem_mapIdx.mpr ⟨index, bound, by rw [entry]⟩)

end Publication

end

section

variable {catalog after : Catalog}

/-- What a transition has done: nothing, or to move one set and to tell so. -/
inductive Transitioned (catalog : Catalog) (target : BeatmapStatus) : Catalog → Prop where
  | idle : Transitioned catalog target catalog
  | moved {set : Beatmapset} {event : StatusEvent} {after : Catalog} (stored : set ∈ catalog.sets.rows)
      (about : event.beatmapsetId = set.id) (previous : event.previousStatus = set.status)
      (next : event.status = target)
      (sets : after.sets.rows = replaced (·.id) catalog.sets.rows { set with status := target })
      (events : after.events = catalog.events ++ [event]) (beatmaps : after.beatmaps = catalog.beatmaps)
      (revisions : after.revisions = catalog.revisions) : Transitioned catalog target after

theorem transition_eq_ok
    (ran : catalog.transition actor externalId target source reason now = .ok (status, after)) :
    Transitioned catalog target after := by
  obtain ⟨_, _, ran⟩ := of_bind_eq_ok ran
  split at ran
  · cases ran
  next set found =>
  split at ran
  · cases ran
    exact .idle
  split at ran
  · cases ran
  · obtain ⟨applied, applying, ran⟩ := of_bind_eq_ok ran
    cases ran
    obtain ⟨sets, written, _, _, applying⟩ := of_bind_bind_eq_ok applying
    cases applying
    exact .moved (of_getStatusState found).1 rfl rfl rfl (update_eq_ok (of_mapError_eq_ok written))
      rfl rfl rfl

theorem unpackPair_status (status : BeatmapStatus) :
    unpackPair status.text = .error (.valueError "too many values to unpack (expected 2)") := by
  cases status <;> decide

theorem revertRow_eq (set : Beatmapset) :
    catalog.revertRow set = .error (.valueError "too many values to unpack (expected 2)") := by
  unfold revertRow
  rw [unpackPair_status]
  rfl

theorem revertStatus_eq_ok (ran : catalog.revertStatus externalId = .ok (status, after)) :
    after = catalog ∧ ∃ set ∈ catalog.sets.rows, set.externalId = externalId ∧ set.status = status ∧
    set.sourceStatus = status := by
  obtain ⟨_, _, ran⟩ := of_bind_eq_ok ran
  split at ran
  · cases ran
  next set found =>
  split at ran
  · next plain =>
    cases ran
    obtain ⟨stored, named⟩ := of_getStatusState found
    exact ⟨rfl, set, stored, named, rfl, plain.symm⟩
  · rw [revertRow_eq] at ran
    cases ran

end

end Perfcho.Content
