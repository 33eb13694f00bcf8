import Perfcho.Content.Publication
import Perfcho.Foundation.Interleaving

/-! What synchronisations keep: update times, the revisions of beatmaps, and what a
snapshot of the same age leaves alone. -/

namespace Perfcho.Content

open Foundation Catalog List Bool

variable {snapshot : BeatmapsetSnapshot} {incoming : BeatmapSnapshot} {key : Nat × Int}
  {files : List SyncedFile} {catalog : Catalog} {upstream : Int → Bytes} {file : SyncedFile}
  {identifiers : Int → Uuid} {draft : Draft}

/-- The same set later on: its update time has not decreased. -/
structure Updates (set later : Beatmapset) : Prop where
  id : later.id = set.id
  source : later.sourceId = set.sourceId
  external : later.externalId = set.externalId
  time : ∀ previous, set.lastSourceUpdateAt = some previous →
    ∃ next, later.lastSourceUpdateAt = some next ∧ previous ≤ next

theorem Updates.refl (set : Beatmapset) : Updates set set :=
  ⟨rfl, rfl, rfl, fun previous at_ => ⟨previous, at_, le_refl _⟩⟩

theorem Updates.trans (one : Updates first second) (two : Updates second third) : Updates first third where
  id := two.id.trans one.id
  source := two.source.trans one.source
  external := two.external.trans one.external
  time := by
    intro previous at_
    obtain ⟨middle, then_, before⟩ := one.time previous at_
    obtain ⟨next, now, after⟩ := two.time middle then_
    exact ⟨next, now, before.trans after⟩

/-- A beatmap with its revisions is the same in two catalogues. -/
structure Untouched (catalog later : Catalog) (beatmap : Beatmap) : Prop where
  stored : beatmap ∈ later.beatmaps.rows
  revisions : later.revisions.rows.filter (·.beatmapId = beatmap.id) =
    catalog.revisions.rows.filter (·.beatmapId = beatmap.id)

section

variable {catalog before after : Catalog} {mapper : Mapper} {draft : Draft} {set other : Beatmapset}
  {rows : List Beatmapset} {snapshot : BeatmapsetSnapshot} {beatmap : Beatmap}

/-- What a snapshot that is published is to the set. -/
theorem publishes_eq_true (publishes : catalog.publishes set snapshot = true) :
    Updates set (refreshed set snapshot) ∧
    (set.lastSourceUpdateAt = some snapshot.lastUpdatedAt →
      catalog.snapshotExtendsCurrent set snapshot = true) := by
  unfold Catalog.publishes at publishes
  split at publishes
  · next never => exact ⟨⟨rfl, rfl, rfl, fun _ at_ => by simp [never] at at_⟩,
      fun same => by simp [never] at same⟩
  next previous at_ =>
  split at publishes
  · cases publishes
  next order =>
  refine ⟨⟨rfl, rfl, rfl, ?_⟩, ?_⟩
  · intro earlier same
    cases at_.symm.trans same
    exact ⟨_, rfl, Int.not_lt.mp order⟩
  · intro same
    cases at_.symm.trans same
    rwa [if_pos rfl] at publishes

theorem currentRevision_congr
    (same : after.revisions.rows.filter (·.beatmapId = beatmapId) = before.revisions.rows.filter
      (·.beatmapId = beatmapId)) :
    after.currentRevision beatmapId = before.currentRevision beatmapId := by
  have split : ∀ catalog : Catalog, catalog.currentRevision beatmapId =
    (catalog.revisions.rows.filter (·.beatmapId = beatmapId)).find? (·.isCurrent) := by
    intro catalog
    simp [currentRevision]
  rw [split, split, same]

/-- A snapshot stays to be published while the set and its beatmaps stay, or lose some. -/
theorem publishes_frame (publishes : before.publishes set snapshot = true) (id : other.id = set.id)
    (facts : other.facts = set.facts) (status : other.sourceStatus = set.sourceStatus)
    (time : other.lastSourceUpdateAt = set.lastSourceUpdateAt)
    (kept : ∀ beatmap ∈ after.beatmaps.rows, beatmap.beatmapsetId = set.id → beatmap ∈ before.beatmaps.rows ∧
      after.currentRevision beatmap.id = before.currentRevision beatmap.id) :
    after.publishes other snapshot = true := by
  have prolongs : before.snapshotExtendsCurrent set snapshot = true →
    after.snapshotExtendsCurrent other snapshot = true := by
    unfold snapshotExtendsCurrent
    rw [facts, status, id, and_eq_true, and_eq_true, all_eq_true, all_eq_true]
    rintro ⟨same, every⟩
    refine ⟨same, fun beatmap member => ?_⟩
    obtain ⟨stored, owner⟩ := mem_filter.mp member
    obtain ⟨earlier, revision⟩ := kept beatmap stored (of_decide_eq_true owner)
    have described := every beatmap (mem_filter.mpr ⟨earlier, owner⟩)
    unfold extendsBeatmap at described ⊢
    rwa [revision]
  unfold Catalog.publishes at publishes ⊢
  rw [time]
  split at publishes
  · rfl
  split at publishes
  · cases publishes
  next order =>
  rw [if_neg order]
  split at publishes
  · next same =>
    rw [if_pos same]
    exact prolongs publishes
  · next different => rw [if_neg different]

namespace Publication

section

variable (publication : Publication mapper draft before set rows middle placements after)
include publication

theorem set_mem_rows : set ∈ rows := by
  cases publication.resolved with
  | found located => exact (findSet_eq_some.mp located).1
  | inserted => exact mem_append_right _ mem_cons_self

theorem set_key : (set.sourceId, set.externalId) = draft.key := by
  cases publication.resolved with
  | found located => exact (findSet_eq_some.mp located).2
  | inserted _ key => exact key

theorem set_eq (located : before.findSet draft.key = some other) : set = other := by
  cases publication.resolved with
  | found located' => exact Option.some.inj (located'.symm.trans located)
  | inserted missing => cases missing.symm.trans located

theorem before_subset : before.sets.rows ⊆ rows := by
  cases publication.resolved with
  | found => exact List.Subset.refl _
  | inserted => exact subset_append_left _ _

theorem mem_sets (stored : other ∈ after.sets.rows) :
    other = refreshed set draft.snapshot ∨ other ∈ before.sets.rows ∧ other.id ≠ set.id := by
  rw [publication.sets] at stored
  obtain same | ⟨member, different⟩ := mem_replaced stored
  · exact .inl same
  apply Or.inr
  cases publication.resolved with
  | found => exact ⟨member, different⟩
  | inserted =>
    obtain old | new := mem_append.mp member
    · exact ⟨old, different⟩
    · cases mem_singleton.mp new
      exact absurd rfl different

theorem findSet_other (different : key ≠ draft.key) (found : after.findSet key = some other) :
    before.findSet key = some other ∧ other.id ≠ set.id := by
  obtain ⟨stored, named⟩ := findSet_eq_some.mp found
  obtain rfl | ⟨earlier, apart⟩ := publication.mem_sets stored
  · exact absurd (named.symm.trans publication.set_key) different
  · exact ⟨findSet_eq_some.mpr ⟨earlier, named⟩, apart⟩

theorem listed_of_changed
    (stored : beatmap ∈ middle.beatmaps.rows)
    (changed : beatmap.id ∈ placements.filterMap Catalog.Placement.changed) :
    ∃ file ∈ draft.files, beatmap.sourceId = draft.sourceId ∧
      beatmap.externalId = file.beatmap.externalBeatmapId ∧ ∃ placement ∈ placements,
      placement.changed = some beatmap.id ∧ Placed middle beatmap file placement := by
  obtain ⟨placement, member, theirs⟩ := mem_filterMap.mp changed
  obtain ⟨file, listed, owner, stored', source, external, _, placed⟩ := publication.of_placement member
  cases beatmap_unique stored stored' (changed_placed placed theirs).symm
  exact ⟨file, listed, source, external, placement, member, theirs, placed⟩

theorem beatmap_other (stored : beatmap ∈ after.beatmaps.rows) (apart : beatmap.beatmapsetId ≠ set.id) :
    beatmap ∈ before.beatmaps.rows ∧
    after.currentRevision beatmap.id = before.currentRevision beatmap.id := by
  rw [publication.dismissed] at stored
  obtain ⟨between, held, rfl⟩ := mem_map.mp stored
  have elsewhere : between.beatmapsetId ≠ set.id := by
    unfold Catalog.dismissed at apart
    split at apart <;> exact apart
  have kept : Catalog.dismissed set.id draft.sourceId draft.snapshot draft.now between = between :=
    if_neg fun gone => elsewhere gone.2.1
  rw [kept]
  obtain ⟨inserted, each, all⟩ := publication.beatmaps
  have unlisted : between.sourceId = draft.sourceId → ∀ file ∈ draft.files,
    between.externalId ≠ file.beatmap.externalBeatmapId := fun source file listed external =>
    elsewhere (publication.beatmap_of_file listed held source external).1
  constructor
  · have member := held
    rw [all] at member
    obtain old | fresh := mem_append.mp member
    · obtain ⟨row, earlier, rfl⟩ := mem_map.mp old
      have same := claimed_same set.id draft.sourceId draft.files row
      have untouched : claimed set.id draft.sourceId draft.files row = row :=
        claimed_eq fun source file listed external =>
          unlisted (same.source.trans source) file listed (same.external.trans external)
      rwa [untouched]
    · exact absurd (each between fresh).set elsewhere
  · apply currentRevision_congr
    apply publication.revisions_frame
    intro changed
    obtain ⟨file, listed, source, external, _⟩ := publication.listed_of_changed held changed
    exact unlisted source file listed external

theorem updates (newer : ∀ set, before.findSet draft.key = some set →
    before.publishes set draft.snapshot = true) (stored :
    other ∈ before.sets.rows) : ∃ later ∈ after.sets.rows, Updates other later := by
  rw [publication.sets]
  by_cases same : other.id = set.id
  · have member := publication.before_subset stored
    cases inj_on_of_nodup_map publication.distinct member publication.set_mem_rows same
    refine ⟨_, row_mem_replaced member rfl, ?_⟩
    exact (publishes_eq_true (newer set (findSet_eq_some.mpr ⟨stored, publication.set_key⟩))).1
  · exact ⟨other, other_mem_replaced (publication.before_subset stored) same, .refl other⟩

theorem beatmap_kept (stored : beatmap ∈ before.beatmaps.rows)
    (claimed : claimed set.id draft.sourceId draft.files beatmap = beatmap)
    (stays : Catalog.dismissed set.id draft.sourceId draft.snapshot draft.now beatmap = beatmap) :
    beatmap ∈ middle.beatmaps.rows ∧ beatmap ∈ after.beatmaps.rows := by
  have between : beatmap ∈ middle.beatmaps.rows := by
    obtain ⟨inserted, _, all⟩ := publication.beatmaps
    rw [all, ← claimed]
    exact mem_append_left _ (mem_map_of_mem stored)
  refine ⟨between, ?_⟩
  rw [publication.dismissed, ← stays]
  exact mem_map_of_mem between

end

end Publication

end

section

variable {hashes : Hashes} {before middle after : Catalog} {mapper : Mapper} {draft : Draft}
  {set : Beatmapset} {rows : List Beatmapset} {placements : List Catalog.Placement} {beatmap : Beatmap}

/-- Different contents have different digests. -/
def CollisionFree (hashes : Hashes) : Prop :=
  ∀ first second : Bytes, hashes.sha256 first = hashes.sha256 second → first = second

/-- The digests of one content. -/
def Genuine (hashes : Hashes) (md5 sha256 : Bytes) : Prop :=
  ∃ content, md5 = hashes.md5 content ∧ sha256 = hashes.sha256 content

theorem Genuine.md5_eq (free : CollisionFree hashes) (one : Genuine hashes md5 sha256)
    (two : Genuine hashes md5' sha256) : md5 = md5' := by
  obtain ⟨content, digest, named⟩ := one
  obtain ⟨content', digest', named'⟩ := two
  rw [digest, digest', free content content' (named.symm.trans named')]

/-- A draft with the files of its snapshot. -/
structure Fetched (hashes : Hashes) (draft : Draft) : Prop where
  files : draft.files.map (·.beatmap) = draft.snapshot.beatmaps
  genuine : ∀ file ∈ draft.files, Genuine hashes file.beatmap.md5 file.storedObject.sha256

/-- A catalogue whose revisions have the digests of their files. -/
def Hashed (hashes : Hashes) (catalog : Catalog) : Prop :=
  ∀ row ∈ catalog.revisions.rows, Genuine hashes row.md5 row.sha256

/-- A beatmap of a snapshot with its file as the current revision. -/
def Reflects (catalog : Catalog) (draft : Draft) (incoming : BeatmapSnapshot) : Prop :=
  ∃ file ∈ draft.files, file.beatmap = incoming ∧ ∃ beatmap ∈ catalog.beatmaps.rows,
    beatmap.sourceId = draft.sourceId ∧ beatmap.externalId = incoming.externalBeatmapId ∧
      ∃ row, catalog.currentRevision beatmap.id = some row ∧ row.md5 = incoming.md5 ∧
      row.sha256 = file.storedObject.sha256

theorem Fetched.file_mem (fetched : Fetched hashes draft)
    (listed : incoming ∈ draft.snapshot.beatmaps) : ∃ file ∈ draft.files, file.beatmap = incoming := by
  rw [← fetched.files] at listed
  exact mem_map.mp listed

theorem Fetched.beatmap_mem (fetched : Fetched hashes draft) (listed : file ∈ draft.files) :
    file.beatmap ∈ draft.snapshot.beatmaps := by
  rw [← fetched.files]
  exact mem_map_of_mem listed

namespace Publication

section

variable (publication : Publication mapper draft before set rows middle placements after)
include publication

theorem hashed (fetched : Fetched hashes draft) (earlier : Hashed hashes before) : Hashed hashes after := by
  intro row member
  obtain ⟨start, revised⟩ := publication.revised
  rw [revised] at member
  obtain old | fresh := mem_append.mp member
  · obtain ⟨before, stored, rfl⟩ := mem_map.mp old
    have same := revisedRow_sameFile placements before
    change Genuine hashes (revisedRow placements before).md5 (revisedRow placements before).sha256
    rw [same.md5, same.sha256]
    exact earlier before stored
  · obtain ⟨index, bound, rfl⟩ := mem_mapIdx.mp fresh
    obtain ⟨file, listed, _, _, _, _, _, placed⟩ := publication.of_placement (mem_created (getElem_mem bound))
    have ours : (created placements)[index].2.2 = file := by
      generalize (created placements)[index] = entry at placed
      obtain ⟨_, _, made⟩ := entry
      cases placed
      rfl
    change Genuine hashes (created placements)[index].2.2.beatmap.md5
      (created placements)[index].2.2.storedObject.sha256
    rw [ours]
    exact fetched.genuine file listed

/-- The file of a beatmap whose current revision has the same digest is unchanged: a
historical revision with its content would be the current one, and a new one is refused. -/
theorem not_changed (fetched : Fetched hashes draft) (earlier : Hashed hashes before)
    (free : CollisionFree hashes) (stored : beatmap ∈ middle.beatmaps.rows)
    (listed : incoming ∈ draft.snapshot.beatmaps)
    (external : incoming.externalBeatmapId = beatmap.externalId)
    (current : before.currentRevision beatmap.id = some revision)
    (digest : revision.md5 = incoming.md5) : beatmap.id ∉ placements.filterMap Catalog.Placement.changed := by
  intro changed
  obtain ⟨file, chosen, _, named, placement, member, theirs, placed⟩ :=
    publication.listed_of_changed stored changed
  obtain ⟨held, _, isCurrent⟩ := currentRevision_eq_some.mp current
  have same : file.beatmap = incoming :=
    inj_on_of_nodup_map draft.snapshot.distinct (fetched.beatmap_mem chosen) listed
      (named.symm.trans external.symm)
  have genuine := fetched.genuine file chosen
  rw [same, ← digest] at genuine
  cases placed with
  | unchanged => cases theirs
  | @restored row _ historical _ equal retired =>
    rw [publication.revisions] at historical
    have theirs := earlier row historical
    rw [equal] at theirs
    cases before.revisions.eq_of_unique (mem_cons_of_mem _ (mem_cons_of_mem _ mem_cons_self))
      historical rfl held rfl (theirs.md5_eq free genuine)
    rw [isCurrent] at retired
    cases retired
  | @created assetId =>
    obtain ⟨start, revised⟩ := publication.revised
    have made : (beatmap.id, assetId, file) ∈ created placements := mem_filterMap.mpr ⟨_, member, rfl⟩
    obtain ⟨index, bound, entry⟩ := mem_iff_getElem.mp made
    have fresh : newRevision (start + index) (beatmap.id, assetId, file) ∈
      (created placements).mapIdx fun index entry => newRevision (start + index) entry :=
      mem_mapIdx.mpr ⟨index, bound, by rw [entry]⟩
    have apart := after.revisions.apart_of_unique
      (mem_cons_of_mem _ (mem_cons_of_mem _ mem_cons_self)) revised (mem_map_of_mem held) rfl fresh rfl
    apply apart
    change (revisedRow placements revision).md5 = file.beatmap.md5
    rw [(revisedRow_sameFile placements revision).md5, digest, same]

theorem sets_of_extends
    (located : before.findSet draft.key = some set)
    (prolongs : before.snapshotExtendsCurrent set draft.snapshot = true)
    (same : set.lastSourceUpdateAt = some draft.snapshot.lastUpdatedAt) :
    after.sets.rows = before.sets.rows := by
  obtain ⟨facts, status⟩ := of_decide_eq_true (and_eq_true _ _ ▸ prolongs).1
  have unchanged : refreshed set draft.snapshot = set := by
    unfold refreshed
    rw [← facts, ← status, ← same]
    have kept : (if set.status ≠ set.sourceStatus then set.status else set.sourceStatus) = set.status := by
      split
      · rfl
      · next plain => exact (not_not.mp plain).symm
    rw [kept]
  obtain ⟨stored, _⟩ := findSet_eq_some.mp located
  have kept := publication.resolved
  rw [publication.sets, unchanged]
  cases kept with
  | found => exact replaced_self fun old member named => set_unique stored member named
  | inserted missing =>
    rw [missing] at located
    cases located

/-- A beatmap that no file is of, and that is not dismissed. -/
theorem unlisted_untouched (stored : beatmap ∈ before.beatmaps.rows)
    (unlisted : ∀ file ∈ draft.files, beatmap.externalId ≠ file.beatmap.externalBeatmapId)
    (stays : Catalog.dismissed set.id draft.sourceId draft.snapshot draft.now beatmap = beatmap) :
    Untouched before after beatmap := by
  obtain ⟨between, kept⟩ := publication.beatmap_kept stored (claimed_eq fun _ => unlisted) stays
  refine ⟨kept, publication.revisions_frame fun changed => ?_⟩
  obtain ⟨file, listed, _, external, _⟩ := publication.listed_of_changed between changed
  exact unlisted file listed external

theorem beatmap_of_extends (fetched : Fetched hashes draft) (earlier : Hashed hashes before)
    (free : CollisionFree hashes)
    (prolongs : before.snapshotExtendsCurrent set draft.snapshot = true)
    (stored : beatmap ∈ before.beatmaps.rows) (owner : beatmap.beatmapsetId = set.id) :
    Untouched before after beatmap := by
  have described := all_eq_true.mp (and_eq_true _ _ ▸ prolongs).2 beatmap
    (mem_filter.mpr ⟨stored, decide_eq_true owner⟩)
  unfold extendsBeatmap at described
  split at described
  · next deleted =>
    have absent := of_decide_eq_true described
    exact publication.unlisted_untouched stored
      (fun file listed external => absent (external ▸ mem_map_of_mem (fetched.beatmap_mem listed)))
      (if_neg fun gone => by simp [deleted] at gone)
  · next live =>
    obtain ⟨incoming, listed, both⟩ := any_eq_true.mp described
    obtain ⟨named, revised⟩ := and_eq_true _ _ ▸ both
    obtain ⟨external, ruleset, difficulty⟩ := of_decide_eq_true named
    obtain ⟨file, chosen, rfl⟩ := fetched.file_mem listed
    have claimed : claimed set.id draft.sourceId draft.files beatmap = beatmap := by
      by_cases source : beatmap.sourceId = draft.sourceId
      · obtain ⟨other, chosen', external', claimed⟩ := claimed_of_file set.id chosen source external.symm
        cases file_unique fetched.files chosen chosen' (external.trans external'.symm)
        rw [claimed, ruleset, difficulty, ← owner, ← live]
      · exact claimed_eq fun here => absurd here source
    obtain ⟨between, later⟩ := publication.beatmap_kept stored claimed
      (if_neg fun gone => gone.2.2.1 (external ▸ mem_map_of_mem listed))
    refine ⟨later, publication.revisions_frame ?_⟩
    obtain ⟨revision, current, digest⟩ := Option.any_eq_true _ _ |>.mp revised
    exact publication.not_changed fetched earlier free between listed external current
      (of_decide_eq_true digest).1

theorem reflects (fetched : Fetched hashes draft) (hashed : Hashed hashes before)
    (free : CollisionFree hashes) (listed : incoming ∈ draft.snapshot.beatmaps) :
    Reflects after draft incoming := by
  obtain ⟨file, chosen, rfl⟩ := fetched.file_mem listed
  obtain ⟨beatmap, stored, ⟨source, external, _⟩, row, held, owner, current, digest⟩ :=
    publication.current fetched.files chosen
  have genuine := publication.hashed fetched hashed row held
  rw [digest] at genuine
  exact ⟨file, chosen, rfl, beatmap, stored, source, external, row,
    currentRevision_eq_some.mpr ⟨held, owner, current⟩,
    genuine.md5_eq free (fetched.genuine file chosen), digest⟩

end

end Publication

end

section

variable {hashes : Hashes} {mapper : Mapper} {allowed : Desk → Draft → Prop} {desk after : Desk}
  {label : Option Draft}

/-- What holds of the catalogue and of the synchronisations that are open. -/
structure Sound (hashes : Hashes) (desk : Desk) : Prop where
  hashed : Hashed hashes desk.catalog
  keyed : ∀ key draft, desk.opened key = some draft → draft.key = key
  fetched : ∀ key draft, desk.opened key = some draft → Fetched hashes draft
  newer : ∀ key draft, desk.opened key = some draft → ∀ set, desk.catalog.findSet key = some set →
    desk.catalog.publishes set draft.snapshot = true

theorem fetchAndStoreFile_eq_ok
    (ran : fetchAndStoreFile hashes upstream identifiers snapshot beatmap = .ok file) :
    file.beatmap = beatmap ∧ Genuine hashes file.beatmap.md5 file.storedObject.sha256 := by
  unfold fetchAndStoreFile at ran
  dsimp only at ran
  split at ran
  · cases ran
  · next same =>
    cases ran
    exact ⟨rfl, _, (not_not.mp same).symm, rfl⟩

theorem prepareSync_eq_ok (ran : catalog.prepareSync snapshot files now = .ok (.inr draft)) :
    draft.snapshot = snapshot ∧ draft.files = files ∧
      ∀ set, catalog.findSet draft.key = some set → catalog.publishes set snapshot = true := by
  obtain ⟨_, _, ran⟩ := of_bind_eq_ok ran
  split at ran
  · cases ran
  next sourceId _ =>
  split at ran
  · next missing =>
    cases ran
    exact ⟨rfl, rfl, fun set found => by cases missing.symm.trans found⟩
  · next set located =>
    split at ran
    · next publishes =>
      cases ran
      refine ⟨rfl, rfl, fun other found => ?_⟩
      cases located.symm.trans found
      exact publishes
    · cases ran

theorem fetched_of_prepares
    (ran : snapshot.beatmaps.mapM (fetchAndStoreFile hashes upstream identifiers snapshot) = .ok files)
    (same : draft.snapshot = snapshot) (held : draft.files = files) : Fetched hashes draft := by
  subst same held
  have related := mapM_eq_ok ran
  constructor
  · generalize draft.snapshot.beatmaps = beatmaps at related
    generalize draft.files = files at related
    induction related with
    | nil => rfl
    | cons made _ rest => rw [map_cons, rest, (fetchAndStoreFile_eq_ok made).1]
  · intro file listed
    obtain ⟨beatmap, _, made⟩ := exists_of_related related listed
    exact (fetchAndStoreFile_eq_ok made).2

theorem Transitioned.earlier (moved : Transitioned catalog target later)
    (stored : other ∈ later.sets.rows) :
    ∃ set ∈ catalog.sets.rows, { other with status := set.status } = set := by
  cases moved with
  | idle => exact ⟨other, stored, rfl⟩
  | @moved set _ _ held _ _ _ sets =>
    rw [sets] at stored
    obtain rfl | ⟨member, _⟩ := mem_replaced stored
    · exact ⟨set, held, rfl⟩
    · exact ⟨other, member, rfl⟩

theorem Transitioned.later {later : Catalog} (moved : Transitioned catalog target later)
    (stored : other ∈ catalog.sets.rows) : ∃ set ∈ later.sets.rows, Updates other set := by
  cases moved with
  | idle => exact ⟨other, stored, .refl other⟩
  | @moved set _ _ held _ _ _ sets =>
    rw [sets]
    by_cases same : other.id = set.id
    · cases set_unique held stored same
      exact ⟨_, row_mem_replaced held rfl, rfl, rfl, rfl, (Updates.refl other).time⟩
    · exact ⟨other, other_mem_replaced stored same, .refl other⟩

theorem Transitioned.frame {later : Catalog} (moved : Transitioned catalog target later) :
    later.beatmaps = catalog.beatmaps ∧ later.revisions = catalog.revisions := by
  cases moved with
  | idle => exact ⟨rfl, rfl⟩
  | moved _ _ _ _ _ _ beatmaps revisions => exact ⟨beatmaps, revisions⟩

theorem Sound.transitioned (sound : Sound hashes desk) {later : Catalog}
    (moved : Transitioned desk.catalog target later) : Sound hashes { desk with catalog := later } where
  hashed := by
    unfold Hashed
    rw [moved.frame.2]
    exact sound.hashed
  keyed := sound.keyed
  fetched := sound.fetched
  newer := by
    intro key draft opened set found
    obtain ⟨stored, named⟩ := findSet_eq_some.mp found
    obtain ⟨earlier, held, same⟩ := moved.earlier stored
    have located : desk.catalog.findSet key = some earlier := by
      rw [findSet_eq_some, ← same]
      exact ⟨same ▸ held, named⟩
    apply publishes_frame (sound.newer key draft opened earlier located)
    · rw [← same]
    · rw [← same]
    · rw [← same]
    · rw [← same]
    · intro beatmap member _
      rw [moved.frame.1] at member
      refine ⟨member, ?_⟩
      unfold currentRevision
      rw [moved.frame.2]

theorem Sound.published (sound : Sound hashes desk) {set : Beatmapset}
    (running : desk.opened key = some draft)
    (publication : Publication mapper draft desk.catalog set rows middle placements later) :
    Sound hashes ⟨later, Function.update desk.opened key none⟩ where
  hashed := publication.hashed (sound.fetched key draft running) sound.hashed
  keyed := fun _ _ opened => sound.keyed _ _ (update_none_eq_some opened).2
  fetched := fun _ _ opened => sound.fetched _ _ (update_none_eq_some opened).2
  newer := by
    intro other draft' opened set' found
    obtain ⟨different, still⟩ := update_none_eq_some opened
    rw [← sound.keyed key draft running] at different
    obtain ⟨earlier, apart⟩ := publication.findSet_other different found
    apply publishes_frame (sound.newer other draft' still set' earlier) rfl rfl rfl rfl
    intro beatmap stored owner
    exact publication.beatmap_other stored (owner ▸ apart)

theorem Step.sound (step : Step mapper hashes allowed desk label after)
    (sound : Sound hashes desk) : Sound hashes after := by
  cases step with
  | prepares _ _ fetched prepared =>
    obtain ⟨same, held, newer⟩ := prepareSync_eq_ok prepared
    constructor
    · exact sound.hashed
    · intro key draft' opened
      obtain ⟨rfl, ⟨⟩⟩ | ⟨_, still⟩ := update_eq_some opened
      · rfl
      · exact sound.keyed key draft' still
    · intro key draft' opened
      obtain ⟨_, ⟨⟩⟩ | ⟨_, still⟩ := update_eq_some opened
      · exact fetched_of_prepares fetched same held
      · exact sound.fetched key draft' still
    · intro key draft' opened
      obtain ⟨rfl, ⟨⟩⟩ | ⟨_, still⟩ := update_eq_some opened
      · rwa [same]
      · exact sound.newer key draft' still
  | publishes running _ published =>
    obtain ⟨set, rows, middle, placements, publication⟩ := publish_eq_ok published
    exact sound.published running publication
  | aborts =>
    constructor
    · exact sound.hashed
    · exact fun _ _ opened => sound.keyed _ _ (update_none_eq_some opened).2
    · exact fun _ _ opened => sound.fetched _ _ (update_none_eq_some opened).2
    · exact fun _ _ opened => sound.newer _ _ (update_none_eq_some opened).2
  | transitions _ moved => exact sound.transitioned (transition_eq_ok moved)
  | reverts _ moved =>
    obtain ⟨rfl, _⟩ := revertStatus_eq_ok moved
    exact sound

theorem Runs.sound (run : Runs mapper hashes allowed desk) : Sound hashes desk := by
  induction run with
  | start blank =>
    constructor
    · intro row member
      rw [blank.revisions] at member
      cases member
    all_goals
      intro key draft opened
      cases (blank.idle key).symm.trans opened
  | step _ step sound => exact step.sound sound

/-- One step, whatever it publishes. -/
def Moves (mapper : Mapper) (hashes : Hashes) (allowed : Desk → Draft → Prop) (desk after : Desk) : Prop :=
  ∃ label, Step mapper hashes allowed desk label after

/-- What one step keeps: no update time decreases and no revision changes its file. -/
structure Preserves (catalog later : Catalog) : Prop where
  sets : ∀ set ∈ catalog.sets.rows, ∃ same ∈ later.sets.rows, Updates set same
  revisions : ∀ row ∈ catalog.revisions.rows, ∃ same ∈ later.revisions.rows, SameFile row same

theorem Preserves.refl (catalog : Catalog) : Preserves catalog catalog :=
  ⟨fun set stored => ⟨set, stored, .refl set⟩, fun row stored => ⟨row, stored, rfl, rfl, rfl, rfl, rfl, rfl⟩⟩

theorem Preserves.trans (one : Preserves first second) (two : Preserves second third) :
    Preserves first third := by
  constructor
  · intro set stored
    obtain ⟨middle, held, updates⟩ := one.sets set stored
    obtain ⟨last, kept, updates'⟩ := two.sets middle held
    exact ⟨last, kept, updates.trans updates'⟩
  · intro row stored
    obtain ⟨middle, held, same⟩ := one.revisions row stored
    obtain ⟨last, kept, same'⟩ := two.revisions middle held
    exact ⟨last, kept, same.trans same'⟩

theorem Step.preserves (step : Step mapper hashes allowed desk label after)
    (sound : Sound hashes desk) : Preserves desk.catalog after.catalog := by
  cases step with
  | prepares => exact .refl _
  | aborts => exact .refl _
  | publishes running _ published =>
    obtain ⟨set, rows, middle, placements, publication⟩ := publish_eq_ok published
    constructor
    · intro other stored
      refine publication.updates (fun set found => sound.newer _ _ running set ?_) stored
      rwa [← sound.keyed _ _ running]
    · exact fun row stored => publication.revision_kept stored
  | transitions _ moved =>
    have moved := transition_eq_ok moved
    refine ⟨fun set stored => moved.later stored, ?_⟩
    rw [moved.frame.2]
    exact (Preserves.refl desk.catalog).revisions
  | reverts _ moved =>
    obtain ⟨rfl, _⟩ := revertStatus_eq_ok moved
    exact .refl _

theorem Runs.preserves (run : Runs mapper hashes allowed desk)
    (moves : Relation.ReflTransGen (Moves mapper hashes allowed) desk after) :
    Runs mapper hashes allowed after ∧ Preserves desk.catalog after.catalog := by
  induction moves with
  | refl => exact ⟨run, .refl _⟩
  | tail _ move ih =>
    obtain ⟨label, step⟩ := move
    exact ⟨.step ih.1 step, ih.2.trans (step.preserves ih.1.sound)⟩

theorem current_count (catalog : Catalog) (beatmapId : Nat) :
    (catalog.revisions.rows.filter fun row => row.isCurrent ∧ row.beatmapId = beatmapId).length ≤ 1 := by
  have distinct := catalog.revisions.nodup_of_unique
    (mem_cons_of_mem _ (mem_cons_of_mem _ (mem_cons_of_mem _ mem_cons_self)))
  have count := nodup_iff_count_le_one.mp distinct beatmapId
  rw [List.count, List.countP_map, List.countP_filter, List.countP_eq_length_filter] at count
  refine le_of_eq_of_le (congrArg length (filter_congr fun row _ => ?_)) count
  rw [Bool.decide_and, Bool.and_comm, Bool.decide_eq_true]
  rfl

end

section

variable {hashes : Hashes} {mapper : Mapper} {allowed : Desk → Draft → Prop} {desk : Desk}

/-- Fetch the files of a snapshot and lock its set. -/
def Desk.prepare (hashes : Hashes) (upstream : Int → Bytes) (identifiers : Int → Uuid)
    (snapshot : BeatmapsetSnapshot) (now : Int) (desk : Desk) : Desk :=
  match snapshot.beatmaps.mapM (fetchAndStoreFile hashes upstream identifiers snapshot) with
  | .error _ => desk
  | .ok files => match desk.catalog.prepareSync snapshot files now with
    | .ok (.inr draft) =>
      if (desk.opened draft.key).isNone then
        { desk with opened := Function.update desk.opened draft.key (some draft) } else desk
    | _ => desk

def Desk.publish (mapper : Mapper) (key : Nat × Int) (desk : Desk) : Desk :=
  match desk.opened key with
  | none => desk
  | some draft => match desk.catalog.publish mapper draft with
    | .error _ => desk
    | .ok (_, after) => ⟨after, Function.update desk.opened key none⟩

theorem Runs.prepares (run : Runs mapper hashes allowed desk) (upstream : Int → Bytes)
    (identifiers : Int → Uuid) (snapshot : BeatmapsetSnapshot) (now : Int) :
    Runs mapper hashes allowed (desk.prepare hashes upstream identifiers snapshot now) := by
  unfold Desk.prepare
  split
  · exact run
  next fetched =>
  split
  · next prepared =>
    split
    · next free =>
      have unopened := Option.isNone_iff_eq_none.mp free
      exact .step run (.prepares upstream identifiers fetched prepared unopened)
    · exact run
  · exact run

theorem Runs.publishes (run : Runs mapper hashes allowed desk)
    (permitted : ∀ draft, desk.opened key = some draft → allowed desk draft) :
    Runs mapper hashes allowed (desk.publish mapper key) := by
  unfold Desk.publish
  split
  · exact run
  · next draft running =>
    split
    · exact run
    · next published => exact .step run (.publishes running (permitted draft running) published)

theorem Desk.publish_step (desk : Desk) (running : desk.opened key = some draft)
    (succeeds : (desk.catalog.publish mapper draft).isOk = true) (permitted : allowed desk draft) :
    Step mapper hashes allowed desk (some draft) (desk.publish mapper key) := by
  cases published : desk.catalog.publish mapper draft with
  | error => simp [published, Except.isOk, Except.toBool] at succeeds
  | ok result =>
    unfold Desk.publish
    simp only [running, published]
    exact .publishes running permitted published

def sampleHashes : Hashes := ⟨fun content => content.take 16, fun content => content⟩

def sampleContent (number : Nat) : Bytes := replicate 32 (UInt8.ofNat number)

def sampleUpstream (externalId : Int) : Bytes := sampleContent externalId.toNat

def sampleFacts : SetFacts :=
  ⟨none, "creator", "artist", none, "title", none, none, "", none, none, none, none, none, true, false⟩

def sampleMapFacts : MapFacts := ⟨"a.osu", 0, 1000, 900, 120, 4, 5, 5, 6, 1, 0, 0, 1, false, false⟩

def sampleBeatmap (number : Nat) (positive : 1 ≤ (number : Int)) : BeatmapSnapshot where
  externalBeatmapId := number
  md5 := (sampleContent number).take 16
  ruleset := .osu
  difficultyName := "Normal"
  facts := sampleMapFacts
  identified := ⟨positive, rfl⟩

def sampleSnapshot (time : Int) (status : BeatmapStatus) (beatmaps : List BeatmapSnapshot)
    (bounded : 1 ≤ beatmaps.length ∧ beatmaps.length ≤ 128)
    (distinct : (beatmaps.map (·.externalBeatmapId)).Nodup) : BeatmapsetSnapshot where
  sourceCode := "osu"
  externalBeatmapsetId := 7
  facts := sampleFacts
  status := status
  lastUpdatedAt := time
  beatmaps := beatmaps
  identified := by decide
  bounded := bounded
  distinct := distinct

def singleSnapshot (time : Int) (status : BeatmapStatus) : BeatmapsetSnapshot :=
  sampleSnapshot time status [sampleBeatmap 1 (by decide)] (by decide) (by decide)

def pairSnapshot : BeatmapsetSnapshot :=
  sampleSnapshot 100 .pending [sampleBeatmap 1 (by decide), sampleBeatmap 2 (by decide)] (by decide)
    (by decide)

def sampleAsset (externalId : Int) : Uuid := ⟨replicate 16 (UInt8.ofNat externalId.toNat), length_replicate⟩

def sampleDesk : Desk where
  catalog := {
    sources := [("osu", 1)], sets := ⟨[], by decide⟩, beatmaps := ⟨[], by decide⟩,
    revisions := ⟨[], by decide⟩, assets := [], events := [], nextSet := 1, nextBeatmap := 1,
    nextRevision := 1 }
  opened := fun _ => none

theorem sampleDesk_blank : sampleDesk.Blank := ⟨fun _ => rfl, rfl, rfl, rfl, rfl⟩

/-- One beatmap is about to be published. -/
def openedDesk : Desk :=
  sampleDesk.prepare sampleHashes sampleUpstream sampleAsset (singleSnapshot 100 .pending) 0

theorem openedDesk_runs (mapper : Mapper) (allowed : Desk → Draft → Prop) :
    Runs mapper sampleHashes allowed openedDesk :=
  (Runs.start sampleDesk_blank).prepares ..

def singleDesk : Desk := openedDesk.publish ⟨true⟩ (1, 7)

/-- A snapshot of the same time with one more is about to be. -/
def pairDesk : Desk := singleDesk.prepare sampleHashes sampleUpstream sampleAsset pairSnapshot 1

end

end Perfcho.Content
