import Mathlib.Data.Rat.Floor
import Perfcho.Foundation.Action
import Perfcho.Foundation.Struct
import Perfcho.Foundation.Table
import Perfcho.Scoring.Models

/-! The catalogue of beatmapsets: what synchronisations with the upstream source publish
and how moderation moves the status of a set. -/

namespace Perfcho.Content

open Foundation Scoring

inductive BeatmapStatus where
  | graveyard | wip | pending | ranked | approved | qualified | loved
  deriving DecidableEq

def BeatmapStatus.text : BeatmapStatus → String
  | .graveyard => "graveyard"
  | .wip => "wip"
  | .pending => "pending"
  | .ranked => "ranked"
  | .approved => "approved"
  | .qualified => "qualified"
  | .loved => "loved"

/-- `_TRANSITIONS` -/
def BeatmapStatus.targets : BeatmapStatus → List BeatmapStatus
  | .graveyard => [.pending, .wip]
  | .wip => [.pending, .graveyard]
  | .pending => [.wip, .qualified, .graveyard]
  | .qualified => [.ranked, .pending]
  | .ranked => [.loved, .graveyard]
  | .loved => [.ranked]
  | .approved => []

def isValidTransition (current target : BeatmapStatus) : Bool := target ∈ current.targets

inductive StatusEventSource where
  | upstreamSync | qualification | disqualification | rank | love | unlove | graveyard | revert | migration

inductive Failure where
  | valueError (message : String)
  | runtimeError (message : String)
  | integrityError (constraint : String)
  | contentInputRejected (message : String)
  | upstreamContentUnavailable (message : String)
  | beatmapsetNotFound (message : String)
  | invalidStatusTransition (message : String)
  deriving DecidableEq

/-- What the source says of a set besides its status. -/
structure SetFacts where
  creatorExternalId : Option Int
  creatorName : String
  artist : String
  artistUnicode : Option String
  title : String
  titleUnicode : Option String
  sourceText : Option String
  tags : String
  genreId : Option Int
  languageId : Option Int
  description : Option String
  submittedAt : Option Int
  rankedAt : Option Int
  available : Bool
  nsfw : Bool
  deriving DecidableEq

def SetFacts.fits (facts : SetFacts) : Bool :=
  facts.creatorExternalId.all (fun number => -2 ^ 63 ≤ number ∧ number < 2 ^ 63) &&
    decide (facts.creatorName.length ≤ 64) && decide (facts.artist.length ≤ 255) &&
    facts.artistUnicode.all (·.length ≤ 255) && decide (facts.title.length ≤ 255) &&
    facts.titleUnicode.all (·.length ≤ 255) && facts.sourceText.all (·.length ≤ 255) &&
    facts.genreId.all (fun number => -2 ^ 15 ≤ number ∧ number < 2 ^ 15) &&
    facts.languageId.all (fun number => -2 ^ 15 ≤ number ∧ number < 2 ^ 15)

/-- What the source says of the file of a beatmap. -/
structure MapFacts where
  fileName : String
  sourceUpdatedAt : Int
  totalLengthMs : Int
  drainLengthMs : Int
  bpm : ℚ
  circleSize : ℚ
  overallDifficulty : ℚ
  approachRate : ℚ
  healthDrain : ℚ
  circleCount : Int
  sliderCount : Int
  spinnerCount : Int
  maxCombo : Int
  hasStoryboard : Bool
  hasVideo : Bool
  deriving DecidableEq

def MapFacts.objectCount (facts : MapFacts) :
    Int := facts.circleCount + facts.sliderCount + facts.spinnerCount

/-- A value as a column with some decimals keeps it: halves are rounded away from zero. -/
def numeric (scale : Nat) (value : ℚ) : ℚ :=
  let nearest (positive : ℚ) : ℚ := ⌊positive * 10 ^ scale + 1 / 2⌋ / 10 ^ scale
  if value < 0 then -nearest (-value) else nearest value

/-- The facts as the columns of a revision keep them. -/
def MapFacts.kept (facts : MapFacts) : MapFacts :=
  { facts with
    bpm := numeric 3 facts.bpm
    circleSize := numeric 2 facts.circleSize
    overallDifficulty := numeric 2 facts.overallDifficulty
    approachRate := numeric 2 facts.approachRate
    healthDrain := numeric 2 facts.healthDrain }

def MapFacts.fits (facts : MapFacts) : Bool :=
  let within (value : ℚ) : Bool := 0 ≤ value ∧ value ≤ 20
  let counts := [facts.totalLengthMs, facts.drainLengthMs, facts.objectCount, facts.circleCount,
    facts.sliderCount, facts.spinnerCount, facts.maxCombo]
  counts.all (fun count => decide (-2 ^ 31 ≤ count ∧ count < 2 ^ 31)) && decide (0 ≤ facts.totalLengthMs) &&
    decide (0 ≤ facts.drainLengthMs) && decide (0 ≤ facts.bpm ∧ facts.bpm < 10 ^ 7) &&
    within facts.circleSize && within facts.overallDifficulty && within facts.approachRate &&
    within facts.healthDrain && decide (0 ≤ facts.objectCount ∧ 0 ≤ facts.maxCombo) &&
    decide (0 < facts.fileName.length ∧ facts.fileName.length ≤ 255) &&
    facts.fileName.toList.head? != some ' ' && facts.fileName.toList.getLast? != some ' ' &&
    facts.fileName.toList.all (fun character => character != '/' && character != '\\')

/-- `UpstreamBeatmapSnapshot` -/
structure BeatmapSnapshot where
  externalBeatmapId : Int
  md5 : Bytes
  ruleset : Ruleset
  difficultyName : String
  facts : MapFacts
  identified : 1 ≤ externalBeatmapId ∧ md5.length = 16

/-- `UpstreamBeatmapsetSnapshot` -/
structure BeatmapsetSnapshot where
  sourceCode : String
  externalBeatmapsetId : Int
  facts : SetFacts
  status : BeatmapStatus
  lastUpdatedAt : Int
  beatmaps : List BeatmapSnapshot
  identified : sourceCode ≠ "" ∧ 1 ≤ externalBeatmapsetId ∧ facts.creatorName ≠ ""
  bounded : 1 ≤ beatmaps.length ∧ beatmaps.length ≤ 128
  distinct : (beatmaps.map (·.externalBeatmapId)).Nodup

structure StoredObject where
  storageKey : String
  sha256 : Bytes
  mediaType : String
  sizeBytes : Nat

/-- `SyncedBeatmapFile` -/
structure SyncedFile where
  beatmap : BeatmapSnapshot
  assetId : Uuid
  storedObject : StoredObject

structure Beatmapset where
  id : Nat
  sourceId : Nat
  externalId : Int
  facts : SetFacts
  status : BeatmapStatus
  sourceStatus : BeatmapStatus
  lastSourceUpdateAt : Option Int

def setConstraints : List (Constraint Beatmapset) :=
  [.unique "pk_beatmapset" (fun _ => true) (·.id),
    .unique "uq_beatmapset_source_id_external_id" (fun _ => true) (fun row => (row.sourceId, row.externalId)),
    .check "ck_beatmapset_positive_external_id" (fun row => decide (0 < row.externalId)),
    .check "value out of range" (·.facts.fits)]

structure Beatmap where
  id : Nat
  beatmapsetId : Nat
  sourceId : Nat
  externalId : Int
  ruleset : Ruleset
  difficultyName : String
  deletedAt : Option Int
  deriving DecidableEq

def beatmapConstraints : List (Constraint Beatmap) :=
  [.unique "pk_beatmap" (fun _ => true) (·.id),
    .unique "uq_beatmap_source_id_external_id" (fun _ => true) (fun row => (row.sourceId, row.externalId)),
    .check "ck_beatmap_positive_external_id" (fun row => decide (0 < row.externalId)),
    .check "value out of range" (fun row => decide (row.difficultyName.length ≤ 255))]

structure Revision where
  id : Nat
  beatmapId : Nat
  fileAssetId : Option Uuid
  md5 : Bytes
  sha256 : Bytes
  facts : MapFacts
  objectCount : Int
  isCurrent : Bool

def revisionConstraints : List (Constraint Revision) :=
  [.unique "pk_beatmap_revision" (fun _ => true) (·.id),
    .unique "uq_beatmap_revision_beatmap_id_sha256" (fun _ => true) (fun row =>
    (row.beatmapId, row.sha256)), .unique "uq_beatmap_revision_md5" (fun _ => true) (·.md5),
    .unique "uq_beatmap_revision_current" (·.isCurrent) (·.beatmapId),
    .unique "uq_beatmap_revision_file_asset_id" (·.fileAssetId.isSome) (·.fileAssetId),
    .check "ck_beatmap_revision_digests" (fun row => decide (row.md5.length = 16 ∧ row.sha256.length = 32)),
    .check "ck_beatmap_revision_facts" (·.facts.fits)]

structure MediaAsset where
  id : Uuid
  storageKey : String
  sha256 : Bytes

structure StatusEvent where
  beatmapsetId : Nat
  previousStatus : BeatmapStatus
  status : BeatmapStatus
  source : StatusEventSource
  actorAccountId : Option Int
  reason : Option String
  effectiveAt : Int

/-- The content tables. Identifiers of new rows are counted. -/
structure Catalog where
  sources : List (String × Nat)
  sets : Table setConstraints
  beatmaps : Table beatmapConstraints
  revisions : Table revisionConstraints
  assets : List MediaAsset
  events : List StatusEvent
  nextSet : Nat
  nextBeatmap : Nat
  nextRevision : Nat

/-- Whether the session refreshes the rows that it has loaded when it updates them in
bulk; the mapper does so by default. -/
structure Mapper where
  refreshes : Bool

/-- The digests of files. -/
structure Hashes where
  md5 : Bytes → Bytes
  sha256 : Bytes → Bytes

/-- `_fetch_and_store_file`: what is stored under the digest of the fetched content. -/
def fetchAndStoreFile (hashes : Hashes) (upstream : Int → Bytes) (identifiers : Int → Uuid)
    (snapshot : BeatmapsetSnapshot) (beatmap : BeatmapSnapshot) : Except Failure SyncedFile :=
  let content := upstream beatmap.externalBeatmapId
  if hashes.md5 content ≠ beatmap.md5 then
    .error (.upstreamContentUnavailable "upstream beatmap file does not match its MD5 metadata")
  else .ok ⟨beatmap, identifiers beatmap.externalBeatmapId,
    { storageKey := s!"beatmaps/{snapshot.sourceCode}/{snapshot.externalBeatmapsetId}/" ++
        s!"{beatmap.externalBeatmapId}/" ++ String.ofList (Hex.encode (hashes.sha256 content)) ++ ".osu"
      sha256 := hashes.sha256 content
      mediaType := "application/x-osu-beatmap"
      sizeBytes := content.length }⟩

/-- `ContentSyncResult` -/
structure SyncResult where
  beatmapsetId : Nat
  externalBeatmapsetId : Int
  createdRevisionCount : Nat
  unchangedRevisionCount : Nat
  removedBeatmapCount : Nat
  published : Bool

/-- A synchronisation that will publish its snapshot. -/
structure Draft where
  sourceId : Nat
  snapshot : BeatmapsetSnapshot
  files : List SyncedFile
  now : Int

def Draft.key (draft : Draft) : Nat × Int := (draft.sourceId, draft.snapshot.externalBeatmapsetId)

namespace Catalog

variable (catalog : Catalog)

def findSet (key : Nat × Int) : Option Beatmapset :=
  catalog.sets.rows.find? fun row => row.sourceId = key.1 ∧ row.externalId = key.2

def findBeatmap (sourceId : Nat) (externalId : Int) : Option Beatmap :=
  catalog.beatmaps.rows.find? fun row => row.sourceId = sourceId ∧ row.externalId = externalId

def currentRevision (beatmapId : Nat) : Option Revision :=
  catalog.revisions.rows.find? fun row => row.beatmapId = beatmapId ∧ row.isCurrent

/-- Whether a row of the set is described by the snapshot: a live beatmap with its
current revision exactly so, a deleted one not at all. -/
def extendsBeatmap (snapshot : BeatmapsetSnapshot) (beatmap : Beatmap) : Bool :=
  match beatmap.deletedAt with
  | some _ => decide (beatmap.externalId ∉ snapshot.beatmaps.map (·.externalBeatmapId))
  | none => snapshot.beatmaps.any fun incoming =>
    decide (incoming.externalBeatmapId = beatmap.externalId ∧ incoming.ruleset = beatmap.ruleset ∧
      incoming.difficultyName = beatmap.difficultyName) &&
    (catalog.currentRevision beatmap.id).any fun revision =>
      decide (revision.md5 = incoming.md5 ∧ revision.facts = incoming.facts)

/-- `_snapshot_extends_current` -/
def snapshotExtendsCurrent (set : Beatmapset) (snapshot : BeatmapsetSnapshot) : Bool :=
  decide (set.facts = snapshot.facts ∧ set.sourceStatus = snapshot.status) &&
    (catalog.beatmaps.rows.filter (·.beatmapsetId = set.id)).all (catalog.extendsBeatmap snapshot)

/-- Whether a snapshot is newer than what is stored, or as old and extends it. -/
def publishes (set : Beatmapset) (snapshot : BeatmapsetSnapshot) : Bool :=
  match set.lastSourceUpdateAt with
  | none => true
  | some previous =>
    if previous > snapshot.lastUpdatedAt then false
    else if previous = snapshot.lastUpdatedAt then catalog.snapshotExtendsCurrent set snapshot
    else true

/-- The first part of `synchronize_beatmapset`: the set that ignores the snapshot, or
what is going to be published. -/
def prepareSync (snapshot : BeatmapsetSnapshot) (files : List SyncedFile) (now : Int) :
    Except Failure (Beatmapset ⊕ Draft) := do
  let identifiers := files.map (·.beatmap.externalBeatmapId)
  refuse (¬ (∀ beatmap ∈ snapshot.beatmaps, beatmap.externalBeatmapId ∈ identifiers) ∨
      ¬ (∀ identifier ∈ identifiers, identifier ∈ snapshot.beatmaps.map (·.externalBeatmapId)) ∨
      files.length ≠ snapshot.beatmaps.length)
    (.valueError "synchronized files do not match the upstream snapshot")
  match catalog.sources.find? (·.1 = snapshot.sourceCode) with
  | none => throw (.runtimeError "content source is not bootstrapped")
  | some (_, sourceId) =>
    match catalog.findSet (sourceId, snapshot.externalBeatmapsetId) with
    | none => return .inr ⟨sourceId, snapshot, files, now⟩
    | some set =>
      return if catalog.publishes set snapshot then .inr ⟨sourceId, snapshot, files, now⟩ else .inl set

def resolveSet (draft : Draft) : Except Failure (Beatmapset × Catalog) :=
  match catalog.findSet draft.key with
  | some set => .ok (set, catalog)
  | none => do
    let set : Beatmapset := {
      id := catalog.nextSet, sourceId := draft.sourceId, externalId := draft.snapshot.externalBeatmapsetId,
      facts := draft.snapshot.facts, status := draft.snapshot.status, sourceStatus := draft.snapshot.status,
      lastSourceUpdateAt := some draft.snapshot.lastUpdatedAt }
    let sets ← (catalog.sets.insert set).mapError .integrityError
    return (set, { catalog with sets, nextSet := catalog.nextSet + 1 })

/-- The row with the values of the snapshot. A status that was overridden stays. -/
def refreshed (set : Beatmapset) (snapshot : BeatmapsetSnapshot) : Beatmapset :=
  { set with
    facts := snapshot.facts
    sourceStatus := snapshot.status
    lastSourceUpdateAt := some snapshot.lastUpdatedAt
    status := if set.status ≠ set.sourceStatus then set.status else snapshot.status }

/-- Write the values of the snapshot and, if the loaded row has another status, an event. -/
def updateSet (mapper : Mapper) (set : Beatmapset) (draft : Draft) : Except Failure Catalog := do
  let updated := refreshed set draft.snapshot
  let sets ← (catalog.sets.update (·.id) updated).mapError .integrityError
  let loaded := if mapper.refreshes then updated else set
  let events := if loaded.status ≠ draft.snapshot.status then
    [⟨set.id, loaded.status, draft.snapshot.status, .upstreamSync, none, none, draft.now⟩] else []
  return { catalog with sets, events := catalog.events ++ events }

/-- A row of a file that was found again. -/
def claimed (setId sourceId : Nat) (files : List SyncedFile) (row : Beatmap) : Beatmap :=
  match files.find? fun file => row.sourceId = sourceId ∧ row.externalId = file.beatmap.externalBeatmapId with
  | some file => { row with
    beatmapsetId := setId, ruleset := file.beatmap.ruleset,
      difficultyName := file.beatmap.difficultyName, deletedAt := none }
  | none => row

/-- Insert the beatmaps of the files or update those that exist. -/
def upsertBeatmaps (setId sourceId : Nat) (files : List SyncedFile) : Except Failure Catalog := do
  let unknown := files.filter fun file => (catalog.findBeatmap sourceId file.beatmap.externalBeatmapId).isNone
  let inserted := unknown.mapIdx fun index file =>
    (⟨catalog.nextBeatmap + index, setId, sourceId, file.beatmap.externalBeatmapId, file.beatmap.ruleset,
      file.beatmap.difficultyName, none⟩ : Beatmap)
  let beatmaps ← (Table.write _ (catalog.beatmaps.rows.map (claimed setId sourceId files) ++
    inserted)).mapError .integrityError
  return { catalog with beatmaps, nextBeatmap := catalog.nextBeatmap + unknown.length }

/-- Insert the objects that conflict with none. -/
def insertAssets (files : List SyncedFile) : Catalog :=
  { catalog with
    assets := files.foldl (fun assets file =>
      if assets.any (fun asset => asset.id = file.assetId ∨ asset.storageKey = file.storedObject.storageKey ∨
        asset.sha256 = file.storedObject.sha256) then assets
      else assets ++ [⟨file.assetId, file.storedObject.storageKey, file.storedObject.sha256⟩])
        catalog.assets }

/-- What becomes of the revisions of a file. -/
inductive Placement where
  | unchanged
  | restored (beatmapId revisionId : Nat) (assetId : Uuid)
  | created (beatmapId : Nat) (assetId : Uuid) (file : SyncedFile)

/-- The beatmap whose current revision is replaced. -/
def Placement.changed : Placement → Option Nat
  | .unchanged => none
  | .restored beatmapId _ _ | .created beatmapId _ _ => some beatmapId

def place (sourceId : Nat) (file : SyncedFile) : Except Failure Placement :=
  match catalog.findBeatmap sourceId file.beatmap.externalBeatmapId,
    catalog.assets.find? (·.sha256 = file.storedObject.sha256) with
  | none, _ => .error (.runtimeError "database did not return every synchronized beatmap")
  | _, none => .error (.runtimeError "media asset conflict did not resolve by digest")
  | some beatmap, some asset =>
    if (catalog.currentRevision beatmap.id).any (·.sha256 = file.storedObject.sha256) then .ok .unchanged
    else match catalog.revisions.rows.find? fun row =>
        row.beatmapId = beatmap.id ∧ row.sha256 = file.storedObject.sha256 with
      | some historical => .ok (.restored beatmap.id historical.id asset.id)
      | none => .ok (.created beatmap.id asset.id file)

/-- A row after the current revisions of some beatmaps were retired. -/
def retired (changed : List Nat) (row : Revision) : Revision :=
  if row.isCurrent ∧ row.beatmapId ∈ changed then { row with isCurrent := false } else row

/-- A row after some revisions were made current again. -/
def restored (placements : List Placement) (row : Revision) : Revision :=
  match placements.findSome? fun placement => match placement with
    | .restored _ revisionId assetId => if revisionId = row.id then some assetId else none
    | _ => none with
  | some assetId => { row with isCurrent := true, fileAssetId := some assetId }
  | none => row

/-- The files that get a revision of their own. -/
def created (placements : List Placement) : List (Nat × Uuid × SyncedFile) :=
  placements.filterMap fun placement => match placement with
    | .created beatmapId assetId file => some (beatmapId, assetId, file)
    | _ => none

def newRevision (id : Nat) (entry : Nat × Uuid × SyncedFile) : Revision where
  id := id
  beatmapId := entry.1
  fileAssetId := some entry.2.1
  md5 := entry.2.2.beatmap.md5
  sha256 := entry.2.2.storedObject.sha256
  facts := entry.2.2.beatmap.facts.kept
  objectCount := entry.2.2.beatmap.facts.objectCount
  isCurrent := true

/-- Make the revisions of the files current. -/
def reviseBeatmaps (placements : List Placement) : Except Failure Catalog := do
  let changed := placements.filterMap Placement.changed
  let fresh := (created placements).mapIdx fun index entry => newRevision (catalog.nextRevision + index) entry
  let revisions ← (Table.write _
    (catalog.revisions.rows.map (fun row => restored placements (retired changed row)) ++
      fresh)).mapError .integrityError
  return { catalog with revisions, nextRevision := catalog.nextRevision + fresh.length }

/-- A row after the beatmaps that a snapshot lacks were deleted. -/
def dismissed (setId sourceId : Nat) (snapshot : BeatmapsetSnapshot) (now : Int) (row : Beatmap) : Beatmap :=
  if row.sourceId = sourceId ∧ row.beatmapsetId = setId ∧ row.externalId ∉ snapshot.beatmaps.map
    (·.externalBeatmapId) ∧ row.deletedAt = none then { row with deletedAt := some now }
  else row

def dismissBeatmaps (setId : Nat) (draft : Draft) : Except Failure Catalog := do
  let beatmaps ← (Table.write _
    (catalog.beatmaps.rows.map (dismissed setId draft.sourceId draft.snapshot draft.now))).mapError
    .integrityError
  return { catalog with beatmaps }

/-- The second part of `synchronize_beatmapset`. -/
def publish (mapper : Mapper) (draft : Draft) : Except Failure (SyncResult × Catalog) := do
  let (set, catalog) ← catalog.resolveSet draft
  let catalog ← catalog.updateSet mapper set draft
  let catalog ← catalog.upsertBeatmaps set.id draft.sourceId draft.files
  let catalog := catalog.insertAssets draft.files
  let placements ← draft.files.mapM (catalog.place draft.sourceId)
  let catalog ← catalog.reviseBeatmaps placements
  let after ← catalog.dismissBeatmaps set.id draft
  let changed := placements.filterMap Placement.changed
  let removed := catalog.beatmaps.rows.filter fun row =>
    dismissed set.id draft.sourceId draft.snapshot draft.now row ≠ row
  return (⟨set.id, draft.snapshot.externalBeatmapsetId, changed.length,
    placements.length - changed.length, removed.length,
    true⟩, after)

/-- `get_status_state` -/
def getStatusState (externalId : Int) : Option Beatmapset :=
  catalog.sets.rows.find? (·.externalId = externalId)

/-- `apply_status_transition` -/
def applyStatusTransition (set : Beatmapset) (event : StatusEvent) : Except Failure Catalog := do
  let sets ← (catalog.sets.update (·.id) { set with status := event.status }).mapError .integrityError
  refuse (¬ event.reason.all (·.length ≤ 255))
    (.integrityError "value too long for type character varying(255)")
  return { catalog with sets, events := catalog.events ++ [event] }

/-- `ContentModerationService._transition` -/
def transition (actor externalId : Int) (target : BeatmapStatus) (source : StatusEventSource)
    (reason : Option String) (now : Int) : Except Failure (BeatmapStatus × Catalog) := do
  refuse (externalId < 1) (.contentInputRejected "beatmapset_id must be a positive integer")
  match catalog.getStatusState externalId with
  | none => throw (.beatmapsetNotFound "beatmapset is unknown")
  | some set =>
    if set.status = target then return (set.status, catalog)
    else if isValidTransition set.status target = false then
      throw (.invalidStatusTransition ("cannot transition beatmapset from " ++ set.status.text ++
        " to " ++ target.text))
    else
      let catalog ← catalog.applyStatusTransition set ⟨set.id, set.status, target, source,
        some actor, reason, now⟩
      return (target, catalog)

/-- Two values taken from a text, as an assignment to two names takes them. -/
def unpackPair (text : String) : Except Failure (Char × Char) :=
  match text.toList with
  | [first, second] => .ok (first, second)
  | [] | [_] => .error (.valueError "not enough values to unpack (expected 2)")
  | _ => .error (.valueError "too many values to unpack (expected 2)")

/-- `SqlAlchemyContentRepository.revert_status`. A scalar query answers the first column
of its row, so what is unpacked into two names is the status itself. -/
def revertRow (set : Beatmapset) : Except Failure Catalog := do
  let (current, restored) ← unpackPair set.status.text
  if current = restored then return catalog
  else throw (.integrityError (String.ofList [restored]))

/-- `ContentModerationService.revert_status` -/
def revertStatus (externalId : Int) : Except Failure (BeatmapStatus × Catalog) := do
  refuse (externalId < 1) (.contentInputRejected "beatmapset_id must be a positive integer")
  match catalog.getStatusState externalId with
  | none => throw (.beatmapsetNotFound "beatmapset is unknown")
  | some set =>
    if set.status = set.sourceStatus then return (set.status, catalog)
    else
      let catalog ← catalog.revertRow set
      return (set.sourceStatus, catalog)

end Catalog

/-- The committed catalogue with the open synchronisation of each set. A transaction
locks its set from its first part on; what it writes is visible with its second. -/
structure Desk where
  catalog : Catalog
  opened : Nat × Int → Option Draft

def Desk.Unlocked (desk : Desk) (externalId : Int) : Prop :=
  ∀ set, desk.catalog.getStatusState externalId = some set → desk.opened (set.sourceId, set.externalId) = none

/-- One step, labelled with what it publishes. Publications may be subject to a condition. -/
inductive Step (mapper : Mapper) (hashes : Hashes) (allowed : Desk → Draft → Prop) :
    Desk → Option Draft → Desk → Prop where
  | prepares {desk : Desk} {snapshot : BeatmapsetSnapshot} {files : List SyncedFile} {now : Int}
      {draft : Draft} (upstream : Int → Bytes) (identifiers : Int → Uuid)
      (fetched : snapshot.beatmaps.mapM (fetchAndStoreFile hashes upstream identifiers snapshot) = .ok files)
      (prepared : desk.catalog.prepareSync snapshot files now = .ok (.inr draft))
      (free : desk.opened draft.key = none) :
      Step mapper hashes allowed desk
      none { desk with opened := Function.update desk.opened draft.key (some draft) }
  | publishes {desk : Desk} {key : Nat × Int} {draft : Draft} {result : SyncResult}
      {after : Catalog} (running : desk.opened key = some draft) (permitted : allowed desk draft)
      (published : desk.catalog.publish mapper draft = .ok (result, after)) :
      Step mapper hashes allowed desk (some draft) ⟨after, Function.update desk.opened key none⟩
  | aborts {desk : Desk} (key : Nat × Int) :
      Step mapper hashes allowed desk none { desk with opened := Function.update desk.opened key none }
  | transitions {desk : Desk} {externalId : Int} {status : BeatmapStatus} {after : Catalog}
      (unlocked : desk.Unlocked externalId)
      (moved : desk.catalog.transition actor externalId target source reason now = .ok (status, after)) :
      Step mapper hashes allowed desk none { desk with catalog := after }
  | reverts {desk : Desk} {externalId : Int} {status : BeatmapStatus} {after : Catalog}
      (unlocked : desk.Unlocked externalId)
      (moved : desk.catalog.revertStatus externalId = .ok (status, after)) :
      Step mapper hashes allowed desk none { desk with catalog := after }

structure Desk.Blank (desk : Desk) : Prop where
  idle : ∀ key, desk.opened key = none
  sets : desk.catalog.sets.rows = []
  beatmaps : desk.catalog.beatmaps.rows = []
  revisions : desk.catalog.revisions.rows = []
  events : desk.catalog.events = []

inductive Runs (mapper : Mapper) (hashes : Hashes) (allowed : Desk → Draft → Prop) : Desk → Prop where
  | start {desk : Desk} (blank : desk.Blank) : Runs mapper hashes allowed desk
  | step {desk after : Desk} {label : Option Draft} (run : Runs mapper hashes allowed desk)
      (step : Step mapper hashes allowed desk label after) : Runs mapper hashes allowed after

end Perfcho.Content
