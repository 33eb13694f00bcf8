import Perfcho.Content.Synchronization

/-! The lookup of a current revision by its file name. The database keeps a name in lower
case, the service asks for it stripped and with its case folded. -/

namespace Perfcho.Content

open Foundation

/-- The case mappings of the database and of the service. -/
structure Casing where
  lower : String → String
  casefold : String → String

inductive FilenameFailure where
  | contentInputRejected (message : String)
  | beatmapNotFound (message : String)

/-- What `_filename_key` accepts. -/
def isFilenameKey (key : String) : Bool :=
  0 < key.length ∧ key.length ≤ 255 ∧ '/' ∉ key.toList ∧ '\\' ∉ key.toList

/-- `_filename_key` -/
def filenameKey (casing : Casing) (value : String) : Except FilenameFailure String :=
  let key := casing.casefold (Text.strip value)
  if isFilenameKey key then .ok key else .error (.contentInputRejected "beatmap filename is invalid")

/-- `lookup_filename` of the repository: some current revision with the key. -/
def Catalog.findFilename (casing : Casing) (catalog : Catalog) (key : String) : Option Revision :=
  catalog.revisions.rows.find? fun row => casing.lower row.facts.fileName = key ∧ row.isCurrent

/-- `lookup_filename` of the service. -/
def Catalog.lookupFilename (casing : Casing) (catalog : Catalog) (fileName : String) :
    Except FilenameFailure Revision := do
  let key ← filenameKey casing fileName
  match catalog.findFilename casing key with
  | some revision => return revision
  | none => throw (.beatmapNotFound "beatmap filename is unknown")

variable {casing : Casing} {catalog : Catalog} {fileName key : String} {found : Revision}

theorem of_findFilename (selected : catalog.findFilename casing key = some found) :
    found ∈ catalog.revisions.rows ∧ casing.lower found.facts.fileName = key ∧ found.isCurrent = true :=
  ⟨List.mem_of_find?_eq_some selected, by simpa using List.find?_some selected⟩

theorem lookupFilename_eq_ok :
    catalog.lookupFilename casing fileName = .ok found ↔
      isFilenameKey (casing.casefold (Text.strip fileName)) = true ∧
      catalog.findFilename casing (casing.casefold (Text.strip fileName)) = some found := by
  unfold Catalog.lookupFilename filenameKey
  by_cases accepted : isFilenameKey (casing.casefold (Text.strip fileName)) = true
  · cases selected : catalog.findFilename casing (casing.casefold (Text.strip fileName)) <;>
      simp [accepted, selected, bind, Except.bind, pure, Except.pure, throw, throwThe, MonadExceptOf.throw]
  · simp [accepted, bind, Except.bind]

def plainCasing : Casing where
  lower text := String.ofList (text.toList.map Char.toLower)
  casefold text := String.ofList (text.toList.flatMap fun letter => if letter = 'ß' then ['s', 's']
    else [letter.toLower])

def namedSnapshot (fileName : String) : BeatmapsetSnapshot := sampleSnapshot 100 .pending
  [{ sampleBeatmap 1 (Int.le_refl 1) with facts := { sampleMapFacts with fileName := fileName } }]
  ⟨Nat.le_refl 1, Nat.le_of_ble_eq_true rfl⟩ (List.nodup_singleton _)

/-- A set with one beatmap file is synchronised. -/
def namedDesk (fileName : String) : Desk :=
  (sampleDesk.prepare sampleHashes sampleUpstream sampleAsset (namedSnapshot fileName) 0).publish
    ⟨true⟩ (1, 7)

theorem namedDesk_runs (fileName : String) : Runs ⟨true⟩ sampleHashes (fun _ _ => True)
    (namedDesk fileName) :=
  ((Runs.start sampleDesk_blank).prepares _ _ _ _).publishes fun _ _ => trivial

end Perfcho.Content
