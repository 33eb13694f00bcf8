import Perfcho.Content.Synchronization

/-! The log of status events against the statuses that are stored: when a step tells what
it has done, and when a status can be reverted. -/

namespace Perfcho.Content

open Foundation Catalog List

def Catalog.eventsOf (catalog : Catalog) (setId : Nat) : List StatusEvent :=
  catalog.events.filter (·.beatmapsetId = setId)

/-- Events each of which begins where the one before it ended, up to a status. -/
structure Chained (events : List StatusEvent) (status : BeatmapStatus) : Prop where
  linked : List.IsChain (fun event next => next.previousStatus = event.status) events
  last : ∀ event ∈ events.getLast?, event.status = status

/-- What is told of a set in one step: nothing if its status stays, or its move. -/
inductive Told (set later : Beatmapset) : List StatusEvent → Prop where
  | silent (same : later.status = set.status) : Told set later []
  | moved {event : StatusEvent} (previous : event.previousStatus = set.status)
      (next : event.status = later.status) :
      Told set later [event]

/-- Every set keeps its events, and what is added tells what became of it. -/
def Tells (catalog later : Catalog) : Prop :=
  ∀ set ∈ catalog.sets.rows, ∃ same ∈ later.sets.rows, same.id = set.id ∧
    ∃ told, later.eventsOf set.id = catalog.eventsOf set.id ++ told ∧ Told set same told

/-- A log that agrees with the statuses. -/
structure Logged (catalog : Catalog) : Prop where
  owned : ∀ event ∈ catalog.events, ∃ set ∈ catalog.sets.rows, set.id = event.beatmapsetId
  chained : ∀ set ∈ catalog.sets.rows, Chained (catalog.eventsOf set.id) set.status

/-- A publication that says of a stored set the status that the set has. One that the
loaded row does not follow may say another if the status is not overridden. -/
def Agrees (mapper : Mapper) (desk : Desk) (draft : Draft) : Prop :=
  ∀ set, desk.catalog.findSet draft.key = some set → mapper.refreshes = true ∨ set.status ≠ set.sourceStatus →
    draft.snapshot.status = set.status

section

variable {events : List StatusEvent} {set later : Beatmapset}

theorem Chained.nil (status : BeatmapStatus) : Chained [] status := by
  constructor
  · exact isChain_nil
  · intro event last
    cases last

theorem Chained.told (chained : Chained events set.status) (told : Told set later more) :
    Chained (events ++ more) later.status := by
  cases told with
  | silent same =>
    rw [append_nil, same]
    exact chained
  | @moved event previous next =>
    constructor
    · apply isChain_append.mpr
      refine ⟨chained.linked, isChain_singleton event, ?_⟩
      intro before last first here
      cases here
      rw [previous, chained.last before last]
    · intro last here
      rw [getLast?_append_of_ne_nil _ (cons_ne_nil _ _)] at here
      cases here
      exact next

end

section

variable {after : Catalog} {mapper : Mapper} {draft : Draft} {set : Beatmapset} {rows : List Beatmapset}

/-- The row that a publication has loaded, after it has written the set. -/
def loadedRow (mapper : Mapper) (set : Beatmapset) (draft : Draft) : Beatmapset :=
  if mapper.refreshes then refreshed set draft.snapshot else set

def announced (mapper : Mapper) (set : Beatmapset) (draft : Draft) : List StatusEvent :=
  if (loadedRow mapper set draft).status ≠ draft.snapshot.status then
    [⟨set.id, (loadedRow mapper set draft).status, draft.snapshot.status, .upstreamSync, none, none,
      draft.now⟩]
  else []

theorem announced_about (member : event ∈ announced mapper set draft) : event.beatmapsetId = set.id := by
  unfold announced at member
  split at member
  · rw [mem_singleton.mp member]
  · cases member

theorem loadedRow_status (plain : ¬ (mapper.refreshes = true ∧ set.status = set.sourceStatus)) :
    (loadedRow mapper set draft).status = set.status := by
  unfold loadedRow
  split
  · next refreshes =>
    have overridden : set.status ≠ set.sourceStatus := fun same => plain ⟨refreshes, same⟩
    simp [refreshed, overridden]
  · rfl

theorem announced_of_loaded (loaded : (loadedRow mapper set draft).status = set.status)
    (differs : draft.snapshot.status ≠ set.status) :
    announced mapper set draft =
    [⟨set.id, set.status, draft.snapshot.status, .upstreamSync, none, none, draft.now⟩] := by
  unfold announced
  rw [loaded, if_pos differs.symm]

/-- A publication tells what it does to a set just if the snapshot has the status of the
set, or the status is not overridden and the loaded row is the old one. -/
theorem told_announced : Told set (refreshed set draft.snapshot) (announced mapper set draft) ↔
    (mapper.refreshes = true ∨ set.status ≠ set.sourceStatus → draft.snapshot.status = set.status) := by
  by_cases agrees : draft.snapshot.status = set.status
  · have stored : (refreshed set draft.snapshot).status = set.status := by simp [refreshed, agrees]
    have nothing : announced mapper set draft = [] := by
      unfold announced loadedRow
      split <;> simp [stored, agrees]
    rw [nothing]
    exact ⟨fun _ _ => agrees, fun _ => .silent stored⟩
  by_cases plain : set.status = set.sourceStatus
  · have stored : (refreshed set draft.snapshot).status = draft.snapshot.status := by
      simp [refreshed, plain]
    by_cases refreshes : mapper.refreshes = true
    · have nothing : announced mapper set draft = [] := by simp [announced, loadedRow, refreshes, stored]
      rw [nothing]
      constructor
      · intro told
        cases told with
        | silent same => exact absurd (stored.symm.trans same) agrees
      · exact fun condition => absurd (condition (.inl refreshes)) agrees
    · rw [announced_of_loaded (loadedRow_status fun both => refreshes both.1) agrees]
      constructor
      · exact fun _ either => absurd either (not_or.mpr ⟨refreshes, not_not.mpr plain⟩)
      · exact fun _ => .moved rfl stored.symm
  · have stored : (refreshed set draft.snapshot).status = set.status := by simp [refreshed, plain]
    rw [announced_of_loaded (loadedRow_status fun both => plain both.2) agrees]
    constructor
    · intro told
      cases told with
      | moved _ next => exact absurd (next.trans stored) agrees
    · exact fun condition => absurd (condition (.inr plain)) agrees

namespace Publication

section

variable (publication : Publication mapper draft before set rows middle placements after)
include publication

theorem eventsOf_self : after.eventsOf set.id = before.eventsOf set.id ++ announced mapper set draft := by
  unfold eventsOf
  rw [publication.events, filter_append]
  exact congrArg _ (filter_eq_self.mpr fun event member => decide_eq_true (announced_about member))

theorem eventsOf_other (different : setId ≠ set.id) : after.eventsOf setId = before.eventsOf setId := by
  unfold eventsOf
  rw [publication.events, filter_append]
  have none_ : (announced mapper set draft).filter (fun event =>
    decide (event.beatmapsetId = setId)) = [] := by
    rw [filter_eq_nil_iff]
    intro event member about
    exact different ((of_decide_eq_true about).symm.trans (announced_about member))
  exact (congrArg _ none_).trans (append_nil _)

theorem refreshed_mem : refreshed set draft.snapshot ∈ after.sets.rows := by
  rw [publication.sets]
  exact row_mem_replaced publication.set_mem_rows rfl

theorem other_mem (stored : other ∈ before.sets.rows) (different : other.id ≠ set.id) :
    other ∈ after.sets.rows := by
  rw [publication.sets]
  exact other_mem_replaced (publication.before_subset stored) different

theorem tells_iff : Tells before after ↔ ∀ set, before.findSet draft.key = some set →
    mapper.refreshes = true ∨ set.status ≠ set.sourceStatus → draft.snapshot.status = set.status := by
  constructor
  · intro tells found located
    cases publication.set_eq located
    obtain ⟨same, kept, id, told, events, tells⟩ := tells set (findSet_eq_some.mp located).1
    cases set_unique publication.refreshed_mem kept id
    rw [publication.eventsOf_self] at events
    rw [← append_cancel_left events] at tells
    exact told_announced.mp tells
  · intro agrees other stored
    by_cases same : other.id = set.id
    · cases inj_on_of_nodup_map publication.distinct (publication.before_subset stored)
        publication.set_mem_rows same
      exact ⟨_, publication.refreshed_mem, rfl, _, publication.eventsOf_self,
        told_announced.mpr (agrees set (findSet_eq_some.mpr ⟨stored, publication.set_key⟩))⟩
    · refine ⟨other, publication.other_mem stored same, rfl, [], ?_, .silent rfl⟩
      rw [append_nil]
      exact publication.eventsOf_other same

theorem eventsOf_inserted
    (logged : Logged before) (missing : before.findSet draft.key = none) : before.eventsOf set.id = [] := by
  unfold eventsOf
  rw [filter_eq_nil_iff]
  intro event member about
  obtain ⟨owner, stored, named⟩ := logged.owned event member
  have same := inj_on_of_nodup_map publication.distinct (publication.before_subset stored)
    publication.set_mem_rows (named.trans (of_decide_eq_true about))
  rw [same] at stored
  cases missing.symm.trans (findSet_eq_some.mpr ⟨stored, publication.set_key⟩)

/-- A publication that tells what it does keeps the log. -/
theorem logged (logged : Logged before) (tells : Tells before after) : Logged after := by
  constructor
  · intro event member
    rw [publication.events] at member
    obtain old | new := mem_append.mp member
    · obtain ⟨owner, stored, named⟩ := logged.owned event old
      obtain ⟨same, kept, id, _⟩ := tells owner stored
      exact ⟨same, kept, id.trans named⟩
    · exact ⟨_, publication.refreshed_mem, (announced_about new).symm⟩
  · intro other stored
    obtain rfl | ⟨earlier, different⟩ := publication.mem_sets stored
    · change Chained (after.eventsOf set.id) _
      rw [publication.eventsOf_self]
      cases publication.resolved with
      | found located =>
        have agrees := publication.tells_iff.mp tells set located
        exact (logged.chained set (findSet_eq_some.mp located).1).told (told_announced.mpr agrees)
      | inserted missing _ status _ =>
        rw [publication.eventsOf_inserted logged missing]
        exact (Chained.nil set.status).told (told_announced.mpr fun _ => status.symm)
    · rw [publication.eventsOf_other different]
      exact logged.chained other earlier

end

end Publication

end

section

variable {catalog later : Catalog}

theorem Tells.refl (catalog : Catalog) : Tells catalog catalog :=
  fun set stored => ⟨set, stored, rfl, [], (append_nil _).symm, .silent rfl⟩

theorem Transitioned.tells (moved : Transitioned catalog target later) : Tells catalog later := by
  cases moved with
  | idle => exact .refl catalog
  | @moved set event _ held about previous next sets events =>
    intro other stored
    have appended : ∀ setId, later.eventsOf setId = catalog.eventsOf setId ++
      [event].filter (·.beatmapsetId = setId) := by
      intro setId
      unfold eventsOf
      rw [events, filter_append]
    rw [sets]
    by_cases same : other.id = set.id
    · cases set_unique held stored same
      refine ⟨_, row_mem_replaced held rfl, rfl, [event], ?_, .moved previous next⟩
      rw [appended, filter_eq_self.mpr]
      intro only member
      rw [mem_singleton.mp member]
      exact decide_eq_true about
    · refine ⟨other, other_mem_replaced stored same, rfl, [], ?_, .silent rfl⟩
      rw [appended, filter_eq_nil_iff.mpr]
      intro only member
      rw [mem_singleton.mp member, about]
      exact fun here => same (of_decide_eq_true here).symm

theorem Transitioned.logged (moved : Transitioned catalog target later) (logged : Logged catalog) :
    Logged later := by
  have tells := moved.tells
  constructor
  · intro event member
    have known : event ∈ catalog.events ∨ ∃ set ∈ catalog.sets.rows, set.id = event.beatmapsetId := by
      cases moved with
      | idle => exact .inl member
      | @moved set _ _ held about _ _ _ events =>
        rw [events] at member
        obtain old | new := mem_append.mp member
        · exact .inl old
        · rw [mem_singleton.mp new]
          exact .inr ⟨set, held, about.symm⟩
    obtain ⟨owner, stored, named⟩ := known.elim (logged.owned event) id
    obtain ⟨same, kept, id, _⟩ := tells owner stored
    exact ⟨same, kept, id.trans named⟩
  · intro other stored
    obtain ⟨set, held, same⟩ := moved.earlier stored
    have identity : other.id = set.id := by rw [← same]
    obtain ⟨kept, member, id, told, events, tells⟩ := tells set held
    cases set_unique stored member (id.trans identity.symm)
    rw [identity, events]
    exact (logged.chained set held).told tells

/-- An overridden status cannot be reverted: what is unpacked is the name of the status. -/
theorem revertStatus_overridden {set : Beatmapset} (found : catalog.getStatusState externalId = some set)
    (positive : ¬ externalId < 1) (overridden : set.status ≠ set.sourceStatus) :
    catalog.revertStatus externalId = .error (.valueError "too many values to unpack (expected 2)") := by
  have passes : refuse (externalId < 1) (.contentInputRejected "beatmapset_id must be a positive integer") =
    (.ok () : Except Failure Unit) := refuse_eq_ok.mpr positive
  unfold revertStatus
  rw [passes, found]
  change (if set.status = set.sourceStatus then _ else _) = _
  rw [if_neg overridden, revertRow_eq]
  rfl

/-- A set is reverted just if there is nothing to revert. -/
theorem reverts_iff {set : Beatmapset} (found : catalog.getStatusState externalId = some set) :
    (∃ after, catalog.revertStatus externalId = .ok (set.sourceStatus, after) ∧
        ∃ same ∈ after.sets.rows, same.id = set.id ∧ same.status = set.sourceStatus) ↔
        set.status = set.sourceStatus := by
  obtain ⟨stored, named⟩ := of_getStatusState found
  have positive : ¬ externalId < 1 := by
    have checked := catalog.sets.passes_of_check (mem_cons_of_mem _ (mem_cons_of_mem _ mem_cons_self)) stored
    have above := of_decide_eq_true checked
    rw [named] at above
    exact Int.not_lt.mpr above
  constructor
  · rintro ⟨after, ran, _⟩
    by_contra overridden
    rw [revertStatus_overridden found positive overridden] at ran
    cases ran
  · intro plain
    refine ⟨catalog, ?_, set, stored, rfl, plain⟩
    have passes : refuse (externalId < 1) (.contentInputRejected "beatmapset_id must be a positive integer") =
      (.ok () : Except Failure Unit) := refuse_eq_ok.mpr positive
    unfold revertStatus
    rw [passes, found, ← plain]
    exact if_pos plain

end

section

variable {hashes : Hashes} {mapper : Mapper} {desk after : Desk} {label : Option Draft}

/-- A step tells what it does just if what it publishes agrees with what is stored. -/
theorem Step.tells_iff (step : Step mapper hashes allowed desk label after) :
    Tells desk.catalog after.catalog ↔ ∀ draft, label = some draft → Agrees mapper desk draft := by
  have silent : ∀ draft, none = some draft → Agrees mapper desk draft := fun draft missing =>
    (Option.some_ne_none draft missing.symm).elim
  cases step with
  | prepares => exact iff_of_true (.refl _) silent
  | aborts => exact iff_of_true (.refl _) silent
  | publishes _ _ published =>
    obtain ⟨set, rows, middle, placements, publication⟩ := publish_eq_ok published
    rw [publication.tells_iff]
    constructor
    · intro agrees draft same
      cases same
      exact agrees
    · exact fun agrees => agrees _ rfl
  | transitions _ moved => exact iff_of_true (transition_eq_ok moved).tells silent
  | reverts _ moved =>
    obtain ⟨rfl, _⟩ := revertStatus_eq_ok moved
    exact iff_of_true (.refl _) silent

theorem Step.logged (step : Step mapper hashes (Agrees mapper) desk label after)
    (logged : Logged desk.catalog) : Logged after.catalog := by
  cases step with
  | prepares => exact logged
  | aborts => exact logged
  | publishes _ permitted published =>
    obtain ⟨set, rows, middle, placements, publication⟩ := publish_eq_ok published
    exact publication.logged logged (publication.tells_iff.mpr permitted)
  | transitions _ moved => exact (transition_eq_ok moved).logged logged
  | reverts _ moved =>
    obtain ⟨rfl, _⟩ := revertStatus_eq_ok moved
    exact logged

theorem Runs.logged (run : Runs mapper hashes (Agrees mapper) desk) : Logged desk.catalog := by
  induction run with
  | start blank =>
    constructor
    · intro event member
      rw [blank.events] at member
      cases member
    · intro set member
      rw [blank.sets] at member
      cases member
  | step _ step logged => exact step.logged logged

/-- While every publication agrees with what is stored, the events of each set are a chain
up to its status. From such a desk, any step tells what it does just if it agrees; and a
set is reverted just if its status is not overridden. -/
theorem status_chained (mapper : Mapper) (hashes : Hashes) {desk : Desk}
    (run : Runs mapper hashes (Agrees mapper) desk) :
    (∀ set ∈ desk.catalog.sets.rows, Chained (desk.catalog.eventsOf set.id) set.status) ∧
    (∀ label after, Step mapper hashes (fun _ _ => True) desk label after →
      (Tells desk.catalog after.catalog ↔ ∀ draft, label = some draft → Agrees mapper desk draft)) ∧
    ∀ externalId set, desk.catalog.getStatusState externalId = some set →
      ((∃ after, desk.catalog.revertStatus externalId = .ok (set.sourceStatus, after) ∧
        ∃ same ∈ after.sets.rows, same.id = set.id ∧ same.status = set.sourceStatus) ↔
        set.status = set.sourceStatus) :=
  ⟨run.logged.chained, fun _ _ step => step.tells_iff, fun _ _ found => reverts_iff found⟩

end

section

variable {mapper : Mapper} {hashes : Hashes} {allowed : Desk → Draft → Prop} {desk : Desk}

def Desk.transition (externalId : Int) (target : BeatmapStatus) (source : StatusEventSource)
    (now : Int) (desk : Desk) : Desk :=
  match desk.catalog.transition 1 externalId target source none now with
  | .ok (_, after) => { desk with catalog := after }
  | .error _ => desk

theorem Runs.transitions (run : Runs mapper hashes allowed desk)
    (unlocked : desk.Unlocked externalId) (target : BeatmapStatus) (source : StatusEventSource)
    (now : Int) : Runs mapper hashes allowed (desk.transition externalId target source now) := by
  unfold Desk.transition
  split
  · next moved => exact .step run (.transitions unlocked moved)
  · exact run

/-- A set that the source has as pending is qualified by hand. -/
def qualifiedDesk (mapper : Mapper) : Desk :=
  (openedDesk.publish mapper (1, 7)).transition 7 .qualified .qualification 1

/-- The source tells the set again, with some status. -/
def retoldDesk (mapper : Mapper) (status : BeatmapStatus) : Desk :=
  ((qualifiedDesk mapper).prepare sampleHashes sampleUpstream sampleAsset
    (singleSnapshot 200 status) 2).publish mapper (1, 7)

theorem unlocked_of_all (free : (desk.catalog.getStatusState externalId).all
    (fun set => (desk.opened (set.sourceId, set.externalId)).isNone) = true) : desk.Unlocked externalId := by
  intro set found
  rw [found] at free
  exact Option.isNone_iff_eq_none.mp free

theorem qualifiedDesk_runs (allowed : Desk → Draft → Prop)
    (permitted : ∀ draft, openedDesk.opened (1, 7) = some draft → allowed openedDesk draft)
    (refreshes : Bool) : Runs ⟨refreshes⟩ sampleHashes allowed (qualifiedDesk ⟨refreshes⟩) := by
  apply ((openedDesk_runs ⟨refreshes⟩ allowed).publishes permitted).transitions
  apply unlocked_of_all
  cases refreshes <;> decide +kernel

/-- The desk of a run with an overridden set whose events do not end in its status, and
that cannot be reverted. -/
def Astray (mapper : Mapper) (desk : Desk) : Prop :=
  Runs mapper sampleHashes (fun _ _ => True) desk ∧ ∃ set ∈ desk.catalog.sets.rows,
    ¬ Chained (desk.catalog.eventsOf set.id) set.status ∧ set.status ≠ set.sourceStatus ∧
    desk.catalog.revertStatus set.externalId = .error (.valueError "too many values to unpack (expected 2)")

/-- A set that was qualified by hand is told again as pending: the log has an event for
it, while the set stays qualified. -/
theorem retoldDesk_astray (refreshes : Bool) : Astray ⟨refreshes⟩ (retoldDesk ⟨refreshes⟩ .pending) := by
  have run : Runs ⟨refreshes⟩ sampleHashes (fun _ _ => True) (retoldDesk ⟨refreshes⟩ .pending) :=
    ((qualifiedDesk_runs (fun _ _ => True) (fun _ _ => trivial) refreshes).prepares _ _ _
      _).publishes fun _ _ => trivial
  have state : ((retoldDesk ⟨refreshes⟩ .pending).catalog.getStatusState 7).any (fun set =>
      decide (set.status = .qualified ∧ set.sourceStatus = .pending) &&
      decide ((((retoldDesk ⟨refreshes⟩ .pending).catalog.eventsOf set.id).getLast?.map
        (·.status)) = some .pending)) = true := by
    cases refreshes <;> decide +kernel
  obtain ⟨set, found, both⟩ := (Option.any_eq_true _ _).mp state
  obtain ⟨statuses, told⟩ := Bool.and_eq_true _ _ ▸ both
  obtain ⟨status, source⟩ := of_decide_eq_true statuses
  have overridden : set.status ≠ set.sourceStatus := by
    rw [status, source]
    decide
  obtain ⟨stored, named⟩ := of_getStatusState found
  have reverts := revertStatus_overridden found (by decide) overridden
  refine ⟨run, set, stored, ?_, overridden, named.symm ▸ reverts⟩
  intro chained
  obtain ⟨event, last, pending⟩ := Option.map_eq_some_iff.mp (of_decide_eq_true told)
  have same := chained.last event last
  rw [pending, status] at same
  cases same

theorem retoldDesk_unchained :
    Astray ⟨true⟩ (retoldDesk ⟨true⟩ .pending) ∧ Astray ⟨false⟩ (retoldDesk ⟨false⟩ .pending) :=
  ⟨retoldDesk_astray true, retoldDesk_astray false⟩

theorem agrees_of_all (states : (desk.opened key).all (fun draft => (desk.catalog.findSet draft.key).all
    (fun set => decide (draft.snapshot.status = set.status))) = true) (draft : Draft)
    (running : desk.opened key = some draft) : Agrees mapper desk draft := by
  intro set found _
  rw [running, Option.all_some, found] at states
  exact of_decide_eq_true states

/-- Told again as qualified, it is in order. -/
theorem retoldDesk_chained :
    (retoldDesk ⟨true⟩ .qualified).catalog.events.map
      (fun event => (event.previousStatus, event.status)) = [(.pending, .qualified)] ∧
    ∀ set ∈ (retoldDesk ⟨true⟩ .qualified).catalog.sets.rows,
      Chained ((retoldDesk ⟨true⟩ .qualified).catalog.eventsOf set.id) set.status := by
  have first := qualifiedDesk_runs (Agrees ⟨true⟩) (agrees_of_all (by decide)) true
  have run : Runs ⟨true⟩ sampleHashes (Agrees ⟨true⟩) (retoldDesk ⟨true⟩ .qualified) :=
    (first.prepares _ _ _ _).publishes (agrees_of_all (by decide +kernel))
  exact ⟨by decide +kernel, (status_chained ⟨true⟩ sampleHashes run).1⟩

end

end Perfcho.Content
