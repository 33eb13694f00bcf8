import Perfcho.Multiplayer.Rebuilt
import Perfcho.Multiplayer.Transitions

/-! Where the slots of the next state come from. An edit keeps a slot, changes the one
of its account, seats somebody or leaves a slot empty; a committed command changes
slots that somebody occupies. -/

namespace Perfcho.Multiplayer

open Foundation Scoring
open RoomSlot (new_eq_ok vacant_of_locked)

variable {state : RoomState} {change : RoomSlot → Except Failure RoomSlot} {slots : List RoomSlot}
  {room : RoomRecord} {mutation : Mutation}

/-- What an edit makes of the slot of its account. -/
def Mutation.Alters (slot next : RoomSlot) : Mutation → Prop
  | .setSlotStatus account status =>
    slot.accountId = some account ∧ next.status = status ∧ next.team = slot.team ∧ next.mods = slot.mods
  | .setSlotTeam account team =>
    slot.accountId = some account ∧ next.status = slot.status ∧ next.team = team ∧ next.mods = slot.mods
  | .setSlotMods account mods =>
    slot.accountId = some account ∧ next.status = slot.status ∧ next.team = slot.team ∧ next.mods = mods
  | .markFailed account => slot.accountId = some account ∧ slot.status = .playing ∧
    next.status = .complete ∧ next.team = slot.team ∧ next.mods = slot.mods
  | .moveSlot account _ | .markLoaded account | .markSkipped account =>
    slot.accountId = some account ∧ next.status = slot.status ∧ next.team = slot.team ∧ next.mods = slot.mods
  | .join .. | .leave .. | .lockSlot .. => False

/-- A slot after an edit. -/
inductive Came (state : RoomState) (mutation : Mutation) (next : RoomSlot) : Prop where
  | kept (member : next ∈ state.slots)
  | altered {slot : RoomSlot} (member : slot ∈ state.slots) (same : next.accountId = slot.accountId)
      (alters : mutation.Alters slot next)
  | seated {record : RoomRecord} {account : Nat} {expiresAt : Datetime}
      (joins : mutation = .join record account expiresAt) (unseated : state.slotFor account = none)
      (named : next.accountId = some account) (status : next.status = .notReady)
      (team : next.team = 0) (bare : next.mods = [])
  | vacant (empty : next.accountId = none)
      (bare : next.mods = [] ∨ ∃ slot ∈ state.slots, slot.accountId = none ∧ next.mods = slot.mods)

/-- The edit that locks the slot at a position, or opens it again. -/
def Mutation.Toggles (position : Nat) : Mutation → Prop
  | .lockSlot _ target => target = position
  | _ => False

/-- What an edit leaves of a state. -/
structure Edited (mutation : Mutation) (state updated : RoomState) : Prop where
  room : updated.room = (mutation.record.map publicRoom).getD state.room
  round : updated.roundId = state.roundId
  frozen : updated.roundParticipantAccountIds = state.roundParticipantAccountIds
  came : ∀ next ∈ updated.slots, Came state mutation next
  locked : ∀ slot ∈ state.slots, slot.status = .locked → ¬ mutation.Toggles slot.position →
    slot ∈ updated.slots

theorem RoomState.slot_unique (state : RoomState) (member : slot ∈ state.slots)
    (other : slot' ∈ state.slots) (same : slot.position = slot'.position) : slot = slot' := by
  have distinct : (state.slots.map (·.position)).Nodup := by
    rw [state.ordered]
    exact List.nodup_range
  exact List.inj_on_of_nodup_map distinct member other same

theorem RoomState.slot_at (state : RoomState) {position : Int}
    (located : (if 0 ≤ position then state.slots[position.toNat]? else none) = some slot) :
    slot ∈ state.slots ∧ slot.position = position.toNat ∧ 0 ≤ position := by
  split at located
  · next positive =>
    refine ⟨List.mem_of_getElem? located, ?_, positive⟩
    have entry := congrArg (·[position.toNat]?) state.ordered
    simp only [List.getElem?_map, located, Option.map_some] at entry
    obtain ⟨_, same⟩ := List.getElem?_eq_some_iff.mp entry.symm
    simpa using same.symm
  · cases located

theorem mem_of_slotFor (found : state.slotFor account = some slot) :
    slot ∈ state.slots ∧ slot.accountId = some account :=
  ⟨List.mem_of_find?_eq_some found, by simpa using List.find?_some found⟩

theorem RoomState.seat_unique (state : RoomState) (member : slot ∈ state.slots)
    (named : slot.accountId = some account) (other : slot' ∈ state.slots)
    (named' : slot'.accountId = some account) : slot = slot' := by
  have distinct := state.distinct
  unfold accountsOf at distinct
  generalize state.slots = slots at member other distinct
  induction slots with
  | nil => cases member
  | cons head rest ih =>
    rw [List.filterMap_cons] at distinct
    have absent : ∀ later ∈ rest, later.accountId = some account → head.accountId ≠ some account := by
      intro later present named same
      rw [same] at distinct
      exact (List.nodup_cons.mp distinct).1 (List.mem_filterMap.mpr ⟨later, present, named⟩)
    have tail : (rest.filterMap (·.accountId)).Nodup := by
      split at distinct
      · exact distinct
      · exact (List.nodup_cons.mp distinct).2
    rcases List.mem_cons.mp member with first | later
    · rcases List.mem_cons.mp other with second | later'
      · rw [first, second]
      · exact absurd (first ▸ named) (absent _ later' named')
    · rcases List.mem_cons.mp other with second | later'
      · exact absurd (second ▸ named') (absent _ later named)
      · exact ih later later' tail

theorem mem_of_mapM (ran : slots.mapM change = .ok nexts) (member : slot ∈ slots)
    (alone : change slot = .ok slot) : slot ∈ nexts := by
  obtain ⟨next, present, changed⟩ := exists_related (mapM_eq_ok ran) member
  rw [alone] at changed
  cases changed
  exact present

theorem edited_of_replaced (built : state.replaced room revision slots expiresAt = .ok updated)
    (shown : room = (mutation.record.map publicRoom).getD state.room)
    (came : ∀ next ∈ slots, Came state mutation next)
    (locked : ∀ slot ∈ state.slots, slot.status = .locked → ¬ mutation.Toggles slot.position →
      slot ∈ slots) : Edited mutation state updated := by
  obtain ⟨room, _, rfl, _, round, frozen⟩ := RoomState.replaced_eq_ok built
  exact ⟨room.trans shown, round, frozen, came, locked⟩

theorem join_edited (ran : join ttl now record account expiresAt state = .ok updated) :
    Edited (.join record account expiresAt) state updated := by
  unfold join at ran
  split at ran
  · exact edited_of_replaced ran rfl (fun _ member => .kept member) fun _ member _ _ => member
  next unseated =>
  split at ran
  · cases ran
  next target found =>
  obtain ⟨slots, changed, ran⟩ := of_bind_eq_ok ran
  apply edited_of_replaced ran rfl
  · intro next member
    obtain ⟨slot, present, changes⟩ := exists_of_related (mapM_eq_ok changed) member
    split at changes
    · obtain ⟨_, status, named, team, bare⟩ := new_eq_ok changes
      exact .seated rfl unseated named status team bare
    · cases changes
      exact .kept present
  · intro slot member locked _
    apply mem_of_mapM changed member
    -- The account is seated in an open slot.
    rw [if_neg]
    intro same
    have target_open : target.status = .open := by simpa using List.find?_some found
    have taken := state.slot_unique member (List.mem_of_find?_eq_some found) same
    rw [taken, target_open] at locked
    cases locked

theorem leave_edited (ran : leave account record state = .ok updated) :
    Edited (.leave account record) state updated := by
  unfold leave at ran
  split at ran
  · exact edited_of_replaced ran rfl (fun _ member => .kept member) fun _ member _ _ => member
  obtain ⟨slots, changed, ran⟩ := of_bind_eq_ok ran
  apply edited_of_replaced ran rfl
  · intro next member
    obtain ⟨slot, present, changes⟩ := exists_of_related (mapM_eq_ok changed) member
    unfold vacated at changes
    split at changes
    · obtain ⟨_, _, empty, _, bare⟩ := new_eq_ok changes
      exact .vacant empty (.inl bare)
    · cases changes
      exact .kept present
  · intro slot member locked _
    apply mem_of_mapM changed member
    rw [vacated, if_neg (by simp [vacant_of_locked locked])]

theorem moveSlot_edited (ran : moveSlot account targetPosition state = .ok updated) :
    Edited (.moveSlot account targetPosition) state updated := by
  unfold moveSlot at ran
  split at ran
  · cases ran
  next source found =>
  obtain ⟨present, named⟩ := mem_of_slotFor found
  split at ran
  · cases ran
  next target located =>
  split at ran
  · cases ran
  next opened =>
  obtain ⟨slots, changed, ran⟩ := of_bind_eq_ok ran
  apply edited_of_replaced ran rfl
  · intro next member
    obtain ⟨slot, old, changes⟩ :=
      exists_of_related (mapM_eq_ok changed) ((List.mergeSort_perm _ _).mem_iff.mp member)
    split at changes
    · obtain ⟨_, status, same, kept⟩ := new_eq_ok changes
      exact .altered present same ⟨named, status, kept⟩
    split at changes
    · obtain ⟨_, _, empty, _, bare⟩ := new_eq_ok changes
      exact .vacant empty (.inl bare)
    · cases changes
      exact .kept old
  · intro slot member locked _
    apply (List.mergeSort_perm _ _).mem_iff.mpr
    apply mem_of_mapM changed member
    have away : slot.position ≠ targetPosition.toNat := by
      intro same
      obtain ⟨there, position, _⟩ := state.slot_at located
      have taken := state.slot_unique member there (same.trans position.symm)
      rw [taken] at locked
      exact opened (by simp [locked])
    have other : slot.position ≠ source.position := by
      intro same
      have taken := state.slot_unique member present same
      rw [taken] at locked
      simp [vacant_of_locked locked] at named
    rw [if_neg away, if_neg other]

theorem lockSlot_edited (ran : lockSlot actor position state = .ok updated) :
    Edited (.lockSlot actor position) state updated := by
  unfold lockSlot at ran
  split at ran
  · cases ran
  split at ran
  · cases ran
  next slot located =>
  obtain ⟨stored, _, positive⟩ := state.slot_at located
  split at ran
  · cases ran
  next empty =>
  obtain ⟨toggled, toggles, ran⟩ := of_bind_eq_ok ran
  apply edited_of_replaced ran rfl
  · intro next member
    obtain ⟨old, present, rfl⟩ := List.mem_map.mp member
    split
    · have vacant : slot.accountId = none := by simpa using empty
      obtain ⟨_, _, same, _, mods⟩ := new_eq_ok toggles
      exact .vacant (same.trans vacant) (.inr ⟨slot, stored, vacant, mods⟩)
    · exact .kept present
  · intro other member _ elsewhere
    refine List.mem_map.mpr ⟨other, member, if_neg ?_⟩
    intro same
    apply elsewhere
    rw [Mutation.Toggles, same, Int.toNat_of_nonneg positive]

theorem updateSlot_edited (ran : updateSlot account update state = .ok updated)
    (recordless : mutation.record = none)
    (alters : ∀ slot next, slot.accountId = some account → update slot = .ok next →
      next.accountId = slot.accountId ∧ mutation.Alters slot next) : Edited mutation state updated := by
  unfold updateSlot at ran
  split at ran
  · cases ran
  next current found =>
  obtain ⟨present, named⟩ := mem_of_slotFor found
  obtain ⟨replacement, updates, ran⟩ := of_bind_eq_ok ran
  obtain ⟨same, altered⟩ := alters current replacement named updates
  apply edited_of_replaced ran (by rw [recordless]; rfl)
  · intro next member
    obtain ⟨old, there, rfl⟩ := List.mem_map.mp member
    split
    · exact .altered present same altered
    · exact .kept there
  · intro slot member locked _
    refine List.mem_map.mpr ⟨slot, member, if_neg ?_⟩
    intro position
    have taken := state.slot_unique member present position
    rw [taken] at locked
    simp [vacant_of_locked locked] at named

theorem whilePlaying_eq_ok (ran : whilePlaying update slot = .ok next) :
    slot.status = .playing ∧ update slot = .ok next := by
  unfold whilePlaying at ran
  split at ran
  · next playing => exact ⟨playing, ran⟩
  · cases ran

/-- Every edit, slot by slot. -/
theorem Mutation.apply_edited (built : mutation.apply ttl now state = .ok updated) :
    Edited mutation state updated := by
  cases mutation with
  | join => exact join_edited built
  | leave => exact leave_edited built
  | moveSlot => exact moveSlot_edited built
  | lockSlot => exact lockSlot_edited built
  | setSlotStatus | setSlotTeam | setSlotMods =>
    apply updateSlot_edited built rfl
    intro slot next named updates
    obtain ⟨_, status, same, kept⟩ := new_eq_ok updates
    exact ⟨same, named, status, kept⟩
  | markLoaded | markSkipped | markFailed =>
    apply updateSlot_edited built rfl
    intro slot next named updates
    obtain ⟨playing, updates⟩ := whilePlaying_eq_ok updates
    obtain ⟨_, status, same, kept⟩ := new_eq_ok updates
    first
    | exact ⟨same, named, status, kept⟩
    | exact ⟨same, named, playing, status, kept⟩

section

/-- The slots after a command that was committed: those that nobody occupies are as
before, and the others keep their account. -/
structure Turned (turn : RoomSlot → RoomSlot → Prop) (slots nexts : List RoomSlot) : Prop where
  came : ∀ next ∈ nexts, next.accountId = none ∧ next ∈ slots ∨
    ∃ slot ∈ slots, slot.accountId.isSome ∧ next.accountId = slot.accountId ∧ turn slot next
  keeps : ∀ slot ∈ slots, slot.accountId = none → slot ∈ nexts

variable {turn : RoomSlot → RoomSlot → Prop} {slots nexts : List RoomSlot}

theorem turned_of_mapM (ran : slots.mapM change = .ok nexts)
    (empty : ∀ slot, slot.accountId = none → change slot = .ok slot)
    (turns : ∀ slot next, slot.accountId.isSome → change slot = .ok next →
      next.accountId = slot.accountId ∧ turn slot next) : Turned turn slots nexts := by
  constructor
  · intro next member
    obtain ⟨slot, present, changes⟩ := exists_of_related (mapM_eq_ok ran) member
    by_cases vacant : slot.accountId = none
    · rw [empty slot vacant] at changes
      cases changes
      exact .inl ⟨vacant, present⟩
    · have occupied := Option.isSome_iff_ne_none.mpr vacant
      exact .inr ⟨slot, present, occupied, turns slot next occupied changes⟩
  · exact fun slot member vacant => mem_of_mapM ran member (empty slot vacant)

theorem mapOccupied_turned (ran : mapOccupied change slots = .ok nexts)
    (turns : ∀ slot next, change slot = .ok next → next.accountId = slot.accountId ∧
      turn slot next) : Turned turn slots nexts := by
  apply turned_of_mapM ran
  · intro slot vacant
    rw [if_neg (by simp [vacant])]
  · intro slot next occupied changes
    rw [if_pos occupied] at changes
    exact turns slot next changes

theorem Turned.refl (turns : ∀ slot, turn slot slot) : Turned turn slots slots := by
  refine ⟨fun next member => ?_, fun _ member _ => member⟩
  by_cases vacant : next.accountId = none
  · exact .inl ⟨vacant, member⟩
  · exact .inr ⟨next, member, Option.isSome_iff_ne_none.mpr vacant, rfl, turns next⟩

theorem Turned.imp (turned : Turned turn slots nexts)
    (weaker : ∀ slot next, turn slot next → later slot next) : Turned later slots nexts :=
  ⟨fun next member => (turned.came next member).imp_right fun ⟨slot, there, occupied, same, turns⟩ =>
    ⟨slot, there, occupied, same, weaker slot next turns⟩, turned.keeps⟩

theorem Turned.trans (first : Turned turn slots nexts) (second : Turned later nexts finals)
    (composes : ∀ slot next final, turn slot next → later next final → whole slot final) :
    Turned whole slots finals := by
  constructor
  · intro final member
    rcases second.came final member with ⟨vacant, present⟩ | ⟨next, present, occupied, same, turned⟩
    · rcases first.came final present with stays | ⟨slot, _, taken, same, _⟩
      · exact .inl stays
      · rw [← same, vacant] at taken
        cases taken
    rcases first.came next present with ⟨vacant, _⟩ | ⟨slot, there, taken, same', turned'⟩
    · rw [vacant] at occupied
      cases occupied
    · exact .inr ⟨slot, there, taken, same.trans same', composes slot next final turned' turned⟩
  · intro slot member vacant
    exact second.keeps slot (first.keeps slot member vacant) vacant

/-- The modes in which results are counted by team. -/
def RoomSettings.teams (settings : RoomSettings) : Prop :=
  settings.teamMode = .teamVs ∨ settings.teamMode = .tagTeamVs

theorem defaultTeam_ne_zero (teams : room.settings.teams) : defaultTeam room ≠ 0 := by
  unfold RoomSettings.teams at teams
  rw [defaultTeam, if_pos teams]
  decide

/-- The team of a slot under new settings: it stays, or it is the first of the new mode. -/
def Regrouped (current settings : RoomSettings) (slot next : RoomSlot) : Prop :=
  settings.teamMode = current.teamMode ∧ next.team = slot.team ∨ (settings.teams → next.team ≠ 0)

/-- The mods of a slot under new settings: they stay if free mods do. They are taken from
the room when free mods are turned on, and given up when they are turned off. -/
def Remodded (current settings : RoomSettings) (slot next : RoomSlot) : Prop :=
  settings.freeMods = current.freeMods ∧ next.mods = slot.mods ∨
  current.freeMods = false ∧ settings.freeMods = true ∧ next.mods = current.mods.filter (!isSpeedMod ·) ∨
  current.freeMods = true ∧ settings.freeMods = false ∧ next.mods = []

theorem settingsTransition_mods
    (ran : settingsTransition normalizeMods state requested = .ok (settings, nexts)) :
    ∃ ruleset variant asked mods, normalizeMods ruleset variant asked = .ok mods ∧
    ∀ item ∈ settings.mods, item ∈ mods := by
  obtain ⟨normalized, checked, ran⟩ := of_bind_eq_ok ran
  obtain ⟨mods, normal, made⟩ := of_bind_eq_ok checked
  cases made
  obtain ⟨grouped, _, ran⟩ := of_ite_bind_eq_ok ran
  split at ran
  · obtain ⟨_, _, ran⟩ := of_bind_eq_ok ran
    cases ran
    exact ⟨_, _, _, mods, of_mapError_eq_ok normal, fun item member => (List.mem_filter.mp member).1⟩
  split at ran
  · obtain ⟨merged, normal, _, _, ran⟩ := of_bind_bind_eq_ok ran
    cases ran
    exact ⟨_, _, _, merged, of_mapError_eq_ok normal, fun _ member => member⟩
  · cases ran
    exact ⟨_, _, _, mods, of_mapError_eq_ok normal, fun _ member => member⟩

/-- Everything that new settings do to the slots, and to the mods of the room when free
mods are turned on. -/
theorem settingsTransition_eq_ok
    (ran : settingsTransition normalizeMods state requested = .ok (settings, nexts)) :
    Turned (fun slot next => Regrouped state.room.settings settings slot next ∧
      Remodded state.room.settings settings slot next) state.slots nexts ∧
    (state.room.settings.freeMods = false → settings.freeMods = true → ∀ item ∈ settings.mods,
      isSpeedMod item = true) := by
  obtain ⟨normalized, _, ran⟩ := of_bind_eq_ok ran
  obtain ⟨grouped, groups, ran⟩ := of_ite_bind_eq_ok ran
  have first : Turned (fun slot next => Regrouped state.room.settings normalized slot next ∧
    next.mods = slot.mods) state.slots grouped := by
    split at groups
    · apply mapOccupied_turned groups
      intro slot next updates
      obtain ⟨_, _, same, team, mods⟩ := new_eq_ok updates
      refine ⟨same, .inr fun teams => ?_, mods⟩
      rw [team]
      exact defaultTeam_ne_zero teams
    · next same =>
      cases groups
      exact .refl fun slot => ⟨.inl ⟨(not_not.mp same).symm, rfl⟩, rfl⟩
  have modded : ∀ {mods : List CanonicalMod} {final : List RoomSlot} {stored : RoomSettings},
    mapOccupied (RoomSlot.withMods mods) grouped = .ok final → stored.teamMode = normalized.teamMode →
    (∀ slot next : RoomSlot, next.mods = mods → Remodded state.room.settings stored slot next) →
    Turned (fun slot next => Regrouped state.room.settings stored slot next ∧
      Remodded state.room.settings stored slot next) state.slots final := by
    intro mods final stored changed mode remodded
    have second : Turned (fun slot next => next.team = slot.team ∧ next.mods = mods) grouped final := by
      apply mapOccupied_turned changed
      intro slot next updates
      obtain ⟨_, _, same, kept⟩ := new_eq_ok updates
      exact ⟨same, kept⟩
    apply first.trans second
    rintro slot next final ⟨⟨same, kept⟩ | chosen, _⟩ ⟨team, mods⟩
    · exact ⟨.inl ⟨mode.trans same, team.trans kept⟩, remodded slot final mods⟩
    · refine ⟨.inr fun teams => ?_, remodded slot final mods⟩
      rw [team]
      apply chosen
      rwa [RoomSettings.teams, ← mode]
  split at ran
  · next turnsOn =>
    obtain ⟨off, on⟩ : state.room.settings.freeMods = false ∧
      normalized.freeMods = true := by simpa using turnsOn
    obtain ⟨final, changed, ran⟩ := of_bind_eq_ok ran
    cases ran
    refine ⟨modded changed rfl fun _ _ mods => .inr (.inl ⟨off, on, mods⟩), fun _ _ item member => ?_⟩
    exact (List.mem_filter.mp member).2
  next staysOff =>
  split at ran
  · next turnsOff =>
    obtain ⟨on, off⟩ : state.room.settings.freeMods = true ∧
      normalized.freeMods = false := by simpa using turnsOff
    obtain ⟨_, _, final, changed, ran⟩ := of_bind_bind_eq_ok ran
    cases ran
    refine ⟨modded changed rfl fun _ _ mods => .inr (.inr ⟨on, off, mods⟩), fun off => ?_⟩
    rw [on] at off
    cases off
  · next staysOn =>
    cases ran
    have same : settings.freeMods = state.room.settings.freeMods := by
      cases current : state.room.settings.freeMods <;> cases later : settings.freeMods <;> simp_all
    refine ⟨?_, fun off on => ?_⟩
    · exact first.trans (.refl fun _ => rfl) fun slot next final turned eq =>
        eq ▸ ⟨turned.1, .inl ⟨same, turned.2⟩⟩
    · rw [same, off] at on
      cases on

theorem settingsUpdated_eq_ok (built : settingsUpdated state record expiresAt slots = .ok next) :
    next.room = record ∧ next.roundId = none ∧ next.roundParticipantAccountIds = [] ∧
      Turned (fun slot turned => turned.status = .notReady ∧ turned.team = slot.team ∧
        turned.mods = slot.mods) slots next.slots := by
  obtain ⟨restarted, restarts, built⟩ := of_bind_eq_ok built
  obtain ⟨room, _, rfl, _, _, round, frozen, _⟩ := RoomState.new_eq_ok built
  refine ⟨room, round, frozen, mapOccupied_turned restarts ?_⟩
  intro slot turned updates
  obtain ⟨_, status, same, kept⟩ := new_eq_ok updates
  exact ⟨same, status, kept⟩

theorem recordChanged_eq_ok (built : recordChanged state record = .ok next) :
    next.room = record ∧ next.roundId = state.roundId ∧
      next.roundParticipantAccountIds = state.roundParticipantAccountIds ∧ next.slots = state.slots := by
  obtain ⟨room, _, slots, _, round, frozen⟩ := RoomState.replaced_eq_ok built
  exact ⟨room, round, frozen, slots⟩

theorem selection_eq_ok (built : RoundParticipantSelection.new account position team mods = .ok selection) :
    selection.accountId = account ∧ selection.slotPosition = position ∧ selection.team = team ∧
    selection.mods = mods := by
  unfold RoundParticipantSelection.new at built
  iterate 3
    split at built
    case isFalse => cases built
  cases built
  exact ⟨rfl, rfl, rfl, rfl⟩

theorem mem_selections (ran : selections state = .ok participants) (member : participant ∈ participants) :
    ∃ slot ∈ state.slots, plays slot = true ∧ slot.accountId = some participant.accountId ∧
      participant.slotPosition = slot.position ∧ participant.team = slot.team ∧
      participant.mods = slot.mods := by
  obtain ⟨slot, listed, built⟩ := exists_of_related (mapM_eq_ok ran) member
  obtain ⟨present, playing⟩ := List.mem_filter.mp listed
  obtain ⟨account, kept⟩ := selection_eq_ok built
  refine ⟨slot, present, playing, ?_, kept⟩
  cases named : slot.accountId with
  | none => simp [plays, named] at playing
  | some other => rw [account, named, Option.getD_some]

/-- A round that starts is played by everybody who has the beatmap. -/
theorem roundStarted_eq_ok (built : roundStarted state record roundId participants = .ok next) :
    next.room = record ∧ (next.roundId = roundId ∧ roundId.isSome) ∧
      next.roundParticipantAccountIds = participants.map (·.accountId) ∧
      Turned (fun slot turned => turned.team = slot.team ∧ turned.mods = slot.mods ∧
        (plays slot = true ∧ turned.status = .playing ∨ plays slot = false ∧ turned = slot))
        state.slots next.slots := by
  obtain ⟨started, starts, built⟩ := of_bind_eq_ok built
  obtain ⟨room, _, rfl, progress, _, round, frozen, _⟩ := RoomState.new_eq_ok built
  have active : roundId.isSome := by rw [← round, ← next.progress, progress]
  refine ⟨room, ⟨round, active⟩, frozen, turned_of_mapM starts ?_ ?_⟩
  · intro slot vacant
    rw [if_neg (by simp [plays, vacant])]
  intro slot turned _ updates
  split at updates
  · next playing =>
    obtain ⟨_, status, same, team, mods⟩ := new_eq_ok updates
    exact ⟨same, team, mods, .inl ⟨playing, status⟩⟩
  · next away =>
    cases updates
    exact ⟨rfl, rfl, rfl, .inr ⟨Bool.eq_false_iff.mpr away, rfl⟩⟩

theorem roundStarted_plays (built : roundStarted state record roundId participants = .ok next)
    (member : slot ∈ state.slots) (playing : plays slot = true) :
      ∃ turned ∈ next.slots, turned.position = slot.position ∧ turned.status = .playing ∧
      turned.accountId = slot.accountId ∧ turned.team = slot.team ∧ turned.mods = slot.mods := by
  obtain ⟨started, starts, built⟩ := of_bind_eq_ok built
  obtain ⟨_, _, rfl, _⟩ := RoomState.new_eq_ok built
  obtain ⟨turned, there, updates⟩ := exists_related (mapM_eq_ok starts) member
  rw [if_pos playing] at updates
  obtain ⟨position, status, account, kept⟩ := new_eq_ok updates
  exact ⟨turned, there, position, status, account, kept⟩

theorem roundStarted_accounts (built : roundStarted state record roundId participants = .ok next) :
    accountsOf next.slots = accountsOf state.slots := by
  obtain ⟨started, starts, built⟩ := of_bind_eq_ok built
  obtain ⟨_, _, rfl, _⟩ := RoomState.new_eq_ok built
  have same : state.slots.map (·.accountId) = next.slots.map (·.accountId) := by
    apply map_eq_of_related ((mapM_eq_ok starts).imp _)
    intro slot turned updates
    split at updates
    · exact (new_eq_ok updates).2.2.1.symm
    · cases updates
      rfl
  simpa [accountsOf, List.filterMap_map] using (congrArg (List.filterMap id) same).symm

theorem selections_complete (ran : selections state = .ok participants) (member : slot ∈ state.slots)
    (playing : plays slot = true) :
      ∃ participant ∈ participants, slot.accountId = some participant.accountId ∧
      participant.slotPosition = slot.position ∧ participant.team = slot.team ∧
      participant.mods = slot.mods := by
  obtain ⟨participant, chosen, built⟩ :=
    exists_related (mapM_eq_ok ran) (List.mem_filter.mpr ⟨member, playing⟩)
  obtain ⟨account, kept⟩ := selection_eq_ok built
  refine ⟨participant, chosen, ?_, kept⟩
  cases named : slot.accountId with
  | none => simp [plays, named] at playing
  | some other => rw [account, named, Option.getD_some]

/-- After a round its participants are not ready, and the others are as before. -/
theorem roundCompleted_eq_ok (built : roundCompleted state record = .ok next) :
    next.room = record ∧ next.roundId = none ∧ next.roundParticipantAccountIds = [] ∧
      Turned (fun slot turned => turned.team = slot.team ∧ turned.mods = slot.mods ∧
        (turned.status = .notReady ∨ turned = slot ∧ ∀ account, slot.accountId = some account →
          account ∉ state.roundParticipantAccountIds)) state.slots next.slots := by
  obtain ⟨rested, rests, built⟩ := of_bind_eq_ok built
  obtain ⟨room, _, rfl, _, _, round, frozen, _⟩ := RoomState.new_eq_ok built
  refine ⟨room, round, frozen, turned_of_mapM rests ?_ ?_⟩
  · intro slot vacant
    rw [if_neg (by simp [vacant])]
  intro slot turned _ updates
  split at updates
  · obtain ⟨_, status, same, team, mods⟩ := new_eq_ok updates
    exact ⟨same, team, mods, .inl status⟩
  · next away =>
    cases updates
    refine ⟨rfl, rfl, rfl, .inr ⟨rfl, ?_⟩⟩
    intro account named
    simpa [named] using away

end

end Perfcho.Multiplayer
