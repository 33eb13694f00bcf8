import Perfcho.Service.Laws

/-! Free mods. While they are on, the room has speed mods only and nobody has one of
those; while they are off, nobody has mods of its own. This holds as long as nobody gives
a room with free mods other mods, which only the change to free mods takes away. -/

namespace Perfcho.Service

open Foundation Scoring Multiplayer Durable Redis

variable {Blob : Type} (service : MultiplayerService Blob)

/-- With free mods the room has speed mods only. -/
def SpeedOnly (settings : RoomSettings) : Prop :=
  settings.freeMods = true → ∀ item ∈ settings.mods, isSpeedMod item = true

/-- The mods of a slot go with the settings of its room, and a slot that nobody occupies
has none. -/
structure Personal (settings : RoomSettings) (slot : RoomSlot) : Prop where
  vacant : slot.accountId = none → slot.mods = []
  off : settings.freeMods = false → slot.mods = []
  slow : ∀ item ∈ slot.mods, isSpeedMod item = false

/-- The mods of a participant are those of the room or personal ones. -/
def modLaw : Law where
  settings := SpeedOnly
  state state := ∀ slot ∈ state.slots, Personal state.room.settings slot
  row settings row := ∀ item ∈ row.mods, item ∈ settings.mods ∨ isSpeedMod item = false

/-- An edit that leaves the slots with the settings they go with. -/
def KeepsMods (state : RoomState) : Mutation → Prop
  | .join record _ _ | .leave _ record => record.settings.freeMods = state.room.settings.freeMods
  | _ => True

/-- The calls that keep room mods and personal mods apart: a room that has free mods is
given speed mods only, and no stored state gets free mods or loses them without its
slots. -/
def SparesMods (world : World Blob) : Call → Prop
  | .commit _ (.create request) => SpeedOnly request.settings
  | .commit _ (.updateSettings commandId _ publicId _ settings) =>
    world.tables.commandApplied commandId = false ∧
      ∀ room session, (room, session) ∈ world.tables.activeRooms → room.publicId = publicId →
        room.settings.freeMods = true → SpeedOnly settings
  | .state task => ∀ room mutation state, task.target = some room → task.mutation = some mutation →
      Holds service.repo room world.store state → KeepsMods state mutation
  | .repair updated stale => updated.room.sessionId = stale.room.sessionId → updated.roundId = stale.roundId →
      updated.room.settings.freeMods = stale.room.settings.freeMods
  | _ => True

variable {service} {world : World Blob} {state updated : RoomState}

theorem Personal.bare (bare : slot.mods = []) : Personal settings slot :=
  ⟨fun _ => bare, fun _ => bare, by simp [bare]⟩

theorem Personal.of_mods (personal : Personal current old)
    (switch : settings.freeMods = current.freeMods) (same : slot.accountId = old.accountId)
    (mods : slot.mods = old.mods) : Personal settings slot := by
  constructor
  · exact fun vacant => mods.trans (personal.vacant (same ▸ vacant))
  · exact fun off => mods.trans (personal.off (switch ▸ off))
  · exact mods ▸ personal.slow

section

variable {tables : Tables}

theorem mem_personalMods (member : item ∈ personalMods room frozen) :
    item ∈ frozen ∧ item ∉ room.settings.mods := by
  unfold personalMods at member
  split at member
  · obtain ⟨there, other⟩ := List.mem_filter.mp member
    refine ⟨there, fun inside => ?_⟩
    exact of_decide_eq_true other (List.mem_map.mpr ⟨item, inside, rfl⟩)
  · cases member

theorem Rebuilt.personal (rebuilt : Rebuilt snapshot state) (current : Current tables snapshot)
    (paced : Paced tables) (rows : RowsFit modLaw.row tables) :
    ∀ slot ∈ state.slots, Personal state.room.settings slot := by
  refine Rebuilt.each rebuilt current paced rows ?_ ?_ ?_
  · exact fun slot _ bare => .bare bare
  · exact fun slot _ bare => .bare bare
  intro slot row fits occupied _ mods
  rw [rebuilt.room]
  constructor
  · intro vacant
    simp [vacant] at occupied
  · intro off
    rw [mods, personalMods, if_neg (by simp [off])]
  · intro item inside
    obtain ⟨frozen, other⟩ := mem_personalMods (mods ▸ inside)
    exact (fits item frozen).resolve_left other

theorem Retained.personal (retained : Retained state snapshot updated)
    (personal : ∀ slot ∈ state.slots, Personal state.room.settings slot)
    (switch : updated.room.settings.freeMods = state.room.settings.freeMods) :
    ∀ slot ∈ updated.slots, Personal updated.room.settings slot := by
  intro slot member
  cases retained.laid slot member with
  | kept member => exact (personal slot (List.mem_filter.mp member).1).of_mods switch rfl rfl
  | seat _ _ _ _ _ bare | vacant _ bare => exact .bare bare

end

theorem Edited.personal (edited : Edited mutation state updated) (asked : Asked service state mutation)
    (personal : ∀ slot ∈ state.slots, Personal state.room.settings slot) (keeps : KeepsMods state mutation) :
    ∀ slot ∈ updated.slots, Personal updated.room.settings slot := by
  have switch : updated.room.settings.freeMods = state.room.settings.freeMods := by
    rw [edited.room]
    cases mutation with
    | join | leave => exact keeps
    | _ => rfl
  intro slot member
  cases edited.came slot member with
  | kept member => exact (personal slot member).of_mods switch rfl rfl
  | seated _ _ _ _ _ bare => exact .bare bare
  | vacant empty bare =>
    rcases bare with bare | ⟨old, there, none, same⟩
    · exact .bare bare
    · exact (personal old there).of_mods switch (empty.trans none.symm) same
  | altered member same alters =>
    have before := personal _ member
    cases mutation with
    | setSlotMods account mods =>
      obtain ⟨named, _, _, chosen⟩ := alters
      constructor
      · intro vacant
        rw [same, named] at vacant
        cases vacant
      · intro off
        rw [switch, asked.1] at off
        cases off
      · rw [chosen]
        simpa using asked.2.2.1
    | setSlotStatus | setSlotTeam | moveSlot | markLoaded | markSkipped =>
      exact before.of_mods switch same alters.2.2.2
    | markFailed => exact before.of_mods switch same alters.2.2.2.2
    | join | leave | lockSlot => exact alters.elim

theorem Transit.personal {record : RoomRecord} (transit : Transit service state record active command next)
    (personal : ∀ slot ∈ state.slots, Personal state.room.settings slot)
    (settled : record.settings = command.settle state.room.settings) :
    ∀ slot ∈ next.slots, Personal next.room.settings slot := by
  rw [transit.room, settled]
  intro next member
  rcases transit.turned.came next member with ⟨vacant, there⟩ | ⟨slot, there, occupied, same, _, remodded⟩
  · exact .bare ((personal next there).vacant vacant)
  rcases remodded with ⟨switch, mods⟩ | ⟨_, on, mods⟩ | ⟨_, _, mods⟩
  · exact (personal slot there).of_mods switch same mods
  · constructor
    · intro vacant
      simp [← same, vacant] at occupied
    · intro off
      cases on.symm.trans off
    · intro item member
      rw [mods] at member
      simpa using (List.mem_filter.mp member).2
  · exact .bare mods

theorem modLaw_keeps : modLaw.Keeps service (SparesMods service) where
  alike same personal := by
    change ∀ slot ∈ _, Personal _ slot
    rw [same.slots, same.settings]
    exact personal
  opens allowed _ := allowed
  settles := by
    intro world moment commandId actor version settings requested room session state slots allowed
      found same checked speed free
    by_cases before : room.settings.freeMods = true
    · exact allowed.2 room session found rfl before free
    · exact (settingsTransition_eq_ok checked).2 (by rw [same]; simpa using before) free
  rebuilt facts current paced rows := Rebuilt.personal facts current paced rows
  retained allowed current session _ retained personal :=
    Retained.personal retained personal (allowed (by rw [retained.room, session]) retained.round)
  edited allowed edits target holds asked edited personal :=
    Edited.personal edited asked personal (allowed _ _ _ target edits holds)
  transit allowed transit settled _ personal := by
    apply transit.personal personal
    apply settled.fresh
    rintro _ _ _ _ _ rfl
    exact allowed.1
  freezes := by
    intro state participants participant roundId row _ personal selected member frozen item inside
    obtain ⟨slot, there, _, _, _, _, mods⟩ := mem_selections selected member
    have merged := (mem_canonicalModsDetails frozen.mods).mp inside
    unfold participantMods at merged
    split at merged
    · rcases List.mem_append.mp (mem_of_mem_mergeMods merged) with room | own
      · exact .inl room
      · exact .inr ((personal slot there).slow item (mods ▸ own))
    · exact .inl merged

/-- In a run that gives a room with free mods speed mods only, the mods of a stored room
and those of its slots are kept apart. -/
theorem mods_apart (runs : Runs service (SparesMods service) (fun _ _ => True) (.empty clock) world)
    (room : Nat) (state : RoomState) (holds : Holds service.repo room world.store state) :
    (state.room.settings.freeMods = false → ∀ slot ∈ state.slots, slot.mods = []) ∧
    (state.room.settings.freeMods = true → (∀ item ∈ state.room.settings.mods, isSpeedMod item = true) ∧
      ∀ slot ∈ state.slots, ∀ item ∈ slot.mods, isSpeedMod item = false) := by
  have fits := (modLaw_keeps.runs runs).stored room state holds
  constructor
  · exact fun off slot member => (fits.state slot member).off off
  · exact fun on => ⟨fits.settings on, fun slot member => (fits.state slot member).slow⟩

theorem hidden_matched : acronymMatches "HD" = true := by decide

theorem doubleTime_matched : acronymMatches "DT" = true := by decide

def hidden : CanonicalMod := ⟨"HD", [], hidden_matched, unset_frozen⟩

def doubleTime : CanonicalMod := ⟨"DT", [], doubleTime_matched, unset_frozen⟩

/-- Whether free mods are on, the mods of the room and those of its slots. -/
def projectedMods (world : World RoomState) : Option (Bool × List String × List (List String)) :=
  (content plainRepo 1 world.store).map fun state => (state.room.settings.freeMods,
    state.room.settings.mods.map (·.acronym), state.slots.map fun slot => slot.mods.map (·.acronym))

/-- A room is opened with free mods and a mod that is not a speed mod. -/
def mixedWorld : World RoomState :=
  serve plainService (.empty 0) (sampleOpening { sampleSettings with freeMods := true, mods := [hidden] } 2)

theorem opened_mixed : Reached plainService mixedWorld ∧
    projectedMods mixedWorld = some (true, ["HD"], [[], []]) ∧ isSpeedMod hidden = false :=
  ⟨reached_sample [_], by decide +kernel, by decide +kernel⟩

instance (settings : RoomSettings) : Decidable (SpeedOnly settings) := inferInstanceAs (Decidable (_ → _))

instance (state : RoomState) : (mutation : Mutation) → Decidable (KeepsMods state mutation)
  | .join .. | .leave .. => inferInstanceAs (Decidable (_ = _))
  | .moveSlot .. | .lockSlot .. | .setSlotStatus .. | .setSlotTeam .. | .setSlotMods
      .. | .markLoaded _ | .markSkipped _
  | .markFailed _ => inferInstanceAs (Decidable True)

def modTest (world : World RoomState) : Call → Bool
  | .commit _ (.create request) => SpeedOnly request.settings
  | .commit _ (.updateSettings commandId _ publicId _ settings) => !world.tables.commandApplied commandId &&
    world.tables.activeRooms.all fun (room, _) => room.publicId ≠ publicId ||
    !room.settings.freeMods || SpeedOnly settings
  | .state task =>
    match task.target, task.mutation with
    | some room, some mutation => (content plainRepo room world.store).all (KeepsMods · mutation)
    | _, _ => true
  | .repair updated stale => updated.room.settings.freeMods = stale.room.settings.freeMods
  | _ => true

theorem sparesMods_of_test (world : World RoomState) (call : Call)
    (passed : modTest world call = true) : SparesMods plainService world call := by
  cases call with
  | state task =>
    intro room mutation state target edits holds
    simp only [modTest, target, edits] at passed
    rw [show content plainRepo room world.store = some state from holds.content] at passed
    exact of_decide_eq_true passed
  | repair => exact fun _ _ => of_decide_eq_true passed
  | commit moment command =>
    cases command with
    | create request =>
      change SpeedOnly request.settings
      exact of_decide_eq_true passed
    | updateSettings commandId actor publicId version settings =>
      obtain ⟨fresh, all⟩ := Bool.and_eq_true_iff.mp passed
      refine ⟨by simpa using fresh, fun room session found public_ free => ?_⟩
      have one := List.all_eq_true.mp all (room, session) found
      simpa [public_, free] using one
    | _ => trivial
  | _ => trivial

/-- Free mods are turned on in a room with two mods, and a second account chooses one. -/
def splitRequests : List Request :=
  [sampleOpening { sampleSettings with mods := [hidden, doubleTime] } 2, sampleJoining 2 2,
    .updateSettings (sampleOrigin 1 "settings" 3) 1 2
    { sampleSettings with freeMods := true, mods := [hidden, doubleTime] },
    .setSlotMods 1 2 []]

def splitWorld : World RoomState := splitRequests.foldl (serve plainService) (.empty 0)

theorem split_apart : projectedMods splitWorld = some (true, ["DT"], [["HD"], []]) ∧
    ∀ state, Holds plainRepo 1 splitWorld.store state → state.room.settings.freeMods = true →
      (∀ item ∈ state.room.settings.mods, isSpeedMod item = true) ∧
      ∀ slot ∈ state.slots, ∀ item ∈ slot.mods, isSpeedMod item = false := by
  have runs : Runs plainService (SparesMods plainService) (fun _ _ => True) (.empty 0) splitWorld :=
    runs_of_checks sparesMods_of_test (by decide +kernel)
  exact ⟨by decide +kernel, fun state holds => (mods_apart runs 1 state holds).2⟩

end Perfcho.Service
