import Perfcho.Durable.Standing

/-! Which session a public identifier shows. A session that is known was hosted under
its public identifier before, if it is now: sessions are opened once and never again. -/

namespace Perfcho.Durable

open Foundation Multiplayer

variable {read tables : Tables}

/-- An active room with this public identifier is in this session. -/
def Hosts (tables : Tables) (publicId : Nat) (sessionId : Uuid) : Prop :=
  ∃ room session, (room, session) ∈ tables.activeRooms ∧ room.publicId = publicId ∧ session.id = sessionId

def Known (tables : Tables) (sessionId : Uuid) :
    Prop := ∃ session ∈ tables.sessions.rows, session.id = sessionId

theorem Standing.hosts (standing : Standing tables made) : Hosts tables made.publicId made.sessionId := by
  obtain ⟨room, session, found, recorded⟩ := standing
  obtain ⟨_, public_, same, _⟩ := record_eq_ok recorded
  exact ⟨room, session, found, public_.symm, same.symm⟩

theorem Hosts.known (hosts : Hosts tables publicId sessionId) : Known tables sessionId := by
  obtain ⟨room, session, found, _, same⟩ := hosts
  exact ⟨session, (mem_activeRooms.mp found).2.1, same⟩

theorem Hosts.unique (sound : Sound tables) (one : Hosts tables publicId sessionId)
    (two : Hosts tables publicId other) : other = sessionId := by
  obtain ⟨room, session, found, rfl, rfl⟩ := one
  obtain ⟨room', session', found', same, rfl⟩ := two
  have entry := sound.entities_eq found
  rw [← same, sound.entities_eq found'] at entry
  cases entry
  rfl

theorem Hosts.getRoom_ne_none (hosts : Hosts tables publicId sessionId) (sound : Sound tables) :
    tables.getRoom publicId ≠ .ok none := by
  obtain ⟨room, session, found, rfl, rfl⟩ := hosts
  intro missing
  rw [Tables.getRoom, sound.entities_eq found] at missing
  obtain ⟨_, _, missing⟩ := of_bind_eq_ok missing
  cases missing

theorem Change.known (change : Change read tables command after) (known : Known tables sessionId) :
    Known after sessionId := by
  obtain ⟨session, stored, rfl⟩ := known
  cases change with
  | unchanged => exact ⟨session, stored, rfl⟩
  | opened _ opens =>
    obtain ⟨_, _, _, _, sessions, _⟩ := opens.rows
    exact ⟨session, sessions ▸ List.mem_append_left _ stored, rfl⟩
  | edited edits _ =>
    obtain ⟨_, edited, _, _, _, _, sessions, _⟩ := edits.edit
    by_cases same : session.id = edited.id
    · exact ⟨edited, sessions ▸ row_mem_replaced stored same, same.symm⟩
    · exact ⟨session, sessions ▸ other_mem_replaced stored same, rfl⟩

theorem Opens.activeRooms (opens : Opens read tables request after) (sound : Sound tables)
    (found : (room, session) ∈ after.activeRooms) (old : session.id ≠ request.sessionId) :
    (room, session) ∈ tables.activeRooms := by
  obtain ⟨_, _, _, rooms, sessions, _⟩ := opens.rows
  obtain ⟨⟨stored, active⟩, hosting, named, running⟩ := mem_activeRooms.mp found
  have hosting' : session ∈ tables.sessions.rows := by
    rw [sessions] at hosting
    rcases of_mem_concat hosting with before | new
    · exact before
    · cases new
      exact absurd rfl old
  have stored' : room ∈ tables.rooms.rows := by
    rw [rooms] at stored
    rcases of_mem_concat stored with before | new
    · exact before
    · -- The room of an old session is old, and the new one has a fresh key.
      cases new
      obtain ⟨house, there, same⟩ := sound.housed session hosting'
      exact absurd (same.trans named) (opens.fresh.1 house there)
  exact mem_activeRooms.mpr ⟨⟨stored', active⟩, hosting', named, running⟩

theorem Edits.activeRooms (edits : Edits brought read tables commandId room session after)
    (sound : Sound tables) (found : (room', session') ∈ after.activeRooms) :
    (room', session') ∈ tables.activeRooms ∧ session'.id ≠ session.id ∨
      session'.id = session.id ∧ room'.id = room.id ∧ room'.publicId = room.publicId := by
  obtain ⟨editedRoom, edited, _, _, edit, rooms, sessions, _⟩ := edits.edit
  obtain ⟨roomKey, public_, _, key, house, _⟩ := edit.keyed
  obtain ⟨⟨stored, active⟩, hosting, named, running⟩ := mem_activeRooms.mp found
  obtain ⟨_, hosting₀, named₀, _⟩ := mem_activeRooms.mp edits.found
  rw [rooms] at stored
  rw [sessions] at hosting
  rcases mem_replaced hosting with rfl | ⟨old, different⟩
  · have home : room'.id = room.id := by rw [← named, house, named₀]
    refine .inr ⟨key, home, ?_⟩
    rcases mem_replaced stored with rfl | ⟨_, elsewhere⟩
    · exact public_
    · exact absurd (home.trans roomKey.symm) elsewhere
  · rw [key] at different
    have apart : room'.id ≠ room.id := by
      intro same
      apply different
      rw [sound.single session hosting₀ session' old (by rw [named, named₀, same])]
    rcases mem_replaced stored with rfl | ⟨stays, _⟩
    · exact absurd roomKey apart
    · exact .inl ⟨mem_activeRooms.mpr ⟨⟨stays, active⟩, old, named, running⟩, different⟩

theorem Change.hosted (change : Change read tables command after) (sound : Sound tables)
    (known : Known tables sessionId) (hosts : Hosts after publicId sessionId) :
    Hosts tables publicId sessionId := by
  obtain ⟨room, session, found, rfl, rfl⟩ := hosts
  cases change with
  | unchanged => exact ⟨room, session, found, rfl, rfl⟩
  | opened _ opens =>
    obtain ⟨other, stored, same⟩ := known
    have old : session.id ≠ _ := same ▸ opens.fresh.2 other stored
    exact ⟨room, session, opens.activeRooms sound found old, rfl, rfl⟩
  | edited edits _ =>
    rcases edits.activeRooms sound found with ⟨old, _⟩ | ⟨key, _, public_⟩
    · exact ⟨room, session, old, rfl, rfl⟩
    · exact ⟨_, _, edits.found, public_.symm, key.symm⟩

theorem Change.hosted_before (change : Change read tables command after) (sound : Sound tables)
    (ofRoom : command.hosted = some entry) (hosts : Hosts after publicId sessionId) :
    Hosts tables publicId sessionId := by
  obtain ⟨room, session, found, rfl, rfl⟩ := hosts
  cases change with
  | unchanged => exact ⟨room, session, found, rfl, rfl⟩
  | opened create =>
    subst create
    cases ofRoom
  | edited edits _ =>
    rcases edits.activeRooms sound found with ⟨old, _⟩ | ⟨key, _, public_⟩
    · exact ⟨room, session, old, rfl, rfl⟩
    · exact ⟨_, _, edits.found, public_.symm, key.symm⟩

theorem Edit.settings (edit : Edit brought tables room session editedRoom edited occupants played frozen) :
    editedRoom.settings = room.settings ∨ brought.settings = some editedRoom.settings := by
  cases edit with
  | revised _ _ _ _ _ settings => exact settings.imp_right (·.2)
  | _ => exact .inl rfl

theorem Change.settings (change : Change read tables command after) (sound : Sound tables)
    (found : (room, session) ∈ after.activeRooms) :
    (∃ request, command = .create request ∧ room.settings = request.settings) ∨
    ∃ old before, (old, before) ∈ tables.activeRooms ∧ (room.settings = old.settings ∨
      command.brought.settings = some room.settings ∧
        ∀ publicId key, command.hosted = some (publicId, key) → old.publicId = publicId) := by
  cases change with
  | unchanged => exact .inr ⟨room, session, found, .inl rfl⟩
  | @opened request _ create opens =>
    by_cases old : session.id = request.sessionId
    · obtain ⟨_, _, _, rooms, sessions, _⟩ := opens.rows
      obtain ⟨⟨stored, _⟩, hosting, named, _⟩ := mem_activeRooms.mp found
      rw [sessions] at hosting
      rw [rooms] at stored
      rcases of_mem_concat hosting with before | new
      · exact absurd old (opens.fresh.2 session before)
      cases new
      rcases of_mem_concat stored with before | new
      · exact absurd named.symm (opens.fresh.1 room before)
      · cases new
        exact .inl ⟨request, create, rfl⟩
    · exact .inr ⟨room, session, opens.activeRooms sound found old, .inl rfl⟩
  | edited edits _ placed =>
    rcases edits.activeRooms sound found with ⟨old, _⟩ | ⟨_, home, _⟩
    · exact .inr ⟨room, session, old, .inl rfl⟩
    · obtain ⟨editedRoom, edited, _, _, edit, rooms, _⟩ := edits.edit
      have editedStored : editedRoom ∈ after.rooms.rows :=
        rooms ▸ row_mem_replaced (mem_activeRooms.mp edits.found).1.1 edit.keyed.1.symm
      obtain rfl := room_unique editedStored (mem_activeRooms.mp found).1.1 (home.trans edit.keyed.1.symm)
      exact .inr ⟨_, _, edits.found, edit.settings.imp_right (⟨·, placed⟩)⟩

/-- A record that was answered at some time: its session is known, and it shows the
settings of the room if it is of the newest version. -/
def Abreast (tables : Tables) (made : RoomRecord) : Prop :=
  ∃ session ∈ tables.sessions.rows, session.id = made.sessionId ∧ made.version ≤ session.version ∧
    (made.version = session.version → ∀ room ∈ tables.rooms.rows, room.id = session.roomId →
      made.settings = room.settings)

theorem Standing.abreast (standing : Standing tables made) : Abreast tables made := by
  obtain ⟨room, session, found, recorded⟩ := standing
  obtain ⟨_, _, key, version, _⟩ := record_eq_ok recorded
  obtain ⟨⟨stored, _⟩, hosting, named, _⟩ := mem_activeRooms.mp found
  refine ⟨session, hosting, key.symm, version.le, fun _ other there house => ?_⟩
  rw [record_settings recorded, room_unique stored there (house.trans named)]

theorem Standing.settings_eq (standing : Standing tables made) (sound : Sound tables)
    (found : (room, session) ∈ tables.activeRooms) (keyed : room.publicId = made.publicId) :
    made.settings = room.settings := by
  obtain ⟨room', session', found', recorded⟩ := standing
  have entry := sound.entities_eq found
  rw [keyed, (record_eq_ok recorded).2.1, sound.entities_eq found'] at entry
  cases entry
  exact record_settings recorded

theorem Abreast.settings (abreast : Abreast tables made) (standing : Standing tables shown)
    (sameSession : made.sessionId = shown.sessionId) (sameVersion : made.version = shown.version) :
    made.settings = shown.settings := by
  obtain ⟨session, hosting, key, _, settled⟩ := abreast
  obtain ⟨room, active, found, recorded⟩ := standing
  obtain ⟨_, _, key', version, _⟩ := record_eq_ok recorded
  obtain ⟨⟨stored, _⟩, hosting', named, _⟩ := mem_activeRooms.mp found
  obtain rfl := session_unique hosting hosting' (by rw [key, sameSession, key'])
  rw [record_settings recorded]
  exact settled (sameVersion.trans version) room stored named.symm

theorem Abreast.change (abreast : Abreast tables made) (sound : Sound tables)
    (change : Change read tables command after) : Abreast after made := by
  cases change with
  | unchanged => exact abreast
  | opened _ opens =>
    obtain ⟨session, hosting, key, bounded, settled⟩ := abreast
    obtain ⟨_, _, _, rooms, _, _⟩ := opens.rows
    refine ⟨session, opens.session_kept hosting, key, bounded, fun newest room stored named => ?_⟩
    rw [rooms] at stored
    rcases of_mem_concat stored with old | new
    · exact settled newest room old named
    · cases new
      obtain ⟨house, there, same⟩ := sound.housed session hosting
      exact absurd (same.trans named.symm) (opens.fresh.1 house there)
  | edited edits _ =>
    obtain ⟨session, hosting, key, bounded, settled⟩ := abreast
    obtain ⟨later, stays, sameKey, house, version⟩ := edits.session_kept hosting
    refine ⟨later, stays, sameKey.trans key, ?_, fun newest room stored named => ?_⟩
    · rw [version]
      split
      · next same =>
        rw [session_unique (mem_activeRooms.mp edits.found).2.1 hosting same] at bounded
        exact bounded.trans (Nat.le_succ _)
      · exact bounded
    · obtain ⟨editedRoom, edited, _, _, edit, rooms, _, _⟩ := edits.edit
      obtain ⟨_, hosting₀, named₀, _⟩ := mem_activeRooms.mp edits.found
      split at version
      · next same =>
        -- The record is older than the edit.
        rw [session_unique hosting₀ hosting same] at bounded
        rw [newest, version] at bounded
        exact absurd bounded (Nat.not_succ_le_self _)
      · next different =>
        rw [rooms] at stored
        rcases mem_replaced stored with rfl | ⟨old, _⟩
        · have home : session.roomId = _ := house.symm.trans (named.symm.trans edit.keyed.1)
          exact absurd (congrArg _
            (sound.single _ hosting₀ session hosting (home.trans named₀.symm))) different
        · exact settled (newest.trans version) room old (named.trans house)

end Perfcho.Durable
