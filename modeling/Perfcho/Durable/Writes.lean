import Perfcho.Durable.Standing

/-! What each command writes in the rows of the rooms and of the rounds. An edit says
how a room may change; here the command decides which of its rows do. -/

namespace Perfcho.Durable

open Foundation

variable {read tables : Tables} {round : Round}

/-- The rounds of a session, in the order they were started. -/
def Tables.roundIds (tables : Tables) (sessionId : Uuid) : List Uuid :=
  (tables.rounds.rows.filter (·.sessionId = sessionId)).map (·.id)

theorem Ends.roundIds (ends : Ends tables session roundId after) (sessionId : Uuid) :
    after.roundIds sessionId = tables.roundIds sessionId := by
  obtain ⟨round, ended, playing, rfl, key, _, house, rounds⟩ := ends
  unfold Tables.roundIds
  rw [rounds]
  apply map_filter_replaced
  intro old member same
  have old_eq : old = round := round_unique (mem_playing.mp playing).1 member (same.trans key)
  exact ⟨by rw [old_eq, house], same⟩

theorem Ends.kept (ends : Ends tables session roundId after) (stored : round ∈ tables.rounds.rows)
    (ended : round.status ≠ .inProgress) : round ∈ after.rounds.rows := by
  obtain ⟨active, _, playing, rfl, key, _, _, rounds⟩ := ends
  obtain ⟨there, inProgress, _⟩ := mem_playing.mp playing
  rw [rounds]
  apply other_mem_replaced stored
  intro same
  rw [round_unique there stored (same.trans key)] at ended
  exact ended inProgress

theorem Wrote.roundIds (wrote : Wrote read tables command after) (sessionId : Uuid) :
    after.roundIds sessionId = tables.roundIds sessionId ∨ ∃ fresh, (∀ round ∈ tables.rounds.rows,
        round.id ≠ fresh) ∧ after.roundIds sessionId = tables.roundIds sessionId ++ [fresh] := by
  have same : after.rounds.rows = tables.rounds.rows →
    after.roundIds sessionId = tables.roundIds sessionId := fun rounds => by
    rw [Tables.roundIds, rounds]
    rfl
  cases wrote with
  | untouched untouched _ => exact .inl (same untouched.2)
  | opened _ _ rounds => exact .inl (same rounds)
  | settled _ rewrites | secured _ _ rewrites =>
    obtain ⟨_, _, _, _, rounds⟩ := rewrites
    exact .inl (same rounds)
  | @started _ _ _ _ _ _ round _ _ rounds _ =>
    have appended : after.roundIds sessionId =
      tables.roundIds sessionId ++ ([round].filter (·.sessionId = sessionId)).map (·.id) := by
      rw [Tables.roundIds, rounds, List.filter_append, List.map_append]
      rfl
    by_cases ours : round.sessionId = sessionId
    · refine .inr ⟨round.id, fun other stored =>
        after.rounds.fresh_of_unique List.mem_cons_self rounds rfl other stored rfl, ?_⟩
      simpa [ours] using appended
    · exact .inl (by simpa [ours] using appended)
  | completed _ _ ends => exact .inl (ends.roundIds sessionId)
  | closed _ _ _ _ rounds =>
    rcases rounds with ⟨_, rounds⟩ | ⟨_, _, ends⟩
    · exact .inl (same rounds)
    · exact .inl (ends.roundIds sessionId)

theorem Wrote.ended_kept (wrote : Wrote read tables command after) (stored : round ∈ tables.rounds.rows)
    (ended : round.status ≠ .inProgress) : round ∈ after.rounds.rows := by
  cases wrote with
  | untouched untouched _ => exact untouched.2 ▸ stored
  | opened _ _ rounds => exact rounds ▸ stored
  | settled _ rewrites | secured _ _ rewrites =>
    obtain ⟨_, _, _, _, rounds⟩ := rewrites
    exact rounds ▸ stored
  | started _ _ rounds _ => exact rounds ▸ List.mem_append_left _ stored
  | completed _ _ ends => exact ends.kept stored ended
  | closed _ _ _ _ rounds =>
    rcases rounds with ⟨_, rounds⟩ | ⟨_, _, ends⟩
    · exact rounds ▸ stored
    · exact ends.kept stored ended

theorem Change.participants_kept (change : Change read tables command after)
    (stored : round ∈ tables.rounds.rows) :
    after.roundParticipants.rows.filter (·.roundId = round.id) =
      tables.roundParticipants.rows.filter (·.roundId = round.id) := by
  cases change with
  | unchanged => rfl
  | opened _ opens => rw [opens.frozen]
  | edited edits _ _ =>
    obtain ⟨_, _, _, _, edit, _⟩ := edits.edit
    generalize played : after.rounds.rows = rounds at edit
    generalize after.presences.rows = occupants at edit
    generalize after.roundParticipants.rows = rows at edit
    cases edit with
    | @started begun frozen _ _ _ _ theirs =>
      have fresh : begun.id ≠ round.id := fun same =>
        after.rounds.fresh_of_unique List.mem_cons_self played rfl round stored rfl same.symm
      rw [List.filter_append]
      have none : frozen.filter (·.roundId = round.id) = [] := by
        apply List.filter_eq_nil_iff.mpr
        intro row member here
        obtain ⟨_, _, freezes⟩ := exists_of_related theirs member
        exact fresh (freezes.round.symm.trans (of_decide_eq_true here))
      rw [none, List.append_nil]
    | _ => rfl

end Perfcho.Durable
