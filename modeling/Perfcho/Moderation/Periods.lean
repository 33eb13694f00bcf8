import Perfcho.Foundation.Interleaving
import Perfcho.Moderation.Sanctions

/-! The periods of sanctions along the runs of the moderation service. -/

namespace Perfcho.Moderation

open Foundation Relation Function

namespace Sanction

/-- Sanctions that the same requests look at. -/
def SameScope (one two : Sanction) : Prop :=
  one.subjectAccountId = two.subjectAccountId ∧ one.kind = two.kind ∧
    one.channelId = two.channelId ∧ one.teamId = two.teamId

def Overlaps (one two : Sanction) :
    Prop := EndsAfter one.endsAt two.startsAt ∧ EndsAfter two.endsAt one.startsAt

/-- Sanctions that may stand side by side. -/
def Apart (one two : Sanction) : Prop :=
  one.revokedAt = none → two.revokedAt = none → one.SameScope two → ¬ one.Overlaps two

/-- What the readers of sanctions ask for. -/
def InForce (sanction : Sanction) (now : Int) : Prop :=
  sanction.revokedAt = none ∧ sanction.startsAt ≤ now ∧ EndsAfter sanction.endsAt now

instance : DecidableRel SameScope := fun _ _ => inferInstanceAs (Decidable (_ ∧ _))

instance : DecidableRel Overlaps := fun _ _ => inferInstanceAs (Decidable (_ ∧ _))

instance : DecidableRel Apart := fun _ _ => inferInstanceAs (Decidable (_ → _ → _ → ¬ _))

instance (sanction : Sanction) (now : Int) : Decidable (sanction.InForce now) :=
  inferInstanceAs (Decidable (_ ∧ _))

theorem Apart.symm {one two : Sanction} (apart : one.Apart two) : two.Apart one :=
  fun standing standing' ⟨subject, kind, channel, team⟩ ⟨left, right⟩ =>
    apart standing' standing ⟨subject.symm, kind.symm, channel.symm, team.symm⟩ ⟨right, left⟩

end Sanction

section

variable {policy : Policy} {court : Court}

/-- An extension leaves the other sanctions of its scope alone, also those that are
being imposed. -/
def Clear (court : Court) (transaction : Transaction) : Prop :=
  ∀ sanctionId endsAt, transaction.draft.change = .prolongs sanctionId endsAt →
    ∀ row ∈ court.docket.sanctions.rows, row.id = sanctionId →
      (∀ other ∈ court.docket.sanctions.rows, other.id ≠ sanctionId →
        { row with endsAt := some endsAt }.Apart other) ∧ ∀ identity pending imposed,
        court.opened identity = some pending → pending.draft.change = .inserts imposed →
          { row with endsAt := some endsAt }.Apart imposed

/-- Stored sanctions of one scope are apart, those that are being imposed are apart from
them, and there is one of these for a subject. -/
structure Separate (court : Court) : Prop where
  stored : ∀ one ∈ court.docket.sanctions.rows, ∀ two ∈ court.docket.sanctions.rows,
    one.id ≠ two.id → one.Apart two
  imposed : ∀ identity transaction sanction, court.opened identity = some transaction →
    transaction.draft.change = .inserts sanction →
    sanction.subjectAccountId ∈ transaction.locks.accounts ∧ ∀ row ∈ court.docket.sanctions.rows,
    row.Apart sanction
  held : ∀ first second one two, first ≠ second → court.opened first = some one →
    court.opened second = some two →
    one.locks.Compatible two.locks

theorem apart_of_overlapping {docket : Docket}
    (none_ : docket.overlapping sanction.subjectAccountId sanction.kind sanction.channelId
      sanction.teamId sanction.startsAt
      sanction.endsAt = []) : ∀ row ∈ docket.sanctions.rows, row.Apart sanction := by
  rintro row member standing _ ⟨subject, kind, channel, team⟩ ⟨left, right⟩
  have found := List.filter_eq_nil_iff.mp none_ row member
  exact found (decide_eq_true ⟨subject, kind, channel, team, standing, left, right⟩)

theorem Locks.Compatible.symm {one two : Locks} (compatible : one.Compatible two) : two.Compatible one :=
  ⟨compatible.1.symm, compatible.2.1.symm, compatible.2.2.1.symm, compatible.2.2.2.symm⟩

theorem mem_altered {rows : List Sanction} {alter : Sanction → Sanction}
    (member : other ∈ rows.map fun row => if row.id = sanctionId then alter row else row) :
    (∃ row ∈ rows, row.id = sanctionId ∧ other = alter row) ∨ other ∈ rows ∧ other.id ≠ sanctionId := by
  obtain ⟨row, held, rfl⟩ := List.mem_map.mp member
  by_cases same : row.id = sanctionId
  · rw [if_pos same]
    exact .inl ⟨row, held, same, rfl⟩
  · rw [if_neg same]
    exact .inr ⟨held, same⟩

theorem Separate.abort (separate : Separate court) (identity : Nat) :
    Separate { court with opened := update court.opened identity none } := by
  constructor
  · exact separate.stored
  · intro other transaction sanction open_
    exact separate.imposed other transaction sanction (update_none_eq_some open_).2
  · intro first second one two different left right
    exact separate.held first second one two different (update_none_eq_some left).2
      (update_none_eq_some right).2

theorem Separate.opens (separate : Separate court)
    (unlocked : ∀ other two, court.opened other = some two → transaction.locks.Compatible two.locks)
    (read : ∀ sanction, transaction.draft.change = .inserts sanction →
      sanction.subjectAccountId ∈ transaction.locks.accounts ∧
        ∀ row ∈ court.docket.sanctions.rows, row.Apart sanction) :
    Separate { court with opened := update court.opened identity (some transaction) } := by
  constructor
  · exact separate.stored
  · intro other two sanction open_ inserts
    obtain ⟨_, same⟩ | ⟨_, open_⟩ := update_eq_some open_
    · cases same
      exact read sanction inserts
    · exact separate.imposed other two sanction open_ inserts
  · intro first second one two different left right
    obtain ⟨here, mine⟩ | ⟨_, left⟩ := update_eq_some left
    · cases mine
      obtain ⟨there, _⟩ | ⟨_, right⟩ := update_eq_some right
      · exact absurd (here.trans there.symm) different
      · exact unlocked second two right
    · obtain ⟨_, yours⟩ | ⟨_, right⟩ := update_eq_some right
      · cases yours
        exact (unlocked first one left).symm
      · exact separate.held first second one two different left right

/-- What a commit must leave apart. -/
theorem Separate.commits (separate : Separate court)
    (stored : ∀ one ∈ docket.sanctions.rows, ∀ two ∈ docket.sanctions.rows, one.id ≠ two.id → one.Apart two)
    (imposed : ∀ other pending sanction, other ≠ identity → court.opened other = some pending →
      pending.draft.change = .inserts sanction → ∀ row ∈ docket.sanctions.rows, row.Apart
    sanction) : Separate { court with docket, opened := update court.opened identity none } := by
  constructor
  · exact stored
  · intro other pending sanction open_ inserts
    obtain ⟨different, open_⟩ := update_none_eq_some open_
    exact ⟨(separate.imposed other pending sanction open_ inserts).1,
      imposed other pending sanction different open_ inserts⟩
  · exact (separate.abort identity).held

theorem Separate.step (separate : Separate court) (step : Step policy Clear court after) :
    Separate after := by
  cases step with
  | opens free unlocked past planned =>
    refine separate.opens unlocked fun sanction inserts => ?_
    obtain ⟨_, locked, clear⟩ := plan_inserts planned inserts
    exact ⟨locked, apart_of_overlapping clear⟩
  | aborts identity => exact separate.abort identity
  | waits later => exact ⟨separate.stored, separate.imposed, separate.held⟩
  | @commits identity transaction docket running clear written =>
    have rows := commit_rows written
    cases change : transaction.draft.change with
    | inserts sanction =>
      rw [change] at rows
      obtain ⟨locked, apart⟩ := separate.imposed identity transaction sanction running change
      refine separate.commits ?_ ?_
      · intro one first two second different
        rw [rows] at first second
        rcases of_mem_concat first with first | first <;> rcases of_mem_concat second with second | second
        · exact separate.stored one first two second different
        · cases second
          exact apart one first
        · cases first
          exact (apart two second).symm
        · cases first
          cases second
          exact absurd rfl different
      · intro other pending imposed different open_ inserts row member
        rw [rows] at member
        obtain ⟨theirs, others⟩ := separate.imposed other pending imposed open_ inserts
        rcases of_mem_concat member with member | member
        · exact others row member
        · -- Two new sanctions have different subjects.
          cases member
          intro _ _ same
          have apart_ := (separate.held _ _ _ _ different open_ running).1
          exact absurd (same.1 ▸ locked) (apart_ theirs)
    | prolongs sanctionId endsAt =>
      rw [change] at rows
      refine separate.commits ?_ ?_
      · intro one first two second different
        rw [rows] at first second
        rcases mem_altered first with ⟨old, held, named, rfl⟩ | ⟨first, named⟩ <;>
          rcases mem_altered second with ⟨old', held', named', rfl⟩ | ⟨second, named'⟩
        · exact absurd (named.trans named'.symm) different
        · exact (clear sanctionId endsAt change old held named).1 two second named'
        · exact ((clear sanctionId endsAt change old' held' named').1 one first named).symm
        · exact separate.stored one first two second different
      · intro other pending imposed _ open_ inserts row member
        rw [rows] at member
        rcases mem_altered member with ⟨old, held, named, rfl⟩ | ⟨member, _⟩
        · exact (clear sanctionId endsAt change old held named).2 other pending imposed open_ inserts
        · exact (separate.imposed other pending imposed open_ inserts).2 row member
    | revokes sanctionId revokedAt revokedById =>
      rw [change] at rows
      refine separate.commits ?_ ?_
      · intro one first two second different
        rw [rows] at first second
        rcases mem_altered first with ⟨old, held, named, rfl⟩ | ⟨first, named⟩
        · exact fun standing => by cases standing
        · rcases mem_altered second with ⟨old', held', named', rfl⟩ | ⟨second, named'⟩
          · exact fun _ standing => by cases standing
          · exact separate.stored one first two second different
      · intro other pending imposed _ open_ inserts row member
        rw [rows] at member
        rcases mem_altered member with ⟨old, held, named, rfl⟩ | ⟨member, _⟩
        · exact fun standing => by cases standing
        · exact (separate.imposed other pending imposed open_ inserts).2 row member

theorem Separate.run (blank : court.Blank) (run : ReflTransGen (Step policy Clear) court after) :
    Separate after := by
  induction run with
  | refl =>
    constructor
    · intro one member
      rw [blank.clean] at member
      cases member
    · intro identity transaction _ open_
      rw [blank.idle identity] at open_
      cases open_
    · intro first _ one _ _ open_
      rw [blank.idle first] at open_
      cases open_
  | tail _ step ih => exact ih.step step

end

/-- While every extension keeps away from the other sanctions of its scope, no two
unrevoked sanctions of one subject, kind and scope overlap. -/
theorem sanctions_disjoint (policy : Policy) {start court : Court} (blank : start.Blank)
    (run : ReflTransGen (Step policy Clear) start court) {one two : Sanction}
    (first : one ∈ court.docket.sanctions.rows) (second : two ∈ court.docket.sanctions.rows)
    (different : one.id ≠ two.id) (standing : one.revokedAt = none)
    (standing' : two.revokedAt = none) (same : one.SameScope two) : ¬ one.Overlaps two :=
  (Separate.run blank run).stored one first two second different standing standing' same

section

variable {policy : Policy} {court after : Court} {sanctionId : Uuid}

/-- A sanction is in force at the current time. -/
def Court.InForce (court : Court) (sanctionId : Uuid) : Prop :=
  ∃ row ∈ court.docket.sanctions.rows, row.id = sanctionId ∧ row.InForce court.clock

instance (court : Court) (sanctionId : Uuid) : Decidable (court.InForce sanctionId) :=
  inferInstanceAs (Decidable (∃ _ ∈ _, _))

/-- An extension to an end that is ahead is committed before the end that it moves. -/
def Unlapsed (court : Court) (transaction : Transaction) : Prop :=
  ∀ sanctionId endsAt, transaction.draft.change = .prolongs sanctionId endsAt → court.clock < endsAt →
    ∀ row ∈ court.docket.sanctions.rows, row.id = sanctionId → EndsAfter row.endsAt court.clock

/-- What becomes of a row in one step: it stays, revoked if it was, and an end that is
ahead was ahead. -/
structure Follows (clock : Int) (row later : Sanction) : Prop where
  id : later.id = row.id
  starts : later.startsAt = row.startsAt
  revoked : row.revokedAt ≠ none → later.revokedAt ≠ none
  ends : EndsAfter later.endsAt clock → EndsAfter row.endsAt clock

theorem Follows.refl (clock : Int) (row : Sanction) : Follows clock row row :=
  ⟨rfl, rfl, fun revoked => revoked, fun ahead => ahead⟩

theorem Step.follows (step : Step policy Unlapsed court after) (member : row ∈ court.docket.sanctions.rows) :
    ∃ later ∈ after.docket.sanctions.rows, Follows court.clock row later := by
  cases step with
  | opens | aborts | waits => exact ⟨row, member, .refl _ row⟩
  | @commits identity transaction docket running unlapsed written =>
    suffices found : ∃ later ∈ transaction.draft.change.apply court.docket.sanctions.rows,
      Follows court.clock row later by
      rwa [← commit_rows written] at found
    cases change : transaction.draft.change with
    | inserts sanction => exact ⟨row, List.mem_append_left _ member, .refl _ row⟩
    | prolongs sanctionId endsAt =>
      refine ⟨_, List.mem_map_of_mem member, ?_⟩
      by_cases named : row.id = sanctionId
      · rw [if_pos named]
        exact ⟨rfl, rfl, id, fun ahead =>
          unlapsed sanctionId endsAt change (ahead endsAt rfl) row member named⟩
      · rw [if_neg named]
        exact .refl _ row
    | revokes sanctionId revokedAt revokedById =>
      refine ⟨_, List.mem_map_of_mem member, ?_⟩
      by_cases named : row.id = sanctionId
      · rw [if_pos named]
        exact ⟨rfl, rfl, fun _ => Option.some_ne_none _, id⟩
      · rw [if_neg named]
        exact .refl _ row

theorem Step.clock_le (step : Step policy allowed court after) : court.clock ≤ after.clock := by
  cases step with
  | opens | commits | aborts => exact Int.le_refl _
  | waits later => exact later

def Begun (court : Court) (sanctionId : Uuid) : Prop :=
  ∃ row ∈ court.docket.sanctions.rows, row.id = sanctionId ∧ row.startsAt ≤ court.clock

def Ended (court : Court) (sanctionId : Uuid) : Prop :=
  ∃ row ∈ court.docket.sanctions.rows, row.id = sanctionId ∧
    (row.revokedAt ≠ none ∨ ¬ EndsAfter row.endsAt court.clock)

theorem Begun.run (begun : Begun court sanctionId)
    (run : ReflTransGen (Step policy Unlapsed) court after) : Begun after sanctionId := by
  induction run with
  | refl => exact begun
  | tail _ step ih =>
    obtain ⟨row, member, named, started⟩ := ih
    obtain ⟨later, held, follows⟩ := step.follows member
    exact ⟨later, held, follows.id.trans named, follows.starts ▸ started.trans step.clock_le⟩

theorem Ended.run (ended : Ended court sanctionId)
    (run : ReflTransGen (Step policy Unlapsed) court after) : Ended after sanctionId := by
  induction run with
  | refl => exact ended
  | tail _ step ih =>
    obtain ⟨row, member, named, why⟩ := ih
    obtain ⟨later, held, follows⟩ := step.follows member
    refine ⟨later, held, follows.id.trans named, ?_⟩
    rcases why with revoked | passed
    · exact .inl (follows.revoked revoked)
    · refine .inr fun ahead => passed (follows.ends fun finish ends => ?_)
      exact step.clock_le.trans_lt (ahead finish ends)

theorem Ended.not_inForce (ended : Ended court sanctionId) : ¬ court.InForce sanctionId := by
  rintro ⟨row, member, named, standing, _, ahead⟩
  obtain ⟨other, held, named', why⟩ := ended
  have same : other = row :=
    court.docket.sanctions.eq_of_unique List.mem_cons_self held rfl member rfl (named'.trans named.symm)
  subst same
  rcases why with revoked | passed
  · exact revoked standing
  · exact passed ahead

theorem Begun.ended (begun : Begun court sanctionId) (out : ¬ court.InForce sanctionId) :
    Ended court sanctionId := by
  obtain ⟨row, member, named, started⟩ := begun
  refine ⟨row, member, named, ?_⟩
  by_cases standing : row.revokedAt = none
  · exact .inr fun ahead => out ⟨row, member, named, standing, started, ahead⟩
  · exact .inl standing

end

/-- While every extension that reaches ahead is committed before the end that it moves, a
sanction that was in force and then was not is never in force again. -/
theorem ended_sanction_stays (policy : Policy) {first second third : Court} {sanctionId : Uuid}
    (run : ReflTransGen (Step policy Unlapsed) first second)
    (rest : ReflTransGen (Step policy Unlapsed) second third) (was : first.InForce sanctionId)
    (out : ¬ second.InForce sanctionId) : ¬ third.InForce sanctionId := by
  obtain ⟨row, member, named, _, started, _⟩ := was
  have begun : Begun first sanctionId := ⟨row, member, named, started⟩
  exact ((begun.run run).ended out).run rest |>.not_inForce

/-- A command as it is sent, with the identifier of a row it may insert. -/
structure Request where
  fresh : Uuid
  info : CommandMeta
  command : Command

def Court.serve (policy : Policy) (court : Court) (request : Request) : Court :=
  match plan policy court.docket court.clock request.fresh request.info request.command with
  | .ok (.writes draft receipt) =>
    match court.docket.commit ⟨request.command.locks request.info, draft, receipt⟩ with
    | .ok docket => { court with docket }
    | .error _ => court
  | _ => court

theorem Court.serve_steps (idle : court.opened = fun _ => none) (permitted : ∀ draft receipt,
      plan policy court.docket court.clock request.fresh request.info request.command =
      .ok (.writes draft receipt) →
      allowed { court with
        opened := update court.opened 0 (some ⟨request.command.locks request.info, draft, receipt⟩) }
        ⟨request.command.locks request.info, draft, receipt⟩) :
    ReflTransGen (Step policy allowed) court (court.serve policy request) := by
  unfold Court.serve
  split
  · next draft receipt planned =>
    split
    · next docket written =>
      have opens : Step policy allowed court { court with
          opened := update court.opened 0 (some ⟨request.command.locks request.info, draft, receipt⟩) } :=
        .opens (congrFun idle 0) (fun other transaction open_ => by rw [idle] at open_; cases open_)
          (Int.le_refl _) planned
      have running : update court.opened 0 (some ⟨request.command.locks request.info, draft, receipt⟩) 0 =
        some ⟨request.command.locks request.info, draft, receipt⟩ := update_self ..
      have commits : Step policy allowed _ { court with
          docket, opened := update (update court.opened 0
            (some ⟨request.command.locks request.info, draft, receipt⟩)) 0 none } :=
        .commits running (permitted draft receipt planned) written
      have closed : update court.opened 0 none = court.opened := by
        rw [idle]
        exact update_eq_self ..
      rw [update_idem, closed] at commits
      exact (ReflTransGen.single opens).tail commits
    · exact .refl
  · exact .refl

theorem Court.serve_opened (policy : Policy) (court : Court) (request : Request) :
    (court.serve policy request).opened = court.opened := by
  unfold Court.serve
  split
  · split <;> rfl
  · rfl

def samplePolicy : Policy := ⟨fun account _ => account = 1⟩

theorem sampleIdentity_length (number : UInt8) : (List.replicate 16 number).length = 16 := rfl

def sampleIdentity (number : UInt8) : Uuid := ⟨List.replicate 16 number, sampleIdentity_length number⟩

/-- Two accounts and an open case about the second. -/
def sampleCourt : Court where
  clock := 0
  docket := {
    accounts := fun account => account = 1 ∨ account = 2
    channels := fun _ => false
    teams := fun _ => false
    cases := [⟨sampleIdentity 1, 2, "open"⟩]
    sanctions := ⟨[], by decide⟩
    events := ⟨[], by decide⟩
    receipts := fun _ => none }
  opened _ := none

def sampleInfo (key : String) : CommandMeta := ⟨key, List.replicate 32 0, some 1⟩

def sampleSilence (number : UInt8) (key : String) (starts ends : Int) : Request where
  fresh := sampleIdentity number
  info := sampleInfo key
  command := .imposeSanction {
    caseId := sampleIdentity 1
    subjectAccountId := 2
    kind := "silence"
    startsAt := .aware starts
    endsAt := some (.aware ends)
    reason := "spam"
    channelId := none
    teamId := none }

def sampleExtension (number : UInt8) (key : String) (ends : Int) : Request where
  fresh := sampleIdentity 0
  info := sampleInfo key
  command := .extendSanction (sampleIdentity number) (.aware ends) none

def silencedCourt : Court :=
  (sampleCourt.serve samplePolicy (sampleSilence 2 "a" 0 10)).serve samplePolicy (sampleSilence 3 "b" 20 30)

def extendedCourt (ends : Int) : Court := silencedCourt.serve samplePolicy (sampleExtension 2 "c" ends)

theorem silencedCourt_idle : silencedCourt.opened = fun _ => none := by
  rfl

theorem sampleCourt_blank : sampleCourt.Blank := ⟨fun _ => rfl, rfl⟩

theorem extendedCourt_overlaps :
    ReflTransGen (Step samplePolicy fun _ _ => True) sampleCourt (extendedCourt 25) ∧ sampleCourt.Blank ∧
      ∃ one ∈ (extendedCourt 25).docket.sanctions.rows, ∃ two ∈ (extendedCourt 25).docket.sanctions.rows,
        one.id ≠ two.id ∧ one.revokedAt = none ∧ two.revokedAt = none ∧ one.SameScope two ∧
        one.Overlaps two := by
  refine ⟨?_, sampleCourt_blank, by decide⟩
  refine ((Court.serve_steps rfl ?_).trans (Court.serve_steps ?_ ?_)).trans
    (Court.serve_steps silencedCourt_idle ?_)
  · exact fun _ _ _ => trivial
  · exact Court.serve_opened ..
  · exact fun _ _ _ => trivial
  · exact fun _ _ _ => trivial

/-- The first silence is extended within the gap between the two. -/
theorem extendedCourt_disjoint : (extendedCourt 15).docket.sanctions.rows.map
      (fun row => (row.startsAt, row.endsAt)) = [(0, some 15), (20, some 30)] ∧
    ∀ one ∈ (extendedCourt 15).docket.sanctions.rows,
    ∀ two ∈ (extendedCourt 15).docket.sanctions.rows, one.id ≠ two.id →
      one.revokedAt = none → two.revokedAt = none → one.SameScope two → ¬ one.Overlaps two := by
  have gap : ∀ row ∈ silencedCourt.docket.sanctions.rows, row.id = sampleIdentity 2 →
    ∀ other ∈ silencedCourt.docket.sanctions.rows, other.id ≠ sampleIdentity 2 →
      { row with endsAt := some 15 }.Apart other := by decide
  have run : ReflTransGen (Step samplePolicy Clear) sampleCourt (extendedCourt 15) := by
    refine ((Court.serve_steps rfl ?_).trans (Court.serve_steps ?_ ?_)).trans
      (Court.serve_steps silencedCourt_idle ?_)
    rotate_left
    · exact Court.serve_opened ..
    rotate_right
    iterate 2
      intro draft receipt planned sanctionId endsAt change
      obtain ⟨_, inserts, _⟩ := imposeSanction_writes planned
      rw [inserts] at change
      cases change
    · intro draft receipt planned sanctionId endsAt change row member named
      have extends_ : extendSanction samplePolicy silencedCourt.docket silencedCourt.clock
        (sampleInfo "c") (sampleIdentity 2) (.aware 15) none = .ok (.writes draft receipt) := planned
      obtain ⟨_, ⟨⟩, prolongs⟩ := extendSanction_writes extends_
      rw [prolongs] at change
      cases change
      refine ⟨gap row member named, fun identity pending imposed open_ inserts => ?_⟩
      obtain ⟨_, same⟩ | ⟨_, missing⟩ := update_eq_some open_
      · cases same
        rw [prolongs] at inserts
        cases inserts
      · cases (congrFun silencedCourt_idle identity).symm.trans missing
  exact ⟨by decide, fun one first two second different standing standing' same =>
    sanctions_disjoint samplePolicy sampleCourt_blank run first second different standing standing' same⟩

def lapsingCourt (clock : Int) : Court :=
  { sampleCourt.serve samplePolicy (sampleSilence 2 "a" 0 10) with clock }

def revivedCourt (clock : Int) : Court := (lapsingCourt clock).serve samplePolicy (sampleExtension 2 "b" 20)

theorem lapsingCourt_idle (clock : Int) : (lapsingCourt clock).opened = fun _ => none :=
  Court.serve_opened samplePolicy sampleCourt (sampleSilence 2 "a" 0 10)

/-- A silence that ended at ten is extended at twelve, and is in force once more. -/
theorem revivedCourt_inForce : ReflTransGen (Step samplePolicy fun _ _ => True) sampleCourt (lapsingCourt 5) ∧
    ReflTransGen (Step samplePolicy fun _ _ => True) (lapsingCourt 5) (lapsingCourt 12) ∧
    ReflTransGen (Step samplePolicy fun _ _ => True) (lapsingCourt 12) (revivedCourt 12) ∧
    (lapsingCourt 5).InForce (sampleIdentity 2) ∧ ¬ (lapsingCourt 12).InForce (sampleIdentity 2) ∧
    (revivedCourt 12).InForce (sampleIdentity 2) := by
  have silenced : ReflTransGen (Step samplePolicy fun _ _ => True) sampleCourt
    (sampleCourt.serve samplePolicy (sampleSilence 2 "a" 0 10)) := Court.serve_steps rfl fun _ _ _ => trivial
  have early : (sampleCourt.serve samplePolicy (sampleSilence 2 "a" 0 10)).clock ≤ 5 := by decide
  have late : (lapsingCourt 5).clock ≤ 12 := by decide
  exact ⟨silenced.tail (.waits early), .single (.waits late),
    Court.serve_steps (lapsingCourt_idle 12) fun _ _ _ => trivial, by decide, by decide, by decide⟩

/-- Extended in time, it ends later and for good. -/
theorem revivedCourt_stays : (revivedCourt 5).InForce (sampleIdentity 2) ∧
    ¬ { revivedCourt 5 with clock := 20 }.InForce (sampleIdentity 2) ∧
    ¬ { revivedCourt 5 with clock := 30 }.InForce (sampleIdentity 2) := by
  have ahead : ∀ row ∈ (lapsingCourt 5).docket.sanctions.rows, row.id = sampleIdentity 2 →
    EndsAfter row.endsAt (lapsingCourt 5).clock := by decide
  have extends_ : ReflTransGen (Step samplePolicy Unlapsed) (lapsingCourt 5) (revivedCourt 5) := by
    refine Court.serve_steps (lapsingCourt_idle 5)
      fun draft receipt planned sanctionId endsAt change _ row member named => ?_
    have extending : extendSanction samplePolicy (lapsingCourt 5).docket (lapsingCourt 5).clock
      (sampleInfo "b") (sampleIdentity 2) (.aware 20) none = .ok (.writes draft receipt) := planned
    obtain ⟨_, _, prolongs⟩ := extendSanction_writes extending
    rw [prolongs] at change
    cases change
    exact ahead row member named
  have soon : (revivedCourt 5).clock ≤ 20 := by decide
  have force : (lapsingCourt 5).InForce (sampleIdentity 2) := by decide
  have out : ¬ { revivedCourt 5 with clock := 20 }.InForce (sampleIdentity 2) := by decide
  have later : { revivedCourt 5 with clock := 20 }.clock ≤ 30 := by decide
  exact ⟨by decide, out,
    ended_sanction_stays samplePolicy (extends_.tail (.waits soon)) (.single (.waits later)) force out⟩

end Perfcho.Moderation
