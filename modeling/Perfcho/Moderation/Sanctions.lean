import Perfcho.Common.Receipts
import Perfcho.Foundation.Action
import Perfcho.Foundation.Table
import Perfcho.Foundation.Values

/-! Sanctions of accounts and the moderation commands on them. A command runs in a
transaction: it locks rows, decides what it writes, and writes it at its commit. -/

namespace Perfcho.Moderation

open Foundation Common

inductive SanctionKind where
  | restriction | silence | channelMute | tournamentBan | leaderboardFreeze
  deriving DecidableEq

/-- `_SANCTION_KINDS` -/
def SanctionKind.ofText : String → Option SanctionKind
  | "restriction" => some .restriction
  | "silence" => some .silence
  | "channel_mute" => some .channelMute
  | "tournament_ban" => some .tournamentBan
  | "leaderboard_freeze" => some .leaderboardFreeze
  | _ => none

structure Sanction where
  id : Uuid
  caseId : Uuid
  subjectAccountId : Int
  kind : SanctionKind
  channelId : Option Int
  teamId : Option Int
  startsAt : Int
  endsAt : Option Int
  reason : String
  imposedById : Int
  revokedAt : Option Int
  revokedById : Option Int

/-- Whether an end lies after an instant; no end lies after all of them. -/
def EndsAfter (endsAt : Option Int) (instant : Int) :
    Prop := ∀ finish, endsAt = some finish → instant < finish

instance (endsAt : Option Int) (instant : Int) : Decidable (EndsAfter endsAt instant) :=
  match endsAt with
  | none => .isTrue fun _ missing => by cases missing
  | some finish => decidable_of_iff (instant < finish) (by simp [EndsAfter])

def sanctionConstraints : List (Constraint Sanction) :=
  [.unique "pk_sanction" (fun _ => true) (·.id),
    .check "ck_sanction_valid_period" fun sanction => decide (EndsAfter sanction.endsAt sanction.startsAt),
    .check "ck_sanction_single_scope_target" fun sanction => sanction.channelId.isNone ||
    sanction.teamId.isNone, .check "value too long for type character varying(255)" fun sanction =>
    decide (sanction.reason.length ≤ 255)]

inductive SanctionAction where
  | imposed (startsAt : Int) (endsAt : Option Int)
  | extended (previousEndsAt endsAt : Int)
  | revoked (revokedAt : Int)

structure SanctionEvent where
  sanctionId : Uuid
  actorAccountId : Int
  action : SanctionAction
  reason : Option String

def eventConstraints : List (Constraint SanctionEvent) :=
  [.check "value too long for type character varying(255)" fun event => event.reason.all (·.length ≤ 255)]

structure ModerationCase where
  caseId : Uuid
  subjectAccountId : Int
  status : String

/-- What the moderation commands read and write. Accounts, channels and teams are those
that exist. A sanction stands for the record that is answered for it. -/
structure Docket where
  accounts : Int → Bool
  channels : Int → Bool
  teams : Int → Bool
  cases : List ModerationCase
  sanctions : Table sanctionConstraints
  events : Table eventConstraints
  receipts : Receipts Sanction

structure CommandMeta where
  idempotencyKey : String
  requestDigest : Bytes
  actor : Option Int

structure ImposeSanction where
  caseId : Uuid
  subjectAccountId : Int
  kind : String
  startsAt : Datetime
  endsAt : Option Datetime
  reason : String
  channelId : Option Int
  teamId : Option Int

inductive Command where
  | imposeSanction (request : ImposeSanction)
  | extendSanction (sanctionId : Uuid) (endsAt : Datetime) (reason : Option String)
  | revokeSanction (sanctionId : Uuid) (reason : String)

/-- What a command writes to the sanctions. -/
inductive Change where
  | inserts (sanction : Sanction)
  | prolongs (sanctionId : Uuid) (endsAt : Int)
  | revokes (sanctionId : Uuid) (revokedAt revokedById : Int)

def Change.apply : Change → List Sanction → List Sanction
  | .inserts sanction, rows => rows ++ [sanction]
  | .prolongs sanctionId endsAt, rows => rows.map fun row =>
    if row.id = sanctionId then { row with endsAt := some endsAt } else row
  | .revokes sanctionId revokedAt revokedById, rows => rows.map fun row =>
    if row.id = sanctionId then
      { row with revokedAt := some revokedAt, revokedById := some revokedById } else row

/-- The writes of a transaction, with the record that it answers. -/
structure Draft where
  change : Change
  event : SanctionEvent
  record : Sanction

/-- `_actor_id` -/
def actorId (info : CommandMeta) : Except Failure Int :=
  match info.actor with
  | some actor => if actor ≤ 0 then
      .error (.authenticationFailed "an authenticated actor is required") else .ok actor
  | none => .error (.authenticationFailed "an authenticated actor is required")

/-- `_validate_period` -/
def validatePeriod (startsAt : Datetime) (endsAt : Option Datetime) : Except Failure (Int × Option Int) :=
  match startsAt, endsAt with
  | .naive _, _ => .error (.inputRejected "sanction timestamps must be timezone-aware")
  | .aware starts, none => .ok (starts, none)
  | .aware _, some (.naive _) => .error (.inputRejected "sanction end must be after start")
  | .aware starts, some (.aware ends) =>
    if ends ≤ starts then .error (.inputRejected "sanction end must be after start") else
      .ok (starts, some ends)

/-- `_account_id` of an optional target. -/
def targetId (target : Option Int) : Except Failure Unit :=
  if target.any (· ≤ 0) then .error (.inputRejected "account id must be positive") else .ok ()

/-- `_validate_scope` -/
def validateScope (channelId teamId : Option Int) : Except Failure Unit := do
  targetId channelId
  targetId teamId
  refuse (channelId.isSome ∧
    teamId.isSome) (.inputRejected "sanction scope must target at most one channel or team")

namespace Docket

variable (docket : Docket)

/-- `_require_account` -/
def requireAccount (account : Int) : Except Failure Unit :=
  if docket.accounts account then .ok () else .error (.resourceNotFound "account does not exist")

/-- `_require_scope` -/
def requireScope (channelId teamId : Option Int) : Except Failure Unit :=
  if channelId.any (!docket.channels ·) then
    .error (.resourceNotFound "sanction channel scope does not exist")
  else if teamId.any (!docket.teams ·) then .error (.resourceNotFound "sanction team scope does not exist")
  else .ok ()

/-- The sanctions that a new one of this period would overlap. -/
def overlapping (subject : Int) (kind : SanctionKind) (channelId teamId : Option Int)
    (startsAt : Int) (endsAt : Option Int) : List Sanction :=
  docket.sanctions.rows.filter fun sanction =>
    decide (sanction.subjectAccountId = subject ∧ sanction.kind = kind ∧ sanction.channelId = channelId ∧
      sanction.teamId = teamId ∧ sanction.revokedAt = none ∧ EndsAfter sanction.endsAt startsAt ∧
      EndsAfter endsAt sanction.startsAt)

/-- `SqlAlchemyModerationRepository.impose_sanction` -/
def imposeSanction (fresh : Uuid) (request : ImposeSanction) (kind : SanctionKind) (startsAt : Int)
    (endsAt : Option Int) (actor : Int) : Except Failure Draft := do
  docket.requireScope request.channelId request.teamId
  refuse (docket.overlapping request.subjectAccountId kind request.channelId request.teamId startsAt
    endsAt ≠ [])
    (.resourceConflict "an overlapping sanction already exists for this scope")
  let sanction : Sanction := {
    id := fresh, caseId := request.caseId, subjectAccountId := request.subjectAccountId, kind,
    channelId := request.channelId, teamId := request.teamId, startsAt, endsAt,
    reason := request.reason, imposedById := actor, revokedAt := none, revokedById := none }
  return ⟨.inserts sanction, ⟨fresh, actor, .imposed startsAt endsAt, some request.reason⟩, sanction⟩

def getSanction (sanctionId : Uuid) : Except Failure Sanction :=
  match docket.sanctions.rows.find? (·.id = sanctionId) with
  | some sanction => .ok sanction
  | none => .error (.resourceNotFound "sanction does not exist")

/-- `SqlAlchemyModerationRepository.extend_sanction`. The service makes the same checks. -/
def extendSanction (sanctionId : Uuid) (endsAt : Int) (actor : Int) (reason : Option String) :
    Except Failure Draft := do
  let sanction ← docket.getSanction sanctionId
  match sanction.revokedAt, sanction.endsAt with
  | none, some previous =>
    if endsAt ≤ previous then throw (.resourceConflict "sanction cannot be extended")
    else return ⟨.prolongs sanctionId endsAt, ⟨sanctionId, actor, .extended previous endsAt, reason⟩,
      { sanction with endsAt := some endsAt }⟩
  | _, _ => throw (.resourceConflict "sanction cannot be extended")

/-- `SqlAlchemyModerationRepository.revoke_sanction` -/
def revokeSanction (sanctionId : Uuid) (revokedAt actor : Int) (reason : String) : Except Failure Draft := do
  let sanction ← docket.getSanction sanctionId
  refuse (sanction.revokedAt ≠ none) (.resourceConflict "sanction is already revoked")
  return ⟨.revokes sanctionId revokedAt actor, ⟨sanctionId, actor, .revoked revokedAt, some reason⟩,
    { sanction with revokedAt := some revokedAt, revokedById := some actor }⟩

end Docket

/-- What the service needs from elsewhere: who may moderate at a time. -/
structure Policy where
  moderates : Int → Int → Bool

/-- How a transaction ends that raises nothing: it answers an earlier record, or writes
a draft and the receipt of its command. -/
inductive Plan where
  | replays (record : Sanction)
  | writes (draft : Draft) (receipt : Receipt Sanction)

section

variable (policy : Policy) (docket : Docket) (now : Int)

/-- What every command does under its key: who acts must exist and moderate, whom it is
about must exist, and an exact repetition is answered with its record. -/
def underReceipt (scope : String) (info : CommandMeta) (actor : Int) (subject : Option Int)
    (body : Except Failure Draft) : Except Failure Plan := do
  docket.requireAccount actor
  refuse (policy.moderates actor now = false) (.authorizationDenied "moderation.enforce is required")
  subject.forM docket.requireAccount
  let expiresAt := now + 24 * 60 * 60 * 1000
  match ← docket.receipts.claim (scope, info.idempotencyKey) info.requestDigest now expiresAt with
  | (.replay (some record), _) => return .replays record
  | (.replay none, _) => throw (.runtimeError "command receipt contains an invalid sanction result")
  | (.new, _) =>
    let draft ← body
    return .writes draft ⟨info.requestDigest, some draft.record, expiresAt⟩

/-- `ModerationService.impose_sanction` -/
def imposeSanction (fresh : Uuid) (info : CommandMeta) (request : ImposeSanction) : Except Failure Plan := do
  let actor ← actorId info
  let (startsAt, endsAt) ← validatePeriod request.startsAt request.endsAt
  validateScope request.channelId request.teamId
  match SanctionKind.ofText request.kind with
  | none => throw (.inputRejected "sanction kind or reason is invalid")
  | some kind =>
    refuse (Text.strip request.reason = "") (.inputRejected "sanction kind or reason is invalid")
    underReceipt policy docket now "moderation.sanction.impose" info actor (some request.subjectAccountId) do
      match docket.cases.find? (·.caseId = request.caseId) with
      | none => throw (.resourceNotFound "case does not exist")
      | some opened =>
        refuse (opened.status ≠ "open") (.resourceConflict "case is not open")
        refuse (opened.subjectAccountId ≠ request.subjectAccountId)
          (.inputRejected "sanction subject must match case subject")
        docket.imposeSanction fresh request kind startsAt endsAt actor

/-- `ModerationService.extend_sanction` -/
def extendSanction (info : CommandMeta) (sanctionId : Uuid) (endsAt : Datetime)
    (reason : Option String) : Except Failure Plan := do
  let actor ← actorId info
  match endsAt with
  | .naive _ => throw (.inputRejected "sanction end must be timezone-aware")
  | .aware finish =>
    underReceipt policy docket now "moderation.sanction.extend" info actor none
      (docket.extendSanction sanctionId finish actor reason)

/-- `ModerationService.revoke_sanction` -/
def revokeSanction (info : CommandMeta) (sanctionId : Uuid) (reason : String) : Except Failure Plan := do
  let actor ← actorId info
  refuse (Text.strip reason = "") (.inputRejected "revocation reason must not be empty")
  underReceipt policy docket now "moderation.sanction.revoke" info actor none
    (docket.revokeSanction sanctionId now actor reason)

def plan (fresh : Uuid) (info : CommandMeta) : Command → Except Failure Plan
  | .imposeSanction request => imposeSanction policy docket now fresh info request
  | .extendSanction sanctionId endsAt reason => extendSanction policy docket now info sanctionId endsAt reason
  | .revokeSanction sanctionId reason => revokeSanction policy docket now info sanctionId reason

end

/-- The rows that a transaction holds until it ends: `account_exists`, `get_case`,
`get_sanction` and the claim of the key lock what they read. -/
structure Locks where
  accounts : List Int
  cases : List Uuid
  sanctions : List Uuid
  key : String × String

def Command.locks (info : CommandMeta) : Command → Locks
  | .imposeSanction request =>
    ⟨info.actor.toList ++ [request.subjectAccountId], [request.caseId], [],
      ("moderation.sanction.impose", info.idempotencyKey)⟩
  | .extendSanction sanctionId _ _ =>
    ⟨info.actor.toList, [], [sanctionId], ("moderation.sanction.extend", info.idempotencyKey)⟩
  | .revokeSanction sanctionId _ =>
    ⟨info.actor.toList, [], [sanctionId], ("moderation.sanction.revoke", info.idempotencyKey)⟩

/-- Locks that two transactions can hold at once. -/
def Locks.Compatible (one two : Locks) : Prop :=
  one.accounts.Disjoint two.accounts ∧ one.cases.Disjoint two.cases ∧
    one.sanctions.Disjoint two.sanctions ∧ one.key ≠ two.key

/-- A transaction that has decided what it writes. -/
structure Transaction where
  locks : Locks
  draft : Draft
  receipt : Receipt Sanction

def Docket.commit (docket : Docket) (transaction : Transaction) : Except Failure Docket := do
  let sanctions ← (Table.write _ (transaction.draft.change.apply docket.sanctions.rows)).mapError
    .integrityError
  let events ← (docket.events.insert transaction.draft.event).mapError .integrityError
  return { docket with
    sanctions, events
    receipts := Function.update docket.receipts transaction.locks.key (some transaction.receipt) }

/-- The committed rows at a time, with the open transactions. -/
structure Court where
  clock : Int
  docket : Docket
  opened : Nat → Option Transaction

/-- One step of the service. A transaction reads the rows when it has all its locks, at
a time it has looked up before; commits may be subject to a condition. -/
inductive Step (policy : Policy) (allowed : Court → Transaction → Prop) : Court → Court → Prop where
  | opens {court : Court} {identity : Nat} {info : CommandMeta} {command : Command} {now : Int}
      {fresh : Uuid} {draft : Draft}
      {receipt : Receipt Sanction} (free : court.opened identity = none)
      (unlocked : ∀ other transaction, court.opened other = some transaction →
        (command.locks info).Compatible transaction.locks)
      (past : now ≤ court.clock)
      (planned : plan policy court.docket now fresh info command = .ok (.writes draft receipt)) :
      Step policy allowed court { court with
        opened := Function.update court.opened identity (some ⟨command.locks info, draft, receipt⟩) }
  | commits {court : Court} {identity : Nat} {transaction : Transaction} {after : Docket}
      (running : court.opened identity = some transaction) (permitted : allowed court transaction)
      (written : court.docket.commit transaction = .ok after) :
      Step policy allowed court
      { court with docket := after, opened := Function.update court.opened identity none }
  | aborts {court : Court} (identity : Nat) :
      Step policy allowed court { court with opened := Function.update court.opened identity none }
  | waits {court : Court} {clock : Int} (later : court.clock ≤ clock) :
      Step policy allowed court { court with clock }

structure Court.Blank (court : Court) : Prop where
  idle : ∀ identity, court.opened identity = none
  clean : court.docket.sanctions.rows = []

section

variable {policy : Policy} {docket : Docket} {now : Int} {info : CommandMeta} {draft : Draft}
  {receipt : Receipt Sanction}

theorem underReceipt_writes
    (ran : underReceipt policy docket now scope info actor subject body = .ok (.writes draft receipt)) :
    body = .ok draft := by
  obtain ⟨_, _, _, _, ran⟩ := of_bind_bind_eq_ok ran
  obtain ⟨_, _, ⟨claim, _⟩, _, ran⟩ := of_bind_bind_eq_ok ran
  split at ran
  · cases ran
  · cases ran
  · obtain ⟨value, computed, ran⟩ := of_bind_eq_ok ran
    cases ran
    exact computed

/-- A new sanction starts unrevoked, overlaps none of its scope, and its subject is locked. -/
theorem imposeSanction_writes
    (ran : imposeSanction policy docket now fresh info request = .ok (.writes draft receipt)) :
    ∃ sanction : Sanction, draft.change = .inserts sanction ∧ sanction.id = fresh ∧
      sanction.revokedAt = none ∧ sanction.subjectAccountId = request.subjectAccountId ∧
      docket.overlapping sanction.subjectAccountId sanction.kind sanction.channelId sanction.teamId
        sanction.startsAt sanction.endsAt = [] := by
  obtain ⟨actor, _, ⟨startsAt, endsAt⟩, _, ran⟩ := of_bind_bind_eq_ok ran
  obtain ⟨_, _, ran⟩ := of_bind_eq_ok ran
  split at ran
  · cases ran
  obtain ⟨_, _, ran⟩ := of_bind_eq_ok ran
  have body := underReceipt_writes ran
  split at body
  · cases body
  · obtain ⟨_, _, _, _, body⟩ := of_bind_bind_eq_ok body
    obtain ⟨_, _, _, clear, body⟩ := of_bind_bind_eq_ok body
    cases body
    refine ⟨_, rfl, rfl, rfl, rfl, ?_⟩
    exact not_not.mp (refuse_eq_ok.mp clear)

theorem extendSanction_writes
    (ran : extendSanction policy docket now info sanctionId endsAt reason = .ok (.writes draft receipt)) :
    ∃ finish, endsAt = .aware finish ∧ draft.change = .prolongs sanctionId finish := by
  obtain ⟨actor, _, ran⟩ := of_bind_eq_ok ran
  cases endsAt with
  | naive _ => cases ran
  | aware finish =>
    have body := underReceipt_writes ran
    obtain ⟨sanction, _, body⟩ := of_bind_eq_ok body
    split at body
    · split at body
      · cases body
      · cases body
        exact ⟨finish, rfl, rfl⟩
    · cases body

theorem revokeSanction_writes
    (ran : revokeSanction policy docket now info sanctionId reason = .ok (.writes draft receipt)) :
    ∃ actor, draft.change = .revokes sanctionId now actor := by
  obtain ⟨actor, _, _, _, ran⟩ := of_bind_bind_eq_ok ran
  have body := underReceipt_writes ran
  obtain ⟨sanction, _, _, _, body⟩ := of_bind_bind_eq_ok body
  cases body
  exact ⟨actor, rfl⟩

theorem plan_inserts
    (ran : plan policy docket now fresh info command = .ok (.writes draft receipt))
    (inserts : draft.change = .inserts sanction) :
    sanction.revokedAt = none ∧ sanction.subjectAccountId ∈ (command.locks info).accounts ∧
      docket.overlapping sanction.subjectAccountId sanction.kind sanction.channelId sanction.teamId
        sanction.startsAt sanction.endsAt = [] := by
  cases command with
  | imposeSanction request =>
    obtain ⟨imposed, same, _, unrevoked, subject, clear⟩ := imposeSanction_writes ran
    rw [inserts] at same
    cases same
    exact ⟨unrevoked, List.mem_append_right _ (subject ▸ List.mem_singleton_self _), clear⟩
  | extendSanction =>
    obtain ⟨_, _, same⟩ := extendSanction_writes ran
    rw [inserts] at same
    cases same
  | revokeSanction =>
    obtain ⟨_, same⟩ := revokeSanction_writes ran
    rw [inserts] at same
    cases same

theorem commit_rows (ran : docket.commit transaction = .ok after) :
    after.sanctions.rows = transaction.draft.change.apply docket.sanctions.rows := by
  obtain ⟨sanctions, written, events, _, ran⟩ := of_bind_bind_eq_ok ran
  cases ran
  exact Table.write_eq_ok (of_mapError_eq_ok written)

end

end Perfcho.Moderation
