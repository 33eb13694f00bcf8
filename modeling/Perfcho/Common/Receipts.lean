import Perfcho.Foundation.Struct

/-! Receipts of commands. A command claims its idempotency key in its transaction, and
an exact repetition is answered with the result that was recorded under the key. -/

namespace Perfcho.Common

open Foundation

/-- The failures of application services, and what else a transaction ends with. -/
inductive Failure where
  | valueError (message : String)
  | runtimeError (message : String)
  | integrityError (constraint : String)
  | inputRejected (message : String)
  | resourceNotFound (message : String)
  | resourceConflict (message : String)
  | idempotencyConflict (message : String)
  | authenticationFailed (message : String)
  | authorizationDenied (message : String)

variable {Result : Type}

/-- A claimed key. It has a result once the command that claimed it has completed. -/
structure Receipt (Result : Type) where
  requestDigest : Bytes
  result : Option Result
  expiresAt : Int

/-- The receipts by scope and idempotency key. -/
abbrev Receipts (Result : Type) := String × String → Option (Receipt Result)

/-- `ReceiptClaim` -/
inductive Claim (Result : Type) where
  | new
  | replay (result : Option Result)

namespace Receipts

/-- `CommandReceiptRepository.claim` -/
def claim (receipts : Receipts Result) (key : String × String) (requestDigest : Bytes)
    (now expiresAt : Int) : Except Failure (Claim Result × Receipts Result) :=
  let claimed := Function.update receipts key (some ⟨requestDigest, none, expiresAt⟩)
  if key.1 = "" ∨ key.2 = "" then .error (.valueError "scope and idempotency_key must not be empty")
  else if requestDigest.length ≠ 32 then .error (.valueError "request_digest must contain a SHA-256 digest")
  else if expiresAt ≤ now then .error (.valueError "expires_at must be in the future")
  else match receipts key with
    | none => .ok (.new, claimed)
    | some receipt =>
      if receipt.expiresAt ≤ now then .ok (.new, claimed)
      else if receipt.requestDigest ≠ requestDigest then
        .error (.idempotencyConflict "idempotency key was already used for a different request")
      else .ok (.replay receipt.result, receipts)

end Receipts

end Perfcho.Common
