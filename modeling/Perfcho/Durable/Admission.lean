import Perfcho.Durable.Writes
import Perfcho.Foundation.Struct

/-! Passwords and admission tokens. Both are presented in one field, and the text alone
decides which of the two a credential is taken for. -/

namespace Perfcho.Durable

open Foundation Scoring Multiplayer Function

/-- The keys of the service, with the functions from outside that its checks call:
HMAC-SHA256, the strict base64 decoder and the JSON parser. A decoder that raises
answers with nothing. -/
structure Credentials where
  passwordKey : Bytes
  admissionKey : Bytes
  admissionLifetime : Int
  hmac : Bytes → Bytes → Bytes
  b64decode : String → Option Bytes
  loads : Bytes → Option Json

/-- `str.encode()` -/
def utf8 (text : String) : Bytes := text.toUTF8.data.toList

namespace Credentials

variable (credentials : Credentials)

/-- `_password_verifier` -/
def passwordVerifier (salt password : String) : String :=
  String.ofList (Hex.encode (credentials.hmac credentials.passwordKey (utf8 salt ++ 0 :: utf8 password)))

/-- `_password_fields`, with the salt that it draws. -/
def passwordFields (salt password : String) : Option String × Option String :=
  if password = "" then (none, none) else (some salt, some (credentials.passwordVerifier salt password))

/-- `_verify_password` -/
def verifyPassword (salt verifier : Option String) (password : String) : Except Failure Unit :=
  match salt, verifier with
  | some salt, some verifier =>
    if password = "" ∨ verifier ≠ credentials.passwordVerifier salt password then
      .error (.matchPasswordRejected "room password is incorrect")
    else .ok ()
  | _, _ => if password ≠ "" then .error (.matchPasswordRejected "room does not accept a password")
      else .ok ()

/-- `_base64url_decode`: the missing padding is put back. -/
def base64urlDecode (value : List Char) : Option Bytes :=
  credentials.b64decode (String.ofList (value ++ List.replicate ((4 - value.length % 4) % 4) '='))

/-- The parts around the first dot. -/
def partition : List Char → Option (List Char × List Char)
  | [] => none
  | character :: rest =>
    if character = '.' then some ([], rest) else (partition rest).map fun parts =>
      (character :: parts.1, parts.2)

/-- `str.encode("ascii")` -/
def ascii (text : List Char) : Option Bytes :=
  text.mapM fun character => if character.toNat < 128 then some character.toNat.toUInt8 else none

/-- How a parsed number compares with an account: a truth value is zero or one, and a
float compares by its exact value. -/
def equalsNumber (number : Nat) : Json → Bool
  | .int value => value = number
  | .bool value => value.toNat = number
  | .float bits =>
    let exponent := ((bits >>> 52) &&& 0x7FF).toNat
    let fraction := (bits &&& 0xFFFFFFFFFFFFF).toNat
    let significand := if exponent = 0 then fraction else 2 ^ 52 + fraction
    finiteBits bits && decide (significand * 2 ^ max exponent 1 = number * 2 ^ 1075) &&
      (decide (bits >>> 63 = 0) || decide (number = 0))
  | _ => false

def equalsText (text : String) : Json → Bool
  | .str value => value = text
  | _ => false

/-- `isinstance(value, int)` -/
def integer? : Json → Option Int
  | .int value => some value
  | .bool value => some value.toNat
  | _ => none

/-- What a payload has to say; times are whole seconds of clocks in microseconds. -/
def payloadAccepted (room : RoomRecord) (account : Nat) (now : Int) : Json → Bool
  | .object fields =>
    (fields.lookup "recipient").any (equalsNumber account) &&
      (fields.lookup "room").any (equalsText room.roomId.text) && (fields.lookup "session").any
      (equalsText room.sessionId.text) && ((fields.lookup "exp").bind integer?).any fun expires =>
        decide (now.tdiv 1000000 < expires) &&
          decide (expires ≤ (now + credentials.admissionLifetime).tdiv 1000000)
  | _ => false

/-- The branch of `_verify_admission` for tokens. -/
def tokenAccepted (room : RoomRecord) (account : Nat) (credential : String) (now : Int) : Bool :=
  let accepted : Option Bool := do
    let (_, parts) ← partition credential.toList
    let (encoded, encodedSignature) ← partition parts
    let signature ← credentials.base64urlDecode encodedSignature
    let message ← ascii encoded
    if signature ≠ credentials.hmac credentials.admissionKey message then none
    else do
      let decoded ← credentials.base64urlDecode encoded
      let payload ← credentials.loads decoded
      return credentials.payloadAccepted room account now payload
  accepted.getD false

/-- `credential.startswith("adm.")` -/
def Tokenlike (credential : String) : Prop := "adm.".toList <+: credential.toList

instance : DecidablePred Tokenlike :=
  fun credential => inferInstanceAs (Decidable ("adm.".toList <+: credential.toList))

/-- `_verify_admission` -/
def verifyAdmission (room : RoomRecord) (account : Nat) (credential : String) (now : Int) :
    Except Failure Unit :=
  if Tokenlike credential then
    if credentials.tokenAccepted room account credential now then .ok ()
    else .error (.matchPasswordRejected "room admission token is invalid or expired")
  else credentials.verifyPassword room.passwordSalt room.passwordVerifier credential

/-- A credential that the room takes for a token of the account, and accepts. -/
def ValidToken (room : RoomRecord) (account : Nat) (credential : String) (now : Int) : Prop :=
  Tokenlike credential ∧ credentials.tokenAccepted room account credential now = true

/-- No two messages have one code. -/
def CollisionFree : Prop :=
  ∀ key first second, credentials.hmac key first = credentials.hmac key second → first = second

end Credentials

section

variable {credentials : Credentials}

theorem utf8_injective (same : utf8 first = utf8 second) : first = second :=
  String.toByteArray_inj.mp (ByteArray.ext (Array.toList_inj.mp same))

theorem hexEncode_injective (same : Hex.encode first = Hex.encode second) : first = second := by
  have decoded := congrArg Hex.decode same
  rw [Hex.decode_encode, Hex.decode_encode] at decoded
  exact Option.some.inj decoded

/-- With one salt, one verifier is of one password. -/
theorem passwordVerifier_inj (free : credentials.CollisionFree) :
    credentials.passwordVerifier salt first = credentials.passwordVerifier salt second ↔ first = second := by
  constructor
  · intro same
    have messages := free _ _ _ (hexEncode_injective (String.ofList_injective same))
    exact utf8_injective (List.cons.inj (List.append_cancel_left messages)).2
  · exact congrArg _

theorem verifyPassword_iff (free : credentials.CollisionFree) (salt password presented : String) :
    credentials.verifyPassword (credentials.passwordFields salt password).1
      (credentials.passwordFields salt password).2 presented = .ok () ↔ presented = password := by
  unfold Credentials.passwordFields Credentials.verifyPassword
  by_cases open_ : password = ""
  · rw [if_pos open_, open_]
    by_cases empty : presented = "" <;> simp [empty]
  rw [if_neg open_]
  by_cases empty : presented = ""
  · simp [empty, Ne.symm open_]
  · simp only [empty, false_or, ne_eq, passwordVerifier_inj free]
    by_cases same : password = presented
    · simp [same]
    · simp [same, Ne.symm same]

theorem verifyAdmission_iff (free : credentials.CollisionFree)
    (fields : (room.passwordSalt, room.passwordVerifier) = credentials.passwordFields salt password)
    (untoken : ¬ credentials.ValidToken room account presented now) :
    credentials.verifyAdmission room account presented now = .ok () ↔
      presented = password ∧ ¬ Credentials.Tokenlike presented := by
  unfold Credentials.verifyAdmission
  by_cases token : Credentials.Tokenlike presented
  · have refused : credentials.tokenAccepted room account presented now = false := by
      simpa [Credentials.ValidToken, token] using untoken
    simp [token, refused]
  · have salted : room.passwordSalt = (credentials.passwordFields salt password).1 := congrArg Prod.fst fields
    have verified : room.passwordVerifier = (credentials.passwordFields salt password).2 :=
      congrArg Prod.snd fields
    rw [if_neg token, salted, verified, verifyPassword_iff free]
    simp [token]

end

section

variable {credentials : Credentials} {tables after : Tables}

/-- The commands as the service sends them: those that set a password carry its fields. -/
inductive Sent (credentials : Credentials) : Command → String → Prop where
  | create (request : CreateRequest) (salt password : String) (bounded : password.length ≤ 64)
      (fields : (request.passwordSalt, request.passwordVerifier) = credentials.passwordFields salt password) :
      Sent credentials (.create request) password
  | change (commandId : Uuid) (actor publicId version : Nat) (salt password : String)
      (bounded : password.length ≤ 64) {prefix_ verifier : Option String}
      (fields : (prefix_, verifier) = credentials.passwordFields salt password) :
      Sent credentials (.changePassword commandId actor publicId version prefix_ verifier) password
  | other {command : Command} (creates : ∀ request, command ≠ .create request)
      (changes : ∀ commandId actor publicId version salt verifier,
        command ≠ .changePassword commandId actor publicId version salt verifier) :
      Sent credentials command ""

/-- The password of every room after a command: a room that is new has the password it
was created with, and a logged change replaces the one of the room it has locked. -/
def passwordsAfter (passwords : Uuid → String) (tables after : Tables) (password : String) :
    Command → Uuid → String
  | .create request =>
    if after.rooms.rows.length = tables.rooms.rows.length then passwords
    else update passwords request.roomId password
  | .changePassword _ _ publicId _ _ _ =>
    match tables.entities publicId with
    | none => passwords
    | some (room, _) =>
      if after.events.rows.length = tables.events.rows.length then passwords
      else update passwords room.id password
  | _ => passwords

/-- The tables a run reaches, with the password of every room. -/
inductive Secured (credentials : Credentials) : Tables → (Uuid → String) → Prop where
  | empty : Secured credentials .empty fun _ => ""
  | commits {policies : Policies} {read tables after : Tables} {moment : Moment} {command : Command}
      {password : String} {passwords : Uuid → String} {answer : Option RoomRecord}
      (secured : Secured credentials tables passwords) (sent : Sent credentials command password)
      (ran : transact policies read tables moment command = .ok (answer, after)) :
      Secured credentials after (passwordsAfter passwords tables after password command)
  | rollsBack {tables : Tables} {passwords : Uuid → String} {epochs : Nat}
      (secured : Secured credentials tables passwords) (issued : tables.epochs ≤ epochs) :
      Secured credentials { tables with epochs } passwords

/-- Every row has the fields of its room's password. -/
def Sealed (credentials : Credentials) (tables : Tables) (passwords : Uuid → String) : Prop :=
  ∀ room ∈ tables.rooms.rows, ∃ salt,
    (room.passwordPrefix, room.passwordVerifier) = credentials.passwordFields salt (passwords room.id)

theorem Sealed.replaced (sealed_ : Sealed credentials tables passwords) (stored : room ∈ tables.rooms.rows)
    (rooms : after.rooms.rows = Table.replaced (·.id) tables.rooms.rows edited) (key : edited.id = room.id)
    (fields : (edited.passwordPrefix, edited.passwordVerifier) = (room.passwordPrefix,
      room.passwordVerifier)) :
    Sealed credentials after passwords := by
  intro other member
  rw [rooms] at member
  rcases mem_replaced member with rfl | ⟨old, _⟩
  · rw [fields, key]
    exact sealed_ room stored
  · exact sealed_ other old

theorem room_of_entities (found : tables.entities publicId = some (room, session)) :
    room ∈ tables.rooms.rows :=
  (mem_activeRooms.mp (mem_of_entities found)).1.1

theorem Sealed.opened {request : CreateRequest} (sealed_ : Sealed credentials tables passwords)
    (rooms : after.rooms.rows = tables.rooms.rows ++ [request.room publicId epoch now])
    (fields : (request.passwordSalt, request.passwordVerifier) = credentials.passwordFields salt password) :
    Sealed credentials after (update passwords request.roomId password) := by
  intro room member
  rw [rooms] at member
  rcases of_mem_concat member with old | new
  · have fresh : room.id ≠ request.roomId := fun same =>
      after.rooms.fresh_of_unique List.mem_cons_self rooms rfl room old rfl same
    rw [update_of_ne fresh]
    exact sealed_ room old
  · cases new
    refine ⟨salt, ?_⟩
    rw [show (request.room publicId epoch now).id = request.roomId from rfl, update_self]
    exact fields

theorem Sealed.changed {room : Room} (sealed_ : Sealed credentials tables passwords)
    (rooms : after.rooms.rows = Table.replaced (·.id) tables.rooms.rows
      { room with passwordPrefix := prefix_, passwordVerifier := verifier })
    (fields : (prefix_, verifier) = credentials.passwordFields salt password) :
    Sealed credentials after (update passwords room.id password) := by
  intro other member
  rw [rooms] at member
  rcases mem_replaced member with rfl | ⟨old, different⟩
  · exact ⟨salt, by rw [update_self]; exact fields⟩
  · rw [update_of_ne different]
    exact sealed_ other old

/-- One command keeps the rows in step with the passwords. -/
theorem Sealed.commits {read : Tables}
    (sealed_ : Sealed credentials tables passwords) (sent : Sent credentials command password)
    (ran : transact policies read tables moment command = .ok (answer, after)) :
    Sealed credentials after (passwordsAfter passwords tables after password command) := by
  have same : after.rooms.rows = tables.rooms.rows → Sealed credentials after passwords := by
    intro rooms room member
    exact sealed_ room (rooms ▸ member)
  cases transact_wrote ran with
  | untouched untouched calm =>
    cases sent with
    | create request =>
      unfold passwordsAfter
      dsimp only
      rw [if_pos (by rw [untouched.1])]
      exact same untouched.1
    | change commandId actor publicId version =>
      obtain rfl := calm _ _ _ _ _ _ rfl
      unfold passwordsAfter
      dsimp only
      split
      · exact sealed_
      · rw [if_pos rfl]
        exact sealed_
    | other creates changes =>
      cases command with
      | create request => exact absurd rfl (creates request)
      | changePassword => exact absurd rfl (changes _ _ _ _ _ _)
      | _ => exact same untouched.1
  | opened create rooms _ =>
    cases sent with
    | create request salt _ _ fields =>
      cases create
      unfold passwordsAfter
      dsimp only
      rw [if_neg (by simp [rooms])]
      exact sealed_.opened rooms fields
    | change => cases create
    | other creates => exact absurd create (creates _)
  | settled update rewrites =>
    cases update
    obtain ⟨room, session, found, rooms, _⟩ := rewrites
    exact sealed_.replaced (room_of_entities found) rooms rfl rfl
  | secured change logged rewrites =>
    obtain ⟨room, session, found, rooms, _⟩ := rewrites
    cases sent with
    | create => cases change
    | change commandId actor publicId version salt _ _ fields =>
      cases change
      unfold passwordsAfter
      simp only [found]
      rw [if_neg (by simp [logged])]
      exact sealed_.changed rooms fields
    | other _ changes => exact absurd change (changes _ _ _ _ _ _)
  | started start rooms =>
    cases start
    exact same rooms
  | completed complete rooms =>
    cases complete
    exact same rooms
  | closed departs found _ rooms _ =>
    have kept := sealed_.replaced (room_of_entities found) rooms rfl rfl
    cases command with
    | create | changePassword => cases departs
    | _ => exact kept

theorem Secured.sealed_ (secured : Secured credentials tables passwords) :
    Sealed credentials tables passwords := by
  induction secured with
  | empty => exact fun _ member => absurd member List.not_mem_nil
  | commits _ sent ran ih => exact ih.commits sent ran
  | rollsBack _ _ ih => exact ih

theorem record_password (ran : record room session = .ok made) :
    (made.passwordSalt, made.passwordVerifier) = (room.passwordPrefix, room.passwordVerifier) := by
  unfold record at ran
  split at ran
  · cases ran
  · unfold RoomRecord.new at ran
    iterate 7 (split at ran; rotate_left; cases ran)
    cases ran
    rfl

/-- What a join compares in a run: of the credentials that are no token, the room
accepts its password and nothing else, unless the password looks like a token. -/
theorem admission_iff (free : credentials.CollisionFree) (secured : Secured credentials tables passwords)
    (found : tables.getRoom publicId = .ok (some room))
    (untoken : ¬ credentials.ValidToken room account presented now) :
    (credentials.verifyAdmission room account presented now = .ok () ↔ presented = passwords room.roomId) ↔
      ¬ (presented = passwords room.roomId ∧ Credentials.Tokenlike presented) := by
  obtain ⟨stored, session, active, _, recorded⟩ := getRoom_eq_some found
  obtain ⟨salt, fields⟩ := secured.sealed_ stored (mem_activeRooms.mp active).1.1
  have key := (record_eq_ok recorded).1
  rw [← record_password recorded, ← key] at fields
  rw [verifyAdmission_iff free fields untoken]
  tauto

end

/-- Codes that are their messages; nothing decodes. -/
def plainCredentials : Credentials where
  passwordKey := [1]
  admissionKey := [2]
  admissionLifetime := 60000000
  hmac _ message := message
  b64decode _ := none
  loads _ := none

theorem plainCredentials_free : plainCredentials.CollisionFree := fun _ _ _ same => same

def guardedRequest (password : String) : CreateRequest where
  commandId := sampleKey 10
  actor := 1
  connectionSessionId := sampleKey 101
  settings := sampleSettings
  capacity := 3
  publicIdLimit := 64
  protocol := "stable"
  passwordSalt := (plainCredentials.passwordFields "salt" password).1
  passwordVerifier := (plainCredentials.passwordFields "salt" password).2
  roomId := sampleKey 11
  sessionId := sampleKey 12
  presenceId := sampleKey 13

def guarded (password : String) :
    Tables := perform openPolicies .empty (⟨1, 0⟩, .create (guardedRequest password))

def guardedPasswords (password : String) : Uuid → String :=
  passwordsAfter (fun _ => "") .empty (guarded password) password (.create (guardedRequest password))

theorem guarded_secured (bounded : password.length ≤ 64)
    (creates : (transact openPolicies .empty .empty ⟨1,
      0⟩ (.create (guardedRequest password))).toOption.isSome = true) :
    Secured plainCredentials (guarded password) (guardedPasswords password) := by
  unfold guardedPasswords guarded perform
  cases ran : transact openPolicies .empty .empty ⟨1, 0⟩ (.create (guardedRequest password)) with
  | error failure =>
    rw [ran] at creates
    cases creates
  | ok result => exact Secured.empty.commits (.create _ "salt" password bounded rfl) ran

/-- The password of a room that looks like a token is refused as one. -/
theorem tokenlike_password_refused : Secured plainCredentials (guarded "adm.in") (guardedPasswords "adm.in") ∧
    ∃ room, (guarded "adm.in").getRoom 1 = .ok (some room) ∧ guardedPasswords "adm.in" room.roomId =
      "adm.in" ∧ ¬ plainCredentials.ValidToken room 2 "adm.in" 5 ∧
      plainCredentials.verifyAdmission room 2 "adm.in" 5 =
        .error (.matchPasswordRejected "room admission token is invalid or expired") := by
  refine ⟨guarded_secured (by decide) (by decide), ?_⟩
  have listed : ((guarded "adm.in").getRoom 1).toOption.join.map (·.roomId) = some (sampleKey 11) := by decide
  have named : guardedPasswords "adm.in" (sampleKey 11) = "adm.in" := by decide
  obtain ⟨room, found, key⟩ := Option.map_eq_some_iff.mp listed
  refine ⟨room, eq_ok_of_join found, key ▸ named, ?_, ?_⟩
  · rintro ⟨_, accepted⟩
    cases accepted
  · rfl

theorem guarded_admits :
    ∃ room, (guarded "secret").getRoom 1 = .ok (some room) ∧
      guardedPasswords "secret" room.roomId = "secret" ∧
      (plainCredentials.verifyAdmission room 2 "secret" 5 = .ok () ↔
        "secret" = guardedPasswords "secret" room.roomId) := by
  have secured : Secured plainCredentials (guarded "secret") (guardedPasswords "secret") :=
    guarded_secured (by decide) (by decide)
  have listed : ((guarded "secret").getRoom 1).toOption.join.map (·.roomId) = some (sampleKey 11) := by decide
  have named : guardedPasswords "secret" (sampleKey 11) = "secret" := by decide
  obtain ⟨room, found, key⟩ := Option.map_eq_some_iff.mp listed
  have located := eq_ok_of_join found
  have plain : ¬ Credentials.Tokenlike "secret" := by decide
  refine ⟨room, located, key ▸ named, ?_⟩
  exact (admission_iff plainCredentials_free secured located fun token => plain token.1).mpr
    fun both => plain both.2

end Perfcho.Durable
