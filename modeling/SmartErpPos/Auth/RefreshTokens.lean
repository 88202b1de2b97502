/-
  Auth/RefreshTokens.lean --- refresh tokens, their rotation and revocation.

  Source: `modules/auth/refreshTokenService.ts`.

  A token is named by its hash.  Every statement goes to the pool and commits by itself, so
  a call is the list of its statements and other calls run between them.  A rotation reads
  the token, marks it and inserts its successor; the update that marks it does not look at
  the row again.
-/
import SmartErpPos.Lib.OrderedMap
import SmartErpPos.Lib.Transition

set_option autoImplicit false

namespace SmartErpPos.Auth

open SmartErpPos.Lib

/-! ## The table -/

abbrev TokenHash := ℕ
abbrev FamilyId := ℕ
abbrev UserId := ℕ
abbrev CallId := ℕ

/-- A row of `refresh_tokens`; times are milliseconds. -/
structure RefreshToken where
  userId : UserId
  familyId : FamilyId
  expiresAt : ℕ
  isRevoked : Bool
  rotatedAt : Option ℕ
  deriving DecidableEq

/-- What a revocation takes with it. -/
inductive Scope where
  | family (familyId : FamilyId)
  | user (userId : UserId)
  deriving DecidableEq

def Scope.covers (scope : Scope) (record : RefreshToken) : Bool :=
  match scope with
  | .family familyId => decide (record.familyId = familyId)
  | .user userId => decide (record.userId = userId)

/-- `expiryDays` of the token configuration, in milliseconds. -/
def REFRESH_TOKEN_EXPIRY : ℕ := 30 * 24 * 60 * 60 * 1000

/-- A revocation that has finished, with the tokens issued until then. -/
structure Revocation where
  scope : Scope
  issued : List TokenHash

/-- A call and the statement it is at.  `rotate` has read nothing yet; a rotation that has
found a revoked token goes on to revoke its family. -/
inductive Call where
  | rotateRefreshToken (token : TokenHash)
  | reuseFound (familyId : FamilyId)
  | rotationChecked (token : TokenHash) (tokenRecord : RefreshToken)
  | rotationMarked (token : TokenHash) (tokenRecord : RefreshToken)
  | revokeTokenFamily (familyId : FamilyId)
  | revokeAllUserTokens (userId : UserId)
  | revokeRefreshToken (token : TokenHash)
  | over
  deriving DecidableEq

/-- The table, the calls, the tokens that were exchanged for a new pair (newest first), and
the revocations of a family or a user that have finished. -/
structure TokenDb where
  tokens : OrderedMap TokenHash RefreshToken
  calls : OrderedMap CallId Call
  exchanged : List TokenHash
  revocations : List Revocation

def TokenDb.empty : TokenDb := ⟨.empty, .empty, [], []⟩

def TokenDb.put (db : TokenDb) (id : CallId) (call : Call) : TokenDb :=
  { db with calls := db.calls.set id call }

/-! ## Statements -/

/-- What a statement finds outside the table: the clock, `is_active` of the user and the
random token it may issue. -/
structure CallEnv where
  now : ℕ
  isActive : Bool
  newToken : TokenHash

/-- The row `generateRefreshToken` inserts. -/
def generateRefreshToken (userId : UserId) (familyId : FamilyId) (now : ℕ) : RefreshToken where
  userId := userId
  familyId := familyId
  expiresAt := now + REFRESH_TOKEN_EXPIRY
  isRevoked := false
  rotatedAt := none

def RefreshToken.revoke (record : RefreshToken) : RefreshToken :=
  { record with isRevoked := true }

/-- `SET is_revoked = true, rotated_at = CURRENT_TIMESTAMP`. -/
def RefreshToken.markRotated (now : ℕ) (record : RefreshToken) : RefreshToken :=
  { record with isRevoked := true, rotatedAt := some now }

/-- The update that revokes a family or all tokens of a user. -/
def TokenDb.revokeScope (db : TokenDb) (scope : Scope) : TokenDb :=
  { db with
    tokens := db.tokens.mapValues fun record =>
      if scope.covers record && !record.isRevoked then record.revoke else record
    revocations := ⟨scope, db.tokens.keys⟩ :: db.revocations }

/-- What a rotation does with the row it has read. -/
def checkToken (env : CallEnv) (token : TokenHash) : Option RefreshToken → Call
  | none => .over
  | some tokenRecord =>
    if tokenRecord.isRevoked then .reuseFound tokenRecord.familyId
    else if tokenRecord.expiresAt < env.now then .over
    else if !env.isActive then .over
    else .rotationChecked token tokenRecord

/-- The next statement of a call; nothing when there is none.  A random token is one that
nobody holds. -/
def TokenDb.run (db : TokenDb) (id : CallId) (env : CallEnv) : Option TokenDb :=
  match db.calls.get? id with
  | none => none
  | some .over => none
  | some (.rotateRefreshToken token) =>
    some (db.put id (checkToken env token (db.tokens.get? token)))
  | some (.reuseFound familyId) => some ((db.revokeScope (.family familyId)).put id .over)
  | some (.rotationChecked token tokenRecord) =>
    let marked := { db with tokens := db.tokens.modify token (.markRotated env.now) }
    some (marked.put id (.rotationMarked token tokenRecord))
  | some (.rotationMarked token tokenRecord) =>
    if (db.tokens.get? env.newToken).isSome then none
    else
      let successor := generateRefreshToken tokenRecord.userId tokenRecord.familyId env.now
      let issued := { db with
        tokens := db.tokens.set env.newToken successor
        exchanged := token :: db.exchanged }
      some (issued.put id .over)
  | some (.revokeTokenFamily familyId) =>
    some ((db.revokeScope (.family familyId)).put id .over)
  | some (.revokeAllUserTokens userId) => some ((db.revokeScope (.user userId)).put id .over)
  | some (.revokeRefreshToken token) =>
    let revoked := { db with tokens := db.tokens.modify token .revoke }
    some (revoked.put id .over)

/-- What can be asked for. -/
inductive Request where
  | rotateRefreshToken (token : TokenHash)
  | revokeTokenFamily (familyId : FamilyId)
  | revokeAllUserTokens (userId : UserId)
  | revokeRefreshToken (token : TokenHash)

def Request.toCall : Request → Call
  | .rotateRefreshToken token => .rotateRefreshToken token
  | .revokeTokenFamily familyId => .revokeTokenFamily familyId
  | .revokeAllUserTokens userId => .revokeAllUserTokens userId
  | .revokeRefreshToken token => .revokeRefreshToken token

/-- A login issues the first token of a new family; a call begins; a call runs its next
statement. -/
inductive TokenAction where
  | login (userId : UserId) (familyId : FamilyId) (env : CallEnv)
  | call (id : CallId) (request : Request)
  | run (id : CallId) (env : CallEnv)

/-- One action; nothing where it cannot happen. -/
def TokenDb.exec (db : TokenDb) : TokenAction → Option TokenDb
  | .login userId familyId env =>
    if (db.tokens.get? env.newToken).isSome ∨
        (∃ e ∈ db.tokens.entries, e.2.familyId = familyId) then none
    else some { db with
      tokens := db.tokens.set env.newToken (generateRefreshToken userId familyId env.now) }
  | .call id request =>
    if (db.calls.get? id).isSome then none else some (db.put id request.toCall)
  | .run id env => db.run id env

/-! ## What the families promise -/

/-- No call is in progress. -/
def TokenDb.Idle (db : TokenDb) : Prop := ∀ e ∈ db.calls.entries, e.2 = .over

instance (db : TokenDb) : Decidable db.Idle := inferInstanceAs (Decidable (∀ e ∈ _, _))

/-- Each family has at most one token that is not revoked, each token was exchanged at most
once, and a revocation left no token in its scope active that was issued before it
finished. -/
structure RotatesSafely (db : TokenDb) : Prop where
  oneActive : ∀ {a b ra rb}, db.tokens.get? a = some ra → db.tokens.get? b = some rb →
    ra.isRevoked = false → rb.isRevoked = false → ra.familyId = rb.familyId → a = b
  exchangedOnce : db.exchanged.Nodup
  revoked : ∀ revocation ∈ db.revocations, ∀ token ∈ revocation.issued, ∀ record,
    db.tokens.get? token = some record → revocation.scope.covers record = true →
      record.isRevoked = true

/-- Where a call is about to mark a token, the token has not been rotated yet. -/
def Call.MarksOnce (tokens : OrderedMap TokenHash RefreshToken) : Call → Prop
  | .rotationChecked token _ => ∀ record ∈ tokens.get? token, record.rotatedAt = none
  | _ => True

instance (tokens : OrderedMap TokenHash RefreshToken) (call : Call) :
    Decidable (call.MarksOnce tokens) := by
  cases call <;> unfold Call.MarksOnce <;> infer_instance

/-- No update marks a token that another rotation has marked. -/
def MarksOnce (db : TokenDb) : TokenAction → Prop
  | .run id _ => ∀ call ∈ db.calls.get? id, call.MarksOnce db.tokens
  | _ => True

instance (db : TokenDb) (action : TokenAction) : Decidable (MarksOnce db action) := by
  cases action <;> unfold MarksOnce <;> infer_instance

end SmartErpPos.Auth
