/-
  Auth/TokenFamilies.lean --- what keeps a family of refresh tokens a chain.

  A family is a chain of tokens: every token but the last has been rotated, and while a
  rotation stands between its update and its insert the last one has been rotated too.  The
  chain forks only where two rotations mark the same token.  Revocations never break it,
  since they leave `rotated_at` alone.
-/
import SmartErpPos.Auth.RefreshTokens

set_option autoImplicit false

namespace SmartErpPos.Auth

open SmartErpPos.Lib

/-! ## What a step does -/

/-- A row after a revocation that may or may not have met it. -/
def RevokedOrNot (record record' : RefreshToken) : Prop :=
  record' = record ∨ record' = record.revoke

/-- What an action can do to the table and to the calls. -/
inductive TokenStep (db : TokenDb) : TokenAction → TokenDb → Prop
  | issues {userId : UserId} {familyId : FamilyId} {env : CallEnv}
      (hfresh : db.tokens.get? env.newToken = none)
      (hfamily : ∀ token record, db.tokens.get? token = some record → record.familyId ≠ familyId) :
      TokenStep db (.login userId familyId env) { db with
        tokens := db.tokens.set env.newToken (generateRefreshToken userId familyId env.now) }
  | moves {action : TokenAction} {id : CallId} {call : Call}
      (hbefore : ∀ token record, db.calls.get? id ≠ some (.rotationMarked token record))
      (hchecked : ∀ token record, call = .rotationChecked token record →
        db.tokens.get? token = some record)
      (hmarked : ∀ token record, call ≠ .rotationMarked token record) :
      TokenStep db action (db.put id call)
  | marks {id : CallId} {env : CallEnv} {token : TokenHash} {tokenRecord : RefreshToken}
      (hcall : db.calls.get? id = some (.rotationChecked token tokenRecord)) :
      TokenStep db (.run id env)
        { db with
          tokens := db.tokens.modify token (.markRotated env.now)
          calls := db.calls.set id (.rotationMarked token tokenRecord) }
  | exchanges {id : CallId} {env : CallEnv} {token : TokenHash} {tokenRecord : RefreshToken}
      (hcall : db.calls.get? id = some (.rotationMarked token tokenRecord))
      (hfresh : db.tokens.get? env.newToken = none) :
      TokenStep db (.run id env)
        { tokens := db.tokens.set env.newToken
            (generateRefreshToken tokenRecord.userId tokenRecord.familyId env.now)
          calls := db.calls.set id .over
          exchanged := token :: db.exchanged
          revocations := db.revocations }
  | revokes {action : TokenAction} {id : CallId} {db' : TokenDb}
      (hbefore : ∀ token record, db.calls.get? id ≠ some (.rotationMarked token record))
      (hcalls : db'.calls = db.calls.set id .over)
      (hexchanged : db'.exchanged = db.exchanged)
      (hrows : ∀ token, Option.Rel RevokedOrNot (db.tokens.get? token) (db'.tokens.get? token))
      (hrevocations : ∀ revocation ∈ db'.revocations, revocation ∈ db.revocations ∨
        ∀ token ∈ revocation.issued, ∃ record, db'.tokens.get? token = some record ∧
          (revocation.scope.covers record = true → record.isRevoked = true)) :
      TokenStep db action db'

variable {token : TokenHash} {id : CallId} {record : RefreshToken} {db' : TokenDb}
  {action : TokenAction}

variable {tokens : OrderedMap TokenHash RefreshToken} {newToken : TokenHash}

theorem mem_keys_iff : token ∈ tokens.keys ↔ ∃ record, tokens.get? token = some record := by
  constructor
  · intro h
    obtain ⟨e, he, rfl⟩ := List.mem_map.mp h
    exact ⟨e.2, OrderedMap.get?_eq_some_iff.mpr he⟩
  · rintro ⟨record, h⟩
    exact List.mem_map.mpr ⟨_, OrderedMap.get?_eq_some_iff.mp h, rfl⟩

/-- The update of a scope revokes what it covers and leaves every other row. -/
theorem revokeScope_step {db : TokenDb} (action : TokenAction) (scope : Scope)
    (hbefore : ∀ token record, db.calls.get? id ≠ some (.rotationMarked token record)) :
    TokenStep db action ((db.revokeScope scope).put id .over) := by
  have hget : ∀ token, (db.revokeScope scope).tokens.get? token =
      (db.tokens.get? token).map fun record =>
        if scope.covers record && !record.isRevoked then record.revoke else record := by
    intro token
    exact OrderedMap.get?_mapValues _ _ token
  refine .revokes hbefore rfl rfl ?_ ?_
  · intro token
    change Option.Rel _ _ ((db.revokeScope scope).tokens.get? token)
    rw [hget]
    cases db.tokens.get? token with
    | none => exact .none
    | some record =>
      refine .some ?_
      dsimp only
      split
      · exact .inr rfl
      · exact .inl rfl
  · intro revocation hmem
    rcases List.mem_cons.mp hmem with rfl | hmem
    · refine .inr fun token htoken => ?_
      obtain ⟨record, hrecord⟩ := mem_keys_iff.mp htoken
      refine ⟨_, (hget token).trans (by rw [hrecord]; rfl), ?_⟩
      dsimp only
      intro hcovers
      split
      · rfl
      · rename_i hnot
        rw [if_neg hnot] at hcovers
        rw [hcovers, Bool.true_and, Bool.not_eq_true, Bool.not_eq_false'] at hnot
        exact hnot
    · exact .inl hmem

/-- A rotation goes on with the row it has read. -/
theorem checkToken_eq_checked {env : CallEnv} {token' : TokenHash} {row : Option RefreshToken}
    (h : checkToken env token row = .rotationChecked token' record) :
    row = some record ∧ token' = token := by
  unfold checkToken at h
  split at h
  · cases h
  · repeat' (split at h)
    all_goals cases h
    exact ⟨rfl, rfl⟩

theorem checkToken_ne_marked {env : CallEnv} {token' : TokenHash} {row : Option RefreshToken} :
    checkToken env token row ≠ .rotationMarked token' record := by
  unfold checkToken
  intro h
  split at h
  · cases h
  · repeat' (split at h)
    all_goals cases h

theorem exec_cases {db : TokenDb} (h : db.exec action = some db') : TokenStep db action db' := by
  cases action with
  | login userId familyId env =>
    simp only [TokenDb.exec] at h
    split at h
    · cases h
    · rename_i hfree
      obtain ⟨hfresh, hfamily⟩ := not_or.mp hfree
      cases h
      refine .issues (by simpa using hfresh) fun token record hget heq => hfamily ?_
      exact ⟨_, OrderedMap.get?_eq_some_iff.mp hget, heq⟩
  | call id request =>
    simp only [TokenDb.exec] at h
    split at h
    · cases h
    · rename_i hfree
      have hnone : db.calls.get? id = none := by simpa using hfree
      cases h
      refine .moves (fun token record => by simp [hnone]) ?_ ?_
      · intro _ _ hcall
        cases request <;> cases hcall
      · intro _ _ hcall
        cases request <;> cases hcall
  | run id env =>
    simp only [TokenDb.exec, TokenDb.run] at h
    split at h
    · cases h
    · cases h
    · rename_i token hcall
      cases h
      refine .moves (fun token record => by simp [hcall]) ?_ ?_
      · intro token' record hchecked
        obtain ⟨hrow, rfl⟩ := checkToken_eq_checked hchecked
        exact hrow
      · exact fun token' record => checkToken_ne_marked
    · rename_i hcall
      cases h
      exact revokeScope_step _ _ fun token record => by simp [hcall]
    · rename_i hcall
      cases h
      exact .marks hcall
    · rename_i hcall
      split at h
      · cases h
      · rename_i hfresh
        cases h
        exact .exchanges hcall (by simpa using hfresh)
    · rename_i hcall
      cases h
      exact revokeScope_step _ _ fun token record => by simp [hcall]
    · rename_i hcall
      cases h
      exact revokeScope_step _ _ fun token record => by simp [hcall]
    · rename_i token hcall
      cases h
      refine .revokes (fun token record => by simp [hcall]) rfl rfl (fun other => ?_)
        fun revocation hmem => .inl hmem
      change Option.Rel _ _ ((db.tokens.modify token .revoke).get? other)
      rw [OrderedMap.get?_modify]
      split
      · rename_i heq
        subst heq
        cases db.tokens.get? other with
        | none => exact .none
        | some record => exact .some (.inr rfl)
      · cases db.tokens.get? other with
        | none => exact .none
        | some record => exact .some (.inl rfl)

/-! ## Chains -/

/-- Every family is a chain: a rotated token is revoked and at most one token is not rotated;
while a rotation is between its update and its insert there is none, and no second such
rotation.  A token was exchanged only after it had been rotated. -/
structure Chained (db : TokenDb) : Prop where
  rotated_revoked : ∀ {token record}, db.tokens.get? token = some record →
    record.rotatedAt ≠ none → record.isRevoked = true
  oneLast : ∀ {a b ra rb}, db.tokens.get? a = some ra → db.tokens.get? b = some rb →
    ra.rotatedAt = none → rb.rotatedAt = none → ra.familyId = rb.familyId → a = b
  checked : ∀ {id token record}, db.calls.get? id = some (.rotationChecked token record) →
    ∃ r, db.tokens.get? token = some r ∧ r.familyId = record.familyId
  marked : ∀ {id token record}, db.calls.get? id = some (.rotationMarked token record) →
    ∃ r, db.tokens.get? token = some r ∧ r.rotatedAt ≠ none ∧ r.familyId = record.familyId
  marked_alone : ∀ {id token record}, db.calls.get? id = some (.rotationMarked token record) →
    ∀ {a ra}, db.tokens.get? a = some ra → ra.familyId = record.familyId → ra.rotatedAt ≠ none
  marked_unique : ∀ {id id' token token' record record'},
    db.calls.get? id = some (.rotationMarked token record) →
      db.calls.get? id' = some (.rotationMarked token' record') →
        record.familyId = record'.familyId → id = id'
  marked_unexchanged : ∀ {id token record},
    db.calls.get? id = some (.rotationMarked token record) → token ∉ db.exchanged
  exchanged_rotated : ∀ token ∈ db.exchanged,
    ∃ r, db.tokens.get? token = some r ∧ r.rotatedAt ≠ none
  exchangedOnce : db.exchanged.Nodup
  revoked : ∀ revocation ∈ db.revocations, ∀ token ∈ revocation.issued,
    ∃ record, db.tokens.get? token = some record ∧
      (revocation.scope.covers record = true → record.isRevoked = true)

theorem Chained.empty : Chained .empty where
  rotated_revoked h := nomatch h
  oneLast h := nomatch h
  checked h := nomatch h
  marked h := nomatch h
  marked_alone h := nomatch h
  marked_unique h := nomatch h
  marked_unexchanged h := nomatch h
  exchanged_rotated _ h := nomatch h
  exchangedOnce := List.nodup_nil
  revoked _ h := nomatch h

/-- Chains rotate safely. -/
theorem Chained.rotatesSafely {db : TokenDb} (h : Chained db) : RotatesSafely db where
  oneActive := by
    intro a b ra rb ha hb hactive hactive' hfamily
    have hlast : ∀ {token record}, db.tokens.get? token = some record →
        record.isRevoked = false → record.rotatedAt = none := by
      intro token record hget hfalse
      by_contra hrotated
      rw [h.rotated_revoked hget hrotated] at hfalse
      cases hfalse
    exact h.oneLast ha hb (hlast ha hactive) (hlast hb hactive') hfamily
  exchangedOnce := h.exchangedOnce
  revoked := by
    intro revocation hrevocation token htoken record hget hcovers
    obtain ⟨record', hget', hrevoked⟩ := h.revoked revocation hrevocation token htoken
    rw [hget] at hget'
    cases hget'
    exact hrevoked hcovers

/-! ## What each statement keeps -/

variable {db : TokenDb}

/-- A call that goes on without touching the table. -/
theorem Chained.moves (h : Chained db) {call : Call}
    (hchecked : ∀ token record, call = .rotationChecked token record →
      db.tokens.get? token = some record)
    (hmarked : ∀ token record, call ≠ .rotationMarked token record) : Chained (db.put id call) := by
  have hold : ∀ {id' token record},
      (db.put id call).calls.get? id' = some (.rotationMarked token record) →
        db.calls.get? id' = some (.rotationMarked token record) := by
    intro id' token record hget
    rw [TokenDb.put, OrderedMap.get?_set] at hget
    split at hget
    · exact absurd (Option.some_inj.mp hget) (hmarked token record)
    · exact hget
  exact
    { h with
      checked := by
        intro id' token record hget
        rw [TokenDb.put, OrderedMap.get?_set] at hget
        split at hget
        · exact ⟨record, hchecked token record (Option.some_inj.mp hget), rfl⟩
        · exact h.checked hget
      marked := fun hget => h.marked (hold hget)
      marked_alone := fun hget => h.marked_alone (hold hget)
      marked_unique := fun hget hget' => h.marked_unique (hold hget) (hold hget')
      marked_unexchanged := fun hget => h.marked_unexchanged (hold hget) }

/-- A new row leaves the others where they are. -/
theorem issued_kept {issued : RefreshToken} (hfresh : tokens.get? newToken = none)
    (hget : tokens.get? token = some record) :
    (tokens.set newToken issued).get? token = some record := by
  have hne : token ≠ newToken := by
    rintro rfl
    rw [hfresh] at hget
    cases hget
  rw [OrderedMap.get?_set_of_ne hne, hget]

theorem issued_cases {issued : RefreshToken}
    (hget : (tokens.set newToken issued).get? token = some record) :
    (token = newToken ∧ record = issued) ∨ tokens.get? token = some record := by
  rw [OrderedMap.get?_set] at hget
  split at hget
  · rename_i heq
    exact .inl ⟨heq, (Option.some_inj.mp hget).symm⟩
  · exact .inr hget

/-- A login starts a chain of its own. -/
theorem Chained.issues (h : Chained db) {userId : UserId} {familyId : FamilyId} {now : ℕ}
    (hfresh : db.tokens.get? newToken = none)
    (hfamily : ∀ token record, db.tokens.get? token = some record →
      record.familyId ≠ familyId) :
    Chained { db with
      tokens := db.tokens.set newToken (generateRefreshToken userId familyId now) } := by
  constructor
  case rotated_revoked =>
    intro token record hget hrotated
    rcases issued_cases hget with ⟨rfl, rfl⟩ | hget
    · exact absurd rfl hrotated
    · exact h.rotated_revoked hget hrotated
  case oneLast =>
    intro a b ra rb ha hb hlast hlast' heq
    rcases issued_cases ha with ⟨hnew, rfl⟩ | hold
    · rcases issued_cases hb with ⟨hnew', rfl⟩ | hold'
      · rw [hnew, hnew']
      · exact absurd heq.symm (hfamily _ _ hold')
    · rcases issued_cases hb with ⟨-, rfl⟩ | hold'
      · exact absurd heq (hfamily _ _ hold)
      · exact h.oneLast hold hold' hlast hlast' heq
  case checked =>
    intro id token record hcall
    obtain ⟨r, hget, hr⟩ := h.checked hcall
    exact ⟨r, issued_kept hfresh hget, hr⟩
  case marked =>
    intro id token record hcall
    obtain ⟨r, hget, hr⟩ := h.marked hcall
    exact ⟨r, issued_kept hfresh hget, hr⟩
  case marked_alone =>
    intro id token record hcall a ra ha heq
    rcases issued_cases ha with ⟨rfl, rfl⟩ | ha
    · obtain ⟨r, hget, -, hr⟩ := h.marked hcall
      exact absurd (hr.trans heq.symm) (hfamily _ _ hget)
    · exact h.marked_alone hcall ha heq
  case marked_unique => exact fun hcall hcall' => h.marked_unique hcall hcall'
  case marked_unexchanged => exact fun hcall => h.marked_unexchanged hcall
  case exchanged_rotated =>
    intro token htoken
    obtain ⟨r, hget, hr⟩ := h.exchanged_rotated token htoken
    exact ⟨r, issued_kept hfresh hget, hr⟩
  case exchangedOnce => exact h.exchangedOnce
  case revoked =>
    intro revocation hrevocation token htoken
    obtain ⟨r, hget, hr⟩ := h.revoked revocation hrevocation token htoken
    exact ⟨r, issued_kept hfresh hget, hr⟩

/-- The update of a rotation that finds its token not rotated yet. -/
theorem Chained.marks (h : Chained db) {id : CallId} {now : ℕ} {token : TokenHash}
    {tokenRecord : RefreshToken}
    (hcall : db.calls.get? id = some (.rotationChecked token tokenRecord))
    (honce : ∀ record, db.tokens.get? token = some record → record.rotatedAt = none) :
    Chained { db with
      tokens := db.tokens.modify token (.markRotated now)
      calls := db.calls.set id (.rotationMarked token tokenRecord) } := by
  obtain ⟨current, hcurrent, hfamily⟩ := h.checked hcall
  have hlast : current.rotatedAt = none := honce current hcurrent
  have hcases : ∀ {other record},
      (db.tokens.modify token (.markRotated now)).get? other = some record →
      (other = token ∧ record = current.markRotated now) ∨
        (other ≠ token ∧ db.tokens.get? other = some record) := by
    intro other record hget
    rw [OrderedMap.get?_modify] at hget
    split at hget
    · rename_i heq
      rw [heq, hcurrent] at hget
      exact .inl ⟨heq, (Option.some_inj.mp hget).symm⟩
    · rename_i hne
      exact .inr ⟨hne, hget⟩
  have hkept : ∀ {other record}, db.tokens.get? other = some record →
      ∃ record', (db.tokens.modify token (.markRotated now)).get? other = some record' ∧
        (record' = record ∨ record' = record.markRotated now) := by
    intro other record hget
    rw [OrderedMap.get?_modify]
    split
    · rename_i heq
      subst heq
      rw [hget]
      exact ⟨_, rfl, .inr rfl⟩
    · exact ⟨record, hget, .inl rfl⟩
  have hcallCases : ∀ {id' other record},
      (db.calls.set id (.rotationMarked token tokenRecord)).get? id' =
        some (.rotationMarked other record) →
      (id' = id ∧ other = token ∧ record = tokenRecord) ∨
        db.calls.get? id' = some (.rotationMarked other record) := by
    intro id' other record hget
    rw [OrderedMap.get?_set] at hget
    split at hget
    · rename_i heq
      cases hget
      exact .inl ⟨heq, rfl, rfl⟩
    · exact .inr hget
  -- no rotation of the family has marked anything: the token is its last one
  have hnone : ∀ {id' other record},
      db.calls.get? id' = some (.rotationMarked other record) →
        record.familyId ≠ tokenRecord.familyId := by
    intro id' other record hmarked heq
    exact h.marked_alone hmarked hcurrent (hfamily.trans heq.symm) hlast
  constructor
  case rotated_revoked =>
    intro other record hget hrotated
    rcases hcases hget with ⟨-, rfl⟩ | ⟨-, hget⟩
    · rfl
    · exact h.rotated_revoked hget hrotated
  case oneLast =>
    intro a b ra rb ha hb hra hrb heq
    rcases hcases ha with ⟨-, rfl⟩ | ⟨-, ha⟩
    · cases hra
    rcases hcases hb with ⟨-, rfl⟩ | ⟨-, hb⟩
    · cases hrb
    exact h.oneLast ha hb hra hrb heq
  case checked =>
    intro id' other record hget
    rw [OrderedMap.get?_set] at hget
    split at hget
    · cases hget
    obtain ⟨r, hr, hrf⟩ := h.checked hget
    obtain ⟨r', hr', rfl | rfl⟩ := hkept hr
    · exact ⟨_, hr', hrf⟩
    · exact ⟨_, hr', hrf⟩
  case marked =>
    intro id' other record hget
    rcases hcallCases hget with ⟨-, rfl, rfl⟩ | hget
    · obtain ⟨r', hr', hrr'⟩ := hkept hcurrent
      rcases hcases hr' with ⟨-, rfl⟩ | ⟨hne, -⟩
      · exact ⟨_, hr', Option.some_ne_none now, hfamily⟩
      · exact absurd rfl hne
    · obtain ⟨r, hr, hrotated, hrf⟩ := h.marked hget
      obtain ⟨r', hr', rfl | rfl⟩ := hkept hr
      · exact ⟨_, hr', hrotated, hrf⟩
      · exact ⟨_, hr', Option.some_ne_none now, hrf⟩
  case marked_alone =>
    intro id' other record hget a ra ha heq
    rcases hcases ha with ⟨-, rfl⟩ | ⟨hne, hold⟩
    · exact Option.some_ne_none now
    rcases hcallCases hget with ⟨-, -, rfl⟩ | hmarked
    · intro hra
      exact hne (h.oneLast hold hcurrent hra hlast (heq.trans hfamily.symm))
    · exact h.marked_alone hmarked hold heq
  case marked_unique =>
    intro id₁ id₂ t₁ t₂ r₁ r₂ h₁ h₂ heq
    rcases hcallCases h₁ with ⟨hid₁, -, rfl⟩ | hold₁
    · rcases hcallCases h₂ with ⟨hid₂, -, -⟩ | hold₂
      · rw [hid₁, hid₂]
      · exact absurd heq.symm (hnone hold₂)
    · rcases hcallCases h₂ with ⟨-, -, rfl⟩ | hold₂
      · exact absurd heq (hnone hold₁)
      · exact h.marked_unique hold₁ hold₂ heq
  case marked_unexchanged =>
    intro id' other record hget
    rcases hcallCases hget with ⟨-, rfl, -⟩ | hget
    · intro hmem
      obtain ⟨r, hr, hrotated⟩ := h.exchanged_rotated _ hmem
      rw [hcurrent] at hr
      cases hr
      exact hrotated hlast
    · exact h.marked_unexchanged hget
  case exchanged_rotated =>
    intro other hmem
    obtain ⟨r, hr, hrotated⟩ := h.exchanged_rotated other hmem
    obtain ⟨r', hr', rfl | rfl⟩ := hkept hr
    · exact ⟨_, hr', hrotated⟩
    · exact ⟨_, hr', Option.some_ne_none now⟩
  case exchangedOnce => exact h.exchangedOnce
  case revoked =>
    intro revocation hrevocation other hmem
    obtain ⟨r, hr, hrevoked⟩ := h.revoked revocation hrevocation other hmem
    obtain ⟨r', hr', rfl | rfl⟩ := hkept hr
    · exact ⟨_, hr', hrevoked⟩
    · exact ⟨_, hr', fun _ => rfl⟩

/-- The insert of a rotation: the new token is the last one of its family again. -/
theorem Chained.exchanges (h : Chained db) {id : CallId} {now : ℕ} {token newToken : TokenHash}
    {tokenRecord : RefreshToken}
    (hcall : db.calls.get? id = some (.rotationMarked token tokenRecord))
    (hfresh : db.tokens.get? newToken = none) :
    Chained
      { tokens := db.tokens.set newToken
          (generateRefreshToken tokenRecord.userId tokenRecord.familyId now)
        calls := db.calls.set id .over
        exchanged := token :: db.exchanged
        revocations := db.revocations } := by
  have hold : ∀ {id' : CallId} {call : Call}, call ≠ .over →
      (db.calls.set id .over).get? id' = some call → id' ≠ id ∧ db.calls.get? id' = some call := by
    intro id' call hne hget
    rw [OrderedMap.get?_set] at hget
    split at hget
    · exact absurd (Option.some_inj.mp hget).symm hne
    · rename_i hid
      exact ⟨hid, hget⟩
  constructor
  case rotated_revoked =>
    intro other record hget hrotated
    rcases issued_cases hget with ⟨-, rfl⟩ | hget
    · exact absurd rfl hrotated
    · exact h.rotated_revoked hget hrotated
  case oneLast =>
    intro a b ra rb ha hb hra hrb heq
    rcases issued_cases ha with ⟨hnew, rfl⟩ | hold
    · rcases issued_cases hb with ⟨hnew', rfl⟩ | hold'
      · rw [hnew, hnew']
      · exact absurd hrb (h.marked_alone hcall hold' heq.symm)
    · rcases issued_cases hb with ⟨-, rfl⟩ | hold'
      · exact absurd hra (h.marked_alone hcall hold heq)
      · exact h.oneLast hold hold' hra hrb heq
  case checked =>
    intro id' other record hget
    obtain ⟨r, hr, hfamily⟩ := h.checked (hold (by simp) hget).2
    exact ⟨r, issued_kept hfresh hr, hfamily⟩
  case marked =>
    intro id' other record hget
    obtain ⟨r, hr, hrotated⟩ := h.marked (hold (by simp) hget).2
    exact ⟨r, issued_kept hfresh hr, hrotated⟩
  case marked_alone =>
    intro id' other record hget a ra ha heq
    obtain ⟨hid, hget⟩ := hold (by simp) hget
    rcases issued_cases ha with ⟨-, rfl⟩ | ha
    · exact absurd (h.marked_unique hget hcall heq.symm) hid
    · exact h.marked_alone hget ha heq
  case marked_unique =>
    intro id₁ id₂ t₁ t₂ r₁ r₂ h₁ h₂ heq
    exact h.marked_unique (hold (by simp) h₁).2 (hold (by simp) h₂).2 heq
  case marked_unexchanged =>
    intro id' other record hget
    obtain ⟨hid, hbefore⟩ := hold (by simp) hget
    intro hmem
    rcases List.mem_cons.mp hmem with rfl | hmem
    · obtain ⟨r, hr, -, hfamily⟩ := h.marked hbefore
      obtain ⟨r', hr', -, hfamily'⟩ := h.marked hcall
      rw [hr] at hr'
      cases hr'
      exact hid (h.marked_unique hbefore hcall (hfamily.symm.trans hfamily'))
    · exact h.marked_unexchanged hbefore hmem
  case exchanged_rotated =>
    intro other hmem
    rcases List.mem_cons.mp hmem with rfl | hmem
    · obtain ⟨r, hr, hrotated, -⟩ := h.marked hcall
      exact ⟨r, issued_kept hfresh hr, hrotated⟩
    · obtain ⟨r, hr, hrotated⟩ := h.exchanged_rotated other hmem
      exact ⟨r, issued_kept hfresh hr, hrotated⟩
  case exchangedOnce => exact List.nodup_cons.mpr ⟨h.marked_unexchanged hcall, h.exchangedOnce⟩
  case revoked =>
    intro revocation hrevocation other hmem
    obtain ⟨r, hr, hrevoked⟩ := h.revoked revocation hrevocation other hmem
    exact ⟨r, issued_kept hfresh hr, hrevoked⟩

/-- A revoked row keeps its family, its user and its place in the chain. -/
theorem RevokedOrNot.kept {record' : RefreshToken} (h : RevokedOrNot record record') :
    record'.familyId = record.familyId ∧ record'.userId = record.userId ∧
      record'.rotatedAt = record.rotatedAt ∧
      (record.isRevoked = true → record'.isRevoked = true) := by
  rcases h with rfl | rfl
  · exact ⟨rfl, rfl, rfl, id⟩
  · exact ⟨rfl, rfl, rfl, fun _ => rfl⟩

theorem Scope.covers_congr {scope : Scope} {record' : RefreshToken}
    (hfamily : record'.familyId = record.familyId) (huser : record'.userId = record.userId) :
    scope.covers record' = scope.covers record := by
  cases scope with
  | family familyId => rw [Scope.covers, Scope.covers, hfamily]
  | user userId => rw [Scope.covers, Scope.covers, huser]

/-- The revocation of a token, a family or a user. -/
theorem Chained.revokes (h : Chained db) (hcalls : db'.calls = db.calls.set id .over)
    (hexchanged : db'.exchanged = db.exchanged)
    (hrows : ∀ token, Option.Rel RevokedOrNot (db.tokens.get? token) (db'.tokens.get? token))
    (hrevocations : ∀ revocation ∈ db'.revocations, revocation ∈ db.revocations ∨
      ∀ token ∈ revocation.issued, ∃ record, db'.tokens.get? token = some record ∧
        (revocation.scope.covers record = true → record.isRevoked = true)) : Chained db' := by
  have hbefore : ∀ {token record'}, db'.tokens.get? token = some record' →
      ∃ record, db.tokens.get? token = some record ∧ RevokedOrNot record record' := by
    intro token record' hget
    have hrel := hrows token
    rw [hget] at hrel
    cases hold : db.tokens.get? token with
    | none =>
      rw [hold] at hrel
      cases hrel
    | some record =>
      rw [hold] at hrel
      cases hrel with
      | some hrow => exact ⟨record, rfl, hrow⟩
  have hafter : ∀ {token record}, db.tokens.get? token = some record →
      ∃ record', db'.tokens.get? token = some record' ∧ RevokedOrNot record record' := by
    intro token record hget
    have hrel := hrows token
    rw [hget] at hrel
    cases hnew : db'.tokens.get? token with
    | none =>
      rw [hnew] at hrel
      cases hrel
    | some record' =>
      rw [hnew] at hrel
      cases hrel with
      | some hrow => exact ⟨record', rfl, hrow⟩
  have hcall : ∀ {id' : CallId} {call : Call}, call ≠ .over →
      db'.calls.get? id' = some call → db.calls.get? id' = some call := by
    intro id' call hne hget
    rw [hcalls, OrderedMap.get?_set] at hget
    split at hget
    · exact absurd (Option.some_inj.mp hget).symm hne
    · exact hget
  constructor
  case rotated_revoked =>
    intro token record' hget hrotated
    obtain ⟨record, hold, hrow⟩ := hbefore hget
    obtain ⟨-, -, hmark, hrevoked⟩ := hrow.kept
    rw [hmark] at hrotated
    exact hrevoked (h.rotated_revoked hold hrotated)
  case oneLast =>
    intro a b ra' rb' ha hb hra hrb heq
    obtain ⟨ra, hold, hrow⟩ := hbefore ha
    obtain ⟨rb, hold', hrow'⟩ := hbefore hb
    obtain ⟨hfamily, -, hmark, -⟩ := hrow.kept
    obtain ⟨hfamily', -, hmark', -⟩ := hrow'.kept
    exact h.oneLast hold hold' (hmark.symm.trans hra) (hmark'.symm.trans hrb)
      (hfamily.symm.trans (heq.trans hfamily'))
  case checked =>
    intro id' token record hget
    obtain ⟨r, hr, hfamily⟩ := h.checked (hcall (by simp) hget)
    obtain ⟨r', hr', hrow⟩ := hafter hr
    exact ⟨r', hr', hrow.kept.1.trans hfamily⟩
  case marked =>
    intro id' token record hget
    obtain ⟨r, hr, hrotated, hfamily⟩ := h.marked (hcall (by simp) hget)
    obtain ⟨r', hr', hrow⟩ := hafter hr
    obtain ⟨hfamily', -, hmark, -⟩ := hrow.kept
    exact ⟨r', hr', hmark ▸ hrotated, hfamily'.trans hfamily⟩
  case marked_alone =>
    intro id' token record hget a ra' ha heq
    obtain ⟨ra, hold, hrow⟩ := hbefore ha
    obtain ⟨hfamily, -, hmark, -⟩ := hrow.kept
    rw [hmark]
    exact h.marked_alone (hcall (by simp) hget) hold (hfamily.symm.trans heq)
  case marked_unique =>
    intro id₁ id₂ t₁ t₂ r₁ r₂ h₁ h₂ heq
    exact h.marked_unique (hcall (by simp) h₁) (hcall (by simp) h₂) heq
  case marked_unexchanged =>
    intro id' token record hget
    rw [hexchanged]
    exact h.marked_unexchanged (hcall (by simp) hget)
  case exchanged_rotated =>
    intro token hmem
    rw [hexchanged] at hmem
    obtain ⟨r, hr, hrotated⟩ := h.exchanged_rotated token hmem
    obtain ⟨r', hr', hrow⟩ := hafter hr
    obtain ⟨-, -, hmark, -⟩ := hrow.kept
    exact ⟨r', hr', hmark ▸ hrotated⟩
  case exchangedOnce =>
    rw [hexchanged]
    exact h.exchangedOnce
  case revoked =>
    intro revocation hmem token htoken
    rcases hrevocations revocation hmem with hmem | hnew
    · obtain ⟨r, hr, hrevoked⟩ := h.revoked revocation hmem token htoken
      obtain ⟨r', hr', hrow⟩ := hafter hr
      obtain ⟨hfamily, huser, -, hkeeps⟩ := hrow.kept
      refine ⟨r', hr', fun hcovers => hkeeps (hrevoked ?_)⟩
      rw [← Scope.covers_congr hfamily huser]
      exact hcovers
    · exact hnew token htoken

/-! ## One action -/

/-- One action that does not mark a token twice keeps the chains. -/
theorem Chained.step {db' : TokenDb} {action : TokenAction} (h : Chained db)
    (hstep : db.exec action = some db') (honce : MarksOnce db action) : Chained db' := by
  cases exec_cases hstep with
  | issues hfresh hfamily => exact h.issues hfresh hfamily
  | moves _ hchecked hmarked => exact h.moves hchecked hmarked
  | marks hcall => exact h.marks hcall fun record hget => honce _ hcall record hget
  | exchanges hcall hfresh => exact h.exchanges hcall hfresh
  | revokes _ hcalls hexchanged hrows hrevocations =>
    exact h.revokes hcalls hexchanged hrows hrevocations

/-! ## A token marked twice -/

/-- A rotation has marked the token and not inserted the successor yet. -/
def TokenDb.MarkedBy (db : TokenDb) (id : CallId) (token : TokenHash) : Prop :=
  ∃ record, db.calls.get? id = some (.rotationMarked token record)

/-- A rotated token has been exchanged, or is about to be. -/
def Accounted (db : TokenDb) : Prop :=
  ∀ token record, db.tokens.get? token = some record → record.rotatedAt ≠ none →
    token ∈ db.exchanged ∨ ∃ id, db.MarkedBy id token

/-- A token has been exchanged twice, or is bound to be. -/
def Forked (db : TokenDb) : Prop :=
  ¬ db.exchanged.Nodup ∨ (∃ id token, db.MarkedBy id token ∧ token ∈ db.exchanged) ∨
    ∃ id id' token, id ≠ id' ∧ db.MarkedBy id token ∧ db.MarkedBy id' token

/-- A call other than the one that runs stays where it is. -/
theorem TokenDb.MarkedBy.kept {id' : CallId} {call : Call}
    (hcalls : db'.calls = db.calls.set id call) (hne : id' ≠ id) (h : db.MarkedBy id' token) :
    db'.MarkedBy id' token := by
  obtain ⟨record, hget⟩ := h
  exact ⟨record, by rw [hcalls, OrderedMap.get?_set_of_ne hne, hget]⟩

theorem TokenDb.MarkedBy.ne {id' : CallId} (h : db.MarkedBy id' token)
    (hbefore : ∀ token record, db.calls.get? id ≠ some (.rotationMarked token record)) :
    id' ≠ id := by
  rintro rfl
  obtain ⟨record, hget⟩ := h
  exact hbefore token record hget

/-- The calls that have marked a token go on to exchange it. -/
theorem TokenDb.MarkedBy.step {db' : TokenDb} {action : TokenAction} {id : CallId} {token : TokenHash}
    (hstep : db.exec action = some db') (h : db.MarkedBy id token) :
    (db'.MarkedBy id token ∧ ∀ t ∈ db.exchanged, t ∈ db'.exchanged) ∨
      (db'.exchanged = token :: db.exchanged ∧
        ∀ {id' token'}, id' ≠ id → db.MarkedBy id' token' → db'.MarkedBy id' token') := by
  cases exec_cases hstep with
  | issues _ _ => exact .inl ⟨h, fun _ ht => ht⟩
  | moves hbefore _ _ => exact .inl ⟨h.kept rfl (h.ne hbefore), fun _ ht => ht⟩
  | marks hcall =>
    refine .inl ⟨h.kept rfl (h.ne fun t r hget => ?_), fun _ ht => ht⟩
    rw [hcall] at hget
    cases hget
  | @exchanges id' env token' tokenRecord hcall hfresh =>
    rcases eq_or_ne id id' with rfl | hne
    · obtain ⟨record, hget⟩ := h
      rw [hcall] at hget
      cases hget
      exact .inr ⟨rfl, fun hne hmarked => hmarked.kept rfl hne⟩
    · exact .inl ⟨h.kept rfl hne, fun _ ht => List.mem_cons_of_mem _ ht⟩
  | revokes hbefore hcalls hexchanged _ _ =>
    exact .inl ⟨h.kept hcalls (h.ne hbefore), fun _ ht => hexchanged ▸ ht⟩

theorem exchanged_suffix (hstep : db.exec action = some db') : db.exchanged <:+ db'.exchanged := by
  cases exec_cases hstep with
  | issues _ _ => exact List.suffix_rfl
  | moves _ _ _ => exact List.suffix_rfl
  | marks _ => exact List.suffix_rfl
  | exchanges _ _ => exact List.suffix_cons _ _
  | revokes _ _ hexchanged _ _ => exact hexchanged ▸ List.suffix_rfl

/-- Nothing undoes a fork. -/
theorem Forked.step {db' : TokenDb} {action : TokenAction} (h : Forked db)
    (hstep : db.exec action = some db') : Forked db' := by
  rcases h with htwice | ⟨id, token, hmarked, hmem⟩ | ⟨id, id', token, hne, hmarked, hmarked'⟩
  · exact .inl fun hnodup => htwice (hnodup.sublist (exchanged_suffix hstep).sublist)
  · rcases hmarked.step hstep with ⟨hstays, hkept⟩ | ⟨hexchanged, -⟩
    · exact .inr (.inl ⟨id, token, hstays, hkept _ hmem⟩)
    · refine .inl fun hnodup => ?_
      rw [hexchanged] at hnodup
      exact (List.nodup_cons.mp hnodup).1 hmem
  · rcases hmarked.step hstep with ⟨hstays, hkept⟩ | ⟨hexchanged, hothers⟩
    · rcases hmarked'.step hstep with ⟨hstays', -⟩ | ⟨hexchanged, -⟩
      · exact .inr (.inr ⟨id, id', token, hne, hstays, hstays'⟩)
      · exact .inr (.inl ⟨id, token, hstays, hexchanged ▸ List.mem_cons_self⟩)
    · exact .inr (.inl ⟨id', token, hothers hne.symm hmarked', hexchanged ▸ List.mem_cons_self⟩)

/-- A rotated token stays accounted for while its row does not change. -/
theorem Accounted.keep (hstep : db.exec action = some db')
    (h : token ∈ db.exchanged ∨ ∃ id, db.MarkedBy id token) :
    token ∈ db'.exchanged ∨ ∃ id, db'.MarkedBy id token := by
  rcases h with hmem | ⟨id, hmarked⟩
  · exact .inl ((exchanged_suffix hstep).subset hmem)
  · rcases hmarked.step hstep with ⟨hstays, -⟩ | ⟨hexchanged, -⟩
    · exact .inr ⟨id, hstays⟩
    · exact .inl (hexchanged ▸ List.mem_cons_self)

theorem Accounted.step {db' : TokenDb} {action : TokenAction} (h : Accounted db)
    (hstep : db.exec action = some db') : Accounted db' := by
  intro token record hget hrotated
  have hkeep : ∀ {r}, db.tokens.get? token = some r → r.rotatedAt ≠ none →
      token ∈ db'.exchanged ∨ ∃ id, db'.MarkedBy id token :=
    fun hr hrot => Accounted.keep hstep (h token _ hr hrot)
  cases exec_cases hstep with
  | issues _ _ =>
    rcases issued_cases hget with ⟨-, rfl⟩ | hget
    · exact absurd rfl hrotated
    · exact hkeep hget hrotated
  | moves _ _ _ => exact hkeep hget hrotated
  | @marks id env marked tokenRecord hcall =>
    rcases eq_or_ne token marked with rfl | hne
    · exact .inr ⟨id, tokenRecord, OrderedMap.get?_set_self _ _ _⟩
    · exact hkeep ((OrderedMap.get?_modify_of_ne hne _ _).symm.trans hget) hrotated
  | exchanges _ _ =>
    rcases issued_cases hget with ⟨-, rfl⟩ | hget
    · exact absurd rfl hrotated
    · exact hkeep hget hrotated
  | revokes _ _ _ hrows _ =>
    have hrel := hrows token
    rw [hget] at hrel
    cases hbefore : db.tokens.get? token with
    | none =>
      rw [hbefore] at hrel
      cases hrel
    | some before =>
      rw [hbefore] at hrel
      cases hrel with
      | some hrow => exact hkeep hbefore (hrow.kept.2.2.1 ▸ hrotated)

/-- An update that marks a rotated token forks its family. -/
theorem Accounted.forks (h : Accounted db) (hstep : db.exec action = some db')
    (htwice : ¬ MarksOnce db action) : Forked db' := by
  cases action with
  | login userId familyId env => exact absurd trivial htwice
  | call id request => exact absurd trivial htwice
  | run id env =>
    simp only [MarksOnce, Option.mem_def, not_forall] at htwice
    obtain ⟨call, hcall, htwice⟩ := htwice
    cases call with
    | rotationChecked token tokenRecord =>
      simp only [Call.MarksOnce, Option.mem_def, not_forall] at htwice
      obtain ⟨record, hget, hrotated⟩ := htwice
      have hafter : db'.MarkedBy id token ∧ db'.exchanged = db.exchanged ∧
          ∀ {id'}, id' ≠ id → db.MarkedBy id' token → db'.MarkedBy id' token := by
        simp only [TokenDb.exec, TokenDb.run, hcall, Option.some.injEq] at hstep
        subst hstep
        exact ⟨⟨tokenRecord, OrderedMap.get?_set_self _ _ _⟩, rfl,
          fun hne hmarked => hmarked.kept rfl hne⟩
      obtain ⟨hmarked, hexchanged, hothers⟩ := hafter
      rcases h token record hget hrotated with hmem | ⟨id', hmarked'⟩
      · exact .inr (.inl ⟨id, token, hmarked, hexchanged ▸ hmem⟩)
      · have hne : id' ≠ id := hmarked'.ne fun t r hget => by
          rw [hcall] at hget
          cases hget
        exact .inr (.inr ⟨id', id, token, hne, hothers hne hmarked', hmarked⟩)
    | _ => exact absurd trivial htwice

/-- With no call in progress a fork is a token that was exchanged twice. -/
theorem Forked.not_nodup (h : Forked db) (hidle : db.Idle) : ¬ db.exchanged.Nodup := by
  have hnone : ∀ {id token}, ¬ db.MarkedBy id token := by
    rintro id token ⟨record, hget⟩
    have hover := hidle _ (OrderedMap.get?_eq_some_iff.mp hget)
    cases hover
  rcases h with htwice | ⟨id, token, hmarked, -⟩ | ⟨id, id', token, -, hmarked, -⟩
  · exact htwice
  · exact absurd hmarked hnone
  · exact absurd hmarked hnone

/-- A run with a forking step ends forked. -/
theorem forked_of_run {ts : List (TokenDb × TokenAction × TokenDb)} {start db : TokenDb}
    (hrun : Run (fun s a s' => TokenDb.exec s a = some s') start ts db) (hstart : Accounted start)
    {t : TokenDb × TokenAction × TokenDb} (ht : t ∈ ts) (htwice : ¬ MarksOnce t.1 t.2.1) :
    Forked db := by
  obtain ⟨-, hall⟩ := hrun.invariant (P := Accounted)
    (fun s a s' hs hstep => Accounted.step hs hstep) hstart
  have hforked : Forked t.2.2 := Accounted.forks (hall t ht).1 (hrun.step_of_mem ht) htwice
  obtain ⟨rest, hrest⟩ := hrun.suffix_of_mem ht
  exact (hrest.invariant (P := Forked) (fun s a s' hs hstep => hs.step hstep) hforked).1

/-! ## Runs -/

/-- Every run from the empty table: where no update marks a token that another rotation has
marked, families rotate safely in every state; and a run with such an update, whatever else
it does, does not end idle with its families safe. -/
theorem rotatesSafely_of_run {ts : List (TokenDb × TokenAction × TokenDb)} {db : TokenDb}
    (hrun : Run (fun s a s' => TokenDb.exec s a = some s') .empty ts db) :
    ((∀ t ∈ ts, MarksOnce t.1 t.2.1) →
      RotatesSafely db ∧ ∀ t ∈ ts, RotatesSafely t.1 ∧ RotatesSafely t.2.2) ∧
    (db.Idle → RotatesSafely db → ∀ t ∈ ts, MarksOnce t.1 t.2.1) := by
  constructor
  · intro honce
    have hchained := hrun.holds (P := Chained) (K := MarksOnce)
      (fun s a s' hs hstep hkeep => hs.step hstep hkeep) honce .empty
    refine ⟨hchained.1.rotatesSafely, fun t ht => ?_⟩
    obtain ⟨hleft, hright⟩ := hchained.2 t ht
    exact ⟨hleft.rotatesSafely, hright.rotatesSafely⟩
  · intro hidle hsafe t ht
    by_contra htwice
    have hforked := forked_of_run hrun (fun _ _ hget => (nomatch hget)) ht htwice
    exact hforked.not_nodup hidle hsafe.exchangedOnce

/-! ## One token, two tabs -/

/-- A user logs in; two tabs refresh with the same token, and both read it before either
marks it. -/
def twoTabs : List TokenAction :=
  let env (newToken : TokenHash) : CallEnv := ⟨0, true, newToken⟩
  [.login 7 1 (env 100), .call 1 (.rotateRefreshToken 100), .call 2 (.rotateRefreshToken 100),
    .run 1 (env 0), .run 2 (env 0), .run 1 (env 0), .run 2 (env 0), .run 1 (env 101),
    .run 2 (env 102)]

/-- One tab refreshes; then the other tab's stale token is recognised. -/
def oneTabFirst : List TokenAction :=
  let env (newToken : TokenHash) : CallEnv := ⟨0, true, newToken⟩
  [.login 7 1 (env 100), .call 1 (.rotateRefreshToken 100), .run 1 (env 0), .run 1 (env 0),
    .run 1 (env 101), .call 2 (.rotateRefreshToken 100), .run 2 (env 0), .run 2 (env 0)]

def TokenDb.after (db : TokenDb) (action : TokenAction) : TokenDb := (db.exec action).getD db

/-- The first tab's rotation is safe and the reuse revokes the family. -/
theorem oneTabFirst_rotatesSafely :
    RotatesSafely (oneTabFirst.foldl .after .empty) :=
  ((rotatesSafely_of_run (.of_exec (by decide +kernel))).1 (by decide +kernel)).1

/-- Both tabs get a new token, the old one has been exchanged twice, and both new tokens are
active. -/
theorem twoTabs_forks :
    Run (fun s a s' => TokenDb.exec s a = some s') .empty
        (transitions TokenDb.after .empty twoTabs) (twoTabs.foldl .after .empty) ∧
      (twoTabs.foldl TokenDb.after .empty).Idle ∧
      ¬ RotatesSafely (twoTabs.foldl TokenDb.after .empty) := by
  refine ⟨.of_exec (by decide +kernel), by decide +kernel, fun h => ?_⟩
  have hexchanged : (twoTabs.foldl TokenDb.after .empty).exchanged = [100, 100] := by
    decide +kernel
  have hnodup := h.exchangedOnce
  rw [hexchanged] at hnodup
  exact absurd hnodup (by decide)

end SmartErpPos.Auth
