/-
  Grir/ResidualOnce.lean --- when clearing a residual clears it.

  A clear moves the residual of the document only when its journal carries the number of the
  document itself and is not found among the earlier ones.  A run in which every clear does so
  takes off what it reports, never more than there was; and it is the only such run.
-/
import Mathlib.Tactic.Linarith
import SmartErpPos.Grir.OneToOne
import SmartErpPos.Grir.Residual
import SmartErpPos.Lib.RoundedRat
import SmartErpPos.Lib.Transition

set_option autoImplicit false

namespace SmartErpPos.Grir

open SmartErpPos.Lib SmartErpPos.Ledger

/-! ## What moves a residual -/

theorem isActiveNumber_congr {db db' : LedgerDb} (h : db'.transactions = db.transactions)
    (ref : String) (t : TransactionId) : isActiveNumber db' ref t = isActiveNumber db ref t := by
  simp only [isActiveNumber, isActiveId_congr h, transactionIs, h]

/-- The residual depends on the transactions, the entries and the codes of their accounts. -/
theorem residualOf_congr {db db' : LedgerDb} (hwf : WellFormed db)
    (htransactions : db'.transactions = db.transactions) (hentries : db'.entries = db.entries)
    (haccounts : ∀ a row, db.accounts.get? a = some row → db'.accounts.get? a = some row)
    (ref : String) : residualOf db' ref = residualOf db ref := by
  unfold residualOf
  rw [hentries]
  refine sumEntries_congr (fun e he => ?_) _
  obtain ⟨row, hrow⟩ := hwf.entryAccount e he
  rw [isActiveNumber_congr htransactions, isGrirEntry, isGrirEntry, hrow, haccounts _ _ hrow]

/-- The residual is a balance of the one account with the code 2150. -/
theorem residualOf_eq {db : LedgerDb} (hwf : WellFormed db) {a : AccountId} {row : AccountRow}
    (hrow : db.accounts.get? a = some row) (hcode : row.accountCode = GRIR_CLEARING_ACCOUNT)
    (ref : String) :
    residualOf db ref =
      balanceOver db (fun e => isActiveNumber db ref e.transactionId) a .CREDIT := by
  unfold residualOf balanceOver
  refine sumEntries_congr (fun e he => ?_) _
  obtain ⟨r, hr⟩ := hwf.entryAccount e he
  congr 1
  rw [Bool.eq_iff_iff, isGrirEntry, hr, Option.any_some, decide_eq_true_eq, decide_eq_true_eq]
  constructor
  · intro h
    exact db.account_unique hr hrow (h.trans hcode.symm)
  · rintro rfl
    rw [hrow] at hr
    cases hr
    exact hcode

section JournalPosted

variable {ctx : PostingContext} {db : LedgerDb} {request : JournalEntryRequest}
  {out : PostingOutcome} {header : TransactionRow} {written : List LedgerEntry} {mid : LedgerDb}

/-- A posting adds one active transaction, with its number. -/
theorem isActiveNumber_posted (hwf : WellFormed db)
    (h : JournalPosted ctx db request out header written mid) (ref : String) (t : TransactionId) :
    isActiveNumber out.db ref t =
      if t = db.nextId then decide (request.referenceNumber = ref)
      else isActiveNumber db ref t := by
  unfold isActiveNumber transactionIs
  rw [h.headerAdded.isActiveId hwf, h.headerAdded.transactions]
  by_cases ht : t = db.nextId
  · rw [if_pos ht, if_pos ht, ht, OrderedMap.get?_set_self, h.header_eq]
    rfl
  · rw [if_neg ht, if_neg ht, OrderedMap.get?_set_of_ne ht]

/-- A posting moves the residual of its own number, by its lines on 2150. -/
theorem residualOf_posted (hwf : WellFormed db)
    (h : JournalPosted ctx db request out header written mid) {line : JournalLine}
    (hline : line ∈ request.lines) (hcode : line.accountCode = GRIR_CLEARING_ACCOUNT)
    (ref : String) :
    residualOf out.db ref = residualOf db ref + if request.referenceNumber = ref then
      linesChange .CREDIT GRIR_CLEARING_ACCOUNT request.lines else 0 := by
  obtain ⟨e, -, -, row, hrow, hrowCode⟩ := exists_right_of_mem h.lines.entered hline
  rw [hcode] at hrowCode
  have hrow : db.accounts.get? e.accountId = some row := hrow
  have hrow' := h.accounts_get? e.accountId
  rw [hrow] at hrow'
  rw [residualOf_eq hwf hrow hrowCode, residualOf_eq (h.wellFormed hwf) hrow' ?_,
    h.balanceOver_after hwf (q := fun l t => isActiveNumber l ref t)
      (isActiveNumber_posted hwf h ref) hrow, hrowCode]
  · simp
  · rw [← hrowCode]
    unfold AccountRow.rebased AccountRow.afterLines
    dsimp only
    split <;> rfl

end JournalPosted

/-! ## One clear -/

/-- The account for supplier returns changes no residual. -/
structure AccountEnsured (db db' : LedgerDb) : Prop where
  wellFormed : WellFormed db'
  transactions : db'.transactions = db.transactions
  residual : ∀ ref, residualOf db' ref = residualOf db ref

theorem AccountEnsured.refl {db : LedgerDb} (hwf : WellFormed db) : AccountEnsured db db :=
  ⟨hwf, rfl, fun _ => rfl⟩

theorem ensureSupplierReturnClearingAccount_ensured {db db' : LedgerDb} (hwf : WellFormed db)
    (h : ensureSupplierReturnClearingAccount db = .ok db') : AccountEnsured db db' := by
  unfold ensureSupplierReturnClearingAccount at h
  split at h
  · rw [pure_eq_ok] at h
    exact h ▸ .refl hwf
  · split at h
    · cases h
    · rw [pure_eq_ok] at h
      have hkeeps : ∀ a row, db.accounts.get? a = some row → db'.accounts.get? a = some row := by
        intro a row hrow
        rw [← h, OrderedMap.get?_set_of_ne, hrow]
        rintro rfl
        rw [accounts_nextAccountId] at hrow
        cases hrow
      have htransactions : db'.transactions = db.transactions := by rw [← h]
      have hentries : db'.entries = db.entries := by rw [← h]
      have hnextId : db'.nextId = db.nextId := by rw [← h]
      refine ⟨?_, htransactions, residualOf_congr hwf htransactions hentries hkeeps⟩
      exact
        { idsBelow := by
            unfold IdsBelow
            rw [htransactions, hnextId]
            exact hwf.idsBelow
          linksBelow := by
            rw [htransactions, hnextId]
            exact hwf.linksBelow
          settled := by
            rw [htransactions]
            exact hwf.settled
          entryTransaction := by
            rw [htransactions, hentries]
            exact hwf.entryTransaction
          entryAccount := by
            rw [hentries]
            intro e he
            obtain ⟨row, hrow⟩ := hwf.entryAccount e he
            exact ⟨row, hkeeps _ _ hrow⟩
          numberUnique := by
            rw [htransactions]
            exact hwf.numberUnique
          keyUnique := by
            rw [htransactions]
            exact hwf.keyUnique }

/-- The journal of the clear is not found among the earlier ones. -/
def WritesResidual (env : GrirEnv) (db : LedgerDb) (data : ResidualClearData) (netCr : Numeric 2) :
    Prop :=
  (LedgerCall.create (env.context db) (residualRequest env data netCr)).Writes db

/-- Finding an earlier journal depends on the transactions only. -/
theorem writes_congr {db db' : LedgerDb} (h : db'.transactions = db.transactions)
    (ctx : PostingContext) (request : JournalEntryRequest) :
    (LedgerCall.create ctx request).Writes db' ↔ (LedgerCall.create ctx request).Writes db := by
  simp only [LedgerCall.Writes, checkIdempotencyKey, existingByReference,
    returnExistingByReference, findActive, isNetActive_congr h, h]

variable {netCr : Numeric 2}

/-- The sign of the residual, as the text of the cents shows it. -/
theorem residualSign_cases {db : LedgerDb} {ref : String}
    (h : getGlResidualForReference db ref = some netCr) :
    (residualSign netCr = 1 ∧ 1 / 100 ≤ (residualOf db ref).toRat) ∨
      (residualSign netCr = -1 ∧ (residualOf db ref).toRat ≤ -(1 / 100)) := by
  unfold getGlResidualForReference at h
  split at h
  · rename_i hlarge
    cases h
    unfold residualSign
    rcases le_abs.mp hlarge with hpos | hneg
    · refine .inl ⟨if_pos (Numeric.ofRat_nonneg ?_), hpos⟩
      linarith
    · refine .inr ⟨if_neg fun hle => ?_, by linarith⟩
      have hcents : (Numeric.ofRat (-(1 / 100)) : Numeric 2) < 0 := by decide +kernel
      have hlow : (residualOf db ref).toRat ≤ -(1 / 100) := by linarith
      have hmono : (Numeric.ofRat (residualOf db ref).toRat : Numeric 2) ≤
          Numeric.ofRat (-(1 / 100)) := Numeric.ofRat_mono hlow
      exact absurd (hle.trans hmono) (not_le_of_gt hcents)
  · cases h

/-- What the lines of a clear take off 2150. -/
theorem linesChange_residualLines (ref : String) (method : ResidualClearMethod) (netCr : Numeric 2)
    (amount : ℚ) (hreclass : method = .RECLASS_FROM_EXPENSE → residualSign netCr = 1)
    (hsign : residualSign netCr = 1 ∨ residualSign netCr = -1) :
    (linesChange .CREDIT GRIR_CLEARING_ACCOUNT (residualLines ref method netCr amount)).toRat =
      -(roundTo 6 amount * residualSign netCr) := by
  have hpair : ∀ credit text code offsetText, code ≠ GRIR_CLEARING_ACCOUNT →
      (linesChange .CREDIT GRIR_CLEARING_ACCOUNT
        (residualPair credit amount text code offsetText)).toRat =
          if credit = true then -roundTo 6 amount else roundTo 6 amount := by
    intro credit text code offsetText hcode
    unfold residualPair
    rw [linesChange_cons, if_pos rfl, linesChange_cons, if_neg hcode, linesChange_nil]
    cases credit <;> simp [JournalLine.storedChange, roundTo]
  have hcodes : PRICE_VARIANCE ≠ GRIR_CLEARING_ACCOUNT ∧
      SUPPLIER_RETURN_CLEARING ≠ GRIR_CLEARING_ACCOUNT ∧
        GENERAL_EXPENSE ≠ GRIR_CLEARING_ACCOUNT := by decide
  have hvalue : (if decide (0 < residualSign netCr) = true then -roundTo 6 amount
      else roundTo 6 amount) = -(roundTo 6 amount * residualSign netCr) := by
    rcases hsign with hsign | hsign
    · rw [hsign]
      norm_num
    · rw [hsign]
      norm_num
  cases method with
  | TO_PRICE_VARIANCE => exact (hpair _ _ _ _ hcodes.1).trans hvalue
  | TO_RETURN_CLEARING => exact (hpair _ _ _ _ hcodes.2.1).trans hvalue
  | RECLASS_FROM_EXPENSE =>
    refine (hpair true _ _ _ hcodes.2.2).trans ?_
    rw [if_pos rfl, hreclass rfl, mul_one]

/-- What a successful clear does. -/
structure ResidualCleared (env : GrirEnv) (db db' : LedgerDb) (data : ResidualClearData)
    (netCr : Numeric 2) (reported : ℚ) : Prop where
  found : getGlResidualForReference db (jsTrim data.referenceNumber) = some netCr
  reported_eq : reported = data.clearAbs netCr * residualSign netCr
  atLeast : 1 / 100 ≤ data.clearAbs netCr
  atMost : data.clearAbs netCr ≤ |netCr.toRat| + 1 / 100
  wellFormed : WellFormed db'
  /-- The residuals stay, or the one the journal is numbered after moves. -/
  residual : (¬ WritesResidual env db data netCr ∧ ∀ ref, residualOf db' ref = residualOf db ref) ∨
    (WritesResidual env db data netCr ∧ ∀ ref, (residualOf db' ref).toRat = (residualOf db ref).toRat -
      if journalRef (jsTrim data.referenceNumber) = ref then
        roundTo 6 (data.clearAbs netCr) * residualSign netCr else 0)

theorem checkAmount_ok {ref : String} {data : ResidualClearData} {u : Unit}
    (hlarge : 1 / 100 ≤ |netCr.toRat|) (h : checkAmount ref data.amount netCr = .ok u) :
    1 / 100 ≤ data.clearAbs netCr ∧ data.clearAbs netCr ≤ |netCr.toRat| + 1 / 100 := by
  unfold ResidualClearData.clearAbs
  cases hamount : data.amount with
  | none => exact ⟨hlarge, by dsimp only; linarith⟩
  | some amount =>
    rw [hamount] at h
    simp only [checkAmount, bind_eq_ok, require_eq_ok] at h
    obtain ⟨-, hsmall, hbound⟩ := h
    exact ⟨hsmall, hbound⟩

theorem clearGlResidual_spec {env : GrirEnv} {db db' : LedgerDb} {data : ResidualClearData}
    {result : ResidualClearResult} (hwf : WellFormed db)
    (h : clearGlResidual env db data = .ok (result, db')) :
    ∃ netCr, ResidualCleared env db db' data netCr result.amountCleared := by
  unfold clearGlResidual at h
  simp only [bind_eq_ok, orThrow_eq_ok, require_eq_ok, pure_eq_ok, ofLedger_eq_ok,
    Prod.mk.injEq] at h
  obtain ⟨-, -, netCr, hfound, -, hlarge, u, hamount, -, hreclass, ensured, hensured, out, hout,
    rfl, rfl⟩ := h
  obtain ⟨hsmall, hbound⟩ := checkAmount_ok hlarge hamount
  have hens : AccountEnsured db ensured := by
    unfold ensureAccount at hensured
    split at hensured
    · exact ensureSupplierReturnClearingAccount_ensured hwf hensured
    · exact pure_eq_ok.mp hensured ▸ .refl hwf
    · exact pure_eq_ok.mp hensured ▸ .refl hwf
  have hsign := residualSign_cases hfound
  have hlines := linesChange_residualLines (jsTrim data.referenceNumber) data.method netCr
    (data.clearAbs netCr) (fun hmethod => by
      unfold residualSign
      exact if_pos (Numeric.toRat_nonneg_iff.mp (le_of_lt (lt_trans (by norm_num)
        (hreclass hmethod)))))
    (hsign.imp And.left And.left)
  have heffect := LedgerCall.effect hens.wellFormed.idsBelow
    (.create (env.context db) (residualRequest env data netCr)) hout
  have hwrites := writes_congr hens.transactions (env.context db) (residualRequest env data netCr)
  refine ⟨netCr, hfound, rfl, hsmall, hbound, heffect.wellFormed hens.wellFormed, ?_⟩
  cases heffect with
  | found hsame _ hfoundEarlier =>
    refine .inl ⟨fun hw => hfoundEarlier (hwrites.mpr hw), fun ref => ?_⟩
    rw [hsame, hens.residual]
  | posted hw hposted =>
    refine .inr ⟨hwrites.mp hw, fun ref => ?_⟩
    have hmem : ∃ line ∈ (residualRequest env data netCr).lines,
        line.accountCode = GRIR_CLEARING_ACCOUNT := by
      unfold residualRequest residualLines
      cases data.method <;> exact ⟨_, List.mem_cons_self, rfl⟩
    obtain ⟨line, hline, hcode⟩ := hmem
    rw [residualOf_posted hens.wellFormed hposted hline hcode, hens.residual, Numeric.toRat_add]
    change _ + (if journalRef (jsTrim data.referenceNumber) = ref then _ else _ : Amount).toRat = _
    split
    · have hvalue : (linesChange .CREDIT GRIR_CLEARING_ACCOUNT
          (residualRequest env data netCr).lines).toRat = _ := hlines
      rw [hvalue]
      ring
    · rw [Numeric.toRat_zero]
      ring

/-! ## Runs of clears of one document -/

/-- A clear and the amount it reports. -/
structure ResidualCall where
  env : GrirEnv
  data : ResidualClearData
  amountCleared : ℚ

/-- A successful clear of a document. -/
def ResidualStep (ref : String) (db : LedgerDb) (call : ResidualCall) (db' : LedgerDb) : Prop :=
  jsTrim call.data.referenceNumber = ref ∧
    ∃ result, clearGlResidual call.env db call.data = .ok (result, db') ∧
      result.amountCleared = call.amountCleared

/-- The condition on a clear, in the ledger before it: its journal carries the number of the
document and is not found among the earlier ones, and the amount is a stored one and not more
than there is. -/
structure MovesResidual (ref : String) (db : LedgerDb) (call : ResidualCall) : Prop where
  ownNumber : journalRef ref = ref
  writes : ∀ netCr, getGlResidualForReference db ref = some netCr →
    WritesResidual call.env db call.data netCr
  stored : ∀ netCr, getGlResidualForReference db ref = some netCr →
    OnGrid 6 (call.data.clearAbs netCr)
  atMost : ∀ netCr, getGlResidualForReference db ref = some netCr →
    call.data.clearAbs netCr ≤ |(residualOf db ref).toRat| + 1 / 100

/-- A clear takes off what it reports. -/
def ClearsExactly (ref : String) (db : LedgerDb) (call : ResidualCall) (db' : LedgerDb) : Prop :=
  (residualOf db' ref).toRat = (residualOf db ref).toRat - call.amountCleared

variable {call : ResidualCall}

theorem ResidualStep.cleared {ref : String} {db db' : LedgerDb} (hwf : WellFormed db)
    (h : ResidualStep ref db call db') :
    ∃ netCr, getGlResidualForReference db ref = some netCr ∧
      ResidualCleared call.env db db' call.data netCr call.amountCleared := by
  obtain ⟨href, result, hclear, hamount⟩ := h
  obtain ⟨netCr, hcleared⟩ := clearGlResidual_spec hwf hclear
  exact ⟨netCr, href ▸ hcleared.found, hamount ▸ hcleared⟩

/-- A clear takes off what it reports exactly when its journal is numbered after the document,
is written, and carries the amount. -/
theorem ResidualStep.exact_iff {ref : String} {db db' : LedgerDb} (hwf : WellFormed db)
    (h : ResidualStep ref db call db') (hfound : getGlResidualForReference db ref = some netCr) :
    ClearsExactly ref db call db' ↔ journalRef ref = ref ∧
      WritesResidual call.env db call.data netCr ∧ OnGrid 6 (call.data.clearAbs netCr) := by
  obtain ⟨netCr', hfound', hcleared⟩ := h.cleared hwf
  rw [hfound] at hfound'
  cases hfound'
  have hsmall := hcleared.atLeast
  have hsign : residualSign netCr = 1 ∨ residualSign netCr = -1 :=
    (residualSign_cases hfound).imp And.left And.left
  have hpos : residualSign netCr * residualSign netCr = 1 := by
    rcases hsign with h | h
    · rw [h]
      norm_num
    · rw [h]
      norm_num
  -- a clear is never of nothing
  have hne : call.amountCleared ≠ 0 := by
    rw [hcleared.reported_eq]
    refine mul_ne_zero (by linarith) fun hzero => ?_
    rw [hzero] at hpos
    norm_num at hpos
  unfold ClearsExactly
  rcases hcleared.residual with ⟨hnot, hsame⟩ | ⟨hwrites, hmoved⟩
  · rw [hsame]
    exact ⟨fun heq => absurd (by linarith) hne, fun ⟨_, hwrites, _⟩ => absurd hwrites hnot⟩
  · rw [hmoved, h.1, hcleared.reported_eq]
    by_cases hown : journalRef ref = ref
    · rw [if_pos hown, onGrid_iff_roundTo_eq]
      constructor
      · intro heq
        have hmul : roundTo 6 (call.data.clearAbs netCr) * residualSign netCr =
            call.data.clearAbs netCr * residualSign netCr := by linarith
        refine ⟨hown, hwrites, ?_⟩
        rcases hsign with hs | hs
        · rw [hs] at hmul
          linarith
        · rw [hs] at hmul
          linarith
      · rintro ⟨-, -, hgrid⟩
        rw [hgrid]
    · rw [if_neg hown]
      refine ⟨fun heq => absurd ?_ hne, fun ⟨hown', _⟩ => absurd hown' hown⟩
      rw [hcleared.reported_eq]
      linarith

theorem ResidualStep.wellFormed {ref : String} {db db' : LedgerDb} (hwf : WellFormed db)
    (h : ResidualStep ref db call db') : WellFormed db' := by
  obtain ⟨netCr, -, hcleared⟩ := h.cleared hwf
  exact hcleared.wellFormed

/-- A clear that meets the condition takes off what it reports. -/
theorem MovesResidual.exact {ref : String} {db db' : LedgerDb} {call : ResidualCall}
    (hmoves : MovesResidual ref db call) (hwf : WellFormed db)
    (h : ResidualStep ref db call db') : ClearsExactly ref db call db' := by
  obtain ⟨netCr, hfound, -⟩ := h.cleared hwf
  exact (h.exact_iff hwf hfound).mpr
    ⟨hmoves.ownNumber, hmoves.writes netCr hfound, hmoves.stored netCr hfound⟩

/-! ## Never more than there was -/

/-- A residual of `q` has become `r`: it is below one cent, or between zero and `q`. -/
def Shrunk (q r : ℚ) : Prop := |r| ≤ 1 / 100 ∨ (0 ≤ r ∧ r ≤ q) ∨ (q ≤ r ∧ r ≤ 0)

theorem Shrunk.refl (q : ℚ) : Shrunk q q := by
  rcases le_total 0 q with hq | hq
  · exact .inr (.inl ⟨hq, le_rfl⟩)
  · exact .inr (.inr ⟨le_rfl, hq⟩)

theorem Shrunk.trans {q r s : ℚ} (h : Shrunk q r) (h' : Shrunk r s) : Shrunk q s := by
  rcases h' with hsmall | ⟨hs, hsr⟩ | ⟨hrs, hs⟩
  · exact .inl hsmall
  · rcases h with hsmall | ⟨-, hrq⟩ | ⟨-, hr⟩
    · exact .inl (abs_le.mpr ⟨by linarith, hsr.trans (abs_le.mp hsmall).2⟩)
    · exact .inr (.inl ⟨hs, hsr.trans hrq⟩)
    · exact .inl (abs_le.mpr ⟨by linarith, by linarith⟩)
  · rcases h with hsmall | ⟨hr, -⟩ | ⟨hqr, -⟩
    · exact .inl (abs_le.mpr ⟨(abs_le.mp hsmall).1.trans hrs, by linarith⟩)
    · exact .inl (abs_le.mpr ⟨by linarith, by linarith⟩)
    · exact .inr (.inr ⟨hqr.trans hrs, hs⟩)

/-- What is gone is at most what there was, and one cent. -/
theorem Shrunk.abs_sub_le {q r : ℚ} (h : Shrunk q r) : |q - r| ≤ |q| + 1 / 100 := by
  rcases h with hsmall | ⟨hr, hrq⟩ | ⟨hqr, hr⟩
  · exact (abs_sub q r).trans (by linarith)
  · rw [abs_of_nonneg (sub_nonneg.mpr hrq), abs_of_nonneg (hr.trans hrq)]
    linarith
  · rw [abs_of_nonpos (sub_nonpos.mpr hqr), abs_of_nonpos (hqr.trans hr)]
    linarith

/-- A clear of at most the residual and one cent shrinks it. -/
theorem ResidualStep.shrunk {ref : String} {db db' : LedgerDb} (hwf : WellFormed db)
    (h : ResidualStep ref db call db') (hexact : ClearsExactly ref db call db')
    (hmost : ∀ netCr, getGlResidualForReference db ref = some netCr →
      call.data.clearAbs netCr ≤ |(residualOf db ref).toRat| + 1 / 100) :
    Shrunk (residualOf db ref).toRat (residualOf db' ref).toRat := by
  obtain ⟨netCr, hfound, hcleared⟩ := h.cleared hwf
  have hle := hmost netCr hfound
  have hsmall := hcleared.atLeast
  unfold ClearsExactly at hexact
  rw [hexact, hcleared.reported_eq]
  rcases residualSign_cases hfound with ⟨hsign, hpos⟩ | ⟨hsign, hneg⟩
  · rw [hsign, mul_one]
    rw [abs_of_nonneg (by linarith)] at hle
    rcases le_total (call.data.clearAbs netCr) (residualOf db ref).toRat with hcase | hcase
    · exact .inr (.inl ⟨by linarith, by linarith⟩)
    · exact .inl (abs_le.mpr ⟨by linarith, by linarith⟩)
  · rw [hsign]
    rw [abs_of_nonpos (by linarith)] at hle
    rcases le_total (call.data.clearAbs netCr) (-(residualOf db ref).toRat) with hcase | hcase
    · exact .inr (.inr ⟨by linarith, by linarith⟩)
    · exact .inl (abs_le.mpr ⟨by linarith, by linarith⟩)

/-- A clear that keeps what is gone within the first residual is of at most what there is, and
one cent. -/
theorem ResidualStep.atMost {ref : String} {db db' : LedgerDb} {q : ℚ} (hwf : WellFormed db)
    (h : ResidualStep ref db call db') (hexact : ClearsExactly ref db call db')
    (hbefore : |q - (residualOf db ref).toRat| ≤ |q| + 1 / 100)
    (hafter : |q - (residualOf db' ref).toRat| ≤ |q| + 1 / 100)
    (hfound : getGlResidualForReference db ref = some netCr) :
    call.data.clearAbs netCr ≤ |(residualOf db ref).toRat| + 1 / 100 := by
  obtain ⟨netCr', hfound', hcleared⟩ := h.cleared hwf
  rw [hfound] at hfound'
  cases hfound'
  have hcents := hcleared.atMost
  unfold ClearsExactly at hexact
  rw [hexact, hcleared.reported_eq] at hafter
  -- a residual of exactly one cent reads as it is
  have hread : netCr = Numeric.ofRat (residualOf db ref).toRat := by
    unfold getGlResidualForReference at hfound
    split at hfound
    · exact (Option.some.inj hfound).symm
    · cases hfound
  have hone : ∀ {r : ℚ}, (residualOf db ref).toRat = r → (Numeric.ofRat r : Numeric 2).toRat = r →
      call.data.clearAbs netCr ≤ |(residualOf db ref).toRat| + 1 / 100 := by
    intro r hr hround
    have hsame : netCr.toRat = (residualOf db ref).toRat := by rw [hread, hr, hround]
    rwa [hsame] at hcents
  obtain ⟨hb₁, hb₂⟩ := abs_le.mp hbefore
  obtain ⟨ha₁, ha₂⟩ := abs_le.mp hafter
  rcases residualSign_cases hfound with ⟨hsign, hpos⟩ | ⟨hsign, hneg⟩
  · rw [hsign, mul_one] at ha₁ ha₂
    rw [abs_of_nonneg (show 0 ≤ (residualOf db ref).toRat by linarith)]
    rcases le_total 0 q with hq | hq
    · rw [abs_of_nonneg hq] at ha₂
      linarith
    · rw [abs_of_nonpos hq] at hb₁
      have hcent : (residualOf db ref).toRat = 1 / 100 := by linarith
      have hle := hone hcent (by decide +kernel)
      rwa [abs_of_nonneg (by linarith)] at hle
  · rw [hsign] at ha₁ ha₂
    rw [abs_of_nonpos (show (residualOf db ref).toRat ≤ 0 by linarith)]
    rcases le_total 0 q with hq | hq
    · rw [abs_of_nonneg hq] at hb₂
      have hcent : (residualOf db ref).toRat = -(1 / 100) := by linarith
      have hle := hone hcent (by decide +kernel)
      rwa [abs_of_nonpos (by linarith)] at hle
    · rw [abs_of_nonpos hq] at ha₁
      linarith

/-! ## Runs -/

/-- The total a run reports as cleared. -/
def totalCleared (steps : List (LedgerDb × ResidualCall × LedgerDb)) : ℚ :=
  (steps.map fun t => t.2.1.amountCleared).sum

/-- Every clear takes off what it reports, and the total is at no time more than there was at
first, and one cent. -/
structure ClearedAtMostOnce (ref : String) (db : LedgerDb)
    (steps : List (LedgerDb × ResidualCall × LedgerDb)) : Prop where
  exactly : ∀ t ∈ steps, ClearsExactly ref t.1 t.2.1 t.2.2
  total : ∀ ts, ts <+: steps → |totalCleared ts| ≤ |(residualOf db ref).toRat| + 1 / 100

section Runs

variable {ref : String} {db db' : LedgerDb} {steps : List (LedgerDb × ResidualCall × LedgerDb)}

theorem totalCleared_eq (hrun : Run (ResidualStep ref) db steps db')
    (hexact : ∀ t ∈ steps, ClearsExactly ref t.1 t.2.1 t.2.2) :
    totalCleared steps = (residualOf db ref).toRat - (residualOf db' ref).toRat :=
  hrun.sum_taken (f := fun l => (residualOf l ref).toRat) (g := ResidualCall.amountCleared) hexact

theorem wellFormed_of_mem (hdb : WellFormed db) (hrun : Run (ResidualStep ref) db steps db')
    {t : LedgerDb × ResidualCall × LedgerDb} (ht : t ∈ steps) : WellFormed t.1 :=
  ((hrun.invariant (P := WellFormed) (fun _ _ _ hs hstep => hstep.wellFormed hs) hdb).2 t ht).1

theorem ClearedAtMostOnce.of_moves (hdb : WellFormed db)
    (hrun : Run (ResidualStep ref) db steps db')
    (hmoves : ∀ t ∈ steps, MovesResidual ref t.1 t.2.1) : ClearedAtMostOnce ref db steps := by
  have hexact : ∀ t ∈ steps, ClearsExactly ref t.1 t.2.1 t.2.2 := fun t ht =>
    (hmoves t ht).exact (wellFormed_of_mem hdb hrun ht) (hrun.step_of_mem ht)
  refine ⟨hexact, ?_⟩
  rintro ts ⟨us, rfl⟩
  obtain ⟨mid, hfirst, -⟩ := hrun.split
  have hmem : ∀ t ∈ ts, t ∈ ts ++ us := fun t ht => List.mem_append_left us ht
  rw [totalCleared_eq hfirst fun t ht => hexact t (hmem t ht)]
  -- along the run the residual shrinks
  have hshrunk := hfirst.ends
    (P := fun l => WellFormed l ∧ Shrunk (residualOf db ref).toRat (residualOf l ref).toRat)
    (K := MovesResidual ref) (fun s call s' hs hstep hmove =>
      ⟨hstep.wellFormed hs.1,
        hs.2.trans (hstep.shrunk hs.1 (hmove.exact hs.1 hstep) hmove.atMost)⟩)
    (fun t ht => hmoves t (hmem t ht)) ⟨hdb, Shrunk.refl _⟩
  exact hshrunk.2.abs_sub_le

/-- Before and after every clear, at most what there was is gone. -/
theorem ClearedAtMostOnce.gone (hrun : Run (ResidualStep ref) db steps db')
    (h : ClearedAtMostOnce ref db steps) {l l' : LedgerDb} {call : ResidualCall}
    (ht : (l, call, l') ∈ steps) :
    |(residualOf db ref).toRat - (residualOf l ref).toRat| ≤
        |(residualOf db ref).toRat| + 1 / 100 ∧
      |(residualOf db ref).toRat - (residualOf l' ref).toRat| ≤
        |(residualOf db ref).toRat| + 1 / 100 := by
  have hfront : ∀ ts mid, ts <+: steps → Run (ResidualStep ref) db ts mid →
      |(residualOf db ref).toRat - (residualOf mid ref).toRat| ≤
        |(residualOf db ref).toRat| + 1 / 100 := by
    intro ts mid hts hfirst
    rw [← totalCleared_eq hfirst fun x hx => h.exactly x (hts.subset hx)]
    exact h.total ts hts
  obtain ⟨before, after, hsteps⟩ := List.append_of_mem ht
  obtain ⟨mid, hfirst, hrest⟩ := (hsteps ▸ hrun).split
  cases hrest with
  | cons hs _ =>
    refine ⟨hfront before _ ⟨_, hsteps.symm⟩ hfirst,
      hfront (before ++ [(l, call, l')]) _ ⟨after, ?_⟩ (hfirst.append (.cons hs (.nil _)))⟩
    rw [hsteps, List.append_assoc]
    rfl

theorem ClearedAtMostOnce.moves (hdb : WellFormed db)
    (hrun : Run (ResidualStep ref) db steps db') (h : ClearedAtMostOnce ref db steps)
    {l l' : LedgerDb} {call : ResidualCall} (ht : (l, call, l') ∈ steps) :
    MovesResidual ref l call := by
  have hwf : WellFormed l := wellFormed_of_mem hdb hrun ht
  have hstep : ResidualStep ref l call l' := hrun.step_of_mem (t := (l, call, l')) ht
  have hexact : ClearsExactly ref l call l' := h.exactly (l, call, l') ht
  obtain ⟨hbefore, hafter⟩ := h.gone hrun ht
  obtain ⟨netCr, hfound, -⟩ := hstep.cleared hwf
  obtain ⟨hown, hwrites, hstored⟩ := (hstep.exact_iff hwf hfound).mp hexact
  have hread : ∀ netCr', getGlResidualForReference l ref = some netCr' → netCr = netCr' := by
    intro netCr' hfound'
    rw [hfound] at hfound'
    exact Option.some.inj hfound'
  refine ⟨hown, fun netCr' hfound' => ?_, fun netCr' hfound' => ?_, fun netCr' hfound' => ?_⟩
  · cases hread netCr' hfound'
    exact hwrites
  · cases hread netCr' hfound'
    exact hstored
  · exact hstep.atMost hwf hexact hbefore hafter hfound'

/-- Below one cent every clear is refused. -/
theorem clearGlResidual_refused {env : GrirEnv} {l : LedgerDb} {data : ResidualClearData}
    (hsmall : |(residualOf l (jsTrim data.referenceNumber)).toRat| < 1 / 100) :
    (clearGlResidual env l data).toBool = false := by
  cases h : clearGlResidual env l data with
  | error e => rfl
  | ok r =>
    unfold clearGlResidual at h
    simp only [bind_eq_ok, orThrow_eq_ok] at h
    obtain ⟨-, -, netCr, hfound, -⟩ := h
    unfold getGlResidualForReference at hfound
    rw [if_neg (not_le_of_gt hsmall)] at hfound
    cases hfound

/-- In a run of clears of a document, each takes off what it reports, and together at most
what there was, exactly when every one of them meets the condition; and what is cleared is
refused. -/
theorem residual_cleared_once (hdb : WellFormed db) (hrun : Run (ResidualStep ref) db steps db') :
    (ClearedAtMostOnce ref db steps ↔ ∀ t ∈ steps, MovesResidual ref t.1 t.2.1) ∧
      (|(residualOf db' ref).toRat| < 1 / 100 → ∀ env data, jsTrim data.referenceNumber = ref →
        (clearGlResidual env db' data).toBool = false) := by
  refine ⟨⟨fun h _ ht => h.moves hdb hrun ht, .of_moves hdb hrun⟩, ?_⟩
  rintro hsmall env data rfl
  exact clearGlResidual_refused hsmall

end Runs

/-! ## A delivery of 100 -/

def varianceAccount : AccountRow := ⟨"5020", "Price Variance", .DEBIT, true, true, [], none, 0⟩

/-- Books with the accounts of a clear to price variance. -/
def varianceBooks : LedgerDb :=
  { books with
    accounts := ((OrderedMap.empty.set 1 grirAccount).set 2 varianceAccount).set 3 rentAccount
    codes_nodup := by decide }

/-- A receipt of 100 that carries a number. -/
def receiptOf (ref : String) : LedgerCall :=
  .create (contextOf .ownTransaction varianceBooks)
    { rentJournal 100 january "receipt" 7 with
      referenceType := "GOODS_RECEIPT"
      referenceNumber := ref
      lines := [⟨"6100", "Goods", 100, 0, none, none⟩, ⟨"2150", "Goods", 0, 100, none, none⟩] }

def received (ref : String) : LedgerDb := (receiptOf ref).after varianceBooks

/-- Everything to price variance. -/
def writeOff (ref : String) : ResidualCall :=
  ⟨clerkEnv, ⟨ref, .TO_PRICE_VARIANCE, none, none, none, 8⟩, 100⟩

def writtenOff (ref : String) : LedgerDb :=
  settled ((clearGlResidual clerkEnv (received ref) (writeOff ref).data).map (·.2)) (received ref)

/-- A number that the number of its journal repeats. -/
def periodicNumber : String :=
  jsPrefix 60 "GRIR-RES-GRIR-RES-GRIR-RES-GRIR-RES-GRIR-RES-GRIR-RES-GRIR-RES-"

theorem varianceBooks_wellFormed : WellFormed varianceBooks :=
  EmptyLedger.wellFormed
    { transactions := rfl
      entries := rfl
      balances := by
        intro a row hrow
        have hall : ∀ e ∈ varianceBooks.accounts.entries, e.2.currentBalance = 0 := by decide
        exact hall (a, row) (OrderedMap.get?_eq_some_iff.mp hrow)
      periodBalances := rfl
      events := rfl }

theorem received_wellFormed {ref : String}
    (h : (((receiptOf ref).run varianceBooks).map (·.db)).toBool = true) :
    WellFormed (received ref) :=
  CallStep.wellFormed varianceBooks_wellFormed (LedgerCall.step_after h)

theorem writeOff_step {ref : String} (href : jsTrim ref = ref)
    (h : (clearGlResidual clerkEnv (received ref) (writeOff ref).data).toOption.map
      (·.1.amountCleared) = some 100) :
    ResidualStep ref (received ref) (writeOff ref) (writtenOff ref) := by
  refine ⟨href, ?_⟩
  unfold writtenOff
  cases hclear : clearGlResidual clerkEnv (received ref) (writeOff ref).data with
  | error e =>
    rw [hclear] at h
    cases h
  | ok r =>
    rw [hclear] at h
    exact ⟨r.1, hclear, Option.some.inj h⟩

theorem periodicNumber_eq : periodicNumber =
    "GRIR-RES-GRIR-RES-GRIR-RES-GRIR-RES-GRIR-RES-GRIR-RES-GRIR-R" := by decide +kernel

/-- A number that the number of its journal repeats: the residual is cleared. -/
theorem residual_cleared_once_periodic :
    ClearedAtMostOnce periodicNumber (received periodicNumber)
      [(received periodicNumber, writeOff periodicNumber, writtenOff periodicNumber)] := by
  rw [periodicNumber_eq]
  generalize hnumber : "GRIR-RES-GRIR-RES-GRIR-RES-GRIR-RES-GRIR-RES-GRIR-RES-GRIR-R" = ref
  have hreceived : WellFormed (received ref) := by
    subst hnumber
    exact received_wellFormed (by decide +kernel)
  have hstep : ResidualStep ref (received ref) (writeOff ref) (writtenOff ref) := by
    subst hnumber
    exact writeOff_step (by decide +kernel) (by decide +kernel)
  have hfound : getGlResidualForReference (received ref) ref = some ⟨10000⟩ := by
    subst hnumber
    decide +kernel
  have hread : ∀ netCr, getGlResidualForReference (received ref) ref = some netCr →
      netCr = ⟨10000⟩ := by
    intro netCr hnetCr
    rw [hfound] at hnetCr
    exact (Option.some.inj hnetCr).symm
  refine (residual_cleared_once hreceived (.cons hstep (.nil _))).1.mpr ?_
  rw [List.forall_mem_singleton]
  subst hnumber
  refine ⟨by decide +kernel, fun netCr hnetCr => ?_, fun netCr hnetCr => ?_, fun netCr hnetCr => ?_⟩
  · cases hread netCr hnetCr
    exact ⟨by decide +kernel, by decide +kernel⟩
  · cases hread netCr hnetCr
    exact onGrid_iff_roundTo_eq.mpr (by decide +kernel)
  · cases hread netCr hnetCr
    decide +kernel

/-- Any other number: the clear reports 100 and the residual stays. -/
theorem residual_stays :
    WellFormed (received "GR-1") ∧
      Run (ResidualStep "GR-1") (received "GR-1")
        [(received "GR-1", writeOff "GR-1", writtenOff "GR-1")] (writtenOff "GR-1") ∧
      ¬ ClearedAtMostOnce "GR-1" (received "GR-1")
        [(received "GR-1", writeOff "GR-1", writtenOff "GR-1")] := by
  refine ⟨received_wellFormed (by decide +kernel),
    .cons (writeOff_step (by decide +kernel) (by decide +kernel)) (.nil _), fun h => ?_⟩
  have hsame : ¬ ClearsExactly "GR-1" (received "GR-1") (writeOff "GR-1") (writtenOff "GR-1") := by
    unfold ClearsExactly
    decide +kernel
  have hexact := h.exactly (received "GR-1", writeOff "GR-1", writtenOff "GR-1") List.mem_cons_self
  exact hsame hexact

end SmartErpPos.Grir
