/-
  Grir/Residual.lean --- taking what is left of a document off the clearing account.

  Sources: `clearGlResidual` of `modules/grir-clearing/grirClearingService.ts`,
  `getGlResidualForReference` of `grirClearingRepository.ts` and
  `modules/return-grn/ensureSupplierReturnClearingAccount.ts`.

  The residual of a document is the net-active credit on 2150 of the journals that carry its
  number.  The journal that clears it carries a number of its own.
-/
import SmartErpPos.Grir.Clearing
import SmartErpPos.Ledger.Balances

set_option autoImplicit false

namespace SmartErpPos.Grir

open SmartErpPos.Lib SmartErpPos.Ledger

def SUPPLIER_RETURN_CLEARING : String := "2160"
def GENERAL_EXPENSE : String := "6900"

/-! ## The residual of a document -/

/-- An entry on 2150. -/
def isGrirEntry (db : LedgerDb) (e : LedgerEntry) : Bool :=
  (db.accounts.get? e.accountId).any fun a => a.accountCode = GRIR_CLEARING_ACCOUNT

/-- A net-active transaction with a number. -/
def isActiveNumber (db : LedgerDb) (ref : String) (id : TransactionId) : Bool :=
  isActiveId db id && transactionIs db (fun _ row => row.referenceNumber = ref) id

/-- `SUM(CreditAmount - DebitAmount)`. -/
def residualOf (db : LedgerDb) (ref : String) : Amount :=
  sumEntries db.entries (fun e => isGrirEntry db e && isActiveNumber db ref e.transactionId)
    (·.signed .CREDIT)

/-- `getGlResidualForReference`: the residual in cents, unless it is below one cent. -/
def getGlResidualForReference (db : LedgerDb) (ref : String) : Option (Numeric 2) :=
  if 1 / 100 ≤ |(residualOf db ref).toRat| then some (Numeric.ofRat (residualOf db ref).toRat)
  else none

/-! ## The account for supplier returns -/

/-- The first unused account id. -/
def nextAccountId (db : LedgerDb) : AccountId := db.accounts.keys.foldr max 0 + 1

theorem accounts_nextAccountId (db : LedgerDb) : db.accounts.get? (nextAccountId db) = none := by
  have hle : ∀ (ids : List AccountId), ∀ id ∈ ids, id ≤ ids.foldr max 0 := by
    intro ids
    induction ids with
    | nil => exact fun id h => nomatch h
    | cons x rest ih =>
      intro id h
      rcases List.mem_cons.mp h with rfl | h
      · exact le_max_left _ _
      · exact le_trans (ih id h) (le_max_right _ _)
  cases hget : db.accounts.get? (nextAccountId db) with
  | none => rfl
  | some row =>
    have hmem : nextAccountId db ∈ db.accounts.keys :=
      List.mem_map.mpr ⟨_, OrderedMap.get?_eq_some_iff.mp hget, rfl⟩
    exact absurd (hle _ _ hmem) (Nat.not_succ_le_self _)

/-- The row inserted for 2160. -/
def supplierReturnClearingRow : AccountRow where
  accountCode := SUPPLIER_RETURN_CLEARING
  accountName := "Supplier Return Clearing"
  normalBalance := .CREDIT
  isActive := true
  allowManualPosting := true
  allowedSources := []
  systemAccountTag := none
  currentBalance := 0

/-- `ensureSupplierReturnClearingAccount`.  An inactive account holds the code too. -/
def ensureSupplierReturnClearingAccount (db : LedgerDb) : Except GrirError LedgerDb :=
  if (activeAccountByCode db SUPPLIER_RETURN_CLEARING).isSome then pure db
  else if h : SUPPLIER_RETURN_CLEARING ∈ db.accounts.values.map AccountRow.accountCode then
    .error (.ledger (.database "accounts_AccountCode"))
  else pure
    { db with
      accounts := db.accounts.set (nextAccountId db) supplierReturnClearingRow
      codes_nodup := by
        have hvalues : (db.accounts.set (nextAccountId db) supplierReturnClearingRow).values =
            db.accounts.values ++ [supplierReturnClearingRow] := by
          unfold OrderedMap.values
          rw [OrderedMap.entries_set_of_get?_eq_none (accounts_nextAccountId db), List.map_append]
          rfl
        rw [hvalues, List.map_append, List.nodup_append]
        refine ⟨db.codes_nodup, List.nodup_singleton _, ?_⟩
        rintro code hcode code' hcode' rfl
        rw [List.map_singleton, List.mem_singleton] at hcode'
        rw [hcode'] at hcode
        exact h hcode }

/-! ## Clearing a residual -/

inductive ResidualClearMethod where
  | TO_PRICE_VARIANCE
  | TO_RETURN_CLEARING
  | RECLASS_FROM_EXPENSE
  deriving DecidableEq

def ResidualClearMethod.text : ResidualClearMethod → String
  | .TO_PRICE_VARIANCE => "TO_PRICE_VARIANCE"
  | .TO_RETURN_CLEARING => "TO_RETURN_CLEARING"
  | .RECLASS_FROM_EXPENSE => "RECLASS_FROM_EXPENSE"

/-- `methodLabel`. -/
def ResidualClearMethod.label : ResidualClearMethod → String
  | .TO_PRICE_VARIANCE => "price variance"
  | .TO_RETURN_CLEARING => "return clearing 2160"
  | .RECLASS_FROM_EXPENSE => "expense reclass 6900"

structure ResidualClearData where
  referenceNumber : String
  method : ResidualClearMethod
  amount : Option ℚ
  date : Option IsoDate
  notes : Option String
  /-- The id drawn for the journal. -/
  clearingId : DocumentId

structure ResidualClearResult where
  amountCleared : ℚ
  remainingNetCr : ℚ
  journalReference : String

/-- `journalRef`. -/
def journalRef (ref : String) : String := jsPrefix 60 ("GRIR-RES-" ++ ref)

/-- `clearAbs`: what is asked for, or everything. -/
def ResidualClearData.clearAbs (data : ResidualClearData) (netCr : Numeric 2) : ℚ :=
  match data.amount with
  | some amount => |amount|
  | none => |netCr.toRat|

/-- `residualSign`. -/
def residualSign (netCr : Numeric 2) : ℚ := if 0 ≤ netCr then 1 else -1

/-- A line on 2150 against the residual, and the other account the other way. -/
def residualPair (credit : Bool) (amount : ℚ) (text offsetCode offsetText : String) :
    List JournalLine :=
  [⟨GRIR_CLEARING_ACCOUNT, text, if credit then amount else 0, if credit then 0 else amount,
      none, none⟩,
    ⟨offsetCode, offsetText, if credit then 0 else amount, if credit then amount else 0,
      none, none⟩]

/-- The lines of a method.  An expense is reclassified for a credit residual only. -/
def residualLines (ref : String) (method : ResidualClearMethod) (netCr : Numeric 2) (amount : ℚ) :
    List JournalLine :=
  match method with
  | .RECLASS_FROM_EXPENSE => residualPair true amount
      ("Clear residual " ++ ref ++ " (expense reclass)")
      GENERAL_EXPENSE ("Reclass expense → GR/IR for " ++ ref)
  | .TO_RETURN_CLEARING => residualPair (decide (0 < residualSign netCr)) amount
      ("Move residual " ++ ref ++ " off GR/IR")
      SUPPLIER_RETURN_CLEARING ("Return clearing residual from " ++ ref)
  | .TO_PRICE_VARIANCE => residualPair (decide (0 < residualSign netCr)) amount
      ("Clear residual " ++ ref ++ " to price variance")
      PRICE_VARIANCE ("GR/IR residual write-off " ++ ref)

/-- The journal of a clear. -/
def residualRequest (env : GrirEnv) (data : ResidualClearData) (netCr : Numeric 2) :
    JournalEntryRequest :=
  let ref := jsTrim data.referenceNumber
  let note := jsTrim (data.notes.getD "")
  let entryDate := data.date.getD env.today
  { entryDate := entryDate
    description := "GR/IR residual clear (" ++ data.method.label ++ "): " ++ ref ++
      if note = "" then "" else " — " ++ note
    referenceType := "GRIR_CLEARING"
    referenceId := some data.clearingId
    referenceNumber := journalRef ref
    lines := residualLines ref data.method netCr (data.clearAbs netCr)
    userId := env.userId
    idempotencyKey := "GRIR-RESIDUAL-" ++ data.method.text ++ "-" ++ ref ++ "-" ++
      fixedText 2 (data.clearAbs netCr) ++ "-" ++ entryDate.text
    source := none }

/-- The checks of the amount asked for. -/
def checkAmount (ref : String) (amount : Option ℚ) (netCr : Numeric 2) : Except GrirError Unit :=
  match amount with
  | none => pure ()
  | some amount => do
    let _ ← require (1 / 100 ≤ |amount|) (.validation "amount must be positive")
    require (|amount| ≤ |netCr.toRat| + 1 / 100)
      (.validation ("amount " ++ fixedText 2 |amount| ++ " exceeds open residual " ++
        fixedText 2 |netCr.toRat| ++ " on " ++ ref))

/-- The account a method needs is provisioned first. -/
def ensureAccount (db : LedgerDb) (method : ResidualClearMethod) : Except GrirError LedgerDb :=
  match method with
  | .TO_RETURN_CLEARING => ensureSupplierReturnClearingAccount db
  | .TO_PRICE_VARIANCE | .RECLASS_FROM_EXPENSE => pure db

/-- `clearGlResidual`. -/
def clearGlResidual (env : GrirEnv) (db : LedgerDb) (data : ResidualClearData) :
    Except GrirError (ResidualClearResult × LedgerDb) := do
  let ref := jsTrim data.referenceNumber
  let _ ← require (ref ≠ "") (.validation "referenceNumber is required")
  let netCr ← orThrow (getGlResidualForReference db ref)
    (.notFound ("No open 2150 residual for reference " ++ ref))
  let _ ← require (1 / 100 ≤ |netCr.toRat|) (.validation "Residual already cleared")
  let _ ← checkAmount ref data.amount netCr
  let _ ← require (data.method = .RECLASS_FROM_EXPENSE → 1 / 100 < netCr.toRat)
    (.validation ("RECLASS_FROM_EXPENSE only applies when 2150 still has a credit residual " ++
      "(open GR). For debit residual use TO_PRICE_VARIANCE."))
  let ensured ← ensureAccount db data.method
  let out ← ofLedger (createJournalEntry (env.context db) ensured (residualRequest env data netCr))
  pure (⟨data.clearAbs netCr * residualSign netCr,
    ((getGlResidualForReference out.db ref).map (·.toRat)).getD 0, journalRef ref⟩, out.db)

end SmartErpPos.Grir
