/-
  Currency/Revaluation.lean --- period-end revaluation of foreign-currency balances.

  Sources: `services/currencyRevaluationService.ts` and `20260409_sap_gap_features.sql`.

  An entry of the ledger carries a currency and an amount in it.  A revaluation compares the
  book value of each account and currency with the balance at the latest rate, and posts the
  differences against exchange gains and losses; it may take the journal back on the next day.
  The balances are read from what is posted, whatever reverses it.

  Amounts are exact; a rate of zero counts as one, as a missing rate does.
-/
import Mathlib.Data.Finset.Dedup
import SmartErpPos.Ledger.TextReference
import SmartErpPos.Lib.RoundedRat

set_option autoImplicit false

namespace SmartErpPos.Currency

open SmartErpPos.Lib SmartErpPos.Ledger

/-! ## Rows -/

/-- The currency columns of an entry. -/
structure EntryCurrency where
  transactionCurrency : Option String
  transactionAmount : Option (Numeric 2)
  deriving DecidableEq

/-- A row of `exchange_rates`. -/
structure ExchangeRateRow where
  fromCurrency : String
  rate : Numeric 8
  effectiveDate : IsoDate
  deriving DecidableEq

/-- The ledger, the currencies of its entries by transaction and line, the rates and the
functional currency. -/
structure FxDb where
  ledger : LedgerDb
  currencies : OrderedMap (TransactionId × ℕ) EntryCurrency
  exchangeRates : List ExchangeRateRow
  functionalCurrency : String

/-- The currency columns of an entry, with the default of the table. -/
def FxDb.currencyOf (db : FxDb) (e : LedgerEntry) : EntryCurrency :=
  (db.currencies.get? (e.transactionId, e.lineNumber)).getD ⟨some "UGX", none⟩

/-! ## Balances -/

/-- The entry is in a foreign currency. -/
def FxDb.isForeign (db : FxDb) (e : LedgerEntry) : Bool :=
  (db.currencyOf e).transactionCurrency.any fun c => c ≠ db.functionalCurrency

/-- The transactions of a kind up to a date. -/
def upTo (kind : LedgerDb → TransactionId → TransactionRow → Bool) (db : FxDb) (date : IsoDate)
    (e : LedgerEntry) : Bool :=
  transactionIs db.ledger (fun id row => kind db.ledger id row && row.transactionDate.le date)
    e.transactionId

/-- What the query counts: everything with status `POSTED`. -/
def posted (_ : LedgerDb) (_ : TransactionId) (row : TransactionRow) : Bool :=
  row.status = .POSTED

/-- The entries of an account in a currency. -/
def FxDb.entriesIn (db : FxDb) (counts : LedgerEntry → Bool) (account : AccountId)
    (currency : String) : List LedgerEntry :=
  db.ledger.entries.filter fun e => counts e && decide (e.accountId = account) &&
    decide ((db.currencyOf e).transactionCurrency = some currency)

/-- `SUM(COALESCE(le."TransactionAmount", 0))`. -/
def FxDb.foreignSum (db : FxDb) (entries : List LedgerEntry) : ℚ :=
  (entries.map fun e => ((db.currencyOf e).transactionAmount.getD 0).toRat).sum

/-- `SUM(le."DebitAmount" - le."CreditAmount")`. -/
def baseSum (entries : List LedgerEntry) : ℚ :=
  (entries.map fun e => (e.debitAmount - e.creditAmount).toRat).sum

/-- The latest of two rates; the first of one day. -/
def laterRate (found : Option ExchangeRateRow) (row : ExchangeRateRow) :
    Option ExchangeRateRow :=
  match found with
  | none => some row
  | some best => if row.effectiveDate.le best.effectiveDate then some best else some row

/-- The latest rate of a currency up to a date. -/
def FxDb.latestRate (db : FxDb) (date : IsoDate) (currency : String) : Option ℚ :=
  ((db.exchangeRates.filter fun row => decide (row.fromCurrency = currency) &&
    row.effectiveDate.le date).foldl laterRate none).map (·.rate.toRat)

/-- `rateMap.get(code) || 1`. -/
def FxDb.rateOf (db : FxDb) (date : IsoDate) (currency : String) : ℚ :=
  ((db.latestRate date currency).filter fun rate => rate ≠ 0).getD 1

/-! ## The preview -/

structure CurrencyBalance where
  accountCode : String
  accountName : String
  currencyCode : String
  foreignBalance : ℚ
  bookValueBase : ℚ
  revaluedBase : ℚ
  unrealizedGainLoss : ℚ
  exchangeRate : ℚ
  deriving DecidableEq

/-- What the query counts up to a date. -/
def FxDb.counted (db : FxDb) (date : IsoDate) (e : LedgerEntry) : Bool := upTo posted db date e

/-- The accounts and currencies of the query. -/
def FxDb.groups (db : FxDb) (date : IsoDate) : List (AccountId × String) :=
  ((db.ledger.entries.filter fun e => db.counted date e && db.isForeign e).filterMap fun e =>
    (db.currencyOf e).transactionCurrency.map fun c => (e.accountId, c)).dedup

/-- The row of a group. -/
def FxDb.balanceOf (db : FxDb) (date : IsoDate) (account : AccountRow) (id : AccountId)
    (currency : String) : CurrencyBalance :=
  let entries := db.entriesIn (db.counted date) id currency
  let foreignBalance := db.foreignSum entries
  let bookValueBase := baseSum entries
  let rate := db.rateOf date currency
  let revaluedBase := roundTo 2 (foreignBalance * rate)
  { accountCode := account.accountCode
    accountName := account.accountName
    currencyCode := currency
    foreignBalance := foreignBalance
    bookValueBase := bookValueBase
    revaluedBase := revaluedBase
    unrealizedGainLoss := revaluedBase - bookValueBase
    exchangeRate := rate }

/-- `preview`. -/
def FxDb.preview (db : FxDb) (date : IsoDate) : List CurrencyBalance :=
  ((db.groups date).filterMap fun g =>
    (db.ledger.accounts.get? g.1).map fun account => db.balanceOf date account g.1 g.2).filter
    fun row => row.foreignBalance ≠ 0

/-! ## The revaluation -/

structure RevaluationRequest where
  revaluationDate : IsoDate
  userId : String
  autoReverse : Bool

structure RevaluationResult where
  transactionId : Option TransactionId
  totalGain : ℚ
  totalLoss : ℚ
  accountsRevalued : ℕ
  details : List CurrencyBalance
  reversalTransactionId : Option TransactionId

inductive RevaluationError where
  | error (message : String)
  | ledger (error : LedgerError)
  deriving DecidableEq

/-- What a call takes from its surroundings: the numbers that stand for UUIDs, the mode of the
governance and the clock. -/
structure RevaluationEnv where
  number : String → DocumentId
  arMode : ArGovernanceMode
  now : Timestamp

/-- The balances that are off by more than a cent. -/
def adjustments (balances : List CurrencyBalance) : List CurrencyBalance :=
  balances.filter fun b => 1 / 100 < |b.unrealizedGainLoss|

/-- The line of an adjustment: a gain is debited, a loss credited. -/
def adjustmentLine (adj : CurrencyBalance) : JournalLine :=
  let gain := decide (0 < adj.unrealizedGainLoss)
  { accountCode := adj.accountCode
    description := "FX revaluation " ++ adj.currencyCode ++ (if gain then " gain" else " loss") ++
      " — " ++ adj.accountName
    debitAmount := if gain then adj.unrealizedGainLoss else 0
    creditAmount := if gain then 0 else |adj.unrealizedGainLoss|
    entityType := none
    entityId := none }

def totalGain (adjs : List CurrencyBalance) : ℚ := (adjs.map fun a => max a.unrealizedGainLoss 0).sum

def totalLoss (adjs : List CurrencyBalance) : ℚ :=
  (adjs.map fun a => max (-a.unrealizedGainLoss) 0).sum

/-- The lines on 4300 and 4310. -/
def balancingLines (date : IsoDate) (adjs : List CurrencyBalance) : List JournalLine :=
  (if 0 < totalGain adjs then
    [{ accountCode := "4300"
       description := "Unrealized FX gain — revaluation " ++ date.text
       debitAmount := 0
       creditAmount := totalGain adjs
       entityType := none
       entityId := none }]
  else []) ++
  if 0 < totalLoss adjs then
    [{ accountCode := "4310"
       description := "Unrealized FX loss — revaluation " ++ date.text
       debitAmount := totalLoss adjs
       creditAmount := 0
       entityType := none
       entityId := none }]
  else []

def revaluationLines (date : IsoDate) (adjs : List CurrencyBalance) : List JournalLine :=
  adjs.map adjustmentLine ++ balancingLines date adjs

/-- The reference of a revaluation. -/
def revaluationReference (date : IsoDate) : String := "REVAL-" ++ date.text

/-- The key of a revaluation. -/
def revaluationKey (date : IsoDate) : String := "fx-reval-" ++ date.text

/-- The journal of a revaluation, but for its reference; no source is given. -/
def revaluationJournal (request : RevaluationRequest) (adjs : List CurrencyBalance) :
    JournalEntryRequest where
  entryDate := request.revaluationDate
  description := "Period-end FX revaluation — " ++ request.revaluationDate.text
  referenceType := "FX_REVALUATION"
  referenceId := none
  referenceNumber := revaluationReference request.revaluationDate
  lines := revaluationLines request.revaluationDate adjs
  userId := request.userId
  idempotencyKey := revaluationKey request.revaluationDate
  source := none

def isLeapYear (year : ℕ) : Bool := year % 4 = 0 && (year % 100 ≠ 0 || year % 400 = 0)

def daysInMonth (year month : ℕ) : ℕ :=
  if month = 2 then (if isLeapYear year then 29 else 28)
  else if month ∈ [4, 6, 9, 11] then 30
  else 31

/-- The next day. -/
def nextDay (d : IsoDate) : IsoDate :=
  if d.day < daysInMonth d.year d.month then ⟨d.year, d.month, d.day + 1, d.month_valid⟩
  else if h : d.month < 12 then ⟨d.year, d.month + 1, 1, ⟨by omega, by omega⟩⟩
  else ⟨d.year + 1, 1, 1, by decide⟩

/-- The reversal on the next day. -/
def autoReversal (request : RevaluationRequest) (original : TransactionId) : ReversalRequest where
  originalTransactionId := original
  reversalDate := nextDay request.revaluationDate
  reason := "Auto-reversal of period-end FX revaluation"
  userId := request.userId
  idempotencyKey := "fx-reval-reverse-" ++ request.revaluationDate.text

/-- A revaluation of the day is posted. -/
def FxDb.isRevalued (db : FxDb) (date : IsoDate) : Bool :=
  db.ledger.transactions.values.any fun row => decide (row.referenceType = "FX_REVALUATION") &&
    decide (row.referenceNumber = revaluationReference date) && decide (row.status = .POSTED)

def FxDb.context (db : FxDb) (env : RevaluationEnv) (path : PostingPath) : PostingContext :=
  ⟨path, db.ledger.transactions, env.arMode, env.now⟩

/-- The reversal runs on the pool, where the journal of the call is not committed yet: what it
finds is the ledger before the call.  The result is that of the reversal. -/
def FxDb.reverseNextDay (db : FxDb) (env : RevaluationEnv) (request : RevaluationRequest)
    (original : TransactionId) : Except RevaluationError (Option TransactionId) :=
  if request.autoReverse then do
    let out ← (reverseTransaction (db.context env .ownTransaction) db.ledger
      (autoReversal request original)).mapError .ledger
    pure (some out.result.transactionId)
  else pure none

/-- `revalue`. -/
def FxDb.revalue (db : FxDb) (env : RevaluationEnv) (request : RevaluationRequest) :
    Except RevaluationError (FxDb × RevaluationResult) := do
  let date := request.revaluationDate
  let _ ← require (db.isRevalued date = false)
    (.error ("Revaluation already exists for " ++ date.text ++ ". Reverse it first."))
  let balances := db.preview date
  let adjs := adjustments balances
  if adjs = [] then
    pure (db, ⟨none, 0, 0, 0, balances, none⟩)
  else do
    let out ← (createJournalEntryByText env.number (db.context env .txClient) db.ledger
      (revaluationJournal request adjs) (revaluationReference date)).mapError .ledger
    let reversal ← db.reverseNextDay env request out.result.transactionId
    pure ({ db with ledger := out.db },
      ⟨some out.result.transactionId, totalGain adjs, totalLoss adjs, adjs.length, balances,
        reversal⟩)

end SmartErpPos.Currency
