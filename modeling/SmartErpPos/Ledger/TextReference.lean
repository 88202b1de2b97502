/-
  Ledger/TextReference.lean --- references given as text.

  Source: `createJournalEntry` of `services/accountingCore.ts`, for callers whose reference is
  not a generated key.

  `ledger_transactions.ReferenceId` is a `uuid`.  The look-up of an earlier posting compares
  the column with the reference as it is given, and the database refuses a text it cannot read
  as a UUID.
-/
import SmartErpPos.Lib.JsText
import SmartErpPos.Ledger.Effects

set_option autoImplicit false

namespace SmartErpPos.Ledger

open SmartErpPos.Lib

/-- A text the database reads as a UUID: 32 hexadecimal digits, with hyphens after groups of
four and braces around them where there are any. -/
def isUuidInput (text : String) : Bool :=
  let chars := text.toList.filter fun c => c ≠ '{' && c ≠ '}'
  let lengths := (chars.splitOn '-').map List.length
  text.toList.all (fun c => isHexDigit c || c = '-' || c = '{' || c = '}') &&
    lengths.all (fun n => n % 4 = 0) && decide (lengths.sum = 32)

/-- The document a reference names, for the numbers that stand for UUIDs here. -/
def readUuid (number : String → DocumentId) (text : String) : Option DocumentId :=
  if isUuidInput text then some (number text) else none

/-- `createJournalEntry` with a reference given as text. -/
def createJournalEntryByText (number : String → DocumentId) (ctx : PostingContext) (db : LedgerDb)
    (request : JournalEntryRequest) (referenceId : String) :
    Except LedgerError PostingOutcome :=
  match readUuid number referenceId with
  | some id => createJournalEntry ctx db { request with referenceId := some id }
  | none => do
    validateRequest ctx db request
    match ← existingByKey ctx db request.idempotencyKey with
    | some existing => pure ⟨db, existing, []⟩
    | none => .error (.database "invalid input syntax for type uuid")

/-- A text with another character is no UUID. -/
theorem isUuidInput_eq_false {text : String} {c : Char} (hmem : c ∈ text.toList)
    (hother : (isHexDigit c || c = '-' || c = '{' || c = '}') = false) :
    isUuidInput text = false := by
  have hall : (text.toList.all fun c => isHexDigit c || c = '-' || c = '{' || c = '}') = false :=
    List.all_eq_false.mpr ⟨c, hmem, by rw [hother]; exact Bool.false_ne_true⟩
  unfold isUuidInput
  dsimp only
  rw [hall]
  rfl

/-- A posting whose reference is no UUID finds the posting that holds its key, or fails. -/
theorem createJournalEntryByText_of_not_uuid {number : String → DocumentId}
    {ctx : PostingContext} {db : LedgerDb} {request : JournalEntryRequest} {referenceId : String}
    (htext : isUuidInput referenceId = false)
    (hkey : checkIdempotencyKey db request.idempotencyKey = none) {out : PostingOutcome} :
    createJournalEntryByText number ctx db request referenceId ≠ .ok out := by
  intro h
  unfold createJournalEntryByText readUuid at h
  rw [htext] at h
  simp only [Bool.false_eq_true, if_false, bind_eq_ok] at h
  obtain ⟨-, -, found, hfound, h⟩ := h
  rw [existingByKey_eq_none hkey] at hfound
  cases hfound
  cases h

/-- A posting that passes the checks and whose key is held by a transaction that the pool
sees, whatever its reference. -/
theorem createJournalEntryByText_of_held {number : String → DocumentId} {ctx : PostingContext}
    {db : LedgerDb} {request : JournalEntryRequest} {referenceId : String} {id : TransactionId}
    {result : JournalEntryResult} (htext : isUuidInput referenceId = false)
    (hvalid : validateRequest ctx db request = .ok ())
    (hkey : checkIdempotencyKey db request.idempotencyKey = some id)
    (hget : getTransaction ctx.pool id = some result) :
    createJournalEntryByText number ctx db request referenceId = .ok ⟨db, result, []⟩ := by
  have hexisting : existingByKey ctx db request.idempotencyKey = .ok (some result) := by
    unfold existingByKey
    simp only [hkey, hget]
    rfl
  unfold createJournalEntryByText readUuid
  rw [htext]
  simp only [Bool.false_eq_true, if_false]
  rw [hvalid, hexisting]
  rfl

end SmartErpPos.Ledger
