/-
  Returns/CreditNoteRaceRuns.lean --- when credit notes stay within their bill.

  Only one call holds the bill at a time, so what leaves room for a note when its call takes
  the lock still does when the note is committed.  Where every call that takes the lock still
  may, the committed notes never exceed the bill and no return has two.  A call that waited
  for the lock with an old sum does not look again.
-/
import SmartErpPos.Returns.CreditNoteRace

set_option autoImplicit false

namespace SmartErpPos.Returns

open SmartErpPos.Lib

/-! ## What a statement does -/

/-- What an action can do. -/
inductive ScnEffect (db : CreditDb) : ScnAction → CreditDb → Prop
  | moves {action : ScnAction} {id : CallId} {call : ScnCall} (hquiet : call.pending = none) :
      ScnEffect db action (db.put id call)
  | locks {id : CallId} {rgrnId : ReturnGrnId} {amount : ℚ}
      (hcall : db.calls.get? id = some (.capped rgrnId amount)) (hfree : db.billHeld = false) :
      ScnEffect db (.run id) (db.put id (.billLocked rgrnId amount))
  | writes {action : ScnAction} {id : CallId} {rgrnId : ReturnGrnId} {amount : ℚ}
      (hcall : db.calls.get? id = some (.billLocked rgrnId amount)) :
      ScnEffect db action (db.put id (.noteWritten rgrnId amount))
  | commits {action : ScnAction} {id : CallId} {rgrnId : ReturnGrnId} {amount : ℚ}
      (hcall : db.calls.get? id = some (.noteWritten rgrnId amount)) :
      ScnEffect db action
        ({ db with notes := db.notes ++ [postedNote db.billId rgrnId amount] }.put id .over)

variable {db : CreditDb}

variable {action : ScnAction} {id : CallId} {db' : CreditDb} {rgrnId : ReturnGrnId} {amount : ℚ}
  {call : ScnCall}

theorem ScnEffect.goOn {α : Type} {checked : Except ReturnError α} {next : α → ScnCall}
    (hquiet : ∀ a, (next a).pending = none) : ScnEffect db action (db.goOn id checked next) := by
  cases checked with
  | ok a => exact .moves (hquiet a)
  | error e => exact .moves rfl

theorem CreditDb.run_effect (h : db.run id = some db') : ScnEffect db (.run id) db' := by
  unfold CreditDb.run at h
  split at h
  · cases h
  · cases h
  · cases h
    exact .goOn fun _ => rfl
  · cases h
    exact .goOn fun _ => rfl
  · cases h
    exact .goOn fun _ => rfl
  · cases h
    exact .goOn fun _ => rfl
  · rename_i rgrnId amount hcall
    split at h
    · cases h
    · rename_i hheld
      cases h
      exact .locks hcall (by simpa using hheld)
  · rename_i rgrnId amount hcall
    cases h
    exact .writes hcall
  · rename_i rgrnId amount hcall
    cases h
    exact .commits hcall

theorem CreditDb.exec_effect (h : db.exec action = some db') : ScnEffect db action db' := by
  cases action with
  | createCreditNoteFromReturn id rgrnId =>
    simp only [CreditDb.exec] at h
    split at h
    · cases h
      exact .moves rfl
    · cases h
  | run id => exact db.run_effect h
  | fail id =>
    simp only [CreditDb.exec] at h
    split at h
    · cases h
      exact .moves rfl
    · cases h

/-! ## One more note -/

/-- The notes of a return after one more note. -/
theorem notesOfReturn_append (notes : List SupplierNote) (billId : BillId)
    (rgrnId rgrnId' : ReturnGrnId) (amount : ℚ) :
    notesOfReturn (notes ++ [postedNote billId rgrnId amount]) rgrnId' =
      notesOfReturn notes rgrnId' ++
        if rgrnId = rgrnId' then [postedNote billId rgrnId amount] else [] := by
  unfold notesOfReturn
  rw [List.filter_append]
  congr 1
  split
  · rename_i hsame
    rw [List.filter_cons_of_pos]
    · rfl
    · rw [isActiveNote_postedNote, Bool.and_true, hsame]
      exact decide_eq_true rfl
  · rename_i hother
    rw [List.filter_cons_of_neg]
    · rfl
    · rw [isActiveNote_postedNote, Bool.and_true]
      change ¬ decide (some rgrnId = some rgrnId') = true
      rw [decide_eq_true_iff]
      exact fun hsome => hother (Option.some.inj hsome)

/-- What the active notes of the bill add up to after one more note. -/
theorem activeCredits_append (rgrnId : ReturnGrnId) (amount : ℚ) :
    CreditDb.activeCredits { db with notes := db.notes ++ [postedNote db.billId rgrnId amount] } =
      db.activeCredits + (postedNote db.billId rgrnId amount).totalAmount.toRat := by
  unfold CreditDb.activeCredits
  dsimp only
  rw [List.filter_append, List.map_append, List.sum_append]
  congr 1
  rw [List.filter_cons_of_pos]
  · exact List.sum_singleton
  · rw [isActiveNote_postedNote, Bool.and_true]
    exact decide_eq_true rfl

/-- A note that fits keeps the committed notes within the bill. -/
theorem StillFits.within (hfits : StillFits db rgrnId amount) (h : WithinBill db) :
    WithinBill { db with notes := db.notes ++ [postedNote db.billId rgrnId amount] } where
  total := by
    rw [activeCredits_append]
    exact hfits.2
  once rgrnId' := by
    dsimp only
    rw [notesOfReturn_append]
    split
    · rename_i hsame
      rw [← hsame, hfits.1]
      exact le_rfl
    · rw [List.append_nil]
      exact h.once rgrnId'

/-! ## The invariant -/

/-- What holds while every call takes the lock in time. -/
structure CreditInv (db : CreditDb) : Prop where
  within : WithinBill db
  fits : ∀ {id call rgrnId amount}, db.calls.get? id = some call →
    call.pending = some (rgrnId, amount) → StillFits db rgrnId amount
  heldOnce : ∀ {id id' call call'}, db.calls.get? id = some call → call.pending.isSome = true →
    db.calls.get? id' = some call' → call'.pending.isSome = true → id = id'

/-- While the bill is free no call holds it. -/
theorem pending_of_free (hfree : db.billHeld = false) (hget : db.calls.get? id = some call) :
    call.pending.isSome = false := by
  have hall := List.any_eq_false.mp hfree (id, call) (OrderedMap.get?_eq_some_iff.mp hget)
  simpa using hall

/-- After a call has gone on, a call that holds the bill is that one or did before. -/
theorem get?_put {id' : CallId} {call' : ScnCall}
    (hget : (db.put id call).calls.get? id' = some call') :
    (id' = id ∧ call' = call) ∨ db.calls.get? id' = some call' := by
  unfold CreditDb.put at hget
  rw [OrderedMap.get?_set] at hget
  split at hget
  · rename_i hsame
    cases hget
    exact .inl ⟨hsame, rfl⟩
  · exact .inr hget

/-- A call that does not hold the bill goes on. -/
theorem CreditInv.moves (h : CreditInv db) (hquiet : call.pending = none) :
    CreditInv (db.put id call) := by
  have hbefore : ∀ {id' call'}, (db.put id call).calls.get? id' = some call' →
      call'.pending.isSome = true → db.calls.get? id' = some call' := by
    intro id' call' hget hheld
    rcases get?_put hget with ⟨-, rfl⟩ | hold
    · rw [hquiet] at hheld
      cases hheld
    · exact hold
  refine ⟨⟨h.within.total, h.within.once⟩, ?_, ?_⟩
  · intro id' call' rgrnId amount hget hpending
    exact h.fits (hbefore hget (by rw [hpending]; rfl)) hpending
  · intro id' id'' call' call'' hget hheld hget' hheld'
    exact h.heldOnce (hbefore hget hheld) hheld (hbefore hget' hheld') hheld'

/-- The only holder goes on, or a call becomes it, with a note that fits. -/
theorem CreditInv.holds (h : CreditInv db) (hpending : call.pending = some (rgrnId, amount))
    (hfits : StillFits db rgrnId amount)
    (honly : ∀ {id' call'}, db.calls.get? id' = some call' → call'.pending.isSome = true →
      id' = id) : CreditInv (db.put id call) := by
  have hheld : ∀ {id' call'}, (db.put id call).calls.get? id' = some call' →
      call'.pending.isSome = true → id' = id := by
    intro id' call' hget hheld
    rcases get?_put hget with ⟨hsame, -⟩ | hold
    · exact hsame
    · exact honly hold hheld
  refine ⟨⟨h.within.total, h.within.once⟩, ?_, ?_⟩
  · intro id' call' rgrnId' amount' hget hpending'
    rcases get?_put hget with ⟨-, rfl⟩ | hold
    · rw [hpending] at hpending'
      cases hpending'
      exact hfits
    · exact h.fits hold hpending'
  · intro id' id'' call' call'' hget hheld' hget' hheld''
    rw [hheld hget hheld', hheld hget' hheld'']

/-- The holder commits its note. -/
theorem CreditInv.commits (h : CreditInv db)
    (hcall : db.calls.get? id = some (.noteWritten rgrnId amount)) :
    CreditInv
      ({ db with notes := db.notes ++ [postedNote db.billId rgrnId amount] }.put id .over) := by
  have hwithin := (h.fits hcall rfl).within h.within
  have hnone : ∀ {id' call'},
      ({ db with notes := db.notes ++ [postedNote db.billId rgrnId amount] }.put id
        .over).calls.get? id' = some call' → call'.pending.isSome = true → False := by
    intro id' call' hget hheld
    rcases get?_put hget with ⟨-, rfl⟩ | hold
    · cases hheld
    · have hsame : id' = id := h.heldOnce hold hheld hcall rfl
      rw [hsame] at hget
      unfold CreditDb.put at hget
      rw [OrderedMap.get?_set_self] at hget
      cases hget
      cases hheld
  refine ⟨⟨hwithin.total, hwithin.once⟩, ?_, ?_⟩
  · intro id' call' rgrnId' amount' hget hpending
    exact (hnone hget (by rw [hpending]; rfl)).elim
  · intro id' id'' call' call'' hget hheld
    exact (hnone hget hheld).elim

theorem CreditInv.exec (h : CreditInv db) (hexec : db.exec action = some db')
    (hintime : LocksInTime db action) : CreditInv db' := by
  cases CreditDb.exec_effect hexec with
  | moves hquiet => exact h.moves hquiet
  | locks hcall hfree =>
    refine h.holds rfl (hintime _ hcall) fun hget hheld => ?_
    rw [pending_of_free hfree hget] at hheld
    cases hheld
  | writes hcall =>
    exact h.holds rfl (h.fits hcall rfl) fun hget hheld => h.heldOnce hget hheld hcall rfl
  | commits hcall => exact h.commits hcall

/-- No call has begun, and the notes there are do not exceed the bill. -/
structure CreditDb.Opened (db : CreditDb) : Prop where
  calls : db.calls = .empty
  within : WithinBill db

theorem CreditDb.Opened.inv (h : db.Opened) : CreditInv db := by
  refine ⟨h.within, ?_, ?_⟩
  · intro id call rgrnId amount hget
    rw [h.calls] at hget
    cases hget
  · intro id id' call call' hget
    rw [h.calls] at hget
    cases hget

/-- Along every run in which each call that takes the lock still may, the committed notes stay
within the bill, and no return has two. -/
theorem withinBill_of_run {ts : List (CreditDb × ScnAction × CreditDb)} {start db : CreditDb}
    (hstart : start.Opened)
    (hrun : Run (fun s a s' => CreditDb.exec s a = some s') start ts db)
    (hintime : ∀ t ∈ ts, LocksInTime t.1 t.2.1) : ∀ t ∈ ts, WithinBill t.2.2 := by
  obtain ⟨-, hall⟩ := hrun.holds (P := CreditInv) (K := LocksInTime)
    (fun _ _ _ hs hstep hkeep => hs.exec hstep hkeep) hintime hstart.inv
  exact fun t ht => (hall t ht).2.within

/-! ## Two calls for one return -/

/-- A posted return of 60 from a receipt billed at 100. -/
def billedReturn : CreditDb where
  billId := 1
  bill :=
    { totalAmount := .ofRat 100
      subtotal := .ofRat 100
      status := "POSTED" }
  returns := OrderedMap.empty.set 7
    { returnGrnNumber := "RGRN-2026-0001"
      grnId := "GR-3"
      status := .POSTED
      reason := "damaged"
      lines :=
        [{ productId := "P1"
           batchId := some 1
           quantity := .ofRat 6
           baseQuantity := .ofRat 6
           unitCost := .ofRat 10
           lineTotal := .ofRat 60 }]
      reversedByReturnGrnId := none }
  notes := []
  calls := .empty

theorem billedReturn_opened : billedReturn.Opened where
  calls := rfl
  within :=
    { total := by decide +kernel
      once := fun _ => Nat.zero_le 1 }

def CreditDb.after (db : CreditDb) (action : ScnAction) : CreditDb := (db.exec action).getD db

def runsOf (n : ℕ) (id : CallId) : List ScnAction := List.replicate n (.run id)

/-- A second call after the first has committed is refused. -/
def oneAfterTheOther : List ScnAction :=
  .createCreditNoteFromReturn 1 7 :: runsOf 7 1 ++ .createCreditNoteFromReturn 2 7 :: runsOf 2 2

/-- The second call looks before the first commits, and waits for the lock. -/
def bothLookFirst : List ScnAction :=
  .createCreditNoteFromReturn 1 7 :: .createCreditNoteFromReturn 2 7 :: runsOf 4 1 ++
    runsOf 4 2 ++ runsOf 3 1 ++ runsOf 3 2

theorem oneAfterTheOther_within : billedReturn.Opened ∧
    ∀ t ∈ transitions CreditDb.after billedReturn oneAfterTheOther, WithinBill t.2.2 :=
  ⟨billedReturn_opened,
    withinBill_of_run billedReturn_opened (.of_exec (by decide +kernel)) (by decide +kernel)⟩

/-- The return has two credit notes, which add up to 120 on a bill of 100. -/
theorem bothLookFirst_not_within :
    billedReturn.Opened ∧
      Run (fun s a s' => CreditDb.exec s a = some s') billedReturn
        (transitions CreditDb.after billedReturn bothLookFirst)
        (bothLookFirst.foldl .after billedReturn) ∧
      (notesOfReturn (bothLookFirst.foldl CreditDb.after billedReturn).notes 7).length = 2 ∧
      (bothLookFirst.foldl CreditDb.after billedReturn).activeCredits = 120 ∧
      ¬ WithinBill (bothLookFirst.foldl .after billedReturn) := by
  have htwo : (notesOfReturn (bothLookFirst.foldl CreditDb.after billedReturn).notes 7).length =
      2 := by decide +kernel
  refine ⟨billedReturn_opened, .of_exec (by decide +kernel), htwo, by decide +kernel, fun h => ?_⟩
  have honce := h.once 7
  rw [htwo] at honce
  exact absurd honce (by decide)

end SmartErpPos.Returns
