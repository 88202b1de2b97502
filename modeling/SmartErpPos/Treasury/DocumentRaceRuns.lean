/-
  Treasury/DocumentRaceRuns.lean --- when a treasury document takes effect once.

  What a call has read may be old when it commits.  Where every commit still fits the document
  it is posted once with the lines of its journal, stays posted, and is reversed once; the
  journal's key and the locks on the settlements do the rest.  Nothing in the code looks at the
  document again before the status is written.
-/
import SmartErpPos.Treasury.DocumentRaceInvariant

set_option autoImplicit false

namespace SmartErpPos.Treasury

open SmartErpPos.Lib SmartErpPos.Ledger

variable {start db : TreasuryDb}

/-! ## What a commit changes for the others -/

variable {call : TreasuryCall} {db' : TreasuryDb} {id : CallId}

/-- A commit that leaves alone what a call relies on. -/
theorem CallOk.commits (hok : CallOk start db call) (hid : db'.documentId = db.documentId)
    (hrows : ∀ receipt, (call.settlements.get? receipt).isSome = true →
      db'.settlements.get? receipt = db.settlements.get? receipt)
    (hnew : ∀ a ∈ call.applied, ∀ b ∈ db'.applications, b.receipt ≠ a.receipt)
    (hheld : call.held ≠ [] →
      activeApplications db'.applications = activeApplications db.applications)
    (hgrows : db.postings ≠ [] → db'.postings ≠ [])
    (hnumbers : call.journal.isSome = true → db'.postings = db.postings) :
    CallOk start db' call where
  settles receipt s' hget := by
    rw [hrows receipt (by rw [hget]; rfl)]
    exact hok.settles receipt s' hget
  untouched := hok.untouched
  fresh a ha := ⟨(hok.fresh a ha).1, (hok.fresh a ha).2.1, hnew a ha⟩
  held hne := by
    rw [hheld hne]
    exact hok.held hne
  stage := hok.stage.congr hid hgrows hnumbers

/-- What a call commits adds what it has counted to every settlement. -/
theorem CallOk.settledOf (hok : CallOk start db call) (receipt : ReceiptKey) :
    settledOf (db.settlementsWith call.settlements) receipt =
      settledOf db.settlements receipt + call.change receipt := by
  unfold Treasury.settledOf TreasuryDb.settlementsWith
  rw [OrderedMap.get?_mapWithKey]
  cases hown : call.settlements.get? receipt with
  | none =>
    rw [hok.untouched receipt hown, add_zero, Option.map_map]
    rfl
  | some s' =>
    obtain ⟨s, hrow, hsettled⟩ := hok.settles receipt s' hown
    rw [hrow]
    exact hsettled

/-- A row another call has written stays as it is. -/
theorem CallsOk.settlementsWith_get? (h : CallsOk start db) {id' : CallId} {call' : TreasuryCall}
    (hne : id' ≠ id) (hget : db.calls.get? id = some call) (hget' : db.calls.get? id' = some call')
    {receipt : ReceiptKey} (hkey : (call'.settlements.get? receipt).isSome = true) :
    (db.settlementsWith call.settlements).get? receipt = db.settlements.get? receipt := by
  have hnone : call.settlements.get? receipt = none := by
    rw [← Option.not_isSome_iff_eq_none]
    exact fun hown => hne (h.settlements hget' hget hkey hown)
  unfold TreasuryDb.settlementsWith
  rw [OrderedMap.get?_mapWithKey, hnone]
  exact Option.map_id'

/-- Only a reversal of a posted document holds its applications. -/
theorem TreasuryCall.StageOk.posted_of_held (h : call.StageOk start db) (hheld : call.held ≠ []) :
    db.postings ≠ [] := by
  cases call with
  | restoring work todo => exact h
  | reversing work => exact h
  | reverseJournalled work written => exact h.1
  | reverseMarked work written => exact h.1
  | _ => exact absurd rfl hheld

/-! ## Posting -/

theorem appliedBy_eq (lines : DocumentLines) :
    appliedBy lines = ((linesOf lines).filter fun line =>
      decide (line.lineType = .RECEIPT_APPLICATION)).map fun line =>
        (receiptOf line, receiptAmount line) := by
  unfold appliedBy receiptLines linesOf
  rw [List.filter_map, List.map_map]
  rfl

theorem appliedBy_congr {lines lines' : DocumentLines} (h : linesOf lines = linesOf lines') :
    appliedBy lines = appliedBy lines' := by
  rw [appliedBy_eq, appliedBy_eq, h]

/-- A posting of a document that is posted already applies nothing: the receipts of a worksheet
have been applied, and an application is unique. -/
theorem RaceInv.applied_eq_nil (h : RaceInv start db) {work : PostWork} (hok : CallOk start db call)
    (happlied : call.applied = work.applied) (hwork : HasApplied start work)
    (hposted : db.postings ≠ [])
    (hlines : IsWorksheet start.document → linesOf db.lines = linesOf work.lines) :
    work.applied = [] := by
  by_cases hworksheet : IsWorksheet start.document
  · obtain ⟨hsome, hall⟩ := hwork.worksheet hworksheet
    have hdone := h.committed.effect.receipts (h.committed.effect.stays hposted)
      (h.committed.same.type.trans hworksheet)
    rw [appliedBy_congr (hlines hworksheet), ← hall] at hdone
    cases hcase : work.applied with
    | nil => rfl
    | cons a rest =>
      have hmem : a.applies ∈ work.applied.map (·.applies) := by
        rw [hcase]
        exact List.mem_cons_self
      rw [← hdone] at hmem
      obtain ⟨b, hb, hsame⟩ := List.mem_map.mp hmem
      have hreceipt : b.receipt = a.receipt := Option.some.inj (congrArg Prod.fst hsame)
      have ha : a ∈ call.applied := by
        rw [happlied, hcase]
        exact List.mem_cons_self
      exact absurd hreceipt ((hok.fresh a ha).2.2 b hb)
  · exact hwork.plain hworksheet

/-- The journals of the document after a posting. -/
theorem TreasuryDb.postings_commitPost (id : CallId) (work : PostWork)
    (written : Option TreasuryJournal) (entryId : TransactionId) :
    (db.commitPost id work written entryId).postings =
      db.postings ++ written.toList.filter fun j => decide (j.documentId = db.documentId) :=
  List.filter_append ..

theorem TreasuryDb.reversals_commitPost (id : CallId) (work : PostWork)
    (written : Option TreasuryJournal) (entryId : TransactionId) :
    (db.commitPost id work written entryId).reversals =
      db.reversals ++ written.toList.filter fun j => decide (j.reverses = some db.documentId) :=
  List.filter_append ..

/-- The document is posted, or was. -/
theorem Committed.commitPost (h : RaceInv start db) {work : PostWork}
    {written : Option TreasuryJournal} {entryId : TransactionId}
    (hget : db.calls.get? id = some (.postMarked work written entryId))
    (hintime : TreasuryCall.CommitsInTime db (.postMarked work written entryId)) :
    Committed start (db.commitPost id work written entryId) := by
  have hok := h.calls.ok hget
  have hjournal : HasJournal start db work written := hok.stage
  have hcommitted := h.committed
  have hlines : db.postings = [] ∨ IsWorksheet start.document →
      linesOf db.lines = linesOf work.lines := fun hcase =>
    hintime (hcase.imp_right fun hworksheet => hjournal.applied.same.type.trans hworksheet)
  have hactive : ∀ a ∈ work.applied, a.reversed = false := fun a ha => (hok.fresh a ha).2.1
  have hpostings := db.postings_commitPost id work written entryId
  have hreversals : (db.commitPost id work written entryId).reversals = db.reversals := by
    rw [db.reversals_commitPost, List.filter_eq_nil_iff.mpr, List.append_nil]
    intro j hj
    rw [Option.mem_toList] at hj
    rw [(hjournal.wrote j hj).2.2.1, decide_eq_true_iff]
    exact hcommitted.other
  have hsettled : ∀ receipt, settledOf (db.commitPost id work written entryId).settlements
      receipt = settledOf start.settlements receipt +
        amountOn (activeApplications (db.applications ++ work.applied)) receipt := by
    intro receipt
    rw [activeApplications_append hactive, amountOn_append, ← add_assoc,
      ← hcommitted.effect.settled receipt]
    exact hok.settledOf receipt
  cases written with
  | some j =>
    obtain ⟨hnone, hown, -, hposted⟩ := hjournal.wrote j rfl
    have hone : (db.commitPost id work (some j) entryId).postings = [j] := by
      rw [hpostings, hnone, Option.toList_some, List.filter_cons_of_pos (by rw [hown]; simp)]
      rfl
    have happlications : db.applications = [] := (hcommitted.unposted hnone).2
    refine ⟨hcommitted.id, hcommitted.same.keeps rfl rfl rfl, hcommitted.other,
      hcommitted.keys, ?_, ?_, ?_, ?_⟩
    · refine ⟨?_, ?_, fun _ => rfl, fun _ => ⟨j, ?_, ?_⟩, fun _ htype => ?_, hsettled⟩
      · rw [hone]
        exact le_rfl
      · rw [hreversals]
        exact hcommitted.effect.reversed
      · rw [hone]
        exact List.mem_singleton_self j
      · rw [hposted, ← hcommitted.same.number, ← hlines (.inl hnone)]
        rfl
      · have hworksheet : IsWorksheet start.document := hcommitted.same.type.symm.trans htype
        change (db.applications ++ work.applied).map (·.applies) = appliedBy db.lines
        rw [happlications, appliedBy_congr (hlines (.inl hnone)), List.nil_append]
        exact (hjournal.applied.worksheet hworksheet).2
    · intro hempty
      rw [hone] at hempty
      cases hempty
    · intro hplain
      change db.applications ++ work.applied = []
      rw [happlications, hjournal.applied.plain hplain]
      rfl
    · rw [hreversals]
      exact hcommitted.unreversed
  | none =>
    have hfound := hjournal.found rfl
    have hnothing := h.applied_eq_nil hok rfl hjournal.applied hfound fun hworksheet =>
      hlines (.inr hworksheet)
    have hsame : (db.commitPost id work none entryId).postings = db.postings := by
      rw [hpostings]
      exact List.append_nil _
    have hstatus := hcommitted.effect.stays hfound
    have happlications : (db.commitPost id work none entryId).applications = db.applications := by
      change db.applications ++ work.applied = _
      rw [hnothing, List.append_nil]
    refine ⟨hcommitted.id, hcommitted.same.keeps rfl rfl rfl, hcommitted.other,
      hcommitted.keys, ?_, ?_, ?_, ?_⟩
    · refine ⟨?_, ?_, fun _ => rfl, fun _ => ?_, fun _ htype => ?_, hsettled⟩
      · rw [hsame]
        exact hcommitted.effect.posted
      · rw [hreversals]
        exact hcommitted.effect.reversed
      · rw [hsame]
        exact hcommitted.effect.lines hstatus
      · rw [happlications]
        exact hcommitted.effect.receipts hstatus htype
    · intro hempty
      rw [hsame] at hempty
      exact absurd hempty hfound
    · rw [happlications]
      exact hcommitted.plain
    · rw [hreversals]
      exact hcommitted.unreversed

/-- The other calls go on. -/
theorem RaceInv.commitPost (h : RaceInv start db) {work : PostWork}
    {written : Option TreasuryJournal} {entryId : TransactionId}
    (hget : db.calls.get? id = some (.postMarked work written entryId))
    (hintime : TreasuryCall.CommitsInTime db (.postMarked work written entryId)) :
    RaceInv start (db.commitPost id work written entryId) := by
  have hok := h.calls.ok hget
  have hjournal : HasJournal start db work written := hok.stage
  have hpostings := db.postings_commitPost id work written entryId
  refine ⟨Committed.commitPost h hget hintime, h.calls.set rfl (.quiet rfl rfl rfl)
    (.quiet rfl (fun _ => rfl) rfl rfl trivial) fun id' call' hne hget' => ?_⟩
  have hok' := h.calls.ok hget'
  refine hok'.commits rfl (fun receipt hkey => ?_) (fun a ha b hb => ?_) (fun hheld => ?_)
    (fun hposted => ?_) fun hsome => ?_
  · exact h.calls.settlementsWith_get? hne hget hget' hkey
  · rcases List.mem_append.mp hb with hold | hnew
    · exact (hok'.fresh a ha).2.2 b hold
    · intro hsame
      have hkey := (hok.fresh b hnew).1
      rw [hsame] at hkey
      exact hne (h.calls.settlements hget' hget (hok'.fresh a ha).1 hkey)
  · have hposted := hok'.stage.posted_of_held hheld
    have hnothing := h.applied_eq_nil hok rfl hjournal.applied hposted fun hworksheet =>
      hintime (.inr (hjournal.applied.same.type.trans hworksheet))
    change activeApplications (db.applications ++ work.applied) = _
    rw [hnothing, List.append_nil]
  · rw [hpostings]
    exact fun hempty => hposted (List.append_eq_nil_iff.mp hempty).1
  · cases written with
    | some j => exact absurd (h.calls.numbers hget' hget hsome rfl) hne
    | none =>
      rw [hpostings]
      exact List.append_nil _

/-! ## Reversing -/

/-- Taking back what is held leaves nothing active. -/
theorem activeApplications_release {applications released : List SettlementApplication}
    (hheld : released ≠ [] → released = activeApplications applications) (receipt : ReceiptKey) :
    amountOn (activeApplications (applications.map fun a =>
      if a ∈ released then { a with reversed := true } else a)) receipt =
        amountOn (activeApplications applications) receipt + -amountOn released receipt := by
  by_cases hnone : released = []
  · rw [hnone, amountOn_nil, neg_zero, add_zero]
    congr 2
    conv_rhs => rw [← List.map_id applications]
    refine List.map_congr_left fun a _ => ?_
    exact if_neg List.not_mem_nil
  · have hall := hheld hnone
    have hempty : activeApplications (applications.map fun a =>
        if a ∈ released then { a with reversed := true } else a) = [] := by
      unfold activeApplications
      rw [List.filter_eq_nil_iff]
      intro a' ha'
      obtain ⟨a, ha, rfl⟩ := List.mem_map.mp ha'
      split
      · simp
      · rename_i hother
        rw [hall] at hother
        intro hactive
        exact hother (List.mem_filter.mpr ⟨ha, hactive⟩)
    rw [hempty, ← hall, amountOn_nil, add_neg_cancel]

/-- The document is reversed for the first time. -/
theorem RaceInv.commitReverse (h : RaceInv start db) {work : ReverseWork}
    {written : TreasuryJournal} (hget : db.calls.get? id = some (.reverseMarked work written))
    (hintime : TreasuryCall.CommitsInTime db (.reverseMarked work written)) :
    RaceInv start (db.commitReverse id work written) := by
  have hok := h.calls.ok hget
  have hcommitted := h.committed
  obtain ⟨hposted, hother, hreverses⟩ :
      db.postings ≠ [] ∧ written.documentId ≠ db.documentId ∧
        written.reverses = some db.documentId := ⟨hok.stage.1, hok.stage.2.other,
          hok.stage.2.reverses⟩
  have hstatus := hcommitted.effect.stays hposted
  have hsame : (db.commitReverse id work written).postings = db.postings := by
    change (db.journals ++ [written]).filter _ = _
    rw [List.filter_append, List.filter_cons_of_neg]
    · exact List.append_nil _
    · rw [decide_eq_true_iff]
      exact hother
  have hone : (db.commitReverse id work written).reversals = [written] := by
    change (db.journals ++ [written]).filter _ = _
    rw [List.filter_append, List.filter_cons_of_pos]
    · exact congrArg (· ++ [written]) (hcommitted.unreversed hintime)
    · rw [decide_eq_true_iff]
      exact hreverses
  have hreceipts : (db.commitReverse id work written).applications.map (·.applies) =
      db.applications.map (·.applies) := by
    change (db.applications.map _).map _ = _
    rw [List.map_map]
    refine List.map_congr_left fun a _ => ?_
    change (if _ then _ else _ : SettlementApplication).applies = a.applies
    split <;> rfl
  have hreceipt : ∀ b ∈ (db.commitReverse id work written).applications,
      ∃ a ∈ db.applications, a.receipt = b.receipt := by
    intro b hb
    obtain ⟨a, ha, rfl⟩ := List.mem_map.mp hb
    refine ⟨a, ha, ?_⟩
    split <;> rfl
  refine ⟨⟨hcommitted.id, hcommitted.same.keeps rfl rfl rfl, hcommitted.other,
    hcommitted.keys, ?_, ?_, ?_, nofun⟩,
    h.calls.set rfl (.quiet rfl rfl rfl) (.quiet rfl (fun _ => rfl) rfl rfl trivial)
      fun id' call' hne hget' => ?_⟩
  · refine ⟨?_, ?_, fun _ => rfl, fun _ => ?_, fun _ htype => ?_, fun receipt => ?_⟩
    · rw [hsame]
      exact hcommitted.effect.posted
    · rw [hone]
      exact le_rfl
    · rw [hsame]
      exact hcommitted.effect.lines hstatus
    · exact hreceipts.trans (hcommitted.effect.receipts hstatus htype)
    · change settledOf (db.settlementsWith work.settlements) receipt = _ +
        amountOn (activeApplications (db.applications.map _)) receipt
      have hheld : work.released ≠ [] → work.released = activeApplications db.applications :=
        hok.held
      rw [activeApplications_release hheld, ← add_assoc, ← hcommitted.effect.settled receipt]
      exact hok.settledOf receipt
  · intro hempty
    rw [hsame] at hempty
    exact absurd hempty hposted
  · intro hplain
    change db.applications.map _ = []
    rw [hcommitted.plain hplain]
    rfl
  · have hok' := h.calls.ok hget'
    refine hok'.commits rfl (fun receipt hkey => ?_) (fun a ha b hb => ?_) (fun hheld => ?_)
      (fun _ => ?_) fun _ => hsame
    · exact h.calls.settlementsWith_get? hne hget hget' hkey
    · obtain ⟨b', hb', hrow⟩ := hreceipt b hb
      rw [← hrow]
      exact (hok'.fresh a ha).2.2 b' hb'
    · have hnone : work.released = [] := by
        by_contra hsome
        exact hne (h.calls.held hget' hget hheld hsome)
      change activeApplications (db.applications.map _) = _
      rw [hnone]
      congr 1
      conv_rhs => rw [← List.map_id db.applications]
      exact List.map_congr_left fun a _ => if_neg List.not_mem_nil
    · rw [hsame]
      exact hposted

/-! ## Updating and rejecting -/

/-- The lines of a draft change, or those of a posted document are written again. -/
theorem RaceInv.commitUpdate (h : RaceInv start db) {input : UpdateDocumentInput}
    {deleted : List LineId} {inserted : DocumentLines}
    (hintime : TreasuryCall.CommitsInTime db (.updated input deleted inserted)) :
    RaceInv start (db.commitUpdate id input deleted inserted) := by
  have hcommitted := h.committed
  have heffect := hcommitted.effect
  refine ⟨⟨hcommitted.id, hcommitted.same.keeps rfl rfl rfl, hcommitted.other,
    hcommitted.keys, ?_, hcommitted.unposted, hcommitted.plain, hcommitted.unreversed⟩,
    h.calls.set rfl (.quiet rfl rfl rfl) (.quiet rfl (fun _ => rfl) rfl rfl trivial)
      fun id' call' hne hget' => (h.calls.ok hget').commits rfl (fun _ _ => rfl)
        (fun a ha b hb => ((h.calls.ok hget').fresh a ha).2.2 b hb) (fun _ => rfl)
        (fun hposted => hposted) fun _ => rfl⟩
  refine ⟨heffect.posted, heffect.reversed, heffect.stays, fun hstatus => ?_,
    fun hstatus htype => ?_, heffect.settled⟩
  · obtain ⟨j, hj, hlines⟩ := heffect.lines hstatus
    refine ⟨j, hj, ?_⟩
    rw [hlines]
    exact congrArg _ (hintime hstatus).symm
  · exact (heffect.receipts hstatus htype).trans (appliedBy_congr (hintime hstatus)).symm

/-- A document that is not posted is a draft again. -/
theorem RaceInv.commitReject (h : RaceInv start db)
    (hintime : TreasuryCall.CommitsInTime db .rejected) : RaceInv start (db.commitReject id) := by
  have hcommitted := h.committed
  have heffect := hcommitted.effect
  have hunposted : db.postings = [] := by
    by_contra hposted
    exact hintime (heffect.stays hposted)
  refine ⟨⟨hcommitted.id, hcommitted.same.keeps rfl rfl rfl, hcommitted.other,
    hcommitted.keys, ?_,
    fun hnone => ⟨nofun, (hcommitted.unposted hnone).2⟩, hcommitted.plain,
    hcommitted.unreversed⟩,
    h.calls.set rfl (.quiet rfl rfl rfl) (.quiet rfl (fun _ => rfl) rfl rfl trivial)
      fun id' call' hne hget' => (h.calls.ok hget').commits rfl (fun _ _ => rfl)
        (fun a ha b hb => ((h.calls.ok hget').fresh a ha).2.2 b hb) (fun _ => rfl)
        (fun hposted => hposted) fun _ => rfl⟩
  exact ⟨heffect.posted, heffect.reversed, fun hposted => absurd hunposted hposted, nofun, nofun,
    heffect.settled⟩

/-! ## Runs -/

/-- The next statement of a call that has only read. -/
theorem RaceInv.runs (h : RaceInv start db) (hrun : db.run id = some db')
    (hintime : ∀ call ∈ db.calls.get? id, call.CommitsInTime db) : RaceInv start db' := by
  unfold TreasuryDb.run at hrun
  split at hrun
  · cases hrun
  · cases hrun
  · cases hrun
    exact h.quiet rfl (fun _ => rfl) rfl rfl rfl h.committed.same
  · rename_i hget
    cases hrun
    exact h.checked hget
  · rename_i hget
    cases hrun
    have hstage := (h.calls.ok hget).stage
    exact h.keeps hget rfl rfl rfl rfl rfl hstage.hasApplied
  · rename_i hget
    split at hrun
    · cases hrun
    · rename_i hfree
      cases hrun
      exact h.applies hget (Bool.eq_false_iff.mpr hfree)
  · rename_i hget
    split at hrun
    · cases hrun
    · cases hrun
      exact h.records hget
  · rename_i hget
    cases hrun
    exact h.looksUp hget _
  · rename_i hget
    split at hrun
    · cases hrun
    · rename_i hfree
      split at hrun
      · rename_i hnone
        cases hrun
        exact h.inserts hget (Bool.eq_false_iff.mpr hfree) hnone
      · cases hrun
        exact h.over id le_rfl
  · rename_i hget
    split at hrun
    · cases hrun
    · cases hrun
      exact h.keeps hget rfl rfl rfl rfl rfl (h.calls.ok hget).stage
  · rename_i hget
    split at hrun
    · cases hrun
      exact h.commitPost hget (hintime _ hget)
    · cases hrun
      exact h.over id le_rfl
  · cases hrun
    refine h.quiet rfl (fun _ => rfl) rfl rfl rfl fun hposted => ?_
    exact fun hnone => (h.committed.unposted hnone).1 hposted
  · rename_i hget
    cases hrun
    exact h.reads hget
  · rename_i hget
    split at hrun
    · cases hrun
    · rename_i hfree
      cases hrun
      exact h.holdsApplications hget (Bool.eq_false_iff.mpr hfree)
  · rename_i work hget
    cases hrun
    exact h.keeps hget rfl rfl rfl (List.append_nil work.released).symm rfl
      (h.calls.ok hget).stage
  · rename_i hget
    split at hrun
    · cases hrun
    · rename_i hfree
      cases hrun
      exact h.restores hget (Bool.eq_false_iff.mpr hfree)
  · rename_i hget
    split at hrun
    · cases hrun
    · rename_i hfree
      cases hrun
      exact h.reverses hget (Bool.eq_false_iff.mpr hfree)
  · rename_i hget
    split at hrun
    · cases hrun
    · cases hrun
      exact h.keeps hget rfl rfl rfl rfl rfl (h.calls.ok hget).stage
  · rename_i hget
    cases hrun
    exact h.commitReverse hget (hintime _ hget)
  · cases hrun
    exact h.goOn le_rfl fun _ _ =>
      ⟨.quiet rfl rfl rfl, .quiet rfl (fun _ => rfl) rfl rfl trivial⟩
  · cases hrun
    refine h.goOn le_rfl fun _ _ => ?_
    split
    · exact ⟨.quiet rfl rfl rfl, .quiet rfl (fun _ => rfl) rfl rfl trivial⟩
    · exact ⟨.quiet rfl rfl rfl, .quiet rfl (fun _ => rfl) rfl rfl trivial⟩
  · split at hrun
    · cases hrun
    · cases hrun
      exact h.goOn le_rfl fun _ _ =>
        ⟨.quiet rfl rfl rfl, .quiet rfl (fun _ => rfl) rfl rfl trivial⟩
  · split at hrun
    · cases hrun
    · cases hrun
      exact h.goOn (Nat.le_add_right _ _) fun _ _ =>
        ⟨.quiet rfl rfl rfl, .quiet rfl (fun _ => rfl) rfl rfl trivial⟩
  · split at hrun
    · cases hrun
    · cases hrun
      exact h.quiet rfl (fun _ => rfl) rfl rfl rfl trivial
  · rename_i hget
    cases hrun
    exact h.commitUpdate (hintime _ hget)
  · cases hrun
    exact h.goOn le_rfl fun _ _ =>
      ⟨.quiet rfl rfl rfl, .quiet rfl (fun _ => rfl) rfl rfl trivial⟩
  · split at hrun
    · cases hrun
    · cases hrun
      exact h.quiet rfl (fun _ => rfl) rfl rfl rfl trivial
  · rename_i hget
    cases hrun
    exact h.commitReject (hintime _ hget)

theorem RaceInv.exec (h : RaceInv start db) {action : TreasuryAction}
    (hexec : db.exec action = some db') (hintime : CommitsInTime db action) :
    RaceInv start db' := by
  cases action with
  | start id request =>
    simp only [TreasuryDb.exec] at hexec
    split at hexec
    · cases hexec
      cases request with
      | post actorUserId => exact h.quiet rfl (fun _ => rfl) rfl rfl rfl trivial
      | approve actorUserId => exact h.quiet rfl (fun _ => rfl) rfl rfl rfl trivial
      | reject => exact h.quiet rfl (fun _ => rfl) rfl rfl rfl trivial
      | updateDraft input => exact h.quiet rfl (fun _ => rfl) rfl rfl rfl trivial
      | reverse => exact h.quiet rfl (fun _ => rfl) rfl rfl rfl trivial
    · cases hexec
  | run id => exact h.runs hexec hintime
  | fail id =>
    simp only [TreasuryDb.exec] at hexec
    split at hexec
    · cases hexec
      exact h.over id le_rfl
    · cases hexec

/-- Before the first call. -/
theorem TreasuryDb.Unposted.inv (h : start.Unposted) : RaceInv start start := by
  have hnone : ∀ {id call}, start.calls.get? id = some call → False := by
    intro id call hget
    rw [h.calls] at hget
    cases hget
  have hpostings : start.postings = [] := by
    unfold TreasuryDb.postings
    rw [h.journals]
    rfl
  have hreversals : start.reversals = [] := by
    unfold TreasuryDb.reversals
    rw [h.journals]
    rfl
  refine ⟨⟨rfl, ⟨rfl, rfl, rfl⟩, h.reverses, h.keys, ?_, fun _ => ⟨h.status, h.applications⟩,
    fun _ => h.applications, fun _ => hreversals⟩, ⟨fun hget => (hnone hget).elim,
      fun hget => (hnone hget).elim, fun hget => (hnone hget).elim,
      fun hget => (hnone hget).elim⟩⟩
  refine ⟨?_, ?_, fun hposted => absurd hpostings hposted, fun hstatus => absurd hstatus h.status,
    fun hstatus => absurd hstatus h.status, fun receipt => ?_⟩
  · rw [hpostings]
    exact Nat.zero_le 1
  · rw [hreversals]
    exact Nat.zero_le 1
  · rw [h.applications]
    exact (add_zero _).symm

/-- Journals are added only. -/
def TreasuryDb.Grows (db db' : TreasuryDb) : Prop :=
  db'.documentId = db.documentId ∧ ∃ more, db'.journals = db.journals ++ more

theorem TreasuryDb.Grows.posted {db' : TreasuryDb} (h : db.Grows db') (hposted : db.postings ≠ []) :
    db'.postings ≠ [] := by
  obtain ⟨hid, more, hjournals⟩ := h
  unfold postings
  rw [hid, hjournals, List.filter_append]
  exact fun hnone => hposted (List.append_eq_nil_iff.mp hnone).1

theorem TreasuryDb.grows_put (id : CallId) (call : TreasuryCall) (nextId : ℕ) :
    db.Grows ({ db with nextId := nextId }.put id call) :=
  ⟨rfl, [], (List.append_nil _).symm⟩

theorem TreasuryDb.grows_goOn {α : Type} (id : CallId) (checked : Except TreasuryError α)
    (next : α → TreasuryCall) (nextId : ℕ) :
    db.Grows ({ db with nextId := nextId }.goOn id checked next) := by
  unfold goOn
  cases checked with
  | ok a => exact db.grows_put id (next a) nextId
  | error e => exact db.grows_put id .over nextId

/-- A statement takes no journal away. -/
theorem TreasuryDb.exec_grows {action : TreasuryAction} (hexec : db.exec action = some db') :
    db.Grows db' := by
  cases action with
  | start id request =>
    simp only [exec] at hexec
    split at hexec
    · cases hexec
      exact db.grows_put id _ _
    · cases hexec
  | run id =>
    simp only [exec, run] at hexec
    -- Every statement but two commits leaves the journals as they are.
    split at hexec <;> (try split at hexec) <;> (try split at hexec) <;> cases hexec <;>
      first
        | exact db.grows_goOn id _ _ _
        | exact db.grows_put id _ _
        | exact ⟨rfl, [], (List.append_nil _).symm⟩
        | exact ⟨rfl, _, rfl⟩
  | fail id =>
    simp only [exec] at hexec
    split at hexec
    · cases hexec
      exact db.grows_put id _ _
    · cases hexec

/-- Along every run each of whose commits still fits the document, it takes effect once, and
once posted it stays posted. -/
theorem takesEffectOnce_of_run {ts : List (TreasuryDb × TreasuryAction × TreasuryDb)}
    (hstart : start.Unposted)
    (hrun : Run (fun s a s' => TreasuryDb.exec s a = some s') start ts db)
    (hintime : ∀ t ∈ ts, CommitsInTime t.1 t.2.1) :
    ∀ t ∈ ts, TakesEffectOnce start t.2.2 ∧
      (t.1.document.status = .POSTED → t.2.2.document.status = .POSTED) := by
  obtain ⟨-, hall⟩ := hrun.holds (P := RaceInv start) (K := CommitsInTime)
    (fun _ _ _ hs hstep hkeep => hs.exec hstep hkeep) hintime hstart.inv
  intro t ht
  obtain ⟨hbefore, hafter⟩ := hall t ht
  refine ⟨hafter.committed.effect, fun hstatus => hafter.committed.effect.stays ?_⟩
  have hgrows : t.1.Grows t.2.2 := TreasuryDb.exec_grows (hrun.step_of_mem ht)
  refine hgrows.posted fun hnone => ?_
  exact (hbefore.committed.unposted hnone).1 hstatus

/-! ## Calls on one document -/

/-- A line of a document. -/
def movedLine (lineType : TreasuryLineType) (accountCode : String) (debit credit : ℚ)
    (memo : Option ReceiptKey) : DocumentLine where
  lineType := lineType
  accountCode := accountCode
  description := none
  debitAmount := .ofRat debit
  creditAmount := .ofRat credit
  amount := .ofRat (debit + credit)
  sourceReceiptId := none
  sourcePaymentId := none
  memo := memo

/-- A draft that waits for nothing. -/
def draftOf (documentType : TreasuryDocumentType) (status : TreasuryDocumentStatus) :
    TreasuryDocument where
  documentNumber := "TD-2026-00001"
  documentType := documentType
  status := status
  requiresApproval := false
  approvedBy := none
  journalEntryId := none
  reversesDocumentId := none
  reversedByDocumentId := none
  rowVersion := 1

/-- 40 of a receipt of 100, to be deposited. -/
def partialDeposit : TreasuryDb where
  documentId := 1
  document := draftOf .DEPOSIT_WORKSHEET .DRAFT
  lines :=
    [(2, movedLine .ACCOUNT_MOVE "1020" 40 0 none),
     (3, movedLine .RECEIPT_APPLICATION "1015" 0 40 (some ⟨.AR_CUSTOMER_PAYMENT, 7⟩))]
  settlements := OrderedMap.empty.set ⟨.AR_CUSTOMER_PAYMENT, 7⟩
    { sourceNumber := some "RCPT-7"
      originatingAmount := .ofRat 100
      settledAmount := 0
      residualAmount := .ofRat 100
      settlementStatus := .UNSETTLED
      originating_pos := by decide +kernel
      settled_nonneg := by decide +kernel
      residual_eq := by decide +kernel
      residual_nonneg := by decide +kernel }
  applications := []
  journals := []
  nextId := 10
  calls := .empty

/-- 100 from the safe to the bank. -/
def transferDraft (status : TreasuryDocumentStatus) : TreasuryDb :=
  { partialDeposit with
    document := draftOf .TREASURY_TRANSFER status
    lines :=
      [(2, movedLine .ACCOUNT_MOVE "1020" 100 0 none),
       (3, movedLine .ACCOUNT_MOVE "1010" 0 100 none)] }

theorem partialDeposit_unposted : partialDeposit.Unposted where
  status := by decide
  reversedBy := rfl
  reverses := by decide
  applications := rfl
  journals := rfl
  keys := by decide
  calls := rfl

theorem transferDraft_unposted (status : TreasuryDocumentStatus) (h : status ≠ .POSTED) :
    (transferDraft status).Unposted where
  status := h
  reversedBy := rfl
  reverses := by
    cases status <;> decide
  applications := rfl
  journals := rfl
  keys := Nat.lt_of_sub_pos (by decide : 0 < 10 - 1)
  calls := rfl

def TreasuryDb.after (db : TreasuryDb) (action : TreasuryAction) : TreasuryDb :=
  (db.exec action).getD db

def runsOf (n : ℕ) (id : CallId) : List TreasuryAction := List.replicate n (.run id)

/-- Two postings of a worksheet overlap, then it is reversed.  The second posting waits for the
receipt, is within what is left of it, and fails on the application that is there. -/
def overlappingPosts : List TreasuryAction :=
  .start 1 (.post "u1") :: .start 2 (.post "u2") :: runsOf 2 1 ++ runsOf 2 2 ++ runsOf 7 1 ++
    runsOf 2 2 ++ .start 3 .reverse :: runsOf 8 3

theorem overlappingPosts_once : partialDeposit.Unposted ∧
    ∀ t ∈ transitions TreasuryDb.after partialDeposit overlappingPosts,
      TakesEffectOnce partialDeposit t.2.2 ∧
        (t.1.document.status = .POSTED → t.2.2.document.status = .POSTED) :=
  ⟨partialDeposit_unposted,
    takesEffectOnce_of_run partialDeposit_unposted (.of_exec (by decide +kernel))
      (by decide +kernel)⟩

/-- Two reversals read the posted transfer before either commits. -/
def bothReverse : List TreasuryAction :=
  .start 1 (.post "u1") :: runsOf 6 1 ++ .start 2 .reverse :: .start 3 .reverse :: runsOf 2 2 ++
    runsOf 2 3 ++ runsOf 3 2 ++ runsOf 3 3

/-- A rejection reads the transfer before its approval commits. -/
def rejectsApproved : List TreasuryAction :=
  .start 1 .reject :: .run 1 :: .start 2 (.approve "u2") :: runsOf 6 2 ++ runsOf 2 1

/-- A line of 50 in place of the transfer's. -/
def halfTransfer : UpdateDocumentInput where
  requiresApproval := none
  lines := some
    [{ lineType := none
       accountCode := "1020"
       description := none
       debitAmount := some 50
       creditAmount := none
       amount := none
       sourceReceiptId := none
       sourcePaymentId := none
       memo := none }]
  expectedRowVersion := 1

/-- A posting reads the lines, which are replaced before it commits. -/
def updatesRead : List TreasuryAction :=
  .start 1 (.post "u1") :: runsOf 2 1 ++ .start 2 (.updateDraft halfTransfer) :: runsOf 6 2 ++
    runsOf 4 1

/-- The transfer is reversed twice; or it is posted and a draft again; or it is posted with
lines its journal has not. -/
theorem overlapping_not_once :
    ((transferDraft .DRAFT).Unposted ∧
      Run (fun s a s' => TreasuryDb.exec s a = some s') (transferDraft .DRAFT)
        (transitions TreasuryDb.after (transferDraft .DRAFT) bothReverse)
        (bothReverse.foldl .after (transferDraft .DRAFT)) ∧
      (bothReverse.foldl TreasuryDb.after (transferDraft .DRAFT)).Quiet ∧
      ¬ TakesEffectOnce (transferDraft .DRAFT)
        (bothReverse.foldl .after (transferDraft .DRAFT))) ∧
    ((transferDraft .PENDING_APPROVAL).Unposted ∧
      Run (fun s a s' => TreasuryDb.exec s a = some s') (transferDraft .PENDING_APPROVAL)
        (transitions TreasuryDb.after (transferDraft .PENDING_APPROVAL) rejectsApproved)
        (rejectsApproved.foldl .after (transferDraft .PENDING_APPROVAL)) ∧
      (rejectsApproved.foldl TreasuryDb.after (transferDraft .PENDING_APPROVAL)).Quiet ∧
      ¬ TakesEffectOnce (transferDraft .PENDING_APPROVAL)
        (rejectsApproved.foldl .after (transferDraft .PENDING_APPROVAL))) ∧
    ((transferDraft .DRAFT).Unposted ∧
      Run (fun s a s' => TreasuryDb.exec s a = some s') (transferDraft .DRAFT)
        (transitions TreasuryDb.after (transferDraft .DRAFT) updatesRead)
        (updatesRead.foldl .after (transferDraft .DRAFT)) ∧
      (updatesRead.foldl TreasuryDb.after (transferDraft .DRAFT)).Quiet ∧
      ¬ TakesEffectOnce (transferDraft .DRAFT)
        (updatesRead.foldl .after (transferDraft .DRAFT))) := by
  refine ⟨⟨transferDraft_unposted _ (by decide), .of_exec (by decide +kernel),
    by decide +kernel, fun h => ?_⟩, ⟨transferDraft_unposted _ (by decide),
    .of_exec (by decide +kernel), by decide +kernel, fun h => ?_⟩,
    ⟨transferDraft_unposted _ (by decide), .of_exec (by decide +kernel),
    by decide +kernel, fun h => ?_⟩⟩
  · have htwo : (bothReverse.foldl TreasuryDb.after (transferDraft .DRAFT)).reversals.length = 2 :=
      by decide +kernel
    have hone := h.reversed
    rw [htwo] at hone
    exact absurd hone (by decide)
  · have hposted := h.stays (by decide +kernel)
    have hdraft : (rejectsApproved.foldl TreasuryDb.after
        (transferDraft .PENDING_APPROVAL)).document.status = .DRAFT := by decide +kernel
    rw [hdraft] at hposted
    cases hposted
  · obtain ⟨j, hj, hlines⟩ := h.lines (by decide +kernel)
    have hother : ∀ j ∈ (updatesRead.foldl TreasuryDb.after (transferDraft .DRAFT)).postings,
        j.lines ≠ journalLines
          (updatesRead.foldl TreasuryDb.after (transferDraft .DRAFT)).document.documentNumber
          (linesOf (updatesRead.foldl TreasuryDb.after (transferDraft .DRAFT)).lines) := by
      decide +kernel
    exact hother j hj hlines

end SmartErpPos.Treasury
