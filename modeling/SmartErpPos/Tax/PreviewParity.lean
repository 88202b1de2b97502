/-
  Tax/PreviewParity.lean --- the client's preview against the server's document tax.

  Given the same data both sides find the same taxes for every line by the same rule, so
  the lines agree in every amount, and so does the tax of the document.  The total does
  not always: the server adds up the lines' tax and takes the total from the sum, the
  preview takes it from the sum rounded to cents.  The two totals are the same exactly
  when the sum is in cents already (`preview_matches_iff`), and it is the inclusive taxes,
  which are not rounded line by line, that decide this.
-/
import SmartErpPos.Tax.DocumentTaxService

set_option autoImplicit false

namespace SmartErpPos.Tax

open SmartErpPos.Lib

/-! ## The same data on both sides -/

/-- The tax fields of the product of a line, where it has a row. -/
def legacyBridge (conn : TaxTables) (productId : Option String) : Option ProductTaxBridge :=
  match productId with
  | some pid =>
    if isUuidProductId (some pid) then
      (conn.products.find? fun row => row.id = pid).map fun row =>
        { isTaxable := row.isTaxable.getD false, taxRate := row.taxRate.getD 0 }
    else none
  | none => none

/-- A line of the client next to the same line as the server gets it.  The client's tax
fields are those of the product row; lines without one, and documents whose lines
decide, carry their own on both sides. -/
structure SameLine (conn : TaxTables) (preferLine : Bool) (sent : DocumentTaxLineInput)
    (line : DocumentTaxPreviewLineInput) : Prop where
  productId : line.productId = sent.productId
  lineNetAmount : line.lineNetAmount = sent.lineNetAmount
  quantity : line.quantity = some sent.quantity
  fromProduct : ∀ bridge, preferLine = false → legacyBridge conn sent.productId = some bridge →
    line.isTaxable = some bridge.isTaxable ∧ line.taxRate = some bridge.taxRate
  fromLine : preferLine = true ∨ legacyBridge conn sent.productId = none →
    line.isTaxable = sent.isTaxable ∧ line.taxRate = sent.taxRate

/-- The client's context carries what the database holds for the document. -/
structure SameTaxData (clientToday businessDate : ℤ) (conn : TaxTables)
    (input : DocumentTaxComputeInput) (lines : List DocumentTaxPreviewLineInput)
    (ctx : DocumentTaxPreviewContext) : Prop where
  lines : List.Forall₂ (SameLine conn input.preferLineTaxOverrides) input.lines lines
  taxOverride : ctx.taxOverride = input.taxOverride
  applyTenantDefault :
    ctx.applyTenantDefaultWhenUnresolved = input.applyTenantDefaultWhenUnresolved
  preferLine : ctx.preferLineTaxOverrides = input.preferLineTaxOverrides
  scopeIsSale : ctx.scopeIsSale ≠ some false ↔ input.taxScope ≠ .PURCHASE
  documentDate : ctx.documentDate.getD clientToday = input.asOf businessDate
  taxEnabled : ctx.taxEnabled = some conn.taxEnabled
  taxInclusive : ctx.taxInclusive = conn.taxInclusive
  defaultTaxRate : ctx.defaultTaxRate.getD 0 = conn.defaultTaxRate
  vatOutputRequiresRegisteredCustomer :
    ctx.vatOutputRequiresRegisteredCustomer = conn.vatOutputRequiresRegisteredCustomer
  customerExempt : ctx.customerExempt = input.customerExempt businessDate conn
  customerProfile : ctx.customerProfile = input.customerProfile conn
  customerDefaultVatRate : ctx.customerDefaultVatRate = none ∨
    ctx.customerDefaultVatRate = (input.customerProfile conn).bind (·.defaultVatRate)
  taxCatalog : ctx.taxCatalog = loadActiveTaxDefinitions conn input.taxScope
  productMappings : ∀ line ∈ input.lines, ∀ pid, line.productId = some pid →
    isUuidProductId (some pid) = true → (ctx.productMappings pid).getD [] =
      (mappedRows conn input.taxScope pid).map mapTaxDefinitionRow

/-! ## What agrees -/

/-- One line on both sides: source of the taxes, taxes and amounts. -/
structure SameLineTax (server client : DocumentTaxPreviewLineResult) : Prop where
  determination : client.determination = server.determination
  taxes : client.taxes = server.taxes
  computation : client.computation = server.computation

/-- The preview shows what the server computes. -/
structure PreviewMatches (server : DocumentTaxResult) (client : DocumentTaxPreviewResult) :
    Prop where
  lines : List.Forall₂ SameLineTax server.lineResults client.lineResults
  totalTax : client.totalTax = server.documentTotals.totalTax
  totalAmount : client.totalAmount = server.documentTotals.totalAmount

/-- The taxes the rules give a line. -/
def applicableTaxes (today : ℤ) (ctx : DocumentTaxPreviewContext)
    (line : DocumentTaxPreviewLineInput) : ResolvedTaxes :=
  match ctx.taxOverride with
  | some override => ⟨overrideTaxes override ctx.taxCatalog ctx.taxInclusive, .OVERRIDE⟩
  | none => resolvePreviewLineTaxes today line ctx

/-- The nets of the lines that percentages are taken out of, and the inclusive per-unit
taxes of the others, come to whole cents. -/
def InclusiveTaxInCents (today : ℤ) (ctx : DocumentTaxPreviewContext)
    (lines : List DocumentTaxPreviewLineInput) : Prop :=
  OnGrid 2 (lines.map fun line =>
    inclusiveResidue line.lineNetAmount (orOne (line.quantity.getD 0))
      (applicableTaxes today ctx line).taxes).sum

/-! ## The gates -/

/-- The gate asks for the customer and the date, and nothing else. -/
theorem profileIsVatRegisteredActive_congr {today today' : ℤ} {date date' : Option ℤ}
    (h : date.getD today = date'.getD today') (profile : Option CustomerTaxProfilePreview) :
    profileIsVatRegisteredActive today profile date =
      profileIsVatRegisteredActive today' profile date' := by
  unfold profileIsVatRegisteredActive
  rw [h]

theorem resolveCustomerTaxGate_congr {today today' : ℤ} {ctx ctx' : DocumentTaxPreviewContext}
    (hexempt : ctx.customerExempt = ctx'.customerExempt)
    (hprofile : ctx.customerProfile = ctx'.customerProfile)
    (hrequires : ctx.vatOutputRequiresRegisteredCustomer =
      ctx'.vatOutputRequiresRegisteredCustomer)
    (hdate : ctx.documentDate.getD today = ctx'.documentDate.getD today') :
    resolveCustomerTaxGate today ctx = resolveCustomerTaxGate today' ctx' := by
  unfold resolveCustomerTaxGate
  rw [hexempt, hprofile, hrequires, profileIsVatRegisteredActive_congr hdate]

/-- The gate says that the customer is exempt, that there is no tax, or nothing. -/
theorem resolveCustomerTaxGate_cases (today : ℤ) (ctx : DocumentTaxPreviewContext) :
    resolveCustomerTaxGate today ctx = some .EXEMPT ∨
      resolveCustomerTaxGate today ctx = some .NONE ∨ resolveCustomerTaxGate today ctx = none := by
  unfold resolveCustomerTaxGate
  dsimp only
  split
  · exact .inl rfl
  · split
    · exact .inr (.inl rfl)
    · split
      · split
        · exact .inr (.inr rfl)
        · exact .inr (.inl rfl)
      · exact .inr (.inr rfl)

theorem resolveCustomerTaxGate_of_exempt {today : ℤ} {ctx : DocumentTaxPreviewContext}
    (h : ctx.customerExempt = true) : resolveCustomerTaxGate today ctx = some .EXEMPT := by
  unfold resolveCustomerTaxGate
  exact if_pos (.inl h)

/-- A customer the gate lets through is let through without the rule on registration. -/
theorem resolveCustomerTaxGate_weaken {today today' : ℤ} {ctx ctx' : DocumentTaxPreviewContext}
    (h : resolveCustomerTaxGate today ctx = none)
    (hprofile : ctx'.customerProfile = ctx.customerProfile) (hexempt : ctx'.customerExempt = false)
    (hrequires : ctx'.vatOutputRequiresRegisteredCustomer = false) :
    resolveCustomerTaxGate today' ctx' = none := by
  unfold resolveCustomerTaxGate at h ⊢
  dsimp only at h ⊢
  rw [hprofile, hexempt, hrequires]
  split at h
  · cases h
  · rename_i hnot
    split at h
    · cases h
    · rename_i hzero
      rw [if_neg, if_neg hzero]
      · rfl
      · rintro (hfalse | hrest)
        · cases hfalse
        · exact hnot (.inr hrest)

/-! ## Both sides line by line -/

/-- The client's lines, whichever gate applied. -/
theorem previewDocumentTax_eq (today : ℤ) (lines : List DocumentTaxPreviewLineInput)
    (ctx : DocumentTaxPreviewContext) :
    ∃ customerExempt, previewDocumentTax today lines ctx =
      aggregate (lines.mapIdx fun lineIndex line =>
        previewLine ctx (applicableTaxes today ctx line) line lineIndex) customerExempt := by
  unfold previewDocumentTax applicableTaxes
  cases ctx.taxOverride with
  | some override => exact ⟨false, rfl⟩
  | none =>
    dsimp only
    by_cases hoff : ctx.applyTenantDefaultWhenUnresolved = true ∧ ctx.taxEnabled = some false
    · rw [if_pos hoff]
      exact ⟨false, by simp only [previewAll, resolvePreviewLineTaxes, if_pos hoff]⟩
    · rw [if_neg hoff]
      simp only [resolvePreviewLineTaxes, if_neg hoff]
      rcases resolveCustomerTaxGate_cases today ctx with hgate | hgate | hgate
      · rw [if_pos (.inl hgate), hgate]
        exact ⟨true, rfl⟩
      · have hnot : ¬ ctx.customerExempt = true := by
          intro h
          rw [resolveCustomerTaxGate_of_exempt h] at hgate
          cases hgate
        rw [if_neg (by simp [hgate, hnot]), if_pos hgate, hgate]
        exact ⟨false, rfl⟩
      · have hnot : ¬ ctx.customerExempt = true := by
          intro h
          rw [resolveCustomerTaxGate_of_exempt h] at hgate
          cases hgate
        rw [if_neg (by simp [hgate, hnot]), if_neg (by simp [hgate]), hgate]
        exact ⟨false, rfl⟩

/-- The taxes the server finds for a line. -/
def serverTaxes (today businessDate : ℤ) (conn : TaxTables) (input : DocumentTaxComputeInput)
    (line : DocumentTaxLineInput) : ResolvedTaxes :=
  match input.taxOverride with
  | some override =>
    ⟨overrideTaxes override (loadActiveTaxDefinitions conn input.taxScope) conn.taxInclusive,
      .OVERRIDE⟩
  | none =>
    if input.applyTenantDefaultWhenUnresolved = true ∧ conn.taxEnabled = false then ⟨[], .DISABLED⟩
    else
      match resolveCustomerTaxGate today (input.gateContext businessDate conn) with
      | some gate => ⟨[], gate⟩
      | none => resolveLineTaxes today line (input.lineContext businessDate conn)

/-- A line without taxes comes out the same, whatever its quantity. -/
theorem untaxedLines_eq (scope : TaxScope) (determination : TaxDetermination)
    (lines : List DocumentTaxLineInput) :
    untaxedLines determination lines = lines.map (taxedLine scope ⟨[], determination⟩) := rfl

/-- The server's lines, whichever gate applied. -/
theorem computeForLines_eq (today businessDate : ℤ) (conn : TaxTables)
    (input : DocumentTaxComputeInput) :
    ∃ customerExempt, computeForLines today businessDate conn input =
      documentTaxResult conn input (input.lines.map fun line =>
        taxedLine input.taxScope (serverTaxes today businessDate conn input line) line)
        customerExempt := by
  unfold computeForLines serverTaxes
  cases input.taxOverride with
  | some override =>
    refine ⟨false, ?_⟩
    cases hmode : override.mode with
    | FORCE_EXEMPT => simp only [overriddenLines, overrideTaxes, hmode, untaxedLines_eq input.taxScope]
    | FORCE_RATE => simp only [overriddenLines, overrideTaxes, hmode]
  | none =>
    dsimp only
    simp only [untaxedLines_eq input.taxScope]
    by_cases hoff : input.applyTenantDefaultWhenUnresolved = true ∧ conn.taxEnabled = false
    · simp only [if_pos hoff]
      exact ⟨false, rfl⟩
    · simp only [if_neg hoff]
      have hexempt : input.customerExempt businessDate conn = true →
          resolveCustomerTaxGate today (input.gateContext businessDate conn) = some .EXEMPT :=
        fun h => resolveCustomerTaxGate_of_exempt h
      rcases resolveCustomerTaxGate_cases today (input.gateContext businessDate conn) with
        hgate | hgate | hgate
      · simp only [hgate, true_or, if_true]
        exact ⟨true, rfl⟩
      · have hnot : ¬ input.customerExempt businessDate conn = true := by
          intro h
          rw [hexempt h] at hgate
          cases hgate
        simp [hgate, hnot]
      · have hnot : ¬ input.customerExempt businessDate conn = true := by
          intro h
          rw [hexempt h] at hgate
          cases hgate
        simp [hgate, hnot]

/-! ## The same taxes for every line -/

section

variable {clientToday businessDate : ℤ} {conn : TaxTables} {input : DocumentTaxComputeInput}
  {lines : List DocumentTaxPreviewLineInput} {ctx : DocumentTaxPreviewContext}
  {sent : DocumentTaxLineInput} {line : DocumentTaxPreviewLineInput}

theorem mem_uuidIds {pid : String} (hsent : sent ∈ input.lines) (hpid : sent.productId = some pid)
    (huuid : isUuidProductId (some pid) = true) : pid ∈ uuidIds input.lines := by
  rw [uuidIds, List.mem_dedup, List.mem_filter]
  exact ⟨List.mem_filterMap.mpr ⟨sent, hsent, hpid⟩, huuid⟩

/-- An id that was asked for is compared with itself. -/
theorem any_sameUuid {productIds : List String} {pid : String} (h : pid ∈ productIds) :
    productIds.any (sameUuid pid) = true :=
  List.any_eq_true.mpr ⟨pid, h, decide_eq_true rfl⟩

theorem loadProductTaxMappings_getD {productIds : List String} {pid : String}
    (scope : TaxScope) (h : pid ∈ productIds) :
    (loadProductTaxMappings conn productIds scope pid).getD [] =
      (mappedRows conn scope pid).map mapTaxDefinitionRow := by
  unfold loadProductTaxMappings
  by_cases hrows : mappedRows conn scope pid = []
  · rw [if_neg (fun hand => hand.2 hrows), hrows]
    rfl
  · rw [if_pos ⟨any_sameUuid h, hrows⟩]
    rfl

/-- The row that stands in for a line's own fields is the product's, unless lines decide. -/
theorem lineBridge_eq (hsent : sent ∈ input.lines) :
    lineBridge sent (input.lineContext businessDate conn) =
      if input.preferLineTaxOverrides then none else legacyBridge conn sent.productId := by
  unfold lineBridge legacyBridge
  cases hpid : sent.productId with
  | none => simp
  | some pid =>
    simp only [DocumentTaxComputeInput.lineContext]
    by_cases hprefer : input.preferLineTaxOverrides = true
    · simp [hprefer]
    · by_cases huuid : isUuidProductId (some pid) = true
      · simp [hprefer, huuid, loadProductTaxBridge, any_sameUuid (mem_uuidIds hsent hpid huuid)]
      · simp [huuid]

/-- After the server has put the product's fields in, it has the client's line. -/
theorem enrichedLine_fields (businessDate : ℤ) (hsent : sent ∈ input.lines)
    (h : SameLine conn input.preferLineTaxOverrides sent line) :
    (enrichedLine sent (input.lineContext businessDate conn)).isTaxable = line.isTaxable ∧
      (enrichedLine sent (input.lineContext businessDate conn)).taxRate = line.taxRate := by
  unfold enrichedLine
  rw [lineBridge_eq hsent]
  cases hprefer : input.preferLineTaxOverrides with
  | true =>
    rw [hprefer] at h
    obtain ⟨htaxable, hrate⟩ := h.fromLine (.inl rfl)
    exact ⟨htaxable.symm, hrate.symm⟩
  | false =>
    rw [hprefer] at h
    cases hbridge : legacyBridge conn sent.productId with
    | none =>
      obtain ⟨htaxable, hrate⟩ := h.fromLine (.inr hbridge)
      exact ⟨htaxable.symm, hrate.symm⟩
    | some bridge =>
      obtain ⟨htaxable, hrate⟩ := h.fromProduct bridge rfl hbridge
      exact ⟨htaxable.symm, hrate.symm⟩

/-- Below the gates the taxes depend on what both sides hold in common. -/
theorem resolveOpenLine_congr {today today' : ℤ} {line line' : DocumentTaxPreviewLineInput}
    {ctx ctx' : DocumentTaxPreviewContext} (htaxable : line.isTaxable = line'.isTaxable)
    (hrate : line.taxRate = line'.taxRate) (hmapped : mappedTaxes line ctx = mappedTaxes line' ctx')
    (hprefer : ctx.preferLineTaxOverrides = ctx'.preferLineTaxOverrides)
    (hcatalog : ctx.taxCatalog = ctx'.taxCatalog) (hinclusive : ctx.taxInclusive = ctx'.taxInclusive)
    (htenant : ctx.applyTenantDefaultWhenUnresolved = ctx'.applyTenantDefaultWhenUnresolved)
    (hdefault : ctx.defaultTaxRate.getD 0 = ctx'.defaultTaxRate.getD 0)
    (hcustomer : customerRate ctx = customerRate ctx')
    (hprofile : ctx.customerProfile = ctx'.customerProfile)
    (hdate : ctx.documentDate.getD today = ctx'.documentDate.getD today') :
    resolveOpenLine today line ctx = resolveOpenLine today' line' ctx' := by
  unfold resolveOpenLine resolveLiableLine resolvePreferLineTaxes
  rw [htaxable, hrate, hmapped, hprefer, hcatalog, hinclusive, htenant, hdefault, hcustomer,
    hprofile, profileIsVatRegisteredActive_congr hdate]

/-- A line that is not liable gets no tax below the gates, whoever decided so. -/
theorem resolveOpenLine_of_not_taxable {today : ℤ} {line : DocumentTaxPreviewLineInput}
    {ctx : DocumentTaxPreviewContext} (h : line.isTaxable = some false) :
    resolveOpenLine today line ctx = ⟨[], .NONE⟩ := by
  unfold resolveOpenLine resolvePreferLineTaxes
  rw [h]
  cases ctx.preferLineTaxOverrides with
  | true => simp
  | false => rfl

/-- What the server looks up for a line's product is what the client has for it. -/
theorem mappedTaxes_eq (h : SameTaxData clientToday businessDate conn input lines ctx) (hsent : sent ∈ input.lines)
    (hline : SameLine conn input.preferLineTaxOverrides sent line) :
    mappedTaxes (enrichedLine sent (input.lineContext businessDate conn))
        (input.lineContext businessDate conn).previewContext = mappedTaxes line ctx := by
  unfold mappedTaxes
  rw [hline.productId]
  cases hpid : sent.productId with
  | none => simp [enrichedLine, hpid]
  | some pid =>
    simp only [enrichedLine, hpid]
    by_cases huuid : isUuidProductId (some pid) = true
    · rw [if_pos huuid, if_pos huuid, h.productMappings sent hsent pid hpid huuid]
      exact loadProductTaxMappings_getD _ (mem_uuidIds hsent hpid huuid)
    · rw [if_neg huuid, if_neg huuid]

theorem customerRate_eq (h : SameTaxData clientToday businessDate conn input lines ctx) :
    customerRate (input.lineContext businessDate conn).previewContext = customerRate ctx := by
  have hserver : customerRate (input.lineContext businessDate conn).previewContext =
      ((input.customerProfile conn).bind (·.defaultVatRate)).getD 0 := by
    unfold customerRate
    simp only [ResolveLineContext.previewContext, DocumentTaxComputeInput.lineContext]
    cases (input.customerProfile conn).bind (·.defaultVatRate) <;> rfl
  rw [hserver]
  unfold customerRate
  rw [h.customerProfile]
  rcases h.customerDefaultVatRate with hnone | hsame
  · rw [hnone]
    rfl
  · rw [hsame]
    cases (input.customerProfile conn).bind (·.defaultVatRate) <;> rfl

/-- Both sides let the customer through, or stop at the same gate. -/
theorem gate_eq (serverToday : ℤ) (h : SameTaxData clientToday businessDate conn input lines ctx) :
    resolveCustomerTaxGate clientToday ctx =
      resolveCustomerTaxGate serverToday (input.gateContext businessDate conn) :=
  resolveCustomerTaxGate_congr h.customerExempt h.customerProfile
    h.vatOutputRequiresRegisteredCustomer h.documentDate

/-- Behind the gates the server finds the client's taxes. -/
theorem resolveLineTaxes_eq (serverToday : ℤ)
    (h : SameTaxData clientToday businessDate conn input lines ctx)
    (hgate : resolveCustomerTaxGate clientToday ctx = none) (hsent : sent ∈ input.lines)
    (hline : SameLine conn input.preferLineTaxOverrides sent line) :
    resolveLineTaxes serverToday sent (input.lineContext businessDate conn) =
      resolveOpenLine clientToday line ctx := by
  obtain ⟨htaxable, hrate⟩ := enrichedLine_fields businessDate hsent hline
  unfold resolveLineTaxes
  by_cases hoff : line.isTaxable = some false
  · rw [if_pos (htaxable.trans hoff), resolveOpenLine_of_not_taxable hoff]
  · rw [if_neg (fun hon => hoff (htaxable.symm.trans hon))]
    have hgate' : resolveCustomerTaxGate serverToday
        (input.lineContext businessDate conn).previewContext = none :=
      resolveCustomerTaxGate_weaken hgate h.customerProfile.symm rfl rfl
    unfold resolvePreviewLineTaxes
    rw [if_neg (fun hand => by cases hand.2), hgate']
    exact resolveOpenLine_congr htaxable hrate (mappedTaxes_eq h hsent hline) h.preferLine.symm
      h.taxCatalog.symm h.taxInclusive.symm h.applyTenantDefault.symm h.defaultTaxRate.symm
      (customerRate_eq h) h.customerProfile.symm h.documentDate.symm

/-- Every line gets the same taxes from the same rule. -/
theorem serverTaxes_eq (serverToday : ℤ)
    (h : SameTaxData clientToday businessDate conn input lines ctx) (hsent : sent ∈ input.lines)
    (hline : SameLine conn input.preferLineTaxOverrides sent line) :
    serverTaxes serverToday businessDate conn input sent = applicableTaxes clientToday ctx line := by
  unfold serverTaxes applicableTaxes
  rw [h.taxOverride, h.taxCatalog, h.taxInclusive]
  cases input.taxOverride with
  | some override => rfl
  | none =>
    dsimp only
    unfold resolvePreviewLineTaxes
    rw [h.applyTenantDefault, h.taxEnabled]
    simp only [Option.some_inj]
    split
    · rfl
    · rw [gate_eq serverToday h]
      cases hgate : resolveCustomerTaxGate serverToday (input.gateContext businessDate conn) with
      | some gate => rfl
      | none =>
        have hopen : resolveCustomerTaxGate clientToday ctx = none := (gate_eq serverToday h).trans hgate
        have hliable : ¬ ctx.customerExempt = true := by
          intro hexempt
          rw [resolveCustomerTaxGate_of_exempt hexempt] at hopen
          cases hopen
        dsimp only
        rw [if_neg hliable]
        exact resolveLineTaxes_eq serverToday h hopen hsent hline

end

/-! ## Lines and totals -/

/-- Lines with the same taxes come out the same. -/
theorem taxedLine_matches {conn : TaxTables} {preferLine : Bool} {scope : TaxScope}
    {ctx : DocumentTaxPreviewContext} (hscope : ctx.scopeIsSale ≠ some false ↔ scope ≠ .PURCHASE)
    {sent : DocumentTaxLineInput} {line : DocumentTaxPreviewLineInput}
    (hline : SameLine conn preferLine sent line) (resolved : ResolvedTaxes) (lineIndex : ℕ) :
    SameLineTax (taxedLine scope resolved sent) (previewLine ctx resolved line lineIndex) where
  determination := rfl
  taxes := rfl
  computation := by
    simp only [taxedLine, previewLine, hline.lineNetAmount, hline.quantity, Option.getD_some,
      decide_eq_decide.mpr hscope]

/-- Line by line, from any number on. -/
theorem lineResults_match {conn : TaxTables} {preferLine : Bool} {scope : TaxScope}
    {ctx : DocumentTaxPreviewContext} (hscope : ctx.scopeIsSale ≠ some false ↔ scope ≠ .PURCHASE)
    {sents : List DocumentTaxLineInput} {lines : List DocumentTaxPreviewLineInput}
    {server : DocumentTaxLineInput → ResolvedTaxes}
    {client : DocumentTaxPreviewLineInput → ResolvedTaxes}
    (hlines : List.Forall₂ (SameLine conn preferLine) sents lines)
    (htaxes : ∀ sent ∈ sents, ∀ line, SameLine conn preferLine sent line →
      server sent = client line) (number : ℕ → ℕ) :
    List.Forall₂ SameLineTax (sents.map fun sent => taxedLine scope (server sent) sent)
      (lines.mapIdx fun lineIndex line => previewLine ctx (client line) line (number lineIndex)) := by
  induction hlines generalizing number with
  | nil => exact .nil
  | cons hline hrest ih =>
    obtain ⟨hfirst, hothers⟩ := List.forall_mem_cons.mp htaxes
    rw [List.map_cons, List.mapIdx_cons, hfirst _ hline]
    exact .cons (taxedLine_matches hscope hline _ _) (ih hothers fun i => number (i + 1))

/-- The rounded tax added to the same amount gives the same total only where nothing was
rounded away. -/
theorem totals_match_iff {server client : List DocumentTaxPreviewLineResult}
    (h : List.Forall₂ SameLineTax server client) (customerExempt : Bool) :
    (aggregate client customerExempt).totalTax = (aggregateDocument server).totalTax ∧
      ((aggregate client customerExempt).totalAmount = (aggregateDocument server).totalAmount ↔
        OnGrid 2 (client.map (·.computation.totalTax)).sum) := by
  have hcomputation : client.map (·.computation) = server.map (·.computation) := by
    induction h with
    | nil => rfl
    | cons hline _ ih => rw [List.map_cons, List.map_cons, hline.computation, ih]
  have hsum (f : TaxComputationResultLike → ℚ) :
      (client.map fun lr => f lr.computation).sum = (server.map fun lr => f lr.computation).sum := by
    have hmap := congrArg (List.map f) hcomputation
    rw [List.map_map, List.map_map] at hmap
    exact congrArg List.sum hmap
  have htax := hsum (·.totalTax)
  simp only [aggregate, aggregateDocument, hsum (·.untaxedAmount), htax, true_and]
  rw [add_right_inj, onGrid_iff_roundTo_eq]

/-- The preview's lines, apart from their numbers. -/
theorem map_computation_previewLine (ctx : DocumentTaxPreviewContext)
    (client : DocumentTaxPreviewLineInput → ResolvedTaxes)
    (lines : List DocumentTaxPreviewLineInput) :
    (lines.mapIdx fun lineIndex line => previewLine ctx (client line) line lineIndex).map
        (·.computation.totalTax) =
      lines.map fun line => (computeTaxes line.lineNetAmount (client line).taxes
        (orOne (line.quantity.getD 0)) (decide (ctx.scopeIsSale ≠ some false))).totalTax := by
  refine List.ext_getElem? fun i => ?_
  simp only [List.getElem?_map, List.getElem?_mapIdx, Option.map_map]
  rfl

/-- Only inclusive taxes keep the tax of a document out of whole cents. -/
theorem onGrid_totalTax_iff (today : ℤ) (ctx : DocumentTaxPreviewContext)
    (lines : List DocumentTaxPreviewLineInput) :
    OnGrid 2 ((lines.mapIdx fun lineIndex line =>
        previewLine ctx (applicableTaxes today ctx line) line lineIndex).map
          (·.computation.totalTax)).sum ↔
      InclusiveTaxInCents today ctx lines := by
  rw [map_computation_previewLine, InclusiveTaxInCents]
  exact onGrid_sum_iff fun line _ => onGrid_totalTax_sub_inclusiveResidue _ _ _ _

/-- Every line of the preview, and the tax of the document, are those of the server. -/
theorem preview_lines_match (serverToday : ℤ) {clientToday businessDate : ℤ} {conn : TaxTables}
    {input : DocumentTaxComputeInput} {lines : List DocumentTaxPreviewLineInput}
    {ctx : DocumentTaxPreviewContext}
    (h : SameTaxData clientToday businessDate conn input lines ctx) :
    List.Forall₂ SameLineTax
      (input.lines.map fun sent =>
        taxedLine input.taxScope (serverTaxes serverToday businessDate conn input sent) sent)
      (lines.mapIdx fun lineIndex line =>
        previewLine ctx (applicableTaxes clientToday ctx line) line lineIndex) :=
  lineResults_match h.scopeIsSale h.lines
    (fun _ hsent _ hline => serverTaxes_eq serverToday h hsent hline) id

/-- With the same data, the preview shows what the server computes exactly when what the
inclusive taxes come to is in whole cents; lines and tax agree in any case. -/
theorem preview_matches_iff (clientToday serverToday businessDate : ℤ) (conn : TaxTables)
    (input : DocumentTaxComputeInput) (lines : List DocumentTaxPreviewLineInput)
    (ctx : DocumentTaxPreviewContext)
    (h : SameTaxData clientToday businessDate conn input lines ctx) :
    PreviewMatches (computeForLines serverToday businessDate conn input)
        (previewDocumentTax clientToday lines ctx) ↔
      InclusiveTaxInCents clientToday ctx lines := by
  obtain ⟨serverExempt, hserver⟩ := computeForLines_eq serverToday businessDate conn input
  obtain ⟨clientExempt, hclient⟩ := previewDocumentTax_eq clientToday lines ctx
  have hlines := preview_lines_match serverToday h
  obtain ⟨htax, htotal⟩ := totals_match_iff hlines clientExempt
  rw [hserver, hclient, ← onGrid_totalTax_iff, ← htotal]
  constructor
  · exact fun hmatch => hmatch.totalAmount
  · exact fun heq => ⟨hlines, htax, heq⟩

/-! ## A duty per litre -/

/-- A duty of 0.25 a litre that is included in the price. -/
def dutyRow : TaxDefinitionRow :=
  { id := "duty", code := "DUTY", name := "Duty", type := .FIXED, rate := 1 / 4, isInclusive := true,
    isCompound := false, sequence := 10, scope := .SALE, taxPayableAccount := "2300",
    taxReceivableAccount := "2300", isActive := true }

def litreId : String := "11111111-1111-4111-8111-111111111111"

def dutyTables : TaxTables :=
  { systemSettings := some ⟨false, false, 0, false⟩
    taxDefinitions := [dutyRow]
    productTaxMappings := [⟨litreId, "duty"⟩]
    products := [⟨litreId, some true, none⟩]
    customers := []
    taxExemptions := [] }

/-- A sale of some litres for 10. -/
def dutyInput (litres : ℚ) : DocumentTaxComputeInput :=
  { customerId := none
    documentDate := none
    scope := none
    lines := [⟨0, some litreId, 10, litres, none, none⟩]
    applyTenantDefaultWhenUnresolved := false
    preferLineTaxOverrides := false
    taxOverride := none }

def dutyLines (litres : ℚ) : List DocumentTaxPreviewLineInput :=
  [⟨some litreId, 10, some litres, some true, some 0⟩]

def dutyContext : DocumentTaxPreviewContext :=
  { customerExempt := false
    customerProfile := none
    vatOutputRequiresRegisteredCustomer := false
    documentDate := none
    productMappings := fun pid => if pid = litreId then some [mapTaxDefinitionRow dutyRow] else none
    taxCatalog := [mapTaxDefinitionRow dutyRow]
    applyTenantDefaultWhenUnresolved := false
    preferLineTaxOverrides := false
    taxEnabled := some false
    taxInclusive := false
    defaultTaxRate := some 0
    scopeIsSale := some true
    customerDefaultVatRate := none
    taxOverride := none }

theorem dutySameLine (litres : ℚ) :
    SameLine dutyTables false ⟨0, some litreId, 10, litres, none, none⟩
      ⟨some litreId, 10, some litres, some true, some 0⟩ where
  productId := rfl
  lineNetAmount := rfl
  quantity := rfl
  fromProduct := by
    intro bridge _ hbridge
    have hrow : legacyBridge dutyTables (some litreId) = some ⟨true, 0⟩ := by decide +kernel
    rw [hrow] at hbridge
    cases hbridge
    exact ⟨rfl, rfl⟩
  fromLine := by
    rintro (h | h)
    · cases h
    · have hrow : legacyBridge dutyTables (some litreId) = some ⟨true, 0⟩ := by decide +kernel
      rw [hrow] at h
      cases h

theorem dutySameTaxData (litres : ℚ) :
    SameTaxData 0 0 dutyTables (dutyInput litres) (dutyLines litres) dutyContext where
  lines := .cons (dutySameLine litres) .nil
  taxOverride := rfl
  applyTenantDefault := rfl
  preferLine := rfl
  scopeIsSale := by
    have hscopes : some true ≠ some false ↔ TaxScope.SALE ≠ .PURCHASE := by decide
    exact hscopes
  documentDate := rfl
  taxEnabled := rfl
  taxInclusive := rfl
  defaultTaxRate := rfl
  vatOutputRequiresRegisteredCustomer := rfl
  customerExempt := rfl
  customerProfile := rfl
  customerDefaultVatRate := .inl rfl
  taxCatalog := by
    have hload : [mapTaxDefinitionRow dutyRow] = loadActiveTaxDefinitions dutyTables .SALE := by
      decide +kernel
    exact hload
  productMappings := by
    intro line hline pid hpid _
    rw [dutyInput, List.mem_singleton] at hline
    subst hline
    obtain rfl : litreId = pid := Option.some_inj.mp hpid
    have hmapped : (dutyContext.productMappings litreId).getD [] =
        (mappedRows dutyTables .SALE litreId).map mapTaxDefinitionRow := by decide +kernel
    exact hmapped

/-- With two litres the duty is 0.50, and the preview shows what the server computes. -/
theorem two_litres_match :
    PreviewMatches (computeForLines 0 0 dutyTables (dutyInput 2))
      (previewDocumentTax 0 (dutyLines 2) dutyContext) := by
  refine (preview_matches_iff 0 0 0 _ _ _ _ (dutySameTaxData 2)).mpr ?_
  rw [InclusiveTaxInCents, onGrid_iff_roundTo_eq]
  decide +kernel

/-- With half a litre the duty is 0.125: the server's total is 10, the preview's 10.005. -/
theorem half_litre_differs :
    ¬ ∀ (clientToday serverToday businessDate : ℤ) (conn : TaxTables)
      (input : DocumentTaxComputeInput) (lines : List DocumentTaxPreviewLineInput)
      (ctx : DocumentTaxPreviewContext),
      SameTaxData clientToday businessDate conn input lines ctx →
      PreviewMatches (computeForLines serverToday businessDate conn input)
        (previewDocumentTax clientToday lines ctx) := by
  intro h
  have hmatch := (h 0 0 0 _ _ _ _ (dutySameTaxData (1 / 2))).totalAmount
  have hserver : (computeForLines 0 0 dutyTables
      (dutyInput (1 / 2))).documentTotals.totalAmount = 10 := by decide +kernel
  have hclient : (previewDocumentTax 0 (dutyLines (1 / 2)) dutyContext).totalAmount =
      2001 / 200 := by decide +kernel
  rw [hserver, hclient] at hmatch
  norm_num at hmatch

end SmartErpPos.Tax
