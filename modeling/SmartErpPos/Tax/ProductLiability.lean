/-
  Tax/ProductLiability.lean --- products with their VAT switched off.

  Sources: `SamplePOS.Server/src/services/documentTaxService.ts` (`resolveLineTaxes`) and
  `src/shared/utils/documentTaxPreview.ts` (`resolvePreviewLineTaxes`).

  The switch stops every source of tax below it, in the preview and on the server, wherever
  the server has the product's row in hand.  It looks the row up under the text the line has
  for the id, and not at all where lines decide.  Then the mappings of the product, the
  customer's rate and the tenant's are charged on a line that says nothing of its own.
-/
import SmartErpPos.Tax.PreviewParity

set_option autoImplicit false

namespace SmartErpPos.Tax

open SmartErpPos.Lib

/-! ## The product of a line -/

/-- `products.id` is a key, and a UUID as the database writes it. -/
structure ProductIds (conn : TaxTables) : Prop where
  nodup : (conn.products.map (·.id)).Nodup
  uuid : ∀ row ∈ conn.products, isUuidProductId (some row.id) = true
  lower : ∀ row ∈ conn.products, row.id.toLower = row.id

/-- `Boolean(row.is_taxable)` is false. -/
def ProductTaxRow.IsOff (row : ProductTaxRow) : Prop := row.isTaxable.getD false = false

/-- The line has the product's id, in one of the texts of that UUID. -/
def DocumentTaxLineInput.RefersTo (line : DocumentTaxLineInput) (row : ProductTaxRow) : Prop :=
  ∃ pid, line.productId = some pid ∧ sameUuid pid row.id = true

/-- The document has an override, or the line decides for tax at a rate of its own. -/
def TaxAskedFor (input : DocumentTaxComputeInput) (line : DocumentTaxLineInput) : Prop :=
  input.taxOverride.isSome = true ∨
    (input.preferLineTaxOverrides = true ∧ line.isTaxable = some true ∧ 0 < line.taxRate.getD 0)

/-- The server has the product's row in hand for the line. -/
def RowLookedUp (input : DocumentTaxComputeInput) (line : DocumentTaxLineInput)
    (row : ProductTaxRow) : Prop :=
  input.preferLineTaxOverrides = false ∧ line.productId = some row.id

/-- No line of the document is taxed. -/
def DocumentUntaxed (today businessDate : ℤ) (conn : TaxTables) (input : DocumentTaxComputeInput) :
    Prop :=
  (input.applyTenantDefaultWhenUnresolved = true ∧ conn.taxEnabled = false) ∨
    (resolveCustomerTaxGate today (input.gateContext businessDate conn)).isSome = true

/-- The line as it was sent. -/
def DocumentTaxLineInput.asSent (line : DocumentTaxLineInput) : DocumentTaxPreviewLineInput :=
  { productId := line.productId
    lineNetAmount := line.lineNetAmount
    quantity := some line.quantity
    isTaxable := line.isTaxable
    taxRate := line.taxRate }

/-- What the sources below the switch charge on the line: the product's mappings, the line's
rate, the customer's and the tenant's. -/
def otherSources (today businessDate : ℤ) (conn : TaxTables) (input : DocumentTaxComputeInput)
    (line : DocumentTaxLineInput) : ℚ :=
  (taxedLine input.taxScope
    (resolveLiableLine today line.asSent (input.lineContext businessDate conn).previewContext)
    line).computation.totalTax

/-- The switch holds, or there is nothing to hold back. -/
def SwitchHolds (today businessDate : ℤ) (conn : TaxTables) (input : DocumentTaxComputeInput)
    (line : DocumentTaxLineInput) (row : ProductTaxRow) : Prop :=
  TaxAskedFor input line ∨ RowLookedUp input line row ∨ line.isTaxable = some false ∨
    DocumentUntaxed today businessDate conn input ∨
    otherSources today businessDate conn input line = 0

/-! ## The row in hand -/

section

variable {today businessDate : ℤ} {conn : TaxTables} {input : DocumentTaxComputeInput}
  {line : DocumentTaxLineInput} {row : ProductTaxRow}

theorem ProductIds.find?_eq (h : ProductIds conn) (hrow : row ∈ conn.products) :
    (conn.products.find? fun other => other.id = row.id) = some row := by
  cases hfind : conn.products.find? fun other => other.id = row.id with
  | none =>
    have hnone := List.find?_eq_none.mp hfind row hrow
    simp at hnone
  | some other =>
    have hid : other.id = row.id := by simpa using List.find?_some hfind
    exact congrArg some (List.inj_on_of_nodup_map h.nodup (List.mem_of_find?_eq_some hfind) hrow hid)

/-- Another text of the id finds no row. -/
theorem ProductIds.find?_eq_none (h : ProductIds conn) (hrow : row ∈ conn.products) {pid : String}
    (hsame : sameUuid pid row.id = true) (hne : pid ≠ row.id) :
    (conn.products.find? fun other => other.id = pid) = none := by
  rw [List.find?_eq_none]
  intro other hother hid
  have hpid : other.id = pid := of_decide_eq_true hid
  have hlower : pid.toLower = row.id.toLower := of_decide_eq_true hsame
  rw [h.lower row hrow, ← hpid, h.lower other hother] at hlower
  exact hne (hpid ▸ hlower)

theorem lineBridge_of_lookedUp (hids : ProductIds conn) (hrow : row ∈ conn.products)
    (hline : line ∈ input.lines) (h : RowLookedUp input line row) :
    lineBridge line (input.lineContext businessDate conn) =
      some ⟨row.isTaxable.getD false, row.taxRate.getD 0⟩ := by
  obtain ⟨hprefer, hpid⟩ := h
  rw [lineBridge_eq hline, hprefer, hpid]
  simp only [legacyBridge, hids.uuid row hrow, if_true, hids.find?_eq hrow, Option.map_some,
    Bool.false_eq_true, if_false]

theorem lineBridge_of_not_lookedUp (hids : ProductIds conn) (hrow : row ∈ conn.products)
    (hline : line ∈ input.lines) (hrefers : line.RefersTo row)
    (h : ¬ RowLookedUp input line row) :
    lineBridge line (input.lineContext businessDate conn) = none := by
  obtain ⟨pid, hpid, hsame⟩ := hrefers
  rw [lineBridge_eq hline]
  cases hprefer : input.preferLineTaxOverrides with
  | true => rfl
  | false =>
    have hne : pid ≠ row.id := fun heq => h ⟨hprefer, heq ▸ hpid⟩
    rw [hpid]
    simp [legacyBridge, hids.find?_eq_none hrow hsame hne]

/-- Without the row the line stays as it was sent. -/
theorem enrichedLine_of_not_lookedUp (hids : ProductIds conn) (hrow : row ∈ conn.products)
    (hline : line ∈ input.lines) (hrefers : line.RefersTo row) (h : ¬ RowLookedUp input line row) :
    enrichedLine line (input.lineContext businessDate conn) = line.asSent := by
  unfold enrichedLine
  rw [lineBridge_of_not_lookedUp hids hrow hline hrefers h]
  rfl

/-! ## The sources below the switch -/

/-- With the row in hand the line gets no tax. -/
theorem resolveLineTaxes_of_lookedUp (hids : ProductIds conn) (hrow : row ∈ conn.products)
    (hoff : row.IsOff) (hline : line ∈ input.lines) (h : RowLookedUp input line row) :
    resolveLineTaxes today line (input.lineContext businessDate conn) = ⟨[], .NONE⟩ := by
  unfold resolveLineTaxes enrichedLine
  rw [lineBridge_of_lookedUp hids hrow hline h]
  exact if_pos (congrArg some hoff)

/-- A line that decides nothing is left to the sources below. -/
theorem resolveOpenLine_of_undecided {line : DocumentTaxPreviewLineInput}
    {ctx : DocumentTaxPreviewContext}
    (hundecided : (if ctx.preferLineTaxOverrides then resolvePreferLineTaxes line ctx.taxCatalog
      else none) = none) (hmarked : line.isTaxable ≠ some false) :
    resolveOpenLine today line ctx = resolveLiableLine today line ctx := by
  unfold resolveOpenLine
  dsimp only
  rw [hundecided]
  exact if_neg hmarked

/-- Without it, a line that says nothing of its own gets what the sources below say. -/
theorem resolveLineTaxes_of_not_lookedUp (hids : ProductIds conn) (hrow : row ∈ conn.products)
    (hline : line ∈ input.lines) (hrefers : line.RefersTo row) (h : ¬ RowLookedUp input line row)
    (hasked : ¬ TaxAskedFor input line) (hmarked : line.isTaxable ≠ some false)
    (hgate : resolveCustomerTaxGate today (input.gateContext businessDate conn) = none) :
    resolveLineTaxes today line (input.lineContext businessDate conn) =
      resolveLiableLine today line.asSent
        (input.lineContext businessDate conn).previewContext := by
  have hsent : enrichedLine line (input.lineContext businessDate conn) = line.asSent :=
    enrichedLine_of_not_lookedUp hids hrow hline hrefers h
  have hmarked' : ¬ line.asSent.isTaxable = some false := hmarked
  have hgate' : resolveCustomerTaxGate today
      (input.lineContext businessDate conn).previewContext = none :=
    resolveCustomerTaxGate_weaken hgate rfl rfl rfl
  have hundecided : (if input.preferLineTaxOverrides then
      resolvePreferLineTaxes line.asSent (loadActiveTaxDefinitions conn input.taxScope)
      else none) = none := by
    cases hprefer : input.preferLineTaxOverrides with
    | false => rfl
    | true =>
      unfold resolvePreferLineTaxes DocumentTaxLineInput.asSent
      cases htaxable : line.isTaxable with
      | none => rfl
      | some taxable =>
        cases taxable with
        | false => exact absurd htaxable hmarked
        | true =>
          have hrate : ¬ 0 < line.taxRate.getD 0 := fun hpos =>
            hasked (.inr ⟨hprefer, htaxable, hpos⟩)
          exact if_neg hrate
  unfold resolveLineTaxes
  rw [hsent, if_neg hmarked']
  unfold resolvePreviewLineTaxes
  rw [if_neg (fun hand => by cases hand.2), hgate']
  exact (if_neg Bool.false_ne_true).trans (resolveOpenLine_of_undecided hundecided hmarked')

theorem serverTaxes_of_untaxed (hoverride : input.taxOverride = none)
    (h : DocumentUntaxed today businessDate conn input) :
    (serverTaxes today businessDate conn input line).taxes = [] := by
  unfold serverTaxes
  rw [hoverride]
  dsimp only
  split
  · rfl
  · rename_i hon
    obtain ⟨gate, hgate⟩ := Option.isSome_iff_exists.mp (h.resolve_left hon)
    rw [hgate]

theorem serverTaxes_of_taxed (hoverride : input.taxOverride = none)
    (h : ¬ DocumentUntaxed today businessDate conn input) :
    serverTaxes today businessDate conn input line =
      resolveLineTaxes today line (input.lineContext businessDate conn) := by
  have hgate : resolveCustomerTaxGate today (input.gateContext businessDate conn) = none :=
    Option.not_isSome_iff_eq_none.mp fun hsome => h (.inr hsome)
  unfold serverTaxes
  rw [hoverride]
  dsimp only
  rw [if_neg fun hdisabled => h (.inl hdisabled), hgate]

theorem totalTax_taxedLine_of_nil {scope : TaxScope} {resolved : ResolvedTaxes}
    (h : resolved.taxes = []) : (taxedLine scope resolved line).computation.totalTax = 0 := by
  simp only [taxedLine, h, computeTaxes_nil]

/-- The tax of one line, with the override or the row taken out of the question. -/
theorem totalTax_eq_zero_iff (hids : ProductIds conn) (hrow : row ∈ conn.products)
    (hoff : row.IsOff) (hline : line ∈ input.lines) (hrefers : line.RefersTo row)
    (hasked : ¬ TaxAskedFor input line) :
    (taxedLine input.taxScope (serverTaxes today businessDate conn input line)
        line).computation.totalTax = 0 ↔
      RowLookedUp input line row ∨ line.isTaxable = some false ∨
        DocumentUntaxed today businessDate conn input ∨
        otherSources today businessDate conn input line = 0 := by
  have hoverride : input.taxOverride = none :=
    Option.not_isSome_iff_eq_none.mp fun hsome => hasked (.inl hsome)
  by_cases huntaxed : DocumentUntaxed today businessDate conn input
  · simp [huntaxed, totalTax_taxedLine_of_nil (serverTaxes_of_untaxed hoverride huntaxed)]
  rw [serverTaxes_of_taxed hoverride huntaxed]
  by_cases hlooked : RowLookedUp input line row
  · have hnil : (resolveLineTaxes today line (input.lineContext businessDate conn)).taxes = [] :=
      congrArg ResolvedTaxes.taxes (resolveLineTaxes_of_lookedUp hids hrow hoff hline hlooked)
    simp [hlooked, totalTax_taxedLine_of_nil hnil]
  by_cases hmarked : line.isTaxable = some false
  · have hoffLine : (enrichedLine line (input.lineContext businessDate conn)).isTaxable =
        some false := by
      rw [enrichedLine_of_not_lookedUp hids hrow hline hrefers hlooked]
      exact hmarked
    have hnil : (resolveLineTaxes today line (input.lineContext businessDate conn)).taxes = [] :=
      congrArg ResolvedTaxes.taxes (if_pos hoffLine)
    simp [hmarked, totalTax_taxedLine_of_nil hnil]
  · have hgate : resolveCustomerTaxGate today (input.gateContext businessDate conn) = none :=
      Option.not_isSome_iff_eq_none.mp fun hsome => huntaxed (.inr hsome)
    rw [resolveLineTaxes_of_not_lookedUp hids hrow hline hrefers hlooked hasked hmarked hgate]
    simp [huntaxed, hlooked, hmarked, otherSources]

theorem lineResults_getElem? {i : ℕ} (hline : input.lines[i]? = some line) :
    (computeForLines today businessDate conn input).lineResults[i]? =
      some (taxedLine input.taxScope (serverTaxes today businessDate conn input line) line) := by
  obtain ⟨customerExempt, heq⟩ := computeForLines_eq today businessDate conn input
  rw [heq, documentTaxResult, List.getElem?_map, hline]
  rfl

end

/-- The preview never taxes a line whose product is switched off, but for an override. -/
theorem previewDocumentTax_of_off (today : ℤ) (lines : List DocumentTaxPreviewLineInput)
    (ctx : DocumentTaxPreviewContext) (hoverride : ctx.taxOverride = none) {i : ℕ}
    {line : DocumentTaxPreviewLineInput} (hline : lines[i]? = some line)
    (hoff : line.isTaxable = some false) {result : DocumentTaxPreviewLineResult}
    (hresult : (previewDocumentTax today lines ctx).lineResults[i]? = some result) :
    result.computation.totalTax = 0 := by
  obtain ⟨customerExempt, heq⟩ := previewDocumentTax_eq today lines ctx
  have hnil : (applicableTaxes today ctx line).taxes = [] := by
    unfold applicableTaxes resolvePreviewLineTaxes
    rw [hoverride]
    dsimp only
    rw [resolveOpenLine_of_not_taxable hoff]
    split
    · rfl
    · split
      · rfl
      · split <;> rfl
  rw [heq, aggregate, List.getElem?_mapIdx, hline] at hresult
  obtain rfl : previewLine ctx (applicableTaxes today ctx line) line i = result :=
    Option.some.inj hresult
  simp only [previewLine, hnil, computeTaxes_nil]

/-! ## Every line of a product that is switched off -/

/-- The server leaves a line of a product that is switched off untaxed, unless tax is asked for,
exactly when the switch holds; the preview always does. -/
theorem switchedOff_untaxed_iff {today businessDate : ℤ} {conn : TaxTables}
    {input : DocumentTaxComputeInput} (hids : ProductIds conn) {row : ProductTaxRow}
    (hrow : row ∈ conn.products) (hoff : row.IsOff) {i : ℕ} {line : DocumentTaxLineInput}
    (hline : input.lines[i]? = some line) (hrefers : line.RefersTo row) :
    ((∀ result, (computeForLines today businessDate conn input).lineResults[i]? = some result →
          result.computation.totalTax = 0 ∨ TaxAskedFor input line) ↔
        SwitchHolds today businessDate conn input line row) ∧
      ∀ (clientToday : ℤ) (lines : List DocumentTaxPreviewLineInput)
        (ctx : DocumentTaxPreviewContext) (k : ℕ) (shown : DocumentTaxPreviewLineInput),
        lines[k]? = some shown → shown.isTaxable = some false → ∀ result,
          (previewDocumentTax clientToday lines ctx).lineResults[k]? = some result →
            result.computation.totalTax = 0 ∨ ctx.taxOverride.isSome = true := by
  refine ⟨?_, fun clientToday lines ctx k shown hshown hoffLine result hresult => ?_⟩
  · have hmem : line ∈ input.lines := List.mem_of_getElem? hline
    rw [lineResults_getElem? hline]
    unfold SwitchHolds
    by_cases hasked : TaxAskedFor input line
    · simp [hasked]
    · simp only [Option.some.injEq, forall_eq', hasked, or_false, false_or]
      exact totalTax_eq_zero_iff hids hrow hoff hmem hrefers hasked
  · cases hoverride : ctx.taxOverride with
    | some override => exact .inr rfl
    | none =>
      exact .inl (previewDocumentTax_of_off clientToday lines ctx hoverride hshown hoffLine hresult)

/-! ## A mapped product that is switched off -/

def vatRow : TaxDefinitionRow :=
  { id := "vat", code := "VAT18", name := "VAT", type := .PERCENTAGE, rate := 18, isInclusive := false,
    isCompound := false, sequence := 10, scope := .BOTH, taxPayableAccount := "2300",
    taxReceivableAccount := "2300", isActive := true }

/-- A product that is mapped to VAT and switched off. -/
def salt : ProductTaxRow := ⟨litreId, some false, some 18⟩

def saltTables : TaxTables :=
  { systemSettings := some ⟨true, false, 18, false⟩
    taxDefinitions := [vatRow]
    productTaxMappings := [⟨litreId, "vat"⟩]
    products := [salt]
    customers := []
    taxExemptions := [] }

/-- Salt for 100, on a line that leaves the tax open. -/
def saltLine : DocumentTaxLineInput := ⟨0, some litreId, 100, 1, none, none⟩

def saltInput (preferLine : Bool) : DocumentTaxComputeInput :=
  { customerId := none
    documentDate := none
    scope := none
    lines := [saltLine]
    applyTenantDefaultWhenUnresolved := false
    preferLineTaxOverrides := preferLine
    taxOverride := none }

theorem saltTables_ids : ProductIds saltTables where
  nodup := by decide
  uuid := by decide +kernel
  lower := by decide +kernel

/-- On a sale salt is not taxed. -/
theorem salt_untaxed : salt.IsOff ∧
    ∀ result, (computeForLines 0 0 saltTables (saltInput false)).lineResults[0]? = some result →
      result.computation.totalTax = 0 ∨ TaxAskedFor (saltInput false) saltLine :=
  ⟨rfl, (switchedOff_untaxed_iff saltTables_ids List.mem_cons_self rfl
    (rfl : (saltInput false).lines[0]? = some saltLine)
    ⟨litreId, rfl, decide_eq_true rfl⟩).1.mpr (.inr (.inl ⟨rfl, rfl⟩))⟩

/-- On a quotation, whose lines decide, it is: the line leaves the tax to the mapping. -/
theorem salt_taxed_on_quotation :
    salt.IsOff ∧ saltLine.RefersTo salt ∧
      ¬ ∀ result, (computeForLines 0 0 saltTables (saltInput true)).lineResults[0]? = some result →
        result.computation.totalTax = 0 ∨ TaxAskedFor (saltInput true) saltLine := by
  refine ⟨rfl, ⟨litreId, rfl, decide_eq_true rfl⟩, fun h => ?_⟩
  have htax : ((computeForLines 0 0 saltTables (saltInput true)).lineResults[0]?.map
      fun result => result.computation.totalTax) = some 18 := by decide +kernel
  obtain ⟨result, hresult, heighteen⟩ := Option.map_eq_some_iff.mp htax
  rcases h result hresult with hzero | hasked | ⟨-, hmarked, -⟩
  · rw [heighteen] at hzero
    norm_num at hzero
  · cases hasked
  · cases hmarked

end SmartErpPos.Tax
