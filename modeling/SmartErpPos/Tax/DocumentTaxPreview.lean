/-
  Tax/DocumentTaxPreview.lean --- which taxes a line gets, and the client's preview.

  Source: `src/shared/utils/documentTaxPreview.ts`.  The gates and `resolvePreviewLineTaxes`
  are shared with the server; `previewDocumentTax` and `aggregate` are the client's.

  Dates are day numbers.  `today` is the date of the clock of whoever runs the code, used
  where a document has no date.  A missing rate or quantity counts as 0 where the source
  compares `Number(undefined)`.
-/
import SmartErpPos.Lib.DecimalText
import SmartErpPos.Tax.TaxCompute

set_option autoImplicit false

namespace SmartErpPos.Tax

open SmartErpPos.Lib

/-! ## Inputs -/

inductive TaxDetermination where
  | EXEMPT
  | MAPPING
  | BRIDGE
  | TENANT_DEFAULT
  | NONE
  | DISABLED
  | OVERRIDE
  deriving DecidableEq

inductive DocumentTaxOverrideMode where
  | FORCE_EXEMPT
  | FORCE_RATE
  deriving DecidableEq

structure DocumentTaxOverrideInput where
  mode : DocumentTaxOverrideMode
  rate : Option ℚ

structure DocumentTaxPreviewLineInput where
  productId : Option String
  lineNetAmount : ℚ
  quantity : Option ℚ
  isTaxable : Option Bool
  taxRate : Option ℚ

structure CustomerTaxProfilePreview where
  vatRegistered : Option Bool
  taxExempt : Option Bool
  taxProfile : Option String
  defaultVatRate : Option ℚ
  taxEffectiveFrom : Option ℤ
  vatRegistrationDate : Option ℤ

structure DocumentTaxPreviewContext where
  customerExempt : Bool
  customerProfile : Option CustomerTaxProfilePreview
  vatOutputRequiresRegisteredCustomer : Bool
  documentDate : Option ℤ
  /-- `productMappings.get(id)`. -/
  productMappings : String → Option (List TaxDefinitionLike)
  taxCatalog : List TaxDefinitionLike
  applyTenantDefaultWhenUnresolved : Bool
  preferLineTaxOverrides : Bool
  taxEnabled : Option Bool
  taxInclusive : Bool
  defaultTaxRate : Option ℚ
  scopeIsSale : Option Bool
  customerDefaultVatRate : Option ℚ
  taxOverride : Option DocumentTaxOverrideInput

/-- `isUuidProductId`. -/
def isUuidProductId : Option String → Bool
  | none => false
  | some productId => !jsStartsWith "custom_" productId && isUuidText productId

/-! ## Taxes from a rate -/

/-- `bridgeTaxDefinition`: the catalog's own percentage at that rate, or one made up for it. -/
def bridgeTaxDefinition (rate : ℚ) (catalog : List TaxDefinitionLike) : TaxDefinitionLike :=
  let matching := catalog.find? fun t =>
    decide (t.type = .PERCENTAGE) && !t.isInclusive && !t.isCompound && decide (t.rate = rate) &&
      decide (t.code ≠ "EXEMPT") && t.isActive
  matching.getD
    { id := "bridge:rate:" ++ decimalText rate
      code := "BRIDGE_" ++ decimalText rate
      name := "VAT " ++ decimalText rate ++ "%"
      type := .PERCENTAGE
      rate := rate
      isInclusive := false
      isCompound := false
      sequence := 10
      scope := some .SALE
      taxPayableAccountCode := some "2300"
      taxReceivableAccountCode := some "2300"
      isActive := true }

/-- `taxesForPriceMode`: where prices include tax, percentages are taken out of them. -/
def taxesForPriceMode (taxes : List TaxDefinitionLike) (taxInclusive : Bool) :
    List TaxDefinitionLike :=
  if !taxInclusive || taxes.isEmpty then taxes
  else taxes.map fun t =>
    if t.type = .PERCENTAGE ∧ t.isInclusive = false then { t with isInclusive := true } else t

@[simp] theorem taxesForPriceMode_nil (taxInclusive : Bool) : taxesForPriceMode [] taxInclusive = [] := by
  simp [taxesForPriceMode]

/-! ## Determination -/

/-- `profileIsVatRegisteredActive`. -/
def profileIsVatRegisteredActive (today : ℤ) (profile : Option CustomerTaxProfilePreview)
    (documentDate : Option ℤ) : Bool :=
  match profile with
  | none => false
  | some profile =>
    if profile.vatRegistered = some true ∨ profile.taxProfile = some "VAT_REGISTERED" then
      let asOf := documentDate.getD today
      match profile.taxEffectiveFrom.orElse fun _ => profile.vatRegistrationDate with
      | some effective => decide (effective ≤ asOf)
      | none => true
    else false

/-- `resolveCustomerTaxGate`: a determination the customer decides for the whole document. -/
def resolveCustomerTaxGate (today : ℤ) (ctx : DocumentTaxPreviewContext) :
    Option TaxDetermination :=
  let taxExempt := ctx.customerProfile.bind (·.taxExempt)
  let taxProfile := ctx.customerProfile.bind (·.taxProfile)
  if ctx.customerExempt = true ∨ taxExempt = some true ∨ taxProfile = some "EXEMPT" then
    some .EXEMPT
  else if taxProfile = some "ZERO_RATED" then some .NONE
  else if ctx.vatOutputRequiresRegisteredCustomer then
    if profileIsVatRegisteredActive today ctx.customerProfile ctx.documentDate then none
    else some .NONE
  else none

structure ResolvedTaxes where
  taxes : List TaxDefinitionLike
  determination : TaxDetermination
  deriving DecidableEq

/-- `resolvePreferLineTaxes`: resolves only where the line itself decides. -/
def resolvePreferLineTaxes (line : DocumentTaxPreviewLineInput) (catalog : List TaxDefinitionLike) :
    Option ResolvedTaxes :=
  match line.isTaxable with
  | none => none
  | some false => some ⟨[], .NONE⟩
  | some true =>
    if 0 < line.taxRate.getD 0 then
      some ⟨[bridgeTaxDefinition (line.taxRate.getD 0) catalog], .BRIDGE⟩
    else none

/-- The taxes mapped to the line's product, if its id is a UUID and there are any. -/
def mappedTaxes (line : DocumentTaxPreviewLineInput) (ctx : DocumentTaxPreviewContext) :
    List TaxDefinitionLike :=
  match line.productId with
  | some pid => if isUuidProductId (some pid) then (ctx.productMappings pid).getD [] else []
  | none => []

/-- `ctx.customerDefaultVatRate ?? ctx.customerProfile?.defaultVatRate`. -/
def customerRate (ctx : DocumentTaxPreviewContext) : ℚ :=
  (ctx.customerDefaultVatRate.orElse fun _ =>
    ctx.customerProfile.bind (·.defaultVatRate)).getD 0

/-- The part of `resolvePreviewLineTaxes` below the line's own decision: mappings, the
product's own rate, the customer's rate and the tenant's rate. -/
def resolveLiableLine (today : ℤ) (line : DocumentTaxPreviewLineInput)
    (ctx : DocumentTaxPreviewContext) : ResolvedTaxes :=
  let atRate (rate : ℚ) : List TaxDefinitionLike :=
    taxesForPriceMode [bridgeTaxDefinition rate ctx.taxCatalog] ctx.taxInclusive
  if mappedTaxes line ctx ≠ [] then
    ⟨taxesForPriceMode (mappedTaxes line ctx) ctx.taxInclusive, .MAPPING⟩
  else if line.isTaxable = some true ∧ 0 < line.taxRate.getD 0 then
    ⟨atRate (line.taxRate.getD 0), .BRIDGE⟩
  else if 0 < customerRate ctx ∧
      profileIsVatRegisteredActive today ctx.customerProfile ctx.documentDate = true then
    ⟨atRate (customerRate ctx), .BRIDGE⟩
  else if ctx.applyTenantDefaultWhenUnresolved = true ∧ 0 < ctx.defaultTaxRate.getD 0 then
    ⟨atRate (ctx.defaultTaxRate.getD 0), .TENANT_DEFAULT⟩
  else ⟨[], .NONE⟩

/-- The part of `resolvePreviewLineTaxes` below the document's gates. -/
def resolveOpenLine (today : ℤ) (line : DocumentTaxPreviewLineInput)
    (ctx : DocumentTaxPreviewContext) : ResolvedTaxes :=
  let preferred :=
    if ctx.preferLineTaxOverrides then resolvePreferLineTaxes line ctx.taxCatalog else none
  match preferred with
  | some preferred =>
    ⟨taxesForPriceMode preferred.taxes ctx.taxInclusive, preferred.determination⟩
  | none =>
    if line.isTaxable = some false then ⟨[], .NONE⟩ else resolveLiableLine today line ctx

/-- `resolvePreviewLineTaxes`. -/
def resolvePreviewLineTaxes (today : ℤ) (line : DocumentTaxPreviewLineInput)
    (ctx : DocumentTaxPreviewContext) : ResolvedTaxes :=
  if ctx.applyTenantDefaultWhenUnresolved = true ∧ ctx.taxEnabled = some false then
    ⟨[], .DISABLED⟩
  else
    match resolveCustomerTaxGate today ctx with
    | some gate => ⟨[], gate⟩
    | none => if ctx.customerExempt then ⟨[], .EXEMPT⟩ else resolveOpenLine today line ctx

/-! ## The preview -/

structure DocumentTaxPreviewLineResult where
  lineIndex : ℕ
  determination : TaxDetermination
  taxes : List TaxDefinitionLike
  computation : TaxComputationResultLike
  deriving DecidableEq

structure DocumentTaxPreviewResult where
  lineResults : List DocumentTaxPreviewLineResult
  totalTax : ℚ
  untaxedAmount : ℚ
  totalAmount : ℚ
  customerExempt : Bool
  deriving DecidableEq

/-- `aggregate`: the total is what the rounded tax makes it. -/
def aggregate (lineResults : List DocumentTaxPreviewLineResult) (customerExempt : Bool) :
    DocumentTaxPreviewResult :=
  let untaxed := (lineResults.map (·.computation.untaxedAmount)).sum
  let tax := (lineResults.map (·.computation.totalTax)).sum
  let totalTax := roundTo 2 tax
  { lineResults := lineResults
    totalTax := totalTax
    untaxedAmount := untaxed
    totalAmount := untaxed + totalTax
    customerExempt := customerExempt }

/-- `n || 1`. -/
def orOne (quantity : ℚ) : ℚ := if quantity = 0 then 1 else quantity

/-- The result for one line with the taxes found for it. -/
def previewLine (ctx : DocumentTaxPreviewContext) (resolved : ResolvedTaxes)
    (line : DocumentTaxPreviewLineInput) (lineIndex : ℕ) : DocumentTaxPreviewLineResult :=
  { lineIndex := lineIndex
    determination := resolved.determination
    taxes := resolved.taxes
    computation := computeTaxes line.lineNetAmount resolved.taxes (orOne (line.quantity.getD 0))
      (decide (ctx.scopeIsSale ≠ some false)) }

/-- The taxes an override puts on every line. -/
def overrideTaxes (override : DocumentTaxOverrideInput) (catalog : List TaxDefinitionLike)
    (taxInclusive : Bool) : List TaxDefinitionLike :=
  match override.mode with
  | .FORCE_EXEMPT => []
  | .FORCE_RATE =>
    let rate := override.rate.getD 0
    taxesForPriceMode (if 0 < rate then [bridgeTaxDefinition rate catalog] else []) taxInclusive

/-- Every line treated alike. -/
def previewAll (ctx : DocumentTaxPreviewContext) (resolved : ResolvedTaxes)
    (lines : List DocumentTaxPreviewLineInput) : List DocumentTaxPreviewLineResult :=
  lines.mapIdx fun lineIndex line => previewLine ctx resolved line lineIndex

/-- `applyDocumentTaxOverride`. -/
def applyDocumentTaxOverride (lines : List DocumentTaxPreviewLineInput)
    (override : DocumentTaxOverrideInput) (ctx : DocumentTaxPreviewContext) :
    DocumentTaxPreviewResult :=
  let taxes := overrideTaxes override ctx.taxCatalog ctx.taxInclusive
  aggregate (previewAll ctx ⟨taxes, .OVERRIDE⟩ lines) false

/-- `previewDocumentTax`. -/
def previewDocumentTax (today : ℤ) (lines : List DocumentTaxPreviewLineInput)
    (ctx : DocumentTaxPreviewContext) : DocumentTaxPreviewResult :=
  match ctx.taxOverride with
  | some override => applyDocumentTaxOverride lines override ctx
  | none =>
    if ctx.applyTenantDefaultWhenUnresolved = true ∧ ctx.taxEnabled = some false then
      aggregate (previewAll ctx ⟨[], .DISABLED⟩ lines) false
    else
      let customerGate := resolveCustomerTaxGate today ctx
      if customerGate = some .EXEMPT ∨ ctx.customerExempt = true then
        aggregate (previewAll ctx ⟨[], .EXEMPT⟩ lines) true
      else if customerGate = some .NONE then
        aggregate (previewAll ctx ⟨[], .NONE⟩ lines) false
      else
        aggregate (lines.mapIdx fun lineIndex line =>
          previewLine ctx (resolvePreviewLineTaxes today line ctx) line lineIndex) false

end SmartErpPos.Tax
