/-
  Tax/DocumentTaxService.lean --- the tax of a document as the server computes it.

  Sources: `SamplePOS.Server/src/services/documentTaxService.ts` (`computeForLines`,
  `resolveLineTaxes`, `aggregateDocument`) and `documentTaxRepository.ts` (the loaders).

  The tables are read only.  `businessDate` is `getBusinessDate()` and `today` the date of
  the server's clock.  Ids of products are texts of UUIDs; the loaders compare them as
  UUIDs, the maps they return look them up as texts.
-/
import SmartErpPos.Lib.OrderedMap
import SmartErpPos.Tax.DocumentTaxPreview

set_option autoImplicit false

namespace SmartErpPos.Tax

open SmartErpPos.Lib

/-! ## Tables -/

/-- The tax columns of `system_settings`. -/
structure SystemTaxSettings where
  taxEnabled : Bool
  taxInclusive : Bool
  defaultTaxRate : ℚ
  vatOutputRequiresRegisteredCustomer : Bool

/-- A row of `tax_definitions`; accounts and scope are never null there. -/
structure TaxDefinitionRow where
  id : String
  code : String
  name : String
  type : TaxType
  rate : ℚ
  isInclusive : Bool
  isCompound : Bool
  sequence : ℤ
  scope : TaxScope
  taxPayableAccount : String
  taxReceivableAccount : String
  isActive : Bool

/-- The tax columns of `products`. -/
structure ProductTaxRow where
  id : String
  isTaxable : Option Bool
  taxRate : Option ℚ

/-- The tax columns of `customers`. -/
structure CustomerTaxRow where
  id : String
  vatRegistered : Option Bool
  taxProfile : Option String
  defaultVatRate : Option ℚ
  vatRegistrationDate : Option ℤ
  taxEffectiveFrom : Option ℤ
  taxExempt : Option Bool

/-- A row of `tax_exemptions`. -/
structure TaxExemptionRow where
  customerId : String
  isActive : Bool
  validFrom : Option ℤ
  validUntil : Option ℤ

/-- A row of `product_tax_mappings`. -/
structure ProductTaxMappingRow where
  productId : String
  taxId : String

structure TaxTables where
  systemSettings : Option SystemTaxSettings
  taxDefinitions : List TaxDefinitionRow
  productTaxMappings : List ProductTaxMappingRow
  products : List ProductTaxRow
  customers : List CustomerTaxRow
  taxExemptions : List TaxExemptionRow

namespace TaxTables

def taxEnabled (conn : TaxTables) : Bool := (conn.systemSettings.map (·.taxEnabled)).getD false

def taxInclusive (conn : TaxTables) : Bool := (conn.systemSettings.map (·.taxInclusive)).getD false

def defaultTaxRate (conn : TaxTables) : ℚ := (conn.systemSettings.map (·.defaultTaxRate)).getD 0

def vatOutputRequiresRegisteredCustomer (conn : TaxTables) : Bool :=
  (conn.systemSettings.map (·.vatOutputRequiresRegisteredCustomer)).getD false

end TaxTables

/-! ## Loaders -/

/-- `mapTaxDefinitionRow`. -/
def mapTaxDefinitionRow (row : TaxDefinitionRow) : TaxDefinitionLike :=
  { id := row.id
    code := row.code
    name := row.name
    type := row.type
    rate := row.rate
    isInclusive := row.isInclusive
    isCompound := row.isCompound
    sequence := row.sequence
    scope := some row.scope
    taxPayableAccountCode := some (orText (some row.taxPayableAccount) "2300")
    taxReceivableAccountCode := some (orText (some row.taxReceivableAccount) "2300")
    isActive := row.isActive }

/-- `is_active = true AND (scope = $1 OR scope = 'BOTH')`. -/
def TaxDefinitionRow.isActiveFor (scope : TaxScope) (row : TaxDefinitionRow) : Bool :=
  row.isActive && (decide (row.scope = scope) || decide (row.scope = .BOTH))

/-- `ORDER BY sequence`. -/
def bySequence (rows : List TaxDefinitionRow) : List TaxDefinitionRow :=
  rows.insertionSort fun a b => a.sequence ≤ b.sequence

/-- `loadActiveTaxDefinitions`. -/
def loadActiveTaxDefinitions (conn : TaxTables) (scope : TaxScope) : List TaxDefinitionLike :=
  (bySequence (conn.taxDefinitions.filter (·.isActiveFor scope))).map mapTaxDefinitionRow

/-- Two texts of one UUID. -/
def sameUuid (a b : String) : Bool := decide (a.toLower = b.toLower)

/-- The rows `loadProductTaxMappings` gathers for one product. -/
def mappedRows (conn : TaxTables) (scope : TaxScope) (productId : String) : List TaxDefinitionRow :=
  let taxIds := (conn.productTaxMappings.filter fun ptm => ptm.productId = productId).map (·.taxId)
  bySequence (taxIds.flatMap fun taxId =>
    conn.taxDefinitions.filter fun td => decide (td.id = taxId) && td.isActiveFor scope)

/-- `loadProductTaxMappings`; products without a row are not in the map. -/
def loadProductTaxMappings (conn : TaxTables) (productIds : List String) (scope : TaxScope)
    (pid : String) : Option (List TaxDefinitionLike) :=
  if productIds.any (sameUuid pid) ∧ mappedRows conn scope pid ≠ [] then
    some ((mappedRows conn scope pid).map mapTaxDefinitionRow)
  else none

structure ProductTaxBridge where
  isTaxable : Bool
  taxRate : ℚ
  deriving DecidableEq

/-- `loadProductTaxBridge`. -/
def loadProductTaxBridge (conn : TaxTables) (productIds : List String) (pid : String) :
    Option ProductTaxBridge :=
  if productIds.any (sameUuid pid) then
    (conn.products.find? fun row => row.id = pid).map fun row =>
      { isTaxable := row.isTaxable.getD false, taxRate := row.taxRate.getD 0 }
  else none

/-- `isCustomerTaxExempt`. -/
def isCustomerTaxExempt (conn : TaxTables) (customerId : String) (asOfDate : ℤ) : Bool :=
  conn.taxExemptions.any fun row =>
    decide (row.customerId = customerId) && row.isActive &&
      (row.validFrom.all fun validFrom => decide (validFrom ≤ asOfDate)) &&
      row.validUntil.all fun validUntil => decide (asOfDate ≤ validUntil)

/-- `loadCustomerTaxProfile`, as the profile that is handed on. -/
def loadCustomerTaxProfile (conn : TaxTables) (customerId : String) :
    Option CustomerTaxProfilePreview :=
  (conn.customers.find? fun row => row.id = customerId).map fun row =>
    { vatRegistered := some (row.vatRegistered.getD false)
      taxExempt := some (row.taxExempt.getD false)
      taxProfile := some (orText row.taxProfile "STANDARD")
      defaultVatRate := row.defaultVatRate
      taxEffectiveFrom := row.taxEffectiveFrom
      vatRegistrationDate := row.vatRegistrationDate }

/-! ## Computing a document -/

structure DocumentTaxLineInput where
  lineIndex : ℕ
  productId : Option String
  lineNetAmount : ℚ
  quantity : ℚ
  isTaxable : Option Bool
  taxRate : Option ℚ

structure DocumentTaxComputeInput where
  customerId : Option String
  documentDate : Option ℤ
  scope : Option TaxScope
  lines : List DocumentTaxLineInput
  applyTenantDefaultWhenUnresolved : Bool
  preferLineTaxOverrides : Bool
  taxOverride : Option DocumentTaxOverrideInput

structure DocumentTaxResult where
  lineResults : List DocumentTaxPreviewLineResult
  documentTotals : TaxComputationResultLike
  customerExempt : Bool
  taxEnabled : Bool
  taxInclusive : Bool
  taxOverrideApplied : Bool
  deriving DecidableEq

/-- `emptyComputation`. -/
def emptyComputation (amount : ℚ) : TaxComputationResultLike := computeTaxes amount [] 1 true

/-- The sums of `aggregateDocument` under one tax. -/
def addTaxLine (aggregated : OrderedMap String TaxLineResultLike) (line : TaxLineResultLike) :
    OrderedMap String TaxLineResultLike :=
  match aggregated.get? line.taxId with
  | some existing =>
    aggregated.set line.taxId { existing with
      baseAmount := existing.baseAmount + line.baseAmount
      taxAmount := existing.taxAmount + line.taxAmount }
  | none => aggregated.set line.taxId line

/-- `aggregateDocument`: the tax is rounded, the total is taken from it before that. -/
def aggregateDocument (lineResults : List DocumentTaxPreviewLineResult) :
    TaxComputationResultLike :=
  let totalUntaxed := (lineResults.map (·.computation.untaxedAmount)).sum
  let totalTax := (lineResults.map (·.computation.totalTax)).sum
  let taxLines := lineResults.flatMap (·.computation.taxLines)
  { untaxedAmount := totalUntaxed
    totalTax := roundTo 2 totalTax
    totalAmount := totalUntaxed + totalTax
    taxLines := (taxLines.foldl addTaxLine .empty).values }

/-- What `resolveLineTaxes` is given besides the line. -/
structure ResolveLineContext where
  catalog : List TaxDefinitionLike
  mappings : String → Option (List TaxDefinitionLike)
  bridges : String → Option ProductTaxBridge
  defaultTaxRate : ℚ
  applyTenantDefault : Bool
  preferLineTaxOverrides : Bool
  customerProfile : Option CustomerTaxProfilePreview
  documentDate : ℤ
  taxInclusive : Bool

/-- The product row that stands in for the line's own fields, if one does. -/
def lineBridge (line : DocumentTaxLineInput) (ctx : ResolveLineContext) : Option ProductTaxBridge :=
  match line.productId with
  | some pid =>
    if isUuidProductId (some pid) = true ∧ ctx.preferLineTaxOverrides = false then ctx.bridges pid
    else none
  | none => none

/-- The line with the product's fields put in. -/
def enrichedLine (line : DocumentTaxLineInput) (ctx : ResolveLineContext) :
    DocumentTaxPreviewLineInput :=
  let bridge := lineBridge line ctx
  { productId := line.productId
    lineNetAmount := line.lineNetAmount
    quantity := some line.quantity
    isTaxable := (bridge.map (·.isTaxable)).orElse fun _ => line.isTaxable
    taxRate := (bridge.map (·.taxRate)).orElse fun _ => line.taxRate }

/-- The context `resolveLineTaxes` hands on; the document's gates are behind it. -/
def ResolveLineContext.previewContext (ctx : ResolveLineContext) : DocumentTaxPreviewContext :=
  { customerExempt := false
    customerProfile := ctx.customerProfile
    vatOutputRequiresRegisteredCustomer := false
    documentDate := some ctx.documentDate
    productMappings := ctx.mappings
    taxCatalog := ctx.catalog
    applyTenantDefaultWhenUnresolved := ctx.applyTenantDefault
    preferLineTaxOverrides := ctx.preferLineTaxOverrides
    taxEnabled := some true
    taxInclusive := ctx.taxInclusive
    defaultTaxRate := some ctx.defaultTaxRate
    scopeIsSale := none
    customerDefaultVatRate := ctx.customerProfile.bind (·.defaultVatRate)
    taxOverride := none }

/-- `resolveLineTaxes`. -/
def resolveLineTaxes (today : ℤ) (line : DocumentTaxLineInput) (ctx : ResolveLineContext) :
    ResolvedTaxes :=
  if (enrichedLine line ctx).isTaxable = some false then ⟨[], .NONE⟩
  else resolvePreviewLineTaxes today (enrichedLine line ctx) ctx.previewContext

/-- Lines without tax, under one determination. -/
def untaxedLines (determination : TaxDetermination) (lines : List DocumentTaxLineInput) :
    List DocumentTaxPreviewLineResult :=
  lines.map fun line =>
    { lineIndex := line.lineIndex
      determination := determination
      taxes := []
      computation := emptyComputation line.lineNetAmount }

/-- A line with the taxes found for it. -/
def taxedLine (scope : TaxScope) (resolved : ResolvedTaxes) (line : DocumentTaxLineInput) :
    DocumentTaxPreviewLineResult :=
  { lineIndex := line.lineIndex
    determination := resolved.determination
    taxes := resolved.taxes
    computation := computeTaxes line.lineNetAmount resolved.taxes (orOne line.quantity)
      (decide (scope ≠ .PURCHASE)) }

/-- The lines of a document under an override. -/
def overriddenLines (override : DocumentTaxOverrideInput) (catalog : List TaxDefinitionLike)
    (taxInclusive : Bool) (scope : TaxScope) (lines : List DocumentTaxLineInput) :
    List DocumentTaxPreviewLineResult :=
  match override.mode with
  | .FORCE_EXEMPT => untaxedLines .OVERRIDE lines
  | .FORCE_RATE =>
    let rate := override.rate.getD 0
    let rawTaxes := if 0 < rate then [bridgeTaxDefinition rate catalog] else []
    lines.map (taxedLine scope ⟨taxesForPriceMode rawTaxes taxInclusive, .OVERRIDE⟩)

/-- The ids `computeForLines` loads mappings and bridges for. -/
def uuidIds (lines : List DocumentTaxLineInput) : List String :=
  ((lines.filterMap (·.productId)).filter fun pid => isUuidProductId (some pid)).dedup

namespace DocumentTaxComputeInput

variable (input : DocumentTaxComputeInput)

/-- `input.scope ?? 'SALE'`. -/
def taxScope : TaxScope := input.scope.getD .SALE

/-- `input.documentDate || getBusinessDate()`. -/
def asOf (businessDate : ℤ) : ℤ := input.documentDate.getD businessDate

/-- The customer, unless the id is empty. -/
def customer : Option String := input.customerId.filter fun customerId => customerId ≠ ""

def customerExempt (businessDate : ℤ) (conn : TaxTables) : Bool :=
  input.customer.any fun customerId => isCustomerTaxExempt conn customerId (input.asOf businessDate)

def customerProfile (conn : TaxTables) : Option CustomerTaxProfilePreview :=
  input.customer.bind (loadCustomerTaxProfile conn)

/-- What the server hands to `resolveCustomerTaxGate`. -/
def gateContext (businessDate : ℤ) (conn : TaxTables) : DocumentTaxPreviewContext :=
  { customerExempt := input.customerExempt businessDate conn
    customerProfile := input.customerProfile conn
    vatOutputRequiresRegisteredCustomer := conn.vatOutputRequiresRegisteredCustomer
    documentDate := some (input.asOf businessDate)
    productMappings := fun _ => none
    taxCatalog := []
    applyTenantDefaultWhenUnresolved := false
    preferLineTaxOverrides := false
    taxEnabled := none
    taxInclusive := false
    defaultTaxRate := none
    scopeIsSale := none
    customerDefaultVatRate := none
    taxOverride := none }

/-- What the server hands to `resolveLineTaxes`. -/
def lineContext (businessDate : ℤ) (conn : TaxTables) : ResolveLineContext :=
  { catalog := loadActiveTaxDefinitions conn input.taxScope
    mappings := loadProductTaxMappings conn (uuidIds input.lines) input.taxScope
    bridges := loadProductTaxBridge conn (uuidIds input.lines)
    defaultTaxRate := conn.defaultTaxRate
    applyTenantDefault := input.applyTenantDefaultWhenUnresolved
    preferLineTaxOverrides := input.preferLineTaxOverrides
    customerProfile := input.customerProfile conn
    documentDate := input.asOf businessDate
    taxInclusive := conn.taxInclusive }

end DocumentTaxComputeInput

/-- The result with its totals. -/
def documentTaxResult (conn : TaxTables) (input : DocumentTaxComputeInput)
    (lineResults : List DocumentTaxPreviewLineResult) (customerExempt : Bool) : DocumentTaxResult :=
  { lineResults := lineResults
    documentTotals := aggregateDocument lineResults
    customerExempt := customerExempt
    taxEnabled := conn.taxEnabled
    taxInclusive := conn.taxInclusive
    taxOverrideApplied := input.taxOverride.isSome }

/-- `computeForLines`. -/
def computeForLines (today businessDate : ℤ) (conn : TaxTables) (input : DocumentTaxComputeInput) :
    DocumentTaxResult :=
  match input.taxOverride with
  | some override =>
    documentTaxResult conn input
      (overriddenLines override (loadActiveTaxDefinitions conn input.taxScope) conn.taxInclusive
        input.taxScope input.lines) false
  | none =>
    if input.applyTenantDefaultWhenUnresolved = true ∧ conn.taxEnabled = false then
      documentTaxResult conn input (untaxedLines .DISABLED input.lines) false
    else
      let customerGate := resolveCustomerTaxGate today (input.gateContext businessDate conn)
      if customerGate = some .EXEMPT ∨ input.customerExempt businessDate conn = true then
        documentTaxResult conn input (untaxedLines .EXEMPT input.lines) true
      else if customerGate = some .NONE then
        documentTaxResult conn input (untaxedLines .NONE input.lines) false
      else
        documentTaxResult conn input
          (input.lines.map fun line =>
            taxedLine input.taxScope
              (resolveLineTaxes today line (input.lineContext businessDate conn)) line) false

end SmartErpPos.Tax
