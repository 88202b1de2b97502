/-
  Products/UomGraph.lean --- units of measure and how they convert to the base unit.

  Source: `products/uomGraphService.ts` (`parseFactor`, `validateCanonicalUomGraph`,
  `assertCanonicalUomGraph`, `resolveFactorToBase`).

  A conversion leads from a larger unit to a smaller one.  The validator collects issues: it
  looks at every conversion, keeping the first of each source unit, and then walks from every
  unit to the base.  Resolution builds its own map, in which the last conversion of a source
  unit counts, and multiplies the factors along the way.

  The library keeps a number of significant digits of a product.  This module sets it to 28;
  the setting is global, so it is a parameter here.  The loops take fuel.
-/
import Mathlib.Data.PNat.Basic
import SmartErpPos.Lib.DecimalText
import SmartErpPos.Lib.Fallible
import SmartErpPos.Lib.OrderedMap
import SmartErpPos.Lib.RootedWalk
import SmartErpPos.Lib.SignificantDigits

set_option autoImplicit false

namespace SmartErpPos.Products

open SmartErpPos.Lib

abbrev UomId := String

/-! ## Conversions -/

/-- What the decimal library reads in a factor. -/
inductive DecimalReading where
  | finite (value : ℚ)
  /-- NaN and the infinities. -/
  | notFinite
  /-- The constructor throws. -/
  | unreadable
  deriving DecidableEq

/-- A factor, a number or a text, with its text and its reading. -/
structure FactorValue where
  text : String
  reading : DecimalReading
  deriving DecidableEq

structure ItemUomConversion where
  fromUomId : UomId
  toUomId : UomId
  factor : FactorValue
  deriving DecidableEq

structure ResolvedUomConversion where
  baseUomId : UomId
  factorToBase : ℚ
  path : List UomId
  deriving DecidableEq

structure CanonicalGraphValidationResult where
  isValid : Bool
  issues : List String
  deriving DecidableEq

/-- `parseFactor`. -/
def parseFactor (value : FactorValue) : Except String ℚ :=
  match value.reading with
  | .unreadable => .error s!"[DecimalError] Invalid argument: {value.text}"
  | .notFinite => .error s!"UoM conversion factor must be >= 1. Received {value.text}."
  | .finite factor =>
    if factor < 1 then .error s!"UoM conversion factor must be >= 1. Received {value.text}."
    else .ok factor

/-- The two units of a conversion as one text, whichever way it leads. -/
def pairKey (conversion : ItemUomConversion) : String :=
  if conversion.fromUomId ≤ conversion.toUomId then
    conversion.fromUomId ++ "::" ++ conversion.toUomId
  else conversion.toUomId ++ "::" ++ conversion.fromUomId

/-! ## The validator -/

/-- The state of the loop over the conversions. -/
structure Scan where
  issues : List String
  outgoing : OrderedMap UomId ItemUomConversion
  directionlessPairs : List String

/-- The issues one conversion raises. -/
def conversionIssues (baseUomId : UomId) (scan : Scan) (conversion : ItemUomConversion) :
    List String :=
  if conversion.fromUomId = conversion.toUomId then
    [s!"UoM {conversion.fromUomId} cannot convert to itself."]
  else
    (match parseFactor conversion.factor with
      | .error message => [message]
      | .ok _ => []) ++
    (if conversion.fromUomId = baseUomId then
      [s!"Base UoM {baseUomId} cannot be a source unit in canonical larger-to-smaller edges."]
      else []) ++
    (if pairKey conversion ∈ scan.directionlessPairs then
      [s!"Duplicate or reverse conversion detected for pair {pairKey conversion}."]
      else []) ++
    (match scan.outgoing.get? conversion.fromUomId with
      | some existing =>
        [s!"UoM {conversion.fromUomId} already has a canonical path to {existing.toUomId}; parallel paths are not allowed."]
      | none => [])

/-- The loop over the conversions: a conversion of a unit to itself is not looked at further. -/
def scanConversion (baseUomId : UomId) (scan : Scan) (conversion : ItemUomConversion) : Scan where
  issues := scan.issues ++ conversionIssues baseUomId scan conversion
  outgoing :=
    if conversion.fromUomId = conversion.toUomId then scan.outgoing
    else
      match scan.outgoing.get? conversion.fromUomId with
      | some _ => scan.outgoing
      | none => scan.outgoing.set conversion.fromUomId conversion
  directionlessPairs :=
    if conversion.fromUomId = conversion.toUomId then scan.directionlessPairs
    else if pairKey conversion ∈ scan.directionlessPairs then scan.directionlessPairs
    else pairKey conversion :: scan.directionlessPairs

/-- The conversions looked at one after the other. -/
def scanConversions (baseUomId : UomId) (conversions : List ItemUomConversion) : Scan :=
  conversions.foldl (scanConversion baseUomId) ⟨[], .empty, []⟩

/-- The base and every unit of a conversion. -/
def graphNodes (baseUomId : UomId) (conversions : List ItemUomConversion) : List UomId :=
  (baseUomId :: conversions.flatMap fun c => [c.fromUomId, c.toUomId]).eraseDups

/-- The issue the walk from a unit ends with. -/
def walkIssues (baseUomId node : UomId) : WalkEnd UomId ItemUomConversion → List String
  | .arrived _ => []
  | .loop current => [s!"Loop detected in item UoM graph involving {current}."]
  | .deadEnd _ => [s!"UoM {node} does not resolve to base UoM {baseUomId}."]

/-- The loop over the units.  The base is passed over: the walk from it ends at once. -/
def nodeIssues (fuel : ℕ) (outgoing : OrderedMap UomId ItemUomConversion) (baseUomId : UomId) :
    List UomId → Option (List String)
  | [] => some []
  | node :: rest => do
    let reached ← walk outgoing.get? (·.toUomId) baseUomId fuel [] node
    let others ← nodeIssues fuel outgoing baseUomId rest
    some (walkIssues baseUomId node reached ++ others)

/-- `validateCanonicalUomGraph`; nothing when the fuel runs out. -/
def validateCanonicalUomGraph (fuel : ℕ) (baseUomId : UomId)
    (conversions : List ItemUomConversion) : Option CanonicalGraphValidationResult := do
  let scan := scanConversions baseUomId conversions
  let walks ← nodeIssues fuel scan.outgoing baseUomId (graphNodes baseUomId conversions)
  let issues := scan.issues ++ walks
  some ⟨issues.isEmpty, issues⟩

/-- `assertCanonicalUomGraph`. -/
def assertCanonicalUomGraph (fuel : ℕ) (baseUomId : UomId)
    (conversions : List ItemUomConversion) : Option (Except String Unit) := do
  let result ← validateCanonicalUomGraph fuel baseUomId conversions
  some (if result.isValid then .ok () else .error (" ".intercalate result.issues))

/-! ## Resolution -/

/-- The loop of the resolution: the units seen, the current one, the factor and the path. -/
def resolveLoop (precision : ℕ+) (outgoing : OrderedMap UomId ItemUomConversion)
    (baseUomId sourceUomId : UomId) :
    ℕ → List UomId → UomId → ℚ → List UomId → Option (Except String ResolvedUomConversion)
  | 0, _, _, _, _ => none
  | fuel + 1, seen, current, factorToBase, path =>
    if current = baseUomId then some (.ok ⟨baseUomId, factorToBase, path⟩)
    else if current ∈ seen then
      some (.error s!"Loop detected while resolving UoM {sourceUomId} to base {baseUomId}.")
    else
      match outgoing.get? current with
      | none =>
        some (.error
          s!"No canonical conversion path from UoM {sourceUomId} to base {baseUomId}.")
      | some edge =>
        match parseFactor edge.factor with
        | .error message => some (.error message)
        | .ok factor =>
          resolveLoop precision outgoing baseUomId sourceUomId fuel (current :: seen) edge.toUomId
            (roundSignificant precision (factorToBase * factor)) (path ++ [edge.toUomId])

/-- `resolveFactorToBase`. -/
def resolveFactorToBase (precision : ℕ+) (fuel : ℕ) (baseUomId : UomId)
    (sourceUomId : Option UomId) (conversions : List ItemUomConversion) :
    Option (Except String ResolvedUomConversion) :=
  match sourceUomId.filter fun id => id ≠ "" ∧ id ≠ baseUomId with
  | none => some (.ok ⟨baseUomId, 1, [baseUomId]⟩)
  | some source => do
    match ← assertCanonicalUomGraph fuel baseUomId conversions with
    | .error message => some (.error message)
    | .ok _ =>
      let outgoing : OrderedMap UomId ItemUomConversion :=
        conversions.foldl (fun map conversion => map.set conversion.fromUomId conversion) .empty
      resolveLoop precision outgoing baseUomId source fuel [] source 1 [source]

end SmartErpPos.Products
