/-
  Products/UomTree.lean --- what the validator accepts, and where resolution leads.

  The accepted conversions are those of a tree: every unit but the base has one conversion,
  and they lead to the base.  The validator then keeps the same map as the resolution, so
  both walk the one path of a unit.  Factors are multiplied in the precision of the library.
-/
import Mathlib.Algebra.Order.BigOperators.GroupWithZero.List
import Mathlib.Data.String.Basic
import Mathlib.Data.Sym.Sym2
import SmartErpPos.Products.UomGraph

set_option autoImplicit false

namespace SmartErpPos.Products

open SmartErpPos.Lib

/-! ## The tree -/

/-- The number a factor stands for. -/
def factorValue (value : FactorValue) : ℚ :=
  match value.reading with
  | .finite factor => factor
  | _ => 1

/-- The conversions that lead from a unit to the base. -/
abbrev PathToBase (baseUomId : UomId) (conversions : List ItemUomConversion) :
    UomId → List ItemUomConversion → Prop :=
  PathTo {c | c ∈ conversions} (·.fromUomId) (·.toUomId) baseUomId

/-- The conversions of a tree, each pair of units under its own key. -/
structure CanonicalTree (baseUomId : UomId) (conversions : List ItemUomConversion) : Prop where
  factor_ge_one : ∀ c ∈ conversions, ∃ q, c.factor.reading = .finite q ∧ 1 ≤ q
  one_outgoing : conversions.Pairwise fun c d => c.fromUomId ≠ d.fromUomId
  base_no_source : ∀ c ∈ conversions, c.fromUomId ≠ baseUomId
  no_self_loop : ∀ c ∈ conversions, c.fromUomId ≠ c.toUomId
  pair_once : conversions.Pairwise fun c d => pairKey c ≠ pairKey d
  reaches_base : ∀ u ∈ graphNodes baseUomId conversions, ∃ es, PathToBase baseUomId conversions u es

theorem parseFactor_ok {value : FactorValue} {f : ℚ} :
    parseFactor value = .ok f ↔ value.reading = .finite f ∧ 1 ≤ f := by
  unfold parseFactor
  cases value.reading with
  | unreadable => simp
  | notFinite => simp
  | finite q =>
    dsimp only
    by_cases hq : q < 1
    · rw [if_pos hq]
      simp only [reduceCtorEq, DecimalReading.finite.injEq, false_iff, not_and, not_le]
      rintro rfl
      exact hq
    · rw [if_neg hq]
      simp only [Except.ok.injEq, DecimalReading.finite.injEq, iff_self_and]
      rintro rfl
      exact not_lt.mp hq

theorem parseFactor_value {value : FactorValue} {f : ℚ} (h : parseFactor value = .ok f) :
    f = factorValue value := by
  rw [factorValue, (parseFactor_ok.mp h).1]

/-! ## The issues of the conversions -/

/-- A conversion that raises no issue. -/
structure ConversionClean (baseUomId : UomId) (scan : Scan) (c : ItemUomConversion) : Prop where
  no_self_loop : c.fromUomId ≠ c.toUomId
  factor_ok : ∃ f, parseFactor c.factor = .ok f
  not_base : c.fromUomId ≠ baseUomId
  new_pair : pairKey c ∉ scan.directionlessPairs
  first : scan.outgoing.get? c.fromUomId = none

variable {baseUomId : UomId} {scan : Scan} {c : ItemUomConversion}
  {cs conversions es : List ItemUomConversion} {fuel : ℕ}

theorem conversionIssues_eq_nil :
    conversionIssues baseUomId scan c = [] ↔ ConversionClean baseUomId scan c := by
  unfold conversionIssues
  by_cases hself : c.fromUomId = c.toUomId
  · rw [if_pos hself]
    exact iff_of_false (List.cons_ne_nil _ _) fun h => h.no_self_loop hself
  rw [if_neg hself]
  simp only [List.append_eq_nil_iff]
  constructor
  · rintro ⟨⟨⟨hfactor, hbase⟩, hpair⟩, hfirst⟩
    refine ⟨hself, ?_, ?_, ?_, ?_⟩
    · cases hparse : parseFactor c.factor with
      | error message =>
        rw [hparse] at hfactor
        cases hfactor
      | ok f => exact ⟨f, rfl⟩
    · intro h
      rw [if_pos h] at hbase
      cases hbase
    · intro h
      rw [if_pos h] at hpair
      cases hpair
    · cases hget : scan.outgoing.get? c.fromUomId with
      | none => rfl
      | some existing =>
        rw [hget] at hfirst
        cases hfirst
  · intro h
    obtain ⟨f, hf⟩ := h.factor_ok
    rw [hf, if_neg h.not_base, if_neg h.new_pair, h.first]
    exact ⟨⟨⟨rfl, rfl⟩, rfl⟩, rfl⟩

/-- What a clean conversion leaves: its pair and its edge. -/
theorem scanConversion_clean (h : ConversionClean baseUomId scan c) :
    (scanConversion baseUomId scan c).outgoing = scan.outgoing.set c.fromUomId c ∧
    (scanConversion baseUomId scan c).directionlessPairs = pairKey c :: scan.directionlessPairs := by
  simp only [scanConversion, if_neg h.no_self_loop, if_neg h.new_pair, h.first, and_self]

/-- Conversions that raise no issue, one after the other. -/
structure ConversionsClean (baseUomId : UomId) (scan : Scan) (cs : List ItemUomConversion) :
    Prop where
  each : ∀ c ∈ cs, ConversionClean baseUomId scan c
  pairs : cs.Pairwise fun c d => pairKey c ≠ pairKey d
  sources : cs.Pairwise fun c d => c.fromUomId ≠ d.fromUomId

/-- The first is clean, and the others are after it. -/
theorem conversionsClean_cons : ConversionsClean baseUomId scan (c :: cs) ↔
      ConversionClean baseUomId scan c ∧
      ConversionsClean baseUomId (scanConversion baseUomId scan c) cs := by
  constructor
  · intro h
    have hc := h.each c List.mem_cons_self
    obtain ⟨hout, hpairs⟩ := scanConversion_clean hc
    obtain ⟨hpair, hpairRest⟩ := List.pairwise_cons.mp h.pairs
    obtain ⟨hsource, hsourceRest⟩ := List.pairwise_cons.mp h.sources
    refine ⟨hc, fun d hd => ?_, hpairRest, hsourceRest⟩
    have hd' := h.each d (List.mem_cons_of_mem _ hd)
    refine ⟨hd'.no_self_loop, hd'.factor_ok, hd'.not_base, ?_, ?_⟩
    · rw [hpairs, List.mem_cons, not_or]
      exact ⟨(hpair d hd).symm, hd'.new_pair⟩
    · rw [hout, OrderedMap.get?_set_of_ne (hsource d hd).symm]
      exact hd'.first
  · rintro ⟨hc, hrest⟩
    obtain ⟨hout, hpairs⟩ := scanConversion_clean hc
    have hsource : ∀ d ∈ cs, d.fromUomId ≠ c.fromUomId := by
      intro d hd heq
      have hfirst := (hrest.each d hd).first
      rw [hout, heq, OrderedMap.get?_set_self] at hfirst
      exact nomatch hfirst
    have hpair : ∀ d ∈ cs, pairKey d ≠ pairKey c ∧ pairKey d ∉ scan.directionlessPairs := by
      intro d hd
      have hnew := (hrest.each d hd).new_pair
      rw [hpairs, List.mem_cons, not_or] at hnew
      exact hnew
    refine ⟨?_, List.pairwise_cons.mpr ⟨fun d hd => (hpair d hd).1.symm, hrest.pairs⟩,
      List.pairwise_cons.mpr ⟨fun d hd => (hsource d hd).symm, hrest.sources⟩⟩
    intro d hd
    rcases List.mem_cons.mp hd with rfl | hd
    · exact hc
    · have hd' := hrest.each d hd
      have hfirst := hd'.first
      rw [hout, OrderedMap.get?_set_of_ne (hsource d hd)] at hfirst
      exact ⟨hd'.no_self_loop, hd'.factor_ok, hd'.not_base, (hpair d hd).2, hfirst⟩

/-- The loop ends without issues when there were none and every conversion is clean. -/
theorem foldl_issues_eq_nil :
    (cs.foldl (scanConversion baseUomId) scan).issues = [] ↔
      scan.issues = [] ∧ ConversionsClean baseUomId scan cs := by
  induction cs generalizing scan with
  | nil => exact ⟨fun h => ⟨h, ⟨fun _ hc => (nomatch hc), .nil, .nil⟩⟩, fun h => h.1⟩
  | cons c cs ih =>
    rw [List.foldl_cons, ih, conversionsClean_cons, ← conversionIssues_eq_nil, ← and_assoc]
    refine and_congr_left' ?_
    exact List.append_eq_nil_iff

/-- Clean conversions are all kept, as the resolution keeps them. -/
theorem foldl_outgoing (h : ConversionsClean baseUomId scan cs) :
    (cs.foldl (scanConversion baseUomId) scan).outgoing =
      cs.foldl (fun map c => map.set c.fromUomId c) scan.outgoing := by
  induction cs generalizing scan with
  | nil => rfl
  | cons c cs ih =>
    obtain ⟨hc, hrest⟩ := conversionsClean_cons.mp h
    rw [List.foldl_cons, List.foldl_cons, ih hrest, (scanConversion_clean hc).1]

/-- The edge of a unit is its conversion. -/
theorem outgoing_get?_iff (hcs : cs.Pairwise fun c d => c.fromUomId ≠ d.fromUomId) (x : UomId)
    (c : ItemUomConversion) :
    (cs.foldl (fun map c => map.set c.fromUomId c) OrderedMap.empty).get? x = some c ↔
      c ∈ {c | c ∈ cs} ∧ c.fromUomId = x := by
  constructor
  · intro h
    rcases OrderedMap.get?_foldl_set_eq_some h with hempty | ⟨d, hd, hkey, hval⟩
    · rw [OrderedMap.get?_empty] at hempty
      exact nomatch hempty
    · subst hval
      exact ⟨hd, hkey⟩
  · rintro ⟨hc, rfl⟩
    exact OrderedMap.get?_foldl_set (List.pairwise_map.mpr hcs) _ hc

/-- Only sources of conversions have an edge, whatever issues there are. -/
theorem foldl_outgoing_source {x : UomId}
    (h : (cs.foldl (scanConversion baseUomId) scan).outgoing.get? x = some c) :
    scan.outgoing.get? x = some c ∨ x ∈ cs.map (·.fromUomId) := by
  induction cs generalizing scan with
  | nil => exact .inl h
  | cons d cs ih =>
    rw [List.foldl_cons] at h
    rw [List.map_cons, List.mem_cons]
    rcases ih h with hget | hmem
    · by_cases hx : x = d.fromUomId
      · exact .inr (.inl hx)
      · refine .inl ?_
        unfold scanConversion at hget
        dsimp only at hget
        split at hget
        · exact hget
        · split at hget
          · exact hget
          · rwa [OrderedMap.get?_set_of_ne hx] at hget
    · exact .inr (.inr hmem)

/-! ## The issues of the walks -/

/-- The loop over the units ends, without issues when every walk arrives. -/
theorem nodeIssues_ends {outgoing : OrderedMap UomId ItemUomConversion}
    (hends : ∀ u, ∃ w, walk outgoing.get? (·.toUomId) baseUomId fuel [] u = some w)
    (nodes : List UomId) : ∃ issues, nodeIssues fuel outgoing baseUomId nodes = some issues ∧
      (issues = [] ↔ ∀ u ∈ nodes, ∃ es,
        walk outgoing.get? (·.toUomId) baseUomId fuel [] u = some (.arrived es)) := by
  induction nodes with
  | nil => exact ⟨[], rfl, fun _ _ h => absurd h List.not_mem_nil, fun _ => rfl⟩
  | cons u nodes ih =>
    obtain ⟨w, hw⟩ := hends u
    obtain ⟨others, hothers, hiff⟩ := ih
    refine ⟨walkIssues baseUomId u w ++ others, ?_, ?_⟩
    · rw [nodeIssues, hw, hothers]
      rfl
    · rw [List.append_eq_nil_iff, hiff, List.forall_mem_cons, hw]
      refine and_congr_left' ?_
      cases w with
      | arrived es => exact ⟨fun _ => ⟨es, rfl⟩, fun _ => rfl⟩
      | loop node => exact ⟨fun h => (nomatch h), fun ⟨_, h⟩ => (nomatch h)⟩
      | deadEnd node => exact ⟨fun h => (nomatch h), fun ⟨_, h⟩ => (nomatch h)⟩

/-- A walk over the edges of the conversions ends. -/
theorem walk_over_ends (hfuel : conversions.length < fuel)
    {outgoing : OrderedMap UomId ItemUomConversion}
    (hsource : ∀ x c, outgoing.get? x = some c → x ∈ conversions.map (·.fromUomId))
    (baseUomId u : UomId) : ∃ w, walk outgoing.get? (·.toUomId) baseUomId fuel [] u = some w := by
  refine walk_ends hsource List.nodup_nil (List.nil_subset _) ?_ u
  rw [List.length_map, List.length_nil]
  exact hfuel

/-- Over clean conversions a walk arrives exactly along a path. -/
theorem walk_arrives_iff (hfuel : conversions.length < fuel)
    (hsources : conversions.Pairwise fun c d => c.fromUomId ≠ d.fromUomId)
    (hbase : ∀ c ∈ conversions, c.fromUomId ≠ baseUomId) (u : UomId) (es : List ItemUomConversion) :
    walk (conversions.foldl (fun map c => map.set c.fromUomId c) OrderedMap.empty).get? (·.toUomId)
        baseUomId fuel [] u = some (.arrived es) ↔ PathToBase baseUomId conversions u es := by
  have hedge := outgoing_get?_iff hsources
  constructor
  · exact path_of_walk hedge
  · intro hpath
    obtain ⟨w, hw⟩ := walk_over_ends hfuel
      (fun x c hget => List.mem_map.mpr ⟨c, (hedge x c).mp hget⟩) baseUomId u
    rw [hw, walk_of_path hedge hbase hpath (fun _ h => absurd h List.not_mem_nil) hw]

/-- The loop over the conversions raises no issue exactly when they pass the local checks. -/
theorem scanConversions_clean_iff :
    (scanConversions baseUomId conversions).issues = [] ↔
      (∀ c ∈ conversions, ∃ q, c.factor.reading = .finite q ∧ 1 ≤ q) ∧
      (conversions.Pairwise fun c d => c.fromUomId ≠ d.fromUomId) ∧
      (∀ c ∈ conversions, c.fromUomId ≠ baseUomId) ∧
      (∀ c ∈ conversions, c.fromUomId ≠ c.toUomId) ∧
      (conversions.Pairwise fun c d => pairKey c ≠ pairKey d) := by
  rw [scanConversions, foldl_issues_eq_nil]
  constructor
  · rintro ⟨-, heach, hpairs, hsources⟩
    refine ⟨fun c hc => ?_, hsources, fun c hc => (heach c hc).not_base,
      fun c hc => (heach c hc).no_self_loop, hpairs⟩
    obtain ⟨f, hf⟩ := (heach c hc).factor_ok
    exact ⟨f, parseFactor_ok.mp hf⟩
  · rintro ⟨hfactor, hsources, hbase, hself, hpairs⟩
    refine ⟨rfl, fun c hc => ⟨hself c hc, ?_, hbase c hc, List.not_mem_nil, rfl⟩, hpairs, hsources⟩
    obtain ⟨q, hq⟩ := hfactor c hc
    exact ⟨q, parseFactor_ok.mpr hq⟩

/-- The validator ends, and accepts the trees. -/
theorem validate_iff (hfuel : conversions.length < fuel) :
    ∃ r, validateCanonicalUomGraph fuel baseUomId conversions = some r ∧
      (r.isValid = true ↔ CanonicalTree baseUomId conversions) := by
  have hsource : ∀ x c, (scanConversions baseUomId conversions).outgoing.get? x = some c →
      x ∈ conversions.map (·.fromUomId) := by
    intro x c hget
    rcases foldl_outgoing_source hget with hempty | hmem
    · exact nomatch hempty
    · exact hmem
  obtain ⟨walks, hwalks, harrive⟩ := nodeIssues_ends (walk_over_ends hfuel hsource baseUomId)
    (graphNodes baseUomId conversions)
  refine ⟨_, by rw [validateCanonicalUomGraph, hwalks]; rfl, ?_⟩
  rw [List.isEmpty_iff, List.append_eq_nil_iff, scanConversions_clean_iff, harrive]
  -- Once the local checks pass, the validator has kept every conversion.
  have hwalk : (scanConversions baseUomId conversions).issues = [] → ∀ u es,
      walk (scanConversions baseUomId conversions).outgoing.get? (·.toUomId) baseUomId fuel [] u =
        some (.arrived es) ↔ PathToBase baseUomId conversions u es := by
    intro hissues u es
    have hclean := (foldl_issues_eq_nil.mp hissues).2
    rw [scanConversions, foldl_outgoing hclean]
    exact walk_arrives_iff hfuel hclean.sources (fun c hc => (hclean.each c hc).not_base) u es
  constructor
  · rintro ⟨hlocal, hreach⟩
    have hpath := hwalk (scanConversions_clean_iff.mpr hlocal)
    obtain ⟨hfactor, hsources, hbase, hself, hpairs⟩ := hlocal
    refine ⟨hfactor, hsources, hbase, hself, hpairs, fun u hu => ?_⟩
    obtain ⟨es, hes⟩ := hreach u hu
    exact ⟨es, (hpath u es).mp hes⟩
  · intro h
    have hlocal := And.intro h.factor_ge_one (And.intro h.one_outgoing
      (And.intro h.base_no_source (And.intro h.no_self_loop h.pair_once)))
    have hpath := hwalk (scanConversions_clean_iff.mpr hlocal)
    refine ⟨hlocal, fun u hu => ?_⟩
    obtain ⟨es, hes⟩ := h.reaches_base u hu
    exact ⟨es, (hpath u es).mpr hes⟩

/-! ## The factor of a path -/

/-- The product of the factors of a path. -/
def exactFactor (es : List ItemUomConversion) : ℚ := (es.map fun c => factorValue c.factor).prod

/-- The factors multiplied one after the other, each product to the digits kept. -/
def factorAlong (precision : ℕ+) (es : List ItemUomConversion) : ℚ :=
  es.foldl (fun acc c => roundSignificant precision (acc * factorValue c.factor)) 1

theorem exactFactor_concat (es : List ItemUomConversion) (c : ItemUomConversion) :
    exactFactor (es ++ [c]) = exactFactor es * factorValue c.factor := by
  simp [exactFactor]

theorem factorAlong_concat (precision : ℕ+) (es : List ItemUomConversion) (c : ItemUomConversion) :
    factorAlong precision (es ++ [c]) =
      roundSignificant precision (factorAlong precision es * factorValue c.factor) := by
  simp [factorAlong]

theorem one_le_factorAlong (precision : ℕ+) (h : ∀ c ∈ es, 1 ≤ factorValue c.factor) :
    1 ≤ factorAlong precision es := by
  induction es using List.reverseRecOn with
  | nil => exact le_rfl
  | append_singleton es c ih =>
    rw [factorAlong_concat]
    refine one_le_roundSignificant precision.pos ?_
    exact one_le_mul_of_one_le_of_one_le (ih fun d hd => h d (List.mem_append_left _ hd))
      (h c (List.mem_append_right _ (List.mem_singleton_self c)))

/-- Products that fit the digits kept are exact. -/
theorem factorAlong_eq_exactFactor {precision : ℕ+}
    (h : ∀ front, front <+: es → HasDigits precision (exactFactor front)) :
    factorAlong precision es = exactFactor es := by
  induction es using List.reverseRecOn with
  | nil => rfl
  | append_singleton es c ih =>
    have hfront := ih fun front hfront => h front (hfront.trans (List.prefix_append _ _))
    rw [factorAlong_concat, hfront, ← exactFactor_concat]
    exact roundSignificant_eq_self (h _ List.prefix_rfl)

/-- The relative error of one product to the digits kept. -/
def relativeError (precision : ℕ+) : ℚ := 10 / (2 * 10 ^ (precision : ℕ))

/-- Each product adds at most one relative error. -/
theorem abs_factorAlong_sub_le (precision : ℕ+) (h : ∀ c ∈ es, 1 ≤ factorValue c.factor) :
    |factorAlong precision es - exactFactor es| ≤
      ((1 + relativeError precision) ^ es.length - 1) * exactFactor es := by
  induction es using List.reverseRecOn with
  | nil => simp [factorAlong, exactFactor]
  | append_singleton es c ih =>
    have hes : ∀ d ∈ es, 1 ≤ factorValue d.factor := fun d hd => h d (List.mem_append_left _ hd)
    have hc : 1 ≤ factorValue c.factor := h c (List.mem_append_right _ (List.mem_singleton_self c))
    have hbound := ih hes
    have hround := abs_roundSignificant_sub_le precision
      (factorAlong precision es * factorValue c.factor)
    have hfactor : 0 ≤ factorAlong precision es :=
      zero_le_one.trans (one_le_factorAlong precision hes)
    have herror : 0 ≤ relativeError precision := by unfold relativeError; positivity
    rw [abs_of_nonneg (mul_nonneg hfactor (zero_le_one.trans hc))] at hround
    -- What was computed so far is at most the exact product with the errors so far.
    have hupper : factorAlong precision es ≤
        (1 + relativeError precision) ^ es.length * exactFactor es := by
      linarith [(abs_le.mp hbound).2]
    rw [factorAlong_concat, exactFactor_concat, List.length_append, List.length_singleton, pow_succ]
    calc |roundSignificant precision (factorAlong precision es * factorValue c.factor) -
            exactFactor es * factorValue c.factor|
        ≤ |roundSignificant precision (factorAlong precision es * factorValue c.factor) -
              factorAlong precision es * factorValue c.factor| +
            |factorAlong precision es * factorValue c.factor -
              exactFactor es * factorValue c.factor| := abs_sub_le _ _ _
      _ ≤ factorAlong precision es * factorValue c.factor * relativeError precision +
            ((1 + relativeError precision) ^ es.length - 1) * exactFactor es *
              factorValue c.factor := by
          refine add_le_add hround ?_
          rw [← sub_mul, abs_mul, abs_of_nonneg (zero_le_one.trans hc)]
          exact mul_le_mul_of_nonneg_right hbound (zero_le_one.trans hc)
      _ ≤ (1 + relativeError precision) ^ es.length * exactFactor es * factorValue c.factor *
              relativeError precision +
            ((1 + relativeError precision) ^ es.length - 1) * exactFactor es *
              factorValue c.factor := by
          gcongr
      _ = ((1 + relativeError precision) ^ es.length * (1 + relativeError precision) - 1) *
            (exactFactor es * factorValue c.factor) := by ring

/-! ## Resolution along the path -/

/-- The loop of the resolution multiplies along the walk. -/
theorem resolveLoop_of_walk {precision : ℕ+} {outgoing : OrderedMap UomId ItemUomConversion}
    {sourceUomId : UomId} {seen : List UomId} {current : UomId}
    (hwalk : walk outgoing.get? (·.toUomId) baseUomId fuel seen current = some (.arrived es))
    (hfactors : ∀ c ∈ es, ∃ f, parseFactor c.factor = .ok f) (factor : ℚ) (path : List UomId) :
    resolveLoop precision outgoing baseUomId sourceUomId fuel seen current factor path =
      some (.ok ⟨baseUomId,
        es.foldl (fun acc c => roundSignificant precision (acc * factorValue c.factor)) factor,
        path ++ es.map (·.toUomId)⟩) := by
  induction fuel generalizing seen current es factor path with
  | zero => cases hwalk
  | succ fuel ih =>
    rw [walk] at hwalk
    rw [resolveLoop]
    split at hwalk
    next hbase =>
      cases hwalk
      rw [if_pos hbase, List.foldl_nil, List.map_nil, List.append_nil]
    next hbase =>
      rw [if_neg hbase]
      split at hwalk
      next => cases hwalk
      next hnew =>
        rw [if_neg hnew]
        cases hget : outgoing.get? current with
        | none =>
          rw [hget] at hwalk
          cases hwalk
        | some edge =>
          rw [hget] at hwalk
          obtain ⟨w, hw, hafter⟩ := Option.map_eq_some_iff.mp hwalk
          cases w with
          | loop node => cases hafter
          | deadEnd node => cases hafter
          | arrived steps =>
            cases hafter
            obtain ⟨f, hf⟩ := hfactors edge List.mem_cons_self
            dsimp only
            rw [hf]
            dsimp only
            rw [ih hw (fun c hc => hfactors c (List.mem_cons_of_mem _ hc)), parseFactor_value hf,
              List.foldl_cons, List.map_cons, List.append_assoc, List.singleton_append]

/-- In a tree a unit resolves to the factor of its path. -/
theorem CanonicalTree.resolve (h : CanonicalTree baseUomId conversions) (precision : ℕ+)
    (hfuel : conversions.length < fuel) {u : UomId} (hu : u ≠ "")
    (hpath : PathToBase baseUomId conversions u es) :
    resolveFactorToBase precision fuel baseUomId (some u) conversions =
      some (.ok ⟨baseUomId, factorAlong precision es, u :: es.map (·.toUomId)⟩) := by
  unfold resolveFactorToBase
  by_cases hbase : u = baseUomId
  · subst hbase
    have hes := hpath.unique (outgoing_get?_iff h.one_outgoing) h.base_no_source .arrived
    subst hes
    rw [Option.filter_some, if_neg (by simp)]
    rfl
  · rw [Option.filter_some, if_pos (by simp [hu, hbase])]
    obtain ⟨r, hr, hvalid⟩ := validate_iff hfuel
    have hassert : assertCanonicalUomGraph fuel baseUomId conversions = some (.ok ()) := by
      rw [assertCanonicalUomGraph, hr]
      exact congrArg some (if_pos (hvalid.mpr h))
    dsimp only
    rw [hassert]
    refine resolveLoop_of_walk
      ((walk_arrives_iff hfuel h.one_outgoing h.base_no_source u es).mpr hpath) ?_ 1 [u]
    intro c hc
    obtain ⟨q, hq⟩ := h.factor_ge_one c (hpath.mem hc)
    exact ⟨q, parseFactor_ok.mpr hq⟩

/-- A tree is one in any order of its conversions. -/
theorem CanonicalTree.perm {reordered : List ItemUomConversion}
    (h : CanonicalTree baseUomId conversions) (hperm : reordered.Perm conversions) :
    CanonicalTree baseUomId reordered where
  factor_ge_one := fun c hc => h.factor_ge_one c (hperm.mem_iff.mp hc)
  one_outgoing := (hperm.pairwise_iff fun h => h.symm).mpr h.one_outgoing
  base_no_source := fun c hc => h.base_no_source c (hperm.mem_iff.mp hc)
  no_self_loop := fun c hc => h.no_self_loop c (hperm.mem_iff.mp hc)
  pair_once := (hperm.pairwise_iff fun h => h.symm).mpr h.pair_once
  reaches_base := by
    intro u hu
    have hu' : u ∈ graphNodes baseUomId conversions := by
      simp only [graphNodes, List.mem_eraseDups, List.mem_cons, List.mem_flatMap] at hu ⊢
      simpa only [hperm.mem_iff] using hu
    obtain ⟨es, hes⟩ := h.reaches_base u hu'
    exact ⟨es, hes.mono fun c hc => hperm.mem_iff.mpr hc⟩

/-! ## Keys of pairs -/

/-- Texts without a colon are read back from the text that joins them. -/
theorem join_inj {a b c d : String} (ha : ':' ∉ a.toList) (hc : ':' ∉ c.toList)
    (h : a ++ "::" ++ b = c ++ "::" ++ d) : a = c ∧ b = d := by
  have hlists := congrArg String.toList h
  simp only [String.toList_append] at hlists
  have hsep : "::".toList = [':', ':'] := rfl
  rw [hsep, List.append_assoc, List.append_assoc] at hlists
  obtain ⟨hfirst, hrest⟩ := split_at_mark ha hc hlists
  exact ⟨String.toList_inj.mp hfirst, String.toList_inj.mp (List.cons.inj hrest).2⟩

/-- The key of a pair tells it from other pairs, where the ids have no colon. -/
theorem pairKey_eq_iff {d : ItemUomConversion}
    (hc : ':' ∉ c.fromUomId.toList ∧ ':' ∉ c.toUomId.toList)
    (hd : ':' ∉ d.fromUomId.toList ∧ ':' ∉ d.toUomId.toList) :
    pairKey c = pairKey d ↔ s(c.fromUomId, c.toUomId) = s(d.fromUomId, d.toUomId) := by
  unfold pairKey
  constructor
  · intro h
    rw [Sym2.eq_iff]
    split at h
    · split at h
      · exact .inl (join_inj hc.1 hd.1 h)
      · exact .inr (join_inj hc.1 hd.2 h)
    · split at h
      · exact .inr (join_inj hc.2 hd.1 h).symm
      · exact .inl (join_inj hc.2 hd.2 h).symm
  · intro h
    rcases Sym2.eq_iff.mp h with ⟨hfrom, hto⟩ | ⟨hfrom, hto⟩
    · rw [hfrom, hto]
    · rw [hfrom, hto]
      rcases lt_trichotomy d.fromUomId d.toUomId with hlt | heq | hgt
      · rw [if_neg (not_le.mpr hlt), if_pos hlt.le]
      · rw [heq]
      · rw [if_pos hgt.le, if_neg (not_le.mpr hgt)]

/-! ## What is accepted and how it resolves -/

/-- The validator accepts the trees, and in a tree a unit resolves along its one path to the
base, in any order of the conversions. -/
theorem canonicalTree_resolves (precision : ℕ+) (baseUomId : UomId)
    (conversions : List ItemUomConversion) (fuel : ℕ) (hfuel : conversions.length < fuel) :
    (∃ r, validateCanonicalUomGraph fuel baseUomId conversions = some r ∧
      (r.isValid = true ↔ CanonicalTree baseUomId conversions)) ∧
    ((∀ c ∈ conversions, ':' ∉ c.fromUomId.toList ∧ ':' ∉ c.toUomId.toList) →
      ((conversions.Pairwise fun c d => pairKey c ≠ pairKey d) ↔ conversions.Pairwise fun c d =>
        s(c.fromUomId, c.toUomId) ≠ s(d.fromUomId, d.toUomId))) ∧
    (CanonicalTree baseUomId conversions → ∀ u ∈ graphNodes baseUomId conversions, u ≠ "" →
      ∃ es, PathToBase baseUomId conversions u es ∧
        (∀ es', PathToBase baseUomId conversions u es' → es' = es) ∧
        (∀ reordered : List ItemUomConversion, reordered.Perm conversions →
          resolveFactorToBase precision fuel baseUomId (some u) reordered =
            some (.ok ⟨baseUomId, factorAlong precision es, u :: es.map (·.toUomId)⟩)) ∧
        1 ≤ factorAlong precision es ∧
        |factorAlong precision es - exactFactor es| ≤
          ((1 + relativeError precision) ^ es.length - 1) * exactFactor es ∧
        ((∀ front, front <+: es → HasDigits precision (exactFactor front)) →
          factorAlong precision es = exactFactor es)) := by
  refine ⟨validate_iff hfuel, fun hcolon => ?_, fun h u hu hne => ?_⟩
  · have hkey : ∀ c ∈ conversions, ∀ d ∈ conversions, (pairKey c ≠ pairKey d ↔
        s(c.fromUomId, c.toUomId) ≠ s(d.fromUomId, d.toUomId)) :=
      fun c hc d hd => not_congr (pairKey_eq_iff (hcolon c hc) (hcolon d hd))
    constructor
    · exact fun hpairs => hpairs.imp_of_mem fun hc hd hne => (hkey _ hc _ hd).mp hne
    · exact fun hpairs => hpairs.imp_of_mem fun hc hd hne => (hkey _ hc _ hd).mpr hne
  · obtain ⟨es, hes⟩ := h.reaches_base u hu
    have hfactors : ∀ c ∈ es, 1 ≤ factorValue c.factor := by
      intro c hc
      obtain ⟨q, hq, hge⟩ := h.factor_ge_one c (hes.mem hc)
      rw [factorValue, hq]
      exact hge
    refine ⟨es, hes, fun es' hes' => ?_, fun reordered hperm => ?_,
      one_le_factorAlong precision hfactors, abs_factorAlong_sub_le precision hfactors,
      factorAlong_eq_exactFactor⟩
    · exact hes'.unique (outgoing_get?_iff h.one_outgoing) h.base_no_source hes
    · refine (h.perm hperm).resolve precision (hperm.length_eq ▸ hfuel) hne ?_
      exact hes.mono fun c hc => hperm.mem_iff.mpr hc

/-- A packet of two boxes of twelve tablets. -/
theorem canonicalTree_resolves_packet :
    let packet : ItemUomConversion := ⟨"pkt", "box", ⟨"2", .finite 2⟩⟩
    let box : ItemUomConversion := ⟨"box", "tab", ⟨"12", .finite 12⟩⟩
    ∃ r, validateCanonicalUomGraph 3 "tab" [packet, box] = some r ∧
      (r.isValid = true ↔ CanonicalTree "tab" [packet, box]) :=
  (canonicalTree_resolves 28 "tab" _ 3 (by decide)).1

/-- Two pairs of ids with colons in them share one key; a product of more than 28 digits is
rounded; and the unit with the empty id is taken for the base. -/
theorem colons_digits_and_the_empty_id :
    let one : FactorValue := ⟨"1", .finite 1⟩
    let a : ItemUomConversion := ⟨"a", "b::c", one⟩
    let ab : ItemUomConversion := ⟨"a::b", "c", one⟩
    let bc : ItemUomConversion := ⟨"b::c", "c", one⟩
    let fine : ℚ := 1000000000000001 / 1000000000000000
    let fineFactor : FactorValue := ⟨"1.000000000000001", .finite fine⟩
    let box : ItemUomConversion := ⟨"box", "pkt", fineFactor⟩
    let pkt : ItemUomConversion := ⟨"pkt", "tab", fineFactor⟩
    let nameless : ItemUomConversion := ⟨"", "tab", ⟨"12", .finite 12⟩⟩
    (s(a.fromUomId, a.toUomId) ≠ s(ab.fromUomId, ab.toUomId) ∧
      validateCanonicalUomGraph 4 "c" [a, ab, bc] =
        some ⟨false, ["Duplicate or reverse conversion detected for pair a::b::c."]⟩) ∧
    ((validateCanonicalUomGraph 4 "tab" [box, pkt]).map (·.isValid) = some true ∧
      ∃ factor, resolveFactorToBase 28 4 "tab" (some "box") [box, pkt] =
        some (.ok ⟨"tab", factor, ["box", "pkt", "tab"]⟩) ∧ factor ≠ fine * fine) ∧
    ((validateCanonicalUomGraph 4 "tab" [nameless]).map (·.isValid) = some true ∧
      resolveFactorToBase 28 4 "tab" (some "") [nameless] = some (.ok ⟨"tab", 1, ["tab"]⟩)) := by
  refine ⟨by decide +kernel, ⟨by decide +kernel, 1000000000000002 / 1000000000000000, ?_⟩,
    by decide +kernel⟩
  decide +kernel

end SmartErpPos.Products
