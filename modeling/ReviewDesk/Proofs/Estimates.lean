import ReviewDesk.Proofs.Decimal.Operations
import ReviewDesk.Proofs.Pricing

/-!
# What an estimate comes to

The cost of some tokens goes through a product, a share and a sum, each settled to
twenty-eight digits, and through a rounding to six places after the share and another one
after the sum.  As long as the products have no more digits than that and the total has
room, only the first of the two roundings changes anything.
-/

namespace ReviewDesk

def PriceTable.AreNonneg (table : PriceTable) : Prop :=
  ∀ entry ∈ table, 0 ≤ entry.2.prompt.toRat ∧ 0 ≤ entry.2.completion.toRat

namespace Pricing

open Decimal

/-!
# Exact costs

Neither product has too many digits, and the total has room; then an estimate is the sum of
two costs, each of them rounded once.
-/

def shareOf (price : Decimal) (tokens : Int) : ℚ :=
  price.toRat * tokens / 1000

def totalOf (price : TokenPrice) (p c : Int) : ℚ :=
  roundedTo places (shareOf price.prompt p) + roundedTo places (shareOf price.completion c)

structure Fits (price : TokenPrice) (p c : Int) : Prop where
  prompt : FitsPrecision (price.prompt.toRat * p)
  completion : FitsPrecision (price.completion.toRat * c)
  total : totalOf price p c < 10 ^ 22

variable {price cost cost' : Decimal} {tokens tokens' : Int}

theorem shareOf_nonneg (hprice : 0 ≤ price.toRat) (htokens : 0 ≤ tokens) :
    0 ≤ shareOf price tokens := by
  have hcount : (0 : ℚ) ≤ tokens := by exact_mod_cast htokens
  rw [shareOf]
  positivity

/-!
# The cost of some tokens
-/

theorem shareOf_lt (hshare : 0 ≤ shareOf price tokens)
    (hroom : roundedTo places (shareOf price tokens) < 10 ^ 22) :
    |shareOf price tokens| < 10 ^ (22 : Int) := by
  have hsteps : roundedTo places (shareOf price tokens) < (10 ^ 28 : Nat) / 10 ^ places := by
    norm_num [places]
    exact hroom
  have hlt := (roundedTo_lt_iff hshare _).mp hsteps
  norm_num [places] at hlt
  rw [abs_of_nonneg hshare]
  norm_num
  linarith

theorem costOf_exact (hprice : price.isFinite = true) (hshare : 0 ≤ shareOf price tokens)
    (hfits : FitsPrecision (price.toRat * tokens))
    (hroom : roundedTo places (shareOf price tokens) < 10 ^ 22) :
    ∃ cost, costOf price tokens = .ok cost ∧
      cost.toRat = roundedTo places (shareOf price tokens) := by
  have hlt := shareOf_lt hshare hroom
  have hproduct := isResult_mul hprice (y := .ofInt tokens) rfl
  rw [toRat_ofInt] at hproduct
  have hsmall : |price.toRat * tokens| < 10 ^ (25 : Int) := by
    rw [shareOf, abs_div] at hlt
    norm_num at hlt ⊢
    linarith
  rcases isResult_ok hproduct (by decide) (by decide) hsmall with ⟨product, hmul⟩
  have hdivided := isResult_shiftDown (isFinite_of_isResult hproduct hmul) 3
  have hproductExact : SameUnlessFaint (product.toRat / 10 ^ 3) (shareOf price tokens) := by
    have hthousand : shareOf price tokens = price.toRat * tokens / 10 ^ 3 := by
      rw [shareOf]
      norm_num
    rw [hthousand]
    exact sameUnlessFaint_div (isResult_fits hproduct hmul hfits) 3
  rcases isResult_ok hdivided (by decide) (by decide)
    (abs_lt_of_sameUnlessFaint hproductExact (by decide) hlt) with ⟨share, hshift⟩
  have hshareExact : SameUnlessFaint share.toRat (shareOf price tokens) :=
    sameUnlessFaint_trans
      (isResult_fits hdivided hshift (fitsPrecision_div (fitsPrecision_of_isResult hproduct hmul) 3))
      hproductExact
  rcases isResult_quantize_ok hdivided hshift .halfUp places (by decide)
    (abs_lt_of_sameUnlessFaint hshareExact (by decide) hlt) with ⟨cost, hcost⟩
  refine ⟨cost, bind_eq_ok_iff.mpr ⟨product, hmul, bind_eq_ok_iff.mpr ⟨share, hshift, hcost⟩⟩, ?_⟩
  rw [toRat_quantize_halfUp (isFinite_of_isResult hdivided hshift) hcost]
  exact roundedTo_congr (by decide) hshareExact

theorem costOf_mono (hprice : price.isFinite = true) (hnonneg : 0 ≤ price.toRat)
    (htokens : tokens ≤ tokens') (h : costOf price tokens = .ok cost)
    (h' : costOf price tokens' = .ok cost') : cost.toRat ≤ cost'.toRat := by
  rcases bind_eq_ok_iff.mp h with ⟨product, hmul, h⟩
  rcases bind_eq_ok_iff.mp h with ⟨share, hshift, hcost⟩
  rcases bind_eq_ok_iff.mp h' with ⟨product', hmul', h'⟩
  rcases bind_eq_ok_iff.mp h' with ⟨share', hshift', hcost'⟩
  have hproduct := isResult_mul hprice (y := .ofInt tokens) rfl
  have hproduct' := isResult_mul hprice (y := .ofInt tokens') rfl
  have hcounts : price.toRat * (ofInt tokens).toRat ≤ price.toRat * (ofInt tokens').toRat := by
    rw [toRat_ofInt, toRat_ofInt]
    exact mul_le_mul_of_nonneg_left (by exact_mod_cast htokens) hnonneg
  have hdivided := isResult_shiftDown (isFinite_of_isResult hproduct hmul) 3
  have hdivided' := isResult_shiftDown (isFinite_of_isResult hproduct' hmul') 3
  have hproducts : product.toRat ≤ product'.toRat :=
    isResult_mono hproduct hproduct' hcounts hmul hmul'
  have hshares : share.toRat ≤ share'.toRat :=
    isResult_mono hdivided hdivided' (div_le_div_of_nonneg_right hproducts (by norm_num))
      hshift hshift'
  exact quantize_mono (isFinite_of_isResult hdivided hshift) (isFinite_of_isResult hdivided' hshift')
    hcost hcost' hshares

/-!
# The sum of two costs

Two costs have the same places, so their sum is not rounded at all.
-/

theorem add_quantize_exact {x y : Decimal} (hx : x.isFinite = true) (hy : y.isFinite = true)
    {n : Nat} (hsteps : x.toRat + y.toRat = n / 10 ^ places)
    (hroom : x.toRat + y.toRat < 10 ^ 22) :
    ∃ sum total, x.add y = .ok sum ∧ sum.quantize .halfUp places = .ok total ∧
      total.toRat = x.toRat + y.toRat := by
  have hadd := isResult_add hx hy
  have hlt : |x.toRat + y.toRat| < 10 ^ (22 : Int) := by
    rw [abs_of_nonneg (by rw [hsteps]; positivity)]
    exact_mod_cast hroom
  have hfits : FitsPrecision (x.toRat + y.toRat) := by
    refine ⟨n, -places, ?_, ?_⟩
    · rw [hsteps, div_lt_iff₀ (by positivity)] at hroom
      have hcast : (n : ℚ) < (10 ^ 28 : Nat) := by
        norm_num [places] at hroom ⊢
        exact hroom
      exact_mod_cast hcast
    · rw [hsteps, abs_of_nonneg (by positivity), zpow_neg, zpow_natCast, div_eq_mul_inv]
  rcases isResult_ok hadd (by decide) (by decide) hlt with ⟨sum, hsum⟩
  have hexact := isResult_fits hadd hsum hfits
  rcases isResult_quantize_ok hadd hsum .halfUp places (by decide)
    (abs_lt_of_sameUnlessFaint hexact (by decide) hlt) with ⟨total, htotal⟩
  refine ⟨sum, total, hsum, htotal, ?_⟩
  rw [toRat_quantize_halfUp (isFinite_of_isResult hadd hsum) htotal,
    roundedTo_congr (by decide) hexact, roundedTo_of_eq hsteps]

/-!
# Estimates
-/

variable {table : PriceTable} {model : Json} {name : String} {p c : Int}

theorem nonneg_priceOf (htable : table.AreNonneg) (name : String) :
    0 ≤ (priceOf table name).prompt.toRat ∧ 0 ≤ (priceOf table name).completion.toRat := by
  rcases priceOf_mem table name with ⟨other, hmem⟩ | hdefault
  · exact htable _ hmem
  · rw [hdefault]
    norm_num [defaultPrice, flat, ofUnits, toRat]

theorem mem_standard {entry : String × TokenPrice} (h : entry ∈ standard) :
    entry.2 = flat 1 2 ∨ entry.2 = flat 5 3 := by
  simp only [standard, List.mem_cons, List.not_mem_nil, or_false] at h
  rcases h with rfl | rfl
  · exact Or.inl rfl
  · exact Or.inr rfl

theorem areNonneg_standard : PriceTable.AreNonneg standard := by
  intro entry hentry
  rcases mem_standard hentry with hprice | hprice
  · rw [hprice]
    norm_num [flat, ofUnits, toRat]
  · rw [hprice]
    norm_num [flat, ofUnits, toRat]

theorem estimate_negative (h : p < 0 ∨ c < 0) :
    estimate table model (.whole p) (.whole c) = refusal (.whole p) (.whole c) := by
  by_cases hp : p < 0
  · simp [estimate, TokenCount.isNegative, hp, bind, Except.bind]
  · have hc : c < 0 := h.resolve_left hp
    simp [estimate, TokenCount.isNegative, hp, hc, bind, Except.bind]

theorem estimate_of_fits (hfinite : table.AreFinite) (hnonneg : table.AreNonneg)
    (hname : modelName model = .ok name) (hp : 0 ≤ p) (hc : 0 ≤ c)
    (hfits : Fits (priceOf table name) p c) :
    ∃ e : Estimate, estimate table model (.whole p) (.whole c) =
        ((noteCounts (.whole p) (.whole c)).map fun _ => .success e) ∧
      e.totalTokens = p + c ∧ e.usdCost.HasPlaces places ∧
      e.usdCost.toRat = totalOf (priceOf table name) p c := by
  rcases isFinite_priceOf hfinite name with ⟨hpromptFinite, hcompletionFinite⟩
  rcases nonneg_priceOf hnonneg name with ⟨hpromptPrice, hcompletionPrice⟩
  have hprompt := shareOf_nonneg hpromptPrice hp
  have hcompletion := shareOf_nonneg hcompletionPrice hc
  have htotal := hfits.total
  have hpromptRounded : 0 ≤ roundedTo places (shareOf (priceOf table name).prompt p) :=
    roundedTo_nonneg hprompt
  have hcompletionRounded : 0 ≤ roundedTo places (shareOf (priceOf table name).completion c) :=
    roundedTo_nonneg hcompletion
  rw [totalOf] at htotal
  rcases costOf_exact hpromptFinite hprompt hfits.prompt (by linarith) with ⟨x, hx, hxValue⟩
  rcases costOf_exact hcompletionFinite hcompletion hfits.completion (by linarith) with
    ⟨y, hy, hyValue⟩
  rcases exists_steps places hprompt with ⟨n, hn⟩
  rcases exists_steps places hcompletion with ⟨m, hm⟩
  have hxFinite := isFinite_costOf hpromptFinite hx
  have hyFinite := isFinite_costOf hcompletionFinite hy
  have hsteps : x.toRat + y.toRat = ((n + m : Nat) : ℚ) / 10 ^ places := by
    rw [hxValue, hyValue, hn, hm, ← add_div]
    push_cast
    rfl
  rcases add_quantize_exact hxFinite hyFinite hsteps (by rw [hxValue, hyValue]; exact htotal) with
    ⟨sum, total, hsum, hquantized, hvalue⟩
  refine ⟨⟨p + c, total⟩, estimate_of_costs hp hc hname hx hy hsum hquantized, rfl,
    hasPlaces_of_quantize (isFinite_add hxFinite hyFinite hsum) hquantized, ?_⟩
  rw [hvalue, hxValue, hyValue, totalOf]

theorem estimate_mono (hfinite : table.AreFinite) (hnonneg : table.AreNonneg) {p' c' : Int}
    {e e' : Estimate} (hp : p ≤ p') (hc : c ≤ c')
    (h : estimate table model (.whole p) (.whole c) = .ok (.success e))
    (h' : estimate table model (.whole p') (.whole c') = .ok (.success e')) :
    e.usdCost.toRat ≤ e'.usdCost.toRat := by
  rcases estimate_eq_success h with
    ⟨name, _, _, x, y, sum, hname, ⟨rfl⟩, ⟨rfl⟩, hx, hy, hsum, htotal, _⟩
  rcases estimate_eq_success h' with
    ⟨name', _, _, x', y', sum', hname', ⟨rfl⟩, ⟨rfl⟩, hx', hy', hsum', htotal', _⟩
  obtain rfl : name = name' := by
    rw [hname] at hname'
    cases hname'
    rfl
  rcases isFinite_priceOf hfinite name with ⟨hpromptFinite, hcompletionFinite⟩
  rcases nonneg_priceOf hnonneg name with ⟨hpromptPrice, hcompletionPrice⟩
  have hprompt := costOf_mono hpromptFinite hpromptPrice hp hx hx'
  have hcompletion := costOf_mono hcompletionFinite hcompletionPrice hc hy hy'
  have hadd := isResult_add (isFinite_costOf hpromptFinite hx) (isFinite_costOf hcompletionFinite hy)
  have hadd' :=
    isResult_add (isFinite_costOf hpromptFinite hx') (isFinite_costOf hcompletionFinite hy')
  exact quantize_mono (isFinite_of_isResult hadd hsum) (isFinite_of_isResult hadd' hsum')
    htotal htotal' (isResult_mono hadd hadd' (add_le_add hprompt hcompletion) hsum hsum')

/-!
# Prices in thousandths

A price in thousandths makes a cost in millionths, which is not rounded.  At the standard
prices a total with room is therefore all that an estimate needs.
-/

theorem roundedTo_of_thousandths {k : Nat} (hprice : price.toRat = k / 1000)
    (htokens : 0 ≤ tokens) : roundedTo places (shareOf price tokens) = shareOf price tokens := by
  obtain ⟨n, rfl⟩ := Int.eq_ofNat_of_zero_le htokens
  apply roundedTo_of_eq (n := k * n)
  rw [shareOf, hprice]
  norm_num [places]
  ring

theorem fitsPrecision_of_thousandths {k : Nat} (hprice : price.toRat = k / 1000)
    (htokens : 0 ≤ tokens) (hroom : shareOf price tokens < 10 ^ 22) :
    FitsPrecision (price.toRat * tokens) := by
  obtain ⟨n, rfl⟩ := Int.eq_ofNat_of_zero_le htokens
  rw [shareOf, hprice] at hroom
  have hcast : ((k * n : Nat) : ℚ) < (10 ^ 28 : Nat) := by
    push_cast at hroom ⊢
    linarith
  refine ⟨k * n, -3, by exact_mod_cast hcast, ?_⟩
  rw [hprice, abs_of_nonneg (by positivity)]
  push_cast
  norm_num
  ring

theorem priceOf_standard (name : String) :
    ∃ k : Nat, 0 < k ∧ (priceOf standard name).prompt.toRat = k / 1000 ∧
      (priceOf standard name).completion.toRat = k / 1000 := by
  have hprice : priceOf standard name = flat 1 2 ∨ priceOf standard name = flat 5 3 := by
    rcases priceOf_mem standard name with ⟨_, hmem⟩ | hdefault
    · have hentry := mem_standard hmem
      dsimp only at hentry
      exact hentry
    · exact Or.inl hdefault
  rcases hprice with hprice | hprice
  · rw [hprice]
    exact ⟨10, by decide, by norm_num [flat, ofUnits, toRat]⟩
  · rw [hprice]
    exact ⟨5, by decide, by norm_num [flat, ofUnits, toRat]⟩

theorem totalOf_standard (name : String) (hp : 0 ≤ p) (hc : 0 ≤ c) :
    totalOf (priceOf standard name) p c =
      shareOf (priceOf standard name).prompt p + shareOf (priceOf standard name).completion c := by
  rcases priceOf_standard name with ⟨k, _, hprompt, hcompletion⟩
  rw [totalOf, roundedTo_of_thousandths hprompt hp, roundedTo_of_thousandths hcompletion hc]

theorem shareOf_lt_of_room (hp : 0 ≤ p) (hc : 0 ≤ c)
    (hroom : totalOf (priceOf standard name) p c < 10 ^ 22) :
    shareOf (priceOf standard name).prompt p < 10 ^ 22 ∧
      shareOf (priceOf standard name).completion c < 10 ^ 22 := by
  rcases nonneg_priceOf areNonneg_standard name with ⟨hpromptPrice, hcompletionPrice⟩
  have hprompt := shareOf_nonneg hpromptPrice hp
  have hcompletion := shareOf_nonneg hcompletionPrice hc
  rw [totalOf_standard name hp hc] at hroom
  constructor
  · linarith
  · linarith

theorem fits_standard (hp : 0 ≤ p) (hc : 0 ≤ c)
    (hroom : totalOf (priceOf standard name) p c < 10 ^ 22) : Fits (priceOf standard name) p c := by
  rcases priceOf_standard name with ⟨k, _, hprompt, hcompletion⟩
  rcases shareOf_lt_of_room hp hc hroom with ⟨hpromptRoom, hcompletionRoom⟩
  constructor
  case prompt => exact fitsPrecision_of_thousandths hprompt hp hpromptRoom
  case completion => exact fitsPrecision_of_thousandths hcompletion hc hcompletionRoom
  case total => exact hroom

theorem totalOf_standard_add (name : String) {p' c' : Int} (hp : 0 ≤ p) (hc : 0 ≤ c)
    (hp' : 0 ≤ p') (hc' : 0 ≤ c') :
    totalOf (priceOf standard name) (p + p') (c + c') =
      totalOf (priceOf standard name) p c + totalOf (priceOf standard name) p' c' := by
  rw [totalOf_standard name (by omega) (by omega), totalOf_standard name hp hc,
    totalOf_standard name hp' hc']
  simp only [shareOf]
  push_cast
  ring

theorem totalOf_nonneg (htable : table.AreNonneg) (name : String) (hp : 0 ≤ p) (hc : 0 ≤ c) :
    0 ≤ totalOf (priceOf table name) p c := by
  rcases nonneg_priceOf htable name with ⟨hprompt, hcompletion⟩
  exact add_nonneg (roundedTo_nonneg (shareOf_nonneg hprompt hp))
    (roundedTo_nonneg (shareOf_nonneg hcompletion hc))

theorem isShort_of_thousandths {k : Nat} (hk : 0 < k) (hprice : price.toRat = k / 1000)
    (htokens : 0 ≤ tokens) (hroom : shareOf price tokens < 10 ^ 22) : IsShort tokens := by
  obtain ⟨n, rfl⟩ := Int.eq_ofNat_of_zero_le htokens
  rw [shareOf, hprice] at hroom
  have hproduct : ((k * n : Nat) : ℚ) < (10 ^ 28 : Nat) := by
    push_cast at hroom ⊢
    linarith
  have hlt : k * n < tenPow 28 := by exact_mod_cast hproduct
  have hfar : tenPow 28 ≤ tenPow 4300 := tenPow_le (by decide)
  calc n ≤ k * n := Nat.le_mul_of_pos_left n hk
    _ < tenPow 28 := hlt
    _ ≤ tenPow 4300 := hfar

theorem isShort_standard (hp : 0 ≤ p) (hc : 0 ≤ c)
    (hroom : totalOf (priceOf standard name) p c < 10 ^ 22) : IsShort p ∧ IsShort c := by
  rcases priceOf_standard name with ⟨k, hk, hprompt, hcompletion⟩
  rcases shareOf_lt_of_room hp hc hroom with ⟨hpromptRoom, hcompletionRoom⟩
  exact ⟨isShort_of_thousandths hk hprompt hp hpromptRoom,
    isShort_of_thousandths hk hcompletion hc hcompletionRoom⟩

theorem estimate_standard (hname : modelName model = .ok name) (hp : 0 ≤ p) (hc : 0 ≤ c)
    (hroom : totalOf (priceOf standard name) p c < 10 ^ 22) :
    ∃ e, estimate standard model (.whole p) (.whole c) = .ok (.success e) ∧
      e.usdCost.toRat = totalOf (priceOf standard name) p c := by
  rcases estimate_of_fits areFinite_standard areNonneg_standard hname hp hc
    (fits_standard hp hc hroom) with ⟨e, he, _, _, hvalue⟩
  rcases isShort_standard hp hc hroom with ⟨hpShort, hcShort⟩
  rw [noteCounts_of_isShort hpShort hcShort] at he
  exact ⟨e, he, hvalue⟩

theorem usdCost_near (hnonneg : table.AreNonneg) (hp : 0 ≤ p) (hc : 0 ≤ c) {e : Estimate}
    (hvalue : e.usdCost.toRat = totalOf (priceOf table name) p c) :
    |e.usdCost.toRat - (shareOf (priceOf table name).prompt p +
      shareOf (priceOf table name).completion c)| ≤ 1 / 10 ^ 6 := by
  rcases nonneg_priceOf hnonneg name with ⟨hpromptPrice, hcompletionPrice⟩
  have hprompt := abs_roundedTo_sub_le places (shareOf_nonneg hpromptPrice hp)
  have hcompletion := abs_roundedTo_sub_le places (shareOf_nonneg hcompletionPrice hc)
  rw [hvalue, totalOf, add_sub_add_comm]
  refine le_trans (abs_add_le _ _) ?_
  norm_num [places] at hprompt hcompletion ⊢
  linarith

/-!
# Exact estimates
-/

/-- An estimate refuses negative counts and otherwise adds up what the tokens cost, rounded
once to six places; more tokens never cost less, and at the standard prices nothing is
rounded.  It is broken off where the refusal or the log cannot write a count. -/
theorem estimate_exact (hfinite : table.AreFinite) (hnonneg : table.AreNonneg)
    (hname : modelName model = .ok name) :
    (∀ {p c : Int}, p < 0 ∨ c < 0 → IsShort p ∧ IsShort c →
      estimate table model (.whole p) (.whole c) =
        .ok (.refuse .invalidResponse (negativeText (toString p) (toString c)))) ∧
      (∀ {p c : Int}, 0 ≤ p → 0 ≤ c → Fits (priceOf table name) p c → IsShort p ∧ IsShort c →
        ∃ e, estimate table model (.whole p) (.whole c) = .ok (.success e) ∧
          e.totalTokens = p + c ∧ e.usdCost.HasPlaces places ∧
          e.usdCost.toRat = totalOf (priceOf table name) p c ∧
          |e.usdCost.toRat - (shareOf (priceOf table name).prompt p +
            shareOf (priceOf table name).completion c)| ≤ 1 / 10 ^ 6) ∧
      (∀ {p c : Int}, p < 0 ∨ c < 0 ∨ Fits (priceOf table name) p c → ¬ (IsShort p ∧ IsShort c) →
        estimate table model (.whole p) (.whole c) = .error (.badValue Json.tooLong)) ∧
      (∀ {p p' c c' : Int} {e e' : Estimate}, p ≤ p' → c ≤ c' →
        estimate table model (.whole p) (.whole c) = .ok (.success e) →
        estimate table model (.whole p') (.whole c') = .ok (.success e') →
          e.usdCost.toRat ≤ e'.usdCost.toRat) ∧
      ∀ {p p' c c' : Int}, 0 ≤ p → 0 ≤ p' → 0 ≤ c → 0 ≤ c' →
        totalOf (priceOf standard name) (p + p') (c + c') < 10 ^ 22 →
          ∃ e e' both,
            estimate standard model (.whole p) (.whole c) = .ok (.success e) ∧
            estimate standard model (.whole p') (.whole c') = .ok (.success e') ∧
            estimate standard model (.whole (p + p')) (.whole (c + c')) = .ok (.success both) ∧
            both.usdCost.toRat = e.usdCost.toRat + e'.usdCost.toRat := by
  refine ⟨?_, ?_, ?_, ?_, ?_⟩
  · intro p c hnegative hshort
    rw [estimate_negative hnegative, refusal_of_isShort hshort.left hshort.right]
  · intro p c hp hc hfits hshort
    rcases estimate_of_fits hfinite hnonneg hname hp hc hfits with
      ⟨e, he, htokens, hplaces, hvalue⟩
    rw [noteCounts_of_isShort hshort.left hshort.right] at he
    exact ⟨e, he, htokens, hplaces, hvalue, usdCost_near hnonneg hp hc hvalue⟩
  · intro p c hcounts hlong
    by_cases hnegative : p < 0 ∨ c < 0
    · rw [estimate_negative hnegative, refusal_of_not_isShort hlong]
    · rw [not_or, Int.not_lt, Int.not_lt] at hnegative
      have hfits : Fits (priceOf table name) p c := by
        rcases hcounts with hp | hc | hfits
        · exact absurd hp (Int.not_lt.mpr hnegative.left)
        · exact absurd hc (Int.not_lt.mpr hnegative.right)
        · exact hfits
      rcases estimate_of_fits hfinite hnonneg hname hnegative.left hnegative.right hfits with
        ⟨e, he, _⟩
      rw [he, noteCounts_of_not_isShort hlong]
      rfl
  · intro p p' c c' e e' hp hc h h'
    exact estimate_mono hfinite hnonneg hp hc h h'
  · intro p p' c c' hp hp' hc hc' hroom
    have hsum := totalOf_standard_add name hp hc hp' hc'
    have hfirst := totalOf_nonneg areNonneg_standard name hp hc
    have hsecond := totalOf_nonneg areNonneg_standard name hp' hc'
    rcases estimate_standard hname hp hc (by linarith) with ⟨e, he, hvalue⟩
    rcases estimate_standard hname hp' hc' (by linarith) with ⟨e', he', hvalue'⟩
    rcases estimate_standard hname (by omega) (by omega) hroom with ⟨both, hboth, hvalueBoth⟩
    exact ⟨e, e', both, he, he', hboth, by rw [hvalueBoth, hsum, hvalue, hvalue']⟩

def fineTable : PriceTable :=
  [("fine", ⟨.ofUnits 5 15, .ofUnits 4 6⟩)]

theorem estimate_exact_fine :
    ∃ e, estimate fineTable (.string "fine") (.whole 10) (.whole 1) = .ok (.success e) ∧
      e.totalTokens = 11 ∧ e.usdCost.toRat = 3 / 10 ^ 6 ∧
      (∃ e', estimate fineTable (.string "fine") (.whole 9) (.whole 1) = .ok (.success e') ∧
        e'.usdCost.toRat ≤ e.usdCost.toRat) ∧
      ∃ x y both,
        estimate standard (.string "fine") (.whole 7) (.whole 0) = .ok (.success x) ∧
        estimate standard (.string "fine") (.whole 100) (.whole 50) = .ok (.success y) ∧
        estimate standard (.string "fine") (.whole 107) (.whole 50) = .ok (.success both) ∧
        both.usdCost.toRat = x.usdCost.toRat + y.usdCost.toRat := by
  have hfinite : fineTable.AreFinite := by
    intro entry hentry
    rw [List.mem_singleton.mp hentry]
    exact ⟨rfl, rfl⟩
  have hnonneg : fineTable.AreNonneg := by
    intro entry hentry
    rw [List.mem_singleton.mp hentry]
    norm_num [ofUnits, toRat]
  have hprice : priceOf fineTable "fine" = ⟨.ofUnits 5 15, .ofUnits 4 6⟩ := by rfl
  have hstandard : priceOf standard "fine" = flat 1 2 := by rfl
  have htotal : totalOf ⟨.ofUnits 5 15, .ofUnits 4 6⟩ 10 1 = 3 / 10 ^ 6 := by
    norm_num [totalOf, shareOf, roundedTo, ofUnits, toRat, places]
  have hfits : Fits ⟨.ofUnits 5 15, .ofUnits 4 6⟩ 10 1 := by
    constructor
    case prompt => exact ⟨15, -4, by decide, by norm_num [ofUnits, toRat]⟩
    case completion => exact ⟨6, -4, by decide, by norm_num [ofUnits, toRat]⟩
    case total =>
      rw [htotal]
      norm_num
  have hname : modelName (.string "fine") = .ok "fine" := rfl
  have hexact := estimate_exact hfinite hnonneg hname
  have hshort : IsShort 10 ∧ IsShort 1 :=
    ⟨Integer.isWritable_iff.mp (by decide), Integer.isWritable_iff.mp (by decide)⟩
  rcases hexact.right.left (by decide) (by decide) (by rw [hprice]; exact hfits) hshort with
    ⟨e, he, htokens, _, hvalue, _⟩
  rw [hprice, htotal] at hvalue
  have hroom : totalOf (priceOf standard "fine") (7 + 100) (0 + 50) < 10 ^ 22 := by
    rw [hstandard]
    norm_num [totalOf, shareOf, roundedTo, flat, ofUnits, toRat, places]
  refine ⟨e, he, htokens, hvalue, ?_, hexact.right.right.right.right (by decide) (by decide)
    (by decide) (by decide) hroom⟩
  exact ⟨⟨10, .ofUnits 6 2⟩, rfl,
    hexact.right.right.right.left (p := 9) (c := 1) (by decide) (by decide) rfl he⟩

/-- The refusal cannot write a count of 4301 digits, and two costs that fit may have a sum
that has no room. -/
theorem estimate_breaks_off :
    estimate standard .null (.whole (-tenPow 4300)) (.whole 0) = .error (.badValue Json.tooLong) ∧
      ∃ e, estimate standard .null (.whole (6 * 10 ^ 26)) (.whole 0) = .ok (.success e) ∧
        estimate standard .null (.whole (6 * 10 ^ 26 + 6 * 10 ^ 26)) (.whole 0) =
          .error (.decimal .invalid) := by
  constructor
  · have hnegative : -(tenPow 4300 : Int) < 0 := by
      have hpositive := tenPow_pos 4300
      omega
    have hlong : ¬ IsShort (-tenPow 4300) := by
      rw [IsShort, Int.natAbs_neg]
      exact not_isShort_tenPow
    rw [estimate_negative (Or.inl hnegative), refusal_of_not_isShort fun h => hlong h.left]
  · exact ⟨⟨6 * 10 ^ 26, .ofUnits 6 (6 * 10 ^ 27)⟩, rfl, rfl⟩

end Pricing
end ReviewDesk
