import ReviewDesk.Pricing
import ReviewDesk.Proofs.Decimal.Finite
import ReviewDesk.Proofs.Json.Shown
import ReviewDesk.Proofs.Outcome

/-!
# Estimates of costs

An estimate that succeeds is the rounded sum of two rounded parts.  Finite prices give
finite costs, and a cost can always be compared with zero.
-/

namespace ReviewDesk

def PriceTable.AreFinite (table : PriceTable) : Prop :=
  ∀ entry ∈ table, entry.2.prompt.isFinite = true ∧ entry.2.completion.isFinite = true

namespace Pricing

theorem lift_eq_ok_iff {α : Type} {result : Except Decimal.Trap α} {a : α} :
    lift result = .ok a ↔ result = .ok a := by
  cases result with
  | error trap => simp [lift]
  | ok b => simp [lift]

/-!
# The parts of an estimate
-/

theorem estimate_eq_success {table : PriceTable} {model : Json} {prompt completion : TokenCount}
    {e : Estimate} (h : estimate table model prompt completion = .ok (.success e)) :
    ∃ name p c promptCost completionCost sum,
      modelName model = .ok name ∧ prompt.toInt = .ok p ∧ completion.toInt = .ok c ∧
      costOf (priceOf table name).prompt p = .ok promptCost ∧
      costOf (priceOf table name).completion c = .ok completionCost ∧
      promptCost.add completionCost = .ok sum ∧
      sum.quantize .halfUp places = .ok e.usdCost ∧ e.totalTokens = p + c := by
  have hrefused : ¬ refusal prompt completion = .ok (.success e) := by
    intro h
    rcases bind_eq_ok_iff.mp h with ⟨_, _, h⟩
    rcases bind_eq_ok_iff.mp h with ⟨_, _, h⟩
    cases h
  rcases bind_eq_ok_iff.mp h with ⟨_, _, h⟩
  split at h
  · exact absurd h hrefused
  · rcases bind_eq_ok_iff.mp h with ⟨_, _, h⟩
    split at h
    · exact absurd h hrefused
    · rcases bind_eq_ok_iff.mp h with ⟨name, hname, h⟩
      rcases bind_eq_ok_iff.mp h with ⟨p, hp, h⟩
      rcases bind_eq_ok_iff.mp h with ⟨promptCost, hprompt, h⟩
      rcases bind_eq_ok_iff.mp h with ⟨c, hc, h⟩
      rcases bind_eq_ok_iff.mp h with ⟨completionCost, hcompletion, h⟩
      rcases bind_eq_ok_iff.mp h with ⟨total, htotal, h⟩
      rcases bind_eq_ok_iff.mp (lift_eq_ok_iff.mp htotal) with ⟨sum, hsum, htotal⟩
      rcases bind_eq_ok_iff.mp h with ⟨_, _, h⟩
      cases h
      exact ⟨name, p, c, promptCost, completionCost, sum, hname, hp, hc, lift_eq_ok_iff.mp hprompt,
        lift_eq_ok_iff.mp hcompletion, hsum, htotal, rfl⟩

theorem isZero?_usdCost {table : PriceTable} {model : Json} {prompt completion : TokenCount}
    {e : Estimate} (h : estimate table model prompt completion = .ok (.success e)) :
    ∃ answer, e.usdCost.isZero? = .ok answer := by
  rcases estimate_eq_success h with ⟨_, _, _, _, _, _, _, _, _, _, _, _, htotal, _⟩
  exact Decimal.isZero?_of_quantize htotal

/-!
# Finite costs
-/

theorem isFinite_costOf {price cost : Decimal} {tokens : Int} (hprice : price.isFinite = true)
    (h : costOf price tokens = .ok cost) : cost.isFinite = true := by
  rcases bind_eq_ok_iff.mp h with ⟨product, hproduct, h⟩
  rcases bind_eq_ok_iff.mp h with ⟨share, hshare, h⟩
  have hproductFinite : product.isFinite = true := Decimal.isFinite_mul hprice rfl hproduct
  have hshareFinite : share.isFinite = true := Decimal.isFinite_shiftDown hproductFinite hshare
  exact Decimal.isFinite_quantize hshareFinite h

theorem priceOf_mem (table : PriceTable) (name : String) :
    (∃ other, (other, priceOf table name) ∈ table) ∨ priceOf table name = defaultPrice := by
  have hlookup : ∀ {other price}, table.lookup other = some price → (other, price) ∈ table := by
    intro other price h
    rcases List.lookup_eq_some_iff.mp h with ⟨before, after, rfl, _⟩
    simp
  simp only [priceOf]
  split
  · rename_i price hprice
    exact Or.inl ⟨_, hlookup hprice⟩
  · cases hdefault : table.lookup defaultModel with
    | none => exact Or.inr rfl
    | some price => exact Or.inl ⟨_, hlookup hdefault⟩

theorem isFinite_priceOf {table : PriceTable} (htable : table.AreFinite) (name : String) :
    (priceOf table name).prompt.isFinite = true ∧
      (priceOf table name).completion.isFinite = true := by
  rcases priceOf_mem table name with ⟨other, hmem⟩ | hdefault
  · exact htable _ hmem
  · rw [hdefault]
    exact ⟨rfl, rfl⟩

theorem areFinite_standard : PriceTable.AreFinite standard := by
  intro entry hentry
  rcases List.mem_cons.mp hentry with rfl | hentry
  · exact ⟨rfl, rfl⟩
  · rw [List.mem_singleton.mp hentry]
    exact ⟨rfl, rfl⟩

theorem isFinite_usdCost {table : PriceTable} (htable : table.AreFinite) {model : Json}
    {prompt completion : TokenCount} {e : Estimate}
    (h : estimate table model prompt completion = .ok (.success e)) :
    e.usdCost.isFinite = true := by
  rcases estimate_eq_success h with
    ⟨name, _, _, promptCost, completionCost, sum, _, _, _, hprompt, hcompletion, hsum, htotal, _⟩
  rcases isFinite_priceOf htable name with ⟨hpromptPrice, hcompletionPrice⟩
  have hsumFinite : sum.isFinite = true :=
    Decimal.isFinite_add (isFinite_costOf hpromptPrice hprompt)
      (isFinite_costOf hcompletionPrice hcompletion) hsum
  exact Decimal.isFinite_quantize hsumFinite htotal

/-!
# Counts in sentences
-/

theorem text_of_isShort {n : Int} (h : IsShort n) : (TokenCount.whole n).text = .ok (toString n) :=
  Json.written_eq_ok (Json.isWritable_int.mpr h)

theorem text_of_not_isShort {n : Int} (h : ¬ IsShort n) :
    (TokenCount.whole n).text = .error (.badValue Json.tooLong) :=
  Json.written_eq_error (mt Json.isWritable_int.mp h)

theorem texts_of_not_isShort {α : Type} {p c : Int} (h : ¬ (IsShort p ∧ IsShort c))
    (sentence : String → String → Except Fault α) :
    (do sentence (← (TokenCount.whole p).text) (← (TokenCount.whole c).text)) =
      .error (.badValue Json.tooLong) := by
  by_cases hp : IsShort p
  · rw [text_of_isShort hp, text_of_not_isShort fun hc => h ⟨hp, hc⟩]
    rfl
  · rw [text_of_not_isShort hp]
    rfl

theorem noteCounts_of_isShort {p c : Int} (hp : IsShort p) (hc : IsShort c) :
    noteCounts (.whole p) (.whole c) = .ok () := by
  rw [noteCounts, text_of_isShort hp, text_of_isShort hc]
  rfl

theorem noteCounts_of_not_isShort {p c : Int} (h : ¬ (IsShort p ∧ IsShort c)) :
    noteCounts (.whole p) (.whole c) = .error (.badValue Json.tooLong) :=
  texts_of_not_isShort h fun _ _ => .ok ()

theorem refusal_of_isShort {p c : Int} (hp : IsShort p) (hc : IsShort c) :
    refusal (.whole p) (.whole c) =
      .ok (.refuse .invalidResponse (negativeText (toString p) (toString c))) := by
  rw [refusal, text_of_isShort hp, text_of_isShort hc]
  rfl

theorem refusal_of_not_isShort {p c : Int} (h : ¬ (IsShort p ∧ IsShort c)) :
    refusal (.whole p) (.whole c) = .error (.badValue Json.tooLong) :=
  texts_of_not_isShort h fun p c => .ok (Outcome.refuse .invalidResponse (negativeText p c))

/-!
# No tokens
-/

theorem costOf_no_tokens {price : Decimal} (h : price.isFinite = true) :
    ∃ cost, costOf price 0 = .ok cost ∧ cost.IsZero := by
  rcases Decimal.exists_of_isFinite h with ⟨s, c, e, rfl⟩
  refine ⟨.finite (s != false) 0 (-places), ?_, s != false, -places, rfl⟩
  simp [costOf, Decimal.mul, Decimal.passNans, Decimal.ofInt, Decimal.settle, Decimal.shiftDown,
    Decimal.quantize, bind, Except.bind]

theorem add_quantize_of_isZero {x y : Decimal} (hx : x.IsZero) (hy : y.IsZero) :
    ∃ sum total, x.add y = .ok sum ∧ sum.quantize .halfUp places = .ok total ∧ total.IsZero := by
  rcases hx with ⟨s, e, rfl⟩
  rcases hy with ⟨t, f, rfl⟩
  have hadd : ∃ low, (Decimal.finite s 0 e).add (.finite t 0 f) = .ok (.finite (s && t) 0 low) := by
    cases s <;> cases t <;>
      simp [Decimal.add, Decimal.passNans, Decimal.signed, Decimal.settle]
  rcases hadd with ⟨low, hadd⟩
  refine ⟨.finite (s && t) 0 low, .finite (s && t) 0 (-places), hadd, ?_, s && t, -places, rfl⟩
  simp [Decimal.quantize]

theorem estimate_of_costs {table : PriceTable} {model : Json} {name : String} {p c : Int}
    {promptCost completionCost sum total : Decimal} (hp : 0 ≤ p) (hc : 0 ≤ c)
    (hname : modelName model = .ok name)
    (hprompt : costOf (priceOf table name).prompt p = .ok promptCost)
    (hcompletion : costOf (priceOf table name).completion c = .ok completionCost)
    (hsum : promptCost.add completionCost = .ok sum)
    (htotal : sum.quantize .halfUp places = .ok total) :
    estimate table model (.whole p) (.whole c) =
      (noteCounts (.whole p) (.whole c)).map fun _ => .success ⟨p + c, total⟩ := by
  simp [estimate, TokenCount.isNegative, TokenCount.toInt, hname, hprompt, hcompletion, hsum,
    htotal, lift, bind, Except.bind, pure, Except.pure, Int.not_lt.mpr hp, Int.not_lt.mpr hc]
  rfl

theorem estimate_no_tokens {table : PriceTable} (htable : table.AreFinite) {model : Json}
    {name : String} (hname : modelName model = .ok name) :
    ∃ e, estimate table model (.whole 0) (.whole 0) = .ok (.success e) ∧ e.usdCost.IsZero := by
  rcases isFinite_priceOf htable name with ⟨hprompt, hcompletion⟩
  rcases costOf_no_tokens hprompt with ⟨promptCost, hpromptCost, hpromptZero⟩
  rcases costOf_no_tokens hcompletion with ⟨completionCost, hcompletionCost, hcompletionZero⟩
  rcases add_quantize_of_isZero hpromptZero hcompletionZero with ⟨sum, total, hsum, htotal, hzero⟩
  refine ⟨⟨0, total⟩, ?_, hzero⟩
  rw [estimate_of_costs (Int.le_refl 0) (Int.le_refl 0) hname hpromptCost hcompletionCost hsum
    htotal, noteCounts_of_isShort isShort_zero isShort_zero]
  rfl

theorem estimate_nameless {model : Json} {fault : Fault} (h : modelName model = .error fault)
    (table : PriceTable) : estimate table model (.whole 0) (.whole 0) = .error fault := by
  simp [estimate, TokenCount.isNegative, h, bind, Except.bind]

end Pricing
end ReviewDesk
