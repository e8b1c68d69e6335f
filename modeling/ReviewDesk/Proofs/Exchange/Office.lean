import ReviewDesk.Exchange.Office
import ReviewDesk.Proofs.Decimal.Operations
import ReviewDesk.Proofs.Outcome
import ReviewDesk.Proofs.Pricing

/-!
# What the exchange office asks for and keeps

The office asks for a rate only when it needs one and has none that is fresh.  It
accepts only finite positive rates, so it never keeps any other, and finite amounts are
converted to finite amounts.
-/

namespace ReviewDesk

def Rate.IsValid (rate : Decimal) : Prop :=
  rate.isFinite = true ∧ rate.isPositive = true

namespace Rate

/-!
# Accepted rates
-/

theorem isValid_of_accept {rate found : Decimal} (h : accept rate = .success found) :
    IsValid found := by
  unfold accept at h
  split at h
  · rename_i hrate
    cases h
    simpa [IsValid] using hrate
  · cases h

theorem isValid_of_ofValue {v : Json} {found : Decimal} (h : ofValue v = .success found) :
    IsValid found := by
  unfold ofValue at h
  split at h
  · exact isValid_of_accept h
  · cases h

theorem reported_ne_success (kind : Json) (found : Decimal) :
    reported kind ≠ .ok (.success found) := by
  cases kind <;> simp [reported]

theorem isValid_of_ofDocument {currency : String} {document : Json} {found : Decimal}
    (h : ofDocument currency document = .ok (.success found)) : IsValid found := by
  unfold ofDocument at h
  split at h
  · split at h
    · exact absurd h (reported_ne_success _ found)
    · split at h
      · injection h with h
        exact isValid_of_ofValue h
      · cases h
  · cases h

theorem isValid_of_ofResponse {currency : String} {r : RateResponse} {found : Decimal}
    (h : ofResponse currency r = .ok (.success found)) : IsValid found := by
  unfold ofResponse at h
  split at h
  · split at h
    · exact isValid_of_ofDocument h
    · cases h
    · cases h
  · cases h

theorem ofFault_ne_success (fault : Fault) (found : Decimal) :
    ofFault fault ≠ .ok (.success found) := by
  unfold ofFault
  split <;> simp [Outcome.refuse]

end Rate

namespace Office

/-!
# Fetching a rate
-/

theorem isValid_of_fetch {o : Office} {answer : Except Fault RateResponse} {found : Decimal}
    (h : (o.fetch answer).result = .ok (.success found)) : Rate.IsValid found := by
  unfold fetch at h
  split at h
  · cases h
  · split at h
    · cases h
    · cases h
    · cases answer with
      | ok response => cases h
      | error fault => exact absurd h (Rate.ofFault_ne_success fault found)
    · cases answer with
      | ok response => exact Rate.isValid_of_ofResponse h
      | error fault => exact absurd h (Rate.ofFault_ne_success fault found)

theorem fetch_requests {o : Office} (answer : Except Fault RateResponse) {address : String}
    (haddress : o.key ≠ "" → Inquiry.make o.template o.key o.source = .ok (.host address)) :
    (o.fetch answer).requests = if o.key = "" then [] else [.rate address] := by
  by_cases hkey : o.key = ""
  · simp [fetch, hkey, Answered.atOnce]
  · simp [fetch, hkey, haddress hkey]

theorem fetch_requests_cases (o : Office) (answer : Except Fault RateResponse) :
    (o.fetch answer).requests = [] ∨ ∃ address, (o.fetch answer).requests = [.rate address] := by
  unfold fetch
  split
  · exact Or.inl rfl
  · split
    · exact Or.inl rfl
    · exact Or.inl rfl
    · rename_i address _
      exact Or.inr ⟨address, rfl⟩
    · rename_i address _
      exact Or.inr ⟨address, rfl⟩

/-!
# Kept rates
-/

def KeepsValid (o : Office) : Prop :=
  ∀ k, o.kept = some k → Rate.IsValid k.rate

theorem keepsValid_make (key template source target : String) (lifetime : Int) :
    (make key template source target lifetime).KeepsValid := by
  intro k hk
  cases hk

theorem keepsValid_keep {o : Office} (h : o.KeepsValid) (now : Moment) {rate : Decimal}
    (hrate : Rate.IsValid rate) : (o.keep now rate).KeepsValid := by
  unfold keep
  split
  · intro k hk
    cases hk
    exact hrate
  · exact h

theorem rateDuring_of_fresh {o : Office} {t : Readings} (answer : Except Fault RateResponse)
    {rate : Decimal} (h : o.freshRate? t.asked = some rate) :
    o.rateDuring t answer = (o, .atOnce (.success rate)) := by
  simp [rateDuring, h]

theorem rateDuring_of_not_fresh {o : Office} {t : Readings} (answer : Except Fault RateResponse)
    (h : o.freshRate? t.asked = none) :
    (o.rateDuring t answer).2 = o.fetch answer ∧
      (((o.rateDuring t answer).1 = o ∧
          ∀ rate, (o.fetch answer).result ≠ .ok (.success rate)) ∨
        ∃ rate, (o.fetch answer).result = .ok (.success rate) ∧
          (o.rateDuring t answer).1 = o.keep t.arrived rate) := by
  simp only [rateDuring, h]
  split
  · rename_i rate hrate
    exact ⟨rfl, Or.inr ⟨rate, hrate, rfl⟩⟩
  · rename_i hfailed
    exact ⟨rfl, Or.inl ⟨rfl, hfailed⟩⟩

theorem isValid_of_freshRate? {o : Office} (h : o.KeepsValid) {now : Moment} {rate : Decimal}
    (hrate : o.freshRate? now = some rate) : Rate.IsValid rate := by
  unfold freshRate? at hrate
  split at hrate
  · rename_i k hk
    split at hrate
    · cases hrate
      exact h k hk
    · cases hrate
  · cases hrate

theorem isValid_of_rateDuring {o : Office} (h : o.KeepsValid) {t : Readings}
    {answer : Except Fault RateResponse} {found : Decimal}
    (hfound : (o.rateDuring t answer).2.result = .ok (.success found)) : Rate.IsValid found := by
  cases hfresh : o.freshRate? t.asked with
  | some rate =>
      rw [rateDuring_of_fresh answer hfresh] at hfound
      cases hfound
      exact isValid_of_freshRate? h hfresh
  | none =>
      rw [(rateDuring_of_not_fresh answer hfresh).left] at hfound
      exact isValid_of_fetch hfound

theorem keepsValid_rateDuring {o : Office} (h : o.KeepsValid) (t : Readings)
    (answer : Except Fault RateResponse) : (o.rateDuring t answer).1.KeepsValid := by
  cases hfresh : o.freshRate? t.asked with
  | some rate =>
      rw [rateDuring_of_fresh answer hfresh]
      exact h
  | none =>
      rcases (rateDuring_of_not_fresh answer hfresh).right with
        ⟨hsame, _⟩ | ⟨rate, hrate, hkept⟩
      · rw [hsame]
        exact h
      · rw [hkept]
        exact keepsValid_keep h t.arrived (isValid_of_fetch hrate)

/-!
# Converting
-/

theorem keepsValid_convertDuring {o : Office} (h : o.KeepsValid) (t : Readings)
    (answer : Except Fault RateResponse) (amount : Decimal) :
    (o.convertDuring t answer amount).1.KeepsValid := by
  unfold convertDuring
  split
  · exact h
  · exact h
  · exact keepsValid_rateDuring h t answer

theorem keepsValid_convert {o : Office} (h : o.KeepsValid) (now : Moment)
    (answer : Except Fault RateResponse) (amount : Decimal) :
    (o.convert now answer amount).1.KeepsValid :=
  keepsValid_convertDuring h (.still now) answer amount

theorem exchanged_eq_ok_iff {amount rate krw : Decimal} :
    exchanged amount rate = .ok krw ↔
      (amount.mul rate >>= Decimal.quantize .halfUp places) = .ok krw :=
  Pricing.lift_eq_ok_iff

theorem isFinite_exchanged {amount rate krw : Decimal} (hamount : amount.isFinite = true)
    (hrate : rate.isFinite = true) (h : exchanged amount rate = .ok krw) :
    krw.isFinite = true := by
  rcases bind_eq_ok_iff.mp (exchanged_eq_ok_iff.mp h) with ⟨product, hproduct, h⟩
  exact Decimal.isFinite_quantize (Decimal.isFinite_mul hamount hrate hproduct) h

/-- The worth of an amount is its product with the rate, rounded once, unless the product
has more than twenty-eight digits. -/
theorem toRat_exchanged {amount rate krw : Decimal} (hamount : amount.isFinite = true)
    (hrate : rate.isFinite = true)
    (hfits : Decimal.FitsPrecision (amount.toRat * rate.toRat))
    (h : exchanged amount rate = .ok krw) :
    krw.toRat = Decimal.roundedTo places (amount.toRat * rate.toRat) :=
  Decimal.quantize_isResult_exact (Decimal.isResult_mul hamount hrate) (by decide) hfits
    (exchanged_eq_ok_iff.mp h)

theorem isFinite_of_convert {o : Office} (h : o.KeepsValid) {now : Moment}
    {answer : Except Fault RateResponse} {amount krw : Decimal}
    (hamount : amount.isFinite = true)
    (hkrw : (o.convert now answer amount).2.result = .ok (.success krw)) :
    krw.isFinite = true := by
  unfold convert convertDuring at hkrw
  split at hkrw
  · cases hkrw
  · cases hkrw
    rfl
  · rcases bind_eq_ok_iff.mp hkrw with ⟨found, hfound, hconverted⟩
    cases found with
    | failure reason detail => cases hconverted
    | success rate =>
        rcases bind_eq_ok_iff.mp hconverted with ⟨exact, hexact, hdone⟩
        cases hdone
        exact isFinite_exchanged hamount (isValid_of_rateDuring h hfound).left hexact

/-!
# Asking for a rate
-/

/-- A rate is needed for an amount that is not zero, and looked for by an office that has
a key and keeps no rate that is still fresh. -/
def NeedsRate (o : Office) (now : Moment) (amount : Decimal) : Prop :=
  ¬ amount.IsZero ∧ o.key ≠ "" ∧ ∀ k, o.kept = some k → o.isFresh now k = false

theorem freshRate?_eq_none_iff (o : Office) (now : Moment) :
    o.freshRate? now = none ↔ ∀ k, o.kept = some k → o.isFresh now k = false := by
  unfold freshRate?
  cases o.kept with
  | none => simp
  | some k => simp

theorem convertDuring_of_isZero {o : Office} {amount : Decimal} (h : amount.IsZero) (t : Readings)
    (answer : Except Fault RateResponse) :
    o.convertDuring t answer amount = (o, .atOnce (.success nothing)) := by
  have hzero : amount.isZero? = .ok true := (Decimal.isZero?_eq_true_iff amount).mpr h
  simp [convertDuring, hzero]

theorem convertDuring_of_not_isZero {o : Office} {amount : Decimal}
    (h : amount.isZero? = .ok false) (t : Readings) (answer : Except Fault RateResponse) :
    o.convertDuring t answer amount =
      ((o.rateDuring t answer).1, ⟨(o.rateDuring t answer).2.requests,
        (o.rateDuring t answer).2.result >>= convertAt amount⟩) := by
  simp [convertDuring, h]

theorem convertDuring_requests {o : Office} {t : Readings} {amount : Decimal} {address : String}
    (hcomparable : ∃ zero, amount.isZero? = .ok zero) (answer : Except Fault RateResponse)
    (haddress : o.key ≠ "" → Inquiry.make o.template o.key o.source = .ok (.host address)) :
    (o.NeedsRate t.asked amount →
        (o.convertDuring t answer amount).2.requests = [.rate address]) ∧
      (¬ o.NeedsRate t.asked amount → (o.convertDuring t answer amount).2.requests = []) := by
  rcases hcomparable with ⟨zero, hzero⟩
  cases zero with
  | true =>
      have hamount : amount.IsZero := (Decimal.isZero?_eq_true_iff amount).mp hzero
      rw [convertDuring_of_isZero hamount]
      exact ⟨fun hneeds => absurd hamount hneeds.left, fun _ => rfl⟩
  | false =>
      have hamount : ¬ amount.IsZero := by
        rw [← Decimal.isZero?_eq_true_iff, hzero]
        simp
      rw [convertDuring_of_not_isZero hzero]
      cases hfresh : o.freshRate? t.asked with
      | some rate =>
          have hneeds : ¬ o.NeedsRate t.asked amount := by
            rintro ⟨_, _, hnone⟩
            rw [← freshRate?_eq_none_iff, hfresh] at hnone
            cases hnone
          rw [rateDuring_of_fresh answer hfresh]
          exact ⟨fun h => absurd h hneeds, fun _ => rfl⟩
      | none =>
          rw [(rateDuring_of_not_fresh answer hfresh).left, fetch_requests answer haddress]
          rw [freshRate?_eq_none_iff] at hfresh
          by_cases hkey : o.key = ""
          · simp [NeedsRate, hkey]
          · have hneeds : o.NeedsRate t.asked amount := ⟨hamount, hkey, hfresh⟩
            simp [hkey, hneeds]

theorem convert_requests {o : Office} {now : Moment} {amount : Decimal} {address : String}
    (hcomparable : ∃ zero, amount.isZero? = .ok zero) (answer : Except Fault RateResponse)
    (haddress : o.key ≠ "" → Inquiry.make o.template o.key o.source = .ok (.host address)) :
    (o.NeedsRate now amount → (o.convert now answer amount).2.requests = [.rate address]) ∧
      (¬ o.NeedsRate now amount → (o.convert now answer amount).2.requests = []) :=
  convertDuring_requests (t := .still now) hcomparable answer haddress

theorem convert_requests_cases (o : Office) (now : Moment)
    (answer : Except Fault RateResponse) (amount : Decimal) :
    (o.convert now answer amount).2.requests = [] ∨
      ∃ address, (o.convert now answer amount).2.requests = [.rate address] := by
  unfold convert convertDuring
  split
  · exact Or.inl rfl
  · exact Or.inl rfl
  · cases hfresh : o.freshRate? (Readings.still now).asked with
    | some rate =>
        rw [rateDuring_of_fresh answer hfresh]
        exact Or.inl rfl
    | none =>
        dsimp only
        rw [(rateDuring_of_not_fresh answer hfresh).left]
        exact fetch_requests_cases o answer

end Office
end ReviewDesk
