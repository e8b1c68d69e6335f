import Mathlib.Tactic.FieldSimp
import ReviewDesk.Proofs.Decimal.Room
import ReviewDesk.Proofs.Exchange.KeptRate

/-!
# Conversions that end with an outcome

Whatever the rate service answers, a conversion ought to end with an amount or with a
reason why there is none.  Three things break it off: a document without an end to its
nesting, an error report whose kind is a list or an object, and a rate at which the
amount has no room.
-/

namespace ReviewDesk
namespace Rate

/-!
# Answers

Asking for a rate ends with a response or with a transfer that failed.  A successful
response breaks off when it cannot be taken apart.
-/

inductive Ended : Except Fault RateResponse → Prop where
  | response (r : RateResponse) : Ended (.ok r)
  | timeout (kind : TimeoutKind) (text : String) : Ended (.error (.transfer (.timeout kind) text))
  | transfer (kind : TransferKind) (text : String) :
      Ended (.error (.transfer (.request kind) text))

def IsCollection (v : Json) : Prop :=
  (∃ items, v = .array items) ∨ ∃ members, v = .object members

inductive Breaks (r : RateResponse) : Prop where
  | endless (status : isSuccess r.status = true)
      (document : Json.readBytes r.body documentDepth = .error (.content .tooDeep))
  | kind (status : isSuccess r.status = true) (members : List (String × Json)) (kind : Json)
      (document : Json.readBytes r.body documentDepth = .ok (.object members))
      (reported : members.lookup "result" = some (.string "error"))
      (named : members.lookup "error-type" = some kind) (collection : IsCollection kind)

theorem ofFault_of_ended {fault : Fault} (h : Ended (.error fault)) :
    ∃ outcome, ofFault fault = .ok outcome := by
  cases h with
  | timeout kind text => exact ⟨_, rfl⟩
  | transfer kind text => exact ⟨_, rfl⟩

theorem reported_ok_iff (kind : Json) :
    (∃ outcome, reported kind = .ok outcome) ↔ ¬ IsCollection kind := by
  cases kind <;> simp [reported, IsCollection]

theorem ofDocument_ok_iff (currency : String) (document : Json) :
    (∃ outcome, ofDocument currency document = .ok outcome) ↔
      ∀ members kind, document = .object members →
        members.lookup "result" = some (.string "error") →
        members.lookup "error-type" = some kind → ¬ IsCollection kind := by
  cases document with
  | object members =>
      unfold ofDocument
      dsimp only
      split
      · rename_i hreported
        rw [reported_ok_iff]
        constructor
        · rintro hplain _ kind ⟨rfl⟩ _ hnamed
          rwa [hnamed] at hplain
        · intro hplain
          cases hnamed : members.lookup "error-type" with
          | none => simp [IsCollection]
          | some kind => exact hplain members kind rfl hreported hnamed
      · rename_i hreported
        constructor
        · rintro _ _ _ ⟨rfl⟩ hresult _
          exact absurd hresult hreported
        · intro _
          split
          · exact ⟨_, rfl⟩
          · exact ⟨_, rfl⟩
  | _ => simp [ofDocument]

theorem ofResponse_ok_iff (currency : String) (r : RateResponse) :
    (∃ outcome, ofResponse currency r = .ok outcome) ↔ ¬ Breaks r := by
  unfold ofResponse
  split
  · rename_i hstatus
    split
    · rename_i document hread
      rw [ofDocument_ok_iff]
      constructor
      · intro hplain hbreaks
        cases hbreaks with
        | endless _ hdeep =>
            rw [hread] at hdeep
            cases hdeep
        | kind _ members kind hdocument hreported hnamed hcollection =>
            rw [hread] at hdocument
            cases hdocument
            exact hplain members kind rfl hreported hnamed hcollection
      · intro hwhole members kind hdocument hreported hnamed hcollection
        rw [hdocument] at hread
        exact hwhole (.kind hstatus members kind hread hreported hnamed hcollection)
    · rename_i hdeep
      refine iff_of_false ?_ (fun hwhole => hwhole (.endless hstatus hdeep))
      rintro ⟨outcome, houtcome⟩
      cases houtcome
    · rename_i fault hdeep hread
      refine iff_of_true ⟨_, rfl⟩ ?_
      intro hbreaks
      cases hbreaks with
      | endless _ hdeep' =>
          rw [hread] at hdeep'
          cases hdeep'
          exact hdeep rfl
      | kind _ members kind hdocument _ _ _ =>
          rw [hread] at hdocument
          cases hdocument
  · rename_i hstatus
    refine iff_of_true ⟨_, rfl⟩ ?_
    intro hbreaks
    cases hbreaks with
    | endless hsuccess _ => exact hstatus hsuccess
    | kind hsuccess _ _ _ _ _ _ => exact hstatus hsuccess

end Rate

namespace Office

/-!
# Finding a rate
-/

theorem fetch_ok_iff {o : Office} {address : String}
    (haddress : o.key ≠ "" → Inquiry.make o.template o.key o.source = .ok (.host address))
    {answer : Except Fault RateResponse} (hanswer : Rate.Ended answer) :
    (∃ outcome, (o.fetch answer).result = .ok outcome) ↔
      (o.key ≠ "" → ∀ r, answer = .ok r → ¬ Rate.Breaks r) := by
  by_cases hkey : o.key = ""
  · simp [fetch, hkey, Answered.atOnce]
  · cases answer with
    | ok r =>
        have hfetch : (o.fetch (.ok r)).result = Rate.ofResponse o.target r := by
          simp [fetch, hkey, haddress hkey]
        rw [hfetch, Rate.ofResponse_ok_iff]
        simp [hkey]
    | error fault =>
        have hfetch : (o.fetch (.error fault)).result = Rate.ofFault fault := by
          simp [fetch, hkey, haddress hkey]
        rw [hfetch]
        simp [Rate.ofFault_of_ended hanswer]

/-!
# Exchanging
-/

theorem exchanged_ok_iff {amount rate : Decimal} (hamount : amount.isFinite = true)
    (hrate : rate.isFinite = true) :
    (∃ krw, exchanged amount rate = .ok krw) ↔
      |amount.toRat * rate.toRat| < 10 ^ 26 - 1 / 200 := by
  have hroom := Decimal.mul_quantize_ok_iff hamount hrate .halfUp places (by decide)
  have hlift : (∃ krw, exchanged amount rate = .ok krw) ↔
      ∃ krw, (amount.mul rate >>= Decimal.quantize .halfUp places) = .ok krw := by
    constructor
    · rintro ⟨krw, hkrw⟩
      exact ⟨krw, Pricing.lift_eq_ok_iff.mp hkrw⟩
    · rintro ⟨krw, hkrw⟩
      exact ⟨krw, Pricing.lift_eq_ok_iff.mpr hkrw⟩
  rw [hlift, hroom, Decimal.cast_tenPow]
  norm_num [places, Decimal.precision]
  constructor
  · intro h
    linarith
  · intro h
    linarith

/-!
# Converting
-/

/-- Nothing that the conversion comes across breaks it off: the response can be taken
apart if one is asked for, and what the amount is worth has room. -/
structure Settles (o : Office) (c : Conversion) : Prop where
  whole : o.NeedsRate c.clock.asked c.amount → ∀ r, c.answer = .ok r → ¬ Rate.Breaks r
  room : ∀ rate, (o.rateDuring c.clock c.answer).2.result = .ok (.success rate) →
    |c.amount.toRat * rate.toRat| < 10 ^ 26 - 1 / 200

theorem convertAt_ok_iff {amount : Decimal} (hamount : amount.isFinite = true)
    {found : Outcome Decimal} (hfound : ∀ rate, found = .success rate → rate.isFinite = true) :
    (∃ outcome, convertAt amount found = .ok outcome) ↔
      ∀ rate, found = .success rate → |amount.toRat * rate.toRat| < 10 ^ 26 - 1 / 200 := by
  cases found with
  | failure reason detail => simp [convertAt]
  | success rate =>
      have hexchanged := exchanged_ok_iff hamount (hfound rate rfl)
      constructor
      · rintro ⟨outcome, houtcome⟩ _ ⟨rfl⟩
        rcases bind_eq_ok_iff.mp houtcome with ⟨krw, hkrw, _⟩
        exact hexchanged.mp ⟨krw, hkrw⟩
      · intro hroom
        rcases hexchanged.mpr (hroom rate rfl) with ⟨krw, hkrw⟩
        exact ⟨.success krw, bind_eq_ok_iff.mpr ⟨krw, hkrw, rfl⟩⟩

theorem rateDuring_ok_iff {o : Office} {address : String}
    (haddress : o.key ≠ "" → Inquiry.make o.template o.key o.source = .ok (.host address))
    {t : Readings} {answer : Except Fault RateResponse} (hanswer : Rate.Ended answer) :
    (∃ found, (o.rateDuring t answer).2.result = .ok found) ↔
      (o.key ≠ "" → o.freshRate? t.asked = none → ∀ r, answer = .ok r → ¬ Rate.Breaks r) := by
  cases hfresh : o.freshRate? t.asked with
  | some rate => simp [rateDuring_of_fresh answer hfresh, Answered.atOnce]
  | none =>
      rw [(rateDuring_of_not_fresh answer hfresh).left, fetch_ok_iff haddress hanswer]
      simp

theorem perform_ok_iff {o : Office} (hvalid : o.KeepsValid) {address : String}
    (haddress : o.key ≠ "" → Inquiry.make o.template o.key o.source = .ok (.host address))
    {c : Conversion} (hanswer : Rate.Ended c.answer) (hamount : c.amount.isFinite = true) :
    (∃ outcome, (o.perform c).2.result = .ok outcome) ↔ o.Settles c := by
  by_cases hzero : c.amount.IsZero
  · rw [perform_of_isZero hzero]
    refine iff_of_true ⟨_, rfl⟩ ?_
    constructor
    case whole =>
      intro hneeds
      exact absurd hzero hneeds.left
    case room =>
      intro rate _
      rcases hzero with ⟨negative, exponent, hamount⟩
      rw [hamount]
      norm_num [Decimal.toRat]
  · have hcompared := isZero?_of_not_isZero hamount hzero
    have hfound := rateDuring_ok_iff haddress (t := c.clock) hanswer
    have hfinite : ∀ found, (o.rateDuring c.clock c.answer).2.result = .ok found →
        ∀ rate, found = .success rate → rate.isFinite = true := by
      rintro found hresult rate rfl
      exact (isValid_of_rateDuring hvalid hresult).left
    rw [perform, convertDuring_of_not_isZero hcompared]
    constructor
    · rintro ⟨outcome, houtcome⟩
      rcases bind_eq_ok_iff.mp houtcome with ⟨found, hresult, hconverted⟩
      constructor
      case whole =>
        rintro ⟨_, hkey, hkept⟩
        exact hfound.mp ⟨found, hresult⟩ hkey ((freshRate?_eq_none_iff o c.clock.asked).mpr hkept)
      case room =>
        intro rate hrate
        rw [hresult] at hrate
        cases hrate
        exact (convertAt_ok_iff hamount (hfinite _ hresult)).mp ⟨outcome, hconverted⟩ rate rfl
    · intro hsettles
      have hwhole : o.key ≠ "" → o.freshRate? c.clock.asked = none →
          ∀ r, c.answer = .ok r → ¬ Rate.Breaks r := by
        intro hkey hfresh
        exact hsettles.whole ⟨hzero, hkey, (freshRate?_eq_none_iff o c.clock.asked).mp hfresh⟩
      rcases hfound.mpr hwhole with ⟨found, hresult⟩
      have hroom : ∀ rate, found = .success rate →
          |c.amount.toRat * rate.toRat| < 10 ^ 26 - 1 / 200 := by
        rintro rate rfl
        exact hsettles.room rate hresult
      rcases (convertAt_ok_iff hamount (hfinite found hresult)).mpr hroom with ⟨outcome, houtcome⟩
      exact ⟨outcome, bind_eq_ok_iff.mpr ⟨found, hresult, houtcome⟩⟩

/-- Whatever an office has converted before, the conversion of an estimated cost ends
with an outcome exactly if nothing breaks it off. -/
theorem book_settles {key template source target address : String} {lifetime : Int}
    (haddress : key ≠ "" → Inquiry.make template key (Text.upper source) = .ok (.host address))
    (cs : List Conversion) {c : Conversion} (hanswer : Rate.Ended c.answer) {model : Json}
    {prompt completion : TokenCount} {e : Estimate}
    (he : Pricing.estimate Pricing.standard model prompt completion = .ok (.success e))
    (hamount : c.amount = e.usdCost) :
    (∃ outcome,
        (((make key template source target lifetime).book cs).office.perform c).2.result =
          .ok outcome) ↔
      ((make key template source target lifetime).book cs).office.Settles c := by
  have hkept : ((make key template source target lifetime).book cs).IsKept
      (make key template source target lifetime) := isKept_book rfl cs
  have hfinite : c.amount.isFinite = true := by
    rw [hamount]
    exact Pricing.isFinite_usdCost Pricing.areFinite_standard he
  have haddress' : ((make key template source target lifetime).book cs).office.key ≠ "" →
      Inquiry.make ((make key template source target lifetime).book cs).office.template
        ((make key template source target lifetime).book cs).office.key
        ((make key template source target lifetime).book cs).office.source =
          .ok (.host address) := by
    rw [hkept.settings]
    exact haddress
  exact perform_ok_iff hkept.keepsValid haddress' hanswer hfinite

theorem book_settles_fresh :
    ∃ outcome,
      (((make "key" "http://rates/{api_key}/{base}" "usd" "krw" 3600).book
        [⟨.still .start, .ok quoting1300, .ofUnits 6 1000⟩]).office.perform
          ⟨.still (.whole 60), .error (.transfer (.timeout .read) ""), .ofUnits 6 1000⟩).2.result =
        .ok outcome := by
  have he : Pricing.estimate Pricing.standard .null (.whole 100) (.whole 0) =
      .ok (.success ⟨100, .ofUnits 6 1000⟩) := by rfl
  refine (book_settles (fun _ => by rfl) _ (Rate.Ended.timeout .read "") he rfl).mpr ?_
  constructor
  case whole =>
    intro _ r hr
    cases hr
  case room =>
    intro rate hrate
    have hkept : rate = .ofNat 1300 := by
      cases hrate
      rfl
    rw [hkept]
    norm_num [Decimal.ofUnits, Decimal.ofNat, Decimal.toRat]

/-- The bytes are those of an error report whose kind is a list without items. -/
def reportingList : RateResponse :=
  ⟨200, [123, 34, 114, 101, 115, 117, 108, 116, 34, 58, 34, 101, 114, 114, 111, 114, 34, 44, 34,
    101, 114, 114, 111, 114, 45, 116, 121, 112, 101, 34, 58, 91, 93, 125]⟩

theorem perform_breaks_off :
    ∃ c e, Rate.Ended c.answer ∧
      Pricing.estimate Pricing.standard .null (.whole 100) (.whole 0) = .ok (.success e) ∧
      c.amount = e.usdCost ∧
      (((make "key" "http://rates/{api_key}/{base}" "usd" "krw" 3600).book []).office.perform
        c).2.result = .error (.wrongKind "a list for a name") := by
  refine ⟨⟨.still .start, .ok reportingList, .ofUnits 6 1000⟩, ⟨100, .ofUnits 6 1000⟩,
    .response reportingList, ?_, rfl, ?_⟩
  · rfl
  · rfl

end Office
end ReviewDesk
