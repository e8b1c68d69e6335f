import Mathlib.Data.List.Induction
import ReviewDesk.Proofs.Exchange.Office

/-!
# The kept rate over many conversions

One office makes conversion after conversion.  The rates that it fetches on the way are
listed in a book, and what it keeps is always the last of them, or nothing at all if
its rates have no lifetime.
-/

namespace ReviewDesk
namespace Rate

/-!
# Responses that give a rate
-/

/-- A response that gives a rate for a currency: a success that reports no error, with a
finite positive number where the rates are listed. -/
structure Quotes (currency : String) (r : RateResponse) (rate : Decimal) : Prop where
  status : isSuccess r.status = true
  document : ∃ members v numeral, Json.readBytes r.body documentDepth = .ok (.object members) ∧
    members.lookup "result" ≠ some (.string "error") ∧
    ((members.lookup "conversion_rates").getD .null).member? currency = some v ∧
    numeral? v = some numeral ∧ Decimal.read? numeral = some rate
  valid : IsValid rate

theorem accept_eq_success_iff {rate found : Decimal} :
    accept rate = .success found ↔ IsValid rate ∧ rate = found := by
  unfold accept
  split
  · rename_i hvalid
    simp only [Bool.and_eq_true] at hvalid
    simp [IsValid, hvalid]
  · rename_i hvalid
    simp only [Bool.and_eq_true] at hvalid
    simp [IsValid, Outcome.refuse, hvalid]

theorem ofValue_eq_success_iff {v : Json} {found : Decimal} :
    ofValue v = .success found ↔
      ∃ numeral, numeral? v = some numeral ∧ Decimal.read? numeral = some found ∧
        IsValid found := by
  unfold ofValue
  constructor
  · intro h
    split at h
    · rename_i rate hrate
      rcases Option.bind_eq_some_iff.mp hrate with ⟨numeral, hnumeral, hread⟩
      rcases accept_eq_success_iff.mp h with ⟨hvalid, rfl⟩
      exact ⟨numeral, hnumeral, hread, hvalid⟩
    · cases h
  · rintro ⟨numeral, hnumeral, hread, hvalid⟩
    simp [hnumeral, hread, accept_eq_success_iff.mpr ⟨hvalid, rfl⟩]

theorem ofResponse_eq_success_iff {currency : String} {r : RateResponse} {rate : Decimal} :
    ofResponse currency r = .ok (.success rate) ↔ Quotes currency r rate := by
  constructor
  · intro h
    have hvalid : IsValid rate := isValid_of_ofResponse h
    unfold ofResponse at h
    split at h
    · rename_i hstatus
      split at h
      · rename_i document hread
        unfold ofDocument at h
        split at h
        · rename_i members
          split at h
          · exact absurd h (reported_ne_success _ rate)
          · rename_i hresult
            split at h
            · rename_i v hv
              injection h with h
              rcases ofValue_eq_success_iff.mp h with ⟨numeral, hnumeral, hnumber, _⟩
              exact ⟨hstatus, ⟨members, v, numeral, hread, hresult, hv, hnumeral, hnumber⟩, hvalid⟩
            · cases h
        · cases h
      · cases h
      · cases h
    · cases h
  · rintro ⟨hstatus, ⟨members, v, numeral, hread, hresult, hv, hnumeral, hnumber⟩, hvalid⟩
    have hfound : ofValue v = .success rate :=
      ofValue_eq_success_iff.mpr ⟨numeral, hnumeral, hnumber, hvalid⟩
    have hdocument : ofDocument currency (.object members) = .ok (.success rate) := by
      unfold ofDocument
      dsimp only
      split
      · rename_i herror
        exact absurd herror hresult
      · simp [hv, hfound]
    simp [ofResponse, hstatus, hread, hdocument]

end Rate

/-!
# Conversions and the book of rates

A conversion is told by how the clock stands, by what the rate service answers if it is
asked, and by the amount.  The book lists the rates that were fetched, in order, each with
the time at which it arrived.
-/

structure Conversion where
  clock : Readings
  answer : Except Fault RateResponse
  amount : Decimal

namespace Office

def perform (o : Office) (c : Conversion) : Office × Answered Decimal :=
  o.convertDuring c.clock c.answer c.amount

def fetched? (o : Office) (c : Conversion) : Option KeptRate :=
  if (o.perform c).2.requests.isEmpty then none
  else
    match (o.fetch c.answer).result with
    | .ok (.success rate) => some ⟨rate, c.clock.arrived⟩
    | _ => none

/-- Nothing is kept, or what is kept is as old as rates may get. -/
def MustAsk (o : Office) (now : Moment) : Prop :=
  o.kept = none ∨ ∃ k, o.kept = some k ∧ (now.sub k.fetched).ltInt o.lifetime = false

end Office

structure Book where
  office : Office
  fetched : List KeptRate

namespace Book

def step (b : Book) (c : Conversion) : Book :=
  ⟨(b.office.perform c).1, b.fetched ++ (b.office.fetched? c).toList⟩

end Book

namespace Office

def book (o : Office) (cs : List Conversion) : Book :=
  cs.foldl Book.step ⟨o, []⟩

theorem book_nil (o : Office) : o.book [] = ⟨o, []⟩ :=
  rfl

theorem book_snoc (o : Office) (cs : List Conversion) (c : Conversion) :
    o.book (cs ++ [c]) = (o.book cs).step c := by
  simp [book]

/-!
# One conversion
-/

theorem mustAsk_iff (o : Office) (now : Moment) : o.MustAsk now ↔ o.freshRate? now = none := by
  unfold MustAsk freshRate?
  cases o.kept with
  | none => simp
  | some k => cases h : (now.sub k.fetched).ltInt o.lifetime <;> simp [isFresh, h]

theorem fetch_success_iff {o : Office} {address : String} (hkey : o.key ≠ "")
    (haddress : Inquiry.make o.template o.key o.source = .ok (.host address))
    (answer : Except Fault RateResponse) (rate : Decimal) :
    (o.fetch answer).result = .ok (.success rate) ↔
      ∃ r, answer = .ok r ∧ Rate.Quotes o.target r rate := by
  cases answer with
  | ok r =>
      simp [fetch, hkey, haddress, Rate.ofResponse_eq_success_iff]
  | error fault =>
      simp [fetch, hkey, haddress, Rate.ofFault_ne_success fault rate]

theorem perform_of_isZero {o : Office} {c : Conversion} (h : c.amount.IsZero) :
    o.perform c = (o, .atOnce (.success nothing)) :=
  convertDuring_of_isZero h c.clock c.answer

theorem isZero?_of_not_isZero {amount : Decimal} (hfinite : amount.isFinite = true)
    (h : ¬ amount.IsZero) : amount.isZero? = .ok false := by
  rcases Decimal.isZero?_of_isFinite hfinite with ⟨zero, hzero⟩
  cases zero with
  | false => exact hzero
  | true => exact absurd ((Decimal.isZero?_eq_true_iff amount).mp hzero) h

theorem perform_of_fresh {o : Office} {c : Conversion} {rate : Decimal}
    (hamount : c.amount.isZero? = .ok false) (h : o.freshRate? c.clock.asked = some rate) :
    o.perform c = (o, ⟨[], convertAt c.amount (.success rate)⟩) := by
  rw [perform, convertDuring_of_not_isZero hamount, rateDuring_of_fresh c.answer h]
  rfl

theorem perform_of_mustAsk {o : Office} {c : Conversion}
    (hamount : c.amount.isZero? = .ok false) (h : o.MustAsk c.clock.asked) :
    (o.perform c).2 = ⟨(o.fetch c.answer).requests,
      (o.fetch c.answer).result >>= convertAt c.amount⟩ := by
  have hfresh : o.freshRate? c.clock.asked = none := (mustAsk_iff o c.clock.asked).mp h
  rw [perform, convertDuring_of_not_isZero hamount,
    (rateDuring_of_not_fresh c.answer hfresh).left]

theorem requests_of_fetch {o : Office} {answer : Except Fault RateResponse} {rate : Decimal}
    (h : (o.fetch answer).result = .ok (.success rate)) :
    (o.fetch answer).requests.isEmpty = false := by
  unfold fetch at h ⊢
  split at h
  · cases h
  · rename_i hkey
    rw [if_neg hkey]
    split at h
    · cases h
    · cases h
    · rfl
    · rfl

theorem fetched?_of_no_requests {o : Office} {c : Conversion}
    (h : (o.perform c).2.requests = []) : o.fetched? c = none := by
  simp [fetched?, h]

theorem fetched?_of_failed {o : Office} {c : Conversion}
    (h : ∀ rate, (o.fetch c.answer).result ≠ .ok (.success rate)) : o.fetched? c = none := by
  unfold fetched?
  split
  · rfl
  · split
    · rename_i rate hrate
      exact absurd hrate (h rate)
    · rfl

theorem fetched?_of_success {o : Office} {c : Conversion} {rate : Decimal}
    (hamount : c.amount.isZero? = .ok false) (hask : o.MustAsk c.clock.asked)
    (h : (o.fetch c.answer).result = .ok (.success rate)) :
    o.fetched? c = some ⟨rate, c.clock.arrived⟩ := by
  have hrequests : (o.perform c).2.requests.isEmpty = false := by
    rw [perform_of_mustAsk hamount hask]
    exact requests_of_fetch h
  simp [fetched?, hrequests, h]

theorem isValid_of_fetched? {o : Office} {c : Conversion} {k : KeptRate}
    (h : o.fetched? c = some k) : Rate.IsValid k.rate := by
  unfold fetched? at h
  split at h
  · cases h
  · split at h
    · rename_i rate hrate
      cases h
      exact isValid_of_fetch hrate
    · cases h

theorem perform_office (o : Office) (c : Conversion) :
    (o.perform c).1 = match o.fetched? c with
      | some k => o.keep k.fetched k.rate
      | none => o := by
  cases hamount : c.amount.isZero? with
  | error trap =>
      have hperform : o.perform c = (o, ⟨[], .error (.decimal trap)⟩) := by
        simp [perform, convertDuring, hamount]
      rw [fetched?_of_no_requests (by rw [hperform]), hperform]
  | ok zero =>
      cases zero with
      | true =>
          have hperform := perform_of_isZero (o := o) (c := c)
            ((Decimal.isZero?_eq_true_iff c.amount).mp hamount)
          rw [fetched?_of_no_requests (by rw [hperform]; rfl), hperform]
      | false =>
          cases hfresh : o.freshRate? c.clock.asked with
          | some rate =>
              have hperform := perform_of_fresh hamount hfresh
              rw [fetched?_of_no_requests (by rw [hperform]), hperform]
          | none =>
              have hask : o.MustAsk c.clock.asked := (mustAsk_iff o c.clock.asked).mpr hfresh
              rw [perform, convertDuring_of_not_isZero hamount]
              rcases (rateDuring_of_not_fresh c.answer hfresh).right with
                ⟨hsame, hfailed⟩ | ⟨rate, hrate, hkept⟩
              · rw [fetched?_of_failed hfailed]
                exact hsame
              · rw [fetched?_of_success hamount hask hrate]
                exact hkept

end Office

/-!
# Many conversions

The invariant of the book: the settings of the office are those it began with, every
rate that was fetched is valid, and the last of them is kept if rates have a lifetime.
-/

namespace Book

structure IsKept (b : Book) (first : Office) : Prop where
  settings : b.office = { first with kept := b.office.kept }
  last : b.office.kept = if 0 < first.lifetime then b.fetched.getLast? else none
  valid : ∀ k ∈ b.fetched, Rate.IsValid k.rate

theorem isKept_step {b : Book} {first : Office} (h : b.IsKept first) (c : Conversion) :
    (b.step c).IsKept first := by
  have hlifetime : b.office.lifetime = first.lifetime := by rw [h.settings]
  unfold step
  rw [Office.perform_office b.office c]
  cases hfetched : b.office.fetched? c with
  | none => simpa using h
  | some k =>
      have hvalid : ∀ other ∈ b.fetched ++ [k], Rate.IsValid other.rate := by
        intro other hother
        rcases List.mem_append.mp hother with hold | hnew
        · exact h.valid other hold
        · rw [List.mem_singleton.mp hnew]
          exact Office.isValid_of_fetched? hfetched
      by_cases hkeeps : 0 < first.lifetime
      · constructor
        · simp only [Office.keep, hlifetime, if_pos hkeeps]
          rw [h.settings]
        · simp [Office.keep, hlifetime, hkeeps]
        · exact hvalid
      · constructor
        · simpa [Office.keep, hlifetime, hkeeps] using h.settings
        · simpa [Office.keep, hlifetime, hkeeps] using h.last
        · exact hvalid

end Book

namespace Office

theorem isKept_book {first : Office} (h : first.kept = none) (cs : List Conversion) :
    (first.book cs).IsKept first := by
  induction cs using List.reverseRecOn with
  | nil =>
      constructor
      · rfl
      · simp [book_nil, h]
      · simp [book_nil]
  | append_singleton cs c ih =>
      rw [book_snoc]
      exact Book.isKept_step ih c

end Office

namespace Book

/-- What the next conversion does, at an office that began like `first`, has a key and
asks a service at this address. -/
structure Converts (first : Office) (b : Book) (address : String) (c : Conversion) : Prop where
  settings : b.office = { first with kept := b.office.kept }
  /-- Nothing is worth nothing, and nobody is asked. -/
  ofZero : c.amount.IsZero → b.office.perform c = (b.office, .atOnce (.success Office.nothing))
  asks : ¬ c.amount.IsZero → b.office.MustAsk c.clock.asked →
    (b.office.perform c).2.requests = [.rate address]
  spares : ¬ c.amount.IsZero → ¬ b.office.MustAsk c.clock.asked →
    (b.office.perform c).2.requests = []
  /-- The rate is the last that was fetched, either now or less than a lifetime ago, and
  the amount is worth its product with it, rounded once. -/
  uses : ¬ c.amount.IsZero → ∀ krw, (b.office.perform c).2.result = .ok (.success krw) →
    ∃ k, (b.step c).fetched.getLast? = some k ∧ Office.exchanged c.amount k.rate = .ok krw ∧
      (Decimal.FitsPrecision (c.amount.toRat * k.rate.toRat) →
        krw.toRat = Decimal.roundedTo Office.places (c.amount.toRat * k.rate.toRat)) ∧
      (b.office.fetched? c = some k ∨ (c.clock.asked.sub k.fetched).ltInt first.lifetime = true)
  /-- Only an answer that gives a rate changes what is kept. -/
  leaves : (∀ r rate, c.answer = .ok r → ¬ Rate.Quotes first.target r rate) →
    (b.office.perform c).1 = b.office
  keepsNone : first.lifetime ≤ 0 → (b.step c).office.kept = none
  valid : ∀ k, (b.step c).office.kept = some k → Rate.IsValid k.rate

theorem IsKept.keepsNone {b : Book} {first : Office} (h : b.IsKept first)
    (hlifetime : first.lifetime ≤ 0) : b.office.kept = none := by
  rw [h.last, if_neg (Int.not_lt.mpr hlifetime)]

theorem IsKept.keepsValid {b : Book} {first : Office} (h : b.IsKept first) :
    b.office.KeepsValid := by
  intro k hk
  rw [h.last] at hk
  split at hk
  · exact h.valid k (List.mem_of_getLast? hk)
  · cases hk

theorem getLast?_step_of_fetched {b : Book} {c : Conversion} {k : KeptRate}
    (h : b.office.fetched? c = some k) : (b.step c).fetched.getLast? = some k := by
  simp [step, h]

theorem IsKept.last_of_fresh {b : Book} {first : Office} (h : b.IsKept first) {now : Moment}
    {rate : Decimal} (hfresh : b.office.freshRate? now = some rate) :
    ∃ k, k.rate = rate ∧ b.fetched.getLast? = some k ∧
      (now.sub k.fetched).ltInt b.office.lifetime = true := by
  unfold Office.freshRate? at hfresh
  split at hfresh
  · rename_i k hk
    split at hfresh
    · rename_i hage
      cases hfresh
      have hlast := h.last
      rw [hk] at hlast
      split at hlast
      · exact ⟨k, rfl, hlast.symm, hage⟩
      · cases hlast
    · cases hfresh
  · cases hfresh

theorem uses_last {b : Book} {first : Office} (h : b.IsKept first) {c : Conversion}
    (hamount : c.amount.isZero? = .ok false) {krw : Decimal}
    (hkrw : (b.office.perform c).2.result = .ok (.success krw)) :
    ∃ k, (b.step c).fetched.getLast? = some k ∧ Office.exchanged c.amount k.rate = .ok krw ∧
      (b.office.fetched? c = some k ∨
        (c.clock.asked.sub k.fetched).ltInt b.office.lifetime = true) := by
  cases hfresh : b.office.freshRate? c.clock.asked with
  | some rate =>
      have hperform := Office.perform_of_fresh hamount hfresh
      rw [hperform] at hkrw
      rcases bind_eq_ok_iff.mp hkrw with ⟨exact, hexact, hdone⟩
      cases hdone
      rcases h.last_of_fresh hfresh with ⟨k, rfl, hlast, hage⟩
      have hfetched : b.office.fetched? c = none :=
        Office.fetched?_of_no_requests (by rw [hperform])
      have hstep : (b.step c).fetched = b.fetched := by simp [step, hfetched]
      exact ⟨k, by rw [hstep]; exact hlast, hexact, Or.inr hage⟩
  | none =>
      have hask := (Office.mustAsk_iff b.office c.clock.asked).mpr hfresh
      rw [Office.perform_of_mustAsk hamount hask] at hkrw
      rcases bind_eq_ok_iff.mp hkrw with ⟨outcome, hfetch, hconverted⟩
      cases outcome with
      | failure reason detail => cases hconverted
      | success rate =>
          rcases bind_eq_ok_iff.mp hconverted with ⟨exact, hexact, hdone⟩
          cases hdone
          have hfetched := Office.fetched?_of_success hamount hask hfetch
          exact ⟨_, getLast?_step_of_fetched hfetched, hexact, Or.inl hfetched⟩

theorem converts {b : Book} {first : Office} (h : b.IsKept first) {address : String}
    (hkey : first.key ≠ "")
    (haddress : Inquiry.make first.template first.key first.source = .ok (.host address))
    {c : Conversion} (hfinite : c.amount.isFinite = true) : b.Converts first address c := by
  have hsettings := h.settings
  have hkey' : b.office.key ≠ "" := by
    rw [hsettings]
    exact hkey
  have haddress' :
      Inquiry.make b.office.template b.office.key b.office.source = .ok (.host address) := by
    rw [hsettings]
    exact haddress
  have hlifetime : b.office.lifetime = first.lifetime := by rw [hsettings]
  have hcomparable : ¬ c.amount.IsZero → c.amount.isZero? = .ok false :=
    Office.isZero?_of_not_isZero hfinite
  have hnext : (b.step c).IsKept first := isKept_step h c
  constructor
  case settings => exact hsettings
  case ofZero =>
    intro hzero
    exact Office.perform_of_isZero hzero
  case asks =>
    intro hamount hask
    rw [Office.perform_of_mustAsk (hcomparable hamount) hask,
      Office.fetch_requests c.answer fun _ => haddress', if_neg hkey']
  case spares =>
    intro hamount hask
    rw [Office.mustAsk_iff] at hask
    rcases Option.ne_none_iff_exists'.mp hask with ⟨rate, hfresh⟩
    rw [Office.perform_of_fresh (hcomparable hamount) hfresh]
  case uses =>
    intro hamount krw hkrw
    rcases uses_last h (hcomparable hamount) hkrw with ⟨k, hlast, hworth, hage⟩
    have hrate := (hnext.valid k (List.mem_of_getLast? hlast)).left
    rw [hlifetime] at hage
    exact ⟨k, hlast, hworth, fun hfits => Office.toRat_exchanged hfinite hrate hfits hworth, hage⟩
  case leaves =>
    intro hquotes
    have hfailed : ∀ rate, (b.office.fetch c.answer).result ≠ .ok (.success rate) := by
      intro rate hrate
      rcases (Office.fetch_success_iff hkey' haddress' c.answer rate).mp hrate with ⟨r, hr, hrate⟩
      rw [hsettings] at hrate
      exact hquotes r rate hr hrate
    rw [Office.perform_office, Office.fetched?_of_failed hfailed]
  case keepsNone =>
    intro hnever
    exact hnext.keepsNone hnever
  case valid =>
    exact hnext.keepsValid

end Book

namespace Office

/-- Whatever an office has converted before, the next conversion goes by the book. -/
theorem book_converts {key template source target address : String} {lifetime : Int}
    (hkey : key ≠ "")
    (haddress : Inquiry.make template key (Text.upper source) = .ok (.host address))
    (cs : List Conversion) {c : Conversion} (hfinite : c.amount.isFinite = true) :
    ((make key template source target lifetime).book cs).Converts
      (make key template source target lifetime) address c :=
  Book.converts (isKept_book rfl cs) hkey haddress hfinite

/-- The bytes are those of an object of rates in which a dollar is worth 1300 won. -/
def quoting1300 : RateResponse :=
  ⟨200, [123, 34, 99, 111, 110, 118, 101, 114, 115, 105, 111, 110, 95, 114, 97, 116, 101, 115, 34,
    58, 123, 34, 75, 82, 87, 34, 58, 49, 51, 48, 48, 125, 125]⟩

theorem book_converts_expired :
    ∃ first next : Conversion,
      ((make "key" "http://rates/{api_key}/{base}" "usd" "krw" 60).book [first]).office.kept =
        some ⟨.ofNat 1300, .whole 0⟩ ∧
      next.clock.asked = .whole 60 ∧
      ((make "key" "http://rates/{api_key}/{base}" "usd" "krw" 60).book [first]).Converts
        (make "key" "http://rates/{api_key}/{base}" "usd" "krw" 60) "http://rates/key/USD"
        next := by
  refine ⟨⟨.still .start, .ok quoting1300, .ofUnits 6 1000⟩,
    ⟨.still (.whole 60), .error (.transfer (.timeout .read) ""), .ofUnits 6 1000⟩, ?_, rfl, ?_⟩
  · rfl
  · exact book_converts (by decide) (by rfl) _ rfl

end Office
end ReviewDesk
