import ReviewDesk.Decimal.Arithmetic
import ReviewDesk.Exchange.Inquiry
import ReviewDesk.Exchange.Moment
import ReviewDesk.Exchange.Rate
import ReviewDesk.Pricing
import ReviewDesk.Request
import ReviewDesk.Text.Case

/-!
# The exchange office

Amounts are converted at the rate of a service.  A rate that was fetched is kept for
a number of seconds, and the service is asked again only after that.
-/

namespace ReviewDesk

structure KeptRate where
  rate : Decimal
  fetched : Moment
  deriving DecidableEq

/-- The currencies are in capital letters; `lifetime` is in seconds. -/
structure Office where
  key : String
  template : String
  source : String
  target : String
  lifetime : Int
  kept : Option KeptRate
  deriving DecidableEq

namespace Office

def make (key template source target : String) (lifetime : Int) : Office :=
  ⟨key, template, Text.upper source, Text.upper target, lifetime, none⟩

def places : Nat := 2

def notConfigured : String := "汇率 API Key 未配置"

/-!
# Fetching
-/

def fetch (o : Office) (answer : Except Fault RateResponse) : Answered Decimal :=
  if o.key.isEmpty then .atOnce (.refuse .notConfigured notConfigured)
  else
    match Inquiry.make o.template o.key o.source with
    | .error fault => ⟨[], .error fault⟩
    | .ok .unreachable => .atOnce (.refuse .invalidResponse Rate.unreadableText)
    | .ok (.nobody address) =>
        ⟨[.rate address], match answer with
          | .ok _ => .ok (.refuse .invalidResponse Rate.unreadableText)
          | .error fault => Rate.ofFault fault⟩
    | .ok (.host address) =>
        ⟨[.rate address], match answer with
          | .ok response => Rate.ofResponse o.target response
          | .error fault => Rate.ofFault fault⟩

/-!
# Keeping a rate
-/

def isFresh (o : Office) (now : Moment) (k : KeptRate) : Bool :=
  (now.sub k.fetched).ltInt o.lifetime

def freshRate? (o : Office) (now : Moment) : Option Decimal :=
  match o.kept with
  | some k => if o.isFresh now k then some k.rate else none
  | none => none

def keep (o : Office) (now : Moment) (rate : Decimal) : Office :=
  if 0 < o.lifetime then { o with kept := some ⟨rate, now⟩ } else o

/-- The rate, kept or fetched; a rate that was fetched is kept from when it arrived. -/
def rateDuring (o : Office) (t : Readings) (answer : Except Fault RateResponse) :
    Office × Answered Decimal :=
  match o.freshRate? t.asked with
  | some rate => (o, .atOnce (.success rate))
  | none =>
      let fetched := o.fetch answer
      match fetched.result with
      | .ok (.success rate) => (o.keep t.arrived rate, fetched)
      | _ => (o, fetched)

def rate (o : Office) (now : Moment) (answer : Except Fault RateResponse) :
    Office × Answered Decimal :=
  o.rateDuring (.still now) answer

/-!
# Converting
-/

def nothing : Decimal := .ofUnits places 0

def exchanged (amount rate : Decimal) : Except Fault Decimal :=
  Pricing.lift (do (← amount.mul rate).quantize .halfUp places)

def convertAt (amount : Decimal) : Outcome Decimal → Except Fault (Outcome Decimal)
  | .failure reason detail => .ok (.failure reason detail)
  | .success rate => do return .success (← exchanged amount rate)

def convertDuring (o : Office) (t : Readings) (answer : Except Fault RateResponse)
    (amount : Decimal) : Office × Answered Decimal :=
  match amount.isZero? with
  | .error trap => (o, ⟨[], .error (.decimal trap)⟩)
  | .ok true => (o, .atOnce (.success nothing))
  | .ok false =>
      let (o, found) := o.rateDuring t answer
      (o, ⟨found.requests, do convertAt amount (← found.result)⟩)

def convert (o : Office) (now : Moment) (answer : Except Fault RateResponse)
    (amount : Decimal) : Office × Answered Decimal :=
  o.convertDuring (.still now) answer amount

end Office
end ReviewDesk
