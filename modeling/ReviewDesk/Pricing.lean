import ReviewDesk.Decimal.Arithmetic
import ReviewDesk.Json.Shown
import ReviewDesk.Request
import ReviewDesk.Text.Blank

/-!
# Cost of a request

The cost of a request to the chat model is estimated from the numbers of tokens and
the price of the model per thousand tokens.  Every amount is rounded to six places,
halves up.
-/

namespace ReviewDesk

open Text

structure TokenPrice where
  prompt : Decimal
  completion : Decimal
  deriving DecidableEq

abbrev PriceTable := List (String × TokenPrice)

structure Estimate where
  totalTokens : Int
  usdCost : Decimal
  deriving DecidableEq

inductive TokenCount where
  | whole (n : Int)
  | flag (b : Bool)
  | fraction (x : Binary64)
  | other (v : Json)

namespace TokenCount

def ofJson : Json → TokenCount
  | .int n => whole n
  | .bool b => flag b
  | .double x => fraction x
  | v => other v

def text : TokenCount → Except Fault String
  | whole n => (Json.int n).written
  | flag b => (Json.bool b).written
  | fraction x => (Json.double x).written
  | other v => v.written

def isNegative : TokenCount → Except Fault Bool
  | whole n => .ok (n < 0)
  | flag _ => .ok false
  | fraction x => .ok x.isNegative
  | other _ => .error (.wrongKind "a token count that is no number")

def toInt : TokenCount → Except Fault Int
  | whole n => .ok n
  | flag b => .ok (if b then 1 else 0)
  | _ => .error (.wrongKind "a token count that is not whole")

end TokenCount

namespace Pricing

/-!
# Prices
-/

def places : Nat := 6

def defaultModel : String := "gpt-4o"

def flat (n places : Nat) : TokenPrice :=
  ⟨.ofUnits places n, .ofUnits places n⟩

def defaultPrice : TokenPrice := flat 1 2

def standard : PriceTable :=
  [(defaultModel, defaultPrice), ("gpt-4o-mini", flat 5 3)]

def tableOf (prices : PriceTable) : PriceTable :=
  if prices.isEmpty then standard else prices

def priceOf (table : PriceTable) (model : String) : TokenPrice :=
  let name := trimmed model
  let name := if name.isEmpty then defaultModel else name
  match table.lookup name with
  | some price => price
  | none => (table.lookup defaultModel).getD defaultPrice

/-- The name of a model from what a reply gave as one.  No table has a name with half a
pair, so such a name is as good as none. -/
def modelName (model : Json) : Except Fault String :=
  match model with
  | .string s => .ok s
  | .unpaired _ => .ok ""
  | v => if v.isAbsent then .ok "" else .error (.noSuchAttribute "a model name that is no text")

/-!
# Estimates
-/

def lift {α : Type} : Except Decimal.Trap α → Except Fault α
  | .ok a => .ok a
  | .error trap => .error (.decimal trap)

def costOf (price : Decimal) (tokens : Int) : Except Decimal.Trap Decimal := do
  ((← (← price.mul (.ofInt tokens)).shiftDown 3)).quantize .halfUp places

def negativeText (prompt completion : String) : String :=
  s!"token 数不能为负数: prompt={prompt}, completion={completion}"

def refusal (prompt completion : TokenCount) : Except Fault (Outcome Estimate) := do
  return .refuse .invalidResponse (negativeText (← prompt.text) (← completion.text))

def noteCounts (prompt completion : TokenCount) : Except Fault Unit := do
  let _ ← prompt.text
  let _ ← completion.text

/-- Estimates from counts as they were reported: the first fault on the way from the
prompt to the sum, and on to the note of both, is the one that counts. -/
def estimate (table : PriceTable) (model : Json) (prompt completion : TokenCount) :
    Except Fault (Outcome Estimate) := do
  if ← prompt.isNegative then return ← refusal prompt completion
  if ← completion.isNegative then return ← refusal prompt completion
  let price := priceOf table (← modelName model)
  let promptTokens ← prompt.toInt
  let promptCost ← lift (costOf price.prompt promptTokens)
  let completionTokens ← completion.toInt
  let completionCost ← lift (costOf price.completion completionTokens)
  let total ← lift (do (← promptCost.add completionCost).quantize .halfUp places)
  noteCounts prompt completion
  return .success ⟨promptTokens + completionTokens, total⟩

end Pricing
end ReviewDesk
