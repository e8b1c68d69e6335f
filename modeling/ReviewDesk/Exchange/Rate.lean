import ReviewDesk.Decimal.Reader
import ReviewDesk.Fault
import ReviewDesk.Json.Reader
import ReviewDesk.Number.Shortest

/-!
# Reading a rate

The rate service answers with a status code and a JSON document.  A rate is accepted
only if it is a finite positive number.
-/

namespace ReviewDesk

structure RateResponse where
  status : Int
  body : List Nat

namespace Rate

/-!
# Texts of the failures
-/

def timeoutText : String := "汇率接口请求超时"
def unavailableText : String := "汇率接口不可用"
def unreadableText : String := "汇率响应解析失败"
def shapeText : String := "汇率响应格式错误"
def missingText (currency : String) : String := "响应中没有 " ++ currency ++ " 汇率"
def notNumberText : String := "汇率不是数字"
def notValidText (rate : Decimal) : String := "汇率无效: " ++ rate.text

/-!
# Errors that the service reports
-/

def reportedReason (kind : String) : FailureReason :=
  if kind = "invalid-key" || kind = "inactive-account" then .unauthorized
  else if kind = "quota-reached" then .insufficientQuota
  else .invalidResponse

/-- The failure for a reported kind of error, which is passed on as it is.  Kinds
are looked up by name, so a list or an object cannot be one. -/
def reported (kind : Json) : Except Fault (Outcome Decimal) :=
  match kind with
  | .string s => .ok (.failure (reportedReason s) kind)
  | .array _ => .error (.wrongKind "a list for a name")
  | .object _ => .error (.wrongKind "an object for a name")
  | _ => .ok (.failure .invalidResponse kind)

/-!
# The number
-/

def numeral? : Json → Option String
  | .int n => some (toString n)
  | .double x => some x.text
  | .string s => some s
  | _ => none

def accept (rate : Decimal) : Outcome Decimal :=
  if rate.isFinite && rate.isPositive then .success rate
  else .refuse .invalidResponse (notValidText rate)

def ofValue (v : Json) : Outcome Decimal :=
  match (numeral? v).bind Decimal.read? with
  | some rate => accept rate
  | none => .refuse .invalidResponse notNumberText

def ofDocument (currency : String) (document : Json) : Except Fault (Outcome Decimal) :=
  match document with
  | .object members =>
      match members.lookup "result" with
      | some (.string "error") =>
          reported ((members.lookup "error-type").getD (.string "unknown"))
      | _ =>
          match ((members.lookup "conversion_rates").getD .null).member? currency with
          | some v => .ok (ofValue v)
          | none => .ok (.refuse .invalidResponse (missingText currency))
  | _ => .ok (.refuse .invalidResponse shapeText)

def isSuccess (status : Int) : Bool :=
  200 ≤ status && status ≤ 299

/-- Fifteen calls lead to the document. -/
def documentDepth : Nat := Json.roomAfter 15

def ofResponse (currency : String) (r : RateResponse) : Except Fault (Outcome Decimal) :=
  if isSuccess r.status then
    match Json.readBytes r.body documentDepth with
    | .ok document => ofDocument currency document
    | .error (.content .tooDeep) => .error (.value .depth "arrays in arrays without end")
    | .error _ => .ok (.refuse .invalidResponse unreadableText)
  else .ok (.refuse (.ofStatusCode r.status) s!"HTTP {r.status}")

/-- Faults of the transfer are failures, and so is a value that cannot be read; any
other fault breaks off the request. -/
def ofFault (fault : Fault) : Except Fault (Outcome Decimal) :=
  match fault with
  | .transfer (.timeout _) _ => .ok (.refuse .timeout timeoutText)
  | .transfer (.request _) _ => .ok (.refuse .unavailable unavailableText)
  | .value .badValue _ => .ok (.refuse .invalidResponse unreadableText)
  | .archive .malformedCredentials _ => .ok (.refuse .invalidResponse unreadableText)
  | fault => .error fault

end Rate
end ReviewDesk
