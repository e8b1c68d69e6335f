import ReviewDesk.Address
import ReviewDesk.Fault
import ReviewDesk.Text.Template

/-!
# Where a rate is asked for

The address of the rate service is a template with places for the key and the base
currency.
-/

namespace ReviewDesk

open Text

/-- The address that is asked, and whether anybody is there: an address without a host is
asked of nobody in particular, and a host that nobody could look up is not asked. -/
inductive Inquiry where
  | host (address : String)
  | nobody (address : String)
  | unreachable
  deriving DecidableEq

namespace Inquiry

def templateFault : TemplateFault → Fault
  | .unknownName name => .value .missingKey name
  | .noPosition => .value .missingIndex "a place without a name"
  | .noPart => .noSuchAttribute "a part that a value does not have"
  | .wrongKind => .wrongKind "a key or a layout for a value that takes none"
  | .malformed => .badValue "a place that is not well formed"
  | .tooWide => .value .memory "a place that is too wide"

def ofAddress (a : Address) : Except AddressFault Inquiry := do
  if a.isFull then
    return if Address.isReachable a.host then host a.text else unreachable
  else return nobody (← Address.nowhere.below a).text

def make (template key base : String) : Except Fault Inquiry := do
  let text ← (Template.fill [("api_key", key), ("base", base)] template).mapError templateFault
  ((Address.read text).bind ofAddress).mapError fun fault =>
    .transfer .badAddress fault.message

end Inquiry
end ReviewDesk
