import ReviewDesk.Polish.Prompt
import ReviewDesk.Polish.Reply
import ReviewDesk.Request

/-!
# Polishing a review

One request to the chat model, without repetition.  Faults of the model's service
are failures with a reason; any other fault breaks off the step.
-/

namespace ReviewDesk

namespace ModelFault

def reason : ModelFault → FailureReason
  | timeout => .timeout
  | connection => .unavailable
  | status .rateLimit _ code =>
      if code = some "insufficient_quota" then .insufficientQuota else .rateLimited
  | status .authentication _ _ => .unauthorized
  | status .permissionDenied _ _ => .unauthorized
  | status _ code _ => if 500 ≤ code then .unavailable else .invalidResponse
  | general => .invalidResponse
  | api => .invalidResponse

end ModelFault

def Fault.modelReason : Fault → FailureReason
  | .model kind _ => kind.reason
  | _ => .invalidResponse

structure Polisher where
  configured : Bool
  model : String
  deriving DecidableEq

namespace Polisher

def notConfigured : String := "OpenAI API Key 未配置"

def improve (p : Polisher) (answer : Except Fault ModelReply)
    (title content : List Text.Mark) : Answered Polished :=
  if p.configured then
    { requests := [.polish (Prompt.human title content)]
      result :=
        match answer with
        | .ok reply => reply.read p.model
        | .error (.model kind text) =>
            .ok (.refuse kind.reason (Fault.message (.model kind text)))
        | .error fault => .error fault }
  else .atOnce (.refuse .notConfigured notConfigured)

end Polisher
end ReviewDesk
