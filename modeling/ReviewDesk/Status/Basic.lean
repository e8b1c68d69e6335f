import ReviewDesk.Outcome
import ReviewDesk.Text.Blank

/-!
# Status of the integrations

A review is created in three steps that may each succeed, fail or be skipped.  The
statuses of the three steps and the warnings about them are kept with the review.
-/

namespace ReviewDesk

open Text

inductive StepStatus where
  | success
  | failed
  | skipped
  deriving DecidableEq

namespace StepStatus

def name : StepStatus → String
  | success => "SUCCESS"
  | failed => "FAILED"
  | skipped => "SKIPPED"

def all : List StepStatus := [success, failed, skipped]

def ofName? (s : String) : Option StepStatus :=
  all.find? (·.name == s)

variable {α : Type}

def ofOutcome : Outcome α → StepStatus
  | .success _ => success
  | .failure .notConfigured _ => skipped
  | .failure _ _ => failed

end StepStatus

namespace FailureReason

def name : FailureReason → String
  | notConfigured => "NOT_CONFIGURED"
  | timeout => "TIMEOUT"
  | unavailable => "UNAVAILABLE"
  | rateLimited => "RATE_LIMITED"
  | insufficientQuota => "INSUFFICIENT_QUOTA"
  | unauthorized => "UNAUTHORIZED"
  | invalidResponse => "INVALID_RESPONSE"

def all : List FailureReason :=
  [notConfigured, timeout, unavailable, rateLimited, insufficientQuota, unauthorized,
    invalidResponse]

def ofName? (s : String) : Option FailureReason :=
  all.find? (·.name == s)

def wording : FailureReason → String
  | timeout => "请求超时"
  | unavailable => "服务暂不可用"
  | rateLimited => "请求过于频繁，请降低调用频率"
  | insufficientQuota => "额度不足，请检查账户余额"
  | unauthorized => "凭据无效，请检查配置"
  | invalidResponse => "响应无法解析"
  | notConfigured => notConfigured.name

end FailureReason

/-!
# Warnings
-/

inductive Step where
  | polish
  | cost
  | archive
  deriving DecidableEq

namespace Step

def title : Step → String
  | polish => "AI 润色"
  | cost => "费用估算/汇率换算"
  | archive => "Google Drive 归档"

end Step

/-- How a step ended, as far as a warning tells: not called, called with success, or
ended for a reason. -/
inductive Ending where
  | notCalled
  | succeeded
  | ended (reason : FailureReason)
  deriving DecidableEq

namespace Ending

variable {α : Type}

def ofOutcome : Outcome α → Ending
  | .success _ => succeeded
  | .failure reason _ => ended reason

end Ending

inductive WarningFault where
  | noReason
  deriving DecidableEq

namespace Warning

def notConfigured (title : String) : String :=
  title ++ "：未配置，已跳过。"

def notPolished (title : String) : String :=
  title ++ "：AI 润色未完成，已跳过。"

def failed (title : String) (reason : FailureReason) : String :=
  title ++ "：调用失败（" ++ reason.wording ++ "）。"

/-- The warning about a step, if there is something to warn of.  Only a step that
failed has to name a reason, and a step that succeeded has none to name. -/
def ofStep (title : String) (status : StepStatus) (ending : Ending) :
    Except WarningFault (Option String) :=
  match status, ending with
  | .success, _ => .ok none
  | .skipped, .ended .notConfigured => .ok (some (notConfigured title))
  | .skipped, _ => .ok (some (notPolished title))
  | .failed, .notCalled => .ok (some (failed title .unavailable))
  | .failed, .ended reason => .ok (some (failed title reason))
  | .failed, .succeeded => .error .noReason

end Warning

/-!
# The status of a review
-/

structure IntegrationStatus where
  polish : StepStatus
  cost : StepStatus
  archive : StepStatus
  warning : Option String
  deriving DecidableEq

namespace IntegrationStatus

def maxWarningLength : Nat := 500

/-- A blank warning is no warning, and a long one is cut. -/
def normalWarning (warning : Option String) : Option String :=
  match warning with
  | none => none
  | some w => if isBlankText w then none else some (String.ofList (w.toList.take maxWarningLength))

def make (polish cost archive : StepStatus) (warning : Option String) : IntegrationStatus :=
  ⟨polish, cost, archive, normalWarning warning⟩

def renewed (s : IntegrationStatus) : IntegrationStatus :=
  make s.polish s.cost s.archive s.warning

def allSucceeded (s : IntegrationStatus) : Bool :=
  s.polish == .success && s.cost == .success && s.archive == .success

end IntegrationStatus

end ReviewDesk
