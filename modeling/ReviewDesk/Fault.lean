import ReviewDesk.Decimal.Basic
import ReviewDesk.Outcome
import ReviewDesk.Text.Blank

/-!
# Faults

A fault is what breaks off a request: the chat model's service, the transfer of a
response, the file archive or the operating system reports one, and so does the
program itself when a value is not of the kind it needs.
-/

namespace ReviewDesk

/-!
# The families
-/

inductive Refusal where
  | badRequest
  | authentication
  | permissionDenied
  | notFound
  | conflict
  | unprocessable
  | rateLimit
  | internal
  | other
  deriving DecidableEq

inductive ModelFault where
  | general
  | api
  | connection
  | timeout
  | status (refusal : Refusal) (status : Int) (code : Option String)
  deriving DecidableEq

inductive TimeoutKind where
  | any
  | connect
  | read
  | write
  | pool
  deriving DecidableEq

inductive TransferKind where
  | request
  | connect
  | read
  | write
  | close
  | network
  | proxy
  | unsupportedProtocol
  | protocol
  | localProtocol
  | remoteProtocol
  | decoding
  | tooManyRedirects
  deriving DecidableEq

inductive TransferFault where
  | timeout (kind : TimeoutKind)
  | request (kind : TransferKind)
  | badAddress
  | stream
  deriving DecidableEq

inductive ArchiveFault where
  | status (code : Int)
  | authorization
  | refresh
  | transport
  | defaultCredentials
  | malformedCredentials
  | protocol
  | serverNotFound
  deriving DecidableEq

inductive SystemFault where
  | general
  | timeout
  | connection
  | connectionReset
  | brokenPipe
  | fileNotFound
  | permission
  | fileExists
  | interrupted
  deriving DecidableEq

inductive ValueFault where
  | badValue
  | wrongKind
  | noSuchAttribute
  | missingKey
  | missingIndex
  | overflow
  | memory
  | depth
  | runtime
  deriving DecidableEq

inductive Fault where
  | model (kind : ModelFault) (text : String)
  | transfer (kind : TransferFault) (text : String)
  | archive (kind : ArchiveFault) (text : String)
  | system (kind : SystemFault) (text : String)
  | value (kind : ValueFault) (text : String)
  | decimal (trap : Decimal.Trap)
  deriving DecidableEq

namespace Fault

/-!
# What a fault says
-/

def archiveStatusText (code : Int) (said : String) : String :=
  if said.isEmpty then s!"<HttpError {code} \"\">"
  else
    s!"<HttpError {code} when requesting None returned \"{Text.trimmed said}\". Details: \"{said}\">"

def message : Fault → String
  | model .timeout _ => "Request timed out."
  | archive (.status code) text => archiveStatusText code text
  | model _ text => text
  | transfer _ text => text
  | archive _ text => text
  | system _ text => text
  | value _ text => text
  | decimal .invalid => "[<class 'decimal.InvalidOperation'>]"
  | decimal .overflow => "[<class 'decimal.Overflow'>]"

def badValue (text : String) : Fault := value .badValue text
def wrongKind (text : String) : Fault := value .wrongKind text
def noSuchAttribute (text : String) : Fault := value .noSuchAttribute text
def overflow (text : String) : Fault := value .overflow text

end Fault

/-!
# Steps that go on

A step of a pipeline that breaks off counts as a service that is not available.
-/

variable {α : Type}

def Outcome.ofAttempt : Except Fault (Outcome α) → Outcome α
  | .ok outcome => outcome
  | .error fault => .failure .unavailable (.string fault.message)

end ReviewDesk
