import ReviewDesk.Archive.FileName
import ReviewDesk.Request

/-!
# The file archive

Polished reviews are uploaded as Markdown files.  The connection to the archive is
made once, before the first request; when that fails, the next request tries again.
Answers are read from JSON, so that the log can write every id that is in one.
-/

namespace ReviewDesk

/-- How the archive can be reached: not at all, with credentials that have still to
be tried, or through a connection that was made. -/
inductive Access where
  | absent
  | credentials (trial : Except Fault Unit)
  | connected

structure Archive where
  folder : String
  timeout : Binary64
  access : Access

namespace Archive

def mimeType : String := "text/markdown"

def answerField : String := "id"

def notConfigured : String := "Google Drive 凭据未配置"
def emptyId : String := "Drive 返回的文件ID为空"

def configured (a : Archive) : Bool :=
  match a.access with
  | .absent => false
  | _ => true

/-!
# Reasons
-/

def reason? : Fault → Option FailureReason
  | .archive (.status code) _ => some (.ofStatusCode code)
  | .archive .refresh _ => some .unauthorized
  | .archive .malformedCredentials _ => some .unauthorized
  | .archive _ _ => some .unavailable
  | .system .timeout _ => some .timeout
  | .system .fileNotFound _ => some .unauthorized
  | .system _ _ => some .unavailable
  | .value .badValue _ => some .unauthorized
  | _ => none

variable {α : Type}

def ofFault (fault : Fault) : Except Fault (Outcome α) :=
  match reason? fault with
  | some reason => .ok (.refuse reason fault.message)
  | none => .error fault

/-!
# Connecting
-/

def connect (a : Archive) : Except Fault (Archive × List Request) :=
  match a.access with
  | .credentials (.error fault) => .error fault
  | .credentials (.ok ()) => .ok ({ a with access := .connected }, [.connect a.timeout])
  | _ => .ok (a, [])

/-- One request through the connection.  A fault met while connecting is read as if it
were the answer to the request. -/
def send {β : Type} (a : Archive) (request : Request)
    (read : Except Fault β → Except Fault (Outcome α)) (answer : Except Fault β) :
    Archive × Answered α :=
  if a.configured then
    match a.connect with
    | .error fault => (a, ⟨[], read (.error fault)⟩)
    | .ok (a, connecting) => (a, ⟨connecting ++ [request], read answer⟩)
  else (a, .atOnce (.refuse .notConfigured notConfigured))

/-!
# Uploading
-/

def markdown (title content : String) : String :=
  "# " ++ title ++ "\n\n" ++ content ++ "\n"

def fileFor (a : Archive) (title text : String) : ArchiveFile :=
  ⟨FileName.ofTitle title, a.folder, text⟩

def acceptId (id : Json) : Outcome Json :=
  if id.isAbsent then .refuse .invalidResponse emptyId else .success id

def idOf (response : Json) : Except Fault (Outcome Json) :=
  if response.isAbsent then .ok (acceptId .null)
  else
    match response with
    | .object members => .ok (acceptId ((members.lookup answerField).getD .null))
    | _ => .error (.noSuchAttribute "an answer without members")

def uploadResult : Except Fault Json → Except Fault (Outcome Json)
  | .ok response => idOf response
  | .error fault => ofFault fault

def upload (a : Archive) (answer : Except Fault Json) (title text : String) :
    Archive × Answered Json :=
  a.send (.upload (a.fileFor title text)) uploadResult answer

def unwritableText : String := "half of a pair that stands alone"

/-- Uploads a review as a file.  No file can hold half a pair, which shows before a
connection is made. -/
def uploadReview (a : Archive) (answer : Except Fault Json) (title content : List Text.Mark) :
    Archive × Answered Json :=
  match Text.text? title, Text.text? content with
  | some title, some content => a.upload answer title (markdown title content)
  | _, _ =>
      if a.configured then (a, ⟨[], .error (.badValue unwritableText)⟩)
      else (a, .atOnce (.refuse .notConfigured notConfigured))

/-!
# Removing
-/

def removeResult : Except Fault Unit → Except Fault (Outcome Unit)
  | .ok () => .ok (.success ())
  | .error (.archive (.status 404) _) => .ok (.success ())
  | .error fault => ofFault fault

def remove (a : Archive) (answer : Except Fault Unit) (id : Json) : Archive × Answered Unit :=
  a.send (.remove id) removeResult answer

end Archive
end ReviewDesk
