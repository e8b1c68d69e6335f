import ReviewDesk.Proofs.Archive.Folder

/-!
# Runs of errands

Calls come to one archive one after the other, and each has its own luck in connecting.
Until an attempt to connect works out nothing is asked for; that attempt is the only one
that makes a connection, and from its call on every call is one request.  A fault is given
the same reason whichever call meets it and wherever, except that a file which is missing
counts as removed.
-/

namespace ReviewDesk

/-!
# Families of faults

Malformed credentials are in two families, and a timeout and a missing file of credentials
are faults of the system.
-/

inductive FaultFamily where
  | refusal
  | authorization
  | protocol
  | system
  | value

inductive Fault.Belongs : Fault → FaultFamily → Prop where
  | refusal (code : Int) (text : String) : Belongs (.archive (.status code) text) .refusal
  | authorization (text : String) : Belongs (.archive .authorization text) .authorization
  | refresh (text : String) : Belongs (.archive .refresh text) .authorization
  | transport (text : String) : Belongs (.archive .transport text) .authorization
  | defaults (text : String) : Belongs (.archive .defaultCredentials text) .authorization
  | malformed (text : String) : Belongs (.archive .malformedCredentials text) .authorization
  | malformedValue (text : String) : Belongs (.archive .malformedCredentials text) .value
  | protocol (text : String) : Belongs (.archive .protocol text) .protocol
  | unknownServer (text : String) : Belongs (.archive .serverNotFound text) .protocol
  | system (kind : SystemFault) (text : String) : Belongs (.system kind text) .system
  | value (text : String) : Belongs (.value .badValue text) .value

def Fault.IsMissing (fault : Fault) : Prop :=
  ∃ text, fault = .archive (.status 404) text

namespace Archive

variable {fault : Fault} {a : Archive}

theorem reason?_of_not_belongs (h : ∀ family, ¬ fault.Belongs family) : reason? fault = none := by
  cases fault with
  | model kind text => rfl
  | transfer kind text => rfl
  | decimal trap => rfl
  | system kind text => exact absurd (.system kind text) (h .system)
  | value kind text =>
      cases kind with
      | badValue => exact absurd (.value text) (h .value)
      | _ => rfl
  | archive kind text =>
      cases kind with
      | status code => exact absurd (.refusal code text) (h .refusal)
      | authorization => exact absurd (.authorization text) (h .authorization)
      | refresh => exact absurd (.refresh text) (h .authorization)
      | transport => exact absurd (.transport text) (h .authorization)
      | defaultCredentials => exact absurd (.defaults text) (h .authorization)
      | malformedCredentials => exact absurd (.malformed text) (h .authorization)
      | protocol => exact absurd (.protocol text) (h .protocol)
      | serverNotFound => exact absurd (.unknownServer text) (h .protocol)

theorem reason?_of_isMissing (h : fault.IsMissing) : reason? fault = some .invalidResponse := by
  rcases h with ⟨text, rfl⟩
  rfl

theorem removeResult_of_not_isMissing (h : ¬ fault.IsMissing) :
    removeResult (.error fault) = ofFault fault := by
  unfold removeResult
  split
  · contradiction
  · rename_i text hsame
    cases hsame
    exact absurd ⟨text, rfl⟩ h
  · rename_i hsame
    cases hsame
    rfl

/-!
# Calls

A call comes with what the service answers if it is asked.  It is for one request, and it
makes its reply of the answer, or of the fault that keeps it from being asked.
-/

inductive Call where
  | upload (title text : String) (answer : Except Fault Json)
  | remove (id : Json) (answer : Except Fault Unit)

inductive Reply where
  | uploaded (result : Except Fault (Outcome Json))
  | removed (result : Except Fault (Outcome Unit))

namespace Call

def request (folder : String) : Call → Request
  | upload title text _ => .upload ⟨FileName.ofTitle title, folder, text⟩
  | remove id _ => .remove id

def fault? : Call → Option Fault
  | upload _ _ (.error fault) => some fault
  | remove _ (.error fault) => some fault
  | _ => none

def refusal (reason : FailureReason) (detail : String) : Call → Reply
  | upload _ _ _ => .uploaded (.ok (.refuse reason detail))
  | remove _ _ => .removed (.ok (.refuse reason detail))

def breaksOff (fault : Fault) : Call → Reply
  | upload _ _ _ => .uploaded (.error fault)
  | remove _ _ => .removed (.error fault)

def IsRemoval (call : Call) : Prop :=
  ∃ id answer, call = remove id answer

def reply : Call → Reply
  | upload _ _ answer => .uploaded (uploadResult answer)
  | remove _ answer => .removed (removeResult answer)

def replyTo (fault : Fault) : Call → Reply
  | upload _ _ _ => .uploaded (uploadResult (.error fault))
  | remove _ _ => .removed (removeResult (.error fault))

theorem reply_of_fault {call : Call} (h : call.fault? = some fault) :
    call.reply = call.replyTo fault := by
  cases call with
  | upload title text answer =>
      cases answer with
      | ok response => cases h
      | error met =>
          cases h
          rfl
  | remove id answer =>
      cases answer with
      | ok response => cases h
      | error met =>
          cases h
          rfl

theorem replyTo_of_no_reason (h : reason? fault = none) (call : Call) :
    call.replyTo fault = call.breaksOff fault := by
  cases call with
  | upload title text answer => simp [replyTo, breaksOff, uploadResult, ofFault, h]
  | remove id answer =>
      have hthere : ¬ fault.IsMissing := by
        intro hmissing
        rw [reason?_of_isMissing hmissing] at h
        cases h
      simp [replyTo, breaksOff, removeResult_of_not_isMissing hthere, ofFault, h]

theorem replyTo_of_isMissing {call : Call} (h : call.IsRemoval) (hmissing : fault.IsMissing) :
    call.replyTo fault = .removed (.ok (.success ())) := by
  rcases h with ⟨id, answer, rfl⟩
  rcases hmissing with ⟨text, rfl⟩
  rfl

end Call

def perform (a : Archive) : Call → Archive × List Request × Reply
  | .upload title text answer =>
      let done := a.upload answer title text
      (done.1, done.2.requests, .uploaded done.2.result)
  | .remove id answer =>
      let done := a.remove answer id
      (done.1, done.2.requests, .removed done.2.result)

theorem perform_of_absent (h : a.access = .absent) (call : Call) :
    a.perform call = (a, [], call.refusal .notConfigured notConfigured) := by
  cases call with
  | upload title text answer => simp [perform, upload, send_of_absent h, Call.refusal]
  | remove id answer => simp [perform, remove, send_of_absent h, Call.refusal]

theorem perform_of_refused (h : a.access = .credentials (.error fault)) (call : Call) :
    a.perform call = (a, [], call.replyTo fault) := by
  cases call with
  | upload title text answer => simp [perform, upload, send_of_refused h, Call.replyTo]
  | remove id answer => simp [perform, remove, send_of_refused h, Call.replyTo]

theorem perform_of_reachable (h : a.Reachable) (call : Call) :
    a.perform call =
      (a.connected, (a.connecting?.map .connect).toList ++ [call.request a.folder],
        call.reply) := by
  cases call with
  | upload title text answer =>
      have hupload := upload_of_reachable h answer title text
      simp [perform, hupload, Call.request, Call.reply, fileFor]
  | remove id answer =>
      have hremove : a.remove answer id = _ := send_of_reachable h (.remove id) removeResult answer
      simp [perform, hremove, Call.request, Call.reply]

/-!
# Uploaded files
-/

theorem acceptId_eq_success_iff (v id : Json) :
    acceptId v = .success id ↔ v = id ∧ v.isAbsent = false := by
  cases hv : v.isAbsent with
  | true => simp [acceptId, hv, Outcome.refuse]
  | false => simp [acceptId, hv]

theorem idOf_eq_success_iff (response id : Json) :
    idOf response = .ok (.success id) ↔
      ∃ members, response = .object members ∧ members.lookup answerField = some id ∧
        id.isAbsent = false := by
  cases habsent : response.isAbsent with
  | true =>
      have hnone : idOf response = .ok (.refuse .invalidResponse emptyId) := by
        unfold idOf
        rw [if_pos habsent]
        rfl
      constructor
      · intro h
        rw [hnone] at h
        cases h
      · intro h
        rcases h with ⟨members, rfl, hid, _⟩
        have hempty : members = [] := List.isEmpty_iff.mp habsent
        rw [hempty] at hid
        cases hid
  | false =>
      cases response with
      | object members =>
          simp only [idOf, habsent, Bool.false_eq_true, if_false, Except.ok.injEq,
            acceptId_eq_success_iff, Json.object.injEq, exists_eq_left']
          cases members.lookup answerField with
          | none => simp [Json.isAbsent]
          | some found =>
              rw [Option.getD_some, Option.some.injEq]
              apply and_congr_right
              intro hsame
              rw [hsame]
      | _ => simp [idOf, habsent]

theorem perform_upload_iff (a : Archive) (title text : String) (answer : Except Fault Json)
    (id : Json) :
    (a.perform (.upload title text answer)).2.2 = .uploaded (.ok (.success id)) ↔
      a.Reachable ∧ ∃ members, answer = .ok (.object members) ∧
        members.lookup answerField = some id ∧ id.isAbsent = false := by
  have hresult := upload_outcome_value? (a := a) answer title text id
  rw [Outcome.value?_eq_some_iff, Answered.outcome, Outcome.ofAttempt_eq_success_iff] at hresult
  rw [perform, Reply.uploaded.injEq, hresult]
  apply and_congr_right
  intro _
  cases answer with
  | error fault => simp [uploadResult, ofFault_ne_success]
  | ok response => simpa [uploadResult] using idOf_eq_success_iff response id

/-!
# Errands

An errand is a call, and how an attempt to connect ends when the call comes.  A run of
errands leads to an archive, to requests and to replies.
-/

structure Errand where
  trial : Except Fault Unit
  call : Call

def facing (a : Archive) (trial : Except Fault Unit) : Archive :=
  match a.access with
  | .credentials _ => { a with access := .credentials trial }
  | _ => a

def run : Archive → List Errand → Archive × List Request × List Reply
  | a, [] => (a, [], [])
  | a, e :: rest =>
      let served := (a.facing e.trial).perform e.call
      let later := run served.1 rest
      (later.1, served.2.1 ++ later.2.1, served.2.2 :: later.2.2)

def Errand.reply (e : Errand) : Reply :=
  match e.trial with
  | .ok () => e.call.reply
  | .error fault => e.call.replyTo fault

variable {errands : List Errand} {made trial : Except Fault Unit}

def Meets (a : Archive) (call : Call) (fault : Fault) : Prop :=
  a.access = .credentials (.error fault) ∨ a.Reachable ∧ call.fault? = some fault

theorem perform_of_meets {call : Call} (h : a.Meets call fault) :
    (a.perform call).2.2 = call.replyTo fault := by
  rcases h with hrefused | ⟨hreachable, hfault⟩
  · rw [perform_of_refused hrefused]
  · rw [perform_of_reachable hreachable, Call.reply_of_fault hfault]

structure Replies (a : Archive) (call : Call) : Prop where
  absent : a.access = .absent →
    a.perform call = (a, [], call.refusal .notConfigured notConfigured)
  unreached : ∀ fault, a.access = .credentials (.error fault) →
    a.perform call = (a, [], call.replyTo fault)
  once : a.Reachable → a.perform call =
    (a.connected, (a.connecting?.map .connect).toList ++ [call.request a.folder], call.reply)
  uploaded : ∀ title text answer id, call = .upload title text answer →
    ((a.perform call).2.2 = .uploaded (.ok (.success id)) ↔
      a.Reachable ∧ ∃ members, answer = .ok (.object members) ∧
        members.lookup answerField = some id ∧ id.isAbsent = false)
  missing : ∀ fault, a.Meets call fault → fault.IsMissing → call.IsRemoval →
    (a.perform call).2.2 = .removed (.ok (.success ()))
  unexpected : ∀ fault, a.Meets call fault → (∀ family, ¬ fault.Belongs family) →
    (a.perform call).2.2 = call.breaksOff fault

theorem replies (a : Archive) (call : Call) : a.Replies call where
  absent h := perform_of_absent h call
  unreached fault h := perform_of_refused h call
  once h := perform_of_reachable h call
  uploaded title text answer id hcall := by
    rw [hcall]
    exact perform_upload_iff a title text answer id
  missing fault hmeets hmissing hremoval := by
    rw [perform_of_meets hmeets, Call.replyTo_of_isMissing hremoval hmissing]
  unexpected fault hmeets hfamilies := by
    rw [perform_of_meets hmeets, Call.replyTo_of_no_reason (reason?_of_not_belongs hfamilies)]

end Archive
end ReviewDesk
