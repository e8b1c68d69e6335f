import ReviewDesk.FieldFault
import ReviewDesk.Json.Basic
import ReviewDesk.Status.Basic

/-!
# Statuses from fields

The status of a review can be given as a record of named fields: three statuses by
their names, which are required, and a warning, which is not.
-/

namespace ReviewDesk
namespace IntegrationStatus

def checkStatus (fields : List (String × Json)) (name : String) : Checked StepStatus :=
  match fields.lookup name with
  | none => ⟨.skipped, [⟨name, .present⟩]⟩
  | some (.string s) =>
      match StepStatus.ofName? s with
      | some status => ⟨status, []⟩
      | none => ⟨.skipped, [⟨name, .choice⟩]⟩
  | some _ => ⟨.skipped, [⟨name, .choice⟩]⟩

def checkWarning (fields : List (String × Json)) (name : String) : Checked (Option String) :=
  match fields.lookup name with
  | none => ⟨none, []⟩
  | some .null => ⟨none, []⟩
  | some (.string s) => ⟨some s, []⟩
  | some _ => ⟨none, [⟨name, .text⟩]⟩

def ofFields (fields : List (String × Json)) : Except (List FieldFault) IntegrationStatus :=
  let polish := checkStatus fields "openai_status"
  let cost := checkStatus fields "currency_status"
  let archive := checkStatus fields "drive_status"
  let warning := checkWarning fields "warning_message"
  let faults := polish.faults ++ cost.faults ++ archive.faults ++ warning.faults
  if faults.isEmpty then .ok (make polish.value cost.value archive.value warning.value)
  else .error faults

end IntegrationStatus
end ReviewDesk
