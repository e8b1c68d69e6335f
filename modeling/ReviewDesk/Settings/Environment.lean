import ReviewDesk.FieldFault
import ReviewDesk.Named
import ReviewDesk.Settings.Basic
import ReviewDesk.Settings.Values

/-!
# Settings from the environment

The environment gives texts to names.  Names are compared ignoring case, names that
mean nothing here are passed over, and an empty text is still a value.  All values
are checked, so that every wrong one is reported at once; only a list that is not
JSON is reported alone.
-/

namespace ReviewDesk

inductive SettingsFailure where
  | unreadableList
  | deepList
  | invalid (faults : List FieldFault)
  deriving DecidableEq

def SettingsFailure.message : SettingsFailure → String
  | unreadableList => "cors_origins: not readable"
  | deepList => "cors_origins: lists in lists without end"
  | invalid faults => String.intercalate "\n" (faults.map FieldFault.message)

abbrev Environment := List (String × String)

namespace Environment

open Text

/-- The text of a name: the last one given counts. -/
def value? (env : Environment) (name : String) : Option String :=
  (env.reverse.find? fun (other, _) => fold other == name).map (·.2)

def credentialNames : List String :=
  ["OPENAI_API_KEY", "EXCHANGE_RATE_API_KEY", "GOOGLE_DRIVE_CREDENTIALS_PATH"]

def withoutCredentials (env : Environment) : Environment :=
  credentialNames.foldl (fun env name => Named.put name "" env) env

end Environment

namespace Settings

open Text

def names : List String :=
  ["api_host", "api_port", "debug", "cors_origins", "openai_api_key", "openai_base_url",
    "openai_api_url", "openai_model", "openai_temperature", "openai_timeout",
    "exchange_rate_api_key", "exchange_rate_api_url", "source_currency", "target_currency",
    "exchange_rate_timeout", "exchange_rate_cache_ttl", "google_drive_credentials_path",
    "google_drive_parent_folder_id", "google_drive_timeout", "database_url", "log_level"]

variable {α : Type}

def check (env : Environment) (name : String) (read : String → Except Expected α)
    (default : α) : Checked α :=
  match env.value? name with
  | none => ⟨default, []⟩
  | some s =>
      match read s with
      | .ok v => ⟨v, []⟩
      | .error kind => ⟨default, [⟨name, kind⟩]⟩

/-!
# Lists of texts
-/

def itemFaults (name : String) : Nat → List Json → List FieldFault
  | _, [] => []
  | i, v :: rest =>
      if v.isString then itemFaults name (i + 1) rest
      else ⟨s!"{name}.{i}", .text⟩ :: itemFaults name (i + 1) rest

def checkList (name : String) (default : List (List Mark)) : Json → Checked (List (List Mark))
  | .null => ⟨default, []⟩
  | .array items => ⟨items.filterMap Json.marks?, itemFaults name 0 items⟩
  | _ => ⟨default, [⟨name, .list⟩]⟩

/-- Thirty calls lead from the first use of the settings to the list. -/
def listDepth : Nat := Json.roomAfter 30

def listFrom (env : Environment) (name : String) (default : List (List Mark)) :
    Except SettingsFailure (Checked (List (List Mark))) :=
  match env.value? name with
  | none => .ok ⟨default, []⟩
  | some s =>
      match Json.read s listDepth with
      | .ok v => .ok (checkList name default v)
      | .error .tooDeep => .error .deepList
      | .error _ => .error .unreadableList

/-!
# All settings
-/

def ofEnvironment (env : Environment) : Except SettingsFailure Settings := do
  let d : Settings := {}
  let origins ← listFrom env "cors_origins" d.corsOrigins
  let text (name default : String) : String := (env.value? name).getD default
  let port := check env "api_port" SettingValue.integer d.apiPort
  let debug := check env "debug" SettingValue.truth d.debug
  let temperature :=
    check env "openai_temperature" SettingValue.binary d.openaiTemperature
  let modelTimeout := check env "openai_timeout" SettingValue.binary d.openaiTimeout
  let rateTimeout :=
    check env "exchange_rate_timeout" SettingValue.binary d.exchangeRateTimeout
  let lifetime :=
    check env "exchange_rate_cache_ttl" SettingValue.integer d.exchangeRateCacheTtl
  let archiveTimeout :=
    check env "google_drive_timeout" SettingValue.binary d.googleDriveTimeout
  let faults :=
    port.faults ++ debug.faults ++ origins.faults ++ temperature.faults ++
      modelTimeout.faults ++ rateTimeout.faults ++ lifetime.faults ++ archiveTimeout.faults
  if !faults.isEmpty then .error (.invalid faults)
  return {
    apiHost := text "api_host" d.apiHost
    apiPort := port.value
    debug := debug.value
    corsOrigins := origins.value
    openaiApiKey := text "openai_api_key" d.openaiApiKey
    openaiBaseUrl := text "openai_base_url" (text "openai_api_url" d.openaiBaseUrl)
    openaiModel := text "openai_model" d.openaiModel
    openaiTemperature := temperature.value
    openaiTimeout := modelTimeout.value
    exchangeRateApiKey := text "exchange_rate_api_key" d.exchangeRateApiKey
    exchangeRateApiUrl := text "exchange_rate_api_url" d.exchangeRateApiUrl
    sourceCurrency := text "source_currency" d.sourceCurrency
    targetCurrency := text "target_currency" d.targetCurrency
    exchangeRateTimeout := rateTimeout.value
    exchangeRateCacheTtl := lifetime.value
    googleDriveCredentialsPath :=
      text "google_drive_credentials_path" d.googleDriveCredentialsPath
    googleDriveParentFolderId :=
      text "google_drive_parent_folder_id" d.googleDriveParentFolderId
    googleDriveTimeout := archiveTimeout.value
    databaseUrl := text "database_url" d.databaseUrl
    logLevel := text "log_level" d.logLevel }

end Settings
end ReviewDesk
