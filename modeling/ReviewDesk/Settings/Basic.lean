import ReviewDesk.Archive.Folder
import ReviewDesk.Exchange.Office
import ReviewDesk.Polish.Polisher

/-!
# Settings

Everything that an installation can choose, with the values it has by default.
-/

namespace ReviewDesk

structure Settings where
  apiHost : String := "0.0.0.0"
  apiPort : Int := 8000
  debug : Bool := false
  corsOrigins : List (List Text.Mark) :=
    ["http://localhost:5173", "http://localhost:3000", "http://127.0.0.1:5173",
      "http://127.0.0.1:3000"].map Text.marks
  openaiApiKey : String := ""
  openaiBaseUrl : String := "https://api.openai.com/v1"
  openaiModel : String := "gpt-4o-mini"
  openaiTemperature : Binary64 := .nearest false 7 10
  openaiTimeout : Binary64 := .nearest false 60 1
  exchangeRateApiKey : String := ""
  exchangeRateApiUrl : String := "https://v6.exchangerate-api.com/v6/\x7bapi_key\x7d/latest/\x7bbase\x7d"
  sourceCurrency : String := "USD"
  targetCurrency : String := "KRW"
  exchangeRateTimeout : Binary64 := .nearest false 10 1
  exchangeRateCacheTtl : Int := 3600
  googleDriveCredentialsPath : String := ""
  googleDriveParentFolderId : String := ""
  googleDriveTimeout : Binary64 := .nearest false 30 1
  databaseUrl : String := "sqlite:///./data/book_review.db"
  logLevel : String := "INFO"

namespace Settings

/-!
# The integrations that they describe
-/

def polisher (s : Settings) : Polisher :=
  ⟨!s.openaiApiKey.isEmpty, s.openaiModel⟩

def office (s : Settings) : Office :=
  .make s.exchangeRateApiKey s.exchangeRateApiUrl s.sourceCurrency s.targetCurrency
    s.exchangeRateCacheTtl

def archive (s : Settings) (trial : Except Fault Unit) : Archive :=
  ⟨s.googleDriveParentFolderId, s.googleDriveTimeout,
    if s.googleDriveCredentialsPath.isEmpty then .absent else .credentials trial⟩

end Settings
end ReviewDesk
