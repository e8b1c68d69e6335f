import ReviewDesk.Proofs.Outcome
import ReviewDesk.Settings.Environment

/-!
# Credentials that are left out

A name may be spelled in several ways in one environment, and the last spelling counts.
Emptying the text of a name therefore empties the setting, as long as no other spelling
stands behind that name.
-/

namespace ReviewDesk

namespace Environment

open Text

variable {env : Environment} {name other text : String}

/-- No other spelling of the name stands behind it. -/
def IsLastSpelling (env : Environment) (name : String) : Prop :=
  ∀ before text after, env = before ++ (name, text) :: after → ∀ q ∈ after, fold q.1 ≠ fold name

theorem IsLastSpelling.of_cons {first : String × String}
    (h : IsLastSpelling (first :: env) name) : env.IsLastSpelling name := by
  intro before text after henv
  exact h (first :: before) text after (by rw [henv, List.cons_append])

theorem value?_cons (spelled text name : String) (env : Environment) :
    value? ((spelled, text) :: env) name =
      (env.value? name).or (if fold spelled = name then some text else none) := by
  unfold value?
  rw [List.reverse_cons, List.find?_append]
  cases env.reverse.find? (fun q => fold q.1 == name) with
  | some found => rfl
  | none =>
      by_cases hspelled : fold spelled = name
      · simp [hspelled]
      · simp [hspelled]

theorem value?_eq_none (h : ∀ q ∈ env, fold q.1 ≠ name) : env.value? name = none := by
  have hnone : env.reverse.find? (fun q => fold q.1 == name) = none := by
    rw [List.find?_eq_none]
    intro q hq
    simpa using h q (List.mem_reverse.mp hq)
  exact congrArg (Option.map (·.2)) hnone

theorem value?_put_of_ne (h : fold name ≠ other) (text : String) (env : Environment) :
    value? (Named.put name text env) other = env.value? other := by
  induction env with
  | nil => simp [Named.put, value?, h]
  | cons first rest ih =>
      rcases first with ⟨spelled, old⟩
      by_cases hsame : spelled = name
      · rw [Named.put, if_pos hsame, value?_cons, value?_cons, hsame, if_neg h, if_neg h]
      · rw [Named.put, if_neg hsame, value?_cons, value?_cons, ih]

theorem value?_put_self (h : env.IsLastSpelling name) (text : String) :
    value? (Named.put name text env) (fold name) = some text := by
  induction env with
  | nil => simp [Named.put, value?]
  | cons first rest ih =>
      rcases first with ⟨spelled, old⟩
      by_cases hsame : spelled = name
      · have hlast : value? rest (fold name) = none :=
          value?_eq_none (h [] old rest (by rw [hsame, List.nil_append]))
        rw [Named.put, if_pos hsame, value?_cons, hlast, if_pos rfl, Option.none_or]
      · rw [Named.put, if_neg hsame, value?_cons, ih h.of_cons, Option.some_or]

theorem value?_withoutCredentials (h : env.IsLastSpelling "OPENAI_API_KEY") :
    env.withoutCredentials.value? "openai_api_key" = some "" := by
  have hrate : fold "EXCHANGE_RATE_API_KEY" ≠ "openai_api_key" := by decide
  have harchive : fold "GOOGLE_DRIVE_CREDENTIALS_PATH" ≠ "openai_api_key" := by decide
  have hkey : fold "OPENAI_API_KEY" = "openai_api_key" := by decide
  show value? (Named.put "GOOGLE_DRIVE_CREDENTIALS_PATH" ""
    (Named.put "EXCHANGE_RATE_API_KEY" "" (Named.put "OPENAI_API_KEY" "" env))) _ = _
  rw [value?_put_of_ne harchive, value?_put_of_ne hrate, ← hkey, value?_put_self h]

end Environment

namespace Settings

variable {env : Environment} {s : Settings}

theorem openaiApiKey_of_environment (h : ofEnvironment env = .ok s) :
    s.openaiApiKey = (env.value? "openai_api_key").getD "" := by
  rcases bind_eq_ok_iff.mp h with ⟨origins, _, hrest⟩
  dsimp only at hrest
  split at hrest
  · cases hrest
  · cases hrest
    rfl

theorem not_configured_of_withoutCredentials (hlast : env.IsLastSpelling "OPENAI_API_KEY")
    (h : ofEnvironment env.withoutCredentials = .ok s) : s.polisher.configured = false := by
  rw [polisher, openaiApiKey_of_environment h, Environment.value?_withoutCredentials hlast]
  rfl

end Settings
end ReviewDesk
