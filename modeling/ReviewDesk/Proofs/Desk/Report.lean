import ReviewDesk.Proofs.Desk.Answers

/-!
# What a creation reports

A creation whose row the store takes ends with a report on its three steps, whatever the
integrations answered.  A step succeeded when all its calls did; it was skipped when it was
not reached, or when the call that ended it was not configured; otherwise it failed.  The
warning has one line for each step that did not succeed and is never cut.
-/

namespace ReviewDesk

open Text

/-!
# How steps end

A step is completed when all its calls were made and succeeded; otherwise it was not
called, since the text was not polished, or the first of its calls that failed ends it.  A
call that broke off counts as a service that is not available.
-/

def FailsFor {α : Type} (result : Except Fault (Outcome α)) (reason : FailureReason) : Prop :=
  (∃ detail, result = .ok (.failure reason detail)) ∨
    (reason = .unavailable ∧ ∃ fault, result = .error fault)

theorem failsFor_iff {α : Type} {result : Except Fault (Outcome α)} {reason : FailureReason} :
    FailsFor result reason ↔ ∃ detail, Outcome.ofAttempt result = .failure reason detail := by
  cases result with
  | error fault =>
      simp [FailsFor, Outcome.ofAttempt, eq_comm]
  | ok outcome =>
      simp [FailsFor, Outcome.ofAttempt]

namespace Outcome

variable {α : Type}

theorem ended_eq_success_iff {o : Outcome α} :
    o.ended = .success () ↔ ∃ value, o = .success value := by
  cases o <;> simp [ended]

theorem ended_eq_failure_iff {o : Outcome α} {reason : FailureReason} {detail : Json} :
    o.ended = .failure reason detail ↔ o = .failure reason detail := by
  cases o <;> simp [ended]

end Outcome

namespace Answers

inductive Completes (a : Answers) : Step → Prop where
  | polish {p : Polished} (hp : a.polish = .ok (.success p)) : Completes a .polish
  | cost {p : Polished} {e : Estimate} {krw : Decimal} (hp : a.polish = .ok (.success p))
      (he : a.estimate p = .ok (.success e)) (hkrw : a.convert e.usdCost = .ok (.success krw)) :
      Completes a .cost
  | archive {p : Polished} {id : Json} (hp : a.polish = .ok (.success p))
      (hid : a.upload p = .ok (.success id)) : Completes a .archive

/-- The call that ended the step failed for this reason. -/
inductive StopsFor (a : Answers) : Step → FailureReason → Prop where
  | polish {reason : FailureReason} (h : FailsFor a.polish reason) : StopsFor a .polish reason
  | estimate {p : Polished} {reason : FailureReason} (hp : a.polish = .ok (.success p))
      (h : FailsFor (a.estimate p) reason) : StopsFor a .cost reason
  | convert {p : Polished} {e : Estimate} {reason : FailureReason}
      (hp : a.polish = .ok (.success p)) (he : a.estimate p = .ok (.success e))
      (h : FailsFor (a.convert e.usdCost) reason) : StopsFor a .cost reason
  | upload {p : Polished} {reason : FailureReason} (hp : a.polish = .ok (.success p))
      (h : FailsFor (a.upload p) reason) : StopsFor a .archive reason

def Unreached (a : Answers) (step : Step) : Prop :=
  step ≠ .polish ∧ ¬ a.Completes .polish

variable {a : Answers}

theorem completes_polish_iff : a.Completes .polish ↔ ∃ p, a.polish = .ok (.success p) := by
  constructor
  · rintro ⟨hp⟩
    exact ⟨_, hp⟩
  · rintro ⟨p, hp⟩
    exact Completes.polish hp

theorem costing_eq_success_iff {p : Polished} :
    (∃ costs, a.costing p = .success costs) ↔
      ∃ e krw, a.estimate p = .ok (.success e) ∧ a.convert e.usdCost = .ok (.success krw) := by
  unfold costing
  split
  · rename_i reason detail hfailed
    have hnone : ∀ e, a.estimate p ≠ .ok (.success e) := by
      intro e he
      rw [Outcome.ofAttempt_eq_success_iff.mpr he] at hfailed
      cases hfailed
    simp [hnone]
  · rename_i e he
    rw [Outcome.ofAttempt_eq_success_iff] at he
    simp only [he, Except.ok.injEq, Outcome.success.injEq, exists_and_left, exists_eq_left',
      ← Outcome.ofAttempt_eq_success_iff]
    split
    · rename_i reason detail hfailed
      simp [hfailed]
    · rename_i krw hkrw
      simp [hkrw]

theorem costing_eq_failure_iff {p : Polished} {reason : FailureReason} :
    (∃ detail, a.costing p = .failure reason detail) ↔
      FailsFor (a.estimate p) reason ∨
        ∃ e, a.estimate p = .ok (.success e) ∧ FailsFor (a.convert e.usdCost) reason := by
  simp only [failsFor_iff, ← Outcome.ofAttempt_eq_success_iff]
  unfold costing
  split
  · rename_i other detail hfailed
    simp [hfailed]
  · rename_i e he
    simp only [he, reduceCtorEq, exists_false, Outcome.success.injEq, exists_eq_left', false_or]
    split
    · rename_i other detail hfailed
      simp [hfailed]
    · rename_i krw hkrw
      simp [hkrw]

theorem value?_polish_eq_none_iff :
    (Outcome.ofAttempt a.polish).value? = none ↔ ¬ a.Completes .polish := by
  rw [completes_polish_iff, Option.eq_none_iff_forall_ne_some]
  simp [Outcome.value?_eq_some_iff, Outcome.ofAttempt_eq_success_iff]

/-!
The three ways in which a step can end are the three forms of its ending.
-/

theorem ending_eq_none_iff {step : Step} : a.ending step = none ↔ a.Unreached step := by
  cases step with
  | polish => simp [ending, Unreached]
  | cost => simp [ending, Unreached, value?_polish_eq_none_iff]
  | archive => simp [ending, Unreached, value?_polish_eq_none_iff]

theorem ending_eq_success_iff {step : Step} :
    a.ending step = some (.success ()) ↔ a.Completes step := by
  cases step with
  | polish =>
      rw [completes_polish_iff]
      simp [ending, Outcome.ended_eq_success_iff, Outcome.ofAttempt_eq_success_iff]
  | cost =>
      simp only [ending, Option.map_eq_some_iff, Outcome.value?_eq_some_iff,
        Outcome.ofAttempt_eq_success_iff, Outcome.ended_eq_success_iff, costing_eq_success_iff]
      constructor
      · rintro ⟨p, hp, e, krw, he, hkrw⟩
        exact Completes.cost hp he hkrw
      · intro h
        cases h with
        | cost hp he hkrw => exact ⟨_, hp, _, _, he, hkrw⟩
  | archive =>
      simp only [ending, Option.map_eq_some_iff, Outcome.value?_eq_some_iff,
        Outcome.ofAttempt_eq_success_iff, Outcome.ended_eq_success_iff]
      constructor
      · rintro ⟨p, hp, id, hid⟩
        exact Completes.archive hp hid
      · intro h
        cases h with
        | archive hp hid => exact ⟨_, hp, _, hid⟩

theorem ending_eq_failure_iff {step : Step} {reason : FailureReason} :
    (∃ detail, a.ending step = some (.failure reason detail)) ↔ a.StopsFor step reason := by
  cases step with
  | polish =>
      simp only [ending, Option.some.injEq, Outcome.ended_eq_failure_iff, ← failsFor_iff]
      constructor
      · exact StopsFor.polish
      · intro h
        cases h with
        | polish h => exact h
  | cost =>
      simp only [ending, Option.map_eq_some_iff, Outcome.value?_eq_some_iff,
        Outcome.ofAttempt_eq_success_iff, Outcome.ended_eq_failure_iff]
      rw [exists_comm]
      simp only [exists_and_left, costing_eq_failure_iff]
      constructor
      · rintro ⟨p, hp, hestimate | ⟨e, he, hconvert⟩⟩
        · exact StopsFor.estimate hp hestimate
        · exact StopsFor.convert hp he hconvert
      · intro h
        cases h with
        | estimate hp h => exact ⟨_, hp, Or.inl h⟩
        | convert hp he h => exact ⟨_, hp, Or.inr ⟨_, he, h⟩⟩
  | archive =>
      simp only [ending, Option.map_eq_some_iff, Outcome.value?_eq_some_iff,
        Outcome.ofAttempt_eq_success_iff, Outcome.ended_eq_failure_iff]
      rw [exists_comm]
      simp only [exists_and_left, ← failsFor_iff]
      constructor
      · rintro ⟨p, hp, h⟩
        exact StopsFor.upload hp h
      · intro h
        cases h with
        | upload hp h => exact ⟨_, hp, h⟩

end Answers

/-!
# Statuses
-/

def IntegrationStatus.ofStep (status : IntegrationStatus) : Step → StepStatus
  | .polish => status.polish
  | .cost => status.cost
  | .archive => status.archive

namespace Desk

theorem statusOf_iff (o : Option (Outcome Unit)) :
    (statusOf o = .success ↔ o = some (.success ())) ∧
      (statusOf o = .skipped ↔ o = none ∨ ∃ detail, o = some (.failure .notConfigured detail)) ∧
      (statusOf o = .failed ↔
        ∃ reason, reason ≠ .notConfigured ∧ ∃ detail, o = some (.failure reason detail)) := by
  cases o with
  | none => simp [statusOf]
  | some outcome =>
      cases outcome with
      | success value => simp [statusOf, StepStatus.ofOutcome]
      | failure reason detail => cases reason <;> simp [statusOf, StepStatus.ofOutcome]

end Desk

namespace Answers

variable {a : Answers}

theorem ofStep_status (a : Answers) (step : Step) :
    a.status.ofStep step = Desk.statusOf (a.ending step) := by
  cases step <;> rfl

/-!
# Warnings

What a reader is told is given here letter by letter: what the steps are named, and what
each reason is called.  So a line tells the reason of its own step and no other.
-/

inductive Named : Step → String → Prop where
  | polish : Named .polish "AI 润色"
  | cost : Named .cost "费用估算/汇率换算"
  | archive : Named .archive "Google Drive 归档"

inductive Called : FailureReason → String → Prop where
  | timeout : Called .timeout "请求超时"
  | unavailable : Called .unavailable "服务暂不可用"
  | rateLimited : Called .rateLimited "请求过于频繁，请降低调用频率"
  | insufficientQuota : Called .insufficientQuota "额度不足，请检查账户余额"
  | unauthorized : Called .unauthorized "凭据无效，请检查配置"
  | invalidResponse : Called .invalidResponse "响应无法解析"

theorem named_title (step : Step) : Named step step.title := by
  cases step with
  | polish => exact Named.polish
  | cost => exact Named.cost
  | archive => exact Named.archive

theorem called_wording {reason : FailureReason} (h : reason ≠ .notConfigured) :
    Called reason reason.wording := by
  cases reason with
  | notConfigured => exact absurd rfl h
  | timeout => exact Called.timeout
  | unavailable => exact Called.unavailable
  | rateLimited => exact Called.rateLimited
  | insufficientQuota => exact Called.insufficientQuota
  | unauthorized => exact Called.unauthorized
  | invalidResponse => exact Called.invalidResponse

/-- What the warning says about a step that did not succeed: that it is not configured, that
the text was not polished, or what the reason of its failure is called. -/
inductive Says (a : Answers) : Step → String → Prop where
  | notConfigured {step : Step} {name : String} (hname : Named step name)
      (h : a.StopsFor step .notConfigured) : Says a step (name ++ "：未配置，已跳过。")
  | notPolished {step : Step} {name : String} (hname : Named step name) (h : a.Unreached step) :
      Says a step (name ++ "：AI 润色未完成，已跳过。")
  | failed {step : Step} {name called : String} {reason : FailureReason}
      (hname : Named step name) (h : a.StopsFor step reason) (hcalled : Called reason called) :
      Says a step (name ++ "：调用失败（" ++ called ++ "）。")

def line (a : Answers) (step : Step) : String :=
  (Desk.warningOf step (a.ending step)).getD ""

theorem warningOf_ending {step : Step} (h : a.status.ofStep step ≠ .success) :
    Desk.warningOf step (a.ending step) = some (a.line step) := by
  rw [ofStep_status, Ne, ← Desk.warningOf_eq_none_iff step] at h
  rcases Option.ne_none_iff_exists'.mp h with ⟨said, hsaid⟩
  rw [line, hsaid, Option.getD_some]

theorem says_line {step : Step} (h : a.status.ofStep step ≠ .success) :
    a.Says step (a.line step) := by
  have hline := warningOf_ending h
  rw [ofStep_status] at h
  cases hending : a.ending step with
  | none =>
      rw [hending, Desk.warningOf_not_called] at hline
      rw [← Option.some.inj hline]
      exact Says.notPolished (named_title step) (ending_eq_none_iff.mp hending)
  | some outcome =>
      cases outcome with
      | success value =>
          exact absurd (by rw [hending]; rfl) h
      | failure reason detail =>
          have hstops : a.StopsFor step reason := ending_eq_failure_iff.mp ⟨detail, hending⟩
          by_cases hreason : reason = .notConfigured
          · subst hreason
            rw [hending, Desk.warningOf_not_configured] at hline
            rw [← Option.some.inj hline]
            exact Says.notConfigured (named_title step) hstops
          · rw [hending, Desk.warningOf_failure step hreason] at hline
            rw [← Option.some.inj hline]
            exact Says.failed (named_title step) hstops (called_wording hreason)

theorem title_isPrefix_line {step : Step} (h : a.status.ofStep step ≠ .success) :
    step.title.toList <+: (a.line step).toList := by
  have hline := warningOf_ending h
  rcases Desk.warningOf_eq step (a.ending step) with ⟨_, hnone⟩ | ⟨_, said, hsaid⟩
  · rw [hnone] at hline
    cases hline
  · rw [hsaid] at hline
    rw [← Option.some.inj hline, String.toList_append]
    exact List.prefix_append _ _

def troubled (status : IntegrationStatus) : List Step :=
  Step.inOrder.filter fun step => status.ofStep step ≠ .success

theorem filterMap_warnings (a : Answers) :
    ([Desk.warningOf .polish (a.ending .polish), Desk.warningOf .cost (a.ending .cost),
      Desk.warningOf .archive (a.ending .archive)]).filterMap id =
        (troubled a.status).map a.line := by
  have hsteps : ∀ steps : List Step,
      (steps.map fun step => Desk.warningOf step (a.ending step)).filterMap id =
        (steps.filter fun step => a.status.ofStep step ≠ .success).map a.line := by
    intro steps
    induction steps with
    | nil => rfl
    | cons step rest ih =>
        by_cases h : a.status.ofStep step = .success
        · have hnone := h
          rw [ofStep_status, ← Desk.warningOf_eq_none_iff step] at hnone
          simpa [h, hnone] using ih
        · simpa [h, warningOf_ending h] using ih
  exact hsteps Step.inOrder

/-!
# The report
-/

structure Reports (a : Answers) (status : IntegrationStatus) : Prop where
  succeeded : ∀ step, status.ofStep step = .success ↔ a.Completes step
  skipped : ∀ step, status.ofStep step = .skipped ↔
    a.Unreached step ∨ a.StopsFor step .notConfigured
  failed : ∀ step, status.ofStep step = .failed ↔
    ∃ reason, reason ≠ .notConfigured ∧ a.StopsFor step reason
  unwarned : status.warning = none ↔ ∀ step, status.ofStep step = .success
  warned : ∃ line : Step → String,
    (∀ step, status.ofStep step ≠ .success →
      a.Says step (line step) ∧
        ∃ name, Named step name ∧ name.toList <+: (line step).toList) ∧
    ∀ text, status.warning = some text →
      text = "\n".intercalate ((troubled status).map line) ∧
        lines text = (troubled status).map line ∧
        text.length ≤ 500

theorem status_reports (a : Answers) : a.Reports a.status where
  succeeded := by
    intro step
    rw [ofStep_status, (Desk.statusOf_iff _).left, ending_eq_success_iff]
  skipped := by
    intro step
    rw [ofStep_status, (Desk.statusOf_iff _).right.left, ending_eq_none_iff, ending_eq_failure_iff]
  failed := by
    intro step
    rw [ofStep_status, (Desk.statusOf_iff _).right.right]
    simp only [ending_eq_failure_iff]
  unwarned := by
    rw [status, Desk.warning_statusFor_eq_none_iff]
    simp only [← ofStep_status]
    constructor
    · rintro ⟨hpolish, hcost, harchive⟩ step
      cases step with
      | polish => exact hpolish
      | cost => exact hcost
      | archive => exact harchive
    · exact fun h => ⟨h .polish, h .cost, h .archive⟩
  warned := by
    refine ⟨a.line, fun step h => ⟨says_line h, _, named_title step, title_isPrefix_line h⟩, ?_⟩
    intro text htext
    have hkept := htext
    rw [status, Desk.warning_statusFor, Desk.joinWarnings_eq_some_iff, filterMap_warnings] at hkept
    rcases hkept with ⟨hne, rfl⟩
    refine ⟨rfl, lines_intercalate hne ?_, Desk.length_warning_statusFor htext⟩
    intro said hsaid
    rcases List.mem_map.mp hsaid with ⟨step, hstep, rfl⟩
    have htroubled : a.status.ofStep step ≠ .success := by
      simpa using (List.mem_filter.mp hstep).right
    exact (Desk.isLine_warningOf (warningOf_ending htroubled)).right

end Answers

/-!
# Creations that the store takes

The store takes the row of a draft when the database works, every value fits its column and
the id is free.
-/

structure Store.Takes (store : Store) (w : Outside) (draft : Draft) : Prop where
  working : w.saving = none
  keepable : ∀ v ∈ draft.values, Column.Keepable v
  free : ∀ r ∈ store.rows, r.id ≠ draft.id

theorem Draft.exists_stored {draft : Draft} (h : ∀ v ∈ draft.values, Column.Keepable v) :
    ∃ r, draft.stored = .ok r := by
  have hnone : draft.values.findSome? Column.fault? = none :=
    List.findSome?_eq_none_iff.mpr fun v hv => (Column.fault?_eq_none_iff v).mpr (h v hv)
  rw [← faultOf_stored] at hnone
  cases hstored : draft.stored with
  | ok r => exact ⟨r, rfl⟩
  | error fault =>
      rw [hstored] at hnone
      cases hnone

structure Creation.Reports (c : Creation) (a : Answers) : Prop where
  status : a.Reports c.status
  kept : c.review.status = c.status
  partly : c.message = "书评已保存，但部分外部集成未完成" ↔ c.status.warning ≠ none
  wholly : c.message = "书评已保存" ↔ c.status.warning = none

theorem Creation.message_cases (c : Creation) :
    (c.message = Creation.partlyText ↔ c.status.warning ≠ none) ∧
      (c.message = Creation.savedText ↔ c.status.warning = none) := by
  have hdiffer : Creation.savedText ≠ Creation.partlyText := by decide
  cases hwarning : c.status.warning with
  | none => simp [message, hwarning, hdiffer]
  | some text => simp [message, hwarning, hdiffer.symm]

namespace Desk

variable {d : Desk} {w : Outside} {new : Identity}
  {title content : Option (List Text.Mark)} {s : Submission}

theorem save_reports {a : Answers} (h : d.store.Takes w (a.draft new s)) :
    ∃ c, (d.save w (a.draft new s)).2.2 = .ok c ∧ c.Reports a := by
  rcases Draft.exists_stored h.keepable with ⟨r, hrow⟩
  rcases Draft.stored_eq_ok hrow with ⟨hid, _, _, _, _, _, _, _, hstatus, _⟩
  have hkeep := keep_eq_ok_iff.mpr ⟨h.working, hrow, by rw [hid]; exact h.free, rfl⟩
  refine ⟨⟨r, (a.draft new s).status⟩, by simp [save, hkeep], ?_⟩
  exact
    { status := by
        rw [Answers.status_draft]
        exact a.status_reports
      kept := hstatus
      partly := (Creation.message_cases _).left
      wholly := (Creation.message_cases _).right }

def createAnswered (d : Desk) (w : Outside) (answers : Submission → Answers) (new : Identity)
    (title content : Option (List Text.Mark)) : Except CreationFailure Creation :=
  match Submission.validate title content with
  | .error rejection => .error (.rejected rejection)
  | .ok s => (d.save w ((answers s).draft new s)).2.2

theorem save_eq_of_store {d' : Desk} (h : d'.store = d.store) (w : Outside) (draft : Draft) :
    (d'.save w draft).2.2 = (d.save w draft).2.2 := by
  have hgiveUp : ∀ fault, (d'.giveUp w draft.fileId fault).2.2 =
      (d.giveUp w draft.fileId fault).2.2 := by
    intro fault
    cases fault with
    | rejected => rfl
    | broken fault => rfl
  unfold save keep
  rw [h]
  cases w.saving with
  | some fault =>
      simp [hgiveUp]
  | none =>
      cases draft.stored with
      | error fault =>
          simp [hgiveUp]
      | ok r =>
          dsimp only
          cases d.store.insert? r with
          | some store => rfl
          | none => simp [hgiveUp]

theorem create_eq_createAnswered (d : Desk) (w : Outside) (new : Identity)
    (title content : Option (List Text.Mark)) :
    (d.create w new title content).2.2 = d.createAnswered w (d.answers w) new title content := by
  unfold create createAnswered
  cases Submission.validate title content with
  | error rejection => rfl
  | ok s =>
      dsimp only
      rw [← draft_attempt]
      exact save_eq_of_store (attempt_attempted d w new s).store w _

/-- An accepted submission whose row the store takes is created, and the creation reports
what the integrations answered: the desk's own, and any others in their place. -/
theorem create_reported (hs : Submission.validate title content = .ok s) :
    (d.store.Takes w ((d.answers w s).draft new s) →
      ∃ c, (d.create w new title content).2.2 = .ok c ∧ c.Reports (d.answers w s)) ∧
    ∀ answers : Submission → Answers, d.store.Takes w ((answers s).draft new s) →
      ∃ c, d.createAnswered w answers new title content = .ok c ∧ c.Reports (answers s) := by
  have hany : ∀ answers : Submission → Answers, d.store.Takes w ((answers s).draft new s) →
      ∃ c, d.createAnswered w answers new title content = .ok c ∧ c.Reports (answers s) := by
    intro answers htakes
    simp only [createAnswered, hs]
    exact save_reports htakes
  refine ⟨?_, hany⟩
  rw [create_eq_createAnswered]
  exact hany (d.answers w)

end Desk

def Outside.slow : Outside :=
  { Outside.fair with rate := .error (.transfer (.timeout .read) "timed out") }

namespace Desk

theorem create_reported_slow :
    ∃ c, (furnished.create .slow ⟨"r1", ⟨0⟩⟩ (some "书") (some "好")).2.2 = .ok c ∧
      c.status = ⟨.success, .failed, .success,
        some "费用估算/汇率换算：调用失败（请求超时）。"⟩ ∧
      c.Reports (furnished.answers .slow ⟨"书", "好"⟩) := by
  have hs : Submission.validate (some "书") (some "好") = .ok ⟨"书", "好"⟩ := by rfl
  have hvalues : ((furnished.answers .slow ⟨"书", "好"⟩).draft ⟨"r1", ⟨0⟩⟩ ⟨"书", "好"⟩).values =
      [.string "书", .string "好", .string "好书。", .string "gpt-4o-mini", .int 30,
        .string "drive-123"] := by rfl
  have htakes : furnished.store.Takes .slow
      ((furnished.answers .slow ⟨"书", "好"⟩).draft ⟨"r1", ⟨0⟩⟩ ⟨"书", "好"⟩) :=
    { working := rfl
      keepable := by simp [hvalues, Column.Keepable, Column.minInt, Column.maxInt]
      free := by simp [furnished, Store.empty] }
  have hstatus : (furnished.create .slow ⟨"r1", ⟨0⟩⟩ (some "书") (some "好")).2.2.toOption.map
      (·.status) = some ⟨.success, .failed, .success,
        some "费用估算/汇率换算：调用失败（请求超时）。"⟩ := by rfl
  rcases (create_reported hs).left htakes with ⟨c, hc, hreports⟩
  rw [hc] at hstatus
  exact ⟨c, hc, Option.some.inj hstatus, hreports⟩

end Desk
end ReviewDesk
