import ReviewDesk.Proofs.Settings.Environment
import ReviewDesk.Proofs.Smoke.Sending

/-!
# What a smoke test leaves behind

The test creates a review and deletes it again, and its other checks only look.  Whatever
the checks between the two find, the review that was created is the one that is deleted, so
that the rows at the end are those that were there before.
-/

namespace ReviewDesk
namespace Smoke

open Web Client

variable {a : App} {w : Outside} {row : Review} {r : Run} {name detail method address : String}
  {content : Content} {sent : Sent} {go : Run → HttpResponse → Run}

/-!
# Single checks

A check restores everything but the list of checks, and one that only looks has not created
or deleted a review either.
-/

/-- So many checks were made, and everything is as it was before them. -/
structure Restores (count : Nat) (r after : Run) : Prop where
  desk : after.app.desk = r.app.desk
  requests : after.requests = r.requests
  checks : after.checks.length = r.checks.length + count

structure Looks (count : Nat) (r after : Run) : Prop extends Restores count r after where
  created : after.created = r.created

theorem Looks.trans {m n : Nat} {next after : Run} (h : Looks m r next)
    (hnext : Looks n next after) : Looks (m + n) r after where
  desk := hnext.desk.trans h.desk
  requests := hnext.requests.trans h.requests
  checks := by rw [hnext.checks, h.checks, Nat.add_assoc]
  created := hnext.created.trans h.created

theorem note_looks (r : Run) (c : Check) : Looks 1 r (r.note c) :=
  ⟨⟨rfl, rfl, by rw [Run.note, List.length_append, List.length_singleton]⟩, rfl⟩

theorem pass_looks (r : Run) (name detail : String) : Looks 1 r (r.pass name detail) :=
  note_looks r _

theorem fail_looks (r : Run) (name detail : String) : Looks 1 r (r.fail name detail) :=
  note_looks r _

theorem verdict_looks (r : Run) (good : Prop) [Decidable good] (name detail other reason : String) :
    Looks 1 r (if good then r.pass name detail else r.fail other reason) := by
  split
  · exact pass_looks r name detail
  · exact fail_looks r other reason

/-!
# Checks that send
-/

def Run.having (r : Run) (sent : Sent) : Run :=
  { r with app := sent.app, requests := r.requests ++ sent.requests }

theorem sending_cases {P : Run → Prop}
    (hfail : ∀ detail, P ((r.having (send r.app w method address content)).fail name detail))
    (hgo : ∀ response, (send r.app w method address content).result = .ok response →
      P (go (r.having (send r.app w method address content)) response)) :
    P (r.sending w name method address content go) := by
  unfold Run.sending
  dsimp only
  split
  · exact hfail _
  · rename_i response hresponse
    exact hgo response hresponse

theorem Looks.of_having {count : Nat} {after : Run} (hsent : Spares r.app sent)
    (h : Looks count (r.having sent) after) : Looks count r after where
  desk := h.desk.trans hsent.desk
  requests := by rw [h.requests, Run.having, hsent.requests, List.append_nil]
  checks := h.checks
  created := h.created

theorem sending_looks (hsent : Spares r.app (send r.app w method address content))
    (hgo : ∀ next response, (send r.app w method address content).result = .ok response →
      Looks 1 next (go next response)) :
    Looks 1 r (r.sending w name method address content go) := by
  apply sending_cases
  case hfail => exact fun detail => .of_having hsent (fail_looks _ _ _)
  case hgo => exact fun response hresponse => .of_having hsent (hgo _ response hresponse)

theorem sending_get_looks (hgo : ∀ next response, Looks 1 next (go next response)) :
    Looks 1 r (r.sending w name "GET" address content go) :=
  sending_looks (send_spares r.app w address content) fun next response _ => hgo next response

/-!
# Checks that only look
-/

theorem checkAlive_looks (w : Outside) (name path : String) (r : Run) :
    Looks 1 r (checkAlive w name path r) :=
  sending_get_looks fun next _ => verdict_looks next _ _ _ _ _

theorem checkBlank_looks (h : r.app.desk.polisher.configured = false) (hw : w.IsWorking) :
    Looks 1 r (checkBlank w r) := by
  have hreplied := send_submission h hw (ofRequest_blank _ _)
  cases hreplied with
  | refused hspares hstatus =>
      exact sending_looks hspares fun next _ _ => verdict_looks next _ _ _ _ _
  | stored row s haccepted hstores =>
      have hblank : Submission.validate (some (Text.marks "   ")) (some (Text.marks "x")) =
          .error .noTitle := by
        decide +kernel
      rw [hblank] at haccepted
      cases haccepted

theorem checkRead_looks (w : Outside) (id total : String) (r : Run) :
    Looks 1 r (checkRead w id total r) :=
  sending_get_looks fun next _ => verdict_looks next _ _ _ _ _

theorem checkList_looks (w : Outside) (r : Run) : Looks 1 r (checkList w r) := by
  unfold checkList
  split
  · exact fail_looks r _ _
  · rename_i id _
    apply sending_get_looks
    intro next response
    split
    · exact fail_looks next _ _
    · split
      · exact checkRead_looks w id _ next
      · exact fail_looks next _ _

theorem checkGone_looks (w : Outside) (id warnings : String) (r : Run) :
    Looks 1 r (checkGone w id warnings r) :=
  sending_get_looks fun next _ => verdict_looks next _ _ _ _ _

/-!
# The checks that create and delete

Creating a review adds one row and remembers its id, or only looks.  Deleting takes away
the row that was added.
-/

structure Adds (count : Nat) (r after : Run) (row : Review) : Prop where
  desk : after.app.desk = r.app.desk.withRow row
  apart : r.app.desk.IsApart row
  id : IsHex 32 row.id
  requests : after.requests = r.requests
  created : after.created = some row.id
  checks : after.checks.length = r.checks.length + count

theorem Adds.of_having {after : Run} (hstores : Stores r.app sent row)
    (h : Looks 1 { r.having sent with created := some row.id } after) : Adds 1 r after row where
  desk := h.desk.trans hstores.desk
  apart := hstores.apart
  id := hstores.id
  requests := by rw [h.requests, Run.having, hstores.requests, List.append_nil]
  created := h.created
  checks := h.checks

theorem Adds.looking {m n : Nat} {next after : Run} (h : Adds m r next row)
    (hnext : Looks n next after) : Adds (m + n) r after row where
  desk := hnext.desk.trans h.desk
  apart := h.apart
  id := h.id
  requests := hnext.requests.trans h.requests
  created := hnext.created.trans h.created
  checks := by rw [hnext.checks, h.checks, Nat.add_assoc]

theorem Looks.adding {m n : Nat} {next after : Run} (h : Looks m r next)
    (hnext : Adds n next after row) : Adds (m + n) r after row where
  desk := by rw [hnext.desk, h.desk]
  apart := by rw [← h.desk]; exact hnext.apart
  id := hnext.id
  requests := hnext.requests.trans h.requests
  created := hnext.created
  checks := by rw [hnext.checks, h.checks, Nat.add_assoc]

theorem checkCreate_cases (h : r.app.desk.polisher.configured = false) (hw : w.IsWorking)
    (external : Bool) :
    Looks 1 r (checkCreate w external r) ∨ ∃ row, Adds 1 r (checkCreate w external r) row := by
  have hreplied := send_submission h hw (ofRequest_book _ _)
  cases hreplied with
  | refused hspares hstatus =>
      apply Or.inl
      apply sending_looks hspares
      intro next response hresponse
      rw [if_neg (hstatus response hresponse)]
      exact fail_looks next _ _
  | stored row s haccepted hstores =>
      rcases hstores.announced with ⟨announced, hannounced, hstatus, hid⟩
      refine Or.inr ⟨row, ?_⟩
      unfold checkCreate Run.sending
      dsimp only
      rw [hannounced]
      dsimp only
      rw [if_pos hstatus, hid]
      split
      · exact .of_having hstores (fail_looks _ _ _)
      · exact .of_having hstores (pass_looks _ _ _)

theorem checkDelete_looks (h : r.created = none) (w : Outside) : Looks 1 r (checkDelete w r) := by
  rw [checkDelete, h]
  exact fail_looks r _ _

theorem checkDelete_restores {count : Nat} {before : Run} (h : Adds count before r row)
    (w : Outside) : Restores (count + 1) before (checkDelete w r) := by
  rcases send_deletion h.desk h.apart h.id w with ⟨hdesk, hrequests⟩
  have hrestores : ∀ after, Looks 1 (r.having (send r.app w "DELETE" (address row.id) .none))
      after → Restores (count + 1) before after := by
    intro after hafter
    constructor
    case desk => exact hafter.desk.trans hdesk
    case requests => rw [hafter.requests, Run.having, hrequests, List.append_nil, h.requests]
    case checks => rw [hafter.checks, Run.having, h.checks, Nat.add_assoc]
  rw [checkDelete, h.created]
  apply sending_cases
  case hfail => exact fun detail => hrestores _ (fail_looks _ _ _)
  case hgo =>
    intro response _
    split
    · exact hrestores _ (checkGone_looks w row.id _ _)
    · exact hrestores _ (fail_looks _ _ _)

/-!
# Whole runs
-/

theorem run_restores (h : a.desk.polisher.configured = false) (hw : w.IsWorking)
    (external : Bool) : Restores 6 (.start a) (run a w external) := by
  have halive : Looks 2 (.start a)
      (checkAlive w healthName "/health" (checkAlive w rootName "/" (.start a))) :=
    (checkAlive_looks w _ _ _).trans (checkAlive_looks w _ _ _)
  have hblank := halive.trans (checkBlank_looks (by rw [halive.desk]; exact h) hw)
  unfold run
  generalize checkBlank w _ = before at hblank ⊢
  have hkeyless : before.app.desk.polisher.configured = false := by
    rw [hblank.desk]
    exact h
  rcases checkCreate_cases hkeyless hw external with hlooks | ⟨row, hadds⟩
  · have hlist := (hblank.trans hlooks).trans (checkList_looks w _)
    exact (hlist.trans (checkDelete_looks hlist.created w)).toRestores
  · have hlist := (hblank.adding hadds).looking (checkList_looks w _)
    exact checkDelete_restores hlist w

/-!
# Reports
-/

def failedCount (checks : List Check) : Nat :=
  checks.countP (!·.passed)

structure Sums (checks : List Check) (report : Report) : Prop where
  code : report.code = if ∀ c ∈ checks, c.passed = true then 0 else 1
  total : passedCount checks + failedCount checks = checks.length
  text : ∃ lines, report.text = lines ++
    s!"passed={passedCount checks}, failed={failedCount checks}, total={checks.length}\n"

theorem sums_report (checks : List Check) : Sums checks (report checks) := by
  have htotal : passedCount checks + failedCount checks = checks.length := by
    rw [passedCount, failedCount, List.length_eq_countP_add_countP (·.passed)]
    simp
  have hfailed : checks.length - passedCount checks = failedCount checks := by
    rw [← htotal, Nat.add_sub_cancel_left]
  constructor
  case code => simp only [report, List.all_eq_true]
  case total => exact htotal
  case text =>
    rw [← hfailed]
    exact ⟨"\nAcceptance Smoke Report\n" ++ rule '=' ++ String.join (checks.map line) ++ rule '-',
      rfl⟩

/-!
# Runs without credentials

Only the exact names of the credentials are emptied before a run, and the last spelling of
a name counts.  So the model is not asked as long as no other spelling of its key stands
behind the emptied one.
-/

/-- Without the flag the test asks nobody and leaves the desk as it was, whatever its checks
find. -/
theorem perform_leaves_no_trace {env : Environment} {s : Settings}
    (hlast : env.IsLastSpelling "OPENAI_API_KEY")
    (hs : Settings.ofEnvironment (environment env []) = .ok s)
    (ha : a.desk.polisher = s.polisher) (hw : w.IsWorking) :
    (perform a w []).1.desk = a.desk ∧ (perform a w []).2.1 = [] ∧
      (run a w false).checks.length = 6 ∧ Sums (run a w false).checks (perform a w []).2.2 := by
  have hpolisher : a.desk.polisher.configured = false := by
    rw [ha]
    exact Settings.not_configured_of_withoutCredentials hlast hs
  have hrestores := run_restores hpolisher hw false
  exact ⟨hrestores.desk, hrestores.requests, hrestores.checks, sums_report _⟩

def ordinary : Outside :=
  { Outside.fair with
    identity := fun _ => ⟨"0123456789abcdef0123456789abcdef", ⟨0⟩⟩
    tag := fun _ => "0123456789ab" }

theorem ordinary_isWorking : ordinary.IsWorking where
  saving := rfl
  ids := by
    have hid : IsHex 32 "0123456789abcdef0123456789abcdef" := ⟨by decide, by decide⟩
    exact fun _ => hid
  tags := by
    have htag : IsHex 12 "0123456789ab" := ⟨by decide, by decide⟩
    exact fun _ => htag
  times := by
    have htime : (⟨0⟩ : Instant).micros < Seoul.end9999.micros := by decide
    exact fun _ => htime

def taken : Review where
  id := "0123456789abcdef0123456789abcdef"
  title := "甲"
  content := "好"
  improved := none
  model := none
  tokenCount := none
  usdCost := none
  krwCost := none
  fileId := some "drive-123"
  status := .make .skipped .skipped .skipped none
  createdAt := ⟨0⟩

def installed (s : Settings) (rows : List Review) : App :=
  .make ⟨s.polisher, Pricing.standard, s.office, s.archive (.ok ()), ⟨rows⟩⟩ []

theorem perform_leaves_no_trace_taken :
    (perform (installed {} [taken]) ordinary []).1.desk = (installed {} [taken]).desk ∧
      (perform (installed {} [taken]) ordinary []).2.1 = [] ∧
      (perform (installed {} [taken]) ordinary []).2.2.code = 1 ∧
      Sums (run (installed {} [taken]) ordinary false).checks
        (perform (installed {} [taken]) ordinary []).2.2 := by
  have hlast : Environment.IsLastSpelling [("OPENAI_API_KEY", "sk-1")] "OPENAI_API_KEY" := by
    intro before text after henv
    have hlength := congrArg List.length henv
    have hafter : after = [] := by
      apply List.eq_nil_of_length_eq_zero
      simp only [List.length_append, List.length_cons, List.length_nil] at hlength
      omega
    rw [hafter]
    exact List.forall_mem_nil _
  have hsettings : Settings.ofEnvironment (environment [("OPENAI_API_KEY", "sk-1")] []) =
      .ok {} := rfl
  have hleaves := perform_leaves_no_trace (a := installed {} [taken]) hlast hsettings rfl
    ordinary_isWorking
  exact ⟨hleaves.left, hleaves.right.left, by decide +kernel, hleaves.right.right.right⟩

/-- Only the first spelling is emptied, and the second one counts. -/
theorem perform_asks_model :
    ∃ s, Settings.ofEnvironment
        (environment [("OPENAI_API_KEY", "x"), ("openai_api_key", "sk-1")] []) = .ok s ∧
      (installed s []).desk.polisher = s.polisher ∧ ordinary.IsWorking ∧
      (perform (installed s []) ordinary []).2.1 ≠ [] := by
  refine ⟨{ openaiApiKey := "sk-1" }, rfl, rfl, ordinary_isWorking, ?_⟩
  decide +kernel

end Smoke
end ReviewDesk
