import ReviewDesk.Proofs.Desk.Creation
import ReviewDesk.Proofs.Polish.Reply

/-!
# Replies without token counts

A reply of the chat model may say nothing of the tokens that it took.  Counts that are
not reported are read as zero, so such a review is kept as one that took no tokens and
cost nothing, and nobody is asked what that is worth.
-/

namespace ReviewDesk
namespace ModelReply

/-!
# What the reply leaves out

Neither of the two places tells a number of tokens, and all else can be read and written to
the log.
-/

def ReportsNoUsage (r : ModelReply) : Prop :=
  r.usage.isAbsent = true ∧
    ∀ ms, r.metadata = .object ms → ((ms.lookup "token_usage").getD .null).isAbsent = true

/-- The metadata can be read, and the log can write what it says of the reply. -/
structure IsReadable (r : ModelReply) : Prop where
  metadata : IsLooseRecord r.metadata
  ending : r.ending.IsWritable
  named : r.named.IsWritable

theorem members_of_not_isLooseRecord {v : Json} (h : ¬ IsLooseRecord v) :
    ∃ fault, members v = .error fault := by
  have hpresent : v.isAbsent = false := by
    cases habsent : v.isAbsent with
    | true => exact absurd (Or.inl habsent) h
    | false => rfl
  unfold members
  rw [hpresent]
  split
  · contradiction
  · split
    · rename_i ms
      exact absurd (Or.inr ⟨ms, rfl⟩) h
    · exact ⟨_, rfl⟩

variable {r : ModelReply} {text : List Text.Mark}

theorem isAbsent_tokenUsage (h : r.ReportsNoUsage) : r.tokenUsage.isAbsent = true := by
  unfold tokenUsage fields
  split
  · rename_i ms hms
    exact h.right ms hms
  · rfl

theorem tokens_of_no_usage (h : r.ReportsNoUsage) (hmetadata : IsLooseRecord r.metadata) :
    r.tokens = .ok (0, 0) := by
  have husage : members (((fields r.metadata).lookup "token_usage").getD .null) = .ok [] :=
    members_of_isAbsent (isAbsent_tokenUsage h)
  rw [tokens, if_pos h.left, members_of_isLooseRecord hmetadata]
  dsimp only [bind, Except.bind]
  rw [husage]
  rfl

theorem read_of_isReadable (h : r.ReportsNoUsage) (hreadable : r.IsReadable)
    (htext : messageText r.content = .ok text) (hclean : Reasoning.clean text ≠ [])
    (configured : String) :
    r.read configured = .ok (.success ⟨Reasoning.clean text, r.modelOr configured, 0, 0⟩) := by
  rw [read_of_text htext hclean (members_of_isLooseRecord hreadable.metadata) (named_eq r)
    (noteEnding_eq.left hreadable.ending) (tokens_of_no_usage h hreadable.metadata),
    notePolished_eq_ok (isWritable_modelOr.mpr hreadable.named) isShort_zero isShort_zero]
  rfl

theorem read_of_not_isReadable (h : r.ReportsNoUsage) (hnot : ¬ r.IsReadable)
    (htext : messageText r.content = .ok text) (hclean : Reasoning.clean text ≠ [])
    (configured : String) : ∃ fault, r.read configured = .error fault := by
  by_cases hmetadata : IsLooseRecord r.metadata
  · have hms := members_of_isLooseRecord hmetadata
    by_cases hending : r.ending.IsWritable
    · have hnamed : ¬ ((r.modelOr configured).IsWritable ∧ IsShort 0 ∧ IsShort 0) :=
        fun hall => hnot ⟨hmetadata, hending, isWritable_modelOr.mp hall.left⟩
      refine ⟨.badValue Json.tooLong, ?_⟩
      rw [read_of_text htext hclean hms (named_eq r) (noteEnding_eq.left hending)
        (tokens_of_no_usage h hmetadata), notePolished_eq_error hnamed]
      rfl
    · have hnote : noteEnding (fields r.metadata) = .error (.badValue Json.tooLong) :=
        noteEnding_eq.right hending
      exact ⟨_, by simp [read, htext, hclean, hms, hnote, bind, Except.bind]; rfl⟩
  · rcases members_of_not_isLooseRecord hmetadata with ⟨fault, hfault⟩
    exact ⟨fault, by simp [read, htext, hclean, hfault, bind, Except.bind]⟩

end ModelReply

structure Creation.Tells (c : Creation) (tokens : Option Int) (usd krw : Option Decimal)
    (status : StepStatus) : Prop where
  tokens : c.review.tokenCount = tokens
  usd : c.review.usdCost = usd
  krw : c.review.krwCost = krw
  status : c.review.status.cost = status

namespace Desk

variable {d : Desk} {w : Outside} {reply : ModelReply} {text : List Text.Mark} {s : Submission}
  {model : Json}

/-!
# Polishing
-/

theorem polished_of_no_usage (hconfigured : d.polisher.configured = true)
    (hpolish : w.polish = .ok reply) (hnone : reply.ReportsNoUsage)
    (htext : ModelReply.messageText reply.content = .ok text)
    (hclean : Reasoning.clean text ≠ []) (s : Submission) :
    (reply.IsReadable →
        d.polished w s =
          .success ⟨Reasoning.clean text, reply.modelOr d.polisher.model, 0, 0⟩) ∧
      (¬ reply.IsReadable → ∃ detail, d.polished w s = .failure .unavailable detail) := by
  constructor
  · intro hreadable
    have hread :=
      ModelReply.read_of_isReadable hnone hreadable htext hclean d.polisher.model
    simp [polished, Polisher.improve, hconfigured, hpolish, hread, Answered.outcome,
      Outcome.ofAttempt]
  · intro hnot
    rcases ModelReply.read_of_not_isReadable hnone hnot htext hclean d.polisher.model with
      ⟨fault, hfault⟩
    simp [polished, Polisher.improve, hconfigured, hpolish, hfault, Answered.outcome,
      Outcome.ofAttempt]

/-!
# Costs
-/

theorem costStep_no_tokens (hprices : d.prices.AreFinite) (w : Outside) (content : List Text.Mark)
    {name : String} (hname : Pricing.modelName model = .ok name) :
    ∃ usd, usd.IsZero ∧
      d.costStep w ⟨content, model, 0, 0⟩ =
        ⟨d.office, [], some ⟨usd, Office.nothing⟩, .success ()⟩ := by
  rcases Pricing.estimate_no_tokens hprices hname with ⟨e, he, hzero⟩
  refine ⟨e.usdCost, hzero, ?_⟩
  rw [costStep_of_estimated (p := ⟨content, model, 0, 0⟩) he, convertStep, Office.convert,
    Office.convertDuring_of_isZero hzero]
  rfl

theorem costStep_nameless (d : Desk) (w : Outside) (content : List Text.Mark)
    {fault : Fault} (h : Pricing.modelName model = .error fault) :
    d.costStep w ⟨content, model, 0, 0⟩ =
      ⟨d.office, [], none, .failure .unavailable (.string fault.message)⟩ := by
  simp [costStep, Pricing.estimate_nameless h, Outcome.ofAttempt]

theorem costing_of_no_usage (hpolished : d.polished w s = .success ⟨text, model, 0, 0⟩)
    (new : Identity) {costs : Option Costs} {ending : Outcome Unit}
    (hcost : d.costStep w ⟨text, model, 0, 0⟩ = ⟨d.office, [], costs, ending⟩) :
    (d.attempt w new s).draft.tokenCount = some 0 ∧ (d.attempt w new s).draft.costs = costs ∧
      (d.attempt w new s).draft.status.cost = statusOf (some ending) ∧
      ∀ address, .rate address ∉ (d.attempt w new s).requests := by
  rcases uploadStep_requests d w s.title ⟨text, model, 0, 0⟩ with ⟨connect, upload, hupload, _⟩
  rw [draft_of_polished new hpolished, (attempt_of_polished new hpolished).right, hcost, hupload]
  refine ⟨rfl, rfl, rfl, ?_⟩
  simp

/-!
# The review
-/

theorem tells_of_createdBy {new : Identity} {after : Desk} {requests : List Request} {c : Creation}
    (h : CreatedBy d w new s after requests c) {tokens : Option Int} {costs : Option Costs}
    {status : StepStatus} (htokens : (d.attempt w new s).draft.tokenCount = tokens)
    (hcosts : (d.attempt w new s).draft.costs = costs)
    (hstatus : (d.attempt w new s).draft.status.cost = status) :
    c.Tells tokens (costs.bind fun cost => Column.money Draft.usdPlaces cost.usd)
      (costs.bind fun cost => Column.money Draft.krwPlaces cost.krw) status := by
  rcases Draft.stored_eq_ok h.row with ⟨_, _, _, _, hcount, husd, hkrw, _, hrow, _⟩
  constructor
  case tokens => rw [hcount, htokens]
  case usd => rw [husd, hcosts]
  case krw => rw [hkrw, hcosts]
  case status => rw [hrow, hstatus]

/-- A review whose reply told of no tokens is kept as one that took none. -/
theorem create_unreported (hprices : d.prices.AreFinite)
    (hconfigured : d.polisher.configured = true) (hpolish : w.polish = .ok reply)
    (hnone : reply.ReportsNoUsage) (htext : ModelReply.messageText reply.content = .ok text)
    (hclean : Reasoning.clean text ≠ []) {new : Identity}
    {title content : Option (List Text.Mark)} {c : Creation}
    (h : (d.create w new title content).2.2 = .ok c) :
    (∀ address, .rate address ∉ (d.create w new title content).2.1) ∧
      (reply.IsReadable →
        (∃ name, Pricing.modelName (reply.modelOr d.polisher.model) = .ok name) →
          c.Tells (some 0) (some (.ofUnits 6 0)) (some (.ofUnits 2 0)) .success) ∧
      (reply.IsReadable →
        (∃ fault, Pricing.modelName (reply.modelOr d.polisher.model) = .error fault) →
          c.Tells (some 0) none none .failed) ∧
      (¬ reply.IsReadable → c.Tells none none none .skipped) := by
  rcases create_createdBy h with ⟨s, _, hcreated⟩
  rcases polished_of_no_usage hconfigured hpolish hnone htext hclean s with ⟨hread, hunread⟩
  rw [hcreated.asked]
  by_cases hreadable : reply.IsReadable
  · have hpolished := hread hreadable
    cases hname : Pricing.modelName (reply.modelOr d.polisher.model) with
    | ok name =>
        rcases costStep_no_tokens hprices w (Reasoning.clean text) hname with ⟨usd, hzero, hcost⟩
        rcases costing_of_no_usage hpolished new hcost with ⟨hcount, hcosts, hending, hasked⟩
        have htells := tells_of_createdBy hcreated hcount hcosts hending
        have hnothing : Office.nothing.IsZero := ⟨false, -2, rfl⟩
        simp only [Option.bind_some, Column.money_of_isZero hzero,
          Column.money_of_isZero hnothing] at htells
        exact ⟨hasked, fun _ _ => htells, by simp, fun hnot => absurd hreadable hnot⟩
    | error fault =>
        have hcost := costStep_nameless d w (Reasoning.clean text) hname
        rcases costing_of_no_usage hpolished new hcost with ⟨hcount, hcosts, hending, hasked⟩
        have htells := tells_of_createdBy hcreated hcount hcosts hending
        exact ⟨hasked, by simp, fun _ _ => htells, fun hnot => absurd hreadable hnot⟩
  · rcases hunread hreadable with ⟨detail, hpolished⟩
    have hdraft := draft_of_not_polished new hpolished
    have hcount : (d.attempt w new s).draft.tokenCount = none := by rw [hdraft]
    have hcosts : (d.attempt w new s).draft.costs = none := by rw [hdraft]
    have hskipped : (d.attempt w new s).draft.status.cost = .skipped := by rw [hdraft]; rfl
    have htells : c.Tells none none none .skipped :=
      tells_of_createdBy hcreated hcount hcosts hskipped
    refine ⟨?_, fun hsome => absurd hsome hreadable, fun hsome => absurd hsome hreadable,
      fun _ => htells⟩
    rw [(attempt_of_not_polished new hpolished).right]
    simp

end Desk

def Outside.terse : Outside :=
  { Outside.fair with polish := .ok ⟨.string "好书。", .null, .null⟩ }

namespace Desk

theorem create_unreported_terse :
    ∃ c, (furnished.create .terse ⟨"r1", ⟨0⟩⟩ (some "书") (some "好")).2.2 = .ok c ∧
      c.Tells (some 0) (some (.ofUnits 6 0)) (some (.ofUnits 2 0)) .success := by
  have hnone : ModelReply.ReportsNoUsage ⟨.string "好书。", .null, .null⟩ := by
    constructor
    · rfl
    · intro ms hms
      cases hms
  obtain ⟨c, hc⟩ :
      ∃ c, (furnished.create .terse ⟨"r1", ⟨0⟩⟩ (some "书") (some "好")).2.2 = .ok c := ⟨_, rfl⟩
  have hreadable : ModelReply.IsReadable ⟨.string "好书。", .null, .null⟩ :=
    { metadata := Or.inl rfl
      ending := Json.isWritable_of_isAbsent rfl
      named := Json.isWritable_of_isAbsent rfl }
  have hunreported := create_unreported Pricing.areFinite_standard rfl rfl hnone rfl (by decide) hc
  exact ⟨c, hc, hunreported.right.left hreadable ⟨"gpt-4o-mini", rfl⟩⟩

/-- Such a review does have a number of tokens and costs, and its cost step was not
skipped. -/
theorem create_terse_not_skipped :
    ModelReply.ReportsNoUsage ⟨.string "好书。", .null, .null⟩ ∧
      ¬ ∀ c, (furnished.create .terse ⟨"r1", ⟨0⟩⟩ (some "书") (some "好")).2.2 = .ok c →
        c.review.tokenCount = none ∧ c.review.usdCost = none ∧ c.review.krwCost = none ∧
          c.review.status.cost = .skipped := by
  constructor
  · constructor
    · rfl
    · intro ms hms
      cases hms
  · intro hall
    have hcount := (hall _ rfl).left
    exact absurd hcount (by decide)

end Desk
end ReviewDesk
