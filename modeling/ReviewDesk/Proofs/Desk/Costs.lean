import Mathlib.Data.List.Induction
import ReviewDesk.Proofs.Desk.Ledger
import ReviewDesk.Proofs.Desk.Rows
import ReviewDesk.Proofs.Review.Money

/-!
# Costs from the estimate to the reader

The costs of a review are what the estimate and the conversion came to.  They go through
the store as binary numbers once, when the row is saved; no operation changes a row, so
every reader of the row is shown what its creator was shown.
-/

namespace ReviewDesk

def Reply.read : Reply → List Review
  | got (some r) => [r]
  | listed reviews => reviews
  | _ => []

structure Review.ShowsCosts (r : Review) (usd krw : Decimal) : Prop where
  usd : Column.Shows Draft.usdPlaces r.usdCost usd
  krw : Column.Shows Draft.krwPlaces r.krwCost krw

namespace Desk

variable {d : Desk} {w : Outside} {new : Identity} {title content : Option (List Text.Mark)}
  {usd krw : Decimal} {c : Creation} {r : Review}

/-!
# Costs of a creation
-/

/-- The second step of the creation comes to these two costs. -/
def FindsCosts (d : Desk) (w : Outside) (title content : Option (List Text.Mark))
    (usd krw : Decimal) : Prop :=
  ∃ s p e, Submission.validate title content = .ok s ∧ d.polished w s = .success p ∧
    d.estimated p = .ok (.success e) ∧ e.usdCost = usd ∧
    (d.office.convert w.now w.rate usd).2.result = .ok (.success krw)

theorem costStep_of_found {p : Polished} {e : Estimate} (he : d.estimated p = .ok (.success e))
    (hkrw : (d.office.convert w.now w.rate e.usdCost).2.result = .ok (.success krw)) :
    (d.costStep w p).costs = some ⟨e.usdCost, krw⟩ ∧ (d.costStep w p).ending = .success () := by
  have houtcome : (d.office.convert w.now w.rate e.usdCost).2.outcome = .success krw :=
    Outcome.ofAttempt_eq_success_iff.mpr hkrw
  rw [costStep_of_estimated he]
  simp [convertStep, houtcome]

theorem cost_success_iff (h : (d.create w new title content).2.2 = .ok c) :
    c.status.cost = .success ↔ ∃ usd krw, d.FindsCosts w title content usd krw := by
  rcases create_createdBy h with ⟨s, hs, hcreated⟩
  rw [hcreated.status]
  cases hpolished : d.polished w s with
  | success p =>
      rw [draft_of_polished new hpolished]
      have hstatus : (statusFor (some (.success p)) (some (d.costStep w p).ending)
          (some (d.uploadStep w s.title p).2.outcome)).cost =
            statusOf (some (d.costStep w p).ending) := rfl
      rw [hstatus, costStep_ending_iff]
      constructor
      · intro hsome
        rcases costStep_cases d w p with ⟨e, krw, he, hkrw, _⟩ | ⟨hnone, _⟩
        · exact ⟨e.usdCost, krw, s, p, e, hs, hpolished, he, rfl, hkrw⟩
        · rw [hnone] at hsome
          cases hsome
      · rintro ⟨usd, krw, s', p', e, hs', hpolished', he, rfl, hkrw⟩
        rw [hs] at hs'
        cases hs'
        rw [hpolished] at hpolished'
        cases hpolished'
        rw [(costStep_of_found he hkrw).left]
        rfl
  | failure reason detail =>
      rw [draft_of_not_polished new hpolished]
      constructor
      · intro hskipped
        cases hskipped
      · rintro ⟨usd, krw, s', p, e, hs', hpolished', _⟩
        rw [hs] at hs'
        cases hs'
        rw [hpolished] at hpolished'
        cases hpolished'

theorem costs_of_found (h : (d.create w new title content).2.2 = .ok c)
    (hfound : d.FindsCosts w title content usd krw) :
    c.review.usdCost = Column.money Draft.usdPlaces usd ∧
      c.review.krwCost = Column.money Draft.krwPlaces krw := by
  rcases hfound with ⟨s, p, e, hs, hpolished, he, rfl, hkrw⟩
  rcases create_eq_ok h with ⟨s', hs', hrow⟩
  rw [hs] at hs'
  cases hs'
  rcases Draft.stored_eq_ok hrow with ⟨_, _, _, _, _, husdCost, hkrwCost, _⟩
  rw [draft_of_polished new hpolished, (costStep_of_found he hkrw).left] at husdCost hkrwCost
  exact ⟨husdCost, hkrwCost⟩

theorem hasPlaces_of_found (hfound : d.FindsCosts w title content usd krw)
    (husd : usd.isFinite = true) (hkrw : krw.isFinite = true) :
    usd.HasPlaces Draft.usdPlaces ∧ krw.HasPlaces Draft.krwPlaces := by
  have hplaces : ∀ {places : Nat} {x : Decimal}, x.IsMoney places → x.isFinite = true →
      x.HasPlaces places := by
    rintro places x (⟨negative, n, rfl, _⟩ | ⟨negative, payload, rfl⟩) hfinite
    · exact ⟨negative, n, rfl⟩
    · cases hfinite
  rcases hfound with ⟨s, p, e, _, _, he, rfl, hconverted⟩
  rcases Pricing.estimate_eq_success he with ⟨_, _, _, _, _, _, _, _, _, _, _, _, htotal, _⟩
  exact ⟨hplaces (Decimal.isMoney_of_quantize htotal) husd,
    hplaces (Office.isMoney_of_convert hconverted) hkrw⟩

/-!
# Rows that are read

Whatever a reader is shown is a row, and every row was there at the beginning of the
history or was created since.
-/

theorem mem_rows_of_read {op : Operation} (hr : r ∈ (d.entry op).reply.read) :
    r ∈ d.store.rows := by
  cases op with
  | create w new title content => cases hr
  | delete w id => cases hr
  | get id =>
      cases hfound : d.find? id with
      | none =>
          simp [entry, perform, hfound, Reply.read] at hr
      | some row =>
          simp only [entry, perform, hfound, Reply.read, List.mem_singleton] at hr
          rw [hr]
          exact (Store.mem_of_find? hfound).left
  | list => exact (Store.newestFirst_perm d.store).mem_iff.mp hr
  | vanish ids => cases hr

theorem course_read (d : Desk) (ops : List Operation) :
    (∀ r ∈ (d.course ops).desk.store.rows, r ∈ d.store.rows ∨ r ∈ (d.course ops).created) ∧
      ∀ e ∈ (d.course ops).log, ∀ r ∈ e.reply.read,
        r ∈ d.store.rows ∨ r ∈ (d.course ops).created := by
  induction ops using List.reverseRecOn with
  | nil =>
      rw [course_nil]
      exact ⟨fun r hr => Or.inl hr, by simp⟩
  | append_singleton ops op ih =>
      rcases ih with ⟨hrows, hreads⟩
      rw [course_snoc, Course.step, Course.created_push]
      have hstill : ∀ {r : Review}, r ∈ d.store.rows ∨ r ∈ (d.course ops).created →
          r ∈ d.store.rows ∨ r ∈ (d.course ops).created ++
            ((d.course ops).desk.entry op).saved?.toList := by
        rintro r (hold | hcreated)
        · exact Or.inl hold
        · exact Or.inr (List.mem_append_left _ hcreated)
      constructor
      · intro r hr
        rcases mem_rows_of_perform hr with hbefore | hsaved
        · exact hstill (hrows r hbefore)
        · exact Or.inr (List.mem_append_right _ (by simp [hsaved]))
      · intro e he r hr
        rcases List.mem_append.mp he with hearlier | hlast
        · exact hstill (hreads e hearlier r hr)
        · rw [List.mem_singleton.mp hlast] at hr
          exact hstill (hrows r (mem_rows_of_read hr))

theorem eq_review_of_id (h : (d.create w new title content).2.2 = .ok c)
    (hr : r ∈ (d.create w new title content).1.store.rows) (hid : r.id = c.review.id) :
    r = c.review := by
  rcases create_createdBy h with ⟨s, _, hcreated⟩
  rw [hcreated.desk] at hr
  rcases List.mem_append.mp hr with hold | hnew
  · exact absurd hid (hcreated.free r hold)
  · exact List.mem_singleton.mp hnew

/-!
# Exact costs

Costs of less than a billion dollars and ten trillion won are what the review says, and so
does every later reader of its row, until the id is given away again.
-/

/-- A creation that was saved found both costs exactly if its cost step succeeded.  Costs of
less than a billion dollars and ten trillion won are what its review says, and so does every
later reader of its row, until the id is given away again. -/
theorem create_costs_exact (h : (d.create w new title content).2.2 = .ok c) :
    (c.status.cost = .success ↔ ∃ usd krw, d.FindsCosts w title content usd krw) ∧
      ∀ {usd krw : Decimal}, d.FindsCosts w title content usd krw →
        usd.isFinite = true → 0 ≤ usd.toRat → usd.toRat < 10 ^ 9 →
        krw.isFinite = true → 0 ≤ krw.toRat → krw.toRat < 10 ^ 13 →
          c.review.ShowsCosts usd krw ∧
          ∀ (later : List Operation) {e : Entry} {r : Review},
            e ∈ ((d.create w new title content).1.course later).log → r ∈ e.reply.read →
            r.id = c.review.id → r ∉ ((d.create w new title content).1.course later).created →
              r.ShowsCosts usd krw := by
  refine ⟨cost_success_iff h, ?_⟩
  intro usd krw hfound husdFinite husdLow husdHigh hkrwFinite hkrwLow hkrwHigh
  rcases costs_of_found h hfound with ⟨husd, hkrw⟩
  rcases hasPlaces_of_found hfound husdFinite hkrwFinite with ⟨husdPlaces, hkrwPlaces⟩
  have hshows : c.review.ShowsCosts usd krw := by
    constructor
    case usd =>
      rw [husd]
      apply Column.money_shows (by decide) husdPlaces
      rw [abs_of_nonneg husdLow]
      norm_num [Draft.usdPlaces]
      linarith
    case krw =>
      rw [hkrw]
      apply Column.money_shows (by decide) hkrwPlaces
      rw [abs_of_nonneg hkrwLow]
      norm_num [Draft.krwPlaces]
      linarith
  refine ⟨hshows, ?_⟩
  intro later e r he hr hid hother
  have hrow := ((course_read _ later).right e he r hr).resolve_right hother
  rw [eq_review_of_id h hrow hid]
  exact hshows

theorem create_costs_exact_asked :
    ∃ c e r, (furnished.create .fair ⟨"r1", ⟨0⟩⟩ (some "书") (some "好")).2.2 = .ok c ∧
      c.status.cost = .success ∧ c.review.ShowsCosts (.ofUnits 6 150) (.ofUnits 2 20) ∧
      ((furnished.create .fair ⟨"r1", ⟨0⟩⟩ (some "书") (some "好")).1.course [.get "r1"]).log = [e] ∧
      e.reply.read = [r] ∧ r.ShowsCosts (.ofUnits 6 150) (.ofUnits 2 20) := by
  have hfound : furnished.FindsCosts .fair (some "书") (some "好") (.ofUnits 6 150)
      (.ofUnits 2 20) := ⟨_, _, _, rfl, rfl, rfl, rfl, rfl⟩
  obtain ⟨c, hc⟩ :
      ∃ c, (furnished.create .fair ⟨"r1", ⟨0⟩⟩ (some "书") (some "好")).2.2 = .ok c := ⟨_, rfl⟩
  have hid : c.review.id = "r1" := (identity_of_created hc).left
  have hexact := create_costs_exact hc
  rcases hexact.right hfound rfl (by norm_num [Decimal.ofUnits, Decimal.toRat])
    (by norm_num [Decimal.ofUnits, Decimal.toRat]) rfl
    (by norm_num [Decimal.ofUnits, Decimal.toRat]) (by norm_num [Decimal.ofUnits, Decimal.toRat])
    with ⟨hshows, hlater⟩
  refine ⟨c, _, _, hc, hexact.left.mpr ⟨_, _, hfound⟩, hshows, rfl, rfl, ?_⟩
  refine hlater [.get "r1"] (List.mem_singleton_self _) (List.mem_singleton_self _) ?_ ?_
  · rw [hid]
    rfl
  · rintro ⟨⟩

end Desk
end ReviewDesk
