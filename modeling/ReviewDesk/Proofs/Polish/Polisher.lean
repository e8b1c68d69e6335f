import ReviewDesk.Polish.Polisher
import ReviewDesk.Proofs.Outcome
import ReviewDesk.Proofs.Text.Blank

/-!
# What polishing yields

The model is asked once, if there is a key for it.  A polished text is the cleaned text
of the reply and is never blank.
-/

namespace ReviewDesk

namespace Reasoning

open Text

theorem isTrimmed_clean (ms : List Mark) : IsTrimmed Mark.isBlank (clean ms) :=
  isTrimmed_trim _

theorem not_all_isBlank_clean {ms : List Mark} (h : clean ms ≠ []) :
    (clean ms).all Mark.isBlank = false :=
  not_all_isBlank (isTrimmed_clean ms) h

end Reasoning

namespace ModelReply

theorem read_eq_success {configured : String} {r : ModelReply} {p : Polished}
    (h : r.read configured = .ok (.success p)) :
    ∃ text, messageText r.content = .ok text ∧ p.content = Reasoning.clean text ∧
      p.content ≠ [] := by
  rcases bind_eq_ok_iff.mp h with ⟨text, htext, h⟩
  dsimp only at h
  split at h
  · cases h
  · rename_i hcontent
    rcases bind_eq_ok_iff.mp h with ⟨_, _, h⟩
    rcases bind_eq_ok_iff.mp h with ⟨_, _, h⟩
    rcases bind_eq_ok_iff.mp h with ⟨⟨_, _⟩, _, h⟩
    rcases bind_eq_ok_iff.mp h with ⟨_, _, h⟩
    simp only [pure, Except.pure, Except.ok.injEq, Outcome.success.injEq] at h
    subst h
    refine ⟨text, htext, rfl, ?_⟩
    simpa using hcontent

end ModelReply

namespace Prompt

open Text

theorem isInfix_human (title content : List Mark) :
    title <:+: human title content ∧ content <:+: human title content := by
  constructor
  · exact ⟨marks "书名：", marks "\n\n原始书评：\n" ++ content ++ marks "\n\n请输出润色后的书评：",
      by simp [human]⟩
  · exact ⟨marks "书名：" ++ title ++ marks "\n\n原始书评：\n", marks "\n\n请输出润色后的书评：",
      rfl⟩

theorem human_inj {title title' content content' : List Mark}
    (hsame : title = title' ∨ content = content') :
    human title content = human title' content' ↔ title = title' ∧ content = content' := by
  rcases hsame with rfl | rfl
  · simp [human]
  · simp [human]

end Prompt

namespace Polisher

theorem improve_requests (p : Polisher) (answer : Except Fault ModelReply)
    (title content : List Text.Mark) :
    (p.improve answer title content).requests =
      if p.configured then [.polish (Prompt.human title content)] else [] := by
  unfold improve
  split
  · rfl
  · rfl

theorem improve_eq_success {p : Polisher} {answer : Except Fault ModelReply}
    {title content : List Text.Mark} {polished : Polished}
    (h : (p.improve answer title content).outcome = .success polished) :
    ∃ reply text, answer = .ok reply ∧ ModelReply.messageText reply.content = .ok text ∧
      polished.content = Reasoning.clean text ∧ polished.content ≠ [] := by
  have hresult := Outcome.ofAttempt_eq_success_iff.mp h
  unfold improve at hresult
  split at hresult
  · dsimp only at hresult
    split at hresult
    · rename_i reply
      rcases ModelReply.read_eq_success hresult with ⟨text, htext, hclean, hne⟩
      exact ⟨reply, text, rfl, htext, hclean, hne⟩
    · cases hresult
    · cases hresult
  · cases hresult

end Polisher
end ReviewDesk
