import Mathlib.Data.List.DropRight
import ReviewDesk.Text.Blank

/-!
# Trimmed texts

A text is trimmed when neither of its ends is blank.  Trimming makes a text trimmed
and leaves a trimmed one alone, so it is idempotent; a trimmed text that has a
character at all is not blank.
-/

namespace ReviewDesk
namespace Text

variable {α : Type} {blank : α → Bool}

def IsTrimmed (blank : α → Bool) (cs : List α) : Prop :=
  (∀ hcs : cs ≠ [], blank (cs.head hcs) = false) ∧
    ∀ hcs : cs ≠ [], blank (cs.getLast hcs) = false

/-!
# The two ends
-/

theorem head_trimStart (cs : List α) (h : trimStart blank cs ≠ []) :
    blank ((trimStart blank cs).head h) = false :=
  List.head_dropWhile_not blank h

theorem trimEnd_eq_rdropWhile (cs : List α) :
    trimEnd blank cs = cs.rdropWhile blank :=
  rfl

theorem trimEnd_isPrefix (cs : List α) : trimEnd blank cs <+: cs := by
  rw [trimEnd_eq_rdropWhile]
  exact List.rdropWhile_prefix blank cs

theorem getLast_trimEnd (cs : List α) (h : trimEnd blank cs ≠ []) :
    blank ((trimEnd blank cs).getLast h) = false := by
  have hlast := List.rdropWhile_last_not blank cs h
  simpa [trimEnd_eq_rdropWhile] using hlast

theorem trimStart_eq_self {cs : List α} (h : IsTrimmed blank cs) : trimStart blank cs = cs := by
  cases cs with
  | nil => rfl
  | cons c rest =>
      have hc : blank c = false := h.left (by simp)
      simp [trimStart, hc]

theorem trimEnd_eq_self {cs : List α} (h : IsTrimmed blank cs) : trimEnd blank cs = cs := by
  rw [trimEnd_eq_rdropWhile, List.rdropWhile_eq_self_iff]
  intro hcs
  simp [h.right hcs]

theorem isTrimmed_of_not_blank {cs : List α} (h : ∀ c ∈ cs, blank c = false) :
    IsTrimmed blank cs :=
  ⟨fun hcs => h _ (List.head_mem hcs), fun hcs => h _ (List.getLast_mem hcs)⟩

/-!
# Trimming
-/

theorem isTrimmed_trim (cs : List α) : IsTrimmed blank (trim blank cs) := by
  constructor
  · intro h
    have hstart : trim blank cs <+: trimStart blank cs := trimEnd_isPrefix (trimStart blank cs)
    rw [hstart.head h]
    exact head_trimStart cs (hstart.ne_nil h)
  · intro h
    exact getLast_trimEnd (trimStart blank cs) h

theorem trim_eq_self {cs : List α} (h : IsTrimmed blank cs) : trim blank cs = cs := by
  rw [trim, trimStart_eq_self h, trimEnd_eq_self h]

@[simp] theorem trim_trim (cs : List α) : trim blank (trim blank cs) = trim blank cs :=
  trim_eq_self (isTrimmed_trim cs)

@[simp] theorem trimmed_trimmed (s : String) : trimmed (trimmed s) = trimmed s := by
  simp [trimmed]

/-- What is left of a text when exactly its blank ends are taken off. -/
def Stripped (blank : α → Bool) (cs ds : List α) : Prop :=
  IsTrimmed blank ds ∧ ∃ before after, cs = before ++ ds ++ after ∧
    (∀ c ∈ before, blank c = true) ∧ ∀ c ∈ after, blank c = true

theorem stripped_trim (cs : List α) : Stripped blank cs (trim blank cs) := by
  refine ⟨isTrimmed_trim cs, cs.takeWhile blank, (trimStart blank cs).rtakeWhile blank, ?_, ?_, ?_⟩
  · have hend : trim blank cs ++ (trimStart blank cs).rtakeWhile blank = trimStart blank cs := by
      rw [trim, trimEnd_eq_rdropWhile]
      exact List.rdropWhile_append_rtakeWhile
    rw [List.append_assoc, hend]
    exact List.takeWhile_append_dropWhile.symm
  · intro c hc
    exact List.mem_takeWhile_imp hc
  · intro c hc
    exact List.mem_rtakeWhile_imp hc

theorem eq_trim_of_stripped {cs ds : List α} (h : Stripped blank cs ds) : ds = trim blank cs := by
  rcases h with ⟨htrimmed, before, after, rfl, hbefore, hafter⟩
  have hstart : trimStart blank (before ++ ds ++ after) = trimStart blank (ds ++ after) := by
    rw [List.append_assoc, trimStart, List.dropWhile_append_of_pos hbefore]
    rfl
  by_cases hds : ds = []
  · have hnone : trimStart blank after = [] := List.dropWhile_eq_nil_iff.mpr hafter
    rw [trim, hstart, hds, List.nil_append, hnone]
    rfl
  · obtain ⟨c, rest, rfl⟩ := List.exists_cons_of_ne_nil hds
    have hc : blank c = false := htrimmed.left (List.cons_ne_nil c rest)
    have hkept : trimStart blank (c :: rest ++ after) = c :: rest ++ after := by
      simp [trimStart, hc]
    have hend : trimEnd blank (c :: rest ++ after) = trimEnd blank (c :: rest) := by
      rw [trimEnd, List.reverse_append, List.dropWhile_append_of_pos (by simpa using hafter)]
      rfl
    rw [trim, hstart, hkept, hend, trimEnd_eq_self htrimmed]

theorem stripped_iff {cs ds : List α} : Stripped blank cs ds ↔ ds = trim blank cs := by
  constructor
  · exact eq_trim_of_stripped
  · rintro rfl
    exact stripped_trim cs

def Padded (blank : α → Bool) (cs ds : List α) : Prop :=
  ∃ before after, ds = before ++ cs ++ after ∧
    (∀ c ∈ before, blank c = true) ∧ ∀ c ∈ after, blank c = true

theorem trim_of_padded {cs ds : List α} (h : Padded blank cs ds) : trim blank ds = trim blank cs := by
  rcases h with ⟨before, after, rfl, hbefore, hafter⟩
  rcases stripped_trim cs with ⟨htrimmed, first, last, hcs, hfirst, hlast⟩
  have hstripped : Stripped blank (before ++ cs ++ after) (trim blank cs) := by
    refine ⟨htrimmed, before ++ first, last ++ after, ?_, ?_, ?_⟩
    · calc before ++ cs ++ after = before ++ (first ++ trim blank cs ++ last) ++ after := by rw [← hcs]
        _ = before ++ first ++ trim blank cs ++ (last ++ after) := by simp only [List.append_assoc]
    · intro c hc
      exact (List.mem_append.mp hc).elim (hbefore c) (hfirst c)
    · intro c hc
      exact (List.mem_append.mp hc).elim (hlast c) (hafter c)
  exact (eq_trim_of_stripped hstripped).symm

theorem all_isBlank_marks (s : String) : (marks s).all Mark.isBlank = isBlankText s := by
  simp [marks, isBlankText, Mark.isBlank, Mark.char?, Function.comp_def]

theorem not_all_isBlank {cs : List α} (h : IsTrimmed blank cs) (hcs : cs ≠ []) :
    cs.all blank = false := by
  rw [List.all_eq_false]
  exact ⟨cs.head hcs, List.head_mem hcs, by simp [h.left hcs]⟩

end Text
end ReviewDesk
