import Mathlib.Data.List.Infix
import ReviewDesk.Text.Replace

/-!
# What replacing a key leaves

A text is cut into parts at the occurrences of the key that are replaced.  The parts hold
no key, and the value stands between them in the place of the key.  A value that shares no
character with the key cannot help to form a new key, not even where it meets a part.
-/

namespace ReviewDesk
namespace Text

variable {key value cs : List Char} {parts : List (List Char)}

/-!
# Texts cut into parts
-/

/-- The text is made of parts without the key, and the key stands between them. -/
structure CutAt (key cs : List Char) (parts : List (List Char)) : Prop where
  text : key.intercalate parts = cs
  keyless : ∀ part ∈ parts, ¬ key <:+: part
  nonempty : parts ≠ []

theorem intercalate_nil_cons (mark : List Char) (h : parts ≠ []) :
    mark.intercalate ([] :: parts) = mark ++ mark.intercalate parts := by
  cases parts with
  | nil => exact absurd rfl h
  | cons part rest => rw [List.intercalate_cons_cons, List.nil_append]

theorem intercalate_cons_cons_cons (mark part : List Char) (c : Char) (rest : List (List Char)) :
    mark.intercalate ((c :: part) :: rest) = c :: mark.intercalate (part :: rest) := by
  cases rest with
  | nil => simp
  | cons next rest => simp [List.intercalate_cons_cons]

theorem isPrefix_intercalate (mark part : List Char) (rest : List (List Char)) :
    part <+: mark.intercalate (part :: rest) := by
  cases rest with
  | nil => simp
  | cons next rest =>
      rw [List.intercalate_cons_cons, List.append_assoc]
      exact List.prefix_append part _

theorem cutAt_nil (hkey : key ≠ []) : CutAt key [] [[]] where
  text := List.intercalate_singleton
  keyless := by
    intro part hpart
    rw [List.mem_singleton.mp hpart, List.infix_nil]
    exact hkey
  nonempty := List.cons_ne_nil _ _

theorem CutAt.found (hkey : key ≠ []) (h : CutAt key cs parts) :
    CutAt key (key ++ cs) ([] :: parts) where
  text := by rw [intercalate_nil_cons key h.nonempty, h.text]
  keyless := by
    intro part hpart
    rcases List.mem_cons.mp hpart with rfl | hpart
    · rw [List.infix_nil]
      exact hkey
    · exact h.keyless part hpart
  nonempty := List.cons_ne_nil _ _

theorem CutAt.kept {c : Char} {part : List Char} {rest : List (List Char)}
    (hmiss : ¬ key <+: c :: cs) (h : CutAt key cs (part :: rest)) :
    CutAt key (c :: cs) ((c :: part) :: rest) where
  text := by rw [intercalate_cons_cons_cons, h.text]
  keyless := by
    have hwithin : c :: part <+: c :: cs := by
      rw [List.prefix_cons_inj, ← h.text]
      exact isPrefix_intercalate key part rest
    intro other hother
    rcases List.mem_cons.mp hother with rfl | hother
    · rw [List.infix_cons_iff, not_or]
      exact ⟨fun hbegins => hmiss (hbegins.trans hwithin), h.keyless part (by simp)⟩
    · exact h.keyless other (by simp [hother])
  nonempty := List.cons_ne_nil _ _

theorem CutAt.eq_singleton (h : CutAt key cs parts) (hnone : ¬ key <:+: cs) : parts = [cs] := by
  have htext := h.text
  cases parts with
  | nil => exact absurd rfl h.nonempty
  | cons part rest =>
      cases rest with
      | nil => rw [← htext, List.intercalate_singleton]
      | cons next rest =>
          rw [List.intercalate_cons_cons] at htext
          apply absurd _ hnone
          rw [← htext]
          exact List.infix_append part key _

/-!
# Replacing
-/

theorem exists_cutAt {fuel : Nat} (value : List Char) (hkey : key ≠ [])
    (hfuel : cs.length ≤ fuel) :
    ∃ parts, CutAt key cs parts ∧ replaceFrom key value fuel cs = value.intercalate parts := by
  induction fuel generalizing cs with
  | zero =>
      rw [List.length_eq_zero_iff.mp (Nat.le_zero.mp hfuel)]
      exact ⟨[[]], cutAt_nil hkey, List.intercalate_singleton.symm⟩
  | succ fuel ih =>
      cases cs with
      | nil => exact ⟨[[]], cutAt_nil hkey, List.intercalate_singleton.symm⟩
      | cons c cs =>
          rw [replaceFrom]
          by_cases hbegins : key <+: c :: cs
          · rw [if_pos (List.isPrefixOf_iff_prefix.mpr hbegins)]
            have hlength := List.length_pos_iff.mpr hkey
            have hrest : ((c :: cs).drop key.length).length ≤ fuel := by
              rw [List.length_drop]
              omega
            rcases ih hrest with ⟨parts, hcut, hvalue⟩
            have hfound := hcut.found hkey
            rw [← List.prefix_iff_eq_append.mp hbegins, List.drop_left, hvalue,
              ← intercalate_nil_cons value hcut.nonempty]
            exact ⟨[] :: parts, hfound, rfl⟩
          · rw [if_neg (fun h => hbegins (List.isPrefixOf_iff_prefix.mp h))]
            rcases ih (Nat.le_of_succ_le_succ hfuel) with ⟨parts, hcut, hvalue⟩
            cases parts with
            | nil => exact absurd rfl hcut.nonempty
            | cons part rest =>
                refine ⟨(c :: part) :: rest, hcut.kept hbegins, ?_⟩
                rw [hvalue, intercalate_cons_cons_cons]

/-!
# Seams

A key does not reach over a value that it shares no character with.
-/

theorem eq_nil_of_disjoint {piece : List Char} (hdisjoint : List.Disjoint key value)
    (hkey : piece ⊆ key) (hvalue : piece ⊆ value) : piece = [] := by
  rw [List.eq_nil_iff_forall_not_mem]
  exact fun c hc => hdisjoint (hkey hc) (hvalue hc)

theorem isInfix_behind {ys : List Char} (hdisjoint : List.Disjoint key value)
    (h : key <:+: value ++ ys) : key <:+: ys := by
  rcases List.infix_append_iff.mp h with hinside | hbehind | ⟨left, right, hsplit, hleft, hright⟩
  · have hempty := eq_nil_of_disjoint hdisjoint (List.Subset.refl key) hinside.subset
    rw [hempty]
    exact List.nil_infix
  · exact hbehind
  · have hempty := eq_nil_of_disjoint hdisjoint (by simp [hsplit]) hleft.subset
    rw [hsplit, hempty]
    exact hright.isInfix

theorem isInfix_append_of_disjoint {xs ys : List Char} (hvalue : value ≠ [])
    (hdisjoint : List.Disjoint key value) (h : key <:+: xs ++ (value ++ ys)) :
    key <:+: xs ∨ key <:+: ys := by
  rcases List.infix_append_iff.mp h with hbefore | hbehind | ⟨left, right, hsplit, hleft, hright⟩
  · exact Or.inl hbefore
  · exact Or.inr (isInfix_behind hdisjoint hbehind)
  · cases right with
    | nil =>
        rw [hsplit, List.append_nil]
        exact Or.inl hleft.isInfix
    | cons c right =>
        -- the first character of the key behind the seam would be the first one of the value
        cases value with
        | nil => exact absurd rfl hvalue
        | cons v value =>
            rw [List.cons_append, List.cons_prefix_cons] at hright
            exact absurd List.mem_cons_self (hdisjoint (by simp [hsplit, hright.left]))

theorem not_isInfix_intercalate (hkey : key ≠ []) (hvalue : value ≠ [])
    (hdisjoint : List.Disjoint key value) (hparts : ∀ part ∈ parts, ¬ key <:+: part) :
    ¬ key <:+: value.intercalate parts := by
  induction parts with
  | nil =>
      rw [List.intercalate_nil, List.infix_nil]
      exact hkey
  | cons part rest ih =>
      cases rest with
      | nil =>
          rw [List.intercalate_singleton]
          exact hparts part (by simp)
      | cons next rest =>
          rw [List.intercalate_cons_cons, List.append_assoc]
          intro hwithin
          rcases isInfix_append_of_disjoint hvalue hdisjoint hwithin with hpart | hrest
          · exact hparts part (by simp) hpart
          · exact ih (fun other hother => hparts other (by simp [hother])) hrest

/-!
# Masking
-/

def stars : List Char :=
  List.replicate 4 '*'

/-- Masking cuts the text at occurrences of the secret and puts stars in their places.  No
secret is left, also where stars meet the text, and a text without the secret stays. -/
theorem mask_conceals {secret : String} (hsecret : secret ≠ "") (hstar : '*' ∉ secret.toList)
    (s : String) :
    ¬ secret.toList <:+: (mask secret s).toList ∧
      (∃ parts, CutAt secret.toList s.toList parts ∧
        (mask secret s).toList = stars.intercalate parts) ∧
      (¬ secret.toList <:+: s.toList → mask secret s = s) := by
  have hkey : secret.toList ≠ [] := by
    intro hempty
    exact hsecret (String.toList_eq_nil_iff.mp hempty)
  have hdisjoint : List.Disjoint secret.toList stars := by
    intro c hc hstars
    rw [List.eq_of_mem_replicate hstars] at hc
    exact hstar hc
  have hmask : mask secret s = String.ofList (replaceList secret.toList stars s.toList) := by
    rw [mask, if_neg (by simpa using hsecret)]
    rfl
  rcases exists_cutAt stars hkey (Nat.le_refl s.toList.length) with ⟨parts, hcut, hparts⟩
  rw [hmask, String.toList_ofList, replaceList, hparts]
  refine ⟨not_isInfix_intercalate hkey (by decide) hdisjoint hcut.keyless,
    ⟨parts, hcut, rfl⟩, ?_⟩
  intro hnone
  rw [hcut.eq_singleton hnone, List.intercalate_singleton, String.ofList_toList]

theorem mask_conceals_overlapping :
    mask "aba" "*ababa*" = "*****ba*" ∧ ¬ "aba".toList <:+: (mask "aba" "*ababa*").toList ∧
      ∃ parts, CutAt "aba".toList "*ababa*".toList parts ∧
        (mask "aba" "*ababa*").toList = stars.intercalate parts := by
  have hconceals := mask_conceals (by decide : "aba" ≠ "") (by decide) "*ababa*"
  exact ⟨by decide +kernel, hconceals.left, hconceals.right.left⟩

end Text
end ReviewDesk
