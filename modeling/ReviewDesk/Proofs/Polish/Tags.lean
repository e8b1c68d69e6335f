import ReviewDesk.Proofs.Polish.Reasoning

/-!
# Tags that are left over

Tags are taken out once, from left to right, and the text on their two sides is joined.  A
tag is left over exactly where one was interrupted by whole tags.  Line ends and blank
characters are no part of a tag, so shortening and trimming neither make nor break any, and
a second cleaning changes nothing exactly when the first one left no tag.
-/

namespace ReviewDesk
namespace Reasoning

open Text

variable {tag cs ds : List Mark}

/-!
# Tags at the beginning
-/

theorem eq_of_isPrefix {other : List Mark} (htag : tag ∈ tags) (hother : other ∈ tags)
    (h : tag <+: other) : tag = other := by
  have hall : ∀ tag ∈ tags, ∀ other ∈ tags, tag <+: other → tag = other := by decide
  exact hall tag htag other hother h

theorem beginsBracketed_append (htag : tag ∈ tags) (cs : List Mark) :
    BeginsBracketed (tag ++ cs) := by
  rcases isBracketed_of_mem_tags htag with ⟨body, hbody, _⟩
  simp [BeginsBracketed, hbody]

theorem after?_eq_some {sign rest : List Mark} (h : after? sign cs = some rest) :
    cs = sign ++ rest := by
  unfold after? at h
  split at h
  · rename_i hprefix
    rcases List.isPrefixOf_iff_prefix.mp hprefix with ⟨behind, rfl⟩
    simpa using h
  · cases h

theorem afterTag?_eq_some {rest : List Mark} (h : afterTag? cs = some rest) :
    ∃ tag ∈ tags, cs = tag ++ rest := by
  rcases List.exists_of_findSome?_eq_some h with ⟨name, hname, hafter⟩
  cases hopen : after? (openTag name) cs with
  | some found =>
      have hfound : found = rest := by simpa [hopen] using hafter
      rw [hfound] at hopen
      exact ⟨_, openTag_mem_tags hname, after?_eq_some hopen⟩
  | none =>
      have hclose : after? (closeTag name) cs = some rest := by simpa [hopen] using hafter
      exact ⟨_, closeTag_mem_tags hname, after?_eq_some hclose⟩

theorem not_isPrefix_of_afterTag? (h : afterTag? cs = none) : ∀ tag ∈ tags, ¬ tag <+: cs := by
  intro tag htag hprefix
  rcases hprefix with ⟨rest, rfl⟩
  rw [afterTag?, List.findSome?_eq_none_iff] at h
  simp only [tags, List.mem_append, List.mem_map] at htag
  rcases htag with ⟨name, hname, rfl⟩ | ⟨name, hname, rfl⟩
  · have hnone := h name hname
    simp [after?_of_isPrefix] at hnone
  · have hnone := h name hname
    cases hopen : after? (openTag name) (closeTag name ++ rest) with
    | some found => simp [hopen] at hnone
    | none => simp [hopen, after?_of_isPrefix] at hnone

theorem afterTag?_eq_none (h : ∀ tag ∈ tags, ¬ tag <+: cs) : afterTag? cs = none := by
  cases hafter : afterTag? cs with
  | none => rfl
  | some rest =>
      rcases afterTag?_eq_some hafter with ⟨tag, htag, rfl⟩
      exact absurd (List.prefix_append tag rest) (h tag htag)

theorem afterTag?_append (htag : tag ∈ tags) (rest : List Mark) :
    afterTag? (tag ++ rest) = some rest := by
  cases hafter : afterTag? (tag ++ rest) with
  | none => exact absurd (List.prefix_append tag rest) (not_isPrefix_of_afterTag? hafter tag htag)
  | some found =>
      rcases afterTag?_eq_some hafter with ⟨other, hother, hsplit⟩
      have hsame : tag = other := by
        have hwithin : other <+: tag ++ rest := ⟨found, hsplit.symm⟩
        rcases List.prefix_or_prefix_of_prefix (List.prefix_append tag rest) hwithin with h | h
        · exact eq_of_isPrefix htag hother h
        · exact (eq_of_isPrefix hother htag h).symm
      rw [hsame] at hsplit
      rw [List.append_cancel_left hsplit]

/-!
# Taking tags out
-/

theorem length_of_afterTag? {rest : List Mark} (h : afterTag? cs = some rest) :
    rest.length < cs.length := by
  rcases afterTag?_eq_some h with ⟨tag, htag, rfl⟩
  rcases isBracketed_of_mem_tags htag with ⟨body, rfl, _⟩
  rw [List.length_append, List.length_cons]
  omega

theorem dropTagsFrom_congr {fuel other : Nat} (hfuel : cs.length ≤ fuel)
    (hother : cs.length ≤ other) : dropTagsFrom fuel cs = dropTagsFrom other cs := by
  induction fuel generalizing cs other with
  | zero =>
      have hnil : cs = [] := List.eq_nil_of_length_eq_zero (Nat.le_zero.mp hfuel)
      rw [hnil]
      cases other with
      | zero => rfl
      | succ other => rfl
  | succ fuel ih =>
      cases cs with
      | nil =>
          cases other with
          | zero => rfl
          | succ other => rfl
      | cons c cs =>
          cases other with
          | zero => exact absurd hother (by simp)
          | succ other =>
              rw [List.length_cons] at hfuel hother
              rw [dropTagsFrom, dropTagsFrom]
              cases hafter : afterTag? (c :: cs) with
              | some rest =>
                  have hshorter := length_of_afterTag? hafter
                  rw [List.length_cons] at hshorter
                  exact ih (by omega) (by omega)
              | none => exact congrArg (c :: ·) (ih (by omega) (by omega))

theorem dropTags_append (htag : tag ∈ tags) (cs : List Mark) :
    dropTags (tag ++ cs) = dropTags cs := by
  have hafter := afterTag?_append htag cs
  have hshorter := length_of_afterTag? hafter
  cases htext : tag ++ cs with
  | nil =>
      rw [htext] at hshorter
      cases hshorter
  | cons c rest =>
      rw [htext] at hafter hshorter
      rw [dropTags, List.length_cons, dropTagsFrom, hafter]
      exact dropTagsFrom_congr (Nat.le_of_lt_succ hshorter) (Nat.le_refl _)

theorem dropTags_cons {c : Mark} (h : afterTag? (c :: cs) = none) :
    dropTags (c :: cs) = c :: dropTags cs := by
  rw [dropTags, List.length_cons, dropTagsFrom, h]
  rfl

theorem tag_induction {motive : List Mark → Prop} (nil : motive [])
    (tag : ∀ tag ∈ tags, ∀ rest, motive rest → motive (tag ++ rest))
    (char : ∀ c rest, afterTag? (c :: rest) = none → motive rest → motive (c :: rest))
    (cs : List Mark) : motive cs := by
  induction hlength : cs.length using Nat.strongRecOn generalizing cs with
  | ind n ih =>
      cases cs with
      | nil => exact nil
      | cons c rest =>
          cases hafter : afterTag? (c :: rest) with
          | none =>
              have hshorter : rest.length < n := by
                rw [← hlength]
                exact Nat.lt_succ_self _
              exact char c rest hafter (ih rest.length hshorter rest rfl)
          | some behind =>
              have hshorter := length_of_afterTag? hafter
              rcases afterTag?_eq_some hafter with ⟨found, hfound, hsplit⟩
              rw [hsplit]
              exact tag found hfound behind (ih behind.length (by omega) behind rfl)

theorem dropTags_sublist (cs : List Mark) : (dropTags cs).Sublist cs := by
  induction cs using tag_induction with
  | nil => exact List.Sublist.refl []
  | tag tag htag rest ih =>
      rw [dropTags_append htag]
      exact ih.trans (List.sublist_append_right tag rest)
  | char c rest hnone ih =>
      rw [dropTags_cons hnone]
      exact ih.cons_cons c

theorem dropTags_append_of_beginsBracketed (h : BeginsBracketed ds) (cs : List Mark) :
    dropTags (cs ++ ds) = dropTags cs ++ dropTags ds := by
  induction cs using tag_induction with
  | nil => rfl
  | tag tag htag rest ih => rw [List.append_assoc, dropTags_append htag, dropTags_append htag, ih]
  | char c rest hnone ih =>
      have hmiss : afterTag? (c :: (rest ++ ds)) = none := by
        apply afterTag?_eq_none
        intro tag htag hprefix
        have hinside :=
          isPrefix_of_append (isBracketed_of_mem_tags htag) (List.cons_ne_nil c rest) h hprefix
        exact not_isPrefix_of_afterTag? hnone tag htag hinside
      rw [List.cons_append, dropTags_cons hmiss, dropTags_cons hnone, ih, List.cons_append]

theorem hasNoTag_of_dropTags_eq_self (h : dropTags cs = cs) : HasNoTag cs := by
  intro tag htag hwithin
  rcases hwithin with ⟨before, behind, rfl⟩
  have hdropped : dropTags (before ++ tag ++ behind) = dropTags before ++ dropTags behind := by
    rw [List.append_assoc, dropTags_append_of_beginsBracketed (beginsBracketed_append htag behind),
      dropTags_append htag]
  have hbefore := (dropTags_sublist before).length_le
  have hbehind := (dropTags_sublist behind).length_le
  have hlength : (dropTags before ++ dropTags behind).length =
      (before ++ tag ++ behind).length := by
    rw [← hdropped, h]
  rcases isBracketed_of_mem_tags htag with ⟨body, rfl, _⟩
  simp only [List.length_append, List.length_cons] at hlength
  omega

/-!
# Interrupted tags

A tag is interrupted where whole tags stand before some of its characters.  Taking those
out leaves the tag around them.
-/

/-- The second text is the first one with whole tags put before some of its characters. -/
inductive Stuffed : List Mark → List Mark → Prop where
  | nil : Stuffed [] []
  | char (c : Mark) {before : List (List Mark)} {cs ds : List Mark}
      (hbefore : ∀ tag ∈ before, tag ∈ tags) (h : Stuffed cs ds) :
      Stuffed (c :: cs) (before.flatten ++ c :: ds)

/-- Somewhere in the text stands a tag with whole tags inside of it. -/
def Interrupted (cs : List Mark) : Prop :=
  ∃ body inner, Mark.char '<' :: body ∈ tags ∧ Stuffed body inner ∧ inner ≠ body ∧
    Mark.char '<' :: inner <:+: cs

theorem dropTags_flatten {before : List (List Mark)} (h : ∀ tag ∈ before, tag ∈ tags)
    (cs : List Mark) : dropTags (before.flatten ++ cs) = dropTags cs := by
  induction before with
  | nil => rfl
  | cons tag before ih =>
      rw [List.flatten_cons, List.append_assoc, dropTags_append (h tag List.mem_cons_self)]
      exact ih fun other hother => h other (List.mem_cons_of_mem tag hother)

theorem dropTags_eq_cons {c : Mark} (h : dropTags cs = c :: ds) :
    ∃ before rest, (∀ tag ∈ before, tag ∈ tags) ∧ cs = List.flatten before ++ c :: rest ∧
      afterTag? (c :: rest) = none ∧ dropTags rest = ds := by
  induction cs using tag_induction with
  | nil => cases h
  | tag tag htag rest ih =>
      rw [dropTags_append htag] at h
      rcases ih h with ⟨before, behind, hbefore, rfl, hnone, hbehind⟩
      refine ⟨tag :: before, behind, ?_, by simp, hnone, hbehind⟩
      intro other hother
      rcases List.mem_cons.mp hother with rfl | hother
      · exact htag
      · exact hbefore other hother
  | char d rest hnone ih =>
      rw [dropTags_cons hnone, List.cons.injEq] at h
      rcases h with ⟨rfl, hrest⟩
      exact ⟨[], rest, by simp, rfl, hnone, hrest⟩

theorem dropTags_eq_append {begun behind : List Mark} (h : dropTags cs = begun ++ behind) :
    ∃ rest, rest <:+ cs ∧ dropTags rest = behind := by
  induction begun generalizing cs with
  | nil => exact ⟨cs, List.suffix_rfl, h⟩
  | cons c begun ih =>
      rcases dropTags_eq_cons h with ⟨before, rest, _, rfl, _, hrest⟩
      rcases ih hrest with ⟨last, hlast, hdropped⟩
      have hwithin : rest <:+ before.flatten ++ c :: rest :=
        (List.suffix_cons c rest).trans (List.suffix_append _ _)
      exact ⟨last, hlast.trans hwithin, hdropped⟩

theorem stuffed_of_dropTags {body behind : List Mark} (h : dropTags cs = body ++ behind) :
    ∃ inner, Stuffed body inner ∧ inner <+: cs := by
  induction body generalizing cs with
  | nil => exact ⟨[], .nil, List.nil_prefix⟩
  | cons c body ih =>
      rcases dropTags_eq_cons h with ⟨before, rest, hbefore, rfl, _, hrest⟩
      rcases ih hrest with ⟨inner, hstuffed, hprefix⟩
      refine ⟨_, .char c hbefore hstuffed, ?_⟩
      rw [List.prefix_append_right_inj, List.cons_prefix_cons]
      exact ⟨rfl, hprefix⟩

theorem interrupted_of_isInfix (htag : tag ∈ tags) (h : tag <:+: dropTags cs) :
    Interrupted cs := by
  rcases isBracketed_of_mem_tags htag with ⟨body, rfl, _⟩
  rcases h with ⟨begun, behind, hleft⟩
  have hsplit : dropTags cs = begun ++ Mark.char '<' :: (body ++ behind) := by simp [← hleft]
  rcases dropTags_eq_append hsplit with ⟨rest, hrest, hdropped⟩
  rcases dropTags_eq_cons hdropped with ⟨before, last, _, rfl, hnone, hlast⟩
  rcases stuffed_of_dropTags hlast with ⟨inner, hstuffed, hprefix⟩
  have hbegin : Mark.char '<' :: inner <+: Mark.char '<' :: last :=
    List.cons_prefix_cons.mpr ⟨rfl, hprefix⟩
  refine ⟨body, inner, htag, hstuffed, ?_, ?_⟩
  · intro hsame
    rw [hsame] at hbegin
    exact not_isPrefix_of_afterTag? hnone _ htag hbegin
  · exact hbegin.isInfix.trans ((List.suffix_append _ _).trans hrest).isInfix

theorem dropTags_stuffed {body inner : List Mark} (h : Stuffed body inner)
    (hbody : Mark.char '<' ∉ body) (cs : List Mark) : dropTags (inner ++ cs) = body ++ dropTags cs := by
  induction h with
  | nil => rfl
  | char c hbefore h ih =>
      rw [List.mem_cons, not_or] at hbody
      have hnone : ∀ rest, afterTag? (c :: rest) = none := by
        intro rest
        apply afterTag?_eq_none
        intro tag htag hprefix
        rcases isBracketed_of_mem_tags htag with ⟨body, rfl, _⟩
        exact hbody.left (List.cons_prefix_cons.mp hprefix).left
      rw [List.append_assoc, dropTags_flatten hbefore, List.cons_append, dropTags_cons (hnone _),
        ih hbody.right, List.cons_append]

theorem Stuffed.exists_tag {body inner : List Mark} (h : Stuffed body inner) (hne : inner ≠ body) :
    ∃ begun tag behind, begun <+: body ∧ begun ≠ body ∧ tag ∈ tags ∧
      inner = begun ++ (tag ++ behind) := by
  induction h with
  | nil => exact absurd rfl hne
  | @char c before cs ds hbefore h ih =>
      cases before with
      | cons tag before =>
          exact ⟨[], tag, before.flatten ++ c :: ds, List.nil_prefix, by simp,
            hbefore tag List.mem_cons_self, by simp⟩
      | nil =>
          have hinner : ds ≠ cs := by
            intro hsame
            exact hne (by rw [hsame]; rfl)
          rcases ih hinner with ⟨begun, tag, behind, hbegun, hshort, htag, rfl⟩
          refine ⟨c :: begun, tag, behind, ?_, by simpa using hshort, htag, rfl⟩
          exact List.cons_prefix_cons.mpr ⟨rfl, hbegun⟩

theorem afterTag?_of_stuffed {body inner : List Mark} (htag : Mark.char '<' :: body ∈ tags)
    (h : Stuffed body inner) (hne : inner ≠ body) (cs : List Mark) :
    afterTag? (Mark.char '<' :: inner ++ cs) = none := by
  rcases h.exists_tag hne with ⟨begun, inside, behind, hbegun, hshort, hinside, rfl⟩
  apply afterTag?_eq_none
  intro tag hother hprefix
  have htext : Mark.char '<' :: (begun ++ (inside ++ behind)) ++ cs =
      Mark.char '<' :: begun ++ (inside ++ (behind ++ cs)) := by simp
  rw [htext] at hprefix
  have hstart := isPrefix_of_append (isBracketed_of_mem_tags hother)
    (List.cons_ne_nil (Mark.char '<') begun) (beginsBracketed_append hinside _) hprefix
  have hbody : Mark.char '<' :: begun <+: Mark.char '<' :: body :=
    List.cons_prefix_cons.mpr ⟨rfl, hbegun⟩
  have hsame : tag = Mark.char '<' :: body := eq_of_isPrefix hother htag (hstart.trans hbody)
  rw [hsame] at hstart
  have hback : body <+: begun := (List.cons_prefix_cons.mp hstart).right
  exact hshort (hbegun.eq_of_length (Nat.le_antisymm hbegun.length_le hback.length_le))

theorem isInfix_of_interrupted (h : Interrupted cs) : ∃ tag ∈ tags, tag <:+: dropTags cs := by
  rcases h with ⟨body, inner, htag, hstuffed, hne, before, behind, rfl⟩
  rcases isBracketed_of_mem_tags htag with ⟨other, hsign, hnone⟩
  obtain rfl : body = other := List.tail_eq_of_cons_eq hsign
  have hbegins : BeginsBracketed (Mark.char '<' :: inner ++ behind) := by simp [BeginsBracketed]
  have hbegin := afterTag?_of_stuffed htag hstuffed hne behind
  rw [List.cons_append] at hbegin
  refine ⟨Mark.char '<' :: body, htag, dropTags before, dropTags behind, ?_⟩
  rw [List.append_assoc before, dropTags_append_of_beginsBracketed hbegins, List.cons_append,
    dropTags_cons hbegin, dropTags_stuffed hstuffed hnone]
  simp

theorem hasNoTag_dropTags_iff (cs : List Mark) : HasNoTag (dropTags cs) ↔ ¬ Interrupted cs := by
  constructor
  · intro hnone hinterrupted
    rcases isInfix_of_interrupted hinterrupted with ⟨tag, htag, hleft⟩
    exact hnone tag htag hleft
  · intro hwhole tag htag hleft
    exact hwhole (interrupted_of_isInfix htag hleft)

/-!
# Line ends and blank ends
-/

def IsSolid (sign : List Mark) : Prop :=
  sign ≠ [] ∧ ∀ c ∈ sign, c.isBlank = false

theorem isSolid_of_mem_tags (htag : tag ∈ tags) : IsSolid tag := by
  have hall : tags.all (fun tag => tag.all fun c => !c.isBlank) = true := by decide
  have hsolid := List.all_eq_true.mp hall tag htag
  simp only [List.all_eq_true, Bool.not_eq_true'] at hsolid
  rcases isBracketed_of_mem_tags htag with ⟨body, rfl, _⟩
  exact ⟨List.cons_ne_nil (Mark.char '<') body, hsolid⟩

variable {sign : List Mark}

theorem not_isPrefix_of_blank (hsign : IsSolid sign) {c : Mark} (hc : c.isBlank = true) :
    ¬ sign <+: c :: cs := by
  intro hprefix
  rcases hsign with ⟨hne, hsolid⟩
  cases sign with
  | nil => exact hne rfl
  | cons d sign =>
      have hd : d = c := (List.cons_prefix_cons.mp hprefix).left
      have hsolid := hsolid d List.mem_cons_self
      rw [hd, hc] at hsolid
      cases hsolid

theorem isInfix_cons_iff_of_blank (hsign : IsSolid sign) {c : Mark} (hc : c.isBlank = true) :
    sign <:+: c :: cs ↔ sign <:+: cs := by
  rw [List.infix_cons_iff, or_iff_right (not_isPrefix_of_blank hsign hc)]

theorem isPrefix_shortenLines_iff (hsign : ∀ c ∈ sign, c.isBlank = false) (cs : List Mark) :
    sign <+: shortenLines 0 cs ↔ sign <+: cs := by
  induction cs generalizing sign with
  | nil => rfl
  | cons c cs ih =>
      cases sign with
      | nil => simp
      | cons d sign =>
          by_cases hc : c = .char '\n'
          · have hsolid : IsSolid (d :: sign) := ⟨List.cons_ne_nil d sign, hsign⟩
            rw [hc, shortenLines, if_pos rfl]
            exact iff_of_false (not_isPrefix_of_blank hsolid rfl) (not_isPrefix_of_blank hsolid rfl)
          · rw [shortenLines, if_neg hc, List.cons_prefix_cons, List.cons_prefix_cons,
              ih fun e he => hsign e (List.mem_cons_of_mem d he)]

theorem isInfix_shortenLines_iff (hsign : IsSolid sign) (run : Nat) (cs : List Mark) :
    sign <:+: shortenLines run cs ↔ sign <:+: cs := by
  induction cs generalizing run with
  | nil => rfl
  | cons c cs ih =>
      by_cases hc : c = .char '\n'
      · rw [hc, shortenLines, if_pos rfl, isInfix_cons_iff_of_blank hsign rfl]
        split
        · exact (isInfix_cons_iff_of_blank hsign rfl).trans (ih (run + 1))
        · exact ih (run + 1)
      · rw [shortenLines, if_neg hc, List.infix_cons_iff, List.infix_cons_iff, ih 0]
        have hbegin := isPrefix_shortenLines_iff hsign.right (c :: cs)
        rw [shortenLines, if_neg hc] at hbegin
        rw [hbegin]

theorem isInfix_trimStart_iff (hsign : IsSolid sign) (cs : List Mark) :
    sign <:+: trimStart Mark.isBlank cs ↔ sign <:+: cs := by
  induction cs with
  | nil => rfl
  | cons c cs ih =>
      cases hc : c.isBlank with
      | true =>
          rw [isInfix_cons_iff_of_blank hsign hc, ← ih]
          simp [trimStart, hc]
      | false => simp [trimStart, hc]

theorem isInfix_trim_iff (hsign : IsSolid sign) (cs : List Mark) :
    sign <:+: trim Mark.isBlank cs ↔ sign <:+: cs := by
  have hreverse : IsSolid sign.reverse := ⟨by simpa using hsign.left, by simpa using hsign.right⟩
  have hend : trim Mark.isBlank cs =
      (trimStart Mark.isBlank (trimStart Mark.isBlank cs).reverse).reverse := rfl
  rw [hend, ← List.reverse_infix, List.reverse_reverse, isInfix_trimStart_iff hreverse,
    List.reverse_infix, isInfix_trimStart_iff hsign]

theorem hasNoTag_clean_iff (cs : List Mark) :
    HasNoTag (clean cs) ↔ ¬ Interrupted (dropBlocks cs) := by
  rw [← hasNoTag_dropTags_iff]
  apply forall₂_congr
  intro tag htag
  have hsolid := isSolid_of_mem_tags htag
  rw [clean, isInfix_trim_iff hsolid, isInfix_shortenLines_iff hsolid]

/-!
# Runs of line ends
-/

def gap : List Mark :=
  List.replicate 3 (.char '\n')

theorem isInfix_gap_of_char {c : Mark} (hc : c ≠ .char '\n') {run : Nat} (hrun : run ≤ 2)
    (h : gap <:+: List.replicate run (.char '\n') ++ c :: cs) : gap <:+: cs := by
  have hother : Mark.char '\n' ≠ c := Ne.symm hc
  have hcases : run = 0 ∨ run = 1 ∨ run = 2 := by omega
  rcases hcases with rfl | rfl | rfl
  · simpa [gap, List.replicate, List.infix_cons_iff, hother] using h
  · simpa [gap, List.replicate, List.infix_cons_iff, hother] using h
  · simpa [gap, List.replicate, List.infix_cons_iff, hother] using h

theorem not_isInfix_shortenLines (run : Nat) (cs : List Mark) :
    ¬ gap <:+: List.replicate (min run 2) (.char '\n') ++ shortenLines run cs := by
  induction cs generalizing run with
  | nil =>
      intro hgap
      have hlength : 3 ≤ min run 2 := by simpa [gap, shortenLines] using hgap.length_le
      omega
  | cons c cs ih =>
      by_cases hc : c = .char '\n'
      · rw [shortenLines, if_pos hc]
        by_cases hrun : run < 2
        · have hkept : List.replicate (min run 2) (Mark.char '\n') ++ [.char '\n'] =
              List.replicate (min (run + 1) 2) (.char '\n') := by
            rw [← List.replicate_succ']
            congr 1
            omega
          rw [if_pos hrun, ← List.append_assoc, hkept]
          exact ih (run + 1)
        · have hfull : min run 2 = min (run + 1) 2 := by omega
          rw [if_neg hrun, List.nil_append, hfull]
          exact ih (run + 1)
      · rw [shortenLines, if_neg hc]
        intro hgap
        exact ih 0 (isInfix_gap_of_char hc (Nat.min_le_right run 2) hgap)

theorem shortenLines_eq_self {run : Nat} (hrun : run ≤ 2)
    (h : ¬ gap <:+: List.replicate run (.char '\n') ++ cs) : shortenLines run cs = cs := by
  induction cs generalizing run with
  | nil => rfl
  | cons c cs ih =>
      by_cases hc : c = .char '\n'
      · have hmoved : List.replicate run (.char '\n') ++ c :: cs =
            List.replicate (run + 1) (.char '\n') ++ cs := by
          rw [hc, List.replicate_succ', List.append_assoc]
          rfl
        rw [hmoved] at h
        have hroom : run < 2 := by
          by_contra hfull
          have htwo : run = 2 := by omega
          rw [htwo] at h
          exact h (List.prefix_append gap cs).isInfix
        rw [shortenLines, if_pos hc, if_pos hroom, ih hroom h, hc]
        rfl
      · rw [shortenLines, if_neg hc, ih (Nat.zero_le 2)]
        intro hgap
        apply h
        exact hgap.trans ((List.suffix_cons c cs).trans (List.suffix_append _ _)).isInfix

/-!
# Cleaning twice

Every pass takes characters away or changes nothing, so a text that is cleaned already has
gone through each of them unchanged.
-/

theorem afterFirst?_isSuffix {rest : List Mark} (h : afterFirst? sign cs = some rest) :
    rest <:+ cs := by
  induction cs with
  | nil => exact ⟨sign, (after?_eq_some h).symm⟩
  | cons c cs ih =>
      cases hafter : after? sign (c :: cs) with
      | some found =>
          have hfound : found = rest := by simpa [afterFirst?, hafter] using h
          exact ⟨sign, by rw [after?_eq_some hafter, hfound]⟩
      | none =>
          have hrest : afterFirst? sign cs = some rest := by simpa [afterFirst?, hafter] using h
          exact (ih hrest).trans (List.suffix_cons c cs)

theorem afterBlock?_isSuffix {rest : List Mark} (h : afterBlock? cs = some rest) :
    rest <:+ cs := by
  rcases List.exists_of_findSome?_eq_some h with ⟨name, _, hblock⟩
  rcases Option.bind_eq_some_iff.mp hblock with ⟨inside, hopen, hclose⟩
  have hinside : inside <:+ cs := ⟨openTag name, (after?_eq_some hopen).symm⟩
  exact (afterFirst?_isSuffix hclose).trans hinside

theorem dropBlocksFrom_sublist (fuel : Nat) (cs : List Mark) :
    (dropBlocksFrom fuel cs).Sublist cs := by
  induction fuel generalizing cs with
  | zero => exact List.Sublist.refl cs
  | succ fuel ih =>
      cases cs with
      | nil => exact List.Sublist.refl []
      | cons c cs =>
          rw [dropBlocksFrom]
          cases hblock : afterBlock? (c :: cs) with
          | some rest => exact (ih rest).trans (afterBlock?_isSuffix hblock).sublist
          | none => exact (ih cs).cons_cons c

theorem shortenLines_sublist (run : Nat) (cs : List Mark) : (shortenLines run cs).Sublist cs := by
  induction cs generalizing run with
  | nil => exact List.Sublist.refl []
  | cons c cs ih =>
      rw [shortenLines]
      split
      · rename_i hc
        split
        · rw [hc]
          exact (ih (run + 1)).cons_cons _
        · exact (ih (run + 1)).cons c
      · exact (ih 0).cons_cons c

theorem trim_isInfix (cs : List Mark) : trim Mark.isBlank cs <:+: cs :=
  (trimEnd_isPrefix (trimStart Mark.isBlank cs)).isInfix.trans
    (List.dropWhile_suffix Mark.isBlank).isInfix

theorem clean_of_hasNoTag (htag : HasNoTag cs) (hgap : ¬ gap <:+: cs)
    (htrimmed : IsTrimmed Mark.isBlank cs) : clean cs = cs := by
  have hblocks : dropBlocks (written cs []) = kept cs [] :=
    dropBlocksFrom_written htag (Nat.le_refl _)
  rw [written, kept] at hblocks
  rw [clean, hblocks, dropTags, dropTagsFrom_of_hasNoTag htag,
    shortenLines_eq_self (Nat.zero_le 2) hgap, trim_eq_self htrimmed]

theorem hasNoTag_of_clean_eq_self (h : clean cs = cs) : HasNoTag cs := by
  have hblocks : (dropBlocks cs).Sublist cs := dropBlocksFrom_sublist _ cs
  have htags := dropTags_sublist (dropBlocks cs)
  have hlines := shortenLines_sublist 0 (dropTags (dropBlocks cs))
  have hends : (clean cs).Sublist (shortenLines 0 (dropTags (dropBlocks cs))) :=
    (trim_isInfix _).sublist
  rw [h] at hends
  have hback : cs.Sublist (dropTags (dropBlocks cs)) := hends.trans hlines
  have hwhole : dropBlocks cs = cs := hblocks.antisymm (hback.trans htags)
  rw [hwhole] at hback
  exact hasNoTag_of_dropTags_eq_self ((dropTags_sublist cs).antisymm hback)

theorem not_isInfix_gap_clean (cs : List Mark) : ¬ gap <:+: clean cs := by
  intro hgap
  exact not_isInfix_shortenLines 0 (dropTags (dropBlocks cs)) (hgap.trans (trim_isInfix _))

theorem clean_clean_iff (cs : List Mark) :
    clean (clean cs) = clean cs ↔ HasNoTag (clean cs) := by
  constructor
  · exact hasNoTag_of_clean_eq_self
  · intro htag
    exact clean_of_hasNoTag htag (not_isInfix_gap_clean cs) (isTrimmed_trim _)

/-- A cleaned text has no blank end and never two empty lines.  A tag is left in it exactly
when, without the closed blocks, a tag of the text had whole tags inside of it, and only
then does a second cleaning change it. -/
theorem clean_leaves (cs : List Mark) :
    IsTrimmed Mark.isBlank (clean cs) ∧ ¬ gap <:+: clean cs ∧
      (HasNoTag (clean cs) ↔ ¬ Interrupted (dropBlocks cs)) ∧
      (clean (clean cs) = clean cs ↔ ¬ Interrupted (dropBlocks cs)) := by
  rw [clean_clean_iff, ← hasNoTag_clean_iff]
  exact ⟨isTrimmed_trim _, not_isInfix_gap_clean _, Iff.rfl, Iff.rfl⟩

theorem clean_joins_tag :
    ¬ HasNoTag (clean "a<thi<think>nk>b") ∧
      clean (clean "a<thi<think>nk>b") ≠ clean "a<thi<think>nk>b" := by
  decide

end Reasoning
end ReviewDesk
