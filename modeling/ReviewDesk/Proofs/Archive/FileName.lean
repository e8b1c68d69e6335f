import ReviewDesk.Archive.FileName
import ReviewDesk.Proofs.Text.Blank

/-!
# The names of archived files

A name is made of a small alphabet and the extension.  What it keeps of a title is told
by a relation that goes along the title without its extension: characters of the alphabet
stay, each run of blanks becomes a hyphen, and everything else is left out.  A name that
was made is a title that is kept as a whole, so making a name of it changes nothing.
-/

namespace ReviewDesk
namespace FileName

open Text

variable {c : Char} {cs ds ext stem : List Char}

/-!
# The alphabet
-/

def InAlphabet (c : Char) : Prop :=
  c.isAlphanum = true ∨ c = '_' ∨ c = '-' ∨ (0xAC00 ≤ c.toNat ∧ c.toNat ≤ 0xD7A3) ∨
    (0x4E00 ≤ c.toNat ∧ c.toNat ≤ 0x9FA5)

def IsControl (c : Char) : Prop :=
  c.toNat < 0x20 ∨ (0x7F ≤ c.toNat ∧ c.toNat < 0xA0)

theorem isAlphanum_iff (c : Char) :
    c.isAlphanum = true ↔ (48 ≤ c.toNat ∧ c.toNat ≤ 57) ∨ (65 ≤ c.toNat ∧ c.toNat ≤ 90) ∨
      (97 ≤ c.toNat ∧ c.toNat ≤ 122) := by
  have hword : c.isAlphanum = ((decide (65 ≤ c.val ∧ c.val ≤ 90) ||
      (decide (97 ≤ c.val) && decide (c.val ≤ 122))) ||
      (decide (48 ≤ c.val) && decide (c.val ≤ 57))) := rfl
  rw [hword]
  simp only [Bool.or_eq_true, Bool.and_eq_true, decide_eq_true_eq, UInt32.le_iff_toNat_le]
  change ((65 ≤ c.toNat ∧ c.toNat ≤ 90) ∨ (97 ≤ c.toNat ∧ c.toNat ≤ 122)) ∨
    (48 ≤ c.toNat ∧ c.toNat ≤ 57) ↔ _
  omega

theorem isAllowed_iff (c : Char) : isAllowed c = true ↔ InAlphabet c := by
  simp only [isAllowed, InAlphabet, isAlphanum_iff, Char.le_def, UInt32.le_iff_toNat_le,
    Bool.or_eq_true, Bool.and_eq_true, decide_eq_true_eq, beq_iff_eq]
  change ((((((48 ≤ c.toNat ∧ c.toNat ≤ 57) ∨ (65 ≤ c.toNat ∧ c.toNat ≤ 90)) ∨
    (97 ≤ c.toNat ∧ c.toNat ≤ 122)) ∨ (0xAC00 ≤ c.toNat ∧ c.toNat ≤ 0xD7A3)) ∨
    (0x4E00 ≤ c.toNat ∧ c.toNat ≤ 0x9FA5)) ∨ c = '_') ∨ c = '-' ↔ _
  tauto

theorem toNat_of_inAlphabet (h : InAlphabet c) :
    c.toNat = 45 ∨ (48 ≤ c.toNat ∧ c.toNat ≤ 57) ∨ (65 ≤ c.toNat ∧ c.toNat ≤ 90) ∨
      c.toNat = 95 ∨ (97 ≤ c.toNat ∧ c.toNat ≤ 122) ∨ (0x4E00 ≤ c.toNat ∧ c.toNat ≤ 0xD7A3) := by
  rcases h with hword | rfl | rfl | hsyllable | hchinese
  · rw [isAlphanum_iff] at hword
    omega
  · decide
  · decide
  · omega
  · omega

theorem isBlank_of_inAlphabet (h : InAlphabet c) : isBlank c = false := by
  have hpoint := toNat_of_inAlphabet h
  rw [← Bool.not_eq_true]
  simp only [isBlank, Bool.or_eq_true, Bool.and_eq_true, decide_eq_true_eq, beq_iff_eq]
  omega

theorem ne_of_inAlphabet (h : InAlphabet c) : c ≠ '.' ∧ c ≠ '/' ∧ c ≠ '\\' ∧ ¬ IsControl c := by
  have hpoint := toNat_of_inAlphabet h
  refine ⟨?_, ?_, ?_, ?_⟩
  · rintro rfl
    revert hpoint
    decide
  · rintro rfl
    revert hpoint
    decide
  · rintro rfl
    revert hpoint
    decide
  · unfold IsControl
    omega

/-!
# The extension
-/

def IsExtension (ext : List Char) : Prop :=
  ∃ m d, ext = ['.', m, d] ∧ (m = 'm' ∨ m = 'M') ∧ (d = 'd' ∨ d = 'D')

/-- What is left of a text without one extension at its end, if it has one. -/
def IsStem (cs stem : List Char) : Prop :=
  (∃ ext, IsExtension ext ∧ cs = stem ++ ext) ∨
    ((∀ before ext, IsExtension ext → cs ≠ before ++ ext) ∧ stem = cs)

theorem mem_extensions_iff : ext ∈ extensions ↔ IsExtension ext := by
  constructor
  · intro h
    simp only [extensions, List.mem_cons, List.not_mem_nil, or_false] at h
    rcases h with rfl | rfl | rfl | rfl
    · exact ⟨'m', 'd', rfl, by decide, by decide⟩
    · exact ⟨'m', 'D', rfl, by decide, by decide⟩
    · exact ⟨'M', 'd', rfl, by decide, by decide⟩
    · exact ⟨'M', 'D', rfl, by decide, by decide⟩
  · rintro ⟨m, d, rfl, rfl | rfl, rfl | rfl⟩
    · decide
    · decide
    · decide
    · decide

theorem any_extensions_iff :
    extensions.any (·.isSuffixOf cs) = true ↔
      ∃ before ext, IsExtension ext ∧ cs = before ++ ext := by
  rw [List.any_eq_true]
  constructor
  · rintro ⟨ext, hext, hsuffix⟩
    rcases List.isSuffixOf_iff_suffix.mp hsuffix with ⟨before, hbefore⟩
    exact ⟨before, ext, mem_extensions_iff.mp hext, hbefore.symm⟩
  · rintro ⟨before, ext, hext, rfl⟩
    exact ⟨ext, mem_extensions_iff.mpr hext,
      List.isSuffixOf_iff_suffix.mpr (List.suffix_append before ext)⟩

theorem dropExtension_append (h : IsExtension ext) : dropExtension (stem ++ ext) = stem := by
  rw [dropExtension, if_pos (any_extensions_iff.mpr ⟨stem, ext, h, rfl⟩)]
  rcases h with ⟨m, d, rfl, _, _⟩
  simp

theorem isStem_dropExtension (cs : List Char) : IsStem cs (dropExtension cs) := by
  by_cases hany : extensions.any (·.isSuffixOf cs) = true
  · rcases any_extensions_iff.mp hany with ⟨before, ext, hext, rfl⟩
    rw [dropExtension_append hext]
    exact Or.inl ⟨ext, hext, rfl⟩
  · refine Or.inr ⟨?_, if_neg hany⟩
    intro before ext hext hcs
    exact hany (any_extensions_iff.mpr ⟨before, ext, hext, hcs⟩)

/-!
# What is kept

Every text is condensed to something, and only to one thing.
-/

inductive Condenses : List Char → List Char → Prop where
  | nil : Condenses [] []
  | kept {c : Char} {cs ds : List Char} (hc : InAlphabet c) (h : Condenses cs ds) :
      Condenses (c :: cs) (c :: ds)
  | dropped {c : Char} {cs ds : List Char} (hc : ¬ InAlphabet c) (hblank : isBlank c = false)
      (h : Condenses cs ds) : Condenses (c :: cs) ds
  | run {blanks cs ds : List Char} (hsome : blanks ≠ []) (hblanks : ∀ c ∈ blanks, isBlank c = true)
      (hend : ∀ c ∈ cs.head?, isBlank c = false) (h : Condenses cs ds) :
      Condenses (blanks ++ cs) ('-' :: ds)

theorem joinWords_of_not_blank (hc : isBlank c = false) (inside : Bool) :
    joinWords inside (c :: cs) = c :: joinWords false cs := by
  simp [joinWords, hc]

theorem joinWords_inside_blanks {blanks : List Char} (hblanks : ∀ c ∈ blanks, isBlank c = true) :
    joinWords true (blanks ++ cs) = joinWords true cs := by
  induction blanks with
  | nil => rfl
  | cons c blanks ih =>
      have hc : isBlank c = true := hblanks c List.mem_cons_self
      simp [joinWords, hc, ih fun d hd => hblanks d (List.mem_cons_of_mem c hd)]

theorem joinWords_inside (hend : ∀ c ∈ cs.head?, isBlank c = false) :
    joinWords true cs = joinWords false cs := by
  cases cs with
  | nil => rfl
  | cons c cs =>
      have hc : isBlank c = false := hend c rfl
      rw [joinWords_of_not_blank hc, joinWords_of_not_blank hc]

theorem joinWords_run {blanks : List Char} (hsome : blanks ≠ [])
    (hblanks : ∀ c ∈ blanks, isBlank c = true) (hend : ∀ c ∈ cs.head?, isBlank c = false) :
    joinWords false (blanks ++ cs) = '-' :: joinWords false cs := by
  obtain ⟨c, rest, rfl⟩ := List.exists_cons_of_ne_nil hsome
  have hc : isBlank c = true := hblanks c List.mem_cons_self
  have hrest : joinWords true (rest ++ cs) = joinWords true cs :=
    joinWords_inside_blanks fun d hd => hblanks d (List.mem_cons_of_mem c hd)
  simp [joinWords, hc, hrest, joinWords_inside hend]

theorem isAllowed_hyphen : isAllowed '-' = true := by
  decide

theorem eq_of_condenses (h : Condenses cs ds) : ds = (joinWords false cs).filter isAllowed := by
  induction h with
  | nil => rfl
  | kept hc _ ih =>
      have hallowed := (isAllowed_iff _).mpr hc
      rw [joinWords_of_not_blank (isBlank_of_inAlphabet hc), List.filter_cons_of_pos hallowed, ← ih]
  | dropped hc hblank _ ih =>
      have hrefused := mt (isAllowed_iff _).mp hc
      rw [joinWords_of_not_blank hblank, List.filter_cons_of_neg hrefused, ← ih]
  | run hsome hblanks hend _ ih =>
      rw [joinWords_run hsome hblanks hend, List.filter_cons_of_pos isAllowed_hyphen, ← ih]

theorem exists_condenses (cs : List Char) : ∃ ds, Condenses cs ds := by
  -- the run of blanks at the head is taken at once, so the induction is on the length
  induction hlength : cs.length using Nat.strongRecOn generalizing cs with
  | ind n ih =>
      cases cs with
      | nil => exact ⟨[], .nil⟩
      | cons c rest =>
          by_cases hblank : isBlank c = true
          · let blanks := (c :: rest).takeWhile isBlank
            let after := (c :: rest).dropWhile isBlank
            have hsplit : blanks ++ after = c :: rest := List.takeWhile_append_dropWhile
            have hsome : blanks ≠ [] := by simp [blanks, hblank]
            have hshorter : after.length < n := by
              have hpositive := List.length_pos_iff.mpr hsome
              have htotal := congrArg List.length hsplit
              rw [List.length_append] at htotal
              omega
            rcases ih after.length hshorter after rfl with ⟨ds, hds⟩
            refine ⟨'-' :: ds, hsplit ▸ .run hsome ?_ ?_ hds⟩
            · intro d hd
              exact List.mem_takeWhile_imp hd
            · intro d hd
              have hnot := List.head?_dropWhile_not isBlank (c :: rest)
              rw [Option.mem_def.mp hd] at hnot
              exact hnot
          · rcases ih rest.length (by simp_all; omega) rest rfl with ⟨ds, hds⟩
            by_cases hc : InAlphabet c
            · exact ⟨c :: ds, .kept hc hds⟩
            · exact ⟨ds, .dropped hc (Bool.eq_false_iff.mpr hblank) hds⟩

theorem condenses_iff : Condenses cs ds ↔ ds = (joinWords false cs).filter isAllowed := by
  constructor
  · exact eq_of_condenses
  · rintro rfl
    rcases exists_condenses cs with ⟨ds, hds⟩
    rw [← eq_of_condenses hds]
    exact hds

theorem condenses_self (h : ∀ c ∈ cs, InAlphabet c) : Condenses cs cs := by
  induction cs with
  | nil => exact .nil
  | cons c cs ih =>
      exact .kept (h c List.mem_cons_self) (ih fun d hd => h d (List.mem_cons_of_mem c hd))

/-!
# Names
-/

def nameOf (kept : List Char) : List Char :=
  if kept = [] then ['r', 'e', 'v', 'i', 'e', 'w'] else kept

theorem ofTitleList_eq (title : List Char) :
    ofTitleList title = nameOf (slug title) ++ ['.', 'm', 'd'] := by
  rw [ofTitleList, nameOf]
  cases slug title with
  | nil => decide
  | cons c cs => rfl

theorem nameOf_ne_nil (kept : List Char) : nameOf kept ≠ [] := by
  unfold nameOf
  split
  · exact List.cons_ne_nil _ _
  · assumption

theorem inAlphabet_nameOf (title : List Char) : ∀ c ∈ nameOf (slug title), InAlphabet c := by
  intro c hc
  rw [← isAllowed_iff]
  unfold nameOf at hc
  split at hc
  · exact List.all_eq_true.mp (by decide) c hc
  · exact List.of_mem_filter hc

theorem ofTitleList_name {name : List Char} (hsome : name ≠ []) (hname : ∀ c ∈ name, InAlphabet c) :
    ofTitleList (name ++ ['.', 'm', 'd']) = name ++ ['.', 'm', 'd'] := by
  have htrimmed : IsTrimmed isBlank (name ++ ['.', 'm', 'd']) := by
    constructor
    · intro h
      rw [List.head_append_of_ne_nil hsome]
      exact isBlank_of_inAlphabet (hname _ (List.head_mem hsome))
    · intro h
      have hlast : (name ++ ['.', 'm', 'd']).getLast h = 'd' := by simp
      rw [hlast]
      decide
  have hextension : IsExtension ['.', 'm', 'd'] := ⟨'m', 'd', rfl, by decide, by decide⟩
  have hslug : slug (name ++ ['.', 'm', 'd']) = name := by
    rw [slug, trim_eq_self htrimmed, dropExtension_append hextension]
    exact (condenses_iff.mp (condenses_self hname)).symm
  rw [ofTitleList_eq, hslug, nameOf, if_neg hsome]

theorem count_dot_of_inAlphabet {name : List Char} (hname : ∀ c ∈ name, InAlphabet c) :
    (name ++ ['.', 'm', 'd']).count '.' = 1 := by
  have hnone : name.count '.' = 0 :=
    List.count_eq_zero.mpr fun hdot => (ne_of_inAlphabet (hname '.' hdot)).left rfl
  rw [List.count_append, hnone]
  decide

theorem usable_of_inAlphabet {name : List Char} (hname : ∀ c ∈ name, InAlphabet c) :
    ∀ c ∈ name ++ ['.', 'm', 'd'], c ≠ '/' ∧ c ≠ '\\' ∧ ¬ IsControl c := by
  intro c hc
  rcases List.mem_append.mp hc with hname' | hextension
  · exact (ne_of_inAlphabet (hname c hname')).right
  · have hplain : ∀ c ∈ ['.', 'm', 'd'], c ≠ '/' ∧ c ≠ '\\' ∧
        ¬ (c.toNat < 0x20 ∨ (0x7F ≤ c.toNat ∧ c.toNat < 0xA0)) :=
      List.forall_mem_cons.mpr ⟨by decide, List.forall_mem_cons.mpr
        ⟨by decide, List.forall_mem_singleton.mpr (by decide)⟩⟩
    exact hplain c hextension

/-- A name is what the title is condensed to, or the name for titles of which nothing is
left, and the extension.  Blanks around the title make no difference, nor does making a
name of the name. -/
theorem ofTitle_names (title : String) :
    ∃ trimmed stem kept name : List Char,
      Stripped isBlank title.toList trimmed ∧ IsStem trimmed stem ∧ Condenses stem kept ∧
      (kept ≠ [] → name = kept) ∧ (kept = [] → name = ['r', 'e', 'v', 'i', 'e', 'w']) ∧
      (ofTitle title).toList = name ++ ['.', 'm', 'd'] ∧
      name ≠ [] ∧ (∀ c ∈ name, InAlphabet c) ∧
      (ofTitle title).toList.count '.' = 1 ∧
      (∀ c ∈ (ofTitle title).toList, c ≠ '/' ∧ c ≠ '\\' ∧ ¬ IsControl c) ∧
      (∀ title' : String, Padded isBlank title.toList title'.toList → ofTitle title' = ofTitle title) ∧
      ofTitle (ofTitle title) = ofTitle title := by
  have halphabet := inAlphabet_nameOf title.toList
  have hname : (ofTitle title).toList = nameOf (slug title.toList) ++ ['.', 'm', 'd'] := by
    rw [ofTitle, String.toList_ofList, ofTitleList_eq]
  refine ⟨trim isBlank title.toList, dropExtension (trim isBlank title.toList), slug title.toList,
    nameOf (slug title.toList), stripped_trim _, isStem_dropExtension _,
    condenses_iff.mpr rfl, fun h => if_neg h, fun h => if_pos h, hname, nameOf_ne_nil _,
    halphabet, ?_, ?_, ?_, ?_⟩
  · rw [hname]
    exact count_dot_of_inAlphabet halphabet
  · rw [hname]
    exact usable_of_inAlphabet halphabet
  · intro title' hpadded
    rw [ofTitle, ofTitle, ofTitleList_eq, ofTitleList_eq, slug, slug, trim_of_padded hpadded]
  · rw [ofTitle, hname, ofTitleList_name (nameOf_ne_nil _) halphabet, ← hname, String.ofList_toList]

theorem ofTitle_names_padded :
    ofTitle "\u3000Pride & Prejudice .md.MD\t" = "Pride--Prejudice-md.md" ∧
      ofTitle "Pride & Prejudice .md.MD" = "Pride--Prejudice-md.md" := by
  rcases ofTitle_names "Pride & Prejudice .md.MD" with
    ⟨_, _, _, _, _, _, _, _, _, _, _, _, _, _, hpadded, _⟩
  have hname : ofTitle "Pride & Prejudice .md.MD" = "Pride--Prejudice-md.md" := by decide
  have htitle : Padded isBlank "Pride & Prejudice .md.MD".toList
      "\u3000Pride & Prejudice .md.MD\t".toList :=
    ⟨['\u3000'], ['\t'], by decide, List.forall_mem_singleton.mpr (by decide),
      List.forall_mem_singleton.mpr (by decide)⟩
  exact ⟨(hpadded _ htitle).trans hname, hname⟩

end FileName
end ReviewDesk
