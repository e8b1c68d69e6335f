import ReviewDesk.Address
import ReviewDesk.Proofs.Text.Ascii

/-!
# Plain paths

A path of letters, digits and slashes has no character that an address would read as
something else.  Reading it leaves it as it is, and so does taking it for a path of another
host.
-/

namespace ReviewDesk
namespace Address

open Text

variable {c : Char} {cs : List Char} {s : String}

/-!
# Characters of paths
-/

def pathChars : List Char :=
  "/0123456789ABCDEFGHIJKLMNOPQRSTUVWXYZabcdefghijklmnopqrstuvwxyz".toList

/-- A path below the root, made of such characters. -/
structure IsPlainPath (cs : List Char) : Prop where
  chars : cs ⊆ pathChars
  rooted : ∃ c rest, cs = '/' :: c :: rest ∧ c ≠ '/'
  short : cs.length ≤ maxLength

theorem not_mem_of_not_pathChar (h : cs ⊆ pathChars) (hc : c ∉ pathChars) : c ∉ cs :=
  fun hmem => hc (h hmem)

theorem isAscii_of_pathChars (h : cs ⊆ pathChars) : IsAscii cs := by
  have hall : IsAscii pathChars := by decide
  exact fun c hc => hall c (h hc)

theorem quotedPath_of_pathChars (h : cs ⊆ pathChars) : quotedPath cs = cs := by
  have hall : ∀ c ∈ pathChars, pathSafe c = true := List.all_eq_true.mp (by decide)
  exact encodeList_of_safe (fun c hc => hall c (h hc)) (not_mem_of_not_pathChar h (by decide))

/-!
# Segments
-/

theorem mem_of_mem_splitAt {mark : Char} {segment : List Char} (h : segment ∈ splitAt mark cs)
    (hc : c ∈ segment) : c ∈ cs := by
  induction cs generalizing segment with
  | nil =>
      rw [splitAt, List.mem_singleton] at h
      rw [h] at hc
      cases hc
  | cons first cs ih =>
      rw [splitAt] at h
      split at h
      · rename_i hnil
        exact absurd hnil (splitAt_ne_nil mark cs)
      · rename_i head rest hsplit
        rw [hsplit] at ih
        split at h
        · rcases List.mem_cons.mp h with rfl | hlater
          · cases hc
          · exact List.mem_cons_of_mem first (ih hlater hc)
        · rcases List.mem_cons.mp h with rfl | hlater
          · rcases List.mem_cons.mp hc with rfl | hrest
            · exact List.mem_cons_self
            · exact List.mem_cons_of_mem first (ih List.mem_cons_self hrest)
          · exact List.mem_cons_of_mem first (ih (List.mem_cons_of_mem head hlater) hc)

theorem normalPath_of_no_dot (h : '.' ∉ cs) : normalPath cs = cs := by
  have hnone : ∀ segment, '.' ∈ segment → segment ∉ splitAt '/' cs :=
    fun segment hdot hmem => h (mem_of_mem_splitAt hmem hdot)
  have hone := hnone ['.'] (by decide)
  have htwo := hnone ['.', '.'] (by decide)
  simp [normalPath, hone, htwo]

/-!
# Reading
-/

theorem breakAt_of_disjoint {stops : List Char} (h : ∀ c ∈ stops, c ∉ cs) :
    breakAt stops cs = (cs, []) := by
  have hkept : ∀ c ∈ cs, (!stops.contains c) = true := by
    intro c hc
    have hfree : c ∉ stops := fun hstop => h c hstop hc
    simpa using hfree
  rw [breakAt, List.takeWhile_eq_self_iff.mpr hkept, List.dropWhile_eq_nil_iff.mpr hkept]

theorem parts_of_isPlainPath (h : IsPlainPath cs) : parts cs = ⟨[], [], cs, none, none⟩ := by
  rcases h.rooted with ⟨c, rest, hcs, hc⟩
  have hscheme : splitScheme cs = ([], cs) := by
    have hslash : isSchemeChar '/' = false := by decide
    simp [splitScheme, hcs, hslash]
  have hauthority : splitAuthority cs = ([], cs) := by
    rw [hcs, splitAuthority]
    intro rest hrest
    cases hrest
    exact hc rfl
  have hpath : breakAt ['?', '#'] cs = (cs, []) := by
    apply breakAt_of_disjoint
    have hquestion := not_mem_of_not_pathChar h.chars (by decide : '?' ∉ pathChars)
    have hsharp := not_mem_of_not_pathChar h.chars (by decide : '#' ∉ pathChars)
    simp [hquestion, hsharp]
  have hquery : breakAt ['#'] [] = ([], []) := rfl
  rw [parts, hscheme]
  simp only [hauthority, hpath, hquery]
  rfl

theorem checkText_of_isPlainPath (h : IsPlainPath cs) : checkText cs = .ok () := by
  have hnone : cs.findIdx? isControl = none := by
    have hall : ∀ c ∈ pathChars, (!isControl c) = true := List.all_eq_true.mp (by decide)
    rw [List.findIdx?_eq_none_iff]
    exact fun c hc => Bool.not_eq_eq_eq_not.mp (hall c (h.chars hc))
  rw [checkText, if_neg (Nat.not_lt.mpr h.short), hnone]

theorem read_of_isPlainPath (h : IsPlainPath s.toList) :
    read s = .ok { nowhere with path := s.toList } := by
  rcases h.rooted with ⟨c, rest, hcs, hc⟩
  have hclear : isMisleading s.toList = false := by
    simp [isMisleading, hcs, List.isPrefixOf, hc.symm]
  have hhost : splitHost [] = ([], []) := rfl
  rw [read, checkText_of_isPlainPath h, parts_of_isPlainPath h]
  simp [ofParts, bind, Except.bind, pure, Except.pure, splitUser, hhost, host?, portOf, nowhere,
    hasAuthority, hclear, quotedPath_of_pathChars h.chars, Percent.encodeList]

theorem below_of_isPlainPath {top : Address} (htop : top.isFull = true)
    (h : IsPlainPath cs) :
    top.below { nowhere with path := cs } =
      .ok { top with path := cs, query := none, fragment := none } := by
  rcases h.rooted with ⟨c, rest, hcs, hc⟩
  have hpath : '/' :: cs.dropWhile (· == '/') = cs := by
    have hnext : (c == '/') = false := by simpa using hc
    simp [hcs, List.dropWhile, hnext]
  have hnormal : normalPath cs = cs :=
    normalPath_of_no_dot (not_mem_of_not_pathChar h.chars (by decide))
  have hshort : checkPart "path" cs = .ok () := by
    rw [checkPart, if_neg (Nat.not_lt.mpr h.short)]
  have hbare : ({ nowhere with path := cs } : Address).isFull = false := rfl
  have hquery : checkPart "query" ((nowhere.query).getD []) = .ok () := by decide
  rw [below, hbare]
  simp only [Bool.false_eq_true, if_false, hpath, hshort, hquery, htop, if_true, hnormal]
  rfl

end Address
end ReviewDesk
