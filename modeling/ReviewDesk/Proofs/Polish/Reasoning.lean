import ReviewDesk.Polish.Reasoning
import ReviewDesk.Proofs.Text.Blank

/-!
# Removing reasoning

A tag begins with its only angle bracket, so none reaches over the beginning of another
one.  A reply whose reasoning stands in closed blocks is therefore cut into exactly these
blocks and the text between them, whatever tags of the other name the blocks hold.
-/

namespace ReviewDesk
namespace Reasoning

open Text

/-!
# Signs

A sign begins with an angle bracket and has no other one; the four tags are such signs.
-/

def IsBracketed (sign : List Mark) : Prop :=
  ∃ body, sign = Mark.char '<' :: body ∧ Mark.char '<' ∉ body

def tags : List (List Mark) :=
  tagNames.map openTag ++ tagNames.map closeTag

theorem isBracketed_of_mem_tags {tag : List Mark} (h : tag ∈ tags) : IsBracketed tag := by
  simp only [tags, tagNames, List.map_cons, List.map_nil, List.cons_append, List.nil_append,
    List.mem_cons, List.not_mem_nil, or_false] at h
  rcases h with rfl | rfl | rfl | rfl
  · exact ⟨_, rfl, by decide⟩
  · exact ⟨_, rfl, by decide⟩
  · exact ⟨_, rfl, by decide⟩
  · exact ⟨_, rfl, by decide⟩

theorem openTag_mem_tags {name : List Mark} (h : name ∈ tagNames) : openTag name ∈ tags :=
  List.mem_append_left _ (List.mem_map_of_mem h)

theorem closeTag_mem_tags {name : List Mark} (h : name ∈ tagNames) : closeTag name ∈ tags :=
  List.mem_append_right _ (List.mem_map_of_mem h)

def BeginsBracketed (cs : List Mark) : Prop :=
  ∀ c ∈ cs.head?, c = Mark.char '<'

theorem isPrefix_of_append {sign xs ys : List Mark} (hsign : IsBracketed sign) (hxs : xs ≠ [])
    (hys : BeginsBracketed ys) (h : sign <+: xs ++ ys) : sign <+: xs := by
  rcases h with ⟨behind, hsplit⟩
  rcases List.append_eq_append_iff.mp hsplit with ⟨zs, hxs', _⟩ | ⟨zs, hover, rfl⟩
  · exact ⟨zs, hxs'.symm⟩
  · cases zs with
    | nil => exact ⟨[], by simp [hover]⟩
    | cons z rest =>
        obtain rfl : z = Mark.char '<' := hys z rfl
        rcases hsign with ⟨body, hbody, hnone⟩
        cases xs with
        | nil => exact absurd rfl hxs
        | cons x xs =>
            rw [hbody, List.cons_append, List.cons.injEq] at hover
            rw [hover.right] at hnone
            simp at hnone

theorem after?_of_isPrefix {sign cs : List Mark} : after? sign (sign ++ cs) = some cs := by
  simp [after?]

theorem after?_eq_none {sign cs : List Mark} (h : ¬ sign <+: cs) : after? sign cs = none := by
  rw [after?, if_neg]
  rwa [List.isPrefixOf_iff_prefix]

theorem afterFirst?_of_after? {sign cs rest : List Mark} (h : after? sign cs = some rest) :
    afterFirst? sign cs = some rest := by
  cases cs with
  | nil => exact h
  | cons c cs => simp [afterFirst?, h]

theorem afterFirst?_append {sign body : List Mark} (hsign : IsBracketed sign)
    (hbody : ¬ sign <:+: body) (rest : List Mark) :
    afterFirst? sign (body ++ (sign ++ rest)) = some rest := by
  induction body with
  | nil => exact afterFirst?_of_after? after?_of_isPrefix
  | cons c body ih =>
      have hbegins : BeginsBracketed (sign ++ rest) := by
        rcases hsign with ⟨tail, rfl, _⟩
        simp [BeginsBracketed]
      have hmiss : ¬ sign <+: c :: body ++ (sign ++ rest) := by
        intro hprefix
        have hinside := isPrefix_of_append hsign (List.cons_ne_nil c body) hbegins hprefix
        exact hbody hinside.isInfix
      rw [List.cons_append] at hmiss ⊢
      rw [afterFirst?, after?_eq_none hmiss]
      exact ih fun hwithin => hbody (List.infix_cons hwithin)

theorem afterFirst?_eq_none_iff {sign cs : List Mark} :
    afterFirst? sign cs = none ↔ ¬ sign <:+: cs := by
  have hafter : ∀ ds, after? sign ds = none ↔ ¬ sign <+: ds := by
    intro ds
    rw [after?, ← List.isPrefixOf_iff_prefix]
    simp
  induction cs with
  | nil => rw [afterFirst?, hafter, List.prefix_nil, List.infix_nil]
  | cons c cs ih =>
      have horElse : afterFirst? sign (c :: cs) = none ↔
          after? sign (c :: cs) = none ∧ afterFirst? sign cs = none := by
        simp [afterFirst?]
      rw [horElse, hafter, List.infix_cons_iff, not_or]
      exact and_congr_right fun _ => ih

/-!
# Texts with blocks
-/

/-- A block of reasoning, which its first closing tag closes. -/
structure Block where
  name : List Mark
  named : name ∈ tagNames
  body : List Mark
  unclosed : ¬ closeTag name <:+: body

namespace Block

def text (b : Block) : List Mark :=
  openTag b.name ++ (b.body ++ closeTag b.name)

theorem afterBlock?_text (b : Block) (rest : List Mark) :
    afterBlock? (b.text ++ rest) = some rest := by
  have hbracketed := isBracketed_of_mem_tags (closeTag_mem_tags b.named)
  have hclose := afterFirst?_append hbracketed b.unclosed rest
  have htext : b.text ++ rest = openTag b.name ++ (b.body ++ (closeTag b.name ++ rest)) := by
    simp [text]
  rw [htext]
  have hnamed := b.named
  simp only [tagNames, List.mem_cons, List.not_mem_nil, or_false] at hnamed
  rcases hnamed with hname | hname
  · rw [hname] at hclose ⊢
    simp only [afterBlock?, tagNames, List.findSome?_cons, after?_of_isPrefix, Option.bind_some,
      hclose]
  · rw [hname] at hclose ⊢
    have hmiss : ¬ openTag "think" <+:
        openTag "thinking" ++ (b.body ++ (closeTag "thinking" ++ rest)) := by
      intro hprefix
      have hshort : openTag "think" <+: openTag "thinking" :=
        List.prefix_of_prefix_length_le hprefix (List.prefix_append _ _) (by decide)
      exact absurd hshort (by decide)
    have hother := after?_eq_none hmiss
    simp only [afterBlock?, tagNames, List.findSome?_cons, hother, Option.bind_none,
      after?_of_isPrefix, Option.bind_some, hclose]

end Block

/-- A text, and behind it blocks with a text behind each of them. -/
def written (start : List Mark) : List (Block × List Mark) → List Mark
  | [] => start
  | (b, after) :: rest => start ++ (b.text ++ written after rest)

def kept (start : List Mark) : List (Block × List Mark) → List Mark
  | [] => start
  | (_, after) :: rest => start ++ kept after rest

def HasNoTag (cs : List Mark) : Prop :=
  ∀ tag ∈ tags, ¬ tag <:+: cs

theorem hasNoTag_iff (cs : List Mark) :
    HasNoTag cs ↔ ∀ tag ∈ tags, afterFirst? tag cs = none := by
  simp only [HasNoTag, afterFirst?_eq_none_iff]

instance : DecidablePred HasNoTag :=
  fun cs => decidable_of_iff _ (hasNoTag_iff cs).symm

variable {start : List Mark} {rest : List (Block × List Mark)}

theorem hasNoTag_of_isInfix {cs ds : List Mark} (h : HasNoTag ds) (hwithin : cs <:+: ds) :
    HasNoTag cs :=
  fun tag htag hcs => h tag htag (hcs.trans hwithin)

theorem start_isPrefix_kept (start : List Mark) (rest : List (Block × List Mark)) :
    start <+: kept start rest := by
  cases rest with
  | nil => exact List.prefix_rfl
  | cons first rest => exact List.prefix_append start _

theorem kept_cons (c : Mark) (start : List Mark) (rest : List (Block × List Mark)) :
    kept (c :: start) rest = c :: kept start rest := by
  cases rest with
  | nil => rfl
  | cons first rest => rfl

theorem written_cons (c : Mark) (start : List Mark) (rest : List (Block × List Mark)) :
    written (c :: start) rest = c :: written start rest := by
  cases rest with
  | nil => rfl
  | cons first rest => rfl

theorem written_eq_append (start : List Mark) (rest : List (Block × List Mark)) :
    ∃ behind, written start rest = start ++ behind ∧ BeginsBracketed behind := by
  cases rest with
  | nil => exact ⟨[], by simp [written], by simp [BeginsBracketed]⟩
  | cons first rest => exact ⟨_, rfl, by simp [BeginsBracketed, Block.text, openTag]⟩

theorem afterBlock?_written {c : Mark} (h : HasNoTag (c :: start))
    (rest : List (Block × List Mark)) :
    afterBlock? (written (c :: start) rest) = none := by
  rcases written_eq_append (c :: start) rest with ⟨behind, hwritten, hbehind⟩
  rw [hwritten, afterBlock?, List.findSome?_eq_none_iff]
  intro name hname
  have htag := openTag_mem_tags hname
  have hmiss : ¬ openTag name <+: c :: start ++ behind := by
    intro hprefix
    have hinside :=
      isPrefix_of_append (isBracketed_of_mem_tags htag) (List.cons_ne_nil c start) hbehind hprefix
    exact h _ htag hinside.isInfix
  rw [after?_eq_none hmiss]
  rfl

/-!
# Removing blocks and tags
-/

theorem dropBlocksFrom_text (fuel : Nat) (b : Block) (cs : List Mark) :
    dropBlocksFrom (fuel + 1) (b.text ++ cs) = dropBlocksFrom fuel cs := by
  have hblock := b.afterBlock?_text cs
  obtain ⟨tail, htail⟩ : ∃ tail, b.text ++ cs = Mark.char '<' :: tail := ⟨_, rfl⟩
  rw [htail] at hblock ⊢
  rw [dropBlocksFrom, hblock]

theorem dropBlocksFrom_written {fuel : Nat} (h : HasNoTag (kept start rest))
    (hfuel : (written start rest).length ≤ fuel) :
    dropBlocksFrom fuel (written start rest) = kept start rest := by
  -- one step passes a character of the text between the blocks, or a whole block
  induction fuel generalizing start rest with
  | zero =>
      cases rest with
      | nil => rfl
      | cons first rest => simp [written, Block.text, openTag] at hfuel
  | succ fuel ih =>
      cases start with
      | nil =>
          cases rest with
          | nil => rfl
          | cons first rest =>
              rcases first with ⟨b, after⟩
              have hafter : (written after rest).length ≤ fuel := by
                simp [written, Block.text, openTag] at hfuel
                omega
              rw [written, List.nil_append, kept, List.nil_append, dropBlocksFrom_text]
              exact ih h hafter
      | cons c start =>
          have hbegin := hasNoTag_of_isInfix h (start_isPrefix_kept _ _).isInfix
          have hnone := afterBlock?_written hbegin rest
          rw [kept_cons] at h ⊢
          rw [written_cons] at hfuel hnone ⊢
          rw [dropBlocksFrom, hnone]
          have hshorter : (written start rest).length ≤ fuel := Nat.le_of_succ_le_succ hfuel
          have hrest : HasNoTag (kept start rest) :=
            hasNoTag_of_isInfix h (List.suffix_cons c _).isInfix
          exact congrArg (c :: ·) (ih hrest hshorter)

theorem afterTag?_of_hasNoTag {cs : List Mark} (h : HasNoTag cs) : afterTag? cs = none := by
  rw [afterTag?, List.findSome?_eq_none_iff]
  intro name hname
  have hopen : ¬ openTag name <+: cs := fun hprefix =>
    h _ (openTag_mem_tags hname) hprefix.isInfix
  have hclose : ¬ closeTag name <+: cs := fun hprefix =>
    h _ (closeTag_mem_tags hname) hprefix.isInfix
  rw [after?_eq_none hopen, after?_eq_none hclose]
  rfl

theorem dropTagsFrom_of_hasNoTag {cs : List Mark} (h : HasNoTag cs) (fuel : Nat) :
    dropTagsFrom fuel cs = cs := by
  induction fuel generalizing cs with
  | zero => rfl
  | succ fuel ih =>
      cases cs with
      | nil => rfl
      | cons c cs =>
          rw [dropTagsFrom, afterTag?_of_hasNoTag h]
          exact congrArg (c :: ·) (ih (hasNoTag_of_isInfix h (List.suffix_cons c cs).isInfix))

/-!
# Shortened lines

A run of line ends becomes one of at most two, and nothing else changes.
-/

inductive Shortened : List Mark → List Mark → Prop where
  | nil : Shortened [] []
  | char {c : Mark} {cs ds : List Mark} (hc : c ≠ .char '\n') (h : Shortened cs ds) :
      Shortened (c :: cs) (c :: ds)
  | run {k : Nat} {cs ds : List Mark} (hk : 0 < k) (hend : cs.head? ≠ some (.char '\n'))
      (h : Shortened cs ds) :
      Shortened (List.replicate k (.char '\n') ++ cs) (List.replicate (min k 2) (.char '\n') ++ ds)

theorem shortenLines_of_head? {cs : List Mark} (h : cs.head? ≠ some (.char '\n')) (run : Nat) :
    shortenLines run cs = shortenLines 0 cs := by
  cases cs with
  | nil => rfl
  | cons c cs =>
      have hc : c ≠ .char '\n' := by
        rintro rfl
        exact h rfl
      rw [shortenLines, if_neg hc, shortenLines, if_neg hc]

theorem shortenLines_run {cs : List Mark} (hend : cs.head? ≠ some (.char '\n')) (run k : Nat) :
    shortenLines run (List.replicate k (.char '\n') ++ cs) =
      List.replicate (min k (2 - run)) (.char '\n') ++ shortenLines 0 cs := by
  induction k generalizing run with
  | zero => simpa using shortenLines_of_head? hend run
  | succ k ih =>
      rw [List.replicate_succ, List.cons_append, shortenLines, if_pos rfl, ih]
      by_cases hrun : run < 2
      · have hcount : min (k + 1) (2 - run) = min k (2 - (run + 1)) + 1 := by omega
        rw [if_pos hrun, hcount, List.replicate_succ]
        rfl
      · have hcount : min (k + 1) (2 - run) = min k (2 - (run + 1)) := by omega
        rw [if_neg hrun, hcount]
        rfl

theorem eq_shortenLines {cs ds : List Mark} (h : Shortened cs ds) : ds = shortenLines 0 cs := by
  induction h with
  | nil => rfl
  | char hc _ ih => rw [shortenLines, if_neg hc, ih]
  | run _ hend _ ih => rw [shortenLines_run hend, ih]

theorem exists_run (cs : List Mark) :
    ∃ k rest, cs = List.replicate k (.char '\n') ++ rest ∧ rest.head? ≠ some (.char '\n') := by
  induction cs with
  | nil => exact ⟨0, [], rfl, by simp⟩
  | cons c cs ih =>
      by_cases hc : c = .char '\n'
      · rcases ih with ⟨k, rest, hcs, hend⟩
        exact ⟨k + 1, rest, by rw [hc, hcs, List.replicate_succ, List.cons_append], hend⟩
      · exact ⟨0, c :: cs, rfl, by simpa using hc⟩

theorem shortened_shortenLines (cs : List Mark) : Shortened cs (shortenLines 0 cs) := by
  -- the induction is on the length, because a whole run is taken off at once
  induction hlength : cs.length using Nat.strongRecOn generalizing cs with
  | ind n ih =>
      rcases exists_run cs with ⟨k, rest, rfl, hend⟩
      rw [shortenLines_run hend]
      cases k with
      | succ k =>
          exact .run (Nat.succ_pos k) hend (ih rest.length (by simp at hlength; omega) rest rfl)
      | zero =>
          cases rest with
          | nil => exact .nil
          | cons c rest =>
              have hc : c ≠ .char '\n' := by simpa using hend
              rw [shortenLines, if_neg hc]
              exact .char hc (ih rest.length (by simp at hlength; omega) rest rfl)

theorem shortened_iff {cs ds : List Mark} : Shortened cs ds ↔ ds = shortenLines 0 cs := by
  constructor
  · exact eq_shortenLines
  · rintro rfl
    exact shortened_shortenLines cs

/-!
# Cleaning
-/

/-- From a reply whose reasoning stands in blocks exactly the text outside of them is left,
with its runs of line ends shortened and its ends stripped. -/
theorem clean_written (h : HasNoTag (kept start rest)) (result : List Mark) :
    clean (written start rest) = result ↔
      ∃ short, Shortened (kept start rest) short ∧ Stripped Mark.isBlank short result := by
  have hclean : clean (written start rest) =
      trim Mark.isBlank (shortenLines 0 (kept start rest)) := by
    rw [clean, dropBlocks, dropBlocksFrom_written h (Nat.le_refl _), dropTags,
      dropTagsFrom_of_hasNoTag h]
  rw [hclean]
  constructor
  · rintro rfl
    exact ⟨_, shortened_shortenLines _, stripped_iff.mpr rfl⟩
  · rintro ⟨short, hshort, hstripped⟩
    rw [← eq_shortenLines hshort, ← stripped_iff.mp hstripped]

def nested : List (Block × List Mark) :=
  [(⟨"think", by decide, "x </thinking> <thinking>\n y</think",
      afterFirst?_eq_none_iff.mp (by decide)⟩, "\nnk> b"),
    (⟨"thinking", by decide, "<think></think>", afterFirst?_eq_none_iff.mp (by decide)⟩, " \n")]

theorem clean_written_nested :
    clean (written "\n a<thi\n\n" nested) = marks "a<thi\n\nnk> b" := by
  have hnone : HasNoTag (kept "\n a<thi\n\n" nested) := by decide
  have hshort : shortenLines 0 (kept "\n a<thi\n\n" nested) =
      marks "\n a<thi\n\nnk> b \n" := by decide
  refine (clean_written hnone _).mpr ⟨_, shortened_iff.mpr hshort.symm, stripped_iff.mpr ?_⟩
  decide

end Reasoning
end ReviewDesk
