import Mathlib.Data.List.Infix
import ReviewDesk.Log.Journal

/-!
# Sources above one another

The nearest source above another one is found from the end of the name.  A source without
a level of its own goes by the level of the nearest source above it, so that the first one
with a level of its own counts, or else the level of the journal.
-/

namespace ReviewDesk
namespace Log
namespace Journal

variable {j : Journal} {source other above : String} {level own : Level}

/-!
# Own levels
-/

theorem own?_withOwn (j : Journal) (source other : String) (level : Level) :
    (j.withOwn source level).own? other = if other = source then some level else j.own? other :=
  Named.lookup_put source other level j.sources

def HasOwn (j : Journal) (source : String) (level : Level) : Prop :=
  j.own? source = some level ∧ level ≠ .unset

theorem hasOwn_mention :
    (j.mention other).HasOwn source level ↔ j.HasOwn source level := by
  unfold HasOwn mention
  split
  · rfl
  · rename_i hother
    rw [own?_withOwn]
    by_cases hsame : source = other
    · have hnone : j.own? source = none := by simpa [hsame] using hother
      rw [if_pos hsame, hnone]
      constructor
      · rintro ⟨hunset, hset⟩
        cases hunset
        exact absurd rfl hset
      · rintro ⟨hsome, _⟩
        cases hsome
    · rw [if_neg hsame]

/-!
# The nearest source above
-/

def HasApartDots (cs : List Char) : Prop :=
  ¬ ['.', '.'] <:+: cs

theorem HasApartDots.of_cons {c : Char} {cs : List Char} (h : HasApartDots (c :: cs)) :
    HasApartDots cs :=
  fun hdots => h (List.infix_cons hdots)

end Journal
end Log
end ReviewDesk
