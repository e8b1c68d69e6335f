import ReviewDesk.Proofs.Log.Sources

/-!
# Journals that are set up

A call that sets up the journal either does everything or, for a name that is no level,
nothing.  However many calls there were, once one of them was accepted there is one handler,
and only the quieter sources have levels of their own.  A record is therefore written once
or not at all.
-/

namespace ReviewDesk
namespace Log
namespace Journal

variable {j : Journal} {name source above : String} {names : List String} {level own : Level}
  {records : List Record}

/-!
# One call

An accepted call replaces the handler of an earlier one and sets the levels of the quieter
sources.
-/

/-- There is one handler, and exactly the quieter sources have levels of their own. -/
structure IsSetUp (j : Journal) (level : Level) : Prop where
  level : j.level = level
  handlers : j.handlers = [⟨true⟩]
  owned : ∀ source own, j.HasOwn source own ↔ (source, own) ∈ quieter

def after (j : Journal) (name : String) : Journal :=
  (j.perform (setup name)).1

theorem IsSetUp.mention (h : j.IsSetUp level) (source : String) :
    (j.mention source).IsSetUp level := by
  have hkept : (j.mention source).level = j.level ∧ (j.mention source).handlers = j.handlers := by
    unfold Journal.mention
    split
    · exact ⟨rfl, rfl⟩
    · exact ⟨rfl, rfl⟩
  constructor
  case level => rw [hkept.left, h.level]
  case handlers => rw [hkept.right, h.handlers]
  case owned =>
    intro other own
    rw [hasOwn_mention]
    exact h.owned other own

end Journal
end Log
end ReviewDesk
