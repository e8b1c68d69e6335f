import ReviewDesk.Json.Shown
import ReviewDesk.Proofs.Number.Digits

/-!
# Values that can be written

A whole number can be written if it has at most 4300 digits.  A value can be written if
every whole number in it can, and a text always can.
-/

namespace ReviewDesk

def IsShort (n : Int) : Prop :=
  n.natAbs < tenPow 4300

theorem Integer.isWritable_iff {n : Int} : isWritable n = true ↔ IsShort n := by
  rw [isWritable, decide_eq_true_eq]
  exact digitCount_le_iff (by decide)

theorem isShort_zero : IsShort 0 :=
  tenPow_pos 4300

theorem not_isShort_tenPow : ¬ IsShort (tenPow 4300) := by
  rw [IsShort, Int.natAbs_natCast]
  exact Nat.lt_irrefl _

namespace Json

/-- The whole number stands somewhere in the value. -/
inductive HasWhole (n : Int) : Json → Prop where
  | here : HasWhole n (.int n)
  | item {v : Json} {items : List Json} (hv : v ∈ items) (h : HasWhole n v) :
      HasWhole n (.array items)
  | member {name : String} {v : Json} {members : List (String × Json)}
      (hv : (name, v) ∈ members) (h : HasWhole n v) : HasWhole n (.object members)

def IsWritable (v : Json) : Prop :=
  ∀ n, HasWhole n v → IsShort n

theorem areWritable_iff {items : List Json} :
    areWritable items = true ↔ ∀ v ∈ items, v.isWritable = true := by
  induction items with
  | nil => simp [areWritable]
  | cons v items ih => rw [areWritable, Bool.and_eq_true, ih, List.forall_mem_cons]

theorem haveWritable_iff {members : List (String × Json)} :
    haveWritable members = true ↔ ∀ m ∈ members, m.2.isWritable = true := by
  induction members with
  | nil => simp [haveWritable]
  | cons m members ih => rw [haveWritable, Bool.and_eq_true, ih, List.forall_mem_cons]

theorem isWritable_of_hasWhole {v : Json} (h : v.isWritable = true) : v.IsWritable := by
  intro n hn
  induction hn with
  | here => exact Integer.isWritable_iff.mp h
  | item hv _ ih => exact ih (areWritable_iff.mp h _ hv)
  | member hv _ ih => exact ih (haveWritable_iff.mp h _ hv)

theorem isWritable_of_isShort : (v : Json) → v.IsWritable → v.isWritable = true
  | .int n, h => Integer.isWritable_iff.mpr (h n .here)
  | .array items, h => by
      rw [isWritable, areWritable_iff]
      intro v hv
      have hsmaller := List.sizeOf_lt_of_mem hv
      exact isWritable_of_isShort v fun n hn => h n (.item hv hn)
  | .object members, h => by
      rw [isWritable, haveWritable_iff]
      rintro ⟨name, v⟩ hv
      have hsmaller := List.sizeOf_lt_of_mem hv
      exact isWritable_of_isShort v fun n hn => h n (.member hv hn)
  | .null, _ => rfl
  | .bool _, _ => rfl
  | .double _, _ => rfl
  | .string _, _ => rfl
  | .unpaired _, _ => rfl
termination_by v => sizeOf v
decreasing_by
  · simp
    omega
  · simp at hsmaller ⊢
    omega

theorem isWritable_iff {v : Json} : v.isWritable = true ↔ v.IsWritable :=
  ⟨isWritable_of_hasWhole, isWritable_of_isShort v⟩

theorem written_eq_ok {v : Json} (h : v.IsWritable) : v.written = .ok v.shown :=
  if_pos (isWritable_iff.mpr h)

theorem written_eq_error {v : Json} (h : ¬ v.IsWritable) : v.written = .error (.badValue tooLong) :=
  if_neg (mt isWritable_iff.mp h)

theorem isWritable_int {n : Int} : (Json.int n).IsWritable ↔ IsShort n := by
  constructor
  · intro h
    exact h n .here
  · rintro h m hm
    cases hm
    exact h

theorem isWritable_string (s : String) : (Json.string s).IsWritable := by
  intro n hn
  cases hn

theorem isWritable_of_isAbsent {v : Json} (h : v.isAbsent = true) : v.IsWritable := by
  intro n hn
  cases hn with
  | here =>
      have hzero : n = 0 := by simpa [isAbsent] using h
      rw [hzero]
      exact isShort_zero
  | item hv _ =>
      rw [List.isEmpty_iff.mp h] at hv
      cases hv
  | member hv _ =>
      rw [List.isEmpty_iff.mp h] at hv
      cases hv

end Json
end ReviewDesk
