import Mathlib.Data.List.Nodup
import ReviewDesk.Review.Store

/-!
# Rows of the store

What each operation on the store does to its rows: a new row is put at the end if its id
is free, and erasing takes away exactly the rows of the given ids.
-/

namespace ReviewDesk
namespace Store

theorem mem_of_find? {s : Store} {id : String} {r : Review} (h : s.find? id = some r) :
    r ∈ s.rows ∧ r.id = id := by
  constructor
  · exact List.mem_of_find?_eq_some h
  · simpa using List.find?_some h

theorem contains_eq_false_iff {s : Store} {id : String} :
    s.contains id = false ↔ ∀ r ∈ s.rows, r.id ≠ id := by
  simp [contains, find?]

theorem insert?_eq_some_iff {s s' : Store} {r : Review} :
    s.insert? r = some s' ↔ (∀ other ∈ s.rows, other.id ≠ r.id) ∧ s' = ⟨s.rows ++ [r]⟩ := by
  rw [← contains_eq_false_iff]
  unfold insert?
  cases s.contains r.id with
  | true => simp
  | false => simp [eq_comm]

/-!
# Erasing
-/

theorem rows_erase (s : Store) (id : String) :
    (s.erase id).rows = s.rows.filter (·.id ≠ id) := by
  apply List.filter_congr
  intro r _
  rw [Bool.eq_iff_iff]
  simp

theorem mem_erase {s : Store} {id : String} {r : Review} :
    r ∈ (s.erase id).rows ↔ r ∈ s.rows ∧ r.id ≠ id := by
  simp [rows_erase]

theorem erase_of_not_contains {s : Store} {id : String} (h : s.contains id = false) :
    s.erase id = s := by
  have hrows : s.rows.filter (·.id != id) = s.rows := by
    rw [List.filter_eq_self]
    intro r hr
    simpa using contains_eq_false_iff.mp h r hr
  rw [erase, hrows]

@[simp] theorem eraseAll_nil (s : Store) : s.eraseAll [] = s :=
  rfl

theorem rows_eraseAll (s : Store) (ids : List String) :
    (s.eraseAll ids).rows = s.rows.filter (·.id ∉ ids) := by
  induction ids generalizing s with
  | nil =>
      exact (List.filter_eq_self.mpr (by simp)).symm
  | cons id rest ih =>
      have hstep : s.eraseAll (id :: rest) = (s.erase id).eraseAll rest := rfl
      rw [hstep, ih, rows_erase, List.filter_filter]
      apply List.filter_congr
      intro r _
      simp [Bool.and_comm]

theorem mem_eraseAll {s : Store} {ids : List String} {r : Review} :
    r ∈ (s.eraseAll ids).rows ↔ r ∈ s.rows ∧ r.id ∉ ids := by
  simp [rows_eraseAll]

/-!
# Rows by their ids
-/

theorem find?_eq_some_iff {s : Store} (h : (s.rows.map (·.id)).Nodup) {id : String} {r : Review} :
    s.find? id = some r ↔ r ∈ s.rows ∧ r.id = id := by
  constructor
  · exact mem_of_find?
  · rintro ⟨hrow, rfl⟩
    cases hfound : s.find? r.id with
    | none =>
        have hmissing : s.contains r.id = false := by simp [contains, hfound]
        exact absurd rfl (contains_eq_false_iff.mp hmissing r hrow)
    | some other =>
        rcases mem_of_find? hfound with ⟨hother, hid⟩
        rw [List.inj_on_of_nodup_map h hother hrow hid]

theorem find?_append_of_ne {s : Store} {r : Review} {id : String} (h : r.id ≠ id) :
    (Store.mk (s.rows ++ [r])).find? id = s.find? id := by
  simp [find?, List.find?_append, h]

theorem find?_erase_of_ne {s : Store} {other id : String} (h : other ≠ id) :
    (s.erase other).find? id = s.find? id := by
  rw [find?, rows_erase, List.find?_filter, find?]
  congr 1
  funext r
  rw [Bool.eq_iff_iff]
  simp only [decide_eq_true_eq, beq_iff_eq]
  constructor
  · exact fun hboth => hboth.right
  · rintro rfl
    exact ⟨h.symm, rfl⟩

theorem find?_erase_self (s : Store) (id : String) : (s.erase id).find? id = none := by
  rw [find?, List.find?_eq_none]
  intro r hr
  simpa using (mem_erase.mp hr).right

/-!
# A row at the end
-/

theorem find?_append_self {s : Store} {r : Review} (h : s.contains r.id = false) :
    (Store.mk (s.rows ++ [r])).find? r.id = some r := by
  have hnone : s.rows.find? (·.id == r.id) = none := by simpa [contains, find?] using h
  simp [find?, List.find?_append, hnone]

theorem erase_append_self {s : Store} {r : Review} (h : s.contains r.id = false) :
    (Store.mk (s.rows ++ [r])).erase r.id = s := by
  have hkept : s.rows.filter (·.id != r.id) = s.rows :=
    congrArg Store.rows (erase_of_not_contains h)
  simp [erase, List.filter_append, hkept]

/-!
# Rows from the newest to the oldest
-/

theorem newestFirst_perm (s : Store) : s.newestFirst.Perm s.rows :=
  List.mergeSort_perm _ _

theorem pairwise_newestFirst (s : Store) :
    s.newestFirst.Pairwise fun a b => b.createdAt.micros ≤ a.createdAt.micros := by
  let newer (a b : Review) : Bool := b.createdAt.micros ≤ a.createdAt.micros
  have htrans : ∀ a b c, newer a b = true → newer b c = true → newer a c = true := by
    simp only [newer, decide_eq_true_eq]
    omega
  have htotal : ∀ a b, (newer a b || newer b a) = true := by
    simp only [newer, Bool.or_eq_true, decide_eq_true_eq]
    omega
  have hsorted := List.pairwise_mergeSort htrans htotal s.rows
  simpa only [newer, newestFirst, decide_eq_true_eq] using hsorted

theorem newestFirst_eq_reverse {s : Store}
    (h : s.rows.Pairwise fun a b => a.createdAt.micros < b.createdAt.micros) :
    s.newestFirst = s.rows.reverse := by
  have hreverse : s.rows.reverse.Pairwise fun a b => b.createdAt.micros < a.createdAt.micros :=
    List.pairwise_reverse.mpr h
  have hperm : s.newestFirst.Perm s.rows.reverse :=
    (newestFirst_perm s).trans (List.reverse_perm s.rows).symm
  have hinstants : (s.rows.map (·.createdAt.micros)).Nodup :=
    List.pairwise_map.mpr (h.imp fun hlt => Int.ne_of_lt hlt)
  refine List.Perm.eq_of_pairwise ?_ (pairwise_newestFirst s)
    (hreverse.imp fun hlt => Int.le_of_lt hlt) hperm
  intro a b ha hb hab hba
  have harow : a ∈ s.rows := (newestFirst_perm s).mem_iff.mp ha
  have hbrow : b ∈ s.rows := List.mem_reverse.mp hb
  exact List.inj_on_of_nodup_map hinstants harow hbrow (Int.le_antisymm hba hab)

end Store
end ReviewDesk
