import Mathlib.Logic.Basic
import ReviewDesk.Proofs.Decimal.Finite
import ReviewDesk.Proofs.Outcome
import ReviewDesk.Review.Basic

/-!
# Drafts and the rows they become

A draft becomes a row when each of its texts and of the values that the services reported
can be kept; the first one that cannot is what the draft fails for.  A row has the same
fields as its draft, present where they are present there, as long as ids of files are
texts and costs are finite.
-/

namespace ReviewDesk
namespace Column

/-!
# Values in columns

A column keeps a value, or the database rejects it, or handing it over breaks off before
the database has seen it: for a whole number beyond sixty-four bits and for a text with
half a pair.
-/

def Keepable : Json → Prop
  | .int n => minInt ≤ n ∧ n ≤ maxInt
  | .unpaired _ => False
  | .array _ => False
  | .object _ => False
  | _ => True

def Unbindable : Json → Prop
  | .int n => n < minInt ∨ maxInt < n
  | .unpaired _ => True
  | _ => False

def fault? (v : Json) : Option SaveFault :=
  match text v with
  | .error fault => some fault
  | .ok _ => none

theorem integer_eq_ok_iff {n m : Int} : integer n = .ok m ↔ n = m ∧ minInt ≤ n ∧ n ≤ maxInt := by
  unfold integer
  split
  · rename_i h
    simp at h
    simp [h]
  · rename_i h
    simp at h
    simp
    omega

theorem integer_of_not_fits {n : Int} (h : n < minInt ∨ maxInt < n) :
    integer n = .error (.broken (.overflow tooLargeText)) := by
  unfold integer
  rw [if_neg]
  simp
  omega

theorem text_string (s : String) : text (.string s) = .ok (some s) :=
  rfl

theorem eq_map_string_of_optional {value : Option Json} {kept : Option String}
    (hstring : ∀ v, value = some v → ∃ s, v = .string s)
    (h : optional text value = .ok kept) : value = kept.map .string := by
  cases value with
  | none =>
      simp only [optional, Except.ok.injEq] at h
      rw [← h]
      rfl
  | some v =>
      rcases hstring v rfl with ⟨s, rfl⟩
      simp only [optional, text_string, Except.ok.injEq] at h
      rw [← h]
      rfl

theorem text_int_of_fits {n : Int} (h : minInt ≤ n ∧ n ≤ maxInt) :
    text (.int n) = .ok (some (toString n)) := by
  have hn : integer n = .ok n := integer_eq_ok_iff.mpr ⟨rfl, h⟩
  simp [text, hn, bind, Except.bind, pure, Except.pure]

theorem text_int_of_not_fits {n : Int} (h : n < minInt ∨ maxInt < n) :
    text (.int n) = .error (.broken (.overflow tooLargeText)) := by
  simp [text, integer_of_not_fits h, bind, Except.bind]

theorem fault?_int (n : Int) :
    fault? (.int n) =
      if minInt ≤ n ∧ n ≤ maxInt then none else some (.broken (.overflow tooLargeText)) := by
  unfold fault?
  by_cases h : minInt ≤ n ∧ n ≤ maxInt
  · simp [text_int_of_fits h, h]
  · have hn : n < minInt ∨ maxInt < n := by omega
    simp [text_int_of_not_fits hn, h]

theorem fault?_eq_none_iff (v : Json) : fault? v = none ↔ Keepable v := by
  cases v with
  | null => simp [fault?, text, Keepable]
  | bool b => simp [fault?, text, Keepable]
  | int n => simp [fault?_int, Keepable]
  | double x => cases x <;> simp [fault?, text, Keepable]
  | string s => simp [fault?, text, Keepable]
  | unpaired marks => simp [fault?, text, Keepable]
  | array items => simp [fault?, text, Keepable]
  | object members => simp [fault?, text, Keepable]

theorem fault?_broken_iff (v : Json) :
    (∃ fault, fault? v = some (.broken fault)) ↔ Unbindable v := by
  cases v with
  | null => simp [fault?, text, Unbindable]
  | bool b => simp [fault?, text, Unbindable]
  | int n =>
      by_cases h : minInt ≤ n ∧ n ≤ maxInt
      · have hn : ¬ (n < minInt ∨ maxInt < n) := by omega
        simp [fault?_int, Unbindable, h, hn]
      · have hn : n < minInt ∨ maxInt < n := by omega
        simp [fault?_int, Unbindable, h, hn]
  | double x => cases x <;> simp [fault?, text, Unbindable]
  | string s => simp [fault?, text, Unbindable]
  | unpaired marks => simp [fault?, text, Unbindable]
  | array items => simp [fault?, text, Unbindable]
  | object members => simp [fault?, text, Unbindable]

/-!
# Money
-/

theorem ofMantissa_ne_nan (negative : Bool) (m : Nat) (e : Int) :
    Binary64.ofMantissa negative m e ≠ .nan := by
  simp [Binary64.ofMantissa, ite_eq_iff]

theorem nearest_ne_nan (negative : Bool) (n d : Nat) :
    Binary64.nearest negative n d ≠ .nan := by
  unfold Binary64.nearest
  split
  · simp [Binary64.zero]
  · exact ofMantissa_ne_nan _ _ _

theorem binary_ne_nan {x : Decimal} (h : x.isFinite = true) : binary x ≠ .nan := by
  cases x with
  | finite negative c e =>
      unfold binary Binary64.ofScientific
      dsimp only
      split
      · simp [Binary64.zero]
      · split
        · simp
        · exact nearest_ne_nan _ _ _
  | infinite negative => cases h
  | nan negative signaling payload => cases h

theorem isSome_money {x : Decimal} (places : Nat) (h : x.isFinite = true) :
    (money places x).isSome = true := by
  have hne := binary_ne_nan h
  unfold money
  cases hx : binary x with
  | nan => exact absurd hx hne
  | infinite negative => rfl
  | finite negative m e => rfl

theorem money_of_isZero {x : Decimal} (h : x.IsZero) (places : Nat) :
    money places x = some (.ofUnits places 0) := by
  rcases h with ⟨negative, e, rfl⟩
  have hbinary : binary (.finite negative 0 e) = .zero negative := by
    simp [binary, Binary64.ofScientific]
  have hunits : Binary64.units places 0 Binary64.minExponent = 0 := by
    simp [Binary64.units, Rounding.quotient_of_dvd _ (twoPow_pos _) (Nat.dvd_zero _)]
  rw [money, hbinary, Binary64.zero, readBack, hunits]
  simp [Decimal.ofUnits]

end Column

namespace Draft

/-!
# Saving a draft

Columns are read one after another, and a draft fails for the first value that no column
takes.
-/

def values (d : Draft) : List Json :=
  [.ofMarks d.title] ++ [.ofMarks d.content] ++ (d.improved.map Json.ofMarks).toList ++
    d.model.toList ++ (d.tokenCount.map Json.int).toList ++ d.fileId.toList

/-- The first value that no column takes breaks off. -/
def BreaksOff (d : Draft) : Prop :=
  ∃ before v after, d.values = before ++ v :: after ∧
    (∀ u ∈ before, Column.Keepable u) ∧ Column.Unbindable v

def faultOf {α : Type} : Except SaveFault α → Option SaveFault
  | .error fault => some fault
  | .ok _ => none

theorem fault?_ofMarks (ms : List Text.Mark) :
    Column.fault? (.ofMarks ms) = faultOf (Column.marks ms) := by
  unfold Json.ofMarks Column.marks
  cases Text.text? ms with
  | none => rfl
  | some s => rfl

theorem findSome?_marks (ms : List Text.Mark) :
    [Json.ofMarks ms].findSome? Column.fault? = faultOf (Column.marks ms) := by
  rw [List.findSome?_singleton, fault?_ofMarks]

theorem findSome?_improved (improved : Option (List Text.Mark)) :
    (improved.map Json.ofMarks).toList.findSome? Column.fault? =
      faultOf (Column.optional (fun ms => some <$> Column.marks ms) improved) := by
  cases improved with
  | none => rfl
  | some ms =>
      cases hms : Column.marks ms with
      | error fault => simp [Column.optional, fault?_ofMarks, faultOf, hms, Functor.map, Except.map]
      | ok s => simp [Column.optional, fault?_ofMarks, faultOf, hms, Functor.map, Except.map]

theorem marks_eq_ok {ms : List Text.Mark} {s : String} (h : Column.marks ms = .ok s) :
    Text.marks s = ms := by
  unfold Column.marks at h
  split at h
  · rename_i text htext
    cases h
    exact Text.marks_of_text? htext
  · cases h

theorem optional_marks_eq_ok {improved : Option (List Text.Mark)} {kept : Option String}
    (h : Column.optional (fun ms => some <$> Column.marks ms) improved = .ok kept) :
    kept.map Text.marks = improved := by
  cases improved with
  | none =>
      cases h
      rfl
  | some ms =>
      cases hms : Column.marks ms with
      | error fault =>
          simp only [Column.optional, hms] at h
          cases h
      | ok s =>
          simp only [Column.optional, hms] at h
          cases h
          rw [Option.map_some, marks_eq_ok hms]

theorem findSome?_text (value : Option Json) :
    value.toList.findSome? Column.fault? = faultOf (Column.optional Column.text value) := by
  cases value with
  | none =>
      rfl
  | some v =>
      cases hv : Column.text v with
      | error fault => simp [Column.optional, Column.fault?, faultOf, hv]
      | ok kept => simp [Column.optional, Column.fault?, faultOf, hv]

theorem optional_integer_eq_ok {count kept : Option Int}
    (h : Column.optional (fun n => some <$> Column.integer n) count = .ok kept) :
    kept = count := by
  cases count with
  | none =>
      cases h
      rfl
  | some n =>
      by_cases hn : Column.minInt ≤ n ∧ n ≤ Column.maxInt
      · have hfits : Column.integer n = .ok n := Column.integer_eq_ok_iff.mpr ⟨rfl, hn⟩
        simp only [Column.optional, hfits] at h
        cases h
        rfl
      · have hlarge : n < Column.minInt ∨ Column.maxInt < n := by omega
        simp only [Column.optional, Column.integer_of_not_fits hlarge] at h
        cases h

theorem findSome?_integer (count : Option Int) :
    (count.map Json.int).toList.findSome? Column.fault? =
      faultOf (Column.optional (fun n => some <$> Column.integer n) count) := by
  cases count with
  | none =>
      rfl
  | some n =>
      by_cases h : Column.minInt ≤ n ∧ n ≤ Column.maxInt
      · have hn : Column.integer n = .ok n := Column.integer_eq_ok_iff.mpr ⟨rfl, h⟩
        simp [Column.optional, Column.fault?_int, faultOf, hn, h, Functor.map, Except.map]
      · have hn : n < Column.minInt ∨ Column.maxInt < n := by omega
        simp [Column.optional, Column.fault?_int, faultOf, Column.integer_of_not_fits hn, h,
          Functor.map, Except.map]

theorem faultOf_bind {α β : Type} (result : Except SaveFault α) (next : α → Except SaveFault β)
    {rest : Option SaveFault} (h : ∀ a, faultOf (next a) = rest) :
    faultOf (result >>= next) = (faultOf result).or rest := by
  cases result with
  | error fault => rfl
  | ok a => exact h a

theorem faultOf_stored (d : Draft) :
    faultOf d.stored = d.values.findSome? Column.fault? := by
  simp only [values, List.findSome?_append, Option.or_assoc]
  rw [findSome?_marks, findSome?_marks, findSome?_improved, findSome?_text d.model,
    findSome?_integer, findSome?_text d.fileId, stored]
  apply faultOf_bind
  intro title
  apply faultOf_bind
  intro content
  apply faultOf_bind
  intro improved
  apply faultOf_bind
  intro model
  apply faultOf_bind
  intro tokenCount
  cases Column.optional Column.text d.fileId with
  | error fault => rfl
  | ok fileId => rfl

theorem faultOf_eq_some_iff {α : Type} {result : Except SaveFault α} {fault : SaveFault} :
    faultOf result = some fault ↔ result = .error fault := by
  cases result with
  | error other => simp [faultOf]
  | ok a => simp [faultOf]

theorem stored_broken_iff (d : Draft) :
    (∃ fault, d.stored = .error (.broken fault)) ↔ d.BreaksOff := by
  simp only [← faultOf_eq_some_iff, faultOf_stored, List.findSome?_eq_some_iff,
    Column.fault?_eq_none_iff]
  constructor
  · rintro ⟨fault, before, v, after, hreported, hv, hbefore⟩
    exact ⟨before, v, after, hreported, hbefore, (Column.fault?_broken_iff v).mp ⟨fault, hv⟩⟩
  · rintro ⟨before, v, after, hreported, hbefore, hv⟩
    rcases (Column.fault?_broken_iff v).mpr hv with ⟨fault, hfault⟩
    exact ⟨fault, before, v, after, hreported, hfault, hbefore⟩

theorem stored_eq_ok {d : Draft} {r : Review} (h : d.stored = .ok r) :
    r.id = d.id ∧ Text.marks r.title = d.title ∧ Text.marks r.content = d.content ∧
      r.improved.map Text.marks = d.improved ∧ r.tokenCount = d.tokenCount ∧
      r.usdCost = d.costs.bind (fun c => Column.money usdPlaces c.usd) ∧
      r.krwCost = d.costs.bind (fun c => Column.money krwPlaces c.krw) ∧
      Column.optional Column.text d.fileId = .ok r.fileId ∧ r.status = d.status ∧
      r.createdAt = d.createdAt := by
  rcases bind_eq_ok_iff.mp h with ⟨title, htitle, h⟩
  rcases bind_eq_ok_iff.mp h with ⟨content, hcontent, h⟩
  rcases bind_eq_ok_iff.mp h with ⟨improved, himproved, h⟩
  rcases bind_eq_ok_iff.mp h with ⟨model, _, h⟩
  rcases bind_eq_ok_iff.mp h with ⟨count, hcount, h⟩
  rcases bind_eq_ok_iff.mp h with ⟨fileId, hfile, h⟩
  cases h
  exact ⟨rfl, marks_eq_ok htitle, marks_eq_ok hcontent, optional_marks_eq_ok himproved,
    optional_integer_eq_ok hcount, rfl, rfl, hfile, rfl, rfl⟩

end Draft
end ReviewDesk
