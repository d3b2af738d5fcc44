import Mathlib.Data.String.Basic
import QueryTrace.Json.Value

/-!
# Fields in key order

Fields that are sorted have each key once. So a field that is found can be taken out, and what is
left is all fields of other keys; and a field that is put in stands beside exactly those.
-/

namespace QueryTrace

variable {α : Type}

/-- The keys strictly increase. -/
def Sorted (fields : List (String × α)) : Prop :=
  fields.Pairwise (·.1 < ·.1)

/-- The fields of other keys. -/
def without (key : String) (fields : List (String × α)) : List (String × α) :=
  fields.filter (·.1 ≠ key)

theorem Sorted.without {fields : List (String × α)} (h : Sorted fields) (key : String) :
    Sorted (without key fields) :=
  List.Pairwise.filter _ h

theorem without_of_lt {key : String} {fields : List (String × α)} (h : ∀ f ∈ fields, key < f.1) :
    without key fields = fields :=
  List.filter_eq_self.mpr fun f hf => by simpa using (h f hf).ne'

theorem without_cons_self (key : String) (value : α) (fields : List (String × α)) :
    without key ((key, value) :: fields) = without key fields := by
  simp [without]

theorem without_cons_of_ne {key : String} {f : String × α} (h : f.1 ≠ key)
    (fields : List (String × α)) : without key (f :: fields) = f :: without key fields := by
  simp [without, h]

theorem mem_insertField {key : String} {value : α} {fields : List (String × α)} {f : String × α}
    (h : f ∈ insertField key value fields) : f = (key, value) ∨ f ∈ fields := by
  induction fields with
  | nil => exact .inl (List.mem_singleton.mp h)
  | cons g rest ih =>
    obtain ⟨k, v⟩ := g
    unfold insertField at h
    split at h
    · exact List.mem_cons.mp h
    · split at h
      · exact (List.mem_cons.mp h).imp_right (List.mem_cons_of_mem _)
      · rcases List.mem_cons.mp h with rfl | h
        · exact .inr List.mem_cons_self
        · exact (ih h).imp_right (List.mem_cons_of_mem _)

theorem Sorted.insertField {fields : List (String × α)} (h : Sorted fields) (key : String)
    (value : α) : Sorted (insertField key value fields) := by
  induction fields with
  | nil => exact List.pairwise_singleton _ _
  | cons g rest ih =>
    obtain ⟨k, v⟩ := g
    obtain ⟨hk, hrest⟩ := List.pairwise_cons.mp h
    unfold QueryTrace.insertField
    split
    · next hlt =>
      refine List.pairwise_cons.mpr ⟨fun f hf => ?_, h⟩
      rcases List.mem_cons.mp hf with rfl | hf
      · exact hlt
      · exact hlt.trans (hk f hf)
    · next hnlt =>
      split
      · next heq =>
        subst heq
        exact List.pairwise_cons.mpr ⟨hk, hrest⟩
      · next hne =>
        refine List.pairwise_cons.mpr ⟨fun f hf => ?_, ih hrest⟩
        rcases mem_insertField hf with rfl | hf
        · exact (lt_or_gt_of_ne hne).resolve_left hnlt
        · exact hk f hf

/-- A field is put beside the fields of other keys. -/
theorem Sorted.insertField_perm {fields : List (String × α)} (h : Sorted fields) (key : String)
    (value : α) :
    (QueryTrace.insertField key value fields).Perm
      ((key, value) :: QueryTrace.without key fields) := by
  induction fields with
  | nil => exact .refl _
  | cons g rest ih =>
    obtain ⟨k, v⟩ := g
    obtain ⟨hk, hrest⟩ := List.pairwise_cons.mp h
    unfold QueryTrace.insertField
    split
    -- The key is less than all keys that are there, so no field has it.
    · next hlt =>
      rw [without_of_lt]
      intro f hf
      rcases List.mem_cons.mp hf with rfl | hf
      · exact hlt
      · exact hlt.trans (hk f hf)
    · split
      · next heq =>
        subst heq
        rw [without_cons_self, without_of_lt hk]
      · next hne =>
        rw [without_cons_of_ne (Ne.symm hne)]
        exact ((ih hrest).cons _).trans (.swap ..)

/-- A field that is found stands beside the fields of other keys. -/
theorem Sorted.perm_of_find? {fields : List (String × α)} (h : Sorted fields) {key : String}
    {f : String × α} (hf : fields.find? (·.1 = key) = some f) :
    fields.Perm (f :: QueryTrace.without key fields) := by
  induction fields with
  | nil => cases hf
  | cons g rest ih =>
    obtain ⟨k, v⟩ := g
    obtain ⟨hk, hrest⟩ := List.pairwise_cons.mp h
    by_cases hkey : k = key
    · subst hkey
      obtain rfl : (k, v) = f := by simpa using hf
      rw [without_cons_self, without_of_lt hk]
    · rw [without_cons_of_ne hkey]
      have hf : rest.find? (·.1 = key) = some f := by simpa [hkey] using hf
      exact ((ih hrest hf).cons _).trans (.swap ..)

/-- When no field is found, all fields are of other keys. -/
theorem without_of_find?_none {fields : List (String × α)} {key : String}
    (h : fields.find? (·.1 = key) = none) : without key fields = fields := by
  refine List.filter_eq_self.mpr fun f hf => ?_
  simpa using List.find?_eq_none.mp h f hf

/-- What was put in is found, also among fields that are not sorted. -/
theorem find?_insertField (key : String) (value : α) (fields : List (String × α)) :
    (insertField key value fields).find? (·.1 = key) = some (key, value) := by
  induction fields with
  | nil => simp [insertField]
  | cons g rest ih =>
    obtain ⟨k, v⟩ := g
    unfold insertField
    split
    · simp
    · split
      · simp
      · next hne => simpa [Ne.symm hne] using ih

end QueryTrace
