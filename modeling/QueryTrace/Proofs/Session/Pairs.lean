import Mathlib.Data.List.Forall2
import QueryTrace.Json.Value

/-!
# Lists that are related entry by entry

What is at one position of both lists, or under one name, is related. Changes at a position and
under a name keep it so.
-/

namespace QueryTrace

variable {α β γ : Type} {R : α → β → Prop}

/-! ## Positions -/

theorem related_getElem? {as : List α} {bs : List β} (h : List.Forall₂ R as bs) (n : Nat) :
    Option.Rel R as[n]? bs[n]? := by
  induction h generalizing n with
  | nil => exact .none
  | cons hab _ ih =>
    cases n with
    | zero => exact .some hab
    | succ n => exact ih n

/-- What is read at a position is the same, if it is the same of entries that are related. -/
theorem related_map_getElem? {as : List α} {bs : List β} (h : List.Forall₂ R as bs) (n : Nat)
    {f : α → γ} {g : β → γ} (hfg : ∀ a b, R a b → f a = g b) : as[n]?.map f = bs[n]?.map g := by
  have hentry := related_getElem? h n
  generalize as[n]? = a, bs[n]? = b at hentry
  cases hentry with
  | none => rfl
  | some hab => exact congrArg some (hfg _ _ hab)

theorem related_headD {as : List α} {bs : List β} (h : List.Forall₂ R as bs) {a : α} {b : β}
    (hab : R a b) : R (as.headD a) (bs.headD b) := by
  cases h with
  | nil => exact hab
  | cons hhead _ => exact hhead

theorem related_modify {as : List α} {bs : List β} (h : List.Forall₂ R as bs) (n : Nat) {f : α → α}
    {g : β → β} (hfg : ∀ a b, R a b → R (f a) (g b)) :
    List.Forall₂ R (as.modify n f) (bs.modify n g) := by
  induction h generalizing n with
  | nil => cases n <;> exact .nil
  | cons hab hrest ih =>
    cases n with
    | zero => exact .cons (hfg _ _ hab) hrest
    | succ n => exact .cons hab (ih n)

theorem related_tail {as : List α} {bs : List β} (h : List.Forall₂ R as bs) :
    List.Forall₂ R as.tail bs.tail := by
  cases h with
  | nil => exact .nil
  | cons _ hrest => exact hrest

/-! ## Names -/

/-- Entries of one name whose values are related. -/
def Named (R : α → β → Prop) (entry : String × α) (entry' : String × β) : Prop :=
  entry.1 = entry'.1 ∧ R entry.2 entry'.2

section Names

variable {as : List (String × α)} {bs : List (String × β)} (h : List.Forall₂ (Named R) as bs)
  (name : String)
include h

theorem named_find? : Option.Rel R ((as.find? (·.1 = name)).map (·.2))
    ((bs.find? (·.1 = name)).map (·.2)) := by
  induction h with
  | nil => exact .none
  | @cons a b _ _ hab _ ih =>
    by_cases hfound : a.1 = name
    · rw [List.find?_cons_of_pos (by simpa using hfound),
        List.find?_cons_of_pos (by simpa [← hab.1] using hfound)]
      exact .some hab.2
    · rw [List.find?_cons_of_neg (by simpa using hfound),
        List.find?_cons_of_neg (by simpa [← hab.1] using hfound)]
      exact ih

theorem named_filter : List.Forall₂ (Named R) (as.filter (·.1 ≠ name)) (bs.filter (·.1 ≠ name)) :=
  List.rel_filter (fun a b (hab : Named R a b) => by simp [hab.1]) h

theorem named_insertField {x : α} {y : β} (hxy : R x y) :
    List.Forall₂ (Named R) (insertField name x as) (insertField name y bs) := by
  induction h with
  | nil => exact .cons ⟨rfl, hxy⟩ .nil
  | @cons a b _ _ hab hrest ih =>
    obtain ⟨key, x'⟩ := a
    obtain ⟨key', y'⟩ := b
    obtain rfl : key = key' := hab.1
    simp only [insertField]
    split
    · exact .cons ⟨rfl, hxy⟩ (.cons hab hrest)
    · split
      · exact .cons ⟨rfl, hxy⟩ hrest
      · exact .cons hab ih

end Names

end QueryTrace
