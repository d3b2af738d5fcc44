import QueryTrace.Proofs.Holding.Layers
import QueryTrace.Proofs.Json.Fields
import QueryTrace.Proofs.Session.Steps

/-!
# What a desk holds

The cursors and the deferred spans of a desk hold the spans that are open in them. A deferred span
has as many holders as it has names and scopes; once it has none it holds nothing, and it must not
be open then.

A desk is `Kept` if what is held is what it holds and if its counts are right. What is taken from
the desk, into the hand of a step, is held beside it until it is put back or dropped.
-/

namespace QueryTrace.Session

/-! ## Holds and shares -/

/-- What an object holds by itself. -/
def Object.holds : Object → Multiset Hold
  | .cursor c => RowsLayer.held c.layers
  | _ => 0

/-- The deferred spans that an object shares in. -/
def Object.shares : Object → Multiset Nat
  | .deferred number => {number}
  | _ => 0

/-- What a deferred span with holders holds. -/
def HeldSpan.holds (h : HeldSpan) : Multiset Hold :=
  if h.holders = 0 then 0 else h.span.holds

/-- What the objects and the deferred spans of a desk hold. -/
def Desk.holds (d : Desk) : Multiset Hold :=
  (d.objects.map (·.2.holds)).sum + (d.deferreds.map HeldSpan.holds).sum

/-- The deferred spans that the objects of a desk share in. -/
def Desk.shares (d : Desk) : Multiset Nat :=
  (d.objects.map (·.2.shares)).sum

/-- Steps by which a program describes or ends whatever span is current. -/
def Step.byHand : Step → Bool
  | .endCurrent => true
  | .describe .. => true
  | _ => false

/-- The names of the desk are in order, and the holders of every deferred span are the objects that
share in it, and the shares `S` of scopes and of objects in hand. Steps that wait on the servers
work by hand only if the program may. -/
structure Desk.Sound (hands : Prop) (S : Multiset Nat) (d : Desk) : Prop where
  sorted : Sorted d.objects
  holders : ∀ n, (d.shares + S).count n = (d.deferreds[n]?.map (·.holders)).getD 0
  waiting : AllWaiting (fun s => s.byHand = true → hands) d.servers

/-- What is held is what the desk holds, and the desk is sound. -/
def Kept (hands : Prop) (S : Multiset Nat) : Assertion Desk :=
  fun H d => H = d.holds ∧ d.Sound hands S

/-- The desk has an object under a name. -/
def Desk.Has (d : Desk) (name : String) (o : Object) : Prop :=
  (d.objects.find? (·.1 = name)).map (·.2) = some o

namespace Desk

variable {d : Desk} {name : String} {o : Object} {hands : Prop} {S : Multiset Nat}

theorem sum_of_perm {M : Type} [AddCommMonoid M] (f : Object → M)
    {fields fields' : List (String × Object)} (h : fields.Perm fields') :
    (fields.map (f ·.2)).sum = (fields'.map (f ·.2)).sum :=
  (h.map _).sum_eq

/-- What an object adds to a desk goes with the object. -/
theorem Has.sum_without {M : Type} [AddCommMonoid M] (f : Object → M) (h : d.Has name o)
    (hd : Sorted d.objects) :
    (d.objects.map (f ·.2)).sum = ((without name d.objects).map (f ·.2)).sum + f o := by
  obtain ⟨field, hfield, rfl⟩ := Option.map_eq_some_iff.mp h
  rw [sum_of_perm f (hd.perm_of_find? hfield), List.map_cons, List.sum_cons, add_comm]

theorem Has.mem_shares {number : Nat} (h : d.Has name (.deferred number))
    (hd : Sorted d.objects) : number ∈ d.shares := by
  rw [Desk.shares, h.sum_without Object.shares hd]
  exact Multiset.mem_add.mpr (.inr (Multiset.mem_singleton_self number))

theorem sum_insertField {M : Type} [AddCommMonoid M] (f : Object → M) (hd : Sorted d.objects)
    (name : String) (o : Object) :
    ((insertField name o d.objects).map (f ·.2)).sum =
      ((without name d.objects).map (f ·.2)).sum + f o := by
  rw [sum_of_perm f (hd.insertField_perm name o), List.map_cons, List.sum_cons, add_comm]

end Desk

/-- A sum over a list whose item at one place is changed. -/
theorem sum_map_modify {α M : Type} [AddCommMonoid M] (g : α → M) {l : List α} {n : Nat} {a : α}
    (h : l[n]? = some a) : ∃ rest, (l.map g).sum = rest + g a ∧
      ∀ f : α → α, ((l.modify n f).map g).sum = rest + g (f a) := by
  obtain ⟨hn, ha⟩ := List.getElem?_eq_some_iff.mp h
  refine ⟨((l.take n).map g).sum + ((l.drop (n + 1)).map g).sum, ?_, fun f => ?_⟩
  · conv_lhs => rw [← List.take_append_drop n l, List.drop_eq_getElem_cons hn, ha]
    rw [List.map_append, List.map_cons, List.sum_append, List.sum_cons, add_comm (g a), add_assoc]
  · rw [List.modify_eq_take_cons_drop hn, ha, List.map_append, List.map_cons, List.sum_append,
      List.sum_cons, add_comm (g (f a)), add_assoc]

/-! ## Changes of the desk -/

section Actions

variable {hands : Prop} {c : Context} {S : Multiset Nat}

theorem changeDesk_does {P Q : Assertion Desk} {f : Desk → Desk}
    (h : ∀ H d, P H d → Q H (f d)) : Does hands c P (changeDesk f) fun _ => Q :=
  .work (fun w => f w.program) (·.clock) fun w H hP => h H w.program hP

theorem desk_does {P : Assertion Desk} :
    Does hands c P desk fun d H d' => d = d' ∧ P H d' :=
  ⟨fun _ H _ _ hP => ⟨H, ⟨rfl, hP⟩, .refl, rfl⟩⟩

theorem changeServer_does (number : Nat) {f : Server → Server}
    (hf : ∀ s, AllSteps (fun s => s.byHand = true → hands) s.waiting →
      AllSteps (fun s => s.byHand = true → hands) (f s).waiting) :
    Does hands c (Kept hands S) (changeServer number f) fun _ => Kept hands S :=
  changeDesk_does fun _ _ ⟨hH, hd⟩ => ⟨hH, hd.sorted, hd.holders, hd.waiting.modify number hf⟩

theorem lookup_does {P : Assertion Desk} (name : String) : Does hands c P (lookup? name)
    fun o H d => o = (d.objects.find? (·.1 = name)).map (·.2) ∧ P H d :=
  ⟨fun _ H _ _ hP => ⟨H, ⟨rfl, hP⟩, .refl, rfl⟩⟩

/-! ## Holders of deferred spans -/

/-- The desk has a deferred span with a number, and somebody holds it. -/
def Desk.Shared (d : Desk) (number : Nat) (span : Deferred) : Prop :=
  ∃ held, d.deferreds[number]? = some held ∧ held.span = span ∧ held.holders ≠ 0

/-- A change of one deferred span changes what the desk holds by what that span holds. -/
theorem Desk.holds_modify {d : Desk} {number : Nat} {held : HeldSpan}
    (h : d.deferreds[number]? = some held) : ∃ rest, d.holds = rest + held.holds ∧
      ∀ f, Desk.holds { d with deferreds := d.deferreds.modify number f } =
        rest + (f held).holds := by
  obtain ⟨rest, hrest, hmodify⟩ := sum_map_modify HeldSpan.holds h
  refine ⟨(d.objects.map (·.2.holds)).sum + rest, ?_, fun f => ?_⟩
  · rw [Desk.holds, hrest, add_assoc]
  · rw [Desk.holds, hmodify, add_assoc]

theorem Desk.Sound.modify {d : Desk} {S' : Multiset Nat} (hd : d.Sound hands S) (number : Nat)
    {f : HeldSpan → HeldSpan}
    (hf : ∀ n, (d.shares + S').count n =
      ((d.deferreds.modify number f)[n]?.map (·.holders)).getD 0) :
    Desk.Sound hands S' { d with deferreds := d.deferreds.modify number f } where
  sorted := hd.sorted
  holders := hf
  waiting := hd.waiting

theorem getElem?_holders_modify (l : List HeldSpan) (number n : Nat) (f : HeldSpan → HeldSpan) :
    ((l.modify number f)[n]?.map (·.holders)).getD 0 =
      (l[n]?.map fun h => (if number = n then f h else h).holders).getD 0 := by
  rw [List.getElem?_modify]
  cases l[n]? with
  | none => rfl
  | some h => by_cases hn : number = n <;> simp [hn]

/-- One more share is one more holder. -/
theorem hold_does (number : Nat) (span : Deferred) : Does hands c
    (fun H d => d.Shared number span ∧ Kept hands S H d) (hold number)
    fun _ H d => d.Shared number span ∧ Kept hands ({number} + S) H d := by
  unfold hold changeHeld
  refine changeDesk_does fun H d ⟨⟨held, hget, hspan, hholders⟩, hH, hd⟩ => ?_
  obtain ⟨rest, hrest, hmodify⟩ := d.holds_modify hget
  refine ⟨⟨{ held with holders := held.holders + 1 }, by simp [hget], hspan, by simp⟩, ?_,
    hd.modify number fun n => ?_⟩
  · rw [hH, hrest, hmodify]
    simp [HeldSpan.holds, hholders]
  · have hcount := hd.holders n
    rw [getElem?_holders_modify, add_left_comm, Multiset.count_add, hcount,
      Multiset.count_singleton]
    by_cases hn : n = number
    · subst hn
      simp [hget, add_comm]
    · simp [hn, Ne.symm hn]

/-- A deferred span has lost a holder. If that was the last one, what the span holds is in hand. -/
def Left (hands : Prop) (S : Multiset Nat) (number : Nat) : Assertion Desk :=
  fun H d => ∃ held, d.deferreds[number]? = some held ∧
    (Kept hands S).plus (if held.holders = 0 then held.span.holds else 0) H d

/-- One share less is one holder less. -/
theorem leave_does (number : Nat) : Does hands c (Kept hands ({number} + S))
    (changeHeld number fun h => { h with holders := h.holders - 1 })
    fun _ => Left hands S number := by
  unfold changeHeld
  refine changeDesk_does fun H d ⟨hH, hd⟩ => ?_
  -- The share that goes is counted, so the span has a holder.
  have hcount (n : Nat) := hd.holders n
  simp only [add_left_comm d.shares, Multiset.count_add, Multiset.count_singleton] at hcount
  obtain ⟨held, hget⟩ : ∃ held, d.deferreds[number]? = some held := by
    cases hget : d.deferreds[number]? with
    | none => simpa [hget] using hcount number
    | some held => exact ⟨held, rfl⟩
  have hholders : held.holders ≠ 0 := by
    have := hcount number
    simp only [if_true, hget, Option.map_some, Option.getD_some] at this
    omega
  have hsound : Desk.Sound hands S { d with
      deferreds := d.deferreds.modify number fun h => { h with holders := h.holders - 1 } } := by
    refine hd.modify number fun n => ?_
    have := hcount n
    rw [getElem?_holders_modify]
    by_cases hn : n = number
    · subst hn
      simp only [if_true, hget, Option.map_some, Option.getD_some, Multiset.count_add] at this ⊢
      omega
    · simpa [hn, Ne.symm hn] using this
  obtain ⟨rest, hrest, hmodify⟩ := d.holds_modify hget
  have hheld : held.holds = held.span.holds := if_neg hholders
  refine ⟨{ held with holders := held.holders - 1 }, by simp [hget], _, ⟨rfl, hsound⟩, ?_⟩
  rw [hH, hrest, hmodify, hheld, add_assoc]
  by_cases hlast : held.holders - 1 = 0
  · simp [HeldSpan.holds, hlast]
  · simp [HeldSpan.holds, hlast]

/-- With its last holder a deferred span ends. -/
theorem release_does (number : Nat) :
    Does hands c (Kept hands ({number} + S)) (release number) fun _ => Kept hands S := by
  refine .bind (leave_does number) fun _ => .bind desk_does fun d => ?_
  refine .of_fact (A := ∃ held, d.deferreds[number]? = some held)
    (fun H d' ⟨hd, held, hget, _⟩ => ⟨held, hd ▸ hget⟩) fun ⟨held, hget⟩ => ?_
  have hleft (H : Multiset Hold) (d' : Desk) (hP : d = d' ∧ Left hands S number H d') :
      (Kept hands S).plus (if held.holders = 0 then held.span.holds else 0) H d' := by
    obtain ⟨rfl, held', hget', hP⟩ := hP
    obtain rfl : held = held' := by simpa [hget] using hget'
    exact hP
  simp only [hget]
  split
  · next hlast =>
    refine held.span.abandon_does.weaken (fun H d' hP => ?_) fun _ _ _ hQ => hQ
    simpa [hlast] using hleft H d' hP
  · next hmore =>
    exact .pure fun H d' hP => by simpa [hmore, Assertion.plus_zero] using hleft H d' hP

/-! ## Objects -/

/-- What happens when an object is dropped ends what it holds, and gives its shares back. -/
theorem discard_does (o : Object) :
    Does hands c ((Kept hands (o.shares + S)).plus o.holds) (discard o) fun _ => Kept hands S := by
  have hnothing (o : Object) (h : o.shares = 0 ∧ o.holds = 0) :
      Does hands c ((Kept hands (o.shares + S)).plus o.holds) (pure () : Doing Unit)
        fun _ => Kept hands S := by
    rw [h.1, h.2, zero_add, Assertion.plus_zero]
    exact .skip _
  cases o with
  | cursor cursor =>
    have hdrops : Does hands c ((Kept hands S).plus (RowsLayer.held cursor.layers))
      (cursor.layers.forM RowsLayer.drop : Doing Unit) _ := RowsLayer.drops_does cursor.layers
    simpa [Object.shares, Object.holds, discard] using hdrops
  | deferred number =>
    have hrelease : Does hands c _ (release number) fun _ => Kept hands S := release_does number
    simpa [Object.shares, Object.holds, discard, Assertion.plus_zero] using hrelease
  | _ => exact hnothing _ ⟨rfl, rfl⟩

theorem Desk.Sound.objects {d : Desk} {S' : Multiset Nat} (hd : d.Sound hands S)
    {objects : List (String × Object)} (hsorted : Sorted objects)
    (hshares : (objects.map (·.2.shares)).sum + S' = d.shares + S) :
    Desk.Sound hands S' { d with objects } where
  sorted := hsorted
  holders n := by
    rw [← hd.holders n, ← hshares]
    rfl
  waiting := hd.waiting

/-- An object that is taken from the desk is held in hand. -/
theorem remove_does (name : String) (o : Object) : Does hands c
    (fun H d => d.Has name o ∧ Kept hands S H d) (remove name)
    fun _ => (Kept hands (o.shares + S)).plus o.holds := by
  refine changeDesk_does fun H d ⟨hhas, hH, hd⟩ => ⟨_, ⟨rfl, ?_⟩, ?_⟩
  · refine hd.objects (hd.sorted.without name) ?_
    rw [Desk.shares, hhas.sum_without Object.shares hd.sorted, add_assoc]
    rfl
  · rw [hH, Desk.holds, hhas.sum_without Object.holds hd.sorted]
    exact add_right_comm ..

/-- An object in hand is stored, and what was there is dropped. -/
theorem store_does (name : String) (o : Object) :
    Does hands c ((Kept hands (o.shares + S)).plus o.holds) (store name o)
      fun _ => Kept hands S := by
  refine .bind (lookup_does name) fun old => ?_
  cases old with
  | none =>
    refine .bind (Q := fun _ => Kept hands S) ?_ fun _ => .skip _
    refine changeDesk_does fun H d ⟨hold, H₀, ⟨hH, hd⟩, hplus⟩ => ?_
    have hwithout : without name d.objects = d.objects :=
      without_of_find?_none (by simpa using hold.symm)
    have hholds := Desk.sum_insertField Object.holds hd.sorted name o
    have hshares := Desk.sum_insertField Object.shares hd.sorted name o
    rw [hwithout] at hholds hshares
    refine ⟨?_, hd.objects (hd.sorted.insertField name o) ?_⟩
    · rw [hplus, hH, Desk.holds, Desk.holds, hholds]
      exact add_right_comm ..
    · rw [hshares, add_assoc]
      rfl
  | some old =>
    -- What is replaced comes into the hand, and is dropped from there.
    refine .bind (Q := fun _ => (Kept hands (old.shares + S)).plus old.holds) ?_
      fun _ => discard_does old
    refine changeDesk_does fun H d ⟨hold, H₀, ⟨hH, hd⟩, hplus⟩ => ?_
    have hhas : d.Has name old := hold.symm
    refine ⟨_, ⟨rfl, hd.objects (hd.sorted.insertField name o) ?_⟩, ?_⟩
    · rw [Desk.sum_insertField Object.shares hd.sorted, Desk.shares,
        hhas.sum_without Object.shares hd.sorted]
      ac_rfl
    · rw [hplus, hH, Desk.holds, Desk.holds, Desk.sum_insertField Object.holds hd.sorted,
        hhas.sum_without Object.holds hd.sorted]
      ac_rfl

end Actions

end QueryTrace.Session
