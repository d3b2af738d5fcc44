import QueryTrace.Proofs.Holding.Service

/-!
# What turns do with what is held

A turn goes from `P` to `Q`, or is ended by a fault and then leaves the desk kept, with the shares
that it had. Taking an object from the desk, storing it, and working on a deferred span of the desk
are turns from which steps are made.
-/

namespace QueryTrace.Session

variable {α β : Type} {hands : Prop} {c : Context} {S : Multiset Nat}

/-- From `P` the turn moves to `Q`, or ends by a fault and leaves the desk kept. -/
def TurnDoes (hands : Prop) (c : Context) (S : Multiset Nat) (P : Assertion Desk) (turn : Turn α)
    (Q : α → Assertion Desk) : Prop :=
  Does hands c P turn.run fun
    | .ok a => Q a
    | .error _ => Kept hands S

/-- The turn leaves the desk kept in any case. -/
def TurnKeeps (hands : Prop) (c : Context) (S : Multiset Nat) (turn : Turn α) : Prop :=
  TurnDoes hands c S (Kept hands S) turn fun _ => Kept hands S

namespace TurnDoes

variable {P : Assertion Desk} {Q : α → Assertion Desk} {R : β → Assertion Desk}

theorem pure {a : α} (h : ∀ H d, P H d → Q a H d) : TurnDoes hands c S P (pure a) Q :=
  Does.pure h

theorem throw (fault : Fault) (h : ∀ H d, P H d → Kept hands S H d) :
    TurnDoes hands c S P (throw fault : Turn α) Q :=
  Does.pure h

theorem bind {turn : Turn α} {f : α → Turn β} (h : TurnDoes hands c S P turn Q)
    (hf : ∀ a, TurnDoes hands c S (Q a) (f a) R) : TurnDoes hands c S P (turn >>= f) R := by
  show Does hands c P (turn.run >>= ExceptT.bindCont f) _
  refine Does.bind h fun r => ?_
  cases r with
  | ok a => exact hf a
  | error fault => exact Does.pure fun _ _ hkept => hkept

theorem lift {act : Doing α} (h : Does hands c P act Q) :
    TurnDoes hands c S P (ExceptT.lift act) Q :=
  ⟨fun F H w hw hP => h.moves F H w hw hP⟩

theorem weaken {turn : Turn α} {P' : Assertion Desk} {Q' : α → Assertion Desk}
    (h : TurnDoes hands c S P turn Q) (hP : ∀ H d, P' H d → P H d)
    (hQ : ∀ a H d, Q a H d → Q' a H d) : TurnDoes hands c S P' turn Q' := by
  refine Does.weaken h hP fun r H d hr => ?_
  cases r with
  | ok a => exact hQ a H d hr
  | error fault => exact hr

theorem of_fact {turn : Turn α} {A : Prop} (hA : ∀ H d, P H d → A)
    (h : A → TurnDoes hands c S P turn Q) : TurnDoes hands c S P turn Q :=
  Does.of_fact hA h

theorem drop {turn : Turn α} {A : Assertion Desk} (h : TurnDoes hands c S P turn Q) :
    TurnDoes hands c S (fun H d => A H d ∧ P H d) turn Q :=
  Does.drop h

end TurnDoes

namespace TurnKeeps

theorem pure (a : α) : TurnKeeps hands c S (pure a : Turn α) :=
  TurnDoes.pure fun _ _ hP => hP

theorem throw (fault : Fault) : TurnKeeps hands c S (throw fault : Turn α) :=
  TurnDoes.throw fault fun _ _ hP => hP

theorem bind {turn : Turn α} {f : α → Turn β} (h : TurnKeeps hands c S turn)
    (hf : ∀ a, TurnKeeps hands c S (f a)) : TurnKeeps hands c S (turn >>= f) :=
  TurnDoes.bind h hf

theorem lift {act : Doing α} (h : Does hands c (Kept hands S) act fun _ => Kept hands S) :
    TurnKeeps hands c S (ExceptT.lift act) :=
  TurnDoes.lift h

theorem desk : TurnKeeps hands c S (ExceptT.lift desk) :=
  .lift (desk_does.weaken (fun _ _ hP => hP) fun _ _ _ hQ => hQ.2)

end TurnKeeps

/-! ## Objects -/

/-- Objects that hold nothing and share in nothing. -/
def Object.Light (o : Object) : Prop :=
  o.shares = 0 ∧ o.holds = 0

theorem Object.Light.plus {o : Object} (h : o.Light) :
    (Kept hands (o.shares + S)).plus o.holds = Kept hands S := by
  rw [h.1, h.2, zero_add, Assertion.plus_zero]

theorem keep_does (name : Option String) (o : Object) :
    TurnDoes hands c S ((Kept hands (o.shares + S)).plus o.holds) (keep name o)
      fun _ => Kept hands S := by
  cases name with
  | some name => exact .lift (store_does name o)
  | none => exact .bind (.lift (discard_does o)) fun _ => .throw _ fun _ _ hP => hP

theorem keep_keeps (name : Option String) {o : Object} (ho : o.Light) :
    TurnKeeps hands c S (keep name o) := by
  have hkeep : TurnDoes hands c S _ (keep name o) _ := keep_does name o
  rwa [ho.plus] at hkeep

theorem store_keeps (name : String) {o : Object} (ho : o.Light) :
    Does hands c (Kept hands S) (store name o) fun _ => Kept hands S := by
  have hstore : Does hands c _ (store name o) fun _ => Kept hands S := store_does name o
  rwa [ho.plus] at hstore

/-- What is found is on the desk. -/
theorem find_does {P : Assertion Desk} (hP : ∀ H d, P H d → Kept hands S H d)
    (pick : Object → Option α) (name : String) : TurnDoes hands c S P (find pick name)
      fun a H d => (∃ o, d.Has name o ∧ pick o = some a) ∧ P H d := by
  refine .bind (.lift (lookup_does name)) fun o => ?_
  cases ho : o.bind pick with
  | none => exact .throw _ fun H d hfound => hP H d hfound.2
  | some a =>
    obtain ⟨object, rfl, hpick⟩ := Option.bind_eq_some_iff.mp ho
    exact .pure fun H d hfound => ⟨⟨object, hfound.1.symm, hpick⟩, hfound.2⟩

theorem find_keeps (pick : Object → Option α) (name : String) :
    TurnKeeps hands c S (find pick name) :=
  (find_does (fun _ _ hP => hP) pick name).weaken (fun _ _ hP => hP) fun _ _ _ hQ => hQ.2

theorem takeCursor_does (name : String) : TurnDoes hands c S (Kept hands S) (takeCursor name)
    fun cursor => (Kept hands S).plus (Object.cursor cursor).holds := by
  refine .bind (find_does (fun _ _ hP => hP) _ name) fun cursor => ?_
  have hremove : Does hands c (fun H d => d.Has name (.cursor cursor) ∧ Kept hands S H d)
    (remove name) _ := remove_does name (.cursor cursor)
  have hshares : (Object.cursor cursor).shares = 0 := rfl
  rw [hshares, zero_add] at hremove
  refine .bind (.lift (hremove.weaken (fun H d hP => ?_) fun _ _ _ hQ => hQ)) fun _ =>
    .pure fun _ _ hQ => hQ
  obtain ⟨⟨o, hhas, ho⟩, hkept⟩ := hP
  cases o <;> cases ho
  exact ⟨hhas, hkept⟩

/-- Taking a chain away leaves the deferred spans alone. -/
theorem takeChain_does (name : String) (I : List HeldSpan → Prop) : TurnDoes hands c S
    (fun H d => I d.deferreds ∧ Kept hands S H d) (takeChain name)
    fun _ H d => I d.deferreds ∧ Kept hands S H d := by
  refine .bind (find_does (fun _ _ hP => hP.2) _ name) fun chain => ?_
  have hremove : Does hands c
      (fun H d => d.Has name (.chain chain) ∧ I d.deferreds ∧ Kept hands S H d) (remove name)
      fun _ H d => I d.deferreds ∧ Kept hands S H d := by
    refine changeDesk_does fun H d ⟨hhas, hI, hH, hd⟩ => ?_
    refine ⟨hI, ?_, hd.objects (hd.sorted.without name) ?_⟩
    · have hholds : (Object.chain chain).holds = 0 := rfl
      rw [hH, Desk.holds, hhas.sum_without Object.holds hd.sorted, hholds, add_zero]
      rfl
    · have hshares : (Object.chain chain).shares = 0 := rfl
      rw [Desk.shares, hhas.sum_without Object.shares hd.sorted, hshares, add_zero]
      rfl
  refine .bind (.lift (hremove.weaken (fun H d hP => ?_) fun _ _ _ hQ => hQ)) fun _ =>
    .pure fun _ _ hQ => hQ
  obtain ⟨⟨o, hhas, ho⟩, hkept⟩ := hP
  cases o <;> cases ho
  exact ⟨hhas, hkept⟩

theorem takeChain_keeps (name : String) : TurnKeeps hands c S (takeChain name) :=
  (takeChain_does name fun _ => True).weaken (fun _ _ hP => ⟨trivial, hP⟩) fun _ _ _ hQ => hQ.2

/-! ## Deferred spans -/

/-- The desk is kept but for a deferred span: what the span holds comes on top. -/
def KeptBut (hands : Prop) (S : Multiset Nat) (number : Nat) (span : Deferred) :
    Assertion Desk :=
  fun H d => d.Shared number span ∧ d.Sound hands S ∧ d.holds = H + span.holds

theorem Desk.Shared.holds {d : Desk} {number : Nat} {span : Deferred}
    (h : d.Shared number span) : ∃ rest, d.holds = rest + span.holds ∧
      ∀ span', Desk.holds { d with
        deferreds := d.deferreds.modify number fun h => { h with span := span' } } =
          rest + span'.holds := by
  obtain ⟨held, hget, rfl, hholders⟩ := h
  obtain ⟨rest, hrest, hmodify⟩ := d.holds_modify hget
  refine ⟨rest, ?_, fun span' => ?_⟩
  · rw [hrest, HeldSpan.holds, if_neg hholders]
  · rw [hmodify, HeldSpan.holds, if_neg hholders]

theorem kept_iff_keptBut {number : Nat} {span : Deferred} {H : Multiset Hold} {d : Desk}
    (h : d.Shared number span) :
    Kept hands S H d ↔ (KeptBut hands S number span).plus span.holds H d := by
  constructor
  · rintro ⟨hH, hd⟩
    obtain ⟨rest, hrest, -⟩ := h.holds
    exact ⟨rest, ⟨h, hd, hrest⟩, hH.trans hrest⟩
  · rintro ⟨H₀, ⟨-, hd, hholds⟩, rfl⟩
    exact ⟨hholds.symm, hd⟩

theorem findDeferred_does (name : String) : TurnDoes hands c S (Kept hands S) (findDeferred name)
    fun x H d => d.Shared x.1 x.2 ∧ Kept hands S H d := by
  refine .bind (find_does (fun _ _ hP => hP) _ name) fun number => ?_
  refine .bind (.lift desk_does) fun d => ?_
  split
  · next held hget =>
    refine .pure fun H d' ⟨hd', ⟨o, hhas, ho⟩, hkept⟩ => ⟨⟨held, hd' ▸ hget, rfl, ?_⟩, hkept⟩
    subst hd'
    cases o <;> cases ho
    have hcount := hkept.2.holders number
    have hmem := Multiset.count_pos.mpr (hhas.mem_shares hkept.2.sorted)
    rw [Multiset.count_add, hget] at hcount
    simp only [Option.map_some, Option.getD_some] at hcount
    omega
  · exact .throw _ fun _ _ hP => hP.2.2

/-- An action that leaves a deferred span open, or closed, as it was keeps the desk. -/
theorem useSpan_does {number : Nat} {span : Deferred} {act : Doing α}
    (h : ∀ P : Assertion Desk, Does hands c (P.plus span.holds) act fun _ => P.plus span.holds) :
    Does hands c (fun H d => d.Shared number span ∧ Kept hands S H d) act
      fun _ => Kept hands S := by
  refine (h (KeptBut hands S number span)).weaken
    (fun H d hP => (kept_iff_keptBut hP.1).mp hP.2) fun _ H d hQ => (kept_iff_keptBut ?_).mpr hQ
  obtain ⟨H₀, hbut, -⟩ := hQ
  exact hbut.1

/-- A deferred span of the desk is replaced by what has become of it. -/
theorem changeSpan_does (number : Nat) (span span' : Deferred) : Does hands c
    ((KeptBut hands S number span).plus span'.holds)
    (changeHeld number fun h => { h with span := span' }) fun _ => Kept hands S := by
  refine changeDesk_does fun H d ⟨H₀, ⟨hshared, hd, hholds⟩, hH⟩ => ?_
  obtain ⟨rest, hrest, hmodify⟩ := hshared.holds
  obtain rfl : H₀ = rest := add_right_cancel (hholds.symm.trans hrest)
  refine ⟨hH.trans (hmodify span').symm, hd.modify number fun n => ?_⟩
  rw [getElem?_holders_modify, hd.holders n]
  cases d.deferreds[n]? with
  | none => rfl
  | some h => by_cases hn : number = n <;> simp [hn]

end QueryTrace.Session
