import QueryTrace.Proofs.Holding.Moves

/-!
# What an action does with what is held

An assertion says what is held and what the program's state is. `Does hands c P act Q` says: from a
world with context `c` on top in which `P` holds, the action moves to one in which `Q` holds of its
result, whatever is held elsewhere, and leaves the contexts as they were.
-/

namespace QueryTrace

variable {σ ν α β : Type}

/-- A statement about what is held and about the state of the program. -/
def Assertion (σ : Type) := Multiset Hold → σ → Prop

/-- The assertion, and more is held beside. -/
def Assertion.plus (P : Assertion σ) (K : Multiset Hold) : Assertion σ :=
  fun H p => ∃ H₀, P H₀ p ∧ H = H₀ + K

/-- From `P`, in the context `c`, the action moves to `Q` and leaves the contexts alone. -/
structure Does (hands : Prop) (c : Context) (P : Assertion σ) (act : Action σ ν α)
    (Q : α → Assertion σ) : Prop where
  moves : ∀ (F H : Multiset Hold) (w : World σ ν), w.current = c → P H w.program →
    ∃ H', Q (result act w) H' (after act w).program ∧
      Path hands (F + H, w) (F + H', after act w) ∧ (after act w).contexts = w.contexts

namespace Assertion

variable {P Q : Assertion σ}

theorem plus_zero (P : Assertion σ) : P.plus 0 = P := by
  funext H p
  simp [plus]

theorem plus_of_zero {K : Multiset Hold} {H : Multiset Hold} {p : σ} (h : K = 0 ∧ P H p) :
    P.plus K H p := by
  rw [h.1, plus_zero]
  exact h.2

theorem plus_plus (P : Assertion σ) (K L : Multiset Hold) :
    (P.plus K).plus L = P.plus (K + L) := by
  funext H p
  apply propext
  constructor
  · rintro ⟨_, ⟨H₀, hP, rfl⟩, rfl⟩
    exact ⟨H₀, hP, add_assoc ..⟩
  · rintro ⟨H₀, hP, rfl⟩
    exact ⟨H₀ + K, ⟨H₀, hP, rfl⟩, (add_assoc ..).symm⟩

end Assertion

theorem add_plus_singleton (F H : Multiset Hold) (h : Hold) : F + (H + {h}) = h ::ₘ (F + H) := by
  rw [← add_assoc, add_comm, Multiset.singleton_add]

namespace Does

variable {hands : Prop} {c : Context} {P : Assertion σ}

theorem pure {a : α} {Q : α → Assertion σ} (h : ∀ H p, P H p → Q a H p) :
    Does hands c P (pure a : Action σ ν α) Q :=
  ⟨fun _ H _ _ hP => ⟨H, h _ _ hP, .refl, rfl⟩⟩

theorem skip (a : α) : Does hands c P (Pure.pure a : Action σ ν α) fun _ => P :=
  .pure fun _ _ hP => hP

theorem bind {act : Action σ ν α} {f : α → Action σ ν β} {Q : α → Assertion σ}
    {R : β → Assertion σ} (h : Does hands c P act Q) (hf : ∀ a, Does hands c (Q a) (f a) R) :
    Does hands c P (act >>= f) R := by
  refine ⟨fun F H w hw hP => ?_⟩
  obtain ⟨H₁, hQ, hpath, hcontexts⟩ := h.moves F H w hw hP
  have hcurrent : (after act w).current = c := by
    rw [← hw]
    unfold World.current
    rw [hcontexts]
  obtain ⟨H₂, hR, hpath', hcontexts'⟩ := (hf _).moves F H₁ _ hcurrent hQ
  exact ⟨H₂, hR, hpath.trans hpath', hcontexts'.trans hcontexts⟩

theorem weaken {act : Action σ ν α} {P' : Assertion σ} {Q Q' : α → Assertion σ}
    (h : Does hands c P act Q) (hP : ∀ H p, P' H p → P H p) (hQ : ∀ a H p, Q a H p → Q' a H p) :
    Does hands c P' act Q' := by
  refine ⟨fun F H w hw hP' => ?_⟩
  obtain ⟨H', hQ₁, hpath, hcontexts⟩ := h.moves F H w hw (hP _ _ hP')
  exact ⟨H', hQ _ _ _ hQ₁, hpath, hcontexts⟩

/-- More may be known than is needed. -/
theorem drop {act : Action σ ν α} {A : Assertion σ} {Q : α → Assertion σ}
    (h : Does hands c P act Q) : Does hands c (fun H p => A H p ∧ P H p) act Q :=
  h.weaken (fun _ _ hP => hP.2) fun _ _ _ hQ => hQ

/-- An action does not touch what is held beside. -/
theorem plus {act : Action σ ν α} {Q : α → Assertion σ} (h : Does hands c P act Q)
    (K : Multiset Hold) : Does hands c (P.plus K) act fun a => (Q a).plus K := by
  refine ⟨fun F H w hw hP => ?_⟩
  obtain ⟨H₀, hP, rfl⟩ := hP
  obtain ⟨H', hQ, hpath, hcontexts⟩ := h.moves (F + K) H₀ w hw hP
  refine ⟨H' + K, ⟨H', hQ, rfl⟩, ?_, hcontexts⟩
  rwa [add_right_comm, add_assoc, add_right_comm, add_assoc] at hpath

/-- A fact about the state may be used. -/
theorem of_fact {act : Action σ ν α} {Q : α → Assertion σ} {A : Prop}
    (hA : ∀ H p, P H p → A) (h : A → Does hands c P act Q) : Does hands c P act Q :=
  ⟨fun F H w hw hP => (h (hA _ _ hP)).moves F H w hw hP⟩

theorem bind_current {f : Context → Action σ ν β} {R : β → Assertion σ}
    (h : Does hands c P (f c) R) : Does hands c P (current >>= f) R := by
  refine ⟨fun F H w hw hP => ?_⟩
  rw [result_bind, after_bind, result_current, after_current, hw]
  exact h.moves F H w hw hP

theorem current : Does hands c P (current : Action σ ν Context) fun x H p => x = c ∧ P H p :=
  .bind_current (.pure fun _ _ hP => ⟨rfl, hP⟩)

theorem bind_get {f : World σ ν → Action σ ν β} {R : β → Assertion σ}
    (h : ∀ w, Does hands c P (f w) R) : Does hands c P (get >>= f) R :=
  ⟨fun F H w hw hP => (h w).moves F H w hw hP⟩

/-! ## One move -/

theorem log (level : Level) (message : String) (fields : List Attr) :
    Does hands c P (log level message fields : Action σ ν Unit) fun _ => P :=
  ⟨fun _ H _ _ hP => ⟨H, by simpa using hP, .single (.logged ..), by simp⟩⟩

theorem note (n : ν) : Does hands c P (note n : Action σ ν Unit) fun _ => P :=
  ⟨fun _ H _ _ hP => ⟨H, hP, .single (.noted ..), rfl⟩⟩

theorem annotate {span : SpanRef} (attrs : List Attr)
    (h : ∀ H p, P H p → Touchable hands H c span) :
    Does hands c P (modify (·.annotate span attrs) : Action σ ν Unit) fun _ => P := by
  refine ⟨fun F H w hw hP => ⟨H, by simpa using hP, .single (.annotated _ _ _ _ ?_), by simp⟩⟩
  rw [hw]
  exact (h H _ hP).imp_left fun ⟨h, hmem, hspan⟩ => ⟨h, Multiset.mem_add.mpr (.inr hmem), hspan⟩

theorem fail {span : SpanRef} (description : String)
    (h : ∀ H p, P H p → Touchable hands H c span) :
    Does hands c P (modify (·.fail span description) : Action σ ν Unit) fun _ => P := by
  refine ⟨fun F H w hw hP => ⟨H, by simpa using hP, .single (.failed _ _ _ _ ?_), by simp⟩⟩
  rw [hw]
  exact (h H _ hP).imp_left fun ⟨h, hmem, hspan⟩ => ⟨h, Multiset.mem_add.mpr (.inr hmem), hspan⟩

/-- The end of a span by its holder. -/
theorem close (h : Hold) :
    Does hands c (P.plus {h}) (modify (·.finish h.context.span) : Action σ ν Unit) fun _ => P := by
  refine ⟨fun F H w _ hP => ?_⟩
  obtain ⟨H₀, hP, rfl⟩ := hP
  refine ⟨H₀, by simpa using hP, ?_, by simp⟩
  have hmove : Move hands (h ::ₘ (F + H₀), w) (F + H₀, w.finish h.context.span) := .closed ..
  rw [add_plus_singleton]
  exact .single hmove

/-- The end of the current span. -/
theorem endCurrent (h : c.active = some .request ∨ hands) :
    Does hands c P (modify (·.finish c.span) : Action σ ν Unit) fun _ => P := by
  refine ⟨fun F H w hw hP => ⟨H, by simpa using hP, ?_, by simp⟩⟩
  subst hw
  exact .single (.ended _ _ h)

/-- The start of a span. -/
theorem startIn (m : Manager) (name : String) (mode : Mode) :
    Does hands c P (m.startIn c name mode : Action σ ν Context)
      fun inner => P.plus {⟨.tracing, inner⟩} := by
  refine ⟨fun F H w hw hP => ?_⟩
  subst hw
  let h : Hold := ⟨.tracing, result (m.startIn w.current name mode) w⟩
  refine ⟨H + {h}, ⟨H, by simpa using hP, rfl⟩, ?_, by simp⟩
  have hmove : Move hands (F + H, w) (h ::ₘ (F + H), after (m.startIn w.current name mode) w) :=
    .opened _ _ m.provider .tracing name (some mode) (fun h => by cases h)
  rw [add_plus_singleton]
  exact .single hmove

/-- The start of a span of the application. -/
theorem bind_startSpan {provider : Provider} {name : String} {f : SpanRef → Action σ ν β}
    {R : β → Assertion σ}
    (h : ∀ span, Does hands c (P.plus {⟨.application, { c with span }⟩}) (f span) R) :
    Does hands c P (do
      let (span, w) := (← get).startSpan provider .application name c.span
      set w
      f span) R := by
  refine ⟨fun F H w hw hP => ?_⟩
  subst hw
  let started := w.startSpan provider .application name w.current.span
  let hold : Hold := ⟨.application, { w.current with span := started.1 }⟩
  have hmove : Move hands (F + H, w) (hold ::ₘ (F + H), started.2) :=
    .opened _ _ provider .application name w.current.active fun _ => rfl
  have hcontexts : started.2.contexts = w.contexts := w.contexts_startSpan ..
  have hcurrent : started.2.current = w.current := by rw [World.current, hcontexts]; rfl
  obtain ⟨H', hR, hpath, hsame⟩ := (h started.1).moves F (H + {hold}) started.2 hcurrent
    ⟨H, by simpa [started] using hP, rfl⟩
  rw [add_plus_singleton] at hpath
  exact ⟨H', hR, .head hmove hpath, hsame.trans hcontexts⟩

/-- The state of the program changes, and time passes. -/
theorem work {Q : Assertion σ} (f : World σ ν → σ) (clock : World σ ν → Nat)
    (h : ∀ w H, P H w.program → Q H (f w)) :
    Does hands c P (modify fun w => { w with program := f w, clock := clock w }) fun _ => Q :=
  ⟨fun _ H _ _ hP => ⟨H, h _ _ hP, .single (.worked ..), rfl⟩⟩

theorem within {inner : Context} {act : Action σ ν α} {Q : α → Assertion σ}
    (hinner : ∀ H p, P H p → Attachable H c inner) (h : Does hands inner P act Q) :
    Does hands c P (within inner act) Q := by
  refine ⟨fun F H w hw hP => ?_⟩
  obtain ⟨H', hQ, hpath, hcontexts⟩ := h.moves F H (w.attach inner) rfl hP
  refine ⟨H', hQ, ?_, ?_⟩
  · have hattach : Attachable (F + H) w.current inner := by
      rw [hw]
      refine (hinner H _ hP).imp_right fun h => h.imp_right fun ⟨h, hmem, hspan⟩ => ?_
      exact ⟨h, Multiset.mem_add.mpr (.inr hmem), hspan⟩
    rw [after_within]
    exact .head (.attached _ _ _ hattach) (hpath.tail (.detached ..))
  · rw [after_within, World.contexts_detach, hcontexts]
    rfl

end Does

end QueryTrace
