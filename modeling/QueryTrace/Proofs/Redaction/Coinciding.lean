import QueryTrace.Proofs.Spans.Quiet

/-!
# Two runs with the same spans

The trail of a world is what its spans tell: their records, what started and ended in which order,
the contexts and the time. Log events, the notes of the program and its state are left out.

Two actions coincide if they leave worlds with one trail in worlds with one trail. Their programs
may differ, as far as a given relation allows, and so may their results.
-/

namespace QueryTrace

variable {σ ν α β γ δ : Type}

namespace World

/-- What the spans of a world tell. -/
def trail (w : World σ ν) : World Unit ν :=
  { spans := w.spans, contexts := w.contexts, clock := w.clock, journal := w.spanEvents
    program := () }

variable (w : World σ ν) (span : SpanRef)

@[simp] theorem trail_log (level : Level) (message : String) (fields : List Attr) :
    (w.log level message fields).trail = w.trail := by
  unfold World.log
  split
  · simp [trail, World.write, spanEvents, Entry.isSpan]
  · rfl

@[simp] theorem trail_write_noted (n : ν) : (w.write (.noted n)).trail = w.trail := by
  simp [trail, World.write, spanEvents, Entry.isSpan]

@[simp] theorem trail_amend (f : SpanRecord → SpanRecord) :
    (w.amend span f).trail = w.trail.amend span f := by
  unfold amend
  split <;> rfl

@[simp] theorem trail_annotate (attrs : List Attr) :
    (w.annotate span attrs).trail = w.trail.annotate span attrs := trail_amend ..

@[simp] theorem trail_fail (description : String) :
    (w.fail span description).trail = w.trail.fail span description := trail_amend ..

@[simp] theorem trail_finish : (w.finish span).trail = w.trail.finish span := by
  have hrecord : w.trail.openRecord? span = w.openRecord? span := rfl
  unfold finish
  rw [hrecord]
  split
  · next number r _ _ =>
    have hevents (u : World σ ν) : (u.write (.ended number r.name r.attrs r.failure)).trail =
        u.trail.write (.ended number r.name r.attrs r.failure) := by
      simp [trail, World.write, spanEvents, Entry.isSpan]
    rw [hevents, trail_amend]
  · rfl

theorem trail_startSpan (provider : Provider) (scope : Scope) (name : String) :
    (w.startSpan provider scope name span).2.trail =
      (w.trail.startSpan provider scope name span).2 := by
  cases provider with
  | recording => simp [startSpan, trail, World.write, spanEvents, Entry.isSpan]
  | unsampled => rfl
  | inert => rfl

end World

/-- The worlds have one trail, and their programs are related. -/
structure SameSpans (D : σ → σ → Prop) (w v : World σ ν) : Prop where
  trail : w.trail = v.trail
  programs : D w.program v.program

namespace SameSpans

variable {D : σ → σ → Prop} {w v : World σ ν}

theorem current (h : SameSpans D w v) : w.current = v.current :=
  show w.trail.current = v.trail.current by rw [h.trail]

theorem isRecording (h : SameSpans D w v) (span : SpanRef) :
    w.isRecording span = v.isRecording span :=
  show w.trail.isRecording span = v.trail.isRecording span by rw [h.trail]

theorem clock (h : SameSpans D w v) : w.clock = v.clock :=
  show w.trail.clock = v.trail.clock by rw [h.trail]

/-- The same span is started on both sides. -/
theorem startSpan (h : SameSpans D w v) (provider : Provider) (scope : Scope) (name : String)
    (parent : SpanRef) :
    (w.startSpan provider scope name parent).1 = (v.startSpan provider scope name parent).1 ∧
    SameSpans D (w.startSpan provider scope name parent).2
      (v.startSpan provider scope name parent).2 := by
  have hspan (u : World σ ν) : (u.startSpan provider scope name parent).1 =
      (u.trail.startSpan provider scope name parent).1 := by
    cases provider <;> rfl
  refine ⟨by rw [hspan, hspan, h.trail], ?_, by simpa using h.programs⟩
  rw [World.trail_startSpan, World.trail_startSpan, h.trail]

end SameSpans

/-- From worlds with one trail the two actions end in worlds with one trail, and give results that
`R` relates. -/
structure Coincide (D : σ → σ → Prop) (R : α → γ → Prop) (act : Action σ ν α)
    (other : Action σ ν γ) : Prop where
  coincide : ∀ w v, SameSpans D w v →
    R (result act w) (result other v) ∧ SameSpans D (after act w) (after other v)

namespace Coincide

variable {D : σ → σ → Prop} {R : α → γ → Prop} {S : β → δ → Prop}

theorem pure {a : α} {c : γ} (h : R a c) :
    Coincide D R (pure a : Action σ ν α) (pure c) := ⟨fun _ _ hsame => ⟨h, hsame⟩⟩

theorem bind {act : Action σ ν α} {other : Action σ ν γ} {f : α → Action σ ν β}
    {g : γ → Action σ ν δ} (h : Coincide D R act other)
    (hf : ∀ a c, R a c → Coincide D S (f a) (g c)) : Coincide D S (act >>= f) (other >>= g) := by
  refine ⟨fun w v hsame => ?_⟩
  obtain ⟨hR, hsame'⟩ := h.coincide w v hsame
  exact (hf _ _ hR).coincide _ _ hsame'

theorem mono {R' : α → γ → Prop} {act : Action σ ν α} {other : Action σ ν γ}
    (h : Coincide D R act other) (hR : ∀ a c, R a c → R' a c) : Coincide D R' act other :=
  ⟨fun w v hsame => ⟨hR _ _ (h.coincide w v hsame).1, (h.coincide w v hsame).2⟩⟩

/-- The current context is part of the trail. -/
theorem bind_current {f : Context → Action σ ν β} {g : Context → Action σ ν δ}
    (h : ∀ c, Coincide D S (f c) (g c)) : Coincide D S (current >>= f) (current >>= g) := by
  refine ⟨fun w v hsame => ?_⟩
  rw [result_bind, result_bind, after_bind, after_bind, result_current, result_current,
    hsame.current]
  exact (h v.current).coincide w v hsame

theorem bind_get {f : World σ ν → Action σ ν β} {g : World σ ν → Action σ ν δ}
    (h : ∀ w v, SameSpans D w v → Coincide D S (f w) (g v)) :
    Coincide D S (get >>= f) (get >>= g) :=
  ⟨fun w v hsame => (h w v hsame).coincide w v hsame⟩

theorem log (level level' : Level) (message message' : String) (fields fields' : List Attr) :
    Coincide D (fun _ _ => True) (log level message fields : Action σ ν Unit)
      (log level' message' fields') :=
  ⟨fun _ _ hsame => ⟨trivial, by simp [hsame.trail], by simpa using hsame.programs⟩⟩

theorem note (n n' : ν) :
    Coincide D (fun _ _ => True) (note n : Action σ ν Unit) (note n') :=
  ⟨fun _ _ hsame => ⟨trivial, by simp [hsame.trail], by simpa using hsame.programs⟩⟩

/-- A change of the trail alone. -/
theorem change {f : World σ ν → World σ ν} (g : World Unit ν → World Unit ν)
    (htrail : ∀ w, (f w).trail = g w.trail) (hprogram : ∀ w, (f w).program = w.program) :
    Coincide D (fun _ _ => True) (modify f) (modify f) := by
  refine ⟨fun w v hsame => ⟨trivial, ?_, ?_⟩⟩
  · rw [after_modify, after_modify, htrail, htrail, hsame.trail]
  · rw [after_modify, after_modify, hprogram, hprogram]
    exact hsame.programs

theorem annotate (span : SpanRef) (attrs : List Attr) :
    Coincide D (fun _ _ => True) (modify (·.annotate span attrs) : Action σ ν Unit)
      (modify (·.annotate span attrs)) :=
  change (·.annotate span attrs) (by simp) (by simp)

theorem fail (span : SpanRef) (description : String) :
    Coincide D (fun _ _ => True) (modify (·.fail span description) : Action σ ν Unit)
      (modify (·.fail span description)) :=
  change (·.fail span description) (by simp) (by simp)

theorem finish (span : SpanRef) :
    Coincide D (fun _ _ => True) (modify (·.finish span) : Action σ ν Unit)
      (modify (·.finish span)) :=
  change (·.finish span) (by simp) (by simp)

theorem startIn (m : Manager) (context : Context) (name : String) (mode : Mode) :
    Coincide D Eq (m.startIn context name mode : Action σ ν Context)
      (m.startIn context name mode) := by
  refine ⟨fun w v hsame => ?_⟩
  obtain ⟨hspan, hstarted⟩ := hsame.startSpan m.provider .tracing name context.span
  exact ⟨by rw [result_startIn, result_startIn, hspan], hstarted⟩

theorem bind_startSpan (provider : Provider) (scope : Scope) (name : String) (parent : SpanRef)
    {f : SpanRef → Action σ ν β} {g : SpanRef → Action σ ν δ}
    (h : ∀ span, Coincide D S (f span) (g span)) : Coincide D S
      (do
        let (span, w) := (← get).startSpan provider scope name parent
        set w
        f span)
      (do
        let (span, w) := (← get).startSpan provider scope name parent
        set w
        g span) := by
  refine ⟨fun w v hsame => ?_⟩
  obtain ⟨hspan, hstarted⟩ := hsame.startSpan provider scope name parent
  have hafter := (h (w.startSpan provider scope name parent).1).coincide _ _ hstarted
  simpa [hspan] using hafter

theorem within (context : Context) {act : Action σ ν α} {other : Action σ ν γ}
    (h : Coincide D R act other) :
    Coincide D R (within context act) (within context other) := by
  refine ⟨fun w v hsame => ?_⟩
  have hattached : SameSpans D (w.attach context) (v.attach context) :=
    ⟨congrArg (World.attach · context) hsame.trail, hsame.programs⟩
  obtain ⟨hR, hsame'⟩ := h.coincide _ _ hattached
  exact ⟨hR, congrArg World.detach hsame'.trail, hsame'.programs⟩

end Coincide

end QueryTrace
