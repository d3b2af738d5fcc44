import QueryTrace.Proofs.Session.Pairs
import QueryTrace.Proofs.Worlds

/-!
# Two runs side by side

Two runs of one program are carried out in worlds that differ in one respect: either in the layers
that connections have inside their outermost layer, or in telemetry, that is in the providers of
spans and in the settings of what is recorded. In the first case the runs have to record the same
spans; in the second case they may record whatever they like, and only what the program can tell
has to be the same. Log events never count.

Two actions are parallel if they lead from worlds that are the same to worlds that are the same.
-/

namespace QueryTrace

variable {σ ν α β γ δ : Type}

/-! ## What is compared -/

/-- What two runs differ in. -/
inductive Contrast where
  /-- The layers of connections inside the outermost one. -/
  | inside
  /-- The providers of spans, and what is recorded. -/
  | telemetry

/-- Equal, unless the runs differ in telemetry. -/
def Contrast.Fixes (k : Contrast) (a b : α) : Prop :=
  k = .inside → a = b

namespace Contrast.Fixes

variable {k : Contrast} {a b : α}

theorem refl (k : Contrast) (a : α) : k.Fixes a a := fun _ => rfl

theorem map (h : k.Fixes a b) (f : α → β) : k.Fixes (f a) (f b) :=
  fun hk => congrArg f (h hk)

theorem telemetry (a b : α) : Contrast.telemetry.Fixes a b := fun hk => by cases hk

theorem eq {a b : α} (h : Contrast.inside.Fixes a b) : a = b := h rfl

end Contrast.Fixes

/-- How two runs are compared. -/
structure Comparison (σ ν : Type) where
  /-- What they differ in. -/
  contrast : Contrast
  /-- What counts of a note. -/
  told : ν → ν
  /-- The states of the programs that count as the same. -/
  programs : σ → σ → Prop

/-- The same marks, and the same span unless the runs differ in telemetry. -/
structure Context.Like (k : Contrast) (c c' : Context) : Prop where
  span : k.Fixes c.span c'.span
  active : c.active = c'.active
  inRequest : c.inRequest = c'.inRequest

theorem Context.Like.refl (k : Contrast) (c : Context) : c.Like k c := ⟨.refl k _, rfl, rfl⟩

/-- What counts of an entry of the journal: no log event, and no span if telemetry differs. -/
def Entry.told? (C : Comparison σ ν) : Entry ν → Option (Entry ν)
  | .logged .. => none
  | .noted n => some (.noted (C.told n))
  | .started number name parent scope =>
    match C.contrast with
    | .inside => some (.started number name parent scope)
    | .telemetry => none
  | .ended number name attrs failure =>
    match C.contrast with
    | .inside => some (.ended number name attrs failure)
    | .telemetry => none

/-- What counts of the journal. -/
def World.story (C : Comparison σ ν) (w : World σ ν) : List (Entry ν) :=
  w.journal.filterMap (Entry.told? C)

variable {C : Comparison σ ν} {w v u : World σ ν}

@[simp] theorem World.story_write (w : World σ ν) (entry : Entry ν) :
    (w.write entry).story C = w.story C ++ (entry.told? C).toList := by
  cases h : entry.told? C <;> simp [story, h]

@[simp] theorem World.story_log (w : World σ ν) (level : Level) (message : String)
    (fields : List Attr) : (w.log level message fields).story C = w.story C := by
  rcases w.journal_log level message fields with h | h <;> simp [story, h, Entry.told?]

@[simp] theorem World.story_amend (w : World σ ν) (span : SpanRef) (f : SpanRecord → SpanRecord) :
    (w.amend span f).story C = w.story C := by
  simp [story]

/-! ## Silence -/

/-- Nothing that counts happened on the way from one world to the other. -/
structure World.Silent (C : Comparison σ ν) (w v : World σ ν) : Prop where
  contexts : v.contexts = w.contexts
  clock : v.clock = w.clock
  spans : C.contrast.Fixes v.spans w.spans
  story : v.story C = w.story C
  program : v.program = w.program

namespace World

theorem Silent.refl (w : World σ ν) : w.Silent C w := ⟨rfl, rfl, .refl _ _, rfl, rfl⟩

theorem Silent.trans (h : w.Silent C v) (h' : v.Silent C u) : w.Silent C u :=
  ⟨h'.contexts.trans h.contexts, h'.clock.trans h.clock,
    fun hk => (h'.spans hk).trans (h.spans hk), h'.story.trans h.story,
    h'.program.trans h.program⟩

theorem silent_log (w : World σ ν) (level : Level) (message : String) (fields : List Attr) :
    w.Silent C (w.log level message fields) :=
  ⟨contexts_log .., clock_log .., fun _ => spans_log .., story_log .., program_log ..⟩

section Telemetry

variable (hC : C.contrast = .telemetry) (w) (span : SpanRef)
include hC

theorem silent_amend (f : SpanRecord → SpanRecord) : w.Silent C (w.amend span f) :=
  ⟨contexts_amend .., clock_amend .., hC ▸ .telemetry _ _, story_amend .., program_amend ..⟩

theorem silent_finish : w.Silent C (w.finish span) := by
  refine ⟨contexts_finish .., clock_finish .., hC ▸ .telemetry _ _, ?_, program_finish ..⟩
  unfold World.finish
  split
  · simp [Entry.told?, hC]
  · rfl

theorem silent_startSpan (provider : Provider) (scope : Scope) (name : String) :
    w.Silent C (w.startSpan provider scope name span).2 := by
  refine ⟨contexts_startSpan .., clock_startSpan .., hC ▸ .telemetry _ _, ?_, program_startSpan ..⟩
  cases provider with
  | recording => simp [World.startSpan, World.write, story, Entry.told?, hC]
  | unsampled => rfl
  | inert => rfl

end Telemetry

end World

/-! ## Worlds that are the same -/

/-- Everything that counts is the same in the worlds. -/
structure Same (C : Comparison σ ν) (w v : World σ ν) : Prop where
  contexts : List.Forall₂ (Context.Like C.contrast) w.contexts v.contexts
  clock : w.clock = v.clock
  spans : C.contrast.Fixes w.spans v.spans
  story : w.story C = v.story C
  programs : C.programs w.program v.program

namespace Same

variable {w' v' : World σ ν} {span span' : SpanRef}

theorem of_silent (h : Same C w v) (hw : w.Silent C w') (hv : v.Silent C v') : Same C w' v' where
  contexts := by rw [hw.contexts, hv.contexts]; exact h.contexts
  clock := by rw [hw.clock, hv.clock, h.clock]
  spans hk := by rw [hw.spans hk, hv.spans hk, h.spans hk]
  story := by rw [hw.story, hv.story, h.story]
  programs := by rw [hw.program, hv.program]; exact h.programs

theorem current (h : Same C w v) : w.current.Like C.contrast v.current := by
  have hcontexts := h.contexts
  unfold World.current
  cases hw : w.contexts with
  | nil =>
    rw [hw] at hcontexts
    rw [List.forall₂_nil_left_iff.mp hcontexts]
    exact .refl _ _
  | cons c rest =>
    rw [hw] at hcontexts
    obtain ⟨c', rest', hc, -, hv⟩ := List.forall₂_cons_left_iff.mp hcontexts
    rw [hv]
    exact hc

theorem attach (h : Same C w v) {c c' : Context} (hc : c.Like C.contrast c') :
    Same C (w.attach c) (v.attach c') :=
  { h with contexts := .cons hc h.contexts }

theorem detach (h : Same C w v) : Same C w.detach v.detach :=
  { h with contexts := related_tail h.contexts }

theorem write (h : Same C w v) {entry entry' : Entry ν}
    (hentry : entry.told? C = entry'.told? C) : Same C (w.write entry) (v.write entry') :=
  { h with story := by rw [World.story_write, World.story_write, h.story, hentry] }

theorem openRecord? (h : Same C w v) (hC : C.contrast = .inside) (span : SpanRef) :
    w.openRecord? span = v.openRecord? span := by
  unfold World.openRecord?
  rw [h.spans hC]

theorem isRecording (h : Same C w v) (hC : C.contrast = .inside) (span : SpanRef) :
    w.isRecording span = v.isRecording span := by
  unfold World.isRecording
  rw [h.openRecord? hC]

theorem amend (h : Same C w v) (hspan : C.contrast.Fixes span span')
    {f f' : SpanRecord → SpanRecord} (hf : C.contrast.Fixes f f') :
    Same C (w.amend span f) (v.amend span' f') where
  contexts := by simpa using h.contexts
  clock := by simpa using h.clock
  spans hk := by
    obtain rfl := hspan hk
    obtain rfl := hf hk
    unfold World.amend
    split
    · exact h.spans hk
    · rw [h.spans hk]
  story := by simpa using h.story
  programs := by simpa using h.programs

theorem finish (h : Same C w v) (hspan : C.contrast.Fixes span span') :
    Same C (w.finish span) (v.finish span') := by
  cases hC : C.contrast with
  | telemetry => exact h.of_silent (w.silent_finish hC span) (v.silent_finish hC span')
  | inside =>
    obtain rfl := hspan hC
    unfold World.finish
    rw [h.openRecord? hC]
    split
    · exact (h.amend (.refl _ _) (.refl _ _)).write rfl
    · exact h

/-- Spans are started on both sides; they are the same unless telemetry differs. -/
theorem startSpan (h : Same C w v) {provider provider' : Provider}
    (hprovider : C.contrast.Fixes provider provider') (scope : Scope) (name : String)
    (hspan : C.contrast.Fixes span span') :
    C.contrast.Fixes (w.startSpan provider scope name span).1
        (v.startSpan provider' scope name span').1 ∧
      Same C (w.startSpan provider scope name span).2
        (v.startSpan provider' scope name span').2 := by
  cases hC : C.contrast with
  | telemetry =>
    exact ⟨.telemetry _ _, h.of_silent (w.silent_startSpan hC span provider scope name)
      (v.silent_startSpan hC span' provider' scope name)⟩
  | inside =>
    obtain rfl := hspan hC
    obtain rfl := hprovider hC
    have hlength : w.spans.length = v.spans.length := by rw [h.spans hC]
    cases provider with
    | recording =>
      refine ⟨fun _ => by simp [World.startSpan, hlength], ?_⟩
      have hpush : Same C { w with spans := w.spans ++ [{ name, scope }] }
          { v with spans := v.spans ++ [{ name, scope }] } :=
        { h with spans := h.spans.map (· ++ [{ name, scope }]) }
      exact hpush.write (by rw [hlength])
    | unsampled => exact ⟨.refl _ _, h⟩
    | inert => exact ⟨.refl _ _, h⟩

end Same

/-! ## Parallel actions -/

/-- From worlds that are the same the two actions end in worlds that are the same, and give results
that `R` relates. -/
structure Parallel (C : Comparison σ ν) (R : α → γ → Prop) (act : Action σ ν α)
    (other : Action σ ν γ) : Prop where
  parallel : ∀ w v, Same C w v →
    R (result act w) (result other v) ∧ Same C (after act w) (after other v)

/-- Whatever the action does does not count. -/
structure Mute (C : Comparison σ ν) (act : Action σ ν α) : Prop where
  silent : ∀ w : World σ ν, w.Silent C (after act w)

namespace Mute

theorem pure (a : α) : Mute C (pure a) := ⟨fun w => .refl w⟩

theorem bind {act : Action σ ν α} {f : α → Action σ ν β} (h : Mute C act)
    (hf : ∀ a, Mute C (f a)) : Mute C (act >>= f) :=
  ⟨fun w => (h.silent w).trans ((hf _).silent _)⟩

theorem get : Mute C (get : Action σ ν (World σ ν)) := ⟨fun w => .refl w⟩

theorem log (level : Level) (message : String) (fields : List Attr) :
    Mute C (log level message fields) := ⟨fun w => w.silent_log level message fields⟩

theorem annotate (hC : C.contrast = .telemetry) (span : SpanRef) (attrs : List Attr) :
    Mute C (modify (·.annotate span attrs)) := ⟨fun w => w.silent_amend hC span _⟩

theorem finish (hC : C.contrast = .telemetry) (span : SpanRef) :
    Mute C (modify (·.finish span)) := ⟨fun w => w.silent_finish hC span⟩

end Mute

namespace Parallel

variable {R : α → γ → Prop} {S : β → δ → Prop} {span span' : SpanRef}

theorem pure {a : α} {c : γ} (h : R a c) :
    Parallel C R (pure a) (pure c) := ⟨fun _ _ hsame => ⟨h, hsame⟩⟩

theorem bind {act : Action σ ν α} {other : Action σ ν γ} {f : α → Action σ ν β}
    {g : γ → Action σ ν δ} (h : Parallel C R act other)
    (hf : ∀ a c, R a c → Parallel C S (f a) (g c)) : Parallel C S (act >>= f) (other >>= g) := by
  refine ⟨fun w v hsame => ?_⟩
  obtain ⟨hR, hsame'⟩ := h.parallel w v hsame
  exact (hf _ _ hR).parallel _ _ hsame'

theorem mono {R' : α → γ → Prop} {act : Action σ ν α} {other : Action σ ν γ}
    (h : Parallel C R act other) (hR : ∀ a c, R a c → R' a c) : Parallel C R' act other :=
  ⟨fun w v hsame => ⟨hR _ _ (h.parallel w v hsame).1, (h.parallel w v hsame).2⟩⟩

theorem of_mute {act : Action σ ν α} {other : Action σ ν γ} (h : Mute C act) (h' : Mute C other) :
    Parallel C (fun _ _ => True) act other :=
  ⟨fun w v hsame => ⟨trivial, hsame.of_silent (h.silent w) (h'.silent v)⟩⟩

theorem bind_current {f : Context → Action σ ν β} {g : Context → Action σ ν δ}
    (h : ∀ c c', c.Like C.contrast c' → Parallel C S (f c) (g c')) :
    Parallel C S (current >>= f) (current >>= g) :=
  ⟨fun w v hsame => (h _ _ hsame.current).parallel w v hsame⟩

theorem bind_get {f : World σ ν → Action σ ν β} {g : World σ ν → Action σ ν δ}
    (h : ∀ w v, Same C w v → Parallel C S (f w) (g v)) :
    Parallel C S (get >>= f) (get >>= g) :=
  ⟨fun w v hsame => (h w v hsame).parallel w v hsame⟩

theorem change {f g : World σ ν → World σ ν} (h : ∀ w v, Same C w v → Same C (f w) (g v)) :
    Parallel C (fun _ _ => True) (modify f) (modify g) :=
  ⟨fun w v hsame => ⟨trivial, h w v hsame⟩⟩

theorem log (level level' : Level) (message message' : String) (fields fields' : List Attr) :
    Parallel C (fun _ _ => True) (log level message fields) (log level' message' fields') :=
  .of_mute (.log ..) (.log ..)

theorem note {n n' : ν} (h : C.told n = C.told n') :
    Parallel C (fun _ _ => True) (note n) (note n') :=
  .change fun _ _ hsame => hsame.write (by rw [Entry.told?, Entry.told?, h])

theorem annotate (hspan : C.contrast.Fixes span span') {attrs attrs' : List Attr}
    (hattrs : C.contrast.Fixes attrs attrs') : Parallel C (fun _ _ => True)
      (modify (·.annotate span attrs)) (modify (·.annotate span' attrs')) :=
  .change fun _ _ hsame => hsame.amend hspan (hattrs.map fun attrs (r : SpanRecord) =>
    { r with attrs := r.attrs ++ attrs })

theorem fail (hspan : C.contrast.Fixes span span') (description : String) :
    Parallel C (fun _ _ => True) (modify (·.fail span description))
      (modify (·.fail span' description)) :=
  .change fun _ _ hsame => hsame.amend hspan (.refl _ _)

theorem finish (hspan : C.contrast.Fixes span span') : Parallel C (fun _ _ => True)
    (modify (·.finish span)) (modify (·.finish span')) :=
  .change fun _ _ hsame => hsame.finish hspan

theorem bind_startSpan {provider provider' : Provider}
    (hprovider : C.contrast.Fixes provider provider') (scope : Scope) (name : String)
    (hspan : C.contrast.Fixes span span') {f : SpanRef → Action σ ν β} {g : SpanRef → Action σ ν δ}
    (h : ∀ s s', C.contrast.Fixes s s' → Parallel C S (f s) (g s')) : Parallel C S
      (do
        let (s, w) := (← get).startSpan provider scope name span
        set w
        f s)
      (do
        let (s, w) := (← get).startSpan provider' scope name span'
        set w
        g s) := by
  refine ⟨fun w v hsame => ?_⟩
  obtain ⟨hstarted, hsame'⟩ := hsame.startSpan hprovider scope name hspan
  exact (h _ _ hstarted).parallel _ _ hsame'

theorem within {c c' : Context} (hc : c.Like C.contrast c') {act : Action σ ν α}
    {other : Action σ ν γ} (h : Parallel C R act other) :
    Parallel C R (within c act) (within c' other) := by
  refine ⟨fun w v hsame => ?_⟩
  obtain ⟨hR, hsame'⟩ := h.parallel _ _ (hsame.attach hc)
  exact ⟨hR, hsame'.detach⟩

end Parallel

end QueryTrace
