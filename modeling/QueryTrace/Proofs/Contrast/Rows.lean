import QueryTrace.Proofs.Contrast.Layers

/-!
# Rows and runs side by side

Deferred spans, and with them the layers of a stream, are alike if they stand at the same point and
have counted the same rows. They go on alike around parallel fetches, whatever becomes of the span
that they hold.
-/

namespace QueryTrace

variable {σ ν α β γ κ μ : Type} {C : Comparison σ ν} {k : Contrast}

/-! ## Deferred spans -/

/-- The same state, with contexts that are alike. -/
inductive DeferredState.Like (k : Contrast) : DeferredState → DeferredState → Prop
  | idle : Like k .idle .idle
  | active {c c' : Context} (name : String) :
    c.Like k c' → Like k (.active c name) (.active c' name)
  | closed : Like k .closed .closed

theorem DeferredState.Like.refl (k : Contrast) (state : DeferredState) : state.Like k state := by
  cases state with
  | idle => exact .idle
  | active c name => exact .active name (.refl k c)
  | closed => exact .closed

theorem DeferredState.Like.isActive {state state' : DeferredState} (h : state.Like k state') :
    state.isActive = state'.isActive := by
  cases h <;> rfl

/-- The state without its context. -/
def DeferredState.told : DeferredState → DeferredState
  | .active _ name => .active {} name
  | state => state

theorem DeferredState.Like.told {state state' : DeferredState} (h : state.Like k state') :
    state.told = state'.told := by
  cases h <;> rfl

/-- Deferred spans in the same state, whose managers are alike. -/
structure Deferred.Like (k : Contrast) (d d' : Deferred) : Prop where
  manager : d.manager.Like k d'.manager
  state : d.state.Like k d'.state

theorem Deferred.Like.refl (k : Contrast) (d : Deferred) : d.Like k d := ⟨.refl _ _, .refl _ _⟩

namespace Deferred

variable {d d' : Deferred} (hd : d.Like C.contrast d')
include hd

/-- Starts succeed on both sides, or are refused on both sides with the same error. -/
theorem start_parallel (chain : Chain) : Parallel C
    (fun x y => x.1 = y.1 ∧ x.2.Like C.contrast y.2) (d.start chain) (d'.start chain) := by
  obtain ⟨m, state⟩ := d
  obtain ⟨m', state'⟩ := d'
  obtain ⟨hm, hstate⟩ := hd
  dsimp only at hm hstate
  have hopen (state state' : DeferredState) : Parallel C
      (fun x y => x.1 = y.1 ∧ Deferred.Like C.contrast x.2 y.2)
      (do
        let name := m.config.spanName chain.path
        log .debug "starting deferred span" [("span", .text name)]
        let context ← m.startIn (← current) name .deferred
        return (Except.ok (), { (⟨m, state⟩ : Deferred) with state := .active context name }) :
          Action σ ν (Except StillActive Unit × Deferred))
      (do
        let name := m'.config.spanName chain.path
        log .debug "starting deferred span" [("span", .text name)]
        let context ← m'.startIn (← current) name .deferred
        return (Except.ok (), { (⟨m', state'⟩ : Deferred) with state := .active context name }) :
          Action σ ν (Except StillActive Unit × Deferred)) := by
    rw [hm.config.spanName]
    refine .bind (.log ..) fun _ _ _ => .bind_current fun c c' hc => ?_
    exact .bind (Manager.startIn_parallel hm hc ..) fun _ _ hinner =>
      .pure ⟨rfl, hm, .active _ hinner⟩
  cases hstate with
  | idle => exact hopen .idle .idle
  | closed => exact hopen .closed .closed
  | active name hc => exact .pure ⟨rfl, hm, .active name hc⟩

theorem inScope_parallel {R : α → γ → Prop} {act : Action σ ν α} {other : Action σ ν γ}
    (h : Parallel C R act other) : Parallel C R (d.inScope act) (d'.inScope other) := by
  have hstate := hd.state
  unfold Deferred.inScope
  generalize d.state = state, d'.state = state' at hstate
  cases hstate with
  | active name hc => exact h.within hc
  | _ => exact h

theorem noteError_parallel (message : String) :
    Parallel C (fun _ _ => True) (d.noteError message) (d'.noteError message) := by
  have hstate := hd.state
  unfold Deferred.noteError
  generalize d.state = state, d'.state = state' at hstate
  cases hstate with
  | active name hc => exact .bind (.log ..) fun _ _ _ => .fail hc.span message
  | _ => exact .pure trivial

/-- Rows are recorded on one side only, if telemetry differs. -/
theorem noteRows_parallel (rows : UInt64) :
    Parallel C (fun _ _ => True) (d.noteRows rows) (d'.noteRows rows) := by
  have hmute (hC : C.contrast = .telemetry) (d : Deferred) : Mute C (d.noteRows rows) := by
    unfold Deferred.noteRows
    split
    · split
      · exact .annotate hC ..
      · exact .pure _
    · exact .pure _
  cases hC : C.contrast with
  | telemetry => exact .of_mute (hmute hC d) (hmute hC d')
  | inside =>
    have hstate := hd.state
    unfold Deferred.noteRows
    rw [hd.manager.same hC]
    generalize d.state = state, d'.state = state' at hstate
    cases hstate with
    | active name hc =>
      dsimp only
      split
      · exact .annotate hc.span (.refl _ _)
      · exact .pure trivial
    | _ => exact .pure trivial

theorem stop_parallel (chain : Chain) : Parallel C
    (fun x y => x.1.Like C.contrast y.1 ∧ x.2 = y.2) (d.stop chain) (d'.stop chain) := by
  obtain ⟨m, state⟩ := d
  obtain ⟨m', state'⟩ := d'
  obtain ⟨hm, hstate⟩ := hd
  dsimp only at hm hstate
  cases hstate with
  | active name hc =>
    refine .bind (.log ..) fun _ _ _ => .bind (.change fun w v hsame => ?_) fun _ _ _ =>
      .pure ⟨⟨hm, .closed⟩, rfl⟩
    have hattrs := hm.same.map fun m (r : SpanRecord) =>
      { r with attrs := r.attrs ++ Manager.attrs m.config (.chain chain) }
    exact (hsame.amend hc.span hattrs).finish hc.span
  | idle => exact .pure ⟨⟨hm, .idle⟩, rfl⟩
  | closed => exact .pure ⟨⟨hm, .closed⟩, rfl⟩

theorem abandon_parallel : Parallel C (fun _ _ => True) d.abandon d'.abandon := by
  have hstate := hd.state
  unfold Deferred.abandon
  generalize d.state = state, d'.state = state' at hstate
  cases hstate with
  | active name hc => exact .finish hc.span
  | _ => exact .pure trivial

end Deferred

/-! ## Layers of a stream -/

/-- Layers at the same point of an iteration. -/
structure RowsLayer.Like (k : Contrast) (layer layer' : RowsLayer) : Prop where
  span : layer.span.Like k layer'.span
  calls : layer.calls = layer'.calls
  finished : layer.finished = layer'.finished
  rows : layer.rows = layer'.rows

theorem RowsLayer.Like.refl (k : Contrast) (layer : RowsLayer) : layer.Like k layer :=
  ⟨.refl _ _, rfl, rfl, rfl⟩

namespace RowsLayer

theorem ofOrigin_like {m m' : Manager} (hm : m.Like k m') (origin : String) :
    (ofOrigin m origin).Like k (ofOrigin m' origin) :=
  ⟨⟨hm, .idle⟩, rfl, rfl, rfl⟩

/-- The same result, what is left below related, and layers that are alike. -/
abbrev Fetched (R : κ → μ → Prop) (k : Contrast) (x : (Except String α × κ) × RowsLayer)
    (y : (Except String α × μ) × RowsLayer) : Prop :=
  (x.1.1 = y.1.1 ∧ R x.1.2 y.1.2) ∧ x.2.Like k y.2

section Layer

variable {layer layer' : RowsLayer} (hlayer : layer.Like C.contrast layer')
include hlayer

theorem ensureStarted_parallel : Parallel C (RowsLayer.Like C.contrast) layer.ensureStarted
    layer'.ensureStarted := by
  obtain ⟨⟨m, state⟩, calls, finished, rows⟩ := layer
  obtain ⟨⟨m', state'⟩, calls', finished', rows'⟩ := layer'
  obtain ⟨hspan, hcalls, hfinished, hrows⟩ := id hlayer
  obtain ⟨hm, hstate⟩ := id hspan
  dsimp only at hm hstate hcalls hfinished hrows
  subst hcalls hfinished hrows
  cases hstate with
  | idle =>
    refine .bind (Deferred.start_parallel hspan _) fun x y hxy => ?_
    obtain ⟨refused, span⟩ := x
    obtain ⟨refused', span'⟩ := y
    obtain ⟨hrefused, hspan⟩ := hxy
    dsimp only at hrefused hspan
    subst hrefused
    cases refused with
    | error e => exact .bind (.log ..) fun _ _ _ => .pure ⟨hspan, rfl, rfl, rfl⟩
    | ok _ => exact .pure ⟨hspan, rfl, rfl, rfl⟩
  | active name hc => exact .pure hlayer
  | closed => exact .pure hlayer

theorem finish_parallel :
    Parallel C (RowsLayer.Like C.contrast) layer.finish layer'.finish := by
  unfold RowsLayer.finish
  dsimp only
  rw [hlayer.finished, hlayer.rows, hlayer.calls]
  split
  · exact .pure hlayer
  · refine .bind (Deferred.noteRows_parallel hlayer.span _) fun _ _ _ => ?_
    refine .bind (Deferred.stop_parallel hlayer.span _) fun x y hxy => ?_
    exact .pure ⟨hxy.1, hxy.2, rfl, rfl⟩

theorem drop_parallel : Parallel C (fun _ _ => True) layer.drop layer'.drop := by
  unfold RowsLayer.drop
  dsimp only
  rw [hlayer.finished, hlayer.span.state.isActive]
  split
  · exact .bind (.log ..) fun _ _ _ => .bind (finish_parallel hlayer) fun _ _ _ => .pure trivial
  · exact .bind (finish_parallel hlayer) fun _ _ _ => .pure trivial

/-- What ends the iteration leaves what was given as it is. -/
theorem finished_parallel {R : κ → μ → Prop} {out : Except String α × κ}
    {out' : Except String α × μ} (hout : out.1 = out'.1 ∧ R out.2 out'.2) :
    Parallel C (Fetched R C.contrast) (do return (out, ← layer.finish))
      (do return (out', ← layer'.finish)) :=
  .bind (finish_parallel hlayer) fun _ _ hfinished => .pure ⟨hout, hfinished⟩

theorem next_parallel {R : κ → μ → Prop}
    {fetch : Action σ ν (Except String (Option Value) × κ)}
    {fetch' : Action σ ν (Except String (Option Value) × μ)}
    (h : Parallel C (fun x y => x.1 = y.1 ∧ R x.2 y.2) fetch fetch') :
    Parallel C (Fetched R C.contrast) (layer.next fetch) (layer'.next fetch') := by
  unfold RowsLayer.next
  rw [hlayer.finished]
  split
  · exact .bind h fun _ _ hout => .pure ⟨hout, hlayer⟩
  · refine .bind (ensureStarted_parallel hlayer) fun started started' hstarted => ?_
    refine .bind (Deferred.inScope_parallel hstarted.span h) fun out out' hout => ?_
    obtain ⟨row, rest⟩ := out
    obtain ⟨row', rest'⟩ := out'
    obtain rfl : row = row' := hout.1
    rcases row with message | (_ | v)
    · exact .bind (Deferred.noteError_parallel hstarted.span message) fun _ _ _ =>
        finished_parallel hstarted hout
    · exact .bind (.log ..) fun _ _ _ => finished_parallel hstarted hout
    · exact .pure ⟨hout, hstarted.span, hstarted.calls, hstarted.finished,
        congrArg (· + 1) hstarted.rows⟩

theorem close_parallel {R : κ → μ → Prop} {inner : Action σ ν (Except String Unit × κ)}
    {inner' : Action σ ν (Except String Unit × μ)}
    (h : Parallel C (fun x y => x.1 = y.1 ∧ R x.2 y.2) inner inner') :
    Parallel C (Fetched R C.contrast) (layer.close inner) (layer'.close inner') := by
  unfold RowsLayer.close
  rw [hlayer.finished]
  split
  · exact .bind h fun _ _ hout => .pure ⟨hout, hlayer⟩
  · refine .bind (Deferred.inScope_parallel hlayer.span h) fun out out' hout => ?_
    obtain ⟨ended, rest⟩ := out
    obtain ⟨ended', rest'⟩ := out'
    obtain rfl : ended = ended' := hout.1
    cases ended with
    | error message =>
      exact .bind (Deferred.noteError_parallel hlayer.span message) fun _ _ _ =>
        finished_parallel hlayer hout
    | ok _ => exact finished_parallel hlayer hout

end Layer

section Through

variable {layers layers' : List RowsLayer}
  (hlayers : List.Forall₂ (RowsLayer.Like C.contrast) layers layers')
include hlayers

/-- What is left of the streams is related, and the layers are alike. -/
abbrev Left (R : κ → μ → Prop) (k : Contrast) (x : κ × List RowsLayer) (y : μ × List RowsLayer) :
    Prop :=
  R x.1 y.1 ∧ List.Forall₂ (RowsLayer.Like k) x.2 y.2

/-- A fetch through layers is parallel if it is parallel without the layers. -/
theorem nextThrough_parallel {R : κ → μ → Prop}
    {fetch : Action σ ν (Except String (Option Value) × κ)}
    {fetch' : Action σ ν (Except String (Option Value) × μ)}
    (h : Parallel C (fun x y => x.1 = y.1 ∧ R x.2 y.2) fetch fetch') :
    Parallel C (fun x y => x.1 = y.1 ∧ Left R C.contrast x.2 y.2) (nextThrough fetch layers)
      (nextThrough fetch' layers') := by
  induction hlayers with
  | nil => exact .bind h fun _ _ hout => .pure ⟨hout.1, hout.2, .nil⟩
  | cons hlayer _ ih =>
    exact .bind (next_parallel hlayer ih) fun _ _ hout =>
      .pure ⟨hout.1.1, hout.1.2.1, .cons hout.2 hout.1.2.2⟩

theorem closeThrough_parallel {R : κ → μ → Prop} {inner : Action σ ν (Except String Unit × κ)}
    {inner' : Action σ ν (Except String Unit × μ)}
    (h : Parallel C (fun x y => x.1 = y.1 ∧ R x.2 y.2) inner inner') :
    Parallel C (fun x y => x.1 = y.1 ∧ Left R C.contrast x.2 y.2) (closeThrough inner layers)
      (closeThrough inner' layers') := by
  induction hlayers with
  | nil => exact .bind h fun _ _ hout => .pure ⟨hout.1, hout.2, .nil⟩
  | cons hlayer _ ih =>
    exact .bind (close_parallel hlayer ih) fun _ _ hout =>
      .pure ⟨hout.1.1, hout.1.2.1, .cons hout.2 hout.1.2.2⟩

end Through

end RowsLayer

/-! ## Runs -/

/-- Layers of a query that recorded the same calls. -/
structure QueryLayer.Like (k : Contrast) (layer layer' : QueryLayer) : Prop where
  manager : layer.manager.Like k layer'.manager
  calls : layer.calls = layer'.calls

theorem QueryLayer.Like.refl (k : Contrast) (layer : QueryLayer) : layer.Like k layer :=
  ⟨.refl _ _, rfl⟩

/-- The same value, or streams that are related. -/
inductive Outcome.Like (R : κ → μ → Prop) : Outcome κ → Outcome μ → Prop
  | value (v : Value) : Like R (.value v) (.value v)
  | stream {s : κ} {s' : μ} : R s s' → Like R (.stream s) (.stream s')

/-- What is made of related streams is related. -/
theorem Settled.map_outcome {κ' μ' : Type} {R : κ → μ → Prop} {S : κ' → μ' → Prop} {f : κ → κ'}
    {g : μ → μ'} {result : Except String (Outcome κ)} {result' : Except String (Outcome μ)}
    (h : Settled (Outcome.Like R) result result') (hfg : ∀ s s', R s s' → S (f s) (g s')) :
    Settled (Outcome.Like S) (result.map (·.map f)) (result'.map (·.map g)) := by
  cases h with
  | error message => exact .error message
  | ok ho =>
    cases ho with
    | value v => exact .ok (.value v)
    | stream hs => exact .ok (.stream (hfg _ _ hs))

namespace QueryLayer

variable {R : κ → μ → Prop} {inner : Action σ ν (Except String (Outcome κ))}
  {inner' : Action σ ν (Except String (Outcome μ))}

theorem run_parallel {layer layer' : QueryLayer} (hlayer : layer.Like C.contrast layer')
    (options : Args) (h : Parallel C (Settled (Outcome.Like R)) inner inner') : Parallel C
      (Settled (Outcome.Like fun x y => x.1.Like C.contrast y.1 ∧ R x.2 y.2))
      (layer.run options inner) (layer'.run options inner') := by
  unfold QueryLayer.run QueryLayer.runCalls
  dsimp only
  rw [hlayer.calls]
  refine .bind (Manager.trace_parallel hlayer.manager h _ _) fun x y hxy => .pure ?_
  exact hxy.1.map_outcome fun _ _ hs => ⟨RowsLayer.ofOrigin_like hlayer.manager _, hs⟩

/-- A run through layers is parallel if it is parallel without the layers, and its stream gets
layers that are alike. -/
theorem runThrough_parallel {layers layers' : List QueryLayer}
    (hlayers : List.Forall₂ (QueryLayer.Like C.contrast) layers layers') (options : Args)
    (h : Parallel C (Settled (Outcome.Like R)) inner inner') : Parallel C
      (Settled (Outcome.Like fun x y =>
        List.Forall₂ (RowsLayer.Like C.contrast) x.1 y.1 ∧ R x.2 y.2))
      (runThrough options inner layers) (runThrough options inner' layers') := by
  induction hlayers with
  | nil =>
    exact .bind h fun _ _ hresult => .pure (hresult.map_outcome fun _ _ hs => ⟨.nil, hs⟩)
  | cons hlayer _ ih =>
    exact .bind (run_parallel hlayer options ih) fun _ _ hresult =>
      .pure (hresult.map_outcome fun _ _ hs => ⟨.cons hs.1 hs.2.1, hs.2.2⟩)

end QueryLayer

end QueryTrace
