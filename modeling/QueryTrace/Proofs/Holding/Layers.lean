import Mathlib.Algebra.BigOperators.Group.List.Basic
import QueryTrace.Layer.Run
import QueryTrace.Layer.Sending
import QueryTrace.Proofs.Holding.Doing

/-!
# What layers hold

A call in a span of its own holds the span as long as the call lasts. A deferred span is held by
whoever has it while it is open. Whatever else a layer does is done to spans that it holds, or to
the current one of an active query.

The call that a layer is put around may hold things and change what it holds: it goes from `P` to
`Q`, in whatever context it is made.
-/

namespace QueryTrace

variable {σ ν α κ : Type} {hands : Prop} {c : Context} {P : Assertion σ}

/-! ## The manager -/

theorem touchable_of_plus (inner : Context) {H : Multiset Hold} {p : σ}
    (h : P.plus {⟨.tracing, inner⟩} H p) : Touchable hands H c inner.span := by
  obtain ⟨H₀, -, rfl⟩ := h
  exact .inl ⟨⟨.tracing, inner⟩, by simp, rfl, rfl⟩

theorem touchable_current (h : c.active ≠ none) (H : Multiset Hold) :
    Touchable hands H c c.span :=
  .inr ⟨rfl, .inl h⟩

theorem attachable_of_plus (h : Hold) {H : Multiset Hold} {p : σ} (hP : P.plus {h} H p) :
    Attachable H c h.context := by
  obtain ⟨H₀, -, rfl⟩ := hP
  exact .inr (.inr ⟨h, by simp, rfl⟩)

namespace Manager

variable {span : SpanRef} {Q : Except String α → Assertion σ} {call : Action σ ν (Except String α)}

theorem describe_does (m : Manager) (source : Source)
    (h : ∀ H p, P H p → Touchable hands H c span) :
    Does hands c P (m.describe span source : Action σ ν Source) fun _ => P :=
  .bind (.annotate _ h) fun _ => .skip _

theorem noteFailure_does (result : Except String α)
    (h : ∀ H p, Q result H p → Touchable hands H c span) :
    Does hands c (Q result) (noteFailure span result : Action σ ν _) Q := by
  cases result with
  | ok a => exact .pure fun _ _ hQ => hQ
  | error message =>
    exact .bind (.log ..) fun _ => .bind (.fail _ h) fun _ => .pure fun _ _ hQ => hQ

theorem noteDuration_does (m : Manager) (started : Nat)
    (h : ∀ H p, P H p → Touchable hands H c span) :
    Does hands c P (m.noteDuration span started : Action σ ν Unit) fun _ => P := by
  refine .bind_get fun w => ?_
  split
  · refine .bind (.annotate _ h) fun _ => ?_
    split
    · exact .bind (.annotate _ h) fun _ => .log ..
    · exact .skip _
  · exact .skip _

/-- The span of a call is held from its start to its end. -/
theorem runInSpan_does (m : Manager) (source : Source) (h : ∀ c', Does hands c' P call Q) :
    Does hands c P (m.runInSpan c source call) fun x => Q x.1 := by
  refine .bind (.log ..) fun _ => .bind (.startIn m _ _) fun inner => ?_
  refine .bind (m.describe_does source fun _ _ => touchable_of_plus inner) fun source => ?_
  refine .bind_get fun w => ?_
  refine .bind (.within (fun _ _ => attachable_of_plus ⟨.tracing, inner⟩) ((h inner).plus _)) ?_
  intro result
  refine .bind (m.noteDuration_does _ fun _ _ => touchable_of_plus inner) fun _ => ?_
  refine .bind (noteFailure_does (Q := fun r => (Q r).plus _) result
    fun _ _ => touchable_of_plus inner) fun result => ?_
  exact .bind (.close ⟨.tracing, inner⟩) fun _ => .pure fun _ _ hQ => hQ

theorem runContinuation_does (hc : c.active ≠ none) (mode : Mode) (source : Source)
    (h : Does hands c P call Q) :
    Does hands c P (runContinuation c.span mode source call) fun x => Q x.1 :=
  .bind (.log ..) fun _ => .bind (.annotate _ fun H _ _ => touchable_current hc H) fun _ =>
    .bind h fun result => .bind (noteFailure_does result fun H _ _ => touchable_current hc H)
      fun _ => .pure fun _ _ hQ => hQ

theorem runStray_does (m : Manager) (source : Source) (h : Does hands c P call Q) :
    Does hands c P (m.runStray source call) fun x => Q x.1 :=
  .bind (.log ..) fun _ => .bind h fun _ => .pure fun _ _ hQ => hQ

theorem runCovered_does (m : Manager) (hc : c.active ≠ none) (mode : Mode) (source : Source)
    (h : Does hands c P call Q) :
    Does hands c P (m.runCovered c.span mode source call) fun x => Q x.1 := by
  have hcall (source : Source) : Does hands c P
      (do return (← noteFailure c.span (← call), source)) fun x => Q x.1 :=
    .bind h fun result => .bind (noteFailure_does result fun H _ _ => touchable_current hc H)
      fun _ => .pure fun _ _ hQ => hQ
  refine .bind (.log ..) fun _ => ?_
  dsimp only
  split
  · exact hcall _
  · exact .bind (m.describe_does source fun H _ _ => touchable_current hc H) hcall

theorem endStale_does (hc : c.active = some .request) :
    Does hands c P (endStale c.span : Action σ ν Unit) fun _ => P := by
  refine .bind_get fun w => ?_
  split
  · exact .bind (.log ..) fun _ => .endCurrent (.inl hc)
  · exact .skip _

/-- A traced call holds no more afterwards than the call itself. -/
theorem trace_does (m : Manager) (source : Source) (role : Role)
    (h : ∀ c', Does hands c' P call Q) :
    Does hands c P (m.trace source role call) fun x => Q x.1 := by
  refine .bind_current ?_
  -- The current span is touched only where a query is active around the call.
  split
  · exact m.runStray_does source (h c)
  · next mode hmode => exact runContinuation_does (by simp [hmode]) mode source (h c)
  · exact m.runInSpan_does source h
  · next hmode => exact .bind (endStale_does hmode) fun _ => m.runInSpan_does source h
  · next mode _ hmode =>
    split
    · exact m.runCovered_does (by simp [hmode]) mode source (h c)
    · exact m.runInSpan_does source h

end Manager

/-! ## Requests -/

namespace Layer

variable {Q : Except String Response → Assertion σ} {request : Request} {noreply : Bool}

theorem render_does (request : Request) :
    Does hands c P (render request : Action σ ν String) fun _ => P := by
  unfold render
  dsimp only
  split
  · exact .bind (.log ..) fun _ => .skip _
  · exact .skip _

theorem send_does (layer : Layer) {inner : Send σ ν}
    (h : ∀ c', Does hands c' P (inner request noreply) Q) :
    Does hands c P (layer.send inner request noreply) Q := by
  refine .bind_current ?_
  split
  · exact h c
  · refine .within (fun _ _ _ => .inr (.inl rfl)) (.bind (render_does request) fun rendered => ?_)
    dsimp only
    split
    · exact .bind (.log ..) fun _ => h _
    · exact .bind (layer.manager.trace_does _ _ h) fun _ => .pure fun _ _ hQ => hQ

theorem sendThrough_does {base : Send σ ν} (h : ∀ c', Does hands c' P (base request noreply) Q)
    (layers : List Layer) : Does hands c P (sendThrough layers base request noreply) Q := by
  induction layers generalizing c with
  | nil => exact h c
  | cons layer layers ih => exact layer.send_does fun _ => ih

theorem reconnectThrough_does {Q : Except String α → Assertion σ}
    {base : Action σ ν (Except String α)} (h : Does hands c P base Q) (layers : List Layer) :
    Does hands c P (reconnectThrough layers base) Q := by
  induction layers with
  | nil => exact h
  | cons layer layers ih =>
    refine .bind ih fun result => ?_
    dsimp only
    split
    · exact .bind (.log ..) fun _ => .pure fun _ _ hQ => hQ
    · exact .pure fun _ _ hQ => hQ

end Layer

/-! ## Deferred spans -/

namespace Deferred

/-- An open deferred span is held. -/
def holds (d : Deferred) : Multiset Hold :=
  match d.state with
  | .active context _ => {⟨.tracing, context⟩}
  | _ => 0

theorem holds_of_active {d : Deferred} {context : Context} {name : String}
    (h : d.state = .active context name) : d.holds = {⟨.tracing, context⟩} := by
  simp only [holds, h]

theorem holds_of_not_active {d : Deferred} (h : ∀ context name, d.state ≠ .active context name) :
    d.holds = 0 := by
  unfold holds
  split
  · next hactive => exact absurd hactive (h _ _)
  · rfl

theorem start_does (d : Deferred) (chain : Chain) :
    Does hands c (P.plus d.holds)
      (d.start chain : Action σ ν (Except StillActive Unit × Deferred))
      fun x => P.plus x.2.holds := by
  have hopen (hd : d.holds = 0) : Does hands c (P.plus d.holds)
      (do
        log .debug "starting deferred span"
          [("span", .text (d.manager.config.spanName chain.path))]
        let context ← d.manager.startIn (← current) (d.manager.config.spanName chain.path) .deferred
        return (.ok (), { d with state := .active context (d.manager.config.spanName chain.path) })
        : Action σ ν (Except StillActive Unit × Deferred)) fun x => P.plus x.2.holds := by
    rw [hd, P.plus_zero]
    exact .bind (.log ..) fun _ => .bind_current <| .bind (.startIn ..) fun _ =>
      .pure fun _ _ hP => hP
  unfold Deferred.start
  split
  · exact .pure fun _ _ hP => hP
  · next hidle => exact hopen (holds_of_not_active hidle)

theorem touchable {d : Deferred} {context : Context} {name : String}
    (hd : d.state = .active context name) {H : Multiset Hold} {p : σ}
    (hP : P.plus d.holds H p) : Touchable hands H c context.span := by
  rw [holds_of_active hd] at hP
  exact touchable_of_plus context hP

/-- An open span that is held can be made current. -/
theorem inScope_does (d : Deferred) {act : Action σ ν α} {Q : α → Assertion σ}
    (hd : ∀ H p, P H p → d.holds ≤ H) (h : ∀ c', Does hands c' P act Q) :
    Does hands c P (d.inScope act) Q := by
  unfold Deferred.inScope
  split
  · next context name hactive =>
    refine .within (fun H p hP => ?_) (h context)
    have hle := hd H p hP
    rw [holds_of_active hactive] at hle
    exact .inr (.inr ⟨_, Multiset.singleton_le.mp hle, rfl⟩)
  · exact h c

theorem noteError_does (d : Deferred) (message : String) :
    Does hands c (P.plus d.holds) (d.noteError message : Action σ ν Unit)
      fun _ => P.plus d.holds := by
  unfold Deferred.noteError
  split
  · next hactive => exact .bind (.log ..) fun _ => .fail _ fun _ _ => touchable hactive
  · exact .skip _

theorem noteRows_does (d : Deferred) (rows : UInt64) :
    Does hands c (P.plus d.holds) (d.noteRows rows : Action σ ν Unit) fun _ => P.plus d.holds := by
  unfold Deferred.noteRows
  split
  · next hactive =>
    split
    · exact .annotate _ fun _ _ => touchable hactive
    · exact .skip _
  · exact .skip _

/-- A deferred span that has been stopped holds nothing. -/
theorem stop_does (d : Deferred) (chain : Chain) :
    Does hands c (P.plus d.holds) (d.stop chain : Action σ ν (Deferred × Chain))
      fun x H p => x.1.holds = 0 ∧ P H p := by
  unfold Deferred.stop
  split
  · next context name hactive =>
    rw [holds_of_active hactive]
    refine .bind (.log ..) fun _ => .bind (Q := fun _ => P) ?_ fun _ =>
      .pure fun _ _ hP => ⟨rfl, hP⟩
    exact .bind (.annotate _ fun _ _ => touchable_of_plus context) fun _ =>
      .close ⟨.tracing, context⟩
  · next hidle =>
    have hzero := holds_of_not_active hidle
    rw [hzero, P.plus_zero]
    exact .pure fun _ _ hP => ⟨hzero, hP⟩

theorem abandon_does (d : Deferred) :
    Does hands c (P.plus d.holds) (d.abandon : Action σ ν Unit) fun _ => P := by
  unfold Deferred.abandon
  split
  · next context name hactive =>
    rw [holds_of_active hactive]
    exact .close ⟨.tracing, context⟩
  · next hidle =>
    rw [holds_of_not_active hidle, P.plus_zero]
    exact .skip _

end Deferred

/-! ## Rows -/

namespace RowsLayer

/-- A layer whose iteration is over holds nothing. -/
def holds (layer : RowsLayer) : Multiset Hold :=
  if layer.finished then 0 else layer.span.holds

theorem holds_of_finished {layer : RowsLayer} (h : layer.finished = true) : layer.holds = 0 := by
  simp [holds, h]

theorem holds_of_unfinished {layer : RowsLayer} (h : layer.finished = false) :
    layer.holds = layer.span.holds := by
  simp [holds, h]

theorem ensureStarted_does (layer : RowsLayer) (hlayer : layer.finished = false) :
    Does hands c (P.plus layer.holds) (layer.ensureStarted : Action σ ν RowsLayer)
      fun l H p => l.finished = false ∧ P.plus l.holds H p := by
  rw [holds_of_unfinished hlayer]
  have hkeep (l : RowsLayer) (hl : l.finished = false) (H : Multiset Hold) (p : σ)
      (hP : P.plus l.span.holds H p) : l.finished = false ∧ P.plus l.holds H p := by
    rw [holds_of_unfinished hl]
    exact ⟨hl, hP⟩
  unfold RowsLayer.ensureStarted
  split
  · refine .bind (layer.span.start_does _) fun x => ?_
    obtain ⟨refused, span⟩ := x
    dsimp only
    split
    · exact .bind (.log ..) fun _ => .pure (hkeep { layer with span, calls := _ } hlayer)
    · exact .pure (hkeep { layer with span, calls := _ } hlayer)
  · exact .pure (hkeep layer hlayer)

/-- The iteration is over, and nothing is held for it any more. -/
theorem finish_does (layer : RowsLayer) :
    Does hands c (P.plus layer.holds) (layer.finish : Action σ ν RowsLayer)
      fun l H p => l.holds = 0 ∧ P H p := by
  unfold RowsLayer.finish
  split
  · next hlayer =>
    rw [holds_of_finished hlayer, P.plus_zero]
    exact .pure fun _ _ hP => ⟨holds_of_finished hlayer, hP⟩
  · next hlayer =>
    rw [holds_of_unfinished (by simpa using hlayer)]
    refine .bind (layer.span.noteRows_does _) fun _ => .bind (layer.span.stop_does _) fun x => ?_
    exact .pure fun _ _ hP => ⟨holds_of_finished rfl, hP.2⟩

/-- A stream that is given up holds nothing any more. -/
theorem drop_does (layer : RowsLayer) :
    Does hands c (P.plus layer.holds) (layer.drop : Action σ ν Unit) fun _ => P := by
  have hfinish : Does hands c (P.plus layer.holds)
      (do let _ ← layer.finish : Action σ ν Unit) fun _ => P :=
    .bind layer.finish_does fun _ => .pure fun _ _ hP => hP.2
  unfold RowsLayer.drop
  dsimp only
  split
  · exact .bind (.log ..) fun _ => hfinish
  · exact hfinish

theorem next_does (layer : RowsLayer) {Q : Except String (Option Value) × κ → Assertion σ}
    {fetch : Action σ ν (Except String (Option Value) × κ)}
    (h : ∀ c', Does hands c' P fetch Q) : Does hands c (P.plus layer.holds) (layer.next fetch)
      fun x => (Q x.1).plus x.2.holds := by
  unfold RowsLayer.next
  split
  · exact .bind ((h c).plus _) fun _ => .pure fun _ _ hQ => hQ
  · next hlayer =>
    -- From here on the layer is another one, which has its span started.
    refine .bind (layer.ensureStarted_does (by simpa using hlayer)) fun l => ?_
    refine .of_fact (fun _ _ hl => hl.1) fun hl => ?_
    have hscope : Does hands c (P.plus l.holds) (l.span.inScope fetch)
        fun out => (Q out).plus l.holds := by
      refine l.span.inScope_does (fun H p hP => ?_) fun c' => (h c').plus _
      obtain ⟨H₀, -, rfl⟩ := hP
      rw [holds_of_unfinished hl]
      exact Multiset.le_add_left ..
    refine .bind (hscope.weaken (fun _ _ hP => hP.2) fun _ _ _ hQ => hQ) fun out => ?_
    split
    · exact .pure fun _ _ hQ => hQ
    · exact .bind (.log ..) fun _ => .bind l.finish_does fun _ =>
        .pure fun _ _ => Assertion.plus_of_zero
    · refine .bind (Q := fun _ => (Q out).plus l.holds) ?_ fun _ => .bind l.finish_does fun _ =>
        .pure fun _ _ => Assertion.plus_of_zero
      rw [holds_of_unfinished hl]
      exact l.span.noteError_does _

theorem close_does (layer : RowsLayer) {Q : Except String Unit × κ → Assertion σ}
    {inner : Action σ ν (Except String Unit × κ)} (h : ∀ c', Does hands c' P inner Q) :
    Does hands c (P.plus layer.holds) (layer.close inner) fun x => (Q x.1).plus x.2.holds := by
  unfold RowsLayer.close
  split
  · exact .bind ((h c).plus _) fun _ => .pure fun _ _ hQ => hQ
  · next hlayer =>
    have hl : layer.holds = layer.span.holds := holds_of_unfinished (by simpa using hlayer)
    have hscope : Does hands c (P.plus layer.holds) (layer.span.inScope inner)
        fun out => (Q out).plus layer.holds := by
      refine layer.span.inScope_does (fun H p hP => ?_) fun c' => (h c').plus _
      obtain ⟨H₀, -, rfl⟩ := hP
      rw [hl]
      exact Multiset.le_add_left ..
    refine .bind hscope fun out => ?_
    have hfinish : Does hands c ((Q out).plus layer.holds)
        (do return (out, ← layer.finish) : Action σ ν _) fun x => (Q x.1).plus x.2.holds :=
      .bind layer.finish_does fun _ => .pure fun _ _ => Assertion.plus_of_zero
    dsimp only
    split
    · refine .bind (Q := fun _ => (Q out).plus layer.holds) ?_ fun _ => hfinish
      rw [hl]
      exact layer.span.noteError_does _
    · exact hfinish

/-- What the layers of a stream hold. -/
def held (layers : List RowsLayer) : Multiset Hold :=
  (layers.map holds).sum

theorem nextThrough_does {Q : Except String (Option Value) × κ → Assertion σ}
    {fetch : Action σ ν (Except String (Option Value) × κ)} (h : ∀ c', Does hands c' P fetch Q)
    (layers : List RowsLayer) : Does hands c (P.plus (held layers)) (nextThrough fetch layers)
      fun x => (Q (x.1, x.2.1)).plus (held x.2.2) := by
  induction layers generalizing c with
  | nil => exact .bind ((h c).plus _) fun _ => .pure fun _ _ hQ => hQ
  | cons layer layers ih =>
    have hnext := layer.next_does (c := c) fun _ => ih
    refine .bind (hnext.weaken (fun H p hP => ?_) fun _ _ _ hQ => hQ) fun x =>
      .pure fun H p hQ => ?_
    · rwa [P.plus_plus, add_comm]
    · rwa [Assertion.plus_plus, add_comm] at hQ

theorem closeThrough_does {Q : Except String Unit × κ → Assertion σ}
    {inner : Action σ ν (Except String Unit × κ)} (h : ∀ c', Does hands c' P inner Q)
    (layers : List RowsLayer) : Does hands c (P.plus (held layers)) (closeThrough inner layers)
      fun x => (Q (x.1, x.2.1)).plus (held x.2.2) := by
  induction layers generalizing c with
  | nil => exact .bind ((h c).plus _) fun _ => .pure fun _ _ hQ => hQ
  | cons layer layers ih =>
    have hclose := layer.close_does (c := c) fun _ => ih
    refine .bind (hclose.weaken (fun H p hP => ?_) fun _ _ _ hQ => hQ) fun x =>
      .pure fun H p hQ => ?_
    · rwa [P.plus_plus, add_comm]
    · rwa [Assertion.plus_plus, add_comm] at hQ

theorem drops_does (layers : List RowsLayer) :
    Does hands c (P.plus (held layers)) (layers.forM drop : Action σ ν Unit) fun _ => P := by
  induction layers with
  | nil => exact .pure fun _ _ hP => by rwa [held, List.map_nil, List.sum_nil, P.plus_zero] at hP
  | cons layer layers ih =>
    refine .bind (Q := fun _ => P.plus (held layers)) ?_ fun _ => ih
    refine layer.drop_does.weaken (fun H p hP => ?_) fun _ _ _ hQ => hQ
    rwa [P.plus_plus, add_comm]

end RowsLayer

/-! ## Runs -/

namespace QueryLayer

variable {Q : Except String (Outcome κ) → Assertion σ}

/-- The layer of a new stream holds nothing. -/
theorem run_does (layer : QueryLayer) (options : Args)
    {inner : Action σ ν (Except String (Outcome κ))} (h : ∀ c', Does hands c' P inner Q) :
    Does hands c P (layer.run options inner) fun r H p =>
      (∀ l s, r = .ok (.stream (l, s)) → l.holds = 0) ∧ Q (r.map (·.map Prod.snd)) H p := by
  refine .bind (layer.manager.trace_does _ _ h) fun x => .pure fun H p hQ => ?_
  obtain ⟨result, source⟩ := x
  rcases result with message | v | stream
  · exact ⟨fun _ _ h => (by cases h), hQ⟩
  · exact ⟨fun _ _ h => (by cases h), hQ⟩
  · exact ⟨fun _ _ h => (by cases h; rfl), hQ⟩

theorem runThrough_does (options : Args) {base : Action σ ν (Except String (Outcome κ))}
    (h : ∀ c', Does hands c' P base Q) (layers : List QueryLayer) :
    Does hands c P (runThrough options base layers) fun r H p =>
      (∀ ls s, r = .ok (.stream (ls, s)) → RowsLayer.held ls = 0) ∧
        Q (r.map (·.map Prod.snd)) H p := by
  induction layers generalizing c with
  | nil =>
    refine .bind (h c) fun result => .pure fun H p hQ => ?_
    rcases result with message | v | stream
    · exact ⟨fun _ _ h => (by cases h), hQ⟩
    · exact ⟨fun _ _ h => (by cases h), hQ⟩
    · exact ⟨fun _ _ h => (by cases h; rfl), hQ⟩
  | cons layer layers ih =>
    refine .bind (layer.run_does options fun _ => ih) fun result => .pure fun H p hQ => ?_
    obtain ⟨houter, hinner, hQ⟩ := hQ
    rcases result with message | v | ⟨outer, inner, stream⟩
    · exact ⟨fun _ _ h => (by cases h), hQ⟩
    · exact ⟨fun _ _ h => (by cases h), hQ⟩
    · refine ⟨fun ls s h => ?_, hQ⟩
      cases h
      rw [RowsLayer.held, List.map_cons, List.sum_cons, houter outer _ rfl, zero_add]
      exact hinner inner stream rfl

end QueryLayer

end QueryTrace
