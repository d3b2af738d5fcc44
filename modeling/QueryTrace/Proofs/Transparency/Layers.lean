import QueryTrace.Layer.Run
import QueryTrace.Layer.Sending
import QueryTrace.Proofs.Transparency.Matching

/-!
# Layers pass everything through

Whatever a layer does beside calling what it wraps is unseen, and it calls what it wraps exactly
once. So an action through layers matches whatever the bare action matches.

The results of the bare action are related by `R` to those of the other one. What a layer gives
beside the bare result (its own state, or the layers of a stream) does not count.
-/

namespace QueryTrace

variable {σ ν α β κ : Type} {L : σ × List ν → σ × List ν → Prop}

/-! ## The manager -/

namespace Manager

variable {R : Except String α → β → Prop} {call : Action σ ν (Except String α)}
  {other : Action σ ν β} {result : Except String α} {b : β}

theorem unseen_describe (m : Manager) (span : SpanRef) (source : Source) :
    Unseen (m.describe span source : Action σ ν Source) :=
  .bind (.modify fun w => w.seen_annotate span _) fun _ => .pure _

theorem unseen_startIn (m : Manager) (context : Context) (name : String) (mode : Mode) :
    Unseen (m.startIn context name mode : Action σ ν Context) :=
  ⟨fun w => w.seen_startSpan m.provider .tracing name context.span⟩

theorem unseen_noteDuration (m : Manager) (span : SpanRef) (started : Nat) :
    Unseen (m.noteDuration span started : Action σ ν Unit) := by
  refine .bind .get fun w => ?_
  split
  · refine .bind (.modify fun w => w.seen_annotate span _) fun _ => ?_
    split
    · exact .bind (.modify fun w => w.seen_annotate span _) fun _ => .log ..
    · exact .pure _
  · exact .pure _

theorem unseen_endStale (span : SpanRef) : Unseen (endStale span : Action σ ν Unit) := by
  refine .bind .get fun w => ?_
  split
  · exact .bind (.log ..) fun _ => .modify fun w => w.seen_finish span
  · exact .pure _

theorem noteFailure_matches (span : SpanRef) (h : R result b) :
    Matches L R (noteFailure span result) (pure b) := by
  cases result with
  | ok a => exact .pure h
  | error message =>
    exact .unseen_bind (.log ..) fun _ => .unseen_bind (.modify fun w => w.seen_fail span _)
      fun _ => .pure h

theorem runInSpan_matches (m : Manager) (context : Context) (source : Source)
    (h : Matches L R call other) :
    Matches L (fun x => R x.1) (m.runInSpan context source call) other := by
  refine .unseen_bind (.log ..) fun _ => .unseen_bind (m.unseen_startIn ..) fun inner => ?_
  refine .unseen_bind (m.unseen_describe ..) fun source => .unseen_bind .get fun _ => ?_
  refine .bind_left h.within fun result b hR => ?_
  refine .unseen_bind (m.unseen_noteDuration ..) fun _ => ?_
  refine .bind_left (noteFailure_matches inner.span hR) fun result b hR => ?_
  exact .unseen_bind (.modify fun w => w.seen_finish _) fun _ => .pure hR

theorem runContinuation_matches (span : SpanRef) (mode : Mode) (source : Source)
    (h : Matches L R call other) :
    Matches L (fun x => R x.1) (runContinuation span mode source call) other := by
  refine .unseen_bind (.log ..) fun _ => .unseen_bind (.modify fun w => w.seen_annotate span _) ?_
  refine fun _ => .bind_left h fun result b hR => ?_
  exact .bind_left (noteFailure_matches span hR) fun _ _ hR => .pure hR

theorem runStray_matches (m : Manager) (source : Source) (h : Matches L R call other) :
    Matches L (fun x => R x.1) (m.runStray source call) other :=
  .unseen_bind (.log ..) fun _ => .bind_left h fun _ _ hR => .pure hR

theorem runCovered_matches (m : Manager) (span : SpanRef) (mode : Mode) (source : Source)
    (h : Matches L R call other) :
    Matches L (fun x => R x.1) (m.runCovered span mode source call) other := by
  refine .unseen_bind (.log ..) fun _ => ?_
  have hcall (source : Source) : Matches L (fun x => R x.1)
      (do return (← noteFailure span (← call), source)) other :=
    .bind_left h fun result b hR => .bind_left (noteFailure_matches span hR) fun _ _ hR => .pure hR
  dsimp only
  split
  · exact hcall source
  · exact .unseen_bind (m.unseen_describe span source) hcall

/-- Every way to run a call for a span runs it once, and hands its result back. -/
theorem trace_matches (m : Manager) (source : Source) (role : Role) (h : Matches L R call other) :
    Matches L (fun x => R x.1) (m.trace source role call) other := by
  refine .unseen_bind .current fun context => ?_
  split
  · exact m.runStray_matches source h
  · exact runContinuation_matches context.span _ source h
  · exact m.runInSpan_matches context source h
  · exact .unseen_bind (unseen_endStale _) fun _ => m.runInSpan_matches context source h
  · split
    · exact m.runCovered_matches context.span _ source h
    · exact m.runInSpan_matches context source h

end Manager

/-! ## Requests -/

namespace Layer

theorem unseen_render (request : Request) : Unseen (render request : Action σ ν String) := by
  unfold render
  dsimp only
  split
  · exact .bind (.log ..) fun _ => .pure _
  · exact .pure _

variable {R : Except String Response → β → Prop} {request : Request} {noreply : Bool}
  {other : Action σ ν β}

theorem sendTraced_matches (layer : Layer) {inner : Send σ ν}
    (h : Matches L R (inner request noreply) other) :
    Matches L R (layer.sendTraced inner request noreply) other := by
  refine .unseen_bind (unseen_render request) fun rendered => ?_
  dsimp only
  split
  · exact .unseen_bind (.log ..) fun _ => h
  · exact .bind_left (layer.manager.trace_matches _ _ h) fun _ _ hR => .pure hR

theorem send_matches (layer : Layer) {inner : Send σ ν}
    (h : Matches L R (inner request noreply) other) :
    Matches L R (layer.send inner request noreply) other := by
  refine .unseen_bind .current fun context => ?_
  split
  · exact h
  · exact (layer.sendTraced_matches h).within

/-- Layers around a connection send each request once. -/
theorem sendThrough_matches {base : Send σ ν} (h : Matches L R (base request noreply) other)
    (layers : List Layer) : Matches L R (sendThrough layers base request noreply) other := by
  induction layers with
  | nil => exact h
  | cons layer layers ih => exact layer.send_matches ih

/-- Layers around a connection open it again once. -/
theorem reconnectThrough_matches {R : Except String α → β → Prop}
    {base : Action σ ν (Except String α)} (h : Matches L R base other) (layers : List Layer) :
    Matches L R (reconnectThrough layers base) other := by
  induction layers with
  | nil => exact h
  | cons layer layers ih =>
    refine .bind_left ih fun result b hR => ?_
    dsimp only
    split
    · exact .unseen_bind (.log ..) fun _ => .pure hR
    · exact .pure hR

end Layer

/-! ## Rows -/

namespace Deferred

theorem unseen_start (d : Deferred) (chain : Chain) :
    Unseen (d.start chain : Action σ ν (Except StillActive Unit × Deferred)) := by
  unfold Deferred.start
  split
  · exact .pure _
  · exact .bind (.log ..) fun _ => .bind .current fun _ =>
      .bind (d.manager.unseen_startIn ..) fun _ => .pure _

theorem unseen_noteError (d : Deferred) (message : String) :
    Unseen (d.noteError message : Action σ ν Unit) := by
  unfold Deferred.noteError
  split
  · exact .bind (.log ..) fun _ => .modify fun w => w.seen_fail _ _
  · exact .pure _

theorem unseen_noteRows (d : Deferred) (rows : UInt64) :
    Unseen (d.noteRows rows : Action σ ν Unit) := by
  unfold Deferred.noteRows
  split
  · split
    · exact .modify fun w => w.seen_annotate _ _
    · exact .pure _
  · exact .pure _

theorem unseen_stop (d : Deferred) (chain : Chain) :
    Unseen (d.stop chain : Action σ ν (Deferred × Chain)) := by
  unfold Deferred.stop
  split
  · exact .bind (.log ..) fun _ => .bind (.modify fun w => by simp) fun _ => .pure _
  · exact .pure _

theorem unseen_abandon (d : Deferred) : Unseen (d.abandon : Action σ ν Unit) := by
  unfold Deferred.abandon
  split
  · exact .modify fun w => w.seen_finish _
  · exact .pure _

theorem inScope_matches {R : α → β → Prop} {act : Action σ ν α} {other : Action σ ν β}
    (d : Deferred) (h : Matches L R act other) : Matches L R (d.inScope act) other := by
  unfold Deferred.inScope
  split
  · exact h.within
  · exact h

end Deferred

namespace RowsLayer

theorem unseen_ensureStarted (layer : RowsLayer) :
    Unseen (layer.ensureStarted : Action σ ν RowsLayer) := by
  unfold RowsLayer.ensureStarted
  split
  · refine .bind (layer.span.unseen_start _) fun x => ?_
    dsimp only
    split
    · exact .bind (.log ..) fun _ => .pure _
    · exact .pure _
  · exact .pure _

theorem unseen_finish (layer : RowsLayer) : Unseen (layer.finish : Action σ ν RowsLayer) := by
  unfold RowsLayer.finish
  split
  · exact .pure _
  · exact .bind (layer.span.unseen_noteRows _) fun _ => .bind (layer.span.unseen_stop _) fun _ =>
      .pure _

theorem unseen_drop (layer : RowsLayer) : Unseen (layer.drop : Action σ ν Unit) := by
  unfold RowsLayer.drop
  dsimp only
  split
  · exact .bind (.log ..) fun _ => .bind layer.unseen_finish fun _ => .pure _
  · exact .bind layer.unseen_finish fun _ => .pure _

theorem next_matches {R : Except String (Option Value) × κ → β → Prop}
    {fetch : Action σ ν (Except String (Option Value) × κ)} {other : Action σ ν β}
    (layer : RowsLayer) (h : Matches L R fetch other) :
    Matches L (fun x => R x.1) (layer.next fetch) other := by
  unfold RowsLayer.next
  split
  · exact .bind_left h fun _ _ hR => .pure hR
  · refine .unseen_bind layer.unseen_ensureStarted fun layer => ?_
    refine .bind_left (layer.span.inScope_matches h) fun out b hR => ?_
    split
    · exact .pure hR
    · exact .unseen_bind (.log ..) fun _ => .unseen_bind layer.unseen_finish fun _ => .pure hR
    · exact .unseen_bind (layer.span.unseen_noteError _) fun _ =>
        .unseen_bind layer.unseen_finish fun _ => .pure hR

theorem close_matches {R : Except String Unit × κ → β → Prop}
    {inner : Action σ ν (Except String Unit × κ)} {other : Action σ ν β}
    (layer : RowsLayer) (h : Matches L R inner other) :
    Matches L (fun x => R x.1) (layer.close inner) other := by
  unfold RowsLayer.close
  split
  · exact .bind_left h fun _ _ hR => .pure hR
  · refine .bind_left (layer.span.inScope_matches h) fun out b hR => ?_
    dsimp only
    split
    · exact .unseen_bind (layer.span.unseen_noteError _) fun _ =>
        .unseen_bind layer.unseen_finish fun _ => .pure hR
    · exact .unseen_bind layer.unseen_finish fun _ => .pure hR

/-- Layers around a stream fetch each row once. -/
theorem nextThrough_matches {R : Except String (Option Value) → κ → β → Prop}
    {fetch : Action σ ν (Except String (Option Value) × κ)} {other : Action σ ν β}
    (h : Matches L (fun x => R x.1 x.2) fetch other) (layers : List RowsLayer) :
    Matches L (fun x => R x.1 x.2.1) (nextThrough fetch layers) other := by
  induction layers with
  | nil => exact .bind_left h fun _ _ hR => .pure hR
  | cons layer layers ih => exact .bind_left (layer.next_matches ih) fun _ _ hR => .pure hR

/-- Layers around a stream close it once. -/
theorem closeThrough_matches {R : Except String Unit → κ → β → Prop}
    {inner : Action σ ν (Except String Unit × κ)} {other : Action σ ν β}
    (h : Matches L (fun x => R x.1 x.2) inner other) (layers : List RowsLayer) :
    Matches L (fun x => R x.1 x.2.1) (closeThrough inner layers) other := by
  induction layers with
  | nil => exact .bind_left h fun _ _ hR => .pure hR
  | cons layer layers ih => exact .bind_left (layer.close_matches ih) fun _ _ hR => .pure hR

end RowsLayer

/-! ## Runs -/

namespace QueryLayer

theorem run_matches {R : Except String (Outcome κ) → β → Prop}
    {inner : Action σ ν (Except String (Outcome κ))} {other : Action σ ν β} (layer : QueryLayer)
    (options : Args) (h : Matches L R inner other) :
    Matches L (fun x => R (x.map (·.map Prod.snd))) (layer.run options inner) other := by
  refine .bind_left (layer.manager.trace_matches _ _ h) fun x b hR => .pure ?_
  obtain ⟨result, source⟩ := x
  cases result with
  | error message => exact hR
  | ok outcome => cases outcome <;> exact hR

/-- Layers around a query node run it once; a stream gets layers of its own. -/
theorem runThrough_matches {R : Except String (Outcome κ) → β → Prop}
    {base : Action σ ν (Except String (Outcome κ))} {other : Action σ ν β}
    (h : Matches L R base other) (options : Args) (layers : List QueryLayer) :
    Matches L (fun x => R (x.map (·.map Prod.snd))) (runThrough options base layers) other := by
  induction layers with
  | nil =>
    refine .bind_left h fun result b hR => .pure ?_
    cases result with
    | error message => exact hR
    | ok outcome => cases outcome <;> exact hR
  | cons layer layers ih =>
    refine .bind_left (layer.run_matches options ih) fun result b hR => .pure ?_
    cases result with
    | error message => exact hR
    | ok outcome => cases outcome <;> exact hR

end QueryLayer

end QueryTrace
