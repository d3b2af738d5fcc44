import QueryTrace.Layer.Run
import QueryTrace.Proofs.Contrast.Outermost

/-!
# Contexts after operations

Contexts are attached for a call and detached when it has returned, whatever it returns; a deferred
span keeps a context, but not on the stack. So every operation of the layers leaves the stack of
contexts as it was, if what it is put around does (`Operation.keepsContexts`).

There is one rule for each way to compose actions, then one lemma for each function of the layers.
-/

namespace QueryTrace

variable {σ ν α β κ : Type}

/-! ## Rules -/

namespace KeepsContexts

theorem pure (a : α) : KeepsContexts (pure a : Action σ ν α) := ⟨fun _ => rfl⟩

theorem current : KeepsContexts (current : Action σ ν Context) := ⟨fun _ => rfl⟩

theorem note (n : ν) : KeepsContexts (note n : Action σ ν Unit) := ⟨fun _ => rfl⟩

theorem update {f : World σ ν → World σ ν} (h : ∀ w, (f w).contexts = w.contexts) :
    KeepsContexts (modify f : Action σ ν PUnit) := ⟨h⟩

theorem bind {act : Action σ ν α} {f : α → Action σ ν β} (h : KeepsContexts act)
    (hf : ∀ a, KeepsContexts (f a)) : KeepsContexts (act >>= f) :=
  ⟨fun w => ((hf _).contexts _).trans (h.contexts w)⟩

/-- What is attached for an action is detached after it. -/
theorem within (context : Context) {act : Action σ ν α} (h : KeepsContexts act) :
    KeepsContexts (within context act) := by
  refine ⟨fun w => ?_⟩
  rw [after_within, World.contexts_detach, h.contexts, World.contexts_attach, List.tail_cons]

theorem startIn (m : Manager) (context : Context) (name : String) (mode : Mode) :
    KeepsContexts (m.startIn context name mode : Action σ ν Context) :=
  ⟨fun w => w.contexts_startSpan ..⟩

theorem finish (span : SpanRef) : KeepsContexts (modify (·.finish span) : Action σ ν PUnit) :=
  update fun w => w.contexts_finish span

theorem fail (span : SpanRef) (message : String) :
    KeepsContexts (modify (·.fail span message) : Action σ ν PUnit) :=
  update fun w => w.contexts_fail span message

/-- The caller of an action that keeps the contexts is where it was. -/
theorem current_after {act : Action σ ν α} (h : KeepsContexts act) (w : World σ ν) :
    (after act w).current = w.current := by
  rw [World.current, h.contexts, World.current]

end KeepsContexts

/-! ## Spans of queries -/

namespace Manager

theorem noteFailure_keepsContexts (span : SpanRef) (result : Except String α) :
    KeepsContexts (noteFailure span result : Action σ ν (Except String α)) := by
  cases result with
  | ok a => exact .bind (.pure _) fun _ => .pure _
  | error message => exact .bind (.log ..) fun _ => .bind (.fail ..) fun _ => .pure _

theorem noteDuration_keepsContexts (m : Manager) (span : SpanRef) (started : Nat) :
    KeepsContexts (m.noteDuration span started : Action σ ν Unit) := by
  refine .bind .get fun w => ?_
  dsimp only
  split
  · refine .bind (.annotate ..) fun _ => ?_
    split
    · exact .bind (.annotate ..) fun _ => .log ..
    · exact .pure _
  · exact .pure _

section Calls

variable {call : Action σ ν (Except String α)} (hcall : KeepsContexts call)
include hcall

theorem noted_keepsContexts (span : SpanRef) (source : Source) : KeepsContexts
    (do return (← noteFailure span (← call), source) : Action σ ν (Except String α × Source)) :=
  .bind hcall fun result => .bind (noteFailure_keepsContexts span result) fun _ => .pure _

theorem runInSpan_keepsContexts (m : Manager) (context : Context) (source : Source) :
    KeepsContexts (m.runInSpan context source call) := by
  refine .bind (.log ..) fun _ => .bind (.startIn ..) fun inner => ?_
  refine .bind (.describe ..) fun source => .bind .get fun w => ?_
  refine .bind (.within inner hcall) fun result => ?_
  refine .bind (m.noteDuration_keepsContexts inner.span _) fun _ => ?_
  exact .bind (noteFailure_keepsContexts inner.span result) fun _ => .bind (.finish _) fun _ =>
    .pure _

/-- A traced call, in each way in which it can be run. -/
theorem trace_keepsContexts (m : Manager) (source : Source) (role : Role) :
    KeepsContexts (m.trace source role call) := by
  refine .bind .current fun c => ?_
  split
  · exact .bind (.log ..) fun _ => .bind hcall fun _ => .pure _
  · exact .bind (.log ..) fun _ => .bind (.annotate ..) fun _ => noted_keepsContexts hcall ..
  · exact runInSpan_keepsContexts hcall m c source
  · exact .bind (.endStale c.span) fun _ => runInSpan_keepsContexts hcall m c source
  · split
    · refine .bind (.log ..) fun _ => ?_
      dsimp only
      split
      · exact noted_keepsContexts hcall ..
      · exact .bind (.describe ..) fun _ => noted_keepsContexts hcall ..
    · exact runInSpan_keepsContexts hcall m c source

end Calls

end Manager

/-! ## Requests and runs -/

namespace Layer

variable {inner base : Send σ ν}

theorem sendTraced_keepsContexts (layer : Layer) (request : Request) (noreply : Bool)
    (h : KeepsContexts (inner request noreply)) :
    KeepsContexts (layer.sendTraced inner request noreply) := by
  refine .bind (.render request) fun rendered => ?_
  dsimp only
  split
  · exact .bind (.log ..) fun _ => h
  · exact .bind (Manager.trace_keepsContexts h layer.manager _ _) fun _ => .pure _

theorem send_keepsContexts (layer : Layer) (request : Request) (noreply : Bool)
    (h : KeepsContexts (inner request noreply)) :
    KeepsContexts (layer.send inner request noreply) := by
  refine .bind .current fun context => ?_
  split
  · exact h
  · exact .within _ (layer.sendTraced_keepsContexts request noreply h)

theorem sendThrough_keepsContexts (layers : List Layer) (request : Request) (noreply : Bool)
    (h : KeepsContexts (base request noreply)) :
    KeepsContexts (sendThrough layers base request noreply) := by
  induction layers with
  | nil => exact h
  | cons layer layers ih => exact layer.send_keepsContexts request noreply ih

theorem reconnectThrough_keepsContexts (layers : List Layer) {open' : Action σ ν (Except String α)}
    (h : KeepsContexts open') : KeepsContexts (reconnectThrough layers open') := by
  induction layers with
  | nil => exact h
  | cons layer layers ih =>
    refine .bind ih fun result => ?_
    cases result with
    | ok a => exact .bind (.log ..) fun _ => .pure _
    | error message => exact .bind (.pure _) fun _ => .pure _

end Layer

theorem QueryLayer.runThrough_keepsContexts (options : Args) (layers : List QueryLayer)
    {base : Action σ ν (Except String (Outcome κ))} (h : KeepsContexts base) :
    KeepsContexts (runThrough options base layers) := by
  induction layers with
  | nil => exact .bind h fun _ => .pure _
  | cons layer layers ih =>
    refine .bind (.bind ?_ fun _ => .pure _) fun _ => .pure _
    exact Manager.trace_keepsContexts ih layer.manager _ _

/-! ## Deferred spans -/

namespace Deferred

variable (d : Deferred)

/-- The context of the span that is started is kept by the span, not attached. -/
theorem start_keepsContexts (chain : Chain) :
    KeepsContexts (d.start chain : Action σ ν (Except StillActive Unit × Deferred)) := by
  unfold start
  split
  · exact .pure _
  · exact .bind (.log ..) fun _ => .bind .current fun _ => .bind (.startIn ..) fun _ => .pure _

theorem inScope_keepsContexts {act : Action σ ν α} (h : KeepsContexts act) :
    KeepsContexts (d.inScope act) := by
  unfold inScope
  split
  · exact .within _ h
  · exact h

theorem noteError_keepsContexts (message : String) :
    KeepsContexts (d.noteError message : Action σ ν Unit) := by
  unfold noteError
  split
  · exact .bind (.log ..) fun _ => .fail ..
  · exact .pure _

theorem noteRows_keepsContexts (rows : UInt64) :
    KeepsContexts (d.noteRows rows : Action σ ν Unit) := by
  unfold noteRows
  split
  · split
    · exact .annotate ..
    · exact .pure _
  · exact .pure _

theorem stop_keepsContexts (chain : Chain) :
    KeepsContexts (d.stop chain : Action σ ν (Deferred × Chain)) := by
  unfold stop
  split
  · exact .bind (.log ..) fun _ => .bind (.update fun w => by simp) fun _ => .pure _
  · exact .pure _

theorem abandon_keepsContexts : KeepsContexts (d.abandon : Action σ ν Unit) := by
  unfold abandon
  split
  · exact .finish _
  · exact .pure _

end Deferred

/-! ## Streams -/

namespace RowsLayer

section One

variable (layer : RowsLayer)

theorem ensureStarted_keepsContexts :
    KeepsContexts (layer.ensureStarted : Action σ ν RowsLayer) := by
  unfold ensureStarted
  split
  · refine .bind (layer.span.start_keepsContexts _) fun ⟨refused, span⟩ => ?_
    cases refused with
    | ok a => exact .bind (.pure _) fun _ => .pure _
    | error e => exact .bind (.log ..) fun _ => .pure _
  · exact .pure _

theorem finish_keepsContexts : KeepsContexts (layer.finish : Action σ ν RowsLayer) := by
  unfold finish
  split
  · exact .pure _
  · refine .bind (layer.span.noteRows_keepsContexts _) fun _ => ?_
    exact .bind (layer.span.stop_keepsContexts _) fun _ => .pure _

theorem next_keepsContexts {fetch : Action σ ν (Except String (Option Value) × κ)}
    (h : KeepsContexts fetch) : KeepsContexts (layer.next fetch) := by
  unfold next
  split
  · exact .bind h fun _ => .pure _
  · refine .bind layer.ensureStarted_keepsContexts fun layer => ?_
    refine .bind (layer.span.inScope_keepsContexts h) fun out => ?_
    split
    · exact .pure _
    · exact .bind (.log ..) fun _ => .bind layer.finish_keepsContexts fun _ => .pure _
    · exact .bind (layer.span.noteError_keepsContexts _) fun _ =>
        .bind layer.finish_keepsContexts fun _ => .pure _

theorem close_keepsContexts {inner : Action σ ν (Except String Unit × κ)}
    (h : KeepsContexts inner) : KeepsContexts (layer.close inner) := by
  unfold close
  split
  · exact .bind h fun _ => .pure _
  · refine .bind (layer.span.inScope_keepsContexts h) fun out => ?_
    have hfinish : KeepsContexts (do return (out, ← layer.finish) : Action σ ν _) :=
      .bind layer.finish_keepsContexts fun _ => .pure _
    dsimp only
    split
    · exact .bind (layer.span.noteError_keepsContexts _) fun _ => hfinish
    · exact hfinish

theorem drop_keepsContexts : KeepsContexts (layer.drop : Action σ ν Unit) := by
  have hfinish : KeepsContexts (do let _ ← layer.finish : Action σ ν Unit) :=
    .bind layer.finish_keepsContexts fun _ => .pure _
  unfold drop
  dsimp only
  split
  · exact .bind (.log ..) fun _ => hfinish
  · exact hfinish

end One

theorem nextThrough_keepsContexts (layers : List RowsLayer)
    {fetch : Action σ ν (Except String (Option Value) × κ)} (h : KeepsContexts fetch) :
    KeepsContexts (nextThrough fetch layers) := by
  induction layers with
  | nil => exact .bind h fun _ => .pure _
  | cons layer layers ih => exact .bind (layer.next_keepsContexts ih) fun _ => .pure _

theorem closeThrough_keepsContexts (layers : List RowsLayer)
    {inner : Action σ ν (Except String Unit × κ)} (h : KeepsContexts inner) :
    KeepsContexts (closeThrough inner layers) := by
  induction layers with
  | nil => exact .bind h fun _ => .pure _
  | cons layer layers ih => exact .bind (layer.close_keepsContexts ih) fun _ => .pure _

end RowsLayer

/-! ## Operations -/

/-- One operation of the layers, around something that keeps the contexts. -/
inductive Operation : {α : Type} → Action σ ν α → Prop
  /-- A traced call. -/
  | trace (m : Manager) (source : Source) (role : Role) {α : Type}
    {call : Action σ ν (Except String α)} :
    KeepsContexts call → Operation (m.trace source role call)
  /-- A request through any number of layers. -/
  | send (layers : List Layer) (request : Request) (noreply : Bool) {base : Send σ ν} :
    KeepsContexts (base request noreply) →
    Operation (Layer.sendThrough layers base request noreply)
  /-- A run of a query node. -/
  | run (options : Args) (layers : List QueryLayer) {κ : Type}
    {base : Action σ ν (Except String (Outcome κ))} :
    KeepsContexts base → Operation (QueryLayer.runThrough options base layers)
  /-- A fetch from a traced stream. -/
  | next (layers : List RowsLayer) {κ : Type}
    {fetch : Action σ ν (Except String (Option Value) × κ)} :
    KeepsContexts fetch → Operation (RowsLayer.nextThrough fetch layers)
  | close (layers : List RowsLayer) {κ : Type} {inner : Action σ ν (Except String Unit × κ)} :
    KeepsContexts inner → Operation (RowsLayer.closeThrough inner layers)
  /-- A traced stream is given up. -/
  | drop (layer : RowsLayer) : Operation layer.drop
  | inScope (d : Deferred) {α : Type} {act : Action σ ν α} :
    KeepsContexts act → Operation (d.inScope act)
  | start (d : Deferred) (chain : Chain) : Operation (d.start chain)
  | stop (d : Deferred) (chain : Chain) : Operation (d.stop chain)

theorem Operation.keepsContexts {act : Action σ ν α} (h : Operation act) : KeepsContexts act := by
  cases h with
  | trace m source role hcall => exact Manager.trace_keepsContexts hcall m source role
  | send layers request noreply hbase =>
    exact Layer.sendThrough_keepsContexts layers request noreply hbase
  | run options layers hbase => exact QueryLayer.runThrough_keepsContexts options layers hbase
  | next layers hfetch => exact RowsLayer.nextThrough_keepsContexts layers hfetch
  | close layers hinner => exact RowsLayer.closeThrough_keepsContexts layers hinner
  | drop layer => exact layer.drop_keepsContexts
  | inScope d hact => exact d.inScope_keepsContexts hact
  | start d chain => exact d.start_keepsContexts chain
  | stop d chain => exact d.stop_keepsContexts chain

end QueryTrace
