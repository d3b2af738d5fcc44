import QueryTrace.Layer.Sending
import QueryTrace.Proofs.Worlds

/-!
# The outermost layer

A layer marks the context while a request is under way in it, and passes on as they are the requests
that reach it with that mark. Every way to run a call for a span keeps the mark, so the layers
inside another one do nothing at all (`Layer.sendThrough_cons`).
-/

namespace QueryTrace

variable {σ ν α β : Type}

/-! ## While a request is under way -/

/-- The contexts after the action are those before it. -/
structure KeepsContexts (act : Action σ ν α) : Prop where
  contexts : ∀ w, (after act w).contexts = w.contexts

namespace KeepsContexts

theorem get : KeepsContexts (get : Action σ ν (World σ ν)) := ⟨fun _ => rfl⟩

theorem log (level : Level) (message : String) (fields : List Attr) :
    KeepsContexts (log level message fields : Action σ ν Unit) := ⟨fun w => w.contexts_log ..⟩

theorem describe (m : Manager) (span : SpanRef) (source : Source) :
    KeepsContexts (m.describe span source : Action σ ν Source) := ⟨fun w => w.contexts_annotate ..⟩

theorem annotate (span : SpanRef) (attrs : List Attr) :
    KeepsContexts (modify (·.annotate span attrs) : Action σ ν Unit) :=
  ⟨fun w => w.contexts_annotate ..⟩

theorem endStale (span : SpanRef) :
    KeepsContexts (Manager.endStale span : Action σ ν Unit) := by
  refine ⟨fun w => ?_⟩
  cases h : w.isRecording span <;> simp [Manager.endStale, h]

theorem render (request : Request) :
    KeepsContexts (Layer.render request : Action σ ν String) := by
  refine ⟨fun w => ?_⟩
  cases h : request.serialize <;> simp [Layer.render, h]

end KeepsContexts

/-- The actions do the same while a traced request is under way. -/
structure EqualInRequest (act other : Action σ ν α) : Prop where
  run : ∀ w : World σ ν, w.current.inRequest = true → act.run w = other.run w

namespace EqualInRequest

variable {act other : Action σ ν α}

theorem bind_left (h : EqualInRequest act other) (f : α → Action σ ν β) :
    EqualInRequest (act >>= f) (other >>= f) := by
  refine ⟨fun w hw => ?_⟩
  rw [StateT.run_bind, StateT.run_bind, h.run w hw]

theorem bind_right (hact : KeepsContexts act) {f g : α → Action σ ν β}
    (h : ∀ a, EqualInRequest (f a) (g a)) : EqualInRequest (act >>= f) (act >>= g) := by
  refine ⟨fun w hw => (h (result act w)).run (after act w) ?_⟩
  rw [World.current, hact.contexts]
  exact hw

theorem bind_current {f g : Context → Action σ ν β}
    (h : ∀ c : Context, c.inRequest = true → EqualInRequest (f c) (g c)) :
    EqualInRequest (current >>= f) (current >>= g) :=
  ⟨fun w hw => (h w.current hw).run w hw⟩

/-- The context of a new span inherits that a request is under way. -/
theorem bind_startIn (m : Manager) {c : Context} (hc : c.inRequest = true) (name : String)
    (mode : Mode) {f g : Context → Action σ ν β}
    (h : ∀ c : Context, c.inRequest = true → EqualInRequest (f c) (g c)) :
    EqualInRequest (m.startIn c name mode >>= f) (m.startIn c name mode >>= g) := by
  refine ⟨fun w hw => (h (result (m.startIn c name mode) w) hc).run
    (after (m.startIn c name mode) w) ?_⟩
  rw [World.current, after_startIn, World.contexts_startSpan]
  exact hw

theorem within {c : Context} (hc : c.inRequest = true) (h : EqualInRequest act other) :
    EqualInRequest (within c act) (within c other) := by
  refine ⟨fun w _ => ?_⟩
  have hrun : act.run (w.attach c) = other.run (w.attach c) := h.run _ hc
  exact congrArg (fun x => (x.1, x.2.detach)) hrun

end EqualInRequest

namespace Manager

variable {call other : Action σ ν (Except String α)} (hcall : EqualInRequest call other)
include hcall

theorem runInSpan_inRequest (m : Manager) {c : Context} (hc : c.inRequest = true)
    (source : Source) :
    EqualInRequest (m.runInSpan c source call) (m.runInSpan c source other) := by
  refine .bind_right (.log ..) fun _ => .bind_startIn m hc _ _ fun inner hinner => ?_
  refine .bind_right (.describe ..) fun source => .bind_right .get fun w => ?_
  exact .bind_left (hcall.within hinner) _

/-- A call that is traced while a request is under way is carried out while it is under way. -/
theorem trace_inRequest (m : Manager) (source : Source) (role : Role) :
    EqualInRequest (m.trace source role call) (m.trace source role other) := by
  have hnoted (span : SpanRef) (source : Source) : EqualInRequest
      (do return (← noteFailure span (← call), source))
      (do return (← noteFailure span (← other), source)) := .bind_left hcall _
  refine .bind_current fun c hc => ?_
  -- In each way to run the call, nothing in front of it takes the mark away.
  split
  · exact .bind_right (.log ..) fun _ => .bind_left hcall _
  · exact .bind_right (.log ..) fun _ => .bind_right (.annotate ..) fun _ => hnoted c.span source
  · exact runInSpan_inRequest hcall m hc source
  · exact .bind_right (.endStale c.span) fun _ => runInSpan_inRequest hcall m hc source
  · split
    · refine .bind_right (.log ..) fun _ => ?_
      dsimp only
      split
      · exact hnoted c.span source
      · exact .bind_right (.describe ..) fun source => hnoted c.span source
    · exact runInSpan_inRequest hcall m hc source

end Manager

/-! ## Layers inside a layer -/

namespace Layer

variable {inner inner' : Send σ ν} (layer : Layer) {request : Request} {noreply : Bool}

/-- While a request is under way a layer does nothing. -/
theorem send_inRequest (inner : Send σ ν) (request : Request) (noreply : Bool) :
    EqualInRequest (layer.send inner request noreply) (inner request noreply) := by
  refine ⟨fun w hw => ?_⟩
  have hpass : (layer.send inner request noreply).run w =
      (if w.current.inRequest = true then inner request noreply
        else within { w.current with inRequest := true }
          (layer.sendTraced inner request noreply)).run w := rfl
  rw [hpass, if_pos hw]

theorem sendThrough_inRequest (layers : List Layer) (base : Send σ ν) (request : Request)
    (noreply : Bool) :
    EqualInRequest (sendThrough layers base request noreply) (base request noreply) := by
  induction layers with
  | nil => exact ⟨fun _ _ => rfl⟩
  | cons layer layers ih =>
    exact ⟨fun w hw => ((layer.send_inRequest _ _ _).run w hw).trans (ih.run w hw)⟩

theorem sendTraced_inRequest (h : EqualInRequest (inner request noreply) (inner' request noreply)) :
    EqualInRequest (layer.sendTraced inner request noreply)
      (layer.sendTraced inner' request noreply) := by
  refine .bind_right (.render request) fun rendered => ?_
  dsimp only
  split
  · exact .bind_right (.log ..) fun _ => h
  · exact .bind_left (Manager.trace_inRequest h layer.manager _ _) _

/-- Of what is inside a layer only that counts which is done while a request is under way. -/
theorem send_congr
    (h : ∀ request noreply, EqualInRequest (inner request noreply) (inner' request noreply)) :
    layer.send inner = layer.send inner' := by
  funext request noreply w
  show (if w.current.inRequest = true then inner request noreply
      else within { w.current with inRequest := true }
        (layer.sendTraced inner request noreply)).run w =
    (if w.current.inRequest = true then inner' request noreply
      else within { w.current with inRequest := true }
        (layer.sendTraced inner' request noreply)).run w
  split
  · next hw => exact (h request noreply).run w hw
  · -- A request without the mark gets it before anything inside is reached.
    have hmarked := (layer.sendTraced_inRequest (h request noreply)).run
      (w.attach { w.current with inRequest := true }) rfl
    exact congrArg (fun x => (x.1, x.2.detach)) hmarked

/-- Of several layers around a connection only the outermost one ever does anything. -/
theorem sendThrough_cons (layers : List Layer) (base : Send σ ν) :
    sendThrough (layer :: layers) base = layer.send base :=
  layer.send_congr (sendThrough_inRequest layers base)

/-! ## Outside of any request -/

theorem render_leaves (request : Request) (w : World σ ν) :
    result (render request) w = request.rendered ∧
      (after (render request) w).contexts = w.contexts ∧
      (after (render request) w).program = w.program ∧
      (after (render request) w).spans = w.spans := by
  cases h : request.serialize <;> simp [render, h]

/-- Outside of any other request a layer marks the context, reads the request, and has it traced in
its role. -/
theorem send_traced (layer : Layer) (inner : Send σ ν) (request : Request) (noreply : Bool)
    {w : World σ ν} (hw : w.current.inRequest = false) {role : Role}
    (hrole : (layer.classifier.summarise request.rendered).role? = some role) :
    let source : Source := .request request.rendered (layer.classifier.summarise request.rendered)
    let traced := layer.manager.trace source role (inner request noreply)
    ∃ u, u.contexts = { w.current with inRequest := true } :: w.contexts ∧
      u.program = w.program ∧ u.spans = w.spans ∧
      result (layer.send inner request noreply) w = (result traced u).1 ∧
      after (layer.send inner request noreply) w = (after traced u).detach := by
  intro source traced
  let marked := w.attach { w.current with inRequest := true }
  obtain ⟨hrendered, hcontexts, hprogram, hspans⟩ := render_leaves request marked
  have hmarked : result (layer.send inner request noreply) w =
        result (layer.sendTraced inner request noreply) marked ∧
      after (layer.send inner request noreply) w =
        (after (layer.sendTraced inner request noreply) marked).detach := by
    simp [send, hw, marked]
  refine ⟨after (render request) marked, hcontexts, hprogram, hspans, ?_, ?_⟩
  · simp [hmarked.1, sendTraced, hrendered, hrole, traced, source]
  · simp [hmarked.2, sendTraced, hrendered, hrole, traced, source]

end Layer

end QueryTrace
