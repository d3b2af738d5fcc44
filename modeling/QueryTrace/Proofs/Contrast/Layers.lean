import QueryTrace.Layer.Run
import QueryTrace.Proofs.Contrast.Outermost
import QueryTrace.Proofs.Contrast.Parallel

/-!
# Layers side by side

Two managers are alike if they are equal, or differ in telemetry alone: in their provider and in the
four settings of what is recorded. Whatever they do around parallel calls is parallel, and it leaves
the same chains and the same marks behind: a span that is not recorded, or an attribute that is left
out, changes nothing that a program can tell.
-/

namespace QueryTrace

variable {σ ν α β γ : Type} {C : Comparison σ ν}

/-! ## Managers that are alike -/

/-- The configurations name the same database and server, and name spans and paths alike. -/
structure Config.Like (config config' : Config) : Prop where
  database : config.database = config'.database
  serverAddress : config.serverAddress = config'.serverAddress
  serverPort : config.serverPort = config'.serverPort
  spanLead : config.spanLead = config'.spanLead
  pathRoot : config.pathRoot = config'.pathRoot

theorem Config.Like.refl (config : Config) : config.Like config := ⟨rfl, rfl, rfl, rfl, rfl⟩

theorem Config.Like.spanName {config config' : Config} (h : config.Like config') (path : String) :
    config.spanName path = config'.spanName path := by
  rw [Config.spanName, Config.spanName, h.spanLead]

/-- The managers are equal, unless telemetry differs: then their providers may differ, and what
their configurations say about recording. -/
structure Manager.Like (k : Contrast) (m m' : Manager) : Prop where
  config : m.config.Like m'.config
  same : k.Fixes m m'

theorem Manager.Like.refl (k : Contrast) (m : Manager) : m.Like k m := ⟨.refl _, .refl k m⟩

/-- The results are related, or the same error. -/
inductive Settled (R : α → γ → Prop) : Except String α → Except String γ → Prop
  | ok {a : α} {c : γ} : R a c → Settled R (.ok a) (.ok c)
  | error (message : String) : Settled R (.error message) (.error message)

theorem Settled.of_eq {result result' : Except String α} (h : result = result') :
    Settled Eq result result' := by
  obtain rfl := h
  cases result with
  | ok a => exact .ok rfl
  | error message => exact .error message

theorem Settled.eq {result result' : Except String α} (h : Settled Eq result result') :
    result = result' := by
  cases h with
  | ok h => rw [h]
  | error message => rfl

/-! ## The manager -/

namespace Manager

variable {R : α → γ → Prop} {m m' : Manager} (hm : m.Like C.contrast m') {span span' : SpanRef}
  {call : Action σ ν (Except String α)} {other : Action σ ν (Except String γ)}

/-- The results are related, and the sources that come back are the same. -/
abbrev Called (R : α → γ → Prop) (x : Except String α × Source) (y : Except String γ × Source) :
    Prop :=
  Settled R x.1 y.1 ∧ x.2 = y.2

theorem mute_noteDuration (hC : C.contrast = .telemetry) (m : Manager) (span : SpanRef)
    (started : Nat) : Mute C (m.noteDuration span started) := by
  refine .bind .get fun w => ?_
  split
  · refine .bind (.annotate hC ..) fun _ => ?_
    split
    · exact .bind (.annotate hC ..) fun _ => .log ..
    · exact .pure _
  · exact .pure _

theorem mute_endStale (hC : C.contrast = .telemetry) (span : SpanRef) :
    Mute C (endStale span) := by
  refine .bind .get fun w => ?_
  split
  · exact .bind (.log ..) fun _ => .finish hC span
  · exact .pure _

theorem endStale_parallel (hspan : C.contrast.Fixes span span') :
    Parallel C (fun _ _ => True) (endStale span) (endStale span') := by
  cases hC : C.contrast with
  | telemetry => exact .of_mute (mute_endStale hC span) (mute_endStale hC span')
  | inside =>
    obtain rfl := hspan hC
    refine .bind_get fun w v hsame => ?_
    rw [hsame.isRecording hC]
    split
    · exact .bind (.log ..) fun _ _ _ => .finish hspan
    · exact .pure trivial

theorem noteFailure_parallel (hspan : C.contrast.Fixes span span') {result : Except String α}
    {result' : Except String γ} (h : Settled R result result') :
    Parallel C (Settled R) (noteFailure span result) (noteFailure span' result') := by
  cases h with
  | ok h => exact .pure (.ok h)
  | error message =>
    exact .bind (.log ..) fun _ _ _ => .bind (.fail hspan message) fun _ _ _ =>
      .pure (.error message)

/-- Behind the call its failure is noted, and its result given back. -/
theorem noted_parallel (hspan : C.contrast.Fixes span span')
    (hcall : Parallel C (Settled R) call other) (source : Source) : Parallel C (Called R)
      (do return (← noteFailure span (← call), source))
      (do return (← noteFailure span' (← other), source)) :=
  .bind hcall fun _ _ hresult => .bind (noteFailure_parallel hspan hresult) fun _ _ hresult =>
    .pure ⟨hresult, rfl⟩

theorem runContinuation_parallel (hspan : C.contrast.Fixes span span')
    (hcall : Parallel C (Settled R) call other) (mode : Mode) (source : Source) :
    Parallel C (Called R) (runContinuation span mode source call)
      (runContinuation span' mode source other) :=
  .bind (.log ..) fun _ _ _ => .bind (.annotate hspan (.refl _ _)) fun _ _ _ =>
    noted_parallel hspan hcall source

theorem runStray_parallel (m m' : Manager) (hcall : Parallel C (Settled R) call other)
    (source : Source) : Parallel C (Called R) (m.runStray source call) (m'.runStray source other) :=
  .bind (.log ..) fun _ _ _ => .bind hcall fun _ _ hresult => .pure ⟨hresult, rfl⟩

include hm

theorem noteDuration_parallel (hspan : C.contrast.Fixes span span') (started : Nat) :
    Parallel C (fun _ _ => True) (m.noteDuration span started)
      (m'.noteDuration span' started) := by
  cases hC : C.contrast with
  | telemetry =>
    exact .of_mute (mute_noteDuration hC m span started) (mute_noteDuration hC m' span' started)
  | inside =>
    obtain rfl := hspan hC
    obtain rfl := hm.same hC
    refine .bind_get fun w v hsame => ?_
    rw [hsame.isRecording hC, hsame.clock]
    split
    · refine .bind (.annotate hspan (.refl _ _)) fun _ _ _ => ?_
      split
      · exact .bind (.annotate hspan (.refl _ _)) fun _ _ _ => .log ..
      · exact .pure trivial
    · exact .pure trivial

theorem spanName_like (source : Source) : source.spanName m.config = source.spanName m'.config := by
  cases source with
  | request query summary => rfl
  | chain calls => exact hm.config.spanName calls.path

theorem startIn_parallel {c c' : Context} (hc : c.Like C.contrast c') (name : String)
    (mode : Mode) : Parallel C (Context.Like C.contrast) (m.startIn c name mode)
      (m'.startIn c' name mode) := by
  refine ⟨fun w v hsame => ?_⟩
  obtain ⟨hspan, hsame'⟩ :=
    hsame.startSpan (hm.same.map Manager.provider) .tracing name hc.span
  exact ⟨⟨hspan, rfl, hc.inRequest⟩, hsame'⟩

/-- A chain is spent alike, whether or not the span records it. -/
theorem describe_parallel (hspan : C.contrast.Fixes span span') (source : Source) :
    Parallel C Eq (m.describe span source) (m'.describe span' source) :=
  .bind (.annotate hspan (hm.same.map fun m => attrs m.config source)) fun _ _ _ => .pure rfl

theorem runCovered_parallel (hspan : C.contrast.Fixes span span')
    (hcall : Parallel C (Settled R) call other) (mode : Mode) (source : Source) :
    Parallel C (Called R) (m.runCovered span mode source call)
      (m'.runCovered span' mode source other) := by
  refine .bind (.log ..) fun _ _ _ => ?_
  dsimp only
  split
  · exact noted_parallel hspan hcall source
  · refine .bind (describe_parallel hm hspan source) fun spent _ hspent => ?_
    obtain rfl := hspent
    exact noted_parallel hspan hcall spent

theorem runInSpan_parallel {c c' : Context} (hc : c.Like C.contrast c')
    (hcall : Parallel C (Settled R) call other) (source : Source) :
    Parallel C (Called R) (m.runInSpan c source call) (m'.runInSpan c' source other) := by
  unfold runInSpan
  rw [spanName_like hm source]
  refine .bind (.log ..) fun _ _ _ => ?_
  refine .bind (startIn_parallel hm hc ..) fun inner inner' hinner => ?_
  refine .bind (describe_parallel hm hinner.span source) fun spent _ hspent => ?_
  obtain rfl := hspent
  refine .bind_get fun w v hsame => ?_
  rw [hsame.clock]
  refine .bind (hcall.within hinner) fun result result' hresult => ?_
  refine .bind (noteDuration_parallel hm hinner.span _) fun _ _ _ => ?_
  refine .bind (noteFailure_parallel hinner.span hresult) fun _ _ hresult => ?_
  exact .bind (.finish hinner.span) fun _ _ _ => .pure ⟨hresult, rfl⟩

/-- Parallel calls stay parallel in every way to run them for a span. -/
theorem trace_parallel (hcall : Parallel C (Settled R) call other) (source : Source) (role : Role) :
    Parallel C (Called R) (m.trace source role call) (m'.trace source role other) := by
  refine .bind_current fun c c' hc => ?_
  obtain ⟨span, active, inRequest⟩ := c
  obtain ⟨span', active', inRequest'⟩ := c'
  obtain ⟨hspan, hactive, hinRequest⟩ := id hc
  dsimp only at hspan hactive hinRequest
  subst hactive hinRequest
  -- The marks are the same on both sides, so both calls are run in the same way.
  cases role with
  | continuation =>
    cases active with
    | none => exact runStray_parallel m m' hcall source
    | some mode => exact runContinuation_parallel hspan hcall mode source
  | newQuery =>
    have hcovered (mode : Mode) : Parallel C (Called R)
        (if source.mode = .request then m.runCovered span mode source call
          else m.runInSpan ⟨span, active, inRequest⟩ source call)
        (if source.mode = .request then m'.runCovered span' mode source other
          else m'.runInSpan ⟨span', active, inRequest⟩ source other) := by
      split
      · exact runCovered_parallel hm hspan hcall mode source
      · exact runInSpan_parallel hm hc hcall source
    cases active with
    | none => exact runInSpan_parallel hm hc hcall source
    | some mode =>
      cases mode with
      | request =>
        exact .bind (endStale_parallel hspan) fun _ _ _ => runInSpan_parallel hm hc hcall source
      | chain => exact hcovered .chain
      | deferred => exact hcovered .deferred

end Manager

/-! ## Requests -/

/-- The layers have managers that are alike, and read requests alike. -/
structure Layer.Like (k : Contrast) (layer layer' : Layer) : Prop where
  manager : layer.manager.Like k layer'.manager
  classifier : layer.classifier = layer'.classifier

theorem Layer.Like.refl (k : Contrast) (layer : Layer) : layer.Like k layer := ⟨.refl _ _, rfl⟩

/-- Layers around a connection. What is inside the outermost one may differ, or telemetry may. -/
def Layer.Around : Contrast → List Layer → List Layer → Prop
  | .inside, layers, layers' => layers.head? = layers'.head?
  | .telemetry, layers, layers' => List.Forall₂ (Layer.Like .telemetry) layers layers'

theorem Layer.Like.eq {layer layer' : Layer} (h : layer.Like .inside layer') : layer = layer' := by
  obtain ⟨manager, classifier⟩ := layer
  obtain ⟨manager', classifier'⟩ := layer'
  obtain rfl : manager = manager' := h.manager.same.eq
  obtain rfl : classifier = classifier' := h.classifier
  rfl

namespace Layer

variable {k : Contrast} {layers layers' : List Layer}

theorem around_of_forall (h : List.Forall₂ (Layer.Like k) layers layers') :
    Around k layers layers' := by
  cases k with
  | telemetry => exact h
  | inside =>
    cases h with
    | nil => rfl
    | cons hlayer _ => exact congrArg some hlayer.eq

/-- There are layers on both sides or on none. -/
theorem Around.isEmpty (h : Around k layers layers') : layers.isEmpty = layers'.isEmpty := by
  cases k with
  | telemetry => cases h <;> rfl
  | inside =>
    have hhead : layers.head? = layers'.head? := h
    cases layers <;> cases layers' <;> simp_all

theorem Around.take_one (h : Around .inside layers layers') : layers.take 1 = layers'.take 1 := by
  rw [List.take_one, List.take_one, show layers.head? = layers'.head? from h]

theorem mute_render (request : Request) : Mute C (render request) := by
  unfold render
  dsimp only
  split
  · exact .bind (.log ..) fun _ => .pure _
  · exact .pure _

section Requests

variable {layer layer' : Layer} {base base' : Send σ ν} {request : Request} {noreply : Bool}

theorem sendTraced_parallel (hlayer : layer.Like C.contrast layer')
    (h : Parallel C Eq (base request noreply) (base' request noreply)) : Parallel C Eq
      (layer.sendTraced base request noreply) (layer'.sendTraced base' request noreply) := by
  have hresult (w : World σ ν) : result (render request) w = request.rendered := by
    cases h : request.serialize <;> simp [render, h]
  have hrender : Parallel C Eq (render request) (render request) := by
    refine ⟨fun w v hsame => ⟨by rw [hresult, hresult], ?_⟩⟩
    exact hsame.of_silent ((mute_render request).silent w) ((mute_render request).silent v)
  refine .bind hrender fun rendered _ hrendered => ?_
  obtain rfl := hrendered
  dsimp only
  rw [hlayer.classifier]
  split
  · exact .bind (.log ..) fun _ _ _ => h
  · have hcall := h.mono fun _ _ => Settled.of_eq
    exact .bind (Manager.trace_parallel hlayer.manager hcall _ _) fun _ _ hresult =>
      .pure hresult.1.eq

theorem send_parallel (hlayer : layer.Like C.contrast layer')
    (h : Parallel C Eq (base request noreply) (base' request noreply)) : Parallel C Eq
      (layer.send base request noreply) (layer'.send base' request noreply) := by
  refine .bind_current fun c c' hc => ?_
  have hmarked : Context.Like C.contrast { c with inRequest := true }
      { c' with inRequest := true } := ⟨hc.span, hc.active, rfl⟩
  rw [hc.inRequest]
  split
  · exact h
  · exact (sendTraced_parallel hlayer h).within hmarked

/-- A request through layers is parallel if it is parallel without the layers. -/
theorem sendThrough_parallel (hlayers : Around C.contrast layers layers')
    (h : Parallel C Eq (base request noreply) (base' request noreply)) : Parallel C Eq
      (sendThrough layers base request noreply) (sendThrough layers' base' request noreply) := by
  cases hC : C.contrast with
  | inside =>
    rw [hC] at hlayers
    cases layers with
    | nil =>
      rw [List.head?_eq_none_iff.mp (Eq.symm hlayers)]
      exact h
    | cons layer rest =>
      obtain ⟨rest', rfl⟩ := List.head?_eq_some_iff.mp (Eq.symm hlayers)
      -- The layers inside may be any on either side: they do nothing.
      rw [sendThrough_cons, sendThrough_cons]
      exact send_parallel (.refl _ _) h
  | telemetry =>
    rw [hC] at hlayers
    induction hlayers with
    | nil => exact h
    | cons hlayer _ ih => exact send_parallel (hC ▸ hlayer) ih

end Requests

section Reconnecting

variable {R : α → γ → Prop} {base : Action σ ν (Except String α)}
  {base' : Action σ ν (Except String γ)}

theorem reconnect_silent (inner : Action σ ν (Except String α)) (w : World σ ν) :
    result (reconnect inner) w = result inner w ∧
      (after inner w).Silent C (after (reconnect inner) w) := by
  cases h : result inner w with
  | ok a =>
    have hafter : after (reconnect inner) w = (after inner w).log .debug
        "reconnected, wrapping the new connection" [] := by
      simp [reconnect, h]
    exact ⟨by simp [reconnect, h], hafter ▸ World.silent_log ..⟩
  | error message =>
    have hafter : after (reconnect inner) w = after inner w := by simp [reconnect, h]
    exact ⟨by simp [reconnect, h], hafter ▸ .refl _⟩

/-- Layers add nothing but log events to opening a connection again. -/
theorem reconnectThrough_silent (layers : List Layer) (base : Action σ ν (Except String α))
    (w : World σ ν) : result (reconnectThrough layers base) w = result base w ∧
      (after base w).Silent C (after (reconnectThrough layers base) w) := by
  induction layers with
  | nil => exact ⟨rfl, .refl _⟩
  | cons layer layers ih =>
    obtain ⟨hresult, hsilent⟩ := reconnect_silent (reconnectThrough layers base) w
    exact ⟨hresult.trans ih.1, ih.2.trans hsilent⟩

theorem reconnectThrough_parallel (h : Parallel C (Settled R) base base')
    (layers layers' : List Layer) : Parallel C (Settled R) (reconnectThrough layers base)
      (reconnectThrough layers' base') := by
  refine ⟨fun w v hsame => ?_⟩
  obtain ⟨hR, hsame'⟩ := h.parallel w v hsame
  obtain ⟨hresult, hsilent⟩ := reconnectThrough_silent layers base w
  obtain ⟨hresult', hsilent'⟩ := reconnectThrough_silent layers' base' v
  rw [hresult, hresult']
  exact ⟨hR, hsame'.of_silent hsilent hsilent'⟩

end Reconnecting

end Layer

end QueryTrace
