import QueryTrace.Proofs.Chains.Nodes
import QueryTrace.Proofs.Spans.Requests
import QueryTrace.Proofs.Transparency.Layers

/-!
# A run through several layers

Each layer around a node opens a span for a run of the node, also inside the span of another layer:
a chain that is run while a chain is active is a new query. So the spans of a run stand inside one
another, one for each layer (`QueryLayer.nests_runThrough`).
-/

namespace QueryTrace

variable {ι σ ν α β κ : Type}

/-! ## Spans inside one another -/

/-- Spans of these names start and end, each inside the one before. -/
inductive Nest : Nat → Option SpanId → List String → List (Entry ν) → Prop
  | nil {first : Nat} {parent : Option SpanId} : Nest first parent [] []
  | cons {first : Nat} {parent : Option SpanId} {name : String} {names : List String}
    {events : List (Entry ν)} (attrs : List Attr) (failure : Option String) :
    Nest (first + 1) (some (.recorded first)) names events →
    Nest first parent (name :: names) (.started first name parent .tracing ::
      (events ++ [.ended first name attrs failure]))

/-- On the way from one world to the other spans of these names have started and ended, each inside
the one before. All other spans stand where they stood. -/
structure World.Nests (w v : World σ ν) (names : List String) (parent : Option SpanId) : Prop where
  contexts : v.contexts = w.contexts
  events : ∃ events, Nest w.spans.length parent names events ∧
    v.spanEvents = w.spanEvents ++ events
  stages : v.stages = w.stages ++ names.map fun name => (name, .tracing, true)

namespace World

variable {w v u : World σ ν} {names : List String} {parent : Option SpanId}

/-- There is one span for each name. -/
theorem Nests.length_spans (h : w.Nests v names parent) :
    v.spans.length = w.spans.length + names.length := by
  rw [← length_stages, h.stages, List.length_append, length_stages, List.length_map]

theorem Quiet.nests (h : w.Quiet v) : w.Nests v [] parent :=
  ⟨h.contexts, ⟨[], .nil, by rw [h.events, List.append_nil]⟩, by simp [h.stages]⟩

theorem Nests.of_quiet_before (h : w.Quiet v) (h' : v.Nests u names parent) :
    w.Nests u names parent := by
  obtain ⟨events, hnest, hevents⟩ := h'.events
  rw [h.length_spans] at hnest
  refine ⟨h'.contexts.trans h.contexts, ⟨events, hnest, ?_⟩, ?_⟩
  · rw [hevents, h.events]
  · rw [h'.stages, h.stages]

theorem Nests.of_quiet_after (h : w.Nests v names parent) (h' : v.Quiet u) :
    w.Nests u names parent := by
  obtain ⟨events, hnest, hevents⟩ := h.events
  refine ⟨h'.contexts.trans h.contexts, ⟨events, hnest, ?_⟩, ?_⟩
  · rw [h'.events, hevents]
  · rw [h'.stages, h.stages]

/-- A span is started, others start and end inside it, and the span ends. -/
theorem Nests.of_between {name : String} {outer : SpanRef}
    (h : (w.startSpan .recording .tracing name outer).2.Nests v names w.nextSpan.identity) :
    w.Nests (v.finish w.nextSpan) (name :: names) outer.identity := by
  obtain ⟨events, hnest, hevents⟩ := h.events
  have hlength : (w.startSpan .recording .tracing name outer).2.spans.length =
      w.spans.length + 1 := by simp [World.startSpan]
  have hstages : v.stages = w.stages ++
      (name, .tracing, false) :: names.map fun name => (name, .tracing, true) := by
    rw [h.stages, stages_startSpan, List.append_assoc]
    rfl
  have hopen : v.stages[w.spans.length]? = some (name, .tracing, false) := by
    rw [hstages, ← length_stages]
    simp
  rcases v.finish_cases w.nextSpan with ⟨-, hclosed⟩ |
    ⟨n, name', scope, attrs, failure, hn, hget, hset, hended⟩
  · exact absurd hopen (hclosed _ _ _ rfl)
  · obtain rfl : w.spans.length = n := by simpa [nextSpan] using hn
    rw [hopen] at hget
    obtain ⟨rfl, rfl⟩ : name = name' ∧ Scope.tracing = scope := by simpa using hget
    rw [hlength] at hnest
    refine ⟨?_, ⟨_, .cons attrs failure hnest, ?_⟩, ?_⟩
    · rw [contexts_finish, h.contexts, contexts_startSpan]
    · rw [hended, hevents, spanEvents_startSpan]
      simp
    · rw [hset, hstages, ← length_stages]
      simp

end World

/-! ## Actions that open spans inside one another -/

/-- In the given context the action starts and ends spans of these names, each inside the one
before, and the first one inside the given parent. -/
structure NestsIn (c : Context) (parent : Option SpanId) (names : List String)
    (act : Action σ ν α) : Prop where
  nests : ∀ w : World σ ν, w.current = c → w.Nests (after act w) names parent

namespace NestsIn

variable {c : Context} {parent : Option SpanId} {names : List String} {act : Action σ ν α}
  {f : α → Action σ ν β}

theorem bind_quiet (h : NestsIn c parent names act) (hf : ∀ a, QuietIn c (f a)) :
    NestsIn c parent names (act >>= f) := by
  refine ⟨fun w hw => ?_⟩
  have hact := h.nests w hw
  have hcurrent : (after act w).current = c := by
    rw [World.current, hact.contexts, ← hw]
    rfl
  exact hact.of_quiet_after ((hf _).quiet _ hcurrent)

theorem quiet_bind (h : QuietIn c act) (hf : ∀ a, NestsIn c parent names (f a)) :
    NestsIn c parent names (act >>= f) := by
  refine ⟨fun w hw => ?_⟩
  have hact := h.quiet w hw
  exact .of_quiet_before hact ((hf _).nests _ (hact.current.trans hw))

theorem within {inner : Context} (h : NestsIn inner parent names act) :
    NestsIn c parent names (within inner act) := by
  refine ⟨fun w _ => ?_⟩
  have hact := h.nests (w.attach inner) rfl
  refine ⟨?_, hact.events, hact.stages⟩
  rw [after_within, World.contexts_detach, hact.contexts]
  rfl

end NestsIn

/-! ## Runs -/

namespace Manager

/-- A call in a span of its own opens this span and, inside it, the spans of the call. -/
theorem nests_runInSpan (m : Manager) (hm : m.provider = .recording) (source : Source)
    {call : Action σ ν (Except String α)} {names : List String} (w : World σ ν) (h : NestsIn
      { w.current with span := w.nextSpan, active := some source.mode } w.nextSpan.identity names
      call) :
    w.Nests (after (m.runInSpan w.current source call) w) (source.spanName m.config :: names)
      w.current.span.identity := by
  let logged := w.log .debug "starting span for query"
    [("span", .text (source.spanName m.config))]
  have hlog : w.Quiet logged := w.quiet_log ..
  rw [after_runInSpan, hm]
  refine .of_quiet_before hlog ?_
  rw [← hlog.nextSpan] at h
  have hinside (c : Context) : NestsIn c logged.nextSpan.identity names
      (m.inSpan { w.current with span := logged.nextSpan, active := some source.mode } source
        call) :=
    .quiet_bind (quiet_describe ..) fun _ => .quiet_bind ⟨fun w _ => .refl w⟩ fun _ =>
      .bind_quiet (.within h) fun _ => .bind (quiet_noteDuration ..) fun _ =>
        .bind (quiet_noteFailure ..) fun _ => .pure _
  exact .of_between ((hinside _).nests _ rfl)

end Manager

namespace QueryLayer

/-- The name of the span of a run. -/
def runName (layer : QueryLayer) (options : Args) : String :=
  layer.manager.config.spanName (layer.runCalls options).path

/-- The run of a chain opens a span wherever no request is active. -/
theorem after_run (layer : QueryLayer) (options : Args)
    (inner : Action σ ν (Except String (Outcome κ))) {w : World σ ν}
    (hw : w.current.active ≠ some .request) :
    after (layer.run options inner) w =
      after (layer.manager.runInSpan w.current (.chain (layer.runCalls options)) inner) w := by
  simp only [run, Manager.trace, after_bind, after_pure, after_current, result_current]
  cases hactive : w.current.active with
  | none => rfl
  | some mode =>
    cases mode with
    | request => exact absurd hactive hw
    | chain => rfl
    | deferred => rfl

section Nests

variable {options : Args} {base : Action σ ν (Except String (Outcome κ))}

/-- One layer, and what is inside it. -/
theorem nests_run {layer : QueryLayer} (hlayer : layer.manager.provider = .recording)
    {inner : Action σ ν (Except String (Outcome κ))} {names : List String} {w : World σ ν}
    (hw : w.current.active ≠ some .request) (h : NestsIn
      { w.current with span := w.nextSpan, active := some .chain } w.nextSpan.identity names
      inner) :
    w.Nests (after (layer.run options inner) w) (layer.runName options :: names)
      w.current.span.identity := by
  rw [layer.after_run options inner hw]
  exact layer.manager.nests_runInSpan hlayer (.chain (layer.runCalls options)) w h

/-- Inside the span of a chain each further layer opens one more span. -/
theorem nestsIn_runThrough {layers : List QueryLayer}
    (hlayers : ∀ layer ∈ layers, layer.manager.provider = .recording) {c : Context}
    (hc : c.active = some .chain) (h : ∀ span, QuietIn { c with span } base) :
    NestsIn c c.span.identity (layers.map (·.runName options))
      (runThrough options base layers) := by
  induction layers generalizing c with
  | nil => exact ⟨fun w hw => ((h c.span).bind fun _ => .pure _).quiet w hw |>.nests⟩
  | cons layer layers ih =>
    obtain ⟨hlayer, hrest⟩ := List.forall_mem_cons.mp hlayers
    refine .bind_quiet ⟨fun w hw => ?_⟩ fun _ => .pure _
    subst hw
    refine nests_run hlayer (by simp [hc]) (ih hrest rfl fun span => ?_)
    rw [← hc]
    exact h span

/-- A run outside of any query opens one span for each layer, if what is inside the innermost layer
opens none. -/
theorem nests_runThrough {layers : List QueryLayer} (hne : layers ≠ [])
    (hlayers : ∀ layer ∈ layers, layer.manager.provider = .recording) {w : World σ ν}
    (hw : w.current.active = none)
    (h : ∀ span, QuietIn { w.current with span, active := some .chain } base) :
    w.Nests (after (runThrough options base layers) w) (layers.map (·.runName options))
      w.current.span.identity := by
  cases layers with
  | nil => exact absurd rfl hne
  | cons layer layers =>
    obtain ⟨hlayer, hrest⟩ := List.forall_mem_cons.mp hlayers
    exact nests_run hlayer (by simp [hw]) (nestsIn_runThrough hrest rfl h)

end Nests

/-! ## Streams of runs -/

/-- The layer around a stream that a run gives. -/
def stream (layer : QueryLayer) (options : Args) : RowsLayer :=
  .ofOrigin layer.manager (layer.runCalls options).path

/-- A change of a stream does not make one. -/
theorem stream_of_map {μ : Type} {f : κ → μ} {r : Except String (Outcome κ)} {x : μ}
    (h : r.map (·.map f) = .ok (.stream x)) : ∃ s, r = .ok (.stream s) ∧ f s = x := by
  rcases r with message | value | s
  · cases h
  · cases h
  · exact ⟨s, rfl, by simpa [Except.map, Outcome.map] using h⟩

/-- A run gives what is inside it gives, with a layer around a stream. -/
theorem exists_result_run (layer : QueryLayer) (options : Args)
    (inner : Action σ ν (Except String (Outcome κ))) (w : World σ ν) :
    ∃ u, result (layer.run options inner) w =
      (result inner u).map (·.map fun s => (layer.stream options, s)) := by
  -- An action that gives nothing is matched by what holds of all results of another one.
  have hinner : Matches (fun _ _ => True) (fun out _ => ∃ u, out = result inner u) inner
      (pure () : Action σ ν Unit) := fun u _ _ => ⟨⟨u, rfl⟩, trivial⟩
  obtain ⟨u, hu⟩ := (layer.manager.trace_matches (.chain (layer.runCalls options)) .newQuery
    hinner w w trivial).1
  refine ⟨u, ?_⟩
  rw [← hu]
  rfl

/-- The stream that a run gives has one layer for each layer of the run. -/
theorem layers_of_stream {options : Args} {base : Action σ ν (Except String (Outcome κ))}
    {layers : List QueryLayer} {w : World σ ν} {rows : List RowsLayer} {s : κ}
    (h : result (runThrough options base layers) w = .ok (.stream (rows, s))) :
    rows = layers.map (·.stream options) := by
  induction layers generalizing w rows with
  | nil =>
    obtain ⟨_, -, hs⟩ := stream_of_map (r := result base w) (f := fun s => ([], s)) h
    cases hs
    rfl
  | cons layer layers ih =>
    obtain ⟨u, hu⟩ := layer.exists_result_run options (runThrough options base layers) w
    obtain ⟨⟨outer, inner, s'⟩, hrun, hrows⟩ := stream_of_map
      (r := result (layer.run options (runThrough options base layers)) w)
      (f := fun x : RowsLayer × List RowsLayer × κ => (x.1 :: x.2.1, x.2.2)) h
    rw [hu] at hrun
    obtain ⟨x, hinner, hx⟩ := stream_of_map hrun
    cases hrows
    cases hx
    rw [List.map_cons, ← ih hinner]

end QueryLayer

end QueryTrace
