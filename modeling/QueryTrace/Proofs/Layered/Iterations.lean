import QueryTrace.Proofs.Layered.Runs
import QueryTrace.Proofs.Rows.Iteration

/-!
# An iteration through several layers

A stream that was run through several layers has a layer for each of them, and each hands every call
on to the next one. So the layers go through an iteration in step: the first fetch starts one span
for each, one inside the other, and no other call starts any (`RowsLayer.starts_of_whole`).
-/

namespace QueryTrace

variable {σ ν κ α : Type}

/-! ## Starts inside one another -/

/-- The entry is the start of a span. -/
def Entry.isStart : Entry ν → Bool
  | .started .. => true
  | _ => false

/-- The starts of spans of these names, each inside the one before. -/
def nestedStarts : Nat → Option SpanId → List String → List (Entry ν)
  | _, _, [] => []
  | first, parent, name :: names =>
    .started first name parent .tracing :: nestedStarts (first + 1) (some (.recorded first)) names

theorem filter_nestedStarts (first : Nat) (parent : Option SpanId) (names : List String) :
    (nestedStarts first parent names : List (Entry ν)).filter Entry.isStart =
      nestedStarts first parent names := by
  induction names generalizing first parent with
  | nil => rfl
  | cons name names ih => rw [nestedStarts, List.filter_cons_of_pos rfl, ih]

theorem length_nestedStarts (first : Nat) (parent : Option SpanId) (names : List String) :
    (nestedStarts first parent names : List (Entry ν)).length = names.length := by
  induction names generalizing first parent with
  | nil => rfl
  | cons name names ih => rw [nestedStarts, List.length_cons, ih, List.length_cons]

namespace World

variable {w v u : World σ ν}

/-- On the way from one world to the other spans of these names have started, each inside the one
before, the first one inside the current one, and none has ended. -/
structure Descends (w v : World σ ν) (names : List String) : Prop where
  events : v.spanEvents =
    w.spanEvents ++ nestedStarts w.spans.length w.current.span.identity names
  stages : v.stages = w.stages ++ names.map fun name => (name, .tracing, false)

theorem Calm.descends (h : w.Calm v) : w.Descends v [] :=
  ⟨by simp [h.events, nestedStarts], by simp [h.stages]⟩

theorem Descends.of_calm (h : w.Calm v) (h' : v.Descends u []) : w.Descends u [] := by
  refine ⟨?_, ?_⟩
  · rw [h'.events, h.events]
    rfl
  · rw [h'.stages, h.stages]

/-- A span is started, becomes the current one, and the others start inside it. -/
theorem Descends.of_starts {name : String} {names : List String} (h : w.Starts v name)
    (hcurrent : v.current.span.identity = some (.recorded w.spans.length))
    (h' : v.Descends u names) : w.Descends u (name :: names) := by
  have hlength : v.spans.length = w.spans.length + 1 := by
    rw [← length_stages, h.stages, List.length_append, length_stages]
    rfl
  refine ⟨?_, ?_⟩
  · rw [h'.events, h.events, hlength, hcurrent, List.append_assoc]
    rfl
  · rw [h'.stages, h.stages, List.append_assoc]
    rfl

/-- No span started on the way from one world to the other. -/
def StartsNone (w v : World σ ν) : Prop :=
  ∃ events, v.spanEvents = w.spanEvents ++ events ∧ events.filter Entry.isStart = []

theorem Calm.startsNone (h : w.Calm v) : w.StartsNone v :=
  ⟨[], by rw [h.events, List.append_nil], rfl⟩

theorem Closes.startsNone {span : SpanRef} (h : w.Closes v span) : w.StartsNone v := by
  unfold Closes at h
  split at h
  · obtain ⟨n, name, attrs, failure, -, hevents⟩ := h
    exact ⟨_, hevents, rfl⟩
  · exact ⟨[], by rw [h, List.append_nil], rfl⟩

theorem StartsNone.trans (h : w.StartsNone v) (h' : v.StartsNone u) : w.StartsNone u := by
  obtain ⟨events, hevents, hstarts⟩ := h
  obtain ⟨events', hevents', hstarts'⟩ := h'
  exact ⟨events ++ events', by rw [hevents', hevents, List.append_assoc],
    by rw [List.filter_append, hstarts, hstarts', List.append_nil]⟩

theorem StartsNone.since (h : w.StartsNone v) : (w.since v).filter Entry.isStart = [] := by
  obtain ⟨events, hevents, hstarts⟩ := h
  rwa [since_of_eq hevents]

end World

/-! ## Phases -/

/-- Where the layers of a stream stand. -/
inductive Phase where
  /-- There was no call yet. -/
  | fresh
  /-- The spans are open. -/
  | underway
  /-- The iteration is over. -/
  | done
  deriving DecidableEq

namespace Phase

/-- The phase after a call. -/
def after : Phase → StreamCall → Phase
  | .done, _ => .done
  | phase, .elsewhere => phase
  | _, .row => .underway
  | _, _ => .done

/-- The names of the spans that a fetch starts, of those of all layers. -/
def opening (phase : Phase) (names : List String) : List String :=
  if phase = .fresh then names else []

theorem after_ne_fresh (phase : Phase) {call : StreamCall} (h : call ≠ .elsewhere) :
    phase.after call ≠ .fresh := by
  cases phase <;> cases call <;> simp_all [after]

end Phase

namespace RowsLayer

/-- The layer stands where its phase says. -/
def In (layer : RowsLayer) : Phase → Prop
  | .fresh => layer.finished = false ∧ layer.span.state = .idle ∧ layer.calls.path = "/cursor"
  | .underway => layer.finished = false ∧ ∃ c name, layer.span.state = .active c name
  | .done => layer.finished = true

/-! ## One layer -/

section Layer

variable {layer : RowsLayer} {c : Context} {name : String}

/-- What a layer does when the stream below has answered: it starts no span, and is left in the
given phase. -/
structure Leaves (layer : RowsLayer) (phase : Phase) (back answered : World σ ν)
    (layer' : RowsLayer) : Prop where
  startsNone : back.StartsNone answered
  phase : layer'.In phase
  manager : layer'.span.manager = layer.span.manager

/-- A layer that passes a call through stays where it is. -/
theorem leaves_of_passed {phase : Phase} (h : layer.In phase) (back : World σ ν) :
    layer.Leaves phase back back layer :=
  ⟨(World.Calm.refl back).startsNone, h, rfl⟩

theorem Settles.leaves {span : SpanRef} {call : StreamCall} {back answered : World σ ν}
    {layer' : RowsLayer} (h : Settles layer span call back layer' answered)
    (hfinished : layer.finished = false) (hstate : layer.span.state = .active c name)
    {phase : Phase} (hphase : phase ≠ .done) :
    layer.Leaves (phase.after call) back answered layer' := by
  cases h with
  | goesOn hrow hcalm =>
    subst hrow
    have hunderway : phase.after .row = .underway := by
      cases phase <;> simp_all [Phase.after]
    rw [hunderway]
    exact ⟨hcalm.startsNone, ⟨hfinished, c, name, hstate⟩, rfl⟩
  | ends hend hcloses =>
    have hover : phase.after call = .done := by
      cases phase <;> cases call <;> simp_all [Phase.after, StreamCall.isEnd]
    rw [hover]
    exact ⟨hcloses.startsNone, rfl, rfl⟩

/-- A fetch with the span open. -/
theorem next_of_started (h : layer.finished = false) {w : World σ ν} {layer₁ : RowsLayer}
    (hstarted : result layer.ensureStarted w = layer₁) (hfinished : layer₁.finished = false)
    (hstate : layer₁.span.state = .active c name)
    (act : Action σ ν (Except String (Option Value) × κ)) :
    let u := (after layer.ensureStarted w).attach c
    (result (layer.next act) w).1 = result act u ∧
      Settles layer₁ c.span (.ofRow (result act u).1) (after act u)
        (result (layer.next act) w).2 (after (layer.next act) w) := by
  intro u
  have hsettles := settleRow_settles hfinished hstate (result act u).1 (after act u).detach
  simpa [next_of_unfinished h, hstarted, Deferred.inScope, hstate, u] using
    hsettles.of_calm (World.calm_detach _)

theorem close_of_started (h : layer.finished = false) (hstate : layer.span.state = .active c name)
    (act : Action σ ν (Except String Unit × κ)) (w : World σ ν) :
    let u := w.attach c
    (result (layer.close act) w).1 = result act u ∧
      Settles layer c.span .closed (after act u) (result (layer.close act) w).2
        (after (layer.close act) w) := by
  intro u
  have hsettles := settleClose_settles h hstate (result act u).1 (after act u).detach
  simpa [close_of_unfinished h, Deferred.inScope, hstate, u] using
    hsettles.of_calm (World.calm_detach _)

variable {phase : Phase} (h : layer.In phase)
include h

/-- A fetch through one layer: where the stream below is asked, and what the layer starts. -/
theorem exists_next (hm : layer.span.manager.provider = .recording)
    (act : Action σ ν (Except String (Option Value) × κ)) (w : World σ ν) :
    ∃ u, (result (layer.next act) w).1 = result act u ∧
      (∀ v names, u.Descends v (phase.opening names) →
        w.Descends v (phase.opening (layer.span.manager.iterationName :: names))) ∧
      layer.Leaves (phase.after (.ofRow (result act u).1)) (after act u)
        (after (layer.next act) w) (result (layer.next act) w).2 := by
  cases phase with
  | fresh =>
    obtain ⟨hfinished, hidle, hpath⟩ := h
    obtain ⟨hstarted, -, hstarts, -⟩ := ensureStarted_of_idle hidle hpath w
    let c := layer.span.manager.iteration w
    have hactive : (layer.started w).span.state =
        .active c layer.span.manager.iterationName := rfl
    obtain ⟨hresult, hsettles⟩ := next_of_started hfinished hstarted hfinished hactive act
    -- The span that the layer starts is current where the stream below is asked.
    have hstart : w.Starts ((after layer.ensureStarted w).attach c)
        layer.span.manager.iterationName := ⟨(hstarts hm).events, (hstarts hm).stages⟩
    have hcurrent : c.span.identity = some (.recorded w.spans.length) := by
      simp [c, Manager.iteration, hm, World.startSpan]
    have hleaves := hsettles.leaves hfinished hactive (by decide : Phase.fresh ≠ .done)
    exact ⟨_, hresult, fun v names hnames => .of_starts hstart hcurrent hnames,
      ⟨hleaves.startsNone, hleaves.phase, hleaves.manager⟩⟩
  | underway =>
    obtain ⟨hfinished, c, name, hactive⟩ := h
    have hstarted : (layer.ensureStarted : Action σ ν RowsLayer) = pure layer :=
      ensureStarted_of_active hactive
    obtain ⟨hresult, hsettles⟩ := next_of_started hfinished
      (show result layer.ensureStarted w = layer by rw [hstarted]; rfl) hfinished hactive act
    rw [hstarted] at hresult hsettles
    exact ⟨_, hresult, fun v names hnames => .of_calm (World.calm_attach w c) hnames,
      hsettles.leaves hfinished hactive (by decide)⟩
  | done =>
    refine ⟨w, ?_⟩
    rw [next_of_finished h]
    exact ⟨rfl, fun v names hnames => hnames, leaves_of_passed h _⟩

/-- A close through one layer. -/
theorem exists_close (act : Action σ ν (Except String Unit × κ)) (w : World σ ν) :
    ∃ u, (result (layer.close act) w).1 = result act u ∧ w.Calm u ∧
      layer.Leaves .done (after act u) (after (layer.close act) w)
        (result (layer.close act) w).2 := by
  cases phase with
  | fresh =>
    obtain ⟨hfinished, hidle, -⟩ := h
    obtain ⟨hresult, hafter⟩ := close_of_idle hfinished hidle act w
    refine ⟨w, by rw [hresult], .refl w, ?_⟩
    rw [hresult, hafter]
    exact ⟨(World.Calm.refl _).startsNone, rfl, rfl⟩
  | underway =>
    obtain ⟨hfinished, c, name, hactive⟩ := h
    obtain ⟨hresult, hsettles⟩ := close_of_started hfinished hactive act w
    exact ⟨_, hresult, World.calm_attach w c,
      hsettles.leaves hfinished hactive (by decide : Phase.underway ≠ .done)⟩
  | done =>
    refine ⟨w, ?_⟩
    rw [close_of_finished h]
    exact ⟨rfl, .refl w, leaves_of_passed h _⟩

end Layer

theorem drop_startsNone (layer : RowsLayer) (w : World σ ν) :
    w.StartsNone (after layer.drop w) := by
  have hfinish (v : World σ ν) : v.StartsNone (after layer.finish v) := by
    cases hfinished : layer.finished with
    | true =>
      rw [finish_of_finished hfinished]
      exact (World.Calm.refl v).startsNone
    | false =>
      cases hstate : layer.span.state with
      | active c name => exact (finish_of_active v hfinished hstate).2.startsNone
      | idle =>
        rw [(finish_of_idle v hfinished hstate).2]
        exact (World.Calm.refl v).startsNone
      | closed =>
        have hafter : after layer.finish v = v := by
          simp [finish, hfinished, Deferred.noteRows, Deferred.stop, hstate]
        rw [hafter]
        exact (World.Calm.refl v).startsNone
  have hlog := (w.quiet_log .debug "cursor dropped before exhaustion"
    [("rows", .int layer.rows.toNat)]).calm.startsNone
  unfold drop
  split
  · exact hlog.trans (hfinish _)
  · exact hfinish w

/-! ## All layers -/

/-- The layers of a stream, all in one phase, and their managers. -/
structure Together (layers : List RowsLayer) (managers : List Manager) (phase : Phase) : Prop where
  phase : ∀ layer ∈ layers, layer.In phase
  managers : layers.map (·.span.manager) = managers

/-- New layers around a stream. -/
theorem together_ofOrigins {α : Type} (f : α → Manager) (g : α → String) (xs : List α) :
    Together (xs.map fun x => .ofOrigin (f x) (g x)) (xs.map f) .fresh := by
  refine ⟨fun layer hlayer => ?_, by simp [ofOrigin]⟩
  obtain ⟨x, -, rfl⟩ := List.mem_map.mp hlayer
  exact ⟨rfl, rfl, rfl⟩

namespace Together

variable {layer : RowsLayer} {layers : List RowsLayer} {m : Manager} {managers : List Manager}
  {phase : Phase}

theorem nil (phase : Phase) : Together [] [] phase := ⟨fun _ h => absurd h List.not_mem_nil, rfl⟩

theorem cons (hlayer : layer.In phase) (hm : layer.span.manager = m)
    (h : Together layers managers phase) : Together (layer :: layers) (m :: managers) phase :=
  ⟨List.forall_mem_cons.mpr ⟨hlayer, h.phase⟩, by rw [List.map_cons, hm, h.managers]⟩

theorem cases_cons (h : Together (layer :: layers) managers phase) : ∃ rest,
    managers = layer.span.manager :: rest ∧ layer.In phase ∧ Together layers rest phase := by
  obtain ⟨hlayer, hrest⟩ := List.forall_mem_cons.mp h.phase
  exact ⟨_, h.managers.symm, hlayer, hrest, rfl⟩

end Together

/-- What all layers do when the stream below has answered. -/
structure AllLeave (managers : List Manager) (phase : Phase) (back answered : World σ ν)
    (layers : List RowsLayer) : Prop where
  startsNone : back.StartsNone answered
  together : Together layers managers phase

theorem Leaves.cons {layer layer' : RowsLayer} {layers : List RowsLayer} {managers : List Manager}
    {phase : Phase} {back between answered : World σ ν}
    (h : layer.Leaves phase between answered layer')
    (hrest : AllLeave managers phase back between layers) :
    AllLeave (layer.span.manager :: managers) phase back answered (layer' :: layers) :=
  ⟨hrest.startsNone.trans h.startsNone, .cons h.phase h.manager hrest.together⟩

section Through

variable {layers : List RowsLayer} {managers : List Manager} {phase : Phase}
  (h : Together layers managers phase)
include h

/-- A fetch through all layers. In the fresh phase each of them starts its span, inside that of the
layer around it. -/
theorem nextThrough_probed (hmanagers : ∀ m ∈ managers, m.provider = .recording)
    (fetch : Action σ ν (Except String (Option Value) × κ)) (w : World σ ν) :
    let out := result (nextThrough (probed fetch) layers) w
    w.Descends out.2.1.1 (phase.opening (managers.map (·.iterationName))) ∧
      AllLeave managers (phase.after (.ofRow out.1)) out.2.1.2
        (after (nextThrough (probed fetch) layers) w) out.2.2 := by
  induction layers generalizing managers w with
  | nil =>
    obtain rfl : [] = managers := h.managers
    have hnone : phase.opening ([] : List String) = [] := by
      unfold Phase.opening
      split <;> rfl
    refine ⟨?_, (World.Calm.refl _).startsNone, .nil _⟩
    rw [List.map_nil, hnone]
    exact (World.Calm.refl w).descends
  | cons layer layers ih =>
    obtain ⟨rest, rfl, hlayer, hrest⟩ := h.cases_cons
    obtain ⟨hm, hmanagers⟩ := List.forall_mem_cons.mp hmanagers
    obtain ⟨u, hresult, hdescends, hleaves⟩ :=
      exists_next hlayer hm (nextThrough (probed fetch) layers) w
    obtain ⟨hinner, hleave⟩ := ih hrest hmanagers u
    have hout : result (nextThrough (probed fetch) (layer :: layers)) w =
        let inner := result (nextThrough (probed fetch) layers) u
        (inner.1, inner.2.1, (result (layer.next (nextThrough (probed fetch) layers)) w).2 ::
          inner.2.2) := by
      simp only [nextThrough, result_bind, result_pure, hresult]
    rw [hout]
    exact ⟨hdescends _ _ hinner, hleaves.cons hleave⟩

theorem closeThrough_probed (inner : Action σ ν (Except String Unit × κ)) (w : World σ ν) :
    let out := result (closeThrough (probed inner) layers) w
    w.Calm out.2.1.1 ∧ AllLeave managers .done out.2.1.2
      (after (closeThrough (probed inner) layers) w) out.2.2 := by
  induction layers generalizing managers w with
  | nil =>
    obtain rfl : [] = managers := h.managers
    exact ⟨.refl w, (World.Calm.refl _).startsNone, .nil _⟩
  | cons layer layers ih =>
    obtain ⟨rest, rfl, hlayer, hrest⟩ := h.cases_cons
    obtain ⟨u, hresult, hcalm, hleaves⟩ :=
      exists_close hlayer (closeThrough (probed inner) layers) w
    obtain ⟨hinner, hleave⟩ := ih hrest u
    have hout : result (closeThrough (probed inner) (layer :: layers)) w =
        let x := result (closeThrough (probed inner) layers) u
        (x.1, x.2.1, (result (layer.close (closeThrough (probed inner) layers)) w).2 ::
          x.2.2) := by
      simp only [closeThrough, result_bind, result_pure, hresult]
    rw [hout]
    exact ⟨hcalm.trans hinner, hleaves.cons hleave⟩

end Through

/-! ## Iterations -/

/-- What a program does with a stream, through all its layers. -/
def useThrough (layers : List RowsLayer) :
    StreamUse σ ν κ → Action σ ν (Episode σ ν × List RowsLayer)
  | .next fetch => do
    let asked ← get
    let (row, (inward, back), layers) ← nextThrough (probed fetch) layers
    return (⟨.ofRow row, asked, inward, back, ← get⟩, layers)
  | .close inner => do
    let asked ← get
    let (_, (inward, back), layers) ← closeThrough (probed inner) layers
    return (⟨.closed, asked, inward, back, ← get⟩, layers)
  | .elsewhere act => do
    let asked ← get
    act
    let answered ← get
    return (⟨.elsewhere, asked, asked, answered, answered⟩, layers)

def playThrough (layers : List RowsLayer) :
    List (StreamUse σ ν κ) → Action σ ν (List (Episode σ ν) × List RowsLayer)
  | [] => return ([], layers)
  | u :: uses => do
    let (episode, layers) ← useThrough layers u
    let (episodes, layers) ← playThrough layers uses
    return (episode :: episodes, layers)

/-- The last call on a stream goes to all its layers. -/
def giveUpThrough (layers : List RowsLayer) : Action σ ν (Episode σ ν) := do
  let asked ← get
  layers.forM drop
  return ⟨.dropped, asked, asked, asked, ← get⟩

/-- What layers do with a stream, until it is given up. -/
def wholeThrough (layers : List RowsLayer) (uses : List (StreamUse σ ν κ)) :
    Action σ ν (List (Episode σ ν)) := do
  let (episodes, layers) ← playThrough layers uses
  return episodes ++ [← giveUpThrough layers]

/-- The starts of spans that are the layers' own work. -/
def layerStarts (episodes : List (Episode σ ν)) : List (Entry ν) :=
  (told episodes).filter Entry.isStart

/-- The starts of one span for each layer by the first call, if that is a fetch. -/
def openingStarts (names : List String) (episodes : List (Episode σ ν)) : List (Entry ν) :=
  match firstCall episodes with
  | some first =>
    if first.call.isFetch then
      nestedStarts first.asked.spans.length first.asked.current.span.identity names
    else []
  | none => []

theorem layerStarts_cons (e : Episode σ ν) (episodes : List (Episode σ ν)) :
    layerStarts (e :: episodes) = (e.asked.since e.inward).filter Entry.isStart ++
      (e.back.since e.answered).filter Entry.isStart ++ layerStarts episodes := by
  simp [layerStarts, told]

theorem openingStarts_cons_elsewhere {e : Episode σ ν} (he : e.call = .elsewhere)
    (names : List String) (episodes : List (Episode σ ν)) :
    openingStarts names (e :: episodes) = openingStarts names episodes := by
  simp [openingStarts, firstCall, he]

/-- What the layers start in one call. -/
structure Plays (managers : List Manager) (phase : Phase) (w : World σ ν) (e : Episode σ ν)
    (layers : List RowsLayer) : Prop where
  asked : e.asked = w
  /-- A fetch starts the spans that the phase leaves to be started. -/
  fetches : e.call.isFetch = true →
    w.Descends e.inward (phase.opening (managers.map (·.iterationName)))
  /-- Nothing else starts a span. -/
  startsNot : e.call.isFetch = false → w.Calm e.inward
  startsNone : e.back.StartsNone e.answered
  together : Together layers managers (phase.after e.call)

/-- What one call starts, after what has been started before. -/
theorem Plays.starts {managers : List Manager} {phase : Phase} {w : World σ ν} {e : Episode σ ν}
    {layers' : List RowsLayer} (h : Plays managers phase w e layers')
    {episodes : List (Episode σ ν)} (hrest : layerStarts episodes = if phase.after e.call = .fresh then
      openingStarts (managers.map (·.iterationName)) episodes else []) :
    layerStarts (e :: episodes) = if phase = .fresh then
      openingStarts (managers.map (·.iterationName)) (e :: episodes) else [] := by
  rw [layerStarts_cons, h.startsNone.since, List.append_nil, hrest, h.asked]
  by_cases hcall : e.call = .elsewhere
  · have hsame : phase.after .elsewhere = phase := by cases phase <;> rfl
    have hnone := (h.startsNot (by rw [hcall]; rfl)).startsNone.since
    rw [hnone, openingStarts_cons_elsewhere hcall, hcall, hsame, List.nil_append]
  · have hfirst : firstCall (e :: episodes) = some e := by simp [firstCall, hcall]
    rw [if_neg (phase.after_ne_fresh hcall), List.append_nil]
    cases hfetch : e.call.isFetch with
    | false =>
      rw [(h.startsNot hfetch).startsNone.since]
      simp [openingStarts, hfirst, hfetch]
    | true =>
      rw [since_of_eq (h.fetches hfetch).events, filter_nestedStarts]
      unfold Phase.opening
      split
      · simp [openingStarts, hfirst, hfetch, h.asked]
      · rfl

theorem drops_startsNone (layers : List RowsLayer) (w : World σ ν) :
    w.StartsNone (after (layers.forM drop) w) := by
  induction layers generalizing w with
  | nil => exact (World.Calm.refl w).startsNone
  | cons layer layers ih => exact (layer.drop_startsNone w).trans (ih _)

section Play

variable {layers : List RowsLayer} {managers : List Manager} {phase : Phase}
  (hmanagers : ∀ m ∈ managers, m.provider = .recording)
include hmanagers

/-- One call. -/
theorem useThrough_plays (h : Together layers managers phase) (u : StreamUse σ ν κ)
    (w : World σ ν) :
    let out := result (useThrough layers u) w
    Plays managers phase w out.1 out.2 := by
  cases u with
  | next fetch =>
    obtain ⟨hdescends, hleave⟩ := nextThrough_probed h hmanagers fetch w
    exact ⟨rfl, fun _ => hdescends,
      fun hno => by simp [useThrough, StreamCall.isFetch_ofRow] at hno,
      hleave.startsNone, hleave.together⟩
  | close inner =>
    obtain ⟨hcalm, hleave⟩ := closeThrough_probed h inner w
    have hover : phase.after .closed = .done := by cases phase <;> rfl
    refine ⟨rfl, fun hfetch => ?_, fun _ => hcalm, hleave.startsNone, ?_⟩
    · cases hfetch
    show Together _ managers (phase.after .closed)
    rw [hover]
    exact hleave.together
  | elsewhere act =>
    have hsame : phase.after .elsewhere = phase := by cases phase <;> rfl
    refine ⟨rfl, fun hfetch => ?_, fun _ => .refl w, (World.Calm.refl _).startsNone, ?_⟩
    · cases hfetch
    show Together layers managers (phase.after .elsewhere)
    rwa [hsame]

/-- A run of calls. -/
theorem layerStarts_play (h : Together layers managers phase) (uses : List (StreamUse σ ν κ))
    (w : World σ ν) :
    let out := result (playThrough layers uses) w
    layerStarts out.1 = if phase = .fresh then
      openingStarts (managers.map (·.iterationName)) out.1 else [] := by
  induction uses generalizing layers phase w with
  | nil =>
    intro out
    have hnone : openingStarts (managers.map (·.iterationName)) ([] : List (Episode σ ν)) = [] :=
      rfl
    split
    · exact hnone.symm
    · rfl
  | cons u uses ih =>
    have huse := useThrough_plays hmanagers h u w
    exact huse.starts (ih huse.together (after (useThrough layers u) w))

/-- The layers of a new stream start one span for each of them, one inside the other, if the first
call is a fetch, and none otherwise. -/
theorem starts_of_whole (h : Together layers managers .fresh) (uses : List (StreamUse σ ν κ))
    (w : World σ ν) :
    let episodes := result (wholeThrough layers uses) w
    layerStarts episodes = openingStarts (managers.map (·.iterationName)) episodes := by
  intro episodes
  let played := result (playThrough layers uses) w
  let last := result (giveUpThrough played.2) (after (playThrough layers uses) w)
  have hepisodes : episodes = played.1 ++ [last] := rfl
  have hplayed : layerStarts played.1 = openingStarts (managers.map (·.iterationName)) played.1 :=
    layerStarts_play hmanagers h uses w
  have hlast : (last.back.since last.answered).filter Entry.isStart = [] :=
    (drops_startsNone _ _).since
  have hnothing : last.asked.since last.inward = [] := (World.Calm.refl _).since
  have hstarts : layerStarts episodes = layerStarts played.1 := by
    rw [hepisodes, layerStarts, layerStarts, told_concat, List.filter_append, hnothing,
      List.nil_append, hlast, List.append_nil]
  have hopening (names : List String) :
      openingStarts names episodes = openingStarts names played.1 := by
    rw [hepisodes, openingStarts, openingStarts, firstCall_append]
    cases firstCall played.1 with
    | some first => rfl
    | none => rfl
  rw [hstarts, hplayed, hopening]

end Play

end RowsLayer

end QueryTrace
