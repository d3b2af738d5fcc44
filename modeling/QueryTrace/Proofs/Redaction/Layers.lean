import QueryTrace.Layer.Run
import QueryTrace.Layer.Sending
import QueryTrace.Proofs.Redaction.Coinciding
import QueryTrace.Proofs.Redaction.Openings

/-!
# Layers that keep literals to themselves

Two chains are akin if they record the same calls, whatever the arguments. A layer that may record
neither arguments nor requests describes a span by akin chains alike, and by requests with the same
summary. So what it does around akin calls coincides.
-/

namespace QueryTrace

variable {σ ν α : Type} {D : σ → σ → Prop}

/-- Neither the arguments of calls nor the texts of requests are recorded. -/
structure Config.Redacts (config : Config) : Prop where
  queries : config.logQueries = false
  arguments : config.logArguments = false

theorem Config.redacts_production : Config.production.Redacts := ⟨rfl, rfl⟩

/-! ## Akin chains and sources -/

/-- The chains record the same calls; the arguments may differ. -/
structure Chain.Akin (c c' : Chain) : Prop where
  root : c.rootName = c'.rootName
  path : c.path = c'.path
  keys : c.history.map (·.1) = c'.history.map (·.1)

namespace Chain

variable {c c' : Chain}

theorem Akin.refl (c : Chain) : c.Akin c := ⟨rfl, rfl, rfl⟩

theorem Akin.push (h : c.Akin c') (name text text' : String) :
    (c.push name text).Akin (c'.push name text') := by
  have hlength : c.history.length = c'.history.length := by
    simpa using congrArg List.length h.keys
  exact ⟨h.root, by rw [Chain.push, Chain.push, h.path],
    by simp [Chain.push, h.keys, hlength]⟩

theorem akin_start (name : String) (args args' : Args) :
    (start name args).Akin (start name args') := by
  have hempty : Akin ⟨name, args.rendered, "", []⟩ ⟨name, args'.rendered, "", []⟩ :=
    ⟨rfl, rfl, rfl⟩
  exact hempty.push ..

theorem Akin.record (h : c.Akin c') (name : String) (args args' : Args) :
    (c.record name args).Akin (c'.record name args') :=
  h.push ..

theorem Akin.reset (h : c.Akin c') : c.reset.Akin c'.reset := by
  have hempty : Akin ⟨c.rootName, c.rootArgs, "", []⟩ ⟨c'.rootName, c'.rootArgs, "", []⟩ :=
    ⟨h.root, rfl, rfl⟩
  unfold Chain.reset
  rw [h.root] at hempty ⊢
  exact hempty.push ..

end Chain

/-- Chains that are akin, or requests with the same summary. -/
inductive Source.Akin : Source → Source → Prop
  | request (query query' : String) (summary : Summary) :
    Akin (.request query summary) (.request query' summary)
  | chain {c c' : Chain} : c.Akin c' → Akin (.chain c) (.chain c')

namespace Source.Akin

variable {s s' : Source}

theorem mode (h : s.Akin s') : s.mode = s'.mode := by
  cases h <;> rfl

theorem isControl (h : s.Akin s') : s.isControl = s'.isControl := by
  cases h <;> rfl

theorem spanName (h : s.Akin s') (config : Config) : s.spanName config = s'.spanName config := by
  cases h with
  | request => rfl
  | chain hc => simp only [Source.spanName, hc.path]

theorem spent (h : s.Akin s') : s.spent.Akin s'.spent := by
  cases h with
  | request query query' summary => exact .request query query' summary
  | chain hc => exact .chain hc.reset

/-- Akin sources are described alike where neither arguments nor requests are recorded. -/
theorem attrs (h : s.Akin s') {config : Config} (hconfig : config.Redacts) :
    Manager.attrs config s = Manager.attrs config s' := by
  cases h with
  | request => simp [Manager.attrs, Manager.requestAttrs, hconfig.queries]
  | chain hc =>
    have hattrs (c : Chain) : Manager.chainAttrs config c =
        (c.history.map (·.1)).map fun key => ("db.method." ++ key, .text "?") := by
      simp [Manager.chainAttrs, hconfig.arguments]
    rw [Manager.attrs, Manager.attrs, hattrs, hattrs, hc.keys]

end Source.Akin

/-! ## The manager -/

namespace Manager

variable {m : Manager} (hm : m.config.Redacts) {source source' : Source}
  (hsource : source.Akin source') {call other : Action σ ν (Except String α)}

/-- The results are equal, and the sources that come back are akin. -/
abbrev SameCall (x y : Except String α × Source) : Prop :=
  x.1 = y.1 ∧ x.2.Akin y.2

theorem noteDuration_coincides (m : Manager) (span : SpanRef) (started : Nat) :
    Coincide D (fun _ _ => True) (m.noteDuration span started : Action σ ν Unit)
      (m.noteDuration span started) := by
  refine .bind_get fun w v hsame => ?_
  rw [hsame.isRecording, hsame.clock]
  split
  · refine .bind (.annotate ..) fun _ _ _ => ?_
    split
    · exact .bind (.annotate ..) fun _ _ _ => .log ..
    · exact .pure trivial
  · exact .pure trivial

theorem endStale_coincides (span : SpanRef) :
    Coincide D (fun _ _ => True) (endStale span : Action σ ν Unit) (endStale span) := by
  refine .bind_get fun w v hsame => ?_
  rw [hsame.isRecording]
  split
  · exact .bind (.log ..) fun _ _ _ => .finish span
  · exact .pure trivial

theorem noteFailure_coincides (span : SpanRef) (result : Except String α) :
    Coincide D Eq (noteFailure span result : Action σ ν (Except String α))
      (noteFailure span result) := by
  cases result with
  | ok a => exact .pure rfl
  | error message =>
    exact .bind (.log ..) fun _ _ _ => .bind (.fail span message) fun _ _ _ => .pure rfl

/-- Behind the call its failure is noted, and its result given back. -/
theorem noted_coincides (hsource : source.Akin source') (span : SpanRef)
    (hcall : Coincide D Eq call other) : Coincide D SameCall
      (do return (← noteFailure span (← call), source))
      (do return (← noteFailure span (← other), source')) := by
  refine .bind hcall fun result _ hresult => ?_
  obtain rfl := hresult
  refine .bind (noteFailure_coincides span result) fun result _ hresult => .pure ?_
  exact ⟨hresult, hsource⟩

theorem runStray_coincides (hsource : source.Akin source') (m : Manager)
    (hcall : Coincide D Eq call other) :
    Coincide D SameCall (m.runStray source call) (m.runStray source' other) :=
  .bind (.log ..) fun _ _ _ => .bind hcall fun _ _ hresult => .pure ⟨hresult, hsource⟩

theorem runContinuation_coincides (hsource : source.Akin source') (span : SpanRef) (mode : Mode)
    (hcall : Coincide D Eq call other) : Coincide D SameCall
      (runContinuation span mode source call) (runContinuation span mode source' other) :=
  .bind (.log ..) fun _ _ _ => .bind (.annotate ..) fun _ _ _ => noted_coincides hsource span hcall

include hm hsource

theorem describe_coincides (span : SpanRef) : Coincide D Source.Akin
    (m.describe span source : Action σ ν Source) (m.describe span source') := by
  unfold describe
  rw [hsource.attrs hm]
  exact .bind (.annotate ..) fun _ _ _ => .pure hsource.spent

theorem runCovered_coincides (span : SpanRef) (mode : Mode) (hcall : Coincide D Eq call other) :
    Coincide D SameCall (m.runCovered span mode source call)
      (m.runCovered span mode source' other) := by
  refine .bind (.log ..) fun _ _ _ => ?_
  rw [hsource.isControl]
  dsimp only
  split
  · exact noted_coincides hsource span hcall
  · exact .bind (describe_coincides hm hsource span) fun _ _ hspent =>
      noted_coincides hspent span hcall

theorem runInSpan_coincides (context : Context) (hcall : Coincide D Eq call other) :
    Coincide D SameCall (m.runInSpan context source call) (m.runInSpan context source' other) := by
  unfold runInSpan
  rw [hsource.spanName, hsource.mode]
  refine .bind (.log ..) fun _ _ _ => .bind (.startIn ..) fun inner _ hinner => ?_
  obtain rfl := hinner
  refine .bind (describe_coincides hm hsource inner.span) fun _ _ hspent => ?_
  refine .bind_get fun w v hsame => ?_
  rw [hsame.clock]
  refine .bind (hcall.within inner) fun result _ hresult => ?_
  obtain rfl := hresult
  refine .bind (m.noteDuration_coincides inner.span _) fun _ _ _ => ?_
  refine .bind (noteFailure_coincides inner.span result) fun _ _ hresult => ?_
  exact .bind (.finish inner.span) fun _ _ _ => .pure ⟨hresult, hspent⟩

/-- Calls for akin sources coincide, in every way to run them. -/
theorem trace_coincides (role : Role) (hcall : Coincide D Eq call other) :
    Coincide D SameCall (m.trace source role call) (m.trace source' role other) := by
  refine .bind_current fun context => ?_
  cases role with
  | continuation =>
    cases context.active with
    | none => exact runStray_coincides hsource m hcall
    | some mode => exact runContinuation_coincides hsource context.span mode hcall
  | newQuery =>
    have hinside (mode : Mode) : Coincide D SameCall
        (if source.mode = .request then m.runCovered context.span mode source call
          else m.runInSpan context source call)
        (if source'.mode = .request then m.runCovered context.span mode source' other
          else m.runInSpan context source' other) := by
      rw [hsource.mode]
      split
      · exact runCovered_coincides hm hsource context.span mode hcall
      · exact runInSpan_coincides hm hsource context hcall
    cases context.active with
    | none => exact runInSpan_coincides hm hsource context hcall
    | some mode =>
      cases mode with
      | request =>
        exact .bind (endStale_coincides context.span) fun _ _ _ =>
          runInSpan_coincides hm hsource context hcall
      | chain => exact hinside .chain
      | deferred => exact hinside .deferred

end Manager

/-! ## Requests -/

/-- The layer records no literals, and reads requests by their openings. -/
structure Layer.Redacts (layer : Layer) : Prop where
  config : layer.manager.config.Redacts
  classifier : ∃ root, layer.classifier = .opcodes root

namespace Layer

section Requests

variable {request request' : Request} (hrequest : request.Akin request') {noreply noreply' : Bool}
  {base base' : Send σ ν}

/-- At most a log event. -/
theorem render_coincides (request request' : Request) : Coincide D
    (fun x y => x = request.rendered ∧ y = request'.rendered)
    (render request : Action σ ν String) (render request') := by
  have hrender (request : Request) (w : World σ ν) :
      result (render request) w = request.rendered ∧
      (after (render request) w).trail = w.trail ∧
      (after (render request) w).program = w.program := by
    cases hserialize : request.serialize <;> simp [render, hserialize]
  refine ⟨fun w v hsame => ?_⟩
  obtain ⟨hresult, htrail, hprogram⟩ := hrender request w
  obtain ⟨hresult', htrail', hprogram'⟩ := hrender request' v
  refine ⟨⟨hresult, hresult'⟩, by rw [htrail, htrail', hsame.trail], ?_⟩
  rw [hprogram, hprogram']
  exact hsame.programs

include hrequest

theorem sendTraced_coincides {layer : Layer} (hlayer : layer.Redacts)
    (h : Coincide D Eq (base request noreply) (base' request' noreply')) : Coincide D Eq
      (layer.sendTraced base request noreply) (layer.sendTraced base' request' noreply') := by
  obtain ⟨root, hroot⟩ := hlayer.classifier
  refine .bind (render_coincides request request') ?_
  rintro _ _ ⟨rfl, rfl⟩
  have hsummary : layer.classifier.summarise request.rendered =
      layer.classifier.summarise request'.rendered := by
    rw [hroot]
    exact hrequest root
  rw [hsummary]
  dsimp only
  split
  · exact .bind (.log ..) fun _ _ _ => h
  · exact .bind (Manager.trace_coincides hlayer.config (.request ..) _ h) fun _ _ hcall =>
      .pure hcall.1

/-- Akin requests through layers coincide if they coincide without the layers. -/
theorem sendThrough_coincides {layers : List Layer} (hlayers : ∀ layer ∈ layers, layer.Redacts)
    (h : Coincide D Eq (base request noreply) (base' request' noreply')) : Coincide D Eq
      (sendThrough layers base request noreply) (sendThrough layers base' request' noreply') := by
  induction layers with
  | nil => exact h
  | cons layer layers ih =>
    have hinner := ih fun l hl => hlayers l (List.mem_cons_of_mem _ hl)
    refine .bind_current fun context => ?_
    split
    · exact hinner
    · exact (sendTraced_coincides hrequest (hlayers layer List.mem_cons_self) hinner).within _

end Requests

theorem reconnectThrough_coincides {P : Except String α → Prop}
    {base base' : Action σ ν (Except String α)}
    (h : Coincide D (fun x y => x = y ∧ P x) base base') (layers : List Layer) :
    Coincide D (fun x y => x = y ∧ P x) (reconnectThrough layers base)
      (reconnectThrough layers base') := by
  induction layers with
  | nil => exact h
  | cons layer layers ih =>
    refine .bind ih fun result _ hresult => ?_
    obtain ⟨rfl, hP⟩ := hresult
    cases result with
    | error message => exact .pure ⟨rfl, hP⟩
    | ok a => exact .bind (.log ..) fun _ _ _ => .pure ⟨rfl, hP⟩

end Layer

/-! ## Rows -/

namespace Deferred

variable (d : Deferred) {chain chain' : Chain}

theorem start_coincides (h : chain.Akin chain') :
    Coincide D (fun x y => x = y ∧ x.2.manager = d.manager)
      (d.start chain : Action σ ν (Except StillActive Unit × Deferred)) (d.start chain') := by
  unfold Deferred.start
  rw [h.path]
  split
  · exact .pure ⟨rfl, rfl⟩
  · refine .bind (.log ..) fun _ _ _ => .bind_current fun context => ?_
    refine .bind (.startIn ..) fun inner _ hinner => .pure ?_
    rw [hinner]
    exact ⟨rfl, rfl⟩

theorem inScope_coincides {act other : Action σ ν α} (h : Coincide D Eq act other) :
    Coincide D Eq (d.inScope act) (d.inScope other) := by
  unfold Deferred.inScope
  split
  · exact h.within _
  · exact h

theorem noteError_coincides (message : String) : Coincide D (fun _ _ => True)
    (d.noteError message : Action σ ν Unit) (d.noteError message) := by
  unfold Deferred.noteError
  split
  · exact .bind (.log ..) fun _ _ _ => .fail ..
  · exact .pure trivial

theorem noteRows_coincides (rows : UInt64) : Coincide D (fun _ _ => True)
    (d.noteRows rows : Action σ ν Unit) (d.noteRows rows) := by
  unfold Deferred.noteRows
  split
  · split
    · exact .annotate ..
    · exact .pure trivial
  · exact .pure trivial

/-- Chains that describe a span alike stop it alike. What relates them has to relate their roots. -/
theorem stop_coincides {R : Chain → Chain → Prop} (h : R chain chain')
    (hreset : R chain.reset chain'.reset)
    (hattrs : Manager.attrs d.manager.config (.chain chain) =
      Manager.attrs d.manager.config (.chain chain')) :
    Coincide D (fun x y => x.1 = y.1 ∧ x.1.manager = d.manager ∧ R x.2 y.2)
      (d.stop chain : Action σ ν (Deferred × Chain)) (d.stop chain') := by
  unfold Deferred.stop
  rw [hattrs]
  split
  · next context name _ =>
    have hends : Coincide D (fun _ _ => True)
        (modify fun w : World σ ν => (w.annotate context.span
          (Manager.attrs d.manager.config (.chain chain'))).finish context.span)
        (modify fun w => (w.annotate context.span
          (Manager.attrs d.manager.config (.chain chain'))).finish context.span) :=
      .bind (.annotate ..) fun _ _ _ => .finish context.span
    exact .bind (.log ..) fun _ _ _ => .bind hends fun _ _ _ => .pure ⟨rfl, rfl, hreset⟩
  · exact .pure ⟨rfl, rfl, h⟩

theorem abandon_coincides : Coincide D (fun _ _ => True) (d.abandon : Action σ ν Unit)
    d.abandon := by
  unfold Deferred.abandon
  split
  · exact .finish _
  · exact .pure trivial

end Deferred

namespace RowsLayer

variable {κ : Type} (layer : RowsLayer)

theorem ensureStarted_coincides :
    Coincide D Eq (layer.ensureStarted : Action σ ν RowsLayer) layer.ensureStarted := by
  unfold ensureStarted
  split
  · refine .bind (layer.span.start_coincides (.refl _)) fun x _ hx => ?_
    obtain ⟨rfl, -⟩ := hx
    obtain ⟨refused, span⟩ := x
    cases refused with
    | error e => exact .bind (.log ..) fun _ _ _ => .pure rfl
    | ok _ => exact .pure rfl
  · exact .pure rfl

theorem finish_coincides :
    Coincide D Eq (layer.finish : Action σ ν RowsLayer) layer.finish := by
  unfold finish
  split
  · exact .pure rfl
  · refine .bind (layer.span.noteRows_coincides _) fun _ _ _ => ?_
    refine .bind (layer.span.stop_coincides (R := Eq) rfl rfl rfl) ?_
    rintro ⟨span, calls⟩ ⟨_, _⟩ ⟨rfl, -, rfl⟩
    exact .pure rfl

theorem drop_coincides : Coincide D (fun _ _ => True) (layer.drop : Action σ ν Unit)
    layer.drop := by
  unfold RowsLayer.drop
  dsimp only
  split
  · exact .bind (.log ..) fun _ _ _ => .bind layer.finish_coincides fun _ _ _ => .pure trivial
  · exact .bind layer.finish_coincides fun _ _ _ => .pure trivial

theorem next_coincides {fetch other : Action σ ν (Except String (Option Value) × κ)}
    (h : Coincide D Eq fetch other) : Coincide D Eq (layer.next fetch) (layer.next other) := by
  unfold RowsLayer.next
  split
  · refine .bind h fun out _ hout => .pure ?_
    rw [hout]
  · refine .bind layer.ensureStarted_coincides fun layer _ hlayer => ?_
    obtain rfl := hlayer
    refine .bind (layer.span.inScope_coincides h) fun out _ hout => ?_
    obtain rfl := hout
    have hfinish : Coincide D Eq
        (do return (out, ← layer.finish) : Action σ ν (_ × RowsLayer))
        (do return (out, ← layer.finish)) := by
      refine .bind layer.finish_coincides fun l _ hl => .pure ?_
      rw [hl]
    split
    · exact .pure rfl
    · exact .bind (.log ..) fun _ _ _ => hfinish
    · exact .bind (layer.span.noteError_coincides _) fun _ _ _ => hfinish

theorem close_coincides {inner other : Action σ ν (Except String Unit × κ)}
    (h : Coincide D Eq inner other) : Coincide D Eq (layer.close inner) (layer.close other) := by
  unfold RowsLayer.close
  split
  · refine .bind h fun out _ hout => .pure ?_
    rw [hout]
  · refine .bind (layer.span.inScope_coincides h) fun out _ hout => ?_
    obtain rfl := hout
    have hfinish : Coincide D Eq
        (do return (out, ← layer.finish) : Action σ ν (_ × RowsLayer))
        (do return (out, ← layer.finish)) := by
      refine .bind layer.finish_coincides fun l _ hl => .pure ?_
      rw [hl]
    dsimp only
    split
    · exact .bind (layer.span.noteError_coincides _) fun _ _ _ => hfinish
    · exact hfinish

theorem nextThrough_coincides {fetch other : Action σ ν (Except String (Option Value) × κ)}
    (h : Coincide D Eq fetch other) (layers : List RowsLayer) :
    Coincide D Eq (nextThrough fetch layers) (nextThrough other layers) := by
  induction layers with
  | nil =>
    refine .bind h fun out _ hout => .pure ?_
    rw [hout]
  | cons layer layers ih =>
    refine .bind (layer.next_coincides ih) fun out _ hout => .pure ?_
    rw [hout]

theorem closeThrough_coincides {inner other : Action σ ν (Except String Unit × κ)}
    (h : Coincide D Eq inner other) (layers : List RowsLayer) :
    Coincide D Eq (closeThrough inner layers) (closeThrough other layers) := by
  induction layers with
  | nil =>
    refine .bind h fun out _ hout => .pure ?_
    rw [hout]
  | cons layer layers ih =>
    refine .bind (layer.close_coincides ih) fun out _ hout => .pure ?_
    rw [hout]

end RowsLayer

/-! ## Runs -/

/-- Layers of one manager that keeps literals to itself, around nodes that were built by the same
calls. -/
structure QueryLayer.Akin (layer layer' : QueryLayer) : Prop where
  manager : layer.manager = layer'.manager
  redacts : layer.manager.config.Redacts
  calls : layer.calls.Akin layer'.calls

namespace QueryLayer

variable {κ : Type} {layer layer' : QueryLayer}

theorem Akin.record (h : layer.Akin layer') (method : String) (args args' : Args) :
    (layer.record method args).Akin (layer'.record method args') :=
  ⟨h.manager, h.redacts, h.calls.record ..⟩

theorem run_coincides (h : layer.Akin layer') (options options' : Args)
    {inner other : Action σ ν (Except String (Outcome κ))} (hinner : Coincide D Eq inner other) :
    Coincide D Eq (layer.run options inner) (layer'.run options' other) := by
  have hcalls : (layer.runCalls options).Akin (layer'.runCalls options') := h.calls.record ..
  unfold run
  dsimp only
  rw [hcalls.path, ← h.manager]
  refine .bind (Manager.trace_coincides h.redacts (.chain hcalls) _ hinner) fun x y hxy => .pure ?_
  rw [hxy.1]

/-- The runs of akin nodes coincide, and their streams get the same layers. -/
theorem runThrough_coincides {layers layers' : List QueryLayer}
    (h : List.Forall₂ Akin layers layers') (options options' : Args)
    {base other : Action σ ν (Except String (Outcome κ))} (hbase : Coincide D Eq base other) :
    Coincide D Eq (runThrough options base layers) (runThrough options' other layers') := by
  induction h with
  | nil =>
    refine .bind hbase fun result _ hresult => .pure ?_
    rw [hresult]
  | cons hlayer _ ih =>
    refine .bind (run_coincides hlayer options options' ih) fun result _ hresult => .pure ?_
    rw [hresult]

end QueryLayer

end QueryTrace
