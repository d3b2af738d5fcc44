import QueryTrace.Proofs.Spans.Quiet
import QueryTrace.Session.Service

/-!
# The requests of one query

While a chain or a stream is being traced, its requests belong to its span: none of them starts or
ends a span, whatever is sent, through whatever layers, and whatever comes back. So a run of a query
is one span, however often the driver talks to its servers on the way.

The driver is a `Dialogue`: any finite exchange of requests and answers, in which every request may
depend on the answers before it. Its servers are a parameter. All that is asked of them is that they
do no traced work of their own in the contexts in which requests reach them.
-/

namespace QueryTrace

variable {ι σ ν α β : Type}

/-! ## Quiet actions -/

/-- In the given context the action starts no span and ends none. -/
structure QuietIn (c : Context) (act : Action σ ν α) : Prop where
  quiet : ∀ w : World σ ν, w.current = c → w.Quiet (after act w)

namespace QuietIn

variable {c : Context}

theorem pure (a : α) : QuietIn c (pure a : Action σ ν α) := ⟨fun w _ => .refl w⟩

theorem bind {act : Action σ ν α} {f : α → Action σ ν β} (h : QuietIn c act)
    (hf : ∀ a, QuietIn c (f a)) : QuietIn c (act >>= f) := by
  refine ⟨fun w hw => ?_⟩
  have hact := h.quiet w hw
  exact hact.trans ((hf _).quiet _ (hact.current.trans hw))

theorem bind_current {f : Context → Action σ ν β} (h : QuietIn c (f c)) :
    QuietIn c (current >>= f) := by
  refine ⟨fun w hw => ?_⟩
  rw [after_bind, result_current, after_current, hw]
  exact h.quiet w hw

theorem bind_get {f : World σ ν → Action σ ν β} (h : ∀ w, QuietIn c (f w)) :
    QuietIn c (get >>= f) := ⟨fun w hw => (h w).quiet w hw⟩

theorem log (level : Level) (message : String) (fields : List Attr) :
    QuietIn c (log level message fields : Action σ ν Unit) := ⟨fun _ _ => World.quiet_log ..⟩

theorem annotate (span : SpanRef) (attrs : List Attr) :
    QuietIn c (modify (·.annotate span attrs) : Action σ ν Unit) :=
  ⟨fun _ _ => World.quiet_annotate ..⟩

theorem fail (span : SpanRef) (description : String) :
    QuietIn c (modify (·.fail span description) : Action σ ν Unit) :=
  ⟨fun _ _ => World.quiet_fail ..⟩

theorem note (n : ν) : QuietIn c (note n : Action σ ν Unit) :=
  ⟨fun w _ => ⟨rfl, by simp [World.spanEvents, Entry.isSpan], rfl⟩⟩

/-- A program may change its own state. -/
theorem program (change : σ → σ) :
    QuietIn c (modify fun w => { w with program := change w.program } : Action σ ν Unit) :=
  ⟨fun _ _ => ⟨rfl, rfl, rfl⟩⟩

theorem within {inner : Context} {act : Action σ ν α} (h : QuietIn inner act) :
    QuietIn c (within inner act) := by
  refine ⟨fun w _ => ?_⟩
  have hact := h.quiet (w.attach inner) rfl
  refine ⟨?_, hact.events, hact.stages⟩
  rw [after_within, World.contexts_detach, hact.contexts]
  rfl

end QuietIn

/-! ## Calls inside the span of a query -/

namespace Manager

variable {c : Context}

theorem quiet_describe (m : Manager) (span : SpanRef) (source : Source) :
    QuietIn c (m.describe span source : Action σ ν Source) :=
  .bind (.annotate ..) fun _ => .pure _

theorem quiet_noteFailure (span : SpanRef) (result : Except String α) :
    QuietIn c (noteFailure span result : Action σ ν (Except String α)) := by
  cases result with
  | ok a => exact .pure _
  | error message => exact .bind (.log ..) fun _ => .bind (.fail ..) fun _ => .pure _

theorem quiet_noteDuration (m : Manager) (span : SpanRef) (started : Nat) :
    QuietIn c (m.noteDuration span started : Action σ ν Unit) := by
  refine .bind_get fun w => ?_
  split
  · refine .bind (.annotate ..) fun _ => ?_
    split
    · exact .bind (.annotate ..) fun _ => .log ..
    · exact .pure _
  · exact .pure _

/-- A request inside a chain or a stream only adds to the span that is there. -/
theorem quiet_trace_request (m : Manager) (hc : c.active = some .chain ∨ c.active = some .deferred)
    (query : String) (summary : Summary) (role : Role) {call : Action σ ν (Except String α)}
    (h : QuietIn c call) : QuietIn c (m.trace (.request query summary) role call) := by
  have hcall (span : SpanRef) (source : Source) :
      QuietIn c (do return (← noteFailure span (← call), source)) :=
    .bind h fun result => .bind (quiet_noteFailure span result) fun _ => .pure _
  have hcontinued (mode : Mode) :
      QuietIn c (runContinuation c.span mode (.request query summary) call) :=
    .bind (.log ..) fun _ => .bind (.annotate ..) fun _ => hcall ..
  have hcovered (mode : Mode) :
      QuietIn c (m.runCovered c.span mode (.request query summary) call) := by
    refine .bind (.log ..) fun _ => ?_
    dsimp only
    split
    · exact hcall ..
    · exact .bind (quiet_describe ..) fun _ => hcall ..
  refine .bind_current ?_
  cases role with
  | continuation => rcases hc with hc | hc <;> simpa only [hc] using hcontinued _
  | newQuery => rcases hc with hc | hc <;> simpa only [hc, Source.mode, if_true] using hcovered _

end Manager

namespace Layer

variable {c : Context} {base : Send σ ν} {request : Request} {noreply : Bool}

theorem quiet_render (request : Request) : QuietIn c (render request : Action σ ν String) := by
  unfold render
  dsimp only
  split
  · exact .bind (.log ..) fun _ => .pure _
  · exact .pure _

theorem quiet_sendTraced (layer : Layer)
    (hc : c.active = some .chain ∨ c.active = some .deferred)
    (h : QuietIn c (base request noreply)) : QuietIn c (layer.sendTraced base request noreply) := by
  refine .bind (quiet_render request) fun rendered => ?_
  dsimp only
  split
  · exact .bind (.log ..) fun _ => h
  · exact .bind (layer.manager.quiet_trace_request hc _ _ _ h) fun _ => .pure _

/-- A request inside a chain or a stream starts no span and ends none, through any layers. The
server sees the span and the mark of that query, and nothing else. -/
theorem quiet_sendThrough (hc : c.active = some .chain ∨ c.active = some .deferred)
    (h : ∀ b, QuietIn { c with inRequest := b } (base request noreply)) (layers : List Layer) :
    QuietIn c (sendThrough layers base request noreply) := by
  -- A layer may mark the context as that of a request; the active query stays.
  induction layers generalizing c with
  | nil => exact h c.inRequest
  | cons layer layers ih =>
    refine .bind_current ?_
    split
    · exact ih hc h
    · exact .within (layer.quiet_sendTraced hc (ih hc h))

end Layer

/-! ## Dialogues -/

/-- What a driver does in one call: it looks at its state and changes it, it sends requests through
layers to one of its connections and goes on by the answers, and comes to a result. -/
inductive Dialogue (ι σ α : Type) where
  | done (a : α)
  | own (change : σ → σ) (next : σ → Dialogue ι σ α)
  | ask (connection : ι) (layers : List Layer) (request : Request) (noreply : Bool)
      (next : Except String Response → Dialogue ι σ α)

/-- Carries a dialogue out; the bare connections are given. -/
def Dialogue.run (base : ι → Send σ ν) : Dialogue ι σ α → Action σ ν α
  | .done a => return a
  | .own change next => do
    let before := (← get).program
    modify fun w => { w with program := change w.program }
    (next before).run base
  | .ask connection layers request noreply next => do
    let answer ← Layer.sendThrough layers (base connection) request noreply
    (next answer).run base

/-- The servers do no traced work of their own when requests of the query reach them: they see its
span and its mark, and whether a traced request is under way. -/
def QuietServers (base : ι → Send σ ν) (c : Context) : Prop :=
  ∀ i request noreply b, QuietIn { c with inRequest := b } (base i request noreply)

theorem Dialogue.quiet_run {c : Context} {base : ι → Send σ ν}
    (hc : c.active = some .chain ∨ c.active = some .deferred) (hbase : QuietServers base c)
    (d : Dialogue ι σ α) : QuietIn c (d.run base) := by
  induction d with
  | done a => exact .pure a
  | own change next ih =>
    exact .bind_get fun w => .bind (.program change) fun _ => ih _
  | ask connection layers request noreply next ih =>
    exact .bind (Layer.quiet_sendThrough hc (hbase connection request noreply) layers) fun _ => ih _

/-! ## The driver of a session -/

namespace Session

/-- A scripted server is quiet if the steps of its responses are. -/
theorem quiet_handle {c : Context} {react : List Step → Doing Unit}
    (h : ∀ steps, QuietIn c (react steps)) (server generation : Nat) (request : Request)
    (noreply : Bool) : QuietIn c (handle react server generation request noreply) := by
  have htake : QuietIn c (takeReply server) := ⟨fun _ _ => ⟨rfl, rfl, rfl⟩⟩
  have hdesk : QuietIn c desk := ⟨fun _ _ => ⟨rfl, rfl, rfl⟩⟩
  refine .bind (.note _) fun _ => .bind htake fun reply => .bind hdesk fun d => ?_
  refine .bind ⟨fun _ _ => ⟨rfl, rfl, rfl⟩⟩ fun _ => .bind (h _) fun _ => ?_
  split <;> exact .pure _

/-- The run of a plain node as a dialogue: one request on its connection. -/
def Query.dialogue (wire : Value) (c : Connection) (options : Args) :
    Dialogue Connection Desk (Except String (Outcome Stream)) :=
  .ask c c.layers (.start wire options.options) (Wire.wantsNoReply options) fun
    | .error message => .done (.error message)
    | .ok (.atom value) => .done (.ok (.value value))
    | .ok (.batch rows more) => .done (.ok (.stream ⟨rows, more⟩))

theorem Query.run_dialogue (react : List Step → Doing Unit) (wire : Value) (c : Connection)
    (options : Args) : (Query.dialogue wire c options).run
      (fun c => handle react c.server c.generation) = runPlain react wire c options := by
  unfold Query.dialogue Query.runPlain Dialogue.run
  refine congrArg (_ >>= ·) (funext fun answer => ?_)
  rcases answer with message | value | ⟨rows, more⟩ <;> rfl

end Session

/-! ## One span -/

/-- The span of a provider that records: it gets the next number. -/
def World.nextSpan (w : World σ ν) : SpanRef :=
  ⟨some (.recorded w.spans.length), some w.spans.length⟩

/-- On the way from one world to the other one span has been started and has ended. All other spans
stand where they stood. -/
structure World.OneSpan (w v : World σ ν) (name : String) (parent : Option SpanId) : Prop where
  contexts : v.contexts = w.contexts
  events : ∃ attrs failure, v.spanEvents = w.spanEvents ++
    [.started w.spans.length name parent .tracing, .ended w.spans.length name attrs failure]
  stages : v.stages = w.stages ++ [(name, .tracing, true)]

namespace World

variable {w v u : World σ ν}

theorem Quiet.nextSpan (h : w.Quiet v) : v.nextSpan = w.nextSpan := by
  unfold World.nextSpan
  rw [h.length_spans]

theorem OneSpan.of_quiet_before {name : String} {parent : Option SpanId} (h : w.Quiet v)
    (h' : v.OneSpan u name parent) : w.OneSpan u name parent := by
  obtain ⟨attrs, failure, hevents⟩ := h'.events
  refine ⟨h'.contexts.trans h.contexts, ⟨attrs, failure, ?_⟩, ?_⟩
  · rw [hevents, h.events, h.length_spans]
  · rw [h'.stages, h.stages]

/-- A span is started, what follows is quiet, and the span ends. -/
theorem OneSpan.of_quiet_between {name : String} {parent : SpanRef}
    (h : (w.startSpan .recording .tracing name parent).2.Quiet v) :
    w.OneSpan (v.finish w.nextSpan) name parent.identity := by
  have hstages : v.stages = w.stages ++ [(name, .tracing, false)] := by
    rw [h.stages, stages_startSpan]
  have hevents : v.spanEvents =
      w.spanEvents ++ [.started w.spans.length name parent.identity .tracing] := by
    rw [h.events, spanEvents_startSpan]
  have hopen : v.stages[w.spans.length]? = some (name, .tracing, false) := by
    rw [hstages, ← length_stages]
    simp
  rcases v.finish_cases w.nextSpan with ⟨-, hclosed⟩ |
    ⟨n, name', scope, attrs, failure, hn, hget, hset, hended⟩
  · exact absurd hopen (hclosed _ _ _ rfl)
  · obtain rfl : w.spans.length = n := by simpa [nextSpan] using hn
    rw [hopen] at hget
    obtain ⟨rfl, rfl⟩ : name = name' ∧ Scope.tracing = scope := by simpa using hget
    refine ⟨?_, ⟨attrs, failure, ?_⟩, ?_⟩
    · rw [contexts_finish, h.contexts, contexts_startSpan]
    · rw [hended, hevents, List.append_assoc]
      rfl
    · rw [hset, hstages, ← length_stages]
      simp

end World

/-! ## Runs -/

namespace Manager

/-- What a call in a span of its own does between the start and the end of the span. -/
def inSpan (m : Manager) (inner : Context) (source : Source)
    (call : Action σ ν (Except String α)) : Action σ ν (Except String α × Source) := do
  let source ← m.describe inner.span source
  let started := (← get).clock
  let result ← within inner call
  m.noteDuration inner.span started
  return (← noteFailure inner.span result, source)

theorem quiet_inSpan (m : Manager) {c inner : Context} (source : Source)
    {call : Action σ ν (Except String α)} (h : QuietIn inner call) :
    QuietIn c (m.inSpan inner source call) :=
  .bind (quiet_describe ..) fun _ => .bind_get fun _ => .bind (.within h) fun _ =>
    .bind (quiet_noteDuration ..) fun _ => .bind (quiet_noteFailure ..) fun _ => .pure _

theorem after_runInSpan (m : Manager) (context : Context) (source : Source)
    (call : Action σ ν (Except String α)) (w : World σ ν) :
    after (m.runInSpan context source call) w =
      let name := source.spanName m.config
      let logged := w.log .debug "starting span for query" [("span", .text name)]
      let started := logged.startSpan m.provider .tracing name context.span
      let inner := { context with span := started.1, active := some source.mode }
      (after (m.inSpan inner source call) started.2).finish started.1 := rfl

/-- A call in a span of its own is one span, if the call itself is quiet in that span. -/
theorem oneSpan_runInSpan (m : Manager) (hm : m.provider = .recording) (source : Source)
    {call : Action σ ν (Except String α)} (w : World σ ν) (h : QuietIn
      { w.current with span := w.nextSpan, active := some source.mode } call) :
    w.OneSpan (after (m.runInSpan w.current source call) w) (source.spanName m.config)
      w.current.span.identity := by
  have hlog := w.quiet_log .debug "starting span for query"
    [("span", .text (source.spanName m.config))]
  rw [after_runInSpan, hm]
  refine .of_quiet_before hlog ?_
  rw [← hlog.nextSpan] at h
  exact .of_quiet_between ((m.quiet_inSpan source h).quiet _ rfl)

end Manager

theorem QueryLayer.oneSpan_run {κ : Type} (layer : QueryLayer)
    (hlayer : layer.manager.provider = .recording) (options : Args)
    {inner : Action σ ν (Except String (Outcome κ))} {w : World σ ν} (hw : w.current.active = none)
    (h : QuietIn { w.current with span := w.nextSpan, active := some .chain } inner) :
    w.OneSpan (after (layer.run options inner) w)
      (layer.manager.config.spanName (layer.runCalls options).path) w.current.span.identity := by
  have htrace : after (layer.run options inner) w =
      after (layer.manager.runInSpan w.current (.chain (layer.runCalls options)) inner) w := by
    simp only [QueryLayer.run, Manager.trace, after_bind, after_pure, after_current,
      result_current, hw]
  rw [htrace]
  exact layer.manager.oneSpan_runInSpan hlayer _ w h

/-- One span per logical query. In a context of a chain or a stream, no exchange of requests starts
or ends a span; and outside of any query, the run of a query is one span from start to end, whatever
the driver and its servers say to each other meanwhile. -/
theorem one_span_per_query {κ : Type} (base : ι → Send σ ν) :
    (∀ (c : Context) (d : Dialogue ι σ α), c.active = some .chain ∨ c.active = some .deferred →
      QuietServers base c → QuietIn c (d.run base)) ∧
    ∀ (layer : QueryLayer) (options : Args) (d : Dialogue ι σ (Except String (Outcome κ)))
      (w : World σ ν), layer.manager.provider = .recording → w.current.active = none →
      QuietServers base { w.current with span := w.nextSpan, active := some .chain } →
      w.OneSpan (after (layer.run options (d.run base)) w)
        (layer.manager.config.spanName (layer.runCalls options).path) w.current.span.identity := by
  refine ⟨fun c d hc hbase => d.quiet_run hc hbase, ?_⟩
  intro layer options d w hlayer hw hbase
  exact layer.oneSpan_run hlayer options hw (d.quiet_run (.inl rfl) hbase)

/-- A run that starts, goes on, stops, and sends something that no layer can read. -/
def Session.restlessRun (layers : List Layer) :
    Dialogue Unit Session.Desk (Except String (Outcome Stream)) :=
  .ask () layers (.start .null (.object [])) false fun _ =>
  .ask () layers .advance false fun _ =>
  .ask () layers .stop true fun _ =>
  .ask () layers (.text "?") false fun _ => .done (.error "lost")

theorem one_span_restlessRun :
    let m : Manager := ⟨.recording, .standard⟩
    let base : Unit → Send Session.Desk Session.Note :=
      fun _ => Session.handle (fun _ => pure ()) 0 0
    let w : World Session.Desk Session.Note :=
      { program := { provider := .inert, servers := [{ latency := 2 }] } }
    let d := Session.restlessRun [⟨m, .opcodes "r"⟩, ⟨m, .opcodes "s"⟩]
    (QuietIn { active := some .deferred } (d.run base)) ∧
      w.OneSpan (after (QueryLayer.run ⟨m, .start "table" .none⟩ .none (d.run base)) w)
        "/table/run" none := by
  intro m base w d
  have hbase (c : Context) : QuietServers base c := fun _ request noreply _ =>
    Session.quiet_handle (fun _ => .pure _) 0 0 request noreply
  have h := one_span_per_query (α := Except String (Outcome Stream)) (κ := Stream) base
  exact ⟨h.1 _ d (.inr rfl) (hbase _), h.2 _ .none d w rfl rfl (hbase _)⟩

end QueryTrace
