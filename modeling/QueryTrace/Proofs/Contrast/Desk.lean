import QueryTrace.Proofs.Contrast.Rows
import QueryTrace.Proofs.Session.Pairs
import QueryTrace.Proofs.Session.Steps
import QueryTrace.Proofs.Transparency.Turns
import QueryTrace.Session.SetUp

/-!
# Sessions side by side

Two sessions are carried out side by side. Either they differ in what is inside the outermost layer
of their connections: then their steps are the same, and none of them puts a layer on a connection
or takes one off. Or they differ in telemetry: then their steps are the same but for providers and
for the settings of what is recorded.

Two desks are alike if such sessions could have led to them.
-/

namespace QueryTrace.Session

variable {α β γ δ : Type} {k : Contrast}

/-! ## Steps -/

/-- The backends are the same, or differ in their providers. -/
structure Backend.Like (k : Contrast) (backend backend' : Backend) : Prop where
  same : k.Fixes backend backend'
  standard : backend = .sharedStandard ↔ backend' = .sharedStandard

theorem Backend.Like.refl (k : Contrast) (backend : Backend) : backend.Like k backend :=
  ⟨.refl k _, Iff.rfl⟩

/-- The same wrapping, or configurations that differ in what is recorded. -/
inductive Wrapping.Like : Wrapping → Wrapping → Prop
  | instrumentor (name : String) : Like (.instrumentor name) (.instrumentor name)
  | config {config config' : Config} : config.Like config' → Like (.config config) (.config config')
  | malformed (field : String) : Like (.malformed field) (.malformed field)

/-- The step puts a layer on a connection, or takes one off. -/
def Step.peels : Step → Bool
  | .wrap .. => true
  | .unwrap .. => true
  | _ => false

/-- A step that names no provider and no configuration, and has no body. -/
def Step.Neutral : Step → Prop
  | .instrument .. | .wrap .. | .respond .. | .execute .. | .ambient .. | .detached .. => False
  | .scope .. => False
  | _ => True

mutual

/-- The steps do the same, short of what the sessions differ in. -/
inductive Step.Like (k : Contrast) : Step → Step → Prop
  | same {step : Step} : step.Neutral → (k = .inside → step.peels = false) → Step.Like k step step
  | instrument (name : Option String) {config config' : Config} {backend backend' : Backend}
    (classifier : Option Classifier) : config.Like config' → k.Fixes config config' →
    backend.Like k backend' → Step.Like k (.instrument name config backend classifier)
      (.instrument name config' backend' classifier)
  | wrap (name : Option String) (connection : String) {wrapping wrapping' : Wrapping} :
    k = .telemetry → wrapping.Like wrapping' →
    Step.Like k (.wrap name connection wrapping) (.wrap name connection wrapping')
  | respond (server : String) {responses responses' : List (Reply Step)}
    (connects closes : List (Option String)) : List.Forall₂ (Reply.Like k) responses responses' →
    Step.Like k (.respond server responses connects closes)
      (.respond server responses' connects closes)
  | execute (manager : String) (source : SourceSpec) (role : Role) {body body' : List Step}
    (result : Except String Value) : List.Forall₂ (Step.Like k) body body' →
    Step.Like k (.execute manager source role body result)
      (.execute manager source role body' result)
  | ambient (name : String) {provider provider' : Provider} {body body' : List Step} :
    k.Fixes provider provider' → List.Forall₂ (Step.Like k) body body' →
    Step.Like k (.ambient name provider body) (.ambient name provider' body')
  | detached {body body' : List Step} : List.Forall₂ (Step.Like k) body body' →
    Step.Like k (.detached body) (.detached body')
  | scope (deferred : String) {body body' : List Step} : List.Forall₂ (Step.Like k) body body' →
    Step.Like k (.scope deferred body) (.scope deferred body')

/-- The same answer, after steps that do the same. -/
inductive Reply.Like (k : Contrast) : Reply Step → Reply Step → Prop
  | intro {before before' : List Step} (answer : Answer) :
    List.Forall₂ (Step.Like k) before before' → Reply.Like k ⟨before, answer⟩ ⟨before', answer⟩

end

theorem Wrapping.Like.refl (wrapping : Wrapping) : wrapping.Like wrapping := by
  cases wrapping with
  | instrumentor name => exact .instrumentor name
  | config config => exact .config (.refl config)
  | malformed field => exact .malformed field

theorem Reply.Like.of_before {replies : List (Reply Step)}
    (h : ∀ reply ∈ replies, List.Forall₂ (Step.Like k) reply.before reply.before) :
    List.Forall₂ (Reply.Like k) replies replies :=
  List.forall₂_same.mpr fun reply member => .intro reply.answer (h reply member)

/-- A step does the same as itself. What is inside layers may differ only if it leaves the layers of
connections alone. -/
theorem Step.Every.like {step : Step} (h : step.Every fun s => k = .inside → s.peels = false) :
    step.Like k step := by
  induction h with
  -- The steps inside the step do the same as themselves; only the step itself is to be seen to.
  | @intro step hpeels _ ih =>
    have hbody {body : List Step} (hinner : ∀ s ∈ body, s ∈ step.inner) :
        List.Forall₂ (Step.Like k) body body :=
      List.forall₂_same.mpr fun s hs => ih s (hinner s hs)
    cases step with
    | instrument name config backend classifier =>
      exact .instrument name classifier (.refl config) (.refl _ _) (.refl _ _)
    | wrap name connection wrapping =>
      cases k with
      | inside => cases hpeels rfl
      | telemetry => exact .wrap name connection rfl (.refl wrapping)
    | respond server responses connects closes =>
      refine .respond server connects closes (Reply.Like.of_before fun reply member => ?_)
      exact hbody fun s hs => List.mem_flatMap.mpr ⟨reply, member, hs⟩
    | execute manager source role body result =>
      exact .execute manager source role result (hbody fun _ hs => hs)
    | ambient name provider body => exact .ambient name (.refl _ _) (hbody fun _ hs => hs)
    | detached body => exact .detached (hbody fun _ hs => hs)
    | scope deferred body => exact .scope deferred (hbody fun _ hs => hs)
    | _ => exact .same trivial hpeels

theorem AllSteps.like {steps : List Step}
    (h : AllSteps (fun s => k = .inside → s.peels = false) steps) :
    List.Forall₂ (Step.Like k) steps steps :=
  List.forall₂_same.mpr fun step member => (h step member).like

theorem Step.Like.verb {step step' : Step} (h : step.Like k step') : step.verb = step'.verb := by
  cases h <;> rfl

/-! ## Objects -/

structure Instrumentor.Like (k : Contrast) (i i' : Instrumentor) : Prop where
  layer : i.layer.Like k i'.layer
  manager : i.manager.Like k i'.manager

structure Root.Like (k : Contrast) (r r' : Root) : Prop where
  layers : List.Forall₂ (Layer.Like k) r.layers r'.layers
  server : r.server = r'.server

/-- Connections to the same driver. They may differ inside the outermost layer, or in telemetry. -/
structure Connection.Like (k : Contrast) (c c' : Connection) : Prop where
  layers : Layer.Around k c.layers c'.layers
  server : c.server = c'.server
  generation : c.generation = c'.generation

/-- Nodes of the same form, inside layers that recorded the same calls. -/
structure Query.Like (k : Contrast) (q q' : Query) : Prop where
  layers : List.Forall₂ (QueryLayer.Like k) q.layers q'.layers
  wire : q.wire = q'.wire

/-- Cursors over the same rows, inside layers that have come equally far. -/
structure Cursor.Like (k : Contrast) (c c' : Cursor) : Prop where
  layers : List.Forall₂ (RowsLayer.Like k) c.layers c'.layers
  stream : c.stream = c'.stream
  source : c.source.Like k c'.source

inductive Object.Like (k : Contrast) : Object → Object → Prop
  | instrumentor {i i' : Instrumentor} : i.Like k i' → Like k (.instrumentor i) (.instrumentor i')
  | server (number : Nat) : Like k (.server number) (.server number)
  | root {r r' : Root} : r.Like k r' → Like k (.root r) (.root r')
  | connection {c c' : Connection} : c.Like k c' → Like k (.connection c) (.connection c')
  | query {q q' : Query} : q.Like k q' → Like k (.query q) (.query q')
  | cursor {c c' : Cursor} : c.Like k c' → Like k (.cursor c) (.cursor c')
  | chain (c : Chain) : Like k (.chain c) (.chain c)
  | deferred (number : Nat) : Like k (.deferred number) (.deferred number)

/-- The servers are going to do the same. -/
structure Server.Like (k : Contrast) (s s' : Server) : Prop where
  responses : List.Forall₂ (Reply.Like k) s.responses s'.responses
  connects : s.connects = s'.connects
  closes : s.closes = s'.closes
  latency : s.latency = s'.latency

structure HeldSpan.Like (k : Contrast) (held held' : HeldSpan) : Prop where
  span : held.span.Like k held'.span
  holders : held.holders = held'.holders

/-- The desks hold the same, short of what the sessions differ in. -/
structure Desk.Like (k : Contrast) (d d' : Desk) : Prop where
  objects : List.Forall₂ (Named (Object.Like k)) d.objects d'.objects
  servers : List.Forall₂ (Server.Like k) d.servers d'.servers
  deferreds : List.Forall₂ (HeldSpan.Like k) d.deferreds d'.deferreds
  provider : k.Fixes d.provider d'.provider
  room : d.room = d'.room

theorem Instrumentor.Like.refl (i : Instrumentor) : i.Like k i := ⟨.refl _ _, .refl _ _⟩

theorem Root.Like.refl (r : Root) : r.Like k r :=
  ⟨List.forall₂_same.mpr fun _ _ => .refl _ _, rfl⟩

theorem Query.Like.refl (q : Query) : q.Like k q :=
  ⟨List.forall₂_same.mpr fun _ _ => .refl _ _, rfl⟩

theorem HeldSpan.Like.refl (held : HeldSpan) : held.Like k held := ⟨.refl _ _, rfl⟩

/-- There is as much room on either desk. -/
theorem Desk.Like.hasRoom {d d' : Desk} (h : d.Like k d') {layers layers' : List Layer}
    (hlength : layers.length = layers'.length) : d.hasRoom layers = d'.hasRoom layers' := by
  rw [Desk.hasRoom, h.room, hlength, Desk.hasRoom]

theorem AllWaiting.like {servers : List Server}
    (h : AllWaiting (fun s => k = .inside → s.peels = false) servers) :
    List.Forall₂ (Server.Like k) servers servers := by
  refine List.forall₂_same.mpr fun server member => ⟨Reply.Like.of_before ?_, rfl, rfl, rfl⟩
  exact fun reply hreply => (AllSteps.flatMap_iff.mp (h server member) reply hreply).like

/-! ## Reports -/

/-- The first words of the texts that show what the sessions differ in: layers that may be inside
others, or configurations. -/
def hidden : Contrast → List String
  | .inside => ["TracedConnection", "TracedExecutor"]
  | .telemetry => ["RethinkDbInstrumentor", "SpanManager", "TracedNamespace", "TracedConnection"]

/-- The text, unless it shows what the sessions differ in. -/
def shown (k : Contrast) (text : String) : String :=
  if (hidden k).any fun name => name.toList.isPrefixOf text.toList then "" else text

/-- What counts of a report. If telemetry differs, the current span and configurations do not count;
if it does not, what is inside the outermost layer of a connection does not count. -/
def Report.told (k : Contrast) : Report → Report
  | .connected result =>
    match k with
    | .inside => .connected (result.map fun r => (0, r.2))
    | .telemetry => .connected result
  | .span identity recording =>
    match k with
    | .inside => .span identity recording
    | .telemetry => .nothing
  | .configs list =>
    match k with
    | .inside => .configs (list.take 1)
    | .telemetry => .configs []
  | .text s => .text (shown k s)
  | .fetched rows layers => .fetched rows (layers.map fun r => (r.1.told, r.2))
  | .streamClosed result layers => .streamClosed result (layers.map fun r => (r.1.told, r.2))
  | .deferred state => .deferred state.told
  | .deferredStarted result state => .deferredStarted result state.told
  | .deferredStopped state calls => .deferredStopped state.told calls
  | report => report

/-- What counts of a note. -/
def Note.told (k : Contrast) : Note → Note
  | .step verb depth result => .step verb depth (result.map (Report.told k))
  | n => n

/-- How two sessions are compared. -/
def sessions (k : Contrast) : Comparison Desk Note :=
  { contrast := k, told := Note.told k, programs := Desk.Like k }

/-! ## Turns -/

/-- The turns are parallel, with results that `R` relates, or end by the same fault. -/
abbrev TurnParallel (k : Contrast) (R : α → β → Prop) (turn : Turn α) (other : Turn β) : Prop :=
  Parallel (sessions k) (Agree R) turn.run other.run

namespace TurnParallel

variable {R : α → γ → Prop} {S : β → δ → Prop}

theorem pure {a : α} {c : γ} (h : R a c) : TurnParallel k R (pure a) (pure c) :=
  Parallel.pure (.ok h)

theorem throw (fault : Fault) :
    TurnParallel k R (throw fault : Turn α) (throw fault : Turn γ) :=
  Parallel.pure (.error fault)

theorem bind {turn : Turn α} {other : Turn γ} {f : α → Turn β} {g : γ → Turn δ}
    (h : TurnParallel k R turn other) (hf : ∀ a c, R a c → TurnParallel k S (f a) (g c)) :
    TurnParallel k S (turn >>= f) (other >>= g) := by
  show Parallel (sessions k) (Agree S) (turn.run >>= ExceptT.bindCont f)
    (other.run >>= ExceptT.bindCont g)
  refine Parallel.bind h fun x y hxy => ?_
  cases hxy with
  | ok h => exact hf _ _ h
  | error fault => exact Parallel.pure (.error fault)

theorem lift {act : Doing α} {other : Doing γ} (h : Parallel (sessions k) R act other) :
    TurnParallel k R (ExceptT.lift act) (ExceptT.lift other) :=
  ⟨fun w v hsame => ⟨.ok (h.parallel w v hsame).1, (h.parallel w v hsame).2⟩⟩

end TurnParallel

/-! ## The desk -/

theorem desk_parallel : Parallel (sessions k) (Desk.Like k) desk desk :=
  ⟨fun _ _ hsame => ⟨hsame.programs, hsame⟩⟩

theorem changeDesk_parallel {f g : Desk → Desk}
    (h : ∀ d d', Desk.Like k d d' → Desk.Like k (f d) (g d')) :
    Parallel (sessions k) (fun _ _ => True) (changeDesk f) (changeDesk g) :=
  .change fun _ _ hsame => { hsame with programs := h _ _ hsame.programs }

theorem changeServer_parallel (number : Nat) {f g : Server → Server}
    (hf : ∀ s s', Server.Like k s s' → (f s).Like k (g s')) :
    Parallel (sessions k) (fun _ _ => True) (changeServer number f) (changeServer number g) :=
  changeDesk_parallel fun _ _ h => { h with servers := related_modify h.servers number hf }

theorem changeHeld_parallel (number : Nat) {f g : HeldSpan → HeldSpan}
    (hf : ∀ h h', HeldSpan.Like k h h' → (f h).Like k (g h')) :
    Parallel (sessions k) (fun _ _ => True) (changeHeld number f) (changeHeld number g) :=
  changeDesk_parallel fun _ _ h => { h with deferreds := related_modify h.deferreds number hf }

theorem release_parallel (number : Nat) :
    Parallel (sessions k) (fun _ _ => True) (release number) (release number) := by
  refine .bind (changeHeld_parallel number fun held held' h =>
    ⟨h.span, congrArg (· - 1) h.holders⟩) fun _ _ _ => ?_
  refine .bind desk_parallel fun d d' hd => ?_
  have hheld := related_getElem? hd.deferreds number
  generalize d.deferreds[number]? = held, d'.deferreds[number]? = held' at hheld
  cases hheld with
  | none => exact .pure trivial
  | some h =>
    dsimp only
    rw [h.holders]
    split
    · exact Deferred.abandon_parallel h.span
    · exact .pure trivial

theorem discard_parallel {o o' : Object} (h : o.Like k o') :
    Parallel (sessions k) (fun _ _ => True) (discard o) (discard o') := by
  cases h with
  | @cursor c c' hc =>
    have hlayers := hc.layers
    unfold discard
    dsimp only
    generalize c.layers = layers, c'.layers = layers' at hlayers
    induction hlayers with
    | nil => exact .pure trivial
    | cons hlayer _ ih => exact .bind (RowsLayer.drop_parallel hlayer) fun _ _ _ => ih
  | deferred number => exact release_parallel number
  | _ => exact .pure trivial

/-! ## Named objects -/

theorem lookup_parallel (name : String) :
    Parallel (sessions k) (Option.Rel (Object.Like k)) (lookup? name) (lookup? name) :=
  .bind desk_parallel fun _ _ h => .pure (named_find? h.objects name)

theorem remove_parallel (name : String) :
    Parallel (sessions k) (fun _ _ => True) (remove name) (remove name) :=
  changeDesk_parallel fun _ _ h => { h with objects := named_filter h.objects name }

theorem store_parallel (name : String) {o o' : Object} (ho : o.Like k o') :
    Parallel (sessions k) (fun _ _ => True) (store name o) (store name o') := by
  refine .bind (lookup_parallel name) fun old old' hold => ?_
  refine .bind (changeDesk_parallel fun _ _ h =>
    { h with objects := named_insertField h.objects name ho }) fun _ _ _ => ?_
  cases hold with
  | some h => exact discard_parallel h
  | none => exact .pure trivial

theorem keep_parallel (name : Option String) {o o' : Object} (ho : o.Like k o') :
    TurnParallel k (fun _ _ => True) (keep name o) (keep name o') := by
  cases name with
  | some name => exact .lift (store_parallel name ho)
  | none => exact .bind (.lift (discard_parallel ho)) fun _ _ _ => .throw _

/-- What is picked from objects that are alike is related. -/
theorem find_parallel {R : α → β → Prop} {pick : Object → Option α} {pick' : Object → Option β}
    (hpick : ∀ o o', Object.Like k o o' → Option.Rel R (pick o) (pick' o')) (name : String) :
    TurnParallel k R (find pick name) (find pick' name) := by
  refine .bind (.lift (lookup_parallel name)) fun o o' ho => ?_
  have hpicked : Option.Rel R (o.bind pick) (o'.bind pick') := by
    cases ho with
    | some h => exact hpick _ _ h
    | none => exact .none
  generalize o.bind pick = x, o'.bind pick' = y at hpicked
  cases hpicked with
  | some h => exact .pure h
  | none => exact .throw _

end QueryTrace.Session
