import QueryTrace.Proofs.Redaction.Driving
import QueryTrace.Proofs.Session.Ambient
import QueryTrace.Session.Run

/-!
# Two sessions that differ in arguments

A session is played twice, with other arguments of calls and other options of runs, on layers that
record neither arguments nor requests. The arguments reach the spans by the recorded chains, by the
texts of the requests and by their summaries. The first two are masked, and the summaries are read
off the openings of the requests. So if the nodes that the queries start from open alike, the spans
are the same (`same_spans_of_akin`).

They need not be if a query starts from a bare number (`spans_show_first_number`).
-/

namespace QueryTrace.Session

variable {react : List Step → Doing Unit}

/-! ## Chains -/

theorem storeChain_coincides (name : Option String) {c c' : Chain} (h : c.Akin c') :
    TurnsCoincide (storeChain name c) (storeChain name c') :=
  .bind (keep_coincides name (.chain h)) fun _ _ _ => .pure trivial

theorem copyChain_coincides (name : Option String) (query : String) :
    TurnsCoincide (copyChain name query) (copyChain name query) := by
  refine .bind (findQuery_coincides query) fun q q' hq => ?_
  obtain ⟨layers, wire⟩ := q
  obtain ⟨layers', wire'⟩ := q'
  cases hq.layers with
  | nil => exact .throw _
  | cons hlayer _ => exact storeChain_coincides name hlayer.calls

theorem recordCall_coincides (chain method : String) (args args' : Args) :
    TurnsCoincide (recordCall chain method args) (recordCall chain method args') :=
  .bind (findChain_coincides chain) fun _ _ h => storeChain_coincides (some chain) (h.record ..)

theorem resetChain_coincides (chain : String) :
    TurnsCoincide (resetChain chain) (resetChain chain) :=
  .bind (findChain_coincides chain) fun _ _ h => storeChain_coincides (some chain) h.reset

/-! ## Executions -/

theorem takeSource_coincides (spec : SourceSpec) :
    TurnCoincides Source.Akin (takeSource spec) (takeSource spec) := by
  cases spec with
  | chain name => exact .bind (takeChain_coincides name) fun _ _ h => .pure (.chain h)
  | request query summary => exact .pure (.request query query _)

theorem returnSource_coincides (spec : SourceSpec) {source source' : Source}
    (h : source.Akin source') :
    TurnsCoincide (returnSource spec source) (returnSource spec source') := by
  cases spec with
  | request query summary => exact .pure trivial
  | chain name =>
    cases h with
    | request => exact .pure trivial
    | chain h => exact .bind (.lift (store_coincides name (.chain h))) fun _ _ _ => .pure trivial

theorem execute_coincides (h : Coinciding react) (manager : String) (spec : SourceSpec)
    (role : Role) {body body' : List Step} (hbody : List.Forall₂ Step.Akin body body')
    (result : Except String Value) : TurnsCoincide
      (execute react manager spec role body result)
      (execute react manager spec role body' result) := by
  have hcallee : Coincide Desk.Akin Eq (callee react body result) (callee react body' result) :=
    .bind (.note ..) fun _ _ _ => .bind (h _ _ hbody) fun _ _ _ => .pure rfl
  refine .bind (findInstrumentor_coincides manager) fun i _ hi => ?_
  obtain ⟨rfl, -, hredacts⟩ := hi
  refine .bind (takeSource_coincides spec) fun source source' hsource => ?_
  refine .bind (.lift (Manager.trace_coincides hredacts hsource role hcallee)) fun x y hxy => ?_
  exact .bind (returnSource_coincides spec hxy.2) fun _ _ _ => .pure trivial

theorem describeCurrent_coincides (manager : String) (spec : SourceSpec) :
    TurnsCoincide (describeCurrent manager spec) (describeCurrent manager spec) := by
  refine .bind (findInstrumentor_coincides manager) fun i _ hi => ?_
  obtain ⟨rfl, -, hredacts⟩ := hi
  refine .bind (takeSource_coincides spec) fun source source' hsource => ?_
  refine .bind (.lift (R := Eq) ?_) fun context _ hcontext => ?_
  · exact ⟨fun _ _ hsame => ⟨hsame.current, hsame⟩⟩
  · obtain rfl := hcontext
    refine .bind (.lift (Manager.describe_coincides hredacts hsource context.span))
      fun _ _ hspent => ?_
    exact .bind (returnSource_coincides spec hspent) fun _ _ _ => .pure trivial

/-! ## The current span -/

theorem showCurrent_coincides :
    Coincide Desk.Akin (fun _ _ => True) showCurrent showCurrent :=
  .bind_get fun _ _ _ => .pure trivial

theorem endCurrent_coincides :
    Coincide Desk.Akin (fun _ _ => True) endCurrent endCurrent :=
  .bind (.change (fun w => w.finish w.current.span) (fun w => w.trail_finish _) fun w => by simp)
    fun _ _ _ => showCurrent_coincides

theorem ambient_coincides (h : Coinciding react) (name : String) (provider : Provider)
    {body body' : List Step} (hbody : List.Forall₂ Step.Akin body body') :
    Coincide Desk.Akin (fun _ _ => True) (ambient react name provider body)
      (ambient react name provider body') := by
  have hinner (context : Context) (span : SpanRef) : Coincide Desk.Akin (fun _ _ => True)
      (do
        within { context with span } (react body)
        modify (·.finish span)
        return .nothing : Doing Report)
      (do
        within { context with span } (react body')
        modify (·.finish span)
        return .nothing : Doing Report) :=
    .bind ((h _ _ hbody).within _) fun _ _ _ => .bind (.finish span) fun _ _ _ => .pure trivial
  exact .bind_current fun context =>
    .bind_startSpan provider .application name context.span (hinner context)

theorem detached_coincides (h : Coinciding react) {body body' : List Step}
    (hbody : List.Forall₂ Step.Akin body body') :
    Coincide Desk.Akin (fun _ _ => True) (detached react body) (detached react body') :=
  .bind ((h _ _ hbody).within {}) fun _ _ _ => .pure trivial

/-! ## Deferred spans -/

theorem addDeferred_coincides (name : Option String) (manager : String) :
    TurnsCoincide (addDeferred name manager) (addDeferred name manager) := by
  refine .bind (findInstrumentor_coincides manager) fun i _ hi => ?_
  obtain ⟨rfl, -, hredacts⟩ := hi
  refine .bind (.lift desk_coincides) fun d d' hd => ?_
  rw [hd.deferreds]
  refine .bind (.lift (changeDesk_coincides fun d d' hd =>
    { hd with
      deferreds := congrArg (· ++ [_]) hd.deferreds
      redacts := List.forall_mem_append.mpr ⟨hd.redacts, by simpa using hredacts⟩ }))
    fun _ _ _ => .bind (keep_coincides name (.deferred _)) fun _ _ _ => .pure trivial

/-- A deferred span is changed on both sides and keeps literals to itself. -/
theorem changeSpan_coincides (number : Nat) {span : Deferred}
    (h : span.manager.config.Redacts) : Coincide Desk.Akin (fun _ _ => True)
      (changeHeld number fun held => { held with span })
      (changeHeld number fun held => { held with span }) :=
  changeHeld_coincides number fun _ _ => h

theorem startDeferred_coincides (name chain : String) :
    TurnsCoincide (startDeferred name chain) (startDeferred name chain) := by
  refine .bind (findDeferred_coincides name) fun x _ hx => ?_
  obtain ⟨number, d⟩ := x
  obtain ⟨rfl, hredacts⟩ := hx
  refine .bind (takeChain_coincides chain) fun c c' hc => ?_
  refine .bind (.lift (d.start_coincides hc)) fun out _ hout => ?_
  obtain ⟨rfl, hmanager⟩ := hout
  refine .bind (.lift (changeSpan_coincides number (hmanager ▸ hredacts))) fun _ _ _ => ?_
  exact .bind (.lift (store_coincides chain (.chain hc))) fun _ _ _ => .pure trivial

theorem stopDeferred_coincides (name chain : String) :
    TurnsCoincide (stopDeferred name chain) (stopDeferred name chain) := by
  refine .bind (findDeferred_coincides name) fun x _ hx => ?_
  obtain ⟨number, d⟩ := x
  obtain ⟨rfl, hredacts⟩ := hx
  refine .bind (takeChain_coincides chain) fun c c' hc => ?_
  refine .bind (.lift (d.stop_coincides (R := Chain.Akin) hc hc.reset
    ((Source.Akin.chain hc).attrs hredacts))) fun out out' hout => ?_
  obtain ⟨span, left⟩ := out
  obtain ⟨span', left'⟩ := out'
  obtain ⟨rfl, hmanager, hleft⟩ := hout
  refine .bind (.lift (changeSpan_coincides number (hmanager ▸ hredacts))) fun _ _ _ => ?_
  exact .bind (.lift (store_coincides chain (.chain hleft))) fun _ _ _ => .pure trivial

theorem scopeDeferred_coincides (h : Coinciding react) (name : String) {body body' : List Step}
    (hbody : List.Forall₂ Step.Akin body body') :
    TurnsCoincide (scopeDeferred react name body) (scopeDeferred react name body') := by
  have hreact : Coincide Desk.Akin Eq (react body) (react body') :=
    (h _ _ hbody).mono fun _ _ _ => rfl
  refine .bind (findDeferred_coincides name) fun x _ hx => ?_
  obtain ⟨rfl, -⟩ := hx
  refine .bind (.lift (changeHeld_coincides x.1 fun _ hh => hh)) fun _ _ _ => ?_
  refine .bind (.lift (x.2.inScope_coincides hreact)) fun _ _ _ => ?_
  exact .bind (.lift desk_coincides) fun _ _ _ =>
    .bind (.lift (release_coincides x.1)) fun _ _ _ => .pure trivial

theorem failDeferred_coincides (name message : String) :
    TurnsCoincide (failDeferred name message) (failDeferred name message) := by
  refine .bind (findDeferred_coincides name) fun x _ hx => ?_
  obtain ⟨rfl, -⟩ := hx
  exact .bind (.lift (x.2.noteError_coincides message)) fun _ _ _ => .pure trivial

theorem countDeferred_coincides (name : String) (rows : UInt64) :
    TurnsCoincide (countDeferred name rows) (countDeferred name rows) := by
  refine .bind (findDeferred_coincides name) fun x _ hx => ?_
  obtain ⟨rfl, -⟩ := hx
  exact .bind (.lift (x.2.noteRows_coincides rows)) fun _ _ _ => .pure trivial

/-! ## Other steps -/

theorem dropObject_coincides (name : String) :
    Coincide Desk.Akin (fun _ _ => True) (dropObject name) (dropObject name) := by
  refine .bind (lookup_coincides name) fun o o' ho => ?_
  cases ho with
  | none => exact .pure trivial
  | some ho =>
    exact .bind (remove_coincides name) fun _ _ _ => .bind (discard_coincides ho) fun _ _ _ =>
      .pure trivial

theorem showObject_coincides (name : String) (executor : Bool) :
    TurnsCoincide (showObject name executor) (showObject name executor) := by
  have hfind : TurnCoincides Object.Akin (find some name) (find some name) :=
    find_coincides (fun _ _ ho => .some ho) name
  refine .bind hfind fun o o' ho => .bind (R := fun _ _ => True) ?_ fun _ _ _ => .pure trivial
  cases ho with
  | server number => exact .throw _
  | deferred number =>
    refine .bind (.lift desk_coincides) fun d d' hd => ?_
    rw [hd.deferreds]
    split
    · exact .pure trivial
    · exact .throw _
  | _ => exact .pure trivial

theorem refuse_coincides (needs : List (Kind × String)) (field : String) :
    TurnsCoincide (refuse needs field) (refuse needs field) := by
  have hneed (kind : Kind) (name : String) : TurnsCoincide
      (find (fun o => if o.kind = kind then some () else none) name)
      (find (fun o => if o.kind = kind then some () else none) name) := by
    refine find_coincides (fun o o' ho => ?_) name
    have hkind : o.kind = o'.kind := by cases ho <;> rfl
    rw [hkind]
    split
    · exact .some trivial
    · exact .none
  refine TurnCoincides.bind (R := fun _ _ => True) ?_ fun _ _ _ => .throw _
  induction needs with
  | nil => exact .pure trivial
  | cons need needs ih =>
    rw [List.forIn_cons]
    refine TurnCoincides.bind (R := fun x y => x = .yield PUnit.unit ∧ y = .yield PUnit.unit)
      (TurnCoincides.bind (hneed need.1 need.2) fun _ _ _ => .pure ⟨rfl, rfl⟩) ?_
    rintro _ _ ⟨rfl, rfl⟩
    exact ih

/-! ## Sessions -/

/-- Akin steps coincide if the steps inside them do. -/
theorem perform_coincides (h : Coinciding react) (fuel : Nat) {step step' : Step}
    (hstep : step.Akin step') :
    TurnsCoincide (step.perform react fuel) (step'.perform react fuel) := by
  cases hstep with
  | query name root method hroot => exact startQuery_coincides name root method hroot
  | call name query method args args' => exact callQuery_coincides name query method args args'
  | run name query connection options options' take =>
    exact runQuery_coincides h name query connection options options' take
  | chain name rootName args args' =>
    exact storeChain_coincides name (Chain.akin_start rootName args args')
  | record chain method args args' => exact recordCall_coincides chain method args args'
  | respond server connects closes hresponses =>
    exact addResponses_coincides server hresponses connects closes
  | execute manager source role result hbody =>
    exact execute_coincides h manager source role hbody result
  | ambient name provider hbody => exact .lift (ambient_coincides h name provider hbody)
  | detached hbody => exact .lift (detached_coincides h hbody)
  | scope deferred hbody => exact scopeDeferred_coincides h deferred hbody
  | same hplain =>
    cases step with
    | instrument name config backend classifier =>
      obtain ⟨hconfig, hbackend, rfl⟩ := hplain
      exact addInstrumentor_coincides name hconfig hbackend
    | wrap name connection wrapping =>
      refine wrapConnection_coincides name connection fun config hconfig => ?_
      subst hconfig
      exact hplain
    | server name latency => exact addServer_coincides name latency
    | root name base layer => exact addRoot_coincides name base layer
    | unwrapRoot name root => exact unwrapRoot_coincides name root
    | connect name root args => exact connect_coincides name root args
    | openPlain name server => exact openPlain_coincides name server
    | unwrap name connection => exact unwrapConnection_coincides name connection
    | reconnect name connection noreplyWait timeout =>
      exact reconnect_coincides name connection noreplyWait timeout
    | configOf name => exact showConfigs_coincides name
    | closeConnection connection noreplyWait =>
      exact closeConnection_coincides connection noreplyWait
    | send connection request noreply => exact send_coincides h connection request noreply
    | unwrapQuery name query => exact unwrapQuery_coincides name query
    | queryInfo query => exact showQuery_coincides query
    | next cursor count => exact fetchRows_coincides h fuel cursor count
    | close cursor => exact closeCursor_coincides h cursor
    | drop name => exact .lift (dropObject_coincides name)
    | chainOf name query => exact copyChain_coincides name query
    | reset chain => exact resetChain_coincides chain
    | describe manager source => exact describeCurrent_coincides manager source
    | current => exact .lift showCurrent_coincides
    | endCurrent => exact .lift endCurrent_coincides
    | deferred name manager => exact addDeferred_coincides name manager
    | startDeferred deferred chain => exact startDeferred_coincides deferred chain
    | stopDeferred deferred chain => exact stopDeferred_coincides deferred chain
    | noteError deferred message => exact failDeferred_coincides deferred message
    | noteRows deferred rows => exact countDeferred_coincides deferred rows
    | debug name executor => exact showObject_coincides name executor
    | malformed verb needs field => exact refuse_coincides needs field
    | _ => exact hplain.elim

/-- Akin steps coincide, at any depth. -/
theorem coinciding_runSteps (fuel depth : Nat) : Coinciding (runSteps fuel depth) := by
  -- The steps inside a step have less fuel and one more level of depth.
  induction fuel generalizing depth with
  | zero => exact fun _ _ _ => .pure trivial
  | succ fuel ih =>
    intro steps steps' hsteps
    induction hsteps with
    | nil => exact .pure trivial
    | cons hstep _ ihSteps =>
      have hperform := perform_coincides (ih (depth + 1)) (fuel + 1) hstep
      refine .bind (R := fun _ _ => True) ?_ fun _ _ _ => ihSteps
      exact .bind hperform fun _ _ _ => .note ..

/-- The objects that are left are dropped on both sides. -/
theorem clear_coincides : Coincide Desk.Akin (fun _ _ => True) clear clear := by
  refine .bind desk_coincides fun d d' hd => ?_
  refine .bind (changeDesk_coincides fun d d' hd => { hd with objects := .nil }) fun _ _ _ => ?_
  have hobjects := hd.objects
  generalize d.objects = objects, d'.objects = objects' at hobjects
  induction hobjects with
  | nil => exact .pure trivial
  | cons ho _ ih => exact .bind (discard_coincides ho.2) fun _ _ _ => ih

/-- Literals are kept out of spans. Two scripts are carried out that do the same on layers that
record neither arguments nor requests; they differ in the arguments of their calls and the options
of their runs, but all nodes that their queries start from open alike. Then the recorded spans are
the same: their order, parents, names, attributes and failures, up to the end of the session. -/
theorem same_spans_of_akin (fuel depth : Nat) {steps steps' : List Step}
    (hsteps : List.Forall₂ Step.Akin steps steps') {w w' : World Desk Note}
    (hw : SameSpans Desk.Akin w w') :
    let v := after (do runSteps fuel depth steps; clear) w
    let v' := after (do runSteps fuel depth steps'; clear) w'
    v.spans = v'.spans ∧ v.spanEvents = v'.spanEvents := by
  intro v v'
  have hplay : Coincide Desk.Akin (fun _ _ => True) (do runSteps fuel depth steps; clear)
      (do runSteps fuel depth steps'; clear) :=
    .bind (coinciding_runSteps fuel depth steps steps' hsteps) fun _ _ _ => clear_coincides
  have htrail : v.trail = v'.trail := (hplay.coincide w w' hw).2.trail
  refine ⟨?_, ?_⟩
  · show v.trail.spans = v'.trail.spans
    rw [htrail]
  · show v.trail.journal = v'.trail.journal
    rw [htrail]

/-- A session on layers as they are configured for production: one query, with one call. -/
def productionSteps (root method : String) (rootArgs args options : Args) : List Step :=
  [.instrument (some "i") .production (.own .recording) none,
   .server (some "s") 0,
   .root (some "r") (.server "s") (some "i"),
   .connect (some "c") "r" .none,
   .query (some "q") "r" root rootArgs,
   .call (some "f") "q" method args,
   .run none "f" "c" options .any]

/-- The world in which such a session starts. -/
def emptyWorld : World Desk Note :=
  { program := { provider := .inert } }

theorem same_spans_productionSteps :
    let steps := productionSteps "table" "get" (.one "users") ⟨[.ofWord 15], []⟩ .none
    let steps' := productionSteps "table" "get" (.one "orders") (.one "secret")
      ⟨[], [("durability", .string "soft")]⟩
    let v := after (do runSteps 9 0 steps; clear) emptyWorld
    let v' := after (do runSteps 9 0 steps'; clear) emptyWorld
    List.Forall₂ Step.Akin steps steps' ∧ SameSpans Desk.Akin emptyWorld emptyWorld ∧
      v.spanEvents.length = 2 ∧ v.spans = v'.spans ∧ v.spanEvents = v'.spanEvents := by
  intro steps steps' v v'
  have hroot (name : String) : (Wire.root "table" (.one name)).Opens [15] :=
    Wire.opens_root (by decide) fun v hv => by
      obtain rfl := Option.mem_some.mp hv
      exact Value.opens_string name
  have hsteps : List.Forall₂ Step.Akin steps steps' :=
    .cons (.same ⟨Config.redacts_production, by decide, rfl⟩) <| .cons (.same trivial) <|
    .cons (.same trivial) <| .cons (.same trivial) <|
    .cons (.query (some "q") "r" "table" ⟨_, hroot "users", hroot "orders"⟩) <|
    .cons (.call ..) <| .cons (.run ..) .nil
  have hworld : SameSpans Desk.Akin emptyWorld emptyWorld :=
    ⟨rfl, .nil, .nil, rfl, List.forall_mem_nil _, rfl, rfl⟩
  exact ⟨hsteps, hworld, by decide +kernel, same_spans_of_akin 9 0 hsteps hworld⟩

/-- A number that a query starts from is taken for the number of a term, and shows in the path of
the request: there are sessions that differ in one literal and in nothing else, and record different
spans. -/
theorem spans_show_first_number :
    let spans (literal : UInt64) :=
      let steps := productionSteps "expr" "add" ⟨[.ofWord literal], []⟩ (.one "secret") .none
      (after (do runSteps 9 0 steps; clear) emptyWorld).spans
    (spans 15).map (·.attrs.lookup "db.x.path") = [some (.text "r/add/table")] ∧
      (spans 39).map (·.attrs.lookup "db.x.path") = [some (.text "r/add/filter")] ∧
      spans 15 ≠ spans 39 := by
  decide +kernel

end QueryTrace.Session
