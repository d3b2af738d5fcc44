import QueryTrace.Proofs.Contrast.Driving
import QueryTrace.Proofs.Contrast.Texts
import QueryTrace.Session.Run

/-!
# Whole sessions side by side

Chains, executions and deferred spans are carried out side by side like the steps of the driver, and
with them all steps. Two sessions whose steps do the same, started on desks that are alike, tell the
same story and leave desks that are alike (`parallel_runSteps`).
-/

namespace QueryTrace.Session

variable {k : Contrast} {react react' : List Step → Doing Unit}

/-! ## Chains -/

theorem storeChain_parallel (name : Option String) (c : Chain) :
    TurnParallel k (Told k) (storeChain name c) (storeChain name c) :=
  .bind (keep_parallel name (.chain c)) fun _ _ _ => .pure rfl

theorem copyChain_parallel (name : Option String) (query : String) :
    TurnParallel k (Told k) (copyChain name query) (copyChain name query) := by
  refine .bind (findQuery_parallel query) fun q q' hq => ?_
  obtain ⟨layers, wire⟩ := q
  obtain ⟨layers', wire'⟩ := q'
  cases hq.layers with
  | nil => exact .throw _
  | @cons layer layer' _ _ hlayer _ =>
    show TurnParallel k (Told k) (storeChain name layer.calls) (storeChain name layer'.calls)
    rw [hlayer.calls]
    exact storeChain_parallel name layer'.calls

theorem recordCall_parallel (chain method : String) (args : Args) :
    TurnParallel k (Told k) (recordCall chain method args) (recordCall chain method args) := by
  refine .bind (findChain_parallel chain) fun c _ hc => ?_
  obtain rfl := hc
  exact storeChain_parallel (some chain) _

theorem resetChain_parallel (chain : String) :
    TurnParallel k (Told k) (resetChain chain) (resetChain chain) := by
  refine .bind (findChain_parallel chain) fun c _ hc => ?_
  obtain rfl := hc
  exact storeChain_parallel (some chain) _

/-! ## Executions -/

theorem takeSource_parallel (spec : SourceSpec) :
    TurnParallel k Eq (takeSource spec) (takeSource spec) := by
  cases spec with
  | chain name => exact .bind (takeChain_parallel name) fun _ _ hc => .pure (congrArg _ hc)
  | request query summary => exact .pure rfl

theorem returnSource_parallel (spec : SourceSpec) (source : Source) :
    TurnParallel k Eq (returnSource spec source) (returnSource spec source) := by
  cases spec with
  | request query summary => exact .pure rfl
  | chain name =>
    cases source with
    | request query summary => exact .pure rfl
    | chain calls => exact .bind (.lift (store_parallel name (.chain calls))) fun _ _ _ => .pure rfl

theorem execute_parallel (h : Parallels k react react') (manager : String) (spec : SourceSpec)
    (role : Role) {body body' : List Step} (hbody : List.Forall₂ (Step.Like k) body body')
    (result : Except String Value) : TurnParallel k (Told k)
      (execute react manager spec role body result)
      (execute react' manager spec role body' result) := by
  have hcallee : Parallel (sessions k) (Settled Eq) (callee react body result)
      (callee react' body' result) :=
    .bind (.note rfl) fun _ _ _ => .bind (h _ _ hbody) fun _ _ _ => .pure (.of_eq rfl)
  refine .bind (findInstrumentor_parallel manager) fun i i' hi => ?_
  refine .bind (takeSource_parallel spec) fun source _ hsource => ?_
  obtain rfl := hsource
  refine .bind (.lift (Manager.trace_parallel hi.manager hcallee source role)) fun x y hxy => ?_
  obtain ⟨value, spent⟩ := x
  obtain ⟨value', spent'⟩ := y
  obtain ⟨hvalue, hspent⟩ := hxy
  obtain rfl : value = value' := hvalue.eq
  obtain rfl : spent = spent' := hspent
  refine .bind (returnSource_parallel spec spent) fun chain _ hchain => .pure ?_
  rw [hchain]

theorem describeCurrent_parallel (manager : String) (spec : SourceSpec) :
    TurnParallel k (Told k) (describeCurrent manager spec) (describeCurrent manager spec) := by
  refine .bind (findInstrumentor_parallel manager) fun i i' hi => ?_
  refine .bind (takeSource_parallel spec) fun source _ hsource => ?_
  obtain rfl := hsource
  refine .bind (.lift (R := Context.Like k) ⟨fun _ _ hsame => ⟨hsame.current, hsame⟩⟩)
    fun c c' hc => ?_
  refine .bind (.lift (Manager.describe_parallel hi.manager hc.span source))
    fun spent _ hspent => ?_
  obtain rfl := hspent
  refine .bind (returnSource_parallel spec spent) fun chain _ hchain => .pure ?_
  rw [hchain]

/-! ## The current span -/

theorem showCurrent_parallel : Parallel (sessions k) (Told k) showCurrent showCurrent := by
  refine .bind_get fun w v hsame => .pure ?_
  cases k with
  | telemetry => rfl
  | inside =>
    have hspan : w.current.span = v.current.span := hsame.current.span.eq
    rw [hspan, hsame.isRecording rfl]

theorem endCurrent_parallel : Parallel (sessions k) (Told k) endCurrent endCurrent :=
  .bind (.change fun _ _ hsame => hsame.finish hsame.current.span) fun _ _ _ =>
    showCurrent_parallel

theorem ambient_parallel (h : Parallels k react react') (name : String)
    {provider provider' : Provider} (hprovider : k.Fixes provider provider')
    {body body' : List Step} (hbody : List.Forall₂ (Step.Like k) body body') :
    Parallel (sessions k) (Told k) (ambient react name provider body)
      (ambient react' name provider' body') := by
  have hinner {c c' : Context} (hc : c.Like k c') (span span' : SpanRef)
      (hspan : k.Fixes span span') : Parallel (sessions k) (Told k)
        (do
          within { c with span } (react body)
          modify (·.finish span)
          return .nothing : Doing Report)
        (do
          within { c' with span := span' } (react' body')
          modify (·.finish span')
          return .nothing : Doing Report) := by
    have hcontext : Context.Like k { c with span } { c' with span := span' } :=
      ⟨hspan, hc.active, hc.inRequest⟩
    exact .bind ((h _ _ hbody).within hcontext) fun _ _ _ => .bind (.finish hspan) fun _ _ _ =>
      .pure rfl
  exact .bind_current fun c c' hc =>
    .bind_startSpan hprovider .application name hc.span (hinner hc)

theorem detached_parallel (h : Parallels k react react') {body body' : List Step}
    (hbody : List.Forall₂ (Step.Like k) body body') :
    Parallel (sessions k) (Told k) (detached react body) (detached react' body') :=
  .bind ((h _ _ hbody).within (.refl k {})) fun _ _ _ => .pure rfl

/-! ## Deferred spans -/

theorem addDeferred_parallel (name : Option String) (manager : String) :
    TurnParallel k (Told k) (addDeferred name manager) (addDeferred name manager) := by
  refine .bind (findInstrumentor_parallel manager) fun i i' hi => ?_
  refine .bind (.lift desk_parallel) fun d d' hd => ?_
  rw [hd.deferreds.length_eq]
  refine .bind (.lift (changeDesk_parallel fun d d' hd => { hd with deferreds := ?_ }))
    fun _ _ _ => .bind (keep_parallel name (.deferred _)) fun _ _ _ => .pure rfl
  exact List.rel_append hd.deferreds (.cons ⟨⟨hi.manager, .idle⟩, rfl⟩ .nil)

/-- A deferred span is changed on both sides. -/
theorem changeSpan_parallel (number : Nat) {span span' : Deferred} (h : span.Like k span') :
    Parallel (sessions k) (fun _ _ => True) (changeHeld number fun held => { held with span })
      (changeHeld number fun held => { held with span := span' }) :=
  changeHeld_parallel number fun _ _ hheld => ⟨h, hheld.holders⟩

theorem startDeferred_parallel (name chain : String) :
    TurnParallel k (Told k) (startDeferred name chain) (startDeferred name chain) := by
  refine .bind (findDeferred_parallel name) ?_
  rintro ⟨number, d⟩ ⟨_, d'⟩ ⟨rfl, hd⟩
  refine .bind (takeChain_parallel chain) fun c _ hc => ?_
  obtain rfl := hc
  refine .bind (.lift (Deferred.start_parallel hd c)) ?_
  rintro ⟨refused, d⟩ ⟨_, d'⟩ ⟨rfl, hd⟩
  refine .bind (.lift (changeSpan_parallel number hd)) fun _ _ _ => ?_
  refine .bind (.lift (store_parallel chain (.chain c))) fun _ _ _ => .pure ?_
  simp only [Told, Report.told, hd.state.told]

theorem stopDeferred_parallel (name chain : String) :
    TurnParallel k (Told k) (stopDeferred name chain) (stopDeferred name chain) := by
  refine .bind (findDeferred_parallel name) ?_
  rintro ⟨number, d⟩ ⟨_, d'⟩ ⟨rfl, hd⟩
  refine .bind (takeChain_parallel chain) fun c _ hc => ?_
  obtain rfl := hc
  refine .bind (.lift (Deferred.stop_parallel hd c)) ?_
  rintro ⟨d, spent⟩ ⟨d', _⟩ ⟨hd, rfl⟩
  refine .bind (.lift (changeSpan_parallel number hd)) fun _ _ _ => ?_
  refine .bind (.lift (store_parallel chain (.chain spent))) fun _ _ _ => .pure ?_
  simp only [Told, Report.told, hd.state.told]

theorem scopeDeferred_parallel (h : Parallels k react react') (name : String)
    {body body' : List Step} (hbody : List.Forall₂ (Step.Like k) body body') :
    TurnParallel k (Told k) (scopeDeferred react name body) (scopeDeferred react' name body') := by
  refine .bind (findDeferred_parallel name) ?_
  rintro ⟨number, d⟩ ⟨_, d'⟩ ⟨rfl, hd⟩
  refine .bind (.lift (changeHeld_parallel number fun _ _ hheld =>
    ⟨hheld.span, congrArg (· + 1) hheld.holders⟩)) fun _ _ _ => ?_
  refine .bind (.lift (Deferred.inScope_parallel hd (h _ _ hbody))) fun _ _ _ => ?_
  refine .bind (.lift desk_parallel) fun desk desk' hdesk => ?_
  refine .bind (.lift (release_parallel number)) fun _ _ _ => .pure ?_
  have hheld := related_getElem? hdesk.deferreds number
  generalize desk.deferreds[number]? = held, desk'.deferreds[number]? = held' at hheld
  cases hheld with
  | none => rfl
  | some hheld => exact congrArg Report.deferred hheld.span.state.told

theorem failDeferred_parallel (name message : String) :
    TurnParallel k (Told k) (failDeferred name message) (failDeferred name message) := by
  refine .bind (findDeferred_parallel name) ?_
  rintro ⟨number, d⟩ ⟨_, d'⟩ ⟨rfl, hd⟩
  exact .bind (.lift (Deferred.noteError_parallel hd message)) fun _ _ _ =>
    .pure (congrArg Report.deferred hd.state.told)

theorem countDeferred_parallel (name : String) (rows : UInt64) :
    TurnParallel k (Told k) (countDeferred name rows) (countDeferred name rows) := by
  refine .bind (findDeferred_parallel name) ?_
  rintro ⟨number, d⟩ ⟨_, d'⟩ ⟨rfl, hd⟩
  exact .bind (.lift (Deferred.noteRows_parallel hd rows)) fun _ _ _ =>
    .pure (congrArg Report.deferred hd.state.told)

/-! ## Other steps -/

theorem dropObject_parallel (name : String) :
    Parallel (sessions k) (Told k) (dropObject name) (dropObject name) := by
  refine .bind (lookup_parallel name) fun o o' ho => ?_
  cases ho with
  | none => exact .pure rfl
  | some ho =>
    exact .bind (remove_parallel name) fun _ _ _ => .bind (discard_parallel ho) fun _ _ _ =>
      .pure rfl

theorem showObject_parallel (name : String) (executor : Bool) :
    TurnParallel k (Told k) (showObject name executor) (showObject name executor) := by
  have hfind : TurnParallel k (Object.Like k) (find some name) (find some name) :=
    find_parallel (fun _ _ ho => .some ho) name
  refine .bind hfind fun o o' ho => .bind (describeObject_parallel executor ho) fun _ _ htext =>
    .pure (congrArg Report.text htext)

theorem refuse_parallel (needs : List (Kind × String)) (field : String) :
    TurnParallel k (Told k) (refuse needs field) (refuse needs field) := by
  have hneed (kind : Kind) (name : String) : TurnParallel k (fun _ _ => True)
      (find (fun o => if o.kind = kind then some () else none) name)
      (find (fun o => if o.kind = kind then some () else none) name) := by
    refine find_parallel (fun o o' ho => ?_) name
    have hkind : o.kind = o'.kind := by cases ho <;> rfl
    rw [hkind]
    split
    · exact .some trivial
    · exact .none
  refine TurnParallel.bind (R := fun _ _ => True) ?_ fun _ _ _ => .throw _
  -- The loop over what is needed never stops early, so each round yields.
  induction needs with
  | nil => exact .pure trivial
  | cons need needs ih =>
    rw [List.forIn_cons]
    refine TurnParallel.bind (R := fun x y => x = .yield PUnit.unit ∧ y = .yield PUnit.unit)
      (TurnParallel.bind (hneed need.1 need.2) fun _ _ _ => .pure ⟨rfl, rfl⟩) ?_
    rintro _ _ ⟨rfl, rfl⟩
    exact ih

/-! ## All steps -/

/-- Steps that do the same are parallel if the steps inside them are. -/
theorem perform_parallel (h : Parallels k react react') (fuel : Nat) {step step' : Step}
    (hstep : step.Like k step') :
    TurnParallel k (Told k) (step.perform react fuel) (step'.perform react' fuel) := by
  cases hstep with
  | instrument name classifier hconfig hsame hbackend =>
    exact addInstrumentor_parallel name hconfig hsame hbackend classifier
  | wrap name connection hk hwrapping =>
    subst hk
    exact wrapConnection_parallel name connection hwrapping
  | respond server connects closes hresponses =>
    exact addResponses_parallel server hresponses connects closes
  | execute manager source role result hbody =>
    exact execute_parallel h manager source role hbody result
  | ambient name hprovider hbody => exact .lift (ambient_parallel h name hprovider hbody)
  | detached hbody => exact .lift (detached_parallel h hbody)
  | scope deferred hbody => exact scopeDeferred_parallel h deferred hbody
  | same hneutral hpeels =>
    cases step with
    | unwrap name connection =>
      cases k with
      | inside => cases hpeels rfl
      | telemetry => exact unwrapConnection_parallel name connection
    | server name latency => exact addServer_parallel name latency
    | root name base layer => exact addRoot_parallel name base layer
    | unwrapRoot name root => exact unwrapRoot_parallel name root
    | connect name root args => exact connect_parallel name root args
    | openPlain name server => exact openPlain_parallel name server
    | reconnect name connection noreplyWait timeout =>
      exact reconnect_parallel name connection noreplyWait timeout
    | configOf name => exact showConfigs_parallel name
    | closeConnection connection noreplyWait =>
      exact closeConnection_parallel connection noreplyWait
    | send connection request noreply => exact send_parallel h connection request noreply
    | query name root method args => exact startQuery_parallel name root method args
    | call name query method args => exact callQuery_parallel name query method args
    | unwrapQuery name query => exact unwrapQuery_parallel name query
    | queryInfo query => exact showQuery_parallel query
    | run name query connection options take =>
      exact runQuery_parallel h name query connection options take
    | next cursor count => exact fetchRows_parallel h fuel cursor count
    | close cursor => exact closeCursor_parallel h cursor
    | drop name => exact .lift (dropObject_parallel name)
    | chain name rootName args => exact storeChain_parallel name _
    | chainOf name query => exact copyChain_parallel name query
    | record chain method args => exact recordCall_parallel chain method args
    | reset chain => exact resetChain_parallel chain
    | describe manager source => exact describeCurrent_parallel manager source
    | current => exact .lift showCurrent_parallel
    | endCurrent => exact .lift endCurrent_parallel
    | deferred name manager => exact addDeferred_parallel name manager
    | startDeferred deferred chain => exact startDeferred_parallel deferred chain
    | stopDeferred deferred chain => exact stopDeferred_parallel deferred chain
    | noteError deferred message => exact failDeferred_parallel deferred message
    | noteRows deferred rows => exact countDeferred_parallel deferred rows
    | debug name executor => exact showObject_parallel name executor
    | malformed verb needs field => exact refuse_parallel needs field
    | _ => exact hneutral.elim

/-- Steps that do the same are parallel, at any depth. -/
theorem parallel_runSteps (fuel depth : Nat) :
    Parallels k (runSteps fuel depth) (runSteps fuel depth) := by
  -- The steps inside a step have less fuel and one more level of depth.
  induction fuel generalizing depth with
  | zero => exact fun _ _ _ => .pure trivial
  | succ fuel ih =>
    intro steps steps' hsteps
    induction hsteps with
    | nil => exact .pure trivial
    | @cons step step' _ _ hstep _ ihSteps =>
      have hperform := perform_parallel (ih (depth + 1)) (fuel + 1) hstep
      refine .bind (R := fun _ _ => True) (.bind hperform fun result result' hresult => ?_)
        fun _ _ _ => ihSteps
      refine .note ?_
      cases hresult with
      | ok hreport =>
        show Note.step step.verb depth (.ok _) = Note.step step'.verb depth (.ok _)
        rw [hstep.verb, hreport]
      | error fault => rw [hstep.verb]

/-- The objects that are left are dropped on both sides. -/
theorem clear_parallel : Parallel (sessions k) (fun _ _ => True) clear clear := by
  refine .bind desk_parallel fun d d' hd => ?_
  refine .bind (changeDesk_parallel fun d d' hd => { hd with objects := .nil }) fun _ _ _ => ?_
  have hobjects := hd.objects
  generalize d.objects = objects, d'.objects = objects' at hobjects
  induction hobjects with
  | nil => exact .pure trivial
  | cons ho _ ih => exact .bind (discard_parallel ho.2) fun _ _ _ => ih

/-- Whole sessions are parallel, whether or not the objects that are left are dropped in the end. -/
theorem session_parallel (fuel depth : Nat) {steps steps' : List Step}
    (hsteps : List.Forall₂ (Step.Like k) steps steps') (dropping : Bool) :
    Parallel (sessions k) (fun _ _ => True)
      (do
        runSteps fuel depth steps
        if dropping then clear)
      (do
        runSteps fuel depth steps'
        if dropping then clear) := by
  refine .bind (parallel_runSteps fuel depth _ _ hsteps) fun _ _ _ => ?_
  cases dropping with
  | true => exact clear_parallel
  | false => exact .pure trivial

end QueryTrace.Session
