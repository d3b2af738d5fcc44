import QueryTrace.Proofs.Contrast.Service
import QueryTrace.Session.Connecting

/-!
# Steps of the driver side by side

Setting up, connections, queries and cursors: what these steps find on desks that are alike is
alike, what they make is alike, and they report the same.
-/

namespace QueryTrace.Session

variable {α β : Type} {k : Contrast} {react react' : List Step → Doing Unit}

/-- What counts of the reports is the same. -/
abbrev Told (k : Contrast) (r r' : Report) : Prop :=
  r.told k = r'.told k

/-! ## Finding objects -/

section Finding

variable (name : String)

theorem findInstrumentor_parallel :
    TurnParallel k (Instrumentor.Like k) (findInstrumentor name) (findInstrumentor name) :=
  find_parallel (fun o o' h => by
    cases h with
    | instrumentor hi => exact .some hi
    | _ => exact .none) name

theorem findServer_parallel : TurnParallel k Eq (findServer name) (findServer name) :=
  find_parallel (fun o o' h => by
    cases h with
    | server => exact .some rfl
    | _ => exact .none) name

theorem findRoot_parallel : TurnParallel k (Root.Like k) (findRoot name) (findRoot name) :=
  find_parallel (fun o o' h => by
    cases h with
    | root hr => exact .some hr
    | _ => exact .none) name

theorem findConnection_parallel :
    TurnParallel k (Connection.Like k) (findConnection name) (findConnection name) :=
  find_parallel (fun o o' h => by
    cases h with
    | connection hc => exact .some hc
    | _ => exact .none) name

theorem findQuery_parallel : TurnParallel k (Query.Like k) (findQuery name) (findQuery name) :=
  find_parallel (fun o o' h => by
    cases h with
    | query hq => exact .some hq
    | _ => exact .none) name

theorem findCursor_parallel : TurnParallel k (Cursor.Like k) (findCursor name) (findCursor name) :=
  find_parallel (fun o o' h => by
    cases h with
    | cursor hc => exact .some hc
    | _ => exact .none) name

theorem findChain_parallel : TurnParallel k Eq (findChain name) (findChain name) :=
  find_parallel (fun o o' h => by
    cases h with
    | chain => exact .some rfl
    | _ => exact .none) name

theorem findDeferred_parallel : TurnParallel k
    (fun x y => x.1 = y.1 ∧ x.2.Like k y.2) (findDeferred name) (findDeferred name) := by
  refine .bind (R := Eq) (find_parallel (fun o o' h => ?_) name) fun number _ hnumber => ?_
  · cases h with
    | deferred => exact .some rfl
    | _ => exact .none
  obtain rfl := hnumber
  refine .bind (.lift desk_parallel) fun d d' hd => ?_
  have hheld := related_getElem? hd.deferreds number
  generalize d.deferreds[number]? = held, d'.deferreds[number]? = held' at hheld
  cases hheld with
  | some h => exact .pure ⟨rfl, h.span⟩
  | none => exact .throw _

theorem takeCursor_parallel : TurnParallel k (Cursor.Like k) (takeCursor name) (takeCursor name) :=
  .bind (findCursor_parallel name) fun _ _ hc =>
    .bind (.lift (remove_parallel name)) fun _ _ _ => .pure hc

theorem takeChain_parallel : TurnParallel k Eq (takeChain name) (takeChain name) :=
  .bind (findChain_parallel name) fun _ _ hc =>
    .bind (.lift (remove_parallel name)) fun _ _ _ => .pure hc

end Finding

/-! ## Setting up -/

theorem makeInstrumentor_like {session session' : Provider} (hsession : k.Fixes session session')
    {config config' : Config} (hconfig : config.Like config') (hsame : k.Fixes config config')
    {backend backend' : Backend} (hbackend : backend.Like k backend')
    (classifier : Option Classifier) :
    (makeInstrumentor session config backend classifier).Like k
      (makeInstrumentor session' config' backend' classifier) := by
  have hlayer : (backend.layerConfig config).Like (backend'.layerConfig config') := by
    by_cases hstandard : backend = .sharedStandard
    · obtain rfl := hbackend.standard.mp hstandard
      subst hstandard
      exact .refl _
    · have hstandard' : backend' ≠ .sharedStandard := fun h => hstandard (hbackend.standard.mpr h)
      cases backend <;> cases backend' <;> first | exact hconfig | contradiction
  have hmade : k.Fixes (makeInstrumentor session config backend classifier)
      (makeInstrumentor session' config' backend' classifier) := fun hk => by
    rw [hsession hk, hsame hk, hbackend.same hk]
  refine ⟨⟨⟨hlayer, hmade.map (·.layer.manager)⟩, ?_⟩, hconfig, hmade.map (·.manager)⟩
  show classifier.getD (.opcodes (backend.layerConfig config).pathRoot) =
    classifier.getD (.opcodes (backend'.layerConfig config').pathRoot)
  rw [hlayer.pathRoot]

theorem addInstrumentor_parallel (name : Option String) {config config' : Config}
    (hconfig : config.Like config') (hsame : k.Fixes config config') {backend backend' : Backend}
    (hbackend : backend.Like k backend') (classifier : Option Classifier) : TurnParallel k (Told k)
      (addInstrumentor name config backend classifier)
      (addInstrumentor name config' backend' classifier) := by
  refine .bind (.lift desk_parallel) fun d d' hd => ?_
  exact .bind (keep_parallel name (.instrumentor
    (makeInstrumentor_like hd.provider hconfig hsame hbackend classifier))) fun _ _ _ => .pure rfl

theorem addServer_parallel (name : Option String) (latency : Nat) :
    TurnParallel k (Told k) (addServer name latency) (addServer name latency) := by
  refine .bind (.lift desk_parallel) fun d d' hd => ?_
  rw [hd.servers.length_eq]
  refine .bind (.lift (changeDesk_parallel fun d d' hd => { hd with servers := ?_ }))
    fun _ _ _ => .bind (keep_parallel name (.server _)) fun _ _ _ => .pure rfl
  exact List.rel_append hd.servers (.cons ⟨.nil, rfl, rfl, rfl⟩ .nil)

theorem addResponses_parallel (server : String) {responses responses' : List (Reply Step)}
    (h : List.Forall₂ (Reply.Like k) responses responses')
    (connects closes : List (Option String)) : TurnParallel k (Told k)
      (addResponses server responses connects closes)
      (addResponses server responses' connects closes) := by
  refine .bind (findServer_parallel server) fun number _ hnumber => ?_
  obtain rfl := hnumber
  refine .bind (.lift (changeServer_parallel number fun s s' hs =>
    { responses := List.rel_append hs.responses h
      connects := congrArg (· ++ connects) hs.connects
      closes := congrArg (· ++ closes) hs.closes
      latency := hs.latency })) fun _ _ _ => ?_
  refine .bind (.lift desk_parallel) fun d d' hd => ?_
  have hserver := related_getElem? hd.servers number
  generalize d.servers[number]? = s, d'.servers[number]? = s' at hserver
  cases hserver with
  | none => exact .throw _
  | some hs =>
    refine .pure ?_
    rw [hs.responses.length_eq, hs.connects, hs.closes]

theorem findBase_parallel (base : RootBase) :
    TurnParallel k (Root.Like k) (findBase base) (findBase base) := by
  cases base with
  | server name =>
    exact .bind (findServer_parallel name) fun _ _ hnumber => .pure ⟨.nil, hnumber⟩
  | «over» name => exact findRoot_parallel name

theorem addRoot_parallel (name : Option String) (base : RootBase) (layer : Option String) :
    TurnParallel k (Told k) (addRoot name base layer) (addRoot name base layer) := by
  refine .bind (findBase_parallel base) fun r r' hr => ?_
  cases layer with
  | none => exact .bind (keep_parallel name (.root hr)) fun _ _ _ => .pure rfl
  | some instrumentor =>
    refine .bind (.lift desk_parallel) fun d d' hd => ?_
    rw [hd.hasRoom hr.layers.length_eq]
    split
    · refine .bind (findInstrumentor_parallel instrumentor) fun i i' hi => ?_
      exact .bind (keep_parallel name (.root ⟨.cons hi.layer hr.layers, hr.server⟩)) fun _ _ _ =>
        .pure rfl
    · exact .throw _

theorem unwrapRoot_parallel (name : Option String) (root : String) :
    TurnParallel k (Told k) (unwrapRoot name root) (unwrapRoot name root) := by
  refine .bind (findRoot_parallel root) fun r r' hr => ?_
  obtain ⟨layers, server⟩ := r
  obtain ⟨layers', server'⟩ := r'
  obtain ⟨hlayers, hserver⟩ := hr
  dsimp only at hlayers hserver
  cases hlayers with
  | nil => exact .throw _
  | cons _ hrest =>
    exact .bind (keep_parallel name (.root ⟨hrest, hserver⟩)) fun _ _ _ => .pure rfl

/-! ## Connections -/

theorem storeConnection_parallel (name : Option String) {result result' : Except String Connection}
    (h : Settled (Connection.Like k) result result') :
    TurnParallel k (Told k) (storeConnection name result) (storeConnection name result') := by
  cases h with
  | error message => exact .pure rfl
  | ok hc =>
    refine .bind (keep_parallel name (.connection hc)) fun _ _ _ => .pure ?_
    cases k with
    | inside => simp only [Told, Report.told, Except.map, hc.generation]
    | telemetry => rw [List.Forall₂.length_eq hc.layers, hc.generation]

theorem connect_parallel (name : Option String) (root : String) (args : Args) :
    TurnParallel k (Told k) (connect name root args) (connect name root args) :=
  .bind (findRoot_parallel root) fun _ _ hr =>
    .bind (.lift (Root.connect_parallel hr args)) fun _ _ hresult =>
      storeConnection_parallel name hresult

theorem openPlain_parallel (name : Option String) (server : String) :
    TurnParallel k (Told k) (openPlain name server) (openPlain name server) :=
  .bind (findServer_parallel server) fun _ _ hnumber =>
    storeConnection_parallel name (.ok ⟨Layer.around_of_forall .nil, hnumber, rfl⟩)

theorem reconnect_parallel (name : Option String) (connection : String) (noreplyWait : Bool)
    (timeout : Option Nat) : TurnParallel k (Told k) (reconnect name connection noreplyWait timeout)
      (reconnect name connection noreplyWait timeout) :=
  .bind (findConnection_parallel connection) fun _ _ hc =>
    .bind (.lift (Connection.reconnect_parallel hc noreplyWait timeout)) fun _ _ hresult =>
      storeConnection_parallel name hresult

/-- Taking a layer off leaves connections alike if all their layers are. -/
theorem unwrapConnection_parallel (name : Option String) (connection : String) :
    TurnParallel .telemetry (Told .telemetry) (unwrapConnection name connection)
      (unwrapConnection name connection) := by
  refine .bind (findConnection_parallel connection) fun c c' hc => ?_
  obtain ⟨layers, server, generation⟩ := c
  obtain ⟨layers', server', generation'⟩ := c'
  obtain ⟨hlayers, hserver, hgeneration⟩ := hc
  cases hlayers with
  | nil => exact .throw _
  | @cons _ _ rest rest' _ hrest =>
    have hleft : Connection.Like .telemetry ⟨rest, server, generation⟩
        ⟨rest', server', generation'⟩ := ⟨hrest, hserver, hgeneration⟩
    exact storeConnection_parallel name (.ok hleft)

theorem findLayer_parallel {wrapping wrapping' : Wrapping} (h : wrapping.Like wrapping') :
    TurnParallel .telemetry (Layer.Like .telemetry) (findLayer wrapping) (findLayer wrapping') := by
  cases h with
  | instrumentor name => exact .bind (findInstrumentor_parallel name) fun _ _ hi => .pure hi.layer
  | @config config config' hconfig =>
    refine .bind (.lift desk_parallel) fun d d' hd => ?_
    rw [hconfig.pathRoot]
    exact .pure ⟨⟨hconfig, .telemetry _ _⟩, rfl⟩
  | malformed field => exact .throw _

theorem wrapConnection_parallel (name : Option String) (connection : String)
    {wrapping wrapping' : Wrapping} (h : wrapping.Like wrapping') :
    TurnParallel .telemetry (Told .telemetry) (wrapConnection name connection wrapping)
      (wrapConnection name connection wrapping') := by
  refine .bind (findConnection_parallel connection) fun c c' hc => ?_
  have hlayers : List.Forall₂ (Layer.Like .telemetry) c.layers c'.layers := hc.layers
  refine .bind (.lift desk_parallel) fun d d' hd => ?_
  rw [hd.hasRoom hlayers.length_eq]
  split
  · exact .bind (findLayer_parallel h) fun _ _ hlayer =>
      storeConnection_parallel name (.ok ⟨.cons hlayer hlayers, hc.server, hc.generation⟩)
  · exact .throw _

theorem showConfigs_parallel (name : String) :
    TurnParallel k (Told k) (showConfigs name) (showConfigs name) :=
  find_parallel (fun o o' h => by
    cases h with
    | instrumentor hi =>
      refine .some ?_
      cases k with
      | telemetry => rfl
      | inside =>
        show Report.configs _ = Report.configs _
        rw [hi.layer.eq]
        rfl
    | @connection c c' hc =>
      dsimp only
      rw [hc.layers.isEmpty]
      split
      · exact .none
      · refine .some ?_
        cases k with
        | telemetry => rfl
        | inside =>
          have htake : c.configs.take 1 = c'.configs.take 1 := by
            rw [Connection.configs, Connection.configs, ← List.map_take, hc.layers.take_one,
              List.map_take]
          exact congrArg Report.configs htake
    | _ => exact .none) name

theorem closeConnection_parallel (connection : String) (noreplyWait : Bool) :
    TurnParallel k (Told k) (closeConnection connection noreplyWait)
      (closeConnection connection noreplyWait) := by
  refine .bind (findConnection_parallel connection) fun c c' hc => ?_
  refine .bind (.lift (Connection.close_parallel hc noreplyWait)) fun result _ hresult => .pure ?_
  rw [hresult]

theorem send_parallel (h : Parallels k react react') (connection : String) (request : Request)
    (noreply : Bool) : TurnParallel k (Told k) (send react connection request noreply)
      (send react' connection request noreply) := by
  refine .bind (findConnection_parallel connection) fun c c' hc => ?_
  refine .bind (.lift (Connection.send_parallel hc h request noreply)) fun _ _ hresult => .pure ?_
  rw [hresult]

/-! ## Queries -/

theorem storeQuery_parallel (name : Option String) {q q' : Query} (h : q.Like k q') :
    TurnParallel k (Told k) (storeQuery name q) (storeQuery name q') := by
  refine .bind (keep_parallel name (.query h)) fun _ _ _ => .pure ?_
  rw [h.report]

theorem startQuery_parallel (name : Option String) (root method : String) (args : Args) :
    TurnParallel k (Told k) (startQuery name root method args)
      (startQuery name root method args) := by
  refine .bind (findRoot_parallel root) fun r r' hr => ?_
  dsimp only
  split
  · exact storeQuery_parallel name (hr.query method args)
  · exact .throw _

theorem callQuery_parallel (name : Option String) (query method : String) (args : Args) :
    TurnParallel k (Told k) (callQuery name query method args)
      (callQuery name query method args) := by
  refine .bind (findQuery_parallel query) fun q q' hq => ?_
  dsimp only
  split
  · exact storeQuery_parallel name (hq.call method args)
  · exact .throw _

theorem unwrapQuery_parallel (name : Option String) (query : String) :
    TurnParallel k (Told k) (unwrapQuery name query) (unwrapQuery name query) := by
  refine .bind (findQuery_parallel query) fun q q' hq => ?_
  obtain ⟨layers, wire⟩ := q
  obtain ⟨layers', wire'⟩ := q'
  obtain ⟨hlayers, hwire⟩ := hq
  dsimp only at hlayers hwire
  cases hlayers with
  | nil => exact .throw _
  | cons _ hrest => exact storeQuery_parallel name ⟨hrest, hwire⟩

theorem showQuery_parallel (query : String) :
    TurnParallel k (Told k) (showQuery query) (showQuery query) :=
  .bind (findQuery_parallel query) fun _ _ hq => .pure (by rw [hq.report])

theorem settleRun_parallel (name : Option String) (take : Take) {o o' : Outcome Cursor}
    (h : Outcome.Like (Cursor.Like k) o o') :
    TurnParallel k Eq (settleRun name take o) (settleRun name take o') := by
  cases h with
  | value v => cases take <;> exact .pure rfl
  | @stream c c' hc =>
    have hobject : (Object.cursor c).Like k (.cursor c') := .cursor hc
    cases take <;> cases name
    case value.none | value.some =>
      exact .bind (.lift (discard_parallel hobject)) fun _ _ _ => .pure rfl
    case any.none | stream.none =>
      exact .bind (.lift (discard_parallel hobject)) fun _ _ _ => .pure rfl
    case any.some name | stream.some name =>
      exact .bind (.lift (store_parallel name hobject)) fun _ _ _ => .pure rfl

theorem runQuery_parallel (h : Parallels k react react') (name : Option String)
    (query connection : String) (options : Args) (take : Take) :
    TurnParallel k (Told k) (runQuery react name query connection options take)
      (runQuery react' name query connection options take) := by
  refine .bind (findQuery_parallel query) fun q q' hq => ?_
  refine .bind (findConnection_parallel connection) fun c c' hc => ?_
  refine .bind (.lift (Query.run_parallel h hq hc options)) fun result result' hresult => ?_
  cases hresult with
  | error message => exact .pure rfl
  | ok ho =>
    refine .bind (settleRun_parallel name take ho) fun report _ hreport => .pure ?_
    rw [hreport]

/-! ## Cursors -/

theorem fetchRows_parallel (h : Parallels k react react') (fuel : Nat) (cursor : String)
    (count : Nat) : TurnParallel k (Told k) (fetchRows react fuel cursor count)
      (fetchRows react' fuel cursor count) := by
  refine .bind (takeCursor_parallel cursor) fun c c' hc => ?_
  refine .bind (.lift (fetchMany_parallel hc h fuel count [])) fun out out' hout => ?_
  refine .bind (.lift (store_parallel cursor (.cursor hout.2))) fun _ _ _ => .pure ?_
  simp only [Told, Report.told, hout.1, hout.2.reports]

theorem closeCursor_parallel (h : Parallels k react react') (cursor : String) :
    TurnParallel k (Told k) (closeCursor react cursor) (closeCursor react' cursor) := by
  refine .bind (takeCursor_parallel cursor) fun c c' hc => ?_
  refine .bind (.lift (Cursor.close_parallel hc h)) fun out out' hout => ?_
  refine .bind (.lift (store_parallel cursor (.cursor hout.2))) fun _ _ _ => .pure ?_
  simp only [Told, Report.told, hout.1, hout.2.reports]

end QueryTrace.Session
