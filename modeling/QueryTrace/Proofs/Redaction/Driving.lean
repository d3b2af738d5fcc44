import QueryTrace.Proofs.Redaction.Service
import QueryTrace.Session.Connecting
import QueryTrace.Session.SetUp

/-!
# Steps of the driver on akin desks

Setting up, connections, queries and cursors: what these steps find on akin desks is akin, what
they make is akin, and what they do coincides.
-/

namespace QueryTrace.Session

variable {α β : Type} {react : List Step → Doing Unit}

/-- The turns coincide; what they report may differ. -/
abbrev TurnsCoincide (turn : Turn α) (other : Turn β) : Prop :=
  TurnCoincides (fun _ _ => True) turn other

/-! ## Finding objects -/

section Finding

variable (name : String)

theorem findInstrumentor_coincides : TurnCoincides
    (fun i i' => i = i' ∧ i.layer.Redacts ∧ i.manager.config.Redacts)
    (findInstrumentor name) (findInstrumentor name) :=
  find_coincides (fun o o' h => by
    cases h with
    | instrumentor hlayer hmanager => exact .some ⟨rfl, hlayer, hmanager⟩
    | _ => exact .none) name

theorem findServer_coincides : TurnCoincides Eq (findServer name) (findServer name) :=
  find_coincides (fun o o' h => by
    cases h with
    | server => exact .some rfl
    | _ => exact .none) name

theorem findRoot_coincides : TurnCoincides
    (fun r r' => r = r' ∧ ∀ layer ∈ r.layers, layer.Redacts) (findRoot name) (findRoot name) :=
  find_coincides (fun o o' h => by
    cases h with
    | root hr => exact .some ⟨rfl, hr⟩
    | _ => exact .none) name

theorem findConnection_coincides : TurnCoincides (fun c c' => c = c' ∧ c.Redacts)
    (findConnection name) (findConnection name) :=
  find_coincides (fun o o' h => by
    cases h with
    | connection hc => exact .some ⟨rfl, hc⟩
    | _ => exact .none) name

theorem findQuery_coincides : TurnCoincides Query.Akin (findQuery name) (findQuery name) :=
  find_coincides (fun o o' h => by
    cases h with
    | query hq => exact .some hq
    | _ => exact .none) name

theorem findCursor_coincides : TurnCoincides (fun c c' => c = c' ∧ c.source.Redacts)
    (findCursor name) (findCursor name) :=
  find_coincides (fun o o' h => by
    cases h with
    | cursor hc => exact .some ⟨rfl, hc⟩
    | _ => exact .none) name

theorem findChain_coincides : TurnCoincides Chain.Akin (findChain name) (findChain name) :=
  find_coincides (fun o o' h => by
    cases h with
    | chain hc => exact .some hc
    | _ => exact .none) name

theorem findDeferred_coincides : TurnCoincides
    (fun x y => x = y ∧ x.2.manager.config.Redacts) (findDeferred name) (findDeferred name) := by
  refine .bind (R := Eq) (find_coincides (fun o o' h => ?_) name) fun number _ hnumber => ?_
  · cases h with
    | deferred => exact .some rfl
    | _ => exact .none
  obtain rfl := hnumber
  refine .bind (.lift desk_coincides) fun d d' hd => ?_
  rw [← hd.deferreds]
  split
  · next held hheld => exact .pure ⟨rfl, hd.redacts held (List.mem_of_getElem? hheld)⟩
  · exact .throw _

theorem takeCursor_coincides : TurnCoincides (fun c c' => c = c' ∧ c.source.Redacts)
    (takeCursor name) (takeCursor name) :=
  .bind (findCursor_coincides name) fun _ _ hc =>
    .bind (.lift (remove_coincides name)) fun _ _ _ => .pure hc

theorem takeChain_coincides : TurnCoincides Chain.Akin (takeChain name) (takeChain name) :=
  .bind (findChain_coincides name) fun _ _ hc =>
    .bind (.lift (remove_coincides name)) fun _ _ _ => .pure hc

end Finding

/-! ## Setting up -/

theorem redacts_makeInstrumentor (session : Provider) {config : Config} (hconfig : config.Redacts)
    {backend : Backend} (hbackend : backend ≠ .sharedStandard) :
    (Object.instrumentor (makeInstrumentor session config backend none)).Akin
      (.instrumentor (makeInstrumentor session config backend none)) := by
  have hlayer : backend.layerConfig config = config := by
    cases backend with
    | sharedStandard => exact absurd rfl hbackend
    | _ => rfl
  refine .instrumentor ⟨?_, backend.layerConfig config |>.pathRoot, rfl⟩ hconfig
  rw [makeInstrumentor, hlayer]
  exact hconfig

theorem addInstrumentor_coincides (name : Option String) {config : Config}
    (hconfig : config.Redacts) {backend : Backend} (hbackend : backend ≠ .sharedStandard) :
    TurnsCoincide (addInstrumentor name config backend none)
      (addInstrumentor name config backend none) := by
  refine .bind (.lift desk_coincides) fun d d' hd => ?_
  rw [hd.provider]
  exact .bind (keep_coincides name (redacts_makeInstrumentor _ hconfig hbackend)) fun _ _ _ =>
    .pure trivial

theorem addServer_coincides (name : Option String) (latency : Nat) :
    TurnsCoincide (addServer name latency) (addServer name latency) := by
  refine .bind (.lift desk_coincides) fun d d' hd => ?_
  rw [hd.servers.length_eq]
  refine .bind (.lift (changeDesk_coincides fun d d' hd => { hd with servers := ?_ }))
    fun _ _ _ => .bind (keep_coincides name (.server _)) fun _ _ _ => .pure trivial
  exact List.rel_append hd.servers (.cons ⟨.nil, rfl, rfl, rfl⟩ .nil)

theorem addResponses_coincides (server : String) {responses responses' : List (Reply Step)}
    (h : List.Forall₂ Reply.Akin responses responses') (connects closes : List (Option String)) :
    TurnsCoincide (addResponses server responses connects closes)
      (addResponses server responses' connects closes) := by
  refine .bind (findServer_coincides server) fun number _ hnumber => ?_
  obtain rfl := hnumber
  refine .bind (.lift (changeServer_coincides number fun s s' hs =>
    { responses := List.rel_append hs.responses h
      connects := congrArg (· ++ connects) hs.connects
      closes := congrArg (· ++ closes) hs.closes
      latency := hs.latency })) fun _ _ _ => ?_
  refine .bind (.lift desk_coincides) fun d d' hd => ?_
  have hserver := related_getElem? hd.servers number
  generalize d.servers[number]? = s, d'.servers[number]? = s' at hserver
  cases hserver with
  | none => exact .throw _
  | some _ => exact .pure trivial

theorem findBase_coincides (base : RootBase) : TurnCoincides
    (fun r r' => r = r' ∧ ∀ layer ∈ r.layers, layer.Redacts) (findBase base) (findBase base) := by
  cases base with
  | server name =>
    exact .bind (findServer_coincides name) fun number _ hnumber =>
      .pure ⟨by rw [hnumber], fun _ h => absurd h List.not_mem_nil⟩
  | «over» name => exact findRoot_coincides name

theorem addRoot_coincides (name : Option String) (base : RootBase) (layer : Option String) :
    TurnsCoincide (addRoot name base layer) (addRoot name base layer) := by
  refine .bind (findBase_coincides base) fun r _ hr => ?_
  obtain ⟨rfl, hr⟩ := hr
  cases layer with
  | none => exact .bind (keep_coincides name (.root hr)) fun _ _ _ => .pure trivial
  | some instrumentor =>
    refine .bind (.lift desk_coincides) fun d d' hd => ?_
    rw [hd.hasRoom]
    split
    · refine .bind (findInstrumentor_coincides instrumentor) fun i _ hi => ?_
      obtain ⟨rfl, hlayer, -⟩ := hi
      refine .bind (keep_coincides name (.root ?_)) fun _ _ _ => .pure trivial
      exact List.forall_mem_cons.mpr ⟨hlayer, hr⟩
    · exact .throw _

theorem unwrapRoot_coincides (name : Option String) (root : String) :
    TurnsCoincide (unwrapRoot name root) (unwrapRoot name root) := by
  refine .bind (findRoot_coincides root) fun r _ hr => ?_
  obtain ⟨rfl, hr⟩ := hr
  dsimp only
  split
  · exact .throw _
  · refine .bind (keep_coincides name (.root ?_)) fun _ _ _ => .pure trivial
    exact fun layer hlayer => hr layer (List.mem_of_mem_tail hlayer)

/-! ## Connections -/

theorem storeConnection_coincides (name : Option String) {result : Except String Connection}
    (h : ∀ c, result = .ok c → c.Redacts) :
    TurnsCoincide (storeConnection name result) (storeConnection name result) := by
  cases result with
  | error message => exact .pure trivial
  | ok c =>
    exact .bind (keep_coincides name (.connection (h c rfl))) fun _ _ _ => .pure trivial

theorem connect_coincides (name : Option String) (root : String) (args : Args) :
    TurnsCoincide (connect name root args) (connect name root args) := by
  refine .bind (findRoot_coincides root) fun r _ hr => ?_
  obtain ⟨rfl, hr⟩ := hr
  refine .bind (.lift (Root.connect_coincides hr args)) fun result _ hresult => ?_
  obtain ⟨rfl, hredacts⟩ := hresult
  exact storeConnection_coincides name hredacts

theorem openPlain_coincides (name : Option String) (server : String) :
    TurnsCoincide (openPlain name server) (openPlain name server) := by
  refine .bind (findServer_coincides server) fun number _ hnumber => ?_
  obtain rfl := hnumber
  refine storeConnection_coincides name fun c hc => ?_
  cases hc
  exact fun layer hlayer => absurd hlayer List.not_mem_nil

theorem unwrapConnection_coincides (name : Option String) (connection : String) :
    TurnsCoincide (unwrapConnection name connection) (unwrapConnection name connection) := by
  refine .bind (findConnection_coincides connection) fun c _ hc => ?_
  obtain ⟨rfl, hredacts⟩ := hc
  dsimp only
  split
  · exact .throw _
  · refine storeConnection_coincides name fun c' hc' => ?_
    cases hc'
    exact fun layer hlayer => hredacts layer (List.mem_of_mem_tail hlayer)

theorem reconnect_coincides (name : Option String) (connection : String) (noreplyWait : Bool)
    (timeout : Option Nat) : TurnsCoincide (reconnect name connection noreplyWait timeout)
      (reconnect name connection noreplyWait timeout) := by
  refine .bind (findConnection_coincides connection) fun c _ hc => ?_
  obtain ⟨rfl, hredacts⟩ := hc
  refine .bind (.lift (Connection.reconnect_coincides hredacts noreplyWait timeout))
    fun result _ hresult => ?_
  obtain ⟨rfl, hredacts⟩ := hresult
  exact storeConnection_coincides name hredacts

/-- The layer of a wrapping that is plain keeps literals to itself. -/
theorem findLayer_coincides {wrapping : Wrapping}
    (h : ∀ config, wrapping = .config config → config.Redacts) :
    TurnCoincides (fun l l' => l = l' ∧ l.Redacts) (findLayer wrapping) (findLayer wrapping) := by
  cases wrapping with
  | instrumentor name =>
    refine .bind (findInstrumentor_coincides name) fun i _ hi => ?_
    obtain ⟨rfl, hlayer, -⟩ := hi
    exact .pure ⟨rfl, hlayer⟩
  | config config =>
    refine .bind (.lift desk_coincides) fun d d' hd => ?_
    rw [hd.provider]
    exact .pure ⟨rfl, h config rfl, config.pathRoot, rfl⟩
  | malformed field => exact .throw _

theorem wrapConnection_coincides (name : Option String) (connection : String)
    {wrapping : Wrapping} (h : ∀ config, wrapping = .config config → config.Redacts) :
    TurnsCoincide (wrapConnection name connection wrapping)
      (wrapConnection name connection wrapping) := by
  refine .bind (findConnection_coincides connection) fun c _ hc => ?_
  obtain ⟨rfl, hredacts⟩ := hc
  refine .bind (.lift desk_coincides) fun d d' hd => ?_
  rw [hd.hasRoom]
  split
  · refine .bind (findLayer_coincides h) fun layer _ hlayer => ?_
    obtain ⟨rfl, hlayer⟩ := hlayer
    refine storeConnection_coincides name fun c' hc' => ?_
    cases hc'
    exact List.forall_mem_cons.mpr ⟨hlayer, hredacts⟩
  · exact .throw _

theorem showConfigs_coincides (name : String) :
    TurnsCoincide (showConfigs name) (showConfigs name) :=
  find_coincides (fun o o' h => by
    cases h with
    | instrumentor => exact .some trivial
    | connection =>
      dsimp only
      split
      · exact .none
      · exact .some trivial
    | _ => exact .none) name

theorem closeConnection_coincides (connection : String) (noreplyWait : Bool) :
    TurnsCoincide (closeConnection connection noreplyWait)
      (closeConnection connection noreplyWait) := by
  refine .bind (findConnection_coincides connection) fun c _ hc => ?_
  obtain ⟨rfl, -⟩ := hc
  exact .bind (.lift (Connection.close_coincides c noreplyWait)) fun _ _ _ => .pure trivial

theorem send_coincides (h : Coinciding react) (connection : String) (request : Request)
    (noreply : Bool) : TurnsCoincide (send react connection request noreply)
      (send react connection request noreply) := by
  refine .bind (findConnection_coincides connection) fun c _ hc => ?_
  obtain ⟨rfl, hredacts⟩ := hc
  exact .bind (.lift (Connection.send_coincides h hredacts (.refl request) noreply noreply))
    fun _ _ _ => .pure trivial

/-! ## Queries -/

theorem storeQuery_coincides (name : Option String) {q q' : Query} (h : q.Akin q') :
    TurnsCoincide (storeQuery name q) (storeQuery name q') :=
  .bind (keep_coincides name (.query h)) fun _ _ _ => .pure trivial

theorem startQuery_coincides (name : Option String) (root method : String) {args args' : Args}
    (h : (Wire.root method args).OpensLike (Wire.root method args')) :
    TurnsCoincide (startQuery name root method args) (startQuery name root method args') := by
  refine .bind (findRoot_coincides root) fun r _ hr => ?_
  obtain ⟨rfl, hr⟩ := hr
  dsimp only
  split
  · exact storeQuery_coincides name (Root.query_akin hr h)
  · exact .throw _

theorem callQuery_coincides (name : Option String) (query method : String) (args args' : Args) :
    TurnsCoincide (callQuery name query method args) (callQuery name query method args') := by
  refine .bind (findQuery_coincides query) fun q q' hq => ?_
  dsimp only
  split
  · exact storeQuery_coincides name (hq.call ..)
  · exact .throw _

theorem unwrapQuery_coincides (name : Option String) (query : String) :
    TurnsCoincide (unwrapQuery name query) (unwrapQuery name query) := by
  refine .bind (findQuery_coincides query) fun q q' hq => ?_
  obtain ⟨layers, wire⟩ := q
  obtain ⟨layers', wire'⟩ := q'
  obtain ⟨hlayers, hwire⟩ := hq
  cases hlayers with
  | nil => exact .throw _
  | cons _ hrest => exact storeQuery_coincides name ⟨hrest, hwire⟩

theorem showQuery_coincides (query : String) :
    TurnsCoincide (showQuery query) (showQuery query) :=
  .bind (findQuery_coincides query) fun _ _ _ => .pure trivial

theorem settleRun_coincides (name : Option String) (take : Take) {o : Outcome Cursor}
    (h : ∀ c, o = .stream c → c.source.Redacts) :
    TurnsCoincide (settleRun name take o) (settleRun name take o) := by
  cases o with
  | value v => cases take <;> exact .pure trivial
  | stream c =>
    have hc : (Object.cursor c).Akin (.cursor c) := .cursor (h c rfl)
    cases take <;> cases name
    case value.none | value.some =>
      exact .bind (.lift (discard_coincides hc)) fun _ _ _ => .pure trivial
    case any.none | stream.none =>
      exact .bind (.lift (discard_coincides hc)) fun _ _ _ => .pure trivial
    case any.some name | stream.some name =>
      exact .bind (.lift (store_coincides name hc)) fun _ _ _ => .pure trivial

theorem runQuery_coincides (h : Coinciding react) (name : Option String)
    (query connection : String) (options options' : Args) (take : Take) :
    TurnsCoincide (runQuery react name query connection options take)
      (runQuery react name query connection options' take) := by
  refine .bind (findQuery_coincides query) fun q q' hq => ?_
  refine .bind (findConnection_coincides connection) fun c _ hc => ?_
  obtain ⟨rfl, hredacts⟩ := hc
  refine .bind (.lift (Query.run_coincides h hq hredacts options options'))
    fun result _ hresult => ?_
  obtain ⟨rfl, hcursor⟩ := hresult
  cases result with
  | error message => exact .pure trivial
  | ok o =>
    refine .bind (settleRun_coincides name take fun c hc => hcursor c (congrArg _ hc))
      fun _ _ _ => .pure trivial

theorem fetchRows_coincides (h : Coinciding react) (fuel : Nat) (cursor : String) (count : Nat) :
    TurnsCoincide (fetchRows react fuel cursor count) (fetchRows react fuel cursor count) := by
  refine .bind (takeCursor_coincides cursor) fun c _ hc => ?_
  obtain ⟨rfl, hredacts⟩ := hc
  refine .bind (.lift (fetchMany_coincides hredacts h fuel count [])) fun out _ hout => ?_
  obtain ⟨rfl, hredacts⟩ := hout
  exact .bind (.lift (store_coincides cursor (.cursor hredacts))) fun _ _ _ => .pure trivial

theorem closeCursor_coincides (h : Coinciding react) (cursor : String) :
    TurnsCoincide (closeCursor react cursor) (closeCursor react cursor) := by
  refine .bind (takeCursor_coincides cursor) fun c _ hc => ?_
  obtain ⟨rfl, hredacts⟩ := hc
  refine .bind (.lift (Cursor.close_coincides hredacts h)) fun out _ hout => ?_
  obtain ⟨rfl, hredacts⟩ := hout
  exact .bind (.lift (store_coincides cursor (.cursor hredacts))) fun _ _ _ => .pure trivial

end QueryTrace.Session
