import QueryTrace.Proofs.Contexts.Layers
import QueryTrace.Proofs.Session.Ambient
import QueryTrace.Proofs.Spans.Handles
import QueryTrace.Session.Run

/-!
# Contexts are restored

Operations of the layers can stand inside one another to any depth: as the callees of a client, or
in the steps of a session, where a server carries steps out before it answers. Every client and
every session keeps the contexts, so whoever calls an operation finds its own context current
afterwards (`contexts_restored`).
-/

namespace QueryTrace

/-! ## Clients -/

theorem Client.run_keepsContexts {α : Type} (p : Client α) : KeepsContexts p.run := by
  refine ⟨fun w => ?_⟩
  obtain ⟨H, -, -, hcontexts⟩ :=
    (p.run_does (c := w.current)).moves 0 w.program.holds w rfl le_rfl
  exact hcontexts

namespace Session

variable {α β : Type}

/-! ## The desk -/

theorem desk_keepsContexts : KeepsContexts desk := .bind .get fun _ => .pure _

theorem changeDesk_keepsContexts (f : Desk → Desk) : KeepsContexts (changeDesk f) :=
  .update fun _ => rfl

theorem changeHeld_keepsContexts (number : Nat) (f : HeldSpan → HeldSpan) :
    KeepsContexts (changeHeld number f) := changeDesk_keepsContexts _

theorem release_keepsContexts (number : Nat) : KeepsContexts (release number) := by
  refine .bind (changeDesk_keepsContexts _) fun _ => .bind desk_keepsContexts fun d => ?_
  split
  · split
    · exact Deferred.abandon_keepsContexts _
    · exact .pure _
  · exact .pure _

theorem discard_keepsContexts (o : Object) : KeepsContexts (discard o) := by
  cases o with
  | cursor c =>
    show KeepsContexts (c.layers.forM RowsLayer.drop)
    induction c.layers with
    | nil => exact .pure _
    | cons layer layers ih => exact .bind layer.drop_keepsContexts fun _ => ih
  | deferred number => exact release_keepsContexts number
  | _ => exact .pure _

theorem lookup_keepsContexts (name : String) : KeepsContexts (lookup? name) :=
  .bind desk_keepsContexts fun _ => .pure _

theorem store_keepsContexts (name : String) (o : Object) : KeepsContexts (store name o) := by
  refine .bind (lookup_keepsContexts name) fun old => .bind (changeDesk_keepsContexts _) fun _ => ?_
  split
  · exact discard_keepsContexts _
  · exact .pure _

theorem dropObject_keepsContexts (name : String) : KeepsContexts (dropObject name) := by
  refine .bind (lookup_keepsContexts name) fun old => ?_
  cases old with
  | none => exact .pure _
  | some o =>
    exact .bind (changeDesk_keepsContexts _) fun _ =>
      .bind (discard_keepsContexts o) fun _ => .pure _

theorem clear_keepsContexts : KeepsContexts clear := by
  refine .bind desk_keepsContexts fun d => .bind (changeDesk_keepsContexts _) fun _ => ?_
  induction d.objects with
  | nil => exact .pure _
  | cons o objects ih => exact .bind (discard_keepsContexts o.2) fun _ => ih

/-! ## Turns -/

/-- The turn keeps the contexts, also when a fault ends it. -/
def TurnKeepsContexts (turn : Turn α) : Prop := KeepsContexts turn.run

namespace TurnKeepsContexts

theorem pure (a : α) : TurnKeepsContexts (pure a : Turn α) := KeepsContexts.pure _

theorem throw (fault : Fault) : TurnKeepsContexts (throw fault : Turn α) := KeepsContexts.pure _

theorem lift {act : Doing α} (h : KeepsContexts act) :
    TurnKeepsContexts (ExceptT.lift act : Turn α) := ⟨h.contexts⟩

theorem bind {turn : Turn α} {f : α → Turn β} (h : TurnKeepsContexts turn)
    (hf : ∀ a, TurnKeepsContexts (f a)) : TurnKeepsContexts (turn >>= f) := by
  show KeepsContexts (turn.run >>= ExceptT.bindCont f)
  refine KeepsContexts.bind h fun r => ?_
  cases r with
  | ok a => exact hf a
  | error fault => exact KeepsContexts.pure _

theorem desk : TurnKeepsContexts (ExceptT.lift desk) := .lift desk_keepsContexts

theorem changeDesk (f : Desk → Desk) : TurnKeepsContexts (ExceptT.lift (changeDesk f)) :=
  .lift (changeDesk_keepsContexts f)

theorem changeHeld (number : Nat) (f : HeldSpan → HeldSpan) :
    TurnKeepsContexts (ExceptT.lift (changeHeld number f)) := .lift (changeHeld_keepsContexts ..)

theorem changeServer (number : Nat) (f : Server → Server) :
    TurnKeepsContexts (ExceptT.lift (changeServer number f)) := .lift (changeDesk_keepsContexts _)

theorem remove (name : String) : TurnKeepsContexts (ExceptT.lift (remove name)) :=
  .lift (changeDesk_keepsContexts _)

theorem store (name : String) (o : Object) : TurnKeepsContexts (ExceptT.lift (store name o)) :=
  .lift (store_keepsContexts name o)

theorem find (pick : Object → Option α) (name : String) : TurnKeepsContexts (find pick name) := by
  refine .bind (.lift (lookup_keepsContexts name)) fun o => ?_
  split
  · exact .pure _
  · exact .throw _

theorem keep (name : Option String) (o : Object) : TurnKeepsContexts (keep name o) := by
  cases name with
  | some name => exact .store name o
  | none => exact .bind (.lift (discard_keepsContexts o)) fun _ => .throw _

theorem findDeferred (name : String) : TurnKeepsContexts (findDeferred name) := by
  refine .bind (.find _ name) fun number => .bind .desk fun d => ?_
  split
  · exact .pure _
  · exact .throw _

theorem takeChain (name : String) : TurnKeepsContexts (takeChain name) :=
  .bind (.find _ name) fun _ => .bind (.remove name) fun _ => .pure _

theorem takeCursor (name : String) : TurnKeepsContexts (takeCursor name) :=
  .bind (.find _ name) fun _ => .bind (.remove name) fun _ => .pure _

theorem takeSource (spec : SourceSpec) : TurnKeepsContexts (takeSource spec) := by
  cases spec with
  | chain name => exact .bind (.takeChain name) fun _ => .pure _
  | request query summary => exact .pure _

theorem returnSource (spec : SourceSpec) (source : Source) :
    TurnKeepsContexts (returnSource spec source) := by
  cases spec with
  | request query summary => exact .pure _
  | chain name =>
    cases source with
    | request query summary => exact .pure _
    | chain c => exact .bind (.store name _) fun _ => .pure _

end TurnKeepsContexts

/-! ## Setting up -/

theorem addResponses_keepsContexts (server : String) (responses : List (Reply Step))
    (connects closes : List (Option String)) :
    TurnKeepsContexts (addResponses server responses connects closes) := by
  refine .bind (.find _ server) fun number => .bind (.changeServer ..) fun _ => ?_
  refine .bind .desk fun d => ?_
  split
  · exact .pure _
  · exact .throw _

theorem addRoot_keepsContexts (name : Option String) (base : RootBase) (layer : Option String) :
    TurnKeepsContexts (addRoot name base layer) := by
  have hbase : TurnKeepsContexts (findBase base) := by
    cases base with
    | server name => exact .bind (.find _ name) fun _ => .pure _
    | «over» name => exact .find _ name
  refine .bind hbase fun root => ?_
  cases layer with
  | none => exact .bind (.keep ..) fun _ => .pure _
  | some instrumentor =>
    have hkeep : TurnKeepsContexts (do
        keep name (.root (root.wrap (← findInstrumentor instrumentor).layer))
        return Report.nothing) :=
      .bind (.find _ instrumentor) fun _ => .bind (.keep ..) fun _ => .pure _
    refine .bind .desk fun d => ?_
    split
    · exact hkeep
    · exact .bind (.throw _) fun _ => hkeep

theorem unwrapRoot_keepsContexts (name : Option String) (root : String) :
    TurnKeepsContexts (unwrapRoot name root) := by
  refine .bind (.find _ root) fun r => ?_
  have hkeep : TurnKeepsContexts (do
      keep name (.root { r with layers := r.layers.tail })
      return Report.nothing) := .bind (.keep ..) fun _ => .pure _
  dsimp only
  split
  · exact .bind (.throw _) fun _ => hkeep
  · exact hkeep

/-! ## Connections -/

theorem storeConnection_keepsContexts (name : Option String) (made : Except String Connection) :
    TurnKeepsContexts (storeConnection name made) := by
  cases made with
  | ok c => exact .bind (.keep ..) fun _ => .pure _
  | error message => exact .pure _

/-- The next outcome is taken from the queue of a server. -/
theorem taken_keepsContexts (number : Nat) (f : Server → Server) (g : Desk → α) :
    KeepsContexts (do
      let d ← desk
      changeServer number f
      return g d) :=
  .bind desk_keepsContexts fun _ => .bind (changeDesk_keepsContexts _) fun _ => .pure _

theorem Root.connect_keepsContexts (root : Root) (args : Args) :
    KeepsContexts (root.connect args) :=
  .bind (.note _) fun _ => .bind (taken_keepsContexts ..) fun _ => .pure _

theorem Connection.reconnect_keepsContexts (c : Connection) (noreplyWait : Bool)
    (timeout : Option Nat) : KeepsContexts (c.reconnect noreplyWait timeout) :=
  Layer.reconnectThrough_keepsContexts c.layers <|
    .bind (.note _) fun _ => .bind (taken_keepsContexts ..) fun _ => .pure _

theorem Connection.close_keepsContexts (c : Connection) (noreplyWait : Bool) :
    KeepsContexts (c.close noreplyWait) :=
  .bind (.note _) fun _ => .bind (taken_keepsContexts ..) fun _ => .pure _

theorem unwrapConnection_keepsContexts (name : Option String) (connection : String) :
    TurnKeepsContexts (unwrapConnection name connection) := by
  refine .bind (.find _ connection) fun c => ?_
  dsimp only
  split
  · exact .bind (.throw _) fun _ => storeConnection_keepsContexts ..
  · exact storeConnection_keepsContexts ..

theorem findLayer_keepsContexts (wrapping : Wrapping) :
    TurnKeepsContexts (findLayer wrapping) := by
  cases wrapping with
  | instrumentor name => exact .bind (.find _ name) fun _ => .pure _
  | config config => exact .bind .desk fun _ => .pure _
  | malformed field => exact .throw _

theorem wrapConnection_keepsContexts (name : Option String) (connection : String)
    (wrapping : Wrapping) : TurnKeepsContexts (wrapConnection name connection wrapping) := by
  refine .bind (.find _ connection) fun c => ?_
  have hwrap : TurnKeepsContexts (do
      let layer ← findLayer wrapping
      storeConnection name (.ok (c.wrap layer))) :=
    .bind (findLayer_keepsContexts wrapping) fun _ => storeConnection_keepsContexts ..
  refine .bind .desk fun d => ?_
  split
  · exact hwrap
  · exact .bind (.throw _) fun _ => hwrap

/-! ## Chains and queries -/

theorem storeChain_keepsContexts (name : Option String) (c : Chain) :
    TurnKeepsContexts (storeChain name c) := .bind (.keep ..) fun _ => .pure _

theorem copyChain_keepsContexts (name : Option String) (query : String) :
    TurnKeepsContexts (copyChain name query) := by
  refine .bind (.find _ query) fun q => ?_
  split
  · exact storeChain_keepsContexts ..
  · exact .throw _

theorem storeQuery_keepsContexts (name : Option String) (q : Query) :
    TurnKeepsContexts (storeQuery name q) := .bind (.keep ..) fun _ => .pure _

theorem startQuery_keepsContexts (name : Option String) (root method : String) (args : Args) :
    TurnKeepsContexts (startQuery name root method args) := by
  refine .bind (.find _ root) fun r => ?_
  dsimp only
  split
  · exact storeQuery_keepsContexts ..
  · exact .bind (.throw _) fun _ => storeQuery_keepsContexts ..

theorem callQuery_keepsContexts (name : Option String) (query method : String) (args : Args) :
    TurnKeepsContexts (callQuery name query method args) := by
  refine .bind (.find _ query) fun q => ?_
  dsimp only
  split
  · exact storeQuery_keepsContexts ..
  · exact .bind (.throw _) fun _ => storeQuery_keepsContexts ..

theorem unwrapQuery_keepsContexts (name : Option String) (query : String) :
    TurnKeepsContexts (unwrapQuery name query) := by
  refine .bind (.find _ query) fun q => ?_
  dsimp only
  split
  · exact .bind (.throw _) fun _ => storeQuery_keepsContexts ..
  · exact storeQuery_keepsContexts ..

/-! ## Steps that carry steps -/

section React

variable {react : List Step → Doing Unit} (h : ∀ steps, KeepsContexts (react steps))
include h

theorem handle_keepsContexts (server generation : Nat) (request : Request) (noreply : Bool) :
    KeepsContexts (handle react server generation request noreply) := by
  refine .bind (.note _) fun _ => .bind (taken_keepsContexts ..) fun reply => ?_
  refine .bind desk_keepsContexts fun d => .bind (.update fun _ => rfl) fun _ => ?_
  refine .bind (h reply.before) fun _ => ?_
  split
  · exact .pure _
  · exact .pure _

theorem send_keepsContexts (c : Connection) (request : Request) (noreply : Bool) :
    KeepsContexts (c.send react request noreply) :=
  Layer.sendThrough_keepsContexts c.layers request noreply (handle_keepsContexts h ..)

theorem streamNext_keepsContexts (c : Connection) (fuel : Nat) (stream : Stream) :
    KeepsContexts (stream.next (c.send react) fuel) := by
  induction fuel generalizing stream with
  | zero => exact .pure _
  | succ fuel ih =>
    unfold Stream.next
    split
    · exact .pure _
    · split
      · refine .bind (send_keepsContexts h c ..) fun response => ?_
        split
        · exact .pure _
        · exact ih _
        · exact ih _
      · exact .pure _

theorem streamClose_keepsContexts (c : Connection) (stream : Stream) :
    KeepsContexts (stream.close (c.send react)) := by
  unfold Stream.close
  split
  · refine .bind (send_keepsContexts h c ..) fun response => ?_
    cases response <;> exact .pure _
  · exact .pure _

theorem Cursor.next_keepsContexts (fuel : Nat) (c : Cursor) :
    KeepsContexts (c.next react fuel) :=
  .bind (RowsLayer.nextThrough_keepsContexts c.layers (streamNext_keepsContexts h ..)) fun _ =>
    .pure _

theorem Cursor.close_keepsContexts (c : Cursor) : KeepsContexts (c.close react) :=
  .bind (RowsLayer.closeThrough_keepsContexts c.layers (streamClose_keepsContexts h ..)) fun _ =>
    .pure _

theorem fetchMany_keepsContexts (fuel count : Nat) (fetched : List Fetched) (c : Cursor) :
    KeepsContexts (fetchMany react fuel count fetched c) := by
  induction count generalizing fetched c with
  | zero => exact .pure _
  | succ count ih => exact .bind (Cursor.next_keepsContexts h fuel c) fun x => ih _ x.2

theorem Query.run_keepsContexts (q : Query) (c : Connection) (options : Args) :
    KeepsContexts (q.run react c options) := by
  refine .bind (QueryLayer.runThrough_keepsContexts options q.layers ?_) fun _ => .pure _
  refine .bind (send_keepsContexts h c ..) fun response => ?_
  split <;> exact .pure _

theorem runQuery_keepsContexts (name : Option String) (query connection : String) (options : Args)
    (take : Take) : TurnKeepsContexts (runQuery react name query connection options take) := by
  refine .bind (.find _ query) fun q => .bind (.find _ connection) fun c => ?_
  refine .bind (.lift (Query.run_keepsContexts h q c options)) fun outcome => ?_
  split
  · exact .pure _
  · refine .bind ?_ fun _ => .pure _
    unfold settleRun
    split
    · split <;> exact .pure _
    · split
      · exact .bind (.lift (discard_keepsContexts _)) fun _ => .pure _
      · exact .bind (.store ..) fun _ => .pure _
      · exact .bind (.lift (discard_keepsContexts _)) fun _ => .pure _

theorem fetchRows_keepsContexts (fuel : Nat) (cursor : String) (count : Nat) :
    TurnKeepsContexts (fetchRows react fuel cursor count) := by
  refine .bind (.takeCursor cursor) fun c => ?_
  exact .bind (.lift (fetchMany_keepsContexts h fuel count [] c)) fun _ =>
    .bind (.store ..) fun _ => .pure _

theorem closeCursor_keepsContexts (cursor : String) :
    TurnKeepsContexts (closeCursor react cursor) := by
  refine .bind (.takeCursor cursor) fun c => ?_
  exact .bind (.lift (Cursor.close_keepsContexts h c)) fun _ => .bind (.store ..) fun _ => .pure _

theorem execute_keepsContexts (manager : String) (spec : SourceSpec) (role : Role)
    (body : List Step) (result : Except String Value) :
    TurnKeepsContexts (execute react manager spec role body result) := by
  have hcallee : KeepsContexts (callee react body result) :=
    .bind (.note _) fun _ => .bind (h body) fun _ => .pure _
  refine .bind (.find _ manager) fun i => .bind (.takeSource spec) fun source => ?_
  exact .bind (.lift (Manager.trace_keepsContexts hcallee i.manager source role)) fun x =>
    .bind (.returnSource spec x.2) fun _ => .pure _

theorem ambient_keepsContexts (name : String) (provider : Provider) (body : List Step) :
    KeepsContexts (ambient react name provider body) := by
  refine ⟨fun w => ?_⟩
  rw [after_ambient, World.contexts_finish, World.contexts_detach, (h body).contexts]
  exact w.contexts_startSpan ..

theorem detached_keepsContexts (body : List Step) : KeepsContexts (detached react body) :=
  .bind (.within _ (h body)) fun _ => .pure _

theorem scopeDeferred_keepsContexts (name : String) (body : List Step) :
    TurnKeepsContexts (scopeDeferred react name body) := by
  refine .bind (.findDeferred name) fun x => .bind (.changeHeld ..) fun _ => ?_
  refine .bind (.lift (x.2.inScope_keepsContexts (h body))) fun _ => .bind .desk fun _ => ?_
  exact .bind (.lift (release_keepsContexts x.1)) fun _ => .pure _

end React

theorem endCurrent_keepsContexts : KeepsContexts endCurrent :=
  .bind (.update fun w => w.contexts_finish w.current.span) fun _ => .bind .get fun _ => .pure _

/-! ## Deferred spans -/

theorem startDeferred_keepsContexts (name chain : String) :
    TurnKeepsContexts (startDeferred name chain) := by
  refine .bind (.findDeferred name) fun x => .bind (.takeChain chain) fun c => ?_
  refine .bind (.lift (x.2.start_keepsContexts c)) fun _ => .bind (.changeHeld ..) fun _ => ?_
  exact .bind (.store ..) fun _ => .pure _

theorem stopDeferred_keepsContexts (name chain : String) :
    TurnKeepsContexts (stopDeferred name chain) := by
  refine .bind (.findDeferred name) fun x => .bind (.takeChain chain) fun c => ?_
  refine .bind (.lift (x.2.stop_keepsContexts c)) fun _ => .bind (.changeHeld ..) fun _ => ?_
  exact .bind (.store ..) fun _ => .pure _

/-! ## Reports -/

theorem showObject_keepsContexts (name : String) (executor : Bool) :
    TurnKeepsContexts (showObject name executor) := by
  refine .bind (.find _ name) fun o => .bind ?_ fun _ => .pure _
  cases o with
  | server number => exact .throw _
  | deferred number =>
    refine .bind .desk fun d => ?_
    split
    · exact .pure _
    · exact .throw _
  | _ => exact .pure _

theorem refuse_keepsContexts (needs : List (Kind × String)) (field : String) :
    TurnKeepsContexts (refuse needs field) := by
  unfold refuse
  refine .bind ?_ fun _ => .throw _
  induction needs with
  | nil => exact .pure _
  | cons need needs ih =>
    rw [List.forIn_cons]
    refine .bind (.bind (.find ..) fun _ => .pure _) fun x => ?_
    cases x with
    | done a => exact .pure _
    | yield a => exact ih

/-! ## Steps and runs -/

/-- A step keeps the contexts if the steps inside it do. -/
theorem perform_keepsContexts {react : List Step → Doing Unit}
    (h : ∀ steps, KeepsContexts (react steps)) (fuel : Nat) (step : Step) :
    TurnKeepsContexts (step.perform react fuel) := by
  cases step with
  | instrument name config backend classifier =>
    exact .bind .desk fun _ => .bind (.keep ..) fun _ => .pure _
  | server name latency =>
    exact .bind .desk fun _ => .bind (.changeDesk _) fun _ => .bind (.keep ..) fun _ => .pure _
  | respond server responses connects closes => exact addResponses_keepsContexts ..
  | root name base layer => exact addRoot_keepsContexts ..
  | unwrapRoot name root => exact unwrapRoot_keepsContexts ..
  | connect name root args =>
    exact .bind (.find ..) fun r => .bind (.lift (r.connect_keepsContexts args)) fun _ =>
      storeConnection_keepsContexts ..
  | openPlain name server => exact .bind (.find ..) fun _ => storeConnection_keepsContexts ..
  | unwrap name connection => exact unwrapConnection_keepsContexts ..
  | reconnect name connection noreplyWait timeout =>
    exact .bind (.find ..) fun c => .bind (.lift (c.reconnect_keepsContexts ..)) fun _ =>
      storeConnection_keepsContexts ..
  | wrap name connection wrapping => exact wrapConnection_keepsContexts ..
  | configOf name => exact .find ..
  | closeConnection connection noreplyWait =>
    exact .bind (.find ..) fun c => .bind (.lift (c.close_keepsContexts _)) fun _ => .pure _
  | send connection request noreply =>
    exact .bind (.find ..) fun c => .bind (.lift (send_keepsContexts h c ..)) fun _ => .pure _
  | query name root method args => exact startQuery_keepsContexts ..
  | call name query method args => exact callQuery_keepsContexts ..
  | unwrapQuery name query => exact unwrapQuery_keepsContexts ..
  | queryInfo query => exact .bind (.find ..) fun _ => .pure _
  | run name query connection options take => exact runQuery_keepsContexts h ..
  | next cursor count => exact fetchRows_keepsContexts h ..
  | close cursor => exact closeCursor_keepsContexts h cursor
  | drop name => exact .lift (dropObject_keepsContexts name)
  | chain name rootName args => exact storeChain_keepsContexts ..
  | chainOf name query => exact copyChain_keepsContexts ..
  | record chain method args => exact .bind (.find ..) fun _ => storeChain_keepsContexts ..
  | reset chain => exact .bind (.find ..) fun _ => storeChain_keepsContexts ..
  | execute manager spec role body result => exact execute_keepsContexts h ..
  | describe manager spec =>
    refine .bind (.find ..) fun i => .bind (.takeSource spec) fun source => ?_
    refine .bind (.lift .current) fun context => .bind (.lift (.describe ..)) fun source => ?_
    exact .bind (.returnSource spec source) fun _ => .pure _
  | current => exact .lift (.bind .get fun _ => .pure _)
  | endCurrent => exact .lift endCurrent_keepsContexts
  | ambient name provider body => exact .lift (ambient_keepsContexts h ..)
  | detached body => exact .lift (detached_keepsContexts h body)
  | deferred name manager =>
    exact .bind (.find ..) fun _ => .bind .desk fun _ => .bind (.changeDesk _) fun _ =>
      .bind (.keep ..) fun _ => .pure _
  | startDeferred deferred chain => exact startDeferred_keepsContexts ..
  | stopDeferred deferred chain => exact stopDeferred_keepsContexts ..
  | scope deferred body => exact scopeDeferred_keepsContexts h ..
  | noteError deferred message =>
    exact .bind (.findDeferred _) fun x =>
      .bind (.lift (x.2.noteError_keepsContexts _)) fun _ => .pure _
  | noteRows deferred rows =>
    exact .bind (.findDeferred _) fun x =>
      .bind (.lift (x.2.noteRows_keepsContexts _)) fun _ => .pure _
  | debug name executor => exact showObject_keepsContexts ..
  | malformed verb needs field => exact refuse_keepsContexts ..

/-- Steps keep the contexts, at any depth. -/
theorem runSteps_keepsContexts (fuel depth : Nat) (steps : List Step) :
    KeepsContexts (runSteps fuel depth steps) := by
  -- The steps inside a step have less fuel and one more level of depth.
  induction fuel generalizing depth steps with
  | zero => exact .pure _
  | succ fuel ih =>
    induction steps with
    | nil => exact .pure _
    | cons step steps ihSteps =>
      have hstep : KeepsContexts (do
          let result ← (step.perform (runSteps fuel (depth + 1)) (fuel + 1)).run
          note (.step step.verb depth result)) :=
        .bind (perform_keepsContexts (ih (depth + 1)) (fuel + 1) step) fun _ => .note _
      exact .bind hstep fun _ => ihSteps

/-- A whole session keeps the contexts, also when its objects are dropped in the end. -/
theorem Script.play_keepsContexts (s : Script) : KeepsContexts s.play :=
  .bind (runSteps_keepsContexts ..) fun _ => clear_keepsContexts

end Session

/-! ## Callers -/

open Session in
/-- Where an operation was called, the contexts are afterwards those of before, so the caller sees
neither the span nor a mark of it. What the operation is put around may do anything that keeps the
contexts; every client does, and so do all steps of all sessions. -/
theorem contexts_restored :
    (∀ {σ ν α : Type} {act : Action σ ν α}, Operation act → ∀ w : World σ ν,
      (after act w).contexts = w.contexts ∧ (after act w).current = w.current) ∧
    (∀ {α : Type} (p : Client α) (w : World Handles Blame),
      (after p.run w).contexts = w.contexts ∧ (after p.run w).current = w.current) ∧
    ∀ (fuel depth : Nat) (steps : List Step) (w : World Desk Note),
      (after (runSteps fuel depth steps) w).contexts = w.contexts ∧
        (after (runSteps fuel depth steps) w).current = w.current := by
  refine ⟨fun hact w => ?_, fun p w => ?_, fun fuel depth steps w => ?_⟩
  · exact ⟨hact.keepsContexts.contexts w, hact.keepsContexts.current_after w⟩
  · exact ⟨p.run_keepsContexts.contexts w, p.run_keepsContexts.current_after w⟩
  · have hsteps : KeepsContexts (runSteps fuel depth steps) := runSteps_keepsContexts ..
    exact ⟨hsteps.contexts w, hsteps.current_after w⟩

/-- A callee that starts a deferred span and then fails. -/
def failsAfterStart : Action Unit Unit (Except String Unit) := do
  let d : Deferred := { manager := ⟨.recording, .standard⟩ }
  let _ ← d.start (.start "cursor" .none)
  return .error "lost"

/-- The run of a chain in a deferred span of before. -/
def duringIteration : World Unit Unit :=
  { contexts := [{ active := some .deferred, inRequest := true }], program := () }

theorem contexts_restored_failsAfterStart :
    let m : Manager := ⟨.recording, .standard⟩
    let act := m.trace (.chain (.start "table" .none)) .newQuery failsAfterStart
    Operation act ∧ (after act duringIteration).spans.length = 2 ∧
      (after act duringIteration).contexts = duringIteration.contexts := by
  have hcallee : KeepsContexts failsAfterStart :=
    .bind (Deferred.start_keepsContexts _ _) fun _ => .pure _
  exact ⟨.trace _ _ _ hcallee, rfl, (contexts_restored.1 (.trace _ _ _ hcallee) _).1⟩

end QueryTrace
