import QueryTrace.Proofs.Holding.Turns
import QueryTrace.Session.Connecting
import QueryTrace.Session.Perform

/-!
# Steps of the driver keep what they hold

Setting up, connecting, and building and running queries: each of these steps leaves the desk kept.
A cursor that a run gives holds nothing; what it holds later goes back to the desk with it.
-/

namespace QueryTrace.Session

variable {hands : Prop} {c : Context} {S : Multiset Nat} {react : List Step → Doing Unit}

/-! ## Setting up -/

theorem addInstrumentor_keeps (name : Option String) (config : Config) (backend : Backend)
    (classifier : Option Classifier) :
    TurnKeeps hands c S (addInstrumentor name config backend classifier) :=
  .bind .desk fun _ => .bind (keep_keeps name ⟨rfl, rfl⟩) fun _ => .pure _

theorem addServer_keeps (name : Option String) (latency : Nat) :
    TurnKeeps hands c S (addServer name latency) := by
  refine .bind .desk fun d => .bind (.lift (changeDesk_does ?_)) fun _ =>
    .bind (keep_keeps name ⟨rfl, rfl⟩) fun _ => .pure _
  exact fun H d ⟨hH, hd⟩ => ⟨hH, hd.sorted, hd.holders, hd.waiting.push latency⟩

theorem addResponses_keeps (name : String) {responses : List (Reply Step)}
    (h : AllSteps (fun s => s.byHand = true → hands) (responses.flatMap (·.before)))
    (connects closes : List (Option String)) :
    TurnKeeps hands c S (addResponses name responses connects closes) := by
  refine .bind (find_keeps _ name) fun number => ?_
  refine .bind (.lift (changeServer_does number fun _ hs => hs.append_replies h)) fun _ => ?_
  refine .bind .desk fun d => ?_
  split
  · exact .pure _
  · exact .throw _

theorem addRoot_keeps (name : Option String) (base : RootBase) (layer : Option String) :
    TurnKeeps hands c S (addRoot name base layer) := by
  have hbase : TurnKeeps hands c S (findBase base) := by
    cases base with
    | server server => exact .bind (find_keeps _ server) fun _ => .pure _
    | «over» root => exact find_keeps _ root
  refine .bind hbase fun root => ?_
  cases layer with
  | none => exact .bind (keep_keeps name ⟨rfl, rfl⟩) fun _ => .pure _
  | some instrumentor =>
    have hwrap : TurnKeeps hands c S
        (do
          keep name (.root (root.wrap (← findInstrumentor instrumentor).layer))
          return Report.nothing) :=
      .bind (find_keeps _ instrumentor) fun _ => .bind (keep_keeps name ⟨rfl, rfl⟩) fun _ => .pure _
    refine .bind .desk fun d => ?_
    split
    · exact hwrap
    · exact .bind (.throw _) fun _ => hwrap

theorem unwrapRoot_keeps (name : Option String) (root : String) :
    TurnKeeps hands c S (unwrapRoot name root) := by
  refine .bind (find_keeps _ root) fun r => ?_
  have hkeep : TurnKeeps hands c S
      (do
        keep name (.root { r with layers := r.layers.tail })
        return Report.nothing) :=
    .bind (keep_keeps name ⟨rfl, rfl⟩) fun _ => .pure _
  dsimp only
  split
  · exact .bind (.throw _) fun _ => hkeep
  · exact hkeep

/-! ## Connections -/

theorem storeConnection_keeps (name : Option String) (result : Except String Connection) :
    TurnKeeps hands c S (storeConnection name result) := by
  cases result with
  | error message => exact .pure _
  | ok connection => exact .bind (keep_keeps name ⟨rfl, rfl⟩) fun _ => .pure _

theorem connect_keeps (name : Option String) (root : String) (args : Args) :
    TurnKeeps hands c S (connect name root args) :=
  .bind (find_keeps _ root) fun r => .bind (.lift (r.connect_does args)) fun _ =>
    storeConnection_keeps name _

theorem openPlain_keeps (name : Option String) (server : String) :
    TurnKeeps hands c S (openPlain name server) :=
  .bind (find_keeps _ server) fun _ => storeConnection_keeps name _

theorem unwrapConnection_keeps (name : Option String) (connection : String) :
    TurnKeeps hands c S (unwrapConnection name connection) := by
  refine .bind (find_keeps _ connection) fun conn => ?_
  dsimp only
  split
  · exact .bind (.throw _) fun _ => storeConnection_keeps name _
  · exact storeConnection_keeps name _

theorem reconnect_keeps (name : Option String) (connection : String) (noreplyWait : Bool)
    (timeout : Option Nat) :
    TurnKeeps hands c S (reconnect name connection noreplyWait timeout) :=
  .bind (find_keeps _ connection) fun conn =>
    .bind (.lift (conn.reconnect_does noreplyWait timeout)) fun _ => storeConnection_keeps name _

theorem wrapConnection_keeps (name : Option String) (connection : String) (wrapping : Wrapping) :
    TurnKeeps hands c S (wrapConnection name connection wrapping) := by
  have hlayer : TurnKeeps hands c S (findLayer wrapping) := by
    cases wrapping with
    | instrumentor instrumentor => exact .bind (find_keeps _ instrumentor) fun _ => .pure _
    | config config => exact .bind .desk fun _ => .pure _
    | malformed field => exact .throw _
  refine .bind (find_keeps _ connection) fun conn => .bind .desk fun d => ?_
  split
  · exact .bind hlayer fun _ => storeConnection_keeps name _
  · exact .bind (.throw _) fun _ => .bind hlayer fun _ => storeConnection_keeps name _

theorem closeConnection_keeps (connection : String) (noreplyWait : Bool) :
    TurnKeeps hands c S (closeConnection connection noreplyWait) :=
  .bind (find_keeps _ connection) fun conn => .bind (.lift (conn.close_does noreplyWait)) fun _ =>
    .pure _

theorem send_keeps (h : Keeping hands react) (connection : String) (request : Request)
    (noreply : Bool) : TurnKeeps hands c S (send react connection request noreply) :=
  .bind (find_keeps _ connection) fun conn => .bind (.lift (conn.send_does h request noreply))
    fun _ => .pure _

/-! ## Queries and cursors -/

theorem storeQuery_keeps (name : Option String) (q : Query) :
    TurnKeeps hands c S (storeQuery name q) :=
  .bind (keep_keeps name ⟨rfl, rfl⟩) fun _ => .pure _

theorem startQuery_keeps (name : Option String) (root method : String) (args : Args) :
    TurnKeeps hands c S (startQuery name root method args) := by
  refine .bind (find_keeps _ root) fun r => ?_
  dsimp only
  split
  · exact storeQuery_keeps name _
  · exact .bind (.throw _) fun _ => storeQuery_keeps name _

theorem callQuery_keeps (name : Option String) (query method : String) (args : Args) :
    TurnKeeps hands c S (callQuery name query method args) := by
  refine .bind (find_keeps _ query) fun q => ?_
  dsimp only
  split
  · exact storeQuery_keeps name _
  · exact .bind (.throw _) fun _ => storeQuery_keeps name _

theorem unwrapQuery_keeps (name : Option String) (query : String) :
    TurnKeeps hands c S (unwrapQuery name query) := by
  refine .bind (find_keeps _ query) fun q => ?_
  dsimp only
  split
  · exact .bind (.throw _) fun _ => storeQuery_keeps name _
  · exact storeQuery_keeps name _

/-- A cursor in hand is stored or dropped. -/
theorem settleRun_does (name : Option String) (take : Take) (o : Outcome Cursor) :
    TurnDoes hands c S
      (fun H d => (∀ cursor, o = .stream cursor → (Object.cursor cursor).holds = 0) ∧
        Kept hands S H d)
      (settleRun name take o) fun _ => Kept hands S := by
  cases o with
  | value v => cases take <;> exact .pure fun _ _ hP => hP.2
  | stream cursor =>
    refine .of_fact (fun _ _ hP => hP.1 cursor rfl) fun hholds => ?_
    have hlight : (Object.cursor cursor).Light := ⟨rfl, hholds⟩
    have hdiscard : Does hands c _ (discard (.cursor cursor)) fun _ => Kept hands S :=
      discard_does _
    rw [hlight.plus] at hdiscard
    have hdrop (r : RunReport) : TurnKeeps hands c S
        (do
          discard (.cursor cursor)
          return r) :=
      .bind (.lift hdiscard) fun _ => .pure r
    have hstore (name : String) : TurnKeeps hands c S
        (do
          store name (.cursor cursor)
          return RunReport.cursor) :=
      .bind (.lift (store_keeps name hlight)) fun _ => .pure _
    cases take <;> cases name
    case value.none | value.some => exact .drop (hdrop _)
    case any.none | stream.none => exact .drop (hdrop _)
    case any.some name | stream.some name => exact .drop (hstore name)

theorem runQuery_keeps (h : Keeping hands react) (name : Option String)
    (query connection : String) (options : Args) (take : Take) :
    TurnKeeps hands c S (runQuery react name query connection options take) := by
  refine .bind (find_keeps _ query) fun q => .bind (find_keeps _ connection) fun conn => ?_
  refine TurnDoes.bind (.lift (q.run_does h conn options)) fun result => ?_
  cases result with
  | error message => exact .pure fun _ _ hP => hP.2
  | ok o =>
    refine TurnDoes.bind ((settleRun_does name take o).weaken (fun H d hP => ⟨?_, hP.2⟩)
      fun _ _ _ hQ => hQ) fun _ => .pure fun _ _ hP => hP
    intro cursor hcursor
    exact hP.1 cursor (by rw [hcursor])

theorem storeCursor_does (name : String) (cursor : Cursor) :
    Does hands c ((Kept hands S).plus (Object.cursor cursor).holds) (store name (.cursor cursor))
      fun _ => Kept hands S := by
  have hstore : Does hands c _ (store name (.cursor cursor)) fun _ => Kept hands S :=
    store_does ..
  have hshares : (Object.cursor cursor).shares = 0 := rfl
  rwa [hshares, zero_add] at hstore

theorem fetchRows_keeps (h : Keeping hands react) (fuel : Nat) (cursor : String) (count : Nat) :
    TurnKeeps hands c S (fetchRows react fuel cursor count) :=
  TurnDoes.bind (takeCursor_does cursor) fun cur =>
    TurnDoes.bind (.lift (fetchMany_does h fuel count [] cur)) fun x =>
      TurnDoes.bind (.lift (storeCursor_does cursor x.2)) fun _ => .pure fun _ _ hP => hP

theorem closeCursor_keeps (h : Keeping hands react) (cursor : String) :
    TurnKeeps hands c S (closeCursor react cursor) :=
  TurnDoes.bind (takeCursor_does cursor) fun cur =>
    TurnDoes.bind (.lift (cur.close_does h)) fun x =>
      TurnDoes.bind (.lift (storeCursor_does cursor x.2)) fun _ => .pure fun _ _ hP => hP

theorem dropObject_keeps (name : String) :
    Does hands c (Kept hands S) (dropObject name) fun _ => Kept hands S := by
  refine .bind (lookup_does name) fun o => ?_
  cases o with
  | none => exact .pure fun _ _ hP => hP.2
  | some o =>
    refine .bind ((remove_does name o).weaken (fun H d hP => ⟨hP.1.symm, hP.2⟩)
      fun _ _ _ hQ => hQ) fun _ => .bind (discard_does o) fun _ => .skip _

end QueryTrace.Session
