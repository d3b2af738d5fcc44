import QueryTrace.Proofs.Redaction.Desk
import QueryTrace.Session.Querying

/-!
# The driver on akin objects

Operations of the driver coincide on objects that are akin: servers answer the same, requests reach
them by the same way, and rows come back through the same layers. The steps that a server carries
out before it answers are taken to coincide.
-/

namespace QueryTrace.Session

/-- Steps that are akin coincide. -/
def Coinciding (react : List Step → Doing Unit) : Prop :=
  ∀ steps steps', List.Forall₂ Step.Akin steps steps' →
    Coincide Desk.Akin (fun _ _ => True) (react steps) (react steps')

variable {α : Type} {react : List Step → Doing Unit}

/-! ## Servers -/

section Servers

theorem takeReply_coincides (number : Nat) :
    Coincide Desk.Akin Reply.Akin (takeReply number) (takeReply number) := by
  refine .bind desk_coincides fun d d' hd => ?_
  refine .bind (changeServer_coincides number fun s s' hs =>
    { hs with responses := related_tail hs.responses }) fun _ _ _ => .pure ?_
  have hserver := related_getElem? hd.servers number
  generalize d.servers[number]? = s, d'.servers[number]? = s' at hserver
  cases hserver with
  | none => exact .intro _ .nil
  | some hs => exact related_headD hs.responses (.intro _ .nil)

theorem takeConnect_coincides (number : Nat) :
    Coincide Desk.Akin Eq (takeConnect number) (takeConnect number) := by
  refine .bind desk_coincides fun d d' hd => ?_
  refine .bind (changeServer_coincides number fun s s' hs =>
    { hs with connects := congrArg List.tail hs.connects }) fun _ _ _ => .pure ?_
  rw [related_map_getElem? hd.servers number fun _ _ hs => hs.connects]

theorem takeClose_coincides (number : Nat) :
    Coincide Desk.Akin Eq (takeClose number) (takeClose number) := by
  refine .bind desk_coincides fun d d' hd => ?_
  refine .bind (changeServer_coincides number fun s s' hs =>
    { hs with closes := congrArg List.tail hs.closes }) fun _ _ _ => .pure ?_
  rw [related_map_getElem? hd.servers number fun _ _ hs => hs.closes]

/-- A server answers any two requests alike. -/
theorem handle_coincides (h : Coinciding react) (server generation : Nat)
    (request request' : Request) (noreply noreply' : Bool) : Coincide Desk.Akin Eq
      (handle react server generation request noreply)
      (handle react server generation request' noreply') := by
  refine .bind (.note ..) fun _ _ _ => .bind (takeReply_coincides server) fun _ _ hreply => ?_
  obtain @⟨before, before', answer, hbefore⟩ := hreply
  refine .bind desk_coincides fun d d' hd => ?_
  rw [related_map_getElem? hd.servers server fun _ _ hs => hs.latency]
  dsimp only
  refine .bind (.change (fun w => { w with clock := w.clock + _ }) (fun _ => rfl) fun _ => rfl)
    fun _ _ _ => .bind (h _ _ hbefore) fun _ _ _ => ?_
  split <;> exact .pure rfl

end Servers

/-! ## Connections -/

section Connections

theorem Connection.send_coincides (h : Coinciding react) {c : Connection} (hc : c.Redacts)
    {request request' : Request} (hrequest : request.Akin request') (noreply noreply' : Bool) :
    Coincide Desk.Akin Eq (c.send react request noreply) (c.send react request' noreply') :=
  Layer.sendThrough_coincides hrequest hc (handle_coincides h ..)

/-- The same outcome of opening a connection, which keeps literals to itself. -/
def Opened (x y : Except String Connection) : Prop :=
  x = y ∧ ∀ c, x = .ok c → c.Redacts

theorem opened_outcome {failure failure' : Option String} (hfailure : failure = failure')
    {c : Connection} (hc : c.Redacts) : Opened (outcome failure c) (outcome failure' c) := by
  refine ⟨by rw [hfailure], fun c' hok => ?_⟩
  cases failure with
  | some message => cases hok
  | none =>
    cases hok
    exact hc

theorem Connection.reconnect_coincides {c : Connection} (hc : c.Redacts) (noreplyWait : Bool)
    (timeout : Option Nat) : Coincide Desk.Akin Opened (c.reconnect noreplyWait timeout)
      (c.reconnect noreplyWait timeout) := by
  refine Layer.reconnectThrough_coincides ?_ c.layers
  exact .bind (.note ..) fun _ _ _ => .bind (takeConnect_coincides _) fun _ _ hfailure =>
    .pure (opened_outcome hfailure hc)

theorem Connection.close_coincides (c : Connection) (noreplyWait : Bool) :
    Coincide Desk.Akin Eq (c.close noreplyWait) (c.close noreplyWait) := by
  refine .bind (.note ..) fun _ _ _ => .bind (takeClose_coincides _) fun _ _ hfailure => .pure ?_
  rw [hfailure]

theorem Root.connect_coincides {r : Root} (hr : ∀ layer ∈ r.layers, layer.Redacts) (args : Args) :
    Coincide Desk.Akin Opened (r.connect args) (r.connect args) :=
  .bind (.note ..) fun _ _ _ => .bind (takeConnect_coincides _) fun _ _ hfailure =>
    .pure (opened_outcome hfailure hr)

end Connections

/-! ## Streams -/

section Streams

variable {send : Send Desk Note}
  (hsend : ∀ request noreply, Coincide Desk.Akin Eq (send request noreply) (send request noreply))
include hsend

theorem Stream.next_coincides (fuel : Nat) (s : Stream) :
    Coincide Desk.Akin Eq (s.next send fuel) (s.next send fuel) := by
  induction fuel generalizing s with
  | zero => exact .pure rfl
  | succ fuel ih =>
    unfold Stream.next
    split
    · exact .pure rfl
    · split
      · refine .bind (hsend _ _) fun answer _ hanswer => ?_
        obtain rfl := hanswer
        split
        · exact .pure rfl
        · exact ih _
        · exact ih _
      · exact .pure rfl

theorem Stream.close_coincides (s : Stream) :
    Coincide Desk.Akin Eq (s.close send) (s.close send) := by
  unfold Stream.close
  split
  · refine .bind (hsend _ _) fun answer _ hanswer => ?_
    obtain rfl := hanswer
    split <;> exact .pure rfl
  · exact .pure rfl

end Streams

/-! ## Queries and cursors -/

theorem Query.Akin.call {q q' : Query} (h : q.Akin q') (method : String) (args args' : Args) :
    (q.call method args).Akin (q'.call method args') where
  layers := by
    rw [Query.call, Query.call, List.forall₂_map_left_iff, List.forall₂_map_right_iff]
    exact h.layers.imp fun _ _ hlayer => hlayer.record ..
  wire := Wire.opensLike_chain h.wire ..

theorem Root.query_akin {r : Root} (hr : ∀ layer ∈ r.layers, layer.Redacts) {method : String}
    {args args' : Args} (h : (Wire.root method args).OpensLike (Wire.root method args')) :
    (r.query method args).Akin (r.query method args') where
  layers := by
    rw [Root.query, Root.query, List.forall₂_map_left_iff, List.forall₂_map_right_iff,
      List.forall₂_same]
    exact fun layer hlayer => ⟨rfl, (hr layer hlayer).config, Chain.akin_start ..⟩
  wire := h

theorem Query.run_coincides (h : Coinciding react) {q q' : Query} (hq : q.Akin q')
    {c : Connection} (hc : c.Redacts) (options options' : Args) : Coincide Desk.Akin
      (fun x y => x = y ∧ ∀ cursor, x = .ok (.stream cursor) → cursor.source.Redacts)
      (q.run react c options) (q'.run react c options') := by
  have hplain : Coincide Desk.Akin Eq (runPlain react q.wire c options)
      (runPlain react q'.wire c options') := by
    have hrequest : (Request.start q.wire options.options).Akin
        (.start q'.wire options'.options) := Request.akin_start hq.wire _ _
    refine .bind (Connection.send_coincides h hc hrequest _ _) fun answer _ hanswer => ?_
    obtain rfl := hanswer
    split <;> exact .pure rfl
  refine .bind (QueryLayer.runThrough_coincides hq.layers options options' hplain)
    fun result _ hresult => .pure ⟨by rw [hresult], ?_⟩
  intro cursor hcursor
  rcases result with message | v | ⟨layers, stream⟩
  · cases hcursor
  · cases hcursor
  · cases hcursor
    exact hc

section Cursors

variable {c : Cursor} (hc : c.source.Redacts)
include hc

/-- Fetches give the same, and leave a cursor over the same connection. -/
theorem Cursor.next_coincides (h : Coinciding react) (fuel : Nat) : Coincide Desk.Akin
    (fun x y => x = y ∧ x.2.source.Redacts) (c.next react fuel) (c.next react fuel) := by
  refine .bind (RowsLayer.nextThrough_coincides (Stream.next_coincides (fun request noreply =>
    Connection.send_coincides h hc (.refl request) noreply noreply) fuel c.stream) c.layers)
    fun out _ hout => .pure ?_
  obtain rfl := hout
  exact ⟨rfl, hc⟩

theorem Cursor.close_coincides (h : Coinciding react) : Coincide Desk.Akin
    (fun x y => x = y ∧ x.2.source.Redacts) (c.close react) (c.close react) := by
  refine .bind (RowsLayer.closeThrough_coincides (Stream.close_coincides (fun request noreply =>
    Connection.send_coincides h hc (.refl request) noreply noreply) c.stream) c.layers)
    fun out _ hout => .pure ?_
  obtain rfl := hout
  exact ⟨rfl, hc⟩

theorem fetchMany_coincides (h : Coinciding react) (fuel n : Nat) (fetched : List Fetched) :
    Coincide Desk.Akin (fun x y => x = y ∧ x.2.source.Redacts)
      (fetchMany react fuel n fetched c) (fetchMany react fuel n fetched c) := by
  induction n generalizing fetched c with
  | zero => exact .pure ⟨rfl, hc⟩
  | succ n ih =>
    refine .bind (Cursor.next_coincides hc h fuel) fun out _ hout => ?_
    obtain ⟨rfl, hsource⟩ := hout
    exact ih hsource _

end Cursors

end QueryTrace.Session
