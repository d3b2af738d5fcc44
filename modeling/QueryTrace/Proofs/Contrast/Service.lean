import QueryTrace.Proofs.Contrast.Desk
import QueryTrace.Session.Querying

/-!
# The driver side by side

Operations of the driver are parallel on objects that are alike: servers answer the same, requests
reach them by the same way, and rows come back through layers that are alike. The steps that a
server carries out before it answers are taken to be parallel.
-/

namespace QueryTrace.Session

variable {α : Type} {k : Contrast} {react react' : List Step → Doing Unit}

/-- Steps that do the same are parallel. -/
def Parallels (k : Contrast) (react react' : List Step → Doing Unit) : Prop :=
  ∀ steps steps', List.Forall₂ (Step.Like k) steps steps' →
    Parallel (sessions k) (fun _ _ => True) (react steps) (react' steps')

/-! ## Servers -/

section Servers

theorem takeReply_parallel (number : Nat) :
    Parallel (sessions k) (Reply.Like k) (takeReply number) (takeReply number) := by
  refine .bind desk_parallel fun d d' hd => ?_
  refine .bind (changeServer_parallel number fun s s' hs =>
    { hs with responses := related_tail hs.responses }) fun _ _ _ => .pure ?_
  have hserver := related_getElem? hd.servers number
  generalize d.servers[number]? = s, d'.servers[number]? = s' at hserver
  cases hserver with
  | none => exact .intro _ .nil
  | some hs => exact related_headD hs.responses (.intro _ .nil)

theorem takeConnect_parallel (number : Nat) :
    Parallel (sessions k) Eq (takeConnect number) (takeConnect number) := by
  refine .bind desk_parallel fun d d' hd => ?_
  refine .bind (changeServer_parallel number fun s s' hs =>
    { hs with connects := congrArg List.tail hs.connects }) fun _ _ _ => .pure ?_
  rw [related_map_getElem? hd.servers number fun _ _ hs => hs.connects]

theorem takeClose_parallel (number : Nat) :
    Parallel (sessions k) Eq (takeClose number) (takeClose number) := by
  refine .bind desk_parallel fun d d' hd => ?_
  refine .bind (changeServer_parallel number fun s s' hs =>
    { hs with closes := congrArg List.tail hs.closes }) fun _ _ _ => .pure ?_
  rw [related_map_getElem? hd.servers number fun _ _ hs => hs.closes]

theorem handle_parallel (h : Parallels k react react') (server generation : Nat)
    (request : Request) (noreply : Bool) : Parallel (sessions k) Eq
      (handle react server generation request noreply)
      (handle react' server generation request noreply) := by
  refine .bind (.note rfl) fun _ _ _ => .bind (takeReply_parallel server) fun _ _ hreply => ?_
  obtain @⟨before, before', answer, hbefore⟩ := hreply
  refine .bind desk_parallel fun d d' hd => ?_
  rw [related_map_getElem? hd.servers server fun _ _ hs => hs.latency]
  dsimp only
  refine .bind (.change fun w v hsame => { hsame with clock := congrArg (· + _) hsame.clock })
    fun _ _ _ => .bind (h _ _ hbefore) fun _ _ _ => ?_
  split <;> exact .pure rfl

end Servers

/-! ## Connections -/

section Connections

variable {c c' : Connection} (hc : c.Like k c')
include hc

theorem Connection.send_parallel (h : Parallels k react react') (request : Request)
    (noreply : Bool) : Parallel (sessions k) Eq (c.send react request noreply)
      (c'.send react' request noreply) := by
  unfold Connection.send
  rw [hc.server, hc.generation]
  exact Layer.sendThrough_parallel hc.layers (handle_parallel h ..)

/-- A connection that is opened again is alike, or the same failure comes. -/
theorem Connection.reconnect_parallel (noreplyWait : Bool) (timeout : Option Nat) :
    Parallel (sessions k) (Settled (Connection.Like k)) (c.reconnect noreplyWait timeout)
      (c'.reconnect noreplyWait timeout) := by
  refine Layer.reconnectThrough_parallel ?_ c.layers c'.layers
  rw [hc.server, hc.generation]
  refine .bind (.note rfl) fun _ _ _ => .bind (takeConnect_parallel _) fun failure _ hfailure => ?_
  obtain rfl := hfailure
  cases failure with
  | some message => exact .pure (.error message)
  | none => exact .pure (.ok ⟨hc.layers, rfl, rfl⟩)

theorem Connection.close_parallel (noreplyWait : Bool) : Parallel (sessions k) Eq
    (c.close noreplyWait) (c'.close noreplyWait) := by
  unfold Connection.close
  rw [hc.server, hc.generation]
  refine .bind (.note rfl) fun _ _ _ => .bind (takeClose_parallel _) fun _ _ hfailure => .pure ?_
  rw [hfailure]

end Connections

theorem Root.connect_parallel {r r' : Root} (hr : r.Like k r') (args : Args) :
    Parallel (sessions k) (Settled (Connection.Like k)) (r.connect args) (r'.connect args) := by
  unfold Root.connect
  rw [hr.server]
  refine .bind (.note rfl) fun _ _ _ => .bind (takeConnect_parallel _) fun failure _ hfailure => ?_
  obtain rfl := hfailure
  cases failure with
  | some message => exact .pure (.error message)
  | none => exact .pure (.ok ⟨Layer.around_of_forall hr.layers, rfl, rfl⟩)

/-! ## Streams -/

section Streams

variable {send send' : Send Desk Note}
  (hsend : ∀ request noreply,
    Parallel (sessions k) Eq (send request noreply) (send' request noreply))
include hsend

theorem Stream.next_parallel (fuel : Nat) (s : Stream) :
    Parallel (sessions k) Eq (s.next send fuel) (s.next send' fuel) := by
  induction fuel generalizing s with
  | zero => exact .pure rfl
  | succ fuel ih =>
    unfold Stream.next
    split
    · exact .pure rfl
    · split
      · refine .bind (hsend _ _) fun answer _ hanswer => ?_
        obtain rfl := hanswer
        split
        · exact .pure rfl
        · exact ih _
        · exact ih _
      · exact .pure rfl

theorem Stream.close_parallel (s : Stream) :
    Parallel (sessions k) Eq (s.close send) (s.close send') := by
  unfold Stream.close
  split
  · refine .bind (hsend _ _) fun answer _ hanswer => ?_
    obtain rfl := hanswer
    split <;> exact .pure rfl
  · exact .pure rfl

end Streams

/-! ## Queries and cursors -/

theorem Query.Like.call {q q' : Query} (h : q.Like k q') (method : String) (args : Args) :
    (q.call method args).Like k (q'.call method args) where
  layers := by
    rw [Query.call, Query.call, List.forall₂_map_left_iff, List.forall₂_map_right_iff]
    exact h.layers.imp fun _ _ hlayer =>
      ⟨hlayer.manager, congrArg (·.record method args) hlayer.calls⟩
  wire := congrArg (Wire.chain · method args) h.wire

theorem Query.Like.report {q q' : Query} (h : q.Like k q') : q.report = q'.report := by
  have hchains : q.layers.map (·.calls) = q'.layers.map (·.calls) := by
    have hlayers := h.layers
    generalize q.layers = layers, q'.layers = layers' at hlayers
    induction hlayers with
    | nil => rfl
    | cons hlayer _ ih => rw [List.map_cons, List.map_cons, hlayer.calls, ih]
  rw [Query.report, Query.report, hchains, h.wire]

theorem Root.Like.query {r r' : Root} (h : r.Like k r') (method : String) (args : Args) :
    (r.query method args).Like k (r'.query method args) where
  layers := by
    rw [Root.query, Root.query, List.forall₂_map_left_iff, List.forall₂_map_right_iff]
    exact h.layers.imp fun _ _ hlayer => ⟨hlayer.manager, rfl⟩
  wire := rfl

theorem Query.run_parallel (h : Parallels k react react') {q q' : Query} (hq : q.Like k q')
    {c c' : Connection} (hc : c.Like k c') (options : Args) :
    Parallel (sessions k) (Settled (Outcome.Like (Cursor.Like k))) (q.run react c options)
      (q'.run react' c' options) := by
  have hplain : Parallel (sessions k) (Settled (Outcome.Like Eq))
      (runPlain react q.wire c options) (runPlain react' q'.wire c' options) := by
    rw [hq.wire]
    refine .bind (Connection.send_parallel hc h _ _) fun answer _ hanswer => ?_
    obtain rfl := hanswer
    split
    · exact .pure (.error _)
    · exact .pure (.ok (.value _))
    · exact .pure (.ok (.stream rfl))
  refine .bind (QueryLayer.runThrough_parallel hq.layers options hplain) fun _ _ hresult => ?_
  exact .pure (hresult.map_outcome fun _ _ hs => ⟨hs.1, hs.2, hc⟩)

section Cursors

variable {c c' : Cursor} (hc : c.Like k c') (h : Parallels k react react')

theorem Cursor.Like.reports (hc : c.Like k c') : c.reports.map (fun r => (r.1.told, r.2)) =
    c'.reports.map fun r => (r.1.told, r.2) := by
  have hlayers := hc.layers
  unfold Cursor.reports
  generalize c.layers = layers, c'.layers = layers' at hlayers
  induction hlayers with
  | nil => rfl
  | cons hlayer _ ih =>
    simp only [List.map_cons, ih, hlayer.span.state.told, hlayer.rows]

include hc h

/-- The same result, and cursors that are alike. -/
theorem Cursor.next_parallel (fuel : Nat) : Parallel (sessions k)
    (fun x y => x.1 = y.1 ∧ x.2.Like k y.2) (c.next react fuel) (c'.next react' fuel) := by
  have hfetch : Parallel (sessions k) (fun x y => x.1 = y.1 ∧ x.2 = y.2)
      (c.stream.next (c.source.send react) fuel) (c'.stream.next (c'.source.send react') fuel) := by
    rw [hc.stream]
    exact (Stream.next_parallel (Connection.send_parallel hc.source h) fuel _).mono
      fun _ _ hout => Prod.ext_iff.mp hout
  exact .bind (RowsLayer.nextThrough_parallel hc.layers hfetch) fun _ _ hout =>
    .pure ⟨hout.1, hout.2.2, hout.2.1, hc.source⟩

theorem Cursor.close_parallel : Parallel (sessions k)
    (fun x y => x.1 = y.1 ∧ x.2.Like k y.2) (c.close react) (c'.close react') := by
  have hclose : Parallel (sessions k) (fun x y => x.1 = y.1 ∧ x.2 = y.2)
      (c.stream.close (c.source.send react)) (c'.stream.close (c'.source.send react')) := by
    rw [hc.stream]
    exact (Stream.close_parallel (Connection.send_parallel hc.source h) _).mono
      fun _ _ hout => Prod.ext_iff.mp hout
  exact .bind (RowsLayer.closeThrough_parallel hc.layers hclose) fun _ _ hout =>
    .pure ⟨hout.1, hout.2.2, hout.2.1, hc.source⟩

theorem fetchMany_parallel (fuel n : Nat) (fetched : List Fetched) : Parallel (sessions k)
    (fun x y => x.1 = y.1 ∧ x.2.Like k y.2) (fetchMany react fuel n fetched c)
      (fetchMany react' fuel n fetched c') := by
  induction n generalizing fetched c c' with
  | zero => exact .pure ⟨rfl, hc⟩
  | succ n ih =>
    refine .bind (Cursor.next_parallel hc h fuel) fun out out' hout => ?_
    obtain ⟨row, cursor⟩ := out
    obtain ⟨row', cursor'⟩ := out'
    obtain ⟨hrow, hcursor⟩ := hout
    dsimp only at hrow hcursor
    subst hrow
    exact ih hcursor _

end Cursors

end QueryTrace.Session
