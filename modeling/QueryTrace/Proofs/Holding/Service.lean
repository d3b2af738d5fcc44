import QueryTrace.Proofs.Holding.Desk
import QueryTrace.Session.Querying

/-!
# What the driver does with what is held

The driver itself holds nothing. It carries steps out for its servers, and these are taken to keep
the desk.
-/

namespace QueryTrace.Session

/-- Carrying steps out keeps the desk, whatever is shared in hand. -/
def Keeping (hands : Prop) (react : List Step → Doing Unit) : Prop :=
  ∀ c S steps, AllSteps (fun s => s.byHand = true → hands) steps →
    Does hands c (Kept hands S) (react steps) fun _ => Kept hands S

variable {hands : Prop} {c : Context} {S : Multiset Nat} {react : List Step → Doing Unit}

/-! ## Servers and connections -/

theorem takeReply_does (number : Nat) : Does hands c (Kept hands S) (takeReply number)
    fun r H d => AllSteps (fun s => s.byHand = true → hands) r.before ∧ Kept hands S H d := by
  refine .bind desk_does fun d => ?_
  refine .of_fact (A := AllWaiting (fun s => s.byHand = true → hands) d.servers)
    (fun H d' ⟨hd, _, hsound⟩ => hd ▸ hsound.waiting) fun hwaiting => ?_
  refine .bind (.drop (changeServer_does number fun _ => AllSteps.tail_replies)) fun _ => ?_
  exact .pure fun H d' hkept => ⟨hwaiting.next number, hkept⟩

theorem takeConnect_does (number : Nat) :
    Does hands c (Kept hands S) (takeConnect number) fun _ => Kept hands S :=
  .bind desk_does fun _ => .bind (.drop (changeServer_does number fun _ hs => hs)) fun _ =>
    .skip _

theorem takeClose_does (number : Nat) :
    Does hands c (Kept hands S) (takeClose number) fun _ => Kept hands S :=
  .bind desk_does fun _ => .bind (.drop (changeServer_does number fun _ hs => hs)) fun _ =>
    .skip _

theorem handle_does (h : Keeping hands react) (server generation : Nat) (request : Request)
    (noreply : Bool) : Does hands c (Kept hands S) (handle react server generation request noreply)
      fun _ => Kept hands S := by
  refine .bind (.note _) fun _ => .bind (takeReply_does server) fun reply => ?_
  refine .of_fact (fun _ _ hP => hP.1) fun hbefore => ?_
  refine .bind (.drop desk_does) fun d => ?_
  refine .bind (.drop (.work (·.program) (fun w => w.clock + _) fun _ _ hP => hP)) fun _ => ?_
  refine .bind (h c S _ hbefore) fun _ => ?_
  split <;> exact .skip _

theorem Root.connect_does (r : Root) (args : Args) :
    Does hands c (Kept hands S) (r.connect args) fun _ => Kept hands S :=
  .bind (.note _) fun _ => .bind (takeConnect_does _) fun _ => .skip _

theorem Connection.send_does (h : Keeping hands react) (connection : Connection)
    (request : Request) (noreply : Bool) : Does hands c (Kept hands S)
      (connection.send react request noreply) fun _ => Kept hands S :=
  Layer.sendThrough_does (fun _ => handle_does h _ _ request noreply) connection.layers

theorem Connection.reconnect_does (connection : Connection) (noreplyWait : Bool)
    (timeout : Option Nat) : Does hands c (Kept hands S)
      (connection.reconnect noreplyWait timeout) fun _ => Kept hands S :=
  Layer.reconnectThrough_does (.bind (.note _) fun _ => .bind (takeConnect_does _) fun _ =>
    .skip _) connection.layers

theorem Connection.close_does (connection : Connection) (noreplyWait : Bool) :
    Does hands c (Kept hands S) (connection.close noreplyWait) fun _ => Kept hands S :=
  .bind (.note _) fun _ => .bind (takeClose_does _) fun _ => .skip _

/-! ## Streams -/

section Stream

variable {σ ν : Type} {P : Assertion σ} {send : Send σ ν}

theorem Stream.next_does
    (h : ∀ c request noreply, Does hands c P (send request noreply) fun _ => P) (fuel : Nat)
    (s : Stream) : Does hands c P (s.next send fuel) fun _ => P := by
  induction fuel generalizing s with
  | zero => exact .skip _
  | succ fuel ih =>
    unfold Stream.next
    split
    · exact .skip _
    · split
      · refine .bind (h _ _ _) fun answer => ?_
        split
        · exact .skip _
        · exact ih _
        · exact ih _
      · exact .skip _

theorem Stream.close_does
    (h : ∀ c request noreply, Does hands c P (send request noreply) fun _ => P) (s : Stream) :
    Does hands c P (s.close send) fun _ => P := by
  unfold Stream.close
  split
  · refine .bind (h _ _ _) fun answer => ?_
    split <;> exact .skip _
  · exact .skip _

end Stream

/-! ## Queries and cursors -/

/-- A cursor that a run gives holds nothing yet. -/
theorem Query.run_does (h : Keeping hands react) (q : Query) (connection : Connection)
    (options : Args) : Does hands c (Kept hands S) (q.run react connection options) fun r H d =>
      (∀ cursor, r = .ok (.stream cursor) → (Object.cursor cursor).holds = 0) ∧
        Kept hands S H d := by
  have hplain (c' : Context) : Does hands c' (Kept hands S)
      (runPlain react q.wire connection options) fun _ => Kept hands S := by
    refine .bind (connection.send_does h _ _) fun answer => ?_
    split <;> exact .skip _
  refine .bind (QueryLayer.runThrough_does options hplain q.layers) fun result => ?_
  refine .pure fun H d ⟨hfresh, hkept⟩ => ⟨fun cursor hcursor => ?_, hkept⟩
  rcases result with message | v | ⟨layers, stream⟩
  · cases hcursor
  · cases hcursor
  · cases hcursor
    exact hfresh layers stream rfl

theorem Cursor.next_does (h : Keeping hands react) (cursor : Cursor) (fuel : Nat) :
    Does hands c ((Kept hands S).plus (Object.cursor cursor).holds) (cursor.next react fuel)
      fun x => (Kept hands S).plus (Object.cursor x.2).holds := by
  have hfetch (c' : Context) : Does hands c' (Kept hands S)
      (cursor.stream.next (cursor.source.send react) fuel) fun _ => Kept hands S :=
    Stream.next_does (fun _ => cursor.source.send_does h) fuel cursor.stream
  exact .bind (RowsLayer.nextThrough_does hfetch cursor.layers) fun _ => .pure fun _ _ hQ => hQ

theorem Cursor.close_does (h : Keeping hands react) (cursor : Cursor) :
    Does hands c ((Kept hands S).plus (Object.cursor cursor).holds) (cursor.close react)
      fun x => (Kept hands S).plus (Object.cursor x.2).holds := by
  have hclose (c' : Context) : Does hands c' (Kept hands S)
      (cursor.stream.close (cursor.source.send react)) fun _ => Kept hands S :=
    Stream.close_does (fun _ => cursor.source.send_does h) cursor.stream
  exact .bind (RowsLayer.closeThrough_does hclose cursor.layers) fun _ => .pure fun _ _ hQ => hQ

theorem fetchMany_does (h : Keeping hands react) (fuel n : Nat) (fetched : List Fetched)
    (cursor : Cursor) :
    Does hands c ((Kept hands S).plus (Object.cursor cursor).holds)
      (fetchMany react fuel n fetched cursor)
      fun x => (Kept hands S).plus (Object.cursor x.2).holds := by
  induction n generalizing fetched cursor with
  | zero => exact .pure fun _ _ hP => hP
  | succ n ih => exact .bind (cursor.next_does h fuel) fun x => ih _ x.2

end QueryTrace.Session
