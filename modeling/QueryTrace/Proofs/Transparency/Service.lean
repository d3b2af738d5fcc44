import QueryTrace.Proofs.Transparency.Desk
import QueryTrace.Session.Querying

/-!
# The driver behind layers

Operations of the driver on two objects match if the objects are the same without their layers. The
steps that a server carries out before it answers are taken to match themselves.
-/

namespace QueryTrace.Session

/-- Carrying out steps of driver operations matches carrying them out again. -/
def Transparent (react : List Step → Doing Unit) : Prop :=
  ∀ steps, AllSteps (·.drives = true) steps →
    Matches Alike (fun _ _ => True) (react steps) (react steps)

/-! ## Servers and connections -/

section Service

variable {react : List Step → Doing Unit}

theorem takeReply_matches (number : Nat) : Matches Alike
    (fun r r' => r = r' ∧ AllSteps (·.drives = true) r.before)
    (takeReply number) (takeReply number) := by
  refine .bind desk_matches fun d d' ⟨hd, hwaiting⟩ => ?_
  refine .bind (changeServer_matches number fun _ => AllSteps.tail_replies) fun _ _ _ => .pure ?_
  exact ⟨by rw [hd], hwaiting.next number⟩

theorem takeConnect_matches (number : Nat) :
    Matches Alike Eq (takeConnect number) (takeConnect number) := by
  refine .bind desk_matches fun d d' ⟨hd, _⟩ => ?_
  exact .bind (changeServer_matches number fun _ hs => hs) fun _ _ _ => .pure (by rw [hd])

theorem takeClose_matches (number : Nat) :
    Matches Alike Eq (takeClose number) (takeClose number) := by
  refine .bind desk_matches fun d d' ⟨hd, _⟩ => ?_
  exact .bind (changeServer_matches number fun _ hs => hs) fun _ _ _ => .pure (by rw [hd])

theorem handle_matches (h : Transparent react) (server generation : Nat) (request : Request)
    (noreply : Bool) : Matches Alike Eq (handle react server generation request noreply)
      (handle react server generation request noreply) := by
  -- The queues are read from the servers, and these are the same on both sides.
  refine .bind (note_matches rfl) fun _ _ _ => ?_
  refine .bind (takeReply_matches server) fun reply reply' hreply => ?_
  obtain ⟨rfl, hbefore⟩ := hreply
  refine .bind desk_matches fun d d' ⟨hd, _⟩ => ?_
  rw [hd]
  refine .bind (Inert.matches (.of_unseen ?_) (.of_unseen ?_)) fun _ _ _ => ?_
  · exact .modify fun w => w.seen_clock _
  · exact .modify fun w => w.seen_clock _
  · refine .bind (h _ hbefore) fun _ _ _ => ?_
    split <;> exact .pure rfl

theorem Connection.send_matches (h : Transparent react) {c c' : Connection}
    (hc : c.plain = c'.plain) (request : Request) (noreply : Bool) :
    Matches Alike Eq (c.send react request noreply) (c'.send react request noreply) := by
  have hbase : Matches Alike Eq (handle react c.server c.generation request noreply)
      (handle react c'.server c'.generation request noreply) := by
    simp only [Connection.plain, Connection.mk.injEq, true_and] at hc
    rw [hc.1, hc.2]
    exact handle_matches h _ _ request noreply
  -- Layers are put around the left action, so the match is turned around for those of the right.
  exact (Layer.sendThrough_matches (Layer.sendThrough_matches hbase c.layers).symm c'.layers).symm

theorem Connection.reconnect_matches {c c' : Connection} (hc : c.plain = c'.plain)
    (noreplyWait : Bool) (timeout : Option Nat) :
    Matches Alike (fun r r' => r.map Connection.plain = r'.map Connection.plain)
      (c.reconnect noreplyWait timeout) (c'.reconnect noreplyWait timeout) := by
  refine (Layer.reconnectThrough_matches
    (Layer.reconnectThrough_matches (R := fun r r' => _ = _) ?_ c.layers).symm c'.layers).symm
  simp only [Connection.plain, Connection.mk.injEq, true_and] at hc
  rw [hc.1, hc.2]
  refine .bind (note_matches rfl) fun _ _ _ => .bind (takeConnect_matches _) ?_
  rintro failure _ rfl
  refine .pure ?_
  cases failure with
  | none => simp [outcome, Except.map, Connection.plain]
  | some message => rfl

theorem Connection.close_matches {c c' : Connection} (hc : c.plain = c'.plain)
    (noreplyWait : Bool) :
    Matches Alike Eq (c.close noreplyWait) (c'.close noreplyWait) := by
  simp only [Connection.plain, Connection.mk.injEq, true_and] at hc
  unfold Connection.close
  rw [hc.1, hc.2]
  refine .bind (note_matches rfl) fun _ _ _ => .bind (takeClose_matches _) ?_
  rintro failure _ rfl
  exact .pure rfl

theorem Root.connect_matches {r r' : Root} (hr : r.plain = r'.plain) (args : Args) :
    Matches Alike (fun c c' => c.map Connection.plain = c'.map Connection.plain)
      (r.connect args) (r'.connect args) := by
  have hserver : r.server = r'.server := by simpa [Root.plain] using hr
  unfold Root.connect
  rw [hserver]
  refine .bind (note_matches rfl) fun _ _ _ => .bind (takeConnect_matches _) ?_
  rintro failure _ rfl
  refine .pure ?_
  cases failure <;> rfl

theorem Stream.next_matches {send send' : Send Desk Note}
    (h : ∀ request noreply, Matches Alike Eq (send request noreply) (send' request noreply))
    (fuel : Nat) (s : Stream) : Matches Alike Eq (s.next send fuel) (s.next send' fuel) := by
  induction fuel generalizing s with
  | zero => exact .pure rfl
  | succ fuel ih =>
    unfold Stream.next
    split
    · exact .pure rfl
    · split
      · refine .bind (h _ _) ?_
        rintro answer _ rfl
        split
        · exact .pure rfl
        · exact ih _
        · exact ih _
      · exact .pure rfl

theorem Stream.close_matches {send send' : Send Desk Note}
    (h : ∀ request noreply, Matches Alike Eq (send request noreply) (send' request noreply))
    (s : Stream) : Matches Alike Eq (s.close send) (s.close send') := by
  unfold Stream.close
  split
  · refine .bind (h _ _) ?_
    rintro answer _ rfl
    split <;> exact .pure rfl
  · exact .pure rfl

/-! ## Queries and cursors -/

theorem Query.run_matches (h : Transparent react) {q q' : Query} (hq : q.plain = q'.plain)
    {c c' : Connection} (hc : c.plain = c'.plain) (options : Args) :
    Matches Alike (fun r r' => r.map (·.map Cursor.plain) = r'.map (·.map Cursor.plain))
      (q.run react c options) (q'.run react c' options) := by
  have hwire : q.wire = q'.wire := by simpa [Query.plain] using hq
  have hplain : Matches Alike Eq (runPlain react q.wire c options)
      (runPlain react q'.wire c' options) := by
    rw [hwire]
    refine .bind (Connection.send_matches h hc _ _) ?_
    rintro answer _ rfl
    split <;> exact .pure rfl
  refine .bind (QueryLayer.runThrough_matches (QueryLayer.runThrough_matches hplain options
    q.layers).symm options q'.layers).symm fun r r' hr => .pure ?_
  have hstreams : r.map (·.map Prod.snd) = r'.map (·.map Prod.snd) := hr
  rcases r with message | ⟨v⟩ | ⟨layers, s⟩ <;> rcases r' with message' | ⟨v'⟩ | ⟨layers', s'⟩ <;>
    simp_all [Except.map, Outcome.map, Cursor.plain]

theorem Cursor.next_matches (h : Transparent react) {c c' : Cursor} (hc : c.plain = c'.plain)
    (fuel : Nat) : Matches Alike (fun x x' => x.1 = x'.1 ∧ x.2.plain = x'.2.plain)
      (c.next react fuel) (c'.next react fuel) := by
  simp only [Cursor.plain, Cursor.mk.injEq, true_and] at hc
  have hbase : Matches Alike (fun x x' => x.1 = x'.1 ∧ x.2 = x'.2)
      (c.stream.next (c.source.send react) fuel) (c'.stream.next (c'.source.send react) fuel) := by
    rw [← hc.1]
    exact (Stream.next_matches (Connection.send_matches h hc.2) fuel c.stream).mono
      fun x x' hx => by simp [hx]
  have hleft := RowsLayer.nextThrough_matches (R := fun x s (x' : _ × _) => x = x'.1 ∧ s = x'.2)
    hbase c.layers
  have hboth := (RowsLayer.nextThrough_matches
    (R := fun x' s' (x : _ × _ × _) => x.1 = x' ∧ x.2.1 = s') hleft.symm c'.layers).symm
  refine .bind hboth ?_
  rintro ⟨row, s, layers⟩ ⟨row', s', layers'⟩ ⟨hrow, hs⟩
  exact .pure ⟨hrow, by simp_all [Cursor.plain]⟩

theorem Cursor.close_matches (h : Transparent react) {c c' : Cursor} (hc : c.plain = c'.plain) :
    Matches Alike (fun x x' => x.1 = x'.1 ∧ x.2.plain = x'.2.plain)
      (c.close react) (c'.close react) := by
  simp only [Cursor.plain, Cursor.mk.injEq, true_and] at hc
  have hbase : Matches Alike (fun x x' => x.1 = x'.1 ∧ x.2 = x'.2)
      (c.stream.close (c.source.send react)) (c'.stream.close (c'.source.send react)) := by
    rw [← hc.1]
    exact (Stream.close_matches (Connection.send_matches h hc.2) c.stream).mono
      fun x x' hx => by simp [hx]
  have hleft := RowsLayer.closeThrough_matches (R := fun x s (x' : _ × _) => x = x'.1 ∧ s = x'.2)
    hbase c.layers
  have hboth := (RowsLayer.closeThrough_matches
    (R := fun x' s' (x : _ × _ × _) => x.1 = x' ∧ x.2.1 = s') hleft.symm c'.layers).symm
  refine .bind hboth ?_
  rintro ⟨result, s, layers⟩ ⟨result', s', layers'⟩ ⟨hresult, hs⟩
  exact .pure ⟨hresult, by simp_all [Cursor.plain]⟩

theorem fetchMany_matches (h : Transparent react) (fuel n : Nat) (fetched : List Fetched)
    {c c' : Cursor} (hc : c.plain = c'.plain) :
    Matches Alike (fun x x' => x.1 = x'.1 ∧ x.2.plain = x'.2.plain)
      (fetchMany react fuel n fetched c) (fetchMany react fuel n fetched c') := by
  induction n generalizing fetched c c' with
  | zero => exact .pure ⟨rfl, hc⟩
  | succ n ih =>
    refine .bind (Cursor.next_matches h hc fuel) ?_
    rintro ⟨row, d⟩ ⟨row', d'⟩ ⟨hrow, hd⟩
    obtain rfl : row = row' := hrow
    exact ih _ hd

end Service

end QueryTrace.Session
