import QueryTrace.Proofs.Session.Steps
import QueryTrace.Proofs.Transparency.Layers
import QueryTrace.Proofs.Transparency.Turns
import QueryTrace.Session.Service

/-!
# Desks that look alike

An object of the driver can lie inside layers, and a program of driver operations cannot tell.
Two desks look alike if they hold the same plain objects under the same names, and the same servers.
Nothing else of a world counts: neither the contexts that are attached nor the spans.
-/

namespace QueryTrace.Session

/-! ## Plain objects and plain notes -/

/-- The namespace without its layers. -/
def Root.plain (root : Root) : Root :=
  { root with layers := [] }

/-- The connection without its layers. -/
def Connection.plain (c : Connection) : Connection :=
  { c with layers := [] }

/-- The query node without its layers. -/
def Query.plain (q : Query) : Query :=
  { q with layers := [] }

/-- The cursor without its layers. -/
def Cursor.plain (c : Cursor) : Cursor :=
  { c with layers := [], source := c.source.plain }

/-- The object of the driver inside the layers of an object. -/
def Object.plain : Object → Object
  | .root r => .root r.plain
  | .connection c => .connection c.plain
  | .query q => .query q.plain
  | .cursor c => .cursor c.plain
  | o => o

/-- The desk with every object unwrapped. -/
def Desk.plain (d : Desk) : Desk :=
  { d with objects := d.objects.map fun o => (o.1, o.2.plain) }

/-- A report without what it tells about layers. -/
def Report.plain : Report → Report
  | .connected result => .connected (result.map fun r => (0, r.2))
  | .node q => .node { q with chains := [] }
  | .fetched rows _ => .fetched rows []
  | .streamClosed result _ => .streamClosed result []
  | report => report

/-- A note without what it tells about layers. -/
def Note.plain : Note → Note
  | .step verb depth result => .step verb depth (result.map Report.plain)
  | n => n

/-- An operation of the driver, or of its surroundings: setting servers up, and carrying steps out
inside a span of the application or in the empty context. -/
def Step.drives : Step → Bool
  | .server .. => true
  | .respond .. => true
  | .openPlain .. => true
  | .connect .. => true
  | .reconnect .. => true
  | .closeConnection .. => true
  | .send .. => true
  | .query .. => true
  | .call .. => true
  | .run .. => true
  | .next .. => true
  | .close _ => true
  | .drop _ => true
  | .ambient .. => true
  | .detached _ => true
  | _ => false

/-- Desks and notes look alike to a program of driver operations. -/
structure Alike (s s' : Desk × List Note) : Prop where
  objects : s.1.plain.objects = s'.1.plain.objects
  servers : s.1.servers = s'.1.servers
  notes : s.2.map Note.plain = s'.2.map Note.plain
  waiting : AllWaiting (·.drives = true) s.1.servers

/-! ## The desk -/

section Desk

variable {α β γ : Type}

/-- The action leaves objects, servers and notes alone. -/
structure Inert (act : Doing α) : Prop where
  objects : ∀ w, (after act w).program.objects = w.program.objects
  servers : ∀ w, (after act w).program.servers = w.program.servers
  notes : ∀ w, (after act w).notes = w.notes

theorem Inert.of_unseen {act : Doing α} (h : Unseen act) : Inert act where
  objects w := congrArg (·.1.objects) (h.seen_after w)
  servers w := congrArg (·.1.servers) (h.seen_after w)
  notes w := congrArg (·.2) (h.seen_after w)

theorem Inert.bind {act : Doing α} {f : α → Doing β} (h : Inert act) (hf : ∀ a, Inert (f a)) :
    Inert (act >>= f) where
  objects w := by rw [after_bind, (hf _).objects, h.objects]
  servers w := by rw [after_bind, (hf _).servers, h.servers]
  notes w := by rw [after_bind, (hf _).notes, h.notes]

theorem Inert.matches {act : Doing α} {other : Doing γ} (h : Inert act) (h' : Inert other) :
    Matches Alike (fun _ _ => True) act other := by
  intro w v hL
  refine ⟨trivial, ?_, ?_, ?_, ?_⟩
  · simpa [World.seen, Desk.plain, h.objects, h'.objects] using hL.objects
  · simpa [World.seen, h.servers, h'.servers] using hL.servers
  · simpa [World.seen, h.notes, h'.notes] using hL.notes
  · simpa [World.seen, h.servers] using hL.waiting

theorem inert_release (number : Nat) : Inert (release number) := by
  refine .bind ⟨fun _ => rfl, fun _ => rfl, fun _ => rfl⟩ fun _ => ?_
  refine .bind ⟨fun _ => rfl, fun _ => rfl, fun _ => rfl⟩ fun d => ?_
  split
  · split
    · exact .of_unseen (Deferred.unseen_abandon _)
    · exact .of_unseen (.pure _)
  · exact .of_unseen (.pure _)

theorem inert_discard (o : Object) : Inert (discard o) := by
  unfold discard
  split
  · next c =>
    induction c.layers with
    | nil => exact .of_unseen (.pure _)
    | cons layer layers ih => exact .bind (.of_unseen layer.unseen_drop) fun _ => ih
  · exact inert_release _
  · exact .of_unseen (.pure _)

theorem note_matches {n n' : Note} (h : n.plain = n'.plain) :
    Matches Alike (fun _ _ => True) (note n) (note n') := by
  intro w v hL
  refine ⟨trivial, hL.objects, hL.servers, ?_, hL.waiting⟩
  have := hL.notes
  simp_all [World.seen]

theorem desk_matches : Matches Alike
    (fun d d' => d.servers = d'.servers ∧ AllWaiting (·.drives = true) d.servers) desk desk :=
  fun _ _ hL => ⟨⟨hL.servers, hL.waiting⟩, hL⟩

theorem changeServer_matches (number : Nat) {f : Server → Server}
    (hf : ∀ s, AllSteps (·.drives = true) s.waiting → AllSteps (·.drives = true) (f s).waiting) :
    Matches Alike (fun _ _ => True) (changeServer number f) (changeServer number f) := by
  intro w v hL
  refine ⟨trivial, hL.objects, ?_, hL.notes, hL.waiting.modify number hf⟩
  exact congrArg (List.modify · number f) hL.servers

theorem lookup_matches (name : String) : Matches Alike
    (fun o o' => o.map Object.plain = o'.map Object.plain) (lookup? name) (lookup? name) := by
  have hfind (d : Desk) : (d.plain.objects.find? (·.1 = name)).map (·.2) =
      ((d.objects.find? (·.1 = name)).map (·.2)).map Object.plain := by
    simp [Desk.plain, List.find?_map, Function.comp_def]
  intro w v hL
  have hobjects : w.program.plain.objects = v.program.plain.objects := hL.objects
  refine ⟨?_, hL⟩
  show ((w.program.objects.find? _).map _).map _ = ((v.program.objects.find? _).map _).map _
  rw [← hfind, ← hfind, hobjects]

theorem map_insertField (name : String) (o : Object) (objects : List (String × Object)) :
    (insertField name o objects).map (fun o => (o.1, o.2.plain)) =
      insertField name o.plain (objects.map fun o => (o.1, o.2.plain)) := by
  induction objects with
  | nil => rfl
  | cons p rest ih =>
    simp only [insertField, List.map_cons]
    split
    · rfl
    · split
      · rfl
      · simp [ih]

theorem store_matches (name : String) {o o' : Object} (h : o.plain = o'.plain) :
    Matches Alike (fun _ _ => True) (store name o) (store name o') := by
  refine .bind (lookup_matches name) fun old old' _ => ?_
  refine .bind (R := fun _ _ => True) ?_ fun _ _ _ => ?_
  · intro w v hL
    refine ⟨trivial, ?_, hL.servers, hL.notes, hL.waiting⟩
    have hobjects := hL.objects
    simp only [Desk.plain, World.seen] at hobjects
    show List.map _ (insertField _ _ _) = List.map _ (insertField _ _ _)
    rw [map_insertField, map_insertField, hobjects, h]
  · refine Inert.matches ?_ ?_ <;> split
    · exact inert_discard _
    · exact .of_unseen (.pure _)
    · exact inert_discard _
    · exact .of_unseen (.pure _)

theorem keep_matches (name : Option String) {o o' : Object} (h : o.plain = o'.plain) :
    TurnMatches Alike (fun _ _ => True) (keep name o) (keep name o') := by
  cases name with
  | some name => exact .lift (store_matches name h)
  | none =>
    exact .bind (.lift ((inert_discard o).matches (inert_discard o'))) fun _ _ _ => .throw _

theorem remove_matches (name : String) :
    Matches Alike (fun _ _ => True) (remove name) (remove name) := by
  intro w v hL
  have hobjects : w.program.plain.objects = v.program.plain.objects := hL.objects
  refine ⟨trivial, ?_, hL.servers, hL.notes, hL.waiting⟩
  have hfilter (d : Desk) : (d.objects.filter (·.1 ≠ name)).map (fun o => (o.1, o.2.plain)) =
      d.plain.objects.filter (·.1 ≠ name) := by
    simp [Desk.plain, List.filter_map, Function.comp_def]
  show List.map _ (List.filter _ _) = List.map _ (List.filter _ _)
  rw [hfilter, hfilter, hobjects]

/-- Finding an object of a kind whose objects are unwrapped by `plain`. -/
theorem find_matches {pick : Object → Option α} {plain : α → α}
    (hpick : ∀ o, pick o.plain = (pick o).map plain) (name : String) :
    TurnMatches Alike (fun a a' => plain a = plain a') (find pick name) (find pick name) := by
  refine .bind (.lift (lookup_matches name)) fun o o' ho => ?_
  have hpicked : (o.bind pick).map plain = (o'.bind pick).map plain := by
    have hplain (o : Option Object) : (o.bind pick).map plain = (o.map Object.plain).bind pick := by
      cases o with
      | none => rfl
      | some o => exact (hpick o).symm
    rw [hplain, hplain, ho]
  cases hfound : o.bind pick with
  | none =>
    rw [hfound] at hpicked
    rw [Option.map_eq_none_iff.mp hpicked.symm]
    exact .throw _
  | some x =>
    rw [hfound] at hpicked
    obtain ⟨y, hy, hxy⟩ := Option.map_eq_some_iff.mp hpicked.symm
    rw [hy]
    exact .pure hxy.symm

end Desk

end QueryTrace.Session
