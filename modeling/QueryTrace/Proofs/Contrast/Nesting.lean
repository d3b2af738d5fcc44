import QueryTrace.Proofs.Contrast.Session

/-!
# Connections inside several layers

Whatever layers are around a connection, only the outermost one does anything. So a session in which
no layer is put on a connection or taken off goes as it would if every connection had its outermost
layer alone: it gets the same results, the same calls reach the driver, and the same spans are
recorded.
-/

namespace QueryTrace.Session

/-! ## Outermost layers -/

/-- The connection with its outermost layer alone. -/
def Connection.outermost (c : Connection) : Connection :=
  { c with layers := c.layers.take 1 }

def Object.outermost : Object → Object
  | .connection c => .connection c.outermost
  | .cursor c => .cursor { c with source := c.source.outermost }
  | o => o

/-- The desk with the outermost layer of each connection alone, also of those that cursors use. -/
def Desk.outermost (d : Desk) : Desk :=
  { d with objects := d.objects.map fun o => (o.1, o.2.outermost) }

theorem Connection.foldl_wrap (c : Connection) (layers : List Layer) :
    layers.foldl Connection.wrap c = { c with layers := layers.reverse ++ c.layers } := by
  induction layers generalizing c with
  | nil => rfl
  | cons layer layers ih =>
    rw [List.foldl_cons, ih]
    simp [Connection.wrap]

/-- A plain connection that is wrapped any number of times has the last layer for its outermost. -/
theorem Connection.outermost_wrap {c : Connection} (hplain : c.layers = []) (inner : List Layer)
    (outer : Layer) : ((inner.foldl Connection.wrap c).wrap outer).outermost = c.wrap outer := by
  rw [Connection.foldl_wrap, hplain]
  simp [Connection.wrap, Connection.outermost, hplain]

theorem Connection.like_outermost (c : Connection) : c.Like .inside c.outermost := by
  refine ⟨?_, rfl, rfl⟩
  show c.layers.head? = (c.layers.take 1).head?
  cases c.layers <;> rfl

theorem Object.like_outermost (o : Object) : o.Like .inside o.outermost := by
  cases o with
  | instrumentor i => exact .instrumentor (.refl i)
  | server number => exact .server number
  | root r => exact .root (.refl r)
  | connection c => exact .connection c.like_outermost
  | query q => exact .query (.refl q)
  | cursor c =>
    exact .cursor ⟨List.forall₂_same.mpr fun _ _ => .refl _ _, rfl, c.source.like_outermost⟩
  | chain c => exact .chain c
  | deferred number => exact .deferred number

theorem Desk.like_outermost {d : Desk} (h : AllWaiting (·.peels = false) d.servers) :
    Desk.Like .inside d d.outermost where
  objects := by
    rw [Desk.outermost, List.forall₂_map_right_iff, List.forall₂_same]
    exact fun o _ => ⟨rfl, o.2.like_outermost⟩
  servers := (h.mono fun _ hpeels _ => hpeels).like
  deferreds := List.forall₂_same.mpr fun held _ => .refl held
  provider := .refl _ _
  room := rfl

/-! ## Sessions -/

/-- Wrapping a connection more than once changes nothing. In any world and any context, whatever
layers are around its connections and whatever its servers are going to do, steps that leave the
layers of connections alone are carried out as if every connection had its outermost layer alone,
whether or not the objects that are left are dropped in the end: with the same spans and contexts,
at the same time, with the same starts and ends of spans and the same notes, that is results of
steps and calls to the driver, in the same order. They leave the same objects, short of the inner
layers of connections. -/
theorem same_session_outermost (fuel depth : Nat) {steps : List Step}
    (hsteps : AllSteps (·.peels = false) steps) (dropping : Bool) (w : World Desk Note)
    (hw : AllWaiting (·.peels = false) w.program.servers) :
    let play : Doing Unit := do
      runSteps fuel depth steps
      if dropping then clear
    let nested := after play w
    let single := after play { w with program := w.program.outermost }
    nested.spans = single.spans ∧ nested.contexts = single.contexts ∧
      nested.clock = single.clock ∧
      nested.story (sessions .inside) = single.story (sessions .inside) ∧
      Desk.Like .inside nested.program single.program := by
  intro play nested single
  have hstart : Same (sessions .inside) w { w with program := w.program.outermost } :=
    { contexts := List.forall₂_same.mpr fun c _ => .refl _ c
      clock := rfl
      spans := .refl _ _
      story := rfl
      programs := Desk.like_outermost hw }
  have hlike : List.Forall₂ (Step.Like .inside) steps steps :=
    (hsteps.mono fun _ hpeels _ => hpeels).like
  obtain ⟨-, hend⟩ := (session_parallel fuel depth hlike dropping).parallel _ _ hstart
  refine ⟨hend.spans rfl, ?_, hend.clock, hend.story, hend.programs⟩
  have hcontexts : List.Forall₂ Eq nested.contexts single.contexts :=
    hend.contexts.imp fun c c' hc => by
      obtain ⟨span, active, inRequest⟩ := c
      obtain ⟨span', active', inRequest'⟩ := c'
      obtain ⟨hspan, hactive, hinRequest⟩ := hc
      obtain rfl : span = span' := hspan.eq
      subst hactive hinRequest
      rfl
  rwa [List.forall₂_eq_eq_eq] at hcontexts

/-- A connection in three layers that have nothing in common. Its server stops the stream that it is
asked for, and refuses one connection. -/
def nestedWorld : World Desk Note :=
  { program :=
      { objects := [("c", .connection ⟨[⟨⟨.recording, .standard⟩, .opcodes "r"⟩,
          ⟨⟨.recording, .production⟩, .opcodes "x"⟩,
          ⟨⟨.unsampled, .standard⟩, .opcodes "y"⟩], 0, 0⟩)]
        servers := [{ latency := 1, connects := [some "refused", none],
                      responses := [⟨[.send "c" .stop true], .respond (.batch [] true)⟩,
                        ⟨[], .respond (.batch [] false)⟩, ⟨[], .fail "gone"⟩] }]
        provider := .recording } }

theorem same_session_nestedWorld :
    let steps : List Step :=
      [.send "c" (.start (.array [.ofWord 15]) (.ofFields [])) false,
       .reconnect (some "d") "c" true none,
       .reconnect (some "e") "c" false none,
       .send "e" (.start (.array [.ofWord 39]) (.ofFields [])) false,
       .send "c" .advance false,
       .closeConnection "e" false]
    let play : Doing Unit := do
      runSteps 3 0 steps
      if true then clear
    let nested := after play nestedWorld
    let single := after play { nestedWorld with program := nestedWorld.program.outermost }
    AllSteps (·.peels = false) steps ∧
      AllWaiting (·.peels = false) nestedWorld.program.servers ∧
      nested.spans.map (·.attrs.lookup "db.x.path") =
        [some (.text "r/table"), some (.text "r/filter")] ∧
      nested.notes.length = 14 ∧
      nested.spans = single.spans ∧
      nested.story (sessions .inside) = single.story (sessions .inside) := by
  intro steps play nested single
  have hleaf {step : Step} (hpeels : step.peels = false) (hinner : step.inner = []) :
      step.Every (·.peels = false) := .intro hpeels (hinner ▸ AllSteps.nil)
  have hsteps : AllSteps (·.peels = false) steps := by
    intro step hstep
    simp only [steps, List.mem_cons, List.not_mem_nil, or_false] at hstep
    rcases hstep with rfl | rfl | rfl | rfl | rfl | rfl <;> exact hleaf rfl rfl
  have hwaiting : AllWaiting (·.peels = false) nestedWorld.program.servers := by
    intro server hserver
    obtain rfl := List.mem_singleton.mp hserver
    intro step hstep
    obtain rfl : step = .send "c" .stop true := List.mem_singleton.mp hstep
    exact hleaf rfl rfl
  obtain ⟨hspans, -, -, hstory, -⟩ :=
    same_session_outermost 3 0 hsteps true nestedWorld hwaiting
  exact ⟨hsteps, hwaiting, by decide +kernel, by decide +kernel, hspans, hstory⟩

end QueryTrace.Session
