import QueryTrace.Proofs.Chains.Clients
import QueryTrace.Proofs.Chains.Keys
import QueryTrace.Proofs.Chains.Nodes
import QueryTrace.Proofs.Chains.Runs
import QueryTrace.Proofs.Spans.Handles

/-!
# Trees of nodes and their runs

Nodes are made by root calls and by calls on other nodes, and a node can be extended and run any
number of times. A bench keeps all nodes that were made, and its works make nodes and run them, in
any order; between them anything else may happen. Every run of a node is described by the calls by
which this node was reached and by nothing else, whatever was done at the bench before it and is
done after it (`label_of_run`).
-/

namespace QueryTrace.Session

variable {κ : Type}

/-! ## Nodes -/

/-- How a node is reached: by a root call, and the calls after it. -/
structure Descent where
  root : Root
  first : String × Args
  calls : List (String × Args) := []

namespace Descent

def node (d : Descent) : Query :=
  d.root.node d.first d.calls

def extend (d : Descent) (call : String × Args) : Descent :=
  { d with calls := d.calls ++ [call] }

/-- All calls of a run, the run itself being the last one. -/
def runCalls (d : Descent) (options : Args) : List (String × Args) :=
  d.first :: (d.calls ++ [("run", options)])

/-- What the span of a run is to say: its name is a slash and the name of each call, and there is
one attribute for each call, under its position and its name. -/
def label (d : Descent) (config : Config) (options : Args) : Label where
  name := config.spanLead.getD "" ++ Chain.pathOf (d.runCalls options)
  calls := (d.runCalls options).mapIdx fun i call =>
    (callKeyLead ++ Chain.key i call.1,
      .text (if config.logArguments then call.2.rendered else "?"))

theorem node_extend (d : Descent) (call : String × Args) :
    (d.extend call).node = d.node.call call.1 call.2 := by
  simp [node, extend, Root.node]

/-- Each layer of a node labels the spans of runs as it should. -/
theorem label_run (d : Descent) (layer : Layer) (options : Args) :
    QueryLayer.label ⟨layer.manager, .ofCalls d.first d.calls⟩ options =
      d.label layer.manager.config options := by
  have hcalls : QueryLayer.runCalls ⟨layer.manager, .ofCalls d.first d.calls⟩ options =
      .ofCalls d.first (d.calls ++ [("run", options)]) :=
    (Chain.recordAll_concat _ d.calls ("run", options)).symm
  have hattrs : Manager.chainAttrs layer.manager.config
      (.ofCalls d.first (d.calls ++ [("run", options)])) = (d.label layer.manager.config
        options).calls := by
    rw [Manager.chainAttrs, Chain.history_ofCalls]
    refine List.ext_getElem (by simp [Chain.entriesFrom, label, runCalls]) fun i _ _ => ?_
    simp only [Chain.entriesFrom, label, runCalls, callKeyLead, List.getElem_map,
      List.getElem_mapIdx, zero_add]
  rw [QueryLayer.label, hcalls, Manager.chainLabel, hattrs, Chain.path_ofCalls]
  rfl

/-- No two calls stand under the same key. -/
theorem nodup_label (d : Descent) (config : Config) (options : Args) :
    ((d.label config options).calls.map (·.1)).Nodup := by
  have hkeys : (d.label config options).calls.map (·.1) =
      ((d.runCalls options).mapIdx fun i call => Chain.key i call.1).map (callKeyLead ++ ·) := by
    simp [label, List.mapIdx_eq_zipIdx_map, Function.comp_def]
  rw [hkeys]
  exact (Chain.nodup_keys _).map fun _ _ hkey => (String.append_right_inj _).mp hkey

end Descent

/-! ## Works -/

/-- What is done at a bench. Nodes are numbered in the order in which they are made. -/
inductive Work (κ : Type) : Type 1 where
  /-- A root call makes a node. -/
  | start (root : Root) (call : String × Args)
  /-- A call on a node makes another node. -/
  | extend (number : Nat) (call : String × Args)
  /-- A node is run; this is what its driver does. -/
  | run (number : Nat) (options : Args) (driver : Client (Except String (Outcome κ)))
  /-- Something else. -/
  | other (client : Client Unit)

/-- Runs a node, if there is one. -/
def runNode (options : Args) (driver : Client (Except String (Outcome κ))) :
    Option Query → Action Handles Blame Unit
  | some node => do
    let _ ← QueryLayer.runThrough options driver.run node.layers
  | none => pure ()

/-- Carries out a work. -/
def Work.perform : Work κ → List Query → Action Handles Blame (List Query)
  | .start root call, nodes => return nodes ++ [root.query call.1 call.2]
  | .extend number call, nodes =>
    return nodes ++ (nodes[number]?.map fun node => node.call call.1 call.2).toList
  | .run number options driver, nodes => do
    runNode options driver nodes[number]?
    return nodes
  | .other client, nodes => do
    client.run
    return nodes

/-- Carries out works, one after the other. -/
def performAll (works : List (Work κ)) (nodes : List Query) : Action Handles Blame (List Query) :=
  works.foldlM (fun nodes work => work.perform nodes) nodes

/-- What a work adds to the nodes. -/
def Work.reach : Work κ → List Descent → List Descent
  | .start root call, reached => reached ++ [{ root, first := call }]
  | .extend number call, reached =>
    reached ++ (reached[number]?.map fun d => d.extend call).toList
  | .run .., reached => reached
  | .other _, reached => reached

/-- How the nodes are reached that works make. -/
def reached (works : List (Work κ)) : List Descent :=
  works.foldl (fun descents work => work.reach descents) []

/-- A work changes no node that is there. -/
theorem Work.result_perform (work : Work κ) (descents : List Descent) (w : World Handles Blame) :
    result (work.perform (descents.map (·.node))) w = (work.reach descents).map (·.node) := by
  cases work with
  | start root call => simp [perform, reach, Descent.node, Root.node]
  | extend number call =>
    cases h : descents[number]? with
    | none => simp [perform, reach, h]
    | some d => simp [perform, reach, h, Descent.node_extend]
  | run number options driver => rfl
  | other client => rfl

theorem result_performAll (works : List (Work κ)) (w : World Handles Blame) :
    result (performAll works []) w = (reached works).map (·.node) := by
  have hfold (descents : List Descent) (w : World Handles Blame) :
      result (performAll works (descents.map (·.node))) w =
        (works.foldl (fun descents work => work.reach descents) descents).map (·.node) := by
    induction works generalizing descents w with
    | nil => rfl
    | cons work works ih =>
      rw [performAll, List.foldlM_cons, result_bind, work.result_perform]
      exact ih _ _
  exact hfold [] w

theorem runNode_does {c : Context} (options : Args) (driver : Client (Except String (Outcome κ)))
    (node? : Option Query) :
    Does True c HandlesHeld (runNode options driver node?) fun _ => HandlesHeld := by
  cases node? with
  | none => exact .skip _
  | some node =>
    exact .bind (QueryLayer.runThrough_does options (fun _ => driver.run_does) node.layers)
      fun _ => .pure fun _ _ hQ => hQ.2

theorem Work.perform_does {c : Context} (work : Work κ) (nodes : List Query) :
    Does True c HandlesHeld (work.perform nodes) fun _ => HandlesHeld := by
  cases work with
  | start root call => exact .skip _
  | extend number call => exact .skip _
  | run number options driver => exact .bind (runNode_does options driver _) fun _ => .skip _
  | other client => exact .bind client.run_does fun _ => .skip _

theorem performAll_does {c : Context} (works : List (Work κ)) (nodes : List Query) :
    Does True c HandlesHeld (performAll works nodes) fun _ => HandlesHeld := by
  induction works generalizing nodes with
  | nil => exact .skip _
  | cons work works ih =>
    rw [performAll, List.foldlM_cons]
    exact .bind (work.perform_does nodes) fun nodes => ih nodes

theorem performAll_append (works more : List (Work κ)) (nodes : List Query) :
    performAll (works ++ more) nodes = performAll works nodes >>= performAll more :=
  List.foldlM_append ..

/-- At a bench nobody has a handle on a span that is still to start. -/
theorem known_performAll (works : List (Work κ)) (nodes : List Query) {w : World Handles Blame}
    (hw : Known (w.program.holds, w)) :
    let v := after (performAll works nodes) w
    Known (v.program.holds, v) := by
  intro v
  obtain ⟨H, hheld, hpath, -⟩ :=
    (performAll_does (c := w.current) works nodes).moves 0 w.program.holds w rfl le_rfl
  rw [zero_add, zero_add] at hpath
  have hknown : Known (H, v) := hpath.invariant (known_move True) hw
  exact hknown.of_le (Multiset.subset_of_le hheld) (List.Subset.refl _) le_rfl

theorem keepsEnded_performAll (works : List (Work κ)) (nodes : List Query)
    (w : World Handles Blame) : w.KeepsEnded (after (performAll works nodes) w) := by
  obtain ⟨_, -, hpath, -⟩ :=
    (performAll_does (c := w.current) works nodes).moves 0 w.program.holds w rfl le_rfl
  exact Path.keepsEnded hpath

/-! ## Runs -/

/-- A run finds the node as it was made. -/
theorem after_performAll_run (before : List (Work κ)) {number : Nat} {d : Descent}
    (hd : (reached before)[number]? = some d) (options : Args)
    (driver : Client (Except String (Outcome κ))) (w : World Handles Blame) :
    after (performAll (before ++ [.run number options driver]) []) w =
      after (QueryLayer.runThrough options driver.run d.node.layers)
        (after (performAll before []) w) := by
  have hnode : ((reached before).map (·.node))[number]? = some d.node := by simp [hd]
  rw [performAll_append, after_bind, result_performAll]
  simp [performAll, Work.perform, runNode, hnode]

/-- Whatever is done at the bench, a run of a node opens a span for each layer of its namespace that
records. When the run is over, the span has ended and has the label of the calls by which the node
is reached, with the run as the last one; and so it stays, whatever is done at the bench later. The
bench may stand anywhere, also inside the driver of another run. -/
theorem label_of_run (before : List (Work κ)) (number : Nat) (options : Args)
    (driver : Client (Except String (Outcome κ))) (hdriver : driver.Discreet)
    (later : List (Work κ)) (d : Descent) (hd : (reached before)[number]? = some d)
    (w : World Handles Blame) (hw : Known (w.program.holds, w)) :
    let upTo (works : List (Work κ)) := after (performAll works []) w
    let run := .run number options driver
    ∀ outer layer inner, d.root.layers = outer ++ layer :: inner → layer.manager.isRecording →
      let n := (upTo before).spans.length + outer.countP (·.manager.isRecording)
      ∃ r, (upTo (before ++ [run])).spans[n]? = some r ∧ r.ended = true ∧
        r.label = d.label layer.manager.config options ∧ (r.label.calls.map (·.1)).Nodup ∧
        (upTo (before ++ run :: later)).spans[n]? = some r := by
  intro upTo run outer layer inner hlayers hrecording n
  let query (layer : Layer) : QueryLayer := ⟨layer.manager, .ofCalls d.first d.calls⟩
  have hquery : d.node.layers = outer.map query ++ query layer :: inner.map query := by
    have hmap : d.node.layers = d.root.layers.map query := d.root.layers_node d.first d.calls
    rw [hmap, hlayers, List.map_append, List.map_cons]
  obtain ⟨r, hr, hended, hlabel⟩ := QueryLayer.labels_runThrough options
    (fun _ => driver.run_keepsLabel hdriver) (outer.map query) (query layer) (inner.map query)
    hrecording (fun _ => (known_performAll before [] hw).clear)
  have hthere : (upTo (before ++ [run])).spans[n]? = some r := by
    rw [← hquery, List.countP_map] at hr
    rwa [← after_performAll_run before hd options driver w] at hr
  have hlater : (upTo (before ++ [run])).KeepsEnded (upTo (before ++ run :: later)) := by
    have happend : before ++ run :: later = (before ++ [run]) ++ later := by simp
    simp only [upTo, happend]
    rw [performAll_append (before ++ [run]), after_bind]
    exact keepsEnded_performAll later _ _
  rw [d.label_run layer options] at hlabel
  exact ⟨r, hthere, hended, hlabel, hlabel ▸ d.nodup_label _ options, hlater n r hthere hended⟩

/-- A namespace with three layers around it, one of which records nothing. -/
def layeredThrice : Root where
  layers := [⟨⟨.recording, { Config.production with spanLead := some "app" }⟩, .opcodes "r"⟩,
    ⟨⟨.inert, .standard⟩, .opcodes "r"⟩, ⟨⟨.recording, .standard⟩, .opcodes "r"⟩]
  server := 0

/-- A driver that sends a request, runs another chain, and opens and stops a deferred span. -/
def busyDriver : Client (Except String (Outcome Unit)) :=
  let m : Manager := ⟨.recording, .standard⟩
  let cursor : Chain := .start "cursor" .none
  .send [⟨m, .opcodes "r"⟩] .advance false (.done (.ok (.batch [] false))) fun _ =>
    .trace m (.chain (.start "db_list" .none)) .newQuery (.done (.ok () : Except String Unit))
      fun _ => .keep (.span { manager := m }) rfl fun slot =>
        .use slot (.start cursor) <| .use slot (.stop cursor) <| .done (.ok (.value .null))

/-- A node of two calls. -/
def filteredTable : Descent :=
  ⟨layeredThrice, ("table", .one "t"), [("filter", .none)]⟩

/-- A node, and two calls on it; the first of them is run, and fails. -/
def siblings : List (Work Unit) :=
  [.start layeredThrice ("table", .one "t"), .extend 0 ("filter", .none),
    .extend 0 ("count", .none), .run 1 .none (.done (.error "lost"))]

theorem length_spans_siblings :
    (after (performAll siblings []) { program := [] }).spans.length = 2 := rfl

/-- The node of a call is run after its sibling was made and it was run once. Later it is extended
and run again, and so is the sibling. -/
theorem label_of_run_siblings :
    let w : World Handles Blame := { program := [] }
    let upTo (works : List (Work Unit)) := after (performAll works []) w
    let run : Work Unit := .run 1 (.one "o") busyDriver
    let later : List (Work Unit) := [.extend 1 ("limit", .none), run, .run 2 .none busyDriver]
    busyDriver.Discreet ∧ (reached siblings)[1]? = some filteredTable ∧ Known (w.program.holds, w) ∧
      (∃ r, (upTo (siblings ++ [run])).spans[2]? = some r ∧ r.ended = true ∧
        r.label = ⟨"app/table/filter/run", [("db.method.#00.table", .text "?"),
          ("db.method.#01.filter", .text "?"), ("db.method.#02.run", .text "?")]⟩ ∧
        (upTo (siblings ++ run :: later)).spans[2]? = some r) ∧
      ∃ r, (upTo (siblings ++ [run])).spans[3]? = some r ∧ r.ended = true ∧
        r.label = ⟨"/table/filter/run", [("db.method.#00.table", .text "t"),
          ("db.method.#01.filter", .text ""), ("db.method.#02.run", .text "o")]⟩ ∧
        (upTo (siblings ++ run :: later)).spans[3]? = some r := by
  intro w upTo run later
  have hdriver : busyDriver.Discreet := ⟨trivial, fun _ => ⟨trivial, fun _ _ => trivial⟩⟩
  have hknown : Known (w.program.holds, w) := ⟨nofun, nofun⟩
  have hlength : (upTo siblings).spans.length = 2 := length_spans_siblings
  have h := label_of_run siblings 1 (.one "o") busyDriver hdriver later filteredTable
    rfl w hknown
  obtain ⟨outermost, hrun, hended, hlabel, -, hlater⟩ := h [] _ _ rfl rfl
  obtain ⟨innermost, hrun', hended', hlabel', -, hlater'⟩ := h [_, _] _ [] rfl rfl
  rw [hlength] at hrun hlater hrun' hlater'
  refine ⟨hdriver, rfl, hknown, ⟨outermost, hrun, hended, hlabel.trans ?_, hlater⟩,
    innermost, hrun', hended', hlabel'.trans ?_, hlater'⟩
  · decide +kernel
  · decide +kernel

end QueryTrace.Session
