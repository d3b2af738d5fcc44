import QueryTrace.Proofs.Layered.Iterations

/-!
# Namespaces that are instrumented more than once

A namespace that is instrumented several times puts a layer of each around its nodes and their
cursors. The layers do not know of one another: a run outside of any query is one span for each of
them, and so is the iteration of a cursor (`spans_of_layered_query`). It is one span for the whole
query only where there is one layer (`exists_run_with_two_spans`). Layers around a connection are
different: inside one of them the others do nothing.
-/

namespace QueryTrace

variable {ι σ ν κ : Type}

/-- How many spans the layers of a stream start: one each if the first call is a fetch. -/
theorem RowsLayer.length_openingStarts (names : List String) (episodes : List (Episode σ ν)) :
    (openingStarts names episodes).length =
      if (firstCall episodes).any (·.call.isFetch) then names.length else 0 := by
  unfold openingStarts
  cases firstCall episodes with
  | none => rfl
  | some first =>
    cases hfetch : first.call.isFetch with
    | true => simp [hfetch, length_nestedStarts]
    | false => simp [hfetch]

/-- A run of a node outside of any query, whatever the driver and its servers say to each other, is
one span for each layer of the namespace, each inside the one before. A cursor that it gives is one
more span for each of them, again one inside the other, if it is fetched from before it is closed,
whatever else a program does with it. -/
theorem spans_of_layered_query (base : ι → Send σ ν) (root : Session.Root)
    (hne : root.layers ≠ [])
    (hroot : ∀ layer ∈ root.layers, layer.manager.provider = .recording)
    (first : String × Args) (calls : List (String × Args)) (options : Args)
    (d : Dialogue ι σ (Except String (Outcome κ))) (w : World σ ν) (hw : w.current.active = none)
    (hbase : ∀ span, QuietServers base { w.current with span, active := some .chain }) :
    let layers := (root.node first calls).layers
    let run := QueryLayer.runThrough options (d.run base) layers
    w.Nests (after run w) (layers.map (·.runName options)) w.current.span.identity ∧
      (after run w).spans.length = w.spans.length + root.layers.length ∧
      ∀ rows stream, result run w = .ok (.stream (rows, stream)) →
        ∀ (uses : List (StreamUse σ ν κ)) (v : World σ ν),
          let episodes := result (RowsLayer.wholeThrough rows uses) v
          RowsLayer.layerStarts episodes =
              RowsLayer.openingStarts (root.layers.map (·.manager.iterationName)) episodes ∧
            (RowsLayer.layerStarts episodes).length =
              if (firstCall episodes).any (·.call.isFetch) then root.layers.length else 0 := by
  intro layers run
  have hlayers : layers = root.layers.map fun layer => ⟨layer.manager, .ofCalls first calls⟩ :=
    root.layers_node first calls
  have hrecording : ∀ layer ∈ layers, layer.manager.provider = .recording := by
    rw [hlayers, List.forall_mem_map]
    exact hroot
  have hnests : w.Nests (after run w) (layers.map (·.runName options)) w.current.span.identity :=
    QueryLayer.nests_runThrough (by simpa [hlayers] using hne) hrecording hw fun span =>
      d.quiet_run (.inl rfl) (hbase span)
  refine ⟨hnests, ?_, fun rows stream hstream uses v => ?_⟩
  · rw [hnests.length_spans, hlayers, List.length_map, List.length_map]
  · obtain rfl := QueryLayer.layers_of_stream hstream
    let managers := layers.map (·.manager)
    have hmanagers : ∀ m ∈ managers, m.provider = .recording := List.forall_mem_map.mpr hrecording
    have hnames : managers.map (·.iterationName) =
        root.layers.map (·.manager.iterationName) := by
      simp [managers, hlayers, Function.comp_def]
    intro episodes
    have hstarts : RowsLayer.layerStarts episodes =
        RowsLayer.openingStarts (managers.map (·.iterationName)) episodes :=
      RowsLayer.starts_of_whole hmanagers (RowsLayer.together_ofOrigins QueryLayer.manager
        (fun layer => (layer.runCalls options).path) layers) uses v
    rw [hnames] at hstarts
    refine ⟨hstarts, ?_⟩
    rw [hstarts, RowsLayer.length_openingStarts, List.length_map]

namespace Session

/-- A namespace that is instrumented twice. -/
def instrumentedTwice : Root :=
  let layer : Layer := ⟨⟨.recording, .standard⟩, .opcodes "r"⟩
  { layers := [layer, layer], server := 0 }

theorem recording_instrumentedTwice :
    ∀ layer ∈ instrumentedTwice.layers, layer.manager.provider = .recording := by
  simp [instrumentedTwice]

/-- A plain connection to the first server. -/
def plainConnection : Connection := { layers := [], server := 0 }

/-- A session with a server that answers with a stream of one row. -/
def streamingServer : World Desk Note :=
  { program := { provider := .inert, servers :=
      [{ responses := [⟨[], .respond (.batch [.null] false)⟩], latency := 2 }] } }

theorem spans_of_layered_query_instrumentedTwice :
    let base : Connection → Send Desk Note :=
      fun c => handle (fun _ => pure ()) c.server c.generation
    let node := instrumentedTwice.node ("table", .one "t") [("filter", .none)]
    let run := QueryLayer.runThrough .none
      ((Query.dialogue node.wire plainConnection .none).run base) node.layers
    streamingServer.Nests (after run streamingServer) ["/table/filter/run", "/table/filter/run"]
        none ∧
      ∃ rows stream, result run streamingServer = .ok (.stream (rows, stream)) ∧
        (RowsLayer.layerStarts (result (RowsLayer.wholeThrough rows
          [.next (return (.ok (some .null), stream)), .next (return (.ok none, stream))])
          (after run streamingServer))).length = 2 := by
  intro base node run
  have hbase (c : Context) : QuietServers base c := fun _ request noreply _ =>
    quiet_handle (fun _ => .pure _) _ _ request noreply
  obtain ⟨hnests, -, hrows⟩ := spans_of_layered_query base instrumentedTwice (List.cons_ne_nil _ _)
    recording_instrumentedTwice ("table", .one "t") [("filter", .none)] .none
    (Query.dialogue node.wire plainConnection .none) streamingServer rfl fun _ => hbase _
  exact ⟨hnests, _, _, rfl, (hrows _ _ rfl _ _).2.trans rfl⟩

/-- Not every run of a query is one span. -/
theorem exists_run_with_two_spans :
    ¬ ∀ (root : Root), root.layers ≠ [] →
      (∀ layer ∈ root.layers, layer.manager.provider = .recording) →
      ∀ (first : String × Args) (calls : List (String × Args)) (c : Connection) (options : Args)
        (w : World Desk Note), w.current.active = none →
        (after ((root.node first calls).run (fun _ => pure ()) c options) w).spans.length =
          w.spans.length + 1 := by
  intro h
  have hone := h instrumentedTwice (List.cons_ne_nil _ _)
    recording_instrumentedTwice ("table", .one "t") [] plainConnection .none
    streamingServer rfl
  have htwo : (after ((instrumentedTwice.node ("table", .one "t") []).run (fun _ => pure ())
      plainConnection .none) streamingServer).spans.length = 2 := rfl
  rw [htwo] at hone
  cases hone

end Session

end QueryTrace
