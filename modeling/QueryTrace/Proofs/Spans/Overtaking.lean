import QueryTrace.Proofs.Spans.Fates

/-!
# Requests that are overtaken

A request that is nobody else's runs in a span of its own, and its server may be asked to do
anything meanwhile. When a new query starts where the span of the request is current, the span is
taken for a stale one and ended, although its request is still under way. The failure and the
duration of the request come too late then.

This is the only way to lose them. So a failed request is visible on its span exactly if its server
does not overtake it (`Layer.failure_visible_iff`).
-/

namespace QueryTrace

variable {α : Type}

/-! ## Requests in a span of their own -/

/-- The failure of a request is to be seen on its span: the span has ended, was measured, and failed
with a description that is at least the message. -/
def World.Shows {σ ν : Type} (w : World σ ν) (n : Nat) (message : String) : Prop :=
  ∃ r, w.spans[n]? = some r ∧ r.ended = true ∧
    (∃ description, r.failure = some description ∧ message ≤ description) ∧
    ∃ ms, ("db.duration_ms", .duration ms) ∈ r.attrs

section Afterwards

variable {n : Nat} {w : World Handles Blame} {span : SpanRef}

theorem Amid.isRecording (h : Amid n w) (hspan : span.record = some n) :
    w.isRecording span = true := by
  obtain ⟨r, hr, hrecording, -⟩ := h.record
  rw [World.isRecording, World.openRecord?_eq hspan hr hrecording, Option.isSome_some]

theorem Lost.not_isRecording (h : Lost n w) (hspan : span.record = some n) :
    ¬w.isRecording span = true := by
  obtain ⟨r, hr, hended, -⟩ := h
  simp [World.isRecording, World.openRecord?, hspan, hr, hended]

/-- A span that was never measured shows no failure. -/
theorem Lost.not_shows (h : Lost n w) (message : String) : ¬w.Shows n message := by
  rintro ⟨r, hr, -, -, ms, hms⟩
  obtain ⟨r', hr', -, huntimed⟩ := h
  obtain rfl := Option.some.inj (hr.symm.trans hr')
  exact huntimed _ hms rfl

/-- A span that is open when its call fails comes to show the failure. -/
theorem Amid.shows_closed (h : Amid n w) (m : Manager) (hspan : span.record = some n)
    (started : Nat) (message : String) :
    (m.closed span started (.error message : Except String α) w).Shows n message := by
  obtain ⟨r, hr, hrecording, -⟩ := h.record
  obtain ⟨s, hs⟩ := m.spanClosed_closed hspan hr hrecording started
    (.error message : Except String α)
  obtain ⟨ms, slow, -, hattrs⟩ := hs.measured
  exact ⟨s, hs.record, hs.ended, hs.failed message rfl, ms, by simp [hattrs]⟩

end Afterwards

namespace Layer

variable {σ ν : Type}

/-- A request that no other one is around, and no query, runs in a span of its own. -/
theorem send_newQuery (layer : Layer) (hm : layer.manager.provider = .recording)
    (base : Send σ ν) (request : Request) (noreply : Bool) (w : World σ ν)
    (hactive : w.current.active = none) (hrequest : w.current.inRequest = false)
    (hrole : (layer.classifier.summarise request.rendered).role? = some .newQuery) :
    let source : Source := .request request.rendered (layer.classifier.summarise request.rendered)
    ∃ u started, u.contexts = { w.current with inRequest := true } :: w.contexts ∧
      u.program = w.program ∧ u.spans = w.spans ∧
      let v := layer.manager.entered source u
      let r := result (base request noreply) v
      result (layer.send base request noreply) w = r ∧
      after (layer.send base request noreply) w =
        (layer.manager.closed u.nextSpan started r (after (base request noreply) v)).detach := by
  intro source
  obtain ⟨u, hcontexts, hprogram, hspans, hresult, hafter⟩ :=
    layer.send_traced base request noreply hrequest hrole
  have hu : u.current.active = none := by
    rw [World.current, hcontexts]
    exact hactive
  have htraced : result (layer.manager.trace source .newQuery (base request noreply)) u =
        result (layer.manager.runInSpan u.current source (base request noreply)) u ∧
      after (layer.manager.trace source .newQuery (base request noreply)) u =
        after (layer.manager.runInSpan u.current source (base request noreply)) u := by
    simp only [Manager.trace, result_bind, after_bind, result_current, after_current, hu, and_self]
  obtain ⟨started, hentered, hclosed⟩ :=
    layer.manager.runInSpan_entered source u hm (base request noreply)
  refine ⟨u, started, hcontexts, hprogram, hspans, ?_, ?_⟩
  · rw [hresult, htraced.1, hentered]
  · rw [hafter, htraced.2, hclosed]

/-- A failed request that runs in a span of its own is visible on this span exactly if its server
does not overtake it. Then the span is still open when the server is done. -/
theorem failure_visible_iff (outer : Layer) (inner : List Layer)
    (hm : outer.manager.provider = .recording) (request : Request) (noreply : Bool)
    (server : Client (Except String Response)) (w : World Handles Blame)
    (hw : w.program.Clear w.spans.length) (hactive : w.current.active = none)
    (hrequest : w.current.inRequest = false)
    (hrole : (outer.classifier.summarise request.rendered).role? = some .newQuery) :
    let n := w.spans.length
    let act := sendThrough (outer :: inner) (fun _ _ => server.run) request noreply
    let context : Context :=
      { w.current with span := w.nextSpan, active := some .request, inRequest := true }
    let source : Source := .request request.rendered (outer.classifier.summarise request.rendered)
    ∃ v, v.current = context ∧ v.program = w.program ∧
      v.spans[n]? = some { name := "run_query", scope := .tracing,
                           attrs := Manager.attrs outer.manager.config source } ∧
      result act w = result server.run v ∧
      ((after server.run v).isRecording w.nextSpan = true ↔ ¬server.Overtakes v) ∧
      ∀ message, result act w = .error message →
        ((after act w).Shows n message ↔ ¬server.Overtakes v) := by
  intro n act context source
  obtain ⟨u, started, hcontexts, hprogram, hspans, hresult, hafter⟩ :=
    outer.send_newQuery hm (fun _ _ => server.run) request noreply w hactive hrequest hrole
  have hact : act = outer.send (fun _ _ => server.run) request noreply := by
    simp only [act, sendThrough_cons]
  let v := outer.manager.entered source u
  have hcurrent : u.current = { w.current with inRequest := true } := by
    rw [World.current, hcontexts]
    rfl
  have hnext : u.nextSpan = w.nextSpan := by rw [World.nextSpan, hspans, World.nextSpan]
  have hv : v.current = context := by
    rw [World.current, outer.manager.contexts_entered, hcurrent, hnext]
    rfl
  have hrecord : v.spans[n]? = some { name := "run_query", scope := .tracing,
                                      attrs := Manager.attrs outer.manager.config source } := by
    have hentered := outer.manager.getElem?_spans_entered source u
    rwa [hspans] at hentered
  have hclear : v.program.Clear n := by
    rw [outer.manager.program_entered, hprogram]
    exact hw
  have hamid : Amid n v := by
    refine ⟨?_, ?_, ?_, ⟨_, hrecord, rfl, Manager.untimed_attrs _ source⟩, hclear⟩
    all_goals rw [hv]
    rfl
  have hfate := server.fate_run hamid
  have hspan : w.nextSpan.record = some n := rfl
  have hreturned : result act w = result server.run v := by rw [hact, hresult]
  refine ⟨v, hv, ?_, hrecord, hreturned, ?_, fun message hmessage => ?_⟩
  · rw [outer.manager.program_entered, hprogram]
  · exact ⟨fun hrecording hover => (hfate.lost hover).not_isRecording hspan hrecording,
      fun hover => (hamid.of_spared (hfate.spared hover)).isRecording hspan⟩
  · let failed : Except String Response := .error message
    have hclosed : after act w =
        (outer.manager.closed w.nextSpan started failed (after server.run v)).detach := by
      rw [hact, hafter, hnext, ← hreturned, hmessage]
    have hshows : (after act w).Shows n message ↔
        (outer.manager.closed w.nextSpan started failed (after server.run v)).Shows n message := by
      rw [hclosed]
      rfl
    rw [hshows]
    refine ⟨fun hshown hover => ?_, fun hover => ?_⟩
    · have hkept := outer.manager.keepsEnded_closed w.nextSpan started failed (after server.run v)
      exact ((hfate.lost hover).mono hkept).not_shows message hshown
    · exact (hamid.of_spared (hfate.spared hover)).shows_closed outer.manager hspan started message

/-- The server lets another connection go on with a stream that is traced already, starts a query in
the empty context, and then fails. -/
theorem failure_visible_iff_sheltered :
    let m : Manager := ⟨.recording, .standard⟩
    let outer : Layer := ⟨m, .opcodes "r"⟩
    let request : Request := .text "[4]"
    let aside : Client (Except String Nat × Source) :=
      .trace m (.chain (.start "table" .none)) .newQuery (.done (.ok 7)) .done
    let server : Client (Except String Response) :=
      .fetch 0 (.done (.ok none)) fun _ => .detached aside fun _ => .done (.error "lost")
    let iteration : SpanRef := ⟨some (.recorded 0), some 0⟩
    let layer : RowsLayer := { RowsLayer.ofOrigin m "r" with
                               span := ⟨m, .active { span := iteration } "/cursor/iter"⟩ }
    let w : World Handles Blame := { spans := [{ name := "/cursor/iter", scope := .tracing }]
                                     program := [some (.rows layer)] }
    let act := sendThrough [outer, outer] (fun _ _ => server.run) request false
    w.program.Clear 1 ∧ ∃ v, v.current = { span := w.nextSpan, active := some .request,
                                           inRequest := true } ∧
      v.program = w.program ∧
      v.spans[1]? = some { name := "run_query", scope := .tracing,
                           attrs := Manager.attrs m.config (.request request.rendered
                             (outer.classifier.summarise request.rendered)) } ∧
      result act w = result server.run v ∧
      ((after server.run v).isRecording w.nextSpan = true ↔ ¬server.Overtakes v) ∧
      ∀ message, result act w = .error message →
        ((after act w).Shows 1 message ↔ ¬server.Overtakes v) := by
  intro m outer request aside server iteration layer w act
  have hw : w.program.Clear 1 := by
    intro h hmem
    obtain rfl : h = .rows layer := by simpa [w] using hmem
    intro _ context name hactive
    cases hactive
    decide
  exact ⟨hw, failure_visible_iff outer [outer] rfl request false server w hw rfl rfl (by decide)⟩

/-- A server that starts a query where the request is current, and then fails: the request fails,
and its span has ended without a failure. -/
theorem failure_lost_of_newQuery :
    let m : Manager := ⟨.recording, .standard⟩
    let outer : Layer := ⟨m, .opcodes "r"⟩
    let request : Request := .text "[4]"
    let server : Client (Except String Response) :=
      .trace m (.chain (.start "table" .none)) .newQuery
        (.done (.ok 7) : Client (Except String Nat)) fun _ => .done (.error "lost")
    let w : World Handles Blame := { program := [] }
    let act := sendThrough [outer] (fun _ _ => server.run) request false
    w.current.active = none ∧ w.current.inRequest = false ∧
      (outer.classifier.summarise request.rendered).role? = some .newQuery ∧
      ∃ message, result act w = .error message ∧ ¬(after act w).Shows 0 message := by
  intro m outer request server w act
  have hfailed : hasFailed (result act w) = true := by decide
  have hspan : (after act w).spans[0]?.map SpanRecord.failure = some none := by decide
  refine ⟨rfl, rfl, by decide, ?_⟩
  cases hresult : result act w with
  | ok response => simp [hresult, hasFailed] at hfailed
  | error message =>
    refine ⟨message, rfl, ?_⟩
    rintro ⟨r, hr, -, ⟨description, hfailure, -⟩, -⟩
    simp [hr, hfailure] at hspan

end Layer

end QueryTrace
