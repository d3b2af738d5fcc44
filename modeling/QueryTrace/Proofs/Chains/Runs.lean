import QueryTrace.Proofs.Chains.Labels
import QueryTrace.Proofs.Holding.Layers
import QueryTrace.Proofs.Spans.Belonging

/-!
# What the spans of runs say

A run goes through the layers of its node, and every layer that records opens a span that it
describes by its own calls. While the layers inside and the driver are at work, the span keeps its
label; then it ends, and nothing can change a span that has ended. So when the run is over, the span
of each layer says what the layer recorded (`QueryLayer.labels_runThrough`).
-/

namespace QueryTrace

variable {σ ν α κ : Type}

/-! ## Spans that have ended -/

/-- Every span that has ended stays as it is. -/
def World.KeepsEnded (w v : World σ ν) : Prop :=
  ∀ (n : Nat) (r : SpanRecord), w.spans[n]? = some r → r.ended = true → v.spans[n]? = some r

namespace World

variable {w v u : World σ ν}

theorem KeepsEnded.trans (h : w.KeepsEnded v) (h' : v.KeepsEnded u) : w.KeepsEnded u :=
  fun n r hr hended => h' n r (h n r hr hended) hended

theorem KeepsEnded.of_spans (h : v.spans = w.spans) : w.KeepsEnded v :=
  fun n r hr _ => by rw [h, hr]

theorem keepsEnded_amend (w : World σ ν) (span : SpanRef) (f : SpanRecord → SpanRecord) :
    w.KeepsEnded (w.amend span f) := by
  intro n r hr hended
  rw [getElem?_spans_amend, hr]
  simp [hended]

theorem keepsEnded_finish (w : World σ ν) (span : SpanRef) : w.KeepsEnded (w.finish span) := by
  unfold finish
  split
  · exact w.keepsEnded_amend span _
  · exact .of_spans rfl

/-- The end of a span leaves it ended, also where it had ended before. -/
theorem ended_finish {span : SpanRef} {n : Nat} {label : Label} (hspan : span.record = some n)
    (h : w.label? n = some label) :
    ∃ r, (w.finish span).spans[n]? = some r ∧ r.ended = true ∧ r.label = label := by
  obtain ⟨r, hr, rfl⟩ := Option.map_eq_some_iff.mp h
  cases hended : r.ended with
  | true => exact ⟨r, w.keepsEnded_finish span n r hr hended, hended, rfl⟩
  | false => exact ⟨_, (finish_open hspan hr hended).1, rfl, rfl⟩

end World

/-- No move changes a span that has ended. -/
theorem keepsEnded_move {hands : Prop} {s t : Situation σ ν} (hmove : Move hands s t) :
    s.2.KeepsEnded t.2 := by
  cases hmove with
  | logged H w level message fields => exact .of_spans (w.spans_log ..)
  | noted H w n => exact .of_spans rfl
  | worked H w program clock => exact .of_spans rfl
  | attached H w c => exact .of_spans rfl
  | detached H w => exact .of_spans rfl
  | opened H w provider scope name active =>
    intro n r hr _
    have hlt : n < w.spans.length := (List.getElem?_eq_some_iff.mp hr).1
    exact (w.getElem?_spans_startSpan provider scope name _ hlt).trans hr
  | annotated H w span attrs => exact w.keepsEnded_amend span _
  | failed H w span description => exact w.keepsEnded_amend span _
  | closed H w hold => exact w.keepsEnded_finish _
  | ended H w => exact w.keepsEnded_finish _

theorem Path.keepsEnded {hands : Prop} {s t : Situation σ ν} (h : Path hands s t) :
    s.2.KeepsEnded t.2 := by
  induction h with
  | refl => exact .of_spans rfl
  | tail _ hmove ih => exact ih.trans (keepsEnded_move hmove)

/-! ## The span of a chain -/

namespace Manager

variable (m : Manager) (calls : Chain)

def isRecording : Bool :=
  m.provider = .recording

/-- How a chain labels the span of its call. -/
def chainLabel : Label :=
  ⟨m.config.spanName calls.path, chainAttrs m.config calls⟩

/-- What is left to do behind a call in a span touches this span only, and only if it is open. -/
theorem keepsEnded_closed (span : SpanRef) (started : Nat) (given : Except String α)
    (w : World σ ν) : w.KeepsEnded (m.closed span started given w) := by
  let hold : Hold := ⟨.tracing, { span }⟩
  let held : Assertion σ := Assertion.plus (fun _ _ => True) {hold}
  have hfinish : Does True w.detach.current held
      (modify (·.finish span) : Action σ ν Unit) fun _ _ _ => True := .close hold
  have hdoes : Does True w.detach.current held
      (do
        m.noteDuration span started
        let _ ← noteFailure span given
        modify (·.finish span)) fun _ _ _ => True :=
    .bind (m.noteDuration_does started fun _ _ => touchable_of_plus { span }) fun _ =>
      .bind (noteFailure_does (Q := fun _ => held) given fun _ _ => touchable_of_plus { span })
        fun _ => hfinish
  obtain ⟨_, -, hpath, -⟩ := hdoes.moves 0 {hold} w.detach rfl ⟨0, trivial, rfl⟩
  have hdetach : w.KeepsEnded w.detach := .of_spans rfl
  exact hdetach.trans (Path.keepsEnded hpath)

/-- It ends this span with the label that it has. -/
theorem ended_closed {span : SpanRef} {n : Nat} {label : Label} (hspan : span.record = some n)
    (started : Nat) (given : Except String α) {w : World σ ν} (h : w.label? n = some label) :
    ∃ r, (m.closed span started given w).spans[n]? = some r ∧ r.ended = true ∧
      r.label = label := by
  have hnotes : KeepsLabel n (fun _ : σ => True) (do
      m.noteDuration span started
      let _ ← noteFailure span given : Action σ ν Unit) fun _ => True :=
    .bind (m.noteDuration_keepsLabel ..) fun _ _ => .bind (noteFailure_keepsLabel ..) fun _ _ =>
      .pure trivial
  exact World.ended_finish hspan (hnotes.keeps label w.detach h trivial).1

/-- A call in the span of a new chain: it is made where the span has its label, and behind it the
span is closed. A span that is not recorded has no number. -/
theorem exists_callee (call : Action σ ν (Except String α)) (w : World σ ν) :
    ∃ u span started, u.program = w.program ∧
      u.spans.length = w.spans.length + (if m.isRecording then 1 else 0) ∧
      (m.isRecording → span.record = some w.spans.length ∧
        u.label? w.spans.length = some (m.chainLabel calls)) ∧
      after (m.trace (.chain calls) .newQuery call) w =
        m.closed span started (result call u) (after call u) := by
  obtain ⟨v, hcontexts, hprogram, hlength, -, hafter⟩ := m.trace_chain calls w call
  have hcurrent : w.current = v.current := by rw [World.current, World.current, hcontexts]
  let name := m.config.spanName calls.path
  let logged := v.log .debug "starting span for query" [("span", .text name)]
  let started := logged.startSpan m.provider .tracing name v.current.span
  let described := started.2.annotate started.1 (attrs m.config (.chain calls))
  let u := described.attach { v.current with span := started.1, active := some .chain }
  refine ⟨u, started.1, described.clock, ?_, ?_, fun hm => ?_, ?_⟩
  · rw [← hprogram]
    simp [u, described, started, logged]
  · have hdescribed : u.spans.length = started.2.spans.length := World.length_spans_amend ..
    rw [hdescribed, ← hlength]
    cases hm : m.provider <;> simp [started, logged, World.startSpan, isRecording, hm]
  · have hprovider : m.provider = .recording := of_decide_eq_true hm
    have hnumber : logged.spans.length = w.spans.length := by simp [logged, hlength]
    have hspan : started.1.record = some w.spans.length := by
      rw [← hnumber]
      simp [started, World.startSpan, hprovider]
    have hfresh : started.2.spans[w.spans.length]? =
        some { name := name, scope := .tracing } := by
      rw [← hnumber]
      simp [started, World.startSpan, hprovider]
    refine ⟨hspan, ?_⟩
    have hdescribed : u.spans[w.spans.length]? = some _ :=
      World.getElem?_spans_amend_open hspan hfresh rfl _
    rw [World.label?, hdescribed]
    simp [SpanRecord.label, callAttrs_chain, chainLabel, name]
  · rw [hafter, hcurrent]
    rfl

end Manager

/-! ## Runs -/

namespace QueryLayer

variable {clear : Nat → σ → Prop} {base : Action σ ν (Except String (Outcome κ))}

/-- How a run labels the span of a layer. -/
def label (layer : QueryLayer) (options : Args) : Label :=
  layer.manager.chainLabel (layer.runCalls options)

/-- After a run each layer that records has a span with its own label, which has ended. The spans
stand in the order of the layers. -/
theorem labels_runThrough (options : Args)
    (hbase : ∀ n, KeepsLabel n (clear n) base fun _ => True) (outer : List QueryLayer)
    (layer : QueryLayer) (inner : List QueryLayer) (hlayer : layer.manager.isRecording)
    {w : World σ ν} (hw : ∀ n, w.spans.length ≤ n → clear n w.program) :
    ∃ r, (after (runThrough options base (outer ++ layer :: inner)) w).spans[
        w.spans.length + outer.countP (·.manager.isRecording)]? = some r ∧ r.ended = true ∧
      r.label = layer.label options := by
  induction outer generalizing w with
  | nil =>
    obtain ⟨u, span, started, hprogram, -, hopened, hafter⟩ := layer.manager.exists_callee
      (layer.runCalls options) (runThrough options base inner) w
    obtain ⟨hspan, hlabel⟩ := hopened hlayer
    have hclear : clear w.spans.length u.program := hprogram ▸ hw _ le_rfl
    have hkept := ((runThrough_keepsLabel (hbase w.spans.length) options inner).keeps
      _ u hlabel hclear).1
    have hrun : after (runThrough options base (layer :: inner)) w = _ := hafter
    rw [List.nil_append, hrun]
    exact layer.manager.ended_closed hspan started _ hkept
  | cons first outer ih =>
    obtain ⟨u, span, started, hprogram, hlength, -, hafter⟩ := first.manager.exists_callee
      (first.runCalls options) (runThrough options base (outer ++ layer :: inner)) w
    have hle : w.spans.length ≤ u.spans.length := hlength ▸ Nat.le_add_right ..
    obtain ⟨r, hr, hended, hlabel⟩ := ih fun n hn => hprogram ▸ hw n (hle.trans hn)
    have hnumber : w.spans.length + (first :: outer).countP (·.manager.isRecording) =
        u.spans.length + outer.countP (·.manager.isRecording) := by
      rw [hlength, List.countP_cons]
      omega
    have hrun : after (runThrough options base (first :: (outer ++ layer :: inner))) w = _ := hafter
    rw [List.cons_append, hrun, hnumber]
    exact ⟨r, first.manager.keepsEnded_closed span started _ _ _ r hr hended, hended, hlabel⟩

end QueryLayer

end QueryTrace
