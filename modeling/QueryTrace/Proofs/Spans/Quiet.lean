import QueryTrace.Proofs.Worlds

/-!
# Starts and ends of spans

What is recorded of the life of a span is when it starts and when it ends. Everything else that
happens is quiet: log events, notes, and the attributes and failures that spans get.
-/

namespace QueryTrace

variable {σ ν : Type}

/-! ## Starts and ends -/

/-- The entry is the start or the end of a span. -/
def Entry.isSpan : Entry ν → Bool
  | .started .. => true
  | .ended .. => true
  | _ => false

/-- The starts and ends of spans so far. -/
def World.spanEvents (w : World σ ν) : List (Entry ν) :=
  w.journal.filter Entry.isSpan

/-- What never changes about a span but for its end, and whether it has ended. -/
def SpanRecord.stage (r : SpanRecord) : String × Scope × Bool :=
  (r.name, r.scope, r.ended)

/-- Where the spans stand, by their numbers. -/
def World.stages (w : World σ ν) : List (String × Scope × Bool) :=
  w.spans.map SpanRecord.stage

/-- No span started or ended on the way from one world to the other, and the contexts are those of
before. Spans may have got attributes and failures. -/
structure World.Quiet (w v : World σ ν) : Prop where
  contexts : v.contexts = w.contexts
  events : v.spanEvents = w.spanEvents
  stages : v.stages = w.stages

namespace World

variable {w v u : World σ ν}

theorem Quiet.refl (w : World σ ν) : w.Quiet w := ⟨rfl, rfl, rfl⟩

theorem Quiet.trans (h : w.Quiet v) (h' : v.Quiet u) : w.Quiet u :=
  ⟨h'.contexts.trans h.contexts, h'.events.trans h.events, h'.stages.trans h.stages⟩

theorem Quiet.current (h : w.Quiet v) : v.current = w.current := by
  unfold World.current
  rw [h.contexts]

theorem quiet_log (w : World σ ν) (level : Level) (message : String) (fields : List Attr) :
    w.Quiet (w.log level message fields) := by
  refine ⟨contexts_log .., ?_, by rw [stages, spans_log, stages]⟩
  rcases w.journal_log level message fields with h | h <;> simp [spanEvents, h, Entry.isSpan]

theorem quiet_amend (span : SpanRef) {f : SpanRecord → SpanRecord}
    (hf : ∀ r, (f r).stage = r.stage) : w.Quiet (w.amend span f) := by
  refine ⟨contexts_amend .., by simp [spanEvents], ?_⟩
  apply List.ext_getElem?
  intro n
  rw [stages, stages, List.getElem?_map, List.getElem?_map, getElem?_spans_amend, Option.map_map]
  congr 1
  funext r
  show SpanRecord.stage (if _ then f r else r) = _
  split
  · exact hf r
  · rfl

theorem quiet_annotate (w : World σ ν) (span : SpanRef) (attrs : List Attr) :
    w.Quiet (w.annotate span attrs) :=
  quiet_amend span fun _ => rfl

theorem quiet_fail (w : World σ ν) (span : SpanRef) (description : String) :
    w.Quiet (w.fail span description) := by
  refine quiet_amend span fun r => ?_
  unfold SpanRecord.fail
  split
  · rfl
  · split <;> rfl

/-! ## One start, one end -/

theorem getElem?_stages (w : World σ ν) (n : Nat) :
    w.stages[n]? = (w.spans[n]?).map SpanRecord.stage := by
  rw [stages, List.getElem?_map]

theorem length_stages (w : World σ ν) : w.stages.length = w.spans.length := by
  rw [stages, List.length_map]

theorem Quiet.length_spans (h : w.Quiet v) : v.spans.length = w.spans.length := by
  rw [← length_stages, h.stages, length_stages]

section Start

variable (w : World σ ν) (scope : Scope) (name : String) (parent : SpanRef)

/-- A span that is recorded stands behind all others, and is open. -/
theorem stages_startSpan :
    (w.startSpan .recording scope name parent).2.stages = w.stages ++ [(name, scope, false)] := by
  simp [startSpan, stages, SpanRecord.stage]

theorem spanEvents_startSpan : (w.startSpan .recording scope name parent).2.spanEvents =
    w.spanEvents ++ [.started w.spans.length name parent.identity scope] := by
  simp [startSpan, spanEvents, Entry.isSpan]

end Start

/-- The end of a span does nothing unless the span is recorded and open. Then it ends. -/
theorem finish_cases (w : World σ ν) (span : SpanRef) :
    (w.finish span = w ∧ ∀ n name scope, span.record = some n →
      w.stages[n]? ≠ some (name, scope, false)) ∨
    ∃ n name scope attrs failure, span.record = some n ∧
      w.stages[n]? = some (name, scope, false) ∧
      (w.finish span).stages = w.stages.set n (name, scope, true) ∧
      (w.finish span).spanEvents = w.spanEvents ++ [.ended n name attrs failure] := by
  cases hrecord : span.record with
  | none => exact .inl ⟨by simp [finish, hrecord], fun _ _ _ h => by cases h⟩
  | some n =>
    have hopen : w.openRecord? span = (w.spans[n]?).filter (!·.ended) := by
      simp [openRecord?, hrecord]
    cases hr : (w.spans[n]?).filter (!·.ended) with
    | none =>
      refine .inl ⟨by simp [finish, hrecord, hopen, hr], fun m name scope hm hstage => ?_⟩
      obtain rfl : n = m := by simpa using hm
      rw [getElem?_stages, Option.map_eq_some_iff] at hstage
      obtain ⟨r, hget, hstage⟩ := hstage
      have hended : r.ended = false := congrArg (·.2.2) hstage
      simp [hget, hended] at hr
    | some r =>
      have hget := Option.filter_eq_some_iff.mp hr
      have hended : r.ended = false := by simpa using hget.2
      have hfinish : w.finish span = (w.amend span fun r => { r with ended := true }).write
          (.ended n r.name r.attrs r.failure) := by
        simp [finish, hrecord, hopen, hr]
      refine .inr ⟨n, r.name, r.scope, r.attrs, r.failure, rfl, ?_, ?_, ?_⟩
      · rw [getElem?_stages, hget.1, Option.map_some, SpanRecord.stage, hended]
      · rw [hfinish]
        apply List.ext_getElem?
        intro m
        rw [getElem?_stages, spans_write, getElem?_spans_amend, hrecord, List.getElem?_set]
        by_cases hm : n = m
        · subst hm
          have hlt : n < w.stages.length := by
            rw [length_stages]
            exact (List.getElem?_eq_some_iff.mp hget.1).1
          simp [hget.1, hended, hlt, SpanRecord.stage]
        · simp [hm, getElem?_stages]
      · rw [hfinish]
        simp [spanEvents, Entry.isSpan]

/-! ## Steps of a span's life -/

/-- No span started or ended on the way from one world to the other. -/
structure Calm (w v : World σ ν) : Prop where
  events : v.spanEvents = w.spanEvents
  stages : v.stages = w.stages

/-- One span was started on the way from one world to the other, as a child of the current one. -/
structure Starts (w v : World σ ν) (name : String) : Prop where
  events : v.spanEvents =
    w.spanEvents ++ [.started w.spans.length name w.current.span.identity .tracing]
  stages : v.stages = w.stages ++ [(name, .tracing, false)]

/-- The span was ended on the way from one world to the other, unless somebody else had ended it
before, and no other span was started or ended. -/
def Closes (w v : World σ ν) (span : SpanRef) : Prop :=
  if w.isRecording span then ∃ n name attrs failure, span.record = some n ∧
    v.spanEvents = w.spanEvents ++ [.ended n name attrs failure]
  else v.spanEvents = w.spanEvents

theorem Quiet.calm (h : w.Quiet v) : w.Calm v := ⟨h.events, h.stages⟩

theorem Calm.refl (w : World σ ν) : w.Calm w := ⟨rfl, rfl⟩

theorem Calm.trans (h : w.Calm v) (h' : v.Calm u) : w.Calm u :=
  ⟨h'.events.trans h.events, h'.stages.trans h.stages⟩

theorem calm_attach (w : World σ ν) (context : Context) : w.Calm (w.attach context) := ⟨rfl, rfl⟩

theorem calm_detach (w : World σ ν) : w.Calm w.detach := ⟨rfl, rfl⟩

/-- A span takes attributes and failures as long as its number stands for an open span. -/
theorem isRecording_iff {span : SpanRef} : w.isRecording span = true ↔
    ∃ n name scope, span.record = some n ∧ w.stages[n]? = some (name, scope, false) := by
  unfold isRecording openRecord?
  cases hrecord : span.record with
  | none => simp
  | some n =>
    rw [Option.isSome_iff_exists]
    constructor
    · rintro ⟨r, hr⟩
      obtain ⟨hget, hopen⟩ := Option.filter_eq_some_iff.mp hr
      refine ⟨n, r.name, r.scope, rfl, ?_⟩
      rw [getElem?_stages, hget, Option.map_some, SpanRecord.stage]
      simpa using hopen
    · rintro ⟨m, name, scope, hm, hstage⟩
      obtain rfl := Option.some.inj hm
      rw [getElem?_stages, Option.map_eq_some_iff] at hstage
      obtain ⟨r, hget, hstage⟩ := hstage
      have hopen : r.ended = false := congrArg (·.2.2) hstage
      exact ⟨r, Option.filter_eq_some_iff.mpr ⟨hget, by simp [hopen]⟩⟩

theorem Calm.isRecording (h : w.Calm v) (span : SpanRef) :
    v.isRecording span = w.isRecording span := by
  rw [Bool.eq_iff_iff, isRecording_iff, isRecording_iff, h.stages]

/-- A span that was started is open. -/
theorem Starts.isRecording {name : String} (h : w.Starts v name) {span : SpanRef}
    (hspan : span.record = some w.spans.length) : v.isRecording span = true := by
  refine isRecording_iff.mpr ⟨_, name, .tracing, hspan, ?_⟩
  rw [h.stages, ← length_stages, List.getElem?_concat_length]

/-- The identity of a new span does not depend on what was reported before. -/
theorem Quiet.startSpan (h : w.Quiet v) (provider : Provider) (scope : Scope) (name : String)
    (parent : SpanRef) :
    (v.startSpan provider scope name parent).1 = (w.startSpan provider scope name parent).1 := by
  cases provider with
  | recording => simp [World.startSpan, h.length_spans]
  | unsampled => rfl
  | inert => rfl

theorem starts_startSpan (h : w.Quiet v) (name : String) :
    w.Starts (v.startSpan .recording .tracing name w.current.span).2 name := by
  refine ⟨?_, ?_⟩
  · rw [spanEvents_startSpan, h.events, h.length_spans]
  · rw [stages_startSpan, h.stages]

theorem calm_startSpan {provider : Provider} (hprovider : provider ≠ .recording) (scope : Scope)
    (name : String) (parent : SpanRef) : w.Calm (w.startSpan provider scope name parent).2 := by
  cases provider with
  | recording => exact absurd rfl hprovider
  | unsampled => exact .refl w
  | inert => exact .refl w

theorem closes_finish (w : World σ ν) (span : SpanRef) : w.Closes (w.finish span) span := by
  unfold Closes
  rcases w.finish_cases span with ⟨hsame, hclosed⟩ |
    ⟨n, name, scope, attrs, failure, hspan, hopen, -, hends⟩
  · have hnot : ¬w.isRecording span = true := by
      intro hrec
      obtain ⟨n, name, scope, hspan, hopen⟩ := isRecording_iff.mp hrec
      exact hclosed n name scope hspan hopen
    rw [if_neg hnot, hsame]
  · rw [if_pos (isRecording_iff.mpr ⟨n, name, scope, hspan, hopen⟩)]
    exact ⟨n, name, attrs, failure, hspan, hends⟩

theorem Closes.of_calm {span : SpanRef} (hcalm : w.Calm v) (h : v.Closes u span) :
    w.Closes u span := by
  unfold Closes at h ⊢
  rwa [hcalm.isRecording span, hcalm.events] at h

end World

end QueryTrace
