import QueryTrace.Proofs.Spans.Clients
import QueryTrace.Proofs.Spans.Requests

/-!
# The span of a chain belongs to its call

The span that a traced call opens for a chain is in nobody else's hands. While the callee runs, no
client can end it or measure it, in whatever context the call was made and whatever the callee does
(`chain_span_belongs`). So it is measured once, after everything that was recorded meanwhile, and
ends with the call; and it fails only with the callee or with an operation that was attributed to
it.

All that is asked of the world is that no handle has the span open before it has started, and this
is so wherever clients come (`Client.run_known`, `Known.clear`).
-/

namespace QueryTrace

variable {σ ν α : Type}

/-! ## An open span -/

namespace World

variable {w : World σ ν} {span : SpanRef} {n : Nat} {r : SpanRecord}

section Open

variable (hspan : span.record = some n) (hr : w.spans[n]? = some r) (hopen : r.ended = false)
include hspan hr hopen

theorem getElem?_spans_amend_open (f : SpanRecord → SpanRecord) :
    (w.amend span f).spans[n]? = some (f r) := by
  rw [getElem?_spans_amend, hr]
  simp [hspan, hopen]

theorem openRecord?_eq : w.openRecord? span = some r := by
  simp [openRecord?, hspan, hr, hopen]

theorem finish_open : (w.finish span).spans[n]? = some { r with ended := true } ∧
    (w.finish span).journal = w.journal ++ [.ended n r.name r.attrs r.failure] := by
  have hfinish : w.finish span = (w.amend span fun r => { r with ended := true }).write
      (.ended n r.name r.attrs r.failure) := by
    simp [finish, hspan, openRecord?_eq hspan hr hopen]
  rw [hfinish, spans_write, journal_write, journal_amend]
  exact ⟨getElem?_spans_amend_open hspan hr hopen _, rfl⟩

end Open

end World

/-- A failure that is noted is at least the message, in the order of the characters. -/
theorem SpanRecord.le_fail (r : SpanRecord) (message : String) :
    ∃ description, (r.fail message).failure = some description ∧ message ≤ description := by
  unfold SpanRecord.fail
  split
  · exact ⟨message, rfl, String.le_refl message⟩
  · next old hold =>
    split
    · exact ⟨message, rfl, String.le_refl message⟩
    · next hless => exact ⟨old, hold, String.not_lt.mp hless⟩

theorem SpanRecord.fail_eq (r : SpanRecord) (message : String) :
    r.fail message = { r with failure := (r.fail message).failure } := by
  unfold SpanRecord.fail
  split
  · rfl
  · split <;> rfl

/-! ## After the callee -/

section Ending

variable {n : Nat} {span : SpanRef} {w : World σ ν} {r : SpanRecord}

/-- The journal grew, and tells of no end of the span. -/
def World.Passes (n : Nat) (w v : World σ ν) : Prop :=
  ∃ entries, v.journal = w.journal ++ entries ∧ ∀ e ∈ entries, e.isEndOf n = false

theorem World.Passes.of_eq {v : World σ ν} (h : v.journal = w.journal) : w.Passes n v :=
  ⟨[], by simp [h], by simp⟩

theorem World.Passes.trans {v u : World σ ν} (h : w.Passes n v) (h' : v.Passes n u) :
    w.Passes n u := by
  obtain ⟨entries, hjournal, hends⟩ := h
  obtain ⟨entries', hjournal', hends'⟩ := h'
  refine ⟨entries ++ entries', by rw [hjournal', hjournal, List.append_assoc], fun e he => ?_⟩
  exact (List.mem_append.mp he).elim (hends e) (hends' e)

theorem World.passes_log (n : Nat) (w : World σ ν) (level : Level) (message : String)
    (fields : List Attr) : w.Passes n (w.log level message fields) := by
  rcases w.journal_log level message fields with h | h
  · exact .of_eq h
  · exact ⟨_, h, by simp [Entry.isEndOf]⟩

variable (hspan : span.record = some n) (hr : w.spans[n]? = some r) (hopen : r.ended = false)
include hspan hr hopen

/-- The measured duration stands behind all that was recorded before it. Only the mark of a slow
query may follow it. -/
theorem Manager.noteDuration_open (m : Manager) (started : Nat) :
    ∃ ms slow, (slow = [] ∨ slow = [("db.x.slow_query", .flag true)]) ∧
      (after (m.noteDuration span started) w).spans[n]? =
        some { r with attrs := r.attrs ++ ("db.duration_ms", .duration ms) :: slow } ∧
      w.Passes n (after (m.noteDuration span started) w) := by
  have hrecording : w.isRecording span = true := by
    rw [World.isRecording, World.openRecord?_eq hspan hr hopen]
    rfl
  let elapsed := w.clock - started
  let measured := w.annotate span [("db.duration_ms", .duration elapsed)]
  have hmeasured : measured.spans[n]? =
      some { r with attrs := r.attrs ++ [("db.duration_ms", .duration elapsed)] } :=
    World.getElem?_spans_amend_open hspan hr hopen _
  by_cases hslow : m.config.slowThreshold.toNat ≤ elapsed
  · let marked := measured.annotate span [("db.x.slow_query", .flag true)]
    have hafter : after (m.noteDuration span started) w = marked.log .warn "Slow query detected"
        [("duration_ms", .duration elapsed),
          ("threshold_ms", .int m.config.slowThreshold.toInt64.toInt)] := by
      simp [noteDuration, hrecording, hslow, elapsed, marked, measured]
    refine ⟨elapsed, [("db.x.slow_query", .flag true)], .inr rfl, ?_, ?_⟩
    · have hmarked : marked.spans[n]? = some { r with attrs :=
          (r.attrs ++ [("db.duration_ms", .duration elapsed)]) ++
            [("db.x.slow_query", .flag true)] } :=
        World.getElem?_spans_amend_open hspan hmeasured hopen _
      rw [hafter, World.spans_log, hmarked, List.append_assoc]
      rfl
    · rw [hafter]
      exact (World.Passes.of_eq (by simp [marked, measured])).trans (World.passes_log ..)
  · have hafter : after (m.noteDuration span started) w = measured := by
      simp [noteDuration, hrecording, hslow, elapsed, measured]
    refine ⟨elapsed, [], .inl rfl, ?_, ?_⟩
    · rw [hafter, hmeasured]
    · rw [hafter]
      exact .of_eq (by simp [measured])

/-- A failed result leaves a failure that is at least its message; any other leaves none. -/
theorem Manager.noteFailure_open (result : Except String α) :
    ∃ failure, (after (noteFailure span result) w).spans[n]? = some { r with failure } ∧
      (∀ message, result = .error message → ∃ description, failure = some description ∧
        message ≤ description) ∧
      (∀ a, result = .ok a → failure = r.failure) ∧
      w.Passes n (after (noteFailure span result) w) := by
  cases result with
  | ok a => exact ⟨r.failure, hr, nofun, fun _ _ => rfl, .of_eq rfl⟩
  | error message =>
    let logged := w.log .error "RethinkDB query failed" [("error", .text message)]
    have hlogged : logged.spans[n]? = some r := by rw [World.spans_log, hr]
    have hafter : after (noteFailure span (.error message : Except String α)) w =
        logged.fail span message := by
      simp [noteFailure, logged]
    refine ⟨(r.fail message).failure, ?_, ?_, nofun, ?_⟩
    · rw [hafter, World.fail, World.getElem?_spans_amend_open hspan hlogged hopen, r.fail_eq]
    · intro message' hmessage
      cases hmessage
      exact r.le_fail message
    · rw [hafter]
      exact (w.passes_log n ..).trans (.of_eq (World.journal_fail ..))

end Ending

/-! ## The whole call -/

/-- What is left behind the callee of a chain: the span is measured, takes the failure of the
result, and ends. -/
def Manager.closed (m : Manager) (span : SpanRef) (started : Nat) (result : Except String α)
    (w : World σ ν) : World σ ν :=
  (after (do
    m.noteDuration span started
    let _ ← noteFailure span result) w.detach).finish span

@[simp] theorem Source.mode_chain (calls : Chain) : (Source.chain calls).mode = .chain := rfl

namespace Manager

variable (m : Manager)

/-- The world in which a call in a span of its own starts. The span has been described and is
current. -/
def entered (source : Source) (w : World σ ν) : World σ ν :=
  let name := source.spanName m.config
  let logged := w.log .debug "starting span for query" [("span", .text name)]
  let started := (logged.startSpan .recording .tracing name w.current.span).2
  (started.annotate w.nextSpan (attrs m.config source)).attach
    { w.current with span := w.nextSpan, active := some source.mode }

section Entered

variable (source : Source) (w : World σ ν)

theorem program_entered : (m.entered source w).program = w.program := by
  simp [entered]

@[simp] theorem contexts_entered : (m.entered source w).contexts =
    { w.current with span := w.nextSpan, active := some source.mode } :: w.contexts := by
  simp [entered]

theorem getElem?_spans_entered : (m.entered source w).spans[w.spans.length]? =
    some { name := source.spanName m.config, scope := .tracing,
           attrs := attrs m.config source } := by
  let fresh : SpanRecord := { name := source.spanName m.config, scope := .tracing }
  refine World.getElem?_spans_amend_open rfl (r := fresh) ?_ rfl _
  simp [World.startSpan, fresh]

/-- A call in a span of its own, in three parts: the span is opened, the callee runs, and what is
left is done behind it. -/
theorem runInSpan_entered (hm : m.provider = .recording) (call : Action σ ν (Except String α)) :
    ∃ started, (result (m.runInSpan w.current source call) w).1 =
        result call (m.entered source w) ∧
      after (m.runInSpan w.current source call) w =
        m.closed w.nextSpan started (result call (m.entered source w))
          (after call (m.entered source w)) := by
  let name := source.spanName m.config
  let logged := w.log .debug "starting span for query" [("span", .text name)]
  let started := (logged.startSpan .recording .tracing name w.current.span).2
  have hnext : logged.nextSpan = w.nextSpan := (w.quiet_log ..).nextSpan
  refine ⟨(started.annotate w.nextSpan (attrs m.config source)).clock, ?_, ?_⟩
  · rw [entered, ← hnext]
    have hresult : result (m.runInSpan w.current source call) w =
        let opened := logged.startSpan m.provider .tracing name w.current.span
        let inner := { w.current with span := opened.1, active := some source.mode }
        result (m.inSpan inner source call) opened.2 := rfl
    rw [hresult, hm]
    exact result_noteFailure ..
  · rw [after_runInSpan, hm, entered, ← hnext]
    rfl

end Entered

variable (calls : Chain)

/-- The world in which the callee of a chain starts. The span of the chain has been described and is
current. -/
def opened (w : World σ ν) : World σ ν :=
  m.entered (.chain calls) w

section Opened

variable (w : World σ ν)

theorem program_opened : (m.opened calls w).program = w.program :=
  m.program_entered (.chain calls) w

theorem getElem?_spans_opened : (m.opened calls w).spans[w.spans.length]? =
    some { name := m.config.spanName calls.path, scope := .tracing,
           attrs := attrs m.config (.chain calls) } :=
  m.getElem?_spans_entered (.chain calls) w

/-- A call in the span of its chain. -/
theorem runInSpan_chain (hm : m.provider = .recording) (call : Action σ ν (Except String α)) :
    ∃ started, (result (m.runInSpan w.current (.chain calls) call) w).1 =
        result call (m.opened calls w) ∧
      after (m.runInSpan w.current (.chain calls) call) w =
        m.closed w.nextSpan started (result call (m.opened calls w))
          (after call (m.opened calls w)) :=
  m.runInSpan_entered (.chain calls) w hm call

omit m calls in
/-- To end a stale span is to end a span, and perhaps to report it. -/
theorem endStale_leaves (span : SpanRef) :
    (after (endStale span) w).contexts = w.contexts ∧
    (after (endStale span) w).program = w.program ∧
    (after (endStale span) w).spans.length = w.spans.length := by
  unfold endStale
  by_cases hrecording : w.isRecording span
  · simp [hrecording, World.length_spans_finish]
  · simp [hrecording]

/-- A new chain always gets a span of its own. All that may go before is the end of a span that is
current for a request. -/
theorem trace_chain (call : Action σ ν (Except String α)) :
    ∃ v : World σ ν, v.contexts = w.contexts ∧ v.program = w.program ∧
      v.spans.length = w.spans.length ∧
      result (m.trace (.chain calls) .newQuery call) w =
        result (m.runInSpan w.current (.chain calls) call) v ∧
      after (m.trace (.chain calls) .newQuery call) w =
        after (m.runInSpan w.current (.chain calls) call) v := by
  simp only [trace, result_bind, after_bind, result_current, after_current]
  cases w.current.active with
  | none => exact ⟨w, rfl, rfl, rfl, rfl, rfl⟩
  | some mode =>
    cases mode with
    | request =>
      obtain ⟨hcontexts, hprogram, hlength⟩ := endStale_leaves w w.current.span
      exact ⟨_, hcontexts, hprogram, hlength, rfl, rfl⟩
    | chain => exact ⟨w, rfl, rfl, rfl, rfl, rfl⟩
    | deferred => exact ⟨w, rfl, rfl, rfl, rfl, rfl⟩

end Opened

end Manager

/-- From one world to another a span was kept: it records, and nothing measured it or told of its
end. -/
structure SpanKept (n : Nat) (w v : World Handles Blame) (r : SpanRecord) : Prop where
  record : v.spans[n]? = some r
  recording : r.ended = false
  untimed : Untimed r.attrs
  entries : ∃ entries, v.journal = w.journal ++ entries ∧
    (∀ e ∈ entries, e.isEndOf n = false) ∧
    -- It failed only with an operation that was attributed to it.
    ((∀ blame, .noted blame ∈ entries → blame.span.record ≠ some n) → r.failure = none)

/-- From one world to another a span was closed, for a call with this result. -/
structure SpanClosed (n : Nat) (result : Except String α) (w v : World Handles Blame)
    (r s : SpanRecord) : Prop where
  record : v.spans[n]? = some s
  ended : s.ended = true
  /-- It was measured once, and only the mark of a slow query stands behind that. -/
  measured : ∃ ms slow, (slow = [] ∨ slow = [("db.x.slow_query", .flag true)]) ∧
    s.attrs = r.attrs ++ ("db.duration_ms", .duration ms) :: slow
  /-- Its end is the last thing that happened. -/
  entries : ∃ entries, v.journal = w.journal ++ entries ++ [.ended n s.name s.attrs s.failure] ∧
    ∀ e ∈ entries, e.isEndOf n = false
  failed : ∀ message, result = .error message →
    ∃ description, s.failure = some description ∧ message ≤ description
  succeeded : ∀ a, result = .ok a → s.failure = r.failure

theorem Manager.spanClosed_closed (m : Manager) {n : Nat} {span : SpanRef}
    {w : World Handles Blame} {r : SpanRecord} (hspan : span.record = some n)
    (hr : w.spans[n]? = some r) (hrecording : r.ended = false) (started : Nat)
    (result : Except String α) :
    ∃ s, SpanClosed n result w (m.closed span started result w) r s := by
  obtain ⟨ms, slow, hslow, hmeasured, hpasses⟩ :=
    m.noteDuration_open hspan (w := w.detach) hr hrecording started
  obtain ⟨failure, hfailed, hleast, hsame, hpasses'⟩ :=
    noteFailure_open hspan hmeasured hrecording result
  obtain ⟨hfinished, hjournal⟩ := World.finish_open hspan hfailed hrecording
  obtain ⟨entries, hentries, hends⟩ := hpasses.trans hpasses'
  refine ⟨_, ⟨hfinished, rfl, ⟨ms, slow, hslow, rfl⟩, ⟨entries, ?_, hends⟩, hleast, hsame⟩⟩
  rw [World.journal_detach] at hentries
  rw [← hentries]
  exact hjournal

/-- Whatever the callee is, it keeps the span that was opened for it. -/
theorem Manager.spanKept_opened (m : Manager) (calls : Chain) (callee : Client α)
    {w : World Handles Blame} (hw : w.program.Clear w.spans.length) :
    ∃ r, SpanKept w.spans.length (m.opened calls w) (after callee.run (m.opened calls w)) r := by
  have hopen : (watch w.spans.length).Open (m.opened calls w) :=
    ⟨⟨_, m.getElem?_spans_opened calls w, rfl⟩, m.program_opened calls w ▸ hw⟩
  have htame : (watch w.spans.length).Tame (m.opened calls w).current := fun _ => rfl
  obtain ⟨hspared, -⟩ := (callee.run_spares htame).spares _ rfl hopen
  obtain ⟨r, more, failure, entries, hr, hrecording, hv, hmore, hjournal, hends, hfailure⟩ :=
    hspared.grows
  obtain rfl := Option.some.inj ((m.getElem?_spans_opened calls w).symm.trans hr)
  have huntimed : Untimed (Manager.attrs m.config (.chain calls)) :=
    Manager.untimed_attrs m.config (.chain calls)
  refine ⟨_, hv, hrecording, Watch.untimed_append huntimed hmore, entries, hjournal, hends,
    fun hblameless => ?_⟩
  rcases hfailure with hsame | ⟨blame, hnoted, hblames⟩ | hblamable
  · exact hsame
  · exact absurd hblames (hblameless blame hnoted)
  · exact hblamable.elim

/-- The span of a chain belongs to its call. Wherever the call is made, and whatever its callee
does, the callee runs with the span open and current and keeps it, and the call gives the result of
the callee and closes the span after it. -/
theorem chain_span_belongs (m : Manager) (hm : m.provider = .recording) (calls : Chain)
    (callee : Client (Except String α)) (w : World Handles Blame)
    (hw : w.program.Clear w.spans.length) :
    let n := w.spans.length
    let act := m.trace (.chain calls) .newQuery callee.run
    ∃ v r s,
      v.contexts = { w.current with span := w.nextSpan, active := some .chain } :: w.contexts ∧
      v.program = w.program ∧
      v.spans[n]? = some { name := m.config.spanName calls.path, scope := .tracing,
                           attrs := Manager.attrs m.config (.chain calls) } ∧
      SpanKept n v (after callee.run v) r ∧
      (result act w).1 = result callee.run v ∧
      SpanClosed n (result callee.run v) (after callee.run v) (after act w) r s := by
  intro n act
  obtain ⟨w', hcontexts, hprogram, hlength, hresult, hafter⟩ :=
    m.trace_chain calls w callee.run
  have hcurrent : w.current = w'.current := by rw [World.current, World.current, hcontexts]
  have hnext : w.nextSpan = w'.nextSpan := by rw [World.nextSpan, World.nextSpan, hlength]
  have hw' : w'.program.Clear w'.spans.length := by rw [hprogram, hlength]; exact hw
  have hn : n = w'.spans.length := hlength.symm
  obtain ⟨started, hresult', hafter'⟩ := m.runInSpan_chain calls w' hm callee.run
  obtain ⟨r, hkept⟩ := m.spanKept_opened calls callee hw'
  have hspan : w'.nextSpan.record = some n := by rw [hn]; rfl
  obtain ⟨s, hclosed⟩ := m.spanClosed_closed hspan (hn ▸ hkept.record) hkept.recording started
    (result callee.run (m.opened calls w'))
  refine ⟨m.opened calls w', r, s, ?_, ?_, ?_, ?_, ?_, ?_⟩
  · rw [hcurrent, hnext, ← hcontexts]
    simp [Manager.opened]
  · rw [m.program_opened, hprogram]
  · rw [hn, m.getElem?_spans_opened]
  · rw [hn]
    exact hkept
  · rw [hresult, hcurrent, hresult']
  · rw [hafter, hcurrent, hafter']
    exact hclosed

/-- A chain is traced where the span of a request is stale. One of its requests fails, and the
callee makes up for that. -/
theorem chain_span_belongs_recovered :
    let m : Manager := ⟨.recording, .standard⟩
    let outer : SpanRef := ⟨some (.recorded 0), some 0⟩
    let w : World Handles Blame :=
      { spans := [{ name := "run_query", scope := .tracing }]
        contexts := [{ span := outer, active := some .request, inRequest := true }]
        program := [some (.span ⟨m, .active { span := outer } "/table"⟩), none] }
    let calls : Chain := .start "table" .none
    let fetch : Source := .request "[2]" { type := .advance, path := "r" }
    let callee : Client (Except String Nat) :=
      .trace m fetch .continuation (.done (.error "lost" : Except String Nat)) fun _ =>
        .giveUp 0 (.done (.ok 7))
    let act := m.trace (.chain calls) .newQuery callee.run
    w.program.Clear 1 ∧ ∃ v r s,
      v.contexts = { w.current with span := w.nextSpan, active := some .chain } :: w.contexts ∧
      v.program = w.program ∧
      v.spans[1]? = some { name := "/table", scope := .tracing,
                           attrs := Manager.attrs m.config (.chain calls) } ∧
      SpanKept 1 v (after callee.run v) r ∧
      (result act w).1 = result callee.run v ∧
      SpanClosed 1 (result callee.run v) (after callee.run v) (after act w) r s := by
  intro m outer w calls fetch callee act
  have hw : w.program.Clear 1 := by
    intro h hmem
    obtain rfl : h = .span ⟨m, .active { span := outer } "/table"⟩ := by simpa [w] using hmem
    intro context name hactive
    cases hactive
    decide
  exact ⟨hw, chain_span_belongs m rfl calls callee w hw⟩

end QueryTrace
