import QueryTrace.Proofs.Rows.Episodes

/-!
# What a layer does in a call

A fetch opens the span if that was not done before, hands the call on, and settles: the iteration
goes on, or it ends and the span with it. A close only settles, and so does giving the stream up.
Each of them keeps to the rules and leaves the layer where the calls say (`use_advances`).
-/

namespace QueryTrace

variable {σ ν κ : Type}

/-! ## The layer's own work -/

namespace RowsLayer

variable {layer : RowsLayer} {c : Context} {name : String}

/-- A layer whose iteration is over passes fetches through. -/
theorem next_of_finished (h : layer.finished = true)
    (fetch : Action σ ν (Except String (Option Value) × κ)) :
    layer.next fetch = do return (← fetch, layer) := by
  rw [next, if_pos h]

theorem close_of_finished (h : layer.finished = true)
    (inner : Action σ ν (Except String Unit × κ)) :
    layer.close inner = do return (← inner, layer) := by
  rw [close, if_pos h]

theorem finish_of_finished (h : layer.finished = true) :
    (layer.finish : Action σ ν RowsLayer) = pure layer := by
  rw [finish, if_pos h]

section Finish

variable (w : World σ ν)

theorem finish_of_idle (h : layer.finished = false) (hstate : layer.span.state = .idle) :
    result layer.finish w = { layer with finished := true } ∧ after layer.finish w = w := by
  simp [finish, h, Deferred.noteRows, Deferred.stop, hstate]

theorem quiet_noteRows (d : Deferred) (rows : UInt64) : w.Quiet (after (d.noteRows rows) w) := by
  unfold Deferred.noteRows
  split
  · split
    · exact w.quiet_annotate _ _
    · exact .refl w
  · exact .refl w

theorem quiet_noteError (d : Deferred) (message : String) :
    w.Quiet (after (d.noteError message) w) := by
  unfold Deferred.noteError
  split
  · exact (w.quiet_log ..).trans (World.quiet_fail ..)
  · exact .refl w

theorem stop_of_active {d : Deferred} (hstate : d.state = .active c name) (calls : Chain) :
    result (d.stop calls) w = ({ d with state := .closed }, calls.reset) ∧
      w.Closes (after (d.stop calls) w) c.span := by
  refine ⟨by simp [Deferred.stop, hstate], ?_⟩
  have hcalm := (w.quiet_log .debug "ending deferred span" [("span", .text name)]).trans
    (World.quiet_annotate _ c.span (Manager.attrs d.manager.config (.chain calls)))
  simpa [Deferred.stop, hstate] using World.Closes.of_calm hcalm.calm (World.closes_finish _ c.span)

/-- The end of an iteration closes the span of the layer. -/
theorem finish_of_active (h : layer.finished = false) (hstate : layer.span.state = .active c name) :
    result layer.finish w = { layer with
      span := { layer.span with state := .closed }, calls := layer.calls.reset, finished := true } ∧
    w.Closes (after layer.finish w) c.span := by
  let noted := after (layer.span.noteRows layer.rows) w
  obtain ⟨hstop, hcloses⟩ := stop_of_active noted hstate layer.calls
  refine ⟨?_, ?_⟩
  · simp only [finish, h, Bool.false_eq_true, if_false, result_bind, result_pure]
    rw [hstop]
  · have hcalm := (quiet_noteRows w layer.span layer.rows).calm
    simpa [finish, h] using World.Closes.of_calm hcalm hcloses

end Finish

/-! ## After the inner call -/

/-- The iteration goes on or ends: where the layer and the world stand after an inner call. -/
inductive Settles (layer : RowsLayer) (span : SpanRef) (call : StreamCall) (back : World σ ν) :
    RowsLayer → World σ ν → Prop
  | goesOn {answered : World σ ν} : call = .row → back.Calm answered →
    Settles layer span call back { layer with rows := layer.rows + 1 } answered
  | ends {answered : World σ ν} : call.isEnd = true → back.Closes answered span →
    Settles layer span call back { layer with
      span := { layer.span with state := .closed }, calls := layer.calls.reset,
      finished := true } answered

theorem Settles.of_calm {span : SpanRef} {call : StreamCall} {back v answered : World σ ν}
    {layer' : RowsLayer} (hcalm : back.Calm v) (h : Settles layer span call v layer' answered) :
    Settles layer span call back layer' answered := by
  cases h with
  | goesOn hrow hgoes => exact .goesOn hrow (hcalm.trans hgoes)
  | ends hend hcloses => exact .ends hend (hcloses.of_calm hcalm)

/-- What a layer does with the row that a fetch gave. -/
def settleRow (layer : RowsLayer) : Except String (Option Value) → Action σ ν RowsLayer
  | .ok (some _) => return { layer with rows := layer.rows + 1 }
  | .ok none => do
    log .debug "cursor exhausted" [("rows", .int layer.rows.toNat)]
    layer.finish
  | .error message => do
    layer.span.noteError message
    layer.finish

/-- What a layer does when the stream has been closed. -/
def settleClose (layer : RowsLayer) : Except String Unit → Action σ ν RowsLayer
  | .ok _ => layer.finish
  | .error message => do
    layer.span.noteError message
    layer.finish

section Active

variable (h : layer.finished = false) (hstate : layer.span.state = .active c name)
include h hstate

theorem finish_settles {call : StreamCall} (hcall : call.isEnd = true) (w : World σ ν) :
    Settles layer c.span call w (result layer.finish w) (after layer.finish w) := by
  obtain ⟨hresult, hcloses⟩ := finish_of_active w h hstate
  rw [hresult]
  exact .ends hcall hcloses

theorem settleRow_settles (row : Except String (Option Value)) (w : World σ ν) :
    Settles layer c.span (.ofRow row) w (result (layer.settleRow row) w)
      (after (layer.settleRow row) w) := by
  match row with
  | .ok (some _) => exact .goesOn rfl (.refl w)
  | .ok none => exact .of_calm (w.quiet_log ..).calm (finish_settles h hstate rfl _)
  | .error message =>
    exact .of_calm (quiet_noteError w layer.span message).calm (finish_settles h hstate rfl _)

theorem settleClose_settles (closed : Except String Unit) (w : World σ ν) :
    Settles layer c.span .closed w (result (layer.settleClose closed) w)
      (after (layer.settleClose closed) w) := by
  match closed with
  | .ok _ => exact finish_settles h hstate rfl w
  | .error message =>
    exact .of_calm (quiet_noteError w layer.span message).calm (finish_settles h hstate rfl _)

end Active

/-! ## Calls -/

theorem next_of_unfinished (h : layer.finished = false)
    (fetch : Action σ ν (Except String (Option Value) × κ)) :
    layer.next fetch = (do
      let layer ← layer.ensureStarted
      let out ← layer.span.inScope fetch
      return (out, ← layer.settleRow out.1)) := by
  simp only [next, h, Bool.false_eq_true, if_false]
  refine bind_congr fun layer => bind_congr fun out => ?_
  match out with
  | (.ok (some _), _) => rfl
  | (.ok none, _) => rfl
  | (.error _, _) => rfl

theorem close_of_unfinished (h : layer.finished = false)
    (inner : Action σ ν (Except String Unit × κ)) :
    layer.close inner = (do
      let out ← layer.span.inScope inner
      return (out, ← layer.settleClose out.1)) := by
  simp only [close, h, Bool.false_eq_true, if_false]
  refine bind_congr fun out => ?_
  match out with
  | (.ok _, _) => rfl
  | (.error _, _) => rfl

/-- A close before the first fetch. -/
theorem close_of_idle (h : layer.finished = false) (hstate : layer.span.state = .idle)
    (inner : Action σ ν (Except String Unit × κ)) (w : World σ ν) :
    result (layer.close inner) w = (result inner w, { layer with finished := true }) ∧
      after (layer.close inner) w = after inner w := by
  have hsettle (closed : Except String Unit) (v : World σ ν) :
      result (layer.settleClose closed) v = { layer with finished := true } ∧
        after (layer.settleClose closed) v = v := by
    cases closed with
    | ok _ => exact finish_of_idle v h hstate
    | error message =>
      simpa [settleClose, Deferred.noteError, hstate] using finish_of_idle v h hstate
  simp [close_of_unfinished h, Deferred.inScope, hstate, hsettle]

/-- The layer once its span is open. -/
def started (layer : RowsLayer) (w : World σ ν) : RowsLayer :=
  let m := layer.span.manager
  { layer with
    span := { layer.span with state := .active (m.iteration w) m.iterationName }
    calls := layer.calls.record "iter" .none }

theorem ensureStarted_of_active (hstate : layer.span.state = .active c name) :
    (layer.ensureStarted : Action σ ν RowsLayer) = pure layer := by
  rw [ensureStarted, hstate]

/-- The first fetch opens the span; it is never refused. -/
theorem ensureStarted_of_idle (hstate : layer.span.state = .idle)
    (hcalls : layer.calls.path = "/cursor") (w : World σ ν) :
    result layer.ensureStarted w = layer.started w ∧
      (after layer.ensureStarted w).contexts = w.contexts ∧
      (layer.span.manager.provider = .recording →
        w.Starts (after layer.ensureStarted w) layer.span.manager.iterationName) ∧
      (layer.span.manager.provider ≠ .recording → w.Calm (after layer.ensureStarted w)) := by
  have hname : (layer.calls.record "iter" .none).path = "/cursor/iter" := by
    simp [Chain.record, Chain.push, hcalls]
  let m := layer.span.manager
  let logged := w.log .debug "starting deferred span" [("span", .text m.iterationName)]
  have hquiet : w.Quiet logged := w.quiet_log ..
  have hafter : after layer.ensureStarted w =
      (logged.startSpan m.provider .tracing m.iterationName w.current.span).2 := by
    rw [← hquiet.current]
    simp [ensureStarted, hstate, Deferred.start, hname, logged, m, Manager.iterationName]
  have hresult : result layer.ensureStarted w = { layer with
      span := { layer.span with state := .active { logged.current with
        span := (logged.startSpan m.provider .tracing m.iterationName logged.current.span).1
        active := some .deferred } m.iterationName }
      calls := layer.calls.record "iter" .none } := by
    simp [ensureStarted, hstate, Deferred.start, hname, logged, m, Manager.iterationName]
  refine ⟨?_, ?_, fun hrecording => ?_, fun hother => ?_⟩
  · rw [hresult, hquiet.current, hquiet.startSpan]
    rfl
  · rw [hafter, World.contexts_startSpan, hquiet.contexts]
  · rw [hafter, show m.provider = .recording from hrecording]
    exact World.starts_startSpan hquiet m.iterationName
  · rw [hafter]
    exact hquiet.calm.trans (World.calm_startSpan hother ..)

/-! ## One call -/

/-- A call keeps to the rules, and the layer stands where it should. -/
structure Advances (m : Manager) (earlier : List (Episode σ ν)) (e : Episode σ ν)
    (layer : RowsLayer) : Prop where
  follows : e.Follows m earlier
  stands : Stands m (earlier ++ [e]) layer

section Advances

variable {m : Manager} {earlier : List (Episode σ ν)} {e : Episode σ ν} {layer' : RowsLayer}

/-- A call in which the layer does nothing: it opens no span, and no span is open. -/
theorem follows_of_passed (hinward : e.inward = e.asked) (hanswered : e.answered = e.back)
    (hfirst : firstCall earlier = none → e.call.isFetch = false)
    (hopen : opened? m (earlier ++ [e]) ≠ none → isOver earlier = false → e.call = .elsewhere) :
    e.Follows m earlier where
  starts _ hnone hfetch := by simp [hfirst hnone] at hfetch
  startsNot _ := by
    rw [hinward]
    exact .refl _
  ends c hc hover hend := by
    have hcall : e.call = .elsewhere := hopen (by simp [hc]) hover
    simp [hcall, StreamCall.isEnd] at hend
  endsNot _ := by
    rw [hanswered]
    exact .refl _
  inside c hc hover hinner := by
    have hcall : e.call = .elsewhere := hopen (by simp [hc]) hover
    simp [hcall, StreamCall.isFetch] at hinner
  outside _ := ⟨hinward, hanswered⟩

/-- A call after the end, or none at all, leaves the layer where it stands. -/
theorem stands_of_passed (h : Stands m earlier layer)
    (hpassed : isOver earlier = true ∨ e.call = .elsewhere) :
    Stands m (earlier ++ [e]) layer := by
  have hfirst : firstCall (earlier ++ [e]) = firstCall earlier := by
    rw [firstCall_append]
    rcases hpassed with hover | hcall
    · cases hfirst : firstCall earlier with
      | none => simp [isOver_of_firstCall hfirst] at hover
      | some first => rfl
    · simp [firstCall, hcall]
  have hover : isOver (earlier ++ [e]) = isOver earlier := by
    rw [isOver_concat]
    rcases hpassed with hover | hcall
    · simp [hover]
    · simp [hcall, StreamCall.isEnd]
  have hrows : rowsGiven (earlier ++ [e]) = rowsGiven earlier := by
    by_cases hended : isOver earlier = true
    · exact rowsGiven_append_of_over hended [e]
    · have hcall : e.call = .elsewhere := hpassed.resolve_left hended
      rw [rowsGiven_append (Bool.eq_false_iff.mpr hended), if_neg (by simp [hcall]), Nat.add_zero]
  obtain ⟨hmanager, hstate, hfinished, hgiven, hfresh⟩ := h
  refine ⟨hmanager, ?_, ?_, ?_, ?_⟩
  · rw [hstate, stateAfter, stateAfter, opened?, opened?, hfirst, hover]
  · rw [hfinished, hover]
  · rw [hgiven, hrows]
  · rwa [hfirst]

/-- A call that passes through, after the end or elsewhere. -/
theorem advances_of_passed (h : Stands m earlier layer)
    (hpassed : isOver earlier = true ∨ e.call = .elsewhere)
    (hinward : e.inward = e.asked) (hanswered : e.answered = e.back) :
    Advances m earlier e layer := by
  refine ⟨follows_of_passed hinward hanswered (fun hnone => ?_) fun _ hopen => ?_,
    stands_of_passed h hpassed⟩
  · have hcall : e.call = .elsewhere :=
      hpassed.resolve_left (by simp [isOver_of_firstCall hnone])
    simp [hcall, StreamCall.isFetch]
  · exact hpassed.resolve_left (by simp [hopen])

/-- A first call that is no fetch, and ends the iteration before it began. -/
theorem advances_of_unopened (h : Stands m earlier layer) (hfirst : firstCall earlier = none)
    (hfetch : e.call.isFetch = false) (hend : e.call.isEnd = true)
    (hinward : e.inward = e.asked) (hanswered : e.answered = e.back) :
    Advances m earlier e { layer with finished := true } := by
  have hcall : e.call ≠ .elsewhere := by
    intro hcall
    simp [hcall, StreamCall.isEnd] at hend
  have hfirst' : firstCall (earlier ++ [e]) = some e := by
    rw [firstCall_append, hfirst]
    simp [firstCall, hcall]
  have hopened : opened? m (earlier ++ [e]) = none := by
    rw [opened?, hfirst']
    simp [hfetch]
  have hnone := opened?_of_firstCall (m := m) hfirst
  refine ⟨follows_of_passed hinward hanswered (fun _ => hfetch) (absurd hopened), ?_⟩
  obtain ⟨hmanager, hstate, hfinished, hgiven, hfresh⟩ := h
  refine ⟨hmanager, ?_, ?_, ?_, ?_⟩
  · simpa [stateAfter, hopened, hnone] using hstate
  · simp [isOver_concat, hend]
  · have hrow : e.call ≠ .row := by
      intro hrow
      simp [hrow, StreamCall.isEnd] at hend
    simpa [rowsGiven_append (isOver_of_firstCall hfirst), hrow] using hgiven
  · intro hnone
    simp [hfirst'] at hnone

section Settled

variable {c : Context} {layer₀ : RowsLayer} (hopened : opened? m (earlier ++ [e]) = some c)
  (hover : isOver earlier = false)
  (hsettles : Settles layer₀ c.span e.call e.back layer' e.answered)
include hopened hover hsettles

/-- After a call with an open span, the layer stands where the call says. -/
theorem stands_of_settles (hmanager : layer₀.span.manager = m)
    (hstate : layer₀.span.state = .active c m.iterationName) (hfinished : layer₀.finished = false)
    (hrows : layer₀.rows = .ofNat (rowsGiven earlier)) : Stands m (earlier ++ [e]) layer' := by
  have hcalls : firstCall (earlier ++ [e]) = none → layer'.calls.path = "/cursor" := by
    intro hnone
    simp [opened?, hnone] at hopened
  have hgiven := rowsGiven_append hover e
  cases hsettles with
  | goesOn hrow =>
    have hend : isOver (earlier ++ [e]) = false := by
      simp [isOver_concat, hover, hrow, StreamCall.isEnd]
    refine ⟨hmanager, ?_, ?_, ?_, hcalls⟩
    · simpa [stateAfter, hopened, hend] using hstate
    · simpa [hend] using hfinished
    · simp [hgiven, hrow, hrows]
  | ends hcall =>
    have hend : isOver (earlier ++ [e]) = true := by simp [isOver_concat, hcall]
    have hrow : e.call ≠ .row := by
      intro hrow
      simp [hrow, StreamCall.isEnd] at hcall
    refine ⟨hmanager, ?_, ?_, ?_, hcalls⟩
    · simp [stateAfter, hopened, hend]
    · simp [hend]
    · simp [hgiven, hrow, hrows]

/-- A call with an open span ends the span if it ends the iteration. -/
theorem follows_of_settles
    (hstarts : m.provider = .recording → firstCall earlier = none → e.call.isFetch = true →
      e.asked.Starts e.inward m.iterationName)
    (hcalm : m.provider ≠ .recording ∨ firstCall earlier ≠ none ∨ e.call.isFetch = false →
      e.asked.Calm e.inward)
    (hinward : e.call.isFetch = true ∨ e.call = .closed →
      e.inward.contexts = c :: e.asked.contexts) : e.Follows m earlier := by
  refine ⟨hstarts, hcalm, ?_, ?_, ?_, ?_⟩
  · intro c' hc' _ hend
    obtain rfl : c = c' := by simpa [hopened] using hc'
    cases hsettles with
    | goesOn hrow => simp [hrow, StreamCall.isEnd] at hend
    | ends _ hcloses => exact hcloses
  · intro hend
    cases hsettles with
    | goesOn _ hgoes => exact hgoes
    | ends hcall => simp [hcall] at hend
  · intro c' hc' _ hinner
    obtain rfl : c = c' := by simpa [hopened] using hc'
    exact hinward hinner
  · rintro (hnone | hended)
    · simp [hopened] at hnone
    · simp [hover] at hended

end Settled

/-- A fetch that is the first call. -/
theorem advances_of_first (h : Stands m earlier layer) (hfirst : firstCall earlier = none)
    (hfetch : e.call.isFetch = true)
    (hstarts : m.provider = .recording → e.asked.Starts e.inward m.iterationName)
    (hcalm : m.provider ≠ .recording → e.asked.Calm e.inward)
    (hinward : e.inward.contexts = m.iteration e.asked :: e.asked.contexts)
    (hsettles : Settles (layer.started e.asked) (m.iteration e.asked).span e.call e.back layer'
      e.answered) : Advances m earlier e layer' := by
  have hcall : e.call ≠ .elsewhere := by
    intro hcall
    simp [hcall, StreamCall.isFetch] at hfetch
  have hopened : opened? m (earlier ++ [e]) = some (m.iteration e.asked) := by
    rw [opened?, firstCall_append, hfirst]
    simp [firstCall, hcall, hfetch]
  have hover := isOver_of_firstCall hfirst
  refine ⟨follows_of_settles hopened hover hsettles (fun hrec _ _ => hstarts hrec) ?_
    (fun _ => hinward), stands_of_settles hopened hover hsettles h.manager ?_ ?_ h.rows⟩
  · rintro (hother | hcalled | hno)
    · exact hcalm hother
    · exact absurd hfirst hcalled
    · simp [hfetch] at hno
  · rw [← h.manager]
    rfl
  · rw [← hover, ← h.finished]
    rfl

/-- A call while the span is open. -/
theorem advances_of_open (h : Stands m earlier layer) {c : Context}
    (hopened : opened? m earlier = some c) (hover : isOver earlier = false)
    (hcalm : e.asked.Calm e.inward)
    (hinward : e.call.isFetch = true ∨ e.call = .closed → e.inward.contexts = c :: e.asked.contexts)
    (hsettles : Settles layer c.span e.call e.back layer' e.answered) :
    Advances m earlier e layer' := by
  obtain ⟨first, hfirst⟩ := exists_firstCall_of_opened? hopened
  have hopened' : opened? m (earlier ++ [e]) = some c := by
    rw [opened?_append hfirst, hopened]
  refine ⟨follows_of_settles hopened' hover hsettles ?_ (fun _ => hcalm) hinward,
    stands_of_settles hopened' hover hsettles h.manager (h.active hopened hover)
      (h.unfinished hover) h.rows⟩
  intro _ hnone
  simp [hfirst] at hnone

end Advances

section Use

variable {m : Manager} {earlier : List (Episode σ ν)} (w : World σ ν)

theorem use_next_of_unfinished (h : layer.finished = false) {layer₁ : RowsLayer}
    (hstarted : result layer.ensureStarted w = layer₁) (hstate : layer₁.span.state = .active c name)
    (fetch : Action σ ν (Except String (Option Value) × κ)) :
    let inward := (after layer.ensureStarted w).attach c
    let back := after fetch inward
    let settled := layer₁.settleRow (result fetch inward).1
    result (layer.use (.next fetch)) w =
      (⟨.ofRow (result fetch inward).1, w, inward, back, after settled back.detach⟩,
        result settled back.detach) ∧
    after (layer.use (.next fetch)) w = after settled back.detach := by
  simp [use, next_of_unfinished h, hstarted, Deferred.inScope, hstate, probed]

theorem use_next_of_finished (h : layer.finished = true)
    (fetch : Action σ ν (Except String (Option Value) × κ)) :
    result (layer.use (.next fetch)) w =
      (⟨.ofRow (result fetch w).1, w, w, after fetch w, after fetch w⟩, layer) ∧
    after (layer.use (.next fetch)) w = after fetch w := by
  simp [use, next_of_finished h, probed]

theorem use_close_of_active (h : layer.finished = false)
    (hstate : layer.span.state = .active c name) (inner : Action σ ν (Except String Unit × κ)) :
    let inward := w.attach c
    let back := after inner inward
    let settled := layer.settleClose (result inner inward).1
    result (layer.use (.close inner)) w =
      (⟨.closed, w, inward, back, after settled back.detach⟩, result settled back.detach) ∧
    after (layer.use (.close inner)) w = after settled back.detach := by
  simp [use, close_of_unfinished h, Deferred.inScope, hstate, probed]

theorem use_close_of_idle (h : layer.finished = false) (hstate : layer.span.state = .idle)
    (inner : Action σ ν (Except String Unit × κ)) :
    result (layer.use (.close inner)) w =
      (⟨.closed, w, w, after inner w, after inner w⟩, { layer with finished := true }) ∧
    after (layer.use (.close inner)) w = after inner w := by
  simp [use, close_of_idle h hstate, probed]

theorem use_close_of_finished (h : layer.finished = true)
    (inner : Action σ ν (Except String Unit × κ)) :
    result (layer.use (.close inner)) w =
      (⟨.closed, w, w, after inner w, after inner w⟩, layer) ∧
    after (layer.use (.close inner)) w = after inner w := by
  simp [use, close_of_finished h, probed]

/-- A fetch keeps to the rules. -/
theorem next_advances (h : Stands m earlier layer)
    (fetch : Action σ ν (Except String (Option Value) × κ)) :
    let out := result (layer.use (.next fetch)) w
    Advances m earlier out.1 out.2 ∧ out.1.asked = w ∧
      out.1.answered = after (layer.use (.next fetch)) w := by
  rcases calls_cases m earlier with hfirst | ⟨c, hopened, hover⟩ | hover
  · have hidle := h.idle hfirst
    have hfinished := h.unfinished (isOver_of_firstCall hfirst)
    have hopen : (layer.started w).finished = false := hfinished
    have hactive : (layer.started w).span.state = .active (m.iteration w) m.iterationName := by
      rw [← h.manager]
      rfl
    obtain ⟨hstarted, hcontexts, hstarts, hcalm⟩ := ensureStarted_of_idle hidle (h.fresh hfirst) w
    obtain ⟨hresult, hafter⟩ := use_next_of_unfinished w hfinished hstarted hactive fetch
    rw [h.manager] at hstarts hcalm
    rw [hresult, hafter]
    refine ⟨advances_of_first h hfirst (StreamCall.isFetch_ofRow _)
      (fun hrec => ?_) (fun hother => ?_) ?_ ?_, rfl, rfl⟩
    · exact ⟨(hstarts hrec).events, (hstarts hrec).stages⟩
    · exact (hcalm hother).trans (World.calm_attach _ _)
    · simp [hcontexts]
    · exact .of_calm (World.calm_detach _) (settleRow_settles hopen hactive _ _)
  · have hactive := h.active hopened hover
    have hfinished := h.unfinished hover
    have hstarted : (layer.ensureStarted : Action σ ν RowsLayer) = pure layer :=
      ensureStarted_of_active hactive
    obtain ⟨hresult, hafter⟩ := use_next_of_unfinished w hfinished (by rw [hstarted]; rfl) hactive
      fetch
    rw [hstarted] at hresult hafter
    rw [hresult, hafter]
    exact ⟨advances_of_open h hopened hover (World.calm_attach w c) (fun _ => rfl)
      (.of_calm (World.calm_detach _) (settleRow_settles hfinished hactive _ _)), rfl, rfl⟩
  · obtain ⟨hresult, hafter⟩ := use_next_of_finished w (h.finished.trans hover) fetch
    rw [hresult, hafter]
    exact ⟨advances_of_passed h (.inl hover) rfl rfl, rfl, rfl⟩

/-- A close keeps to the rules. -/
theorem close_advances (h : Stands m earlier layer)
    (inner : Action σ ν (Except String Unit × κ)) :
    let out := result (layer.use (.close inner)) w
    Advances m earlier out.1 out.2 ∧ out.1.asked = w ∧
      out.1.answered = after (layer.use (.close inner)) w := by
  rcases calls_cases m earlier with hfirst | ⟨c, hopened, hover⟩ | hover
  · obtain ⟨hresult, hafter⟩ := use_close_of_idle w (h.unfinished (isOver_of_firstCall hfirst))
      (h.idle hfirst) inner
    rw [hresult, hafter]
    exact ⟨advances_of_unopened h hfirst rfl rfl rfl rfl, rfl, rfl⟩
  · have hactive := h.active hopened hover
    have hfinished := h.unfinished hover
    obtain ⟨hresult, hafter⟩ := use_close_of_active w hfinished hactive inner
    rw [hresult, hafter]
    exact ⟨advances_of_open h hopened hover (World.calm_attach w c) (fun _ => rfl)
      (.of_calm (World.calm_detach _) (settleClose_settles hfinished hactive _ _)), rfl, rfl⟩
  · obtain ⟨hresult, hafter⟩ := use_close_of_finished w (h.finished.trans hover) inner
    rw [hresult, hafter]
    exact ⟨advances_of_passed h (.inl hover) rfl rfl, rfl, rfl⟩

/-- Whatever a program does with a stream, the layer keeps to the rules. -/
theorem use_advances (h : Stands m earlier layer) (u : StreamUse σ ν κ) :
    let out := result (layer.use u) w
    Advances m earlier out.1 out.2 ∧ out.1.asked = w ∧ out.1.answered = after (layer.use u) w := by
  cases u with
  | next fetch => exact next_advances w h fetch
  | close inner => exact close_advances w h inner
  | elsewhere act => exact ⟨advances_of_passed h (.inr rfl) rfl rfl, rfl, rfl⟩

/-- The stream is given up. -/
theorem giveUp_follows (h : Stands m earlier layer) :
    (result layer.giveUp w).Follows m earlier := by
  have hresult : result layer.giveUp w = ⟨.dropped, w, w, w, after layer.drop w⟩ := rfl
  rw [hresult]
  rcases calls_cases m earlier with hfirst | ⟨c, hopened, hover⟩ | hover
  · have hidle := h.idle hfirst
    have hfinished := h.unfinished (isOver_of_firstCall hfirst)
    have hafter : after layer.drop w = w := by
      simp [drop, hidle, DeferredState.isActive, finish_of_idle w hfinished hidle]
    exact (advances_of_unopened h hfirst rfl rfl rfl hafter).follows
  · have hactive := h.active hopened hover
    have hfinished := h.unfinished hover
    let logged := w.log .debug "cursor dropped before exhaustion" [("rows", .int layer.rows.toNat)]
    have hafter : after layer.drop w = after layer.finish logged := by
      simp [drop, hactive, hfinished, DeferredState.isActive, logged]
    have hsettles : Settles layer c.span .dropped logged _ _ :=
      finish_settles hfinished hactive rfl logged
    rw [hafter]
    exact (advances_of_open h hopened hover (.refl w) (by simp [StreamCall.isFetch])
      (.of_calm (w.quiet_log ..).calm hsettles)).follows
  · have hfinished := h.finished.trans hover
    have hafter : after layer.drop w = w := by
      simp [drop, hfinished, finish_of_finished]
    exact (advances_of_passed h (.inl hover) rfl hafter).follows

end Use

end RowsLayer

end QueryTrace
