import QueryTrace.Proofs.Rows.Calls

/-!
# One span for an iteration

Over a whole run on a traced stream, the calls keep to the rules one after the other, so the layer
starts one span and ends it once, or has no span at all (`one_span_per_iteration`).
-/

namespace QueryTrace

variable {σ ν κ : Type}

/-! ## What a layer tells of its span -/

/-- The starts and ends of spans on the way from one world to a later one. -/
def World.since (w v : World σ ν) : List (Entry ν) :=
  v.spanEvents.drop w.spanEvents.length

/-- The starts and ends of spans that are the layer's own work. -/
def told (episodes : List (Episode σ ν)) : List (Entry ν) :=
  episodes.flatMap fun e => e.asked.since e.inward ++ e.back.since e.answered

/-- Nobody but the layer ends the span: where the layer is not at work, a span that is open stays
open. -/
def Spared (span : SpanRef) (episodes : List (Episode σ ν)) : Prop :=
  ∀ e ∈ episodes, e.inward.isRecording span = true → e.back.isRecording span = true

/-- All that is told is the start of the span of a context and its end. The end is missing only
where somebody else has ended the span before. -/
def ToldWhole (m : Manager) (c : Context) (episodes : List (Episode σ ν)) : Prop :=
  ∃ n parent, c.span.record = some n ∧
    ((∃ name attrs failure, told episodes =
        [.started n m.iterationName parent .tracing, .ended n name attrs failure]) ∨
      (told episodes = [.started n m.iterationName parent .tracing] ∧ ¬ Spared c.span episodes))

/-- What a layer has told so far of the span of its iteration. -/
structure Tells (m : Manager) (episodes : List (Episode σ ν)) (w : World σ ν) : Prop where
  /-- Nothing, as long as no span was opened. -/
  unopened : opened? m episodes = none → told episodes = []
  /-- Its start, as long as it is open. -/
  opened : ∀ c, opened? m episodes = some c → isOver episodes = false →
    ∃ n parent, c.span.record = some n ∧
      told episodes = [.started n m.iterationName parent .tracing] ∧
      (Spared c.span episodes → w.isRecording c.span = true)
  /-- Its start and its end, once the iteration is over. -/
  closed : ∀ c, opened? m episodes = some c → isOver episodes = true → ToldWhole m c episodes

namespace RowsLayer

/-! ## Whole runs -/

/-- A new layer. -/
theorem stands_ofOrigin (m : Manager) (origin : String) :
    Stands m ([] : List (Episode σ ν)) (.ofOrigin m origin) :=
  ⟨rfl, rfl, rfl, rfl, fun _ => rfl⟩

/-- What a run keeps: the layer stands where the calls say, every call keeps to the rules, and each
world is the one that the last call left. -/
theorem play_advances {m : Manager} (uses : List (StreamUse σ ν κ)) {layer : RowsLayer}
    {earlier : List (Episode σ ν)} (h : Stands m earlier layer) (w : World σ ν) :
    let out := result (layer.play uses) w
    Stands m (earlier ++ out.1) out.2 ∧
      ∀ before e later, out.1 = before ++ e :: later → e.Follows m (earlier ++ before) := by
  induction uses generalizing layer earlier w with
  | nil => exact ⟨by simpa [play] using h, fun before e later hsplit => by simp [play] at hsplit⟩
  | cons u uses ih =>
    obtain ⟨⟨hfollows, hstands⟩, -, -⟩ := use_advances w h u
    obtain ⟨hend, hrest⟩ := ih hstands (after (layer.use u) w)
    refine ⟨by simpa [play] using hend, fun before e later hsplit => ?_⟩
    cases before with
    | nil =>
      obtain ⟨rfl, -⟩ : (result (layer.use u) w).1 = e ∧ _ := by simpa [play] using hsplit
      simpa using hfollows
    | cons e₀ before =>
      obtain ⟨rfl, hlater⟩ : (result (layer.use u) w).1 = e₀ ∧ _ := by simpa [play] using hsplit
      simpa using hrest before e later hlater

end RowsLayer

/-! ## One start and one end -/

section Told

variable {m : Manager} {earlier : List (Episode σ ν)} {e : Episode σ ν}

theorem since_of_eq {w v : World σ ν} {events : List (Entry ν)}
    (h : v.spanEvents = w.spanEvents ++ events) : w.since v = events := by
  rw [World.since, h, List.drop_left]

theorem World.Calm.since {w v : World σ ν} (h : w.Calm v) : w.since v = [] :=
  since_of_eq (by rw [h.events, List.append_nil])

theorem told_concat (earlier : List (Episode σ ν)) (e : Episode σ ν) :
    told (earlier ++ [e]) =
      told earlier ++ (e.asked.since e.inward ++ e.back.since e.answered) := by
  simp [told]

/-- The layer has no work of its own in a call that passes through. -/
theorem told_of_passed (hinward : e.inward = e.asked) (hanswered : e.answered = e.back) :
    told (earlier ++ [e]) = told earlier := by
  have hbefore : e.asked.Calm e.inward := by rw [hinward]; exact .refl _
  have hbehind : e.back.Calm e.answered := by rw [hanswered]; exact .refl _
  rw [told_concat, hbefore.since, hbehind.since, List.append_nil, List.append_nil]

/-- A call with an open span tells nothing but the end of the span, and that if it ends the
iteration. -/
theorem tells_of_open (he : e.Follows m earlier) {c : Context}
    (hopened : opened? m (earlier ++ [e]) = some c) (hover : isOver earlier = false)
    (hback : ∃ n parent, c.span.record = some n ∧
      told earlier ++ e.asked.since e.inward = [.started n m.iterationName parent .tracing] ∧
      (Spared c.span (earlier ++ [e]) → e.back.isRecording c.span = true)) :
    Tells m (earlier ++ [e]) e.answered := by
  have hover' : isOver (earlier ++ [e]) = e.call.isEnd := by
    rw [isOver_concat, hover, Bool.false_or]
  obtain ⟨n, parent, hn, htold, hrecording⟩ := hback
  have hafter : told (earlier ++ [e]) =
      .started n m.iterationName parent .tracing :: e.back.since e.answered := by
    rw [told_concat, ← List.append_assoc, htold]
    rfl
  refine ⟨fun hnone => ?_, fun c' hc' hend => ?_, fun c' hc' hend => ?_⟩
  · rw [hopened] at hnone
    cases hnone
  all_goals
    obtain rfl : c = c' := by rw [hopened] at hc'; exact Option.some.inj hc'
    rw [hover'] at hend
  · have hcalm := he.endsNot hend
    refine ⟨n, parent, hn, by rw [hafter, hcalm.since], fun hspared => ?_⟩
    rw [hcalm.isRecording, hrecording hspared]
  · have hcloses := he.ends c hopened hover hend
    unfold World.Closes at hcloses
    split at hcloses
    · obtain ⟨k, name, attrs, failure, hk, hevents⟩ := hcloses
      obtain rfl : n = k := Option.some.inj (hn.symm.trans hk)
      exact ⟨n, parent, hn, .inl ⟨name, attrs, failure, by rw [hafter, since_of_eq hevents]⟩⟩
    · next hended =>
      have hnothing : e.back.since e.answered = [] := since_of_eq (by rw [hcloses, List.append_nil])
      exact ⟨n, parent, hn, .inr ⟨by rw [hafter, hnothing], fun hspared =>
        hended (hrecording hspared)⟩⟩

/-- Before any call nothing has been told. -/
theorem tells_nil (m : Manager) (w : World σ ν) : Tells m [] w :=
  ⟨fun _ => rfl, fun _ hc => (nomatch hc), fun _ hc => (nomatch hc)⟩

theorem Spared.before {span : SpanRef} (h : Spared span (earlier ++ [e])) :
    Spared span earlier :=
  fun x hx => h x (List.mem_append_left _ hx)

theorem Spared.last {span : SpanRef} (h : Spared span (earlier ++ [e])) :
    e.inward.isRecording span = true → e.back.isRecording span = true :=
  h e (List.mem_append_right _ List.mem_cons_self)

section Concat

variable (h : Tells m earlier e.asked) (he : e.Follows m earlier)
include h he

theorem Tells.of_unopened (hopened : opened? m (earlier ++ [e]) = none) :
    Tells m (earlier ++ [e]) e.answered := by
  obtain ⟨hinward, hanswered⟩ := he.outside (.inl hopened)
  refine ⟨fun _ => ?_, fun c hc => ?_, fun c hc => ?_⟩
  · rw [told_of_passed hinward hanswered]
    refine h.unopened ?_
    cases hfirst : firstCall earlier with
    | none => exact opened?_of_firstCall hfirst
    | some first => rw [← hopened, opened?_append hfirst]
  all_goals
    rw [hopened] at hc
    cases hc

variable {c : Context} (hopened : opened? m (earlier ++ [e]) = some c)
include hopened

/-- The first call is a fetch and starts the span. -/
theorem Tells.of_first (hm : m.provider = .recording) (hfirst : firstCall earlier = none) :
    Tells m (earlier ++ [e]) e.answered := by
  obtain ⟨hfetch, rfl⟩ := first_of_opened? hfirst hopened
  have hstarts := he.starts hm hfirst hfetch
  have hn : (m.iteration e.asked).span.record = some e.asked.spans.length := by
    simp [Manager.iteration, hm, World.startSpan]
  have htold : told earlier ++ e.asked.since e.inward = [.started e.asked.spans.length
      m.iterationName e.asked.current.span.identity .tracing] := by
    rw [h.unopened (opened?_of_firstCall hfirst), since_of_eq hstarts.events, List.nil_append]
  exact tells_of_open he hopened (isOver_of_firstCall hfirst)
    ⟨_, _, hn, htold, fun hspared => hspared.last (hstarts.isRecording hn)⟩

/-- The span was open before the call. -/
theorem Tells.of_active {c' : Context} (hopened' : opened? m earlier = some c')
    (hover : isOver earlier = false) : Tells m (earlier ++ [e]) e.answered := by
  obtain ⟨first, hfirst⟩ := exists_firstCall_of_opened? hopened'
  obtain rfl : c' = c := by
    rw [opened?_append hfirst, hopened'] at hopened
    exact Option.some.inj hopened
  have hcalm := he.startsNot (.inr (.inl (by simp [hfirst])))
  obtain ⟨n, parent, hn, htold, hrecording⟩ := h.opened c' hopened' hover
  refine tells_of_open he hopened hover ⟨n, parent, hn, ?_, fun hspared => ?_⟩
  · rw [htold, hcalm.since, List.append_nil]
  · exact hspared.last (by rw [hcalm.isRecording, hrecording hspared.before])

theorem Tells.of_over (hover : isOver earlier = true) : Tells m (earlier ++ [e]) e.answered := by
  obtain ⟨first, hfirst⟩ := exists_firstCall_of_over hover
  obtain ⟨hinward, hanswered⟩ := he.outside (.inr hover)
  have hover' : isOver (earlier ++ [e]) = true := by rw [isOver_concat, hover, Bool.true_or]
  have hopened' : opened? m earlier = some c := by rw [← hopened, opened?_append hfirst]
  refine ⟨fun hnone => ?_, fun c' hc' hopen => ?_, fun c' hc' _ => ?_⟩
  · rw [hopened] at hnone
    cases hnone
  · rw [hover'] at hopen
    cases hopen
  · obtain rfl : c = c' := by rw [hopened] at hc'; exact Option.some.inj hc'
    obtain ⟨n, parent, hn, htold⟩ := h.closed c hopened' hover
    refine ⟨n, parent, hn, ?_⟩
    rw [told_of_passed hinward hanswered]
    exact htold.imp_right (And.imp_right (mt Spared.before))

end Concat

/-- What a run tells of its span, call by call. -/
theorem Tells.concat (h : Tells m earlier e.asked) (hm : m.provider = .recording)
    (he : e.Follows m earlier) : Tells m (earlier ++ [e]) e.answered := by
  cases hopened : opened? m (earlier ++ [e]) with
  | none => exact h.of_unopened he hopened
  | some c =>
    rcases calls_cases m earlier with hfirst | ⟨c', hopened', hover⟩ | hover
    · exact h.of_first he hopened hm hfirst
    · exact h.of_active he hopened hopened' hover
    · exact h.of_over he hopened hover

end Told

namespace RowsLayer

/-- What a run tells of its span. -/
theorem play_tells {m : Manager} (hm : m.provider = .recording) (uses : List (StreamUse σ ν κ))
    {layer : RowsLayer} {earlier : List (Episode σ ν)} (h : Stands m earlier layer) {w : World σ ν}
    (htells : Tells m earlier w) :
    Tells m (earlier ++ (result (layer.play uses) w).1) (after (layer.play uses) w) := by
  induction uses generalizing layer earlier w with
  | nil => simpa [play] using htells
  | cons u uses ih =>
    obtain ⟨⟨hfollows, hstands⟩, hasked, hanswered⟩ := use_advances w h u
    rw [← hasked] at htells
    have hnext := htells.concat hm hfollows
    rw [hanswered] at hnext
    simpa [play] using ih hstands hnext

/-- The report that a span could not be opened is never made: a layer does without it. -/
def openSpan (layer : RowsLayer) : Action σ ν RowsLayer :=
  match layer.span.state with
  | .idle => do
    let calls := layer.calls.record "iter" .none
    let (_, span) ← layer.span.start calls
    return { layer with span, calls }
  | _ => return layer

theorem ensureStarted_eq_openSpan (layer : RowsLayer) :
    (layer.ensureStarted : Action σ ν RowsLayer) = layer.openSpan := by
  unfold ensureStarted openSpan
  cases hstate : layer.span.state with
  | idle => simp [Deferred.start, hstate]
  | active context name => rfl
  | closed => rfl

/-- The layer does nothing any more. -/
structure Passes (layer : RowsLayer) (σ ν κ : Type) : Prop where
  next : ∀ fetch : Action σ ν (Except String (Option Value) × κ),
    layer.next fetch = do return (← fetch, layer)
  close : ∀ inner : Action σ ν (Except String Unit × κ),
    layer.close inner = do return (← inner, layer)
  drop : (layer.drop : Action σ ν Unit) = pure ()

theorem passes_of_finished {layer : RowsLayer} (h : layer.finished = true) :
    layer.Passes σ ν κ :=
  ⟨next_of_finished h, close_of_finished h, by simp [drop, h, finish_of_finished]⟩

/-- One span for an iteration. Whatever a program does with a new traced stream until it gives the
stream up, and whatever the stream below and the rest of the program do meanwhile: the layer stands
where the calls say, every call keeps to the rules, and after the end calls are those of the stream
below. If the first call is a fetch, all that the layer tells is one start and one end, and the end
is missing only where somebody else has ended the span; otherwise it tells nothing. -/
theorem one_span_per_iteration (m : Manager) (origin : String) (uses : List (StreamUse σ ν κ))
    (w : World σ ν) :
    let run := (RowsLayer.ofOrigin m origin).play uses
    let episodes := (result run w).1
    let layer := (result run w).2
    let whole := episodes ++ [result layer.giveUp (after run w)]
    Stands m episodes layer ∧
      (∀ earlier e later, whole = earlier ++ e :: later → e.Follows m earlier) ∧
      (layer.ensureStarted : Action σ ν RowsLayer) = layer.openSpan ∧
      (isOver episodes = true → layer.Passes σ ν κ) ∧
      (m.provider = .recording → opened? m whole = none → told whole = []) ∧
      (m.provider = .recording → ∀ c, opened? m whole = some c → ToldWhole m c whole) := by
  intro run episodes layer whole
  have hnew : Stands m ([] : List (Episode σ ν)) (.ofOrigin m origin) := stands_ofOrigin m origin
  obtain ⟨hstands, hplayed⟩ := play_advances uses hnew w
  have hgiven := giveUp_follows (after run w) hstands
  rw [List.nil_append] at hstands hgiven
  have hover : isOver whole = true := by simp [whole, isOver_concat, giveUp, StreamCall.isEnd]
  have htells (hm : m.provider = .recording) :
      Tells m whole (result layer.giveUp (after run w)).answered :=
    (play_tells hm uses hnew (tells_nil m w)).concat hm hgiven
  refine ⟨hstands, fun earlier e later hsplit => ?_, ensureStarted_eq_openSpan layer,
    fun hended => passes_of_finished (hstands.finished.trans hended),
    fun hm => (htells hm).unopened, fun hm c hc => (htells hm).closed c hc hover⟩
  rcases List.eq_nil_or_concat later with rfl | ⟨later, e', rfl⟩
  · -- The last call is that which gives the stream up.
    obtain ⟨rfl, hlast⟩ := List.append_inj' hsplit rfl
    obtain rfl := List.singleton_inj.mp hlast
    exact hgiven
  · have hlast : episodes ++ [result layer.giveUp (after run w)] =
        (earlier ++ e :: later) ++ [e'] := by simpa [whole] using hsplit
    obtain ⟨hepisodes, -⟩ := List.append_inj' hlast rfl
    simpa using hplayed earlier e later hepisodes

/-- A stream is fetched from twice, the second time in vain, then closed and fetched from again. The
program starts a span of its own before, and notes something in between. -/
def brokenIteration : List (StreamUse Unit Unit Unit) :=
  [.elsewhere (modify fun w => (w.startSpan .recording .application "app" {}).2),
    .next (return (.ok (some .null), ())), .elsewhere (note ()), .next (return (.error "lost", ())),
    .close (return (.ok (), ())), .next (return (.ok none, ()))]

theorem one_span_brokenIteration :
    let m : Manager := ⟨.recording, .standard⟩
    let w : World Unit Unit := { program := () }
    let run := (RowsLayer.ofOrigin m "/table/run").play brokenIteration
    let episodes := (result run w).1
    let layer := (result run w).2
    let whole := episodes ++ [result layer.giveUp (after run w)]
    layer.span.state.name = "Closed" ∧ layer.rows = 1 ∧ layer.Passes Unit Unit Unit ∧
      ∃ c, opened? m whole = some c ∧ Spared c.span whole ∧
        ∃ n parent name attrs failure, c.span.record = some n ∧ told whole =
          [.started n m.iterationName parent .tracing, .ended n name attrs failure] := by
  intro m w run episodes layer whole
  obtain ⟨hstands, -, -, hpasses, -, hspan⟩ :=
    one_span_per_iteration m "/table/run" brokenIteration w
  have hopened : opened? m whole = some ⟨⟨some (.recorded 1), some 1⟩, some .deferred, false⟩ := rfl
  have hspared : Spared ⟨some (.recorded 1), some 1⟩ whole := by
    unfold Spared
    decide
  obtain ⟨n, parent, hn, htold⟩ := hspan rfl _ hopened
  obtain ⟨name, attrs, failure, htold⟩ := htold.resolve_right fun h => h.2 hspared
  refine ⟨?_, ?_, hpasses ?_, _, hopened, hspared, n, parent, name, attrs, failure, hn, htold⟩
  · rfl
  · rfl
  · rfl

end RowsLayer

end QueryTrace
