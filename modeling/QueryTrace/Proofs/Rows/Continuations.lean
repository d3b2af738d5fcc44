import QueryTrace.Proofs.Contrast.Outermost
import QueryTrace.Proofs.Opcode.Requests
import QueryTrace.Proofs.Rows.Iteration
import QueryTrace.Proofs.Spans.Requests

/-!
# Continuations of an iteration

While a stream is fetched from, its driver asks for further batches. The context of the first fetch
is kept and attached again at every later one, and with it the mark of a traced request if there was
one. So a request for a batch marks the span of the iteration if the first fetch was made outside of
any traced request; if it was made inside one, the layers around the connection take the request for
one that is traced already, and let it pass (`continuations_of_fetch`).
-/

namespace QueryTrace

open Text

variable {σ ν κ α : Type}

/-! ## Marks -/

/-- What marks a span as continued. -/
def continueMark : Attr :=
  ("db.x.continue", .flag true)

/-- How often the span with a number has been marked as continued. -/
def World.continuations (w : World σ ν) (n : Nat) : Nat :=
  ((w.spans[n]?).map fun r => r.attrs.count continueMark).getD 0

namespace World

variable (w : World σ ν)

theorem continuations_of_spans {w v : World σ ν} (h : v.spans = w.spans) (n : Nat) :
    v.continuations n = w.continuations n := by
  rw [continuations, h, continuations]

theorem continuations_fail (span : SpanRef) (message : String) (n : Nat) :
    (w.fail span message).continuations n = w.continuations n := by
  rw [continuations, fail, getElem?_spans_amend, Option.map_map, continuations]
  congr 2
  funext r
  show (if _ then r.fail message else r).attrs.count continueMark = _
  split
  · rw [SpanRecord.attrs_fail]
  · rfl

/-- A mark counts if the span is recording. -/
theorem continuations_annotate (span : SpanRef) (n : Nat) :
    (w.annotate span [continueMark]).continuations n =
      w.continuations n + if span.record = some n ∧ w.isRecording span then 1 else 0 := by
  rw [continuations, annotate, getElem?_spans_amend, Option.map_map, continuations]
  by_cases hspan : span.record = some n
  · have hrecording : w.isRecording span = ((w.spans[n]?).filter (!·.ended)).isSome := by
      simp [isRecording, openRecord?, hspan]
    rw [hrecording]
    cases hr : w.spans[n]? with
    | none => simp
    | some r => cases hended : r.ended <;> simp [hspan, hended, Option.filter]
  · simp [hspan, Function.comp_def]

end World

/-! ## A request that continues a query -/

/-- The request asks for the next batch: behind a header without a bracket, it is an array that
starts with a two. -/
def Request.Continues (request : Request) : Prop :=
  ∃ header operands, 0x5B ∉ header ∧ request.serialize =
    .ok (header ++ Text.octets (Value.array (.ofWord 2 :: operands)).chars)

/-- What the driver sends for the next batch. -/
theorem Request.continues_advance : Request.advance.Continues :=
  ⟨header, [], by decide, rfl⟩

theorem Request.Continues.role {request : Request} (h : request.Continues) (root : String) :
    ((Classifier.opcodes root).summarise request.rendered).role? = some .continuation := by
  obtain ⟨header, operands, hheader, hsent⟩ := h
  obtain ⟨path, hread⟩ := read_text_array
    (show QueryType.ofCode? (2 : UInt64).toNat = some .advance from rfl) operands root
  have hsummary : (Classifier.opcodes root).summarise request.rendered = ⟨.advance, path⟩ := by
    simp only [Classifier.opcodes, Summary.ofRequest, rendered_array hheader hsent, hread]
  rw [hsummary]
  rfl

/-! ## Requests on their way -/

/-- A request on its way through layers: the bare connection is asked in some world between, with
the program as it was. In front of it the layers mark the span with number `n` `k` times, and no
other span; behind it they mark none. They start none, and give the answer of the connection. -/
structure Forwards (n k : Nat) (send bare : Action σ ν α) (w : World σ ν) : Prop where
  between : ∃ u, (u.program = w.program ∧ u.spans.length = w.spans.length ∧
      ∀ i, u.continuations i = w.continuations i + if i = n then k else 0) ∧
    result send w = result bare u ∧ (after send w).program = (after bare u).program ∧
    (after send w).spans.length = (after bare u).spans.length ∧
    ∀ i, (after send w).continuations i = (after bare u).continuations i

namespace Manager

/-- What is noted about a failure is none of the marks. -/
theorem continuations_noteFailure (span : SpanRef) (out : Except String α) (w : World σ ν) :
    (after (noteFailure span out) w).program = w.program ∧
      (after (noteFailure span out) w).spans.length = w.spans.length ∧
      ∀ i, (after (noteFailure span out) w).continuations i = w.continuations i := by
  cases out with
  | ok a => exact ⟨rfl, rfl, fun _ => rfl⟩
  | error message =>
    let logged := w.log .error "RethinkDB query failed" [("error", .text message)]
    have hafter : after (noteFailure span (.error message : Except String α)) w =
        logged.fail span message := rfl
    have hspans : logged.spans = w.spans := w.spans_log ..
    rw [hafter]
    refine ⟨by simp [logged], ?_, fun i => ?_⟩
    · rw [World.fail, World.length_spans_amend, hspans]
    · rw [World.continuations_fail, World.continuations_of_spans hspans]

/-- A continuation marks the span of the active query, and then makes its call. -/
theorem trace_continuation (m : Manager) (source : Source) {w : World σ ν} {mode : Mode}
    (hactive : w.current.active = some mode) (call : Action σ ν (Except String α)) :
    let u := (w.log .debug "continuing span of the active query"
      [("mode", .text mode.name)]).annotate w.current.span [continueMark]
    (result (m.trace source .continuation call) w).1 = result call u ∧
      after (m.trace source .continuation call) w =
        after (noteFailure w.current.span (result call u)) (after call u) := by
  simp only [trace, result_bind, after_bind, result_current, after_current, hactive]
  exact ⟨result_noteFailure .., rfl⟩

end Manager

namespace Layer

variable {layer : Layer} {root : String} {request : Request} {w : World σ ν}

/-- Where a request of the active query goes through layers, its span is marked once if it is
recording and no traced request is under way, and not at all otherwise. -/
theorem sendThrough_forwards (hlayer : layer.classifier = .opcodes root)
    (hrequest : request.Continues) {mode : Mode} (hactive : w.current.active = some mode) {n : Nat}
    (hn : w.current.span.record = some n) (layers : List Layer) (base : Send σ ν)
    (noreply : Bool) :
    Forwards n (if w.current.inRequest = false ∧ w.isRecording w.current.span then 1 else 0)
      (sendThrough (layer :: layers) base request noreply) (base request noreply) w := by
  cases hw : w.current.inRequest with
  | true =>
    have hsame : (sendThrough (layer :: layers) base request noreply).run w =
        (base request noreply).run w := (sendThrough_inRequest _ base request noreply).run w hw
    refine ⟨w, ⟨rfl, rfl, fun i => by simp⟩, ?_⟩
    rw [result, after, hsame]
    exact ⟨rfl, rfl, rfl, fun i => rfl⟩
  | false =>
    rw [sendThrough_cons]
    have hrole : (layer.classifier.summarise request.rendered).role? = some .continuation :=
      hlayer ▸ hrequest.role root
    obtain ⟨v, hcontexts, hprogram, hspans, hsent, hsentAfter⟩ :=
      layer.send_traced base request noreply hw hrole
    have hcurrent : v.current = { w.current with inRequest := true } := by
      rw [World.current, hcontexts]
      rfl
    let logged := v.log .debug "continuing span of the active query" [("mode", .text mode.name)]
    let u := logged.annotate v.current.span [continueMark]
    obtain ⟨hresult, hafter⟩ := layer.manager.trace_continuation
      (.request request.rendered (layer.classifier.summarise request.rendered))
      (show v.current.active = some mode by rw [hcurrent]; exact hactive) (base request noreply)
    obtain ⟨hprogram', hlength, hmarks⟩ := Manager.continuations_noteFailure v.current.span
      (result (base request noreply) u) (after (base request noreply) u)
    have hlogged : logged.spans = w.spans := (v.spans_log ..).trans hspans
    refine ⟨u, ⟨?_, ?_, fun i => ?_⟩, hsent.trans hresult, ?_⟩
    · simp [u, logged, hprogram]
    · have hannotated : u.spans.length = logged.spans.length := World.length_spans_amend ..
      rw [hannotated, hlogged]
    · have hspan : v.current.span = w.current.span := by rw [hcurrent]
      have hrecording : logged.isRecording v.current.span = w.isRecording w.current.span := by
        rw [World.isRecording, World.openRecord?, hlogged, hspan]
        rfl
      rw [World.continuations_annotate, World.continuations_of_spans hlogged, hrecording, hspan, hn]
      by_cases hi : i = n
      · simp [hi]
      · simp [hi, Ne.symm hi]
    · rw [hsentAfter, hafter]
      exact ⟨hprogram', hlength, hmarks⟩

end Layer

/-! ## Fetches -/

/-- A fetch while the iteration is not over is made with the span open that the first one opened. -/
theorem exists_first_of_fetch (m : Manager) {earlier : List (Episode σ ν)} {e : Episode σ ν}
    (hfetch : e.call.isFetch = true) (hover : isOver earlier = false) :
    ∃ first, firstCall (earlier ++ [e]) = some first ∧
      opened? m (earlier ++ [e]) = some (m.iteration first.asked) := by
  cases hfirst : firstCall earlier with
  | none =>
    have hcall : e.call ≠ .elsewhere := by
      intro hcall
      simp [hcall, StreamCall.isFetch] at hfetch
    have hfirst' : firstCall (earlier ++ [e]) = some e := by
      rw [firstCall_append, hfirst]
      simp [firstCall, hcall]
    exact ⟨e, hfirst', by simp [opened?, hfirst', hfetch]⟩
  | some first =>
    have hfirst' : firstCall (earlier ++ [e]) = some first := by
      rw [firstCall_append, hfirst]
      rfl
    refine ⟨first, hfirst', ?_⟩
    cases hfetched : first.call.isFetch with
    | true => simp [opened?, hfirst', hfetched]
    | false =>
      have hopened : opened? m earlier = none := by simp [opened?, hfirst, hfetched]
      rw [over_of_opened? hfirst hopened] at hover
      cases hover

namespace RowsLayer

/-- In every fetch while the iteration is not over, the first one included, a request for the next
batch that is sent through layers starts no span. It marks the span of the iteration once, and no
other span, if the first fetch was made outside of any traced request and the span is still
recording; otherwise it marks nothing. Where the present fetch is made does not matter. -/
theorem continuations_of_fetch (m : Manager) (hm : m.provider = .recording) (origin : String)
    (uses : List (StreamUse σ ν κ)) (w : World σ ν) :
    let episodes := (result ((RowsLayer.ofOrigin m origin).play uses) w).1
    ∀ earlier e later, episodes = earlier ++ e :: later → e.call.isFetch = true →
      isOver earlier = false →
      ∃ first, firstCall (earlier ++ [e]) = some first ∧
        ∀ (outer : Layer) (inner : List Layer) (base : Send σ ν) (root : String)
          (request : Request) (noreply : Bool) (v : World σ ν),
          outer.classifier = .opcodes root → request.Continues →
          v.contexts = e.inward.contexts →
          Forwards first.asked.spans.length
            (if first.asked.current.inRequest = false ∧ v.isRecording first.asked.nextSpan
              then 1 else 0)
            (Layer.sendThrough (outer :: inner) base request noreply) (base request noreply) v := by
  intro episodes earlier e later hsplit hfetch hover
  obtain ⟨first, hfirst, hopened⟩ := exists_first_of_fetch m hfetch hover
  refine ⟨first, hfirst, fun outer inner base root request noreply v houter hrequest hv => ?_⟩
  have hfollows : e.Follows m earlier := by
    simpa using (play_advances uses (stands_ofOrigin m origin) w).2 earlier e later hsplit
  have hinside := hfollows.inside _ hopened hover (.inl hfetch)
  -- All that the request meets of the fetch is the context of the span.
  have hcurrent : v.current = { first.asked.current with
      span := first.asked.nextSpan, active := some .deferred } := by
    rw [World.current, hv, hinside, Manager.iteration, hm]
    rfl
  have hforwards := Layer.sendThrough_forwards (w := v) houter hrequest
    (show v.current.active = some .deferred by rw [hcurrent])
    (show v.current.span.record = some first.asked.spans.length by rw [hcurrent]; rfl)
    inner base noreply
  rwa [hcurrent] at hforwards

/-- Two fetches, with a step of the program between them. -/
def fetchTwice (step : World Unit Unit → World Unit Unit) : List (StreamUse Unit Unit Unit) :=
  [.next (return (.ok (some .null), ())), .elsewhere (modify step),
    .next (return (.ok (some .null), ()))]

/-- A world inside a traced request, outside of any query. -/
def insideRequest : World Unit Unit :=
  { contexts := [{ inRequest := true }], program := () }

/-- A layer around a connection. -/
def tracedConnection : Layer := ⟨⟨.recording, .standard⟩, .opcodes "r"⟩

/-- A server that always has one more row. -/
def endlessServer : Send Unit Unit := fun _ _ => return .ok (.batch [.null] true)

theorem continuations_of_fetchTwice :
    let run (w : World Unit Unit) (step : World Unit Unit → World Unit Unit) :=
      (result ((RowsLayer.ofOrigin ⟨.recording, .standard⟩ "/table/run").play
        (fetchTwice step)) w).1
    (∃ e₁ e₂ e₃, run { program := () } (·.attach { inRequest := true }) = [e₁, e₂, e₃] ∧
      Forwards 0 1 (Layer.sendThrough [tracedConnection] endlessServer .advance false)
        (endlessServer .advance false) e₃.inward) ∧
    ∃ e₁ e₂ e₃, run insideRequest World.detach = [e₁, e₂, e₃] ∧
      Forwards 0 0 (Layer.sendThrough [tracedConnection] endlessServer .advance false)
        (endlessServer .advance false) e₃.inward := by
  intro run
  refine ⟨⟨_, _, _, rfl, ?_⟩, _, _, _, rfl, ?_⟩
  · obtain ⟨first, hfirst, h⟩ := continuations_of_fetch ⟨.recording, .standard⟩ rfl "/table/run"
      (fetchTwice (·.attach { inRequest := true })) { program := () } [_, _] _ [] rfl rfl rfl
    cases hfirst
    exact h tracedConnection [] endlessServer "r" .advance false _ rfl
      Request.continues_advance rfl
  · obtain ⟨first, hfirst, h⟩ := continuations_of_fetch ⟨.recording, .standard⟩ rfl "/table/run"
      (fetchTwice World.detach) insideRequest [_, _] _ [] rfl rfl rfl
    cases hfirst
    exact h tracedConnection [] endlessServer "r" .advance false _ rfl
      Request.continues_advance rfl

/-- Not every request for the next batch marks the span, even if the fetch that sends it is made
outside of any traced request and the span is recording. -/
theorem exists_unmarked_continuation :
    ¬ ∀ (m : Manager) (origin : String) (uses : List (StreamUse Unit Unit Unit))
      (w : World Unit Unit), m.provider = .recording →
      ∀ earlier e later,
        (result ((RowsLayer.ofOrigin m origin).play uses) w).1 = earlier ++ e :: later →
        e.call.isFetch = true → isOver earlier = false → e.asked.current.inRequest = false →
        ∀ first, firstCall (earlier ++ [e]) = some first →
        e.inward.isRecording first.asked.nextSpan = true →
        ∀ (outer : Layer) (root : String), outer.classifier = .opcodes root →
        ∀ (request : Request) (answer : Except String Response), request.Continues →
          (after (Layer.sendThrough [outer] (fun _ _ => return answer) request false)
            e.inward).continuations first.asked.spans.length =
              e.inward.continuations first.asked.spans.length + 1 := by
  intro h
  have hone := h ⟨.recording, .standard⟩ "/table/run" (fetchTwice World.detach) insideRequest
    rfl [_, _] _ [] rfl rfl rfl rfl _ rfl rfl tracedConnection "r" rfl .advance
    (.ok (.batch [.null] true)) Request.continues_advance
  cases hone

end RowsLayer

end QueryTrace
