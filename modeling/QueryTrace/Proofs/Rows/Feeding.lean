import QueryTrace.Proofs.Contexts.Layers
import QueryTrace.Proofs.Rows.Continuations
import QueryTrace.Proofs.Spans.Belonging

/-!
# What a driver leaves on the span of an iteration

To give a row, the driver of a stream may have to ask for further batches, and to close the stream
it may have to tell the server to stop. Such requests feed the stream. They belong to the span of
the iteration, whatever layers they go through, and none of them describes it: a request for a batch
may mark the span as continued, and a request that fails leaves its failure there.

So after a call of a driver that sends nothing else, and gives the error of a failed request as its
own, there is nothing new on the span but marks and the failure that the call gave
(`Dialogue.run_fed`).
-/

namespace QueryTrace

variable {ι σ ν α κ : Type}

/-! ## Requests that feed a stream -/

/-- Who reads the opening of the request takes it for one that continues a stream or stops it. -/
def Request.Feeds (request : Request) : Prop :=
  ∀ root, ((Classifier.opcodes root).summarise request.rendered).type = .advance ∨
    ((Classifier.opcodes root).summarise request.rendered).type = .stop

/-- Behind a header without a bracket, an array that starts with a two or a three. -/
theorem Request.feeds_of_array {request : Request} (header : List UInt8) {code : UInt64}
    (operands : List Value) (hheader : 0x5B ∉ header) (hcode : code = 2 ∨ code = 3)
    (hsent : request.serialize =
      .ok (header ++ Text.octets (Value.array (.ofWord code :: operands)).chars)) :
    request.Feeds := by
  intro root
  have hbounds : 1 ≤ code ∧ code ≤ 5 := by rcases hcode with rfl | rfl <;> decide
  obtain ⟨-, summary, hsummary, htype, -⟩ := summary_of_request hheader hbounds hsent root
  rw [hsummary]
  rcases hcode with rfl | rfl
  · exact .inl (Option.some.inj htype).symm
  · exact .inr (Option.some.inj htype).symm

/-- The two requests that the driver sends for a stream. -/
theorem Request.feeds_advance : Request.advance.Feeds :=
  feeds_of_array header [] (by decide) (.inl rfl) rfl

theorem Request.feeds_stop : Request.stop.Feeds :=
  feeds_of_array header [] (by decide) (.inr rfl) rfl

/-! ## Work that is not traced -/

/-- Nothing of the action is traced: the contexts stay, and so do the spans that there are. -/
structure Untraced (act : Action σ ν α) : Prop where
  contexts : KeepsContexts act
  spans : ∀ w : World σ ν, w.spans <+: (after act w).spans

namespace Untraced

variable {β : Type}

theorem of_same {act : Action σ ν α} (hcontexts : ∀ w, (after act w).contexts = w.contexts)
    (hspans : ∀ w, (after act w).spans = w.spans) : Untraced act :=
  ⟨⟨hcontexts⟩, fun w => (hspans w).symm ▸ List.prefix_refl _⟩

theorem bind {act : Action σ ν α} {f : α → Action σ ν β} (h : Untraced act)
    (hf : ∀ a, Untraced (f a)) : Untraced (act >>= f) :=
  ⟨.bind h.contexts fun a => (hf a).contexts,
    fun w => (h.spans w).trans ((hf (result act w)).spans (after act w))⟩

theorem getElem? {act : Action σ ν α} (h : Untraced act) {w : World σ ν} {n : Nat}
    {r : SpanRecord} (hr : w.spans[n]? = some r) : (after act w).spans[n]? = some r := by
  obtain ⟨more, hmore⟩ := h.spans w
  rw [← hmore, List.getElem?_append_left (List.getElem?_eq_some_iff.mp hr).1, hr]

end Untraced

/-! ## One request -/

/-- The span with number `n` is current for an iteration. It is open, and nothing has failed. -/
structure World.Feeding (w : World σ ν) (n : Nat) (r : SpanRecord) : Prop where
  active : w.current.active = some .deferred
  span : w.current.span.record = some n
  record : w.spans[n]? = some r
  recording : r.ended = false
  unfailed : r.failure = none

/-- What a call that gave this left on the span: some marks, and no failure but its own. -/
def Fed (n : Nat) (r : SpanRecord) (out : Except String α) (v : World σ ν) : Prop :=
  ∃ k failure, v.spans[n]? =
      some { r with attrs := r.attrs ++ List.replicate k continueMark, failure } ∧
    ∀ message, failure = some message → out = .error message

/-- There is no failure of its own on the span of a call that succeeded. -/
theorem unfailed_of_ok {failure : Option String} {out : Except String α} {a : α}
    (h : ∀ message, failure = some message → out = .error message) (hok : out = .ok a) :
    failure = none := by
  cases failure with
  | none => rfl
  | some message => cases hok.symm.trans (h message rfl)

section Request

variable {w v : World σ ν} {n : Nat} {r : SpanRecord}

theorem World.Feeding.fed (h : w.Feeding n r) (out : Except String α)
    (hv : v.spans[n]? = some r) : Fed n r out v :=
  ⟨0, none, by simp [hv, ← h.unfailed], nofun⟩

/-- The call goes on where the span was marked. -/
theorem Fed.of_marked {marks : Nat} {out : Except String α}
    (h : Fed n { r with attrs := r.attrs ++ List.replicate marks continueMark } out v) :
    Fed n r out v := by
  obtain ⟨k, failure, hv, hfailure⟩ := h
  refine ⟨marks + k, failure, ?_, hfailure⟩
  rw [hv, List.append_assoc, List.replicate_append_replicate]

namespace Manager

/-- A failed result is the failure of a span that had none. -/
theorem noteFailure_fed (h : w.Feeding n r) (hv : v.spans[n]? = some r)
    (out : Except String α) : Fed n r out (after (noteFailure w.current.span out) v) := by
  cases out with
  | ok a => exact h.fed _ hv
  | error message =>
    let logged := v.log .error "RethinkDB query failed" [("error", .text message)]
    have hlogged : logged.spans[n]? = some r := by rw [World.spans_log, hv]
    refine ⟨0, some message, ?_, fun _ hmessage => by rw [Option.some.inj hmessage]⟩
    show (logged.fail w.current.span message).spans[n]? = _
    rw [World.fail, World.getElem?_spans_amend_open h.span hlogged h.recording]
    simp [SpanRecord.fail, h.unfailed]

section Trace

variable (m : Manager) (h : w.Feeding n r) (query : String) {summary : Summary}
  {call : Action σ ν (Except String α)} (hcall : Untraced call)
include h hcall

theorem trace_advance_fed (source : Source) :
    Fed n r (result (m.trace source .continuation call) w).1
      (after (m.trace source .continuation call) w) := by
  let u := (w.log .debug "continuing span of the active query"
    [("mode", .text Mode.deferred.name)]).annotate w.current.span [continueMark]
  let marked : SpanRecord := { r with attrs := r.attrs ++ List.replicate 1 continueMark }
  have hcurrent : u.current = w.current := by simp [u, World.current]
  have hu : u.Feeding n marked := by
    refine ⟨hcurrent ▸ h.active, hcurrent ▸ h.span, ?_, h.recording, h.unfailed⟩
    exact World.getElem?_spans_amend_open h.span (by rw [World.spans_log, h.record]) h.recording _
  obtain ⟨hresult, hafter⟩ := m.trace_continuation source h.active call
  have hnoted := noteFailure_fed hu (hcall.getElem? hu.record) (result call u)
  rw [hresult, hafter]
  rw [hcurrent] at hnoted
  exact hnoted.of_marked

/-- A request that stops the stream does not describe the span. -/
theorem trace_stop_fed (hstop : summary.type = .stop) :
    let traced := m.trace (.request query summary) .newQuery call
    Fed n r (result traced w).1 (after traced w) := by
  intro traced
  let u := w.log .debug "request belongs to the active query span"
    [("mode", .text Mode.deferred.name)]
  have hcontrol : (Source.request query summary).isControl = true := by
    rw [Source.isControl, hstop]
    rfl
  have hu : (after call u).spans[n]? = some r := hcall.getElem? (by rw [World.spans_log, h.record])
  have hcovered := noteFailure_fed h hu (result call u)
  simpa [traced, trace, h.active, Source.mode, runCovered, hcontrol, u] using hcovered

end Trace

end Manager

/-- A layer outside of any other request has the request traced where the span is current. -/
theorem World.Feeding.send_traced (h : w.Feeding n r) (hw : w.current.inRequest = false)
    {layer : Layer} {base : Send σ ν} {request : Request} {noreply : Bool} (role : Role)
    (hrole : (layer.classifier.summarise request.rendered).role? = some role) :
    let source : Source := .request request.rendered (layer.classifier.summarise request.rendered)
    let traced := layer.manager.trace source role (base request noreply)
    ∃ u, u.Feeding n r ∧ result (layer.send base request noreply) w = (result traced u).1 ∧
      after (layer.send base request noreply) w = (after traced u).detach := by
  intro source traced
  obtain ⟨u, hcontexts, -, hspans, hresult, hafter⟩ :=
    layer.send_traced base request noreply hw hrole
  have hcurrent : u.current = { w.current with inRequest := true } := by
    rw [World.current, hcontexts]
    rfl
  exact ⟨u, ⟨hcurrent ▸ h.active, hcurrent ▸ h.span, hspans ▸ h.record, h.recording, h.unfailed⟩,
    hresult, hafter⟩

/-- A request that feeds a stream leaves nothing on the span but marks and its failure, through any
layers that read its opening. -/
theorem Layer.sendThrough_fed (h : w.Feeding n r) {layers : List Layer}
    (hlayers : ∀ layer ∈ layers, ∃ root, layer.classifier = .opcodes root) {base : Send σ ν}
    {request : Request} {noreply : Bool} (hbase : Untraced (base request noreply))
    (hrequest : request.Feeds) :
    let sent := sendThrough layers base request noreply
    Fed n r (result sent w) (after sent w) := by
  intro sent
  cases layers with
  | nil => exact h.fed _ (hbase.getElem? h.record)
  | cons layer layers =>
    have hsent : sent = layer.send base request noreply := by
      simp only [sent, sendThrough_cons]
    rw [hsent]
    cases hw : w.current.inRequest with
    | true =>
      -- The request belongs to one that is traced already, and the layer lets it pass.
      have hpasses : (layer.send base request noreply).run w = (base request noreply).run w :=
        (layer.send_inRequest base request noreply).run w hw
      simp only [result, after, hpasses]
      exact h.fed _ (hbase.getElem? h.record)
    | false =>
      obtain ⟨root, hroot⟩ := hlayers layer List.mem_cons_self
      have htype := hrequest root
      rw [← hroot] at htype
      -- Both kinds of requests are traced for the span, each in its role.
      rcases htype with htype | htype
      · obtain ⟨u, hu, hresult, hafter⟩ := h.send_traced hw .continuation
          (by rw [Summary.role?, htype]; rfl)
        rw [hresult, hafter]
        exact layer.manager.trace_advance_fed hu hbase _
      · obtain ⟨u, hu, hresult, hafter⟩ := h.send_traced hw .newQuery
          (by rw [Summary.role?, htype]; rfl)
        rw [hresult, hafter]
        exact layer.manager.trace_stop_fed hu _ hbase htype

end Request

/-! ## Calls of a driver -/

namespace Dialogue

/-- The driver comes to this error without another request. That it gives the error of a failed
request as its own is read like this: the call ends there. A driver that sends another request after
one that failed, and gives the first error in the end, is not meant. -/
def FailsWith (message : String) : Dialogue ι σ (Except String α × κ) → Prop
  | .done out => out.1 = .error message
  | .own _ next => ∀ p, (next p).FailsWith message
  | .ask .. => False

/-- The driver sends only requests that feed its stream, each through layers that read its opening
or through none. A request that fails ends the call with its error. -/
def Feeds : Dialogue ι σ (Except String α × κ) → Prop
  | .done _ => True
  | .own _ next => ∀ p, (next p).Feeds
  | .ask _ layers request _ next =>
    (∀ layer ∈ layers, ∃ root, layer.classifier = .opcodes root) ∧ request.Feeds ∧
      (∀ message, (next (.error message)).FailsWith message) ∧
      ∀ response, (next (.ok response)).Feeds

variable {base : ι → Send σ ν} {n : Nat} {r : SpanRecord} {w : World σ ν}
  {d : Dialogue ι σ (Except String α × κ)}

theorem FailsWith.run (base : ι → Send σ ν) {message : String} (h : d.FailsWith message)
    (w : World σ ν) :
    (result (d.run base) w).1 = .error message ∧ (after (d.run base) w).spans = w.spans := by
  induction d generalizing w with
  | done out => exact ⟨h, rfl⟩
  | own change next ih => exact ih w.program (h w.program) { w with program := change w.program }
  | ask connection layers request noreply next ih => exact h.elim

/-- A call of a driver that feeds its stream leaves nothing on the span but marks and the failure
that the call gives. -/
theorem run_fed (hbase : ∀ connection request noreply, Untraced (base connection request noreply))
    (hd : d.Feeds) (h : w.Feeding n r) :
    Fed n r (result (d.run base) w).1 (after (d.run base) w) := by
  induction d generalizing w r with
  | done out => exact h.fed _ h.record
  | own change next ih => exact ih w.program (hd w.program) ⟨h.active, h.span, h.record,
      h.recording, h.unfailed⟩
  | ask connection layers request noreply next ih =>
    obtain ⟨hlayers, hrequest, hfails, hnext⟩ := hd
    let sent := Layer.sendThrough layers (base connection) request noreply
    have hsent : Fed n r (result sent w) (after sent w) :=
      Layer.sendThrough_fed h hlayers (hbase connection request noreply) hrequest
    have hcurrent : (after sent w).current = w.current :=
      (Layer.sendThrough_keepsContexts layers request noreply
        (hbase connection request noreply).contexts).current_after w
    obtain ⟨k, failure, hspan, hfailure⟩ := hsent
    show Fed n r (result ((next (result sent w)).run base) (after sent w)).1
      (after ((next (result sent w)).run base) (after sent w))
    cases hanswer : result sent w with
    | error message =>
      obtain ⟨hgiven, hspans⟩ := (hfails message).run base (after sent w)
      refine ⟨k, failure, by rw [hspans, hspan], fun message' hmessage' => ?_⟩
      obtain rfl := Except.error.inj (hanswer.symm.trans (hfailure message' hmessage'))
      exact hgiven
    | ok response =>
      have hunfailed : failure = none := unfailed_of_ok hfailure hanswer
      have hmarked : (after sent w).Feeding n
          { r with attrs := r.attrs ++ List.replicate k continueMark } := by
        refine ⟨hcurrent ▸ h.active, hcurrent ▸ h.span, ?_, h.recording, h.unfailed⟩
        rw [hspan, hunfailed, h.unfailed]
      exact (ih (.ok response) (hnext response) hmarked).of_marked

end Dialogue

/-! ## The driver of a session -/

/-- A scripted server whose steps do nothing that is traced. -/
theorem Session.untraced_handle {react : List Step → Doing Unit}
    (h : ∀ steps, Untraced (react steps)) (server generation : Nat) (request : Request)
    (noreply : Bool) : Untraced (handle react server generation request noreply) := by
  have hnote (n : Note) : Untraced (note n : Doing Unit) :=
    .of_same (fun _ => rfl) fun _ => rfl
  have htake : Untraced (takeReply server) := .of_same (fun _ => rfl) fun _ => rfl
  have hdesk : Untraced desk := .of_same (fun _ => rfl) fun _ => rfl
  refine .bind (hnote _) fun _ => .bind htake fun reply => .bind hdesk fun d => ?_
  refine .bind (.of_same (fun _ => rfl) fun _ => rfl) fun _ => .bind (h _) fun _ => ?_
  split <;> exact .of_same (fun _ => rfl) fun _ => rfl

/-- The next row of a stream as a dialogue, on one connection. -/
def Stream.fetching (connection : ι) (layers : List Layer) :
    Nat → Stream → Dialogue ι σ (Except String (Option Value) × Stream)
  | 0, stream => .done (.ok none, stream)
  | fuel + 1, stream =>
    match stream.rows with
    | row :: rest => .done (.ok (some row), { stream with rows := rest })
    | [] =>
      if stream.more then .ask connection layers .advance false fun
        | .error message => .done (.error message, stream)
        | .ok (.batch rows more) => fetching connection layers fuel ⟨rows, more⟩
        | .ok (.atom value) => fetching connection layers fuel ⟨[value], false⟩
      else .done (.ok none, stream)

/-- The end of a stream as a dialogue. -/
def Stream.closing (connection : ι) (layers : List Layer) (stream : Stream) :
    Dialogue ι σ (Except String Unit × Stream) :=
  if stream.more then .ask connection layers .stop false fun
    | .error message => .done (.error message, ⟨[], false⟩)
    | .ok _ => .done (.ok (), ⟨[], false⟩)
  else .done (.ok (), ⟨[], false⟩)

namespace Stream

variable (base : ι → Send σ ν) (connection : ι) (layers : List Layer)

theorem run_fetching (fuel : Nat) (stream : Stream) :
    (stream.fetching connection layers fuel).run base =
      Stream.next (Layer.sendThrough layers (base connection)) fuel stream := by
  induction fuel generalizing stream with
  | zero => rfl
  | succ fuel ih =>
    obtain ⟨rows, more⟩ := stream
    cases rows with
    | cons row rest => rfl
    | nil =>
      cases more with
      | false => rfl
      | true =>
        refine congrArg (_ >>= ·) (funext fun answer => ?_)
        rcases answer with message | value | ⟨rows, more⟩
        · rfl
        · exact ih _
        · exact ih _

theorem run_closing (stream : Stream) : (stream.closing connection layers).run base =
    Stream.close (Layer.sendThrough layers (base connection)) stream := by
  obtain ⟨rows, more⟩ := stream
  cases more with
  | false => rfl
  | true =>
    refine congrArg (_ >>= ·) (funext fun answer => ?_)
    cases answer <;> rfl

variable {layers} (hlayers : ∀ layer ∈ layers, ∃ root, layer.classifier = .opcodes root)
include hlayers

theorem feeds_fetching (fuel : Nat) (stream : Stream) :
    (stream.fetching connection layers fuel : Dialogue ι σ _).Feeds := by
  induction fuel generalizing stream with
  | zero => trivial
  | succ fuel ih =>
    obtain ⟨rows, more⟩ := stream
    cases rows with
    | cons row rest => trivial
    | nil =>
      cases more with
      | false => trivial
      | true =>
        refine ⟨hlayers, Request.feeds_advance, fun message => rfl, fun response => ?_⟩
        cases response <;> exact ih _

theorem feeds_closing (stream : Stream) :
    (stream.closing connection layers : Dialogue ι σ _).Feeds := by
  obtain ⟨rows, more⟩ := stream
  cases more with
  | false => trivial
  | true => exact ⟨hlayers, Request.feeds_stop, fun message => rfl, fun response => trivial⟩

end Stream

end QueryTrace
