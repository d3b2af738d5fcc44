import QueryTrace.Proofs.Spans.Sparing

/-!
# What spans say about calls

The label of a span is its name and those of its attributes that stand under keys of calls. A chain
is described under such keys when its span starts, or when a deferred span is stopped; nothing else
that the layers do touches a label. So every operation keeps the label of a span, unless it stops a
deferred span that has just this span open. It does not matter where the span is current.
-/

namespace QueryTrace

variable {σ ν α β κ : Type}

/-! ## Labels -/

/-- What the keys of attributes start with that tell about calls. -/
def callKeyLead : String :=
  "db.method."

/-- The attributes that tell about calls, in order and with repeats. -/
def callAttrs (attrs : List Attr) : List Attr :=
  attrs.filter fun attr => callKeyLead.toList.isPrefixOf attr.1.toList

/-- What a span says about calls. -/
structure Label where
  name : String
  calls : List Attr
  deriving DecidableEq

def SpanRecord.label (r : SpanRecord) : Label :=
  ⟨r.name, callAttrs r.attrs⟩

/-- The label of the span with a number, if there is one. -/
def World.label? (w : World σ ν) (n : Nat) : Option Label :=
  (w.spans[n]?).map (·.label)

theorem callAttrs_append (attrs more : List Attr) :
    callAttrs (attrs ++ more) = callAttrs attrs ++ callAttrs more :=
  List.filter_append ..

theorem callAttrs_of_key {key : String} (h : callKeyLead.toList.isPrefixOf key.toList = false)
    (value : AttrValue) : callAttrs [(key, value)] = [] := by
  simp [callAttrs, h]

/-- What is added to a span may be silent about calls. -/
theorem SpanRecord.label_append (r : SpanRecord) {more : List Attr} (h : callAttrs more = []) :
    SpanRecord.label { r with attrs := r.attrs ++ more } = r.label := by
  simp [label, callAttrs_append, h]

@[simp] theorem SpanRecord.label_fail (r : SpanRecord) (description : String) :
    (r.fail description).label = r.label := by
  unfold SpanRecord.fail
  split
  · rfl
  · split <;> rfl

namespace Manager

theorem callAttrs_serverAttrs (config : Config) : callAttrs (serverAttrs config) = [] := by
  cases hdatabase : config.database <;> cases haddress : config.serverAddress <;>
    cases hport : config.serverPort <;>
    simp [serverAttrs, callAttrs, callKeyLead, hdatabase, haddress, hport]

/-- The description of a request is silent about calls. -/
theorem callAttrs_request (config : Config) (query : String) (summary : Summary) :
    callAttrs (attrs config (.request query summary)) = [] := by
  rw [attrs, callAttrs_append, callAttrs_serverAttrs]
  cases hquery : config.logQueries <;> simp [requestAttrs, callAttrs, callKeyLead, hquery]

/-- All that a chain is described by, beside its server, is its calls. -/
theorem callAttrs_chain (config : Config) (calls : Chain) :
    callAttrs (attrs config (.chain calls)) = chainAttrs config calls := by
  rw [attrs, callAttrs_append, callAttrs_serverAttrs, List.nil_append]
  refine List.filter_eq_self.mpr fun attr hattr => ?_
  obtain ⟨call, -, rfl⟩ := List.mem_map.mp hattr
  rw [String.toList_append]
  exact List.isPrefixOf_iff_prefix.mpr (List.prefix_append ..)

end Manager

namespace World

variable (w : World σ ν) (span : SpanRef) {n : Nat}

theorem label?_of_spans {w v : World σ ν} (h : v.spans = w.spans) (n : Nat) :
    v.label? n = w.label? n := by
  rw [label?, h, label?]

theorem label?_amend {f : SpanRecord → SpanRecord}
    (h : span.record ≠ some n ∨ ∀ r, (f r).label = r.label) :
    (w.amend span f).label? n = w.label? n := by
  rw [label?, getElem?_spans_amend, Option.map_map, label?]
  congr 1
  funext r
  show (if _ then f r else r).label = r.label
  split
  · next hopen => exact h.resolve_left (absurd hopen.1) r
  · rfl

theorem label?_annotate {attrs : List Attr} (h : span.record ≠ some n ∨ callAttrs attrs = []) :
    (w.annotate span attrs).label? n = w.label? n :=
  w.label?_amend span (h.imp_right fun hattrs r => r.label_append hattrs)

theorem label?_fail (description : String) (n : Nat) :
    (w.fail span description).label? n = w.label? n :=
  w.label?_amend span (.inr fun r => r.label_fail description)

theorem label?_finish (n : Nat) : (w.finish span).label? n = w.label? n := by
  unfold finish
  split
  · exact w.label?_amend span (.inr fun _ => rfl)
  · rfl

theorem lt_of_label? {w : World σ ν} {label : Label} (h : w.label? n = some label) :
    n < w.spans.length := by
  obtain ⟨r, hr, -⟩ := Option.map_eq_some_iff.mp h
  exact (List.getElem?_eq_some_iff.mp hr).1

theorem label?_startSpan (provider : Provider) (scope : Scope) (name : String) (parent : SpanRef)
    (h : n < w.spans.length) :
    (w.startSpan provider scope name parent).2.label? n = w.label? n := by
  rw [label?, w.getElem?_spans_startSpan _ _ _ _ h, label?]

end World

/-! ## Actions that keep a label -/

/-- Where the span with number `n` has a label and the program is clear of the span, an action
leaves it so. -/
structure KeepsLabel (n : Nat) (clear : σ → Prop) (act : Action σ ν α) (Q : α → Prop) : Prop where
  keeps : ∀ (label : Label) (w : World σ ν), w.label? n = some label → clear w.program →
    (after act w).label? n = some label ∧ clear (after act w).program ∧ Q (result act w)

namespace KeepsLabel

variable {n : Nat} {clear : σ → Prop} {Q : α → Prop}

theorem pure {a : α} (h : Q a) : KeepsLabel n clear (pure a : Action σ ν α) Q :=
  ⟨fun _ _ hlabel hclear => ⟨hlabel, hclear, h⟩⟩

theorem bind {act : Action σ ν α} {f : α → Action σ ν β} {R : β → Prop}
    (h : KeepsLabel n clear act Q) (hf : ∀ a, Q a → KeepsLabel n clear (f a) R) :
    KeepsLabel n clear (act >>= f) R := by
  refine ⟨fun label w hlabel hclear => ?_⟩
  obtain ⟨hlabel', hclear', hQ⟩ := h.keeps label w hlabel hclear
  exact (hf _ hQ).keeps label _ hlabel' hclear'

theorem bind_current {f : Context → Action σ ν β} {R : β → Prop}
    (h : ∀ c, KeepsLabel n clear (f c) R) : KeepsLabel n clear (current >>= f) R :=
  ⟨fun label w hlabel hclear => (h w.current).keeps label w hlabel hclear⟩

/-- What an action sees of the world, it may use; that the program is clear of the span is known. -/
theorem bind_get {f : World σ ν → Action σ ν β} {R : β → Prop}
    (h : ∀ w, clear w.program → KeepsLabel n clear (f w) R) : KeepsLabel n clear (get >>= f) R :=
  ⟨fun label w hlabel hclear => (h w hclear).keeps label w hlabel hclear⟩

/-- A change of the world that leaves labels and the program alone. -/
theorem change {f : World σ ν → World σ ν} (hprogram : ∀ w, (f w).program = w.program)
    (hlabel : ∀ w, n < w.spans.length → (f w).label? n = w.label? n) :
    KeepsLabel n clear (modify f : Action σ ν Unit) fun _ => True := by
  refine ⟨fun label w hw hclear => ⟨?_, ?_, trivial⟩⟩
  · exact (hlabel w (World.lt_of_label? hw)).trans hw
  · rw [after_modify, hprogram]
    exact hclear

theorem log (level : Level) (message : String) (fields : List Attr) :
    KeepsLabel n clear (log level message fields : Action σ ν Unit) fun _ => True :=
  .change (fun w => w.program_log ..) fun w _ => World.label?_of_spans (w.spans_log ..) n

theorem note (entry : ν) : KeepsLabel n clear (note entry : Action σ ν Unit) fun _ => True :=
  .change (fun _ => rfl) fun _ _ => rfl

theorem annotate {span : SpanRef} {attrs : List Attr}
    (h : span.record ≠ some n ∨ callAttrs attrs = []) :
    KeepsLabel n clear (modify (·.annotate span attrs) : Action σ ν Unit) fun _ => True :=
  .change (fun w => w.program_annotate ..) fun w _ => w.label?_annotate span h

theorem fail (span : SpanRef) (description : String) :
    KeepsLabel n clear (modify (·.fail span description) : Action σ ν Unit) fun _ => True :=
  .change (fun w => w.program_fail ..) fun w _ => w.label?_fail span description n

theorem finish (span : SpanRef) :
    KeepsLabel n clear (modify (·.finish span) : Action σ ν Unit) fun _ => True :=
  .change (fun w => w.program_finish ..) fun w _ => w.label?_finish span n

/-- A span that is started has another number. -/
theorem bind_startSpan {provider : Provider} {scope : Scope} {name : String} {parent : SpanRef}
    {f : SpanRef → Action σ ν β} {R : β → Prop}
    (h : ∀ span, span.record ≠ some n → KeepsLabel n clear (f span) R) :
    KeepsLabel n clear (do
      let (span, w) := (← get).startSpan provider scope name parent
      set w
      f span) R := by
  refine ⟨fun label w hlabel hclear => ?_⟩
  have hn := World.lt_of_label? hlabel
  refine (h (w.startSpan provider scope name parent).1 fun hspan => ?_).keeps label
    (w.startSpan provider scope name parent).2 ?_ ?_
  · exact Nat.ne_of_lt hn (w.record_startSpan provider scope name parent hspan).1
  · rw [w.label?_startSpan _ _ _ _ hn, hlabel]
  · rw [World.program_startSpan]
    exact hclear

theorem startIn (m : Manager) (context : Context) (name : String) (mode : Mode) :
    KeepsLabel n clear (m.startIn context name mode : Action σ ν Context)
      fun inner => inner.span.record ≠ some n := by
  refine .bind_startSpan (f := fun span => return { context with span, active := some mode })
    fun span hspan => .pure ?_
  exact hspan

theorem within {inner : Context} {act : Action σ ν α} (h : KeepsLabel n clear act Q) :
    KeepsLabel n clear (within inner act) Q :=
  ⟨fun label w hlabel hclear => h.keeps label (w.attach inner) hlabel hclear⟩

end KeepsLabel

/-! ## Calls inside the span of a query -/

variable {n : Nat} {clear : σ → Prop}

namespace Manager

/-- A span may be described by a request, and any other span by anything. -/
theorem describe_keepsLabel (m : Manager) {span : SpanRef} {source : Source}
    (h : span.record ≠ some n ∨ source.mode = .request) :
    KeepsLabel n clear (m.describe span source : Action σ ν Source) fun _ => True := by
  refine .bind (.annotate (h.imp_right fun hsource => ?_)) fun _ _ => .pure trivial
  cases source with
  | request query summary => exact callAttrs_request m.config query summary
  | chain calls => cases hsource

theorem noteFailure_keepsLabel (span : SpanRef) (result : Except String α) :
    KeepsLabel n clear (noteFailure span result : Action σ ν _) fun _ => True := by
  cases result with
  | ok a => exact .pure trivial
  | error message => exact .bind (.log ..) fun _ _ => .bind (.fail ..) fun _ _ => .pure trivial

theorem noteDuration_keepsLabel (m : Manager) (span : SpanRef) (started : Nat) :
    KeepsLabel n clear (m.noteDuration span started : Action σ ν Unit) fun _ => True := by
  refine .bind_get fun w _ => ?_
  split
  · refine .bind (.annotate (.inr (callAttrs_of_key rfl _))) fun _ _ => ?_
    split
    · exact .bind (.annotate (.inr (callAttrs_of_key rfl _))) fun _ _ => .log ..
    · exact .pure trivial
  · exact .pure trivial

section Call

variable {call : Action σ ν (Except String α)} (h : KeepsLabel n clear call fun _ => True)
include h

theorem runInSpan_keepsLabel (m : Manager) (context : Context) (source : Source) :
    KeepsLabel n clear (m.runInSpan context source call) fun _ => True :=
  .bind (.log ..) fun _ _ => .bind (.startIn m context ..) fun _ hspan =>
    .bind (m.describe_keepsLabel (.inl hspan)) fun _ _ => .bind_get fun _ _ =>
      .bind (.within h) fun result _ => .bind (m.noteDuration_keepsLabel ..) fun _ _ =>
        .bind (noteFailure_keepsLabel _ result) fun _ _ => .bind (.finish _) fun _ _ =>
          .pure trivial

theorem noteResult_keepsLabel (span : SpanRef) (source : Source) :
    KeepsLabel n clear (do return (← noteFailure span (← call), source)) fun _ => True :=
  .bind h fun result _ => .bind (noteFailure_keepsLabel span result) fun _ _ => .pure trivial

theorem runCovered_keepsLabel (m : Manager) (span : SpanRef) (mode : Mode) {source : Source}
    (hsource : source.mode = .request) :
    KeepsLabel n clear (m.runCovered span mode source call) fun _ => True := by
  refine .bind (.log ..) fun _ _ => ?_
  dsimp only
  split
  · exact noteResult_keepsLabel h ..
  · exact .bind (m.describe_keepsLabel (.inr hsource)) fun _ _ => noteResult_keepsLabel h ..

omit h in
theorem endStale_keepsLabel (span : SpanRef) :
    KeepsLabel n clear (endStale span : Action σ ν Unit) fun _ => True := by
  refine .bind_get fun w _ => ?_
  split
  · exact .bind (.log ..) fun _ _ => .finish span
  · exact .pure trivial

/-- A traced call keeps the label of every span that its callee keeps it of: a request may add to
the span of its query, but no calls, and a chain describes a span of its own. -/
theorem trace_keepsLabel (m : Manager) (source : Source) (role : Role) :
    KeepsLabel n clear (m.trace source role call) fun _ => True := by
  refine .bind_current fun context => ?_
  split
  · exact .bind (.log ..) fun _ _ => .bind h fun _ _ => .pure trivial
  · exact .bind (.log ..) fun _ _ => .bind (.annotate (.inr (callAttrs_of_key rfl _))) fun _ _ =>
      noteResult_keepsLabel h ..
  · exact runInSpan_keepsLabel h m context source
  · exact .bind (endStale_keepsLabel _) fun _ _ => runInSpan_keepsLabel h m context source
  · split
    · next hsource => exact runCovered_keepsLabel h m _ _ hsource
    · exact runInSpan_keepsLabel h m context source

end Call

end Manager

/-! ## Requests -/

namespace Layer

variable {base : Send σ ν} {request : Request} {noreply : Bool}

theorem render_keepsLabel (request : Request) :
    KeepsLabel n clear (render request : Action σ ν String) fun _ => True := by
  unfold render
  dsimp only
  split
  · exact .bind (.log ..) fun _ _ => .pure trivial
  · exact .pure trivial

theorem send_keepsLabel (layer : Layer)
    (h : KeepsLabel n clear (base request noreply) fun _ => True) :
    KeepsLabel n clear (layer.send base request noreply) fun _ => True := by
  refine .bind_current fun context => ?_
  split
  · exact h
  · refine .within (.bind (render_keepsLabel request) fun rendered _ => ?_)
    dsimp only
    split
    · exact .bind (.log ..) fun _ _ => h
    · exact .bind (Manager.trace_keepsLabel h layer.manager _ _) fun _ _ => .pure trivial

theorem sendThrough_keepsLabel (h : KeepsLabel n clear (base request noreply) fun _ => True)
    (layers : List Layer) :
    KeepsLabel n clear (sendThrough layers base request noreply) fun _ => True := by
  induction layers with
  | nil => exact h
  | cons layer layers ih => exact layer.send_keepsLabel ih

end Layer

/-! ## Deferred spans -/

namespace Deferred

variable {d : Deferred}

theorem start_keepsLabel (hd : d.Apart n) (chain : Chain) :
    KeepsLabel n clear (d.start chain : Action σ ν (Except StillActive Unit × Deferred))
      fun x => x.2.Apart n := by
  unfold Deferred.start
  split
  · exact .pure hd
  · refine .bind (.log ..) fun _ _ => .bind_current fun context =>
      .bind (.startIn ..) fun inner hspan => .pure fun context name hactive => ?_
    cases hactive
    exact hspan

theorem inScope_keepsLabel (d : Deferred) {act : Action σ ν α} {Q : α → Prop}
    (h : KeepsLabel n clear act Q) : KeepsLabel n clear (d.inScope act) Q := by
  unfold Deferred.inScope
  split
  · exact .within h
  · exact h

theorem noteError_keepsLabel (d : Deferred) (message : String) :
    KeepsLabel n clear (d.noteError message : Action σ ν Unit) fun _ => True := by
  unfold Deferred.noteError
  split
  · exact .bind (.log ..) fun _ _ => .fail ..
  · exact .pure trivial

theorem noteRows_keepsLabel (d : Deferred) (rows : UInt64) :
    KeepsLabel n clear (d.noteRows rows : Action σ ν Unit) fun _ => True := by
  unfold Deferred.noteRows
  split
  · split
    · exact .annotate (.inr (callAttrs_of_key rfl _))
    · exact .pure trivial
  · exact .pure trivial

/-- A deferred span describes the span that it has open, and no other. -/
theorem stop_keepsLabel (hd : d.Apart n) (chain : Chain) :
    KeepsLabel n clear (d.stop chain : Action σ ν (Deferred × Chain)) fun x => x.1.Apart n := by
  unfold Deferred.stop
  split
  · next context name hactive =>
    have hends : KeepsLabel n clear (modify fun w : World σ ν => (w.annotate context.span
        (Manager.attrs d.manager.config (.chain chain))).finish context.span) fun _ => True :=
      .bind (.annotate (.inl (hd context name hactive))) fun _ _ => .finish _
    refine .bind (.log ..) fun _ _ => .bind hends fun _ _ => .pure fun _ _ hclosed => ?_
    cases hclosed
  · exact .pure hd

theorem abandon_keepsLabel (d : Deferred) :
    KeepsLabel n clear (d.abandon : Action σ ν Unit) fun _ => True := by
  unfold Deferred.abandon
  split
  · exact .finish _
  · exact .pure trivial

end Deferred

/-! ## Streams -/

namespace RowsLayer

variable {layer : RowsLayer}

theorem ensureStarted_keepsLabel (hlayer : layer.span.Apart n) :
    KeepsLabel n clear (layer.ensureStarted : Action σ ν RowsLayer) fun l => l.span.Apart n := by
  unfold ensureStarted
  split
  · refine .bind (Deferred.start_keepsLabel hlayer _) fun ⟨refused, span⟩ hspan => ?_
    cases refused with
    | error e => exact .bind (.log ..) fun _ _ => .pure hspan
    | ok _ => exact .pure hspan
  · exact .pure hlayer

variable (hlayer : layer.Apart n)
include hlayer

theorem finish_keepsLabel :
    KeepsLabel n clear (layer.finish : Action σ ν RowsLayer) fun l => l.Apart n := by
  unfold finish
  split
  · exact .pure hlayer
  · next hfinished =>
    exact .bind (layer.span.noteRows_keepsLabel _) fun _ _ =>
      .bind (Deferred.stop_keepsLabel (hlayer (by simpa using hfinished)) _) fun _ hspan =>
        .pure fun _ => hspan

theorem drop_keepsLabel : KeepsLabel n clear (layer.drop : Action σ ν Unit) fun _ => True := by
  unfold drop
  split
  · exact .bind (.log ..) fun _ _ => .bind (finish_keepsLabel hlayer) fun _ _ => .pure trivial
  · exact .bind (finish_keepsLabel hlayer) fun _ _ => .pure trivial

theorem next_keepsLabel {fetch : Action σ ν (Except String (Option Value) × κ)}
    (h : KeepsLabel n clear fetch fun _ => True) :
    KeepsLabel n clear (layer.next fetch) fun x => x.2.Apart n := by
  unfold next
  split
  · exact .bind h fun _ _ => .pure hlayer
  · next hfinished =>
    refine .bind (ensureStarted_keepsLabel (hlayer (by simpa using hfinished))) fun l hspan => ?_
    refine .bind (l.span.inScope_keepsLabel h) fun out _ => ?_
    match out with
    | (.ok (some _), _) => exact .pure fun _ => hspan
    | (.ok none, _) =>
      exact .bind (.log ..) fun _ _ => .bind (finish_keepsLabel fun _ => hspan) fun _ h => .pure h
    | (.error message, _) =>
      exact .bind (l.span.noteError_keepsLabel message) fun _ _ =>
        .bind (finish_keepsLabel fun _ => hspan) fun _ h => .pure h

theorem close_keepsLabel {inner : Action σ ν (Except String Unit × κ)}
    (h : KeepsLabel n clear inner fun _ => True) :
    KeepsLabel n clear (layer.close inner) fun x => x.2.Apart n := by
  unfold close
  split
  · exact .bind h fun _ _ => .pure hlayer
  · refine .bind (layer.span.inScope_keepsLabel h) fun out _ => ?_
    match out with
    | (.ok _, _) => exact .bind (finish_keepsLabel hlayer) fun _ h => .pure h
    | (.error message, _) =>
      exact .bind (layer.span.noteError_keepsLabel message) fun _ _ =>
        .bind (finish_keepsLabel hlayer) fun _ h => .pure h

end RowsLayer

/-! ## Runs -/

theorem QueryLayer.runThrough_keepsLabel {base : Action σ ν (Except String (Outcome κ))}
    (h : KeepsLabel n clear base fun _ => True) (options : Args) (layers : List QueryLayer) :
    KeepsLabel n clear (runThrough options base layers) fun _ => True := by
  induction layers with
  | nil => exact .bind h fun _ _ => .pure trivial
  | cons layer layers ih =>
    have hrun : KeepsLabel n clear (layer.run options (runThrough options base layers))
        fun _ => True :=
      .bind (Manager.trace_keepsLabel ih layer.manager _ _) fun _ _ => .pure trivial
    exact .bind hrun fun _ _ => .pure trivial

end QueryTrace
