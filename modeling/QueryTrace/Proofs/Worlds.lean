import QueryTrace.Span.Deferred

/-!
# Runs of actions, and worlds field by field

`result` and `after` are the two halves of a run. What an operation on worlds does to each field is
said here once; later modules do not open the operations again.
-/

namespace QueryTrace

variable {σ ν α β : Type}

/-! ## Runs -/

/-- The world with one more context attached. -/
def World.attach (w : World σ ν) (context : Context) : World σ ν :=
  { w with contexts := context :: w.contexts }

/-- The world with its current context detached. -/
def World.detach (w : World σ ν) : World σ ν :=
  { w with contexts := w.contexts.tail }

/-- What an action gives in a world. -/
def result (act : Action σ ν α) (w : World σ ν) : α :=
  (act.run w).1

/-- The world after an action. -/
def after (act : Action σ ν α) (w : World σ ν) : World σ ν :=
  (act.run w).2

section Runs

variable (w : World σ ν)

@[simp] theorem result_pure (a : α) : result (pure a) w = a := rfl

@[simp] theorem after_pure (a : α) : after (pure a) w = w := rfl

@[simp] theorem result_bind (act : Action σ ν α) (f : α → Action σ ν β) :
    result (act >>= f) w = result (f (result act w)) (after act w) := rfl

@[simp] theorem after_bind (act : Action σ ν α) (f : α → Action σ ν β) :
    after (act >>= f) w = after (f (result act w)) (after act w) := rfl

@[simp] theorem result_map (f : α → β) (act : Action σ ν α) :
    result (f <$> act) w = f (result act w) := rfl

@[simp] theorem after_map (f : α → β) (act : Action σ ν α) :
    after (f <$> act) w = after act w := rfl

@[simp] theorem result_get : result get w = w := rfl

@[simp] theorem after_get : after get w = w := rfl

@[simp] theorem after_set (v : World σ ν) : after (set v) w = v := rfl

@[simp] theorem after_modify (f : World σ ν → World σ ν) : after (modify f) w = f w := rfl

@[simp] theorem result_current : result current w = w.current := rfl

@[simp] theorem after_current : after current w = w := rfl

@[simp] theorem after_log (level : Level) (message : String) (fields : List Attr) :
    after (log level message fields) w = w.log level message fields := rfl

@[simp] theorem after_note (n : ν) : after (note n) w = w.write (.noted n) := rfl

@[simp] theorem result_within (context : Context) (act : Action σ ν α) :
    result (within context act) w = result act (w.attach context) := rfl

@[simp] theorem after_within (context : Context) (act : Action σ ν α) :
    after (within context act) w = (after act (w.attach context)).detach := rfl

@[simp] theorem result_startIn (m : Manager) (context : Context) (name : String) (mode : Mode) :
    result (m.startIn context name mode) w =
      { context with
        span := (w.startSpan m.provider .tracing name context.span).1, active := some mode } := rfl

@[simp] theorem after_startIn (m : Manager) (context : Context) (name : String) (mode : Mode) :
    after (m.startIn context name mode) w =
      (w.startSpan m.provider .tracing name context.span).2 := rfl

@[simp] theorem Manager.result_noteFailure (span : SpanRef) (given : Except String α) :
    result (noteFailure span given) w = given := by
  cases given <;> rfl

end Runs

/-! ## What operations on worlds leave alone -/

@[simp] theorem SpanRecord.attrs_fail (r : SpanRecord) (description : String) :
    (r.fail description).attrs = r.attrs := by
  unfold SpanRecord.fail
  split
  · rfl
  · split <;> rfl

namespace World

variable (w : World σ ν)

section Attach

variable (context : Context)

@[simp] theorem spans_attach : (w.attach context).spans = w.spans := rfl

@[simp] theorem contexts_attach : (w.attach context).contexts = context :: w.contexts := rfl

@[simp] theorem current_attach : (w.attach context).current = context := rfl

@[simp] theorem program_attach : (w.attach context).program = w.program := rfl

@[simp] theorem journal_attach : (w.attach context).journal = w.journal := rfl

@[simp] theorem clock_attach : (w.attach context).clock = w.clock := rfl

@[simp] theorem spans_detach : w.detach.spans = w.spans := rfl

@[simp] theorem contexts_detach : w.detach.contexts = w.contexts.tail := rfl

@[simp] theorem program_detach : w.detach.program = w.program := rfl

@[simp] theorem journal_detach : w.detach.journal = w.journal := rfl

@[simp] theorem clock_detach : w.detach.clock = w.clock := rfl

end Attach

section Write

variable (entry : Entry ν)

@[simp] theorem spans_write : (w.write entry).spans = w.spans := rfl

@[simp] theorem contexts_write : (w.write entry).contexts = w.contexts := rfl

@[simp] theorem program_write : (w.write entry).program = w.program := rfl

@[simp] theorem journal_write : (w.write entry).journal = w.journal ++ [entry] := rfl

@[simp] theorem clock_write : (w.write entry).clock = w.clock := rfl

end Write

section Log

variable (level : Level) (message : String) (fields : List Attr)

@[simp] theorem spans_log : (w.log level message fields).spans = w.spans := by
  unfold World.log; split <;> rfl

@[simp] theorem contexts_log : (w.log level message fields).contexts = w.contexts := by
  unfold World.log; split <;> rfl

@[simp] theorem program_log : (w.log level message fields).program = w.program := by
  unfold World.log; split <;> rfl

@[simp] theorem clock_log : (w.log level message fields).clock = w.clock := by
  unfold World.log; split <;> rfl

/-- A log event adds nothing to the journal but itself. -/
theorem journal_log : (w.log level message fields).journal = w.journal ∨
    (w.log level message fields).journal = w.journal ++ [.logged level message fields] := by
  unfold World.log; split
  · exact .inr rfl
  · exact .inl rfl

end Log

section Amend

variable (span : SpanRef)

@[simp] theorem contexts_amend (f : SpanRecord → SpanRecord) :
    (w.amend span f).contexts = w.contexts := by
  unfold World.amend; split <;> rfl

@[simp] theorem program_amend (f : SpanRecord → SpanRecord) :
    (w.amend span f).program = w.program := by
  unfold World.amend; split <;> rfl

@[simp] theorem journal_amend (f : SpanRecord → SpanRecord) :
    (w.amend span f).journal = w.journal := by
  unfold World.amend; split <;> rfl

@[simp] theorem clock_amend (f : SpanRecord → SpanRecord) :
    (w.amend span f).clock = w.clock := by
  unfold World.amend; split <;> rfl

/-- Only the span itself is amended, and only as long as it is open. -/
theorem getElem?_spans_amend (f : SpanRecord → SpanRecord) (n : Nat) :
    (w.amend span f).spans[n]? =
      (w.spans[n]?).map fun r => if span.record = some n ∧ r.ended = false then f r else r := by
  unfold World.amend
  cases hrecord : span.record with
  | none => simp
  | some number =>
    rw [List.getElem?_modify]
    cases w.spans[n]? with
    | none => rfl
    | some r => by_cases hn : number = n <;> cases hended : r.ended <;> simp [hn, hended]

theorem length_spans_amend (f : SpanRecord → SpanRecord) :
    (w.amend span f).spans.length = w.spans.length := by
  unfold World.amend; split <;> simp

theorem length_spans_finish : (w.finish span).spans.length = w.spans.length := by
  unfold World.finish
  split
  · rw [spans_write, length_spans_amend]
  · rfl

theorem getElem?_spans_amend_of_ne {n : Nat} (h : span.record ≠ some n)
    (f : SpanRecord → SpanRecord) : (w.amend span f).spans[n]? = w.spans[n]? := by
  rw [getElem?_spans_amend]
  simp [h]

theorem getElem?_spans_finish_of_ne {n : Nat} (h : span.record ≠ some n) :
    (w.finish span).spans[n]? = w.spans[n]? := by
  unfold World.finish
  split
  · rw [spans_write, getElem?_spans_amend_of_ne w span h]
  · rfl

@[simp] theorem contexts_annotate (attrs : List Attr) :
    (w.annotate span attrs).contexts = w.contexts := contexts_amend ..

@[simp] theorem program_annotate (attrs : List Attr) :
    (w.annotate span attrs).program = w.program := program_amend ..

@[simp] theorem journal_annotate (attrs : List Attr) :
    (w.annotate span attrs).journal = w.journal := journal_amend ..

@[simp] theorem contexts_fail (description : String) :
    (w.fail span description).contexts = w.contexts := contexts_amend ..

@[simp] theorem program_fail (description : String) :
    (w.fail span description).program = w.program := program_amend ..

@[simp] theorem journal_fail (description : String) :
    (w.fail span description).journal = w.journal := journal_amend ..

@[simp] theorem contexts_finish : (w.finish span).contexts = w.contexts := by
  unfold World.finish; split <;> simp

@[simp] theorem program_finish : (w.finish span).program = w.program := by
  unfold World.finish; split <;> simp

@[simp] theorem clock_finish : (w.finish span).clock = w.clock := by
  unfold World.finish; split <;> simp

end Amend

section Start

variable (provider : Provider) (scope : Scope) (name : String) (parent : SpanRef)

@[simp] theorem contexts_startSpan :
    (w.startSpan provider scope name parent).2.contexts = w.contexts := by
  cases provider <;> rfl

@[simp] theorem program_startSpan :
    (w.startSpan provider scope name parent).2.program = w.program := by
  cases provider <;> rfl

@[simp] theorem clock_startSpan :
    (w.startSpan provider scope name parent).2.clock = w.clock := by
  cases provider <;> rfl

theorem length_spans_startSpan :
    w.spans.length ≤ (w.startSpan provider scope name parent).2.spans.length := by
  cases provider <;> simp [startSpan]

theorem getElem?_spans_startSpan {n : Nat} (h : n < w.spans.length) :
    (w.startSpan provider scope name parent).2.spans[n]? = w.spans[n]? := by
  cases provider with
  | recording => exact List.getElem?_append_left h
  | unsampled => rfl
  | inert => rfl

/-- A span that is recorded gets the next number. -/
theorem record_startSpan {n : Nat}
    (h : (w.startSpan provider scope name parent).1.record = some n) :
    n = w.spans.length ∧ n < (w.startSpan provider scope name parent).2.spans.length := by
  cases provider with
  | recording =>
    obtain rfl : w.spans.length = n := by simpa [startSpan] using h
    exact ⟨rfl, by simp [startSpan]⟩
  | unsampled => simp [startSpan] at h
  | inert => simp [startSpan] at h

end Start

end World

end QueryTrace
