import QueryTrace.Span.Journal

/-!
# Recorded spans, the stack of contexts, and actions

A world holds the spans recorded so far, the stack of contexts, a clock, the journal, and the state
`σ` of the program that is traced. The tracing layers never look at that state; they only run
actions of the program.

A span that has ended is fixed: it takes no attribute and no failure, and a second end does nothing.
Of several failures of a span the greatest description stays. Limits that a provider may put on the
attributes of a span, on how many there are or how long they are, are not modelled.

The clock counts the milliseconds that the program waits. Between two readings some time passes even
when nothing waits, so a call takes strictly longer than the clock shows.
-/

namespace QueryTrace

/-- What is recorded of a span: every attribute that was set. -/
structure SpanRecord where
  name : String
  /-- Who asked for it. -/
  scope : Scope
  /-- All attributes that were set, in order and with repeats. -/
  attrs : List Attr := []
  /-- The description of the failure. -/
  failure : Option String := none
  /-- The span has ended. -/
  ended : Bool := false
  deriving DecidableEq, Repr

/-- A description takes the place of a smaller one. -/
def SpanRecord.fail (span : SpanRecord) (description : String) : SpanRecord :=
  match span.failure with
  | none => { span with failure := some description }
  | some old => if old < description then { span with failure := some description } else span

/-- The state of everything: what is traced, and the program with state `σ` and notes `ν`. -/
structure World (σ ν : Type) where
  /-- The recorded spans, by their numbers. -/
  spans : List SpanRecord := []
  /-- The contexts that are attached, the current one first. -/
  contexts : List Context := []
  /-- The time in milliseconds. -/
  clock : Nat := 0
  /-- Log events are kept. -/
  logging : Bool := false
  /-- What happened so far. -/
  journal : List (Entry ν) := []
  /-- The state of the program. -/
  program : σ

namespace World

variable {σ ν : Type}

/-- The current context, the empty one at the bottom of the stack. -/
def current (w : World σ ν) : Context :=
  w.contexts.headD {}

def write (w : World σ ν) (entry : Entry ν) : World σ ν :=
  { w with journal := w.journal ++ [entry] }

/-- A world with a log event, if log events are kept. -/
def log (w : World σ ν) (level : Level) (message : String) (fields : List Attr) : World σ ν :=
  if w.logging then w.write (.logged level message fields) else w

/-- The record of a span that has not ended. -/
def openRecord? (w : World σ ν) (span : SpanRef) : Option SpanRecord :=
  match span.record with
  | none => none
  | some number => (w.spans[number]?).filter (!·.ended)

/-- A span takes attributes and failures: it is recorded, and has not ended. -/
def isRecording (w : World σ ν) (span : SpanRef) : Bool :=
  (w.openRecord? span).isSome

/-- A change of a span's record, if it is recording. -/
def amend (w : World σ ν) (span : SpanRef) (f : SpanRecord → SpanRecord) : World σ ν :=
  match span.record with
  | none => w
  | some number =>
    { w with spans := w.spans.modify number fun r => if r.ended then r else f r }

def annotate (w : World σ ν) (span : SpanRef) (attrs : List Attr) : World σ ν :=
  w.amend span fun r => { r with attrs := r.attrs ++ attrs }

def fail (w : World σ ν) (span : SpanRef) (description : String) : World σ ν :=
  w.amend span (·.fail description)

def finish (w : World σ ν) (span : SpanRef) : World σ ν :=
  match span.record, w.openRecord? span with
  | some number, some r =>
    (w.amend span fun r => { r with ended := true }).write
      (.ended number r.name r.attrs r.failure)
  | _, _ => w

/-- A new span of a provider, as a child of the given one. -/
def startSpan (w : World σ ν) (provider : Provider) (scope : Scope) (name : String)
    (parent : SpanRef) : SpanRef × World σ ν :=
  match provider with
  | .recording =>
    let number := w.spans.length
    let span : SpanRecord := { name, scope }
    (⟨some (.recorded number), some number⟩,
      World.write { w with spans := w.spans ++ [span] }
        (.started number name parent.identity scope))
  | .unsampled => (⟨some .unrecorded, none⟩, w)
  | .inert => (⟨parent.identity, none⟩, w)

end World

/-- Something that a program does. -/
abbrev Action (σ ν α : Type) := StateM (World σ ν) α

variable {σ ν α : Type}

def current : Action σ ν Context := do
  return (← get).current

def log (level : Level) (message : String) (fields : List Attr := []) : Action σ ν Unit :=
  modify (·.log level message fields)

def note (n : ν) : Action σ ν Unit :=
  modify (·.write (.noted n))

/-- An action in a context: the context is attached before, and detached after. -/
def within (context : Context) (act : Action σ ν α) : Action σ ν α := do
  modify fun w => { w with contexts := context :: w.contexts }
  let result ← act
  modify fun w => { w with contexts := w.contexts.tail }
  return result

end QueryTrace
