import Mathlib.Algebra.Order.Group.Multiset
import Mathlib.Logic.Relation
import QueryTrace.Proofs.Worlds

/-!
# Moves

Whatever a session does to spans and contexts, it does by a few kinds of moves. Beside the world, a
move changes what is held: the contexts of the spans that somebody is going to end. A span that
starts is held from then on, by the call that started it or by a deferred span, and its holder lets
it go when it ends the span. Nothing else can end a span but the two moves on the current one: a
stale request span, and a span that the program ends by hand.

So an invariant of spans and contexts is proved once for every move, and holds after every run.
-/

namespace QueryTrace

variable {σ ν : Type}

/-- A span that somebody is going to end. -/
structure Hold where
  /-- Who asked for the span. -/
  scope : Scope
  /-- The context in which the span is current. -/
  context : Context

/-- What is held, and the world. -/
abbrev Situation (σ ν : Type) := Multiset Hold × World σ ν

/-- A context that may be attached: an empty one, the current one with the mark of a request, or the
context of a span that is held. -/
def Attachable (H : Multiset Hold) (current c : Context) : Prop :=
  c = {} ∨ c = { current with inRequest := true } ∨ ∃ h ∈ H, h.context = c

/-- A span that may get attributes and failures: one that a tracing layer holds, or the current one
if a query is active. Programs with free hands may describe any current span. -/
def Touchable (hands : Prop) (H : Multiset Hold) (current : Context) (span : SpanRef) : Prop :=
  (∃ h ∈ H, h.scope = .tracing ∧ h.context.span = span) ∨
    current.span = span ∧ (current.active ≠ none ∨ hands)

/-- The moves. A program has free hands if it may describe and end the current span by itself. -/
inductive Move (hands : Prop) : Situation σ ν → Situation σ ν → Prop
  | logged (H w) (level : Level) (message : String) (fields : List Attr) :
    Move hands (H, w) (H, w.log level message fields)
  | noted (H w) (n : ν) : Move hands (H, w) (H, w.write (.noted n))
  /-- The program changes its own state, and time passes. -/
  | worked (H w) (program : σ) (clock : Nat) : Move hands (H, w) (H, { w with program, clock })
  | attached (H w) (c : Context) : Attachable H w.current c → Move hands (H, w) (H, w.attach c)
  | detached (H w) : Move hands (H, w) (H, w.detach)
  /-- A span starts under the current one. A span of the application leaves the mark of the context
  as it is. -/
  | opened (H w) (provider : Provider) (scope : Scope) (name : String) (active : Option Mode) :
    (scope = .application → active = w.current.active) →
    Move hands (H, w)
      (⟨scope, { w.current with
          span := (w.startSpan provider scope name w.current.span).1, active }⟩ ::ₘ H,
        (w.startSpan provider scope name w.current.span).2)
  | annotated (H w) (span : SpanRef) (attrs : List Attr) : Touchable hands H w.current span →
    Move hands (H, w) (H, w.annotate span attrs)
  | failed (H w) (span : SpanRef) (description : String) : Touchable hands H w.current span →
    Move hands (H, w) (H, w.fail span description)
  /-- A span is ended by its holder. -/
  | closed (H w) (h : Hold) : Move hands (h ::ₘ H, w) (H, w.finish h.context.span)
  /-- The current span is ended: a stale request span, or any span by hand. -/
  | ended (H w) : w.current.active = some .request ∨ hands →
    Move hands (H, w) (H, w.finish w.current.span)

/-- Any number of moves. -/
abbrev Path (hands : Prop) : Situation σ ν → Situation σ ν → Prop :=
  Relation.ReflTransGen (Move hands)

/-- What every move keeps, every path keeps. -/
theorem Path.invariant {hands : Prop} {I : Situation σ ν → Prop}
    (hI : ∀ s t, Move hands s t → I s → I t) {s t : Situation σ ν} (h : Path hands s t)
    (hs : I s) : I t := by
  induction h with
  | refl => exact hs
  | tail _ hmove ih => exact hI _ _ hmove ih

/-- A span is started under the current one, and made current. -/
theorem Path.enter {hands : Prop} (H : Multiset Hold) (w : World σ ν) (provider : Provider)
    (scope : Scope) (name : String) {active : Option Mode}
    (hactive : scope = .application → active = w.current.active) :
    let started := w.startSpan provider scope name w.current.span
    let context : Context := { w.current with span := started.1, active }
    Path hands (H, w) (⟨scope, context⟩ ::ₘ H, started.2.attach context) := by
  intro started context
  have hopened : Move hands (H, w) (⟨scope, context⟩ ::ₘ H, started.2) :=
    .opened H w provider scope name active hactive
  have hattached : Move hands (⟨scope, context⟩ ::ₘ H, started.2)
      (⟨scope, context⟩ ::ₘ H, started.2.attach context) :=
    .attached _ _ context (.inr (.inr ⟨_, Multiset.mem_cons_self _ H, rfl⟩))
  exact (Relation.ReflTransGen.single hopened).tail hattached

end QueryTrace
