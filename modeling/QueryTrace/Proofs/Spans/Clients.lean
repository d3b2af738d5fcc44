import QueryTrace.Proofs.Spans.Sparing

/-!
# Programs of tracing operations

A client is a program that is built from the tracing operations: traced calls of any manager,
requests through layers, spans of the application, deferred spans and streams, each with a client
as what it is put around. It looks at the world before every step and goes on by what it sees, and
it ends no span but through these operations.

When an operation fails that is attributed to the span of a query, the run blames the span. Every
client spares a span that it does not hold, as long as the span is current only for a chain
(`run_spares`).
-/

namespace QueryTrace

variable {σ ν α : Type}

/-- What a client holds and others cannot see: a deferred span or a traced stream. -/
inductive Handle where
  | span (d : Deferred)
  | rows (layer : RowsLayer)

def Handle.deferred : Handle → Deferred
  | .span d => d
  | .rows layer => layer.span

/-- What is held, by slots. A slot is empty when its handle is in use or has been given up. -/
abbrev Handles := List (Option Handle)

def Handles.at? (hs : Handles) (slot : Nat) : Option Handle :=
  hs[slot]?.join

/-- An operation that was attributed to this span has failed. -/
structure Blame where
  span : SpanRef

/-- What can be done with a deferred span at once. -/
inductive SpanUse where
  | start (chain : Chain)
  | noteError (message : String)
  | noteRows (rows : UInt64)
  | stop (chain : Chain)

def SpanUse.apply (d : Deferred) : SpanUse → Action σ ν Deferred
  | .start chain => do return (← d.start chain).2
  | .noteError message => do
    d.noteError message
    return d
  | .noteRows rows => do
    d.noteRows rows
    return d
  | .stop chain => do return (← d.stop chain).1

/-- A program of tracing operations. -/
inductive Client : Type → Type 1 where
  | done {α : Type} (a : α) : Client α
  | look {α : Type} (next : World Handles Blame → Client α) : Client α
  | wait {α : Type} (ms : Nat) (next : Client α) : Client α
  /-- A call in the span of its query. -/
  | trace {α β : Type} (m : Manager) (source : Source) (role : Role)
    (callee : Client (Except String α)) (next : Except String α × Source → Client β) : Client β
  /-- A request through layers, and what the server does about it. -/
  | send {α : Type} (layers : List Layer) (request : Request) (noreply : Bool)
    (server : Client (Except String Response)) (next : Except String Response → Client α) : Client α
  /-- The current span is described. -/
  | describe {α : Type} (m : Manager) (source : Source) (next : Source → Client α) : Client α
  /-- A span of the application. -/
  | ambient {α β : Type} (provider : Provider) (name : String) (body : Client α)
    (next : α → Client β) : Client β
  /-- The empty context. -/
  | detached {α β : Type} (body : Client α) (next : α → Client β) : Client β
  /-- A new deferred span, or a stream that is traced from now on. -/
  | keep {α : Type} (h : Handle) (idle : h.deferred.state = .idle) (next : Nat → Client α) :
    Client α
  | use {α : Type} (slot : Nat) (u : SpanUse) (next : Client α) : Client α
  | inScope {α β : Type} (slot : Nat) (body : Client α) (next : α → Client β) : Client β
  | fetch {α : Type} (slot : Nat) (below : Client (Except String (Option Value)))
    (next : Except String (Option Value) → Client α) : Client α
  | close {α : Type} (slot : Nat) (below : Client (Except String Unit))
    (next : Except String Unit → Client α) : Client α
  | giveUp {α : Type} (slot : Nat) (next : Client α) : Client α

/-- Blames the span that an action is attributed to when the action fails. -/
def blaming (span? : Option SpanRef) (failed : α → Bool) (act : Action σ Blame α) :
    Action σ Blame α := do
  let a ← act
  match span? with
  | some span => if failed a then note ⟨span⟩
  | none => pure ()
  return a

def hasFailed (result : Except String α) : Bool :=
  match result with
  | .error _ => true
  | .ok _ => false

/-- A call with nothing left beside its result. -/
def alone (act : Action σ ν α) : Action σ ν (α × Unit) := do
  return (← act, ())

def changeHandles (f : Handles → Handles) : Action Handles Blame Unit :=
  modify fun w => { w with program := f w.program }

/-! What is done with the handle in a slot. Where the handle is missing, or is one of the other
kind, the call is made all the same, and nothing else is done. -/

section Slots

variable (slot : Nat)

def useSlot (u : SpanUse) : Action Handles Blame Unit := do
  match (← get).program.at? slot with
  | some (.span d) =>
    let d ← u.apply d
    changeHandles (·.set slot (some (.span d)))
  | _ => pure ()

def scopeSlot (act : Action Handles Blame α) : Action Handles Blame α := do
  match (← get).program.at? slot with
  | some (.span d) => d.inScope act
  | _ => act

def fetchSlot (fetch : Action Handles Blame (Except String (Option Value))) :
    Action Handles Blame (Except String (Option Value)) := do
  match (← get).program.at? slot with
  | some (.rows layer) =>
    changeHandles (·.set slot none)
    let (out, layer) ← layer.next (alone fetch)
    changeHandles (·.set slot (some (.rows layer)))
    return out.1
  | _ => fetch

def closeSlot (inner : Action Handles Blame (Except String Unit)) :
    Action Handles Blame (Except String Unit) := do
  match (← get).program.at? slot with
  | some (.rows layer) =>
    changeHandles (·.set slot none)
    let (out, layer) ← layer.close (alone inner)
    changeHandles (·.set slot (some (.rows layer)))
    return out.1
  | _ => inner

def emptySlot : Action Handles Blame Unit := do
  let handle? := (← get).program.at? slot
  changeHandles (·.set slot none)
  match handle? with
  | some (.span d) => d.abandon
  | some (.rows layer) => layer.drop
  | none => pure ()

end Slots

namespace Client

/-- Carries a client out. -/
def run {α : Type} : Client α → Action Handles Blame α
  | .done a => return a
  | .look next => do (next (← get)).run
  | .wait ms next => do
    modify fun w => { w with clock := w.clock + ms }
    next.run
  | .trace m source role callee next => do
    let span? := Manager.attributed? (← current) source role
    let x ← blaming span? (hasFailed ·.1) (m.trace source role callee.run)
    (next x).run
  | .send layers request noreply server next => do
    let span? := Layer.attributed? layers (← current) request
    let response ← blaming span? hasFailed
      (Layer.sendThrough layers (fun _ _ => server.run) request noreply)
    (next response).run
  | .describe m source next => do
    let context ← current
    let source ← m.describe context.span source
    (next source).run
  | .ambient provider name body next => do
    let context ← current
    let (span, w) := (← get).startSpan provider .application name context.span
    set w
    let a ← within { context with span } body.run
    modify (·.finish span)
    (next a).run
  | .detached body next => do
    let a ← within {} body.run
    (next a).run
  | .keep h _ next => do
    let slot := (← get).program.length
    changeHandles (· ++ [some h])
    (next slot).run
  | .use slot u next => do
    useSlot slot u
    next.run
  | .inScope slot body next => do
    let a ← scopeSlot slot body.run
    (next a).run
  | .fetch slot below next => do
    let row ← fetchSlot slot below.run
    (next row).run
  | .close slot below next => do
    let result ← closeSlot slot below.run
    (next result).run
  | .giveUp slot next => do
    emptySlot slot
    next.run

end Client

/-! ## Clients spare spans -/

/-- What the handle has open, if anything, is another span. -/
def Handle.Apart (n : Nat) : Handle → Prop
  | .span d => d.Apart n
  | .rows layer => layer.Apart n

/-- No handle has the span with this number open. -/
def Handles.Clear (n : Nat) (hs : Handles) : Prop :=
  ∀ h, some h ∈ hs → h.Apart n

/-- The span with this number is watched while clients run. -/
def watch (n : Nat) : Watch Handles Blame :=
  ⟨n, Handles.Clear n, fun blame => blame.span.record = some n⟩

section Handles

variable {n : Nat} {hs : Handles}

theorem Handles.Clear.at? (h : hs.Clear n) {slot : Nat} {handle : Handle}
    (hat : hs.at? slot = some handle) : handle.Apart n := by
  refine h handle ?_
  rw [Handles.at?, Option.join_eq_some_iff] at hat
  exact List.mem_of_getElem? hat

theorem Handles.Clear.set (h : hs.Clear n) (slot : Nat) {handle? : Option Handle}
    (hhandle : ∀ handle ∈ handle?, handle.Apart n) :
    Handles.Clear n (hs.set slot handle?) := by
  intro handle hmem
  rcases List.mem_or_eq_of_mem_set hmem with hmem | hmem
  · exact h handle hmem
  · exact hhandle handle hmem.symm

theorem Handles.Clear.append (h : hs.Clear n) {handle : Handle}
    (hhandle : handle.Apart n) : Handles.Clear n (hs ++ [some handle]) := by
  intro handle' hmem
  rcases List.mem_append.mp hmem with hmem | hmem
  · exact h handle' hmem
  · obtain rfl := Option.some.inj (List.mem_singleton.mp hmem)
    exact hhandle

theorem Handle.apart_of_idle {handle : Handle} (h : handle.deferred.state = .idle) :
    handle.Apart n := by
  have hidle : handle.deferred.Apart n := by
    intro context name hactive
    rw [h] at hactive
    cases hactive
  cases handle with
  | span d => exact hidle
  | rows layer => exact fun _ => hidle

end Handles

section Spares

variable {n : Nat} {c : Context} {d : Deferred}

theorem changeHandles_spares {f : Handles → Handles}
    (h : ∀ hs : Handles, hs.Clear n → (f hs).Clear n) :
    Spares (watch n) c (changeHandles f) blameless fun _ => True :=
  ⟨fun _ _ hopen => ⟨hopen.spared_of_same rfl (h _ hopen.clear) rfl (List.append_nil _).symm
    (by simp), trivial⟩⟩

theorem SpanUse.apply_spares {k : Watch σ ν} (hd : d.Apart k.number) (u : SpanUse) :
    Spares k c (u.apply d : Action σ ν Deferred) blameless fun d' => d'.Apart k.number := by
  cases u with
  | start chain => exact .bind (Deferred.start_spares hd chain) fun _ hd' => .pure hd'
  | noteError message => exact .bind (Deferred.noteError_spares hd message) fun _ _ => .pure hd
  | noteRows rows => exact .bind (Deferred.noteRows_spares hd rows) fun _ _ => .pure hd
  | stop chain => exact .bind (Deferred.stop_spares hd chain) fun _ hd' => .pure hd'

/-- Who is to be blamed is blamed. -/
theorem blaming_spares {span? : Option SpanRef} {failed : α → Bool}
    {act : Action Handles Blame α} {blamable : α → Prop} {Q : α → Prop}
    (h : Spares (watch n) c act blamable Q) (hblame : ∀ a, blamable a →
      (∃ span, span? = some span ∧ span.record = some n) ∧ failed a = true) :
    Spares (watch n) c (blaming span? failed act) blameless Q := by
  refine ⟨fun w hw hopen => ?_⟩
  obtain ⟨hspared, hQ⟩ := h.spares w hw hopen
  have hblame := hblame (result act w)
  unfold blaming
  cases span? with
  | none => exact ⟨hspared.mono fun hF => by simpa using (hblame hF).1, hQ⟩
  | some span =>
    cases hfailed : failed (result act w) with
    | false =>
      simp only [result_bind, after_bind, hfailed, Bool.false_eq_true, if_false]
      exact ⟨hspared.mono fun hF => by simp [hfailed] at hblame; exact hblame hF, hQ⟩
    | true =>
      simp only [result_bind, after_bind, hfailed, if_true]
      refine ⟨hspared.note fun hF => ?_, hQ⟩
      obtain ⟨span', hspan', hnumber⟩ := (hblame hF).1
      cases hspan'
      exact hnumber

/-! ### What is done with the handle in a slot -/

theorem takeSlot_spares (slot : Nat) :
    Spares (watch n) c (changeHandles (·.set slot none)) blameless fun _ => True :=
  changeHandles_spares fun _ hclear => hclear.set slot fun _ hmem => by cases hmem

theorem fillSlot_spares (slot : Nat) {handle : Handle} (h : handle.Apart n) :
    Spares (watch n) c (changeHandles (·.set slot (some handle))) blameless fun _ => True :=
  changeHandles_spares fun _ hclear => hclear.set slot fun _ hmem => Option.mem_some.mp hmem ▸ h

theorem useSlot_spares (slot : Nat) (u : SpanUse) :
    Spares (watch n) c (useSlot slot u) blameless fun _ => True := by
  refine .bind_get fun w _ hopen => ?_
  split
  · next d hat =>
    have hd : d.Apart n := hopen.clear.at? hat
    exact .bind (u.apply_spares (k := watch n) hd) fun d' hd' => fillSlot_spares slot hd'
  · exact .pure trivial

theorem scopeSlot_spares (hc : (watch n).Tame c) (slot : Nat) {act : Action Handles Blame α}
    (h : ∀ c', (watch n).Tame c' → Spares (watch n) c' act blameless fun _ => True) :
    Spares (watch n) c (scopeSlot slot act) blameless fun _ => True := by
  refine .bind_get fun w _ hopen => ?_
  split
  · next d hat => exact d.inScope_spares (hopen.clear.at? hat) hc h
  · exact h c hc

theorem fetchSlot_spares (hc : (watch n).Tame c) (slot : Nat)
    {fetch : Action Handles Blame (Except String (Option Value))}
    (h : ∀ c', (watch n).Tame c' → Spares (watch n) c' fetch blameless fun _ => True) :
    Spares (watch n) c (fetchSlot slot fetch) blameless fun _ => True := by
  refine .bind_get fun w _ hopen => ?_
  dsimp only
  split
  · next layer hat =>
    have hlayer : layer.Apart n := hopen.clear.at? hat
    refine .bind (takeSlot_spares slot) fun _ _ => ?_
    refine .bind (RowsLayer.next_spares (k := watch n) hlayer hc fun c' hc' =>
      .bind (h c' hc') fun _ _ => .pure trivial) fun out hlayer => ?_
    exact .bind (fillSlot_spares slot hlayer) fun _ _ => .pure trivial
  · exact h c hc

theorem closeSlot_spares (hc : (watch n).Tame c) (slot : Nat)
    {inner : Action Handles Blame (Except String Unit)}
    (h : ∀ c', (watch n).Tame c' → Spares (watch n) c' inner blameless fun _ => True) :
    Spares (watch n) c (closeSlot slot inner) blameless fun _ => True := by
  refine .bind_get fun w _ hopen => ?_
  dsimp only
  split
  · next layer hat =>
    have hlayer : layer.Apart n := hopen.clear.at? hat
    refine .bind (takeSlot_spares slot) fun _ _ => ?_
    refine .bind (RowsLayer.close_spares (k := watch n) hlayer hc fun c' hc' =>
      .bind (h c' hc') fun _ _ => .pure trivial) fun out hlayer => ?_
    exact .bind (fillSlot_spares slot hlayer) fun _ _ => .pure trivial
  · exact h c hc

theorem emptySlot_spares (slot : Nat) :
    Spares (watch n) c (emptySlot slot) blameless fun _ => True := by
  refine .bind_get fun w _ hopen => .bind (takeSlot_spares slot) fun _ _ => ?_
  split
  · next d hat => exact d.abandon_spares (hopen.clear.at? hat)
  · next layer hat => exact RowsLayer.drop_spares (hopen.clear.at? hat)
  · exact .pure trivial

theorem hasFailed_iff (result : Except String α) :
    hasFailed result = true ↔ ∃ message, result = .error message := by
  cases result <;> simp [hasFailed]

/-- A span of the application is another span, and leaves the mark of the context as it is. -/
theorem tame_of_record {span : SpanRef} (h : span.record ≠ some n) {active : Option Mode}
    {inRequest : Bool} : (watch n).Tame ⟨span, active, inRequest⟩ :=
  fun hspan => absurd hspan h

/-- Every client spares a span that it does not hold, wherever the span is current for nothing but a
chain. -/
theorem Client.run_spares (p : Client α) (hc : (watch n).Tame c) :
    Spares (watch n) c p.run blameless fun _ => True := by
  induction p generalizing c with
  | done a => exact .pure trivial
  | look next ih => exact .bind_get fun w _ _ => ih w hc
  | wait ms next ih =>
    refine .bind (Q := fun _ => True) ⟨fun w _ hopen => ?_⟩ fun _ _ => ih hc
    exact ⟨hopen.spared_of_same rfl hopen.clear rfl (List.append_nil _).symm (by simp), trivial⟩
  | trace m source role callee next ihCallee ih =>
    refine .bind_current <| .bind (blaming_spares (m.trace_spares source role hc
      fun c' _ hc' => ihCallee hc') fun x hx => ?_) fun x _ => ih x hc
    exact ⟨hx.1, (hasFailed_iff x.1).mpr hx.2⟩
  | send layers request noreply server next ihServer ih =>
    refine .bind_current <| .bind (blaming_spares (Layer.sendThrough_spares hc
      (fun c' hc' => ihServer hc') layers) fun r hr => ?_) fun r _ => ih r hc
    exact ⟨hr.1, (hasFailed_iff r).mpr hr.2⟩
  | describe m source next ih =>
    exact .bind_current <| .bind (m.describe_spares source) fun source _ => ih source hc
  | ambient provider name body next ihBody ih =>
    exact .bind_current <| .bind_startSpan fun span hspan =>
      .bind (.within (ihBody (tame_of_record hspan))) fun a _ =>
        .bind (.finish hspan) fun _ _ => ih a hc
  | detached body next ihBody ih =>
    exact .bind (.within (ihBody fun hspan => by cases hspan)) fun a _ => ih a hc
  | keep h idle next ih =>
    refine .bind_get fun w _ _ => .bind (changeHandles_spares fun hs hclear => ?_)
      fun _ _ => ih _ hc
    exact hclear.append (Handle.apart_of_idle idle)
  | use slot u next ih => exact .bind (useSlot_spares slot u) fun _ _ => ih hc
  | inScope slot body next ihBody ih =>
    exact .bind (scopeSlot_spares hc slot fun _ hc' => ihBody hc') fun a _ => ih a hc
  | fetch slot below next ihBelow ih =>
    exact .bind (fetchSlot_spares hc slot fun _ hc' => ihBelow hc') fun row _ => ih row hc
  | close slot below next ihBelow ih =>
    exact .bind (closeSlot_spares hc slot fun _ hc' => ihBelow hc') fun result _ => ih result hc
  | giveUp slot next ih => exact .bind (emptySlot_spares slot) fun _ _ => ih hc

end Spares

end QueryTrace
