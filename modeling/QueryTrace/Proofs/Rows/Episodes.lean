import Mathlib.Data.List.TakeWhile
import QueryTrace.Layer.Rows
import QueryTrace.Proofs.Spans.Quiet

/-!
# Calls on a traced stream

A program fetches from a traced stream and closes it, as often and in whatever order it likes, does
other things in between, and gives the stream up in the end. What the layer itself does to spans is
told apart from what the stream below does: a probe around every inner call keeps the worlds at both
of its ends, so a call falls into the layer's own work before, the inner call, and the layer's own
work after (`Episode`).

How the calls went says where the layer stands (`Stands`) and what it may do (`Episode.Follows`):
the first call starts the span if it is a fetch, the first call that ends the iteration ends it, and
after that the layer does nothing at all.
-/

namespace QueryTrace

variable {σ ν κ α : Type}

/-! ## Runs on a stream -/

/-- How a call on a stream went. -/
inductive StreamCall where
  /-- No call on the stream: the program does something else. -/
  | elsewhere
  /-- A fetch that gave a row. -/
  | row
  /-- A fetch behind the last row. -/
  | exhausted
  /-- A fetch that failed. -/
  | failed
  /-- A close, whatever its result. -/
  | closed
  /-- The stream is given up. -/
  | dropped
  deriving DecidableEq, Repr

namespace StreamCall

/-- A fetch that gave this. -/
def ofRow : Except String (Option Value) → StreamCall
  | .ok (some _) => .row
  | .ok none => .exhausted
  | .error _ => .failed

def isFetch : StreamCall → Bool
  | .row | .exhausted | .failed => true
  | _ => false

/-- The iteration is over after this call, if it was not over before. -/
def isEnd : StreamCall → Bool
  | .elsewhere | .row => false
  | _ => true

theorem isFetch_ofRow (row : Except String (Option Value)) : (ofRow row).isFetch = true := by
  match row with
  | .ok (some _) => rfl
  | .ok none => rfl
  | .error _ => rfl

end StreamCall

/-- What a program does while it holds a stream. -/
inductive StreamUse (σ ν κ : Type) where
  | next (fetch : Action σ ν (Except String (Option Value) × κ))
  | close (inner : Action σ ν (Except String Unit × κ))
  | elsewhere (act : Action σ ν Unit)

/-- A call on a traced stream: how it went, and the worlds before it, at both ends of the inner
call, and after it. -/
structure Episode (σ ν : Type) where
  call : StreamCall
  asked : World σ ν
  inward : World σ ν
  back : World σ ν
  answered : World σ ν

/-- An inner call with the worlds at its ends in place of what is left of the stream. -/
def probed (act : Action σ ν (α × κ)) : Action σ ν (α × World σ ν × World σ ν) := do
  let inward ← get
  let (a, _) ← act
  return (a, inward, ← get)

namespace RowsLayer

def use (layer : RowsLayer) : StreamUse σ ν κ → Action σ ν (Episode σ ν × RowsLayer)
  | .next fetch => do
    let asked ← get
    let ((row, inward, back), layer) ← layer.next (probed fetch)
    return (⟨.ofRow row, asked, inward, back, ← get⟩, layer)
  | .close inner => do
    let asked ← get
    let ((_, inward, back), layer) ← layer.close (probed inner)
    return (⟨.closed, asked, inward, back, ← get⟩, layer)
  | .elsewhere act => do
    let asked ← get
    act
    let answered ← get
    return (⟨.elsewhere, asked, asked, answered, answered⟩, layer)

def play (layer : RowsLayer) :
    List (StreamUse σ ν κ) → Action σ ν (List (Episode σ ν) × RowsLayer)
  | [] => return ([], layer)
  | u :: uses => do
    let (episode, layer) ← layer.use u
    let (episodes, layer) ← layer.play uses
    return (episode :: episodes, layer)

/-- The last call on a layer. -/
def giveUp (layer : RowsLayer) : Action σ ν (Episode σ ν) := do
  let asked ← get
  layer.drop
  return ⟨.dropped, asked, asked, asked, ← get⟩

end RowsLayer

/-! ## What the calls say about the span -/

/-- The name of the span of an iteration. -/
def Manager.iterationName (m : Manager) : String :=
  m.config.spanName "/cursor/iter"

/-- The context of the span of an iteration that starts in the given world. -/
def Manager.iteration (m : Manager) (w : World σ ν) : Context :=
  { w.current with
    span := (w.startSpan m.provider .tracing m.iterationName w.current.span).1
    active := some .deferred }

section Calls

variable (m : Manager) (episodes : List (Episode σ ν))

/-- The first call on the stream. -/
def firstCall : Option (Episode σ ν) :=
  episodes.find? (·.call ≠ .elsewhere)

/-- The context that the first call opened, if that was a fetch. -/
def opened? : Option Context :=
  (firstCall episodes).bind fun e => if e.call.isFetch then some (m.iteration e.asked) else none

/-- Some call ended the iteration. -/
def isOver : Bool :=
  episodes.any (·.call.isEnd)

/-- The number of rows that were given before the iteration was over. -/
def rowsGiven : Nat :=
  (episodes.takeWhile (!·.call.isEnd)).countP (·.call = .row)

/-- Where the span stands: it is active from the first fetch to the end of the iteration. -/
def stateAfter : DeferredState :=
  match opened? m episodes with
  | none => .idle
  | some context => if isOver episodes then .closed else .active context m.iterationName

/-- Where a layer stands after these calls. -/
structure Stands (layer : RowsLayer) : Prop where
  manager : layer.span.manager = m
  state : layer.span.state = stateAfter m episodes
  finished : layer.finished = isOver episodes
  rows : layer.rows = .ofNat (rowsGiven episodes)
  fresh : firstCall episodes = none → layer.calls.path = "/cursor"

end Calls

/-! ## What a layer may do in a call -/

/-- What a layer itself does in a call, after the earlier ones. -/
structure Episode.Follows (m : Manager) (earlier : List (Episode σ ν)) (e : Episode σ ν) :
    Prop where
  /-- The first call starts the span if it is a fetch. -/
  starts : m.provider = .recording → firstCall earlier = none → e.call.isFetch = true →
    e.asked.Starts e.inward m.iterationName
  /-- No other call starts a span. -/
  startsNot : (m.provider ≠ .recording ∨ firstCall earlier ≠ none ∨ e.call.isFetch = false) →
    e.asked.Calm e.inward
  /-- The first call that ends the iteration ends the span. -/
  ends : ∀ c, opened? m (earlier ++ [e]) = some c → isOver earlier = false → e.call.isEnd = true →
    e.back.Closes e.answered c.span
  /-- A call that does not end the iteration ends no span. -/
  endsNot : e.call.isEnd = false → e.back.Calm e.answered
  /-- As long as the span is open, inner calls are made with it as the current one. -/
  inside : ∀ c, opened? m (earlier ++ [e]) = some c → isOver earlier = false →
    e.call.isFetch = true ∨ e.call = .closed → e.inward.contexts = c :: e.asked.contexts
  /-- Without an open span the inner call is made in the world of the caller, and its world is the
  one that the caller gets. -/
  outside : opened? m (earlier ++ [e]) = none ∨ isOver earlier = true →
    e.inward = e.asked ∧ e.answered = e.back

/-! ## What the calls say, call by call -/

section Calls

variable {m : Manager} {episodes : List (Episode σ ν)}

theorem firstCall_append (more : List (Episode σ ν)) :
    firstCall (episodes ++ more) = (firstCall episodes).or (firstCall more) :=
  List.find?_append

theorem isOver_concat (e : Episode σ ν) :
    isOver (episodes ++ [e]) = (isOver episodes || e.call.isEnd) := by
  simp [isOver]

theorem elsewhere_of_firstCall (h : firstCall episodes = none) {e : Episode σ ν}
    (he : e ∈ episodes) : e.call = .elsewhere := by
  simpa using List.find?_eq_none.mp h e he

/-- Before the first call the iteration is not over. -/
theorem isOver_of_firstCall (h : firstCall episodes = none) : isOver episodes = false := by
  refine List.any_eq_false.mpr fun e he => ?_
  rw [elsewhere_of_firstCall h he]
  decide

theorem opened?_of_firstCall (h : firstCall episodes = none) : opened? m episodes = none := by
  rw [opened?, h]
  rfl

/-- A first call that opens nothing ends the iteration. -/
theorem over_of_opened? {first : Episode σ ν} (h : firstCall episodes = some first)
    (hopened : opened? m episodes = none) : isOver episodes = true := by
  refine List.any_eq_true.mpr ⟨first, List.mem_of_find?_eq_some h, ?_⟩
  have hcall : first.call ≠ .elsewhere := by simpa using List.find?_some h
  have hfetch : first.call.isFetch = false := by simpa [opened?, h] using hopened
  cases hfirst : first.call <;> simp_all [StreamCall.isFetch, StreamCall.isEnd]

/-- What the first call opened stays opened. -/
theorem opened?_append {first : Episode σ ν} (h : firstCall episodes = some first)
    (more : List (Episode σ ν)) : opened? m (episodes ++ more) = opened? m episodes := by
  rw [opened?, opened?, firstCall_append, h]
  rfl

theorem exists_firstCall_of_opened? {c : Context} (h : opened? m episodes = some c) :
    ∃ first, firstCall episodes = some first := by
  cases hfirst : firstCall episodes with
  | none => simp [opened?_of_firstCall hfirst] at h
  | some first => exact ⟨first, rfl⟩

theorem exists_firstCall_of_over (h : isOver episodes = true) :
    ∃ first, firstCall episodes = some first := by
  cases hfirst : firstCall episodes with
  | none => simp [isOver_of_firstCall hfirst] at h
  | some first => exact ⟨first, rfl⟩

/-- A call that opens the span is the first one, and a fetch. -/
theorem first_of_opened? (h : firstCall episodes = none) {e : Episode σ ν} {c : Context}
    (hopened : opened? m (episodes ++ [e]) = some c) :
    e.call.isFetch = true ∧ m.iteration e.asked = c := by
  rw [opened?, firstCall_append, h, Option.none_or] at hopened
  by_cases hcall : e.call = .elsewhere
  · simp [firstCall, hcall] at hopened
  · cases hfetch : e.call.isFetch with
    | false => simp [firstCall, hcall, hfetch] at hopened
    | true => exact ⟨rfl, by simpa [firstCall, hcall, hfetch] using hopened⟩

/-- Rows that are given later do not count. -/
theorem rowsGiven_append_of_over (h : isOver episodes = true) (more : List (Episode σ ν)) :
    rowsGiven (episodes ++ more) = rowsGiven episodes := by
  obtain ⟨e, he, hend⟩ := List.any_eq_true.mp h
  have hstop : (episodes.takeWhile (!·.call.isEnd)).length ≠ episodes.length := by
    intro hlength
    have hall := List.takeWhile_eq_self_iff.mp
      ((List.takeWhile_sublist fun x : Episode σ ν => !x.call.isEnd).eq_of_length hlength)
    simpa [hend] using hall e he
  rw [rowsGiven, rowsGiven, List.takeWhile_append, if_neg hstop]

theorem rowsGiven_append (h : isOver episodes = false) (e : Episode σ ν) :
    rowsGiven (episodes ++ [e]) = rowsGiven episodes + if e.call = .row then 1 else 0 := by
  have hall : ∀ x ∈ episodes, (!x.call.isEnd) = true := by
    simpa [isOver] using h
  have hself : episodes.takeWhile (!·.call.isEnd) = episodes := List.takeWhile_eq_self_iff.mpr hall
  rw [rowsGiven, rowsGiven, List.takeWhile_append_of_pos hall, List.countP_append, hself]
  congr 1
  by_cases hrow : e.call = .row
  · simp [hrow, StreamCall.isEnd]
  · by_cases hend : e.call.isEnd = true <;> simp [hrow, hend]

/-- There was no call yet, or the span is open, or the iteration is over. -/
theorem calls_cases (m : Manager) (episodes : List (Episode σ ν)) :
    firstCall episodes = none ∨
    (∃ c, opened? m episodes = some c ∧ isOver episodes = false) ∨ isOver episodes = true := by
  cases hfirst : firstCall episodes with
  | none => exact .inl rfl
  | some first =>
    cases hover : isOver episodes with
    | true => exact .inr (.inr rfl)
    | false =>
      cases hopened : opened? m episodes with
      | none =>
        rw [over_of_opened? hfirst hopened] at hover
        cases hover
      | some c => exact .inr (.inl ⟨c, rfl, rfl⟩)

namespace Stands

variable {layer : RowsLayer} (h : Stands m episodes layer)
include h

theorem idle (hfirst : firstCall episodes = none) : layer.span.state = .idle := by
  rw [h.state, stateAfter, opened?_of_firstCall hfirst]

theorem active {c : Context} (hopened : opened? m episodes = some c)
    (hover : isOver episodes = false) : layer.span.state = .active c m.iterationName := by
  rw [h.state, stateAfter, hopened]
  simp [hover]

theorem unfinished (hover : isOver episodes = false) : layer.finished = false :=
  h.finished.trans hover

end Stands

end Calls

end QueryTrace
