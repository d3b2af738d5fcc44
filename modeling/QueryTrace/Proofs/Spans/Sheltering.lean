import QueryTrace.Proofs.Chains.Runs
import QueryTrace.Proofs.Rows.Calls

/-!
# In the shelter of a stream

A fetch from a stream whose iteration is not over is made with the span of the iteration current,
wherever the fetch comes from; so is a close once the span is open. What is done below then cannot
reach the span that was current around the call. The layer itself touches no span but its own, and
leaves all spans alone that have ended.
-/

namespace QueryTrace

namespace RowsLayer

/-! ## Sparing another span -/

section Spares

variable {σ ν κ : Type} {k : Watch σ ν} {c : Context} {layer : RowsLayer}

/-- A fetch from a stream whose iteration has not ended finds the span of the layer open. -/
theorem ensureStarted_opens (hlayer : layer.span.Apart k.number)
    (hstate : layer.span.state ≠ .closed) :
    Spares k c (layer.ensureStarted : Action σ ν RowsLayer) blameless fun l =>
      l.span.Apart k.number ∧ ∃ context name, l.span.state = .active context name := by
  cases hstart : layer.span.state with
  | closed => exact absurd hstart hstate
  | active context name =>
    rw [ensureStarted_of_active hstart]
    exact .pure ⟨hlayer, context, name, hstart⟩
  | idle =>
    unfold ensureStarted Deferred.start
    simp only [hstart, bind_assoc]
    refine .bind (.log ..) fun _ _ => .bind_current <| .bind (.startIn ..) fun inner hinner => ?_
    refine .pure ⟨fun context name hactive => ?_, inner, _, rfl⟩
    cases hactive
    exact hinner.1

theorem settleRow_spares (hlayer : layer.span.Apart k.number)
    (row : Except String (Option Value)) :
    Spares k c (layer.settleRow row : Action σ ν RowsLayer) blameless
      fun l => l.Apart k.number := by
  match row with
  | .ok (some _) => exact .pure fun _ => hlayer
  | .ok none => exact .bind (.log ..) fun _ _ => finish_spares fun _ => hlayer
  | .error message =>
    exact .bind (Deferred.noteError_spares hlayer message) fun _ _ => finish_spares fun _ => hlayer

theorem settleClose_spares (hlayer : layer.span.Apart k.number) (closed : Except String Unit) :
    Spares k c (layer.settleClose closed : Action σ ν RowsLayer) blameless
      fun l => l.Apart k.number := by
  match closed with
  | .ok _ => exact finish_spares fun _ => hlayer
  | .error message =>
    exact .bind (Deferred.noteError_spares hlayer message) fun _ _ => finish_spares fun _ => hlayer

/-- A fetch from a stream that is fetched for the first time, or whose span is open, is made with
this span current, wherever the fetch comes from. -/
theorem next_spares_of_sheltered (hlayer : layer.span.Apart k.number)
    (hfinished : layer.finished = false) (hstate : layer.span.state ≠ .closed)
    {fetch : Action σ ν (Except String (Option Value) × κ)}
    (h : ∀ c', k.Tame c' → Spares k c' fetch blameless fun _ => True) :
    Spares k c (layer.next fetch) blameless fun x => x.2.Apart k.number := by
  rw [next_of_unfinished hfinished]
  refine .bind (ensureStarted_opens hlayer hstate) fun l ⟨hl, context, name, hactive⟩ => ?_
  simp only [Deferred.inScope, hactive]
  refine .bind (.within (h context (absurd · (hl context name hactive)))) fun out _ => ?_
  exact .bind (settleRow_spares hl out.1) fun _ hsettled => .pure hsettled

theorem close_spares_of_sheltered (hlayer : layer.span.Apart k.number)
    (hfinished : layer.finished = false) {context : Context} {name : String}
    (hactive : layer.span.state = .active context name)
    {inner : Action σ ν (Except String Unit × κ)}
    (h : ∀ c', k.Tame c' → Spares k c' inner blameless fun _ => True) :
    Spares k c (layer.close inner) blameless fun x => x.2.Apart k.number := by
  rw [close_of_unfinished hfinished]
  simp only [Deferred.inScope, hactive]
  refine .bind (.within (h context (absurd · (hlayer context name hactive)))) fun out _ => ?_
  exact .bind (settleClose_spares hlayer out.1) fun _ hsettled => .pure hsettled

end Spares

/-! ## Keeping what has ended -/

section Keeps

variable {σ ν : Type} (layer : RowsLayer) (w : World σ ν)

theorem keepsEnded_finish : w.KeepsEnded (after layer.finish w) := by
  have hnote : w.KeepsEnded (after (layer.span.noteRows layer.rows) w) := by
    unfold Deferred.noteRows
    split
    · split
      · exact w.keepsEnded_amend _ _
      · exact .of_spans rfl
    · exact .of_spans rfl
  have hstop (v : World σ ν) : v.KeepsEnded (after (layer.span.stop layer.calls) v) := by
    unfold Deferred.stop
    split
    · next context name _ =>
      have hlog : v.KeepsEnded (v.log .debug "ending deferred span" [("span", .text name)]) :=
        .of_spans (v.spans_log ..)
      exact hlog.trans ((World.keepsEnded_amend _ _ _).trans (World.keepsEnded_finish _ _))
    · exact .of_spans rfl
  unfold finish
  split
  · exact .of_spans rfl
  · exact hnote.trans (hstop _)

theorem keepsEnded_noteError (d : Deferred) (message : String) :
    w.KeepsEnded (after (d.noteError message) w) := by
  unfold Deferred.noteError
  split
  · next context name _ =>
    have hlog : w.KeepsEnded (w.log .error "RethinkDB query failed"
        [("span", .text name), ("error", .text message)]) := .of_spans (w.spans_log ..)
    exact hlog.trans (World.keepsEnded_amend _ _ _)
  · exact .of_spans rfl

theorem keepsEnded_settleRow (row : Except String (Option Value)) :
    w.KeepsEnded (after (layer.settleRow row) w) := by
  match row with
  | .ok (some _) => exact .of_spans rfl
  | .ok none =>
    have hlog : w.KeepsEnded (w.log .debug "cursor exhausted" [("rows", .int layer.rows.toNat)]) :=
      .of_spans (w.spans_log ..)
    exact hlog.trans (layer.keepsEnded_finish _)
  | .error message =>
    exact (keepsEnded_noteError w layer.span message).trans (layer.keepsEnded_finish _)

theorem keepsEnded_settleClose (closed : Except String Unit) :
    w.KeepsEnded (after (layer.settleClose closed) w) := by
  match closed with
  | .ok _ => exact layer.keepsEnded_finish w
  | .error message =>
    exact (keepsEnded_noteError w layer.span message).trans (layer.keepsEnded_finish _)

end Keeps

end RowsLayer

end QueryTrace
