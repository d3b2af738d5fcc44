import QueryTrace.Proofs.Chains.Labels
import QueryTrace.Proofs.Spans.Clients

/-!
# Clients and what spans say about calls

A client can describe the current span by hand, also as that of a chain. A client that does not is
discreet: it keeps the label of every span that it does not hold, whatever else it does.
-/

namespace QueryTrace

variable {α : Type} {n : Nat}

/-- Nowhere in the client is the current span described by hand as that of a chain. -/
def Client.Discreet {α : Type} : Client α → Prop
  | .done _ => True
  | .look next => ∀ w, (next w).Discreet
  | .wait _ next => next.Discreet
  | .trace _ _ _ callee next => callee.Discreet ∧ ∀ x, (next x).Discreet
  | .send _ _ _ server next => server.Discreet ∧ ∀ response, (next response).Discreet
  | .describe _ source next => source.mode = .request ∧ ∀ source, (next source).Discreet
  | .ambient _ _ body next => body.Discreet ∧ ∀ a, (next a).Discreet
  | .detached body next => body.Discreet ∧ ∀ a, (next a).Discreet
  | .keep _ _ next => ∀ slot, (next slot).Discreet
  | .use _ _ next => next.Discreet
  | .inScope _ body next => body.Discreet ∧ ∀ a, (next a).Discreet
  | .fetch _ below next => below.Discreet ∧ ∀ row, (next row).Discreet
  | .close _ below next => below.Discreet ∧ ∀ result, (next result).Discreet
  | .giveUp _ next => next.Discreet

/-- What keeps the label of the span with a number, if no handle has the span open. -/
abbrev KeepsLabelOf (n : Nat) (act : Action Handles Blame α) : Prop :=
  KeepsLabel n (Handles.Clear n) act fun _ => True

theorem changeHandles_keepsLabel {f : Handles → Handles}
    (h : ∀ hs : Handles, hs.Clear n → (f hs).Clear n) : KeepsLabelOf n (changeHandles f) :=
  ⟨fun _ w hlabel hclear => ⟨hlabel, h w.program hclear, trivial⟩⟩

theorem blaming_keepsLabel {span? : Option SpanRef} {failed : α → Bool}
    {act : Action Handles Blame α} (h : KeepsLabelOf n act) :
    KeepsLabelOf n (blaming span? failed act) := by
  refine .bind h fun a _ => ?_
  cases span? with
  | none => exact .pure trivial
  | some span =>
    dsimp only
    split
    · exact .bind (.note _) fun _ _ => .pure trivial
    · exact .pure trivial

theorem SpanUse.apply_keepsLabel {d : Deferred} (hd : d.Apart n) (u : SpanUse) :
    KeepsLabel n (Handles.Clear n) (u.apply d : Action Handles Blame Deferred)
      fun d' => d'.Apart n := by
  cases u with
  | start chain => exact .bind (Deferred.start_keepsLabel hd chain) fun _ hd' => .pure hd'
  | noteError message => exact .bind (d.noteError_keepsLabel message) fun _ _ => .pure hd
  | noteRows rows => exact .bind (d.noteRows_keepsLabel rows) fun _ _ => .pure hd
  | stop chain => exact .bind (Deferred.stop_keepsLabel hd chain) fun _ hd' => .pure hd'

/-! ## What is done with the handle in a slot -/

section Slots

variable (slot : Nat)

theorem takeSlot_keepsLabel : KeepsLabelOf n (changeHandles (·.set slot none)) :=
  changeHandles_keepsLabel fun _ hclear => hclear.set slot fun _ hmem => by cases hmem

theorem fillSlot_keepsLabel {handle : Handle} (h : handle.Apart n) :
    KeepsLabelOf n (changeHandles (·.set slot (some handle))) :=
  changeHandles_keepsLabel fun _ hclear =>
    hclear.set slot fun _ hmem => Option.mem_some.mp hmem ▸ h

theorem useSlot_keepsLabel (u : SpanUse) : KeepsLabelOf n (useSlot slot u) := by
  refine .bind_get fun w hclear => ?_
  split
  · next d hat =>
    have hd : d.Apart n := hclear.at? hat
    exact .bind (u.apply_keepsLabel hd) fun d' hd' => fillSlot_keepsLabel slot hd'
  · exact .pure trivial

theorem scopeSlot_keepsLabel {act : Action Handles Blame α} (h : KeepsLabelOf n act) :
    KeepsLabelOf n (scopeSlot slot act) := by
  refine .bind_get fun w _ => ?_
  split
  · next d hat => exact d.inScope_keepsLabel h
  · exact h

theorem fetchSlot_keepsLabel {fetch : Action Handles Blame (Except String (Option Value))}
    (h : KeepsLabelOf n fetch) : KeepsLabelOf n (fetchSlot slot fetch) := by
  refine .bind_get fun w hclear => ?_
  dsimp only
  split
  · next layer hat =>
    have hlayer : layer.Apart n := hclear.at? hat
    refine .bind (takeSlot_keepsLabel slot) fun _ _ => ?_
    refine .bind (RowsLayer.next_keepsLabel hlayer (.bind h fun _ _ => .pure trivial))
      fun out hlayer => ?_
    exact .bind (fillSlot_keepsLabel slot hlayer) fun _ _ => .pure trivial
  · exact h

theorem closeSlot_keepsLabel {inner : Action Handles Blame (Except String Unit)}
    (h : KeepsLabelOf n inner) : KeepsLabelOf n (closeSlot slot inner) := by
  refine .bind_get fun w hclear => ?_
  dsimp only
  split
  · next layer hat =>
    have hlayer : layer.Apart n := hclear.at? hat
    refine .bind (takeSlot_keepsLabel slot) fun _ _ => ?_
    refine .bind (RowsLayer.close_keepsLabel hlayer (.bind h fun _ _ => .pure trivial))
      fun out hlayer => ?_
    exact .bind (fillSlot_keepsLabel slot hlayer) fun _ _ => .pure trivial
  · exact h

theorem emptySlot_keepsLabel : KeepsLabelOf n (emptySlot slot) := by
  refine .bind_get fun w hclear => .bind (takeSlot_keepsLabel slot) fun _ _ => ?_
  split
  · next d hat => exact d.abandon_keepsLabel
  · next layer hat => exact RowsLayer.drop_keepsLabel (hclear.at? hat)
  · exact .pure trivial

end Slots

/-! ## Whole clients -/

/-- A discreet client keeps the label of every span that it does not hold, wherever the span is
current. -/
theorem Client.run_keepsLabel (p : Client α) (hp : p.Discreet) : KeepsLabelOf n p.run := by
  induction p with
  | done a => exact .pure trivial
  | look next ih => exact .bind_get fun w _ => ih w (hp w)
  | wait ms next ih =>
    exact .bind (.change (fun _ => rfl) fun _ _ => rfl) fun _ _ => ih hp
  | trace m source role callee next ihCallee ih =>
    exact .bind_current fun _ =>
      .bind (blaming_keepsLabel (Manager.trace_keepsLabel (ihCallee hp.1) m source role))
        fun x _ => ih x (hp.2 x)
  | send layers request noreply server next ihServer ih =>
    exact .bind_current fun _ =>
      .bind (blaming_keepsLabel (Layer.sendThrough_keepsLabel (ihServer hp.1) layers))
        fun response _ => ih response (hp.2 response)
  | describe m source next ih =>
    exact .bind_current fun _ => .bind (m.describe_keepsLabel (.inr hp.1)) fun source _ =>
      ih source (hp.2 source)
  | ambient provider name body next ihBody ih =>
    let work (context : Context) (span : SpanRef) : Action Handles Blame _ := do
      let a ← within { context with span } body.run
      modify (·.finish span)
      (next a).run
    have hwork (context : Context) (span : SpanRef) : KeepsLabelOf n (work context span) :=
      .bind (.within (ihBody hp.1)) fun a _ => .bind (.finish span) fun _ _ => ih a (hp.2 a)
    exact .bind_current fun context => .bind_startSpan (f := work context) fun span _ =>
      hwork context span
  | detached body next ihBody ih =>
    exact .bind (.within (ihBody hp.1)) fun a _ => ih a (hp.2 a)
  | keep h idle next ih =>
    refine .bind_get fun w _ => .bind (changeHandles_keepsLabel fun hs hclear => ?_)
      fun _ _ => ih _ (hp _)
    exact hclear.append (Handle.apart_of_idle idle)
  | use slot u next ih => exact .bind (useSlot_keepsLabel slot u) fun _ _ => ih hp
  | inScope slot body next ihBody ih =>
    exact .bind (scopeSlot_keepsLabel slot (ihBody hp.1)) fun a _ => ih a (hp.2 a)
  | fetch slot below next ihBelow ih =>
    exact .bind (fetchSlot_keepsLabel slot (ihBelow hp.1)) fun row _ => ih row (hp.2 row)
  | close slot below next ihBelow ih =>
    exact .bind (closeSlot_keepsLabel slot (ihBelow hp.1)) fun result _ => ih result (hp.2 result)
  | giveUp slot next ih => exact .bind (emptySlot_keepsLabel slot) fun _ _ => ih hp

end QueryTrace
