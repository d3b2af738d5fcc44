import QueryTrace.Proofs.Contrast.Desk
import QueryTrace.Session.Perform

/-!
# Texts side by side

What is shown of objects that are alike is the same. Only texts that show configurations, or layers
that may be inside others, are left out: each of them begins with the name of what it shows.
-/

namespace QueryTrace.Session

variable {k : Contrast}

/-! ## Texts that are left out -/

theorem shown_append {name : String} (h : name ∈ hidden k) (rest : String) :
    shown k (name ++ rest) = "" := by
  have hprefix : name.toList.isPrefixOf (name ++ rest).toList := by
    rw [String.toList_append]
    exact List.isPrefixOf_iff_prefix.mpr (List.prefix_append _ _)
  exact if_pos (List.any_eq_true.mpr ⟨name, h, hprefix⟩)

section Fields

variable {name : String} (h : name ∈ hidden k) (fields : List (String × String)) (omitted : Bool)
include h

theorem shown_fields_append (rest : String) :
    shown k (describeFields name fields omitted ++ rest) = "" := by
  unfold describeFields
  dsimp only
  rw [String.append_assoc, String.append_assoc, String.append_assoc]
  exact shown_append h _

theorem shown_fields : shown k (describeFields name fields omitted) = "" := by
  have hempty := shown_fields_append h fields omitted ""
  rwa [String.append_empty] at hempty

theorem shown_over {α : Type} {describe : List α → String} {layer : α} {layers : List α}
    (hdescribe : describe (layer :: layers) = describeFields name fields omitted) :
    shown k (describeOver describe (layer :: layers)) = "" := by
  show shown k (describe (layer :: layers) ++ " over " ++ describe layers) = ""
  rw [hdescribe, String.append_assoc]
  exact shown_fields_append h fields omitted _

end Fields

/-! ## Texts of objects -/

/-- Layers that are described alike around the same make the same text. -/
theorem describeLayers_congr {α : Type} {R : α → α → Prop} {layers layers' : List α}
    (h : List.Forall₂ R layers layers') {wrap : α → String → String}
    (hwrap : ∀ layer layer', R layer layer' → wrap layer = wrap layer') (plain : String) :
    describeLayers wrap layers plain = describeLayers wrap layers' plain := by
  induction h with
  | nil => rfl
  | @cons layer layer' rest rest' hlayer _ ih =>
    show wrap layer (describeLayers wrap rest plain) = wrap layer' (describeLayers wrap rest' plain)
    rw [hwrap _ _ hlayer, ih]

theorem describeRoot_like {layers layers' : List Layer}
    (h : List.Forall₂ (Layer.Like k) layers layers') :
    shown k (describeOver describeRoot layers) = shown k (describeOver describeRoot layers') := by
  cases k with
  | inside =>
    obtain rfl : layers = layers' :=
      List.forall₂_eq_eq_eq ▸ h.imp fun _ _ hlayer => hlayer.eq
    rfl
  | telemetry =>
    have hhidden : "TracedNamespace" ∈ hidden .telemetry := by decide
    cases h with
    | nil => rfl
    | cons _ _ => exact (shown_over hhidden _ true rfl).trans (shown_over hhidden _ true rfl).symm

theorem describeSender_like {layers layers' : List Layer} (h : Layer.Around k layers layers') :
    shown k (describeOver describeSender layers) =
      shown k (describeOver describeSender layers') := by
  cases k with
  | inside =>
    have hhidden : "TracedExecutor" ∈ hidden .inside := by decide
    have hempty := h.isEmpty
    cases layers with
    | nil => rw [List.isEmpty_iff.mp hempty.symm]
    | cons layer rest =>
      cases layers' with
      | nil => cases hempty
      | cons layer' rest' =>
        exact (shown_over hhidden _ true rfl).trans (shown_over hhidden _ true rfl).symm
  | telemetry =>
    have hsender {layers layers' : List Layer}
        (h : List.Forall₂ (Layer.Like .telemetry) layers layers') :
        describeSender layers = describeSender layers' :=
      describeLayers_congr h (fun _ _ _ => rfl) _
    cases h with
    | nil => rfl
    | @cons layer layer' rest rest' hlayer hrest =>
      show shown _ (describeSender (layer :: rest) ++ " over " ++ describeSender rest) =
        shown _ (describeSender (layer' :: rest') ++ " over " ++ describeSender rest')
      rw [hsender (.cons hlayer hrest), hsender hrest]

theorem describeConnection_like {c c' : Connection} (h : c.Like k c') :
    shown k (describeConnection c) = shown k (describeConnection c') := by
  have hempty := h.layers.isEmpty
  have hhidden : "TracedConnection" ∈ hidden k := by cases k <;> decide
  unfold describeConnection
  rw [h.generation]
  -- With layers the text is left out on both sides, without layers it is the same.
  generalize c.layers = layers, c'.layers = layers' at hempty
  cases layers with
  | nil => rw [List.isEmpty_iff.mp hempty.symm]
  | cons layer rest =>
    cases layers' with
    | nil => cases hempty
    | cons layer' rest' =>
      exact (shown_fields hhidden _ true).trans (shown_fields hhidden _ true).symm

theorem describeInstrumentor_like {i i' : Instrumentor} (h : i.Like k i') :
    shown k (describeInstrumentor i) = shown k (describeInstrumentor i') := by
  cases k with
  | inside => rw [describeInstrumentor, describeInstrumentor, h.layer.eq]
  | telemetry =>
    have hhidden : "RethinkDbInstrumentor" ∈ hidden .telemetry := by decide
    exact (shown_fields hhidden _ true).trans (shown_fields hhidden _ true).symm

theorem describeManager_like {m m' : Manager} (h : m.Like k m') :
    shown k (describeManager m) = shown k (describeManager m') := by
  cases k with
  | inside => rw [h.same.eq]
  | telemetry =>
    have hhidden : "SpanManager" ∈ hidden .telemetry := by decide
    exact (shown_fields hhidden _ true).trans (shown_fields hhidden _ true).symm

theorem describeQuery_like {q q' : Query} (h : q.Like k q') :
    describeQuery q = describeQuery q' := by
  unfold describeQuery
  rw [h.wire]
  exact describeLayers_congr h.layers (fun _ _ hlayer => by rw [hlayer.calls]) _

theorem describeDeferred_like {d d' : Deferred} (h : d.Like k d') :
    describeDeferred d = describeDeferred d' := by
  have hname : d.state.name = d'.state.name := by
    have hstate := h.state
    generalize d.state = state, d'.state = state' at hstate
    cases hstate <;> rfl
  rw [describeDeferred, describeDeferred, hname]

theorem describeCursor_like {c c' : Cursor} (h : c.Like k c') :
    describeCursor c = describeCursor c' := by
  unfold describeCursor
  rw [h.stream]
  refine describeLayers_congr h.layers (fun layer layer' hlayer => ?_) _
  rw [describeDeferred_like hlayer.span, hlayer.finished, hlayer.rows]

theorem describeObject_parallel (executor : Bool) {o o' : Object} (ho : o.Like k o') :
    TurnParallel k (fun s s' => shown k s = shown k s') (describeObject executor o)
      (describeObject executor o') := by
  cases ho with
  | instrumentor hi =>
    refine .pure ?_
    cases executor with
    | true => exact describeManager_like hi.manager
    | false => exact describeInstrumentor_like hi
  | server number => exact .throw _
  | root hr => exact .pure (describeRoot_like hr.layers)
  | @connection c c' hc =>
    refine .pure ?_
    rw [hc.layers.isEmpty]
    split
    · exact describeSender_like hc.layers
    · exact describeConnection_like hc
  | query hq => exact .pure (congrArg (shown k) (describeQuery_like hq))
  | cursor hc => exact .pure (congrArg (shown k) (describeCursor_like hc))
  | chain c => exact .pure rfl
  | deferred number =>
    refine .bind (.lift desk_parallel) fun d d' hd => ?_
    have hheld := related_getElem? hd.deferreds number
    generalize d.deferreds[number]? = held, d'.deferreds[number]? = held' at hheld
    cases hheld with
    | some hheld => exact .pure (congrArg (shown k) (describeDeferred_like hheld.span))
    | none => exact .throw _

end QueryTrace.Session
