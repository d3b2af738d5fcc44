import QueryTrace.Proofs.Contrast.Outermost

/-!
# Requests that pass untraced

A layer lets a request pass when another one is under way already, when it cannot be read, or when
it continues a query and none is active. Whatever is current around the layer, such a request is
made as if the layer were not there: once, with the same span current and the same query active, and
what comes of it is passed on. The layer does not touch any span. All it does is to report, and to
mark for as long as the call takes that a request is under way (`Layer.send_passing`).
-/

namespace QueryTrace

variable {σ ν α β : Type}

/-! ## Reports -/

/-- The entry is a log event. -/
def Entry.isReport : Entry ν → Bool
  | .logged .. => true
  | _ => false

/-- On the way from one world to the other nothing was done but reported. -/
def World.Reports (w v : World σ ν) : Prop :=
  ∃ events, v = { w with journal := w.journal ++ events } ∧ ∀ e ∈ events, e.isReport = true

namespace World.Reports

variable {w v u : World σ ν}

theorem refl (w : World σ ν) : w.Reports w :=
  ⟨[], by rw [List.append_nil], by simp⟩

theorem trans (h : w.Reports v) (h' : v.Reports u) : w.Reports u := by
  obtain ⟨events, rfl, hevents⟩ := h
  obtain ⟨more, rfl, hmore⟩ := h'
  refine ⟨events ++ more, by rw [List.append_assoc], fun e he => ?_⟩
  exact (List.mem_append.mp he).elim (hevents e) (hmore e)

theorem current (h : w.Reports v) : v.current = w.current := by
  obtain ⟨events, rfl, -⟩ := h
  rfl

theorem log (w : World σ ν) (level : Level) (message : String) (fields : List Attr) :
    w.Reports (w.log level message fields) := by
  unfold World.log
  split
  · exact ⟨[.logged level message fields], rfl, by simp [Entry.isReport]⟩
  · exact refl w

theorem render (request : Request) (w : World σ ν) :
    w.Reports (after (Layer.render request) w) := by
  cases h : request.serialize with
  | ok bs => simpa [Layer.render, h] using refl w
  | error reason => simpa [Layer.render, h] using log w ..

end World.Reports

/-! ## Actions behind reports -/

/-- What the action does in this world is to report, and then the other action. -/
def ReportsThen (act other : Action σ ν α) (w : World σ ν) : Prop :=
  ∃ v, w.Reports v ∧ act.run w = other.run v

namespace ReportsThen

variable {act other : Action σ ν α} {w : World σ ν}

theorem refl (act : Action σ ν α) (w : World σ ν) : ReportsThen act act w :=
  ⟨w, .refl w, rfl⟩

theorem bind (h : ReportsThen act other w) (f : α → Action σ ν β) :
    ReportsThen (act >>= f) (other >>= f) w := by
  obtain ⟨v, hv, hrun⟩ := h
  exact ⟨v, hv, by rw [StateT.run_bind, StateT.run_bind, hrun]⟩

theorem current_bind {f : Context → Action σ ν α} (h : ReportsThen (f w.current) other w) :
    ReportsThen (current >>= f) other w := h

theorem log_bind {level : Level} {message : String} {fields : List Attr}
    (h : ReportsThen act other (w.log level message fields)) :
    ReportsThen (log level message fields >>= fun _ => act) other w := by
  obtain ⟨v, hv, hrun⟩ := h
  exact ⟨v, (World.Reports.log w level message fields).trans hv, hrun⟩

theorem render_bind {request : Request} {f : String → Action σ ν α}
    (h : ReportsThen (f request.rendered) other (after (Layer.render request) w)) :
    ReportsThen (Layer.render request >>= f) other w := by
  obtain ⟨v, hv, hrun⟩ := h
  refine ⟨v, (World.Reports.render request w).trans hv, ?_⟩
  rw [← hrun, ← (Layer.render_leaves request w).1]
  rfl

end ReportsThen

/-! ## Passing a layer -/

/-- While no query is active, a continuation is made as it is. -/
theorem Manager.trace_stray (m : Manager) (source : Source) (call : Action σ ν (Except String α))
    {w : World σ ν} (h : w.current.active = none) :
    ReportsThen (m.trace source .continuation call) (do return (← call, source)) w := by
  refine .current_bind ?_
  rw [h]
  exact .log_bind (.refl ..)

namespace Layer

/-- The layer lets a request pass where this context is current. -/
inductive LetsPass (layer : Layer) (request : Request) (context : Context) : Prop where
  | underWay (h : context.inRequest = true)
  | unread (h : (layer.classifier.summarise request.rendered).role? = none)
  | stray (h : (layer.classifier.summarise request.rendered).role? = some .continuation)
      (hactive : context.active = none)

variable (layer : Layer) (inner : Send σ ν) (request : Request) (noreply : Bool) {w : World σ ν}

theorem sendTraced_unread (h : (layer.classifier.summarise request.rendered).role? = none) :
    ReportsThen (layer.sendTraced inner request noreply) (inner request noreply) w := by
  refine .render_bind ?_
  simp only [h]
  exact .log_bind (.refl ..)

theorem sendTraced_stray
    (h : (layer.classifier.summarise request.rendered).role? = some .continuation)
    (hactive : w.current.active = none) :
    ReportsThen (layer.sendTraced inner request noreply) (inner request noreply) w := by
  have hrendered : (after (render request) w).current.active = none := by
    rw [(World.Reports.render request w).current, hactive]
  refine .render_bind ?_
  simp only [h]
  exact (layer.manager.trace_stray _ (inner request noreply) hrendered).bind fun x => pure x.1

/-- A request that a layer lets pass is made once, in a world that differs from the one around the
layer only by reports and by the mark that a request is under way. Its result is the result, and
the world behind it is left as it is, but for the contexts that were attached. -/
theorem send_passing (h : layer.LetsPass request w.current) :
    ∃ outer v, World.Reports { w with contexts := outer ++ w.contexts } v ∧
      v.current = { w.current with inRequest := true } ∧
      result (layer.send inner request noreply) w = result (inner request noreply) v ∧
      after (layer.send inner request noreply) w =
        { after (inner request noreply) v with
          contexts := (after (inner request noreply) v).contexts.drop outer.length } := by
  cases hw : w.current.inRequest with
  | true =>
    have hrun := (layer.send_inRequest inner request noreply).run w hw
    refine ⟨[], w, .refl w, by rw [← hw], ?_, ?_⟩
    · rw [result, hrun, result]
    · rw [after, hrun]
      rfl
  | false =>
    let context : Context := { w.current with inRequest := true }
    have hsend : (layer.send inner request noreply).run w =
        (within context (layer.sendTraced inner request noreply)).run w := by
      show (if w.current.inRequest = true then inner request noreply
        else within context (layer.sendTraced inner request noreply)).run w = _
      rw [if_neg (by simp [hw])]
    have hpasses : ReportsThen (layer.sendTraced inner request noreply) (inner request noreply)
        (w.attach context) := by
      cases h with
      | underWay h => exact absurd h (by simp [hw])
      | unread h => exact layer.sendTraced_unread inner request noreply h
      | stray h hactive => exact layer.sendTraced_stray inner request noreply h hactive
    obtain ⟨v, hv, hrun⟩ := hpasses
    refine ⟨[context], v, hv, hv.current, ?_, ?_⟩
    · rw [result, hsend, ← result, result_within, result, hrun, result]
    · rw [after, hsend, ← after, after_within, after, hrun, World.detach, ← List.drop_one]
      rfl

/-- A continuation is sent in an application span while no query is active, and fails. -/
theorem send_passing_strayInApplication :
    let layer : Layer := ⟨⟨.recording, .standard⟩, .opcodes "r"⟩
    let base : Send Nat Unit := fun _ _ => do
      modify fun w => { w with program := w.program + 1 }
      return .error "lost"
    let w : World Nat Unit := { spans := [{ name := "app", scope := .application }]
                                contexts := [{ span := ⟨some (.recorded 0), some 0⟩ }]
                                logging := true
                                program := 0 }
    let act := layer.send base (.text "[2]") false
    layer.LetsPass (.text "[2]") w.current ∧ result act w = .error "lost" ∧
      (after act w).program = 1 ∧ (after act w).spans = w.spans ∧
      ∃ v, v.current = { w.current with inRequest := true } ∧ v.spans = w.spans ∧
        result act w = result (base (.text "[2]") false) v := by
  intro layer base w act
  have hpasses : layer.LetsPass (.text "[2]") w.current := .stray (by decide) rfl
  obtain ⟨outer, v, ⟨events, rfl, -⟩, hcurrent, hresult, hafter⟩ :=
    layer.send_passing base (.text "[2]") false hpasses
  refine ⟨hpasses, hresult, ?_, ?_, _, hcurrent, rfl, hresult⟩
  · rw [hafter]
    rfl
  · rw [hafter]
    rfl

end Layer

end QueryTrace
