import QueryTrace.Proofs.Contrast.Outermost
import QueryTrace.Proofs.Spans.Handles
import QueryTrace.Proofs.Spans.Sheltering

/-!
# What becomes of the span of a request

Whatever a program does where the span of a request is current, there are two ways for the span to
go. If the program starts a new query while just this span is current, the span is taken for a stale
one: it ends, and nothing measures it any more. Whatever else is done is done elsewhere, or it
belongs to the request; it spares the span.

Which of the two it is can be read off the program as it runs (`Client.Overtakes`), and by induction
on the program the span goes just that way (`Client.fate_run`).
-/

namespace QueryTrace

variable {α β : Type}

/-! ## When a server overtakes its request -/

/-- The world in which the callee of a continuation starts, where the span of a request is
current. -/
def World.continued (w : World Handles Blame) : World Handles Blame :=
  (w.log .debug "continuing span of the active query" [("mode", .text Mode.request.name)]).annotate
    w.current.span [("db.x.continue", .flag true)]

/-! A call that goes through a slot may be made with the span of the slot current. Then it is
sheltered: it is not made where the slot was used. -/

namespace Handles

variable (hs : Handles) (slot : Nat)

def sheltersScope : Bool :=
  match hs.at? slot with
  | some (.span d) => d.state.isActive
  | _ => false

/-- A fetch opens the span if that was not done before. -/
def sheltersFetch : Bool :=
  match hs.at? slot with
  | some (.rows layer) => !layer.finished && match layer.span.state with
    | .closed => false
    | _ => true
  | _ => false

def sheltersClose : Bool :=
  match hs.at? slot with
  | some (.rows layer) => !layer.finished && layer.span.state.isActive
  | _ => false

/-- The handles while the stream in a slot is in use. -/
def lent : Handles :=
  match hs.at? slot with
  | some (.rows _) => hs.set slot none
  | _ => hs

end Handles

def World.lend (w : World Handles Blame) (slot : Nat) : World Handles Blame :=
  { w with program := w.program.lent slot }

/-- From this world, where the span of a request is current, the client starts a new query while
just this span is current. -/
def Client.Overtakes {α : Type} : Client α → World Handles Blame → Prop
  | .done _, _ => False
  | .look next, w => (next w).Overtakes w
  | .wait ms next, w => next.Overtakes { w with clock := w.clock + ms }
  | .trace m source role callee next, w =>
    let call := (Client.trace m source role callee .done).run
    role = .newQuery ∨ callee.Overtakes w.continued ∨
      (next (result call w)).Overtakes (after call w)
  | .send layers request noreply server next, w =>
    let call := (Client.send layers request noreply server .done).run
    server.Overtakes w ∨ (next (result call w)).Overtakes (after call w)
  | .describe m source next, w =>
    let work := (Client.describe m source .done).run
    (next (result work w)).Overtakes (after work w)
  | .ambient provider name body next, w =>
    let work := (Client.ambient provider name body .done).run
    (next (result work w)).Overtakes (after work w)
  | .detached body next, w =>
    let work := (Client.detached body .done).run
    (next (result work w)).Overtakes (after work w)
  | .keep h idle next, w =>
    let work := (Client.keep h idle .done).run
    (next (result work w)).Overtakes (after work w)
  | .use slot u next, w => next.Overtakes (after (useSlot slot u) w)
  | .inScope slot body next, w =>
    let call := (Client.inScope slot body .done).run
    (w.program.sheltersScope slot = false ∧ body.Overtakes w) ∨
      (next (result call w)).Overtakes (after call w)
  | .fetch slot below next, w =>
    let call := (Client.fetch slot below .done).run
    (w.program.sheltersFetch slot = false ∧ below.Overtakes (w.lend slot)) ∨
      (next (result call w)).Overtakes (after call w)
  | .close slot below next, w =>
    let call := (Client.close slot below .done).run
    (w.program.sheltersClose slot = false ∧ below.Overtakes (w.lend slot)) ∨
      (next (result call w)).Overtakes (after call w)
  | .giveUp slot next, w => next.Overtakes (after (emptySlot slot) w)

/-! ## What becomes of the span -/

/-- The span of a request is current and open, nothing has measured it, and no handle has it. -/
structure Amid (n : Nat) (w : World Handles Blame) : Prop where
  span : w.current.span.record = some n
  active : w.current.active = some .request
  inRequest : w.current.inRequest = true
  record : ∃ r, w.spans[n]? = some r ∧ r.ended = false ∧ Untimed r.attrs
  clear : w.program.Clear n

/-- The span has ended, and was never measured. -/
def Lost (n : Nat) (w : World Handles Blame) : Prop :=
  ∃ r, w.spans[n]? = some r ∧ r.ended = true ∧ Untimed r.attrs

/-- What an action makes of the span of the request around it: it is lost if the request is
overtaken, and spared otherwise. -/
structure Fate (n : Nat) (w : World Handles Blame) (act : Action Handles Blame α)
    (overtaken : Prop) : Prop where
  spared : ¬overtaken → (watch n).Spared False w (after act w)
  lost : overtaken → Lost n (after act w)

section Fates

variable {n : Nat} {w v : World Handles Blame} {act : Action Handles Blame α} {o o' : Prop}

theorem Lost.mono (h : Lost n w) (hkept : w.KeepsEnded v) : Lost n v := by
  obtain ⟨r, hr, hended, huntimed⟩ := h
  exact ⟨r, hkept n r hr hended, hended, huntimed⟩

namespace Amid

theorem isOpen (h : Amid n w) : (watch n).Open w :=
  let ⟨r, hr, hrecording, _⟩ := h.record
  ⟨⟨r, hr, hrecording⟩, h.clear⟩

theorem of_spared (h : Amid n w) (hspared : (watch n).Spared False w v) : Amid n v := by
  obtain ⟨r, hr, -, huntimed⟩ := h.record
  obtain ⟨r', more, failure, -, hr', hrecording, hv, hmore, -⟩ := hspared.grows
  obtain rfl := Option.some.inj (hr.symm.trans hr')
  have hcurrent : v.current = w.current := hspared.current
  exact ⟨hcurrent ▸ h.span, hcurrent ▸ h.active, hcurrent ▸ h.inRequest,
    ⟨_, hv, hrecording, Watch.untimed_append huntimed hmore⟩, hspared.clear⟩

end Amid

namespace Fate

/-- What spares the span wherever it is open. -/
theorem of_spares (hw : Amid n w) {Q : α → Prop}
    (h : Spares (watch n) w.current act blameless Q) : Fate n w act False where
  spared _ := (h.spares w rfl hw.isOpen).1
  lost := False.elim

theorem congr {other : Action Handles Blame β} (hafter : after act w = after other w)
    (h : Fate n w other o) : Fate n w act o where
  spared ho := hafter ▸ h.spared ho
  lost ho := hafter ▸ h.lost ho

/-- One thing is done after the other. What was lost before is not found again. -/
theorem bind {f : α → Action Handles Blame β} (h : Fate n w act o) (hw : Amid n w)
    (hf : Amid n (after act w) → (after act w).current = w.current →
      Fate n (after act w) (f (result act w)) o')
    (hkept : (after act w).KeepsEnded (after (f (result act w)) (after act w))) :
    Fate n w (act >>= f) (o ∨ o') := by
  have hnext (ho : ¬o) : Fate n (after act w) (f (result act w)) o' :=
    hf (hw.of_spared (h.spared ho)) (h.spared ho).current
  refine ⟨fun ho => ?_, fun ho => ?_⟩
  · obtain ⟨ho, ho'⟩ := not_or.mp ho
    exact ((h.spared ho).trans ((hnext ho).spared ho')).mono (Or.elim · id id)
  · by_cases hfirst : o
    · exact (h.lost hfirst).mono hkept
    · exact (hnext hfirst).lost (ho.resolve_left hfirst)

/-- First something is done that spares the span. -/
theorem after_spares {Q : α → Prop} {f : α → Action Handles Blame β}
    (h : Spares (watch n) w.current act blameless Q) (hw : Amid n w)
    (hf : Amid n (after act w) → (after act w).current = w.current → Q (result act w) →
      Fate n (after act w) (f (result act w)) o) : Fate n w (act >>= f) o := by
  obtain ⟨hspared, hQ⟩ := h.spares w rfl hw.isOpen
  have hspared : (watch n).Spared False w (after act w) := hspared.mono id
  have hnext := hf (hw.of_spared hspared) hspared.current hQ
  exact ⟨fun ho => (hspared.trans (hnext.spared ho)).mono (Or.elim · id id), hnext.lost⟩

/-- In the end something is done that spares the span. -/
theorem before_spares {f : α → Action Handles Blame β} {Q : β → Prop} (h : Fate n w act o)
    (hw : Amid n w) (hf : ∀ a, Spares (watch n) w.current (f a) blameless Q)
    (hkept : ∀ a (v : World Handles Blame), v.KeepsEnded (after (f a) v)) :
    Fate n w (act >>= f) o := by
  have hboth : Fate n w (act >>= f) (o ∨ False) :=
    h.bind hw (fun hv hcurrent => .of_spares hv (hcurrent ▸ hf _)) (hkept _ _)
  rwa [or_false] at hboth

/-- A call can be made in the shelter of another span. -/
theorem sheltered {shelters : Bool} (hshelters : shelters = true) (h : Fate n w act False) :
    Fate n w act (shelters = false ∧ o) := by
  simpa [hshelters] using h

theorem unsheltered {shelters : Bool} (hshelters : shelters = false) (h : Fate n w act o) :
    Fate n w act (shelters = false ∧ o) := by
  simpa [hshelters] using h

end Fate

/-! ### What keeps ended spans -/

theorem Does.keepsEnded {Q : α → Assertion Handles}
    (h : Does True w.current HandlesHeld act Q) : w.KeepsEnded (after act w) := by
  obtain ⟨H, -, hpath, -⟩ := h.moves 0 w.program.holds w rfl le_rfl
  exact Path.keepsEnded hpath

theorem Client.keepsEnded_run (p : Client α) (w : World Handles Blame) :
    w.KeepsEnded (after p.run w) :=
  p.run_does.keepsEnded

theorem Manager.keepsEnded_noteFailure {σ ν : Type} (span : SpanRef) (given : Except String α)
    (w : World σ ν) : w.KeepsEnded (after (noteFailure span given) w) := by
  cases given with
  | ok a => exact .of_spans rfl
  | error message =>
    have hlog : w.KeepsEnded (w.log .error "RethinkDB query failed" [("error", .text message)]) :=
      .of_spans (w.spans_log ..)
    exact hlog.trans (World.keepsEnded_amend _ _ _)

end Fates

/-! ## What clients make of the span -/

theorem after_blaming_some (span : SpanRef) (failed : α → Bool) (act : Action Handles Blame α)
    (w : World Handles Blame) : after (blaming (some span) failed act) w =
      if failed (result act w) then (after act w).write (.noted ⟨span⟩) else after act w := by
  unfold blaming
  cases h : failed (result act w) <;> simp [h]

theorem after_blaming_none (failed : α → Bool) (act : Action Handles Blame α)
    (w : World Handles Blame) : after (blaming none failed act) w = after act w := rfl

theorem spans_blaming (span? : Option SpanRef) (failed : α → Bool)
    (act : Action Handles Blame α) (w : World Handles Blame) :
    (after (blaming span? failed act) w).spans = (after act w).spans := by
  cases span? with
  | none => rfl
  | some span =>
    rw [after_blaming_some]
    split <;> rfl

section Clients

variable {n : Nat} {w : World Handles Blame} (hw : Amid n w)
include hw

/-- A new query ends the span. -/
theorem fate_newQuery (m : Manager) (source : Source) (callee : Client (Except String α)) :
    Fate n w (Client.trace m source .newQuery callee .done).run True := by
  refine ⟨fun h => absurd trivial h, fun _ => ?_⟩
  let stale := after (Manager.endStale w.current.span) w
  let opened := after (m.runInSpan w.current source callee.run) stale
  have hlost : Lost n stale := by
    obtain ⟨r, hr, hrecording, huntimed⟩ := hw.record
    have hopen : w.isRecording w.current.span = true := by
      simp [World.isRecording, World.openRecord?_eq hw.span hr hrecording]
    let logged := w.log .debug "ending stale request span before starting a new one" []
    have hstale : stale = logged.finish w.current.span := by
      simp [stale, Manager.endStale, hopen, logged]
    have hlogged : logged.spans[n]? = some r := by rw [World.spans_log, hr]
    exact ⟨{ r with ended := true }, hstale ▸ (World.finish_open hw.span hlogged hrecording).1, rfl,
      huntimed⟩
  have hcurrent : stale.current = w.current := by
    rw [World.current, (Manager.endStale_leaves w w.current.span).1]
    rfl
  have hopened : stale.KeepsEnded opened := by
    refine Does.keepsEnded (Q := fun _ => HandlesHeld) ?_
    rw [hcurrent]
    exact m.runInSpan_does source fun _ => callee.run_does
  have hspans : (after (Client.trace m source .newQuery callee .done).run w).spans =
      opened.spans := by
    have htrace : after (m.trace source .newQuery callee.run) w = opened := by
      simp only [Manager.trace, after_bind, result_current, after_current, hw.active, stale, opened]
    rw [← htrace, Client.run]
    exact spans_blaming (Manager.attributed? w.current source .newQuery) (fun x => hasFailed x.1)
      (m.trace source .newQuery callee.run) w
  exact (hlost.mono hopened).mono (.of_spans hspans)

/-- The callee of a continuation is called where the span is current. A failure is blamed on the
span. -/
theorem fate_continuation (m : Manager) (source : Source) (callee : Client (Except String α))
    {o : Prop} (h : Amid n w.continued → w.continued.current = w.current →
      Fate n w.continued callee.run o) :
    Fate n w (Client.trace m source .continuation callee .done).run o := by
  let span := w.current.span
  let mark : Action Handles Blame Unit := do
    log .debug "continuing span of the active query" [("mode", .text Mode.request.name)]
    modify (·.annotate span [("db.x.continue", .flag true)])
  let settle (r : Except String α) : Action Handles Blame (Except String α) :=
    blaming (some span) (fun _ => hasFailed r) (Manager.noteFailure span r)
  let work : Action Handles Blame (Except String α) := do
    mark
    let r ← callee.run
    settle r
  have hafter : after (Client.trace m source .continuation callee .done).run w = after work w := by
    simp only [Client.run, Manager.trace, Manager.runContinuation, Manager.attributed?, work, mark,
      settle, span, after_bind, result_bind, result_current, after_current, hw.active, result_pure,
      after_pure, Manager.result_noteFailure, after_blaming_some]
  refine .congr hafter ?_
  have hmark : Spares (watch n) w.current mark blameless fun _ => True :=
    .bind (.log ..) fun _ _ => .annotate (.inr (by simp [Untimed]))
  have hsettle (r : Except String α) :
      Spares (watch n) w.current (settle r) blameless fun _ => True := by
    refine blaming_spares
      (.mono (Manager.noteFailure_spares r) (fun _ h => h) fun _ _ => trivial) ?_
    rintro - ⟨hspan, hfailed⟩
    exact ⟨⟨span, rfl, hspan⟩, (hasFailed_iff r).mpr hfailed⟩
  refine .after_spares hmark hw fun hmarked hcurrent _ => ?_
  exact .before_spares (h hmarked hcurrent) hmarked (fun r => hcurrent ▸ hsettle r) fun r v =>
    (Manager.keepsEnded_noteFailure span r v).trans (.of_spans (spans_blaming ..))

/-- A request that is sent while another one is under way goes straight to the server. -/
theorem fate_send (layers : List Layer) (request : Request) (noreply : Bool)
    (server : Client (Except String Response)) {o : Prop} (h : Fate n w server.run o) :
    Fate n w (Client.send layers request noreply server .done).run o := by
  have hattributed : Layer.attributed? layers w.current request = none := by
    cases layers with
    | nil => rfl
    | cons layer layers => simp [Layer.attributed?, hw.inRequest]
  have hpass : (Layer.sendThrough layers (fun _ _ => server.run) request noreply).run w =
      server.run.run w :=
    (Layer.sendThrough_inRequest layers (fun _ _ => server.run) request noreply).run w hw.inRequest
  refine .congr ?_ h
  simp only [Client.run, after_bind, result_current, after_current, hattributed, after_blaming_none,
    after_pure]
  exact congrArg Prod.snd hpass

/-- Where a slot shelters a call, the span of the request is not current in it. -/
theorem fate_inScope (slot : Nat) (body : Client α) {o : Prop} (h : Fate n w body.run o) :
    Fate n w (Client.inScope slot body .done).run
      (w.program.sheltersScope slot = false ∧ o) := by
  have hscope : after (Client.inScope slot body .done).run w =
      after (scopeSlot slot body.run) w := rfl
  refine .congr hscope ?_
  cases hat : w.program.at? slot with
  | none =>
    exact .unsheltered (by simp [Handles.sheltersScope, hat]) (.congr (by simp [scopeSlot, hat]) h)
  | some handle =>
    cases handle with
    | rows layer =>
      exact .unsheltered (by simp [Handles.sheltersScope, hat])
        (.congr (by simp [scopeSlot, hat]) h)
    | span d =>
      cases hstate : d.state with
      | active context name =>
        have hapart : context.span.record ≠ some n := hw.clear.at? hat context name hstate
        have hbody : Fate n w (within context body.run) False :=
          .of_spares hw (.within (body.run_spares (absurd · hapart)))
        refine .sheltered ?_ (.congr ?_ hbody)
        · simp [Handles.sheltersScope, hat, hstate, DeferredState.isActive]
        · simp [scopeSlot, hat, Deferred.inScope, hstate]
      | _ =>
        refine .unsheltered ?_ (.congr ?_ h)
        · simp [Handles.sheltersScope, hat, hstate, DeferredState.isActive]
        · simp [scopeSlot, hat, Deferred.inScope, hstate]

/-- A call that is made while its stream is in use, but not with the span of the stream current. -/
theorem fate_lent {slot : Nat} {layer : RowsLayer} (hat : w.program.at? slot = some (.rows layer))
    {call : Action Handles Blame α} {o : Prop}
    (h : Amid n (w.lend slot) → Fate n (w.lend slot) call o) {settle : α → Action Handles Blame β}
    (hsettle : ∀ a, Spares (watch n) w.current (settle a) blameless fun _ => True)
    (hkept : ∀ a (v : World Handles Blame), v.KeepsEnded (after (settle a) v)) :
    Fate n w (do
      changeHandles (·.set slot none)
      let a ← call
      settle a) o := by
  have htaken : after (changeHandles (·.set slot none)) w = w.lend slot := by
    simp [changeHandles, World.lend, Handles.lent, hat]
  refine .after_spares (takeSlot_spares slot) hw fun hlent hcurrent _ => ?_
  rw [htaken] at hlent hcurrent ⊢
  exact .before_spares (h hlent) hlent (fun a => hcurrent ▸ hsettle a) hkept

omit hw in
/-- Where no stream is in the slot, the handles stay as they are. -/
theorem lend_eq {slot : Nat} (h : ∀ layer, w.program.at? slot ≠ some (.rows layer)) :
    w.lend slot = w := by
  have hlent : w.program.lent slot = w.program := by
    unfold Handles.lent
    split
    · next hat => exact absurd hat (h _)
    · rfl
  rw [World.lend, hlent]

theorem fate_fetch (slot : Nat) (below : Client (Except String (Option Value))) {o : Prop}
    (h : Amid n (w.lend slot) → Fate n (w.lend slot) below.run o) :
    Fate n w (Client.fetch slot below .done).run
      (w.program.sheltersFetch slot = false ∧ o) := by
  have hfetch : after (Client.fetch slot below .done).run w =
      after (fetchSlot slot below.run) w := rfl
  refine .congr hfetch ?_
  match hat : w.program.at? slot with
  | none | some (.span _) =>
    rw [lend_eq (by simp [hat])] at h
    exact .unsheltered (by simp [Handles.sheltersFetch, hat])
      (.congr (by simp [fetchSlot, hat]) (h hw))
  | some (.rows layer) =>
    have hlayer : layer.Apart n := hw.clear.at? hat
    have hfill (l : RowsLayer) (hl : l.Apart n) : Spares (watch n) w.current
        (changeHandles (·.set slot (some (.rows l)))) blameless fun _ => True :=
      fillSlot_spares slot hl
    cases hfinished : layer.finished with
    | true =>
      refine .unsheltered ?_ (.congr ?_ (fate_lent hw hat h (fun row => hfill layer hlayer)
        fun _ _ => .of_spans rfl))
      · simp [Handles.sheltersFetch, hat, hfinished]
      · simp [fetchSlot, hat, RowsLayer.next_of_finished hfinished, alone]
    | false =>
      have hspan : layer.span.Apart n := hlayer hfinished
      by_cases hstate : layer.span.state = .closed
      · let settle (row : Except String (Option Value)) : Action Handles Blame Unit := do
          let l ← layer.settleRow row
          changeHandles (·.set slot (some (.rows l)))
        have hsettle (row : Except String (Option Value)) :
            Spares (watch n) w.current (settle row) blameless fun _ => True :=
          .bind (RowsLayer.settleRow_spares hspan row) hfill
        refine .unsheltered ?_ (.congr ?_ (fate_lent hw hat h hsettle fun row v =>
          (layer.keepsEnded_settleRow v row).trans (.of_spans rfl)))
        · simp [Handles.sheltersFetch, hat, hfinished, hstate]
        · simp [fetchSlot, hat, RowsLayer.next_of_unfinished hfinished, RowsLayer.ensureStarted,
            Deferred.inScope, hstate, alone, settle]
      · let fetch : Action Handles Blame Unit := do
          changeHandles (·.set slot none)
          let x ← layer.next (alone below.run)
          changeHandles (·.set slot (some (.rows x.2)))
        have hfetch : Spares (watch n) w.current fetch blameless fun _ => True :=
          .bind (takeSlot_spares slot) fun _ _ =>
            .bind (RowsLayer.next_spares_of_sheltered hspan hfinished hstate fun c' hc' =>
              .bind (below.run_spares hc') fun _ _ => .pure trivial) fun x hx => hfill x.2 hx
        refine .sheltered ?_ (.congr ?_ (.of_spares hw hfetch))
        · cases hopen : layer.span.state <;> simp_all [Handles.sheltersFetch]
        · simp [fetchSlot, hat, fetch]

theorem fate_close (slot : Nat) (below : Client (Except String Unit)) {o : Prop}
    (h : Amid n (w.lend slot) → Fate n (w.lend slot) below.run o) :
    Fate n w (Client.close slot below .done).run
      (w.program.sheltersClose slot = false ∧ o) := by
  have hclose : after (Client.close slot below .done).run w =
      after (closeSlot slot below.run) w := rfl
  refine .congr hclose ?_
  match hat : w.program.at? slot with
  | none | some (.span _) =>
    rw [lend_eq (by simp [hat])] at h
    exact .unsheltered (by simp [Handles.sheltersClose, hat])
      (.congr (by simp [closeSlot, hat]) (h hw))
  | some (.rows layer) =>
    have hlayer : layer.Apart n := hw.clear.at? hat
    have hfill (l : RowsLayer) (hl : l.Apart n) : Spares (watch n) w.current
        (changeHandles (·.set slot (some (.rows l)))) blameless fun _ => True :=
      fillSlot_spares slot hl
    cases hfinished : layer.finished with
    | true =>
      refine .unsheltered ?_ (.congr ?_ (fate_lent hw hat h (fun closed => hfill layer hlayer)
        fun _ _ => .of_spans rfl))
      · simp [Handles.sheltersClose, hat, hfinished]
      · simp [closeSlot, hat, RowsLayer.close_of_finished hfinished, alone]
    | false =>
      have hspan : layer.span.Apart n := hlayer hfinished
      cases hstate : layer.span.state with
      | active context name =>
        let close : Action Handles Blame Unit := do
          changeHandles (·.set slot none)
          let x ← layer.close (alone below.run)
          changeHandles (·.set slot (some (.rows x.2)))
        have hclose : Spares (watch n) w.current close blameless fun _ => True :=
          .bind (takeSlot_spares slot) fun _ _ =>
            .bind (RowsLayer.close_spares_of_sheltered hspan hfinished hstate fun c' hc' =>
              .bind (below.run_spares hc') fun _ _ => .pure trivial) fun x hx => hfill x.2 hx
        refine .sheltered ?_ (.congr ?_ (.of_spares hw hclose))
        · simp [Handles.sheltersClose, hat, hfinished, hstate, DeferredState.isActive]
        · simp [closeSlot, hat, close]
      | _ =>
        let settle (closed : Except String Unit) : Action Handles Blame Unit := do
          let l ← layer.settleClose closed
          changeHandles (·.set slot (some (.rows l)))
        have hsettle (closed : Except String Unit) :
            Spares (watch n) w.current (settle closed) blameless fun _ => True :=
          .bind (RowsLayer.settleClose_spares hspan closed) hfill
        refine .unsheltered ?_ (.congr ?_ (fate_lent hw hat h hsettle fun closed v =>
          (layer.keepsEnded_settleClose v closed).trans (.of_spans rfl)))
        · simp [Handles.sheltersClose, hat, hfinished, hstate, DeferredState.isActive]
        · simp [closeSlot, hat, RowsLayer.close_of_unfinished hfinished, Deferred.inScope, hstate,
            alone, settle]

/-- What a client goes on with after its first step. -/
theorem fate_onward {p : Client β} {first : Client α} {next : α → Client β} {o : Prop}
    (hrun : after p.run w = after (first.run >>= fun a => (next a).run) w)
    (h : Fate n w first.run o)
    (hnext : ∀ a v, Amid n v → Fate n v (next a).run ((next a).Overtakes v)) :
    Fate n w p.run (o ∨ (next (result first.run w)).Overtakes (after first.run w)) :=
  .congr hrun (h.bind hw (fun hv _ => hnext _ _ hv) ((next _).keepsEnded_run _))

/-- What a client goes on with after a first step that spares the span. -/
theorem fate_onward_spares {p : Client β} {first : Action Handles Blame α} (next : α → Client β)
    (hrun : after p.run w = after (first >>= fun a => (next a).run) w)
    (h : Spares (watch n) w.current first blameless fun _ => True)
    (hnext : ∀ a v, Amid n v → Fate n v (next a).run ((next a).Overtakes v)) :
    Fate n w p.run ((next (result first w)).Overtakes (after first w)) :=
  .congr hrun (.after_spares h hw fun hv _ _ => hnext _ _ hv)

omit hw in
/-- Where the span of a request is current, a client overtakes the request or spares its span. -/
theorem Client.fate_run (p : Client α) (hw : Amid n w) : Fate n w p.run (p.Overtakes w) := by
  induction p generalizing w with
  | done a => exact .of_spares hw (Q := fun _ => True) (.pure trivial)
  | look next ih =>
    have hlook : after (Client.look next).run w = after (next w).run w := rfl
    exact .congr hlook (ih w hw)
  | wait ms next ih =>
    let pass : Action Handles Blame Unit := modify fun w => { w with clock := w.clock + ms }
    have hpass : Spares (watch n) w.current pass blameless fun _ => True :=
      ⟨fun v _ hopen =>
        ⟨hopen.spared_of_same rfl hopen.clear rfl (List.append_nil _).symm (by simp), trivial⟩⟩
    exact fate_onward_spares hw (fun _ => next) rfl hpass fun _ _ => ih
  | trace m source role callee next ihCallee ih =>
    have hcall : Fate n w (Client.trace m source role callee .done).run
        (role = .newQuery ∨ callee.Overtakes w.continued) := by
      cases role with
      | newQuery => simpa using fate_newQuery hw m source callee
      | continuation => simpa using fate_continuation hw m source callee fun hv _ => ihCallee hv
    simpa only [Client.Overtakes, or_assoc] using fate_onward hw rfl hcall fun x _ => ih x
  | send layers request noreply server next ihServer ih =>
    exact fate_onward hw rfl (fate_send hw layers request noreply server (ihServer hw))
      fun response _ => ih response
  | describe m source next ih =>
    have hwork : Spares (watch n) w.current (Client.describe m source .done).run blameless
        fun _ => True :=
      .bind_current <| .bind (m.describe_spares source) fun _ _ => .pure trivial
    exact fate_onward_spares hw next rfl hwork fun source _ => ih source
  | ambient provider name body next ihBody ih =>
    have hwork : Spares (watch n) w.current (Client.ambient provider name body .done).run blameless
        fun _ => True := by
      let inside (span : SpanRef) : Action Handles Blame _ := do
        let a ← within { w.current with span } body.run
        modify (·.finish span)
        (Client.done a).run
      refine .bind_current (Spares.bind_startSpan (f := inside) fun span hspan => ?_)
      exact .bind (.within (body.run_spares (tame_of_record hspan))) fun _ _ =>
        .bind (.finish hspan) fun _ _ => .pure trivial
    exact fate_onward_spares hw next rfl hwork fun a _ => ih a
  | detached body next ihBody ih =>
    have hwork : Spares (watch n) w.current (Client.detached body .done).run blameless
        fun _ => True :=
      .bind (.within (body.run_spares nofun)) fun _ _ => .pure trivial
    exact fate_onward_spares hw next rfl hwork fun a _ => ih a
  | keep h idle next ih =>
    have hwork : Spares (watch n) w.current (Client.keep h idle .done).run blameless
        fun _ => True :=
      .bind_get fun _ _ _ => .bind (changeHandles_spares fun hs hclear =>
        hclear.append (Handle.apart_of_idle idle)) fun _ _ => .pure trivial
    exact fate_onward_spares hw next rfl hwork fun slot _ => ih slot
  | use slot u next ih =>
    exact fate_onward_spares hw (fun _ => next) rfl (useSlot_spares slot u) fun _ _ => ih
  | inScope slot body next ihBody ih =>
    exact fate_onward hw rfl (fate_inScope hw slot body (ihBody hw)) fun a _ => ih a
  | fetch slot below next ihBelow ih =>
    exact fate_onward hw rfl (fate_fetch hw slot below ihBelow) fun row _ => ih row
  | close slot below next ihBelow ih =>
    exact fate_onward hw rfl (fate_close hw slot below ihBelow) fun result _ => ih result
  | giveUp slot next ih =>
    exact fate_onward_spares hw (fun _ => next) rfl (emptySlot_spares slot) fun _ _ => ih

end Clients

end QueryTrace
