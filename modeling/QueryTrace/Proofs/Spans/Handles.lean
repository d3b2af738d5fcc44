import QueryTrace.Proofs.Spans.Application
import QueryTrace.Proofs.Spans.Clients

/-!
# What clients hold

The handles of a client hold the spans that they have open, and every client moves from what its
handles hold to what they hold then. So a client knows only spans that are in the record
(`Client.run_known`), and a span that is still to start is in no handle (`Known.clear`).
-/

namespace QueryTrace

variable {α : Type}

def Handle.holds : Handle → Multiset Hold
  | .span d => d.holds
  | .rows layer => layer.holds

/-- What a slot holds. An empty one holds nothing. -/
def slotHolds : Option Handle → Multiset Hold
  | some handle => handle.holds
  | none => 0

/-- What the handles hold together. -/
def Handles.holds (hs : Handles) : Multiset Hold :=
  (hs.map slotHolds).sum

/-- All that the handles hold is held. -/
def HandlesHeld : Assertion Handles := fun H hs => hs.holds ≤ H

theorem Handle.holds_of_idle {handle : Handle} (h : handle.deferred.state = .idle) :
    handle.holds = 0 := by
  have hidle : handle.deferred.holds = 0 :=
    Deferred.holds_of_not_active fun context name hactive => by
      rw [h] at hactive
      cases hactive
  cases handle with
  | span d => exact hidle
  | rows layer =>
    cases hfinished : layer.finished with
    | true => exact RowsLayer.holds_of_finished hfinished
    | false => exact (RowsLayer.holds_of_unfinished hfinished).trans hidle

/-- What is held keeps away from a number if none of it is the span of this number. -/
theorem Handle.apart_of_holds {n : Nat} {handle : Handle}
    (h : ∀ hold ∈ handle.holds, hold.context.span.record ≠ some n) : handle.Apart n := by
  have hapart (d : Deferred) (hd : ∀ hold ∈ d.holds, hold.context.span.record ≠ some n) :
      d.Apart n := by
    intro context name hactive
    refine hd ⟨.tracing, context⟩ ?_
    rw [Deferred.holds_of_active hactive]
    exact Multiset.mem_singleton_self _
  cases handle with
  | span d => exact hapart d h
  | rows layer =>
    intro hfinished
    refine hapart layer.span ?_
    rw [← RowsLayer.holds_of_unfinished hfinished]
    exact h

namespace Handles

variable {hs : Handles} {slot : Nat}

theorem getElem?_of_at? {handle : Handle} (h : hs.at? slot = some handle) :
    hs[slot]? = some (some handle) :=
  Option.join_eq_some_iff.mp h

/-- A slot that is given another content. -/
theorem holds_set {handle? : Option Handle} (h : hs[slot]? = some handle?) :
    ∃ rest, hs.holds = rest + slotHolds handle? ∧
      ∀ new, Handles.holds (hs.set slot new) = rest + slotHolds new := by
  obtain ⟨rest, hrest, hmodify⟩ := Session.sum_map_modify slotHolds h
  refine ⟨rest, hrest, fun new => ?_⟩
  rw [Handles.holds, List.set_eq_modify, hmodify]

theorem holds_set_le (new : Option Handle) :
    Handles.holds (hs.set slot new) ≤ hs.holds + slotHolds new := by
  cases hslot : hs[slot]? with
  | none =>
    rw [List.set_eq_of_length_le (List.getElem?_eq_none_iff.mp hslot)]
    exact Multiset.le_add_right ..
  | some old =>
    obtain ⟨rest, hrest, hset⟩ := holds_set hslot
    rw [hrest, hset, add_right_comm]
    exact Multiset.le_add_right ..

theorem holds_append {handle : Handle} :
    Handles.holds (hs ++ [some handle]) = hs.holds + handle.holds := by
  simp [Handles.holds, slotHolds]

theorem holds_le_of_mem {handle : Handle} (h : some handle ∈ hs) : handle.holds ≤ hs.holds := by
  obtain ⟨slot, hslot⟩ := List.mem_iff_getElem?.mp h
  obtain ⟨rest, hrest, -⟩ := holds_set hslot
  rw [hrest]
  exact Multiset.le_add_left ..

end Handles

/-! ## Every client moves -/

section Does

variable {c : Context}

/-- The state of the program may be looked at. -/
theorem Does.bind_program {σ ν β : Type} {hands : Prop} {P : Assertion σ}
    {f : World σ ν → Action σ ν β} {R : β → Assertion σ}
    (h : ∀ w, Does hands c (fun H p => p = w.program ∧ P H p) (f w) R) :
    Does hands c P (get >>= f) R :=
  ⟨fun F H w hw hP => (h w).moves F H w hw ⟨rfl, hP⟩⟩

theorem changeHandles_does {P Q : Assertion Handles} {f : Handles → Handles}
    (h : ∀ H hs, P H hs → Q H (f hs)) : Does True c P (changeHandles f) fun _ => Q :=
  .work (fun w => f w.program) (·.clock) fun w H hP => h H w.program hP

theorem blaming_does {P : Assertion Handles} {Q : α → Assertion Handles} {span? : Option SpanRef}
    {failed : α → Bool} {act : Action Handles Blame α} (h : Does True c P act Q) :
    Does True c P (blaming span? failed act) Q := by
  have hend (a : α) : Does True c (Q a) (pure a : Action Handles Blame α) Q :=
    .pure fun _ _ hQ => hQ
  refine .bind h fun a => ?_
  cases span? with
  | none => exact hend a
  | some span =>
    dsimp only
    split
    · exact .bind (.note _) fun _ => hend a
    · exact hend a

theorem alone_does {P : Assertion Handles} {act : Action Handles Blame α}
    (h : Does True c P act fun _ => P) : Does True c P (alone act) fun _ => P :=
  .bind h fun _ => .skip _

theorem SpanUse.apply_does {σ ν : Type} {hands : Prop} {P : Assertion σ} (d : Deferred)
    (u : SpanUse) : Does hands c (P.plus d.holds) (u.apply d : Action σ ν Deferred)
      fun d' => P.plus d'.holds := by
  cases u with
  | start chain => exact .bind (d.start_does chain) fun _ => .pure fun _ _ hP => hP
  | noteError message => exact .bind (d.noteError_does message) fun _ => .pure fun _ _ hP => hP
  | noteRows rows => exact .bind (d.noteRows_does rows) fun _ => .pure fun _ _ hP => hP
  | stop chain =>
    exact .bind (d.stop_does chain) fun _ => .pure fun _ _ => Assertion.plus_of_zero

/-! ### What is done with the handle in a slot -/

/-- A handle that is taken out of its slot is in hand. -/
theorem takeSlot_does {hs : Handles} {slot : Nat} {handle : Handle}
    (h : hs.at? slot = some handle) :
    Does True c (fun H p => p = hs ∧ HandlesHeld H p) (changeHandles (·.set slot none))
      fun _ => HandlesHeld.plus handle.holds := by
  obtain ⟨rest, hrest, hset⟩ := Handles.holds_set (Handles.getElem?_of_at? h)
  refine changeHandles_does fun H p ⟨hp, hheld⟩ => ?_
  subst hp
  rw [HandlesHeld, hrest] at hheld
  obtain ⟨K, rfl⟩ := Multiset.le_iff_exists_add.mp hheld
  refine ⟨rest + K, ?_, add_right_comm ..⟩
  rw [HandlesHeld, hset]
  exact add_le_add_right (Multiset.zero_le K) rest

/-- A handle is put into a slot. -/
theorem fillSlot_does (slot : Nat) (handle : Handle) :
    Does True c (HandlesHeld.plus handle.holds) (changeHandles (·.set slot (some handle)))
      fun _ => HandlesHeld := by
  refine changeHandles_does fun H p hP => ?_
  obtain ⟨H₀, hheld, rfl⟩ := hP
  exact (Handles.holds_set_le (some handle)).trans (add_le_add_left hheld _)

theorem useSlot_does (slot : Nat) (u : SpanUse) :
    Does True c HandlesHeld (useSlot slot u) fun _ => HandlesHeld := by
  refine .bind_program fun w => ?_
  split
  · next d hat =>
    -- The slot still has the span of before, so only what the other slots hold counts.
    obtain ⟨rest, hrest, hset⟩ := Handles.holds_set (Handles.getElem?_of_at? hat)
    let others : Assertion Handles := fun H p => p = w.program ∧ rest ≤ H
    have huse : Does True c (others.plus d.holds) (u.apply d : Action Handles Blame Deferred)
        fun d' => others.plus d'.holds := u.apply_does d
    refine .bind (huse.weaken (fun H p ⟨hp, hheld⟩ => ?_) fun _ _ _ hQ => hQ) fun d' =>
      changeHandles_does fun H p hP => ?_
    · subst hp
      rw [HandlesHeld, hrest] at hheld
      obtain ⟨K, rfl⟩ := Multiset.le_iff_exists_add.mp hheld
      exact ⟨rest + K, ⟨rfl, Multiset.le_add_right ..⟩, add_right_comm ..⟩
    · obtain ⟨H₀, ⟨rfl, hle⟩, rfl⟩ := hP
      rw [HandlesHeld, hset]
      exact add_le_add_left hle _
  · exact (Does.skip ()).drop

theorem scopeSlot_does (slot : Nat) {act : Action Handles Blame α}
    (h : ∀ c', Does True c' HandlesHeld act fun _ => HandlesHeld) :
    Does True c HandlesHeld (scopeSlot slot act) fun _ => HandlesHeld := by
  refine .bind_program fun w => ?_
  split
  · next d hat =>
    refine d.inScope_does (fun H p ⟨hp, hheld⟩ => ?_) fun c' => (h c').drop
    subst hp
    have hmem : some (.span d) ∈ w.program := List.mem_of_getElem? (Handles.getElem?_of_at? hat)
    exact (Handles.holds_le_of_mem hmem).trans hheld
  · exact (h c).drop

theorem fetchSlot_does (slot : Nat)
    {fetch : Action Handles Blame (Except String (Option Value))}
    (h : ∀ c', Does True c' HandlesHeld fetch fun _ => HandlesHeld) :
    Does True c HandlesHeld (fetchSlot slot fetch) fun _ => HandlesHeld := by
  refine .bind_program fun w => ?_
  dsimp only
  split
  · next layer hat =>
    refine .bind (takeSlot_does hat) fun _ => ?_
    refine .bind (layer.next_does fun c' => alone_does (h c')) fun x => ?_
    exact .bind (fillSlot_does slot (.rows x.2)) fun _ => .skip _
  · exact (h c).drop

theorem closeSlot_does (slot : Nat) {inner : Action Handles Blame (Except String Unit)}
    (h : ∀ c', Does True c' HandlesHeld inner fun _ => HandlesHeld) :
    Does True c HandlesHeld (closeSlot slot inner) fun _ => HandlesHeld := by
  refine .bind_program fun w => ?_
  dsimp only
  split
  · next layer hat =>
    refine .bind (takeSlot_does hat) fun _ => ?_
    refine .bind (layer.close_does fun c' => alone_does (h c')) fun x => ?_
    exact .bind (fillSlot_does slot (.rows x.2)) fun _ => .skip _
  · exact (h c).drop

theorem emptySlot_does (slot : Nat) :
    Does True c HandlesHeld (emptySlot slot) fun _ => HandlesHeld := by
  refine .bind_program fun w => ?_
  dsimp only
  split
  · next d hat => exact .bind (takeSlot_does hat) fun _ => d.abandon_does
  · next layer hat => exact .bind (takeSlot_does hat) fun _ => layer.drop_does
  · next hat =>
    refine .bind (changeHandles_does fun H p ⟨_, hheld⟩ => ?_) fun _ => .skip _
    have hle : Handles.holds (p.set slot none) ≤ p.holds + 0 := Handles.holds_set_le none
    rw [add_zero] at hle
    exact hle.trans hheld

/-- A client goes from what its handles hold to what they hold then, in any context. -/
theorem Client.run_does (p : Client α) : Does True c HandlesHeld p.run fun _ => HandlesHeld := by
  induction p generalizing c with
  | done a => exact .skip a
  | look next ih => exact .bind_get fun w => ih w
  | wait ms next ih =>
    have hwait : Does True c HandlesHeld
        (modify fun w : World Handles Blame => { w with clock := w.clock + ms })
        fun _ => HandlesHeld :=
      .work (·.program) (·.clock + ms) fun _ _ hheld => hheld
    exact .bind hwait fun _ => ih
  | trace m source role callee next ihCallee ih =>
    exact .bind_current <| .bind (blaming_does (m.trace_does source role fun _ => ihCallee))
      fun x => ih x
  | send layers request noreply server next ihServer ih =>
    exact .bind_current <| .bind (blaming_does (Layer.sendThrough_does (fun _ => ihServer) layers))
      fun response => ih response
  | describe m source next ih =>
    exact .bind_current <| .bind (m.describe_does source fun _ _ _ => .inr ⟨rfl, .inr trivial⟩)
      fun source => ih source
  | ambient provider name body next ihBody ih =>
    let work (span : SpanRef) : Action Handles Blame _ := do
      let a ← within { c with span } body.run
      modify (·.finish span)
      (next a).run
    refine .bind_current (Does.bind_startSpan (f := work) fun span => ?_)
    let hold : Hold := ⟨.application, { c with span }⟩
    have hbody : Does True { c with span } (HandlesHeld.plus {hold}) body.run
        fun _ => HandlesHeld.plus {hold} := ihBody.plus {hold}
    exact .bind (.within (fun _ _ => attachable_of_plus hold) hbody) fun a =>
      .bind (.close hold) fun _ => ih a
  | detached body next ihBody ih =>
    exact .bind (.within (fun _ _ _ => .inl rfl) ihBody) fun a => ih a
  | keep h idle next ih =>
    refine .bind_get fun w => .bind (changeHandles_does fun H hs hheld => ?_) fun _ => ih _
    rw [HandlesHeld, Handles.holds_append, Handle.holds_of_idle idle, add_zero]
    exact hheld
  | use slot u next ih => exact .bind (useSlot_does slot u) fun _ => ih
  | inScope slot body next ihBody ih =>
    exact .bind (scopeSlot_does slot fun _ => ihBody) fun a => ih a
  | fetch slot below next ihBelow ih =>
    exact .bind (fetchSlot_does slot fun _ => ihBelow) fun row => ih row
  | close slot below next ihBelow ih =>
    exact .bind (closeSlot_does slot fun _ => ihBelow) fun result => ih result
  | giveUp slot next ih => exact .bind (emptySlot_does slot) fun _ => ih

end Does

/-! ## Spans of the future -/

variable {w : World Handles Blame}

/-- No client has a handle on a span that has not started, and none is current. -/
theorem Client.run_known (p : Client α) (h : Known (w.program.holds, w)) :
    Known ((after p.run w).program.holds, after p.run w) := by
  obtain ⟨H, hheld, hpath, -⟩ := (p.run_does (c := w.current)).moves 0 w.program.holds w rfl le_rfl
  rw [zero_add, zero_add] at hpath
  have hknown : Known (H, after p.run w) := hpath.invariant (known_move True) h
  exact hknown.of_le (Multiset.subset_of_le hheld) (List.Subset.refl _) le_rfl

/-- So a span that is still to start is in nobody's hands. -/
theorem Known.clear (h : Known (w.program.holds, w)) {n : Nat} (hn : w.spans.length ≤ n) :
    w.program.Clear n := by
  intro handle hmem
  refine Handle.apart_of_holds fun hold hhold hrecord => ?_
  have hle : handle.holds ≤ w.program.holds := Handles.holds_le_of_mem hmem
  exact Nat.not_lt.mpr hn (h.held hold (Multiset.mem_of_le hle hhold) n hrecord)

end QueryTrace
