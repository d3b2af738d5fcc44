import QueryTrace.Proofs.Holding.Session
import QueryTrace.Proofs.Transparency.Desk

/-!
# Spans of the application

A context has a current span and the mark of a query, and a span of the application takes the place
of the one but leaves the other. While a query is active around it, the layers take the span of the
application for that of the query: they describe it, mark it as continued or as failed, and may even
end it. This is exactly when it happens (`ambient_untouched_iff`): a span of the application that
starts outside of any query is left alone by all that is done inside it.

Programs that describe or end the current span by hand are left out.
-/

namespace QueryTrace

variable {σ ν : Type}

/-! ## Spans that are known -/

/-- All spans that are held or current are in the record. -/
structure Known (s : Situation σ ν) : Prop where
  held : ∀ h ∈ s.1, ∀ n, h.context.span.record = some n → n < s.2.spans.length
  attached : ∀ c ∈ s.2.contexts, ∀ n, c.span.record = some n → n < s.2.spans.length

namespace Known

variable {H H' : Multiset Hold} {w v : World σ ν}

/-- The current span is in the record, also when nothing is attached. -/
theorem current (h : Known (H, w)) {n : Nat} (hn : w.current.span.record = some n) :
    n < w.spans.length := by
  cases hcontexts : w.contexts with
  | nil => simp [World.current, hcontexts] at hn
  | cons c rest =>
    refine h.attached c (by simp [hcontexts]) n ?_
    simpa [World.current, hcontexts] using hn

theorem of_le (h : Known (H, w)) (hH : H' ⊆ H) (hcontexts : v.contexts ⊆ w.contexts)
    (hlength : w.spans.length ≤ v.spans.length) : Known (H', v) where
  held hold hmem n hn := (h.held hold (hH hmem) n hn).trans_le hlength
  attached c hmem n hn := (h.attached c (hcontexts hmem) n hn).trans_le hlength

end Known

theorem known_move (hands : Prop) (s t : Situation σ ν) (hmove : Move hands s t) (h : Known s) :
    Known t := by
  cases hmove with
  | logged H w level message fields =>
    exact h.of_le (Multiset.Subset.refl H) (by simp) (by simp)
  | noted H w n => exact h.of_le (Multiset.Subset.refl H) (by simp) (by simp)
  | worked H w program clock =>
    exact h.of_le (Multiset.Subset.refl H) (List.Subset.refl _) le_rfl
  | attached H w c hc =>
    refine ⟨h.held, fun c' hmem n hn => ?_⟩
    rcases List.mem_cons.mp hmem with rfl | hmem
    · obtain rfl | rfl | ⟨hold, hhold, rfl⟩ := hc
      · cases hn
      · exact h.current hn
      · exact h.held hold hhold n hn
    · exact h.attached c' hmem n hn
  | detached H w => exact h.of_le (Multiset.Subset.refl H) (fun _ => List.mem_of_mem_tail) le_rfl
  | opened H w provider scope name active =>
    have hle := w.length_spans_startSpan provider scope name w.current.span
    refine ⟨fun hold hmem n hn => ?_, fun c hmem n hn => ?_⟩
    · rcases Multiset.mem_cons.mp hmem with rfl | hmem
      · exact (w.record_startSpan provider scope name w.current.span hn).2
      · exact (h.held hold hmem n hn).trans_le hle
    · rw [World.contexts_startSpan] at hmem
      exact (h.attached c hmem n hn).trans_le hle
  | annotated H w span attrs =>
    exact h.of_le (Multiset.Subset.refl H) (by simp) (w.length_spans_amend span _).ge
  | failed H w span description =>
    exact h.of_le (Multiset.Subset.refl H) (by simp) (w.length_spans_amend span _).ge
  | closed H w hold =>
    exact h.of_le (Multiset.subset_cons H hold) (by simp) (w.length_spans_finish _).ge
  | ended H w => exact h.of_le (Multiset.Subset.refl H) (by simp) (w.length_spans_finish _).ge

/-! ## A span that the layers leave alone -/

/-- A span of the application as it was when it started. No layer holds it, and it is current only
where no query is active. -/
structure Untouched (n : Nat) (name : String) (s : Situation σ ν) : Prop where
  blank : s.2.spans[n]? = some { name, scope := .application }
  held : ∀ h ∈ s.1, h.context.span.record ≠ some n
  attached : ∀ c ∈ s.2.contexts, c.span.record = some n → c.active = none

namespace Untouched

variable {n : Nat} {name : String} {H : Multiset Hold} {w : World σ ν}

theorem lt (h : Untouched n name (H, w)) : n < w.spans.length :=
  (List.getElem?_eq_some_iff.mp h.blank).1

theorem current (h : Untouched n name (H, w)) (hn : w.current.span.record = some n) :
    w.current.active = none := by
  cases hcontexts : w.contexts with
  | nil => simp [World.current, hcontexts]
  | cons c rest =>
    have hcurrent : w.current = c := by simp [World.current, hcontexts]
    rw [hcurrent] at hn ⊢
    exact h.attached c (by simp [hcontexts]) hn

/-- What a layer may touch is another span. -/
theorem touchable (h : Untouched n name (H, w)) {span : SpanRef}
    (hspan : Touchable False H w.current span) : span.record ≠ some n := by
  rcases hspan with ⟨hold, hmem, -, rfl⟩ | ⟨rfl, hactive | hhands⟩
  · exact h.held hold hmem
  · exact fun hn => hactive (h.current hn)
  · exact hhands.elim

theorem amend (h : Untouched n name (H, w)) {span : SpanRef} (hspan : span.record ≠ some n)
    (f : SpanRecord → SpanRecord) : Untouched n name (H, w.amend span f) where
  blank := (w.getElem?_spans_amend_of_ne span hspan f).trans h.blank
  held := h.held
  attached := by
    rw [World.contexts_amend]
    exact h.attached

theorem finish (h : Untouched n name (H, w)) {span : SpanRef} (hspan : span.record ≠ some n) :
    Untouched n name (H, w.finish span) where
  blank := (w.getElem?_spans_finish_of_ne span hspan).trans h.blank
  held := h.held
  attached := by
    rw [World.contexts_finish]
    exact h.attached

end Untouched

/-- No move of a program without free hands touches the span. -/
theorem untouched_move (n : Nat) (name : String) (s t : Situation σ ν) (hmove : Move False s t)
    (h : Untouched n name s) : Untouched n name t := by
  cases hmove with
  | logged H w level message fields =>
    refine ⟨?_, h.held, ?_⟩
    · rw [World.spans_log]
      exact h.blank
    · rw [World.contexts_log]
      exact h.attached
  | noted H w n => exact ⟨h.blank, h.held, h.attached⟩
  | worked H w program clock => exact ⟨h.blank, h.held, h.attached⟩
  | attached H w c hc =>
    refine ⟨h.blank, h.held, fun c' hmem hn => ?_⟩
    rcases List.mem_cons.mp hmem with rfl | hmem
    · obtain rfl | rfl | ⟨hold, hhold, rfl⟩ := hc
      · rfl
      · exact h.current hn
      · exact absurd hn (h.held hold hhold)
    · exact h.attached c' hmem hn
  | detached H w => exact ⟨h.blank, h.held, fun c hmem => h.attached c (List.mem_of_mem_tail hmem)⟩
  | opened H w provider scope name' active =>
    refine ⟨?_, fun hold hmem hn => ?_, ?_⟩
    · exact (w.getElem?_spans_startSpan provider scope name' w.current.span h.lt).trans h.blank
    · rcases Multiset.mem_cons.mp hmem with rfl | hmem
      · have hnew := (w.record_startSpan provider scope name' w.current.span hn).1
        exact h.lt.ne hnew
      · exact h.held hold hmem hn
    · rw [World.contexts_startSpan]
      exact h.attached
  | annotated H w span attrs hspan => exact h.amend (h.touchable hspan) _
  | failed H w span description hspan => exact h.amend (h.touchable hspan) _
  | closed H w hold =>
    have hrest : Untouched n name (H, w) :=
      ⟨h.blank, fun hold' hmem => h.held hold' (Multiset.mem_cons_of_mem hmem), h.attached⟩
    exact hrest.finish (h.held hold (Multiset.mem_cons_self hold H))
  | ended H w hstale =>
    refine h.finish fun hn => ?_
    rcases hstale with hstale | hhands
    · rw [h.current hn] at hstale
      cases hstale
    · exact hhands

/-! ## Sessions -/

namespace Session

/-- A world in the middle of a session without work by hand: the desk is kept, and all spans that
are held or current are in the record. Calls that are still under way hold `F`. -/
def Underway (w : World Desk Note) : Prop :=
  ∃ S F H, Kept False S H w.program ∧ Known (F + H, w)

theorem underway_initial (s : Script) : Underway s.initial := by
  refine ⟨0, 0, 0, ⟨rfl, .nil, fun n => ?_, fun server hserver => by cases hserver⟩, ?_⟩
  · simp [Script.initial, Desk.shares]
  · exact ⟨fun h hmem => absurd hmem (Multiset.notMem_zero h), fun c hmem => by cases hmem⟩

theorem AllSteps.noHands {steps : List Step} (h : AllSteps (·.byHand = false) steps) :
    AllSteps (fun s => s.byHand = true → False) steps :=
  fun step hstep => (h step hstep).mono fun s hs hhands => by simp [hs] at hhands

section Underway

variable {w : World Desk Note}

/-- What a call or an ambient step does inside the span that it starts is done under way. -/
theorem Underway.inSpan (h : Underway w) (provider : Provider) (scope : Scope) (name : String)
    {active : Option Mode} (hactive : scope = .application → active = w.current.active) :
    let started := w.startSpan provider scope name w.current.span
    Underway (started.2.attach { w.current with span := started.1, active }) := by
  intro started
  obtain ⟨S, F, H, hkept, hknown⟩ := h
  let context : Context := { w.current with span := started.1, active }
  have henter : Path False (F + H, w) (⟨scope, context⟩ ::ₘ (F + H), started.2.attach context) :=
    .enter (F + H) w provider scope name hactive
  refine ⟨S, ⟨scope, context⟩ ::ₘ F, H, by simpa [started] using hkept, ?_⟩
  rw [Multiset.cons_add]
  exact henter.invariant (known_move False) hknown

theorem Underway.inAmbient (h : Underway w) (name : String) (provider : Provider) :
    Underway (inAmbient w name provider) :=
  h.inSpan provider .application name fun _ => rfl

theorem Underway.runSteps (h : Underway w) (fuel depth : Nat) {steps : List Step}
    (hsteps : AllSteps (·.byHand = false) steps) :
    Underway (after (runSteps fuel depth steps) w) ∧
      (after (runSteps fuel depth steps) w).contexts = w.contexts := by
  obtain ⟨S, F, H, hkept, hknown⟩ := h
  obtain ⟨H', hkept', hpath, hcontexts⟩ := (keeping_runSteps False fuel depth w.current S steps
    hsteps.noHands).moves F H w rfl hkept
  exact ⟨⟨S, F, H', hkept', hpath.invariant (known_move False) hknown⟩, hcontexts⟩

end Underway

/-- Where no query is active, the span of an ambient step is left alone by all steps inside it. -/
theorem untouched_runSteps {w : World Desk Note} (hw : Underway w)
    (hactive : w.current.active = none) (name : String) (fuel depth : Nat) {body : List Step}
    (hbody : AllSteps (·.byHand = false) body) :
    (after (runSteps fuel depth body) (inAmbient w name .recording)).spans[w.spans.length]? =
      some { name, scope := .application } := by
  obtain ⟨S, F, H, hkept, hknown⟩ := hw
  let inside := inAmbient w name .recording
  -- The span is new, so nothing that is held or attached is in the way.
  have hstart : Untouched w.spans.length name (H, inside) := by
    refine ⟨?_, fun h hmem hn => ?_, fun c hmem hn => ?_⟩
    · simp [inside, inAmbient, World.startSpan]
    · exact (hknown.held h (Multiset.mem_add.mpr (.inr hmem)) _ hn).ne rfl
    · rcases List.mem_cons.mp hmem with rfl | hmem
      · exact hactive
      · rw [World.contexts_startSpan] at hmem
        exact absurd (hknown.attached c hmem _ hn) (lt_irrefl _)
  obtain ⟨H', -, hpath, -⟩ := (keeping_runSteps False fuel depth inside.current S body
    hbody.noHands).moves 0 H inside rfl (by simpa [inside, inAmbient] using hkept)
  rw [zero_add, zero_add] at hpath
  exact (hpath.invariant (untouched_move _ name) hstart).blank

/-! ### Runs of turns -/

section Turns

variable {α β : Type} {w v : World Desk Note}

theorem run_turn_bind {turn : Turn α} {f : α → Turn β} {a : α}
    (h : turn.run.run w = (.ok a, v)) : (turn >>= f).run.run w = (f a).run.run v := by
  show (turn.run >>= ExceptT.bindCont f).run w = _
  rw [StateT.run_bind, h]
  rfl

theorem run_find {name : String} {o : Object} {a : α} {pick : Object → Option α}
    (hhas : w.program.Has name o) (hpick : pick o = some a) :
    (find pick name).run.run w = (.ok a, w) := by
  have hlookup : (lookup? name).run w = (some o, w) := by
    show ((w.program.objects.find? (·.1 = name)).map (·.2), w) = _
    rw [hhas]
  have hlift : (ExceptT.lift (lookup? name) : Turn _).run.run w = (.ok (some o), w) := by
    show ((.ok ((lookup? name).run w).1, ((lookup? name).run w).2) : Except Fault _ × _) = _
    rw [hlookup]
  unfold find
  refine (run_turn_bind hlift).trans ?_
  rw [Option.bind_some, hpick]
  rfl

end Turns

/-! ### Inside a query -/

/-- An instrumentor is made. -/
def makeI : Step :=
  .instrument (some "i") .standard (.own .recording) none

/-- A request is carried out that continues the query in flight. -/
def continueI : Step :=
  .execute "i" (.request "[2]" none) .continuation [] (.ok .null)

theorem has_makeI (fuel depth : Nat) (w : World Desk Note) :
    ∃ i, (after (runSteps (fuel + 1) depth [makeI]) w).program.Has "i" (.instrumentor i) := by
  let i := makeInstrumentor w.program.provider .standard (.own .recording) none
  refine ⟨i, ?_⟩
  have hstored : (after (store "i" (.instrumentor i)) w).program.objects =
      insertField "i" (.instrumentor i) w.program.objects := by
    unfold store
    rw [after_bind, after_bind]
    split
    · exact (inert_discard _).objects _
    · rfl
  have hobjects : (after (runSteps (fuel + 1) depth [makeI]) w).program.objects =
      insertField "i" (.instrumentor i) w.program.objects := hstored
  unfold Desk.Has
  rw [hobjects, find?_insertField]
  rfl

/-- A continuation marks the current span while a query is active. -/
theorem spans_continueI (fuel depth : Nat) {w : World Desk Note} {i : Instrumentor} {mode : Mode}
    (hhas : w.program.Has "i" (.instrumentor i)) (hactive : w.current.active = some mode) :
    (after (runSteps (fuel + 2) depth [continueI]) w).spans =
      (w.annotate w.current.span [("db.x.continue", .flag true)]).spans := by
  let react := runSteps (fuel + 1) (depth + 1)
  let source : Source := .request "[2]" (.ofRequest "[2]" "r")
  let call : Doing (Except String Value) := callee react [] (.ok .null)
  have hfind : (findInstrumentor "i").run.run w = (.ok i, w) := run_find hhas rfl
  have hexecute : after (continueI.perform react (fuel + 2)).run w =
      after (i.manager.trace source .continuation call) w := by
    show ((execute react "i" (.request "[2]" none) .continuation [] (.ok .null)).run.run w).2 = _
    unfold execute
    rw [run_turn_bind hfind]
    rfl
  have htrace : (after (i.manager.trace source .continuation call) w).spans =
      ((w.log .debug "continuing span of the active query" [("mode", .text mode.name)]).annotate
        w.current.span [("db.x.continue", .flag true)]).spans := by
    simp only [Manager.trace, after_bind, after_current, result_current, hactive]
    rfl
  have hlog (level : Level) (message : String) (fields : List Attr) (span : SpanRef)
      (attrs : List Attr) : ((w.log level message fields).annotate span attrs).spans =
        (w.annotate span attrs).spans := by
    unfold World.annotate World.amend
    split <;> simp
  have hsteps : (after (runSteps (fuel + 2) depth [continueI]) w).spans =
      (after (continueI.perform react (fuel + 2)).run w).spans := rfl
  rw [hsteps, hexecute, htrace, hlog]

/-- Two steps inside an ambient step that describe its span if a query is active: the span cannot
be blank after both of them. -/
theorem not_blank_continueI {w : World Desk Note} (hw : Underway w) {mode : Mode}
    (hactive : w.current.active = some mode) (name : String) :
    (after (runSteps 2 0 [makeI, continueI]) (inAmbient w name .recording)).spans[w.spans.length]? ≠
      some { name, scope := .application } := by
  let inside := inAmbient w name .recording
  let made := after (runSteps 2 0 [makeI]) inside
  have hmake : AllSteps (·.byHand = false) [makeI] :=
    List.forall_mem_singleton.mpr (.intro rfl AllSteps.nil)
  have hcurrent : made.current = { w.current with span := ambientSpan w name .recording } := by
    show made.contexts.headD {} = _
    rw [((hw.inAmbient name .recording).runSteps 2 0 hmake).2]
    rfl
  obtain ⟨i, hhas⟩ := has_makeI 1 0 inside
  have hinside : made.current.active = some mode := by
    rw [hcurrent]
    exact hactive
  have hspans : (after (runSteps 2 0 [makeI, continueI]) inside).spans =
      (made.annotate made.current.span [("db.x.continue", .flag true)]).spans :=
    spans_continueI 0 0 hhas hinside
  rw [hspans, hcurrent, World.annotate, World.getElem?_spans_amend]
  -- Whatever the first step left of the span, the second one has added an attribute to it.
  cases hspan : made.spans[w.spans.length]? with
  | none => simp
  | some r =>
    cases hended : r.ended with
    | false => simp [ambientSpan, World.startSpan, hended]
    | true =>
      intro hblank
      have hopen := congrArg SpanRecord.ended (Option.some.inj hblank)
      simp [hended] at hopen

/-- The span of an ambient step is left alone by everything that is done inside the step exactly if
no query is active around the step. -/
theorem ambient_untouched_iff {w : World Desk Note} (hw : Underway w) (name : String) :
    (∀ fuel depth body, AllSteps (·.byHand = false) body →
      (after (runSteps fuel depth body) (inAmbient w name .recording)).spans[w.spans.length]? =
        some { name, scope := .application }) ↔ w.current.active = none := by
  constructor
  · intro hblank
    cases hactive : w.current.active with
    | none => rfl
    | some mode =>
      have hboth : AllSteps (·.byHand = false) [makeI, continueI] := by
        intro step hstep
        rcases List.mem_cons.mp hstep with rfl | hstep
        · exact .intro rfl AllSteps.nil
        · obtain rfl := List.mem_singleton.mp hstep
          exact .intro rfl AllSteps.nil
      exact absurd (hblank 2 0 _ hboth) (not_blank_continueI hw hactive name)
  · exact fun hactive fuel depth body => untouched_runSteps hw hactive name fuel depth

/-- The world in which a session starts. -/
def outsideQuery : World Desk Note :=
  Script.initial { steps := [] }

/-- The world in which the callee of a chain's execution is called. -/
def insideQuery : World Desk Note :=
  let started := outsideQuery.startSpan .recording .tracing "/table" {}
  started.2.attach { span := started.1, active := some .chain }

theorem underway_insideQuery : Underway insideQuery :=
  (underway_initial { steps := [] }).inSpan .recording .tracing "/table" fun h => by cases h

theorem ambient_untouched_outsideQuery :
    (Underway outsideQuery ∧
      ∀ fuel depth body, AllSteps (·.byHand = false) body →
        (after (runSteps fuel depth body) (inAmbient outsideQuery "app" .recording)).spans[0]? =
          some { name := "app", scope := .application }) ∧
    Underway insideQuery ∧
      ¬ ∀ fuel depth body, AllSteps (·.byHand = false) body →
        (after (runSteps fuel depth body) (inAmbient insideQuery "app" .recording)).spans[1]? =
          some { name := "app", scope := .application } := by
  have houtside : Underway outsideQuery := underway_initial { steps := [] }
  refine ⟨⟨houtside, ?_⟩, underway_insideQuery, fun h => ?_⟩
  · exact (ambient_untouched_iff houtside "app").mpr rfl
  · have hactive := (ambient_untouched_iff underway_insideQuery "app").mp h
    cases hactive

/-- A continuation is carried out while a span of the application is current inside a query. -/
def continuedScript : Script where
  steps :=
    [makeI, .chain (some "x") "table" .none,
     .execute "i" (.chain "x") .newQuery [.ambient "app" .recording [continueI]] (.ok .null)]

/-- Not every span of the application ends as blank as it started. -/
theorem exists_described_application_span :
    ¬ ∀ s : Script, AllSteps (·.byHand = false) s.steps →
      ∀ n name parent, .started n name parent .application ∈ s.journal →
        ∀ attrs failure, .ended n name attrs failure ∈ s.journal →
          attrs = [] ∧ failure = none := by
  intro h
  have hcontinue : AllSteps (·.byHand = false) [continueI] :=
    List.forall_mem_singleton.mpr (.intro rfl AllSteps.nil)
  have hambient : AllSteps (·.byHand = false) [.ambient "app" .recording [continueI]] :=
    List.forall_mem_singleton.mpr (.intro rfl hcontinue)
  have hsteps : AllSteps (·.byHand = false) continuedScript.steps := by
    intro step hstep
    simp only [continuedScript, List.mem_cons, List.not_mem_nil, or_false] at hstep
    rcases hstep with rfl | rfl | rfl
    · exact .intro rfl AllSteps.nil
    · exact .intro rfl AllSteps.nil
    · exact .intro rfl hambient
  have hstarted : .started 1 "app" (some (.recorded 0)) .application ∈ continuedScript.journal :=
    List.mem_of_getElem? (i := 4) rfl
  have hended : .ended 1 "app" [("db.x.continue", .flag true)] none ∈ continuedScript.journal :=
    List.mem_of_getElem? (i := 7) rfl
  obtain ⟨hblank, -⟩ := h continuedScript hsteps 1 "app" _ hstarted _ _ hended
  cases hblank

end Session

end QueryTrace
