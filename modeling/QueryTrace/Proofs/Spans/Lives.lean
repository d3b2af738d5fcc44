import QueryTrace.Proofs.Chains.Runs
import QueryTrace.Proofs.Rows.Calls
import QueryTrace.Proofs.Spans.Application

/-!
# The life of a deferred span

A deferred span goes through a program from hand to hand. It is started and stopped, is told about
failures and rows, and things are done in its scope; between these uses the rest of the program does
whatever programs do to spans and contexts. A life is such a sequence of events, of any length and
cut at any moment.

Every use follows the rules (`Event.Lawful`), and at the end of every life one of the spans that the
uses opened is open if the deferred span is active, and none otherwise (`Life.lawful`). One
invariant carries this: whoever holds an open span holds it alone, so nobody else can end it. And
it is current nowhere for a request, so it is never taken for a stale span.
-/

namespace QueryTrace

variable {σ ν : Type}

/-! ## Spans that are held alone -/

/-- The span with this number has started and has not ended. -/
def World.isOpen (w : World σ ν) (n : Nat) : Bool :=
  (w.spans[n]?).any (!·.ended)

/-- What is held is a hold on the span with this number. -/
def Hold.IsOf (n : Nat) (h : Hold) : Prop :=
  h.context.span.record = some n

instance (n : Nat) : DecidablePred (Hold.IsOf n) :=
  fun h => inferInstanceAs (Decidable (h.context.span.record = some n))

/-- There is at most one hold on the span. As long as there is one the span is open. Nowhere is the
span current for a request. -/
structure Sole (n : Nat) (s : Situation σ ν) : Prop where
  started : n < s.2.spans.length
  once : s.1.countP (Hold.IsOf n) ≤ 1
  isOpen : ∀ h ∈ s.1, h.IsOf n → s.2.isOpen n = true
  held : ∀ h ∈ s.1, h.IsOf n → h.context.active ≠ some .request
  attached : ∀ c ∈ s.2.contexts, c.span.record = some n → c.active ≠ some .request

namespace World

variable {w v : World σ ν} {n : Nat}

theorem isOpen_iff : w.isOpen n = true ↔ ∃ r, w.spans[n]? = some r ∧ r.ended = false := by
  unfold isOpen
  cases w.spans[n]? <;> simp

theorem isOpen_of_stages (h : v.stages = w.stages) (n : Nat) : v.isOpen n = w.isOpen n := by
  have hstage (u : World σ ν) : u.isOpen n = (u.stages[n]?).any (!·.2.2) := by
    rw [isOpen, getElem?_stages]
    cases u.spans[n]? <;> rfl
  rw [hstage, hstage, h]

theorem isOpen_finish_of_ne {span : SpanRef} (h : span.record ≠ some n) :
    (w.finish span).isOpen n = w.isOpen n := by
  rw [isOpen, isOpen, w.getElem?_spans_finish_of_ne span h]

theorem isOpen_startSpan (provider : Provider) (scope : Scope) (name : String) (parent : SpanRef)
    (h : n < w.spans.length) :
    (w.startSpan provider scope name parent).2.isOpen n = w.isOpen n := by
  rw [isOpen, isOpen, w.getElem?_spans_startSpan _ _ _ _ h]

/-- A span does not open again. -/
theorem KeepsEnded.isOpen (h : w.KeepsEnded v) (hn : n < w.spans.length)
    (hopen : v.isOpen n = true) : w.isOpen n = true := by
  obtain ⟨r, hr, hrecording⟩ := isOpen_iff.mp hopen
  refine isOpen_iff.mpr ⟨w.spans[n], List.getElem?_eq_getElem hn, ?_⟩
  cases hended : w.spans[n].ended with
  | false => rfl
  | true =>
    obtain rfl := Option.some.inj ((h n _ (List.getElem?_eq_getElem hn) hended).symm.trans hr)
    exact hended.symm.trans hrecording

end World

namespace Sole

variable {n : Nat} {H H' : Multiset Hold} {w v : World σ ν}

theorem current (h : Sole n (H, w)) (hn : w.current.span.record = some n) :
    w.current.active ≠ some .request := by
  cases hcontexts : w.contexts with
  | nil => simp [World.current, hcontexts]
  | cons c rest =>
    have hcurrent : w.current = c := by simp [World.current, hcontexts]
    rw [hcurrent] at hn ⊢
    exact h.attached c (by simp [hcontexts]) hn

/-- No span starts or ends. -/
theorem of_stages (h : Sole n (H, w)) (hstages : v.stages = w.stages)
    (hcontexts : v.contexts ⊆ w.contexts) : Sole n (H, v) where
  started := by
    rw [← World.length_stages, hstages, World.length_stages]
    exact h.started
  once := h.once
  isOpen hold hmem hof := (World.isOpen_of_stages hstages n).trans (h.isOpen hold hmem hof)
  held := h.held
  attached c hmem := h.attached c (hcontexts hmem)

theorem of_quiet (h : Sole n (H, w)) (hquiet : w.Quiet v) : Sole n (H, v) :=
  h.of_stages hquiet.stages (hquiet.contexts ▸ List.Subset.refl _)

/-- Another span ends. -/
theorem finish (h : Sole n (H, w)) {span : SpanRef} (hspan : span.record ≠ some n) :
    Sole n (H, w.finish span) where
  started := by
    rw [World.length_spans_finish]
    exact h.started
  once := h.once
  isOpen hold hmem hof := (World.isOpen_finish_of_ne hspan).trans (h.isOpen hold hmem hof)
  held := h.held
  attached := by
    rw [World.contexts_finish]
    exact h.attached

/-- Who holds the span ends it. There is no other hold on it. -/
theorem finish_held {hold : Hold} (h : Sole n (hold ::ₘ H, w)) :
    Sole n (H, w.finish hold.context.span) := by
  by_cases hof : hold.IsOf n
  · have honce := h.once
    rw [Multiset.countP_cons_of_pos _ hof] at honce
    have hnone : H.countP (Hold.IsOf n) = 0 := by omega
    have hfree : ∀ other ∈ H, ¬other.IsOf n := Multiset.countP_eq_zero.mp hnone
    refine ⟨?_, hnone.trans_le (Nat.zero_le 1), fun other hmem hother => ?_,
      fun other hmem hother => ?_, ?_⟩
    · rw [World.length_spans_finish]
      exact h.started
    · exact absurd hother (hfree other hmem)
    · exact absurd hother (hfree other hmem)
    · rw [World.contexts_finish]
      exact h.attached
  · have hrest : Sole n (H, w) :=
      ⟨h.started, (Multiset.countP_cons_of_neg _ hof).symm.trans_le h.once,
        fun other hmem => h.isOpen other (Multiset.mem_cons_of_mem hmem),
        fun other hmem => h.held other (Multiset.mem_cons_of_mem hmem), h.attached⟩
    exact hrest.finish hof

end Sole

theorem sole_move (n : Nat) (s t : Situation σ ν) (hmove : Move False s t) (h : Sole n s) :
    Sole n t := by
  cases hmove with
  | logged H w level message fields => exact h.of_quiet (w.quiet_log ..)
  | noted H w note => exact h.of_stages rfl (List.Subset.refl _)
  | worked H w program clock => exact h.of_stages rfl (List.Subset.refl _)
  | attached H w c hc =>
    refine ⟨h.started, h.once, h.isOpen, h.held, fun c' hmem hn => ?_⟩
    rcases List.mem_cons.mp hmem with rfl | hmem
    · obtain rfl | rfl | ⟨hold, hhold, rfl⟩ := hc
      · exact nofun
      · exact h.current hn
      · exact h.held hold hhold hn
    · exact h.attached c' hmem hn
  | detached H w => exact h.of_stages rfl fun _ => List.mem_of_mem_tail
  | opened H w provider scope name active =>
    -- The new hold is on a span with another number.
    have hother : ¬Hold.IsOf n ⟨scope, { w.current with
        span := (w.startSpan provider scope name w.current.span).1, active }⟩ := fun hof =>
      h.started.ne (w.record_startSpan provider scope name w.current.span hof).1
    refine ⟨h.started.trans_le (w.length_spans_startSpan ..), ?_, fun hold hmem hof => ?_,
      fun hold hmem hof => ?_, ?_⟩
    · rw [Multiset.countP_cons_of_neg _ hother]
      exact h.once
    · rw [World.isOpen_startSpan _ _ _ _ h.started]
      exact h.isOpen hold ((Multiset.mem_cons.mp hmem).resolve_left (hother <| · ▸ hof)) hof
    · exact h.held hold ((Multiset.mem_cons.mp hmem).resolve_left (hother <| · ▸ hof)) hof
    · rw [World.contexts_startSpan]
      exact h.attached
  | annotated H w span attrs => exact h.of_quiet (w.quiet_annotate span attrs)
  | failed H w span description => exact h.of_quiet (w.quiet_fail span description)
  | closed H w hold => exact h.finish_held
  | ended H w hstale => exact h.finish fun hn => h.current hn (hstale.resolve_right id)

theorem Path.length_le {s t : Situation σ ν} (h : Path False s t) :
    s.2.spans.length ≤ t.2.spans.length := by
  have hmoves (u v : Situation σ ν) (hmove : Move False u v) :
      u.2.spans.length ≤ v.2.spans.length := by
    cases hmove with
    | opened H w provider scope name active => exact w.length_spans_startSpan ..
    | annotated H w span attrs => exact (w.length_spans_amend span _).ge
    | failed H w span description => exact (w.length_spans_amend span _).ge
    | closed H w hold => exact (w.length_spans_finish _).ge
    | ended H w => exact (w.length_spans_finish _).ge
    | _ => simp
  exact h.invariant (I := fun u => s.2.spans.length ≤ u.2.spans.length)
    (fun u v hmove hle => hle.trans (hmoves u v hmove)) le_rfl

/-! ## Lives -/

namespace Deferred

/-- A deferred span at some moment, what is held beside it, and the world. -/
structure Moment (σ ν : Type) where
  span : Deferred
  beside : Multiset Hold
  world : World σ ν

/-- All that is held, and the world. -/
def Moment.situation (s : Moment σ ν) : Situation σ ν :=
  (s.beside + s.span.holds, s.world)

/-- What can happen next. -/
inductive Use (σ ν : Type) where
  | start (chain : Chain)
  | stop (chain : Chain)
  | noteError (message : String)
  | noteRows (rows : UInt64)
  /-- Something is done in the scope of the span. -/
  | inScope (act : Action σ ν Unit)
  /-- The rest of the program goes on. -/
  | elsewhere

/-- The world in which an action in the scope of the span starts. -/
def inside (d : Deferred) (w : World σ ν) : World σ ν :=
  match d.state with
  | .active context _ => w.attach context
  | _ => w

/-- From one moment to the next. What is done in the scope and elsewhere is done by moves. It may
use the span meanwhile, but leaves it to its holder. To make the span current is a move itself, so
a scope can also be taken apart into what happens before, inside and after it. -/
inductive Step : Moment σ ν → Use σ ν → Moment σ ν → Prop
  | start (d : Deferred) (K : Multiset Hold) (w : World σ ν) (chain : Chain) :
    Step ⟨d, K, w⟩ (.start chain) ⟨(result (d.start chain) w).2, K, after (d.start chain) w⟩
  | stop (d : Deferred) (K : Multiset Hold) (w : World σ ν) (chain : Chain) :
    Step ⟨d, K, w⟩ (.stop chain) ⟨(result (d.stop chain) w).1, K, after (d.stop chain) w⟩
  | noteError (d : Deferred) (K : Multiset Hold) (w : World σ ν) (message : String) :
    Step ⟨d, K, w⟩ (.noteError message) ⟨d, K, after (d.noteError message) w⟩
  | noteRows (d : Deferred) (K : Multiset Hold) (w : World σ ν) (rows : UInt64) :
    Step ⟨d, K, w⟩ (.noteRows rows) ⟨d, K, after (d.noteRows rows) w⟩
  | inScope (d : Deferred) (K K' : Multiset Hold) (w : World σ ν) (act : Action σ ν Unit) :
    Path False (K + d.holds, d.inside w) (K' + d.holds, after act (d.inside w)) →
    Step ⟨d, K, w⟩ (.inScope act) ⟨d, K', after (d.inScope act) w⟩
  | elsewhere (d : Deferred) (K K' : Multiset Hold) (w v : World σ ν) :
    Path False (K + d.holds, w) (K' + d.holds, v) → Step ⟨d, K, w⟩ .elsewhere ⟨d, K', v⟩

structure Event (σ ν : Type) where
  before : Moment σ ν
  use : Use σ ν
  after : Moment σ ν

/-- From the first moment a sequence of events leads to the last one. -/
inductive Life (s : Moment σ ν) : List (Event σ ν) → Moment σ ν → Prop
  | born : Life s [] s
  | next {log : List (Event σ ν)} {t u : Moment σ ν} {use : Use σ ν} :
    Life s log t → Step t use u → Life s (log ++ [⟨t, use, u⟩]) u

/-! ### The rules -/

/-- The context of a span that is opened now. -/
def Moment.fresh (s : Moment σ ν) : Context :=
  { s.world.current with span := s.world.nextSpan, active := some .deferred }

/-- The configuration of the deferred span. -/
def Event.config (e : Event σ ν) : Config :=
  e.before.span.manager.config

/-- A fresh span is opened under the current one, named after the chain. -/
structure Event.Opens (e : Event σ ν) (chain : Chain) : Prop where
  span : e.after.span = { e.before.span with
    state := .active e.before.fresh (e.config.spanLead.getD "" ++ chain.path) }
  spans : e.after.world.spans = e.before.world.spans ++
    [{ name := e.config.spanLead.getD "" ++ chain.path, scope := .tracing }]
  contexts : e.after.world.contexts = e.before.world.contexts

/-- The open span is told about the server and about every call of the chain, and is ended with
these attributes. The journal tells of that once, and no other span is changed. -/
structure Event.Closes (e : Event σ ν) (chain : Chain) (n : Nat) (r : SpanRecord)
    (attrs : List Attr) : Prop where
  span : e.after.span = { e.before.span with state := .closed }
  before : e.before.world.spans[n]? = some r
  recording : r.ended = false
  history : attrs = r.attrs ++ (Manager.serverAttrs e.config ++ chain.history.map fun call =>
    ("db.method." ++ call.1, .text (if e.config.logArguments then call.2 else "?")))
  described : e.after.world.spans[n]? = some { r with attrs, ended := true }
  others : ∀ k ≠ n, e.after.world.spans[k]? = e.before.world.spans[k]?
  events : e.after.world.spanEvents =
    e.before.world.spanEvents ++ [.ended n r.name attrs r.failure]
  contexts : e.after.world.contexts = e.before.world.contexts

/-- The root call of a chain alone, under the key of the first position. -/
def atRoot (chain : Chain) : Chain where
  rootName := chain.rootName
  rootArgs := chain.rootArgs
  path := "/" ++ chain.rootName
  history := [("#00." ++ chain.rootName, chain.rootArgs)]

/-- What becomes of the uses. -/
def Event.Lawful (e : Event σ ν) : Prop :=
  match e.use, e.before.span.state with
  | .start chain, .active _ name =>
    (result (e.before.span.start chain) e.before.world).1 = .error ⟨name⟩ ∧ e.after = e.before
  | .start chain, _ =>
    (result (e.before.span.start chain) e.before.world).1 = .ok () ∧ e.Opens chain
  | .stop chain, .active context _ =>
    (result (e.before.span.stop chain) e.before.world).2 = atRoot chain ∧
      ∃ n r attrs, context.span.record = some n ∧ e.Closes chain n r attrs
  | .stop chain, _ =>
    (result (e.before.span.stop chain) e.before.world).2 = chain ∧ e.after = e.before
  | .noteError _, _ => e.after.span = e.before.span ∧ e.before.world.Quiet e.after.world
  | .noteRows _, _ => e.after.span = e.before.span ∧ e.before.world.Quiet e.after.world
  | _, _ => e.after.span = e.before.span

/-- The event is a start that succeeds. -/
def Event.succeeds (e : Event σ ν) : Bool :=
  match e.use with
  | .start chain => (result (e.before.span.start chain) e.before.world).1.toBool
  | _ => false

/-- The spans that are opened by the deferred span itself in an event: those by which the record
has grown. -/
def Event.opened (e : Event σ ν) : List Nat :=
  match e.use with
  | .inScope _ => []
  | .elsewhere => []
  | _ => List.range' e.before.world.spans.length
    (e.after.world.spans.length - e.before.world.spans.length)

/-- All spans that a deferred span opened. -/
def opened (log : List (Event σ ν)) : List Nat :=
  log.flatMap (·.opened)

/-! ### Every use follows the rules -/

section Rules

variable {d : Deferred} {K : Multiset Hold} {w : World σ ν}

theorem start_of_active {c : Context} {name : String} (h : d.state = .active c name)
    (chain : Chain) :
    (d.start chain : Action σ ν (Except StillActive Unit × Deferred)) =
      pure (.error ⟨name⟩, d) := by
  simp only [start, h]

theorem stop_of_not_active (h : ∀ c name, d.state ≠ .active c name) (chain : Chain) :
    (d.stop chain : Action σ ν (Deferred × Chain)) = pure (d, chain) := by
  unfold stop
  split
  · next hactive => exact absurd hactive (h _ _)
  · rfl

/-- A start opens a fresh span unless one is open. -/
theorem start_opens (hm : d.manager.provider = .recording)
    (h : ∀ c name, d.state ≠ .active c name) (chain : Chain) :
    (result (d.start chain) w).1 = .ok () ∧
      Event.Opens ⟨⟨d, K, w⟩, .start chain,
        ⟨(result (d.start chain) w).2, K, after (d.start chain) w⟩⟩ chain := by
  let name := d.manager.config.spanLead.getD "" ++ chain.path
  let logged := w.log .debug "starting deferred span" [("span", .text name)]
  have hcurrent : logged.current = w.current := (w.quiet_log ..).current
  have hnext : logged.nextSpan = w.nextSpan := (w.quiet_log ..).nextSpan
  have hstart : (d.start chain : Action σ ν (Except StillActive Unit × Deferred)) = do
      log .debug "starting deferred span" [("span", .text name)]
      let context ← d.manager.startIn (← current) name .deferred
      return (.ok (), { d with state := .active context name }) := by
    unfold start
    split
    · next hactive => exact absurd hactive (h _ _)
    · rfl
  have hresult : result (d.start chain) w =
      (.ok (), { d with state := .active (Moment.fresh ⟨d, K, w⟩) name }) := by
    rw [hstart, Moment.fresh, ← hnext, ← hcurrent]
    simp only [result_bind, result_pure, after_log, result_current, after_current, result_startIn,
      hm]
    rfl
  have hafter : after (d.start chain) w =
      (logged.startSpan .recording .tracing name logged.current.span).2 := by
    rw [hstart]
    simp only [after_bind, after_pure, after_log, result_current, after_current, after_startIn, hm]
    rfl
  refine ⟨by rw [hresult], ⟨by rw [hresult]; rfl, ?_, ?_⟩⟩
  · simp only [hafter]
    simp [World.startSpan, Event.config, logged, name]
  · simp only [hafter]
    simp [logged]

theorem reset_eq_atRoot (chain : Chain) : chain.reset = atRoot chain := by
  have hlead : "#" ++ Chain.twoDigits 0 ++ "." = "#00." := by decide
  simp [Chain.reset, Chain.push, Chain.key, hlead, atRoot]

/-- A stop describes the open span and ends it. -/
theorem stop_closes {c : Context} {name : String} {n : Nat} (h : d.state = .active c name)
    (hc : c.span.record = some n) (hopen : w.isOpen n = true) (chain : Chain) :
    (result (d.stop chain) w).2 = atRoot chain ∧
      ∃ r attrs, Event.Closes ⟨⟨d, K, w⟩, .stop chain,
        ⟨(result (d.stop chain) w).1, K, after (d.stop chain) w⟩⟩ chain n r attrs := by
  let description := Manager.attrs d.manager.config (.chain chain)
  let logged := w.log .debug "ending deferred span" [("span", .text name)]
  let described := logged.annotate c.span description
  have hstop : (d.stop chain : Action σ ν (Deferred × Chain)) = do
      log .debug "ending deferred span" [("span", .text name)]
      modify fun w => (w.annotate c.span description).finish c.span
      return ({ d with state := .closed }, chain.reset) := by
    simp only [stop, h]
    rfl
  have hafter : after (d.stop chain) w = described.finish c.span := by
    rw [hstop]
    rfl
  obtain ⟨r, hr, hrecording⟩ := World.isOpen_iff.mp hopen
  have hlogged : logged.spans[n]? = some r := by rw [World.spans_log, hr]
  have hdescribed : described.spans[n]? = some { r with attrs := r.attrs ++ description } :=
    World.getElem?_spans_amend_open hc hlogged hrecording _
  obtain ⟨hfinished, hjournal⟩ := World.finish_open hc hdescribed hrecording
  refine ⟨?_, r, r.attrs ++ description,
    ⟨by rw [hstop]; rfl, hr, hrecording, rfl, ?_, fun k hk => ?_, ?_, ?_⟩⟩
  · rw [hstop, ← reset_eq_atRoot]
    rfl
  · simp only [hafter]
    exact hfinished
  · have hne : c.span.record ≠ some k := by
      rw [hc]
      exact fun hsame => hk (Option.some.inj hsame).symm
    simp only [hafter]
    rw [World.getElem?_spans_finish_of_ne _ _ hne]
    exact (World.getElem?_spans_amend_of_ne _ _ hne _).trans (by rw [World.spans_log])
  · have hquiet : w.Quiet described := (w.quiet_log ..).trans (World.quiet_annotate ..)
    simp only [hafter]
    rw [World.spanEvents, hjournal, List.filter_append]
    show described.spanEvents ++ _ = _
    rw [hquiet.events]
    rfl
  · simp only [hafter]
    simp [described, logged]

end Rules

/-! ### Every life goes by moves -/

/-- An action that goes from what is held for one span to what is held for another moves so. -/
theorem path_of_does {α : Type} {w : World σ ν} {act : Action σ ν α} {K L : Multiset Hold}
    {M : α → Multiset Hold}
    (h : ∀ (c : Context) (P : Assertion σ), Does False c (P.plus L) act fun a => P.plus (M a)) :
    Path False (K + L, w) (K + M (result act w), after act w) := by
  obtain ⟨H, ⟨_, rfl, rfl⟩, hpath, -⟩ :=
    (h w.current fun H _ => H = K).moves 0 (K + L) w rfl ⟨K, rfl, rfl⟩
  rwa [zero_add, zero_add] at hpath

theorem Step.path {s t : Moment σ ν} {use : Use σ ν} (h : Step s use t) :
    Path False s.situation t.situation := by
  cases h with
  | start d K w chain => exact path_of_does fun c P => d.start_does chain
  | stop d K w chain =>
    exact path_of_does fun c P => (d.stop_does chain).weaken (fun _ _ hP => hP)
      fun _ _ _ => Assertion.plus_of_zero
  | noteError d K w message => exact path_of_does fun c P => d.noteError_does message
  | noteRows d K w rows => exact path_of_does fun c P => d.noteRows_does rows
  | elsewhere d K K' w v hpath => exact hpath
  | inScope d K K' w act hpath =>
    cases hstate : d.state with
    | active c name =>
      have hafter : after (d.inScope act) w = (after act (w.attach c)).detach := by
        simp [Deferred.inScope, hstate]
      have hattachable : Attachable (K + d.holds) w.current c := by
        refine .inr (.inr ⟨⟨.tracing, c⟩, ?_, rfl⟩)
        simp [holds_of_active hstate]
      simp only [inside, hstate] at hpath
      show Path False (K + d.holds, w) (K' + d.holds, after (d.inScope act) w)
      rw [hafter]
      exact .head (.attached _ _ c hattachable) (hpath.tail (.detached ..))
    | idle => simpa [Moment.situation, inside, Deferred.inScope, hstate] using hpath
    | closed => simpa [Moment.situation, inside, Deferred.inScope, hstate] using hpath

/-- Whatever is done with the tracing operations is done by moves, also in a scope. The action may
touch the span that it is lent, but has to give it back. -/
theorem Step.inScope_of_does {d : Deferred} {K : Multiset Hold} {w : World σ ν}
    (act : Action σ ν Unit)
    (h : ∀ (c : Context) (P : Assertion σ),
      Does False c (P.plus d.holds) act fun _ => P.plus d.holds) :
    Step ⟨d, K, w⟩ (.inScope act) ⟨d, K, after (d.inScope act) w⟩ :=
  .inScope d K K w act (path_of_does h)

/-! ### Every life is lawful -/

/-- What is known of a life at every moment. -/
structure Alive (m : Manager) (log : List (Event σ ν)) (t : Moment σ ν) : Prop where
  manager : t.span.manager = m
  known : Known t.situation
  /-- The open span is one that was opened in this life, and nobody else holds it. -/
  active : ∀ c name, t.span.state = .active c name →
    ∃ n ∈ opened log, c.span.record = some n ∧ Sole n t.situation
  /-- No other span that was opened in this life is still open. -/
  others : ∀ n ∈ opened log, t.world.isOpen n = true →
    ∃ c name, t.span.state = .active c name ∧ c.span.record = some n
  started : ∀ n ∈ opened log, n < t.world.spans.length
  nodup : (opened log).Nodup
  count : (opened log).length = log.countP (·.succeeds)

namespace Alive

variable {m : Manager} {log : List (Event σ ν)} {t u : Moment σ ν} {use : Use σ ν}

theorem opened_snoc (log : List (Event σ ν)) (e : Event σ ν) :
    opened (log ++ [e]) = opened log ++ e.opened := by
  simp [opened]

/-- What is open of the spans of before was open before. -/
theorem others_of_path (h : Alive m log t) (hpath : Path False t.situation u.situation) {n : Nat}
    (hn : n ∈ opened log) (hopen : u.world.isOpen n = true) :
    ∃ c name, t.span.state = .active c name ∧ c.span.record = some n :=
  h.others n hn (hpath.keepsEnded.isOpen (h.started n hn) hopen)

/-- An event that opens nothing and leaves the span as it is. -/
theorem keep (h : Alive m log t) (hpath : Path False t.situation u.situation)
    (hspan : u.span = t.span) (hopened : Event.opened ⟨t, use, u⟩ = [])
    (hfails : Event.succeeds ⟨t, use, u⟩ = false) : Alive m (log ++ [⟨t, use, u⟩]) u := by
  have hlog : opened (log ++ [⟨t, use, u⟩]) = opened log := by
    rw [opened_snoc, hopened, List.append_nil]
  refine ⟨hspan ▸ h.manager, hpath.invariant (known_move False) h.known, ?_, ?_, ?_, ?_, ?_⟩
  · intro c name hactive
    rw [hspan] at hactive
    obtain ⟨n, hn, hrecord, hsole⟩ := h.active c name hactive
    exact ⟨n, hlog ▸ hn, hrecord, hpath.invariant (sole_move n) hsole⟩
  · intro n hn hopen
    rw [hspan]
    exact h.others_of_path hpath (hlog ▸ hn) hopen
  · exact fun n hn => (h.started n (hlog ▸ hn)).trans_le hpath.length_le
  · exact hlog ▸ h.nodup
  · rw [hlog, h.count]
    simp [hfails]

section Uses

variable (chain : Chain)

theorem length_le_of_closes {e : Event σ ν} {n : Nat} {r : SpanRecord} {attrs : List Attr}
    (h : e.Closes chain n r attrs) : e.after.world.spans.length ≤ e.before.world.spans.length := by
  by_contra hlt
  have hn : n < e.before.world.spans.length := (List.getElem?_eq_some_iff.mp h.before).1
  have hnone : e.after.world.spans[e.before.world.spans.length]? = none := by
    rw [h.others _ hn.ne']
    exact List.getElem?_eq_none le_rfl
  exact hlt (List.getElem?_eq_none_iff.mp hnone)

/-- A span that is opened is held alone: nobody has known it before. -/
theorem sole_of_opens {t u : Moment σ ν} (hknown : Known t.situation)
    (hbeside : u.beside = t.beside) (h : Event.Opens ⟨t, .start chain, u⟩ chain) :
    Sole t.world.spans.length u.situation := by
  have hheld (hold : Hold) (hmem : hold ∈ t.beside) : ¬hold.IsOf t.world.spans.length :=
    fun hof => (hknown.held hold (Multiset.mem_add.mpr (.inl hmem)) _ hof).ne rfl
  have hown : u.span.holds = {⟨.tracing, t.fresh⟩} := by
    have hspan : u.span = _ := h.span
    rw [hspan]
    exact holds_of_active rfl
  have hmem (hold : Hold) (hhold : hold ∈ u.situation.1) (hof : hold.IsOf t.world.spans.length) :
      hold.context.active = some .deferred := by
    rw [Moment.situation, hbeside, hown] at hhold
    rcases Multiset.mem_add.mp hhold with hhold | hhold
    · exact absurd hof (hheld hold hhold)
    · rw [Multiset.mem_singleton.mp hhold]
      rfl
  have hspans : u.world.spans = t.world.spans ++ _ := h.spans
  refine ⟨?_, ?_, fun hold _ _ => ?_, fun hold hhold hof => ?_, fun c hc hn => ?_⟩
  · show _ < u.world.spans.length
    simp [hspans]
  · have hnone : t.beside.countP (Hold.IsOf t.world.spans.length) = 0 :=
      Multiset.countP_eq_zero.mpr hheld
    rw [Moment.situation, hbeside, hown, Multiset.countP_add, hnone, zero_add]
    exact (Multiset.countP_le_card _ _).trans (Multiset.card_singleton _).le
  · show u.world.isOpen _ = true
    simp [World.isOpen, hspans]
  · simp [hmem hold hhold hof]
  · have hcontexts : u.world.contexts = t.world.contexts := h.contexts
    exact absurd rfl (hknown.attached c (hcontexts ▸ hc) _ hn).ne

/-- A start that succeeds. -/
theorem opens (h : Alive m log t) {u : Moment σ ν} (hstep : Step t (.start chain) u)
    (hbeside : u.beside = t.beside) (hok : Event.succeeds ⟨t, .start chain, u⟩ = true)
    (hopens : Event.Opens ⟨t, .start chain, u⟩ chain)
    (hclosed : ∀ c name, t.span.state ≠ .active c name) :
    Alive m (log ++ [⟨t, .start chain, u⟩]) u := by
  have hspan : u.span = _ := hopens.span
  have hspans : u.world.spans = t.world.spans ++ _ := hopens.spans
  have hnew : Event.opened ⟨t, .start chain, u⟩ = [t.world.spans.length] := by
    simp [Event.opened, hspans]
  have hlog : opened (log ++ [⟨t, .start chain, u⟩]) = opened log ++ [t.world.spans.length] := by
    rw [opened_snoc, hnew]
  have hfresh : t.world.spans.length ∈ opened (log ++ [⟨t, .start chain, u⟩]) := by
    simp [hlog]
  refine ⟨?_, hstep.path.invariant (known_move False) h.known, fun c name hactive => ?_,
    fun n hn hopen => ?_, fun n hn => ?_, ?_, ?_⟩
  · rw [hspan]
    exact h.manager
  · rw [hspan] at hactive
    cases hactive
    exact ⟨_, hfresh, rfl, sole_of_opens chain h.known hbeside hopens⟩
  · rw [hlog] at hn
    rcases List.mem_append.mp hn with hn | hn
    · obtain ⟨c, name, hactive, -⟩ := h.others_of_path hstep.path hn hopen
      exact absurd hactive (hclosed c name)
    · obtain rfl := List.mem_singleton.mp hn
      rw [hspan]
      exact ⟨_, _, rfl, rfl⟩
  · rw [hlog] at hn
    rcases List.mem_append.mp hn with hn | hn
    · exact (h.started n hn).trans_le hstep.path.length_le
    · simp [List.mem_singleton.mp hn, hspans]
  · rw [hlog, ← List.concat_eq_append]
    exact h.nodup.concat fun hmem => (h.started _ hmem).ne rfl
  · rw [hlog, List.length_append, h.count]
    simp [hok]

/-- A stop of the open span. -/
theorem closes (h : Alive m log t) {u : Moment σ ν} (hstep : Step t (.stop chain) u)
    {c : Context} {name : String} (hactive : t.span.state = .active c name) {n : Nat}
    {r : SpanRecord} {attrs : List Attr} (hrecord : c.span.record = some n)
    (hcloses : Event.Closes ⟨t, .stop chain, u⟩ chain n r attrs) :
    Alive m (log ++ [⟨t, .stop chain, u⟩]) u := by
  have hspan : u.span = _ := hcloses.span
  have hlog : opened (log ++ [⟨t, .stop chain, u⟩]) = opened log := by
    rw [opened_snoc, Event.opened, Nat.sub_eq_zero_of_le (length_le_of_closes chain hcloses)]
    simp
  refine ⟨?_, hstep.path.invariant (known_move False) h.known, fun c name hclosed => ?_,
    fun k hk hopen => ?_, fun k hk => ?_, hlog ▸ h.nodup, ?_⟩
  · rw [hspan]
    exact h.manager
  · rw [hspan] at hclosed
    cases hclosed
  · -- Only the span that was open before could be open now, and it has just been ended.
    obtain ⟨c', name', hactive', hrecord'⟩ := h.others_of_path hstep.path (hlog ▸ hk) hopen
    rw [hactive] at hactive'
    cases hactive'
    obtain rfl := Option.some.inj (hrecord.symm.trans hrecord')
    have hended : u.world.spans[n]? = _ := hcloses.described
    simp [World.isOpen, hended] at hopen
  · exact (h.started k (hlog ▸ hk)).trans_le hstep.path.length_le
  · rw [hlog, h.count]
    simp [Event.succeeds]

end Uses

/-- Every event is lawful, and leaves the life so that the next one will be. -/
theorem next (hm : m.provider = .recording) (h : Alive m log t) (hstep : Step t use u) :
    Event.Lawful ⟨t, use, u⟩ ∧ Alive m (log ++ [⟨t, use, u⟩]) u := by
  have hpath := hstep.path
  cases hstep with
  | start d K w chain =>
    cases hstate : d.state with
    | active c name =>
      have hrefused : (d.start chain : Action σ ν (Except StillActive Unit × Deferred)) =
        pure (.error ⟨name⟩, d) := start_of_active hstate chain
      rw [hrefused]
      refine ⟨?_, h.keep .refl rfl ?_ ?_⟩
      · simp [Event.Lawful, hstate, hrefused]
      · simp [Event.opened]
      · simp [Event.succeeds, hrefused, Except.toBool]
    | _ =>
      have hclosed : ∀ c name, d.state ≠ .active c name := by simp [hstate]
      obtain ⟨hok, hopens⟩ := start_opens (K := K) (w := w) (h.manager ▸ hm) hclosed chain
      refine ⟨?_, h.opens chain (.start d K w chain) rfl ?_ hopens hclosed⟩
      · simp only [Event.Lawful, hstate]
        exact ⟨hok, hopens⟩
      · simp [Event.succeeds, hok, Except.toBool]
  | stop d K w chain =>
    cases hstate : d.state with
    | active c name =>
      obtain ⟨n, -, hrecord, hsole⟩ := h.active c name hstate
      have hopen : w.isOpen n = true := by
        refine hsole.isOpen ⟨.tracing, c⟩ ?_ hrecord
        show _ ∈ K + d.holds
        simp [holds_of_active hstate]
      obtain ⟨hreset, r, attrs, hcloses⟩ := stop_closes (K := K) hstate hrecord hopen chain
      refine ⟨?_, h.closes chain (.stop d K w chain) hstate hrecord hcloses⟩
      simp only [Event.Lawful, hstate]
      exact ⟨hreset, n, r, attrs, hrecord, hcloses⟩
    | _ =>
      have hkept : (d.stop chain : Action σ ν (Deferred × Chain)) = pure (d, chain) :=
        stop_of_not_active (by simp [hstate]) chain
      rw [hkept]
      refine ⟨?_, h.keep .refl rfl ?_ ?_⟩
      · simp [Event.Lawful, hstate, hkept]
      · simp [Event.opened]
      · simp [Event.succeeds]
  | noteError d K w message =>
    have hquiet : w.Quiet (after (d.noteError message) w) := RowsLayer.quiet_noteError ..
    refine ⟨⟨rfl, hquiet⟩, h.keep hpath rfl ?_ rfl⟩
    simp [Event.opened, hquiet.length_spans]
  | noteRows d K w rows =>
    have hquiet : w.Quiet (after (d.noteRows rows) w) := RowsLayer.quiet_noteRows ..
    refine ⟨⟨rfl, hquiet⟩, h.keep hpath rfl ?_ rfl⟩
    simp [Event.opened, hquiet.length_spans]
  | inScope d K K' w act _ => exact ⟨rfl, h.keep hpath rfl rfl rfl⟩
  | elsewhere d K K' w v _ => exact ⟨rfl, h.keep hpath rfl rfl rfl⟩

theorem born (d : Deferred) (hd : d.state = .idle) {K : Multiset Hold} {w : World σ ν}
    (hw : Known (K, w)) : Alive d.manager [] ⟨d, K, w⟩ where
  manager := rfl
  known := by
    rw [Moment.situation, holds_of_not_active (by simp [hd]), add_zero]
    exact hw
  active c name hactive := by
    rw [hd] at hactive
    cases hactive
  others := nofun
  started := nofun
  nodup := .nil
  count := rfl

theorem count_isOpen (h : Alive m log t) :
    (opened log).countP t.world.isOpen = if t.span.state.isActive then 1 else 0 := by
  cases hstate : t.span.state with
  | active c name =>
    obtain ⟨n, hn, hrecord, hsole⟩ := h.active c name hstate
    have hopen (k : Nat) (hk : k ∈ opened log) : t.world.isOpen k = true ↔ (k == n) = true := by
      rw [beq_iff_eq]
      constructor
      · intro hopen
        obtain ⟨c', name', hstate', hrecord'⟩ := h.others k hk hopen
        rw [hstate] at hstate'
        cases hstate'
        exact Option.some.inj (hrecord'.symm.trans hrecord)
      · rintro rfl
        refine hsole.isOpen ⟨.tracing, c⟩ ?_ hrecord
        rw [Moment.situation, holds_of_active hstate]
        simp
    rw [List.countP_congr hopen]
    exact List.count_eq_one_of_mem h.nodup hn
  | _ =>
    have hnone (k : Nat) (hk : k ∈ opened log) : ¬t.world.isOpen k = true := by
      intro hopen
      obtain ⟨c, name, hactive, -⟩ := h.others k hk hopen
      rw [hstate] at hactive
      cases hactive
    exact List.countP_eq_zero.mpr hnone

end Alive

/-- The life of a deferred span whose spans are recorded. Every event is lawful. At its end, so at
every moment, one of the spans that were opened is open if the deferred span is active, and none
otherwise. All spans that were opened are different, and they are as many as the starts that
succeeded. -/
theorem Life.lawful {d : Deferred} (hm : d.manager.provider = .recording) (hd : d.state = .idle)
    {K : Multiset Hold} {w : World σ ν} (hw : Known (K, w)) {log : List (Event σ ν)}
    {t : Moment σ ν} (life : Life ⟨d, K, w⟩ log t) :
    (∀ e ∈ log, e.Lawful) ∧
      (opened log).countP t.world.isOpen = (if t.span.state.isActive then 1 else 0) ∧
      (opened log).Nodup ∧ (opened log).length = log.countP (·.succeeds) := by
  have halive : (∀ e ∈ log, e.Lawful) ∧ Alive d.manager log t := by
    induction life with
    | born => exact ⟨List.forall_mem_nil _, .born d hd hw⟩
    | next _ hstep ih =>
      obtain ⟨hlawful, halive⟩ := ih
      obtain ⟨hnext, halive⟩ := halive.next hm hstep
      refine ⟨fun e he => ?_, halive⟩
      rcases List.mem_append.mp he with he | he
      · exact hlawful e he
      · exact List.mem_singleton.mp he ▸ hnext
  exact ⟨halive.1, halive.2.count_isOpen, halive.2.nodup, halive.2.count⟩

/-- A span is stopped before it has started, refuses a second start, lends itself to another query,
and starts again after its stop. The stop gives it two calls, the arguments of which are hidden, and
leaves the chain with the first one. -/
theorem Life.lawful_restarted :
    let m : Manager := ⟨.recording, { Config.production with spanLead := some "app" }⟩
    let d : Deferred := { manager := m }
    let w : World Unit Unit := { program := () }
    let calls : Chain := (Chain.start "table" (.one "users")).record "filter" .none
    let query : Action Unit Unit Unit := do
      let _ ← m.trace (.chain calls) .newQuery (pure (.ok ()) : Action _ _ (Except _ Unit))
    Known (0, w) ∧ ∃ log t, Life ⟨d, 0, w⟩ log t ∧
      log.map (·.use) = [.stop calls, .start calls, .start calls, .inScope query, .noteRows 3,
        .stop calls, .start calls] ∧
      (∃ e : Event Unit Unit, log[5]? = some e ∧
        (result (e.before.span.stop calls) e.before.world).2 =
          ⟨"table", "users", "/table", [("#00.table", "users")]⟩ ∧
        e.after.world.spans[0]? = some
          { name := "app/table/filter", scope := .tracing, ended := true,
            attrs := [("db.response.returned_rows", .int 3), ("db.system", .text "rethinkdb"),
              ("db.method.#00.table", .text "?"), ("db.method.#01.filter", .text "?")] }) ∧
      (∀ e ∈ log, e.Lawful) ∧
      (opened log).countP t.world.isOpen = (if t.span.state.isActive then 1 else 0) ∧
      (opened log).Nodup ∧ (opened log).length = log.countP (·.succeeds) := by
  intro m d w calls query
  have hw : Known (0, w) := ⟨nofun, nofun⟩
  have hquery (d' : Deferred) (c : Context) (P : Assertion Unit) :
      Does False c (P.plus d'.holds) query fun _ => P.plus d'.holds :=
    .bind (m.trace_does _ _ fun _ => .skip _) fun _ => .skip _
  have idle : Life ⟨d, 0, w⟩ _ _ := .next .born (.stop _ _ _ calls)
  have refused : Life ⟨d, 0, w⟩ _ _ := .next (.next idle (.start _ _ _ calls)) (.start _ _ _ calls)
  have lent : Life ⟨d, 0, w⟩ _ _ := .next refused (.inScope_of_does query (hquery _))
  have counted : Life ⟨d, 0, w⟩ _ _ := .next lent (.noteRows _ _ _ 3)
  have restarted : Life ⟨d, 0, w⟩ _ _ :=
    .next (.next counted (.stop _ _ _ calls)) (.start _ _ _ calls)
  refine ⟨hw, _, _, restarted, rfl, ⟨_, rfl, ?_, ?_⟩, lawful rfl rfl hw restarted⟩
  · decide +kernel
  · decide +kernel

end Deferred

end QueryTrace
