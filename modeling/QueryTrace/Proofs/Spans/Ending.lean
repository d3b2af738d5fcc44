import QueryTrace.Proofs.Holding.Session
import QueryTrace.Proofs.Spans.Quiet
import QueryTrace.Proofs.Transparency.Desk

/-!
# Every span ends once

A session that drops all its objects leaves no span open, and ends none twice. Two facts carry this
through every move: an open span is held by somebody, and the journal tells of every span what has
become of it, a start and at most one end after it. In the end nothing is held, so no span is open.
-/

namespace QueryTrace

variable {σ ν : Type}

/-! ## What the journal tells of a span -/

/-- The number of the span that an entry is about. -/
def Entry.number? : Entry ν → Option Nat
  | .started number .. => some number
  | .ended number .. => some number
  | _ => none

/-- The entries about a span. -/
def account (n : Nat) (entries : List (Entry ν)) : List (Entry ν) :=
  entries.filter (·.number? = some n)

/-- The entries about a span agree with where it stands: it is not there and nothing is told of it,
it is open and has started, or it is closed and has started and ended. -/
inductive Accounted (n : Nat) : Option (String × Scope × Bool) → List (Entry ν) → Prop
  | unknown : Accounted n none []
  | opened (name : String) (parent : Option SpanId) (scope : Scope) :
    Accounted n (some (name, scope, false)) [.started n name parent scope]
  | closed (name : String) (parent : Option SpanId) (scope : Scope) (attrs : List Attr)
    (failure : Option String) : Accounted n (some (name, scope, true))
      [.started n name parent scope, .ended n name attrs failure]

/-- Of a span that has started and is not open, exactly two things are told. -/
theorem Accounted.of_started {n : Nat} {stage : Option (String × Scope × Bool)}
    {entries : List (Entry ν)} (h : Accounted n stage entries) {name : String}
    {parent : Option SpanId} {scope : Scope} (hmem : .started n name parent scope ∈ entries)
    (hclosed : ∀ name scope, stage ≠ some (name, scope, false)) :
    ∃ attrs failure, entries = [.started n name parent scope, .ended n name attrs failure] := by
  cases h with
  | unknown => cases hmem
  | opened name' parent' scope' => exact absurd rfl (hclosed name' scope')
  | closed name' parent' scope' attrs failure =>
    have heq : (Entry.started n name parent scope : Entry ν) = .started n name' parent' scope' := by
      simpa using hmem
    cases heq
    exact ⟨attrs, failure, rfl⟩

theorem account_journal (n : Nat) (w : World σ ν) :
    account n w.journal = account n w.spanEvents := by
  unfold account World.spanEvents
  rw [List.filter_filter]
  refine List.filter_congr fun e _ => ?_
  cases e <;> simp [Entry.number?, Entry.isSpan]

theorem account_append (n : Nat) (entries : List (Entry ν)) (entry : Entry ν) :
    account n (entries ++ [entry]) =
      account n entries ++ if entry.number? = some n then [entry] else [] := by
  rw [account, List.filter_append]
  by_cases h : entry.number? = some n <;> simp [account, h]

section Stages

variable {stages : List (String × Scope × Bool)} {events : List (Entry ν)}

/-- The first entry about a span is its start. -/
theorem accounted_started (h : ∀ n, Accounted n stages[n]? (account n events)) (name : String)
    (parent : Option SpanId) (scope : Scope) (n : Nat) :
    Accounted n (stages ++ [(name, scope, false)])[n]?
      (account n (events ++ [.started stages.length name parent scope])) := by
  have haccount := h n
  rw [account_append]
  rcases lt_trichotomy n stages.length with hn | rfl | hn
  · have hne : (Entry.started stages.length name parent scope : Entry ν).number? ≠ some n := by
      simp [Entry.number?, hn.ne']
    rwa [List.getElem?_append_left hn, if_neg hne, List.append_nil]
  · rw [List.getElem?_eq_none le_rfl] at haccount
    cases hentries : account stages.length events with
    | cons e es =>
      rw [hentries] at haccount
      cases haccount
    | nil => simpa [Entry.number?] using Accounted.opened name parent scope
  · have hne : (Entry.started stages.length name parent scope : Entry ν).number? ≠ some n := by
      simp [Entry.number?, hn.ne]
    have hlength : (stages ++ [(name, scope, false)]).length ≤ n := by
      rw [List.length_append]
      exact Nat.succ_le_of_lt hn
    rw [List.getElem?_eq_none hn.le] at haccount
    rwa [List.getElem?_eq_none hlength, if_neg hne, List.append_nil]

/-- The second entry about a span is its end. -/
theorem accounted_ended (h : ∀ n, Accounted n stages[n]? (account n events)) {m : Nat}
    {name : String} {scope : Scope} (hopen : stages[m]? = some (name, scope, false))
    (attrs : List Attr) (failure : Option String) (n : Nat) :
    Accounted n (stages.set m (name, scope, true))[n]?
      (account n (events ++ [.ended m name attrs failure])) := by
  have hlt : m < stages.length := (List.getElem?_eq_some_iff.mp hopen).1
  have haccount := h n
  rw [account_append]
  by_cases hn : m = n
  · subst hn
    rw [hopen] at haccount
    -- Of a span that is open its start has been told, and nothing else.
    cases hentries : account m events with
    | nil =>
      rw [hentries] at haccount
      cases haccount
    | cons e es =>
      rw [hentries] at haccount
      cases haccount with
      | opened name parent scope =>
        rw [List.getElem?_set_self hlt]
        simpa [Entry.number?] using Accounted.closed name parent scope attrs failure
  · have hne : (Entry.ended m name attrs failure : Entry ν).number? ≠ some n := by
      simp [Entry.number?, hn]
    rwa [List.getElem?_set_ne hn, if_neg hne, List.append_nil]

end Stages

/-- Open spans are held, and the journal is right about all spans. -/
structure Ledger (s : Situation σ ν) : Prop where
  held : ∀ n name scope, s.2.stages[n]? = some (name, scope, false) →
    ∃ h ∈ s.1, h.context.span.record = some n
  accounts : ∀ n, Accounted n s.2.stages[n]? (account n s.2.spanEvents)

/-! ## Every move keeps the ledger -/

namespace Ledger

variable {H H' : Multiset Hold} {w v : World σ ν}

/-- Nothing starts or ends, and no hold is lost. -/
theorem of_same (h : Ledger (H, w)) (hH : H ⊆ H') (hevents : v.spanEvents = w.spanEvents)
    (hstages : v.stages = w.stages) : Ledger (H', v) where
  held n name scope hopen := by
    rw [hstages] at hopen
    obtain ⟨hold, hmem, hrecord⟩ := h.held n name scope hopen
    exact ⟨hold, hH hmem, hrecord⟩
  accounts n := by
    rw [hevents, hstages]
    exact h.accounts n

/-- A span that starts is held, and it is the first entry about it. -/
theorem startSpan (h : Ledger (H, w)) (provider : Provider) (scope : Scope) (name : String)
    (parent : SpanRef) {hold : Hold}
    (hspan : hold.context.span = (w.startSpan provider scope name parent).1) :
    Ledger (hold ::ₘ H, (w.startSpan provider scope name parent).2) := by
  cases provider with
  | unsampled => exact h.of_same (Multiset.subset_cons H hold) rfl rfl
  | inert => exact h.of_same (Multiset.subset_cons H hold) rfl rfl
  | recording =>
    refine ⟨fun n name' scope' hopen => ?_, fun n => ?_⟩
    · rw [World.stages_startSpan, List.getElem?_append] at hopen
      split at hopen
      · obtain ⟨hold', hmem, hrecord⟩ := h.held n name' scope' hopen
        exact ⟨hold', Multiset.mem_cons_of_mem hmem, hrecord⟩
      · -- The only place behind the spans of before is that of the new one.
        next hlt =>
        have hn := (List.getElem?_eq_some_iff.mp hopen).1
        rw [List.length_singleton] at hn
        obtain rfl : w.spans.length = n := by
          rw [w.length_stages] at hlt hn
          omega
        refine ⟨hold, Multiset.mem_cons_self _ _, ?_⟩
        rw [hspan]
        rfl
    · rw [World.stages_startSpan, World.spanEvents_startSpan, ← w.length_stages]
      exact accounted_started h.accounts name parent.identity scope n

/-- A span that ends has been open, and the end is the second entry about it. Only the holder of
the span may let its hold go. -/
theorem finish (h : Ledger (H, w)) (span : SpanRef)
    (hH : ∀ hold ∈ H, hold.context.span.record ≠ span.record → hold ∈ H') :
    Ledger (H', w.finish span) := by
  rcases w.finish_cases span with ⟨hsame, hclosed⟩ |
    ⟨n, name, scope, attrs, failure, hrecord, hopen, hstages, hevents⟩
  · rw [hsame]
    refine ⟨fun m name scope hopen => ?_, h.accounts⟩
    obtain ⟨hold, hmem, hm⟩ := h.held m name scope hopen
    refine ⟨hold, hH hold hmem fun heq => ?_, hm⟩
    exact hclosed m name scope (heq.symm.trans hm) hopen
  · refine ⟨fun m name' scope' hopen' => ?_, fun m => ?_⟩
    · rw [hstages, List.getElem?_set] at hopen'
      split at hopen'
      · simp at hopen'
      · next hne =>
        obtain ⟨hold, hmem, hm⟩ := h.held m name' scope' hopen'
        refine ⟨hold, hH hold hmem fun heq => hne ?_, hm⟩
        simpa [hrecord, hm] using heq.symm
    · rw [hstages, hevents]
      exact accounted_ended h.accounts hopen attrs failure m

end Ledger

theorem ledger_move (hands : Prop) (s t : Situation σ ν) (hmove : Move hands s t)
    (h : Ledger s) : Ledger t := by
  cases hmove with
  | logged H w level message fields =>
    have hquiet := w.quiet_log level message fields
    exact h.of_same (Multiset.Subset.refl H) hquiet.events hquiet.stages
  | noted H w n =>
    refine h.of_same (Multiset.Subset.refl H) ?_ rfl
    simp [World.spanEvents, Entry.isSpan]
  | worked H w program clock => exact h.of_same (Multiset.Subset.refl H) rfl rfl
  | attached H w c => exact h.of_same (Multiset.Subset.refl H) rfl rfl
  | detached H w => exact h.of_same (Multiset.Subset.refl H) rfl rfl
  | opened H w provider scope name active =>
    exact h.startSpan provider scope name w.current.span rfl
  | annotated H w span attrs =>
    have hquiet := w.quiet_annotate span attrs
    exact h.of_same (Multiset.Subset.refl H) hquiet.events hquiet.stages
  | failed H w span description =>
    have hquiet := w.quiet_fail span description
    exact h.of_same (Multiset.Subset.refl H) hquiet.events hquiet.stages
  | closed H w hold =>
    refine h.finish hold.context.span fun hold' hmem hne => ?_
    rcases Multiset.mem_cons.mp hmem with rfl | hmem
    · exact absurd rfl hne
    · exact hmem
  | ended H w => exact h.finish w.current.span fun _ hmem _ => hmem

/-! ## Sessions -/

namespace Session

theorem objects_clear (w : World Desk Note) : (after clear w).program.objects = [] := by
  have hdiscards (objects : List (String × Object)) :
      Inert (objects.forM fun o => discard o.2) := by
    induction objects with
    | nil => exact .of_unseen (.pure _)
    | cons o objects ih => exact (inert_discard o.2).bind fun _ => ih
  exact (hdiscards w.program.objects).objects _

/-- A desk without objects of which nothing is shared holds nothing. -/
theorem holds_eq_zero {hands : Prop} {H : Multiset Hold} {d : Desk} (h : Kept hands 0 H d)
    (hobjects : d.objects = []) : H = 0 := by
  obtain ⟨rfl, hd⟩ := h
  -- Nobody shares in a deferred span any more, so none has a holder.
  have hshares : d.shares = 0 := by simp [Desk.shares, hobjects]
  have hnone (held : HeldSpan) (hheld : held ∈ d.deferreds) : held.holds = 0 := by
    obtain ⟨n, hget⟩ := List.mem_iff_getElem?.mp hheld
    have hcount := hd.holders n
    rw [hshares, hget] at hcount
    exact if_pos (by simpa using hcount.symm)
  rw [Desk.holds, hobjects, List.map_nil, List.sum_nil, zero_add]
  exact List.sum_eq_zero fun K hK => by
    obtain ⟨held, hheld, rfl⟩ := List.mem_map.mp hK
    exact hnone held hheld

/-- A session moves from nothing held to nothing held. -/
theorem path_play (s : Script) :
    Path True (0, s.initial) (0, after s.play s.initial) := by
  have hfree : AllSteps (fun s => s.byHand = true → True) s.steps :=
    fun step _ => .of_all (fun _ _ => trivial) step
  have hinitial : Kept True 0 0 s.initial.program := by
    refine ⟨rfl, .nil, fun n => ?_, fun server hserver => by cases hserver⟩
    simp [Script.initial, Desk.shares]
  have hplay : Does True {} (Kept True 0) s.play fun _ => Kept True 0 :=
    .bind (keeping_runSteps True s.fuel 0 {} 0 s.steps hfree) fun _ => clear_does
  obtain ⟨H', hkept, hpath, -⟩ := hplay.moves 0 0 s.initial rfl hinitial
  obtain rfl := holds_eq_zero hkept (objects_clear _)
  simpa using hpath

/-- No span leaks and none ends twice. Of every span that starts in a session, the journal says
exactly two things: that it started, and later that it ended. -/
theorem account_of_started (s : Script) {n : Nat} {name : String} {parent : Option SpanId}
    {scope : Scope} (h : .started n name parent scope ∈ s.journal) :
    ∃ attrs failure, account n s.journal =
      [.started n name parent scope, .ended n name attrs failure] := by
  have hledger : Ledger (0, after s.play s.initial) := by
    refine (path_play s).invariant (ledger_move True) ⟨fun n name scope hopen => ?_, fun n => ?_⟩
    · cases hopen
    · exact .unknown
  have hmem : .started n name parent scope ∈ account n s.journal :=
    List.mem_filter.mpr ⟨h, by simp [Entry.number?]⟩
  have hjournal : account n s.journal = account n (after s.play s.initial).spanEvents :=
    account_journal n _
  rw [hjournal] at hmem ⊢
  refine (hledger.accounts n).of_started hmem fun name scope hopen => ?_
  obtain ⟨hold, hnone, -⟩ := hledger.held n name scope hopen
  exact absurd hnone (Multiset.notMem_zero hold)

/-- A deferred span is dropped inside its own scope, where an execution fails whose span was ended
by hand. -/
def droppedScope : Script where
  steps :=
    [.instrument (some "i") .standard (.own .recording) none, .chain (some "x") "table" .none,
     .deferred (some "d") "i", .startDeferred "d" "x",
     .scope "d" [.drop "d", .execute "i" (.chain "x") .newQuery [.endCurrent] (.error "lost")]]

theorem account_droppedScope :
    .started 0 "/table" none .tracing ∈ droppedScope.journal ∧
      ∃ attrs failure, account 0 droppedScope.journal =
        [.started 0 "/table" none .tracing, .ended 0 "/table" attrs failure] := by
  have hstarted : .started 0 "/table" none .tracing ∈ droppedScope.journal :=
    List.mem_of_getElem? (i := 3) rfl
  exact ⟨hstarted, account_of_started droppedScope hstarted⟩

end Session

end QueryTrace
