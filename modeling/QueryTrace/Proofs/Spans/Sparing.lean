import QueryTrace.Layer.Run
import QueryTrace.Layer.Sending
import QueryTrace.Proofs.Worlds

/-!
# Operations that spare a span

A span is watched while other operations run. They spare it if it stays open, gets no measured
duration, and fails only where a failure can be blamed on it. The tracing operations spare a span
that none of them has in its hands: it is no deferred span of the program, and wherever it is
current, the active query is that of a chain. For only a span that is current for a request can be
taken for a stale one.
-/

namespace QueryTrace

variable {σ ν α β : Type}

/-- A span that is watched. -/
structure Watch (σ ν : Type) where
  /-- The number of the span. -/
  number : Nat
  /-- In such a state the program holds no open span of this number. -/
  clear : σ → Prop
  /-- These notes blame a failure on the span. -/
  blames : ν → Prop

/-- No attribute is a measured duration. -/
def Untimed (attrs : List Attr) : Prop :=
  ∀ attr ∈ attrs, attr.1 ≠ "db.duration_ms"

/-- The entry is the end of the span with this number. -/
def Entry.isEndOf (n : Nat) : Entry ν → Bool
  | .ended number .. => number = n
  | _ => false

/-- The span that a deferred span has open, if any, has another number. -/
def Deferred.Apart (n : Nat) (d : Deferred) : Prop :=
  ∀ context name, d.state = .active context name → context.span.record ≠ some n

namespace World

variable (w : World σ ν) (span : SpanRef)

/-- The end of a span tells of its end, and of nothing else. -/
theorem journal_finish : ∃ entries, (w.finish span).journal = w.journal ++ entries ∧
    ∀ e ∈ entries, ∀ n, e.isEndOf n = true → span.record = some n := by
  unfold finish
  split
  · next number r hnumber _ =>
    refine ⟨[.ended number r.name r.attrs r.failure], by simp, fun e he n hn => ?_⟩
    obtain rfl := List.mem_singleton.mp he
    rw [hnumber, of_decide_eq_true hn]
  · exact ⟨[], by simp, by simp⟩

theorem journal_startSpan (provider : Provider) (scope : Scope) (name : String) :
    ∃ entries, (w.startSpan provider scope name span).2.journal = w.journal ++ entries ∧
      ∀ e ∈ entries, ∀ n, e.isEndOf n = false := by
  cases provider with
  | recording => exact ⟨[_], rfl, by simp [Entry.isEndOf]⟩
  | unsampled => exact ⟨[], by simp [startSpan], by simp⟩
  | inert => exact ⟨[], by simp [startSpan], by simp⟩

end World

namespace Watch

variable (k : Watch σ ν)

/-- Where the span is current, the active query is that of a chain. -/
def Tame (c : Context) : Prop :=
  c.span.record = some k.number → c.active = some .chain

/-- The span is open, and the program does not hold it. -/
structure Open (w : World σ ν) : Prop where
  record : ∃ r, w.spans[k.number]? = some r ∧ r.ended = false
  clear : k.clear w.program

/-- From one world to the other the span stayed open and was not measured. It failed only where
that was blamed on it, or if the failure is still to be blamed. -/
structure Spared (blamable : Prop) (w v : World σ ν) : Prop where
  contexts : v.contexts = w.contexts
  clear : k.clear v.program
  grows : ∃ r more failure entries, w.spans[k.number]? = some r ∧ r.ended = false ∧
    v.spans[k.number]? = some { r with attrs := r.attrs ++ more, failure } ∧ Untimed more ∧
    v.journal = w.journal ++ entries ∧ (∀ e ∈ entries, e.isEndOf k.number = false) ∧
    (failure = r.failure ∨ (∃ note, .noted note ∈ entries ∧ k.blames note) ∨ blamable)

end Watch

/-- In a context, an action spares a span; a failure may be left to be blamed, depending on the
result. -/
structure Spares (k : Watch σ ν) (c : Context) (act : Action σ ν α) (blamable : α → Prop)
    (Q : α → Prop) : Prop where
  spares : ∀ w : World σ ν, w.current = c → k.Open w →
    k.Spared (blamable (result act w)) w (after act w) ∧ Q (result act w)

/-- No failure is left to be blamed. -/
def blameless (_ : α) : Prop := False

namespace Watch

variable {k : Watch σ ν} {w v u : World σ ν} {F G : Prop}

theorem Spared.current (h : k.Spared F w v) : v.current = w.current := by
  unfold World.current
  rw [h.contexts]

theorem Spared.open (h : k.Spared F w v) : k.Open v := by
  obtain ⟨r, more, failure, -, -, hopen, hv, -⟩ := h.grows
  exact ⟨⟨_, hv, hopen⟩, h.clear⟩

theorem Spared.mono (h : k.Spared F w v) (hFG : F → G) : k.Spared G w v := by
  obtain ⟨r, more, failure, entries, hr, hopen, hv, hmore, hjournal, hends, hfailure⟩ := h.grows
  exact ⟨h.contexts, h.clear, r, more, failure, entries, hr, hopen, hv, hmore, hjournal, hends,
    hfailure.imp_right (Or.imp_right hFG)⟩

theorem untimed_append {xs ys : List Attr} (hx : Untimed xs) (hy : Untimed ys) :
    Untimed (xs ++ ys) := by
  intro attr hattr
  rcases List.mem_append.mp hattr with hattr | hattr
  · exact hx attr hattr
  · exact hy attr hattr

theorem Spared.trans (h : k.Spared F w v) (h' : k.Spared G v u) : k.Spared (F ∨ G) w u := by
  obtain ⟨r, more, failure, entries, hr, hopen, hv, hmore, hjournal, hends, hfailure⟩ := h.grows
  obtain ⟨r', more', failure', entries', hr', -, hu, hmore', hjournal', hends', hfailure'⟩ :=
    h'.grows
  obtain rfl := Option.some.inj (hv.symm.trans hr')
  refine ⟨h'.contexts.trans h.contexts, h'.clear, r, more ++ more', failure', entries ++ entries',
    hr, hopen, by simpa using hu, untimed_append hmore hmore', ?_, ?_, ?_⟩
  · rw [hjournal', hjournal, List.append_assoc]
  · intro e he
    exact (List.mem_append.mp he).elim (hends e) (hends' e)
  · rcases hfailure' with hsame | ⟨note, hnote, hblames⟩ | hG
    · rcases hfailure with hsame' | ⟨note, hnote, hblames⟩ | hF
      · exact .inl (hsame.trans hsame')
      · exact .inr (.inl ⟨note, List.mem_append_left _ hnote, hblames⟩)
      · exact .inr (.inr (.inl hF))
    · exact .inr (.inl ⟨note, List.mem_append_right _ hnote, hblames⟩)
    · exact .inr (.inr (.inr hG))

/-- What leaves the record of the span alone spares it, if it does not end it in the journal. -/
theorem Open.spared_of_same (h : k.Open w) (hcontexts : v.contexts = w.contexts)
    (hclear : k.clear v.program) (hspans : v.spans[k.number]? = w.spans[k.number]?)
    {entries : List (Entry ν)} (hjournal : v.journal = w.journal ++ entries)
    (hends : ∀ e ∈ entries, e.isEndOf k.number = false) : k.Spared F w v := by
  obtain ⟨r, hr, hopen⟩ := h.record
  refine ⟨hcontexts, hclear, r, [], r.failure, entries, hr, hopen, ?_, ?_, hjournal, hends,
    .inl rfl⟩
  · rw [hspans, hr, List.append_nil]
  · exact fun attr hattr => absurd hattr List.not_mem_nil

/-- A note is no end, and may take the blame. -/
theorem Spared.note (h : k.Spared F w v) {note : ν} (hF : F → k.blames note) :
    k.Spared G w (v.write (.noted note)) := by
  obtain ⟨r, more, failure, entries, hr, hopen, hv, hmore, hjournal, hends, hfailure⟩ := h.grows
  refine ⟨h.contexts, h.clear, r, more, failure, entries ++ [.noted note], hr, hopen, hv, hmore,
    ?_, ?_, ?_⟩
  · rw [World.journal_write, hjournal, List.append_assoc]
  · intro e he
    rcases List.mem_append.mp he with he | he
    · exact hends e he
    · obtain rfl := List.mem_singleton.mp he
      rfl
  · rcases hfailure with hsame | ⟨note', hnote, hblames⟩ | hblamable
    · exact .inl hsame
    · exact .inr (.inl ⟨note', List.mem_append_left _ hnote, hblames⟩)
    · exact .inr (.inl ⟨note, List.mem_append_right _ List.mem_cons_self, hF hblamable⟩)

/-! ## Single operations -/

section Operations

variable (h : k.Open w)
include h

theorem Open.spared_log (level : Level) (message : String) (fields : List Attr) :
    k.Spared F w (w.log level message fields) := by
  rcases w.journal_log level message fields with hsame | hlogged
  · exact h.spared_of_same (by simp) (by simpa using h.clear) (by simp)
      (hsame.trans (List.append_nil _).symm) (by simp)
  · exact h.spared_of_same (by simp) (by simpa using h.clear) (by simp) hlogged
      (by simp [Entry.isEndOf])

/-- Attributes other than a measured duration may be given to any span. -/
theorem Open.spared_annotate (span : SpanRef) {attrs : List Attr}
    (hspan : span.record ≠ some k.number ∨ Untimed attrs) :
    k.Spared F w (w.annotate span attrs) := by
  obtain ⟨r, hr, hopen⟩ := h.record
  have hgrows : ∃ more, (w.annotate span attrs).spans[k.number]? =
      some { r with attrs := r.attrs ++ more, failure := r.failure } ∧ Untimed more := by
    rw [World.annotate, World.getElem?_spans_amend, hr, Option.map_some]
    by_cases hnumber : span.record = some k.number
    · exact ⟨attrs, by simp [hnumber, hopen], hspan.resolve_left (absurd hnumber)⟩
    · exact ⟨[], by simp [hnumber], fun attr hattr => absurd hattr List.not_mem_nil⟩
  obtain ⟨more, hv, hmore⟩ := hgrows
  exact ⟨World.contexts_annotate .., by simpa using h.clear, r, more, r.failure, [], hr, hopen, hv,
    hmore, by simp, by simp, .inl rfl⟩

/-- The failure of another span says nothing of this one. -/
theorem Open.spared_fail (span : SpanRef) (description : String) :
    k.Spared (span.record = some k.number) w (w.fail span description) := by
  obtain ⟨r, hr, hopen⟩ := h.record
  have hv : ∃ failure, (w.fail span description).spans[k.number]? =
      some { r with attrs := r.attrs ++ [], failure } ∧
      (failure = r.failure ∨ span.record = some k.number) := by
    rw [World.fail, World.getElem?_spans_amend, hr, Option.map_some]
    by_cases hnumber : span.record = some k.number
    · refine ⟨(r.fail description).failure, ?_, .inr hnumber⟩
      rw [if_pos ⟨hnumber, hopen⟩, List.append_nil]
      unfold SpanRecord.fail
      split
      · rfl
      · split <;> rfl
    · exact ⟨r.failure, by simp [hnumber], .inl rfl⟩
  obtain ⟨failure, hv, hfailure⟩ := hv
  exact ⟨World.contexts_fail .., by simpa using h.clear, r, [], failure, [], hr, hopen, hv,
    fun attr hattr => absurd hattr List.not_mem_nil, by simp, by simp,
    hfailure.imp_right .inr⟩

/-- The end of another span. -/
theorem Open.spared_finish {span : SpanRef} (hspan : span.record ≠ some k.number) :
    k.Spared F w (w.finish span) := by
  obtain ⟨entries, hjournal, hends⟩ := w.journal_finish span
  refine h.spared_of_same (by simp) (by simpa using h.clear)
    (w.getElem?_spans_finish_of_ne span hspan) hjournal fun e he => ?_
  cases hend : e.isEndOf k.number with
  | false => rfl
  | true => exact absurd (hends e he k.number hend) hspan

theorem Open.spared_startSpan (provider : Provider) (scope : Scope) (name : String)
    (parent : SpanRef) : k.Spared F w (w.startSpan provider scope name parent).2 := by
  obtain ⟨r, hr, -⟩ := h.record
  obtain ⟨entries, hjournal, hends⟩ := w.journal_startSpan parent provider scope name
  exact h.spared_of_same (by simp) (by simpa using h.clear)
    (w.getElem?_spans_startSpan _ _ _ _ (List.getElem?_eq_some_iff.mp hr).1) hjournal
    fun e he => hends e he k.number

/-- A span that starts later has another number. -/
theorem Open.record_startSpan (provider : Provider) (scope : Scope) (name : String)
    (parent : SpanRef) :
    (w.startSpan provider scope name parent).1.record ≠ some k.number := by
  obtain ⟨r, hr, -⟩ := h.record
  intro hnumber
  have hlt : k.number < w.spans.length := (List.getElem?_eq_some_iff.mp hr).1
  exact Nat.ne_of_lt hlt (w.record_startSpan provider scope name parent hnumber).1

end Operations

end Watch

/-! ## Actions -/

namespace Spares

variable {k : Watch σ ν} {c : Context} {blamable : α → Prop} {Q : α → Prop}

theorem pure {a : α} (h : Q a) : Spares k c (pure a : Action σ ν α) blamable Q :=
  ⟨fun _ _ hopen => ⟨hopen.spared_of_same rfl hopen.clear rfl (List.append_nil _).symm (by simp),
    h⟩⟩

/-- What the first action leaves to be blamed, the second must be blamed for. -/
theorem bind_blaming {act : Action σ ν α} {f : α → Action σ ν β} {blamable' : β → Prop}
    {R : β → Prop} (h : Spares k c act blamable Q) (hf : ∀ a, Q a →
      Spares k c (f a) blamable' fun b => R b ∧ (blamable a → blamable' b)) :
    Spares k c (act >>= f) blamable' R := by
  refine ⟨fun w hw hopen => ?_⟩
  obtain ⟨hspared, hQ⟩ := h.spares w hw hopen
  obtain ⟨hspared', hR, hblame⟩ := (hf _ hQ).spares _ (hspared.current.trans hw) hspared.open
  exact ⟨(hspared.trans hspared').mono fun hor => hor.elim hblame id, hR⟩

theorem bind {act : Action σ ν α} {f : α → Action σ ν β} {blamable' : β → Prop} {R : β → Prop}
    (h : Spares k c act blameless Q) (hf : ∀ a, Q a → Spares k c (f a) blamable' R) :
    Spares k c (act >>= f) blamable' R :=
  h.bind_blaming fun a ha => ⟨fun w hw hopen =>
    ⟨((hf a ha).spares w hw hopen).1, ((hf a ha).spares w hw hopen).2, False.elim⟩⟩

theorem mono {act : Action σ ν α} {blamable' : α → Prop} {R : α → Prop}
    (h : Spares k c act blamable Q) (hblame : ∀ a, blamable a → blamable' a)
    (hR : ∀ a, Q a → R a) : Spares k c act blamable' R :=
  ⟨fun w hw hopen => (h.spares w hw hopen).imp (·.mono (hblame _)) (hR _)⟩

theorem bind_current {f : Context → Action σ ν β} {blamable' : β → Prop} {R : β → Prop}
    (h : Spares k c (f c) blamable' R) : Spares k c (current >>= f) blamable' R := by
  refine ⟨fun w hw hopen => ?_⟩
  rw [result_bind, after_bind, result_current, after_current, hw]
  exact h.spares w hw hopen

/-- What an action sees of the world, it may use; that the program holds no open span of the number
is known. -/
theorem bind_get {f : World σ ν → Action σ ν β} {blamable' : β → Prop} {R : β → Prop}
    (h : ∀ w, w.current = c → k.Open w → Spares k c (f w) blamable' R) :
    Spares k c (get >>= f) blamable' R :=
  ⟨fun w hw hopen => (h w hw hopen).spares w hw hopen⟩

theorem log (level : Level) (message : String) (fields : List Attr) :
    Spares k c (log level message fields : Action σ ν Unit) blameless fun _ => True :=
  ⟨fun _ _ hopen => ⟨hopen.spared_log level message fields, trivial⟩⟩

theorem annotate {span : SpanRef} {attrs : List Attr}
    (h : span.record ≠ some k.number ∨ Untimed attrs) :
    Spares k c (modify (·.annotate span attrs) : Action σ ν Unit) blameless fun _ => True :=
  ⟨fun _ _ hopen => ⟨hopen.spared_annotate span h, trivial⟩⟩

theorem fail (span : SpanRef) (description : String) :
    Spares k c (modify (·.fail span description) : Action σ ν Unit)
      (fun _ => span.record = some k.number) fun _ => True :=
  ⟨fun _ _ hopen => ⟨hopen.spared_fail span description, trivial⟩⟩

theorem finish {span : SpanRef} (h : span.record ≠ some k.number) :
    Spares k c (modify (·.finish span) : Action σ ν Unit) blameless fun _ => True :=
  ⟨fun _ _ hopen => ⟨hopen.spared_finish h, trivial⟩⟩

/-- A span that is started is not the one that is watched. -/
theorem bind_startSpan {provider : Provider} {scope : Scope} {name : String} {parent : SpanRef}
    {f : SpanRef → Action σ ν β} {blamable' : β → Prop} {R : β → Prop}
    (h : ∀ span, span.record ≠ some k.number → Spares k c (f span) blamable' R) :
    Spares k c (do
      let (span, w) := (← get).startSpan provider scope name parent
      set w
      f span) blamable' R := by
  refine ⟨fun w hw hopen => ?_⟩
  have hstarted : k.Spared False w _ := hopen.spared_startSpan provider scope name parent
  obtain ⟨hspared, hR⟩ := (h _ (hopen.record_startSpan provider scope name parent)).spares _
    (hstarted.current.trans hw) hstarted.open
  exact ⟨(hstarted.trans hspared).mono (Or.elim · False.elim id), hR⟩

theorem startIn (m : Manager) (context : Context) (name : String) (mode : Mode) :
    Spares k c (m.startIn context name mode : Action σ ν Context) blameless fun inner =>
      inner.span.record ≠ some k.number ∧ inner.inRequest = context.inRequest :=
  ⟨fun _ _ hopen => ⟨hopen.spared_startSpan .., hopen.record_startSpan _ _ _ _, rfl⟩⟩

theorem within {inner : Context} {act : Action σ ν α} (h : Spares k inner act blamable Q) :
    Spares k c (within inner act) blamable Q := by
  refine ⟨fun w hw hopen => ?_⟩
  obtain ⟨hspared, hQ⟩ := h.spares (w.attach inner) rfl ⟨hopen.record, hopen.clear⟩
  refine ⟨⟨?_, hspared.clear, hspared.grows⟩, hQ⟩
  rw [after_within, World.contexts_detach, hspared.contexts]
  rfl

end Spares

/-! ## The manager -/

namespace Manager

variable {k : Watch σ ν} {c : Context}

theorem untimed_serverAttrs (config : Config) : Untimed (serverAttrs config) := by
  intro attr hattr
  simp only [serverAttrs, List.mem_append, List.mem_singleton, Option.mem_toList,
    Option.map_eq_some_iff] at hattr
  rcases hattr with ((rfl | ⟨_, -, rfl⟩) | ⟨_, -, rfl⟩) | ⟨_, -, rfl⟩ <;> simp

/-- No description of a query measures it. -/
theorem untimed_attrs (config : Config) (source : Source) : Untimed (attrs config source) := by
  cases source with
  | request query summary =>
    refine Watch.untimed_append (untimed_serverAttrs config) fun attr hattr => ?_
    simp only [requestAttrs, List.mem_append, List.mem_cons, List.not_mem_nil, or_false] at hattr
    rcases hattr with (rfl | rfl) | hquery
    · simp
    · simp
    · split at hquery
      · obtain rfl := List.mem_singleton.mp hquery
        simp
      · cases hquery
  | chain calls =>
    refine Watch.untimed_append (untimed_serverAttrs config) fun attr hattr => ?_
    obtain ⟨call, -, rfl⟩ := List.mem_map.mp hattr
    intro hkey
    have hchars := congrArg String.toList hkey
    simp at hchars

/-- The span that a traced call is attributed to, if it gets none of its own. -/
def attributed? (context : Context) (source : Source) (role : Role) : Option SpanRef :=
  match role, context.active with
  | .continuation, some _ => some context.span
  | .newQuery, some .chain => if source.mode = .request then some context.span else none
  | .newQuery, some .deferred => if source.mode = .request then some context.span else none
  | _, _ => none

variable {span : SpanRef}

theorem describe_spares (m : Manager) (source : Source) :
    Spares k c (m.describe span source : Action σ ν Source) blameless fun _ => True :=
  .bind (.annotate (.inr (untimed_attrs m.config source))) fun _ _ => .pure trivial

/-- A failed result is to be blamed on the span that it is noted on. -/
theorem noteFailure_spares (result : Except String α) :
    Spares k c (noteFailure span result : Action σ ν _)
      (fun _ => span.record = some k.number ∧ ∃ message, result = .error message)
      fun r => r = result := by
  cases result with
  | ok a => exact .pure rfl
  | error message =>
    refine .bind (.log ..) fun _ _ => .bind_blaming (.fail span message) ?_
    exact fun _ _ => .pure ⟨rfl, fun h => ⟨h, message, rfl⟩⟩

theorem noteDuration_spares (m : Manager) (started : Nat) (h : span.record ≠ some k.number) :
    Spares k c (m.noteDuration span started : Action σ ν Unit) blameless fun _ => True := by
  refine .bind_get fun w _ _ => ?_
  split
  · refine .bind (.annotate (.inl h)) fun _ _ => ?_
    split
    · exact .bind (.annotate (.inl h)) fun _ _ => .log ..
    · exact .pure trivial
  · exact .pure trivial

/-! A traced call hands on what the call gives. It is made in the context of before, or in that of a
span of its own. -/

section Call

variable {call : Action σ ν (Except String α)} {Q : Except String α → Prop}

theorem runInSpan_spares (m : Manager) (context : Context) (source : Source)
    (h : ∀ c', c'.inRequest = context.inRequest → k.Tame c' → Spares k c' call blameless Q) :
    Spares k c (m.runInSpan context source call) blameless fun x => Q x.1 := by
  refine .bind (.log ..) fun _ _ => .bind (.startIn m context ..) fun inner ⟨hspan, hrequest⟩ => ?_
  refine .bind (m.describe_spares source) fun source _ => .bind_get fun _ _ _ => ?_
  refine .bind (.within (h inner hrequest (absurd · hspan))) fun result hresult => ?_
  refine .bind (m.noteDuration_spares _ hspan) fun _ _ => ?_
  refine .bind_blaming (noteFailure_spares result) fun result' hsame => ?_
  subst hsame
  exact .bind (.finish hspan) fun _ _ => .pure ⟨hresult, fun hblame => hspan hblame.1⟩

/-- A call that is traced for the span of another query. -/
theorem noteResult_spares {span : SpanRef} (source : Source)
    (h : Spares k c call blameless Q) :
    Spares k c (do return (← noteFailure span (← call), source))
      (fun x => span.record = some k.number ∧ ∃ message, x.1 = .error message) fun x => Q x.1 := by
  refine .bind h fun result hresult => .bind_blaming (noteFailure_spares result) ?_
  intro result' hsame
  subst hsame
  exact .pure ⟨hresult, id⟩

theorem runContinuation_spares {span : SpanRef} (mode : Mode) (source : Source)
    (h : Spares k c call blameless Q) : Spares k c (runContinuation span mode source call)
      (fun x => span.record = some k.number ∧ ∃ message, x.1 = .error message) fun x => Q x.1 :=
  .bind (.log ..) fun _ _ => .bind (.annotate (.inr (by simp [Untimed]))) fun _ _ =>
    noteResult_spares source h

theorem runStray_spares (m : Manager) (source : Source) (h : Spares k c call blameless Q) :
    Spares k c (m.runStray source call) blameless fun x => Q x.1 :=
  .bind (.log ..) fun _ _ => .bind h fun _ hresult => .pure hresult

theorem runCovered_spares (m : Manager) {span : SpanRef} (mode : Mode) (source : Source)
    (h : Spares k c call blameless Q) : Spares k c (m.runCovered span mode source call)
      (fun x => span.record = some k.number ∧ ∃ message, x.1 = .error message) fun x => Q x.1 := by
  refine .bind (.log ..) fun _ _ => ?_
  dsimp only
  split
  · exact noteResult_spares _ h
  · exact .bind (m.describe_spares source) fun source _ => noteResult_spares source h

/-- A stale span is that of a request. -/
theorem endStale_spares (hc : k.Tame c) (hactive : c.active = some .request) :
    Spares k c (endStale c.span : Action σ ν Unit) blameless fun _ => True := by
  have hspan : c.span.record ≠ some k.number := by
    intro hspan
    rw [hc hspan] at hactive
    cases hactive
  refine .bind_get fun w _ _ => ?_
  split
  · exact .bind (.log ..) fun _ _ => .finish hspan
  · exact .pure trivial

/-- A traced call spares the span. If it is attributed to the span and fails, it is to be blamed. -/
theorem trace_spares (m : Manager) (source : Source) (role : Role) (hc : k.Tame c)
    (h : ∀ c', c'.inRequest = c.inRequest → k.Tame c' → Spares k c' call blameless Q) :
    Spares k c (m.trace source role call)
      (fun x => (∃ span, attributed? c source role = some span ∧ span.record = some k.number) ∧
        ∃ message, x.1 = .error message) fun x => Q x.1 := by
  have hcall := h c rfl hc
  refine .bind_current ?_
  split
  · exact (m.runStray_spares source hcall).mono (fun _ => False.elim) fun _ => id
  · next mode hmode =>
    refine (runContinuation_spares mode source hcall).mono (fun x hx => ⟨⟨c.span, ?_, hx.1⟩, hx.2⟩)
      fun _ => id
    simp [attributed?, hmode]
  · exact (m.runInSpan_spares c source h).mono (fun _ => False.elim) fun _ => id
  · next hmode =>
    exact .bind (endStale_spares hc hmode) fun _ _ =>
      (m.runInSpan_spares c source h).mono (fun _ => False.elim) fun _ => id
  · next mode hrequest hmode =>
    split
    · next hsource =>
      refine (m.runCovered_spares mode source hcall).mono
        (fun x hx => ⟨⟨c.span, ?_, hx.1⟩, hx.2⟩) fun _ => id
      cases mode with
      | request => exact absurd rfl hrequest
      | chain => simp [attributed?, hmode, hsource]
      | deferred => simp [attributed?, hmode, hsource]
    · exact (m.runInSpan_spares c source h).mono (fun _ => False.elim) fun _ => id

end Call

end Manager

/-! ## Requests -/

namespace Layer

variable {k : Watch σ ν} {c : Context} {base : Send σ ν} {request : Request} {noreply : Bool}
  {Q : Except String Response → Prop}

/-- The span that a request through layers is attributed to, if it gets none of its own: only the
outermost layer traces it. -/
def attributed? (layers : List Layer) (context : Context) (request : Request) : Option SpanRef :=
  match layers with
  | [] => none
  | layer :: _ =>
    let summary := layer.classifier.summarise request.rendered
    if context.inRequest then none
    else summary.role?.bind fun role => Manager.attributed? { context with inRequest := true }
      (.request request.rendered summary) role

/-- A request that is under way passes through all layers. -/
theorem sendThrough_spares_of_inRequest (hc : c.inRequest = true)
    (h : Spares k c (base request noreply) blameless Q) (layers : List Layer) :
    Spares k c (sendThrough layers base request noreply) blameless Q := by
  induction layers with
  | nil => exact h
  | cons layer layers ih =>
    refine .bind_current ?_
    rw [if_pos hc]
    exact ih

theorem render_spares (request : Request) :
    Spares k c (render request : Action σ ν String) blameless (· = request.rendered) := by
  unfold render
  cases request.serialize with
  | error reason => exact .bind (.log ..) fun _ _ => .pure rfl
  | ok bs => exact .pure rfl

/-- A request through layers spares the span. If it is attributed to the span and fails, it is to be
blamed. -/
theorem sendThrough_spares (hc : k.Tame c)
    (h : ∀ c', k.Tame c' → Spares k c' (base request noreply) blameless Q) (layers : List Layer) :
    Spares k c (sendThrough layers base request noreply)
      (fun r => (∃ span, attributed? layers c request = some span ∧ span.record = some k.number) ∧
        ∃ message, r = .error message) Q := by
  cases layers with
  | nil => exact (h c hc).mono (fun _ => False.elim) fun _ => id
  | cons layer layers =>
    by_cases hrequest : c.inRequest = true
    · exact (sendThrough_spares_of_inRequest hrequest (h c hc) _).mono (fun _ => False.elim)
        fun _ => id
    · refine .bind_current ?_
      rw [if_neg hrequest]
      refine .within (.bind (render_spares request) fun rendered hrendered => ?_)
      subst hrendered
      have hinner (c' : Context) (hinrequest : c'.inRequest = true) (htame : k.Tame c') :
          Spares k c' (sendThrough layers base request noreply) blameless Q :=
        sendThrough_spares_of_inRequest hinrequest (h c' htame) layers
      cases hrole : (layer.classifier.summarise request.rendered).role? with
      | none =>
        simp only [hrole]
        exact .bind (.log ..) fun _ _ =>
          (hinner { c with inRequest := true } rfl hc).mono (fun _ => False.elim) fun _ => id
      | some role =>
        simp only [hrole]
        refine .bind_blaming (layer.manager.trace_spares _ role hc hinner) fun x hx => ?_
        refine .pure ⟨hx, fun ⟨⟨span, hspan, hnumber⟩, hfailed⟩ => ⟨⟨span, ?_, hnumber⟩, hfailed⟩⟩
        simpa [attributed?, hrequest, hrole] using hspan

end Layer

/-! ## Deferred spans -/

namespace Deferred

variable {k : Watch σ ν} {c : Context} {d : Deferred}

theorem start_spares (hd : d.Apart k.number) (chain : Chain) :
    Spares k c (d.start chain : Action σ ν (Except StillActive Unit × Deferred)) blameless
      fun x => x.2.Apart k.number := by
  unfold Deferred.start
  split
  · exact .pure hd
  · refine .bind (.log ..) fun _ _ => .bind_current <| .bind (.startIn ..) fun inner hinner => ?_
    refine .pure fun context name hactive => ?_
    cases hactive
    exact hinner.1

theorem inScope_spares {act : Action σ ν α} {blamable : α → Prop} {Q : α → Prop}
    (hd : d.Apart k.number) (hc : k.Tame c) (h : ∀ c', k.Tame c' → Spares k c' act blamable Q) :
    Spares k c (d.inScope act) blamable Q := by
  unfold Deferred.inScope
  split
  · next context name hactive => exact .within (h context (absurd · (hd context name hactive)))
  · exact h c hc

theorem noteError_spares (hd : d.Apart k.number) (message : String) :
    Spares k c (d.noteError message : Action σ ν Unit) blameless fun _ => True := by
  unfold Deferred.noteError
  split
  · next context name hactive =>
    exact .bind (.log ..) fun _ _ => (Spares.fail context.span message).mono
      (fun _ => hd context name hactive) fun _ => id
  · exact .pure trivial

theorem noteRows_spares (hd : d.Apart k.number) (rows : UInt64) :
    Spares k c (d.noteRows rows : Action σ ν Unit) blameless fun _ => True := by
  unfold Deferred.noteRows
  split
  · next context name hactive =>
    split
    · exact .annotate (.inl (hd context name hactive))
    · exact .pure trivial
  · exact .pure trivial

theorem stop_spares (hd : d.Apart k.number) (chain : Chain) :
    Spares k c (d.stop chain : Action σ ν (Deferred × Chain)) blameless
      fun x => x.1.Apart k.number := by
  unfold Deferred.stop
  split
  · next context name hactive =>
    have hspan := hd context name hactive
    have hends : Spares k c (modify fun w : World σ ν => (w.annotate context.span
        (Manager.attrs d.manager.config (.chain chain))).finish context.span) blameless
        fun _ => True :=
      .bind (.annotate (.inl hspan)) fun _ _ => .finish hspan
    refine .bind (.log ..) fun _ _ => .bind hends fun _ _ => .pure fun _ _ hclosed => ?_
    cases hclosed
  · exact .pure hd

theorem abandon_spares (hd : d.Apart k.number) :
    Spares k c (d.abandon : Action σ ν Unit) blameless fun _ => True := by
  unfold Deferred.abandon
  split
  · next context name hactive => exact .finish (hd context name hactive)
  · exact .pure trivial

end Deferred

/-! ## Streams -/

namespace RowsLayer

variable {κ : Type} {k : Watch σ ν} {c : Context} {layer : RowsLayer}

/-- An iteration that is not over has another span open, if any. -/
def Apart (n : Nat) (layer : RowsLayer) : Prop :=
  layer.finished = false → layer.span.Apart n

theorem ensureStarted_spares (hlayer : layer.span.Apart k.number) :
    Spares k c (layer.ensureStarted : Action σ ν RowsLayer) blameless
      fun l => l.span.Apart k.number := by
  unfold ensureStarted
  split
  · refine .bind (Deferred.start_spares hlayer _) fun ⟨refused, span⟩ hspan => ?_
    cases refused with
    | error e => exact .bind (.log ..) fun _ _ => .pure hspan
    | ok _ => exact .pure hspan
  · exact .pure hlayer

variable (hlayer : layer.Apart k.number)
include hlayer

theorem finish_spares :
    Spares k c (layer.finish : Action σ ν RowsLayer) blameless fun l => l.Apart k.number := by
  unfold finish
  split
  · exact .pure hlayer
  · next hfinished =>
    exact .bind (Deferred.noteRows_spares (hlayer (by simpa using hfinished)) _) fun _ _ =>
      .bind (Deferred.stop_spares (hlayer (by simpa using hfinished)) _) fun _ hspan =>
        .pure fun _ => hspan

theorem drop_spares : Spares k c (layer.drop : Action σ ν Unit) blameless fun _ => True := by
  unfold drop
  split
  · exact .bind (.log ..) fun _ _ => .bind (finish_spares hlayer) fun _ _ => .pure trivial
  · exact .bind (finish_spares hlayer) fun _ _ => .pure trivial

theorem next_spares (hc : k.Tame c) {fetch : Action σ ν (Except String (Option Value) × κ)}
    (h : ∀ c', k.Tame c' → Spares k c' fetch blameless fun _ => True) :
    Spares k c (layer.next fetch) blameless fun x => x.2.Apart k.number := by
  unfold next
  split
  · exact .bind (h c hc) fun _ _ => .pure hlayer
  · next hfinished =>
    refine .bind (ensureStarted_spares (hlayer (by simpa using hfinished))) fun layer hspan => ?_
    have hlayer : layer.Apart k.number := fun _ => hspan
    refine .bind (Deferred.inScope_spares hspan hc h) fun out _ => ?_
    match out with
    | (.ok (some _), _) => exact .pure fun _ => hspan
    | (.ok none, _) =>
      exact .bind (.log ..) fun _ _ => .bind (finish_spares hlayer) fun _ h => .pure h
    | (.error message, _) =>
      exact .bind (Deferred.noteError_spares hspan message) fun _ _ =>
        .bind (finish_spares hlayer) fun _ h => .pure h

theorem close_spares (hc : k.Tame c) {inner : Action σ ν (Except String Unit × κ)}
    (h : ∀ c', k.Tame c' → Spares k c' inner blameless fun _ => True) :
    Spares k c (layer.close inner) blameless fun x => x.2.Apart k.number := by
  unfold close
  split
  · exact .bind (h c hc) fun _ _ => .pure hlayer
  · next hfinished =>
    have hspan : layer.span.Apart k.number := hlayer (by simpa using hfinished)
    refine .bind (Deferred.inScope_spares hspan hc h) fun out _ => ?_
    match out with
    | (.ok _, _) => exact .bind (finish_spares hlayer) fun _ h => .pure h
    | (.error message, _) =>
      exact .bind (Deferred.noteError_spares hspan message) fun _ _ =>
        .bind (finish_spares hlayer) fun _ h => .pure h

end RowsLayer

end QueryTrace
