import QueryTrace.Proofs.Chains.Labels
import QueryTrace.Proofs.Rows.Feeding

/-!
# What the span of an iteration says

A reading of a traced stream starts with a fetch, and goes on with calls until one of them ends the
iteration: a fetch behind the last row, one that fails, a close, or the loss of the stream. The
driver of the stream asks its server for batches meanwhile, and its requests may be traced too.

Whatever the driver asks for, the span comes to give one account of the iteration
(`reading_account`): where the stream came from, how many rows were given, and the error that the
program was told at the end, if there was one. Until then it has nothing but marks of continuation,
and that is the invariant of the reading.
-/

namespace QueryTrace

open RowsLayer

variable {ι σ ν κ : Type}

/-! ## Readings -/

/-- What a program is told by a call on a stream. -/
inductive StreamReply where
  | fetched (row : Except String (Option Value))
  | closed (result : Except String Unit)
  | dropped

namespace StreamReply

/-- The iteration is over after this call. -/
def isEnd : StreamReply → Bool
  | .fetched (.ok (some _)) => false
  | _ => true

/-- The error that the program was told. -/
def failure? : StreamReply → Option String
  | .fetched (.error message) => some message
  | .closed (.error message) => some message
  | _ => none

end StreamReply

/-- A call on a layer around the stream of a driver. -/
inductive RowsLayer.Called (base : ι → Send σ ν) (layer : RowsLayer) (w : World σ ν) :
    StreamReply → RowsLayer → World σ ν → Prop
  | fetch {κ : Type} (d : Dialogue ι σ (Except String (Option Value) × κ)) : d.Feeds →
    Called base layer w (.fetched (result (layer.next (d.run base)) w).1.1)
      (result (layer.next (d.run base)) w).2 (after (layer.next (d.run base)) w)
  | close {κ : Type} (d : Dialogue ι σ (Except String Unit × κ)) : d.Feeds →
    Called base layer w (.closed (result (layer.close (d.run base)) w).1.1)
      (result (layer.close (d.run base)) w).2 (after (layer.close (d.run base)) w)
  | drop : Called base layer w .dropped layer (after layer.drop w)

/-- A reading of a new stream: the first fetch, made in the world `w`, and more calls until one ends
the iteration. Whatever is done between the calls, it leaves the span of the iteration alone. -/
inductive Reading (m : Manager) (origin : String) (base : ι → Send σ ν) (w : World σ ν) :
    List StreamReply → RowsLayer → World σ ν → Prop
  | opened {κ : Type} (d : Dialogue ι σ (Except String (Option Value) × κ)) : d.Feeds →
    Reading m origin base w [.fetched (result ((ofOrigin m origin).next (d.run base)) w).1.1]
      (result ((ofOrigin m origin).next (d.run base)) w).2
      (after ((ofOrigin m origin).next (d.run base)) w)
  | next {replies : List StreamReply} {reply : StreamReply} {layer layer' : RowsLayer}
      {v u t : World σ ν} : Reading m origin base w replies layer v →
    (∀ reply ∈ replies, reply.isEnd = false) →
    u.spans[w.spans.length]? = v.spans[w.spans.length]? → layer.Called base u reply layer' t →
    Reading m origin base w (replies ++ [reply]) layer' t

/-! ## Accounts -/

/-- The calls that describe an iteration. -/
def iterationCalls (origin : String) : Chain :=
  (Chain.start "cursor" (.one origin)).record "iter" .none

/-- The span has ended, and tells of an iteration: of where the stream came from, of the number of
rows that were given, and of this failure. The number is shown as a signed word. -/
structure SpanRecord.Accounts (m : Manager) (origin : String) (rows : Nat)
    (failure : Option String) (r : SpanRecord) : Prop where
  ended : r.ended = true
  label : r.label = ⟨m.config.spanLead.getD "" ++ "/cursor/iter",
    [("db.method.#00.cursor", .text (if m.config.logArguments then origin else "?")),
     ("db.method.#01.iter", .text (if m.config.logArguments then "" else "?"))]⟩
  rows : ∃ shown : Int, (rows < 2 ^ 63 → shown = rows) ∧ shown = Int.bmod rows (2 ^ 64) ∧
    r.attrs.filter (·.1 = "db.response.returned_rows") =
      if m.config.recordRows then [("db.response.returned_rows", .int shown)] else []
  silent : ∀ attr ∈ r.attrs, attr.1 ∉ ["db.query", "db.operation", "db.x.path"]
  failure : r.failure = failure

theorem history_iterationCalls (origin : String) :
    (iterationCalls origin).history = [("#00.cursor", origin), ("#01.iter", "")] := by
  have hcursor : Chain.key 0 "cursor" = "#00.cursor" := by decide
  have hiter : Chain.key 1 "iter" = "#01.iter" := by decide
  have horigin : (Args.one origin).rendered = origin := rfl
  have hnone : Args.none.rendered = "" := rfl
  simp only [iterationCalls, Chain.start, Chain.record, Chain.push, List.nil_append,
    List.cons_append, List.length_nil, List.length_singleton, hcursor, hiter, horigin, hnone]

theorem chainAttrs_iterationCalls (config : Config) (origin : String) :
    Manager.chainAttrs config (iterationCalls origin) =
      [("db.method.#00.cursor", .text (if config.logArguments then origin else "?")),
       ("db.method.#01.iter", .text (if config.logArguments then "" else "?"))] := by
  rw [Manager.chainAttrs, history_iterationCalls]
  simp

/-- The keys under which an iteration is described. -/
theorem key_of_description {config : Config} {origin : String} {attr : Attr}
    (h : attr ∈ Manager.attrs config (.chain (iterationCalls origin))) :
    attr.1 ∈ ["db.system", "db.name", "server.address", "server.port", "db.method.#00.cursor",
      "db.method.#01.iter"] := by
  rw [Manager.attrs, chainAttrs_iterationCalls] at h
  simp only [Manager.serverAttrs, List.mem_append, List.mem_cons, List.not_mem_nil, or_false,
    Option.mem_toList, Option.map_eq_some_iff] at h
  rcases h with (((rfl | ⟨_, -, rfl⟩) | ⟨_, -, rfl⟩) | ⟨_, -, rfl⟩) | rfl | rfl <;> simp

section Attrs

variable (m : Manager) (origin : String) (k rows : Nat)

/-- The number of rows as it is recorded, if it may be. -/
def Manager.rowAttrs : List Attr :=
  if m.config.recordRows then
    [("db.response.returned_rows", .int (UInt64.ofNat rows).toInt64.toInt)]
  else []

theorem filter_marks {p : Attr → Bool} (h : p continueMark = false) :
    (List.replicate k continueMark).filter p = [] :=
  List.filter_replicate_of_neg (by simp [h])

theorem callAttrs_rowAttrs : callAttrs (m.rowAttrs rows) = [] := by
  unfold Manager.rowAttrs
  split
  · exact callAttrs_of_key (by decide) _
  · rfl

/-- Marks, the number of rows, and the description of the iteration. -/
def Manager.iterationAttrs : List Attr :=
  List.replicate k continueMark ++ m.rowAttrs rows ++
    attrs m.config (.chain (iterationCalls origin))

theorem callAttrs_iterationAttrs : callAttrs (m.iterationAttrs origin k rows) =
    Manager.chainAttrs m.config (iterationCalls origin) := by
  have hmarks : callAttrs (List.replicate k continueMark) = [] := filter_marks k (by decide)
  rw [Manager.iterationAttrs, callAttrs_append, callAttrs_append, hmarks, callAttrs_rowAttrs,
    Manager.callAttrs_chain, List.nil_append, List.nil_append]

theorem rows_iterationAttrs : (m.iterationAttrs origin k rows).filter
    (·.1 = "db.response.returned_rows") = m.rowAttrs rows := by
  have hmarks : (List.replicate k continueMark).filter (·.1 = "db.response.returned_rows") = [] :=
    filter_marks k (by decide)
  have hdescription : (Manager.attrs m.config (.chain (iterationCalls origin))).filter
      (·.1 = "db.response.returned_rows") = [] := by
    refine List.filter_eq_nil_iff.mpr fun attr hattr hkey => ?_
    have hkeys := key_of_description hattr
    rw [of_decide_eq_true hkey] at hkeys
    exact absurd hkeys (by decide)
  rw [Manager.iterationAttrs, List.filter_append, List.filter_append, hmarks, hdescription,
    List.append_nil, List.nil_append, Manager.rowAttrs]
  split <;> simp

theorem silent_iterationAttrs {attr : Attr} (h : attr ∈ m.iterationAttrs origin k rows) :
    attr.1 ∉ ["db.query", "db.operation", "db.x.path"] := by
  rcases List.mem_append.mp h with h | h
  · rcases List.mem_append.mp h with h | h
    · rw [List.eq_of_mem_replicate h]
      decide
    · unfold Manager.rowAttrs at h
      split at h
      · rw [List.mem_singleton.mp h]
        simp
      · exact absurd h List.not_mem_nil
  · have hother : ∀ key ∈ ["db.system", "db.name", "server.address", "server.port",
        "db.method.#00.cursor", "db.method.#01.iter"],
        key ∉ ["db.query", "db.operation", "db.x.path"] := by decide
    exact hother _ (key_of_description h)

/-- The span of an iteration that is not over. -/
def Manager.iterationRecord (attrs : List Attr) (failure : Option String) : SpanRecord :=
  { name := m.iterationName, scope := .tracing, attrs, failure }

/-- Once it has ended with these attributes, the span gives account of the iteration. -/
theorem accounts_of_ended (failure : Option String) : SpanRecord.Accounts m origin rows failure
    ⟨m.iterationName, .tracing, m.iterationAttrs origin k rows, failure, true⟩ := by
  have hshown : (UInt64.ofNat rows).toInt64.toInt = Int.bmod rows (2 ^ 64) := by simp
  refine ⟨rfl, ?_, ⟨_, fun hrows => ?_, rfl, ?_⟩, fun attr => silent_iterationAttrs m origin k rows,
    rfl⟩
  · rw [SpanRecord.label, callAttrs_iterationAttrs, chainAttrs_iterationCalls]
    rfl
  · exact Int.bmod_eq_of_le (by omega) (by omega)
  · rw [rows_iterationAttrs, Manager.rowAttrs, hshown]

end Attrs

/-! ## The invariant -/

/-- The iteration is under way: after so many rows the span of the layer is open, and there is
nothing on it but marks, and perhaps a failure. -/
structure RowsLayer.Underway (m : Manager) (origin : String) (n rows : Nat)
    (failure : Option String) (layer : RowsLayer) (w : World σ ν) : Prop where
  manager : layer.span.manager = m
  active : ∃ c, layer.span.state = .active c m.iterationName ∧ c.active = some .deferred ∧
    c.span.record = some n
  unfinished : layer.finished = false
  calls : layer.calls = iterationCalls origin
  rows : layer.rows = .ofNat rows
  record : ∃ k, w.spans[n]? = some (m.iterationRecord (List.replicate k continueMark) failure)

/-- Where a call leaves the span that was open with so many rows. -/
structure RowsLayer.Answers (m : Manager) (origin : String) (n rows : Nat) (reply : StreamReply)
    (layer : RowsLayer) (w : World σ ν) : Prop where
  goesOn : reply.isEnd = false → layer.Underway m origin n (rows + 1) none w
  ends : reply.isEnd = true → ∃ r, w.spans[n]? = some r ∧ r.Accounts m origin rows reply.failure?

namespace RowsLayer

variable {m : Manager} {origin : String} {n rows : Nat} {failure : Option String}
  {layer : RowsLayer} {w v : World σ ν} {base : ι → Send σ ν}

theorem Answers.of_end {reply : StreamReply} (hend : reply.isEnd = true)
    (h : ∃ r, w.spans[n]? = some r ∧ r.Accounts m origin rows reply.failure?) :
    layer.Answers m origin n rows reply w :=
  ⟨fun hrow => absurd (hrow.symm.trans hend) Bool.false_ne_true, fun _ => h⟩

namespace Underway

theorem of_spans (h : layer.Underway m origin n rows failure w)
    (hspans : v.spans[n]? = w.spans[n]?) : layer.Underway m origin n rows failure v :=
  ⟨h.manager, h.active, h.unfinished, h.calls, h.rows, hspans.symm ▸ h.record⟩

/-- The end of the iteration. -/
theorem finish (h : layer.Underway m origin n rows failure w) :
    ∃ r, (after layer.finish w).spans[n]? = some r ∧ r.Accounts m origin rows failure := by
  obtain ⟨c, hstate, -, hspan⟩ := h.active
  obtain ⟨k, hrecord⟩ := h.record
  let noted := after (layer.span.noteRows layer.rows) w
  have hnoted : noted.spans[n]? =
      some (m.iterationRecord (List.replicate k continueMark ++ m.rowAttrs rows) failure) := by
    simp only [noted, Deferred.noteRows, hstate, h.manager, h.rows, Manager.rowAttrs]
    split
    · exact World.getElem?_spans_amend_open hspan hrecord rfl _
    · rw [List.append_nil]
      exact hrecord
  let logged := noted.log .debug "ending deferred span" [("span", .text m.iterationName)]
  have hlogged : logged.spans[n]? = _ := (congrArg (·[n]?) (noted.spans_log ..)).trans hnoted
  let described := logged.annotate c.span (Manager.attrs m.config (.chain (iterationCalls origin)))
  have hdescribed : described.spans[n]? =
      some (m.iterationRecord (m.iterationAttrs origin k rows) failure) :=
    World.getElem?_spans_amend_open hspan hlogged rfl _
  have hafter : after layer.finish w = described.finish c.span := by
    simp [RowsLayer.finish, h.unfinished, Deferred.stop, hstate, h.manager, h.calls, described,
      logged, noted]
  rw [hafter]
  exact ⟨_, (World.finish_open hspan hdescribed rfl).1, accounts_of_ended m origin k rows failure⟩

/-- An error is noted. It may be the failure that is there already. -/
theorem noteError (h : layer.Underway m origin n rows failure w) {message : String}
    (hfailure : ∀ other, failure = some other → other = message) :
    layer.Underway m origin n rows (some message) (after (layer.span.noteError message) w) := by
  obtain ⟨c, hstate, -, hspan⟩ := h.active
  obtain ⟨k, hrecord⟩ := h.record
  refine ⟨h.manager, h.active, h.unfinished, h.calls, h.rows, k, ?_⟩
  let logged := w.log .error "RethinkDB query failed"
    [("span", .text m.iterationName), ("error", .text message)]
  have hafter : after (layer.span.noteError message) w = logged.fail c.span message := by
    simp [Deferred.noteError, hstate, logged]
  have hlogged : logged.spans[n]? = _ := (congrArg (·[n]?) (w.spans_log ..)).trans hrecord
  rw [hafter, World.fail, World.getElem?_spans_amend_open hspan hlogged rfl]
  cases failure with
  | none => rfl
  | some other =>
    obtain rfl := hfailure other rfl
    have hsame (r : SpanRecord) (hr : r.failure = some other) : r.fail other = r := by
      simp [SpanRecord.fail, hr]
    rw [hsame _ rfl]

/-- After a fetch, the iteration goes on with one more row, or ends. -/
theorem settleRow (h : layer.Underway m origin n rows failure w)
    {row : Except String (Option Value)}
    (hfailure : ∀ message, failure = some message → row = .error message) :
    Answers m origin n rows (.fetched row) (result (layer.settleRow row) w)
      (after (layer.settleRow row) w) := by
  match row with
  | .ok (some value) =>
    obtain rfl := unfailed_of_ok hfailure rfl
    refine ⟨fun _ => ⟨h.manager, h.active, h.unfinished, h.calls, ?_, h.record⟩, nofun⟩
    show layer.rows + 1 = _
    rw [h.rows]
    simp
  | .ok none =>
    obtain rfl := unfailed_of_ok hfailure rfl
    let logged := w.log .debug "cursor exhausted" [("rows", .int layer.rows.toNat)]
    have hlogged : layer.Underway m origin n rows none logged :=
      h.of_spans (by rw [World.spans_log])
    exact .of_end rfl hlogged.finish
  | .error message =>
    have hnoted := h.noteError fun other hother => (Except.error.inj (hfailure other hother)).symm
    exact .of_end rfl hnoted.finish

theorem settleClose (h : layer.Underway m origin n rows failure w) {closed : Except String Unit}
    (hfailure : ∀ message, failure = some message → closed = .error message) :
    Answers m origin n rows (.closed closed) (result (layer.settleClose closed) w)
      (after (layer.settleClose closed) w) := by
  match closed with
  | .ok _ =>
    obtain rfl := unfailed_of_ok hfailure rfl
    exact .of_end rfl h.finish
  | .error message =>
    have hnoted := h.noteError fun other hother => (Except.error.inj (hfailure other hother)).symm
    exact .of_end rfl hnoted.finish

section Calls

variable (hbase : ∀ connection request noreply, Untraced (base connection request noreply))
include hbase

/-- A call of the driver while the span is current. -/
theorem inScope {α : Type} (h : layer.Underway m origin n rows none w)
    {d : Dialogue ι σ (Except String α × κ)} (hd : d.Feeds) :
    let act := layer.span.inScope (d.run base)
    ∃ failure, layer.Underway m origin n rows failure (after act w) ∧
      ∀ message, failure = some message → (result act w).1 = .error message := by
  intro act
  obtain ⟨c, hstate, hactive, hspan⟩ := h.active
  obtain ⟨k, hrecord⟩ := h.record
  have hact : act = within c (d.run base) := by simp only [act, Deferred.inScope, hstate]
  have hfeeding : (w.attach c).Feeding n
      (m.iterationRecord (List.replicate k continueMark) none) :=
    ⟨hactive, hspan, hrecord, rfl, rfl⟩
  obtain ⟨k', failure, hspans, hfailure⟩ := d.run_fed hbase hd hfeeding
  refine ⟨failure, ⟨h.manager, h.active, h.unfinished, h.calls, h.rows, k + k', ?_⟩, ?_⟩
  · rw [hact, after_within, World.spans_detach, hspans, ← List.replicate_append_replicate]
    rfl
  · rw [hact]
    exact hfailure

/-- A fetch once the span is open. -/
theorem fetched (h : layer.Underway m origin n rows none w)
    {d : Dialogue ι σ (Except String (Option Value) × κ)} (hd : d.Feeds) :
    let act := layer.span.inScope (d.run base)
    let settled := layer.settleRow (result act w).1
    Answers m origin n rows (.fetched (result act w).1) (result settled (after act w))
      (after settled (after act w)) := by
  intro act settled
  obtain ⟨failure, hunderway, hfailure⟩ := h.inScope hbase hd
  exact hunderway.settleRow hfailure

theorem closed (h : layer.Underway m origin n rows none w)
    {d : Dialogue ι σ (Except String Unit × κ)} (hd : d.Feeds) :
    let act := layer.span.inScope (d.run base)
    let settled := layer.settleClose (result act w).1
    Answers m origin n rows (.closed (result act w).1) (result settled (after act w))
      (after settled (after act w)) := by
  intro act settled
  obtain ⟨failure, hunderway, hfailure⟩ := h.inScope hbase hd
  exact hunderway.settleClose hfailure

omit hbase in
theorem dropped (h : layer.Underway m origin n rows none w) :
    Answers m origin n rows .dropped layer (after layer.drop w) := by
  obtain ⟨c, hstate, -, -⟩ := h.active
  let logged := w.log .debug "cursor dropped before exhaustion" [("rows", .int layer.rows.toNat)]
  have hafter : after layer.drop w = after layer.finish logged := by
    simp [drop, h.unfinished, hstate, DeferredState.isActive, logged]
  have hlogged : layer.Underway m origin n rows none logged :=
    h.of_spans (by rw [World.spans_log])
  rw [hafter]
  exact .of_end rfl hlogged.finish

/-- What a call does to an iteration that is under way. -/
theorem called (h : layer.Underway m origin n rows none w) {reply : StreamReply}
    {layer' : RowsLayer} {t : World σ ν} (hcall : layer.Called base w reply layer' t) :
    layer'.Answers m origin n rows reply t := by
  obtain ⟨c, hstate, -, -⟩ := h.active
  cases hcall with
  | fetch d hd =>
    have hstarted : (layer.ensureStarted : Action σ ν RowsLayer) = pure layer :=
      ensureStarted_of_active hstate
    simpa [next_of_unfinished h.unfinished, hstarted] using h.fetched hbase hd
  | close d hd =>
    simpa [close_of_unfinished h.unfinished] using h.closed hbase hd
  | drop => exact h.dropped

end Calls

/-- The first fetch opens the span. -/
theorem ensureStarted (hm : m.provider = .recording) (origin : String) (w : World σ ν) :
    (result (ofOrigin m origin).ensureStarted w).Underway m origin w.spans.length 0 none
      (after (ofOrigin m origin).ensureStarted w) := by
  have hidle : (ofOrigin m origin).span.state = .idle := rfl
  have hcalls : (ofOrigin m origin).calls.path = "/cursor" := rfl
  let logged := w.log .debug "starting deferred span" [("span", .text m.iterationName)]
  have hafter : after (ofOrigin m origin).ensureStarted w =
      (logged.startSpan m.provider .tracing m.iterationName logged.current.span).2 := by
    rw [ensureStarted_eq_openSpan]
    rfl
  have hspans : (after (ofOrigin m origin).ensureStarted w).spans =
      w.spans ++ [m.iterationRecord [] none] := by
    rw [hafter, hm, World.startSpan, World.spans_write, World.spans_log]
    rfl
  have hspan : (m.iteration w).span.record = some w.spans.length := by
    simp [Manager.iteration, hm, World.startSpan]
  rw [(ensureStarted_of_idle hidle hcalls w).1]
  exact ⟨rfl, ⟨m.iteration w, rfl, rfl, hspan⟩, rfl, rfl, rfl, 0, by simp [hspans]⟩

end Underway

end RowsLayer

/-! ## The account of a reading -/

section Account

variable {m : Manager} (hm : m.provider = .recording) {origin : String} {base : ι → Send σ ν}
  (hbase : ∀ connection request noreply, Untraced (base connection request noreply))
  {w t : World σ ν} {replies : List StreamReply} {layer : RowsLayer}
include hm hbase

/-- At any point of a reading, the last call left the span as it should, after one row for each of
the calls before it. -/
theorem Reading.answers (h : Reading m origin base w replies layer t) :
    ∃ earlier last, replies = earlier ++ [last] ∧ (∀ reply ∈ earlier, reply.isEnd = false) ∧
      layer.Answers m origin w.spans.length earlier.length last t := by
  induction h with
  | opened d hd =>
    refine ⟨[], _, rfl, nofun, ?_⟩
    have hfresh : (ofOrigin m origin).finished = false := rfl
    have hopened := (Underway.ensureStarted hm origin w).fetched hbase hd
    simpa [next_of_unfinished hfresh] using hopened
  | next h hrows hbetween hcall ih =>
    obtain ⟨earlier, last, rfl, -, hanswers⟩ := ih
    have hlast : last.isEnd = false := hrows last (by simp)
    refine ⟨_, _, rfl, hrows, ?_⟩
    have hunderway := (hanswers.goesOn hlast).of_spans hbetween
    rw [List.length_append, List.length_singleton]
    exact hunderway.called hbase hcall

/-- The account of an iteration. When a call ends a reading, all calls before it gave a row, and the
span has ended and tells of that many rows, and of the error of the last call if there was one. -/
theorem reading_account {last : StreamReply} (hlast : last.isEnd = true)
    (h : Reading m origin base w (replies ++ [last]) layer t) :
    (∀ reply ∈ replies, ∃ value, reply = .fetched (.ok (some value))) ∧
      ∃ r, t.spans[w.spans.length]? = some r ∧
        r.Accounts m origin replies.length last.failure? := by
  obtain ⟨earlier, last', hsplit, hrows, hanswers⟩ := h.answers hm hbase
  obtain ⟨rfl, hsame⟩ := List.append_inj' hsplit rfl
  obtain rfl := List.singleton_inj.mp hsame
  refine ⟨fun reply hreply => ?_, hanswers.ends hlast⟩
  have hrow := hrows reply hreply
  match reply with
  | .fetched (.ok (some value)) => exact ⟨value, rfl⟩
  | .fetched (.ok none) | .fetched (.error _) | .closed _ | .dropped => cases hrow

end Account

/-- The server sends one row and the promise of more, and then loses the stream. -/
theorem reading_account_lost :
    let m : Manager := ⟨.recording, { spanLead := some "app" }⟩
    let base : Unit → Send Session.Desk Session.Note :=
      fun _ => Session.handle (fun _ => pure ()) 0 0
    let responses : List (Session.Reply Session.Step) :=
      [⟨[], .respond (.batch [.null] true)⟩, ⟨[], .fail "lost"⟩]
    let w : World Session.Desk Session.Note :=
      { program := { provider := .inert, servers := [{ responses, latency := 2 }] } }
    ∃ (value : Value) (layer : RowsLayer) (t : World Session.Desk Session.Note),
      Reading m "/table/run" base w
        ([.fetched (.ok (some value))] ++ [.fetched (.error "lost")]) layer t ∧
      ∃ r, t.spans[0]? = some r ∧ r.Accounts m "/table/run" 1 (some "lost") ∧
        r.label = ⟨"app/cursor/iter", [("db.method.#00.cursor", .text "/table/run"),
          ("db.method.#01.iter", .text "")]⟩ := by
  intro m base responses w
  let stream : Stream := ⟨[], true⟩
  let d : Dialogue Unit Session.Desk (Except String (Option Value) × Stream) :=
    stream.fetching () [tracedConnection] 4
  have hd : d.Feeds := Stream.feeds_fetching () (by simp [tracedConnection]) 4 stream
  have hbase (connection : Unit) (request : Request) (noreply : Bool) :
      Untraced (base connection request noreply) :=
    Session.untraced_handle (fun _ => .of_same (fun _ => rfl) fun _ => rfl) 0 0 request noreply
  have hopened : Reading m "/table/run" base w [.fetched (.ok (some .null))] _ _ := .opened d hd
  have hrow : ∀ reply ∈ [StreamReply.fetched (.ok (some .null))], reply.isEnd = false := by
    intro reply hreply
    rw [List.mem_singleton.mp hreply]
    rfl
  have hread : Reading m "/table/run" base w
      ([.fetched (.ok (some .null))] ++ [.fetched (.error "lost")]) _ _ :=
    .next hopened hrow rfl (.fetch d hd)
  obtain ⟨-, r, hr, haccounts⟩ := reading_account rfl hbase rfl hread
  exact ⟨.null, _, _, hread, r, hr, haccounts, haccounts.label⟩

end QueryTrace
