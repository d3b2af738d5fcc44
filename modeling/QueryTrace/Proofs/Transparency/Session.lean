import QueryTrace.Proofs.Session.Ambient
import QueryTrace.Proofs.Transparency.Service
import QueryTrace.Session.Run

/-!
# Programs on wrapped and on plain objects

A program of driver operations is carried out twice: on objects inside layers, and on the same
objects without them. It gets the same results, and the driver gets the same calls, in the same
order (`notes_runSteps_plain`).
-/

namespace QueryTrace.Session

/-! ## Steps that make and use objects -/

section Steps

variable {react : List Step → Doing Unit}

/-- Reports are the same but for what they tell about layers. -/
abbrev SameReport (r r' : Report) : Prop :=
  r.plain = r'.plain

theorem findRoot_matches (name : String) : TurnMatches Alike
    (fun r r' => r.plain = r'.plain) (findRoot name) (findRoot name) :=
  find_matches (fun o => by cases o <;> rfl) name

theorem findConnection_matches (name : String) : TurnMatches Alike
    (fun c c' => c.plain = c'.plain) (findConnection name) (findConnection name) :=
  find_matches (fun o => by cases o <;> rfl) name

theorem findQuery_matches (name : String) : TurnMatches Alike
    (fun q q' => q.plain = q'.plain) (findQuery name) (findQuery name) :=
  find_matches (fun o => by cases o <;> rfl) name

theorem findCursor_matches (name : String) : TurnMatches Alike
    (fun c c' => c.plain = c'.plain) (findCursor name) (findCursor name) :=
  find_matches (fun o => by cases o <;> rfl) name

theorem findServer_matches (name : String) :
    TurnMatches Alike Eq (findServer name) (findServer name) :=
  find_matches (fun o => by cases o <;> rfl) name

theorem addServer_matches (name : Option String) (latency : Nat) :
    TurnMatches Alike SameReport (addServer name latency) (addServer name latency) := by
  refine .bind (.lift desk_matches) fun d d' hd => ?_
  refine .bind (R := fun _ _ => True) (.lift ?_) fun _ _ _ => ?_
  · intro w v hL
    exact ⟨trivial, hL.objects, congrArg (· ++ [_]) hL.servers, hL.notes, hL.waiting.push latency⟩
  · rw [hd.1]
    exact .bind (keep_matches name rfl) fun _ _ _ => .pure rfl

theorem addResponses_matches (name : String) {responses : List (Reply Step)}
    (h : AllSteps (·.drives = true) (responses.flatMap (·.before)))
    (connects closes : List (Option String)) : TurnMatches Alike SameReport
      (addResponses name responses connects closes)
      (addResponses name responses connects closes) := by
  refine .bind (findServer_matches name) fun number _ hnumber => ?_
  obtain rfl := hnumber
  refine .bind (.lift (changeServer_matches number fun _ hs => hs.append_replies h)) fun _ _ _ => ?_
  refine .bind (.lift desk_matches) fun d d' hd => ?_
  rw [hd.1]
  split
  · exact .pure rfl
  · exact .throw _

theorem storeConnection_matches (name : Option String) {r r' : Except String Connection}
    (h : r.map Connection.plain = r'.map Connection.plain) : TurnMatches Alike SameReport
      (storeConnection name r) (storeConnection name r') := by
  rcases r with message | c <;> rcases r' with message' | c' <;>
    simp only [Except.map, Except.ok.injEq, Except.error.injEq, reduceCtorEq] at h
  · obtain rfl := h
    exact .pure rfl
  · refine .bind (keep_matches name (by simp [Object.plain, h])) fun _ _ _ => .pure ?_
    simp only [Connection.plain, Connection.mk.injEq, true_and] at h
    simp [SameReport, Report.plain, Except.map, h.2]

theorem openPlain_matches (name : Option String) (server : String) :
    TurnMatches Alike SameReport (openPlain name server) (openPlain name server) := by
  refine .bind (findServer_matches server) fun number _ hnumber => ?_
  obtain rfl := hnumber
  exact storeConnection_matches name rfl

theorem connect_matches (name : Option String) (root : String) (args : Args) :
    TurnMatches Alike SameReport (connect name root args) (connect name root args) :=
  .bind (findRoot_matches root) fun _ _ hr =>
    .bind (.lift (Root.connect_matches hr args)) fun _ _ hc => storeConnection_matches name hc

theorem reconnect_matches (name : Option String) (connection : String) (noreplyWait : Bool)
    (timeout : Option Nat) : TurnMatches Alike SameReport
      (reconnect name connection noreplyWait timeout)
      (reconnect name connection noreplyWait timeout) :=
  .bind (findConnection_matches connection) fun _ _ hc =>
    .bind (.lift (Connection.reconnect_matches hc noreplyWait timeout)) fun _ _ hc =>
      storeConnection_matches name hc

theorem closeConnection_matches (connection : String) (noreplyWait : Bool) :
    TurnMatches Alike SameReport (closeConnection connection noreplyWait)
      (closeConnection connection noreplyWait) := by
  refine .bind (findConnection_matches connection) fun _ _ hc => ?_
  refine .bind (.lift (Connection.close_matches hc noreplyWait)) fun result _ hresult => ?_
  obtain rfl := hresult
  exact .pure rfl

theorem send_matches (h : Transparent react) (connection : String) (request : Request)
    (noreply : Bool) : TurnMatches Alike SameReport (send react connection request noreply)
      (send react connection request noreply) := by
  refine .bind (findConnection_matches connection) fun _ _ hc => ?_
  refine .bind (.lift (Connection.send_matches h hc request noreply)) fun result _ hresult => ?_
  obtain rfl := hresult
  exact .pure rfl

theorem storeQuery_matches (name : Option String) {q q' : Query} (h : q.plain = q'.plain) :
    TurnMatches Alike SameReport (storeQuery name q) (storeQuery name q') := by
  refine .bind (keep_matches name (by simp [Object.plain, h])) fun _ _ _ => .pure ?_
  simp only [Query.plain, Query.mk.injEq, true_and] at h
  simp [SameReport, Report.plain, Query.report, h]

theorem startQuery_matches (name : Option String) (root method : String) (args : Args) :
    TurnMatches Alike SameReport (startQuery name root method args)
      (startQuery name root method args) := by
  refine .bind (findRoot_matches root) fun r r' _ => ?_
  dsimp only
  split
  · exact storeQuery_matches name rfl
  · exact .bind (R := fun _ _ => True) (.throw _) fun _ _ _ => storeQuery_matches name rfl

theorem callQuery_matches (name : Option String) (query method : String) (args : Args) :
    TurnMatches Alike SameReport (callQuery name query method args)
      (callQuery name query method args) := by
  refine .bind (findQuery_matches query) fun q q' hq => ?_
  have hcall : (q.call method args).plain = (q'.call method args).plain := by
    simp only [Query.plain, Query.mk.injEq, true_and] at hq
    simp [Query.plain, Query.call, hq]
  dsimp only
  split
  · exact storeQuery_matches name hcall
  · exact .bind (R := fun _ _ => True) (.throw _) fun _ _ _ => storeQuery_matches name hcall

theorem settleRun_matches (name : Option String) (take : Take) {o o' : Outcome Cursor}
    (h : o.map Cursor.plain = o'.map Cursor.plain) :
    TurnMatches Alike Eq (settleRun name take o) (settleRun name take o') := by
  have hdiscard (c c' : Cursor) : Matches Alike (fun _ _ => True) (discard (.cursor c))
      (discard (.cursor c')) := (inert_discard _).matches (inert_discard _)
  rcases o with v | c <;> rcases o' with v' | c' <;> simp only [Outcome.map] at h
  · obtain rfl : v = v' := by simpa using h
    cases take <;> exact .pure rfl
  · cases h
  · cases h
  · have hc : (Object.cursor c).plain = (Object.cursor c').plain := by
      simpa [Object.plain] using h
    cases take <;> cases name
    case value.none | value.some => exact .bind (.lift (hdiscard c c')) fun _ _ _ => .pure rfl
    case any.none | stream.none => exact .bind (.lift (hdiscard c c')) fun _ _ _ => .pure rfl
    case any.some name | stream.some name =>
      exact .bind (.lift (store_matches name hc)) fun _ _ _ => .pure rfl

theorem runQuery_matches (h : Transparent react) (name : Option String) (query connection : String)
    (options : Args) (take : Take) : TurnMatches Alike SameReport
      (runQuery react name query connection options take)
      (runQuery react name query connection options take) := by
  refine .bind (findQuery_matches query) fun q q' hq => ?_
  refine .bind (findConnection_matches connection) fun c c' hc => ?_
  refine .bind (.lift (Query.run_matches h hq hc options)) fun r r' hr => ?_
  rcases r with message | o <;> rcases r' with message' | o' <;>
    simp only [Except.map, Except.ok.injEq, Except.error.injEq, reduceCtorEq] at hr
  · obtain rfl := hr
    exact .pure rfl
  · refine .bind (settleRun_matches name take hr) fun report _ hreport => ?_
    obtain rfl := hreport
    exact .pure rfl

theorem takeCursor_matches (name : String) : TurnMatches Alike
    (fun c c' => c.plain = c'.plain) (takeCursor name) (takeCursor name) :=
  .bind (findCursor_matches name) fun _ _ hc =>
    .bind (.lift (remove_matches name)) fun _ _ _ => .pure hc

theorem fetchRows_matches (h : Transparent react) (fuel : Nat) (cursor : String) (count : Nat) :
    TurnMatches Alike SameReport (fetchRows react fuel cursor count)
      (fetchRows react fuel cursor count) := by
  refine .bind (takeCursor_matches cursor) fun c c' hc => ?_
  refine .bind (.lift (fetchMany_matches h fuel count [] hc)) ?_
  rintro ⟨rows, d⟩ ⟨rows', d'⟩ ⟨hrows, hd⟩
  obtain rfl : rows = rows' := hrows
  refine .bind (.lift (store_matches cursor ?_)) fun _ _ _ => .pure rfl
  simpa [Object.plain] using hd

theorem closeCursor_matches (h : Transparent react) (cursor : String) :
    TurnMatches Alike SameReport (closeCursor react cursor) (closeCursor react cursor) := by
  refine .bind (takeCursor_matches cursor) fun c c' hc => ?_
  refine .bind (.lift (Cursor.close_matches h hc)) ?_
  rintro ⟨result, d⟩ ⟨result', d'⟩ ⟨hresult, hd⟩
  obtain rfl : result = result' := hresult
  refine .bind (.lift (store_matches cursor ?_)) fun _ _ _ => .pure rfl
  simpa [Object.plain] using hd

theorem dropObject_matches (name : String) :
    Matches Alike SameReport (dropObject name) (dropObject name) := by
  refine .bind (lookup_matches name) fun o o' ho => ?_
  cases o <;> cases o' <;> simp only [Option.map_some, Option.map_none, reduceCtorEq] at ho
  · exact .pure rfl
  · refine .bind (remove_matches name) fun _ _ _ => ?_
    exact .bind ((inert_discard _).matches (inert_discard _)) fun _ _ _ => .pure rfl

/-! ## Steps around other steps -/

theorem ambient_matches (h : Transparent react) (name : String) (provider : Provider)
    {body : List Step} (hbody : AllSteps (·.drives = true) body) : Matches Alike SameReport
      (ambient react name provider body) (ambient react name provider body) := by
  intro w v hL
  refine ⟨rfl, ?_⟩
  have hseen (w : World Desk Note) : (after (ambient react name provider body) w).seen =
      (after (react body) (inAmbient w name provider)).seen := by
    rw [after_ambient, World.seen_finish, World.seen_detach]
  rw [hseen, hseen]
  have hstart (w : World Desk Note) : (inAmbient w name provider).seen = w.seen :=
    w.seen_startSpan provider .application name w.current.span
  exact (h body hbody _ _ (by rwa [hstart, hstart])).2

theorem detached_matches (h : Transparent react) {body : List Step}
    (hbody : AllSteps (·.drives = true) body) : Matches Alike SameReport
      (detached react body) (detached react body) := by
  intro w v hL
  exact ⟨rfl, (h body hbody (w.attach {}) (v.attach {}) hL).2⟩

/-- A step of driver operations matches itself if the steps inside it do. -/
theorem perform_matches (h : Transparent react) (fuel : Nat) {step : Step}
    (hstep : step.Every (·.drives = true)) :
    TurnMatches Alike SameReport (step.perform react fuel) (step.perform react fuel) := by
  have hinner := hstep.inside
  cases step with
  | server name latency => exact addServer_matches name latency
  | respond name responses connects closes =>
    exact addResponses_matches name hinner connects closes
  | openPlain name server => exact openPlain_matches name server
  | connect name root args => exact connect_matches name root args
  | reconnect name connection noreplyWait timeout =>
    exact reconnect_matches name connection noreplyWait timeout
  | closeConnection connection noreplyWait => exact closeConnection_matches connection noreplyWait
  | send connection request noreply => exact send_matches h connection request noreply
  | query name root method args => exact startQuery_matches name root method args
  | call name query method args => exact callQuery_matches name query method args
  | run name query connection options take =>
    exact runQuery_matches h name query connection options take
  | next cursor count => exact fetchRows_matches h fuel cursor count
  | close cursor => exact closeCursor_matches h cursor
  | drop name => exact .lift (dropObject_matches name)
  | ambient name provider body => exact .lift (ambient_matches h name provider hinner)
  | detached body => exact .lift (detached_matches h hinner)
  | _ => cases hstep.holds

/-! ## Programs -/

/-- Steps of driver operations match themselves, at any depth. -/
theorem transparent_runSteps (fuel depth : Nat) : Transparent (runSteps fuel depth) := by
  -- The steps inside a step have less fuel and one more level of depth.
  induction fuel generalizing depth with
  | zero => exact fun _ _ => .pure trivial
  | succ fuel ih =>
    intro steps hsteps
    induction steps with
    | nil => exact .pure trivial
    | cons step steps ihSteps =>
      have hperform := perform_matches (ih (depth + 1)) (fuel + 1) (hsteps step (by simp))
      have hnote : Matches Alike (fun _ _ => True)
          (do
            let result ← (step.perform (runSteps fuel (depth + 1)) (fuel + 1)).run
            note (.step step.verb depth result))
          (do
            let result ← (step.perform (runSteps fuel (depth + 1)) (fuel + 1)).run
            note (.step step.verb depth result)) := by
        refine .bind hperform fun x y hxy => note_matches ?_
        cases hxy with
        | ok h => simpa [Note.plain, Except.map] using h
        | error fault => rfl
      exact .bind hnote fun _ _ _ => ihSteps fun s hs => hsteps s (by simp [hs])

end Steps

theorem Object.plain_plain (o : Object) : o.plain.plain = o.plain := by
  cases o <;> rfl

/-- Layers are transparent. In any world and any context, whatever layers are around its objects and
whatever its servers are going to do, a program of driver operations notes the same as on the plain
objects: the result of every operation, and every request, connect, reconnect and close that the
driver gets. It leaves the same plain objects and the same servers behind. -/
theorem notes_runSteps_plain (fuel depth : Nat) {steps : List Step}
    (hsteps : AllSteps (·.drives = true) steps) (w : World Desk Note)
    (hw : AllWaiting (·.drives = true) w.program.servers) :
    let wrapped := after (runSteps fuel depth steps) w
    let plain := after (runSteps fuel depth steps) { w with program := w.program.plain }
    wrapped.notes.map Note.plain = plain.notes.map Note.plain ∧
      wrapped.program.plain.objects = plain.program.plain.objects ∧
      wrapped.program.servers = plain.program.servers := by
  have hsame : Alike w.seen (World.seen { w with program := w.program.plain }) := by
    refine ⟨?_, rfl, rfl, hw⟩
    simp [World.seen, Desk.plain, Function.comp_def, Object.plain_plain]
  have hend := (transparent_runSteps fuel depth steps hsteps w _ hsame).2
  exact ⟨hend.notes, hend.objects, hend.servers⟩

/-- A traced connection inside a chain, to a server that stops a stream before it fails. -/
def stoppingWorld : World Desk Note :=
  { contexts := [{ active := some .chain }]
    program :=
      { objects := [("c", .connection ⟨[⟨⟨.recording, .standard⟩, .opcodes "r"⟩], 0, 0⟩)]
        servers := [{ latency := 1, responses := [⟨[.send "c" .stop true], .fail "gone"⟩] }]
        provider := .recording } }

theorem notes_stoppingWorld_plain :
    let steps := [Step.send "c" .advance false]
    AllSteps (·.drives = true) steps ∧
      AllWaiting (·.drives = true) stoppingWorld.program.servers ∧
      (after (runSteps 3 0 steps) stoppingWorld).notes.length = 4 ∧
      (after (runSteps 3 0 steps) stoppingWorld).notes.map Note.plain =
        (after (runSteps 3 0 steps)
          { stoppingWorld with program := stoppingWorld.program.plain }).notes.map Note.plain := by
  have hsend (request : Request) (noreply : Bool) :
      AllSteps (·.drives = true) [.send "c" request noreply] := by
    intro step hstep
    obtain rfl := List.mem_singleton.mp hstep
    exact .intro rfl AllSteps.nil
  have hwaiting : AllWaiting (·.drives = true) stoppingWorld.program.servers := by
    intro server hserver
    obtain rfl := List.mem_singleton.mp hserver
    exact hsend .stop true
  exact ⟨hsend .advance false, hwaiting, by decide +kernel,
    (notes_runSteps_plain 3 0 (hsend .advance false) stoppingWorld hwaiting).1⟩

end QueryTrace.Session
