import QueryTrace.Proofs.Holding.Driving
import QueryTrace.Proofs.Session.Ambient
import QueryTrace.Session.Run

/-!
# Sessions keep what they hold

Every step of a session leaves the desk kept: a span that it starts is ended by it, or is held by a
cursor or a deferred span of the desk. So a session that drops its objects holds nothing in the end
(`clear_does`).
-/

namespace QueryTrace.Session

variable {hands : Prop} {c : Context} {S : Multiset Nat} {react : List Step → Doing Unit}

/-! ## Chains and executions -/

theorem storeChain_keeps (name : Option String) (chain : Chain) :
    TurnKeeps hands c S (storeChain name chain) :=
  .bind (keep_keeps name ⟨rfl, rfl⟩) fun _ => .pure _

theorem copyChain_keeps (name : Option String) (query : String) :
    TurnKeeps hands c S (copyChain name query) := by
  refine .bind (find_keeps _ query) fun q => ?_
  split
  · exact storeChain_keeps name _
  · exact .throw _

theorem recordCall_keeps (chain method : String) (args : Args) :
    TurnKeeps hands c S (recordCall chain method args) :=
  .bind (find_keeps _ chain) fun _ => storeChain_keeps _ _

theorem resetChain_keeps (chain : String) : TurnKeeps hands c S (resetChain chain) :=
  .bind (find_keeps _ chain) fun _ => storeChain_keeps _ _

theorem takeSource_keeps (spec : SourceSpec) : TurnKeeps hands c S (takeSource spec) := by
  cases spec with
  | chain name => exact .bind (takeChain_keeps name) fun _ => .pure _
  | request query summary => exact .pure _

theorem returnSource_keeps (spec : SourceSpec) (source : Source) :
    TurnKeeps hands c S (returnSource spec source) := by
  cases spec with
  | request query summary => exact .pure _
  | chain name =>
    cases source with
    | request query summary => exact .pure _
    | chain chain => exact .bind (.lift (store_keeps name ⟨rfl, rfl⟩)) fun _ => .pure _

theorem execute_keeps (h : Keeping hands react) (manager : String) (spec : SourceSpec)
    (role : Role) {body : List Step} (hbody : AllSteps (fun s => s.byHand = true → hands) body)
    (result : Except String Value) :
    TurnKeeps hands c S (execute react manager spec role body result) := by
  have hcallee (c' : Context) : Does hands c' (Kept hands S) (callee react body result)
      fun _ => Kept hands S :=
    .bind (.note _) fun _ => .bind (h c' S body hbody) fun _ => .skip _
  refine .bind (find_keeps _ manager) fun i => .bind (takeSource_keeps spec) fun source => ?_
  refine .bind (.lift (i.manager.trace_does source role hcallee)) fun x => ?_
  exact .bind (returnSource_keeps spec x.2) fun _ => .pure _

/-- Describing the current span is work by hand. -/
theorem describeCurrent_keeps (hhands : hands) (manager : String) (spec : SourceSpec) :
    TurnKeeps hands c S (describeCurrent manager spec) := by
  refine .bind (find_keeps _ manager) fun i => .bind (takeSource_keeps spec) fun source => ?_
  refine TurnDoes.bind (.lift .current) fun context => ?_
  refine .of_fact (fun _ _ hP => hP.1) fun hcontext => .drop ?_
  subst hcontext
  refine TurnKeeps.bind (.lift (i.manager.describe_does source fun _ _ _ =>
    .inr ⟨rfl, .inr hhands⟩)) fun source => ?_
  exact .bind (returnSource_keeps spec source) fun _ => .pure _

/-! ## The current span -/

theorem showCurrent_keeps : Does hands c (Kept hands S) showCurrent fun _ => Kept hands S :=
  .bind_get fun _ => .skip _

/-- Ending the current span is work by hand. -/
theorem endCurrent_keeps (hhands : hands) :
    Does hands c (Kept hands S) endCurrent fun _ => Kept hands S := by
  refine .bind ⟨fun F H w hw hP => ?_⟩ fun _ => showCurrent_keeps
  subst hw
  exact (Does.endCurrent (.inr hhands)).moves F H w rfl hP

theorem ambient_keeps (h : Keeping hands react) (name : String) (provider : Provider)
    {body : List Step} (hbody : AllSteps (fun s => s.byHand = true → hands) body) :
    Does hands c (Kept hands S) (ambient react name provider body) fun _ => Kept hands S := by
  let work (span : SpanRef) : Doing Report := do
    within { c with span } (react body)
    modify (·.finish span)
    return .nothing
  refine .bind_current (Does.bind_startSpan (f := work) fun span => ?_)
  let hold : Hold := ⟨.application, { c with span }⟩
  have hbody : Does hands { c with span } ((Kept hands S).plus {hold}) (react body)
      fun _ => (Kept hands S).plus {hold} :=
    (h { c with span } S body hbody).plus {hold}
  exact .bind (.within (fun _ _ => attachable_of_plus hold) hbody) fun _ =>
    .bind (.close hold) fun _ => .skip _

theorem detached_keeps (h : Keeping hands react) {body : List Step}
    (hbody : AllSteps (fun s => s.byHand = true → hands) body) :
    Does hands c (Kept hands S) (detached react body) fun _ => Kept hands S :=
  .bind (.within (fun _ _ _ => .inl rfl) (h {} S body hbody)) fun _ => .skip _

/-! ## Deferred spans -/

theorem addDeferred_keeps (name : Option String) (manager : String) :
    TurnKeeps hands c S (addDeferred name manager) := by
  refine .bind (find_keeps _ manager) fun i => ?_
  refine TurnDoes.bind (.lift desk_does) fun d => ?_
  let number := d.deferreds.length
  have hkeep : TurnDoes hands c S _ (keep name (.deferred number)) _ := keep_does ..
  refine TurnDoes.bind (.lift (changeDesk_does fun H d' ⟨hd', hH, hsound⟩ => ?_)) fun _ =>
    TurnDoes.bind hkeep fun _ => .pure fun _ _ hP => hP
  subst hd'
  refine ⟨H, ⟨?_, hsound.sorted, fun n => ?_, hsound.waiting⟩, (add_zero H).symm⟩
  · rw [hH]
    simp [Desk.holds, HeldSpan.holds, Deferred.holds]
  · have hcount := hsound.holders n
    rw [Object.shares, add_left_comm, Multiset.count_add, Multiset.count_singleton]
    show _ + (d.shares + S).count n = _
    rw [hcount]
    -- The new span has one holder, its name; the counts of all others stay.
    rcases lt_trichotomy n number with hn | rfl | hn
    · rw [List.getElem?_append_left hn, if_neg hn.ne, zero_add]
    · simp [number]
    · let fresh : HeldSpan := { span := { manager := i.manager } }
      have hlength : (d.deferreds ++ [fresh]).length ≤ n := by
        rw [List.length_append]
        exact Nat.succ_le_of_lt hn
      rw [List.getElem?_eq_none hn.le, if_neg hn.ne', List.getElem?_eq_none hlength]
      rfl

theorem startDeferred_keeps (name chain : String) :
    TurnKeeps hands c S (startDeferred name chain) := by
  refine TurnDoes.bind (findDeferred_does name) fun ⟨number, d⟩ => ?_
  refine TurnDoes.bind (takeChain_does chain fun deferreds => ∃ held,
    deferreds[number]? = some held ∧ held.span = d ∧ held.holders ≠ 0) fun chain => ?_
  refine TurnDoes.bind (.lift ((d.start_does chain).weaken
    (fun H desk hP => (kept_iff_keptBut hP.1).mp hP.2) fun _ _ _ hQ => hQ)) fun ⟨result, d'⟩ => ?_
  refine TurnDoes.bind (.lift (changeSpan_does number d d')) fun _ => ?_
  exact TurnKeeps.bind (.lift (store_keeps _ ⟨rfl, rfl⟩)) fun _ => .pure _

theorem stopDeferred_keeps (name chain : String) :
    TurnKeeps hands c S (stopDeferred name chain) := by
  refine TurnDoes.bind (findDeferred_does name) fun ⟨number, d⟩ => ?_
  refine TurnDoes.bind (takeChain_does chain fun deferreds => ∃ held,
    deferreds[number]? = some held ∧ held.span = d ∧ held.holders ≠ 0) fun chain => ?_
  refine TurnDoes.bind (.lift ((d.stop_does chain).weaken
    (fun H desk hP => (kept_iff_keptBut hP.1).mp hP.2)
    fun _ _ _ => Assertion.plus_of_zero)) fun ⟨d', chain'⟩ => ?_
  refine TurnDoes.bind (.lift (changeSpan_does number d d')) fun _ => ?_
  exact TurnKeeps.bind (.lift (store_keeps _ ⟨rfl, rfl⟩)) fun _ => .pure _

theorem scopeDeferred_keeps (h : Keeping hands react) (name : String) {body : List Step}
    (hbody : AllSteps (fun s => s.byHand = true → hands) body) :
    TurnKeeps hands c S (scopeDeferred react name body) := by
  refine TurnDoes.bind (findDeferred_does name) fun ⟨number, d⟩ => ?_
  -- The scope is one more holder, so the body cannot end the span by dropping its name.
  refine TurnDoes.bind (.lift (hold_does number d)) fun _ => ?_
  have hscope : Does hands c (fun H desk => desk.Shared number d ∧ Kept hands ({number} + S) H desk)
      (d.inScope (react body)) fun _ => Kept hands ({number} + S) := by
    refine d.inScope_does (fun H desk hP => ?_) fun c' => .drop (h c' _ body hbody)
    obtain ⟨rest, hrest, -⟩ := hP.1.holds
    rw [hP.2.1, hrest]
    exact Multiset.le_add_left ..
  refine TurnDoes.bind (.lift hscope) fun _ => TurnDoes.bind (.lift desk_does) fun _ => ?_
  exact TurnDoes.bind (.lift (.drop (release_does number))) fun _ => .pure fun _ _ hP => hP

theorem failDeferred_keeps (name message : String) :
    TurnKeeps hands c S (failDeferred name message) := by
  refine TurnDoes.bind (findDeferred_does name) fun ⟨number, d⟩ => ?_
  exact TurnDoes.bind (.lift (useSpan_does fun _ => d.noteError_does message)) fun _ =>
    .pure fun _ _ hP => hP

theorem countDeferred_keeps (name : String) (rows : UInt64) :
    TurnKeeps hands c S (countDeferred name rows) := by
  refine TurnDoes.bind (findDeferred_does name) fun ⟨number, d⟩ => ?_
  exact TurnDoes.bind (.lift (useSpan_does fun _ => d.noteRows_does rows)) fun _ =>
    .pure fun _ _ hP => hP

/-! ## Steps and runs -/

theorem showObject_keeps (name : String) (executor : Bool) :
    TurnKeeps hands c S (showObject name executor) := by
  refine .bind (find_keeps _ name) fun o => .bind ?_ fun _ => .pure _
  cases o with
  | server number => exact .throw _
  | deferred number =>
    refine .bind .desk fun d => ?_
    split
    · exact .pure _
    · exact .throw _
  | _ => exact .pure _

theorem refuse_keeps (needs : List (Kind × String)) (field : String) :
    TurnKeeps hands c S (refuse needs field) := by
  unfold refuse
  refine .bind ?_ fun _ => .throw _
  induction needs with
  | nil => exact .pure _
  | cons need needs ih =>
    rw [List.forIn_cons]
    refine TurnDoes.bind (Q := fun x H d => x = .yield PUnit.unit ∧ Kept hands S H d)
      (TurnDoes.bind (find_keeps _ _) fun _ => .pure fun _ _ hP => ⟨rfl, hP⟩) fun x => ?_
    refine .of_fact (fun _ _ hP => hP.1) fun hx => .drop ?_
    subst hx
    exact ih

/-- A step keeps the desk if the steps inside it do. It needs free hands only for work by hand. -/
theorem perform_keeps (h : Keeping hands react) (fuel : Nat) {step : Step}
    (hstep : step.Every fun s => s.byHand = true → hands) :
    TurnKeeps hands c S (step.perform react fuel) := by
  have hinner := hstep.inside
  cases step with
  | instrument name config backend classifier =>
    exact addInstrumentor_keeps name config backend classifier
  | server name latency => exact addServer_keeps name latency
  | respond server responses connects closes =>
    exact addResponses_keeps server hinner connects closes
  | root name base layer => exact addRoot_keeps name base layer
  | unwrapRoot name root => exact unwrapRoot_keeps name root
  | connect name root args => exact connect_keeps name root args
  | openPlain name server => exact openPlain_keeps name server
  | unwrap name connection => exact unwrapConnection_keeps name connection
  | reconnect name connection noreplyWait timeout =>
    exact reconnect_keeps name connection noreplyWait timeout
  | wrap name connection wrapping => exact wrapConnection_keeps name connection wrapping
  | configOf name => exact find_keeps _ name
  | closeConnection connection noreplyWait => exact closeConnection_keeps connection noreplyWait
  | send connection request noreply => exact send_keeps h connection request noreply
  | query name root method args => exact startQuery_keeps name root method args
  | call name query method args => exact callQuery_keeps name query method args
  | unwrapQuery name query => exact unwrapQuery_keeps name query
  | queryInfo query => exact .bind (find_keeps _ query) fun _ => .pure _
  | run name query connection options take =>
    exact runQuery_keeps h name query connection options take
  | next cursor count => exact fetchRows_keeps h fuel cursor count
  | close cursor => exact closeCursor_keeps h cursor
  | drop name => exact .lift (dropObject_keeps name)
  | chain name rootName args => exact storeChain_keeps name _
  | chainOf name query => exact copyChain_keeps name query
  | record chain method args => exact recordCall_keeps chain method args
  | reset chain => exact resetChain_keeps chain
  | execute manager spec role body result => exact execute_keeps h manager spec role hinner result
  | describe manager spec => exact describeCurrent_keeps (hstep.holds rfl) manager spec
  | current => exact .lift showCurrent_keeps
  | endCurrent => exact .lift (endCurrent_keeps (hstep.holds rfl))
  | ambient name provider body => exact .lift (ambient_keeps h name provider hinner)
  | detached body => exact .lift (detached_keeps h hinner)
  | deferred name manager => exact addDeferred_keeps name manager
  | startDeferred deferred chain => exact startDeferred_keeps deferred chain
  | stopDeferred deferred chain => exact stopDeferred_keeps deferred chain
  | scope deferred body => exact scopeDeferred_keeps h deferred hinner
  | noteError deferred message => exact failDeferred_keeps deferred message
  | noteRows deferred rows => exact countDeferred_keeps deferred rows
  | debug name executor => exact showObject_keeps name executor
  | malformed verb needs field => exact refuse_keeps needs field

/-- Steps keep the desk, at any depth. -/
theorem keeping_runSteps (hands : Prop) (fuel depth : Nat) :
    Keeping hands (runSteps fuel depth) := by
  -- The steps inside a step have less fuel and one more level of depth.
  induction fuel generalizing depth with
  | zero => exact fun _ _ _ _ => .skip _
  | succ fuel ih =>
    intro c S steps hsteps
    induction steps with
    | nil => exact .skip _
    | cons step steps ihSteps =>
      have hperform : TurnKeeps hands c S (step.perform (runSteps fuel (depth + 1)) (fuel + 1)) :=
        perform_keeps (ih (depth + 1)) (fuel + 1) (hsteps step List.mem_cons_self)
      have hstep : Does hands c (Kept hands S)
          (do
            let result ← (step.perform (runSteps fuel (depth + 1)) (fuel + 1)).run
            note (.step step.verb depth result)) fun _ => Kept hands S := by
        refine .bind hperform fun result => ?_
        cases result <;> exact .note _
      exact .bind hstep fun _ => ihSteps fun s hs => hsteps s (List.mem_cons_of_mem _ hs)

theorem discards_does (objects : List (String × Object)) :
    Does hands c ((Kept hands ((objects.map (·.2.shares)).sum + S)).plus
      (objects.map (·.2.holds)).sum) (objects.forM fun o => discard o.2) fun _ => Kept hands S := by
  induction objects with
  | nil =>
    refine .pure fun H d hP => ?_
    rwa [List.map_nil, List.map_nil, List.sum_nil, List.sum_nil, zero_add,
      Assertion.plus_zero] at hP
  | cons o objects ih =>
    refine .bind (((discard_does o.2).plus _).weaken (fun H d hP => ?_) fun _ _ _ hQ => hQ)
      fun _ => ih
    rw [List.map_cons, List.map_cons, List.sum_cons, List.sum_cons, add_assoc] at hP
    rwa [Assertion.plus_plus]

/-- When everything is dropped, the spans that objects held have ended. -/
theorem clear_does : Does hands c (Kept hands 0) clear fun _ => Kept hands 0 := by
  refine .bind desk_does fun d => ?_
  refine .bind (Q := fun _ => (Kept hands ((d.objects.map (·.2.shares)).sum + 0)).plus
    (d.objects.map (·.2.holds)).sum) (changeDesk_does fun H d' ⟨hd', hH, hsound⟩ => ?_)
    fun _ => discards_does d.objects
  subst hd'
  refine ⟨_, ⟨rfl, hsound.objects .nil ?_⟩, ?_⟩
  · simp [Desk.shares]
  · rw [hH]
    simp [Desk.holds, add_comm]

end QueryTrace.Session
