import QueryTrace.Proofs.Redaction.Layers
import QueryTrace.Proofs.Session.Pairs
import QueryTrace.Proofs.Transparency.Turns
import QueryTrace.Session.Service

/-!
# Scripts and desks that differ in arguments

Two scripts are akin if they carry out the same steps, with the same methods, and set up no layer
that may record literals. The arguments of calls and the options of runs may differ, short of one
thing: the nodes that a query starts from have to open alike. Two desks are akin if akin scripts
could have led to them.
-/

namespace QueryTrace.Session

variable {α β : Type}

/-! ## Steps -/

/-- A step without arguments of a query and without a body, which sets up no layer that may record
literals or has a classifier of its own. -/
def Step.Plain : Step → Prop
  | .instrument _ config backend classifier =>
    config.Redacts ∧ backend ≠ .sharedStandard ∧ classifier = none
  | .wrap _ _ (.config config) => config.Redacts
  | .query .. | .call .. | .run .. | .chain .. | .record .. => False
  | .respond .. | .execute .. | .ambient .. | .detached .. | .scope .. => False
  | _ => True

mutual

/-- The steps do the same, with arguments that may differ. -/
inductive Step.Akin : Step → Step → Prop
  | same {step : Step} : step.Plain → Step.Akin step step
  | query (name : Option String) (root method : String) {args args' : Args} :
    (Wire.root method args).OpensLike (Wire.root method args') →
    Step.Akin (.query name root method args) (.query name root method args')
  | call (name : Option String) (query method : String) (args args' : Args) :
    Step.Akin (.call name query method args) (.call name query method args')
  | run (name : Option String) (query connection : String) (options options' : Args)
    (take : Take) : Step.Akin (.run name query connection options take)
      (.run name query connection options' take)
  | chain (name : Option String) (rootName : String) (args args' : Args) :
    Step.Akin (.chain name rootName args) (.chain name rootName args')
  | record (chain method : String) (args args' : Args) :
    Step.Akin (.record chain method args) (.record chain method args')
  | respond (server : String) {responses responses' : List (Reply Step)}
    (connects closes : List (Option String)) : List.Forall₂ Reply.Akin responses responses' →
    Step.Akin (.respond server responses connects closes)
      (.respond server responses' connects closes)
  | execute (manager : String) (source : SourceSpec) (role : Role) {body body' : List Step}
    (result : Except String Value) : List.Forall₂ Step.Akin body body' →
    Step.Akin (.execute manager source role body result) (.execute manager source role body' result)
  | ambient (name : String) (provider : Provider) {body body' : List Step} :
    List.Forall₂ Step.Akin body body' →
    Step.Akin (.ambient name provider body) (.ambient name provider body')
  | detached {body body' : List Step} : List.Forall₂ Step.Akin body body' →
    Step.Akin (.detached body) (.detached body')
  | scope (deferred : String) {body body' : List Step} : List.Forall₂ Step.Akin body body' →
    Step.Akin (.scope deferred body) (.scope deferred body')

/-- The same answer, after steps that are akin. -/
inductive Reply.Akin : Reply Step → Reply Step → Prop
  | intro {before before' : List Step} (answer : Answer) : List.Forall₂ Step.Akin before before' →
    Reply.Akin ⟨before, answer⟩ ⟨before', answer⟩

end

/-! ## Objects -/

/-- The nodes open alike, inside layers that recorded the same calls. -/
structure Query.Akin (q q' : Query) : Prop where
  layers : List.Forall₂ QueryLayer.Akin q.layers q'.layers
  wire : q.wire.OpensLike q'.wire

/-- Every layer of the connection keeps literals to itself. -/
def Connection.Redacts (c : Connection) : Prop :=
  ∀ layer ∈ c.layers, layer.Redacts

/-- The objects are the same but for the arguments of calls, and keep literals to themselves. -/
inductive Object.Akin : Object → Object → Prop
  | instrumentor {i : Instrumentor} : i.layer.Redacts → i.manager.config.Redacts →
    Akin (.instrumentor i) (.instrumentor i)
  | server (number : Nat) : Akin (.server number) (.server number)
  | root {r : Root} : (∀ layer ∈ r.layers, layer.Redacts) → Akin (.root r) (.root r)
  | connection {c : Connection} : c.Redacts → Akin (.connection c) (.connection c)
  | query {q q' : Query} : q.Akin q' → Akin (.query q) (.query q')
  | cursor {c : Cursor} : c.source.Redacts → Akin (.cursor c) (.cursor c)
  | chain {c c' : Chain} : c.Akin c' → Akin (.chain c) (.chain c')
  | deferred (number : Nat) : Akin (.deferred number) (.deferred number)

/-- The servers are going to do the same. -/
structure Server.Akin (s s' : Server) : Prop where
  responses : List.Forall₂ Reply.Akin s.responses s'.responses
  connects : s.connects = s'.connects
  closes : s.closes = s'.closes
  latency : s.latency = s'.latency

/-- Akin objects have the same names. -/
def NamedAkin (o o' : String × Object) : Prop :=
  o.1 = o'.1 ∧ o.2.Akin o'.2

/-- The desks are the same but for the arguments of calls, and keep literals to themselves. -/
structure Desk.Akin (d d' : Desk) : Prop where
  objects : List.Forall₂ NamedAkin d.objects d'.objects
  servers : List.Forall₂ Server.Akin d.servers d'.servers
  deferreds : d.deferreds = d'.deferreds
  redacts : ∀ held ∈ d.deferreds, held.span.manager.config.Redacts
  provider : d.provider = d'.provider
  room : d.room = d'.room

theorem Desk.Akin.hasRoom {d d' : Desk} (h : d.Akin d') (layers : List Layer) :
    d.hasRoom layers = d'.hasRoom layers := by
  rw [Desk.hasRoom, h.room, Desk.hasRoom]

/-! ## Turns -/

/-- The turns coincide, with results that `R` relates, or end by the same fault. -/
abbrev TurnCoincides (R : α → β → Prop) (turn : Turn α) (other : Turn β) : Prop :=
  Coincide Desk.Akin (Agree R) turn.run other.run

namespace TurnCoincides

variable {γ δ : Type} {R : α → γ → Prop} {S : β → δ → Prop}

theorem pure {a : α} {c : γ} (h : R a c) : TurnCoincides R (pure a) (pure c) :=
  Coincide.pure (.ok h)

theorem throw (fault : Fault) :
    TurnCoincides R (throw fault : Turn α) (throw fault : Turn γ) :=
  Coincide.pure (.error fault)

theorem bind {turn : Turn α} {other : Turn γ} {f : α → Turn β} {g : γ → Turn δ}
    (h : TurnCoincides R turn other) (hf : ∀ a c, R a c → TurnCoincides S (f a) (g c)) :
    TurnCoincides S (turn >>= f) (other >>= g) := by
  show Coincide Desk.Akin (Agree S) (turn.run >>= ExceptT.bindCont f)
    (other.run >>= ExceptT.bindCont g)
  refine Coincide.bind h fun x y hxy => ?_
  cases hxy with
  | ok h => exact hf _ _ h
  | error fault => exact Coincide.pure (.error fault)

theorem lift {act : Doing α} {other : Doing γ} (h : Coincide Desk.Akin R act other) :
    TurnCoincides R (ExceptT.lift act) (ExceptT.lift other) :=
  ⟨fun w v hsame => ⟨.ok (h.coincide w v hsame).1, (h.coincide w v hsame).2⟩⟩

end TurnCoincides

/-! ## The desk -/

theorem desk_coincides : Coincide Desk.Akin Desk.Akin desk desk :=
  ⟨fun _ _ hsame => ⟨hsame.programs, hsame⟩⟩

theorem changeDesk_coincides {f g : Desk → Desk}
    (h : ∀ d d', Desk.Akin d d' → Desk.Akin (f d) (g d')) :
    Coincide Desk.Akin (fun _ _ => True) (changeDesk f) (changeDesk g) :=
  ⟨fun _ _ hsame => ⟨trivial, hsame.trail, h _ _ hsame.programs⟩⟩

theorem changeServer_coincides (number : Nat) {f g : Server → Server}
    (hf : ∀ s s', Server.Akin s s' → (f s).Akin (g s')) :
    Coincide Desk.Akin (fun _ _ => True) (changeServer number f) (changeServer number g) :=
  changeDesk_coincides fun _ _ h => { h with servers := related_modify h.servers number hf }

/-- Deferred spans are the same on both sides, and so are their changes. -/
theorem changeHeld_coincides (number : Nat) {f : HeldSpan → HeldSpan}
    (hf : ∀ h, h.span.manager.config.Redacts → (f h).span.manager.config.Redacts) :
    Coincide Desk.Akin (fun _ _ => True) (changeHeld number f) (changeHeld number f) := by
  refine changeDesk_coincides fun d d' h => { h with deferreds := ?_, redacts := ?_ }
  · exact congrArg (List.modify · number f) h.deferreds
  · intro held hheld
    obtain ⟨i, hi⟩ := List.mem_iff_getElem?.mp hheld
    rw [List.getElem?_modify] at hi
    obtain ⟨before, hbefore, rfl⟩ := Option.map_eq_some_iff.mp hi
    have hredacts := h.redacts before (List.mem_of_getElem? hbefore)
    split
    · exact hf before hredacts
    · exact hredacts

theorem release_coincides (number : Nat) :
    Coincide Desk.Akin (fun _ _ => True) (release number) (release number) := by
  refine .bind (changeHeld_coincides number fun _ h => h) fun _ _ _ => ?_
  refine .bind desk_coincides fun d d' h => ?_
  rw [h.deferreds]
  split
  · split
    · exact Deferred.abandon_coincides _
    · exact .pure trivial
  · exact .pure trivial

theorem discard_coincides {o o' : Object} (h : o.Akin o') :
    Coincide Desk.Akin (fun _ _ => True) (discard o) (discard o') := by
  cases h with
  | @cursor c _ =>
    unfold discard
    dsimp only
    induction c.layers with
    | nil => exact .pure trivial
    | cons layer layers ih => exact .bind layer.drop_coincides fun _ _ _ => ih
  | deferred number => exact release_coincides number
  | _ => exact .pure trivial

/-! ## Named objects -/

theorem lookup_coincides (name : String) :
    Coincide Desk.Akin (Option.Rel Object.Akin) (lookup? name) (lookup? name) :=
  .bind desk_coincides fun _ _ h => .pure (named_find? (R := Object.Akin) h.objects name)

theorem remove_coincides (name : String) :
    Coincide Desk.Akin (fun _ _ => True) (remove name) (remove name) :=
  changeDesk_coincides fun _ _ h =>
    { h with objects := named_filter (R := Object.Akin) h.objects name }

theorem store_coincides (name : String) {o o' : Object} (ho : o.Akin o') :
    Coincide Desk.Akin (fun _ _ => True) (store name o) (store name o') := by
  refine .bind (lookup_coincides name) fun old old' hold => ?_
  refine .bind (changeDesk_coincides fun _ _ h =>
    { h with objects := named_insertField (R := Object.Akin) h.objects name ho })
    fun _ _ _ => ?_
  cases hold with
  | some h => exact discard_coincides h
  | none => exact .pure trivial

theorem keep_coincides (name : Option String) {o o' : Object} (ho : o.Akin o') :
    TurnCoincides (fun _ _ => True) (keep name o) (keep name o') := by
  cases name with
  | some name => exact .lift (store_coincides name ho)
  | none => exact .bind (.lift (discard_coincides ho)) fun _ _ _ => .throw _

/-- What is picked from akin objects is related. -/
theorem find_coincides {R : α → β → Prop} {pick : Object → Option α} {pick' : Object → Option β}
    (hpick : ∀ o o', Object.Akin o o' → Option.Rel R (pick o) (pick' o')) (name : String) :
    TurnCoincides R (find pick name) (find pick' name) := by
  refine .bind (.lift (lookup_coincides name)) fun o o' ho => ?_
  have hpicked : Option.Rel R (o.bind pick) (o'.bind pick') := by
    cases ho with
    | some h => exact hpick _ _ h
    | none => exact .none
  generalize o.bind pick = x, o'.bind pick' = y at hpicked
  cases hpicked with
  | some h => exact .pure h
  | none => exact .throw _

end QueryTrace.Session
