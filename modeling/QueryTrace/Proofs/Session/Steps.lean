import QueryTrace.Session.Desk

/-!
# Steps inside steps

A step can carry other steps: its body, or the steps of the responses that it prepares. A property
of all the steps of a script is one that the steps at the top have, and those inside them.
-/

namespace QueryTrace.Session

/-- The steps that a step carries. -/
def Step.inner : Step → List Step
  | .respond _ responses _ _ => responses.flatMap (·.before)
  | .execute _ _ _ body _ => body
  | .ambient _ _ body => body
  | .detached body => body
  | .scope _ body => body
  | _ => []

/-- The step has a property, and so have all steps inside it. -/
inductive Step.Every (p : Step → Prop) : Step → Prop
  | intro {step : Step} : p step → (∀ s ∈ step.inner, Every p s) → Every p step

/-- All of the steps have a property, and so have all steps inside them. -/
def AllSteps (p : Step → Prop) (steps : List Step) : Prop :=
  ∀ step ∈ steps, step.Every p

/-- The steps that wait on the servers to be carried out with a response. -/
def Server.waiting (s : Server) : List Step :=
  s.responses.flatMap (·.before)

/-- The steps that wait on servers have a property. -/
def AllWaiting (p : Step → Prop) (servers : List Server) : Prop :=
  ∀ server ∈ servers, AllSteps p server.waiting

namespace Step.Every

variable {p q : Step → Prop} {step : Step}

theorem holds (h : step.Every p) : p step := by
  cases h with
  | intro h _ => exact h

theorem inside (h : step.Every p) : AllSteps p step.inner := by
  cases h with
  | intro _ h => exact h

theorem mono (h : step.Every p) (hpq : ∀ s, p s → q s) : step.Every q := by
  induction h with
  | intro hp _ ih => exact .intro (hpq _ hp) ih

theorem sizeOf_lt_of_mem_inner {s step : Step} (h : s ∈ step.inner) : sizeOf s < sizeOf step := by
  cases step with
  | respond server responses connects closes =>
    obtain ⟨⟨before, answer⟩, hreply, hs⟩ := List.mem_flatMap.mp h
    have hlist := List.sizeOf_lt_of_mem hreply
    have hbefore := List.sizeOf_lt_of_mem hs
    simp only [Reply.mk.sizeOf_spec] at hlist hbefore
    simp only [Step.respond.sizeOf_spec]
    omega
  | execute manager spec role body result =>
    have hbody := List.sizeOf_lt_of_mem (show s ∈ body from h)
    simp only [Step.execute.sizeOf_spec]
    omega
  | ambient name provider body =>
    have hbody := List.sizeOf_lt_of_mem (show s ∈ body from h)
    simp only [Step.ambient.sizeOf_spec]
    omega
  | detached body =>
    have hbody := List.sizeOf_lt_of_mem (show s ∈ body from h)
    simp only [Step.detached.sizeOf_spec]
    omega
  | scope deferred body =>
    have hbody := List.sizeOf_lt_of_mem (show s ∈ body from h)
    simp only [Step.scope.sizeOf_spec]
    omega
  | _ => cases h

/-- What all steps have, all steps inside them have. -/
theorem of_all (h : ∀ s, p s) (step : Step) : step.Every p :=
  .intro (h step) fun s _ => of_all h s
termination_by sizeOf step
decreasing_by exact sizeOf_lt_of_mem_inner ‹_›

end Step.Every

section Waiting

variable {p q : Step → Prop}

theorem AllSteps.mono {steps : List Step} (h : AllSteps p steps) (hpq : ∀ s, p s → q s) :
    AllSteps q steps :=
  fun step member => (h step member).mono hpq

theorem AllSteps.nil : AllSteps p [] := fun _ h => absurd h List.not_mem_nil

theorem AllSteps.flatMap_iff {replies : List (Reply Step)} :
    AllSteps p (replies.flatMap (·.before)) ↔ ∀ r ∈ replies, AllSteps p r.before := by
  simp only [AllSteps, List.mem_flatMap]
  constructor
  · intro h r hr step hs
    exact h step ⟨r, hr, hs⟩
  · rintro h step ⟨r, hr, hs⟩
    exact h r hr step hs

/-- Responses that are added wait behind those that are there. -/
theorem AllSteps.append_replies {replies added : List (Reply Step)}
    (h : AllSteps p (replies.flatMap (·.before))) (h' : AllSteps p (added.flatMap (·.before))) :
    AllSteps p ((replies ++ added).flatMap (·.before)) := by
  rw [AllSteps.flatMap_iff] at h h' ⊢
  intro r hr
  rcases List.mem_append.mp hr with hr | hr
  · exact h r hr
  · exact h' r hr

/-- When a response has been taken, only steps wait that waited before. -/
theorem AllSteps.tail_replies {replies : List (Reply Step)}
    (h : AllSteps p (replies.flatMap (·.before))) :
    AllSteps p (replies.tail.flatMap (·.before)) := by
  rw [AllSteps.flatMap_iff] at h ⊢
  exact fun r hr => h r (List.mem_of_mem_tail hr)

variable {servers : List Server}

theorem AllWaiting.mono (h : AllWaiting p servers) (hpq : ∀ s, p s → q s) : AllWaiting q servers :=
  fun server member => (h server member).mono hpq

theorem AllWaiting.modify (h : AllWaiting p servers) (number : Nat) {f : Server → Server}
    (hf : ∀ s, AllSteps p s.waiting → AllSteps p (f s).waiting) :
    AllWaiting p (servers.modify number f) := by
  intro server hs
  obtain ⟨i, hi⟩ := List.mem_iff_getElem?.mp hs
  rw [List.getElem?_modify] at hi
  obtain ⟨s, hget, rfl⟩ := Option.map_eq_some_iff.mp hi
  have hbefore := h s (List.mem_of_getElem? hget)
  split
  · exact hf s hbefore
  · exact hbefore

/-- No steps wait on a new server. -/
theorem AllWaiting.push (h : AllWaiting p servers) (latency : Nat) :
    AllWaiting p (servers ++ [{ latency := latency }]) := by
  intro server hs
  rcases List.mem_append.mp hs with hs | hs
  · exact h server hs
  · obtain rfl := List.mem_singleton.mp hs
    exact .nil

/-- The steps of the response that is taken next have been waiting. -/
theorem AllWaiting.next (h : AllWaiting p servers) (number : Nat) :
    AllSteps p (((servers[number]?.map (·.responses)).getD []).headD defaultReply).before := by
  cases hserver : servers[number]? with
  | none => exact .nil
  | some server =>
    have hall := AllSteps.flatMap_iff.mp (h server (List.mem_of_getElem? hserver))
    cases hresponses : server.responses with
    | nil => simpa [hresponses, defaultReply] using AllSteps.nil
    | cons r rest => simpa [hresponses] using hall r (by simp [hresponses])

end Waiting

end QueryTrace.Session
