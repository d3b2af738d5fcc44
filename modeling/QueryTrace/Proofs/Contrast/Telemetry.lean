import QueryTrace.Proofs.Contrast.Session
import QueryTrace.Proofs.Transparency.Matching

/-!
# Telemetry is not seen

Providers of spans, and the settings of what is recorded, decide what becomes of spans and of
nothing else. Two sessions whose steps and desks differ in these alone get the same results, make
the same calls, and leave the same chains, deferred spans and cursors behind. This holds of a
session that records everything and one that records nothing at all.
-/

namespace QueryTrace

variable {σ ν : Type}

/-- When runs differ in telemetry, only what is noted counts. -/
theorem World.story_telemetry {C : Comparison σ ν} (hC : C.contrast = .telemetry)
    (w : World σ ν) : w.story C = (w.notes.map C.told).map .noted := by
  rw [World.story, World.notes, List.map_filterMap, List.map_filterMap]
  congr 1
  funext entry
  -- Starts and ends of spans do not count if telemetry differs, and log events never count.
  cases entry with
  | started number name parent scope => rw [Entry.told?, hC]; rfl
  | ended number name attrs failure => rw [Entry.told?, hC]; rfl
  | logged => rfl
  | noted n => rfl

namespace Session

/-- Telemetry never influences a program. In worlds that are the same but for providers and for the
settings of what is recorded, steps that are the same but for these note the same, whether or not
the objects that are left are dropped in the end: the results of all steps, and all calls to the
driver, in the same order. They take the same time and leave the same marks in the context, and
desks that are alike: the chains are the same, the deferred spans are in the same states, and the
cursors have come equally far. -/
theorem same_session_telemetry (fuel depth : Nat) {steps steps' : List Step}
    (hsteps : List.Forall₂ (Step.Like .telemetry) steps steps') (dropping : Bool)
    {w w' : World Desk Note} (hworld : Same (sessions .telemetry) w w') :
    let play (steps : List Step) : Doing Unit := do
      runSteps fuel depth steps
      if dropping then clear
    let v := after (play steps) w
    let v' := after (play steps') w'
    v.notes.map (Note.told .telemetry) = v'.notes.map (Note.told .telemetry) ∧
      v.clock = v'.clock ∧ List.Forall₂ (Context.Like .telemetry) v.contexts v'.contexts ∧
      Desk.Like .telemetry v.program v'.program := by
  intro play v v'
  obtain ⟨-, hend⟩ := (session_parallel fuel depth hsteps dropping).parallel _ _ hworld
  have hstory : v.story (sessions .telemetry) = v'.story (sessions .telemetry) := hend.story
  rw [World.story_telemetry rfl, World.story_telemetry rfl] at hstory
  have hnoted : Function.Injective (Entry.noted : Note → Entry Note) := fun _ _ h => by cases h; rfl
  exact ⟨List.map_injective_iff.mpr hnoted hstory, hend.clock, hend.contexts, hend.programs⟩

/-- A session that uses everything the layers have: a query whose rows are fetched until the server
fails, with an execution while it answers, a deferred span that is started twice, and an execution
that uses up its chain and fails. -/
def observedSteps (config : Config) (provider : Provider) : List Step :=
  .instrument (some "i") config (.own provider) none ::
  [.server (some "s") 600,
   .respond "s" [⟨[.execute "i" (.request "[2]" none) .continuation [] (.ok .null)],
      .respond (.batch [.null] true)⟩, ⟨[], .fail "gone"⟩] [] [],
   .root (some "r") (.server "s") (some "i"),
   .connect (some "c") "r" .none,
   .query (some "q") "r" "table" (.one "users"),
   .run (some "k") "q" "c" .none .any,
   .next "k" 3,
   .chain (some "x") "table" .none,
   .deferred (some "d") "i",
   .startDeferred "d" "x",
   .startDeferred "d" "x",
   .execute "i" (.chain "x") .newQuery [.endCurrent] (.error "lost"),
   .stopDeferred "d" "x"]

theorem observedSteps_like {config config' : Config} (h : config.Like config')
    (provider provider' : Provider) : List.Forall₂ (Step.Like .telemetry)
      (observedSteps config provider) (observedSteps config' provider') := by
  have hbackend : Backend.Like .telemetry (.own provider) (.own provider') :=
    ⟨.telemetry _ _, by simp⟩
  refine .cons (.instrument (some "i") none h (.telemetry _ _) hbackend) (AllSteps.like ?_)
  exact fun step _ => .of_all (fun _ hk => by cases hk) step

theorem same_session_observedSteps :
    let quiet : Config := { logQueries := false, logArguments := false, slowThreshold := 0,
                            recordRows := false }
    let steps := observedSteps .standard .recording
    let steps' := observedSteps quiet .inert
    let w : World Desk Note := { program := { provider := .recording } }
    let w' : World Desk Note := { program := { provider := .unsampled } }
    let play (steps : List Step) : Doing Unit := do
      runSteps 4 0 steps
      if true then clear
    let v := after (play steps) w
    let v' := after (play steps') w'
    List.Forall₂ (Step.Like .telemetry) steps steps' ∧ Same (sessions .telemetry) w w' ∧
      v.spans.length = 4 ∧ v'.spans = [] ∧ v.notes.length = 22 ∧
      v.notes.map (Note.told .telemetry) = v'.notes.map (Note.told .telemetry) := by
  intro quiet steps steps' w w' play v v'
  have hquiet : Config.Like .standard quiet := ⟨rfl, rfl, rfl, rfl, rfl⟩
  have hsteps : List.Forall₂ (Step.Like .telemetry) steps steps' :=
    observedSteps_like hquiet .recording .inert
  have hworld : Same (sessions .telemetry) w w' :=
    ⟨.nil, rfl, .telemetry _ _, rfl, ⟨.nil, .nil, .nil, .telemetry _ _, rfl⟩⟩
  exact ⟨hsteps, hworld, by decide +kernel, by decide +kernel, by decide +kernel,
    (same_session_telemetry 4 0 hsteps true hworld).1⟩

end Session

end QueryTrace
