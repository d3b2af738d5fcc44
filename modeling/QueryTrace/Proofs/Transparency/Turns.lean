import QueryTrace.Proofs.Transparency.Matching
import QueryTrace.Session.Desk

/-!
# Matching turns

A turn is an action that a fault may end. Two turns match if they give related results or end by the
same fault.
-/

namespace QueryTrace.Session

variable {α β γ δ : Type} {L : Desk × List Note → Desk × List Note → Prop}

/-- Related results, or the same fault. -/
inductive Agree (R : α → γ → Prop) : Except Fault α → Except Fault γ → Prop
  | ok {a : α} {c : γ} : R a c → Agree R (.ok a) (.ok c)
  | error (fault : Fault) : Agree R (.error fault) (.error fault)

/-- The two turns match, with results that `R` relates. -/
def TurnMatches (L : Desk × List Note → Desk × List Note → Prop) (R : α → γ → Prop)
    (turn : Turn α) (other : Turn γ) : Prop :=
  Matches L (Agree R) turn.run other.run

namespace TurnMatches

variable {R : α → γ → Prop} {S : β → δ → Prop}

theorem pure {a : α} {c : γ} (h : R a c) : TurnMatches L R (pure a) (pure c) :=
  Matches.pure (.ok h)

theorem throw (fault : Fault) :
    TurnMatches L R (throw fault : Turn α) (throw fault : Turn γ) :=
  Matches.pure (.error fault)

theorem bind {turn : Turn α} {other : Turn γ} {f : α → Turn β} {g : γ → Turn δ}
    (h : TurnMatches L R turn other) (hf : ∀ a c, R a c → TurnMatches L S (f a) (g c)) :
    TurnMatches L S (turn >>= f) (other >>= g) := by
  show Matches L (Agree S) (turn.run >>= ExceptT.bindCont f) (other.run >>= ExceptT.bindCont g)
  refine Matches.bind h fun x y hxy => ?_
  cases hxy with
  | ok h => exact hf _ _ h
  | error fault => exact Matches.pure (.error fault)

theorem lift {act : Doing α} {other : Doing γ} (h : Matches L R act other) :
    TurnMatches L R (ExceptT.lift act) (ExceptT.lift other) := by
  intro w v hL
  exact ⟨.ok (h w v hL).1, (h w v hL).2⟩

end TurnMatches

end QueryTrace.Session
