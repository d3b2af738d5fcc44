import QueryTrace.Proofs.Worlds

/-!
# What a program can tell of a world

A program knows its own state and what it noted. Spans, contexts, the clock and log events are none
of its business, so an action that touches only those is unseen.

Two actions match if, from worlds that look alike to their programs, they give related results and
end in worlds that look alike again. An unseen action may be put before or after an action without
a match being lost.
-/

namespace QueryTrace

variable {σ ν α β γ δ : Type}

/-- The note in an entry of the journal. -/
def Entry.note? : Entry ν → Option ν
  | .noted n => some n
  | _ => none

/-- What the program noted so far. -/
def World.notes (w : World σ ν) : List ν :=
  w.journal.filterMap Entry.note?

/-- What a program can tell of a world. -/
def World.seen (w : World σ ν) : σ × List ν :=
  (w.program, w.notes)

namespace World

variable (w : World σ ν)

@[simp] theorem notes_write_noted (n : ν) : (w.write (.noted n)).notes = w.notes ++ [n] := by
  simp [notes, Entry.note?]

@[simp] theorem seen_log (level : Level) (message : String) (fields : List Attr) :
    (w.log level message fields).seen = w.seen := by
  rcases w.journal_log level message fields with h | h <;> simp [seen, notes, h, Entry.note?]

@[simp] theorem seen_annotate (span : SpanRef) (attrs : List Attr) :
    (w.annotate span attrs).seen = w.seen := by
  simp [seen, notes]

@[simp] theorem seen_fail (span : SpanRef) (description : String) :
    (w.fail span description).seen = w.seen := by
  simp [seen, notes]

@[simp] theorem seen_finish (span : SpanRef) : (w.finish span).seen = w.seen := by
  unfold World.finish
  split <;> simp [seen, notes, Entry.note?]

@[simp] theorem seen_startSpan (provider : Provider) (scope : Scope) (name : String)
    (parent : SpanRef) : (w.startSpan provider scope name parent).2.seen = w.seen := by
  cases provider <;> simp [World.startSpan, seen, notes, Entry.note?]

@[simp] theorem seen_attach (context : Context) : (w.attach context).seen = w.seen := rfl

@[simp] theorem seen_detach : w.detach.seen = w.seen := rfl

@[simp] theorem seen_clock (clock : Nat) : ({ w with clock } : World σ ν).seen = w.seen := rfl

end World

/-! ## Unseen actions -/

/-- A program cannot tell the action from doing nothing. -/
structure Unseen (act : Action σ ν α) : Prop where
  seen_after : ∀ w, (after act w).seen = w.seen

namespace Unseen

theorem pure (a : α) : Unseen (pure a : Action σ ν α) := ⟨fun _ => rfl⟩

theorem bind {act : Action σ ν α} {f : α → Action σ ν β} (h : Unseen act)
    (hf : ∀ a, Unseen (f a)) : Unseen (act >>= f) :=
  ⟨fun w => by rw [after_bind, (hf _).seen_after, h.seen_after]⟩

theorem log (level : Level) (message : String) (fields : List Attr) :
    Unseen (log level message fields : Action σ ν Unit) := ⟨fun w => by simp⟩

theorem modify {f : World σ ν → World σ ν} (h : ∀ w, (f w).seen = w.seen) :
    Unseen (modify f) := ⟨fun w => by rw [after_modify, h]⟩

theorem current : Unseen (current : Action σ ν Context) := ⟨fun _ => rfl⟩

theorem get : Unseen (get : Action σ ν (World σ ν)) := ⟨fun _ => rfl⟩

end Unseen

/-! ## Matches -/

variable {L : σ × List ν → σ × List ν → Prop} {R : α → γ → Prop} {S : β → δ → Prop}

/-- From worlds that look alike, as `L` has it, the two actions end in worlds that look alike, and
give results that `R` relates. -/
def Matches (L : σ × List ν → σ × List ν → Prop) (R : α → γ → Prop) (act : Action σ ν α)
    (other : Action σ ν γ) : Prop :=
  ∀ w v, L w.seen v.seen →
    R (result act w) (result other v) ∧ L (after act w).seen (after other v).seen

namespace Matches

theorem pure {a : α} {c : γ} (h : R a c) :
    Matches L R (pure a : Action σ ν α) (pure c) := fun _ _ hL => ⟨h, hL⟩

theorem bind {act : Action σ ν α} {other : Action σ ν γ} {f : α → Action σ ν β}
    {g : γ → Action σ ν δ} (h : Matches L R act other)
    (hf : ∀ a c, R a c → Matches L S (f a) (g c)) : Matches L S (act >>= f) (other >>= g) := by
  intro w v hL
  obtain ⟨hR, hL'⟩ := h w v hL
  exact hf _ _ hR _ _ hL'

theorem mono {R' : α → γ → Prop} {act : Action σ ν α} {other : Action σ ν γ}
    (h : Matches L R act other) (hR : ∀ a c, R a c → R' a c) : Matches L R' act other :=
  fun w v hL => ⟨hR _ _ (h w v hL).1, (h w v hL).2⟩

theorem symm {act : Action σ ν α} {other : Action σ ν γ} (h : Matches L R act other) :
    Matches (flip L) (flip R) other act :=
  fun w v hL => h v w hL

/-- What follows an action may be unseen, as long as its result stays related. -/
theorem bind_left {act : Action σ ν α} {other : Action σ ν δ} {f : α → Action σ ν β}
    {R : α → δ → Prop} (h : Matches L R act other)
    (hf : ∀ a c, R a c → Matches L S (f a) (Pure.pure c)) : Matches L S (act >>= f) other := by
  intro w v hL
  obtain ⟨hR, hL'⟩ := h w v hL
  exact hf _ _ hR _ _ hL'

/-- What precedes an action may be unseen. -/
theorem unseen_bind {act : Action σ ν α} {f : α → Action σ ν β} {other : Action σ ν δ}
    (h : Unseen act) (hf : ∀ a, Matches L S (f a) other) : Matches L S (act >>= f) other := by
  intro w v hL
  exact hf (result act w) (after act w) v (by rwa [h.seen_after])

/-- A context around an action is unseen. -/
theorem within {context : Context} {act : Action σ ν α} {other : Action σ ν γ}
    (h : Matches L R act other) : Matches L R (within context act) other := by
  intro w v hL
  exact h (w.attach context) v hL

end Matches

end QueryTrace
