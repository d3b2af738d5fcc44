import Mathlib.Data.List.DropRight
import QueryTrace.Proofs.Chains.Keys
import QueryTrace.Proofs.Chains.Nodes

/-!
# Edits of a chain

A chain is edited by calls that are recorded and by resets, in any order. What was done before the
last reset is gone: the chain is the one of its root call and the calls since then, however often it
was reset and whatever the calls are (`editAll_start`). So it shows one entry for each of these
calls, under a key from which position and name of the call can be read (`state_after_edits`).

The keys of a history stand in the order of its calls up to a hundred entries. From there on they do
not: the key of position 100 comes before the one of position 11 (`keys_in_order_iff`).
-/

namespace QueryTrace.Chain

open Text

/-! ## Edits -/

inductive Edit where
  | record (name : String) (args : Args)
  | reset

def edit (chain : Chain) : Edit → Chain
  | .record name args => chain.record name args
  | .reset => chain.reset

def editAll (chain : Chain) (edits : List Edit) : Chain :=
  edits.foldl edit chain

/-- The call that an edit records. -/
def Edit.call? : Edit → Option (String × Args)
  | .record name args => some (name, args)
  | .reset => none

/-- The calls that were recorded behind the last reset. -/
def callsSinceReset (edits : List Edit) : List (String × Args) :=
  (edits.rtakeWhile fun edit => edit.call?.isSome).filterMap Edit.call?

theorem editAll_concat (chain : Chain) (edits : List Edit) (edit : Edit) :
    chain.editAll (edits ++ [edit]) = (chain.editAll edits).edit edit := by
  simp [editAll]

theorem callsSinceReset_record (edits : List Edit) (name : String) (args : Args) :
    callsSinceReset (edits ++ [.record name args]) = callsSinceReset edits ++ [(name, args)] := by
  rw [callsSinceReset, List.rtakeWhile_concat_pos _ _ _ rfl, List.filterMap_append]
  rfl

theorem callsSinceReset_reset (edits : List Edit) : callsSinceReset (edits ++ [.reset]) = [] := by
  rw [callsSinceReset, List.rtakeWhile_concat_neg _ _ _ (by simp [Edit.call?])]
  rfl

/-- Recording calls leaves the root call as it is. -/
theorem root_ofCalls (root : String × Args) (calls : List (String × Args)) :
    (ofCalls root calls).rootName = root.1 ∧ (ofCalls root calls).rootArgs = root.2.rendered := by
  induction calls using List.reverseRecOn with
  | nil => exact ⟨rfl, rfl⟩
  | append_singleton calls call ih =>
    rw [ofCalls, recordAll_concat]
    exact ih

/-- A reset leads back to the chain of the root call alone. -/
theorem reset_ofCalls (root : String × Args) (calls : List (String × Args)) :
    (ofCalls root calls).reset = start root.1 root.2 := by
  obtain ⟨hname, hargs⟩ := root_ofCalls root calls
  rw [reset, hname, hargs]
  rfl

/-- Induction on the edits, the last one at the end: a call extends the calls since the last reset,
a reset leaves none of them. -/
theorem editAll_start (root : String × Args) (edits : List Edit) :
    (start root.1 root.2).editAll edits = ofCalls root (callsSinceReset edits) := by
  induction edits using List.reverseRecOn with
  | nil => rfl
  | append_singleton edits edit ih =>
    rw [editAll_concat, ih]
    cases edit with
    | record name args =>
      rw [callsSinceReset_record, ofCalls, ofCalls, recordAll_concat]
      rfl
    | reset =>
      rw [callsSinceReset_reset]
      exact reset_ofCalls root (callsSinceReset edits)

/-! ## What a chain shows -/

theorem key_eq_leftpad (position : Nat) (name : String) : key position name =
    "#" ++ String.ofList ((Nat.toDigits 10 position).leftpad 2 '0') ++ "." ++ name := by
  rw [key, ← toList_twoDigits, String.ofList_toList]

theorem length_history_ofCalls (root : String × Args) (calls : List (String × Args)) :
    (ofCalls root calls).history.length = calls.length + 1 := by
  simp [history_ofCalls, entriesFrom]

theorem key_getElem_history {root : String × Args} {calls : List (String × Args)} {i : Nat}
    (h : i < (ofCalls root calls).history.length) : ∃ name : String,
      (ofCalls root calls).history[i].1 = key i name := by
  simp only [history_ofCalls, entriesFrom, List.getElem_mapIdx, Nat.zero_add]
  exact ⟨_, rfl⟩

/-- Whatever was recorded and reset before, a chain shows its root call and the calls since the last
reset: one entry for each, under a key from which its position and its name can be read. No two of
these keys are equal. -/
theorem state_after_edits (root : String × Args) (edits : List Edit) :
    let calls := root :: callsSinceReset edits
    let chain := (start root.1 root.2).editAll edits
    chain.rootName = root.1 ∧ chain.rootArgs = root.2.rendered ∧
      chain.path = pathOf calls ∧
      chain.history.length = (callsSinceReset edits).length + 1 ∧
      chain.history = calls.mapIdx (fun i call =>
        ("#" ++ String.ofList ((Nat.toDigits 10 i).leftpad 2 '0') ++ "." ++ call.1,
          call.2.rendered)) ∧
      chain.history.map (fun entry => readKey entry.1) =
        calls.mapIdx (fun i call => (i, call.1)) ∧
      (chain.history.map (·.1)).Nodup ∧
      chain.edit .reset = start root.1 root.2 := by
  intro calls chain
  have hchain : chain = ofCalls root (callsSinceReset edits) := editAll_start root edits
  have hhistory : chain.history = calls.mapIdx fun i call => (key i call.1, call.2.rendered) := by
    simp only [hchain, history_ofCalls, entriesFrom, Nat.zero_add, calls]
  have hread : chain.history.map (fun entry => readKey entry.1) =
      calls.mapIdx fun i call => (i, call.1) := by
    simp [hhistory, List.mapIdx_eq_zipIdx_map, readKey_key, Function.comp_def]
  obtain ⟨hname, hargs⟩ := root_ofCalls root (callsSinceReset edits)
  refine ⟨hchain ▸ hname, hchain ▸ hargs, hchain ▸ path_ofCalls root _,
    hchain ▸ length_history_ofCalls root _, ?_, hread, ?_, hchain ▸ reset_ofCalls root _⟩
  · simp only [hhistory, key_eq_leftpad]
  · have hkeys : chain.history.map (·.1) = calls.mapIdx fun i call => key i call.1 := by
      simp [hhistory, List.mapIdx_eq_zipIdx_map, Function.comp_def]
    rw [hkeys]
    exact nodup_keys calls

/-! ## The order of a history -/

theorem before_history_iff {root : String × Args} {calls : List (String × Args)} {i j : Nat}
    (hij : i < j) (hj : j < (ofCalls root calls).history.length) :
    Before (ofCalls root calls).history[i].1 (ofCalls root calls).history[j].1 ↔
      i ≤ j / 10 ^ (width j - width i) := by
  obtain ⟨name, hname⟩ := key_getElem_history (hij.trans hj)
  obtain ⟨other, hother⟩ := key_getElem_history hj
  rw [hname, hother, before_key_iff hij]

/-- Positions below a hundred show two digits. -/
theorem width_eq_two {n : Nat} (h : n < 100) : width n = 2 :=
  le_antisymm ((width_le_iff le_rfl).mpr h) (Nat.le_max_left ..)

theorem width_hundred : width 100 = 3 := rfl

/-- A history is sorted by its keys if and only if it has at most a hundred entries. For two
positions it depends on how many digits they show. -/
theorem keys_in_order_iff (root : String × Args) (edits : List Edit) :
    let history := ((start root.1 root.2).editAll edits).history
    (∀ (i j : Nat) (hij : i < j) (hj : j < history.length),
      Before history[i].1 history[j].1 ↔ i ≤ j / 10 ^ (width j - width i)) ∧
    (history.Pairwise (fun entry later => Before entry.1 later.1) ↔ history.length ≤ 100) := by
  intro history
  have hpair (i j : Nat) (hij : i < j) (hj : j < history.length) :
      Before history[i].1 history[j].1 ↔ i ≤ j / 10 ^ (width j - width i) := by
    simp only [history, editAll_start] at hj ⊢
    exact before_history_iff hij hj
  refine ⟨hpair, ?_, ?_⟩
  · intro hsorted
    by_contra hlength
    have hlong : 100 < history.length := Nat.lt_of_not_le hlength
    have hbefore := List.pairwise_iff_getElem.mp hsorted 11 100 (by omega) hlong (by omega)
    rw [hpair 11 100 (by omega) hlong, width_hundred, width_eq_two (by omega)] at hbefore
    exact absurd hbefore (by decide)
  · intro hlength
    refine List.pairwise_iff_getElem.mpr fun i j hi hj hij => ?_
    rw [hpair i j hij hj, width_eq_two (by omega), width_eq_two (by omega)]
    simpa using hij.le

/-- A chain of a hundred calls behind the root call. -/
def longEdits : List Edit :=
  List.replicate 100 (.record "skip" .none)

theorem callsSinceReset_longEdits :
    callsSinceReset longEdits = List.replicate 100 ("skip", .none) := by
  rw [callsSinceReset, List.rtakeWhile_eq_self_iff.mpr]
  · simp [longEdits, Edit.call?]
  · intro edit hedit
    rw [List.eq_of_mem_replicate hedit]
    rfl

theorem length_longEdits :
    ((start "table" .none).editAll longEdits).history.length = 101 := by
  rw [editAll_start ("table", .none), length_history_ofCalls, callsSinceReset_longEdits,
    List.length_replicate]

/-- The last key of the long chain comes before the one in front of it. -/
theorem keys_in_order_longEdits :
    let history := ((start "table" .none).editAll longEdits).history
    ∃ hlong : 100 < history.length, ¬Before history[99].1 history[100].1 ∧
      ¬history.Pairwise fun entry later => Before entry.1 later.1 := by
  intro history
  obtain ⟨hpair, hsorted⟩ := keys_in_order_iff ("table", .none) longEdits
  have hlong : 100 < history.length := by
    rw [length_longEdits]
    decide
  refine ⟨hlong, ?_, fun h => Nat.not_le_of_lt hlong (hsorted.mp h)⟩
  rw [hpair 99 100 (by decide) hlong, width_hundred, width_eq_two (by decide)]
  decide

/-- The call at position 100 is shown in front of the one at position 99. -/
theorem hundred_before_ninety_nine :
    let history := ((start "table" .none).editAll longEdits).history
    history[99]? = some ("#99.skip", "") ∧ history[100]? = some ("#100.skip", "") ∧
      ¬Before "#99.skip" "#100.skip" ∧ Before "#100.skip" "#99.skip" := by
  intro history
  have hhistory : history =
      entriesFrom 0 (("table", .none) :: List.replicate 100 ("skip", .none)) := by
    rw [← history_ofCalls, ← callsSinceReset_longEdits, ← editAll_start]
  refine ⟨?_, ?_, ?_, ?_⟩
  · rw [hhistory, entriesFrom, List.getElem?_mapIdx]
    rfl
  · rw [hhistory, entriesFrom, List.getElem?_mapIdx]
    rfl
  · rw [Before]
    decide
  · rw [Before]
    decide

end QueryTrace.Chain
