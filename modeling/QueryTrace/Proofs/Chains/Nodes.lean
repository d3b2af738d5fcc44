import Mathlib.Data.List.Induction
import QueryTrace.Session.Object

/-!
# The nodes of a query

A node is reached from a root call by further calls. Every layer around it has recorded exactly
these calls: the path of its chain is a slash and the name of each call, and its history has one
entry per call, which tells the position of the call, its name and its arguments.
-/

namespace QueryTrace

/-! ## Chains of calls -/

namespace Chain

/-- A slash and the name of each call. -/
def pathOf : List (String × Args) → String
  | [] => ""
  | call :: calls => "/" ++ call.1 ++ pathOf calls

/-- What a history says about calls, the first of which stands at the given position. -/
def entriesFrom (position : Nat) (calls : List (String × Args)) : List (String × String) :=
  calls.mapIdx fun i call => (key (position + i) call.1, call.2.rendered)

/-- The chain with more calls, in order. -/
def recordAll (chain : Chain) (calls : List (String × Args)) : Chain :=
  calls.foldl (fun chain call => chain.record call.1 call.2) chain

/-- The chain of a root call and the calls after it. -/
def ofCalls (root : String × Args) (calls : List (String × Args)) : Chain :=
  (start root.1 root.2).recordAll calls

theorem entriesFrom_cons (position : Nat) (call : String × Args) (calls : List (String × Args)) :
    entriesFrom position (call :: calls) =
      (key position call.1, call.2.rendered) :: entriesFrom (position + 1) calls := by
  simp [entriesFrom, List.mapIdx_cons, Nat.add_assoc, Nat.add_comm 1]

theorem recordAll_concat (chain : Chain) (calls : List (String × Args)) (call : String × Args) :
    chain.recordAll (calls ++ [call]) = (chain.recordAll calls).record call.1 call.2 := by
  simp [recordAll]

theorem path_recordAll (chain : Chain) (calls : List (String × Args)) :
    (chain.recordAll calls).path = chain.path ++ pathOf calls := by
  induction calls generalizing chain with
  | nil => simp [recordAll, pathOf]
  | cons call calls ih =>
    have hcalls : (chain.recordAll (call :: calls)).path = _ := ih (chain.record call.1 call.2)
    rw [hcalls]
    simp [record, push, pathOf, String.append_assoc]

theorem history_recordAll (chain : Chain) (calls : List (String × Args)) :
    (chain.recordAll calls).history =
      chain.history ++ entriesFrom chain.history.length calls := by
  induction calls generalizing chain with
  | nil => simp [recordAll, entriesFrom]
  | cons call calls ih =>
    have hcalls : (chain.recordAll (call :: calls)).history = _ :=
      ih (chain.record call.1 call.2)
    rw [hcalls, entriesFrom_cons]
    simp [record, push]

theorem path_ofCalls (root : String × Args) (calls : List (String × Args)) :
    (ofCalls root calls).path = pathOf (root :: calls) := by
  have hroot : (start root.1 root.2).path = "" ++ "/" ++ root.1 := rfl
  rw [ofCalls, path_recordAll, hroot]
  simp [pathOf]

theorem history_ofCalls (root : String × Args) (calls : List (String × Args)) :
    (ofCalls root calls).history = entriesFrom 0 (root :: calls) := by
  have hroot : (start root.1 root.2).history = [(key 0 root.1, root.2.rendered)] := rfl
  rw [ofCalls, history_recordAll, hroot, entriesFrom_cons]
  rfl

end Chain

/-! ## Nodes -/

namespace Session

/-- The node that is reached from a root call by further calls. -/
def Root.node (root : Root) (first : String × Args) (calls : List (String × Args)) : Query :=
  calls.foldl (fun node call => node.call call.1 call.2) (root.query first.1 first.2)

/-- A node has a layer for each layer of its namespace, and each of them has recorded the calls by
which it is reached. -/
theorem Root.layers_node (root : Root) (first : String × Args) (calls : List (String × Args)) :
    (root.node first calls).layers =
      root.layers.map fun layer => ⟨layer.manager, .ofCalls first calls⟩ := by
  induction calls using List.reverseRecOn with
  | nil => rfl
  | append_singleton calls call ih =>
    have hcall : (root.node first (calls ++ [call])).layers =
        (root.node first calls).layers.map (·.record call.1 call.2) := by
      rw [node, List.foldl_append]
      rfl
    rw [hcall, ih, List.map_map]
    refine List.map_congr_left fun layer _ => ?_
    simp only [Function.comp_apply, QueryLayer.record, Chain.ofCalls, Chain.recordAll_concat]

end Session

end QueryTrace
