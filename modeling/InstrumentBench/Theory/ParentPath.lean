/-
# Theory.ParentPath -- nodes that name their parent

`path` follows the parents of a node up to the root and gives the nodes on the way; it
gives none where a node repeats, has no parent, or the fuel ends.  A path visits each
node once (`path_nodup`), and it is a function of the parents alone (`path_congr`), so
that a sum along it changes by what its nodes change (`sum_map_add_of_nodup`).
-/
import Mathlib.Algebra.BigOperators.Group.List.Basic

namespace InstrumentBench.Theory.ParentPath

set_option autoImplicit false

variable {κ : Type} [DecidableEq κ] (root : κ)

/-- The nodes from one up to the root, which is not among them; `seen` are those below. -/
def path (parent : κ → Option κ) : Nat → List κ → κ → Option (List κ)
  | 0, _, _ => none
  | fuel + 1, seen, node =>
      if node = root then some []
      else if node ∈ seen then none
      else (parent node).bind fun above => (path parent fuel (node :: seen) above).map (node :: ·)

theorem path_congr {parent parent' : κ → Option κ} (same : ∀ node, parent node = parent' node)
    (fuel : Nat) (seen : List κ) (node : κ) :
    path root parent fuel seen node = path root parent' fuel seen node := by
  have equal : parent = parent' := funext same
  rw [equal]

/-- **A path visits each node once**, and none of those below it. -/
theorem path_nodup {parent : κ → Option κ} {fuel : Nat} {seen : List κ} {node : κ}
    {nodes : List κ} (found : path root parent fuel seen node = some nodes) :
    nodes.Nodup ∧ ∀ n ∈ nodes, n ∉ seen := by
  induction fuel generalizing seen node nodes with
  | zero => cases found
  | succ fuel ih =>
      unfold path at found
      split at found
      case isTrue =>
          cases found
          exact ⟨List.nodup_nil, fun n listed => absurd listed List.not_mem_nil⟩
      case isFalse =>
          split at found
          case isTrue => cases found
          case isFalse fresh =>
              obtain ⟨above, -, rest⟩ := Option.bind_eq_some_iff.1 found
              obtain ⟨upper, climbed, rfl⟩ := Option.map_eq_some_iff.1 rest
              obtain ⟨apart, away⟩ := ih climbed
              refine ⟨List.nodup_cons.2 ⟨?_, apart⟩, ?_⟩
              · intro again
                exact away node again List.mem_cons_self
              · intro n listed
                rcases List.mem_cons.1 listed with rfl | later
                · exact fresh
                · exact fun below => away n later (List.mem_cons_of_mem _ below)

/-- What one node adds to a sum over distinct nodes. -/
theorem sum_map_add_of_nodup {M : Type} [AddCommMonoid M] (f : κ → M) (a : κ) (δ : M)
    {nodes : List κ} (apart : nodes.Nodup) :
    (nodes.map fun n => f n + if n = a then δ else 0).sum =
      (nodes.map f).sum + if a ∈ nodes then δ else 0 := by
  induction nodes with
  | nil => simp
  | cons n rest ih =>
      obtain ⟨away, later⟩ := List.nodup_cons.1 apart
      rw [List.map_cons, List.sum_cons, ih later, List.map_cons, List.sum_cons]
      by_cases here : n = a
      · subst here
        rw [if_pos rfl, if_neg away, if_pos List.mem_cons_self, add_zero, add_right_comm]
      · have elsewhere : (a ∈ n :: rest) = (a ∈ rest) := by
          rw [List.mem_cons, eq_comm (a := a)]
          simp [here]
        rw [if_neg here, add_zero, ← add_assoc]
        simp only [elsewhere]

end InstrumentBench.Theory.ParentPath
