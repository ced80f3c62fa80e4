/-
# Theory.JsonCopy -- `json.loads(json.dumps(v))` without hooks

Without hooks the decoder makes a `dict` of an object's members one after the
other, so that the last of two equal keys wins, and reads `NaN` and the
infinities back as the floats they are.  `reload v` is what comes back of `v`.

Where the strict decoder of `Theory.JsonParse` accepts the text, it returns the
same value (`reload_of_rejoin`).
-/
import InstrumentBench.Theory.JsonParse
import InstrumentBench.Theory.PyDict

namespace InstrumentBench.Theory

set_option autoImplicit false

namespace Json

mutual

/-- `json.loads(json.dumps(v))`, for members in the order they are written. -/
def reload : Json → Json
  | .str t => .str (joinSurrogates t)
  | .arr items => .arr (reloadItems items)
  | .obj fields => .obj (reloadFields [] fields)
  | .null => .null
  | .bool b => .bool b
  | .int i => .int i
  | .float x => .float x

def reloadItems : List Json → List Json
  | [] => []
  | v :: vs => reload v :: reloadItems vs

/-- The members read so far are `d`. -/
def reloadFields (d : List (Text × Json)) : List (Text × Json) → List (Text × Json)
  | [] => d
  | (k, v) :: fs => reloadFields (PyDict.set (joinSurrogates k) (reload v) d) fs

end

mutual

/-- What is read back is made of `dict`s. -/
theorem distinct_reload : ∀ v : Json, Distinct (reload v)
  | .null | .bool _ | .int _ | .float _ | .str _ => trivial
  | .arr items => distinctItems_reload items
  | .obj fields => distinctFields_reload fields List.nodup_nil (by simp)

theorem distinctItems_reload : ∀ vs : List Json, DistinctItems (reloadItems vs)
  | [] => trivial
  | v :: vs => ⟨distinct_reload v, distinctItems_reload vs⟩

theorem distinctFields_reload : ∀ (fs : List (Text × Json)) {d : List (Text × Json)},
    (keys d).Nodup → (∀ kv ∈ d, Distinct kv.2) →
    (keys (reloadFields d fs)).Nodup ∧ DistinctFields (reloadFields d fs)
  | [], d, nodup, distinct => ⟨nodup, (distinctFields_iff d).2 distinct⟩
  | (k, v) :: fs, d, nodup, distinct => by
      refine distinctFields_reload fs (PyDict.keys_set_nodup nodup _ _) ?_
      intro kv member
      rcases PyDict.mem_set member with old | same
      · exact distinct kv old
      · rw [same]
        exact distinct_reload v

end

mutual

/-- What is read back holds no pair left to join. -/
theorem pairFree_reload : ∀ v : Json, AllText PairFree (reload v)
  | .null | .bool _ | .int _ | .float _ => trivial
  | .str t => pairFree_joinSurrogates t
  | .arr items => pairFreeItems_reload items
  | .obj fields => pairFreeFields_reload fields (by simp)

theorem pairFreeItems_reload : ∀ vs : List Json, AllTextItems PairFree (reloadItems vs)
  | [] => trivial
  | v :: vs => ⟨pairFree_reload v, pairFreeItems_reload vs⟩

theorem pairFreeFields_reload : ∀ (fs : List (Text × Json)) {d : List (Text × Json)},
    (∀ kv ∈ d, PairFree kv.1 ∧ AllText PairFree kv.2) → AllTextFields PairFree (reloadFields d fs)
  | [], d, free => (allTextFields_iff PairFree d).2 free
  | (k, v) :: fs, d, free => by
      refine pairFreeFields_reload fs ?_
      intro kv member
      rcases PyDict.mem_set member with old | same
      · exact free kv old
      · rw [same]
        exact ⟨pairFree_joinSurrogates k, pairFree_reload v⟩

end

mutual

/-- **Agreement.**  Where the strict decoder accepts what is written, it reads the
same value. -/
theorem reload_of_rejoin : ∀ (v : Json) {w : Json}, rejoin v = .ok w → reload v = w
  | .null, _, joined | .bool _, _, joined | .int _, _, joined | .str _, _, joined => by
      cases joined
      rfl
  | .float x, _, joined => by
      rw [rejoin] at joined
      split at joined
      · cases joined
        rfl
      · cases joined
  | .arr items, _, joined => by
      rw [rejoin] at joined
      split at joined
      · cases joined
      · cases joined
        rw [reload, reloadItems_of_rejoin items ‹_›]
  | .obj fields, _, joined => by
      rw [rejoin] at joined
      split at joined
      · cases joined
      · rename_i gs read
        rw [uniqueObject_ok joined, reload,
          reloadFields_of_rejoin fields [] read (nodup_of_uniqueObject joined)]
        rfl

theorem reloadItems_of_rejoin : ∀ (vs : List Json) {ws : List Json}, rejoinItems vs = .ok ws →
    reloadItems vs = ws
  | [], _, joined => by
      cases joined
      rfl
  | v :: vs, _, joined => by
      rw [rejoinItems] at joined
      split at joined
      · cases joined
      · rename_i w first
        split at joined
        · cases joined
        · cases joined
          rw [reloadItems, reload_of_rejoin v first, reloadItems_of_rejoin vs ‹_›]

theorem reloadFields_of_rejoin : ∀ (fs d : List (Text × Json)) {gs : List (Text × Json)},
    rejoinFields fs = .ok gs → (keys (d ++ gs)).Nodup → reloadFields d fs = d ++ gs
  | [], d, _, joined, _ => by
      cases joined
      rw [reloadFields, List.append_nil]
  | (k, v) :: fs, d, _, joined, distinct => by
      rw [rejoinFields] at joined
      split at joined
      · cases joined
      · rename_i w first
        split at joined
        · cases joined
        · rename_i gs others
          cases joined
          have fresh : joinSurrogates k ∉ keys d := by
            rw [keys, List.map_append, List.nodup_append] at distinct
            intro member
            exact distinct.2.2 _ member _ List.mem_cons_self rfl
          rw [reloadFields, reload_of_rejoin v first, PyDict.set_of_fresh fresh]
          have regrouped : d ++ (joinSurrogates k, w) :: gs = (d ++ [(joinSurrogates k, w)]) ++ gs :=
            List.append_cons d _ gs
          rw [regrouped] at distinct ⊢
          exact reloadFields_of_rejoin fs _ others distinct

end

end Json

end InstrumentBench.Theory
