/-
# Theory.HashChain -- a chain of digests binds what it was made from

A record of a chain names the digest of the record before it, and the first one names a
fixed start.  The digest at the head of a chain then stands for the whole chain:

* `Linked.binds`: two chains of one length with the same head have the same payloads, one
  by one;
* `Linked.binds_counted`: where the payload of a record tells its place in the chain, the
  lengths need not be compared.

Of the digest only `CollisionFree` is assumed, for the records of the two chains.  The proof
goes back from the two heads, and what a payload fixes is only which digest its record names
before it.
-/
import Mathlib.Data.List.Basic
import Mathlib.Data.List.Forall2
import Mathlib.Data.List.Induction

namespace InstrumentBench.Theory.HashChain

set_option autoImplicit false

section

variable {ρ π δ : Type} (payload : ρ → π) (previous : ρ → δ) (digest : π → δ)

/-- The digest at the head of a list of records. -/
def head (start : δ) (records : List ρ) : δ :=
  match records.getLast? with
  | some record => digest (payload record)
  | none => start

/-- Every record names the digest of the one before it. -/
def Linked : δ → List ρ → Prop
  | _, [] => True
  | before, record :: records =>
      previous record = before ∧ Linked (digest (payload record)) records

/-- No two payloads of the lists share a digest, as none do under an injective one. -/
def CollisionFree (records records' : List ρ) : Prop :=
  ∀ r ∈ records, ∀ r' ∈ records', digest (payload r) = digest (payload r') → payload r = payload r'

/-- Each record is at the place it is counted at. -/
def Counted (At : Nat → ρ → Prop) : Nat → List ρ → Prop
  | _, [] => True
  | n, record :: records => At n record ∧ Counted At (n + 1) records

variable {payload previous digest}

@[simp] theorem head_nil (start : δ) : head payload digest start [] = start := rfl

@[simp] theorem head_append (start : δ) (records : List ρ) (r : ρ) :
    head payload digest start (records ++ [r]) = digest (payload r) := by
  simp [head]

@[simp] theorem head_cons (start : δ) (r : ρ) (records : List ρ) :
    head payload digest start (r :: records) = head payload digest (digest (payload r)) records := by
  cases records using List.reverseRecOn with
  | nil => rfl
  | append_singleton records r' =>
      rw [← List.cons_append, head_append, head_append]

/-- The last record of a chain names the head of what comes before it. -/
theorem linked_append {start : δ} {records : List ρ} {r : ρ} :
    Linked payload previous digest start (records ++ [r]) ↔
      Linked payload previous digest start records ∧
        previous r = head payload digest start records := by
  induction records generalizing start with
  | nil => simp [Linked]
  | cons first records ih => simp [Linked, ih, and_assoc]

theorem counted_append {At : Nat → ρ → Prop} {n : Nat} {records : List ρ} {r : ρ} :
    Counted At n (records ++ [r]) ↔ Counted At n records ∧ At (n + records.length) r := by
  induction records generalizing n with
  | nil => simp [Counted]
  | cons first records ih => simp [Counted, ih, and_assoc, Nat.add_comm, Nat.add_left_comm]

theorem CollisionFree.mono {rs ss rs' ss' : List ρ} (free : CollisionFree payload digest ss ss')
    (more : rs ⊆ ss) (more' : rs' ⊆ ss') : CollisionFree payload digest rs rs' :=
  fun r listed r' listed' => free r (more listed) r' (more' listed')

/-- **The head binds a chain of known length.** -/
theorem Linked.binds {start start' : δ} {records records' : List ρ}
    (linked : Linked payload previous digest start records)
    (linked' : Linked payload previous digest start' records')
    (names : ∀ r ∈ records, ∀ r' ∈ records', payload r = payload r' → previous r = previous r')
    (free : CollisionFree payload digest records records')
    (lengths : records.length = records'.length)
    (same : head payload digest start records = head payload digest start' records') :
    List.Forall₂ (fun r r' => payload r = payload r') records records' := by
  induction records using List.reverseRecOn generalizing records' with
  | nil =>
      obtain rfl := List.length_eq_zero_iff.1 lengths.symm
      exact .nil
  | append_singleton records r ih =>
      cases records' using List.reverseRecOn with
      | nil => simp at lengths
      | append_singleton records' r' =>
          rw [head_append, head_append] at same
          rw [linked_append] at linked linked'
          have equal := free r (by simp) r' (by simp) same
          have before := names r (by simp) r' (by simp) equal
          rw [linked.2, linked'.2] at before
          have agree := ih linked.1 linked'.1
            (fun s listed s' listed' => names s (List.mem_append_left _ listed) s'
              (List.mem_append_left _ listed'))
            (free.mono (List.subset_append_left _ _) (List.subset_append_left _ _))
            (by simpa using lengths) before
          exact List.rel_append agree (.cons equal .nil)

/-- **The head binds a chain whose payloads count.** -/
theorem Linked.binds_counted {start start' : δ} {At : Nat → ρ → Prop} {n : Nat}
    {records records' : List ρ} (linked : Linked payload previous digest start records)
    (linked' : Linked payload previous digest start' records')
    (counted : Counted At n records) (counted' : Counted At n records')
    (names : ∀ r ∈ records, ∀ r' ∈ records', payload r = payload r' → previous r = previous r')
    (places : ∀ r ∈ records, ∀ r' ∈ records', ∀ k < records.length, ∀ k' < records'.length,
      payload r = payload r' → At (n + k) r → At (n + k') r' → k = k')
    (free : CollisionFree payload digest records records')
    (some : records ≠ []) (some' : records' ≠ [])
    (same : head payload digest start records = head payload digest start' records') :
    List.Forall₂ (fun r r' => payload r = payload r') records records' := by
  refine linked.binds linked' names free ?_ same
  cases records using List.reverseRecOn with
  | nil => exact absurd rfl some
  | append_singleton records r =>
      cases records' using List.reverseRecOn with
      | nil => exact absurd rfl some'
      | append_singleton records' r' =>
          rw [head_append, head_append] at same
          have equal := free r (by simp) r' (by simp) same
          have place := places r (by simp) r' (by simp) records.length (by simp) records'.length
            (by simp) equal (counted_append.1 counted).2 (counted_append.1 counted').2
          rw [List.length_append, List.length_append, place]
          rfl

end

end InstrumentBench.Theory.HashChain
