/-
# Visa.JournalBinding -- the last hash of a journal binds its records

`_load_events` accepts a file whose records are a chain.  Two accepted files that end with
the same hash hold the same records, one by one (`loadEvents_binds`), where no two signed
forms share a digest.  Nothing is asked of the runs, the worlds or how the lines are spelled.

The loader compares a sequence number as Python does, so a record may count itself by a
float; a file is too short for a float to equal two line numbers (`equalsNat_place`).

`journals_bind` says the same of both journals; `bound_journals` is its pole.
-/
import InstrumentBench.Theory.WholeNumbers
import InstrumentBench.Fibsem.JournalBinding
import InstrumentBench.Visa.JournalRoundTrip

namespace InstrumentBench.Visa.Journal

set_option autoImplicit false

open InstrumentBench.Theory
open InstrumentBench.Theory.HashChain (Linked Counted CollisionFree head)
open InstrumentBench.Fibsem.Journal (asciiBytes field without splitlines signed named Sealed
  SameRecord sealed_binds isHexDigest_genesis validateRecords validateRecords_binds spelled
  character surrogatePair accepted_character accepted_surrogatePair signed_spelled)

/-! ## Line numbers -/

/-- A record counts itself as line `n`. -/
def Placed (n : Nat) (record : List (Text × Json)) : Prop :=
  equalsNat n (field record "sequence") = true

theorem equalsNat_place {v w : Json} {n m : Nat} (same : v.canon.joined = w.canon.joined)
    (positive : 0 < n) (positive' : 0 < m) (small : n < 2 ^ 53) (small' : m < 2 ^ 53)
    (counts : equalsNat n v = true) (counts' : equalsNat m w = true) : n = m := by
  cases v with
  | int i =>
      cases w with
      | int j =>
          simp only [Json.canon, Json.joined, Json.int.injEq] at same
          simp only [equalsNat, decide_eq_true_eq] at counts counts'
          omega
      | float _ => simp [Json.canon, Json.joined] at same
      | null | bool | str | arr | obj => cases counts'
  | float x =>
      cases w with
      | float y =>
          simp only [Json.canon, Json.joined, Json.float.injEq] at same
          subst same
          exact Binary64.eq_of_beq_ofNat positive positive' small small' counts counts'
      | int _ => simp [Json.canon, Json.joined] at same
      | null | bool | str | arr | obj => cases counts'
  | null | bool | str | arr | obj => cases counts

theorem length_splitlines_le (b : Bytes) : (splitlines b).length ≤ b.length := by
  fun_induction splitlines b
  all_goals
    simp_all only [List.length_nil, List.length_cons]
    omega

theorem length_of_loadLines {runId worldId : Text} {p : Position} {lines : List Bytes}
    {records : List (List (Text × Json))}
    (loaded : loadLines runId worldId p lines = .ok records) : records.length = lines.length := by
  induction lines generalizing p records with
  | nil =>
      cases loaded
      rfl
  | cons raw rest ih =>
      rw [loadLines] at loaded
      split at loaded
      · cases loaded
      split at loaded
      · cases loaded
      · split at loaded
        · cases loaded
        split at loaded
        · cases loaded
        rename_i later
        cases loaded
        rw [List.length_cons, List.length_cons, ih later]
      · cases loaded

/-! ## Accepted records -/

/-- What the checks of one record leave. -/
theorem checkRecord_ok {runId worldId : Text} {p p' : Position} {record : List (Text × Json)}
    (digest : isHexDigest p.previous = true) (nodup : (Json.keys record).Nodup)
    (accepted : checkRecord runId worldId p record = .ok p') :
    Sealed record ∧ named record = p.previous ∧ Placed p.sequence record ∧
      p'.sequence = p.sequence + 1 ∧ p'.previous = hexdigest (signed record) := by
  unfold checkRecord at accepted
  split at accepted
  · cases accepted
  rename_i keys
  split at accepted
  · cases accepted
  rename_i identity
  split at accepted
  case h_2 => cases accepted
  rename_i hash _ _ _ isHash
  split at accepted
  · cases accepted
  rename_i checks
  split at accepted
  · cases accepted
  rename_i payload written
  split at accepted
  · cases accepted
  rename_i hashed
  cases accepted
  obtain ⟨-, bytes⟩ := canonical_eq_some.1 written
  have taken : hexdigest payload = hexdigest (signed record) := by rw [bytes, signed]
  have previous : field record "previous_hash" = .str p.previous := by
    by_contra other
    exact checks (Or.inr (Or.inl other))
  have names : named record = p.previous := by rw [named, previous]
  have placed : Placed p.sequence record := by
    by_contra other
    exact identity (Or.inr (Or.inr (Bool.eq_false_of_not_eq_true other)))
  refine ⟨?_, names, placed, rfl, taken⟩
  exact
    { nodup := nodup
      free := fun k listed => pairFree_expected ((not_not.1 keys).1 listed)
      previous := by rw [previous, names]
      digest := by rwa [names]
      hash := by rw [isHash, ← not_not.1 hashed, taken] }

/-- The records of accepted lines are a counted chain. -/
theorem loadLines_linked {runId worldId : Text} {p : Position} {lines : List Bytes}
    {records : List (List (Text × Json))} (digest : isHexDigest p.previous = true)
    (loaded : loadLines runId worldId p lines = .ok records) :
    (∀ record ∈ records, Sealed record) ∧ Linked signed named hexdigest p.previous records ∧
      Counted Placed p.sequence records := by
  induction lines generalizing p records with
  | nil =>
      cases loaded
      exact ⟨by simp, trivial, trivial⟩
  | cons raw rest ih =>
      rw [loadLines] at loaded
      split at loaded
      · cases loaded
      split at loaded
      · cases loaded
      · rename_i record read
        split at loaded
        · cases loaded
        rename_i between checked
        split at loaded
        · cases loaded
        rename_i others later
        cases loaded
        obtain ⟨sealed, names, placed, next, after⟩ :=
          checkRecord_ok digest (Json.distinct_of_loadsBytes read).1 checked
        obtain ⟨all, linked, counted⟩ := ih (by rw [after]; exact isHexDigest_hexdigest _) later
        rw [after] at linked
        rw [next] at counted
        exact ⟨List.forall_mem_cons.2 ⟨sealed, all⟩, ⟨names, linked⟩, ⟨placed, counted⟩⟩
      · cases loaded

/-- The last hash is the head of the chain. -/
theorem lastHash_eq {records : List (List (Text × Json))}
    (all : ∀ record ∈ records, Sealed record) :
    lastHash records = .str (head signed hexdigest GENESIS_HASH records) := by
  cases records using List.reverseRecOn with
  | nil => rfl
  | append_singleton records record =>
      rw [lastHash, List.getLast?_append, HashChain.head_append]
      exact (all record (by simp)).hash

theorem loadEvents_linked {payload : Bytes} {runId worldId : Text}
    {records : List (List (Text × Json))}
    (loaded : loadEvents payload runId worldId = .ok records) :
    (∀ record ∈ records, Sealed record) ∧ Linked signed named hexdigest GENESIS_HASH records ∧
      Counted Placed 1 records ∧ records.length ≤ EVENTS_LIMIT := by
  unfold loadEvents at loaded
  split at loaded
  · cases loaded
  rename_i fits
  obtain ⟨all, linked, counted⟩ :=
    loadLines_linked (p := Position.start) isHexDigest_genesis loaded
  refine ⟨all, linked, counted, ?_⟩
  have short := length_splitlines_le payload
  rw [length_of_loadLines loaded]
  omega

/-- **The last hash of a file binds its records.** -/
theorem loadEvents_binds {payload payload' : Bytes} {runId worldId runId' worldId' : Text}
    {records records' : List (List (Text × Json))}
    (loaded : loadEvents payload runId worldId = .ok records)
    (loaded' : loadEvents payload' runId' worldId' = .ok records')
    (some : records ≠ []) (some' : records' ≠ []) (same : lastHash records = lastHash records')
    (free : CollisionFree signed hexdigest records records') :
    List.Forall₂ SameRecord records records' := by
  obtain ⟨all, linked, counted, short⟩ := loadEvents_linked loaded
  obtain ⟨all', linked', counted', short'⟩ := loadEvents_linked loaded'
  rw [lastHash_eq all, lastHash_eq all', Json.str.injEq] at same
  refine sealed_binds linked linked' counted counted' all all' ?_ free some some' same
  intro r r' k low k' low' sequence placed placed'
  rw [EVENTS_LIMIT] at short short'
  have place := equalsNat_place sequence (by omega) (by omega) (by omega) (by omega) placed placed'
  omega

/-- **A journal's last hash binds it**, for both journals. -/
theorem journals_bind :
    (∀ (sources sources' : List Json) (runId worldId runId' worldId' last : Text)
        (terminal terminal' : Bool),
      validateRecords sources runId worldId terminal = .ok last →
      validateRecords sources' runId' worldId' terminal' = .ok last →
      sources ≠ [] → sources' ≠ [] →
      ∃ records records', sources = records.map .obj ∧ sources' = records'.map .obj ∧
        (CollisionFree signed hexdigest records records' →
          List.Forall₂ SameRecord records records')) ∧
    ∀ (payload payload' : Bytes) (runId worldId runId' worldId' : Text)
        (records records' : List (List (Text × Json))),
      loadEvents payload runId worldId = .ok records →
      loadEvents payload' runId' worldId' = .ok records' →
      records ≠ [] → records' ≠ [] → lastHash records = lastHash records' →
      CollisionFree signed hexdigest records records' → List.Forall₂ SameRecord records records' :=
  ⟨fun _ _ _ _ _ _ _ _ _ accepted accepted' some some' =>
      validateRecords_binds accepted accepted' some some',
    fun _ _ _ _ _ _ _ _ loaded loaded' some some' same free =>
      loadEvents_binds loaded loaded' some some' same free⟩

/-! ## Poles -/

/-- The file of two events that a v2 journal exports. -/
def fiveFile : Bytes :=
  ((namedJournal.appendAll fiveCalls).bind EventJournal.exported).getD []

theorem loaded_fiveFile : ∃ first second,
    loadEvents fiveFile (txt "r") (txt "w") = .ok [first, second] ∧
      hexdigest (signed first) ≠ hexdigest (signed second) := by
  have apart : ((loadEvents fiveFile (txt "r") (txt "w")).toOption.any fun records =>
      records.length = 2 ∧ (records.map fun record => hexdigest (signed record)).Nodup) = true := by
    decide +kernel
  obtain ⟨records, loaded, apart⟩ := (Option.any_eq_true _ _).1 apart
  obtain ⟨two, distinct⟩ := of_decide_eq_true apart
  obtain ⟨first, second, rfl⟩ := List.length_eq_two.1 two
  refine ⟨first, second, ?_, fun same => ?_⟩
  · cases made : loadEvents fiveFile (txt "r") (txt "w") with
    | error e =>
        rw [made] at loaded
        cases loaded
    | ok records =>
        rw [made] at loaded
        cases loaded
        rfl
  · rw [List.map_cons, List.nodup_cons] at distinct
    exact distinct.1 (by simp [same])

/-- Two spellings of one record, and a file of two records with itself. -/
theorem bound_journals :
    (∃ records records', [Json.obj (spelled character)] = records.map .obj ∧
      [Json.obj (spelled surrogatePair)] = records'.map .obj ∧
      List.Forall₂ SameRecord records records') ∧
    ∃ first second, loadEvents fiveFile (txt "r") (txt "w") = .ok [first, second] ∧
      List.Forall₂ SameRecord [first, second] [first, second] := by
  constructor
  · obtain ⟨records, records', same, same', binds⟩ := journals_bind.1 _ _ _ _ _ _ _ _ _
      accepted_character accepted_surrogatePair (by simp) (by simp)
    refine ⟨records, records', same, same', binds ?_⟩
    intro r listed r' listed' _
    have first : Json.obj r ∈ [Json.obj (spelled character)] :=
      same ▸ List.mem_map_of_mem listed
    have second : Json.obj r' ∈ [Json.obj (spelled surrogatePair)] :=
      same' ▸ List.mem_map_of_mem listed'
    rw [List.mem_singleton, Json.obj.injEq] at first second
    rw [first, second, signed_spelled]
  · obtain ⟨first, second, loaded, apart⟩ := loaded_fiveFile
    refine ⟨first, second, loaded,
      journals_bind.2 _ _ _ _ _ _ _ _ loaded loaded (by simp) (by simp) rfl ?_⟩
    intro r listed r' listed' hash
    rcases List.mem_pair.1 listed with rfl | rfl <;> rcases List.mem_pair.1 listed' with rfl | rfl
    · rfl
    · exact absurd hash apart
    · exact absurd hash.symm apart
    · rfl

end InstrumentBench.Visa.Journal
