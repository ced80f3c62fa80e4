/-
# Fibsem.JournalBinding -- the head of a journal binds its records

`validate_records` returns the hash of the last record it accepted.  That digest stands
for every record before it, member by member: `validateRecords_binds` compares any two
accepted lists with the same head, of whatever runs and worlds, and finds them equal
where no two signed forms share a digest.

A record is hashed in canonical form, where a surrogate pair is written like the
character it spells, so members are compared once joined (`SameRecord`); the two spellings
of one character have one head (`spellings_share_head`).
-/
import InstrumentBench.Theory.HashChain
import InstrumentBench.Theory.JsonInjective
import InstrumentBench.Fibsem.JournalExport

namespace InstrumentBench.Fibsem.Journal

set_option autoImplicit false

open InstrumentBench.Theory
open InstrumentBench.Theory.HashChain (Linked Counted CollisionFree head)

/-! ## Canonical bytes -/

/-- ASCII text is known by its bytes. -/
theorem asciiBytes_injective {t u : Text} (graphic : Graphic t) (graphic' : Graphic u)
    (same : asciiBytes t = asciiBytes u) : t = u := by
  induction t generalizing u with
  | nil =>
      cases u with
      | nil => rfl
      | cons d u => cases same
  | cons c t ih =>
      cases u with
      | nil => cases same
      | cons d u =>
          obtain ⟨first, others⟩ := List.cons.inj same
          have small := (graphic_cons.1 graphic).1
          have small' := (graphic_cons.1 graphic').1
          have value : c.val = d.val := by
            have bytes := congrArg UInt8.toNat first
            rw [UInt8.toNat_ofNat', UInt8.toNat_ofNat'] at bytes
            omega
          rw [Fin.ext value, ih (graphic_cons.1 graphic).2 (graphic_cons.1 graphic').2 others]

/-- Canonical bytes determine the value, its surrogates joined. -/
theorem joined_of_asciiBytes {v w : Json} (same : asciiBytes v.dumps = asciiBytes w.dumps) :
    v.canon.joined = w.canon.joined :=
  Json.joined_of_render
    (asciiBytes_injective (Json.graphic_render _) (Json.graphic_render _) same)

/-! ## Members -/

/-- A member is joined as the record is. -/
theorem field_joinedFields {fs : List (Text × Json)} (free : ∀ k ∈ Json.keys fs, Json.PairFree k)
    {key : String} :
    field (Json.joinedFields fs) key = (field fs key).joined := by
  induction fs with
  | nil => rfl
  | cons kv fs ih =>
      obtain ⟨k, v⟩ := kv
      have joined : Json.joinSurrogates k = k :=
        (Json.joinSurrogates_eq_iff k).2 (free k List.mem_cons_self)
      have others := ih fun k member => free k (List.mem_cons_of_mem _ member)
      unfold field at others ⊢
      simp only [Json.joinedFields, joined, List.lookup_cons]
      cases txt key == k with
      | true => rfl
      | false => exact others

/-- Equal canonical forms have equal members. -/
theorem field_of_joined {fs gs : List (Text × Json)} (nodup : (Json.keys fs).Nodup)
    (nodup' : (Json.keys gs).Nodup) (free : ∀ k ∈ Json.keys fs, Json.PairFree k)
    (free' : ∀ k ∈ Json.keys gs, Json.PairFree k)
    (same : (Json.obj fs).canon.joined = (Json.obj gs).canon.joined) (key : String) :
    (field fs key).canon.joined = (field gs key).canon.joined := by
  have sorted : ∀ {hs : List (Text × Json)}, (∀ k ∈ Json.keys hs, Json.PairFree k) →
      ∀ k ∈ Json.keys (Json.sortFields (Json.canonFields hs)), Json.PairFree k := by
    intro hs free k member
    rw [(Json.keys_sortFields_perm _).mem_iff, Json.keys_canonFields] at member
    exact free k member
  simp only [Json.canon, Json.joined, Json.obj.injEq] at same
  rw [canon_field nodup, canon_field nodup', ← field_joinedFields (sorted free), same,
    field_joinedFields (sorted free')]

theorem field_without {record : List (Text × Json)} {key other : String}
    (apart : txt key ≠ txt other) : field (without record other) key = field record key := by
  unfold field without
  congr 1
  induction record with
  | nil => rfl
  | cons kv record ih =>
      obtain ⟨k, v⟩ := kv
      rw [List.filter_cons, List.lookup_cons]
      split
      · rw [List.lookup_cons, ih]
      · rename_i dropped
        have same : k = txt other := by simpa using dropped
        rw [ih, beq_eq_false_iff_ne.2 (same ▸ apart)]

/-! ## A hashed record -/

/-- The bytes the hash of a record is taken of. -/
def signed (record : List (Text × Json)) : Bytes :=
  asciiBytes (Json.obj (without record "event_hash")).dumps

/-- The digest a record names as the one before it. -/
def named (record : List (Text × Json)) : Text :=
  match field record "previous_hash" with
  | .str digest => digest
  | _ => []

/-- A record that names a digest before it and carries its own. -/
structure Sealed (record : List (Text × Json)) : Prop where
  nodup : (Json.keys record).Nodup
  free : ∀ k ∈ Json.keys record, Json.PairFree k
  previous : field record "previous_hash" = .str (named record)
  digest : isHexDigest (named record) = true
  hash : field record "event_hash" = .str (hexdigest (signed record))

/-- Records with the same members, their surrogates joined. -/
def SameRecord (record record' : List (Text × Json)) : Prop :=
  ∀ key : String, (field record key).canon.joined = (field record' key).canon.joined

section

variable {record record' : List (Text × Json)}

/-- Records signed alike have the same members, but perhaps for their hash. -/
theorem Sealed.members (sealed : Sealed record) (sealed' : Sealed record')
    (same : signed record = signed record') (key : String) (apart : txt key ≠ txt "event_hash") :
    (field record key).canon.joined = (field record' key).canon.joined := by
  have free : ∀ {fs : List (Text × Json)}, Sealed fs →
      ∀ k ∈ Json.keys (without fs "event_hash"), Json.PairFree k := fun sealed k listed =>
    sealed.free k ((keys_without_sublist _ _).subset listed)
  have members := field_of_joined (sealed.nodup.sublist (keys_without_sublist _ _))
    (sealed'.nodup.sublist (keys_without_sublist _ _)) (free sealed) (free sealed')
    (joined_of_asciiBytes same) key
  rwa [field_without apart, field_without apart] at members

/-- The digest a record names is among what its own digest is taken of. -/
theorem Sealed.named_eq (sealed : Sealed record) (sealed' : Sealed record')
    (same : signed record = signed record') : named record = named record' := by
  have members := sealed.members sealed' same "previous_hash" (by decide)
  rw [sealed.previous, sealed'.previous] at members
  simp only [Json.canon, Json.joined, Json.str.injEq] at members
  rwa [(Json.joinSurrogates_eq_iff _).2 (pairFree_digest sealed.digest),
    (Json.joinSurrogates_eq_iff _).2 (pairFree_digest sealed'.digest)] at members

theorem Sealed.same (sealed : Sealed record) (sealed' : Sealed record')
    (same : signed record = signed record') : SameRecord record record' := by
  intro key
  by_cases hash : txt key = txt "event_hash"
  · have spelled : ∀ fs : List (Text × Json), field fs key = field fs "event_hash" := by
      intro fs
      rw [field, hash, field]
    rw [spelled, spelled, sealed.hash, sealed'.hash, same]
  · exact sealed.members sealed' same key hash

end

/-- Two counted chains of sealed records with one head have the same records. -/
theorem sealed_binds {start : Text} {At : Nat → List (Text × Json) → Prop}
    {records records' : List (List (Text × Json))}
    (linked : Linked signed named hexdigest start records)
    (linked' : Linked signed named hexdigest start records')
    (counted : Counted At 1 records) (counted' : Counted At 1 records')
    (all : ∀ record ∈ records, Sealed record) (all' : ∀ record ∈ records', Sealed record)
    (places : ∀ r r', ∀ k < records.length, ∀ k' < records'.length,
      (field r "sequence").canon.joined = (field r' "sequence").canon.joined →
      At (1 + k) r → At (1 + k') r' → k = k')
    (free : CollisionFree signed hexdigest records records')
    (some : records ≠ []) (some' : records' ≠ [])
    (heads : head signed hexdigest start records = head signed hexdigest start records') :
    List.Forall₂ SameRecord records records' := by
  have agree := linked.binds_counted linked' counted counted'
    (fun r listed r' listed' => (all r listed).named_eq (all' r' listed'))
    (fun r listed r' listed' k low k' low' same => places r r' k low k' low'
      ((all r listed).members (all' r' listed') same "sequence" (by decide)))
    free some some' heads
  obtain ⟨lengths, each⟩ := List.forall₂_iff_get.1 agree
  refine List.forall₂_iff_get.2 ⟨lengths, fun i low high => ?_⟩
  exact (all _ (List.get_mem records ⟨i, low⟩)).same (all' _ (List.get_mem records' ⟨i, high⟩))
    (each i low high)

/-! ## Accepted records -/

/-- The sequence number of a record. -/
def Placed (n : Nat) (record : List (Text × Json)) : Prop :=
  field record "sequence" = .int n

theorem digest_of_canonicalDigest {record : List (Text × Json)} {digest : Text}
    (plain : (Json.obj record).Plain)
    (digested : canonicalDigest (Json.obj record).toPy = .ok digest) :
    digest = hexdigest (asciiBytes (Json.obj record).dumps) := by
  unfold canonicalDigest at digested
  rw [canonicalBytes_toPy plain] at digested
  split at digested
  · cases digested
  · rename_i payload encoded
    obtain ⟨-, -, bytes⟩ := encode_ok_iff.1 encoded
    cases digested
    rw [bytes]

theorem validateRecord_ok {runId worldId : Text} {c c' : Checked} {source : Json}
    (accepted : validateRecord runId worldId c source = .ok c') :
    ∃ record, source = .obj record ∧ Sealed record ∧ named record = c.previous ∧
      Placed c.expectedSequence record ∧ c'.expectedSequence = c.expectedSequence + 1 ∧
      c'.previous = hexdigest (signed record) := by
  unfold validateRecord at accepted
  split at accepted
  · cases accepted
  · rename_i record made
    have object : source = .obj record := (plain_toPy_eq source rootPath made).symm
    have plain : (Json.obj record).Plain := plain_ok _ _ made
    unfold checkRecord at accepted
    split at accepted
    · cases accepted
    rename_i keys
    iterate 2
      split at accepted
      · cases accepted
    split at accepted
    · cases accepted
    rename_i sequence
    split at accepted
    case h_2 => cases accepted
    split at accepted
    · cases accepted
    split at accepted
    case h_2 => cases accepted
    split at accepted
    · cases accepted
    split at accepted
    case h_2 => cases accepted
    split at accepted
    · cases accepted
    rename_i digests
    split at accepted
    · cases accepted
    rename_i previous
    split at accepted
    · cases accepted
    rename_i digest digested
    split at accepted
    · cases accepted
    rename_i hash
    cases accepted
    have taken := digest_of_canonicalDigest (plain_without plain "event_hash") digested
    have before : field record "previous_hash" = .str c.previous := not_not.1 previous
    have names : named record = c.previous := by rw [named, before]
    rw [not_or, before] at digests
    refine ⟨record, object, ?_, names, not_not.1 sequence, rfl, taken⟩
    exact
      { nodup := plain.1
        free := fun k listed => pairFree_key ((not_not.1 keys).1 listed)
        previous := by rw [before, names]
        digest := by
          rw [names]
          exact Bool.eq_true_of_not_eq_false digests.1
        hash := by
          rw [signed, ← taken]
          exact not_not.1 hash }
  · cases accepted

/-- The accepted records are a counted chain, and the loop ends with its head. -/
theorem validateFrom_linked {runId worldId : Text} {c c' : Checked} {sources : List Json}
    (accepted : validateFrom runId worldId c sources = .ok c') :
    ∃ records, sources = records.map .obj ∧ (∀ record ∈ records, Sealed record) ∧
      Linked signed named hexdigest c.previous records ∧
      Counted Placed c.expectedSequence records ∧
      c'.previous = head signed hexdigest c.previous records := by
  induction sources generalizing c with
  | nil =>
      cases accepted
      exact ⟨[], rfl, by simp, trivial, trivial, rfl⟩
  | cons source sources ih =>
      unfold validateFrom at accepted
      split at accepted
      · cases accepted
      · rename_i between checked
        obtain ⟨record, rfl, sealed, names, placed, next, after⟩ := validateRecord_ok checked
        obtain ⟨records, rfl, all, linked, counted, last⟩ := ih accepted
        rw [after] at linked last
        rw [next] at counted
        refine ⟨record :: records, rfl, List.forall_mem_cons.2 ⟨sealed, all⟩, ⟨names, linked⟩,
          ⟨placed, counted⟩, ?_⟩
        rw [HashChain.head_cons, last]

theorem validateRecords_linked {sources : List Json} {runId worldId last : Text}
    {requireTerminal : Bool}
    (accepted : validateRecords sources runId worldId requireTerminal = .ok last) :
    ∃ records, sources = records.map .obj ∧ (∀ record ∈ records, Sealed record) ∧
      Linked signed named hexdigest GENESIS_HASH records ∧ Counted Placed 1 records ∧
      last = head signed hexdigest GENESIS_HASH records := by
  unfold validateRecords at accepted
  split at accepted
  · cases accepted
  · rename_i c checked
    split at accepted
    · cases accepted
    · cases accepted
      exact validateFrom_linked checked

/-- **The head of a journal binds its records.**  Two lists that the evaluator accepts with
the same head, of whatever runs and worlds, hold records with the same members, one by one,
where no two of their signed forms share a digest. -/
theorem validateRecords_binds {runId worldId runId' worldId' last : Text}
    {terminal terminal' : Bool} {sources sources' : List Json}
    (accepted : validateRecords sources runId worldId terminal = .ok last)
    (accepted' : validateRecords sources' runId' worldId' terminal' = .ok last)
    (some : sources ≠ []) (some' : sources' ≠ []) :
    ∃ records records', sources = records.map .obj ∧ sources' = records'.map .obj ∧
      (CollisionFree signed hexdigest records records' →
        List.Forall₂ SameRecord records records') := by
  obtain ⟨records, rfl, all, linked, counted, ends⟩ := validateRecords_linked accepted
  obtain ⟨records', rfl, all', linked', counted', ends'⟩ := validateRecords_linked accepted'
  refine ⟨records, records', rfl, rfl, fun free => ?_⟩
  refine sealed_binds linked linked' counted counted' all all' ?_ free (by simpa using some)
    (by simpa using some') (ends.symm.trans ends')
  intro r r' k low k' low' same placed placed'
  rw [placed, placed'] at same
  simp only [Json.canon, Json.joined, Json.int.injEq] at same
  omega

/-! ## Spellings -/

/-- A record of run `r` and world `w`, whose only field is a text. -/
def spelledBase (t : Text) : List (Text × Json) :=
  [(txt "schema_version", .int 1), (txt "sequence", .int 1), (txt "run_id", .str (txt "r")),
    (txt "world_id", .str (txt "w")), (txt "recorded_ns", .int 1), (txt "kind", .str (txt "k")),
    (txt "fields", .obj [(txt "x", .str t)]), (txt "previous_hash", .str GENESIS_HASH)]

def spelled (t : Text) : List (Text × Json) :=
  spelledBase t ++
    [(txt "event_hash", .str (hexdigest (asciiBytes (Json.obj (spelledBase t)).dumps)))]

/-- One character. -/
def character : Text := [0x1F600]

/-- The surrogate pair that spells it. -/
def surrogatePair : Text := [0xD83D, 0xDE00]

def spelledHead : Text := hexdigest (signed (spelled character))

theorem accepted_character :
    validateRecords [.obj (spelled character)] (txt "r") (txt "w") false = .ok spelledHead := by
  decide +kernel

theorem accepted_surrogatePair :
    validateRecords [.obj (spelled surrogatePair)] (txt "r") (txt "w") false = .ok spelledHead := by
  decide +kernel

theorem signed_spelled : signed (spelled character) = signed (spelled surrogatePair) := by
  decide +kernel

/-- **Two journals with one head that are not equal**, and no two digests are the same. -/
theorem spellings_share_head :
    validateRecords [.obj (spelled character)] (txt "r") (txt "w") false = .ok spelledHead ∧
      validateRecords [.obj (spelled surrogatePair)] (txt "r") (txt "w") false = .ok spelledHead ∧
      CollisionFree signed hexdigest [spelled character] [spelled surrogatePair] ∧
      (field (spelled character) "fields").canon ≠
        (field (spelled surrogatePair) "fields").canon := by
  refine ⟨accepted_character, accepted_surrogatePair, ?_, by decide⟩
  intro r listed r' listed' _
  rw [List.mem_singleton.1 listed, List.mem_singleton.1 listed', signed_spelled]

end InstrumentBench.Fibsem.Journal
