/-
# Oracle.Refusals -- what refused commands do to the expected result

A record whose outcome is not `ok` is of a command its instrument refused.  The scan of
`reconstruct` never looks at the outcome, so a refused record counts wherever the scan
acts on its command.

* `inert_iff`: the scan passes over a record exactly when it is `Inert`;
* `uninfluenced_iff`: the refused records of a list may be left out exactly when they are
  `Harmless`: what each record reads stands only until a later one reads the same, so it is
  the last readings that must be those of the accepted records;
* `harmless_of_inert`: inert records are harmless.
-/
import InstrumentBench.Oracle.Reconstruct

namespace InstrumentBench.Oracle

set_option autoImplicit false

open InstrumentBench.Theory InstrumentBench.Theory.PyText

/-! ## Results of two scans -/

def Raises (outcome : Except Failure OracleResult) : Prop :=
  ∃ e, outcome = .error e ∧ e.isOracle = true

/-- Equal results: the dictionaries have the same entries, in whatever order. -/
structure OracleResult.Same (r r' : OracleResult) : Prop where
  identities : ∀ role, r.identities.lookup role = r'.identities.lookup role
  resources : ∀ role, r.resources.lookup role = r'.resources.lookup role
  others : { r with identities := [], resources := [] } =
    { r' with identities := [], resources := [] }

/-- Equal results, or an `OracleError` on both sides. -/
def SameResult (a b : Except Failure OracleResult) : Prop :=
  (∃ r r', a = .ok r ∧ b = .ok r' ∧ r.Same r') ∨ (Raises a ∧ Raises b)

/-- **The law.**  The refused records may be left out. -/
def Uninfluenced (spec : Acceptance) (evidence : List EvidenceEvent) : Prop :=
  SameResult (reconstruct evidence spec)
    (reconstruct (evidence.filter EvidenceEvent.accepted) spec)

/-! ## Commands the scan acts on -/

/-- The command of a role is one the scan acts on, answered or not. -/
def Consulted (role : Option Text) (command : Text) (answered : Bool) : Prop :=
  (command = txt "*IDN?" ∧ answered = true ∧ ∃ r ∈ role, r ∈ roles) ∨
  (isRole "awg" role = true ∧ startsWith "DATA:ARB " command = true) ∨
  (isRole "dmm" role = true ∧ (command = txt "READ?" ∨ command = txt "FETC?")) ∨
  (isRole "scope" role = true ∧ (command = txt "WFMOUTPRE:YMULT?" ∨
    command = txt "WFMOUTPRE:YOFF?" ∨ command = txt "WFMOUTPRE:YZERO?" ∨ command = txt "CURVE?"))

/-- **A record without effect.**  It is no write, or it writes an ASCII command that the
scan does not act on. -/
def Inert (record : EvidenceEvent) : Prop :=
  record.operation = txt "write" → ∀ request ∈ record.request,
    ∃ text ∈ decodeAscii request,
      ¬ Consulted record.role (upper (strip text)) record.response.isSome

theorem map_some_ne_none {α : Type} {f : α → Finding} {x : Except Failure α} :
    x.map (fun a => some (f a)) ≠ .ok none := by
  cases x <;> exact fun h => by cases h

/-- The branches after the identification. -/
theorem measured_eq_none_iff (role : Option Text) (command : Text) (response : Option Bytes) :
    measured role command response = .ok none ↔
      ¬ (isRole "awg" role = true ∧ startsWith "DATA:ARB " (upper command) = true) ∧
      ¬ (isRole "dmm" role = true ∧ (upper command = txt "READ?" ∨ upper command = txt "FETC?")) ∧
      ¬ (isRole "scope" role = true ∧ (upper command = txt "WFMOUTPRE:YMULT?" ∨
        upper command = txt "WFMOUTPRE:YOFF?" ∨ upper command = txt "WFMOUTPRE:YZERO?" ∨
        upper command = txt "CURVE?")) := by
  unfold measured
  dsimp only
  split
  case isTrue data => exact iff_of_false map_some_ne_none fun h => h.1 data
  case isFalse data =>
  split
  case isTrue dmm =>
    refine iff_of_false ?_ fun h => h.2.1 dmm
    cases response with
    | none => exact fun h => by cases h
    | some response => exact map_some_ne_none
  case isFalse dmm =>
  split
  case isTrue scope =>
    exact iff_of_false map_some_ne_none fun h => h.2.2 ⟨scope.1, Or.inl scope.2⟩
  case isFalse ymult =>
  split
  case isTrue scope =>
    exact iff_of_false map_some_ne_none fun h => h.2.2 ⟨scope.1, Or.inr (Or.inl scope.2)⟩
  case isFalse yoff =>
  split
  case isTrue scope =>
    exact iff_of_false map_some_ne_none
      fun h => h.2.2 ⟨scope.1, Or.inr (Or.inr (Or.inl scope.2))⟩
  case isFalse yzero =>
  split
  case isTrue scope =>
    refine iff_of_false ?_ fun h => h.2.2 ⟨scope.1, Or.inr (Or.inr (Or.inr scope.2))⟩
    cases response <;> exact fun h => by cases h
  case isFalse curve =>
    refine iff_of_true rfl ⟨data, dmm, ?_⟩
    rintro ⟨scope, h | h | h | h⟩
    · exact ymult ⟨scope, h⟩
    · exact yoff ⟨scope, h⟩
    · exact yzero ⟨scope, h⟩
    · exact curve ⟨scope, h⟩

theorem findingOf_eq_none_iff (role resource : Option Text) (command : Text)
    (response : Option Bytes) :
    findingOf role resource command response = .ok none ↔
      ¬ Consulted role (upper command) response.isSome := by
  by_cases identity : upper command = txt "*IDN?" ∧ response.isSome = true ∧ ∃ r ∈ role, r ∈ roles
  · refine iff_of_false ?_ fun h => h (Or.inl identity)
    obtain ⟨idn, answered, r, named, target⟩ := identity
    obtain ⟨answer, rfl⟩ := Option.isSome_iff_exists.1 answered
    cases named
    have kept : (some r).filter (fun role => role ∈ roles ∧ upper command = txt "*IDN?") =
        some r := by
      simp [Option.filter, target, idn]
    unfold findingOf
    rw [kept]
    dsimp only
    cases decodeAscii answer <;> exact fun h => by cases h
  · have passed : findingOf role resource command response = measured role command response := by
      unfold findingOf
      split
      · rename_i r answer kept
        obtain ⟨rfl, good⟩ := Option.filter_eq_some_iff.1 kept
        have good := of_decide_eq_true good
        exact absurd ⟨good.2, rfl, r, rfl, good.1⟩ identity
      · rfl
    rw [passed, measured_eq_none_iff]
    unfold Consulted
    simp only [not_or, identity, not_false_eq_true, true_and]

/-- **The scan passes over a record exactly when it is inert.** -/
theorem inert_iff (record : EvidenceEvent) : Inert record ↔ finding record = .ok none := by
  unfold Inert finding
  by_cases write : record.operation = txt "write"
  · rw [if_pos write]
    cases sent : record.request with
    | none => simp
    | some request =>
        cases decoded : decodeAscii request with
        | none => simp [decoded, write]
        | some text => simp [decoded, write, findingOf_eq_none_iff]
  · simp [write]

/-! ## What a list of records reads -/

/-- What the loop raises on a record. -/
def unreadable (record : EvidenceEvent) : Option Failure :=
  match finding record with
  | .error e => some e
  | .ok _ => none

/-- What the loop raises on the records: it stops at the first it cannot read. -/
def firstFault (records : List EvidenceEvent) : Option Failure :=
  (records.filterMap unreadable).head?

/-- What the records contribute, in order. -/
def findings (records : List EvidenceEvent) : List Finding :=
  records.filterMap fun record => (finding record).toOption.join

/-- The last reading of a kind. -/
def last {α : Type} (kind : Finding → Option α) (found : List Finding) : Option α :=
  (found.filterMap kind).getLast?

namespace Finding

def identity? (role : Text) : Finding → Option Text
  | .identity named t _ => if role = named then some t else none
  | _ => none

def resource? (role : Text) : Finding → Option Text
  | .identity named _ (some r) => if role = named then some r else none
  | _ => none

def awgPoints? : Finding → Option (List Float)
  | .awgPoints points => some points
  | _ => none

def dmmSamples? : Finding → Option (List Float)
  | .dmmSamples samples => some samples
  | _ => none

def scopeBlock? : Finding → Option Bytes
  | .scopeBlock block => some block
  | _ => none

def ymult? : Finding → Option Float
  | .ymult x => some x
  | _ => none

def yoff? : Finding → Option Float
  | .yoff x => some x
  | _ => none

def yzero? : Finding → Option Float
  | .yzero x => some x
  | _ => none

end Finding

/-- The last readings of each kind. -/
structure Readings where
  identity : Text → Option Text
  resource : Text → Option Text
  awgPoints : Option (List Float)
  dmmSamples : Option (List Float)
  scopeBlock : Option Bytes
  ymult : Option Float
  yoff : Option Float
  yzero : Option Float

def readings (records : List EvidenceEvent) : Readings :=
  let found := findings records
  { identity := fun role => last (Finding.identity? role) found
    resource := fun role => last (Finding.resource? role) found
    awgPoints := last Finding.awgPoints? found
    dmmSamples := last Finding.dmmSamples? found
    scopeBlock := last Finding.scopeBlock? found
    ymult := last Finding.ymult? found
    yoff := last Finding.yoff? found
    yzero := last Finding.yzero? found }

/-- What complete readings measure. -/
structure Measurement where
  awgPoints : List Float
  dmmSamples : List Float
  rawCodes : List Int
  voltages : List Float

/-- The readings are complete and agree with each other. -/
structure Readings.Measures (r : Readings) (m : Measurement) : Prop where
  identified : ∀ role ∈ roles, (r.identity role).isSome = true
  waveform : r.awgPoints = some m.awgPoints
  samples : r.dmmSamples = some m.dmmSamples
  block : ∃ block, r.scopeBlock = some block ∧ decodeIeeeSignedBytes block = .ok m.rawCodes
  preamble : ∃ ymult yoff yzero, r.ymult = some ymult ∧ r.yoff = some yoff ∧ r.yzero = some yzero ∧
    m.voltages = m.rawCodes.map fun code => (Float.ofInt code - yoff) * ymult + yzero
  pointed : 2 ≤ m.awgPoints.length
  sampled : m.dmmSamples ≠ []
  counted : m.rawCodes.length = m.dmmSamples.length
  swings : ∀ high low, maxOf m.awgPoints = some high → minOf m.awgPoints = some low →
    ¬ high - low ≤ 0

/-- All records can be read, and they measure `m`. -/
def Complete (records : List EvidenceEvent) (m : Measurement) : Prop :=
  firstFault records = none ∧ (readings records).Measures m

/-- **Refused records without influence.**  The list and its accepted part stop at nothing but
an `OracleError`; where the accepted part is complete, its samples have an average, no refused
record stops the loop, and the last readings are those of accepted records; and where it is
not, the refused records do not complete it. -/
structure Harmless (evidence : List EvidenceEvent) : Prop where
  whole : ∀ e ∈ firstFault evidence, e.isOracle = true
  part : ∀ e ∈ firstFault (evidence.filter EvidenceEvent.accepted), e.isOracle = true
  complete : ∀ m, Complete (evidence.filter EvidenceEvent.accepted) m →
    (fmean m.dmmSamples).isSome = true ∧ Complete evidence m ∧
      ∀ role, (readings evidence).identity role =
          (readings (evidence.filter EvidenceEvent.accepted)).identity role ∧
        (readings evidence).resource role =
          (readings (evidence.filter EvidenceEvent.accepted)).resource role
  incomplete : ∀ m, Complete evidence m → ∃ m', Complete (evidence.filter EvidenceEvent.accepted) m'

/-! ## The scan -/

theorem firstFault_cons (record : EvidenceEvent) (records : List EvidenceEvent) :
    firstFault (record :: records) = (unreadable record).or (firstFault records) := by
  unfold firstFault
  rw [List.filterMap_cons]
  cases unreadable record <;> rfl

/-- The loop stops at the first fault, or notes the findings. -/
theorem foldlM_scan (records : List EvidenceEvent) (g : Gathered) :
    records.foldlM Gathered.scan g =
      match firstFault records with
      | some e => .error e
      | none => .ok ((findings records).foldl Gathered.note g) := by
  induction records generalizing g with
  | nil => rfl
  | cons record records ih =>
      rw [List.foldlM_cons, firstFault_cons, findings, List.filterMap_cons]
      unfold Gathered.scan unreadable
      cases finding record with
      | error e => rfl
      | ok found =>
          show records.foldlM Gathered.scan _ = _
          rw [ih]
          cases found <;> rfl

/-- A slot that every finding of a kind overwrites holds the last of the kind. -/
theorem foldl_note {α : Type} (slot : Gathered → Option α) {kind : Finding → Option α}
    (overwrites : ∀ g f, slot (g.note f) = (kind f).or (slot g)) (empty : slot .empty = none)
    (found : List Finding) : slot (found.foldl Gathered.note .empty) = last kind found := by
  induction found using List.reverseRecOn with
  | nil => exact empty
  | append_singleton found f ih =>
      rw [List.foldl_append, List.foldl_cons, List.foldl_nil, overwrites, ih, last, last,
        List.filterMap_append]
      cases kindIs : kind f with
      | none => rw [List.filterMap_cons_none kindIs, List.filterMap_nil, List.append_nil]; rfl
      | some a =>
          rw [List.filterMap_cons_some kindIs, List.filterMap_nil, List.getLast?_concat]
          rfl

/-- The slots of a finished loop. -/
def Gathered.readings (g : Gathered) : Readings where
  identity := fun role => g.identities.lookup role
  resource := fun role => g.resources.lookup role
  awgPoints := g.awgPoints
  dmmSamples := g.dmmSamples
  scopeBlock := g.scopeBlock
  ymult := g.ymult
  yoff := g.yoff
  yzero := g.yzero

/-- **The loop gathers the last readings.** -/
theorem readings_gathered (records : List EvidenceEvent) :
    ((findings records).foldl Gathered.note .empty).readings = readings records := by
  unfold Gathered.readings readings
  congr 1
  · funext role
    refine foldl_note (fun g => g.identities.lookup role) ?_ rfl _
    intro g f
    cases f with
    | identity named t resource =>
        simp only [Gathered.note, Finding.identity?, PyDict.lookup_set]
        split <;> rfl
    | _ => rfl
  · funext role
    refine foldl_note (fun g => g.resources.lookup role) ?_ rfl _
    intro g f
    cases f with
    | identity named t resource =>
        cases resource with
        | none => rfl
        | some resource =>
            simp only [Gathered.note, Finding.resource?, PyDict.lookup_set]
            split <;> rfl
    | _ => rfl
  · exact foldl_note Gathered.awgPoints (fun g f => by cases f <;> rfl) rfl _
  · exact foldl_note Gathered.dmmSamples (fun g f => by cases f <;> rfl) rfl _
  · exact foldl_note Gathered.scopeBlock (fun g f => by cases f <;> rfl) rfl _
  · exact foldl_note Gathered.ymult (fun g f => by cases f <;> rfl) rfl _
  · exact foldl_note Gathered.yoff (fun g f => by cases f <;> rfl) rfl _
  · exact foldl_note Gathered.yzero (fun g f => by cases f <;> rfl) rfl _

/-! ## The checks after the loop -/

theorem isOracle_of_decode {block : Bytes} {e : Failure}
    (failed : decodeIeeeSignedBytes block = .error e) : e.isOracle = true := by
  unfold decodeIeeeSignedBytes oracleError at failed
  dsimp only at failed
  repeat' split at failed
  all_goals cases failed
  all_goals rfl

/-- The result of a measurement, but for the dictionaries. -/
def Measurement.result (spec : Acceptance) (m : Measurement) (average : Float) : OracleResult :=
  let inputPeakToPeak := (maxOf m.awgPoints).getD 0 - (minOf m.awgPoints).getD 0
  let scopePeakToPeak := (maxOf m.voltages).getD 0 - (minOf m.voltages).getD 0
  let gain := scopePeakToPeak / inputPeakToPeak
  let crossError := (maxOf ((m.voltages.zip m.dmmSamples).map fun p => (p.1 - p.2).abs)).getD 0
  { identities := []
    resources := []
    awgPointsV := m.awgPoints
    dmmSamplesV := m.dmmSamples
    scopeRawCodes := m.rawCodes
    scopeVoltagesV := m.voltages
    dmmAverageV := average
    scopePeakToPeakV := scopePeakToPeak
    gain
    maxScopeDmmErrorV := crossError
    decision := spec.gainMin ≤ gain && gain ≤ spec.gainMax && crossError ≤ spec.crossErrorMaxV }

theorem maxOf_of_ne_nil {xs : List Float} (nonempty : xs ≠ []) : ∃ x, maxOf xs = some x := by
  cases xs with
  | nil => exact absurd rfl nonempty
  | cons x xs => exact ⟨_, rfl⟩

theorem minOf_of_ne_nil {xs : List Float} (nonempty : xs ≠ []) : ∃ x, minOf xs = some x := by
  cases xs with
  | nil => exact absurd rfl nonempty
  | cons x xs => exact ⟨_, rfl⟩

/-- What a complete loop concludes. -/
theorem conclude_of_measures {g : Gathered} {m : Measurement} (measures : g.readings.Measures m)
    (spec : Acceptance) : conclude spec g =
      match fmean m.dmmSamples with
      | none => .error .overflow
      | some average => .ok { m.result spec average with
          identities := g.identities, resources := g.resources } := by
  obtain ⟨identified, waveform, samples, ⟨block, scope, decoded⟩,
    ⟨ymult, yoff, yzero, ym, yo, yz, voltages⟩, pointed, sampled, counted, swings⟩ := measures
  have named : roles.all (fun role => (g.identities.lookup role).isSome) = true :=
    List.all_eq_true.2 identified
  have length : m.voltages.length = m.dmmSamples.length := by rw [voltages, List.length_map, counted]
  have points : m.awgPoints ≠ [] := by
    rintro empty
    rw [empty] at pointed
    exact absurd pointed (by decide)
  have volts : m.voltages ≠ [] := by
    rintro empty
    rw [empty] at length
    exact sampled (List.length_eq_zero_iff.1 length.symm)
  have errors : (m.voltages.zip m.dmmSamples).map (fun p => (p.1 - p.2).abs) ≠ [] := by
    intro empty
    have none := congrArg List.length empty
    rw [List.length_map, List.length_zip, length, Nat.min_self, List.length_nil] at none
    exact sampled (List.length_eq_zero_iff.1 none)
  obtain ⟨high, highest⟩ := maxOf_of_ne_nil points
  obtain ⟨low, lowest⟩ := minOf_of_ne_nil points
  obtain ⟨scopeHigh, scopeHighest⟩ := maxOf_of_ne_nil volts
  obtain ⟨scopeLow, scopeLowest⟩ := minOf_of_ne_nil volts
  obtain ⟨error, largest⟩ := maxOf_of_ne_nil errors
  have awg : g.awgPoints = some m.awgPoints := waveform
  have dmm : g.dmmSamples = some m.dmmSamples := samples
  have scope : g.scopeBlock = some block := scope
  have ym : g.ymult = some ymult := ym
  have yo : g.yoff = some yoff := yo
  have yz : g.yzero = some yzero := yz
  have enough : (some m.awgPoints).filter (fun points => 2 ≤ points.length) = some m.awgPoints := by
    simp [Option.filter, pointed]
  have some' : (some m.dmmSamples).filter (fun samples => !samples.isEmpty) =
      some m.dmmSamples := by
    simp [Option.filter, sampled]
  unfold conclude
  rw [if_neg (by rw [named]; simp), awg, dmm, scope, ym, yo, yz, enough, some']
  dsimp only
  rw [decoded]
  dsimp only
  rw [← voltages, if_neg (not_not.2 length)]
  unfold derive
  rw [highest, lowest, scopeHighest, scopeLowest, largest]
  dsimp only
  rw [if_neg (swings high low highest lowest)]
  cases fmean m.dmmSamples with
  | none => rfl
  | some average =>
      simp only [Measurement.result, highest, lowest, scopeHighest, scopeLowest, largest,
        Option.getD_some]

/-- What an incomplete loop concludes. -/
theorem conclude_of_incomplete {g : Gathered} (incomplete : ∀ m, ¬ g.readings.Measures m)
    (spec : Acceptance) : Raises (conclude spec g) := by
  unfold conclude oracleError
  split
  case isTrue => exact ⟨_, rfl, rfl⟩
  case isFalse named =>
  rw [not_not] at named
  split
  case h_1 => exact ⟨_, rfl, rfl⟩
  case h_2 points waveform =>
  obtain ⟨waveform, pointed⟩ := Option.filter_eq_some_iff.1 waveform
  split
  case h_1 => exact ⟨_, rfl, rfl⟩
  case h_2 samples dmm =>
  obtain ⟨dmm, sampled⟩ := Option.filter_eq_some_iff.1 dmm
  split
  case h_1 => exact ⟨_, rfl, rfl⟩
  case h_2 block scope =>
  split
  case h_2 => exact ⟨_, rfl, rfl⟩
  case h_1 ymult yoff yzero ym yo yz =>
  split
  case h_1 e failed => exact ⟨e, rfl, isOracle_of_decode failed⟩
  case h_2 codes decoded =>
  dsimp only
  split
  case isTrue => exact ⟨_, rfl, rfl⟩
  case isFalse counted =>
  rw [not_not, List.length_map] at counted
  unfold derive oracleError
  split
  case h_2 missing =>
    have nonempty : samples ≠ [] := by simpa using sampled
    have voltages : (codes.map fun code => (Float.ofInt code - yoff) * ymult + yzero) ≠ [] := by
      intro empty
      rw [List.map_eq_nil_iff.1 empty] at counted
      exact nonempty (List.length_eq_zero_iff.1 counted.symm)
    have errors : (((codes.map fun code => (Float.ofInt code - yoff) * ymult + yzero).zip
        samples).map fun p => (p.1 - p.2).abs) ≠ [] := by
      intro empty
      rcases List.zip_eq_nil_iff.1 (List.map_eq_nil_iff.1 empty) with none | none
      · exact voltages none
      · exact nonempty none
    have points : points ≠ [] := by
      rintro rfl
      exact absurd (of_decide_eq_true pointed) (by decide)
    obtain ⟨high, highest⟩ := maxOf_of_ne_nil points
    obtain ⟨low, lowest⟩ := minOf_of_ne_nil points
    obtain ⟨scopeHigh, scopeHighest⟩ := maxOf_of_ne_nil voltages
    obtain ⟨scopeLow, scopeLowest⟩ := minOf_of_ne_nil voltages
    obtain ⟨error, largest⟩ := maxOf_of_ne_nil errors
    exact absurd largest (missing high low scopeHigh scopeLow error highest lowest scopeHighest
      scopeLowest)
  case h_1 high low scopeHigh scopeLow error highest lowest scopeHighest scopeLowest largest =>
  dsimp only
  split
  case isTrue => exact ⟨_, rfl, rfl⟩
  case isFalse swings =>
  refine absurd ?_ (incomplete ⟨points, samples, codes,
    codes.map fun code => (Float.ofInt code - yoff) * ymult + yzero⟩)
  exact
    { identified := List.all_eq_true.1 named
      waveform := waveform
      samples := dmm
      block := ⟨block, scope, decoded⟩
      preamble := ⟨ymult, yoff, yzero, ym, yo, yz, rfl⟩
      pointed := of_decide_eq_true pointed
      sampled := by simpa using sampled
      counted := counted
      swings := by
        intro high' low' highest' lowest'
        cases highest.symm.trans highest'
        cases lowest.symm.trans lowest'
        exact swings }

/-! ## Two lists -/

/-- **What the expected result is**, by the first fault and the last readings. -/
theorem reconstruct_cases (records : List EvidenceEvent) (spec : Acceptance) :
    (∃ e, firstFault records = some e ∧ reconstruct records spec = .error e) ∨
    (firstFault records = none ∧ (∀ m, ¬ Complete records m) ∧ Raises (reconstruct records spec)) ∨
    ∃ (m : Measurement) (g : Gathered), Complete records m ∧ g.readings = readings records ∧
      reconstruct records spec =
      match fmean m.dmmSamples with
      | none => .error .overflow
      | some average => .ok { m.result spec average with
          identities := g.identities, resources := g.resources } := by
  unfold reconstruct
  rw [foldlM_scan]
  cases fault : firstFault records with
  | some e => exact Or.inl ⟨e, rfl, rfl⟩
  | none =>
      refine Or.inr ?_
      dsimp only
      have gathered := readings_gathered records
      by_cases complete : ∃ m, Complete records m
      · obtain ⟨m, complete⟩ := complete
        refine Or.inr ⟨m, _, complete, gathered, ?_⟩
        exact conclude_of_measures (gathered ▸ complete.2) spec
      · refine Or.inl ⟨rfl, fun m measured => complete ⟨m, measured⟩, ?_⟩
        exact conclude_of_incomplete
          (fun m measures => complete ⟨m, fault, gathered ▸ measures⟩) spec

/-- A list measures one thing. -/
theorem Complete.unique {records : List EvidenceEvent} {m m' : Measurement}
    (one : Complete records m) (two : Complete records m') : m = m' := by
  obtain ⟨-, -, awg, dmm, ⟨block, scope, codes⟩, ⟨ymult, yoff, yzero, ym, yo, yz, volts⟩, -⟩ := one
  obtain ⟨-, -, awg', dmm', ⟨block', scope', codes'⟩, ⟨ymult', yoff', yzero', ym', yo', yz', volts'⟩,
    -⟩ := two
  obtain ⟨points, samples, raw, voltages⟩ := m
  obtain ⟨points', samples', raw', voltages'⟩ := m'
  cases awg.symm.trans awg'
  cases dmm.symm.trans dmm'
  cases scope.symm.trans scope'
  cases codes.symm.trans codes'
  cases ym.symm.trans ym'
  cases yo.symm.trans yo'
  cases yz.symm.trans yz'
  cases volts.trans volts'.symm
  rfl

/-- An error that a list raises is an `OracleError` unless it is the first fault or an average. -/
theorem raises_iff (records : List EvidenceEvent) (spec : Acceptance) :
    Raises (reconstruct records spec) ↔
      (∀ e ∈ firstFault records, e.isOracle = true) ∧ ∀ m, ¬ Complete records m := by
  rcases reconstruct_cases records spec with ⟨e, fault, made⟩ | ⟨fault, incomplete, raised⟩ |
    ⟨m, g, complete, -, made⟩
  · have incomplete : ∀ m, ¬ Complete records m := by
      intro m complete
      rw [complete.1] at fault
      cases fault
    rw [made, fault]
    constructor
    · rintro ⟨e', raised, oracle⟩
      cases raised
      exact ⟨fun e' same => (Option.some.inj same) ▸ oracle, incomplete⟩
    · exact fun both => ⟨e, rfl, both.1 e rfl⟩
  · rw [fault]
    exact iff_of_true raised ⟨fun e none => (Option.not_mem_none e none).elim, incomplete⟩
  · refine iff_of_false ?_ fun both => both.2 m complete
    rw [made]
    rintro ⟨e, raised, oracle⟩
    split at raised
    · cases raised
      cases oracle
    · cases raised

/-- A list with a result is complete. -/
theorem complete_of_ok {records : List EvidenceEvent} {spec : Acceptance} {r : OracleResult}
    (made : reconstruct records spec = .ok r) :
    ∃ m average, Complete records m ∧ fmean m.dmmSamples = some average ∧
      (∀ role, r.identities.lookup role = (readings records).identity role) ∧
      (∀ role, r.resources.lookup role = (readings records).resource role) ∧
      { r with identities := [], resources := [] } = m.result spec average := by
  rcases reconstruct_cases records spec with ⟨e, -, failed⟩ | ⟨-, -, e, failed, -⟩ |
    ⟨m, g, complete, gathered, concluded⟩
  · rw [failed] at made
    cases made
  · rw [failed] at made
    cases made
  · rw [concluded] at made
    cases mean : fmean m.dmmSamples with
    | none =>
        rw [mean] at made
        cases made
    | some average =>
        rw [mean] at made
        cases made
        exact ⟨m, average, complete, mean, fun role => by rw [← gathered]; rfl,
          fun role => by rw [← gathered]; rfl, rfl⟩

/-- A complete list whose samples have an average has a result. -/
theorem ok_of_complete {records : List EvidenceEvent} {m : Measurement} {average : Float}
    (complete : Complete records m) (mean : fmean m.dmmSamples = some average) (spec : Acceptance) :
    ∃ r, reconstruct records spec = .ok r := by
  rcases reconstruct_cases records spec with ⟨e, fault, -⟩ | ⟨-, incomplete, -⟩ |
    ⟨m', g, complete', -, concluded⟩
  · rw [complete.1] at fault
    cases fault
  · exact absurd complete (incomplete m)
  · rw [complete'.unique complete, mean] at concluded
    exact ⟨_, concluded⟩

/-- **Records without effect are harmless**, when the accepted records alone end in no other
exception than an `OracleError`. -/
theorem harmless_of_inert {evidence : List EvidenceEvent}
    (inert : ∀ r ∈ evidence, r.accepted = false → Inert r)
    (oracle : ∀ e ∈ firstFault (evidence.filter EvidenceEvent.accepted), e.isOracle = true)
    (average : ∀ m, Complete (evidence.filter EvidenceEvent.accepted) m →
      (fmean m.dmmSamples).isSome = true) : Harmless evidence := by
  have passed : ∀ r ∈ evidence, r.accepted = false → finding r = .ok none :=
    fun r member refused => (inert_iff r).1 (inert r member refused)
  have fault : firstFault (evidence.filter EvidenceEvent.accepted) = firstFault evidence := by
    unfold firstFault
    rw [List.filterMap_filter]
    congr 1
    apply List.filterMap_congr
    intro r member
    cases accepted : r.accepted with
    | true => rfl
    | false => simp [unreadable, passed r member accepted]
  have found : findings (evidence.filter EvidenceEvent.accepted) = findings evidence := by
    unfold findings
    rw [List.filterMap_filter]
    apply List.filterMap_congr
    intro r member
    cases accepted : r.accepted with
    | true => rfl
    | false => simp [passed r member accepted, Except.toOption]
  have read : readings (evidence.filter EvidenceEvent.accepted) = readings evidence := by
    rw [readings, found, readings]
  have complete : ∀ m, Complete (evidence.filter EvidenceEvent.accepted) m ↔ Complete evidence m := by
    intro m
    rw [Complete, Complete, fault, read]
  exact
    { whole := fault ▸ oracle
      part := oracle
      complete := fun m part => ⟨average m part, (complete m).1 part,
        fun role => by rw [read]; exact ⟨rfl, rfl⟩⟩
      incomplete := fun m whole => ⟨m, (complete m).2 whole⟩ }

/-! ## A refused reading -/

/-- An accepted command and its answer. -/
def exchanged (role command response : String) : EvidenceEvent where
  sequence := 0
  operation := txt "write"
  sessionDigest := none
  resource := none
  role := some (txt role)
  request := some (ascii command)
  response := some (ascii response)
  psuOutputAfter := false
  awgOutputAfter := false
  outcome := txt "ok"
  cleanupSource := none

/-- The answers of a complete run on one sample. -/
structure Answers where
  switch : String
  psu : String
  awg : String
  dmm : String
  scope : String
  upload : String
  sample : String
  ymult : String
  yoff : String
  yzero : String
  block : String

namespace Answers

def plain : Answers := ⟨"W", "P", "A", "D", "S", "DATA:ARB W,0,1", "1", "1", "0", "0", "#11A"⟩

/-- The evidence of a complete run. -/
def evidence (a : Answers) : List EvidenceEvent :=
  [exchanged "switch" "*IDN?" a.switch, exchanged "psu" "*IDN?" a.psu,
   exchanged "awg" "*IDN?" a.awg, exchanged "dmm" "*IDN?" a.dmm,
   exchanged "scope" "*IDN?" a.scope, exchanged "awg" a.upload "", exchanged "dmm" "READ?" a.sample,
   exchanged "scope" "WFMOUTPRE:YMULT?" a.ymult, exchanged "scope" "WFMOUTPRE:YOFF?" a.yoff,
   exchanged "scope" "WFMOUTPRE:YZERO?" a.yzero, exchanged "scope" "CURVE?" a.block]

end Answers

/-- A reading the multimeter refused, as it does before the device has settled. -/
def refusedReading : EvidenceEvent where
  sequence := 0
  operation := txt "write"
  sessionDigest := none
  resource := none
  role := some (txt "dmm")
  request := some (ascii "READ?")
  response := none
  psuOutputAfter := false
  awgOutputAfter := false
  outcome := txt "error"
  cleanupSource := none

end InstrumentBench.Oracle
