/-
# Oracle.Reconstruct -- the expected result, rebuilt from the evidence

`reconstruct` scans the evidence once.  What it takes from a record depends on the
record alone (`finding`), and each finding overwrites one slot of what was gathered
(`Gathered.note`); at the end the slots must all be filled and agree with each other
(`conclude`).
-/
import InstrumentBench.Oracle.Evidence

namespace InstrumentBench.Oracle

set_option autoImplicit false

open InstrumentBench.Theory InstrumentBench.Theory.PyText

/-! ## Failures -/

/-- What `reconstruct` raises: an `OracleError`, or an exception that escapes it. -/
inductive Failure where
  | oracle (message : Text)
  | unicodeDecode
  | value
  | index
  | overflow
deriving DecidableEq

/-- It is an `OracleError`. -/
def Failure.isOracle : Failure → Bool
  | .oracle _ => true
  | _ => false

def oracleError {α : Type} (message : String) : Except Failure α := .error (.oracle (txt message))

/-! ## Numbers -/

/-- `max(values)`: the first of the greatest. -/
def maxOf : List Float → Option Float
  | [] => none
  | x :: xs => some (xs.foldl (fun best y => if best < y then y else best) x)

/-- `min(values)` -/
def minOf : List Float → Option Float
  | [] => none
  | x :: xs => some (xs.foldl (fun best y => if y < best then y else best) x)

/-- A finite float in units of `2 ^ -1074`. -/
def units (x : Float) : Int :=
  match x.toModel.unpack with
  | .finite s m e _ =>
      let n : Int := m * 2 ^ (e + 1074).toNat
      if signBit s then -n else n
  | _ => 0

/-- The float nearest to so many units. -/
def ofUnits (n : Int) : Float :=
  let x := intDivide n.natAbs (2 ^ 1074)
  if n < 0 then -x else x

/-- `math.fsum` of finite floats, from a running total; an intermediate total past the
range is an `OverflowError`. -/
def fsumFrom (total : Int) : List Float → Option Float
  | [] => some (ofUnits total)
  | x :: xs =>
      if (ofUnits (total + units x)).isFinite then fsumFrom (total + units x) xs else none

/-- `statistics.fmean` -/
def fmean (values : List Float) : Option Float :=
  (fsumFrom 0 values).map fun total => total / Float.ofNat values.length

/-! ## Responses -/

/-- `_parse_ascii_values` -/
def parseAsciiValues (payload : Bytes) : Except Failure (List Float) :=
  let parsed := (decodeAscii payload).bind fun text =>
    ((((strip text).map fun c => if c = CodePoint.ofChar ';' then CodePoint.ofChar ',' else c
      ).splitOn (CodePoint.ofChar ',')).filter fun field => strip field ≠ []).mapM float?
  match parsed with
  | none => oracleError "malformed DMM ASCII response"
  | some values =>
      if values.isEmpty ∨ ¬ values.all Float.isFinite then
        oracleError "DMM response must contain finite values"
      else .ok values

/-- `_one_float` -/
def oneFloat (payload : Option Bytes) (label : String) : Except Failure Float :=
  match payload with
  | none => .error (.oracle (txt label ++ txt " response is missing"))
  | some payload =>
      match (decodeAscii payload).bind fun text => float? (strip text) with
      | none => .error (.oracle (txt label ++ txt " response is malformed"))
      | some value =>
          if value.isFinite then .ok value
          else .error (.oracle (txt label ++ txt " response is not finite"))

/-- `int(payload)` of bytes, whose blanks are fewer than those of a text; `none` is the
`ValueError`. -/
def intOfBytes? (payload : Bytes) : Option Int :=
  if payload.any fun b => 28 ≤ b.toNat && b.toNat ≤ 31 then none
  else (decodeAscii payload).bind int?

/-- `struct.iter_unpack("b", payload)` -/
def signedByte (b : UInt8) : Int := if b.toNat < 128 then b.toNat else b.toNat - 256

/-- `_decode_ieee_signed_bytes` -/
def decodeIeeeSignedBytes (payload : Bytes) : Except Failure (List Int) :=
  match payload with
  | hash :: count :: rest =>
      if rest = [] ∨ hash ≠ 35 then
        oracleError "scope response is not an IEEE definite-length block"
      else if ¬ (49 ≤ count.toNat ∧ count.toNat ≤ 57) then
        oracleError "scope block length-digit count is invalid"
      else
        let digits := count.toNat - 48
        if rest.length < digits then oracleError "scope block header is truncated"
        else
          match intOfBytes? (rest.take digits) with
          | none => oracleError "scope block payload length is malformed"
          | some declared =>
              if declared ≠ (rest.drop digits).length then
                oracleError "scope block payload length does not match header"
              else .ok ((rest.drop digits).map signedByte)
  | _ => oracleError "scope response is not an IEEE definite-length block"

/-! ## One record -/

/-- What a record contributes. -/
inductive Finding where
  | identity (role identity : Text) (resource : Option Text)
  | awgPoints (points : List Float)
  | dmmSamples (samples : List Float)
  | ymult (x : Float)
  | yoff (x : Float)
  | yzero (x : Float)
  | scopeBlock (block : Bytes)
deriving DecidableEq

/-- The points of a `DATA:ARB` command. -/
def uploadedPoints (command : Text) : Except Failure (List Float) :=
  match secondWord command with
  | none => .error .index
  | some body =>
      match splitOnce (CodePoint.ofChar ',') body with
      | none => .error .value
      | some (_, rawPoints) =>
          match (rawPoints.splitOn (CodePoint.ofChar ',')).mapM float? with
          | none => .error .value
          | some points => .ok points

/-- The branches of the loop of `reconstruct` for the measuring commands. -/
def measured (role : Option Text) (command : Text) (response : Option Bytes) :
    Except Failure (Option Finding) :=
  let upper := upper command
  if isRole "awg" role ∧ startsWith "DATA:ARB " upper then
    (uploadedPoints command).map fun points => some (.awgPoints points)
  else if isRole "dmm" role ∧ (upper = txt "READ?" ∨ upper = txt "FETC?") then
    match response with
    | none => oracleError "DMM acquisition has no hidden response"
    | some response => (parseAsciiValues response).map fun samples => some (.dmmSamples samples)
  else if isRole "scope" role ∧ upper = txt "WFMOUTPRE:YMULT?" then
    (oneFloat response "YMULT").map fun x => some (.ymult x)
  else if isRole "scope" role ∧ upper = txt "WFMOUTPRE:YOFF?" then
    (oneFloat response "YOFF").map fun x => some (.yoff x)
  else if isRole "scope" role ∧ upper = txt "WFMOUTPRE:YZERO?" then
    (oneFloat response "YZERO").map fun x => some (.yzero x)
  else if isRole "scope" role ∧ upper = txt "CURVE?" then
    match response with
    | none => oracleError "scope acquisition has no hidden response"
    | some response => .ok (some (.scopeBlock response))
  else .ok none

/-- The branches of the loop, for a stripped command. -/
def findingOf (role resource : Option Text) (command : Text) (response : Option Bytes) :
    Except Failure (Option Finding) :=
  match role.filter (fun role => role ∈ roles ∧ upper command = txt "*IDN?"), response with
  | some role, some response =>
      match decodeAscii response with
      | none => .error .unicodeDecode
      | some text => .ok (some (.identity role (strip text) resource))
  | _, _ => measured role command response

/-- What one record contributes, or raises. -/
def finding (record : EvidenceEvent) : Except Failure (Option Finding) :=
  if record.operation = txt "write" then
    match record.request with
    | none => .ok none
    | some request =>
        match decodeAscii request with
        | none => .error .unicodeDecode
        | some text => findingOf record.role record.resource (strip text) record.response
  else .ok none

/-! ## The scan -/

/-- The locals of `reconstruct`. -/
structure Gathered where
  identities : List (Text × Text)
  resources : List (Text × Text)
  awgPoints : Option (List Float)
  dmmSamples : Option (List Float)
  scopeBlock : Option Bytes
  ymult : Option Float
  yoff : Option Float
  yzero : Option Float
deriving DecidableEq

namespace Gathered

def empty : Gathered := ⟨[], [], none, none, none, none, none, none⟩

def note (g : Gathered) : Finding → Gathered
  | .identity role identity resource =>
      { g with
        identities := PyDict.set role identity g.identities
        resources := match resource with
          | some resource => PyDict.set role resource g.resources
          | none => g.resources }
  | .awgPoints points => { g with awgPoints := some points }
  | .dmmSamples samples => { g with dmmSamples := some samples }
  | .ymult x => { g with ymult := some x }
  | .yoff x => { g with yoff := some x }
  | .yzero x => { g with yzero := some x }
  | .scopeBlock block => { g with scopeBlock := some block }

/-- One turn of the loop. -/
def scan (g : Gathered) (record : EvidenceEvent) : Except Failure Gathered :=
  (finding record).map fun found => found.elim g g.note

end Gathered

/-- The bounds of a world that decide its device. -/
structure Acceptance where
  gainMin : Float
  gainMax : Float
  crossErrorMaxV : Float

structure OracleResult where
  identities : List (Text × Text)
  resources : List (Text × Text)
  awgPointsV : List Float
  dmmSamplesV : List Float
  scopeRawCodes : List Int
  scopeVoltagesV : List Float
  dmmAverageV : Float
  scopePeakToPeakV : Float
  gain : Float
  maxScopeDmmErrorV : Float
  decision : Bool
deriving DecidableEq

/-- The derived values of a complete measurement. -/
def derive (spec : Acceptance) (g : Gathered) (awgPoints dmmSamples scopeVoltages : List Float)
    (rawCodes : List Int) : Except Failure OracleResult :=
  match maxOf awgPoints, minOf awgPoints, maxOf scopeVoltages, minOf scopeVoltages,
    maxOf ((scopeVoltages.zip dmmSamples).map fun p => (p.1 - p.2).abs) with
  | some inputHigh, some inputLow, some scopeHigh, some scopeLow, some crossError =>
      let inputPeakToPeak := inputHigh - inputLow
      if inputPeakToPeak ≤ 0 then oracleError "AWG waveform has no amplitude"
      else
        let scopePeakToPeak := scopeHigh - scopeLow
        let gain := scopePeakToPeak / inputPeakToPeak
        match fmean dmmSamples with
        | none => .error .overflow
        | some average =>
            .ok {
              identities := g.identities
              resources := g.resources
              awgPointsV := awgPoints
              dmmSamplesV := dmmSamples
              scopeRawCodes := rawCodes
              scopeVoltagesV := scopeVoltages
              dmmAverageV := average
              scopePeakToPeakV := scopePeakToPeak
              gain
              maxScopeDmmErrorV := crossError
              decision := spec.gainMin ≤ gain && gain ≤ spec.gainMax &&
                crossError ≤ spec.crossErrorMaxV }
  | _, _, _, _, _ => .error .value

/-- The checks after the loop. -/
def conclude (spec : Acceptance) (g : Gathered) : Except Failure OracleResult :=
  if ¬ roles.all fun role => (g.identities.lookup role).isSome then
    oracleError "not all five target identities are present"
  else
    match g.awgPoints.filter fun points => 2 ≤ points.length with
    | none => oracleError "uploaded AWG waveform is unavailable"
    | some awgPoints =>
        match g.dmmSamples.filter fun samples => !samples.isEmpty with
        | none => oracleError "DMM samples are unavailable"
        | some dmmSamples =>
            match g.scopeBlock with
            | none => oracleError "scope block is unavailable"
            | some block =>
                match g.ymult, g.yoff, g.yzero with
                | some ymult, some yoff, some yzero =>
                    match decodeIeeeSignedBytes block with
                    | .error e => .error e
                    | .ok rawCodes =>
                        let scopeVoltages := rawCodes.map fun code =>
                          (Float.ofInt code - yoff) * ymult + yzero
                        if scopeVoltages.length ≠ dmmSamples.length then
                          oracleError "DMM and scope sample counts differ"
                        else derive spec g awgPoints dmmSamples scopeVoltages rawCodes
                | _, _, _ => oracleError "scope preamble is incomplete"

/-- `reconstruct` -/
def reconstruct (evidence : List EvidenceEvent) (spec : Acceptance) :
    Except Failure OracleResult := do
  conclude spec (← evidence.foldlM Gathered.scan .empty)

end InstrumentBench.Oracle
