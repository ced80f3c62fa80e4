/-
# Oracle.Evidence -- what the graders read of an evidence record

The gateway of the first benchmark and the projection of the second yield records of
one shape.  The constraint checks and the oracle look at these fields of it only; the
two maps below read them off the records of either source.
-/
import InstrumentBench.Gateway.Server
import InstrumentBench.Visa.Projection

namespace InstrumentBench.Oracle

set_option autoImplicit false

open InstrumentBench.Theory InstrumentBench.Theory.PyText

/-- `EvidenceEvent`, with the request and the response decoded from their base64 forms
and the two outputs of `state_after`. -/
structure EvidenceEvent where
  sequence : Int
  operation : Text
  sessionDigest : Option Text
  resource : Option Text
  role : Option Text
  request : Option Bytes
  response : Option Bytes
  psuOutputAfter : Bool
  awgOutputAfter : Bool
  outcome : Text
  cleanupSource : Option Text
deriving DecidableEq

namespace EvidenceEvent

/-- The instrument took the command. -/
def accepted (record : EvidenceEvent) : Bool := record.outcome = txt "ok"

/-- A record of the gateway. -/
def ofGateway (e : Gateway.EvidenceEvent) : EvidenceEvent where
  sequence := e.sequence
  operation := e.operation
  sessionDigest := e.sessionDigest
  resource := e.resource
  role := e.role
  request := e.request
  response := e.response
  psuOutputAfter := e.stateAfter.psuOutput
  awgOutputAfter := e.stateAfter.awgOutput
  outcome := e.outcome
  cleanupSource := e.cleanupSource

def cleanupText : Visa.CleanupSource → Text
  | .candidate => txt "candidate"
  | .forced => txt "forced"

/-- A record of the projection. -/
def ofProjected (e : Visa.EvidenceEvent) : EvidenceEvent where
  sequence := e.sequence
  operation := e.operation
  sessionDigest := e.sessionDigest
  resource := e.resource
  role := e.role
  request := e.request
  response := e.response
  psuOutputAfter := e.stateAfter.psuOutput
  awgOutputAfter := e.stateAfter.awgOutput
  outcome := e.outcome
  cleanupSource := e.cleanupSource.map cleanupText

end EvidenceEvent

/-- `text.startswith(prefix)` -/
def startsWith (start : String) (t : Text) : Bool := (txt start).isPrefixOf t

/-- `record.role == role` -/
def isRole (role : String) (r : Option Text) : Bool := r = some (txt role)

/-- The five target roles. -/
def roles : List Text := [txt "switch", txt "psu", txt "awg", txt "dmm", txt "scope"]

end InstrumentBench.Oracle
