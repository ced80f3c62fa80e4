/-
# Visa.Wire -- the values of the wire protocol and their audit forms

A request names an operation and carries a mapping of wire values.  The broker
journals an audit form of both: byte strings by digest, session tokens by digest,
and beyond the request limits only digests.  The exceptions a request can end in
are told apart by what the broker's handlers distinguish.
-/
import InstrumentBench.Theory.Json
import InstrumentBench.Theory.PyText
import InstrumentBench.Theory.Sha256

namespace InstrumentBench.Visa

set_option autoImplicit false

open InstrumentBench.Theory InstrumentBench.Theory.PyText

/-- `WireValue` -/
inductive WireValue where
  | none
  | bool (b : Bool)
  | int (i : Int)
  | float (x : Float)
  | str (t : Text)
  | bytes (b : Bytes)
  | tuple (items : List WireValue)

instance : Inhabited WireValue := ⟨.none⟩

/-- A decoded argument map. -/
abbrev Args := List (Text × WireValue)

/-- An exception, by what the broker's handlers distinguish.  `UnicodeError` is
a `ValueError`; `other` is everything no handler names. -/
inductive Raise where
  | candidate (kind : Text) (code : Int)
  | visaError (code : Int)
  | commandRejected (code : Int) (message : Text)
  | queryRejected (reason : Text) (code : Int)
  | typeError
  | valueError
  | keyError
  | other (typeName : Text)
deriving DecidableEq

/-! ## Audit forms -/

/-- `hashlib.sha256(token.encode("utf-8")).hexdigest()` -/
def tokenDigest (token : Text) : Text := hexdigest (encodeUtf8 token)

/-- `_audit_token`; `none` is `{"type": "invalid_token"}`. -/
structure AuditedToken where
  length : Nat
  sha256 : Text
deriving DecidableEq

def auditToken : Option WireValue → Option AuditedToken
  | some (.str t) => some ⟨t.length, tokenDigest t⟩
  | _ => none

/-- The token digest of a record. -/
def auditedTokenJson : Option AuditedToken → Json
  | none => .obj [(txt "type", .str (txt "invalid_token"))]
  | some t =>
      .obj [(txt "type", .str (txt "token")), (txt "length", .int t.length),
        (txt "sha256", .str t.sha256)]

mutual

/-- `_audit_value(value)` of a wire value that is not redacted. -/
def auditValue : WireValue → Json
  | .none => .null
  | .bool b => .bool b
  | .int i => .int i
  | .float x => .float x
  | .str t => .str t
  | .bytes b =>
      .obj [(txt "type", .str (txt "bytes")), (txt "length", .int b.length),
        (txt "sha256", .str (hexdigest b)), (txt "base64", .str (base64 b))]
  | .tuple items => .arr (auditItems items)

def auditItems : List WireValue → List Json
  | [] => []
  | v :: vs => auditValue v :: auditItems vs

end

/-- `_audit_mapping(args)` -/
def auditMapping (args : Args) : List (Text × Json) :=
  args.map fun kv =>
    (kv.1,
      if kv.1 = txt "session" then auditedTokenJson (auditToken (some kv.2)) else auditValue kv.2)

/-- The bytes `dispatch` accounts for a request. -/
def argumentBytes (operation : Text) (args : Args) : Nat :=
  (encodeUtf8 operation).length + (Json.dumps (.obj (auditMapping args))).length

/-- `_audit_operation`: the operation, or its digest beyond the request limits. -/
inductive AuditedOperation where
  | plain (operation : Text)
  | redacted (length utf8Length : Nat) (sha256 : Text)
deriving DecidableEq

def auditOperation (operation : Text) (redact : Bool) : AuditedOperation :=
  if redact then
    .redacted operation.length (encodeUtf8 operation).length (hexdigest (encodeUtf8 operation))
  else .plain operation

/-- The arguments of an `rpc.request` record: as `_audit_mapping` or as
`_audit_rejected_mapping` writes them. -/
inductive AuditedArgs where
  | full (args : Args)
  | redacted (entries : Nat) (keysSha256 : Text)

def auditArgs (args : Args) (redact : Bool) : AuditedArgs :=
  if redact then
    .redacted args.length
      (hexdigest (encodeUtf8 (Json.dumps (.arr ((sorted (args.map Prod.fst)).map .str)))))
  else .full args

end InstrumentBench.Visa
