/-
# Visa.Codec -- what survives the wire

A wire value is sent as its form, a tree of tagged objects.  Decoding the form of a
value spends one of the budget on each of its nodes and goes one deeper in each tuple, so
it comes back exactly within both limits (`decode_form`).

* `sendResult_exact`: a result comes back from a response exactly when it is on the wire
  and within the limits;
* `sendRequest_exact`: an argument map comes back from a request exactly when its
  arguments are, under the budget they share;
* `codec_exact`: both, with a `ProtocolError` where nothing comes back.
-/
import InstrumentBench.Visa.Framing

namespace InstrumentBench.Visa.Protocol

set_option autoImplicit false

open InstrumentBench.Theory InstrumentBench.Theory.PyText

/-! ## Wire values -/

namespace WireValue

mutual

/-- Finite floats, strings that encode and integers that a receiver loads. -/
def OnWire : WireValue → Prop
  | .int i => (decimalDigits i.natAbs).length ≤ MAX_JSON_INTEGER_DIGITS
  | .float x => x.isFinite = true
  | .str t => ScalarText t
  | .tuple items => OnWireItems items
  | _ => True

def OnWireItems : List WireValue → Prop
  | [] => True
  | v :: vs => OnWire v ∧ OnWireItems vs

end

mutual

/-- What the encoder accepts: finite floats and strings that encode. -/
def Encodable : WireValue → Prop
  | .float x => x.isFinite = true
  | .str t => ScalarText t
  | .tuple items => EncodableItems items
  | _ => True

def EncodableItems : List WireValue → Prop
  | [] => True
  | v :: vs => Encodable v ∧ EncodableItems vs

end

mutual

/-- The number of tuples around the most deeply nested node. -/
def nesting : WireValue → Nat
  | .tuple items => nestingItems items
  | _ => 0

def nestingItems : List WireValue → Nat
  | [] => 0
  | v :: vs => max (nesting v + 1) (nestingItems vs)

end

mutual

def nodes : WireValue → Nat
  | .tuple items => nodesItems items + 1
  | _ => 1

def nodesItems : List WireValue → Nat
  | [] => 0
  | v :: vs => nodes v + nodesItems vs

end

mutual

/-- The JSON form of a value. -/
def form : WireValue → Json
  | .none => .null
  | .bool b => .bool b
  | .int i => .int i
  | .float x => .float x
  | .str t => .str t
  | .bytes b => .obj [(txt "type", .str (txt "bytes")), (txt "base64", .str (base64 b))]
  | .tuple items => .obj [(txt "type", .str (txt "list")), (txt "items", .arr (formItems items))]

def formItems : List WireValue → List Json
  | [] => []
  | v :: vs => form v :: formItems vs

end

end WireValue

open WireValue

/-! ## Encoding -/

theorem requireUtf8_scalar {t : Text} (scalar : ScalarText t) : requireUtf8 t = .ok () := by
  unfold requireUtf8 encodeUtf8?
  rw [if_pos scalar]
  rfl

theorem requireUtf8_refused {t : Text} (surrogate : ¬ ScalarText t) :
    Refused (requireUtf8 t) := by
  unfold requireUtf8 encodeUtf8?
  rw [if_neg surrogate]
  exact refused_protocolError _

mutual

theorem encode_encodable : ∀ v : WireValue, Encodable v → encodeWireValue v = .ok (form v)
  | .none, _ | .bool _, _ | .int _, _ | .bytes _, _ => rfl
  | .float x, finite => if_pos finite
  | .str t, scalar => by
      rw [encodeWireValue, requireUtf8_scalar scalar]
      rfl
  | .tuple items, encodable => by
      rw [encodeWireValue, encodeItems_encodable items encodable]
      rfl

theorem encodeItems_encodable :
    ∀ vs : List WireValue, EncodableItems vs → encodeWireItems vs = .ok (formItems vs)
  | [], _ => rfl
  | v :: vs, encodable => by
      rw [encodeWireItems, encode_encodable v encodable.1, encodeItems_encodable vs encodable.2]
      rfl

end

mutual

theorem encode_refused : ∀ v : WireValue, ¬ Encodable v → Refused (encodeWireValue v)
  | .none, bad | .bool _, bad | .int _, bad | .bytes _, bad => absurd trivial bad
  | .float x, infinite => by
      rw [encodeWireValue, if_neg (show ¬ x.isFinite = true from infinite)]
      exact refused_protocolError _
  | .str t, surrogate => by
      rw [encodeWireValue]
      exact (requireUtf8_refused surrogate).map _
  | .tuple items, bad => by
      rw [encodeWireValue]
      exact (encodeItems_refused items bad).map _

theorem encodeItems_refused :
    ∀ vs : List WireValue, ¬ EncodableItems vs → Refused (encodeWireItems vs)
  | [], bad => absurd trivial bad
  | v :: vs, bad => by
      rw [encodeWireItems]
      by_cases first : Encodable v
      · rw [encode_encodable v first]
        obtain ⟨message, later⟩ := encodeItems_refused vs fun others => bad ⟨first, others⟩
        rw [later]
        exact ⟨message, rfl⟩
      · obtain ⟨message, refused⟩ := encode_refused v first
        rw [refused]
        exact ⟨message, rfl⟩

end

/-! ## Decoding -/

theorem canon_bytesForm (b : Bytes) :
    (form (.bytes b)).canon =
      .obj [(txt "base64", .str (base64 b)), (txt "type", .str (txt "bytes"))] := by
  rfl

theorem canon_tupleForm (items : List WireValue) :
    (form (.tuple items)).canon =
      .obj [(txt "items", .arr (Json.canonItems (formItems items))),
        (txt "type", .str (txt "list"))] := by
  rfl

/-- Decoding within the limits gives the value and takes its nodes from the budget. -/
def Decodes {α : Type} (v : α) (depth nodes budget : Nat) (result : Except Failure (α × Nat)) :
    Prop :=
  (depth ≤ MAX_WIRE_DEPTH ∧ nodes ≤ budget → result = .ok (v, budget - nodes)) ∧
    (¬ (depth ≤ MAX_WIRE_DEPTH ∧ nodes ≤ budget) → Refused result)

theorem spend_eq (depth budget : Nat) :
    (∃ left, spend depth budget = .ok left ∧ depth ≤ MAX_WIRE_DEPTH ∧ budget = left + 1) ∨
      (Refused (spend depth budget) ∧ ¬ (depth ≤ MAX_WIRE_DEPTH ∧ 1 ≤ budget)) := by
  unfold spend
  split
  · rename_i deep
    exact .inr ⟨refused_protocolError _, by omega⟩
  · cases budget with
    | zero => exact .inr ⟨refused_protocolError _, by omega⟩
    | succ left => exact .inl ⟨left, rfl, by omega, rfl⟩

theorem decode_bytes (b : Bytes) (depth budget : Nat) :
    decodeWireValue (.obj [(txt "base64", .str (base64 b)), (txt "type", .str (txt "bytes"))])
      depth budget = (spend depth budget).map fun left => (.bytes b, left) := by
  rw [decodeWireValue]
  cases spend depth budget with
  | error e => rfl
  | ok left =>
      have tag : [(txt "base64", Json.str (base64 b)), (txt "type", .str (txt "bytes"))].lookup
        (txt "type") = some (.str (txt "bytes")) := rfl
      have keys : hasKeys [(txt "base64", Json.str (base64 b)), (txt "type", .str (txt "bytes"))]
        ["type", "base64"] = true := rfl
      have text : [(txt "base64", Json.str (base64 b)), (txt "type", .str (txt "bytes"))].lookup
        (txt "base64") = some (.str (base64 b)) := rfl
      simp only [tag, keys, text, if_true, base64Decode_base64]
      rfl

theorem decode_tuple (items : List Json) (depth budget : Nat) :
    decodeWireValue (.obj [(txt "items", .arr items), (txt "type", .str (txt "list"))])
      depth budget =
      match spend depth budget with
      | .error e => .error e
      | .ok left =>
          match decodeWireItems items (depth + 1) left with
          | .error e => .error e
          | .ok (items, left) => .ok (.tuple items, left) := by
  rw [decodeWireValue]
  cases spend depth budget with
  | error e => rfl
  | ok left =>
      have tag : [(txt "items", Json.arr items), (txt "type", .str (txt "list"))].lookup
        (txt "type") = some (.str (txt "list")) := rfl
      have keys : hasKeys [(txt "items", Json.arr items), (txt "type", .str (txt "list"))]
        ["type", "items"] = true := rfl
      simp only [tag, keys, if_true, if_neg (show ¬ txt "list" = txt "bytes" by decide)]
      split
      · rename_i sent found
        cases found
        rfl
      · rename_i other
        exact absurd rfl (other items)

/-- A value that is no object. -/
theorem decode_atom {w : WireValue} {v : Json} (depth budget : Nat)
    (atom : ∀ left, spend depth budget = .ok left → decodeWireValue v depth budget = .ok (w, left))
    (refused : ∀ e, spend depth budget = .error e → decodeWireValue v depth budget = .error e) :
    Decodes w depth 1 budget (decodeWireValue v depth budget) := by
  rcases spend_eq depth budget with ⟨left, spent, shallow, rfl⟩ | ⟨⟨message, broke⟩, past⟩
  · refine ⟨fun _ => atom left spent, fun outside => absurd ⟨shallow, by omega⟩ outside⟩
  · refine ⟨fun inside => absurd inside past, fun _ => ⟨message, refused _ broke⟩⟩

mutual

/-- **The form of a value decodes exactly within the limits.** -/
theorem decode_form : ∀ (v : WireValue) (depth budget : Nat), Encodable v →
    Decodes v (depth + nesting v) (nodes v) budget
      (decodeWireValue (form v).canon depth budget)
  | .none, depth, budget, _ => by
      refine decode_atom depth budget ?_ ?_
      · intro left spent
        rw [form, Json.canon, decodeWireValue, spent]
      · intro e broke
        rw [form, Json.canon, decodeWireValue, broke]
  | .bool b, depth, budget, _ => by
      refine decode_atom depth budget ?_ ?_
      · intro left spent
        rw [form, Json.canon, decodeWireValue, spent]
      · intro e broke
        rw [form, Json.canon, decodeWireValue, broke]
  | .int i, depth, budget, _ => by
      refine decode_atom depth budget ?_ ?_
      · intro left spent
        rw [form, Json.canon, decodeWireValue, spent]
      · intro e broke
        rw [form, Json.canon, decodeWireValue, broke]
  | .float x, depth, budget, finite => by
      refine decode_atom depth budget ?_ ?_
      · intro left spent
        rw [form, Json.canon, decodeWireValue, spent]
        exact if_pos finite
      · intro e broke
        rw [form, Json.canon, decodeWireValue, broke]
  | .str t, depth, budget, scalar => by
      refine decode_atom depth budget ?_ ?_
      · intro left spent
        rw [form, Json.canon, decodeWireValue, spent]
        dsimp only
        rw [requireUtf8_scalar scalar]
        rfl
      · intro e broke
        rw [form, Json.canon, decodeWireValue, broke]
  | .bytes b, depth, budget, _ => by
      refine decode_atom depth budget ?_ ?_
      · intro left spent
        rw [canon_bytesForm, decode_bytes, spent]
        rfl
      · intro e broke
        rw [canon_bytesForm, decode_bytes, broke]
        rfl
  | .tuple items, depth, budget, encodable => by
      rw [canon_tupleForm, decode_tuple, nesting, nodes]
      rcases spend_eq depth budget with ⟨left, spent, shallow, rfl⟩ | ⟨⟨message, broke⟩, past⟩
      · rw [spent]
        dsimp only
        obtain ⟨within, beyond⟩ := decode_formItems items depth left shallow encodable
        constructor
        · rintro ⟨nested, counted⟩
          rw [within ⟨nested, by omega⟩]
          show Except.ok (_, _) = Except.ok (_, _)
          rw [Nat.add_sub_add_right]
        · intro outside
          obtain ⟨message, refused⟩ := beyond fun inside => outside ⟨inside.1, by omega⟩
          rw [refused]
          exact ⟨message, rfl⟩
      · rw [broke]
        exact ⟨fun inside => absurd ⟨by omega, by omega⟩ past, fun _ => ⟨message, rfl⟩⟩

/-- The items of a tuple at `depth`. -/
theorem decode_formItems : ∀ (vs : List WireValue) (depth budget : Nat), depth ≤ MAX_WIRE_DEPTH →
    EncodableItems vs → Decodes vs (depth + nestingItems vs) (nodesItems vs) budget
      (decodeWireItems (Json.canonItems (formItems vs)) (depth + 1) budget)
  | [], depth, budget, shallow, _ => by
      refine ⟨fun _ => ?_, fun outside => absurd ⟨shallow, by simp [nodesItems]⟩ outside⟩
      rw [formItems, Json.canonItems, decodeWireItems]
      rfl
  | v :: vs, depth, budget, shallow, encodable => by
      obtain ⟨within, beyond⟩ := decode_form v (depth + 1) budget encodable.1
      rw [formItems, Json.canonItems, decodeWireItems, nestingItems, nodesItems]
      by_cases first : depth + 1 + nesting v ≤ MAX_WIRE_DEPTH ∧ nodes v ≤ budget
      · rw [within first]
        dsimp only
        obtain ⟨within, beyond⟩ := decode_formItems vs depth (budget - nodes v) shallow encodable.2
        constructor
        · rintro ⟨nested, counted⟩
          rw [within ⟨by omega, by omega⟩]
          show Except.ok (_, _) = Except.ok (_, _)
          rw [Nat.sub_sub]
        · intro outside
          obtain ⟨message, refused⟩ := beyond fun inside => outside ⟨by omega, by omega⟩
          rw [refused]
          exact ⟨message, rfl⟩
      · obtain ⟨message, refused⟩ := beyond first
        rw [refused]
        exact ⟨fun inside => absurd ⟨by omega, by omega⟩ first, fun _ => ⟨message, rfl⟩⟩

end

/-! ## Forms -/

theorem ascii_base64 (b : Bytes) : Ascii (base64 b) := by
  have char : ∀ n, (base64Char n).val < 0x80 := by
    intro n
    have every : ∀ i : Fin 64, (base64Char i.val).val < 0x80 := by decide +kernel
    have := every ⟨n % 64, by omega⟩
    rwa [base64Char_mod] at this
  induction b using base64.induct with
  | case1 => exact ascii_nil
  | case2 x =>
      rw [base64]
      exact ascii_append.2 ⟨by simp [char, ascii_nil], by decide⟩
  | case3 x y =>
      rw [base64]
      exact ascii_append.2 ⟨by simp [char, ascii_nil], by decide⟩
  | case4 x y z rest ih =>
      rw [base64]
      exact ascii_append.2 ⟨by simp [char, ascii_nil], ih⟩

theorem scalarText_of_ascii {t : Text} (ascii : Ascii t) : ScalarText t := by
  rintro c member ⟨low, -⟩
  have := ascii c member
  omega

mutual

theorem finite_form : ∀ v : WireValue, Encodable v → (form v).finite = true
  | .none, _ | .bool _, _ | .int _, _ | .str _, _ | .bytes _, _ => rfl
  | .float _, finite => finite
  | .tuple items, encodable => by
      show (Json.finiteItems (formItems items) && true) = true
      rw [finite_formItems items encodable]
      rfl

theorem finite_formItems :
    ∀ vs : List WireValue, EncodableItems vs → Json.finiteItems (formItems vs) = true
  | [], _ => rfl
  | v :: vs, encodable => by
      rw [formItems, Json.finiteItems, finite_form v encodable.1, finite_formItems vs encodable.2]
      rfl

end

mutual

theorem allText_form : ∀ v : WireValue, Encodable v → (form v).AllText ScalarText
  | .none, _ | .bool _, _ | .int _, _ | .float _, _ => trivial
  | .str _, scalar => scalar
  | .bytes b, _ =>
      ⟨by decide, (by decide : ScalarText (txt "bytes")), by decide, scalarText_of_ascii (ascii_base64 b), trivial⟩
  | .tuple items, encodable =>
      ⟨by decide, (by decide : ScalarText (txt "list")), by decide, allText_formItems items encodable, trivial⟩

theorem allText_formItems :
    ∀ vs : List WireValue, EncodableItems vs → Json.AllTextItems ScalarText (formItems vs)
  | [], _ => trivial
  | v :: vs, encodable => ⟨allText_form v encodable.1, allText_formItems vs encodable.2⟩

end

mutual

theorem distinct_form : ∀ v : WireValue, (form v).Distinct
  | .none | .bool _ | .int _ | .float _ | .str _ => trivial
  | .bytes _ => ⟨by simp [Json.keys]; decide, trivial, trivial, trivial⟩
  | .tuple items => ⟨by simp [Json.keys]; decide, trivial, distinct_formItems items, trivial⟩

theorem distinct_formItems : ∀ vs : List WireValue, Json.DistinctItems (formItems vs)
  | [] => trivial
  | v :: vs => ⟨distinct_form v, distinct_formItems vs⟩

end

mutual

/-- What is on the wire is what is encoded and has no integer too long. -/
theorem onWire_iff : ∀ v : WireValue, OnWire v ↔
    Encodable v ∧ (form v).integersWithin MAX_JSON_INTEGER_DIGITS = true
  | .none | .bool _ | .bytes _ => iff_of_true trivial ⟨trivial, rfl⟩
  | .float _ | .str _ => (and_iff_left rfl).symm
  | .int i => by
      refine Iff.trans ?_ (and_iff_right trivial).symm
      simp [OnWire, form, Json.integersWithin]
  | .tuple items => by
      show OnWireItems items ↔ EncodableItems items ∧
        (Json.integersWithinItems MAX_JSON_INTEGER_DIGITS (formItems items) && true) = true
      rw [Bool.and_true]
      exact onWireItems_iff items

theorem onWireItems_iff : ∀ vs : List WireValue, OnWireItems vs ↔ EncodableItems vs ∧
    Json.integersWithinItems MAX_JSON_INTEGER_DIGITS (formItems vs) = true
  | [] => iff_of_true trivial ⟨trivial, rfl⟩
  | v :: vs => by
      rw [OnWireItems, EncodableItems, formItems, Json.integersWithinItems, Bool.and_eq_true,
        onWire_iff v, onWireItems_iff vs]
      exact and_and_and_comm

end

/-! ## Exchanges -/

/-- How a network hands over the bytes it is given. -/
structure Delivery where
  deliver : Bytes → ChunkStream
  whole : ∀ b, (deliver b).bytes = b

/-- A message is encoded, and what is received of it is decoded. -/
def exchange {α : Type} (d : Delivery) (message : Message)
    (decode : Message → Except Failure α) : Except Failure α :=
  match encodeMessage message with
  | .error e => .error e
  | .ok frame =>
      match recvMessage (d.deliver frame) with
      | .error e => .error e
      | .ok (received, _) => decode received

/-- **A message that can be written is exchanged, in key order, exactly when it fits and
its integers are short.** -/
theorem exchange_writable {α : Type} (d : Delivery) {message : Message}
    (distinct : (Json.obj message).Distinct) (finite : (Json.obj message).finite = true)
    (scalar : (Json.obj message).AllText ScalarText) (decode : Message → Except Failure α) :
    ((payloadBytes message).length ≤ MAX_FRAME_BYTES ∧
        (Json.obj message).integersWithin MAX_JSON_INTEGER_DIGITS = true →
      exchange d message decode = decode (inKeyOrder message)) ∧
    (¬ ((payloadBytes message).length ≤ MAX_FRAME_BYTES ∧
        (Json.obj message).integersWithin MAX_JSON_INTEGER_DIGITS = true) →
      Refused (exchange d message decode)) := by
  unfold exchange
  by_cases digits : (Json.obj message).withinDigits = true
  · have made := payloadOf_writable finite digits scalar
    obtain ⟨small, large⟩ := encodeMessage_writable made
    by_cases fits : (payloadBytes message).length ≤ MAX_FRAME_BYTES
    · rw [small fits]
      have arrives := d.whole (lengthHeader (payloadBytes message).length ++ payloadBytes message)
      rw [← List.append_nil (lengthHeader _ ++ _)] at arrives
      obtain ⟨left, -, received⟩ := recvMessage_frame (payloadBytes_ne_nil message) fits arrives
      rw [List.append_nil, loadPayload_payloadOf distinct made] at received
      dsimp only
      rw [received]
      by_cases short : (Json.obj message).integersWithin MAX_JSON_INTEGER_DIGITS = true
      · rw [if_pos short]
        exact ⟨fun _ => rfl, fun outside => absurd ⟨fits, short⟩ outside⟩
      · rw [if_neg short]
        exact ⟨fun inside => absurd inside.2 short, fun _ => ⟨_, rfl⟩⟩
    · obtain ⟨reason, refused⟩ := large fits
      rw [refused]
      exact ⟨fun inside => absurd inside.1 fits, fun _ => ⟨reason, rfl⟩⟩
  · have refused : encodeMessage message = protocolError "message is not canonical JSON" := by
      unfold encodeMessage payloadOf
      rw [finite, Bool.eq_false_iff.2 digits]
      rfl
    rw [refused]
    refine ⟨fun inside => absurd ?_ digits, fun _ => ⟨_, rfl⟩⟩
    exact Json.withinDigits_of_integersWithin (by decide) _ inside.2

/-! ## Responses -/

/-- The status of a response. -/
def statusForm : Option Int → Json
  | some code => .int code
  | none => .null

/-- The message of a successful response. -/
def responseForm (requestId : Int) (result : WireValue) (status : Option Int) : Message :=
  [(txt "version", .int PROTOCOL_VERSION), (txt "request_id", .int requestId),
    (txt "ok", .bool true), (txt "result", form result), (txt "status", statusForm status)]

/-- A result is sent as a response and decoded where the response is awaited. -/
def sendResult (d : Delivery) (requestId : Int) (result : WireValue) (status : Option Int) :
    Except Failure (WireValue × Option Int) :=
  match successResponse requestId result status with
  | .error e => .error e
  | .ok message => exchange d message fun received => decodeResponse received requestId

/-- What a response carries: a result on the wire within the limits of nodes and nesting,
under an id and a status that load, in a frame that fits. -/
structure ResponseCarried (requestId : Int) (result : WireValue) (status : Option Int) :
    Prop where
  id : 0 < requestId
  idDigits : (decimalDigits requestId.natAbs).length ≤ MAX_JSON_INTEGER_DIGITS
  statusDigits : ∀ code, status = some code →
    (decimalDigits code.natAbs).length ≤ MAX_JSON_INTEGER_DIGITS
  wired : OnWire result
  nested : nesting result ≤ MAX_WIRE_DEPTH
  counted : nodes result ≤ MAX_WIRE_ITEMS
  fits : (payloadBytes (responseForm requestId result status)).length ≤ MAX_FRAME_BYTES

/-- The response as it is received. -/
def receivedResponse (requestId : Int) (result status : Json) : Message :=
  [(txt "ok", .bool true), (txt "request_id", .int requestId), (txt "result", result),
    (txt "status", status), (txt "version", .int PROTOCOL_VERSION)]

theorem decodeResponse_received {requestId : Int} (positive : 0 < requestId) (result : Json)
    (status : Option Int) :
    decodeResponse (receivedResponse requestId result (statusForm status)) requestId =
      (decodeWireValue result 0 MAX_WIRE_ITEMS).map fun decoded => (decoded.1, status) := by
  have shape : ["version", "request_id", "ok"].all (fun name =>
      (Json.keys (receivedResponse requestId result (statusForm status))).contains (txt name)) =
        true := rfl
  have version : member (receivedResponse requestId result (statusForm status)) "version" =
    .int PROTOCOL_VERSION := rfl
  have id : validRequestId (member (receivedResponse requestId result (statusForm status))
    "request_id") = some requestId := if_pos positive
  have ok : member (receivedResponse requestId result (statusForm status)) "ok" = .bool true := rfl
  have keys : hasKeys (receivedResponse requestId result (statusForm status))
    ["version", "request_id", "ok", "result", "status"] = true := rfl
  have code : member (receivedResponse requestId result (statusForm status)) "status" =
    statusForm status := rfl
  have inner : member (receivedResponse requestId result (statusForm status)) "result" = result :=
    rfl
  unfold decodeResponse
  rw [if_neg (not_not.2 shape), if_neg (not_not.2 version), if_neg (not_not.2 id), ok]
  dsimp only
  rw [if_neg (not_not.2 keys), code, inner]
  cases status <;> rfl

theorem inKeyOrder_responseForm (requestId : Int) (result : WireValue) (status : Option Int) :
    inKeyOrder (responseForm requestId result status) =
      receivedResponse requestId (form result).canon (statusForm status) := by
  cases status <;> rfl

theorem integersWithin_responseForm (requestId : Int) (result : WireValue)
    (status : Option Int) :
    (Json.obj (responseForm requestId result status)).integersWithin MAX_JSON_INTEGER_DIGITS =
        true ↔
      (decimalDigits requestId.natAbs).length ≤ MAX_JSON_INTEGER_DIGITS ∧
        (form result).integersWithin MAX_JSON_INTEGER_DIGITS = true ∧
          ∀ code, status = some code →
            (decimalDigits code.natAbs).length ≤ MAX_JSON_INTEGER_DIGITS := by
  have version : (Json.int PROTOCOL_VERSION).integersWithin MAX_JSON_INTEGER_DIGITS = true := by
    decide
  simp only [responseForm, Json.integersWithin, Json.integersWithinFields, Bool.and_eq_true,
    decide_eq_true_eq, and_true, true_and] at version ⊢
  cases status with
  | none => simp [statusForm, Json.integersWithin, version]
  | some code => simp [statusForm, Json.integersWithin, version]

theorem successResponse_encodable {requestId : Int} (positive : 0 < requestId)
    {result : WireValue} (encodable : Encodable result) (status : Option Int) :
    successResponse requestId result status = .ok (responseForm requestId result status) := by
  unfold successResponse
  rw [if_neg (not_not.2 positive), encode_encodable result encodable]
  cases status <;> rfl

theorem distinct_responseForm (requestId : Int) (result : WireValue) (status : Option Int) :
    (Json.obj (responseForm requestId result status)).Distinct := by
  have keys : (Json.keys (responseForm requestId result status)).Nodup :=
    (by decide : [txt "version", txt "request_id", txt "ok", txt "result", txt "status"].Nodup)
  refine ⟨keys, trivial, trivial, trivial, distinct_form result, ?_, trivial⟩
  cases status <;> trivial

theorem finite_responseForm (requestId : Int) {result : WireValue} (encodable : Encodable result)
    (status : Option Int) : (Json.obj (responseForm requestId result status)).finite = true := by
  have inner := finite_form result encodable
  cases status <;> simp [responseForm, Json.finite, Json.finiteFields, statusForm, inner]

theorem allText_responseForm (requestId : Int) {result : WireValue}
    (encodable : Encodable result) (status : Option Int) :
    (Json.obj (responseForm requestId result status)).AllText ScalarText := by
  refine ⟨by decide, trivial, by decide, trivial, by decide, trivial, by decide,
    allText_form result encodable, by decide, ?_, trivial⟩
  cases status <;> trivial

/-- **A result comes back exactly when the response carries it**, and fails in a
`ProtocolError` otherwise. -/
theorem sendResult_exact (d : Delivery) (requestId : Int) (result : WireValue)
    (status : Option Int) :
    (ResponseCarried requestId result status →
      sendResult d requestId result status = .ok (result, status)) ∧
    (¬ ResponseCarried requestId result status →
      Refused (sendResult d requestId result status)) := by
  by_cases positive : 0 < requestId
  case neg =>
    refine ⟨fun carried => absurd carried.id positive, fun _ => ?_⟩
    unfold sendResult successResponse
    rw [if_pos positive]
    exact ⟨_, rfl⟩
  by_cases encodable : Encodable result
  case neg =>
    refine ⟨fun carried => absurd ((onWire_iff result).1 carried.wired).1 encodable, fun _ => ?_⟩
    obtain ⟨reason, refused⟩ := encode_refused result encodable
    unfold sendResult successResponse
    rw [if_neg (not_not.2 positive), refused]
    exact ⟨reason, rfl⟩
  obtain ⟨sent, unsent⟩ := exchange_writable d (distinct_responseForm requestId result status)
    (finite_responseForm requestId encodable status)
    (allText_responseForm requestId encodable status)
    (fun received => decodeResponse received requestId)
  obtain ⟨within, beyond⟩ := decode_form result 0 MAX_WIRE_ITEMS encodable
  have integers := integersWithin_responseForm requestId result status
  unfold sendResult
  rw [successResponse_encodable positive encodable]
  dsimp only
  by_cases writable : (payloadBytes (responseForm requestId result status)).length ≤
      MAX_FRAME_BYTES ∧ (Json.obj (responseForm requestId result status)).integersWithin
        MAX_JSON_INTEGER_DIGITS = true
  case neg =>
    refine ⟨fun carried => absurd ⟨carried.fits, integers.2 ?_⟩ writable, fun _ => unsent writable⟩
    exact ⟨carried.idDigits, ((onWire_iff result).1 carried.wired).2, carried.statusDigits⟩
  rw [sent writable, inKeyOrder_responseForm, decodeResponse_received positive]
  obtain ⟨idDigits, resultDigits, statusDigits⟩ := integers.1 writable.2
  by_cases limits : 0 + nesting result ≤ MAX_WIRE_DEPTH ∧ nodes result ≤ MAX_WIRE_ITEMS
  · rw [within limits]
    refine ⟨fun _ => rfl, fun uncarried => absurd ?_ uncarried⟩
    exact ⟨positive, idDigits, statusDigits, (onWire_iff result).2 ⟨encodable, resultDigits⟩,
      by omega, limits.2, writable.1⟩
  · refine ⟨fun carried => absurd ⟨?_, carried.counted⟩ limits, fun _ => (beyond limits).map _⟩
    rw [Nat.zero_add]
    exact carried.nested

/-! ## Requests -/

/-- The forms of the arguments. -/
def argumentForms (args : Args) : Message := args.map fun entry => (entry.1, form entry.2)

/-- The same dict, in key order. -/
def sortArgs (args : Args) : Args := args.insertionSort fun a b => a.1 ≤ b.1

/-- What the arguments take from the budget: each takes one, and its nodes. -/
def argumentCost (args : Args) : Nat := (args.map fun entry => 1 + nodes entry.2).sum

theorem sortArgs_perm (args : Args) : (sortArgs args).Perm args := List.perm_insertionSort _ _

theorem argumentCost_sortArgs (args : Args) : argumentCost (sortArgs args) = argumentCost args :=
  ((sortArgs_perm args).map _).sum_eq

/-- The arguments as they are received. -/
theorem sorted_argumentForms (args : Args) :
    Json.sortFields (Json.canonFields (argumentForms args)) =
      (sortArgs args).map fun entry => (entry.1, (form entry.2).canon) := by
  rw [Json.canonFields_eq_map]
  unfold argumentForms sortArgs Json.sortFields
  rw [List.map_map]
  symm
  apply List.map_insertionSort
  intro a _ b _
  exact Iff.rfl

/-- **Arguments decode exactly within the limits**, under the budget they share. -/
theorem decodeArguments_forms (args : Args) (budget : Nat)
    (encodable : ∀ entry ∈ args, Encodable entry.2) :
    ((∀ entry ∈ args, nesting entry.2 ≤ MAX_WIRE_DEPTH) ∧ argumentCost args ≤ budget →
      decodeArguments (args.map fun entry => (entry.1, (form entry.2).canon)) budget = .ok args) ∧
    (¬ ((∀ entry ∈ args, nesting entry.2 ≤ MAX_WIRE_DEPTH) ∧ argumentCost args ≤ budget) →
      Refused (decodeArguments (args.map fun entry => (entry.1, (form entry.2).canon)) budget)) := by
  induction args generalizing budget with
  | nil => exact ⟨fun _ => rfl, fun outside => absurd ⟨by simp, Nat.zero_le _⟩ outside⟩
  | cons entry rest ih =>
      obtain ⟨k, v⟩ := entry
      have cost : argumentCost ((k, v) :: rest) = 1 + nodes v + argumentCost rest := rfl
      rw [List.map_cons, cost]
      cases budget with
      | zero =>
          refine ⟨fun inside => absurd inside.2 (by omega), fun _ => ?_⟩
          exact refused_protocolError _
      | succ budget =>
          obtain ⟨within, beyond⟩ := decode_form v 0 budget (encodable _ List.mem_cons_self)
          rw [decodeArguments]
          by_cases first : 0 + nesting v ≤ MAX_WIRE_DEPTH ∧ nodes v ≤ budget
          · rw [within first]
            dsimp only
            obtain ⟨within, beyond⟩ := ih (budget - nodes v)
              fun entry member => encodable entry (List.mem_cons_of_mem _ member)
            constructor
            · rintro ⟨nested, counted⟩
              rw [within ⟨fun entry member => nested entry (List.mem_cons_of_mem _ member),
                by omega⟩]
              rfl
            · intro outside
              refine (beyond fun inside => outside ⟨?_, by omega⟩).map _
              intro entry member
              rcases List.mem_cons.1 member with rfl | later
              · have := first.1
                rwa [Nat.zero_add] at this
              · exact inside.1 entry later
          · obtain ⟨reason, refused⟩ := beyond first
            rw [refused]
            refine ⟨fun inside => absurd ⟨?_, by omega⟩ first, fun _ => ⟨reason, rfl⟩⟩
            rw [Nat.zero_add]
            exact inside.1 _ List.mem_cons_self

theorem encodeArguments_encodable (args : Args) (encodable : ∀ entry ∈ args, Encodable entry.2) :
    encodeArguments args = .ok (argumentForms args) := by
  induction args with
  | nil => rfl
  | cons entry rest ih =>
      obtain ⟨k, v⟩ := entry
      rw [encodeArguments, encode_encodable v (encodable _ List.mem_cons_self)]
      dsimp only
      rw [ih fun entry member => encodable entry (List.mem_cons_of_mem _ member)]
      rfl

theorem encodeArguments_refused (args : Args) (bad : ¬ ∀ entry ∈ args, Encodable entry.2) :
    Refused (encodeArguments args) := by
  induction args with
  | nil => exact absurd (by simp) bad
  | cons entry rest ih =>
      obtain ⟨k, v⟩ := entry
      rw [encodeArguments]
      by_cases first : Encodable v
      · rw [encode_encodable v first]
        apply Refused.map
        apply ih
        intro others
        apply bad
        intro entry member
        rcases List.mem_cons.1 member with rfl | later
        · exact first
        · exact others entry later
      · obtain ⟨reason, refused⟩ := encode_refused v first
        rw [refused]
        exact ⟨reason, rfl⟩

theorem requireKeysUtf8_scalar {ks : List Text} (scalar : ∀ k ∈ ks, ScalarText k) :
    requireKeysUtf8 ks = .ok () := by
  induction ks with
  | nil => rfl
  | cons k ks ih =>
      rw [requireKeysUtf8, requireUtf8_scalar (scalar k List.mem_cons_self)]
      exact ih fun l member => scalar l (List.mem_cons_of_mem _ member)

theorem requireKeysUtf8_refused {ks : List Text} (surrogate : ¬ ∀ k ∈ ks, ScalarText k) :
    Refused (requireKeysUtf8 ks) := by
  induction ks with
  | nil => exact absurd (by simp) surrogate
  | cons k ks ih =>
      rw [requireKeysUtf8]
      by_cases first : ScalarText k
      · rw [requireUtf8_scalar first]
        apply ih
        intro others
        apply surrogate
        intro l member
        rcases List.mem_cons.1 member with rfl | later
        · exact first
        · exact others l later
      · obtain ⟨reason, refused⟩ := requireUtf8_refused first
        rw [refused]
        exact ⟨reason, rfl⟩

/-- The message of a request. -/
def requestForm (requestId : Int) (operation : Text) (args : Args) : Message :=
  [(txt "version", .int PROTOCOL_VERSION), (txt "request_id", .int requestId),
    (txt "operation", .str operation), (txt "args", .obj (argumentForms args))]

/-- A request is sent and decoded. -/
def sendRequest (d : Delivery) (requestId : Int) (operation : Text) (args : ArgumentMap) :
    Except Failure (Int × Text × Args) :=
  match encodeRequest requestId operation args with
  | .error e => .error e
  | .ok frame =>
      match recvMessage (d.deliver frame) with
      | .error e => .error e
      | .ok (received, _) => decodeRequest received

/-- What a request carries: named arguments on the wire, each within the nesting, all of
them within the budget, and a frame that fits. -/
structure RequestCarried (requestId : Int) (operation : Text) (args : ArgumentMap) : Prop where
  id : 0 < requestId
  idDigits : (decimalDigits requestId.natAbs).length ≤ MAX_JSON_INTEGER_DIGITS
  named : operation ≠ [] ∧ ScalarText operation
  keys : ∀ entry ∈ args.entries, entry.1 ≠ [] ∧ ScalarText entry.1
  wired : ∀ entry ∈ args.entries, OnWire entry.2
  nested : ∀ entry ∈ args.entries, nesting entry.2 ≤ MAX_WIRE_DEPTH
  counted : argumentCost args.entries ≤ MAX_WIRE_ITEMS
  fits : (payloadBytes (requestForm requestId operation args.entries)).length ≤ MAX_FRAME_BYTES

/-- What `encode_request` checks before it frames a request. -/
structure Encodes (requestId : Int) (operation : Text) (args : Args) : Prop where
  id : 0 < requestId
  named : operation ≠ [] ∧ ScalarText operation
  keys : ∀ entry ∈ args, entry.1 ≠ [] ∧ ScalarText entry.1
  encodable : ∀ entry ∈ args, Encodable entry.2

theorem encodeRequest_encodes {requestId : Int} {operation : Text} {args : ArgumentMap}
    (encodes : Encodes requestId operation args.entries) :
    encodeRequest requestId operation args =
      encodeMessage (requestForm requestId operation args.entries) := by
  have nonempty : ∀ entry ∈ args.entries, entry.1 ≠ [] :=
    fun entry member => (encodes.keys entry member).1
  have scalar : ∀ k ∈ args.entries.map Prod.fst, ScalarText k := by
    intro k member
    obtain ⟨entry, inside, rfl⟩ := List.mem_map.1 member
    exact (encodes.keys entry inside).2
  unfold encodeRequest
  rw [if_neg (not_not.2 encodes.id), if_neg encodes.named.1, requireUtf8_scalar encodes.named.2]
  dsimp only
  rw [if_neg (not_not.2 nonempty), requireKeysUtf8_scalar scalar]
  dsimp only
  rw [encodeArguments_encodable _ encodes.encodable]
  rfl

theorem encodeRequest_refused {requestId : Int} {operation : Text} {args : ArgumentMap}
    (fails : ¬ Encodes requestId operation args.entries) :
    Refused (encodeRequest requestId operation args) := by
  unfold encodeRequest
  by_cases id : 0 < requestId
  case neg => exact ⟨_, if_pos id⟩
  rw [if_neg (not_not.2 id)]
  by_cases empty : operation = []
  · exact ⟨_, if_pos empty⟩
  rw [if_neg empty]
  by_cases scalar : ScalarText operation
  case neg =>
    obtain ⟨reason, refused⟩ := requireUtf8_refused scalar
    rw [refused]
    exact ⟨reason, rfl⟩
  rw [requireUtf8_scalar scalar]
  dsimp only
  by_cases nonempty : ∀ entry ∈ args.entries, entry.1 ≠ []
  case neg => exact ⟨_, if_pos nonempty⟩
  rw [if_neg (not_not.2 nonempty)]
  by_cases keys : ∀ k ∈ args.entries.map Prod.fst, ScalarText k
  case neg =>
    obtain ⟨reason, refused⟩ := requireKeysUtf8_refused keys
    rw [refused]
    exact ⟨reason, rfl⟩
  rw [requireKeysUtf8_scalar keys]
  dsimp only
  have bad : ¬ ∀ entry ∈ args.entries, Encodable entry.2 := by
    intro encodable
    refine fails ⟨id, ⟨empty, scalar⟩, fun entry member => ⟨nonempty entry member, ?_⟩, encodable⟩
    exact keys entry.1 (List.mem_map.2 ⟨entry, member, rfl⟩)
  obtain ⟨reason, refused⟩ := encodeArguments_refused _ bad
  rw [refused]
  exact ⟨reason, rfl⟩

theorem keys_argumentForms (args : Args) :
    Json.keys (argumentForms args) = args.map Prod.fst := by
  simp [Json.keys, argumentForms]

/-- The request as it is received. -/
theorem inKeyOrder_requestForm (requestId : Int) (operation : Text) (args : Args) :
    inKeyOrder (requestForm requestId operation args) =
      [(txt "args", .obj ((sortArgs args).map fun entry => (entry.1, (form entry.2).canon))),
        (txt "operation", .str operation), (txt "request_id", .int requestId),
        (txt "version", .int PROTOCOL_VERSION)] := by
  rw [← sorted_argumentForms]
  rfl

theorem decodeRequest_received {requestId : Int} {operation : Text} {args : Message}
    (id : 0 < requestId) (named : operation ≠ [] ∧ ScalarText operation)
    (keys : ∀ entry ∈ args, entry.1 ≠ [] ∧ ScalarText entry.1) :
    decodeRequest [(txt "args", .obj args), (txt "operation", .str operation),
        (txt "request_id", .int requestId), (txt "version", .int PROTOCOL_VERSION)] =
      (decodeArguments args MAX_WIRE_ITEMS).map fun decoded => (requestId, operation, decoded) := by
  obtain ⟨c, operation, rfl⟩ : ∃ c t, operation = c :: t := List.exists_cons_of_ne_nil named.1
  generalize is : [(txt "args", Json.obj args), (txt "operation", .str (c :: operation)),
    (txt "request_id", .int requestId), (txt "version", .int PROTOCOL_VERSION)] = message
  have shape : hasKeys message ["version", "request_id", "operation", "args"] = true := by
    rw [← is]
    rfl
  have version : member message "version" = .int PROTOCOL_VERSION := by
    rw [← is]
    rfl
  have requestId' : validRequestId (member message "request_id") = some requestId := by
    rw [← is]
    exact if_pos id
  have operation' : member message "operation" = .str (c :: operation) := by
    rw [← is]
    rfl
  have args' : member message "args" = .obj args := by
    rw [← is]
    rfl
  have nonempty : ∀ entry ∈ args, entry.1 ≠ [] := fun entry member => (keys entry member).1
  have scalar : ∀ k ∈ Json.keys args, ScalarText k := by
    intro k member
    obtain ⟨entry, inside, rfl⟩ := List.mem_map.1 member
    exact (keys entry inside).2
  unfold decodeRequest
  rw [if_neg (not_not.2 shape), if_neg (not_not.2 version), requestId', operation']
  dsimp only
  rw [requireUtf8_scalar named.2, args']
  dsimp only
  rw [if_neg (not_not.2 nonempty), requireKeysUtf8_scalar scalar]

theorem integersWithin_requestForm (requestId : Int) (operation : Text) (args : Args) :
    (Json.obj (requestForm requestId operation args)).integersWithin MAX_JSON_INTEGER_DIGITS =
        true ↔
      (decimalDigits requestId.natAbs).length ≤ MAX_JSON_INTEGER_DIGITS ∧
        ∀ entry ∈ args, (form entry.2).integersWithin MAX_JSON_INTEGER_DIGITS = true := by
  have version : (Json.int PROTOCOL_VERSION).integersWithin MAX_JSON_INTEGER_DIGITS = true := by
    decide
  have inner : Json.integersWithinFields MAX_JSON_INTEGER_DIGITS (argumentForms args) = true ↔
      ∀ entry ∈ args, (form entry.2).integersWithin MAX_JSON_INTEGER_DIGITS = true := by
    rw [Json.integersWithinFields_iff]
    unfold argumentForms
    rw [List.forall_mem_map]
  simp only [requestForm, Json.integersWithin, Json.integersWithinFields, Bool.and_eq_true,
    decide_eq_true_eq, and_true, true_and] at version ⊢
  rw [inner]
  exact and_iff_right version

theorem distinct_requestForm (requestId : Int) (operation : Text) (args : ArgumentMap) :
    (Json.obj (requestForm requestId operation args.entries)).Distinct := by
  refine ⟨(by decide : [txt "version", txt "request_id", txt "operation", txt "args"].Nodup),
    trivial, trivial, trivial, ⟨?_, ?_⟩, trivial⟩
  · rw [keys_argumentForms]
    exact args.distinct
  · rw [Json.distinctFields_iff]
    intro entry member
    obtain ⟨given, -, rfl⟩ := List.mem_map.1 member
    exact distinct_form given.2

theorem finite_requestForm (requestId : Int) (operation : Text) {args : Args}
    (encodable : ∀ entry ∈ args, Encodable entry.2) :
    (Json.obj (requestForm requestId operation args)).finite = true := by
  have inner : Json.finiteFields (argumentForms args) = true := by
    rw [Json.finiteFields_iff]
    intro entry member
    obtain ⟨given, inside, rfl⟩ := List.mem_map.1 member
    exact finite_form given.2 (encodable given inside)
  simp [requestForm, Json.finite, Json.finiteFields, inner]

theorem allText_requestForm {requestId : Int} {operation : Text} {args : Args}
    (encodes : Encodes requestId operation args) :
    (Json.obj (requestForm requestId operation args)).AllText ScalarText := by
  refine ⟨by decide, trivial, by decide, trivial, by decide, encodes.named.2, by decide, ?_,
    trivial⟩
  show Json.AllTextFields ScalarText (argumentForms args)
  rw [Json.allTextFields_iff]
  intro entry member
  obtain ⟨given, inside, rfl⟩ := List.mem_map.1 member
  exact ⟨(encodes.keys given inside).2, allText_form given.2 (encodes.encodable given inside)⟩

/-- **A request comes back exactly when it carries its arguments**, as the same argument
map, and fails in a `ProtocolError` otherwise. -/
theorem sendRequest_exact (d : Delivery) (requestId : Int) (operation : Text)
    (args : ArgumentMap) :
    (RequestCarried requestId operation args →
      sendRequest d requestId operation args =
        .ok (requestId, operation, sortArgs args.entries)) ∧
    (¬ RequestCarried requestId operation args →
      Refused (sendRequest d requestId operation args)) := by
  by_cases encodes : Encodes requestId operation args.entries
  case neg =>
    constructor
    · intro carried
      refine absurd ⟨carried.id, carried.named, carried.keys, fun entry member => ?_⟩ encodes
      exact ((onWire_iff _).1 (carried.wired entry member)).1
    · intro _
      obtain ⟨reason, refused⟩ := encodeRequest_refused encodes
      unfold sendRequest
      rw [refused]
      exact ⟨reason, rfl⟩
  have sending : sendRequest d requestId operation args =
      exchange d (requestForm requestId operation args.entries) decodeRequest := by
    unfold sendRequest exchange
    rw [encodeRequest_encodes encodes]
  obtain ⟨sent, unsent⟩ := exchange_writable d (distinct_requestForm requestId operation args)
    (finite_requestForm requestId operation encodes.encodable) (allText_requestForm encodes)
    decodeRequest
  have integers := integersWithin_requestForm requestId operation args.entries
  rw [sending]
  by_cases writable : (payloadBytes (requestForm requestId operation args.entries)).length ≤
      MAX_FRAME_BYTES ∧ (Json.obj (requestForm requestId operation args.entries)).integersWithin
        MAX_JSON_INTEGER_DIGITS = true
  case neg =>
    refine ⟨fun carried => absurd ⟨carried.fits, integers.2 ⟨carried.idDigits, ?_⟩⟩ writable,
      fun _ => unsent writable⟩
    exact fun entry member => ((onWire_iff _).1 (carried.wired entry member)).2
  obtain ⟨idDigits, digits⟩ := integers.1 writable.2
  have member_iff : ∀ entry, entry ∈ sortArgs args.entries ↔ entry ∈ args.entries :=
    fun entry => (sortArgs_perm args.entries).mem_iff
  have keys : ∀ entry ∈ (sortArgs args.entries).map (fun entry => (entry.1, (form entry.2).canon)),
      entry.1 ≠ [] ∧ ScalarText entry.1 := by
    intro entry member
    obtain ⟨given, inside, rfl⟩ := List.mem_map.1 member
    exact encodes.keys given ((member_iff given).1 inside)
  rw [sent writable, inKeyOrder_requestForm, decodeRequest_received encodes.id encodes.named keys]
  obtain ⟨within, beyond⟩ := decodeArguments_forms (sortArgs args.entries) MAX_WIRE_ITEMS
    fun entry member => encodes.encodable entry ((member_iff entry).1 member)
  rw [argumentCost_sortArgs] at within beyond
  by_cases limits : (∀ entry ∈ sortArgs args.entries, nesting entry.2 ≤ MAX_WIRE_DEPTH) ∧
      argumentCost args.entries ≤ MAX_WIRE_ITEMS
  · rw [within limits]
    refine ⟨fun _ => rfl, fun uncarried => absurd ?_ uncarried⟩
    exact ⟨encodes.id, idDigits, encodes.named, encodes.keys,
      fun entry member =>
        (onWire_iff _).2 ⟨encodes.encodable entry member, digits entry member⟩,
      fun entry member => limits.1 entry ((member_iff entry).2 member), limits.2, writable.1⟩
  · refine ⟨fun carried => absurd ⟨?_, carried.counted⟩ limits, fun _ => (beyond limits).map _⟩
    exact fun entry member => carried.nested entry ((member_iff entry).1 member)

/-- **The wire codec is exact.**  A result and an argument map come back exactly when
they are on the wire and within the limits, and fail in a `ProtocolError` otherwise. -/
theorem codec_exact (d : Delivery) :
    (∀ requestId result status,
      (sendResult d requestId result status = .ok (result, status) ↔
        ResponseCarried requestId result status) ∧
      (¬ ResponseCarried requestId result status →
        Refused (sendResult d requestId result status))) ∧
    ∀ requestId operation args,
      ((∃ decoded, sendRequest d requestId operation args = .ok (requestId, operation, decoded) ∧
          decoded.Perm args.entries) ↔ RequestCarried requestId operation args) ∧
      (¬ RequestCarried requestId operation args →
        Refused (sendRequest d requestId operation args)) := by
  constructor
  · intro requestId result status
    obtain ⟨returned, refused⟩ := sendResult_exact d requestId result status
    refine ⟨⟨fun same => ?_, returned⟩, refused⟩
    by_contra uncarried
    obtain ⟨reason, failed⟩ := refused uncarried
    rw [same] at failed
    cases failed
  · intro requestId operation args
    obtain ⟨returned, refused⟩ := sendRequest_exact d requestId operation args
    refine ⟨⟨?_, fun carried => ⟨_, returned carried, sortArgs_perm args.entries⟩⟩, refused⟩
    rintro ⟨decoded, same, -⟩
    by_contra uncarried
    obtain ⟨reason, failed⟩ := refused uncarried
    rw [same] at failed
    cases failed

/-- A network that hands over one byte at a time. -/
def bytewise : Delivery where
  deliver b := ⟨b.map fun x => [x], by simp⟩
  whole b := by
    show (b.map fun x => [x]).flatten = b
    induction b with
    | nil => rfl
    | cons x b ih => rw [List.map_cons, List.flatten_cons, ih, List.singleton_append]

/-- A query with a delay and a nested tuple, its keys in no order. -/
def queryArguments : ArgumentMap :=
  ⟨[(txt "message", .str (txt "*IDN?")), (txt "delay", .float 0.5),
    (txt "codes", .tuple [.int (-3), .tuple [.none, .bool true]])], by decide⟩

/-- The query and its answer are carried. -/
theorem codec_exact_query :
    sendResult bytewise 7 (.bytes [68, 77, 77]) (some 0) = .ok (.bytes [68, 77, 77], some 0) ∧
      ∃ decoded, sendRequest bytewise 7 (txt "query") queryArguments =
          .ok (7, txt "query", decoded) ∧ decoded.Perm queryArguments.entries := by
  have digits : (decimalDigits (Int.natAbs 7)).length ≤ MAX_JSON_INTEGER_DIGITS := by decide
  have texts : ∀ text ∈ ["query", "message", "delay", "codes", "*IDN?"], ScalarText (txt text) := by
    decide
  refine ⟨((codec_exact bytewise).1 7 (.bytes [68, 77, 77]) (some 0)).1.2 ?_,
    ((codec_exact bytewise).2 7 (txt "query") queryArguments).1.2 ?_⟩
  · exact
      { id := by decide
        idDigits := digits
        statusDigits := by
          intro code same
          cases same
          decide
        wired := trivial
        nested := by decide
        counted := by decide
        fits := by decide +kernel }
  · exact
      { id := by decide
        idDigits := digits
        named := ⟨by decide, texts "query" (by simp)⟩
        keys := by
          intro entry member
          simp only [queryArguments, List.mem_cons, List.not_mem_nil, or_false] at member
          rcases member with rfl | rfl | rfl
          · exact ⟨by decide, texts "message" (by simp)⟩
          · exact ⟨by decide, texts "delay" (by simp)⟩
          · exact ⟨by decide, texts "codes" (by simp)⟩
        wired := by
          intro entry member
          simp only [queryArguments, List.mem_cons, List.not_mem_nil, or_false] at member
          have three : (decimalDigits (Int.natAbs (-3))).length ≤ MAX_JSON_INTEGER_DIGITS := by
            decide
          rcases member with rfl | rfl | rfl
          · exact texts "*IDN?" (by simp)
          · show (0.5 : Float).isFinite = true
            decide +kernel
          · exact ⟨three, ⟨trivial, trivial, trivial⟩, trivial⟩
        nested := by decide
        counted := by decide
        fits := by decide +kernel }

end InstrumentBench.Visa.Protocol
