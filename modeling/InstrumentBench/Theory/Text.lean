/-
# Theory.Text -- Python text and bytes

A Python `str` is a sequence of code points, and it may hold lone surrogates:
`json.loads` and `surrogatepass` both produce them.  `Text` is that sequence,
so no text the programs can hold is missing from the model.  `Bytes` is a byte
string.  The two conversions used by the programs are here: the strict ASCII
codec (`encodeAscii`, `decodeAscii`, which fail outside ASCII), and the UTF-8
decoder with or without the `surrogatepass` handler.

`decodeUtf8_encodeAscii` says that ASCII text survives the UTF-8 decoder, which
is all the canonical encoders rely on.
-/
import InstrumentBench.Theory.Numerals
import Mathlib.Data.List.Basic
import Mathlib.Tactic

namespace InstrumentBench.Theory

set_option autoImplicit false

/-- A Unicode code point, surrogates included. -/
abbrev CodePoint := Fin 0x110000

/-- A Python `str`. -/
abbrev Text := List CodePoint

instance lawfulBEq_codePoint : LawfulBEq CodePoint := inferInstance

instance lawfulBEq_text : LawfulBEq Text := inferInstance

/-- A Python `bytes`. -/
abbrev Bytes := List UInt8

namespace CodePoint

def ofChar (c : Char) : CodePoint :=
  ⟨c.toNat, by
    rcases c.valid with h | h
    · exact Nat.lt_trans h (by decide)
    · exact h.2⟩

def ofNat? (n : Nat) : Option CodePoint :=
  if h : n < 0x110000 then some ⟨n, h⟩ else none

/-- A byte read as the code point of the same number. -/
def ofByte (b : UInt8) : CodePoint :=
  ⟨b.toNat, Nat.lt_trans b.toNat_lt (by decide)⟩

def isHighSurrogate (c : CodePoint) : Bool := 0xD800 ≤ c.val && c.val ≤ 0xDBFF

def isLowSurrogate (c : CodePoint) : Bool := 0xDC00 ≤ c.val && c.val ≤ 0xDFFF

/-- The first UTF-16 unit of a code point past the basic plane. -/
def highSurrogate (c : CodePoint) : CodePoint :=
  ⟨0xD800 + (c.val - 0x10000) / 0x400, by omega⟩

/-- The second UTF-16 unit. -/
def lowSurrogate (c : CodePoint) : CodePoint :=
  ⟨0xDC00 + (c.val - 0x10000) % 0x400, by omega⟩

/-- The code point of a surrogate pair. -/
def joinPair (high low : CodePoint) : CodePoint :=
  Fin.ofNat 0x110000 (0x10000 + (high.val - 0xD800) * 0x400 + (low.val - 0xDC00))

theorem isHighSurrogate_iff (c : CodePoint) :
    c.isHighSurrogate = true ↔ 0xD800 ≤ c.val ∧ c.val ≤ 0xDBFF := by
  simp only [isHighSurrogate, Bool.and_eq_true, decide_eq_true_eq]

theorem isLowSurrogate_iff (c : CodePoint) :
    c.isLowSurrogate = true ↔ 0xDC00 ≤ c.val ∧ c.val ≤ 0xDFFF := by
  simp only [isLowSurrogate, Bool.and_eq_true, decide_eq_true_eq]

theorem isHighSurrogate_highSurrogate (c : CodePoint) :
    (highSurrogate c).isHighSurrogate = true := by
  have := c.isLt
  rw [isHighSurrogate_iff]
  simp only [highSurrogate]
  omega

theorem isLowSurrogate_lowSurrogate (c : CodePoint) :
    (lowSurrogate c).isLowSurrogate = true := by
  rw [isLowSurrogate_iff]
  simp only [lowSurrogate]
  omega

theorem not_low_of_high {c : CodePoint} (high : c.isHighSurrogate = true) :
    c.isLowSurrogate = false := by
  rw [isHighSurrogate_iff] at high
  rw [← Bool.not_eq_true, isLowSurrogate_iff]
  omega

theorem joinPair_surrogates {c : CodePoint} (large : 0x10000 ≤ c.val) :
    joinPair (highSurrogate c) (lowSurrogate c) = c := by
  have := c.isLt
  apply Fin.ext
  simp only [joinPair, highSurrogate, lowSurrogate, Fin.val_ofNat]
  omega

theorem joinPair_large {h l : CodePoint} (high : h.isHighSurrogate = true)
    (low : l.isLowSurrogate = true) : 0x10000 ≤ (joinPair h l).val := by
  rw [isHighSurrogate_iff] at high
  rw [isLowSurrogate_iff] at low
  simp only [joinPair, Fin.val_ofNat]
  omega

end CodePoint

/-- The text of a source literal. -/
def txt (s : String) : Text := s.toList.map CodePoint.ofChar

/-- The bytes of an ASCII source literal. -/
def ascii (s : String) : Bytes := s.toList.map fun c => UInt8.ofNat c.toNat

/-! ## ASCII -/

def Ascii (t : Text) : Prop := ∀ c ∈ t, c.val < 0x80

instance (t : Text) : Decidable (Ascii t) :=
  decidable_of_iff ((t.all fun c => c.val < 0x80) = true) (by simp [Ascii])

theorem ascii_nil : Ascii [] := by simp [Ascii]

@[simp] theorem ascii_cons {c : CodePoint} {t : Text} :
    Ascii (c :: t) ↔ c.val < 0x80 ∧ Ascii t := by
  simp [Ascii]

@[simp] theorem ascii_append {s t : Text} : Ascii (s ++ t) ↔ Ascii s ∧ Ascii t := by
  simp only [Ascii, List.mem_append]
  constructor
  · intro h
    exact ⟨fun c hc => h c (Or.inl hc), fun c hc => h c (Or.inr hc)⟩
  · rintro ⟨hs, ht⟩ c (hc | hc)
    · exact hs c hc
    · exact ht c hc

/-- Printable ASCII, space included: what `dumps` writes. -/
def Graphic (t : Text) : Prop := ∀ c ∈ t, 0x20 ≤ c.val ∧ c.val ≤ 0x7E

theorem graphic_nil : Graphic [] := by simp [Graphic]

@[simp] theorem graphic_cons {c : CodePoint} {t : Text} :
    Graphic (c :: t) ↔ (0x20 ≤ c.val ∧ c.val ≤ 0x7E) ∧ Graphic t := by
  simp [Graphic]

@[simp] theorem graphic_append {s t : Text} : Graphic (s ++ t) ↔ Graphic s ∧ Graphic t := by
  simp only [Graphic, List.mem_append]
  constructor
  · intro h
    exact ⟨fun c hc => h c (Or.inl hc), fun c hc => h c (Or.inr hc)⟩
  · rintro ⟨hs, ht⟩ c (hc | hc)
    · exact hs c hc
    · exact ht c hc

theorem Graphic.ascii {t : Text} (h : Graphic t) : Ascii t := by
  intro c hc
  have := h c hc
  omega

/-- A closed text is graphic if running the check says so. -/
theorem graphic_of_all {t : Text} (h : t.all (fun c => 0x20 ≤ c.val && c.val ≤ 0x7E) = true) :
    Graphic t := by
  simpa [Graphic] using h

/-- `str.encode("ascii")`: `none` is the `UnicodeEncodeError`. -/
def encodeAscii (t : Text) : Option Bytes :=
  if Ascii t then some (t.map fun c => UInt8.ofNat c.val) else none

/-- `bytes.decode("ascii")`: `none` is the `UnicodeDecodeError`. -/
def decodeAscii (b : Bytes) : Option Text :=
  if b.all (fun x => x.toNat < 0x80) then some (b.map CodePoint.ofByte) else none

theorem encodeAscii_of_ascii {t : Text} (h : Ascii t) :
    encodeAscii t = some (t.map fun c => UInt8.ofNat c.val) := if_pos h

theorem ofByte_ofNat {c : CodePoint} (h : c.val < 0x80) :
    CodePoint.ofByte (UInt8.ofNat c.val) = c := by
  apply Fin.ext
  simp only [CodePoint.ofByte, UInt8.toNat_ofNat']
  omega

/-- ASCII text does not start with a byte past ASCII. -/
theorem not_prefix_encoded {t : Text} (h : Ascii t) {b : UInt8} (past : 0x80 ≤ b.toNat)
    (bs : Bytes) : ¬ (b :: bs) <+: t.map fun c => UInt8.ofNat c.val := by
  cases t with
  | nil => simp
  | cons c t =>
      rw [List.map_cons, List.cons_prefix_cons]
      rintro ⟨rfl, -⟩
      have small := (ascii_cons.1 h).1
      simp only [UInt8.toNat_ofNat'] at past
      omega

/-! ## UTF-8 -/

/-- The payload of a UTF-8 continuation byte. -/
def continuation (b : UInt8) : Option Nat :=
  if 0x80 ≤ b.toNat ∧ b.toNat < 0xC0 then some (b.toNat - 0x80) else none

/-- Accept a decoded scalar of at least `least`, refusing surrogates unless they
pass. -/
def utf8Scalar (surrogatepass : Bool) (least n : Nat) : Option CodePoint :=
  if n < least then none
  else if 0xD800 ≤ n ∧ n ≤ 0xDFFF ∧ surrogatepass = false then none
  else CodePoint.ofNat? n

/-- `bytes.decode("utf-8")`, with the `surrogatepass` handler when asked for. -/
def decodeUtf8 (surrogatepass : Bool) : Bytes → Option Text
  | [] => some []
  | a :: rest =>
      if a.toNat < 0x80 then
        (decodeUtf8 surrogatepass rest).map (CodePoint.ofByte a :: ·)
      else if a.toNat < 0xC0 then none
      else if a.toNat < 0xE0 then
        match rest with
        | b :: rest => do
            let x ← continuation b
            let c ← utf8Scalar surrogatepass 0x80 ((a.toNat - 0xC0) * 64 + x)
            (decodeUtf8 surrogatepass rest).map (c :: ·)
        | _ => none
      else if a.toNat < 0xF0 then
        match rest with
        | b :: b' :: rest => do
            let x ← continuation b
            let y ← continuation b'
            let c ← utf8Scalar surrogatepass 0x800
              (((a.toNat - 0xE0) * 64 + x) * 64 + y)
            (decodeUtf8 surrogatepass rest).map (c :: ·)
        | _ => none
      else if a.toNat < 0xF8 then
        match rest with
        | b :: b' :: b'' :: rest => do
            let x ← continuation b
            let y ← continuation b'
            let z ← continuation b''
            let c ← utf8Scalar surrogatepass 0x10000
              ((((a.toNat - 0xF0) * 64 + x) * 64 + y) * 64 + z)
            (decodeUtf8 surrogatepass rest).map (c :: ·)
        | _ => none
      else none

/-- ASCII text survives the UTF-8 decoder. -/
theorem decodeUtf8_encodeAscii (pass : Bool) {t : Text} (h : Ascii t) :
    decodeUtf8 pass (t.map fun c => UInt8.ofNat c.val) = some t := by
  induction t with
  | nil => simp [decodeUtf8]
  | cons c t ih =>
      obtain ⟨hc, ht⟩ := ascii_cons.1 h
      have small : (UInt8.ofNat c.val).toNat < 0x80 := by
        simp only [UInt8.toNat_ofNat']
        omega
      rw [List.map_cons, decodeUtf8.eq_def]
      simp only [if_pos small, ih ht, Option.map_some, ofByte_ofNat hc]

end InstrumentBench.Theory
