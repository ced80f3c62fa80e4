/-
# Theory.ZeroPadded -- numbers written with leading zeros

`str(n).zfill(width)` writes a number in a field of fixed width.  The digits of a field
name one number and a number has one field of each width (`zfill_of_digits`), and `int`
reads the number back (`int?_zfill`).
-/
import InstrumentBench.Theory.PyText

namespace InstrumentBench.Theory

set_option autoImplicit false

namespace PyText

/-! ## Runs of digits -/

/-- The text of a run of digits, read digit by digit. -/
theorem digitText_of_mapM {t : Text} {ds : List Digit} (read : t.mapM digitOf? = some ds) :
    t = digitText ds := by
  induction t generalizing ds with
  | nil =>
      cases read
      rfl
  | cons c t ih =>
      rw [List.mapM_cons] at read
      cases first : digitOf? c with
      | none =>
          rw [first] at read
          cases read
      | some d =>
          cases others : t.mapM digitOf? with
          | none =>
              rw [first, others] at read
              cases read
          | some rest =>
              rw [first, others] at read
              cases read
              have point : c = d.point := by
                unfold digitOf? at first
                split at first
                · cases first
                  apply Fin.ext
                  simp only [Digit.point]
                  omega
                · cases first
              rw [ih others, point]
              rfl

theorem ofDigits_cons (d : Digit) (ds : List Digit) :
    ofDigits (d :: ds) = d.val * 10 ^ ds.length + ofDigits ds := by
  show (d :: ds).foldl (fun n d => 10 * n + d.val) 0 = _
  rw [List.foldl_cons, foldl_digits]
  simp

theorem ofDigits_lt (ds : List Digit) : ofDigits ds < 10 ^ ds.length := by
  induction ds with
  | nil => simp [ofDigits]
  | cons d ds ih =>
      have digit := d.isLt
      rw [ofDigits_cons, List.length_cons, pow_succ]
      nlinarith

/-- **Runs of one length that spell the same number are the same run.** -/
theorem ofDigits_inj {ds es : List Digit} (same : ds.length = es.length)
    (spelled : ofDigits ds = ofDigits es) : ds = es := by
  induction ds generalizing es with
  | nil => exact (List.length_eq_zero_iff.1 same.symm).symm
  | cons d ds ih =>
      obtain ⟨e, es, rfl⟩ := List.exists_cons_of_length_eq_add_one same.symm
      have lengths : ds.length = es.length := by simpa using same
      rw [ofDigits_cons, ofDigits_cons, lengths] at spelled
      have left := ofDigits_lt ds
      have right := ofDigits_lt es
      rw [lengths] at left
      -- the first digit is the quotient, the others are the remainder
      have digit : d.val = e.val := by
        have power : 0 < 10 ^ es.length := by positivity
        have quotient := congrArg (· / 10 ^ es.length) spelled
        rw [Nat.add_comm, Nat.add_mul_div_right _ _ power, Nat.div_eq_of_lt left, Nat.add_comm,
          Nat.add_comm (e.val * _), Nat.add_mul_div_right _ _ power,
          Nat.div_eq_of_lt right] at quotient
        omega
      have others : ofDigits ds = ofDigits es := by
        rw [digit] at spelled
        omega
      rw [Fin.ext digit, ih lengths others]

/-! ## Fields -/

/-- The digits of a field. -/
def paddedDigits (width n : Nat) : List Digit :=
  List.replicate (width - (decimalDigits n).length) 0 ++ decimalDigits n

theorem zfill_natText (width n : Nat) :
    zfill width (natText n) = digitText (paddedDigits width n) := by
  unfold zfill natText paddedDigits digitText
  rw [List.map_append, List.map_replicate, List.length_map]
  rfl

theorem ofDigits_paddedDigits (width n : Nat) : ofDigits (paddedDigits width n) = n := by
  unfold paddedDigits
  generalize width - (decimalDigits n).length = zeros
  induction zeros with
  | zero => exact ofDigits_decimalDigits n
  | succ zeros ih =>
      rw [List.replicate_succ, List.cons_append, ofDigits_cons, ih]
      simp

theorem length_paddedDigits {width n : Nat} (fits : (decimalDigits n).length ≤ width) :
    (paddedDigits width n).length = width := by
  unfold paddedDigits
  rw [List.length_append, List.length_replicate]
  omega

/-- **A run of digits is the field of the number it spells.** -/
theorem zfill_of_digits {t : Text} {ds : List Digit} (given : t ≠ [])
    (read : t.mapM digitOf? = some ds) : zfill t.length (natText (ofDigits ds)) = t := by
  have text := digitText_of_mapM read
  have length : t.length = ds.length := by rw [text, digitText, List.length_map]
  have positive : 0 < ds.length := by
    rw [← length]
    exact List.length_pos_of_ne_nil given
  have fits := (length_decimalDigits_le_iff positive (ofDigits ds)).2 (ofDigits_lt ds)
  rw [zfill_natText, length]
  have same : paddedDigits ds.length (ofDigits ds) = ds := by
    apply ofDigits_inj (length_paddedDigits fits)
    exact ofDigits_paddedDigits _ _
  rw [same]
  exact text.symm

/-! ## Reading a field -/

theorem isSpace_point (d : Digit) : isSpace d.point = false := by
  revert d
  decide

theorem strip_of_ends {t : Text} (front : ∀ c ∈ t.head?, isSpace c = false)
    (back : ∀ c ∈ t.getLast?, isSpace c = false) : strip t = t := by
  have kept : ∀ s : Text, (∀ c ∈ s.head?, isSpace c = false) → s.dropWhile isSpace = s := by
    intro s first
    cases s with
    | nil => rfl
    | cons c s => simp [first c (by simp)]
  unfold strip
  rw [kept t front, kept t.reverse (by simpa using back), List.reverse_reverse]

theorem strip_digitText (ds : List Digit) : strip (digitText ds) = digitText ds := by
  have blank : ∀ c ∈ digitText ds, isSpace c = false := by
    intro c member
    obtain ⟨d, -, rfl⟩ := List.mem_map.1 member
    exact isSpace_point d
  apply strip_of_ends
  · intro c first
    exact blank c (List.mem_of_mem_head? first)
  · intro c last
    exact blank c (List.mem_of_mem_getLast? last)

theorem dropUnderscores_digitText (ds : List Digit) (afterDigit : Bool) :
    dropUnderscores afterDigit (digitText ds) = some (digitText ds) := by
  induction ds generalizing afterDigit with
  | nil => rfl
  | cons d ds ih =>
      have digit : d.point ≠ CodePoint.ofChar '_' := by
        revert d
        decide
      show dropUnderscores afterDigit (d.point :: digitText ds) = _
      unfold dropUnderscores
      rw [if_neg digit, ih]
      rfl

theorem signed_digitText (ds : List Digit) : signed (digitText ds) = (false, digitText ds) := by
  cases ds with
  | nil => rfl
  | cons d ds =>
      have minus : d.point ≠ CodePoint.ofChar '-' := by
        revert d
        decide
      have plus : d.point ≠ CodePoint.ofChar '+' := by
        revert d
        decide
      show signed (d.point :: digitText ds) = _
      rw [signed, if_neg minus, if_neg plus]
      rfl

theorem int?_digitText {ds : List Digit} (given : ds ≠ []) :
    int? (digitText ds) = some (ofDigits ds : Int) := by
  have span : spanDigits (digitText ds) = (ds, []) := by
    have ends : DigitEnd [] := by
      intro c none
      cases none
    have run := spanDigits_append ds ends
    rwa [List.append_nil] at run
  unfold int?
  rw [strip_digitText, dropUnderscores_digitText]
  dsimp only
  rw [signed_digitText]
  dsimp only
  rw [span]
  cases ds with
  | nil => exact absurd rfl given
  | cons d ds => rfl

/-- **`int` reads the number of a field.** -/
theorem int?_zfill (width n : Nat) : int? (zfill width (natText n)) = some (n : Int) := by
  have given : paddedDigits width n ≠ [] := by simp [paddedDigits, decimalDigits_ne_nil]
  rw [zfill_natText, int?_digitText given, ofDigits_paddedDigits]

end PyText

end InstrumentBench.Theory
