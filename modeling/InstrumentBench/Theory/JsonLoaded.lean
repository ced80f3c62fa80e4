/-
# Theory.JsonLoaded -- what is known of every value `json.loads` returns

A scanner leaves a suffix of the text it was given (`scanNumber_suffix`,
`scanString_suffix`, `scanKey_suffix`), so what holds of every code point of a
document holds wherever the decoder stands in it.

* `scalarText_of_decodeUtf8`: a strict decoder reads no surrogate;
* `scanString_pairFree`: a string read from text without surrogates holds no
  adjacent pair, since the escapes of a pair are joined where they are read;
* `loaded_of_loads`: so does no string of a value read from such text, and no
  integer of it is longer than `json.dumps` can write.
-/
import InstrumentBench.Theory.JsonParse
import InstrumentBench.Theory.PyText

namespace InstrumentBench.Theory

set_option autoImplicit false

open PyText (ScalarText Scalar)

/-! ## What a scanner leaves -/

theorem spanDigits_suffix (t : Text) : (spanDigits t).2 <:+ t := by
  induction t with
  | nil => exact List.suffix_rfl
  | cons c rest ih =>
      rw [spanDigits]
      split
      · exact ih.trans (List.suffix_cons c rest)
      · exact List.suffix_rfl

theorem scanSign_suffix (t : Text) : (scanSign t).2 <:+ t := by
  cases t with
  | nil => exact List.suffix_rfl
  | cons c rest =>
      rw [scanSign]
      split
      · exact List.suffix_cons c rest
      · exact List.suffix_rfl

theorem scanWhole_suffix {t rest : Text} {n : Nat} (scanned : scanWhole t = some (n, rest)) :
    rest <:+ t := by
  cases t with
  | nil => cases scanned
  | cons c cs =>
      rw [scanWhole] at scanned
      split at scanned
      · cases scanned
      · split at scanned
        · cases scanned
          exact List.suffix_cons c _
        · cases scanned
          exact (spanDigits_suffix cs).trans (List.suffix_cons c cs)

theorem scanFraction_suffix (t : Text) : (scanFraction t).2 <:+ t := by
  cases t with
  | nil => exact List.suffix_rfl
  | cons c rest =>
      rw [scanFraction]
      split
      · split
        · exact (spanDigits_suffix rest).trans (List.suffix_cons c rest)
        · exact List.suffix_rfl
      · exact List.suffix_rfl

theorem scanExponentSign_suffix (t : Text) : (scanExponentSign t).2 <:+ t := by
  cases t with
  | nil => exact List.suffix_rfl
  | cons c rest =>
      rw [scanExponentSign]
      split
      · exact List.suffix_cons c rest
      · split
        · exact List.suffix_cons c rest
        · exact List.suffix_rfl

theorem scanExponent_suffix (t : Text) : (scanExponent t).2 <:+ t := by
  cases t with
  | nil => exact List.suffix_rfl
  | cons c rest =>
      rw [scanExponent]
      split
      · dsimp only
        split
        · exact ((spanDigits_suffix _).trans (scanExponentSign_suffix rest)).trans
            (List.suffix_cons c rest)
        · exact List.suffix_rfl
      · exact List.suffix_rfl

theorem scanNumber_suffix {t rest : Text} {l : NumberLiteral}
    (scanned : scanNumber t = some (l, rest)) : rest <:+ t := by
  rw [scanNumber] at scanned
  dsimp only at scanned
  split at scanned
  · cases scanned
  · rename_i whole after found
    cases scanned
    exact (((scanExponent_suffix _).trans (scanFraction_suffix after)).trans
      (scanWhole_suffix found)).trans (scanSign_suffix t)

/-! ## Decoded text -/

theorem scalarText_of_suffix {t rest : Text} (scalar : ScalarText t) (suffix : rest <:+ t) :
    ScalarText rest :=
  fun c member => scalar c (suffix.subset member)

theorem scalar_of_utf8Scalar {least n : Nat} {c : CodePoint}
    (read : utf8Scalar false least n = some c) : Scalar c := by
  unfold utf8Scalar at read
  split at read
  · cases read
  · split at read
    · cases read
    · rename_i notSurrogate
      unfold CodePoint.ofNat? at read
      split at read
      · cases read
        exact fun surrogate => notSurrogate ⟨surrogate.1, surrogate.2, rfl⟩
      · cases read

/-- **A strict decoder reads no surrogate.** -/
theorem scalarText_of_decodeUtf8 {b : Bytes} {t : Text} (decoded : decodeUtf8 false b = some t) :
    ScalarText t := by
  fun_induction decodeUtf8 false b generalizing t with
  | case1 =>
      cases decoded
      exact PyText.scalarText_nil
  | case2 a rest small ih =>
      obtain ⟨tail, read, rfl⟩ := Option.map_eq_some_iff.1 decoded
      refine PyText.scalarText_cons.2 ⟨?_, ih read⟩
      intro surrogate
      have := surrogate.1
      simp only [CodePoint.ofByte] at this
      omega
  | case4 a _ _ _ b rest ih =>
      simp only [Option.bind_eq_bind, Option.bind_eq_some_iff] at decoded
      obtain ⟨x, -, c, scalar, decoded⟩ := decoded
      obtain ⟨tail, read, rfl⟩ := Option.map_eq_some_iff.1 decoded
      exact PyText.scalarText_cons.2 ⟨scalar_of_utf8Scalar scalar, ih read⟩
  | case6 a _ _ _ _ b b' rest ih =>
      simp only [Option.bind_eq_bind, Option.bind_eq_some_iff] at decoded
      obtain ⟨x, -, y, -, c, scalar, decoded⟩ := decoded
      obtain ⟨tail, read, rfl⟩ := Option.map_eq_some_iff.1 decoded
      exact PyText.scalarText_cons.2 ⟨scalar_of_utf8Scalar scalar, ih read⟩
  | case8 a _ _ _ _ _ b b' b'' rest ih =>
      simp only [Option.bind_eq_bind, Option.bind_eq_some_iff] at decoded
      obtain ⟨x, -, y, -, z, -, c, scalar, decoded⟩ := decoded
      obtain ⟨tail, read, rfl⟩ := Option.map_eq_some_iff.1 decoded
      exact PyText.scalarText_cons.2 ⟨scalar_of_utf8Scalar scalar, ih read⟩
  | _ => cases decoded

namespace Json

/-! ## What the decoder leaves -/

theorem skipSpace_suffix (t : Text) : skipSpace t <:+ t := by
  induction t with
  | nil => exact List.suffix_rfl
  | cons c rest ih =>
      rw [skipSpace]
      split
      · exact ih.trans (List.suffix_cons c rest)
      · exact List.suffix_rfl

theorem scanHex4_suffix {t rest : Text} {unit : CodePoint}
    (scanned : scanHex4 t = some (unit, rest)) : rest <:+ t := by
  unfold scanHex4 at scanned
  split at scanned
  · split at scanned
    · cases scanned
      exact ⟨[_, _, _, _], rfl⟩
    · cases scanned
  · cases scanned

theorem scanLow_suffix {t rest : Text} {low : CodePoint}
    (scanned : scanLow t = some (low, rest)) : rest <:+ t := by
  unfold scanLow at scanned
  split at scanned
  · split at scanned
    · split at scanned
      · rename_i after found
        split at scanned
        · cases scanned
          exact (scanHex4_suffix found).trans ⟨[_, _], rfl⟩
        · cases scanned
      · cases scanned
    · cases scanned
  · cases scanned

theorem scanUnicode_suffix {t rest : Text} {c : CodePoint}
    (scanned : scanUnicode t = some (c, rest)) : rest <:+ t := by
  unfold scanUnicode at scanned
  split at scanned
  · cases scanned
  · rename_i unit after first
    split at scanned
    · split at scanned
      · rename_i low behind second
        simp only [Option.some.injEq, Prod.mk.injEq] at scanned
        obtain ⟨-, rfl⟩ := scanned
        exact (scanLow_suffix second).trans (scanHex4_suffix first)
      · cases scanned
        exact scanHex4_suffix first
    · cases scanned
      exact scanHex4_suffix first

theorem scanChar_suffix {t rest : Text} {c : Option CodePoint}
    (scanned : scanChar t = .ok (c, rest)) : rest <:+ t := by
  unfold scanChar at scanned
  split at scanned
  · cases scanned
  · split at scanned
    · cases scanned
      exact List.suffix_cons _ _
    · split at scanned
      · split at scanned
        · cases scanned
        · split at scanned
          · split at scanned
            · rename_i found
              cases scanned
              exact (scanUnicode_suffix found).trans ⟨[_, _], rfl⟩
            · cases scanned
          · split at scanned
            · cases scanned
              exact ⟨[_, _], rfl⟩
            · cases scanned
      · split at scanned
        · cases scanned
        · cases scanned
          exact List.suffix_cons _ _

theorem scanString_suffix {fuel : Nat} {t rest cs : Text}
    (scanned : scanString fuel t = .ok (cs, rest)) : rest <:+ t := by
  induction fuel generalizing t cs with
  | zero => cases scanned
  | succ fuel ih =>
      rw [scanString] at scanned
      split at scanned
      · cases scanned
      · rename_i closing
        cases scanned
        exact scanChar_suffix closing
      · rename_i c after first
        split at scanned
        · cases scanned
        · rename_i more behind found
          cases scanned
          exact (ih found).trans (scanChar_suffix first)

theorem scanKey_suffix {t rest k : Text} (scanned : scanKey t = .ok (k, rest)) : rest <:+ t := by
  unfold scanKey at scanned
  split at scanned
  · cases scanned
  · rename_i q after
    split at scanned
    · split at scanned
      · cases scanned
      · rename_i key behind found
        split at scanned
        · rename_i c following colon
          split at scanned
          · cases scanned
            have tail : following <:+ skipSpace behind := by
              rw [colon]
              exact List.suffix_cons c following
            exact (((skipSpace_suffix following).trans tail).trans
              ((skipSpace_suffix behind).trans (scanString_suffix found))).trans
              (List.suffix_cons q after)
          · cases scanned
        · cases scanned
    · cases scanned

theorem scanAtom_suffix {t rest : Text} {v : Json} (scanned : scanAtom t = .ok (v, rest)) :
    rest <:+ t := by
  unfold scanAtom at scanned
  split at scanned
  · cases scanned
    exact List.drop_suffix 4 t
  split at scanned
  · cases scanned
    exact List.drop_suffix 4 t
  split at scanned
  · cases scanned
    exact List.drop_suffix 5 t
  split at scanned
  · rename_i l after found
    split at scanned
    · cases scanned
      exact scanNumber_suffix found
    · cases scanned
  · repeat' split at scanned
    all_goals cases scanned

/-! ## Strings of text without surrogates -/

theorem shortValue?_small {e c : CodePoint} (short : shortValue? e = some c) : c.val < 0x80 := by
  have bounds : (CodePoint.ofChar '"').val < 0x80 ∧ (CodePoint.ofChar '\\').val < 0x80 ∧
      (CodePoint.ofChar '/').val < 0x80 := by decide
  unfold shortValue? at short
  repeat' split at short
  all_goals cases short
  all_goals first | decide | (subst_vars; simp only [bounds])

/-- Only an escape spells a surrogate. -/
theorem scanChar_surrogate {t rest : Text} {c : CodePoint} (scalar : ScalarText t)
    (scanned : scanChar t = .ok (some c, rest)) (surrogate : ¬ Scalar c) :
    ∃ after, t = CodePoint.ofChar '\\' :: CodePoint.ofChar 'u' :: after ∧
      scanUnicode after = some (c, rest) := by
  unfold scanChar at scanned
  split at scanned
  · cases scanned
  · split at scanned
    · cases scanned
    · split at scanned
      · rename_i slash
        split at scanned
        · cases scanned
        · split at scanned
          · rename_i e after letter
            split at scanned
            · rename_i found
              cases scanned
              exact ⟨after, by rw [slash, letter], found⟩
            · cases scanned
          · split at scanned
            · rename_i short
              cases scanned
              have small := shortValue?_small short
              exact absurd (fun inside => by omega) surrogate
            · cases scanned
      · split at scanned
        · cases scanned
        · cases scanned
          exact absurd (scalar c List.mem_cons_self) surrogate

theorem scanUnicode_high {t rest : Text} {c : CodePoint} (scanned : scanUnicode t = some (c, rest))
    (high : c.isHighSurrogate = true) : scanLow rest = none := by
  unfold scanUnicode at scanned
  split at scanned
  · cases scanned
  · split at scanned
    · rename_i isHigh
      split at scanned
      · rename_i low behind second
        simp only [Option.some.injEq, Prod.mk.injEq] at scanned
        obtain ⟨joined, -⟩ := scanned
        have isLow : low.isLowSurrogate = true := by
          unfold scanLow at second
          repeat' split at second
          all_goals cases second
          assumption
        have large := CodePoint.joinPair_large isHigh isLow
        rw [joined] at large
        rw [CodePoint.isHighSurrogate_iff] at high
        omega
      · rename_i alone
        cases scanned
        exact alone
    · rename_i notHigh
      cases scanned
      exact absurd high notHigh

theorem scanUnicode_low {t rest : Text} {c : CodePoint} (scanned : scanUnicode t = some (c, rest))
    (low : c.isLowSurrogate = true) : scanHex4 t = some (c, rest) := by
  have bounds := (CodePoint.isLowSurrogate_iff c).1 low
  unfold scanUnicode at scanned
  split at scanned
  · cases scanned
  · rename_i unit after first
    split at scanned
    · rename_i isHigh
      have high := (CodePoint.isHighSurrogate_iff unit).1 isHigh
      split at scanned
      · rename_i second behind next
        simp only [Option.some.injEq, Prod.mk.injEq] at scanned
        obtain ⟨joined, -⟩ := scanned
        have isLow : second.isLowSurrogate = true := by
          unfold scanLow at next
          repeat' split at next
          all_goals cases next
          assumption
        have large := CodePoint.joinPair_large isHigh isLow
        rw [joined] at large
        omega
      · cases scanned
        omega
    · cases scanned
      exact first

theorem not_scalar_of_high {c : CodePoint} (high : c.isHighSurrogate = true) : ¬ Scalar c := by
  have bounds := (CodePoint.isHighSurrogate_iff c).1 high
  exact fun scalar => scalar (by omega)

theorem not_scalar_of_low {c : CodePoint} (low : c.isLowSurrogate = true) : ¬ Scalar c := by
  have bounds := (CodePoint.isLowSurrogate_iff c).1 low
  exact fun scalar => scalar (by omega)

/-- **No pair is left.**  A string read from text without surrogates is free of
adjacent pairs; where its first code point is a low surrogate, an escape of one
stood at the front. -/
theorem scanString_pairFree {fuel : Nat} {t rest cs : Text} (scalar : ScalarText t)
    (scanned : scanString fuel t = .ok (cs, rest)) :
    PairFree cs ∧ ∀ d ∈ cs.head?, d.isLowSurrogate = true → scanLow t ≠ none := by
  induction fuel generalizing t cs with
  | zero => cases scanned
  | succ fuel ih =>
      rw [scanString] at scanned
      split at scanned
      · cases scanned
      · cases scanned
        exact ⟨List.IsChain.nil, fun d first => by cases first⟩
      · rename_i c after first
        split at scanned
        · cases scanned
        · rename_i more behind found
          cases scanned
          obtain ⟨free, front⟩ := ih (scalarText_of_suffix scalar (scanChar_suffix first)) found
          constructor
          · cases more with
            | nil => exact List.IsChain.singleton c
            | cons d more =>
                refine List.IsChain.cons_cons ?_ free
                rw [← Bool.not_eq_true, Bool.and_eq_true]
                rintro ⟨high, low⟩
                obtain ⟨escaped, -, unit⟩ :=
                  scanChar_surrogate scalar first (not_scalar_of_high high)
                exact front d rfl low (scanUnicode_high unit high)
          · rintro d head low
            cases head
            obtain ⟨escaped, rfl, unit⟩ := scanChar_surrogate scalar first (not_scalar_of_low low)
            rw [scanLow, if_pos ⟨rfl, rfl⟩, scanUnicode_low unit low]
            dsimp only
            rw [if_pos low]
            exact Option.some_ne_none _

theorem scanKey_pairFree {t rest k : Text} (scalar : ScalarText t)
    (scanned : scanKey t = .ok (k, rest)) : PairFree k := by
  unfold scanKey at scanned
  split at scanned
  · cases scanned
  · split at scanned
    · split at scanned
      · cases scanned
      · rename_i key behind found
        have free := 
          (scanString_pairFree (scalarText_of_suffix scalar (List.suffix_cons _ _)) found).1
        split at scanned
        · split at scanned
          · cases scanned
            exact free
          · cases scanned
        · cases scanned
    · cases scanned

/-! ## Values -/

/-- What is known of a value read from text without surrogates. -/
def Loaded (v : Json) : Prop := v.withinDigits = true ∧ v.AllText PairFree

def LoadedItems (vs : List Json) : Prop := withinDigitsItems vs = true ∧ AllTextItems PairFree vs

def LoadedFields (fs : List (Text × Json)) : Prop :=
  withinDigitsFields fs = true ∧ AllTextFields PairFree fs

theorem loadedItems_cons {v : Json} {vs : List Json} (first : Loaded v) (rest : LoadedItems vs) :
    LoadedItems (v :: vs) :=
  ⟨by rw [withinDigitsItems, first.1, rest.1, Bool.and_true], first.2, rest.2⟩

theorem loadedFields_cons {k : Text} {v : Json} {fs : List (Text × Json)} (key : PairFree k)
    (first : Loaded v) (rest : LoadedFields fs) : LoadedFields ((k, v) :: fs) :=
  ⟨by rw [withinDigitsFields, first.1, rest.1, Bool.and_true], key, first.2, rest.2⟩

theorem loaded_numberValue {l : NumberLiteral} {v : Json} (read : numberValue l = .ok v) :
    Loaded v := by
  unfold numberValue at read
  split at read
  · cases read
    exact ⟨rfl, trivial⟩
  · split at read
    · rename_i short
      cases read
      have magnitude : l.toInt.natAbs = l.whole := by
        unfold NumberLiteral.toInt
        split <;> simp
      exact ⟨by rw [withinDigits, magnitude]; exact decide_eq_true short, trivial⟩
    · cases read

theorem loaded_scanAtom {t rest : Text} {v : Json} (scanned : scanAtom t = .ok (v, rest)) :
    Loaded v := by
  unfold scanAtom at scanned
  repeat' split at scanned
  all_goals cases scanned
  all_goals first | exact ⟨rfl, trivial⟩ | exact loaded_numberValue ‹_›

mutual

theorem loaded_scanValue : ∀ (fuel : Nat) {t : Text} {v : Json} {rest : Text}, ScalarText t →
    scanValue fuel t = .ok (v, rest) → rest <:+ t ∧ Loaded v
  | 0, _, _, _, _, scanned => by cases scanned
  | _ + 1, [], _, _, _, scanned => by cases scanned
  | fuel + 1, c :: cs, v, rest, scalar, scanned => by
      have behind := List.suffix_cons c cs
      have scalarBehind := scalarText_of_suffix scalar behind
      rw [scanValue] at scanned
      split at scanned
      · split at scanned
        · cases scanned
        · rename_i s after found
          cases scanned
          exact ⟨(scanString_suffix found).trans behind, rfl,
            (scanString_pairFree scalarBehind found).1⟩
      split at scanned
      · have opened := (skipSpace_suffix cs).trans behind
        split at scanned
        · cases scanned
        · rename_i d after inner
          rw [inner] at opened
          split at scanned
          · cases scanned
            exact ⟨(List.suffix_cons d _).trans opened, rfl, trivial⟩
          · split at scanned
            · cases scanned
            · rename_i fs left members
              split at scanned
              · cases scanned
              · rename_i w unique
                cases scanned
                obtain ⟨suffix, loaded⟩ :=
                  loaded_scanMembers fuel (scalarText_of_suffix scalar opened) members
                rw [uniqueObject_ok unique]
                exact ⟨suffix.trans opened, loaded⟩
      split at scanned
      · have opened := (skipSpace_suffix cs).trans behind
        split at scanned
        · cases scanned
        · rename_i d after inner
          rw [inner] at opened
          split at scanned
          · cases scanned
            exact ⟨(List.suffix_cons d _).trans opened, rfl, trivial⟩
          · split at scanned
            · cases scanned
            · rename_i vs left items
              cases scanned
              obtain ⟨suffix, loaded⟩ :=
                loaded_scanElements fuel (scalarText_of_suffix scalar opened) items
              exact ⟨suffix.trans opened, loaded⟩
      · exact ⟨scanAtom_suffix scanned, loaded_scanAtom scanned⟩

theorem loaded_scanMembers : ∀ (fuel : Nat) {t : Text} {fs : List (Text × Json)} {rest : Text},
    ScalarText t → scanMembers fuel t = .ok (fs, rest) → rest <:+ t ∧ LoadedFields fs
  | 0, _, _, _, _, scanned => by cases scanned
  | fuel + 1, t, fs, rest, scalar, scanned => by
      rw [scanMembers] at scanned
      split at scanned
      · cases scanned
      rename_i k colon key
      have behindKey := scanKey_suffix key
      have pairFree := scanKey_pairFree scalar key
      split at scanned
      · cases scanned
      rename_i v after first
      obtain ⟨behindFirst, loaded⟩ :=
        loaded_scanValue fuel (scalarText_of_suffix scalar behindKey) first
      have behind := (skipSpace_suffix after).trans (behindFirst.trans behindKey)
      split at scanned
      · cases scanned
      rename_i c left separator
      rw [separator] at behind
      split at scanned
      · cases scanned
        exact ⟨(List.suffix_cons c _).trans behind, loadedFields_cons pairFree loaded ⟨rfl, trivial⟩⟩
      split at scanned
      · have next := (skipSpace_suffix left).trans ((List.suffix_cons c left).trans behind)
        split at scanned
        · cases scanned
        · rename_i more following found
          cases scanned
          obtain ⟨suffix, others⟩ :=
            loaded_scanMembers fuel (scalarText_of_suffix scalar next) found
          exact ⟨suffix.trans next, loadedFields_cons pairFree loaded others⟩
      · cases scanned

theorem loaded_scanElements : ∀ (fuel : Nat) {t : Text} {vs : List Json} {rest : Text},
    ScalarText t → scanElements fuel t = .ok (vs, rest) → rest <:+ t ∧ LoadedItems vs
  | 0, _, _, _, _, scanned => by cases scanned
  | fuel + 1, t, vs, rest, scalar, scanned => by
      rw [scanElements] at scanned
      split at scanned
      · cases scanned
      rename_i v after first
      obtain ⟨behindFirst, loaded⟩ := loaded_scanValue fuel scalar first
      have behind := (skipSpace_suffix after).trans behindFirst
      split at scanned
      · cases scanned
      rename_i c left separator
      rw [separator] at behind
      split at scanned
      · cases scanned
        exact ⟨(List.suffix_cons c _).trans behind, loadedItems_cons loaded ⟨rfl, trivial⟩⟩
      split at scanned
      · have next := (skipSpace_suffix left).trans ((List.suffix_cons c left).trans behind)
        split at scanned
        · cases scanned
        · rename_i more following found
          cases scanned
          obtain ⟨suffix, others⟩ :=
            loaded_scanElements fuel (scalarText_of_suffix scalar next) found
          exact ⟨suffix.trans next, loadedItems_cons loaded others⟩
      · cases scanned

end

/-- **What `json.loads` returns** for text without surrogates can be written again, and
no string of it holds an adjacent pair. -/
theorem loaded_of_loads {t : Text} {v : Json} (scalar : ScalarText t) (loaded : loads t = .ok v) :
    Loaded v := by
  rw [loads] at loaded
  split at loaded
  · cases loaded
  · rename_i w rest scanned
    split at loaded
    · cases loaded
      exact (loaded_scanValue _ (scalarText_of_suffix scalar (skipSpace_suffix t)) scanned).2
    · cases loaded

/-- A plain value without adjacent pairs is read back as its canonical form. -/
theorem rejoin_canon {v : Json} (plain : v.Plain) (free : v.AllText PairFree) :
    rejoin v.canon = .ok v.canon :=
  rejoin_of_pairFree _ ((plain_canon v).2 plain) ((allText_canon PairFree v).2 free)

end Json

end InstrumentBench.Theory
