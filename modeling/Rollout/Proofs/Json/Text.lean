import Rollout.Json.Reader
import Rollout.Json.Writer

/-!
# Texts in JSON are read as they were written

The writer spells each character for itself: as it is, as an escape of one
letter, or as one or two escapes of 16-bit code units. The reader takes the
spelling of one character off the front in one step. It never joins the escapes
of two neighbours into one character, because a character is no surrogate and a
single unit therefore never is the first half of a pair.

## Main results

* `Json.readText_escapeChar`: one step of the reader takes one character.
* `Json.readText_flatMap_escapeChar`: so a whole text is read back.
-/

namespace Rollout

/-! ## Code units -/

theorem Hex.ofNat_four (n : Nat) :
    Hex.ofNat 4 n =
      [Hex.digit (n / 4096 % 16), Hex.digit (n / 256 % 16), Hex.digit (n / 16 % 16),
        Hex.digit (n % 16)] := by
  simp [Hex.ofNat, Nat.div_div_eq_div_mul]

namespace Json

/-- The four digits of a code unit are read back. -/
theorem fourDigits?_ofNat {n : Nat} (h : n < 0x10000) (rest : List Char) :
    fourDigits? (Hex.ofNat 4 n ++ rest) = some n := by
  have htake : (Hex.ofNat 4 n ++ rest).take 4 = Hex.ofNat 4 n :=
    List.take_left' (by rw [Hex.ofNat_four]; rfl)
  have hdigits : (Hex.ofNat 4 n).mapM Hex.digit? =
      some [n / 4096 % 16, n / 256 % 16, n / 16 % 16, n % 16] := by
    rw [Hex.ofNat_four]
    simp [Hex.digit?_digit, Nat.mod_lt]
  rw [fourDigits?, htake, hdigits]
  show some (((n / 4096 % 16 * 16 + n / 256 % 16) * 16 + n / 16 % 16) * 16 + n % 16) = some n
  congr 1
  omega

theorem drop_ofNat (n : Nat) (rest : List Char) :
    (Hex.ofNat 4 n ++ rest).drop 4 = rest :=
  List.drop_left' (by rw [Hex.ofNat_four]; rfl)

theorem lowUnit?_unitEscape {n : Nat} (h : n < 0x10000) (rest : List Char) :
    lowUnit? (unitEscape n ++ rest) = some n :=
  fourDigits?_ofNat h rest

theorem drop_unitEscape (n : Nat) (rest : List Char) :
    (unitEscape n ++ rest).drop 6 = rest := by
  show (Hex.ofNat 4 n ++ rest).drop 4 = rest
  exact drop_ofNat n rest

/-- A character is no half of a surrogate pair. -/
theorem ofPair?_toNat (c : Char) (low : Nat) : ofPair? c.toNat low = none := by
  have hvalid : c.toNat < 0xD800 ∨ 0xDFFF < c.toNat ∧ c.toNat < 0x110000 := c.valid
  rw [ofPair?, if_neg (by omega)]

theorem ofUnit_toNat (c : Char) : ofUnit c.toNat = c := by
  have hvalid : c.toNat.isValidChar := c.valid
  rw [ofUnit, if_pos hvalid, Char.ofNat_toNat]

/-- The two units of a character beyond the first 65536 are the pair that stands for it. -/
theorem ofPair?_units {c : Char} (h : 0x10000 ≤ c.toNat) :
    ofPair? (0xD800 + (c.toNat - 0x10000) / 1024) (0xDC00 + (c.toNat - 0x10000) % 1024) =
      some c := by
  have hvalid : c.toNat < 0xD800 ∨ 0xDFFF < c.toNat ∧ c.toNat < 0x110000 := c.valid
  rw [ofPair?, if_pos (by omega)]
  have hsum : 0x10000 + (0xD800 + (c.toNat - 0x10000) / 1024 - 0xD800) * 1024 +
      (0xDC00 + (c.toNat - 0x10000) % 1024 - 0xDC00) = c.toNat := by
    omega
  rw [hsum, Char.ofNat_toNat]

/-! ## One character -/

/-- What the reader does with the rest of a text after it has taken a character. -/
def takeChar (c : Char) (r : Except Error (List Char × List Char)) :
    Except Error (List Char × List Char) := do
  let (text, rest) ← r
  return (c :: text, rest)

theorem readText_unitEscape_append (fuel : Nat) {n : Nat} (h : n < 0x10000)
    (rest : List Char) :
    readText (fuel + 1) (unitEscape n ++ rest) =
      match (lowUnit? rest).bind (ofPair? n) with
      | some c => takeChar c (readText fuel (rest.drop 6))
      | none => takeChar (ofUnit n) (readText fuel rest) := by
  show readText (fuel + 1) ('\\' :: 'u' :: (Hex.ofNat 4 n ++ rest)) = _
  rw [readText, fourDigits?_ofNat h, drop_ofNat]
  rfl

/-- A character that stands for itself. -/
theorem readText_cons (fuel : Nat) {c : Char} (hquote : c ≠ '"') (hslash : c ≠ '\\')
    (hcontrol : 32 ≤ c.toNat) (rest : List Char) :
    readText (fuel + 1) (c :: rest) = takeChar c (readText fuel rest) := by
  have hplain : (c == '\\' || decide (c.toNat < 0x20)) = false := by
    simp [hslash]
    omega
  rw [readText]
  · rw [hplain]
    rfl
  · exact fun h => absurd h hquote
  · exact fun _ h _ => absurd h hslash
  · exact fun _ _ h _ => absurd h hslash

/-- A character that an escape of one letter stands for. -/
theorem readText_escape (fuel : Nat) {e c : Char} (h : escape? e = some c) (rest : List Char) :
    readText (fuel + 1) ('\\' :: e :: rest) = takeChar c (readText fuel rest) := by
  have hunit : e ≠ 'u' := by
    rintro rfl
    cases h
  rw [readText]
  · rw [h]
    rfl
  · exact hunit

/-- The reader takes the spelling of a character in one step. -/
theorem readText_escapeChar (fuel : Nat) (c : Char) (rest : List Char) :
    readText (fuel + 1) (escapeChar c ++ rest) = takeChar c (readText fuel rest) := by
  unfold escapeChar
  -- The quotation mark, the backslash and five control characters have escapes of one letter.
  iterate 7
    split
    · subst c
      exact readText_escape fuel rfl rest
  rename_i hquote hslash _ _ _ _ _
  dsimp only
  split
  · rename_i hplain
    exact readText_cons fuel hquote hslash hplain.1 rest
  split
  · rename_i hsmall
    rw [readText_unitEscape_append fuel hsmall]
    have hnone : (lowUnit? rest).bind (ofPair? c.toNat) = none := by
      cases lowUnit? rest with
      | none => rfl
      | some low => exact ofPair?_toNat c low
    rw [hnone, ofUnit_toNat]
  · rename_i hlarge
    have hvalid : c.toNat < 0xD800 ∨ 0xDFFF < c.toNat ∧ c.toNat < 0x110000 := c.valid
    rw [List.append_assoc, readText_unitEscape_append fuel (by omega),
      lowUnit?_unitEscape (by omega), Option.bind_some, ofPair?_units (by omega),
      drop_unitEscape]

/-! ## Whole texts -/

theorem length_escapeChar_pos (c : Char) : 0 < (escapeChar c).length := by
  unfold escapeChar unitEscape
  dsimp only
  repeat' split
  all_goals simp

/-- The spelling of a text is at least as long as the text. -/
theorem length_le_length_flatMap_escapeChar (cs : List Char) :
    cs.length ≤ (cs.flatMap escapeChar).length := by
  induction cs with
  | nil => exact Nat.le_refl _
  | cons c cs ih =>
      have hpos := length_escapeChar_pos c
      rw [List.flatMap_cons, List.length_append, List.length_cons]
      omega

/-- A text is read back, up to its closing quotation mark. -/
theorem readText_flatMap_escapeChar (cs rest : List Char) :
    ∀ fuel, cs.length < fuel →
      readText fuel (cs.flatMap escapeChar ++ '"' :: rest) = .ok (cs, rest) := by
  induction cs with
  | nil =>
      intro fuel hfuel
      obtain ⟨fuel, rfl⟩ := Nat.exists_eq_add_one_of_ne_zero (Nat.ne_of_gt hfuel)
      rfl
  | cons c cs ih =>
      intro fuel hfuel
      obtain ⟨fuel, rfl⟩ := Nat.exists_eq_add_one_of_ne_zero (Nat.ne_zero_of_lt hfuel)
      rw [List.flatMap_cons, List.append_assoc, readText_escapeChar,
        ih fuel (by rw [List.length_cons] at hfuel; omega)]
      rfl

/-- The reader's own fuel is enough for a text that was written. -/
theorem readText_quote (s : String) (rest : List Char) :
    readText ((s.toList.flatMap escapeChar ++ '"' :: rest).length + 1)
        (s.toList.flatMap escapeChar ++ '"' :: rest) =
      .ok (s.toList, rest) := by
  refine readText_flatMap_escapeChar _ _ _ ?_
  have hle := length_le_length_flatMap_escapeChar s.toList
  rw [List.length_append]
  omega

end Json

end Rollout
