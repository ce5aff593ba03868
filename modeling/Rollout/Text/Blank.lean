/-!
# Blanks around a text

What an operator types or exports often carries blanks at its ends. `isBlank`
is the Unicode notion of a blank: the characters of bidirectional type `WS`,
`B` or `S` and the space separators, so it holds of U+00A0 and U+3000 but not
of the zero-width space U+200B.

`Text.trim` is the only place where blanks are dropped. On lists it is two
`dropWhile`s, so that what it keeps can be read off its definition: a middle
part of the text that neither starts nor ends with a blank.
-/

namespace Rollout.Text

/-- The characters counted as blank at the ends of a text. -/
def isBlank (c : Char) : Bool :=
  let n := c.toNat
  (9 ≤ n && n ≤ 13) || (28 ≤ n && n ≤ 32) || n == 0x85 || n == 0xA0 || n == 0x1680 ||
    (0x2000 ≤ n && n ≤ 0x200A) || n == 0x2028 || n == 0x2029 || n == 0x202F ||
    n == 0x205F || n == 0x3000

/-- A list of characters without the blanks at its ends. -/
def trimChars (cs : List Char) : List Char :=
  ((cs.dropWhile isBlank).reverse.dropWhile isBlank).reverse

/-- A text without the blanks at its ends. -/
def trim (s : String) : String := String.ofList (trimChars s.toList)

@[simp] theorem toList_trim (s : String) : (trim s).toList = trimChars s.toList := by
  simp [trim]

@[simp] theorem trimChars_nil : trimChars [] = [] := rfl

/-- Blanks put in front of a text do not show in its trimmed form. -/
theorem trimChars_blanks_append (w cs : List Char) (h : ∀ c ∈ w, isBlank c = true) :
    trimChars (w ++ cs) = trimChars cs := by
  have : (w ++ cs).dropWhile isBlank = cs.dropWhile isBlank := by
    induction w with
    | nil => rfl
    | cons c w ih =>
        have hc : isBlank c = true := h c (by simp)
        simp only [List.cons_append, List.dropWhile_cons, hc, if_true]
        exact ih fun d hd => h d (by simp [hd])
  simp [trimChars, this]

end Rollout.Text
