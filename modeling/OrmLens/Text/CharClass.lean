/-
  Character classes.

  ASCII is decided by a short test and the rest of Unicode by the tables, so a question about an
  ASCII character never opens a table. Two classes of name characters exist side by side:
  `isWord`, which header and assignment patterns use, knows combining marks and join controls and
  follows version 16 of the character database; `isIdent`, which decides where an identifier ends at
  the cursor, knows numerals of every kind instead and, like all other classes, follows version 17.
-/
import OrmLens.Text.Alphabetic
import OrmLens.Text.CaseTable

namespace OrmLens.CharClass

/-! ## Tables -/

/-- Membership in the set whose boundaries are listed: it changes at each of them. -/
def withinBounds : List Nat → Nat → Bool → Bool
  | [], _, inside => inside
  | b :: bounds, n, inside => if n < b then inside else withinBounds bounds n (!inside)

/-- Whether a code point is one of the stride's. -/
def Stride.holds (s : Stride) (n : Nat) : Bool :=
  s.first ≤ n && n ≤ s.last && (n - s.first) % s.step == 0

/-- Whether a code point is one of the shifted ones. -/
def Shift.holds (s : Shift) (n : Nat) : Bool :=
  s.first ≤ n && n ≤ s.last && (n - s.first) % s.step == 0

/-! ## Classes -/

/-- Space and tab: all that may stand between the words of one line. -/
def isBlank (c : Char) : Bool := c == ' ' || c == '\t'

/-- White space of any kind, line breaks included. -/
def isSpace (c : Char) : Bool :=
  let n := c.toNat
  (9 ≤ n && n ≤ 13) || n == 0x20 || n == 0x85 || n == 0xA0 || n == 0x1680
    || (0x2000 ≤ n && n ≤ 0x200A) || n == 0x2028 || n == 0x2029 || n == 0x202F || n == 0x205F
    || n == 0x3000

/-- Letters of every script. -/
def isAlphabetic (c : Char) : Bool :=
  if c.toNat < 128 then c.isAlpha else withinBounds alphabeticBounds c.toNat false

/-- Digits, numerals and other numbers of every script. -/
def isNumeric (c : Char) : Bool :=
  if c.toNat < 128 then c.isDigit else withinBounds numericBounds c.toNat false

/-- Code points without a character before version 17 of the database. -/
def isRecent (c : Char) : Bool := withinBounds recentBounds c.toNat false

/-- Characters of a word in a source pattern. The characters of version 17 are none of them. -/
def isWord (c : Char) : Bool :=
  if c.toNat < 128 then c.isAlphanum || c == '_'
  else (isAlphabetic c || withinBounds wordMarkBounds c.toNat false) && !isRecent c

/-- Characters of an identifier at the cursor. -/
def isIdent (c : Char) : Bool := isAlphabetic c || isNumeric c || c == '_'

/-- Characters an identifier may start with at the cursor. -/
def isIdentStart (c : Char) : Bool := isAlphabetic c || c == '_'

/-- Characters a bound name may start with. -/
def isNameStart (c : Char) : Bool := c.isAlpha || c == '_'

/-- Capital letters. -/
def isUpper (c : Char) : Bool :=
  if c.toNat < 128 then c.isUpper else uppercaseStrides.any (·.holds c.toNat)

/-- Small letters. -/
def isLower (c : Char) : Bool :=
  if c.toNat < 128 then c.isLower else lowercaseStrides.any (·.holds c.toNat)

theorem isSpace_of_isBlank {c : Char} (h : isBlank c = true) : isSpace c = true := by
  simp only [isBlank, Bool.or_eq_true, beq_iff_eq] at h
  rcases h with rfl | rfl <;> decide

/-- The code points of white space. -/
def spaceCodes : List Nat :=
  List.range' 9 5 ++ [0x20, 0x85, 0xA0, 0x1680] ++ List.range' 0x2000 11
    ++ [0x2028, 0x2029, 0x202F, 0x205F, 0x3000]

theorem toNat_mem_spaceCodes {c : Char} (h : isSpace c = true) : c.toNat ∈ spaceCodes := by
  simp only [isSpace, Bool.or_eq_true, Bool.and_eq_true, decide_eq_true_eq, beq_iff_eq] at h
  simp only [spaceCodes, List.mem_append, List.mem_range'_1, List.mem_cons, List.not_mem_nil,
    or_false]
  omega

/-- A class without these few characters is a class without white space. -/
theorem eq_false_of_isSpace {p : Char → Bool} (hp : ∀ n ∈ spaceCodes, p (Char.ofNat n) = false)
    {c : Char} (h : isSpace c = true) : p c = false := by
  have hc := hp _ (toNat_mem_spaceCodes h)
  rwa [Char.ofNat_toNat] at hc

theorem isSpace_eq_false {p : Char → Bool} (hp : ∀ n ∈ spaceCodes, p (Char.ofNat n) = false)
    {c : Char} (h : p c = true) : isSpace c = false := by
  cases hs : isSpace c with
  | false => rfl
  | true => rw [eq_false_of_isSpace hp hs] at h; cases h

theorem isSpace_of_isWord {c : Char} (h : isWord c = true) : isSpace c = false :=
  isSpace_eq_false (by decide +kernel) h

theorem isSpace_of_isIdent {c : Char} (h : isIdent c = true) : isSpace c = false :=
  isSpace_eq_false (by decide +kernel) h

end OrmLens.CharClass
