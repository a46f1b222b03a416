import Mathlib.Algebra.Group.Nat.Defs
import Mathlib.Data.List.Basic

/-!
# Unsigned numbers in text

A stream of the C++ library writes a number's decimal digits and, where its locale
prescribes groups, a separator between them. The groups are counted from the right,
the last size of the list repeats, and a size which is not positive or the largest
character ends the grouping. A conversion without a locale writes the digits alone.

The scanning function reads an input under a list of directives. A number is read
behind white space and an optional sign, as the longest sequence of digits, as a
64-bit word and then as a 32-bit one. What was written by the digits alone is read
back as the same number.

Text is a list of characters. Characters which group sizes are given by are signed.
-/

namespace Ros2CudaIpc.FormattedText

/-- The decimal digits of a number without leading zeros, as `std::to_string` writes them. -/
def decimal (number : Nat) : List Char := Nat.toDigits 10 number

/-- Every character of a number's decimal text is a digit. -/
theorem decimal_isDigit {number : Nat} {digit : Char} (member : digit ∈ decimal number) :
    digit.isDigit = true :=
  Nat.isDigit_of_mem_toDigits (by decide) (by decide) member

/-- A number has at least one digit; zero has the digit zero. -/
theorem decimal_ne_nil (number : Nat) : decimal number ≠ [] := Nat.toDigits_ne_nil

/-- The digits of a number denote that number. -/
@[simp] theorem ofDigitChars_decimal (number : Nat) :
    Nat.ofDigitChars 10 (decimal number) 0 = number := by
  simp [decimal]

/-- The parts of `std::numpunct` an unsigned number is written with: the separator, and the sizes
of the groups from the right. -/
structure NumPunct where
  thousandsSep : Char
  grouping : List Int8
deriving DecidableEq, Repr

/-- The classic locale, which prescribes no groups. A program has it until it sets another one. -/
def NumPunct.classic : NumPunct := ⟨',', []⟩

/-- A size which bounds its group: positive, and not 127, which is `CHAR_MAX` and stands for no
bound. -/
def Limits (size : Int8) : Prop := 0 < size ∧ size ≠ 127

instance (size : Int8) : Decidable (Limits size) := inferInstanceAs (Decidable (_ ∧ _))

/-- The group at hand has as many digits as its size allows. Without a size, or with one which
does not bound, no group is ever full. -/
def groupFull (grouping : List Int8) (count : Nat) : Bool :=
  match grouping with
  | [] => false
  | size :: _ => Limits size && count = size.toInt.toNat

/-- The sizes from the next group on; the last one repeats for all the groups behind it. -/
def nextGroup : List Int8 → List Int8
  | _ :: next :: rest => next :: rest
  | grouping => grouping

/-- The digits from the right, with a separator ahead of every digit which begins a
new group. -/
def separate (separator : Char) : List Int8 → Nat → List Char → List Char
  | _, _, [] => []
  | grouping, count, digit :: digits =>
    if groupFull grouping count then
      separator :: digit :: separate separator (nextGroup grouping) 1 digits
    else digit :: separate separator grouping (count + 1) digits

/-- `operator<<` of an unsigned number on a stream with the locale. Width and fill are at their
defaults. -/
def NumPunct.put (punct : NumPunct) (number : Nat) : List Char :=
  (separate punct.thousandsSep punct.grouping 0 (decimal number).reverse).reverse

/-- As many digits in all stay in the first group, because its size allows them or does not bound
it. -/
def Fits (grouping : List Int8) (count : Nat) : Prop :=
  ∀ size ∈ grouping.head?, Limits size → count ≤ size.toInt.toNat

instance (grouping : List Int8) (count : Nat) : Decidable (Fits grouping count) :=
  inferInstanceAs (Decidable (∀ size ∈ grouping.head?, _))

variable {separator : Char} {grouping : List Int8} {count : Nat} {digits : List Char}
  {punct : NumPunct} {number : Nat}

/-- A full group of a list is one of limited size whose digits have been counted to that size. -/
theorem groupFull_iff : groupFull grouping count = true ↔
    ∃ size ∈ grouping.head?, Limits size ∧ count = size.toInt.toNat := by
  cases grouping <;> simp [groupFull]

/-- Separators only lengthen the text: every digit is still there. -/
theorem length_le_separate (separator : Char) (grouping : List Int8) (count : Nat)
    (digits : List Char) : digits.length ≤ (separate separator grouping count digits).length := by
  induction digits generalizing grouping count with
  | nil => exact Nat.zero_le _
  | cons digit digits inductionHypothesis =>
    unfold separate
    split
    · have rest := inductionHypothesis (nextGroup grouping) 1
      simp only [List.length_cons]
      omega
    · exact Nat.succ_le_succ (inductionHypothesis grouping (count + 1))

/-- Digits which stay in the first group are not separated. By induction on the digits, as the
group is not full before the last of them. -/
theorem separate_fits (fits : Fits grouping (count + digits.length)) :
    separate separator grouping count digits = digits := by
  induction digits generalizing count with
  | nil => rfl
  | cons digit digits inductionHypothesis =>
    have room : groupFull grouping count = false := by
      rw [← Bool.not_eq_true, groupFull_iff]
      rintro ⟨size, first, limits, full⟩
      have bounded := fits size first limits
      rw [List.length_cons] at bounded
      omega
    have rest : Fits grouping (count + 1 + digits.length) := by
      intro size first limits
      have bounded := fits size first limits
      rw [List.length_cons] at bounded
      omega
    simp only [separate, room, Bool.false_eq_true, if_false, inductionHypothesis rest]

/-- Digits which outgrow the first group are separated, so the text is longer than the digits. -/
theorem length_lt_separate (separator : Char) (counted : Fits grouping count)
    (outgrows : ¬ Fits grouping (count + digits.length)) :
    digits.length < (separate separator grouping count digits).length := by
  induction digits generalizing count with
  | nil => exact absurd counted outgrows
  | cons digit digits inductionHypothesis =>
    unfold separate
    split
    · have rest := length_le_separate separator (nextGroup grouping) 1 digits
      simp only [List.length_cons]
      omega
    · next room =>
      refine Nat.succ_lt_succ (inductionHypothesis ?_ fun fits => outgrows ?_)
      · intro size first limits
        have bounded := counted size first limits
        have distinct : count ≠ size.toInt.toNat := fun full =>
          room (groupFull_iff.mpr ⟨size, first, limits, full⟩)
        omega
      · intro size first limits
        have bounded := fits size first limits
        rw [List.length_cons]
        omega

/-- A number whose digits all stay in the first group, so that the locale writes no separator into
it. -/
def NumPunct.Ungrouped (punct : NumPunct) (number : Nat) : Prop :=
  Fits punct.grouping (decimal number).length

instance (punct : NumPunct) (number : Nat) : Decidable (punct.Ungrouped number) :=
  inferInstanceAs (Decidable (Fits _ _))

/-- A number whose digits all stay in the first group is written by its digits alone, in any
locale. -/
theorem put_ungrouped (ungrouped : punct.Ungrouped number) : punct.put number = decimal number := by
  have fits : Fits punct.grouping (0 + (decimal number).reverse.length) := by
    rw [Nat.zero_add, List.length_reverse]
    exact ungrouped
  rw [NumPunct.put, separate_fits fits, List.reverse_reverse]

/-- The text of a number in a locale is never shorter than its digits. -/
theorem length_le_put (punct : NumPunct) (number : Nat) :
    (decimal number).length ≤ (punct.put number).length := by
  have longer := length_le_separate punct.thousandsSep punct.grouping 0 (decimal number).reverse
  rw [NumPunct.put, List.length_reverse]
  rwa [List.length_reverse] at longer

/-- The text of a number is longer than its digits when these outgrow the first group. -/
theorem length_lt_put (grouped : ¬ punct.Ungrouped number) :
    (decimal number).length < (punct.put number).length := by
  have start : Fits punct.grouping 0 := fun _ _ _ => Nat.zero_le _
  have outgrows : ¬ Fits punct.grouping (0 + (decimal number).reverse.length) := by
    rw [Nat.zero_add, List.length_reverse]
    exact grouped
  have longer := length_lt_separate punct.thousandsSep start outgrows
  rw [NumPunct.put, List.length_reverse]
  rwa [List.length_reverse] at longer

/-- The classic locale writes a number by its digits alone. -/
@[simp] theorem put_classic (number : Nat) : NumPunct.classic.put number = decimal number :=
  put_ungrouped fun _ first _ => by simp [NumPunct.classic] at first

/-- A directive of a scanning format: a character to match, `%u` or `%c`. White space in a format
is not among them. -/
inductive Directive where
  | literal (expected : Char)
  | unsigned
  | char
deriving DecidableEq, Repr

/-- What the scanning function returned, and the numbers it assigned before it stopped. -/
structure Scanned where
  returned : Int
  numbers : List UInt32
deriving DecidableEq, Repr

/-- `isspace` of the classic locale: the blank, and the five control characters from tab to
carriage return. -/
def isSpace (char : Char) : Bool :=
  char.toNat = 32 || (9 ≤ char.toNat && char.toNat ≤ 13)

/-- An optional sign, and the input behind it. A minus sign is accepted for an unsigned number
too. -/
def signed (input : List Char) : Bool × List Char :=
  if input.head? = some '-' then (true, input.tail)
  else if input.head? = some '+' then (false, input.tail)
  else (false, input)

/-- The word the digits denote: a `strtoul` result of 64 bits, saturated or negated, stored in 32
bits. -/
def convertUnsigned (negative : Bool) (digits : List Char) : UInt32 :=
  let value := Nat.ofDigitChars 10 digits 0
  if 2 ^ 64 ≤ value then UInt32.ofNat (2 ^ 64 - 1)
  else if negative then UInt32.ofNat (2 ^ 64 - value)
  else UInt32.ofNat value

/-- The number an input begins with and what follows it, for an input from which white space was
skipped. -/
def matchUnsigned (input : List Char) : Option (UInt32 × List Char) :=
  let digits := (signed input).2.takeWhile Char.isDigit
  if digits = [] then none
  else some (convertUnsigned (signed input).1 digits, (signed input).2.dropWhile Char.isDigit)

/-- The end of the input ahead of a directive: without a conversion it is an error. -/
def inputFailure (assigned : Nat) (numbers : List UInt32) : Scanned :=
  ⟨if assigned = 0 then -1 else assigned, numbers⟩

/-- `sscanf` from a directive on, with the items assigned so far. It stops at the first directive
which fails. -/
def scan : List Directive → List Char → Nat → List UInt32 → Scanned
  | [], _, assigned, numbers => ⟨assigned, numbers⟩
  | .literal expected :: directives, input, assigned, numbers =>
    match input with
    | [] => inputFailure assigned numbers
    | char :: input =>
      if char = expected then scan directives input assigned numbers else ⟨assigned, numbers⟩
  | .unsigned :: directives, input, assigned, numbers =>
    match matchUnsigned (input.dropWhile isSpace) with
    | some (number, rest) => scan directives rest (assigned + 1) (numbers ++ [number])
    | none =>
      if input.dropWhile isSpace = [] then inputFailure assigned numbers else ⟨assigned, numbers⟩
  | .char :: directives, input, assigned, numbers =>
    match input with
    | [] => inputFailure assigned numbers
    | _ :: input => scan directives input (assigned + 1) numbers

variable {directives : List Directive} {assigned : Nat} {numbers : List UInt32}

/-- A text matches itself, character by character, and the scan goes on behind it with nothing
more assigned. -/
theorem scan_literals (text rest : List Char) :
    scan (text.map .literal ++ directives) (text ++ rest) assigned numbers =
      scan directives rest assigned numbers := by
  induction text with
  | nil => rfl
  | cons char text inductionHypothesis =>
    simp only [List.map_cons, List.cons_append, scan, if_true, inductionHypothesis]

/-- A text a number would not go on with: it is empty, or does not begin with a digit. -/
def EndsNumber (rest : List Char) : Prop := ∀ char ∈ rest.head?, char.isDigit = false

/-- A digit is neither white space nor a sign, so a number written by its digits is read from its
first one. -/
theorem digit_begins {char : Char} (digit : char.isDigit = true) :
    isSpace char = false ∧ char ≠ '-' ∧ char ≠ '+' := by
  simp only [Char.isDigit, Bool.and_eq_true, decide_eq_true_eq, ge_iff_le] at digit
  have lower : 48 ≤ char.toNat := UInt32.le_iff_toNat_le.mp digit.1
  have upper : char.toNat ≤ 57 := UInt32.le_iff_toNat_le.mp digit.2
  refine ⟨?_, ?_, ?_⟩
  · simp only [isSpace, Bool.or_eq_false_iff, Bool.and_eq_false_iff, decide_eq_false_iff_not]
    omega
  · rintro rfl
    exact absurd lower (by decide)
  · rintro rfl
    exact absurd lower (by decide)

/-- The digits of a number are read back as that number, up to where they end. -/
theorem scan_decimal (number : UInt32) {rest : List Char} (ended : EndsNumber rest) :
    scan (.unsigned :: directives) (decimal number.toNat ++ rest) assigned numbers =
      scan directives rest (assigned + 1) (numbers ++ [number]) := by
  obtain ⟨first, others, digits⟩ := List.exists_cons_of_ne_nil (decimal_ne_nil number.toNat)
  have member : first ∈ decimal number.toNat := digits ▸ List.mem_cons_self ..
  obtain ⟨solid, notMinus, notPlus⟩ := digit_begins (decimal_isDigit member)
  have spaceless : (decimal number.toNat ++ rest).dropWhile isSpace =
      decimal number.toNat ++ rest := by
    simp [digits, solid]
  have signless :
      signed (decimal number.toNat ++ rest) = (false, decimal number.toNat ++ rest) := by
    simp [signed, digits, notMinus, notPlus]
  have stops : rest.takeWhile Char.isDigit = [] ∧ rest.dropWhile Char.isDigit = rest := by
    cases rest with
    | nil => exact ⟨rfl, rfl⟩
    | cons char rest =>
      have other : char.isDigit = false := ended char rfl
      simp [other]
  have taken : (decimal number.toNat ++ rest).takeWhile Char.isDigit = decimal number.toNat := by
    rw [List.takeWhile_append_of_pos fun _ => decimal_isDigit, stops.1, List.append_nil]
  have left : (decimal number.toNat ++ rest).dropWhile Char.isDigit = rest := by
    rw [List.dropWhile_append_of_pos fun _ => decimal_isDigit, stops.2]
  have sized := number.toNat_lt
  have converted : convertUnsigned false (decimal number.toNat) = number := by
    simp only [convertUnsigned, ofDigitChars_decimal, Bool.false_eq_true, if_false]
    rw [if_neg (by omega), UInt32.ofNat_toNat]
  have matched : matchUnsigned (decimal number.toNat ++ rest) = some (number, rest) := by
    simp only [matchUnsigned, signless, taken, left, converted, decimal_ne_nil, if_false]
  simp only [scan, spaceless, matched]

end Ros2CudaIpc.FormattedText
