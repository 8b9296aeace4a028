import Mathlib.Algebra.Ring.Int.Defs
import RdsMetricCollector.Foundation.Strings

/-! # Fields of texts

Splitting a text at white space and at separators, trimming it, and reading a
decimal integer from it. Each function is given with the texts it inverts.
-/

namespace RdsMetricCollector.Strings

/-- White space in the sense of Unicode. -/
def isSpace (char : Char) : Bool :=
  let code := char.toNat
  (0x09 ≤ code && code ≤ 0x0d) || code == 0x20 || code == 0x85 || code == 0xa0 ||
    code == 0x1680 || (0x2000 ≤ code && code ≤ 0x200a) || code == 0x2028 ||
    code == 0x2029 || code == 0x202f || code == 0x205f || code == 0x3000

/-- The maximal parts of a text without white space. -/
def fields (text : String) : List String :=
  ((text.toList.splitOnP isSpace).filter (· ≠ [])).map String.ofList

/-- The parts of a text between the occurrences of a separator. -/
def split (text : String) (separator : Char) : List String :=
  (text.toList.splitOn separator).map String.ofList

/-- Remove the characters of `cutset` from both ends. -/
def trim (text : String) (cutset : List Char) : String :=
  String.ofList
    ((text.toList.dropWhile (· ∈ cutset)).reverse.dropWhile (· ∈ cutset)).reverse

def digitsValue (digits : List Char) : Option Nat :=
  if digits ≠ [] ∧ digits.all Char.isDigit then
    some (Nat.ofDigitChars 10 digits 0)
  else
    none

def int64OfInt (value : Int) : Option Int64 :=
  if -2 ^ 63 ≤ value ∧ value < 2 ^ 63 then some (Int64.ofInt value) else none

/-- Read a decimal integer with an optional sign. Other texts, and integers
that need more than 64 bits, are errors. -/
def atoi (text : String) : Option Int64 :=
  match text.toList with
  | '-' :: digits => (digitsValue digits).bind fun value => int64OfInt (-value)
  | '+' :: digits => (digitsValue digits).bind fun value => int64OfInt value
  | digits => (digitsValue digits).bind fun value => int64OfInt value

/-- The decimal text of an integer. -/
def formatInt (value : Int64) : String :=
  toString value.toInt

example : fields " user='a'  port='1' " = ["user='a'", "port='1'"] := by decide

example : split "a=b=" '=' = ["a", "b", ""] := by decide

example : atoi "-15000" = some (-15000) ∧ atoi "" = none ∧ atoi "1s" = none := by
  decide

/-! ## Splitting -/

theorem split_eq_singleton {text : String} {separator : Char}
    (missing : separator ∉ text.toList) : split text separator = [text] := by
  simp [split, List.splitOn_eq_singleton missing]

section Separators

variable {separator : Char} {separatorText : String}

theorem split_append (isSeparator : separatorText.toList = [separator]) {head : String}
    (missing : separator ∉ head.toList) (rest : String) :
    split (head ++ separatorText ++ rest) separator = head :: split rest separator := by
  have first := List.splitOn_append_cons_self_of_not_mem missing rest.toList
  simp [split, isSeparator, first]

/-- A text can be divided at the first occurrence of a separator in one way only. -/
theorem append_separator_inj (isSeparator : separatorText.toList = [separator])
    {first second : String} (firstFree : separator ∉ first.toList)
    (secondFree : separator ∉ second.toList) {rest otherRest : String}
    (equal : first ++ (separatorText ++ rest) = second ++ (separatorText ++ otherRest)) :
    first = second ∧ rest = otherRest := by
  have parts := congrArg (split · separator) equal
  simp only [← String.append_assoc, split_append isSeparator firstFree,
    split_append isSeparator secondFree, List.cons.injEq] at parts
  have same := parts.1
  subst same
  refine ⟨rfl, ?_⟩
  have after := (String.append_right_inj first).mp equal
  exact (String.append_right_inj separatorText).mp after

theorem split_intercalate (isSeparator : separatorText.toList = [separator])
    {parts : List String} (nonempty : parts ≠ [])
    (missing : ∀ part ∈ parts, separator ∉ part.toList) :
    split (separatorText.intercalate parts) separator = parts := by
  have inverse : List.splitOn separator
      ([separator].intercalate (parts.map String.toList)) = parts.map String.toList :=
    List.splitOn_intercalate separator (by simpa using missing) (by simpa using nonempty)
  simp [split, isSeparator, inverse, Function.comp_def]

end Separators

theorem notMem_intercalate {parts : List String} {separator : String} {char : Char}
    (separatorFree : char ∉ separator.toList)
    (partsFree : ∀ part ∈ parts, char ∉ part.toList) :
    char ∉ (separator.intercalate parts).toList := by
  induction parts with
  | nil => simp
  | cons part parts induction =>
      rw [List.forall_mem_cons] at partsFree
      have rest := induction partsFree.2
      cases parts with
      | nil => simpa using partsFree.1
      | cons next parts =>
          rw [String.intercalate_cons_cons, String.toList_append, String.toList_append]
          simp only [List.mem_append, not_or]
          exact ⟨⟨partsFree.1, separatorFree⟩, rest⟩

/-- A text that `fields` keeps together. -/
structure IsField (text : String) : Prop where
  nonempty : text ≠ ""
  unbroken : ∀ char ∈ text.toList, isSpace char = false

theorem fields_intercalate {parts : List String}
    (areFields : ∀ part ∈ parts, IsField part) :
    fields (" ".intercalate parts) = parts := by
  induction parts with
  | nil => rfl
  | cons part parts induction =>
      have isField := areFields part List.mem_cons_self
      have rest := induction fun other member =>
        areFields other (List.mem_cons_of_mem part member)
      have kept : part.toList ≠ [] := by simpa using isField.nonempty
      cases parts with
      | nil =>
          rw [fields, String.intercalate_singleton,
            List.splitOnP_eq_singleton isField.unbroken]
          simp [kept]
      | cons next parts =>
          have first := List.splitOnP_append_cons_of_forall_mem isField.unbroken
            ' ' rfl (" ".intercalate (next :: parts)).toList
          rw [fields] at rest ⊢
          rw [String.intercalate_cons_cons, String.toList_append,
            String.toList_append, List.append_assoc]
          rw [show " ".toList ++ (" ".intercalate (next :: parts)).toList =
            ' ' :: (" ".intercalate (next :: parts)).toList from rfl, first,
            List.filter_cons_of_pos (by simpa using kept), List.map_cons, rest,
            String.ofList_toList]

/-! ## Trimming -/

private theorem dropWhile_eq_self {chars cutset : List Char}
    (outside : ∀ char ∈ chars, char ∉ cutset) :
    chars.dropWhile (· ∈ cutset) = chars := by
  cases chars with
  | nil => rfl
  | cons char chars =>
      apply List.dropWhile_cons_of_neg
      simpa using outside char List.mem_cons_self

private theorem dropWhile_quote {chars : List Char} {quote : Char}
    (missing : quote ∉ chars) (rest : List Char) (nonempty : chars ≠ []) :
    (quote :: (chars ++ rest)).dropWhile (· ∈ [quote]) = chars ++ rest := by
  have outside : ∀ char ∈ chars, char ∉ [quote] := by
    intro char member equal
    exact missing (List.mem_singleton.mp equal ▸ member)
  have kept := dropWhile_eq_self outside
  rw [List.dropWhile_cons_of_pos (by simp), List.dropWhile_append, kept]
  simp [nonempty]

/-- Trimming removes the quotes around a text without quotes. -/
theorem trim_quoted {text : String} {quote : Char} (nonempty : text ≠ "")
    (missing : quote ∉ text.toList) :
    trim (String.singleton quote ++ text ++ String.singleton quote) [quote] = text := by
  have chars : text.toList ≠ [] := by simpa using nonempty
  have quoted : (String.singleton quote ++ text ++ String.singleton quote).toList =
      quote :: (text.toList ++ [quote]) := by
    simp
  have left := dropWhile_quote missing [quote] chars
  have right := dropWhile_quote (mt List.mem_reverse.mp missing) [] (by simpa using chars)
  rw [List.append_nil] at right
  rw [trim, quoted, left, List.reverse_append, List.reverse_singleton,
    List.singleton_append, right, List.reverse_reverse, String.ofList_toList]

/-! ## Decimal integers -/

private theorem digitsValue_toDigits (value : Nat) :
    digitsValue (Nat.toDigits 10 value) = some value := by
  have isDigit : ∀ char ∈ Nat.toDigits 10 value, char.isDigit := fun char member =>
    Nat.isDigit_of_mem_toDigits (by decide) (by decide) member
  rw [digitsValue, if_pos ⟨Nat.toDigits_ne_nil, List.all_eq_true.mpr isDigit⟩,
    Nat.ofDigitChars_ten_toDigits]

private theorem int64OfInt_toInt (value : Int64) : int64OfInt value.toInt = some value := by
  rw [int64OfInt, if_pos ⟨value.le_toInt, value.toInt_lt⟩, Int64.ofInt_toInt]

/-- A text of digits has no sign. -/
theorem atoi_repr (value : Nat) : atoi value.repr = int64OfInt value := by
  have isDigit : ∀ char ∈ Nat.toDigits 10 value, char.isDigit := fun char member =>
    Nat.isDigit_of_mem_toDigits (by decide) (by decide) member
  unfold atoi
  rw [Nat.toList_repr]
  split
  case h_1 digits equal =>
    have wrong := isDigit '-' (equal ▸ List.mem_cons_self)
    exact absurd wrong (by decide)
  case h_2 digits equal =>
    have wrong := isDigit '+' (equal ▸ List.mem_cons_self)
    exact absurd wrong (by decide)
  case h_3 => rw [digitsValue_toDigits, Option.bind_some]

private theorem atoi_neg_repr (value : Nat) :
    atoi ("-" ++ value.repr) = int64OfInt (-value) := by
  have signed : ("-" ++ value.repr).toList = '-' :: Nat.toDigits 10 value := by
    rw [String.toList_append, Nat.toList_repr]
    rfl
  rw [atoi, signed]
  simp only [digitsValue_toDigits, Option.bind_some]

theorem atoi_formatInt (value : Int64) : atoi (formatInt value) = some value := by
  have inverse := int64OfInt_toInt value
  rw [formatInt]
  cases sign : value.toInt with
  | ofNat magnitude =>
      rw [sign] at inverse
      rw [← inverse]
      exact atoi_repr magnitude
  | negSucc magnitude =>
      rw [sign] at inverse
      rw [← inverse]
      exact atoi_neg_repr (magnitude + 1)

end RdsMetricCollector.Strings
