import Mathlib.Data.List.Induction
import Mathlib.Data.Nat.Digits.Defs
import ColumnStore.Column.Definition
import ColumnStore.Proofs.Token.Layout
import ColumnStore.Statement.Parser

/-!
# Numbers as texts

A text in a column becomes an integer by a reader of its own, and a number in a statement becomes
one by way of the scanner and of a parser whose reader would also take a sign. Both take the same
texts, the runs of ASCII digits whose value is in range, and read the same integers.
-/

namespace ColumnStore

namespace Decimal

variable {s : String} {n : Int64}

/-- The number that digits write, the last of them counting ones. -/
def value (s : String) : Nat := Nat.ofDigits 10 (s.toList.reverse.map fun c => c.toNat - '0'.toNat)

/-- A run of digits of any length, leading zeros included, whose value is in range. -/
structure IsNumeral (s : String) : Prop where
  written : s ≠ ""
  digits : ∀ c ∈ s.toList, c.isDigit = true
  small : value s ≤ 2 ^ 63 - 1

theorem ofDigitChars_eq_value (s : String) : Nat.ofDigitChars 10 s.toList 0 = value s := by
  rw [value]
  induction s.toList using List.reverseRecOn with
  | nil => rfl
  | append_singleton cs c ih =>
    rw [Nat.ofDigitChars_append, ih, List.reverse_append, List.reverse_singleton,
      List.singleton_append, List.map_cons, Nat.ofDigits_cons, Nat.ofDigitChars_cons, Nat.add_comm]
    rfl

theorem isNumeral_iff : IsNumeral s ↔ isDigits s.toList = true ∧ value s < int64Bound := by
  have bound : int64Bound = 2 ^ 63 := by decide
  have run : isDigits s.toList = true ↔ s ≠ "" ∧ ∀ c ∈ s.toList, c.isDigit = true := by
    simp [isDigits]
  rw [run, bound]
  constructor
  · rintro ⟨written, digits, small⟩
    exact ⟨⟨written, digits⟩, by omega⟩
  · rintro ⟨⟨written, digits⟩, small⟩
    exact ⟨written, digits, by omega⟩

theorem readPlainInt64?_of_isNumeral (h : IsNumeral s) :
    readPlainInt64? s = some (Int64.ofNat (value s)) := by
  obtain ⟨digits, small⟩ := isNumeral_iff.mp h
  simp only [readPlainInt64?, readDigits?, if_pos digits, ofDigitChars_eq_value, if_pos small]

theorem readPlainInt64?_of_not_isNumeral (h : ¬ IsNumeral s) : readPlainInt64? s = none := by
  rw [isNumeral_iff, not_and] at h
  rw [readPlainInt64?, readDigits?, ofDigitChars_eq_value]
  by_cases digits : isDigits s.toList = true
  · simp only [if_pos digits, if_neg (h digits)]
  · simp only [if_neg digits]

/-- The reader without a sign takes the numerals at their value. -/
theorem readPlainInt64?_eq_some_iff :
    readPlainInt64? s = some n ↔ IsNumeral s ∧ n.toInt = value s := by
  by_cases numeral : IsNumeral s
  · have small := (isNumeral_iff.mp numeral).2
    rw [readPlainInt64?_of_isNumeral numeral, Option.some.injEq, ← Int64.toInt_inj,
      Int64.toInt_ofNat_of_lt small, eq_comm]
    exact (and_iff_right numeral).symm
  · simp [readPlainInt64?_of_not_isNumeral numeral, numeral]

/-- On runs of digits, and only there, it is the reader that would take a sign. -/
theorem readPlainInt64?_eq_some_iff_signed :
    readPlainInt64? s = some n ↔ isDigits s.toList = true ∧ readInt64? s = some n := by
  constructor
  · intro read
    have digits := (isNumeral_iff.mp (readPlainInt64?_eq_some_iff.mp read).1).1
    exact ⟨digits, (readInt64?_of_isDigits digits).trans read⟩
  · rintro ⟨digits, read⟩
    exact (readInt64?_of_isDigits digits).symm.trans read

end Decimal

/-- The parsers of a literal: among the values of an insert, and as a default. -/
def Parser.literals : List (Parser Literal) := [insertedLiteral, storedLiteral]

/-- A number token is read as its integer wherever a literal stands. -/
theorem Parser.run_literal {literal : Parser Literal} (stands : literal ∈ literals) (s : String)
    (position : Nat) (rest : List Token) :
    literal.run (⟨⟨.number, s⟩, position⟩ :: rest) =
      match Decimal.readInt64? s with
      | some n => .ok (.number n, rest)
      | none => .error (.atToken .integer ⟨⟨.number, s⟩, position⟩) := by
  rcases List.mem_pair.mp stands with rfl | rfl
  · simp only [insertedLiteral, insertedLiteralOf, accept, current, literalOf]
    cases Decimal.readInt64? s <;> rfl
  · simp only [storedLiteral, accept, current, literalOf]
    cases Decimal.readInt64? s <;> rfl

namespace Column.Definition

/-- A text under an integer type is read without a sign, or refused as it stands. -/
theorem cast_text_integer (name : String) (default : Option Value) (s : String) :
    cast ⟨name, .integer, default⟩ (.text s) =
      match Decimal.readPlainInt64? s with
      | some n => .ok (.integer n)
      | none => .error (.typeMismatch name .integer (.unreadable s)) := by
  simp only [cast]
  cases Decimal.readPlainInt64? s <;> rfl

/-- A text converts to an integer exactly if it is a numeral, and then to its value. It does so
exactly if the text is one number token and nothing else, and that token is read as the same
integer, wherever a literal may stand and whatever follows. Every other text is refused. -/
theorem cast_text_as_literal (name : String) (default : Option Value) (s : String) :
    let converted := cast ⟨name, .integer, default⟩ (.text s)
    (∀ n, converted = .ok (.integer n) ↔ Decimal.IsNumeral s ∧ n.toInt = Decimal.value s) ∧
    (∀ n, ∀ literal ∈ Parser.literals, ∀ position rest,
      converted = .ok (.integer n) ↔ Token.IsNumber s ∧
        literal.run (⟨⟨.number, s⟩, position⟩ :: rest) = .ok (.number n, rest)) ∧
    (¬ Decimal.IsNumeral s → converted = .error (.typeMismatch name .integer (.unreadable s))) := by
  intro converted
  have read (n : Int64) :
      converted = .ok (.integer n) ↔ Decimal.readPlainInt64? s = some n := by
    show cast _ _ = _ ↔ _
    rw [cast_text_integer]
    cases Decimal.readPlainInt64? s <;> simp
  refine ⟨fun n => (read n).trans Decimal.readPlainInt64?_eq_some_iff, ?_, fun other => ?_⟩
  · intro n literal stands position rest
    have parsed : literal.run (⟨⟨.number, s⟩, position⟩ :: rest) = .ok (.number n, rest) ↔
        Decimal.readInt64? s = some n := by
      rw [Parser.run_literal stands]
      cases Decimal.readInt64? s <;> simp
    rw [read, parsed, Token.isNumber_iff]
    exact Decimal.readPlainInt64?_eq_some_iff_signed
  · show cast _ _ = _
    rw [cast_text_integer, Decimal.readPlainInt64?_of_not_isNumeral other]

/-- Zeros in front of the largest integer are read, and the next number and a sign are not. -/
theorem cast_text_as_literal_at_bound :
    let convert (s : String) := cast ⟨"total", .integer, some .null⟩ (.text s)
    let largest := "0009223372036854775807"
    convert largest = .ok (.integer 9223372036854775807) ∧
      Token.IsNumber largest ∧
      Parser.storedLiteral.run [⟨⟨.number, largest⟩, 0⟩, Token.ending 22] =
        .ok (.number 9223372036854775807, [Token.ending 22]) ∧
      convert "9223372036854775808" =
        .error (.typeMismatch "total" .integer (.unreadable "9223372036854775808")) ∧
      convert "+7" = .error (.typeMismatch "total" .integer (.unreadable "+7")) := by
  intro convert largest
  have numeral : Decimal.IsNumeral largest :=
    Decimal.isNumeral_iff.mpr ⟨by decide +kernel, by decide +kernel⟩
  have value : (9223372036854775807 : Int64).toInt = Decimal.value largest := by decide +kernel
  obtain ⟨taken, agree, _⟩ := cast_text_as_literal "total" (some .null) largest
  have converted := (taken 9223372036854775807).mpr ⟨numeral, value⟩
  obtain ⟨single, stored⟩ :=
    (agree _ Parser.storedLiteral (by simp [Parser.literals]) 0 [Token.ending 22]).mp converted
  have large : ¬ Decimal.IsNumeral "9223372036854775808" := by
    intro numeral
    exact absurd numeral.small (by decide +kernel)
  have signed : ¬ Decimal.IsNumeral "+7" := by
    intro numeral
    exact absurd (numeral.digits '+' (by decide)) (by decide)
  exact ⟨converted, single, stored,
    (cast_text_as_literal "total" (some .null) "9223372036854775808").2.2 large,
    (cast_text_as_literal "total" (some .null) "+7").2.2 signed⟩

end Column.Definition

end ColumnStore
