/-!
# Decimal numbers

Written numbers have no leading zeros and a minus sign when negative. Reading accepts any number
of leading zeros but only the ten ASCII digits, and refuses a value outside the machine range it
reads into. A sign is an option of the reader: an integer may carry one plus or minus sign and a
length one plus sign.
-/

namespace ColumnStore.Decimal

def digits (n : Nat) : List Char := Nat.toDigits 10 n

def render (n : Int64) : String :=
  String.ofList (if n.toInt < 0 then '-' :: digits n.toInt.natAbs else digits n.toInt.natAbs)

def isDigits (cs : List Char) : Bool := !cs.isEmpty && cs.all Char.isDigit

/-- The value of a non-empty run of digits. -/
def readDigits? (cs : List Char) : Option Nat :=
  if isDigits cs then some (Nat.ofDigitChars 10 cs 0) else none

theorem isDigits_digits (n : Nat) : isDigits (digits n) = true := by
  simp only [isDigits, Bool.and_eq_true, List.all_eq_true, Bool.not_eq_true',
    List.isEmpty_eq_false_iff]
  exact ⟨Nat.toDigits_ne_nil, fun _ member =>
    Nat.isDigit_of_mem_toDigits (by decide) (by decide) member⟩

theorem readDigits?_digits (n : Nat) : readDigits? (digits n) = some n := by
  rw [readDigits?, if_pos (isDigits_digits n), digits, Nat.ofDigitChars_ten_toDigits]

/-- Splits off one sign. -/
def splitSign : List Char → Bool × List Char
  | '-' :: cs => (true, cs)
  | '+' :: cs => (false, cs)
  | cs => (false, cs)

/-- The least number that is too large for a 64-bit integer. -/
def int64Bound : Nat := Int64.size / 2

def readInt64? (s : String) : Option Int64 :=
  let (negative, cs) := splitSign s.toList
  match readDigits? cs with
  | none => none
  | some n =>
    if negative then if n ≤ int64Bound then some (Int64.ofInt (-n)) else none
    else if n < int64Bound then some (Int64.ofNat n) else none

def readUInt32? (s : String) : Option UInt32 :=
  let cs := match s.toList with
    | '+' :: cs => cs
    | cs => cs
  match readDigits? cs with
  | none => none
  | some n => if n < UInt32.size then some (UInt32.ofNat n) else none

/-- Reads a run of digits without any sign. -/
def readPlainInt64? (s : String) : Option Int64 :=
  match readDigits? s.toList with
  | none => none
  | some n => if n < int64Bound then some (Int64.ofNat n) else none

/-- A run of digits carries no sign. -/
theorem unsigned_of_isDigits {c : Char} {cs : List Char} (h : isDigits (c :: cs) = true) :
    c ≠ '-' ∧ c ≠ '+' := by
  have digit : c.isDigit = true := by
    simp only [isDigits, List.all_cons, Bool.and_eq_true] at h
    exact h.2.1
  constructor <;> rintro rfl <;> exact absurd digit (by decide)

theorem splitSign_of_isDigits {cs : List Char} (h : isDigits cs = true) :
    splitSign cs = (false, cs) := by
  cases cs with
  | nil => rfl
  | cons c cs =>
    obtain ⟨minus, plus⟩ := unsigned_of_isDigits h
    simp [splitSign, minus, plus]

theorem ofNat_nonneg {n : Nat} (h : n < int64Bound) : 0 ≤ Int64.ofNat n := by
  rw [Int64.le_iff_toInt_le, Int64.toInt_ofNat_of_lt h]
  exact Int.natCast_nonneg n

/-- Without a sign the two readers of an integer agree. -/
theorem readInt64?_of_isDigits {s : String} (h : isDigits s.toList = true) :
    readInt64? s = readPlainInt64? s := by
  rw [readInt64?, splitSign_of_isDigits h, readPlainInt64?]
  rfl

theorem readPlainInt64?_nonneg {s : String} {n : Int64} (h : readPlainInt64? s = some n) :
    0 ≤ n := by
  rw [readPlainInt64?] at h
  split at h
  · cases h
  · split at h
    · next small =>
      cases h
      exact ofNat_nonneg small
    · cases h

theorem toList_render {n : Int64} (h : 0 ≤ n) : (render n).toList = digits n.toInt.natAbs := by
  have sign : ¬ n.toInt < 0 := by
    have := Int64.le_iff_toInt_le.mp h
    simpa using this
  rw [render, if_neg sign, String.toList_ofList]

/-- A number that is not negative is read back as it was written. -/
theorem readInt64?_render {n : Int64} (h : 0 ≤ n) : readInt64? (render n) = some n := by
  have written := toList_render h
  have low := Int64.le_iff_toInt_le.mp h
  rw [Int64.toInt_zero] at low
  have small : n.toInt.natAbs < int64Bound := by
    have high := n.toInt_lt
    have bound : int64Bound = 2 ^ 63 := by decide
    omega
  have back : Int64.ofNat n.toInt.natAbs = n := by
    rw [← Int64.ofInt_eq_ofNat, Int.natAbs_of_nonneg low, Int64.ofInt_toInt]
  rw [readInt64?_of_isDigits (written ▸ isDigits_digits _), readPlainInt64?, written,
    readDigits?_digits]
  simp only [small, if_true, back]

/-- Without a sign only the integers that are not negative are read back. -/
theorem readPlainInt64?_render (n : Int64) :
    readPlainInt64? (render n) = if n < 0 then none else some n := by
  split
  · next negative =>
    have sign : n.toInt < 0 := by
      simpa using Int64.lt_iff_toInt_lt.mp negative
    have unread : ¬ isDigits (render n).toList = true := by
      rw [render, if_pos sign, String.toList_ofList]
      exact fun run => (unsigned_of_isDigits run).1 rfl
    rw [readPlainInt64?, readDigits?, if_neg unread]
  · next nonneg =>
    have nonneg : 0 ≤ n := Int64.not_lt.mp nonneg
    rw [← readInt64?_render nonneg, readInt64?_of_isDigits]
    rw [toList_render nonneg]
    exact isDigits_digits _

theorem readUInt32?_digits (n : UInt32) :
    readUInt32? (String.ofList (digits n.toNat)) = some n := by
  have read := readDigits?_digits n.toNat
  have run := isDigits_digits n.toNat
  cases written : digits n.toNat with
  | nil => simp [written, isDigits] at run
  | cons c cs =>
    rw [written] at read run
    obtain ⟨_, plus⟩ := unsigned_of_isDigits run
    simp [readUInt32?, plus, read, UInt32.toNat_lt_size]

end ColumnStore.Decimal
