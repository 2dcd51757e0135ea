/-!
# Unsigned decimal numbers

`Decimal.parse limit text` reads an optional plus sign and at least one decimal digit as a number
below `limit`. The digits are taken from the left, so of two faults the leftmost one is reported.
Printing is `toString` on `Nat`.
-/

namespace NodeHeap.Text.Decimal

/-- Why a text is not a number below the limit. -/
inductive Fault where
  | empty
  | invalidDigit
  | tooLarge
  deriving DecidableEq, Repr

/-- The fault in words. -/
def Fault.message : Fault → String
  | .empty => "cannot parse integer from empty string"
  | .invalidDigit => "invalid digit found in string"
  | .tooLarge => "number too large to fit in target type"

/-- The value of an ASCII digit. -/
def digit? (c : Char) : Option Nat :=
  if '0' ≤ c ∧ c ≤ '9' then some (c.toNat - '0'.toNat) else none

/-- The number whose leading digits made `value` and whose other digits are given. -/
def digits (limit : Nat) (value : Nat) : List Char → Except Fault Nat
  | [] => .ok value
  | c :: rest =>
    match digit? c with
    | none => .error .invalidDigit
    | some d =>
      if value * 10 + d < limit then digits limit (value * 10 + d) rest else .error .tooLarge

/-- The number below `limit` that a text writes. -/
def parse (limit : Nat) : List Char → Except Fault Nat
  | [] => .error .empty
  | ['+'] => .error .invalidDigit
  | '+' :: c :: rest => digits limit 0 (c :: rest)
  | c :: rest => digits limit 0 (c :: rest)

/-- The number below `limit` that a text writes, if it writes one. -/
def parse? (limit : Nat) (text : List Char) : Option Nat := (parse limit text).toOption

/-- A text without the sign that it may begin with. -/
def unsigned : List Char → List Char
  | '+' :: rest | '-' :: rest => rest
  | text => text

/-- Whether a text is decimal digits, of which there is at least one. -/
def isDigits (text : List Char) : Bool := !text.isEmpty && text.all fun c => (digit? c).isSome

/-- The names of what is no number, or too large to be written. -/
def unboundedNames : List String := ["inf", "infinity", "nan"]

/-- Whether a text writes a real number: a sign if there is one, digits with at most one point among or
around them, and behind an `e` a power of ten if there is one. The names of the unbounded ones count as
numbers too, in any case. -/
def isReal (text : List Char) : Bool :=
  let text := unsigned text
  let mantissa := text.takeWhile fun c => c ≠ 'e' && c ≠ 'E'
  let whole := mantissa.takeWhile (· ≠ '.')
  let fraction := (mantissa.dropWhile (· ≠ '.')).drop 1
  let power := text.dropWhile fun c => c ≠ 'e' && c ≠ 'E'
  unboundedNames.contains (String.ofList text).toLower ||
    (isDigits (whole ++ fraction) && (power.isEmpty || isDigits (unsigned (power.drop 1))))

theorem digits_lt {limit value n : Nat} {text : List Char} (hv : value < limit)
    (h : digits limit value text = .ok n) : n < limit := by
  induction text generalizing value with
  | nil => simp only [digits, Except.ok.injEq] at h; omega
  | cons c rest ih =>
    simp only [digits] at h
    split at h
    · cases h
    · split at h
      · exact ih ‹_› h
      · cases h

end NodeHeap.Text.Decimal
