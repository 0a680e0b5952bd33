/-!
# Numbers in decimal notation

Reading and writing of whole numbers with ASCII digits. `natural?` and
`integer?` accept leading zeros; an integer may carry a sign of either kind.
-/

set_option autoImplicit false

namespace CronSchedule.Numeral

/-- The number written by a nonempty run of ASCII digits. -/
def natural? (text : List Char) : Option Nat :=
  if !text.isEmpty && text.all Char.isDigit then some (Nat.ofDigitChars 10 text 0) else none

/-- The integer written by ASCII digits after an optional sign. -/
def integer? : List Char → Option Int
  | '+' :: digits => (natural? digits).map Int.ofNat
  | '-' :: digits => (natural? digits).map fun n => -Int.ofNat n
  | digits => (natural? digits).map Int.ofNat

/-- Does the integer fit into `bits` bits with a sign? -/
def fits (bits : Nat) (n : Int) : Bool :=
  -(Nat.pow 2 (bits - 1) : Int) ≤ n && n < (Nat.pow 2 (bits - 1) : Int)

/-- The integer written by the text, if it fits into `bits` bits with a sign. -/
def signed? (bits : Nat) (text : List Char) : Option Int := (integer? text).filter (fits bits)

/-- The number written by ASCII digits after an optional plus sign, if it fits into `bits` bits
without a sign. -/
def unsigned? (bits : Nat) (text : List Char) : Option Nat :=
  (match text with
    | '+' :: digits => natural? digits
    | digits => natural? digits).filter (· < Nat.pow 2 bits)

/-- Decimal digits of a number. -/
def digits (n : Nat) : List Char := Nat.toDigits 10 n

/-- Decimal digits of a number, with zeros in front up to the given width. -/
def padded (width n : Nat) : String :=
  String.ofList (List.replicate (width - (digits n).length) '0' ++ digits n)

end CronSchedule.Numeral
