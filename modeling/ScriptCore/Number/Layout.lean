import ScriptCore.Number.Decimal

/-!
# Texts of numbers

The shortest digits of a number are laid out in three ways that differ in a few decisions, held by a
record each: `display` for scripts, `message` for the texts of errors and `inspect` for diagnostics.
`scientific?` shows a given count of digits instead.
-/

namespace ScriptCore.Number

/-- Decisions on how a number is written. -/
structure Layout where
  /-- The word for infinity, without its sign. -/
  infinity : String
  /-- Whether a number without a fraction gets the fraction `.0`. -/
  wholeFraction : Bool
  /-- Whether a number is written out, given the power of ten of its first digit; if not, it gets
  an exponent. -/
  writtenOut : Int → Bool

/-- Scripts see every digit and no exponent. -/
def Layout.display : Layout := ⟨"Infinity", false, fun _ => true⟩

/-- Messages differ from what scripts see in the word for infinity. -/
def Layout.message : Layout := ⟨"inf", false, fun _ => true⟩

/-- Diagnostics show that a number is one by a fraction, and use an exponent from `10 ^ 16` on and
below `10 ^ -4`. -/
def Layout.inspect : Layout := ⟨"inf", true, fun leading => -4 ≤ leading && leading < 16⟩

/-- `count` zeros. -/
def zeros (count : Nat) : String := String.ofList (List.replicate count '0')

/-- The digits, written out around the decimal point. -/
def Decimal.writtenOut (d : Decimal) (wholeFraction : Bool) : String :=
  let digits := Nat.toDigits 10 d.digits
  let places := (-d.exponent).toNat
  if places = 0 then
    String.ofList digits ++ zeros d.exponent.toNat ++ (if wholeFraction then ".0" else "")
  else if places < digits.length then
    let whole := digits.length - places
    String.ofList (digits.take whole) ++ "." ++ String.ofList (digits.drop whole)
  else "0." ++ zeros (places - digits.length) ++ String.ofList digits

/-- One digit before the decimal point, the others after it, and the power of ten. -/
def Decimal.withExponent (d : Decimal) : String :=
  let digits := Nat.toDigits 10 d.digits
  let fraction := if digits.length = 1 then "" else "." ++ String.ofList (digits.drop 1)
  String.ofList (digits.take 1) ++ fraction ++ "e" ++ toString d.leading

/-- The text of a number without its sign. -/
def Layout.magnitude (layout : Layout) : Exact → String
  | .notANumber => "NaN"
  | .infinity _ => layout.infinity
  | .finite _ 0 _ => if layout.wholeFraction then "0.0" else "0"
  | .finite _ m e =>
    let d := shortest m e
    if layout.writtenOut d.leading then d.writtenOut layout.wholeFraction else d.withExponent

/-- A minus sign for numbers below zero and for the negative zero. -/
def Exact.signText : Exact → String
  | .notANumber => ""
  | .infinity negative => if negative then "-" else ""
  | .finite negative _ _ => if negative then "-" else ""

/-- The text of a number. -/
def Layout.text (layout : Layout) (x : Float) : String :=
  let exact := Exact.ofFloat x
  exact.signText ++ layout.magnitude exact

/-- A number as scripts see it. -/
def display (x : Float) : String := Layout.display.text x

/-- A number in the text of an error. -/
def message (x : Float) : String := Layout.message.text x

/-- A number in diagnostics. -/
def inspect (x : Float) : String := Layout.inspect.text x

/-- A finite number other than zero to `count` significant digits, with an exponent. -/
def scientific? (count : Nat) (x : Float) : Option String :=
  match Exact.ofFloat x with
  | .finite _ 0 _ => none
  | .finite negative m e =>
    some ((if negative then "-" else "") ++ (significant count m e).withExponent)
  | _ => none

end ScriptCore.Number
