import VirtualRecords.Number.Basic

/-! Printing numbers. A real number is written with the fewest decimal digits that
read back as the same number; of several such the nearest is taken, and of two
equally near ones the even one. -/

namespace VirtualRecords

/-- The decimal `0.d₁d₂… * 10 ^ point`, its digits given as characters. -/
structure Digits where
  digits : List Char
  point : Int
deriving DecidableEq

namespace Binary64

def gapBelow (magnitude : Nat) : Nat :=
  if magnitude = twoTo magnitude.log2 ∧ 1 < gap magnitude then gap magnitude / 2 else gap magnitude

/-- Whether `digits * 10 ^ exponent` is rounded to this magnitude. The ends of the
interval belong to it when the magnitude is an even multiple of its gap. -/
def readsBack (magnitude digits : Nat) (exponent : Int) : Bool :=
  let candidate := 2 * digits * tenTo exponent.toNat * scale
  let lowest := (2 * magnitude - gapBelow magnitude) * tenTo (-exponent).toNat
  let highest := (2 * magnitude + gap magnitude) * tenTo (-exponent).toNat
  if magnitude / gap magnitude % 2 = 0 then lowest ≤ candidate && candidate ≤ highest
  else lowest < candidate && candidate < highest

def leadingExponent (magnitude : Nat) : Int :=
  if scale ≤ magnitude then (Nat.toDigits 10 (magnitude / scale)).length - 1
  else -((Nat.toDigits 10 ((scale - 1) / magnitude)).length : Int)

def onGrid? (magnitude : Nat) (exponent : Int) : Option Nat :=
  let num := magnitude * tenTo (-exponent).toNat
  let den := scale * tenTo exponent.toNat
  let below := num / den
  match readsBack magnitude below exponent, readsBack magnitude (below + 1) exponent with
  | true, true => some (roundHalfEven num den)
  | true, false => some below
  | false, true => some (below + 1)
  | false, false => none

/-- The shortest decimal of a positive magnitude. Seventeen digits always suffice. -/
def shortest (magnitude : Nat) : Digits :=
  let top := leadingExponent magnitude
  let found := (List.range 17).findSome? fun (n : Nat) =>
    (onGrid? magnitude (top - n)).map fun digits => (digits, top - n)
  let (digits, exponent) := found.getD (0, 0)
  let all := Nat.toDigits 10 digits
  ⟨(all.reverse.dropWhile (· == '0')).reverse, all.length + exponent⟩

/-- Real numbers stand with a point, and with at least one digit on each side of it,
when the exponent of the leading digit lies between these bounds. -/
def leastPlainExponent : Int := -5
def greatestPlainExponent : Int := 15

def plainText (d : Digits) : List Char :=
  let zeros (n : Int) := List.replicate n.toNat '0'
  if d.point ≤ 0 then '0' :: '.' :: zeros (-d.point) ++ d.digits
  else
    let padded := d.digits ++ zeros (d.point + 1 - d.digits.length)
    padded.take d.point.toNat ++ '.' :: padded.drop d.point.toNat

def scientificText (d : Digits) : List Char :=
  let exponent := d.point - 1
  let tail := 'e' :: (if exponent < 0 then '-' else '+') :: Nat.toDigits 10 exponent.natAbs
  match d.digits with
  | [] => tail
  | [c] => c :: tail
  | c :: more => c :: '.' :: more ++ tail

def magnitudeText (magnitude : Nat) : List Char :=
  if magnitude = 0 then ['0', '.', '0']
  else
    let d := shortest magnitude
    if leastPlainExponent ≤ d.point - 1 ∧ d.point - 1 ≤ greatestPlainExponent then plainText d
    else scientificText d

def text (x : Binary64) : String :=
  String.ofList (if x.negative then '-' :: magnitudeText x.magnitude else magnitudeText x.magnitude)

end Binary64

def intText (n : Int) : String :=
  String.ofList (if n < 0 then '-' :: Nat.toDigits 10 n.natAbs else Nat.toDigits 10 n.natAbs)

def natText (n : Nat) : String := String.ofList (Nat.toDigits 10 n)

namespace Number

def text : Number → String
  | integer n => intText n.val
  | real x => x.text

end Number
end VirtualRecords
