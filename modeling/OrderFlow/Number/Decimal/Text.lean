import OrderFlow.Number.Decimal

/-!
Amounts as text. `text` writes all places of an amount, also zeros at the end. `ofText?` reads
digits with at most one point, one sign in front and underscores between digits; as soon as a
further digit would not fit, that digit rounds the amount and the rest of the text is left unread.
`ofScientific?` reads the same with a power of ten behind.
-/
namespace OrderFlow.Decimal
open OrderFlow.Text

/-- An amount as text: all its places, a minus sign in front of a negative one. -/
def text (d : Decimal) : List Char :=
  let magnitude := d.unscaled.natAbs
  let whole := digits (magnitude / 10 ^ d.scale)
  let fraction :=
    if d.scale = 0 then [] else '.' :: padded d.scale (magnitude % 10 ^ d.scale)
  (if d.unscaled < 0 then ['-'] else []) ++ whole ++ fraction

/-- What has been read of an amount so far. -/
structure Draft where
  negative : Bool := false
  magnitude : Nat := 0
  places : Nat := 0
  /-- Whether the point has been read. -/
  pointed : Bool := false
  /-- Whether a digit has been read. -/
  begun : Bool := false

/-- The amount read so far. -/
def Draft.finish (r : Draft) : Option Decimal :=
  if r.begun then of? (if r.negative then -(r.magnitude : Int) else r.magnitude) r.places else none

/-- The digit `c`, no longer kept, rounds the amount: from five on away from zero. Where that makes
the amount one digit too long, its last digit is rounded away as well. -/
def Draft.roundBy (r : Draft) (c : Char) : Option Decimal :=
  if c.isDigit then
    if c < '5' then r.finish
    else if r.magnitude + 1 < 2 ^ 96 then { r with magnitude := r.magnitude + 1 }.finish
    else if r.places = 0 then none
    else { r with magnitude := (r.magnitude + 5) / 10, places := r.places - 1 }.finish
  else if c = '_' ∨ (c = '.' ∧ r.pointed) then r.finish
  else none

/-- Reads on behind the sign. -/
def Draft.read (r : Draft) : List Char → Option Decimal
  | [] => r.finish
  | c :: rest =>
    if c.isDigit then
      let magnitude := r.magnitude * 10 + (c.toNat - '0'.toNat)
      if 2 ^ 96 ≤ magnitude then
        if r.pointed then r.roundBy c else none
      else
        let places := r.places + (if r.pointed then 1 else 0)
        let r := { r with magnitude, places, begun := true }
        if r.pointed ∧ 28 ≤ r.places then
          match rest with
          | [] => r.finish
          | next :: _ => r.roundBy next
        else r.read rest
    else if c = '.' ∧ ¬ r.pointed then { r with pointed := true }.read rest
    else if c = '_' ∧ r.begun then r.read rest
    else none

/-- Reads an amount without a power of ten. -/
def ofText? : List Char → Option Decimal
  | '-' :: rest => Draft.read { negative := true } rest
  | '+' :: rest => Draft.read {} rest
  | cs => Draft.read {} cs

/-- The amount times `10 ^ power`, multiplied in steps of at most nineteen powers; a step whose
result is too large refuses the amount. -/
def timesPowerOfTen (d : Decimal) (power : Nat) : Option Decimal :=
  if power = 0 then some d
  else if power ≤ 19 then d.times (10 ^ power)
  else (d.times (10 ^ 19)).bind fun d => d.times (10 ^ (power - 19))

/-- An exponent: digits, with at most a plus sign in front, below `2 ^ 32`. -/
def exponent? (cs : List Char) : Option Nat :=
  let ds := match cs with | '+' :: rest => rest | _ => cs
  (natural? ds).filter (· < 2 ^ 32)

/-- Reads an amount with a power of ten behind the first `e` or `E`. A negative power adds places; a
positive one takes places away as long as there are any, and else the amount grows and is cut to the
places it needs. -/
def ofScientific? (cs : List Char) : Option Decimal :=
  let isMark (c : Char) : Bool := c = 'e' || c = 'E'
  match cs.dropWhile (!isMark ·) with
  | [] => none
  | _ :: power => do
    let d ← ofText? (cs.takeWhile (!isMark ·))
    match power with
    | '-' :: power =>
      let power ← exponent? power
      of? d.unscaled (d.scale + power)
    | _ =>
      let power ← exponent? power
      if power ≤ d.scale then of? d.unscaled (d.scale - power)
      else if 28 < power then none
      else (d.timesPowerOfTen power).map normalize

/-- Reads an amount in either notation. -/
def parse? (cs : List Char) : Option Decimal := (ofText? cs).orElse fun _ => ofScientific? cs

end OrderFlow.Decimal
