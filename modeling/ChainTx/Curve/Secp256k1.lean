import ChainTx.Bytes

/-!
Contract: the elliptic curve secp256k1.

Owns: the field prime and the group order, affine points with the group law in Jacobian coordinates,
and the encodings of points: the compressed form of 33 bytes and the reader of compressed, compact
and uncompressed forms.

Does not own: signatures.
-/

set_option autoImplicit false

namespace ChainTx.Secp256k1

def prime : Nat := 0xFFFFFFFFFFFFFFFFFFFFFFFFFFFFFFFFFFFFFFFFFFFFFFFFFFFFFFFEFFFFFC2F

def order : Nat := 0xFFFFFFFFFFFFFFFFFFFFFFFFFFFFFFFEBAAEDCE6AF48A03BBFD25E8CD0364141

def powMod (modulus base exponent : Nat) : Nat :=
  if exponent = 0 then 1 % modulus
  else
    let half := powMod modulus (base * base % modulus) (exponent / 2)
    if exponent % 2 = 0 then half else base * half % modulus
termination_by exponent

/-- The inverse modulo a prime; zero has the inverse zero. -/
def invMod (modulus value : Nat) : Nat :=
  powMod modulus (value % modulus) (modulus - 2)

/-- An affine point, with coordinates below the prime. -/
structure Point where
  x : Nat
  y : Nat
deriving DecidableEq, Repr

/-- The value that the square of `y` must have. -/
def curveRhs (x : Nat) : Nat :=
  (x * x % prime * x + 7) % prime

/-- True of the points on the curve. -/
def Point.onCurve (point : Point) : Bool :=
  point.x < prime && point.y < prime && point.y * point.y % prime == curveRhs point.x

def generator : Point :=
  ⟨0x79BE667EF9DCBBAC55A06295CE870B07029BFCDB2DCE28D959F2815B16F81798,
    0x483ADA7726A3C4655DA4FBFC0E1108A8FD17B448A68554199C47D08FFB10D4B8⟩

/-! ## Group law -/

/-- Jacobian coordinates; the neutral element has `z = 0`. -/
structure Jacobian where
  x : Nat
  y : Nat
  z : Nat
deriving DecidableEq, Repr

def Jacobian.neutral : Jacobian := ⟨1, 1, 0⟩

def Point.toJacobian (point : Point) : Jacobian := ⟨point.x, point.y, 1⟩

/-- The affine point, or nothing for the neutral element. -/
def Jacobian.toPoint? (point : Jacobian) : Option Point :=
  if point.z % prime = 0 then none
  else
    let inverse := invMod prime point.z
    let square := inverse * inverse % prime
    some ⟨point.x * square % prime, point.y * (square * inverse % prime) % prime⟩

/-- The difference modulo the prime of two numbers below it. -/
def subMod (left right : Nat) : Nat :=
  (left + (prime - right % prime)) % prime

def Jacobian.double (point : Jacobian) : Jacobian :=
  if point.z = 0 ∨ point.y = 0 then .neutral
  else
    let ySquared := point.y * point.y % prime
    let s := 4 * point.x * ySquared % prime
    let m := 3 * point.x * point.x % prime
    let x := subMod (m * m) (2 * s)
    let y := subMod (m * subMod s x) (8 * ySquared * ySquared)
    ⟨x, y, 2 * point.y * point.z % prime⟩

def Jacobian.add (left right : Jacobian) : Jacobian :=
  if left.z = 0 then right
  else if right.z = 0 then left
  else
    let leftZ2 := left.z * left.z % prime
    let rightZ2 := right.z * right.z % prime
    let u1 := left.x * rightZ2 % prime
    let u2 := right.x * leftZ2 % prime
    let s1 := left.y * (rightZ2 * right.z % prime) % prime
    let s2 := right.y * (leftZ2 * left.z % prime) % prime
    if u1 = u2 then
      if s1 = s2 then left.double else .neutral
    else
      let h := subMod u2 u1
      let r := subMod s2 s1
      let hSquared := h * h % prime
      let hCubed := hSquared * h % prime
      let v := u1 * hSquared % prime
      let x := subMod (r * r) (hCubed + 2 * v)
      let y := subMod (r * subMod v x) (s1 * hCubed)
      ⟨x, y, h * (left.z * right.z % prime) % prime⟩

/-- A multiple of a point, by the bits of the factor from the most significant on. -/
def Jacobian.multiple (point : Jacobian) (factor : Nat) : Jacobian :=
  if factor = 0 then .neutral
  else
    let doubled := (point.multiple (factor / 2)).double
    if factor % 2 = 0 then doubled else doubled.add point
termination_by factor

/-- A multiple of a point, or nothing for the neutral element. -/
def Point.multiple? (point : Point) (factor : Nat) : Option Point :=
  (point.toJacobian.multiple factor).toPoint?

/-! ## Encodings -/

/-- A square root modulo the prime, if there is one. -/
def sqrt? (value : Nat) : Option Nat :=
  let root := powMod prime value ((prime + 1) / 4)
  if root * root % prime = value % prime then some root else none

/-- The point with a first coordinate and the parity of the second. -/
def liftX? (x : Nat) (yIsOdd : Bool) : Option Point :=
  if prime ≤ x then none
  else
    match sqrt? (curveRhs x) with
    | none => none
    | some root =>
        if (root % 2 == 1) = yIsOdd then some ⟨x, root⟩
        else some ⟨x, (prime - root) % prime⟩

/-- The compressed form: the parity of the second coordinate, then the first coordinate. -/
def Point.compressed (point : Point) : Bytes :=
  (if point.y % 2 = 0 then 0x02 else 0x03) :: Bytes.ofNatBE 32 point.x

/-- The uncompressed coordinates, without a leading byte. -/
def Point.coordinates (point : Point) : Bytes :=
  Bytes.ofNatBE 32 point.x ++ Bytes.ofNatBE 32 point.y

/-- Reads a point. The leading bytes 2 and 3 tell the parity of the second coordinate, 5 means the
even one, and 4 goes before both coordinates. -/
def Point.ofBytes? : Bytes → Option Point
  | [] => none
  | mark :: rest =>
      if rest.length = 32 then
        let x := Bytes.toNatBE rest
        if mark = 0x02 ∨ mark = 0x05 then liftX? x false
        else if mark = 0x03 then liftX? x true
        else none
      else if rest.length = 64 ∧ mark = 0x04 then
        let point : Point := ⟨Bytes.toNatBE (rest.take 32), Bytes.toNatBE (rest.drop 32)⟩
        if point.onCurve then some point else none
      else none

end ChainTx.Secp256k1
