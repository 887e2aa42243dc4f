import ChainTx.Curve.Ecdsa
import ChainTx.Proofs.Curve.Points

/-!
Contract: the group law stays on the curve.

Owns:
- the differences and inverses that the law computes, as those of the field;
- the equation of the curve in Jacobian coordinates, and that doubling, adding and taking multiples
  keep it;
- that a point taken once is that point;
- that every public key is a point on the curve.

Does not own: that the law is associative, or that multiples of a point come back to it.

Nothing is divided on the way, so that each step is one identity of polynomials: the equation of the
result is a combination of the equations of the arguments. Only the passage to an affine point needs
an inverse, and has one there because the third coordinate is not zero.
-/

set_option autoImplicit false

namespace ChainTx.Secp256k1

/-! ## Arithmetic of the field -/

private theorem cast_subMod (left right : Nat) :
    (subMod left right : Coordinate) = (left : Coordinate) - right := by
  rw [subMod, ZMod.natCast_mod, Nat.cast_add, Nat.cast_sub (Nat.le_of_lt (Nat.mod_lt _ prime_pos)),
    ZMod.natCast_mod, ZMod.natCast_self]
  ring

private theorem mul_invMod
    {value : Nat}
    (nonzero : (value : Coordinate) ≠ 0) :
    (value : Coordinate) * invMod prime value = 1 := by
  have exponent : prime - 2 + 1 = prime - 1 := by decide
  rw [invMod, cast_powMod, ZMod.natCast_mod, ← pow_succ', exponent,
    ZMod.pow_card_sub_one_eq_one nonzero]

private theorem invMod_one (modulus : Nat) :
    invMod modulus 1 = 1 % modulus := by
  rw [invMod, powMod_eq, ← Nat.pow_mod, Nat.one_pow]

/-! ## Jacobian coordinates -/

namespace Jacobian

/-- The neutral element and the solutions of the equation of the curve. -/
inductive OnCurve (point : Jacobian) : Prop where
  | neutral (vanishes : (point.z : Coordinate) = 0)
  | solution
      (equation :
        (point.y : Coordinate) ^ 2 = (point.x : Coordinate) ^ 3 + 7 * (point.z : Coordinate) ^ 6)

variable {point left right : Jacobian}

private theorem onCurve_neutral : neutral.OnCurve :=
  .neutral Nat.cast_zero

private theorem OnCurve.double (isOn : point.OnCurve) :
    point.double.OnCurve := by
  unfold Jacobian.double
  split
  · exact onCurve_neutral
  · cases isOn with
    | neutral vanishes =>
        apply OnCurve.neutral
        simp only [ZMod.natCast_mod, Nat.cast_mul, vanishes, mul_zero]
    | solution equation =>
        apply OnCurve.solution
        simp only [cast_subMod, ZMod.natCast_mod, Nat.cast_mul, Nat.cast_ofNat]
        linear_combination 64 * (point.y : Coordinate) ^ 6 * equation

/-- Two points with one third coordinate `z`, with `h` and `r` the differences of their other
coordinates: the third point on the line through both, mirrored, is a point with `h * z`. -/
theorem chord_equation
    {u₁ s₁ u₂ s₂ z h r x : Coordinate}
    (leftEquation : s₁ ^ 2 = u₁ ^ 3 + 7 * z ^ 6)
    (rightEquation : s₂ ^ 2 = u₂ ^ 3 + 7 * z ^ 6)
    (hEq : h = u₂ - u₁)
    (rEq : r = s₂ - s₁)
    (xEq : x = r * r - (h * h * h + 2 * (u₁ * (h * h)))) :
    (r * (u₁ * (h * h) - x) - s₁ * (h * h * h)) ^ 2 = x ^ 3 + 7 * (h * z) ^ 6 := by
  obtain rfl : u₂ = u₁ + h := by rw [hEq, add_sub_cancel]
  obtain rfl : s₂ = s₁ + r := by rw [rEq, add_sub_cancel]
  rw [xEq]
  linear_combination
    (h ^ 6 + (3 * u₁ * h ^ 2 + h ^ 3 - r ^ 2) * h ^ 3) * leftEquation
      - (3 * u₁ * h ^ 2 + h ^ 3 - r ^ 2) * h ^ 3 * rightEquation

private theorem OnCurve.add
    (leftOn : left.OnCurve)
    (rightOn : right.OnCurve) :
    (left.add right).OnCurve := by
  unfold Jacobian.add
  split
  · exact rightOn
  split
  · exact leftOn
  simp only
  split
  · split
    · exact leftOn.double
    · exact onCurve_neutral
  · rcases leftOn with leftVanishes | leftEquation
    · apply OnCurve.neutral
      simp only [ZMod.natCast_mod, Nat.cast_mul, leftVanishes, zero_mul, mul_zero]
    rcases rightOn with rightVanishes | rightEquation
    · apply OnCurve.neutral
      simp only [ZMod.natCast_mod, Nat.cast_mul, rightVanishes, mul_zero]
    apply OnCurve.solution
    simp only [cast_subMod, ZMod.natCast_mod, Nat.cast_mul, Nat.cast_add, Nat.cast_ofNat]
    -- Both points over the product of their third coordinates.
    refine chord_equation ?_ ?_ rfl rfl rfl
    · linear_combination (right.z : Coordinate) ^ 6 * leftEquation
    · linear_combination (left.z : Coordinate) ^ 6 * rightEquation

private theorem OnCurve.multiple
    (isOn : point.OnCurve)
    (factor : Nat) :
    (point.multiple factor).OnCurve := by
  fun_induction Jacobian.multiple point factor with
  | case1 => exact onCurve_neutral
  | case2 factor nonzero doubled even inductionHypothesis => exact inductionHypothesis.double
  | case3 factor nonzero doubled odd inductionHypothesis =>
      exact inductionHypothesis.double.add isOn

@[simp]
theorem multiple_one : point.multiple 1 = point := by
  rw [multiple, multiple]
  simp [double, neutral, add]

/-- The affine point of a solution is on the curve. -/
theorem OnCurve.onCurve_of_toPoint?
    {affine : Point}
    (isOn : point.OnCurve)
    (found : point.toPoint? = some affine) :
    affine.onCurve = true := by
  simp only [toPoint?, Option.ite_none_left_eq_some, Option.some.injEq] at found
  obtain ⟨nonzero, rfl⟩ := found
  have invertible : (point.z : Coordinate) ≠ 0 := by
    rw [← Nat.cast_zero, Ne, ZMod.natCast_eq_natCast_iff', Nat.zero_mod]
    exact nonzero
  have inverse := mul_invMod invertible
  obtain vanishes | equation := isOn
  · exact absurd vanishes invertible
  refine Point.onCurve_iff.mpr ⟨Nat.mod_lt _ prime_pos, Nat.mod_lt _ prime_pos, ?_⟩
  simp only [ZMod.natCast_mod, Nat.cast_mul]
  generalize (invMod prime point.z : Coordinate) = scale at inverse ⊢
  have sixth : ((point.z : Coordinate) * scale) ^ 6 = 1 := by rw [inverse, one_pow]
  linear_combination scale ^ 6 * equation + 7 * sixth

end Jacobian

/-! ## Affine points -/

namespace Point

variable {point found : Point}

private theorem toJacobian_onCurve
    (isOn : point.onCurve = true) :
    point.toJacobian.OnCurve := by
  obtain ⟨-, -, equation⟩ := onCurve_iff.mp isOn
  apply Jacobian.OnCurve.solution
  rw [toJacobian, Nat.cast_one, one_pow, mul_one]
  exact equation

private theorem onCurve_of_multiple?
    {factor : Nat}
    (isOn : point.onCurve = true)
    (multiple : point.multiple? factor = some found) :
    found.onCurve = true :=
  ((toJacobian_onCurve isOn).multiple factor).onCurve_of_toPoint? multiple

theorem multiple?_one
    (isOn : point.onCurve = true) :
    point.multiple? 1 = some point := by
  obtain ⟨xLt, yLt, -⟩ := onCurve_iff.mp isOn
  have remainder : 1 % prime = 1 := by decide
  simp only [multiple?, Jacobian.multiple_one, Jacobian.toPoint?, toJacobian, invMod_one, remainder,
    one_ne_zero, if_false, mul_one, Nat.mod_eq_of_lt xLt, Nat.mod_eq_of_lt yLt]

theorem onCurve_generator : generator.onCurve = true := by
  decide

end Point

end ChainTx.Secp256k1

namespace ChainTx.Ecdsa

open Secp256k1

/-- Every public key is a point on the curve. -/
theorem PrivateKey.onCurve_publicKey (key : PrivateKey) :
    key.publicKey.onCurve = true := by
  rw [publicKey]
  cases multiple : generator.multiple? key.scalar with
  | none => exact Point.onCurve_generator
  | some point => exact Point.onCurve_of_multiple? Point.onCurve_generator multiple

end ChainTx.Ecdsa
