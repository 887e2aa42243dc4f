import Mathlib.FieldTheory.Finite.Basic
import Mathlib.Tactic.LinearCombination
import ChainTx.Proofs.Bytes
import ChainTx.Proofs.Curve.Primality

/-!
Contract: the points of the curve, and the bytes that name them.

Owns:
- coordinates as elements of the field, and the equation of the curve there;
- square roots: which numbers have one, and that it is one;
- the points with a first coordinate: one of either parity where the equation has a solution, else
  none;
- what the reader takes for a point among 33 bytes, and which of these the writer gives back.

Does not own: the group law.

Every point has a second coordinate other than zero, since no cube is seven less than zero. Were there
one, its two spellings of different parity would be one point, and the writer would give back only
one of them.
-/

set_option autoImplicit false

namespace ChainTx.Secp256k1

/-! ## Coordinates -/

/-- A coordinate: a number modulo the prime of the curve. -/
abbrev Coordinate :=
  ZMod prime

theorem prime_pos : 0 < prime := by
  decide

private theorem prime_odd : prime % 2 = 1 := by
  decide

/-- Numbers below the prime are the same coordinate only if they are the same number. -/
theorem cast_inj_of_lt
    {left right : Nat}
    (leftLt : left < prime)
    (rightLt : right < prime) :
    (left : Coordinate) = right ↔ left = right := by
  rw [ZMod.natCast_eq_natCast_iff', Nat.mod_eq_of_lt leftLt, Nat.mod_eq_of_lt rightLt]

private theorem cast_curveRhs (x : Nat) :
    (curveRhs x : Coordinate) = (x : Coordinate) ^ 3 + 7 := by
  simp only [curveRhs, ZMod.natCast_mod, Nat.cast_add, Nat.cast_mul, Nat.cast_ofNat]
  ring

/-- The points on the curve are the solutions of its equation. -/
theorem Point.onCurve_iff
    {point : Point} :
    point.onCurve = true
      ↔ point.x < prime ∧ point.y < prime
        ∧ (point.y : Coordinate) ^ 2 = (point.x : Coordinate) ^ 3 + 7 := by
  have rhsReduced : curveRhs point.x % prime = curveRhs point.x := by
    rw [curveRhs, Nat.mod_mod]
  rw [← cast_curveRhs, pow_two, ← Nat.cast_mul, ZMod.natCast_eq_natCast_iff', rhsReduced]
  simp only [onCurve, Bool.and_eq_true, decide_eq_true_eq, beq_iff_eq, and_assoc]

/-- No cube is seven less than zero: the power that would tell a cube is not one. -/
theorem cube_add_seven_ne_zero (x : Coordinate) :
    x ^ 3 + 7 ≠ 0 := by
  intro zero
  have cube : x ^ 3 = ((prime - 7 : Nat) : Coordinate) := by
    rw [Nat.cast_sub (by decide), ZMod.natCast_self]
    linear_combination zero
  have nonzero : x ≠ 0 := by
    rintro rfl
    rw [zero_pow three_ne_zero, ← Nat.cast_zero,
      cast_inj_of_lt prime_pos (Nat.sub_lt prime_pos (by decide))] at cube
    exact absurd cube (by decide)
  have thirds : 3 * ((prime - 1) / 3) = prime - 1 := by decide
  have isOne : ((prime - 7 : Nat) : Coordinate) ^ ((prime - 1) / 3) = 1 := by
    rw [← cube, ← pow_mul, thirds, ZMod.pow_card_sub_one_eq_one nonzero]
  have notOne : powMod prime (prime - 7) ((prime - 1) / 3) ≠ 1 := by decide +kernel
  exact notOne ((cast_pow_eq_one_iff (by decide) _ _).mp isOne)

private theorem Point.y_pos
    {point : Point}
    (isOn : point.onCurve = true) :
    0 < point.y := by
  obtain ⟨-, -, equation⟩ := onCurve_iff.mp isOn
  refine Nat.pos_of_ne_zero fun zero => cube_add_seven_ne_zero point.x ?_
  rw [← equation, zero, Nat.cast_zero, zero_pow two_ne_zero]

/-! ## Square roots -/

/-- A quarter of the power after the prime's is a root of every square. -/
theorem pow_quarter_sq
    {value : Coordinate}
    (square : IsSquare value) :
    (value ^ ((prime + 1) / 4)) ^ 2 = value := by
  obtain ⟨root, rfl⟩ := square
  have quarters : 2 * (((prime + 1) / 4) * 2) = prime + 1 := by decide
  calc ((root * root) ^ ((prime + 1) / 4)) ^ 2
    _ = root ^ (prime + 1) := by rw [← pow_two, ← pow_mul, ← pow_mul, quarters]
    _ = root * root := by rw [pow_succ, ZMod.pow_card]

private theorem root_of_sqrt?
    {value root : Nat}
    (found : sqrt? value = some root) :
    root < prime ∧ (root : Coordinate) ^ 2 = value := by
  simp only [sqrt?, Option.ite_none_right_eq_some, Option.some.injEq] at found
  obtain ⟨squared, rfl⟩ := found
  refine ⟨powMod_lt prime_pos _ _, ?_⟩
  rw [pow_two, ← Nat.cast_mul]
  exact (ZMod.natCast_eq_natCast_iff' _ _ _).mpr squared

private theorem exists_sqrt?_iff
    {value : Nat} :
    (∃ root, sqrt? value = some root) ↔ IsSquare (value : Coordinate) := by
  constructor
  · rintro ⟨root, found⟩
    exact ⟨root, by rw [← (root_of_sqrt? found).2, pow_two]⟩
  · intro square
    have squared := pow_quarter_sq square
    rw [← cast_powMod, pow_two, ← Nat.cast_mul, ZMod.natCast_eq_natCast_iff'] at squared
    exact ⟨_, if_pos squared⟩

/-- Two numbers below the prime with one square are the same, or add up to the prime. -/
theorem eq_or_eq_sub_of_sq_eq
    {left right : Nat}
    (leftLt : left < prime)
    (rightLt : right < prime)
    (rightPos : 0 < right)
    (sameSquare : (left : Coordinate) ^ 2 = (right : Coordinate) ^ 2) :
    left = right ∨ left = prime - right := by
  rcases sq_eq_sq_iff_eq_or_eq_neg.mp sameSquare with same | opposite
  · exact .inl ((cast_inj_of_lt leftLt rightLt).mp same)
  · refine .inr ((cast_inj_of_lt leftLt (Nat.sub_lt prime_pos rightPos)).mp ?_)
    rw [opposite, Nat.cast_sub (Nat.le_of_lt rightLt), ZMod.natCast_self, zero_sub]

/-! ## Points by their first coordinate -/

/-- The other point with the same first coordinate. -/
theorem onCurve_opposite
    {x y : Nat}
    (isOn : (Point.mk x y).onCurve = true) :
    (Point.mk x (prime - y)).onCurve = true := by
  have positive := Point.y_pos isOn
  obtain ⟨xLt, yLt, equation⟩ := Point.onCurve_iff.mp isOn
  refine Point.onCurve_iff.mpr ⟨xLt, Nat.sub_lt prime_pos positive, ?_⟩
  rw [Nat.cast_sub (Nat.le_of_lt yLt), ZMod.natCast_self, zero_sub, neg_sq]
  exact equation

/-- A first coordinate and a parity name the point on the curve that has both, and nothing if there is
none. -/
theorem liftX?_eq_some_iff
    {x : Nat}
    {yIsOdd : Bool}
    {point : Point} :
    liftX? x yIsOdd = some point
      ↔ point.onCurve = true ∧ point.x = x ∧ (point.y % 2 == 1) = yIsOdd := by
  have odd := prime_odd
  constructor
  · intro lifted
    unfold liftX? at lifted
    split at lifted
    · cases lifted
    rename_i xLt
    split at lifted
    · cases lifted
    rename_i root rootFound
    obtain ⟨rootLt, squared⟩ := root_of_sqrt? rootFound
    have isOn : (Point.mk x root).onCurve = true := by
      rw [cast_curveRhs] at squared
      exact Point.onCurve_iff.mpr ⟨Nat.lt_of_not_le xLt, rootLt, squared⟩
    have positive : 0 < root := Point.y_pos isOn
    split at lifted
    · rename_i sameParity
      cases lifted
      exact ⟨isOn, rfl, sameParity⟩
    · rename_i otherParity
      cases lifted
      rw [Nat.mod_eq_of_lt (Nat.sub_lt prime_pos positive)]
      refine ⟨onCurve_opposite isOn, rfl, ?_⟩
      cases yIsOdd <;> simp at otherParity ⊢ <;> omega
  · rintro ⟨isOn, rfl, rfl⟩
    obtain ⟨xLt, yLt, equation⟩ := Point.onCurve_iff.mp isOn
    obtain ⟨root, rootFound⟩ : ∃ root, sqrt? (curveRhs point.x) = some root := by
      rw [exists_sqrt?_iff, cast_curveRhs, ← equation]
      exact IsSquare.sq _
    obtain ⟨rootLt, squared⟩ := root_of_sqrt? rootFound
    rw [cast_curveRhs, ← equation] at squared
    rw [liftX?, if_neg (Nat.not_le.mpr xLt), rootFound]
    simp only
    -- The root is the second coordinate or its opposite, which has the other parity.
    rcases eq_or_eq_sub_of_sq_eq rootLt yLt (Point.y_pos isOn) squared with same | opposite
    · rw [same, if_pos rfl]
    · have positive := Point.y_pos isOn
      have otherParity : (root % 2 == 1) ≠ (point.y % 2 == 1) := by
        intro same
        rw [Bool.eq_iff_iff, beq_iff_eq, beq_iff_eq] at same
        omega
      have back : (prime - root) % prime = point.y := by
        rw [Nat.mod_eq_of_lt (by omega)]
        omega
      rw [if_neg otherParity, back]

/-- The equation of the curve has a solution with this first coordinate. -/
def IsFirstCoordinate (x : Nat) : Prop :=
  x < prime ∧ IsSquare ((x : Coordinate) ^ 3 + 7)

/-- Where the equation has a solution, either parity names a point. -/
theorem exists_liftX?_iff
    {x : Nat}
    {yIsOdd : Bool} :
    (∃ point, liftX? x yIsOdd = some point) ↔ IsFirstCoordinate x := by
  rw [IsFirstCoordinate, ← cast_curveRhs, ← exists_sqrt?_iff]
  unfold liftX?
  by_cases large : prime ≤ x
  · simp [large]
  · rw [if_neg large]
    cases sqrt? (curveRhs x) with
    | none => simp
    | some root =>
        have small : x < prime := Nat.lt_of_not_le large
        by_cases sameParity : (root % 2 == 1) = yIsOdd <;> simp [sameParity, small]

/-! ## Bytes of points -/

/-- The parity that the first of 33 bytes tells. -/
def parityOf? (mark : UInt8) : Option Bool :=
  if mark = 0x02 ∨ mark = 0x05 then some false
  else if mark = 0x03 then some true
  else none

private theorem exists_parityOf?_iff
    {mark : UInt8} :
    (∃ parity, parityOf? mark = some parity) ↔ mark = 0x02 ∨ mark = 0x03 ∨ mark = 0x05 := by
  unfold parityOf?
  split_ifs with even odd
  · exact iff_of_true ⟨false, rfl⟩ (even.imp_right .inr)
  · exact iff_of_true ⟨true, rfl⟩ (.inr (.inl odd))
  · simp [not_or.mp even, odd]

private theorem Point.ofBytes?_cons
    {mark : UInt8}
    {rest : Bytes}
    (wide : rest.length = 32) :
    ofBytes? (mark :: rest) = (parityOf? mark).bind (liftX? (Bytes.toNatBE rest)) := by
  simp only [ofBytes?, wide, if_true, parityOf?]
  grind

/-- Among 33 bytes, the reader takes for a point what tells the parity and the first coordinate of one
on the curve. -/
theorem Point.ofBytes?_cons_eq_some_iff
    {mark : UInt8}
    {rest : Bytes}
    {point : Point}
    (wide : rest.length = 32) :
    ofBytes? (mark :: rest) = some point
      ↔ point.onCurve = true ∧ point.x = Bytes.toNatBE rest
        ∧ parityOf? mark = some (point.y % 2 == 1) := by
  simp only [ofBytes?_cons wide, Option.bind_eq_some_iff, liftX?_eq_some_iff]
  constructor
  · rintro ⟨parity, told, isOn, sameX, sameParity⟩
    exact ⟨isOn, sameX, sameParity ▸ told⟩
  · rintro ⟨isOn, sameX, told⟩
    exact ⟨_, told, isOn, sameX, rfl⟩

private theorem Point.exists_ofBytes?_cons_iff
    {mark : UInt8}
    {rest : Bytes}
    (wide : rest.length = 32) :
    (∃ point, ofBytes? (mark :: rest) = some point)
      ↔ (mark = 0x02 ∨ mark = 0x03 ∨ mark = 0x05) ∧ IsFirstCoordinate (Bytes.toNatBE rest) := by
  rw [ofBytes?_cons wide, ← exists_parityOf?_iff]
  cases parityOf? mark with
  | none => simp
  | some parity => simp [exists_liftX?_iff]

/-- A mark, and 32 bytes that spell the first coordinate of a point on the curve. -/
def IsMarkedPoint (mark : UInt8) (bytes : Bytes) : Prop :=
  ∃ rest, bytes = mark :: rest ∧ rest.length = 32 ∧ IsFirstCoordinate (Bytes.toNatBE rest)

/-- The compressed form of a point, with a mark for either parity of the second coordinate. -/
def IsCompressedPoint (bytes : Bytes) : Prop :=
  IsMarkedPoint 0x02 bytes ∨ IsMarkedPoint 0x03 bytes

/-- The compact form of a point, with one mark for an even second coordinate. -/
def IsCompactPoint (bytes : Bytes) : Prop :=
  IsMarkedPoint 0x05 bytes

theorem IsMarkedPoint.length_eq
    {mark : UInt8}
    {bytes : Bytes}
    (isMarked : IsMarkedPoint mark bytes) :
    bytes.length = 33 := by
  obtain ⟨rest, rfl, restWide, -⟩ := isMarked
  rw [List.length_cons, restWide]

theorem IsCompactPoint.not_isCompressedPoint
    {bytes : Bytes}
    (isCompact : IsCompactPoint bytes) :
    ¬ IsCompressedPoint bytes := by
  obtain ⟨_, rfl, -⟩ := isCompact
  rintro (⟨_, sameBytes, -⟩ | ⟨_, sameBytes, -⟩)
  · exact absurd (List.cons.inj sameBytes).1 (by decide)
  · exact absurd (List.cons.inj sameBytes).1 (by decide)

/-- Among 33 bytes, the reader takes the compressed and the compact forms of points, and nothing
else. -/
theorem exists_ofBytes?_iff
    {bytes : Bytes}
    (wide : bytes.length = 33) :
    (∃ point, Point.ofBytes? bytes = some point)
      ↔ IsCompressedPoint bytes ∨ IsCompactPoint bytes := by
  obtain ⟨mark, rest, rfl⟩ := List.exists_cons_of_length_eq_add_one wide
  have restWide : rest.length = 32 := Nat.succ.inj wide
  rw [Point.exists_ofBytes?_cons_iff restWide]
  simp only [IsCompressedPoint, IsCompactPoint, IsMarkedPoint, List.cons.injEq]
  grind

/-- A point on the curve is read from what is written of it. -/
theorem Point.ofBytes?_compressed
    {point : Point}
    (isOn : point.onCurve = true) :
    ofBytes? point.compressed = some point := by
  have xLt : point.x < 256 ^ 32 := Nat.lt_trans (onCurve_iff.mp isOn).1 (by decide)
  refine (ofBytes?_cons_eq_some_iff (Bytes.length_ofNatBE 32 point.x)).mpr ⟨isOn, ?_, ?_⟩
  · exact (Bytes.toNatBE_ofNatBE 32 point.x xLt).symm
  · rcases Nat.mod_two_eq_zero_or_one point.y with even | odd
    · rw [even, if_pos rfl]
      rfl
    · rw [odd, if_neg one_ne_zero]
      rfl

/-- What was read from 33 bytes is written with the same ones but for the mark: the mark of its parity,
whichever mark was read. -/
theorem Point.compressed_of_ofBytes?_cons
    {mark : UInt8}
    {rest : Bytes}
    {point : Point}
    (wide : rest.length = 32)
    (read : ofBytes? (mark :: rest) = some point) :
    point.compressed = (if mark = 0x05 then 0x02 else mark) :: rest := by
  obtain ⟨-, sameX, told⟩ := (ofBytes?_cons_eq_some_iff wide).mp read
  have sameRest : Bytes.ofNatBE 32 point.x = rest := by
    rw [sameX, ← wide, Bytes.ofNatBE_toNatBE]
  rw [compressed, sameRest, List.cons.injEq, and_iff_left rfl]
  unfold parityOf? at told
  grind

theorem Point.onCurve_of_ofBytes?
    {bytes : Bytes}
    {point : Point}
    (wide : bytes.length = 33)
    (read : ofBytes? bytes = some point) :
    point.onCurve = true := by
  obtain ⟨mark, rest, rfl⟩ := List.exists_cons_of_length_eq_add_one wide
  exact ((ofBytes?_cons_eq_some_iff (Nat.succ.inj wide)).mp read).1

/-- What was read is written with the same bytes if it was read from the compressed form. -/
theorem Point.compressed_eq_iff
    {bytes : Bytes}
    {point : Point}
    (wide : bytes.length = 33)
    (read : ofBytes? bytes = some point) :
    point.compressed = bytes ↔ IsCompressedPoint bytes := by
  obtain ⟨mark, rest, rfl⟩ := List.exists_cons_of_length_eq_add_one wide
  have restWide : rest.length = 32 := Nat.succ.inj wide
  obtain ⟨marked, isFirst⟩ := (exists_ofBytes?_cons_iff restWide).mp ⟨point, read⟩
  simp only [compressed_of_ofBytes?_cons restWide read, IsCompressedPoint, IsMarkedPoint,
    List.cons.injEq]
  grind

/-- What was read from the compact form is written with the mark of an even second coordinate. -/
theorem Point.compressed_of_isCompactPoint
    {bytes : Bytes}
    {point : Point}
    (isCompact : IsCompactPoint bytes)
    (read : ofBytes? bytes = some point) :
    point.compressed = 0x02 :: bytes.tail := by
  obtain ⟨rest, rfl, restWide, -⟩ := isCompact
  exact compressed_of_ofBytes?_cons restWide read

end ChainTx.Secp256k1
