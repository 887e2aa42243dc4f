import Mathlib.NumberTheory.LucasPrimality
import Mathlib.Tactic.NormNum.Prime
import ChainTx.Curve.Secp256k1

/-!
Contract: the numbers modulo the prime of the curve are a field.

Owns:
- what repeated squaring computes: a power of remainders;
- certificates of primality by Lucas' test: a number, a primitive root, and the primes whose product is
  one less than the number;
- that the prime of the curve is one.

Does not own: the order of the group, of which nothing here depends on being prime.
-/

set_option autoImplicit false

namespace ChainTx.Secp256k1

/-! ## Powers -/

theorem powMod_eq
    (modulus base exponent : Nat) :
    powMod modulus base exponent = base ^ exponent % modulus := by
  fun_induction powMod modulus base exponent with
  | case1 base => rw [Nat.pow_zero]
  | case2 base exponent nonzero half even inductionHypothesis =>
      have twice : exponent = 2 * (exponent / 2) := by omega
      calc half
        _ = (base * base) ^ (exponent / 2) % modulus := by
          rw [← Nat.pow_mod] at inductionHypothesis
          exact inductionHypothesis
        _ = base ^ exponent % modulus := by
          rw [← Nat.pow_two, ← Nat.pow_mul, ← twice]
  | case3 base exponent nonzero half odd inductionHypothesis =>
      have twice : exponent = 2 * (exponent / 2) + 1 := by omega
      calc base * half % modulus
        _ = base * (base * base) ^ (exponent / 2) % modulus := by
          rw [← Nat.pow_mod] at inductionHypothesis
          rw [show half = _ from inductionHypothesis, Nat.mul_mod_mod]
        _ = base ^ exponent % modulus := by
          rw [← Nat.pow_two, ← Nat.pow_mul, Nat.mul_comm base, ← Nat.pow_add_one, ← twice]

theorem powMod_lt
    {modulus : Nat}
    (positive : 0 < modulus)
    (base exponent : Nat) :
    powMod modulus base exponent < modulus := by
  rw [powMod_eq]
  exact Nat.mod_lt _ positive

theorem cast_powMod
    (modulus base exponent : Nat) :
    (powMod modulus base exponent : ZMod modulus) = (base : ZMod modulus) ^ exponent := by
  rw [powMod_eq, ZMod.natCast_mod, Nat.cast_pow]

/-- A power is one as a remainder if it is one as a number. -/
theorem cast_pow_eq_one_iff
    {modulus : Nat}
    (large : 1 < modulus)
    (base exponent : Nat) :
    (base : ZMod modulus) ^ exponent = 1 ↔ powMod modulus base exponent = 1 := by
  rw [← cast_powMod, ← Nat.cast_one, ZMod.natCast_eq_natCast_iff', Nat.mod_eq_of_lt large,
    Nat.mod_eq_of_lt (powMod_lt (Nat.zero_lt_of_lt large) base exponent)]

/-! ## Certificates -/

/-- A number with a root that generates all remainders but zero, and with the factors of its
predecessor. -/
structure Certificate where
  number : Nat
  root : Nat
  factors : List Nat

namespace Certificate

/-- The test on a certificate: no power of the root is one before the last, as far as the factors
tell. -/
def holds (certificate : Certificate) : Bool :=
  let power (exponent : Nat) := powMod certificate.number certificate.root exponent
  decide (1 < certificate.number)
    && certificate.factors.prod == certificate.number - 1
    && power (certificate.number - 1) == 1
    && certificate.factors.all fun factor => power ((certificate.number - 1) / factor) != 1

/-- A number is prime if its certificate holds and has nothing but primes for factors. -/
theorem isPrime
    (certificate : Certificate)
    (checked : certificate.holds = true)
    (primes : ∀ factor ∈ certificate.factors, factor.Prime) :
    certificate.number.Prime := by
  simp only [holds, Bool.and_eq_true, decide_eq_true_eq, beq_iff_eq, List.all_eq_true,
    bne_iff_ne] at checked
  obtain ⟨⟨⟨large, product⟩, last⟩, before⟩ := checked
  refine lucas_primality _ (certificate.root : ZMod certificate.number) ?_ ?_
  · exact (cast_pow_eq_one_iff large _ _).mpr last
  · intro divisor divisorPrime divides
    rw [← product] at divides
    obtain ⟨factor, isFactor, dividesFactor⟩ :=
      (Prime.dvd_prod_iff divisorPrime.prime).mp divides
    obtain rfl : divisor = factor :=
      (Nat.prime_dvd_prime_iff_eq divisorPrime (primes factor isFactor)).mp dividesFactor
    exact mt (cast_pow_eq_one_iff large _ _).mp (before divisor isFactor)

end Certificate

/-! ## The prime of the curve -/

/-- Most factors are small enough to be divided through; the large ones stand first in their
certificates and have certificates of their own. -/
theorem isPrime_prime : Nat.Prime prime := by
  have prime58 : Nat.Prime 173378833005251801 :=
    Certificate.isPrime ⟨_, 6, [2, 2, 2, 5, 5, 2621, 24809, 13331831]⟩ (by decide +kernel)
      (by norm_num)
  have prime75 : Nat.Prime 22149492674086928081353 :=
    Certificate.isPrime ⟨_, 5, [173378833005251801, 2, 2, 2, 3, 5323]⟩ (by decide +kernel)
      (List.forall_mem_cons.mpr ⟨prime58, by norm_num⟩)
  have prime77 : Nat.Prime 132896956044521568488119 :=
    Certificate.isPrime ⟨_, 6, [22149492674086928081353, 2, 3]⟩ (by decide +kernel)
      (List.forall_mem_cons.mpr ⟨prime75, by norm_num⟩)
  have prime128 : Nat.Prime 255515944373312847190720520512484175977 :=
    Certificate.isPrime
      ⟨_, 3, [2, 2, 2, 7, 7, 11, 1627, 2657, 4423, 41201, 96557, 7240687, 107590001]⟩
      (by decide +kernel) (by norm_num)
  have prime237 :
      Nat.Prime 205115282021455665897114700593932402728804164701536103180137503955397371 :=
    Certificate.isPrime
      ⟨_, 10, [132896956044521568488119, 255515944373312847190720520512484175977,
        2, 3, 5, 29, 29, 31, 7723]⟩
      (by decide +kernel)
      (List.forall_mem_cons.mpr ⟨prime77, List.forall_mem_cons.mpr ⟨prime128, by norm_num⟩⟩)
  exact Certificate.isPrime
    ⟨prime, 3, [205115282021455665897114700593932402728804164701536103180137503955397371,
      2, 3, 7, 13441]⟩
    (by decide +kernel) (List.forall_mem_cons.mpr ⟨prime237, by norm_num⟩)

instance : Fact (Nat.Prime prime) :=
  ⟨isPrime_prime⟩

end ChainTx.Secp256k1
