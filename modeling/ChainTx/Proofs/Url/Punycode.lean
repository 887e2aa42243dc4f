import ChainTx.Proofs.Text.Cutting
import ChainTx.Url.Punycode

/-!
Contract: Punycode spells every label, and the reader takes the spelling back.

Owns:
- numbers in digits of varying base, which are read back whatever follows them;
- the invariant that ties the writer to the reader, with one law for each move of the writer;
- the round trip, and which characters a spelling has.

Does not own: labels that start with the mark.

## What ties the two

The writer visits the label once for each code point beyond ASCII, in ascending order, and counts
the places where the next insertion could be. The reader counts through the same places: all
positions of the label so far for one code point, then all positions for the next. When the writer
stands at a place, the reader's index and the writer's count together say how many places the reader
has to pass, and so the number that is written leads it to the same one.
-/

set_option autoImplicit false

namespace ChainTx.Url.Punycode

/-! ## Numbers -/

private theorem digitValue?_digit
    {value : Nat}
    (small : value < 36) :
    digitValue? (digit value) = some value := by
  have byIndex : ∀ index : Fin 36, digitValue? (digit index.val) = some index.val := by decide
  exact byIndex ⟨value, small⟩

private theorem threshold_pos (position bias : Nat) :
    1 ≤ threshold position bias := by
  unfold threshold
  split
  · exact Nat.le_refl 1
  · split <;> omega

private theorem threshold_le (position bias : Nat) :
    threshold position bias ≤ 26 := by
  unfold threshold
  split
  · omega
  · split <;> omega

private theorem encodeNumber_ne_nil (bias position number : Nat) :
    encodeNumber bias position number ≠ [] := by
  rw [encodeNumber]
  split
  · exact List.cons_ne_nil _ _
  · exact List.cons_ne_nil _ _

/-- The digits of a number are read as the number, in units of the weight, and nothing behind them
is touched. -/
theorem decodeNumber_encodeNumber
    (bias position number weight sum : Nat)
    (rest : List Char) :
    decodeNumber bias (encodeNumber bias position number ++ rest) position weight sum
      = some (sum + number * weight, rest) := by
  fun_induction encodeNumber bias position number generalizing weight sum with
  | case1 position number limit small =>
      have digitLt : number < 36 := by
        have bound := threshold_le position bias
        omega
      rw [List.singleton_append, decodeNumber, digitValue?_digit digitLt]
      exact if_pos small
  | case2 position number limit large inductionHypothesis =>
      have limitPos := threshold_pos position bias
      have limitLe := threshold_le position bias
      have remainderLt : (number - limit) % (36 - limit) < 36 - limit := Nat.mod_lt _ (by omega)
      have parts := Nat.mod_add_div (number - limit) (36 - limit)
      have digitLt : limit + (number - limit) % (36 - limit) < 36 := by omega
      rw [List.cons_append, decodeNumber, digitValue?_digit digitLt]
      refine (if_neg (by omega)).trans ?_
      rw [inductionHypothesis]
      generalize (number - limit) % (36 - limit) = remainder at *
      generalize (number - limit) / (36 - limit) = quotient at *
      have whole : number = limit + remainder + quotient * (36 - limit) := by
        rw [Nat.mul_comm quotient]
        omega
      have weighted : quotient * (weight * (36 - limit)) = quotient * (36 - limit) * weight := by
        rw [Nat.mul_comm weight, Nat.mul_assoc]
      rw [whole, weighted, Nat.add_mul (limit + remainder), Nat.add_assoc]

/-- Letters from `a` to `z` and digits from `0` to `9`. -/
def IsDigit (char : Char) : Prop :=
  48 ≤ char.toNat ∧ char.toNat ≤ 57 ∨ 97 ≤ char.toNat ∧ char.toNat ≤ 122

instance (char : Char) : Decidable (IsDigit char) :=
  inferInstanceAs (Decidable (_ ∨ _))

private theorem isDigit_of_mem_encodeNumber
    {bias position number : Nat}
    {char : Char}
    (isIn : char ∈ encodeNumber bias position number) :
    IsDigit char := by
  have byIndex : ∀ index : Fin 36, IsDigit (digit index.val) := by decide
  fun_induction encodeNumber bias position number with
  | case1 position number limit small =>
      have bound := threshold_le position bias
      rw [List.mem_singleton.mp isIn]
      exact byIndex ⟨number, by omega⟩
  | case2 position number limit large inductionHypothesis =>
      have limitPos := threshold_pos position bias
      have limitLe := threshold_le position bias
      have remainderLt : (number - limit) % (36 - limit) < 36 - limit := Nat.mod_lt _ (by omega)
      rcases List.mem_cons.mp isIn with rfl | inRest
      · exact byIndex ⟨limit + (number - limit) % (36 - limit), by omega⟩
      · exact inductionHypothesis inRest

/-! ## The reader follows the writer -/

/-- What the writer has written leads the reader to a label. The reader stands before the place
`front` of the code point `target` once it has passed as many places as the writer has counted. -/
structure Follows (basic : List Char) (state : Encoder) (target front : Nat)
    (label : List Char) : Prop where
  handled : state.handled = label.length
  basic_le : basic.length ≤ label.length
  digits : ∀ char ∈ state.output, IsDigit char
  reader : ∃ point index count,
    count ≤ state.output.length
      ∧ (∀ rounds rest,
        decodeInsertions (rounds + count) (state.output ++ rest) 128 0 72 basic
          = decodeInsertions rounds rest point index state.bias label)
      ∧ point ≤ target
      ∧ point * (label.length + 1) + (index + state.delta) = target * (label.length + 1) + front
      ∧ (state.handled == basic.length) = (index == 0 && point == 128)

namespace Follows

variable {basic label : List Char} {state : Encoder} {target front : Nat}

private theorem start (basic : List Char) :
    Follows basic ⟨[], 0, 72, basic.length⟩ 128 0 basic where
  handled := rfl
  basic_le := Nat.le_refl _
  digits := nofun
  reader := ⟨128, 0, 0, Nat.le_refl _, fun _ _ => rfl, Nat.le_refl _, rfl, beq_self_eq_true _⟩

/-- Places that the writer counts are places that the reader will pass. -/
theorem pass
    (follows : Follows basic state target front label)
    (later behind steps : Nat)
    (forward : target ≤ later)
    (counted : later * (label.length + 1) + behind = target * (label.length + 1) + front + steps) :
    Follows basic { state with delta := state.delta + steps } later behind label := by
  obtain ⟨point, index, count, short, reads, reached, places, first⟩ := follows.reader
  refine ⟨follows.handled, follows.basic_le, follows.digits, point, index, count, short, reads,
    Nat.le_trans reached forward, ?_, first⟩
  change _ + (index + (state.delta + steps)) = _
  omega

end Follows

/-- The reader inserts a character that its number leads to. -/
theorem decodeInsertions_of_decodeNumber
    {rounds point index bias total : Nat}
    {digits rest label : List Char}
    {char : Char}
    (nonempty : digits ≠ [])
    (read : decodeNumber bias digits 36 1 index = some (total, rest))
    (reached : point + total / (label.length + 1) = char.toNat) :
    decodeInsertions (rounds + 1) digits point index bias label
      = decodeInsertions rounds rest char.toNat (total % (label.length + 1) + 1)
          (adapt (total - index) (label.length + 1) (index == 0 && point == 128))
          (label.take (total % (label.length + 1)) ++ char
            :: label.drop (total % (label.length + 1))) := by
  have isScalar : ¬(0x110000 ≤ char.toNat ∨ 0xD800 ≤ char.toNat ∧ char.toNat ≤ 0xDFFF) := by
    have valid : char.toNat.isValidChar := char.valid
    unfold Nat.isValidChar at valid
    omega
  obtain ⟨first, others, rfl⟩ := List.exists_cons_of_ne_nil nonempty
  rw [decodeInsertions, read]
  · simp only [reached, Char.ofNat_toNat]
    exact if_neg isScalar
  · exact List.cons_ne_nil _ _

namespace Follows

variable {basic label : List Char} {state : Encoder} {front : Nat} {char : Char}

/-- Where the writer stands at the target, the number that it writes makes the reader insert
there. -/
theorem insert
    (follows : Follows basic state char.toNat front label)
    (inside : front ≤ label.length) :
    Follows basic
      { output := state.output ++ encodeNumber state.bias 36 state.delta
        delta := 0
        bias := adapt state.delta (state.handled + 1) (state.handled == basic.length)
        handled := state.handled + 1 }
      char.toNat (front + 1) (label.take front ++ char :: label.drop front) := by
  obtain ⟨point, index, count, short, reads, reached, places, first⟩ := follows.reader
  have longer : (label.take front ++ char :: label.drop front).length = label.length + 1 := by
    rw [List.length_append, List.length_cons, List.length_take_of_le inside, List.length_drop]
    omega
  have basicLe := follows.basic_le
  have total : index + state.delta = front + (label.length + 1) * (char.toNat - point) := by
    rw [Nat.mul_comm, Nat.sub_mul]
    have ordered := Nat.mul_le_mul_right (label.length + 1) reached
    omega
  have quotient : (index + state.delta) / (label.length + 1) = char.toNat - point := by
    rw [total, Nat.add_mul_div_left _ _ (Nat.succ_pos _), Nat.div_eq_of_lt (by omega), Nat.zero_add]
  have remainder : (index + state.delta) % (label.length + 1) = front := by
    rw [total, Nat.add_mul_mod_self_left, Nat.mod_eq_of_lt (by omega)]
  refine ⟨?_, ?_, ?_, char.toNat, front + 1, count + 1, ?_, ?_, Nat.le_refl _, rfl, ?_⟩
  · exact (congrArg (· + 1) follows.handled).trans longer.symm
  · omega
  · intro other isIn
    exact (List.mem_append.mp isIn).elim (follows.digits other) isDigit_of_mem_encodeNumber
  · have written := List.length_pos_iff.mpr (encodeNumber_ne_nil state.bias 36 state.delta)
    rw [List.length_append]
    omega
  · intro rounds rest
    have number :
        decodeNumber state.bias (encodeNumber state.bias 36 state.delta ++ rest) 36 1 index
          = some (index + state.delta, rest) := by
      rw [decodeNumber_encodeNumber, Nat.mul_one]
    have nonempty : encodeNumber state.bias 36 state.delta ++ rest ≠ [] :=
      List.append_ne_nil_of_left_ne_nil (encodeNumber_ne_nil _ _ _) _
    have arrives : point + (index + state.delta) / (label.length + 1) = char.toNat := by
      omega
    rw [List.append_assoc, ← Nat.add_assoc, Nat.add_right_comm, reads,
      decodeInsertions_of_decodeNumber nonempty number arrives, remainder, Nat.add_sub_cancel_left,
      follows.handled, ← first, follows.handled]
  · have handled := follows.handled
    have notFirst : (front + 1 == 0) = false := rfl
    rw [notFirst, Bool.false_and, beq_eq_false_iff_ne]
    change state.handled + 1 ≠ _
    omega

/-- One sweep of the writer over a label brings in the characters that are the target. -/
theorem sweep
    {point : Nat}
    (before behind : List Char)
    (follows : Follows basic state point (before.filter (·.toNat ≤ point)).length
      (before.filter (·.toNat ≤ point) ++ behind.filter (·.toNat < point))) :
    Follows basic (behind.foldl (Encoder.visit basic.length point) state) point
      ((before ++ behind).filter (·.toNat ≤ point)).length
      ((before ++ behind).filter (·.toNat ≤ point)) := by
  -- The label read so far has the point where it was visited, and lacks it where it was not yet.
  induction behind generalizing before state with
  | nil =>
      rw [List.filter_nil, List.append_nil] at follows
      rwa [List.append_nil, List.foldl_nil]
  | cons char rest inductionHypothesis =>
      rw [List.append_cons, List.foldl_cons]
      refine inductionHypothesis (before ++ [char]) ?_
      rw [List.filter_append, List.append_assoc, List.length_append]
      obtain below | same | above := Nat.lt_trichotomy char.toNat point
      · rw [List.filter_cons_of_pos (by simpa using below)] at follows
        rw [Encoder.visit, if_pos below,
          List.filter_cons_of_pos (by simpa using Nat.le_of_lt below)]
        exact follows.pass _ _ 1 (Nat.le_refl _) rfl
      · subst same
        rw [List.filter_cons_of_neg (by simp)] at follows
        rw [Encoder.visit, if_neg (Nat.lt_irrefl _), if_pos rfl,
          List.filter_cons_of_pos (by simp)]
        have inserted := follows.insert (by rw [List.length_append]; exact Nat.le_add_right _ _)
        rwa [List.take_left, List.drop_left] at inserted
      · rw [List.filter_cons_of_neg (by simp; omega)] at follows
        rw [Encoder.visit, if_neg (by omega), if_neg (by omega),
          List.filter_cons_of_neg (by simpa using above)]
        exact follows

/-- The writer goes on with ascending code points until the whole label is there. -/
theorem encodePoints
    {label : List Char}
    {points : List Nat}
    {next : Nat}
    (ascending : points.Pairwise (· < ·))
    (ahead : ∀ point ∈ points, next ≤ point)
    (complete : ∀ char ∈ label, next ≤ char.toNat → char.toNat ∈ points)
    (follows : Follows basic state next 0 (label.filter (·.toNat < next))) :
    ∃ last, Follows basic (encodePoints label basic.length points next state) last 0 label := by
  induction points generalizing state next with
  | nil =>
      have all : label.filter (·.toNat < next) = label := by
        refine List.filter_eq_self.mpr fun char isIn => decide_eq_true (Nat.lt_of_not_le ?_)
        exact fun large => List.not_mem_nil (complete char isIn large)
      rw [all] at follows
      exact ⟨next, follows⟩
  | cons point rest inductionHypothesis =>
      rw [List.pairwise_cons] at ascending
      have forward : next ≤ point := ahead point List.mem_cons_self
      have noneBetween : label.filter (·.toNat < next) = label.filter (·.toNat < point) := by
        refine List.filter_congr fun char isIn => decide_eq_decide.mpr ⟨(by omega), fun small => ?_⟩
        refine Nat.lt_of_not_le fun large => ?_
        rcases List.mem_cons.mp (complete char isIn large) with same | later
        · omega
        · have := ascending.1 _ later
          omega
      have through : label.filter (·.toNat ≤ point) = label.filter (·.toNat < point + 1) :=
        List.filter_congr fun char _ => decide_eq_decide.mpr Nat.lt_succ_iff.symm
      rw [noneBetween] at follows
      have widened := follows.pass point 0 ((point - next) * (state.handled + 1)) forward (by
        have ordered := Nat.mul_le_mul_right (state.handled + 1) forward
        rw [← follows.handled, Nat.sub_mul]
        omega)
      have swept := sweep [] label widened
      rw [List.nil_append, through] at swept
      have finished := swept.pass (point + 1) 0 1 (Nat.le_succ _) (by
        rw [Nat.add_mul]
        omega)
      refine inductionHypothesis ascending.2 ascending.1 ?_ finished
      intro char isIn large
      rcases List.mem_cons.mp (complete char isIn (by omega)) with same | later
      · omega
      · exact later

end Follows

/-! ## The round trip -/

private theorem mem_insertAscending
    {value other : Nat}
    {ascending : List Nat} :
    other ∈ insertAscending value ascending ↔ other = value ∨ other ∈ ascending := by
  induction ascending with
  | nil => rw [insertAscending, List.mem_singleton, or_iff_left List.not_mem_nil]
  | cons head rest inductionHypothesis =>
      rw [insertAscending]
      split
      · rw [List.mem_cons]
      · split
        · rename_i same
          subst same
          rw [List.mem_cons, or_self_left]
        · rw [List.mem_cons, List.mem_cons, inductionHypothesis, or_left_comm]

private theorem pairwise_insertAscending
    {value : Nat}
    {ascending : List Nat}
    (ordered : ascending.Pairwise (· < ·)) :
    (insertAscending value ascending).Pairwise (· < ·) := by
  induction ascending with
  | nil => exact List.pairwise_singleton _ _
  | cons head rest inductionHypothesis =>
      have ⟨headLeast, restOrdered⟩ := List.pairwise_cons.mp ordered
      rw [insertAscending]
      split
      · rename_i small
        refine List.pairwise_cons.mpr ⟨fun other isIn => ?_, ordered⟩
        rcases List.mem_cons.mp isIn with rfl | later
        · exact small
        · exact Nat.lt_trans small (headLeast other later)
      · split
        · exact ordered
        · refine List.pairwise_cons.mpr ⟨fun other isIn => ?_, inductionHypothesis restOrdered⟩
          rcases mem_insertAscending.mp isIn with rfl | later
          · omega
          · exact headLeast other later

private theorem mem_points_iff
    {chars : List Char}
    {ascending : List Nat}
    {point : Nat} :
    point ∈ chars.foldl (fun ascending char => insertAscending char.toNat ascending) ascending
      ↔ point ∈ ascending ∨ ∃ char ∈ chars, char.toNat = point := by
  induction chars generalizing ascending with
  | nil => simp
  | cons char rest inductionHypothesis =>
      have here : (∃ other ∈ char :: rest, other.toNat = point)
          ↔ char.toNat = point ∨ ∃ other ∈ rest, other.toNat = point := by
        simp
      rw [List.foldl_cons, inductionHypothesis, mem_insertAscending, here, eq_comm, or_assoc,
        or_left_comm]

private theorem pairwise_points
    {chars : List Char}
    {ascending : List Nat}
    (ordered : ascending.Pairwise (· < ·)) :
    (chars.foldl (fun ascending char => insertAscending char.toNat ascending) ascending).Pairwise
      (· < ·) := by
  induction chars generalizing ascending with
  | nil => exact ordered
  | cons char rest inductionHypothesis =>
      exact inductionHypothesis (pairwise_insertAscending ordered)

/-- A spelling is the ASCII characters of a label, a hyphen behind them if there are any, and digits
that lead the reader to the label. -/
theorem exists_follows_encode (label : List Char) :
    ∃ state last,
      Follows (label.filter (·.toNat < 128)) state last 0 label
        ∧ encode label = label.filter (·.toNat < 128)
          ++ (if (label.filter (·.toNat < 128)).isEmpty then [] else ['-']) ++ state.output := by
  have ahead (point : Nat)
      (isIn : point ∈ (label.filter (128 ≤ ·.toNat)).foldl
        (fun ascending char => insertAscending char.toNat ascending) []) :
      128 ≤ point := by
    obtain impossible | ⟨char, isLarge, rfl⟩ := mem_points_iff.mp isIn
    · cases impossible
    · exact of_decide_eq_true (List.mem_filter.mp isLarge).2
  have complete (char : Char) (isIn : char ∈ label) (large : 128 ≤ char.toNat) :
      char.toNat ∈ (label.filter (128 ≤ ·.toNat)).foldl
        (fun ascending char => insertAscending char.toNat ascending) [] :=
    mem_points_iff.mpr (.inr ⟨char, List.mem_filter.mpr ⟨isIn, decide_eq_true large⟩, rfl⟩)
  obtain ⟨last, follows⟩ := Follows.encodePoints (pairwise_points List.Pairwise.nil) ahead complete
    (Follows.start (label.filter (·.toNat < 128)))
  exact ⟨_, last, follows, rfl⟩

private theorem IsDigit.ne_hyphen
    {char : Char}
    (isDigit : IsDigit char) :
    (char != '-') = true := by
  rw [bne_iff_ne]
  rintro rfl
  exact absurd isDigit (by decide)

/-- The characters of a spelling are ASCII characters of the label, digits and hyphens. -/
theorem of_mem_encode
    {label : List Char}
    {char : Char}
    (isIn : char ∈ encode label) :
    char ∈ label ∧ char.toNat < 128 ∨ char = '-' ∨ IsDigit char := by
  obtain ⟨state, last, follows, spelling⟩ := exists_follows_encode label
  rw [spelling, List.mem_append, List.mem_append] at isIn
  obtain (inBasic | inMark) | inDigits := isIn
  · exact .inl (by simpa using List.mem_filter.mp inBasic)
  · split at inMark
    · cases inMark
    · exact .inr (.inl (List.mem_singleton.mp inMark))
  · exact .inr (.inr (follows.digits char inDigits))

/-- Every label is read back from its spelling. -/
theorem decode?_encode (label : List Char) :
    decode? (encode label) = some label := by
  obtain ⟨state, last, follows, spelling⟩ := exists_follows_encode label
  obtain ⟨point, index, count, short, reads, -⟩ := follows.reader
  have whole := reads (state.output.length - count) []
  rw [Nat.sub_add_cancel short, List.append_nil, decodeInsertions] at whole
  have noHyphen : ∀ char ∈ state.output.reverse, (char != '-') = true :=
    fun char isIn => (follows.digits char (List.mem_reverse.mp isIn)).ne_hyphen
  rw [spelling, decode?]
  by_cases noBasic : (label.filter (·.toNat < 128)) = []
  · rw [noBasic] at whole
    rw [noBasic, List.isEmpty_nil, if_pos rfl, List.nil_append, List.nil_append,
      span_eq_self noHyphen]
    exact whole
  · rw [if_neg (mt List.isEmpty_iff.mp noBasic), List.append_assoc, List.reverse_append,
      List.reverse_append, List.reverse_singleton, List.append_assoc, List.singleton_append,
      span_append_of_forall noHyphen (by rintro _ ⟨⟩; rfl)]
    simpa using whole

end ChainTx.Url.Punycode
