import ChainTx.Proofs.Url.Punycode
import ChainTx.Url.Domain

/-!
Contract: the ASCII form of a domain name is its own ASCII form.

Owns:
- characters of ASCII that stand for themselves in a name;
- labels that are already in their ASCII form;
- that a name in its ASCII form has only such characters and is not changed again.

Does not own: names that are addresses.
-/

set_option autoImplicit false

namespace ChainTx.Url.Domain

/-! ## Characters -/

private theorem toNat_ofNat
    {point : Nat}
    (valid : point.isValidChar) :
    (Char.ofNat point).toNat = point := by
  rw [Char.ofNat, dif_pos valid]
  rfl

/-- Letters beyond ASCII have no lower-case letter in it. -/
theorem le_toNat_toLower
    {char : Char}
    (large : 128 ≤ char.toNat) :
    128 ≤ (LetterCase.toLower char).toNat := by
  have inTable : ∀ range ∈ LetterCase.ranges,
      128 ≤ (range.1 : Int) + range.2.2.2
        ∧ (range.2.1 + range.2.2.2 < 0xD800
          ∨ 0xDFFF < (range.1 : Int) + range.2.2.2 ∧ range.2.1 + range.2.2.2 < 0x110000) := by
    decide +kernel
  rw [LetterCase.toLower, if_neg (by omega)]
  simp only
  split
  · rename_i first last step distance found
    have within := Array.find?_some found
    simp only [Bool.and_eq_true, decide_eq_true_eq] at within
    obtain ⟨fromAscii, isScalar⟩ := inTable _ (Array.mem_of_find?_eq_some found)
    simp only at fromAscii isScalar
    have valid : ((char.toNat : Int) + distance).toNat.isValidChar := by
      unfold Nat.isValidChar
      omega
    rw [toNat_ofNat valid]
    omega
  · exact large

/-- Characters of ASCII that a name holds as they are. -/
def IsPlain (char : Char) : Prop :=
  char.toNat < 128 ∧ isForbidden char = false ∧ mapChar char = char

instance (char : Char) : Decidable (IsPlain char) :=
  inferInstanceAs (Decidable (_ ∧ _))

private theorem IsPlain.isValid
    {char : Char}
    (plain : IsPlain char) :
    isValid char = true := by
  rw [Domain.isValid, if_pos plain.1, plain.2.1]
  rfl

private theorem isPlain_of_isValid
    {char : Char}
    (valid : isValid char = true)
    (ascii : char.toNat < 128)
    (mapped : mapChar char = char) :
    IsPlain char := by
  rw [isValid, if_pos ascii] at valid
  exact ⟨ascii, by simpa using valid, mapped⟩

theorem isPlain_of_isDigit
    {char : Char}
    (isDigit : Punycode.IsDigit char) :
    IsPlain char ∧ char ≠ '.' := by
  have ascii : char.toNat < 128 := by
    rw [Punycode.IsDigit] at isDigit
    omega
  exact of_ascii (fun char => Punycode.IsDigit char → IsPlain char ∧ char ≠ '.') (by decide +kernel)
    ascii isDigit

/-- Characters that come out of the mapping in ASCII are mapped to themselves. -/
theorem mapChar_mapChar
    {char : Char}
    (ascii : (mapChar char).toNat < 128) :
    mapChar (mapChar char) = mapChar char := by
  have letters {letter : Char} (small : letter.toNat < 128) :
      mapChar letter.toLower = letter.toLower :=
    of_ascii (fun letter => mapChar letter.toLower = letter.toLower) (by decide +kernel) small
  by_cases isDot : char.toNat = 0x3002 ∨ char.toNat = 0xFF0E ∨ char.toNat = 0xFF61
  · have dot : mapChar char = '.' := by
      simp [mapChar, isDot, or_assoc]
    rw [dot]
    decide
  · by_cases isWide : 0xFF01 ≤ char.toNat ∧ char.toNat ≤ 0xFF5E
    · have narrow : mapChar char = (Char.ofNat (char.toNat - 0xFEE0)).toLower := by
        simp [mapChar, isDot, isWide, or_assoc]
      have small : (Char.ofNat (char.toNat - 0xFEE0)).toNat < 128 := by
        have valid : (char.toNat - 0xFEE0).isValidChar := .inl (by omega)
        rw [toNat_ofNat valid]
        omega
      rw [narrow]
      exact letters small
    · have lower : mapChar char = LetterCase.toLower char := by
        simp [mapChar, isDot, isWide, or_assoc]
      rw [lower] at ascii ⊢
      by_cases small : char.toNat < 128
      · rw [LetterCase.toLower, if_pos small]
        exact letters small
      · have large := le_toNat_toLower (Nat.le_of_not_lt small)
        omega

/-! ## Labels -/

/-- A label in its ASCII form. -/
structure IsAsciiLabel (label : List Char) : Prop where
  plain : ∀ char ∈ label, IsPlain char ∧ char ≠ '.'
  kept : labelToAscii? label = some label

/-- Behind the mark stands the spelling of a label that is not of ASCII. -/
theorem isAsciiLabel_marked
    {decoded : List Char}
    (valid : ∀ char ∈ decoded, isValid char = true)
    (beyond : ∃ char ∈ decoded, 128 ≤ char.toNat)
    (plain : ∀ char ∈ Punycode.encode decoded, IsPlain char ∧ char ≠ '.') :
    IsAsciiLabel ('x' :: 'n' :: '-' :: '-' :: Punycode.encode decoded) := by
  have mark : ∀ char ∈ ['x', 'n', '-', '-'], IsPlain char ∧ char ≠ '.' := by
    simp only [List.forall_mem_cons]
    exact ⟨by decide +kernel, by decide +kernel, by decide +kernel, by decide +kernel,
      List.forall_mem_nil _⟩
  have checks : (decoded.all isValid && decoded.any (128 ≤ ·.toNat)
      && Punycode.encode decoded == Punycode.encode decoded) = true := by
    simp only [Bool.and_eq_true, List.all_eq_true, List.any_eq_true, decide_eq_true_eq,
      beq_self_eq_true, and_true]
    exact ⟨valid, beyond⟩
  refine ⟨List.forall_mem_append.mpr ⟨mark, plain⟩, ?_⟩
  rw [labelToAscii?, Punycode.decode?_encode]
  exact if_pos checks

/-- The ASCII form of a mapped label is its own ASCII form. -/
theorem isAsciiLabel_of_labelToAscii?
    {label ascii : List Char}
    (mapped : ∀ char ∈ label, char.toNat < 128 → mapChar char = char)
    (noDot : '.' ∉ label)
    (formed : labelToAscii? label = some ascii) :
    IsAsciiLabel ascii := by
  -- A label passes with a mark of its own, as one of ASCII, or spelled anew behind the mark.
  have kept := formed
  have notDot : ∀ char ∈ label, char ≠ '.' := fun char isIn => ne_of_mem_of_not_mem isIn noDot
  unfold labelToAscii? at formed
  split at formed
  · rename_i spelling
    split at formed
    · rename_i decoded read
      rw [Option.ite_none_right_eq_some] at formed
      obtain ⟨checks, same⟩ := formed
      cases same
      simp only [Bool.and_eq_true, List.all_eq_true, List.any_eq_true, decide_eq_true_eq,
        beq_iff_eq] at checks
      obtain ⟨⟨valid, beyond⟩, rfl⟩ := checks
      refine isAsciiLabel_marked valid beyond fun char isIn => ?_
      have inLabel : char ∈ 'x' :: 'n' :: '-' :: '-' :: Punycode.encode decoded := by
        simp [isIn]
      refine ⟨?_, notDot char inLabel⟩
      obtain ⟨inDecoded, small⟩ | rfl | isDigit := Punycode.of_mem_encode isIn
      · exact isPlain_of_isValid (valid char inDecoded) small (mapped char inLabel small)
      · decide +kernel
      · exact (isPlain_of_isDigit isDigit).1
    · cases formed
  · split at formed
    · cases formed
    · rename_i valid
      simp only [Bool.not_eq_true', Bool.not_eq_false, List.all_eq_true] at valid
      have plain : ∀ char ∈ label, char.toNat < 128 → IsPlain char ∧ char ≠ '.' :=
        fun char isIn small =>
          ⟨isPlain_of_isValid (valid char isIn) small (mapped char isIn small), notDot char isIn⟩
      split at formed
      · rename_i ascii
        cases formed
        rw [List.all_eq_true] at ascii
        exact ⟨fun char isIn => plain char isIn (of_decide_eq_true (ascii char isIn)), kept⟩
      · rename_i beyond
        cases formed
        refine isAsciiLabel_marked valid (by simpa using beyond) fun char isIn => ?_
        obtain ⟨inLabel, small⟩ | rfl | isDigit := Punycode.of_mem_encode isIn
        · exact plain char inLabel small
        · decide +kernel
        · exact isPlain_of_isDigit isDigit

/-- Labels of lower-case letters and digits are in their ASCII form. -/
theorem isAsciiLabel_of_digits
    {label : List Char}
    (areDigits : ∀ char ∈ label, Punycode.IsDigit char) :
    IsAsciiLabel label := by
  have plain : ∀ char ∈ label, IsPlain char ∧ char ≠ '.' :=
    fun char isIn => isPlain_of_isDigit (areDigits char isIn)
  have valid : label.all isValid = true :=
    List.all_eq_true.mpr fun char isIn => (plain char isIn).1.isValid
  have ascii : label.all (·.toNat < 128) = true :=
    List.all_eq_true.mpr fun char isIn => decide_eq_true (plain char isIn).1.1
  refine ⟨plain, ?_⟩
  unfold labelToAscii?
  split
  · exact absurd (areDigits '-' (by simp)) (by decide)
  · rw [valid, ascii]
    rfl

/-! ## Names -/

/-- A name that is its own ASCII form, of characters that mean nothing else in a URL. -/
structure IsAsciiName (name : List Char) : Prop where
  plain : ∀ char ∈ name, IsPlain char
  kept : toAscii? name = some name

/-- Labels in their ASCII form, parted by dots, are a name in its ASCII form. -/
theorem isAsciiName_intercalate
    {labels : List (List Char)}
    (nonempty : labels ≠ [])
    (ascii : ∀ label ∈ labels, IsAsciiLabel label) :
    IsAsciiName (['.'].intercalate labels) := by
  have plain : ∀ char ∈ ['.'].intercalate labels, IsPlain char := by
    intro char isIn
    obtain inMark | ⟨label, isLabel, inLabel⟩ := mem_or_mem_of_mem_intercalate isIn
    · rw [List.mem_singleton.mp inMark]
      decide +kernel
    · exact ((ascii label isLabel).plain char inLabel).1
  have covered : (['.'].intercalate labels).all isCovered = true :=
    List.all_eq_true.mpr fun char isIn =>
      of_ascii (fun char => isCovered char = true) (by decide +kernel) (plain char isIn).1
  have shown : (['.'].intercalate labels).filter (!isIgnorable ·) = ['.'].intercalate labels := by
    refine List.filter_eq_self.mpr fun char isIn => ?_
    exact of_ascii (fun char => (!isIgnorable char) = true) (by decide +kernel) (plain char isIn).1
  have mapped : (['.'].intercalate labels).map mapChar = ['.'].intercalate labels :=
    (List.map_congr_left fun char isIn => (plain char isIn).2.2).trans (List.map_id _)
  have cut : (['.'].intercalate labels).splitOn '.' = labels :=
    List.splitOn_intercalate '.' (fun label isLabel isIn =>
      ((ascii label isLabel).plain '.' isIn).2 rfl) nonempty
  have formed : labels.mapM labelToAscii? = some labels :=
    (mapM_eq_some_map fun label isLabel => (ascii label isLabel).kept).trans
      (congrArg some (List.map_id' labels))
  refine ⟨plain, ?_⟩
  rw [toAscii?, if_pos covered, mappedLabels, shown, mapped, splitOnChar_eq_splitOn, cut, formed]
  rfl

/-- Only names of covered characters have an ASCII form. -/
theorem isCovered_of_toAscii?
    {name domain : List Char}
    (formed : toAscii? name = some domain) :
    ∀ char ∈ name, isCovered char = true := by
  rw [toAscii?, Option.ite_none_right_eq_some] at formed
  exact List.all_eq_true.mp formed.1

/-- The ASCII form of a name is its own ASCII form. -/
theorem isAsciiName_of_toAscii?
    {name domain : List Char}
    (formed : toAscii? name = some domain) :
    IsAsciiName domain := by
  rw [toAscii?, Option.ite_none_right_eq_some] at formed
  replace formed := formed.2
  obtain ⟨labels, labelsFormed, rfl⟩ := Option.map_eq_some_iff.mp formed
  refine isAsciiName_intercalate ?_ fun label isLabel => ?_
  · rintro rfl
    cases pieces : mappedLabels name with
    | nil => exact absurd pieces (splitOnChar_ne_nil _ _)
    | cons piece rest =>
        rw [pieces, List.mapM_cons] at labelsFormed
        obtain ⟨first, -, labelsFormed⟩ := Option.bind_eq_some_iff.mp labelsFormed
        obtain ⟨others, -, impossible⟩ := Option.bind_eq_some_iff.mp labelsFormed
        cases impossible
  · obtain ⟨piece, isPiece, labelFormed⟩ := exists_of_mem_of_mapM labelsFormed isLabel
    refine isAsciiLabel_of_labelToAscii? (fun char isIn ascii => ?_) (fun isIn => ?_) labelFormed
    · obtain ⟨source, -, rfl⟩ := List.mem_map.mp (of_mem_splitOnChar isPiece isIn).1
      exact mapChar_mapChar ascii
    · exact (of_mem_splitOnChar isPiece isIn).2 rfl

end ChainTx.Url.Domain
