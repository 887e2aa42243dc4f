import ChainTx.Proofs.Checks
import ChainTx.Proofs.Text.Cutting
import ChainTx.Proofs.Text.Decimal
import ChainTx.Version
import Mathlib.Data.Prod.Lex

/-!
Contract: which texts are versions, and what a later version has.

Owns:
- the writing of versions: two or three runs of digits with points between them, with blanks at both
  ends, a mark in front and a suffix behind;
- that the reader takes these texts and no other, and the numbers it reads in them;
- the order of versions, and that a later one has the features and the transaction types of an earlier
  one.

Does not own: where a version comes from.
-/

set_option autoImplicit false

namespace ChainTx

namespace Semver

variable {version : Semver} {runs : List (List Char)} {chars : List Char}

/-! ## Writing -/

/-- A text of runs with points between them, with blanks at both ends. In front of the runs there may
be a mark, and behind them a suffix that starts with a minus or a plus sign. -/
def IsWritten (raw : List Char) (runs : List (List Char)) : Prop :=
  ∃ before mark suffix after,
    raw = before ++ (mark ++ ['.'].intercalate runs ++ suffix) ++ after
      ∧ (∀ char ∈ before, isBlank char = true)
      ∧ (∀ char ∈ after, isBlank char = true)
      ∧ mark ∈ [[], ['v'], ['V']]
      ∧ ∀ char ∈ suffix.head?, char = '-' ∨ char = '+'

/-- Runs of digits with the numbers of a version; that of the patch may be left out if it is zero. -/
structure Names (runs : List (List Char)) (version : Semver) : Prop where
  areRuns : ∀ run ∈ runs, Decimal.IsRun run
  values : runs.map Decimal.value = [version.major.toNat, version.minor.toNat] ∧ version.patch = 0
    ∨ runs.map Decimal.value = [version.major.toNat, version.minor.toNat, version.patch.toNat]

/-! ## The core -/

private theorem mapM_uint64?_eq_some_iff
    {numbers : List UInt64}
    (unsigned : ∀ run ∈ runs, '+' ∉ run) :
    runs.mapM Decimal.uint64? = some numbers
      ↔ (∀ run ∈ runs, Decimal.IsRun run)
        ∧ runs.map Decimal.value = numbers.map UInt64.toNat := by
  induction runs generalizing numbers with
  | nil => cases numbers <;> simp
  | cons run others inductionHypothesis =>
      obtain ⟨runUnsigned, othersUnsigned⟩ := List.forall_mem_cons.mp unsigned
      rw [List.mapM_cons]
      cases numbers with
      | nil => simp [Option.bind_eq_some_iff]
      | cons number rest =>
          simp [Option.bind_eq_some_iff, Decimal.uint64?_eq_some_iff runUnsigned,
            inductionHypothesis othersUnsigned]
          grind

private theorem Names.nonempty (names : Names runs version) : runs ≠ [] := by
  rintro rfl
  rcases names.values with ⟨values, -⟩ | values <;> cases values

private theorem ofCore?_eq_some_iff (unsigned : '+' ∉ chars) :
    ofCore? chars = some version ↔ ∃ runs, chars = ['.'].intercalate runs ∧ Names runs version := by
  constructor
  · intro read
    obtain ⟨numbers, numbersRead, read⟩ := Option.bind_eq_some_iff.mp read
    have joined : chars = ['.'].intercalate (splitOnChar '.' chars) := by
      rw [splitOnChar_eq_splitOn, List.intercalate_splitOn]
    have piecesUnsigned : ∀ run ∈ splitOnChar '.' chars, '+' ∉ run := fun run isPiece isIn =>
      unsigned (joined ▸ mem_intercalate_of_mem isPiece isIn)
    obtain ⟨areRuns, values⟩ := (mapM_uint64?_eq_some_iff piecesUnsigned).mp numbersRead
    refine ⟨splitOnChar '.' chars, joined, areRuns, ?_⟩
    rw [values]
    split at read
    · cases read
      exact .inl ⟨rfl, rfl⟩
    · cases read
      exact .inr rfl
    · cases read
  · rintro ⟨runs, rfl, names⟩
    have pointless : ∀ run ∈ runs, '.' ∉ run := fun run isIn point =>
      absurd ((names.areRuns run isIn).2 _ point) (by decide)
    have runsUnsigned : ∀ run ∈ runs, '+' ∉ run := fun run isIn sign =>
      absurd ((names.areRuns run isIn).2 _ sign) (by decide)
    rw [ofCore?, splitOnChar_eq_splitOn, List.splitOn_intercalate '.' pointless names.nonempty]
    rcases names.values with ⟨values, noPatch⟩ | values
    · have read : runs.mapM Decimal.uint64? = some [version.major, version.minor] :=
        (mapM_uint64?_eq_some_iff runsUnsigned).mpr ⟨names.areRuns, values⟩
      rw [read, ← noPatch]
      rfl
    · have read : runs.mapM Decimal.uint64? = some [version.major, version.minor, version.patch] :=
        (mapM_uint64?_eq_some_iff runsUnsigned).mpr ⟨names.areRuns, values⟩
      rw [read]
      rfl

/-! ## The whole text -/

private theorem exists_mark_append_dropMark (chars : List Char) :
    ∃ mark ∈ [[], ['v'], ['V']], chars = mark ++ dropMark chars := by
  unfold dropMark
  split
  · exact ⟨['v'], by simp, rfl⟩
  · exact ⟨['V'], by simp, rfl⟩
  · exact ⟨[], by simp, rfl⟩

private theorem dropMark_append
    {mark : List Char}
    (isMark : mark ∈ [[], ['v'], ['V']])
    {first : Char}
    (isDigit : Decimal.IsAsciiDigit first)
    (rest : List Char) :
    dropMark (mark ++ first :: rest) = first :: rest := by
  have unmarked : dropMark (first :: rest) = first :: rest := by
    unfold dropMark
    split
    · rename_i same
      cases same
      exact absurd isDigit (by decide)
    · rename_i same
      cases same
      exact absurd isDigit (by decide)
    · rfl
  simp only [List.mem_cons, List.not_mem_nil, or_false] at isMark
  rcases isMark with rfl | rfl | rfl
  · exact unmarked
  · rfl
  · rfl

private theorem Names.isAsciiDigit_or_point
    (names : Names runs version) :
    ∀ char ∈ ['.'].intercalate runs, Decimal.IsAsciiDigit char ∨ char = '.' := by
  intro char isIn
  rcases mem_or_mem_of_mem_intercalate isIn with isPoint | ⟨run, isRun, inRun⟩
  · exact .inr (List.mem_singleton.mp isPoint)
  · exact .inl ((names.areRuns run isRun).2 char inRun)

private theorem Names.exists_first
    (names : Names runs version) :
    ∃ first rest, ['.'].intercalate runs = first :: rest ∧ Decimal.IsAsciiDigit first := by
  cases isCons : runs with
  | nil => exact absurd isCons names.nonempty
  | cons run others =>
      obtain ⟨nonempty, areDigits⟩ := names.areRuns run (isCons ▸ List.mem_cons_self)
      cases run with
      | nil => exact absurd rfl nonempty
      | cons first rest =>
          cases others with
          | nil => exact ⟨first, _, rfl, areDigits first List.mem_cons_self⟩
          | cons => exact ⟨first, _, rfl, areDigits first List.mem_cons_self⟩

private theorem Names.not_isBlank
    (names : Names runs version)
    {mark : List Char}
    (isMark : mark ∈ [[], ['v'], ['V']]) :
    ∀ char ∈ mark ++ ['.'].intercalate runs, isBlank char = false := by
  have markNoBlank : ∀ char ∈ mark, isBlank char = false := by
    simp only [List.mem_cons, List.not_mem_nil, or_false] at isMark
    rcases isMark with rfl | rfl | rfl
    · exact List.forall_mem_nil _
    · exact List.forall_mem_singleton.mpr rfl
    · exact List.forall_mem_singleton.mpr rfl
  rw [List.forall_mem_append]
  refine ⟨markNoBlank, fun char isIn => ?_⟩
  rcases names.isAsciiDigit_or_point char isIn with isDigit | rfl
  · exact Decimal.not_isBlank_of_isAsciiDigit isDigit
  · decide

/-- No suffix starts inside the runs. -/
theorem Names.startsNoSuffix
    (names : Names runs version) :
    ∀ char ∈ ['.'].intercalate runs, (char != '-' && char != '+') = true := by
  intro char isIn
  rcases names.isAsciiDigit_or_point char isIn with isDigit | rfl
  · rw [Bool.and_eq_true, bne_iff_ne, bne_iff_ne]
    constructor
    · rintro rfl
      exact absurd isDigit (by decide)
    · rintro rfl
      exact absurd isDigit (by decide)
  · decide

/-- The core of a written version is its runs, with points between them. -/
theorem core_of_isWritten
    {raw : String}
    (written : IsWritten raw.toList runs)
    (names : Names runs version) :
    core raw = ['.'].intercalate runs := by
  obtain ⟨before, mark, suffix, after, parts, beforeBlank, afterBlank, isMark, starts⟩ := written
  obtain ⟨first, rest, begins, isDigit⟩ := names.exists_first
  have nonempty : mark ++ ['.'].intercalate runs ≠ [] := by simp [begins]
  have trimmed : Blank.trimChars raw.toList
      = mark ++ ['.'].intercalate runs ++ Blank.trimEnd suffix := by
    rw [parts, List.append_assoc, List.append_assoc _ suffix,
      Blank.trimChars_append beforeBlank nonempty (names.not_isBlank isMark),
      Blank.trimEnd_append_blanks afterBlank]
  have unmarked : dropMark (Blank.trimChars raw.toList)
      = ['.'].intercalate runs ++ Blank.trimEnd suffix := by
    rw [trimmed, List.append_assoc, begins, List.cons_append, dropMark_append isMark isDigit]
  -- Trimming shortens a suffix from behind, so that it still starts as it did.
  have stops : ∀ char ∈ (Blank.trimEnd suffix).head?, (char != '-' && char != '+') = false := by
    intro char isHead
    obtain ⟨_, suffixEq, -⟩ := Blank.exists_eq_trimEnd_append suffix
    have suffixHead : suffix.head? = some char := by
      rw [suffixEq, List.head?_append, isHead, Option.some_or]
    rcases starts char suffixHead with rfl | rfl <;> rfl
  have cut := span_append_of_forall names.startsNoSuffix stops
  rw [List.span_eq_takeWhile_dropWhile] at cut
  rw [core, unmarked]
  exact congrArg Prod.fst cut

/-- The runs in front of a suffix, or all that is left of a text, are written in it. -/
theorem isWritten_of_core
    {raw : String}
    (joined : core raw = ['.'].intercalate runs) :
    IsWritten raw.toList runs := by
  obtain ⟨before, after, parts, beforeBlank, afterBlank⟩ :=
    Blank.exists_eq_append_trimChars raw.toList
  obtain ⟨mark, isMark, trimmed⟩ := exists_mark_append_dropMark (Blank.trimChars raw.toList)
  let isCore (char : Char) : Bool := char != '-' && char != '+'
  refine ⟨before, mark, (dropMark (Blank.trimChars raw.toList)).dropWhile isCore, after, ?_,
    beforeBlank, afterBlank, isMark, ?_⟩
  · rw [← joined, core, List.append_assoc mark, List.takeWhile_append_dropWhile, ← trimmed]
    exact parts
  · intro char isHead
    have stops := List.head?_dropWhile_not isCore (dropMark (Blank.trimChars raw.toList))
    rw [Option.mem_def.mp isHead] at stops
    have isEnd : (char != '-' && char != '+') = false := stops
    rw [Bool.and_eq_false_iff, bne_eq_false_iff_eq, bne_eq_false_iff_eq] at isEnd
    exact isEnd

private theorem plus_not_mem_core (raw : String) : '+' ∉ core raw := by
  intro isIn
  have kept := List.all_eq_true.mp List.all_takeWhile '+' isIn
  cases kept

/-- A text is read as a version exactly if it is written with the numbers of that version. -/
theorem parse_eq_ok_iff
    {raw : String} :
    parse raw = .ok version ↔ ∃ runs, IsWritten raw.toList runs ∧ Names runs version := by
  have read : parse raw = .ok version ↔ ofCore? (core raw) = some version := by
    rw [parse]
    cases ofCore? (core raw) <;> simp
  rw [read, ofCore?_eq_some_iff (plus_not_mem_core raw)]
  constructor
  · rintro ⟨runs, joined, names⟩
    exact ⟨runs, isWritten_of_core joined, names⟩
  · rintro ⟨runs, written, names⟩
    exact ⟨runs, core_of_isWritten written names, names⟩

/-- A text is a version if its two or three runs fit in 64 bits. -/
theorem exists_parse_eq_ok_iff
    {raw : String} :
    (∃ version, parse raw = .ok version)
      ↔ ∃ runs,
        IsWritten raw.toList runs
          ∧ (runs.length = 2 ∨ runs.length = 3)
          ∧ ∀ run ∈ runs, Decimal.IsRun run ∧ Decimal.value run < 2 ^ 64 := by
  simp only [parse_eq_ok_iff]
  constructor
  · rintro ⟨version, runs, written, areRuns, values⟩
    refine ⟨runs, written, ?_, fun run isIn => ⟨areRuns run isIn, ?_⟩⟩
    · rcases values with ⟨values, -⟩ | values
      · exact .inl (by simpa using congrArg List.length values)
      · exact .inr (by simpa using congrArg List.length values)
    · have isValue : Decimal.value run ∈ runs.map Decimal.value := List.mem_map_of_mem isIn
      have bounded : ∀ number : UInt64, number.toNat < 2 ^ 64 := UInt64.toNat_lt
      rcases values with ⟨values, -⟩ | values
      · rw [values] at isValue
        simp only [List.mem_cons, List.not_mem_nil, or_false] at isValue
        rcases isValue with same | same <;> exact same ▸ bounded _
      · rw [values] at isValue
        simp only [List.mem_cons, List.not_mem_nil, or_false] at isValue
        rcases isValue with same | same | same <;> exact same ▸ bounded _
  · rintro ⟨runs, written, count, fits⟩
    have areRuns : ∀ run ∈ runs, Decimal.IsRun run := fun run isIn => (fits run isIn).1
    have kept : ∀ run ∈ runs, (UInt64.ofNat (Decimal.value run)).toNat = Decimal.value run :=
      fun run isIn => UInt64.toNat_ofNat_of_lt (fits run isIn).2
    match runs, count with
    | [major, minor], _ =>
        exact ⟨⟨.ofNat (Decimal.value major), .ofNat (Decimal.value minor), 0⟩, _, written, areRuns,
          .inl ⟨by simp [kept], rfl⟩⟩
    | [major, minor, patch], _ =>
        exact ⟨⟨.ofNat (Decimal.value major), .ofNat (Decimal.value minor),
          .ofNat (Decimal.value patch)⟩, _, written, areRuns, .inr (by simp [kept])⟩

/-- A version has a digit, so that a blank text is none. -/
theorem not_isBlankText_of_parse
    {raw : String}
    (read : parse raw = .ok version) :
    Blank.isBlankText raw = false := by
  obtain ⟨runs, ⟨before, mark, suffix, after, parts, -⟩, names⟩ := parse_eq_ok_iff.mp read
  obtain ⟨first, rest, begins, isDigit⟩ := names.exists_first
  have isIn : first ∈ raw.toList := by simp [parts, begins]
  rw [Blank.isBlankText, List.all_eq_false]
  exact ⟨first, isIn, by rw [Decimal.not_isBlank_of_isAsciiDigit isDigit]; decide⟩

/-! ## Order -/

/-- The numbers of a version, to be compared from the first one on. -/
def triple (version : Semver) : ℕ ×ₗ ℕ ×ₗ ℕ :=
  toLex (version.major.toNat, toLex (version.minor.toNat, version.patch.toNat))

private theorem triple_inj
    {other : Semver}
    (same : version.triple = other.triple) :
    version = other := by
  obtain ⟨major, minor, patch⟩ := version
  obtain ⟨otherMajor, otherMinor, otherPatch⟩ := other
  simp only [triple, toLex_inj, Prod.mk.injEq, UInt64.toNat_inj] at same
  obtain ⟨rfl, rfl, rfl⟩ := same
  rfl

private theorem atLeast_eq_true_iff
    {least : Semver} :
    version.atLeast least = true ↔ least.triple ≤ version.triple := by
  rw [triple, triple, Prod.Lex.toLex_le_toLex, Prod.Lex.toLex_le_toLex, atLeast]
  simp only [← UInt64.lt_iff_toNat_lt, ← UInt64.le_iff_toNat_le, UInt64.toNat_inj]
  by_cases sameMajor : version.major = least.major
  · rw [if_neg (not_not_intro sameMajor), sameMajor]
    by_cases sameMinor : version.minor = least.minor
    · rw [if_neg (not_not_intro sameMinor), sameMinor]
      simp
    · rw [if_pos sameMinor]
      simp [Ne.symm sameMinor]
  · rw [if_pos sameMajor]
    simp [Ne.symm sameMajor]

/-- A version has the features that came with it or before it. -/
theorem mem_features_iff
    {feature : Feature} :
    feature ∈ version.features ↔ feature.since.triple ≤ version.triple := by
  have listed : feature ∈ Feature.all := by cases feature <;> decide
  rw [features, List.mem_filter, atLeast_eq_true_iff, and_iff_right listed]

private theorem features_subset
    {later : Semver}
    (noLater : version.triple ≤ later.triple) :
    version.features ⊆ later.features := fun _ has =>
  mem_features_iff.mpr ((mem_features_iff.mp has).trans noLater)

end Semver

namespace AppVersion

theorem parse_eq_ok_iff
    {raw : String}
    {app : AppVersion} :
    parse raw = .ok app
      ↔ ∃ version,
        Semver.parse raw = .ok version ∧ ⟨.cosmos, Blank.trim raw, version.features⟩ = app := by
  simp only [parse, bind_eq_ok_iff, Except.ok.injEq]

private theorem cosmosTxTypes_subset
    {app later : AppVersion}
    (features : app.features ⊆ later.features) :
    app.cosmosTxTypes ⊆ later.cosmosTxTypes := by
  have keeps (feature : Feature) (has : app.has feature = true) : later.has feature = true :=
    List.contains_iff_mem.mpr (features (List.contains_iff_mem.mp has))
  have optional (feature : Feature) (txType : TxType) :
      (if app.has feature then [txType] else []) ⊆ if later.has feature then [txType] else [] := by
    by_cases has : app.has feature = true
    · rw [if_pos has, if_pos (keeps feature has)]
      exact List.Subset.refl _
    · rw [if_neg has]
      exact List.nil_subset _
  rw [cosmosTxTypes, cosmosTxTypes, List.append_subset, List.append_subset]
  exact ⟨⟨List.subset_append_of_subset_left _ (List.subset_append_left _ _),
    List.subset_append_of_subset_left _
      (List.subset_append_of_subset_right _ (optional .authz .authzGrant))⟩,
    List.subset_append_of_subset_right _ (optional .feegrant .feegrantAllowance)⟩

/-- A chain with a later version has the features and accepts the transaction types of one with an
earlier version, and one with the same version has and accepts the same, however it is written. -/
theorem subset_of_parse
    {earlierText laterText : String}
    {earlier later : Semver}
    (earlierRead : Semver.parse earlierText = .ok earlier)
    (laterRead : Semver.parse laterText = .ok later) :
    ∃ app laterApp,
      parse earlierText = .ok app
        ∧ parse laterText = .ok laterApp
        ∧ (earlier.triple ≤ later.triple →
          app.features ⊆ laterApp.features ∧ app.cosmosTxTypes ⊆ laterApp.cosmosTxTypes)
        ∧ (earlier.triple = later.triple →
          app.features = laterApp.features ∧ app.cosmosTxTypes = laterApp.cosmosTxTypes) := by
  refine ⟨_, _, parse_eq_ok_iff.mpr ⟨earlier, earlierRead, rfl⟩,
    parse_eq_ok_iff.mpr ⟨later, laterRead, rfl⟩, fun noLater => ?_, fun same => ?_⟩
  · have features := Semver.features_subset noLater
    exact ⟨features, cosmosTxTypes_subset features⟩
  · rw [Semver.triple_inj same]
    exact ⟨rfl, rfl⟩

end AppVersion

end ChainTx
