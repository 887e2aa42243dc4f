import ChainTx.Endpoint
import ChainTx.Proofs.Text.Cutting

/-!
Contract: paths that a URL shows as they are written.

Owns:
- percent-encoded texts, which are not encoded again;
- settled segments, which are neither encoded nor resolved, and that all paths that are read have
  only such segments;
- segments of letters, digits, hyphens and underscores, which are settled;
- the URL over HTTP that is read from an authority, a path of settled segments and what follows, up
  to the reading of the authority.

Does not own: the reading of authorities.
-/

set_option autoImplicit false

namespace ChainTx

namespace Url

/-- Segments, each behind a slash. -/
def joinPath (segments : List (List Char)) : List Char :=
  segments.flatMap fun segment => '/' :: segment

private theorem splitOnChar_joinPath
    {first : List Char}
    {rest : List (List Char)}
    (absent : ∀ segment ∈ first :: rest, '/' ∉ segment) :
    splitOnChar '/' (first ++ joinPath rest) = first :: rest := by
  induction rest generalizing first with
  | nil =>
      rw [joinPath, List.flatMap_nil, List.append_nil]
      exact splitOnChar_eq_singleton (absent first List.mem_cons_self)
  | cons second others ih =>
      have here := absent first List.mem_cons_self
      have behind : ∀ segment ∈ second :: others, '/' ∉ segment :=
        fun segment isIn => absent segment (List.mem_cons_of_mem _ isIn)
      rw [joinPath, List.flatMap_cons, List.cons_append, splitOnChar_append_cons here]
      exact congrArg (first :: ·) (ih behind)

/-! ## Percent-encoded texts -/

theorem encode_eq_self
    {inSet : Char → Bool}
    {text : List Char}
    (outside : ∀ char ∈ text, inSet char = false) :
    Percent.encode inSet text = text := by
  induction text with
  | nil => rfl
  | cons char rest ih =>
      have here := outside char List.mem_cons_self
      rw [Percent.encode, List.flatMap_cons, here]
      exact congrArg (char :: ·) (ih fun other isIn => outside other (List.mem_cons_of_mem _ isIn))

/-- An encoded text has characters that need no escape, and those of escapes. -/
theorem of_mem_encode
    {inSet : Char → Bool}
    {text : List Char}
    {char : Char}
    (isIn : char ∈ Percent.encode inSet text) :
    char ∈ text ∧ inSet char = false ∨ char ∈ "%0123456789ABCDEF".toList := by
  obtain ⟨source, isSource, isIn⟩ := List.mem_flatMap.mp isIn
  split at isIn
  · obtain ⟨byte, -, isIn⟩ := List.mem_flatMap.mp isIn
    have isDigit : ∀ index : Fin 16,
        Percent.upperHexDigit index.val ∈ "%0123456789ABCDEF".toList := by
      decide
    have byteLt := byte.toNat_lt
    simp only [Percent.escapeByte, List.mem_cons, List.not_mem_nil, or_false] at isIn
    rcases isIn with rfl | rfl | rfl
    · exact .inr (by decide)
    · exact .inr (isDigit ⟨byte.toNat / 16, by omega⟩)
    · exact .inr (isDigit ⟨byte.toNat % 16, by omega⟩)
  · rename_i outside
    rw [List.mem_singleton.mp isIn]
    exact .inl ⟨isSource, Bool.eq_false_iff.mpr outside⟩

/-- Where the characters of escapes need none, an encoded text is not encoded again. -/
theorem not_inSet_of_mem_encode
    {inSet : Char → Bool}
    (escapes : "%0123456789ABCDEF".toList.any inSet = false)
    {text : List Char}
    {char : Char}
    (isIn : char ∈ Percent.encode inSet text) :
    inSet char = false := by
  obtain ⟨-, outside⟩ | isEscape := of_mem_encode isIn
  · exact outside
  · exact Bool.eq_false_iff.mpr (List.any_eq_false.mp escapes char isEscape)

/-! ## Settled segments -/

/-- A segment that is read as it is written. -/
structure IsSettled (segment : List Char) : Prop where
  written : ∀ char ∈ segment, Percent.inPathSet char = false
  noSlash : ∀ char ∈ segment, char ≠ '/' ∧ char ≠ '\\'
  noDots : isSingleDot segment = false ∧ isDoubleDot segment = false

private theorem isSettled_nil : IsSettled [] :=
  ⟨List.forall_mem_nil _, List.forall_mem_nil _, by decide⟩

variable {segments : List (List Char)}

private theorem resolveDots_eq_append
    (settled : ∀ segment ∈ segments, IsSettled segment)
    (resolved : List (List Char)) :
    resolveDots resolved segments = resolved.reverse ++ segments := by
  induction segments generalizing resolved with
  | nil => rw [resolveDots, List.append_nil]
  | cons segment rest ih =>
      have ⟨single, double⟩ := (settled segment List.mem_cons_self).noDots
      have behind := ih (fun other isIn => settled other (List.mem_cons_of_mem _ isIn))
        (segment :: resolved)
      rw [List.reverse_cons, List.append_assoc, List.singleton_append] at behind
      cases rest with
      | nil => simp [resolveDots, single, double]
      | cons next others => simpa [resolveDots, single, double] using behind

/-- The characters of a path are those of its segments, and slashes. -/
theorem eq_slash_or_mem_of_mem_joinPath
    {char : Char}
    (isIn : char ∈ joinPath segments) :
    char = '/' ∨ ∃ segment ∈ segments, char ∈ segment := by
  obtain ⟨segment, segmentIn, charIn⟩ := List.mem_flatMap.mp isIn
  exact (List.mem_cons.mp charIn).imp_right fun inSegment => ⟨segment, segmentIn, inSegment⟩

private theorem readPath_joinPath
    {port : Nat}
    (nonempty : segments ≠ [])
    (settled : ∀ segment ∈ segments, IsSettled segment) :
    readPath (.special port) (joinPath segments) = joinPath segments := by
  have unslashed : (joinPath segments).map (fun char => if char = '\\' then '/' else char)
      = joinPath segments := by
    refine (List.map_congr_left fun char isIn => ?_).trans (List.map_id _)
    refine if_neg ?_
    obtain rfl | ⟨segment, isSegment, inSegment⟩ := eq_slash_or_mem_of_mem_joinPath isIn
    · decide
    · exact ((settled segment isSegment).noSlash char inSegment).2
  have encoded : segments.map (Percent.encode Percent.inPathSet) = segments :=
    (List.map_congr_left fun segment isIn => encode_eq_self (settled segment isIn).written).trans
      (List.map_id _)
  obtain ⟨first, rest, rfl⟩ := List.exists_cons_of_ne_nil nonempty
  have cut : splitOnChar '/' (first ++ joinPath rest) = first :: rest :=
    splitOnChar_joinPath fun segment isIn inSegment =>
      ((settled segment isIn).noSlash '/' inSegment).1 rfl
  have slashed : joinPath (first :: rest) = '/' :: (first ++ joinPath rest) := rfl
  have special : (SchemeKind.special port).isSpecial = true := rfl
  simp only [readPath, special, if_true, unslashed]
  simp only [slashed, cut, encoded, resolveDots_eq_append settled]
  rfl

private theorem mem_of_mem_dropLastSegment
    {resolved : List (List Char)}
    {segment : List Char}
    (isIn : segment ∈ dropLastSegment resolved) :
    segment ∈ resolved := by
  cases resolved with
  | nil => exact isIn
  | cons last rest =>
      rw [dropLastSegment] at isIn
      split at isIn
      · exact isIn
      · exact List.mem_cons_of_mem _ isIn

/-- What is true of the empty segment and of all that are no dot segments is true of what is left
when dot segments are resolved. -/
theorem forall_mem_resolveDots
    {property : List Char → Prop}
    {resolved : List (List Char)}
    (empty : property [])
    (kept : ∀ segment ∈ segments, isSingleDot segment = false → isDoubleDot segment = false →
      property segment)
    (before : ∀ segment ∈ resolved, property segment) :
    ∀ segment ∈ resolveDots resolved segments, property segment := by
  have dropped (resolved : List (List Char)) (before : ∀ segment ∈ resolved, property segment) :
      ∀ segment ∈ dropLastSegment resolved, property segment :=
    fun segment isIn => before segment (mem_of_mem_dropLastSegment isIn)
  have turned {last : List Char} {resolved : List (List Char)} (here : property last)
      (before : ∀ segment ∈ resolved, property segment) :
      ∀ segment ∈ (last :: resolved).reverse, property segment :=
    fun segment isIn => List.forall_mem_cons.mpr ⟨here, before⟩ segment (List.mem_reverse.mp isIn)
  fun_induction resolveDots resolved segments with
  | case1 resolved => exact fun segment isIn => before segment (List.mem_reverse.mp isIn)
  | case2 resolved segment double => exact turned empty (dropped resolved before)
  | case3 resolved segment double single => exact turned empty before
  | case4 resolved segment double single =>
      exact turned (kept segment List.mem_cons_self (by simpa using single) (by simpa using double))
        before
  | case5 resolved segment rest several double inductionHypothesis =>
      exact inductionHypothesis (List.forall_mem_cons.mp kept).2 (dropped resolved before)
  | case6 resolved segment rest several double single inductionHypothesis =>
      exact inductionHypothesis (List.forall_mem_cons.mp kept).2 before
  | case7 resolved segment rest several double single inductionHypothesis =>
      have ⟨here, behind⟩ := List.forall_mem_cons.mp kept
      exact inductionHypothesis behind (List.forall_mem_cons.mpr
        ⟨here (by simpa using single) (by simpa using double), before⟩)

private theorem resolveDots_ne_nil
    (nonempty : segments ≠ [])
    (resolved : List (List Char)) :
    resolveDots resolved segments ≠ [] := by
  fun_induction resolveDots resolved segments with
  | case1 resolved => exact absurd rfl nonempty
  | case2 resolved segment double => simp
  | case3 resolved segment double single => simp
  | case4 resolved segment double single => simp
  | case5 resolved segment rest several double inductionHypothesis =>
      exact inductionHypothesis several
  | case6 resolved segment rest several double single inductionHypothesis =>
      exact inductionHypothesis several
  | case7 resolved segment rest several double single inductionHypothesis =>
      exact inductionHypothesis several

/-- Every path that is read for a scheme with hosts consists of settled segments. -/
theorem exists_settled_of_readPath (port : Nat) (text : List Char) :
    ∃ segments, segments ≠ [] ∧ (∀ segment ∈ segments, IsSettled segment)
      ∧ readPath (.special port) text = joinPath segments := by
  refine ⟨_, resolveDots_ne_nil ?_ [],
    forall_mem_resolveDots isSettled_nil (fun segment isIn single double => ?_)
      (List.forall_mem_nil _), rfl⟩
  · exact fun none => splitOnChar_ne_nil _ _ (List.map_eq_nil_iff.mp none)
  · obtain ⟨piece, isPiece, rfl⟩ := List.mem_map.mp isIn
    refine ⟨fun char inSegment => not_inSet_of_mem_encode (by decide) inSegment,
      fun char inSegment => ?_, single, double⟩
    obtain ⟨inPiece, -⟩ | isEscape := of_mem_encode inSegment
    · obtain ⟨inText, noSlash⟩ := of_mem_splitOnChar isPiece inPiece
      refine ⟨noSlash, ?_⟩
      have inSlashed : char ∈ text.map fun char => if char = '\\' then '/' else char := by
        split at inText
        · rename_i slashed
          have whole := List.mem_cons_of_mem '/' inText
          rwa [← slashed] at whole
        · exact inText
      obtain ⟨source, -, rfl⟩ := List.mem_map.mp inSlashed
      split
      · decide
      · assumption
    · have noEscape : "%0123456789ABCDEF".toList.any (fun char => char == '/' || char == '\\')
          = false := by
        decide
      simpa using List.any_eq_false.mp noEscape char isEscape

/-! ## Plain segments -/

/-- Characters that mean nothing in a URL. -/
def isPlain (char : Char) : Bool :=
  char.isAlphanum || char == '-' || char == '_'

/-- What is true of the plain characters of ASCII is true of all. -/
theorem of_isPlain
    (property : Char → Prop)
    (small : ∀ point : Fin 128, isPlain (Char.ofNat point) = true → property (Char.ofNat point))
    {char : Char}
    (plain : isPlain char = true) :
    property char := by
  have bound : char.toNat < 128 := by
    unfold isPlain Char.isAlphanum Char.isAlpha Char.isUpper Char.isLower Char.isDigit at plain
    simp only [Bool.or_eq_true, Bool.and_eq_true, decide_eq_true_eq, beq_iff_eq, ge_iff_le,
      UInt32.le_iff_toNat_le] at plain
    rcases plain with (((⟨-, upper⟩ | ⟨-, lower⟩) | ⟨-, digit⟩) | rfl) | rfl
    · exact Nat.lt_of_le_of_lt upper (by decide)
    · exact Nat.lt_of_le_of_lt lower (by decide)
    · exact Nat.lt_of_le_of_lt digit (by decide)
    · decide
    · decide
  exact of_ascii (fun char => isPlain char = true → property char) small bound plain

/-- A segment that is written as it is read. -/
def IsPlainSegment (segment : List Char) : Prop :=
  ∀ char ∈ segment, isPlain char = true

namespace IsPlainSegment

variable {segment : List Char}

/-- Every name of a level starts with a dot or a percent sign. -/
theorem not_dots (plain : IsPlainSegment segment) :
    isSingleDot segment = false ∧ isDoubleDot segment = false := by
  cases segment with
  | nil => decide
  | cons char rest =>
      have noDot : char ≠ '.' ∧ char.toLower ≠ '.' ∧ char.toLower ≠ '%' :=
        of_isPlain (fun char => char ≠ '.' ∧ char.toLower ≠ '.' ∧ char.toLower ≠ '%') (by decide)
          (plain char List.mem_cons_self)
      simp [isSingleDot, isDoubleDot, noDot]

theorem isSettled (plain : IsPlainSegment segment) :
    IsSettled segment :=
  ⟨fun char isIn => of_isPlain (fun char => Percent.inPathSet char = false) (by decide)
      (plain char isIn),
    fun char isIn => of_isPlain (fun char => char ≠ '/' ∧ char ≠ '\\') (by decide)
      (plain char isIn),
    plain.not_dots⟩

end IsPlainSegment

/-! ## Whole texts -/

/-- What a URL may hold between its scheme and its path. -/
def isInAuthority (char : Char) : Bool :=
  0x20 < char.toNat && char != '/' && char != '?' && char != '#' && char != '\\'

theorem isInAuthority_iff {char : Char} :
    isInAuthority char = true
      ↔ 0x20 < char.toNat ∧ char ≠ '/' ∧ char ≠ '?' ∧ char ≠ '#' ∧ char ≠ '\\' := by
  simp [isInAuthority, and_assoc]

/-- A text without blanks and controls is clean. -/
theorem cleaned_eq_self
    {text : List Char}
    (visible : ∀ char ∈ text, 0x20 < char.toNat) :
    cleaned text = text := by
  have trimmed : ((text.dropWhile (·.toNat ≤ 0x20)).reverse.dropWhile (·.toNat ≤ 0x20)).reverse
      = text :=
    dropEnds_eq_self fun char isIn => decide_eq_false (Nat.not_le.mpr (visible char isIn))
  have kept : text.filter (fun char => char != '\t' && char != '\n' && char != '\r') = text := by
    refine List.filter_eq_self.mpr fun char isIn => ?_
    have shown := visible char isIn
    have differs (other : Char) (control : other.toNat ≤ 0x20) : (char != other) = true := by
      rw [bne_iff_ne]
      rintro rfl
      omega
    rw [differs '\t' (by decide), differs '\n' (by decide), differs '\r' (by decide)]
    rfl
  rw [cleaned, trimmed, kept]

/-- What a settled segment has is visible and no mark of a query or a fragment. -/
theorem of_not_inPathSet
    {char : Char}
    (outside : Percent.inPathSet char = false) :
    0x20 < char.toNat ∧ char ≠ '?' ∧ char ≠ '#' := by
  have ascii : char.toNat < 128 := by
    simp only [Percent.inPathSet, Percent.inFragmentSet, Percent.isControl, Bool.or_eq_false_iff,
      decide_eq_false_iff_not] at outside
    omega
  exact of_ascii
    (fun char => Percent.inPathSet char = false → 0x20 < char.toNat ∧ char ≠ '?' ∧ char ≠ '#')
    (by decide) ascii outside

theorem of_mem_joinPath
    (settled : ∀ segment ∈ segments, IsSettled segment)
    {char : Char}
    (isIn : char ∈ joinPath segments) :
    0x20 < char.toNat ∧ char ≠ '?' ∧ char ≠ '#' := by
  obtain rfl | ⟨segment, isSegment, inSegment⟩ := eq_slash_or_mem_of_mem_joinPath isIn
  · decide
  · exact of_not_inPathSet ((settled segment isSegment).written char inSegment)

private theorem splitFragment_append
    {before : List Char}
    (noMark : ∀ char ∈ before, char ≠ '#')
    (tail : List Char) :
    splitFragment (before ++ tail)
      = (before ++ (splitFragment tail).1, (splitFragment tail).2) := by
  have among : ∀ char ∈ before, (char != '#') = true :=
    fun char isIn => bne_iff_ne.mpr (noMark char isIn)
  rw [splitFragment, splitFragment, span_append among]
  rcases tail.span (· != '#') with ⟨inside, _ | ⟨mark, behind⟩⟩
  · rfl
  · rfl

private theorem splitQuery_append
    {before : List Char}
    (noMark : ∀ char ∈ before, char ≠ '?')
    (tail : List Char) :
    splitQuery (before ++ tail) = (before ++ (splitQuery tail).1, (splitQuery tail).2) := by
  have among : ∀ char ∈ before, (char != '?') = true :=
    fun char isIn => bne_iff_ne.mpr (noMark char isIn)
  rw [splitQuery, splitQuery, span_append among]
  rcases tail.span (· != '?') with ⟨inside, _ | ⟨mark, behind⟩⟩
  · rfl
  · rfl

/-- Nothing, or a text that starts with the mark of a query or a fragment. -/
def IsTail (tail : List Char) : Prop :=
  ∀ char ∈ tail.head?, char = '?' ∨ char = '#'

theorem isTail_nil : IsTail [] := by
  rintro _ ⟨⟩

/-- No path is left in front of the query and the fragment. -/
theorem IsTail.path_eq_nil
    {tail : List Char}
    (isTail : IsTail tail) :
    (splitQuery (splitFragment tail).1).1 = [] := by
  cases tail with
  | nil => rfl
  | cons char rest =>
      rcases isTail char rfl with rfl | rfl
      · have mark := @splitFragment_append ['?'] (List.forall_mem_singleton.mpr (by decide)) rest
        rw [List.singleton_append] at mark
        rw [mark]
        rfl
      · rfl

/-- The URL that a text behind the two slashes spells, once its authority is read. -/
theorem readHierarchical_append
    {authority tail : List Char}
    (hosted : ∀ char ∈ authority, isInAuthority char = true)
    (nonempty : segments ≠ [])
    (settled : ∀ segment ∈ segments, IsSettled segment)
    (isTail : IsTail tail)
    (scheme : List Char)
    (port : Nat) :
    readHierarchical scheme (.special port) (authority ++ (joinPath segments ++ tail))
      = (readAuthority (.special port) authority false).map fun found =>
        ⟨scheme, some found, joinPath segments, (splitQuery (splitFragment tail).1).2,
          (splitFragment tail).2⟩ := by
  have rooted : ∃ rest, joinPath segments = '/' :: rest := by
    obtain ⟨first, rest, rfl⟩ := List.exists_cons_of_ne_nil nonempty
    exact ⟨_, rfl⟩
  have authorityCut : (authority ++ (joinPath segments ++ tail)).span
      (fun char => !endsAuthority (.special port) char)
        = (authority, joinPath segments ++ tail) := by
    refine span_append_of_forall (fun char isIn => ?_) ?_
    · obtain ⟨-, noSlash, noQuestion, noNumber, noBackslash⟩ :=
        isInAuthority_iff.mp (hosted char isIn)
      simp [endsAuthority, noSlash, noQuestion, noNumber, noBackslash]
    · obtain ⟨rest, root⟩ := rooted
      rw [root]
      rintro _ ⟨⟩
      rfl
  have notLast : (joinPath segments ++ tail).isEmpty = false := by
    obtain ⟨rest, root⟩ := rooted
    rw [root]
    rfl
  have noMark : ∀ char ∈ joinPath segments, char ≠ '?' ∧ char ≠ '#' :=
    fun char isIn => (of_mem_joinPath settled isIn).2
  have fragmentCut := splitFragment_append (fun char isIn => (noMark char isIn).2) tail
  have queryCut := splitQuery_append (fun char isIn => (noMark char isIn).1) (splitFragment tail).1
  rw [isTail.path_eq_nil, List.append_nil] at queryCut
  have special : (SchemeKind.special port).isSpecial = true := rfl
  simp only [readHierarchical, authorityCut, fragmentCut, queryCut, notLast, special, Bool.not_true,
    Bool.and_false, readPath_joinPath nonempty settled]
  cases readAuthority (.special port) authority false <;> rfl

/-- The port that a web scheme has of its own. -/
def webPort (scheme : List Char) : Nat :=
  if scheme = "https".toList then 443 else 80

/-- The URL that a text over HTTP spells, once its authority is read. -/
theorem read_append
    {scheme authority tail : List Char}
    (web : scheme = "http".toList ∨ scheme = "https".toList)
    (named : authority ≠ [])
    (hosted : ∀ char ∈ authority, isInAuthority char = true)
    (nonempty : segments ≠ [])
    (settled : ∀ segment ∈ segments, IsSettled segment)
    (isTail : IsTail tail)
    (visible : ∀ char ∈ tail, 0x20 < char.toNat) :
    read (String.ofList (scheme ++ "://".toList ++ authority ++ (joinPath segments ++ tail)))
      = (readAuthority (.special (webPort scheme)) authority false).map fun found =>
        ⟨scheme, some found, joinPath segments, (splitQuery (splitFragment tail).1).2,
          (splitFragment tail).2⟩ := by
  have allVisible : ∀ char ∈ scheme ++ "://".toList ++ authority ++ (joinPath segments ++ tail),
      0x20 < char.toNat := by
    intro char isIn
    simp only [List.mem_append] at isIn
    obtain ((inScheme | inMark) | inAuthority) | inPath | inTail := isIn
    · have schemeVisible : scheme.all (0x20 < ·.toNat) = true := by
        rcases web with rfl | rfl
        · decide
        · decide
      exact of_decide_eq_true (List.all_eq_true.mp schemeVisible char inScheme)
    · have markVisible : "://".toList.all (0x20 < ·.toNat) = true := by
        decide
      exact of_decide_eq_true (List.all_eq_true.mp markVisible char inMark)
    · exact (isInAuthority_iff.mp (hosted char inAuthority)).1
    · exact (of_mem_joinPath settled inPath).1
    · exact visible char inTail
  have unslashed : (authority ++ (joinPath segments ++ tail)).dropWhile
      (fun char => char == '/' || char == '\\') = authority ++ (joinPath segments ++ tail) := by
    obtain ⟨char, others, rfl⟩ := List.exists_cons_of_ne_nil named
    obtain ⟨-, noSlash, -, -, noBackslash⟩ :=
      isInAuthority_iff.mp (hosted char List.mem_cons_self)
    exact List.dropWhile_cons_of_neg (by simp [noSlash, noBackslash])
  rw [read, String.toList_ofList, cleaned_eq_self allVisible]
  rcases web with rfl | rfl
  · change readHierarchical _ (.special 80)
      ((authority ++ (joinPath segments ++ tail)).dropWhile _) = _
    rw [unslashed]
    exact readHierarchical_append hosted nonempty settled isTail _ 80
  · change readHierarchical _ (.special 443)
      ((authority ++ (joinPath segments ++ tail)).dropWhile _) = _
    rw [unslashed]
    exact readHierarchical_append hosted nonempty settled isTail _ 443

end Url

end ChainTx
