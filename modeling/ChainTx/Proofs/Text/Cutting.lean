import ChainTx.Text.Blank
import ChainTx.Text.Split
import Mathlib.Data.List.DropRight
import Mathlib.Data.List.TakeDrop

/-!
Contract: texts that are cut, and texts that are not.

Owns: the pieces of a text between separators, also where each piece is read, the front of a text up
to the first character that ends it, texts with nothing to drop at their ends, and what is true of
every character of ASCII.
-/

set_option autoImplicit false

namespace ChainTx

/-- The characters of ASCII can be looked at one by one. -/
theorem of_ascii
    (property : Char → Prop)
    (each : ∀ point : Fin 128, property (Char.ofNat point.val))
    {char : Char}
    (ascii : char.toNat < 128) :
    property char := by
  have shown := each ⟨char.toNat, ascii⟩
  rwa [Char.ofNat_toNat] at shown

/-! ## Pieces -/

/-- Where pieces are read, each value was read from one of them. -/
theorem exists_of_mem_of_mapM
    {α β : Type}
    {read : α → Option β}
    {pieces : List α}
    {values : List β}
    (areRead : pieces.mapM read = some values)
    {value : β}
    (isIn : value ∈ values) :
    ∃ piece ∈ pieces, read piece = some value := by
  induction pieces generalizing values with
  | nil =>
      cases areRead
      cases isIn
  | cons piece rest inductionHypothesis =>
      rw [List.mapM_cons] at areRead
      obtain ⟨first, firstRead, areRead⟩ := Option.bind_eq_some_iff.mp areRead
      obtain ⟨others, othersRead, same⟩ := Option.bind_eq_some_iff.mp areRead
      cases same
      rcases List.mem_cons.mp isIn with rfl | inOthers
      · exact ⟨piece, List.mem_cons_self, firstRead⟩
      · obtain ⟨other, isOther, otherRead⟩ := inductionHypothesis othersRead inOthers
        exact ⟨other, List.mem_cons_of_mem _ isOther, otherRead⟩

/-- Pieces are read if each of them is. -/
theorem mapM_eq_some_map
    {α β : Type}
    {read : α → Option β}
    {value : α → β}
    {pieces : List α}
    (eachRead : ∀ piece ∈ pieces, read piece = some (value piece)) :
    pieces.mapM read = some (pieces.map value) := by
  induction pieces with
  | nil => rfl
  | cons piece rest inductionHypothesis =>
      have ⟨here, behind⟩ := List.forall_mem_cons.mp eachRead
      rw [List.mapM_cons, here, inductionHypothesis behind]
      rfl

theorem splitOnChar_eq_splitOn (separator : Char) (text : List Char) :
    splitOnChar separator text = text.splitOn separator := by
  induction text with
  | nil => rfl
  | cons char rest inductionHypothesis =>
      rw [splitOnChar, List.splitOn_cons_eq_if_modifyHead, inductionHypothesis]
      by_cases same : char = separator
      · rw [if_pos same, if_pos (beq_iff_eq.mpr same)]
      · rw [if_neg same, if_neg (mt beq_iff_eq.mp same)]
        cases pieces : rest.splitOn separator with
        | nil => exact absurd pieces (List.splitOn_ne_nil _ _)
        | cons first others => rfl

theorem splitOnChar_ne_nil (separator : Char) (text : List Char) :
    splitOnChar separator text ≠ [] := by
  rw [splitOnChar_eq_splitOn]
  exact List.splitOn_ne_nil _ _

/-- A piece has characters of the text, and no separator. -/
theorem of_mem_splitOnChar
    {separator : Char}
    {text piece : List Char}
    (isPiece : piece ∈ splitOnChar separator text)
    {char : Char}
    (isIn : char ∈ piece) :
    char ∈ text ∧ char ≠ separator := by
  induction text generalizing piece with
  | nil =>
      rw [List.mem_singleton.mp isPiece] at isIn
      cases isIn
  | cons first rest inductionHypothesis =>
      have behind {other : List Char} (isOther : other ∈ splitOnChar separator rest)
          (inOther : char ∈ other) : char ∈ first :: rest ∧ char ≠ separator :=
        (inductionHypothesis isOther inOther).imp_left (List.mem_cons_of_mem _)
      rw [splitOnChar] at isPiece
      split at isPiece
      · rcases List.mem_cons.mp isPiece with rfl | isOther
        · cases isIn
        · exact behind isOther isIn
      · rename_i other
        split at isPiece
        · rename_i head others pieces
          rw [pieces] at behind
          rcases List.mem_cons.mp isPiece with rfl | isOther
          · rcases List.mem_cons.mp isIn with rfl | inHead
            · exact ⟨List.mem_cons_self, other⟩
            · exact behind List.mem_cons_self inHead
          · exact behind (List.mem_cons_of_mem _ isOther) isIn
        · rename_i none
          exact absurd none (splitOnChar_ne_nil _ _)

/-- The pieces of a text have its characters. -/
theorem mem_intercalate_of_mem
    {separator piece : List Char}
    {pieces : List (List Char)}
    {char : Char}
    (isPiece : piece ∈ pieces)
    (isIn : char ∈ piece) :
    char ∈ separator.intercalate pieces := by
  induction pieces with
  | nil => cases isPiece
  | cons first others inductionHypothesis =>
      by_cases last : others = []
      · subst last
        rw [List.intercalate_singleton, ← List.mem_singleton.mp isPiece]
        exact isIn
      · rw [List.intercalate_cons_of_ne_nil last, List.mem_append, List.mem_append]
        rcases List.mem_cons.mp isPiece with rfl | isOther
        · exact .inl (.inl isIn)
        · exact .inr (inductionHypothesis isOther)

/-- The characters of a joined text are those of the separator and of the pieces. -/
theorem mem_or_mem_of_mem_intercalate
    {separator : List Char}
    {pieces : List (List Char)}
    {char : Char}
    (isIn : char ∈ separator.intercalate pieces) :
    char ∈ separator ∨ ∃ piece ∈ pieces, char ∈ piece := by
  induction pieces with
  | nil => cases isIn
  | cons first others inductionHypothesis =>
      by_cases last : others = []
      · subst last
        rw [List.intercalate_singleton] at isIn
        exact .inr ⟨first, List.mem_cons_self, isIn⟩
      · rw [List.intercalate_cons_of_ne_nil last, List.mem_append, List.mem_append] at isIn
        rcases isIn with (inFirst | inSeparator) | inOthers
        · exact .inr ⟨first, List.mem_cons_self, inFirst⟩
        · exact .inl inSeparator
        · exact (inductionHypothesis inOthers).imp_right fun ⟨piece, isPiece, inPiece⟩ =>
            ⟨piece, List.mem_cons_of_mem _ isPiece, inPiece⟩

theorem splitOnChar_eq_singleton
    {separator : Char}
    {text : List Char}
    (absent : separator ∉ text) :
    splitOnChar separator text = [text] := by
  induction text with
  | nil => rfl
  | cons char rest ih =>
      have ⟨other, restAbsent⟩ : separator ≠ char ∧ separator ∉ rest := by simpa using absent
      rw [splitOnChar, if_neg (Ne.symm other), ih restAbsent]

theorem splitOnChar_append_cons
    {separator : Char}
    {first : List Char}
    (absent : separator ∉ first)
    (rest : List Char) :
    splitOnChar separator (first ++ separator :: rest) = first :: splitOnChar separator rest := by
  induction first with
  | nil => rw [List.nil_append, splitOnChar, if_pos rfl]
  | cons char others ih =>
      have ⟨other, othersAbsent⟩ : separator ≠ char ∧ separator ∉ others := by simpa using absent
      rw [List.cons_append, splitOnChar, if_neg (Ne.symm other), ih othersAbsent]

/-- A text is cut behind a front that goes on. -/
theorem span_append
    {holds : Char → Bool}
    {before : List Char}
    (among : ∀ char ∈ before, holds char = true)
    (behind : List Char) :
    (before ++ behind).span holds = (before ++ (behind.span holds).1, (behind.span holds).2) := by
  rw [List.span_eq_takeWhile_dropWhile, List.span_eq_takeWhile_dropWhile,
    List.takeWhile_append_of_pos among, List.dropWhile_append_of_pos among]

theorem span_append_of_forall
    {holds : Char → Bool}
    {before behind : List Char}
    (among : ∀ char ∈ before, holds char = true)
    (stops : ∀ char ∈ behind.head?, holds char = false) :
    (before ++ behind).span holds = (before, behind) := by
  rw [span_append among]
  cases behind with
  | nil => exact congrArg (·, []) (List.append_nil before)
  | cons char rest =>
      have stop : ¬holds char = true := by
        rw [stops char rfl]
        decide
      rw [List.span_eq_takeWhile_dropWhile, List.takeWhile_cons_of_neg stop, List.append_nil,
        List.dropWhile_cons_of_neg stop]

theorem span_eq_self
    {holds : Char → Bool}
    {text : List Char}
    (among : ∀ char ∈ text, holds char = true) :
    text.span holds = (text, []) := by
  have cut : (text ++ []).span holds = (text, []) :=
    span_append_of_forall among nofun
  rwa [List.append_nil] at cut

/-- Nothing is dropped at either end of a text without characters to drop. -/
theorem dropEnds_eq_self
    {drops : Char → Bool}
    {text : List Char}
    (keeps : ∀ char ∈ text, drops char = false) :
    ((text.dropWhile drops).reverse.dropWhile drops).reverse = text := by
  have kept (chars : List Char) (among : ∀ char ∈ chars, char ∈ text) :
      chars.dropWhile drops = chars := by
    cases chars with
    | nil => rfl
    | cons char rest =>
        refine List.dropWhile_cons_of_neg ?_
        rw [keeps char (among char List.mem_cons_self)]
        decide
  rw [kept text fun _ isIn => isIn, kept text.reverse fun _ => List.mem_reverse.mp,
    List.reverse_reverse]

/-- Nothing is dropped behind the last character to keep. -/
theorem rdropWhile_append
    {drops : Char → Bool}
    {front : List Char}
    (ends : ∀ char ∈ front.getLast?, drops char = false)
    (back : List Char) :
    (front ++ back).rdropWhile drops = front ++ back.rdropWhile drops := by
  have kept : front.reverse.dropWhile drops = front.reverse := by
    cases turned : front.reverse with
    | nil => rfl
    | cons last others =>
        have isLast : front.getLast? = some last := by
          rw [List.getLast?_eq_head?_reverse, turned, List.head?_cons]
        refine List.dropWhile_cons_of_neg ?_
        rw [ends last isLast]
        decide
  rw [List.rdropWhile, List.rdropWhile, List.reverse_append, List.dropWhile_append, kept]
  split
  · rename_i allDropped
    rw [List.isEmpty_iff.mp allDropped]
    simp
  · simp

/-! ## Trimmed texts -/

namespace Blank

theorem trimChars_eq_self
    {chars : List Char}
    (noBlank : ∀ char ∈ chars, isBlank char = false) :
    trimChars chars = chars :=
  dropEnds_eq_self noBlank

/-- What is dropped at the end is blank. -/
theorem exists_eq_trimEnd_append (chars : List Char) :
    ∃ after, chars = trimEnd chars ++ after ∧ ∀ char ∈ after, isBlank char = true :=
  ⟨chars.rtakeWhile isBlank, List.rdropWhile_append_rtakeWhile.symm,
    fun _ isIn => List.mem_rtakeWhile_imp isIn⟩

/-- What is dropped at either end is blank. -/
theorem exists_eq_append_trimChars (chars : List Char) :
    ∃ before after,
      chars = before ++ trimChars chars ++ after
        ∧ (∀ char ∈ before, isBlank char = true)
        ∧ ∀ char ∈ after, isBlank char = true := by
  obtain ⟨after, parts, blank⟩ := exists_eq_trimEnd_append (chars.dropWhile isBlank)
  refine ⟨chars.takeWhile isBlank, after, ?_, List.all_eq_true.mp List.all_takeWhile, blank⟩
  rw [trimChars, List.append_assoc, ← parts, List.takeWhile_append_dropWhile]

theorem trimEnd_append_blanks
    {after : List Char}
    (blank : ∀ char ∈ after, isBlank char = true)
    (chars : List Char) :
    trimEnd (chars ++ after) = trimEnd chars := by
  rw [trimEnd, List.reverse_append, List.dropWhile_append_of_pos
    fun char isIn => blank char (List.mem_reverse.mp isIn), ← trimEnd]

/-- Behind a text without blanks only the rest is trimmed. -/
theorem trimEnd_append
    {front : List Char}
    (noBlank : ∀ char ∈ front, isBlank char = false)
    (rest : List Char) :
    trimEnd (front ++ rest) = front ++ trimEnd rest :=
  rdropWhile_append (fun char isLast => noBlank char (List.mem_of_getLast? isLast)) rest

/-- Blanks in front of a text without blanks are dropped. -/
theorem trimChars_append
    {before front : List Char}
    (blank : ∀ char ∈ before, isBlank char = true)
    (nonempty : front ≠ [])
    (noBlank : ∀ char ∈ front, isBlank char = false)
    (rest : List Char) :
    trimChars (before ++ (front ++ rest)) = front ++ trimEnd rest := by
  have starts : (front ++ rest).dropWhile isBlank = front ++ rest := by
    cases front with
    | nil => exact absurd rfl nonempty
    | cons first others =>
        have notBlank := noBlank first List.mem_cons_self
        exact List.dropWhile_cons_of_neg (by rw [notBlank]; decide)
  rw [trimChars, List.dropWhile_append_of_pos blank, starts, trimEnd_append noBlank]

end Blank

end ChainTx
