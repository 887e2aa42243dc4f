import ChainTx.Proofs.Bytes.Texts
import ChainTx.Proofs.Checks

/-!
Contract: which texts are read as hexadecimal.

Owns:
- the digits of either letter case, two for each byte, that spell a byte string;
- that the reader takes these texts and no others, also where a text is not of ASCII;
- the number that the digits spell, which is that of the bytes.

Does not own: marks in front of the digits.
-/

set_option autoImplicit false

namespace ChainTx.Hex

/-- Characters from `0` to `9`, from `A` to `F` and from `a` to `f`. -/
def IsHexDigit (char : Char) : Prop :=
  48 ≤ char.toNat ∧ char.toNat ≤ 57 ∨ 65 ≤ char.toNat ∧ char.toNat ≤ 70
    ∨ 97 ≤ char.toNat ∧ char.toNat ≤ 102

instance (char : Char) : Decidable (IsHexDigit char) :=
  inferInstanceAs (Decidable (_ ∨ _))

private theorem IsHexDigit.ascii
    {char : Char}
    (isDigit : IsHexDigit char) :
    char.toNat < 128 := by
  rw [IsHexDigit] at isDigit
  omega

/-- A digit has the value of the lower-case digit that it is up to its case. -/
theorem digitValue?_eq_some_iff
    {char : Char}
    {value : Nat} :
    digitValue? char = some value
      ↔ IsHexDigit char ∧ value < 16 ∧ char.toLower = Quoted.hexDigit value := by
  have bounded : digitValue? char = some value → value < 16 := by
    unfold digitValue?
    grind
  by_cases ascii : char.toNat < 128
  · have byIndex : ∀ point : Fin 128, ∀ index : Fin 16,
        digitValue? (Char.ofNat point.val) = some index.val
          ↔ IsHexDigit (Char.ofNat point.val)
            ∧ (Char.ofNat point.val).toLower = Quoted.hexDigit index.val := by
      decide +kernel
    constructor
    · intro read
      have small := bounded read
      have ⟨isDigit, lower⟩ := (byIndex ⟨char.toNat, ascii⟩ ⟨value, small⟩).mp
        (by rw [Char.ofNat_toNat]; exact read)
      rw [Char.ofNat_toNat] at isDigit lower
      exact ⟨isDigit, small, lower⟩
    · rintro ⟨isDigit, small, lower⟩
      have read := (byIndex ⟨char.toNat, ascii⟩ ⟨value, small⟩).mpr
        (by rw [Char.ofNat_toNat]; exact ⟨isDigit, lower⟩)
      rwa [Char.ofNat_toNat] at read
  · have unread : digitValue? char = none := by
      unfold digitValue?
      grind
    rw [unread]
    constructor
    · nofun
    · rintro ⟨isDigit, -, -⟩
      exact absurd isDigit.ascii ascii

private theorem exists_digitValue?_iff {char : Char} :
    (∃ value, digitValue? char = some value) ↔ IsHexDigit char := by
  constructor
  · rintro ⟨value, read⟩
    exact (digitValue?_eq_some_iff.mp read).1
  · intro isDigit
    unfold digitValue?
    rcases isDigit with decimal | upper | lower
    · exact ⟨_, if_pos decimal⟩
    · exact ⟨_, (if_neg (by omega)).trans ((if_neg (by omega)).trans (if_pos upper))⟩
    · exact ⟨_, (if_neg (by omega)).trans (if_pos lower)⟩

theorem isDigit_iff {char : Char} :
    isDigit char = true ↔ IsHexDigit char := by
  rw [isDigit, Option.isSome_iff_exists, exists_digitValue?_iff]

/-! ## Spelled bytes -/

/-- Digits of either letter case, two for each byte. -/
structure Spells (digits : List Char) (bytes : Bytes) : Prop where
  areDigits : ∀ char ∈ digits, IsHexDigit char
  lower : digits.map Char.toLower = encodeChars bytes

namespace Spells

variable {digits : List Char} {bytes : Bytes}

theorem length_eq (spells : Spells digits bytes) :
    digits.length = 2 * bytes.length := by
  rw [← length_encodeChars, ← spells.lower, List.length_map]

private theorem nil_iff : Spells [] bytes ↔ bytes = [] := by
  constructor
  · intro spells
    have noBytes := spells.length_eq
    rw [List.length_nil] at noBytes
    exact List.eq_nil_of_length_eq_zero (by omega)
  · rintro rfl
    exact ⟨List.forall_mem_nil _, rfl⟩

/-- The first two digits spell the first byte. -/
theorem cons_cons_iff
    {high low : Char}
    {byte : UInt8} :
    Spells (high :: low :: digits) (byte :: bytes)
      ↔ digitValue? high = some (byte.toNat / 16)
        ∧ digitValue? low = some (byte.toNat % 16)
        ∧ Spells digits bytes := by
  have byteLt := byte.toNat_lt
  have upper : byte.toNat / 16 < 16 := by omega
  have lower : byte.toNat % 16 < 16 := by omega
  rw [digitValue?_eq_some_iff, digitValue?_eq_some_iff]
  constructor
  · rintro ⟨areDigits, spelled⟩
    simp only [List.map_cons, encodeChars, List.flatMap_cons, encodeByte, List.cons_append,
      List.nil_append, List.cons.injEq] at spelled
    obtain ⟨highDigit, lowDigit, others⟩ := List.forall_mem_cons.mp areDigits |>.imp_right
      List.forall_mem_cons.mp
    exact ⟨⟨highDigit, upper, spelled.1⟩, ⟨lowDigit, lower, spelled.2.1⟩, ⟨others, spelled.2.2⟩⟩
  · rintro ⟨⟨highDigit, -, highLower⟩, ⟨lowDigit, -, lowLower⟩, others, spelled⟩
    refine ⟨List.forall_mem_cons.mpr ⟨highDigit, List.forall_mem_cons.mpr ⟨lowDigit, others⟩⟩, ?_⟩
    rw [List.map_cons, List.map_cons, highLower, lowLower, spelled]
    rfl

end Spells

/-- The lower-case digits of bytes spell them. -/
theorem spells_encodeChars (bytes : Bytes) :
    Spells (encodeChars bytes) bytes := by
  have lowerDigit : ∀ index : Fin 16,
      IsHexDigit (Quoted.hexDigit index.val)
        ∧ (Quoted.hexDigit index.val).toLower = Quoted.hexDigit index.val := by
    decide
  have ofMem : ∀ char ∈ encodeChars bytes, IsHexDigit char ∧ char.toLower = char := by
    intro char isIn
    obtain ⟨byte, -, isDigit⟩ := List.mem_flatMap.mp isIn
    have byteLt := byte.toNat_lt
    simp only [encodeByte, List.mem_cons, List.not_mem_nil, or_false] at isDigit
    rcases isDigit with rfl | rfl
    · exact lowerDigit ⟨byte.toNat / 16, by omega⟩
    · exact lowerDigit ⟨byte.toNat % 16, by omega⟩
  refine ⟨fun char isIn => (ofMem char isIn).1, ?_⟩
  exact (List.map_congr_left fun char isIn => (ofMem char isIn).2).trans (List.map_id _)

/-! ## The reader -/

private theorem digitAt_eq_ok_iff
    {char : Char}
    {position value : Nat} :
    digitAt char position = .ok value ↔ digitValue? char = some value := by
  unfold digitAt
  cases digitValue? char <;> simp

/-- Two digits of a byte have the value of its halves. -/
theorem halves_of_ofNat
    {upper lower : Nat}
    (upperLt : upper < 16)
    (lowerLt : lower < 16) :
    (UInt8.ofNat (16 * upper + lower)).toNat / 16 = upper
      ∧ (UInt8.ofNat (16 * upper + lower)).toNat % 16 = lower := by
  rw [UInt8.toNat_ofNat_of_lt' (by change 16 * upper + lower < 256; omega)]
  omega

/-- From an even count of digits the bytes are read that they spell. -/
theorem decodeFrom_eq_ok_iff
    {digits : List Char}
    {position : Nat}
    {bytes : Bytes}
    (even : digits.length % 2 = 0) :
    decodeFrom digits position = .ok bytes ↔ Spells digits bytes := by
  fun_induction decodeFrom digits position generalizing bytes with
  | case1 high low rest position inductionHypothesis =>
      have restEven : rest.length % 2 = 0 := by
        rw [List.length_cons, List.length_cons] at even
        omega
      simp only [bind_eq_ok_iff, digitAt_eq_ok_iff, inductionHypothesis restEven, Except.ok.injEq]
      constructor
      · rintro ⟨upper, highRead, lower, lowRead, others, spells, rfl⟩
        have ⟨upperBack, lowerBack⟩ := halves_of_ofNat (digitValue?_eq_some_iff.mp highRead).2.1
          (digitValue?_eq_some_iff.mp lowRead).2.1
        refine Spells.cons_cons_iff.mpr ⟨?_, ?_, spells⟩
        · rw [upperBack, highRead]
        · rw [lowerBack, lowRead]
      · intro spells
        cases bytes with
        | nil => exact absurd spells.length_eq (by simp)
        | cons byte others =>
            obtain ⟨highRead, lowRead, behind⟩ := Spells.cons_cons_iff.mp spells
            refine ⟨_, highRead, _, lowRead, others, behind, ?_⟩
            rw [Nat.div_add_mod, UInt8.ofNat_toNat]
  | case2 digits position noPair =>
      match digits with
      | [] =>
          rw [Spells.nil_iff, Except.ok.injEq, eq_comm]
      | [_] =>
          rw [List.length_singleton] at even
          omega
      | high :: low :: rest => exact absurd rfl (noPair high low rest)

/-- A text of which every byte is one of ASCII has these characters. -/
theorem latin1_eq_toList
    {text : String}
    (ascii : ∀ char ∈ latin1 text, char.toNat < 128) :
    latin1 text = text.toList := by
  have back : ∀ byte ∈ Bytes.ofText text,
      UInt8.ofNat (Char.ofNat byte.toNat).toNat = byte := by
    intro byte isIn
    have byIndex : ∀ index : Fin 256, (Char.ofNat index.val).toNat = index.val := by
      decide +kernel
    rw [byIndex ⟨byte.toNat, byte.toNat_lt⟩, UInt8.ofNat_toNat]
  have bytes : Bytes.ofText (String.ofList (latin1 text)) = Bytes.ofText text := by
    rw [Bytes.ofText_of_ascii ascii, latin1, List.map_map]
    exact (List.map_congr_left back).trans (List.map_id _)
  have same := congrArg Bytes.toText? bytes
  rw [Bytes.toText?_ofText, Bytes.toText?_ofText, Option.some.injEq] at same
  rw [← same, String.toList_ofList, same]

/-- Read are the texts that spell bytes, in either letter case. -/
theorem decode_eq_ok_iff
    {text : String}
    {bytes : Bytes} :
    decode text = .ok bytes ↔ Spells text.toList bytes := by
  have read : decode text = .ok bytes ↔ Spells (latin1 text) bytes := by
    simp only [decode]
    split
    · rename_i even
      exact decodeFrom_eq_ok_iff even
    · rename_i odd
      constructor
      · intro impossible
        cases impossible
      · intro spells
        rw [spells.length_eq] at odd
        omega
  rw [read]
  constructor
  · intro spells
    rwa [latin1_eq_toList fun char isIn => (spells.areDigits char isIn).ascii] at spells
  · intro spells
    have plain := latin1_of_ascii fun char isIn => (spells.areDigits char isIn).ascii
    rw [String.ofList_toList] at plain
    rwa [plain]

/-- Digits spell bytes if there is an even count of them. -/
theorem exists_spells_iff {digits : List Char} :
    (∃ bytes, Spells digits bytes)
      ↔ digits.length % 2 = 0 ∧ ∀ char ∈ digits, IsHexDigit char := by
  constructor
  · rintro ⟨bytes, spells⟩
    exact ⟨by rw [spells.length_eq]; omega, spells.areDigits⟩
  · rintro ⟨even, areDigits⟩
    fun_induction decodeFrom digits 0 with
    | case1 high low rest position inductionHypothesis =>
        obtain ⟨highDigit, lowDigit, others⟩ := List.forall_mem_cons.mp areDigits |>.imp_right
          List.forall_mem_cons.mp
        rw [List.length_cons, List.length_cons] at even
        obtain ⟨bytes, spells⟩ := inductionHypothesis (by omega) others
        obtain ⟨upper, highRead⟩ := exists_digitValue?_iff.mpr highDigit
        obtain ⟨lower, lowRead⟩ := exists_digitValue?_iff.mpr lowDigit
        have ⟨upperBack, lowerBack⟩ := halves_of_ofNat (digitValue?_eq_some_iff.mp highRead).2.1
          (digitValue?_eq_some_iff.mp lowRead).2.1
        refine ⟨UInt8.ofNat (16 * upper + lower) :: bytes, Spells.cons_cons_iff.mpr ⟨?_, ?_, spells⟩⟩
        · rw [upperBack, highRead]
        · rw [lowerBack, lowRead]
    | case2 digits position noPair =>
        match digits with
        | [] => exact ⟨[], Spells.nil_iff.mpr rfl⟩
        | [_] =>
            rw [List.length_singleton] at even
            omega
        | high :: low :: rest => exact absurd rfl (noPair high low rest)

/-- The number that digits write is that of the bytes that they spell. -/
theorem Spells.foldl_eq
    {digits : List Char}
    {bytes : Bytes}
    (spells : Spells digits bytes)
    (prior : Nat) :
    digits.foldl (fun prior digit => 16 * prior + (digitValue? digit).getD 0) prior
      = bytes.foldl (fun prior byte => 256 * prior + byte.toNat) prior := by
  induction bytes generalizing digits prior with
  | nil =>
      have noDigits : digits = [] := List.eq_nil_of_length_eq_zero spells.length_eq
      rw [noDigits]
      rfl
  | cons byte rest inductionHypothesis =>
      match digits, spells with
      | high :: low :: others, spells =>
          obtain ⟨highRead, lowRead, behind⟩ := Spells.cons_cons_iff.mp spells
          have step : 16 * (16 * prior + byte.toNat / 16) + byte.toNat % 16
              = 256 * prior + byte.toNat := by
            omega
          rw [List.foldl_cons, List.foldl_cons, List.foldl_cons, highRead, lowRead,
            Option.getD_some, Option.getD_some, step, inductionHypothesis behind]
      | [], spells | [_], spells =>
          have count := spells.length_eq
          simp only [List.length_cons, List.length_nil] at count
          omega

end ChainTx.Hex
