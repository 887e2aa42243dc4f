import ChainTx.Bytes

/-!
Contract: laws of byte strings and of the numbers and texts they spell.

Owns:
- the bound that the length formats set, and the one that every byte string in memory meets;
- the shortest big-endian spelling as an inverse of reading, its length and its first byte;
- the fixed-width spelling as an inverse of reading;
- the converse: reading as an inverse of spelling, for the byte strings that are such spellings;
- the passage between text and UTF-8 bytes, and the texts of ASCII, whose characters are bytes.

Does not own: the encodings in which byte strings are wrapped.
-/

set_option autoImplicit false

namespace ChainTx.Bytes

/-- The count of bytes has 64 bits. The length formats of RLP and protobuf say no more. -/
def Sized (bytes : Bytes) : Prop :=
  bytes.length < 2 ^ 64

/-- Fewer than `2 ^ 63` bytes. No byte string in the memory of a 64-bit machine is longer. -/
def Addressable (bytes : Bytes) : Prop :=
  bytes.length < 2 ^ 63

theorem Addressable.sized
    {bytes : Bytes}
    (addressable : bytes.Addressable) :
    bytes.Sized := by
  rw [Addressable] at addressable
  rw [Sized]
  omega

/-! ## Spellings of numbers -/

@[simp] theorem toNatBE_nil : toNatBE [] = 0 :=
  rfl

private theorem toNatBE_append_singleton (bytes : Bytes) (byte : UInt8) :
    toNatBE (bytes ++ [byte]) = 256 * toNatBE bytes + byte.toNat := by
  simp only [toNatBE, List.foldl_append, List.foldl_cons, List.foldl_nil]

/-- The low byte of a number, as a byte, is its remainder. -/
theorem toNat_ofNat_mod (number : Nat) :
    (UInt8.ofNat (number % 256)).toNat = number % 256 := by
  rw [UInt8.toNat_ofNat']
  omega

theorem toNatBE_minimalBE (number : Nat) :
    toNatBE (minimalBE number) = number := by
  fun_induction minimalBE number with
  | case1 => rfl
  | case2 number _ inductionHypothesis =>
      rw [toNatBE_append_singleton, inductionHypothesis, toNat_ofNat_mod]
      omega

/-- A number below `256 ^ width` has a shortest spelling of at most `width` bytes. -/
theorem length_minimalBE_le
    (width number : Nat)
    (numberLt : number < 256 ^ width) :
    (minimalBE number).length ≤ width := by
  induction width generalizing number with
  | zero =>
      have numberZero : number = 0 := by omega
      subst numberZero
      simp [minimalBE]
  | succ width inductionHypothesis =>
      rw [minimalBE]
      split
      · exact Nat.zero_le _
      · have quotientLt : number / 256 < 256 ^ width := by
          rw [Nat.pow_succ] at numberLt
          exact Nat.div_lt_of_lt_mul (by omega)
        have quotientLength := inductionHypothesis (number / 256) quotientLt
        simp only [List.length_append, List.length_singleton]
        omega

theorem minimalBE_ne_nil
    (number : Nat)
    (positive : 0 < number) :
    minimalBE number ≠ [] := by
  rw [minimalBE, if_neg (by omega)]
  simp

theorem head?_minimalBE_ne_zero (number : Nat) :
    (minimalBE number).head? ≠ some 0 := by
  fun_induction minimalBE number with
  | case1 => simp
  | case2 number numberNeZero inductionHypothesis =>
      -- Only a quotient of zero makes the last byte the first one, and then that byte is the number.
      by_cases small : number / 256 = 0
      · have lowByte : number % 256 = number := by omega
        rw [small, minimalBE, if_pos rfl, lowByte]
        simp only [List.nil_append, List.head?_cons, ne_eq, Option.some.injEq]
        intro isZero
        have spelled := congrArg UInt8.toNat isZero
        rw [UInt8.toNat_ofNat', UInt8.toNat_zero] at spelled
        omega
      · have nonempty := minimalBE_ne_nil (number / 256) (by omega)
        rw [List.head?_eq_some_head nonempty] at inductionHypothesis
        rw [List.head?_append, List.head?_eq_some_head nonempty]
        exact inductionHypothesis

@[simp] theorem length_ofNatBE (width number : Nat) :
    (ofNatBE width number).length = width := by
  induction width generalizing number with
  | zero => rfl
  | succ width inductionHypothesis =>
      simp [ofNatBE, inductionHypothesis]

theorem toNatBE_ofNatBE
    (width number : Nat)
    (numberLt : number < 256 ^ width) :
    toNatBE (ofNatBE width number) = number := by
  induction width generalizing number with
  | zero =>
      simp only [ofNatBE, toNatBE_nil]
      omega
  | succ width inductionHypothesis =>
      have quotientLt : number / 256 < 256 ^ width := by
        rw [Nat.pow_succ] at numberLt
        exact Nat.div_lt_of_lt_mul (by omega)
      rw [ofNatBE, toNatBE_append_singleton, inductionHypothesis _ quotientLt, toNat_ofNat_mod]
      omega

/-! ## Numbers of spellings -/

/-- Induction from the last byte on, as spellings are built. -/
@[elab_as_elim]
theorem appendInduction
    {motive : Bytes → Prop}
    (nil : motive [])
    (append : ∀ front byte, motive front → motive (front ++ [byte]))
    (bytes : Bytes) :
    motive bytes := by
  rw [← bytes.reverse_reverse]
  induction bytes.reverse with
  | nil => exact nil
  | cons byte rest inductionHypothesis =>
      rw [List.reverse_cons]
      exact append rest.reverse byte inductionHypothesis

theorem toNatBE_lt (bytes : Bytes) :
    toNatBE bytes < 256 ^ bytes.length := by
  induction bytes using appendInduction with
  | nil => simp
  | append front byte inductionHypothesis =>
      have byteLt := byte.toNat_lt
      rw [toNatBE_append_singleton, List.length_append, List.length_singleton, Nat.pow_succ]
      omega

/-- The remainder of a spelled number is its last byte. -/
theorem ofNat_mod_append (prior : Nat) (byte : UInt8) :
    UInt8.ofNat ((256 * prior + byte.toNat) % 256) = byte := by
  have byteLt := byte.toNat_lt
  have remainder : (256 * prior + byte.toNat) % 256 = byte.toNat := by omega
  rw [remainder, UInt8.ofNat_toNat]

/-- The quotient of a spelled number is spelled by the bytes in front. -/
theorem div_append (prior : Nat) (byte : UInt8) :
    (256 * prior + byte.toNat) / 256 = prior := by
  have byteLt := byte.toNat_lt
  omega

theorem ofNatBE_toNatBE (bytes : Bytes) :
    ofNatBE bytes.length (toNatBE bytes) = bytes := by
  induction bytes using appendInduction with
  | nil => rfl
  | append front byte inductionHypothesis =>
      rw [List.length_append, List.length_singleton, ofNatBE, toNatBE_append_singleton,
        div_append, ofNat_mod_append, inductionHypothesis]

/-- A byte string without a leading zero is the shortest spelling of its number. -/
theorem minimalBE_toNatBE
    (bytes : Bytes)
    (noLeadingZero : bytes.head? ≠ some 0) :
    minimalBE (toNatBE bytes) = bytes := by
  induction bytes using appendInduction with
  | nil => simp [minimalBE]
  | append front byte inductionHypothesis =>
      have frontBack : minimalBE (toNatBE front) = front := by
        cases front with
        | nil => simp [minimalBE]
        | cons first rest => exact inductionHypothesis noLeadingZero
      -- A sum of zero would make the last byte a zero with nothing in front of it.
      have positive : 256 * toNatBE front + byte.toNat ≠ 0 := by
        intro zero
        have byteZero : byte = 0 := UInt8.toNat_inj.mp (show byte.toNat = 0 by omega)
        have frontZero : toNatBE front = 0 := by omega
        rw [frontZero, minimalBE, if_pos rfl] at frontBack
        rw [← frontBack, byteZero] at noLeadingZero
        exact noLeadingZero rfl
      rw [toNatBE_append_singleton, minimalBE, if_neg positive, div_append, ofNat_mod_append,
        frontBack]

/-! ## Pieces and texts -/

theorem splitAt?_append (front rest : Bytes) :
    splitAt? front.length (front ++ rest) = some (front, rest) := by
  simp [splitAt?]

theorem eq_append_of_splitAt?
    {count : Nat}
    {bytes front rest : Bytes}
    (split : splitAt? count bytes = some (front, rest)) :
    bytes = front ++ rest ∧ front.length = count := by
  unfold splitAt? at split
  split at split
  · rename_i enough
    cases split
    exact ⟨(List.take_append_drop count bytes).symm, List.length_take_of_le enough⟩
  · cases split

theorem length_add_of_splitAt?
    {count : Nat}
    {bytes front rest : Bytes}
    (split : splitAt? count bytes = some (front, rest)) :
    front.length + rest.length = bytes.length := by
  rw [(eq_append_of_splitAt? split).1, List.length_append]

/-- The library's loop from bytes to a list takes the bytes from an index on. -/
private theorem toList_loop
    (bytes : ByteArray)
    (index : Nat)
    (taken : List UInt8) :
    ByteArray.toList.loop bytes index taken
      = taken.reverse ++ bytes.data.toList.drop index := by
  fun_induction ByteArray.toList.loop bytes index taken with
  | case1 index taken indexLt inductionHypothesis =>
      have inside : index < bytes.data.toList.length := by
        simpa using indexLt
      have byteAt : bytes.get! index = bytes.data[index] :=
        getElem!_pos bytes.data index indexLt
      rw [inductionHypothesis, List.drop_eq_getElem_cons inside, byteAt]
      simp
  | case2 index taken indexGe =>
      rw [List.drop_eq_nil_of_le (by simpa using Nat.le_of_not_lt indexGe)]
      simp

/-- The bytes of a text are UTF-8 and spell that text. -/
theorem toText?_ofText (text : String) :
    toText? (ofText text) = some text := by
  have bytesBack : (⟨(ofText text).toArray⟩ : ByteArray) = text.toByteArray := by
    rw [ofText, ByteArray.toList, toList_loop]
    simp
  rw [toText?, bytesBack, String.fromUTF8?, dif_pos text.isValidUTF8]
  rfl

/-- A text that was read from bytes has these bytes. -/
theorem ofText_of_toText?
    {bytes : Bytes}
    {text : String}
    (read : toText? bytes = some text) :
    ofText text = bytes := by
  unfold toText? String.fromUTF8? at read
  split at read
  · cases read
    rw [ofText, ByteArray.toList, toList_loop]
    rfl
  · cases read

theorem ofText_empty :
    ofText "" = [] := by
  rw [ofText, ByteArray.toList, toList_loop]
  simp

/-- Only the empty text has no bytes. -/
theorem eq_empty_of_ofText_eq_nil
    {text : String}
    (noBytes : ofText text = []) :
    text = "" := by
  have spelled := toText?_ofText text
  rw [noBytes, ← ofText_empty, toText?_ofText] at spelled
  exact (Option.some.inj spelled).symm

/-- The bytes of a text are those of its characters, one after the other. -/
theorem ofText_ofList (chars : List Char) :
    ofText (String.ofList chars) = chars.flatMap String.utf8EncodeChar := by
  rw [ofText, ByteArray.toList, toList_loop]
  change (String.ofList chars).toByteArray.data.toList = _
  rw [String.toByteArray_ofList, List.utf8Encode]
  simp

/-- A character of ASCII is its own byte. -/
theorem utf8EncodeChar_of_ascii
    {char : Char}
    (ascii : char.toNat < 128) :
    String.utf8EncodeChar char = [UInt8.ofNat char.toNat] := by
  have single : char.utf8Size = 1 :=
    Char.utf8Size_eq_one_iff.mpr (UInt32.le_iff_toNat_le.mpr (Nat.le_of_lt_succ ascii))
  rw [String.utf8EncodeChar_eq_singleton single]
  rfl

theorem ofText_of_ascii
    {chars : List Char}
    (ascii : ∀ char ∈ chars, char.toNat < 128) :
    ofText (String.ofList chars) = chars.map fun char => UInt8.ofNat char.toNat := by
  rw [ofText_ofList]
  induction chars with
  | nil => rfl
  | cons char rest inductionHypothesis =>
      have ⟨here, behind⟩ := List.forall_mem_cons.mp ascii
      rw [List.flatMap_cons, utf8EncodeChar_of_ascii here, inductionHypothesis behind]
      rfl

/-- A text of ASCII has as many bytes as characters. -/
theorem utf8ByteSize_of_ascii
    {text : String}
    (ascii : ∀ char ∈ text.toList, char.toNat < 128) :
    text.utf8ByteSize = text.length := by
  have bytes : (ofText text).length = text.utf8ByteSize := by
    rw [ofText, ByteArray.toList, toList_loop]
    simp
  have spelled := congrArg List.length (ofText_of_ascii ascii)
  rw [String.ofList_toList, List.length_map, String.length_toList] at spelled
  exact bytes.symm.trans spelled

end ChainTx.Bytes
