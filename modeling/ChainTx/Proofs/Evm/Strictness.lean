import ChainTx.Evm.Signing
import ChainTx.Proofs.Evm.LegacyTx

/-!
Contract: the readers of the recursive length encoding and of unsigned legacy transactions accept
nothing but what the encoders write.

Owns:
- the bytes of whatever is read as a header, a byte string, a number or a recipient;
- the bytes of whatever is read as an unsigned transaction, and with the law of the encoder the
  bijection between transactions on a chain and their encodings.

Does not own: signed transactions. Their readers look for a type byte first.
-/

set_option autoImplicit false

namespace ChainTx.Evm

namespace Rlp

/-! ## Headers -/

/-- A number that was read has the width asked for, and its bytes are its shortest spelling. -/
theorem minimalBE_of_wordOf
    {width number : Nat}
    {bytes : Bytes}
    (read : wordOf width bytes = .ok number) :
    number < 256 ^ width ∧ Bytes.minimalBE number = bytes := by
  unfold wordOf at read
  split at read
  · cases read
  · rename_i narrow
    split at read
    · cases read
    · rename_i noLeadingZero
      cases read
      have widthLe : 256 ^ bytes.length ≤ 256 ^ width :=
        Nat.pow_le_pow_right (by decide) (by omega)
      exact ⟨Nat.lt_of_lt_of_le (Bytes.toNatBE_lt bytes) widthLe,
        Bytes.minimalBE_toNatBE bytes noLeadingZero⟩

private theorem checkRemaining_eq_ok_iff
    {head found : Header}
    {rest behind : Bytes} :
    checkRemaining head rest = .ok (found, behind)
      ↔ head = found ∧ rest = behind ∧ head.payloadLength ≤ rest.length := by
  unfold checkRemaining
  split
  · simp
    omega
  · simp
    omega

/-- Bytes that are a header with the rest behind it. The payload is there in full, and a string of
one byte has a header only if the byte does not stand for itself. -/
structure Header.Spelled (head : Header) (bytes rest : Bytes) : Prop where
  bytes_eq : bytes = header head.isList head.payloadLength ++ rest
  length_lt : head.payloadLength < 2 ^ 64
  enough : head.payloadLength ≤ rest.length
  marked : head.isList = false → head.payloadLength = 1 →
    ∀ byte, rest.head? = some byte → ¬ byte < 0x80

/-- A first byte that holds the length. -/
theorem spelled_of_checkRemaining
    {head found : Header}
    {first : UInt8}
    {bytes rest : Bytes}
    (read : checkRemaining head bytes = .ok (found, rest))
    (short : head.payloadLength < 56)
    (code : first.toNat = (if head.isList then 0xC0 else 0x80) + head.payloadLength)
    (marked : head.isList = false → head.payloadLength = 1 →
      ∀ byte, bytes.head? = some byte → ¬ byte < 0x80) :
    found.Spelled (first :: bytes) rest := by
  obtain ⟨rfl, rfl, enough⟩ := checkRemaining_eq_ok_iff.mp read
  refine ⟨?_, by omega, enough, marked⟩
  rw [header, if_pos short, ← code, UInt8.ofNat_toNat, List.singleton_append]

/-- A first byte that holds the length of the length. -/
theorem spelled_of_readLongHeader
    {isList : Bool}
    {first : UInt8}
    {lengthOfLength : Nat}
    {head : Header}
    {bytes rest : Bytes}
    (read : readLongHeader isList lengthOfLength bytes = .ok (head, rest))
    (code : first.toNat = (if isList then 0xF7 else 0xB7) + lengthOfLength) :
    head.Spelled (first :: bytes) rest := by
  unfold readLongHeader at read
  split at read
  · cases read
  · rename_i spelled payload split
    obtain ⟨bytesEq, spelledLength⟩ := Bytes.eq_append_of_splitAt? split
    obtain ⟨length, wordRead, read⟩ := bind_eq_ok_iff.mp read
    obtain ⟨lengthLt, spelledEq⟩ := minimalBE_of_wordOf wordRead
    split at read
    · cases read
    · rename_i long
      obtain ⟨rfl, rfl, enough⟩ := checkRemaining_eq_ok_iff.mp read
      have firstEq :
          UInt8.ofNat ((if isList then 0xC0 else 0x80) + 55 + spelled.length) = first := by
        have firstLt := first.toNat_lt
        rw [← UInt8.toNat_inj, UInt8.toNat_ofNat', spelledLength]
        cases isList <;> simp only [Bool.false_eq_true, if_false, if_true] at code ⊢ <;> omega
      refine ⟨?_, by omega, enough, fun _ single => absurd single ?_⟩
      · simp only [header, if_neg long, spelledEq, firstEq, bytesEq, List.cons_append]
      · simp only
        omega

/-- What is read as a header is a byte that stands for itself, or the bytes of a header. -/
theorem spelled_of_readHeader
    {bytes rest : Bytes}
    {head : Header}
    (read : readHeader bytes = .ok (head, rest)) :
    (∃ byte tail, byte < 0x80 ∧ bytes = byte :: tail ∧ rest = byte :: tail ∧ head = ⟨false, 1⟩)
      ∨ head.Spelled bytes rest := by
  cases bytes with
  | nil => cases read
  | cons first tail =>
      unfold readHeader at read
      simp only at read
      split at read
      · rename_i small
        cases read
        exact .inl ⟨first, tail, UInt8.lt_iff_toNat_lt.mpr small, rfl, rfl, rfl⟩
      · right
        split at read
        · -- A short string: of one byte, which must be marked, or of another length.
          split at read
          · cases read
          · rename_i byte behind single
            split at read
            · cases read
            · rename_i notSmall
              refine spelled_of_checkRemaining read (by simp) (by simp; omega) ?_
              intro _ _ other first
              cases first
              exact notSmall
          · rename_i tail _ _ notAlone notSingle
            refine spelled_of_checkRemaining read (by simp; omega) (by simp; omega) ?_
            intro _ single
            cases tail with
            | nil => exact (notAlone single rfl).elim
            | cons byte behind => exact (notSingle byte behind single rfl).elim
        · split at read
          · exact spelled_of_readLongHeader read (by simp; omega)
          · split at read
            · exact spelled_of_checkRemaining read (by simp; omega) (by simp; omega) (by simp)
            · exact spelled_of_readLongHeader read (by simp; omega)

/-- A header of a list that ends where the bytes end makes the bytes that list. -/
theorem encodeList_of_readHeader
    {bytes payload : Bytes}
    {head : Header}
    (read : readHeader bytes = .ok (head, payload))
    (isList : head.isList = true)
    (whole : head.payloadLength = payload.length) :
    encodeList payload = bytes := by
  obtain ⟨_, _, _, _, _, rfl⟩ | spelled := spelled_of_readHeader read
  · cases isList
  · rw [encodeList, spelled.bytes_eq, isList, whole]

/-! ## Byte strings -/

/-- What was read as a byte string is its encoding with the rest behind it. -/
theorem eq_encodeBytes_of_readBytes
    {bytes payload rest : Bytes}
    (read : readBytes bytes = .ok (payload, rest)) :
    bytes = encodeBytes payload ++ rest := by
  obtain ⟨⟨head, behind⟩, headRead, read⟩ := bind_eq_ok_iff.mp read
  simp only at read
  split at read
  · rename_i isString
    cases read
    obtain ⟨byte, tail, small, rfl, rfl, rfl⟩ | spelled := spelled_of_readHeader headRead
    · simp [encodeBytes, small]
    · have payloadLength : (behind.take head.payloadLength).length = head.payloadLength :=
        List.length_take_of_le spelled.enough
      have marked : ∀ byte, behind.take head.payloadLength = [byte] → ¬ byte < 0x80 := by
        intro byte single
        rw [single, List.length_singleton] at payloadLength
        have first := congrArg List.head? single
        rw [List.head?_take, if_neg (by omega), List.head?_cons] at first
        exact spelled.marked isString payloadLength.symm byte first
      rw [encodeBytes_of_marked _ marked, payloadLength, List.append_assoc,
        List.take_append_drop, ← isString]
      exact spelled.bytes_eq
  · cases read

private theorem eq_encodeBytes_of_readFixed
    {width : Nat}
    {bytes payload rest : Bytes}
    (read : readFixed width bytes = .ok (payload, rest)) :
    payload.length = width ∧ bytes = encodeBytes payload ++ rest := by
  obtain ⟨⟨found, behind⟩, bytesRead, read⟩ := bind_eq_ok_iff.mp read
  simp only at read
  split at read
  · rename_i wide
    cases read
    exact ⟨wide, eq_encodeBytes_of_readBytes bytesRead⟩
  · cases read

/-! ## Numbers -/

private theorem eq_encodeNat_of_readWord
    {width number : Nat}
    {bytes rest : Bytes}
    (read : readWord width bytes = .ok (number, rest)) :
    number < 256 ^ width ∧ bytes = encodeNat number ++ rest := by
  simp only [readWord, bind_eq_ok_iff, Except.ok.injEq, Prod.mk.injEq] at read
  obtain ⟨⟨payload, behind⟩, bytesRead, found, wordRead, rfl, rfl⟩ := read
  obtain ⟨numberLt, spelled⟩ := minimalBE_of_wordOf wordRead
  rw [encodeNat, spelled]
  exact ⟨numberLt, eq_encodeBytes_of_readBytes bytesRead⟩

/-- The order in which a number is judged matters for the fault only. -/
theorem readWide_eq_ok_iff
    {width number : Nat}
    {bytes rest : Bytes} :
    readWide width bytes = .ok (number, rest) ↔ readWord width bytes = .ok (number, rest) := by
  simp only [readWide, readWord, bind_eq_ok_iff, wordOf]
  refine exists_congr fun found => and_congr_right fun _ => ?_
  by_cases leadingZero : found.1.head? = some 0 <;> by_cases wide : width < found.1.length <;>
    simp [leadingZero, wide]

/-- A number that is read into a word of its width has the encoding of that word. -/
theorem eq_encodeNat_of_readWord_bind
    {Word : Type}
    {width : Nat}
    {ofNat : Nat → Word}
    {toNat : Word → Nat}
    {bytes rest : Bytes}
    {word : Word}
    (toNat_ofNat : ∀ number, number < 256 ^ width → toNat (ofNat number) = number)
    (read : (readWord width bytes >>= fun found => .ok (ofNat found.1, found.2))
      = .ok (word, rest)) :
    bytes = encodeNat (toNat word) ++ rest := by
  obtain ⟨⟨number, behind⟩, wordRead, taken⟩ := bind_eq_ok_iff.mp read
  cases taken
  obtain ⟨numberLt, bytesEq⟩ := eq_encodeNat_of_readWord wordRead
  rw [toNat_ofNat number numberLt]
  exact bytesEq

theorem eq_encodeNat_of_readUInt64
    {bytes rest : Bytes}
    {word : UInt64}
    (read : readUInt64 bytes = .ok (word, rest)) :
    bytes = encodeNat word.toNat ++ rest := by
  refine eq_encodeNat_of_readWord_bind (fun number numberLt => ?_) read
  rw [UInt64.toNat_ofNat', Nat.mod_eq_of_lt (by omega)]

private theorem eq_encodeNat_of_readUInt128
    {bytes rest : Bytes}
    {word : BitVec 128}
    (read : readUInt128 bytes = .ok (word, rest)) :
    bytes = encodeNat word.toNat ++ rest := by
  refine eq_encodeNat_of_readWord_bind (fun number numberLt => ?_) read
  rw [BitVec.toNat_ofNat, Nat.mod_eq_of_lt (by omega)]

private theorem eq_encodeNat_of_readUInt256
    {bytes rest : Bytes}
    {word : BitVec 256}
    (read : readUInt256 bytes = .ok (word, rest)) :
    bytes = encodeNat word.toNat ++ rest := by
  obtain ⟨⟨number, behind⟩, wideRead, taken⟩ := bind_eq_ok_iff.mp read
  refine eq_encodeNat_of_readWord_bind (fun number numberLt => ?_)
    (bind_eq_ok_iff.mpr ⟨_, readWide_eq_ok_iff.mp wideRead, taken⟩)
  rw [BitVec.toNat_ofNat, Nat.mod_eq_of_lt (by omega)]

end Rlp

theorem Address.bytes_ofBytes
    {bytes : Bytes}
    (wide : bytes.length = 20) :
    (Address.ofBytes bytes).bytes = bytes := by
  have numberLt := Bytes.toNatBE_lt bytes
  rw [wide] at numberLt
  rw [Address.bytes, Address.ofBytes, BitVec.toNat_ofNat, Nat.mod_eq_of_lt (by omega), ← wide,
    Bytes.ofNatBE_toNatBE]

namespace LegacyTx

/-! ## Unsigned transactions -/

private theorem eq_encodeRecipient_of_readRecipient
    {bytes rest : Bytes}
    {recipient : Option Address}
    (read : readRecipient bytes = .ok (recipient, rest)) :
    bytes = encodeRecipient recipient ++ rest := by
  unfold readRecipient at read
  split at read
  · cases read
  · rename_i first tail
    split at read
    · rename_i empty
      cases read
      rw [empty]
      rfl
    · simp only [bind_eq_ok_iff, Prod.exists, Except.ok.injEq, Prod.mk.injEq] at read
      obtain ⟨payload, _, fixedRead, rfl, rfl⟩ := read
      obtain ⟨wide, bytesEq⟩ := Rlp.eq_encodeBytes_of_readFixed fixedRead
      rw [bytesEq, encodeRecipient, Address.bytes_ofBytes wide]

private theorem eq_encodeFields_of_readFields
    {bytes rest : Bytes}
    {tx : LegacyTx}
    (read : readFields bytes = .ok (tx, rest)) :
    bytes = tx.encodeFields ++ rest := by
  simp only [readFields, bind_eq_ok_iff, Prod.exists, Except.ok.injEq, Prod.mk.injEq] at read
  obtain ⟨_, _, nonceRead, _, _, priceRead, _, _, limitRead, _, _, recipientRead, _, _, valueRead,
    _, _, inputRead, rfl, rfl⟩ := read
  rw [Rlp.eq_encodeNat_of_readUInt64 nonceRead, Rlp.eq_encodeNat_of_readUInt128 priceRead,
    Rlp.eq_encodeNat_of_readUInt64 limitRead, eq_encodeRecipient_of_readRecipient recipientRead,
    Rlp.eq_encodeNat_of_readUInt256 valueRead, Rlp.eq_encodeBytes_of_readBytes inputRead]
  simp only [encodeFields, List.append_assoc]

/-- What was read as an unsigned transaction is on a chain, and the bytes are its encoding. -/
theorem encodeUnsigned_of_decodeUnsigned
    {bytes : Bytes}
    {tx : LegacyTx}
    (read : decodeUnsigned bytes = .ok tx) :
    (∃ chainId, tx.chainId = some chainId) ∧ tx.encodeUnsigned = bytes := by
  simp only [decodeUnsigned, bind_eq_ok_iff, mapError_eq_ok_iff, Prod.exists] at read
  obtain ⟨head, payload, headRead, read⟩ := read
  split at read
  · cases read
  · rename_i notString
    split at read
    · cases read
    · rename_i whole
      simp only [bind_eq_ok_iff, mapError_eq_ok_iff, Prod.exists] at read
      obtain ⟨fields, _, fieldsRead, chainId, _, chainRead, r, _, rRead, s, rest, sRead, read⟩ :=
        read
      split at read
      · cases read
      · rename_i zeros
        split at read
        · cases read
        · rename_i nothing
          cases read
          simp only [not_or, ne_eq, Classical.not_not] at zeros nothing whole
          obtain ⟨rfl, rfl⟩ := zeros
          -- The fields do not see the chain; the three numbers behind them are the trailer.
          have items : payload
              = { fields with chainId := some chainId }.encodeFields
                ++ encodeTrailer (some chainId) := by
            rw [eq_encodeFields_of_readFields fieldsRead,
              Rlp.eq_encodeNat_of_readUInt64 chainRead, Rlp.eq_encodeNat_of_readUInt64 rRead,
              Rlp.eq_encodeNat_of_readUInt64 sRead, nothing, List.append_nil, encodeTrailer,
              List.append_assoc]
            rfl
          refine ⟨⟨chainId, rfl⟩, ?_⟩
          rw [encodeUnsigned, ← items]
          exact Rlp.encodeList_of_readHeader headRead (eq_true_of_ne_false notString) whole

end LegacyTx

theorem encodeUnsigned_of_decodeUnsigned
    {bytes : Bytes}
    {tx : LegacyTx}
    (read : decodeUnsigned bytes = .ok tx) :
    (∃ chainId, tx.chainId = some chainId) ∧ tx.encodeUnsigned = bytes :=
  LegacyTx.encodeUnsigned_of_decodeUnsigned (mapError_eq_ok_iff.mp read)

/-- The encoding of a transaction on a chain is read as that transaction. -/
theorem decodeUnsigned_encodeUnsigned
    {tx : LegacyTx}
    {chainId : UInt64}
    (onChain : tx.chainId = some chainId)
    (addressable : tx.encodeUnsigned.Addressable) :
    decodeUnsigned tx.encodeUnsigned = .ok tx :=
  mapError_eq_ok_iff.mpr (tx.decodeUnsigned_encodeUnsigned chainId onChain addressable)

/-- Transactions on a chain and their unsigned encodings belong to each other one to one. Every such
transaction, if its encoding fits in memory, is read back from it. Whatever bytes are read as a
transaction are its encoding, so that the hash to sign is the hash of these bytes and no other bytes
are read as the same transaction. -/
theorem unsigned_bijection
    (tx : LegacyTx)
    (bytes : Bytes) :
    ((∃ chainId, tx.chainId = some chainId) →
        tx.encodeUnsigned.Addressable →
        decodeUnsigned tx.encodeUnsigned = .ok tx)
      ∧ (decodeUnsigned bytes = .ok tx →
        (∃ chainId, tx.chainId = some chainId)
          ∧ tx.encodeUnsigned = bytes
          ∧ tx.signingHash = Keccak.hash bytes
          ∧ ∀ other, decodeUnsigned other = .ok tx → other = bytes) := by
  constructor
  · rintro ⟨chainId, onChain⟩ addressable
    exact decodeUnsigned_encodeUnsigned onChain addressable
  · intro read
    obtain ⟨onChain, encoded⟩ := encodeUnsigned_of_decodeUnsigned read
    refine ⟨onChain, encoded, ?_, ?_⟩
    · rw [LegacyTx.signingHash, encoded]
    · intro other otherRead
      rw [← encoded, (encodeUnsigned_of_decodeUnsigned otherRead).2]

/-- A transaction that creates a contract, with the largest numbers, so that the length of its items
has a byte of its own. -/
def largestNumbers : LegacyTx where
  chainId := some 0xffffffffffffffff
  nonce := 0
  gasPrice := 0xffffffffffffffffffffffffffffffff
  gasLimit := 0x7f
  recipient := none
  value := 0xffffffffffffffffffffffffffffffffffffffffffffffffffffffffffffffff
  input := [0x80]

def largestNumbersBytes : Bytes :=
  [0xf8, 0x42, 0x80, 0x90] ++ List.replicate 16 0xff ++ [0x7f, 0x80, 0xa0]
    ++ List.replicate 32 0xff ++ [0x81, 0x80, 0x88] ++ List.replicate 8 0xff ++ [0x80, 0x80]

theorem encodeUnsigned_largestNumbers :
    largestNumbers.encodeUnsigned = largestNumbersBytes := by
  decide +kernel

theorem unsigned_bijection_of_largestNumbers :
    largestNumbers.encodeUnsigned.Addressable
      ∧ decodeUnsigned largestNumbersBytes = .ok largestNumbers
      ∧ largestNumbers.signingHash = Keccak.hash largestNumbersBytes := by
  have encoded := encodeUnsigned_largestNumbers
  have addressable : largestNumbers.encodeUnsigned.Addressable := by
    rw [encoded, Bytes.Addressable]
    decide
  obtain ⟨reads, unique⟩ := unsigned_bijection largestNumbers largestNumbersBytes
  have read := reads ⟨_, rfl⟩ addressable
  rw [encoded] at read
  exact ⟨addressable, read, (unique read).2.2.1⟩

end ChainTx.Evm
