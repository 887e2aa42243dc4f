import ChainTx.Evm.Builder
import ChainTx.Proofs.Call.Runs
import ChainTx.Proofs.Evm.Signing

/-!
Contract: what a builder of the EVM family builds, and what becomes of it when it is signed.

Owns:
- the numbers in a node's answers, which have the width that was asked for;
- where the price of gas and the nonce of a transaction come from, as relations between the wire
  before and the wire behind;
- the transaction that a successful build leaves in its bytes, and its way through signing.

Does not own: the arithmetic of the curve, which may give a signature with a number that is zero.
-/

set_option autoImplicit false

namespace ChainTx.Evm

/-! ## Numbers in answers -/

namespace Quantity

/-- Taking in digits keeps a number within its width. -/
theorem foldlM_step_lt
    {width base : Nat}
    {digits : List Char}
    {prior number : Nat}
    (priorLt : prior < 2 ^ width)
    (read : digits.foldlM (step width base) prior = some number) :
    number < 2 ^ width := by
  induction digits generalizing prior with
  | nil =>
      cases read
      exact priorLt
  | cons digit rest inductionHypothesis =>
      rw [List.foldlM_cons, Option.bind_eq_bind, Option.bind_eq_some_iff] at read
      obtain ⟨next, taken, restRead⟩ := read
      refine inductionHypothesis ?_ restRead
      unfold step at taken
      split at taken
      · cases taken
        exact priorLt
      · rw [Option.bind_eq_bind, Option.bind_eq_some_iff] at taken
        obtain ⟨value, _, taken⟩ := taken
        simp only at taken
        split at taken
        · cases taken
        · rename_i inside
          cases taken
          omega

private theorem ofJson?_lt
    {width number : Nat}
    {json : Json}
    (read : ofJson? width json = some number) :
    number < 2 ^ width := by
  unfold ofJson? at read
  split at read
  · exact foldlM_step_lt (Nat.two_pow_pos width) read
  · rename_i value
    split at read
    · rename_i inside
      cases read
      have powCast : ((2 ^ width : Nat) : Int) = 2 ^ width := Int.natCast_pow 2 width
      omega
    · cases read
  · cases read

end Quantity

namespace Client

/-- A number that is read from an answer has the width that was asked for. -/
theorem numberOf_lt
    {width number : Nat}
    {answer : HttpReply}
    (read : numberOf width answer = .ok number) :
    number < 2 ^ width := by
  unfold numberOf at read
  split at read
  · split at read
    · rw [bind_eq_ok_iff] at read
      obtain ⟨result, _, read⟩ := read
      split at read
      · rename_i found
        cases read
        exact Quantity.ofJson?_lt found
      · cases read
    · cases read
  · cases read

/-- A node tells a number: it answers a request for it, and the number is read from that answer. -/
def Told (client : Client) (method : String) (params : List Json) (width : Nat) (before : Wire)
    (number : Nat) (after : Wire) : Prop :=
  ∃ identity answer,
    Wire.Served client.endpoint
        (.post (String.ofList client.endpoint.target) (requestBody identity method params))
        before answer after
      ∧ numberOf width answer = .ok number

private theorem Told.lt
    {client : Client}
    {method : String}
    {params : List Json}
    {width number : Nat}
    {before after : Wire}
    (told : client.Told method params width before number after) :
    number < 2 ^ width := by
  obtain ⟨_, _, _, read⟩ := told
  exact numberOf_lt read

private theorem wire_of_returns_nextNumber
    {client : Client}
    {context : CallContext}
    {before after : CallState}
    {identity : Nat}
    (returned : (client.nextNumber context).Returns before identity after) :
    after.wire = before.wire := by
  simp only [nextNumber, Call.returns_bind_iff, Call.returns_get_iff] at returned
  obtain ⟨state, middle, ⟨rfl, rfl⟩, returned⟩ := returned
  split at returned
  · rw [Call.returns_pure_iff] at returned
    rw [← returned.2]
  · simp only [Call.returns_bind_iff, Call.returns_set_iff, Call.returns_pure_iff] at returned
    obtain ⟨_, _, rfl, _, rfl⟩ := returned
    rfl

private theorem told_of_returns_query
    {client : Client}
    {context : CallContext}
    {method : String}
    {params : List Json}
    {width number : Nat}
    {before after : CallState}
    (returned : (client.query context method params width).Returns before number after) :
    client.Told method params width before.wire number after.wire := by
  simp only [query, Call.returns_bind_iff, Call.returns_outcome_iff, Call.returns_record_iff]
    at returned
  obtain ⟨identity, counted, countReturned, reply, sent, exchanged, _, _, rfl, returned⟩ := returned
  rw [← wire_of_returns_nextNumber countReturned]
  cases reply with
  | error error =>
      simp only [Except.bind, Call.returns_bind_iff, Call.not_returns_throw, and_false,
        exists_false] at returned
  | ok answer =>
      have served := Call.served_of_returns_exchange exchanged
      cases read : numberOf width answer with
      | error error =>
          simp only [Except.bind, read, Call.returns_bind_iff, Call.not_returns_throw, and_false,
            exists_false] at returned
      | ok found =>
          simp only [Except.bind, read, Call.returns_pure_iff] at returned
          obtain ⟨rfl, rfl⟩ := returned
          exact ⟨identity, answer, served, read⟩

end Client

/-! ## Building -/

/-- The bytes of data add 4 for every zero byte and 16 for every other byte. -/
private theorem foldl_byteGas
    (data : Bytes)
    (start : Nat) :
    data.foldl (fun gas byte => gas + byteGas byte) start
      = start + 4 * data.count 0 + 16 * data.countP (· != 0) := by
  induction data generalizing start with
  | nil => rfl
  | cons byte rest inductionHypothesis =>
      rw [List.foldl_cons, inductionHypothesis, List.count_cons, List.countP_cons]
      by_cases zero : byte = 0
      · simp only [zero, byteGas, if_true, beq_self_eq_true, bne_self_eq_false, Bool.false_eq_true,
          if_false]
        omega
      · have byteMark : (byte != 0) = true := bne_iff_ne.mpr zero
        have noZero : (byte == 0) = false := beq_eq_false_iff_ne.mpr zero
        simp only [byteGas, if_neg zero, byteMark, noZero, if_true, Bool.false_eq_true, if_false]
        omega

/-- The gas of a transfer: 4 for every zero byte of its data and 16 for every other byte. -/
theorem intrinsicGas_eq (data : Bytes) :
    intrinsicGas data = 21000 + 4 * data.count 0 + 16 * data.countP (· != 0) :=
  foldl_byteGas data transferGas

namespace Builder

/-- Where the price of gas comes from: from the request, if its text is not blank; else from the
node; else it is one gigawei. -/
def Priced (builder : Builder) (requested : Option String) (before : Wire) (price : BitVec 128)
    (after : Wire) : Prop :=
  match requestedPrice? requested, builder.node with
  | some raw, _ => parseGasPrice raw = .ok price ∧ after = before
  | none, some link => link.client.Told "eth_gasPrice" [] 128 before price.toNat after
  | none, none => price.toNat = 10 ^ 9 ∧ after = before

/-- Where the nonce of a sender comes from: from the node, which counts pending transactions too;
without a node it is zero. -/
def Numbered (builder : Builder) (sender : Address) (before : Wire) (nonce : UInt64)
    (after : Wire) : Prop :=
  match builder.node with
  | some link =>
      link.client.Told "eth_getTransactionCount"
        [.string ("0x" ++ Hex.encode sender.bytes), .string "pending"] 64 before nonce.toNat after
  | none => nonce = 0 ∧ after = before

private theorem priced_of_returns_resolveGasPrice
    {builder : Builder}
    {context : CallContext}
    {requested : Option String}
    {price : BitVec 128}
    {before after : CallState}
    (returned : (builder.resolveGasPrice context requested).Returns before price after) :
    builder.Priced requested before.wire price after.wire := by
  unfold resolveGasPrice at returned
  unfold Priced
  cases asked : requestedPrice? requested with
  | some raw =>
      simp only [asked, Call.returns_ofExcept_iff] at returned
      obtain ⟨parsed, rfl⟩ := returned
      exact ⟨parsed, rfl⟩
  | none =>
      cases link : builder.node with
      | some link' =>
          simp only [asked, link, Client.gasPrice, Call.returns_bind_iff, Call.returns_pure_iff]
            at returned
          obtain ⟨number, _, queried, rfl, rfl⟩ := returned
          have told := Client.told_of_returns_query queried
          rw [BitVec.toNat_ofNat, Nat.mod_eq_of_lt told.lt]
          exact told
      | none =>
          simp only [asked, link, Call.returns_bind_iff, Call.returns_emit_iff,
            Call.returns_pure_iff] at returned
          obtain ⟨_, _, rfl, rfl, rfl⟩ := returned
          exact ⟨by decide, rfl⟩

private theorem numbered_of_returns_resolveNonce
    {builder : Builder}
    {context : CallContext}
    {sender : Address}
    {nonce : UInt64}
    {before after : CallState}
    (returned : (builder.resolveNonce context sender).Returns before nonce after) :
    builder.Numbered sender before.wire nonce after.wire := by
  unfold resolveNonce at returned
  unfold Numbered
  cases link : builder.node with
  | some link' =>
      simp only [link, Client.pendingNonce, Call.returns_bind_iff, Call.returns_pure_iff]
        at returned
      obtain ⟨number, _, queried, rfl, rfl⟩ := returned
      have told := Client.told_of_returns_query queried
      rw [UInt64.toNat_ofNat', Nat.mod_eq_of_lt told.lt]
      exact told
  | none =>
      simp only [link, Call.returns_bind_iff, Call.returns_emit_iff, Call.returns_pure_iff]
        at returned
      obtain ⟨_, _, rfl, rfl, rfl⟩ := returned
      exact ⟨rfl, rfl⟩

/-- A request that passes has a sender and a transfer. -/
theorem parsed_of_prepare
    {builder : Builder}
    {request : BuildRequest}
    {sender : Address}
    {transfer : Transfer}
    (prepared : builder.prepare request = .ok (sender, transfer)) :
    parseAddress "sender" request.sender = .ok sender
      ∧ Transfer.parse request.txType request.payload = .ok transfer := by
  unfold prepare at prepared
  split at prepared
  · cases prepared
  · simp only [bind_eq_ok_iff, Except.ok.injEq, Prod.mk.injEq] at prepared
    obtain ⟨_, _, _, senderParsed, _, transferParsed, rfl, rfl⟩ := prepared
    exact ⟨senderParsed, transferParsed⟩

/-- What a build has read, asked for and put together; the price is there before the nonce is asked
for. -/
structure Assembled (builder : Builder) (request : BuildRequest) (sender : Address)
    (transfer : Transfer) (price : BitVec 128) (nonce : UInt64) (before middle : Wire)
    (unsigned : UnsignedTx) (after : Wire) : Prop where
  senderParsed : parseAddress "sender" request.sender = .ok sender
  transferParsed : Transfer.parse request.txType request.payload = .ok transfer
  priced : builder.Priced request.gasPrice before price middle
  numbered : builder.Numbered sender middle nonce after
  made : unsigned
    = assemble (transfer.toTx nonce price (gasLimitOf request transfer) builder.chainId)

/-- A build that returns has put together what it leaves. -/
theorem assembled_of_returns_build
    {builder : Builder}
    {context : CallContext}
    {request : BuildRequest}
    {unsigned : UnsignedTx}
    {before after : CallState}
    (built : (builder.build context request).Returns before unsigned after) :
    ∃ sender transfer price nonce middle,
      builder.Assembled request sender transfer price nonce before.wire middle unsigned
        after.wire := by
  simp only [build, Call.returns_bind_iff, Call.returns_ofExcept_iff, Call.returns_record_iff,
    Call.returns_emit_iff, Call.returns_pure_iff] at built
  obtain ⟨⟨sender, transfer⟩, _, ⟨prepared, rfl⟩, price, priced, priceReturned, nonce, numbered,
    nonceReturned, _, _, rfl, _, _, rfl, rfl, rfl⟩ := built
  obtain ⟨senderParsed, transferParsed⟩ := parsed_of_prepare prepared
  have pricedBy := priced_of_returns_resolveGasPrice priceReturned
  have numberedBy := numbered_of_returns_resolveNonce nonceReturned
  exact ⟨sender, transfer, price, nonce, priced.wire,
    { senderParsed, transferParsed
      priced := pricedBy
      numbered := numberedBy
      made := rfl }⟩

end Builder

/-! ## From request to signature -/

namespace Builder

/-- From request to signature. A build that returns leaves the bytes of exactly one transaction: the
transfer of the payload on the builder's chain, with the gas limit of the request or, for zero, of
the transfer, with a price and a nonce of known origin. The sign doc is the hash of the bytes. Every
key that spells a number in range signs it, and the signed bytes are the same transaction with the
signature, unless a number of the signature is zero. -/
theorem lifecycle_of_returns_build
    (builder : Builder)
    (context : CallContext)
    (request : BuildRequest)
    (unsigned : UnsignedTx)
    (before after : CallState)
    (built : (builder.build context request).Returns before unsigned after)
    (addressable : unsigned.txBytes.Addressable) :
    ∃ sender transfer price nonce middle,
      parseAddress "sender" request.sender = .ok sender
        ∧ Transfer.parse request.txType request.payload = .ok transfer
        ∧ builder.Priced request.gasPrice before.wire price middle
        ∧ builder.Numbered sender middle nonce after.wire
        ∧ unsigned.sequence = nonce
        ∧ unsigned.signDoc = Keccak.hash unsigned.txBytes
        ∧ ∃ tx : LegacyTx,
          tx = { chainId := some builder.chainId
                 nonce := nonce
                 gasPrice := price
                 gasLimit :=
                   if request.gasLimit = 0 then
                     UInt64.ofNat (21000 + 4 * transfer.data.count 0
                       + 16 * transfer.data.countP (· != 0))
                   else request.gasLimit
                 recipient := some transfer.recipient
                 value := transfer.value
                 input := transfer.data }
            ∧ decodeUnsigned unsigned.txBytes = .ok tx
            ∧ ∀ (key : SigningKey) (privateKey : Ecdsa.PrivateKey),
              key.bytes.length = 32 →
              Ecdsa.PrivateKey.ofBytes? key.bytes = some privateKey →
              (Ecdsa.sign privateKey unsigned.signDoc).r ≠ 0 →
              (Ecdsa.sign privateKey unsigned.signDoc).s ≠ 0 →
              ∃ signed,
                signTx unsigned key = .ok signed
                  ∧ signed.signature = signatureBytes (Ecdsa.sign privateKey unsigned.signDoc)
                  ∧ decodeSigned signed.txBytes
                    = .ok ⟨tx, Ecdsa.sign privateKey unsigned.signDoc⟩ := by
  obtain ⟨sender, transfer, price, nonce, middle, assembled⟩ := assembled_of_returns_build built
  have gasLimit : gasLimitOf request transfer
      = if request.gasLimit = 0 then
          UInt64.ofNat (21000 + 4 * transfer.data.count 0 + 16 * transfer.data.countP (· != 0))
        else request.gasLimit := by
    rw [gasLimitOf, intrinsicGas_eq]
  have made := assembled.made
  rw [gasLimit, Transfer.toTx] at made
  generalize txEq : LegacyTx.mk (some builder.chainId) _ _ _ _ _ _ = tx at made
  have bytesEq : unsigned.txBytes = tx.encodeUnsigned := by
    rw [made, assemble]
  have docEq : unsigned.signDoc = tx.signingHash := by
    rw [made, assemble]
  have sequenceEq : unsigned.sequence = nonce := by
    rw [made, assemble, ← txEq]
  have onChain : tx.chainId = some builder.chainId := by
    rw [← txEq]
  rw [bytesEq] at addressable
  have decoded : decodeUnsigned unsigned.txBytes = .ok tx := by
    rw [bytesEq]
    exact decodeUnsigned_encodeUnsigned onChain addressable
  refine ⟨sender, transfer, price, nonce, middle, assembled.senderParsed, assembled.transferParsed,
    assembled.priced, assembled.numbered, sequenceEq, ?_, tx, txEq.symm, decoded, ?_⟩
  · rw [docEq, bytesEq, LegacyTx.signingHash]
  · intro key privateKey wide inRange rNonzero sNonzero
    have full : unsigned.txBytes ≠ [] := by
      rw [bytesEq]
      exact tx.encodeUnsigned_ne_nil
    have loaded : SigningKey.load .evm key.bytes = .ok privateKey :=
      SigningKey.load_eq_ok_iff.mpr ⟨wide, inRange⟩
    have signs := signTx_of_decoded full decoded docEq.symm loaded rNonzero sNonzero
    exact ⟨_, signs, rfl, decodeSigned_encode _ addressable⟩

/-! ### A transfer that is built without a node and with one -/

/-- A request for a transfer of five wei, without a price. -/
def sampleRequest : BuildRequest where
  txType := .nativeTransfer
  sender := "0x00000000000000000000000000000000000000aa"
  chainId := ""
  payload := .object
    [("toAddress", .string "0x00000000000000000000000000000000000000bb"), ("amount", .string "5")]
  gasLimit := 0
  gasPrice := none
  memo := ""
  publicKey := none

/-- The transaction of the sample, with the price and the nonce of nobody. -/
def untoldTx : LegacyTx :=
  ⟨some 1, 0, 1000000000, 21000, some 0xbb, 5, []⟩

/-- The transaction of the sample, with the price and the nonce that a node tells. -/
def toldTx : LegacyTx :=
  ⟨some 1, 7, 2000000000, 21000, some 0xbb, 5, []⟩

/-- A node that tells a price of two gigawei and a nonce of seven. -/
def tellingNode : Node where
  host := .name ['n']
  port := none
  replies :=
    [("eth_gasPrice", [⟨0, .answer 200 "\x7b\"result\":\"0x77359400\"\x7d"⟩]),
      ("eth_getTransactionCount", [⟨0, .answer 200 "\x7b\"result\":\"0x7\"\x7d"⟩])]

/-- A builder that is connected to a node of the name `n`. -/
def connectedBuilder : Builder :=
  let url : Url := ⟨['h', 't', 't', 'p'], some ⟨[], [], .name ['n'], none⟩, ['/'], none, none⟩
  { offline 1 with node := some ⟨⟨url, 1, ⟨10 ^ 9⟩, 0⟩, ⟨url, ⟨10 ^ 9⟩⟩⟩ }

private theorem exists_built_of_bytes
    {builder : Builder}
    {request : BuildRequest}
    {before : CallState}
    {bytes : Bytes}
    (ran : ((builder.build .background request).run.run before).1.toOption.map UnsignedTx.txBytes
      = some bytes) :
    ∃ unsigned after,
      (builder.build .background request).Returns before unsigned after
        ∧ unsigned.txBytes = bytes := by
  obtain ⟨unsigned, found, bytesEq⟩ := Option.map_eq_some_iff.mp ran
  obtain ⟨after, built⟩ := Call.returns_of_toOption found
  exact ⟨unsigned, after, built, bytesEq⟩

/-- The key one signs the transaction with what the node tells by two numbers other than zero. -/
theorem nonzero_toldTx :
    (Ecdsa.sign ⟨1, by decide, by decide⟩ (Keccak.hash toldTx.encodeUnsigned)).r ≠ 0
      ∧ (Ecdsa.sign ⟨1, by decide, by decide⟩ (Keccak.hash toldTx.encodeUnsigned)).s ≠ 0 := by
  decide +kernel

/-- The sample built without a node, and built with one and signed by the key one: where the price and
the nonce come from, and the transaction that the bytes hold. -/
theorem lifecycle_of_sampleRequest :
    (∃ unsigned after middle,
        ((offline 1).build .background sampleRequest).Returns (.initial none) unsigned after
          ∧ (offline 1).Priced none (CallState.initial none).wire 1000000000 middle
          ∧ (offline 1).Numbered 0xaa middle 0 after.wire
          ∧ decodeUnsigned unsigned.txBytes = .ok untoldTx)
      ∧ ∃ unsigned after middle signed signature,
        (connectedBuilder.build .background sampleRequest).Returns (.initial (some tellingNode))
            unsigned after
          ∧ connectedBuilder.Priced none (CallState.initial (some tellingNode)).wire 2000000000 middle
          ∧ connectedBuilder.Numbered 0xaa middle 7 after.wire
          ∧ decodeUnsigned unsigned.txBytes = .ok toldTx
          ∧ signTx unsigned .one = .ok signed
          ∧ decodeSigned signed.txBytes = .ok ⟨toldTx, signature⟩ := by
  have parsed : parseAddress "sender" sampleRequest.sender = .ok 0xaa := rfl
  constructor
  · obtain ⟨unsigned, after, built, bytesEq⟩ :=
      exists_built_of_bytes (show (((offline 1).build .background sampleRequest).run.run
        (.initial none)).1.toOption.map UnsignedTx.txBytes = some untoldTx.encodeUnsigned by
          decide +kernel)
    have addressable : untoldTx.encodeUnsigned.Addressable := by
      rw [Bytes.Addressable]
      decide +kernel
    obtain ⟨sender, transfer, price, nonce, middle, senderParsed, -, priced, numbered, -, -, tx,
      txEq, decoded, -⟩ :=
      lifecycle_of_returns_build (offline 1) .background sampleRequest unsigned _ after built
        (bytesEq ▸ addressable)
    have expected : decodeUnsigned unsigned.txBytes = .ok untoldTx :=
      bytesEq ▸ decodeUnsigned_encodeUnsigned rfl addressable
    have sameTx := Except.ok.inj (decoded.symm.trans expected)
    have samePrice : price = 1000000000 := congrArg LegacyTx.gasPrice (txEq.symm.trans sameTx)
    have sameNonce : nonce = 0 := congrArg LegacyTx.nonce (txEq.symm.trans sameTx)
    have sameSender : sender = 0xaa := Except.ok.inj (senderParsed.symm.trans parsed)
    subst samePrice sameNonce sameSender
    exact ⟨unsigned, after, middle, built, priced, numbered, expected⟩
  · obtain ⟨unsigned, after, built, bytesEq⟩ :=
      exists_built_of_bytes (show ((connectedBuilder.build .background sampleRequest).run.run
        (.initial (some tellingNode))).1.toOption.map UnsignedTx.txBytes
          = some toldTx.encodeUnsigned by decide +kernel)
    have addressable : toldTx.encodeUnsigned.Addressable := by
      rw [Bytes.Addressable]
      decide +kernel
    obtain ⟨sender, transfer, price, nonce, middle, senderParsed, -, priced, numbered, -, docEq, tx,
      txEq, decoded, signs⟩ :=
      lifecycle_of_returns_build connectedBuilder .background sampleRequest unsigned _ after built
        (bytesEq ▸ addressable)
    have expected : decodeUnsigned unsigned.txBytes = .ok toldTx :=
      bytesEq ▸ decodeUnsigned_encodeUnsigned rfl addressable
    have sameTx := Except.ok.inj (decoded.symm.trans expected)
    have samePrice : price = 2000000000 := congrArg LegacyTx.gasPrice (txEq.symm.trans sameTx)
    have sameNonce : nonce = 7 := congrArg LegacyTx.nonce (txEq.symm.trans sameTx)
    have sameSender : sender = 0xaa := Except.ok.inj (senderParsed.symm.trans parsed)
    obtain ⟨wide, inRange⟩ := SigningKey.load_eq_ok_iff.mp (SigningKey.load_one .evm)
    rw [docEq, bytesEq] at signs
    obtain ⟨rNonzero, sNonzero⟩ := nonzero_toldTx
    obtain ⟨signed, signedBy, -, signedRead⟩ := signs .one _ wide inRange rNonzero sNonzero
    subst samePrice sameNonce sameSender sameTx
    exact ⟨unsigned, after, middle, signed, _, built, priced, numbered, expected, signedBy,
      signedRead⟩

end Builder

end ChainTx.Evm
