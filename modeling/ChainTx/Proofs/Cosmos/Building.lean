import ChainTx.Cosmos.Builder
import ChainTx.Proofs.Call.RpcClient
import ChainTx.Proofs.Cosmos.Signing

/-!
Contract: what a builder of the Cosmos family builds, and what becomes of it when it is signed.

Owns:
- where the account of a transaction comes from, as a relation between the wire before and the wire
  behind;
- the contents of the bytes that a successful build leaves, and which keys sign them.

Does not own: the arithmetic of the curve.
-/

set_option autoImplicit false

namespace ChainTx.Cosmos

/-! ## Building -/

/-- A node tells an account: it answers a request for it, and the account is read from that
answer. -/
def Account.Told (rest : RpcClient) (address : String) (before : Wire) (account : AccountInfo)
    (after : Wire) : Prop :=
  ∃ url answer,
    Url.read (rest.urlFor (Account.path address)) = .ok url
      ∧ Wire.Served url (.get (String.ofList url.target)) before answer after
      ∧ Account.ofReply address answer = .ok account

private theorem Account.told_of_returns_resolve
    {rest : RpcClient}
    {context : CallContext}
    {address : String}
    {account : AccountInfo}
    {before after : CallState}
    (returned : (Account.resolve rest context address).Returns before account after) :
    Account.Told rest address before.wire account after.wire := by
  simp only [resolve, Call.returns_bind_iff, Call.returns_ofExcept_iff, Call.returns_emit_iff,
    Call.returns_pure_iff] at returned
  obtain ⟨answer, _, queried, info, _, ⟨accountRead, rfl⟩, _, _, rfl, rfl, rfl⟩ := returned
  obtain ⟨url, urlRead, served⟩ := RpcClient.served_of_returns_get queried
  exact ⟨url, answer, urlRead, served, accountRead⟩

namespace Builder

/-- A request that passes has a message and a fee. -/
theorem parsed_of_prepare
    {builder : Builder}
    {request : BuildRequest}
    {message : Message}
    {fee : List Coin}
    (prepared : builder.prepare request = .ok (message, fee)) :
    Message.parse request.txType request.sender request.payload builder.codec = .ok message
      ∧ cosmosFee request.gasLimit request.gasPrice = .ok fee := by
  unfold prepare at prepared
  split at prepared
  · cases prepared
  · simp only [bind_eq_ok_iff, Except.ok.injEq, Prod.mk.injEq] at prepared
    obtain ⟨_, _, _, _, _, messageParsed, _, feeParsed, _, _, rfl, rfl⟩ := prepared
    exact ⟨messageParsed, feeParsed⟩

/-- What a build has read, asked for and put together. -/
structure Assembled (builder : Builder) (request : BuildRequest) (message : Message)
    (fee : List Coin) (account : AccountInfo) (parts : TxParts) (before : Wire)
    (unsigned : UnsignedTx) (after : Wire) : Prop where
  messageParsed :
    Message.parse request.txType request.sender request.payload builder.codec = .ok message
  feeParsed : cosmosFee request.gasLimit request.gasPrice = .ok fee
  told : Account.Told builder.rest request.sender before account after
  partsEq : parts = builder.parts request message fee account
  bytesEq : unsigned.txBytes = parts.encode.txRawBytes
  docEq : unsigned.signDoc = parts.encode.signDocBytes builder.chainId account.accountNumber
  numberEq : unsigned.accountNumber = account.accountNumber
  sequenceEq : unsigned.sequence = parts.sequence

/-- A build that returns has put together what it leaves. -/
theorem assembled_of_returns_build
    {builder : Builder}
    {context : CallContext}
    {request : BuildRequest}
    {unsigned : UnsignedTx}
    {before after : CallState}
    (built : (builder.build context request).Returns before unsigned after) :
    ∃ message fee account parts,
      builder.Assembled request message fee account parts before.wire unsigned after.wire := by
  simp only [build, Call.returns_bind_iff, Call.returns_ofExcept_iff] at built
  obtain ⟨⟨message, fee⟩, _, ⟨prepared, rfl⟩, account, asked, resolved, built⟩ := built
  obtain ⟨messageParsed, feeParsed⟩ := parsed_of_prepare prepared
  -- The warning about a missing key is an event, which leaves the wire as it is.
  have left : unsigned = builder.assemble request message fee account ∧ after.wire = asked.wire := by
    split at built
    · simp only [Call.returns_bind_iff, Call.returns_pure_iff] at built
      obtain ⟨_, _, warned, _, _, counted, _, _, reported, rfl, rfl⟩ := built
      rw [Call.wire_eq_of_returns_emit reported, Call.wire_eq_of_returns_record counted,
        Call.wire_eq_of_returns_emit warned]
      exact ⟨rfl, rfl⟩
    · simp only [Call.returns_bind_iff, Call.returns_pure_iff] at built
      obtain ⟨_, _, counted, _, _, reported, rfl, rfl⟩ := built
      rw [Call.wire_eq_of_returns_emit reported, Call.wire_eq_of_returns_record counted]
      exact ⟨rfl, rfl⟩
  obtain ⟨rfl, sameWire⟩ := left
  exact ⟨message, fee, account, builder.parts request message fee account,
    { messageParsed, feeParsed
      told := sameWire ▸ Account.told_of_returns_resolve resolved
      partsEq := rfl
      bytesEq := rfl
      docEq := rfl
      numberEq := rfl
      sequenceEq := rfl }⟩

/-- What a build leaves. The transaction has no signature; its body is the message of the payload
and the memo of the request; its auth info is one signer in direct mode, with the sequence number of
the account that the node told during the build and the key of the request or else of that account,
and the fee. The sign doc is over the same body and auth info, for the builder's chain and the
number of that account. -/
theorem contents_of_returns_build
    (builder : Builder)
    (context : CallContext)
    (request : BuildRequest)
    (unsigned : UnsignedTx)
    (before after : CallState)
    (built : (builder.build context request).Returns before unsigned after)
    (txAddressable : unsigned.txBytes.Addressable)
    (docAddressable : unsigned.signDoc.Addressable) :
    ∃ message fee account,
      Message.parse request.txType request.sender request.payload builder.codec = .ok message
        ∧ cosmosFee request.gasLimit request.gasPrice = .ok fee
        ∧ Account.Told builder.rest request.sender before.wire account after.wire
        ∧ unsigned.sequence = account.sequence
        ∧ unsigned.accountNumber = account.accountNumber
        ∧ ∃ bodyBytes authInfoBytes signer,
          decodeTxRaw unsigned.txBytes = .ok ⟨bodyBytes, authInfoBytes, []⟩
            ∧ decodeBody bodyBytes
              = .ok { messages := [message.pack (builder.app.has .govV1)]
                      memo := request.memo
                      timeoutHeight := 0
                      extensionOptions := []
                      nonCriticalExtensionOptions := [] }
            ∧ decodeAuthInfo authInfoBytes
              = .ok { signers := [signer]
                      fee := some
                        { amount := fee.map .ofCoin
                          gasLimit :=
                            if request.gasLimit = 0 then builder.defaultGasLimit
                            else request.gasLimit
                          payer := ""
                          granter := "" }
                      tip := none }
            ∧ signer.mode = some .direct
            ∧ signer.sequence = account.sequence
            ∧ signer.publicKeyBytes = .ok (request.publicKey.or account.publicKey)
            ∧ decodeSignDoc unsigned.signDoc
              = .ok ⟨bodyBytes, authInfoBytes, builder.chainId, account.accountNumber⟩ := by
  obtain ⟨message, fee, account, parts, assembled⟩ := assembled_of_returns_build built
  have txSized := txAddressable.sized
  have docSized := docAddressable.sized
  have partsEq := assembled.partsEq
  rw [assembled.bytesEq] at txSized ⊢
  rw [assembled.docEq] at docSized ⊢
  have messages : parts.messages = [message.pack (builder.app.has .govV1)] := by
    rw [partsEq, Builder.parts]
  have memo : parts.memo = request.memo := by
    rw [partsEq, Builder.parts]
  have feeCoins : parts.fee = fee := by
    rw [partsEq, Builder.parts]
  have gasLimit : parts.gasLimit
      = if request.gasLimit = 0 then builder.defaultGasLimit else request.gasLimit := by
    rw [partsEq, Builder.parts]
  have publicKey : parts.publicKey = request.publicKey.or account.publicKey := by
    rw [partsEq, Builder.parts]
  have sequence : parts.sequence = account.sequence := by
    rw [partsEq, Builder.parts]
  refine ⟨message, fee, account, assembled.messageParsed, assembled.feeParsed, assembled.told,
    assembled.sequenceEq.trans sequence, assembled.numberEq, parts.body.encode,
    parts.authInfo.encode, parts.signer,
    TxParts.decodeTxRaw_txRawBytes txSized, ?_, ?_, ?_, ?_, ?_,
    TxParts.decodeSignDoc_signDocBytes docSized⟩
  · rw [TxParts.decodeBody_encode txSized, messages, memo]
  · rw [TxParts.decodeAuthInfo_encode txSized, TxParts.authInfo, feeCoins, gasLimit]
  · rw [TxParts.signer]
  · rw [TxParts.signer, sequence]
  · rw [TxParts.publicKeyBytes_signer txSized, publicKey]

/-- A builder for a chain whose node has the name `n`. -/
def sampleBuilder : Builder where
  chainId := "c-1"
  codec := ⟨"c", "cv"⟩
  app := ⟨.cosmos, "0.47.0", [.govV1]⟩
  defaultGasLimit := 200000
  rest := ⟨⟨['h', 't', 't', 'p'], some ⟨[], [], .name ['n'], none⟩, ['/'], none, none⟩, ⟨10 ^ 9⟩⟩
  rpc := ⟨⟨['h', 't', 't', 'p'], some ⟨[], [], .name ['n'], none⟩, ['/'], none, none⟩, ⟨10 ^ 9⟩⟩

/-- A request for a vote. -/
def sampleRequest : BuildRequest where
  txType := .govVote
  sender := "c1qytrhlvr"
  chainId := ""
  payload := .object [("proposalId", .integer 1), ("option", .string "yes")]
  gasLimit := 0
  gasPrice := none
  memo := ""
  publicKey := none

/-- A node that knows the sender's account, which has no public key yet. -/
def sampleNode : Node where
  host := .name ['n']
  port := none
  replies :=
    [("GET /cosmos/auth/v1beta1/accounts/c1qytrhlvr",
      [⟨0, .answer 200 "\x7b\"account\":\x7b\"account_number\":\"7\",\"sequence\":\"3\"\x7d\x7d"⟩])]

/-- What the sample comes to. -/
def sampleUnsigned : UnsignedTx where
  txBytes :=
    [10, 44, 10, 42, 10, 22, 47, 99, 111, 115, 109, 111, 115, 46, 103, 111, 118, 46, 118, 49, 46, 77,
      115, 103, 86, 111, 116, 101, 18, 16, 8, 1, 18, 10, 99, 49, 113, 121, 116, 114, 104, 108, 118,
      114, 24, 1, 18, 16, 10, 8, 18, 4, 10, 2, 8, 1, 24, 3, 18, 4, 16, 192, 154, 12]
  signDoc :=
    [10, 44, 10, 42, 10, 22, 47, 99, 111, 115, 109, 111, 115, 46, 103, 111, 118, 46, 118, 49, 46, 77,
      115, 103, 86, 111, 116, 101, 18, 16, 8, 1, 18, 10, 99, 49, 113, 121, 116, 114, 104, 108, 118,
      114, 24, 1, 18, 16, 10, 8, 18, 4, 10, 2, 8, 1, 24, 3, 18, 4, 16, 192, 154, 12, 26, 3, 99, 45,
      49, 32, 7]
  accountNumber := 7
  sequence := 3

theorem returns_build_sample :
    ∃ after,
      (sampleBuilder.build .background sampleRequest).Returns (.initial (some sampleNode))
        sampleUnsigned after := by
  have found :
      ((sampleBuilder.build .background sampleRequest).run.run
        (.initial (some sampleNode))).1.toOption = some sampleUnsigned := by
    decide +kernel
  exact Call.returns_of_toOption found

/-- The sample names no key and holds one signer with the sequence number of the account. -/
theorem contents_of_sample :
    ∃ bodyBytes authInfoBytes signer fee,
      decodeTxRaw sampleUnsigned.txBytes = .ok ⟨bodyBytes, authInfoBytes, []⟩
        ∧ decodeAuthInfo authInfoBytes = .ok ⟨[signer], some fee, none⟩
        ∧ signer.sequence = 3
        ∧ fee.gasLimit = 200000
        ∧ decodeSignDoc sampleUnsigned.signDoc = .ok ⟨bodyBytes, authInfoBytes, "c-1", 7⟩ := by
  obtain ⟨after, built⟩ := returns_build_sample
  obtain ⟨_, _, account, _, _, _, sequence, accountNumber, bodyBytes, authInfoBytes, signer, rawRead,
    _, infoRead, _, signerSequence, _, docRead⟩ :=
    contents_of_returns_build sampleBuilder .background sampleRequest sampleUnsigned _ after built
      (by rw [Bytes.Addressable]; decide) (by rw [Bytes.Addressable]; decide)
  refine ⟨bodyBytes, authInfoBytes, signer, _, rawRead, infoRead, ?_, rfl, ?_⟩
  · rw [signerSequence, ← sequence]
    rfl
  · rw [docRead, ← accountNumber]
    rfl

end Builder

/-! ## Signing what was built -/

namespace Builder

/-- Which keys sign what a build leaves, and what comes out. A key in range signs it if the
transaction names no key or names its public key, and not otherwise. The signature is put behind
the unsigned bytes, and the signed transaction has the same body and auth info. -/
theorem signs_iff_of_returns_build
    (builder : Builder)
    (context : CallContext)
    (request : BuildRequest)
    (unsigned : UnsignedTx)
    (before after : CallState)
    (built : (builder.build context request).Returns before unsigned after)
    (txAddressable : unsigned.txBytes.Addressable)
    (docAddressable : unsigned.signDoc.Addressable) :
    ∃ account bodyBytes authInfoBytes info signer,
      Account.Told builder.rest request.sender before.wire account after.wire
        ∧ decodeTxRaw unsigned.txBytes = .ok ⟨bodyBytes, authInfoBytes, []⟩
        ∧ decodeAuthInfo authInfoBytes = .ok info
        ∧ theSigner info = .ok signer
        ∧ signer.publicKeyBytes = .ok (request.publicKey.or account.publicKey)
        ∧ ∀ (key : SigningKey) (privateKey : Ecdsa.PrivateKey),
          key.bytes.length = 32 →
          Ecdsa.PrivateKey.ofBytes? key.bytes = some privateKey →
          ((∃ signed, signTx unsigned key = .ok signed)
            ↔ request.publicKey.or account.publicKey = none
              ∨ request.publicKey.or account.publicKey = some (compressedPublicKey privateKey))
          ∧ ∀ signed, signTx unsigned key = .ok signed →
            signed.signature = signBytes privateKey unsigned.signDoc
              ∧ signed.signature.length = 64
              ∧ signed.txBytes = unsigned.txBytes ++ [0x1a, 0x40] ++ signed.signature
              ∧ unsigned.txBytes.length < signed.txBytes.length
              ∧ decodeTxRaw signed.txBytes
                = .ok ⟨bodyBytes, authInfoBytes, [signed.signature]⟩ := by
  obtain ⟨message, fee, account, parts, assembled⟩ := assembled_of_returns_build built
  have bytesEq := assembled.bytesEq
  have docEq := assembled.docEq
  have txSized := txAddressable.sized
  have docSized := docAddressable.sized
  have partsSized : parts.encode.txRawBytes.Sized := by
    rw [← bytesEq]
    exact txSized
  have named : parts.publicKey = request.publicKey.or account.publicKey := by
    rw [assembled.partsEq, Builder.parts]
  rw [← assembled.numberEq] at docEq
  refine ⟨account, parts.body.encode, parts.authInfo.encode, parts.authInfo, parts.signer,
    assembled.told, ?_, TxParts.decodeAuthInfo_encode partsSized, rfl, ?_, ?_⟩
  · rw [bytesEq, TxParts.decodeTxRaw_txRawBytes partsSized]
  · rw [TxParts.publicKeyBytes_signer partsSized, named]
  · intro key privateKey wide inRange
    have loaded : SigningKey.load .cosmos key.bytes = .ok privateKey :=
      SigningKey.load_eq_ok_iff.mpr ⟨wide, inRange⟩
    have signs (signed : SignedTx) : signTx unsigned key = .ok signed ↔ _ :=
      TxParts.signTx_eq_ok_iff bytesEq docEq assembled.sequenceEq txSized docSized loaded
    rw [named] at signs
    constructor
    · constructor
      · rintro ⟨signed, signedBy⟩
        exact ((signs signed).mp signedBy).1
      · intro declared
        exact ⟨_, (signs _).mpr ⟨declared, rfl⟩⟩
    · intro signed signedBy
      obtain ⟨-, rfl⟩ := (signs signed).mp signedBy
      have signatureWide := length_signBytes privateKey unsigned.signDoc
      refine ⟨rfl, signatureWide, rfl, ?_, ?_⟩
      · simp only [List.length_append, List.length_cons, List.length_nil]
        omega
      · rw [bytesEq] at txAddressable ⊢
        exact TxParts.decodeTxRaw_signed signatureWide txAddressable

/-- The key whose number is one. -/
def sampleKey : SigningKey :=
  ⟨"c1qytrhlvr", List.replicate 31 0 ++ [1]⟩

/-- The sample names no key, so that this one signs it. -/
theorem signs_of_sample :
    ∃ signed,
      signTx sampleUnsigned sampleKey = .ok signed
        ∧ signed.txBytes = sampleUnsigned.txBytes ++ [0x1a, 0x40] ++ signed.signature := by
  obtain ⟨after, built⟩ := returns_build_sample
  obtain ⟨account, bodyBytes, authInfoBytes, info, signer, -, rawRead, infoRead, signerFound, named,
    signs⟩ :=
    signs_iff_of_returns_build sampleBuilder .background sampleRequest sampleUnsigned _ after built
      (by rw [Bytes.Addressable]; decide) (by rw [Bytes.Addressable]; decide)
  have noKey :
      ((decodeTxRaw sampleUnsigned.txBytes).bind fun raw =>
        (decodeAuthInfo raw.authInfoBytes).bind fun info =>
          (theSigner info).bind SignerInfo.publicKeyBytes).toOption = some none := by
    decide +kernel
  simp only [rawRead, Except.bind, infoRead, signerFound, named, Except.toOption] at noKey
  obtain ⟨privateKey, inRange⟩ : ∃ key, Ecdsa.PrivateKey.ofBytes? sampleKey.bytes = some key :=
    Option.isSome_iff_exists.mp (by decide)
  obtain ⟨signsIff, signedForm⟩ := signs sampleKey privateKey (by decide) inRange
  obtain ⟨signed, signedBy⟩ := signsIff.mpr (.inl (Option.some.inj noKey))
  exact ⟨signed, signedBy, (signedForm signed signedBy).2.2.1⟩

end Builder

end ChainTx.Cosmos
