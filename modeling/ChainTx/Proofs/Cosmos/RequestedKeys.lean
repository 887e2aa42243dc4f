import ChainTx.Proofs.Cosmos.KeyType
import ChainTx.Proofs.Curve.Group

/-!
Contract: the public keys that a request may bring, and what becomes of them when the transaction is
signed.

Owns:
- which byte strings pass as a key;
- when the bytes of a key are those of a private key's own public key;
- when signing refuses a transaction because of the key that it names.

Does not own: the keys that accounts store, which nothing checks against the curve.

The check asks whether the bytes can be read as a point, and signing whether they are the one form in
which it writes points. The two differ in the compact form, which is read and never written.
-/

set_option autoImplicit false

namespace ChainTx.Cosmos

open Secp256k1

variable {unsigned : UnsignedTx} {key : SigningKey} {privateKey : Ecdsa.PrivateKey}
  {publicKey : Bytes} {point : Point}

/-! ## The check -/

private theorem checkPublicKey_eq_ok_iff
    {passed : Unit} :
    checkPublicKey publicKey = .ok passed
      ↔ publicKey.length = 33 ∧ ∃ point, Point.ofBytes? publicKey = some point := by
  unfold checkPublicKey
  by_cases wide : publicKey.length = 33
  · rw [if_neg (not_not_intro wide)]
    cases Point.ofBytes? publicKey <;> simp [wide]
  · simp [wide]

/-- What passes is the compressed or the compact form of a point. -/
theorem passes_iff :
    checkPublicKey publicKey = .ok () ↔ IsCompressedPoint publicKey ∨ IsCompactPoint publicKey := by
  rw [checkPublicKey_eq_ok_iff]
  constructor
  · rintro ⟨wide, read⟩
    exact (exists_ofBytes?_iff wide).mp read
  · intro isPoint
    have wide : publicKey.length = 33 := by
      rcases isPoint with (even | odd) | compact
      · exact even.length_eq
      · exact odd.length_eq
      · exact IsMarkedPoint.length_eq compact
    exact ⟨wide, (exists_ofBytes?_iff wide).mpr isPoint⟩

private theorem length_compressedPublicKey (privateKey : Ecdsa.PrivateKey) :
    (compressedPublicKey privateKey).length = 33 := by
  simp [compressedPublicKey, Point.compressed]

/-- The public key of a private key is read from the form in which signing writes it. -/
theorem ofBytes?_compressedPublicKey (privateKey : Ecdsa.PrivateKey) :
    Point.ofBytes? (compressedPublicKey privateKey) = some privateKey.publicKey :=
  Point.ofBytes?_compressed privateKey.onCurve_publicKey

private theorem checkPublicKey_compressedPublicKey (privateKey : Ecdsa.PrivateKey) :
    checkPublicKey (compressedPublicKey privateKey) = .ok () :=
  checkPublicKey_eq_ok_iff.mpr
    ⟨length_compressedPublicKey privateKey, _, ofBytes?_compressedPublicKey privateKey⟩

/-- Bytes that name a point are those of a private key's public key if it is that point, and they are
its compressed form. -/
theorem eq_compressedPublicKey_iff
    (wide : publicKey.length = 33)
    (read : Point.ofBytes? publicKey = some point) :
    publicKey = compressedPublicKey privateKey
      ↔ privateKey.publicKey = point ∧ IsCompressedPoint publicKey := by
  rw [← Point.compressed_eq_iff wide read]
  constructor
  · rintro rfl
    cases (ofBytes?_compressedPublicKey privateKey).symm.trans read
    exact ⟨rfl, rfl⟩
  · rintro ⟨rfl, written⟩
    exact written.symm

/-! ## Signing -/

/-- A transaction names a public key: that of its one signer. -/
def NamesKey (unsigned : UnsignedTx) (publicKey : Bytes) : Prop :=
  ∃ raw info signer,
    decodeTxRaw unsigned.txBytes = .ok raw
      ∧ decodeAuthInfo raw.authInfoBytes = .ok info
      ∧ theSigner info = .ok signer
      ∧ signer.publicKeyBytes = .ok (some publicKey)

private theorem NamesKey.unique
    {otherKey : Bytes}
    (names : NamesKey unsigned publicKey)
    (namesOther : NamesKey unsigned otherKey) :
    publicKey = otherKey := by
  obtain ⟨raw, info, signer, rawRead, infoRead, signerFound, named⟩ := names
  obtain ⟨otherRaw, otherInfo, otherSigner, otherRawRead, otherInfoRead, otherFound, otherNamed⟩ :=
    namesOther
  cases rawRead.symm.trans otherRawRead
  cases infoRead.symm.trans otherInfoRead
  cases signerFound.symm.trans otherFound
  cases named.symm.trans otherNamed
  rfl

/-- A transaction that names a key is signed by a private key only if the bytes are those of its public
key. -/
theorem eq_compressedPublicKey_of_signTx
    {signed : SignedTx}
    (names : NamesKey unsigned publicKey)
    (loaded : SigningKey.load .cosmos key.bytes = .ok privateKey)
    (signs : signTx unsigned key = .ok signed) :
    publicKey = compressedPublicKey privateKey := by
  obtain ⟨raw, info, signer, rawRead, infoRead, signerFound, named⟩ := names
  obtain ⟨_, _, _, _, _, passed⟩ := signTx_eq_ok_iff.mp signs
  cases loaded.symm.trans passed.loaded
  cases rawRead.symm.trans passed.rawRead
  cases infoRead.symm.trans passed.infoRead
  cases signerFound.symm.trans passed.signerFound
  simpa using (checkDeclaredKey_eq_ok_iff named).mp passed.declared

/-! ### Refused keys -/

variable {fault : SigningFault}

private theorem decoded_ne_signing
    {Record : Type}
    {what : String}
    {result : Option Record} :
    decoded what result ≠ .error (.signing fault) := by
  cases result <;> simp [decoded]

private theorem theSigner_ne_signing
    {info : AuthInfo} :
    theSigner info ≠ .error (.signing fault) := by
  unfold theSigner
  split <;> simp

private theorem publicKeyBytes_ne_signing
    {signer : SignerInfo} :
    signer.publicKeyBytes ≠ .error (.signing fault) := by
  unfold SignerInfo.publicKeyBytes
  split
  · simp
  · split
    · cases read : decodePublicKey? _ <;> simp [decoded, Except.map]
    · simp

/-- Where the comparison finds that a key is another's, the signer names a key with other bytes. -/
theorem named_of_checkDeclaredKey
    {signer : SignerInfo}
    {ownKey : Bytes}
    (refused : checkDeclaredKey signer ownKey = .error (.signing .foreignKey)) :
    ∃ declared, signer.publicKeyBytes = .ok (some declared) ∧ declared ≠ ownKey := by
  simp only [checkDeclaredKey, bind_eq_error_iff, publicKeyBytes_ne_signing, false_or] at refused
  obtain ⟨declared, named, differs⟩ := refused
  cases declared with
  | none => cases differs
  | some declared =>
      have notSame := (SigningKey.require_eq_error_iff.mp differs).1
      exact ⟨declared, named, by simpa using notSame⟩

/-- Only the comparison of keys finds that a key is another's. -/
theorem foreignKey_of_signTx
    (refused : signTx unsigned key = .error (.signing .foreignKey)) :
    ∃ privateKey publicKey,
      SigningKey.load .cosmos key.bytes = .ok privateKey
        ∧ NamesKey unsigned publicKey
        ∧ publicKey ≠ compressedPublicKey privateKey := by
  simp only [signTx, decodeTxRaw, decodeSignDoc, decodeAuthInfo, bind_eq_error_iff,
    SigningKey.require_eq_error_iff, SigningKey.load_ne_foreignKey, decoded_ne_signing,
    theSigner_ne_signing, TxError.signing.injEq, reduceCtorEq, and_false, false_or,
    exists_false, or_false] at refused
  obtain ⟨_, -, _, -, privateKey, loaded, raw, rawRead, _, -, _, -, _, -, _, -, info, infoRead,
    signer, signerFound, _, -, differs⟩ := refused
  obtain ⟨declared, named, isOther⟩ := named_of_checkDeclaredKey differs
  exact ⟨privateKey, declared, loaded, ⟨raw, info, signer, rawRead, infoRead, signerFound, named⟩,
    isOther⟩

namespace Builder

/-- A transaction that was built for a request with a key is signed by a private key if the bytes are
those of its public key, and not otherwise. -/
theorem signs_iff_of_requested
    {builder : Builder}
    {context : CallContext}
    {request : BuildRequest}
    {before after : CallState}
    (built : (builder.build context request).Returns before unsigned after)
    (requested : request.publicKey = some publicKey)
    (txAddressable : unsigned.txBytes.Addressable)
    (docAddressable : unsigned.signDoc.Addressable)
    (loaded : SigningKey.load .cosmos key.bytes = .ok privateKey) :
    (∃ signed, signTx unsigned key = .ok signed) ↔ publicKey = compressedPublicKey privateKey := by
  obtain ⟨message, fee, account, parts, assembled⟩ := assembled_of_returns_build built
  have docEq := assembled.docEq
  rw [← assembled.numberEq] at docEq
  have named : parts.publicKey = some publicKey := by
    rw [assembled.partsEq, Builder.parts, requested, Option.some_or]
  simp only [TxParts.signTx_eq_ok_iff assembled.bytesEq docEq assembled.sequenceEq
    txAddressable.sized docAddressable.sized loaded, named, reduceCtorEq, false_or,
    Option.some.injEq, exists_and_left, exists_eq', and_true]

end Builder

/-- Which keys pass, and what signing makes of them. The compressed and the compact forms of points pass,
and nothing else. Of a point that was read, the bytes written are those that were read exactly for the
compressed form; the compact form is written with another mark. No transaction is refused for a key in
compressed form by the private key of that point, and none is signed for any other key or form; what
was built for the key is signed by the private key of the point exactly if the form is compressed. -/
theorem passed_keys_signed_iff_compressed
    (publicKey : Bytes) :
    (checkPublicKey publicKey = .ok ()
        ↔ IsCompressedPoint publicKey ∨ IsCompactPoint publicKey)
      ∧ (IsCompactPoint publicKey → ¬ IsCompressedPoint publicKey)
      ∧ (checkPublicKey publicKey = .ok () →
        ∃ point,
          Point.ofBytes? publicKey = some point
            ∧ point.onCurve = true
            ∧ (point.compressed = publicKey ↔ IsCompressedPoint publicKey)
            ∧ (IsCompactPoint publicKey → point.compressed = 0x02 :: publicKey.tail)
            ∧ ∀ (unsigned : UnsignedTx) (key : SigningKey) (privateKey : Ecdsa.PrivateKey),
              SigningKey.load .cosmos key.bytes = .ok privateKey →
              (NamesKey unsigned publicKey →
                (privateKey.publicKey = point → IsCompressedPoint publicKey →
                  signTx unsigned key ≠ .error (.signing .foreignKey))
                ∧ ∀ signed, signTx unsigned key = .ok signed →
                  privateKey.publicKey = point ∧ IsCompressedPoint publicKey)
              ∧ ∀ (builder : Builder) context request before after,
                (builder.build context request).Returns before unsigned after →
                request.publicKey = some publicKey →
                unsigned.txBytes.Addressable →
                unsigned.signDoc.Addressable →
                ((∃ signed, signTx unsigned key = .ok signed)
                  ↔ privateKey.publicKey = point ∧ IsCompressedPoint publicKey)) := by
  refine ⟨passes_iff, IsCompactPoint.not_isCompressedPoint, fun passes => ?_⟩
  obtain ⟨wide, point, read⟩ := checkPublicKey_eq_ok_iff.mp passes
  refine ⟨point, read, Point.onCurve_of_ofBytes? wide read, Point.compressed_eq_iff wide read,
    fun isCompact => Point.compressed_of_isCompactPoint isCompact read, ?_⟩
  intro unsigned key privateKey loaded
  refine ⟨fun names => ⟨?_, ?_⟩, ?_⟩
  · intro isOwn isCompressed refused
    obtain ⟨otherKey, named, otherLoaded, namesOther, isOther⟩ := foreignKey_of_signTx refused
    cases loaded.symm.trans otherLoaded
    rw [← names.unique namesOther] at isOther
    exact isOther ((eq_compressedPublicKey_iff wide read).mpr ⟨isOwn, isCompressed⟩)
  · intro signed signs
    exact (eq_compressedPublicKey_iff wide read).mp
      (eq_compressedPublicKey_of_signTx names loaded signs)
  · intro builder context request before after built requested txAddressable docAddressable
    rw [← eq_compressedPublicKey_iff wide read]
    exact Builder.signs_iff_of_requested built requested txAddressable docAddressable loaded

/-! ### Both forms of one key -/

namespace Builder

/-- The private key whose number is one. -/
def keyOne : Ecdsa.PrivateKey :=
  ⟨1, by decide +kernel, by decide +kernel⟩

/-- Its public key in compact form. -/
def compactKey : Bytes :=
  0x05 :: Bytes.ofNatBE 32 generator.x

/-- A request that brings a key. -/
def requestNaming (publicKey : Bytes) : BuildRequest :=
  { sampleRequest with publicKey := some publicKey }

private theorem publicKey_keyOne : keyOne.publicKey = generator := by
  rw [Ecdsa.PrivateKey.publicKey, keyOne, Point.multiple?_one Point.onCurve_generator,
    Option.getD_some]

/-- What a request that brings a key comes to with the account of the other chain. The key that this
account stores gives way to the one of the request. -/
def assembledNaming (publicKey : Bytes) (parsed : Message × List Coin) : UnsignedTx :=
  sampleBuilder.assemble (requestNaming publicKey) parsed.1 parsed.2 foreignInfo

/-- What the two requests come to: the lengths for the compressed form, and how signing refuses the
compact form. -/
theorem assembled_compressed_and_compact :
    ((sampleBuilder.prepare (requestNaming generator.compressed)).toOption.map fun parsed =>
        let unsigned := assembledNaming generator.compressed parsed
        (unsigned.txBytes.length, unsigned.signDoc.length))
      = some (136, 143)
      ∧ ((sampleBuilder.prepare (requestNaming compactKey)).toOption.map fun parsed =>
          signTx (assembledNaming compactKey parsed) .one)
        = some (.error (.signing .foreignKey)) := by
  decide +kernel

private theorem returns_build_naming
    {parsed : Message × List Coin}
    (prepared : (sampleBuilder.prepare (requestNaming publicKey)).toOption = some parsed) :
    ∃ after,
      (sampleBuilder.build .background (requestNaming publicKey)).Returns
        (.initial (some foreignNode)) (assembledNaming publicKey parsed) after := by
  obtain ⟨_, resolved⟩ := returns_resolve_foreign
  exact returns_build_of_resolved (eq_ok_of_toOption prepared) resolved

/-- The private key of the generator signs what is built for the generator in compressed form. -/
theorem signed_of_compressed_generator :
    ∃ unsigned after signed,
      (sampleBuilder.build .background (requestNaming generator.compressed)).Returns
          (.initial (some foreignNode)) unsigned after
        ∧ signTx unsigned .one = .ok signed := by
  obtain ⟨parsed, prepared, lengths⟩ :=
    Option.map_eq_some_iff.mp assembled_compressed_and_compact.1
  obtain ⟨txLength, docLength⟩ := Prod.mk.inj lengths
  obtain ⟨after, built⟩ := returns_build_naming prepared
  have written : compressedPublicKey keyOne = generator.compressed := by
    rw [compressedPublicKey, publicKey_keyOne]
  have passes : checkPublicKey generator.compressed = .ok () :=
    written ▸ checkPublicKey_compressedPublicKey keyOne
  obtain ⟨-, -, reads⟩ := passed_keys_signed_iff_compressed generator.compressed
  obtain ⟨point, read, -, isCompressed, -, signing⟩ := reads passes
  have isGenerator : generator = point := by
    rw [Point.ofBytes?_compressed Point.onCurve_generator] at read
    exact Option.some.inj read
  obtain ⟨-, signs⟩ := signing _ .one keyOne (SigningKey.load_one .cosmos)
  obtain ⟨signed, signedBy⟩ :=
    (signs sampleBuilder .background _ _ after built rfl
      (by rw [Bytes.Addressable, txLength]; decide)
      (by rw [Bytes.Addressable, docLength]; decide)).mpr
      ⟨publicKey_keyOne.trans isGenerator, isCompressed.mp (by rw [← isGenerator])⟩
  exact ⟨_, after, signed, built, signedBy⟩

/-- The compact form of the generator passes, although it is not the compressed form of any point. It is
read as the generator and not written back, and what is built for it is not signed by the private key
of the generator. -/
theorem refused_of_compact_generator :
    checkPublicKey compactKey = .ok ()
      ∧ ¬ IsCompressedPoint compactKey
      ∧ Point.ofBytes? compactKey = some generator
      ∧ generator.compressed ≠ compactKey
      ∧ SigningKey.load .cosmos SigningKey.one.bytes = .ok keyOne
      ∧ keyOne.publicKey = generator
      ∧ ∃ unsigned after,
        (sampleBuilder.build .background (requestNaming compactKey)).Returns
            (.initial (some foreignNode)) unsigned after
          ∧ signTx unsigned .one = .error (.signing .foreignKey) := by
  have isFirst : IsFirstCoordinate generator.x :=
    exists_liftX?_iff.mp ⟨generator, liftX?_eq_some_iff.mpr ⟨Point.onCurve_generator, rfl, rfl⟩⟩
  have spelled : Bytes.toNatBE (Bytes.ofNatBE 32 generator.x) = generator.x :=
    Bytes.toNatBE_ofNatBE 32 _ (by decide)
  have isCompact : IsCompactPoint compactKey :=
    ⟨_, rfl, Bytes.length_ofNatBE 32 _, by rw [spelled]; exact isFirst⟩
  have notCompressed := isCompact.not_isCompressedPoint
  have read : Point.ofBytes? compactKey = some generator :=
    (Point.ofBytes?_cons_eq_some_iff (Bytes.length_ofNatBE 32 _)).mpr
      ⟨Point.onCurve_generator, spelled.symm, rfl⟩
  obtain ⟨parsed, prepared, refused⟩ :=
    Option.map_eq_some_iff.mp assembled_compressed_and_compact.2
  obtain ⟨after, built⟩ := returns_build_naming prepared
  exact ⟨passes_iff.mpr (.inr isCompact), notCompressed, read,
    mt (Point.compressed_eq_iff isCompact.length_eq read).mp notCompressed,
    SigningKey.load_one .cosmos, publicKey_keyOne, _, after, built, refused⟩

end Builder

end ChainTx.Cosmos
