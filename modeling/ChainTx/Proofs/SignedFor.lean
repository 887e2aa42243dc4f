import ChainTx.Builder
import ChainTx.Proofs.Cosmos.Building
import ChainTx.Proofs.Evm.Building

/-!
Contract: which sequence number and which chain a signature is for.

Owns:
- the sequence number in transaction bytes, and what signing does with the one that is declared
  beside them;
- the chain that an unsigned transaction names, and what signing does with the chain of the builder.

Both are read from what is signed, never from what is declared. The Cosmos family compares the
sequence number that is declared with the one in the bytes; the EVM family compares nothing but the
hash of the bytes, so any number may be declared. No family compares the chain: a builder signs
whatever the other builders of its family sign. Only what a builder has built itself is bound to be
for its own chain.
-/

set_option autoImplicit false

namespace ChainTx

/-- Signing by the rules of a family. -/
def Framework.signTx : Framework → UnsignedTx → SigningKey → Except TxError SignedTx
  | .cosmos => Cosmos.signTx
  | .evm => Evm.signTx

/-! ## Sequence numbers -/

namespace Cosmos

/-- The sequence number of the only signer of a transaction. -/
def sequenceIn (txBytes : Bytes) : Except TxError UInt64 := do
  let raw ← decodeTxRaw txBytes
  let info ← decodeAuthInfo raw.authInfoBytes
  let signer ← theSigner info
  .ok signer.sequence

private theorem sequenceIn_eq_ok_iff
    {txBytes : Bytes}
    {sequence : UInt64} :
    sequenceIn txBytes = .ok sequence
      ↔ ∃ raw, decodeTxRaw txBytes = .ok raw
        ∧ ∃ info, decodeAuthInfo raw.authInfoBytes = .ok info
        ∧ ∃ signer, theSigner info = .ok signer ∧ signer.sequence = sequence := by
  simp only [sequenceIn, bind_eq_ok_iff, Except.ok.injEq]

/-- Signing compares the declared sequence number with the one in the bytes, and the signature
leaves the auth info as it is. -/
theorem sequenceIn_of_signTx
    {unsigned : UnsignedTx}
    {key : SigningKey}
    {signed : SignedTx}
    (addressable : unsigned.txBytes.Addressable)
    (signs : signTx unsigned key = .ok signed) :
    sequenceIn unsigned.txBytes = .ok unsigned.sequence
      ∧ sequenceIn signed.txBytes = .ok unsigned.sequence := by
  obtain ⟨privateKey, raw, doc, info, signer, passed⟩ := signTx_eq_ok_iff.mp signs
  constructor
  · exact sequenceIn_eq_ok_iff.mpr ⟨raw, passed.rawRead, info, passed.infoRead, signer,
      passed.signerFound, passed.sameSequence⟩
  · exact sequenceIn_eq_ok_iff.mpr ⟨_, passed.decodeTxRaw_signed addressable, info, passed.infoRead,
      signer, passed.signerFound, passed.sameSequence⟩

end Cosmos

namespace Evm

/-- Signing keeps the nonce that the bytes carry. -/
theorem nonce_of_signTx
    {unsigned : UnsignedTx}
    {key : SigningKey}
    {signed : SignedTx}
    (addressable : unsigned.txBytes.Addressable)
    (signs : signTx unsigned key = .ok signed) :
    ∃ tx signature,
      decodeUnsigned unsigned.txBytes = .ok tx
        ∧ decodeSigned signed.txBytes = .ok ⟨tx, signature⟩ := by
  obtain ⟨tx, privateKey, passed⟩ := signTx_eq_ok_iff.mp signs
  obtain rfl := passed.attached
  rw [← (encodeUnsigned_of_decodeUnsigned passed.txRead).2] at addressable
  exact ⟨tx, _, passed.txRead, decodeSigned_encode _ addressable⟩

/-- Signing does not look at the declared sequence number. -/
theorem signTx_declaring
    (unsigned : UnsignedTx)
    (sequence : UInt64)
    (key : SigningKey) :
    signTx { unsigned with sequence := sequence } key = signTx unsigned key :=
  rfl

/-- What a build leaves is read as a transaction on the builder's chain, with the nonce that is
declared. -/
theorem Builder.decoded_of_returns_build
    {builder : Builder}
    {context : CallContext}
    {request : BuildRequest}
    {unsigned : UnsignedTx}
    {before after : CallState}
    (built : (builder.build context request).Returns before unsigned after)
    (addressable : unsigned.txBytes.Addressable) :
    ∃ tx,
      decodeUnsigned unsigned.txBytes = .ok tx
        ∧ tx.nonce = unsigned.sequence
        ∧ tx.chainId = some builder.chainId := by
  obtain ⟨_, transfer, price, nonce, _, assembled⟩ := assembled_of_returns_build built
  obtain rfl := assembled.made
  refine ⟨transfer.toTx nonce price (gasLimitOf request transfer) builder.chainId, ?_, rfl, rfl⟩
  exact decodeUnsigned_encodeUnsigned rfl addressable

end Evm

namespace Framework

/-- The sequence number that unsigned bytes carry: that of the only signer, or the nonce. -/
def unsignedSequence : Framework → Bytes → Except TxError UInt64
  | .cosmos, bytes => Cosmos.sequenceIn bytes
  | .evm, bytes => (Evm.decodeUnsigned bytes).map fun tx => tx.nonce

/-- The sequence number that signed bytes carry. -/
def signedSequence : Framework → Bytes → Except TxError UInt64
  | .cosmos, bytes => Cosmos.sequenceIn bytes
  | .evm, bytes => (Evm.decodeSigned bytes).map fun signed => signed.tx.nonce

/-- If a transaction gets signed, the sequence number that it declares is the one that its bytes
carry, and so do the signed bytes. -/
def SequencesAgree (framework : Framework) (unsigned : UnsignedTx) (key : SigningKey) : Prop :=
  ∀ signed, framework.signTx unsigned key = .ok signed →
    framework.unsignedSequence unsigned.txBytes = .ok unsigned.sequence
      ∧ framework.signedSequence signed.txBytes = .ok unsigned.sequence

variable {framework : Framework} {unsigned : UnsignedTx} {key : SigningKey} {signed : SignedTx}

/-- Signing keeps the sequence number that the bytes carry, in either family. -/
theorem kept_sequence
    (addressable : unsigned.txBytes.Addressable)
    (signs : framework.signTx unsigned key = .ok signed) :
    ∃ sequence,
      framework.unsignedSequence unsigned.txBytes = .ok sequence
        ∧ framework.signedSequence signed.txBytes = .ok sequence := by
  cases framework with
  | cosmos => exact ⟨unsigned.sequence, Cosmos.sequenceIn_of_signTx addressable signs⟩
  | evm =>
      obtain ⟨tx, signature, read, signedRead⟩ := Evm.nonce_of_signTx addressable signs
      refine ⟨tx.nonce, ?_, ?_⟩
      · rw [unsignedSequence, read, Except.map]
      · rw [signedSequence, signedRead, Except.map]

private theorem sequencesAgree_of_unsignedSequence
    (addressable : unsigned.txBytes.Addressable)
    (carried : framework.unsignedSequence unsigned.txBytes = .ok unsigned.sequence) :
    framework.SequencesAgree unsigned key := by
  intro signed signs
  obtain ⟨sequence, unsignedCarries, signedCarries⟩ := kept_sequence addressable signs
  rw [carried, Except.ok.injEq] at unsignedCarries
  rw [← unsignedCarries] at signedCarries
  exact ⟨carried, signedCarries⟩

/-- The declared sequence number and the encoded one. In either family signing keeps the number that
the bytes carry. That it is the declared one is checked by the Cosmos family alone: the EVM family
signs the same for every number declared, so there the numbers agree exactly if nothing is signed or
the declared number is the nonce. What a builder leaves declares the number that it carries. -/
theorem sequencesAgree_iff
    (framework : Framework)
    (unsigned : UnsignedTx)
    (key : SigningKey)
    (addressable : unsigned.txBytes.Addressable) :
    (∀ signed, framework.signTx unsigned key = .ok signed →
        ∃ sequence,
          framework.unsignedSequence unsigned.txBytes = .ok sequence
            ∧ framework.signedSequence signed.txBytes = .ok sequence)
      ∧ (framework.SequencesAgree unsigned key
        ↔ framework = .cosmos
          ∨ (∀ signed, framework.signTx unsigned key ≠ .ok signed)
          ∨ framework.unsignedSequence unsigned.txBytes = .ok unsigned.sequence)
      ∧ (framework = .evm →
        ∀ sequence, framework.signTx { unsigned with sequence := sequence } key
          = framework.signTx unsigned key)
      ∧ ∀ (builder : Builder) (context : CallContext) (request : BuildRequest)
          (before after : CallState),
        builder.framework = framework →
        (builder.build context request).Returns before unsigned after →
        framework.SequencesAgree unsigned key := by
  have cosmosAgrees : framework = .cosmos → framework.SequencesAgree unsigned key := by
    rintro rfl signed signs
    exact Cosmos.sequenceIn_of_signTx addressable signs
  refine ⟨fun signed signs => kept_sequence addressable signs, ⟨?_, ?_⟩, ?_, ?_⟩
  · intro agree
    by_cases signs : ∃ signed, framework.signTx unsigned key = .ok signed
    · obtain ⟨signed, signs⟩ := signs
      exact .inr (.inr (agree signed signs).1)
    · exact .inr (.inl fun signed signedBy => signs ⟨signed, signedBy⟩)
  · rintro (isCosmos | refused | carried)
    · exact cosmosAgrees isCosmos
    · intro signed signs
      exact absurd signs (refused signed)
    · exact sequencesAgree_of_unsignedSequence addressable carried
  · rintro rfl sequence
    exact Evm.signTx_declaring unsigned sequence key
  · intro builder context request before after family built
    cases builder with
    | cosmos builder => exact cosmosAgrees family.symm
    | evm builder =>
        obtain ⟨tx, read, sameNonce, -⟩ := Evm.Builder.decoded_of_returns_build built addressable
        apply sequencesAgree_of_unsignedSequence addressable
        rw [← family, Builder.framework, unsignedSequence, read, Except.map, sameNonce]

/-- The largest numbers declare the nonce zero that they have, and loose bytes of the other family
are refused unless they do the like. -/
theorem samples_agree :
    evm.SequencesAgree Evm.largestNumbersUnsigned .one
      ∧ (∃ signed, evm.signTx Evm.largestNumbersUnsigned .one = .ok signed)
      ∧ cosmos.SequencesAgree Cosmos.looseUnsigned .one
      ∧ ∃ signed, cosmos.signTx Cosmos.looseUnsigned .one = .ok signed := by
  obtain ⟨-, agreeEvm, -⟩ := sequencesAgree_iff .evm Evm.largestNumbersUnsigned .one
    (by rw [Bytes.Addressable]; decide)
  obtain ⟨-, agreeCosmos, -⟩ := sequencesAgree_iff .cosmos Cosmos.looseUnsigned .one
    (by rw [Bytes.Addressable]; decide)
  have carried : evm.unsignedSequence Evm.largestNumbersUnsigned.txBytes = .ok 0 := by
    rw [unsignedSequence, Evm.decodeUnsigned_largestNumbers]
    rfl
  exact ⟨agreeEvm.mpr (.inr (.inr carried)), Evm.signTx_largestNumbers,
    agreeCosmos.mpr (.inl rfl), Cosmos.signTx_looseUnsigned⟩

/-- The largest numbers, with a sequence number declared that is not their nonce. -/
def misdeclaredUnsigned : UnsignedTx :=
  { Evm.largestNumbersUnsigned with sequence := 1 }

/-- They are signed all the same, and the signed bytes carry the nonce zero. -/
theorem disagree_of_misdeclaredUnsigned :
    ¬ evm.SequencesAgree misdeclaredUnsigned .one
      ∧ ∃ signed,
        evm.signTx misdeclaredUnsigned .one = .ok signed
          ∧ misdeclaredUnsigned.sequence = 1
          ∧ evm.unsignedSequence misdeclaredUnsigned.txBytes = .ok 0
          ∧ evm.signedSequence signed.txBytes = .ok 0 := by
  have carried : evm.unsignedSequence misdeclaredUnsigned.txBytes = .ok 0 := by
    change evm.unsignedSequence Evm.largestNumbersUnsigned.txBytes = .ok 0
    rw [unsignedSequence, Evm.decodeUnsigned_largestNumbers]
    rfl
  obtain ⟨signed, signs⟩ := Evm.signTx_largestNumbers
  have signsToo : evm.signTx misdeclaredUnsigned .one = .ok signed := signs
  have addressable : misdeclaredUnsigned.txBytes.Addressable := by
    rw [Bytes.Addressable]
    decide
  obtain ⟨sequence, unsignedCarries, signedCarries⟩ := kept_sequence addressable signsToo
  rw [carried, Except.ok.injEq] at unsignedCarries
  rw [← unsignedCarries] at signedCarries
  refine ⟨?_, signed, signsToo, rfl, carried, signedCarries⟩
  intro agree
  have declared := (agree signed signsToo).1
  rw [carried, Except.ok.injEq] at declared
  exact absurd declared (by decide)

end Framework

/-! ## Chains -/

/-- A chain, as its family names it. -/
inductive Chain where
  | cosmos (chainId : String)
  | evm (chainId : UInt64)
deriving DecidableEq, Repr

/-- The chain that is named inside what is signed: by the sign doc in the Cosmos family, by the
transaction in the EVM family. -/
def Framework.namedChain? : Framework → UnsignedTx → Option Chain
  | .cosmos, unsigned =>
      (Cosmos.decodeSignDoc unsigned.signDoc).toOption.map fun doc => .cosmos doc.chainId
  | .evm, unsigned =>
      (Evm.decodeUnsigned unsigned.txBytes).toOption.bind fun tx => tx.chainId.map .evm

private theorem Framework.exists_namedChain
    {framework : Framework}
    {unsigned : UnsignedTx}
    {key : SigningKey}
    {signed : SignedTx}
    (signs : framework.signTx unsigned key = .ok signed) :
    ∃ chain, framework.namedChain? unsigned = some chain := by
  cases framework with
  | cosmos =>
      obtain ⟨_, _, doc, _, _, passed⟩ := Cosmos.signTx_eq_ok_iff.mp signs
      exact ⟨.cosmos doc.chainId, by rw [namedChain?, passed.docRead]; rfl⟩
  | evm =>
      obtain ⟨tx, _, passed⟩ := Evm.signTx_eq_ok_iff.mp signs
      obtain ⟨chainId, onChain⟩ := (Evm.encodeUnsigned_of_decodeUnsigned passed.txRead).1
      refine ⟨.evm chainId, ?_⟩
      simp only [namedChain?, passed.txRead, Except.toOption, Option.bind_some, onChain, Option.map_some]

namespace Builder

/-- The chain that a builder is bound to. -/
def chain : Builder → Chain
  | .cosmos builder => .cosmos builder.chainId
  | .evm builder => .evm builder.chainId

/-- A builder signs exactly what its family signs. -/
theorem exists_returns_sign_iff
    (builder : Builder)
    (before : CallState)
    {unsigned : UnsignedTx}
    {key : SigningKey}
    {signed : SignedTx} :
    (∃ after, (builder.sign unsigned key).Returns before signed after)
      ↔ builder.framework.signTx unsigned key = .ok signed := by
  cases builder with
  | cosmos builder =>
      simp only [sign, Cosmos.Builder.sign, Call.returns_bind_iff, Call.returns_ofExcept_iff,
        Call.returns_emit_iff, Call.returns_pure_iff]
      constructor
      · rintro ⟨_, _, _, ⟨signs, rfl⟩, _, _, _, rfl, _⟩
        exact signs
      · intro signs
        exact ⟨_, signed, before, ⟨signs, rfl⟩, (), _, rfl, rfl, rfl⟩
  | evm builder =>
      simp only [sign, Evm.Builder.sign, Call.returns_bind_iff, Call.returns_ofExcept_iff,
        Call.returns_emit_iff, Call.returns_pure_iff]
      constructor
      · rintro ⟨_, _, _, ⟨signs, rfl⟩, _, _, _, rfl, _⟩
        exact signs
      · intro signs
        exact ⟨_, signed, before, ⟨signs, rfl⟩, (), _, rfl, rfl, rfl⟩

/-- Builders of one family sign alike, whatever chains they are bound to. -/
theorem sign_eq_of_framework
    {one other : Builder}
    (family : other.framework = one.framework)
    (unsigned : UnsignedTx)
    (key : SigningKey) :
    other.sign unsigned key = one.sign unsigned key := by
  cases one with
  | cosmos one =>
      cases other with
      | cosmos other => rfl
      | evm other => cases family
  | evm one =>
      cases other with
      | cosmos other => cases family
      | evm other => rfl

/-- What a build leaves names the builder's own chain. -/
theorem namedChain_of_returns_build
    {builder : Builder}
    {context : CallContext}
    {request : BuildRequest}
    {unsigned : UnsignedTx}
    {before after : CallState}
    (built : (builder.build context request).Returns before unsigned after)
    (txAddressable : unsigned.txBytes.Addressable)
    (docAddressable : unsigned.signDoc.Addressable) :
    builder.framework.namedChain? unsigned = some builder.chain := by
  cases builder with
  | cosmos builder =>
      obtain ⟨_, _, account, parts, assembled⟩ := Cosmos.Builder.assembled_of_returns_build built
      have docSized := docAddressable.sized
      rw [assembled.docEq] at docSized
      rw [framework, Framework.namedChain?, assembled.docEq,
        Cosmos.TxParts.decodeSignDoc_signDocBytes docSized]
      rfl
  | evm builder =>
      obtain ⟨tx, read, -, onChain⟩ := Evm.Builder.decoded_of_returns_build built txAddressable
      simp only [framework, Framework.namedChain?, read, Except.toOption, Option.bind_some, onChain,
        Option.map_some, chain]

/-- Whatever a builder signs of a transaction names the builder's own chain. -/
def SignsOwnChain (builder : Builder) (unsigned : UnsignedTx) (key : SigningKey) : Prop :=
  ∀ before signed after, (builder.sign unsigned key).Returns before signed after →
    builder.framework.namedChain? unsigned = some builder.chain

/-- What is signed names one chain, and no builder compares it with its own. If one builder signs a
transaction, every builder of the family signs it, with the same outcome; the chain named in it is
their own for those builders only that are bound to it. The chain named in what a builder has built
is its own. -/
theorem signs_for_named_chain
    (builder : Builder)
    (unsigned : UnsignedTx)
    (key : SigningKey)
    (before after : CallState)
    (signed : SignedTx)
    (signs : (builder.sign unsigned key).Returns before signed after) :
    ∃ chain,
      builder.framework.namedChain? unsigned = some chain
        ∧ (∀ other : Builder,
          other.framework = builder.framework →
          (other.sign unsigned key).Returns before signed after
            ∧ (other.SignsOwnChain unsigned key ↔ other.chain = chain))
        ∧ ∀ (maker : Builder) (context : CallContext) (request : BuildRequest)
            (start stop : CallState),
          maker.framework = builder.framework →
          (maker.build context request).Returns start unsigned stop →
          unsigned.txBytes.Addressable →
          unsigned.signDoc.Addressable →
          chain = maker.chain := by
  have signedBy := (exists_returns_sign_iff builder before).mp ⟨after, signs⟩
  obtain ⟨chain, named⟩ := Framework.exists_namedChain signedBy
  refine ⟨chain, named, ?_, ?_⟩
  · intro other family
    have signsToo : (other.sign unsigned key).Returns before signed after := by
      rw [sign_eq_of_framework family]
      exact signs
    refine ⟨signsToo, ?_, ?_⟩
    · intro own
      have namedOwn := own before signed after signsToo
      rw [family, named, Option.some.injEq] at namedOwn
      exact namedOwn.symm
    · rintro rfl _ _ _ _
      rw [family]
      exact named
  · intro maker context request start stop family built txAddressable docAddressable
    have namedOwn := namedChain_of_returns_build built txAddressable docAddressable
    rw [family, named, Option.some.injEq] at namedOwn
    exact namedOwn

/-- Loose bytes that name the chain `c`, signed by a builder for the chain `c-1`. -/
theorem signs_looseUnsigned_for_named_chain :
    ∃ signed after,
      (sign (.cosmos Cosmos.Builder.sampleBuilder) Cosmos.looseUnsigned .one).Returns
          (.initial none) signed after
        ∧ SignsOwnChain (.cosmos { Cosmos.Builder.sampleBuilder with chainId := "c" })
          Cosmos.looseUnsigned .one
        ∧ ¬ SignsOwnChain (.cosmos Cosmos.Builder.sampleBuilder) Cosmos.looseUnsigned .one := by
  obtain ⟨signed, signedBy⟩ := Cosmos.signTx_looseUnsigned
  obtain ⟨after, signs⟩ :=
    (exists_returns_sign_iff (.cosmos Cosmos.Builder.sampleBuilder) (.initial none)).mpr signedBy
  obtain ⟨chain, named, others, -⟩ := signs_for_named_chain (.cosmos Cosmos.Builder.sampleBuilder)
    Cosmos.looseUnsigned .one (.initial none) after signed signs
  have namedC : Framework.cosmos.namedChain? Cosmos.looseUnsigned = some (.cosmos "c") := by
    decide +kernel
  have chainEq : chain = .cosmos "c" := by
    rw [framework, namedC, Option.some.injEq] at named
    exact named.symm
  rw [chainEq] at others
  have ownIff := fun builder : Cosmos.Builder => (others (.cosmos builder) rfl).2
  refine ⟨signed, after, signs, (ownIff _).mpr rfl, ?_⟩
  intro own
  exact absurd ((ownIff _).mp own) (by decide)

private theorem exists_signTx_sampleUnsigned :
    ∃ signed, Cosmos.signTx Cosmos.Builder.sampleUnsigned .one = .ok signed := by
  have signs : (Cosmos.signTx Cosmos.Builder.sampleUnsigned .one).toOption.isSome := by
    decide +kernel
  obtain ⟨signed, found⟩ := Option.isSome_iff_exists.mp signs
  exact ⟨signed, eq_ok_of_toOption found⟩

/-- A vote that is built for the chain `c-1` and signed by a builder for the chain `c-2`; and the
largest numbers, with the largest chain id, signed by a builder for the chain 1. -/
theorem signed_for_foreign_chains :
    (∃ built signed after,
        (build (.cosmos Cosmos.Builder.sampleBuilder) .background
            Cosmos.Builder.sampleRequest).Returns (.initial (some Cosmos.Builder.sampleNode))
            Cosmos.Builder.sampleUnsigned built
          ∧ (sign (.cosmos { Cosmos.Builder.sampleBuilder with chainId := "c-2" })
              Cosmos.Builder.sampleUnsigned .one).Returns built signed after
          ∧ Framework.cosmos.namedChain? Cosmos.Builder.sampleUnsigned = some (.cosmos "c-1")
          ∧ ¬ SignsOwnChain (.cosmos { Cosmos.Builder.sampleBuilder with chainId := "c-2" })
            Cosmos.Builder.sampleUnsigned .one)
      ∧ ∃ signed after,
        (sign (.evm (.offline 1)) Evm.largestNumbersUnsigned .one).Returns (.initial none) signed
            after
          ∧ Framework.evm.namedChain? Evm.largestNumbersUnsigned = some (.evm 0xffffffffffffffff)
          ∧ ¬ SignsOwnChain (.evm (.offline 1)) Evm.largestNumbersUnsigned .one := by
  constructor
  · obtain ⟨built, returned⟩ := Cosmos.Builder.returns_build_sample
    obtain ⟨signed, signedBy⟩ := exists_signTx_sampleUnsigned
    obtain ⟨after, signs⟩ :=
      (exists_returns_sign_iff (.cosmos { Cosmos.Builder.sampleBuilder with chainId := "c-2" })
        built).mpr signedBy
    have named : Framework.cosmos.namedChain? Cosmos.Builder.sampleUnsigned
        = some (.cosmos "c-1") := by
      decide +kernel
    refine ⟨built, signed, after, returned, signs, named, ?_⟩
    intro own
    have namedOwn := own built signed after signs
    rw [framework, named, Option.some.injEq] at namedOwn
    exact absurd namedOwn (by decide)
  · obtain ⟨signed, signedBy⟩ := Evm.signTx_largestNumbers
    obtain ⟨after, signs⟩ :=
      (exists_returns_sign_iff (.evm (.offline 1)) (.initial none)).mpr signedBy
    have named : Framework.evm.namedChain? Evm.largestNumbersUnsigned
        = some (.evm 0xffffffffffffffff) := by
      rw [Framework.namedChain?, Evm.decodeUnsigned_largestNumbers]
      rfl
    refine ⟨signed, after, signs, named, ?_⟩
    intro own
    have namedOwn := own (.initial none) signed after signs
    rw [framework, named, Option.some.injEq] at namedOwn
    exact absurd namedOwn (by decide)

end Builder

end ChainTx
