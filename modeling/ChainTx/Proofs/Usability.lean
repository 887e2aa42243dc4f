import ChainTx.Proofs.Bech32.HumanReadable
import ChainTx.Proofs.Connecting

/-!
Contract: what settings without a problem are good for.

Owns:
- EVM networks, for which settings without a problem always make a builder, with the chain id that
  they name;
- Cosmos networks, for which they make one exactly if both prefixes are human-readable parts, which
  the checks of the settings do not ask;
- the customary validator prefix, which asks more of the account prefix.

Does not own: when the node is asked.
-/

set_option autoImplicit false

namespace ChainTx

namespace NetworkConfig

/-- Both prefixes are human-readable parts. -/
def HasUsablePrefixes (network : NetworkConfig) : Prop :=
  Bech32.IsHrp network.addressPrefix ∧ Bech32.IsHrp network.effectiveValidatorPrefix

/-- The chain id of an EVM network without a problem is a number as it stands. -/
theorem exists_uint64_of_problems
    {network : NetworkConfig}
    (accepted : network.problems = [])
    (isEvm : network.framework = .evm) :
    ∃ chainId, Decimal.uint64? network.chainId.toList = some chainId := by
  simp only [problems, List.append_eq_nil_iff] at accepted
  obtain ⟨⟨⟨-, chainIdAccepted⟩, -⟩, -⟩ := accepted
  refine Option.ne_none_iff_exists'.mp ?_
  intro unread
  unfold chainIdProblems at chainIdAccepted
  split at chainIdAccepted
  · cases chainIdAccepted
  · rw [if_pos ⟨isEvm, unread⟩] at chainIdAccepted
    cases chainIdAccepted

/-- With the customary prefix of validators, the prefix of accounts must leave room for it and have
no upper-case letter. -/
theorem hasUsablePrefixes_iff_of_customary
    {network : NetworkConfig}
    (customary : network.validatorPrefix = none) :
    network.HasUsablePrefixes
      ↔ Bech32.IsHrp network.addressPrefix
        ∧ network.addressPrefix.length ≤ 76
        ∧ Bech32.HasNoUpper network.addressPrefix.toList := by
  have derived : network.effectiveValidatorPrefix = network.addressPrefix ++ "valoper" := by
    rw [effectiveValidatorPrefix, customary]
    rfl
  rw [HasUsablePrefixes, derived]
  refine and_congr_right fun isHrp => ?_
  rw [Bech32.isHrp_append_iff isHrp (by decide) (by decide) ⟨'v', by decide, by decide⟩]
  refine and_congr_left fun _ => ?_
  have width : "valoper".length = 7 := by decide
  omega

end NetworkConfig

/-! ## The EVM family -/

namespace Evm.Builder

/-- A builder has the chain id that its network names, and a node. -/
theorem chainId_of_returns_connect
    {network : NetworkConfig}
    {context : CallContext}
    {before after : CallState}
    {builder : Evm.Builder}
    (connected : (connect network context).Returns before builder after) :
    parseChainId network.chainId = .ok builder.chainId ∧ builder.node.isSome := by
  simp only [connect, Call.returns_bind_iff, Call.returns_ofExcept_iff,
    Call.returns_pure_iff] at connected
  obtain ⟨chainId, _, ⟨parsed, -⟩, client, _, -, rpc, _, -, _, _, -, rfl, -⟩ := connected
  exact ⟨parsed, rfl⟩

end Evm.Builder

/-! ## The Cosmos family -/

namespace Cosmos

namespace AddressCodec

private theorem checkHrp_of_isHrp
    {text : String}
    (isHrp : Bech32.IsHrp text) :
    checkHrp text = .ok () := by
  rw [checkHrp, (Bech32.checkHrp_eq_ok_iff text).mpr isHrp]

private theorem checkHrp_of_not_isHrp
    {text : String}
    (noHrp : ¬ Bech32.IsHrp text) :
    ∃ fault, checkHrp text = .error (.configuration (.hrp text fault)) := by
  obtain ⟨fault, refused⟩ := (Bech32.exists_fault_iff text).mpr noHrp
  exact ⟨fault, by rw [checkHrp, refused]⟩

private theorem make_of_isHrp
    {accountHrp validatorHrp : String}
    (account : Bech32.IsHrp accountHrp)
    (validator : Bech32.IsHrp validatorHrp) :
    make accountHrp validatorHrp = .ok ⟨accountHrp, validatorHrp⟩ := by
  rw [make, checkHrp_of_isHrp account, checkHrp_of_isHrp validator]
  rfl

/-- The first prefix that is no human-readable part is named. -/
theorem make_of_not_isHrp
    {accountHrp validatorHrp : String}
    (unusable : ¬ (Bech32.IsHrp accountHrp ∧ Bech32.IsHrp validatorHrp)) :
    ∃ text fault,
      make accountHrp validatorHrp = .error (.configuration (.hrp text fault))
        ∧ (text = accountHrp ∨ text = validatorHrp)
        ∧ ¬ Bech32.IsHrp text := by
  by_cases account : Bech32.IsHrp accountHrp
  · have validator : ¬ Bech32.IsHrp validatorHrp := fun validator => unusable ⟨account, validator⟩
    obtain ⟨fault, refused⟩ := checkHrp_of_not_isHrp validator
    refine ⟨validatorHrp, fault, ?_, .inr rfl, validator⟩
    rw [make, checkHrp_of_isHrp account, refused]
    rfl
  · obtain ⟨fault, refused⟩ := checkHrp_of_not_isHrp account
    refine ⟨accountHrp, fault, ?_, .inl rfl, account⟩
    rw [make, refused]
    rfl

end AddressCodec

end Cosmos

/-! ## Networks of either family -/

namespace NetworkConfig

/-- What settings without a problem are good for. For the EVM family they always make a builder, with
the chain id that they name. For the Cosmos family they make one if both prefixes are human-readable
parts, and otherwise every version of the application meets an error of the configuration that names
a prefix; where the prefix of validators is the customary one, that of accounts decides alone. -/
theorem usable_iff_of_problems_eq_nil
    (network : NetworkConfig)
    (accepted : network.problems = []) :
    (network.framework = .evm →
        ∀ context before, ∃ builder after,
          (Evm.Builder.connect network context).Returns before builder after
            ∧ Decimal.uint64? network.chainId.toList = some builder.chainId
            ∧ builder.node.isSome)
      ∧ (network.framework = .cosmos →
        ∀ app : AppVersion, app.framework = .cosmos →
          (network.HasUsablePrefixes →
            ∃ builder,
              Cosmos.Builder.withVersion network app = .ok builder
                ∧ builder.chainId = network.chainId
                ∧ builder.app = app)
          ∧ (¬ network.HasUsablePrefixes →
            ∃ text fault,
              Cosmos.Builder.withVersion network app = .error (.configuration (.hrp text fault))
                ∧ (text = network.addressPrefix ∨ text = network.effectiveValidatorPrefix)
                ∧ ¬ Bech32.IsHrp text))
      ∧ (network.validatorPrefix = none →
        (network.HasUsablePrefixes
          ↔ Bech32.IsHrp network.addressPrefix
            ∧ network.addressPrefix.length ≤ 76
            ∧ Bech32.HasNoUpper network.addressPrefix.toList)) := by
  have sound := sound_of_problems accepted
  refine ⟨?_, ?_, hasUsablePrefixes_iff_of_customary⟩
  · intro isEvm context before
    obtain ⟨builder, after, connected⟩ := Evm.Builder.returns_connect sound isEvm context before
    obtain ⟨parsed, hasNode⟩ := Evm.Builder.chainId_of_returns_connect connected
    obtain ⟨chainId, read⟩ := exists_uint64_of_problems accepted isEvm
    have trimmed := Blank.trimChars_eq_self (Decimal.not_isBlank_of_uint64? read)
    rw [Evm.parseChainId, trimmed, read] at parsed
    cases parsed
    exact ⟨builder, after, connected, read, hasNode⟩
  · intro _ app isCosmos
    obtain ⟨rest, rpc, outcome⟩ := Cosmos.Builder.withVersion_eq sound isCosmos
    rw [outcome]
    constructor
    · rintro ⟨account, validator⟩
      rw [Cosmos.AddressCodec.make_of_isHrp account validator]
      exact ⟨_, rfl, rfl, rfl⟩
    · intro unusable
      obtain ⟨text, fault, refused, named, noHrp⟩ := Cosmos.AddressCodec.make_of_not_isHrp unusable
      exact ⟨text, fault, by rw [refused]; rfl, named, noHrp⟩

/-! ### Accepted settings -/

/-- An EVM network. -/
def plainEvm : NetworkConfig where
  framework := .evm
  rpcEndpoint := "http://n"
  chainId := "31337"

/-- A Cosmos network whose validators have the customary prefix. -/
def plainCosmos : NetworkConfig where
  rpcEndpoint := "http://n"
  chainId := "c-1"
  addressPrefix := "osmo"

/-- Upper-case letters, behind which the customary lower-case ones do not fit. -/
def capitalPrefix : NetworkConfig :=
  { plainCosmos with addressPrefix := "COSMOS" }

/-- Both plain networks have builders. -/
theorem usable_of_plainNetworks :
    plainEvm.problems = []
      ∧ plainCosmos.problems = []
      ∧ (∃ builder after,
        (Evm.Builder.connect plainEvm .background).Returns (.initial none) builder after
          ∧ builder.chainId = 31337)
      ∧ ∃ builder,
        Cosmos.Builder.withVersion plainCosmos ⟨.cosmos, "v0.50.0", []⟩ = .ok builder
          ∧ builder.chainId = "c-1" := by
  have evmAccepted : plainEvm.problems = [] := by
    decide +kernel
  have cosmosAccepted : plainCosmos.problems = [] := by
    decide +kernel
  refine ⟨evmAccepted, cosmosAccepted, ?_, ?_⟩
  · obtain ⟨builder, after, connected, named, -⟩ :=
      (usable_iff_of_problems_eq_nil plainEvm evmAccepted).1 rfl .background (.initial none)
    have number : Decimal.uint64? plainEvm.chainId.toList = some 31337 := by
      decide +kernel
    exact ⟨builder, after, connected, Option.some.inj (named.symm.trans number)⟩
  · obtain ⟨-, versions, customary⟩ := usable_iff_of_problems_eq_nil plainCosmos cosmosAccepted
    have usable : plainCosmos.HasUsablePrefixes :=
      (customary rfl).mpr ⟨by decide +kernel, by decide, by decide⟩
    obtain ⟨builder, made, chainId, -⟩ := (versions rfl ⟨.cosmos, "v0.50.0", []⟩ rfl).1 usable
    exact ⟨builder, made, chainId⟩

/-- The checks report no problem, but no version of the application makes a builder. -/
theorem unusable_capitalPrefix :
    capitalPrefix.framework = .cosmos
      ∧ capitalPrefix.problems = []
      ∧ ∀ app : AppVersion, app.framework = .cosmos →
        Cosmos.Builder.withVersion capitalPrefix app
          = .error (.configuration (.hrp "COSMOSvaloper" .mixedCase)) := by
  have accepted : capitalPrefix.problems = [] := by
    decide +kernel
  refine ⟨rfl, accepted, ?_⟩
  intro app isCosmos
  obtain ⟨rest, rpc, outcome⟩ :=
    Cosmos.Builder.withVersion_eq (sound_of_problems accepted) isCosmos
  have refused :
      Cosmos.AddressCodec.make capitalPrefix.addressPrefix capitalPrefix.effectiveValidatorPrefix
        = .error (.configuration (.hrp "COSMOSvaloper" .mixedCase)) := by
    rfl
  rw [outcome, refused]
  rfl

end NetworkConfig

end ChainTx
