import ChainTx.Builder
import ChainTx.Proofs.Call.Remote
import ChainTx.Proofs.Text.Cutting
import ChainTx.Proofs.Text.Decimal

/-!
Contract: which impossible networks are refused before anybody is asked.

Owns:
- what settings without a problem are good for: both endpoints can be used, the chain id is there;
- connecting to an EVM network, which nothing but a problem prevents;
- connecting to a Cosmos network, where a configured version leaves nothing to ask;
- the networks that no builder can be made for: those with a problem or a configured version are
  refused at once, and any other one only after its node has told a version.

Does not own: what the builders do.
-/

set_option autoImplicit false

namespace ChainTx

/-- Errors of the configuration. -/
def TxError.OfSettings : TxError → Prop
  | .configuration _ => True
  | _ => False

theorem TxError.OfSettings.exists_fault
    {error : TxError}
    (ofSettings : error.OfSettings) :
    ∃ fault, error = .configuration fault := by
  cases error with
  | configuration fault => exact ⟨fault, rfl⟩
  | _ => exact ofSettings.elim

/-! ## Settings without a problem -/

private theorem RpcClient.make_of_require
    {endpoint : String}
    {url : Url}
    (required : Endpoint.require endpoint = .ok url)
    (timeout : Duration) :
    make endpoint timeout = .ok ⟨url, timeout⟩ := by
  rw [make, required]
  rfl

namespace NetworkConfig

/-- What the checks of the settings are good for. -/
structure Sound (network : NetworkConfig) : Prop where
  rpc : ∃ url, Endpoint.require network.rpcEndpoint = .ok url
  rest : ∃ url, Endpoint.require network.effectiveRestEndpoint = .ok url
  chainId : Blank.isBlankText network.chainId = false
  number : network.framework = .evm → ∃ chainId, Evm.parseChainId network.chainId = .ok chainId

private theorem exists_url_of_endpointProblem
    {setting text : String}
    (noProblem : endpointProblem setting text = []) :
    ∃ url, Endpoint.require text = .ok url := by
  unfold endpointProblem at noProblem
  split at noProblem
  · rename_i url parsed
    exact ⟨url, by rw [Endpoint.require, parsed, mapError_ok]⟩
  · cases noProblem

theorem sound_of_problems
    {network : NetworkConfig}
    (noProblem : network.problems = []) :
    network.Sound := by
  simp only [problems, List.append_eq_nil_iff] at noProblem
  obtain ⟨⟨⟨⟨rpc, rest⟩, chainId⟩, -⟩, -⟩ := noProblem
  have rpcUsable : ∃ url, Endpoint.require network.rpcEndpoint = .ok url := by
    unfold rpcProblems at rpc
    split at rpc
    · cases rpc
    · exact exists_url_of_endpointProblem rpc
  unfold chainIdProblems at chainId
  split at chainId
  · cases chainId
  · rename_i named
    refine ⟨rpcUsable, ?_, eq_false_of_ne_true named, ?_⟩
    · unfold restProblems at rest
      unfold effectiveRestEndpoint
      split at rest
      · rename_i absent
        rw [absent]
        exact rpcUsable
      · rename_i endpoint present
        rw [present]
        exact exists_url_of_endpointProblem rest
    · intro isEvm
      split at chainId
      · cases chainId
      · rename_i noFault
        cases found : Decimal.uint64? network.chainId.toList with
        | none => exact absurd ⟨isEvm, found⟩ noFault
        | some number =>
            have trimmed := Blank.trimChars_eq_self (Decimal.not_isBlank_of_uint64? found)
            exact ⟨number, by rw [Evm.parseChainId, trimmed, found]⟩

end NetworkConfig

/-! ## The EVM family -/

namespace Evm

/-- The comparison of the chain ids never fails. -/
theorem Client.returns_verifyChainId
    (client : Client)
    (context : CallContext)
    (before : CallState) :
    ∃ after, (client.verifyChainId context).Returns before () after := by
  obtain ⟨value, after, returned⟩ | ⟨error, after, failed⟩ :=
    (client.verifyChainId context).returns_or_fails before
  · exact ⟨after, returned⟩
  · simp only [verifyChainId, Call.fails_bind_iff, Call.not_fails_outcome, false_or] at failed
    obtain ⟨reply, middle, -, failed⟩ := failed
    split at failed
    · split at failed <;> exact absurd failed Call.not_fails_emit
    · exact absurd failed Call.not_fails_emit

theorem Builder.returns_connect
    {network : NetworkConfig}
    (sound : network.Sound)
    (isEvm : network.framework = .evm)
    (context : CallContext)
    (before : CallState) :
    ∃ builder after, (connect network context).Returns before builder after := by
  obtain ⟨url, required⟩ := sound.rpc
  obtain ⟨chainId, parsed⟩ := sound.number isEvm
  have made : ∃ client middle,
      (Client.make network.rpcEndpoint chainId network.requestTimeout).Returns before client
        middle := by
    simp only [Client.make, Call.returns_bind_iff, Call.returns_ofExcept_iff, required]
    exact ⟨_, _, url, _, ⟨rfl, rfl⟩, before, _, rfl, ⟨⟩, _, rfl, rfl⟩
  obtain ⟨client, middle, made⟩ := made
  obtain ⟨after, verified⟩ := client.returns_verifyChainId context middle
  have linked := RpcClient.make_of_require required network.requestTimeout
  simp only [connect, Call.returns_bind_iff, Call.returns_ofExcept_iff, parsed, linked]
  exact ⟨_, after, chainId, _, ⟨rfl, rfl⟩, client, middle, made, _, _, ⟨rfl, rfl⟩, (), after,
    verified, rfl⟩

end Evm

/-! ## The Cosmos family -/

theorem AppVersion.failsOnly_parse (raw : String) :
    FailsOnly TxError.OfSettings (AppVersion.parse raw) := by
  refine FailsOnly.bind ?_ fun version => trivial
  unfold Semver.parse
  split <;> trivial

theorem AppVersion.framework_of_parse
    {raw : String}
    {app : AppVersion}
    (parsed : parse raw = .ok app) :
    app.framework = .cosmos := by
  simp only [parse, bind_eq_ok_iff] at parsed
  obtain ⟨version, -, taken⟩ := parsed
  cases taken
  rfl

namespace Cosmos

private theorem AddressCodec.failsOnly_make (accountHrp validatorHrp : String) :
    FailsOnly TxError.OfSettings (make accountHrp validatorHrp) := by
  have checks (text : String) : FailsOnly TxError.OfSettings (checkHrp text) := by
    unfold checkHrp
    split <;> trivial
  exact (checks accountHrp).bind fun _ => (checks validatorHrp).bind fun _ => trivial

namespace Builder

variable {network : NetworkConfig}

/-- With endpoints and a chain id that can be used, the prefixes decide. -/
theorem withVersion_eq
    (sound : network.Sound)
    {app : AppVersion}
    (isCosmos : app.framework = .cosmos) :
    ∃ rest rpc,
      withVersion network app
        = (AddressCodec.make network.addressPrefix network.effectiveValidatorPrefix).map fun codec =>
          ⟨network.chainId, codec, app, network.defaultGasLimit, rest, rpc⟩ := by
  obtain ⟨rpcUrl, rpc⟩ := sound.rpc
  obtain ⟨restUrl, rest⟩ := sound.rest
  refine ⟨⟨restUrl, network.requestTimeout⟩, ⟨rpcUrl, network.requestTimeout⟩, ?_⟩
  simp only [withVersion, RpcClient.make, rpc, rest, sound.chainId, isCosmos]
  rfl

/-- What a builder is made of, if one is made. -/
theorem parts_of_withVersion
    {app : AppVersion}
    {builder : Builder}
    (made : withVersion network app = .ok builder) :
    ∃ rpc rest codec,
      RpcClient.make network.rpcEndpoint network.requestTimeout = .ok rpc
        ∧ RpcClient.make network.effectiveRestEndpoint network.requestTimeout = .ok rest
        ∧ AddressCodec.make network.addressPrefix network.effectiveValidatorPrefix = .ok codec
        ∧ builder = ⟨network.chainId, codec, app, network.defaultGasLimit, rest, rpc⟩ := by
  by_cases blank : Blank.isBlankText network.chainId = true
  · rw [withVersion, if_pos blank] at made
    cases made
  · by_cases foreign : app.framework ≠ .cosmos
    · rw [withVersion, if_neg blank, if_pos foreign] at made
      cases made
    · rw [withVersion, if_neg blank, if_neg foreign] at made
      simp only [bind_eq_ok_iff] at made
      obtain ⟨rpc, rpcMade, rest, restMade, codec, codecMade, taken⟩ := made
      cases taken
      exact ⟨rpc, rest, codec, rpcMade, restMade, codecMade, rfl⟩

theorem failsOnly_withVersion
    (sound : network.Sound)
    {app : AppVersion}
    (isCosmos : app.framework = .cosmos) :
    FailsOnly TxError.OfSettings (withVersion network app) := by
  obtain ⟨rest, rpc, outcome⟩ := withVersion_eq sound isCosmos
  rw [outcome]
  exact (AddressCodec.failsOnly_make _ _).map _

/-- What comes of a configured version, without any node. -/
def ofHint (network : NetworkConfig) (hint : String) : Except TxError Builder := do
  let app ← AppVersion.parse hint
  withVersion network app

theorem failsOnly_ofHint
    (sound : network.Sound)
    (hint : String) :
    FailsOnly TxError.OfSettings (ofHint network hint) :=
  (AppVersion.failsOnly_parse hint).bind_of_eq fun _ parsed =>
    failsOnly_withVersion sound (AppVersion.framework_of_parse parsed)

/-- A configured version leaves nothing to ask. -/
theorem run_connect_of_hint
    {hint : String}
    (configured : network.sdkVersion = some hint)
    (context : CallContext)
    (before : CallState) :
    ∃ after,
      (connect network context).run.run before = (ofHint network hint, after)
        ∧ after.wire = before.wire
        ∧ after.measurements = before.measurements := by
  simp only [connect, versionOf, configured, ofHint]
  cases AppVersion.parse hint with
  | error error => exact ⟨before, rfl, rfl, rfl⟩
  | ok app =>
      refine ⟨{ before with events := before.events
        ++ [⟨.debug, "Using configured application version"⟩] }, ?_, rfl, rfl⟩
      change (Call.ofExcept (withVersion network app)).run.run _ = (withVersion network app, _)
      cases withVersion network app <;> rfl

/-! ### Without a configured version -/

/-- The node could be reached, and one request has, with those to which the node itself has led. -/
def Asked (before after : CallState) : Prop :=
  before.node ≠ none
    ∧ ∃ request followed,
      after.requests = before.requests ++ request :: followed
        ∧ (before.wire.IsDirect → followed = [])

private theorem asked_of_returns_get
    {client : RpcClient}
    {context : CallContext}
    {operation path : String}
    {answer : HttpReply}
    {before after : CallState}
    (returned : (client.get context operation path).Returns before answer after) :
    Asked before after := by
  obtain ⟨url, -, served⟩ := RpcClient.served_of_returns_get returned
  have reached := served.reaches
  obtain ⟨made, sent⟩ := served.exists_sent
  obtain ⟨followed, rfl⟩ := sent.exists_eq_cons reached
  refine ⟨?_, _, followed, sent.requests_eq, fun direct => ?_⟩
  · intro noNode
    rw [Wire.reaches, show before.wire.node = none from noNode] at reached
    cases reached
  · have single := (sent.of_isDirect direct).1
    rw [if_pos reached] at single
    exact (List.cons.inj single).2

private theorem asked_of_returns_detect
    {rpc : RpcClient}
    {context : CallContext}
    {before after : CallState}
    {app : AppVersion}
    (returned : (Detection.detect rpc context).Returns before app after) :
    Asked before after := by
  simp only [Detection.detect, Call.returns_bind_iff, Call.returns_ofExcept_iff,
    Call.returns_emit_iff, Call.returns_pure_iff] at returned
  obtain ⟨_, _, answered, _, _, ⟨-, rfl⟩, _, _, rfl, rfl, rfl⟩ := returned
  have asked := asked_of_returns_get answered
  exact asked

private theorem asked_of_fails_detect
    {rpc : RpcClient}
    {context : CallContext}
    {before after : CallState}
    {error : TxError}
    (failed : (Detection.detect rpc context).Fails before error after) :
    error.isTransport = true ∨ Asked before after := by
  simp only [Detection.detect, Call.fails_bind_iff, Call.fails_ofExcept_iff, Call.not_fails_emit,
    Call.not_fails_pure, and_false, exists_false, or_false] at failed
  obtain unanswered | ⟨_, _, answered, -, rfl⟩ := failed
  · exact .inl (RpcClient.isTransport_of_get unanswered)
  · exact .inr (asked_of_returns_get answered)

/-- Without a configured version the node is asked for it. -/
theorem versionOf_of_unnamed
    (sound : network.Sound)
    (unnamed : network.sdkVersion = none)
    (context : CallContext) :
    ∃ rpc, versionOf network context = Detection.detect rpc context := by
  obtain ⟨url, required⟩ := sound.rpc
  refine ⟨⟨url, network.requestTimeout⟩, ?_⟩
  simp only [versionOf, unnamed, RpcClient.make_of_require required]
  exact pure_bind _ _

/-- Without a configured version a failure is one of the query, or comes after it. -/
theorem asked_of_fails_connect
    {context : CallContext}
    {before after : CallState}
    {error : TxError}
    (sound : network.Sound)
    (unnamed : network.sdkVersion = none)
    (failed : (connect network context).Fails before error after) :
    error.isTransport = true ∨ Asked before after := by
  obtain ⟨rpc, detects⟩ := versionOf_of_unnamed sound unnamed context
  rw [connect, detects, Call.fails_bind_iff] at failed
  obtain undetected | ⟨app, middle, detected, refused⟩ := failed
  · exact asked_of_fails_detect undetected
  · obtain ⟨-, rfl⟩ := Call.fails_ofExcept_iff.mp refused
    exact .inr (asked_of_returns_detect detected)

end Builder

end Cosmos

/-! ## Networks of either family -/

namespace Builder

variable {network : NetworkConfig}

theorem run_connect_of_problems
    (refused : network.problems ≠ [])
    (context : CallContext)
    (before : CallState) :
    (connect network context).run.run before
      = (.error (.configuration (.rejected network.problems)), before) := by
  rw [connect, if_pos refused]
  rfl

/-- Without a problem, connecting is connecting to a network of the family. -/
theorem fails_connect_iff
    {context : CallContext}
    {before after : CallState}
    {error : TxError}
    (accepted : network.problems = []) :
    (connect network context).Fails before error after
      ↔ (ofFamily network context).Fails before error after := by
  rw [connect, if_neg (not_not_intro accepted)]
  simp only [Call.fails_bind_iff, Call.not_fails_pure, Call.not_fails_emit, and_false, exists_false,
    or_false]

/-- A builder of the family is all it takes. -/
theorem exists_returns_connect
    {context : CallContext}
    {before middle : CallState}
    {builder : Builder}
    (accepted : network.problems = [])
    (made : (ofFamily network context).Returns before builder middle) :
    ∃ after, (connect network context).Returns before builder after := by
  rw [connect, if_neg (not_not_intro accepted)]
  simp only [Call.returns_bind_iff, Call.returns_emit_iff, Call.returns_pure_iff]
  exact ⟨_, builder, middle, made, (), _, rfl, rfl, rfl⟩

/-- A network that no builder is ever made for, whatever a node says. -/
def Unbuildable (network : NetworkConfig) : Prop :=
  ∀ context before builder after, ¬ (connect network context).Returns before builder after

/-- A prefix that is refused makes a network impossible, whatever version the node tells. -/
theorem unbuildable_of_prefix
    {error : TxError}
    (isCosmos : network.framework = .cosmos)
    (refused : Cosmos.AddressCodec.make network.addressPrefix network.effectiveValidatorPrefix
      = .error error) :
    Unbuildable network := by
  intro context before builder after returned
  by_cases accepted : network.problems = []
  · rw [connect, if_neg (not_not_intro accepted)] at returned
    simp only [ofFamily, isCosmos, Cosmos.Builder.connect, Call.returns_bind_iff,
      Call.returns_ofExcept_iff] at returned
    obtain ⟨_, _, ⟨family, _, ⟨app, _, -, made, -⟩, -⟩, -⟩ := returned
    obtain ⟨-, -, codec, -, -, codecMade, -⟩ := Cosmos.Builder.parts_of_withVersion made
    rw [refused] at codecMade
    cases codecMade
  · rw [Call.Returns, run_connect_of_problems accepted] at returned
    cases returned

private theorem Unbuildable.not_returns_ofFamily
    (unbuildable : Unbuildable network)
    (accepted : network.problems = [])
    {context : CallContext}
    {before after : CallState}
    {builder : Builder} :
    ¬ (ofFamily network context).Returns before builder after := by
  intro made
  obtain ⟨left, returned⟩ := exists_returns_connect accepted made
  exact unbuildable _ _ _ _ returned

/-- Only networks of the Cosmos family are impossible without a problem. -/
theorem Unbuildable.isCosmos
    (unbuildable : Unbuildable network)
    (accepted : network.problems = []) :
    network.framework = .cosmos := by
  cases framework : network.framework with
  | cosmos => rfl
  | evm =>
      obtain ⟨builder, middle, connected⟩ :=
        Evm.Builder.returns_connect (NetworkConfig.sound_of_problems accepted) framework .background
          (.initial none)
      have made : (ofFamily network .background).Returns (.initial none) (.evm builder) middle := by
        simp only [ofFamily, framework, Call.returns_bind_iff, Call.returns_pure_iff]
        exact ⟨builder, middle, connected, rfl, rfl⟩
      exact absurd made (unbuildable.not_returns_ofFamily accepted)

/-- The family decides how connecting fails. -/
theorem Unbuildable.fails_connect_iff
    (unbuildable : Unbuildable network)
    (accepted : network.problems = [])
    {context : CallContext}
    {before after : CallState}
    {error : TxError} :
    (connect network context).Fails before error after
      ↔ (Cosmos.Builder.connect network context).Fails before error after := by
  rw [Builder.fails_connect_iff accepted]
  simp only [ofFamily, unbuildable.isCosmos accepted, Call.fails_bind_iff, Call.not_fails_pure,
    and_false, exists_false, or_false]

/-- A refusal that needs no node: it is the same in every state, and leaves the wire and the
measurements as they were. -/
def RefusedAtOnce (network : NetworkConfig) : Prop :=
  ∃ fault, ∀ context before, ∃ after,
    (connect network context).Fails before (.configuration fault) after
      ∧ after.wire = before.wire
      ∧ after.measurements = before.measurements

private theorem refusedAtOnce_of_problems
    (refused : network.problems ≠ []) :
    RefusedAtOnce network :=
  ⟨_, fun context before => ⟨before, run_connect_of_problems refused context before, rfl, rfl⟩⟩

private theorem Unbuildable.refusedAtOnce_of_hint
    {hint : String}
    (unbuildable : Unbuildable network)
    (accepted : network.problems = [])
    (configured : network.sdkVersion = some hint) :
    RefusedAtOnce network := by
  have sound := NetworkConfig.sound_of_problems accepted
  have ran := Cosmos.Builder.run_connect_of_hint configured
  have fails := Cosmos.Builder.failsOnly_ofHint sound hint
  cases outcome : Cosmos.Builder.ofHint network hint with
  | ok builder =>
      obtain ⟨middle, connected, -⟩ := ran .background (.initial none)
      rw [outcome] at connected
      have made : (ofFamily network .background).Returns (.initial none) (.cosmos builder)
          middle := by
        simp only [ofFamily, unbuildable.isCosmos accepted, Call.returns_bind_iff,
          Call.returns_pure_iff]
        exact ⟨builder, middle, connected, rfl, rfl⟩
      exact absurd made (unbuildable.not_returns_ofFamily accepted)
  | error error =>
      rw [outcome] at fails
      obtain ⟨fault, rfl⟩ := TxError.OfSettings.exists_fault fails
      refine ⟨fault, fun context before => ?_⟩
      obtain ⟨after, failed, wire, measurements⟩ := ran context before
      rw [outcome] at failed
      exact ⟨after, (unbuildable.fails_connect_iff accepted).mpr failed, wire, measurements⟩

/-- Without a problem and without a configured version nobody knows before the node is asked. -/
theorem Unbuildable.asked_of_fails
    (unbuildable : Unbuildable network)
    (accepted : network.problems = [])
    (unnamed : network.sdkVersion = none)
    {context : CallContext}
    {before after : CallState}
    {error : TxError}
    (failed : (connect network context).Fails before error after) :
    error.isTransport = true ∨ Cosmos.Builder.Asked before after :=
  Cosmos.Builder.asked_of_fails_connect (NetworkConfig.sound_of_problems accepted) unnamed
    ((unbuildable.fails_connect_iff accepted).mp failed)

/-- Without a node it is the query that fails. -/
theorem Unbuildable.fails_without_node
    (unbuildable : Unbuildable network)
    (accepted : network.problems = [])
    (unnamed : network.sdkVersion = none)
    (context : CallContext)
    {before : CallState}
    (noNode : before.node = none) :
    ∃ error after,
      (connect network context).Fails before error after ∧ error.isTransport = true := by
  obtain ⟨builder, after, returned⟩ | ⟨error, after, failed⟩ :=
    (connect network context).returns_or_fails before
  · exact absurd returned (unbuildable _ _ _ _)
  · obtain transport | ⟨reached, -⟩ := unbuildable.asked_of_fails accepted unnamed failed
    · exact ⟨error, after, failed, transport⟩
    · exact absurd noNode reached

/-- Which of the networks that no builder can be made for are refused before the node is asked: those
with a problem and those that name their version. Any other one fails as unreachable where there is
no node, and is refused for its configuration only after the node has answered a request, which is
the only one unless the node sends the client on. -/
theorem refusedAtOnce_iff_of_unbuildable
    (network : NetworkConfig)
    (unbuildable : Unbuildable network) :
    (RefusedAtOnce network ↔ network.problems ≠ [] ∨ network.sdkVersion ≠ none)
      ∧ (network.problems = [] → network.sdkVersion = none →
        (∀ context before, before.node = none →
          ∃ error after,
            (connect network context).Fails before error after ∧ error.isTransport = true)
        ∧ ∀ context before fault after,
          (connect network context).Fails before (.configuration fault) after →
          ∃ request followed,
            after.requests = before.requests ++ request :: followed
              ∧ (before.wire.IsDirect → followed = [])) := by
  refine ⟨⟨?_, ?_⟩, fun accepted unnamed => ⟨?_, ?_⟩⟩
  · rintro ⟨fault, refused⟩
    by_cases accepted : network.problems = []
    · refine .inr fun unnamed => ?_
      obtain ⟨error, left, failed, transport⟩ :=
        unbuildable.fails_without_node accepted unnamed .background
          (show (CallState.initial none).node = none from rfl)
      obtain ⟨after, ran, -⟩ := refused .background (.initial none)
      rw [Call.Fails, failed] at ran
      cases ran
      cases transport
    · exact .inl accepted
  · intro known
    by_cases accepted : network.problems = []
    · have named := known.resolve_left (not_not_intro accepted)
      obtain ⟨hint, configured⟩ := Option.ne_none_iff_exists'.mp named
      exact unbuildable.refusedAtOnce_of_hint accepted configured
    · exact refusedAtOnce_of_problems accepted
  · intro context before noNode
    exact unbuildable.fails_without_node accepted unnamed context noNode
  · intro context before fault after failed
    obtain transport | ⟨-, asked⟩ := unbuildable.asked_of_fails accepted unnamed failed
    · cases transport
    · exact asked

/-! ### A prefix that is refused -/

/-- Settings without a problem, but validators have an empty prefix. -/
def unusablePrefix : NetworkConfig where
  rpcEndpoint := "http://n"
  chainId := "c-1"
  validatorPrefix := some ""

/-- A node that tells its version. -/
def versionNode : Node where
  host := .name ['n']
  port := none
  replies :=
    [("GET /abci_info", [⟨0, .answer 200
      "\x7b\"result\":\x7b\"response\":\x7b\"version\":\"0.47.0\"\x7d\x7d\x7d"⟩])]

private theorem make_of_unusablePrefix :
    Cosmos.AddressCodec.make unusablePrefix.addressPrefix unusablePrefix.effectiveValidatorPrefix
      = .error (.configuration (.hrp "" .empty)) := by
  rfl

/-- With the version in the settings the prefix is refused at once, without it only later. -/
theorem refusedAtOnce_of_unusablePrefix :
    RefusedAtOnce { unusablePrefix with sdkVersion := some "0.47.0" }
      ∧ ¬ RefusedAtOnce unusablePrefix := by
  constructor
  · have unbuildable : Unbuildable { unusablePrefix with sdkVersion := some "0.47.0" } :=
      unbuildable_of_prefix rfl make_of_unusablePrefix
    exact (refusedAtOnce_iff_of_unbuildable _ unbuildable).1.mpr (.inr nofun)
  · have unbuildable : Unbuildable unusablePrefix :=
      unbuildable_of_prefix rfl make_of_unusablePrefix
    intro refused
    have accepted : unusablePrefix.problems = [] := by
      decide +kernel
    obtain refused | named := (refusedAtOnce_iff_of_unbuildable _ unbuildable).1.mp refused
    · exact refused accepted
    · exact named rfl

/-- Whatever version the node tells, the prefix is refused, but the node is asked first, and where
there is none the fault of the settings stays hidden. -/
theorem asked_of_unusablePrefix :
    unusablePrefix.problems = []
      ∧ (∀ app, app.framework = .cosmos →
        Cosmos.Builder.withVersion unusablePrefix app
          = .error (.configuration (.hrp "" .empty)))
      ∧ Unbuildable unusablePrefix
      ∧ (∃ after,
        (connect unusablePrefix .background).Fails (.initial (some versionNode))
            (.configuration (.hrp "" .empty)) after
          ∧ after.requests.length = 1)
      ∧ ∃ after,
        (connect unusablePrefix .background).Fails (.initial none) (.transport .disconnected)
          after := by
  have accepted : unusablePrefix.problems = [] := by
    decide +kernel
  refine ⟨accepted, ?_, unbuildable_of_prefix rfl make_of_unusablePrefix, ?_, ?_⟩
  · intro app isCosmos
    obtain ⟨rest, rpc, outcome⟩ :=
      Cosmos.Builder.withVersion_eq (NetworkConfig.sound_of_problems accepted) isCosmos
    rw [outcome, make_of_unusablePrefix]
    rfl
  · have failed :
        Call.error? ((connect unusablePrefix .background).run.run (.initial (some versionNode))).1
          = some (.configuration (.hrp "" .empty)) := by
      decide +kernel
    have single :
        ((connect unusablePrefix .background).run.run
          (.initial (some versionNode))).2.requests.length = 1 := by
      decide +kernel
    exact ⟨_, Call.fails_of_error? failed, single⟩
  · have failed :
        Call.error? ((connect unusablePrefix .background).run.run (.initial none)).1
          = some (.transport .disconnected) := by
      decide +kernel
    exact ⟨_, Call.fails_of_error? failed⟩

end Builder

end ChainTx
