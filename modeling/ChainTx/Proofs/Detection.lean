import ChainTx.Proofs.Connecting
import ChainTx.Proofs.Json.Shape
import ChainTx.Proofs.Version

/-!
Contract: the version that a builder is bound to, configured or reported.

Owns:
- what is made of a version that a node reports, and that it is what is made of the same text in the
  settings;
- connecting under either: the same builder, or a fault of the configuration both times;
- the laws of versions as a whole.

Does not own: nodes that report no version.

The two faults may differ: a blank version is refused as empty where a node reports it, and as
unreadable where the settings name it.
-/

set_option autoImplicit false

namespace ChainTx

namespace Cosmos

namespace Detection

/-- Asked about its application, the node of a network answers successfully and names a version. -/
def Reports (network : NetworkConfig) (context : CallContext) (before : CallState)
    (version : String) : Prop :=
  ∃ rpc reply middle,
    RpcClient.make network.rpcEndpoint network.requestTimeout = .ok rpc
      ∧ (rpc.get context "abci_info" "abci_info").Returns before reply middle
      ∧ reply.isSuccess = true
      ∧ versionOf? reply.body = some version

variable {reply : HttpReply} {version : String}

/-- The only known member of a record is read under a shape of its own. -/
theorem memberOf_narrow
    {name : String}
    {members : List (String × Json)}
    {value : Json}
    (inner : Json.Shape)
    (distinct : Json.Distinct members)
    (found : members.lookup name = some value) :
    versionOf?.memberOf name (Json.narrow (.record [(name, inner)]) (.object members))
      = some (Json.narrow inner value) := by
  have looked : (Json.Shape.record [(name, inner)]).member name = inner := by
    rw [Json.Shape.member, List.lookup_cons_self, Option.getD_some]
  rw [versionOf?.memberOf, Json.narrow_record_object,
    Json.record?_of_distinct distinct.narrowMembers]
  simp only [List.map_cons, List.map_nil, Json.lookup_narrowMembers, looked, found, Option.map_some,
    Option.bind_eq_bind, Option.bind_some]

/-- A version in an object whose names are distinct at each of its three levels. -/
theorem versionOf?_of_members
    {body : String}
    {members results responses : List (String × Json)}
    (read : Json.readRaw? body = some (.object members))
    (distinct : Json.Distinct members)
    (result : members.lookup "result" = some (.object results))
    (resultsDistinct : Json.Distinct results)
    (response : results.lookup "response" = some (.object responses))
    (responsesDistinct : Json.Distinct responses)
    (named : responses.lookup "version" = some (.string version)) :
    versionOf? body = some version := by
  have shaped := Json.readKnown?_of_readRaw? shape read
  rw [shape] at shaped
  simp only [versionOf?, shape, shaped, memberOf_narrow _ distinct result,
    memberOf_narrow _ resultsDistinct response, Json.record?_narrow,
    Json.record?_of_distinct responsesDistinct, Option.bind_eq_bind, Option.bind_some,
    List.map_cons, List.map_nil, named, Json.defaulted?, Json.string?]

/-- Of a version that is named, as much is made as of the text alone. -/
theorem ofReply_eq_ok_iff
    (success : reply.isSuccess = true)
    (named : versionOf? reply.body = some version)
    (app : AppVersion) :
    ofReply reply = .ok app ↔ AppVersion.parse version = .ok app := by
  rw [ofReply, if_pos success]
  simp only [named]
  by_cases blank : Blank.isBlankText version = true
  · rw [if_pos blank]
    refine iff_of_false nofun fun parsed => ?_
    obtain ⟨_, read, -⟩ := AppVersion.parse_eq_ok_iff.mp parsed
    rw [Semver.not_isBlankText_of_parse read] at blank
    cases blank
  · rw [if_neg blank]

private theorem failsOnly_ofReply
    (success : reply.isSuccess = true)
    (named : versionOf? reply.body = some version) :
    FailsOnly TxError.OfSettings (ofReply reply) := by
  rw [ofReply, if_pos success]
  simp only [named]
  split
  · trivial
  · exact AppVersion.failsOnly_parse version

end Detection

namespace Builder

variable {network : NetworkConfig} {context : CallContext} {before : CallState} {version : String}

/-! ## Connecting under a version -/

/-- A call that comes to a result: it returns the value, or it fails for the configuration. -/
def ComesTo {α : Type} (call : Call α) (before : CallState) : Except TxError α → Prop
  | .ok value => ∃ after, call.Returns before value after
  | .error _ => ∃ fault after, call.Fails before (.configuration fault) after

private theorem comesTo_of_hint
    (sound : network.Sound)
    (configured : network.sdkVersion = some version) :
    ComesTo (connect network context) before (ofHint network version) := by
  obtain ⟨after, ran, -⟩ := run_connect_of_hint configured context before
  have fails := failsOnly_ofHint sound version
  cases made : ofHint network version with
  | ok builder => exact ⟨after, by rw [Call.Returns, ran, made]⟩
  | error error =>
      rw [made] at fails
      obtain ⟨fault, rfl⟩ := fails.exists_fault
      exact ⟨fault, after, by rw [Call.Fails, ran, made]⟩

private theorem comesTo_of_report
    (sound : network.Sound)
    (unnamed : network.sdkVersion = none)
    (reports : Detection.Reports network context before version) :
    ComesTo (connect network context) before (ofHint network version) := by
  obtain ⟨rpc, reply, middle, rpcMade, answered, success, named⟩ := reports
  have asks : versionOf network context = Detection.detect rpc context := by
    simp only [versionOf, unnamed, rpcMade]
    exact pure_bind _ _
  have parsed := Detection.ofReply_eq_ok_iff success named
  rw [connect, asks]
  cases read : Detection.ofReply reply with
  | error error =>
      have fails := Detection.failsOnly_ofReply success named
      rw [read] at fails
      obtain ⟨fault, rfl⟩ := fails.exists_fault
      have refused : ∃ error, ofHint network version = .error error := by
        cases found : AppVersion.parse version with
        | error error => exact ⟨error, by rw [ofHint, found]; rfl⟩
        | ok app =>
            rw [(parsed app).mpr found] at read
            cases read
      obtain ⟨error, refused⟩ := refused
      rw [refused]
      refine ⟨fault, middle, ?_⟩
      simp only [Detection.detect, Call.fails_bind_iff, Call.fails_ofExcept_iff]
      exact .inl (.inr ⟨reply, middle, answered, .inl ⟨read, rfl⟩⟩)
  | ok app =>
      have detected : ∃ after, (Detection.detect rpc context).Returns before app after := by
        simp only [Detection.detect, Call.returns_bind_iff, Call.returns_ofExcept_iff,
          Call.returns_emit_iff, Call.returns_pure_iff]
        exact ⟨_, reply, middle, answered, app, middle, ⟨read, rfl⟩, (), _, rfl, rfl, rfl⟩
      obtain ⟨after, detected⟩ := detected
      have found := (parsed app).mp read
      have isMade : ofHint network version = withVersion network app := by
        rw [ofHint, found]
        rfl
      have fails := failsOnly_withVersion sound (AppVersion.framework_of_parse found)
      rw [isMade]
      cases made : withVersion network app with
      | ok builder =>
          refine ⟨after, ?_⟩
          rw [Call.returns_bind_iff]
          exact ⟨app, after, detected, Call.returns_ofExcept_iff.mpr ⟨made, rfl⟩⟩
      | error error =>
          rw [made] at fails
          obtain ⟨fault, rfl⟩ := fails.exists_fault
          refine ⟨fault, after, ?_⟩
          rw [Call.fails_bind_iff]
          exact .inr ⟨app, after, detected, Call.fails_ofExcept_iff.mpr ⟨made, rfl⟩⟩

end Builder

end Cosmos

namespace Builder

open Cosmos.Builder

variable {network : NetworkConfig} {context : CallContext} {before : CallState}

/-- Connecting to a network of the Cosmos family without a problem comes to what connecting within the
family comes to. -/
theorem comesTo_connect
    (accepted : network.problems = [])
    (isCosmos : network.framework = .cosmos)
    {made : Except TxError Cosmos.Builder}
    (comesTo : ComesTo (Cosmos.Builder.connect network context) before made) :
    ComesTo (connect network context) before (made.map .cosmos) := by
  cases made with
  | ok builder =>
      obtain ⟨middle, returned⟩ := comesTo
      have ofFamily : (ofFamily network context).Returns before (.cosmos builder) middle := by
        simp only [Builder.ofFamily, isCosmos, Call.returns_bind_iff, Call.returns_pure_iff]
        exact ⟨builder, middle, returned, rfl, rfl⟩
      exact exists_returns_connect accepted ofFamily
  | error error =>
      obtain ⟨fault, after, failed⟩ := comesTo
      refine ⟨fault, after, (fails_connect_iff accepted).mpr ?_⟩
      simp only [Builder.ofFamily, isCosmos, Call.fails_bind_iff, failed, true_or]

/-- A version in the settings and the same version reported by the node come to the same. -/
theorem hint_agrees_with_report
    {otherContext : CallContext}
    {otherBefore : CallState}
    {version : String}
    (isCosmos : network.framework = .cosmos)
    (accepted : network.problems = [])
    (reports : Cosmos.Detection.Reports network otherContext otherBefore version) :
    (∃ builder after otherAfter,
        (connect { network with sdkVersion := some version } context).Returns before
            (.cosmos builder) after
          ∧ (connect { network with sdkVersion := none } otherContext).Returns otherBefore
            (.cosmos builder) otherAfter
          ∧ AppVersion.parse version = .ok builder.app)
      ∨ ∃ fault after otherFault otherAfter,
        (connect { network with sdkVersion := some version } context).Fails before
            (.configuration fault) after
          ∧ (connect { network with sdkVersion := none } otherContext).Fails otherBefore
            (.configuration otherFault) otherAfter := by
  -- The hint is no part of what the checks look at.
  have stillAccepted (hint : Option String) : { network with sdkVersion := hint }.problems = [] :=
    accepted
  have stillCosmos (hint : Option String) :
      { network with sdkVersion := hint }.framework = .cosmos :=
    isCosmos
  have sameMaking (hint : Option String) :
      ofHint { network with sdkVersion := hint } version = ofHint network version :=
    rfl
  have hinted : ComesTo (connect { network with sdkVersion := some version } context) before
      ((ofHint network version).map .cosmos) := by
    have sound := NetworkConfig.sound_of_problems (stillAccepted (some version))
    rw [← sameMaking (some version)]
    exact comesTo_connect (stillAccepted _) (stillCosmos _) (comesTo_of_hint sound rfl)
  have reported : ComesTo (connect { network with sdkVersion := none } otherContext) otherBefore
      ((ofHint network version).map .cosmos) := by
    have sound := NetworkConfig.sound_of_problems (stillAccepted none)
    rw [← sameMaking none]
    exact comesTo_connect (stillAccepted _) (stillCosmos _) (comesTo_of_report sound rfl reports)
  cases made : ofHint network version with
  | ok builder =>
      rw [made] at hinted reported
      obtain ⟨after, hinted⟩ := hinted
      obtain ⟨otherAfter, reported⟩ := reported
      obtain ⟨app, parsed, withApp⟩ := bind_eq_ok_iff.mp made
      obtain ⟨_, _, _, -, -, -, isMade⟩ := parts_of_withVersion withApp
      have bound : builder.app = app := by rw [isMade]
      exact .inl ⟨builder, after, otherAfter, hinted, reported, bound ▸ parsed⟩
  | error error =>
      rw [made] at hinted reported
      obtain ⟨fault, after, hinted⟩ := hinted
      obtain ⟨otherFault, otherAfter, reported⟩ := reported
      exact .inr ⟨fault, after, otherFault, otherAfter, hinted, reported⟩

/-- The laws of versions. A text is one exactly if it is written with two or three runs of digits of
64 bits, which are its numbers. A later version has the features and the transaction types of an
earlier one, whatever their suffixes. A version in the settings makes the same builder as one that the
node reports, or neither makes one for a fault of the configuration. -/
theorem version_laws :
    (∀ raw,
        (∃ version, Semver.parse raw = .ok version)
          ↔ ∃ runs,
            Semver.IsWritten raw.toList runs
              ∧ (runs.length = 2 ∨ runs.length = 3)
              ∧ ∀ run ∈ runs, Decimal.IsRun run ∧ Decimal.value run < 2 ^ 64)
      ∧ (∀ raw version,
        Semver.parse raw = .ok version
          ↔ ∃ runs, Semver.IsWritten raw.toList runs ∧ Semver.Names runs version)
      ∧ (∀ earlierText laterText earlier later,
        Semver.parse earlierText = .ok earlier →
        Semver.parse laterText = .ok later →
          ∃ app laterApp,
            AppVersion.parse earlierText = .ok app
              ∧ AppVersion.parse laterText = .ok laterApp
              ∧ (earlier.triple ≤ later.triple →
                app.features ⊆ laterApp.features ∧ app.cosmosTxTypes ⊆ laterApp.cosmosTxTypes)
              ∧ (earlier.triple = later.triple →
                app.features = laterApp.features ∧ app.cosmosTxTypes = laterApp.cosmosTxTypes))
      ∧ ∀ (network : NetworkConfig) version context before otherContext otherBefore,
        network.framework = .cosmos →
        network.problems = [] →
        Cosmos.Detection.Reports network otherContext otherBefore version →
          (∃ builder after otherAfter,
            (connect { network with sdkVersion := some version } context).Returns before
                (.cosmos builder) after
              ∧ (connect { network with sdkVersion := none } otherContext).Returns otherBefore
                (.cosmos builder) otherAfter
              ∧ AppVersion.parse version = .ok builder.app)
          ∨ ∃ fault after otherFault otherAfter,
            (connect { network with sdkVersion := some version } context).Fails before
                (.configuration fault) after
              ∧ (connect { network with sdkVersion := none } otherContext).Fails otherBefore
                (.configuration otherFault) otherAfter := by
  refine ⟨fun _ => Semver.exists_parse_eq_ok_iff, fun _ _ => Semver.parse_eq_ok_iff,
    fun _ _ _ _ => AppVersion.subset_of_parse, ?_⟩
  intro network version context before otherContext otherBefore isCosmos accepted reports
  exact hint_agrees_with_report isCosmos accepted reports

/-! ### A version told in two ways -/

/-- A network of the Cosmos family whose node has the name `n`. -/
def versionNetwork : NetworkConfig where
  rpcEndpoint := "http://n"
  chainId := "c-1"

/-- What the node answers. -/
def versionReport : HttpReply :=
  ⟨200, "\x7b\"result\":\x7b\"response\":\x7b\"version\":\"0.47.0\"\x7d\x7d\x7d"⟩

private theorem reports_versionNetwork :
    Cosmos.Detection.Reports versionNetwork .background (.initial (some versionNode)) "0.47.0" := by
  have answered : ((RpcClient.make versionNetwork.rpcEndpoint
      versionNetwork.requestTimeout).toOption.bind fun rpc =>
        ((rpc.get .background "abci_info" "abci_info").run.run
          (.initial (some versionNode))).1.toOption) = some versionReport := by
    decide +kernel
  have read : Json.readRaw? versionReport.body
      = some (.object [("result", .object [("response",
        .object [("version", .string "0.47.0")])])]) := by
    cbv
  obtain ⟨rpc, made, answered⟩ := Option.bind_eq_some_iff.mp answered
  obtain ⟨middle, returned⟩ := Call.returns_of_toOption answered
  exact ⟨rpc, versionReport, middle, eq_ok_of_toOption made, returned, by decide,
    Cosmos.Detection.versionOf?_of_members read (by decide) rfl (by decide) rfl (by decide) rfl⟩

/-- A version with a mark and a suffix, and a builder that is made alike from the settings and from
what the node reports. -/
theorem version_laws_of_versionNetwork :
    Semver.parse " v0.47.0-rc1 " = .ok ⟨0, 47, 0⟩
      ∧ (∃ app laterApp,
        AppVersion.parse "0.45" = .ok app
          ∧ AppVersion.parse "v0.47.1" = .ok laterApp
          ∧ app.features ⊆ laterApp.features)
      ∧ ∃ builder after otherAfter,
        (connect { versionNetwork with sdkVersion := some "0.47.0" } .background).Returns
            (.initial none) (.cosmos builder) after
          ∧ (connect { versionNetwork with sdkVersion := none } .background).Returns
            (.initial (some versionNode)) (.cosmos builder) otherAfter := by
  obtain ⟨-, read, grows, agree⟩ := version_laws
  refine ⟨?_, ?_, ?_⟩
  · have blank : ∀ char ∈ [' '], isBlank char = true := List.forall_mem_singleton.mpr rfl
    have starts : ∀ char ∈ "-rc1".toList.head?, char = '-' ∨ char = '+' := by
      rintro _ ⟨⟩
      exact .inl rfl
    have areRuns : ∀ run ∈ [['0'], ['4', '7'], ['0']], Decimal.IsRun run := by
      simp only [List.forall_mem_cons]
      decide
    exact (read _ _).mpr ⟨[['0'], ['4', '7'], ['0']],
      ⟨[' '], ['v'], "-rc1".toList, [' '], by decide, blank, blank, by decide, starts⟩,
      areRuns, .inr (by decide)⟩
  · obtain ⟨app, laterApp, parsed, laterParsed, grown, -⟩ :=
      grows "0.45" "v0.47.1" ⟨0, 45, 0⟩ ⟨0, 47, 1⟩ (by decide) (by decide)
    exact ⟨app, laterApp, parsed, laterParsed, (grown (by decide)).1⟩
  · obtain ⟨accepted, made⟩ : versionNetwork.problems = []
        ∧ ((connect { versionNetwork with sdkVersion := some "0.47.0" } .background).run.run
          (.initial none)).1.toOption.isSome = true := by
      decide +kernel
    obtain ⟨builder, after, otherAfter, hinted, reported, -⟩ | ⟨fault, after, -, -, failed, -⟩ :=
      agree versionNetwork "0.47.0" .background (.initial none) .background
        (.initial (some versionNode)) rfl accepted reports_versionNetwork
    · exact ⟨builder, after, otherAfter, hinted, reported⟩
    · rw [Call.Fails] at failed
      rw [failed] at made
      cases made

end Builder

end ChainTx
