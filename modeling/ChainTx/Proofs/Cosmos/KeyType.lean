import Mathlib
import ChainTx.Proofs.Cosmos.Account
import ChainTx.Proofs.Cosmos.Building

/-!
Contract: the type of the key that an account stores, and the type that a build writes for it.

Owns:
- what an account object stores of its key: the URL of a type, and bytes in Base64;
- which stored keys are told: 33 bytes under a type whose name has the ending of usable keys;
- the signer that a build writes for a told key, and when its type is the stored one.

Does not own: which keys sign on the curve.

The ending decides and not the whole name, so that a key of another chain's own type is told, and
written as a key of the one type that builds write.
-/

set_option autoImplicit false

namespace ChainTx.Cosmos

namespace Account

variable {address : String} {account key : Json} {info : AccountInfo} {bytes : Bytes}

/-! ## Type names -/

/-- The name of a type: what stands behind the last slash of its URL. -/
def typeName (typeUrl : String) : String :=
  String.ofList (typeUrl.toList.reverse.takeWhile (· != '/')).reverse

/-- An ending without a slash is one of the name if it is one of the whole URL. -/
theorem isSuffix_typeName_iff
    {ending : List Char}
    (noSlash : ∀ char ∈ ending, (char != '/') = true)
    (typeUrl : String) :
    ending <:+ (typeName typeUrl).toList ↔ ending <:+ typeUrl.toList := by
  have turned : ending <:+ typeUrl.toList ↔ ending.reverse <+: typeUrl.toList.reverse :=
    List.reverse_prefix.symm
  rw [typeName, String.toList_ofList, ← List.reverse_prefix, List.reverse_reverse, turned]
  constructor
  · exact fun front => front.trans (List.takeWhile_prefix _)
  · rintro ⟨rest, parts⟩
    rw [← parts, List.takeWhile_append_of_pos
      fun char isIn => noSlash char (List.mem_reverse.mp isIn)]
    exact List.prefix_append _ _

/-! ## Stored keys -/

/-- What an account object stores of the key of its innermost account: the URL of its type, and its
bytes in Base64. -/
def StoresKey (account : Json) (typeUrl : String) (bytes : Bytes) : Prop :=
  ∃ key text,
    member? (unwrap wrapperLimit account) "pub_key" "pubKey" = some key
      ∧ key.get? "@type" = some (.string typeUrl)
      ∧ key.get? "key" = some (.string text)
      ∧ Base64.decode? text = some bytes

private theorem bind_string?_eq_some_iff
    {found : Option Json}
    {text : String} :
    found.bind Json.string? = some text ↔ found = some (.string text) := by
  rw [Option.bind_eq_some_iff]
  constructor
  · rintro ⟨value, rfl, isText⟩
    cases value <;> simp_all [Json.string?]
  · rintro rfl
    exact ⟨_, rfl, rfl⟩

private theorem keyBytes?_eq_some_iff :
    keyBytes? key = some bytes
      ↔ ∃ typeUrl text,
        key.get? "@type" = some (.string typeUrl)
          ∧ key.get? "key" = some (.string text)
          ∧ Base64.decode? text = some bytes
          ∧ keyTypeEnding <:+ typeUrl.toList
          ∧ bytes.length = 33 := by
  constructor
  · intro read
    simp only [keyBytes?] at read
    rw [Option.ite_none_right_eq_some, List.isSuffixOf_iff_suffix] at read
    obtain ⟨ends, read⟩ := read
    obtain ⟨text, textRead, read⟩ := Option.bind_eq_some_iff.mp read
    obtain ⟨decoded, decode, read⟩ := Option.bind_eq_some_iff.mp read
    rw [Option.ite_none_right_eq_some] at read
    obtain ⟨wide, ⟨⟩⟩ := read
    cases typeRead : (key.get? "@type").bind Json.string? with
    | none =>
        rw [typeRead] at ends
        exact absurd ends (by decide)
    | some typeUrl =>
        rw [typeRead, Option.getD_some] at ends
        exact ⟨typeUrl, text, bind_string?_eq_some_iff.mp typeRead,
          bind_string?_eq_some_iff.mp textRead, decode, ends, wide⟩
  · rintro ⟨typeUrl, text, typeRead, textRead, decode, ends, wide⟩
    have isSuffix := List.isSuffixOf_iff_suffix.mpr ends
    simp [keyBytes?, typeRead, textRead, Json.string?, isSuffix, decode, wide]

/-- A key is told if it is one of 33 bytes that is stored under a type whose name has the ending of
usable keys. -/
theorem publicKey_eq_some_iff
    (told : ofJson address account = .ok info) :
    info.publicKey = some bytes
      ↔ ∃ typeUrl,
        StoresKey account typeUrl bytes
          ∧ keyTypeEnding <:+ (typeName typeUrl).toList
          ∧ bytes.length = 33 := by
  have noSlash : ∀ char ∈ keyTypeEnding, (char != '/') = true := List.all_eq_true.mp (by decide)
  simp only [publicKey_of_ofJson told, Option.bind_eq_some_iff, keyBytes?_eq_some_iff, StoresKey,
    isSuffix_typeName_iff noSlash]
  constructor
  · rintro ⟨key, found, typeUrl, text, typeRead, textRead, decode, ends, wide⟩
    exact ⟨typeUrl, ⟨key, text, found, typeRead, textRead, decode⟩, ends, wide⟩
  · rintro ⟨typeUrl, ⟨key, text, found, typeRead, textRead, decode⟩, ends, wide⟩
    exact ⟨key, found, typeUrl, text, typeRead, textRead, decode, ends, wide⟩

/-! ## Reported accounts -/

/-- A node reports an account object in its answer to a request for an account. -/
def Reported (rest : RpcClient) (address : String) (before : Wire) (account : Json) : Prop :=
  ∃ url answer after body,
    Url.read (rest.urlFor (path address)) = .ok url
      ∧ Wire.Served url (.get (String.ofList url.target)) before answer after
      ∧ answer.isSuccess = true
      ∧ Json.read? answer.body = some body
      ∧ body.get? "account" = some account

private theorem ofReply_eq_ok_iff
    {reply : HttpReply} :
    ofReply address reply = .ok info
      ↔ reply.isSuccess = true
        ∧ ∃ body account,
          Json.read? reply.body = some body
            ∧ body.get? "account" = some account
            ∧ ofJson address account = .ok info := by
  rw [ofReply]
  by_cases missing : reply.status = 404
  · have refused : reply.isSuccess = false := by rw [HttpReply.isSuccess, missing]; rfl
    simp [missing, refused]
  · rw [if_neg missing]
    by_cases success : reply.isSuccess = true
    · rw [if_pos success]
      simp only [success, true_and]
      cases Json.read? reply.body with
      | none => simp
      | some body =>
          cases found : body.get? "account" <;> simp [found]
    · rw [if_neg success]
      simp [success]

/-- What a node tells is what it reports, read as an account. -/
theorem reported_of_told
    {rest : RpcClient}
    {before after : Wire}
    (told : Told rest address before info after) :
    ∃ account, Reported rest address before account ∧ ofJson address account = .ok info := by
  obtain ⟨url, answer, urlRead, served, read⟩ := told
  obtain ⟨success, body, account, bodyRead, found, accountRead⟩ := ofReply_eq_ok_iff.mp read
  exact ⟨account, ⟨url, answer, after, body, urlRead, served, success, bodyRead, found⟩, accountRead⟩

private theorem Reported.unique
    {rest : RpcClient}
    {before : Wire}
    {otherAccount : Json}
    (reported : Reported rest address before account)
    (other : Reported rest address before otherAccount) :
    account = otherAccount := by
  obtain ⟨url, answer, _, body, urlRead, served, -, bodyRead, found⟩ := reported
  obtain ⟨otherUrl, otherAnswer, _, otherBody, otherUrlRead, otherServed, -, otherBodyRead,
    otherFound⟩ := other
  cases urlRead.symm.trans otherUrlRead
  cases served.unique otherServed
  cases bodyRead.symm.trans otherBodyRead
  exact Option.some.inj (found.symm.trans otherFound)

end Account

namespace Builder

/-! ## The signer that a build writes -/

/-- A build returns what it puts together, once the request is prepared and the account resolved. -/
theorem returns_build_of_resolved
    {builder : Builder}
    {context : CallContext}
    {request : BuildRequest}
    {message : Message}
    {fee : List Coin}
    {info : AccountInfo}
    {before middle : CallState}
    (prepared : builder.prepare request = .ok (message, fee))
    (resolved : (Account.resolve builder.rest context request.sender).Returns before info middle) :
    ∃ after,
      (builder.build context request).Returns before (builder.assemble request message fee info)
        after := by
  -- Whether there is a key decides on a warning; with or without it, the same value is left.
  by_cases missing : (request.publicKey.or info.publicKey).isNone = true
  all_goals
    simp only [build, Call.returns_bind_iff, Call.returns_ofExcept_iff]
    constructor
    refine ⟨(message, fee), _, ⟨prepared, rfl⟩, info, middle, resolved, ?_⟩
    simp only [missing, Bool.false_eq_true, if_true, if_false, Call.returns_bind_iff,
      Call.returns_emit_iff, Call.returns_record_iff, Call.returns_pure_iff]
  · exact ⟨(), _, rfl, (), _, rfl, (), _, rfl, trivial, rfl⟩
  · exact ⟨(), _, rfl, (), _, rfl, trivial, rfl⟩

/-- A request without a key leaves a signer with the key that the node told, under the one type that
builds write. -/
theorem signer_of_returns_build
    {builder : Builder}
    {context : CallContext}
    {request : BuildRequest}
    {unsigned : UnsignedTx}
    {before after : CallState}
    (built : (builder.build context request).Returns before unsigned after)
    (unnamed : request.publicKey = none)
    (addressable : unsigned.txBytes.Addressable) :
    ∃ account info,
      Account.Reported builder.rest request.sender before.wire account
        ∧ Account.ofJson request.sender account = .ok info
        ∧ ∃ bodyBytes authInfoBytes authInfo signer,
          decodeTxRaw unsigned.txBytes = .ok ⟨bodyBytes, authInfoBytes, []⟩
            ∧ decodeAuthInfo authInfoBytes = .ok authInfo
            ∧ authInfo.signers = [signer]
            ∧ signer.publicKey
              = info.publicKey.map (fun key => ⟨publicKeyType, encodePublicKey key⟩)
            ∧ signer.publicKeyBytes = .ok info.publicKey := by
  obtain ⟨message, fee, info, parts, assembled⟩ := assembled_of_returns_build built
  obtain ⟨account, reported, accountRead⟩ := Account.reported_of_told assembled.told
  have bytesEq := assembled.bytesEq
  have sized := addressable.sized
  rw [bytesEq] at sized
  have publicKey : parts.publicKey = info.publicKey := by
    rw [assembled.partsEq, Builder.parts, unnamed, Option.none_or]
  refine ⟨account, info, reported, accountRead, _, _, parts.authInfo, parts.signer,
    bytesEq ▸ TxParts.decodeTxRaw_txRawBytes sized, TxParts.decodeAuthInfo_encode sized, rfl, ?_, ?_⟩
  · rw [TxParts.signer, publicKey]
  · rw [TxParts.publicKeyBytes_signer sized, publicKey]

/-- A key is told exactly if it has 33 bytes and is stored under a type whose name ends as the names of
usable types do. A build for a request without a key writes the bytes of that key into its signer,
under the type of keys on the curve; and that is the stored type exactly if the stored type has the
name of those keys. -/
theorem written_type_eq_stored_iff
    {address : String}
    {account : Json}
    {info : AccountInfo}
    (told : Account.ofJson address account = .ok info) :
    (∀ key,
        info.publicKey = some key
          ↔ ∃ typeUrl,
            Account.StoresKey account typeUrl key
              ∧ "secp256k1.PubKey".toList <:+ (Account.typeName typeUrl).toList
              ∧ key.length = 33)
      ∧ ∀ key typeUrl,
        info.publicKey = some key →
        Account.StoresKey account typeUrl key →
        ∀ (builder : Builder) context request unsigned before after,
          (builder.build context request).Returns before unsigned after →
          request.sender = address →
          request.publicKey = none →
          Account.Reported builder.rest address before.wire account →
          unsigned.txBytes.Addressable →
            ∃ bodyBytes authInfoBytes authInfo signer written,
              decodeTxRaw unsigned.txBytes = .ok ⟨bodyBytes, authInfoBytes, []⟩
                ∧ decodeAuthInfo authInfoBytes = .ok authInfo
                ∧ authInfo.signers = [signer]
                ∧ signer.publicKey = some written
                ∧ signer.publicKeyBytes = .ok (some key)
                ∧ written.typeUrl = "/cosmos.crypto.secp256k1.PubKey"
                ∧ (Account.typeName written.typeUrl = Account.typeName typeUrl
                  ↔ Account.typeName typeUrl = "cosmos.crypto.secp256k1.PubKey") := by
  refine ⟨fun key => Account.publicKey_eq_some_iff told, ?_⟩
  intro key typeUrl usable _ builder context request unsigned before after built sender unnamed
    reported addressable
  obtain ⟨other, otherInfo, otherReported, otherTold, bodyBytes, authInfoBytes, authInfo, signer,
    rawRead, infoRead, single, written, keyRead⟩ :=
    signer_of_returns_build built unnamed addressable
  rw [sender] at otherReported otherTold
  cases reported.unique otherReported
  cases Except.ok.inj (told.symm.trans otherTold)
  rw [usable] at written keyRead
  have name : Account.typeName publicKeyType = "cosmos.crypto.secp256k1.PubKey" := by decide
  exact ⟨bodyBytes, authInfoBytes, authInfo, signer, _, rawRead, infoRead, single, written, keyRead,
    rfl, name ▸ eq_comm⟩

/-! ### A key of another type -/

def sampleKeyBytes : Bytes :=
  List.replicate 33 2

/-- An account object that stores a key under a type. -/
def sampleAccount (typeUrl : String) : Json :=
  .object
    [("account_number", .string "7"),
      ("pub_key",
        .object
          [("@type", .string typeUrl),
            ("key", .string "AgICAgICAgICAgICAgICAgICAgICAgICAgICAgICAgIC")]),
      ("sequence", .string "3")]

/-- A type that another chain has for its own keys. -/
def foreignType : String :=
  "/ethermint.crypto.v1.ethsecp256k1.PubKey"

/-- What a node of that chain answers. -/
def foreignReply : HttpReply where
  status := 200
  body :=
    "\x7b\"account\":\x7b\"account_number\":\"7\",\"sequence\":\"3\",\"pub_key\":\x7b\"@type\":"
      ++ "\"/ethermint.crypto.v1.ethsecp256k1.PubKey\","
      ++ "\"key\":\"AgICAgICAgICAgICAgICAgICAgICAgICAgICAgICAgIC\"\x7d\x7d\x7d"

def foreignNode : Node where
  host := .name ['n']
  port := none
  replies :=
    [("GET /cosmos/auth/v1beta1/accounts/c1qytrhlvr",
      [⟨0, .answer foreignReply.status foreignReply.body⟩])]

/-- What the account comes to. -/
def foreignInfo : AccountInfo :=
  ⟨"c1qytrhlvr", 7, 3, some sampleKeyBytes⟩

private theorem ofJson_foreign :
    Account.ofJson "c1qytrhlvr" (sampleAccount foreignType) = .ok foreignInfo := by
  cbv

private theorem storesKey_sampleAccount (typeUrl : String) :
    Account.StoresKey (sampleAccount typeUrl) typeUrl sampleKeyBytes :=
  ⟨_, _, rfl, rfl, rfl, rfl⟩

private theorem read_foreignReply :
    Json.read? foreignReply.body = some (.object [("account", sampleAccount foreignType)]) := by
  -- The characters are taken out of the three literals: to decode their bytes takes long.
  have chars : foreignReply.body.toList = _ :=
    String.toList_append.trans (congrArg₂ _
      (String.toList_append.trans (congrArg₂ _ String.toList_ofList String.toList_ofList))
      String.toList_ofList)
  rw [Json.read?, Json.readRaw?, Json.readKnown?, Json.Source.read?, chars]
  cbv

/-- What the client gets from that node, and how long the transaction is that the request comes to with
that account. -/
theorem ran_foreign :
    ((sampleBuilder.rest.get .background "account query" (Account.path "c1qytrhlvr")).run.run
        (.initial (some foreignNode))).1.toOption = some foreignReply
      ∧ ((sampleBuilder.prepare sampleRequest).toOption.map fun (parsed : Message × List Coin) =>
          (sampleBuilder.assemble sampleRequest parsed.1 parsed.2 foreignInfo).txBytes.length)
        = some 136 := by
  decide +kernel

private theorem returns_get_foreign :
    ∃ after,
      (sampleBuilder.rest.get .background "account query" (Account.path "c1qytrhlvr")).Returns
        (.initial (some foreignNode)) foreignReply after :=
  Call.returns_of_toOption ran_foreign.1

private theorem reported_foreign :
    Account.Reported sampleBuilder.rest "c1qytrhlvr" (CallState.initial (some foreignNode)).wire
      (sampleAccount foreignType) := by
  obtain ⟨after, returned⟩ := returns_get_foreign
  obtain ⟨url, urlRead, served⟩ := RpcClient.served_of_returns_get returned
  exact ⟨url, foreignReply, after.wire, _, urlRead, served, rfl, read_foreignReply, rfl⟩

theorem returns_resolve_foreign :
    ∃ after,
      (Account.resolve sampleBuilder.rest .background "c1qytrhlvr").Returns
        (.initial (some foreignNode)) foreignInfo after := by
  obtain ⟨middle, returned⟩ := returns_get_foreign
  have read : Account.ofReply "c1qytrhlvr" foreignReply = .ok foreignInfo :=
    Account.ofReply_eq_ok_iff.mpr ⟨rfl, _, _, read_foreignReply, rfl, ofJson_foreign⟩
  simp only [Account.resolve, Call.returns_bind_iff, Call.returns_ofExcept_iff,
    Call.returns_emit_iff, Call.returns_pure_iff]
  exact ⟨_, foreignReply, middle, returned, foreignInfo, middle, ⟨read, rfl⟩, (), _, rfl, rfl, rfl⟩

private theorem returns_build_foreign :
    ∃ unsigned after,
      (sampleBuilder.build .background sampleRequest).Returns (.initial (some foreignNode)) unsigned
          after
        ∧ unsigned.txBytes.Addressable := by
  obtain ⟨⟨message, fee⟩, prepared, length⟩ := Option.map_eq_some_iff.mp ran_foreign.2
  have addressable :
      (sampleBuilder.assemble sampleRequest message fee foreignInfo).txBytes.Addressable := by
    rw [Bytes.Addressable, length]
    decide
  obtain ⟨middle, resolved⟩ := returns_resolve_foreign
  obtain ⟨after, built⟩ := returns_build_of_resolved (eq_ok_of_toOption prepared) resolved
  exact ⟨_, after, built, addressable⟩

/-- The key of the other type is written under another type than the one it is stored under. -/
theorem written_type_of_foreign :
    ∃ unsigned after bodyBytes authInfoBytes authInfo signer written,
      (sampleBuilder.build .background sampleRequest).Returns (.initial (some foreignNode)) unsigned
          after
        ∧ decodeTxRaw unsigned.txBytes = .ok ⟨bodyBytes, authInfoBytes, []⟩
        ∧ decodeAuthInfo authInfoBytes = .ok authInfo
        ∧ authInfo.signers = [signer]
        ∧ signer.publicKey = some written
        ∧ Account.typeName written.typeUrl ≠ Account.typeName foreignType := by
  obtain ⟨unsigned, after, built, addressable⟩ := returns_build_foreign
  obtain ⟨-, writes⟩ := written_type_eq_stored_iff ofJson_foreign
  obtain ⟨bodyBytes, authInfoBytes, authInfo, signer, written, rawRead, infoRead, single, named, -, -,
    sameType⟩ :=
    writes sampleKeyBytes foreignType rfl (storesKey_sampleAccount foreignType) sampleBuilder
      .background sampleRequest unsigned _ after built rfl rfl reported_foreign addressable
  refine ⟨unsigned, after, bodyBytes, authInfoBytes, authInfo, signer, written, built, rawRead,
    infoRead, single, named, fun same => ?_⟩
  exact absurd (sameType.mp same) (by decide)

/-- The account of another chain has a key of that chain's own type; the key is told, and a build
writes it as a key of the usual type. -/
theorem told_key_of_foreign_type :
    ∃ info unsigned after bodyBytes authInfoBytes authInfo signer,
      Account.ofJson "c1qytrhlvr" (sampleAccount foreignType) = .ok info
        ∧ info.publicKey = some sampleKeyBytes
        ∧ Account.StoresKey (sampleAccount foreignType) foreignType sampleKeyBytes
        ∧ Account.typeName foreignType = "ethermint.crypto.v1.ethsecp256k1.PubKey"
        ∧ Account.Reported sampleBuilder.rest sampleRequest.sender
          (CallState.initial (some foreignNode)).wire (sampleAccount foreignType)
        ∧ (sampleBuilder.build .background sampleRequest).Returns (.initial (some foreignNode))
          unsigned after
        ∧ decodeTxRaw unsigned.txBytes = .ok ⟨bodyBytes, authInfoBytes, []⟩
        ∧ decodeAuthInfo authInfoBytes = .ok authInfo
        ∧ authInfo.signers = [signer]
        ∧ signer.publicKey
          = some ⟨"/cosmos.crypto.secp256k1.PubKey", encodePublicKey sampleKeyBytes⟩ := by
  obtain ⟨unsigned, after, built, addressable⟩ := returns_build_foreign
  obtain ⟨account, info, reported, told, bodyBytes, authInfoBytes, authInfo, signer, rawRead, infoRead,
    single, written, -⟩ :=
    signer_of_returns_build built rfl addressable
  cases reported.unique reported_foreign
  cases Except.ok.inj (told.symm.trans ofJson_foreign)
  exact ⟨_, unsigned, after, bodyBytes, authInfoBytes, authInfo, signer, told, rfl,
    storesKey_sampleAccount foreignType, by decide, reported, built, rawRead, infoRead, single,
    written⟩

end Builder

end ChainTx.Cosmos
