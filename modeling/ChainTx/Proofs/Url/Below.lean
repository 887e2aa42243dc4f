import ChainTx.Call.RpcClient
import ChainTx.Cosmos.Account
import ChainTx.Proofs.Url.Authority
import Mathlib.Data.List.DropRight
import Mathlib.Data.List.Induction

/-!
Contract: URLs below an endpoint.

Owns:
- what every endpoint is like, whatever text it was read from;
- that the text of a URL below it is read as one with its scheme, credentials, host and port;
- when the path of that URL is the endpoint's path with the requested one behind it, and what it is
  otherwise.

Does not own: the requests that go there.
-/

set_option autoImplicit false

namespace ChainTx

namespace Url

/-! ## Web URLs -/

/-- A URL over HTTP as it is read. -/
structure IsWeb (url : Url) : Prop where
  scheme : url.scheme = "http".toList ∨ url.scheme = "https".toList
  authority : ∃ authority,
    url.authority = some authority ∧ authority.IsWeb (webPort url.scheme)
  path : ∃ segments,
    segments ≠ [] ∧ (∀ segment ∈ segments, IsSettled segment) ∧ url.path = joinPath segments
  query : ∀ query, url.query = some query → ∀ char ∈ query, 0x20 < char.toNat
  fragment : ∀ fragment, url.fragment = some fragment → ∀ char ∈ fragment, 0x20 < char.toNat

/-- An encoded text is visible if controls and spaces are encoded. -/
theorem visible_of_mem_encode
    {inSet : Char → Bool}
    (hidden : ∀ char, Percent.isControl char = true → inSet char = true)
    (each : ∀ point : Fin 128, inSet (Char.ofNat point.val) = false →
      0x20 < (Char.ofNat point.val).toNat)
    (escapes : "%0123456789ABCDEF".toList.any inSet = false)
    {text : List Char}
    {char : Char}
    (isIn : char ∈ Percent.encode inSet text) :
    0x20 < char.toNat := by
  have outside := not_inSet_of_mem_encode escapes isIn
  have ascii : char.toNat < 128 := by
    have shown : ¬Percent.isControl char = true := fun control => by
      rw [hidden char control] at outside
      cases outside
    simp only [Percent.isControl, Bool.or_eq_true, decide_eq_true_eq] at shown
    omega
  exact of_ascii (fun char => inSet char = false → 0x20 < char.toNat) each ascii outside

private theorem visible_of_splitFragment
    {text fragment : List Char}
    (found : (splitFragment text).2 = some fragment) :
    ∀ char ∈ fragment, 0x20 < char.toNat := by
  unfold splitFragment at found
  split at found
  · cases found
    intro char isIn
    refine visible_of_mem_encode (fun char control => ?_) (by decide) (by decide) isIn
    rw [Percent.inFragmentSet, control, Bool.true_or]
  · cases found

private theorem visible_of_splitQuery
    {text query : List Char}
    (found : (splitQuery text).2 = some query) :
    ∀ char ∈ query, 0x20 < char.toNat := by
  unfold splitQuery at found
  split at found
  · cases found
    intro char isIn
    refine visible_of_mem_encode (fun char control => ?_) (by decide) (by decide) isIn
    rw [Percent.inQuerySet, control, Bool.true_or]
  · cases found

private theorem isWeb_of_readHierarchical
    {scheme text : List Char}
    {url : Url}
    (web : scheme = "http".toList ∨ scheme = "https".toList)
    (ok : readHierarchical scheme (.special (webPort scheme)) text = .ok url) :
    url.IsWeb := by
  unfold readHierarchical at ok
  simp only at ok
  obtain ⟨authority, authorityRead, ok⟩ := bind_eq_ok_iff.mp ok
  cases ok
  refine ⟨web, ⟨authority, rfl, isWeb_of_readAuthority authorityRead⟩, ?_,
    fun _ => visible_of_splitQuery, fun _ => visible_of_splitFragment⟩
  simp only [SchemeKind.isSpecial, Bool.not_true, Bool.and_false]
  exact exists_settled_of_readPath _ _

private theorem scheme_of_readHierarchical
    {scheme text : List Char}
    {kind : SchemeKind}
    {url : Url}
    (ok : readHierarchical scheme kind text = .ok url) :
    url.scheme = scheme := by
  unfold readHierarchical at ok
  obtain ⟨authority, -, ok⟩ := bind_eq_ok_iff.mp ok
  cases ok
  rfl

private theorem scheme_of_readOther
    {scheme text : List Char}
    {url : Url}
    (ok : readOther scheme text = .ok url) :
    url.scheme = scheme := by
  unfold readOther at ok
  split at ok
  · exact scheme_of_readHierarchical ok
  · cases ok
    rfl

private theorem scheme_of_readFile
    {scheme text : List Char}
    {url : Url}
    (ok : readFile scheme text = .ok url) :
    url.scheme = scheme := by
  unfold readFile at ok
  simp only at ok
  split at ok
  · cases ok
    rfl
  · obtain ⟨host, -, ok⟩ := bind_eq_ok_iff.mp ok
    cases ok
    rfl

private theorem isWeb_of_read
    {text : String}
    {url : Url}
    (web : url.scheme = "http".toList ∨ url.scheme = "https".toList)
    (ok : read text = .ok url) :
    url.IsWeb := by
  unfold read at ok
  split at ok
  · cases ok
  · rename_i scheme rest _
    have same : url.scheme = scheme := by
      split at ok
      · exact scheme_of_readFile ok
      · exact scheme_of_readHierarchical ok
      · exact scheme_of_readOther ok
    rw [same] at web
    have kind : SchemeKind.ofScheme scheme = .special (webPort scheme) := by
      rcases web with rfl | rfl
      · decide
      · decide
    rw [kind] at ok
    exact isWeb_of_readHierarchical web ok

/-- The query and the fragment with their marks, as they stand behind a path. -/
def tail (url : Url) : List Char :=
  (match url.query with
    | some query => '?' :: query
    | none => [])
  ++ match url.fragment with
    | some fragment => '#' :: fragment
    | none => []

theorem tail_eq_nil_iff {url : Url} :
    url.tail = [] ↔ url.query = none ∧ url.fragment = none := by
  rcases url with ⟨scheme, authority, path, _ | query, _ | fragment⟩ <;> simp [tail]

private theorem isTail_tail (url : Url) :
    IsTail url.tail := by
  rcases url with ⟨scheme, authority, path, _ | query, _ | fragment⟩
  · exact isTail_nil
  · rintro _ ⟨⟩
    exact .inr rfl
  · rintro _ ⟨⟩
    exact .inl rfl
  · rintro _ ⟨⟩
    exact .inl rfl

private theorem IsWeb.visible_tail
    {url : Url}
    (isWeb : url.IsWeb) :
    ∀ char ∈ url.tail, 0x20 < char.toNat := by
  obtain ⟨-, -, -, queryVisible, fragmentVisible⟩ := isWeb
  rw [tail, List.forall_mem_append]
  constructor
  · split
    · rename_i query found
      exact List.forall_mem_cons.mpr ⟨by decide, queryVisible query found⟩
    · exact List.forall_mem_nil _
  · split
    · rename_i fragment found
      exact List.forall_mem_cons.mpr ⟨by decide, fragmentVisible fragment found⟩
    · exact List.forall_mem_nil _

private theorem chars_eq
    {url : Url}
    {authority : Authority}
    (hosted : url.authority = some authority) :
    url.chars = url.scheme ++ "://".toList ++ authority.chars ++ (url.path ++ url.tail) := by
  rcases url with ⟨scheme, _, path, _ | query, _ | fragment⟩ <;>
    cases hosted <;> simp [chars, target, tail]

/-- The text of a web authority, a path of settled segments and what follows is read as them. -/
theorem read_of_isWeb
    {scheme : List Char}
    {authority : Authority}
    {segments : List (List Char)}
    {tail : List Char}
    (web : scheme = "http".toList ∨ scheme = "https".toList)
    (isWeb : authority.IsWeb (webPort scheme))
    (nonempty : segments ≠ [])
    (settled : ∀ segment ∈ segments, IsSettled segment)
    (isTail : IsTail tail)
    (visible : ∀ char ∈ tail, 0x20 < char.toNat) :
    read (String.ofList (scheme ++ "://".toList ++ authority.chars ++ (joinPath segments ++ tail)))
      = .ok ⟨scheme, some authority, joinPath segments, (splitQuery (splitFragment tail).1).2,
        (splitFragment tail).2⟩ := by
  rw [read_append web isWeb.chars.1 isWeb.chars.2 nonempty settled isTail visible,
    readAuthority_chars isWeb]
  rfl

end Url

namespace Endpoint

theorem isWeb_of_parse
    {text : String}
    {endpoint : Url}
    (accepted : parse text = .ok endpoint) :
    endpoint.IsWeb := by
  unfold parse at accepted
  split at accepted
  · cases accepted
  · split at accepted
    · cases accepted
    · rename_i url read
      simp only at accepted
      split at accepted
      · rename_i web
        cases accepted
        refine Url.isWeb_of_read ?_ read
        exact web.imp (fun named => String.ofList_injective named)
          fun named => String.ofList_injective named
      · cases accepted

/-! ## Slashes at the end -/

private theorem dropSlashesRight_append
    {front : List Char}
    (ends : ∀ char ∈ front.getLast?, char ≠ '/')
    (back : List Char) :
    dropSlashesRight (front ++ back) = front ++ dropSlashesRight back :=
  rdropWhile_append (fun char isLast => beq_eq_false_iff_ne.mpr (ends char isLast)) back

/-- What is dropped at the end is slashes. -/
theorem exists_eq_dropSlashesRight_append (chars : List Char) :
    ∃ slashes, chars = dropSlashesRight chars ++ slashes ∧ ∀ char ∈ slashes, char = '/' :=
  ⟨chars.rtakeWhile (· == '/'), List.rdropWhile_append_rtakeWhile.symm, fun char isIn => by
    simpa using List.mem_rtakeWhile_imp isIn⟩

/-- Without slashes at its end a path has the same segments, or fewer of them. -/
theorem exists_dropSlashesRight_joinPath
    {segments : List (List Char)}
    (noSlash : ∀ segment ∈ segments, '/' ∉ segment) :
    ∃ kept, dropSlashesRight (Url.joinPath segments) = Url.joinPath kept
      ∧ ∀ segment ∈ kept, segment ∈ segments := by
  induction segments using List.reverseRecOn with
  | nil => exact ⟨[], rfl, fun _ isIn => isIn⟩
  | append_singleton front last inductionHypothesis =>
      have ⟨frontNoSlash, lastNoSlash⟩ := List.forall_mem_append.mp noSlash
      have whole : Url.joinPath (front ++ [last]) = Url.joinPath front ++ '/' :: last := by
        simp [Url.joinPath]
      by_cases empty : last = []
      · obtain ⟨kept, same, within⟩ := inductionHypothesis frontNoSlash
        refine ⟨kept, ?_, fun segment isIn => List.mem_append_left _ (within segment isIn)⟩
        rw [whole, empty, ← same, dropSlashesRight, List.reverse_append]
        rfl
      · refine ⟨front ++ [last], ?_, fun _ isIn => isIn⟩
        have ends : ∀ char ∈ (Url.joinPath (front ++ [last])).getLast?, char ≠ '/' := by
          intro char isLast
          rw [whole, List.append_cons, List.getLast?_append, List.getLast?_eq_some_getLast empty]
            at isLast
          cases isLast
          exact ne_of_mem_of_not_mem (List.getLast_mem empty)
            (lastNoSlash last List.mem_cons_self)
        have kept := dropSlashesRight_append ends []
        rw [List.append_nil] at kept
        exact kept.trans (List.append_nil _)

end Endpoint

/-! ## Paths that are asked for -/

namespace Cosmos.Account

/-- The segments of the query for an account, the first one apart. -/
def pathRest (address : String) : List (List Char) :=
  ["auth".toList, "v1beta1".toList, "accounts".toList, address.toList]

private theorem toList_path (address : String) :
    (path address).toList = "cosmos".toList ++ Url.joinPath (pathRest address) := by
  have front : "cosmos/auth/v1beta1/accounts/".toList
      = "cosmos".toList
        ++ Url.joinPath ["auth".toList, "v1beta1".toList, "accounts".toList, []] := by
    decide
  have whole : path address = "cosmos/auth/v1beta1/accounts/" ++ address := rfl
  simp only [whole, String.toList_append, front, pathRest, Url.joinPath]
  simp

private theorem settled_pathRest
    {address : String}
    (settled : Url.IsSettled address.toList) :
    ∀ segment ∈ "cosmos".toList :: pathRest address, Url.IsSettled segment := by
  have plain {segment : List Char} (all : segment.all Url.isPlain = true) :
      Url.IsSettled segment :=
    Url.IsPlainSegment.isSettled (List.all_eq_true.mp all)
  simp only [pathRest, List.forall_mem_cons]
  exact ⟨plain (by decide), plain (by decide), plain (by decide), plain (by decide), settled,
    List.forall_mem_nil _⟩

end Cosmos.Account

namespace Endpoint

/-- The path of an endpoint without slashes at its end, and behind one slash a path without slashes
in front. -/
def pathBelow (endpoint : Url) (path : String) : List Char :=
  endpoint.path.rdropWhile (· == '/') ++ '/' :: path.toList.dropWhile (· == '/')

/-- Settled segments that a path consists of, slashes in front of it apart. -/
structure Consists (path : String) (first : List Char) (rest : List (List Char)) : Prop where
  nonempty : first ≠ []
  settled : ∀ segment ∈ first :: rest, Url.IsSettled segment
  behindSlashes : path.toList.dropWhile (· == '/') = first ++ Url.joinPath rest

variable {endpoint : Url} {path : String} {first : List Char} {rest : List (List Char)}

theorem consists_account
    {address : String}
    (settled : Url.IsSettled address.toList) :
    Consists (Cosmos.Account.path address) "cosmos".toList (Cosmos.Account.pathRest address) where
  nonempty := by decide
  settled := Cosmos.Account.settled_pathRest settled
  behindSlashes := by
    rw [Cosmos.Account.toList_path]
    rfl

/-- Below an endpoint without a query and a fragment the paths are joined. -/
theorem read_below_of_bare
    (isWeb : endpoint.IsWeb)
    (consists : Consists path first rest)
    (bare : endpoint.tail = []) :
    Url.read (below endpoint path)
      = .ok ⟨endpoint.scheme, endpoint.authority, pathBelow endpoint path, none, none⟩ := by
  obtain ⟨authority, hosted, authorityWeb⟩ := isWeb.authority
  obtain ⟨segments, -, settled, pathIs⟩ := isWeb.path
  obtain ⟨kept, dropped, within⟩ := exists_dropSlashesRight_joinPath
    fun segment isIn inSegment => ((settled segment isIn).noSlash '/' inSegment).1 rfl
  have ends : ∀ char ∈ (endpoint.scheme ++ "://".toList ++ authority.chars).getLast?,
      char ≠ '/' := by
    intro char isLast
    obtain ⟨nonempty, inAuthority⟩ := authorityWeb.chars
    rw [List.getLast?_append, List.getLast?_eq_some_getLast nonempty] at isLast
    cases isLast
    exact (Url.isInAuthority_iff.mp (inAuthority _ (List.getLast_mem nonempty))).2.1
  have joined : pathBelow endpoint path = Url.joinPath (kept ++ first :: rest) := by
    change dropSlashesRight endpoint.path ++ _ = _
    rw [pathIs, dropped, consists.behindSlashes, Url.joinPath, Url.joinPath, Url.joinPath,
      List.flatMap_append, List.flatMap_cons]
    rfl
  have joinedSettled : ∀ segment ∈ kept ++ first :: rest, Url.IsSettled segment :=
    List.forall_mem_append.mpr
      ⟨fun segment isIn => settled segment (within segment isIn), consists.settled⟩
  have read := Url.read_of_isWeb isWeb.scheme authorityWeb (by simp) joinedSettled Url.isTail_nil
    (List.forall_mem_nil _)
  rw [List.append_nil, ← joined, ← hosted, pathBelow, ← List.append_assoc] at read
  rw [below, Url.chars_eq hosted, bare, List.append_nil, dropSlashesRight_append ends]
  exact read

/-- Below an endpoint with a query or a fragment the requested path is no part of the path. -/
theorem read_below_of_tail
    (isWeb : endpoint.IsWeb)
    (consists : Consists path first rest)
    (marked : endpoint.tail ≠ []) :
    ∃ query fragment, Url.read (below endpoint path)
      = .ok ⟨endpoint.scheme, endpoint.authority, endpoint.path, query, fragment⟩ := by
  obtain ⟨authority, hosted, authorityWeb⟩ := isWeb.authority
  obtain ⟨segments, nonempty, settled, pathIs⟩ := isWeb.path
  obtain ⟨mark, others, tailIs⟩ := List.exists_cons_of_ne_nil marked
  obtain ⟨slashes, parts, -⟩ := exists_eq_dropSlashesRight_append others
  -- The mark is no slash, so what is trimmed lies behind it and the path in front stays whole.
  have isMark : mark = '?' ∨ mark = '#' :=
    endpoint.isTail_tail mark (by rw [tailIs]; rfl)
  have ends : ∀ char ∈ (endpoint.scheme ++ "://".toList ++ authority.chars
      ++ (endpoint.path ++ [mark])).getLast?, char ≠ '/' := by
    intro char isLast
    rw [← List.append_assoc, List.getLast?_concat] at isLast
    cases isLast
    rcases isMark with rfl | rfl
    · decide
    · decide
  have text : dropSlashesRight endpoint.chars ++ '/' :: path.toList.dropWhile (· == '/')
      = endpoint.scheme ++ "://".toList ++ authority.chars ++ (Url.joinPath segments
        ++ (mark :: (dropSlashesRight others ++ Url.joinPath (first :: rest)))) := by
    have whole : endpoint.chars = endpoint.scheme ++ "://".toList ++ authority.chars
        ++ (endpoint.path ++ [mark]) ++ others := by
      rw [Url.chars_eq hosted, tailIs]
      simp
    rw [whole, dropSlashesRight_append ends, consists.behindSlashes, pathIs]
    simp [Url.joinPath]
  have isTail : Url.IsTail (mark :: (dropSlashesRight others ++ Url.joinPath (first :: rest))) := by
    rintro _ ⟨⟩
    exact isMark
  have visible : ∀ char ∈ mark :: (dropSlashesRight others ++ Url.joinPath (first :: rest)),
      0x20 < char.toNat := by
    have tailVisible := isWeb.visible_tail
    rw [tailIs] at tailVisible
    obtain ⟨markVisible, othersVisible⟩ := List.forall_mem_cons.mp tailVisible
    refine List.forall_mem_cons.mpr ⟨markVisible, List.forall_mem_append.mpr ⟨?_, ?_⟩⟩
    · intro char isIn
      refine othersVisible char ?_
      rw [parts]
      exact List.mem_append_left _ isIn
    · exact fun char isIn => (Url.of_mem_joinPath consists.settled isIn).1
  have read := Url.read_of_isWeb isWeb.scheme authorityWeb nonempty settled isTail visible
  rw [← pathIs, ← hosted] at read
  rw [below, text, ← pathIs]
  exact ⟨_, _, read⟩

private theorem pathBelow_ne_path
    (consists : Consists path first rest) :
    pathBelow endpoint path ≠ endpoint.path := by
  intro same
  obtain ⟨slashes, parts, areSlashes⟩ := exists_eq_dropSlashesRight_append endpoint.path
  have behind : '/' :: path.toList.dropWhile (· == '/') = slashes :=
    List.append_cancel_left (same.trans parts)
  obtain ⟨char, others, rfl⟩ := List.exists_cons_of_ne_nil consists.nonempty
  have isSlash : char = '/' := by
    refine areSlashes char ?_
    rw [← behind, consists.behindSlashes]
    simp
  exact ((consists.settled _ List.mem_cons_self).noSlash char List.mem_cons_self).1 isSlash

/-- The paths of queries: what the node says of itself, and accounts whose addresses are letters and
digits. -/
inductive IsAskedFor : String → Prop where
  | nodeInfo : IsAskedFor "abci_info"
  | account {address : String}
      (alphanumeric : ∀ char ∈ address.toList, char.isAlphanum = true) :
      IsAskedFor (Cosmos.Account.path address)

private theorem IsAskedFor.exists_consists
    (asked : IsAskedFor path) :
    ∃ first rest, Consists path first rest := by
  cases asked with
  | nodeInfo =>
      have plain : Url.IsPlainSegment "abci_info".toList := List.all_eq_true.mp (by decide)
      exact ⟨"abci_info".toList, [], by decide, List.forall_mem_singleton.mpr plain.isSettled,
        by decide⟩
  | account alphanumeric =>
      refine ⟨_, _, consists_account (Url.IsPlainSegment.isSettled fun char isIn => ?_)⟩
      rw [Url.isPlain, alphanumeric char isIn]
      rfl

end Endpoint

namespace RpcClient

open Endpoint (IsAskedFor pathBelow)

/-- Whatever text an endpoint was read from, the text of a URL below it is a URL with its scheme,
credentials, host and port. The requested path stands behind the endpoint's path exactly if the
endpoint has neither a query nor a fragment; otherwise it becomes part of these, and the path is the
endpoint's own. -/
theorem path_of_urlFor_iff
    {text path : String}
    {client : RpcClient}
    (accepted : Endpoint.parse text = .ok client.endpoint)
    (asked : IsAskedFor path) :
    ∃ url, Url.read (client.urlFor path) = .ok url
      ∧ url.scheme = client.endpoint.scheme
      ∧ url.authority = client.endpoint.authority
      ∧ (url.path = pathBelow client.endpoint path
        ↔ client.endpoint.query = none ∧ client.endpoint.fragment = none)
      ∧ (url.path ≠ pathBelow client.endpoint path → url.path = client.endpoint.path) := by
  have isWeb := Endpoint.isWeb_of_parse accepted
  obtain ⟨first, rest, consists⟩ := asked.exists_consists
  rw [← Url.tail_eq_nil_iff]
  by_cases bare : client.endpoint.tail = []
  · exact ⟨_, Endpoint.read_below_of_bare isWeb consists bare, rfl, rfl, iff_of_true rfl bare,
      fun other => absurd rfl other⟩
  · obtain ⟨query, fragment, read⟩ := Endpoint.read_below_of_tail isWeb consists bare
    exact ⟨_, read, rfl, rfl, iff_of_false (Endpoint.pathBelow_ne_path consists).symm bare,
      fun _ => rfl⟩

/-- A client of an endpoint with credentials, a port and a path that ends in slashes. -/
def credentialedClient : RpcClient where
  endpoint :=
    { scheme := "https".toList
      authority := some ⟨"user".toList, "pw".toList, .ipv6 [0x2001, 0xdb8, 0, 0, 0, 0, 0, 1],
        some 8443⟩
      path := "/node//".toList
      query := none
      fragment := none }
  requestTimeout := .ofSeconds 1

theorem path_of_urlFor_credentialedClient :
    Endpoint.parse "https://user:pw@[2001:db8::1]:8443/node//" = .ok credentialedClient.endpoint
      ∧ IsAskedFor (Cosmos.Account.path "cosmos1q")
      ∧ ∃ url, Url.read (credentialedClient.urlFor (Cosmos.Account.path "cosmos1q")) = .ok url
        ∧ url.scheme = credentialedClient.endpoint.scheme
        ∧ url.authority = credentialedClient.endpoint.authority
        ∧ url.path = "/node/cosmos/auth/v1beta1/accounts/cosmos1q".toList := by
  have accepted : Endpoint.parse "https://user:pw@[2001:db8::1]:8443/node//"
      = .ok credentialedClient.endpoint :=
    eq_ok_of_toOption (by decide +kernel)
  have asked : IsAskedFor (Cosmos.Account.path "cosmos1q") :=
    .account (List.all_eq_true.mp (by decide))
  obtain ⟨url, read, scheme, authority, joined, -⟩ := path_of_urlFor_iff accepted asked
  exact ⟨accepted, asked, url, read, scheme, authority, joined.mpr ⟨rfl, rfl⟩⟩

/-- A client of an endpoint with a query. -/
def queryingClient : RpcClient where
  endpoint :=
    { scheme := "http".toList
      authority := some ⟨[], [], .name "h".toList, none⟩
      path := "/".toList
      query := some "q=1".toList
      fragment := none }
  requestTimeout := .ofSeconds 1

/-- The path of a query is put behind the query of the endpoint, and so into it. -/
theorem path_lost_of_queryingClient :
    Endpoint.parse "http://h?q=1" = .ok queryingClient.endpoint
      ∧ IsAskedFor "abci_info"
      ∧ queryingClient.urlFor "abci_info" = "http://h/?q=1/abci_info"
      ∧ ¬∃ url, Url.read (queryingClient.urlFor "abci_info") = .ok url
        ∧ url.path = pathBelow queryingClient.endpoint "abci_info" := by
  have accepted : Endpoint.parse "http://h?q=1" = .ok queryingClient.endpoint :=
    eq_ok_of_toOption (by decide +kernel)
  have text : queryingClient.urlFor "abci_info" = "http://h/?q=1/abci_info" := by
    decide +kernel
  have read : Url.read "http://h/?q=1/abci_info"
      = .ok { queryingClient.endpoint with query := some "q=1/abci_info".toList } :=
    eq_ok_of_toOption (by decide +kernel)
  refine ⟨accepted, .nodeInfo, text, ?_⟩
  rintro ⟨url, other, path⟩
  rw [text, read] at other
  cases other
  exact absurd path (by decide)

end RpcClient

end ChainTx
