import ChainTx.Proofs.Url.Host
import ChainTx.Proofs.Url.Path

/-!
Contract: authorities of web URLs are read back from their texts.

Owns:
- authorities as the reader makes them, with the characters that their texts have;
- that the text of such an authority is read as the same one.

Does not own: what stands behind an authority.
-/

set_option autoImplicit false

namespace ChainTx.Url

/-! ## Authorities of web URLs -/

/-- Texts that are written in user names and passwords as they are. -/
def IsUserinfo (text : List Char) : Prop :=
  ∀ char ∈ text, Percent.inUserinfoSet char = false

private theorem isUserinfo_encode (text : List Char) :
    IsUserinfo (Percent.encode Percent.inUserinfoSet text) :=
  fun _ isIn => not_inSet_of_mem_encode (by decide) isIn

/-- An authority as it is read for a scheme with this port of its own. -/
structure Authority.IsWeb (standard : Nat) (authority : Authority) : Prop where
  username : IsUserinfo authority.username
  password : IsUserinfo authority.password
  host : authority.host.IsWeb
  port : ∀ port, authority.port = some port → port ≤ 65535 ∧ port ≠ standard

variable {standard : Nat}

private theorem readPort_eq_ok
    {text : List Char}
    {port : Option Nat}
    (ok : readPort (some standard) text = .ok port) :
    ∀ value, port = some value → value ≤ 65535 ∧ value ≠ standard := by
  unfold readPort at ok
  split at ok
  · cases ok
  · simp only at ok
    split at ok
    · cases ok
    · cases ok
      intro value found
      split at found
      · cases found
      · rename_i small unlike
        cases found
        rw [not_or, Option.some.injEq] at unlike
        exact ⟨Nat.le_of_not_lt small, unlike.2⟩

private theorem of_readHostPort
    {text : List Char}
    {host : Host}
    {port : Option Nat}
    (ok : readHostPort (.special standard) text = .ok (host, port)) :
    host.IsWeb ∧ ∀ value, port = some value → value ≤ 65535 ∧ value ≠ standard := by
  rw [readHostPort] at ok
  rcases splitHost false text with ⟨hostText, portText⟩
  simp only at ok
  split at ok
  · cases ok
  · obtain ⟨found, hostRead, ok⟩ := bind_eq_ok_iff.mp ok
    split at ok
    · cases ok
      exact ⟨Host.isWeb_of_read hostRead, nofun⟩
    · split at ok
      · cases ok
      · obtain ⟨value, portRead, ok⟩ := bind_eq_ok_iff.mp ok
        cases ok
        exact ⟨Host.isWeb_of_read hostRead, readPort_eq_ok portRead⟩

theorem isWeb_of_readAuthority
    {text : List Char}
    {isLast : Bool}
    {authority : Authority}
    (ok : readAuthority (.special standard) text isLast = .ok authority) :
    authority.IsWeb standard := by
  rw [readAuthority] at ok
  rcases splitLastAt text with ⟨credentialText, hostText⟩
  simp only at ok
  split at ok
  · obtain ⟨⟨host, port⟩, hostRead, ok⟩ := bind_eq_ok_iff.mp ok
    cases ok
    obtain ⟨isWeb, bounds⟩ := of_readHostPort hostRead
    exact ⟨List.forall_mem_nil _, List.forall_mem_nil _, isWeb, bounds⟩
  · split at ok
    · cases ok
    · obtain ⟨⟨host, port⟩, hostRead, ok⟩ := bind_eq_ok_iff.mp ok
      simp only at ok
      split at ok
      · cases ok
      · cases ok
        obtain ⟨isWeb, bounds⟩ := of_readHostPort hostRead
        exact ⟨isUserinfo_encode _, isUserinfo_encode _, isWeb, bounds⟩

/-! ## Characters -/

/-- What a user name or password is written with is no mark of an authority. -/
theorem of_isUserinfo
    {text : List Char}
    (isUserinfo : IsUserinfo text)
    {char : Char}
    (isIn : char ∈ text) :
    isInAuthority char = true ∧ char ≠ '@' ∧ char ≠ ':' := by
  have outside := isUserinfo char isIn
  have ascii : char.toNat < 128 := by
    simp only [Percent.inUserinfoSet, Percent.inPathSet, Percent.inFragmentSet, Percent.isControl,
      Bool.or_eq_false_iff, decide_eq_false_iff_not] at outside
    omega
  exact of_ascii
    (fun char => Percent.inUserinfoSet char = false
      → isInAuthority char = true ∧ char ≠ '@' ∧ char ≠ ':')
    (by decide) ascii outside

private theorem of_isPlain_domain
    {char : Char}
    (plain : Domain.IsPlain char) :
    isInAuthority char = true ∧ char ≠ '@' ∧ char ≠ ':' ∧ char ≠ '[' ∧ char ≠ ']' :=
  of_ascii
    (fun char => Domain.IsPlain char
      → isInAuthority char = true ∧ char ≠ '@' ∧ char ≠ ':' ∧ char ≠ '[' ∧ char ≠ ']')
    (by decide +kernel) plain.1 plain

private theorem of_isHostChar
    {char : Char}
    (isHostChar : Host.IsHostChar char) :
    isInAuthority char = true ∧ char ≠ '@' := by
  obtain plain | rfl | rfl | rfl := isHostChar
  · obtain ⟨inAuthority, noAt, -⟩ := of_isPlain_domain plain
    exact ⟨inAuthority, noAt⟩
  · decide
  · decide
  · decide

private theorem of_isAsciiDigit
    {char : Char}
    (isDigit : Decimal.IsAsciiDigit char) :
    isInAuthority char = true ∧ char ≠ '@' := by
  have ascii : char.toNat < 128 := by
    rw [Decimal.IsAsciiDigit] at isDigit
    omega
  exact of_ascii
    (fun char => Decimal.IsAsciiDigit char → isInAuthority char = true ∧ char ≠ '@')
    (by decide) ascii isDigit

/-! ## Host and port -/

private theorem splitHost_append
    {inBrackets : Bool}
    {front : List Char}
    (noMark : ∀ char ∈ front, char ≠ '[' ∧ char ≠ ']')
    (noColon : inBrackets = false → ':' ∉ front)
    (rest : List Char) :
    splitHost inBrackets (front ++ rest)
      = (front ++ (splitHost inBrackets rest).1, (splitHost inBrackets rest).2) := by
  induction front with
  | nil => rfl
  | cons char others inductionHypothesis =>
      obtain ⟨⟨notOpening, notClosing⟩, behind⟩ := List.forall_mem_cons.mp noMark
      have stays : ¬(char = ':' ∧ !inBrackets) := by
        rintro ⟨rfl, outside⟩
        exact noColon (by simpa using outside) List.mem_cons_self
      rw [List.cons_append, splitHost, if_neg stays]
      simp only [if_neg notOpening, if_neg notClosing]
      rw [inductionHypothesis behind fun outside =>
        List.not_mem_of_not_mem_cons (noColon outside)]
      rfl

/-- A host ends where its port begins. -/
theorem splitHost_chars
    {host : Host}
    (isWeb : host.IsWeb)
    {rest : List Char}
    (ends : rest = [] ∨ ∃ digits, rest = ':' :: digits) :
    splitHost false (host.chars ++ rest) = (host.chars, rest) := by
  have stops : splitHost false rest = ([], rest) := by
    obtain rfl | ⟨digits, rfl⟩ := ends
    · rfl
    · rfl
  have named {chars : List Char} (ascii : Domain.IsAsciiName chars) :
      splitHost false (chars ++ rest) = (chars, rest) := by
    rw [splitHost_append
      (fun char isIn => (of_isPlain_domain (ascii.plain char isIn)).2.2.2)
      (fun _ isIn => (of_isPlain_domain (ascii.plain ':' isIn)).2.2.1 rfl), stops,
      List.append_nil]
  cases isWeb with
  | name ascii nonempty notNumber => exact named ascii
  | @ipv4 address small => exact named (Ipv4.isAsciiName_text address)
  | @ipv6 pieces isAddress =>
      have noMark : ∀ char ∈ Ipv6.text pieces, char ≠ '[' ∧ char ≠ ']' := by
        intro char isIn
        obtain rfl | isDigit := Ipv6.isLowerHexDigit_or_colon_of_mem_text isIn
        · decide
        · exact (of_isPlain_domain (Host.isPlain_of_isLowerHexDigit isDigit)).2.2.2
      have closing : splitHost true (']' :: rest) = ([']'], rest) := by
        rw [splitHost]
        simp [stops]
      rw [Host.chars, List.cons_append, List.cons_append, List.append_assoc, splitHost,
        if_neg (by decide)]
      simp only [if_true]
      have inside := @splitHost_append true _ noMark (fun outside => absurd outside (by decide))
        (']' :: rest)
      rw [List.singleton_append, inside, closing]

private theorem readPort_digits
    {port : Nat}
    (small : port ≤ 65535)
    (unlike : port ≠ standard) :
    readPort (some standard) (Decimal.digits port) = .ok (some port) := by
  obtain ⟨⟨nonempty, areDigits⟩, -, value⟩ := Decimal.isCanonical_digits port
  have allDigits : (Decimal.digits port).all Char.isDigit = true :=
    List.all_eq_true.mpr fun char isIn => Decimal.isDigit_iff.mpr (areDigits char isIn)
  have shown : ¬((Decimal.digits port).isEmpty ∨ some port = some standard) := by
    simp [nonempty, unlike]
  rw [readPort, allDigits, value, if_neg (by decide)]
  simp only
  rw [if_neg (Nat.not_lt.mpr small), if_neg shown]

private theorem readHostPort_chars
    {authority : Authority}
    (isWeb : authority.IsWeb standard) :
    readHostPort (.special standard) (authority.host.chars ++ authority.portSuffix)
      = .ok (authority.host, authority.port) := by
  have ends : authority.portSuffix = [] ∨ ∃ digits, authority.portSuffix = ':' :: digits := by
    rw [Authority.portSuffix]
    split
    · exact .inr ⟨_, rfl⟩
    · exact .inl rfl
  have nonempty : ¬((SchemeKind.special standard).isSpecial ∧ authority.host.chars.isEmpty) := by
    simp [Host.chars_ne_nil isWeb.host]
  have named : authority.host ≠ .name [] := by
    intro unnamed
    exact Host.chars_ne_nil isWeb.host (congrArg Host.chars unnamed)
  rw [readHostPort, splitHost_chars isWeb.host ends]
  simp only
  rw [if_neg nonempty]
  simp only [SchemeKind.isSpecial, if_true]
  rw [Host.read_chars isWeb.host]
  rcases suffix : authority.port with _ | port
  · rw [Authority.portSuffix, suffix]
    rfl
  · obtain ⟨small, unlike⟩ := isWeb.port port suffix
    rw [Authority.portSuffix, suffix]
    simp only
    change (if authority.host = .name [] then _ else _) = _
    rw [if_neg named, readPort_digits small unlike]
    rfl

/-! ## Whole authorities -/

private theorem mem_chars_iff
    {authority : Authority}
    {char : Char} :
    char ∈ authority.chars
      ↔ char ∈ authority.credentials ∨ char ∈ authority.host.chars ++ authority.portSuffix := by
  rw [Authority.chars, List.append_assoc, List.mem_append]

private theorem of_mem_hostPort
    {authority : Authority}
    (isWeb : authority.IsWeb standard)
    {char : Char}
    (isIn : char ∈ authority.host.chars ++ authority.portSuffix) :
    isInAuthority char = true ∧ char ≠ '@' := by
  rcases List.mem_append.mp isIn with inHost | inSuffix
  · exact of_isHostChar (Host.isHostChar_of_mem_chars isWeb.host inHost)
  · rw [Authority.portSuffix] at inSuffix
    split at inSuffix
    · rename_i port _
      rcases List.mem_cons.mp inSuffix with rfl | inDigits
      · decide
      · exact of_isAsciiDigit (Decimal.isAsciiDigit_of_mem_digits inDigits)
    · cases inSuffix

/-- The credentials of an authority, in front of the at sign, which is the last one. -/
theorem splitLastAt_chars
    {authority : Authority}
    (isWeb : authority.IsWeb standard)
    (credentials : List Char)
    (written : authority.credentials = credentials ++ ['@']) :
    splitLastAt authority.chars
      = (some credentials, authority.host.chars ++ authority.portSuffix) := by
  have noAt : ∀ char ∈ (authority.host.chars ++ authority.portSuffix).reverse,
      (char != '@') = true :=
    fun char isIn => bne_iff_ne.mpr (of_mem_hostPort isWeb (List.mem_reverse.mp isIn)).2
  rw [splitLastAt, Authority.chars, written, List.append_assoc, List.append_assoc,
    List.reverse_append, List.singleton_append, List.reverse_cons, List.append_assoc,
    List.singleton_append, span_append_of_forall noAt (by rintro _ ⟨⟩; rfl)]
  simp only [List.reverse_reverse]

private theorem readCredentials_username
    {username : List Char}
    (isUserinfo : IsUserinfo username) :
    readCredentials username = (username, []) := by
  have noColon : ∀ char ∈ username, (char != ':') = true :=
    fun char isIn => bne_iff_ne.mpr (of_isUserinfo isUserinfo isIn).2.2
  rw [readCredentials, span_eq_self noColon]
  simp only
  rw [encode_eq_self isUserinfo]
  rfl

private theorem readCredentials_both
    {username password : List Char}
    (isUserinfo : IsUserinfo username)
    (isPassword : IsUserinfo password) :
    readCredentials (username ++ ':' :: password) = (username, password) := by
  have noColon : ∀ char ∈ username, (char != ':') = true :=
    fun char isIn => bne_iff_ne.mpr (of_isUserinfo isUserinfo isIn).2.2
  rw [readCredentials, span_append_of_forall noColon (by rintro _ ⟨⟩; rfl)]
  simp only
  rw [encode_eq_self isUserinfo, List.tail_cons, encode_eq_self isPassword]

private theorem splitLastAt_of_no_at
    {text : List Char}
    (noAt : ∀ char ∈ text, char ≠ '@') :
    splitLastAt text = (none, text) := by
  have among : ∀ char ∈ text.reverse, (char != '@') = true :=
    fun char isIn => bne_iff_ne.mpr (noAt char (List.mem_reverse.mp isIn))
  rw [splitLastAt, span_eq_self among]

/-- There are no credentials, or they are read back from the text in front of the at sign. -/
theorem credentials_cases
    {authority : Authority}
    (isWeb : authority.IsWeb standard) :
    authority.credentials = [] ∧ authority.username = [] ∧ authority.password = []
      ∨ ∃ text, authority.credentials = text ++ ['@']
        ∧ readCredentials text = (authority.username, authority.password)
        ∧ ∀ char ∈ text, isInAuthority char = true := by
  obtain ⟨isUserinfo, isPassword, -, -⟩ := isWeb
  rcases authority with ⟨username, password, host, port⟩
  have visible : ∀ char ∈ username, isInAuthority char = true :=
    fun char isIn => (of_isUserinfo isUserinfo isIn).1
  by_cases noPassword : password = []
  · subst noPassword
    by_cases noName : username = []
    · subst noName
      exact .inl ⟨rfl, rfl, rfl⟩
    · exact .inr ⟨username, by simp [Authority.credentials, noName],
        readCredentials_username isUserinfo, visible⟩
  · refine .inr ⟨username ++ ':' :: password, by simp [Authority.credentials, noPassword],
      readCredentials_both isUserinfo isPassword, ?_⟩
    refine List.forall_mem_append.mpr ⟨visible, List.forall_mem_cons.mpr ⟨by decide, ?_⟩⟩
    exact fun char isIn => (of_isUserinfo isPassword isIn).1

/-- The text of an authority that has been read is read as the same authority. -/
theorem readAuthority_chars
    {authority : Authority}
    (isWeb : authority.IsWeb standard)
    (isLast : Bool) :
    readAuthority (.special standard) authority.chars isLast = .ok authority := by
  have hostNonempty := Host.chars_ne_nil isWeb.host
  have named : authority.host ≠ .name [] := by
    intro unnamed
    exact hostNonempty (congrArg Host.chars unnamed)
  obtain ⟨noCredentials, noName, noPassword⟩ | ⟨text, written, read, -⟩ := credentials_cases isWeb
  · have split : splitLastAt authority.chars
        = (none, authority.host.chars ++ authority.portSuffix) := by
      rw [Authority.chars, noCredentials, List.nil_append]
      exact splitLastAt_of_no_at fun char isIn => (of_mem_hostPort isWeb isIn).2
    have whole : (⟨[], [], authority.host, authority.port⟩ : Authority) = authority := by
      rcases authority with ⟨username, password, host, port⟩
      cases noName
      cases noPassword
      rfl
    rw [readAuthority, split]
    simp only
    rw [readHostPort_chars isWeb]
    exact congrArg Except.ok whole
  · rw [readAuthority, splitLastAt_chars isWeb text written]
    simp only
    rw [if_neg (by simp [hostNonempty]), read, readHostPort_chars isWeb]
    exact if_neg fun unnamed => named unnamed.1

/-- An authority is not empty, and nothing in it ends it. -/
theorem Authority.IsWeb.chars
    {authority : Authority}
    (isWeb : authority.IsWeb standard) :
    authority.chars ≠ [] ∧ ∀ char ∈ authority.chars, isInAuthority char = true := by
  constructor
  · rw [Authority.chars, List.append_assoc]
    exact List.append_ne_nil_of_right_ne_nil _
      (List.append_ne_nil_of_left_ne_nil (Host.chars_ne_nil isWeb.host) _)
  · intro char isIn
    rcases mem_chars_iff.mp isIn with inCredentials | inHostPort
    · obtain ⟨none, -, -⟩ | ⟨text, written, -, visible⟩ := credentials_cases isWeb
      · rw [none] at inCredentials
        cases inCredentials
      · rw [written, List.mem_append, List.mem_singleton] at inCredentials
        rcases inCredentials with inText | rfl
        · exact visible char inText
        · decide
    · exact (of_mem_hostPort isWeb inHostPort).1

end ChainTx.Url
