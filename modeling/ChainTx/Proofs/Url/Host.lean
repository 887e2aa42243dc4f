import ChainTx.Proofs.Bytes
import ChainTx.Proofs.Url.Address
import ChainTx.Url.Host

/-!
Contract: hosts of web schemes are read back from their texts.

Owns:
- the characters of such a host, none of which ends a host, a port or an authority;
- that the text of a host that has been read is read as the same host;
- that no host is read from characters that are not covered.

Does not own: opaque hosts of other schemes.
-/

set_option autoImplicit false

namespace ChainTx.Url

/-- Nothing is decoded in a text without percent signs. -/
theorem Percent.decodeBytes_eq_self
    {bytes : Bytes}
    (noMark : 0x25 ∉ bytes) :
    decodeBytes bytes = bytes := by
  induction bytes with
  | nil => rfl
  | cons byte rest inductionHypothesis =>
      have behind := inductionHypothesis (List.not_mem_of_not_mem_cons noMark)
      rw [decodeBytes, behind]
      rintro _ _ _ rfl
      exact absurd List.mem_cons_self noMark

namespace Host

/-- Hosts that a web scheme can have. -/
inductive IsWeb : Host → Prop where
  | name {chars : List Char}
      (ascii : Domain.IsAsciiName chars)
      (nonempty : chars ≠ [])
      (notNumber : Ipv4.endsInNumber chars = false) : IsWeb (.name chars)
  | ipv4 {address : Nat} (small : address < 2 ^ 32) : IsWeb (.ipv4 address)
  | ipv6 {pieces : List Nat} (isAddress : Ipv6.IsAddress pieces) : IsWeb (.ipv6 pieces)

theorem isWeb_of_read
    {text : List Char}
    {host : Host}
    (ok : read text = .ok host) :
    IsWeb host := by
  unfold read at ok
  split at ok
  · unfold readBracketed at ok
    split at ok
    · split at ok
      · rename_i pieces found
        cases ok
        exact .ipv6 (Ipv6.isAddress_of_read? found)
      · cases ok
    · cases ok
  · simp only at ok
    split at ok
    · cases ok
    · cases ok
    · rename_i domain nonempty formed
      obtain ⟨decoded, -, isAscii⟩ := Option.bind_eq_some_iff.mp formed
      have ascii := Domain.isAsciiName_of_toAscii? isAscii
      split at ok
      · split at ok
        · rename_i address found
          cases ok
          exact .ipv4 (Ipv4.lt_of_read? found)
        · cases ok
      · rename_i notNumber
        cases ok
        exact .name ascii nonempty (by simpa using notNumber)

/-- A host without brackets is read only where all its characters, behind their escapes, are covered. -/
theorem exists_isCovered_of_read
    {text : List Char}
    {host : Host}
    (ok : read text = .ok host)
    (noBracket : text.head? ≠ some '[') :
    ∃ decoded,
      Bytes.toText? (Percent.decodeBytes (Bytes.ofText (String.ofList text))) = some decoded
        ∧ ∀ char ∈ decoded.toList, Domain.isCovered char = true := by
  rw [read, if_neg noBracket] at ok
  simp only at ok
  split at ok
  · cases ok
  · cases ok
  · rename_i domain nonempty formed
    obtain ⟨decoded, isText, isAscii⟩ := Option.bind_eq_some_iff.mp formed
    exact ⟨decoded, isText, Domain.isCovered_of_toAscii? isAscii⟩

/-- A name in its ASCII form is looked at as it stands. -/
theorem read_of_isAsciiName
    {chars : List Char}
    (ascii : Domain.IsAsciiName chars)
    (nonempty : chars ≠ []) :
    read chars = if Ipv4.endsInNumber chars then
        match Ipv4.read? chars with
        | some address => .ok (.ipv4 address)
        | none => .error .invalidIpv4
      else .ok (.name chars) := by
  have noBracket : chars.head? ≠ some '[' := fun head =>
    absurd (ascii.plain '[' (List.mem_of_head? head)) (by decide +kernel)
  have noMark : 0x25 ∉ Bytes.ofText (String.ofList chars) := by
    rw [Bytes.ofText_of_ascii fun char isIn => (ascii.plain char isIn).1]
    intro isIn
    obtain ⟨char, charIn, mark⟩ := List.mem_map.mp isIn
    have plain := ascii.plain char charIn
    revert mark
    exact of_ascii (fun char => Domain.IsPlain char → UInt8.ofNat char.toNat ≠ 0x25)
      (by decide +kernel) plain.1 plain
  have decoded : (Bytes.toText? (Percent.decodeBytes (Bytes.ofText (String.ofList chars)))).bind
      (fun decoded => Domain.toAscii? decoded.toList) = some chars := by
    rw [Percent.decodeBytes_eq_self noMark, Bytes.toText?_ofText, Option.bind_some,
      String.toList_ofList, ascii.kept]
  rw [read, if_neg noBracket]
  simp only
  rw [decoded]
  cases chars with
  | nil => exact absurd rfl nonempty
  | cons first rest => rfl

theorem read_chars
    {host : Host}
    (isWeb : IsWeb host) :
    read host.chars = .ok host := by
  cases isWeb with
  | name ascii nonempty notNumber =>
      rw [chars, read_of_isAsciiName ascii nonempty, notNumber]
      rfl
  | @ipv4 address small =>
      rw [chars, read_of_isAsciiName (Ipv4.isAsciiName_text address) (Ipv4.text_ne_nil address),
        Ipv4.endsInNumber_text, if_pos rfl, Ipv4.read?_text small]
  | @ipv6 pieces isAddress =>
      have opened : ('[' :: Ipv6.text pieces ++ [']']).head? = some '[' :=
        rfl
      have closed : ('[' :: Ipv6.text pieces ++ [']']).getLast? = some ']' :=
        List.getLast?_concat
      have inside : ('[' :: Ipv6.text pieces ++ [']']).tail.dropLast = Ipv6.text pieces :=
        List.dropLast_concat
      rw [chars, read, if_pos opened, readBracketed, if_pos closed, inside,
        Ipv6.read?_text isAddress]

/-! ## Characters -/

/-- Characters that stand in a host; a colon only between brackets. -/
def IsHostChar (char : Char) : Prop :=
  Domain.IsPlain char ∨ char = '[' ∨ char = ':' ∨ char = ']'

theorem isPlain_of_isLowerHexDigit
    {char : Char}
    (isDigit : Ipv6.IsLowerHexDigit char) :
    Domain.IsPlain char := by
  refine (Domain.isPlain_of_isDigit ?_).1
  rw [Ipv6.IsLowerHexDigit] at isDigit
  rw [Punycode.IsDigit]
  omega

theorem isHostChar_of_mem_chars
    {host : Host}
    (isWeb : IsWeb host)
    {char : Char}
    (isIn : char ∈ host.chars) :
    IsHostChar char := by
  cases isWeb with
  | name ascii nonempty notNumber => exact .inl (ascii.plain char isIn)
  | @ipv4 address small => exact .inl ((Ipv4.isAsciiName_text address).plain char isIn)
  | @ipv6 pieces isAddress =>
      rcases List.mem_cons.mp isIn with rfl | isIn
      · exact .inr (.inl rfl)
      · rcases List.mem_append.mp isIn with inText | isLast
        · obtain isColon | isDigit := Ipv6.isLowerHexDigit_or_colon_of_mem_text inText
          · exact .inr (.inr (.inl isColon))
          · exact .inl (isPlain_of_isLowerHexDigit isDigit)
        · exact .inr (.inr (.inr (List.mem_singleton.mp isLast)))

theorem chars_ne_nil
    {host : Host}
    (isWeb : IsWeb host) :
    host.chars ≠ [] := by
  cases isWeb with
  | name ascii nonempty notNumber => exact nonempty
  | @ipv4 address small => exact Ipv4.text_ne_nil address
  | ipv6 isAddress => exact List.cons_ne_nil _ _

end Host

end ChainTx.Url
