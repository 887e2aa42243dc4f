import ChainTx.Error
import ChainTx.Text.Blank
import ChainTx.Text.Split

/-!
Contract: application versions of chains and the features that come with them.

Owns:
- version triples, their order and their reader, which takes a leading `v` or `V` and drops what
  follows the first `-` or `+`;
- the version from which on a chain has a feature;
- the versions that builders are bound to, and the transaction types that follow from features.
-/

set_option autoImplicit false

namespace ChainTx

structure Semver where
  major : UInt64
  minor : UInt64
  patch : UInt64
deriving DecidableEq, Repr

namespace Semver

def text (version : Semver) : String :=
  Decimal.text version.major.toNat ++ "." ++ Decimal.text version.minor.toNat ++ "."
    ++ Decimal.text version.patch.toNat

def atLeast (version least : Semver) : Bool :=
  if version.major ≠ least.major then least.major < version.major
  else if version.minor ≠ least.minor then least.minor < version.minor
  else least.patch ≤ version.patch

def dropMark : List Char → List Char
  | 'v' :: rest => rest
  | 'V' :: rest => rest
  | chars => chars

/-- The part of a version text that holds the numbers. -/
def core (raw : String) : List Char :=
  (dropMark (Blank.trimChars raw.toList)).takeWhile fun char => char != '-' && char != '+'

/-- Reads two or three numbers with dots between them; the patch number may be left out. -/
def ofCore? (core : List Char) : Option Semver := do
  let numbers ← (splitOnChar '.' core).mapM Decimal.uint64?
  match numbers with
  | [major, minor] => some ⟨major, minor, 0⟩
  | [major, minor, patch] => some ⟨major, minor, patch⟩
  | _ => none

def parse (raw : String) : Except TxError Semver :=
  match ofCore? (core raw) with
  | some version => .ok version
  | none => .error (.configuration (.unparseableVersion raw))

end Semver

/-- The first version that has a feature. -/
def Feature.since : Feature → Semver
  | .authz => ⟨0, 43, 0⟩
  | .feegrant => ⟨0, 43, 0⟩
  | .govV1 => ⟨0, 46, 0⟩
  | .group => ⟨0, 47, 0⟩

def Semver.features (version : Semver) : List Feature :=
  Feature.all.filter fun feature => version.atLeast feature.since

/-- The version of the application that a chain runs. -/
structure AppVersion where
  framework : Framework
  version : String
  features : List Feature
deriving DecidableEq, Repr

namespace AppVersion

/-- True when the chain has a feature. -/
def has (app : AppVersion) (feature : Feature) : Bool :=
  app.features.contains feature

/-- The version of a chain of the Cosmos family, from its text. -/
def parse (raw : String) : Except TxError AppVersion := do
  let version ← Semver.parse raw
  .ok ⟨.cosmos, Blank.trim raw, version.features⟩

/-- The version of a chain of the EVM family, which tells nothing. -/
def evm (hint : Option String) : AppVersion :=
  ⟨.evm, hint.getD "", []⟩

/-- The transaction types that a chain of the Cosmos family accepts. -/
def cosmosTxTypes (app : AppVersion) : List TxType :=
  [.govVote, .bankSend, .stakingDelegate]
    ++ (if app.has .authz then [.authzGrant] else [])
    ++ (if app.has .feegrant then [.feegrantAllowance] else [])

end AppVersion

end ChainTx
