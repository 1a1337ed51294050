/-
  NodeClient.Transaction.Basic
  ────────────────────────────
  The transaction envelope.

  A transaction is of one of eleven variants and has the payload of that variant.  On the wire the
  variant is told by a pair, the type and the base version; the version that is written is the
  payload's own, which need not fit the variant.
-/
import NodeClient.Transaction.Payload

namespace NodeClient

open Json

/-! ## §1. Variants. -/

/-- The layouts that a transaction can have. -/
inductive Variant where
  | deployV0
  | invokeV0 | invokeV1 | invokeV3
  | declareV0 | declareV1 | declareV2 | declareV3
  | deployAccountV1 | deployAccountV3
  | l1HandlerV0
  deriving Repr, DecidableEq, Inhabited

namespace Variant

/-- Every variant. -/
def all : List Variant :=
  [deployV0, invokeV0, invokeV1, invokeV3, declareV0, declareV1, declareV2, declareV3,
   deployAccountV1, deployAccountV3, l1HandlerV0]

/-- The type of the transactions of a variant. -/
def type : Variant → TransactionType
  | deployV0 => .deploy
  | invokeV0 | invokeV1 | invokeV3 => .invoke
  | declareV0 | declareV1 | declareV2 | declareV3 => .declare
  | deployAccountV1 | deployAccountV3 => .deployAccount
  | l1HandlerV0 => .l1Handler

/-- The version, without query marker, of the transactions of a variant. -/
def baseVersion : Variant → TransactionVersion
  | deployV0 | invokeV0 | declareV0 | l1HandlerV0 => .v0
  | invokeV1 | declareV1 | deployAccountV1 => .v1
  | declareV2 => .v2
  | invokeV3 | declareV3 | deployAccountV3 => .v3

/-- The variant that a type and a base version tell. -/
def of? : TransactionType → TransactionVersion → Option Variant
  | .deploy, .v0 => some deployV0
  | .invoke, .v0 => some invokeV0
  | .invoke, .v1 => some invokeV1
  | .invoke, .v3 => some invokeV3
  | .declare, .v0 => some declareV0
  | .declare, .v1 => some declareV1
  | .declare, .v2 => some declareV2
  | .declare, .v3 => some declareV3
  | .deployAccount, .v1 => some deployAccountV1
  | .deployAccount, .v3 => some deployAccountV3
  | .l1Handler, .v0 => some l1HandlerV0
  | _, _ => none

/-- The version that marks a transaction of a variant as a query. -/
def queryVersion : Variant → TransactionVersion
  | deployV0 => .v0Query
  | invokeV0 => .v0Query
  | invokeV1 => .v1Query
  | invokeV3 => .v3Query
  | declareV0 => .v0Query
  | declareV1 => .v1Query
  | declareV2 => .v2Query
  | declareV3 => .v3Query
  | deployAccountV1 => .v1Query
  | deployAccountV3 => .v3Query
  | l1HandlerV0 => .v0Query

/-- A pair of type and base version tells the variant that has them, and no other. -/
theorem of?_eq_some_iff (type : TransactionType) (n : TransactionVersion) (v : Variant) :
    of? type n = some v ↔ v.type = type ∧ v.baseVersion = n := by
  constructor
  · intro h
    unfold of? at h
    split at h <;> cases h <;> exact ⟨rfl, rfl⟩
  · rintro ⟨rfl, rfl⟩
    cases v <;> rfl

/-- What marks a transaction is the query counterpart of its base version. -/
theorem queryVersion_eq (v : Variant) : v.queryVersion = v.baseVersion.withQuery := by
  cases v <;> rfl

/-- The contents of a transaction of a variant. -/
def Payload : Variant → Type
  | deployV0 => DeployV0
  | invokeV0 => InvokeV0
  | invokeV1 => InvokeV1
  | invokeV3 => InvokeV3
  | declareV0 => DeclareV0
  | declareV1 => DeclareV1
  | declareV2 => DeclareV2
  | declareV3 => DeclareV3
  | deployAccountV1 => DeployAccountV1
  | deployAccountV3 => DeployAccountV3
  | l1HandlerV0 => L1HandlerV0

instance : (v : Variant) → DecidableEq v.Payload
  | deployV0 => inferInstanceAs (DecidableEq DeployV0)
  | invokeV0 => inferInstanceAs (DecidableEq InvokeV0)
  | invokeV1 => inferInstanceAs (DecidableEq InvokeV1)
  | invokeV3 => inferInstanceAs (DecidableEq InvokeV3)
  | declareV0 => inferInstanceAs (DecidableEq DeclareV0)
  | declareV1 => inferInstanceAs (DecidableEq DeclareV1)
  | declareV2 => inferInstanceAs (DecidableEq DeclareV2)
  | declareV3 => inferInstanceAs (DecidableEq DeclareV3)
  | deployAccountV1 => inferInstanceAs (DecidableEq DeployAccountV1)
  | deployAccountV3 => inferInstanceAs (DecidableEq DeployAccountV3)
  | l1HandlerV0 => inferInstanceAs (DecidableEq L1HandlerV0)

/-- The fields of a variant. -/
def record : (v : Variant) → Record v.Payload
  | deployV0 => DeployV0.record
  | invokeV0 => InvokeV0.record
  | invokeV1 => InvokeV1.record
  | invokeV3 => InvokeV3.record
  | declareV0 => DeclareV0.record
  | declareV1 => DeclareV1.record
  | declareV2 => DeclareV2.record
  | declareV3 => DeclareV3.record
  | deployAccountV1 => DeployAccountV1.record
  | deployAccountV3 => DeployAccountV3.record
  | l1HandlerV0 => L1HandlerV0.record

/-- The two fields that every payload has. -/
structure Header (ρ : Type) where
  hash : ρ → Option Hash
  version : ρ → TransactionVersion
  setHash : Option Hash → ρ → ρ
  setVersion : TransactionVersion → ρ → ρ

/-- The hash and the version in the payload of a variant. -/
def header : (v : Variant) → Header v.Payload
  | deployV0 => ⟨DeployV0.transactionHash, DeployV0.version,
      fun h p => { p with transactionHash := h }, fun n p => { p with version := n }⟩
  | invokeV0 => ⟨InvokeV0.transactionHash, InvokeV0.version,
      fun h p => { p with transactionHash := h }, fun n p => { p with version := n }⟩
  | invokeV1 => ⟨InvokeV1.transactionHash, InvokeV1.version,
      fun h p => { p with transactionHash := h }, fun n p => { p with version := n }⟩
  | invokeV3 => ⟨InvokeV3.transactionHash, InvokeV3.version,
      fun h p => { p with transactionHash := h }, fun n p => { p with version := n }⟩
  | declareV0 => ⟨DeclareV0.transactionHash, DeclareV0.version,
      fun h p => { p with transactionHash := h }, fun n p => { p with version := n }⟩
  | declareV1 => ⟨DeclareV1.transactionHash, DeclareV1.version,
      fun h p => { p with transactionHash := h }, fun n p => { p with version := n }⟩
  | declareV2 => ⟨DeclareV2.transactionHash, DeclareV2.version,
      fun h p => { p with transactionHash := h }, fun n p => { p with version := n }⟩
  | declareV3 => ⟨DeclareV3.transactionHash, DeclareV3.version,
      fun h p => { p with transactionHash := h }, fun n p => { p with version := n }⟩
  | deployAccountV1 => ⟨DeployAccountV1.transactionHash, DeployAccountV1.version,
      fun h p => { p with transactionHash := h }, fun n p => { p with version := n }⟩
  | deployAccountV3 => ⟨DeployAccountV3.transactionHash, DeployAccountV3.version,
      fun h p => { p with transactionHash := h }, fun n p => { p with version := n }⟩
  | l1HandlerV0 => ⟨L1HandlerV0.transactionHash, L1HandlerV0.version,
      fun h p => { p with transactionHash := h }, fun n p => { p with version := n }⟩

end Variant

/-! ## §2. Transactions. -/

/-- A transaction. -/
structure Transaction where
  variant : Variant
  payload : variant.Payload
  deriving DecidableEq

namespace Transaction

/-- The type of the transaction. -/
def type (t : Transaction) : TransactionType := t.variant.type

/-- The version as it is written. -/
def version (t : Transaction) : TransactionVersion := t.variant.header.version t.payload

/-- The hash, if it is known. -/
def hash (t : Transaction) : Option Hash := t.variant.header.hash t.payload

/-- The same transaction with another version. -/
def withVersion (t : Transaction) (n : TransactionVersion) : Transaction :=
  ⟨t.variant, t.variant.header.setVersion n t.payload⟩

/-- The same transaction with another hash, or without one. -/
def withHash (t : Transaction) (h : Option Hash) : Transaction :=
  ⟨t.variant, t.variant.header.setHash h t.payload⟩

/-- The transaction marked as a query, whatever its version was. -/
def asQuery (t : Transaction) : Transaction := t.withVersion t.variant.queryVersion

/-! ## §3. Writing and reading. -/

/-- The members of a transaction: its type, then the payload's. -/
def toMembers (t : Transaction) : Members :=
  ("type", TransactionType.vocabulary.codec.encode t.type)
    :: t.variant.record.fields.toMembers t.payload

/-- The transaction as an object. -/
def encode (t : Transaction) : Value := .object t.toMembers

end Transaction

/-- Why a value is no transaction. -/
inductive TransactionError where
  /-- The header or the payload does not decode. -/
  | invalidJson (cause : Mismatch)
  /-- There are no transactions of the type with that version. -/
  | unsupportedVersion (type : TransactionType) (version : String)
  /-- There is no such type. -/
  | unhandled (type version : String)
  deriving Repr

/-- The wording of each cause. -/
def TransactionError.message : TransactionError → String
  | .invalidJson cause => "invalid transaction JSON: " ++ cause.message
  | .unsupportedVersion type version =>
      "unsupported " ++ type.kind ++ " transaction version: " ++ version
  | .unhandled type version => "unhandled transaction " ++ type ++ " " ++ version

namespace Transaction

/-- The texts of type and version, by which the variant is told. -/
structure Header where
  type : String
  version : String
  deriving DecidableEq

def Header.record : Record Header where
  name := "TypeAndVersion"
  make := Header.mk
  fields :=
    .field (.required "type" (·.type) .text) <|
    .field (.required "version" (·.version) .text) .done

/-- The type that a header names, if it is one. -/
def Header.type? (h : Header) : Option TransactionType :=
  match TransactionType.vocabulary.parse h.type with
  | .ok .unknown => none
  | .ok type => some type
  | .error _ => none

/-- The version that a header names, without query marker; an unrecognised text is the unknown
version. -/
def Header.baseVersion (h : Header) : TransactionVersion :=
  match TransactionVersion.vocabulary.parse h.version with
  | .ok version => version.withoutQuery
  | .error _ => .unknown

/-- Decodes the header, and then the payload of the variant that the header tells. -/
def ofValue (v : Value) : Except TransactionError Transaction := do
  let h ← (Header.record.decode v).mapError .invalidJson
  match h.type? with
  | none => .error (.unhandled h.type h.version)
  | some type =>
      match Variant.of? type h.baseVersion with
      | none => .error (.unsupportedVersion type h.version)
      | some variant => do
          let payload ← (variant.record.decode v).mapError .invalidJson
          return ⟨variant, payload⟩

/-- Transactions are told apart by a look at the whole object. -/
def codec : Codec Transaction :=
  .ofValue (fun v => (ofValue v).mapError (·.message)) encode

end Transaction

end NodeClient
