/-
  NodeClient.Transaction.Payload
  ──────────────────────────────
  The contents of the eleven transaction variants.  Lists that are left out are empty, and are
  always written; a hash is written only if there is one.
-/
import NodeClient.Codec.Record
import NodeClient.Scalar.Quantity
import NodeClient.Scalar.Word
import NodeClient.Token.Status
import NodeClient.Transaction.Version

namespace NodeClient

/-! ## §1. Resource bounds. -/

/-- The greatest amount of a resource, and the greatest price for a unit of it. -/
structure ResourceBound where
  maxAmount : Number
  maxPricePerUnit : Number
  deriving DecidableEq, Inhabited

def ResourceBound.record : Record ResourceBound where
  name := "ResourceBound"
  make := ResourceBound.mk
  fields :=
    .field (.required "max_amount" (·.maxAmount) Quantity.codec) <|
    .field (.required "max_price_per_unit" (·.maxPricePerUnit) Quantity.codec) .done

/-- The fee bounds of a version 3 transaction. -/
structure ResourceBounds where
  l1Gas : ResourceBound
  l2Gas : ResourceBound
  deriving DecidableEq, Inhabited

def ResourceBounds.record : Record ResourceBounds where
  name := "ResourceBounds"
  make := ResourceBounds.mk
  fields :=
    .field (.required "l1_gas" (·.l1Gas) ResourceBound.record.codec) <|
    .field (.required "l2_gas" (·.l2Gas) ResourceBound.record.codec) .done

/-! ## §2. Fields that several variants share. -/

section
variable {ρ : Type}

/-- The hash, if it is known. -/
def transactionHashField (get : ρ → Option Hash) : Field ρ (Option Hash) :=
  .optional "transaction_hash" get Word.codec

/-- The version as it was read, query marker included. -/
def versionField (get : ρ → TransactionVersion) : Field ρ TransactionVersion :=
  .required "version" get TransactionVersion.vocabulary.codec

/-- A number that must be there. -/
def numberField (name : String) (get : ρ → Number) : Field ρ Number :=
  .required name get Quantity.codec

/-- A 32-byte value that must be there. -/
def wordField {k : WordKind} (name : String) (get : ρ → Word k) : Field ρ (Word k) :=
  .required name get Word.codec

/-- A list of field elements. -/
def elementsField (name : String) (get : ρ → List FieldElement) : Field ρ (List FieldElement) :=
  .list name get Word.codec

/-- A data availability mode. -/
def daModeField (name : String) (get : ρ → TxDaMode) : Field ρ TxDaMode :=
  .required name get TxDaMode.vocabulary.codec

/-- The fee bounds. -/
def boundsField (get : ρ → ResourceBounds) : Field ρ ResourceBounds :=
  .required "resource_bounds" get ResourceBounds.record.codec

end

/-! ## §3. Deploy. -/

structure DeployV0 where
  transactionHash : Option Hash
  version : TransactionVersion
  contractAddressSalt : FieldElement
  constructorCalldata : List FieldElement
  classHash : Hash
  deriving DecidableEq

def DeployV0.record : Record DeployV0 where
  name := "DeployV0Transaction"
  make := DeployV0.mk
  fields :=
    .field (transactionHashField (·.transactionHash)) <|
    .field (versionField (·.version)) <|
    .field (wordField "contract_address_salt" (·.contractAddressSalt)) <|
    .field (elementsField "constructor_calldata" (·.constructorCalldata)) <|
    .field (wordField "class_hash" (·.classHash)) .done

/-! ## §4. Invoke. -/

structure InvokeV0 where
  transactionHash : Option Hash
  version : TransactionVersion
  maxFee : Number
  signature : List FieldElement
  contractAddress : Address
  entryPointSelector : FieldElement
  calldata : List FieldElement
  deriving DecidableEq

def InvokeV0.record : Record InvokeV0 where
  name := "InvokeV0Transaction"
  make := InvokeV0.mk
  fields :=
    .field (transactionHashField (·.transactionHash)) <|
    .field (versionField (·.version)) <|
    .field (numberField "max_fee" (·.maxFee)) <|
    .field (elementsField "signature" (·.signature)) <|
    .field (wordField "contract_address" (·.contractAddress)) <|
    .field (wordField "entry_point_selector" (·.entryPointSelector)) <|
    .field (elementsField "calldata" (·.calldata)) .done

structure InvokeV1 where
  transactionHash : Option Hash
  version : TransactionVersion
  senderAddress : Address
  calldata : List FieldElement
  maxFee : Number
  signature : List FieldElement
  nonce : Number
  deriving DecidableEq

def InvokeV1.record : Record InvokeV1 where
  name := "InvokeV1Transaction"
  make := InvokeV1.mk
  fields :=
    .field (transactionHashField (·.transactionHash)) <|
    .field (versionField (·.version)) <|
    .field (wordField "sender_address" (·.senderAddress)) <|
    .field (elementsField "calldata" (·.calldata)) <|
    .field (numberField "max_fee" (·.maxFee)) <|
    .field (elementsField "signature" (·.signature)) <|
    .field (numberField "nonce" (·.nonce)) .done

structure InvokeV3 where
  transactionHash : Option Hash
  version : TransactionVersion
  senderAddress : Address
  calldata : List FieldElement
  signature : List FieldElement
  nonce : Number
  resourceBounds : ResourceBounds
  tip : Number
  paymasterData : List FieldElement
  accountDeploymentData : List FieldElement
  nonceDaMode : TxDaMode
  feeDaMode : TxDaMode
  deriving DecidableEq

def InvokeV3.record : Record InvokeV3 where
  name := "InvokeV3Transaction"
  make := InvokeV3.mk
  fields :=
    .field (transactionHashField (·.transactionHash)) <|
    .field (versionField (·.version)) <|
    .field (wordField "sender_address" (·.senderAddress)) <|
    .field (elementsField "calldata" (·.calldata)) <|
    .field (elementsField "signature" (·.signature)) <|
    .field (numberField "nonce" (·.nonce)) <|
    .field (boundsField (·.resourceBounds)) <|
    .field (numberField "tip" (·.tip)) <|
    .field (elementsField "paymaster_data" (·.paymasterData)) <|
    .field (elementsField "account_deployment_data" (·.accountDeploymentData)) <|
    .field (daModeField "nonce_data_availability_mode" (·.nonceDaMode)) <|
    .field (daModeField "fee_data_availability_mode" (·.feeDaMode)) .done

/-! ## §5. Declare. -/

structure DeclareV0 where
  transactionHash : Option Hash
  version : TransactionVersion
  senderAddress : Address
  maxFee : Number
  signature : List FieldElement
  classHash : Hash
  deriving DecidableEq

def DeclareV0.record : Record DeclareV0 where
  name := "DeclareV0Transaction"
  make := DeclareV0.mk
  fields :=
    .field (transactionHashField (·.transactionHash)) <|
    .field (versionField (·.version)) <|
    .field (wordField "sender_address" (·.senderAddress)) <|
    .field (numberField "max_fee" (·.maxFee)) <|
    .field (elementsField "signature" (·.signature)) <|
    .field (wordField "class_hash" (·.classHash)) .done

structure DeclareV1 where
  transactionHash : Option Hash
  version : TransactionVersion
  senderAddress : Address
  maxFee : Number
  signature : List FieldElement
  nonce : Number
  classHash : Hash
  deriving DecidableEq

def DeclareV1.record : Record DeclareV1 where
  name := "DeclareV1Transaction"
  make := DeclareV1.mk
  fields :=
    .field (transactionHashField (·.transactionHash)) <|
    .field (versionField (·.version)) <|
    .field (wordField "sender_address" (·.senderAddress)) <|
    .field (numberField "max_fee" (·.maxFee)) <|
    .field (elementsField "signature" (·.signature)) <|
    .field (numberField "nonce" (·.nonce)) <|
    .field (wordField "class_hash" (·.classHash)) .done

/-- Declares a class together with its compiled class hash. -/
structure DeclareV2 where
  transactionHash : Option Hash
  version : TransactionVersion
  senderAddress : Address
  compiledClassHash : Hash
  maxFee : Number
  signature : List FieldElement
  nonce : Number
  classHash : Hash
  deriving DecidableEq

def DeclareV2.record : Record DeclareV2 where
  name := "DeclareV2Transaction"
  make := DeclareV2.mk
  fields :=
    .field (transactionHashField (·.transactionHash)) <|
    .field (versionField (·.version)) <|
    .field (wordField "sender_address" (·.senderAddress)) <|
    .field (wordField "compiled_class_hash" (·.compiledClassHash)) <|
    .field (numberField "max_fee" (·.maxFee)) <|
    .field (elementsField "signature" (·.signature)) <|
    .field (numberField "nonce" (·.nonce)) <|
    .field (wordField "class_hash" (·.classHash)) .done

structure DeclareV3 where
  transactionHash : Option Hash
  version : TransactionVersion
  senderAddress : Address
  compiledClassHash : Hash
  signature : List FieldElement
  nonce : Number
  classHash : Hash
  resourceBounds : ResourceBounds
  tip : Number
  paymasterData : List FieldElement
  accountDeploymentData : List FieldElement
  nonceDaMode : TxDaMode
  feeDaMode : TxDaMode
  deriving DecidableEq

def DeclareV3.record : Record DeclareV3 where
  name := "DeclareV3Transaction"
  make := DeclareV3.mk
  fields :=
    .field (transactionHashField (·.transactionHash)) <|
    .field (versionField (·.version)) <|
    .field (wordField "sender_address" (·.senderAddress)) <|
    .field (wordField "compiled_class_hash" (·.compiledClassHash)) <|
    .field (elementsField "signature" (·.signature)) <|
    .field (numberField "nonce" (·.nonce)) <|
    .field (wordField "class_hash" (·.classHash)) <|
    .field (boundsField (·.resourceBounds)) <|
    .field (numberField "tip" (·.tip)) <|
    .field (elementsField "paymaster_data" (·.paymasterData)) <|
    .field (elementsField "account_deployment_data" (·.accountDeploymentData)) <|
    .field (daModeField "nonce_data_availability_mode" (·.nonceDaMode)) <|
    .field (daModeField "fee_data_availability_mode" (·.feeDaMode)) .done

/-! ## §6. Deploy account. -/

structure DeployAccountV1 where
  transactionHash : Option Hash
  version : TransactionVersion
  maxFee : Number
  signature : List FieldElement
  nonce : Number
  contractAddressSalt : FieldElement
  constructorCalldata : List FieldElement
  classHash : Hash
  deriving DecidableEq

def DeployAccountV1.record : Record DeployAccountV1 where
  name := "DeployAccountV1Transaction"
  make := DeployAccountV1.mk
  fields :=
    .field (transactionHashField (·.transactionHash)) <|
    .field (versionField (·.version)) <|
    .field (numberField "max_fee" (·.maxFee)) <|
    .field (elementsField "signature" (·.signature)) <|
    .field (numberField "nonce" (·.nonce)) <|
    .field (wordField "contract_address_salt" (·.contractAddressSalt)) <|
    .field (elementsField "constructor_calldata" (·.constructorCalldata)) <|
    .field (wordField "class_hash" (·.classHash)) .done

structure DeployAccountV3 where
  transactionHash : Option Hash
  version : TransactionVersion
  signature : List FieldElement
  nonce : Number
  contractAddressSalt : FieldElement
  constructorCalldata : List FieldElement
  classHash : Hash
  resourceBounds : ResourceBounds
  tip : Number
  paymasterData : List FieldElement
  nonceDaMode : TxDaMode
  feeDaMode : TxDaMode
  deriving DecidableEq

def DeployAccountV3.record : Record DeployAccountV3 where
  name := "DeployAccountV3Transaction"
  make := DeployAccountV3.mk
  fields :=
    .field (transactionHashField (·.transactionHash)) <|
    .field (versionField (·.version)) <|
    .field (elementsField "signature" (·.signature)) <|
    .field (numberField "nonce" (·.nonce)) <|
    .field (wordField "contract_address_salt" (·.contractAddressSalt)) <|
    .field (elementsField "constructor_calldata" (·.constructorCalldata)) <|
    .field (wordField "class_hash" (·.classHash)) <|
    .field (boundsField (·.resourceBounds)) <|
    .field (numberField "tip" (·.tip)) <|
    .field (elementsField "paymaster_data" (·.paymasterData)) <|
    .field (daModeField "nonce_data_availability_mode" (·.nonceDaMode)) <|
    .field (daModeField "fee_data_availability_mode" (·.feeDaMode)) .done

/-! ## §7. L1 handler. -/

/-- A message consumed from L1. -/
structure L1HandlerV0 where
  transactionHash : Option Hash
  version : TransactionVersion
  nonce : Number
  contractAddress : Address
  entryPointSelector : FieldElement
  calldata : List FieldElement
  deriving DecidableEq

def L1HandlerV0.record : Record L1HandlerV0 where
  name := "L1HandlerV0Transaction"
  make := L1HandlerV0.mk
  fields :=
    .field (transactionHashField (·.transactionHash)) <|
    .field (versionField (·.version)) <|
    .field (numberField "nonce" (·.nonce)) <|
    .field (wordField "contract_address" (·.contractAddress)) <|
    .field (wordField "entry_point_selector" (·.entryPointSelector)) <|
    .field (elementsField "calldata" (·.calldata)) .done

end NodeClient
