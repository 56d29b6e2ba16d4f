import Mathlib

/-!
# Python values and the domain error hierarchy

`Value` is the part of Python's data model that reaches canonical serialisation.  Floats are exact
rationals together with the three non-finite values; text is well-formed Unicode.  The class of a
`PyError` decides which `except` clause takes it, so the hierarchy of `domain/errors.py` is kept.
-/

namespace GlassBox

abbrev ByteString := List UInt8

inductive PyFloat
  | finite (value : ℚ)
  | nan
  | posInf
  | negInf
  deriving DecidableEq

/-- A Python object as canonical serialisation sees it. -/
inductive Value
  | none
  | bool (value : Bool)
  | int (value : Int)
  | float (value : PyFloat)
  | str (value : String)
  | bytes (value : ByteString)
  /-- An `Enum` member, with its `value`. -/
  | enum (value : Value)
  | list (items : List Value)
  | tuple (items : List Value)
  /-- A `set` or `frozenset`, in iteration order. -/
  | set (items : List Value)
  /-- A mapping, in iteration order; keys need not be strings. -/
  | mapping (entries : List (Value × Value))
  /-- Any other object, known by the name of its type. -/
  | object (typeName : String)

namespace Value

/-- An optional string: `None` or the text. -/
def ofOptionStr : Option String → Value
  | some text => .str text
  | Option.none => .none

def ofRat (value : ℚ) : Value := .float (.finite value)

def ofOptionRat : Option ℚ → Value
  | some value => ofRat value
  | Option.none => .none

/-- A natural number as a Python `int`. -/
def ofNat (value : Nat) : Value := .int value

/-- `type(value).__name__`; the class of an `Enum` member is not kept. -/
def typeName : Value → String
  | .none => "NoneType"
  | .bool _ => "bool"
  | .int _ => "int"
  | .float _ => "float"
  | .str _ => "str"
  | .bytes _ => "bytes"
  | .enum _ => "Enum"
  | .list _ => "list"
  | .tuple _ => "tuple"
  | .set _ => "set"
  | .mapping _ => "dict"
  | .object name => name

/-- A mapping literal with string keys. -/
def record (entries : List (String × Value)) : Value :=
  .mapping (entries.map fun entry => (.str entry.1, entry.2))

end Value

/-- Exception classes which the modelled code raises or names in an `except` clause. -/
inductive ErrorClass
  | glassBoxError
  | domainValidationError
  | identityError
  | credentialExpiredError
  | delegationError
  | mandateError
  | mandateNotFoundError
  | mandateRevokedError
  | mandateExceededError
  | policyError
  | policyBundleUnavailableError
  | policyBundleSignatureError
  | catalogueError
  | actionNotGovernedError
  | catalogueBundleUnavailableError
  | attestationUnavailableError
  | killSwitchUnavailableError
  | toolRegistryError
  | toolNotGovernedError
  | toolRegistryUnavailableError
  | toolQuarantinedError
  | riskError
  | riskModelUnavailableError
  | limitStoreUnavailable
  | baselineStoreUnavailable
  | evidenceError
  | evidenceWriteError
  | evidenceIntegrityError
  | signingUnavailableError
  | dispatchError
  | dispatchTimeoutError
  | dispatchRefusedError
  | toolOutputQuarantinedError
  | approvalError
  | approvalNotFoundError
  | approvalGatewayUnavailableError
  | approvalTransitionError
  | valueError
  /-- Any exception class outside the hierarchy. -/
  | other (name : String)
  deriving DecidableEq

namespace ErrorClass

/-- Python's `__name__` of the class. -/
def name : ErrorClass → String
  | glassBoxError => "GlassBoxError"
  | domainValidationError => "DomainValidationError"
  | identityError => "IdentityError"
  | credentialExpiredError => "CredentialExpiredError"
  | delegationError => "DelegationError"
  | mandateError => "MandateError"
  | mandateNotFoundError => "MandateNotFoundError"
  | mandateRevokedError => "MandateRevokedError"
  | mandateExceededError => "MandateExceededError"
  | policyError => "PolicyError"
  | policyBundleUnavailableError => "PolicyBundleUnavailableError"
  | policyBundleSignatureError => "PolicyBundleSignatureError"
  | catalogueError => "CatalogueError"
  | actionNotGovernedError => "ActionNotGovernedError"
  | catalogueBundleUnavailableError => "CatalogueBundleUnavailableError"
  | attestationUnavailableError => "AttestationUnavailableError"
  | killSwitchUnavailableError => "KillSwitchUnavailableError"
  | toolRegistryError => "ToolRegistryError"
  | toolNotGovernedError => "ToolNotGovernedError"
  | toolRegistryUnavailableError => "ToolRegistryUnavailableError"
  | toolQuarantinedError => "ToolQuarantinedError"
  | riskError => "RiskError"
  | riskModelUnavailableError => "RiskModelUnavailableError"
  | limitStoreUnavailable => "LimitStoreUnavailable"
  | baselineStoreUnavailable => "BaselineStoreUnavailable"
  | evidenceError => "EvidenceError"
  | evidenceWriteError => "EvidenceWriteError"
  | evidenceIntegrityError => "EvidenceIntegrityError"
  | signingUnavailableError => "SigningUnavailableError"
  | dispatchError => "DispatchError"
  | dispatchTimeoutError => "DispatchTimeoutError"
  | dispatchRefusedError => "DispatchRefusedError"
  | toolOutputQuarantinedError => "ToolOutputQuarantinedError"
  | approvalError => "ApprovalError"
  | approvalNotFoundError => "ApprovalNotFoundError"
  | approvalGatewayUnavailableError => "ApprovalGatewayUnavailableError"
  | approvalTransitionError => "ApprovalTransitionError"
  | valueError => "ValueError"
  | other name => name

/-- The `code` of the class; exceptions outside the hierarchy have none. -/
def code : ErrorClass → Option String
  | glassBoxError => some "glassbox_error"
  | domainValidationError => some "domain_validation_failed"
  | identityError => some "identity_verification_failed"
  | credentialExpiredError => some "credential_expired"
  | delegationError => some "delegation_invalid"
  | mandateError => some "mandate_error"
  | mandateNotFoundError => some "mandate_not_found"
  | mandateRevokedError => some "mandate_revoked"
  | mandateExceededError => some "mandate_exceeded"
  | policyError => some "policy_error"
  | policyBundleUnavailableError => some "policy_bundle_unavailable"
  | policyBundleSignatureError => some "policy_bundle_signature_invalid"
  | catalogueError => some "catalogue_error"
  | actionNotGovernedError => some "action_not_governed"
  | catalogueBundleUnavailableError => some "catalogue_bundle_unavailable"
  | attestationUnavailableError => some "attestation_unavailable"
  | killSwitchUnavailableError => some "kill_switch_unavailable"
  | toolRegistryError => some "tool_registry_error"
  | toolNotGovernedError => some "tool_not_governed"
  | toolRegistryUnavailableError => some "tool_registry_unavailable"
  | toolQuarantinedError => some "tool_quarantined"
  | riskError => some "risk_error"
  | riskModelUnavailableError => some "risk_model_unavailable"
  | limitStoreUnavailable => some "limit_store_unavailable"
  | baselineStoreUnavailable => some "baseline_store_unavailable"
  | evidenceError => some "evidence_error"
  | evidenceWriteError => some "evidence_write_failed"
  | evidenceIntegrityError => some "evidence_integrity_failed"
  | signingUnavailableError => some "signing_unavailable"
  | dispatchError => some "dispatch_error"
  | dispatchTimeoutError => some "dispatch_timeout"
  | dispatchRefusedError => some "dispatch_refused_no_evidence"
  | toolOutputQuarantinedError => some "tool_output_quarantined"
  | approvalError => some "approval_error"
  | approvalNotFoundError => some "approval_not_found"
  | approvalGatewayUnavailableError => some "approval_gateway_unavailable"
  | approvalTransitionError => some "approval_transition_invalid"
  | valueError | other _ => none

/-- Every class an instance of this class is also an instance of, the class itself included. -/
def ancestors : ErrorClass → List ErrorClass
  | glassBoxError => [glassBoxError]
  | domainValidationError => [domainValidationError, glassBoxError, valueError]
  | identityError => [identityError, glassBoxError]
  | credentialExpiredError => [credentialExpiredError, identityError, glassBoxError]
  | delegationError => [delegationError, identityError, glassBoxError]
  | mandateError => [mandateError, glassBoxError]
  | mandateNotFoundError => [mandateNotFoundError, mandateError, glassBoxError]
  | mandateRevokedError => [mandateRevokedError, mandateError, glassBoxError]
  | mandateExceededError => [mandateExceededError, mandateError, glassBoxError]
  | policyError => [policyError, glassBoxError]
  | policyBundleUnavailableError => [policyBundleUnavailableError, policyError, glassBoxError]
  | policyBundleSignatureError => [policyBundleSignatureError, policyError, glassBoxError]
  | catalogueError => [catalogueError, glassBoxError]
  | actionNotGovernedError => [actionNotGovernedError, catalogueError, glassBoxError]
  | catalogueBundleUnavailableError =>
    [catalogueBundleUnavailableError, catalogueError, glassBoxError]
  | attestationUnavailableError => [attestationUnavailableError, glassBoxError]
  | killSwitchUnavailableError => [killSwitchUnavailableError, glassBoxError]
  | toolRegistryError => [toolRegistryError, glassBoxError]
  | toolNotGovernedError => [toolNotGovernedError, toolRegistryError, glassBoxError]
  | toolRegistryUnavailableError => [toolRegistryUnavailableError, toolRegistryError, glassBoxError]
  | toolQuarantinedError => [toolQuarantinedError, toolRegistryError, glassBoxError]
  | riskError => [riskError, glassBoxError]
  | riskModelUnavailableError => [riskModelUnavailableError, riskError, glassBoxError]
  | limitStoreUnavailable => [limitStoreUnavailable, glassBoxError]
  | baselineStoreUnavailable => [baselineStoreUnavailable, glassBoxError]
  | evidenceError => [evidenceError, glassBoxError]
  | evidenceWriteError => [evidenceWriteError, evidenceError, glassBoxError]
  | evidenceIntegrityError => [evidenceIntegrityError, evidenceError, glassBoxError]
  | signingUnavailableError => [signingUnavailableError, evidenceError, glassBoxError]
  | dispatchError => [dispatchError, glassBoxError]
  | dispatchTimeoutError => [dispatchTimeoutError, dispatchError, glassBoxError]
  | dispatchRefusedError => [dispatchRefusedError, dispatchError, glassBoxError]
  | toolOutputQuarantinedError => [toolOutputQuarantinedError, dispatchError, glassBoxError]
  | approvalError => [approvalError, glassBoxError]
  | approvalNotFoundError => [approvalNotFoundError, approvalError, glassBoxError]
  | approvalGatewayUnavailableError =>
    [approvalGatewayUnavailableError, approvalError, glassBoxError]
  | approvalTransitionError => [approvalTransitionError, approvalError, glassBoxError]
  | valueError => [valueError]
  | other name => [other name]

end ErrorClass

/-- A raised exception: its class, its message and the keyword context it was raised with. -/
structure PyError where
  cls : ErrorClass
  message : String
  /-- Keyword context, before `GlassBoxError` coerces the values with `str`. -/
  context : List (String × Value) := []

namespace PyError

/-- Whether an `except` clause naming `cls` takes this exception. -/
def isA (error : PyError) (cls : ErrorClass) : Bool := cls ∈ error.cls.ancestors

/-- `raise DomainValidationError(message, field=field, **context)`. -/
def validation (message field : String) (context : List (String × Value) := []) : PyError :=
  { cls := .domainValidationError, message, context := context ++ [("field", .str field)] }

def evidenceWrite (message : String) (context : List (String × Value) := []) : PyError :=
  { cls := .evidenceWriteError, message, context }

end PyError

end GlassBox
