import GlassBox.Domain.Serialization

/-!
# Principals and delegation

`domain/identity.py`.  A delegation chain carries the proof that authority only narrows along it,
and a verified principal carries the proof that its chain starts and ends where it says.
-/

namespace GlassBox

/-- Supported workload-credential formats. -/
inductive CredentialType
  | spiffe
  | oidc
  | mtls
  deriving DecidableEq

def CredentialType.value : CredentialType → String
  | spiffe => "spiffe"
  | oidc => "oidc"
  | mtls => "mtls"

/-- What kind of actor occupies a hop. -/
inductive SubjectType
  | human
  | agent
  | service
  deriving DecidableEq

def SubjectType.value : SubjectType → String
  | human => "human"
  | agent => "agent"
  | service => "service"

/-- An unverified credential as presented by a caller. -/
structure RawCredential where
  credentialType : CredentialType
  material : Text
  presentedAt : Timestamp

def RawCredential.make (credentialType : CredentialType) (material : String) (presentedAt : ℚ) :
    Except PyError RawCredential := do
  let material ← requireNonEmpty material "material"
  let presentedAt ← requireTimestamp presentedAt "presented_at"
  return { credentialType, material, presentedAt }

/-- One verified link in a chain of authority. -/
structure DelegationHop where
  subject : Identifier
  subjectType : SubjectType
  capabilities : Finset Identifier
  issuedAt : Timestamp
  expiresAt : Timestamp
  issued_before_expiry : issuedAt.val < expiresAt.val

/-- The capability names in `sorted` order. -/
def sortedNames (capabilities : Finset Identifier) : Value :=
  .list (((capabilities.image Subtype.val).sort).map .str)

namespace DelegationHop

/-- Whether this hop's authority is live at `now`. -/
def isValidAt (hop : DelegationHop) (now : ℚ) : Bool :=
  hop.issuedAt.val ≤ now && now < hop.expiresAt.val

/-- `delegate` narrows the authority of `delegator`. -/
def Attenuates (delegator delegate : DelegationHop) : Prop :=
  delegate.capabilities ⊆ delegator.capabilities ∧ delegate.expiresAt.val ≤ delegator.expiresAt.val

def asEvidence (hop : DelegationHop) : List (String × Value) :=
  [("subject", .str hop.subject.val), ("subject_type", .str hop.subjectType.value),
    ("capabilities", sortedNames hop.capabilities),
    ("issued_at", .ofRat hop.issuedAt.val), ("expires_at", .ofRat hop.expiresAt.val)]

end DelegationHop

/-- An attenuating chain of authority, root first. -/
structure DelegationChain where
  hops : List DelegationHop := []
  attenuating : hops.IsChain DelegationHop.Attenuates

namespace DelegationChain

def empty : DelegationChain where
  hops := []
  attenuating := .nil

/-- Whether every hop of a non-empty chain is live at `now`. -/
def isValidAt (chain : DelegationChain) (now : ℚ) : Bool :=
  !chain.hops.isEmpty && chain.hops.all fun hop => hop.isValidAt now

end DelegationChain

structure VerifiedPrincipal where
  agentRef : Identifier
  agentInstanceId : Identifier
  tenantId : Identifier
  credentialType : CredentialType
  credentialId : Identifier
  issuedAt : Timestamp
  expiresAt : Timestamp
  delegatingSubject : Option Identifier := none
  delegationChain : DelegationChain := .empty
  claims : List (String × Value) := []
  issued_before_expiry : issuedAt.val < expiresAt.val
  /-- The last hop of the chain is the acting agent. -/
  leaf_is_agent : ∀ hop ∈ delegationChain.hops.getLast?, hop.subject = agentRef
  /-- The first hop of the chain is the delegating subject, if one is named. -/
  root_is_delegator : ∀ hop ∈ delegationChain.hops.head?, ∀ subject ∈ delegatingSubject,
    hop.subject = subject

namespace VerifiedPrincipal

/-- `VerifiedPrincipal(…)` without a delegation chain and without claims. -/
def make [Runtime] (agentRef agentInstanceId tenantId : String) (credentialType : CredentialType)
    (credentialId : String) (issuedAt expiresAt : PyFloat) (delegatingSubject : Option Value) :
    Except PyError VerifiedPrincipal := do
  let agentRef ← requireIdentifier agentRef "agent_ref"
  let agentInstanceId ← requireIdentifier agentInstanceId "agent_instance_id"
  let tenantId ← requireIdentifier tenantId "tenant_id"
  let credentialId ← requireIdentifier credentialId "credential_id"
  let issuedAt ← requireTimestamp (← requireFinite issuedAt "issued_at") "issued_at"
  let expiresAt ← requireTimestamp (← requireFinite expiresAt "expires_at") "expires_at"
  if issued_before_expiry : issuedAt.val < expiresAt.val then
    let delegatingSubject ← delegatingSubject.mapM fun subject => do
      requireIdentifier (← requireString subject "delegating_subject") "delegating_subject"
    return {
      agentRef := agentRef
      agentInstanceId := agentInstanceId
      tenantId := tenantId
      credentialType := credentialType
      credentialId := credentialId
      issuedAt := issuedAt
      expiresAt := expiresAt
      delegatingSubject := delegatingSubject
      issued_before_expiry := issued_before_expiry
      leaf_is_agent := by simp [DelegationChain.empty]
      root_is_delegator := by simp [DelegationChain.empty] }
  else
    throw (.validation "expires_at must be strictly after issued_at" "expires_at"
      [("issued_at", .ofRat issuedAt.val), ("expires_at", .ofRat expiresAt.val)])

/-- Whether the credential is outside its validity window. -/
def isExpired (principal : VerifiedPrincipal) (now : Timestamp) : Bool :=
  !(principal.issuedAt.val ≤ now.val && now.val < principal.expiresAt.val)

/-- `require_valid_at`: refuse a principal whose credential or delegation is not live. -/
def requireValidAt (principal : VerifiedPrincipal) (now : ℚ) : Except PyError Unit := do
  let moment ← requireTimestamp now "now"
  if principal.isExpired moment then
    throw {
      cls := .credentialExpiredError
      message := "credential is outside its validity window"
      context := [("agent_ref", .str principal.agentRef.val),
        ("tenant_id", .str principal.tenantId.val),
        ("credential_id", .str principal.credentialId.val),
        ("issued_at", .ofRat principal.issuedAt.val),
        ("expires_at", .ofRat principal.expiresAt.val), ("now", .ofRat moment.val)] }
  if !principal.delegationChain.hops.isEmpty && !principal.delegationChain.isValidAt moment.val then
    throw {
      cls := .credentialExpiredError
      message := "a delegation hop is outside its validity window"
      context := [("agent_ref", .str principal.agentRef.val),
        ("tenant_id", .str principal.tenantId.val),
        ("chain_depth", .ofNat principal.delegationChain.hops.length),
        ("now", .ofRat moment.val)] }

/-- The identity fields recorded on every evidence row. -/
def asEvidence (principal : VerifiedPrincipal) : List (String × Value) :=
  [("agent_ref", .str principal.agentRef.val),
    ("agent_instance_id", .str principal.agentInstanceId.val),
    ("tenant_id", .str principal.tenantId.val),
    ("delegating_subject", .ofOptionStr (principal.delegatingSubject.map Subtype.val)),
    ("delegation_chain",
      .list (principal.delegationChain.hops.map fun hop => .record hop.asEvidence)),
    ("credential_type", .str principal.credentialType.value),
    ("credential_id", .str principal.credentialId.val),
    ("issued_at", .ofRat principal.issuedAt.val), ("expires_at", .ofRat principal.expiresAt.val),
    ("claims", .record (dictOf principal.claims))]

end VerifiedPrincipal

end GlassBox
