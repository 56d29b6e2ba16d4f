import GlassBox.Domain.Sample

/-!
# Verifying delegation chains

`verify_delegation_chain` of `adapters/outbound/identity/delegation.py`.  A token names the subject
of its own hop, so a signature says nothing about the hop before it: any tokens whose authority
narrows make a chain.
-/

namespace GlassBox

open Except (bind_eq_ok_iff)

def identityError (message : String) (context : List (String × Value) := []) : PyError :=
  { cls := .identityError, message, context }

namespace DelegationHop

/-- A hop expires after its issue. -/
def make [Runtime] (subject : Value) (subjectType : SubjectType) (capabilities : List String)
    (issuedAt expiresAt : PyFloat) : Except PyError DelegationHop := do
  let subject ← requireIdentifier (← requireString subject "subject") "subject"
  let capabilities ← capabilities.mapM fun name => requireIdentifier name "capabilities"
  let issuedAt ← requireTimestamp (← requireFinite issuedAt "issued_at") "issued_at"
  let expiresAt ← requireTimestamp (← requireFinite expiresAt "expires_at") "expires_at"
  if issued_before_expiry : issuedAt.val < expiresAt.val then
    return ⟨subject, subjectType, capabilities.toFinset, issuedAt, expiresAt, issued_before_expiry⟩
  else
    throw (.validation "expires_at must be strictly after issued_at" "expires_at"
      [("issued_at", .ofRat issuedAt.val), ("expires_at", .ofRat expiresAt.val)])

/-- What `_require_attenuating` raises about two neighbours. -/
def widening (index : Nat) (delegator delegate : DelegationHop) : Option PyError :=
  let widened := delegate.capabilities \ delegator.capabilities
  let refused (message : String) (context : List (String × Value)) : PyError :=
    { cls := .delegationError, message, context := [("hop_index", .ofNat index),
      ("delegator", .str delegator.subject.val), ("delegate", .str delegate.subject.val)] ++
        context }
  if widened ≠ ∅ then
    some (refused "delegation chain widens authority; attenuation is mandatory"
      [("widened_capabilities", sortedNames widened)])
  else if delegator.expiresAt.val < delegate.expiresAt.val then
    some (refused "delegation chain extends validity beyond its delegator"
      [("delegator_expires_at", .ofRat delegator.expiresAt.val),
        ("delegate_expires_at", .ofRat delegate.expiresAt.val)])
  else none

theorem widening_eq_none_iff {index : Nat} {delegator delegate : DelegationHop} :
    widening index delegator delegate = none ↔ delegator.Attenuates delegate := by
  unfold widening Attenuates
  rw [← Finset.sdiff_eq_empty_iff_subset]
  dsimp only
  split
  next widened => simp [widened]
  next kept => split <;> simp_all

end DelegationHop

/-- No hop holds more than the one before it. -/
def requireAttenuating (index : Nat) : List DelegationHop → Except PyError Unit
  | delegator :: delegate :: hops =>
    match DelegationHop.widening index delegator delegate with
    | some error => .error error
    | none => requireAttenuating (index + 1) (delegate :: hops)
  | _ => .ok ()

theorem requireAttenuating_eq_ok_iff {index : Nat} {hops : List DelegationHop} :
    requireAttenuating index hops = .ok () ↔ hops.IsChain DelegationHop.Attenuates := by
  fun_induction requireAttenuating index hops with
  | case1 index delegator delegate hops error widened =>
    simp [← @DelegationHop.widening_eq_none_iff index, widened]
  | case2 index delegator delegate hops narrows ih =>
    simp [ih, DelegationHop.widening_eq_none_iff.mp narrows]
  | case3 hops index short =>
    cases hops with
    | nil => simp
    | cons hop hops =>
      cases hops with
      | nil => simp
      | cons next hops => exact absurd rfl (short hop next hops)

/-- A chain whose hops were compared. -/
def DelegationChain.make (hops : List DelegationHop) : Except PyError DelegationChain :=
  match checked : requireAttenuating 1 hops with
  | .ok () => .ok ⟨hops, requireAttenuating_eq_ok_iff.mp checked⟩
  | .error error => .error error

theorem DelegationChain.make_eq_ok {hops : List DelegationHop}
    (attenuating : hops.IsChain DelegationHop.Attenuates) :
    DelegationChain.make hops = .ok ⟨hops, attenuating⟩ := by
  unfold make
  split
  next => rfl
  next error refused => simp [requireAttenuating_eq_ok_iff.mpr attenuating] at refused

namespace DelegationHop

instance : Std.Refl Attenuates where
  refl _ := ⟨Finset.Subset.refl _, le_refl _⟩

instance : IsTrans DelegationHop Attenuates where
  trans _ _ _ narrows narrows' := ⟨narrows'.1.trans narrows.1, narrows'.2.trans narrows.2⟩

end DelegationHop

namespace DelegationChain

/-- What every hop of the chain holds. -/
def effectiveCapabilities (chain : DelegationChain) : Finset Identifier :=
  match chain.hops with
  | [] => ∅
  | hop :: hops => hops.foldl (fun effective hop => effective ∩ hop.capabilities) hop.capabilities

theorem mem_foldl_inter {name : Identifier} {effective : Finset Identifier}
    {hops : List DelegationHop} :
    name ∈ hops.foldl (fun effective hop => effective ∩ hop.capabilities) effective ↔
      name ∈ effective ∧ ∀ hop ∈ hops, name ∈ hop.capabilities := by
  induction hops generalizing effective with
  | nil => simp
  | cons hop hops ih => simp [ih, and_assoc]

theorem mem_effectiveCapabilities_iff {chain : DelegationChain} {name : Identifier}
    (nonempty : chain.hops ≠ []) :
    name ∈ chain.effectiveCapabilities ↔ ∀ hop ∈ chain.hops, name ∈ hop.capabilities := by
  unfold effectiveCapabilities
  cases hops_eq : chain.hops with
  | nil => exact absurd hops_eq nonempty
  | cons hop hops => simp [mem_foldl_inter]

theorem attenuates_leaf (chain : DelegationChain) (nonempty : chain.hops ≠ []) :
    ∀ hop ∈ chain.hops, hop.Attenuates (chain.hops.getLast nonempty) := by
  intro hop member
  exact (List.isChain_iff_pairwise.mp chain.attenuating).rel_getLast member

/-- A chain which is accepted holds what its leaf holds, has only parts which are accepted, and is
valid from its last issue until its leaf expires. -/
theorem accepted_chain_narrows {hops : List DelegationHop} {chain : DelegationChain}
    (accepted : make hops = .ok chain) (nonempty : hops ≠ []) :
    chain.effectiveCapabilities = (hops.getLast nonempty).capabilities ∧
      (∀ hop ∈ hops, chain.effectiveCapabilities ⊆ hop.capabilities) ∧
      (∀ part, part <:+: hops → ∃ narrower, make part = .ok narrower ∧ narrower.hops = part) ∧
      ∀ now, chain.isValidAt now = true ↔
        (hops.map fun hop => hop.issuedAt.val).maximum ≤ now ∧
          now < (hops.getLast nonempty).expiresAt.val := by
  obtain rfl : chain.hops = hops := by
    unfold make at accepted
    split at accepted
    · cases accepted
      rfl
    · cases accepted
  have narrows := chain.attenuates_leaf nonempty
  have leaf_mem := List.getLast_mem nonempty
  refine ⟨?_, ?_, ?_, ?_⟩
  · ext name
    rw [mem_effectiveCapabilities_iff nonempty]
    exact ⟨fun held => held _ leaf_mem, fun held hop member => (narrows hop member).1 held⟩
  · intro hop member name held
    exact (mem_effectiveCapabilities_iff nonempty).mp held hop member
  · intro part contiguous
    have narrowing := List.IsChain.infix chain.attenuating contiguous
    exact ⟨_, make_eq_ok narrowing, rfl⟩
  · intro now
    simp only [isValidAt, DelegationHop.isValidAt, Bool.and_eq_true, List.all_eq_true,
      decide_eq_true_eq, Bool.not_eq_true', List.isEmpty_eq_false_iff]
    constructor
    · rintro ⟨-, valid⟩
      refine ⟨List.maximum_le_of_forall_le ?_, (valid _ leaf_mem).2⟩
      simpa using fun hop member => (valid hop member).1
    · rintro ⟨issued, unexpired⟩
      refine ⟨nonempty, fun hop member => ⟨?_, unexpired.trans_le (narrows hop member).2⟩⟩
      exact WithBot.coe_le_coe.mp
        ((List.le_maximum_of_mem' (List.mem_map_of_mem member)).trans issued)

/-- Of two capabilities the leaf keeps one, and the chain holds that one, for the time of the
leaf. -/
theorem accepted_chain_narrows_two :
    let delegator : DelegationHop := ⟨Sample.account, .human, {Sample.read, Sample.pay}, .epoch,
      ⟨20, by norm_num [maxTimestamp]⟩, by norm_num⟩
    let leaf : DelegationHop := ⟨samplePrincipal.agentRef, .agent, {Sample.read}, .one,
      ⟨10, by norm_num [maxTimestamp]⟩, by norm_num⟩
    ∃ chain, make [delegator, leaf] = .ok chain ∧ chain.effectiveCapabilities = {Sample.read} ∧
      ∀ now, chain.isValidAt now = true ↔ 1 ≤ now ∧ now < 10 := by
  intro delegator leaf
  have narrows : delegator.Attenuates leaf :=
    ⟨by simp [delegator, leaf], by norm_num [delegator, leaf]⟩
  have accepted := make_eq_ok (List.isChain_pair.mpr narrows)
  obtain ⟨held, -, -, valid⟩ := accepted_chain_narrows accepted (List.cons_ne_nil _ _)
  refine ⟨_, accepted, held, fun now => (valid now).trans ?_⟩
  have issued : ([delegator, leaf].map fun hop => hop.issuedAt.val).maximum = (1 : ℚ) := by
    decide +kernel
  rw [issued, WithBot.coe_le_coe]
  rfl

end DelegationChain

/-- What the adapters call on tokens.  Decoding fails with the name of the `ValueError` raised. -/
structure Jose (Key : Type) where
  b64decode : String → Except String ByteString
  jsonLoads : ByteString → Except String Value
  getKey : String → Except PyError Key
  verifySignature : String → Key → ByteString → ByteString → Except PyError Unit

namespace Jose

variable {Key : Type} (jose : Jose Key) (builtins : PyBuiltins)

/-- `token.split(".")`. -/
def segments (token : String) : List String := (token.toList.splitOn '.').map String.ofList

/-- `urlsafe_b64decode` of a segment with its padding restored. -/
def decodeSegment (segment : String) : Except String ByteString :=
  jose.b64decode (segment ++ String.ofList (List.replicate ((4 - segment.length % 4) % 4) '='))

def b64urlDecode (segment : String) : Except PyError ByteString :=
  (jose.decodeSegment segment).mapError fun cause =>
    identityError "credential is not valid base64url" [("cause", .str cause)]

def decodeJsonSegment (raw : ByteString) (part : String) : Except PyError JsonObject := do
  let decoded ← (jose.jsonLoads raw).mapError fun cause =>
    identityError ("credential " ++ part ++ " is not valid JSON") [("cause", .str cause)]
  match decoded.entries with
  | some entries => return entries
  | none => throw (identityError ("credential " ++ part ++ " must be a JSON object")
      [("part", .str part)])

/-- `verify_compact_jws`, of which only the claims are read. -/
def verifyCompactJws (token : String) (publicKey : Key) : Except PyError JsonObject :=
  match segments token with
  | [header64, payload64, signature64] => do
    let header ← jose.decodeJsonSegment (← jose.b64urlDecode header64) "header"
    match (["RS256", "ES256"]).find? fun name =>
        match header.lookup "alg" with
        | some (.str algorithm) => name = algorithm
        | _ => false with
    | none =>
      throw (identityError "credential algorithm is not permitted"
        [("algorithm", .str (builtins.str ((header.lookup "alg").getD .none))),
          ("permitted", .str "RS256,ES256")])
    | some algorithm =>
      let signature ← jose.b64urlDecode signature64
      jose.verifySignature algorithm publicKey signature (utf8 (header64 ++ "." ++ payload64))
      jose.decodeJsonSegment (← jose.b64urlDecode payload64) "payload"
  | parts => .error (identityError "credential is not a three-part compact JWS"
      [("part_count", .ofNat parts.length)])

/-- `_peek_header`, and the access to the header which follows. -/
def peekHeader (token : String) : Except PyError JsonObject :=
  match segments token with
  | [header64, _, _] => do
    let header ← (jose.decodeSegment header64 >>= jose.jsonLoads).mapError fun cause =>
      identityError "delegation hop header could not be decoded" [("cause", .str cause)]
    match header.entries with
    | some entries => return entries
    | none => throw {
        cls := .other "AttributeError"
        message := "'" ++ header.typeName ++ "' object has no attribute 'get'" }
  | _ => .error (identityError "delegation hop is not a three-part compact JWS")

/-- A claim must be there and not empty. -/
def requireClaim (claims : JsonObject) (name : String) : Except PyError Value :=
  match claims.lookup name with
  | none | some .none | some (.str "") => .error (identityError
      "delegation hop is missing a required claim" [("claim", .str name)])
  | some value => .ok value

/-- `claims.get("capabilities") or ()`, which has to be a list. -/
def capabilitiesOf (claims : JsonObject) : Except PyError (List Value) :=
  match claims.lookup "capabilities" with
  | none | some .none | some (.bool false) | some (.int 0) | some (.float (.finite 0))
  | some (.str "") | some (.mapping []) => .ok []
  | some (.list items) => .ok items
  | some _ => .error (identityError "delegation hop 'capabilities' must be a list")

variable [Runtime]

/-- A token is verified under the key it names. -/
def verifyHop (token : String) : Except PyError DelegationHop := do
  let header ← jose.peekHeader token
  let keyId := builtins.str ((header.lookup "kid").getD (.str ""))
  if keyId = "" then throw (identityError "delegation hop is missing 'kid'")
  let claims ← jose.verifyCompactJws builtins token (← jose.getKey keyId)
  let subject ← requireClaim claims "sub"
  let raw ← requireClaim claims "subject_type"
  let subjectType ← (builtins.enumMember [.human, .agent, .service] SubjectType.value "SubjectType"
    raw).mapError fun _ => identityError "delegation hop has an unsupported subject_type"
      [("value", .str (builtins.str raw))]
  let capabilities ← capabilitiesOf claims
  tryCatch
    (do
      let issuedAt ← builtins.float (← requireClaim claims "iat")
      let expiresAt ← builtins.float (← requireClaim claims "exp")
      DelegationHop.make subject subjectType (capabilities.map builtins.str) issuedAt expiresAt)
    fun error =>
      if error.isA .identityError then throw error
      else throw (identityError "delegation hop claims did not produce a valid hop"
        [("cause", .str error.cls.name), ("detail", .str error.message)])

/-- Every token is verified by itself. -/
def verifyDelegationChain (hopTokens : List String) : Except PyError DelegationChain := do
  DelegationChain.make (← hopTokens.mapM (jose.verifyHop builtins))

/-- Every list of tokens of these chains which is verified as a chain of two or more hops is a
contiguous part of one of them. -/
def Unspliced (issued : Set (List String)) : Prop :=
  ∀ tokens, (∀ token ∈ tokens, ∃ whole ∈ issued, token ∈ whole) →
    ∀ chain, jose.verifyDelegationChain builtins tokens = .ok chain → 2 ≤ chain.hops.length →
      ∃ whole ∈ issued, tokens <:+: whole

variable {jose builtins} {issued : Set (List String)} {issuedFor : String → String → Prop}

theorem verifyDelegationChain_pair {first second : String} {delegator delegate : DelegationHop}
    (verified : jose.verifyHop builtins first = .ok delegator)
    (verified' : jose.verifyHop builtins second = .ok delegate)
    (attenuates : delegator.Attenuates delegate) :
    ∃ chain, jose.verifyDelegationChain builtins [first, second] = .ok chain ∧
      chain.hops = [delegator, delegate] := by
  have attenuating : [delegator, delegate].IsChain DelegationHop.Attenuates := by simpa
  refine ⟨⟨_, attenuating⟩, ?_, rfl⟩
  simp only [verifyDelegationChain, List.mapM_cons, verified, verified']
  exact DelegationChain.make_eq_ok attenuating

/-- Chains whose tokens were issued for the token before them, none for itself: they cannot be
spliced exactly when none of their tokens is verified at all. -/
theorem unspliced_iff (honest : ∀ whole ∈ issued, whole.IsChain issuedFor)
    (irreflexive : ∀ token, ¬ issuedFor token token) :
    jose.Unspliced builtins issued ↔
      ∀ whole ∈ issued, ∀ token ∈ whole, ∀ hop, jose.verifyHop builtins token ≠ .ok hop := by
  constructor
  · intro unspliced whole member token token_mem hop verified
    -- A verified token twice is a chain, since authority need not narrow strictly.
    obtain ⟨chain, accepted, hops_eq⟩ := verifyDelegationChain_pair verified verified
      ⟨Finset.Subset.refl _, le_refl _⟩
    obtain ⟨other, other_mem, repeated⟩ := unspliced [token, token]
      (by simpa using ⟨whole, member, token_mem⟩) chain accepted (by simp [hops_eq])
    have twice := List.IsChain.infix (honest other other_mem) repeated
    simp [irreflexive] at twice
  · intro unverified tokens drawn chain accepted long
    obtain ⟨hops, verified, made⟩ := bind_eq_ok_iff.mp accepted
    cases tokens with
    | nil =>
      cases verified
      cases made
      simp at long
    | cons token tokens =>
      obtain ⟨hop, verified, -⟩ := bind_eq_ok_iff.mp verified
      obtain ⟨whole, member, token_mem⟩ := drawn token List.mem_cons_self
      exact absurd verified (unverified whole member token token_mem hop)

/-- Decoding for tokens of the form `k.x.s`, which claim to be a token of `x`. -/
def sampleJose : Jose Unit where
  b64decode := fun segment => .ok (utf8 segment)
  jsonLoads := fun raw => .ok (.record (if raw = utf8 "k===" then
    [("kid", .str "k"), ("alg", .str "RS256")]
    else [("sub", .str (String.ofList ((raw.take 1).map fun byte => Char.ofNat byte.toNat))),
      ("subject_type", .str "agent"), ("iat", .int 0), ("exp", .int 1)]))
  getKey := fun _ => .ok ()
  verifySignature := fun _ _ _ _ => .ok ()

def sampleBuiltins : PyBuiltins where
  str := fun
    | .str text => text
    | other => other.typeName
  repr := Value.typeName
  parseInt := fun _ => none
  parseFloat := fun _ => none

omit [Runtime] in
/-- Tokens of two chains which are no JWS are not verified, and so not spliced either. -/
theorem unspliced_malformed :
    letI := plainRuntime
    sampleJose.Unspliced sampleBuiltins {["a", "b"], ["c", "d"]} := by
  let _ := plainRuntime
  let issuedFor (delegator delegate : String) : Prop :=
    (delegator, delegate) ∈ [("a", "b"), ("c", "d")]
  have honest : ∀ whole ∈ ({["a", "b"], ["c", "d"]} : Set (List String)),
      whole.IsChain issuedFor := by simp [issuedFor]
  have irreflexive : ∀ token, ¬ issuedFor token token := by simp +contextual [issuedFor]
  refine (unspliced_iff honest irreflexive).mpr fun whole member token token_mem hop verified => ?_
  have listed : token ∈ ["a", "b", "c", "d"] := by
    rcases member with rfl | rfl <;> revert token_mem <;> simp +contextual [or_imp]
  have refused : ∀ token ∈ ["a", "b", "c", "d"],
      (sampleJose.verifyHop sampleBuiltins token).toOption.isNone = true := by
    decide +kernel
  have unverified := refused token listed
  rw [verified] at unverified
  cases unverified

/-- The tokens of two chains, each with the one it was issued for. -/
def sampleIssued (delegator delegate : String) : Prop :=
  (delegator, delegate) ∈ [("k.a.s", "k.b.s"), ("k.c.s", "k.d.s")]

omit [Runtime] in
/-- The root of the first chain and the leaf of the second one. -/
theorem spliced_chain_accepted :
    letI := plainRuntime
    let issued : Set (List String) := {["k.a.s", "k.b.s"], ["k.c.s", "k.d.s"]}
    (∀ whole ∈ issued, whole.IsChain sampleIssued) ∧ (∀ token, ¬ sampleIssued token token) ∧
    (∃ chain, sampleJose.verifyDelegationChain sampleBuiltins ["k.a.s", "k.d.s"] = .ok chain ∧
      chain.hops.map (fun hop => hop.subject.val) = ["a", "d"]) ∧
    ¬ sampleJose.Unspliced sampleBuiltins issued := by
  let _ := plainRuntime
  have verified : ∀ name ∈ ["a", "d"], ∃ hop,
      sampleJose.verifyHop sampleBuiltins ("k." ++ name ++ ".s") = .ok hop ∧
        hop.subject.val = name ∧ hop.capabilities = ∅ ∧ hop.expiresAt.val = 1 := by
    intro name member
    have made :
        ((sampleJose.verifyHop sampleBuiltins ("k." ++ name ++ ".s")).toOption.map fun hop =>
        decide (hop.subject.val = name ∧ hop.capabilities = ∅ ∧ hop.expiresAt.val = 1)) =
        some true := by
      revert name
      decide +kernel
    cases run : sampleJose.verifyHop sampleBuiltins ("k." ++ name ++ ".s") with
    | error error => simp [run, Except.toOption] at made
    | ok hop => exact ⟨hop, rfl, by simpa [run, Except.toOption] using made⟩
  obtain ⟨root, root_eq, root_named, root_empty, root_ends⟩ := verified "a" (by simp)
  obtain ⟨leaf, leaf_eq, leaf_named, leaf_empty, leaf_ends⟩ := verified "d" (by simp)
  obtain ⟨chain, accepted, hops_eq⟩ := verifyDelegationChain_pair root_eq leaf_eq
    ⟨by simp [leaf_empty], by rw [root_ends, leaf_ends]⟩
  refine ⟨?_, ?_, ⟨chain, accepted, by simp [hops_eq, root_named, leaf_named]⟩, fun unspliced => ?_⟩
  · simp [sampleIssued]
  · simp +contextual [sampleIssued]
  · obtain ⟨whole, member, part⟩ := unspliced ["k.a.s", "k.d.s"] (by simp) chain accepted
      (by simp [hops_eq])
    have adjacent : whole.IsChain sampleIssued := by
      rcases member with rfl | rfl <;> simp [sampleIssued]
    simpa [sampleIssued] using adjacent.infix part

end Jose

end GlassBox
