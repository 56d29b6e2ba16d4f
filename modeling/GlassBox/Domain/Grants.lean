import GlassBox.Domain.Mandate
import GlassBox.Domain.Sample

/-!
# What a mandate grants

A mandate permits an action exactly when it grants it on every dimension, and each dimension is
monotone.  Resources are granted by patterns over `kind/id`, and the star of a pattern also matches
a slash.
-/

namespace GlassBox

namespace Exposure

variable {exposure middle ceiling : Exposure}

theorem exceeds_eq_false_iff : exposure.exceeds ceiling = false ↔
    exposure.blastRadius.severity ≤ ceiling.blastRadius.severity ∧
      (∀ bound ∈ ceiling.monetary, ∃ amount ∈ exposure.monetary, amount.val ≤ bound.val) ∧
      ∀ bound ∈ ceiling.records, ∃ count ∈ exposure.records, count ≤ bound := by
  unfold exceeds
  cases ceiling.monetary <;> cases exposure.monetary <;> cases ceiling.records <;>
    cases exposure.records <;> simp [and_assoc]

theorem exceeds_self : exposure.exceeds exposure = false := by
  rw [exceeds_eq_false_iff]
  exact ⟨le_refl _, fun bound known => ⟨bound, known, le_refl _⟩,
    fun bound known => ⟨bound, known, le_refl _⟩⟩

theorem exceeds_trans (within : exposure.exceeds middle = false)
    (within' : middle.exceeds ceiling = false) : exposure.exceeds ceiling = false := by
  rw [exceeds_eq_false_iff] at *
  obtain ⟨radius, monetary, records⟩ := within
  obtain ⟨radius', monetary', records'⟩ := within'
  refine ⟨radius.trans radius', ?_, ?_⟩
  · intro bound known
    obtain ⟨between, known, below⟩ := monetary' bound known
    obtain ⟨amount, known, below'⟩ := monetary between known
    exact ⟨amount, known, below'.trans below⟩
  · intro bound known
    obtain ⟨between, known, below⟩ := records' bound known
    obtain ⟨count, known, below'⟩ := records between known
    exact ⟨count, known, below'.trans below⟩

end Exposure

namespace Mandate

variable [Runtime]

/-- The mandate grants the action on every dimension. -/
structure Grants (mandate : Mandate) (action : ProposedAction) (moment : ℚ) : Prop where
  unrevoked : ∀ bound ∈ mandate.revokedAt, moment < bound.val
  begun : mandate.validFrom.val ≤ moment
  unexpired : ∀ bound ∈ mandate.validUntil, moment < bound.val
  tenantId : action.tenantId = mandate.tenantId
  covers_action : ∃ pattern ∈ mandate.allowedActions,
    Runtime.fnmatchcase action.action.val pattern.val = true
  covers_resource : ∃ pattern ∈ mandate.allowedResources,
    Runtime.fnmatchcase (resourceName action) pattern.val = true
  covers_pair : mandate.resourceScopedGrants = [] ∨ ∃ grant ∈ mandate.resourceScopedGrants,
    Runtime.fnmatchcase action.action.val grant.actionPattern.val = true ∧
      Runtime.fnmatchcase (resourceName action) grant.resourcePattern.val = true
  consequence : action.consequence.severity ≤ mandate.maxConsequence.severity
  exposure : action.exposure.exceeds mandate.maxExposure = false

def Permits (mandate : Mandate) (action : ProposedAction) (now : ℚ) : Prop :=
  ∃ verdict, mandate.permits action now = .ok verdict ∧ verdict.permitted = true

variable {mandate wide narrow : Mandate} {action : ProposedAction}

omit [Runtime] in
theorem periodReasons_eq_nil_iff {moment : Timestamp} : mandate.periodReasons moment = [] ↔
    (∀ bound ∈ mandate.revokedAt, moment.val < bound.val) ∧
      mandate.validFrom.val ≤ moment.val ∧
      ∀ bound ∈ mandate.validUntil, moment.val < bound.val := by
  have revoked : mandate.isRevokedAt moment = false ↔
      ∀ bound ∈ mandate.revokedAt, moment.val < bound.val := by
    unfold isRevokedAt
    cases mandate.revokedAt <;> simp
  rw [← revoked]
  unfold periodReasons
  cases mandate.isRevokedAt moment with
  | true => simp
  | false =>
    by_cases early : moment.val < mandate.validFrom.val
    · simp [early, not_le.mpr early]
    · cases mandate.validUntil <;> simp [early, not_lt.mp early]

theorem denialReasons_eq_nil_iff {moment : Timestamp} :
    mandate.denialReasons action moment = [] ↔ mandate.Grants action moment.val := by
  simp only [denialReasons, List.append_eq_nil_iff, periodReasons_eq_nil_iff]
  simp only [matchesAny, ite_eq_left_iff, ite_eq_right_iff, List.cons_ne_nil, imp_false,
    Bool.not_eq_true, not_not, not_lt, Bool.or_eq_true, List.isEmpty_iff, List.any_eq_true,
    Bool.and_eq_true]
  constructor
  · rintro ⟨⟨⟨⟨⟨⟨⟨unrevoked, begun, unexpired⟩, tenantId⟩, actions⟩, resources⟩, pairs⟩,
      consequence⟩, exposure⟩
    exact ⟨unrevoked, begun, unexpired, tenantId, actions, resources, pairs, consequence, exposure⟩
  · rintro ⟨unrevoked, begun, unexpired, tenantId, actions, resources, pairs, consequence, exposure⟩
    exact ⟨⟨⟨⟨⟨⟨⟨unrevoked, begun, unexpired⟩, tenantId⟩, actions⟩, resources⟩, pairs⟩,
      consequence⟩, exposure⟩

theorem permits_iff {now : ℚ} : mandate.Permits action now ↔
    ∃ moment : Timestamp, moment.val = now ∧ mandate.Grants action now := by
  simp only [Permits, permits, Except.bind_eq_ok_iff, requireTimestamp_eq_ok_iff]
  constructor
  · rintro ⟨_, ⟨moment, rfl, ⟨⟩⟩, permitted⟩
    exact ⟨moment, rfl, denialReasons_eq_nil_iff.mp (List.isEmpty_iff.mp permitted)⟩
  · rintro ⟨moment, rfl, grants⟩
    exact ⟨_, ⟨moment, rfl, rfl⟩, List.isEmpty_iff.mpr (denialReasons_eq_nil_iff.mpr grants)⟩

omit [Runtime] in
/-- A mandate of the same tenant which grants no more on any dimension. -/
structure Narrows (narrow wide : Mandate) : Prop where
  tenantId : narrow.tenantId = wide.tenantId
  actions : narrow.allowedActions ⊆ wide.allowedActions
  resources : narrow.allowedResources ⊆ wide.allowedResources
  consequence : narrow.maxConsequence.severity ≤ wide.maxConsequence.severity
  exposure : narrow.maxExposure.exceeds wide.maxExposure = false
  validFrom : wide.validFrom.val ≤ narrow.validFrom.val
  validUntil : ∀ bound ∈ wide.validUntil, ∃ earlier ∈ narrow.validUntil, earlier.val ≤ bound.val
  revokedAt : ∀ bound ∈ wide.revokedAt, ∃ earlier ∈ narrow.revokedAt, earlier.val ≤ bound.val
  pairs : wide.resourceScopedGrants = [] ∨
    narrow.resourceScopedGrants ≠ [] ∧ narrow.resourceScopedGrants ⊆ wide.resourceScopedGrants

/-- A mandate grants what a narrower one grants of an action which is no less consequential and no
less exposed. -/
theorem Grants.mono {consequence : ConsequenceClass} {exposure : Exposure} {now : ℚ}
    (narrows : narrow.Narrows wide) (milder : action.consequence.severity ≤ consequence.severity)
    (within : action.exposure.exceeds exposure = false)
    (grants : narrow.Grants { action with consequence, exposure } now) :
    wide.Grants action now where
  unrevoked := fun bound revoked => by
    obtain ⟨earlier, known, below⟩ := narrows.revokedAt bound revoked
    exact (grants.unrevoked earlier known).trans_le below
  begun := narrows.validFrom.trans grants.begun
  unexpired := fun bound expires => by
    obtain ⟨earlier, known, below⟩ := narrows.validUntil bound expires
    exact (grants.unexpired earlier known).trans_le below
  tenantId := grants.tenantId.trans narrows.tenantId
  covers_action := grants.covers_action.imp fun _ covers => covers.imp_left (narrows.actions ·)
  covers_resource :=
    grants.covers_resource.imp fun _ covers => covers.imp_left (narrows.resources ·)
  covers_pair := by
    refine narrows.pairs.imp_right ?_
    rintro ⟨restricted, included⟩
    exact (grants.covers_pair.resolve_left restricted).imp
      fun _ covers => covers.imp_left (included ·)
  consequence := milder.trans (grants.consequence.trans narrows.consequence)
  exposure := Exposure.exceeds_trans within
    (Exposure.exceeds_trans grants.exposure narrows.exposure)

/-- To stay within a ceiling is a preorder, and along it what a mandate permits is monotone. -/
theorem permits_mono :
    (∀ exposure : Exposure, exposure.exceeds exposure = false) ∧
    (∀ first second third : Exposure, first.exceeds second = false →
      second.exceeds third = false → first.exceeds third = false) ∧
    ∀ (narrow wide : Mandate) (action : ProposedAction) (consequence : ConsequenceClass)
      (exposure : Exposure) (now : ℚ), narrow.Narrows wide →
      action.consequence.severity ≤ consequence.severity →
      action.exposure.exceeds exposure = false →
      narrow.Permits { action with consequence, exposure } now → wide.Permits action now := by
  refine ⟨fun _ => Exposure.exceeds_self, fun _ _ _ => Exposure.exceeds_trans, ?_⟩
  intro narrow wide action consequence exposure now narrows milder within permits
  rw [permits_iff] at permits ⊢
  exact permits.imp fun moment => And.imp_right (Grants.mono narrows milder within)

/-- A mandate for every action on resources which match a pattern. -/
def onResources (pattern : Text) : Mandate where
  tenantId := acme
  agentRef := samplePrincipal.agentRef
  version := 1
  maxConsequence := .irreversible
  maxExposure := { blastRadius := .global }
  validFrom := Timestamp.epoch
  allowedActions := [Sample.everything]
  allowedResources := [pattern]
  version_positive := le_refl 1
  from_before_until := by simp
  grants_nodup := by simp

omit [Runtime] in
/-- A mandate for one account permits a compensable payment, and a wider one a reversible
payment. -/
theorem permits_mono_of_account :
    letI := plainRuntime
    let narrow : Mandate := { onResources ⟨"account/42", by decide⟩ with
      maxConsequence := .compensable
      maxExposure := {} }
    let wide : Mandate := { onResources Sample.everything with
      allowedResources := [⟨"account/42", by decide⟩, Sample.everything] }
    narrow.Permits (sampleAction Sample.pay .compensable none) 0 ∧
      wide.Permits (sampleAction Sample.pay .reversible none) 0 := by
  let _ := plainRuntime
  intro narrow wide
  have permits : narrow.Permits (sampleAction Sample.pay .compensable none) 0 :=
    ⟨_, rfl, by decide +kernel⟩
  have narrows : narrow.Narrows wide :=
    ⟨rfl, List.Subset.refl _, List.cons_subset_cons _ (List.nil_subset _), by decide, by decide,
      le_refl _, by simp [wide, onResources], by simp [wide, onResources], .inl rfl⟩
  exact ⟨permits, permits_mono.2.2 narrow wide _ .compensable {} 0 narrows (by decide) (by decide)
    permits⟩

omit [Runtime] in
/-- Every resource pattern is `K/*` for an identifier `K` without a slash; an identifier has no
other character which is special in a pattern. -/
def KindScoped (mandate : Mandate) : Prop :=
  ∀ pattern ∈ mandate.allowedResources, ∃ kind : Identifier, '/' ∉ kind.val.toList ∧
    pattern.val = kind.val ++ "/*"

/-- The kind begins with another kind and a slash. -/
def Nested (kind : Identifier) : Prop :=
  ∃ outer : Identifier, '/' ∉ outer.val.toList ∧ outer.val.toList ++ ['/'] <+: kind.val.toList

/-- `fnmatch` reads a final star behind a literal stem as any continuation of the stem. -/
def MatchesStems : Prop :=
  ∀ name stem : String, '*' ∉ stem.toList → '?' ∉ stem.toList → '[' ∉ stem.toList →
    (Runtime.fnmatchcase name (stem ++ "*") = true ↔ stem.toList <+: name.toList)

theorem fnmatchcase_kind_iff (stems : MatchesStems) {kind : Identifier} {name : String} :
    Runtime.fnmatchcase name (kind.val ++ "/*") = true ↔
      kind.val.toList ++ ['/'] <+: name.toList := by
  have literal : ∀ char, isIdentifierChar char = false → char ≠ '\n' →
      char ∉ (kind.val ++ "/").toList := by
    intro char foreign visible member
    rw [String.toList_append, List.mem_append] at member
    rcases member with member | member
    · exact kind.notMem foreign visible member
    · rw [List.mem_singleton.mp member] at foreign
      cases foreign
  have matched := stems name (kind.val ++ "/")
    (literal _ rfl (by decide)) (literal _ rfl (by decide)) (literal _ rfl (by decide))
  rwa [String.append_assoc, String.toList_append] at matched

theorem kind_covered_iff (stems : MatchesStems) (kind : Identifier) :
    (∀ (mandate : Mandate) (action : ProposedAction) (now : ℚ), mandate.KindScoped →
      action.resource.kind = kind → mandate.Permits action now →
      ∃ pattern ∈ mandate.allowedResources, pattern.val = kind.val ++ "/*") ↔ ¬ Nested kind := by
  constructor
  · rintro covered ⟨outer, unslashed, front⟩
    let pattern : Text := ⟨outer.val ++ "/*", by
      simp [isBlank_append, show isBlank "/*" = false by decide]⟩
    let action : ProposedAction :=
      { sampleAction Sample.pay .reversible none with resource := ⟨kind, Sample.account42, acme⟩ }
    have star : Runtime.fnmatchcase action.action.val "*" = true :=
      (stems action.action.val "" (by simp) (by simp) (by simp)).mpr (by simp)
    have covers : Runtime.fnmatchcase (resourceName action) pattern.val = true := by
      rw [fnmatchcase_kind_iff stems]
      simpa [resourceName, String.toList_append] using front.trans (List.prefix_append _ _)
    have grants : (onResources pattern).Grants action 0 :=
      ⟨by simp [onResources], le_refl _, by simp [onResources], rfl, ⟨_, List.mem_cons_self, star⟩,
        ⟨_, List.mem_cons_self, covers⟩, .inl rfl, Nat.le_of_ble_eq_true rfl, rfl⟩
    have kinds : (onResources pattern).KindScoped := by
      intro other member
      rw [List.mem_singleton.mp member]
      exact ⟨outer, unslashed, rfl⟩
    obtain ⟨_, member, same⟩ := covered _ action 0 kinds rfl
      (permits_iff.mpr ⟨Timestamp.epoch, rfl, grants⟩)
    rw [List.mem_singleton.mp member] at same
    have same := congrArg String.toList same
    rw [String.toList_append, String.toList_append, List.append_cancel_right_eq] at same
    exact unslashed (same ▸ front.subset (by simp))
  · rintro unnested mandate action now kinds rfl permits
    obtain ⟨moment, -, grants⟩ := permits_iff.mp permits
    obtain ⟨pattern, member, covers⟩ := grants.covers_resource
    obtain ⟨kind, unslashed, pattern_eq⟩ := kinds pattern member
    rw [pattern_eq, fnmatchcase_kind_iff stems] at covers
    refine ⟨pattern, member, ?_⟩
    have own : action.resource.kind.val.toList ++ ['/'] <+: (resourceName action).toList := by
      simp [resourceName, String.toList_append]
    rcases List.prefix_or_prefix_of_prefix covers own with inner | outer
    · rcases List.prefix_concat_iff.mp inner with same | inner
      · rw [pattern_eq, String.toList_injective (List.append_cancel_right same)]
      · exact absurd ⟨kind, unslashed, inner⟩ unnested
    · rcases List.prefix_concat_iff.mp outer with same | outer
      · rw [pattern_eq, String.toList_injective (List.append_cancel_right same)]
      · exact absurd (outer.subset (by simp)) unslashed

/-- A runtime whose patterns are names and stems with a final star. -/
@[reducible]
def stemRuntime : Runtime :=
  { plainRuntime with
    fnmatchcase := fun name pattern => pattern.toList.getLast? = some '*' ∧
      pattern.toList.dropLast <+: name.toList }

omit [Runtime] in
theorem matchesStems_stemRuntime : @MatchesStems stemRuntime := by
  intro name stem _ _ _
  change decide _ = true ↔ _
  simp [String.toList_append]

omit [Runtime] in
theorem kind_covered_flat :
    letI := stemRuntime
    '/' ∉ Sample.account.val.toList ∧
    ∀ (mandate : Mandate) (action : ProposedAction) (now : ℚ), mandate.KindScoped →
      action.resource.kind = Sample.account → mandate.Permits action now →
      ∃ pattern ∈ mandate.allowedResources, pattern.val = Sample.account.val ++ "/*" := by
  let _ := stemRuntime
  have flat : '/' ∉ Sample.account.val.toList := by decide
  refine ⟨flat, (kind_covered_iff matchesStems_stemRuntime Sample.account).mpr ?_⟩
  rintro ⟨outer, -, front⟩
  exact absurd (front.subset (by simp)) flat

omit [Runtime] in
theorem nested_kind_permitted :
    letI := stemRuntime
    let kind : Identifier := ⟨"a/b", by decide⟩
    let mandate := onResources ⟨"a/*", by decide⟩
    let action : ProposedAction :=
      { sampleAction Sample.pay .reversible none with resource := ⟨kind, Sample.account42, acme⟩ }
    MatchesStems ∧ mandate.KindScoped ∧ mandate.Permits action 0 ∧
      ¬ ∃ pattern ∈ mandate.allowedResources, pattern.val = kind.val ++ "/*" := by
  let _ := stemRuntime
  refine ⟨matchesStems_stemRuntime, ?_, ⟨_, rfl, by decide +kernel⟩, by decide⟩
  rintro pattern (_ | ⟨_, ⟨⟩⟩)
  exact ⟨⟨"a", by decide⟩, by decide, by decide⟩

end Mandate

end GlassBox
