/-
  Subject:   The choice of an adapter for a data requirement, with and without a suggestion.
-/
import ContextLock.Evm.Host
import ContextLock.Js.Map
import ContextLock.Js.TextOrder

namespace ContextLock.Adapters

open Js

/-! ## 1. Manifests and requirements -/

inductive DataTrustClass where
  | CONFIDENTIAL_VERIFIED_COMPUTE
  | VERIFIED_ORACLE
  | INDEXED_CHAIN_DATA
  | DIRECT_CHAIN_DATA
  | EXTERNAL_API
  | USER_UNTRUSTED
  deriving DecidableEq

namespace DataTrustClass

def text : DataTrustClass → String
  | CONFIDENTIAL_VERIFIED_COMPUTE => "CONFIDENTIAL_VERIFIED_COMPUTE"
  | VERIFIED_ORACLE => "VERIFIED_ORACLE"
  | INDEXED_CHAIN_DATA => "INDEXED_CHAIN_DATA"
  | DIRECT_CHAIN_DATA => "DIRECT_CHAIN_DATA"
  | EXTERNAL_API => "EXTERNAL_API"
  | USER_UNTRUSTED => "USER_UNTRUSTED"

/-- `trustRank`. -/
def rank : DataTrustClass → Nat
  | CONFIDENTIAL_VERIFIED_COMPUTE => 5
  | VERIFIED_ORACLE => 4
  | INDEXED_CHAIN_DATA => 3
  | DIRECT_CHAIN_DATA => 2
  | EXTERNAL_API => 1
  | USER_UNTRUSTED => 0

end DataTrustClass

def satisfiesTrust (offered required : DataTrustClass) : Bool := required.rank ≤ offered.rank

inductive AdapterType where
  | EXECUTION
  | STATE_DATA
  | VERIFIED_MARKET_DATA
  | EXTERNAL_CONTEXT
  | TRIGGER
  | CROSS_CHAIN
  deriving DecidableEq

def DATA_ADAPTER_TYPES : List AdapterType := [.STATE_DATA, .VERIFIED_MARKET_DATA, .EXTERNAL_CONTEXT]

structure AdapterCapability where
  dataKind : Option String
  trustClass : Option DataTrustClass
  deriving DecidableEq

inductive FreshnessKind where
  | sourceTimestamp
  | blockHeight
  | reportTimestamp
  | requestTime
  | unknown
  deriving DecidableEq

structure FreshnessSemantics where
  kind : FreshnessKind
  typicalStalenessMs : Option Nat
  deriving DecidableEq

inductive ExecutionPlacement where
  | studioBackend
  | generatedAgent
  | creConfidential
  | chainlinkFunctions
  | onchain
  deriving DecidableEq

def ExecutionPlacement.text : ExecutionPlacement → String
  | studioBackend => "studio-backend"
  | generatedAgent => "generated-agent"
  | creConfidential => "cre-confidential"
  | chainlinkFunctions => "chainlink-functions"
  | onchain => "onchain"

/-- The fields of a manifest that the choice of an adapter reads. -/
structure ContextLockAdapterManifest where
  id : String
  version : String
  adapterType : AdapterType
  supportedChains : List Nat
  capabilities : List AdapterCapability
  trustClass : DataTrustClass
  freshnessSemantics : FreshnessSemantics
  executionPlacement : ExecutionPlacement
  deriving DecidableEq

structure Fallback where
  adapterId : String
  adapterVersion : String
  allowedTrust : DataTrustClass
  maxAgeMs : Nat

structure DataRequirement where
  key : String
  kind : String
  chainId : Nat
  minimumTrustClass : DataTrustClass
  maxAgeMs : Nat
  confidential : Bool
  fallback : Option Fallback

def refOf (id version : String) : String := id ++ "@" ++ version

def adapterRef (m : ContextLockAdapterManifest) : String := refOf m.id m.version

structure AdapterRegistry where
  byRef : Js.Map ContextLockAdapterManifest
  keyed : ∀ e ∈ byRef.entries, e.1 = adapterRef e.2

namespace AdapterRegistry

/-- `has` and `resolve`: the manifest registered under an exact reference. -/
def resolve (registry : AdapterRegistry) (id version : String) : Option ContextLockAdapterManifest :=
  registry.byRef.get? (refOf id version)

/-- `list`: the manifests, sorted by reference. -/
def list (localeCompare : String → String → Int) (registry : AdapterRegistry) :
    List ContextLockAdapterManifest :=
  sortBy (fun a b => decide (localeCompare a b ≤ 0)) adapterRef (registry.byRef.entries.map Prod.snd)

end AdapterRegistry

/-! ## 2. Resolution -/

def capabilityFor (m : ContextLockAdapterManifest) (kind : String) : Option AdapterCapability :=
  m.capabilities.find? fun c => c.dataKind = some kind

/-- `cap?.trustClass ?? m.trustClass`: the trust at which a manifest offers the kind of data. -/
def offeredTrust (m : ContextLockAdapterManifest) (kind : String) : DataTrustClass :=
  ((capabilityFor m kind).bind AdapterCapability.trustClass).getD m.trustClass

structure AdapterSelection where
  key : String
  adapterId : String
  adapterVersion : String
  trustClass : DataTrustClass
  rationale : String
  fallback : Option Fallback

structure RejectedCandidate where
  ref : String
  reason : String

inductive ResolutionOutcome where
  | selected (selection : AdapterSelection) (rejected : List RejectedCandidate)
  | noCompatibleAdapter (requirement : DataRequirement) (rejected : List RejectedCandidate)

/-- What the filter of the resolver makes of a manifest. -/
inductive Assessment where
  | compatible
  | outOfScope
  | rejected (reason : String)
  deriving DecidableEq

def assess (requirement : DataRequirement) (m : ContextLockAdapterManifest) : Assessment :=
  let chainId := requirement.chainId
  let required := requirement.minimumTrustClass.text
  let maxAgeMs := requirement.maxAgeMs
  let placement := m.executionPlacement.text
  if m.adapterType = .EXECUTION ∨ m.adapterType = .TRIGGER ∨ m.adapterType = .CROSS_CHAIN then
    .outOfScope
  else if chainId ∉ m.supportedChains then .rejected s!"does not support chain {chainId}"
  else if capabilityFor m requirement.kind = none then .outOfScope
  else
    let offered := offeredTrust m requirement.kind
    let offeredText := offered.text
    if satisfiesTrust offered requirement.minimumTrustClass = false then
      .rejected (s!"offers {offeredText}, requirement is {required} — a weaker source may not "
        ++ "stand in")
    else if m.freshnessSemantics.kind = .unknown then
      .rejected s!"cannot report freshness, so it cannot satisfy maxAgeMs={maxAgeMs}"
    else
      let typical := m.freshnessSemantics.typicalStalenessMs.getD 0
      if maxAgeMs < typical then
        .rejected s!"typical staleness {typical}ms exceeds maxAgeMs={maxAgeMs}"
      else if requirement.confidential = true ∧ m.executionPlacement ≠ .creConfidential then
        .rejected s!"requirement is confidential but the adapter runs at {placement}"
      else .compatible

/-- `Number.MAX_SAFE_INTEGER`. -/
def maxSafeInteger : Nat := 2 ^ 53 - 1

section Resolve

-- the order of texts by language, of which nothing is assumed
variable (localeCompare : String → String → Int)

/-- `rank`: higher trust first, then lower staleness, then by reference. -/
def rank (a b : ContextLockAdapterManifest) (dataKind : String) : Int :=
  let t : Int := (offeredTrust b dataKind).rank - (offeredTrust a dataKind).rank
  let s : Int := (a.freshnessSemantics.typicalStalenessMs.getD maxSafeInteger : Nat)
    - (b.freshnessSemantics.typicalStalenessMs.getD maxSafeInteger : Nat)
  if t ≠ 0 then t else if s ≠ 0 then s else localeCompare (adapterRef a) (adapterRef b)

variable (registry : AdapterRegistry) (requirement : DataRequirement)

/-- The declared fallback, or why it is none. -/
def checkFallback : Option Fallback → Except RejectedCandidate (Option Fallback)
  | none => .ok none
  | some f =>
    match registry.resolve f.adapterId f.adapterVersion with
    | none => .error ⟨refOf f.adapterId f.adapterVersion, "declared fallback is not registered"⟩
    | some fm =>
      let offered := (offeredTrust fm requirement.kind).text
      let allowed := f.allowedTrust.text
      if satisfiesTrust (offeredTrust fm requirement.kind) f.allowedTrust then .ok (some f)
      else .error ⟨adapterRef fm,
        s!"declared fallback offers {offered} but the fallback allows only {allowed}"⟩

def rejectedCandidates : List RejectedCandidate :=
  (registry.list localeCompare).filterMap fun m =>
    match assess requirement m with
    | .rejected reason => some ⟨adapterRef m, reason⟩
    | _ => none

def resolveDataRequirement : ResolutionOutcome :=
  let rejected := rejectedCandidates localeCompare registry requirement
  let compatible := (registry.list localeCompare).filter fun m =>
    assess requirement m = .compatible
  match compatible.insertionSort (fun a b => rank localeCompare a b requirement.kind ≤ 0) with
  | [] => .noCompatibleAdapter requirement rejected
  | chosen :: others =>
    let trustClass := offeredTrust chosen requirement.kind
    let checked := checkFallback registry requirement requirement.fallback
    let allRejected := rejected ++ match checked with
      | .error candidate => [candidate]
      | .ok _ => []
    let ref := adapterRef chosen
    let trust := trustClass.text
    let kind := requirement.kind
    let chainId := requirement.chainId
    let required := requirement.minimumTrustClass.text
    let maxAgeMs := requirement.maxAgeMs
    let othersCount := others.length
    let rejectedCount := allRejected.length
    let rationale := s!"{ref} offers {trust} for \"" ++ kind ++ s!"\" on chain {chainId}, "
      ++ s!"meeting the required {required} within {maxAgeMs}ms"
      ++ (if 0 < othersCount then s!"; {othersCount} other compatible candidate(s) ranked lower"
        else "")
      ++ (if 0 < rejectedCount then s!"; {rejectedCount} candidate(s) rejected" else "")
    .selected ⟨requirement.key, chosen.id, chosen.version, trustClass, rationale,
      checked.toOption.join⟩ allRejected

structure ModelOverrideRejectedError where
  suggested : String
  reason : String

structure Suggestion where
  adapterId : String
  adapterVersion : String

def checkSuggestion (m : ContextLockAdapterManifest) : Except String Unit :=
  let kind := requirement.kind
  let chainId := requirement.chainId
  let offered := (offeredTrust m kind).text
  let required := requirement.minimumTrustClass.text
  let maxAgeMs := requirement.maxAgeMs
  let typical := m.freshnessSemantics.typicalStalenessMs.getD 0
  if capabilityFor m kind = none then .error ("does not provide \"" ++ kind ++ "\"")
  else if chainId ∉ m.supportedChains then .error s!"does not support chain {chainId}"
  else if satisfiesTrust (offeredTrust m kind) requirement.minimumTrustClass = false then
    .error s!"offers {offered} but the requirement is {required}"
  else if m.freshnessSemantics.kind = .unknown then .error "cannot report freshness"
  else if maxAgeMs < typical then
    .error s!"typical staleness {typical}ms exceeds maxAgeMs={maxAgeMs}"
  else .ok ()

def ResolutionOutcome.suggest (m : ContextLockAdapterManifest) :
    ResolutionOutcome → ResolutionOutcome
  | .noCompatibleAdapter r rejected => .noCompatibleAdapter r rejected
  | .selected selection rejected =>
    let ref := adapterRef m
    let required := requirement.minimumTrustClass.text
    let maxAgeMs := requirement.maxAgeMs
    .selected
      { selection with
        adapterId := m.id
        adapterVersion := m.version
        trustClass := offeredTrust m requirement.kind
        rationale := s!"{ref} selected on the model's suggestion; it independently satisfies "
          ++ s!"{required} within {maxAgeMs}ms" }
      rejected

def resolveWithSuggestion (suggested : Option Suggestion) :
    Except ModelOverrideRejectedError ResolutionOutcome :=
  match suggested with
  | none => .ok (resolveDataRequirement localeCompare registry requirement)
  | some s =>
    match registry.resolve s.adapterId s.adapterVersion with
    | none => .error ⟨refOf s.adapterId s.adapterVersion, "not registered"⟩
    | some m =>
      match checkSuggestion requirement m with
      | .error reason => .error ⟨refOf s.adapterId s.adapterVersion, reason⟩
      | .ok _ => .ok ((resolveDataRequirement localeCompare registry requirement).suggest requirement m)

end Resolve

/-! ## 3. What the resolver accepts -/

/-- The adapter is one the resolver accepts for the requirement. -/
structure Acceptable (requirement : DataRequirement) (m : ContextLockAdapterManifest) : Prop where
  dataType : m.adapterType ∈ DATA_ADAPTER_TYPES
  chain : requirement.chainId ∈ m.supportedChains
  provides : ∃ c, capabilityFor m requirement.kind = some c ∧
    satisfiesTrust (c.trustClass.getD m.trustClass) requirement.minimumTrustClass = true
  freshnessKnown : m.freshnessSemantics.kind ≠ .unknown
  fresh : m.freshnessSemantics.typicalStalenessMs.getD 0 ≤ requirement.maxAgeMs
  confidential : requirement.confidential = true → m.executionPlacement = .creConfidential

/-- The adapter may serve as the fallback. -/
structure FallbackAcceptable (requirement : DataRequirement) (f : Fallback)
    (m : ContextLockAdapterManifest) : Prop where
  chain : requirement.chainId ∈ m.supportedChains
  provides : ∃ c, capabilityFor m requirement.kind = some c ∧
    satisfiesTrust (c.trustClass.getD m.trustClass) f.allowedTrust = true
  confidential : requirement.confidential = true → m.executionPlacement = .creConfidential

theorem offeredTrust_of_some {m : ContextLockAdapterManifest} {kind : String} {c : AdapterCapability}
    (h : capabilityFor m kind = some c) : offeredTrust m kind = c.trustClass.getD m.trustClass := by
  rw [offeredTrust, h]
  rfl

theorem mem_dataTypes {t : AdapterType} :
    t ∈ DATA_ADAPTER_TYPES ↔ ¬ (t = .EXECUTION ∨ t = .TRIGGER ∨ t = .CROSS_CHAIN) := by
  cases t <;> decide

/-- **The filter of the resolver lets through what it accepts.** -/
theorem assess_compatible {requirement : DataRequirement} {m : ContextLockAdapterManifest} :
    assess requirement m = .compatible ↔ Acceptable requirement m := by
  unfold assess
  dsimp only
  constructor
  · intro h
    split_ifs at h with htype hchain hcapability htrust hkind hage hplacement
    obtain ⟨c, hc⟩ := Option.ne_none_iff_exists'.mp hcapability
    refine ⟨mem_dataTypes.mpr htype, hchain, ⟨c, hc, ?_⟩, hkind, not_lt.mp hage, ?_⟩
    · rw [← offeredTrust_of_some hc]
      simpa using htrust
    · intro hconfidential
      by_contra hne
      exact hplacement ⟨hconfidential, hne⟩
  · intro h
    obtain ⟨c, hc, htrust⟩ := h.provides
    rw [if_neg (mem_dataTypes.mp h.dataType), if_neg (not_not.mpr h.chain), if_neg (by simp [hc]),
      if_neg (by simp [offeredTrust_of_some hc, htrust]), if_neg h.freshnessKnown,
      if_neg (not_lt.mpr h.fresh), if_neg fun hboth => hboth.2 (h.confidential hboth.1)]

theorem checkSuggestion_ok {requirement : DataRequirement} {m : ContextLockAdapterManifest}
    (h : checkSuggestion requirement m = .ok ()) :
    requirement.chainId ∈ m.supportedChains ∧
      (∃ c, capabilityFor m requirement.kind = some c ∧
        satisfiesTrust (c.trustClass.getD m.trustClass) requirement.minimumTrustClass = true) ∧
      m.freshnessSemantics.kind ≠ .unknown ∧
      m.freshnessSemantics.typicalStalenessMs.getD 0 ≤ requirement.maxAgeMs := by
  unfold checkSuggestion at h
  simp only [Evm.ite_error_eq_ok] at h
  obtain ⟨hcapability, hchain, htrust, hkind, hage, _⟩ := h
  obtain ⟨c, hc⟩ := Option.ne_none_iff_exists'.mp hcapability
  refine ⟨by simpa using hchain, ⟨c, hc, ?_⟩, hkind, not_lt.mp hage⟩
  rw [← offeredTrust_of_some hc]
  simpa using htrust

/-! ## 4. What is selected -/

section Selected

variable {localeCompare : String → String → Int} {registry : AdapterRegistry}
  {requirement : DataRequirement}

theorem AdapterRegistry.mem_list {m : ContextLockAdapterManifest} :
    m ∈ registry.list localeCompare ↔ registry.resolve m.id m.version = some m := by
  rw [AdapterRegistry.list, (sortBy_perm _ _ _).mem_iff, List.mem_map]
  constructor
  · intro h
    obtain ⟨e, he, rfl⟩ := h
    have hkey : refOf e.2.id e.2.version = e.1 := (registry.keyed e he).symm
    rw [AdapterRegistry.resolve, hkey]
    exact registry.byRef.get?_of_mem he
  · intro h
    obtain ⟨e, he, _, rfl⟩ := registry.byRef.mem_of_get? h
    exact ⟨e, he, rfl⟩

theorem AdapterRegistry.resolve_self {id version : String} {m : ContextLockAdapterManifest}
    (h : registry.resolve id version = some m) : registry.resolve m.id m.version = some m := by
  obtain ⟨e, he, _, rfl⟩ := registry.byRef.mem_of_get? h
  exact (@AdapterRegistry.mem_list (fun _ _ => 0) _ _).mp
    ((sortBy_perm _ _ _).mem_iff.mpr (List.mem_map_of_mem he))

theorem checkFallback_join {declared : Option Fallback} {f : Fallback} :
    (checkFallback registry requirement declared).toOption.join = some f ↔
      declared = some f ∧ ∃ m, registry.resolve f.adapterId f.adapterVersion = some m ∧
        satisfiesTrust (offeredTrust m requirement.kind) f.allowedTrust = true := by
  cases declared with
  | none => simp [checkFallback, Except.toOption]
  | some d =>
    cases hresolve : registry.resolve d.adapterId d.adapterVersion with
    | none =>
      have hnone : (checkFallback registry requirement (some d)).toOption.join = none := by
        rw [checkFallback, hresolve]
        rfl
      rw [hnone]
      constructor
      · intro h
        cases h
      · intro h
        obtain ⟨heq, m, hm, _⟩ := h
        obtain rfl := Option.some.inj heq
        cases hresolve.symm.trans hm
    | some fm =>
      rw [checkFallback, hresolve]
      dsimp only
      by_cases htrust : satisfiesTrust (offeredTrust fm requirement.kind) d.allowedTrust = true
      · rw [if_pos htrust]
        constructor
        · intro h
          obtain rfl := Option.some.inj h
          exact ⟨rfl, fm, hresolve, htrust⟩
        · exact fun h => h.1
      · rw [if_neg htrust]
        constructor
        · intro h
          cases h
        · intro h
          obtain ⟨heq, m, hm, hm'⟩ := h
          obtain rfl := Option.some.inj heq
          obtain rfl := Option.some.inj (hresolve.symm.trans hm)
          exact absurd hm' htrust

/-- **What the resolver selects**: an adapter of the registry that it accepts, and the declared
    fallback as far as it was checked. -/
theorem resolveDataRequirement_selected {selection : AdapterSelection}
    {rejected : List RejectedCandidate}
    (h : resolveDataRequirement localeCompare registry requirement = .selected selection rejected) :
    (∃ m ∈ registry.list localeCompare, m.id = selection.adapterId ∧
        m.version = selection.adapterVersion ∧ Acceptable requirement m) ∧
      selection.fallback
        = (checkFallback registry requirement requirement.fallback).toOption.join := by
  unfold resolveDataRequirement at h
  dsimp only at h
  split at h
  · cases h
  · next chosen others hsorted =>
    cases h
    have hmem := List.mem_cons_self (a := chosen) (l := others)
    rw [← hsorted, List.mem_insertionSort, List.mem_filter, decide_eq_true_iff,
      assess_compatible] at hmem
    exact ⟨⟨chosen, hmem.1, rfl, rfl, hmem.2⟩, rfl⟩

theorem exists_selected (h : ∃ m ∈ registry.list localeCompare, Acceptable requirement m) :
    ∃ selection rejected,
      resolveDataRequirement localeCompare registry requirement = .selected selection rejected := by
  obtain ⟨m, hm, hacceptable⟩ := h
  unfold resolveDataRequirement
  dsimp only
  split
  · next hnil =>
    have hmem : m ∈ (registry.list localeCompare).filter
        fun m => assess requirement m = .compatible :=
      List.mem_filter.mpr ⟨hm, decide_eq_true (assess_compatible.mpr hacceptable)⟩
    rw [← List.mem_insertionSort (fun a b => rank localeCompare a b requirement.kind ≤ 0),
      hnil] at hmem
    cases hmem
  · exact ⟨_, _, rfl⟩

end Selected

/-! ## 5. Suggestions -/

section Suggestion

variable (localeCompare : String → String → Int) (registry : AdapterRegistry)
  (requirement : DataRequirement) (suggested : Option Suggestion)

/-- The selected adapter is registered and one the resolver accepts; so is the fallback, as far
    as it has to be. -/
structure Sound (selection : AdapterSelection) : Prop where
  adapter : ∃ m ∈ registry.list localeCompare, m.id = selection.adapterId ∧
    m.version = selection.adapterVersion ∧ Acceptable requirement m
  fallback : ∀ f, selection.fallback = some f →
    ∃ m, registry.resolve f.adapterId f.adapterVersion = some m ∧ FallbackAcceptable requirement f m

def Passes : Prop :=
  ∀ s, suggested = some s →
    ∃ m, registry.resolve s.adapterId s.adapterVersion = some m ∧ checkSuggestion requirement m = .ok ()

def SuggestionServes : Prop :=
  ∀ s m, suggested = some s → registry.resolve s.adapterId s.adapterVersion = some m →
    m.adapterType ∈ DATA_ADAPTER_TYPES ∧
      (requirement.confidential = true → m.executionPlacement = .creConfidential)

/-- A declared fallback that offers the trust it allows has a capability for the kind of data,
    supports the chain, and is confidential where the requirement is. -/
def FallbackServes : Prop :=
  ∀ f m, requirement.fallback = some f → registry.resolve f.adapterId f.adapterVersion = some m →
    satisfiesTrust (offeredTrust m requirement.kind) f.allowedTrust = true →
      capabilityFor m requirement.kind ≠ none ∧ requirement.chainId ∈ m.supportedChains ∧
        (requirement.confidential = true → m.executionPlacement = .creConfidential)

variable {localeCompare registry requirement suggested}

theorem resolveWithSuggestion_selected {selection : AdapterSelection}
    {rejected : List RejectedCandidate}
    (h : resolveWithSuggestion localeCompare registry requirement suggested
      = .ok (.selected selection rejected)) :
    Passes registry requirement suggested ∧
      ∃ base, resolveDataRequirement localeCompare registry requirement = .selected base rejected ∧
        selection.fallback = base.fallback ∧
        (suggested = none → selection = base) ∧
        ∀ s m, suggested = some s → registry.resolve s.adapterId s.adapterVersion = some m →
          selection.adapterId = m.id ∧ selection.adapterVersion = m.version := by
  cases suggested with
  | none =>
    have hbase := Except.ok.inj h
    refine ⟨?_, selection, hbase, rfl, fun _ => rfl, ?_⟩
    · intro s hs
      cases hs
    · intro s m hs
      cases hs
  | some s =>
    unfold resolveWithSuggestion at h
    cases hresolve : registry.resolve s.adapterId s.adapterVersion with
    | none =>
      simp only [hresolve] at h
      cases h
    | some m =>
      cases hcheck : checkSuggestion requirement m with
      | error reason =>
        simp only [hresolve, hcheck] at h
        cases h
      | ok u =>
        simp only [hresolve, hcheck] at h
        have hsuggest := Except.ok.inj h
        cases hbase : resolveDataRequirement localeCompare registry requirement with
        | noCompatibleAdapter r candidates =>
          rw [hbase] at hsuggest
          cases hsuggest
        | selected base candidates =>
          rw [hbase] at hsuggest
          cases hsuggest
          refine ⟨?_, base, rfl, rfl, ?_, ?_⟩
          · intro s' hs'
            obtain rfl := Option.some.inj hs'
            exact ⟨m, hresolve, hcheck⟩
          · intro hnone
            cases hnone
          · intro s' m' hs' hm'
            obtain rfl := Option.some.inj hs'
            obtain rfl := Option.some.inj (hresolve.symm.trans hm')
            exact ⟨rfl, rfl⟩

theorem exists_resolved (hexists : ∃ m ∈ registry.list localeCompare, Acceptable requirement m)
    (hpasses : Passes registry requirement suggested) :
    ∃ selection rejected, resolveWithSuggestion localeCompare registry requirement suggested
      = .ok (.selected selection rejected) := by
  obtain ⟨base, rejected, hbase⟩ := exists_selected hexists
  cases suggested with
  | none => exact ⟨base, rejected, congrArg Except.ok hbase⟩
  | some s =>
    obtain ⟨m, hresolve, hcheck⟩ := hpasses s rfl
    unfold resolveWithSuggestion
    simp only [hresolve, hcheck, hbase]
    exact ⟨_, _, rfl⟩

/-- **Exactly when a selection is one the resolver accepts**, for every registry, requirement and
    suggestion: where a selection is made at all, the suggested adapter must be a data adapter
    and confidential where the requirement is, and the declared fallback must have a capability
    for the kind of data, support the chain, and be confidential where the requirement is. -/
theorem suggestion_sound_iff :
    (∀ selection rejected, resolveWithSuggestion localeCompare registry requirement suggested
        = .ok (.selected selection rejected) → Sound localeCompare registry requirement selection) ↔
      ((∃ m ∈ registry.list localeCompare, Acceptable requirement m) →
        Passes registry requirement suggested →
          SuggestionServes registry requirement suggested ∧ FallbackServes registry requirement) := by
  constructor
  · intro hsound hexists hpasses
    obtain ⟨selection, rejected, hselected⟩ := exists_resolved hexists hpasses
    obtain ⟨hadapter, hfallback⟩ := hsound selection rejected hselected
    obtain ⟨_, base, hbase, hfallbackEq, _, hsuggested⟩ := resolveWithSuggestion_selected hselected
    refine ⟨fun s m hs hm => ?_, fun f m hf hm htrust => ?_⟩
    · obtain ⟨hid, hversion⟩ := hsuggested s m hs hm
      obtain ⟨m', hlisted, hid', hversion', hacceptable⟩ := hadapter
      have hresolve := AdapterRegistry.mem_list.mp hlisted
      rw [hid'.trans hid, hversion'.trans hversion, AdapterRegistry.resolve_self hm] at hresolve
      obtain rfl := Option.some.inj hresolve
      exact ⟨hacceptable.dataType, hacceptable.confidential⟩
    · have hselected' : selection.fallback = some f := by
        rw [hfallbackEq, (resolveDataRequirement_selected hbase).2]
        exact checkFallback_join.mpr ⟨hf, m, hm, htrust⟩
      obtain ⟨m', hm', hacceptable⟩ := hfallback f hselected'
      obtain rfl := Option.some.inj (hm.symm.trans hm')
      obtain ⟨c, hc, _⟩ := hacceptable.provides
      exact ⟨by simp [hc], hacceptable.chain, hacceptable.confidential⟩
  · intro h selection rejected hselected
    obtain ⟨hpasses, base, hbase, hfallbackEq, hnone, hsuggested⟩ :=
      resolveWithSuggestion_selected hselected
    obtain ⟨hadapter, hbaseFallback⟩ := resolveDataRequirement_selected hbase
    obtain ⟨m, hm, hid, hversion, hacceptable⟩ := hadapter
    obtain ⟨hserves, hfallback⟩ := h ⟨m, hm, hacceptable⟩ hpasses
    refine ⟨?_, fun f hf => ?_⟩
    · cases hs : suggested with
      | none =>
        rw [hnone hs]
        exact ⟨m, hm, hid, hversion, hacceptable⟩
      | some s =>
        obtain ⟨m', hm', hcheck⟩ := hpasses s hs
        obtain ⟨hid', hversion'⟩ := hsuggested s m' hs hm'
        obtain ⟨hchain, hprovides, hknown, hfresh⟩ := checkSuggestion_ok hcheck
        obtain ⟨hdata, hconfidential⟩ := hserves s m' hs hm'
        exact ⟨m', AdapterRegistry.mem_list.mpr (AdapterRegistry.resolve_self hm'), hid'.symm,
          hversion'.symm, hdata, hchain, hprovides, hknown, hfresh, hconfidential⟩
    · rw [hfallbackEq, hbaseFallback] at hf
      obtain ⟨hdeclared, m', hm', htrust⟩ := checkFallback_join.mp hf
      obtain ⟨hcapability, hchain, hconfidential⟩ := hfallback f m' hdeclared hm' htrust
      obtain ⟨c, hc⟩ := Option.ne_none_iff_exists'.mp hcapability
      rw [offeredTrust_of_some hc] at htrust
      exact ⟨m', hm', hchain, ⟨c, hc, htrust⟩, hconfidential⟩

/-- An oracle read in a confidential environment. -/
def sealedFeed : ContextLockAdapterManifest where
  id := "sealed-feed"
  version := "1.0.0"
  adapterType := .VERIFIED_MARKET_DATA
  supportedChains := [11155111]
  capabilities := [⟨some "eth_usd_price", none⟩]
  trustClass := .VERIFIED_ORACLE
  freshnessSemantics := ⟨.reportTimestamp, some 1000⟩
  executionPlacement := .creConfidential

/-- The same oracle, read by the studio. -/
def publicFeed : ContextLockAdapterManifest :=
  { sealedFeed with id := "public-feed", executionPlacement := .studioBackend }

def feeds : AdapterRegistry where
  byRef := ⟨[("public-feed@1.0.0", publicFeed), ("sealed-feed@1.0.0", sealedFeed)], by decide⟩
  keyed := by simp [adapterRef, refOf, publicFeed, sealedFeed]

def sealedPrice : DataRequirement where
  key := "ethUsd"
  kind := "eth_usd_price"
  chainId := 11155111
  minimumTrustClass := .VERIFIED_ORACLE
  maxAgeMs := 60000
  confidential := true
  fallback := none

/-- A suggestion moves a confidential requirement to an adapter outside the confidential
    environment. -/
theorem suggestion_widens : ∃ selection rejected,
    resolveWithSuggestion (fun _ _ => 0) feeds sealedPrice (some ⟨"public-feed", "1.0.0"⟩)
      = .ok (.selected selection rejected) ∧ ¬ Sound (fun _ _ => 0) feeds sealedPrice selection := by
  have hpublic : feeds.resolve "public-feed" "1.0.0" = some publicFeed := by decide
  have hsealed : sealedFeed ∈ feeds.list fun _ _ => 0 :=
    AdapterRegistry.mem_list.mpr (by decide)
  have hacceptable : Acceptable sealedPrice sealedFeed := assess_compatible.mp (by decide)
  have hpasses : Passes feeds sealedPrice (some ⟨"public-feed", "1.0.0"⟩) := by
    intro s hs
    obtain rfl := Option.some.inj hs
    exact ⟨publicFeed, hpublic, by decide⟩
  obtain ⟨selection, rejected, hselected⟩ := exists_resolved ⟨sealedFeed, hsealed, hacceptable⟩ hpasses
  refine ⟨selection, rejected, hselected, fun hsound => ?_⟩
  obtain ⟨_, _, _, _, _, hsuggested⟩ := resolveWithSuggestion_selected hselected
  obtain ⟨hid, hversion⟩ := hsuggested _ _ rfl hpublic
  obtain ⟨m, hm, hid', hversion', hm'⟩ := hsound.adapter
  have hresolve := AdapterRegistry.mem_list.mp hm
  rw [hid'.trans hid, hversion'.trans hversion] at hresolve
  obtain rfl := Option.some.inj (hpublic.symm.trans hresolve)
  cases hm'.confidential rfl

end Suggestion

end ContextLock.Adapters
