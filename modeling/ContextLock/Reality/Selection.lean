/-
  Subject:   The choice of a market source for a requirement.
-/
import ContextLock.Adapters.Resolver
import ContextLock.Js.Front

namespace ContextLock.Reality

open Js Adapters

/-! ## 1. Sources and requirements -/

inductive SourceLifecycle where
  | ACTIVE
  | DEPRECATION_SCHEDULED
  | DEPRECATED
  | UNAVAILABLE
  | UNKNOWN
  deriving DecidableEq

inductive MarketSourceKind where
  | CHAINLINK_DATA_FEED
  | CHAINLINK_DATA_STREAM
  | THE_GRAPH
  | READ_ONLY_RPC
  | EXTERNAL_API
  deriving DecidableEq

structure MarketSource where
  sourceId : String
  kind : MarketSourceKind
  subject : String
  chainId : Int
  identity : String
  trustClass : DataTrustClass
  heartbeatMs : Int
  decimals : Int
  lifecycle : SourceLifecycle
  deprecationDate : Option String
  replacedBy : Option String
  historical : Bool
  requiresAuth : Bool
  verifiedBy : String
  verifiedAt : String
  deriving DecidableEq

structure SourceRequirement where
  subject : String
  chainId : Int
  requiredTrust : DataTrustClass
  maxAgeMs : Int
  historicalRequired : Bool
  availableCredentials : List String

inductive SourceReason where
  | NO_COMPATIBLE
  | DEPRECATED
  | UNVERIFIED
  | TRUST_NOT_MET
  | FRESHNESS_NOT_MET
  | AUTH_MISSING
  deriving DecidableEq

def SourceReason.text : SourceReason → String
  | NO_COMPATIBLE => "NO_COMPATIBLE_MARKET_SOURCE"
  | DEPRECATED => "MARKET_SOURCE_DEPRECATED"
  | UNVERIFIED => "MARKET_SOURCE_LIFECYCLE_UNKNOWN"
  | TRUST_NOT_MET => "MARKET_SOURCE_TRUST_INSUFFICIENT"
  | FRESHNESS_NOT_MET => "MARKET_SOURCE_TOO_SLOW_FOR_POLICY"
  | AUTH_MISSING => "MARKET_SOURCE_CREDENTIAL_MISSING"

structure SourceError where
  reason : SourceReason
  detail : String
  deriving DecidableEq

structure SourceWarning where
  sourceId : String
  identity : String
  effectiveDate : Option String
  replacement : Option String
  message : String
  deriving DecidableEq

structure RejectedSource where
  sourceId : String
  reason : SourceReason
  detail : String
  deriving DecidableEq

structure SourceSelection where
  source : MarketSource
  warnings : List SourceWarning
  rejected : List RejectedSource
  deriving DecidableEq

/-- `text ? before + text : ""`. -/
def shownAfter (before : String) (text : Option String) : String :=
  match text with
  | none => ""
  | some t => if t = "" then "" else before ++ t

def deprecationWarning (s : MarketSource) : SourceWarning where
  sourceId := s.sourceId
  identity := s.identity
  effectiveDate := s.deprecationDate
  replacement := s.replacedBy
  message := s.sourceId ++ " (" ++ s.identity ++ ") is scheduled for deprecation"
    ++ shownAfter " on " s.deprecationDate ++ ". "
    ++ (if s.replacedBy.getD "" = "" then "No replacement is recorded."
        else shownAfter "A replacement is known: " s.replacedBy ++ ".")
    ++ " Existing projects keep working and are warned; new builds prefer a supported source."

/-! ## 2. The resolver -/

/-- `Math.round(ms / 1000)`. -/
def wholeSeconds (ms : Int) : Int := (ms + 500) / 1000

/-- Why a source of the subject and the chain is no candidate. -/
def rejectionOf (req : SourceRequirement) (s : MarketSource) : Option RejectedSource :=
  if s.lifecycle = .DEPRECATED then
    some ⟨s.sourceId, .DEPRECATED, "retired" ++ shownAfter " on " s.deprecationDate⟩
  else if s.lifecycle = .UNKNOWN then
    some ⟨s.sourceId, .UNVERIFIED,
      "lifecycle never verified; an unchecked source is not an approved source"⟩
  else if s.lifecycle = .UNAVAILABLE then
    some ⟨s.sourceId, .NO_COMPATIBLE, "unavailable: " ++ s.verifiedBy⟩
  else if satisfiesTrust s.trustClass req.requiredTrust = false then
    some ⟨s.sourceId, .TRUST_NOT_MET, "offers " ++ s.trustClass.text ++ ", policy requires "
      ++ req.requiredTrust.text⟩
  else if req.maxAgeMs < s.heartbeatMs then
    some ⟨s.sourceId, .FRESHNESS_NOT_MET, "updates at most every "
      ++ toString (wholeSeconds s.heartbeatMs) ++ "s and the policy requires data no older than "
      ++ toString (wholeSeconds req.maxAgeMs) ++ "s"⟩
  else if req.historicalRequired = true ∧ s.historical = false then
    some ⟨s.sourceId, .NO_COMPATIBLE, "cannot answer about a past block"⟩
  else if s.requiresAuth = true ∧ s.sourceId ∉ req.availableCredentials then
    some ⟨s.sourceId, .AUTH_MISSING, "needs a credential this deployment does not hold"⟩
  else none

/-- What the loop over the sources has found. -/
structure Scan where
  rejected : List RejectedSource
  candidates : List MarketSource

def scanOne (req : SourceRequirement) (found : Scan) (s : MarketSource) : Scan :=
  if s.subject ≠ req.subject ∨ s.chainId ≠ req.chainId then found
  else
    match rejectionOf req s with
    | some r => { found with rejected := found.rejected ++ [r] }
    | none => { found with candidates := found.candidates ++ [s] }

def scan (sources : List MarketSource) (req : SourceRequirement) : Scan :=
  sources.foldl (scanOne req) ⟨[], []⟩

def noCompatible (req : SourceRequirement) (rejected : List RejectedSource) : SourceError where
  reason := .NO_COMPATIBLE
  detail :=
    let considered := "; ".intercalate (rejected.map fun r =>
      r.sourceId ++ " (" ++ r.reason.text ++ ": " ++ r.detail ++ ")")
    "no source can supply " ++ req.subject ++ " on chain " ++ toString req.chainId ++ " at "
      ++ req.requiredTrust.text ++ " within " ++ toString (wholeSeconds req.maxAgeMs)
      ++ "s. Considered: " ++ (if considered = "" then "nothing with that subject" else considered)
      ++ ". Downgrading trust silently is not an option this resolver has."

section Select

variable (localeCompare : String → String → Int)

def compareSources (a b : MarketSource) : Int :=
  if a.lifecycle ≠ b.lifecycle then if a.lifecycle = .ACTIVE then -1 else 1
  else if a.heartbeatMs ≠ b.heartbeatMs then a.heartbeatMs - b.heartbeatMs
  else localeCompare a.sourceId b.sourceId

/-- `a` does not stand after `b` in the sort. -/
def sortsBefore (a b : MarketSource) : Bool := compareSources localeCompare a b ≤ 0

def selectSorted (req : SourceRequirement) (sorted : List MarketSource)
    (rejected : List RejectedSource) : Except SourceError SourceSelection :=
  match sorted with
  | [] => .error (noCompatible req rejected)
  | chosen :: _ =>
    .ok {
      source := chosen
      warnings := (sorted.filter (·.lifecycle = .DEPRECATION_SCHEDULED)).map deprecationWarning
      rejected := rejected }

def selectFrom (sources : List MarketSource) (req : SourceRequirement) :
    Except SourceError SourceSelection :=
  let found := scan sources req
  selectSorted req
    (found.candidates.insertionSort fun a b => sortsBefore localeCompare a b = true) found.rejected

end Select
/-! ## 3. Candidates -/

/-- The source meets every clause of the requirement. -/
structure Qualifies (req : SourceRequirement) (s : MarketSource) : Prop where
  subject : s.subject = req.subject
  chain : s.chainId = req.chainId
  lifecycle : s.lifecycle = .ACTIVE ∨ s.lifecycle = .DEPRECATION_SCHEDULED
  trust : satisfiesTrust s.trustClass req.requiredTrust = true
  fresh : s.heartbeatMs ≤ req.maxAgeMs
  historical : req.historicalRequired = true → s.historical = true
  credential : s.requiresAuth = true → s.sourceId ∈ req.availableCredentials

/-- The source is of the subject and the chain of the requirement. -/
def About (req : SourceRequirement) (s : MarketSource) : Prop :=
  s.subject = req.subject ∧ s.chainId = req.chainId

variable {req : SourceRequirement} {s : MarketSource} {sources sources' : List MarketSource}

/-- **A source that is not rejected meets the other clauses.** -/
theorem rejectionOf_eq_none : rejectionOf req s = none ↔
    (s.lifecycle = .ACTIVE ∨ s.lifecycle = .DEPRECATION_SCHEDULED) ∧
      satisfiesTrust s.trustClass req.requiredTrust = true ∧ s.heartbeatMs ≤ req.maxAgeMs ∧
      (req.historicalRequired = true → s.historical = true) ∧
      (s.requiresAuth = true → s.sourceId ∈ req.availableCredentials) := by
  have hlifecycle : (s.lifecycle = .ACTIVE ∨ s.lifecycle = .DEPRECATION_SCHEDULED) ↔
      s.lifecycle ≠ .DEPRECATED ∧ s.lifecycle ≠ .UNKNOWN ∧ s.lifecycle ≠ .UNAVAILABLE := by
    cases s.lifecycle <;> decide
  rw [hlifecycle]
  unfold rejectionOf
  constructor
  · intro h
    split at h
    · cases h
    split at h
    · cases h
    split at h
    · cases h
    split at h
    · cases h
    split at h
    · cases h
    split at h
    · cases h
    split at h
    · cases h
    rename_i hdeprecated hunknown hunavailable htrust hfresh hhistorical hcredential
    refine ⟨⟨hdeprecated, hunknown, hunavailable⟩, eq_true_of_ne_false htrust, not_lt.mp hfresh,
      fun hreq => eq_true_of_ne_false fun hs => hhistorical ⟨hreq, hs⟩,
      fun hauth => not_not.mp fun hnot => hcredential ⟨hauth, hnot⟩⟩
  · rintro ⟨⟨hdeprecated, hunknown, hunavailable⟩, htrust, hfresh, hhistorical, hcredential⟩
    rw [if_neg hdeprecated, if_neg hunknown, if_neg hunavailable,
      if_neg (by rw [htrust]; decide), if_neg (not_lt.mpr hfresh), if_neg, if_neg]
    · exact fun h => h.2 (hcredential h.1)
    · rintro ⟨hreq, hs⟩
      rw [hhistorical hreq] at hs
      cases hs

theorem qualifies_iff : Qualifies req s ↔ About req s ∧ rejectionOf req s = none := by
  rw [rejectionOf_eq_none]
  constructor
  · rintro ⟨hsubject, hchain, hlifecycle, htrust, hfresh, hhistorical, hcredential⟩
    exact ⟨⟨hsubject, hchain⟩, hlifecycle, htrust, hfresh, hhistorical, hcredential⟩
  · rintro ⟨⟨hsubject, hchain⟩, hlifecycle, htrust, hfresh, hhistorical, hcredential⟩
    exact ⟨hsubject, hchain, hlifecycle, htrust, hfresh, hhistorical, hcredential⟩

instance decidableAbout : Decidable (About req s) :=
  inferInstanceAs (Decidable (s.subject = req.subject ∧ s.chainId = req.chainId))

instance decidableQualifies : Decidable (Qualifies req s) := decidable_of_iff _ qualifies_iff.symm

def candidatesOf (req : SourceRequirement) (sources : List MarketSource) : List MarketSource :=
  sources.filter fun s => Qualifies req s

def rejectedOf (req : SourceRequirement) (sources : List MarketSource) : List RejectedSource :=
  (sources.filter fun s => About req s).filterMap (rejectionOf req)

theorem scanOne_eq (found : Scan) : scanOne req found s =
    ⟨found.rejected ++ rejectedOf req [s], found.candidates ++ candidatesOf req [s]⟩ := by
  unfold scanOne rejectedOf candidatesOf
  by_cases habout : About req s
  · rw [if_neg (by rw [not_or, not_not, not_not]; exact habout)]
    cases hrejected : rejectionOf req s with
    | none =>
      have hqualifies : Qualifies req s := qualifies_iff.mpr ⟨habout, hrejected⟩
      simp [habout, hrejected, hqualifies]
    | some r =>
      have hqualifies : ¬ Qualifies req s := fun h => by
        have hnone := (qualifies_iff.mp h).2
        rw [hrejected] at hnone
        cases hnone
      simp [habout, hrejected, hqualifies]
  · have hqualifies : ¬ Qualifies req s := fun h => habout (qualifies_iff.mp h).1
    have hnot : s.subject ≠ req.subject ∨ s.chainId ≠ req.chainId := not_and_or.mp habout
    rw [if_pos hnot]
    simp [habout, hqualifies]

/-- **What the loop finds.** -/
theorem scan_eq : scan sources req = ⟨rejectedOf req sources, candidatesOf req sources⟩ := by
  have hfold : ∀ found, sources.foldl (scanOne req) found =
      ⟨found.rejected ++ rejectedOf req sources, found.candidates ++ candidatesOf req sources⟩ := by
    induction sources with
    | nil =>
      intro found
      simp [rejectedOf, candidatesOf]
    | cons s sources ih =>
      intro found
      have hrejected : rejectedOf req (s :: sources) = rejectedOf req [s] ++ rejectedOf req sources := by
        unfold rejectedOf
        rw [← List.singleton_append, List.filter_append, List.filterMap_append]
      have hcandidates : candidatesOf req (s :: sources)
          = candidatesOf req [s] ++ candidatesOf req sources := by
        unfold candidatesOf
        rw [← List.singleton_append, List.filter_append]
      rw [List.foldl_cons, scanOne_eq, ih, hrejected, hcandidates, List.append_assoc,
        List.append_assoc]
  exact hfold ⟨[], []⟩

theorem mem_candidatesOf : s ∈ candidatesOf req sources ↔ s ∈ sources ∧ Qualifies req s := by
  unfold candidatesOf
  rw [List.mem_filter, decide_eq_true_iff]

theorem rejected_of_not_qualifies (hmem : s ∈ sources) (habout : About req s)
    (hnot : ¬ Qualifies req s) : ∃ r ∈ rejectedOf req sources, rejectionOf req s = some r ∧
      r.sourceId = s.sourceId := by
  cases hrejected : rejectionOf req s with
  | none => exact absurd (qualifies_iff.mpr ⟨habout, hrejected⟩) hnot
  | some r =>
    refine ⟨r, List.mem_filterMap.mpr ⟨s, List.mem_filter.mpr ⟨hmem, decide_eq_true habout⟩,
      hrejected⟩, rfl, ?_⟩
    unfold rejectionOf at hrejected
    split at hrejected
    · rw [← Option.some.inj hrejected]
    split at hrejected
    · rw [← Option.some.inj hrejected]
    split at hrejected
    · rw [← Option.some.inj hrejected]
    split at hrejected
    · rw [← Option.some.inj hrejected]
    split at hrejected
    · rw [← Option.some.inj hrejected]
    split at hrejected
    · rw [← Option.some.inj hrejected]
    split at hrejected
    · rw [← Option.some.inj hrejected]
    · cases hrejected

theorem candidatesOf_perm (h : sources'.Perm sources) :
    (candidatesOf req sources').Perm (candidatesOf req sources) := h.filter _

theorem rejectedOf_perm (h : sources'.Perm sources) :
    (rejectedOf req sources').Perm (rejectedOf req sources) := (h.filter _).filterMap _

/-! ## 4. The choice -/

section Choice

variable {localeCompare : String → String → Int}

def sortedCandidates (localeCompare : String → String → Int) (req : SourceRequirement)
    (sources : List MarketSource) : List MarketSource :=
  (candidatesOf req sources).insertionSort fun a b => sortsBefore localeCompare a b = true

/-- **What is chosen**: the first of the sorted candidates. -/
theorem selectFrom_ok {sel : SourceSelection} : selectFrom localeCompare sources req = .ok sel ↔
    front (sortsBefore localeCompare) (candidatesOf req sources) = some sel.source ∧
      sel.warnings = ((sortedCandidates localeCompare req sources).filter
        (·.lifecycle = .DEPRECATION_SCHEDULED)).map deprecationWarning ∧
      sel.rejected = rejectedOf req sources := by
  unfold selectFrom front
  rw [scan_eq]
  change selectSorted req (sortedCandidates localeCompare req sources) _ = _ ↔
    (sortedCandidates localeCompare req sources).head? = _ ∧ _
  generalize sortedCandidates localeCompare req sources = sorted
  unfold selectSorted
  cases sorted with
  | nil =>
    constructor
    · intro h
      cases h
    · rintro ⟨h, -⟩
      cases h
  | cons chosen rest =>
    constructor
    · intro h
      obtain rfl := Except.ok.inj h
      exact ⟨rfl, rfl, rfl⟩
    · rintro ⟨hsource, hwarnings, hrejected⟩
      obtain ⟨source, warnings, rejected⟩ := sel
      obtain rfl : chosen = source := Option.some.inj hsource
      dsimp only at hwarnings hrejected
      rw [hwarnings, hrejected]

/-- **Nothing is chosen** where no source qualifies. -/
theorem selectFrom_error (h : ∀ s ∈ sources, ¬ Qualifies req s) :
    selectFrom localeCompare sources req = .error (noCompatible req (rejectedOf req sources)) := by
  have hnone : candidatesOf req sources = [] := by
    unfold candidatesOf
    exact List.filter_eq_nil_iff.mpr fun s hs => by simpa using h s hs
  unfold selectFrom
  rw [scan_eq, hnone]
  rfl

theorem exists_chosen (hs : s ∈ sources) (hq : Qualifies req s) :
    ∃ sel, selectFrom localeCompare sources req = .ok sel := by
  have hne : candidatesOf req sources ≠ [] := fun hnil => by
    have hmem := mem_candidatesOf.mpr ⟨hs, hq⟩
    rw [hnil] at hmem
    cases hmem
  obtain ⟨a, ha⟩ := @exists_front _ (sortsBefore localeCompare) _ hne
  exact ⟨⟨a, _, _⟩, selectFrom_ok.mpr ⟨ha, rfl, rfl⟩⟩

/-- No qualifying source is sorted before this one. -/
structure First (localeCompare : String → String → Int) (req : SourceRequirement)
    (sources : List MarketSource) (a : MarketSource) : Prop where
  mem : a ∈ sources
  qualifies : Qualifies req a
  first : ∀ s ∈ sources, Qualifies req s → compareSources localeCompare a s ≤ 0

theorem first_iff {a : MarketSource} : First localeCompare req sources a ↔
    Least (sortsBefore localeCompare) (candidatesOf req sources) a := by
  constructor
  · rintro ⟨hmem, hq, hfirst⟩
    refine ⟨mem_candidatesOf.mpr ⟨hmem, hq⟩, fun b hb => decide_eq_true ?_⟩
    obtain ⟨hb, hqb⟩ := mem_candidatesOf.mp hb
    exact hfirst b hb hqb
  · rintro ⟨hmem, hle⟩
    obtain ⟨hmem, hq⟩ := mem_candidatesOf.mp hmem
    exact ⟨hmem, hq, fun b hb hqb => of_decide_eq_true (hle b (mem_candidatesOf.mpr ⟨hb, hqb⟩))⟩

theorem compareSources_same {a b : MarketSource} (h : a.lifecycle = b.lifecycle) :
    compareSources localeCompare a b ≤ 0 ↔ a.heartbeatMs < b.heartbeatMs ∨
      (a.heartbeatMs = b.heartbeatMs ∧ localeCompare a.sourceId b.sourceId ≤ 0) := by
  unfold compareSources
  rw [if_neg (not_not.mpr h)]
  split
  · omega
  · rename_i hsame
    rw [not_not] at hsame
    constructor
    · exact fun hle => .inr ⟨hsame, hle⟩
    · rintro (hlt | ⟨-, hle⟩)
      · omega
      · exact hle

theorem compareSources_other {a b : MarketSource} (h : a.lifecycle ≠ b.lifecycle) :
    compareSources localeCompare a b ≤ 0 ↔ a.lifecycle = .ACTIVE := by
  unfold compareSources
  rw [if_pos h]
  split
  · rename_i hactive
    exact iff_of_true (by decide) hactive
  · rename_i hactive
    exact iff_of_false (by decide) hactive

theorem sorts_candidates (hcollates : Collates localeCompare) :
    Orders (sortsBefore localeCompare) (candidatesOf req sources) where
  total a ha b hb := by
    rw [sortsBefore, sortsBefore, decide_eq_true_iff, decide_eq_true_iff]
    have hlifeA := (mem_candidatesOf.mp ha).2.lifecycle
    have hlifeB := (mem_candidatesOf.mp hb).2.lifecycle
    by_cases hsame : a.lifecycle = b.lifecycle
    · rw [compareSources_same hsame, compareSources_same hsame.symm]
      have := hcollates.total a.sourceId b.sourceId
      omega
    · rw [compareSources_other hsame, compareSources_other (Ne.symm hsame)]
      by_cases hactive : a.lifecycle = .ACTIVE
      · exact .inl hactive
      · refine .inr (hlifeB.resolve_right fun hb => hsame ?_)
        rw [hb, hlifeA.resolve_left hactive]
  trans a ha b hb c hc hab hbc := by
    rw [sortsBefore, decide_eq_true_iff] at hab hbc ⊢
    have hlifeC := (mem_candidatesOf.mp hc).2.lifecycle
    by_cases hsame : a.lifecycle = b.lifecycle
    · by_cases hsame' : b.lifecycle = c.lifecycle
      · rw [compareSources_same hsame] at hab
        rw [compareSources_same hsame'] at hbc
        rw [compareSources_same (hsame.trans hsame')]
        have := hcollates.trans a.sourceId b.sourceId c.sourceId
        omega
      · rw [compareSources_other hsame'] at hbc
        rw [compareSources_other (hsame ▸ hsame')]
        exact hsame.trans hbc
    · rw [compareSources_other hsame] at hab
      by_cases hsame' : b.lifecycle = c.lifecycle
      · rwa [compareSources_other (hsame' ▸ hsame)]
      · -- an active one after one of another lifecycle is sorted before none
        rw [compareSources_other hsame'] at hbc
        exact absurd (hab.trans hbc.symm) hsame

theorem First.active {a : MarketSource} (h : First localeCompare req sources a) (hs : s ∈ sources)
    (hq : Qualifies req s) (hactive : s.lifecycle = .ACTIVE) : a.lifecycle = .ACTIVE := by
  by_cases hsame : a.lifecycle = s.lifecycle
  · exact hsame.trans hactive
  · exact (compareSources_other hsame).mp (h.first s hs hq)

/-! ## 5. The law -/

/-- The choice from a list, as it must be. -/
structure Chosen (localeCompare : String → String → Int) (req : SourceRequirement)
    (sources : List MarketSource) (sel : SourceSelection) : Prop where
  mem : sel.source ∈ sources
  qualifies : Qualifies req sel.source
  inOrder : ∀ sources', sources'.Perm sources → ∃ sel',
    selectFrom localeCompare sources' req = .ok sel' ∧ sel'.source = sel.source ∧
      sel'.warnings.Perm sel.warnings ∧ sel'.rejected.Perm sel.rejected
  active : ∀ s ∈ sources, Qualifies req s → s.lifecycle = .ACTIVE → sel.source.lifecycle = .ACTIVE
  sparing : sel.source.requiresAuth = true → ∀ s ∈ sources, Qualifies req s →
    s.lifecycle = sel.source.lifecycle → s.requiresAuth = true

/-- The law of the resolver: a choice is as it must be, and where no source qualifies it fails and
    names every source of the subject and chain with a reason. -/
structure Selects (localeCompare : String → String → Int) (sources : List MarketSource)
    (req : SourceRequirement) : Prop where
  chosen : ∀ sel, selectFrom localeCompare sources req = .ok sel →
    Chosen localeCompare req sources sel
  fails : (∀ s ∈ sources, ¬ Qualifies req s) → ∃ rejected,
    selectFrom localeCompare sources req = .error (noCompatible req rejected) ∧
      ∀ s ∈ sources, About req s → ∃ r ∈ rejected, r.sourceId = s.sourceId

/-- What is first, by lifecycle, heartbeat and id, is one source, and it needs a credential only
    where all that qualify with its lifecycle do. -/
structure OneFirst (localeCompare : String → String → Int) (sources : List MarketSource)
    (req : SourceRequirement) : Prop where
  unique : ∀ a b, First localeCompare req sources a → First localeCompare req sources b → a = b
  sparing : ∀ a, First localeCompare req sources a → a.requiresAuth = true → ∀ s ∈ sources,
    Qualifies req s → s.lifecycle = a.lifecycle → s.requiresAuth = true

theorem warnings_perm (h : sources'.Perm sources) :
    (((sortedCandidates localeCompare req sources').filter
      (·.lifecycle = .DEPRECATION_SCHEDULED)).map deprecationWarning).Perm
    (((sortedCandidates localeCompare req sources).filter
      (·.lifecycle = .DEPRECATION_SCHEDULED)).map deprecationWarning) := by
  have hsorted : (sortedCandidates localeCompare req sources').Perm
      (sortedCandidates localeCompare req sources) :=
    (List.perm_insertionSort _ _).trans
      ((candidatesOf_perm h).trans (List.perm_insertionSort _ _).symm)
  exact (hsorted.filter _).map _

theorem First.exists_order {a : MarketSource} (h : First localeCompare req sources a) :
    ∃ sources', sources'.Perm sources ∧ ∃ sel,
      selectFrom localeCompare sources' req = .ok sel ∧ sel.source = a := by
  obtain ⟨s, t, rfl⟩ := List.append_of_mem h.mem
  have hperm : (a :: (s ++ t)).Perm (s ++ a :: t) := List.perm_middle.symm
  have hcandidates : candidatesOf req (a :: (s ++ t)) = a :: candidatesOf req (s ++ t) :=
    List.filter_cons_of_pos (decide_eq_true h.qualifies)
  have hfront : front (sortsBefore localeCompare) (candidatesOf req (a :: (s ++ t))) = some a := by
    rw [hcandidates]
    refine front_of_least fun b hb => ?_
    obtain ⟨hb, hq⟩ := mem_candidatesOf.mp hb
    exact decide_eq_true (h.first b (hperm.mem_iff.mp (List.mem_cons_of_mem a hb)) hq)
  exact ⟨_, hperm, ⟨a, _, _⟩, selectFrom_ok.mpr ⟨hfront, rfl, rfl⟩, rfl⟩

theorem First.of_perm {a : MarketSource} (h : First localeCompare req sources' a)
    (hperm : sources'.Perm sources) : First localeCompare req sources a :=
  ⟨hperm.mem_iff.mp h.mem, h.qualifies, fun s hs => h.first s (hperm.mem_iff.mpr hs)⟩

theorem first_of_chosen (hcollates : Collates localeCompare) {sel : SourceSelection}
    (h : selectFrom localeCompare sources req = .ok sel) :
    First localeCompare req sources sel.source :=
  first_iff.mpr (front_least (sorts_candidates hcollates) (selectFrom_ok.mp h).1)

/-- **The choice is as it must be**, iff what is first is one source that needs no credential that
    another would do without. -/
theorem selection_lawful_iff (hcollates : Collates localeCompare) :
    Selects localeCompare sources req ↔ OneFirst localeCompare sources req := by
  constructor
  · intro hlaw
    have hchosen : ∀ a sel, First localeCompare req sources a →
        selectFrom localeCompare sources req = .ok sel → a = sel.source := by
      intro a sel ha hsel
      obtain ⟨sources', hperm, sel', hsel', rfl⟩ := ha.exists_order
      obtain ⟨sel'', hsel'', hsource, -⟩ := (hlaw.chosen sel hsel).inOrder sources' hperm
      obtain rfl := Except.ok.inj (hsel'.symm.trans hsel'')
      exact hsource
    constructor
    · intro a b ha hb
      obtain ⟨sel, hsel⟩ := @exists_chosen req a sources localeCompare ha.mem ha.qualifies
      rw [hchosen a sel ha hsel, hchosen b sel hb hsel]
    · intro a ha hauth
      obtain ⟨sel, hsel⟩ := @exists_chosen req a sources localeCompare ha.mem ha.qualifies
      rw [hchosen a sel ha hsel] at hauth ⊢
      exact (hlaw.chosen sel hsel).sparing hauth
  · intro hone
    constructor
    · intro sel hsel
      have hfirst := first_of_chosen hcollates hsel
      refine ⟨hfirst.mem, hfirst.qualifies, fun sources' hperm => ?_,
        fun s hs hq hactive => hfirst.active hs hq hactive, hone.sparing _ hfirst⟩
      obtain ⟨sel', hsel'⟩ := @exists_chosen req sel.source sources' localeCompare
        (hperm.mem_iff.mpr hfirst.mem) hfirst.qualifies
      obtain ⟨-, hwarnings, hrejected⟩ := selectFrom_ok.mp hsel
      obtain ⟨-, hwarnings', hrejected'⟩ := selectFrom_ok.mp hsel'
      refine ⟨sel', hsel', hone.unique _ _ ((first_of_chosen hcollates hsel').of_perm hperm)
        hfirst, ?_, ?_⟩
      · rw [hwarnings, hwarnings']
        exact warnings_perm hperm
      · rw [hrejected, hrejected']
        exact rejectedOf_perm hperm
    · intro hnone
      refine ⟨_, selectFrom_error hnone, fun s hs habout => ?_⟩
      obtain ⟨r, hr, -, hid⟩ := rejected_of_not_qualifies hs habout (hnone s hs)
      exact ⟨r, hr, hid⟩

end Choice

/-! ## 6. A feed and a stream -/

def unitCompare (s t : String) : Int := if textLe s t then 0 else 1

theorem unitCompare_le {s t : String} : unitCompare s t ≤ 0 ↔ textLe s t = true := by
  unfold unitCompare
  split
  · rename_i h
    exact iff_of_true (by decide) h
  · rename_i h
    exact iff_of_false (by decide) h

theorem unitCompare_collates : Collates unitCompare where
  total s t := by
    rw [unitCompare_le, unitCompare_le]
    exact textLe_total s t
  trans s t u hst htu := by
    rw [unitCompare_le] at hst htu ⊢
    exact textLe_trans hst htu

/-- A feed that anyone may read, once an hour. -/
def hourlyFeed : MarketSource where
  sourceId := "feed"
  kind := .CHAINLINK_DATA_FEED
  subject := "weth/usd"
  chainId := 1
  identity := "0x5f4e"
  trustClass := .VERIFIED_ORACLE
  heartbeatMs := 3600000
  decimals := 8
  lifecycle := .ACTIVE
  deprecationDate := none
  replacedBy := none
  historical := true
  requiresAuth := false
  verifiedBy := "live read"
  verifiedAt := "2026-09-10"

def fastStream : MarketSource :=
  { hourlyFeed with
    sourceId := "stream", kind := .CHAINLINK_DATA_STREAM, heartbeatMs := 1000,
    requiresAuth := true }

def dayOldPrice : SourceRequirement :=
  ⟨"weth/usd", 1, .VERIFIED_ORACLE, 86400000, false, ["stream"]⟩

/-- Of one feed, it is chosen. -/
theorem selection_lawful_feed : Selects unitCompare [hourlyFeed] dayOldPrice := by
  refine (selection_lawful_iff unitCompare_collates).mpr ⟨fun a b ha hb => ?_, fun a ha => ?_⟩
  · rw [List.mem_singleton.mp ha.mem, List.mem_singleton.mp hb.mem]
  · rw [List.mem_singleton.mp ha.mem]
    exact fun hauth => absurd hauth (by decide)

/-- **The stream is chosen over the feed, which needs no credential**; and of two sources that the
    sort does not tell apart, the one that stands first. -/
theorem feed_passed_over :
    (selectFrom unitCompare [hourlyFeed, fastStream] dayOldPrice = .ok ⟨fastStream, [], []⟩ ∧
      Qualifies dayOldPrice hourlyFeed ∧ hourlyFeed.requiresAuth = false ∧
      fastStream.requiresAuth = true ∧ hourlyFeed.lifecycle = fastStream.lifecycle) ∧
    selectFrom unitCompare [hourlyFeed, { hourlyFeed with identity := "0x99" }] dayOldPrice
      ≠ selectFrom unitCompare [{ hourlyFeed with identity := "0x99" }, hourlyFeed] dayOldPrice := by
  decide

end ContextLock.Reality
