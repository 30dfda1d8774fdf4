/-
  Subject:   How the choices of the model are merged with the skeleton of a Blueprint.

  The lower case of a text and the rounding of dollars to cents are parameters, and so are the
  fields that grant nothing.
-/
import ContextLock.Lab.Enforced

namespace ContextLock.Lab

/-! ## 1. The catalogue -/

/-- An action of the catalogue: through its protocol, for the vault itself, exactly approved. -/
def catalogued (id kind displayName protocolRef role : String) (spends approves : List String) :
    Action where
  id := id
  kind := kind
  displayName := displayName
  protocolRef := protocolRef
  targetPolicy := .protocolResolved protocolRef role
  recipientPolicy := .selfOnly
  spendsAssets := spends
  approvals := approves.map fun symbol => ⟨symbol, role, .exactActionAmount⟩

/-- The actions of the Aave entry, which are the skeleton's too. -/
def AAVE_ACTIONS : List Action :=
  [catalogued "repay-debt" "AAVE_REPAY" "Repay outstanding debt" "aave" "pool" ["USDC"] ["USDC"],
   catalogued "add-collateral" "AAVE_SUPPLY" "Add collateral to the position" "aave" "pool"
     ["USDC"] ["USDC"]]

/-- The actions of `PROTOCOL_CATALOGUE`. -/
def CATALOGUE_ACTIONS : List Action :=
  AAVE_ACTIONS ++
  [catalogued "morpho-repay" "MORPHO_REPAY" "Repay Morpho Blue debt in the position's market"
     "morpho" "morpho" ["USDC"] ["USDC"],
   catalogued "morpho-supply-collateral" "MORPHO_SUPPLY_COLLATERAL"
     "Add collateral to the Morpho Blue position" "morpho" "morpho" ["WETH"] ["WETH"],
   catalogued "compound-repay" "COMPOUND_REPAY" "Repay Compound v3 base-asset debt" "compound"
     "comet" ["USDC"] ["USDC"],
   catalogued "compound-supply" "COMPOUND_SUPPLY" "Add collateral to the Compound v3 position"
     "compound" "comet" ["WETH"] ["WETH"],
   catalogued "stake-eth" "LIDO_STAKE" "Stake ETH held by the vault with Lido" "lido" "steth"
     ["ETH"] []]

def swapAction : Action :=
  catalogued "swap-tokens" "TOKEN_SWAP" "Swap tokens through the router" "dex-router" "router"
    ["USDC"] ["USDC"]

/-! ## 2. What a model returns -/

variable {Usd : Type}

structure Requirements (Usd : Type) where
  autonomousLimitUsd : Maybe Usd
  escalationFloorUsd : Maybe Usd
  escalationCeilingUsd : Maybe Usd
  forbiddenActions : List String

structure ArchitectureChoice where
  allowedPermissions : List Permission
  deniedPermissions : List String
  requiredExecutionCapabilities : List String

def ArchitectureChoice.Names (arch : ArchitectureChoice) (ref : String) : Prop :=
  ∃ p ∈ arch.allowedPermissions, p.actionRef = some ref

/-! ## 3. Merging -/

def usdToCents (cents : Usd → Nat) : Maybe Usd → Maybe Nat
  | .known value => .known (cents value)
  | .unknown reason requiredBefore => .unknown reason requiredBefore

/-- `norm`: letters, digits and single blanks. -/
def norm (lower : String → String) (t : String) : String :=
  let kept := (lower t).toList.filter fun c => lowerChar c || digitChar c || c = ' '
  " ".intercalate (((kept.splitOn ' ').filter (· ≠ [])).map String.ofList)

section

variable (key : String → String)

/-- The first statement of each key, but for those whose key is empty. -/
def distinct : List String → List String → List String
  | _, [] => []
  | seen, s :: rest =>
    if key s = "" ∨ key s ∈ seen then distinct seen rest else s :: distinct (key s :: seen) rest

/-- A verb that no denial mentions is recorded as unresolved. -/
def recordVerb (denied : List Permission) (verb : String) : List Permission :=
  if denied.any fun d => includesText (key verb) (key d.statement) then denied
  else denied ++ [⟨s!"UNRESOLVED: the user did not state whether {quoted verb} is permitted", none⟩]

def deniedOf (req : Requirements Usd) (arch : ArchitectureChoice) : List Permission :=
  ["withdraw", "arbitrary transfer", "arbitrary token approval"].foldl (recordVerb key)
    ((distinct key [] (arch.deniedPermissions ++ req.forbiddenActions)).map (⟨·, none⟩))

end

/-- The actions that are offered: a swap where it is asked for. -/
def candidateActions (arch : ArchitectureChoice) : List Action :=
  if "TOKEN_SWAP" ∈ arch.requiredExecutionCapabilities ∨
      some "swap-tokens" ∈ arch.allowedPermissions.map Permission.actionRef
  then CATALOGUE_ACTIONS ++ [swapAction] else CATALOGUE_ACTIONS

def permittedActionIds (arch : ArchitectureChoice) : List String :=
  (arch.allowedPermissions.filterMap Permission.actionRef).filter fun ref =>
    ref ≠ "" ∧ ref ∈ (candidateActions arch).map Action.id

def activeActions (arch : ArchitectureChoice) : List Action :=
  (candidateActions arch).filter fun a => a.id ∈ permittedActionIds arch

/-- `assembleBlueprint`, of the fields that grant or deny; the others are those of `rest`. -/
def assembleBlueprint (lower : String → String) (cents : Usd → Nat) (rest : Blueprint)
    (req : Requirements Usd) (arch : ArchitectureChoice) : Blueprint :=
  { rest with
    actions := if activeActions arch = [] then AAVE_ACTIONS else activeActions arch
    permissions := ⟨arch.allowedPermissions.map fun p => ⟨p.statement, p.actionRef.filter (· ≠ "")⟩,
      deniedOf (norm lower) req arch⟩
    autonomousPolicy := ⟨usdToCents cents req.autonomousLimitUsd, permittedActionIds arch⟩
    escalationPolicy := ⟨usdToCents cents req.escalationFloorUsd,
      usdToCents cents req.escalationCeilingUsd, .approvalRegistryStandin⟩ }

/-! ## 4. Authority -/

/-- The catalogue, the swap included. -/
def CATALOGUE : List Action := CATALOGUE_ACTIONS ++ [swapAction]

def GrantedAction (arch : ArchitectureChoice) (ref : String) : Prop :=
  ref ∈ CATALOGUE.map Action.id ∧ arch.Names ref

def StaysUnknown (m : Maybe Usd) (n : Maybe Nat) : Prop :=
  ∀ reason requiredBefore, m = .unknown reason requiredBefore → n = .unknown reason requiredBefore

/-- What holds of every choice: what runs alone is granted, a prohibition that says something is
    denied, and an unknown limit stays unknown. -/
structure Restrained (key : String → String) (req : Requirements Usd) (arch : ArchitectureChoice)
    (bp : Blueprint) : Prop where
  autonomous : ∀ ref ∈ bp.autonomousPolicy.allowedActionRefs, GrantedAction arch ref
  denied : ∀ s ∈ arch.deniedPermissions ++ req.forbiddenActions, key s ≠ "" →
    ∃ p ∈ bp.permissions.denied, key p.statement = key s
  limit : StaysUnknown req.autonomousLimitUsd bp.autonomousPolicy.maxValueUsdCents
  floor : StaysUnknown req.escalationFloorUsd bp.escalationPolicy.minValueUsdCents
  ceiling : StaysUnknown req.escalationCeilingUsd bp.escalationPolicy.maxValueUsdCents

def ActionsGranted (arch : ArchitectureChoice) (bp : Blueprint) : Prop :=
  ∀ a ∈ bp.actions, a ∈ CATALOGUE ∧ arch.Names a.id

section

variable {key : String → String} {arch : ArchitectureChoice} {req : Requirements Usd}

theorem mem_distinct {s : String} (hkey : key s ≠ "") {seen statements : List String}
    (hs : s ∈ statements) (hseen : key s ∉ seen) :
    ∃ s' ∈ distinct key seen statements, key s' = key s := by
  induction statements generalizing seen with
  | nil => cases hs
  | cons t rest ih =>
    unfold distinct
    by_cases hsame : key t = key s
    · rw [if_neg (by rw [hsame]; exact not_or.mpr ⟨hkey, hseen⟩)]
      exact ⟨t, List.mem_cons_self, hsame⟩
    · have hrest : s ∈ rest := (List.mem_cons.mp hs).resolve_left fun h => hsame (by rw [h])
      split
      · exact ih hrest hseen
      · have hnew : key s ∉ key t :: seen := by
          rw [List.mem_cons, not_or]
          exact ⟨Ne.symm hsame, hseen⟩
        obtain ⟨s', hmem, hkey'⟩ := ih hrest hnew
        exact ⟨s', List.mem_cons_of_mem t hmem, hkey'⟩

theorem mem_recordVerbs {p : Permission} {denied : List Permission} (hp : p ∈ denied)
    (verbs : List String) : p ∈ verbs.foldl (recordVerb key) denied := by
  induction verbs generalizing denied with
  | nil => exact hp
  | cons verb verbs ih =>
    refine ih ?_
    unfold recordVerb
    split
    · exact hp
    · exact List.mem_append_left _ hp

theorem mem_deniedOf {s : String} (hs : s ∈ arch.deniedPermissions ++ req.forbiddenActions)
    (hkey : key s ≠ "") : ∃ p ∈ deniedOf key req arch, key p.statement = key s := by
  obtain ⟨s', hmem, hsame⟩ := mem_distinct hkey hs (List.not_mem_nil (a := key s))
  exact ⟨⟨s', none⟩, mem_recordVerbs (List.mem_map.mpr ⟨s', hmem, rfl⟩) _, hsame⟩

theorem mem_catalogue {a : Action} (ha : a ∈ candidateActions arch) : a ∈ CATALOGUE := by
  unfold candidateActions at ha
  split at ha
  · exact ha
  · exact List.mem_append_left _ ha

/-- **What runs alone** is what the catalogue has and a permission names. -/
theorem mem_permittedActionIds {ref : String} :
    ref ∈ permittedActionIds arch ↔ GrantedAction arch ref := by
  have hcandidates : arch.Names ref → ref ∈ CATALOGUE.map Action.id →
      ref ≠ "" ∧ ref ∈ (candidateActions arch).map Action.id := by
    intro hnames hcatalogue
    have hall : ∀ id ∈ CATALOGUE.map Action.id, id ≠ "" ∧
        (id = "swap-tokens" ∨ id ∈ CATALOGUE_ACTIONS.map Action.id) := by decide
    obtain ⟨hne, hswap | hplain⟩ := hall ref hcatalogue
    · refine ⟨hne, ?_⟩
      obtain ⟨p, hp, href⟩ := hnames
      rw [candidateActions, if_pos (.inr (List.mem_map.mpr ⟨p, hp, href.trans (by rw [hswap])⟩))]
      exact hcatalogue
    · refine ⟨hne, ?_⟩
      unfold candidateActions
      split
      · exact hcatalogue
      · exact hplain
  unfold permittedActionIds
  rw [List.mem_filter, decide_eq_true_eq, List.mem_filterMap]
  constructor
  · intro h
    obtain ⟨hnames, _, hmem⟩ := h
    obtain ⟨a, ha, hid⟩ := List.mem_map.mp hmem
    exact ⟨List.mem_map.mpr ⟨a, mem_catalogue ha, hid⟩, hnames⟩
  · intro h
    exact ⟨h.2, hcandidates h.2 h.1⟩

theorem activeActions_ne_nil {ref : String} (h : GrantedAction arch ref) : activeActions arch ≠ [] := by
  have hpermitted := mem_permittedActionIds.mpr h
  have hmem := hpermitted
  unfold permittedActionIds at hmem
  rw [List.mem_filter, decide_eq_true_eq] at hmem
  obtain ⟨a, ha, hid⟩ := List.mem_map.mp hmem.2.2
  refine List.ne_nil_of_mem (a := a) (List.mem_filter.mpr ⟨ha, ?_⟩)
  rw [hid]
  exact decide_eq_true hpermitted

theorem staysUnknown_usdToCents (cents : Usd → Nat) (m : Maybe Usd) :
    StaysUnknown m (usdToCents cents m) := by
  intro reason requiredBefore h
  rw [h, usdToCents]

/-- **The model adds no authority.** Where a permission names an action of the catalogue, every
    action is such a one; where none does, the actions are the skeleton's and none runs alone. -/
theorem assembleBlueprint_adds_none (lower : String → String) (cents : Usd → Nat)
    (rest : Blueprint) (req : Requirements Usd) (arch : ArchitectureChoice) :
    let bp := assembleBlueprint lower cents rest req arch
    Restrained (norm lower) req arch bp ∧
      ((∃ ref, GrantedAction arch ref) → ActionsGranted arch bp) ∧
      ((¬ ∃ ref, GrantedAction arch ref) →
        bp.actions = AAVE_ACTIONS ∧ bp.autonomousPolicy.allowedActionRefs = []) := by
  refine ⟨⟨fun _ => mem_permittedActionIds.mp, fun _ hs => mem_deniedOf hs,
    staysUnknown_usdToCents _ _, staysUnknown_usdToCents _ _, staysUnknown_usdToCents _ _⟩,
    fun h => ?_, fun h => ?_⟩
  · obtain ⟨ref, href⟩ := h
    intro a ha
    change a ∈ (if activeActions arch = [] then AAVE_ACTIONS else activeActions arch) at ha
    rw [if_neg (activeActions_ne_nil href)] at ha
    obtain ⟨hcandidate, hpermitted⟩ := List.mem_filter.mp ha
    exact ⟨mem_catalogue hcandidate,
      (mem_permittedActionIds.mp (of_decide_eq_true hpermitted)).2⟩
  · have hnone : permittedActionIds arch = [] :=
      List.eq_nil_iff_forall_not_mem.mpr fun ref hmem => h ⟨ref, mem_permittedActionIds.mp hmem⟩
    have hactive : activeActions arch = [] := by
      rw [activeActions, hnone]
      simp
    exact ⟨if_pos hactive, hnone⟩

end

def silentChoice : ArchitectureChoice := ⟨[], [], []⟩

def unknownRequirements : Requirements Nat :=
  ⟨.unknown "not stated" .BUILD, .unknown "not stated" .BUILD, .unknown "not stated" .BUILD, []⟩

/-- **No permission names the repayment** that is in the Blueprint. -/
theorem skeleton_actions_ungranted : ¬ ActionsGranted silentChoice
    (assembleBlueprint Js.toLowerCase id sampleBlueprint unknownRequirements silentChoice) := by
  intro h
  have hnone : ∀ a ∈ AAVE_ACTIONS, False := by
    intro a ha
    obtain ⟨_, p, hp, _⟩ := h a ha
    cases hp
  exact hnone _ List.mem_cons_self

end ContextLock.Lab
