/-
  Subject:   Whether two replays of one target describe the same thing.

  The observations are compared through maps by their metric, so of several of one metric the last
  stands for all, and in three of the fields only.
-/
import ContextLock.Reality.Replay
import ContextLock.Reality.Snapshot

namespace ContextLock.Reality

open Js

/-! ## 1. The comparison -/

structure Replayed where
  target : ReplayTarget
  observations : List MarketObservation

structure ReplayAgreement where
  agree : Bool
  differences : List String

/-- The observations that were read at a block. -/
def Replayed.pinned (r : Replayed) : List MarketObservation :=
  r.observations.filter fun o => o.blockNumber.isSome

/-- `new Map(pinned.map((o) => [o.metric, o]))`. -/
def Replayed.byMetric (r : Replayed) : Js.Map MarketObservation :=
  .ofEntries (r.pinned.map fun o => (o.metric, o))

def differs (before a b : String) : List String :=
  if a ≠ b then [before ++ a ++ " vs " ++ b] else []

def observationDifferences (metric : String) (oa ob : MarketObservation) : List String :=
  differs (metric ++ ": ") oa.value ob.value
    ++ (if oa.blockNumber ≠ ob.blockNumber then
          [metric ++ " block: " ++ oa.blockNumber.getD "null" ++ " vs "
            ++ ob.blockNumber.getD "null"]
        else [])
    ++ differs (metric ++ " trust: ") oa.trustClass.text ob.trustClass.text

def entryDifferences (b : Js.Map MarketObservation) (entry : String × MarketObservation) :
    List String :=
  match b.get? entry.1 with
  | none => [entry.1 ++ " present in the first replay and absent from the second"]
  | some ob => observationDifferences entry.1 entry.2 ob

def keyDifference (a : Js.Map MarketObservation) (metric : String) : List String :=
  if (a.get? metric).isNone then
    [metric ++ " present in the second replay and absent from the first"]
  else []

def replaysAgree (a b : Replayed) : ReplayAgreement :=
  let differences := differs "block " a.target.blockNumber b.target.blockNumber
    ++ differs "block hash " a.target.blockHash b.target.blockHash
    ++ a.byMetric.entries.flatMap (entryDifferences b.byMetric)
    ++ b.byMetric.keys.flatMap (keyDifference a.byMetric)
  ⟨differences.isEmpty, differences⟩

/-! ## 2. What is compared -/

def compared (o : MarketObservation) : String × Option String × Adapters.DataTrustClass :=
  (o.value, o.blockNumber, o.trustClass)

/-- One block, and one hash. -/
def SameTarget (a b : Replayed) : Prop :=
  a.target.blockNumber = b.target.blockNumber ∧ a.target.blockHash = b.target.blockHash

def LastAgree (a b : Replayed) : Prop :=
  ∀ metric, (a.byMetric.get? metric).map compared = (b.byMetric.get? metric).map compared

theorem differs_eq_nil {before s t : String} : differs before s t = [] ↔ s = t := by
  unfold differs
  split
  · rename_i h
    exact iff_of_false (by simp) h
  · rename_i h
    exact iff_of_true rfl (not_not.mp h)

theorem trustText_inj {t u : Adapters.DataTrustClass} (h : t.text = u.text) : t = u := by
  revert h
  cases t <;> cases u <;> decide

theorem observationDifferences_eq_nil {metric : String} {oa ob : MarketObservation} :
    observationDifferences metric oa ob = [] ↔ compared oa = compared ob := by
  have hblock : ∀ p : Prop, ∀ _ : Decidable p, ∀ s : String, (if p then [s] else []) = [] ↔ ¬ p := by
    intro p _ s
    split <;> simp [*]
  unfold observationDifferences compared
  rw [List.append_eq_nil_iff, List.append_eq_nil_iff, differs_eq_nil, differs_eq_nil, hblock,
    not_not, Prod.mk.injEq, Prod.mk.injEq, and_assoc]
  constructor
  · rintro ⟨hvalue, hnumber, htrust⟩
    exact ⟨hvalue, hnumber, trustText_inj htrust⟩
  · rintro ⟨hvalue, hnumber, htrust⟩
    exact ⟨hvalue, hnumber, congrArg _ htrust⟩

theorem maps_agree_iff {a b : Js.Map MarketObservation} :
    (a.entries.flatMap (entryDifferences b) = [] ∧ b.keys.flatMap (keyDifference a) = []) ↔
      ∀ metric, (a.get? metric).map compared = (b.get? metric).map compared := by
  rw [List.flatMap_eq_nil_iff, List.flatMap_eq_nil_iff]
  constructor
  · rintro ⟨hentries, hkeys⟩ metric
    cases ha : a.get? metric with
    | some oa =>
      obtain ⟨entry, hentry, rfl, rfl⟩ := a.mem_of_get? ha
      have hnone := hentries entry hentry
      unfold entryDifferences at hnone
      cases hb : b.get? entry.1 with
      | none =>
        rw [hb] at hnone
        cases hnone
      | some ob =>
        rw [hb] at hnone
        exact congrArg some (observationDifferences_eq_nil.mp hnone)
    | none =>
      cases hb : b.get? metric with
      | none => rfl
      | some ob =>
        obtain ⟨entry, hentry, rfl, -⟩ := b.mem_of_get? hb
        have hnone := hkeys entry.1 (List.mem_map_of_mem hentry)
        rw [keyDifference, ha] at hnone
        cases hnone
  · intro h
    constructor
    · intro entry hentry
      have hsame := h entry.1
      rw [a.get?_of_mem (show (entry.1, entry.2) ∈ a.entries from hentry)] at hsame
      unfold entryDifferences
      cases hb : b.get? entry.1 with
      | none =>
        rw [hb] at hsame
        cases hsame
      | some ob =>
        rw [hb] at hsame
        exact observationDifferences_eq_nil.mpr (Option.some.inj hsame)
    · intro metric hmetric
      obtain ⟨entry, hentry, rfl⟩ := List.mem_map.mp hmetric
      have hsame := h entry.1
      rw [b.get?_of_mem (show (entry.1, entry.2) ∈ b.entries from hentry)] at hsame
      unfold keyDifference
      cases ha : a.get? entry.1 with
      | none =>
        rw [ha] at hsame
        cases hsame
      | some oa => rfl

/-- **What two replays agree in.** -/
theorem agree_iff {a b : Replayed} :
    (replaysAgree a b).agree = true ↔ SameTarget a b ∧ LastAgree a b := by
  show List.isEmpty _ = true ↔ _
  rw [List.isEmpty_iff, List.append_eq_nil_iff, List.append_eq_nil_iff, List.append_eq_nil_iff,
    differs_eq_nil, differs_eq_nil, and_assoc (b := _ = []), maps_agree_iff]
  rfl

/-! ## 3. The same observations -/

/-- What an observation says. -/
structure Said where
  metric : String
  sourceId : String
  value : String
  decimals : Int
  unit : String
  blockNumber : Option String
  trustClass : Adapters.DataTrustClass
  deriving DecidableEq

def said (o : MarketObservation) : Said where
  metric := o.metric
  sourceId := o.sourceId
  value := o.value
  decimals := o.decimals
  unit := o.unit
  blockNumber := o.blockNumber
  trustClass := o.trustClass

def SamePinned (a b : Replayed) : Prop := (a.pinned.map said).Perm (b.pinned.map said)

/-- The law of the comparison. -/
structure AgreesExactly (a b : Replayed) : Prop where
  same : (replaysAgree a b).agree = true ↔ SameTarget a b ∧ SamePinned a b
  symmetric : (replaysAgree a b).agree = (replaysAgree b a).agree

theorem LastAgree.symm {a b : Replayed} (h : LastAgree a b) : LastAgree b a :=
  fun metric => (h metric).symm

theorem SameTarget.symm {a b : Replayed} (h : SameTarget a b) : SameTarget b a :=
  ⟨h.1.symm, h.2.symm⟩

theorem agree_symm (a b : Replayed) : (replaysAgree a b).agree = (replaysAgree b a).agree := by
  rw [Bool.eq_iff_iff, agree_iff, agree_iff]
  exact ⟨fun h => ⟨h.1.symm, h.2.symm⟩, fun h => ⟨h.1.symm, h.2.symm⟩⟩

/-- Each metric is pinned once at most. -/
def Single (r : Replayed) : Prop := (r.pinned.map MarketObservation.metric).Nodup

variable {a b : Replayed}

theorem Single.get?_iff (h : Single a) {metric : String} {o : MarketObservation} :
    a.byMetric.get? metric = some o ↔ o ∈ a.pinned ∧ o.metric = metric := by
  have hnodup : ((a.pinned.map fun o => (o.metric, o)).map Prod.fst).Nodup := by
    rw [List.map_map]
    exact h
  have hentries : a.byMetric.entries = a.pinned.map fun o => (o.metric, o) :=
    Js.Map.entries_ofEntries hnodup
  constructor
  · intro hget
    obtain ⟨entry, hentry, rfl, rfl⟩ := Js.Map.mem_of_get? _ hget
    rw [hentries] at hentry
    obtain ⟨o, ho, rfl⟩ := List.mem_map.mp hentry
    exact ⟨ho, rfl⟩
  · rintro ⟨ho, rfl⟩
    refine Js.Map.get?_of_mem _ ?_
    rw [hentries]
    exact List.mem_map_of_mem ho

theorem Single.nodup (h : Single a) : (a.pinned.map said).Nodup := by
  have hmetric : (a.pinned.map said).map Said.metric = a.pinned.map MarketObservation.metric := by
    rw [List.map_map]
    rfl
  exact List.Nodup.of_map Said.metric (hmetric ▸ h)

/-- **Where each metric is pinned once**, the same is pinned iff the observations of each metric
    say the same. -/
theorem samePinned_of_single (ha : Single a) (hb : Single b) : SamePinned a b ↔
    ∀ metric, (a.byMetric.get? metric).map said = (b.byMetric.get? metric).map said := by
  have hlookup : ∀ r, Single r → ∀ t, (t ∈ r.pinned.map said ↔
      (r.byMetric.get? t.metric).map said = some t) := by
    intro r hr t
    rw [Option.map_eq_some_iff, List.mem_map]
    constructor
    · rintro ⟨o, ho, rfl⟩
      exact ⟨o, hr.get?_iff.mpr ⟨ho, rfl⟩, rfl⟩
    · rintro ⟨o, ho, rfl⟩
      exact ⟨o, (hr.get?_iff.mp ho).1, rfl⟩
  have hkey : ∀ r, Single r → ∀ metric t, (r.byMetric.get? metric).map said = some t →
      t.metric = metric := by
    intro r hr metric t ht
    obtain ⟨o, ho, rfl⟩ := Option.map_eq_some_iff.mp ht
    exact (hr.get?_iff.mp ho).2
  unfold SamePinned
  rw [List.perm_ext_iff_of_nodup ha.nodup hb.nodup]
  constructor
  · intro hmem metric
    refine Option.ext fun t => ?_
    constructor
    · intro ht
      obtain rfl := hkey a ha metric t ht
      exact (hlookup b hb t).mp ((hmem t).mp ((hlookup a ha t).mpr ht))
    · intro ht
      obtain rfl := hkey b hb metric t ht
      exact (hlookup a ha t).mp ((hmem t).mpr ((hlookup b hb t).mpr ht))
  · intro hsame t
    rw [hlookup a ha, hlookup b hb, hsame]

theorem lastAgree_of_said
    (h : ∀ metric, (a.byMetric.get? metric).map said = (b.byMetric.get? metric).map said) :
    LastAgree a b := by
  intro metric
  have hmap : ∀ x : Option MarketObservation, x.map compared
      = (x.map said).map fun t => (t.value, t.blockNumber, t.trustClass) := by
    intro x
    rw [Option.map_map]
    rfl
  rw [hmap, hmap, h metric]

/-- **Two replays agree exactly when they are of one target and pin the same**, iff of one target
    they pin the same exactly when the last observations of each metric agree in value, block and
    trust class. Where each metric is pinned once that is, iff those that agree in the three agree
    in the source, the decimals and the unit as well. -/
theorem replay_agreement_iff (a b : Replayed) :
    (AgreesExactly a b ↔ (SameTarget a b → (LastAgree a b ↔ SamePinned a b))) ∧
    (Single a → Single b → (AgreesExactly a b ↔ (SameTarget a b → LastAgree a b →
      ∀ metric, (a.byMetric.get? metric).map said = (b.byMetric.get? metric).map said))) := by
  have hexact : AgreesExactly a b ↔ (SameTarget a b → (LastAgree a b ↔ SamePinned a b)) := by
    constructor
    · rintro ⟨hsame, -⟩ htarget
      rw [agree_iff, and_iff_right htarget, and_iff_right htarget] at hsame
      exact hsame
    · intro h
      refine ⟨?_, agree_symm a b⟩
      rw [agree_iff]
      exact and_congr_right h
  refine ⟨hexact, fun ha hb => ?_⟩
  rw [hexact, samePinned_of_single ha hb]
  constructor
  · exact fun h htarget => (h htarget).mp
  · exact fun h htarget => ⟨h htarget, lastAgree_of_said⟩

/-! ## 4. Two sources of one metric -/

/-- A price at block 100. -/
def pinnedPrice (sourceId value unit : String) : MarketObservation where
  observationId := sourceId
  metric := "weth/usd:price"
  value := value
  decimals := 8
  unit := unit
  dataType := .PRICE
  canonicalAssetId := none
  sourceId := sourceId
  sourceChainId := 1
  blockNumber := some "100"
  sourceTimestampMs := none
  retrievedAtMs := 1
  trustClass := .VERIFIED_ORACLE
  adapterId := "chainlink"
  adapterVersion := "1"
  derivedFrom := none
  provenance := "read"

def replayOf (observations : List MarketObservation) : Replayed :=
  ⟨⟨"100", "0xaa", 1, 1, .EXPLICIT_BLOCK, none⟩, observations⟩

/-- **Two replays agree that differ**: in the price of a second source, and in the unit. And two
    that pin the same in another order do not agree. -/
theorem hidden_source_agrees :
    ((replaysAgree (replayOf [pinnedPrice "a" "1" "USD", pinnedPrice "b" "2" "USD"])
        (replayOf [pinnedPrice "a" "9" "USD", pinnedPrice "b" "2" "USD"])).agree = true ∧
      ¬ SamePinned (replayOf [pinnedPrice "a" "1" "USD", pinnedPrice "b" "2" "USD"])
        (replayOf [pinnedPrice "a" "9" "USD", pinnedPrice "b" "2" "USD"])) ∧
    ((replaysAgree (replayOf [pinnedPrice "a" "1" "USD"])
        (replayOf [pinnedPrice "a" "1" "EUR"])).agree = true ∧
      ¬ SamePinned (replayOf [pinnedPrice "a" "1" "USD"]) (replayOf [pinnedPrice "a" "1" "EUR"])) ∧
    (replaysAgree (replayOf [pinnedPrice "a" "1" "USD", pinnedPrice "b" "2" "USD"])
        (replayOf [pinnedPrice "b" "2" "USD", pinnedPrice "a" "1" "USD"])).agree = false ∧
      SamePinned (replayOf [pinnedPrice "a" "1" "USD", pinnedPrice "b" "2" "USD"])
        (replayOf [pinnedPrice "b" "2" "USD", pinnedPrice "a" "1" "USD"]) := by
  unfold SamePinned
  decide

end ContextLock.Reality
