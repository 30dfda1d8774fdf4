/-
  Subject:   Readings of one metric from several sources: their spread, and the one that counts.
-/
import ContextLock.Adapters.Resolver
import ContextLock.Js.BigInt
import ContextLock.Js.Front
import ContextLock.Js.Rounding
import Mathlib.Algebra.Order.Field.Rat
import Mathlib.Data.Rat.Floor
import Mathlib.Tactic.Linarith
import Mathlib.Tactic.NormNum

namespace ContextLock.Reality

open Js Adapters

/-! ## 1. Readings -/

structure Reading where
  sourceId : String
  value : String
  decimals : Int
  trustClass : DataTrustClass
  deriving DecidableEq

structure Disagreement where
  metric : String
  readings : List Reading
  spreadBps : Js.Num
  disagrees : Bool
  authoritative : Reading
  deriving DecidableEq

/-- What a comparison is refused for. -/
inductive ComparisonError where
  | NO_COMPATIBLE (detail : String)
  | SyntaxError (value : String)
  deriving DecidableEq

def trustGroup (t : DataTrustClass) : Nat :=
  if satisfiesTrust t .VERIFIED_ORACLE then 2
  else if satisfiesTrust t .INDEXED_CHAIN_DATA then 1 else 0

/-- `a` does not stand after `b`, by their groups. -/
def byTrust (a b : Reading) : Bool := trustGroup b.trustClass ≤ trustGroup a.trustClass

/-- `BigInt(r.value) * 10n ** BigInt(maxDecimals - r.decimals)`. -/
def scaledTo (maxDecimals : Int) (r : Reading) : Except ComparisonError Int :=
  match bigInt r.value with
  | some value => .ok (value * 10 ^ (maxDecimals - r.decimals).toNat)
  | none => .error (.SyntaxError r.value)

def spreadBpsOf (min max : Int) : Js.Num :=
  if min = 0 then if max = 0 then .int 0 else .int (2 ^ 53 - 1)
  else Num.ofBigInt (((max - min) * 10000).tdiv (if min < 0 then -min else min))

def compareReadings (metric : String) (readings : List Reading) (toleranceBps : Js.Num) :
    Except ComparisonError Disagreement :=
  match readings with
  | [] => .error (.NO_COMPATIBLE ("no readings for " ++ metric))
  | first :: rest =>
    let maxDecimals := (rest.map Reading.decimals).foldl max first.decimals
    match scaledTo maxDecimals first, rest.mapM (scaledTo maxDecimals) with
    | .error e, _ => .error e
    | _, .error e => .error e
    | .ok v, .ok vs =>
      let spreadBps := spreadBpsOf (vs.foldl min v) (vs.foldl max v)
      .ok {
        metric
        readings
        spreadBps
        disagrees := toleranceBps.lt spreadBps
        authoritative := (front byTrust readings).getD first }

/-! ## 2. What is compared -/

/-- The integer that a reading is, where it is one. -/
def Reading.number (r : Reading) : Int := (bigInt r.value).getD 0

def maxDecimals (readings : List Reading) : Int :=
  (readings.tail.map Reading.decimals).foldl max ((readings.head?.map Reading.decimals).getD 0)

def scaled (readings : List Reading) : List Int :=
  readings.map fun r => r.number * 10 ^ (maxDecimals readings - r.decimals).toNat

def lowest (readings : List Reading) : Int :=
  (scaled readings).tail.foldl min ((scaled readings).headD 0)

def highest (readings : List Reading) : Int :=
  (scaled readings).tail.foldl max ((scaled readings).headD 0)

/-- The readings are some, and each is an integer. -/
structure Numbers (readings : List Reading) : Prop where
  nonempty : readings ≠ []
  integers : ∀ r ∈ readings, ∃ n, bigInt r.value = some n

theorem scaledTo_ok {m : Int} {r : Reading} (h : ∃ n, bigInt r.value = some n) :
    scaledTo m r = .ok (r.number * 10 ^ (m - r.decimals).toNat) := by
  obtain ⟨n, hn⟩ := h
  rw [scaledTo, Reading.number, hn]
  rfl

theorem mapM_scaledTo {m : Int} {rs : List Reading} (h : ∀ r ∈ rs, ∃ n, bigInt r.value = some n) :
    rs.mapM (scaledTo m) = .ok (rs.map fun r => r.number * 10 ^ (m - r.decimals).toNat) := by
  induction rs with
  | nil => rfl
  | cons r rs ih =>
    rw [List.mapM_cons, scaledTo_ok (h r List.mem_cons_self),
      ih fun r hr => h r (List.mem_cons_of_mem _ hr)]
    rfl

/-- **What is returned.** -/
theorem compareReadings_ok {metric : String} {readings : List Reading} {toleranceBps : Js.Num}
    (h : Numbers readings) : ∃ d, compareReadings metric readings toleranceBps = .ok d ∧
      d.disagrees = toleranceBps.lt (spreadBpsOf (lowest readings) (highest readings)) ∧
      front byTrust readings = some d.authoritative := by
  obtain ⟨hne, hintegers⟩ := h
  cases readings with
  | nil => exact absurd rfl hne
  | cons first rest =>
    obtain ⟨a, ha⟩ := @exists_front _ byTrust _ hne
    have hfirst := scaledTo_ok (m := (rest.map Reading.decimals).foldl max first.decimals)
      (hintegers first List.mem_cons_self)
    have hrest := mapM_scaledTo (m := (rest.map Reading.decimals).foldl max first.decimals)
      fun r hr => hintegers r (List.mem_cons_of_mem _ hr)
    refine ⟨⟨metric, first :: rest, spreadBpsOf (lowest (first :: rest)) (highest (first :: rest)),
      toleranceBps.lt (spreadBpsOf (lowest (first :: rest)) (highest (first :: rest))),
      (front byTrust (first :: rest)).getD first⟩, ?_, rfl, ?_⟩
    · unfold compareReadings
      dsimp only
      rw [hfirst, hrest]
      rfl
    · rw [ha]
      rfl

/-! ## 3. The reading that counts -/

/-- Readings that are all of one class where it matters: those of the two highest classes, and all
    where none is of the three highest. -/
structure OneClass (readings : List Reading) : Prop where
  oracles : ∀ r ∈ readings, ∀ r' ∈ readings, satisfiesTrust r.trustClass .VERIFIED_ORACLE = true →
    satisfiesTrust r'.trustClass .VERIFIED_ORACLE = true → r.trustClass = r'.trustClass
  others : (∀ r ∈ readings, satisfiesTrust r.trustClass .INDEXED_CHAIN_DATA = false) →
    ∀ r ∈ readings, ∀ r' ∈ readings, r.trustClass = r'.trustClass

theorem trustGroup_le_two (t : DataTrustClass) : trustGroup t ≤ 2 := by
  cases t <;> decide

theorem oracle_iff (t : DataTrustClass) :
    satisfiesTrust t .VERIFIED_ORACLE = true ↔ trustGroup t = 2 := by
  cases t <;> decide

theorem other_iff (t : DataTrustClass) :
    satisfiesTrust t .INDEXED_CHAIN_DATA = false ↔ trustGroup t = 0 := by
  cases t <;> decide

theorem indexed_of_group {t : DataTrustClass} (h : trustGroup t = 1) : t = .INDEXED_CHAIN_DATA := by
  cases t <;> first | rfl | exact absurd h (by decide)

theorem rank_lt_of_group {t u : DataTrustClass} (h : trustGroup t < trustGroup u) :
    t.rank < u.rank := by
  revert h
  cases t <;> cases u <;> decide

variable {readings : List Reading} {a b : Reading}

theorem byTrust_iff : byTrust a b = true ↔ trustGroup b.trustClass ≤ trustGroup a.trustClass :=
  decide_eq_true_iff

theorem byTrust_orders (readings : List Reading) : Orders byTrust readings where
  total a _ b _ := by
    rw [byTrust_iff, byTrust_iff]
    exact Nat.le_total _ _
  trans a _ b _ c _ hab hbc := by
    rw [byTrust_iff] at hab hbc ⊢
    exact Nat.le_trans hbc hab

theorem group_eq (ha : Least byTrust readings a) (hb : Least byTrust readings b) :
    trustGroup a.trustClass = trustGroup b.trustClass :=
  Nat.le_antisymm (byTrust_iff.mp (hb.le a ha.mem)) (byTrust_iff.mp (ha.le b hb.mem))

/-- **The readings that may count are of one class.** -/
theorem oneClass_iff : OneClass readings ↔ ∀ a b, Least byTrust readings a →
    Least byTrust readings b → a.trustClass = b.trustClass := by
  constructor
  · intro h a b ha hb
    have hgroup := group_eq ha hb
    have htop := trustGroup_le_two a.trustClass
    obtain htwo | hone | hzero : trustGroup a.trustClass = 2 ∨ trustGroup a.trustClass = 1 ∨
        trustGroup a.trustClass = 0 := by omega
    · exact h.oracles a ha.mem b hb.mem ((oracle_iff _).mpr htwo)
        ((oracle_iff _).mpr (hgroup ▸ htwo))
    · exact (indexed_of_group hone).trans (indexed_of_group (hgroup.symm.trans hone)).symm
    · refine h.others (fun r hr => (other_iff _).mpr ?_) a ha.mem b hb.mem
      have hle := byTrust_iff.mp (ha.le r hr)
      omega
  · intro h
    constructor
    · intro r hr r' hr' horacle horacle'
      rw [oracle_iff] at horacle horacle'
      refine h r r' ⟨hr, fun c _ => byTrust_iff.mpr ?_⟩ ⟨hr', fun c _ => byTrust_iff.mpr ?_⟩
      · rw [horacle]
        exact trustGroup_le_two _
      · rw [horacle']
        exact trustGroup_le_two _
    · intro hothers r hr r' hr'
      have hzero : ∀ c ∈ readings, trustGroup c.trustClass = 0 := fun c hc =>
        (other_iff _).mp (hothers c hc)
      refine h r r' ⟨hr, fun c hc => byTrust_iff.mpr ?_⟩ ⟨hr', fun c hc => byTrust_iff.mpr ?_⟩
      · rw [hzero c hc]
        exact Nat.zero_le _
      · rw [hzero c hc]
        exact Nat.zero_le _

theorem OneClass.highest (h : OneClass readings) (ha : Least byTrust readings a) :
    ∀ r ∈ readings, r.trustClass.rank ≤ a.trustClass.rank := by
  intro r hr
  have hle := byTrust_iff.mp (ha.le r hr)
  obtain hlt | heq := hle.lt_or_eq
  · exact (rank_lt_of_group hlt).le
  · have hr : Least byTrust readings r := by
      refine ⟨hr, fun b hb => byTrust_iff.mpr ?_⟩
      rw [heq]
      exact byTrust_iff.mp (ha.le b hb)
    rw [oneClass_iff.mp h r a hr ha]

theorem Numbers.of_perm {readings' : List Reading} (h : Numbers readings)
    (hperm : readings'.Perm readings) : Numbers readings' := by
  refine ⟨fun hnil => h.nonempty ?_, fun r hr => h.integers r (hperm.mem_iff.mp hr)⟩
  rw [hnil] at hperm
  exact hperm.symm.eq_nil

/-! ## 4. The spread -/

/-- A `number` that is none of the integers beyond the doubles. -/
def ProperNum : Js.Num → Prop
  | .int a => Num.ofBigInt a = .int a
  | _ => True

/-- The exact spread in basis points of the lower end; `none` is one without a bound. -/
def exactSpread (lo hi : Int) : Option ℚ :=
  if lo = 0 then if hi = 0 then some 0 else none
  else some ((hi - lo) * 10000 / |(lo : ℚ)|)

/-- The spread is above the tolerance. -/
def Exceeds : Option ℚ → Js.Num → Prop
  | some x, .int t => (t : ℚ) < x
  | none, .int _ => True
  | _, .inf negative => negative = true
  | _, .nan => False

/-- The spread is above the tolerance, but not once it is cut to a whole number and rounded to a
    double; one without a bound is the largest safe integer. -/
def CutOff (lo hi : Int) (toleranceBps : Js.Num) : Prop :=
  ∃ t, toleranceBps = .int t ∧ ((lo = 0 ∧ hi ≠ 0 ∧ 2 ^ 53 - 1 ≤ t) ∨
    ∃ x, lo ≠ 0 ∧ exactSpread lo hi = some x ∧ (t : ℚ) < x ∧
      (Num.ofBigInt ⌊x⌋).le (.int t) = true)

theorem ofBigInt_cases {n : Int} (hn : 0 ≤ n) :
    (∃ a, Num.ofBigInt n = .int a) ∨ Num.ofBigInt n = .inf false := by
  have hneg : decide (n < 0) = false := decide_eq_false (by omega)
  unfold Num.ofBigInt
  split
  · rw [hneg]
    exact Or.inr rfl
  · exact Or.inl ⟨_, rfl⟩

theorem lt_ofBigInt_iff {t n : Int} (hn : 0 ≤ n) :
    (Num.int t).lt (Num.ofBigInt n) = true ↔ ¬ (Num.ofBigInt n).le (.int t) = true := by
  obtain ⟨a, ha⟩ | hinf := ofBigInt_cases hn
  · rw [ha]
    simp [Num.lt, Num.le]
  · rw [hinf]
    simp [Num.lt, Num.le]

theorem floor_spread {lo hi : Int} (hlo : lo ≠ 0) (hle : lo ≤ hi) :
    0 ≤ ⌊((hi - lo) * 10000 / |(lo : ℚ)| : ℚ)⌋ ∧
      spreadBpsOf lo hi = Num.ofBigInt ⌊((hi - lo) * 10000 / |(lo : ℚ)| : ℚ)⌋ := by
  have habs : (if lo < 0 then -lo else lo) = |lo| := by
    split
    · rename_i hneg
      exact (abs_of_neg hneg).symm
    · rename_i hpos
      exact (abs_of_nonneg (not_lt.mp hpos)).symm
  have hdiff : 0 ≤ (hi - lo) * 10000 := by omega
  have hpos : 0 < |lo| := abs_pos.mpr hlo
  have hfloor : ⌊((hi - lo) * 10000 / |(lo : ℚ)| : ℚ)⌋ = (hi - lo) * 10000 / |lo| := by
    have hcast := Rat.floor_intCast_div_natCast ((hi - lo) * 10000) lo.natAbs
    have hnat : ((lo.natAbs : ℕ) : ℚ) = |(lo : ℚ)| := by
      rw [Nat.cast_natAbs]
      exact Int.cast_abs
    rw [hnat] at hcast
    push_cast at hcast
    rw [hcast]
  rw [hfloor]
  refine ⟨Int.ediv_nonneg hdiff hpos.le, ?_⟩
  rw [spreadBpsOf, if_neg hlo, habs, Int.tdiv_eq_ediv_of_nonneg hdiff]

theorem disagrees_iff_of_zero {lo hi : Int} (hlo : lo = 0) {toleranceBps : Js.Num} :
    (toleranceBps.lt (spreadBpsOf lo hi) = true ↔ Exceeds (exactSpread lo hi) toleranceBps) ↔
      ¬ CutOff lo hi toleranceBps := by
  have hspread : spreadBpsOf lo hi = .int (if hi = 0 then 0 else 2 ^ 53 - 1) := by
    rw [spreadBpsOf, if_pos hlo]
    split <;> rfl
  have hexact : exactSpread lo hi = if hi = 0 then some 0 else none := if_pos hlo
  have hcut : CutOff lo hi toleranceBps ↔ ∃ t, toleranceBps = .int t ∧ hi ≠ 0 ∧ 2 ^ 53 - 1 ≤ t := by
    constructor
    · rintro ⟨t, ht, ⟨-, hhi, hle⟩ | ⟨x, hne, -⟩⟩
      · exact ⟨t, ht, hhi, hle⟩
      · exact absurd hlo hne
    · rintro ⟨t, ht, hhi, hle⟩
      exact ⟨t, ht, Or.inl ⟨hlo, hhi, hle⟩⟩
  rw [hspread, hexact, hcut]
  by_cases hhi : hi = 0
  · rw [if_pos hhi, if_pos hhi]
    cases toleranceBps <;> simp [Exceeds, Num.lt, hhi]
  · rw [if_neg hhi, if_neg hhi]
    cases toleranceBps <;> simp [Exceeds, Num.lt, hhi]

/-- **The spread is compared as it is, unless it is cut off.** -/
theorem disagrees_iff {lo hi : Int} (hle : lo ≤ hi) {toleranceBps : Js.Num}
    (ht : ProperNum toleranceBps) :
    (toleranceBps.lt (spreadBpsOf lo hi) = true ↔ Exceeds (exactSpread lo hi) toleranceBps) ↔
      ¬ CutOff lo hi toleranceBps := by
  obtain hlo | hlo := eq_or_ne lo 0
  · exact disagrees_iff_of_zero hlo
  · obtain ⟨hfloor, hspread⟩ := floor_spread hlo hle
    have hexact : exactSpread lo hi = some ((hi - lo) * 10000 / |(lo : ℚ)|) := if_neg hlo
    rw [hspread, hexact]
    generalize ((hi - lo) * 10000 / |(lo : ℚ)| : ℚ) = x at hfloor hexact
    cases toleranceBps with
    | nan =>
      have hcut : ¬ CutOff lo hi .nan := fun ⟨t, ht, _⟩ => by cases ht
      obtain ⟨a, ha⟩ | hinf := ofBigInt_cases hfloor
      · rw [ha]
        simp [Num.lt, Exceeds, hcut]
      · rw [hinf]
        simp [Num.lt, Exceeds, hcut]
    | inf negative =>
      have hcut : ¬ CutOff lo hi (.inf negative) := fun ⟨t, ht, _⟩ => by cases ht
      obtain ⟨a, ha⟩ | hinf := ofBigInt_cases hfloor
      · rw [ha]
        simp [Num.lt, Exceeds, hcut]
      · rw [hinf]
        simp [Num.lt, Exceeds, hcut]
    | int t =>
      have hcut : CutOff lo hi (.int t) ↔
          (t : ℚ) < x ∧ (Num.ofBigInt ⌊x⌋).le (.int t) = true := by
        constructor
        · rintro ⟨u, hu, ⟨hzero, -⟩ | ⟨y, -, hy, hlt, hle⟩⟩
          · exact absurd hzero hlo
          · obtain rfl := Num.int.inj hu
            obtain rfl := Option.some.inj (hexact.symm.trans hy)
            exact ⟨hlt, hle⟩
        · rintro ⟨hlt, hle⟩
          exact ⟨t, rfl, Or.inr ⟨x, hlo, hexact, hlt, hle⟩⟩
      rw [hcut, lt_ofBigInt_iff hfloor]
      show (_ ↔ (t : ℚ) < x) ↔ _
      by_cases hlt : (t : ℚ) < x
      · simp [hlt]
      · -- a spread that is not above the tolerance is not above it when it is cut
        have hcutLe : ⌊x⌋ ≤ t := by
          have hfloorLe : (⌊x⌋ : ℚ) ≤ t := (Int.floor_le x).trans (not_lt.mp hlt)
          exact_mod_cast hfloorLe
        have hle := ofBigInt_le_int hfloor hcutLe
        rw [show Num.ofBigInt t = .int t from ht] at hle
        simp [hlt, hle]

theorem foldl_min_le_start (vs : List Int) (v : Int) : vs.foldl min v ≤ v := by
  induction vs generalizing v with
  | nil => exact le_rfl
  | cons u vs ih => exact (ih (min v u)).trans (min_le_left v u)

theorem start_le_foldl_max (vs : List Int) (v : Int) : v ≤ vs.foldl max v := by
  induction vs generalizing v with
  | nil => exact le_rfl
  | cons u vs ih => exact (le_max_left v u).trans (ih (max v u))

theorem lowest_le_highest (readings : List Reading) : lowest readings ≤ highest readings :=
  (foldl_min_le_start _ _).trans (start_le_foldl_max _ _)

/-! ## 5. The law -/

/-- What a comparison of readings promises. -/
structure Compared (metric : String) (readings : List Reading) (toleranceBps : Js.Num)
    (d : Disagreement) : Prop where
  highest : ∀ r ∈ readings, r.trustClass.rank ≤ d.authoritative.trustClass.rank
  inOrder : ∀ readings', readings'.Perm readings → ∀ d',
    compareReadings metric readings' toleranceBps = .ok d' →
      d'.authoritative.trustClass = d.authoritative.trustClass
  exact : d.disagrees = true ↔
    Exceeds (exactSpread (lowest readings) (Reality.highest readings)) toleranceBps

/-- **The reading that counts is of the highest trust in every order**, iff all that may count are
    of one class. -/
theorem authoritative_iff {metric : String} {toleranceBps : Js.Num} {d : Disagreement}
    (h : Numbers readings) (hfront : front byTrust readings = some d.authoritative) :
    ((∀ r ∈ readings, r.trustClass.rank ≤ d.authoritative.trustClass.rank) ∧
      ∀ readings', readings'.Perm readings → ∀ d',
        compareReadings metric readings' toleranceBps = .ok d' →
          d'.authoritative.trustClass = d.authoritative.trustClass) ↔ OneClass readings := by
  rw [oneClass_iff, ← front_fixed_iff (byTrust_orders readings) Reading.trustClass hfront]
  constructor
  · rintro ⟨-, hfixed⟩ bs hperm b hb
    obtain ⟨d', hd', -, hfront'⟩ := @compareReadings_ok metric bs toleranceBps (h.of_perm hperm)
    obtain rfl := Option.some.inj (hb.symm.trans hfront')
    exact hfixed bs hperm d' hd'
  · intro hfixed
    have hone := oneClass_iff.mpr
      ((front_fixed_iff (byTrust_orders readings) Reading.trustClass hfront).mp hfixed)
    refine ⟨hone.highest (front_least (byTrust_orders readings) hfront), fun bs hperm d' hd' => ?_⟩
    obtain ⟨d'', hd'', -, hfront'⟩ := @compareReadings_ok metric bs toleranceBps (h.of_perm hperm)
    obtain rfl := Except.ok.inj (hd'.symm.trans hd'')
    exact hfixed bs hperm _ hfront'

/-- **A comparison does what it promises**, iff all readings that may count are of one class and
    the tolerance does not lie between the spread and what it is cut to. -/
theorem disagreement_lawful_iff {metric : String} {toleranceBps : Js.Num} (h : Numbers readings)
    (ht : ProperNum toleranceBps) : ∃ d, compareReadings metric readings toleranceBps = .ok d ∧
      (Compared metric readings toleranceBps d ↔ OneClass readings ∧
        ¬ CutOff (lowest readings) (highest readings) toleranceBps) := by
  obtain ⟨d, hd, hdisagrees, hfront⟩ := @compareReadings_ok metric readings toleranceBps h
  have hauthority := @authoritative_iff _ metric toleranceBps d h hfront
  have hspread := disagrees_iff (lowest_le_highest readings) ht
  rw [← hdisagrees] at hspread
  refine ⟨d, hd, ?_⟩
  rw [← hauthority, ← hspread]
  constructor
  · rintro ⟨hhighest, hinOrder, hexact⟩
    exact ⟨⟨hhighest, hinOrder⟩, hexact⟩
  · rintro ⟨⟨hhighest, hinOrder⟩, hexact⟩
    exact ⟨hhighest, hinOrder, hexact⟩

/-- A verified oracle and an indexer, a hundredth of a percent apart. -/
def twoReadings : List Reading :=
  [⟨"feed", "2434420000", 6, .VERIFIED_ORACLE⟩, ⟨"graph", "243466344200", 8, .INDEXED_CHAIN_DATA⟩]

/-- A verified oracle before a confidential computation, half of one percent and a hundredth of a
    basis point apart. -/
def topReadings : List Reading :=
  [⟨"feed", "2000000", 2, .VERIFIED_ORACLE⟩,
   ⟨"enclave", "2010100", 2, .CONFIDENTIAL_VERIFIED_COMPUTE⟩]

theorem twoReadings_numbers : Numbers twoReadings := by
  refine ⟨by decide, fun r hr => ?_⟩
  rcases List.mem_cons.mp hr with rfl | hr
  · exact ⟨2434420000, by decide⟩
  · obtain rfl := List.mem_singleton.mp hr
    exact ⟨243466344200, by decide⟩

theorem twoReadings_ends :
    lowest twoReadings = 243442000000 ∧ highest twoReadings = 243466344200 := by decide

/-- The oracle counts, and a spread of one basis point does not exceed a tolerance of 50. -/
theorem disagreement_lawful_two : ∃ d,
    compareReadings "weth/usd:price" twoReadings (.int 50) = .ok d ∧
      Compared "weth/usd:price" twoReadings (.int 50) d := by
  obtain ⟨d, hd, hlaw⟩ := @disagreement_lawful_iff twoReadings "weth/usd:price" (.int 50)
    twoReadings_numbers (show Num.ofBigInt 50 = .int 50 by decide)
  refine ⟨d, hd, hlaw.mpr ⟨⟨by decide, by decide⟩, ?_⟩⟩
  obtain ⟨hlo, hhi⟩ := twoReadings_ends
  rw [hlo, hhi]
  rintro ⟨t, ht, ⟨hzero, -⟩ | ⟨x, -, hx, hlt, -⟩⟩
  · exact absurd hzero (by decide)
  · obtain rfl := Num.int.inj ht
    have hone : exactSpread 243442000000 243466344200 = some 1 := by
      rw [exactSpread, if_neg (by decide)]
      norm_num
    obtain rfl := Option.some.inj (hone.symm.trans hx)
    norm_num at hlt

/-- **An oracle is put before the confidential computation that outranks it**, and a spread of 50.5
    basis points does not exceed a tolerance of 50. -/
theorem outranked_reading_counts : ∃ d,
    compareReadings "weth/usd:price" topReadings (.int 50) = .ok d ∧
      (∃ r ∈ topReadings, d.authoritative.trustClass.rank < r.trustClass.rank) ∧
      d.disagrees = false ∧
      Exceeds (exactSpread (lowest topReadings) (highest topReadings)) (.int 50) := by
  have hends : lowest topReadings = 2000000 ∧ highest topReadings = 2010100 := by decide
  refine ⟨⟨"weth/usd:price", topReadings, .int 50, false,
    ⟨"feed", "2000000", 2, .VERIFIED_ORACLE⟩⟩, by decide, by decide, rfl, ?_⟩
  rw [hends.1, hends.2, exactSpread, if_neg (by decide)]
  show ((50 : Int) : ℚ) < _
  norm_num

end ContextLock.Reality
