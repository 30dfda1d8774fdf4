/-
  Subject:   What the Graph adapters read of a subgraph response, and what their templates name.

  A number of a response is known by its shortest decimal. Heights are integers, times whole
  milliseconds or seconds.
-/
import ContextLock.Adapters.Resolver
import ContextLock.Execution.Action
import ContextLock.Js.BigInt
import ContextLock.Js.Numeral
import Mathlib.Tactic.Linarith

namespace ContextLock.Execution.TheGraph

open Js Evm
open Adapters (DataTrustClass)

/-! ## 1. Responses -/

/-- A value of a response. -/
inductive Node where
  | null
  | bool (b : Bool)
  | number (n : Numeral)
  | text (s : String)
  | list (items : List Node)
  | record (fields : List (String × Node))

namespace Node

/-- `node[seg]`, of a segment that names no property of a text; `none` is `undefined`. -/
def get (seg : String) : Node → Option Node
  | list items => if isDecimal seg then items[decimalValue seg]? else none
  | record fields => (fields.find? (·.1 = seg)).map Prod.snd
  | _ => none

/-- `String(node)`. -/
def string : Node → String
  | null => "null"
  | bool b => boolText b
  | number n => String.ofList n.text
  | text s => s
  | list items => ",".intercalate (strings items)
  | record _ => "[object Object]"
where
  strings : List Node → List String
    | [] => []
    | null :: items => "" :: strings items
    | item :: items => item.string :: strings items

end Node

structure Meta where
  deployment : String
  number : Int
  timestamp : Option Int
  hasIndexingErrors : Bool

structure SubgraphData where
  meta? : Option Meta
  fields : List (String × Node)

structure SubgraphResponse where
  data : Option SubgraphData
  errors : List String
  chainHead : Option Int

structure SubgraphQuery where
  templateId : String
  variables' : List (String × Node)

/-! ## 2. Templates -/

structure QueryTemplate where
  id : String
  dataKind : String
  unit : String
  decimals : Nat
  valuePath : List String

def QUERY_TEMPLATES : List (String × QueryTemplate) :=
  [⟨"account-token-balance", "indexed_token_balance", "base-units", 0,
      ["accountBalances", "0", "amount"]⟩,
   ⟨"historical-swap-volume", "historical_swap_volume", "USD", 6, ["swaps"]⟩,
   ⟨"pool-liquidity", "indexed_pool_liquidity", "base-units", 0, ["pool", "liquidity"]⟩,
   ⟨"pool-liquidity-at-block", "indexed_pool_liquidity", "base-units", 0, ["pool", "liquidity"]⟩,
   ⟨"historical-portfolio-activity", "historical_portfolio_activity", "count", 0,
      ["transfers"]⟩].map fun t : QueryTemplate => (t.id, t)

/-- What an object inherits is taken for a template, and has no path. -/
def templateById (id : String) : Except Thrown QueryTemplate :=
  match lookup QUERY_TEMPLATES id with
  | .own t => .ok t
  | .inherited => .error (.other "path is not iterable")
  | .absent => .error (.adapter "GRAPH-TEMPLATE-UNKNOWN"
      s!"no registered query template \"{id}\"; arbitrary GraphQL is not accepted")

/-! ## 3. The adapter -/

structure GraphAdapter where
  id : String
  version : String
  maxIndexedBlockLag : Int

structure DataReadContext where
  chainId : Js.Num
  nowMs : Int

structure Provenance where
  adapterId : String
  adapterVersion : String
  trustClass : DataTrustClass
  sourceTimestamp : Option Int
  freshnessMs : Option Int
  chainId : Js.Num
  indexedBlock : Option String
  chainHeadBlock : Option String
  blockLag : Option Int
  subgraphId : Option String

structure DataObservation where
  observationId : String
  dataKind : String
  subject : Option String
  value : String
  unit : String
  decimals : Nat
  observedAt : Int
  provenance : Provenance

def provenance (a : GraphAdapter) (raw : SubgraphResponse) (ctx : DataReadContext) :
    Except Thrown Provenance :=
  let m := raw.data.bind SubgraphData.meta?
  let indexed := m.map Meta.number
  let ms := (m.bind Meta.timestamp).map (· * 1000)
  if ∃ t ∈ ms, 8640000000000000 < t.natAbs then .error (.other "Invalid time value")
  else .ok {
    adapterId := a.id
    adapterVersion := a.version
    trustClass := .INDEXED_CHAIN_DATA
    sourceTimestamp := ms
    freshnessMs := ms.map fun t => max 0 (ctx.nowMs - t)
    chainId := ctx.chainId
    indexedBlock := indexed.map toString
    chainHeadBlock := raw.chainHead.map toString
    blockLag := indexed.bind fun n => raw.chainHead.map fun head => max 0 (head - n)
    subgraphId := (m.map Meta.deployment).filter (· ≠ "") }

/-- `row.amountUSD ?? row.value`. -/
def rowAmount : Node → Except Thrown (Option Node)
  | .null => .error (.other "Cannot read properties of null")
  | row => .ok (match row.get "amountUSD" with
    | none | some .null => row.get "value"
    | some amount => some amount)

/-- `BigInt(String(a ?? "0").split(".")[0])`. -/
def wholePart (a : Option Node) : Except Thrown Int :=
  let text := match a with
    | none | some .null => "0"
    | some v => v.string
  let whole := String.ofList (text.toList.takeWhile (· ≠ '.'))
  match bigInt whole with
  | some n => .ok n
  | none => .error (.other s!"Cannot convert {whole} to a BigInt")

def reduceRows (rows : List Node) : Except Thrown String := do
  let amounts ← rows.mapM rowAmount
  if amounts.all Option.isNone then return toString rows.length
  else
    let wholes ← amounts.mapM wholePart
    return toString wholes.sum

/-- What stands at a path; a step that is missing is found at the end as it is on the way. -/
def valueAt (data : SubgraphData) (path : List String) : Option Node :=
  path.foldlM (fun cur seg => cur.get seg) (Node.record data.fields)

def extract (data : SubgraphData) (path : List String) : Except Thrown String :=
  match valueAt data path with
  | some (.list rows) => reduceRows rows
  | some (.text s) => .ok s
  | some (.number n) => .ok (String.ofList n.text)
  | none | some .null => .error (.adapter "GRAPH-SHAPE-MISMATCH"
      ("response has no value at " ++ ".".intercalate path))
  | _ => .error (.adapter "GRAPH-SHAPE-MISMATCH"
      ("value at " ++ ".".intercalate path ++ " is not a scalar"))

def normalize (a : GraphAdapter) (raw : SubgraphResponse) (query : SubgraphQuery)
    (ctx : DataReadContext) : Except Thrown DataObservation :=
  if raw.errors ≠ [] then .error (.adapter "GRAPH-QUERY-ERROR" ("; ".intercalate raw.errors))
  else match raw.data with
  | none => .error (.adapter "GRAPH-NO-DATA" "response contains no data block")
  | some data =>
    match data.meta? with
    | none => .error (.adapter "GRAPH-NO-META"
        "response omits _meta; indexed freshness cannot be established")
    | some m =>
      if m.timestamp = none then .error (.adapter "GRAPH-NO-META"
        "the indexed block carries no timestamp; indexed freshness cannot be established")
      else if m.hasIndexingErrors then .error (.adapter "GRAPH-INDEXING-ERRORS"
        "the subgraph reports past indexing errors")
      else do
        let t ← templateById query.templateId
        let value ← extract data t.valuePath
        let provenance ← provenance a raw ctx
        return {
          observationId := s!"graph-{t.id}-{m.number}"
          dataKind := t.dataKind
          subject := ((Node.record query.variables').get "account").bind fun
            | .text s => some s
            | _ => none
          value := value
          unit := t.unit
          decimals := t.decimals
          observedAt := ctx.nowMs
          provenance := provenance }

def validate (a : GraphAdapter) (o : DataObservation) : List ValidationProblem :=
  flag (o.provenance.trustClass ≠ .INDEXED_CHAIN_DATA)
    ⟨"GRAPH-TRUST-CLAIM", .CRITICAL, "trustClass",
      "Graph data must be INDEXED_CHAIN_DATA, got " ++ o.provenance.trustClass.text⟩ ++
  flag (∃ lag ∈ o.provenance.blockLag, a.maxIndexedBlockLag < lag)
    ⟨"GRAPH-INDEX-LAG", .HIGH, "blockLag",
      s!"indexer is {o.provenance.blockLag.getD 0} blocks behind the head, limit is " ++
        toString a.maxIndexedBlockLag⟩ ++
  flag (isDecimal o.value = false)
    ⟨"GRAPH-VALUE-SHAPE", .CRITICAL, "value", "value must be integer base units"⟩

/-! ## 4. What a template names -/

/-- The number a text spells: a sign, digits, and digits after a point. -/
def spelledBy (s : String) : Option Rat :=
  let negative := s.toList.head? = some '-'
  let cs := if negative then s.toList.tail else s.toList
  let whole := String.ofList (cs.takeWhile (· ≠ '.'))
  let fraction := String.ofList (cs.dropWhile (· ≠ '.')).tail
  let sign : Rat := if negative then -1 else 1
  if isDecimal whole = false then none
  else if '.' ∉ cs then some (sign * decimalValue whole)
  else if isDecimal fraction = false then none
  else some (sign * (decimalValue whole + decimalValue fraction / 10 ^ fraction.length))

/-- The number a value is. -/
def quantity : Node → Option Rat
  | .number (.int n) => some n
  | .number (.decimal d) => some ((if d.negative then -1 else 1) * d.mantissa * 10 ^ d.exponent)
  | .text s => spelledBy s
  | _ => none

def amountOf (row : Node) : Option Rat := (rowAmount row).toOption.join.bind quantity

/-- No row states an amount, or every row does. -/
def Complete (rows : List Node) : Prop :=
  (∀ r ∈ rows, rowAmount r = .ok none) ∨ ∀ r ∈ rows, ∃ v, rowAmount r = .ok (some v) ∧ v ≠ .null

/-- The value, read in the decimals of the template, is the number of rows where it counts, the
    exact sum of their amounts where it does not, or the scalar; no row is taken for a zero. -/
def Measures (t : QueryTemplate) (value : Nat) : Node → Prop
  | .list rows => Complete rows ∧
    if t.unit = "count" then value = rows.length * 10 ^ t.decimals
    else ∃ amounts, rows.mapM amountOf = some amounts ∧ (value : Rat) = amounts.sum * 10 ^ t.decimals
  | v => ∃ q, quantity v = some q ∧ (value : Rat) = q * 10 ^ t.decimals

def wholes (rows : List Node) : Int :=
  ((rows.mapM rowAmount >>= fun amounts => amounts.mapM wholePart).toOption.getD []).sum

/-- The cut fractions and the missing scale amount to nothing; of rows that are counted, none has
    an amount, or the whole parts happen to be as many. -/
def Uncut (t : QueryTemplate) : Node → Prop
  | .list rows => Complete rows ∧
    if t.unit = "count" then (∀ r ∈ rows, rowAmount r = .ok none) ∨ wholes rows = rows.length
    else ∃ amounts, rows.mapM amountOf = some amounts ∧
      (10 ^ t.decimals - 1) * (wholes rows : Rat) + 10 ^ t.decimals * (amounts.sum - wholes rows) = 0
  | v => t.decimals = 0 ∨ quantity v = some 0

/-- What stands at the path of the template of the query. -/
def Named (raw : SubgraphResponse) (query : SubgraphQuery) (t : QueryTemplate) (v : Node) : Prop :=
  templateById query.templateId = .ok t ∧ ∃ data ∈ raw.data, valueAt data t.valuePath = some v

/-- **The observation is the quantity its template names**, in the unit of the template, and how
    far the index is behind the head is known and within the bound. -/
def Exact (a : GraphAdapter) (raw : SubgraphResponse) (query : SubgraphQuery)
    (o : DataObservation) : Prop :=
  (∃ t v, Named raw query t v ∧ Measures t (decimalValue o.value) v ∧ o.unit = t.unit ∧
    o.decimals = t.decimals) ∧ ∃ lag ∈ o.provenance.blockLag, lag ≤ a.maxIndexedBlockLag

/-! ## 5. What an accepted observation is -/

section

variable {a : GraphAdapter} {raw : SubgraphResponse} {query : SubgraphQuery}
  {ctx : DataReadContext} {o : DataObservation} {t : QueryTemplate} {rows : List Node} {s : String}

theorem normalize_eq_ok (h : normalize a raw query ctx = .ok o) : ∃ data m t,
    raw.data = some data ∧ data.meta? = some m ∧ templateById query.templateId = .ok t ∧
      extract data t.valuePath = .ok o.value ∧ o.unit = t.unit ∧ o.decimals = t.decimals ∧
      o.provenance.blockLag = raw.chainHead.map fun head => max 0 (head - m.number) := by
  unfold normalize at h
  rw [ite_error_eq_ok] at h
  obtain ⟨_, h⟩ := h
  split at h
  · cases h
  rename_i data hdata
  split at h
  · cases h
  rename_i m hm
  simp only [ite_error_eq_ok, bind_eq_ok] at h
  obtain ⟨_, _, t, ht, value, hvalue, p, hp, ho⟩ := h
  obtain rfl := Except.ok.inj ho
  simp only [provenance, ite_error_eq_ok, hdata, hm, Option.bind_some, Option.map_some] at hp
  obtain rfl := Except.ok.inj hp.2
  exact ⟨data, m, t, hdata, hm, ht, hvalue, rfl, rfl, rfl⟩

theorem count_decimals {id : String} (h : templateById id = .ok t) (hcount : t.unit = "count") :
    t.decimals = 0 := by
  have hall : ∀ p ∈ QUERY_TEMPLATES, p.2.unit = "count" → p.2.decimals = 0 := by decide
  unfold templateById lookup at h
  cases hlookup : QUERY_TEMPLATES.lookup id with
  | some t' =>
    rw [hlookup] at h
    obtain rfl := Except.ok.inj h
    obtain ⟨l, r, hsplit, _⟩ := List.lookup_eq_some_iff.mp hlookup
    exact hall (id, t') (by simp [hsplit]) hcount
  | none =>
    rw [hlookup] at h
    dsimp only at h
    split at h <;> rename_i hsome <;> split at hsome <;> cases hsome <;> cases h

theorem counted_iff {amounts : List (Option Node)} (h : rows.mapM rowAmount = .ok amounts) :
    amounts.all Option.isNone = true ↔ ∀ r ∈ rows, rowAmount r = .ok none := by
  induction rows generalizing amounts with
  | nil =>
    obtain rfl := Except.ok.inj h
    simp
  | cons r rows ih =>
    simp only [List.mapM_cons, bind_eq_ok] at h
    obtain ⟨y, hy, ys, hys, hcons⟩ := h
    obtain rfl := Except.ok.inj hcons
    simp [hy, ih hys]

theorem rows_nil {amounts : List Rat} (h : ∀ r ∈ rows, rowAmount r = .ok none)
    (hm : rows.mapM amountOf = some amounts) : rows = [] ∧ amounts = [] := by
  cases rows with
  | nil => exact ⟨rfl, (Option.some.inj hm).symm⟩
  | cons r rows =>
    have hnone : amountOf r = none := by
      rw [amountOf, h r List.mem_cons_self]
      rfl
    rw [List.mapM_cons, hnone] at hm
    cases hm

theorem decimalValue_toString_int {n : Int} (h : isDecimal (toString n) = true) :
    (decimalValue (toString n) : Int) = n := by
  cases n with
  | ofNat n => exact congrArg Int.ofNat (decimalValue_toString n)
  | negSucc n =>
    simp only [isDecimal, Bool.and_eq_true, List.all_eq_true, toList_toString_int, intText,
      if_pos (Int.negSucc_lt_zero n)] at h
    exact absurd (h.2 '-' List.mem_cons_self) (by decide)

/-- **Rows**: they are measured iff nothing is cut. -/
theorem rows_measured_iff (hr : reduceRows rows = .ok s) (hs : isDecimal s = true)
    (ht : t.unit = "count" → t.decimals = 0) :
    Measures t (decimalValue s) (.list rows) ↔ Uncut t (.list rows) := by
  simp only [reduceRows, bind_eq_ok] at hr
  obtain ⟨amounts, hamounts, hr⟩ := hr
  have hcounted := counted_iff hamounts
  refine and_congr_right fun _ => ?_
  split at hr
  · rename_i hall
    have hnone := hcounted.mp hall
    obtain rfl := Except.ok.inj hr
    rw [decimalValue_toString]
    split
    · rename_i hcount
      exact iff_of_true (by rw [ht hcount]; omega) (.inl hnone)
    · refine exists_congr fun as => and_congr_right fun hm => ?_
      obtain ⟨rfl, rfl⟩ := rows_nil hnone hm
      simp [show wholes [] = 0 from rfl]
  · rename_i hall
    obtain ⟨ws, hws, hr⟩ := bind_eq_ok.mp hr
    obtain rfl := Except.ok.inj hr
    have hwholes : wholes rows = ws.sum := by
      rw [wholes, hamounts, show (Except.ok amounts >>= fun as => as.mapM wholePart) =
        amounts.mapM wholePart from rfl, hws]
      rfl
    have hvalue := decimalValue_toString_int hs
    rw [← hwholes] at hvalue ⊢
    split
    · rename_i hcount
      rw [ht hcount, or_iff_right (fun hnone => hall (hcounted.mpr hnone))]
      omega
    · refine exists_congr fun as => and_congr_right fun _ => ?_
      have hcast : (decimalValue (toString (wholes rows)) : Rat) = (wholes rows : Rat) := by
        exact_mod_cast hvalue
      rw [hcast]
      constructor <;> intro h <;> linarith

theorem spelledBy_of_decimal (hs : isDecimal s = true) : spelledBy s = some (decimalValue s : Rat) := by
  have hdigits : ∀ c ∈ s.toList, c.isDigit = true := by
    simp only [isDecimal, Bool.and_eq_true, List.all_eq_true] at hs
    exact hs.2
  have hsign : ¬ s.toList.head? = some '-' := fun h =>
    absurd (hdigits _ (List.mem_of_head? h)) (by decide)
  have hpoint : '.' ∉ s.toList := fun h => absurd (hdigits _ h) (by decide)
  have hwhole : s.toList.takeWhile (fun c => !decide (c = '.')) = s.toList := by
    refine List.takeWhile_eq_self_iff.mpr fun c hc => ?_
    rw [Bool.not_eq_true', decide_eq_false_iff_not]
    exact fun h => hpoint (h ▸ hc)
  simp [spelledBy, hsign, hpoint, hwhole, hs]

theorem quantity_of_number {n : Numeral} (hs : isDecimal (String.ofList n.text) = true) :
    quantity (.number n) = some (decimalValue (String.ofList n.text) : Rat) := by
  have hdigits : ∀ c ∈ n.text, c.isDigit = true := by
    simp only [isDecimal, Bool.and_eq_true, List.all_eq_true, String.toList_ofList] at hs
    exact hs.2
  cases n with
  | int n =>
    have htext : String.ofList (Numeral.int n).text = toString n := by
      rw [Numeral.text, ← toList_toString_int, String.ofList_toList]
    rw [htext] at hs ⊢
    have hvalue := decimalValue_toString_int hs
    exact congrArg some (by exact_mod_cast hvalue.symm)
  | decimal d =>
    have hmem : '.' ∈ d.text ∨ 'e' ∈ d.text := by
      unfold Decimal.text Decimal.unsigned Decimal.fixedText
      split <;> split <;> simp
    rcases hmem with hmem | hmem
    · exact absurd (hdigits _ hmem) (by decide)
    · exact absurd (hdigits _ hmem) (by decide)

theorem scalar_measured_iff {q : Option Rat} {n d : Nat} (hq : q = some (n : Rat)) :
    (∃ r, q = some r ∧ (n : Rat) = r * 10 ^ d) ↔ d = 0 ∨ q = some 0 := by
  subst hq
  simp only [Option.some.injEq, exists_eq_left', Nat.cast_eq_zero]
  constructor
  · intro h
    have hnat : n * 1 = n * 10 ^ d := by
      rw [mul_one]
      exact_mod_cast h
    obtain rfl | hpos := Nat.eq_zero_or_pos n
    · exact .inr rfl
    · have hone := Nat.eq_of_mul_eq_mul_left hpos hnat
      exact .inl ((Nat.pow_eq_one.mp hone.symm).resolve_left (by decide))
  · intro h
    obtain rfl | rfl := h <;> simp

/-- **When an accepted observation is exact**: when the head is known and nothing is cut. -/
theorem normalize_exact_iff (hn : normalize a raw query ctx = .ok o) (hv : validate a o = []) :
    Exact a raw query o ↔
      raw.chainHead ≠ none ∧ ∃ t v, Named raw query t v ∧ Uncut t v := by
  obtain ⟨data, m, t, hdata, hm, ht, hvalue, hunit, hdecimals, hlag⟩ := normalize_eq_ok hn
  simp only [validate, List.append_eq_nil_iff, flag_eq_nil, Bool.not_eq_false] at hv
  obtain ⟨⟨_, hbound⟩, hdigits⟩ := hv
  have hmeasured : ∃ v, valueAt data t.valuePath = some v ∧
      (Measures t (decimalValue o.value) v ↔ Uncut t v) := by
    unfold extract at hvalue
    split at hvalue
    · rename_i rows hrows
      exact ⟨_, hrows, rows_measured_iff hvalue hdigits (count_decimals ht)⟩
    · rename_i s hs
      obtain rfl := Except.ok.inj hvalue
      exact ⟨_, hs, scalar_measured_iff (spelledBy_of_decimal hdigits)⟩
    · rename_i n hnumber
      have htext := Except.ok.inj hvalue
      rw [← htext] at hdigits ⊢
      exact ⟨_, hnumber, scalar_measured_iff (quantity_of_number hdigits)⟩
    all_goals cases hvalue
  obtain ⟨v, hat, hmeasured⟩ := hmeasured
  have hnamed : ∀ t' v', Named raw query t' v' ↔ t' = t ∧ v' = v := by
    intro t' v'
    simp only [Named, ht, Except.ok.injEq, hdata, Option.mem_def, Option.some.injEq,
      exists_eq_left']
    constructor
    · rintro ⟨rfl, h⟩
      exact ⟨rfl, Option.some.inj (h.symm.trans hat)⟩
    · rintro ⟨rfl, rfl⟩
      exact ⟨rfl, hat⟩
  have hfresh : (∃ lag ∈ o.provenance.blockLag, lag ≤ a.maxIndexedBlockLag) ↔
      raw.chainHead ≠ none := by
    cases hhead : raw.chainHead with
    | none => simp [hlag, hhead]
    | some head =>
      rw [hlag, hhead] at hbound ⊢
      simp only [Option.map_some, Option.mem_def, Option.some.injEq, exists_eq_left', not_lt] at *
      simp [hbound]
  rw [Exact, hfresh, and_comm]
  simp only [hnamed, hunit, hdecimals]
  constructor
  · rintro ⟨hhead, t', v', ⟨rfl, rfl⟩, h, _⟩
    exact ⟨hhead, _, _, ⟨rfl, rfl⟩, hmeasured.mp h⟩
  · rintro ⟨hhead, t', v', ⟨rfl, rfl⟩, h⟩
    exact ⟨hhead, _, _, ⟨rfl, rfl⟩, hmeasured.mpr h, rfl, rfl⟩

end

/-! ## 6. Five million transfers -/

def sampleAdapter : GraphAdapter := ⟨"thegraph-subgraph", "1.0.0", 25⟩

def sampleContext : DataReadContext := ⟨.int 11155111, 1789000010000⟩

/-- One entity, two blocks behind the head. -/
def sampleResponse (key : String) (v : Node) : SubgraphResponse :=
  ⟨some ⟨some ⟨"QmSample", 9000000, some 1789000000, false⟩, [(key, v)]⟩, [], some 9000002⟩

def liquidityResponse : SubgraphResponse :=
  sampleResponse "pool" (.record [("liquidity", .text "9000000000000")])

def transferRows : List Node := [.record [("id", .text "0x1"), ("value", .text "5000000")]]

theorem normalize_exact_liquidity : ∃ o,
    normalize sampleAdapter liquidityResponse ⟨"pool-liquidity", []⟩ sampleContext = .ok o ∧
      validate sampleAdapter o = [] ∧
      (Exact sampleAdapter liquidityResponse ⟨"pool-liquidity", []⟩ o ↔
        liquidityResponse.chainHead ≠ none ∧ ∃ t v,
          Named liquidityResponse ⟨"pool-liquidity", []⟩ t v ∧ Uncut t v) :=
  ⟨_, rfl, rfl, normalize_exact_iff rfl rfl⟩

/-- **One transfer is read as five million**, and accepted. -/
theorem transfers_counterexample : ∃ o,
    normalize sampleAdapter (sampleResponse "transfers" (.list transferRows))
        ⟨"historical-portfolio-activity", []⟩ sampleContext = .ok o ∧
      validate sampleAdapter o = [] ∧ o.value = "5000000" ∧ o.unit = "count" ∧
      ¬ Exact sampleAdapter (sampleResponse "transfers" (.list transferRows))
        ⟨"historical-portfolio-activity", []⟩ o := by
  refine ⟨_, rfl, rfl, rfl, rfl, fun h => ?_⟩
  obtain ⟨⟨t, v, ⟨ht, data, hdata, hat⟩, hmeasures, _⟩, _⟩ := h
  obtain rfl := Except.ok.inj ht
  obtain rfl := Option.some.inj hdata
  obtain rfl := Option.some.inj hat
  exact absurd hmeasures.2 (by decide)

end ContextLock.Execution.TheGraph
