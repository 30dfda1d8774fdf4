/-
  Subject:   The market snapshot: what it is hashed over, and when it may be acted on.
-/
import ContextLock.Adapters.Resolver
import ContextLock.Js.Stringify

namespace ContextLock.Reality

open Js Adapters

/-! ## 1. Sources and observations -/

inductive RealityMode where
  | LIVE_MIRROR
  | HISTORICAL_REPLAY
  | LOCAL_FORK

def RealityMode.text : RealityMode → String
  | LIVE_MIRROR => "LIVE_MIRROR"
  | HISTORICAL_REPLAY => "HISTORICAL_REPLAY"
  | LOCAL_FORK => "LOCAL_FORK"

/-- Whether a source can answer a question about a past block. -/
inductive SourceTimeSupport where
  | BLOCK_SCOPED
  | TIME_SCOPED
  | NON_HISTORICAL_SOURCE

def SourceTimeSupport.text : SourceTimeSupport → String
  | BLOCK_SCOPED => "BLOCK_SCOPED"
  | TIME_SCOPED => "TIME_SCOPED"
  | NON_HISTORICAL_SOURCE => "NON_HISTORICAL_SOURCE"

inductive SourceKind where
  | CHAINLINK_DATA_FEED
  | CHAINLINK_DATA_STREAM
  | THE_GRAPH
  | READ_ONLY_RPC
  | LOCAL_FORK_RPC
  | EXTERNAL_API

def SourceKind.text : SourceKind → String
  | CHAINLINK_DATA_FEED => "CHAINLINK_DATA_FEED"
  | CHAINLINK_DATA_STREAM => "CHAINLINK_DATA_STREAM"
  | THE_GRAPH => "THE_GRAPH"
  | READ_ONLY_RPC => "READ_ONLY_RPC"
  | LOCAL_FORK_RPC => "LOCAL_FORK_RPC"
  | EXTERNAL_API => "EXTERNAL_API"

inductive ObservedType where
  | PRICE
  | RATE
  | AMOUNT
  | RATIO
  | BPS
  | TIMESTAMP
  | COUNT
  | HEALTH_FACTOR

def ObservedType.text : ObservedType → String
  | PRICE => "PRICE"
  | RATE => "RATE"
  | AMOUNT => "AMOUNT"
  | RATIO => "RATIO"
  | BPS => "BPS"
  | TIMESTAMP => "TIMESTAMP"
  | COUNT => "COUNT"
  | HEALTH_FACTOR => "HEALTH_FACTOR"

structure SnapshotSource where
  sourceId : String
  kind : SourceKind
  adapterId : String
  adapterVersion : String
  trustClass : DataTrustClass
  sourceChainId : Int
  timeSupport : SourceTimeSupport
  observedBlock : Option String
  lagBlocks : Option Int
  healthy : Bool

/-- One measured fact. -/
structure MarketObservation where
  observationId : String
  metric : String
  value : String
  decimals : Int
  unit : String
  dataType : ObservedType
  canonicalAssetId : Option String
  sourceId : String
  sourceChainId : Int
  blockNumber : Option String
  sourceTimestampMs : Option Int
  retrievedAtMs : Int
  trustClass : DataTrustClass
  adapterId : String
  adapterVersion : String
  derivedFrom : Option String
  provenance : String

structure SnapshotCoherence where
  maxTimeSkewMs : Int
  maxBlockSkew : Option Int
  staleSources : List String
  coherent : Bool
  reason : Option String

/-- A snapshot without its hash. -/
structure SnapshotBody where
  snapshotId : String
  mode : RealityMode
  observedAtMs : Int
  anchorChainId : Int
  anchorBlock : String
  anchorBlockHash : String
  anchorBlockTimestampMs : Int
  sources : List SnapshotSource
  observations : List MarketObservation
  canonicalAssetIds : List String
  coherence : SnapshotCoherence
  supersedes : Option String

structure MarketSnapshot extends SnapshotBody where
  snapshotHash : String

def SNAPSHOT_SCHEMA_VERSION : String := "contextlock.market-snapshot/v1"

/-! ## 2. The hash -/

def nullableStr (s : Option String) : Json := s.elim .null .str

def nullableNum (n : Option Int) : Json := n.elim .null fun n => .num (.int n)

def HASHED_SOURCE_FIELDS : List (String × (SnapshotSource → Json)) :=
  [("sourceId", fun s => .str s.sourceId),
   ("kind", fun s => .str s.kind.text),
   ("adapterId", fun s => .str s.adapterId),
   ("adapterVersion", fun s => .str s.adapterVersion),
   ("trustClass", fun s => .str s.trustClass.text),
   ("sourceChainId", fun s => .num (.int s.sourceChainId)),
   ("timeSupport", fun s => .str s.timeSupport.text),
   ("observedBlock", fun s => nullableStr s.observedBlock),
   ("lagBlocks", fun s => nullableNum s.lagBlocks),
   ("healthy", fun s => .bool s.healthy)]

def HASHED_OBSERVATION_FIELDS : List (String × (MarketObservation → Json)) :=
  [("observationId", fun o => .str o.observationId),
   ("metric", fun o => .str o.metric),
   ("value", fun o => .str o.value),
   ("decimals", fun o => .num (.int o.decimals)),
   ("unit", fun o => .str o.unit),
   ("dataType", fun o => .str o.dataType.text),
   ("canonicalAssetId", fun o => nullableStr o.canonicalAssetId),
   ("sourceId", fun o => .str o.sourceId),
   ("sourceChainId", fun o => .num (.int o.sourceChainId)),
   ("blockNumber", fun o => nullableStr o.blockNumber),
   ("sourceTimestampMs", fun o => nullableNum o.sourceTimestampMs),
   ("retrievedAtMs", fun o => .num (.int o.retrievedAtMs)),
   ("trustClass", fun o => .str o.trustClass.text),
   ("adapterId", fun o => .str o.adapterId),
   ("adapterVersion", fun o => .str o.adapterVersion),
   ("derivedFrom", fun o => nullableStr o.derivedFrom),
   ("provenance", fun o => .str o.provenance)]

/-- `field=value` of every hashed field. -/
def hashedText {α : Type} (fields : List (String × (α → Json))) (a : α) : String :=
  "|".intercalate (fields.map fun f => f.1 ++ "=" ++ stringify (f.2 a))

section Hash

variable (localeCompare : String → String → Int)

/-- Sorted by an identifier, as `localeCompare` orders texts. -/
def sortedById {α : Type} (id : α → String) (as : List α) : List α :=
  sortBy (fun a b => decide (localeCompare a b ≤ 0)) id as

/-- `[...texts].sort().join(",")`. -/
def sortedTexts (texts : List String) : String :=
  ",".intercalate (sortBy textLe id texts)

def canonicalSnapshotBody (body : SnapshotBody) : String :=
  let sources := (sortedById localeCompare SnapshotSource.sourceId body.sources).map
    (hashedText HASHED_SOURCE_FIELDS)
  let observations := (sortedById localeCompare MarketObservation.observationId body.observations).map
    (hashedText HASHED_OBSERVATION_FIELDS)
  "&".intercalate
    ["schemaVersion=" ++ SNAPSHOT_SCHEMA_VERSION,
     "snapshotId=" ++ body.snapshotId,
     "mode=" ++ body.mode.text,
     "observedAtMs=" ++ (Num.int body.observedAtMs).text,
     "anchorChainId=" ++ (Num.int body.anchorChainId).text,
     "anchorBlock=" ++ body.anchorBlock,
     "anchorBlockHash=" ++ body.anchorBlockHash,
     "anchorBlockTimestampMs=" ++ (Num.int body.anchorBlockTimestampMs).text,
     "supersedes=" ++ stringify (nullableStr body.supersedes),
     "canonicalAssetIds=" ++ sortedTexts body.canonicalAssetIds,
     "coherenceMaxTimeSkewMs=" ++ (Num.int body.coherence.maxTimeSkewMs).text,
     "coherenceMaxBlockSkew=" ++ stringify (nullableNum body.coherence.maxBlockSkew),
     "coherenceStaleSources=" ++ sortedTexts body.coherence.staleSources,
     "coherenceCoherent=" ++ boolText body.coherence.coherent,
     "sources=[" ++ ";".intercalate sources ++ "]",
     "observations=[" ++ ";".intercalate observations ++ "]"]

def computeSnapshotHash (body : SnapshotBody) : String :=
  "sha256:" ++ sha256Hex (canonicalSnapshotBody localeCompare body)

/-- The reasons a snapshot is refused for. -/
inductive SnapshotReason where
  | NO_VALID_CONTEXT
  | HASH_MISMATCH

def SnapshotReason.text : SnapshotReason → String
  | NO_VALID_CONTEXT => "NO_VALID_CONTEXT"
  | HASH_MISMATCH => "MARKET_SNAPSHOT_HASH_MISMATCH"

structure SnapshotError where
  reason : SnapshotReason
  detail : String

def SnapshotError.message (e : SnapshotError) : String := e.reason.text ++ ": " ++ e.detail

/-- Recompute and compare. -/
def verifySnapshotHash (snapshot : MarketSnapshot) : Except SnapshotError Unit :=
  let recomputed := computeSnapshotHash localeCompare snapshot.toSnapshotBody
  if recomputed ≠ snapshot.snapshotHash then
    .error ⟨.HASH_MISMATCH, snapshot.snapshotId ++ " carries " ++ snapshot.snapshotHash
      ++ " and its contents hash to " ++ recomputed ++ ". Something changed after it was sealed."⟩
  else .ok ()

/-- The snapshot carries the hash of its contents. -/
def Sealed (snapshot : MarketSnapshot) : Prop :=
  snapshot.snapshotHash = computeSnapshotHash localeCompare snapshot.toSnapshotBody

end Hash

/-! ## 3. Freshness -/

inductive SnapshotState where
  | FRESH
  | STALE
  | INCOHERENT
  | INCOMPLETE
  deriving DecidableEq

def SnapshotState.text : SnapshotState → String
  | FRESH => "FRESH"
  | STALE => "STALE"
  | INCOHERENT => "INCOHERENT"
  | INCOMPLETE => "INCOMPLETE"

/-- `Math.round(ms / 1000)`. -/
def roundSeconds (ms : Int) : Int := (ms + 500) / 1000

/-- The state and the reason, or `null` for a reason. -/
def snapshotState (snapshot : SnapshotBody) (nowMs maxAgeMs : Int) : SnapshotState × Option String :=
  let ageMs := nowMs - snapshot.observedAtMs
  if maxAgeMs < ageMs then
    (.STALE, some ("the snapshot is " ++ toString (roundSeconds ageMs)
      ++ "s old and this strategy requires context no older than "
      ++ toString (roundSeconds maxAgeMs) ++ "s"))
  else if snapshot.observations.isEmpty then (.INCOMPLETE, some "no observations")
  else if !snapshot.coherence.coherent then (.INCOHERENT, snapshot.coherence.reason)
  else (.FRESH, none)

/-- Refuse to act on a snapshot that is not fresh. -/
def assertSnapshotUsable (snapshot : SnapshotBody) (nowMs maxAgeMs : Int) (context : String) :
    Except SnapshotError Unit :=
  let s := snapshotState snapshot nowMs maxAgeMs
  if s.1 ≠ .FRESH then
    .error ⟨.NO_VALID_CONTEXT, context ++ ": snapshot " ++ snapshot.snapshotId ++ " is "
      ++ s.1.text ++ " — " ++ s.2.getD "null"
      ++ ". Refresh it or stop; continuing would authorize an action against a world that has "
      ++ "moved."⟩
  else .ok ()

/-- The snapshot is not too old, observes something, and is coherent. -/
structure Usable (snapshot : SnapshotBody) (nowMs maxAgeMs : Int) : Prop where
  age : nowMs - snapshot.observedAtMs ≤ maxAgeMs
  observations : snapshot.observations ≠ []
  coherent : snapshot.coherence.coherent = true

theorem snapshotState_fresh_iff {snapshot : SnapshotBody} {nowMs maxAgeMs : Int} :
    (snapshotState snapshot nowMs maxAgeMs).1 = .FRESH ↔ Usable snapshot nowMs maxAgeMs := by
  unfold snapshotState
  constructor
  · intro h
    dsimp only at h
    split at h
    · cases h
    · rename_i hage
      split at h
      · cases h
      · rename_i hempty
        split at h
        · cases h
        · rename_i hcoherent
          exact ⟨not_lt.mp hage, by simpa using hempty, by simpa using hcoherent⟩
  · intro h
    have hempty : snapshot.observations.isEmpty = false := by simpa using h.observations
    simp [not_lt.mpr h.age, hempty, h.coherent]

/-- **What is acted on.** -/
theorem assertSnapshotUsable_ok_iff {snapshot : SnapshotBody} {nowMs maxAgeMs : Int}
    {context : String} :
    assertSnapshotUsable snapshot nowMs maxAgeMs context = .ok () ↔
      Usable snapshot nowMs maxAgeMs := by
  unfold assertSnapshotUsable
  rw [Evm.ite_error_eq_ok, not_not, snapshotState_fresh_iff]
  exact and_iff_left rfl

end ContextLock.Reality
