/-
  Subject:   Resolving a time to a block.

  A replay runs against one exact block. A time is resolved to it by halving a range of block
  numbers; the head of the range is read first, and a time after it is refused. Every read may
  fail, at any call. A `bigint` timestamp becomes a number of milliseconds, so it is rounded
  where it is large.
-/
import ContextLock.Evm.Host
import ContextLock.Js.Address
import ContextLock.Js.Rounding
import ContextLock.Js.Schema
import ContextLock.Machine.Bisect
import Mathlib.Data.Rat.Cast.Order

namespace ContextLock.Reality

open Js Machine

/-! ## 1. Times -/

/-- A `number` of milliseconds. -/
inductive TimeMs where
  | finite (ms : Rat)
  | nan
  | infinite (negative : Bool)

/-- `a < t`. -/
def before : Js.Num → TimeMs → Bool
  | .int a, .finite ms => (a : Rat) < ms
  | .int _, .infinite negative => !negative
  | .inf negative, .finite _ => negative
  | .inf a, .infinite b => a && !b
  | _, _ => false

/-- `a <= t`. -/
def atMost : Js.Num → TimeMs → Bool
  | .int a, .finite ms => (a : Rat) ≤ ms
  | .int _, .infinite negative => !negative
  | .inf negative, .finite _ => negative
  | .inf a, .infinite b => a || !b
  | _, _ => false

/-- `Number(block.timestamp) * 1000`. -/
def blockMs (timestamp : Nat) : Js.Num :=
  match Js.Num.ofBigInt timestamp with
  | .int n => Js.Num.ofBigInt (n * 1000)
  | x => x

theorem atMost_of_le {a b : Js.Num} {t : TimeMs} (hle : a.le b = true) (hb : atMost b t = true) :
    atMost a t = true := by
  cases t with
  | nan => cases b <;> cases hb
  | finite ms =>
    cases b with
    | nan => cases hb
    | int n =>
      cases a with
      | nan => cases hle
      | int m =>
        have hmn : m ≤ n := by simpa [Js.Num.le] using hle
        have hn : (n : Rat) ≤ ms := by simpa [atMost] using hb
        have hcast : (m : Rat) ≤ n := by exact_mod_cast hmn
        simpa [atMost] using hcast.trans hn
      | inf negative => simpa [atMost, Js.Num.le] using hle
    | inf negative =>
      obtain rfl : negative = true := hb
      cases a with
      | nan => cases hle
      | int m => cases hle
      | inf a => simpa [atMost, Js.Num.le] using hle
  | infinite negative =>
    cases b with
    | nan => cases hb
    | int n =>
      cases a with
      | nan => cases hle
      | int m => exact hb
      | inf a =>
        obtain rfl : a = true := hle
        rfl
    | inf b =>
      cases a with
      | nan => cases hle
      | int m =>
        cases b with
        | true => cases hle
        | false => exact hb
      | inf a =>
        cases a with
        | true => rfl
        | false =>
          cases b with
          | true => cases hle
          | false => exact hb

/-- **Rounding keeps the order of the timestamps.** -/
theorem blockMs_mono {s t : Nat} (h : s ≤ t) : (blockMs s).le (blockMs t) = true := by
  have hle := ofBigInt_le h
  have hnat : ∀ k : Nat, (∃ d : Nat, Js.Num.ofBigInt k = .int d) ∨ Js.Num.ofBigInt k = .inf false := by
    intro k
    unfold Js.Num.ofBigInt
    split
    · exact Or.inr (by simp)
    · refine Or.inl ⟨doubleOf k, ?_⟩
      obtain rfl | hk := Nat.eq_zero_or_pos k
      · decide
      · rw [Int.natAbs_natCast, Int.sign_eq_one_of_pos (by omega), one_mul]
  unfold blockMs
  obtain ⟨d, hs⟩ | hs := hnat s <;> obtain ⟨e, ht⟩ | ht := hnat t <;> rw [hs, ht] at hle ⊢
  · have hde : d ≤ e := by simpa [Js.Num.le] using hle
    exact ofBigInt_le (m := d * 1000) (n := e * 1000) (Nat.mul_le_mul_right _ hde)
  · obtain ⟨f, hf⟩ | hf := hnat (d * 1000)
    · simp only [Nat.cast_mul] at hf
      simp [show ((d : Int) * 1000) = d * (1000 : Nat) from rfl, hf, Js.Num.le]
    · simp only [Nat.cast_mul] at hf
      simp [show ((d : Int) * 1000) = d * (1000 : Nat) from rfl, hf, Js.Num.le]
  · cases hle
  · rfl

/-! ## 2. Resolving -/

structure RpcBlock where
  number : Int
  hash : String
  timestamp : Nat

structure ReadOnlyChainProvider where
  chainId : Int
  getBlockNumber : Except String Nat
  getBlock : Nat → Int → Except String RpcBlock

inductive ReplayError where
  /-- `REPLAY_TIMESTAMP_UNRESOLVABLE`: the time is in the future of the chain. -/
  | unresolvable (chainId : Int) (targetMs : TimeMs) (hi : Int) (headMs : Js.Num)
  /-- The provider threw. -/
  | provider (message : String)
  /-- The result is none by its schema. -/
  | schema

inductive ResolvedFrom where
  | EXPLICIT_BLOCK
  | TIMESTAMP_SEARCH
  deriving DecidableEq

structure ReplayTarget where
  blockNumber : String
  blockHash : String
  blockTimestampMs : Int
  chainId : Int
  resolvedFrom : ResolvedFrom
  requestedTimestampMs : Option Int
  deriving DecidableEq

/-- `z.number().int().positive()` of a number. -/
def positiveNum : Js.Num → Option Int
  | .int n => if 0 < n ∧ n ≤ 2 ^ 53 - 1 then some n else none
  | _ => none

/-- `z.number().int().positive()` of a time. -/
def TimeMs.positive : TimeMs → Option Int
  | .finite ms => if ms.den = 1 then positiveNum (.int ms.num) else none
  | _ => none

/-- `ReplayTargetSchema.parse`, of the target of a search. -/
def parseTarget (chosen : RpcBlock) (chainId : Int) (targetMs : TimeMs) :
    Except ReplayError ReplayTarget :=
  let blockNumber := toString chosen.number
  let blockHash := toLowerCase chosen.hash
  match positiveNum (blockMs chosen.timestamp), targetMs.positive with
  | some blockTimestampMs, some requested =>
    if isDecimal blockNumber ∧ blockHash.toList.take 2 = ['0', 'x']
        ∧ lowerHex 64 (blockHash.toList.drop 2) ∧ 0 < chainId ∧ chainId ≤ 2 ^ 53 - 1 then
      .ok ⟨blockNumber, blockHash, blockTimestampMs, chainId, .TIMESTAMP_SEARCH, some requested⟩
    else .error .schema
  | _, _ => .error .schema

namespace ReadOnlyChainProvider

/-- `await provider.getBlock(n)`, after `calls` other reads. -/
def read (provider : ReadOnlyChainProvider) (calls : Nat) (n : Int) : Except ReplayError RpcBlock :=
  (provider.getBlock calls n).mapError .provider

def range (provider : ReadOnlyChainProvider) :
    Option (Int × Int) → Except ReplayError (Int × Int)
  | some bounds => .ok bounds
  | none => (provider.getBlockNumber.map fun head => ((1 : Int), (head : Int))).mapError .provider

/-- What a pass of the loop asks: whether the block is at most the target. -/
def probe (provider : ReadOnlyChainProvider) (targetMs : TimeMs) (calls : Nat) (n : Int) :
    Except ReplayError Bool :=
  (provider.read calls n).map fun block => atMost (blockMs block.timestamp) targetMs

end ReadOnlyChainProvider

def resolveBlockForTimestamp (provider : ReadOnlyChainProvider) (targetMs : TimeMs)
    (bounds : Option (Int × Int)) : Except ReplayError ReplayTarget := do
  let (lo, hi) ← provider.range bounds
  let headBlock ← provider.read 0 hi
  if before (blockMs headBlock.timestamp) targetMs then
    .error (.unresolvable provider.chainId targetMs hi (blockMs headBlock.timestamp))
  else do
    let (best, calls) ← bisect (provider.probe targetMs) 1 lo hi lo
    let chosen ← provider.read calls best
    parseTarget chosen provider.chainId targetMs

/-! ## 3. The block that is found -/

/-- The provider serves the chain, where it answers. -/
structure Serves (provider : ReadOnlyChainProvider) (chain : Nat → RpcBlock) : Prop where
  numbered : ∀ n : Nat, (chain n).number = n
  answered : ∀ k i block, provider.getBlock k i = .ok block → ∃ n : Nat, i = n ∧ block = chain n

/-- The block is at most the target. -/
def notAfter (chain : Nat → RpcBlock) (targetMs : TimeMs) (n : Nat) : Bool :=
  atMost (blockMs (chain n).timestamp) targetMs

/-- The target is the block of a number. -/
structure ReplayTarget.Names (target : ReplayTarget) (block : RpcBlock) : Prop where
  number : target.blockNumber = toString block.number
  hash : target.blockHash = toLowerCase block.hash
  timestamp : blockMs block.timestamp = .int target.blockTimestampMs

theorem names_of_parse {chosen : RpcBlock} {chainId : Int} {targetMs : TimeMs}
    {target : ReplayTarget} (h : parseTarget chosen chainId targetMs = .ok target) :
    target.Names chosen := by
  unfold parseTarget at h
  dsimp only at h
  split at h
  · rename_i ms requested hms _
    split at h
    · cases h
      refine ⟨rfl, rfl, ?_⟩
      cases hb : blockMs chosen.timestamp with
      | int n =>
        rw [hb] at hms
        simp only [positiveNum] at hms
        split at hms
        · cases hms
          rfl
        · cases hms
      | nan | inf negative =>
        rw [hb] at hms
        cases hms
    · cases h
  · cases h

section Resolved

variable {provider : ReadOnlyChainProvider} {chain : Nat → RpcBlock}

theorem Serves.read_ok (h : Serves provider chain) {k : Nat} {i : Int} {block : RpcBlock}
    (hr : provider.read k i = .ok block) : ∃ n : Nat, i = n ∧ block = chain n := by
  unfold ReadOnlyChainProvider.read at hr
  cases hb : provider.getBlock k i with
  | error e =>
    rw [hb] at hr
    cases hr
  | ok b =>
    rw [hb] at hr
    cases hr
    exact h.answered _ _ _ hb

theorem Serves.reads (h : Serves provider chain) (targetMs : TimeMs) :
    Reads (provider.probe targetMs) (notAfter chain targetMs) := by
  refine ⟨fun k i b hb => ?_⟩
  unfold ReadOnlyChainProvider.probe at hb
  cases hr : provider.read k i with
  | error e =>
    rw [hr] at hb
    cases hb
  | ok block =>
    rw [hr] at hb
    cases hb
    obtain ⟨n, rfl, rfl⟩ := h.read_ok hr
    exact ⟨n, rfl, rfl⟩

theorem notAfter_mono (hmono : ∀ m n, m ≤ n → (chain m).timestamp ≤ (chain n).timestamp)
    (targetMs : TimeMs) (m n : Nat) (hmn : m ≤ n) (hn : notAfter chain targetMs n = true) :
    notAfter chain targetMs m = true :=
  atMost_of_le (blockMs_mono (hmono m n hmn)) hn

/-- **What a time is resolved to**: the block the search ends at. -/
theorem resolve_ok (h : Serves provider chain)
    (hmono : ∀ m n, m ≤ n → (chain m).timestamp ≤ (chain n).timestamp) {targetMs : TimeMs}
    {lo hi : Int} {target : ReplayTarget}
    (hr : resolveBlockForTimestamp provider targetMs (some (lo, hi)) = .ok target) :
    0 ≤ hi ∧ ∃ n : Nat, target.Names (chain n) ∧
      Answer (notAfter chain targetMs) lo hi lo n := by
  simp only [resolveBlockForTimestamp, ReadOnlyChainProvider.range, Evm.bind_eq_ok] at hr
  obtain ⟨_, hrange, head, hhead, hr⟩ := hr
  cases hrange
  obtain ⟨top, rfl, -⟩ := h.read_ok hhead
  split at hr
  · cases hr
  · simp only [Evm.bind_eq_ok] at hr
    obtain ⟨⟨best, calls⟩, hbest, chosen, hchosen, hparse⟩ := hr
    obtain ⟨n, rfl, rfl⟩ := h.read_ok hchosen
    exact ⟨by omega, n, names_of_parse hparse,
      bisect_ok (h.reads targetMs) (notAfter_mono hmono targetMs) hbest⟩

/-- **When a time is resolved to the right block**: the last of the range that is not after it.
    It is so exactly when the first of the range is not after it. -/
theorem resolved_last_iff (h : Serves provider chain)
    (hmono : ∀ m n, m ≤ n → (chain m).timestamp ≤ (chain n).timestamp) {targetMs : TimeMs}
    {lo hi : Int} (hle : lo ≤ hi) {target : ReplayTarget}
    (hr : resolveBlockForTimestamp provider targetMs (some (lo, hi)) = .ok target) :
    (∃ n : Nat, target.Names (chain n) ∧ LastIn (notAfter chain targetMs) lo hi n) ↔
      notAfter chain targetMs lo.toNat = true := by
  constructor
  · rintro ⟨n, -, hlast⟩
    have hlo := hlast.le
    exact notAfter_mono hmono targetMs _ n (by omega) hlast.here
  · intro hfirst
    obtain ⟨hhi, n, hnames, ⟨m, hm, hlast⟩ | ⟨-, hnone⟩⟩ := resolve_ok h hmono hr
    · obtain rfl : n = m := by exact_mod_cast hm
      exact ⟨n, hnames, hlast⟩
    · have hfalse := hnone lo.toNat (by omega) (by omega)
      rw [hfirst] at hfalse
      cases hfalse

end Resolved

/-! ## 4. A chain of two blocks -/

/-- A chain with a block every twelve seconds, from second 100 on. -/
def steady (n : Nat) : RpcBlock where
  number := n
  hash := "0x" ++ String.ofList (List.replicate 64 'a')
  timestamp := 100 + 12 * n

def steadyProvider : ReadOnlyChainProvider where
  chainId := 1
  getBlockNumber := .ok 3
  getBlock _ i := if 0 ≤ i ∧ i ≤ 3 then .ok (steady i.toNat) else .error "unknown block"

theorem steady_serves : Serves steadyProvider steady where
  numbered _ := rfl
  answered k i block h := by
    simp only [steadyProvider] at h
    split at h
    · rename_i hi
      cases h
      exact ⟨i.toNat, by omega, rfl⟩
    · cases h

theorem steady_mono (m n : Nat) (h : m ≤ n) : (steady m).timestamp ≤ (steady n).timestamp := by
  show 100 + 12 * m ≤ 100 + 12 * n
  omega

/-- The block of that chain, as it is resolved to. -/
def steadyTarget (n : Nat) (requested : Int) : ReplayTarget where
  blockNumber := toString n
  blockHash := (steady n).hash
  blockTimestampMs := (100 + 12 * n) * 1000
  chainId := 1
  resolvedFrom := .TIMESTAMP_SEARCH
  requestedTimestampMs := some requested

theorem eq_ok_of_toOption {α : Type} {x : Except ReplayError α} {a : α}
    (h : x.toOption = some a) : x = .ok a := by
  cases x with
  | error e => cases h
  | ok b =>
    cases h
    rfl

theorem resolves_within : resolveBlockForTimestamp steadyProvider (.finite 125000) (some (1, 3)) =
    .ok (steadyTarget 2 125000) := by
  have heval : (resolveBlockForTimestamp steadyProvider (.finite 125000)
      (some (1, 3))).toOption = some (steadyTarget 2 125000) := by decide +kernel
  exact eq_ok_of_toOption heval

theorem resolved_last_within : ∃ n : Nat, (steadyTarget 2 125000).Names (steady n) ∧
    LastIn (notAfter steady (.finite 125000)) 1 3 n :=
  (resolved_last_iff steady_serves steady_mono (by decide) resolves_within).mpr (by decide)

/-- **A time before the range**: second 1 is resolved to the block of second 112. -/
theorem resolved_after_target :
    resolveBlockForTimestamp steadyProvider (.finite 1000) (some (1, 3)) =
        .ok (steadyTarget 1 1000) ∧
      (steadyTarget 1 1000).blockTimestampMs = 112000 ∧
      ¬ ∃ n : Nat, (steadyTarget 1 1000).Names (steady n) ∧
        LastIn (notAfter steady (.finite 1000)) 1 3 n := by
  have heval : (resolveBlockForTimestamp steadyProvider (.finite 1000)
      (some (1, 3))).toOption = some (steadyTarget 1 1000) := by decide +kernel
  refine ⟨eq_ok_of_toOption heval, rfl, ?_⟩
  rintro ⟨n, -, hlast⟩
  have hfirst : notAfter steady (.finite 1000) 0 = true :=
    notAfter_mono steady_mono _ 0 n (Nat.zero_le n) hlast.here
  have hnot : notAfter steady (.finite 1000) 0 = false := by decide
  rw [hnot] at hfirst
  cases hfirst

end ContextLock.Reality
