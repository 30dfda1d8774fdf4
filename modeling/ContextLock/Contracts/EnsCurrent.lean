/-
  Subject:   The live check of an ENS identity, over every history and every registry.

  `isIdentityCurrent` is to fail closed: every answer of the registry is a yes or a no, never a
  revert. The answers are raw bytes, and `abi.decode` reverts on a word that does not fit its type.
-/
import ContextLock.Contracts.Identity
import ContextLock.Machine.Transition

namespace ContextLock.EnsAgentIdentityVerifier

open Evm Machine

/-! ## 1. What the check is to say -/

def answered (n : Nat) (answer : Option Bytes) : Option (BitVec n) := answer.bind (decodeAnswer n)

/-- The identity `a` of `agent` is current at `now`. -/
structure Current (ens : Address → EnsRegistry) (now : Uint256) (s : Storage) (a : Bytes32)
    (agent : Address) : Prop where
  bound : (s.bindings a).exists_ = true
  agent : (s.bindings a).expectedAgent = agent
  owner : ∃ o, answered 160 ((ens (s.bindings a).registry).ownerOf (s.bindings a).boundTokenId)
    = some o ∧ o ≠ 0 ∧ o = (s.bindings a).expectedNameOwner
  expiry : ∃ e, answered 64 ((ens (s.bindings a).registry).getExpiry (s.bindings a).labelId)
    = some e ∧ now < toWord e
  token : answered 256 ((ens (s.bindings a).registry).getTokenId (s.bindings a).labelId)
    = some (s.bindings a).boundTokenId

/-- The check does not revert, and is positive exactly where the identity is current. -/
def FailsClosed (ens : Address → EnsRegistry) (now : Uint256) (s : Storage) (a : Bytes32)
    (agent : Address) : Prop :=
  ∃ v, s.isIdentityCurrent ens now a agent = some v ∧ (v = true ↔ Current ens now s a agent)

/-! ## 2. Answers that do not fit -/

/-- An answer of one word or more whose first word does not fit in `n` bits. -/
def dirty (n : Nat) (answer : Option Bytes) : Bool :=
  answer.any fun ret => decide (32 ≤ ret.length) && (narrow n (wordAt ret 0)).isNone

/-- **A low-level read** reverts on a dirty answer, and else reads the answer. -/
theorem probe_eq (n : Nat) (answer : Option Bytes) :
    probe n answer = if dirty n answer then none else some (answered n answer) := by
  cases answer with
  | none => rfl
  | some ret =>
    by_cases hshort : ret.length < 32
    · have hlong : ¬ 32 ≤ ret.length := by omega
      simp [probe, dirty, answered, decodeAnswer, hshort, hlong]
    · have hlong : 32 ≤ ret.length := by omega
      cases hword : narrow n (wordAt ret 0) with
      | none => simp [probe, dirty, decodeAnswer, hshort, hlong, hword]
      | some x => simp [probe, dirty, answered, decodeAnswer, hshort, hword]

theorem dirty_word (answer : Option Bytes) : dirty 256 answer = false := by
  cases answer with
  | none => rfl
  | some ret =>
    have hfits : (narrow 256 (wordAt ret 0)).isNone = false := by
      have hword := narrow_toWord (n := 256) (le_refl 256) (wordAt ret 0)
      have hself : toWord (wordAt ret 0) = wordAt ret 0 := BitVec.setWidth_eq _
      rw [hself] at hword
      rw [hword]
      rfl
    simp [dirty, hfits]

/-- No answer that the check gets to is dirty: where the identity is bound to this agent, the owner
    fits, and where it is the bound owner so does the expiry. -/
def answersFit (ens : Address → EnsRegistry) (s : Storage) (a : Bytes32) (agent : Address) : Bool :=
  let b := s.bindings a
  let owner := (ens b.registry).ownerOf b.boundTokenId
  let expiry := (ens b.registry).getExpiry b.labelId
  !(b.exists_ && decide (b.expectedAgent = agent)) ||
    !(dirty 160 owner || decide (answered 160 owner = some b.expectedNameOwner) && dirty 64 expiry)

/-! ## 3. Histories of bindings -/

/-- A verifier as its constructor leaves it. -/
def Storage.deployed (owner : Address) : Storage := ⟨owner, fun _ => .zero, false⟩

/-- A call to the verifier, at a time at which the registries answer as `ens`. -/
structure Change where
  ens : Address → EnsRegistry
  sender : Address
  call : Call

def changeStep (s : Storage) (c : Change) : Option Storage := (c.call.apply c.ens c.sender s).toOption

def Call.binds : Call → Bool
  | .bind .. | .unbind _ => true
  | .setSimulateRegistryOutage _ => false

/-- The histories of `bind` and `unbind` calls. -/
def History (owner : Address) (s : Storage) : Prop :=
  Reaches (guarded changeStep fun _ c => c.call.binds = true) (.deployed owner) s

def Binding.hash (b : Binding) : Bytes32 :=
  computeIdentityHash b.registry b.labelId b.expectedNameOwner b.expectedAgent b.boundTokenId
    b.bindingVersion

/-- A binding stands under its own hash and names an owner. -/
structure Sound (s : Storage) : Prop where
  live : s.simulateRegistryOutage = false
  named : ∀ a, (s.bindings a).exists_ = true →
    (s.bindings a).hash = a ∧ (s.bindings a).expectedNameOwner ≠ 0

/-- What a successful `bind` writes. -/
theorem bind_ok {ens : Address → EnsRegistry} {sender registry expectedAgent : Address}
    {s s' : Storage} {labelId : Uint256} {bindingVersion : Uint64}
    (h : bind ens sender s registry labelId expectedAgent bindingVersion = .ok s') :
    ∃ b : Binding, b.expectedNameOwner ≠ 0 ∧
      s' = { s with bindings := Function.update s.bindings b.hash b } := by
  unfold EnsAgentIdentityVerifier.bind onlyOwner at h
  obtain ⟨-, h⟩ := ite_error_eq_ok.mp h
  obtain ⟨tokenId, -, h⟩ := bind_eq_ok.mp h
  obtain ⟨nameOwner, -, h⟩ := bind_eq_ok.mp h
  obtain ⟨howner, h⟩ := ite_error_eq_ok.mp h
  obtain ⟨-, h⟩ := ite_error_eq_ok.mp h
  exact ⟨⟨registry, labelId, nameOwner, expectedAgent, tokenId, bindingVersion, true⟩, howner,
    (Except.ok.inj h).symm⟩

/-- **One call.** -/
theorem Sound.step {s s' : Storage} {c : Change} (h : Sound s) (hbinds : c.call.binds = true)
    (hstep : changeStep s c = some s') : Sound s' := by
  have happly : c.call.apply c.ens c.sender s = .ok s' := by
    unfold changeStep at hstep
    cases hc : c.call.apply c.ens c.sender s with
    | error e => simp [hc, Except.toOption] at hstep
    | ok t =>
      rw [hc] at hstep
      rw [Option.some.inj hstep]
  cases hcall : c.call with
  | bind registry labelId expectedAgent bindingVersion =>
    rw [hcall] at happly
    obtain ⟨b, howner, rfl⟩ := bind_ok happly
    refine ⟨h.live, fun a hexists => ?_⟩
    by_cases ha : a = b.hash
    · subst ha
      simp only [Function.update_self]
      exact ⟨trivial, howner⟩
    · simp only [Function.update_of_ne ha] at hexists ⊢
      exact h.named a hexists
  | unbind hash =>
    rw [hcall] at happly
    simp only [Call.apply, unbind, onlyOwner, ite_error_eq_ok] at happly
    obtain ⟨-, -, happly⟩ := happly
    rw [← Except.ok.inj happly]
    refine ⟨h.live, fun a hexists => ?_⟩
    by_cases ha : a = hash
    · subst ha
      simp [Binding.zero] at hexists
    · simp only [Function.update_of_ne ha] at hexists ⊢
      exact h.named a hexists
  | setSimulateRegistryOutage v =>
    rw [hcall] at hbinds
    cases hbinds

theorem sound_reaches {owner : Address} {s : Storage} (h : History owner s) : Sound s := by
  refine h.invariant (fun s c s' hsound hstep => ?_) ⟨rfl, fun a hexists => by cases hexists⟩
  obtain ⟨hbinds, hstep⟩ := guarded_eq_some.mp hstep
  exact hsound.step hbinds hstep

/-! ## 4. The live check -/

section Check

variable {ens : Address → EnsRegistry} {now : Uint256} {s : Storage} {a : Bytes32} {agent : Address}

theorem failsClosed_of_false (h : s.isIdentityCurrent ens now a agent = some false)
    (hcurrent : ¬ Current ens now s a agent) : FailsClosed ens now s a agent :=
  ⟨false, h, by simp [hcurrent]⟩

theorem not_failsClosed_of_none (h : s.isIdentityCurrent ens now a agent = none) :
    ¬ FailsClosed ens now s a agent := by
  intro hcloses
  obtain ⟨v, hv, -⟩ := hcloses
  rw [h] at hv
  cases hv

theorem isIdentityCurrent_bound (hsound : Sound s) (hbound : (s.bindings a).exists_ = true)
    (hagent : (s.bindings a).expectedAgent = agent) :
    s.isIdentityCurrent ens now a agent =
      let b := s.bindings a
      if dirty 160 ((ens b.registry).ownerOf b.boundTokenId) then none
      else if answered 160 ((ens b.registry).ownerOf b.boundTokenId) ≠ some b.expectedNameOwner then
        some false
      else if dirty 64 ((ens b.registry).getExpiry b.labelId) then none
      else some (((answered 64 ((ens b.registry).getExpiry b.labelId)).any (now < toWord ·)) &&
        decide (answered 256 ((ens b.registry).getTokenId b.labelId) = some b.boundTokenId)) := by
  obtain ⟨hhash, hnamed⟩ := hsound.named a hbound
  have howner : ¬ (s.bindings a).expectedNameOwner = 0#160 := hnamed
  simp only [Storage.isIdentityCurrent, hsound.live, hbound, hagent, probe_eq, dirty_word]
  by_cases hdirty : dirty 160 ((ens (s.bindings a).registry).ownerOf (s.bindings a).boundTokenId)
  · simp [hdirty]
  cases hlive : answered 160
      ((ens (s.bindings a).registry).ownerOf (s.bindings a).boundTokenId) with
  | none => simp [hdirty]
  | some currentOwner =>
    by_cases hcurrent : currentOwner = (s.bindings a).expectedNameOwner
    · subst hcurrent
      by_cases hdirty' : dirty 64 ((ens (s.bindings a).registry).getExpiry (s.bindings a).labelId)
      · simp [hdirty, hdirty', howner]
      cases hexpiry : answered 64
          ((ens (s.bindings a).registry).getExpiry (s.bindings a).labelId) with
      | none => simp [hdirty, hdirty', howner]
      | some expiry =>
        by_cases hlate : toWord expiry ≤ now
        · have hnot : ¬ now < toWord expiry := BitVec.not_lt.mpr hlate
          simp [hdirty, hdirty', howner, hlate, hnot]
        · have hlater : now < toWord expiry := BitVec.not_le.mp hlate
          cases htoken : answered 256
              ((ens (s.bindings a).registry).getTokenId (s.bindings a).labelId) with
          | none => simp [hdirty, hdirty', howner, hlate]
          | some currentTokenId =>
            by_cases hsame : currentTokenId = (s.bindings a).boundTokenId
            · subst hsame
              have hrecomputed : computeIdentityHash (s.bindings a).registry
                  (s.bindings a).labelId (s.bindings a).expectedNameOwner agent
                  (s.bindings a).boundTokenId (s.bindings a).bindingVersion = a := by
                rw [← hagent]
                exact hhash
              simp [hdirty, hdirty', howner, hlate, hlater, hrecomputed]
            · simp [hdirty, hdirty', howner, hlate, hsame]
    · by_cases hzero : currentOwner = 0
      · have hother : ¬ 0#160 = (s.bindings a).expectedNameOwner := by
          rw [hzero] at hcurrent
          exact hcurrent
        simp [hdirty, hzero, hother]
      · simp [hdirty, hcurrent]

/-- **The check fails closed exactly where the answers fit.** After every history of `bind` and
    `unbind` calls, and for every registry, it answers, and answers yes exactly for a current
    identity, if and only if no answer it gets to holds a word that does not fit. -/
theorem failsClosed_iff {owner : Address} (h : History owner s) :
    FailsClosed ens now s a agent ↔ answersFit ens s a agent = true := by
  have hsound := sound_reaches h
  by_cases hbound : (s.bindings a).exists_ = true
  case neg =>
    have hcheck : s.isIdentityCurrent ens now a agent = some false := by
      simp [Storage.isIdentityCurrent, hsound.live, hbound]
    have hfit : answersFit ens s a agent = true := by simp [answersFit, hbound]
    exact ⟨fun _ => hfit,
      fun _ => failsClosed_of_false hcheck fun hcurrent => hbound hcurrent.bound⟩
  by_cases hagent : (s.bindings a).expectedAgent = agent
  case neg =>
    have hcheck : s.isIdentityCurrent ens now a agent = some false := by
      simp [Storage.isIdentityCurrent, hsound.live, hbound, hagent]
    have hfit : answersFit ens s a agent = true := by simp [answersFit, hagent]
    exact ⟨fun _ => hfit,
      fun _ => failsClosed_of_false hcheck fun hcurrent => hagent hcurrent.agent⟩
  have hcheck := @isIdentityCurrent_bound ens now s a agent hsound hbound hagent
  simp only at hcheck
  by_cases hdirty : dirty 160 ((ens (s.bindings a).registry).ownerOf (s.bindings a).boundTokenId)
  · rw [if_pos hdirty] at hcheck
    have hfit : answersFit ens s a agent = false := by simp [answersFit, hbound, hagent, hdirty]
    simp [not_failsClosed_of_none hcheck, hfit]
  rw [if_neg hdirty] at hcheck
  by_cases howner : answered 160 ((ens (s.bindings a).registry).ownerOf
      (s.bindings a).boundTokenId) = some (s.bindings a).expectedNameOwner
  case neg =>
    rw [if_pos howner] at hcheck
    have hfit : answersFit ens s a agent = true := by simp [answersFit, hdirty, howner]
    refine ⟨fun _ => hfit, fun _ => failsClosed_of_false hcheck fun hcurrent => ?_⟩
    obtain ⟨o, ho, -, rfl⟩ := hcurrent.owner
    exact howner ho
  rw [if_neg (not_not.mpr howner)] at hcheck
  by_cases hdirty' : dirty 64 ((ens (s.bindings a).registry).getExpiry (s.bindings a).labelId)
  · rw [if_pos hdirty'] at hcheck
    have hfit : answersFit ens s a agent = false := by
      simp [answersFit, hbound, hagent, howner, hdirty']
    simp [not_failsClosed_of_none hcheck, hfit]
  rw [if_neg hdirty'] at hcheck
  have hfit : answersFit ens s a agent = true := by simp [answersFit, hdirty, hdirty']
  refine ⟨fun _ => hfit, fun _ => ⟨_, hcheck, ?_⟩⟩
  simp only [Bool.and_eq_true, decide_eq_true_eq, Option.any_eq_true]
  constructor
  · intro hyes
    obtain ⟨⟨e, he, hlater⟩, htoken⟩ := hyes
    exact ⟨hbound, hagent, ⟨_, howner, (hsound.named a hbound).2, rfl⟩, ⟨e, he, hlater⟩, htoken⟩
  · intro hcurrent
    exact ⟨hcurrent.expiry, hcurrent.token⟩

end Check

/-! ## 5. A current identity, and a registry at which the check reverts -/

def liveRegistry : EnsRegistry where
  ownerOf := fun _ => some (abiEncode [toWord (9 : Address)])
  getExpiry := fun _ => some (abiEncode [toWord (100 : Uint64)])
  getTokenId := fun _ => some (abiEncode [5])

def liveBinding : Binding := ⟨2, 3, 9, 7, 5, 0, true⟩

def boundStorage : Storage :=
  { Storage.deployed 1 with
    bindings := Function.update (Storage.deployed 1).bindings liveBinding.hash liveBinding }

theorem bind_live : changeStep (.deployed 1) ⟨fun _ => liveRegistry, 1, .bind 2 3 7 0⟩
    = some boundStorage := by
  have htoken : decodeAnswer 256 (abiEncode [5]) = some 5 :=
    decodeAnswer_encode (n := 256) (le_refl 256) 5
  have howner : decodeAnswer 160 (abiEncode [toWord (9 : Address)]) = some 9 :=
    decodeAnswer_encode (by decide) 9
  simp only [changeStep, Call.apply, EnsAgentIdentityVerifier.bind, onlyOwner, readAnswer,
    liveRegistry, Option.bind_some, htoken, howner]
  rfl

theorem history_bound : History 1 boundStorage :=
  .head (guarded_eq_some.mpr ⟨rfl, bind_live⟩) (.refl boundStorage)

/-- The check of the bound identity at the time 50. -/
theorem live_failsClosed :
    FailsClosed (fun _ => liveRegistry) 50 boundStorage liveBinding.hash 7 := by
  refine (failsClosed_iff history_bound).mpr ?_
  simp only [answersFit, boundStorage, Function.update_self]
  decide

/-- The same registry once its `ownerOf` answers 32 bytes, all of them 0xff. -/
def dirtyRegistry : EnsRegistry :=
  { liveRegistry with ownerOf := fun _ => some (List.replicate 32 0xff) }

/-- **A dirty owner reverts** the check of a bound identity. -/
theorem dirty_owner_reverts : History 1 boundStorage ∧
    boundStorage.isIdentityCurrent (fun _ => dirtyRegistry) 50 liveBinding.hash 7 = none := by
  refine ⟨history_bound, ?_⟩
  rw [isIdentityCurrent_bound (sound_reaches history_bound)
    (by simp [boundStorage, liveBinding]) (by simp [boundStorage, liveBinding])]
  have hdirty : dirty 160 (some (List.replicate 32 0xff)) = true := by decide
  simp only [dirtyRegistry, hdirty, if_true]

end ContextLock.EnsAgentIdentityVerifier
