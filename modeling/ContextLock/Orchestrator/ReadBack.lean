/-
  Subject:   What a verification after deployment has read.

  The verification asks the chain, the CRE and the hosts, and compares what they answer with the
  manifest. A contract is left out of a check where its chain has no reader, or where the
  manifest has no address for it; a check that was left out is no check that failed.
-/
import ContextLock.Deploy.Preflight
import ContextLock.Js.TextOrder
import ContextLock.Machine.Readings

namespace ContextLock.Orchestrator

open Js Deploy Machine

/-! ## 1. Questions and checks -/

/-- A question to a reader or to one of the injected functions. -/
inductive Question where
  | getCode (chainId : Nat) (address : String)
  | readPolicyEnabled (chainId : Nat) (registry policyId : String)
  | readAdministrators (chainId : Nat) (contract : String)
  | resolveEnsBinding (chainId : Nat) (node : String)
  | readCreWorkflow (name : String)
  | readRuntimeImageDigest (agentId : String)
  | readAdapterVersions

/-- What `readCreWorkflow` tells of a workflow. -/
structure CreWorkflowFacts where
  registry : String
  binaryHash : String
  status : String

abbrev Question.Answer : Question → Type
  | getCode _ _ => Option String
  | readPolicyEnabled _ _ _ => Bool
  | readAdministrators _ _ => List String
  | resolveEnsBinding _ _ => Option String
  | readCreWorkflow _ => Option CreWorkflowFacts
  | readRuntimeImageDigest _ => Option String
  | readAdapterVersions => Map String

def Question.aboutContract : Question → Prop
  | getCode _ _ | readPolicyEnabled _ _ _ | readAdministrators _ _ => True
  | _ => False

/-- `VERIFY_REASONS`, those that a check gives. -/
inductive VerifyReason where
  | CODE_MISMATCH
  | NO_CODE
  | POLICY_ENABLED
  | ENS_MISMATCH
  | CRE_MISMATCH
  | CRE_NOT_PAUSED
  | IMAGE_MISMATCH
  | ADAPTER_MISMATCH
  | UNEXPECTED_ADMIN

def VerifyReason.text : VerifyReason → String
  | CODE_MISMATCH => "VERIFY-RUNTIME-CODE-MISMATCH"
  | NO_CODE => "VERIFY-NO-CODE-AT-ADDRESS"
  | POLICY_ENABLED => "VERIFY-POLICY-IS-NOT-DISABLED"
  | ENS_MISMATCH => "VERIFY-ENS-BINDING-MISMATCH"
  | CRE_MISMATCH => "VERIFY-CRE-WORKFLOW-MISMATCH"
  | CRE_NOT_PAUSED => "VERIFY-CRE-NOT-IN-EXPECTED-STATE"
  | IMAGE_MISMATCH => "VERIFY-RUNTIME-IMAGE-MISMATCH"
  | ADAPTER_MISMATCH => "VERIFY-ADAPTER-VERSION-MISMATCH"
  | UNEXPECTED_ADMIN => "VERIFY-UNEXPECTED-ADMINISTRATOR"

structure VerificationCheck where
  id : String
  what : String
  ok : Bool
  reason : Option VerifyReason
  expected : String
  observed : String

def checkOf (id what expected observed : String) (ok : Bool) (reason : VerifyReason) :
    VerificationCheck :=
  ⟨id, what, ok, if ok then none else some reason, expected, observed⟩

/-- `check`: two texts, but for their case. -/
def check (id what expected observed : String) (reason : VerifyReason) : VerificationCheck :=
  checkOf id what expected observed (toLowerCase expected = toLowerCase observed) reason

/-- The readers by their chain, the addresses created by their contract, the policies by the
    contract they are registered at. -/
structure VerificationInput where
  manifest : DeploymentManifest
  readers : List Nat
  createdAddresses : Map String
  expectedAdministrators : List String
  policyIds : Map String

abbrev Verifying (α : Type) : Type := Reading Question Question.Answer String α

def askFor (q : Question) : Verifying q.Answer := Reading.ask q

/-! ## 2. The checks -/

section Checks

-- `codeHash` is the hash of a contract's code
variable (codeHash : String → String) (input : VerificationInput)

/-- `c.address ?? createdAddresses.get(c.name) ?? null`, where it is not empty. -/
def addressOf (c : ManifestContract) : Option String :=
  truthy (c.address.or (input.createdAddresses.get? c.name))

/-- The check of code that was read at an address. -/
def codeFound (c : ManifestContract) (address code : String) : VerificationCheck :=
  match truthy c.runtimeCodeHash with
  | some pinned =>
    check ("code:" ++ c.name) ("runtime code for " ++ c.name ++ " at " ++ address) pinned
      (codeHash code) .CODE_MISMATCH
  | none =>
    ⟨"code:" ++ c.name, "runtime code for newly created " ++ c.name ++ " at " ++ address, true,
      none, "(created this deployment)", codeHash code⟩

/-- The check where nothing is there. -/
def codeMissing (c : ManifestContract) (observed : String) : VerificationCheck :=
  ⟨"code:" ++ c.name, "runtime code for " ++ c.name, false, some .NO_CODE,
    c.runtimeCodeHash.getD "(pinned hash)", observed⟩

/-- Section 1 for a contract. -/
def codeChecks (c : ManifestContract) : Verifying (List VerificationCheck) :=
  if c.chainId ∈ input.readers then
    match addressOf input c with
    | none => pure [codeMissing c "(no address)"]
    | some address => do
      let answer : Option String ← askFor (.getCode c.chainId address)
      match truthy answer with
      | none => pure [codeMissing c "(no code)"]
      | some code =>
        if code = "0x" then pure [codeMissing c "(no code)"]
        else pure [codeFound codeHash c address code]
  else pure []

def policyContract (name : String) : Option (ManifestContract × String) :=
  (input.manifest.contracts.find? fun c => c.name = name ∧ (truthy c.address).isSome).bind fun c =>
    (truthy c.address).map fun address => (c, address)

/-- Section 2 for an entry of `policyIds`. -/
def policyChecks (entry : String × String) : Verifying (List VerificationCheck) :=
  match policyContract input entry.1 with
  | none => pure []
  | some (c, address) => do
    let enabled : Bool ← askFor (.readPolicyEnabled c.chainId address entry.2)
    pure [checkOf ("policy-disabled:" ++ entry.1)
      ("ContextLock policy " ++ entry.2 ++ " must be DISABLED after deployment") "disabled"
      (if enabled then "ENABLED" else "disabled") (!enabled) .POLICY_ENABLED]

/-- `texts.sort().join(", ") || "(none)"`. -/
def listed (texts : List String) : String :=
  (truthy (some (", ".intercalate (sortBy textLe (fun s => s) texts)))).getD "(none)"

/-- Section 3 for a contract. -/
def adminChecks (c : ManifestContract) : Verifying (List VerificationCheck) :=
  match truthy c.address with
  | none => pure []
  | some address => do
    let admins : List String ← askFor (.readAdministrators c.chainId address)
    pure [checkOf ("admins:" ++ c.name) ("administrative roles on " ++ c.name)
      (listed input.expectedAdministrators) (listed (admins.map toLowerCase))
      (admins.all fun a => toLowerCase a ∈ input.expectedAdministrators) .UNEXPECTED_ADMIN]

/-- Section 4 for a name. -/
def ensChecks (e : ManifestEns) : Verifying (List VerificationCheck) := do
  let bound : Option String ← askFor (.resolveEnsBinding e.chainId e.node)
  pure [check ("ens:" ++ e.name) (e.name ++ " must resolve to the agent") e.boundAgent
    (bound.getD "(unbound)") .ENS_MISMATCH]

/-- Section 5 for a workflow, whose `initialState` is always `PAUSED`. -/
def creChecks (w : ManifestCreWorkflow) : Verifying (List VerificationCheck) := do
  let live : Option CreWorkflowFacts ← askFor (.readCreWorkflow w.workflowName)
  match live with
  | none =>
    pure [⟨"cre:" ++ w.workflowName, "CRE workflow " ++ w.workflowName, false, some .CRE_MISMATCH,
      w.binaryHash, "(not found in the registry)"⟩]
  | some live =>
    pure [check ("cre-binary:" ++ w.workflowName) "deployed CRE binary hash" w.binaryHash
        live.binaryHash .CRE_MISMATCH,
      check ("cre-registry:" ++ w.workflowName) "CRE registry" w.registry live.registry
        .CRE_MISMATCH,
      checkOf ("cre-state:" ++ w.workflowName) "CRE workflow state after deployment" "PAUSED"
        live.status (live.status.toUpper = "PAUSED") .CRE_NOT_PAUSED]

/-- Section 6 for an image. -/
def imageChecks (i : ManifestRuntimeImage) : Verifying (List VerificationCheck) := do
  let running : Option String ← askFor (.readRuntimeImageDigest i.agentId)
  pure [check ("image:" ++ i.agentId) ("runtime image digest for " ++ i.agentId)
    (i.imageDigest.getD "(unpinned)") (running.getD "(none)") .IMAGE_MISMATCH]

/-- Section 7. -/
def adapterChecks : Verifying (List VerificationCheck) := do
  let versions : Map String ← askFor .readAdapterVersions
  pure (input.manifest.adapters.map fun a =>
    check ("adapter:" ++ a.adapterId) ("adapter " ++ a.adapterId ++ " version") a.version
      ((versions.get? a.adapterId).getD "(absent)") .ADAPTER_MISMATCH)

/-- The checks that are not about one contract. -/
def otherChecks : Verifying (List VerificationCheck) := do
  let ens ← Reading.collect ensChecks input.manifest.ens
  let cre ← Reading.collect creChecks input.manifest.creWorkflows
  let images ← Reading.collect imageChecks input.manifest.runtimeImages
  let adapters ← adapterChecks input
  pure (ens ++ cre ++ images ++ adapters)

def verifyDeployment : Verifying (List VerificationCheck) := do
  let code ← Reading.collect (codeChecks codeHash input) input.manifest.contracts
  let policies ← Reading.collect (policyChecks input) input.policyIds.entries
  let admins ← Reading.collect (adminChecks input) input.manifest.contracts
  let others ← otherChecks input
  pure (code ++ policies ++ admins ++ others)

end Checks

/-- The text of a `VerificationError`. -/
def verificationError (failures : List VerificationCheck) : String :=
  "VERIFY-FAILED: " ++ toString failures.length ++ " post-deployment check(s) did not pass:\n  "
    ++ "\n  ".intercalate (failures.map fun f =>
      "[" ++ (f.reason.map VerifyReason.text).getD "null" ++ "] " ++ f.what ++ ": expected "
        ++ f.expected ++ ", observed " ++ f.observed)

def assertVerified (checks : List VerificationCheck) : Except String Unit :=
  if (checks.filter (!·.ok)).length > 0 then .error (verificationError (checks.filter (!·.ok)))
  else .ok ()

/-! ## 3. What is to be read -/

/-- The questions of a verification, with their answers. -/
abbrev Log : Type := List (Asked Question Question.Answer)

/-- The code at the address was read; it is there, and the one the manifest pins. -/
def CodeRead (codeHash : String → String) (log : Log) (c : ManifestContract) (address : String) :
    Prop :=
  ∃ code : String, ⟨.getCode c.chainId address, some code⟩ ∈ log ∧ code ≠ "" ∧ code ≠ "0x" ∧
    ∀ pinned, truthy c.runtimeCodeHash = some pinned →
      toLowerCase pinned = toLowerCase (codeHash code)

/-- The administrators at the address were read, and all of them are expected. -/
def AdminsRead (input : VerificationInput) (log : Log) (c : ManifestContract) (address : String) :
    Prop :=
  ∃ admins : List String, ⟨.readAdministrators c.chainId address, admins⟩ ∈ log ∧
    ∀ a ∈ admins, toLowerCase a ∈ input.expectedAdministrators

def PoliciesRead (input : VerificationInput) (log : Log) (c : ManifestContract)
    (address : String) : Prop :=
  ∀ policyId, (c.name, policyId) ∈ input.policyIds.entries →
    ⟨.readPolicyEnabled c.chainId address policyId, false⟩ ∈ log

/-- **A verified contract**: it has an address, and what is there was read and is as it is to
    be. -/
def ContractVerified (codeHash : String → String) (input : VerificationInput) (log : Log)
    (c : ManifestContract) : Prop :=
  ∃ address, addressOf input c = some address ∧ CodeRead codeHash log c address ∧
    AdminsRead input log c address ∧ PoliciesRead input log c address

/-- **A contract in reach**: its chain has a reader, and its address is one the manifest gives
    to a contract of the chain; what a policy of it is read at is that address. -/
structure InReach (input : VerificationInput) (c : ManifestContract) (address : String) :
    Prop where
  known : addressOf input c = some address
  reader : c.chainId ∈ input.readers
  listed : ∃ c' ∈ input.manifest.contracts, c'.chainId = c.chainId ∧
    truthy c'.address = some address
  policies : ∀ policyId, (c.name, policyId) ∈ input.policyIds.entries →
    ∃ name c', (name, policyId) ∈ input.policyIds.entries ∧
      policyContract input name = some (c', address) ∧ c'.chainId = c.chainId

/-! ## 4. One check -/

section One

variable {codeHash : String → String} {input : VerificationInput} {c : ManifestContract}
  {world : Oracle Question Question.Answer String} {past asked : Log}
  {checks : List VerificationCheck}

theorem askFor_eq_ok {q : Question} {a : q.Answer} :
    askFor q world past = .ok (a, asked) ↔ world past q = .ok a ∧ asked = [⟨q, a⟩] :=
  Reading.ask_eq_ok

theorem codeChecks_asked (h : codeChecks codeHash input c world past = .ok (checks, asked))
    {e : Asked Question Question.Answer} (he : e ∈ asked) :
    c.chainId ∈ input.readers ∧ ∃ address, e.1 = .getCode c.chainId address := by
  unfold codeChecks at h
  by_cases hreader : c.chainId ∈ input.readers
  · refine ⟨hreader, ?_⟩
    rw [if_pos hreader] at h
    cases haddress : addressOf input c with
    | none =>
      simp only [haddress, Reading.pure_eq_ok] at h
      rw [h.2] at he
      cases he
    | some address =>
      simp only [haddress] at h
      obtain ⟨answer, first, rest, hfirst, hrest, rfl⟩ := Reading.bind_eq_ok.mp h
      obtain ⟨-, rfl⟩ := askFor_eq_ok.mp hfirst
      have hnil : rest = [] := by
        cases hanswer : truthy answer with
        | none =>
          simp only [hanswer, Reading.pure_eq_ok] at hrest
          exact hrest.2
        | some code =>
          simp only [hanswer] at hrest
          split at hrest <;> exact (Reading.pure_eq_ok.mp hrest).2
      rw [hnil, List.append_nil] at he
      obtain rfl := List.mem_singleton.mp he
      exact ⟨address, rfl⟩
  · rw [if_neg hreader, Reading.pure_eq_ok] at h
    rw [h.2] at he
    cases he

theorem codeChecks_read (h : codeChecks codeHash input c world past = .ok (checks, asked))
    (hok : ∀ k ∈ checks, k.ok = true) (hreader : c.chainId ∈ input.readers) {address : String}
    (haddress : addressOf input c = some address) : CodeRead codeHash asked c address := by
  unfold codeChecks at h
  rw [if_pos hreader] at h
  simp only [haddress] at h
  obtain ⟨answer, first, rest, hfirst, hrest, rfl⟩ := Reading.bind_eq_ok.mp h
  obtain ⟨-, rfl⟩ := askFor_eq_ok.mp hfirst
  cases hanswer : truthy answer with
  | none =>
    simp only [hanswer, Reading.pure_eq_ok] at hrest
    obtain ⟨rfl, -⟩ := hrest
    exact absurd (hok _ List.mem_cons_self) Bool.false_ne_true
  | some code =>
    simp only [hanswer] at hrest
    by_cases hempty : code = "0x"
    · rw [if_pos hempty, Reading.pure_eq_ok] at hrest
      obtain ⟨rfl, -⟩ := hrest
      exact absurd (hok _ List.mem_cons_self) Bool.false_ne_true
    · rw [if_neg hempty, Reading.pure_eq_ok] at hrest
      obtain ⟨rfl, rfl⟩ := hrest
      obtain rfl := eq_of_truthy hanswer
      refine ⟨code, List.mem_cons_self, ?_, hempty, fun pinned hpinned => ?_⟩
      · intro h0
        subst h0
        exact absurd hanswer (by decide)
      · have hfound := hok _ List.mem_cons_self
        simp only [codeFound, hpinned, check, checkOf, decide_eq_true_eq] at hfound
        exact hfound

/-- The policy check of an entry, where it is not left out: the one question it asks. -/
theorem policyChecks_eq_ok {entry : String × String} :
    policyChecks input entry world past = .ok (checks, asked) ↔
      (policyContract input entry.1 = none ∧ checks = [] ∧ asked = []) ∨
      ∃ c address enabled, policyContract input entry.1 = some (c, address) ∧
        world past (.readPolicyEnabled c.chainId address entry.2) = .ok enabled ∧
        checks = [checkOf ("policy-disabled:" ++ entry.1)
          ("ContextLock policy " ++ entry.2 ++ " must be DISABLED after deployment") "disabled"
          (if enabled then "ENABLED" else "disabled") (!enabled) .POLICY_ENABLED] ∧
        asked = [⟨.readPolicyEnabled c.chainId address entry.2, enabled⟩] := by
  unfold policyChecks
  cases hfound : policyContract input entry.1 with
  | none => simp
  | some found =>
    obtain ⟨c, address⟩ := found
    constructor
    · intro h
      obtain ⟨enabled, _, _, hask, hend, rfl⟩ := Reading.bind_eq_ok.mp h
      obtain ⟨hanswer, rfl⟩ := askFor_eq_ok.mp hask
      obtain ⟨rfl, rfl⟩ := Reading.pure_eq_ok.mp hend
      exact Or.inr ⟨c, address, enabled, rfl, hanswer, rfl, rfl⟩
    · intro h
      obtain ⟨hnone, -⟩ | ⟨c', address', enabled, hsome, hanswer, rfl, rfl⟩ := h
      · cases hnone
      · cases hsome
        exact Reading.bind_eq_ok.mpr ⟨enabled, _, [], askFor_eq_ok.mpr ⟨hanswer, rfl⟩,
          Reading.pure_eq_ok.mpr ⟨rfl, rfl⟩, rfl⟩

/-- The administrator check of a contract, where it is not left out. -/
theorem adminChecks_eq_ok :
    adminChecks input c world past = .ok (checks, asked) ↔
      (truthy c.address = none ∧ checks = [] ∧ asked = []) ∨
      ∃ address admins, truthy c.address = some address ∧
        world past (.readAdministrators c.chainId address) = .ok admins ∧
        checks = [checkOf ("admins:" ++ c.name) ("administrative roles on " ++ c.name)
          (listed input.expectedAdministrators) (listed (admins.map toLowerCase))
          (admins.all fun a => toLowerCase a ∈ input.expectedAdministrators) .UNEXPECTED_ADMIN] ∧
        asked = [⟨.readAdministrators c.chainId address, admins⟩] := by
  unfold adminChecks
  cases haddress : truthy c.address with
  | none => simp
  | some address =>
    constructor
    · intro h
      obtain ⟨admins, _, _, hask, hend, rfl⟩ := Reading.bind_eq_ok.mp h
      obtain ⟨hanswer, rfl⟩ := askFor_eq_ok.mp hask
      obtain ⟨rfl, rfl⟩ := Reading.pure_eq_ok.mp hend
      exact Or.inr ⟨address, admins, rfl, hanswer, rfl, rfl⟩
    · intro h
      obtain ⟨hnone, -⟩ | ⟨address', admins, hsome, hanswer, rfl, rfl⟩ := h
      · cases hnone
      · cases hsome
        exact Reading.bind_eq_ok.mpr ⟨admins, _, [], askFor_eq_ok.mpr ⟨hanswer, rfl⟩,
          Reading.pure_eq_ok.mpr ⟨rfl, rfl⟩, rfl⟩

theorem otherChecks_asks : (otherChecks input).Asks fun q => ¬ q.aboutContract := by
  unfold otherChecks
  refine .bind (.collect (fun e => ?_) _) fun ens => .bind (.collect (fun w => ?_) _) fun cre =>
    .bind (.collect (fun i => ?_) _) fun images => .bind ?_ fun adapters => .pure _
  · exact .bind (.ask id) fun bound => .pure _
  · refine .bind (.ask id) fun live => ?_
    cases live with
    | none => exact .pure _
    | some live => exact .pure _
  · exact .bind (.ask id) fun running => .pure _
  · exact .bind (.ask id) fun versions => .pure _

end One

/-! ## 5. A verification that passed -/

section Verified

variable {codeHash : String → String} {input : VerificationInput}
  {world : Oracle Question Question.Answer String} {past log : Log}
  {checks : List VerificationCheck}

/-- The four parts of a verification. -/
theorem verifyDeployment_eq_ok
    (h : verifyDeployment codeHash input world past = .ok (checks, log)) :
    ∃ code policies admins others logC logP logA logO before₁ before₂ before₃,
      Reading.collect (codeChecks codeHash input) input.manifest.contracts world past
        = .ok (code, logC) ∧
      Reading.collect (policyChecks input) input.policyIds.entries world before₁
        = .ok (policies, logP) ∧
      Reading.collect (adminChecks input) input.manifest.contracts world before₂
        = .ok (admins, logA) ∧
      otherChecks input world before₃ = .ok (others, logO) ∧
      checks = code ++ policies ++ admins ++ others ∧ log = logC ++ (logP ++ (logA ++ logO)) := by
  obtain ⟨code, logC, _, hcode, h₁, rfl⟩ := Reading.bind_eq_ok.mp h
  obtain ⟨policies, logP, _, hpolicies, h₂, rfl⟩ := Reading.bind_eq_ok.mp h₁
  obtain ⟨admins, logA, _, hadmins, h₃, rfl⟩ := Reading.bind_eq_ok.mp h₂
  obtain ⟨others, logO, _, hothers, h₄, rfl⟩ := Reading.bind_eq_ok.mp h₃
  obtain ⟨rfl, rfl⟩ := Reading.pure_eq_ok.mp h₄
  rw [List.append_nil]
  exact ⟨code, policies, admins, others, logC, logP, logA, logO, _, _, _, hcode, hpolicies,
    hadmins, hothers, rfl, rfl⟩

theorem all_ok (h : assertVerified checks = .ok ()) : ∀ k ∈ checks, k.ok = true := by
  intro k hk
  refine eq_true_of_ne_false fun hfalse => ?_
  have hmem : k ∈ checks.filter (!·.ok) := List.mem_filter.mpr ⟨hk, by rw [hfalse]; rfl⟩
  unfold assertVerified at h
  rw [if_pos (List.length_pos_of_mem hmem)] at h
  cases h

/-- **Where a question comes from.** -/
theorem asked_cases (h : verifyDeployment codeHash input world past = .ok (checks, log))
    {e : Asked Question Question.Answer} (he : e ∈ log) :
    (∃ chainId ∈ input.readers, ∃ address, e.1 = .getCode chainId address) ∨
    (∃ entry ∈ input.policyIds.entries, ∃ c address,
      policyContract input entry.1 = some (c, address)
      ∧ e.1 = .readPolicyEnabled c.chainId address entry.2) ∨
    (∃ c ∈ input.manifest.contracts, ∃ address, truthy c.address = some address
      ∧ e.1 = .readAdministrators c.chainId address) ∨ ¬ e.1.aboutContract := by
  obtain ⟨code, policies, admins, others, logC, logP, logA, logO, _, _, _, hcode, hpolicies,
    hadmins, hothers, -, rfl⟩ := verifyDeployment_eq_ok h
  rcases List.mem_append.mp he with he | he
  · obtain ⟨c, -, _, _, more, hf, hmore⟩ := Reading.mem_of_collect hcode he
    obtain ⟨hreader, address, hq⟩ := codeChecks_asked hf hmore
    exact Or.inl ⟨c.chainId, hreader, address, hq⟩
  rcases List.mem_append.mp he with he | he
  · obtain ⟨entry, hentry, _, _, more, hf, hmore⟩ := Reading.mem_of_collect hpolicies he
    obtain ⟨-, -, rfl⟩ | ⟨c, address, enabled, hfound, -, -, rfl⟩ := policyChecks_eq_ok.mp hf
    · cases hmore
    · obtain rfl := List.mem_singleton.mp hmore
      exact Or.inr (Or.inl ⟨entry, hentry, c, address, hfound, rfl⟩)
  rcases List.mem_append.mp he with he | he
  · obtain ⟨c, hc, _, _, more, hf, hmore⟩ := Reading.mem_of_collect hadmins he
    obtain ⟨-, -, rfl⟩ | ⟨address, admins, haddress, -, -, rfl⟩ := adminChecks_eq_ok.mp hf
    · cases hmore
    · obtain rfl := List.mem_singleton.mp hmore
      exact Or.inr (Or.inr (Or.inl ⟨c, hc, address, haddress, rfl⟩))
  · exact Or.inr (Or.inr (Or.inr (otherChecks_asks _ _ _ _ hothers e he)))

theorem code_read (h : verifyDeployment codeHash input world past = .ok (checks, log))
    (hok : ∀ k ∈ checks, k.ok = true) {c : ManifestContract} (hc : c ∈ input.manifest.contracts)
    (hreader : c.chainId ∈ input.readers) {address : String}
    (haddress : addressOf input c = some address) : CodeRead codeHash log c address := by
  obtain ⟨code, policies, admins, others, logC, logP, logA, logO, _, _, _, hcode, -, -, -, rfl,
    rfl⟩ := verifyDeployment_eq_ok h
  obtain ⟨_, own, more, hf, hown, hmore⟩ := Reading.of_collect hcode hc
  have hownOk : ∀ k ∈ own, k.ok = true := fun k hk => hok k (by simp [hown k hk])
  obtain ⟨text, hasked, hrest⟩ := codeChecks_read hf hownOk hreader haddress
  exact ⟨text, List.mem_append_left _ (hmore _ hasked), hrest⟩

/-- **Policies.** -/
theorem policy_read (h : verifyDeployment codeHash input world past = .ok (checks, log))
    (hok : ∀ k ∈ checks, k.ok = true) {entry : String × String}
    (hentry : entry ∈ input.policyIds.entries) {c : ManifestContract} {address : String}
    (hfound : policyContract input entry.1 = some (c, address)) :
    ⟨.readPolicyEnabled c.chainId address entry.2, false⟩ ∈ log := by
  obtain ⟨code, policies, admins, others, logC, logP, logA, logO, _, _, _, -, hpolicies, -, -,
    rfl, rfl⟩ := verifyDeployment_eq_ok h
  obtain ⟨_, own, more, hf, hown, hmore⟩ := Reading.of_collect hpolicies hentry
  obtain ⟨hnone, -⟩ | ⟨c', address', enabled, hsome, -, rfl, rfl⟩ := policyChecks_eq_ok.mp hf
  · rw [hfound] at hnone
    cases hnone
  · rw [hfound] at hsome
    cases hsome
    have hdisabled : (!enabled) = true := hok _ (List.mem_append_left _
      (List.mem_append_left _ (List.mem_append_right _ (hown _ List.mem_cons_self))))
    obtain rfl : enabled = false := by simpa using hdisabled
    exact List.mem_append_right _ (List.mem_append_left _ (hmore _ List.mem_cons_self))

theorem admins_read (h : verifyDeployment codeHash input world past = .ok (checks, log))
    (hok : ∀ k ∈ checks, k.ok = true) {c : ManifestContract} (hc : c ∈ input.manifest.contracts)
    {address : String} (haddress : truthy c.address = some address) :
    AdminsRead input log c address := by
  obtain ⟨code, policies, admins, others, logC, logP, logA, logO, _, _, _, -, -, hadmins, -, rfl,
    rfl⟩ := verifyDeployment_eq_ok h
  obtain ⟨_, own, more, hf, hown, hmore⟩ := Reading.of_collect hadmins hc
  obtain ⟨hnone, -⟩ | ⟨address', names, hsome, -, rfl, rfl⟩ := adminChecks_eq_ok.mp hf
  · rw [haddress] at hnone
    cases hnone
  · rw [haddress] at hsome
    cases hsome
    have hexpected : (names.all fun a => toLowerCase a ∈ input.expectedAdministrators) = true :=
      hok _ (List.mem_append_left _ (List.mem_append_right _ (hown _ List.mem_cons_self)))
    refine ⟨names, ?_, fun a ha => of_decide_eq_true (List.all_eq_true.mp hexpected a ha)⟩
    exact List.mem_append_right _
      (List.mem_append_right _ (List.mem_append_left _ (hmore _ List.mem_cons_self)))

/-- **When a verification that passed has verified every contract**: exactly when every contract
    is in reach. -/
theorem verified_iff (h : verifyDeployment codeHash input world [] = .ok (checks, log))
    (hpass : assertVerified checks = .ok ()) :
    (∀ c ∈ input.manifest.contracts, ContractVerified codeHash input log c) ↔
      ∀ c ∈ input.manifest.contracts, ∃ address, InReach input c address := by
  have hok := all_ok hpass
  constructor
  · intro hverified c hc
    obtain ⟨address, hknown, ⟨text, htext, -⟩, ⟨names, hnames, -⟩, hpol⟩ := hverified c hc
    refine ⟨address, hknown, ?_, ?_, fun policyId hid => ?_⟩
    · obtain ⟨chainId, hreader, a, hq⟩ | ⟨_, _, _, _, _, hq⟩ | ⟨_, _, _, _, hq⟩ | hq :=
        asked_cases h htext
      · cases hq
        exact hreader
      · cases hq
      · cases hq
      · exact absurd trivial hq
    · obtain ⟨_, _, _, hq⟩ | ⟨_, _, _, _, _, hq⟩ | ⟨c', hc', a, haddress, hq⟩ | hq :=
        asked_cases h hnames
      · cases hq
      · cases hq
      · injection hq with hchain ha
        exact ⟨c', hc', hchain.symm, by rw [haddress, ha]⟩
      · exact absurd trivial hq
    · obtain ⟨_, _, _, hq⟩ | ⟨entry, hentry, c', a, hfound, hq⟩ | ⟨_, _, _, _, hq⟩ | hq :=
        asked_cases h (hpol policyId hid)
      · cases hq
      · injection hq with hchain ha hentryId
        refine ⟨entry.1, c', ?_, by rw [hfound, ha], hchain.symm⟩
        rw [hentryId]
        exact hentry
      · cases hq
      · exact absurd trivial hq
  · intro hreach c hc
    obtain ⟨address, hknown, hreader, ⟨c', hc', hchain, haddress⟩, hpol⟩ := hreach c hc
    refine ⟨address, hknown, code_read h hok hc hreader hknown, ?_, fun policyId hid => ?_⟩
    · obtain ⟨names, hasked, hexpected⟩ := admins_read h hok hc' haddress
      rw [hchain] at hasked
      exact ⟨names, hasked, hexpected⟩
    · obtain ⟨name, c₂, hentry, hfound, hchain₂⟩ := hpol policyId hid
      have hasked := policy_read h hok hentry hfound
      rw [hchain₂] at hasked
      exact hasked

end Verified

/-! ## 6. A contract and its readers -/

/-- A verification of one contract that was there before, with the readers of some chains. -/
def oneContract (readers : List Nat) : VerificationInput where
  manifest := { Deploy.oneContract none with
    contracts := [⟨"core", 11155111, .REUSE_VERIFIED, some "0xc0", some "0xAB", none, none⟩] }
  readers := readers
  createdAddresses := .empty
  expectedAdministrators := ["0xad"]
  policyIds := .ofEntries [("core", "0x01")]

/-- A world where everything is as it is to be. -/
def goodWorld : Oracle Question Question.Answer String := fun _ q =>
  match q with
  | .getCode _ _ => .ok (some "0x6000")
  | .readPolicyEnabled _ _ _ => .ok false
  | .readAdministrators _ _ => .ok ["0xAD"]
  | .resolveEnsBinding _ _ => .ok none
  | .readCreWorkflow _ => .ok none
  | .readRuntimeImageDigest _ => .ok none
  | .readAdapterVersions => .ok .empty

/-- **A verification that passes without reading the code**: no reader is configured for the
    contract's chain, and nothing at all is checked of its code. -/
theorem verified_unread : ∃ checks log,
    verifyDeployment (fun _ => "0xff") (oneContract []) goodWorld [] = .ok (checks, log) ∧
      assertVerified checks = .ok () ∧
      ∃ c ∈ (oneContract []).manifest.contracts,
        ¬ ContractVerified (fun _ => "0xff") (oneContract []) log c := by
  refine ⟨_, _, rfl, rfl, _, List.mem_cons_self, fun h => ?_⟩
  obtain ⟨address, -, ⟨code, hcode, -⟩, -⟩ := h
  simp at hcode

/-- With a reader, the same verification has verified the contract. -/
theorem verified_read : ∃ checks log,
    verifyDeployment (fun _ => "0xab") (oneContract [11155111]) goodWorld [] = .ok (checks, log) ∧
      ∀ c ∈ (oneContract [11155111]).manifest.contracts,
        ContractVerified (fun _ => "0xab") (oneContract [11155111]) log c := by
  refine ⟨_, _, rfl, (@verified_iff _ _ goodWorld _ _ rfl rfl).mpr fun c hc => ?_⟩
  obtain rfl := List.mem_singleton.mp hc
  refine ⟨"0xc0", rfl, List.mem_cons_self, ⟨_, List.mem_cons_self, rfl, rfl⟩, ?_⟩
  intro policyId hid
  exact ⟨"core", _, hid, rfl, rfl⟩

end ContextLock.Orchestrator
