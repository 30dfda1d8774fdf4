/-
  Subject:   Runs of an issuer and a verifier of runtime tokens.

  Keys are added, tokens are issued, sessions are revoked and any texts are presented, in any
  order. The verifier holds any public keys. The state also remembers what was signed and what
  was accepted once.
-/
import ContextLock.Machine.Transition
import ContextLock.Runtime.Identity

namespace ContextLock.Runtime

open Evm Js Machine

/-! ## 1. Sessions -/

theorem length_le_textLength (s : String) : s.toList.length ≤ textLength s := by
  unfold textLength codeUnits
  induction s.toList with
  | nil => exact Nat.zero_le _
  | cons c cs ih =>
    rw [List.flatMap_cons, List.length_append, List.length_cons]
    split_ifs
    · rw [List.length_singleton]
      omega
    · simp only [List.length_cons, List.length_nil]
      omega

theorem toList_randomUUID (bits : Nat) :
    (randomUUID bits).toList = hexDigits 8 (bits / 2 ^ 96) ++ ('-' :: hexDigits 4 (bits / 2 ^ 80))
      ++ ('-' :: hexDigits 4 (bits / 2 ^ 64)) ++ ('-' :: hexDigits 4 (bits / 2 ^ 48))
      ++ ('-' :: hexDigits 12 bits) := by
  rw [randomUUID, String.toList_ofList, uuidDigits]
  simp [List.intercalate]

theorem colon_not_mem_randomUUID (bits : Nat) : ':' ∉ (randomUUID bits).toList := by
  have hhex : ∀ {k n : Nat}, ':' ∉ hexDigits k n := by
    intro k n hmem
    have hdigit := lowerHexDigit_of_mem _ hmem
    exact absurd hdigit (by unfold LowerHexDigit; decide)
  rw [toList_randomUUID]
  simp [hhex]

theorem sized_randomUUID (bits : Nat) : sized 8 (randomUUID bits) = true := by
  have hlength := length_le_textLength (randomUUID bits)
  rw [toList_randomUUID] at hlength
  simp only [List.length_append, List.length_cons, length_hexDigits] at hlength
  exact decide_eq_true (by omega)

theorem sized_randomNonce (bits : Nat) : sized 16 (randomNonce bits) = true := by
  have htext : (randomNonce bits).toList = (uuidDigits bits).flatten := String.toList_ofList
  have hlength := length_le_textLength (randomNonce bits)
  rw [htext, List.length_flatten] at hlength
  simp only [uuidDigits, List.map_cons, List.map_nil, List.sum_cons, List.sum_nil,
    length_hexDigits] at hlength
  exact decide_eq_true (by omega)

theorem sized_one {s : String} (h : s ≠ "") : sized 1 s = true := by
  have hlength := length_le_textLength s
  have hne : s.toList ≠ [] := fun hnil => h (by rw [← String.ofList_toList (s := s), hnil])
  have hpos := List.length_pos_of_ne_nil hne
  exact decide_eq_true (by omega)

/-! ## 2. The system -/

variable {ed : Ed25519} {nearest : Rounding}

structure System (ed : Ed25519) where
  issuer : RuntimeTokenIssuer ed
  verifier : RuntimeTokenVerifier
  /-- What was signed so far. -/
  issued : List (Issued ed)
  /-- The session and the nonce of each request that `verifyOnce` accepted. -/
  accepted : List (String × String)

/-- A new issuer, and a new verifier with these public keys. -/
def System.start (publicKeys : Map String) : System ed :=
  ⟨RuntimeTokenIssuer.new, RuntimeTokenVerifier.new publicKeys, [], []⟩

inductive Call (ed : Ed25519) where
  | addKey (key : SigningKey ed) (makeActive : Bool)
  | issue (args : IssueArgs) (session nonce : Nat)
  | revokeSession (sessionId : String)
  | verify (token : String) (ctx : VerificationContext)
  | verifyOnce (token : String) (ctx : VerificationContext) (requestNonce : String)

/-- The state after `verifyOnce`. -/
def System.once (nearest : Rounding) (s : System ed) (token : String) (ctx : VerificationContext)
    (requestNonce : String) : System ed :=
  match s.verifier.verifyOnce ed nearest token ctx requestNonce with
  | (.error _, v) => { s with verifier := v }
  | (.ok claims, v) =>
    { s with verifier := v, accepted := s.accepted ++ [(claims.sessionId, requestNonce)] }

def step (nearest : Rounding) (s : System ed) : Call ed → Option (System ed)
  | .addKey key makeActive => some { s with issuer := s.issuer.addKey key makeActive }
  | .issue args session nonce =>
    match s.issuer.issue args session nonce with
    | .error _ => some s
    | .ok i => some { s with issued := s.issued ++ [i] }
  | .revokeSession sessionId => some { s with verifier := s.verifier.revokeSession sessionId }
  | .verify _ _ => some s
  | .verifyOnce token ctx requestNonce => some (s.once nearest token ctx requestNonce)

/-! ## 3. The law -/

/-- **Ed25519 is not forged by this text**: a signature in it that verifies under a key of the
    verifier is over what the issuer signed with that key. -/
def Unforged (s : System ed) (token : String) : Prop :=
  ∀ p sig kid pem message, token.toList.splitOn '.' = [p, sig] →
    s.verifier.publicKeys.get? kid = some pem →
    ed.verify pem message (unb64u (String.ofList sig)) = true →
    ∃ i ∈ s.issued, i.key.publicKeyPem = pem ∧ i.claims.payload = message

/-- The verifier knows the key of these claims. -/
def Known (s : System ed) (i : Issued ed) : Prop :=
  s.verifier.publicKeys.get? i.claims.kid = some i.key.publicKeyPem

/-- What runtime tokens are for. -/
structure Lawful (nearest : Rounding) (s : System ed) : Prop where
  /-- What is accepted was signed with a known key, claim by claim, and is admitted. -/
  sound : ∀ token ctx claims, Unforged s token →
    s.verifier.verify ed nearest token ctx = .ok claims →
    (∃ i ∈ s.issued, i.claims = claims ∧ Known s i) ∧ s.verifier.Admits ctx claims
  /-- What was issued is accepted wherever it is admitted. -/
  complete : ∀ i ∈ s.issued, Known s i → ∀ ctx, s.verifier.Admits ctx i.claims →
    s.verifier.verify ed nearest i.token ctx = .ok i.claims
  /-- No request is accepted twice. -/
  unreplayed : s.accepted.Nodup
  /-- A request is held up only by itself. -/
  unblocked : ∀ token ctx claims requestNonce, Unforged s token →
    s.verifier.verify ed nearest token ctx = .ok claims →
    ((s.verifier.verifyOnce ed nearest token ctx requestNonce).1 = .ok claims ↔
      (claims.sessionId, requestNonce) ∉ s.accepted)

/-- The arguments fit the schema of the claims. -/
structure IssueArgs.Fits (args : IssueArgs) : Prop where
  deploymentId : args.deploymentId ≠ ""
  agentId : args.agentId ≠ ""
  blueprintHash : isDigest args.blueprintHash = true
  imageDigest : isDigest args.imageDigest = true
  issued : 0 < args.nowMs ∧ args.nowMs < 2 ^ 53
  expires : 0 < args.nowMs + args.ttlMs ∧ args.nowMs + args.ttlMs < 2 ^ 53

/-! ## 4. The invariant -/

theorem fits_claims {args : IssueArgs} (h : args.Fits) {kid : String} (hkid : kid ≠ "")
    (session nonce : Nat) (haudiences : args.audiences ≠ []) :
    (args.claims kid session nonce).Fits where
  deploymentId := sized_one h.deploymentId
  agentId := sized_one h.agentId
  blueprintHash := h.blueprintHash
  imageDigest := h.imageDigest
  audiences := haudiences
  issuedAtMs := h.issued
  expiresAtMs := h.expires
  sessionId := sized_randomUUID session
  nonce := sized_randomNonce nonce
  kid := sized_one hkid

/-- What is known of a token that was issued. -/
structure Signed (i : Issued ed) : Prop where
  token : i.token = tokenText i.claims.payload (ed.sign i.key.privateKeyPem i.claims.payload)
  fits : i.claims.audiences ≠ [] → i.claims.Fits
  session : ':' ∉ i.claims.sessionId.toList

structure Inv (s : System ed) : Prop where
  signed : ∀ i ∈ s.issued, Signed i
  sessions : ∀ p ∈ s.accepted, ':' ∉ p.1.toList
  seen : ∀ key, (s.verifier.seenNonces.get? key).isSome ↔
    ∃ p ∈ s.accepted, RuntimeTokenVerifier.nonceKey p.1 p.2 = key
  unreplayed : s.accepted.Nodup

theorem nonceKey_inj {a b x y : String} (ha : ':' ∉ a.toList) (hb : ':' ∉ b.toList)
    (h : RuntimeTokenVerifier.nonceKey a x = RuntimeTokenVerifier.nonceKey b y) :
    a = b ∧ x = y := by
  have hcolon : ":".toList = [':'] := rfl
  have hlist := congrArg (List.splitOn ':' ∘ String.toList) h
  simp only [Function.comp_apply, RuntimeTokenVerifier.nonceKey, String.toList_append, hcolon,
    List.append_assoc, List.singleton_append] at hlist
  rw [List.splitOn_append_cons_of_beq _ _ (beq_self_eq_true ':'),
    List.splitOn_append_cons_of_beq _ _ (beq_self_eq_true ':'), List.splitOn_eq_singleton ha,
    List.splitOn_eq_singleton hb, List.singleton_append, List.singleton_append] at hlist
  obtain rfl : a = b := String.toList_inj.mp (List.cons.inj hlist).1
  have htail := congrArg String.toList h
  simp only [RuntimeTokenVerifier.nonceKey, String.toList_append, List.append_assoc] at htail
  have hrest := List.append_cancel_left (List.append_cancel_left htail)
  exact ⟨rfl, String.toList_inj.mp hrest⟩

theorem sound_of_unforged {s : System ed} {token : String} {ctx : VerificationContext}
    {claims : RuntimeTokenClaims} (hfresh : Unforged s token)
    (h : s.verifier.verify ed nearest token ctx = .ok claims) :
    (∃ i ∈ s.issued, i.claims = claims ∧ Known s i) ∧ s.verifier.Admits ctx claims := by
  obtain ⟨⟨p, sig, pem, hsplit, hpem, hverifies⟩, hadmits⟩ := verify_sound h
  obtain ⟨i, hi, hkey, hpayload⟩ := hfresh p sig claims.kid pem claims.payload hsplit hpem hverifies
  have hclaims : i.claims = claims := payload_inj hpayload
  refine ⟨⟨i, hi, hclaims, ?_⟩, hadmits⟩
  rw [Known, hclaims, hpem, hkey]

theorem Inv.seen_iff {s : System ed} (hs : Inv s) (requestNonce : String) {session : String}
    (hsession : ':' ∉ session.toList) :
    (s.verifier.seenNonces.get? (RuntimeTokenVerifier.nonceKey session requestNonce)).isSome ↔
      (session, requestNonce) ∈ s.accepted := by
  rw [hs.seen]
  constructor
  · rintro ⟨p, hp, hkey⟩
    obtain ⟨hfst, hsnd⟩ := nonceKey_inj (hs.sessions p hp) hsession hkey
    rwa [← hfst, ← hsnd]
  · intro hmem
    exact ⟨_, hmem, rfl⟩

/-- **The invariant gives the law.** -/
theorem Inv.lawful {s : System ed} (hs : Inv s) : Lawful nearest s where
  sound := fun _ _ _ hfresh h => sound_of_unforged hfresh h
  complete := by
    intro i hi hknown ctx hadmits
    have hsigned := hs.signed i hi
    rw [hsigned.token]
    exact verify_issued (hsigned.fits (List.ne_nil_of_mem hadmits.audience)) hknown hadmits
  unreplayed := hs.unreplayed
  unblocked := by
    intro token ctx claims requestNonce hfresh hverify
    obtain ⟨⟨i, hi, hclaims, _⟩, _⟩ := sound_of_unforged hfresh hverify
    have hsession := hclaims ▸ (hs.signed i hi).session
    have hseen := hs.seen_iff requestNonce hsession
    unfold RuntimeTokenVerifier.verifyOnce
    rw [hverify]
    simp only []
    by_cases hmem : (claims.sessionId, requestNonce) ∈ s.accepted
    · rw [if_pos (hseen.mpr hmem)]
      exact ⟨fun h => (by cases h), fun h => absurd hmem h⟩
    · rw [if_neg fun h => hmem (hseen.mp h)]
      exact ⟨fun _ => hmem, fun _ => rfl⟩

theorem accepted_once {s : System ed} {token : String} {ctx : VerificationContext}
    {claims : RuntimeTokenClaims} {requestNonce : String}
    (h : s.verifier.verify ed nearest token ctx = .ok claims)
    (hnew : s.verifier.seenNonces.get?
      (RuntimeTokenVerifier.nonceKey claims.sessionId requestNonce) = none) :
    (s.once nearest token ctx requestNonce).accepted
      = s.accepted ++ [(claims.sessionId, requestNonce)] := by
  unfold System.once RuntimeTokenVerifier.verifyOnce
  rw [h]
  simp only [hnew]
  rfl

/-! ## 5. Runs -/

/-- What is presented is not forged. -/
def Fresh (s : System ed) : Call ed → Prop
  | .verify token _ => Unforged s token
  | .verifyOnce token _ _ => Unforged s token
  | _ => True

def Call.Fits : Call ed → Prop
  | .issue args _ _ => args.Fits
  | _ => True

noncomputable instance instDecidableFresh (s : System ed) (c : Call ed) : Decidable (Fresh s c) :=
  Classical.propDecidable _

noncomputable instance instDecidableFitsFresh (s : System ed) (c : Call ed) :
    Decidable (c.Fits ∧ Fresh s c) :=
  Classical.propDecidable _

theorem inv_start (publicKeys : Map String) : Inv (.start publicKeys : System ed) where
  signed := fun i hi => by cases hi
  sessions := fun p hp => by cases hp
  seen := fun key => by
    refine ⟨fun h => (by cases h), ?_⟩
    rintro ⟨p, hp, _⟩
    cases hp
  unreplayed := List.nodup_nil

theorem inv_once {s : System ed} (hs : Inv s) {token : String} {ctx : VerificationContext}
    {requestNonce : String} (hfresh : Unforged s token) :
    Inv (s.once nearest token ctx requestNonce) := by
  unfold System.once RuntimeTokenVerifier.verifyOnce
  cases hverify : s.verifier.verify ed nearest token ctx with
  | error e => exact hs
  | ok claims =>
    obtain ⟨⟨i, hi, hclaims, _⟩, _⟩ := sound_of_unforged hfresh hverify
    have hsession := hclaims ▸ (hs.signed i hi).session
    have hseen := hs.seen_iff requestNonce hsession
    simp only []
    by_cases hmem : (claims.sessionId, requestNonce) ∈ s.accepted
    · rw [if_pos (hseen.mpr hmem)]
      exact hs
    · rw [if_neg fun h => hmem (hseen.mp h)]
      refine ⟨hs.signed, ?_, ?_, ?_⟩
      · intro p hp
        rcases List.mem_append.mp hp with hp | hp
        · exact hs.sessions p hp
        · rw [List.mem_singleton.mp hp]
          exact hsession
      · intro key
        change ((s.verifier.seenNonces.set _ _).get? key).isSome ↔ _
        rw [Map.get?_set]
        by_cases hkey : key = RuntimeTokenVerifier.nonceKey claims.sessionId requestNonce
        · rw [if_pos hkey]
          refine ⟨fun _ => ⟨_, List.mem_append_right _ List.mem_cons_self, hkey.symm⟩, fun _ => rfl⟩
        · rw [if_neg hkey, hs.seen]
          constructor
          · rintro ⟨p, hp, hpkey⟩
            exact ⟨p, List.mem_append_left _ hp, hpkey⟩
          · rintro ⟨p, hp, hpkey⟩
            rcases List.mem_append.mp hp with hp | hp
            · exact ⟨p, hp, hpkey⟩
            · rw [List.mem_singleton.mp hp] at hpkey
              exact absurd hpkey.symm hkey
      · exact List.nodup_append.mpr ⟨hs.unreplayed, List.nodup_singleton _, fun a ha b hb => by
          rw [List.mem_singleton.mp hb]
          exact fun heq => hmem (heq ▸ ha)⟩

/-- **One call keeps the invariant.** -/
theorem inv_step {s s' : System ed} {c : Call ed} (hs : Inv s)
    (h : guarded (step nearest) (fun s c => c.Fits ∧ Fresh s c) s c = some s') : Inv s' := by
  obtain ⟨⟨hfits, hfresh⟩, hstep⟩ := guarded_eq_some.mp h
  cases c with
  | addKey key makeActive | revokeSession sessionId =>
    cases hstep
    exact ⟨hs.signed, hs.sessions, hs.seen, hs.unreplayed⟩
  | issue args session nonce =>
    rw [step] at hstep
    cases hissue : s.issuer.issue args session nonce with
    | error e =>
      rw [hissue] at hstep
      cases hstep
      exact hs
    | ok i =>
      rw [hissue] at hstep
      cases hstep
      obtain ⟨hkid, hclaims, htoken⟩ := issue_eq_ok hissue
      refine ⟨fun j hj => ?_, hs.sessions, hs.seen, hs.unreplayed⟩
      rcases List.mem_append.mp hj with hj | hj
      · exact hs.signed j hj
      · rw [List.mem_singleton.mp hj]
        refine ⟨htoken, ?_, ?_⟩
        · rw [hclaims]
          exact fits_claims hfits hkid session nonce
        · rw [hclaims]
          exact colon_not_mem_randomUUID session
  | verify token ctx =>
    cases hstep
    exact hs
  | verifyOnce token ctx requestNonce =>
    cases hstep
    exact inv_once hs hfresh

/-- **Runtime tokens authenticate and are not replayed**, in every run in which `issue` is given
    arguments that fit the schema of the claims. -/
theorem tokens_authenticate {publicKeys : Map String} {s : System ed}
    (h : Reaches (guarded (step nearest) fun s c => c.Fits ∧ Fresh s c) (.start publicKeys) s) :
    Lawful nearest s :=
  (Reaches.invariant (fun _ _ _ hs hstep => inv_step hs hstep) h (inv_start publicKeys)).lawful

/-- From `s` to `s'` the sessions revoked in `s` stay revoked and have no request accepted. -/
structure KeepsOut (s s' : System ed) : Prop where
  revoked : s.verifier.revokedSessions ⊆ s'.verifier.revokedSessions
  accepted : ∀ p ∈ s'.accepted, p.1 ∈ s.verifier.revokedSessions → p ∈ s.accepted

theorem KeepsOut.refl (s : System ed) : KeepsOut s s := ⟨List.Subset.refl _, fun _ h _ => h⟩

theorem keepsOut_step {s s' : System ed} {c : Call ed} (h : step nearest s c = some s') :
    KeepsOut s s' := by
  cases c with
  | addKey key makeActive =>
    cases h
    exact ⟨List.Subset.refl _, fun _ h _ => h⟩
  | issue args session nonce =>
    rw [step] at h
    split at h <;> cases h <;> exact ⟨List.Subset.refl _, fun _ h _ => h⟩
  | revokeSession sessionId =>
    cases h
    exact ⟨List.subset_append_left _ _, fun _ h _ => h⟩
  | verify token ctx =>
    cases h
    exact .refl s
  | verifyOnce token ctx requestNonce =>
    cases h
    unfold System.once RuntimeTokenVerifier.verifyOnce
    cases hverify : s.verifier.verify ed nearest token ctx with
    | error e => exact .refl s
    | ok claims =>
      simp only []
      by_cases hseen : (s.verifier.seenNonces.get?
          (RuntimeTokenVerifier.nonceKey claims.sessionId requestNonce)).isSome
      · rw [if_pos hseen]
        exact .refl s
      · rw [if_neg hseen]
        refine ⟨List.Subset.refl _, fun p hp hrevoked => ?_⟩
        rcases List.mem_append.mp hp with hold | hnew
        · exact hold
        · rw [List.mem_singleton.mp hnew] at hrevoked
          exact absurd hrevoked (verify_sound hverify).2.unrevoked

/-- **A revocation is final**: in every later state, whatever is issued, added or forged, no token
    of the session verifies, and no request of it is accepted any more. -/
theorem session_revocation_final {s s' : System ed} {sessionId : String}
    (hrevoked : sessionId ∈ s.verifier.revokedSessions) (h : Reaches (step nearest) s s') :
    (∀ token ctx claims, s'.verifier.verify ed nearest token ctx = .ok claims →
      claims.sessionId ≠ sessionId) ∧
    ∀ p ∈ s'.accepted, p.1 = sessionId → p ∈ s.accepted := by
  have hkeeps : KeepsOut s s' := h.invariant (P := KeepsOut s)
    (fun _ _ _ hs hstep => ⟨fun _ hr => (keepsOut_step hstep).revoked (hs.revoked hr),
      fun p hp hr => hs.accepted p ((keepsOut_step hstep).accepted p hp (hs.revoked hr)) hr⟩)
    (.refl s)
  refine ⟨fun token ctx claims hverify hid => ?_, fun p hp hid => ?_⟩
  · exact (verify_sound hverify).2.unrevoked (hid ▸ hkeeps.revoked hrevoked)
  · exact hkeeps.accepted p hp (hid ▸ hrevoked)

/-! ## 6. Instances -/

/-- A signature scheme that writes the key before the message. -/
def sampleEd25519 : Ed25519 where
  sign := fun secret m => textBytes secret ++ m
  verify := fun pem m signature => signature = textBytes pem ++ m
  Pair := fun secret pem => secret = pem ∧ pem ≠ ""
  verify_sign := fun h m => by rw [h.1]; exact decide_eq_true rfl
  pem_ne_empty := fun h => h.2

def sampleKey : SigningKey sampleEd25519 := ⟨"k_1", "pem-1", "pem-1", rfl, by decide⟩

def samplePublicKeys : Map String := Map.empty.set "k_1" "pem-1"

def sampleRounding : Rounding := fun _ _ _ => .nan

def sampleArgs (imageDigest : String) : IssueArgs where
  deploymentId := "dep_1"
  agentId := "agent_1"
  organizationId := none
  blueprintHash := "sha256:aaaaaaaaaaaaaaaaaaaaaaaaaaaaaaaaaaaaaaaaaaaaaaaaaaaaaaaaaaaaaaaa"
  imageDigest := imageDigest
  audiences := [.MODEL]
  nowMs := 1700000000000
  ttlMs := 900000
  others := []

def sampleContext (imageDigest : String) : VerificationContext where
  expectedAgentId := "agent_1"
  expectedDeploymentId := "dep_1"
  expectedImageDigest := imageDigest
  audience := .MODEL
  nowMs := 1700000000001

def taggedImage : String := "contextlock/agent-runtime:1.0.0"

def digestedImage : String :=
  "sha256:bbbbbbbbbbbbbbbbbbbbbbbbbbbbbbbbbbbbbbbbbbbbbbbbbbbbbbbbbbbbbbbb"

def sampleIssuer : RuntimeTokenIssuer sampleEd25519 := RuntimeTokenIssuer.new.addKey sampleKey true

def sampleClaims (imageDigest : String) : RuntimeTokenClaims :=
  (sampleArgs imageDigest).claims "k_1" 1 2

def sampleIssued (imageDigest : String) : Issued sampleEd25519 where
  key := sampleKey
  claims := sampleClaims imageDigest
  token := tokenText (sampleClaims imageDigest).payload
    (textBytes "pem-1" ++ (sampleClaims imageDigest).payload)

def sampleState (imageDigest : String) : System sampleEd25519 where
  issuer := sampleIssuer
  verifier := RuntimeTokenVerifier.new samplePublicKeys
  issued := [sampleIssued imageDigest]
  accepted := []

theorem issue_sample (imageDigest : String) :
    sampleIssuer.issue (sampleArgs imageDigest) 1 2 = .ok (sampleIssued imageDigest) := by
  unfold RuntimeTokenIssuer.issue
  have hactive : sampleIssuer.active = some "k_1" := rfl
  have hkey : sampleIssuer.keys.get? "k_1" = some sampleKey := rfl
  rw [hactive]
  simp only []
  rw [if_neg (by decide), hkey]
  have hforbidden : (FORBIDDEN_TOKEN_CLAIMS.any fun forbidden =>
      forbidden ∈ (sampleArgs imageDigest).others) = false := rfl
  simp only [canonical_claims, hforbidden]
  rfl

/-- Any guard lets a key and this token through that lets their calls through. -/
theorem reaches_sample {guard : System sampleEd25519 → Call sampleEd25519 → Prop}
    [∀ s c, Decidable (guard s c)] {imageDigest : String}
    (hkey : ∀ s, guard s (.addKey sampleKey true))
    (hissue : ∀ s, guard s (.issue (sampleArgs imageDigest) 1 2)) :
    Reaches (guarded (step sampleRounding) guard) (.start samplePublicKeys)
      (sampleState imageDigest) := by
  refine Reaches.head (guarded_eq_some.mpr ⟨hkey _, rfl⟩) ?_
  refine Reaches.head (guarded_eq_some.mpr ⟨hissue _, ?_⟩) (Reaches.refl _)
  have hstep : step sampleRounding ⟨sampleIssuer, RuntimeTokenVerifier.new samplePublicKeys, [], []⟩
      (.issue (sampleArgs imageDigest) 1 2) = some (sampleState imageDigest) := by
    rw [step, issue_sample]
    rfl
  exact hstep

theorem unforged_sample (imageDigest : String) :
    Unforged (sampleState imageDigest) (sampleIssued imageDigest).token := by
  intro p sig kid pem message hsplit hpem hverifies
  have htoken : (sampleIssued imageDigest).token = tokenText (sampleClaims imageDigest).payload
      (textBytes "pem-1" ++ (sampleClaims imageDigest).payload) := rfl
  rw [htoken, splitOn_tokenText] at hsplit
  have hsig : sig = (b64u (textBytes "pem-1" ++ (sampleClaims imageDigest).payload)).toList :=
    ((List.cons.inj (List.cons.inj hsplit).2).1).symm
  have hkey : pem = "pem-1" := by
    obtain ⟨e, he, _, hvalue⟩ := Map.mem_of_get? _ hpem
    have hentry : e = ("k_1", "pem-1") := List.mem_singleton.mp he
    rw [← hvalue, hentry]
  have hbytes : unb64u (String.ofList sig) = textBytes pem ++ message := of_decide_eq_true hverifies
  rw [hsig, String.ofList_toList, unb64u_b64u, hkey] at hbytes
  exact ⟨sampleIssued imageDigest, List.mem_cons_self, hkey.symm, List.append_cancel_left hbytes⟩

theorem fits_sampleArgs : (sampleArgs digestedImage).Fits :=
  ⟨by decide, by decide, by decide, by decide, by decide, by decide⟩

theorem verify_sample : (RuntimeTokenVerifier.new samplePublicKeys).verify sampleEd25519
    sampleRounding (sampleIssued digestedImage).token (sampleContext digestedImage)
    = .ok (sampleClaims digestedImage) := by
  have hadmits : (RuntimeTokenVerifier.new samplePublicKeys).Admits (sampleContext digestedImage)
      (sampleClaims digestedImage) :=
    ⟨rfl, rfl, rfl, by decide, by decide, by decide, List.not_mem_nil⟩
  have hclaims : (sampleClaims digestedImage).Fits :=
    fits_claims fits_sampleArgs (by decide) 1 2 (by decide)
  exact @verify_issued _ _ _ _ sampleKey _ hclaims rfl hadmits

/-- The law along a run that issues a token for an image with a digest and accepts a request. -/
theorem tokens_authenticate_sample : ∃ s : System sampleEd25519,
    s.accepted = [(randomUUID 1, "request-1")] ∧ Lawful sampleRounding s := by
  have hissued := @reaches_sample (fun s c => c.Fits ∧ Fresh s c) _ digestedImage
    (fun _ => ⟨trivial, trivial⟩) fun _ => ⟨fits_sampleArgs, trivial⟩
  have hverifier : (sampleState digestedImage).verifier
      = RuntimeTokenVerifier.new samplePublicKeys := rfl
  have hverify : (sampleState digestedImage).verifier.verify sampleEd25519 sampleRounding
      (sampleIssued digestedImage).token (sampleContext digestedImage)
      = .ok (sampleClaims digestedImage) := by
    rw [hverifier]
    exact verify_sample
  have honce : step sampleRounding (sampleState digestedImage)
      (.verifyOnce (sampleIssued digestedImage).token (sampleContext digestedImage) "request-1")
      = some ((sampleState digestedImage).once sampleRounding (sampleIssued digestedImage).token
        (sampleContext digestedImage) "request-1") := rfl
  have hnext : guarded (step sampleRounding) (fun s c => c.Fits ∧ Fresh s c)
      (sampleState digestedImage)
      (.verifyOnce (sampleIssued digestedImage).token (sampleContext digestedImage) "request-1")
      = some ((sampleState digestedImage).once sampleRounding (sampleIssued digestedImage).token
        (sampleContext digestedImage) "request-1") :=
    guarded_eq_some.mpr ⟨⟨trivial, unforged_sample digestedImage⟩, honce⟩
  exact ⟨_, accepted_once hverify rfl,
    tokens_authenticate (hissued.trans (Reaches.head hnext (Reaches.refl _)))⟩

/-- The sample token, once its session is revoked. -/
theorem session_revocation_final_sample :
    ((sampleState digestedImage).verifier.revokeSession (randomUUID 1)).verify sampleEd25519
      sampleRounding (sampleIssued digestedImage).token (sampleContext digestedImage)
        ≠ .ok (sampleClaims digestedImage) := by
  have h : Reaches (step sampleRounding) { sampleState digestedImage with
      verifier := (sampleState digestedImage).verifier.revokeSession (randomUUID 1) } _ := .refl _
  exact fun hverify => (session_revocation_final List.mem_cons_self h).1 _ _ _ hverify rfl

/-- **A token for an image named by its tag is issued and never accepted.** -/
theorem unfit_image_counterexample :
    ¬ ∀ s : System sampleEd25519,
      Reaches (guarded (step sampleRounding) Fresh) (.start samplePublicKeys) s →
        Lawful sampleRounding s := by
  intro h
  have hlawful := h (sampleState taggedImage) (reaches_sample (fun _ => trivial) fun _ => trivial)
  have hadmits : (RuntimeTokenVerifier.new samplePublicKeys).Admits (sampleContext taggedImage)
      (sampleClaims taggedImage) :=
    ⟨rfl, rfl, rfl, by decide, by decide, by decide, List.not_mem_nil⟩
  have haccepted := hlawful.complete (sampleIssued taggedImage) List.mem_cons_self rfl
    (sampleContext taggedImage) hadmits
  have hrefused : (sampleState taggedImage).verifier.verify sampleEd25519 sampleRounding
      (sampleIssued taggedImage).token (sampleContext taggedImage)
      = .error (.reason .MALFORMED) :=
    verify_unfit_image (by decide) (by decide) (by decide)
  rw [haccepted] at hrefused
  cases hrefused

end ContextLock.Runtime
