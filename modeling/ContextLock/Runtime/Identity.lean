/-
  Subject:   The scoped runtime credential: `RuntimeTokenIssuer` and `RuntimeTokenVerifier`.

  A token is the canonical text of its claims with an Ed25519 signature. The issuer signs what it
  is given; the verifier reads the claims back, checks them against a schema, serializes them
  again and checks the signature over that. Times are whole milliseconds.
-/
import ContextLock.Js.Base64
import ContextLock.Js.Map
import ContextLock.Js.Parse

namespace ContextLock.Runtime

open Evm Js

/-! ## 1. Claims -/

def RUNTIME_TOKEN_VERSION : String := "contextlock.runtime-token/v1"

inductive Audience where
  | MODEL
  | ADAPTER
  | CONTEXTLOCK
  | TELEMETRY
  deriving DecidableEq

def Audience.name : Audience → String
  | MODEL => "MODEL"
  | ADAPTER => "ADAPTER"
  | CONTEXTLOCK => "CONTEXTLOCK"
  | TELEMETRY => "TELEMETRY"

structure RuntimeTokenClaims where
  deploymentId : String
  agentId : String
  organizationId : Option String
  blueprintHash : String
  imageDigest : String
  audiences : List Audience
  issuedAtMs : Int
  expiresAtMs : Int
  sessionId : String
  nonce : String
  kid : String

/-- The claims as an object of the language. -/
def RuntimeTokenClaims.value (c : RuntimeTokenClaims) : Value :=
  .obj [("v", .str RUNTIME_TOKEN_VERSION), ("deploymentId", .str c.deploymentId),
    ("agentId", .str c.agentId), ("organizationId", ofNull (c.organizationId.map .str)),
    ("blueprintHash", .str c.blueprintHash), ("imageDigest", .str c.imageDigest),
    ("audiences", .arr (c.audiences.map fun a => .str a.name)),
    ("issuedAtMs", .int c.issuedAtMs), ("expiresAtMs", .int c.expiresAtMs),
    ("sessionId", .str c.sessionId), ("nonce", .str c.nonce), ("kid", .str c.kid)]

def FORBIDDEN_TOKEN_CLAIMS : List String :=
  ["capability", "capabilityScope", "signature", "signingKey", "privateKey", "walletAddress",
   "issuerKey", "spendLimit", "maxValueUsdCents", "policyOverride", "adminRole", "canSign"]

inductive TokenReason where
  | MALFORMED
  | BAD_SIGNATURE
  | EXPIRED
  | NOT_YET_VALID
  | WRONG_AGENT
  | WRONG_DEPLOYMENT
  | WRONG_IMAGE
  | WRONG_AUDIENCE
  | REVOKED
  | REPLAYED
  | UNKNOWN_KEY
  | FORBIDDEN_CLAIM

/-! ### The schema -/

/-- `z.string()` with a check. -/
def textAt (fields : List (String × Value)) (name : String) (check : String → Bool) :
    Option String :=
  match fields.lookup name with
  | some (.str s) => if check s then some s else none
  | _ => none

/-- `z.string().nullable()`. -/
def nullableAt (fields : List (String × Value)) (name : String) : Option (Option String) :=
  match fields.lookup name with
  | some .null => some none
  | some (.str s) => some (some s)
  | _ => none

/-- `z.number().int().positive()`; an integer of the schema is a safe one. -/
def wholeAt (fields : List (String × Value)) (name : String) : Option Int :=
  match fields.lookup name with
  | some (.number (.finite (.int n))) => if 0 < n ∧ n < 2 ^ 53 then some n else none
  | _ => none

def audienceOf : Value → Option Audience
  | .str s =>
    if s = "MODEL" then some .MODEL
    else if s = "ADAPTER" then some .ADAPTER
    else if s = "CONTEXTLOCK" then some .CONTEXTLOCK
    else if s = "TELEMETRY" then some .TELEMETRY
    else none
  | _ => none

/-- `z.array(z.enum(…)).min(1)`. -/
def audiencesAt (fields : List (String × Value)) (name : String) : Option (List Audience) :=
  match fields.lookup name with
  | some (.arr items) => if items.isEmpty then none else items.mapM audienceOf
  | _ => none

/-- `/^sha256:[0-9a-f]{64}$/`. -/
def isDigest (s : String) : Bool :=
  s.toList.take 7 = "sha256:".toList && lowerHex 64 (s.toList.drop 7)

/-- `z.string().min(n)`. -/
def sized (n : Nat) (s : String) : Bool := n ≤ textLength s

/-- `RuntimeTokenClaimsSchema.parse`; unknown keys are left out. -/
def RuntimeTokenClaimsSchema : Value → Option RuntimeTokenClaims
  | .obj fields => do
    let _ ← textAt fields "v" (· = RUNTIME_TOKEN_VERSION)
    let deploymentId ← textAt fields "deploymentId" (sized 1)
    let agentId ← textAt fields "agentId" (sized 1)
    let organizationId ← nullableAt fields "organizationId"
    let blueprintHash ← textAt fields "blueprintHash" isDigest
    let imageDigest ← textAt fields "imageDigest" isDigest
    let audiences ← audiencesAt fields "audiences"
    let issuedAtMs ← wholeAt fields "issuedAtMs"
    let expiresAtMs ← wholeAt fields "expiresAtMs"
    let sessionId ← textAt fields "sessionId" (sized 8)
    let nonce ← textAt fields "nonce" (sized 16)
    let kid ← textAt fields "kid" (sized 1)
    some { deploymentId, agentId, organizationId, blueprintHash, imageDigest, audiences,
           issuedAtMs, expiresAtMs, sessionId, nonce, kid }
  | _ => none

/-- The claims fit the schema. -/
structure RuntimeTokenClaims.Fits (c : RuntimeTokenClaims) : Prop where
  deploymentId : sized 1 c.deploymentId = true
  agentId : sized 1 c.agentId = true
  blueprintHash : isDigest c.blueprintHash = true
  imageDigest : isDigest c.imageDigest = true
  audiences : c.audiences ≠ []
  issuedAtMs : 0 < c.issuedAtMs ∧ c.issuedAtMs < 2 ^ 53
  expiresAtMs : 0 < c.expiresAtMs ∧ c.expiresAtMs < 2 ^ 53
  sessionId : sized 8 c.sessionId = true
  nonce : sized 16 c.nonce = true
  kid : sized 1 c.kid = true

/-! ## 2. What is signed -/

/-- `canonical(v)`: `JSON.stringify` throws on a bigint, and no claim holds a function. -/
def canonical (v : Value) : Except String String :=
  canonicalText ⟨"Do not know how to serialize a BigInt", id⟩ v

/-- The fields of the claims, as a value and as `JSON.stringify` takes it. -/
def RuntimeTokenClaims.slot (c : RuntimeTokenClaims) : Nat → Value × Canonical
  | 0 => (.str RUNTIME_TOKEN_VERSION, .str RUNTIME_TOKEN_VERSION)
  | 1 => (.str c.deploymentId, .str c.deploymentId)
  | 2 => (.str c.agentId, .str c.agentId)
  | 3 => (ofNull (c.organizationId.map .str), (c.organizationId.map Canonical.str).getD .null)
  | 4 => (.str c.blueprintHash, .str c.blueprintHash)
  | 5 => (.str c.imageDigest, .str c.imageDigest)
  | 6 => (.arr (c.audiences.map fun a => .str a.name), .arr (c.audiences.map fun a => .str a.name))
  | 7 => (.int c.issuedAtMs, .num (.int c.issuedAtMs))
  | 8 => (.int c.expiresAtMs, .num (.int c.expiresAtMs))
  | 9 => (.str c.sessionId, .str c.sessionId)
  | 10 => (.str c.nonce, .str c.nonce)
  | _ => (.str c.kid, .str c.kid)

def claimSlots : List (String × Nat) :=
  [("v", 0), ("deploymentId", 1), ("agentId", 2), ("organizationId", 3), ("blueprintHash", 4),
   ("imageDigest", 5), ("audiences", 6), ("issuedAtMs", 7), ("expiresAtMs", 8), ("sessionId", 9),
   ("nonce", 10), ("kid", 11)]

def sortedSlots : List (String × Nat) :=
  [("agentId", 2), ("audiences", 6), ("blueprintHash", 4), ("deploymentId", 1),
   ("expiresAtMs", 8), ("imageDigest", 5), ("issuedAtMs", 7), ("kid", 11), ("nonce", 10),
   ("organizationId", 3), ("sessionId", 9), ("v", 0)]

theorem sortedSlots_table :
    (claimSlots.insertionSort (fun f g => textLe f.1 g.1) = sortedSlots ∧
      assigned sortedSlots = sortedSlots) ∧
    (sortedSlots.map Prod.fst).Nodup ∧
    ∀ f ∈ claimSlots, sortedSlots.lookup f.1 = some f.2 := by decide

theorem sort_claimSlots :
    claimSlots.insertionSort (fun f g => textLe f.1 g.1) = sortedSlots := sortedSlots_table.1.1

theorem assigned_sortedSlots : assigned sortedSlots = sortedSlots := sortedSlots_table.1.2

theorem value_eq (c : RuntimeTokenClaims) :
    c.value = .obj (claimSlots.map fun s => (s.1, (c.slot s.2).1)) := rfl

def RuntimeTokenClaims.walked (c : RuntimeTokenClaims) : Canonical :=
  .obj (sortedSlots.map fun s => (s.1, (c.slot s.2).2))

theorem walkItems_names {errors : WalkErrors} (as : List Audience) :
    walk.walkItems errors (as.map fun a => .str a.name) = .ok (as.map fun a => .str a.name) := by
  induction as with
  | nil => rfl
  | cons a as ih => rw [List.map_cons, walk.walkItems, walk_str, ih, List.map_cons]

theorem walk_slot {errors : WalkErrors} (c : RuntimeTokenClaims) (i : Nat) :
    walk errors (c.slot i).1 = .ok (c.slot i).2 := by
  unfold RuntimeTokenClaims.slot
  split
  · exact walk_str _
  · exact walk_str _
  · exact walk_str _
  · cases c.organizationId with
    | none => exact walk_null
    | some s => exact walk_str s
  · exact walk_str _
  · exact walk_str _
  · rw [walk, walkItems_names]
    rfl
  · exact walk_int _
  · exact walk_int _
  · exact walk_str _
  · exact walk_str _
  · exact walk_str _

theorem canonical_claims (c : RuntimeTokenClaims) :
    canonical c.value = .ok (String.ofList c.walked.text) := by
  have hwalk : walk ⟨"Do not know how to serialize a BigInt", id⟩
      (.obj (claimSlots.map fun s => (s.1, (c.slot s.2).1))) = .ok c.walked :=
    @walk_slots _ claimSlots sortedSlots (fun i => (c.slot i).1) (fun i => (c.slot i).2)
      (fun s _ => walk_slot c s.2) sort_claimSlots assigned_sortedSlots
  rw [canonical, canonicalText, value_eq, hwalk]
  rfl

variable {c : RuntimeTokenClaims} {fields : List (String × Value)}

/-- **Claims are known by what is signed of them.** -/
theorem walked_inj {d : RuntimeTokenClaims} (h : c.walked = d.walked) : c = d := by
  have hslots : ∀ s ∈ sortedSlots, (c.slot s.2).2 = (d.slot s.2).2 := by
    intro s hs
    have hlist := List.map_inj_left.mp (Canonical.obj.inj h) s hs
    exact (Prod.mk.inj hlist).2
  have hname : Function.Injective Audience.name := by
    intro a b hab
    cases a <;> cases b <;> first | rfl | exact absurd hab (by decide)
  obtain ⟨deploymentId, agentId, organizationId, blueprintHash, imageDigest, audiences, issuedAtMs,
    expiresAtMs, sessionId, nonce, kid⟩ := c
  obtain ⟨deploymentId', agentId', organizationId', blueprintHash', imageDigest', audiences',
    issuedAtMs', expiresAtMs', sessionId', nonce', kid'⟩ := d
  have h1 : deploymentId = deploymentId' :=
    Canonical.str.inj (hslots ("deploymentId", 1) (by decide))
  have h2 : agentId = agentId' := Canonical.str.inj (hslots ("agentId", 2) (by decide))
  have h3 : organizationId = organizationId' := by
    have horg := hslots ("organizationId", 3) (by decide)
    cases organizationId with
    | none =>
      cases organizationId' with
      | none => rfl
      | some s => cases horg
    | some s =>
      cases organizationId' with
      | none => cases horg
      | some t => rw [Canonical.str.inj horg]
  have h4 : blueprintHash = blueprintHash' :=
    Canonical.str.inj (hslots ("blueprintHash", 4) (by decide))
  have h5 : imageDigest = imageDigest' :=
    Canonical.str.inj (hslots ("imageDigest", 5) (by decide))
  have h6 : audiences = audiences' := by
    have hitems := Canonical.arr.inj (hslots ("audiences", 6) (by decide))
    refine List.map_injective_iff.mpr ?_ hitems
    intro a b hab
    exact hname (Canonical.str.inj hab)
  have h7 : issuedAtMs = issuedAtMs' :=
    Numeral.int.inj (Canonical.num.inj (hslots ("issuedAtMs", 7) (by decide)))
  have h8 : expiresAtMs = expiresAtMs' :=
    Numeral.int.inj (Canonical.num.inj (hslots ("expiresAtMs", 8) (by decide)))
  have h9 : sessionId = sessionId' := Canonical.str.inj (hslots ("sessionId", 9) (by decide))
  have h10 : nonce = nonce' := Canonical.str.inj (hslots ("nonce", 10) (by decide))
  have h11 : kid = kid' := Canonical.str.inj (hslots ("kid", 11) (by decide))
  rw [h1, h2, h3, h4, h5, h6, h7, h8, h9, h10, h11]

/-- The bytes that are signed. -/
def RuntimeTokenClaims.payload (c : RuntimeTokenClaims) : Bytes :=
  textBytes (String.ofList c.walked.text)

theorem payload_inj {d : RuntimeTokenClaims} (h : c.payload = d.payload) : c = d := by
  have htext := congrArg utf8Text h
  rw [RuntimeTokenClaims.payload, RuntimeTokenClaims.payload, utf8Text_textBytes,
    utf8Text_textBytes, String.ofList_inj] at htext
  exact walked_inj (Canonical.text_inj htext)

/-! ## 3. What is signed is read back -/

variable {nearest : Rounding}

theorem reads_slot (hissued : c.issuedAtMs.natAbs ≤ 2 ^ 53)
    (hexpires : c.expiresAtMs.natAbs ≤ 2 ^ 53) (i : Nat) :
    Reads nearest (c.slot i).1 (c.slot i).2.text := by
  unfold RuntimeTokenClaims.slot
  split
  · exact reads_str _
  · exact reads_str _
  · exact reads_str _
  · cases c.organizationId with
    | none => exact reads_null
    | some s => exact reads_str s
  · exact reads_str _
  · exact reads_str _
  · have hitems := @reads_arr nearest
      (c.audiences.map fun a => (Value.str a.name, Canonical.str a.name))
      (by
        intro f hf
        obtain ⟨a, _, rfl⟩ := List.mem_map.mp hf
        exact reads_str a.name)
    rw [List.map_map, List.map_map] at hitems
    exact hitems
  · exact reads_int hissued
  · exact reads_int hexpires
  · exact reads_str _
  · exact reads_str _
  · exact reads_str _

theorem lookup_slots {α : Type} {slots : List (String × Nat)} {name : String} {i : Nat}
    (value : Nat → α) (h : slots.lookup name = some i) :
    (slots.map fun s => (s.1, value s.2)).lookup name = some (value i) := by
  induction slots with
  | nil => cases h
  | cons s ss ih =>
    rw [List.lookup_cons] at h
    rw [List.map_cons, List.lookup_cons]
    cases hname : name == s.1 with
    | true =>
      rw [hname] at h
      rw [← Option.some.inj h]
    | false =>
      rw [hname] at h
      exact ih h

theorem mapM_audienceOf (as : List Audience) :
    (as.map fun a => Value.str a.name).mapM audienceOf = some as := by
  have hname : ∀ a : Audience, audienceOf (.str a.name) = some a := by
    intro a
    cases a <;> rfl
  induction as with
  | nil => rfl
  | cons a as ih =>
    rw [List.map_cons, List.mapM_cons, hname, ih]
    rfl

theorem nodup_sortedSlots : (sortedSlots.map Prod.fst).Nodup := sortedSlots_table.2.1

theorem lookup_slot (name : String) (i : Nat) (h : (name, i) ∈ claimSlots) :
    sortedSlots.lookup name = some i := sortedSlots_table.2.2 (name, i) h

theorem textAt_eq {name s : String} {check : String → Bool} (h : fields.lookup name = some (.str s))
    (hcheck : check s = true) :
    textAt fields name check = some s := by
  rw [textAt, h]
  exact if_pos hcheck

theorem wholeAt_eq {name : String} {n : Int} (h : fields.lookup name = some (.int n))
    (hn : 0 < n ∧ n < 2 ^ 53) :
    wholeAt fields name = some n := by
  rw [wholeAt, h]
  exact if_pos hn

theorem nullableAt_eq {name : String} {o : Option String}
    (h : fields.lookup name = some (ofNull (o.map .str))) : nullableAt fields name = some o := by
  rw [nullableAt, h]
  cases o <;> rfl

theorem audiencesAt_eq {name : String} {as : List Audience}
    (h : fields.lookup name = some (.arr (as.map fun a => .str a.name))) (has : as ≠ []) :
    audiencesAt fields name = some as := by
  rw [audiencesAt, h]
  simp only [mapM_audienceOf]
  cases as with
  | nil => exact absurd rfl has
  | cons a as => rfl

/-- The claims as they are read back from what is signed of them. -/
def RuntimeTokenClaims.parsed (c : RuntimeTokenClaims) : List (String × Value) :=
  sortedSlots.map fun s => (s.1, (c.slot s.2).1)

/-- **What is signed is read back**, where its times are numbers of the language. -/
theorem jsonParse_claims (hissued : c.issuedAtMs.natAbs ≤ 2 ^ 53)
    (hexpires : c.expiresAtMs.natAbs ≤ 2 ^ 53) :
    jsonParse nearest (String.ofList c.walked.text) = some (.obj c.parsed) := by
  have hreads := @reads_obj nearest (sortedSlots.map fun s => (s.1, c.slot s.2))
    (by
      intro f hf
      obtain ⟨s, _, rfl⟩ := List.mem_map.mp hf
      exact reads_slot hissued hexpires s.2)
    (by
      rw [List.map_map]
      exact nodup_sortedSlots)
  rw [List.map_map, List.map_map] at hreads
  exact Reads.jsonParse hreads

theorem lookup_parsed {name : String} {i : Nat} (h : sortedSlots.lookup name = some i) :
    c.parsed.lookup name = some (c.slot i).1 :=
  lookup_slots (fun i => (c.slot i).1) h

/-- **Claims that fit the schema are read back from what is signed of them.** -/
theorem parse_canonical (h : c.Fits) :
    (jsonParse nearest (String.ofList c.walked.text)).bind RuntimeTokenClaimsSchema = some c := by
  have hissued := h.issuedAtMs
  have hexpires := h.expiresAtMs
  rw [jsonParse_claims (by omega) (by omega), Option.bind_some]
  unfold RuntimeTokenClaimsSchema
  simp only []
  rw [textAt_eq (lookup_parsed (lookup_slot "v" 0 (by simp [claimSlots]))) (by decide),
    textAt_eq (lookup_parsed (lookup_slot "deploymentId" 1 (by simp [claimSlots])))
      h.deploymentId,
    textAt_eq (lookup_parsed (lookup_slot "agentId" 2 (by simp [claimSlots]))) h.agentId,
    nullableAt_eq
      (lookup_parsed (lookup_slot "organizationId" 3 (by simp [claimSlots]))),
    textAt_eq (lookup_parsed (lookup_slot "blueprintHash" 4 (by simp [claimSlots])))
      h.blueprintHash,
    textAt_eq (lookup_parsed (lookup_slot "imageDigest" 5 (by simp [claimSlots])))
      h.imageDigest,
    audiencesAt_eq (lookup_parsed (lookup_slot "audiences" 6 (by simp [claimSlots])))
      h.audiences,
    wholeAt_eq (lookup_parsed (lookup_slot "issuedAtMs" 7 (by simp [claimSlots])))
      h.issuedAtMs,
    wholeAt_eq (lookup_parsed (lookup_slot "expiresAtMs" 8 (by simp [claimSlots])))
      h.expiresAtMs,
    textAt_eq (lookup_parsed (lookup_slot "sessionId" 9 (by simp [claimSlots])))
      h.sessionId,
    textAt_eq (lookup_parsed (lookup_slot "nonce" 10 (by simp [claimSlots]))) h.nonce,
    textAt_eq (lookup_parsed (lookup_slot "kid" 11 (by simp [claimSlots]))) h.kid]
  rfl

theorem schema_image (h : textAt fields "imageDigest" isDigest = none) :
    RuntimeTokenClaimsSchema (.obj fields) = none := by
  unfold RuntimeTokenClaimsSchema
  simp only []
  rw [h]
  cases textAt fields "v" (· = RUNTIME_TOKEN_VERSION) with
  | none => rfl
  | some version =>
  cases textAt fields "deploymentId" (sized 1) with
  | none => rfl
  | some deploymentId =>
  cases textAt fields "agentId" (sized 1) with
  | none => rfl
  | some agentId =>
  cases nullableAt fields "organizationId" with
  | none => rfl
  | some organizationId =>
  cases textAt fields "blueprintHash" isDigest with
  | none => rfl
  | some blueprintHash => rfl

/-! ## 4. Issuing -/

/-- Ed25519 of the platform, on keys in PEM texts. `Pair` holds of the two texts of one key pair,
    as `generateSigningKey` makes it. -/
structure Ed25519 where
  sign : String → Bytes → Bytes
  verify : String → Bytes → Bytes → Bool
  Pair : String → String → Prop
  verify_sign : ∀ {secret pem : String}, Pair secret pem → ∀ m, verify pem m (sign secret m) = true
  pem_ne_empty : ∀ {secret pem : String}, Pair secret pem → pem ≠ ""

structure SigningKey (ed : Ed25519) where
  kid : String
  privateKeyPem : String
  publicKeyPem : String
  pair : ed.Pair privateKeyPem publicKeyPem

/-- Why a token is refused; `canonical` may throw. -/
inductive Refusal where
  | reason (r : TokenReason)
  | thrown (message : String)

/-- A key stands under its own id. -/
structure RuntimeTokenIssuer (ed : Ed25519) where
  keys : Map (SigningKey ed)
  active : Option String
  keyed : ∀ kid key, keys.get? kid = some key → key.kid = kid

variable {ed : Ed25519}

namespace RuntimeTokenIssuer

def new : RuntimeTokenIssuer ed := ⟨Map.empty, none, fun _ _ h => by cases h⟩

def addKey (issuer : RuntimeTokenIssuer ed) (key : SigningKey ed) (makeActive : Bool) :
    RuntimeTokenIssuer ed where
  keys := issuer.keys.set key.kid key
  active := if makeActive || issuer.active.isNone then some key.kid else issuer.active
  keyed := fun kid key' h => by
    rcases Map.cases_of_get?_set h with hnew | hold
    · rw [hnew.1, ← hnew.2]
    · exact issuer.keyed kid key' hold.2

end RuntimeTokenIssuer

/-- The arguments of `issue`. `others` are keys of the argument beyond those of its type. -/
structure IssueArgs where
  deploymentId : String
  agentId : String
  organizationId : Option String
  blueprintHash : String
  imageDigest : String
  audiences : List Audience
  nowMs : Int
  ttlMs : Int
  others : List String

/-- The digits between the dashes of `randomUUID()`, of these random bits. -/
def uuidDigits (bits : Nat) : List (List Char) :=
  [hexDigits 8 (bits / 2 ^ 96), hexDigits 4 (bits / 2 ^ 80), hexDigits 4 (bits / 2 ^ 64),
   hexDigits 4 (bits / 2 ^ 48), hexDigits 12 bits]

/-- `randomUUID()`. -/
def randomUUID (bits : Nat) : String := String.ofList (['-'].intercalate (uuidDigits bits))

/-- `randomUUID()` with every dash replaced by nothing. -/
def randomNonce (bits : Nat) : String := String.ofList (uuidDigits bits).flatten

/-- The claims that `issue` signs, with the random bits of their session and nonce. -/
def IssueArgs.claims (args : IssueArgs) (kid : String) (session nonce : Nat) :
    RuntimeTokenClaims where
  deploymentId := args.deploymentId
  agentId := args.agentId
  organizationId := args.organizationId
  blueprintHash := args.blueprintHash
  imageDigest := args.imageDigest
  audiences := args.audiences
  issuedAtMs := args.nowMs
  expiresAtMs := args.nowMs + args.ttlMs
  sessionId := randomUUID session
  nonce := randomNonce nonce
  kid := kid

/-- What was signed, with which key, and the token that was handed out. -/
structure Issued (ed : Ed25519) where
  key : SigningKey ed
  claims : RuntimeTokenClaims
  token : String

/-- The text `<payload>.<signature>`. -/
def tokenText (payload signature : Bytes) : String := b64u payload ++ "." ++ b64u signature

/-- `issuer.issue(args)`. -/
def RuntimeTokenIssuer.issue (issuer : RuntimeTokenIssuer ed) (args : IssueArgs)
    (session nonce : Nat) : Except Refusal (Issued ed) :=
  match issuer.active with
  | none => .error (.reason .UNKNOWN_KEY)
  | some kid =>
    if kid = "" then .error (.reason .UNKNOWN_KEY)
    else
      match issuer.keys.get? kid with
      | none => .error (.thrown "Cannot read properties of undefined (reading privateKeyPem)")
      | some key =>
        let claims := args.claims key.kid session nonce
        if FORBIDDEN_TOKEN_CLAIMS.any fun forbidden => forbidden ∈ args.others then
          .error (.reason .FORBIDDEN_CLAIM)
        else
          match canonical claims.value with
          | .error e => .error (.thrown e)
          | .ok text =>
            let payload := textBytes text
            .ok ⟨key, claims, tokenText payload (ed.sign key.privateKeyPem payload)⟩

/-- **What `issue` hands out**: the claims of the arguments, signed with a key that has an id. -/
theorem issue_eq_ok {issuer : RuntimeTokenIssuer ed} {args : IssueArgs} {session nonce : Nat}
    {i : Issued ed} (h : issuer.issue args session nonce = .ok i) :
    i.key.kid ≠ "" ∧ i.claims = args.claims i.key.kid session nonce ∧
      i.token = tokenText i.claims.payload (ed.sign i.key.privateKeyPem i.claims.payload) := by
  unfold RuntimeTokenIssuer.issue at h
  cases hactive : issuer.active with
  | none =>
    rw [hactive] at h
    cases h
  | some kid =>
    rw [hactive] at h
    simp only [] at h
    by_cases hkid : kid = ""
    · rw [if_pos hkid] at h
      cases h
    · rw [if_neg hkid] at h
      cases hkey : issuer.keys.get? kid with
      | none =>
        rw [hkey] at h
        cases h
      | some key =>
        rw [hkey] at h
        simp only [canonical_claims] at h
        split_ifs at h with hforbidden
        cases h
        exact ⟨issuer.keyed kid key hkey ▸ hkid, rfl, rfl⟩

/-! ## 5. Verifying -/

structure VerificationContext where
  expectedAgentId : String
  expectedDeploymentId : String
  expectedImageDigest : String
  audience : Audience
  nowMs : Int

structure RuntimeTokenVerifier where
  publicKeys : Map String
  revokedSessions : List String
  seenNonces : Map Int

namespace RuntimeTokenVerifier

/-- `new RuntimeTokenVerifier(publicKeys)`. -/
def new (publicKeys : Map String) : RuntimeTokenVerifier := ⟨publicKeys, [], Map.empty⟩

def revokeSession (v : RuntimeTokenVerifier) (sessionId : String) : RuntimeTokenVerifier :=
  { v with revokedSessions := v.revokedSessions ++ [sessionId] }

/-- The checks of `verify` after the signature. -/
def check (v : RuntimeTokenVerifier) (claims : RuntimeTokenClaims) (ctx : VerificationContext) :
    Except Refusal RuntimeTokenClaims :=
  if ctx.nowMs ≥ claims.expiresAtMs then .error (.reason .EXPIRED)
  else if ctx.nowMs + 30000 < claims.issuedAtMs then .error (.reason .NOT_YET_VALID)
  else if claims.sessionId ∈ v.revokedSessions then .error (.reason .REVOKED)
  else if claims.agentId ≠ ctx.expectedAgentId then .error (.reason .WRONG_AGENT)
  else if claims.deploymentId ≠ ctx.expectedDeploymentId then .error (.reason .WRONG_DEPLOYMENT)
  else if claims.imageDigest ≠ ctx.expectedImageDigest then .error (.reason .WRONG_IMAGE)
  else if ctx.audience ∉ claims.audiences then .error (.reason .WRONG_AUDIENCE)
  else .ok claims

/-- `verifier.verify(token, ctx)`. -/
def verify (ed : Ed25519) (nearest : Rounding) (v : RuntimeTokenVerifier) (token : String)
    (ctx : VerificationContext) : Except Refusal RuntimeTokenClaims :=
  match token.toList.splitOn '.' with
  | [p, s] =>
    match (jsonParse nearest (utf8Text (unb64u (String.ofList p)))).bind
        RuntimeTokenClaimsSchema with
    | none => .error (.reason .MALFORMED)
    | some claims =>
      match v.publicKeys.get? claims.kid with
      | none => .error (.reason .UNKNOWN_KEY)
      | some pem =>
        if pem = "" then .error (.reason .UNKNOWN_KEY)
        else
          match canonical claims.value with
          | .error e => .error (.thrown e)
          | .ok text =>
            if ed.verify pem (textBytes text) (unb64u (String.ofList s)) then v.check claims ctx
            else .error (.reason .BAD_SIGNATURE)
  | _ => .error (.reason .MALFORMED)

/-- The key under which a request is remembered. -/
def nonceKey (sessionId requestNonce : String) : String := sessionId ++ ":" ++ requestNonce

/-- `verifier.verifyOnce(token, ctx, requestNonce)`, and the verifier after it. -/
def verifyOnce (ed : Ed25519) (nearest : Rounding) (v : RuntimeTokenVerifier) (token : String)
    (ctx : VerificationContext) (requestNonce : String) :
    Except Refusal RuntimeTokenClaims × RuntimeTokenVerifier :=
  match v.verify ed nearest token ctx with
  | .error e => (.error e, v)
  | .ok claims =>
    let key := nonceKey claims.sessionId requestNonce
    if (v.seenNonces.get? key).isSome then (.error (.reason .REPLAYED), v)
    else (.ok claims, { v with seenNonces := v.seenNonces.set key ctx.nowMs })

/-- The conditions on claims that are accepted, beside their signature. -/
structure Admits (v : RuntimeTokenVerifier) (ctx : VerificationContext)
    (claims : RuntimeTokenClaims) : Prop where
  agent : claims.agentId = ctx.expectedAgentId
  deployment : claims.deploymentId = ctx.expectedDeploymentId
  image : claims.imageDigest = ctx.expectedImageDigest
  audience : ctx.audience ∈ claims.audiences
  unexpired : ctx.nowMs < claims.expiresAtMs
  begun : claims.issuedAtMs ≤ ctx.nowMs + 30000
  unrevoked : claims.sessionId ∉ v.revokedSessions

theorem check_eq_ok {v : RuntimeTokenVerifier} {claims c : RuntimeTokenClaims}
    {ctx : VerificationContext} :
    v.check claims ctx = .ok c ↔ claims = c ∧ v.Admits ctx claims := by
  unfold check
  constructor
  · intro h
    split_ifs at h with h1 h2 h3 h4 h5 h6 h7
    cases h
    exact ⟨rfl, not_not.mp h4, not_not.mp h5, not_not.mp h6, h7, by omega, by omega,
      h3⟩
  · rintro ⟨rfl, h⟩
    have hbefore := h.unexpired
    have hbegun := h.begun
    rw [if_neg (by omega), if_neg (by omega), if_neg h.unrevoked, if_neg (not_not.mpr h.agent),
      if_neg (not_not.mpr h.deployment), if_neg (not_not.mpr h.image),
      if_neg (not_not.mpr h.audience)]

end RuntimeTokenVerifier

/-! ## 6. The two directions -/

theorem splitOn_tokenText (payload signature : Bytes) :
    (tokenText payload signature).toList.splitOn '.'
      = [(b64u payload).toList, (b64u signature).toList] := by
  have hpoint : ".".toList = ['.'] := rfl
  rw [tokenText, String.toList_append, String.toList_append, hpoint, List.append_assoc,
    List.singleton_append, List.splitOn_append_cons_of_beq _ _ (beq_self_eq_true '.'),
    List.splitOn_eq_singleton (point_not_mem_b64u payload),
    List.splitOn_eq_singleton (point_not_mem_b64u signature)]
  rfl

variable {v : RuntimeTokenVerifier} {ctx : VerificationContext}

/-- **A token signed with a known key is accepted** wherever its claims fit the schema and are
    admitted. -/
theorem verify_issued {key : SigningKey ed} {claims : RuntimeTokenClaims} (hfits : claims.Fits)
    (hknown : v.publicKeys.get? claims.kid = some key.publicKeyPem) (h : v.Admits ctx claims) :
    v.verify ed nearest
      (tokenText claims.payload (ed.sign key.privateKeyPem claims.payload)) ctx = .ok claims := by
  unfold RuntimeTokenVerifier.verify
  rw [splitOn_tokenText]
  simp only [String.ofList_toList, unb64u_b64u]
  have htext : utf8Text claims.payload = String.ofList claims.walked.text := by
    rw [RuntimeTokenClaims.payload, utf8Text_textBytes]
  rw [htext, parse_canonical hfits]
  simp only [hknown]
  rw [if_neg (ed.pem_ne_empty key.pair), canonical_claims]
  simp only []
  rw [← RuntimeTokenClaims.payload, if_pos (ed.verify_sign key.pair _)]
  exact RuntimeTokenVerifier.check_eq_ok.mpr ⟨rfl, h⟩

/-- **A token for an image that is no digest is refused**, whoever signed it. -/
theorem verify_unfit_image {claims : RuntimeTokenClaims} {signature : Bytes}
    (hissued : claims.issuedAtMs.natAbs ≤ 2 ^ 53) (hexpires : claims.expiresAtMs.natAbs ≤ 2 ^ 53)
    (h : isDigest claims.imageDigest = false) :
    v.verify ed nearest (tokenText claims.payload signature) ctx
      = .error (.reason .MALFORMED) := by
  have htext : utf8Text claims.payload = String.ofList claims.walked.text := by
    rw [RuntimeTokenClaims.payload, utf8Text_textBytes]
  have himage : textAt claims.parsed "imageDigest" isDigest = none := by
    rw [textAt, lookup_parsed (lookup_slot "imageDigest" 5 (by simp [claimSlots]))]
    exact if_neg (by rw [h]; decide)
  unfold RuntimeTokenVerifier.verify
  rw [splitOn_tokenText]
  simp only [String.ofList_toList, unb64u_b64u]
  rw [htext, jsonParse_claims hissued hexpires, Option.bind_some, schema_image himage]

/-- **What is accepted is signed under a known key**, and is admitted. -/
theorem verify_sound {token : String} {claims : RuntimeTokenClaims}
    (h : v.verify ed nearest token ctx = .ok claims) :
    (∃ p s pem, token.toList.splitOn '.' = [p, s] ∧ v.publicKeys.get? claims.kid = some pem ∧
      ed.verify pem claims.payload (unb64u (String.ofList s)) = true) ∧ v.Admits ctx claims := by
  unfold RuntimeTokenVerifier.verify at h
  rcases hsplit : token.toList.splitOn '.' with _ | ⟨p, _ | ⟨s, _ | ⟨q, rest⟩⟩⟩
  · rw [hsplit] at h
    cases h
  · rw [hsplit] at h
    cases h
  · rw [hsplit] at h
    simp only [] at h
    cases hparse : (jsonParse nearest (utf8Text (unb64u (String.ofList p)))).bind
        RuntimeTokenClaimsSchema with
    | none =>
      rw [hparse] at h
      cases h
    | some c =>
      rw [hparse] at h
      simp only [] at h
      cases hpem : v.publicKeys.get? c.kid with
      | none =>
        rw [hpem] at h
        cases h
      | some pem =>
        rw [hpem] at h
        simp only [canonical_claims] at h
        rw [← RuntimeTokenClaims.payload] at h
        split_ifs at h with hempty hsigned
        obtain ⟨rfl, hadmits⟩ := RuntimeTokenVerifier.check_eq_ok.mp h
        exact ⟨⟨p, s, pem, rfl, hpem, hsigned⟩, hadmits⟩
  · rw [hsplit] at h
    cases h

end ContextLock.Runtime
