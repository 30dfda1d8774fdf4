/-
  Subject:   Where an imported API may be reached: the check of a URL before anything is sent.

  A host is checked by name, then resolved, and every address it resolves to is checked by its
  text. One address has many texts.
-/
import ContextLock.Js.Address
import ContextLock.Js.Url

namespace ContextLock.OpenApi

open Js

/-! ## 1. Addresses -/

def METADATA_ADDRESSES : List String :=
  ["169.254.169.254", "169.254.170.2", "100.100.100.200", "192.0.0.192", "fd00:ec2::254"]

/-- `a.replace(/^\[|\]$/g, "")`. -/
def unbracket (cs : List Char) : List Char :=
  let cs := if cs.head? = some '[' then cs.tail else cs
  if cs.getLast? = some ']' then cs.dropLast else cs

/-- `address.toLowerCase().replace(/^\[|\]$/g, "")`. -/
def normalized (address : List Char) : List Char := unbracket (lowerText address)

/-- `Number(x)` of decimal digits: it is asked for the parts of a dotted quad only. -/
def octetNumber (x : List Char) : Option Nat :=
  if x.all Char.isDigit then some (Nat.ofDigitChars 10 x 0) else none

/-- `v4(a)`. -/
def v4 (a : List Char) : Option (List Nat) :=
  let p := a.splitOn '.'
  if p.length ≠ 4 then none
  else
    match p.mapM octetNumber with
    | some n => if n.all (· ≤ 255) then some n else none
    | none => none

def privateOctets (a b : Nat) : Bool :=
  a = 0 || a = 127 || a = 10 || (a = 172 && 16 ≤ b && b ≤ 31) || (a = 192 && b = 168) ||
    (a = 169 && b = 254) || (a = 100 && 64 ≤ b && b ≤ 127) || 224 ≤ a

/-- `/^::ffff:(\d+\.\d+\.\d+\.\d+)$/.exec(addr)`: what is in the parentheses. -/
def mapped (addr : List Char) : Option (List Char) :=
  let quad := addr.drop 7
  let parts := quad.splitOn '.'
  if addr.take 7 = "::ffff:".toList ∧ parts.length = 4 ∧
      parts.all (fun x => x ≠ [] && x.all Char.isDigit) then some quad
  else none

theorem mapped_eq {addr quad : List Char} (h : mapped addr = some quad) :
    addr = "::ffff:".toList ++ quad := by
  unfold mapped at h
  simp only at h
  split at h
  · rename_i hform
    rw [Option.some.injEq] at h
    rw [← h, ← hform.1, List.take_append_drop]
  · cases h

theorem length_normalized (cs : List Char) : (normalized cs).length ≤ cs.length := by
  unfold normalized unbracket
  simp only
  split_ifs <;> simp
  all_goals omega

/-- `isPrivateAddress(address)`. -/
def isPrivateAddress (address : List Char) : Bool :=
  let addr := normalized address
  if isIP addr = 4 then
    match v4 addr with
    | none => true
    | some o => privateOctets (o.getD 0 0) (o.getD 1 0)
  else if isIP addr = 6 then
    match _h : mapped addr with
    | some quad => isPrivateAddress quad
    | none =>
      addr = "::1".toList || addr = "::".toList || "fe80".toList.isPrefixOf addr ||
        "fec0".toList.isPrefixOf addr || "fc".toList.isPrefixOf addr ||
        "fd".toList.isPrefixOf addr || "ff".toList.isPrefixOf addr
  else true
termination_by address.length
decreasing_by
  have hquad : normalized address = "::ffff:".toList ++ quad := mapped_eq _h
  have hlen : (normalized address).length = 7 + quad.length := by
    rw [hquad, List.length_append]
    rfl
  have hbracket := length_normalized address
  omega

/-- `isMetadataAddress(a)`. -/
def isMetadataAddress (a : String) : Bool :=
  String.ofList (normalized a.toList) ∈ METADATA_ADDRESSES

/-! ## 2. A URL -/

/-- `EGRESS_REASONS`. -/
inductive EgressReason where
  | NOT_HTTPS
  | HOST_NOT_ALLOWED
  | PRIVATE_ADDRESS
  | METADATA_ENDPOINT
  | DNS_FAILED
  | TOO_MANY_REDIRECTS
  | MALFORMED_URL
  | PORT_NOT_ALLOWED
  | CREDENTIALS_IN_URL

def EgressReason.code : EgressReason → String
  | NOT_HTTPS => "EGRESS-NOT-HTTPS"
  | HOST_NOT_ALLOWED => "EGRESS-HOST-NOT-ALLOWED"
  | PRIVATE_ADDRESS => "EGRESS-PRIVATE-ADDRESS"
  | METADATA_ENDPOINT => "EGRESS-METADATA-ENDPOINT"
  | DNS_FAILED => "EGRESS-DNS-FAILED"
  | TOO_MANY_REDIRECTS => "EGRESS-TOO-MANY-REDIRECTS"
  | MALFORMED_URL => "EGRESS-MALFORMED-URL"
  | PORT_NOT_ALLOWED => "EGRESS-PORT-NOT-ALLOWED"
  | CREDENTIALS_IN_URL => "EGRESS-CREDENTIALS-IN-URL"

inductive EgressVerdict where
  | ok (url : Url)
  | refused (reason : EgressReason) (detail : String)

/-- `EgressPolicy`; an error of `resolve` is its message. -/
structure EgressPolicy where
  allowedHosts : List String
  allowedPorts : List Nat
  maxRedirects : Nat
  resolve : String → Except String (List String)

/-- `url.host`. -/
def urlHost (url : Url) : String :=
  if url.port = "" then url.hostname else s!"{url.hostname}:{url.port}"

def urlPort (url : Url) : Nat := if url.port = "" then 443 else decimalValue url.port

def addressesOf (policy : EgressPolicy) (host : String) : Except String (List String) :=
  if isIP host.toList ≠ 0 then .ok [host] else policy.resolve host

/-- The loop over the addresses: the first that must not be reached. -/
def checkAddresses (host : String) (url : Url) : List String → EgressVerdict
  | [] => .ok url
  | a :: rest =>
    if isMetadataAddress a then .refused .METADATA_ENDPOINT s!"{host} -> {a}"
    else if isPrivateAddress a.toList then .refused .PRIVATE_ADDRESS s!"{host} -> {a}"
    else checkAddresses host url rest

/-- `checkUrl(raw, policy)`. -/
def checkUrl (p : Platform) (raw : String) (policy : EgressPolicy) : EgressVerdict :=
  match parseUrl p raw with
  | none => .refused .MALFORMED_URL raw
  | some (.other protocol) => .refused .NOT_HTTPS s!"{protocol}//"
  | some (.https url) =>
    if url.username ≠ "" ∨ url.password ≠ "" then .refused .CREDENTIALS_IN_URL (urlHost url)
    else
      let host := toLowerCase url.hostname
      if host ∉ policy.allowedHosts.map toLowerCase then .refused .HOST_NOT_ALLOWED host
      else if urlPort url ∉ policy.allowedPorts then
        .refused .PORT_NOT_ALLOWED (toString (urlPort url))
      else
        match addressesOf policy host with
        | .error message => .refused .DNS_FAILED message
        | .ok addresses =>
          if isIP host.toList = 0 ∧ addresses.length = 0 then
            .refused .DNS_FAILED s!"{host} resolved to nothing"
          else checkAddresses host url addresses

/-! ## 3. Forbidden addresses -/

/-- This network, loopback, the private ranges, carrier-grade translation, link-local and
    multicast. -/
def forbiddenV4 : List (Cidr 32) :=
  [⟨0x00000000, 8⟩, ⟨0x7f000000, 8⟩, ⟨0x0a000000, 8⟩, ⟨0xac100000, 12⟩, ⟨0xc0a80000, 16⟩,
    ⟨0x64400000, 10⟩, ⟨0xa9fe0000, 16⟩, ⟨0xe0000000, 4⟩]

def linkLocal : Cidr 128 := ⟨0xfe80 * 2 ^ 112, 10⟩

def uniqueLocal : Cidr 128 := ⟨0xfc00 * 2 ^ 112, 7⟩

def multicast : Cidr 128 := ⟨0xff00 * 2 ^ 112, 8⟩

/-- Unspecified, loopback, link-local, unique-local and multicast. -/
def forbiddenV6 : List (Cidr 128) := [⟨0, 128⟩, ⟨1, 128⟩, linkLocal, uniqueLocal, multicast]

/-- An address no request may be sent to; one of the fourth version also where it is mapped. -/
inductive Forbidden : IpAddress → Prop where
  | v4 {n : BitVec 32} {r : Cidr 32} (hr : r ∈ forbiddenV4) (hn : r.Holds n) : Forbidden (.v4 n)
  | v6 {n : BitVec 128} {r : Cidr 128} (hr : r ∈ forbiddenV6) (hn : r.Holds n) : Forbidden (.v6 n)
  | mapped {n : BitVec 32} {r : Cidr 32} (hr : r ∈ forbiddenV4) (hn : r.Holds n) :
      Forbidden (.v6 (BitVec.ofNat 128 (0xffff * 2 ^ 32 + n.toNat)))

/-- The text spells the address, in brackets or not. -/
def Denotes (s : List Char) (a : IpAddress) : Prop := parseIp (unbracket s) = some a

instance decidableDenotes (s : List Char) (a : IpAddress) : Decidable (Denotes s a) :=
  inferInstanceAs (Decidable (_ = _))

/-- What the check knows of a forbidden address: the fourth version, the unique-local and the
    multicast addresses in every spelling, of the link-local ones those of `fe80::/16`, loopback
    and unspecified in their shortest spelling, mapped ones as `::ffff:` and a quad. -/
def Known (s : List Char) : IpAddress → Prop
  | .v4 _ => True
  | .v6 n => uniqueLocal.Holds n ∨ multicast.Holds n ∨ (⟨0xfe80 * 2 ^ 112, 16⟩ : Cidr 128).Holds n ∨
      normalized s = "::1".toList ∨ normalized s = "::".toList ∨
      ∃ quad octets, parseV4 quad = some octets ∧ normalized s = "::ffff:".toList ++ quad

def prefixed (addr : List Char) : Bool :=
  "fe80".toList.isPrefixOf addr || "fec0".toList.isPrefixOf addr || "fc".toList.isPrefixOf addr ||
    "fd".toList.isPrefixOf addr || "ff".toList.isPrefixOf addr

theorem private_of_normalized (s : List Char) : isPrivateAddress s =
    if isIP (normalized s) = 4 then
      match v4 (normalized s) with
      | none => true
      | some o => privateOctets (o.getD 0 0) (o.getD 1 0)
    else if isIP (normalized s) = 6 then
      match mapped (normalized s) with
      | some quad => isPrivateAddress quad
      | none =>
        normalized s = "::1".toList || normalized s = "::".toList || prefixed (normalized s)
    else true := by
  rw [isPrivateAddress]
  split
  · rfl
  · split
    · split <;> simp [*, prefixed, Bool.or_assoc]
    · rfl

/-! ## 4. Texts of the fourth version -/

theorem normalized_eq (s : List Char) : normalized s = lowerText (unbracket s) := by
  have hopen {c : Char} : c.toLower = '[' ↔ c = '[' := toLower_eq_iff (by decide)
  have hclose {c : Char} : c.toLower = ']' ↔ c = ']' := toLower_eq_iff (by decide)
  have hhead (cs : List Char) : (lowerText cs).head? = some '[' ↔ cs.head? = some '[' := by
    rcases cs with _ | ⟨c, cs⟩ <;> simp [lowerText, hopen]
  have hlast (cs : List Char) : (lowerText cs).getLast? = some ']' ↔ cs.getLast? = some ']' := by
    rw [lowerText, List.getLast?_map]
    cases cs.getLast? <;> simp [hclose]
  have hfirst : (if (lowerText s).head? = some '[' then (lowerText s).tail else lowerText s) =
      lowerText (if s.head? = some '[' then s.tail else s) := by
    by_cases h : s.head? = some '['
    · rw [if_pos h, if_pos ((hhead s).mpr h)]
      exact List.map_tail.symm
    · rw [if_neg h, if_neg fun hl => h ((hhead s).mp hl)]
  unfold normalized unbracket
  simp only [hfirst]
  generalize (if s.head? = some '[' then s.tail else s) = t
  by_cases h : t.getLast? = some ']'
  · rw [if_pos h, if_pos ((hlast t).mpr h)]
    exact List.map_dropLast.symm
  · rw [if_neg h, if_neg fun hl => h ((hlast t).mp hl)]

variable {gs : List Nat} {n : BitVec 128} {s : List Char}

theorem denotes_iff {a : IpAddress} :
    Denotes s a ↔ parseIp (normalized s) = some a := by
  rw [normalized_eq, parseIp_lower]
  exact Iff.rfl

theorem normalized_quad {q : List Char} {octets : List Nat} (h : parseV4 q = some octets) :
    normalized q = q := by
  have hne {c : Char} (hc : c ∈ q) (d : Char) (hd : d.isDigit = false) (hpoint : d ≠ '.') :
      c ≠ d := by
    rintro rfl
    rcases quad_chars h c hc with hdigit | hdot
    · rw [hd] at hdigit
      cases hdigit
    · exact hpoint hdot
  have hunbracket : unbracket q = q := by
    have hhead : q.head? ≠ some '[' := fun hq =>
      hne (List.mem_of_mem_head? hq) '[' (by decide) (by decide) rfl
    have hlast : q.getLast? ≠ some ']' := fun hq =>
      hne (List.mem_of_getLast? hq) ']' (by decide) (by decide) rfl
    simp only [unbracket, if_neg hhead, if_neg hlast]
  rw [normalized_eq, hunbracket, lowerText_eq_iff]
  intro c hc
  rcases quad_chars h c hc with hdigit | rfl
  · exact isAlpha_of_isDigit hdigit
  · decide

theorem v4_of_quad {q : List Char} {octets : List Nat} (h : parseV4 q = some octets) :
    v4 q = some octets := by
  obtain ⟨hlen, hlt, _⟩ := parseV4_iff.mp h
  have hnumbers : (octets.map (Nat.toDigits 10)).mapM octetNumber = some octets := by
    rw [mapM_eq_some_iff, List.forall₂_map_left_iff, List.forall₂_same]
    intro o _
    have hdigits : (Nat.toDigits 10 o).all Char.isDigit = true :=
      List.all_eq_true.mpr fun c hc => isDigit_of_octet hc
    rw [octetNumber, if_pos hdigits, Nat.ofDigitChars_ten_toDigits]
  have hall : octets.all (· ≤ 255) = true := by
    rw [List.all_eq_true]
    intro o ho
    exact decide_eq_true (Nat.le_of_lt_succ (hlt o ho))
  unfold v4
  simp only
  rw [splitOn_quad h, List.length_map, hlen, hnumbers]
  simp only [hall, if_true, ne_eq, not_true_eq_false, if_false]

/-- **A quad is judged by its first two octets.** -/
theorem isPrivate_quad {a b c d : Nat} (h : parseV4 (normalized s) = some [a, b, c, d]) :
    isPrivateAddress s = privateOctets a b := by
  have hip : isIP (normalized s) = 4 := by
    rw [isIP, parseIp, h]
  rw [private_of_normalized, if_pos hip, v4_of_quad h]
  rfl

theorem private_of_forbiddenV4 {n : BitVec 32} {r : Cidr 32} {a b c d : Nat}
    (hn : n.toNat = digitsNumber 256 [a, b, c, d]) (hb : b < 256) (hc : c < 256) (hd : d < 256)
    (hr : r ∈ forbiddenV4) (hin : r.Holds n) : privateOctets a b = true := by
  simp only [digitsNumber, List.length_cons, List.length_nil] at hn
  unfold Cidr.Holds at hin
  simp only [forbiddenV4, List.mem_cons, List.not_mem_nil, or_false] at hr
  simp only [privateOctets, Bool.or_eq_true, Bool.and_eq_true, decide_eq_true_eq]
  rcases hr with rfl | rfl | rfl | rfl | rfl | rfl | rfl | rfl
  all_goals
    norm_num at hin
    omega

/-! ## 5. Texts of the sixth version -/

def zoneless (s : List Char) : List Char := (normalized s).takeWhile (· ≠ '%')

/-- The text is read as eight groups, the first of them `g`, and they are the address. -/
structure ReadsAs (s : List Char) (n : BitVec 128) (g : Nat) (gs : List Nat) : Prop where
  groups : parseV6 (zoneless s) = some (g :: gs)
  length : gs.length = 7
  lt : g < 65536
  number : n.toNat = g * 2 ^ 112 + digitsNumber 65536 gs
  rest : digitsNumber 65536 gs < 2 ^ 112
  front : ∃ zone, normalized s = zoneless s ++ zone
  noQuad : parseV4 (normalized s) = none

theorem readsAs_of_denotes (h : Denotes s (.v6 n)) :
    ∃ g gs, ReadsAs s n g gs := by
  rw [denotes_iff] at h
  unfold parseIp at h
  split at h
  · cases h
  · rename_i hquad
    split at h
    · obtain ⟨groups, hgroups, heq⟩ := Option.map_eq_some_iff.mp h
      obtain ⟨hlen, hlt⟩ := parseV6_spec hgroups
      rcases groups with _ | ⟨g, gs⟩
      · cases hlen
      have hseven : gs.length = 7 := Nat.succ.inj hlen
      have hg := hlt g List.mem_cons_self
      have hrest := digitsNumber_lt fun d hd => hlt d (List.mem_cons_of_mem g hd)
      have hpow : 65536 ^ 7 = 2 ^ 112 := by norm_num
      rw [hseven, hpow] at hrest
      have hval : digitsNumber 65536 (g :: gs) = g * 2 ^ 112 + digitsNumber 65536 gs := by
        rw [digitsNumber, hseven, hpow]
      have hbound : g * 2 ^ 112 + digitsNumber 65536 gs < 2 ^ 128 := by omega
      have hn := congrArg BitVec.toNat (IpAddress.v6.inj heq)
      rw [BitVec.toNat_ofNat, hval, Nat.mod_eq_of_lt hbound] at hn
      exact ⟨g, gs, hgroups, hseven, hg, hn.symm, hrest,
        ⟨_, (List.takeWhile_append_dropWhile).symm⟩, hquad⟩
    · cases h

theorem group_of_forbidden {g : Nat} (h : ReadsAs s n g gs) (hforbidden : Forbidden (.v6 n)) :
    g = 0 ∨ 0xfe80 ≤ g ∧ g ≤ 0xfebf ∨ 0xfc00 ≤ g ∧ g ≤ 0xfdff ∨ 0xff00 ≤ g := by
  have hnumber := h.number
  have hrest := h.rest
  have hlt := h.lt
  cases hforbidden with
  | v6 hr hin =>
    unfold Cidr.Holds at hin
    simp only [forbiddenV6, List.mem_cons, List.not_mem_nil, or_false] at hr
    rcases hr with rfl | rfl | rfl | rfl | rfl
    all_goals
      norm_num [linkLocal, uniqueLocal, multicast] at hin hnumber hrest
      omega
  | @mapped m _ _ _ =>
    have hm := m.isLt
    have hbound : 0xffff * 2 ^ 32 + m.toNat < 2 ^ 128 := by omega
    rw [BitVec.toNat_ofNat, Nat.mod_eq_of_lt hbound] at hnumber
    omega

theorem holds_iff {g : Nat} (h : ReadsAs s n g gs) :
    (uniqueLocal.Holds n ↔ 0xfc00 ≤ g ∧ g ≤ 0xfdff) ∧
      (multicast.Holds n ↔ 0xff00 ≤ g) ∧
      ((⟨0xfe80 * 2 ^ 112, 16⟩ : Cidr 128).Holds n ↔ g = 0xfe80) := by
  have hnumber := h.number
  have hrest := h.rest
  have hlt := h.lt
  unfold Cidr.Holds
  norm_num [uniqueLocal, multicast] at hnumber hrest ⊢
  refine ⟨?_, ?_, ?_⟩ <;> omega

theorem toLower_toLower (c : Char) : c.toLower.toLower = c.toLower := by
  rcases toLower_cases c with hsame | ⟨_, _, hlt⟩
  · rw [hsame, hsame]
  · have hall : ∀ k < 128, (Char.ofNat k).toLower.toLower = (Char.ofNat k).toLower := by
      decide
    have hc := hall c.toNat hlt
    rwa [Char.ofNat_toNat] at hc

theorem front_of_readsAs {g : Nat} (h : ReadsAs s n g gs) :
    (g = 0 ∧ ∃ rest, normalized s = ':' :: rest) ∨
      ∃ k rest, 1 ≤ k ∧ k ≤ 4 ∧ g < 16 ^ k ∧ normalized s = hexDigits k g ++ ':' :: rest := by
  obtain ⟨zone, hzone⟩ := h.front
  rcases head_of_parseV6 h.groups with ⟨hg, rest, hbody⟩ | ⟨p, rest, hbody, hp⟩
  · exact .inl ⟨hg, ':' :: rest ++ zone, by rw [hzone, hbody]; rfl⟩
  · obtain ⟨⟨hone, hfour⟩, hv⟩ := parseGroup_spec hp
    obtain ⟨hdigits, hlt⟩ := map_toLower_of_digitsValue hv
    have hlower : p.map Char.toLower = p := by
      refine (List.map_congr_left fun c hc => ?_).trans (List.map_id _)
      have hmem : c ∈ normalized s := by
        rw [hzone, hbody]
        simp [hc]
      rw [normalized_eq] at hmem
      obtain ⟨d, _, rfl⟩ := List.mem_map.mp hmem
      exact toLower_toLower d
    rw [hlower] at hdigits
    refine .inr ⟨p.length, rest ++ zone, hone, hfour, hlt, ?_⟩
    rw [hzone, hbody, ← hdigits, List.append_assoc]
    rfl

/-- The first `k` of four digits. -/
theorem isPrefixOf_hexDigits {k w g : Nat} {rest : List Char} (hk : k ≤ 4) (hw : w < 16 ^ k)
    (hg : g < 16 ^ 4) :
    (hexDigits k w).isPrefixOf (hexDigits 4 g ++ rest) = true ↔ g / 16 ^ (4 - k) = w := by
  have hsplit : hexDigits 4 g = hexDigits k (g / 16 ^ (4 - k)) ++ hexDigits (4 - k) g := by
    rw [← hexDigits_add, Nat.add_sub_cancel' hk]
  have hlt : g / 16 ^ (4 - k) < 16 ^ k := by
    rw [Nat.div_lt_iff_lt_mul (by positivity), ← pow_add, Nat.add_sub_cancel' hk]
    exact hg
  rw [List.isPrefixOf_iff_prefix, hsplit, List.append_assoc]
  constructor
  · intro h
    have htake := List.prefix_iff_eq_take.mp h
    rw [List.take_left' (by rw [length_hexDigits, length_hexDigits])] at htake
    exact (hexDigits_inj hw hlt htake).symm
  · rintro rfl
    exact List.prefix_append _ _

theorem prefixed_of_first {addr : List Char} (h : addr.head? ≠ some 'f') :
    prefixed addr = false := by
  rcases addr with _ | ⟨c, cs⟩
  · rfl
  · have hc : ('f' == c) = false := by
      rw [beq_eq_false_iff_ne]
      rintro rfl
      exact h rfl
    simp [prefixed, List.isPrefixOf, hc]

theorem hexDigits_zero (k : Nat) : hexDigits k 0 = List.replicate k '0' := by
  induction k with
  | zero => rfl
  | succ k ih =>
    rw [hexDigits, Nat.zero_div, ih, List.replicate_succ']
    rfl

theorem prefixed_of_zero (h : ReadsAs s n 0 gs) :
    prefixed (normalized s) = false := by
  refine prefixed_of_first ?_
  rcases front_of_readsAs h with ⟨_, rest, hfront⟩ | ⟨k, rest, hone, _, _, hfront⟩
  · rw [hfront, List.head?_cons]
    decide
  · obtain ⟨j, rfl⟩ := Nat.exists_eq_add_of_le' hone
    rw [hfront, hexDigits_zero, List.replicate_succ, List.cons_append, List.head?_cons]
    decide

/-- **The prefixes of a forbidden address** say its range, but for most of the link-local one. -/
theorem prefixed_iff {g : Nat} (h : ReadsAs s n g gs) (hforbidden : Forbidden (.v6 n)) :
    prefixed (normalized s) = true ↔
      uniqueLocal.Holds n ∨ multicast.Holds n ∨ (⟨0xfe80 * 2 ^ 112, 16⟩ : Cidr 128).Holds n := by
  obtain ⟨hunique, hmulticast, hlink⟩ := holds_iff h
  rw [hunique, hmulticast, hlink]
  rcases Nat.eq_zero_or_pos g with rfl | hpos
  · rw [prefixed_of_zero h]
    simp
  have hgroup := group_of_forbidden h hforbidden
  have hlt := h.lt
  rcases front_of_readsAs h with ⟨rfl, _⟩ | ⟨k, rest, hone, hfour, hk, hfront⟩
  · omega
  have hfourth : k = 4 := by
    by_contra hne
    have hsmall : 16 ^ k ≤ 16 ^ 3 := Nat.pow_le_pow_right (by decide) (by omega)
    omega
  subst hfourth
  have h4 {w : Nat} (hw : w < 16 ^ 4) :=
    @isPrefixOf_hexDigits 4 w g (':' :: rest) (Nat.le_refl 4) hw hk
  have h2 {w : Nat} (hw : w < 16 ^ 2) :=
    @isPrefixOf_hexDigits 2 w g (':' :: rest) (by decide) hw hk
  have hfe80 : "fe80".toList = hexDigits 4 0xfe80 := by decide
  have hfec0 : "fec0".toList = hexDigits 4 0xfec0 := by decide
  have hfc : "fc".toList = hexDigits 2 0xfc := by decide
  have hfd : "fd".toList = hexDigits 2 0xfd := by decide
  have hff : "ff".toList = hexDigits 2 0xff := by decide
  unfold prefixed
  simp only [Bool.or_eq_true]
  rw [hfront, hfe80, hfec0, hfc, hfd, hff, h4 (by decide), h4 (by decide), h2 (by decide),
    h2 (by decide), h2 (by decide)]
  omega

/-! ## 6. The check -/

theorem mapped_of_quad {q : List Char} {octets : List Nat} (h : parseV4 q = some octets) :
    mapped ("::ffff:".toList ++ q) = some q := by
  have hlen := (parseV4_iff.mp h).1
  have hdigits : (octets.map (Nat.toDigits 10)).all (fun x => x ≠ [] && x.all Char.isDigit) =
      true := by
    rw [List.all_eq_true]
    intro t ht
    obtain ⟨n, _, rfl⟩ := List.mem_map.mp ht
    have hpos : 0 < (Nat.toDigits 10 n).length := Nat.length_toDigits_pos
    simp only [Bool.and_eq_true, decide_eq_true_eq, List.all_eq_true]
    exact ⟨List.length_pos_iff.mp hpos, fun c hc => isDigit_of_octet hc⟩
  have htake : ("::ffff:".toList ++ q).take 7 = "::ffff:".toList := rfl
  have hdrop : ("::ffff:".toList ++ q).drop 7 = q := rfl
  unfold mapped
  simp only [htake, hdrop, splitOn_quad h, List.length_map, hlen, hdigits, and_self, if_true]

/-- What is matched after `::ffff:` is digits and points. -/
theorem mapped_chars {addr quad : List Char} (h : mapped addr = some quad) :
    '.' ∈ quad ∧ ∀ c ∈ quad, c.isDigit = true ∨ c = '.' := by
  unfold mapped at h
  simp only at h
  split at h
  · rename_i hform
    rw [Option.some.injEq] at h
    obtain ⟨_, hlen, hall⟩ := hform
    rw [h] at hlen hall
    have hjoin : ['.'].intercalate (quad.splitOn '.') = quad := List.intercalate_splitOn '.'
    constructor
    · rcases hsplit : quad.splitOn '.' with _ | ⟨a, _ | ⟨b, rest⟩⟩
      · rw [hsplit] at hlen
        cases hlen
      · rw [hsplit] at hlen
        cases hlen
      · rw [← hjoin, hsplit, intercalate_cons]
        simp [tailed]
    · intro c hc
      rw [← hjoin] at hc
      rcases mem_of_mem_intercalate hc with hc | ⟨t, ht, hc⟩
      · exact .inr hc
      · have hdigits := List.all_eq_true.mp hall t ht
        rw [Bool.and_eq_true, List.all_eq_true] at hdigits
        exact .inl (hdigits.2 c hc)
  · cases h

theorem isIP_of_denotes (h : Denotes s (.v6 n)) :
    isIP (normalized s) = 6 := by
  rw [isIP, denotes_iff.mp h]

theorem quad_of_mapped {quad : List Char} {g : Nat} (h : ReadsAs s n g gs)
    (hmapped : mapped (normalized s) = some quad) :
    ∃ a b c d, parseV4 quad = some [a, b, c, d] ∧ b < 256 ∧ c < 256 ∧ d < 256 ∧
      n.toNat = 0xffff * 2 ^ 32 + digitsNumber 256 [a, b, c, d] := by
  obtain ⟨hpoint, hchars⟩ := mapped_chars hmapped
  have hfree {c : Char} (hdigit : c.isDigit = false) (hdot : c ≠ '.') : c ∉ quad := by
    intro hc
    rcases hchars c hc with hc | hc
    · rw [hdigit] at hc
      cases hc
    · exact hdot hc
  have hbody : zoneless s = "::ffff:".toList ++ quad := by
    unfold zoneless
    rw [mapped_eq hmapped, List.takeWhile_eq_self_iff]
    intro c hc
    have hffff : ∀ d ∈ "::ffff:".toList, decide (d ≠ '%') = true := by simp
    rcases List.mem_append.mp hc with hc | hc
    · exact hffff c hc
    · exact decide_eq_true fun h => hfree (by decide) (by decide) (h ▸ hc)
  have hgroups := h.groups
  rw [hbody] at hgroups
  obtain ⟨octets, hquad⟩ := quad_of_parseV6 (hfree (by decide) (by decide)) hpoint hgroups
  obtain ⟨hlen, hlt, _⟩ := parseV4_iff.mp hquad
  rcases octets with _ | ⟨a, _ | ⟨b, _ | ⟨c, _ | ⟨d, _ | ⟨e, rest⟩⟩⟩⟩⟩
  all_goals try cases hlen
  rw [parseV6_of_quad hquad, Option.some.injEq, List.cons.injEq] at hgroups
  have hnumber : n.toNat = digitsNumber 65536
      (List.replicate 4 0 ++ [65535, 256 * a + b, 256 * c + d]) := by
    rw [h.number, ← hgroups.1, ← hgroups.2, Nat.zero_mul, Nat.zero_add]
    rfl
  refine ⟨a, b, c, d, hquad, hlt b (by simp), hlt c (by simp), hlt d (by simp), ?_⟩
  rw [hnumber, digitsNumber_zeros]
  show 65535 * 65536 ^ 2 + ((256 * a + b) * 65536 ^ 1 + ((256 * c + d) * 65536 ^ 0 + 0)) =
    0xffff * 2 ^ 32 + (a * 256 ^ 3 + (b * 256 ^ 2 + (c * 256 ^ 1 + (d * 256 ^ 0 + 0))))
  omega

theorem forbidden_of_mapped {m : Nat} (hn : n.toNat = 0xffff * 2 ^ 32 + m) (hm : m < 2 ^ 32)
    (h : Forbidden (.v6 n)) :
    ∃ k : BitVec 32, k.toNat = m ∧ ∃ r ∈ forbiddenV4, r.Holds k := by
  cases h with
  | v6 hr hin =>
    unfold Cidr.Holds at hin
    simp only [forbiddenV6, List.mem_cons, List.not_mem_nil, or_false] at hr
    rcases hr with rfl | rfl | rfl | rfl | rfl
    all_goals
      norm_num [linkLocal, uniqueLocal, multicast] at hin hn hm
      omega
  | @mapped k r hr hin =>
    have hk := k.isLt
    have hbound : 0xffff * 2 ^ 32 + k.toNat < 2 ^ 128 := by omega
    rw [BitVec.toNat_ofNat, Nat.mod_eq_of_lt hbound] at hn
    exact ⟨k, by omega, r, hr, hin⟩

theorem private_v6 (h : Denotes s (.v6 n)) (hforbidden : Forbidden (.v6 n)) :
    isPrivateAddress s = true ↔ Known s (.v6 n) := by
  obtain ⟨g, gs, hreads⟩ := readsAs_of_denotes h
  have hip := isIP_of_denotes h
  have hpow : 256 ^ 4 = 2 ^ 32 := by norm_num
  rw [private_of_normalized, if_neg (by rw [hip]; decide), if_pos hip]
  rcases hmapped : mapped (normalized s) with _ | quad
  · -- not in the mapped form: the shortest spellings and the prefixes are left
    have hquad : ¬ ∃ quad octets, parseV4 quad = some octets ∧
        normalized s = "::ffff:".toList ++ quad := by
      rintro ⟨quad, octets, hquad, heq⟩
      rw [heq, mapped_of_quad hquad] at hmapped
      cases hmapped
    simp only [Bool.or_eq_true, decide_eq_true_eq, prefixed_iff hreads hforbidden, Known, hquad,
      or_false]
    rw [or_comm]
    simp only [or_assoc]
  · obtain ⟨a, b, c, d, hquad, hb, hc, hd, hnumber⟩ := quad_of_mapped hreads hmapped
    have hoctets := (parseV4_iff.mp hquad).2.1
    have hm := digitsNumber_lt hoctets
    rw [(parseV4_iff.mp hquad).1, hpow] at hm
    obtain ⟨k, hk, r, hr, hin⟩ := forbidden_of_mapped hnumber hm hforbidden
    have hprivate := private_of_forbiddenV4 hk hb hc hd hr hin
    have hnormal := normalized_quad hquad
    show isPrivateAddress quad = true ↔ _
    rw [isPrivate_quad (c := c) (d := d) (by rw [hnormal, hquad]), hprivate]
    refine iff_of_true rfl ?_
    exact .inr (.inr (.inr (.inr (.inr ⟨quad, _, hquad, mapped_eq hmapped⟩))))

theorem private_v4 {n : BitVec 32} (h : Denotes s (.v4 n)) (hforbidden : Forbidden (.v4 n)) :
    isPrivateAddress s = true := by
  have hpow : 256 ^ 4 = 2 ^ 32 := by norm_num
  rw [denotes_iff] at h
  unfold parseIp at h
  split at h
  · rename_i octets hquad
    obtain ⟨hlen, hlt, _⟩ := parseV4_iff.mp hquad
    have hbound := digitsNumber_lt hlt
    rw [hlen, hpow] at hbound
    have hn := congrArg BitVec.toNat (IpAddress.v4.inj (Option.some.inj h))
    rw [BitVec.toNat_ofNat, Nat.mod_eq_of_lt hbound] at hn
    rcases octets with _ | ⟨a, _ | ⟨b, _ | ⟨c, _ | ⟨d, _ | ⟨e, rest⟩⟩⟩⟩⟩
    all_goals try cases hlen
    rw [isPrivate_quad hquad]
    cases hforbidden with
    | v4 hr hin =>
      have hb := hlt b (by simp)
      have hc := hlt c (by simp)
      have hd := hlt d (by simp)
      exact private_of_forbiddenV4 hn.symm hb hc hd hr hin
  · split at h
    · obtain ⟨_, _, heq⟩ := Option.map_eq_some_iff.mp h
      cases heq
    · cases h

/-- **A forbidden address is refused in the spellings the check knows**, and in no other. -/
theorem private_iff_known {a : IpAddress} (h : Denotes s a) (hforbidden : Forbidden a) :
    isPrivateAddress s = true ↔ Known s a := by
  cases a with
  | v4 n => exact iff_of_true (private_v4 h hforbidden) trivial
  | v6 n => exact private_v6 h hforbidden

/-! ## 7. A host that resolves -/

/-- The checks before anything is resolved. -/
structure Passes (p : Platform) (raw : String) (policy : EgressPolicy) (url : Url) : Prop where
  parsed : parseUrl p raw = some (.https url)
  noUser : url.username = ""
  noPassword : url.password = ""
  host : toLowerCase url.hostname ∈ policy.allowedHosts.map toLowerCase
  port : urlPort url ∈ policy.allowedPorts

theorem checkAddresses_iff {host : String} {url url' : Url} {addresses : List String} :
    checkAddresses host url addresses = .ok url' ↔ url = url' ∧ ∀ a ∈ addresses,
      isMetadataAddress a = false ∧ isPrivateAddress a.toList = false := by
  induction addresses with
  | nil => simp [checkAddresses]
  | cons a rest ih =>
    rw [checkAddresses]
    by_cases hmeta : isMetadataAddress a = true
    · simp [hmeta]
    · by_cases hprivate : isPrivateAddress a.toList = true
      · simp [hmeta, hprivate]
      · rw [if_neg hmeta, if_neg hprivate, ih]
        simp [eq_false_of_ne_true hmeta, eq_false_of_ne_true hprivate]

/-- **A URL is admitted** where the checks before pass, and every address passes. -/
theorem checkUrl_ok_iff {p : Platform} {raw : String} {policy : EgressPolicy} {url : Url} :
    checkUrl p raw policy = .ok url ↔ Passes p raw policy url ∧
      ∃ addresses, addressesOf policy (toLowerCase url.hostname) = .ok addresses ∧
        addresses ≠ [] ∧ ∀ a ∈ addresses,
          isMetadataAddress a = false ∧ isPrivateAddress a.toList = false := by
  constructor
  · intro h
    rcases hparse : parseUrl p raw with _ | parsed
    · rw [checkUrl, hparse] at h
      cases h
    cases parsed with
    | other protocol =>
      rw [checkUrl, hparse] at h
      cases h
    | https found =>
      rw [checkUrl, hparse] at h
      simp only at h
      split at h
      · cases h
      rename_i hcredentials
      split at h
      · cases h
      rename_i hhost
      split at h
      · cases h
      rename_i hport
      split at h
      · cases h
      rename_i addresses haddresses
      split at h
      · cases h
      rename_i hsome
      obtain ⟨rfl, hall⟩ := checkAddresses_iff.mp h
      push Not at hcredentials hhost hport
      refine ⟨⟨hparse, hcredentials.1, hcredentials.2, hhost, hport⟩, addresses, haddresses, ?_, hall⟩
      rintro rfl
      -- a literal is its own address
      unfold addressesOf at haddresses
      split at haddresses
      · cases haddresses
      · rename_i hip
        exact hsome ⟨not_not.mp hip, rfl⟩
  · rintro ⟨hpasses, addresses, haddresses, hne, hall⟩
    rw [checkUrl, hpasses.parsed]
    simp only
    rw [if_neg, if_neg (not_not.mpr hpasses.host), if_neg (not_not.mpr hpasses.port), haddresses]
    · simp only
      rw [if_neg fun h => hne (List.length_eq_zero_iff.mp h.2), checkAddresses_iff]
      exact ⟨rfl, hall⟩
    · rintro (h | h)
      · exact h hpasses.noUser
      · exact h hpasses.noPassword

theorem known_of_metadata {s : String} {a : IpAddress} (h : Denotes s.toList a)
    (hmetadata : isMetadataAddress s = true) : Known s.toList a := by
  unfold isMetadataAddress at hmetadata
  rw [denotes_iff] at h
  generalize hnormal : normalized s.toList = text at h hmetadata
  have htext : text ∈ METADATA_ADDRESSES.map String.toList := by
    rw [decide_eq_true_eq] at hmetadata
    exact List.mem_map.mpr ⟨_, hmetadata, String.toList_ofList⟩
  have hread : ∀ t ∈ METADATA_ADDRESSES.map String.toList, ∀ n, parseIp t = some (.v6 n) →
      uniqueLocal.Holds n := by
    have hall : (METADATA_ADDRESSES.map String.toList).all (fun t => isIP t = 4 ||
        parseIp t = some (.v6 0xfd000ec2000000000000000000000254)) = true := by decide
    intro t ht n hn
    have hone := List.all_eq_true.mp hall t ht
    rw [Bool.or_eq_true, decide_eq_true_eq, decide_eq_true_eq, isIP, hn] at hone
    rcases hone with hfour | hsix
    · cases hfour
    · rw [IpAddress.v6.inj (Option.some.inj hsix)]
      decide
  cases a with
  | v4 n => exact trivial
  | v6 n => exact .inl (hread text htext n h)

/-- **Whether an address that must not be reached is refused depends on its spelling.** -/
theorem egress_by_spelling (p : Platform) (raw : String) (policy : EgressPolicy) (url : Url) :
    (∀ s a, Denotes s a → Forbidden a → (isPrivateAddress s = true ↔ Known s a)) ∧
    (checkUrl p raw policy = .ok url → ∀ addresses,
      addressesOf policy (toLowerCase url.hostname) = .ok addresses → ∀ s ∈ addresses,
        ∀ a, Denotes s.toList a → Forbidden a → ¬ Known s.toList a) ∧
    ∀ addresses, Passes p raw policy url →
      addressesOf policy (toLowerCase url.hostname) = .ok addresses → addresses ≠ [] →
      (∀ s ∈ addresses, ∃ a, Denotes s.toList a ∧ Forbidden a ∧ ¬ Known s.toList a) →
        checkUrl p raw policy = .ok url := by
  refine ⟨fun s a => private_iff_known, ?_, ?_⟩
  · intro hok addresses haddresses s hs a hdenotes hforbidden hknown
    obtain ⟨_, found, hfound, _, hall⟩ := checkUrl_ok_iff.mp hok
    rw [haddresses, Except.ok.injEq] at hfound
    subst hfound
    rw [← private_iff_known hdenotes hforbidden, (hall s hs).2] at hknown
    cases hknown
  · intro addresses hpasses haddresses hne hmissed
    refine checkUrl_ok_iff.mpr ⟨hpasses, addresses, haddresses, hne, fun s hs => ?_⟩
    obtain ⟨a, hdenotes, hforbidden, hknown⟩ := hmissed s hs
    exact ⟨eq_false_of_ne_true fun hmetadata => hknown (known_of_metadata hdenotes hmetadata),
      eq_false_of_ne_true fun h => hknown ((private_iff_known hdenotes hforbidden).mp h)⟩

/-- The name of the allowed host resolves to a link-local address. -/
def missedPolicy : EgressPolicy where
  allowedHosts := ["api.example"]
  allowedPorts := [443]
  maxRedirects := 2
  resolve := fun _ => .ok ["fe81::1"]

/-- Hosts are taken as they are written. -/
def plainPlatform : Platform where
  parseHost := some
  otherProtocol := fun _ => none
  isIP := fun host => isIP host.toList

def apiUrl : Url := ⟨"", "", "api.example", "", "/"⟩

theorem passes_api : Passes plainPlatform "https://api.example/" missedPolicy apiUrl :=
  ⟨by decide, rfl, rfl, by decide, by decide⟩

theorem missed_linkLocal :
    Denotes "fe81::1".toList (.v6 0xfe810000000000000000000000000001) ∧
      Forbidden (.v6 0xfe810000000000000000000000000001) ∧
      isPrivateAddress "fe81::1".toList = false := by
  refine ⟨by decide, .v6 (r := linkLocal) (by simp [forbiddenV6]) (by decide), ?_⟩
  rw [private_of_normalized]
  decide

/-- What the law asks fails for the text, and for a host that resolves to it. -/
theorem missed_spelling :
    (¬ ∀ s a, Denotes s a → Forbidden a → isPrivateAddress s = true) ∧
    ¬ ∀ p raw policy url, checkUrl p raw policy = .ok url → ∀ addresses,
      addressesOf policy (toLowerCase url.hostname) = .ok addresses → ∀ s ∈ addresses,
        ∀ a, Denotes s.toList a → ¬ Forbidden a := by
  obtain ⟨hdenotes, hforbidden, hmissed⟩ := missed_linkLocal
  refine ⟨fun hclaim => ?_, fun hclaim => ?_⟩
  · have hprivate := hclaim _ _ hdenotes hforbidden
    rw [hmissed] at hprivate
    cases hprivate
  · have hok : checkUrl plainPlatform "https://api.example/" missedPolicy = .ok apiUrl := by
      refine checkUrl_ok_iff.mpr ⟨passes_api, ["fe81::1"], rfl, by decide, fun a ha => ?_⟩
      rw [List.mem_singleton.mp ha]
      exact ⟨by decide, hmissed⟩
    exact hclaim plainPlatform _ missedPolicy apiUrl hok ["fe81::1"] rfl "fe81::1"
      List.mem_cons_self _ hdenotes hforbidden

/-- The beginning of the range in capitals is refused, a host in the rest of it admitted. -/
theorem egress_of_linkLocal : isPrivateAddress "[FE80:0::1]".toList = true ∧
    checkUrl plainPlatform "https://api.example/" missedPolicy = .ok apiUrl := by
  have hforbidden : Forbidden (.v6 0xfe800000000000000000000000000001) :=
    .v6 (r := linkLocal) (by simp [forbiddenV6]) (by decide)
  obtain ⟨hspelling, -, hadmitted⟩ := egress_by_spelling plainPlatform "https://api.example/"
    missedPolicy apiUrl
  refine ⟨(hspelling _ (.v6 0xfe800000000000000000000000000001) (by decide)
    hforbidden).mpr (.inr (.inr (.inl (by decide)))), ?_⟩
  refine hadmitted ["fe81::1"] passes_api rfl (by decide) fun s hs => ?_
  rw [List.mem_singleton.mp hs]
  obtain ⟨hdenotes, hmissed, hprivate⟩ := missed_linkLocal
  refine ⟨_, hdenotes, hmissed, fun hknown => ?_⟩
  rw [← private_iff_known hdenotes hmissed, hprivate] at hknown
  cases hknown

end ContextLock.OpenApi
