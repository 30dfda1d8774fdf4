/-
  Subject:   The texts of internet addresses, as `isIP` of `node:net` reads them.

  An address has one dotted spelling in the fourth version and many in the sixth: groups of one to
  four digits of either case, one run of zero groups elided, the last two groups as a dotted quad,
  a zone at the end.
-/
import ContextLock.Js.Amount
import ContextLock.Js.Join

namespace ContextLock.Js

/-! ## 1. Addresses -/

/-- An address of one of the two families. -/
inductive IpAddress where
  | v4 (n : BitVec 32)
  | v6 (n : BitVec 128)
  deriving DecidableEq

/-- The addresses whose first `length` bits are those of `base`. -/
structure Cidr (w : Nat) where
  base : Nat
  length : Nat

def Cidr.Holds {w : Nat} (r : Cidr w) (n : BitVec w) : Prop :=
  n.toNat / 2 ^ (w - r.length) = r.base / 2 ^ (w - r.length)

instance Cidr.decidableHolds {w : Nat} (r : Cidr w) (n : BitVec w) : Decidable (r.Holds n) :=
  inferInstanceAs (Decidable (_ = _))

def digitsNumber (b : Nat) : List Nat → Nat
  | [] => 0
  | d :: ds => d * b ^ ds.length + digitsNumber b ds

theorem digitsNumber_lt {b : Nat} {ds : List Nat} (h : ∀ d ∈ ds, d < b) :
    digitsNumber b ds < b ^ ds.length := by
  induction ds with
  | nil => simp [digitsNumber]
  | cons d ds ih =>
    have hd : d + 1 ≤ b := h d List.mem_cons_self
    have hrest := ih fun e he => h e (List.mem_cons_of_mem d he)
    calc digitsNumber b (d :: ds)
        = d * b ^ ds.length + digitsNumber b ds := rfl
      _ < d * b ^ ds.length + b ^ ds.length := by omega
      _ = (d + 1) * b ^ ds.length := by rw [Nat.succ_mul]
      _ ≤ b * b ^ ds.length := Nat.mul_le_mul_right _ hd
      _ = b ^ (d :: ds).length := by rw [List.length_cons, Nat.pow_succ']

theorem digitsNumber_zeros (b k : Nat) (ds : List Nat) :
    digitsNumber b (List.replicate k 0 ++ ds) = digitsNumber b ds := by
  induction k with
  | zero => rfl
  | succ k ih =>
    rw [List.replicate_succ, List.cons_append, digitsNumber, ih, Nat.zero_mul, Nat.zero_add]

/-! ## 2. Reading -/

/-- The decimal text of a number below 256, without leading zeros. -/
def parseOctet (cs : List Char) : Option Nat :=
  let n := Nat.ofDigitChars 10 cs 0
  if n < 256 ∧ Nat.toDigits 10 n = cs then some n else none

/-- The four octets of a dotted quad. -/
def parseV4 (cs : List Char) : Option (List Nat) :=
  let parts := cs.splitOn '.'
  if parts.length = 4 then parts.mapM parseOctet else none

def parseGroup (cs : List Char) : Option Nat :=
  if 1 ≤ cs.length ∧ cs.length ≤ 4 then digitsValue cs else none

def parseLast (cs : List Char) : Option (List Nat) :=
  match parseGroup cs with
  | some g => some [g]
  | none =>
    match parseV4 cs with
    | some [a, b, c, d] => some [256 * a + b, 256 * c + d]
    | _ => none

def parseParts : List (List Char) → Option (List Nat)
  | [] => some []
  | [last] => parseLast last
  | part :: parts =>
    match parseGroup part, parseParts parts with
    | some g, some gs => some (g :: gs)
    | _, _ => none

/-- What stands before and after the first `::`. -/
def splitElision : List Char → Option (List Char × List Char)
  | ':' :: ':' :: rest => some ([], rest)
  | c :: rest => (splitElision rest).map fun sides => (c :: sides.1, sides.2)
  | [] => none

/-- The parts of one side of the `::`. -/
def sideParts (cs : List Char) : List (List Char) := if cs = [] then [] else cs.splitOn ':'

/-- The eight groups of an address without a zone. -/
def parseV6 (cs : List Char) : Option (List Nat) :=
  match splitElision cs with
  | none =>
    match parseParts (cs.splitOn ':') with
    | some gs => if gs.length = 8 then some gs else none
    | none => none
  | some (l, r) =>
    match (sideParts l).mapM parseGroup, parseParts (sideParts r) with
    | some gs, some hs =>
      if gs.length + hs.length ≤ 7 then
        some (gs ++ List.replicate (8 - gs.length - hs.length) 0 ++ hs)
      else none
    | _, _ => none

def zoneChar (c : Char) : Bool := c.isAlphanum || c ∈ ['-', '.', ':']

/-- What follows the address: nothing, or `%` and a zone. -/
def validZone : List Char → Bool
  | [] => true
  | c :: zone => c = '%' && zone ≠ [] && zone.all zoneChar

/-- The address a text spells. -/
def parseIp (cs : List Char) : Option IpAddress :=
  match parseV4 cs with
  | some octets => some (.v4 (BitVec.ofNat 32 (digitsNumber 256 octets)))
  | none =>
    if validZone (cs.dropWhile (· ≠ '%')) then
      (parseV6 (cs.takeWhile (· ≠ '%'))).map fun gs =>
        .v6 (BitVec.ofNat 128 (digitsNumber 65536 gs))
    else none

/-- `isIP(s)`. -/
def isIP (cs : List Char) : Nat :=
  match parseIp cs with
  | none => 0
  | some (.v4 _) => 4
  | some (.v6 _) => 6

/-- One address in four spellings, and one in a zone. -/
example : ["::1", "0:0:0:0:0:0:0:1", "0::0001", "::0.0.0.1", "::1%eth0"].map (parseIp ·.toList) =
    List.replicate 5 (some (.v6 1)) := by decide

/-- No address: a leading zero, a group too many, two elisions, a quad in the middle. -/
example : ["01.2.3.4", "1:2:3:4:5:6:7:8:9", "1::2::3", "1:1.2.3.4::", "::%"].map
    (isIP ·.toList) = [0, 0, 0, 0, 0] := by decide

/-! ## 3. Parts -/

theorem mapM_eq_some_iff {α β : Type} {f : α → Option β} {xs : List α} {ys : List β} :
    xs.mapM f = some ys ↔ List.Forall₂ (fun x y => f x = some y) xs ys := by
  induction xs generalizing ys with
  | nil => simp [eq_comm]
  | cons x xs ih =>
    rw [List.mapM_cons]
    cases hx : f x with
    | none =>
      constructor
      · intro h
        cases h
      · intro h
        cases h with
        | cons hy _ => rw [hx] at hy; cases hy
    | some y =>
      constructor
      · intro h
        obtain ⟨zs, hzs, rfl⟩ : ∃ zs, xs.mapM f = some zs ∧ y :: zs = ys := by
          simpa [Option.bind_eq_some_iff] using h
        exact .cons hx (ih.mp hzs)
      · intro h
        cases h with
        | cons hy hrest =>
          rw [hx, Option.some.injEq] at hy
          simp [ih.mpr hrest, hy]

variable {cs q : List Char} {gs octets : List Nat} {parts : List (List Char)}

theorem parseOctet_iff {n : Nat} :
    parseOctet cs = some n ↔ n < 256 ∧ cs = Nat.toDigits 10 n := by
  unfold parseOctet
  constructor
  · intro h
    simp only at h
    split at h
    · rename_i hn
      rw [Option.some.injEq] at h
      rw [← h]
      exact ⟨hn.1, hn.2.symm⟩
    · cases h
  · rintro ⟨hn, rfl⟩
    simp [Nat.ofDigitChars_ten_toDigits, hn]

theorem isDigit_of_octet {n : Nat} {c : Char} (h : c ∈ Nat.toDigits 10 n) : c.isDigit = true :=
  Nat.isDigit_of_mem_toDigits (by decide) (by decide) h

theorem splitOn_octets (hlen : octets.length = 4) :
    (['.'].intercalate (octets.map (Nat.toDigits 10))).splitOn '.' =
      octets.map (Nat.toDigits 10) := by
  refine List.splitOn_intercalate '.' (fun t ht hmem => ?_) fun hnil => ?_
  · obtain ⟨o, _, rfl⟩ := List.mem_map.mp ht
    exact absurd (isDigit_of_octet hmem) (by decide)
  · rw [List.map_eq_nil_iff.mp hnil] at hlen
    cases hlen

/-- **A quad is its four octets, each in decimal digits.** -/
theorem parseV4_iff :
    parseV4 cs = some octets ↔ octets.length = 4 ∧ (∀ o ∈ octets, o < 256) ∧
      cs = ['.'].intercalate (octets.map (Nat.toDigits 10)) := by
  have hparts (parts : List (List Char)) : parts.mapM parseOctet = some octets ↔
      (∀ o ∈ octets, o < 256) ∧ parts = octets.map (Nat.toDigits 10) := by
    rw [mapM_eq_some_iff]
    constructor
    · intro h
      induction h with
      | nil => simp
      | cons hx _ ih =>
        obtain ⟨hlt, rfl⟩ := parseOctet_iff.mp hx
        exact ⟨List.forall_mem_cons.mpr ⟨hlt, ih.1⟩, by rw [List.map_cons, ← ih.2]⟩
    · rintro ⟨hlt, rfl⟩
      induction octets with
      | nil => simp
      | cons o os ih =>
        refine .cons (parseOctet_iff.mpr ⟨hlt o List.mem_cons_self, rfl⟩) (ih fun x hx => ?_)
        exact hlt x (List.mem_cons_of_mem o hx)
  unfold parseV4
  simp only
  constructor
  · intro h
    split at h
    · rename_i hlen
      obtain ⟨hlt, heq⟩ := (hparts _).mp h
      rw [heq, List.length_map] at hlen
      refine ⟨hlen, hlt, ?_⟩
      rw [← heq, List.intercalate_splitOn]
    · cases h
  · rintro ⟨hlen, hlt, rfl⟩
    rw [splitOn_octets hlen, List.length_map, if_pos hlen, hparts]
    exact ⟨hlt, rfl⟩

theorem splitOn_quad (h : parseV4 q = some octets) :
    q.splitOn '.' = octets.map (Nat.toDigits 10) := by
  obtain ⟨hlen, _, rfl⟩ := parseV4_iff.mp h
  exact splitOn_octets hlen

def Part (cs : List Char) : Prop := cs ≠ [] ∧ ':' ∉ cs

theorem isSome_digitValue_of_mem {v : Nat} (h : digitsValue cs = some v) {c : Char} (hc : c ∈ cs) :
    (digitValue c).isSome = true := by
  induction cs using List.reverseRecOn generalizing v with
  | nil => cases hc
  | append_singleton cs d ih =>
    rw [digitsValue_concat] at h
    obtain ⟨n, hn, hmap⟩ := Option.bind_eq_some_iff.mp h
    obtain ⟨e, he, _⟩ := Option.map_eq_some_iff.mp hmap
    rcases List.mem_append.mp hc with hinit | hlast
    · exact ih hn hinit
    · rw [List.mem_singleton.mp hlast, he]
      rfl

theorem parseGroup_spec {g : Nat} (h : parseGroup cs = some g) :
    (1 ≤ cs.length ∧ cs.length ≤ 4) ∧ digitsValue cs = some g := by
  unfold parseGroup at h
  split at h
  · rename_i hlen
    exact ⟨hlen, h⟩
  · cases h

theorem parseGroup_lt {g : Nat} (h : parseGroup cs = some g) : g < 65536 := by
  obtain ⟨⟨_, hlen⟩, hv⟩ := parseGroup_spec h
  calc g < 16 ^ cs.length := (map_toLower_of_digitsValue hv).2
    _ ≤ 16 ^ 4 := Nat.pow_le_pow_right (by decide) hlen

theorem part_of_group {g : Nat} (h : parseGroup cs = some g) : Part cs := by
  obtain ⟨⟨hlen, _⟩, hv⟩ := parseGroup_spec h
  refine ⟨List.length_pos_iff.mp hlen, fun hmem => ?_⟩
  exact absurd (isSome_digitValue_of_mem hv hmem) (by decide)

theorem quad_chars (h : parseV4 q = some octets) :
    ∀ c ∈ q, c.isDigit = true ∨ c = '.' := by
  obtain ⟨_, _, rfl⟩ := parseV4_iff.mp h
  intro c hc
  rcases mem_of_mem_intercalate hc with hc | ⟨t, ht, hc⟩
  · exact .inr hc
  · obtain ⟨n, _, rfl⟩ := List.mem_map.mp ht
    exact .inl (isDigit_of_octet hc)

theorem point_mem_quad (h : parseV4 q = some octets) :
    '.' ∈ q := by
  obtain ⟨hlen, _, rfl⟩ := parseV4_iff.mp h
  rcases octets with _ | ⟨a, _ | ⟨b, rest⟩⟩
  · cases hlen
  · cases hlen
  · rw [List.map_cons, intercalate_cons]
    simp [tailed]

theorem part_of_quad (h : parseV4 cs = some octets) :
    Part cs := by
  refine ⟨fun hnil => ?_, fun hcolon => ?_⟩
  · have hpoint := point_mem_quad h
    rw [hnil] at hpoint
    cases hpoint
  · rcases quad_chars h ':' hcolon with hdigit | hpoint
    · exact absurd hdigit (by decide)
    · exact absurd hpoint (by decide)

theorem parseLast_cases (h : parseLast cs = some gs) :
    (∃ g, parseGroup cs = some g ∧ gs = [g]) ∨
      ∃ a b c d, parseV4 cs = some [a, b, c, d] ∧ gs = [256 * a + b, 256 * c + d] := by
  unfold parseLast at h
  split at h
  · rename_i g hg
    rw [Option.some.injEq] at h
    exact .inl ⟨g, hg, h.symm⟩
  · split at h
    · rename_i a b c d hquad
      rw [Option.some.injEq] at h
      exact .inr ⟨a, b, c, d, hquad, h.symm⟩
    · cases h

theorem parseParts_nil : parseParts [] = some [] := rfl

theorem parseParts_singleton (last : List Char) : parseParts [last] = parseLast last := rfl

theorem parseParts_cons_cons (p q : List Char) (ps : List (List Char)) :
    parseParts (p :: q :: ps) =
      (parseGroup p).bind fun g => (parseParts (q :: ps)).map (g :: ·) := by
  rw [parseParts]
  · cases parseGroup p with
    | none => rfl
    | some g =>
      cases parseParts (q :: ps) with
      | none => rfl
      | some gs => rfl
  · exact List.cons_ne_nil q ps

theorem parseParts_cons_cons_iff {p : List Char} {ps : List (List Char)} :
    parseParts (p :: q :: ps) = some gs ↔
      ∃ g rest, parseGroup p = some g ∧ parseParts (q :: ps) = some rest ∧ g :: rest = gs := by
  rw [parseParts_cons_cons, Option.bind_eq_some_iff]
  constructor
  · rintro ⟨g, hg, hmap⟩
    obtain ⟨rest, hrest, hgs⟩ := Option.map_eq_some_iff.mp hmap
    exact ⟨g, rest, hg, hrest, hgs⟩
  · rintro ⟨g, rest, hg, hrest, hgs⟩
    exact ⟨g, hg, Option.map_eq_some_iff.mpr ⟨rest, hrest, hgs⟩⟩

/-- What is read from parts: every part is one, every group is below `2 ^ 16`. -/
theorem parseParts_spec (h : parseParts parts = some gs) :
    (∀ p ∈ parts, Part p) ∧ (∀ g ∈ gs, g < 65536) := by
  induction parts generalizing gs with
  | nil =>
    rw [parseParts_nil, Option.some.injEq] at h
    simp [← h]
  | cons p ps ih =>
    rcases ps with _ | ⟨q, ps⟩
    · rw [parseParts_singleton] at h
      rcases parseLast_cases h with ⟨g, hg, rfl⟩ | ⟨a, b, c, d, hquad, rfl⟩
      · simp [part_of_group hg, parseGroup_lt hg]
      · obtain ⟨_, hlt, _⟩ := parseV4_iff.mp hquad
        have ha := hlt a (by simp)
        have hb := hlt b (by simp)
        have hc := hlt c (by simp)
        have hd := hlt d (by simp)
        refine ⟨by simp [part_of_quad hquad], ?_⟩
        simp only [List.mem_cons, List.not_mem_nil, or_false, forall_eq_or_imp, forall_eq]
        omega
    · obtain ⟨g, rest, hg, hrest, hgs⟩ := parseParts_cons_cons_iff.mp h
      obtain ⟨hparts, hlt⟩ := ih hrest
      rw [← hgs]
      exact ⟨List.forall_mem_cons.mpr ⟨part_of_group hg, hparts⟩,
        List.forall_mem_cons.mpr ⟨parseGroup_lt hg, hlt⟩⟩

theorem groups_spec (h : parts.mapM parseGroup = some gs) :
    (∀ p ∈ parts, Part p) ∧ (∀ g ∈ gs, g < 65536) := by
  rw [mapM_eq_some_iff] at h
  induction h with
  | nil => simp
  | cons hg _ ih =>
    exact ⟨List.forall_mem_cons.mpr ⟨part_of_group hg, ih.1⟩,
      List.forall_mem_cons.mpr ⟨parseGroup_lt hg, ih.2⟩⟩

/-! ## 4. The elision -/

abbrev joinParts (parts : List (List Char)) : List Char := [':'].intercalate parts

theorem splitElision_colons (rest : List Char) :
    splitElision (':' :: ':' :: rest) = some ([], rest) := rfl

theorem splitElision_cons {c : Char} (h : ∀ rest, c :: cs ≠ ':' :: ':' :: rest) :
    splitElision (c :: cs) = (splitElision cs).map fun sides => (c :: sides.1, sides.2) := by
  rw [splitElision]
  intro rest hc hcs
  exact h rest (by rw [hc, hcs])

theorem colons_or (c : Char) (cs : List Char) :
    (∃ rest, c :: cs = ':' :: ':' :: rest) ∨ ∀ rest, c :: cs ≠ ':' :: ':' :: rest := by
  by_cases h : ∃ rest, c :: cs = ':' :: ':' :: rest
  · exact .inl h
  · exact .inr fun rest heq => h ⟨rest, heq⟩

theorem splitElision_some {l r : List Char} (h : splitElision cs = some (l, r)) :
    cs = l ++ ':' :: ':' :: r := by
  induction cs generalizing l with
  | nil => cases h
  | cons c cs ih =>
    rcases colons_or c cs with ⟨rest, heq⟩ | hother
    · rw [heq, splitElision_colons] at h
      obtain ⟨rfl, rfl⟩ : [] = l ∧ rest = r := by simpa using h
      exact heq
    · rw [splitElision_cons hother] at h
      obtain ⟨sides, hsides, hpair⟩ := Option.map_eq_some_iff.mp h
      obtain ⟨rfl, rfl⟩ : c :: sides.1 = l ∧ sides.2 = r := by simpa using hpair
      rw [ih (l := sides.1) hsides, List.cons_append]

theorem splitElision_append {p : List Char} (hp : ':' ∉ p) (rest : List Char) :
    splitElision (p ++ rest) = (splitElision rest).map fun sides => (p ++ sides.1, sides.2) := by
  induction p with
  | nil => simp
  | cons c p ih =>
    have hc : c ≠ ':' := fun h => hp (h ▸ List.mem_cons_self)
    have hother : ∀ x, c :: (p ++ rest) ≠ ':' :: ':' :: x := fun x heq => hc (List.cons.inj heq).1
    rw [List.cons_append, splitElision_cons hother, ih fun h => hp (List.mem_cons_of_mem c h),
      Option.map_map]
    rfl

theorem splitElision_part {p : List Char} (hp : Part p) (rest : List Char) :
    splitElision (':' :: (p ++ rest)) =
      (splitElision rest).map fun sides => (':' :: p ++ sides.1, sides.2) := by
  rcases p with _ | ⟨c, p⟩
  · exact absurd rfl hp.1
  have hc : c ≠ ':' := fun h => hp.2 (h ▸ List.mem_cons_self)
  have hother : ∀ x, ':' :: (c :: p ++ rest) ≠ ':' :: ':' :: x := by
    intro x heq
    exact hc (List.cons.inj (List.cons.inj heq).2).1
  rw [splitElision_cons hother, splitElision_append hp.2, Option.map_map]
  rfl

theorem splitElision_joined (h : ∀ p ∈ parts, Part p) (rest : List Char) :
    splitElision (joinParts parts ++ rest) =
      (splitElision rest).map fun sides => (joinParts parts ++ sides.1, sides.2) := by
  have htail (ps : List (List Char)) (hps : ∀ p ∈ ps, Part p) : splitElision (tailed ':' ps ++ rest) =
      (splitElision rest).map fun sides => (tailed ':' ps ++ sides.1, sides.2) := by
    induction ps with
    | nil => simp [tailed]
    | cons p ps ih =>
      obtain ⟨hp, hrest⟩ := List.forall_mem_cons.mp hps
      have hcons (x : List Char) : tailed ':' (p :: ps) ++ x = ':' :: (p ++ (tailed ':' ps ++ x)) := by
        simp [tailed]
      rw [hcons, splitElision_part hp, ih hrest, Option.map_map]
      simp [hcons, Function.comp_def]
  rcases parts with _ | ⟨p, ps⟩
  · simp [joinParts]
  · obtain ⟨hp, hrest⟩ := List.forall_mem_cons.mp h
    have hcons (x : List Char) : joinParts (p :: ps) ++ x = p ++ (tailed ':' ps ++ x) := by
      rw [joinParts, intercalate_cons, List.append_assoc]
    rw [hcons, splitElision_append hp.2, htail ps hrest, Option.map_map]
    simp [hcons, Function.comp_def]

theorem splitOn_joined (h : ∀ p ∈ parts, Part p) (hne : parts ≠ []) :
    (joinParts parts).splitOn ':' = parts :=
  List.splitOn_intercalate ':' (fun p hp => (h p hp).2) hne

theorem sideParts_joined (h : ∀ p ∈ parts, Part p) :
    sideParts (joinParts parts) = parts := by
  unfold sideParts
  rcases parts with _ | ⟨p, ps⟩
  · rfl
  · have hne : joinParts (p :: ps) ≠ [] := by
      rw [joinParts, intercalate_cons]
      intro hnil
      exact (h p List.mem_cons_self).1 (List.append_eq_nil_iff.mp hnil).1
    rw [if_neg hne, splitOn_joined h (List.cons_ne_nil p ps)]

theorem joinParts_sideParts (cs : List Char) : joinParts (sideParts cs) = cs := by
  unfold sideParts
  split
  · rename_i h
    rw [h]
    rfl
  · exact List.intercalate_splitOn ':'

theorem parseV6_whole (h : splitElision cs = none) : parseV6 cs =
    (parseParts (cs.splitOn ':')).bind fun gs => if gs.length = 8 then some gs else none := by
  unfold parseV6
  rw [h]
  cases parseParts (cs.splitOn ':') with
  | none => rfl
  | some gs => rfl

theorem parseV6_elided {l r : List Char} (h : splitElision cs = some (l, r)) : parseV6 cs =
    ((sideParts l).mapM parseGroup).bind fun gs => (parseParts (sideParts r)).bind fun hs =>
      if gs.length + hs.length ≤ 7 then
        some (gs ++ List.replicate (8 - gs.length - hs.length) 0 ++ hs)
      else none := by
  unfold parseV6
  simp only [h]
  cases (sideParts l).mapM parseGroup with
  | none => rfl
  | some gs =>
    cases parseParts (sideParts r) with
    | none => rfl
    | some hs => rfl

/-- **What is read is what is joined**: eight groups, or fewer around an elision. -/
theorem parseV6_iff : parseV6 cs = some gs ↔
    (∃ parts, cs = joinParts parts ∧ parseParts parts = some gs ∧ gs.length = 8) ∨
    ∃ l r before after, cs = joinParts l ++ ':' :: ':' :: joinParts r ∧
      l.mapM parseGroup = some before ∧ parseParts r = some after ∧
      before.length + after.length ≤ 7 ∧
      gs = before ++ List.replicate (8 - before.length - after.length) 0 ++ after := by
  constructor
  · intro h
    cases hsplit : splitElision cs with
    | none =>
      rw [parseV6_whole hsplit] at h
      obtain ⟨groups, hgroups, hfull⟩ := Option.bind_eq_some_iff.mp h
      obtain ⟨hlen, hgs⟩ := Option.ite_none_right_eq_some.mp hfull
      obtain rfl := Option.some.inj hgs
      exact .inl ⟨_, (List.intercalate_splitOn ':').symm, hgroups, hlen⟩
    | some sides =>
      obtain ⟨l, r⟩ := sides
      rw [parseV6_elided hsplit] at h
      obtain ⟨before, hbefore, hrest⟩ := Option.bind_eq_some_iff.mp h
      obtain ⟨after, hafter, hfull⟩ := Option.bind_eq_some_iff.mp hrest
      obtain ⟨hlen, hgs⟩ := Option.ite_none_right_eq_some.mp hfull
      refine .inr ⟨_, _, before, after, ?_, hbefore, hafter, hlen, (Option.some.inj hgs).symm⟩
      rw [joinParts_sideParts, joinParts_sideParts]
      exact splitElision_some hsplit
  · rintro (⟨parts, rfl, hgroups, hlen⟩ | ⟨l, r, before, after, rfl, hbefore, hafter, hlen, rfl⟩)
    · have hparts := (parseParts_spec hgroups).1
      have hne : parts ≠ [] := by
        rintro rfl
        rw [parseParts_nil, Option.some.injEq] at hgroups
        rw [← hgroups] at hlen
        cases hlen
      have hsplit : splitElision (joinParts parts) = none := by
        have hjoined := splitElision_joined hparts []
        rwa [List.append_nil] at hjoined
      rw [parseV6_whole hsplit, splitOn_joined hparts hne, hgroups, Option.bind_some, if_pos hlen]
    · have hl := (groups_spec hbefore).1
      have hr := (parseParts_spec hafter).1
      have hsplit : splitElision (joinParts l ++ ':' :: ':' :: joinParts r) =
          some (joinParts l, joinParts r) := by
        rw [splitElision_joined hl, splitElision_colons, Option.map_some, List.append_nil]
      rw [parseV6_elided hsplit, sideParts_joined hl, sideParts_joined hr, hbefore, hafter,
        Option.bind_some, Option.bind_some, if_pos hlen]

theorem parseV6_spec (h : parseV6 cs = some gs) :
    gs.length = 8 ∧ ∀ g ∈ gs, g < 65536 := by
  rcases parseV6_iff.mp h with ⟨_, _, hgroups, hlen⟩ | ⟨_, _, before, after, _, hb, ha, hlen, rfl⟩
  · exact ⟨hlen, (parseParts_spec hgroups).2⟩
  · refine ⟨by simp only [List.length_append, List.length_replicate]; omega, fun g hg => ?_⟩
    rcases List.mem_append.mp hg with hg | hg
    · rcases List.mem_append.mp hg with hg | hg
      · exact (groups_spec hb).2 g hg
      · rw [List.eq_of_mem_replicate hg]
        decide
    · exact (parseParts_spec ha).2 g hg

/-- **The first group stands at the front**, or it is elided and zero. -/
theorem head_of_parseV6 {g : Nat} (h : parseV6 cs = some (g :: gs)) :
    (g = 0 ∧ ∃ rest, cs = ':' :: ':' :: rest) ∨
      ∃ p rest, cs = p ++ ':' :: rest ∧ parseGroup p = some g := by
  rcases parseV6_iff.mp h with ⟨parts, rfl, hgroups, hlen⟩ |
    ⟨l, r, before, after, rfl, hbefore, hafter, hlen, hgs⟩
  · -- eight groups take more than one part
    rcases parts with _ | ⟨p, _ | ⟨q, ps⟩⟩
    · cases hgroups
    · rcases parseLast_cases hgroups with ⟨_, _, heq⟩ | ⟨_, _, _, _, _, heq⟩
      all_goals
        rw [heq] at hlen
        cases hlen
    · obtain ⟨g', rest, hg, _, hgs⟩ := parseParts_cons_cons_iff.mp hgroups
      obtain ⟨rfl, _⟩ := List.cons.inj hgs
      refine .inr ⟨p, q ++ tailed ':' ps, ?_, hg⟩
      simp [joinParts, intercalate_cons, tailed]
  · rcases l with _ | ⟨p, ps⟩
    · obtain rfl : before = [] := by simpa using hbefore.symm
      refine .inl ⟨?_, joinParts r, rfl⟩
      obtain ⟨k, hk⟩ : ∃ k, 8 - after.length = k + 1 := ⟨7 - after.length, by simp at hlen; omega⟩
      rw [List.length_nil, Nat.sub_zero, hk, List.replicate_succ] at hgs
      exact (List.cons.inj hgs).1
    · rw [mapM_eq_some_iff] at hbefore
      cases hbefore with
      | cons hp hrest =>
        obtain ⟨rfl, _⟩ := List.cons.inj hgs
        rcases ps with _ | ⟨q, ps⟩
        · exact .inr ⟨p, ':' :: joinParts r, by simp [joinParts], hp⟩
        · refine .inr ⟨p, q ++ tailed ':' ps ++ ':' :: ':' :: joinParts r, ?_, hp⟩
          simp [joinParts, intercalate_cons, tailed]

/-- A quad after `::ffff:` is the last two groups. -/
theorem parseV6_of_quad {a b c d : Nat} (h : parseV4 q = some [a, b, c, d]) :
    parseV6 ("::ffff:".toList ++ q) =
      some [0, 0, 0, 0, 0, 65535, 256 * a + b, 256 * c + d] := by
  have hpoint := point_mem_quad h
  have hgroup : parseGroup q = none := by
    rw [Option.eq_none_iff_forall_ne_some]
    intro g hg
    exact absurd (isSome_digitValue_of_mem (parseGroup_spec hg).2 hpoint) (by decide)
  refine parseV6_iff.mpr (.inr ⟨[], ["ffff".toList, q], [], [65535, 256 * a + b, 256 * c + d],
    ?_, rfl, ?_, by simp, rfl⟩)
  · simp [joinParts]
  · have hlast : parseParts [q] = some [256 * a + b, 256 * c + d] := by
      rw [parseParts_singleton, parseLast, hgroup, h]
    have hffff : parseGroup "ffff".toList = some 65535 := by decide
    rw [parseParts_cons_cons, hlast, hffff]
    rfl

/-- What is read after `::ffff:`, where it has a point and no colon, is a quad. -/
theorem quad_of_parseV6 (hcolon : ':' ∉ q) (hpoint : '.' ∈ q)
    (h : parseV6 ("::ffff:".toList ++ q) = some gs) : ∃ octets, parseV4 q = some octets := by
  have hsides : sideParts ("ffff:".toList ++ q) = ["ffff".toList, q] := by
    have hfirst : ':' ∉ "ffff".toList := by decide
    have hsplit := List.splitOn_append_cons_self_of_not_mem hfirst q
    rw [List.splitOn_eq_singleton hcolon] at hsplit
    unfold sideParts
    rw [if_neg (by simp)]
    exact hsplit
  have helision : splitElision ("::ffff:".toList ++ q) = some ([], "ffff:".toList ++ q) := rfl
  have hffff : parseGroup "ffff".toList = some 65535 := by decide
  have hread : parseParts [q] ≠ none := by
    intro hnone
    have hparts : parseParts (sideParts ("ffff:".toList ++ q)) = none := by
      rw [hsides, parseParts_cons_cons, hffff, hnone]
      rfl
    rw [parseV6_elided helision, hparts] at h
    cases hside : (sideParts []).mapM parseGroup with
    | none | some gs =>
      rw [hside] at h
      cases h
  obtain ⟨last, hlast⟩ := Option.ne_none_iff_exists'.mp hread
  rw [parseParts_singleton] at hlast
  rcases parseLast_cases hlast with ⟨g, hg, _⟩ | ⟨a, b, c, d, hquad, _⟩
  · exact absurd (isSome_digitValue_of_mem (parseGroup_spec hg).2 hpoint) (by decide)
  · exact ⟨[a, b, c, d], hquad⟩

/-! ## 5. Letters of either case -/

/-- `s.toLowerCase()`. -/
abbrev lowerText (cs : List Char) : List Char := cs.map Char.toLower

set_option maxRecDepth 4000 in
theorem ascii_toLower {c : Char} (h : c.toNat < 128) :
    (c.toLower = c ∨ c.toLower.isAlpha = true ∧ c.isAlpha = true) ∧
      digitValue c.toLower = digitValue c ∧ zoneChar c.toLower = zoneChar c ∧
      (c.isDigit = true → c.isAlpha = false) := by
  have hall : ∀ k < 128,
      ((Char.ofNat k).toLower = Char.ofNat k ∨
        (Char.ofNat k).toLower.isAlpha = true ∧ (Char.ofNat k).isAlpha = true) ∧
      digitValue (Char.ofNat k).toLower = digitValue (Char.ofNat k) ∧
      zoneChar (Char.ofNat k).toLower = zoneChar (Char.ofNat k) ∧
      ((Char.ofNat k).isDigit = true → (Char.ofNat k).isAlpha = false) := by decide
  have hc := hall c.toNat h
  rwa [Char.ofNat_toNat] at hc

theorem toLower_cases (c : Char) :
    c.toLower = c ∨ c.toLower.isAlpha = true ∧ c.isAlpha = true ∧ c.toNat < 128 := by
  rcases Nat.lt_or_ge c.toNat 128 with h | h
  · exact (ascii_toLower h).1.imp_right fun hletters => ⟨hletters.1, hletters.2, h⟩
  · left
    unfold Char.toLower
    rw [dif_neg]
    intro hupper
    have hlast : c.toNat ≤ 90 := hupper.2
    omega

theorem toLower_eq_iff {c d : Char} (hd : d.isAlpha = false) : c.toLower = d ↔ c = d := by
  rcases toLower_cases c with hsame | ⟨hlower, hletter, _⟩
  · rw [hsame]
  · constructor
    · intro h
      rw [h, hd] at hlower
      cases hlower
    · intro h
      rw [h, hd] at hletter
      cases hletter

theorem digitValue_toLower (c : Char) : digitValue c.toLower = digitValue c := by
  rcases toLower_cases c with hsame | ⟨_, _, hlt⟩
  · rw [hsame]
  · exact (ascii_toLower hlt).2.1

theorem zoneChar_toLower (c : Char) : zoneChar c.toLower = zoneChar c := by
  rcases toLower_cases c with hsame | ⟨_, _, hlt⟩
  · rw [hsame]
  · exact (ascii_toLower hlt).2.2.1

theorem digitsValue_lower (cs : List Char) : digitsValue (lowerText cs) = digitsValue cs := by
  unfold digitsValue
  rw [List.foldlM_map]
  simp only [digitValue_toLower]

theorem lowerText_eq_iff {ds : List Char} (hd : ∀ d ∈ ds, d.isAlpha = false) :
    lowerText cs = ds ↔ cs = ds := by
  induction cs generalizing ds with
  | nil => rfl
  | cons c cs ih =>
    rcases ds with _ | ⟨d, ds⟩
    · simp
    · obtain ⟨hfirst, hrest⟩ := List.forall_mem_cons.mp hd
      rw [lowerText, List.map_cons, List.cons.injEq, List.cons.injEq, toLower_eq_iff hfirst]
      exact and_congr_right fun _ => ih hrest

theorem splitOn_lower {d : Char} (hd : d.isAlpha = false) (cs : List Char) :
    (lowerText cs).splitOn d = (cs.splitOn d).map lowerText := by
  induction cs with
  | nil => simp
  | cons c cs ih =>
    rw [lowerText, List.map_cons, List.splitOn_cons_eq_if_modifyHead,
      List.splitOn_cons_eq_if_modifyHead, ← lowerText, ih]
    by_cases hc : c = d
    · subst hc
      have hlower : c.toLower = c := (toLower_eq_iff hd).mpr rfl
      simp [hlower]
    · have hlower : c.toLower ≠ d := fun h => hc ((toLower_eq_iff hd).mp h)
      rcases List.exists_cons_of_ne_nil (List.splitOn_ne_nil d cs) with ⟨p, ps, hsplit⟩
      simp [hc, hlower, hsplit, lowerText]

theorem isAlpha_of_isDigit {c : Char} (h : c.isDigit = true) : c.isAlpha = false := by
  have hc : c.toNat < 128 := by
    have hlast : c.toNat ≤ 57 := by
      simp only [Char.isDigit, Bool.and_eq_true, decide_eq_true_eq] at h
      exact h.2
    omega
  exact (ascii_toLower hc).2.2.2 h

theorem parseOctet_lower (cs : List Char) : parseOctet (lowerText cs) = parseOctet cs := by
  have hdigits (n : Nat) : ∀ d ∈ Nat.toDigits 10 n, d.isAlpha = false := fun d hd =>
    isAlpha_of_isDigit (isDigit_of_octet hd)
  refine Option.ext fun n => ?_
  rw [parseOctet_iff, parseOctet_iff, lowerText_eq_iff (hdigits n)]

theorem parseV4_lower (cs : List Char) : parseV4 (lowerText cs) = parseV4 cs := by
  unfold parseV4
  simp only [splitOn_lower (d := '.') (by decide), List.length_map, List.mapM_map,
    Function.comp_def, parseOctet_lower]

theorem parseGroup_lower (cs : List Char) : parseGroup (lowerText cs) = parseGroup cs := by
  simp only [parseGroup, lowerText, List.length_map, digitsValue_lower]

theorem parseLast_lower (cs : List Char) : parseLast (lowerText cs) = parseLast cs := by
  simp only [parseLast, parseGroup_lower, parseV4_lower]

theorem parseParts_lower (parts : List (List Char)) :
    parseParts (parts.map lowerText) = parseParts parts := by
  induction parts with
  | nil => rfl
  | cons p ps ih =>
    rcases ps with _ | ⟨q, ps⟩
    · simp only [List.map_cons, List.map_nil, parseParts_singleton, parseLast_lower]
    · rw [List.map_cons, List.map_cons, parseParts_cons_cons, parseParts_cons_cons,
        parseGroup_lower, ← List.map_cons, ih]

theorem splitElision_lower (cs : List Char) : splitElision (lowerText cs) =
    (splitElision cs).map fun sides => (lowerText sides.1, lowerText sides.2) := by
  have hcolon {c : Char} : c.toLower = ':' ↔ c = ':' := toLower_eq_iff (by decide)
  induction cs with
  | nil => rfl
  | cons c cs ih =>
    have hcons : lowerText (c :: cs) = c.toLower :: lowerText cs := rfl
    rcases colons_or c cs with ⟨rest, heq⟩ | hother
    · have hlower : lowerText (':' :: ':' :: rest) = ':' :: ':' :: lowerText rest := rfl
      rw [heq, hlower, splitElision_colons, splitElision_colons]
      rfl
    · have hlower : ∀ rest, c.toLower :: lowerText cs ≠ ':' :: ':' :: rest := by
        intro r heq
        obtain ⟨hc, hcs⟩ := List.cons.inj heq
        cases cs with
        | nil => cases hcs
        | cons d cs =>
          have hd : d = ':' := hcolon.mp (List.cons.inj hcs).1
          exact hother cs (by rw [hcolon.mp hc, hd])
      rw [hcons, splitElision_cons hlower, splitElision_cons hother, ih, Option.map_map,
        Option.map_map]
      rfl

theorem sideParts_lower (cs : List Char) :
    sideParts (lowerText cs) = (sideParts cs).map lowerText := by
  unfold sideParts
  by_cases h : cs = []
  · simp [h]
  · have hlower : lowerText cs ≠ [] := by simpa [lowerText] using h
    rw [if_neg h, if_neg hlower, splitOn_lower (by decide)]

theorem parseV6_lower (cs : List Char) : parseV6 (lowerText cs) = parseV6 cs := by
  have hlower := splitElision_lower cs
  cases hsplit : splitElision cs with
  | none =>
    rw [hsplit, Option.map_none] at hlower
    rw [parseV6_whole hlower, parseV6_whole hsplit, splitOn_lower (by decide), parseParts_lower]
  | some sides =>
    rw [hsplit, Option.map_some] at hlower
    rw [parseV6_elided hlower, parseV6_elided (l := sides.1) (r := sides.2) hsplit]
    simp only [sideParts_lower, parseParts_lower, List.mapM_map, Function.comp_def,
      parseGroup_lower]

theorem validZone_lower (zone : List Char) : validZone (lowerText zone) = validZone zone := by
  rcases zone with _ | ⟨c, zone⟩
  · rfl
  · have hpercent : c.toLower = '%' ↔ c = '%' := toLower_eq_iff (by decide)
    simp [validZone, lowerText, hpercent, zoneChar_toLower, Function.comp_def]

/-- **A text in lower case spells the address it spells in any case.** -/
theorem parseIp_lower (cs : List Char) : parseIp (lowerText cs) = parseIp cs := by
  have hpercent : (fun c : Char => decide (c ≠ '%')) ∘ Char.toLower = fun c => decide (c ≠ '%') := by
    funext c
    simp [toLower_eq_iff (c := c) (d := '%') (by decide)]
  unfold parseIp
  rw [parseV4_lower, lowerText, List.takeWhile_map, List.dropWhile_map, hpercent, ← lowerText,
    ← lowerText, validZone_lower, parseV6_lower]

end ContextLock.Js
