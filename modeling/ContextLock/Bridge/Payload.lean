/-
  Subject:   The two digests of a payload: the signed one, and the one the device shows.

  The payload hash is taken of the text with sorted keys; the digest of a Ledger operation of the
  text as the payload lists its keys.
-/
import ContextLock.Bridge.Calls
import ContextLock.Js.Join
import ContextLock.Js.KeyOrder
import ContextLock.Js.NumText

namespace ContextLock.Bridge.Payload

open Js

/-! ## 1. The texts -/

/-- `walk` inside `canonical`; what `Object.fromEntries` makes of the sorted entries lists them in
    the order of the language. -/
def walk : Value → Value
  | .undefined => .null
  | .arr items => .arr (walkItems items)
  | .obj fields => .obj (sortBy propertyLe Prod.fst (walkFields fields))
  | v => v
where
  walkItems : List Value → List Value
    | [] => []
    | v :: vs => walk v :: walkItems vs
  walkFields : List (String × Value) → List (String × Value)
    | [] => []
    | (k, v) :: fs => (k, walk v) :: walkFields fs

/-- `canonical(value)`. -/
def canonical (value : Value) : Option String := stringifyData (walk value)

/-- `payloadHash(payload)`. -/
def payloadHash (payload : Value) : Option String :=
  (canonical payload).map fun text => "sha256:" ++ sha256Hex text

/-- `JSON.stringify(payload)`. -/
def plainText (payload : Value) : Option String := stringifyData (relist payload)

/-- The `digest` of a Ledger operation. -/
def ledgerDigest (payload : Value) : Option String := (plainText payload).map sha256Hex

theorem walkItems_eq_map (vs : List Value) : walk.walkItems vs = vs.map walk :=
  eq_map rfl (fun _ _ => by rw [walk.walkItems]) vs

theorem walkFields_eq_map (fs : List (String × Value)) :
    walk.walkFields fs = fs.map fun f => (f.1, walk f.2) :=
  eq_map rfl (fun _ _ => by rw [walk.walkFields]) fs

theorem map_sortProperties {α β : Type} (f : α → β) (fields : List (String × α)) :
    (sortBy propertyLe Prod.fst fields).map (fun g => (g.1, f g.2)) =
      sortBy propertyLe Prod.fst (fields.map fun g => (g.1, f g.2)) :=
  map_sortBy propertyLe Prod.fst (fun g => (g.1, f g.2)) Prod.fst (fun _ => rfl) fields

theorem jsonForm_walk {v : Value} (h : Data v) : jsonForm (walk v) = some (sortedForm everyKey v) := by
  induction h with
  | null => rfl
  | bool b => rfl
  | number _ => rfl
  | str s => rfl
  | @arr items _ ih =>
    rw [walk, jsonForm, walkItems_eq_map, formItems_eq, sortedForm, formBy_arr, List.map_map]
    refine congrArg (fun cs => some (Canonical.arr cs)) (List.map_congr_left fun v hv => ?_)
    rw [Function.comp_apply, ih v hv, Option.getD_some]
    rfl
  | @obj fields _ _ ih =>
    have hall (gs : List (String × Canonical)) : (gs.filter fun g => everyKey g.1) = gs :=
      List.filter_eq_self.mpr fun _ _ => rfl
    rw [walk, jsonForm, walkFields_eq_map, ← map_sortProperties,
      formFields_map fun f hf => ih f ((sortBy_perm _ _ _).mem_iff.mp hf), sortedForm_obj, hall,
      map_sortProperties]

/-- **The text with sorted keys** is written of the sorted form. -/
theorem canonical_data {v : Value} (h : Data v) :
    canonical v = some (String.ofList (sortedForm everyKey v).text) := by
  rw [canonical, stringifyData, jsonForm_walk h]
  rfl

theorem plainText_data {v : Value} (h : Data v) :
    plainText v = some (String.ofList (listedForm v).text) := by
  rw [plainText, stringifyData, jsonForm_relist h]
  rfl

theorem ofList_text_inj {c d : Canonical} :
    String.ofList c.text = String.ofList d.text ↔ c = d :=
  ⟨fun h => Canonical.text_inj (String.ofList_injective h), fun h => h ▸ rfl⟩

/-! ## 2. The texts of the protocol -/

/-- A value of the protocol, as a value of the language. -/
def ofJson : Json → Value
  | .null => .null
  | .bool b => .bool b
  | .num (.int n) => .int n
  | .num .nan => .number .nan
  | .num (.inf negative) => .number (.infinite negative)
  | .str s => .str s
  | .arr items => .arr (ofItems items)
  | .obj fields => .obj (ofFields fields)
where
  ofItems : List Json → List Value
    | [] => []
    | j :: js => ofJson j :: ofItems js
  ofFields : List (String × Json) → List (String × Value)
    | [] => []
    | (k, j) :: fs => (k, ofJson j) :: ofFields fs

/-- The integers are exact as numbers. -/
inductive Exact : Json → Prop where
  | null : Exact .null
  | bool (b : Bool) : Exact (.bool b)
  | int {n : Int} (h : n.natAbs ≤ 2 ^ 53) : Exact (.num (.int n))
  | str (s : String) : Exact (.str s)
  | arr {items : List Json} (h : ∀ j ∈ items, Exact j) : Exact (.arr items)
  | obj {fields : List (String × Json)} (h : ∀ f ∈ fields, Exact f.2) : Exact (.obj fields)

theorem ofItems_eq_map (js : List Json) : ofJson.ofItems js = js.map ofJson :=
  eq_map rfl (fun _ _ => by rw [ofJson.ofItems]) js

theorem ofFields_eq_map (fs : List (String × Json)) :
    ofJson.ofFields fs = fs.map fun f => (f.1, ofJson f.2) :=
  eq_map rfl (fun _ _ => by rw [ofJson.ofFields]) fs

theorem stringifyItems_eq_map (js : List Json) : stringify.stringifyItems js = js.map stringify :=
  eq_map rfl (fun _ _ => by rw [stringify.stringifyItems]) js

theorem stringifyFields_eq_map (fs : List (String × Json)) :
    stringify.stringifyFields fs = fs.map fun f => jsonText f.1 ++ ":" ++ stringify f.2 :=
  eq_map rfl (fun _ _ => by rw [stringify.stringifyFields]) fs

theorem toList_jsonText (s : String) : (jsonText s).toList = quote s := by
  have hjoin (cs : List Char) : (String.join (cs.map jsonChar)).toList =
      cs.flatMap fun c => (jsonChar c).toList := by
    induction cs with
    | nil => rfl
    | cons c cs ih => rw [List.map_cons, String.join_cons, String.toList_append, ih, List.flatMap_cons]
  rw [jsonText, String.toList_append, String.toList_append, hjoin, quote]
  rfl

theorem toList_commas (parts : List String) :
    (",".intercalate parts).toList = chunkText (parts.map String.toList) := by
  rw [String.toList_intercalate]
  cases parts with
  | nil => rfl
  | cons s ss =>
    rw [List.map_cons, chunkText]
    exact intercalate_cons _

theorem stringify_ofJson {j : Json} (h : Exact j) :
    ∃ c, jsonForm (ofJson j) = some c ∧ (stringify j).toList = c.text := by
  induction h with
  | null => exact ⟨.null, rfl, rfl⟩
  | bool b => exact ⟨.bool b, rfl, rfl⟩
  | @int n h =>
    refine ⟨.num (.int n), rfl, ?_⟩
    show (Num.text (.int n)).toList = intText n
    rw [Num.text, if_pos h, toList_toString_int]
  | str s => exact ⟨.str s, rfl, toList_jsonText s⟩
  | @arr items _ ih =>
    refine ⟨_, rfl, ?_⟩
    rw [stringify, stringifyItems_eq_map, String.toList_append, String.toList_append, toList_commas,
      Canonical.text, itemsText_eq, ofItems_eq_map, formItems_eq, List.map_map, List.map_map,
      List.map_map]
    have hitems : items.map (String.toList ∘ stringify) = items.map
        (Canonical.text ∘ (fun v => (jsonForm v).getD .null) ∘ ofJson) := by
      refine List.map_congr_left fun j hj => ?_
      obtain ⟨c, hc, htext⟩ := ih j hj
      rw [Function.comp_apply, htext, Function.comp_apply, Function.comp_apply, hc, Option.getD_some]
    rw [hitems]
    rfl
  | @obj fields _ ih =>
    refine ⟨_, rfl, ?_⟩
    have hform : jsonForm.formFields (ofJson.ofFields fields) =
        fields.map fun f => (f.1, (jsonForm (ofJson f.2)).getD .null) := by
      rw [ofFields_eq_map]
      refine @formFields_map Json fields ofJson (fun j => (jsonForm (ofJson j)).getD .null)
        fun f hf => ?_
      obtain ⟨c, hc, _⟩ := ih f hf
      rw [hc, Option.getD_some]
    rw [stringify, stringifyFields_eq_map, String.toList_append, String.toList_append, toList_commas,
      Canonical.text, fieldsText_eq, hform, List.map_map, List.map_map]
    have hfields : fields.map (String.toList ∘ fun f => jsonText f.1 ++ ":" ++ stringify f.2) =
        fields.map (fieldText ∘ fun f => (f.1, (jsonForm (ofJson f.2)).getD .null)) := by
      refine List.map_congr_left fun f hf => ?_
      obtain ⟨c, hc, htext⟩ := ih f hf
      rw [Function.comp_apply, Function.comp_apply, String.toList_append, String.toList_append,
        toList_jsonText, htext, hc, fieldText, Option.getD_some]
      rw [List.append_assoc]
      rfl
    rw [hfields]
    rfl

theorem stringifyData_ofJson {j : Json} (h : Exact j) :
    stringifyData (ofJson j) = some (stringify j) := by
  obtain ⟨c, hc, htext⟩ := stringify_ofJson h
  rw [stringifyData, hc, Option.map_some, ← htext, String.ofList_toList]

theorem ofFields_insertProperty (f : String × Json) (gs : List (String × Json)) :
    ofJson.ofFields (insertProperty f gs) = (ofJson.ofFields gs).orderedInsert
      (fun a b => propertyLe a.1 b.1 = true) (f.1, ofJson f.2) := by
  induction gs with
  | nil => rfl
  | cons g gs ih =>
    obtain ⟨k, j⟩ := g
    rw [insertProperty, ofJson.ofFields, List.orderedInsert]
    split
    · rfl
    · rw [ofJson.ofFields, ih]

theorem mem_insertProperty {f g : String × Json} {gs : List (String × Json)}
    (h : g ∈ insertProperty f gs) : g = f ∨ g ∈ gs := by
  induction gs with
  | nil => exact .inl (List.mem_singleton.mp h)
  | cons a gs ih =>
    rw [insertProperty] at h
    split at h
    · exact List.mem_cons.mp h
    · rcases List.mem_cons.mp h with rfl | hmem
      · exact .inr List.mem_cons_self
      · exact (ih hmem).imp_right (List.mem_cons_of_mem _)

theorem sortItems_eq_map (js : List Json) : sortKeys.sortItems js = js.map sortKeys :=
  eq_map rfl (fun _ _ => by rw [sortKeys.sortItems]) js

theorem ofJson_sortKeys {j : Json} (h : Exact j) :
    ofJson (sortKeys j) = walk (ofJson j) ∧ Exact (sortKeys j) := by
  induction h with
  | null => exact ⟨rfl, .null⟩
  | bool b => exact ⟨rfl, .bool b⟩
  | int h => exact ⟨rfl, .int h⟩
  | str s => exact ⟨rfl, .str s⟩
  | @arr items _ ih =>
    rw [sortKeys, sortItems_eq_map, ofJson, ofJson, walk, ofItems_eq_map, ofItems_eq_map,
      walkItems_eq_map, List.map_map, List.map_map]
    refine ⟨congrArg _ (List.map_congr_left fun j hj => (ih j hj).1), .arr fun a ha => ?_⟩
    obtain ⟨j, hj, rfl⟩ := List.mem_map.mp ha
    exact (ih j hj).2
  | @obj fields _ ih =>
    have hfields : ∀ fs : List (String × Json), (∀ f ∈ fs, ofJson (sortKeys f.2) = walk (ofJson f.2) ∧
        Exact (sortKeys f.2)) → ofJson.ofFields (sortKeys.sortFields fs) =
          sortBy propertyLe Prod.fst (walk.walkFields (ofJson.ofFields fs)) ∧
        ∀ f ∈ sortKeys.sortFields fs, Exact f.2 := by
      intro fs
      induction fs with
      | nil => exact fun _ => ⟨rfl, fun f hf => by cases hf⟩
      | cons f fs ih =>
        intro h
        obtain ⟨⟨hwalk, hexact⟩, hfs⟩ := List.forall_mem_cons.mp h
        obtain ⟨hsorted, hall⟩ := ih hfs
        refine ⟨?_, fun g hg => ?_⟩
        · rw [sortKeys.sortFields, ofFields_insertProperty, hsorted, hwalk]
          rfl
        · rcases mem_insertProperty hg with rfl | hmem
          · exact hexact
          · exact hall g hmem
    obtain ⟨hsorted, hall⟩ := hfields fields ih
    exact ⟨congrArg Value.obj hsorted, .obj hall⟩

/-- **The text with sorted keys is the one of the protocol.** -/
theorem canonical_ofJson {j : Json} (h : Exact j) :
    canonical (ofJson j) = some (Bridge.canonical j) := by
  obtain ⟨hwalk, hexact⟩ := ofJson_sortKeys h
  rw [canonical, ← hwalk, stringifyData_ofJson hexact]
  rfl

/-! ## 3. Signing inputs -/

/-- A request that the schema lets in: its times are integers that a number holds exactly. -/
def Checked (r : BridgeRequest) : Prop := ∃ json, BridgeRequest.parse json = .ok r

def signedFields (r : BridgeRequest) : List (String × Json) :=
  [("protocolVersion", .str r.protocolVersion), ("requestId", .str r.requestId),
    ("bridgeId", .str r.bridgeId), ("userId", .str r.userId), ("projectId", .str r.projectId),
    ("operationType", .str r.operationType), ("payloadHash", .str r.payloadHash),
    ("issuedAtMs", .num (.int r.issuedAtMs)), ("expiresAtMs", .num (.int r.expiresAtMs)),
    ("nonce", .str r.nonce)]

theorem positiveInt_le {fields : List (String × Json)} {name : String} {n : Int}
    (h : positiveInt fields name = .ok n) : n.natAbs ≤ 2 ^ 53 := by
  unfold positiveInt at h
  split at h
  · split at h
    · cases h
    split at h
    · cases h
    · obtain rfl := Except.ok.inj h
      omega
  · cases h

theorem exact_signedFields {r : BridgeRequest} (h : Checked r) : Exact (.obj (signedFields r)) := by
  obtain ⟨json, hparse⟩ := h
  have htimes : r.issuedAtMs.natAbs ≤ 2 ^ 53 ∧ r.expiresAtMs.natAbs ≤ 2 ^ 53 := by
    unfold BridgeRequest.parse at hparse
    split at hparse
    · simp only at hparse
      split at hparse
      · rename_i hissued hexpires _
        obtain rfl := Except.ok.inj hparse
        exact ⟨positiveInt_le hissued, positiveInt_le hexpires⟩
      · cases hparse
    · cases hparse
  refine .obj fun f hf => ?_
  simp only [signedFields, List.mem_cons, List.not_mem_nil, or_false] at hf
  rcases hf with rfl | rfl | rfl | rfl | rfl | rfl | rfl | rfl | rfl | rfl
  all_goals first
    | exact .str _
    | exact .int htimes.1
    | exact .int htimes.2

def signedValue (r : BridgeRequest) : Value := ofJson (.obj (signedFields r))

theorem data_signedValue (r : BridgeRequest) : Data (signedValue r) := by
  have hkeys : (ofJson.ofFields (signedFields r)).map Prod.fst =
      ["protocolVersion", "requestId", "bridgeId", "userId", "projectId", "operationType",
        "payloadHash", "issuedAtMs", "expiresAtMs", "nonce"] := rfl
  refine .obj (fun f hf => ?_) (by rw [hkeys]; decide)
  simp only [signedFields, ofJson.ofFields, ofJson, List.mem_cons, List.not_mem_nil, or_false] at hf
  rcases hf with rfl | rfl | rfl | rfl | rfl | rfl | rfl | rfl | rfl | rfl
  all_goals first
    | exact .str _
    | exact .number rfl

theorem signingInput_inj {r r' : BridgeRequest} (hr : Checked r) (hr' : Checked r')
    (h : signingInput r = signingInput r') : r = r' := by
  have hcanonical : canonical (signedValue r) = canonical (signedValue r') := by
    rw [signedValue, signedValue, canonical_ofJson (exact_signedFields hr),
      canonical_ofJson (exact_signedFields hr')]
    exact congrArg some h
  rw [canonical_data (data_signedValue r), canonical_data (data_signedValue r'), Option.some.injEq,
    ofList_text_inj, sortedForm_eq_iff (data_signedValue r) (data_signedValue r')] at hcanonical
  have htext {s t : String} (h : SameData everyKey (.str s) (.str t)) : s = t := by
    cases h
    rfl
  have htime {m n : Int} (h : SameData everyKey (.int m) (.int n)) : m = n := by
    cases h with
    | number h => exact Numeral.int.inj (Canonical.num.inj h)
  have hat (i : Nat) {k : String} {v w : Value}
      (hv : (ofJson.ofFields (signedFields r))[i]? = some (k, v))
      (hw : (ofJson.ofFields (signedFields r'))[i]? = some (k, w)) : SameData everyKey v w := by
    cases hcanonical with
    | obj _ h => exact h k v w rfl (List.mem_of_getElem? hv) (List.mem_of_getElem? hw)
  have hversion : r.protocolVersion = r'.protocolVersion := htext (hat 0 rfl rfl)
  have hrequest : r.requestId = r'.requestId := htext (hat 1 rfl rfl)
  have hbridge : r.bridgeId = r'.bridgeId := htext (hat 2 rfl rfl)
  have huser : r.userId = r'.userId := htext (hat 3 rfl rfl)
  have hproject : r.projectId = r'.projectId := htext (hat 4 rfl rfl)
  have hoperation : r.operationType = r'.operationType := htext (hat 5 rfl rfl)
  have hhash : r.payloadHash = r'.payloadHash := htext (hat 6 rfl rfl)
  have hissued : r.issuedAtMs = r'.issuedAtMs := htime (hat 7 rfl rfl)
  have hexpires : r.expiresAtMs = r'.expiresAtMs := htime (hat 8 rfl rfl)
  have hnonce : r.nonce = r'.nonce := htext (hat 9 rfl rfl)
  cases r
  cases r'
  rw [BridgeRequest.mk.injEq]
  exact ⟨hversion, hrequest, hbridge, huser, hproject, hoperation, hhash, hissued, hexpires, hnonce⟩

/-! ## 4. The two digests -/

theorem payloadHash_eq_iff {a b : Value} (ha : Data a) (hb : Data b)
    (hcollision : ∀ s t, canonical a = some s → canonical b = some t →
      sha256Hex s = sha256Hex t → s = t) :
    payloadHash a = payloadHash b ↔ SameData everyKey a b := by
  rw [← sortedForm_eq_iff ha hb, payloadHash, payloadHash, canonical_data ha, canonical_data hb,
    Option.map_some, Option.map_some, Option.some.injEq]
  constructor
  · intro h
    have hlists := congrArg String.toList h
    rw [String.toList_append, String.toList_append] at hlists
    have hdigest := String.toList_inj.mp (List.append_cancel_left hlists)
    exact ofList_text_inj.mp (hcollision _ _ (canonical_data ha) (canonical_data hb) hdigest)
  · rintro h
    rw [h]

theorem ledgerDigest_eq_iff {a b : Value} (ha : Data a) (hb : Data b)
    (hcollision : ∀ s t, plainText a = some s → plainText b = some t →
      sha256Hex s = sha256Hex t → s = t) :
    ledgerDigest a = ledgerDigest b ↔ listedForm a = listedForm b := by
  rw [ledgerDigest, ledgerDigest, plainText_data ha, plainText_data hb, Option.map_some,
    Option.map_some, Option.some.injEq]
  constructor
  · intro h
    exact ofList_text_inj.mp (hcollision _ _ (plainText_data ha) (plainText_data hb) h)
  · intro h
    rw [h]

/-- **Payloads of one hash are the same data, and have one Ledger digest exactly where they list
    their keys in the same order**; a signing input belongs to one request. -/
theorem payload_digests {a b : Value} {r r' : BridgeRequest} (ha : Data a) (hb : Data b)
    (hcanonical : ∀ s t, canonical a = some s → canonical b = some t →
      sha256Hex s = sha256Hex t → s = t)
    (hplain : ∀ s t, plainText a = some s → plainText b = some t →
      sha256Hex s = sha256Hex t → s = t) (hr : Checked r) (hr' : Checked r') :
    (payloadHash a = payloadHash b ↔ SameData everyKey a b) ∧
    (signingInput r = signingInput r' ↔ r = r') ∧
    ((payloadHash a = payloadHash b → ledgerDigest a = ledgerDigest b) ↔
      (SameData everyKey a b → SameOrder a b)) := by
  have hhash := payloadHash_eq_iff ha hb hcanonical
  refine ⟨hhash, ⟨signingInput_inj hr hr', fun h => h ▸ rfl⟩, ?_⟩
  rw [hhash, ledgerDigest_eq_iff ha hb hplain]
  exact forall_congr' fun hsame => listedForm_eq_iff hsame ha hb

/-! ## 5. One payload in two orders -/

/-- A payload of a Ledger operation. -/
def transfer : Value := .obj [("actionType", .str "send"), ("to", .str "0x1")]

/-- The same payload, its keys in the other order. -/
def transferReordered : Value := .obj [("to", .str "0x1"), ("actionType", .str "send")]

theorem data_transfer : Data transfer ∧ Data transferReordered := by
  refine ⟨.obj (fun f hf => ?_) (by decide), .obj (fun f hf => ?_) (by decide)⟩
  all_goals
    simp only [List.mem_cons, List.not_mem_nil, or_false] at hf
    rcases hf with rfl | rfl <;> exact .str _

theorem canonical_transfer : canonical transfer = canonical transferReordered := by
  rw [canonical_data data_transfer.1, canonical_data data_transfer.2]
  decide

theorem digests_differ : ledgerDigest transfer ≠ ledgerDigest transferReordered := by
  rw [ledgerDigest, ledgerDigest, plainText_data data_transfer.1, plainText_data data_transfer.2,
    Option.map_some, Option.map_some, sha256Hex_ofList, sha256Hex_ofList]
  decide +kernel

/-- **Two payloads of one hash, and two digests.** -/
theorem reordered_payload_shown : ¬ ∀ a b, Data a → Data b → payloadHash a = payloadHash b →
    ledgerDigest a = ledgerDigest b := by
  intro hclaim
  refine digests_differ (hclaim _ _ data_transfer.1 data_transfer.2 ?_)
  rw [payloadHash, payloadHash, canonical_transfer]

/-- The law of the digests, at the two orders. -/
theorem digests_of_transfer :
    (payloadHash transfer = payloadHash transferReordered ↔
      SameData everyKey transfer transferReordered) ∧
    (signingInput transferRequest = signingInput transferRequest ↔
      transferRequest = transferRequest) ∧
    ((payloadHash transfer = payloadHash transferReordered →
        ledgerDigest transfer = ledgerDigest transferReordered) ↔
      (SameData everyKey transfer transferReordered → SameOrder transfer transferReordered)) := by
  have hrequest : Checked transferRequest := ⟨_, transferRequest_parsed⟩
  refine payload_digests data_transfer.1 data_transfer.2 (fun s t hs ht _ => ?_)
    (fun s t hs ht heq => ?_) hrequest hrequest
  · rw [canonical_transfer, ht] at hs
    exact (Option.some.inj hs).symm
  · refine absurd ?_ digests_differ
    rw [ledgerDigest, ledgerDigest, hs, ht, Option.map_some, Option.map_some, heq]

end ContextLock.Bridge.Payload
