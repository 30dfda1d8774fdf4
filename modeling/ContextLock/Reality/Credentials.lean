/-
  Subject:   The scan of a configuration for anything that could sign.

  The scan goes through lists and objects to any depth, but it looks at a text only where the text
  is the value of a field.
-/
import ContextLock.Js.Inside
import ContextLock.Evm.Host

namespace ContextLock.Reality

open Js

/-! ## 1. The scan -/

def signerCredentialFields : List String :=
  ["privateKey", "private_key", "privatekey", "mnemonic", "seed", "seedPhrase",
   "keystore", "walletSession", "signer", "account", "capabilityIssuer",
   "ledger", "derivationPath", "secretKey", "apiSecret"]

/-- `s.toLowerCase()`, as far as a comparison with ASCII names can tell: beyond ASCII, the Kelvin
    sign alone becomes an ASCII letter. -/
def lowerCase (s : String) : String :=
  String.ofList (s.toList.map fun c => if c = '\u212a' then 'k' else c.toLower)

def NamesSigner (key : String) : Prop := ∃ f ∈ signerCredentialFields, lowerCase key = lowerCase f

instance instDecidableNamesSigner (key : String) : Decidable (NamesSigner key) :=
  inferInstanceAs (Decidable (∃ f ∈ signerCredentialFields, lowerCase key = lowerCase f))

/-- `/^0x[0-9a-fA-F]{64}$/`: a 32-byte value in hexadecimal. -/
def KeyShaped (s : String) : Prop :=
  s.toList.take 2 = ['0', 'x'] ∧ (s.toList.drop 2).length = 64 ∧
    ∀ c ∈ s.toList.drop 2, (digitValue c).isSome

instance instDecidableKeyShaped (s : String) : Decidable (KeyShaped s) :=
  have : Decidable (∀ c ∈ s.toList.drop 2, (digitValue c).isSome) := List.decidableBAll _ _
  inferInstanceAs (Decidable (_ ∧ _ ∧ ∀ c ∈ s.toList.drop 2, (digitValue c).isSome))

def KeyText : Json → Prop
  | .str s => KeyShaped s
  | _ => False

instance instDecidableKeyText (v : Json) : Decidable (KeyText v) :=
  match v with
  | .str s => instDecidableKeyShaped s
  | .null | .bool _ | .num _ | .arr _ | .obj _ => .isFalse False.elim

structure RpcFenceError where
  reason : String
  method : String
  detail : String

def RpcFenceError.message (e : RpcFenceError) : String := s!"{e.reason}: {e.detail}"

/-- The refusal of a field by its name. -/
def carriesCredential (context : String) (path : List String) : RpcFenceError :=
  ⟨"RPC_CREDENTIALLED_SIGNER_PRESENT", "",
    context ++ ": the configuration carries \"" ++ ".".intercalate path ++
    "\". The Reality Engine receives " ++
    "an RPC URL and nothing else — it reads mainnet, and a component that cannot sign cannot be " ++
    "tricked into signing."⟩

/-- The refusal of a field by its value. -/
def holdsKey (context : String) (path : List String) : RpcFenceError :=
  ⟨"RPC_CREDENTIALLED_SIGNER_PRESENT", "",
    context ++ ": \"" ++ ".".intercalate path ++
    "\" holds a 32-byte hex value. That is the shape of a " ++
    "private key, and this component has no use for one."⟩

/-- `assertNoSignerCredential`; fields are listed as `Object.entries` lists them. -/
def assertNoSignerCredential (context : String) : Json → List String → Except RpcFenceError Unit
  | .arr items, path => eachItem items 0 path
  | .obj fields, path => eachField fields path
  | .null, _ | .bool _, _ | .num _, _ | .str _, _ => .ok ()
where
  eachItem : List Json → Nat → List String → Except RpcFenceError Unit
    | [], _, _ => .ok ()
    | v :: vs, i, path => do
      assertNoSignerCredential context v (path ++ [toString i])
      eachItem vs (i + 1) path
  eachField : List (String × Json) → List String → Except RpcFenceError Unit
    | [], _ => .ok ()
    | (key, value) :: fs, path => do
      if NamesSigner key then .error (carriesCredential context (path ++ [key]))
      if KeyText value then .error (holdsKey context (path ++ [key]))
      assertNoSignerCredential context value (path ++ [key])
      eachField fs path

/-! ## 2. What it refuses -/

def ExposedField (f : String × Json) : Prop := NamesSigner f.1 ∨ KeyText f.2

/-- A field of the object could sign. -/
def ExposedHere : Json → Prop
  | .obj fields => ∃ f ∈ fields, ExposedField f
  | _ => False

/-- A field could sign, at any depth. -/
def Exposed (v : Json) : Prop := Somewhere ExposedHere v

theorem exposed_arr {items : List Json} : Exposed (.arr items) ↔ ∃ v ∈ items, Exposed v := by
  unfold Exposed
  rw [somewhere_arr]
  exact or_iff_right id

theorem exposed_obj {fields : List (String × Json)} :
    Exposed (.obj fields) ↔ ∃ f ∈ fields, ExposedField f ∨ Exposed f.2 := by
  unfold Exposed
  rw [somewhere_obj]
  constructor
  · intro h
    rcases h with ⟨f, hf, hexp⟩ | ⟨f, hf, hin⟩
    · exact ⟨f, hf, .inl hexp⟩
    · exact ⟨f, hf, .inr hin⟩
  · intro h
    obtain ⟨f, hf, hexp | hin⟩ := h
    · exact .inl ⟨f, hf, hexp⟩
    · exact .inr ⟨f, hf, hin⟩

theorem not_exposed_leaf {v : Json} (hv : v.Leaf) : ¬ Exposed v := by
  unfold Exposed
  rw [somewhere_leaf hv]
  cases v with
  | obj fields => exact hv.elim
  | null | bool | num | str | arr => exact id

section Scan

theorem andThen_eq_ok {ε α : Type} {x : Except ε Unit} {y : Except ε α} {a : α} :
    (x >>= fun _ => y) = .ok a ↔ x = .ok () ∧ y = .ok a := by
  cases x with
  | error e | ok u => simp [bind, Except.bind]

variable (context : String)

/-- One field passes where it could not sign and its value passes. -/
theorem eachField_cons {key : String} {value : Json} {fs : List (String × Json)}
    {path : List String} :
    assertNoSignerCredential.eachField context ((key, value) :: fs) path = .ok () ↔
      ¬ ExposedField (key, value) ∧
      assertNoSignerCredential context value (path ++ [key]) = .ok () ∧
      assertNoSignerCredential.eachField context fs path = .ok () := by
  rw [assertNoSignerCredential.eachField]
  unfold ExposedField
  by_cases hname : NamesSigner key
  · simp [hname, bind, Except.bind]
  · by_cases hkey : KeyText value
    · simp [hname, hkey, bind, Except.bind]
    · simp only [hname, hkey, ite_false, or_self, not_false_eq_true, true_and]
      exact andThen_eq_ok

theorem eachItem_cons {v : Json} {vs : List Json} {i : Nat} {path : List String} :
    assertNoSignerCredential.eachItem context (v :: vs) i path = .ok () ↔
      assertNoSignerCredential context v (path ++ [toString i]) = .ok () ∧
      assertNoSignerCredential.eachItem context vs (i + 1) path = .ok () := by
  rw [assertNoSignerCredential.eachItem]
  exact andThen_eq_ok

mutual

/-- **The scan accepts exactly** what has no field, at any depth, that could sign. -/
theorem accepted_iff_not_exposed : ∀ (v : Json) (path : List String),
    assertNoSignerCredential context v path = .ok () ↔ ¬ Exposed v
  | .null, path => iff_of_true rfl (not_exposed_leaf trivial)
  | .bool _, path => iff_of_true rfl (not_exposed_leaf trivial)
  | .num _, path => iff_of_true rfl (not_exposed_leaf trivial)
  | .str _, path => iff_of_true rfl (not_exposed_leaf trivial)
  | .arr items, path => by
    rw [assertNoSignerCredential, exposed_arr, eachItem_ok_iff items 0 path]
    simp
  | .obj fields, path => by
    rw [assertNoSignerCredential, exposed_obj, eachField_ok_iff fields path]
    simp

theorem eachItem_ok_iff : ∀ (vs : List Json) (i : Nat) (path : List String),
    assertNoSignerCredential.eachItem context vs i path = .ok () ↔ ∀ v ∈ vs, ¬ Exposed v
  | [], i, path => iff_of_true rfl (fun v hv => absurd hv List.not_mem_nil)
  | v :: vs, i, path => by
    rw [eachItem_cons, accepted_iff_not_exposed v, eachItem_ok_iff vs, List.forall_mem_cons]

theorem eachField_ok_iff : ∀ (fs : List (String × Json)) (path : List String),
    assertNoSignerCredential.eachField context fs path = .ok () ↔
      ∀ f ∈ fs, ¬ (ExposedField f ∨ Exposed f.2)
  | [], path => iff_of_true rfl (fun f hf => absurd hf List.not_mem_nil)
  | (key, value) :: fs, path => by
    rw [eachField_cons, accepted_iff_not_exposed value, eachField_ok_iff fs,
      List.forall_mem_cons, not_or, and_assoc]

end

end Scan

/-! ## 3. What it accepts -/

/-- No text of the shape of a private key stands in the value, and no key names a signer's
    field. -/
structure Clean (v : Json) : Prop where
  texts : ¬ Somewhere KeyText v
  keys : ∀ path fields, At v path (.obj fields) → ∀ f ∈ fields, ¬ NamesSigner f.1

def KeyItem : Json → Prop
  | .arr items => ∃ v ∈ items, KeyText v
  | _ => False

/-- A text of that shape stands alone, or as an item of a list at any depth. -/
def Loose (v : Json) : Prop := KeyText v ∨ Somewhere KeyItem v

theorem loose_or_exposed {v w : Json} {path : List String} (hat : At v path w) (hkey : KeyText w) :
    Loose v ∨ Exposed v := by
  induction hat with
  | self v => exact .inl (.inl hkey)
  | @item items i v w path hv hin ih =>
    rcases ih hkey with (hself | hitem) | hexp
    · exact .inl (.inr (somewhere_arr.mpr (.inl ⟨v, List.mem_of_getElem? hv, hself⟩)))
    · exact .inl (.inr (somewhere_arr.mpr (.inr ⟨v, List.mem_of_getElem? hv, hitem⟩)))
    · exact .inr (exposed_arr.mpr ⟨v, List.mem_of_getElem? hv, hexp⟩)
  | @field fields f w path hf hin ih =>
    rcases ih hkey with (hself | hitem) | hexp
    · exact .inr (exposed_obj.mpr ⟨f, hf, .inl (.inr hself)⟩)
    · exact .inl (.inr (somewhere_obj.mpr (.inr ⟨f, hf, hitem⟩)))
    · exact .inr (exposed_obj.mpr ⟨f, hf, .inr hexp⟩)

theorem somewhere_of_loose {v : Json} (h : Loose v) : Somewhere KeyText v := by
  rcases h with hself | ⟨path, w, hat, hitem⟩
  · exact ⟨[], v, .self v, hself⟩
  · cases w with
    | arr items =>
      obtain ⟨u, hu, hkey⟩ := hitem
      obtain ⟨i, hi⟩ := List.getElem?_of_mem hu
      exact ⟨_, u, hat.trans (.item hi (.self u)), hkey⟩
    | null | bool | num | str | obj => exact hitem.elim

/-- **Without a field that could sign**, a value is clean where no text is loose. -/
theorem clean_iff_of_not_exposed {v : Json} (h : ¬ Exposed v) : Clean v ↔ ¬ Loose v := by
  constructor
  · exact fun hclean hloose => hclean.texts (somewhere_of_loose hloose)
  · intro hloose
    constructor
    · rintro ⟨path, w, hat, hkey⟩
      exact (loose_or_exposed hat hkey).elim hloose h
    · intro path fields hat f hf hname
      exact h ⟨path, _, hat, f, hf, .inl hname⟩

/-- **What the scan accepts is clean** exactly where no text of the shape of a private key stands
    alone or in a list, or some field could sign and the scan refuses. -/
theorem accepted_clean_iff (context : String) (path : List String) (v : Json) :
    (assertNoSignerCredential context v path = .ok () → Clean v) ↔ (Loose v → Exposed v) := by
  rw [accepted_iff_not_exposed]
  constructor
  · intro h hloose
    by_contra hexp
    exact (clean_iff_of_not_exposed hexp).mp (h hexp) hloose
  · intro h hexp
    exact (clean_iff_of_not_exposed hexp).mpr (fun hloose => hexp (h hloose))

def listedKey : Json :=
  .arr [.str "0xabababababababababababababababababababababababababababababababab"]

/-- The text of a private key as an item of a list: the scan accepts it. -/
theorem listed_key_accepted :
    assertNoSignerCredential "read source" listedKey [] = .ok () ∧ ¬ Clean listedKey := by
  refine ⟨rfl, fun h => h.texts ?_⟩
  exact somewhere_arr.mpr (.inr ⟨_, List.mem_singleton_self _, [], _, .self _, by decide⟩)

end ContextLock.Reality
