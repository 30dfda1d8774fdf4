/-
  Subject:   What the ledger counts against what was really reserved and settled.

  Beside the tables stands a book of what the calls really committed: an amount below zero
  commits nothing. A window total is compared with the book, and the capacity it leaves with the
  one it left before the call.
-/
import ContextLock.Org.Limits

namespace ContextLock.Org

open Accounting Machine

/-! ## 1. The book -/

structure Commitment where
  id : Nat
  agentId : String
  usdCents : Nat
  held : Bool
  createdAtMs : Int

structure Books where
  ledger : Ledger
  real : List Commitment

def SpendRow.commitment (e : SpendRow) : Commitment where
  id := e.id
  agentId := e.agentId
  usdCents := e.usdCents.toNat
  held := e.state = .HELD
  createdAtMs := e.createdAtMs

section Book

variable (org : Organization)

def Books.opened (s : Ledger) : Books where
  ledger := s
  real := (s.db.spend.filter fun e => Counted org e).map SpendRow.commitment

/-- What a call really commits, settles or gives back. A call that throws commits nothing. -/
def booked (db : DB) (real : List Commitment) : Action → List Commitment
  | .reserve agentId usdCents actionRef checked created =>
    match reserve org db agentId usdCents actionRef checked created with
    | .ok (_, id) => real ++ [⟨id, agentId, usdCents.toNat, true, created⟩]
    | .error _ => real
  | .settle reservationId actualUsdCents =>
    match settle org db reservationId actualUsdCents with
    | .ok _ => real.map fun c =>
        if c.id = reservationId then { c with usdCents := actualUsdCents.toNat, held := false }
        else c
    | .error _ => real
  | .release reservationId => real.filter fun c => ¬ (c.id = reservationId ∧ c.held = true)
  | .revoke _ _ _ => real

def bookStep (b : Books) (a : Action) : Option Books :=
  (step org b.ledger a).map fun s => ⟨s, booked org b.ledger.db b.real a⟩

/-- The rows of the whole organization, or of one agent. -/
def InScope (scope : Option String) (agentId : String) : Prop := ∀ i ∈ scope, agentId = i

instance decidableInScope (scope : Option String) (agentId : String) :
    Decidable (InScope scope agentId) := inferInstanceAs (Decidable (∀ i ∈ scope, agentId = i))

def Books.total (b : Books) (scope : Option String) (since : Int) : Int :=
  match scope with
  | none => orgUsdCents org b.ledger.db since
  | some agentId => agentUsdCents org b.ledger.db agentId since

def Books.realTotal (b : Books) (scope : Option String) (since : Int) : Int :=
  sumWhere (fun c : Commitment => (c.usdCents : Int))
    (fun c => since < c.createdAtMs ∧ InScope scope c.agentId) b.real

/-- **No total is below what was really committed.** -/
def Covered (b : Books) : Prop := ∀ scope since, b.realTotal scope since ≤ b.total org scope since

/-- No total went down. -/
def NoneFreed (b b' : Books) : Prop :=
  ∀ scope since, b.total org scope since ≤ b'.total org scope since

/-- The call ends a reservation that is held, and frees no more than it held. -/
def EndsHeld (b : Books) (a : Action) (b' : Books) : Prop :=
  ∃ row ∈ b.ledger.db.spend, row.orgId = org.orgId ∧ row.state = .HELD ∧
    (a = .release row.id ∨ ∃ actualUsdCents, a = .settle row.id actualUsdCents) ∧
    ∀ scope since, b.total org scope since - row.usdCents ≤ b'.total org scope since

/-- **What a call that succeeds keeps.** -/
def Kept (b : Books) (a : Action) (b' : Books) : Prop :=
  Covered org b' ∧ (NoneFreed org b b' ∨ EndsHeld org b a b')

/-- The call does not throw. -/
def Succeeds (db : DB) : Action → Prop
  | .reserve agentId usdCents actionRef checked created =>
    (reserve org db agentId usdCents actionRef checked created).isOk = true
  | .settle reservationId actualUsdCents =>
    (settle org db reservationId actualUsdCents).isOk = true
  | _ => True

end Book

/-- The ids of the rows are issued and distinct. -/
structure Tidy (db : DB) : Prop where
  ids : (db.spend.map (·.id)).Nodup
  issued : ∀ e ∈ db.spend, e.id ≤ db.lastRowid

/-- No row that counts has a negative amount. -/
def RowsNonneg (org : Organization) (db : DB) : Prop :=
  ∀ e ∈ db.spend, Counted org e → 0 ≤ e.usdCents

/-! ## 2. The book is the table -/

section Steps

variable {org : Organization} {b b' : Books} {db : DB}

theorem total_eq (b : Books) (scope : Option String) (since : Int) :
    b.total org scope since = sumWhere SpendRow.usdCents
      (fun e => (Counted org e ∧ since < e.createdAtMs) ∧ InScope scope e.agentId)
      b.ledger.db.spend := by
  cases scope with
  | none =>
    refine sumWhere_congr fun e _ => ?_
    exact (and_iff_left fun i hi => by cases hi).symm
  | some agentId =>
    refine sumWhere_congr fun e _ => and_congr_right fun _ => ?_
    constructor
    · intro h i hi
      cases hi
      exact h
    · exact fun h => h agentId rfl

structure Booked (org : Organization) (b : Books) : Prop where
  tidy : Tidy b.ledger.db
  real : b.real = (b.ledger.db.spend.filter fun e => Counted org e).map SpendRow.commitment

theorem booked_opened {s : Ledger} (h : Tidy s.db) : Booked org (.opened org s) := ⟨h, rfl⟩

/-- **The book adds up to the totals** where no row is negative. -/
theorem realTotal_eq (hb : Booked org b) (hnonneg : RowsNonneg org b.ledger.db)
    (scope : Option String) (since : Int) :
    b.realTotal scope since = b.total org scope since := by
  unfold Books.realTotal
  rw [hb.real, sumWhere_map_filter, total_eq]
  have hpred : ∀ e ∈ b.ledger.db.spend,
      (Counted org e ∧ since < e.commitment.createdAtMs ∧ InScope scope e.commitment.agentId) ↔
        ((Counted org e ∧ since < e.createdAtMs) ∧ InScope scope e.agentId) :=
    fun e _ => and_assoc.symm
  rw [sumWhere_congr hpred]
  refine sumWhere_amount_congr fun e he hcounted => ?_
  show ((e.usdCents.toNat : Nat) : Int) = e.usdCents
  exact Int.toNat_of_nonneg (hnonneg e he hcounted.1.1)

theorem covered_of_nonneg (hb : Booked org b) (hnonneg : RowsNonneg org b.ledger.db) :
    Covered org b := fun scope since => (realTotal_eq hb hnonneg scope since).le

theorem Tidy.eq_of_id (h : Tidy db) {e row : SpendRow} (he : e ∈ db.spend) (hrow : row ∈ db.spend)
    (hid : e.id = row.id) : e = row := List.inj_on_of_nodup_map h.ids he hrow hid

theorem counted_heldRow (agentId actionRef : String) (usdCents created : Int) :
    Counted org (heldRow org db agentId usdCents actionRef created) := ⟨rfl, Or.inl rfl⟩

def SpendRow.settled (actualUsdCents : Int) (e : SpendRow) : SpendRow :=
  { e with state := .SETTLED, usdCents := actualUsdCents }

/-- A reservation adds its row. -/
theorem booked_reserve (hb : Booked org b) {agentId actionRef : String}
    {usdCents checked created : Int} {n : Nat} {db' : DB} {clock : Int}
    (h : reserve org b.ledger.db agentId usdCents actionRef checked created = .ok (db', n)) :
    Booked org ⟨⟨db', clock⟩, b.real ++ [⟨n, agentId, usdCents.toNat, true, created⟩]⟩ := by
  obtain ⟨_, _, _, _, _, _, _, rfl, rfl⟩ := reserve_eq_ok.mp h
  refine ⟨⟨?_, ?_⟩, ?_⟩
  · show ((b.ledger.db.spend ++ [_]).map _).Nodup
    rw [List.map_append, List.nodup_append]
    refine ⟨hb.tidy.ids, List.nodup_singleton _, ?_⟩
    intro i hi j hj heq
    obtain ⟨e, he, rfl⟩ := List.mem_map.mp hi
    rw [List.map_singleton, List.mem_singleton] at hj
    have hissued := hb.tidy.issued e he
    have hnew : j = b.ledger.db.lastRowid + 1 := hj
    omega
  · intro e he
    show e.id ≤ b.ledger.db.lastRowid + 1
    rcases List.mem_append.mp he with hold | hnew
    · exact (hb.tidy.issued e hold).trans (Nat.le_succ _)
    · rw [List.mem_singleton.mp hnew]
      exact le_rfl
  · show _ = ((b.ledger.db.spend ++ [_]).filter _).map _
    rw [List.filter_append, List.map_append, ← hb.real]
    have hlast : [heldRow org b.ledger.db agentId usdCents actionRef created].filter
        (fun e => Counted org e) =
          [heldRow org b.ledger.db agentId usdCents actionRef created] := by
      simp [counted_heldRow]
    rw [hlast]
    rfl

theorem tidy_map (h : Tidy db) {f : SpendRow → SpendRow} (hid : ∀ e, (f e).id = e.id) :
    Tidy { db with spend := db.spend.map f } := by
  refine ⟨?_, fun e he => ?_⟩
  · show ((db.spend.map f).map _).Nodup
    rw [List.map_map]
    have hfun : (fun e : SpendRow => e.id) ∘ f = fun e => e.id := funext hid
    rw [hfun]
    exact h.ids
  · obtain ⟨old, hold, rfl⟩ := List.mem_map.mp he
    rw [hid]
    exact h.issued old hold

theorem booked_settle (hb : Booked org b) {reservationId : Nat} {actualUsdCents : Int} {db' : DB}
    {clock : Int} (h : settle org b.ledger.db reservationId actualUsdCents = .ok db') :
    Booked org ⟨⟨db', clock⟩, b.real.map fun c =>
      if c.id = reservationId then { c with usdCents := actualUsdCents.toNat, held := false }
      else c⟩ := by
  obtain ⟨row, hrow, rfl, horg, hheld, _, rfl⟩ := settle_ok h
  refine ⟨tidy_map hb.tidy fun e => by split <;> rfl, ?_⟩
  show _ = ((b.ledger.db.spend.map _).filter _).map _
  rw [List.filter_map, List.map_map, hb.real, List.map_map]
  have hcounted : ∀ e ∈ b.ledger.db.spend,
      ((fun e : SpendRow => decide (Counted org e)) ∘ fun e : SpendRow =>
        if e.id = row.id then { e with state := .SETTLED, usdCents := actualUsdCents } else e) e =
      decide (Counted org e) := by
    intro e he
    by_cases hid : e.id = row.id
    · -- the row was held, so it counts before and after
      obtain rfl := hb.tidy.eq_of_id he hrow hid
      simp [Counted, horg, hheld]
    · simp [hid]
  rw [List.filter_congr hcounted]
  refine List.map_congr_left fun e _ => ?_
  show (if e.id = row.id then _ else e.commitment) =
    SpendRow.commitment (if e.id = row.id then _ else e)
  by_cases hid : e.id = row.id
  · rw [if_pos hid, if_pos hid]
    rfl
  · rw [if_neg hid, if_neg hid]

theorem booked_release (hb : Booked org b) (reservationId : Nat) {clock : Int} :
    Booked org ⟨⟨release org b.ledger.db reservationId, clock⟩,
      b.real.filter fun c => ¬ (c.id = reservationId ∧ c.held = true)⟩ := by
  refine ⟨tidy_map hb.tidy fun e => by split <;> rfl, ?_⟩
  show _ = ((b.ledger.db.spend.map _).filter _).map _
  rw [List.filter_map, List.map_map, hb.real, List.filter_map, List.filter_filter]
  have hcounted : ∀ e ∈ b.ledger.db.spend,
      ((fun e : SpendRow => decide (Counted org e)) ∘ fun e : SpendRow =>
        if e.id = reservationId ∧ e.orgId = org.orgId ∧ e.state = .HELD then
          { e with state := .RELEASED } else e) e =
      (((fun c : Commitment => decide (¬ (c.id = reservationId ∧ c.held = true))) ∘
        SpendRow.commitment) e && decide (Counted org e)) := by
    intro e _
    by_cases hcond : e.id = reservationId ∧ e.orgId = org.orgId ∧ e.state = .HELD
    · simp [hcond, Counted, SpendRow.commitment]
    · by_cases hc : Counted org e
      · have hstays : ¬ (e.id = reservationId ∧ e.state = .HELD) := fun h =>
          hcond ⟨h.1, hc.1, h.2⟩
        simp only [Function.comp_apply, if_neg hcond, decide_eq_true hc, Bool.and_true]
        refine Eq.symm (decide_eq_true ?_)
        exact fun h => hstays ⟨h.1, of_decide_eq_true h.2⟩
      · simp [hcond, hc]
  rw [List.filter_congr hcounted]
  refine List.map_congr_left fun e he => ?_
  obtain ⟨-, hboth⟩ := List.mem_filter.mp he
  have hcond : ¬ (e.id = reservationId ∧ e.orgId = org.orgId ∧ e.state = .HELD) := by
    intro h
    simp [SpendRow.commitment, h] at hboth
  show e.commitment = SpendRow.commitment (if _ then _ else e)
  rw [if_neg hcond]

/-- **What a call leaves in the book.** -/
theorem booked_step (hb : Booked org b) {a : Action} (hs : bookStep org b a = some b') :
    Booked org b' := by
  obtain ⟨s, hstep, rfl⟩ := Option.map_eq_some_iff.mp hs
  cases a with
  | reserve agentId usdCents actionRef checked created =>
    simp only [step] at hstep
    split at hstep
    · cases hr : reserve org b.ledger.db agentId usdCents actionRef checked created with
      | error e =>
        rw [hr] at hstep
        cases hstep
        simp only [booked, hr]
        exact ⟨hb.tidy, hb.real⟩
      | ok made =>
        obtain ⟨db', n⟩ := made
        rw [hr] at hstep
        cases hstep
        simp only [booked, hr]
        exact booked_reserve hb hr
    · cases hstep
  | settle reservationId actualUsdCents =>
    simp only [step] at hstep
    cases hr : settle org b.ledger.db reservationId actualUsdCents with
    | error e =>
      rw [hr] at hstep
      cases hstep
      simp only [booked, hr]
      exact ⟨hb.tidy, hb.real⟩
    | ok db' =>
      rw [hr] at hstep
      cases hstep
      simp only [booked, hr]
      exact booked_settle hb hr
  | release reservationId =>
    cases hstep
    exact booked_release hb reservationId
  | revoke agentId reason now =>
    simp only [step] at hstep
    split at hstep
    · cases hstep
      exact ⟨⟨hb.tidy.ids, hb.tidy.issued⟩, hb.real⟩
    · cases hstep

end Steps

/-! ## 3. What a call frees -/

section Frees

variable {org : Organization} {b b' : Books}

theorem nonneg_step (hnonneg : RowsNonneg org b.ledger.db) {a : Action} (ha : NonNegative a)
    {s : Ledger} (hs : step org b.ledger a = some s) : RowsNonneg org s.db := by
  cases a with
  | reserve agentId usdCents actionRef checked created =>
    simp only [step] at hs
    split at hs
    · cases hr : reserve org b.ledger.db agentId usdCents actionRef checked created with
      | error e =>
        rw [hr] at hs
        cases hs
        exact hnonneg
      | ok made =>
        obtain ⟨db', n⟩ := made
        rw [hr] at hs
        cases hs
        obtain ⟨_, _, _, _, _, _, _, rfl, -⟩ := reserve_eq_ok.mp hr
        intro e he hcounted
        rcases List.mem_append.mp he with hold | hnew
        · exact hnonneg e hold hcounted
        · rw [List.mem_singleton.mp hnew]
          exact ha
    · cases hs
  | settle reservationId actualUsdCents =>
    simp only [step] at hs
    cases hr : settle org b.ledger.db reservationId actualUsdCents with
    | error e =>
      rw [hr] at hs
      cases hs
      exact hnonneg
    | ok db' =>
      rw [hr] at hs
      cases hs
      obtain ⟨row, -, rfl, horg, hheld, -, rfl⟩ := settle_ok hr
      intro e he hcounted
      obtain ⟨old, hold, rfl⟩ := List.mem_map.mp he
      by_cases hid : old.id = row.id
      · rw [if_pos hid]
        exact ha
      · rw [if_neg hid] at hcounted ⊢
        exact hnonneg old hold hcounted
  | release reservationId =>
    cases hs
    intro e he hcounted
    obtain ⟨old, hold, rfl⟩ := List.mem_map.mp he
    by_cases hcond : old.id = reservationId ∧ old.orgId = org.orgId ∧ old.state = .HELD
    · rw [if_pos hcond] at hcounted
      obtain hstate | hstate := hcounted.2 <;> cases hstate
    · rw [if_neg hcond] at hcounted ⊢
      exact hnonneg old hold hcounted
  | revoke agentId reason now =>
    simp only [step] at hs
    split at hs
    · cases hs
      exact hnonneg
    · cases hs

/-- A reservation adds its amount to the windows that begin before it. -/
theorem total_reserve {agentId actionRef : String} {usdCents checked created : Int} {n : Nat}
    {db' : DB}
    (h : reserve org b.ledger.db agentId usdCents actionRef checked created = .ok (db', n))
    (hb' : b'.ledger.db = db') (scope : Option String) (since : Int) :
    b'.total org scope since = b.total org scope since +
      if since < created ∧ InScope scope agentId then usdCents else 0 := by
  obtain ⟨_, _, _, _, _, _, _, rfl, -⟩ := reserve_eq_ok.mp h
  rw [total_eq, total_eq, hb']
  show sumWhere _ _ (b.ledger.db.spend ++ [_]) = _
  rw [sumWhere_concat]
  congr 1
  refine if_congr ?_ rfl rfl
  exact and_congr_left fun _ => and_iff_right (counted_heldRow _ _ _ _)

theorem total_settle (hb : Booked org b) {row : SpendRow} (hrow : row ∈ b.ledger.db.spend)
    (horg : row.orgId = org.orgId) (hheld : row.state = .HELD) {actualUsdCents : Int}
    (hb' : b'.ledger.db = { b.ledger.db with spend := b.ledger.db.spend.map fun e =>
      if e.id = row.id then { e with state := .SETTLED, usdCents := actualUsdCents } else e })
    (scope : Option String) (since : Int) :
    b'.total org scope since = b.total org scope since +
      if since < row.createdAtMs ∧ InScope scope row.agentId then actualUsdCents - row.usdCents
      else 0 := by
  rw [total_eq, total_eq, hb']
  show sumWhere _ _ (b.ledger.db.spend.map fun e =>
    if (fun x : SpendRow => x.id) e = (fun x : SpendRow => x.id) row then
      SpendRow.settled actualUsdCents e else e) = _
  rw [sumWhere_map_key hb.tidy.ids hrow]
  have hbefore : ((Counted org row ∧ since < row.createdAtMs) ∧ InScope scope row.agentId) ↔
      since < row.createdAtMs ∧ InScope scope row.agentId :=
    and_congr_left fun _ => and_iff_right ⟨horg, Or.inl hheld⟩
  have hafter : ((Counted org (row.settled actualUsdCents) ∧ since < row.createdAtMs) ∧
      InScope scope row.agentId) ↔ since < row.createdAtMs ∧ InScope scope row.agentId :=
    and_congr_left fun _ => and_iff_right ⟨horg, Or.inr rfl⟩
  show _ - (if _ then _ else _) + (if (Counted org (row.settled actualUsdCents) ∧
    since < row.createdAtMs) ∧ InScope scope row.agentId then actualUsdCents else 0) = _
  rw [if_congr hbefore rfl rfl, if_congr hafter rfl rfl]
  split <;> omega

theorem release_eq (db : DB) {reservationId : Nat}
    (h : ¬ ∃ row ∈ db.spend, row.id = reservationId ∧ row.orgId = org.orgId ∧ row.state = .HELD) :
    release org db reservationId = db := by
  have hspend : (release org db reservationId).spend = db.spend := by
    refine (List.map_congr_left fun e he => ?_).trans (List.map_id _)
    exact if_neg fun hcond => h ⟨e, he, hcond⟩
  show { db with spend := (release org db reservationId).spend } = db
  rw [hspend]

/-- A release frees what its row held, in the windows that begin before it. -/
theorem total_release (hb : Booked org b) {row : SpendRow} (hrow : row ∈ b.ledger.db.spend)
    (horg : row.orgId = org.orgId) (hheld : row.state = .HELD)
    (hb' : b'.ledger.db = release org b.ledger.db row.id) (scope : Option String) (since : Int) :
    b'.total org scope since = b.total org scope since -
      if since < row.createdAtMs ∧ InScope scope row.agentId then row.usdCents else 0 := by
  have hspend : (release org b.ledger.db row.id).spend = b.ledger.db.spend.map fun e =>
      if (fun x : SpendRow => x.id) e = (fun x : SpendRow => x.id) row then
        { e with state := .RELEASED } else e := by
    refine List.map_congr_left fun e he => ?_
    by_cases hid : e.id = row.id
    · obtain rfl := hb.tidy.eq_of_id he hrow hid
      rw [if_pos ⟨rfl, horg, hheld⟩, if_pos rfl]
    · exact (if_neg fun h => hid h.1).trans (if_neg hid).symm
  rw [total_eq, total_eq, hb', hspend, sumWhere_map_key hb.tidy.ids hrow]
  have hbefore : ((Counted org row ∧ since < row.createdAtMs) ∧ InScope scope row.agentId) ↔
      since < row.createdAtMs ∧ InScope scope row.agentId :=
    and_congr_left fun _ => and_iff_right ⟨horg, Or.inl hheld⟩
  have hafter : ¬ ((Counted org { row with state := .RELEASED } ∧ since < row.createdAtMs) ∧
      InScope scope row.agentId) := by
    intro h
    obtain hstate | hstate := h.1.1.2 <;> cases hstate
  show _ - (if _ then _ else _) + (if (Counted org { row with state := .RELEASED } ∧
    since < row.createdAtMs) ∧ InScope scope row.agentId then row.usdCents else 0) = _
  rw [if_congr hbefore rfl rfl, if_neg hafter, add_zero]

theorem inScope_none (agentId : String) : InScope none agentId := fun _ h => by cases h

/-- A reservation frees nothing where it is not negative, and is not covered where it is. -/
theorem kept_reserve_iff (hbooked : Booked org b') (hnonneg : RowsNonneg org b.ledger.db)
    {agentId actionRef : String} {usdCents checked created : Int} {n : Nat}
    (hr : reserve org b.ledger.db agentId usdCents actionRef checked created =
      .ok (b'.ledger.db, n)) :
    Kept org b (.reserve agentId usdCents actionRef checked created) b' ↔ 0 ≤ usdCents := by
  have htotal (scope : Option String) (since : Int) : b'.total org scope since =
      b.total org scope since + if since < created ∧ InScope scope agentId then usdCents else 0 :=
    total_reserve hr rfl scope since
  constructor
  · intro hkept
    rcases hkept.2 with hnone | ⟨_, _, _, _, hends | ⟨_, hends⟩, _⟩
    · have hle := hnone none (created - 1)
      rw [htotal, if_pos ⟨by omega, inScope_none _⟩] at hle
      omega
    · cases hends
    · cases hends
  · intro hpos
    have hrows : RowsNonneg org b'.ledger.db := by
      obtain ⟨_, _, _, _, _, _, _, hspend, -⟩ := reserve_eq_ok.mp hr
      intro e he hcounted
      rw [hspend] at he
      rcases List.mem_append.mp he with hold | hnew
      · exact hnonneg e hold hcounted
      · rw [List.mem_singleton.mp hnew]
        exact hpos
    refine ⟨covered_of_nonneg hbooked hrows, Or.inl fun scope since => ?_⟩
    rw [htotal]
    split <;> omega

/-- A settlement ends its reservation, and frees no more than it held unless it is negative. -/
theorem kept_settle_iff (hb : Booked org b) (hbooked : Booked org b')
    (hnonneg : RowsNonneg org b.ledger.db) {actualUsdCents : Int}
    (hrows : 0 ≤ actualUsdCents → RowsNonneg org b'.ledger.db) {row : SpendRow}
    (hrow : row ∈ b.ledger.db.spend) (horg : row.orgId = org.orgId)
    (hheld : row.state = .HELD)
    (hb' : b'.ledger.db = { b.ledger.db with spend := b.ledger.db.spend.map fun e =>
      if e.id = row.id then { e with state := .SETTLED, usdCents := actualUsdCents } else e }) :
    Kept org b (.settle row.id actualUsdCents) b' ↔ 0 ≤ actualUsdCents := by
  have htotal := total_settle hb hrow horg hheld hb'
  have hpos : 0 ≤ row.usdCents := hnonneg row hrow ⟨horg, Or.inl hheld⟩
  -- the window that begins right before the row, over all agents
  have hwindow := htotal none (row.createdAtMs - 1)
  rw [if_pos ⟨by omega, inScope_none _⟩] at hwindow
  constructor
  · intro hkept
    rcases hkept.2 with hnone | ⟨row', hrow', _, _, hends, hfreed⟩
    · have hle := hnone none (row.createdAtMs - 1)
      omega
    · have hid : row'.id = row.id := by
        rcases hends with hends | ⟨_, hends⟩
        · cases hends
        · injection hends with hid
          exact hid.symm
      obtain rfl := hb.tidy.eq_of_id hrow' hrow hid
      have hle := hfreed none (row'.createdAtMs - 1)
      omega
  · intro hactual
    refine ⟨covered_of_nonneg hbooked (hrows hactual), Or.inr ⟨row, hrow, horg, hheld,
      Or.inr ⟨actualUsdCents, rfl⟩, fun scope since => ?_⟩⟩
    rw [htotal]
    split <;> omega

/-- **What a call that succeeds keeps**, where no row is negative. -/
theorem kept_iff (hb : Booked org b) (hnonneg : RowsNonneg org b.ledger.db) {a : Action}
    (hdone : Succeeds org b.ledger.db a) (hs : bookStep org b a = some b') :
    Kept org b a b' ↔ NonNegative a := by
  have hbooked := booked_step hb hs
  obtain ⟨s, hstep, rfl⟩ := Option.map_eq_some_iff.mp hs
  have hrows : NonNegative a → RowsNonneg org s.db := fun ha => nonneg_step hnonneg ha hstep
  cases a with
  | reserve agentId usdCents actionRef checked created =>
    simp only [step] at hstep
    split at hstep
    swap
    · cases hstep
    cases hr : reserve org b.ledger.db agentId usdCents actionRef checked created with
    | error e =>
      rw [Succeeds, hr] at hdone
      cases hdone
    | ok made =>
      rw [hr] at hstep
      cases hstep
      exact kept_reserve_iff hbooked hnonneg hr
  | settle reservationId actualUsdCents =>
    cases hr : settle org b.ledger.db reservationId actualUsdCents with
    | error e =>
      rw [Succeeds, hr] at hdone
      cases hdone
    | ok db' =>
      simp only [step] at hstep
      rw [hr] at hstep
      cases hstep
      obtain ⟨row, hrow, rfl, horg, hheld, _, hdb⟩ := settle_ok hr
      exact kept_settle_iff hb hbooked hnonneg hrows hrow horg hheld hdb
  | release reservationId =>
    cases hstep
    refine iff_of_true ⟨covered_of_nonneg hbooked (hrows trivial), ?_⟩ trivial
    by_cases hheld : ∃ row ∈ b.ledger.db.spend, row.id = reservationId ∧ row.orgId = org.orgId ∧
      row.state = .HELD
    · obtain ⟨row, hrow, rfl, horg, hstate⟩ := hheld
      have hpos : 0 ≤ row.usdCents := hnonneg row hrow ⟨horg, Or.inl hstate⟩
      refine Or.inr ⟨row, hrow, horg, hstate, Or.inl rfl, fun scope since => ?_⟩
      refine le_of_le_of_eq ?_ (total_release hb hrow horg hstate ?_ scope since).symm
      · split <;> omega
      · rfl
    · refine Or.inl fun scope since => ?_
      rw [total_eq, total_eq]
      show _ ≤ sumWhere _ _ (release org b.ledger.db reservationId).spend
      rw [release_eq _ hheld]
  | revoke agentId reason now =>
    refine iff_of_true ⟨covered_of_nonneg hbooked (hrows trivial), Or.inl fun scope since => ?_⟩
      trivial
    simp only [step] at hstep
    split at hstep
    swap
    · cases hstep
    cases hstep
    rw [total_eq, total_eq]
    exact le_rfl

theorem unchanged_of_not_succeeds {a : Action} (h : ¬ Succeeds org b.ledger.db a)
    (hs : bookStep org b a = some b') : b'.ledger.db = b.ledger.db ∧ b'.real = b.real := by
  obtain ⟨s, hstep, rfl⟩ := Option.map_eq_some_iff.mp hs
  cases a with
  | reserve agentId usdCents actionRef checked created =>
    simp only [step] at hstep
    split at hstep
    swap
    · cases hstep
    cases hr : reserve org b.ledger.db agentId usdCents actionRef checked created with
    | error e =>
      rw [hr] at hstep
      cases hstep
      exact ⟨rfl, by simp only [booked, hr]⟩
    | ok made =>
      refine absurd ?_ h
      rw [Succeeds, hr]
      rfl
  | settle reservationId actualUsdCents =>
    simp only [step] at hstep
    cases hr : settle org b.ledger.db reservationId actualUsdCents with
    | error e =>
      rw [hr] at hstep
      cases hstep
      exact ⟨rfl, by simp only [booked, hr]⟩
    | ok db' =>
      refine absurd ?_ h
      rw [Succeeds, hr]
      rfl
  | release reservationId => exact absurd trivial h
  | revoke agentId reason now => exact absurd trivial h

/-! ## 4. Whole runs -/

def bookCall (org : Organization) : Books → Action → Option Books :=
  guarded (bookStep org) fun _ a => NonNegative a

theorem nonneg_of_booked_run {s₀ : Ledger} (h₀ : Tidy s₀.db) (hn : RowsNonneg org s₀.db)
    (h : Reaches (bookCall org) (.opened org s₀) b) :
    Booked org b ∧ RowsNonneg org b.ledger.db := by
  refine h.invariant (P := fun b => Booked org b ∧ RowsNonneg org b.ledger.db)
    (fun b a b' hb hs => ?_) ⟨booked_opened h₀, hn⟩
  obtain ⟨ha, hs⟩ := guarded_eq_some.mp hs
  refine ⟨booked_step hb.1 hs, ?_⟩
  obtain ⟨s, hstep, rfl⟩ := Option.map_eq_some_iff.mp hs
  exact nonneg_step hb.2 ha hstep

/-- **What the ledger keeps.** In every run of calls whose amounts are not negative, no window
    total is below what was really reserved and settled. From each of its states a call that
    throws changes nothing; a call that succeeds keeps that, and frees capacity only by ending a
    held reservation and no more than that held, exactly when its own amount is not negative. -/
theorem capacity_kept_iff {s₀ : Ledger} (h₀ : Tidy s₀.db) (hn : RowsNonneg org s₀.db)
    (h : Reaches (bookCall org) (.opened org s₀) b) :
    Covered org b ∧ ∀ a b', bookStep org b a = some b' →
      (¬ Succeeds org b.ledger.db a → b'.ledger.db = b.ledger.db ∧ b'.real = b.real) ∧
      (Succeeds org b.ledger.db a → (Kept org b a b' ↔ NonNegative a)) := by
  obtain ⟨hb, hnonneg⟩ := nonneg_of_booked_run h₀ hn h
  exact ⟨covered_of_nonneg hb hnonneg, fun a b' hs =>
    ⟨fun hfail => unchanged_of_not_succeeds hfail hs, fun hdone => kept_iff hb hnonneg hdone hs⟩⟩

end Frees

/-! ## 5. A reservation below zero -/

/-- One executor of a hundred dollars a day. -/
def soloTreasury : Organization where
  orgId := "org-1"
  agents := [⟨"guardian", .EXECUTE, some 10000, some 10000⟩]
  aggregateLimits := [⟨10000, 24 * 60 * 60 * 1000, day_pos⟩]

def soloReserve (usdCents : Int) : Action := .reserve "guardian" usdCents "act-1" 1000 1001

def soloBooks : Books := .opened soloTreasury (.start 0)

def soloReserved (usdCents : Int) : Books where
  ledger := ⟨⟨[⟨1, "org-1", "guardian", usdCents, .HELD, "act-1", 1001⟩], 1, []⟩, 1001⟩
  real := [⟨1, "guardian", usdCents.toNat, true, 1001⟩]

theorem solo_reserve {usdCents : Int} (h : usdCents ≤ 10000) :
    reserve soloTreasury soloBooks.ledger.db "guardian" usdCents "act-1" 1000 1001 =
      .ok ((soloReserved usdCents).ledger.db, 1) := by
  have hzero (since : Int) : orgUsdCents soloTreasury soloBooks.ledger.db since = 0 := rfl
  refine reserve_eq_ok.mpr ⟨10000, 10000, rfl, rfl, h, ?_, fun agg hagg => ?_, rfl, rfl⟩
  · show (0 : Int) + usdCents ≤ 10000
    omega
  · rw [aggregate, soloTreasury, List.mergeSort_singleton, List.head?_cons,
      Option.some.injEq] at hagg
    subst hagg
    rw [hzero]
    show (0 : Int) + usdCents ≤ 10000
    omega

theorem solo_step {usdCents : Int} (h : usdCents ≤ 10000) :
    bookStep soloTreasury soloBooks (soloReserve usdCents) = some (soloReserved usdCents) := by
  have hok := solo_reserve h
  simp only [bookStep, soloReserve, step, booked, hok]
  rfl

theorem solo_succeeds {usdCents : Int} (h : usdCents ≤ 10000) :
    Succeeds soloTreasury soloBooks.ledger.db (soloReserve usdCents) := by
  show (reserve _ _ _ _ _ _ _).isOk = true
  rw [solo_reserve h]
  rfl

/-- Fifty dollars reserved: the totals cover the book, and nothing was freed. -/
theorem capacity_kept_fifty :
    Kept soloTreasury soloBooks (soloReserve 5000) (soloReserved 5000) := by
  have htidy : Tidy (Ledger.start 0).db := ⟨List.nodup_nil, fun _ h => by cases h⟩
  have hreach : Reaches (bookCall soloTreasury) (.opened soloTreasury (.start 0)) soloBooks :=
    .refl _
  have hkept := (capacity_kept_iff htidy (fun _ h => by cases h) hreach).2
    (soloReserve 5000) _ (solo_step (by decide))
  exact (hkept.2 (solo_succeeds (by decide))).mpr (by decide)

/-- **A reservation of minus fifty dollars** succeeds: the total of the day is below what was
    really committed, and every later check has fifty dollars more to give. -/
theorem negative_reserve_frees :
    bookStep soloTreasury soloBooks (soloReserve (-5000)) = some (soloReserved (-5000)) ∧
      Succeeds soloTreasury soloBooks.ledger.db (soloReserve (-5000)) ∧
      (soloReserved (-5000)).total soloTreasury none 0 = -5000 ∧
      (soloReserved (-5000)).realTotal none 0 = 0 ∧
      ¬ Kept soloTreasury soloBooks (soloReserve (-5000)) (soloReserved (-5000)) := by
  have htotal : (soloReserved (-5000)).total soloTreasury none 0 = -5000 := by decide
  have hreal : (soloReserved (-5000)).realTotal none 0 = 0 := by decide
  refine ⟨solo_step (by decide), solo_succeeds (by decide), htotal, hreal, fun h => ?_⟩
  have hle := h.1 none 0
  rw [htotal, hreal] at hle
  omega

end ContextLock.Org
