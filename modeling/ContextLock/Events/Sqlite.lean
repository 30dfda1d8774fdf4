/-
  Subject:   The store of runtime events in a database, beside the one in memory.

  The database keeps the metadata of an event as a JSON text, and selects, orders and limits by a
  statement; the least severity is looked at after that. Column types are those of the values. A draft
  that the schema refuses is an error of another class than in memory, with the same issues.
-/
import ContextLock.Events.Store
import ContextLock.Js.Reparse

namespace ContextLock.Events

open Js

/-! ## 1. Rows -/

/-- A row of `control_runtime_events`: the columns of an event, and the metadata as a text. -/
structure EventRow where
  event : RuntimeEvent
  publicMetadata : String

def RuntimeEvent.columns (e : RuntimeEvent) : RuntimeEvent := { e with content := e.content.bare }

def toRow (e : RuntimeEvent) : EventRow :=
  ⟨e.columns, (stringifyData (.obj e.content.publicMetadata)).getD ""⟩

def RuntimeEvent.withMetadata (e : RuntimeEvent) (fields : List (String × Value)) : RuntimeEvent :=
  { e with content := { e.content with publicMetadata := fields } }

/-- `fromRow`; `none` is thrown by `JSON.parse`. -/
def fromRow (nearest : Rounding) (r : EventRow) : Option RuntimeEvent :=
  match jsonParse nearest r.publicMetadata with
  | some (.obj fields) => some (r.event.withMetadata fields)
  | _ => none

def metadataBack (nearest : Rounding) (fields : List (String × Value)) : List (String × Value) :=
  ((jsonForm.formFields fields).map fun f => (f.1, f.2.reparsed nearest)).foldl setField []

def RuntimeEvent.back (nearest : Rounding) (e : RuntimeEvent) : RuntimeEvent :=
  e.withMetadata (metadataBack nearest e.content.publicMetadata)

/-- **An event comes back from its row**, with its metadata through JSON. -/
theorem fromRow_toRow (nearest : Rounding) (e : RuntimeEvent) :
    fromRow nearest (toRow e) = some (e.back nearest) := by
  have hparse : jsonParse nearest (toRow e).publicMetadata
      = some (.obj (metadataBack nearest e.content.publicMetadata)) := by
    rw [toRow, stringifyData, jsonForm, Option.map_some, Option.getD_some, jsonParse_text,
      Canonical.reparsed, reparsedFields_eq]
    rfl
  rw [fromRow, hparse]
  rfl

/-! ## 2. Statements -/

/-- `WHERE`: the filters of a query but for the least severity; hashes are compared in lower
    case. -/
def EventQuery.matchesRow (q : EventQuery) (e : RuntimeEvent) : Bool :=
  q.selects e && q.txHash.all fun h => e.content.txHash.any fun t => toLowerCase t = toLowerCase h

/-- `ORDER BY timestamp .., event_id ..`; the texts of identities are compared unit by unit. -/
def orderBy (order : Option QueryOrder) (rows : List EventRow) : List EventRow :=
  if order = some .desc then sortBy (fun a b => placeLe b a) (fun r => r.event.place) rows
  else sortBy placeLe (fun r => r.event.place) rows

/-- `LIMIT @limit`, where `q.limit` is not falsy. A negative one is none; one that is no integer of
    64 bits is refused, which is the outer `none`. -/
def sqlLimit : Option Double → Option (Option Nat)
  | none | some .nan | some .negativeZero => some none
  | some (.finite (.int n)) =>
    if 2 ^ 63 ≤ n.natAbs then none else if n ≤ 0 then some none else some (some n.toNat)
  | some (.finite (.decimal _)) | some (.infinite _) => none

def takeLimit {α : Type} : Option Nat → List α → List α
  | none, rows => rows
  | some n, rows => rows.take n

/-! ## 3. The store -/

/-- `SqliteEventStore`, by the rows of its table. -/
structure SqliteEventStore where
  rows : List EventRow

namespace SqliteEventStore

def empty : SqliteEventStore := ⟨[]⟩

variable (assertPublicSafe : List (String × Value) → Except String Unit) (nearest : Rounding)

/-- `get`; the outer `none` is thrown. -/
def get (s : SqliteEventStore) (eventId : String) : Option (Option RuntimeEvent) :=
  match s.rows.find? (·.event.eventId = eventId) with
  | none => some none
  | some r => (fromRow nearest r).map some

/-- `INSERT OR IGNORE`: `event_id` is the primary key. -/
def insertOrIgnore (s : SqliteEventStore) (r : EventRow) : SqliteEventStore :=
  if r.event.eventId ∈ s.rows.map (·.event.eventId) then s else ⟨s.rows ++ [r]⟩

/-- `append`; `none` is thrown by the database. -/
def append (s : SqliteEventStore) (a : Append) :
    Option (Except AppendError AppendResult) × SqliteEventStore :=
  match candidate assertPublicSafe a with
  | .error e => (some (.error e), s)
  | .ok row =>
    match s.get nearest row.eventId with
    | none => (none, s)
    | some (some existing) => (some (.ok ⟨false, existing⟩), s)
    | some none =>
      let s' := s.insertOrIgnore (toRow row)
      ((s'.get nearest row.eventId).map fun stored => .ok ⟨true, stored.getD row⟩, s')

def appendAll (s : SqliteEventStore) (run : List Append) : SqliteEventStore :=
  run.foldl (fun s a => (s.append assertPublicSafe nearest a).2) s

/-- `query`; `none` is thrown by the database. -/
def query (s : SqliteEventStore) (q : EventQuery) : Option (List RuntimeEvent) :=
  match sqlLimit q.limit with
  | none => none
  | some limit =>
    ((takeLimit limit (orderBy q.order (s.rows.filter fun r => q.matchesRow r.event))).mapM
      (fromRow nearest)).map fun rows => rows.filter q.severe

end SqliteEventStore

/-! ## 4. One store mirrors the other -/

section Mirror

variable {assertPublicSafe : List (String × Value) → Except String Unit} {nearest : Rounding}

/-- The rows are those of the store in memory, written out. -/
def Mirrors (s : SqliteEventStore) (m : InMemoryEventStore) : Prop := s.rows = m.rows.map toRow

variable {s : SqliteEventStore} {m : InMemoryEventStore}

theorem Mirrors.ids (h : Mirrors s m) :
    s.rows.map (·.event.eventId) = m.rows.map RuntimeEvent.eventId := by
  rw [h, List.map_map]
  rfl

theorem Mirrors.mem_ids (h : Mirrors s m) {eventId : String} :
    eventId ∈ s.rows.map (·.event.eventId) ↔ (m.byId.get? eventId).isSome = true := by
  rw [h.ids, m.ids_rows, m.order_eq]
  constructor
  · intro hmem
    obtain ⟨e, he, hkey⟩ := List.mem_map.mp hmem
    rw [← hkey, m.byId.get?_of_mem he]
    rfl
  · intro hsome
    obtain ⟨row, hrow⟩ := Option.isSome_iff_exists.mp hsome
    obtain ⟨e, he, hkey, -⟩ := m.byId.mem_of_get? hrow
    exact List.mem_map.mpr ⟨e, he, hkey⟩

theorem Mirrors.get_cases (h : Mirrors s m) (nearest : Rounding) (eventId : String) :
    ((m.byId.get? eventId).isSome = false ∧ s.get nearest eventId = some none) ∨
      ∃ existing, (m.byId.get? eventId).isSome = true ∧
        s.get nearest eventId = some (some existing) := by
  unfold SqliteEventStore.get
  cases hfind : s.rows.find? (·.event.eventId = eventId) with
  | none =>
    refine .inl ⟨?_, rfl⟩
    refine eq_false_of_ne_true fun hsome => ?_
    obtain ⟨r, hr, hid⟩ := List.mem_map.mp (h.mem_ids.mpr hsome)
    exact absurd hid (by simpa using List.find?_eq_none.mp hfind r hr)
  | some r =>
    have hr : r ∈ s.rows := List.mem_of_find?_eq_some hfind
    have hid : r.event.eventId = eventId := by simpa using List.find?_some hfind
    have hmem : eventId ∈ s.rows.map (·.event.eventId) := hid ▸ List.mem_map_of_mem hr
    rw [h] at hr
    obtain ⟨e, -, rfl⟩ := List.mem_map.mp hr
    refine .inr ⟨e.back nearest, h.mem_ids.mp hmem, ?_⟩
    dsimp only
    rw [fromRow_toRow]
    rfl

/-- **An append**: both stores take the draft or both refuse it, and still mirror each other. -/
theorem Mirrors.append (h : Mirrors s m) (a : Append) :
    (s.append assertPublicSafe nearest a).1.map (Except.map AppendResult.created)
        = some ((m.append assertPublicSafe a).1.map AppendResult.created) ∧
      Mirrors (s.append assertPublicSafe nearest a).2 (m.append assertPublicSafe a).2 := by
  unfold SqliteEventStore.append
  cases hcandidate : candidate assertPublicSafe a with
  | error e =>
    rw [InMemoryEventStore.append_of_error hcandidate]
    exact ⟨rfl, h⟩
  | ok row =>
    dsimp only
    rcases h.get_cases nearest row.eventId with ⟨hnone, hget⟩ | ⟨existing, hsome, hget⟩
    · have habsent : m.byId.get? row.eventId = none := by
        simpa using hnone
      have hnew : (toRow row).event.eventId ∉ s.rows.map (·.event.eventId) := by
        show row.eventId ∉ s.rows.map (·.event.eventId)
        rw [h.mem_ids, hnone]
        decide
      have hinsert : Mirrors (s.insertOrIgnore (toRow row)) (m.insert row habsent) := by
        rw [Mirrors, SqliteEventStore.insertOrIgnore, if_neg hnew, h,
          InMemoryEventStore.rows_insert, List.map_append]
        rfl
      rw [hget, InMemoryEventStore.append_of_none hcandidate habsent]
      refine ⟨?_, hinsert⟩
      dsimp only
      rcases hinsert.get_cases nearest row.eventId with ⟨-, hagain⟩ | ⟨stored, -, hagain⟩
      · rw [hagain]
        rfl
      · rw [hagain]
        rfl
    · obtain ⟨present, hpresent⟩ := Option.isSome_iff_exists.mp hsome
      rw [hget, InMemoryEventStore.append_of_existing hcandidate hpresent]
      exact ⟨rfl, h⟩

theorem mirrors_appendAll (run : List Append) :
    Mirrors (SqliteEventStore.empty.appendAll assertPublicSafe nearest run)
      (InMemoryEventStore.empty.appendAll assertPublicSafe run) := by
  induction run using List.reverseRecOn with
  | nil => rfl
  | append_singleton run a ih =>
    rw [SqliteEventStore.appendAll, InMemoryEventStore.appendAll, List.foldl_append,
      List.foldl_append, List.foldl_cons, List.foldl_cons, List.foldl_nil, List.foldl_nil,
      ← SqliteEventStore.appendAll, ← InMemoryEventStore.appendAll]
    exact (ih.append a).2

end Mirror

/-! ## 5. The condition on a query -/

namespace EventQuery

variable (q : EventQuery) (rows : List RuntimeEvent)

/-- The events that match a query but for its least severity, on the timeline. -/
def found : List RuntimeEvent := timeline q.order (rows.filter q.matchesRow)

def HashLower : Prop := ∀ h ∈ q.txHash, toLowerCase h = h

/-- The limit and the least severity may be applied in either order: there is no limit, or the first
    events within it are all severe enough, or none behind it is. A limit that the statement takes
    for none finds nothing. -/
def Commutes : Prop :=
  q.limit = none ∨
    match (sqlLimit q.limit).join with
    | some n => (∀ e ∈ (q.found rows).take n, q.severe e = true) ∨
        ∀ e ∈ (q.found rows).drop n, q.severe e = false
    | none => ∀ e ∈ q.found rows, q.severe e = false

/-- The severe events among those within the limit of the statement. -/
def selected : List RuntimeEvent :=
  (takeLimit (sqlLimit q.limit).join (q.found rows)).filter q.severe

/-- **The condition on a query**, for the events that are stored. The database takes the limit. With
    a hash in lower case, the limit and the least severity commute, and the metadata of the events
    selected comes back from JSON as it was; with another, no event is selected. -/
def Agrees (nearest : Rounding) : Prop :=
  sqlLimit q.limit ≠ none ∧
    ((q.HashLower ∧ q.Commutes rows ∧ ∀ e ∈ q.selected rows,
        metadataBack nearest e.content.publicMetadata = e.content.publicMetadata) ∨
      (¬ q.HashLower ∧ q.selected rows = []))

end EventQuery

/-! ## 6. Lists -/

theorem filter_take_eq_iff {α : Type} (p : α → Bool) (as : List α) (n : Nat) :
    (as.take n).filter p = (as.filter p).take n ↔
      (∀ a ∈ as.take n, p a = true) ∨ ∀ a ∈ as.drop n, p a = false := by
  have hsplit : as.filter p = (as.take n).filter p ++ (as.drop n).filter p := by
    rw [← List.filter_append, List.take_append_drop]
  have hkept : ((as.take n).filter p).length ≤ (as.take n).length := List.length_filter_le _ _
  have htake : (as.take n).length ≤ n := List.length_take_le _ _
  constructor
  · intro heq
    by_cases hall : ∀ a ∈ as.take n, p a = true
    · exact .inl hall
    · right
      have hfewer : ((as.take n).filter p).length < (as.take n).length := by
        refine lt_of_le_of_ne hkept fun hsame => hall ?_
        exact List.length_filter_eq_length_iff.mp hsame
      have hlengths := congrArg List.length heq
      rw [hsplit, List.length_take, List.length_append] at hlengths
      have hnone : ((as.drop n).filter p).length = 0 := by omega
      intro a ha
      refine eq_false_of_ne_true fun hp => ?_
      exact List.ne_nil_of_mem (List.mem_filter.mpr ⟨ha, hp⟩) (List.length_eq_zero_iff.mp hnone)
  · rintro (hall | hnone)
    · rw [hsplit, List.filter_eq_self.mpr hall]
      rcases Nat.lt_or_ge (as.take n).length n with hshort | hfull
      · have hdrop : as.drop n = [] := by
          rw [List.length_take] at hshort
          exact List.drop_eq_nil_of_le (by omega)
        rw [hdrop, List.filter_nil, List.append_nil]
        exact (List.take_of_length_le htake).symm
      · rw [List.take_append_of_le_length hfull]
        exact (List.take_of_length_le htake).symm
    · have hdrop : (as.drop n).filter p = [] := by
        rw [List.filter_eq_nil_iff]
        intro a ha hp
        rw [hnone a ha] at hp
        cases hp
      rw [hsplit, hdrop, List.append_nil]
      exact (List.take_of_length_le (by omega)).symm

theorem map_eq_iff_of_key {α κ : Type} {f : α → α} {key : α → κ} (hkey : ∀ a, key (f a) = key a)
    {as bs : List α} (hinj : ∀ a ∈ as, ∀ b ∈ bs, key a = key b → a = b) :
    as.map f = bs ↔ as = bs ∧ ∀ a ∈ as, f a = a := by
  induction as generalizing bs with
  | nil =>
    constructor
    · rintro rfl
      exact ⟨rfl, fun a ha => absurd ha List.not_mem_nil⟩
    · rintro ⟨rfl, -⟩
      rfl
  | cons a as ih =>
    cases bs with
    | nil =>
      constructor
      · intro h
        cases h
      · rintro ⟨h, -⟩
        cases h
    | cons b bs =>
      have htail := @ih bs fun x hx y hy =>
        hinj x (List.mem_cons_of_mem _ hx) y (List.mem_cons_of_mem _ hy)
      constructor
      · intro h
        obtain ⟨hhead, hrest⟩ := List.cons.inj h
        obtain ⟨heq, hsame⟩ := htail.mp hrest
        have hab : a = b := hinj a List.mem_cons_self b List.mem_cons_self (by rw [← hkey a, hhead])
        refine ⟨by rw [hab, heq], fun x hx => ?_⟩
        rcases List.mem_cons.mp hx with rfl | hx
        · rw [hhead, hab]
        · exact hsame x hx
      · rintro ⟨h, hsame⟩
        obtain ⟨hab, heq⟩ := List.cons.inj h
        have hrest := htail.mpr ⟨heq, fun x hx => hsame x (List.mem_cons_of_mem _ hx)⟩
        rw [List.map_cons, hsame a List.mem_cons_self, hrest, hab]

/-! ## 7. What the two queries give -/

section Queries

variable {assertPublicSafe : List (String × Value) → Except String Unit} {nearest : Rounding}
  {q : EventQuery} {rows : List RuntimeEvent}

@[simp] theorem back_eventId (e : RuntimeEvent) : (e.back nearest).eventId = e.eventId := rfl

theorem back_eq_iff {e : RuntimeEvent} : e.back nearest = e ↔
    metadataBack nearest e.content.publicMetadata = e.content.publicMetadata := by
  constructor
  · intro h
    exact congrArg (fun e : RuntimeEvent => e.content.publicMetadata) h
  · intro h
    rw [RuntimeEvent.back, h]
    rfl

theorem orderBy_toRow (order : Option QueryOrder) (h : (rows.map RuntimeEvent.eventId).Nodup) :
    orderBy order (rows.map toRow) = (timeline order rows).map toRow := by
  have hplace : ∀ e : RuntimeEvent, (toRow e).event.place = e.place := fun _ => rfl
  unfold orderBy timeline
  by_cases horder : order = some .desc
  · rw [if_pos horder, if_pos horder,
      ← map_sortBy (fun a b => placeLe b a) RuntimeEvent.place toRow (fun r => r.event.place) hplace]
    exact congrArg (List.map toRow)
      (sortBy_flip placeLe_total placeLe_trans placeLe_antisymm (nodup_places h))
  · rw [if_neg horder, if_neg horder, ← map_sortBy placeLe RuntimeEvent.place toRow _ hplace]

theorem timeline_filter (order : Option QueryOrder) (p : RuntimeEvent → Bool) :
    timeline order (rows.filter p) = (timeline order rows).filter p := by
  unfold timeline
  rw [← sortBy_filter placeLe_total placeLe_trans]
  by_cases horder : order = some .desc
  · rw [if_pos horder, if_pos horder, List.filter_reverse]
  · rw [if_neg horder, if_neg horder]

theorem mem_timeline {order : Option QueryOrder} {e : RuntimeEvent} :
    e ∈ timeline order rows ↔ e ∈ rows := by
  unfold timeline
  by_cases horder : order = some .desc
  · rw [if_pos horder, List.mem_reverse]
    exact (sortBy_perm _ _ rows).mem_iff
  · rw [if_neg horder]
    exact (sortBy_perm _ _ rows).mem_iff

theorem mapM_fromRow (es : List RuntimeEvent) :
    (es.map toRow).mapM (fromRow nearest) = some (es.map (RuntimeEvent.back nearest)) := by
  induction es with
  | nil => rfl
  | cons e es ih => rw [List.map_cons, List.mapM_cons, fromRow_toRow, ih]; rfl

theorem takeLimit_map {α β : Type} (limit : Option Nat) (f : α → β) (as : List α) :
    takeLimit limit (as.map f) = (takeLimit limit as).map f := by
  cases limit with
  | none => rfl
  | some n => exact List.map_take.symm

theorem mem_of_mem_takeLimit {α : Type} {limit : Option Nat} {as : List α} {a : α}
    (h : a ∈ takeLimit limit as) : a ∈ as := by
  cases limit with
  | none => exact h
  | some n => exact List.mem_of_mem_take h

/-- **What the database gives**: the events selected, with their metadata through JSON. -/
theorem sqlite_query {s : SqliteEventStore} (h : s.rows = rows.map toRow)
    (hids : (rows.map RuntimeEvent.eventId).Nodup) (hlimit : sqlLimit q.limit ≠ none) :
    s.query nearest q = some ((q.selected rows).map (RuntimeEvent.back nearest)) := by
  obtain ⟨limit, hsome⟩ := Option.ne_none_iff_exists'.mp hlimit
  have hmatches : (rows.map toRow).filter (fun r => q.matchesRow r.event)
      = (rows.filter q.matchesRow).map toRow := by
    rw [List.filter_map]
    rfl
  have hnodup : ((rows.filter q.matchesRow).map RuntimeEvent.eventId).Nodup :=
    hids.sublist (List.filter_sublist.map _)
  have hsevere : ∀ es : List RuntimeEvent, (es.map (RuntimeEvent.back nearest)).filter q.severe
      = (es.filter q.severe).map (RuntimeEvent.back nearest) := by
    intro es
    rw [List.filter_map]
    rfl
  unfold SqliteEventStore.query
  rw [hsome]
  dsimp only
  rw [h, hmatches, orderBy_toRow q.order hnodup, takeLimit_map, mapM_fromRow, Option.map_some,
    hsevere, EventQuery.selected, hsome]
  rfl

/-! ### The store in memory -/

def HashesLower (rows : List RuntimeEvent) : Prop :=
  ∀ e ∈ rows, ∀ t ∈ e.content.txHash, toLowerCase t = t

theorem filters_of_lower (hrows : HashesLower rows) (hq : q.HashLower) :
    rows.filter q.filters = (rows.filter q.matchesRow).filter q.severe := by
  rw [List.filter_filter]
  refine List.filter_congr fun e he => ?_
  have hhash : eqNullable q.txHash e.content.txHash
      = q.txHash.all fun h => e.content.txHash.any fun t => toLowerCase t = toLowerCase h := by
    unfold eqNullable
    cases htx : q.txHash with
    | none => rfl
    | some h =>
      cases ht : e.content.txHash with
      | none => rfl
      | some t =>
        have hlower : toLowerCase h = h := hq h htx
        have hstored : toLowerCase t = t := hrows e he t ht
        simp [hlower, hstored]
  rw [EventQuery.filters, EventQuery.matchesRow, hhash, Bool.and_comm]

theorem filters_of_not_lower (hrows : HashesLower rows) (hq : ¬ q.HashLower) :
    rows.filter q.filters = [] := by
  unfold EventQuery.HashLower at hq
  push Not at hq
  obtain ⟨h, htx, hlower⟩ := hq
  rw [List.filter_eq_nil_iff]
  intro e he hfilters
  rw [EventQuery.filters, Bool.and_eq_true, Bool.and_eq_true] at hfilters
  have hequal : e.content.txHash = some h := by
    have hall := hfilters.1.2
    rw [eqNullable, Option.mem_def.mp htx] at hall
    simpa using hall
  exact hlower (hrows e he h hequal)

theorem slice_eq_self {limit : Double} (h : sqlLimit (some limit) = some none)
    (es : List RuntimeEvent) : slice limit es = es ↔ es = [] := by
  have htake : ∀ k, (k = 0 ∨ k < es.length) → (es.take k = es ↔ es = []) := by
    intro k hk
    constructor
    · intro heq
      have hlength := congrArg List.length heq
      rw [List.length_take] at hlength
      exact List.length_eq_zero_iff.mp (by omega)
    · rintro rfl
      exact List.take_nil
  cases limit with
  | finite a =>
    cases a with
    | int n =>
      have hn : n ≤ 0 := by
        rw [sqlLimit] at h
        split at h
        · cases h
        · split at h
          · assumption
          · cases h
      show (if 0 ≤ n then es.take n.toNat else es.take (es.length - n.natAbs)) = es ↔ es = []
      by_cases hzero : 0 ≤ n
      · rw [if_pos hzero]
        exact htake _ (.inl (by omega))
      · rw [if_neg hzero]
        exact htake _ (by omega)
    | decimal d => cases h
  | negativeZero | nan => exact htake 0 (.inl rfl)
  | infinite negative => cases h

theorem slice_eq_take {limit : Double} {n : Nat} (h : sqlLimit (some limit) = some (some n))
    (es : List RuntimeEvent) : slice limit es = es.take n := by
  cases limit with
  | finite a =>
    cases a with
    | int m =>
      have hm : 0 ≤ m ∧ m.toNat = n := by
        rw [sqlLimit] at h
        split at h
        · cases h
        · split at h
          · cases h
          · exact ⟨by omega, Option.some.inj (Option.some.inj h)⟩
      obtain ⟨hpos, rfl⟩ := hm
      show (if 0 ≤ m then es.take m.toNat else es.take (es.length - m.natAbs)) = es.take m.toNat
      rw [if_pos hpos]
    | decimal d => cases h
  | negativeZero => cases h
  | nan => cases h
  | infinite negative => cases h

theorem slice_sublist {α : Type} (limit : Double) (as : List α) : (slice limit as).Sublist as := by
  have htake : (if 0 ≤ limit.trunc then as.take limit.trunc.toNat
      else as.take (as.length - limit.trunc.natAbs)).Sublist as := by
    split <;> exact List.take_sublist _ _
  cases limit with
  | infinite negative =>
    cases negative with
    | false => exact List.Sublist.refl as
    | true => exact htake
  | finite a => exact htake
  | negativeZero => exact htake
  | nan => exact htake

theorem elim_slice_nil (order : Option QueryOrder) (limit : Option Double) :
    limit.elim (timeline order []) (fun limit => slice limit (timeline order [])) = [] := by
  have hnil : timeline order [] = [] := by
    refine List.eq_nil_iff_forall_not_mem.mpr fun e he => ?_
    exact List.not_mem_nil (mem_timeline.mp he)
  rw [hnil]
  cases limit with
  | none => rfl
  | some limit => exact List.sublist_nil.mp (slice_sublist limit [])

theorem mem_of_mem_query {m : InMemoryEventStore} {e : RuntimeEvent} (h : e ∈ m.query q) :
    e ∈ m.rows := by
  have hslice : e ∈ timeline q.order (m.rows.filter q.filters) := by
    unfold InMemoryEventStore.query at h
    dsimp only at h
    cases hlimit : q.limit with
    | none =>
      rw [hlimit] at h
      exact h
    | some limit =>
      rw [hlimit] at h
      exact (slice_sublist limit _).subset h
  exact List.mem_of_mem_filter (mem_timeline.mp hslice)

/-- **The limit and the least severity**: what is selected is what the store in memory slices exactly
    where the two commute. -/
theorem selected_eq_iff (hlimit : sqlLimit q.limit ≠ none) :
    q.selected rows = q.limit.elim ((q.found rows).filter q.severe)
      (fun limit => slice limit ((q.found rows).filter q.severe)) ↔ q.Commutes rows := by
  have hnone : (∀ e ∈ q.found rows, q.severe e = false) ↔ (q.found rows).filter q.severe = [] := by
    rw [List.filter_eq_nil_iff]
    simp
  unfold EventQuery.selected EventQuery.Commutes
  cases hq : q.limit with
  | none => exact iff_of_true rfl (.inl rfl)
  | some limit =>
    rw [hq] at hlimit
    cases hsql : sqlLimit (some limit) with
    | none => exact absurd hsql hlimit
    | some taken =>
      rw [Option.elim_some]
      cases taken with
      | none =>
        show (q.found rows).filter q.severe = slice limit _ ↔ some limit = none ∨ _
        rw [eq_comm, slice_eq_self hsql, ← hnone]
        exact ⟨fun h => .inr h, fun h => h.resolve_left (by simp)⟩
      | some n =>
        show ((q.found rows).take n).filter q.severe = slice limit _ ↔ some limit = none ∨ _
        rw [slice_eq_take hsql, filter_take_eq_iff]
        exact ⟨fun h => .inr h, fun h => h.resolve_left (by simp)⟩

/-- **The queries agree exactly where the condition holds.** -/
theorem query_agrees_iff {s : SqliteEventStore} {m : InMemoryEventStore} (h : Mirrors s m)
    (hrows : HashesLower m.rows) :
    s.query nearest q = some (m.query q) ↔ q.Agrees m.rows nearest := by
  unfold EventQuery.Agrees
  cases hlimit : sqlLimit q.limit with
  | none =>
    have hquery : s.query nearest q = none := by
      unfold SqliteEventStore.query
      rw [hlimit]
    rw [hquery]
    exact ⟨fun heq => (by cases heq), fun hagrees => absurd rfl hagrees.1⟩
  | some limit =>
    have hbinds : sqlLimit q.limit ≠ none := by
      rw [hlimit]
      exact Option.some_ne_none limit
    rw [sqlite_query h m.nodup_ids hbinds, Option.some.injEq, and_iff_right (Option.some_ne_none _)]
    by_cases hlower : q.HashLower
    · have hmemory : m.query q = q.limit.elim ((q.found m.rows).filter q.severe)
          (fun limit => slice limit ((q.found m.rows).filter q.severe)) := by
        unfold InMemoryEventStore.query EventQuery.found
        dsimp only
        rw [filters_of_lower hrows hlower, timeline_filter]
      rw [and_iff_right hlower, or_iff_left (fun hnot => hnot.1 hlower), hmemory,
        ← selected_eq_iff hbinds, ← hmemory]
      have hinj : ∀ a ∈ q.selected m.rows, ∀ b ∈ m.query q, a.eventId = b.eventId → a = b := by
        intro a ha b hb hid
        refine List.inj_on_of_nodup_map m.nodup_ids ?_ (mem_of_mem_query hb) hid
        have hfound := mem_of_mem_takeLimit (List.mem_of_mem_filter ha)
        exact List.mem_of_mem_filter (mem_timeline.mp hfound)
      rw [@map_eq_iff_of_key _ _ _ RuntimeEvent.eventId back_eventId _ _ hinj]
      refine and_congr_right fun _ => forall₂_congr fun e he => back_eq_iff
    · have hmemory : m.query q = [] := by
        unfold InMemoryEventStore.query
        dsimp only
        rw [filters_of_not_lower hrows hlower]
        exact elim_slice_nil q.order q.limit
      rw [hmemory, List.map_eq_nil_iff, or_iff_right (fun hboth => hlower hboth.1),
        and_iff_right hlower]

end Queries

/-! ## 8. Runs -/

section Runs

variable (assertPublicSafe : List (String × Value) → Except String Unit) (nearest : Rounding)

theorem toLower_of_hex {c : Char} (h : ('0' ≤ c ∧ c ≤ '9') ∨ ('a' ≤ c ∧ c ≤ 'f')) :
    c.toLower = c := by
  have hupper : ¬ ('A' ≤ c ∧ c ≤ 'Z') := by
    simp only [Char.le_def, UInt32.le_iff_toNat_le] at h ⊢
    have h0 : 'A'.val.toNat = 65 := rfl
    have h1 : 'Z'.val.toNat = 90 := rfl
    have h2 : '9'.val.toNat = 57 := rfl
    have h3 : 'a'.val.toNat = 97 := rfl
    omega
  unfold Char.toLower
  rw [dif_neg]
  simpa [Char.le_def] using hupper

theorem lower_of_hex32Text {t : String} (h : textIssues hex32Text "txHash" t = []) :
    toLowerCase t = t := by
  by_cases hhex : t.toList.take 2 = ['0', 'x'] ∧ lowerHex 64 (t.toList.drop 2) = true
  · obtain ⟨hhead, hrest⟩ := hhex
    rw [lowerHex, Bool.and_eq_true, List.all_eq_true] at hrest
    have hmap : t.toList.map Char.toLower = t.toList := by
      rw [← List.take_append_drop 2 t.toList, hhead, List.map_append]
      congr 1
      refine (List.map_congr_left fun c hc => ?_).trans (List.map_id _)
      exact toLower_of_hex (by simpa using hrest.2 c hc)
    rw [toLowerCase, hmap, String.ofList_toList]
  · rw [textIssues, hex32Text, if_neg hhex] at h
    cases h

/-- **The hashes of a run** stand in lower case. -/
theorem hashesLower_appendAll (run : List Append) :
    HashesLower (InMemoryEventStore.empty.appendAll assertPublicSafe run).rows := by
  intro e he t ht
  obtain ⟨a, -, hcandidate⟩ := exists_append he
  obtain ⟨-, -, hissues, -, hcontent⟩ := candidate_ok hcandidate
  have hhash : a.draft.content.txHash = some t := by
    rw [hcontent] at ht
    exact ht
  have hnone : nullableIssues hex32Text "txHash" a.draft.content.txHash = [] := by
    refine List.flatten_eq_nil_iff.mp hissues _ ?_
    simp
  rw [hhash] at hnone
  exact lower_of_hex32Text hnone

/-- **The two stores, over a run of appends.** They take the same drafts, and a query of the events
    stored gives the same list exactly where it meets the condition. -/
theorem stores_agree (run : List Append) :
    (∀ before a rest, run = before ++ a :: rest →
      ((SqliteEventStore.empty.appendAll assertPublicSafe nearest before).append assertPublicSafe
          nearest a).1.map (Except.map AppendResult.created)
        = some (((InMemoryEventStore.empty.appendAll assertPublicSafe before).append
            assertPublicSafe a).1.map AppendResult.created)) ∧
      ∀ q : EventQuery,
        ((SqliteEventStore.empty.appendAll assertPublicSafe nearest run).query nearest q
            = some ((InMemoryEventStore.empty.appendAll assertPublicSafe run).query q) ↔
          q.Agrees (InMemoryEventStore.empty.appendAll assertPublicSafe run).rows nearest) := by
  constructor
  · intro before a rest _
    exact ((mirrors_appendAll before).append a).1
  · intro q
    exact query_agrees_iff (mirrors_appendAll run) (hashesLower_appendAll assertPublicSafe run)

/-- One draft, for a number reader that knows whole numbers only. -/
theorem stores_agree_triggered :
    ((SqliteEventStore.empty.appendAll nothingFound (fun _ _ _ => .nan) []).append nothingFound
        (fun _ _ _ => .nan) (observed 1001)).1.map (Except.map AppendResult.created)
      = some (((InMemoryEventStore.empty.appendAll nothingFound []).append nothingFound
        (observed 1001)).1.map AppendResult.created) :=
  (stores_agree nothingFound (fun _ _ _ => .nan) [observed 1001]).1 [] (observed 1001) [] rfl

end Runs

/-! ## 9. An event behind the limit -/

/-- A critical event, after the one that an agent was triggered. -/
def alarm : Append where
  draft := { (observed 1001).draft with
    content := { triggered with severity := .CRITICAL, timestamp := .finite (.int 2000) } }
  observedAtMs := .finite (.int 2001)

def firstCritical : EventQuery :=
  { minSeverity := some .CRITICAL, limit := some (.finite (.int 1)) }

def taken (a : Append) : Bool :=
  (walk eventErrors (.obj a.draft.fields)).isOk && contentIssues a.draft.content a.observedAtMs = []

theorem candidate_of_taken {a : Append} (h : taken a = true) :
    ∃ row, candidate nothingFound a = .ok row ∧ row.content = a.draft.content.parsed ∧
      walkedDigest (.obj a.draft.fields) = some (String.ofList (row.eventId.toList.drop 7)) := by
  rw [taken, Bool.and_eq_true, decide_eq_true_eq] at h
  obtain ⟨hok, hissues⟩ := h
  cases hwalk : walk eventErrors (.obj a.draft.fields) with
  | error e =>
    rw [hwalk] at hok
    cases hok
  | ok c =>
    refine ⟨_, candidate_of_walk rfl hwalk hissues, rfl, ?_⟩
    rw [walkedDigest, hwalk]
    show some (sha256Chars c.text) = some _
    have hhead : "sha256:".toList.length = 7 := rfl
    rw [String.toList_append, ← hhead, List.drop_left, String.ofList_toList]

theorem rows_of_two {assertPublicSafe : List (String × Value) → Except String Unit} {a b : Append}
    {e f : RuntimeEvent} (ha : candidate assertPublicSafe a = .ok e)
    (hb : candidate assertPublicSafe b = .ok f) (hapart : f.eventId ≠ e.eventId) :
    (InMemoryEventStore.empty.appendAll assertPublicSafe [a, b]).rows = [e, f] := by
  have haccepted : InMemoryEventStore.accepted assertPublicSafe [a, b] = [e, f] := by
    simp [InMemoryEventStore.accepted, ha, hb, Except.toOption]
  rw [InMemoryEventStore.rows_appendAll, haccepted]
  simp [firsts, addNew, hapart]

theorem digests_apart : walkedDigest (.obj (observed 1001).draft.fields)
    ≠ walkedDigest (.obj alarm.draft.fields) := by decide +kernel

theorem observed_taken : taken (observed 1001) = true := by decide

theorem alarm_taken : taken alarm = true := by decide

/-- Two events, in either store, and a query that gives the critical one of the store in memory and
    none of the database. -/
theorem severe_behind_limit : ∃ critical : RuntimeEvent, ∀ nearest : Rounding,
    (InMemoryEventStore.empty.appendAll nothingFound [observed 1001, alarm]).query firstCritical
        = [critical] ∧
      (SqliteEventStore.empty.appendAll nothingFound nearest [observed 1001, alarm]).query nearest
        firstCritical = some [] := by
  obtain ⟨first, hfirst, hcontent, hid⟩ := candidate_of_taken observed_taken
  obtain ⟨critical, hcritical, hcontent', hid'⟩ := candidate_of_taken alarm_taken
  have hapart : critical.eventId ≠ first.eventId := by
    intro heq
    refine digests_apart ?_
    rw [hid, hid', heq]
  have hrows : (InMemoryEventStore.empty.appendAll nothingFound [observed 1001, alarm]).rows
      = [first, critical] := rows_of_two hfirst hcritical hapart
  have hseverity : first.content.severity = .INFO := by
    rw [hcontent]
    rfl
  have hseverity' : critical.content.severity = .CRITICAL := by
    rw [hcontent']
    rfl
  have htime : first.content.timestamp = 1000 := by
    rw [hcontent]
    rfl
  have htime' : critical.content.timestamp = 2000 := by
    rw [hcontent']
    rfl
  have hselects : ∀ e : RuntimeEvent, firstCritical.matchesRow e = true := fun _ => rfl
  have hsorted : timeline none [first, critical] = [first, critical] := by
    have hle : placeLe first.place critical.place = true := by
      rw [placeLe_iff]
      left
      rw [RuntimeEvent.place, RuntimeEvent.place, htime, htime']
      show (1000 : Int) < 2000
      decide
    simp [timeline, sortBy, hle]
  have hfirst' : firstCritical.severe first = false := by
    rw [EventQuery.severe, hseverity]
    rfl
  have hcritical' : firstCritical.severe critical = true := by
    rw [EventQuery.severe, hseverity']
    rfl
  refine ⟨critical, fun nearest => ⟨?_, ?_⟩⟩
  · have hfilters : [first, critical].filter firstCritical.filters = [critical] := by
      rw [List.filter_cons_of_neg, List.filter_cons_of_pos, List.filter_nil]
      · exact hcritical'
      · rw [EventQuery.filters, hfirst', Bool.and_false]
        decide
    rw [InMemoryEventStore.query, hrows, hfilters]
    rfl
  · have hmirrors := @mirrors_appendAll nothingFound nearest [observed 1001, alarm]
    have hnodup : ([first, critical].map RuntimeEvent.eventId).Nodup := by
      simpa using hapart.symm
    rw [Mirrors, hrows] at hmirrors
    rw [@sqlite_query nearest firstCritical _ _ hmirrors hnodup (by decide)]
    have hfound : firstCritical.found [first, critical] = [first, critical] := by
      rw [EventQuery.found, List.filter_eq_self.mpr fun e _ => hselects e]
      exact hsorted
    rw [EventQuery.selected, hfound]
    show some ((([first].filter firstCritical.severe)).map _) = some []
    rw [List.filter_cons_of_neg (by rw [hfirst']; decide)]
    rfl

end ContextLock.Events
