/-
  Subject:   The store of runtime events in memory: append-only, read by queries.
-/
import ContextLock.Events.Event
import ContextLock.Js.Keyed
import ContextLock.Js.Map

namespace ContextLock.Events

open Js

/-! ## 1. Queries -/

inductive QueryOrder where
  | asc
  | desc
  deriving DecidableEq

structure EventQuery where
  projectId : Option String := none
  deploymentId : Option String := none
  agentId : Option String := none
  source : Option EventSource := none
  type : Option EventType := none
  severity : Option EventSeverity := none
  minSeverity : Option EventSeverity := none
  correlationId : Option String := none
  chainId : Option Double := none
  txHash : Option String := none
  adapterId : Option String := none
  creExecutionId : Option String := none
  sinceMs : Option Double := none
  untilMs : Option Double := none
  limit : Option Double := none
  order : Option QueryOrder := none

/-- `eq`: no value is asked for, or the field has it. -/
def eqField {α : Type} [DecidableEq α] (asked : Option α) (x : α) : Bool :=
  asked.all fun a => x = a

/-- `eq`, of a field that may be `null`. -/
def eqNullable {α : Type} [DecidableEq α] (asked : Option α) (x : Option α) : Bool :=
  asked.all fun a => x = some a

namespace EventQuery

variable (q : EventQuery)

/-- The filters that both stores apply to the fields of an event, but for the transaction hash
    and the least severity. -/
def selects (e : RuntimeEvent) : Bool :=
  eqField q.projectId e.content.projectId && eqField q.deploymentId e.content.deploymentId
    && eqNullable q.agentId e.content.agentId && eqField q.source e.content.source
    && eqField q.type e.content.type && eqField q.severity e.content.severity
    && eqField q.correlationId e.content.correlationId
    && (q.chainId.all fun d => e.content.chainId.any d.isInt)
    && eqNullable q.adapterId e.content.adapterId
    && eqNullable q.creExecutionId e.content.creExecutionId
    && (q.sinceMs.all fun d => d.leInt e.content.timestamp)
    && (q.untilMs.all fun d => d.geInt e.content.timestamp)

def severe (e : RuntimeEvent) : Bool :=
  q.minSeverity.all fun least => least.rank ≤ e.content.severity.rank

def filters (e : RuntimeEvent) : Bool :=
  q.selects e && eqNullable q.txHash e.content.txHash && q.severe e

end EventQuery

def RuntimeEvent.place (e : RuntimeEvent) : Int × String := (e.content.timestamp, e.eventId)

/-- The order of the timeline: by time, ties by identity. -/
def placeLe (a b : Int × String) : Bool := a.1 < b.1 || (a.1 = b.1 && textLe a.2 b.2)

/-- `rows.sort`, and `rows.reverse` where the order asked for is descending. -/
def timeline (order : Option QueryOrder) (rows : List RuntimeEvent) : List RuntimeEvent :=
  let sorted := sortBy placeLe RuntimeEvent.place rows
  if order = some .desc then sorted.reverse else sorted

/-- `rows.slice(0, limit)`. -/
def slice {α : Type} (limit : Double) (rows : List α) : List α :=
  match limit with
  | .infinite false => rows
  | d =>
    if 0 ≤ d.trunc then rows.take d.trunc.toNat
    else rows.take (rows.length - d.trunc.natAbs)

/-! ## 2. The store -/

/-- `InMemoryEventStore`: the events by identity, and the identities in the order in which they
    came. -/
structure InMemoryEventStore where
  byId : Js.Map RuntimeEvent
  order : List String
  order_eq : order = byId.keys
  identified : ∀ k e, byId.get? k = some e → e.eventId = k

/-- `AppendResult`: whether the event was written now, and the stored event. -/
structure AppendResult where
  created : Bool
  event : RuntimeEvent

namespace InMemoryEventStore

def empty : InMemoryEventStore := ⟨.empty, [], rfl, by simp⟩

def get (s : InMemoryEventStore) (eventId : String) : Option RuntimeEvent := s.byId.get? eventId

/-- The stored events, oldest row first. -/
def rows (s : InMemoryEventStore) : List RuntimeEvent := s.order.filterMap s.byId.get?

theorem identified_set {m : Js.Map RuntimeEvent} (h : ∀ k e, m.get? k = some e → e.eventId = k)
    (row : RuntimeEvent) : ∀ k e, (m.set row.eventId row).get? k = some e → e.eventId = k := by
  intro k e he
  rcases Map.cases_of_get?_set he with hnew | hold
  · rw [← hnew.2, hnew.1]
  · exact h k e hold.2

theorem keys_set_of_none {m : Js.Map RuntimeEvent} {k : String} {e : RuntimeEvent}
    (h : m.get? k = none) : (m.set k e).keys = m.keys ++ [k] := by
  rw [Map.keys, Map.entries_set_of_none m h, List.map_append]
  rfl

/-- A row is written whose identity is not there. -/
def insert (s : InMemoryEventStore) (row : RuntimeEvent) (h : s.byId.get? row.eventId = none) :
    InMemoryEventStore where
  byId := s.byId.set row.eventId row
  order := s.order ++ [row.eventId]
  order_eq := by rw [keys_set_of_none h, s.order_eq]
  identified := identified_set s.identified row

variable (assertPublicSafe : List (String × Value) → Except String Unit)

def append (s : InMemoryEventStore) (a : Append) :
    Except AppendError AppendResult × InMemoryEventStore :=
  match candidate assertPublicSafe a with
  | .error e => (.error e, s)
  | .ok row =>
    match h : s.byId.get? row.eventId with
    | some existing => (.ok ⟨false, existing⟩, s)
    | none => (.ok ⟨true, row⟩, s.insert row h)

def appendAll (s : InMemoryEventStore) (run : List Append) : InMemoryEventStore :=
  run.foldl (fun s a => (s.append assertPublicSafe a).2) s

/-! ## 3. The rows of a run -/

theorem rows_eq (s : InMemoryEventStore) : s.rows = s.byId.entries.map Prod.snd := by
  rw [rows, s.order_eq, Map.keys, List.filterMap_map, ← List.filterMap_eq_map]
  refine List.filterMap_congr fun e he => ?_
  exact s.byId.get?_of_mem he

theorem ids_rows (s : InMemoryEventStore) : s.rows.map RuntimeEvent.eventId = s.order := by
  rw [rows_eq, s.order_eq, Map.keys, List.map_map]
  refine List.map_congr_left fun e he => ?_
  exact s.identified e.1 e.2 (s.byId.get?_of_mem he)

theorem nodup_ids (s : InMemoryEventStore) : (s.rows.map RuntimeEvent.eventId).Nodup := by
  rw [ids_rows, s.order_eq]
  exact s.byId.nodup

variable {assertPublicSafe : List (String × Value) → Except String Unit}

theorem append_of_error {s : InMemoryEventStore} {a : Append} {e : AppendError}
    (h : candidate assertPublicSafe a = .error e) :
    s.append assertPublicSafe a = (.error e, s) := by
  rw [append, h]

theorem append_of_existing {s : InMemoryEventStore} {a : Append} {row existing : RuntimeEvent}
    (h : candidate assertPublicSafe a = .ok row) (hget : s.get row.eventId = some existing) :
    s.append assertPublicSafe a = (.ok ⟨false, existing⟩, s) := by
  unfold append
  rw [h]
  dsimp only
  split
  · next e he =>
    obtain rfl := Option.some.inj (hget.symm.trans he)
    rfl
  · next hnone => cases hget.symm.trans hnone

theorem append_of_none {s : InMemoryEventStore} {a : Append} {row : RuntimeEvent}
    (h : candidate assertPublicSafe a = .ok row) (hget : s.byId.get? row.eventId = none) :
    s.append assertPublicSafe a = (.ok ⟨true, row⟩, s.insert row hget) := by
  unfold append
  rw [h]
  dsimp only
  split
  · next e he => cases hget.symm.trans he
  · rfl

theorem rows_insert {s : InMemoryEventStore} {row : RuntimeEvent}
    (h : s.byId.get? row.eventId = none) : (s.insert row h).rows = s.rows ++ [row] := by
  rw [rows_eq, rows_eq, insert, Map.entries_set_of_none s.byId h, List.map_append]
  rfl

/-- **What one append does to the rows**: the row it lets through is added, unless one of its
    identity is there. -/
theorem rows_append {s : InMemoryEventStore} {a : Append} {row : RuntimeEvent}
    (h : candidate assertPublicSafe a = .ok row) :
    (s.append assertPublicSafe a).2.rows = addNew RuntimeEvent.eventId s.rows row := by
  rw [addNew, ids_rows, s.order_eq]
  cases hget : s.byId.get? row.eventId with
  | some existing =>
    obtain ⟨e, he, hkey, _⟩ := s.byId.mem_of_get? hget
    have hmem : row.eventId ∈ s.byId.keys := List.mem_map.mpr ⟨e, he, hkey⟩
    rw [if_pos hmem, append_of_existing h hget]
  | none =>
    have hnot : row.eventId ∉ s.byId.keys := by
      intro hmem
      obtain ⟨e, he, hkey⟩ := List.mem_map.mp hmem
      have hsome : s.byId.get? e.1 = some e.2 := s.byId.get?_of_mem he
      rw [hkey, hget] at hsome
      cases hsome
    rw [if_neg hnot, append_of_none h hget, rows_insert]

/-- The rows that the appends of a run let through. -/
def accepted (assertPublicSafe : List (String × Value) → Except String Unit)
    (run : List Append) : List RuntimeEvent :=
  run.filterMap fun a => (candidate assertPublicSafe a).toOption

/-- **A store holds, of each identity, the first row that was let through.** -/
theorem rows_appendAll (run : List Append) :
    (empty.appendAll assertPublicSafe run).rows
      = firsts RuntimeEvent.eventId (accepted assertPublicSafe run) := by
  induction run using List.reverseRecOn with
  | nil => rfl
  | append_singleton run a ih =>
    rw [appendAll, List.foldl_append, List.foldl_cons, List.foldl_nil, ← appendAll, accepted,
      List.filterMap_append, ← accepted, List.filterMap_cons, List.filterMap_nil]
    cases h : candidate assertPublicSafe a with
    | error e => rw [append_of_error h, ih, Except.toOption, List.append_nil]
    | ok row => rw [rows_append h, ih, Except.toOption, firsts_append_singleton]

end InMemoryEventStore

def InMemoryEventStore.query (s : InMemoryEventStore) (q : EventQuery) : List RuntimeEvent :=
  let sorted := timeline q.order (s.rows.filter q.filters)
  q.limit.elim sorted fun limit => slice limit sorted

/-! ## 4. Queries of two stores of the same identities -/

theorem placeLe_iff {a b : Int × String} :
    placeLe a b = true ↔ a.1 < b.1 ∨ a.1 = b.1 ∧ textLe a.2 b.2 = true := by
  simp [placeLe]

theorem placeLe_total (a b : Int × String) : placeLe a b = true ∨ placeLe b a = true := by
  rw [placeLe_iff, placeLe_iff]
  have htexts := textLe_total a.2 b.2
  have hints := lt_trichotomy a.1 b.1
  tauto

theorem placeLe_trans (a b c : Int × String) (hab : placeLe a b = true) (hbc : placeLe b c = true) :
    placeLe a c = true := by
  rw [placeLe_iff] at hab hbc ⊢
  rcases hab with hlt | ⟨heq, htext⟩
  · left
    omega
  · rcases hbc with hlt' | ⟨heq', htext'⟩
    · left
      omega
    · exact .inr ⟨heq.trans heq', textLe_trans htext htext'⟩

theorem placeLe_antisymm (a b : Int × String) (hab : placeLe a b = true) (hba : placeLe b a = true) :
    a = b := by
  rw [placeLe_iff] at hab hba
  rcases hab with hlt | ⟨heq, htext⟩
  · omega
  · rcases hba with hlt' | ⟨_, htext'⟩
    · omega
    · exact Prod.ext heq (textLe_antisymm htext htext')

theorem nodup_places {rows : List RuntimeEvent} (h : (rows.map RuntimeEvent.eventId).Nodup) :
    (rows.map RuntimeEvent.place).Nodup := by
  refine List.Nodup.of_map Prod.snd ?_
  rwa [List.map_map]

theorem timeline_perm {rows rows' : List RuntimeEvent} (order : Option QueryOrder)
    (h : (rows.map RuntimeEvent.eventId).Nodup) (hperm : rows.Perm rows') :
    timeline order rows = timeline order rows' := by
  unfold timeline
  rw [sortBy_eq_of_perm placeLe_total placeLe_trans placeLe_antisymm (nodup_places h) hperm]

section InStep

variable {R : RuntimeEvent → RuntimeEvent → Prop} {rows rows' : List RuntimeEvent}

theorem forall₂_timeline (order : Option QueryOrder) (hplace : ∀ e f, R e f → e.place = f.place)
    (h : List.Forall₂ R rows rows') : List.Forall₂ R (timeline order rows) (timeline order rows') := by
  have hsorted := forall₂_sortBy placeLe hplace h
  unfold timeline
  by_cases horder : order = some .desc
  · rw [if_pos horder, if_pos horder]
    exact List.forall₂_reverse_iff.mpr hsorted
  · rwa [if_neg horder, if_neg horder]

theorem forall₂_slice (limit : Double) (h : List.Forall₂ R rows rows') :
    List.Forall₂ R (slice limit rows) (slice limit rows') := by
  have htake : List.Forall₂ R
      (if 0 ≤ limit.trunc then rows.take limit.trunc.toNat
        else rows.take (rows.length - limit.trunc.natAbs))
      (if 0 ≤ limit.trunc then rows'.take limit.trunc.toNat
        else rows'.take (rows'.length - limit.trunc.natAbs)) := by
    rw [h.length_eq]
    by_cases hlimit : 0 ≤ limit.trunc
    · rw [if_pos hlimit, if_pos hlimit]
      exact List.forall₂_take _ h
    · rw [if_neg hlimit, if_neg hlimit]
      exact List.forall₂_take _ h
  cases limit with
  | infinite negative =>
    cases negative with
    | false => exact h
    | true => exact htake
  | finite a => exact htake
  | negativeZero => exact htake
  | nan => exact htake

/-- **What a query gives for two stores of the same identities**: lists in step, where rows of
    one identity are related, and related rows are alike for every filter and on the timeline. -/
theorem forall₂_query {s t : InMemoryEventStore} (q : EventQuery) (hids : s.order.Perm t.order)
    (hrel : ∀ e ∈ s.rows, ∀ f ∈ t.rows, e.eventId = f.eventId → R e f)
    (hplace : ∀ e f, R e f → e.place = f.place)
    (hfilters : ∀ e f, R e f → q.filters e = q.filters f) :
    List.Forall₂ R (s.query q) (t.query q) := by
  rw [← s.ids_rows, ← t.ids_rows] at hids
  obtain ⟨rows, hperm, hstep⟩ := exists_in_step hids
  have hrows : List.Forall₂ R s.rows rows := by
    refine List.forall₂_iff_get.mpr ⟨hstep.length_eq, fun i hi hi' => ?_⟩
    exact hrel _ (List.get_mem _ _) _ (hperm.mem_iff.mp (List.get_mem _ _))
      ((List.forall₂_iff_get.mp hstep).2 i hi hi')
  have hfiltered : List.Forall₂ R (s.rows.filter q.filters) (rows.filter q.filters) :=
    List.rel_filter (fun e f h => Bool.eq_iff_iff.mp (hfilters e f h)) hrows
  have hnodup : ((rows.filter q.filters).map RuntimeEvent.eventId).Nodup :=
    ((hperm.map _).nodup_iff.mpr t.nodup_ids).sublist (List.filter_sublist.map _)
  have hsorted := forall₂_timeline q.order hplace hfiltered
  rw [timeline_perm q.order hnodup (hperm.filter _)] at hsorted
  unfold InMemoryEventStore.query
  cases q.limit with
  | none => exact hsorted
  | some limit => exact forall₂_slice limit hsorted

end InStep

/-! ## 5. The store as a log -/

theorem place_of_sameEvent {e f : RuntimeEvent} (h : SameEvent e f) : e.place = f.place := by
  have htimestamp : e.content.timestamp = f.content.timestamp :=
    congrArg (fun c => c.timestamp) h.content.fields
  rw [RuntimeEvent.place, RuntimeEvent.place, htimestamp, h.eventId]

theorem filters_of_sameEvent (q : EventQuery) {e f : RuntimeEvent} (h : SameEvent e f) :
    q.filters e = q.filters f := by
  have hbare : ∀ g : RuntimeEvent,
      q.filters g = q.filters ⟨g.eventId, 0, g.content.bare⟩ :=
    fun _ => rfl
  rw [hbare e, hbare f, h.eventId, h.content.fields]

section Log

variable (assertPublicSafe : List (String × Value) → Except String Unit)

/-- The rows are a log of the run: each has the identity of what it says, an event is stored as
    it was observed first, and no two rows say the same. -/
structure IsLog (run : List Append) (rows : List RuntimeEvent) : Prop where
  identity : ∀ row ∈ rows, deriveEventId row.fields = .ok row.eventId
  first : ∀ before a rest row, run = before ++ a :: rest →
    candidate assertPublicSafe a = .ok row →
    (∀ b ∈ before, ∀ f, candidate assertPublicSafe b = .ok f →
      ¬ SameContent row.content f.content) → row ∈ rows
  once : ∀ e ∈ rows, ∀ f ∈ rows, SameContent e.content f.content → e = f

variable {assertPublicSafe} {run run' : List Append}

theorem mem_accepted {row : RuntimeEvent} :
    row ∈ InMemoryEventStore.accepted assertPublicSafe run ↔
      ∃ a ∈ run, candidate assertPublicSafe a = .ok row := by
  rw [InMemoryEventStore.accepted, List.mem_filterMap]
  refine exists_congr fun a => and_congr_right fun _ => ?_
  cases candidate assertPublicSafe a with
  | error e => simp [Except.toOption]
  | ok e => simp [Except.toOption]

def DigestApart (run : List Append) : Prop :=
  ∀ a ∈ run, ∀ b ∈ run, ∀ s t, canonicalize (.obj a.draft.fields) = .ok s →
    canonicalize (.obj b.draft.fields) = .ok t → NoDigestCollision s t

theorem isLog_rows (hplain : ∀ a ∈ run, a.draft.Plain) (hdigest : DigestApart run) :
    IsLog assertPublicSafe run (InMemoryEventStore.empty.appendAll assertPublicSafe run).rows := by
  rw [InMemoryEventStore.rows_appendAll]
  have hidentity : ∀ row ∈ InMemoryEventStore.accepted assertPublicSafe run,
      deriveEventId row.fields = .ok row.eventId := by
    intro row hrow
    obtain ⟨a, ha, hcandidate⟩ := mem_accepted.mp hrow
    exact candidate_identity (hplain a ha) hcandidate
  refine ⟨fun row hrow => hidentity row (mem_of_mem_firsts hrow), ?_, fun e he f hf hsame => ?_⟩
  · intro before a rest row hrun hrow hnew
    have hsplit : InMemoryEventStore.accepted assertPublicSafe run
        = InMemoryEventStore.accepted assertPublicSafe before
          ++ row :: InMemoryEventStore.accepted assertPublicSafe rest := by
      rw [hrun, InMemoryEventStore.accepted, List.filterMap_append, List.filterMap_cons, hrow]
      rfl
    refine mem_firsts.mpr ⟨_, _, hsplit, fun hmem => ?_⟩
    obtain ⟨f, hf, hid⟩ := List.mem_map.mp hmem
    obtain ⟨b, hb, hcandidate⟩ := mem_accepted.mp hf
    have hbrun : b ∈ run := by
      rw [hrun]
      exact List.mem_append_left _ hb
    have harun : a ∈ run := by simp [hrun]
    exact hnew b hb f hcandidate (sameEvent_of_id (hplain a harun) (hplain b hbrun)
      (hdigest a harun b hbrun) hrow hcandidate hid.symm).content
  · have hid : e.eventId = f.eventId :=
      id_of_sameContent (hidentity e (mem_of_mem_firsts he)) (hidentity f (mem_of_mem_firsts hf))
        hsame
    exact List.inj_on_of_nodup_map (nodup_keys_firsts _) he hf hid

theorem order_perm (h : run.Perm run') :
    (InMemoryEventStore.empty.appendAll assertPublicSafe run).order.Perm
      (InMemoryEventStore.empty.appendAll assertPublicSafe run').order := by
  rw [← InMemoryEventStore.ids_rows, ← InMemoryEventStore.ids_rows,
    InMemoryEventStore.rows_appendAll, InMemoryEventStore.rows_appendAll]
  exact keys_firsts_perm (h.filterMap _)

theorem exists_append {row : RuntimeEvent}
    (h : row ∈ (InMemoryEventStore.empty.appendAll assertPublicSafe run).rows) :
    ∃ a ∈ run, candidate assertPublicSafe a = .ok row := by
  rw [InMemoryEventStore.rows_appendAll] at h
  exact mem_accepted.mp (mem_of_mem_firsts h)

/-- **The store of a run is a log of it**, where no caller hands over a field that the schema
    does not know: rows have the identity of what they say, an event is stored once with its
    first observation, rows stay, and a query gives the same events in the same order whatever
    the order of the appends; the same rows, if what is observed twice is observed alike. -/
theorem event_log (hplain : ∀ a ∈ run, a.draft.Plain) (hdigest : DigestApart run)
    (hperm : run.Perm run') :
    IsLog assertPublicSafe run (InMemoryEventStore.empty.appendAll assertPublicSafe run).rows ∧
      (∀ before rest, run = before ++ rest →
        (InMemoryEventStore.empty.appendAll assertPublicSafe before).rows <+:
          (InMemoryEventStore.empty.appendAll assertPublicSafe run).rows) ∧
      (∀ q, List.Forall₂ SameEvent
        ((InMemoryEventStore.empty.appendAll assertPublicSafe run).query q)
        ((InMemoryEventStore.empty.appendAll assertPublicSafe run').query q)) ∧
      ((∀ a ∈ run, ∀ b ∈ run, ∀ e f, candidate assertPublicSafe a = .ok e →
          candidate assertPublicSafe b = .ok f → e.eventId = f.eventId → e = f) →
        ∀ q, (InMemoryEventStore.empty.appendAll assertPublicSafe run).query q
          = (InMemoryEventStore.empty.appendAll assertPublicSafe run').query q) := by
  refine ⟨isLog_rows hplain hdigest, ?_, ?_, ?_⟩
  · intro before rest hrun
    rw [InMemoryEventStore.rows_appendAll, InMemoryEventStore.rows_appendAll, hrun,
      InMemoryEventStore.accepted, InMemoryEventStore.accepted, List.filterMap_append]
    exact firsts_prefix _ _
  · intro q
    refine forall₂_query q (order_perm hperm) ?_ (fun _ _ => place_of_sameEvent)
      (fun _ _ => filters_of_sameEvent q)
    intro e he f hf hid
    obtain ⟨a, ha, hcandidate⟩ := exists_append he
    obtain ⟨b, hb, hcandidate'⟩ := exists_append hf
    have hbrun : b ∈ run := hperm.mem_iff.mpr hb
    exact sameEvent_of_id (hplain a ha) (hplain b hbrun) (hdigest a ha b hbrun) hcandidate
      hcandidate' hid
  · intro halike q
    refine List.forall₂_eq_eq_eq.le _ _ (forall₂_query q (order_perm hperm) ?_
      (fun _ _ h => congrArg _ h) (fun _ _ h => congrArg _ h))
    intro e he f hf hid
    obtain ⟨a, ha, hcandidate⟩ := exists_append he
    obtain ⟨b, hb, hcandidate'⟩ := exists_append hf
    exact halike a ha b (hperm.mem_iff.mpr hb) e f hcandidate hcandidate' hid

def triggered : EventContent Double where
  organizationId := none
  projectId := "p"
  deploymentId := "d"
  agentId := none
  source := .AGENT
  type := .AGENT_TRIGGERED
  severity := .INFO
  timestamp := .finite (.int 1000)
  correlationId := "c"
  agentRunId := none
  modelRunId := none
  strategyEvaluationId := none
  creExecutionId := none
  authorizationId := none
  capabilityId := none
  chainId := none
  blockNumber := none
  txHash := none
  creWorkflowId := none
  adapterId := none
  runtimeRevision := none
  buildRevision := none
  deploymentRevision := none
  correctsEventId := none
  publicMetadata := []

/-- The scan of metadata without secrets. -/
def nothingFound : List (String × Value) → Except String Unit := fun _ => .ok ()

def observed (observedAtMs : Int) : Append where
  draft := ⟨triggered, [], by decide⟩
  observedAtMs := .finite (.int observedAtMs)

/-- An event that is observed twice, in either order. -/
theorem event_log_observed_twice :
    IsLog nothingFound [observed 1001, observed 1002]
        (InMemoryEventStore.empty.appendAll nothingFound [observed 1001, observed 1002]).rows ∧
      (∀ before rest, [observed 1001, observed 1002] = before ++ rest →
        (InMemoryEventStore.empty.appendAll nothingFound before).rows <+:
          (InMemoryEventStore.empty.appendAll nothingFound [observed 1001, observed 1002]).rows) ∧
      (∀ q, List.Forall₂ SameEvent
        ((InMemoryEventStore.empty.appendAll nothingFound [observed 1001, observed 1002]).query q)
        ((InMemoryEventStore.empty.appendAll nothingFound
          [observed 1002, observed 1001]).query q)) := by
  have hfields : ∀ a ∈ [observed 1001, observed 1002],
      a.draft = (observed 1001).draft := by simp [observed]
  have hplain : ∀ a ∈ [observed 1001, observed 1002], a.draft.Plain := by
    intro a ha f hf
    rw [hfields a ha] at hf
    cases hf
  have hdigest : DigestApart [observed 1001, observed 1002] := by
    intro a ha b hb s t hs ht _
    rw [hfields a ha] at hs
    rw [hfields b hb] at ht
    exact Except.ok.inj (hs.symm.trans ht)
  obtain ⟨hlog, hprefix, hquery, _⟩ :=
    @event_log nothingFound _ _ hplain hdigest (List.Perm.swap _ _ [])
  exact ⟨hlog, hprefix, hquery⟩

/-- The event, with a field that the schema does not know. -/
def noted : Append where
  draft := ⟨triggered, [("note", .null)], by decide⟩
  observedAtMs := .finite (.int 1001)

def walkedDigest (v : Value) : Option String :=
  (walk eventErrors v).toOption.map fun c => sha256Chars c.text

theorem digest_noted : walkedDigest (.obj noted.draft.fields)
    ≠ walkedDigest (.obj (triggered.parsed.fields .int)) := by decide +kernel

theorem walk_noted : ∃ c, walk eventErrors (.obj noted.draft.fields) = .ok c := by
  have hok : (walk eventErrors (.obj noted.draft.fields)).isOk = true := by decide
  generalize walk eventErrors (.obj noted.draft.fields) = walked at hok ⊢
  cases walked with
  | error e => cases hok
  | ok c => exact ⟨c, rfl⟩

/-- A field that the schema does not know is part of the identity of the row, and not of the
    row. -/
theorem event_log_note : ¬ IsLog nothingFound [noted]
    (InMemoryEventStore.empty.appendAll nothingFound [noted]).rows := by
  intro hlog
  obtain ⟨c, hc⟩ := walk_noted
  have hissues : contentIssues triggered noted.observedAtMs = [] := by decide
  obtain ⟨row, hrow, heventId, hcontent⟩ : ∃ row, candidate nothingFound noted = .ok row ∧
      row.eventId = "sha256:" ++ sha256Chars c.text ∧ row.content = triggered.parsed :=
    ⟨_, candidate_of_walk rfl hc hissues, rfl, rfl⟩
  have hmem := hlog.first [] noted [] row rfl hrow (fun b hb => absurd hb List.not_mem_nil)
  have hid := hlog.identity row hmem
  rw [RuntimeEvent.fields, hcontent, heventId] at hid
  obtain ⟨text, htext, heq⟩ := deriveEventId_ok hid
  obtain ⟨c', hc', rfl⟩ := canonicalize_ok htext
  have hdigests : sha256Chars c.text = sha256Chars c'.text := by
    rw [sha256Hex_ofList] at heq
    exact (String.append_right_inj _).mp heq
  refine digest_noted ?_
  rw [walkedDigest, walkedDigest, hc, hc', Except.toOption, Except.toOption, Option.map_some,
    Option.map_some, hdigests]

end Log

end ContextLock.Events
