/-
  Subject:   `ProcessedEventLog`: events admitted once within a window of time.

  The log remembers admitted ids in the order of their times and forgets the oldest: those older
  than the window, and those beyond the number of entries.
-/
import Mathlib.Data.Finset.Card
import Mathlib.Data.List.Pairwise
import Mathlib.Data.List.TakeWhile

namespace ContextLock.Runtime

/-! ## 1. The log -/

/-- An admitted id and its time. -/
abbrev Admission := String × Int

/-- `seen` is a map in the order of insertion. -/
structure ProcessedEventLog where
  windowMs : Int
  maxEntries : Nat
  seen : List Admission

namespace ProcessedEventLog

/-- `new ProcessedEventLog(windowMs, maxEntries)`. -/
def new (windowMs : Int) (maxEntries : Nat) : ProcessedEventLog := ⟨windowMs, maxEntries, []⟩

/-- The oldest entries go while there are too many. -/
def trim (maxEntries : Nat) : List Admission → List Admission
  | [] => []
  | e :: es => if maxEntries < (e :: es).length then trim maxEntries es else e :: es

def evict (log : ProcessedEventLog) (nowMs : Int) : ProcessedEventLog where
  windowMs := log.windowMs
  maxEntries := log.maxEntries
  seen := trim log.maxEntries (log.seen.filter fun e => ¬ nowMs - e.2 > log.windowMs)

def has (log : ProcessedEventLog) (eventId : String) : Bool := log.seen.any fun e => e.1 = eventId

/-- `log.admit(eventId, nowMs)`, and the log after it. -/
def admitEvent (log : ProcessedEventLog) (eventId : String) (nowMs : Int) : Bool × ProcessedEventLog :=
  let log := log.evict nowMs
  if log.has eventId then (false, log)
  else (true, { log with seen := log.seen ++ [(eventId, nowMs)] })

end ProcessedEventLog

/-! ## 2. What is forgotten -/

/-- `P e n` holds of each entry `e`, where `n` counts it, the entries after it and `more`. -/
def Counted (P : Admission → Nat → Prop) : List Admission → Nat → Prop
  | [], _ => True
  | e :: es, more => P e (es.length + 1 + more) ∧ Counted P es more

variable {P Q : Admission → Nat → Prop}

theorem counted_append {as bs : List Admission} {more : Nat} :
    Counted P (as ++ bs) more ↔ Counted P as (bs.length + more) ∧ Counted P bs more := by
  induction as with
  | nil => exact ⟨fun h => ⟨trivial, h⟩, fun h => h.2⟩
  | cons a as ih =>
    have hlength : (as ++ bs).length + 1 + more = as.length + 1 + (bs.length + more) := by
      rw [List.length_append]
      omega
    rw [List.cons_append, Counted, Counted, ih, hlength]
    exact and_assoc.symm

theorem Counted.mono {as : List Admission} {m n : Nat} (hmn : m ≤ n)
    (hPQ : ∀ e k l, e ∈ as → P e k → k ≤ l → Q e l) (h : Counted P as m) : Counted Q as n := by
  induction as with
  | nil => exact trivial
  | cons a as ih =>
    refine ⟨hPQ a _ _ List.mem_cons_self h.1 (by omega), ih ?_ h.2⟩
    exact fun e k l he => hPQ e k l (List.mem_cons_of_mem a he)

theorem Counted.at {as front back : List Admission} {e : Admission} {more : Nat}
    (h : Counted P as more) (has : as = front ++ e :: back) : P e (back.length + 1 + more) := by
  rw [has, counted_append] at h
  exact h.2.1

/-- An entry that is forgotten is older than the window, or has more than `maxEntries` admissions
    from it on. -/
def Gone (log : ProcessedEventLog) (clock : Int) (e : Admission) (count : Nat) : Prop :=
  clock - e.2 > log.windowMs ∨ log.maxEntries < count

/-- What was admitted is what was forgotten and then what is seen; times do not go back. -/
structure Remembers (log : ProcessedEventLog) (clock : Int) (admitted : List Admission) :
    Prop where
  splits : ∃ dropped, admitted = dropped ++ log.seen ∧
    Counted (Gone log clock) dropped log.seen.length
  sorted : admitted.Pairwise fun e f => e.2 ≤ f.2
  past : ∀ e ∈ admitted, e.2 ≤ clock

theorem filter_eq_dropWhile {nowMs windowMs : Int} {as : List Admission}
    (h : as.Pairwise fun e f => e.2 ≤ f.2) :
    (as.filter fun e => ¬ nowMs - e.2 > windowMs)
      = as.dropWhile fun e => nowMs - e.2 > windowMs := by
  induction as with
  | nil => rfl
  | cons e es ih =>
    obtain ⟨hhead, htail⟩ := List.pairwise_cons.mp h
    by_cases hold : nowMs - e.2 > windowMs
    · have hskip : ((e :: es).filter fun e => ¬ nowMs - e.2 > windowMs)
          = es.filter fun e => ¬ nowMs - e.2 > windowMs :=
        List.filter_cons_of_neg fun hkept => of_decide_eq_true hkept hold
      have hdrop : ((e :: es).dropWhile fun e => nowMs - e.2 > windowMs)
          = es.dropWhile fun e => nowMs - e.2 > windowMs :=
        List.dropWhile_cons_of_pos (decide_eq_true hold)
      rw [hskip, hdrop, ih htail]
    · have hkeep : ((e :: es).filter fun e => ¬ nowMs - e.2 > windowMs)
          = e :: es.filter fun e => ¬ nowMs - e.2 > windowMs :=
        List.filter_cons_of_pos (decide_eq_true hold)
      have hstop : ((e :: es).dropWhile fun e => nowMs - e.2 > windowMs) = e :: es :=
        List.dropWhile_cons_of_neg fun hdropped => hold (of_decide_eq_true hdropped)
      rw [hkeep, hstop]
      refine congrArg (e :: ·) (List.filter_eq_self.mpr fun f hf => decide_eq_true ?_)
      have hlater := hhead f hf
      omega

/-- What `trim` drops has too many entries from it on. -/
theorem trim_splits (maxEntries : Nat) (as : List Admission) :
    ∃ dropped, as = dropped ++ ProcessedEventLog.trim maxEntries as ∧
      Counted (fun _ n => maxEntries < n) dropped
        (ProcessedEventLog.trim maxEntries as).length := by
  induction as with
  | nil => exact ⟨[], rfl, trivial⟩
  | cons a as ih =>
    unfold ProcessedEventLog.trim
    by_cases hmany : maxEntries < (a :: as).length
    · rw [if_pos hmany]
      obtain ⟨dropped, has, hdropped⟩ := ih
      have hlength : dropped.length + 1 + (ProcessedEventLog.trim maxEntries as).length
          = (a :: as).length := by
        have hsum := congrArg List.length has
        rw [List.length_append] at hsum
        rw [List.length_cons]
        omega
      exact ⟨a :: dropped, by rw [List.cons_append, ← has], hlength ▸ hmany, hdropped⟩
    · rw [if_neg hmany]
      exact ⟨[], rfl, trivial⟩

theorem counted_of_old {log : ProcessedEventLog} {nowMs : Int} {as : List Admission} {more : Nat}
    (h : ∀ e ∈ as, nowMs - e.2 > log.windowMs) : Counted (Gone log nowMs) as more := by
  induction as with
  | nil => exact trivial
  | cons a as ih =>
    exact ⟨Or.inl (h a List.mem_cons_self), ih fun e he => h e (List.mem_cons_of_mem a he)⟩

/-- **Evicting keeps account of what is forgotten.** -/
theorem Remembers.evict {log : ProcessedEventLog} {clock nowMs : Int} {admitted : List Admission}
    (h : Remembers log clock admitted) (hnow : clock ≤ nowMs) :
    Remembers (log.evict nowMs) nowMs admitted := by
  obtain ⟨⟨dropped, hsplit, hdropped⟩, hsorted, hpast⟩ := h
  refine ⟨?_, hsorted, fun e he => le_trans (hpast e he) hnow⟩
  have hseen : log.seen.Pairwise fun e f => e.2 ≤ f.2 := by
    rw [hsplit] at hsorted
    exact (List.pairwise_append.mp hsorted).2.1
  obtain ⟨tooMany, hover, hmany⟩ := trim_splits log.maxEntries
    (log.seen.dropWhile fun e => nowMs - e.2 > log.windowMs)
  have hkept : (log.evict nowMs).seen = ProcessedEventLog.trim log.maxEntries
      (log.seen.dropWhile fun e => nowMs - e.2 > log.windowMs) := by
    rw [ProcessedEventLog.evict, filter_eq_dropWhile hseen]
  have hparts : log.seen = (log.seen.takeWhile fun e => nowMs - e.2 > log.windowMs)
      ++ (tooMany ++ (log.evict nowMs).seen) := by
    rw [hkept, ← hover, List.takeWhile_append_dropWhile]
  have hlength := congrArg List.length hparts
  rw [List.length_append, List.length_append] at hlength
  refine ⟨dropped ++ ((log.seen.takeWhile fun e => nowMs - e.2 > log.windowMs) ++ tooMany), ?_, ?_⟩
  · rw [hsplit, List.append_assoc, List.append_assoc, ← hparts]
  · rw [counted_append, counted_append]
    refine ⟨hdropped.mono ?_ ?_, counted_of_old ?_, hmany.mono ?_ ?_⟩
    · rw [List.length_append]
      omega
    · rintro e k l _ (hold | hlong) hkl
      · left
        change nowMs - e.2 > log.windowMs
        omega
      · right
        change log.maxEntries < l
        omega
    · intro e he
      have hold := List.mem_takeWhile_imp he
      exact of_decide_eq_true hold
    · rw [hkept]
    · intro e k l _ hk hkl
      right
      change log.maxEntries < l
      omega

/-! ## 3. Admitting -/

/-- Of two admissions of one id within the window, the second has more than `maxEntries`
    admissions from the first on before it. -/
def Apart (windowMs : Int) (maxEntries : Nat) (admitted : List Admission) : Prop :=
  ∀ front f mid e back, admitted = front ++ f :: mid ++ e :: back → f.1 = e.1 →
    e.2 - f.2 ≤ windowMs → maxEntries < mid.length + 1

variable {log : ProcessedEventLog} {clock nowMs : Int} {admitted : List Admission}

theorem Remembers.concat (h : Remembers log clock admitted) (eventId : String) :
    Remembers { log with seen := log.seen ++ [(eventId, clock)] } clock
      (admitted ++ [(eventId, clock)]) := by
  obtain ⟨⟨dropped, hsplit, hdropped⟩, hsorted, hpast⟩ := h
  refine ⟨⟨dropped, by rw [hsplit, List.append_assoc], ?_⟩, ?_, ?_⟩
  · refine hdropped.mono ?_ ?_
    · rw [List.length_append]
      omega
    · rintro e k l _ (hold | hlong) hkl
      · exact Or.inl hold
      · right
        change log.maxEntries < l
        omega
  · refine List.pairwise_append.mpr ⟨hsorted, List.pairwise_singleton _ _, ?_⟩
    intro e he f hf
    rw [List.mem_singleton.mp hf]
    exact hpast e he
  · intro e he
    rcases List.mem_append.mp he with he | he
    · exact hpast e he
    · rw [List.mem_singleton.mp he]

/-- **An id that is not seen is apart from its last admission.** -/
theorem Apart.concat (hapart : Apart log.windowMs log.maxEntries admitted)
    (h : Remembers log clock admitted) {eventId : String}
    (hnew : ∀ e ∈ log.seen, e.1 ≠ eventId) :
    Apart log.windowMs log.maxEntries (admitted ++ [(eventId, clock)]) := by
  intro front f mid e back hsplit hid hwindow
  rcases List.eq_nil_or_concat back with rfl | ⟨back, g, rfl⟩
  · -- The second admission is the new one.
    obtain ⟨hadmitted, hlast⟩ := List.append_inj' hsplit rfl
    obtain rfl : (eventId, clock) = e := (List.cons.inj hlast).1
    obtain ⟨⟨dropped, hparts, hdropped⟩, _, _⟩ := h
    have hf : f ∉ log.seen := fun hmem => hnew f hmem hid
    rw [hparts] at hadmitted
    rcases List.append_eq_append_iff.mp hadmitted with ⟨r, hfront, hrest⟩ | ⟨r, hdrop, hrest⟩
    · exact absurd (hrest ▸ List.mem_append_right _ List.mem_cons_self) hf
    · cases r with
      | nil =>
        have hmem : f ∈ log.seen := by
          rw [List.nil_append] at hrest
          rw [← hrest]
          exact List.mem_cons_self
        exact absurd hmem hf
      | cons x r =>
        obtain ⟨rfl, hmid⟩ := List.cons.inj hrest
        have hlength : mid.length = (r ++ log.seen).length := congrArg List.length hmid
        rw [List.length_append] at hlength
        rcases hdropped.at hdrop with hold | hlong
        · change clock - f.2 ≤ log.windowMs at hwindow
          omega
        · omega
  · -- Both stood there before.
    rw [List.concat_eq_append, ← List.cons_append, ← List.append_assoc] at hsplit
    obtain ⟨hadmitted, _⟩ := List.append_inj' hsplit rfl
    exact hapart front f mid e back hadmitted hid hwindow

/-- **The law of the log**: an id comes back within the window only after more than `maxEntries`
    different ids were admitted in it. -/
def Once (windowMs : Int) (maxEntries : Nat) (admitted : List Admission) : Prop :=
  ∀ front e back, admitted = front ++ e :: back → ∀ f ∈ front, f.1 = e.1 → e.2 - f.2 ≤ windowMs →
    maxEntries < ((front.filter fun g => e.2 - g.2 ≤ windowMs).map Prod.fst).toFinset.card

theorem exists_repeat {as : List Admission} (h : ¬ (as.map Prod.fst).Nodup) :
    ∃ p g m e b, as = p ++ g :: m ++ e :: b ∧ g.1 = e.1 := by
  induction as with
  | nil => exact absurd List.nodup_nil h
  | cons a as ih =>
    by_cases hmem : a.1 ∈ as.map Prod.fst
    · obtain ⟨e, he, heq⟩ := List.mem_map.mp hmem
      obtain ⟨m, b, rfl⟩ := List.append_of_mem he
      exact ⟨[], a, m, e, b, rfl, heq.symm⟩
    · have htail : ¬ (as.map Prod.fst).Nodup := by
        intro hn
        rw [List.map_cons] at h
        exact h (List.nodup_cons.mpr ⟨hmem, hn⟩)
      obtain ⟨p, g, m, e, b, rfl, heq⟩ := ih htail
      exact ⟨a :: p, g, m, e, b, rfl, heq⟩

/-- Between two admissions of one id within the window, enough ids are different. -/
theorem different_of_apart {windowMs : Int} {maxEntries : Nat}
    (hapart : Apart windowMs maxEntries admitted)
    (hsorted : admitted.Pairwise fun e f => e.2 ≤ f.2) (n : Nat) :
    ∀ front f mid e back, mid.length ≤ n → admitted = front ++ f :: mid ++ e :: back →
      f.1 = e.1 → e.2 - f.2 ≤ windowMs →
      maxEntries < ((f :: mid).map Prod.fst).toFinset.card := by
  induction n using Nat.strongRecOn with
  | ind n ih =>
    intro front f mid e back hn hsplit hid hwindow
    by_cases hdiff : ((f :: mid).map Prod.fst).Nodup
    · rw [List.toFinset_card_of_nodup hdiff, List.length_map, List.length_cons]
      exact hapart front f mid e back hsplit hid hwindow
    · -- An id that stands twice between them is a closer pair.
      obtain ⟨p, g, m, g', b, hbetween, hsame⟩ := exists_repeat hdiff
      have hlength := congrArg List.length hbetween
      simp only [List.length_cons, List.length_append] at hlength
      have hwhole : admitted = (front ++ p) ++ g :: m ++ g' :: (b ++ e :: back) := by
        rw [hsplit, hbetween]
        simp only [List.append_assoc, List.cons_append]
      rw [hsplit] at hsorted
      obtain ⟨hbefore, _, hlast⟩ := List.pairwise_append.mp hsorted
      obtain ⟨_, hchunk, _⟩ := List.pairwise_append.mp hbefore
      have hfirst : ∀ x ∈ f :: mid, f.2 ≤ x.2 := by
        intro x hx
        rcases List.mem_cons.mp hx with rfl | hx
        · exact le_rfl
        · exact (List.pairwise_cons.mp hchunk).1 x hx
      have hg : g ∈ f :: mid := by
        rw [hbetween]
        simp
      have hg' : g' ∈ f :: mid := by
        rw [hbetween]
        simp
      have hlow := hfirst g hg
      have hhigh := hlast g' (List.mem_append_right _ hg') e List.mem_cons_self
      have hcloser := ih m.length (by omega) (front ++ p) g m g' (b ++ e :: back) le_rfl hwhole
        hsame (by omega)
      have hsubset : ((g :: m).map Prod.fst).toFinset ⊆ ((f :: mid).map Prod.fst).toFinset := by
        intro x hx
        rw [List.mem_toFinset] at hx ⊢
        rw [hbetween, List.map_append, List.map_append]
        exact List.mem_append_left _ (List.mem_append_right _ hx)
      exact lt_of_lt_of_le hcloser (Finset.card_le_card hsubset)

/-- **Admissions that are apart obey the law.** -/
theorem once_of_apart {windowMs : Int} {maxEntries : Nat}
    (hapart : Apart windowMs maxEntries admitted)
    (hsorted : admitted.Pairwise fun e f => e.2 ≤ f.2) : Once windowMs maxEntries admitted := by
  intro front e back hsplit f hf hid hwindow
  obtain ⟨p, mid, rfl⟩ := List.append_of_mem hf
  have hdifferent := different_of_apart hapart hsorted mid.length p f mid e back le_rfl hsplit hid
    hwindow
  rw [hsplit] at hsorted
  obtain ⟨hbefore, _, _⟩ := List.pairwise_append.mp hsorted
  obtain ⟨_, hchunk, _⟩ := List.pairwise_append.mp hbefore
  have hsubset : ((f :: mid).map Prod.fst).toFinset
      ⊆ (((p ++ f :: mid).filter fun g => e.2 - g.2 ≤ windowMs).map Prod.fst).toFinset := by
    intro x hx
    rw [List.mem_toFinset] at hx ⊢
    obtain ⟨g, hg, rfl⟩ := List.mem_map.mp hx
    refine List.mem_map_of_mem (List.mem_filter.mpr ⟨List.mem_append_right _ hg, ?_⟩)
    have hlow : f.2 ≤ g.2 := by
      rcases List.mem_cons.mp hg with rfl | hg
      · exact le_rfl
      · exact (List.pairwise_cons.mp hchunk).1 g hg
    exact decide_eq_true (by omega)
  exact lt_of_lt_of_le hdifferent (Finset.card_le_card hsubset)

end ContextLock.Runtime
