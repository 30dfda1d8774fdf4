/-
  Subject:   One container for each agent, in every run of the local provider.
-/
import ContextLock.Runtime.Docker

namespace ContextLock.Runtime.DockerRuntime

open Js Machine

/-! ## 1. What a run keeps -/

/-- A revision that is held, or that a call in flight names. -/
def System.Claims (s : System) (c : LiveContainer) : Prop :=
  s.live.get? c.revisionId = some c ∨ ∃ call ∈ s.calls, c ∈ call.stage.names

def NoneHeld (live : Map LiveContainer) (agentId : String) : Prop :=
  ∀ r c, live.get? r = some c → c.agentId ≠ agentId

def OnlyHeld (live : Map LiveContainer) (c : LiveContainer) : Prop :=
  ∀ r c', live.get? r = some c' → c'.agentId = c.agentId → c' = c

/-- What a call may rely on where it is suspended. -/
def Fits (live : Map LiveContainer) (d : Daemon) (call : Call) : Prop :=
  match call.stage with
  | .creatingVolume c _ | .seeding c _ => NoneHeld live c.agentId
  | .creating c origin => NoneHeld live c.agentId ∧
      ∀ previousId output, origin = some previousId → call.answer = some (.ok output) →
        previousId = c.revisionId
  | .cleaning c _ => NoneHeld live c.agentId ∧
      (call.answer ≠ none → d.volumes.get? c.tokenVolume = none)
  | .starting c true => OnlyHeld live c
  | .removing c update => OnlyHeld live c ∧
      (∀ args ∈ update, args.revision.agentId = c.agentId) ∧
      (call.answer ≠ none → d.containers.get? c.containerName = none)
  | .removingVolume c update => OnlyHeld live c ∧
      (∀ args ∈ update, args.revision.agentId = c.agentId) ∧
      d.containers.get? c.containerName = none ∧
      (call.answer ≠ none → d.volumes.get? c.tokenVolume = none)
  | .updating args _ => NoneHeld live args.revision.agentId
  | _ => True

def Call.created (call : Call) : Option LiveContainer :=
  match call with
  | ⟨.creating c _, some (.ok _)⟩ => some c
  | _ => none

/-- Every held revision is its agent's entry, names are apart, a change of an agent is alone, and
    what the daemon has is held or in flight. -/
structure Sound (s : System) : Prop where
  keyed : ∀ r c, s.live.get? r = some c → c.revisionId = r
  known : ∀ r c, s.live.get? r = some c → s.byAgent.get? c.agentId = some r
  apart : ∀ c c', s.Claims c → s.Claims c' → Apart c c'
  owned : ∀ a r c, s.byAgent.get? a = some r → s.Claims c → c.revisionId = r → c.agentId = a
  alone : ∀ (i j : Nat) (x y : Call) (a : String), s.calls[i]? = some x → s.calls[j]? = some y →
    x.stage.changes = some a → y.stage.touches = some a → i = j
  fits : ∀ (i : Nat) (x : Call), s.calls[i]? = some x → Fits s.live s.daemon x
  containers : ∀ (n : String) (x : Container), s.daemon.containers.get? n = some x →
    ∃ c, c.containerName = n ∧ c.agentId = x.agentId ∧
      (s.live.get? c.revisionId = some c ∨ ∃ call ∈ s.calls, call.created = some c)
  volumes : ∀ v : String, s.daemon.volumes.get? v = some () →
    ∃ c, c.tokenVolume = v ∧
      (s.live.get? c.revisionId = some c ∨ ∃ call ∈ s.calls, call.stage.deploys = some c)

theorem sound_start : Sound .start where
  keyed r c h := by cases h
  known r c h := by cases h
  apart c c' h := by
    rcases h with h | h
    · cases h
    · obtain ⟨call, hcall, -⟩ := h
      cases hcall
  owned a r c h := by cases h
  alone i j x y a h := by cases h
  fits i x h := by cases h
  containers n x h := by cases h
  volumes v h := by cases h

section Stages

variable {stage : Stage} {call : Call} {c c' : LiveContainer} {a : String}
  {live live' : Map LiveContainer} {d d' : Daemon}

theorem touches_of_changes (h : stage.changes = some a) : stage.touches = some a := by
  cases stage with
  | starting c rollback => cases h
  | removing c update | removingVolume c update =>
    cases update with
    | none => cases h
    | some args => exact h
  | creatingVolume c origin => exact h
  | seeding c origin => exact h
  | creating c origin => exact h
  | cleaning c e => exact h
  | pausing c => cases h
  | inspecting c => cases h
  | updating args previousId => exact h
  | ended result => cases h

theorem deploys_names (h : stage.deploys = some c) :
    stage.changes = some c.agentId ∧ c ∈ stage.names := by
  cases stage <;> cases h <;> exact ⟨rfl, List.mem_cons_self⟩

theorem created_deploys (h : call.created = some c) : call.stage.deploys = some c := by
  obtain ⟨stage, answer⟩ := call
  unfold Call.created at h
  split at h
  · rename_i heq
    cases heq
    exact h
  · cases h

/-- What a stage may go on to: it changes, touches and names nothing new. -/
structure Stage.Within (next stage : Stage) : Prop where
  changes : ∀ a, next.changes = some a → stage.changes = some a
  touches : ∀ a, next.touches = some a → stage.touches = some a
  names : ∀ c ∈ next.names, c ∈ stage.names

theorem Stage.Within.refl (stage : Stage) : stage.Within stage :=
  ⟨fun _ ha => ha, fun _ ha => ha, fun _ hc => hc⟩

theorem Stage.Within.idle {next : Stage} (hchanges : next.changes = none)
    (htouches : next.touches = none) (hnames : next.names = []) (stage : Stage) :
    next.Within stage where
  changes a ha := by rw [hchanges] at ha; cases ha
  touches a ha := by rw [htouches] at ha; cases ha
  names c hc := by rw [hnames] at hc; cases hc

theorem touches_of_names (hfits : Fits live d call) (hc : c ∈ call.stage.names) :
    call.stage.touches = some c.agentId := by
  obtain ⟨stage, answer⟩ := call
  cases stage with
  | creatingVolume x origin | seeding x origin | creating x origin | cleaning x e
  | updating args previousId =>
    rw [List.mem_singleton.mp hc]; rfl
  | starting x rollback =>
    cases rollback with
    | true => rw [List.mem_singleton.mp hc]; rfl
    | false => cases hc
  | pausing x => cases hc
  | inspecting x => cases hc
  | removing x update | removingVolume x update =>
    cases update with
    | none => rw [List.mem_singleton.mp hc]; rfl
    | some args =>
      have hagent : args.revision.agentId = x.agentId := hfits.2.1 args rfl
      rcases List.mem_cons.mp hc with hx | hnext
      · rw [hx]
        exact congrArg some hagent
      · rw [List.mem_singleton.mp hnext]
        rfl
  | ended result => cases hc

theorem Fits.of_live (h : Fits live d call)
    (hsub : ∀ r c, live'.get? r = some c → live.get? r = some c ∨
      call.stage.touches ≠ some c.agentId) : Fits live' d call := by
  have hnone : ∀ a, call.stage.touches = some a → NoneHeld live a → NoneHeld live' a := by
    intro a ha hnone r c hget hagent
    rcases hsub r c hget with hold | hother
    · exact hnone r c hold hagent
    · exact hother (by rw [ha, hagent])
  have honly : ∀ c, call.stage.touches = some c.agentId → OnlyHeld live c →
      OnlyHeld live' c := by
    intro c hc honly r c' hget hagent
    rcases hsub r c' hget with hold | hother
    · exact honly r c' hold hagent
    · exact absurd (by rw [hc, hagent]) hother
  obtain ⟨stage, answer⟩ := call
  cases stage with
  | creatingVolume c origin => exact hnone _ rfl h
  | seeding c origin => exact hnone _ rfl h
  | creating c origin | cleaning c e => exact ⟨hnone _ rfl h.1, h.2⟩
  | starting c rollback =>
    cases rollback with
    | true => exact honly _ rfl h
    | false => trivial
  | pausing c => trivial
  | inspecting c => trivial
  | removing c update | removingVolume c update =>
    cases update with
    | none => exact ⟨honly _ rfl h.1, h.2⟩
    | some args => exact ⟨honly _ (congrArg some (h.2.1 args rfl)) h.1, h.2⟩
  | updating args previousId => exact hnone _ rfl h
  | ended result => trivial

theorem Fits.of_daemon (h : Fits live d call)
    (hgone : ∀ c ∈ call.stage.names,
      (d.containers.get? c.containerName = none → d'.containers.get? c.containerName = none) ∧
      (d.volumes.get? c.tokenVolume = none → d'.volumes.get? c.tokenVolume = none)) :
    Fits live d' call := by
  obtain ⟨stage, answer⟩ := call
  cases stage with
  | creatingVolume c origin => exact h
  | seeding c origin => exact h
  | creating c origin => exact h
  | cleaning c e =>
    have hc := hgone c List.mem_cons_self
    exact ⟨h.1, fun hanswer => hc.2 (h.2 hanswer)⟩
  | starting c rollback =>
    cases rollback with
    | true => exact h
    | false => trivial
  | pausing c => trivial
  | inspecting c => trivial
  | removing c update =>
    have hc := hgone c (by cases update with
      | none => exact List.mem_cons_self
      | some args => exact List.mem_cons_self)
    exact ⟨h.1, h.2.1, fun hanswer => hc.1 (h.2.2 hanswer)⟩
  | removingVolume c update =>
    have hc := hgone c (by cases update with
      | none => exact List.mem_cons_self
      | some args => exact List.mem_cons_self)
    exact ⟨h.1, h.2.1, hc.1 h.2.2.1, fun hanswer => hc.2 (h.2.2.2 hanswer)⟩
  | updating args previousId => exact h
  | ended result => trivial

end Stages

/-! ## 2. What each kind of turn keeps -/

section Turns

variable {s : System} {i j : Nat} {stage : Stage} {call : Call} {c c' : LiveContainer}

/-- A call that is not the `i`th is found in the calls with the `i`th replaced. -/
theorem mem_calls_of_ne {x : Call} (hx : s.calls[j]? = some x) (hne : i ≠ j) :
    x ∈ s.calls.set i call := by
  rw [List.mem_iff_getElem?]
  exact ⟨j, by rw [List.getElem?_set_ne hne, hx]⟩

theorem mem_set_self {old : Call} (hi : s.calls[i]? = some old) : call ∈ s.calls.set i call :=
  List.mem_set (List.getElem?_eq_some_iff.mp hi).1 call

/-- **A new call.** It changes an agent that no call touches, or touches one that no call changes,
    and its names are apart. -/
theorem sound_call (h : Sound s)
    (hchanges : ∀ a, stage.changes = some a → s.quiet a = true)
    (htouches : ∀ a, stage.touches = some a → s.unchanging a = true)
    (hapart : ∀ c ∈ stage.names, ∀ c', s.Claims c' ∨ c' ∈ stage.names → Apart c c')
    (howned : ∀ c ∈ stage.names, ∀ a, s.byAgent.get? a = some c.revisionId → c.agentId = a)
    (hfits : Fits s.live s.daemon ⟨stage, none⟩) :
    Sound { s with calls := s.calls ++ [⟨stage, none⟩] } := by
  have hclaims : ∀ c, System.Claims { s with calls := s.calls ++ [⟨stage, none⟩] } c →
      s.Claims c ∨ c ∈ stage.names := by
    intro c hc
    rcases hc with hlive | hcall
    · exact .inl (.inl hlive)
    · obtain ⟨call, hmem, hname⟩ := hcall
      rcases List.mem_append.mp hmem with hold | hnew
      · exact .inl (.inr ⟨call, hold, hname⟩)
      · rw [List.mem_singleton.mp hnew] at hname
        exact .inr hname
  refine ⟨h.keyed, h.known, fun c c' hc hc' => ?_, fun a r c hbyAgent hc hr => ?_,
    fun i j x y a hx hy hxa hya => ?_, fun i x hx => ?_, fun n x hx => ?_, fun v hv => ?_⟩
  · rcases hclaims c hc with hold | hnew
    · rcases hclaims c' hc' with hold' | hnew'
      · exact h.apart c c' hold hold'
      · rcases hapart c' hnew' c (.inl hold) with hsame | hother
        · exact .inl hsame.symm
        · exact .inr ⟨hother.1.symm, hother.2.1.symm, hother.2.2.symm⟩
    · exact hapart c hnew c' (hclaims c' hc')
  · rcases hclaims c hc with hold | hnew
    · exact h.owned a r c hbyAgent hold hr
    · exact howned c hnew a (by rw [hr]; exact hbyAgent)
  · rcases cases_of_getElem?_concat hx with hi | hi
    · rcases cases_of_getElem?_concat hy with hj | hj
      · exact h.alone i j x y a hi hj hxa hya
      · rw [hj.2] at hya
        have hfree := List.all_eq_true.mp (htouches a hya) x (List.mem_of_getElem? hi)
        rw [hxa] at hfree
        simp at hfree
    · rcases cases_of_getElem?_concat hy with hj | hj
      · rw [hi.2] at hxa
        have hfree := List.all_eq_true.mp (hchanges a hxa) y (List.mem_of_getElem? hj)
        rw [hya] at hfree
        simp at hfree
      · omega
  · rcases cases_of_getElem?_concat hx with hi | hi
    · exact h.fits i x hi
    · rw [hi.2]
      exact hfits
  · obtain ⟨c, hname, hagent, hheld⟩ := h.containers n x hx
    refine ⟨c, hname, hagent, ?_⟩
    rcases hheld with hlive | hcall
    · exact .inl hlive
    · obtain ⟨call, hmem, hcreated⟩ := hcall
      exact .inr ⟨call, List.mem_append_left _ hmem, hcreated⟩
  · obtain ⟨c, hname, hheld⟩ := h.volumes v hv
    refine ⟨c, hname, ?_⟩
    rcases hheld with hlive | hcall
    · exact .inl hlive
    · obtain ⟨call, hmem, hdeploys⟩ := hcall
      exact .inr ⟨call, List.mem_append_left _ hmem, hdeploys⟩

/-- Two calls that name revisions of one agent do not change it both. -/
theorem Sound.apart_names (h : Sound s) {x y : Call} (hx : s.calls[i]? = some x)
    (hy : s.calls[j]? = some y) (hne : i ≠ j) (hc : c ∈ x.stage.names)
    (hchanges : x.stage.changes = some c.agentId) (hc' : c' ∈ y.stage.names) :
    c.revisionId ≠ c'.revisionId ∧ c.containerName ≠ c'.containerName ∧
      c.tokenVolume ≠ c'.tokenVolume := by
  rcases h.apart c c' (.inr ⟨x, List.mem_of_getElem? hx, hc⟩)
    (.inr ⟨y, List.mem_of_getElem? hy, hc'⟩) with hsame | hother
  · have htouches := touches_of_names (h.fits j y hy) hc'
    rw [← hsame] at htouches
    exact absurd (h.alone i j x y _ hx hy hchanges htouches) hne
  · exact hother

/-- **A turn of one call.** It keeps to what it named; what it adds to the maps and to the daemon it
    deploys, and what it takes out of them is gone. -/
theorem sound_turn {old new : Call} {live : Map LiveContainer} {byAgent : Map String} {d : Daemon}
    (h : Sound s) (hi : s.calls[i]? = some old) (hwithin : new.stage.Within old.stage)
    (hlive : ∀ r c, live.get? r = some c → s.live.get? r = some c ∨
      r = c.revisionId ∧ old.stage.deploys = some c)
    (hknown : ∀ r c, live.get? r = some c → byAgent.get? c.agentId = some r)
    (hbyAgent : ∀ a r, byAgent.get? a = some r → s.byAgent.get? a = some r ∨
      ∃ c ∈ old.stage.names, c.agentId = a ∧ c.revisionId = r)
    (hcontainers : ∀ (n : String) (x : Container), d.containers.get? n = some x →
      (∃ y, s.daemon.containers.get? n = some y ∧ y.agentId = x.agentId) ∨
      ∃ c, new.created = some c ∧ c.containerName = n ∧ c.agentId = x.agentId)
    (hvolumes : ∀ v : String, d.volumes.get? v = some () → s.daemon.volumes.get? v = some () ∨
      ∃ c, new.stage.deploys = some c ∧ c.tokenVolume = v)
    (hheld : ∀ c, s.live.get? c.revisionId = some c → live.get? c.revisionId = some c ∨
      d.containers.get? c.containerName = none ∧ d.volumes.get? c.tokenVolume = none)
    (hdeploys : ∀ c, old.stage.deploys = some c → new.stage.deploys = some c ∨
      live.get? c.revisionId = some c ∨ d.volumes.get? c.tokenVolume = none)
    (hcreated : ∀ c, old.created = some c → live.get? c.revisionId = some c)
    (hfits : Fits live d new) :
    Sound (System.setCall { s with live := live, byAgent := byAgent, daemon := d } i new) := by
  have hmem := List.mem_of_getElem? hi
  -- the call's stage before the turn had all that the stage after it has
  have hold : ∀ (k : Nat) (x : Call), (s.calls.set i new)[k]? = some x →
      ∃ y, s.calls[k]? = some y ∧ x.stage.Within y.stage := by
    intro k x hx
    rcases cases_of_getElem?_set hx with hnew | hsame
    · rw [← hnew.1, hnew.2]
      exact ⟨old, hi, hwithin⟩
    · exact ⟨x, hsame.2, .refl _⟩
  have hclaims : ∀ c, System.Claims
      (System.setCall { s with live := live, byAgent := byAgent, daemon := d } i new) c →
      s.Claims c := by
    intro c hc
    rcases hc with hheld' | hcall
    · rcases hlive _ c hheld' with hold | hnew
      · exact .inl hold
      · exact .inr ⟨_, hmem, (deploys_names hnew.2).2⟩
    · obtain ⟨call, hcall, hname⟩ := hcall
      obtain ⟨k, hk⟩ := List.mem_iff_getElem?.mp hcall
      obtain ⟨y, hy, hyc⟩ := hold k call hk
      exact .inr ⟨y, List.mem_of_getElem? hy, hyc.names c hname⟩
  refine ⟨fun r c hc => ?_, hknown, fun c c' hc hc' => h.apart c c' (hclaims c hc) (hclaims c' hc'),
    fun a r c hentry hc hr => ?_, fun k j x y a hx hy hxa hya => ?_, fun k x hx => ?_,
    fun n x hx => ?_, fun v hv => ?_⟩
  · rcases hlive r c hc with hold | hnew
    · exact h.keyed r c hold
    · exact hnew.1.symm
  · rcases hbyAgent a r hentry with hold | hnew
    · exact h.owned a r c hold (hclaims c hc) hr
    · obtain ⟨c', hname, hagent, hr'⟩ := hnew
      rcases h.apart c c' (hclaims c hc) (.inr ⟨_, hmem, hname⟩) with hsame | hother
      · rw [hsame, hagent]
      · exact absurd (hr.trans hr'.symm) hother.1
  · obtain ⟨x', hx', hxs⟩ := hold k x hx
    obtain ⟨y', hy', hys⟩ := hold j y hy
    exact h.alone k j x' y' a hx' hy' (hxs.changes a hxa) (hys.touches a hya)
  · rcases cases_of_getElem?_set hx with hnew | hsame
    · rw [hnew.2]
      exact hfits
    -- what this call adds has other names than what the other one relies on
    · have hother : ∀ c', new.stage.deploys = some c' → ∀ c ∈ x.stage.names,
          c'.containerName ≠ c.containerName ∧ c'.tokenVolume ≠ c.tokenVolume := by
        intro c' hdep c hc
        obtain ⟨hchanges, hnames⟩ := deploys_names hdep
        exact (h.apart_names hi hsame.2 hsame.1 (hwithin.names _ hnames)
          (hwithin.changes _ hchanges) hc).2
      have hlive' : Fits live _ _ := (h.fits k x hsame.2).of_live fun r c hc => by
        rcases hlive r c hc with hold | hnew
        · exact .inl hold
        · refine .inr fun htouch => hsame.1 ?_
          exact h.alone i k _ x _ hi hsame.2 (deploys_names hnew.2).1 htouch
      refine hlive'.of_daemon fun c hc => ⟨fun hgone => ?_, fun hgone => ?_⟩
      · by_contra hthere
        obtain ⟨z, hz⟩ := Option.ne_none_iff_exists'.mp hthere
        rcases hcontainers _ z hz with hold | hnew
        · obtain ⟨y, hy, -⟩ := hold
          rw [hgone] at hy
          cases hy
        · obtain ⟨c', hcreated, hname, -⟩ := hnew
          exact (hother c' (created_deploys hcreated) c hc).1 hname
      · by_contra hthere
        obtain ⟨z, hz⟩ := Option.ne_none_iff_exists'.mp hthere
        rcases hvolumes _ hz with hold | hnew
        · rw [hgone] at hold
          cases hold
        · obtain ⟨c', hdep, hname⟩ := hnew
          exact (hother c' hdep c hc).2 hname
  · rcases hcontainers n x hx with hy | hnew
    · obtain ⟨y, hy, hagent'⟩ := hy
      obtain ⟨c, hname, hagent, hwhere⟩ := h.containers n y hy
      refine ⟨c, hname, hagent.trans hagent', ?_⟩
      rcases hwhere with hlive' | hcall
      · rcases hheld c hlive' with hstill | hgone
        · exact .inl hstill
        · have hnone := hgone.1
          have hx' : d.containers.get? n = some x := hx
          rw [hname, hx'] at hnone
          cases hnone
      · obtain ⟨call, hcall, hcr⟩ := hcall
        obtain ⟨k, hk⟩ := List.mem_iff_getElem?.mp hcall
        by_cases hik : i = k
        · rw [← hik, hi, Option.some.injEq] at hk
          rw [← hk] at hcr
          exact .inl (hcreated c hcr)
        · exact .inr ⟨call, mem_calls_of_ne hk hik, hcr⟩
    · obtain ⟨c, hcr, hname, hagent⟩ := hnew
      exact ⟨c, hname, hagent, .inr ⟨_, mem_set_self hi, hcr⟩⟩
  · rcases hvolumes v hv with hy | hnew
    · obtain ⟨c, hname, hwhere⟩ := h.volumes v hy
      refine ⟨c, hname, ?_⟩
      have hv' : d.volumes.get? c.tokenVolume = some () := by
        rw [hname]
        exact hv
      rcases hwhere with hlive' | hcall
      · rcases hheld c hlive' with hstill | hgone
        · exact .inl hstill
        · rw [hgone.2] at hv'
          cases hv'
      · obtain ⟨call, hcall, hdep⟩ := hcall
        obtain ⟨k, hk⟩ := List.mem_iff_getElem?.mp hcall
        by_cases hik : i = k
        · rw [← hik, hi, Option.some.injEq] at hk
          rw [← hk] at hdep
          rcases hdeploys c hdep with hnext | hrest
          · exact .inr ⟨_, mem_set_self hi, hnext⟩
          · rcases hrest with hstill | hgone
            · exact .inl hstill
            · rw [hgone] at hv'
              cases hv'
        · exact .inr ⟨call, mem_calls_of_ne hk hik, hdep⟩
    · obtain ⟨c, hdep, hname⟩ := hnew
      exact ⟨c, hname, .inr ⟨_, mem_set_self hi, hdep⟩⟩

/-- **A command** of the `i`th call: what it adds belongs to what the call deploys. -/
theorem sound_docker {d : Daemon} {answer : Except RuntimeError String} (h : Sound s)
    (hi : s.calls[i]? = some ⟨stage, none⟩)
    (hcontainers : ∀ (n : String) (x : Container), d.containers.get? n = some x →
      (∃ y, s.daemon.containers.get? n = some y ∧ y.agentId = x.agentId) ∨
      ∃ c, (⟨stage, some answer⟩ : Call).created = some c ∧ c.containerName = n ∧
        c.agentId = x.agentId)
    (hvolumes : ∀ v : String, d.volumes.get? v = some () → s.daemon.volumes.get? v = some () ∨
      ∃ c, stage.deploys = some c ∧ c.tokenVolume = v)
    (hfits : Fits s.live d ⟨stage, some answer⟩) :
    Sound (System.setCall { s with daemon := d } i ⟨stage, some answer⟩) :=
  sound_turn h hi (.refl _) (fun _ _ hc => .inl hc) h.known (fun _ _ ha => .inl ha) hcontainers
    hvolumes (fun _ hc => .inl hc) (fun _ hc => .inl hc)
    (fun _ hc => absurd hc (by cases stage <;> nofun)) hfits

end Turns

/-! ## 3. Calls -/

section Calls

variable {s : System} {c : LiveContainer} {r a : String}

theorem Sound.onlyHeld (h : Sound s) (hget : s.live.get? r = some c) : OnlyHeld s.live c := by
  intro r' c' hget' hagent
  have hknown := h.known r' c' hget'
  rw [hagent, h.known r c hget, Option.some.injEq] at hknown
  rw [← hknown, hget, Option.some.injEq] at hget'
  exact hget'.symm

theorem Sound.claims_of_held (h : Sound s) (hget : s.live.get? r = some c) : s.Claims c :=
  .inl (by rw [h.keyed r c hget]; exact hget)

theorem Sound.noneHeld (h : Sound s)
    (hentry : ∀ r, s.byAgent.get? a = some r → r ≠ "" → s.live.get? r = none) :
    NoneHeld s.live a := by
  intro r c hget hagent
  have hknown := h.known r c hget
  rw [hagent] at hknown
  have hnamed : r ≠ "" := by
    rw [← h.keyed r c hget]
    exact c.revision.named
  rw [hentry r hknown hnamed] at hget
  cases hget

/-- **A deployment** is refused, or its agent has nothing held. -/
theorem deploy_cases (s : System) (args : StartRuntimeArgs) (origin : Option String) :
    (∃ result, s.deploy args origin = .ended result) ∨
      s.deploy args origin = .creatingVolume (.of args.revision) origin ∧
        (∀ r, s.byAgent.get? args.revision.agentId = some r → r ≠ "" →
          s.live.get? r = none) := by
  unfold System.deploy
  cases args.environmentError with
  | some detail => exact .inl ⟨_, rfl⟩
  | none =>
    dsimp only
    cases hentry : s.byAgent.get? args.revision.agentId with
    | none => exact .inr ⟨rfl, fun r hr => (by cases hr)⟩
    | some existing =>
      dsimp only
      by_cases hheld : existing ≠ "" ∧ (s.live.get? existing).isSome = true
      · rw [if_pos hheld]
        exact .inl ⟨_, rfl⟩
      · rw [if_neg hheld]
        refine .inr ⟨rfl, fun r hr hne => ?_⟩
        rw [← Option.some.inj hr] at hne ⊢
        by_contra hsome
        exact hheld ⟨hne, Option.isSome_iff_ne_none.mpr hsome⟩

/-- A stage that brings the revision `c`; what it names besides is claimed for the same agent. -/
structure System.Brings (s : System) (c : LiveContainer) (stage : Stage) : Prop where
  starts : stage.isEnded = false
  touches : stage.touches = some c.agentId
  names : ∀ x ∈ stage.names, x = c ∨ s.Claims x ∧ x.agentId = c.agentId
  fits : Fits s.live s.daemon ⟨stage, none⟩

theorem Sound.deploy (h : Sound s) (args : StartRuntimeArgs) :
    (∃ result, s.deploy args none = .ended result) ∨
      s.Brings (.of args.revision) (s.deploy args none) := by
  rcases deploy_cases s args none with hended | hcreating
  · exact .inl hended
  · rw [hcreating.1]
    exact .inr ⟨rfl, rfl, fun x hx => .inl (List.mem_singleton.mp hx), h.noneHeld hcreating.2⟩

/-- **An update** is refused or deploys, with nothing held, or it awaits its stop. -/
theorem Sound.update (h : Sound s) (args : StartRuntimeArgs) :
    (∃ result, s.update args = .ended result) ∨
      ∃ p, s.Brings (.of (args.after p).revision) (s.update args) := by
  have hdeploy : ∀ p, (∃ result, s.deploy (args.after p) none = .ended result) ∨
      ∃ p', s.Brings (.of (args.after p').revision) (s.deploy (args.after p) none) :=
    fun p => (h.deploy (args.after p)).imp_right fun hbrings => ⟨p, hbrings⟩
  unfold System.update
  dsimp only
  cases hentry : s.byAgent.get? args.revision.agentId with
  | none => exact hdeploy none
  | some previous =>
    dsimp only
    by_cases hempty : previous = ""
    · rw [if_pos hempty]
      exact hdeploy (some previous)
    · rw [if_neg hempty]
      cases hprev : s.live.get? previous with
      | none =>
        refine .inr ⟨some previous, rfl, rfl, fun x hx => .inl (List.mem_singleton.mp hx),
          h.noneHeld fun r hr _ => ?_⟩
        rw [← Option.some.inj (hentry.symm.trans hr)]
        exact hprev
      | some prev =>
        dsimp only
        split
        · exact .inl ⟨_, rfl⟩
        · have hagent : prev.agentId = args.revision.agentId :=
            h.owned _ _ prev hentry (h.claims_of_held hprev) (h.keyed _ _ hprev)
          refine .inr ⟨some previous, rfl, rfl, fun x hx => ?_, h.onlyHeld hprev,
            fun next hnext => ?_, fun hanswer => absurd rfl hanswer⟩
          · rcases List.mem_cons.mp hx with hx | hx
            · rw [hx]
              exact .inr ⟨h.claims_of_held hprev, hagent⟩
            · exact .inl (List.mem_singleton.mp hx)
          · rw [← Option.some.inj hnext]
            exact hagent.symm

theorem apart_of_ownNames (h : s.ownNames c = true) : (∀ c', s.Claims c' → Apart c c') ∧
    ∀ a, s.byAgent.get? a = some c.revisionId → c.agentId = a := by
  unfold System.ownNames at h
  rw [Bool.and_eq_true, Bool.and_eq_true] at h
  obtain ⟨⟨hlive, hcalls⟩, hbyAgent⟩ := h
  refine ⟨fun c' hc' => ?_, fun a ha => ?_⟩
  · rcases hc' with hheld | hcall
    · obtain ⟨e, he, -, hvalue⟩ := s.live.mem_of_get? hheld
      have hvalue : c' ∈ s.live.values := List.mem_map.mpr ⟨e, he, hvalue⟩
      exact of_decide_eq_true (List.all_eq_true.mp hlive c' hvalue)
    · obtain ⟨call, hmem, hname⟩ := hcall
      exact of_decide_eq_true (List.all_eq_true.mp (List.all_eq_true.mp hcalls call hmem) c' hname)
  · obtain ⟨e, he, hkey, hvalue⟩ := s.byAgent.mem_of_get? ha
    have hentry := List.all_eq_true.mp hbyAgent e he
    rw [hkey, hvalue] at hentry
    simp only [bne_self_eq_false, Bool.false_or, beq_iff_eq] at hentry
    exact hentry.symm

theorem sound_ended (h : Sound s) (result : Except RuntimeError Answer) :
    Sound { s with calls := s.calls ++ [⟨.ended result, none⟩] } :=
  sound_call h (fun a ha => (by cases ha)) (fun a ha => (by cases ha)) (fun c hc => (by cases hc))
    (fun c hc => (by cases hc)) trivial

theorem sound_held {stage : Stage} (h : Sound s) (hget : s.live.get? r = some c)
    (hchanges : stage.changes = none) (hnames : ∀ c' ∈ stage.names, c' = c)
    (htouches : ∀ a, stage.touches = some a → s.unchanging a = true)
    (hfits : Fits s.live s.daemon ⟨stage, none⟩) :
    Sound { s with calls := s.calls ++ [⟨stage, none⟩] } := by
  have hclaim := h.claims_of_held hget
  refine sound_call h (fun a ha => ?_) htouches (fun x hx c' hc' => ?_) (fun x hx a ha => ?_) hfits
  · rw [hchanges] at ha
    cases ha
  · rw [hnames x hx]
    rcases hc' with hold | hnew
    · exact h.apart c c' hclaim hold
    · rw [hnames c' hnew]
      exact .inl rfl
  · rw [hnames x hx] at ha ⊢
    exact h.owned a _ c ha hclaim rfl

theorem unchanging_of_quiet (h : s.quiet a = true) : s.unchanging a = true := by
  unfold System.quiet at h
  unfold System.unchanging
  rw [List.all_eq_true] at h ⊢
  intro call hcall
  have hfree := h call hcall
  simp only [bne_iff_ne, ne_eq] at hfree ⊢
  exact fun hchanges => hfree (touches_of_changes hchanges)

theorem sound_brings {stage : Stage} (h : Sound s) (hbrings : s.Brings c stage)
    (hquiet : s.quiet c.agentId = true) (hown : s.ownNames c = true) :
    Sound { s with calls := s.calls ++ [⟨stage, none⟩] } := by
  obtain ⟨-, htouches, hnames, hfits⟩ := hbrings
  obtain ⟨hapart, howned⟩ := apart_of_ownNames hown
  refine sound_call h (fun a ha => ?_) (fun a ha => ?_) (fun x hx y hy => ?_) (fun x hx a ha => ?_)
    hfits
  · rw [touches_of_changes ha, Option.some.injEq] at htouches
    rw [htouches]
    exact hquiet
  · rw [htouches, Option.some.injEq] at ha
    rw [← ha]
    exact unchanging_of_quiet hquiet
  · rcases hnames x hx with hx | hx
    · rw [hx]
      rcases hy with hold | hnew
      · exact hapart y hold
      · rcases hnames y hnew with hy | hy
        · exact .inl (by rw [hy])
        · exact hapart y hy.1
    · rcases hy with hold | hnew
      · exact h.apart x y hx.1 hold
      · rcases hnames y hnew with hy | hy
        · exact .inl (by rw [hy]; exact hx.2)
        · exact h.apart x y hx.1 hy.1
  · rcases hnames x hx with hx | hx
    · rw [hx] at ha ⊢
      exact howned a ha
    · exact h.owned a _ x ha hx.1 rfl

end Calls

/-! ## 4. One turn -/

section Turn

variable {s s' : System} {a : Action}

theorem ownNames_after (args : StartRuntimeArgs) (p : Option String) :
    s.ownNames (.of (args.after p).revision) = s.ownNames (.of args.revision) := rfl

/-- **A call** that meets the condition. -/
theorem sound_step_call {op : Op} (h : Sound s) (hmeets : Meets s (.call op) = true) :
    Sound { s with calls := s.calls ++ [⟨s.begin op, none⟩] } := by
  cases op with
  | deploy args =>
    rcases h.deploy args with hended | hbrings
    · obtain ⟨result, hresult⟩ := hended
      simp only [System.begin, hresult]
      exact sound_ended h result
    · simp only [Meets, hbrings.starts, Bool.false_or, Bool.and_eq_true] at hmeets
      exact sound_brings h hbrings hmeets.1 hmeets.2
  | update args =>
    rcases h.update args with hended | hbrings
    · obtain ⟨result, hresult⟩ := hended
      simp only [System.begin, hresult]
      exact sound_ended h result
    · obtain ⟨p, hbrings⟩ := hbrings
      simp only [Meets, hbrings.starts, Bool.false_or, Bool.and_eq_true] at hmeets
      exact sound_brings h hbrings hmeets.1 ((ownNames_after args p).trans hmeets.2)
  | activate revisionId | pause revisionId | resume revisionId =>
    simp only [System.begin, System.withFound]
    cases hget : s.live.get? revisionId with
    | none => exact sound_ended h _
    | some c =>
      exact sound_held h hget rfl (fun x hx => (by cases hx)) (fun a ha => (by cases ha)) trivial
  | rollback revisionId =>
    simp only [System.begin, System.rollback]
    cases hget : s.live.get? revisionId with
    | none => exact sound_ended h _
    | some c =>
      simp only [Meets, hget] at hmeets
      refine sound_held h hget rfl (fun x hx => List.mem_singleton.mp hx) (fun a ha => ?_)
        (h.onlyHeld hget)
      rw [← Option.some.inj ha]
      exact hmeets
  | stop revisionId =>
    simp only [System.begin, System.withFound]
    cases hget : s.live.get? revisionId with
    | none => exact sound_ended h _
    | some c =>
      simp only [Meets, hget] at hmeets
      refine sound_held h hget rfl (fun x hx => List.mem_singleton.mp hx) (fun a ha => ?_)
        ⟨h.onlyHeld hget, fun next hnext => (by cases hnext), fun hanswer => absurd rfl hanswer⟩
      rw [← Option.some.inj ha]
      exact hmeets

/-- What the daemon can do with the command of a call. -/
theorem docker_cases {i : Nat} {output : Except String String}
    (hstep : step s (.docker i output) = some s') :
    ∃ stage command, s.calls[i]? = some ⟨stage, none⟩ ∧ stage.command = some command ∧
      ((∃ stderr e, output = .error stderr ∧ s' = s.setCall i ⟨stage, some (.error e)⟩) ∨
        ∃ stdout d, output = .ok stdout ∧ s.daemon.run command = some d ∧
          s' = System.setCall { s with daemon := d } i ⟨stage, some (.ok stdout)⟩) := by
  simp only [step] at hstep
  split at hstep
  · rename_i stage hi
    split at hstep
    · cases hstep
    · rename_i command hcommand
      refine ⟨stage, command, hi, hcommand, ?_⟩
      split at hstep
      · exact .inl ⟨_, _, rfl, (Option.some.inj hstep).symm⟩
      · obtain ⟨d, hd, hs'⟩ := Option.map_eq_some_iff.mp hstep
        exact .inr ⟨_, d, rfl, hd, hs'.symm⟩
  · cases hstep

theorem run_containers {d d' : Daemon} {command : Command} {n : String} {x : Container}
    (hrun : d.run command = some d') (hx : d'.containers.get? n = some x) :
    (∃ y, d.containers.get? n = some y ∧ y.agentId = x.agentId) ∨
      ∃ c, command = .create c ∧ c.containerName = n ∧ c.agentId = x.agentId := by
  cases command with
  | volumeCreate volume | seed volume =>
    rw [← Option.some.inj hrun] at hx
    exact .inl ⟨x, hx, rfl⟩
  | create c =>
    simp only [Daemon.run] at hrun
    split at hrun
    · cases hrun
    · rw [← Option.some.inj hrun] at hx
      have hx' : (d.containers.set c.containerName ⟨c.agentId, c.tokenVolume, false⟩).get? n
          = some x := hx
      rcases Map.cases_of_get?_set hx' with hnew | hold
      · rw [← hnew.2]
        exact .inr ⟨c, rfl, hnew.1.symm, rfl⟩
      · exact .inl ⟨x, hold.2, rfl⟩
  | start name =>
    obtain ⟨y, hy, hd⟩ := Option.map_eq_some_iff.mp hrun
    rw [← hd] at hx
    have hx' : (d.containers.set name { y with running := true }).get? n = some x := hx
    rcases Map.cases_of_get?_set hx' with hnew | hold
    · rw [← hnew.2, hnew.1]
      exact .inl ⟨y, hy, rfl⟩
    · exact .inl ⟨x, hold.2, rfl⟩
  | stop name =>
    obtain ⟨y, hy, hd⟩ := Option.map_eq_some_iff.mp hrun
    rw [← hd] at hx
    have hx' : (d.containers.set name { y with running := false }).get? n = some x := hx
    rcases Map.cases_of_get?_set hx' with hnew | hold
    · rw [← hnew.2, hnew.1]
      exact .inl ⟨y, hy, rfl⟩
    · exact .inl ⟨x, hold.2, rfl⟩
  | rm name =>
    rw [← Option.some.inj hrun] at hx
    exact .inl ⟨x, (Map.of_get?_delete hx).2, rfl⟩
  | volumeRm volume =>
    simp only [Daemon.run] at hrun
    split at hrun
    · cases hrun
    · rw [← Option.some.inj hrun] at hx
      exact .inl ⟨x, hx, rfl⟩
  | inspect name =>
    obtain ⟨y, -, hd⟩ := Option.map_eq_some_iff.mp hrun
    rw [← hd] at hx
    exact .inl ⟨x, hx, rfl⟩

theorem run_volumes {d d' : Daemon} {command : Command} {v : String}
    (hrun : d.run command = some d') (hv : d'.volumes.get? v = some ()) :
    d.volumes.get? v = some () ∨ command = .volumeCreate v ∨ command = .seed v ∨
      ∃ c, command = .create c ∧ c.tokenVolume = v := by
  have hset : ∀ w : String, (d.volumes.set w ()).get? v = some () →
      d.volumes.get? v = some () ∨ w = v := by
    intro w hw
    rcases Map.cases_of_get?_set hw with hnew | hold
    · exact .inr hnew.1.symm
    · exact .inl hold.2
  cases command with
  | volumeCreate volume =>
    rw [← Option.some.inj hrun] at hv
    rcases hset volume hv with hold | hnew
    · exact .inl hold
    · exact .inr (.inl (by rw [hnew]))
  | seed volume =>
    rw [← Option.some.inj hrun] at hv
    rcases hset volume hv with hold | hnew
    · exact .inl hold
    · exact .inr (.inr (.inl (by rw [hnew])))
  | create c =>
    simp only [Daemon.run] at hrun
    split at hrun
    · cases hrun
    · rw [← Option.some.inj hrun] at hv
      rcases hset c.tokenVolume hv with hold | hnew
      · exact .inl hold
      · exact .inr (.inr (.inr ⟨c, rfl, hnew⟩))
  | start name | stop name | inspect name =>
    obtain ⟨y, -, hd⟩ := Option.map_eq_some_iff.mp hrun
    rw [← hd] at hv
    exact .inl hv
  | rm name =>
    rw [← Option.some.inj hrun] at hv
    exact .inl hv
  | volumeRm volume =>
    simp only [Daemon.run] at hrun
    split at hrun
    · cases hrun
    · rw [← Option.some.inj hrun] at hv
      exact .inl (Map.of_get?_delete hv).2

theorem run_rm {d d' : Daemon} {name : String} (hrun : d.run (.rm name) = some d') :
    d'.containers.get? name = none := by
  rw [← Option.some.inj hrun]
  show (d.containers.delete name).get? name = none
  rw [Map.get?_delete, if_pos rfl]

theorem run_volumeRm {d d' : Daemon} {volume : String}
    (hrun : d.run (.volumeRm volume) = some d') :
    d'.containers = d.containers ∧ d'.volumes.get? volume = none := by
  simp only [Daemon.run] at hrun
  split at hrun
  · cases hrun
  · rw [← Option.some.inj hrun]
    refine ⟨rfl, ?_⟩
    show (d.volumes.delete volume).get? volume = none
    rw [Map.get?_delete, if_pos rfl]

/-- **A command** that meets the condition. -/
theorem sound_step_docker {i : Nat} {output : Except String String} (h : Sound s)
    (hstep : step s (.docker i output) = some s') (hmeets : Meets s (.docker i output) = true) :
    Sound s' := by
  obtain ⟨stage, command, hi, hcommand, hcases⟩ := docker_cases hstep
  have hfits := h.fits i _ hi
  rcases hcases with hfailed | hran
  · obtain ⟨stderr, e, houtput, rfl⟩ := hfailed
    rw [houtput] at hmeets
    refine sound_docker h hi (fun n x hx => .inl ⟨x, hx, rfl⟩) (fun v hv => .inl hv) ?_
    cases stage with
    | creatingVolume c origin => exact hfits
    | seeding c origin => exact hfits
    | creating c origin => exact ⟨hfits.1, fun _ _ _ hanswer => (by cases hanswer)⟩
    | cleaning c e =>
      simp only [Meets, hi, Option.isNone_iff_eq_none] at hmeets
      exact ⟨hfits.1, fun _ => hmeets⟩
    | starting c rollback =>
      cases rollback with
      | true => exact hfits
      | false => trivial
    | pausing c => trivial
    | inspecting c => trivial
    | removing c update =>
      simp only [Meets, hi, Option.isNone_iff_eq_none] at hmeets
      exact ⟨hfits.1, hfits.2.1, fun _ => hmeets⟩
    | removingVolume c update =>
      simp only [Meets, hi, Option.isNone_iff_eq_none] at hmeets
      exact ⟨hfits.1, hfits.2.1, hfits.2.2.1, fun _ => hmeets⟩
    | updating args previousId => cases hcommand
    | ended result => cases hcommand
  · obtain ⟨stdout, d, houtput, hrun, rfl⟩ := hran
    rw [houtput] at hmeets
    have hcreate : ∀ c, command = .create c → ∃ origin, stage = .creating c origin := by
      intro c hc
      rw [hc] at hcommand
      cases stage <;> cases hcommand
      exact ⟨_, rfl⟩
    refine sound_docker h hi (fun n x hx => ?_) (fun v hv => ?_) ?_
    · rcases run_containers hrun hx with hold | hnew
      · exact .inl hold
      · obtain ⟨c, hc, hname, hagent⟩ := hnew
        obtain ⟨origin, hstage⟩ := hcreate c hc
        exact .inr ⟨c, by rw [hstage]; rfl, hname, hagent⟩
    · rcases run_volumes hrun hv with hold | hnew
      · exact .inl hold
      · refine .inr ?_
        rcases hnew with hnew | hnew | hnew
        · rw [hnew] at hcommand
          cases stage <;> cases hcommand
          exact ⟨_, rfl, rfl⟩
        · rw [hnew] at hcommand
          cases stage <;> cases hcommand
          exact ⟨_, rfl, rfl⟩
        · obtain ⟨c, hc, hname⟩ := hnew
          obtain ⟨origin, hstage⟩ := hcreate c hc
          exact ⟨c, by rw [hstage]; rfl, hname⟩
    · cases stage with
      | creatingVolume c origin => exact hfits
      | seeding c origin => exact hfits
      | creating c origin =>
        refine ⟨hfits.1, fun previousId _ horigin _ => ?_⟩
        rw [horigin] at hi
        simp only [Meets, hi, beq_iff_eq] at hmeets
        exact hmeets
      | cleaning c e =>
        rw [← Option.some.inj hcommand] at hrun
        exact ⟨hfits.1, fun _ => (run_volumeRm hrun).2⟩
      | starting c rollback =>
        cases rollback with
        | true => exact hfits
        | false => trivial
      | pausing c => trivial
      | inspecting c => trivial
      | removing c update =>
        rw [← Option.some.inj hcommand] at hrun
        exact ⟨hfits.1, hfits.2.1, fun _ => run_rm hrun⟩
      | removingVolume c update =>
        rw [← Option.some.inj hcommand] at hrun
        obtain ⟨hsame, hgone⟩ := run_volumeRm hrun
        exact ⟨hfits.1, hfits.2.1, by rw [hsame]; exact hfits.2.2.1, fun _ => hgone⟩
      | updating args previousId => cases hcommand
      | ended result => cases hcommand

/-- How a call can go on. -/
theorem goOn_cases {i : Nat} (hstep : step s (.goOn i) = some s') :
    (∃ args p, s.calls[i]? = some ⟨.updating args p, none⟩ ∧
      s' = (s.updated args p).1.setCall i ⟨(s.updated args p).2, none⟩) ∨
    ∃ stage answer, s.calls[i]? = some ⟨stage, some answer⟩ ∧
      s' = (s.resumed answer stage).1.setCall i ⟨(s.resumed answer stage).2, none⟩ := by
  simp only [step] at hstep
  split at hstep
  · rename_i args p hi
    exact .inl ⟨args, p, hi, (Option.some.inj hstep).symm⟩
  · rename_i stage answer hi
    exact .inr ⟨stage, answer, hi, (Option.some.inj hstep).symm⟩
  · cases hstep

/-- A call goes on, and the maps stay. -/
theorem sound_moves {i : Nat} {stage next : Stage} {answer : Option (Except RuntimeError String)}
    (h : Sound s) (hi : s.calls[i]? = some ⟨stage, answer⟩) (hwithin : next.Within stage)
    (hdeploys : ∀ c, stage.deploys = some c → next.deploys = some c ∨
      s.daemon.volumes.get? c.tokenVolume = none)
    (hcreated : (⟨stage, answer⟩ : Call).created = none)
    (hfits : Fits s.live s.daemon ⟨next, none⟩) :
    Sound (s.setCall i ⟨next, none⟩) := by
  refine sound_turn h hi hwithin (fun _ _ hc => .inl hc) h.known (fun _ _ ha => .inl ha)
    (fun _ x hx => .inl ⟨x, hx, rfl⟩) (fun _ hv => .inl hv) (fun _ hc => .inl hc) (fun c hc => ?_)
    (fun c hc => ?_) hfits
  · exact (hdeploys c hc).imp_right .inr
  · rw [hcreated] at hc
    cases hc

/-- A call ends, and the maps stay. -/
theorem sound_ends {i : Nat} {stage : Stage} {answer : Option (Except RuntimeError String)}
    (h : Sound s) (hi : s.calls[i]? = some ⟨stage, answer⟩) (result : Except RuntimeError Answer)
    (hdeploys : ∀ c, stage.deploys = some c → s.daemon.volumes.get? c.tokenVolume = none)
    (hcreated : (⟨stage, answer⟩ : Call).created = none) :
    Sound (s.setCall i ⟨.ended result, none⟩) :=
  sound_moves h hi (.idle rfl rfl rfl _) (fun c hc => .inr (hdeploys c hc)) hcreated trivial

theorem sound_deploys {i : Nat} {stage next : Stage} {answer : Except RuntimeError String}
    (h : Sound s) (hi : s.calls[i]? = some ⟨stage, some answer⟩)
    (hsame : next.changes = stage.changes ∧ next.touches = stage.touches ∧
      next.names = stage.names ∧ next.deploys = stage.deploys)
    (hcreated : (⟨stage, some answer⟩ : Call).created = none)
    (hfits : Fits s.live s.daemon ⟨next, none⟩) : Sound (s.setCall i ⟨next, none⟩) := by
  obtain ⟨hchanges, htouches, hnames, hdeploys⟩ := hsame
  refine sound_moves h hi ⟨fun _ ha => ?_, fun _ ha => ?_, fun _ hc => ?_⟩ (fun _ hc => ?_) hcreated
    hfits
  · rwa [← hchanges]
  · rwa [← htouches]
  · rwa [← hnames]
  · rw [hdeploys]
    exact .inl hc

theorem Sound.held_eq {i : Nat} {call : Call} {c c' : LiveContainer} (h : Sound s)
    (hi : s.calls[i]? = some call) (hc : c ∈ call.stage.names)
    (hget : s.live.get? c'.revisionId = some c') (hname : c'.revisionId = c.revisionId) :
    c'.agentId = c.agentId := by
  rcases h.apart c' c (.inl hget) (.inr ⟨call, List.mem_of_getElem? hi, hc⟩) with hsame | hother
  · exact hsame
  · exact absurd hname hother.1

/-- **The record of a container** that was created. -/
theorem sound_recorded {i : Nat} {c : LiveContainer} {origin : Option String} {output : String}
    (h : Sound s) (hi : s.calls[i]? = some ⟨.creating c origin, some (.ok output)⟩) :
    Sound (System.setCall { s with live := s.live.set c.revisionId c
                                   byAgent := s.byAgent.set c.agentId c.revisionId }
      i ⟨.ended (.ok (.revision c.revision)), none⟩) := by
  have hnone : NoneHeld s.live c.agentId := (h.fits i _ hi).1
  have hself : (s.live.set c.revisionId c).get? c.revisionId = some c := Map.get?_set_self _ _ _
  refine sound_turn h hi (.idle rfl rfl rfl _) (fun r x hx => ?_) (fun r x hx => ?_) (fun a r ha => ?_)
    (fun _ x hx => .inl ⟨x, hx, rfl⟩) (fun _ hv => .inl hv) (fun x hx => ?_) (fun x hx => ?_)
    (fun x hx => ?_) trivial
  · rcases Map.cases_of_get?_set hx with hnew | hold
    · rw [← hnew.2]
      exact .inr ⟨hnew.1, rfl⟩
    · exact .inl hold.2
  · rcases Map.cases_of_get?_set hx with hnew | hold
    · rw [← hnew.2, hnew.1]
      exact Map.get?_set_self _ _ _
    · rw [Map.get?_set_ne _ _ (hnone r x hold.2)]
      exact h.known r x hold.2
  · rcases Map.cases_of_get?_set ha with hnew | hold
    · exact .inr ⟨c, List.mem_cons_self, hnew.1.symm, hnew.2⟩
    · exact .inl hold.2
  · have hne : x.revisionId ≠ c.revisionId := fun hname =>
      hnone _ x hx (h.held_eq hi List.mem_cons_self hx hname)
    rw [Map.get?_set_ne _ _ hne]
    exact .inl hx
  · rw [← Option.some.inj hx]
    exact .inr (.inl hself)
  · rw [← Option.some.inj hx]
    exact hself

/-- **The end of a stop**: what it forgets is gone. -/
theorem sound_forgotten {i : Nat} {c : LiveContainer} {update : Option StartRuntimeArgs}
    {answer : Except RuntimeError String} {next : Stage} (h : Sound s)
    (hi : s.calls[i]? = some ⟨.removingVolume c update, some answer⟩)
    (hnext : (∃ result, next = .ended result) ∨
      ∃ args p, update = some args ∧ next = .updating args p) :
    Sound (System.setCall { s with
      live := s.live.delete c.revisionId
      byAgent := if s.byAgent.get? c.agentId = some c.revisionId then s.byAgent.delete c.agentId
        else s.byAgent } i ⟨next, none⟩) := by
  obtain ⟨honly, hagents, hcontainer, hvolume⟩ := h.fits i _ hi
  have hname : c ∈ (Stage.removingVolume c update).names := by
    cases update with
    | none | some args => exact List.mem_cons_self
  -- what is still held is of another agent
  have hother : ∀ r x, (s.live.delete c.revisionId).get? r = some x →
      s.live.get? r = some x ∧ x.agentId ≠ c.agentId := by
    intro r x hx
    obtain ⟨hr, hold⟩ := Map.of_get?_delete hx
    refine ⟨hold, fun hagent => hr ?_⟩
    rw [← h.keyed r x hold, honly r x hold hagent]
  have hbyAgent : ∀ a r, (if s.byAgent.get? c.agentId = some c.revisionId
      then s.byAgent.delete c.agentId else s.byAgent).get? a = some r →
      s.byAgent.get? a = some r := by
    intro a r ha
    split at ha
    · exact (Map.of_get?_delete ha).2
    · exact ha
  have hwithin : next.Within (.removingVolume c update) := by
    rcases hnext with hended | hupdating
    · obtain ⟨result, rfl⟩ := hended
      exact .idle rfl rfl rfl _
    · obtain ⟨args, p, rfl, rfl⟩ := hupdating
      exact ⟨fun _ ha => ha, fun _ ha => ha, fun _ hx => List.mem_cons_of_mem _ hx⟩
  refine sound_turn h hi hwithin (fun r x hx => .inl (hother r x hx).1) (fun r x hx => ?_)
    (fun a r ha => .inl (hbyAgent a r ha)) (fun _ x hx => .inl ⟨x, hx, rfl⟩) (fun _ hv => .inl hv)
    (fun x hx => ?_) (fun x hx => (by cases hx)) (fun x hx => (by cases hx)) ?_
  · obtain ⟨hold, hne⟩ := hother r x hx
    have hknown := h.known r x hold
    split
    · rw [Map.get?_delete, if_neg hne]
      exact hknown
    · exact hknown
  · by_cases hr : x.revisionId = c.revisionId
    · have hx' := honly _ x hx (h.held_eq hi hname hx hr)
      rw [hx']
      exact .inr ⟨hcontainer, hvolume (Option.some_ne_none _)⟩
    · rw [Map.get?_delete, if_neg hr]
      exact .inl hx
  · rcases hnext with hended | hupdating
    · obtain ⟨result, rfl⟩ := hended
      trivial
    · obtain ⟨args, p, rfl, rfl⟩ := hupdating
      intro r x hx hagent
      exact (hother r x hx).2 (hagent.trans (hagents args rfl))

/-- **An update** after its own stop. -/
theorem sound_updated {i : Nat} {args : StartRuntimeArgs} {p : String} (h : Sound s)
    (hi : s.calls[i]? = some ⟨.updating args p, none⟩) :
    Sound ((s.updated args p).1.setCall i ⟨(s.updated args p).2, none⟩) := by
  have hnone : NoneHeld s.live args.revision.agentId := h.fits i _ hi
  have hnext : ∀ next : Stage,
      (∃ result, next = .ended result) ∨ next = .creatingVolume (.of args.revision) (some p) →
      Sound (System.setCall { s with byAgent := s.byAgent.delete args.revision.agentId } i
        ⟨next, none⟩) := by
    intro next hcases
    have hsame : next.Within (.updating args p) ∧ Fits s.live s.daemon ⟨next, none⟩ := by
      rcases hcases with hended | hcreating
      · obtain ⟨result, rfl⟩ := hended
        exact ⟨.idle rfl rfl rfl _, trivial⟩
      · rw [hcreating]
        exact ⟨⟨fun _ ha => ha, fun _ ha => ha, fun _ hc => hc⟩, hnone⟩
    refine sound_turn h hi hsame.1 (fun _ _ hx => .inl hx) (fun r x hx => ?_) (fun a r ha => ?_)
      (fun _ x hx => .inl ⟨x, hx, rfl⟩) (fun _ hv => .inl hv) (fun _ hx => .inl hx)
      (fun x hx => (by cases hx)) (fun x hx => (by cases hx)) hsame.2
    · rw [Map.get?_delete, if_neg (hnone r x hx)]
      exact h.known r x hx
    · exact .inl (Map.of_get?_delete ha).2
  refine hnext _ ?_
  rcases deploy_cases { s with byAgent := s.byAgent.delete args.revision.agentId } args (some p)
    with hended | hcreating
  · exact .inl hended
  · exact .inr hcreating.1

/-- **A call that goes on** keeps what runs keep, whatever it was answered. -/
theorem sound_step_goOn {i : Nat} (h : Sound s) (hstep : step s (.goOn i) = some s') :
    Sound s' := by
  rcases goOn_cases hstep with hupdated | hresumed
  · obtain ⟨args, p, hi, rfl⟩ := hupdated
    exact sound_updated h hi
  obtain ⟨stage, answer, hi, rfl⟩ := hresumed
  have hfits := h.fits i _ hi
  cases stage with
  | creatingVolume c origin =>
    cases answer with
    | ok output =>
      exact sound_deploys h hi ⟨rfl, rfl, rfl, rfl⟩ rfl hfits
    | error e =>
      exact sound_deploys h hi ⟨rfl, rfl, rfl, rfl⟩ rfl ⟨hfits, fun hanswer => absurd rfl hanswer⟩
  | seeding c origin =>
    cases answer with
    | ok output =>
      exact sound_deploys h hi ⟨rfl, rfl, rfl, rfl⟩ rfl ⟨hfits, fun _ _ _ hanswer => (by cases hanswer)⟩
    | error e =>
      exact sound_deploys h hi ⟨rfl, rfl, rfl, rfl⟩ rfl ⟨hfits, fun hanswer => absurd rfl hanswer⟩
  | creating c origin =>
    cases answer with
    | ok output => exact sound_recorded h hi
    | error e =>
      exact sound_deploys h hi ⟨rfl, rfl, rfl, rfl⟩ rfl ⟨hfits.1, fun hanswer => absurd rfl hanswer⟩
  | cleaning c e =>
    refine sound_ends h hi _ (fun x hx => ?_) rfl
    rw [← Option.some.inj hx]
    exact hfits.2 (Option.some_ne_none _)
  | starting c rollback =>
    cases rollback with
    | true =>
      cases answer with
      | error e => exact sound_ends h hi _ (fun x hx => (by cases hx)) rfl
      | ok output =>
        have honly : OnlyHeld s.live c := hfits
        refine sound_turn h hi (.idle rfl rfl rfl _) (fun _ _ hx => .inl hx) (fun r x hx => ?_)
          (fun a r ha => ?_) (fun _ x hx => .inl ⟨x, hx, rfl⟩) (fun _ hv => .inl hv)
          (fun _ hx => .inl hx) (fun x hx => (by cases hx)) (fun x hx => (by cases hx)) trivial
        · rw [Map.get?_set]
          split
          · rename_i hagent
            rw [← h.keyed r x hx, honly r x hx hagent]
          · exact h.known r x hx
        · rcases Map.cases_of_get?_set ha with hnew | hold
          · exact .inr ⟨c, List.mem_cons_self, hnew.1.symm, hnew.2⟩
          · exact .inl hold.2
    | false =>
      cases answer with
      | error e => exact sound_ends h hi _ (fun x hx => (by cases hx)) rfl
      | ok output =>
        simp only [System.resumed, System.withFound]
        cases s.live.get? c.revisionId with
        | none => exact sound_ends h hi _ (fun x hx => (by cases hx)) rfl
        | some c' =>
          exact sound_moves h hi (.idle rfl rfl rfl _) (fun _ hc => (by cases hc)) rfl trivial
  | pausing c =>
    cases answer with
    | error e => exact sound_ends h hi _ (fun x hx => (by cases hx)) rfl
    | ok output =>
      simp only [System.resumed, System.withFound]
      cases s.live.get? c.revisionId with
      | none => exact sound_ends h hi _ (fun x hx => (by cases hx)) rfl
      | some c' =>
        exact sound_moves h hi (.idle rfl rfl rfl _) (fun _ hc => (by cases hc)) rfl trivial
  | inspecting c =>
    cases answer with
    | error e | ok output => exact sound_ends h hi _ (fun x hx => (by cases hx)) rfl
  | removing c update =>
    obtain ⟨honly, hagents, hgone⟩ := hfits
    refine sound_moves h hi ⟨fun _ ha => ?_, fun _ ha => ?_, fun _ hc => ?_⟩
      (fun _ hc => (by cases hc)) rfl
      ⟨honly, hagents, hgone (Option.some_ne_none _), fun hanswer => absurd rfl hanswer⟩
    all_goals
      cases update with
      | none => assumption
      | some args => assumption
  | removingVolume c update =>
    cases update with
    | none => exact sound_forgotten h hi (.inl ⟨_, rfl⟩)
    | some args => exact sound_forgotten h hi (.inr ⟨args, _, rfl, rfl⟩)
  | updating args p =>
    exact sound_moves h hi ⟨fun _ ha => ha, fun _ ha => ha, fun _ hc => hc⟩
      (fun _ hc => (by cases hc)) rfl hfits
  | ended result => exact sound_ends h hi _ (fun x hx => (by cases hx)) rfl

/-- **A turn** that meets the condition. -/
theorem sound_step (h : Sound s) (hstep : step s a = some s') (hmeets : Meets s a = true) :
    Sound s' := by
  cases a with
  | call op =>
    rw [← Option.some.inj hstep]
    exact sound_step_call h hmeets
  | docker i output => exact sound_step_docker h hstep hmeets
  | goOn i => exact sound_step_goOn h hstep

end Turn

/-! ## 5. Whole runs -/

section Runs

variable {s s' : System} {a : Action}

theorem Sound.one_container (h : Sound s) {n m : String} {x y : Container}
    (hx : s.daemon.containers.get? n = some x) (hy : s.daemon.containers.get? m = some y)
    (hagent : x.agentId = y.agentId) : n = m := by
  obtain ⟨c, hname, hc, hwhere⟩ := h.containers n x hx
  obtain ⟨c', hname', hc', hwhere'⟩ := h.containers m y hy
  have hsame : c.agentId = c'.agentId := by rw [hc, hc', hagent]
  -- a deployment's agent has nothing held
  have hnone : ∀ c, (∃ call ∈ s.calls, call.created = some c) → NoneHeld s.live c.agentId := by
    intro c hcreated
    obtain ⟨call, hmem, hcr⟩ := hcreated
    obtain ⟨i, hi⟩ := List.mem_iff_getElem?.mp hmem
    have hfits := h.fits i call hi
    unfold Call.created at hcr
    split at hcr
    · rw [← Option.some.inj hcr]
      exact hfits.1
    · cases hcr
  rcases hwhere with hheld | hcreated
  · rcases hwhere' with hheld' | hcreated'
    · have heq := h.onlyHeld hheld _ c' hheld' hsame.symm
      rw [← hname, ← hname', heq]
    · exact absurd hsame (hnone c' hcreated' _ c hheld)
  · rcases hwhere' with hheld' | hcreated'
    · exact absurd hsame.symm (hnone c hcreated _ c' hheld')
    · obtain ⟨call, hmem, hcr⟩ := hcreated
      obtain ⟨call', hmem', hcr'⟩ := hcreated'
      obtain ⟨i, hi⟩ := List.mem_iff_getElem?.mp hmem
      obtain ⟨j, hj⟩ := List.mem_iff_getElem?.mp hmem'
      have hchanges := (deploys_names (created_deploys hcr)).1
      have htouches := touches_of_changes (deploys_names (created_deploys hcr')).1
      rw [← hsame] at htouches
      have hij := h.alone i j call call' _ hi hj hchanges htouches
      rw [hij, hj, Option.some.injEq] at hi
      rw [← hi, hcr', Option.some.injEq] at hcr
      rw [← hname, ← hname', hcr]

/-- **What runs keep is lawful.** -/
theorem Sound.lawful (h : Sound s) : Lawful s where
  one n m x y hx hy _ _ hagent := h.one_container hx hy hagent
  containers n x hx := by
    obtain ⟨c, hname, hagent, hwhere⟩ := h.containers n x hx
    refine ⟨c, hwhere.imp_right fun hcreated => ?_, hname, hagent⟩
    obtain ⟨call, hmem, hcr⟩ := hcreated
    exact ⟨call, hmem, created_deploys hcr⟩
  volumes v hv := by
    obtain ⟨c, hname, hwhere⟩ := h.volumes v hv
    exact ⟨c, hwhere, hname⟩

theorem Sound.reversible (h : Sound s) : Reversible s a s' := by
  intro p hp
  unfold System.replaces at hp
  split at hp
  · split at hp
    · rename_i c previousId output hi
      split at hp
      · rename_i hne
        exact absurd ((h.fits _ _ hi).2 previousId output rfl rfl) hne
      · cases hp
    · cases hp
  · cases hp

end Runs

/-- **One principal per runtime.** In every run whose turns meet the condition, at most one container
    of an agent runs at any time, every container and every volume belongs to a revision that is
    held or being deployed, and what an update replaced can be gone back to. -/
theorem one_principal (s : System)
    (h : Reaches (guarded step fun s a => Meets s a = true) .start s) :
    Lawful s ∧ ∀ a s', guarded step (fun s a => Meets s a = true) s a = some s' →
      Lawful s' ∧ Reversible s a s' := by
  have hsound : Sound s := h.invariant (fun _ _ _ hs hturn =>
    sound_step hs (guarded_eq_some.mp hturn).2 (guarded_eq_some.mp hturn).1) sound_start
  refine ⟨hsound.lawful, fun a s' hturn => ⟨?_, hsound.reversible⟩⟩
  obtain ⟨hmeets, hstep⟩ := guarded_eq_some.mp hturn
  exact (sound_step hsound hstep hmeets).lawful

/-! ## 6. Three runs -/

/-- A revision of the agent `guardian`. -/
def revision (revisionId imageDigest : String) (named : revisionId ≠ "") : StartRuntimeArgs :=
  ⟨⟨revisionId, "guardian", imageDigest, none, named⟩, none⟩

def first : StartRuntimeArgs := revision "rev_1" "sha256:a" (by decide)
def second : StartRuntimeArgs := revision "rev_2" "sha256:b" (by decide)

/-- The daemon takes a command of the `i`th call, and the call goes on; `n` times. -/
def served (i : Nat) : Nat → List Action
  | 0 => []
  | n + 1 => .docker i (.ok "") :: .goOn i :: served i n

/-- The names of the containers that run. -/
def System.running (s : System) : List String :=
  (s.daemon.containers.entries.filter (·.2.running)).map Prod.fst

/-- A revision is deployed, activated, stopped, and a second one is deployed and activated. -/
theorem one_principal_twice : ∃ s,
    Reaches (guarded step fun s a => Meets s a = true) .start s ∧
      s.running = ["contextlock-agent-guardian-rev_2"] ∧ Lawful s := by
  have hrun : (execute (guarded step fun s a => Meets s a = true) .start
      (.call (.deploy first) :: served 0 3 ++ .call (.activate "rev_1") :: served 1 2 ++
        .call (.stop "rev_1") :: served 2 2 ++ .call (.deploy second) :: served 3 3 ++
        .call (.activate "rev_2") :: served 4 2)).map System.running
      = some ["contextlock-agent-guardian-rev_2"] := by
    decide
  obtain ⟨s, h, hseen⟩ := reaches_of_observed _ _ hrun
  exact ⟨s, h, hseen, (one_principal s h).1⟩

theorem update_loses_previous : ∃ s a s', Reaches step .start s ∧ step s a = some s' ∧
    s.replaces a = some ("rev_1", "rev_2") ∧ ¬ s'.RollsBack "rev_1" := by
  have hrun : (execute step .start
      (.call (.deploy first) :: served 0 3 ++ .call (.update second) :: served 1 2 ++
        .goOn 1 :: served 1 2 ++ [.docker 1 (.ok "")])).map (fun s =>
          (s.replaces (.goOn 1), (step s (.goOn 1)).map fun s' => s'.live.get? "rev_1"))
      = some (some ("rev_1", "rev_2"), some none) := by
    decide
  obtain ⟨s, h, hseen⟩ := reaches_of_observed _ _ hrun
  obtain ⟨hreplaces, hlast⟩ := Prod.mk.inj hseen
  obtain ⟨s', hstep, hgone⟩ := Option.map_eq_some_iff.mp hlast
  refine ⟨s, _, s', h, hstep, hreplaces, fun hback => ?_⟩
  obtain ⟨t, c, hheld, -⟩ := hback
  rw [hgone] at hheld
  cases hheld

/-- **Two containers run for one agent**: both deployments pass the check before either is
    recorded. -/
theorem two_containers_run : ∃ s, Reaches step .start s ∧
    s.running = ["contextlock-agent-guardian-rev_1", "contextlock-agent-guardian-rev_2"] ∧
      ¬ Lawful s := by
  have hrun : (execute step .start
      (.call (.deploy first) :: .call (.deploy second) :: served 0 3 ++ served 1 3 ++
        .call (.activate "rev_1") :: served 2 2 ++ .call (.activate "rev_2") :: served 3 2)).map
      (fun s => (s.running, s.daemon.containers.get? "contextlock-agent-guardian-rev_1",
        s.daemon.containers.get? "contextlock-agent-guardian-rev_2"))
      = some (["contextlock-agent-guardian-rev_1", "contextlock-agent-guardian-rev_2"],
          some ⟨"guardian", "contextlock-rt-rev_1", true⟩,
          some ⟨"guardian", "contextlock-rt-rev_2", true⟩) := by
    decide
  obtain ⟨s, h, hseen⟩ := reaches_of_observed _ _ hrun
  simp only [Prod.mk.injEq] at hseen
  obtain ⟨hrunning, hone, htwo⟩ := hseen
  refine ⟨s, h, hrunning, fun hlawful => ?_⟩
  have hsame := hlawful.one _ _ _ _ hone htwo rfl rfl rfl
  revert hsame
  decide

/-- **Neither half of the law holds** of all runs. -/
theorem principal_not_alone :
    (∃ s a s', Reaches step .start s ∧ step s a = some s' ∧ ¬ Reversible s a s') ∧
      ∃ s, Reaches step .start s ∧ ¬ Lawful s := by
  obtain ⟨s, a, s', h, hstep, hreplaces, hnot⟩ := update_loses_previous
  obtain ⟨t, ht, -, hunlawful⟩ := two_containers_run
  exact ⟨⟨s, a, s', h, hstep, fun hreversible => hnot (hreversible _ hreplaces)⟩, t, ht, hunlawful⟩

end ContextLock.Runtime.DockerRuntime
