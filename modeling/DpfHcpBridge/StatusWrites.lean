import DpfHcpBridge.MetalLB.Reporting
import DpfHcpBridge.HostedCluster.Convergence

/-!
# Which status writes the two controllers issue

`setCondition` writes the status only when `SetStatusCondition` reports a change, so the one
status write a `configureMetalLB` call can issue, from the bridge as persisted, changes the
persisted `MetalLBConfigured` condition (`configureMetalLB_status_writes`).
`handleFinalizerCleanup` is not driven by change: it writes `CleanupInProgress` at the start of
every invocation, whatever is persisted, and past the timeout follows that write with the
`CleanupTimeout` write and nothing else (`handleFinalizerCleanup_status_log`).
`status_writes_issued` states the two together. `cleanup_status_writes_repeat` shows an
in-progress write that sends the conditions already persisted, and an invocation after
`CleanupTimeout` was persisted that writes the status twice more.

Both controllers write the whole condition list of one bridge, and
`status_writes_keep_other_condition` says that neither changes the other's condition in what it
sends: every status write of `configureMetalLB` carries the bridge's conditions of every type but
`MetalLBConfigured` as it was given them, and every one of `handleFinalizerCleanup` those of
every type but `HostedClusterCleanup`. With the version check of `Status().Update`, a write from
a bridge that is out of date fails instead of putting back an old condition of the other.
-/

set_option autoImplicit false
set_option relaxedAutoImplicit false

namespace DpfHcpBridge

open MetalLB HostedCluster

theorem status_writes_issued :
    (∀ (bridge : DPFHCPBridge) (s : Session), s.store.bridges bridge.key = some bridge →
      ∃ t, (configureMetalLB bridge s).2.calls = s.calls ++ t ∧
        (t.filter (·.call.target.isNone)).length ≤ 1 ∧
        ∀ c ∈ t, ∀ key conditions, c.call = .updateStatus key conditions →
          key = bridge.key ∧ ∃ persisted, s.store.bridges key = some persisted ∧
            ChangesCondition metalLBConfigured persisted.conditions conditions) ∧
    (∀ (cr : DPFHCPBridge) (s : Session), ∃ o t, (handleFinalizerCleanup cr s).2.calls =
      s.calls ++ ⟨.updateStatus cr.key (markInProgress cr s.clock).conditions, o⟩ :: t ∧
      (PastTimeout cr s → t.length ≤ 1 ∧ ∀ c ∈ t, ∃ conditions,
        c.call = .updateStatus cr.key conditions ∧
          (findStatusCondition conditions hostedClusterCleanup).map (·.reason) =
            some "CleanupTimeout")) := by
  refine ⟨fun bridge s hp => ?_, handleFinalizerCleanup_status_log⟩
  obtain ⟨t, hcalls, hone, hwrites⟩ := configureMetalLB_status_writes bridge s
  refine ⟨t, hcalls, hone, fun c hc key conditions hcall => ?_⟩
  obtain ⟨rfl, hchange, -⟩ := hwrites c hc key conditions hcall
  exact ⟨rfl, bridge, hp, hchange⟩

theorem status_writes_keep_other_condition :
    (∀ (bridge : DPFHCPBridge) (s : Session), ∃ t,
      (configureMetalLB bridge s).2.calls = s.calls ++ t ∧
        ∀ c ∈ t, ∀ key conditions, c.call = .updateStatus key conditions →
          AgreeOff metalLBConfigured conditions bridge.conditions) ∧
    (∀ (cr : DPFHCPBridge) (s : Session), ∃ t,
      (handleFinalizerCleanup cr s).2.calls = s.calls ++ t ∧
        ∀ c ∈ t, ∀ key conditions, c.call = .updateStatus key conditions →
          AgreeOff hostedClusterCleanup conditions cr.conditions) := by
  refine ⟨fun bridge s => ?_, handleFinalizerCleanup_keepsOthers⟩
  obtain ⟨t, hcalls, -, hwrites⟩ := configureMetalLB_status_writes bridge s
  exact ⟨t, hcalls, fun c hc key conditions hcall => (hwrites c hc key conditions hcall).2.2⟩

/-- The store an invocation a minute into the deletion leaves: the HostedCluster marked for
deletion and `CleanupInProgress` persisted. -/
def inProgressStore : Store :=
  (handleFinalizerCleanup { deletingBridge with resourceVersion := 1 }
    (quietSession heldDependentsStore minute)).2.store

/-- The bridge persisted in `inProgressStore`. -/
def inProgressBridge : DPFHCPBridge :=
  (handleFinalizerCleanup { deletingBridge with resourceVersion := 1 }
    (quietSession heldDependentsStore minute)).1.2.2

/-- The store an invocation 31 minutes into the deletion leaves: `CleanupTimeout` persisted. -/
def timedOutStore : Store :=
  (handleFinalizerCleanup { deletingBridge with resourceVersion := 1 }
    (quietSession heldDependentsStore (31 * minute))).2.store

/-- The bridge persisted in `timedOutStore`. -/
def timedOutBridge : DPFHCPBridge :=
  (handleFinalizerCleanup { deletingBridge with resourceVersion := 1 }
    (quietSession heldDependentsStore (31 * minute))).1.2.2

theorem status_writes_issued_sample :
    (∃ t, (configureMetalLB { sampleBridge with resourceVersion := 1 } sampleSession).2.calls =
        sampleSession.calls ++ t ∧ (t.filter (·.call.target.isNone)).length ≤ 1 ∧
        ∀ c ∈ t, ∀ key conditions, c.call = .updateStatus key conditions →
          key = sampleBridge.key ∧ ∃ persisted, sampleSession.store.bridges key = some persisted ∧
            ChangesCondition metalLBConfigured persisted.conditions conditions) ∧
      PastTimeout timedOutBridge (quietSession timedOutStore (32 * minute)) ∧
      ∃ o t, (handleFinalizerCleanup timedOutBridge (quietSession timedOutStore (32 * minute))).2.calls =
        ⟨.updateStatus timedOutBridge.key (markInProgress timedOutBridge (32 * minute)).conditions, o⟩ ::
          t ∧ t.length ≤ 1 ∧ ∀ c ∈ t, ∃ conditions,
            c.call = .updateStatus timedOutBridge.key conditions ∧
              (findStatusCondition conditions hostedClusterCleanup).map (·.reason) =
                some "CleanupTimeout" := by
  have hlate : PastTimeout timedOutBridge (quietSession timedOutStore (32 * minute)) :=
    ⟨timedOutBridge, 0, by decide, by decide, by decide⟩
  obtain ⟨o, t, hcalls, hwrites⟩ :=
    status_writes_issued.2 timedOutBridge (quietSession timedOutStore (32 * minute))
  exact ⟨status_writes_issued.1 _ _ (by decide), hlate, o, t, hcalls, hwrites hlate⟩

theorem cleanup_status_writes_repeat :
    inProgressStore.bridges deletingBridge.key = some inProgressBridge ∧
      (handleFinalizerCleanup inProgressBridge (quietSession inProgressStore (2 * minute))).2.calls.head? =
        some ⟨.updateStatus deletingBridge.key inProgressBridge.conditions, none⟩ ∧
      (persistedCleanup timedOutStore deletingBridge.key).map (·.reason) = some "CleanupTimeout" ∧
      (handleFinalizerCleanup timedOutBridge (quietSession timedOutStore (32 * minute))).2.calls.map
        (·.call.target) = [none, none] := by
  decide

end DpfHcpBridge
