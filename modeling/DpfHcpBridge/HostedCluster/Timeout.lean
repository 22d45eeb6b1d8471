import DpfHcpBridge.HostedCluster.Phases
import DpfHcpBridge.Footprints

/-!
# A timeout of the teardown is final

`HandleFinalizerCleanup` first writes the in-progress condition, and then, if the bridge that
write returned was marked for deletion more than `DeletionTimeout` ago, it writes the
`CleanupTimeout` condition and stops before any deletion. The code's comment calls for manual
intervention from then on.

`timeout_is_final`: the timeout is never left. The deletion timestamp of a persisted bridge never
changes, so from the first time past the timeout on, every invocation on that bridge, handed any
copy of it and answered with any failures, stops before its deletions and changes no object
(`handleFinalizerCleanup_objects_of_timedOut`). Along any `LateRun` of such invocations,
interleaved with an environment that only removes objects, every object is as it was or gone,
and the bridge stays persisted with its timestamp: only someone outside the controller can
finish the teardown.

Scope. The clock of each invocation is given, not read from a shared clock: `LateRun` only asks
that each invocation's clock be at or past the first late time.
-/

set_option autoImplicit false
set_option relaxedAutoImplicit false

namespace DpfHcpBridge.HostedCluster

/-! ### One invocation past the timeout -/

/-- The bridge under `key` is persisted with deletion timestamp `ts`. -/
def MarkedAt (key : String × String) (ts : Int) (st : Store) : Prop :=
  ∃ b, st.bridges key = some b ∧ b.deletionTimestamp = some ts

theorem MarkedAt.of_shrinks {key : String × String} {ts : Int} {st st' : Store}
    (h : Shrinks st st') (hst : MarkedAt key ts st) : MarkedAt key ts st' := by
  obtain ⟨b, hb, hts⟩ := hst
  obtain ⟨b', hb', hts'⟩ := h.bridges key b hb
  exact ⟨b', hb', hts'.trans hts⟩

/-- An invocation past the timeout of the bridge it is handed a copy of changes no object,
whatever its calls answer. -/
theorem handleFinalizerCleanup_objects_of_timedOut {cr : DPFHCPBridge} {s : Session} {ts : Int}
    (hst : MarkedAt cr.key ts s.store) (hlate : s.clock - ts > deletionTimeout) :
    (handleFinalizerCleanup cr s).2.store.objects = s.store.objects := by
  have run := handleFinalizerCleanup_run cr s
  generalize handleFinalizerCleanup cr s = res at run ⊢
  obtain ⟨out, s'⟩ := res
  cases run with
  | inProgressFailed => rfl
  | noTimestamp ha | timedOutWriteFailed ha => exact objects_of_statusAnswer ha
  | timedOutWritten ha _ _ ha₂ =>
    exact (objects_of_statusAnswer ha₂).trans (objects_of_statusAnswer ha)
  | proceeded ha ht hin _ =>
    obtain ⟨b, hb, hts⟩ := hst
    obtain ⟨-, current, hcur, -, -, -, rfl⟩ := s.statusAnswer_eq_ok ha
    rw [markInProgress_key, hb] at hcur
    cases hcur
    obtain rfl := Option.some.inj (ht.symm.trans hts)
    exact absurd hlate hin

/-! ### Runs past the timeout -/

/-- Invocations on the bridge under `key`, each handed any copy of it, at any time from `t₀` on
and answered with any failures, interleaved with environment steps that only remove objects. -/
inductive LateRun (key : String × String) (t₀ : Int) : Store → Store → Prop
  | stop (st : Store) : LateRun key t₀ st st
  | invoke {st st' : Store} (cr : DPFHCPBridge) (s : Session) (hs : s.store = st)
      (hkey : cr.key = key) (hclock : t₀ ≤ s.clock)
      (rest : LateRun key t₀ (handleFinalizerCleanup cr s).2.store st') : LateRun key t₀ st st'
  | env {st st₁ st' : Store} (h : OnlyRemoves st st₁) (rest : LateRun key t₀ st₁ st') :
      LateRun key t₀ st st'

/-- Once the time is past the timeout of a persisted bridge, no later invocation on it changes an
object: along any run of them, with any failures and an environment that only removes objects,
every object is as it was or gone, and the bridge is still persisted with its timestamp. -/
theorem timeout_is_final {key : String × String} {ts t₀ : Int} {st st' : Store}
    (run : LateRun key t₀ st st') (hst : MarkedAt key ts st) (hlate : t₀ - ts > deletionTimeout) :
    (∀ r, st'.objects r = st.objects r ∨ st'.objects r = none) ∧ MarkedAt key ts st' := by
  induction run with
  | stop st => exact ⟨fun _ => .inl rfl, hst⟩
  | invoke cr s hs hkey hclock _ ih =>
    subst hs hkey
    have hobj := handleFinalizerCleanup_objects_of_timedOut hst (by omega)
    obtain ⟨hrest, hst'⟩ := ih (hst.of_shrinks (handleFinalizerCleanup_shrinks cr s))
    exact ⟨fun r => hobj ▸ hrest r, hst'⟩
  | env h _ ih =>
    obtain ⟨hrest, hst'⟩ := ih (hst.of_shrinks h.shrinks)
    refine ⟨fun r => ?_, hst'⟩
    rcases hrest r with hr | hr
    · exact (h.objects r).imp hr.trans hr.trans
    · exact .inr hr

/-- `heldDependentsStore` thirty-one minutes into the deletion, with no failed call. -/
def lateHeldSession : Session := quietSession heldDependentsStore (31 * minute)

theorem timeout_is_final_held :
    let st' := (handleFinalizerCleanup { deletingBridge with resourceVersion := 1 }
      lateHeldSession).2.store
    LateRun deletingBridge.key (31 * minute) heldDependentsStore st' ∧
      MarkedAt deletingBridge.key 0 heldDependentsStore ∧ 31 * minute - 0 > deletionTimeout ∧
      (∀ r, st'.objects r = heldDependentsStore.objects r ∨ st'.objects r = none) ∧
      MarkedAt deletingBridge.key 0 st' :=
  have run : LateRun deletingBridge.key (31 * minute) heldDependentsStore
      (handleFinalizerCleanup { deletingBridge with resourceVersion := 1 } lateHeldSession).2.store :=
    .invoke { deletingBridge with resourceVersion := 1 } lateHeldSession rfl rfl (Int.le_refl _) (.stop _)
  have hst : MarkedAt deletingBridge.key 0 heldDependentsStore :=
    ⟨{ deletingBridge with resourceVersion := 1 }, by decide, rfl⟩
  have hlate : (31 * minute : Int) - 0 > deletionTimeout := by decide
  ⟨run, hst, hlate, timeout_is_final run hst hlate⟩

end DpfHcpBridge.HostedCluster
