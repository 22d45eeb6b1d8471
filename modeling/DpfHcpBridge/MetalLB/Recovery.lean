import DpfHcpBridge.MetalLB.Reconcile
import DpfHcpBridge.MetalLB.Reporting
import DpfHcpBridge.HostedCluster.Convergence

/-!
# A reconciliation after failed ones

A reconciliation that fails or is cut short part way is superseded by the next one, so what it
leaves behind must not keep the next from succeeding. `Admits` is what success needs of the store
(`configureMetalLB_ok_of_admits`), and nothing the reconciliation of a bridge does takes it away:
an object it creates or corrects carries the bridge's labels, a status write touches no object,
and a failed call changes nothing (`EnsureRun.keeps_admits`, `configureMetalLB_keeps_admits`).
Ownership reads only the name and namespace of the bridge, so this holds for every copy of the
bridge a reconciliation may be handed, however old.

`ReconcileRun` is a run of reconciliations of the bridge under one key, each handed any copy of
it and with any failed calls, together with edits of its spec by its owner and writers that only
remove objects. `reconcile_recovers`: from a store that admits both resources of the bridge,
after any such run the store still admits them, and a reconciliation of the bridge as persisted
with no failed call succeeds.

Scope. No writer in the run creates or relabels objects: an object of another owner under one of
the two names fails every reconciliation until someone removes it. The IPAddressPool is named
after the bridge alone, so bridges of one name in two namespaces share its name
(`namesake_blocked`): while the pool of one stands, every reconciliation of the other that asks
for exposure fails, whatever the faults, and leaves that pool in place.
-/

set_option autoImplicit false
set_option relaxedAutoImplicit false

namespace DpfHcpBridge.MetalLB

/-- Ownership reads only the name and namespace of the bridge. -/
theorem isOwnedByBridge_of_key {b b' : DPFHCPBridge} (obj : Object) (hkey : b'.key = b.key) :
    isOwnedByBridge obj b' = isOwnedByBridge obj b := by
  simp only [DPFHCPBridge.key, Prod.mk.injEq] at hkey
  simp only [isOwnedByBridge, hkey.1, hkey.2]

/-- The store admits both resources of every bridge under `key`. -/
def AdmitsBoth (key : String × String) (st : Store) : Prop :=
  ∀ b : DPFHCPBridge, b.key = key → Admits ipAddressPool b st ∧ Admits l2Advertisement b st

/-- A write that keeps the installed kinds and every object, or removes it, keeps what the store
admits. -/
theorem AdmitsBoth.of_removes {key : String × String} {st st' : Store}
    (hi : st'.installed = st.installed) (ho : ∀ r, st'.objects r = st.objects r ∨ st'.objects r = none)
    (h : AdmitsBoth key st) : AdmitsBoth key st' := by
  have admits : ∀ {r : ManagedResource} {b : DPFHCPBridge}, Admits r b st → Admits r b st' :=
    fun {r b} h => (ho (r.ref b)).elim (h.of_agree hi) (.of_absent (hi ▸ h.1))
  exact fun b hb => ⟨admits (h b hb).1, admits (h b hb).2⟩

/-! ### One reconciliation -/

theorem EnsureRun.store_of_failed {r : ManagedResource} {bridge : DPFHCPBridge} {s s' : Session}
    {err : String} (run : EnsureRun r bridge s (some err) s') : s'.store = s.store := by
  cases run <;> rfl

/-- An ensure run, failed or not, keeps every resource the store admitted for a bridge of the
same key: the object it leaves under its own name is the bridge's. -/
theorem EnsureRun.keeps_admits {r : ManagedResource} {bridge : DPFHCPBridge} {s s' : Session}
    {res : Option String} (run : EnsureRun r bridge s res s') (r' : ManagedResource)
    {b : DPFHCPBridge} (hkey : b.key = bridge.key) (h : Admits r' b s.store) :
    Admits r' b s'.store := by
  cases res with
  | some err => rw [run.store_of_failed]; exact h
  | none =>
    have c := EnsureRun.confined _ _ run
    refine ⟨c.installed ▸ h.1, fun o ho => ?_⟩
    by_cases href : r'.ref b = r.ref bridge
    · obtain ⟨⟨-, obj, hobj, hown, -⟩, -⟩ := run.ensured
      rw [href, hobj, Option.some.injEq] at ho
      subst ho
      rwa [isOwnedByBridge_of_key _ hkey]
    · exact h.2 o ((c.objects _ href).symm.trans ho)

theorem EnsureRun.keeps_admitsBoth {r : ManagedResource} {bridge : DPFHCPBridge} {s s' : Session}
    {res : Option String} (run : EnsureRun r bridge s res s') {key : String × String}
    (hkey : bridge.key = key) (h : AdmitsBoth key s.store) : AdmitsBoth key s'.store :=
  fun b hb => ⟨run.keeps_admits _ (hb.trans hkey.symm) (h b hb).1,
    run.keeps_admits _ (hb.trans hkey.symm) (h b hb).2⟩

theorem ConditionRun.keeps_admitsBoth {bridge : DPFHCPBridge} {status : ConditionStatus}
    {reason message : String} {s s' : Session} {out : Option String × DPFHCPBridge}
    (run : ConditionRun bridge status reason message s out s') {key : String × String}
    (h : AdmitsBoth key s.store) : AdmitsBoth key s'.store := by
  obtain ⟨hobj, hi, -⟩ := run.frame
  exact .of_removes hi (fun r => .inl (congrFun hobj r)) h

/-- A reconciliation handed any copy of the bridge under `key`, with any failed calls, keeps what
the store admits. -/
theorem configureMetalLB_keeps_admits {bridge : DPFHCPBridge} {s : Session}
    {key : String × String} (hkey : bridge.key = key) (h : AdmitsBoth key s.store) :
    AdmitsBoth key (configureMetalLB bridge s).2.store := by
  have run := configureMetalLB_run bridge s
  generalize configureMetalLB bridge s = o at run ⊢
  obtain ⟨out, s'⟩ := o
  cases run with
  | skipped => exact h
  | poolFailed _ pool cond => exact cond.keeps_admitsBoth (pool.keeps_admitsBoth hkey h)
  | advertisementFailed _ pool adv cond | configured _ pool adv cond =>
    exact cond.keeps_admitsBoth (adv.keeps_admitsBoth hkey (pool.keeps_admitsBoth hkey h))

/-! ### Runs of reconciliations -/

/-- Runs of reconciliations of the bridge under `key`, each handed any copy of it and with any
failed calls, with edits of its spec by its owner and writers that only remove objects. -/
inductive ReconcileRun (key : String × String) : Store → Store → Prop
  | stop (st : Store) : ReconcileRun key st st
  | invoke {st st' : Store} (bridge : DPFHCPBridge) (s : Session) (hkey : bridge.key = key)
      (hs : s.store = st) (rest : ReconcileRun key (configureMetalLB bridge s).2.store st') :
      ReconcileRun key st st'
  | edit {st st' : Store} {current : DPFHCPBridge} (hcur : st.bridges key = some current)
      (spec : DPFHCPBridgeSpec)
      (rest : ReconcileRun key
        (st.putBridge { current with spec := spec, generation := current.generation + 1 }) st') :
      ReconcileRun key st st'
  | remove {st st₁ st' : Store} (h : HostedCluster.OnlyRemoves st st₁)
      (rest : ReconcileRun key st₁ st') : ReconcileRun key st st'

theorem ReconcileRun.admits {key : String × String} {st st' : Store} (run : ReconcileRun key st st')
    (h : AdmitsBoth key st) : AdmitsBoth key st' := by
  induction run with
  | stop => exact h
  | invoke _ _ hkey hs _ ih => exact ih (configureMetalLB_keeps_admits hkey (hs ▸ h))
  | edit _ _ _ ih => exact ih (.of_removes rfl (fun _ => .inl rfl) h)
  | remove hrem _ ih => exact ih (.of_removes hrem.installed hrem.objects h)

theorem reconcile_recovers {key : String × String} {st st' : Store} (run : ReconcileRun key st st')
    (h : AdmitsBoth key st) :
    AdmitsBoth key st' ∧
      ∀ (bridge : DPFHCPBridge) (s : Session), s.store = st' → (∀ i, s.faults i = none) →
        st'.bridges key = some bridge → (configureMetalLB bridge s).1.2.1 = none := by
  have h' := run.admits h
  refine ⟨h', fun bridge s hs hf hp => ?_⟩
  have hkey : bridge.key = key := st'.bridge_at_key key bridge hp
  obtain ⟨hpool, hadv⟩ := h' bridge hkey
  subst hs
  exact configureMetalLB_ok_of_admits hf (hkey ▸ hp) hpool hadv

/-- `sampleBridge` as `sampleSession` stores it, reconciled while the create of its
L2Advertisement times out: the reconciliation fails, and the next one without a fault succeeds. -/
theorem reconcile_recovers_interrupted :
    (configureMetalLB { sampleBridge with resourceVersion := 1 } (timeoutAt 3)).1.2.1 ≠ none ∧
      ReconcileRun sampleBridge.key sampleSession.store
        (configureMetalLB { sampleBridge with resourceVersion := 1 } (timeoutAt 3)).2.store ∧
      AdmitsBoth sampleBridge.key sampleSession.store ∧
      AdmitsBoth sampleBridge.key
        (configureMetalLB { sampleBridge with resourceVersion := 1 } (timeoutAt 3)).2.store ∧
      ∀ (bridge : DPFHCPBridge) (s : Session),
        s.store = (configureMetalLB { sampleBridge with resourceVersion := 1 } (timeoutAt 3)).2.store →
        (∀ i, s.faults i = none) →
        (configureMetalLB { sampleBridge with resourceVersion := 1 } (timeoutAt 3)).2.store.bridges
          sampleBridge.key = some bridge →
        (configureMetalLB bridge s).1.2.1 = none :=
  have run : ReconcileRun sampleBridge.key sampleSession.store
      (configureMetalLB { sampleBridge with resourceVersion := 1 } (timeoutAt 3)).2.store :=
    .invoke { sampleBridge with resourceVersion := 1 } (timeoutAt 3) rfl rfl (.stop _)
  have h : AdmitsBoth sampleBridge.key sampleSession.store :=
    fun _ _ => ⟨.of_absent rfl rfl, .of_absent rfl rfl⟩
  ⟨by decide, run, h, reconcile_recovers run h⟩

/-! ### Bridges of one name -/

/-- Bridges of one name share the name of their IPAddressPool, whatever their namespaces. -/
theorem ipAddressPool_ref_of_name {a b : DPFHCPBridge} (hname : a.name = b.name) :
    ipAddressPool.ref a = ipAddressPool.ref b := by
  simp [ManagedResource.ref, ipAddressPool, hname]

/-- An object one bridge owns is owned by no bridge of another namespace. -/
theorem isOwnedByBridge_of_ns_ne {a b : DPFHCPBridge} {o : Object}
    (hown : isOwnedByBridge o a = true) (hns : a.ns ≠ b.ns) : isOwnedByBridge o b = false := by
  unfold isOwnedByBridge at hown ⊢
  split at hown
  · next name ns hn hs =>
    simp only [Bool.and_eq_true, beq_iff_eq] at hown
    simp [hn, hs, hown.2, hns]
  · cases hown

/-- While the IPAddressPool of one bridge stands, every reconciliation of another bridge of the
same name in another namespace that asks for exposure fails, whatever the faults and whatever copy
of it the reconciliation is handed, and leaves that pool as it is. -/
theorem namesake_blocked {a b : DPFHCPBridge} (hname : a.name = b.name) (hns : a.ns ≠ b.ns)
    (hexpose : b.shouldExposeThroughLoadBalancer = true) (s : Session) {o : Object}
    (hpool : s.store.objects (ipAddressPool.ref a) = some o) (hown : isOwnedByBridge o a = true) :
    (configureMetalLB b s).1.2.1 ≠ none ∧
      (configureMetalLB b s).2.store.objects (ipAddressPool.ref a) = some o := by
  have hforeign : isOwnedByBridge o b = false := isOwnedByBridge_of_ns_ne hown hns
  rw [ipAddressPool_ref_of_name hname] at hpool ⊢
  have run := configureMetalLB_run b s
  generalize configureMetalLB b s = res at run ⊢
  obtain ⟨out, s'⟩ := res
  cases run with
  | skipped h => simp [hexpose] at h
  | poolFailed _ pool cond =>
    obtain ⟨hobj, -⟩ := cond.frame
    rw [hobj, pool.store_of_failed]
    exact ⟨by simp, hpool⟩
  | advertisementFailed _ pool | configured _ pool =>
    simp [pool.admits.2 o hpool] at hforeign

/-- `sampleBridge` under the same name in another namespace. -/
def namesakeBridge : DPFHCPBridge := { sampleBridge with ns := "tenant", uid := "uid-2" }

/-- `sampleSession` with the IPAddressPool of `namesakeBridge` in place. -/
def namesakeSession : Session :=
  { sampleSession with
    store := sampleSession.store.put .ipAddressPool (buildIPAddressPool namesakeBridge) }

theorem namesake_blocked_sample :
    namesakeBridge.name = sampleBridge.name ∧ namesakeBridge.ns ≠ sampleBridge.ns ∧
      sampleBridge.shouldExposeThroughLoadBalancer = true ∧
      namesakeSession.store.objects (ipAddressPool.ref namesakeBridge) =
        some { buildIPAddressPool namesakeBridge with resourceVersion := 2 } ∧
      isOwnedByBridge { buildIPAddressPool namesakeBridge with resourceVersion := 2 } namesakeBridge ∧
      (configureMetalLB { sampleBridge with resourceVersion := 1 } namesakeSession).1.2.1 ≠ none ∧
      (configureMetalLB { sampleBridge with resourceVersion := 1 } namesakeSession).2.store.objects
        (ipAddressPool.ref namesakeBridge) =
          some { buildIPAddressPool namesakeBridge with resourceVersion := 2 } :=
  have hpool : namesakeSession.store.objects (ipAddressPool.ref namesakeBridge) =
      some { buildIPAddressPool namesakeBridge with resourceVersion := 2 } := by decide
  have hown : isOwnedByBridge { buildIPAddressPool namesakeBridge with resourceVersion := 2 }
      namesakeBridge = true := by decide
  ⟨rfl, by decide, rfl, hpool, hown,
    namesake_blocked (a := namesakeBridge) (b := { sampleBridge with resourceVersion := 1 }) rfl
      (by decide) rfl _ hpool hown⟩

end DpfHcpBridge.MetalLB
