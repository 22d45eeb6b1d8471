import DpfHcpBridge.MetalLB.Upsert

/-!
# A successful MetalLB reconciliation is a fixpoint

`configureMetalLB_fixpoint`: when `configureMetalLB` returns no error for a bridge that asks for
LoadBalancer exposure, starting from the bridge as persisted and from any store, then the store
holds both MetalLB objects under their deterministic names in `openshift-operators`, owned by the
bridge and with the desired specs; an object that was already there kept its metadata; at most one
create or update went to each of the two objects; the persisted `MetalLBConfigured` condition is
True with reason `MetalLBReady` for the bridge's generation; and a second reconciliation of the
persisted bridge against the resulting store, with no fault, returns no error and only reads.

The proof follows `ConfigureRun`: `EnsureRun.ensured` and `EnsureRun.confined` for each of the two
resources, `ConditionRun.frame` and `ConditionRun.persisted` for the condition, and for the second
run `ensureResource_of_ensured` and `setCondition_of_unchanged`.

The reconciliation must start from the bridge as persisted. `stale_ready_copy_unreconciled`: a
copy that still carries `MetalLBReady` while the store holds a False condition, with both objects
in place, returns no error and writes nothing, so the False condition stays persisted.

`configureMetalLB_succeeds_iff` says when the fixpoint's hypothesis holds: with no fault and the
bridge as persisted, a reconciliation succeeds exactly when the bridge is skipped or the store
`Admits` both resources, that is, each kind is installed and any object under each name is the
bridge's.
-/

set_option autoImplicit false
set_option relaxedAutoImplicit false

namespace DpfHcpBridge.MetalLB

/-- An object that was under the resource's reference is still there, with the same metadata. -/
def KeepsMetadata (r : ManagedResource) (bridge : DPFHCPBridge) (before after : Store) : Prop :=
  ∀ obj, before.objects (r.ref bridge) = some obj →
    ∃ obj', after.objects (r.ref bridge) = some obj' ∧ obj'.metadata = obj.metadata

/-- The creates and updates of one object in a log. -/
def writesTo (ref : ObjectRef) (log : List Issued) : Nat :=
  (log.filter fun c => c.call.isWrite && c.call.target == some ref).length

/-- The bridge carries a `MetalLBConfigured` condition that is True with reason `MetalLBReady`,
observed at `generation`. -/
def ReadyCondition (bridge : DPFHCPBridge) (generation : Int) : Prop :=
  ∃ c, findStatusCondition bridge.conditions metalLBConfigured = some c ∧
    c.status = .conditionTrue ∧ c.reason = "MetalLBReady" ∧ c.observedGeneration = generation

/-- A run that wrote nothing, emitted nothing and only issued reads. -/
def OnlyReads (s s' : Session) : Prop :=
  s'.store = s.store ∧ s'.events = s.events ∧
    ∃ t, s'.calls = s.calls ++ t ∧ ∀ c ∈ t, ∃ ref, c.call = .get ref

/-- What a successful `configureMetalLB` from `s` leaves in `s'`. -/
structure Reconciled (bridge : DPFHCPBridge) (s s' : Session) : Prop where
  pool : Ensured ipAddressPool bridge s'.store
  advertisement : Ensured l2Advertisement bridge s'.store
  poolMetadata : KeepsMetadata ipAddressPool bridge s.store s'.store
  advertisementMetadata : KeepsMetadata l2Advertisement bridge s.store s'.store
  oneWriteEach : ∃ t, s'.calls = s.calls ++ t ∧ writesTo (ipAddressPool.ref bridge) t ≤ 1 ∧
    writesTo (l2Advertisement.ref bridge) t ≤ 1
  settled : ∃ persisted, s'.store.bridges bridge.key = some persisted ∧
    ReadyCondition persisted bridge.generation ∧
    ∀ next : Session, next.store = s'.store → (∀ i, next.faults i = none) →
      (configureMetalLB persisted next).1.2.1 = none ∧
        OnlyReads next (configureMetalLB persisted next).2

/-! ### Lemmas -/

theorem Ensured.of_agree {r : ManagedResource} {bridge : DPFHCPBridge} {st st' : Store}
    (hi : st'.installed = st.installed) (ho : st'.objects (r.ref bridge) = st.objects (r.ref bridge))
    (h : Ensured r bridge st) : Ensured r bridge st' := by
  rwa [Ensured, hi, ho]

theorem KeepsMetadata.of_agree {r : ManagedResource} {bridge : DPFHCPBridge} {st st' st'' : Store}
    (h : KeepsMetadata r bridge st st') (ho : st''.objects (r.ref bridge) = st'.objects (r.ref bridge)) :
    KeepsMetadata r bridge st st'' := by
  intro obj hobj
  rw [ho]
  exact h obj hobj

theorem KeepsMetadata.of_agree_left {r : ManagedResource} {bridge : DPFHCPBridge} {st st' st'' : Store}
    (ho : st'.objects (r.ref bridge) = st.objects (r.ref bridge)) (h : KeepsMetadata r bridge st' st'') :
    KeepsMetadata r bridge st st'' := by
  intro obj hobj
  rw [← ho] at hobj
  exact h obj hobj

@[simp] theorem writesTo_append (ref : ObjectRef) (a b : List Issued) :
    writesTo ref (a ++ b) = writesTo ref a + writesTo ref b := by
  simp [writesTo]

theorem writesTo_le (ref : ObjectRef) (log : List Issued) :
    writesTo ref log ≤ (log.filter (·.call.isWrite)).length := by
  unfold writesTo
  induction log with
  | nil => simp
  | cons c cs ih =>
    by_cases hw : c.call.isWrite <;> by_cases ht : c.call.target = some ref <;>
      simp [List.filter_cons, hw, ht] <;> omega

theorem writesTo_eq_zero {ref : ObjectRef} {log : List Issued}
    (h : ∀ c ∈ log, c.call.target ≠ some ref) : writesTo ref log = 0 := by
  simp only [writesTo, List.length_eq_zero, List.filter_eq_nil_iff, Bool.and_eq_true, beq_iff_eq,
    not_and]
  exact fun c hc _ => h c hc

/-- The bridge as persisted after a successful reconciliation, against a store where both
resources are ensured, reconciles again without writing: its condition is already in place. -/
theorem configureMetalLB_quiet (bridge : DPFHCPBridge) (cs : List Condition) (v : Nat)
    (next : Session) (hexpose : bridge.shouldExposeThroughLoadBalancer = true)
    (hpool : Ensured ipAddressPool bridge next.store)
    (hadv : Ensured l2Advertisement bridge next.store) (c : Condition)
    (hc : findStatusCondition cs metalLBConfigured = some c) (hstatus : c.status = .conditionTrue)
    (hreason : c.reason = "MetalLBReady") (hmessage : c.message = "MetalLB configured successfully")
    (hgen : c.observedGeneration = bridge.generation) (hf : ∀ i, next.faults i = none) :
    (configureMetalLB { bridge with conditions := cs, resourceVersion := v } next).1.2.1 = none ∧
      OnlyReads next (configureMetalLB { bridge with conditions := cs, resourceVersion := v } next).2 := by
  let persisted : DPFHCPBridge := { bridge with conditions := cs, resourceVersion := v }
  have h1 := ensureResource_of_ensured ipAddressPool persisted next (hf _) hpool
  have h2 := ensureResource_of_ensured l2Advertisement persisted (ipAddressPool.read persisted next)
    (hf _) hadv
  have h3 := setCondition_of_unchanged persisted .conditionTrue "MetalLBReady"
    "MetalLB configured successfully" (l2Advertisement.read persisted (ipAddressPool.read persisted next))
    (setStatusCondition_idem _ cs c hc hstatus hreason hmessage hgen)
  simp only [configureMetalLB, DPFHCPBridge.shouldExposeThroughLoadBalancer] at hexpose ⊢
  simp only [hexpose, Bool.not_true, Bool.false_eq_true, ↓reduceIte, bind_apply, pure_apply,
    map_apply, ensureIPAddressPool, ensureL2Advertisement]
  rw [h1]
  simp only [bind_apply]
  rw [h2]
  simp only [bind_apply]
  rw [h3]
  refine ⟨rfl, rfl, rfl, _, List.append_assoc _ _ _, ?_⟩
  simp

/-! ### The fixpoint -/

/-- A successful reconciliation from the bridge as persisted is a fixpoint. The bridge must be the
version the store holds: a stale copy that still carries `MetalLBReady` while False is persisted
writes nothing, so False stays persisted (`stale_ready_copy_unreconciled`). -/
theorem configureMetalLB_fixpoint (bridge : DPFHCPBridge) (s : Session)
    (hexpose : bridge.shouldExposeThroughLoadBalancer = true)
    (hpersisted : s.store.bridges bridge.key = some bridge)
    (hok : (configureMetalLB bridge s).1.2.1 = none) :
    Reconciled bridge s (configureMetalLB bridge s).2 := by
  have run := configureMetalLB_run bridge s
  generalize configureMetalLB bridge s = o at run hok ⊢
  obtain ⟨res, s₃⟩ := o
  cases run with
  | skipped h => simp [hexpose] at h
  | poolFailed => simp at hok
  | advertisementFailed => simp at hok
  | @configured s₁ s₂ _ out _ pool adv cond =>
    obtain ⟨_, stored⟩ := out
    simp only at hok
    subst hok
    dsimp only at cond ⊢
    obtain ⟨poolEnsured, poolKeeps⟩ := pool.ensured
    obtain ⟨advEnsured, advKeeps⟩ := adv.ensured
    have c₁ := pool.confined
    have c₂ := adv.confined
    have hne := ipAddressPool_ref_ne bridge bridge
    obtain ⟨hobj, hinst, -, -, t₃, hcalls₃, ht₃⟩ := cond.frame
    obtain ⟨t₁, hcalls₁, ht₁, hw₁⟩ := c₁.calls
    obtain ⟨t₂, hcalls₂, ht₂, hw₂⟩ := c₂.calls
    have hpool : Ensured ipAddressPool bridge s₃.store :=
      poolEnsured.of_agree (by rw [hinst, c₂.installed]) (by rw [hobj, c₂.objects _ hne])
    have hadv : Ensured l2Advertisement bridge s₃.store := advEnsured.of_agree hinst (by rw [hobj])
    have hp₂ : s₂.store.bridges bridge.key = some bridge := by
      rw [c₂.bridges, c₁.bridges, hpersisted]
    obtain ⟨cs, v, hstored, c, hc, hs, hr, hm, hg⟩ := ConditionRun.persisted _ _ _ _ hp₂ cond
    refine ⟨hpool, hadv, KeepsMetadata.of_agree poolKeeps (by rw [hobj, c₂.objects _ hne]),
      (KeepsMetadata.of_agree_left (c₁.objects _ hne.symm) advKeeps).of_agree (by rw [hobj]),
      ⟨t₁ ++ t₂ ++ t₃, by simp [hcalls₃, hcalls₂, hcalls₁], ?_⟩,
      ⟨_, hstored, ⟨c, hc, hs, hr, hg⟩, fun next hnext hf =>
        configureMetalLB_quiet bridge cs v next hexpose (hnext ▸ hpool) (hnext ▸ hadv) c hc hs hr hm
          hg hf⟩⟩
    have h₂ : writesTo (ipAddressPool.ref bridge) t₂ = 0 :=
      writesTo_eq_zero fun c hc => by rw [ht₂ c hc]; exact fun h => hne (Option.some.inj h).symm
    have h₁ : writesTo (l2Advertisement.ref bridge) t₁ = 0 :=
      writesTo_eq_zero fun c hc => by rw [ht₁ c hc]; exact fun h => hne (Option.some.inj h)
    have h₃ : ∀ ref, writesTo ref t₃ = 0 := fun ref =>
      writesTo_eq_zero fun c hc => by rw [(ht₃ c hc).1]; exact Option.noConfusion
    have := writesTo_le (ipAddressPool.ref bridge) t₁
    have := writesTo_le (l2Advertisement.ref bridge) t₂
    simp only [writesTo_append, h₁, h₂, h₃]
    omega

theorem configureMetalLB_fixpoint_sample :
    Reconciled { sampleBridge with resourceVersion := 1 } sampleSession
      (configureMetalLB { sampleBridge with resourceVersion := 1 } sampleSession).2 :=
  configureMetalLB_fixpoint _ _ rfl (by decide) (by decide)

/-! ### A stale copy -/

/-- The `MetalLBConfigured` condition a successful reconciliation of `sampleBridge` sets. -/
def readyCondition : Condition :=
  ⟨metalLBConfigured, .conditionTrue, "MetalLBReady", "MetalLB configured successfully", 50, 2⟩

/-- `sampleBridge` after a later reconciliation failed on its L2Advertisement. -/
def advertisementFailedBridge : DPFHCPBridge :=
  { sampleBridge with
    conditions := [⟨metalLBConfigured, .conditionFalse, "L2AdvertisementFailed",
      "Failed to create/update L2Advertisement: getting L2Advertisement: timeout", 60, 2⟩] }

/-- Both MetalLB objects of `sampleBridge` in place as their builders return them, and
`advertisementFailedBridge` persisted. -/
def staleReadyStore : Store :=
  (((Store.empty fun _ => true).put .ipAddressPool (buildIPAddressPool sampleBridge)).put
    .l2Advertisement (buildL2Advertisement sampleBridge)).putBridge advertisementFailedBridge

/-- `staleReadyStore`, with no fault. -/
def staleReadySession : Session := { sampleSession with store := staleReadyStore }

/-- A copy of `sampleBridge` from before that failure, still carrying `readyCondition`. -/
def readyCopy : DPFHCPBridge := { sampleBridge with conditions := [readyCondition], resourceVersion := 0 }

theorem stale_ready_copy_unreconciled :
    (configureMetalLB readyCopy staleReadySession).1.2.1 = none ∧
      (configureMetalLB readyCopy staleReadySession).2.store = staleReadyStore ∧
      staleReadyStore.bridges readyCopy.key =
        some { advertisementFailedBridge with resourceVersion := 3 } ∧
      ¬ Reconciled readyCopy staleReadySession (configureMetalLB readyCopy staleReadySession).2 := by
  have hpool : Ensured ipAddressPool sampleBridge staleReadySession.store :=
    ⟨rfl, { buildIPAddressPool sampleBridge with resourceVersion := 1 }, by decide, by decide, rfl⟩
  have hadv : Ensured l2Advertisement sampleBridge staleReadySession.store :=
    ⟨rfl, { buildL2Advertisement sampleBridge with resourceVersion := 2 }, by decide, by decide, rfl⟩
  obtain ⟨hok, hstore, -⟩ : (configureMetalLB readyCopy staleReadySession).1.2.1 = none ∧
      OnlyReads staleReadySession (configureMetalLB readyCopy staleReadySession).2 :=
    configureMetalLB_quiet sampleBridge [readyCondition] 0 staleReadySession rfl hpool hadv
      readyCondition rfl rfl rfl rfl rfl fun _ => rfl
  have hp : staleReadyStore.bridges readyCopy.key =
      some { advertisementFailedBridge with resourceVersion := 3 } := by decide
  refine ⟨hok, hstore, hp, fun h => ?_⟩
  obtain ⟨persisted, hpersisted, ⟨c, hc, hs, -⟩, -⟩ := h.settled
  rw [hstore] at hpersisted
  obtain rfl := Option.some.inj (hpersisted.symm.trans hp)
  cases hc
  cases hs

/-! ### When a reconciliation succeeds -/

/-- With no fault, a status write of the bridge as persisted succeeds. -/
theorem ConditionRun.ok {bridge : DPFHCPBridge} {status : ConditionStatus} {reason message : String}
    {s s' : Session} {out : Option String × DPFHCPBridge}
    (run : ConditionRun bridge status reason message s out s') (hf : ∀ i, s.faults i = none)
    (hp : s.store.bridges bridge.key = some bridge) : out.1 = none := by
  cases run with
  | unchanged | written => rfl
  | writeFailed _ he =>
    have hkey : (conditioned bridge status reason message s.clock).2.key = bridge.key := rfl
    have hv : (conditioned bridge status reason message s.clock).2.resourceVersion =
        bridge.resourceVersion := rfl
    simp [Session.answer, hf, Store.updateStatus, hkey, hv, hp] at he

/-- With no fault and the bridge as persisted, a reconciliation succeeds when the store admits
both resources of the bridge. -/
theorem configureMetalLB_ok_of_admits {bridge : DPFHCPBridge} {s : Session}
    (hf : ∀ i, s.faults i = none) (hp : s.store.bridges bridge.key = some bridge)
    (hpool : Admits ipAddressPool bridge s.store) (hadv : Admits l2Advertisement bridge s.store) :
    (configureMetalLB bridge s).1.2.1 = none := by
  have run := configureMetalLB_run bridge s
  generalize configureMetalLB bridge s = o at run ⊢
  obtain ⟨out, s'⟩ := o
  cases run with
  | skipped => rfl
  | poolFailed _ pool => cases pool.ok_of_admits hf hpool
  | advertisementFailed _ pool adv =>
    have c₁ := EnsureRun.confined _ _ pool
    cases adv.ok_of_admits (c₁.faults ▸ hf)
      (hadv.of_agree c₁.installed (c₁.objects _ (ipAddressPool_ref_ne bridge bridge).symm))
  | configured _ pool adv cond =>
    have c₁ := EnsureRun.confined _ _ pool
    have c₂ := EnsureRun.confined _ _ adv
    exact cond.ok (by rw [c₂.faults, c₁.faults]; exact hf) (by rw [c₂.bridges, c₁.bridges]; exact hp)

/-- With no fault and the bridge as persisted, `configureMetalLB` succeeds exactly when it skips
the bridge or the store admits both of its resources: it fails only on a kind that is not
installed or on an object of another owner under one of the two names. -/
theorem configureMetalLB_succeeds_iff (bridge : DPFHCPBridge) (s : Session)
    (hf : ∀ i, s.faults i = none) (hp : s.store.bridges bridge.key = some bridge) :
    (configureMetalLB bridge s).1.2.1 = none ↔
      bridge.shouldExposeThroughLoadBalancer = false ∨
        Admits ipAddressPool bridge s.store ∧ Admits l2Advertisement bridge s.store := by
  refine ⟨fun hok => ?_, ?_⟩
  · have run := configureMetalLB_run bridge s
    generalize configureMetalLB bridge s = o at run hok
    obtain ⟨out, s'⟩ := o
    cases run with
    | skipped h => exact .inl h
    | poolFailed | advertisementFailed => cases hok
    | configured _ pool adv =>
      have c₁ := EnsureRun.confined _ _ pool
      exact .inr ⟨pool.admits, adv.admits.of_agree c₁.installed.symm
        (c₁.objects _ (ipAddressPool_ref_ne bridge bridge).symm).symm⟩
  · rintro (h | ⟨hpool, hadv⟩)
    · simp [configureMetalLB, h]
    · exact configureMetalLB_ok_of_admits hf hp hpool hadv

theorem configureMetalLB_succeeds_iff_sample :
    (∀ i, sampleSession.faults i = none) ∧
      sampleSession.store.bridges sampleBridge.key = some { sampleBridge with resourceVersion := 1 } ∧
      ((configureMetalLB { sampleBridge with resourceVersion := 1 } sampleSession).1.2.1 = none ↔
        sampleBridge.shouldExposeThroughLoadBalancer = false ∨
          Admits ipAddressPool { sampleBridge with resourceVersion := 1 } sampleSession.store ∧
            Admits l2Advertisement { sampleBridge with resourceVersion := 1 } sampleSession.store) :=
  ⟨fun _ => rfl, by decide, configureMetalLB_succeeds_iff _ _ (fun _ => rfl) (by decide)⟩

end DpfHcpBridge.MetalLB
