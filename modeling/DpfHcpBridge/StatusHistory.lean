import DpfHcpBridge.StatusWrites

/-!
# The two controllers' conditions under stale reads

A controller writes the status from the copy of the bridge it holds, and that copy may be old: a
cache answers with any earlier version. A `History` keeps the store and every earlier state of
it, and `Read` is what a controller may hold: a version of the bridge that stood under its key
at some time. Its steps are the status writes of the two controllers from such copies
(`MetalLBWrite`, `CleanupWrite`), writes that leave the bridges alone (`ObjectWrite`), and edits
of a bridge's spec (`SpecEdit`). `History.Inv` holds of every reachable history
(`History.Reachable.inv`): a version token names one version of a bridge, since every write
stamps a token no earlier version carries.

`Status().Update` accepts a write only from the version now stored, so a write from any copy a
controller may hold either fails or is computed from the bridge as persisted. With
`status_writes_keep_other_condition`, this gives `status_writes_isolated`: whatever copy each is
given, `handleFinalizerCleanup` leaves every persisted `MetalLBConfigured` condition as it was,
and `configureMetalLB` every persisted `HostedClusterCleanup` condition.
-/

set_option autoImplicit false
set_option relaxedAutoImplicit false

namespace DpfHcpBridge

open MetalLB HostedCluster

/-! ### Histories and their steps -/

/-- The store and every earlier state of it. -/
structure History where
  store : Store
  past : List Store

/-- A history with store `st` and nothing before it. -/
def History.init (st : Store) : History := ⟨st, []⟩

/-- The store becomes `st'`; the old one joins the past. -/
def History.advance (h : History) (st' : Store) : History := ⟨st', h.store :: h.past⟩

/-- `b` stood under `key` now or at some earlier time: a copy a controller may hold. -/
def Read (h : History) (key : String × String) (b : DPFHCPBridge) : Prop :=
  ∃ st ∈ h.store :: h.past, st.bridges key = some b

theorem Read.current {h : History} {key : String × String} {b : DPFHCPBridge}
    (hb : h.store.bridges key = some b) : Read h key b :=
  ⟨h.store, List.mem_cons_self _ _, hb⟩

theorem read_advance {h : History} {st' : Store} {key : String × String} {b : DPFHCPBridge} :
    Read (h.advance st') key b ↔ st'.bridges key = some b ∨ Read h key b := by
  simp [Read, History.advance]

/-- A status write of `setCondition`, from a copy of the bridge. -/
inductive MetalLBWrite (h : History) : History → Prop
  | write {b stored : DPFHCPBridge} {status : ConditionStatus} {reason message : String}
      {now : Int} {st' : Store} (hb : Read h b.key b)
      (hs : h.store.updateStatus (conditioned b status reason message now).2 = .ok (st', stored)) :
      MetalLBWrite h (h.advance st')

/-- A status write of `handleFinalizerCleanup`, from a copy of the bridge. -/
inductive CleanupWrite (h : History) : History → Prop
  | write {b stored : DPFHCPBridge} {status : ConditionStatus} {reason message : String}
      {now : Int} {st' : Store} (hb : Read h b.key b)
      (hs : h.store.updateStatus (withCleanupCondition b status reason message now) = .ok (st', stored)) :
      CleanupWrite h (h.advance st')

/-- A write that leaves every bridge as it is: an object created, rewritten or removed. -/
inductive ObjectWrite (h : History) : History → Prop
  | write {st' : Store} (hbridges : st'.bridges = h.store.bridges)
      (hrev : h.store.revision ≤ st'.revision) : ObjectWrite h (h.advance st')

/-- An edit of a bridge's spec by its owner: a new generation, and the status as it was. -/
inductive SpecEdit (h : History) : History → Prop
  | edit {key : String × String} {current : DPFHCPBridge} (hcur : h.store.bridges key = some current)
      (spec : DPFHCPBridgeSpec) :
      SpecEdit h (h.advance (h.store.putBridge { current with
        spec := spec
        generation := current.generation + 1 }))

/-- The histories reachable from any store. -/
inductive History.Reachable : History → Prop
  | init (st : Store) : History.Reachable (History.init st)
  | metalLB {h h' : History} (hr : History.Reachable h) (hs : MetalLBWrite h h') : History.Reachable h'
  | cleanup {h h' : History} (hr : History.Reachable h) (hs : CleanupWrite h h') : History.Reachable h'
  | object {h h' : History} (hr : History.Reachable h) (hs : ObjectWrite h h') : History.Reachable h'
  | spec {h h' : History} (hr : History.Reachable h) (hs : SpecEdit h h') : History.Reachable h'

/-! ### Version tokens -/

/-- Every bridge of `st'` is one of `st` or carries a token `st` has not handed out yet. -/
def BridgesStamped (st st' : Store) : Prop :=
  st.revision ≤ st'.revision ∧
    ∀ key b, st'.bridges key = some b → st.bridges key = some b ∨ st.revision ≤ b.resourceVersion

theorem putBridge_bridgesStamped (st : Store) (b : DPFHCPBridge) :
    BridgesStamped st (st.putBridge b) := by
  refine ⟨Nat.le_succ _, fun key b' hb' => ?_⟩
  rw [Store.putBridge_bridges] at hb'
  split at hb'
  · cases hb'
    exact .inr (Nat.le_refl _)
  · exact .inl hb'

/-- What every reachable history satisfies. -/
structure History.Inv (h : History) : Prop where
  revision_le : ∀ st ∈ h.past, st.revision ≤ h.store.revision
  versions : ∀ key b b', Read h key b → Read h key b' → b.resourceVersion = b'.resourceVersion →
    b = b'

theorem History.Inv.version_lt {h : History} (hinv : h.Inv) {key : String × String}
    {b : DPFHCPBridge} (hb : Read h key b) : b.resourceVersion < h.store.revision := by
  obtain ⟨st, hst, hb⟩ := hb
  have hlt := st.bridge_version_lt key b hb
  rcases List.mem_cons.mp hst with rfl | hst
  · exact hlt
  · exact Nat.lt_of_lt_of_le hlt (hinv.revision_le st hst)

theorem History.Inv.advance {h : History} {st' : Store} (hinv : h.Inv)
    (hst : BridgesStamped h.store st') : (h.advance st').Inv := by
  have hnew : ∀ key b b', st'.bridges key = some b → Read h key b' →
      b.resourceVersion = b'.resourceVersion → Read h key b := fun key b b' hb hb' hv => by
    rcases hst.2 key b hb with hb | hle
    · exact .current hb
    · have := hinv.version_lt hb'
      omega
  refine ⟨fun st hst' => ?_, fun key b b' hb hb' hv => ?_⟩
  · rcases List.mem_cons.mp hst' with rfl | hst'
    · exact hst.1
    · exact Nat.le_trans (hinv.revision_le st hst') hst.1
  · rcases read_advance.mp hb with hb | hb <;> rcases read_advance.mp hb' with hb' | hb'
    · exact Option.some.inj (hb.symm.trans hb')
    · exact hinv.versions key b b' (hnew key b b' hb hb' hv) hb' hv
    · exact hinv.versions key b b' hb (hnew key b' b hb' hb hv.symm) hv
    · exact hinv.versions key b b' hb hb' hv

/-- A status write the store accepts stamps the bridge it writes. -/
theorem updateStatus_bridgesStamped {st st' : Store} {b stored : DPFHCPBridge}
    (hs : st.updateStatus b = .ok (st', stored)) : BridgesStamped st st' := by
  obtain ⟨-, -, -, rfl, -⟩ := Store.updateStatus_eq_ok hs
  exact putBridge_bridgesStamped _ _

theorem History.Reachable.inv {h : History} (hr : h.Reachable) : h.Inv := by
  induction hr with
  | init st =>
    refine ⟨(fun _ h => nomatch h), fun key b b' hb hb' _ => ?_⟩
    obtain ⟨_, hst, hb⟩ := hb
    obtain ⟨_, hst', hb'⟩ := hb'
    simp only [History.init, List.mem_singleton] at hst hst'
    subst hst hst'
    exact Option.some.inj (hb.symm.trans hb')
  | metalLB _ hs ih =>
    cases hs with
    | write _ hs => exact ih.advance (updateStatus_bridgesStamped hs)
  | cleanup _ hs ih =>
    cases hs with
    | write _ hs => exact ih.advance (updateStatus_bridgesStamped hs)
  | object _ hs ih =>
    cases hs with
    | write hbridges hrev => exact ih.advance ⟨hrev, fun key b hb => .inl (hbridges ▸ hb)⟩
  | spec _ hs ih =>
    cases hs with
    | edit _ _ => exact ih.advance (putBridge_bridgesStamped _ _)

/-! ### One status write -/

/-- A status write the store accepts from a copy a controller may hold was computed from the
version now stored: the copy is that version. -/
theorem History.Inv.current_of_updateStatus {h : History} (hinv : h.Inv) {st st' : Store}
    (hbridges : st.bridges = h.store.bridges) {b w stored : DPFHCPBridge} (hb : Read h b.key b)
    (hs : st.updateStatus w = .ok (st', stored)) (hkey : w.key = b.key)
    (hv : w.resourceVersion = b.resourceVersion) :
    st.bridges b.key = some b ∧ st' = st.putBridge { b with conditions := w.conditions } := by
  obtain ⟨current, hcur, hcv, rfl, -⟩ := Store.updateStatus_eq_ok hs
  rw [hkey] at hcur
  obtain rfl : current = b :=
    hinv.versions _ _ _ (.current (hbridges ▸ hcur)) hb (hcv.trans hv)
  exact ⟨hcur, rfl⟩

/-- Writing conditions that agree with those of the stored bridge off `type` keeps every
persisted condition of another type. -/
theorem find_putBridge_of_agreeOff {st : Store} {b : DPFHCPBridge} {conditions : List Condition}
    {type other : String} (hb : st.bridges b.key = some b) (hagree : AgreeOff type conditions b.conditions)
    (hne : other ≠ type) (key : String × String) :
    ((st.putBridge { b with conditions := conditions }).bridges key).bind
        (fun b => findStatusCondition b.conditions other) =
      (st.bridges key).bind fun b => findStatusCondition b.conditions other := by
  rw [Store.putBridge_bridges]
  split
  · rename_i hk
    have hk' : key = b.key := hk
    subst hk'
    simpa [hb] using hagree other hne
  · rfl

/-- A cleanup status write from the bridge as stored keeps every persisted `MetalLBConfigured`
condition. -/
theorem persistedCondition_of_cleanupWrite {st st' : Store} {b stored : DPFHCPBridge}
    {status : ConditionStatus} {reason message : String} {now : Int}
    (hb : st.bridges b.key = some b)
    (hs : st.updateStatus (withCleanupCondition b status reason message now) = .ok (st', stored))
    (key : String × String) : persistedCondition st' key = persistedCondition st key := by
  obtain ⟨current, hcur, -, rfl, -⟩ := Store.updateStatus_eq_ok hs
  obtain rfl : b = current := Option.some.inj (hb.symm.trans hcur)
  exact find_putBridge_of_agreeOff hb (agreeOff_withCleanupCondition _ _ _ _ _) (by decide) key

/-- A `setCondition` status write from the bridge as stored keeps every persisted
`HostedClusterCleanup` condition. -/
theorem persistedCleanup_of_metalLBWrite {st st' : Store} {b stored : DPFHCPBridge}
    {status : ConditionStatus} {reason message : String} {now : Int}
    (hb : st.bridges b.key = some b)
    (hs : st.updateStatus (conditioned b status reason message now).2 = .ok (st', stored))
    (key : String × String) : persistedCleanup st' key = persistedCleanup st key := by
  obtain ⟨current, hcur, -, rfl, -⟩ := Store.updateStatus_eq_ok hs
  obtain rfl : b = current := Option.some.inj (hb.symm.trans hcur)
  exact find_putBridge_of_agreeOff hb
    (agreeOff_setStatusCondition (metalLBCondition b status reason message now) b.conditions)
    (show hostedClusterCleanup ≠ metalLBConfigured by decide) key

theorem persistedCondition_of_bridges {st st' : Store} (h : st'.bridges = st.bridges)
    (key : String × String) : persistedCondition st' key = persistedCondition st key := by
  simp only [persistedCondition, h]

theorem persistedCleanup_of_bridges {st st' : Store} (h : st'.bridges = st.bridges)
    (key : String × String) : persistedCleanup st' key = persistedCleanup st key := by
  simp only [persistedCleanup, h]

/-! ### The teardown keeps the MetalLB condition -/

theorem HostedCluster.DeleteRun.bridges {cr : DPFHCPBridge} {kind : Kind} {resourceKind : String}
    {s s' : Session} {out : Except String Bool} (run : DeleteRun cr kind resourceKind s out s') :
    s'.store.bridges = s.store.bridges := by
  cases run with
  | deleted _ _ ha => exact (Store.delete_frame (Session.answer_write_eq_ok _ ha).2).2.1
  | gone | getFailed | marked | deleteGone | deleteFailed => rfl

theorem HostedCluster.SecretsRun.bridges {ns : String} {names : List String} {s s' : Session}
    {out : Option String} (run : SecretsRun ns names s out s') :
    s'.store.bridges = s.store.bridges := by
  have secret : ∀ {secretName : String} {s s' : Session} {out : Option String},
      SecretRun ns secretName s out s' → s'.store.bridges = s.store.bridges := by
    intro secretName s s' out run
    cases run with
    | deleted _ ha => exact (Store.delete_frame (Session.answer_write_eq_ok _ ha).2).2.1
    | gone | getFailed | deleteGone | deleteFailed => rfl
  induction run with
  | nil => rfl
  | stop run => exact secret run
  | next run _ ih => exact ih.trans (secret run)

/-- The dependency chain, on the bridge as stored, keeps every persisted `MetalLBConfigured`
condition. -/
theorem HostedCluster.ChainRun.keeps_metalLB {cr : DPFHCPBridge} {now : Int} {s s' : Session}
    {out : Result × Option String × DPFHCPBridge} (run : ChainRun cr now s out s')
    (hb : s.store.bridges cr.key = some cr) (key : String × String) :
    persistedCondition s'.store key = persistedCondition s.store key := by
  cases run with
  | hostedClusterFailed hc | hostedClusterWaiting hc => exact persistedCondition_of_bridges hc.bridges key
  | nodePoolFailed hc np | nodePoolWaiting hc np =>
    exact persistedCondition_of_bridges (np.bridges.trans hc.bridges) key
  | secretsFailed hc np secrets | writeFailed hc np secrets =>
    exact persistedCondition_of_bridges ((secrets.bridges.trans np.bridges).trans hc.bridges) key
  | written hc np secrets ha =>
    have hbridges := (secrets.bridges.trans np.bridges).trans hc.bridges
    obtain ⟨-, hs⟩ := Session.answer_eq_ok _ ha
    exact (persistedCondition_of_cleanupWrite (hbridges ▸ hb) hs key).trans
      (persistedCondition_of_bridges hbridges key)

/-- The bridge a status write the store accepts returns is the one it stored. -/
theorem updateStatus_stored {st st' : Store} {b stored : DPFHCPBridge}
    (hs : st.updateStatus b = .ok (st', stored)) : st'.bridges stored.key = some stored := by
  obtain ⟨current, hcur, -, rfl, rfl⟩ := Store.updateStatus_eq_ok hs
  have hkey : current.key = b.key := st.bridge_at_key _ _ hcur
  simp [Store.putBridge_bridges, DPFHCPBridge.key]

theorem handleFinalizerCleanup_keeps_metalLB {h : History} (hinv : h.Inv) {cr : DPFHCPBridge}
    {s : Session} (hbridges : s.store.bridges = h.store.bridges) (hread : Read h cr.key cr)
    (key : String × String) :
    persistedCondition (handleFinalizerCleanup cr s).2.store key = persistedCondition s.store key := by
  have run := handleFinalizerCleanup_run cr s
  generalize handleFinalizerCleanup cr s = o at run ⊢
  obtain ⟨out, s'⟩ := o
  have first : ∀ {store stored}, s.statusAnswer (markInProgress cr s.clock) = .ok (store, stored) →
      store.bridges stored.key = some stored ∧
        persistedCondition store key = persistedCondition s.store key := fun ha => by
    obtain ⟨-, hs⟩ := Session.answer_eq_ok _ ha
    obtain ⟨hb, -⟩ := hinv.current_of_updateStatus hbridges hread hs rfl rfl
    exact ⟨updateStatus_stored hs, persistedCondition_of_cleanupWrite hb hs key⟩
  cases run with
  | inProgressFailed => rfl
  | noTimestamp ha | timedOutWriteFailed ha => exact (first ha).2
  | timedOutWritten ha _ _ ha₂ =>
    obtain ⟨hstored, hfirst⟩ := first ha
    obtain ⟨-, hs⟩ := Session.answer_eq_ok _ ha₂
    exact (persistedCondition_of_cleanupWrite hstored hs key).trans hfirst
  | proceeded ha _ _ chain =>
    obtain ⟨hstored, hfirst⟩ := first ha
    exact (chain.keeps_metalLB hstored key).trans hfirst

/-! ### The MetalLB reconciliation keeps the cleanup condition -/

theorem MetalLB.ConditionRun.keeps_cleanup {h : History} (hinv : h.Inv) {bridge : DPFHCPBridge}
    {status : ConditionStatus} {reason message : String} {s s' : Session}
    {out : Option String × DPFHCPBridge} (run : ConditionRun bridge status reason message s out s')
    (hbridges : s.store.bridges = h.store.bridges) (hread : Read h bridge.key bridge)
    (key : String × String) : persistedCleanup s'.store key = persistedCleanup s.store key := by
  cases run with
  | unchanged | writeFailed => rfl
  | written _ _ hs =>
    obtain ⟨hb, -⟩ := hinv.current_of_updateStatus hbridges hread hs rfl rfl
    exact persistedCleanup_of_metalLBWrite hb hs key

theorem configureMetalLB_keeps_cleanup {h : History} (hinv : h.Inv) {bridge : DPFHCPBridge}
    {s : Session} (hbridges : s.store.bridges = h.store.bridges) (hread : Read h bridge.key bridge)
    (key : String × String) :
    persistedCleanup (configureMetalLB bridge s).2.store key = persistedCleanup s.store key := by
  have run := configureMetalLB_run bridge s
  generalize configureMetalLB bridge s = o at run ⊢
  obtain ⟨out, s'⟩ := o
  cases run with
  | skipped => rfl
  | poolFailed _ pool cond =>
    have c₁ := EnsureRun.confined _ _ pool
    exact (cond.keeps_cleanup hinv (c₁.bridges.trans hbridges) hread key).trans
      (persistedCleanup_of_bridges c₁.bridges key)
  | advertisementFailed _ pool adv cond | configured _ pool adv cond =>
    have c₁ := EnsureRun.confined _ _ pool
    have c₂ := EnsureRun.confined _ _ adv
    exact (cond.keeps_cleanup hinv ((c₂.bridges.trans c₁.bridges).trans hbridges) hread key).trans
      (persistedCleanup_of_bridges (c₂.bridges.trans c₁.bridges) key)

/-! ### Both controllers -/

theorem status_writes_isolated {h : History} (hr : h.Reachable) :
    (∀ (cr : DPFHCPBridge) (s : Session), s.store.bridges = h.store.bridges → Read h cr.key cr →
      ∀ key, persistedCondition (handleFinalizerCleanup cr s).2.store key =
        persistedCondition s.store key) ∧
    (∀ (bridge : DPFHCPBridge) (s : Session), s.store.bridges = h.store.bridges →
      Read h bridge.key bridge →
      ∀ key, persistedCleanup (configureMetalLB bridge s).2.store key = persistedCleanup s.store key) :=
  ⟨fun _ _ hbridges hread => handleFinalizerCleanup_keeps_metalLB hr.inv hbridges hread,
    fun _ _ hbridges hread => configureMetalLB_keeps_cleanup hr.inv hbridges hread⟩

/-! ### A stale copy -/

/-- `sampleBridge` as `sampleSession` stores it. -/
def staleBridge : DPFHCPBridge := { sampleBridge with resourceVersion := 1 }

/-- The owner of `sampleBridge` moved its virtual IP after `sampleSession`: `staleBridge` is now
an old copy. -/
def editedHistory : History :=
  (History.init sampleSession.store).advance (sampleSession.store.putBridge { staleBridge with
    spec := { staleBridge.spec with virtualIP := "10.0.0.6" }
    generation := staleBridge.generation + 1 })

/-- `sampleSession` against the store of `editedHistory`. -/
def editedSession : Session := { sampleSession with store := editedHistory.store }

theorem editedHistory_reachable : editedHistory.Reachable :=
  .spec (.init _) (@SpecEdit.edit _ staleBridge.key staleBridge (by decide) _)

theorem read_staleBridge : Read editedHistory staleBridge.key staleBridge :=
  ⟨sampleSession.store, List.mem_cons_of_mem _ (List.mem_singleton_self _), by decide⟩

/-- `sampleBridge` as `sampleSession` stores it, then edited to a new virtual IP: both
controllers, handed the copy from before the edit, keep the other's condition. -/
theorem status_writes_isolated_stale :
    let stale : DPFHCPBridge := { sampleBridge with resourceVersion := 1 }
    let edited := sampleSession.store.putBridge { stale with
      spec := { stale.spec with virtualIP := "10.0.0.6" }
      generation := stale.generation + 1 }
    let h := (History.init sampleSession.store).advance edited
    let s := { sampleSession with store := edited }
    h.Reachable ∧ Read h stale.key stale ∧
      (∀ key, persistedCondition (handleFinalizerCleanup stale s).2.store key =
        persistedCondition s.store key) ∧
      ∀ key, persistedCleanup (configureMetalLB stale s).2.store key = persistedCleanup s.store key :=
  ⟨editedHistory_reachable, read_staleBridge,
    (status_writes_isolated editedHistory_reachable).1 _ editedSession rfl read_staleBridge,
    (status_writes_isolated editedHistory_reachable).2 _ editedSession rfl read_staleBridge⟩

end DpfHcpBridge
