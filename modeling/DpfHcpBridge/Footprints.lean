import DpfHcpBridge.MetalLB.Interleaving
import DpfHcpBridge.HostedCluster.Convergence

/-!
# What each controller invocation leaves in place

`ConfigureMetalLB` creates an IPAddressPool and an L2Advertisement in `openshift-operators` for a
bridge that asks for LoadBalancer exposure. The builders mark them with the two ownership labels
and give them no owner reference, and `HandleFinalizerCleanup` deletes the HostedCluster, the
NodePool and the three derived secrets named after its bridge, nothing else. Two consequences
hold over every interleaving of the two controllers: the MetalLB objects stay behind when their
bridge is torn down, and the teardown of one bridge never touches what another bridge's teardown
deletes.

`ObjectsKept touched st st'` says that every object outside `touched` is as it was. One `Delete`
keeps every object but its target (`objectsKept_of_deleteAnswer`), a status write keeps every
object (`objects_of_statusAnswer`), and from these each run relation of the teardown keeps every
object outside the references it works on (`DeleteRun.objectsKept`, `SecretsRun.objectsKept`,
`ChainRun.objectsKept`); a whole invocation, whatever its calls answer, keeps every object outside
`cleanupRefs` (`handleFinalizerCleanup_objectsKept`). On the MetalLB side, what an invocation of
`configureMetalLB` does is one engine write of its bridge (`configureMetalLB_engineWrite`): it
removes nothing, rewrites only the spec of what it finds, and changes nothing outside its
bridge's IPAddressPool and L2Advertisement references (`EngineWrite.keeps`,
`EngineWrite.objectsKept`).

`ControllerRun` interleaves invocations of both controllers, for any bridges, each handed any copy
and answered with any failures, with the cluster completing the deletions it was asked for
(`finishDeletions`). Along every such run, an unmarked object under an IPAddressPool or
L2Advertisement reference stays, with its name, namespace, labels, owner references, finalizers
and deletion mark as they were (`metalLB_objects_outlive`).

The names of the derived secrets end in `-pull-secret`, `-ssh-key` and `-etcd-encryption-key`,
and none of these ends another, so two bridges share a secret name only when they share their
name (`secretNames_disjoint`), and distinct bridges have disjoint `cleanupRefs`
(`cleanupRefs_disjoint`). Along every `OthersRun`, a `ControllerRun` whose teardowns are of other
bridges than the one under `key`, every reference that bridge's teardown works on holds what it
held, when that was nothing or an unmarked object (`teardowns_isolated`).

Scope. The removal of the bridge itself, once the caller drops its finalizer, is not a step of
`ControllerRun`: no modelled function reads the bridge during the teardown's deletions of
dependents, and the MetalLB objects are not among what it deletes whether or not the bridge is
still stored. Writers other than the two controllers and the cluster's garbage collection of
marked objects are left out: the statements are about what this code does.
-/

set_option autoImplicit false
set_option relaxedAutoImplicit false

namespace DpfHcpBridge

open HostedCluster MetalLB

/-! ### Objects outside a set of references -/

/-- Every object outside `touched` is as it was. -/
def ObjectsKept (touched : ObjectRef → Prop) (st st' : Store) : Prop :=
  ∀ r, ¬ touched r → st'.objects r = st.objects r

theorem ObjectsKept.refl (touched : ObjectRef → Prop) (st : Store) : ObjectsKept touched st st :=
  fun _ _ => rfl

theorem ObjectsKept.trans {touched : ObjectRef → Prop} {st₁ st₂ st₃ : Store}
    (h₁ : ObjectsKept touched st₁ st₂) (h₂ : ObjectsKept touched st₂ st₃) :
    ObjectsKept touched st₁ st₃ :=
  fun r hr => (h₂ r hr).trans (h₁ r hr)

theorem ObjectsKept.mono {touched touched' : ObjectRef → Prop} {st st' : Store}
    (h : ObjectsKept touched st st') (hmono : ∀ r, touched r → touched' r) :
    ObjectsKept touched' st st' :=
  fun r hr => h r fun ht => hr (hmono r ht)

theorem ObjectsKept.of_objects {touched : ObjectRef → Prop} {st st' : Store}
    (h : st'.objects = st.objects) : ObjectsKept touched st st' :=
  fun r _ => congrFun h r

/-- A `Delete` the store served keeps every object but the one it names. -/
theorem objectsKept_of_deleteAnswer {s : Session} {kind : Kind} {obj : Object} {store : Store}
    (ha : s.deleteAnswer kind obj = .ok (store, ())) :
    ObjectsKept (· = obj.ref kind) s.store store :=
  fun r hr => (Store.delete_frame (Session.answer_write_eq_ok s ha).2).2.2.1 r hr

/-- A status write the store served keeps every object. -/
theorem objects_of_statusAnswer {s : Session} {bridge stored : DPFHCPBridge} {store : Store}
    (ha : s.statusAnswer bridge = .ok (store, stored)) : store.objects = s.store.objects := by
  obtain ⟨-, current, -, -, -, rfl, -⟩ := Session.statusAnswer_eq_ok s ha
  rfl

/-! ### The teardown works on its dependents only -/

theorem HostedCluster.DeleteRun.objectsKept {cr : DPFHCPBridge} {kind : Kind}
    {resourceKind : String} {s s' : Session} {out : Except String Bool}
    (run : DeleteRun cr kind resourceKind s out s') :
    ObjectsKept (· = dependentRef cr kind) s.store s'.store := by
  cases run with
  | deleted hg _ ha =>
    have h := objectsKept_of_deleteAnswer ha
    rw [ref_of_got hg] at h
    exact h
  | gone | getFailed | marked | deleteGone | deleteFailed => exact ObjectsKept.refl _ _

theorem HostedCluster.SecretRun.objectsKept {ns secretName : String} {s s' : Session}
    {out : Option String} (run : SecretRun ns secretName s out s') :
    ObjectsKept (· = secretRef ns secretName) s.store s'.store := by
  cases run with
  | deleted hg ha =>
    have h := objectsKept_of_deleteAnswer ha
    rw [ref_of_got hg] at h
    exact h
  | gone | getFailed | deleteGone | deleteFailed => exact ObjectsKept.refl _ _

theorem HostedCluster.SecretsRun.objectsKept {ns : String} {names : List String}
    {s s' : Session} {out : Option String} (run : SecretsRun ns names s out s') :
    ObjectsKept (fun r => ∃ name ∈ names, r = secretRef ns name) s.store s'.store := by
  induction run with
  | nil s => exact ObjectsKept.refl _ _
  | stop run => exact run.objectsKept.mono fun r h => ⟨_, List.mem_cons_self _ _, h⟩
  | next run _ ih =>
    exact (run.objectsKept.mono fun r h => ⟨_, List.mem_cons_self _ _, h⟩).trans
      (ih.mono fun r ⟨name, hname, h⟩ => ⟨name, List.mem_cons_of_mem _ hname, h⟩)

theorem HostedCluster.ChainRun.objectsKept {cr : DPFHCPBridge} {now : Int} {s s' : Session}
    {out : Result × Option String × DPFHCPBridge} (run : ChainRun cr now s out s') :
    ObjectsKept (· ∈ cleanupRefs cr) s.store s'.store := by
  have hhc : ∀ r, r = dependentRef cr .hostedCluster → r ∈ cleanupRefs cr := by
    rintro r rfl
    exact List.mem_cons_self _ _
  have hnp : ∀ r, r = dependentRef cr .nodePool → r ∈ cleanupRefs cr := by
    rintro r rfl
    exact List.mem_cons_of_mem _ (List.mem_cons_self _ _)
  have hsec : ∀ r, (∃ name ∈ secretNames cr, r = secretRef cr.ns name) → r ∈ cleanupRefs cr := by
    rintro r ⟨name, hname, rfl⟩
    exact List.mem_cons_of_mem _ (List.mem_cons_of_mem _ (List.mem_map_of_mem _ hname))
  cases run with
  | hostedClusterFailed hc | hostedClusterWaiting hc => exact hc.objectsKept.mono hhc
  | nodePoolFailed hc np | nodePoolWaiting hc np =>
    exact (hc.objectsKept.mono hhc).trans (np.objectsKept.mono hnp)
  | secretsFailed hc np secrets | writeFailed hc np secrets =>
    exact ((hc.objectsKept.mono hhc).trans (np.objectsKept.mono hnp)).trans
      (secrets.objectsKept.mono hsec)
  | written hc np secrets ha =>
    exact (((hc.objectsKept.mono hhc).trans (np.objectsKept.mono hnp)).trans
      (secrets.objectsKept.mono hsec)).trans (.of_objects (objects_of_statusAnswer ha))

theorem cleanupRefs_of_key {b cr : DPFHCPBridge} (h : b.key = cr.key) :
    cleanupRefs b = cleanupRefs cr := by
  simp only [DPFHCPBridge.key, Prod.mk.injEq] at h
  simp [cleanupRefs, dependentRef, secretNames, h.1, h.2]

/-- Whatever its calls answer, an invocation of the teardown keeps every object but its
HostedCluster, its NodePool and its three derived secrets. -/
theorem handleFinalizerCleanup_objectsKept (cr : DPFHCPBridge) (s : Session) :
    ObjectsKept (· ∈ cleanupRefs cr) s.store (handleFinalizerCleanup cr s).2.store := by
  have run := handleFinalizerCleanup_run cr s
  generalize handleFinalizerCleanup cr s = res at run ⊢
  obtain ⟨out, s'⟩ := res
  cases run with
  | inProgressFailed => exact ObjectsKept.refl _ _
  | noTimestamp ha | timedOutWriteFailed ha => exact .of_objects (objects_of_statusAnswer ha)
  | timedOutWritten ha _ _ ha₂ =>
    exact ObjectsKept.of_objects
      ((objects_of_statusAnswer ha₂).trans (objects_of_statusAnswer ha))
  | proceeded ha _ _ chain =>
    obtain ⟨-, current, -, hkey, -, -, rfl⟩ := Session.statusAnswer_eq_ok s ha
    refine (ObjectsKept.of_objects (objects_of_statusAnswer ha)).trans
      (chain.objectsKept.mono fun r h => ?_)
    change r ∈ cleanupRefs current at h
    rwa [cleanupRefs_of_key (hkey.trans (markInProgress_key cr s.clock))] at h

theorem kind_of_mem_cleanupRefs {cr : DPFHCPBridge} {r : ObjectRef} (h : r ∈ cleanupRefs cr) :
    r.kind = .hostedCluster ∨ r.kind = .nodePool ∨ r.kind = .secret := by
  simp only [cleanupRefs, List.mem_cons, List.mem_map] at h
  rcases h with rfl | rfl | ⟨name, -, rfl⟩
  · exact .inl rfl
  · exact .inr (.inl rfl)
  · exact .inr (.inr rfl)

/-! ### The MetalLB manager removes nothing and stays on its own objects -/

/-- An engine write leaves every object it finds in place, with its metadata. -/
theorem MetalLB.EngineWrite.keeps {b : DPFHCPBridge} {st st' : Store} (h : EngineWrite b st st')
    {r : ObjectRef} {o : Object} (ho : st.objects r = some o) :
    ∃ o', st'.objects r = some o' ∧ o'.metadata = o.metadata := by
  by_cases hr : st'.objects r = st.objects r
  · exact ⟨o, hr.trans ho, rfl⟩
  obtain ⟨-, o', ho', hnew | ⟨o₀, ho₀, -, hmeta⟩⟩ := h r hr
  · rw [ho] at hnew
    cases hnew.1
  · rw [ho] at ho₀
    cases ho₀
    exact ⟨o', ho', hmeta⟩

/-- An engine write changes no object outside its bridge's IPAddressPool and L2Advertisement. -/
theorem MetalLB.EngineWrite.objectsKept {b : DPFHCPBridge} {st st' : Store} (h : EngineWrite b st st') :
    ObjectsKept (fun r => r = ipAddressPool.ref b ∨ r = l2Advertisement.ref b) st st' :=
  fun r hr => Classical.byContradiction fun hne => hr (h r hne).1

/-! ### Runs of both controllers -/

/-- Runs of the two controllers and of the cluster: invocations of `ConfigureMetalLB` and of
`HandleFinalizerCleanup`, for any bridges, each handed any copy and answered with any failures,
and the cluster completing every deletion it was asked for. -/
inductive ControllerRun : Store → Store → Prop
  | stop (st : Store) : ControllerRun st st
  | configure {st st' : Store} (bridge : DPFHCPBridge) (s : Session) (hs : s.store = st)
      (rest : ControllerRun (configureMetalLB bridge s).2.store st') : ControllerRun st st'
  | teardown {st st' : Store} (cr : DPFHCPBridge) (s : Session) (hs : s.store = st)
      (rest : ControllerRun (handleFinalizerCleanup cr s).2.store st') : ControllerRun st st'
  | finish {st st' : Store} (rest : ControllerRun (finishDeletions st) st') : ControllerRun st st'

/-- Along every run of both controllers and of the cluster completing deletions, an unmarked
object under an IPAddressPool or L2Advertisement reference stays, with its metadata. -/
theorem metalLB_objects_outlive {st st' : Store} (run : ControllerRun st st') {r : ObjectRef}
    {o : Object} (hkind : r.kind = .ipAddressPool ∨ r.kind = .l2Advertisement)
    (ho : st.objects r = some o) (hlive : o.deletionTimestamp = none) :
    ∃ o', st'.objects r = some o' ∧ o'.metadata = o.metadata := by
  induction run generalizing o with
  | stop st => exact ⟨o, ho, rfl⟩
  | configure bridge s hs _ ih =>
    subst hs
    obtain ⟨o₁, ho₁, hmeta₁⟩ := (configureMetalLB_engineWrite bridge s).keeps ho
    have hlive₁ : o₁.deletionTimestamp = none := by
      simpa [Object.metadata, hlive] using congrArg (·.2.2.2.2.2.2) hmeta₁
    obtain ⟨o', ho', hmeta'⟩ := ih ho₁ hlive₁
    exact ⟨o', ho', hmeta'.trans hmeta₁⟩
  | teardown cr s hs _ ih =>
    subst hs
    have hout : r ∉ cleanupRefs cr := fun hmem => by
      rcases kind_of_mem_cleanupRefs hmem with h | h | h <;> rcases hkind with h' | h' <;>
        rw [h] at h' <;> cases h'
    exact ih ((handleFinalizerCleanup_objectsKept cr s r hout).trans ho) hlive
  | finish _ ih =>
    exact ih (by simp [finishDeletions, ho, Option.filter, hlive]) hlive

/-- `heldDependentsStore` with the bridge's IPAddressPool, as a first `ConfigureMetalLB` left it. -/
def orphanStore : Store :=
  heldDependentsStore.put .ipAddressPool (buildIPAddressPool deletingBridge)

/-- The bridge as `st` persists it. -/
def persistedDeleting (st : Store) : DPFHCPBridge :=
  (st.bridges deletingBridge.key).getD deletingBridge

/-- After a `ConfigureMetalLB` on `orphanStore`, handed the bridge as persisted. -/
def configuredStore : Store :=
  (configureMetalLB (persistedDeleting orphanStore) (quietSession orphanStore minute)).2.store

/-- After a teardown invocation at `now` on `st`, handed the bridge as persisted. -/
def tornDown (st : Store) (now : Int) : Store :=
  (handleFinalizerCleanup (persistedDeleting st) (quietSession st now)).2.store

/-- The teardown at two minutes, after the `ConfigureMetalLB`. -/
def tornOnce : Store := tornDown configuredStore (2 * minute)

/-- The teardown at three minutes, once the cluster finished the deletions asked for. -/
def tornTwice : Store := tornDown (finishDeletions tornOnce) (3 * minute)

/-- Both controllers from `orphanStore`: a `ConfigureMetalLB`, then three invocations of the
teardown a minute apart with the cluster finishing deletions in between. -/
def tornDownStore : Store := tornDown (finishDeletions tornTwice) (4 * minute)

theorem metalLB_objects_outlive_teardown :
    ∃ o', tornDownStore.objects (ipAddressPool.ref deletingBridge) = some o' ∧
      o'.metadata = (buildIPAddressPool deletingBridge).metadata :=
  metalLB_objects_outlive
    (.configure (persistedDeleting orphanStore) (quietSession orphanStore minute) rfl
      (.teardown (persistedDeleting configuredStore) (quietSession configuredStore (2 * minute)) rfl
        (.finish (.teardown (persistedDeleting (finishDeletions tornOnce))
          (quietSession (finishDeletions tornOnce) (3 * minute)) rfl
          (.finish (.teardown (persistedDeleting (finishDeletions tornTwice))
            (quietSession (finishDeletions tornTwice) (4 * minute)) rfl (.stop tornDownStore)))))))
    (o := { buildIPAddressPool deletingBridge with resourceVersion := heldDependentsStore.revision })
    (.inl rfl) (by simp only [quietSession, orphanStore, Store.put]; exact Function.update_same _ _ _)
    rfl

/-! ### Teardowns of distinct bridges are isolated -/

/-- Two texts that end one equal text end one another. -/
theorem suffix_cases_of_append_eq {x y s t : String} (h : x ++ s = y ++ t) :
    s.data <:+ t.data ∨ t.data <:+ s.data := by
  have hdata : x.data ++ s.data = y.data ++ t.data := congrArg String.data h
  exact List.suffix_or_suffix_of_suffix (List.suffix_append x.data s.data)
    (hdata ▸ List.suffix_append y.data t.data)

/-- Bridges of different names share no derived secret name: none of the three suffixes ends
another. -/
theorem secretNames_disjoint {a b : DPFHCPBridge} (h : a.name ≠ b.name) {n : String}
    (ha : n ∈ secretNames a) (hb : n ∈ secretNames b) : False := by
  simp only [secretNames, List.mem_cons, List.mem_singleton, List.not_mem_nil, or_false] at ha hb
  rcases ha with rfl | rfl | rfl <;> rcases hb with hb | hb | hb <;>
    first
    | exact h (String.ext (List.append_cancel_right (congrArg String.data hb)))
    | exact (suffix_cases_of_append_eq hb).elim (by decide) (by decide)

/-- Distinct bridges' teardowns work on disjoint references. -/
theorem cleanupRefs_disjoint {a b : DPFHCPBridge} (h : a.key ≠ b.key) {r : ObjectRef}
    (ha : r ∈ cleanupRefs a) (hb : r ∈ cleanupRefs b) : False := by
  have hkey : a.ns = b.ns → a.name ≠ b.name := fun hns hname =>
    h (by simp only [DPFHCPBridge.key, hns, hname])
  simp only [cleanupRefs, List.mem_cons, List.mem_map] at ha hb
  rcases ha with rfl | rfl | ⟨n, hn, rfl⟩ <;> rcases hb with hb | hb | ⟨n', hn', hb⟩ <;>
    simp only [ObjectRef.mk.injEq, reduceCtorEq, true_and, false_and] at hb
  · exact hkey hb.1 hb.2
  · exact hkey hb.1 hb.2
  · exact secretNames_disjoint (hkey hb.1.symm) hn (hb.2 ▸ hn')

/-- Runs of both controllers and of the cluster in which every teardown is of a bridge other than
the one under `key`. -/
inductive OthersRun (key : String × String) : Store → Store → Prop
  | stop (st : Store) : OthersRun key st st
  | configure {st st' : Store} (bridge : DPFHCPBridge) (s : Session) (hs : s.store = st)
      (rest : OthersRun key (configureMetalLB bridge s).2.store st') : OthersRun key st st'
  | teardown {st st' : Store} (cr : DPFHCPBridge) (s : Session) (hs : s.store = st)
      (hkey : cr.key ≠ key)
      (rest : OthersRun key (handleFinalizerCleanup cr s).2.store st') : OthersRun key st st'
  | finish {st st' : Store} (rest : OthersRun key (finishDeletions st) st') : OthersRun key st st'

/-- A step that keeps what a reference holds keeps whether that is nothing or an unmarked object. -/
theorem unmarked_of_objects {st st' : Store} {r : ObjectRef} (hkeep : st'.objects r = st.objects r)
    (hlive : ∀ o, st.objects r = some o → o.deletionTimestamp = none) :
    ∀ o, st'.objects r = some o → o.deletionTimestamp = none :=
  fun o ho => hlive o (hkeep ▸ ho)

/-- No teardown of another bridge, no `ConfigureMetalLB` and no completed deletion changes what a
reference of a bridge's teardown holds, when that is nothing or an unmarked object: along every
run in which only other bridges are torn down, each handed any copy and with any failures, the
bridge's HostedCluster, NodePool and derived secrets are as they were. -/
theorem teardowns_isolated {key : String × String} {st st' : Store} (run : OthersRun key st st')
    {b : DPFHCPBridge} (hb : b.key = key) {r : ObjectRef} (hr : r ∈ cleanupRefs b)
    (hlive : ∀ o, st.objects r = some o → o.deletionTimestamp = none) :
    st'.objects r = st.objects r := by
  induction run with
  | stop st => rfl
  | configure bridge s hs _ ih =>
    subst hs
    have hkeep := (configureMetalLB_engineWrite bridge s).objectsKept r fun hpool => by
      rcases kind_of_mem_cleanupRefs hr with h | h | h <;> rcases hpool with rfl | rfl <;> cases h
    exact (ih (unmarked_of_objects hkeep hlive)).trans hkeep
  | teardown cr s hs hkey _ ih =>
    subst hs
    have hkeep := handleFinalizerCleanup_objectsKept cr s r fun hmem =>
      cleanupRefs_disjoint (hb ▸ hkey) hmem hr
    exact (ih (unmarked_of_objects hkeep hlive)).trans hkeep
  | @finish st₀ _ _ ih =>
    have hkeep : (finishDeletions st₀).objects r = st₀.objects r := by
      cases ho : st₀.objects r with
      | none => simp [finishDeletions, ho]
      | some o => simp [finishDeletions, ho, Option.filter, hlive o ho]
    exact (ih (unmarked_of_objects hkeep hlive)).trans hkeep

/-- A second bridge in the namespace of `deletingBridge`, also being deleted. -/
def neighbourBridge : DPFHCPBridge := { deletingBridge with name := "neighbour", uid := "uid-2" }

/-- `heldDependentsStore` with `neighbourBridge` persisted beside `deletingBridge`. -/
def neighbourStore : Store := heldDependentsStore.putBridge neighbourBridge

/-- `neighbourBridge` as `neighbourStore` persists it. -/
def neighbourCopy : DPFHCPBridge := (neighbourStore.bridges neighbourBridge.key).getD neighbourBridge

theorem teardowns_isolated_neighbour :
    let st' := finishDeletions
      (handleFinalizerCleanup neighbourCopy (quietSession neighbourStore minute)).2.store
    let r := dependentRef deletingBridge .hostedCluster
    OthersRun deletingBridge.key neighbourStore st' ∧ r ∈ cleanupRefs deletingBridge ∧
      (∀ o, neighbourStore.objects r = some o → o.deletionTimestamp = none) ∧
      st'.objects r = neighbourStore.objects r :=
  have run : OthersRun deletingBridge.key neighbourStore (finishDeletions
      (handleFinalizerCleanup neighbourCopy (quietSession neighbourStore minute)).2.store) :=
    .teardown neighbourCopy (quietSession neighbourStore minute) rfl (by decide) (.finish (.stop _))
  have hr : dependentRef deletingBridge .hostedCluster ∈ cleanupRefs deletingBridge :=
    List.mem_cons_self _ _
  have hlive : ∀ o, neighbourStore.objects (dependentRef deletingBridge .hostedCluster) = some o →
      o.deletionTimestamp = none := by
    intro o ho
    simp only [neighbourStore, heldDependentsStore, Store.putBridge, Store.put] at ho
    rw [Function.update_noteq (by decide), Function.update_apply, if_pos (by decide)] at ho
    rw [← Option.some.inj ho]
    rfl
  ⟨run, hr, hlive, teardowns_isolated run rfl hr hlive⟩

end DpfHcpBridge
