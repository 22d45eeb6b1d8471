import Mathlib.Data.List.Chain
import DpfHcpBridge.StatusHistory

/-!
# Invocations as runs of writes, and the condition lists they keep

`StatusHistory` takes the store one write at a time. An invocation of either controller makes
several calls, and each call that changes the store is one write: a `Delete`, `Create` or
`Update` is an object write, and a `Status().Update` the store accepts is a status write of that
controller. A status write of the teardown sets the cleanup condition on the copy it was handed or
on the bridge the store holds under its key, which is the one an earlier write of the invocation
answered with (`TeardownWrite`); one of the MetalLB reconciliation sets the MetalLB condition on
the copy it was handed (`ReconcileWrite`). `invocations_replayed` says that every store an
invocation leaves is the end of such a run of writes (`History.Steps`), for every copy handed and
every pattern of failed calls. Handed a copy a controller may hold, each of these status writes
is a write of the history (`TeardownWrite.cleanup`, `ReconcileWrite.metalLB`), so whatever holds
of reachable histories holds of any interleaving of whole invocations with other writers.

The conditions of a persisted bridge keep the shape `SetStatusCondition` gives them
(`persisted_conditions_in_place`). From a store whose bridges hold at most one condition of each
type (`WellConditioned`), every store of a reachable history holds at most one too, every write
keeps the last transition time of each condition whose status it keeps (`TransitionsKeptIn`),
and the store an invocation of either controller leaves holds at most one condition of each type.

Scope. The transition time is kept by each write, not by a whole invocation: over a
`CleanupSucceeded` condition, the teardown writes `CleanupInProgress` (False) and then
`CleanupSucceeded` (True), so the status ends as it started and the time has moved.
-/

set_option autoImplicit false
set_option relaxedAutoImplicit false

namespace DpfHcpBridge

open MetalLB HostedCluster

/-! ### Runs of writes -/

/-- A status write of `handleFinalizerCleanup` handed `cr`: the cleanup condition set on `cr`
itself, or on the bridge the store holds under its key, which is the one an earlier write of the
invocation answered with. -/
inductive TeardownWrite (cr : DPFHCPBridge) (h : History) (st' : Store) : Prop
  | handed {stored : DPFHCPBridge} {status : ConditionStatus} {reason message : String} {now : Int}
      (hs : h.store.updateStatus (withCleanupCondition cr status reason message now) = .ok (st', stored))
  | current {b stored : DPFHCPBridge} {status : ConditionStatus} {reason message : String}
      {now : Int} (hb : h.store.bridges cr.key = some b)
      (hs : h.store.updateStatus (withCleanupCondition b status reason message now) = .ok (st', stored))

/-- A status write of `configureMetalLB` handed `bridge`: the MetalLB condition set on that copy. -/
inductive ReconcileWrite (bridge : DPFHCPBridge) (h : History) (st' : Store) : Prop
  | handed {stored : DPFHCPBridge} {status : ConditionStatus} {reason message : String} {now : Int}
      (hs : h.store.updateStatus (conditioned bridge status reason message now).2 = .ok (st', stored))

/-- Runs of the writes one invocation makes, one after another: status writes `write` of its
controller and object writes. -/
inductive History.Steps (write : History → Store → Prop) : History → History → Prop
  | refl (h : History) : History.Steps write h h
  | status {h h₂ : History} {st' : Store} (hs : write h st')
      (rest : History.Steps write (h.advance st') h₂) : History.Steps write h h₂
  | object {h h₁ h₂ : History} (hs : ObjectWrite h h₁) (rest : History.Steps write h₁ h₂) :
      History.Steps write h h₂

theorem Read.advance {h : History} {key : String × String} {b : DPFHCPBridge} (hb : Read h key b)
    (st' : Store) : Read (h.advance st') key b :=
  read_advance.mpr (.inr hb)

/-- Handed a copy it may hold, the teardown's status write is one of the history's. -/
theorem TeardownWrite.cleanup {cr : DPFHCPBridge} {h : History} {st' : Store}
    (hw : TeardownWrite cr h st') (hread : Read h cr.key cr) : CleanupWrite h (h.advance st') := by
  cases hw with
  | handed hs => exact .write hread hs
  | current hb hs => exact .write (.current (by rw [h.store.bridge_at_key _ _ hb]; exact hb)) hs

/-- Handed a copy it may hold, the reconciliation's status write is one of the history's. -/
theorem ReconcileWrite.metalLB {bridge : DPFHCPBridge} {h : History} {st' : Store}
    (hw : ReconcileWrite bridge h st') (hread : Read h bridge.key bridge) :
    MetalLBWrite h (h.advance st') := by
  cases hw with
  | handed hs => exact .write hread hs

namespace History

/-- The store a history started from. -/
def origin (h : History) : Store :=
  (h.store :: h.past).getLast (List.cons_ne_nil _ _)

@[simp] theorem origin_advance (h : History) (st' : Store) : (h.advance st').origin = h.origin :=
  rfl

section Steps

variable {write : History → Store → Prop}

theorem Steps.trans {h₁ h₂ h₃ : History} (a : h₁.Steps write h₂) (b : h₂.Steps write h₃) :
    h₁.Steps write h₃ := by
  induction a with
  | refl => exact b
  | status hs _ ih => exact .status hs (ih b)
  | object hs _ ih => exact .object hs (ih b)

/-- A copy that could be read before a run can still be read after it. -/
theorem Steps.read {h h' : History} (hs : h.Steps write h') {key : String × String}
    {b : DPFHCPBridge} (hb : Read h key b) : Read h' key b := by
  induction hs with
  | refl => exact hb
  | status _ _ ih => exact ih (hb.advance _)
  | object hs _ ih => cases hs; exact ih (hb.advance _)

theorem Steps.origin {h h' : History} (hs : h.Steps write h') : h'.origin = h.origin := by
  induction hs with
  | refl => rfl
  | status _ _ ih => exact ih
  | object hs _ ih => cases hs; exact ih

/-- A run from a reachable history, handed a copy it may hold, whose status writes from
reachable histories are writes of the history, ends in a reachable history. -/
theorem Reachable.steps {key : String × String} {b : DPFHCPBridge}
    (hw : ∀ {h : History} {st' : Store}, h.Reachable → Read h key b → write h st' →
      (h.advance st').Reachable)
    {h h' : History} (hr : h.Reachable) (hb : Read h key b) (hs : h.Steps write h') :
    h'.Reachable := by
  induction hs with
  | refl => exact hr
  | status hs _ ih => exact ih (hw hr hb hs) (hb.advance _)
  | object hs _ ih => exact ih (.object hr hs) (by cases hs; exact hb.advance _)

end Steps

/-- Some run of writes from `h`, with status writes `write`, ends with the store `st`. -/
def Replays (write : History → Store → Prop) (h : History) (st : Store) : Prop :=
  ∃ h', h.Steps write h' ∧ h'.store = st

end History

section Replayed

variable {write : History → Store → Prop}

/-- From every history whose store is that of `s`, some run of writes ends with the store of
`s'`. -/
def Replayed (write : History → Store → Prop) (s s' : Session) : Prop :=
  ∀ h : History, h.store = s.store → h.Replays write s'.store

theorem Replayed.of_store {s s' : Session} (hst : s'.store = s.store) : Replayed write s s' :=
  fun h hs => ⟨h, .refl _, hs.trans hst.symm⟩

theorem Replayed.trans {s₁ s₂ s₃ : Session} (a : Replayed write s₁ s₂) (b : Replayed write s₂ s₃) :
    Replayed write s₁ s₃ := by
  intro h hs
  obtain ⟨h₂, steps₂, hs₂⟩ := a h hs
  obtain ⟨h₃, steps₃, hs₃⟩ := b h₂ hs₂
  exact ⟨h₃, steps₂.trans steps₃, hs₃⟩

/-- A call that leaves every bridge and hands out no old token is one object write. -/
theorem Replayed.of_objectWrite {s s' : Session} (hbridges : s'.store.bridges = s.store.bridges)
    (hrev : s.store.revision ≤ s'.store.revision) : Replayed write s s' := fun h hs =>
  ⟨h.advance s'.store, .object (.write (by rw [hs]; exact hbridges) (by rw [hs]; exact hrev))
    (.refl _), rfl⟩

end Replayed

/-- The bridge a status write the store accepts returns is stored under the key of the bridge
written. -/
theorem updateStatus_stored_key {st st' : Store} {b stored : DPFHCPBridge}
    (hs : st.updateStatus b = .ok (st', stored)) : stored.key = b.key := by
  obtain ⟨current, hcur, -, -, rfl⟩ := Store.updateStatus_eq_ok hs
  exact st.bridge_at_key b.key current hcur

/-! ### The teardown as a run of writes -/

theorem HostedCluster.DeleteRun.replayed {write : History → Store → Prop} {cr : DPFHCPBridge}
    {kind : Kind} {resourceKind : String} {s s' : Session} {out : Except String Bool}
    (run : DeleteRun cr kind resourceKind s out s') : Replayed write s s' := by
  cases run with
  | deleted _ _ ha =>
    have hdel := (Session.answer_write_eq_ok _ ha).2
    exact .of_objectWrite (Store.delete_frame hdel).2.1 (Store.delete_revision_le hdel)
  | gone | getFailed | marked | deleteGone | deleteFailed => exact .of_store rfl

theorem HostedCluster.SecretsRun.replayed {write : History → Store → Prop} {ns : String}
    {names : List String} {s s' : Session} {out : Option String} (run : SecretsRun ns names s out s') :
    Replayed write s s' := by
  have secret : ∀ {secretName : String} {s s' : Session} {out : Option String},
      SecretRun ns secretName s out s' → Replayed write s s' := by
    intro secretName s s' out run
    cases run with
    | deleted _ ha =>
      have hdel := (Session.answer_write_eq_ok _ ha).2
      exact .of_objectWrite (Store.delete_frame hdel).2.1 (Store.delete_revision_le hdel)
    | gone | getFailed | deleteGone | deleteFailed => exact .of_store rfl
  induction run with
  | nil => exact .of_store rfl
  | stop run => exact secret run
  | next run _ ih => exact (secret run).trans ih

/-- The dependency chain, on the bridge stored under the key of `cr₀`: its one status write is
from that bridge. -/
theorem HostedCluster.ChainRun.replayed {cr₀ cr : DPFHCPBridge} {now : Int} {s s' : Session}
    {out : Result × Option String × DPFHCPBridge} (run : ChainRun cr now s out s')
    (hb : s.store.bridges cr₀.key = some cr) : Replayed (TeardownWrite cr₀) s s' := by
  cases run with
  | hostedClusterFailed hc | hostedClusterWaiting hc => exact hc.replayed
  | nodePoolFailed hc np | nodePoolWaiting hc np => exact hc.replayed.trans np.replayed
  | secretsFailed hc np secrets => exact (hc.replayed.trans np.replayed).trans secrets.replayed
  | writeFailed hc np secrets =>
    exact ((hc.replayed.trans np.replayed).trans secrets.replayed).trans (.of_store rfl)
  | written hc np secrets ha =>
    have hbridges := (secrets.bridges.trans np.bridges).trans hc.bridges
    refine ((hc.replayed.trans np.replayed).trans secrets.replayed).trans fun h hs => ?_
    obtain ⟨-, hw⟩ := Session.answer_eq_ok _ ha
    exact ⟨_, .status (.current (by rw [hs, hbridges]; exact hb) (hs ▸ hw)) (.refl _), rfl⟩

theorem handleFinalizerCleanup_replayed {h : History} {cr : DPFHCPBridge} {s : Session}
    (hs : h.store = s.store) : h.Replays (TeardownWrite cr) (handleFinalizerCleanup cr s).2.store := by
  have run := handleFinalizerCleanup_run cr s
  generalize handleFinalizerCleanup cr s = o at run ⊢
  obtain ⟨out, s'⟩ := o
  have first : ∀ {store stored}, s.statusAnswer (markInProgress cr s.clock) = .ok (store, stored) →
      ∃ h₁, h.Steps (TeardownWrite cr) h₁ ∧ h₁.store = store ∧ store.bridges cr.key = some stored :=
    fun ha => by
      obtain ⟨-, hw⟩ := Session.answer_eq_ok _ ha
      have hstored := updateStatus_stored hw
      rw [updateStatus_stored_key hw] at hstored
      exact ⟨_, .status (.handed (hs ▸ hw)) (.refl _), rfl, hstored⟩
  cases run with
  | inProgressFailed => exact ⟨h, .refl _, hs⟩
  | noTimestamp ha | timedOutWriteFailed ha =>
    obtain ⟨h₁, steps, hs₁, -⟩ := first ha
    exact ⟨h₁, steps, hs₁⟩
  | timedOutWritten ha _ _ ha₂ =>
    obtain ⟨h₁, steps, hs₁, hstored⟩ := first ha
    obtain ⟨-, hw⟩ := Session.answer_eq_ok _ ha₂
    exact ⟨_, steps.trans (.status (.current (hs₁ ▸ hstored) (hs₁ ▸ hw)) (.refl _)), rfl⟩
  | proceeded ha _ _ chain =>
    obtain ⟨h₁, steps, hs₁, hstored⟩ := first ha
    obtain ⟨h₂, steps₂, hs₂⟩ := chain.replayed hstored h₁ hs₁
    exact ⟨h₂, steps.trans steps₂, hs₂⟩

/-! ### The MetalLB reconciliation as a run of writes -/

theorem MetalLB.EnsureRun.replayed {write : History → Store → Prop} {r : ManagedResource}
    {bridge : DPFHCPBridge} {s s' : Session} {out : Option String} (run : EnsureRun r bridge s out s') :
    Replayed write s s' := by
  cases run with
  | failed | unchanged | createFailed | updateFailed => exact .of_store rfl
  | created _ _ hs =>
    obtain ⟨-, -, rfl⟩ := Store.create_eq_ok hs
    exact .of_objectWrite rfl (Nat.le_succ _)
  | updated _ _ hs =>
    obtain ⟨-, -, -, -, rfl⟩ := Store.update_eq_ok hs
    exact .of_objectWrite rfl (Nat.le_succ _)

theorem MetalLB.ConditionRun.replayed {bridge : DPFHCPBridge} {status : ConditionStatus}
    {reason message : String} {s s' : Session} {out : Option String × DPFHCPBridge}
    (run : ConditionRun bridge status reason message s out s') :
    Replayed (ReconcileWrite bridge) s s' := fun h hs => by
  cases run with
  | unchanged | writeFailed => exact ⟨h, .refl _, hs⟩
  | written _ _ hw => exact ⟨_, .status (.handed (hs ▸ hw)) (.refl _), rfl⟩

theorem configureMetalLB_replayed {h : History} {bridge : DPFHCPBridge} {s : Session}
    (hs : h.store = s.store) : h.Replays (ReconcileWrite bridge) (configureMetalLB bridge s).2.store := by
  have run := configureMetalLB_run bridge s
  generalize configureMetalLB bridge s = o at run ⊢
  obtain ⟨out, s'⟩ := o
  cases run with
  | skipped => exact ⟨h, .refl _, hs⟩
  | poolFailed _ pool cond => exact (pool.replayed.trans cond.replayed) h hs
  | advertisementFailed _ pool adv cond | configured _ pool adv cond =>
    exact ((pool.replayed.trans adv.replayed).trans cond.replayed) h hs

theorem invocations_replayed (h : History) :
    (∀ (cr : DPFHCPBridge) (s : Session), s.store = h.store →
      h.Replays (TeardownWrite cr) (handleFinalizerCleanup cr s).2.store) ∧
    (∀ (bridge : DPFHCPBridge) (s : Session), s.store = h.store →
      h.Replays (ReconcileWrite bridge) (configureMetalLB bridge s).2.store) :=
  ⟨fun _ _ hs => handleFinalizerCleanup_replayed hs.symm,
    fun _ _ hs => configureMetalLB_replayed hs.symm⟩

/-- Each controller, handed the copy of `sampleBridge` from before its edit, leaves a store that
a run of its writes from `editedHistory` ends with. -/
theorem invocations_replayed_stale :
    editedHistory.Replays (TeardownWrite staleBridge)
        (handleFinalizerCleanup staleBridge editedSession).2.store ∧
      editedHistory.Replays (ReconcileWrite staleBridge)
        (configureMetalLB staleBridge editedSession).2.store :=
  ⟨(invocations_replayed _).1 _ _ rfl, (invocations_replayed _).2 _ _ rfl⟩

/-! ### Condition lists in place -/

/-- Every bridge of the store holds at most one condition of each type. -/
def WellConditioned (st : Store) : Prop :=
  ∀ key b, st.bridges key = some b → TypesUnique b.conditions

/-- Every bridge kept the last transition time of each condition whose status it kept. -/
def TransitionsKeptIn (st st' : Store) : Prop :=
  ∀ key b b', st.bridges key = some b → st'.bridges key = some b' →
    TransitionsKept b.conditions b'.conditions

theorem wellConditioned_empty (installed : Kind → Bool) : WellConditioned (Store.empty installed) :=
  fun _ _ hb => nomatch hb

theorem WellConditioned.putBridge {st : Store} (hw : WellConditioned st) {b : DPFHCPBridge}
    (hb : TypesUnique b.conditions) : WellConditioned (st.putBridge b) := by
  intro key c hc
  rw [Store.putBridge_bridges] at hc
  split at hc
  · cases hc
    exact hb
  · exact hw key c hc

theorem transitionsKeptIn_of_bridges {st st' : Store} (hbridges : st'.bridges = st.bridges) :
    TransitionsKeptIn st st' := fun key b b' hb hb' => by
  rw [hbridges, hb, Option.some.injEq] at hb'
  subst hb'
  exact .refl _

/-- Storing a bridge over `b` with conditions that keep those of `b` in place. -/
theorem putBridge_inPlace {st : Store} {b b' : DPFHCPBridge} (hb : st.bridges b'.key = some b)
    (hw : WellConditioned st) (hu : TypesUnique b.conditions → TypesUnique b'.conditions)
    (hk : TransitionsKept b.conditions b'.conditions) :
    WellConditioned (st.putBridge b') ∧ TransitionsKeptIn st (st.putBridge b') := by
  refine ⟨hw.putBridge (hu (hw _ _ hb)), fun key c c' hc hc' => ?_⟩
  rw [Store.putBridge_bridges] at hc'
  split at hc'
  · next hkey =>
    subst hkey
    rw [hb, Option.some.injEq] at hc
    cases hc
    cases hc'
    exact hk
  · rw [hc, Option.some.injEq] at hc'
    subst hc'
    exact .refl _

/-- A status write the store accepts from a copy a controller may hold, whose conditions are the
copy's with one condition set, keeps the condition lists in place. -/
theorem History.Inv.statusWrite_inPlace {h : History} (hinv : h.Inv) {b w stored : DPFHCPBridge}
    {st' : Store} (hb : Read h b.key b) (hs : h.store.updateStatus w = .ok (st', stored))
    (hkey : w.key = b.key) (hv : w.resourceVersion = b.resourceVersion) (new : Condition)
    (hconditions : w.conditions = (setStatusCondition new b.conditions).2)
    (hw : WellConditioned h.store) : WellConditioned st' ∧ TransitionsKeptIn h.store st' := by
  obtain ⟨hcur, rfl⟩ := hinv.current_of_updateStatus rfl hb hs hkey hv
  rw [hconditions]
  exact putBridge_inPlace hcur hw (·.setStatusCondition new)
    (transitionsKept_setStatusCondition new b.conditions)

/-- The stores of a history: all well conditioned, and each write keeps the transition times. -/
def History.InPlace (h : History) : Prop :=
  (∀ st ∈ h.store :: h.past, WellConditioned st) ∧
    (h.store :: h.past).Chain' fun st' st => TransitionsKeptIn st st'

theorem History.InPlace.advance {h : History} (hin : h.InPlace) {st' : Store}
    (hst : WellConditioned st' ∧ TransitionsKeptIn h.store st') : (h.advance st').InPlace := by
  refine ⟨fun st hst' => ?_, .cons hst.2 hin.2⟩
  rcases List.mem_cons.mp hst' with rfl | hst'
  · exact hst.1
  · exact hin.1 st hst'

theorem History.Reachable.inPlace {h : History} (hr : h.Reachable)
    (horigin : WellConditioned h.origin) : h.InPlace := by
  induction hr with
  | init st => exact ⟨fun st' hst' => (List.mem_singleton.mp hst') ▸ horigin, .nil⟩
  | metalLB hr hs ih | cleanup hr hs ih =>
    cases hs with
    | write hb hw =>
      have hin := ih horigin
      exact hin.advance (hr.inv.statusWrite_inPlace hb hw rfl rfl _ rfl
        (hin.1 _ (List.mem_cons_self _ _)))
  | object _ hs ih =>
    cases hs with
    | write hbridges _ =>
      have hin := ih horigin
      refine hin.advance ⟨fun key b hb => ?_, transitionsKeptIn_of_bridges hbridges⟩
      exact hin.1 _ (List.mem_cons_self _ _) key b (hbridges ▸ hb)
  | spec _ hs ih =>
    cases hs with
    | edit hcur spec =>
      have hin := ih horigin
      obtain rfl := Store.bridge_at_key _ _ _ hcur
      exact hin.advance (putBridge_inPlace hcur (hin.1 _ (List.mem_cons_self _ _)) id
        (.refl _))

/-- What a run from a reachable history leaves is well conditioned, when its status writes from
reachable histories are writes of the history. -/
theorem History.Reachable.wellConditioned_of_steps {write : History → Store → Prop}
    {key : String × String} {b : DPFHCPBridge}
    (hw : ∀ {h : History} {st' : Store}, h.Reachable → Read h key b → write h st' →
      (h.advance st').Reachable)
    {h h' : History} (hr : h.Reachable) (hb : Read h key b) (horigin : WellConditioned h.origin)
    (steps : h.Steps write h') : WellConditioned h'.store :=
  ((hr.steps hw hb steps).inPlace (steps.origin ▸ horigin)).1 _ (List.mem_cons_self _ _)

theorem persisted_conditions_in_place {h : History} (hr : h.Reachable)
    (horigin : WellConditioned h.origin) :
    (∀ st ∈ h.store :: h.past, WellConditioned st) ∧
      (h.store :: h.past).Chain' (fun st' st => TransitionsKeptIn st st') ∧
      (∀ (cr : DPFHCPBridge) (s : Session), s.store = h.store → Read h cr.key cr →
        WellConditioned (handleFinalizerCleanup cr s).2.store) ∧
      ∀ (bridge : DPFHCPBridge) (s : Session), s.store = h.store → Read h bridge.key bridge →
        WellConditioned (configureMetalLB bridge s).2.store := by
  have hin := hr.inPlace horigin
  refine ⟨hin.1, hin.2, fun cr s hs hread => ?_, fun bridge s hs hread => ?_⟩
  · obtain ⟨h', steps, hst⟩ : h.Replays (TeardownWrite cr) _ :=
      handleFinalizerCleanup_replayed hs.symm
    exact hst ▸ hr.wellConditioned_of_steps (fun hr hb hw => .cleanup hr (hw.cleanup hb)) hread
      horigin steps
  · obtain ⟨h', steps, hst⟩ : h.Replays (ReconcileWrite bridge) _ :=
      configureMetalLB_replayed hs.symm
    exact hst ▸ hr.wellConditioned_of_steps (fun hr hb hw => .metalLB hr (hw.metalLB hb)) hread
      horigin steps

/-- Both controllers, handed the copy of `sampleBridge` from before its edit, leave at most one
condition of each type on every bridge. -/
theorem persisted_conditions_in_place_stale :
    editedHistory.Reachable ∧ WellConditioned editedHistory.origin ∧
      WellConditioned (handleFinalizerCleanup staleBridge editedSession).2.store ∧
      WellConditioned (configureMetalLB staleBridge editedSession).2.store :=
  have horigin : WellConditioned editedHistory.origin :=
    (wellConditioned_empty _).putBridge (by decide)
  ⟨editedHistory_reachable, horigin,
    (persisted_conditions_in_place editedHistory_reachable horigin).2.2.1 _ _ rfl read_staleBridge,
    (persisted_conditions_in_place editedHistory_reachable horigin).2.2.2 _ _ rfl
      read_staleBridge⟩

end DpfHcpBridge
