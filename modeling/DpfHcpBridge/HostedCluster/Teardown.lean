import DpfHcpBridge.HostedCluster.Finalizer

/-!
# The order of one teardown invocation

What one invocation of `handleFinalizerCleanup` sends to the API server, for every bridge, every
store and every pattern of failed calls. The log of an invocation falls into stages (`Stages`):
status writes that set no True condition; the calls on the HostedCluster named after the bridge;
then, only after one of them reported it gone, the calls on the NodePool; then, only after one of
those reported it gone, the calls on the three derived secrets; and last, only after each secret
was seen gone or deleted, the status write that sets `CleanupSucceeded`.
`handleFinalizerCleanup_stages` proves it from `CleanupRun`, and the results below are read off
the stages.

`handleFinalizerCleanup_deletes_only`: every `Delete` goes to one of the five objects named after
the bridge, whoever owns it, and nothing is created or updated.
`handleFinalizerCleanup_deletes_unmarked`: a HostedCluster or NodePool is deleted only when the
`Get` before found it with no deletion timestamp; a secret is deleted whatever its timestamp.
`handleFinalizerCleanup_keepsOthers`: every status write carries the conditions of the bridge
given, other than the cleanup condition, unchanged (`KeepsOthers`).
`handleFinalizerCleanup_ordered`: the NodePool is deleted only after the HostedCluster was
reported gone, a secret only after both were, the success condition is written only after the
three secrets were cleared, no `Delete` is sent past the timeout, and the bridge comes back with a
True cleanup condition only after the three secrets were cleared. Each of these holds of every prefix of the log as well
(`OnlyAfter.take`), which is what an invocation interrupted by a crash leaves behind.
`timeout_leaves_in_progress`: when the status write of the timeout branch fails, the invocation
still returns no error and no requeue, and the store keeps the `CleanupInProgress` condition.
-/

set_option autoImplicit false
set_option relaxedAutoImplicit false

namespace DpfHcpBridge.HostedCluster

/-! ### What the log records -/

/-- A call on `ref` that creates and updates nothing: a `Get` or a `Delete`. -/
def OnObject (ref : ObjectRef) (c : Issued) : Prop :=
  c.call.target = some ref ∧ c.call.isWrite = false

/-- An entry that reports `ref` gone: a `Get` answered NotFound or no-match, or a `Delete`
answered NotFound. -/
def ReportsGone (ref : ObjectRef) (c : Issued) : Prop :=
  c.call = .get ref ∧ (∃ e, c.outcome = some e ∧ (e.isNotFound = true ∨ e.isNoMatch = true)) ∨
    (∃ obj, c.call = .delete ref obj) ∧ ∃ e, c.outcome = some e ∧ e.isNotFound = true

/-- An entry that shows the secret at `ref` gone: a `Get` answered NotFound, or a `Delete` that
succeeded or was answered NotFound. -/
def ClearsSecret (ref : ObjectRef) (c : Issued) : Prop :=
  c.call = .get ref ∧ (∃ e, c.outcome = some e ∧ e.isNotFound = true) ∨
    (∃ obj, c.call = .delete ref obj) ∧
      (c.outcome = none ∨ ∃ e, c.outcome = some e ∧ e.isNotFound = true)

/-- A `Delete` of `ref`. -/
def Deletes (ref : ObjectRef) (c : Issued) : Prop := ∃ obj, c.call = .delete ref obj

/-- Every `Delete` in `c` carries an object with no deletion timestamp: the object the `Get` just
before it returned. -/
def DeletesUnmarked (c : Issued) : Prop :=
  ∀ ref obj, c.call = .delete ref obj → obj.deletionTimestamp = none

/-- A status write that sets the `HostedClusterCleanup` condition True. -/
def WritesCleanupTrue (c : Issued) : Prop :=
  ∃ key conditions cond, c.call = .updateStatus key conditions ∧
    findStatusCondition conditions hostedClusterCleanup = some cond ∧ cond.status = .conditionTrue

/-- A status write in `c`, if `c` is one, carries every condition of `conditions` but the cleanup
condition unchanged. -/
def KeepsOthers (conditions : List Condition) (c : Issued) : Prop :=
  ∀ key conditions', c.call = .updateStatus key conditions' →
    AgreeOff hostedClusterCleanup conditions' conditions

theorem KeepsOthers.of_target {conditions : List Condition} {c : Issued} {ref : ObjectRef}
    (h : c.call.target = some ref) : KeepsOthers conditions c := by
  intro key conditions' hc
  rw [hc] at h
  cases h

theorem KeepsOthers.trans {a b : List Condition} {c : Issued} (h : KeepsOthers a c)
    (hab : AgreeOff hostedClusterCleanup a b) : KeepsOthers b c :=
  fun key conditions' hc => (h key conditions' hc).trans hab

theorem agreeOff_withCleanupCondition (cr : DPFHCPBridge) (status : ConditionStatus)
    (reason message : String) (now : Int) :
    AgreeOff hostedClusterCleanup (withCleanupCondition cr status reason message now).conditions
      cr.conditions :=
  agreeOff_setStatusCondition ⟨hostedClusterCleanup, status, reason, message, now, 0⟩ cr.conditions

/-- A write of a cleanup condition keeps the other conditions of the bridge it was set on. -/
theorem keepsOthers_withCleanupCondition (key : String × String) (cr : DPFHCPBridge)
    (status : ConditionStatus) (reason message : String) (now : Int) (outcome : Option ApiError) :
    KeepsOthers cr.conditions
      ⟨.updateStatus key (withCleanupCondition cr status reason message now).conditions, outcome⟩ := by
  rintro _ _ ⟨⟩
  exact agreeOff_withCleanupCondition cr status reason message now

theorem Deletes.target {ref : ObjectRef} {c : Issued} (h : Deletes ref c) :
    c.call.target = some ref := by
  obtain ⟨obj, hc⟩ := h
  rw [hc]
  rfl

theorem not_deletes_of_target_none {ref : ObjectRef} {c : Issued} (h : c.call.target = none) :
    ¬ Deletes ref c := fun hd => by simp [hd.target] at h

theorem isWrite_of_target_none {c : Issued} (h : c.call.target = none) : c.call.isWrite = false := by
  cases hc : c.call <;> simp_all [Call.target, Call.isWrite]

theorem not_writesCleanupTrue_of_onObject {ref : ObjectRef} {c : Issued} (h : OnObject ref c) :
    ¬ WritesCleanupTrue c := by
  rintro ⟨key, conditions, cond, hc, -⟩
  have := h.1
  rw [hc] at this
  cases this

theorem writesCleanupTrue_iff (key : String × String) (cr : DPFHCPBridge)
    (status : ConditionStatus) (reason message : String) (now : Int) (outcome : Option ApiError) :
    WritesCleanupTrue ⟨.updateStatus key (withCleanupCondition cr status reason message now).conditions,
      outcome⟩ ↔ status = .conditionTrue := by
  constructor
  · rintro ⟨key', conditions, cond, hcall, hfind, hstatus⟩
    cases hcall
    rw [withCleanupCondition_find, Option.some.injEq] at hfind
    rw [← hfind, settled_status] at hstatus
    exact hstatus
  · intro h
    exact ⟨key, _, _, rfl, withCleanupCondition_find _ _ _ _ _, by simp [h]⟩

/-! ### The log of each call -/

theorem DeleteRun.log {cr : DPFHCPBridge} {kind : Kind} {resourceKind : String} {s s' : Session}
    {out : Except String Bool} (run : DeleteRun cr kind resourceKind s out s') :
    ∃ t, s'.calls = s.calls ++ t ∧ (∀ c ∈ t, OnObject (dependentRef cr kind) c ∧ DeletesUnmarked c) ∧
      (out = .ok true → ∃ c ∈ t, ReportsGone (dependentRef cr kind) c) := by
  cases run with
  | gone hg he =>
    refine ⟨_, rfl, by simp [OnObject, DeletesUnmarked, Call.target, Call.isWrite],
      fun _ => ⟨_, List.mem_singleton_self _, .inl ⟨rfl, ?_⟩⟩⟩
    simp [hg, outcomeOf, he]
  | getFailed | marked =>
    exact ⟨_, rfl, by simp [OnObject, DeletesUnmarked, Call.target, Call.isWrite], by simp⟩
  | deleted _ ht | deleteFailed _ ht =>
    exact ⟨_, List.append_assoc _ _ _,
      by simp [OnObject, DeletesUnmarked, Call.target, Call.isWrite, ht], by simp⟩
  | @deleteGone obj e hg ht ha he =>
    exact ⟨_, List.append_assoc _ _ _,
      by simp [OnObject, DeletesUnmarked, Call.target, Call.isWrite, ht],
      fun _ => ⟨⟨.delete _ obj, some e⟩, by simp, .inr ⟨⟨obj, rfl⟩, e, rfl, he⟩⟩⟩

theorem SecretRun.log {ns secretName : String} {s s' : Session} {out : Option String}
    (run : SecretRun ns secretName s out s') :
    ∃ t, s'.calls = s.calls ++ t ∧ (∀ c ∈ t, OnObject (secretRef ns secretName) c) ∧
      (out = none → ∃ c ∈ t, ClearsSecret (secretRef ns secretName) c) := by
  cases run with
  | gone hg he =>
    refine ⟨_, rfl, by simp [OnObject, Call.target, Call.isWrite],
      fun _ => ⟨_, List.mem_singleton_self _, .inl ⟨rfl, ?_⟩⟩⟩
    simp [hg, outcomeOf, he]
  | getFailed => exact ⟨_, rfl, by simp [OnObject, Call.target, Call.isWrite], by simp⟩
  | @deleted secret store hg ha =>
    exact ⟨_, List.append_assoc _ _ _, by simp [OnObject, Call.target, Call.isWrite],
      fun _ => ⟨⟨.delete _ secret, none⟩, by simp [outcomeOf], .inr ⟨⟨secret, rfl⟩, .inl rfl⟩⟩⟩
  | @deleteGone secret e hg ha he =>
    exact ⟨_, List.append_assoc _ _ _, by simp [OnObject, Call.target, Call.isWrite],
      fun _ => ⟨⟨.delete _ secret, some e⟩, by simp, .inr ⟨⟨secret, rfl⟩, .inr ⟨e, rfl, he⟩⟩⟩⟩
  | deleteFailed =>
    exact ⟨_, List.append_assoc _ _ _, by simp [OnObject, Call.target, Call.isWrite], by simp⟩

theorem SecretsRun.log {ns : String} {names : List String} {s s' : Session} {out : Option String}
    (run : SecretsRun ns names s out s') :
    ∃ t, s'.calls = s.calls ++ t ∧ (∀ c ∈ t, ∃ name ∈ names, OnObject (secretRef ns name) c) ∧
      (out = none → ∀ name ∈ names, ∃ c ∈ t, ClearsSecret (secretRef ns name) c) := by
  induction run with
  | nil => exact ⟨[], by simp, by simp, by simp⟩
  | stop run =>
    obtain ⟨t, hcalls, hon, -⟩ := run.log
    exact ⟨t, hcalls, fun c hc => ⟨_, List.mem_cons_self _ _, hon c hc⟩, by simp⟩
  | next run _ ih =>
    obtain ⟨t, hcalls, hon, hclear⟩ := run.log
    obtain ⟨t', hcalls', hon', hclear'⟩ := ih
    refine ⟨t ++ t', by rw [hcalls', hcalls, List.append_assoc], ?_, fun hout name hname => ?_⟩
    · intro c hc
      rcases List.mem_append.mp hc with hc | hc
      · exact ⟨_, List.mem_cons_self _ _, hon c hc⟩
      · obtain ⟨name, hname, h⟩ := hon' c hc
        exact ⟨name, List.mem_cons_of_mem _ hname, h⟩
    · rcases List.mem_cons.mp hname with rfl | hname
      · obtain ⟨c, hc, h⟩ := hclear rfl
        exact ⟨c, List.mem_append_left _ hc, h⟩
      · obtain ⟨c, hc, h⟩ := hclear' hout name hname
        exact ⟨c, List.mem_append_right _ hc, h⟩

/-! ### The stages of an invocation -/

/-- The log of an invocation cut into its five stages. -/
structure Stages (cr : DPFHCPBridge) (t₀ t₁ t₂ t₃ t₄ : List Issued) : Prop where
  preface : ∀ c ∈ t₀, c.call.target = none ∧ ¬ WritesCleanupTrue c
  hostedCluster : ∀ c ∈ t₁, OnObject (dependentRef cr .hostedCluster) c
  nodePool : ∀ c ∈ t₂, OnObject (dependentRef cr .nodePool) c
  unmarked : ∀ c ∈ t₁ ++ t₂, DeletesUnmarked c
  secrets : ∀ c ∈ t₃, ∃ name ∈ secretNames cr, OnObject (secretRef cr.ns name) c
  succeeded : ∀ c ∈ t₄, c.call.target = none ∧ WritesCleanupTrue c
  keeps : ∀ c ∈ t₀ ++ t₄, KeepsOthers cr.conditions c
  afterHostedCluster : t₂ ++ t₃ ++ t₄ ≠ [] →
    ∃ c ∈ t₁, ReportsGone (dependentRef cr .hostedCluster) c
  afterNodePool : t₃ ++ t₄ ≠ [] → ∃ c ∈ t₂, ReportsGone (dependentRef cr .nodePool) c
  afterSecrets : t₄ ≠ [] → ∀ name ∈ secretNames cr, ∃ c ∈ t₃, ClearsSecret (secretRef cr.ns name) c

/-- The stages name the bridge through its namespace and name, and its conditions but the cleanup
condition. -/
theorem Stages.of_key {cr cr' : DPFHCPBridge} {t₀ t₁ t₂ t₃ t₄ : List Issued}
    (hkey : cr'.key = cr.key) (hagree : AgreeOff hostedClusterCleanup cr'.conditions cr.conditions)
    (h : Stages cr' t₀ t₁ t₂ t₃ t₄) : Stages cr t₀ t₁ t₂ t₃ t₄ := by
  simp only [DPFHCPBridge.key, Prod.mk.injEq] at hkey
  have href : ∀ kind, dependentRef cr' kind = dependentRef cr kind := by
    simp [dependentRef, hkey]
  have hnames : secretNames cr' = secretNames cr := by simp [secretNames, hkey]
  obtain ⟨h₀, h₁, h₂, hu, h₃, h₄, hk, g₁, g₂, g₃⟩ := h
  rw [href] at h₁ h₂ g₁ g₂
  rw [hnames, hkey.1] at h₃ g₃
  exact ⟨h₀, h₁, h₂, hu, h₃, h₄, fun c hc => (hk c hc).trans hagree, g₁, g₂, g₃⟩

/-- A status write in front keeps the stages, if it sets no True condition and keeps the other
conditions. -/
theorem Stages.cons {cr : DPFHCPBridge} {c : Issued} {t₀ t₁ t₂ t₃ t₄ : List Issued}
    (hc : c.call.target = none ∧ ¬ WritesCleanupTrue c) (hk : KeepsOthers cr.conditions c)
    (h : Stages cr t₀ t₁ t₂ t₃ t₄) : Stages cr (c :: t₀) t₁ t₂ t₃ t₄ :=
  { h with
    preface := by simpa [hc] using h.preface
    keeps := List.forall_mem_cons.2 ⟨hk, h.keeps⟩ }

theorem unmarked_append {P Q : Issued → Prop} {t₁ t₂ : List Issued}
    (h₁ : ∀ c ∈ t₁, P c ∧ DeletesUnmarked c) (h₂ : ∀ c ∈ t₂, Q c ∧ DeletesUnmarked c) :
    ∀ c ∈ t₁ ++ t₂, DeletesUnmarked c := fun c hc =>
  (List.mem_append.mp hc).elim (fun h => (h₁ c h).2) fun h => (h₂ c h).2

theorem ChainRun.stages {cr : DPFHCPBridge} {now : Int} {s s' : Session}
    {out : Result × Option String × DPFHCPBridge} (run : ChainRun cr now s out s') :
    ∃ t₁ t₂ t₃ t₄, s'.calls = s.calls ++ (t₁ ++ (t₂ ++ (t₃ ++ t₄))) ∧ Stages cr [] t₁ t₂ t₃ t₄ ∧
      (cleanupStatus out.2.2 = some .conditionTrue →
        cleanupStatus cr = some .conditionTrue ∨ t₄ ≠ []) := by
  have none₂ : ∀ c ∈ ([] : List Issued), True ∧ DeletesUnmarked c := by simp
  cases run with
  | hostedClusterFailed hc | hostedClusterWaiting hc =>
    obtain ⟨t₁, hcalls, hon, -⟩ := hc.log
    exact ⟨t₁, [], [], [], by simp [hcalls], ⟨by simp, fun c hc => (hon c hc).1, by simp,
      unmarked_append hon none₂, by simp, by simp, by simp, by simp, by simp, by simp⟩, .inl⟩
  | nodePoolFailed hc np | nodePoolWaiting hc np =>
    obtain ⟨t₁, hcalls₁, hon₁, hgone₁⟩ := hc.log
    obtain ⟨t₂, hcalls₂, hon₂, -⟩ := np.log
    exact ⟨t₁, t₂, [], [], by simp [hcalls₁, hcalls₂], ⟨by simp, fun c hc => (hon₁ c hc).1,
      fun c hc => (hon₂ c hc).1, unmarked_append hon₁ hon₂, by simp, by simp, by simp,
      fun _ => hgone₁ rfl, by simp, by simp⟩, .inl⟩
  | secretsFailed hc np secrets =>
    obtain ⟨t₁, hcalls₁, hon₁, hgone₁⟩ := hc.log
    obtain ⟨t₂, hcalls₂, hon₂, hgone₂⟩ := np.log
    obtain ⟨t₃, hcalls₃, hon₃, -⟩ := secrets.log
    exact ⟨t₁, t₂, t₃, [], by simp [hcalls₁, hcalls₂, hcalls₃], ⟨by simp, fun c hc => (hon₁ c hc).1,
      fun c hc => (hon₂ c hc).1, unmarked_append hon₁ hon₂, hon₃, by simp, by simp,
      fun _ => hgone₁ rfl, fun _ => hgone₂ rfl, by simp⟩, .inl⟩
  | @writeFailed s₁ s₂ s₃ e hc np secrets _ =>
    obtain ⟨t₁, hcalls₁, hon₁, hgone₁⟩ := hc.log
    obtain ⟨t₂, hcalls₂, hon₂, hgone₂⟩ := np.log
    obtain ⟨t₃, hcalls₃, hon₃, hclear₃⟩ := secrets.log
    refine ⟨t₁, t₂, t₃, [⟨.updateStatus cr.key (markSucceeded cr now).conditions, some e⟩],
      by simp [Session.afterStatus, hcalls₁, hcalls₂, hcalls₃, outcomeOf], ⟨by simp,
      fun c hc => (hon₁ c hc).1, fun c hc => (hon₂ c hc).1, unmarked_append hon₁ hon₂, hon₃, ?_,
      by simpa using keepsOthers_withCleanupCondition _ cr _ _ _ now _,
      fun _ => hgone₁ rfl, fun _ => hgone₂ rfl, fun _ => hclear₃ rfl⟩, fun _ => .inr (by simp)⟩
    simpa [Call.target] using (writesCleanupTrue_iff _ _ _ _ _ _ _).mpr rfl
  | @written s₁ s₂ s₃ _ _ hc np secrets _ =>
    obtain ⟨t₁, hcalls₁, hon₁, hgone₁⟩ := hc.log
    obtain ⟨t₂, hcalls₂, hon₂, hgone₂⟩ := np.log
    obtain ⟨t₃, hcalls₃, hon₃, hclear₃⟩ := secrets.log
    refine ⟨t₁, t₂, t₃, [⟨.updateStatus cr.key (markSucceeded cr now).conditions, none⟩],
      by simp [Session.afterStatus, hcalls₁, hcalls₂, hcalls₃, outcomeOf], ⟨by simp,
      fun c hc => (hon₁ c hc).1, fun c hc => (hon₂ c hc).1, unmarked_append hon₁ hon₂, hon₃, ?_,
      by simpa using keepsOthers_withCleanupCondition _ cr _ _ _ now _,
      fun _ => hgone₁ rfl, fun _ => hgone₂ rfl, fun _ => hclear₃ rfl⟩, fun _ => .inr (by simp)⟩
    simpa [Call.target] using (writesCleanupTrue_iff _ _ _ _ _ _ _).mpr rfl

/-- A status write that sets a False cleanup condition belongs in the preface. -/
theorem preface_of_false (key : String × String) (cr : DPFHCPBridge) (reason message : String)
    (now : Int) (outcome : Option ApiError) :
    (Issued.mk (.updateStatus key (withCleanupCondition cr .conditionFalse reason message now).conditions)
        outcome).call.target = none ∧
      ¬ WritesCleanupTrue
        ⟨.updateStatus key (withCleanupCondition cr .conditionFalse reason message now).conditions,
          outcome⟩ :=
  ⟨rfl, fun h => absurd ((writesCleanupTrue_iff key cr _ reason message now outcome).mp h) (by decide)⟩

theorem Stages.nil (cr : DPFHCPBridge) : Stages cr [] [] [] [] [] :=
  ⟨by simp, by simp, by simp, by simp, by simp, by simp, by simp, by simp, by simp, by simp⟩

/-- The bridge the in-progress write answers with carries the other conditions of `cr`. -/
theorem agreeOff_stored (cr : DPFHCPBridge) (s : Session) {store : Store} {stored : DPFHCPBridge}
    (ha : s.statusAnswer (markInProgress cr s.clock) = .ok (store, stored)) :
    AgreeOff hostedClusterCleanup stored.conditions cr.conditions := by
  obtain ⟨-, current, -, -, -, -, rfl⟩ := s.statusAnswer_eq_ok ha
  exact agreeOff_withCleanupCondition cr _ _ _ _

/-- The bridge persisted under `cr`'s key carries a deletion timestamp at most `DeletionTimeout`
before the session's time. -/
def WithinTimeout (cr : DPFHCPBridge) (s : Session) : Prop :=
  ∃ persisted ts, s.store.bridges cr.key = some persisted ∧
    persisted.deletionTimestamp = some ts ∧ s.clock - ts ≤ deletionTimeout

/-- Every log of an invocation falls into the five stages; the dependents are touched only
within the timeout, and the bridge comes back with a True cleanup condition only after the last
stage. -/
theorem handleFinalizerCleanup_stages (cr : DPFHCPBridge) (s : Session) :
    ∃ t₀ t₁ t₂ t₃ t₄, (handleFinalizerCleanup cr s).2.calls =
      s.calls ++ (t₀ ++ (t₁ ++ (t₂ ++ (t₃ ++ t₄)))) ∧ Stages cr t₀ t₁ t₂ t₃ t₄ ∧
      (t₁ ≠ [] → WithinTimeout cr s) ∧
      (cleanupStatus (handleFinalizerCleanup cr s).1.2.2 = some .conditionTrue → t₄ ≠ []) := by
  have run := handleFinalizerCleanup_run cr s
  generalize handleFinalizerCleanup cr s = o at run ⊢
  obtain ⟨out, s'⟩ := o
  cases run with
  | @inProgressFailed e _ =>
    exact ⟨[⟨.updateStatus cr.key (markInProgress cr s.clock).conditions, some e⟩], [], [], [], [],
      by simp [Session.afterStatus, outcomeOf], (Stages.nil cr).cons (preface_of_false _ _ _ _ _ _)
        (keepsOthers_withCleanupCondition _ _ _ _ _ _ _), by simp, by simp [markInProgress]⟩
  | noTimestamp ha =>
    obtain ⟨-, current, -, -, -, -, rfl⟩ := s.statusAnswer_eq_ok ha
    exact ⟨[⟨.updateStatus cr.key (markInProgress cr s.clock).conditions, none⟩], [], [], [], [],
      by simp [Session.afterStatus, outcomeOf], (Stages.nil cr).cons (preface_of_false _ _ _ _ _ _)
        (keepsOthers_withCleanupCondition _ _ _ _ _ _ _),
      by simp, by simp [cleanupStatus, markInProgress, withCleanupCondition_find]⟩
  | @timedOutWriteFailed store stored t e ha _ _ _ =>
    have hagree := agreeOff_stored cr s ha
    exact ⟨[⟨.updateStatus cr.key (markInProgress cr s.clock).conditions, none⟩,
      ⟨.updateStatus stored.key (markTimedOut stored (s.clock - t) s.clock).conditions, some e⟩],
      [], [], [], [], by simp [Session.afterStatus, outcomeOf],
      ((Stages.nil cr).cons (preface_of_false _ _ _ _ _ _)
        ((keepsOthers_withCleanupCondition _ _ _ _ _ _ _).trans hagree)).cons
        (preface_of_false _ _ _ _ _ _)
        (keepsOthers_withCleanupCondition _ _ _ _ _ _ _),
      by simp, by simp [markTimedOut]⟩
  | @timedOutWritten store store₂ stored stored₂ t ha _ _ ha₂ =>
    have hagree := agreeOff_stored cr s ha
    obtain ⟨-, current₂, -, -, -, -, rfl⟩ := Session.statusAnswer_eq_ok _ ha₂
    exact ⟨[⟨.updateStatus cr.key (markInProgress cr s.clock).conditions, none⟩,
      ⟨.updateStatus stored.key (markTimedOut stored (s.clock - t) s.clock).conditions, none⟩],
      [], [], [], [], by simp [Session.afterStatus, outcomeOf],
      ((Stages.nil cr).cons (preface_of_false _ _ _ _ _ _)
        ((keepsOthers_withCleanupCondition _ _ _ _ _ _ _).trans hagree)).cons
        (preface_of_false _ _ _ _ _ _)
        (keepsOthers_withCleanupCondition _ _ _ _ _ _ _),
      by simp, by simp [cleanupStatus, markTimedOut, withCleanupCondition_find]⟩
  | @proceeded store stored t _ _ ha ht hin chain =>
    obtain ⟨-, current, hcur, hkey, -, -, rfl⟩ := s.statusAnswer_eq_ok ha
    obtain ⟨t₁, t₂, t₃, t₄, hcalls, hstages, hstatus⟩ := chain.stages
    dsimp only at hcalls hstatus ⊢
    refine ⟨[⟨.updateStatus cr.key (markInProgress cr s.clock).conditions, none⟩], t₁, t₂, t₃, t₄,
      by simp [hcalls, Session.afterStatus, outcomeOf],
      (hstages.of_key (by simpa using hkey) (agreeOff_stored cr s ha)).cons
        (preface_of_false _ _ _ _ _ _) (keepsOthers_withCleanupCondition _ _ _ _ _ _ _),
      fun _ => ⟨current, t, by simpa using hcur, ht, by omega⟩, fun h => ?_⟩
    rcases hstatus h with h' | h'
    · simp [cleanupStatus, markInProgress, withCleanupCondition_find] at h'
    · exact h'

/-! ### What the stages say -/

/-- The objects the cleanup of a bridge may delete: the HostedCluster and the NodePool named after
it and its three derived secrets, all in its namespace. -/
def cleanupRefs (cr : DPFHCPBridge) : List ObjectRef :=
  dependentRef cr .hostedCluster :: dependentRef cr .nodePool :: (secretNames cr).map (secretRef cr.ns)

theorem OnObject.eq_of_deletes {ref ref' : ObjectRef} {c : Issued} (h : OnObject ref c)
    (hd : Deletes ref' c) : ref' = ref :=
  Option.some.inj (hd.target.symm.trans h.1)

theorem handleFinalizerCleanup_deletes_only (cr : DPFHCPBridge) (s : Session) :
    ∃ t, (handleFinalizerCleanup cr s).2.calls = s.calls ++ t ∧
      ∀ c ∈ t, c.call.isWrite = false ∧ ∀ ref, Deletes ref c → ref ∈ cleanupRefs cr := by
  obtain ⟨t₀, t₁, t₂, t₃, t₄, hcalls, h, -, -⟩ := handleFinalizerCleanup_stages cr s
  refine ⟨_, hcalls, fun c hc => ?_⟩
  simp only [List.mem_append] at hc
  rcases hc with hc | hc | hc | hc | hc
  · have hnone := (h.preface c hc).1
    exact ⟨isWrite_of_target_none hnone, fun ref hd => absurd hd (not_deletes_of_target_none hnone)⟩
  · exact ⟨(h.hostedCluster c hc).2, fun ref hd => by
      simp [cleanupRefs, (h.hostedCluster c hc).eq_of_deletes hd]⟩
  · exact ⟨(h.nodePool c hc).2, fun ref hd => by
      simp [cleanupRefs, (h.nodePool c hc).eq_of_deletes hd]⟩
  · obtain ⟨name, hname, hon⟩ := h.secrets c hc
    refine ⟨hon.2, fun ref hd => ?_⟩
    rw [hon.eq_of_deletes hd]
    exact List.mem_cons_of_mem _ (List.mem_cons_of_mem _ (List.mem_map_of_mem _ hname))
  · have hnone := (h.succeeded c hc).1
    exact ⟨isWrite_of_target_none hnone, fun ref hd => absurd hd (not_deletes_of_target_none hnone)⟩

/-- Every `Delete` of a HostedCluster or a NodePool carries an object with no deletion
timestamp; a secret is deleted whatever its timestamp. -/
theorem handleFinalizerCleanup_deletes_unmarked (cr : DPFHCPBridge) (s : Session) :
    ∃ t, (handleFinalizerCleanup cr s).2.calls = s.calls ++ t ∧
      ∀ c ∈ t, ∀ ref obj, c.call = .delete ref obj → ref.kind ≠ .secret →
        obj.deletionTimestamp = none := by
  obtain ⟨t₀, t₁, t₂, t₃, t₄, hcalls, h, -, -⟩ := handleFinalizerCleanup_stages cr s
  refine ⟨_, hcalls, fun c hc ref obj hd hk => ?_⟩
  simp only [List.mem_append] at hc
  rcases hc with hc | hc | hc | hc | hc
  · exact absurd ⟨obj, hd⟩ (not_deletes_of_target_none (h.preface c hc).1)
  · exact h.unmarked c (List.mem_append_left _ hc) ref obj hd
  · exact h.unmarked c (List.mem_append_right _ hc) ref obj hd
  · obtain ⟨name, -, hon⟩ := h.secrets c hc
    exact absurd (congrArg ObjectRef.kind (hon.eq_of_deletes ⟨obj, hd⟩)) hk
  · exact absurd ⟨obj, hd⟩ (not_deletes_of_target_none (h.succeeded c hc).1)

/-- Every status write carries the conditions of the bridge given, other than the cleanup
condition, as they were. -/
theorem handleFinalizerCleanup_keepsOthers (cr : DPFHCPBridge) (s : Session) :
    ∃ t, (handleFinalizerCleanup cr s).2.calls = s.calls ++ t ∧
      ∀ c ∈ t, KeepsOthers cr.conditions c := by
  obtain ⟨t₀, t₁, t₂, t₃, t₄, hcalls, h, -, -⟩ := handleFinalizerCleanup_stages cr s
  refine ⟨_, hcalls, fun c hc => ?_⟩
  simp only [List.mem_append] at hc
  rcases hc with hc | hc | hc | hc | hc
  · exact h.keeps c (List.mem_append_left _ hc)
  · exact .of_target (h.hostedCluster c hc).1
  · exact .of_target (h.nodePool c hc).1
  · obtain ⟨name, -, hon⟩ := h.secrets c hc
    exact .of_target hon.1
  · exact h.keeps c (List.mem_append_right _ hc)

/-- A bridge being deleted whose pull-secret reference names the secret the cleanup derives from
its name. -/
def pullSecretBridge : DPFHCPBridge :=
  { sampleBridge with
    deletionTimestamp := some 0
    spec := { sampleBridge.spec with pullSecretRef := "bridge-pull-secret" } }

/-- The user's pull secret, with no label and no owner reference. -/
def userPullSecret : Object where
  name := "bridge-pull-secret"
  ns := "clusters"
  labels := []
  annotations := []
  ownerReferences := []
  finalizers := []
  deletionTimestamp := none
  resourceVersion := 0
  spec := .unread

/-- `pullSecretBridge` and its user's pull secret, a minute into the deletion, with no fault. -/
def userSecretSession : Session where
  store := ((Store.empty fun _ => true).putBridge pullSecretBridge).put .secret userPullSecret
  clock := minute
  faults _ := none
  calls := []
  events := []

theorem cleanup_deletes_user_secret :
    userPullSecret.labels = [] ∧ userPullSecret.ownerReferences = [] ∧
      pullSecretBridge.spec.pullSecretRef = userPullSecret.name ∧
      (⟨.delete ⟨.secret, "clusters", "bridge-pull-secret"⟩ { userPullSecret with resourceVersion := 2 },
          none⟩ : Issued) ∈
        (handleFinalizerCleanup { pullSecretBridge with resourceVersion := 1 } userSecretSession).2.calls ∧
      (handleFinalizerCleanup { pullSecretBridge with resourceVersion := 1 }
          userSecretSession).2.store.objects ⟨.secret, "clusters", "bridge-pull-secret"⟩ = none := by
  decide

theorem handleFinalizerCleanup_ordered (cr : DPFHCPBridge) (s : Session) :
    ∃ t, (handleFinalizerCleanup cr s).2.calls = s.calls ++ t ∧
      OnlyAfter (ReportsGone (dependentRef cr .hostedCluster)) (Deletes (dependentRef cr .nodePool))
        t ∧
      (∀ name ∈ secretNames cr,
        OnlyAfter (ReportsGone (dependentRef cr .hostedCluster)) (Deletes (secretRef cr.ns name)) t ∧
        OnlyAfter (ReportsGone (dependentRef cr .nodePool)) (Deletes (secretRef cr.ns name)) t ∧
        OnlyAfter (ClearsSecret (secretRef cr.ns name)) WritesCleanupTrue t) ∧
      ((∃ c ∈ t, ∃ ref, Deletes ref c) → WithinTimeout cr s) ∧
      (cleanupStatus (handleFinalizerCleanup cr s).1.2.2 = some .conditionTrue →
        ∀ name ∈ secretNames cr, ∃ c ∈ t, ClearsSecret (secretRef cr.ns name) c) := by
  obtain ⟨t₀, t₁, t₂, t₃, t₄, hcalls, h, htime, htrue⟩ := handleFinalizerCleanup_stages cr s
  have hpre : ∀ ref, ∀ c ∈ t₀, ¬ Deletes ref c := fun ref c hc =>
    not_deletes_of_target_none (h.preface c hc).1
  have hhc : ∀ ref, ref ≠ dependentRef cr .hostedCluster → ∀ c ∈ t₁, ¬ Deletes ref c :=
    fun ref hne c hc hd => hne ((h.hostedCluster c hc).eq_of_deletes hd)
  have hnp : ∀ ref, ref ≠ dependentRef cr .nodePool → ∀ c ∈ t₂, ¬ Deletes ref c :=
    fun ref hne c hc hd => hne ((h.nodePool c hc).eq_of_deletes hd)
  have hsecret : ∀ name, ∀ c ∈ t₀ ++ t₁ ++ t₂, ¬ Deletes (secretRef cr.ns name) c := by
    intro name c hc
    simp only [List.mem_append] at hc
    rcases hc with (hc | hc) | hc
    · exact hpre _ c hc
    · exact hhc _ (by simp [dependentRef]) c hc
    · exact hnp _ (by simp [dependentRef]) c hc
  have hsplit₂ : t₀ ++ (t₁ ++ (t₂ ++ (t₃ ++ t₄))) = (t₀ ++ t₁) ++ (t₂ ++ t₃ ++ t₄) := by simp
  have hsplit₃ : t₀ ++ (t₁ ++ (t₂ ++ (t₃ ++ t₄))) = (t₀ ++ t₁ ++ t₂) ++ (t₃ ++ t₄) := by simp
  have hsplit₄ : t₀ ++ (t₁ ++ (t₂ ++ (t₃ ++ t₄))) = (t₀ ++ t₁ ++ t₂ ++ t₃) ++ t₄ := by simp
  refine ⟨_, hcalls, ?nodePool, fun name hname => ⟨?afterHostedCluster, ?afterNodePool, ?cleared⟩,
    ?inTime, fun hs name hname => ?returned⟩
  case nodePool =>
    rw [hsplit₂]
    refine OnlyAfter.of_front (fun c hc => ?_) fun hb => ?_
    · rcases List.mem_append.mp hc with hc | hc
      · exact hpre _ c hc
      · exact hhc _ (by simp [dependentRef]) c hc
    · obtain ⟨c, hc, hgone⟩ := h.afterHostedCluster hb
      exact ⟨c, List.mem_append_right _ hc, hgone⟩
  case afterHostedCluster =>
    rw [hsplit₃]
    refine OnlyAfter.of_front (hsecret name) fun hb => ?_
    obtain ⟨c, hc, hgone⟩ := h.afterHostedCluster fun h₂ => hb (by
      simp only [List.append_eq_nil] at h₂ ⊢
      exact ⟨h₂.1.2, h₂.2⟩)
    exact ⟨c, by simp [hc], hgone⟩
  case afterNodePool =>
    rw [hsplit₃]
    refine OnlyAfter.of_front (hsecret name) fun hb => ?_
    obtain ⟨c, hc, hgone⟩ := h.afterNodePool hb
    exact ⟨c, by simp [hc], hgone⟩
  case cleared =>
    rw [hsplit₄]
    refine OnlyAfter.of_front (fun c hc => ?_) fun hb => ?_
    · simp only [List.mem_append] at hc
      rcases hc with ((hc | hc) | hc) | hc
      · exact (h.preface c hc).2
      · exact not_writesCleanupTrue_of_onObject (h.hostedCluster c hc)
      · exact not_writesCleanupTrue_of_onObject (h.nodePool c hc)
      · obtain ⟨_, _, hon⟩ := h.secrets c hc
        exact not_writesCleanupTrue_of_onObject hon
    · obtain ⟨c, hc, hclear⟩ := h.afterSecrets hb name hname
      exact ⟨c, by simp [hc], hclear⟩
  case inTime =>
    rintro ⟨c, hc, ref, hd⟩
    refine htime fun h₁ => ?_
    subst h₁
    have hrest : t₂ ++ t₃ ++ t₄ = [] := by
      by_contra hne
      obtain ⟨_, hc', -⟩ := h.afterHostedCluster hne
      cases hc'
    simp only [List.append_eq_nil] at hrest
    obtain ⟨⟨rfl, rfl⟩, rfl⟩ := hrest
    simp only [List.append_nil, List.nil_append] at hc
    exact hpre ref c hc hd
  case returned =>
    obtain ⟨c, hc, hclear⟩ := h.afterSecrets (htrue hs) name hname
    exact ⟨c, by simp [hc], hclear⟩

/-! ### The timeout branch -/

/-- The `HostedClusterCleanup` condition persisted for a bridge. -/
def persistedCleanup (store : Store) (key : String × String) : Option Condition :=
  (store.bridges key).bind fun b => findStatusCondition b.conditions hostedClusterCleanup

/-- The bridge persisted under `cr`'s key carries a deletion timestamp more than
`DeletionTimeout` before the session's time. -/
def PastTimeout (cr : DPFHCPBridge) (s : Session) : Prop :=
  ∃ persisted ts, s.store.bridges cr.key = some persisted ∧
    persisted.deletionTimestamp = some ts ∧ s.clock - ts > deletionTimeout

/-- The status writes of an invocation: it always begins with the in-progress write, whatever the
persisted condition; past the timeout, that write is followed by at most one more call, the write
of `CleanupTimeout`. -/
theorem handleFinalizerCleanup_status_log (cr : DPFHCPBridge) (s : Session) :
    ∃ o t, (handleFinalizerCleanup cr s).2.calls =
      s.calls ++ ⟨.updateStatus cr.key (markInProgress cr s.clock).conditions, o⟩ :: t ∧
      (PastTimeout cr s → t.length ≤ 1 ∧ ∀ c ∈ t, ∃ conditions,
        c.call = .updateStatus cr.key conditions ∧
          (findStatusCondition conditions hostedClusterCleanup).map (·.reason) =
            some "CleanupTimeout") := by
  have run := handleFinalizerCleanup_run cr s
  generalize handleFinalizerCleanup cr s = o at run ⊢
  obtain ⟨out, s'⟩ := o
  cases run with
  | inProgressFailed | noTimestamp => exact ⟨_, [], rfl, fun _ => by simp⟩
  | timedOutWriteFailed ha | timedOutWritten ha =>
    obtain ⟨-, current, -, hkey, -, -, rfl⟩ := s.statusAnswer_eq_ok ha
    simp only [markInProgress_key, DPFHCPBridge.key] at hkey
    refine ⟨_, [_], List.append_assoc _ _ _, fun _ => ⟨by simp, ?_⟩⟩
    simp only [List.mem_singleton, forall_eq]
    exact ⟨_, congrArg₂ Call.updateStatus (by simpa [DPFHCPBridge.key] using hkey) rfl,
      by simp [markTimedOut, withCleanupCondition_find]⟩
  | proceeded ha ht hin chain =>
    obtain ⟨-, current, hcur, -, -, -, rfl⟩ := s.statusAnswer_eq_ok ha
    obtain ⟨t₁, t₂, t₃, t₄, hcalls, -, -⟩ := chain.stages
    refine ⟨_, t₁ ++ (t₂ ++ (t₃ ++ t₄)), hcalls.trans (List.append_assoc _ _ _), ?_⟩
    rintro ⟨persisted, ts, hp, hts, hlate⟩
    rw [markInProgress_key, hp, Option.some.injEq] at hcur
    subst hcur
    simp only [hts, Option.some.injEq] at ht
    omega

/-- `sampleBridge`, being deleted since time zero. -/
def deletingBridge : DPFHCPBridge := { sampleBridge with deletionTimestamp := some 0 }

/-- `deletingBridge` persisted, 31 minutes into its deletion, with a conflict on the second call. -/
def lateSession : Session where
  store := (Store.empty fun _ => true).putBridge deletingBridge
  clock := 31 * minute
  faults i := if i = 1 then some .conflict else none
  calls := []
  events := []

theorem timeout_leaves_in_progress :
    (handleFinalizerCleanup { deletingBridge with resourceVersion := 1 } lateSession).1.1 = {} ∧
      (handleFinalizerCleanup { deletingBridge with resourceVersion := 1 } lateSession).1.2.1 = none ∧
      (persistedCleanup
          (handleFinalizerCleanup { deletingBridge with resourceVersion := 1 } lateSession).2.store
          deletingBridge.key).map (·.reason) = some "CleanupInProgress" := by
  decide

end DpfHcpBridge.HostedCluster
