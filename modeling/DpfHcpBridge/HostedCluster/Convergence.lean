import DpfHcpBridge.HostedCluster.Teardown

/-!
# Progress of the teardown when no call fails

Invocations of `handleFinalizerCleanup` on the bridge as persisted, within `DeletionTimeout` of its
deletion timestamp, with no failed call. `handleFinalizerCleanup_quiet` says what one such
invocation does (`Progress`): it returns no error, succeeds with the cleanup condition True with
reason `CleanupSucceeded` exactly when neither the HostedCluster nor the NodePool named after the
bridge is present, requeues after `DeletionRequeueInterval` with the condition False with reason
`CleanupInProgress` otherwise, persists the bridge it returns, creates no object, and leaves the first dependent still present marked for deletion or
gone. It is proved from one lemma per call (`DeleteRun.quiet`, `SecretRun.quiet`), each saying
which objects the call may touch (`Frame`).

A run (`TeardownRun`) alternates such invocations with environment steps that only remove objects
(`OnlyRemoves`). Every invocation of a run returns no error (`TeardownRun.returns`). `pending`
counts the dependents still present; `pending_lt_of_requeue` says that an invocation that
requeues, followed by an environment step that clears every object marked for deletion
(`ClearsMarked`), lowers it, so that such a run succeeds within three invocations
(`TeardownRun.succeeds`). `finishingRun` is the requeue loop against a store that finishes every
deletion at once (`finishDeletions`), and `finishingRun_run` shows it is such a run.
`teardown_converges` collects the three results with `handleFinalizerCleanup_deletes_unmarked`;
`cleanup_deletes_marked_secret` shows that a derived secret is deleted again while its deletion is
pending.

`deleteSecrets_tolerates_absence`: with no failed call, the secret cleanup succeeds whichever of
the three secrets are already gone, leaves none of them live, and succeeds again when repeated.
-/

set_option autoImplicit false
set_option relaxedAutoImplicit false

namespace DpfHcpBridge.HostedCluster

/-! ### One call when no call fails -/

/-- An object under `ref` in an installed kind. -/
def present (st : Store) (ref : ObjectRef) : Bool :=
  st.installed ref.kind && (st.objects ref).isSome

/-- What a call of the teardown leaves alone: the clock, the faults, the bridges, the installed
kinds and every object outside `touched`; and it creates no object. -/
structure Frame (touched : ObjectRef → Prop) (s s' : Session) : Prop where
  clock : s'.clock = s.clock
  faults : s'.faults = s.faults
  bridges : s'.store.bridges = s.store.bridges
  installed : s'.store.installed = s.store.installed
  objects : ∀ r, ¬ touched r → s'.store.objects r = s.store.objects r
  noCreate : ∀ r, s.store.objects r = none → s'.store.objects r = none

theorem Frame.refl (touched : ObjectRef → Prop) (s : Session) : Frame touched s s :=
  ⟨rfl, rfl, rfl, rfl, fun _ _ => rfl, fun _ h => h⟩

theorem Frame.trans {touched : ObjectRef → Prop} {s₁ s₂ s₃ : Session} (h₁ : Frame touched s₁ s₂)
    (h₂ : Frame touched s₂ s₃) : Frame touched s₁ s₃ :=
  ⟨h₂.clock.trans h₁.clock, h₂.faults.trans h₁.faults, h₂.bridges.trans h₁.bridges,
    h₂.installed.trans h₁.installed, fun r hr => (h₂.objects r hr).trans (h₁.objects r hr),
    fun r hr => h₂.noCreate r (h₁.noCreate r hr)⟩

theorem Frame.mono {touched touched' : ObjectRef → Prop} {s s' : Session}
    (h : Frame touched s s') (hmono : ∀ r, touched r → touched' r) : Frame touched' s s' :=
  { h with objects := fun r hr => h.objects r (fun ht => hr (hmono r ht)) }

theorem Frame.looked (touched : ObjectRef → Prop) (s : Session) (ref : ObjectRef) :
    Frame touched s (s.looked ref) :=
  ⟨rfl, rfl, rfl, rfl, fun _ _ => rfl, fun _ h => h⟩

/-- A `Delete` that succeeded, after a `Get` that found the object. -/
theorem Frame.deleted {s : Session} {kind : Kind} {obj : Object} {store : Store} {call : Call}
    (ref : ObjectRef) (href : obj.ref kind = ref) (hpresent : s.store.objects ref ≠ none)
    (ha : s.deleteAnswer kind obj = .ok (store, ())) :
    Frame (· = ref) s (s.after call (.ok (store, ()))) ∧
      ∀ o, store.objects ref = some o → o.deletionTimestamp ≠ none := by
  obtain ⟨-, hdel⟩ := Session.answer_write_eq_ok s ha
  obtain ⟨hi, hb, ho, hlive⟩ := Store.delete_frame hdel
  have href' : (⟨kind, obj.ns, obj.name⟩ : ObjectRef) = ref := href
  rw [href'] at ho hlive
  refine ⟨⟨rfl, rfl, hb, hi, ho, fun r hr => ?_⟩, hlive⟩
  by_cases h : r = ref
  · subst h
    exact absurd hr hpresent
  · simpa [ho r h] using hr

/-- A `Delete` of an object a `Get` just found cannot fail when no call fails. -/
theorem deleteAnswer_ok {s : Session} {kind : Kind} {ns name : String} {obj : Object}
    (hq : ∀ i, s.faults i = none) (hg : s.got kind ns name = .ok obj) :
    ∃ store, (s.looked ⟨kind, ns, name⟩).deleteAnswer kind obj = .ok (store, ()) := by
  obtain ⟨hi, hobj⟩ := Session.got_eq_ok s hg
  have href := ref_of_got hg
  simp only [Object.ref, ObjectRef.mk.injEq, true_and] at href
  obtain ⟨st', hst'⟩ := Store.delete_ok_of_present s.clock hi (href.1 ▸ href.2 ▸ hobj)
  refine ⟨st', ?_⟩
  simp [Session.deleteAnswer, Session.answer, hq, hst', Except.map]

/-- A `Get` answered by the store. -/
theorem got_of_quiet {s : Session} (hq : ∀ i, s.faults i = none) (kind : Kind) (ns name : String) :
    s.got kind ns name = s.store.get kind ns name := by
  simp [Session.got, hq]

/-- Every object under `ref` in an installed kind is marked for deletion. -/
def NotLive (st : Store) (ref : ObjectRef) : Prop :=
  ∀ o, st.objects ref = some o → st.installed ref.kind = true → o.deletionTimestamp ≠ none

/-- What `deleteResource` does when no call fails: it answers whether the object is absent,
touches no other object, and leaves nothing live under its name. -/
theorem DeleteRun.quiet {cr : DPFHCPBridge} {kind : Kind} {resourceKind : String} {s s' : Session}
    {out : Except String Bool} (hq : ∀ i, s.faults i = none)
    (run : DeleteRun cr kind resourceKind s out s') :
    out = .ok (!present s.store (dependentRef cr kind)) ∧ Frame (· = dependentRef cr kind) s s' ∧
      NotLive s'.store (dependentRef cr kind) := by
  cases run with
  | gone hg =>
    rw [got_of_quiet hq] at hg
    rcases Store.get_eq_error hg with ⟨hi, rfl⟩ | ⟨hi, hnone, rfl⟩
    · exact ⟨by simp [present, hi], Frame.looked _ _ _, fun o _ hi' => by simp_all⟩
    · exact ⟨by simp [present, hnone], Frame.looked _ _ _, fun o ho => by simp_all⟩
  | getFailed hg hnf hnm =>
    rw [got_of_quiet hq] at hg
    rcases Store.get_eq_error hg with ⟨-, rfl⟩ | ⟨-, -, rfl⟩ <;>
      simp [ApiError.isNotFound, ApiError.isNoMatch] at hnf hnm
  | marked hg ht =>
    rw [got_of_quiet hq] at hg
    obtain ⟨hi, hobj⟩ := Store.get_eq_ok hg
    refine ⟨by simp [present, hi, hobj], Frame.looked _ _ _, fun o ho _ => ?_⟩
    simp only [looked_store, dependentRef, hobj, Option.some.injEq] at ho
    simp [← ho, ht]
  | deleted hg ht ha =>
    have hg' := hg
    rw [got_of_quiet hq] at hg'
    obtain ⟨hi, hobj⟩ := Store.get_eq_ok hg'
    obtain ⟨hframe, hlive⟩ := Frame.deleted (s := s.looked (dependentRef cr kind)) _
      (ref_of_got hg) (by simp [hobj]) ha
    exact ⟨by simp [present, hi, hobj], (Frame.looked _ _ _).trans hframe,
      fun o ho _ => hlive o ho⟩
  | deleteGone hg _ ha | deleteFailed hg _ ha =>
    obtain ⟨store, hok⟩ := deleteAnswer_ok hq hg
    rw [hok] at ha
    cases ha

/-- What `deleteSecret` does when no call fails and secrets are served: it succeeds, touches no
other object, and leaves nothing live under its name. -/
theorem SecretRun.quiet {ns secretName : String} {s s' : Session} {out : Option String}
    (hq : ∀ i, s.faults i = none) (hsec : s.store.installed .secret = true)
    (run : SecretRun ns secretName s out s') :
    out = none ∧ Frame (· = secretRef ns secretName) s s' ∧
      NotLive s'.store (secretRef ns secretName) := by
  cases run with
  | gone hg =>
    rw [got_of_quiet hq] at hg
    rcases Store.get_eq_error hg with ⟨hi, -⟩ | ⟨-, hnone, -⟩
    · simp [hsec] at hi
    · exact ⟨rfl, Frame.looked _ _ _, fun o ho => by simp_all⟩
  | getFailed hg he =>
    rw [got_of_quiet hq] at hg
    rcases Store.get_eq_error hg with ⟨hi, -⟩ | ⟨-, -, rfl⟩
    · simp [hsec] at hi
    · simp [ApiError.isNotFound] at he
  | deleted hg ha =>
    have hg' := hg
    rw [got_of_quiet hq] at hg'
    obtain ⟨-, hobj⟩ := Store.get_eq_ok hg'
    obtain ⟨hframe, hlive⟩ := Frame.deleted (s := s.looked (secretRef ns secretName)) _
      (ref_of_got hg) (by simp [hobj]) ha
    exact ⟨rfl, (Frame.looked _ _ _).trans hframe, fun o ho _ => hlive o ho⟩
  | deleteGone hg ha | deleteFailed hg ha =>
    obtain ⟨store, hok⟩ := deleteAnswer_ok hq hg
    rw [hok] at ha
    cases ha

/-- The loop of `deleteSecrets` succeeds when no call fails, touches only the secrets it names,
and leaves none of them live, whichever of them were there. -/
theorem SecretsRun.quiet {ns : String} {names : List String} {s s' : Session} {out : Option String}
    (hq : ∀ i, s.faults i = none) (hsec : s.store.installed .secret = true)
    (run : SecretsRun ns names s out s') :
    out = none ∧ Frame (fun r => ∃ name ∈ names, r = secretRef ns name) s s' ∧
      ∀ name ∈ names, NotLive s'.store (secretRef ns name) := by
  induction run with
  | nil s => exact ⟨rfl, Frame.refl _ s, by simp⟩
  | stop run => cases (run.quiet hq hsec).1
  | @next secretName rest _ _ _ _ run _ ih =>
    obtain ⟨-, hframe, hlive⟩ := run.quiet hq hsec
    obtain ⟨hout, hframe', hlive'⟩ :=
      ih (by rw [hframe.faults]; exact hq) (by rw [hframe.installed]; exact hsec)
    refine ⟨hout, (hframe.mono fun r hr => ⟨secretName, List.mem_cons_self _ _, hr⟩).trans
      (hframe'.mono fun r ⟨name, hn, hr⟩ => ⟨name, List.mem_cons_of_mem _ hn, hr⟩),
      fun name hname => ?_⟩
    by_cases hrest : name ∈ rest
    · exact hlive' name hrest
    · obtain rfl : name = secretName := (List.mem_cons.mp hname).resolve_right hrest
      have hkept := hframe'.objects (secretRef ns name) fun ⟨name', hn', hr⟩ => by
        injection hr with _ _ hr
        exact hrest (hr ▸ hn')
      intro o ho hi
      rw [hkept] at ho
      exact hlive o ho (by rwa [hframe'.installed] at hi)

/-- A status write of the bridge as persisted succeeds when no call fails. -/
theorem statusAnswer_of_persisted {s : Session} {b current : DPFHCPBridge}
    (hq : ∀ i, s.faults i = none) (hp : s.store.bridges b.key = some current)
    (hv : current.resourceVersion = b.resourceVersion) :
    s.statusAnswer b = .ok (s.store.putBridge { current with conditions := b.conditions },
      { current with conditions := b.conditions, resourceVersion := s.store.revision }) := by
  simp [Session.statusAnswer, Session.answer, hq, Store.updateStatus, hp, hv]

/-! ### One invocation when no call fails -/

/-- Neither the HostedCluster nor the NodePool named after the bridge is present. -/
def dependentsGone (st : Store) (cr : DPFHCPBridge) : Bool :=
  !present st (dependentRef cr .hostedCluster) && !present st (dependentRef cr .nodePool)

/-- The objects an invocation may touch: the bridge's HostedCluster and NodePool, and secrets. -/
def Touched (cr : DPFHCPBridge) (r : ObjectRef) : Prop :=
  r = dependentRef cr .hostedCluster ∨ r = dependentRef cr .nodePool ∨ r.kind = .secret

/-- What an invocation on `cr`, started on the store `st`, returns and leaves behind in `st'`
when no call fails: success with the cleanup condition True (`CleanupSucceeded`) exactly when the
dependents are gone, a requeue with it False (`CleanupInProgress`) otherwise, the returned bridge persisted, no object created,
and the first dependent still present marked for deletion or gone. -/
structure Progress (cr : DPFHCPBridge) (st : Store)
    (out : Result × Option String × DPFHCPBridge) (st' : Store) : Prop where
  noError : out.2.1 = none
  result : out.1 = if dependentsGone st cr then {} else { requeueAfter := deletionRequeueInterval }
  status : cleanupOutcome out.2.2 = some (if dependentsGone st cr then
    (.conditionTrue, "CleanupSucceeded") else (.conditionFalse, "CleanupInProgress"))
  persisted : st'.bridges cr.key = some out.2.2
  timestamp : out.2.2.deletionTimestamp = cr.deletionTimestamp
  installed : st'.installed = st.installed
  objects : ∀ r, ¬ Touched cr r → st'.objects r = st.objects r
  noCreate : ∀ r, st.objects r = none → st'.objects r = none
  hostedCluster : present st (dependentRef cr .hostedCluster) = true →
    NotLive st' (dependentRef cr .hostedCluster)
  nodePool : present st (dependentRef cr .hostedCluster) = false →
    present st (dependentRef cr .nodePool) = true → NotLive st' (dependentRef cr .nodePool)

/-- `Progress` names the bridge only through its namespace, name and deletion timestamp, and the
starting store only through its objects and installed kinds. -/
theorem Progress.congr {cr cr' : DPFHCPBridge} {st st₁ st' : Store}
    {out : Result × Option String × DPFHCPBridge} (h : Progress cr' st₁ out st')
    (hns : cr'.ns = cr.ns) (hname : cr'.name = cr.name)
    (hts : cr'.deletionTimestamp = cr.deletionTimestamp) (hinst : st₁.installed = st.installed)
    (hobj : st₁.objects = st.objects) : Progress cr st out st' := by
  have href : ∀ kind, dependentRef cr' kind = dependentRef cr kind := by simp [hns, hname]
  have hpresent : ∀ r, present st₁ r = present st r := by simp [present, hinst, hobj]
  have hgone : dependentsGone st₁ cr' = dependentsGone st cr := by
    simp only [dependentsGone, href, hpresent]
  have htouched : ∀ r, Touched cr' r ↔ Touched cr r := by simp [Touched, href]
  have hkey : cr'.key = cr.key := by simp [DPFHCPBridge.key, hns, hname]
  obtain ⟨h₁, h₂, h₃, h₄, h₅, h₆, h₇, h₈, h₉, h₁₀⟩ := h
  rw [hgone] at h₂ h₃
  simp only [href, hpresent] at h₉ h₁₀
  exact ⟨h₁, h₂, h₃, hkey ▸ h₄, h₅.trans hts, h₆.trans hinst,
    fun r hr => (h₇ r ((htouched r).not.mpr hr)).trans (congrFun hobj r),
    fun r hr => h₈ r (by rw [hobj]; exact hr), h₉, h₁₀⟩

/-- With no fault, the HostedCluster found gone and then the NodePool looked at: the chain has
touched only those two, and the NodePool's answer is whether it was present at the start. -/
theorem DeleteRun.quiet_nodePool {cr : DPFHCPBridge} {s s₁ s₂ : Session} {out : Except String Bool}
    (hq : ∀ i, s.faults i = none) (hc : DeleteRun cr .hostedCluster "HostedCluster" s (.ok true) s₁)
    (np : DeleteRun cr .nodePool "NodePool" s₁ out s₂) :
    present s.store (dependentRef cr .hostedCluster) = false ∧
      out = .ok (!present s.store (dependentRef cr .nodePool)) ∧ Frame (Touched cr) s s₂ ∧
      NotLive s₂.store (dependentRef cr .nodePool) := by
  have hne : dependentRef cr .nodePool ≠ dependentRef cr .hostedCluster := by simp
  obtain ⟨hout₁, hframe₁, -⟩ := hc.quiet hq
  obtain ⟨hout₂, hframe₂, hlive₂⟩ := np.quiet (by rw [hframe₁.faults]; exact hq)
  have hsame : present s₁.store (dependentRef cr .nodePool) =
      present s.store (dependentRef cr .nodePool) := by
    simp [present, hframe₁.installed, hframe₁.objects _ hne]
  exact ⟨by simpa using Except.ok.inj hout₁, hsame ▸ hout₂,
    (hframe₁.mono fun r h => Or.inl h).trans (hframe₂.mono fun r h => (Or.inr (Or.inl h) : Touched cr r)),
    hlive₂⟩

/-- The dependency chain, run on the bridge as persisted with its False in-progress condition. -/
theorem ChainRun.quiet {cr : DPFHCPBridge} {now : Int} {s s' : Session}
    {out : Result × Option String × DPFHCPBridge} (hq : ∀ i, s.faults i = none)
    (hsec : s.store.installed .secret = true) (hp : s.store.bridges cr.key = some cr)
    (hfalse : cleanupOutcome cr = some (.conditionFalse, "CleanupInProgress"))
    (run : ChainRun cr now s out s') :
    Progress cr s.store out s'.store := by
  cases run with
  | hostedClusterFailed hc => cases (hc.quiet hq).1
  | hostedClusterWaiting hc =>
    obtain ⟨hout, hframe, hlive⟩ := hc.quiet hq
    have hpres : present s.store (dependentRef cr .hostedCluster) = true := by
      simpa using (Except.ok.inj hout).symm
    have hgone : dependentsGone s.store cr = false := by simp [dependentsGone, hpres]
    exact ⟨rfl, by simp [hgone], by simp [hgone, hfalse], by rw [hframe.bridges]; exact hp, rfl,
      hframe.installed, fun r hr => hframe.objects r fun h => hr (.inl h), hframe.noCreate,
      fun _ => hlive, by simp [hpres]⟩
  | nodePoolFailed hc np => cases (hc.quiet_nodePool hq np).2.1
  | nodePoolWaiting hc np =>
    obtain ⟨hhc, hout, hframe, hlive⟩ := hc.quiet_nodePool hq np
    have hnp : present s.store (dependentRef cr .nodePool) = true := by
      simpa using (Except.ok.inj hout).symm
    have hgone : dependentsGone s.store cr = false := by simp [dependentsGone, hnp]
    exact ⟨rfl, by simp [hgone], by simp [hgone, hfalse], by rw [hframe.bridges]; exact hp, rfl,
      hframe.installed, hframe.objects, hframe.noCreate, by simp [hhc], fun _ _ => hlive⟩
  | secretsFailed hc np secrets =>
    obtain ⟨-, -, hframe, -⟩ := hc.quiet_nodePool hq np
    cases (secrets.quiet (by rw [hframe.faults]; exact hq) (by rw [hframe.installed]; exact hsec)).1
  | writeFailed hc np secrets ha =>
    obtain ⟨-, -, hframe, -⟩ := hc.quiet_nodePool hq np
    obtain ⟨-, hframe₃, -⟩ := secrets.quiet (by rw [hframe.faults]; exact hq)
      (by rw [hframe.installed]; exact hsec)
    rw [@statusAnswer_of_persisted _ (markSucceeded cr now) cr
      (by rw [hframe₃.faults, hframe.faults]; exact hq)
      (by rw [hframe₃.bridges, hframe.bridges, markSucceeded_key]; exact hp) rfl] at ha
    cases ha
  | written hc np secrets ha =>
    obtain ⟨hhc, hout, hframe₂, -⟩ := hc.quiet_nodePool hq np
    obtain ⟨-, hframe₃, -⟩ := secrets.quiet (by rw [hframe₂.faults]; exact hq)
      (by rw [hframe₂.installed]; exact hsec)
    rw [@statusAnswer_of_persisted _ (markSucceeded cr now) cr
      (by rw [hframe₃.faults, hframe₂.faults]; exact hq)
      (by rw [hframe₃.bridges, hframe₂.bridges, markSucceeded_key]; exact hp) rfl] at ha
    obtain ⟨rfl, rfl⟩ := Prod.mk.inj (Except.ok.inj ha)
    have hnp : present s.store (dependentRef cr .nodePool) = false := by
      simpa using Except.ok.inj hout
    have hgone : dependentsGone s.store cr = true := by simp [dependentsGone, hhc, hnp]
    have hframe := hframe₂.trans
      (hframe₃.mono fun r ⟨_, _, h⟩ => (Or.inr (Or.inr (by rw [h])) : Touched cr r))
    exact ⟨rfl, by simp [hgone],
      by simp [hgone, cleanupOutcome, markSucceeded, withCleanupCondition_find],
      by simp [Session.afterStatus, markSucceeded, DPFHCPBridge.key], rfl, hframe.installed,
      hframe.objects, hframe.noCreate, by simp [hhc], by simp [hnp]⟩

/-- The bridge as an invocation's in-progress write on the bridge as persisted returns it. -/
def inProgressStored (cr : DPFHCPBridge) (s : Session) : DPFHCPBridge :=
  { cr with conditions := (markInProgress cr s.clock).conditions, resourceVersion := s.store.revision }

/-- The session after that write. -/
def inProgressSession (cr : DPFHCPBridge) (s : Session) : Session :=
  s.afterStatus (markInProgress cr s.clock)
    (.ok (s.store.putBridge { cr with conditions := (markInProgress cr s.clock).conditions },
      inProgressStored cr s))

/-- Within the timeout, on the bridge as persisted and with no failed call, an invocation writes
the in-progress condition and runs the dependency chain on the bridge the write returned. -/
theorem CleanupRun.proceeds {cr : DPFHCPBridge} {s s' : Session} {ts : Int}
    {out : Result × Option String × DPFHCPBridge} (run : CleanupRun cr s out s')
    (hq : ∀ i, s.faults i = none) (hp : s.store.bridges cr.key = some cr)
    (hts : cr.deletionTimestamp = some ts) (hin : s.clock - ts ≤ deletionTimeout) :
    ChainRun (inProgressStored cr s) s.clock (inProgressSession cr s) out s' := by
  have hwrite := @statusAnswer_of_persisted _ (markInProgress cr s.clock) cr hq
    (by rw [markInProgress_key]; exact hp) rfl
  cases run with
  | inProgressFailed ha => rw [hwrite] at ha; cases ha
  | noTimestamp ha ht =>
    rw [hwrite] at ha
    obtain ⟨-, rfl⟩ := Prod.mk.inj (Except.ok.inj ha)
    simp [markInProgress, hts] at ht
  | timedOutWriteFailed ha ht hlate _ | timedOutWritten ha ht hlate _ =>
    rw [hwrite] at ha
    obtain ⟨-, rfl⟩ := Prod.mk.inj (Except.ok.inj ha)
    simp only [markInProgress, withCleanupCondition_deletionTimestamp, hts,
      Option.some.injEq] at ht
    omega
  | proceeded ha _ _ chain =>
    rw [hwrite] at ha
    obtain ⟨rfl, rfl⟩ := Prod.mk.inj (Except.ok.inj ha)
    exact chain

/-- An invocation on the bridge as persisted, within `DeletionTimeout` of its deletion timestamp,
when no call fails and secrets are served. -/
theorem handleFinalizerCleanup_quiet {cr : DPFHCPBridge} {s : Session} {ts : Int}
    (hq : ∀ i, s.faults i = none) (hsec : s.store.installed .secret = true)
    (hp : s.store.bridges cr.key = some cr) (hts : cr.deletionTimestamp = some ts)
    (hin : s.clock - ts ≤ deletionTimeout) :
    Progress cr s.store (handleFinalizerCleanup cr s).1 (handleFinalizerCleanup cr s).2.store :=
  (ChainRun.quiet (by exact hq) (by exact hsec)
    (by simp [inProgressSession, inProgressStored, Session.afterStatus, markInProgress,
      DPFHCPBridge.key])
    (by simp [inProgressStored, cleanupOutcome, markInProgress, withCleanupCondition_find])
    ((handleFinalizerCleanup_run cr s).proceeds hq hp hts hin)).congr rfl rfl rfl rfl rfl

/-! ### Runs of invocations -/

/-- A session that answers every call from `st` at time `now`. -/
def quietSession (st : Store) (now : Int) : Session where
  store := st
  clock := now
  faults _ := none
  calls := []
  events := []

/-- What the environment may do between invocations: remove objects, and nothing else. -/
structure OnlyRemoves (st st' : Store) : Prop where
  bridges : st'.bridges = st.bridges
  installed : st'.installed = st.installed
  objects : ∀ r, st'.objects r = st.objects r ∨ st'.objects r = none

/-- The environment completes every pending deletion. -/
def ClearsMarked (st st' : Store) : Prop :=
  ∀ r o, st.objects r = some o → o.deletionTimestamp ≠ none → st'.objects r = none

/-- A run of invocations on the bridge persisted under `key`, each answered by the store with no
failed call and followed by an environment step in `env`; `outcomes` lists what each returned. -/
inductive TeardownRun (env : Store → Store → Prop) (key : String × String) :
    Store → List Int → List (Result × Option String) → Prop
  | nil (st : Store) : TeardownRun env key st [] []
  | cons {st st' : Store} {cr : DPFHCPBridge} {now : Int} {times : List Int}
      {outcomes : List (Result × Option String)} (hp : st.bridges key = some cr)
      (henv : env (handleFinalizerCleanup cr (quietSession st now)).2.store st')
      (rest : TeardownRun env key st' times outcomes) :
      TeardownRun env key st (now :: times)
        (((handleFinalizerCleanup cr (quietSession st now)).1.1,
          (handleFinalizerCleanup cr (quietSession st now)).1.2.1) :: outcomes)

theorem TeardownRun.length_eq {env : Store → Store → Prop} {key : String × String} {st : Store}
    {times : List Int} {outcomes : List (Result × Option String)}
    (run : TeardownRun env key st times outcomes) : outcomes.length = times.length := by
  induction run <;> simp [*]

/-- The bridge is persisted under `key` with deletion timestamp `ts`, and secrets are served. -/
def Persisted (key : String × String) (ts : Int) (st : Store) : Prop :=
  (∃ cr, st.bridges key = some cr ∧ cr.deletionTimestamp = some ts) ∧ st.installed .secret = true

/-- One invocation of a run and the environment step after it. -/
theorem Persisted.step {key : String × String} {ts now : Int} {st st' : Store} {cr : DPFHCPBridge}
    (hst : Persisted key ts st) (hp : st.bridges key = some cr) (hin : now - ts ≤ deletionTimeout)
    (henv : OnlyRemoves (handleFinalizerCleanup cr (quietSession st now)).2.store st') :
    Progress cr st (handleFinalizerCleanup cr (quietSession st now)).1
      (handleFinalizerCleanup cr (quietSession st now)).2.store ∧ Persisted key ts st' := by
  obtain ⟨⟨cr₀, hcr₀, hts⟩, hsec⟩ := hst
  obtain rfl : cr₀ = cr := Option.some.inj (hcr₀.symm.trans hp)
  have hkey : cr₀.key = key := st.bridge_at_key _ _ hp
  have h := handleFinalizerCleanup_quiet (s := quietSession st now) (fun _ => rfl) hsec
    (hkey ▸ hp) hts hin
  exact ⟨h, ⟨_, by rw [henv.bridges, ← hkey, h.persisted], h.timestamp.trans hts⟩,
    by rw [henv.installed, h.installed]; exact hsec⟩

/-- Every invocation of a run returns no error, and either succeeds or requeues. -/
theorem TeardownRun.returns {env : Store → Store → Prop} {key : String × String} {ts : Int}
    {st : Store} {times : List Int} {outcomes : List (Result × Option String)}
    (henv : ∀ a b, env a b → OnlyRemoves a b) (run : TeardownRun env key st times outcomes)
    (hst : Persisted key ts st) (htimes : ∀ now ∈ times, now - ts ≤ deletionTimeout) :
    ∀ o ∈ outcomes, o = ({}, none) ∨ o = ({ requeueAfter := deletionRequeueInterval }, none) := by
  induction run with
  | nil => simp
  | cons hp hrest _ ih =>
    obtain ⟨h, hst'⟩ := hst.step hp (htimes _ (List.mem_cons_self _ _)) (henv _ _ hrest)
    intro o ho
    rcases List.mem_cons.mp ho with rfl | ho
    · rw [h.result, h.noError]
      split <;> simp
    · exact ih hst' (fun now hnow => htimes now (List.mem_cons_of_mem _ hnow)) o ho

/-- How many of the bridge's HostedCluster and NodePool are present. -/
def pending (st : Store) (cr : DPFHCPBridge) : Nat :=
  (present st (dependentRef cr .hostedCluster)).toNat + (present st (dependentRef cr .nodePool)).toNat

theorem pending_le_two (st : Store) (cr : DPFHCPBridge) : pending st cr ≤ 2 := by
  unfold pending
  cases present st (dependentRef cr .hostedCluster) <;> cases present st (dependentRef cr .nodePool) <;>
    decide

theorem pending_of_key {st : Store} {cr cr' : DPFHCPBridge} (hkey : cr'.key = cr.key) :
    pending st cr' = pending st cr := by
  simp only [DPFHCPBridge.key, Prod.mk.injEq] at hkey
  simp only [pending, dependentRef, hkey.1, hkey.2]

/-- What is present after an invocation and an environment step was present before. -/
theorem present_of_progress {cr : DPFHCPBridge} {st st₁ st₂ : Store}
    {out : Result × Option String × DPFHCPBridge} {r : ObjectRef} (h : Progress cr st out st₁)
    (henv : OnlyRemoves st₁ st₂) (hr : present st₂ r = true) : present st r = true := by
  simp only [present, Bool.and_eq_true, Option.isSome_iff_ne_none] at hr ⊢
  refine ⟨by rw [← h.installed, ← henv.installed]; exact hr.1, fun hnone => hr.2 ?_⟩
  rcases henv.objects r with he | he
  · rw [he]; exact h.noCreate r hnone
  · exact he

/-- Nothing left live under `r` is present once the environment has cleared marked objects. -/
theorem present_eq_false_of_cleared {st₁ st₂ : Store} {r : ObjectRef} (hlive : NotLive st₁ r)
    (henv : OnlyRemoves st₁ st₂) (hclear : ClearsMarked st₁ st₂) : present st₂ r = false := by
  by_cases hi : st₁.installed r.kind = true
  · have hgone : st₂.objects r = none := by
      cases ho : st₁.objects r with
      | none => simpa [ho] using henv.objects r
      | some o => exact hclear r o ho (hlive o ho hi)
    simp [present, hgone]
  · simp [present, henv.installed, hi]

/-- An invocation that requeues, followed by an environment step that clears marked objects,
lowers `pending`. -/
theorem pending_lt_of_requeue {cr : DPFHCPBridge} {st st₁ st₂ : Store}
    {out : Result × Option String × DPFHCPBridge} (h : Progress cr st out st₁)
    (henv : OnlyRemoves st₁ st₂) (hclear : ClearsMarked st₁ st₂)
    (hreq : dependentsGone st cr = false) : pending st₂ cr < pending st cr := by
  have hmono : ∀ r, present st r = false → present st₂ r = false := fun r hr => by
    cases h₂ : present st₂ r
    · rfl
    · simpa [hr] using present_of_progress h henv h₂
  cases hhc : present st (dependentRef cr .hostedCluster)
  · have hnp : present st (dependentRef cr .nodePool) = true := by
      simpa [dependentsGone, hhc] using hreq
    have hnp₂ := present_eq_false_of_cleared (h.nodePool hhc hnp) henv hclear
    simp [pending, hhc, hnp, hmono _ hhc, hnp₂]
  · have hhc₂ := present_eq_false_of_cleared (h.hostedCluster hhc) henv hclear
    unfold pending
    rw [hhc, hhc₂]
    cases hnp : present st (dependentRef cr .nodePool)
    · simp [hmono _ hnp]
    · cases present st₂ (dependentRef cr .nodePool) <;> decide

/-- When the environment clears marked objects, a run succeeds within `pending + 1` invocations. -/
theorem TeardownRun.succeeds {env : Store → Store → Prop} {key : String × String} {ts : Int}
    {st : Store} {times : List Int} {outcomes : List (Result × Option String)}
    (henv : ∀ a b, env a b → OnlyRemoves a b ∧ ClearsMarked a b)
    (run : TeardownRun env key st times outcomes) (hst : Persisted key ts st)
    (htimes : ∀ now ∈ times, now - ts ≤ deletionTimeout) :
    ∀ cr n, st.bridges key = some cr → pending st cr < n → n ≤ outcomes.length →
      ({}, none) ∈ outcomes.take n := by
  induction run with
  | nil => intro cr n _ hn hlen; simp at hlen; omega
  | @cons st st' cr now times outcomes hp hrest _ ih =>
    intro cr' n hp' hn hlen
    obtain rfl : cr' = cr := Option.some.inj (hp'.symm.trans hp)
    obtain ⟨hremoves, hclear⟩ := henv _ _ hrest
    obtain ⟨h, hst'⟩ := hst.step hp (htimes _ (List.mem_cons_self _ _)) hremoves
    obtain ⟨n, rfl⟩ : ∃ m, n = m + 1 := ⟨n - 1, by omega⟩
    rw [List.take_succ_cons, List.mem_cons]
    cases hgone : dependentsGone st cr'
    · refine .inr (ih hst' (fun now hnow => htimes now (List.mem_cons_of_mem _ hnow)) _ n
        (by rw [hremoves.bridges, ← st.bridge_at_key _ _ hp]; exact h.persisted) ?_
        (by simpa using hlen))
      rw [pending_of_key (Store.bridge_at_key _ _ _ h.persisted)]
      have := pending_lt_of_requeue h hremoves hclear hgone
      omega
    · left
      rw [h.result, h.noError, hgone]
      rfl

/-! ### The environment that finishes deletions -/

/-- The environment completing every pending deletion at once: each marked object goes. -/
def finishDeletions (st : Store) : Store where
  objects r := (st.objects r).filter (·.deletionTimestamp.isNone)
  bridges := st.bridges
  installed := st.installed
  revision := st.revision
  object_at_ref r o h := st.object_at_ref r o (Option.filter_eq_some.mp h).1
  object_version_lt r o h := st.object_version_lt r o (Option.filter_eq_some.mp h).1
  bridge_at_key := st.bridge_at_key
  bridge_version_lt := st.bridge_version_lt

theorem finishDeletions_onlyRemoves (st : Store) : OnlyRemoves st (finishDeletions st) := by
  refine ⟨rfl, rfl, fun r => ?_⟩
  show (st.objects r).filter _ = _ ∨ (st.objects r).filter _ = none
  cases st.objects r with
  | none => simp
  | some o => by_cases ho : o.deletionTimestamp = none <;> simp [Option.filter, ho]

theorem finishDeletions_clearsMarked (st : Store) : ClearsMarked st (finishDeletions st) :=
  fun r o ho hts => by simp [finishDeletions, ho, Option.filter, Option.isNone_iff_eq_none, hts]

/-- The invocations at `times`, each followed by `finishDeletions`, while the bridge is
persisted: what the controller's requeue loop does against a store whose garbage collector keeps
up. -/
def finishingRun (key : String × String) : Store → List Int → List (Result × Option String)
  | _, [] => []
  | st, now :: times =>
    match st.bridges key with
    | none => []
    | some cr =>
      ((handleFinalizerCleanup cr (quietSession st now)).1.1,
        (handleFinalizerCleanup cr (quietSession st now)).1.2.1) ::
        finishingRun key (finishDeletions (handleFinalizerCleanup cr (quietSession st now)).2.store)
          times

/-- `finishingRun` is a run of the teardown. -/
theorem finishingRun_run {key : String × String} {ts : Int} {st : Store} {times : List Int}
    (hst : Persisted key ts st) (htimes : ∀ now ∈ times, now - ts ≤ deletionTimeout) :
    TeardownRun (fun a b => b = finishDeletions a) key st times (finishingRun key st times) := by
  induction times generalizing st with
  | nil => exact .nil st
  | cons now times ih =>
    obtain ⟨cr, hp, -⟩ := hst.1
    have hnext := (hst.step hp (htimes now (List.mem_cons_self _ _))
      (finishDeletions_onlyRemoves _)).2
    simp only [finishingRun, hp]
    exact .cons hp rfl (ih hnext fun now' h => htimes now' (List.mem_cons_of_mem _ h))

/-! ### The teardown converges -/

theorem teardown_converges :
    (∀ (cr : DPFHCPBridge) (s : Session) (ts : Int), (∀ i, s.faults i = none) →
      s.store.installed .secret = true → s.store.bridges cr.key = some cr →
      cr.deletionTimestamp = some ts → s.clock - ts ≤ deletionTimeout →
      Progress cr s.store (handleFinalizerCleanup cr s).1 (handleFinalizerCleanup cr s).2.store) ∧
    (∀ (cr : DPFHCPBridge) (s : Session), ∃ t, (handleFinalizerCleanup cr s).2.calls = s.calls ++ t ∧
      ∀ c ∈ t, ∀ ref obj, c.call = .delete ref obj → ref.kind ≠ .secret →
        obj.deletionTimestamp = none) ∧
    (∀ (env : Store → Store → Prop) (key : String × String) (ts : Int) (st : Store)
      (times : List Int) (outcomes : List (Result × Option String)),
      (∀ a b, env a b → OnlyRemoves a b) → TeardownRun env key st times outcomes →
      Persisted key ts st → (∀ now ∈ times, now - ts ≤ deletionTimeout) →
      (∀ o ∈ outcomes, o = ({}, none) ∨ o = ({ requeueAfter := deletionRequeueInterval }, none)) ∧
      ((∀ a b, env a b → ClearsMarked a b) → 3 ≤ times.length →
        ({}, none) ∈ outcomes.take 3)) := by
  refine ⟨fun cr s ts hq hsec hp hts hin => handleFinalizerCleanup_quiet hq hsec hp hts hin,
    handleFinalizerCleanup_deletes_unmarked, fun env key ts st times outcomes henv run hst htimes =>
    ⟨run.returns henv hst htimes, fun hclear hlen => ?_⟩⟩
  obtain ⟨cr, hp, -⟩ := hst.1
  exact run.succeeds (fun a b h => ⟨henv a b h, hclear a b h⟩) hst htimes cr 3 hp
    (Nat.lt_succ_of_le (pending_le_two st cr)) (run.length_eq ▸ hlen)

/-- `deletingBridge` persisted with a HostedCluster and a NodePool named after it, each held by a
finalizer. -/
def heldDependentsStore : Store :=
  (((Store.empty fun _ => true).putBridge deletingBridge).put .hostedCluster
    { userPullSecret with name := "bridge", finalizers := ["hypershift.openshift.io/finalizer"] }).put
    .nodePool { userPullSecret with name := "bridge", finalizers := ["hypershift.openshift.io/finalizer"] }

theorem teardown_converges_sample :
    ({}, none) ∈ (finishingRun deletingBridge.key heldDependentsStore
        [minute, 2 * minute, 3 * minute]).take 3 ∧
      Progress { deletingBridge with resourceVersion := 1 } heldDependentsStore
        (handleFinalizerCleanup { deletingBridge with resourceVersion := 1 }
          (quietSession heldDependentsStore minute)).1
        (handleFinalizerCleanup { deletingBridge with resourceVersion := 1 }
          (quietSession heldDependentsStore minute)).2.store := by
  have hst : Persisted deletingBridge.key 0 heldDependentsStore :=
    ⟨⟨{ deletingBridge with resourceVersion := 1 }, by decide, rfl⟩, rfl⟩
  have htimes : ∀ now ∈ [minute, 2 * minute, 3 * minute], now - 0 ≤ deletionTimeout := by decide
  exact ⟨(teardown_converges.2.2 (fun a b => b = finishDeletions a) _ _ _ _ _
    (fun a _ h => h ▸ finishDeletions_onlyRemoves a) (finishingRun_run hst htimes) hst htimes).2
    (fun a _ h => h ▸ finishDeletions_clearsMarked a) (by decide),
    teardown_converges.1 _ (quietSession heldDependentsStore minute) 0 (fun _ => rfl) rfl
    (by decide) rfl (by decide)⟩

/-- `deletingBridge` persisted with its derived pull secret already being deleted and held by a
finalizer; its HostedCluster and NodePool are gone. -/
def markedSecretStore : Store :=
  ((Store.empty fun _ => true).putBridge deletingBridge).put .secret
    { userPullSecret with finalizers := ["kubernetes"], deletionTimestamp := some 0 }

theorem cleanup_deletes_marked_secret :
    (⟨.delete ⟨.secret, "clusters", "bridge-pull-secret"⟩
        { userPullSecret with
          finalizers := ["kubernetes"], deletionTimestamp := some 0, resourceVersion := 2 },
        none⟩ : Issued) ∈
      (handleFinalizerCleanup { deletingBridge with resourceVersion := 1 }
        (quietSession markedSecretStore minute)).2.calls := by
  decide

/-! ### Deleting the derived secrets -/

/-- With no failed call and secrets served, `deleteSecrets` succeeds whichever of the three
secrets are there, leaves none of them live, and succeeds again when called once more. -/
theorem deleteSecrets_tolerates_absence (cr : DPFHCPBridge) (s : Session)
    (hq : ∀ i, s.faults i = none) (hsec : s.store.installed .secret = true) :
    (deleteSecrets cr s).1 = none ∧
      (∀ name ∈ secretNames cr, NotLive (deleteSecrets cr s).2.store (secretRef cr.ns name)) ∧
      (deleteSecrets cr (deleteSecrets cr s).2).1 = none := by
  obtain ⟨hout, hframe, hlive⟩ := (deleteSecretsIn_run cr.ns (secretNames cr) s).quiet hq hsec
  exact ⟨hout, hlive, ((deleteSecretsIn_run cr.ns (secretNames cr) _).quiet
    (fun i => (congrFun hframe.faults i).trans (hq i))
    ((congrFun hframe.installed .secret).trans hsec)).1⟩

theorem deleteSecrets_tolerates_absence_sample :
    (∀ i, (quietSession markedSecretStore minute).faults i = none) ∧
      markedSecretStore.installed .secret = true ∧
      (deleteSecrets deletingBridge (quietSession markedSecretStore minute)).1 = none ∧
      (deleteSecrets deletingBridge (deleteSecrets deletingBridge
        (quietSession markedSecretStore minute)).2).1 = none :=
  have h := deleteSecrets_tolerates_absence deletingBridge (quietSession markedSecretStore minute)
    (fun _ => rfl) rfl
  ⟨fun _ => rfl, rfl, h.1, h.2.2⟩

end DpfHcpBridge.HostedCluster
