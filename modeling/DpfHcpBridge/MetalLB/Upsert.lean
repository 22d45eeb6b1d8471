import DpfHcpBridge.MetalLB.Manager

/-!
# One upsert

What one call of `ensureResource` does to the resource it ensures. `Admits` says that nothing in
the store keeps the resource of a bridge from being ensured: its kind is installed, and an object
under its name, if there is one, is the bridge's. A run that succeeds found its resource admitted
(`EnsureRun.admits`), and without a fault an admitted resource is ensured
(`EnsureRun.ok_of_admits`). A run that succeeds on an absent object created the built object and
made no other call than its `Get` (`EnsureRun.of_absent`), whatever the faults.

On these rest two properties the upsert is written for.
`ensureResource_idempotent`: without faults, on an admitted resource, a call succeeds, creates an
absent object with its one write, and a second call right after only reads.
`ensureResource_respects_foreign`: whatever the faults, an object under the resource's name that
the bridge does not own is left as it is and the call fails; when its `Get` is answered by the
store, the call stops there with the ownership error (`ensureResource_of_foreign`).
-/

set_option autoImplicit false
set_option relaxedAutoImplicit false

namespace DpfHcpBridge.MetalLB

/-! ### Admitted resources -/

/-- Nothing in the store keeps the resource of `bridge` from being ensured: its kind is installed,
and an object under its name, if there is one, is owned by the bridge. -/
def Admits (r : ManagedResource) (bridge : DPFHCPBridge) (st : Store) : Prop :=
  st.installed r.kind = true ∧
    ∀ o, st.objects (r.ref bridge) = some o → isOwnedByBridge o bridge = true

theorem Admits.of_agree {r : ManagedResource} {bridge : DPFHCPBridge} {st st' : Store}
    (hi : st'.installed = st.installed) (ho : st'.objects (r.ref bridge) = st.objects (r.ref bridge))
    (h : Admits r bridge st) : Admits r bridge st' := by
  rwa [Admits, hi, ho]

theorem Admits.of_absent {r : ManagedResource} {bridge : DPFHCPBridge} {st : Store}
    (hi : st.installed r.kind = true) (habsent : st.objects (r.ref bridge) = none) :
    Admits r bridge st :=
  ⟨hi, fun _ ho => by rw [habsent] at ho; cases ho⟩

theorem Admits.of_owned {r : ManagedResource} {bridge : DPFHCPBridge} {st : Store} {obj : Object}
    (hi : st.installed r.kind = true) (hobj : st.objects (r.ref bridge) = some obj)
    (hown : isOwnedByBridge obj bridge = true) : Admits r bridge st :=
  ⟨hi, fun _ ho => Option.some.inj (hobj.symm.trans ho) ▸ hown⟩

/-- A run that succeeds found its resource admitted. -/
theorem EnsureRun.admits {r : ManagedResource} {bridge : DPFHCPBridge} {s s' : Session}
    (run : EnsureRun r bridge s none s') : Admits r bridge s.store := by
  cases run with
  | unchanged h =>
    obtain ⟨existing, hg, hown, -⟩ := afterGet_eq_done r bridge h
    obtain ⟨hi, hobj, -⟩ := r.ref_of_got bridge hg
    exact .of_owned hi hobj hown
  | created _ _ hs =>
    obtain ⟨hi, habsent, -⟩ := Store.create_eq_ok hs
    rw [r.ref_build] at habsent
    exact .of_absent hi habsent
  | updated h _ hs =>
    obtain ⟨existing, hobj, hown, -⟩ := afterGet_update_read r bridge h
    exact .of_owned (Store.update_eq_ok hs).1 hobj hown

/-- With no fault, a resource the store admits is ensured. -/
theorem EnsureRun.ok_of_admits {r : ManagedResource} {bridge : DPFHCPBridge} {s s' : Session}
    {res : Option String} (run : EnsureRun r bridge s res s') (hf : ∀ i, s.faults i = none)
    (h : Admits r bridge s.store) : res = none := by
  have hgot : r.got bridge s = s.store.get r.kind openshiftOperatorsNamespace (r.objectName bridge) :=
    by simp [ManagedResource.got, Session.got, hf]
  cases run with
  | failed hfail =>
    rcases afterGet_eq_fail r bridge hfail with ⟨e, hg, hne, -⟩ | ⟨existing, hg, hown, -⟩
    · rcases Store.get_eq_error (hgot ▸ hg) with ⟨hni, -⟩ | ⟨-, -, rfl⟩
      · simp [h.1] at hni
      · exact absurd rfl hne
    · obtain ⟨-, hobj, -⟩ := r.ref_of_got bridge hg
      simp [h.2 existing hobj] at hown
  | createFailed hcreate he =>
    obtain ⟨hg, -⟩ := afterGet_eq_create r bridge hcreate
    have habsent : s.store.objects ((r.build bridge).ref r.kind) = none := by
      rcases Store.get_eq_error (hgot ▸ hg) with ⟨hni, -⟩ | ⟨-, habsent, -⟩
      · simp [h.1] at hni
      · rw [r.ref_build]; exact habsent
    simp [Session.answer, ManagedResource.read, hf, Store.create, h.1, habsent, Except.map] at he
  | updateFailed hupdate he =>
    obtain ⟨existing, hobj, -, -, rfl, href⟩ := afterGet_update_read r bridge hupdate
    simp [Session.answer, ManagedResource.read, hf, Store.update, h.1, href, hobj, Except.map] at he
  | unchanged | created | updated => rfl

/-- A run that succeeds on an absent object created it: the built object, with no deletion marker
and the store's next version token, after a `Get` that answered NotFound. -/
theorem EnsureRun.of_absent {r : ManagedResource} {bridge : DPFHCPBridge} {s s' : Session}
    (run : EnsureRun r bridge s none s') (habsent : s.store.objects (r.ref bridge) = none) :
    s'.calls = s.calls ++ [⟨.get (r.ref bridge), some .notFound⟩,
        ⟨.create (r.ref bridge) (r.build bridge), none⟩] ∧
      s'.store.objects (r.ref bridge) = some { r.build bridge with
        deletionTimestamp := none
        resourceVersion := s.store.revision } := by
  cases run with
  | unchanged h =>
    obtain ⟨existing, hg, -⟩ := afterGet_eq_done r bridge h
    simp [(r.ref_of_got bridge hg).2.1] at habsent
  | created h _ hs =>
    obtain ⟨hg, -⟩ := afterGet_eq_create r bridge h
    obtain ⟨-, -, rfl⟩ := Store.create_eq_ok hs
    exact ⟨by simp [hg, outcomeOf],
      @Store.put_objects_of_ref s.store r.kind { r.build bridge with deletionTimestamp := none } _
        (r.ref_build bridge)⟩
  | updated h =>
    obtain ⟨existing, hobj, -⟩ := afterGet_update_read r bridge h
    simp [hobj] at habsent

/-! ### The upsert properties -/

section Upsert

variable (r : ManagedResource) (bridge : DPFHCPBridge)

theorem ensureResource_idempotent (s : Session) (hq : ∀ i, s.faults i = none)
    (h : Admits r bridge s.store) :
    (ensureResource r bridge s).1 = none ∧
      (s.store.objects (r.ref bridge) = none →
        (ensureResource r bridge s).2.calls = s.calls ++ [⟨.get (r.ref bridge), some .notFound⟩,
            ⟨.create (r.ref bridge) (r.build bridge), none⟩] ∧
          (ensureResource r bridge s).2.store.objects (r.ref bridge) = some { r.build bridge with
            deletionTimestamp := none
            resourceVersion := s.store.revision }) ∧
      ensureResource r bridge (ensureResource r bridge s).2 =
        (none, r.read bridge (ensureResource r bridge s).2) := by
  have hok : (ensureResource r bridge s).1 = none := (ensureResource_run r bridge s).ok_of_admits hq h
  have run : EnsureRun r bridge s none (ensureResource r bridge s).2 :=
    hok ▸ ensureResource_run r bridge s
  have hfaults : (ensureResource r bridge s).2.faults = s.faults := (EnsureRun.confined _ _ run).faults
  exact ⟨hok, run.of_absent,
    ensureResource_of_ensured r bridge _ (by rw [hfaults]; exact hq _) (EnsureRun.ensured _ _ run).1⟩

theorem ensureResource_idempotent_sample :
    let r := ipAddressPool
    let bridge := sampleBridge
    let s := sampleSession
    (∀ i, s.faults i = none) ∧ Admits r bridge s.store ∧
      (ensureResource r bridge s).1 = none ∧
      (s.store.objects (r.ref bridge) = none →
        (ensureResource r bridge s).2.calls = s.calls ++ [⟨.get (r.ref bridge), some .notFound⟩,
            ⟨.create (r.ref bridge) (r.build bridge), none⟩] ∧
          (ensureResource r bridge s).2.store.objects (r.ref bridge) = some { r.build bridge with
            deletionTimestamp := none
            resourceVersion := s.store.revision }) ∧
      ensureResource r bridge (ensureResource r bridge s).2 =
        (none, r.read bridge (ensureResource r bridge s).2) :=
  have h : Admits ipAddressPool sampleBridge sampleSession.store := .of_absent rfl rfl
  ⟨fun _ => rfl, h, ensureResource_idempotent _ _ _ (fun _ => rfl) h⟩

end Upsert

/-! ### Objects of another owner -/

/-- A resource the bridge does not own stops `ensureResource` after its `Get`, with the
ownership error. -/
theorem ensureResource_of_foreign (r : ManagedResource) (bridge : DPFHCPBridge) (s : Session)
    {existing : Object} (hi : s.store.installed r.kind = true)
    (hf : s.faults s.calls.length = none) (hobj : s.store.objects (r.ref bridge) = some existing)
    (hown : isOwnedByBridge existing bridge = false) :
    ensureResource r bridge s = (some (r.notOwnedMessage existing bridge), r.read bridge s) :=
  ensureResource_of_afterGet_fail r bridge s (by
    rw [r.got_of_present bridge hi hf hobj]
    simp [ManagedResource.afterGet, hown])

/-- An object under `sampleBridge`'s names in `openshift-operators` that carries no label. -/
def unlabelledObject (name : String) : Object where
  name := name
  ns := openshiftOperatorsNamespace
  labels := []
  annotations := []
  ownerReferences := []
  finalizers := []
  deletionTimestamp := none
  resourceVersion := 0
  spec := .unread

/-- `sampleSession` with a foreign IPAddressPool. -/
def foreignPoolSession : Session :=
  { sampleSession with store := sampleSession.store.put .ipAddressPool (unlabelledObject "bridge") }

theorem ensureResource_respects_foreign (r : ManagedResource) (bridge : DPFHCPBridge) (s : Session)
    {existing : Object} (hobj : s.store.objects (r.ref bridge) = some existing)
    (hown : isOwnedByBridge existing bridge = false) :
    (∃ err, (ensureResource r bridge s).1 = some err) ∧
      (ensureResource r bridge s).2.store = s.store ∧
      (s.store.installed r.kind = true → s.faults s.calls.length = none →
        ensureResource r bridge s = (some (r.notOwnedMessage existing bridge), r.read bridge s)) := by
  have hforeign : ∀ o, s.store.objects (r.ref bridge) = some o → isOwnedByBridge o bridge = false :=
    fun o ho => by rw [hobj, Option.some.injEq] at ho; exact ho ▸ hown
  have hrun : (∃ err, (ensureResource r bridge s).1 = some err) ∧
      (ensureResource r bridge s).2.store = s.store := by
    have run := ensureResource_run r bridge s
    generalize ensureResource r bridge s = o at run ⊢
    obtain ⟨res, s'⟩ := o
    cases run with
    | failed | createFailed | updateFailed => exact ⟨⟨_, rfl⟩, rfl⟩
    | unchanged h =>
      obtain ⟨o, hg, howned, -⟩ := afterGet_eq_done r bridge h
      simp [hforeign o (r.ref_of_got bridge hg).2.1] at howned
    | created _ _ hs =>
      obtain ⟨-, habsent, -⟩ := Store.create_eq_ok hs
      rw [r.ref_build] at habsent
      simp [hobj] at habsent
    | updated h =>
      obtain ⟨o, ho, howned, -⟩ := afterGet_update_read r bridge h
      simp [hforeign o ho] at howned
  exact ⟨hrun.1, hrun.2, fun hi hf => ensureResource_of_foreign r bridge s hi hf hobj hown⟩

theorem ensureResource_respects_foreign_sample :
    let r := ipAddressPool
    let bridge := sampleBridge
    let s := foreignPoolSession
    let existing := { unlabelledObject "bridge" with resourceVersion := 2 }
    s.store.objects (r.ref bridge) = some existing ∧ isOwnedByBridge existing bridge = false ∧
      (∃ err, (ensureResource r bridge s).1 = some err) ∧
      (ensureResource r bridge s).2.store = s.store ∧
      (s.store.installed r.kind = true → s.faults s.calls.length = none →
        ensureResource r bridge s = (some (r.notOwnedMessage existing bridge), r.read bridge s)) :=
  ⟨by decide, by decide, ensureResource_respects_foreign _ _ _ (by decide) (by decide)⟩

end DpfHcpBridge.MetalLB
