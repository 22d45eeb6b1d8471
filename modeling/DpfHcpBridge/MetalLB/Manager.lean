import DpfHcpBridge.Client
import DpfHcpBridge.Conditions

/-!
# The MetalLB manager

`internal/controller/metallb/metallb.go`, with `common.ResourceNeedsUpdate` from the `common`
package. `configureMetalLB` ensures the bridge's IPAddressPool, then its L2Advertisement, and
reports the outcome in the `MetalLBConfigured` condition through `setCondition`.

`ensureIPAddressPool` and `ensureL2Advertisement` differ only in the kind, the object's name,
the builder and the kind's name in their messages, so both are `ensureResource` applied to a
`ManagedResource` that records those four values. The branch on the answer to the `Get` is
`ManagedResource.afterGet`, a pure function; `ensureResource` acts on its verdict, and the
interleaved model of `MetalLB.Interleaving` takes the same verdict after each of its reads, so
the two models make one decision.
-/

set_option autoImplicit false
set_option relaxedAutoImplicit false

namespace DpfHcpBridge

/-- `common.ResourceNeedsUpdate`: two present objects differ when their specs do; of two
pointers of which one is nil they differ, and two nil pointers do not. -/
def resourceNeedsUpdate (existing desired : Option Object) : Bool :=
  match existing, desired with
  | some existing, some desired => existing.spec != desired.spec
  | none, none => false
  | _, _ => true

namespace MetalLB

/-! ### Ownership and desired objects -/

/-- `isOwnedByBridge`: both ownership labels are present and name this bridge. A nil label map
has no labels, so the source's early `false` for it is the last case here. -/
def isOwnedByBridge (obj : Object) (bridge : DPFHCPBridge) : Bool :=
  match obj.labels.lookup labelDPFHCPBridgeName, obj.labels.lookup labelDPFHCPBridgeNamespace with
  | some bridgeName, some bridgeNamespace => bridgeName == bridge.name && bridgeNamespace == bridge.ns
  | _, _ => false

/-- The label map both builders write. -/
def ownershipLabels (bridge : DPFHCPBridge) : List (String × String) :=
  [(labelDPFHCPBridgeName, bridge.name), (labelDPFHCPBridgeNamespace, bridge.ns)]

/-- `buildIPAddressPool`. -/
def buildIPAddressPool (bridge : DPFHCPBridge) : Object where
  name := bridge.name
  ns := openshiftOperatorsNamespace
  labels := ownershipLabels bridge
  annotations := []
  ownerReferences := []
  finalizers := []
  deletionTimestamp := none
  resourceVersion := 0
  spec := .ipAddressPool
    { addresses := [bridge.spec.virtualIP ++ "/32"]
      autoAssign := some true
      avoidBuggyIPs := false
      allocateTo := some { priority := 0, namespaces := ["clusters-" ++ bridge.name] } }

/-- `buildL2Advertisement`. -/
def buildL2Advertisement (bridge : DPFHCPBridge) : Object where
  name := "advertise-" ++ bridge.name
  ns := openshiftOperatorsNamespace
  labels := ownershipLabels bridge
  annotations := []
  ownerReferences := []
  finalizers := []
  deletionTimestamp := none
  resourceVersion := 0
  spec := .l2Advertisement { ipAddressPools := [bridge.name], interfaces := [] }

@[simp] theorem isOwnedByBridge_ownershipLabels (obj : Object) (bridge : DPFHCPBridge)
    (h : obj.labels = ownershipLabels bridge) : isOwnedByBridge obj bridge = true := by
  have hk : (labelDPFHCPBridgeNamespace == labelDPFHCPBridgeName) = false := by decide
  simp [isOwnedByBridge, h, ownershipLabels, List.lookup_cons, hk]

/-! ### Ensuring one resource -/

/-- The values that tell the two `ensure…` functions apart. The builder puts the object under
the name the `Get` looks up, in `openshift-operators`, with the bridge's ownership labels and no
deletion marker; the source builds both objects so. -/
structure ManagedResource where
  kind : Kind
  kindName : String
  objectName : DPFHCPBridge → String
  build : DPFHCPBridge → Object
  build_name : ∀ bridge, (build bridge).name = objectName bridge
  build_ns : ∀ bridge, (build bridge).ns = openshiftOperatorsNamespace
  build_labels : ∀ bridge, (build bridge).labels = ownershipLabels bridge

/-- The IPAddressPool, named after the bridge. -/
def ipAddressPool : ManagedResource where
  kind := .ipAddressPool
  kindName := "IPAddressPool"
  objectName bridge := bridge.name
  build := buildIPAddressPool
  build_name _ := rfl
  build_ns _ := rfl
  build_labels _ := rfl

/-- The L2Advertisement, named `advertise-<bridge>`. -/
def l2Advertisement : ManagedResource where
  kind := .l2Advertisement
  kindName := "L2Advertisement"
  objectName bridge := "advertise-" ++ bridge.name
  build := buildL2Advertisement
  build_name _ := rfl
  build_ns _ := rfl
  build_labels _ := rfl

namespace ManagedResource

variable (r : ManagedResource)

/-- Where the resource of a bridge lives. -/
def ref (bridge : DPFHCPBridge) : ObjectRef :=
  ⟨r.kind, openshiftOperatorsNamespace, r.objectName bridge⟩

/-- The foreign-ownership error. -/
def notOwnedMessage (existing : Object) (bridge : DPFHCPBridge) : String :=
  r.kindName ++ " " ++ existing.ns ++ "/" ++ existing.name ++
    " exists but is not owned by DPFHCPBridge " ++ bridge.ns ++ "/" ++ bridge.name ++
    " (missing ownership labels)"

/-- The error of a failed `Get`. -/
def getMessage (err : ApiError) : String := "getting " ++ r.kindName ++ ": " ++ err.text

/-- The error of a failed `Create`. -/
def createMessage (err : ApiError) : String := "creating " ++ r.kindName ++ ": " ++ err.text

/-- The error of a failed `Update`. -/
def updateMessage (err : ApiError) : String := "updating " ++ r.kindName ++ ": " ++ err.text

/-- The event of a corrected drift. -/
def driftEvent (corrected : Object) : Event :=
  ⟨"Normal", "MetalLBDriftCorrected", "Corrected spec drift in " ++ r.kindName ++ " " ++ corrected.name⟩

end ManagedResource

/-- The two resources never share a reference, whichever bridges they belong to. -/
theorem ipAddressPool_ref_ne (bridge bridge' : DPFHCPBridge) :
    ipAddressPool.ref bridge ≠ l2Advertisement.ref bridge' := by
  simp [ManagedResource.ref, ipAddressPool, l2Advertisement]

/-- What `ensure…` does once its `Get` is answered. -/
inductive EnsureStep
  | create (desired : Object)
  | update (corrected : Object)
  | fail (err : String)
  | done
  deriving DecidableEq, Repr

/-- The branch of `ensure…` on the answer to its `Get`: create on NotFound, give up on any other
error or on a resource the bridge does not own, and otherwise correct a drifted spec in place. -/
def ManagedResource.afterGet (r : ManagedResource) (bridge : DPFHCPBridge) :
    Except ApiError Object → EnsureStep
  | .error err => if err.isNotFound then .create (r.build bridge) else .fail (r.getMessage err)
  | .ok existing =>
    if !isOwnedByBridge existing bridge then .fail (r.notOwnedMessage existing bridge)
    else if resourceNeedsUpdate (some existing) (some (r.build bridge)) then
      .update { existing with spec := (r.build bridge).spec }
    else .done

/-- `ensureIPAddressPool` and `ensureL2Advertisement`, with the kind as a parameter. -/
def ensureResource (r : ManagedResource) (bridge : DPFHCPBridge) : ClientM (Option String) := do
  let got ← getObject r.kind openshiftOperatorsNamespace (r.objectName bridge)
  match r.afterGet bridge got with
  | .create desired =>
    match ← createObject r.kind desired with
    | .error err => return some (r.createMessage err)
    | .ok () => return none
  | .update corrected =>
    match ← updateObject r.kind corrected with
    | .error err => return some (r.updateMessage err)
    | .ok () => do
      emit (r.driftEvent corrected)
      return none
  | .fail err => return some err
  | .done => return none

/-- `ensureIPAddressPool`. -/
def ensureIPAddressPool (bridge : DPFHCPBridge) : ClientM (Option String) :=
  ensureResource ipAddressPool bridge

/-- `ensureL2Advertisement`. -/
def ensureL2Advertisement (bridge : DPFHCPBridge) : ClientM (Option String) :=
  ensureResource l2Advertisement bridge

/-! ### The condition and the orchestration -/

/-- The event `setCondition` emits with a changed condition. -/
def conditionEvent (status : ConditionStatus) (message : String) : Event :=
  if status = .conditionFalse then ⟨"Warning", "MetalLBConfigurationFailed", message⟩
  else ⟨"Normal", "MetalLBConfigured", message⟩

/-- The `MetalLBConfigured` condition `setCondition` builds. -/
def metalLBCondition (bridge : DPFHCPBridge) (status : ConditionStatus) (reason message : String)
    (now : Int) : Condition :=
  ⟨metalLBConfigured, status, reason, message, now, bridge.generation⟩

/-- `setCondition`: set the condition in memory; when that changed it, emit the event, then
write the status. Answers with the write's error, if any, and the bridge as it now stands. -/
def setCondition (bridge : DPFHCPBridge) (status : ConditionStatus) (reason message : String) :
    ClientM (Option String × DPFHCPBridge) := do
  let now ← clock
  let set := setStatusCondition (metalLBCondition bridge status reason message now) bridge.conditions
  let bridge := { bridge with conditions := set.2 }
  if set.1 then
    emit (conditionEvent status message)
    match ← updateStatus bridge with
    | .error err => return (some ("updating MetalLBConfigured condition: " ++ err.text), bridge)
    | .ok stored => return (none, stored)
  else return (none, bridge)

/-- `ConfigureMetalLB`: the result, the returned error and the bridge as it stands afterwards. -/
def configureMetalLB (bridge : DPFHCPBridge) : ClientM (Result × Option String × DPFHCPBridge) := do
  if !bridge.shouldExposeThroughLoadBalancer then return ({}, none, bridge)
  match ← ensureIPAddressPool bridge with
  | some err =>
    let (_, bridge) ← setCondition bridge .conditionFalse "CreatingIPAddressPool"
      ("Failed to create/update IPAddressPool: " ++ err)
    return ({}, some err, bridge)
  | none =>
    match ← ensureL2Advertisement bridge with
    | some err =>
      let (_, bridge) ← setCondition bridge .conditionFalse "L2AdvertisementFailed"
        ("Failed to create/update L2Advertisement: " ++ err)
      return ({}, some err, bridge)
    | none =>
      let (condErr, bridge) ← setCondition bridge .conditionTrue "MetalLBReady"
        "MetalLB configured successfully"
      return ({}, condErr, bridge)

/-! ### What `ensureResource` does -/

section Ensure

variable (r : ManagedResource) (bridge : DPFHCPBridge)

theorem afterGet_eq_create {got : Except ApiError Object} {desired : Object}
    (h : r.afterGet bridge got = .create desired) :
    got = .error .notFound ∧ desired = r.build bridge := by
  rcases got with (_ | _ | _ | _ | _) | existing <;> simp [ManagedResource.afterGet, ApiError.isNotFound] at h ⊢
  · exact h.symm
  · split_ifs at h

theorem afterGet_eq_update {got : Except ApiError Object} {corrected : Object}
    (h : r.afterGet bridge got = .update corrected) :
    ∃ existing, got = .ok existing ∧ isOwnedByBridge existing bridge = true ∧
      existing.spec ≠ (r.build bridge).spec ∧
      corrected = { existing with spec := (r.build bridge).spec } := by
  rcases got with (_ | _ | _ | _ | _) | existing <;>
    simp [ManagedResource.afterGet, ApiError.isNotFound, resourceNeedsUpdate] at h ⊢
  split_ifs at h with h1 h2
  simp_all

theorem afterGet_eq_done {got : Except ApiError Object} (h : r.afterGet bridge got = .done) :
    ∃ existing, got = .ok existing ∧ isOwnedByBridge existing bridge = true ∧
      existing.spec = (r.build bridge).spec := by
  rcases got with (_ | _ | _ | _ | _) | existing <;>
    simp [ManagedResource.afterGet, ApiError.isNotFound, resourceNeedsUpdate] at h ⊢
  split_ifs at h with h1 h2
  simp_all

theorem afterGet_eq_fail {got : Except ApiError Object} {err : String}
    (h : r.afterGet bridge got = .fail err) :
    (∃ e, got = .error e ∧ e ≠ .notFound ∧ err = r.getMessage e) ∨
      ∃ existing, got = .ok existing ∧ isOwnedByBridge existing bridge = false ∧
        err = r.notOwnedMessage existing bridge := by
  rcases got with e | existing
  · left
    by_cases he : e = .notFound
    · subst he
      simp [ManagedResource.afterGet, ApiError.isNotFound] at h
    · have hnf : e.isNotFound = false := by cases e <;> simp_all [ApiError.isNotFound]
      simp only [ManagedResource.afterGet, hnf] at h
      exact ⟨e, rfl, he, (EnsureStep.fail.inj h).symm⟩
  · right
    simp only [ManagedResource.afterGet] at h
    split_ifs at h with h1 h2
    · exact ⟨existing, rfl, by simpa using h1, (EnsureStep.fail.inj h).symm⟩

/-- The answer `ensureResource`'s `Get` receives. -/
def ManagedResource.got (s : Session) : Except ApiError Object :=
  s.got r.kind openshiftOperatorsNamespace (r.objectName bridge)

/-- The session after `ensureResource`'s `Get`. -/
def ManagedResource.read (s : Session) : Session :=
  { s with calls := s.calls ++ [⟨.get (r.ref bridge), outcomeOf (r.got bridge s)⟩] }

theorem ManagedResource.ref_build : (r.build bridge).ref r.kind = r.ref bridge := by
  simp [Object.ref, ManagedResource.ref, r.build_name, r.build_ns]

/-- An object the `Get` found is the one in the store under the resource's reference. -/
theorem ManagedResource.ref_of_got {s : Session} {existing : Object}
    (h : r.got bridge s = .ok existing) :
    s.store.installed r.kind = true ∧ s.store.objects (r.ref bridge) = some existing ∧
      existing.ref r.kind = r.ref bridge := by
  obtain ⟨hi, hs⟩ := Session.got_eq_ok s h
  obtain ⟨hns, hname⟩ := s.store.object_at_ref _ _ hs
  exact ⟨hi, hs, by simp [Object.ref, ManagedResource.ref, hns, hname]⟩

@[simp] theorem read_store (s : Session) : (r.read bridge s).store = s.store := rfl
@[simp] theorem read_clock (s : Session) : (r.read bridge s).clock = s.clock := rfl
@[simp] theorem read_faults (s : Session) : (r.read bridge s).faults = s.faults := rfl
@[simp] theorem read_events (s : Session) : (r.read bridge s).events = s.events := rfl
@[simp] theorem read_calls (s : Session) :
    (r.read bridge s).calls = s.calls ++ [⟨.get (r.ref bridge), outcomeOf (r.got bridge s)⟩] := rfl

theorem getObject_resource (s : Session) :
    getObject r.kind openshiftOperatorsNamespace (r.objectName bridge) s =
      (r.got bridge s, r.read bridge s) :=
  getObject_apply _ _ _ _

/-- Everything `ensureResource` can do: the answer to its `Get` decides the step, and the answer
to its write, if it makes one, decides the result. -/
inductive EnsureRun (s : Session) : Option String → Session → Prop
  | failed {err : String} (h : r.afterGet bridge (r.got bridge s) = .fail err) :
      EnsureRun s (some err) (r.read bridge s)
  | unchanged (h : r.afterGet bridge (r.got bridge s) = .done) :
      EnsureRun s none (r.read bridge s)
  | createFailed {e : ApiError} (h : r.afterGet bridge (r.got bridge s) = .create (r.build bridge))
      (he : (r.read bridge s).answer (fun store => (store.create r.kind (r.build bridge)).map (·, ())) = .error e) :
      EnsureRun s (some (r.createMessage e))
        { r.read bridge s with calls := (r.read bridge s).calls ++ [⟨.create (r.ref bridge) (r.build bridge), some e⟩] }
  | created {store : Store} (h : r.afterGet bridge (r.got bridge s) = .create (r.build bridge))
      (hf : s.faults (s.calls.length + 1) = none) (hs : s.store.create r.kind (r.build bridge) = .ok store) :
      EnsureRun s none
        { r.read bridge s with
          store := store
          calls := (r.read bridge s).calls ++ [⟨.create (r.ref bridge) (r.build bridge), none⟩] }
  | updateFailed {corrected : Object} {e : ApiError} (h : r.afterGet bridge (r.got bridge s) = .update corrected)
      (he : (r.read bridge s).answer (fun store => (store.update r.kind corrected).map (·, ())) = .error e) :
      EnsureRun s (some (r.updateMessage e))
        { r.read bridge s with calls := (r.read bridge s).calls ++ [⟨.update (r.ref bridge) corrected, some e⟩] }
  | updated {corrected : Object} {store : Store} (h : r.afterGet bridge (r.got bridge s) = .update corrected)
      (hf : s.faults (s.calls.length + 1) = none) (hs : s.store.update r.kind corrected = .ok store) :
      EnsureRun s none
        { r.read bridge s with
          store := store
          calls := (r.read bridge s).calls ++ [⟨.update (r.ref bridge) corrected, none⟩]
          events := s.events ++ [r.driftEvent corrected] }

theorem ensureResource_run (s : Session) :
    EnsureRun r bridge s (ensureResource r bridge s).1 (ensureResource r bridge s).2 := by
  simp only [ensureResource, bind_apply, getObject_resource]
  rcases hstep : r.afterGet bridge (r.got bridge s) with desired | corrected | err | _
  · obtain ⟨-, rfl⟩ := afterGet_eq_create r bridge hstep
    simp only [createObject, bind_apply, issue_apply]
    generalize ha : (r.read bridge s).answer _ = a
    rcases a with e | ⟨store, ⟨⟩⟩
    · simpa [Except.map, Session.after, ManagedResource.ref_build] using EnsureRun.createFailed hstep ha
    · obtain ⟨hf, hcs⟩ := Session.answer_write_eq_ok _ ha
      simpa [Except.map, Session.after, ManagedResource.ref_build] using
        EnsureRun.created hstep (by simpa [ManagedResource.read] using hf) hcs
  · obtain ⟨existing, hg, -, -, hc⟩ := afterGet_eq_update r bridge hstep
    have href : corrected.ref r.kind = r.ref bridge := by
      subst hc
      exact (r.ref_of_got bridge hg).2.2
    simp only [updateObject, bind_apply, issue_apply]
    generalize ha : (r.read bridge s).answer _ = a
    rcases a with e | ⟨store, ⟨⟩⟩
    · simpa [Except.map, Session.after, href] using EnsureRun.updateFailed hstep ha
    · obtain ⟨hf, hus⟩ := Session.answer_write_eq_ok _ ha
      simpa [Except.map, Session.after, href, ManagedResource.read] using
        EnsureRun.updated hstep (by simpa [ManagedResource.read] using hf) hus
  · simpa using EnsureRun.failed hstep
  · simpa using EnsureRun.unchanged hstep

/-- What a correcting update writes: the existing object, found in the store under the
resource's reference and owned by the bridge, with the desired spec. -/
theorem afterGet_update_read {s : Session} {corrected : Object}
    (h : r.afterGet bridge (r.got bridge s) = .update corrected) :
    ∃ existing, s.store.objects (r.ref bridge) = some existing ∧
      isOwnedByBridge existing bridge = true ∧ existing.spec ≠ (r.build bridge).spec ∧
      corrected = { existing with spec := (r.build bridge).spec } ∧
      corrected.ref r.kind = r.ref bridge := by
  obtain ⟨existing, hg, hown, hspec, rfl⟩ := afterGet_eq_update r bridge h
  obtain ⟨-, hobj, href⟩ := r.ref_of_got bridge hg
  exact ⟨existing, hobj, hown, hspec, rfl, href⟩

/-- What `ensureResource` leaves alone, and what it adds to the log and to the events. -/
structure Confined (ref : ObjectRef) (s s' : Session) : Prop where
  clock : s'.clock = s.clock
  faults : s'.faults = s.faults
  bridges : s'.store.bridges = s.store.bridges
  installed : s'.store.installed = s.store.installed
  objects : ∀ r', r' ≠ ref → s'.store.objects r' = s.store.objects r'
  calls : ∃ t, s'.calls = s.calls ++ t ∧ (∀ c ∈ t, c.call.target = some ref) ∧
    (t.filter (·.call.isWrite)).length ≤ 1
  events : ∃ e, s'.events = s.events ++ e ∧ ∀ ev ∈ e, ev.reason = "MetalLBDriftCorrected"

theorem EnsureRun.confined {s s' : Session} {res : Option String} (run : EnsureRun r bridge s res s') :
    Confined (r.ref bridge) s s' := by
  rcases run with _ | _ | _ | ⟨h, -, hs⟩ | ⟨h, -⟩ | @⟨corrected, _, h, -, hs⟩
  · exact ⟨rfl, rfl, rfl, rfl, fun _ _ => rfl, ⟨_, rfl, by simp [Call.target],
      by simp [Call.isWrite]⟩, ⟨[], by simp, by simp⟩⟩
  · exact ⟨rfl, rfl, rfl, rfl, fun _ _ => rfl, ⟨_, rfl, by simp [Call.target],
      by simp [Call.isWrite]⟩, ⟨[], by simp, by simp⟩⟩
  · exact ⟨rfl, rfl, rfl, rfl, fun _ _ => rfl, ⟨_, List.append_assoc _ _ _, by simp [Call.target],
      by simp [Call.isWrite]⟩, ⟨[], by simp, by simp⟩⟩
  · obtain ⟨-, -, rfl⟩ := Store.create_eq_ok hs
    refine ⟨rfl, rfl, rfl, rfl, fun r' hr' => ?_, ⟨_, List.append_assoc _ _ _, by simp [Call.target],
      by simp [Call.isWrite]⟩, ⟨[], by simp, by simp⟩⟩
    have : r' ≠ Object.ref { r.build bridge with deletionTimestamp := none } r.kind := by
      simpa [← r.ref_build bridge, Object.ref] using hr'
    simp [this]
  · exact ⟨rfl, rfl, rfl, rfl, fun _ _ => rfl, ⟨_, List.append_assoc _ _ _, by simp [Call.target],
      by simp [Call.isWrite]⟩, ⟨[], by simp, by simp⟩⟩
  · obtain ⟨-, -, -, -, -, href⟩ := afterGet_update_read r bridge h
    obtain ⟨-, current, -, -, rfl⟩ := Store.update_eq_ok hs
    refine ⟨rfl, rfl, rfl, rfl, fun r' hr' => ?_, ⟨_, List.append_assoc _ _ _, by simp [Call.target],
      by simp [Call.isWrite]⟩, ⟨_, rfl, by simp [ManagedResource.driftEvent]⟩⟩
    have : r' ≠ Object.ref { corrected with deletionTimestamp := current.deletionTimestamp } r.kind := by
      simpa [← href, Object.ref] using hr'
    simp [this]

/-- Every run begins with the `Get` of the resource. -/
theorem EnsureRun.reads {s s' : Session} {res : Option String} (run : EnsureRun r bridge s res s') :
    ∃ o t, s'.calls = s.calls ++ ⟨.get (r.ref bridge), o⟩ :: t := by
  cases run <;> first | exact ⟨_, [], rfl⟩ | exact ⟨_, _, List.append_assoc _ _ _⟩

/-- The store holds the resource of `bridge`, in an installed kind, owned by the bridge and with
the desired spec. -/
def Ensured (store : Store) : Prop :=
  store.installed r.kind = true ∧ ∃ obj, store.objects (r.ref bridge) = some obj ∧
    isOwnedByBridge obj bridge = true ∧ obj.spec = (r.build bridge).spec

/-- A run that succeeds leaves the resource ensured, and an object that was there keeps its
metadata: an update replaces the spec and nothing else. -/
theorem EnsureRun.ensured {s s' : Session} (run : EnsureRun r bridge s none s') :
    Ensured r bridge s'.store ∧
      ∀ obj, s.store.objects (r.ref bridge) = some obj →
        ∃ obj', s'.store.objects (r.ref bridge) = some obj' ∧ obj'.metadata = obj.metadata := by
  cases run with
  | unchanged h =>
    obtain ⟨existing, hg, hown, hspec⟩ := afterGet_eq_done r bridge h
    obtain ⟨hi, hobj, -⟩ := r.ref_of_got bridge hg
    exact ⟨⟨hi, existing, hobj, hown, hspec⟩, fun obj hobj => ⟨obj, hobj, rfl⟩⟩
  | created h _ hs =>
    obtain ⟨hi, habsent, rfl⟩ := Store.create_eq_ok hs
    have hput := @Store.put_objects_of_ref s.store r.kind { r.build bridge with deletionTimestamp := none }
      _ (r.ref_build bridge)
    rw [r.ref_build] at habsent
    exact ⟨⟨hi, _, hput, isOwnedByBridge_ownershipLabels _ _ (r.build_labels bridge), rfl⟩,
      fun obj hobj => by simp_all⟩
  | updated h _ hs =>
    obtain ⟨existing, hobj, hown, -, rfl, href⟩ := afterGet_update_read r bridge h
    obtain ⟨hi, current, hcur, -, rfl⟩ := Store.update_eq_ok hs
    rw [href, hobj, Option.some.injEq] at hcur
    subst hcur
    have hput := Store.put_objects_of_ref s.store href
    refine ⟨⟨hi, _, hput, hown, rfl⟩, fun obj hobj' => ⟨_, hput, ?_⟩⟩
    rw [hobj, Option.some.injEq] at hobj'
    subst hobj'
    rfl

/-- The `Get` finds what the store holds, when the kind is installed and the call does not fail. -/
theorem ManagedResource.got_of_present {s : Session} {obj : Object}
    (hi : s.store.installed r.kind = true) (hf : s.faults s.calls.length = none)
    (hobj : s.store.objects (r.ref bridge) = some obj) : r.got bridge s = .ok obj := by
  simp only [ManagedResource.got, Session.got, hf, Store.get, hi, if_true]
  simp only [ManagedResource.ref] at hobj
  simp [hobj]

/-- A `Get` answer that makes `ensureResource` give up: it stops after the `Get`. -/
theorem ensureResource_of_afterGet_fail (s : Session) {err : String}
    (h : r.afterGet bridge (r.got bridge s) = .fail err) :
    ensureResource r bridge s = (some err, r.read bridge s) := by
  simp only [ensureResource, bind_apply, getObject_resource, h, pure_apply]

/-- On a store where the resource is already ensured, a run without a fault only reads. -/
theorem ensureResource_of_ensured (s : Session) (hf : s.faults s.calls.length = none)
    (he : Ensured r bridge s.store) : ensureResource r bridge s = (none, r.read bridge s) := by
  obtain ⟨hi, obj, hobj, hown, hspec⟩ := he
  have hdone : r.afterGet bridge (.ok obj) = .done := by
    simp [ManagedResource.afterGet, hown, resourceNeedsUpdate, hspec]
  simp only [ensureResource, bind_apply, getObject_resource, r.got_of_present bridge hi hf hobj,
    hdone, pure_apply]

end Ensure

/-! ### What `setCondition` and `configureMetalLB` do -/

section Condition

variable (bridge : DPFHCPBridge) (status : ConditionStatus) (reason message : String)

/-- The bridge as `setCondition` leaves it in memory at time `now`, and whether that changed
the condition. -/
def conditioned (now : Int) : Bool × DPFHCPBridge :=
  let set := setStatusCondition (metalLBCondition bridge status reason message now) bridge.conditions
  (set.1, { bridge with conditions := set.2 })

/-- Everything `setCondition` can do. -/
inductive ConditionRun (s : Session) : Option String × DPFHCPBridge → Session → Prop
  | unchanged (h : (conditioned bridge status reason message s.clock).1 = false) :
      ConditionRun s (none, (conditioned bridge status reason message s.clock).2) s
  | writeFailed {e : ApiError} (h : (conditioned bridge status reason message s.clock).1 = true)
      (he : s.answer (·.updateStatus (conditioned bridge status reason message s.clock).2) = .error e) :
      ConditionRun s
        (some ("updating MetalLBConfigured condition: " ++ e.text),
          (conditioned bridge status reason message s.clock).2)
        { s with
          calls := s.calls ++ [⟨.updateStatus bridge.key
            (conditioned bridge status reason message s.clock).2.conditions, some e⟩]
          events := s.events ++ [conditionEvent status message] }
  | written {store : Store} {stored : DPFHCPBridge}
      (h : (conditioned bridge status reason message s.clock).1 = true)
      (hf : s.faults s.calls.length = none)
      (hs : s.store.updateStatus (conditioned bridge status reason message s.clock).2 = .ok (store, stored)) :
      ConditionRun s (none, stored)
        { s with
          store := store
          calls := s.calls ++ [⟨.updateStatus bridge.key
            (conditioned bridge status reason message s.clock).2.conditions, none⟩]
          events := s.events ++ [conditionEvent status message] }

theorem setCondition_run (s : Session) :
    ConditionRun bridge status reason message s (setCondition bridge status reason message s).1
      (setCondition bridge status reason message s).2 := by
  simp only [setCondition, bind_apply, clock_apply]
  by_cases hc : (conditioned bridge status reason message s.clock).1 = true
  · simp only [conditioned] at hc
    simp only [hc, if_true, emit_apply, bind_apply, updateStatus, issue_apply]
    generalize ha : Session.answer _ _ = a
    rcases a with e | ⟨store, stored⟩
    · simpa using ConditionRun.writeFailed hc ha
    · obtain ⟨hf, hs⟩ := Session.answer_eq_ok _ ha
      simpa using ConditionRun.written hc hf hs
  · simp only [conditioned, Bool.not_eq_true] at hc
    simpa [hc] using ConditionRun.unchanged hc

/-- A `setCondition` that changes nothing in memory writes nothing and emits nothing. -/
theorem setCondition_of_unchanged (s : Session)
    (h : (conditioned bridge status reason message s.clock).1 = false) :
    setCondition bridge status reason message s =
      ((none, (conditioned bridge status reason message s.clock).2), s) := by
  simp only [conditioned] at h
  simp [setCondition, conditioned, h]

/-- `setCondition` touches no dependent object; what it logs are status writes. -/
theorem ConditionRun.frame {s s' : Session} {out : Option String × DPFHCPBridge}
    (run : ConditionRun bridge status reason message s out s') :
    s'.store.objects = s.store.objects ∧ s'.store.installed = s.store.installed ∧
      s'.clock = s.clock ∧ s'.faults = s.faults ∧
      ∃ t, s'.calls = s.calls ++ t ∧ ∀ c ∈ t, c.call.target = none ∧ c.call.isWrite = false := by
  cases run with
  | unchanged => exact ⟨rfl, rfl, rfl, rfl, [], by simp, by simp⟩
  | writeFailed => exact ⟨rfl, rfl, rfl, rfl, _, rfl, by simp [Call.target, Call.isWrite]⟩
  | written _ _ hs =>
    obtain ⟨current, -, -, rfl, -⟩ := Store.updateStatus_eq_ok hs
    exact ⟨rfl, rfl, rfl, rfl, _, rfl, by simp [Call.target, Call.isWrite]⟩

/-- What a `setCondition` that returned no error leaves persisted, when it started from the
bridge as persisted: the bridge, with the condition set, possibly under a new version token. -/
theorem ConditionRun.persisted {s s' : Session} {stored : DPFHCPBridge}
    (hp : s.store.bridges bridge.key = some bridge)
    (run : ConditionRun bridge status reason message s (none, stored) s') :
    ∃ cs v, s'.store.bridges bridge.key = some { bridge with conditions := cs, resourceVersion := v } ∧
      ∃ c, findStatusCondition cs metalLBConfigured = some c ∧ c.status = status ∧
        c.reason = reason ∧ c.message = message ∧ c.observedGeneration = bridge.generation := by
  cases run with
  | unchanged h =>
    simp only [conditioned] at h
    rw [setStatusCondition_changed] at h
    simp only [metalLBCondition] at h
    split at h
    · cases h
    · rename_i c hc
      obtain ⟨h1, h2, h3, h4⟩ := (conditionChanged_eq_false_iff _ _).mp h
      exact ⟨bridge.conditions, bridge.resourceVersion, hp, c, hc, h1, h2, h3, h4⟩
  | written _ _ hs =>
    obtain ⟨current, hcur, -, rfl, -⟩ := Store.updateStatus_eq_ok hs
    have hkey : (conditioned bridge status reason message s.clock).2.key = bridge.key := rfl
    rw [hkey, hp, Option.some.injEq] at hcur
    subst hcur
    refine ⟨(conditioned bridge status reason message s.clock).2.conditions, s.store.revision,
      by simp [DPFHCPBridge.key, conditioned], _, findStatusCondition_setStatusCondition
        (metalLBCondition bridge status reason message s.clock) bridge.conditions, ?_⟩
    simp [metalLBCondition]

end Condition

/-- Everything `configureMetalLB` can do: skip the bridge, or ensure the pool and then the
advertisement, stopping at the first failure, and report the outcome with `setCondition`. -/
inductive ConfigureRun (bridge : DPFHCPBridge) (s : Session) :
    Result × Option String × DPFHCPBridge → Session → Prop
  | skipped (h : bridge.shouldExposeThroughLoadBalancer = false) :
      ConfigureRun bridge s ({}, none, bridge) s
  | poolFailed {err : String} {s₁ s₂ : Session} {out : Option String × DPFHCPBridge}
      (h : bridge.shouldExposeThroughLoadBalancer = true)
      (pool : EnsureRun ipAddressPool bridge s (some err) s₁)
      (cond : ConditionRun bridge .conditionFalse "CreatingIPAddressPool"
        ("Failed to create/update IPAddressPool: " ++ err) s₁ out s₂) :
      ConfigureRun bridge s ({}, some err, out.2) s₂
  | advertisementFailed {err : String} {s₁ s₂ s₃ : Session} {out : Option String × DPFHCPBridge}
      (h : bridge.shouldExposeThroughLoadBalancer = true)
      (pool : EnsureRun ipAddressPool bridge s none s₁)
      (advertisement : EnsureRun l2Advertisement bridge s₁ (some err) s₂)
      (cond : ConditionRun bridge .conditionFalse "L2AdvertisementFailed"
        ("Failed to create/update L2Advertisement: " ++ err) s₂ out s₃) :
      ConfigureRun bridge s ({}, some err, out.2) s₃
  | configured {s₁ s₂ s₃ : Session} {out : Option String × DPFHCPBridge}
      (h : bridge.shouldExposeThroughLoadBalancer = true)
      (pool : EnsureRun ipAddressPool bridge s none s₁)
      (advertisement : EnsureRun l2Advertisement bridge s₁ none s₂)
      (cond : ConditionRun bridge .conditionTrue "MetalLBReady" "MetalLB configured successfully"
        s₂ out s₃) :
      ConfigureRun bridge s ({}, out.1, out.2) s₃

theorem configureMetalLB_run (bridge : DPFHCPBridge) (s : Session) :
    ConfigureRun bridge s (configureMetalLB bridge s).1 (configureMetalLB bridge s).2 := by
  cases hb : bridge.shouldExposeThroughLoadBalancer
  · simpa [configureMetalLB, hb] using ConfigureRun.skipped hb
  · have pool := ensureResource_run ipAddressPool bridge s
    simp only [configureMetalLB, hb, Bool.not_true, Bool.false_eq_true, ↓reduceIte, bind_apply,
      pure_apply, ensureIPAddressPool]
    generalize ensureResource ipAddressPool bridge s = o₁ at pool ⊢
    obtain ⟨_ | err, s₁⟩ := o₁
    · have advertisement := ensureResource_run l2Advertisement bridge s₁
      simp only [ensureL2Advertisement, bind_apply]
      generalize ensureResource l2Advertisement bridge s₁ = o₂ at advertisement ⊢
      obtain ⟨_ | err, s₂⟩ := o₂
      · have cond := setCondition_run bridge .conditionTrue "MetalLBReady"
          "MetalLB configured successfully" s₂
        simpa using ConfigureRun.configured hb pool advertisement cond
      · have cond := setCondition_run bridge .conditionFalse "L2AdvertisementFailed"
          ("Failed to create/update L2Advertisement: " ++ err) s₂
        simpa using ConfigureRun.advertisementFailed hb pool advertisement cond
    · have cond := setCondition_run bridge .conditionFalse "CreatingIPAddressPool"
        ("Failed to create/update IPAddressPool: " ++ err) s₁
      simpa using ConfigureRun.poolFailed hb pool cond

end MetalLB

end DpfHcpBridge
