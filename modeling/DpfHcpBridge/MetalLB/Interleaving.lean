import DpfHcpBridge.MetalLB.Manager
import Mathlib.Logic.Relation

/-!
# The upsert protocol under any interleaving

`configureMetalLB` for several bridges at once, its calls interleaved with one another and with
any write by anyone else. A `World` holds the store, every earlier state of it (`past`), and the
invocations in flight, each at the `Phase` between two of its calls. A `Get` may be answered by
any earlier state of the store (`Seen`), as a stale cache answers it, or fail with any error;
each write goes to the store as it now is, where `Create` refuses a taken name and `Update` a
stale version token, and may also fail with any error. `EngineStep` is one call of one
invocation, taking the branch `ManagedResource.afterGet` takes in the sequential code;
`ExternalStep` is a write by anyone else: an object put with any content, labels and deletion
marker, an object removed, a bridge rewritten.

`Inv` holds in every reachable world (`Reachable.inv`): a version token names one version of the
object under a name (`Inv.versions`), since every write stamps a token no earlier version
carries (`Stamped`), and an invocation about to update holds a version it read of an object its
bridge owns. `upsert_ownership_safe` follows: an engine step creates only objects with the labels
of its invocation's bridge, rewrites only objects that bridge owns at that moment, keeping their
metadata, and deletes nothing (`EngineWrite`).

`configureMetalLB_simulated` ties the layers together: every run of the sequential
`configureMetalLB`, whatever its failures, is a run of one invocation here, so that
`configureMetalLB_engineWrite` holds of the sequential code.
-/

set_option autoImplicit false
set_option relaxedAutoImplicit false

namespace DpfHcpBridge.MetalLB

open Relation

/-! ### Invocations in flight -/

/-- The two resources `configureMetalLB` ensures, in order. -/
inductive Stage
  | pool
  | advertisement
  deriving DecidableEq, Repr

/-- The resource a stage ensures. -/
def Stage.resource : Stage → ManagedResource
  | .pool => ipAddressPool
  | .advertisement => l2Advertisement

/-- Where an invocation of `configureMetalLB` stands between two of its calls. -/
inductive Phase
  | reading (stage : Stage)
  | acting (stage : Stage) (step : EnsureStep)
  | reporting (status : ConditionStatus) (reason message : String)
  | finished
  deriving DecidableEq, Repr

/-- Where an invocation goes once a stage returned `err`, or no error: the branches of
`configureMetalLB` on its two ensure calls. -/
def Stage.next : Stage → Option String → Phase
  | .pool, some err =>
    .reporting .conditionFalse "CreatingIPAddressPool" ("Failed to create/update IPAddressPool: " ++ err)
  | .pool, none => .reading .advertisement
  | .advertisement, some err =>
    .reporting .conditionFalse "L2AdvertisementFailed"
      ("Failed to create/update L2Advertisement: " ++ err)
  | .advertisement, none =>
    .reporting .conditionTrue "MetalLBReady" "MetalLB configured successfully"

/-- An invocation of `configureMetalLB` for `bridge`. -/
structure Invocation where
  bridge : DPFHCPBridge
  phase : Phase

/-- An invocation about to start; one for a bridge not exposed through a load balancer returns at
once. -/
def Invocation.start (bridge : DPFHCPBridge) : Invocation :=
  ⟨bridge, if bridge.shouldExposeThroughLoadBalancer then .reading .pool else .finished⟩

/-- The store, its earlier states, and the invocations in flight. -/
structure World where
  store : Store
  past : List Store
  invocations : List Invocation

/-- A world with store `st` and nothing in flight. -/
def World.init (st : Store) : World := ⟨st, [], []⟩

/-- The store becomes `st'`; the old one joins the past. -/
def World.advance (w : World) (st' : Store) : World :=
  { w with store := st', past := w.store :: w.past }

/-- Invocation `i`, for `bridge`, moves to `phase`. -/
def World.setPhase (w : World) (i : Nat) (bridge : DPFHCPBridge) (phase : Phase) : World :=
  { w with invocations := w.invocations.set i ⟨bridge, phase⟩ }

/-- A new invocation for `bridge`. -/
def World.spawn (w : World) (bridge : DPFHCPBridge) : World :=
  { w with invocations := w.invocations ++ [Invocation.start bridge] }

@[simp] theorem advance_store (w : World) (st' : Store) : (w.advance st').store = st' := rfl
@[simp] theorem advance_invocations (w : World) (st' : Store) :
    (w.advance st').invocations = w.invocations := rfl
@[simp] theorem setPhase_store (w : World) (i : Nat) (bridge : DPFHCPBridge) (phase : Phase) :
    (w.setPhase i bridge phase).store = w.store := rfl

theorem setPhase_get {w : World} {i : Nat} {inv : Invocation} (hi : w.invocations[i]? = some inv)
    (bridge : DPFHCPBridge) (phase : Phase) :
    (w.setPhase i bridge phase).invocations[i]? = some ⟨bridge, phase⟩ :=
  List.getElem?_set_self (List.getElem?_eq_some_iff.mp hi).1

/-- `o` stood under `r` in the store now or at some earlier time: what a `Get` may answer. -/
def Seen (w : World) (r : ObjectRef) (o : Object) : Prop :=
  ∃ st ∈ w.store :: w.past, st.objects r = some o

theorem Seen.current {w : World} {r : ObjectRef} {o : Object} (h : w.store.objects r = some o) :
    Seen w r o :=
  ⟨w.store, List.mem_cons_self _ _, h⟩

theorem Seen.ref {w : World} {r : ObjectRef} {o : Object} (h : Seen w r o) :
    o.ns = r.ns ∧ o.name = r.name := by
  obtain ⟨st, -, ho⟩ := h
  exact st.object_at_ref r o ho

theorem seen_advance {w : World} {st' : Store} {r : ObjectRef} {o : Object} :
    Seen (w.advance st') r o ↔ st'.objects r = some o ∨ Seen w r o := by
  simp [Seen, World.advance]

/-! ### Steps -/

/-- One call of invocation `i`, or a branch it takes without one. -/
inductive EngineStep (i : Nat) (w : World) : World → Prop
  | read {inv : Invocation} {stage : Stage} (got : Except ApiError Object)
      (hi : w.invocations[i]? = some inv) (hp : inv.phase = .reading stage)
      (hgot : ∀ o, got = .ok o → Seen w (stage.resource.ref inv.bridge) o) :
      EngineStep i w
        (w.setPhase i inv.bridge (.acting stage (stage.resource.afterGet inv.bridge got)))
  | create {inv : Invocation} {stage : Stage} {desired : Object} {st' : Store}
      (hi : w.invocations[i]? = some inv) (hp : inv.phase = .acting stage (.create desired))
      (hs : w.store.create stage.resource.kind desired = .ok st') :
      EngineStep i w ((w.advance st').setPhase i inv.bridge (stage.next none))
  | createFailed {inv : Invocation} {stage : Stage} {desired : Object} (e : ApiError)
      (hi : w.invocations[i]? = some inv) (hp : inv.phase = .acting stage (.create desired)) :
      EngineStep i w
        (w.setPhase i inv.bridge (stage.next (some (stage.resource.createMessage e))))
  | update {inv : Invocation} {stage : Stage} {corrected : Object} {st' : Store}
      (hi : w.invocations[i]? = some inv) (hp : inv.phase = .acting stage (.update corrected))
      (hs : w.store.update stage.resource.kind corrected = .ok st') :
      EngineStep i w ((w.advance st').setPhase i inv.bridge (stage.next none))
  | updateFailed {inv : Invocation} {stage : Stage} {corrected : Object} (e : ApiError)
      (hi : w.invocations[i]? = some inv) (hp : inv.phase = .acting stage (.update corrected)) :
      EngineStep i w
        (w.setPhase i inv.bridge (stage.next (some (stage.resource.updateMessage e))))
  | fail {inv : Invocation} {stage : Stage} {err : String}
      (hi : w.invocations[i]? = some inv) (hp : inv.phase = .acting stage (.fail err)) :
      EngineStep i w (w.setPhase i inv.bridge (stage.next (some err)))
  | done {inv : Invocation} {stage : Stage}
      (hi : w.invocations[i]? = some inv) (hp : inv.phase = .acting stage .done) :
      EngineStep i w (w.setPhase i inv.bridge (stage.next none))
  | reportWritten {inv : Invocation} {status : ConditionStatus} {reason message : String}
      {st' : Store} {stored : DPFHCPBridge} (now : Int)
      (hi : w.invocations[i]? = some inv) (hp : inv.phase = .reporting status reason message)
      (hc : (conditioned inv.bridge status reason message now).1 = true)
      (hs : w.store.updateStatus (conditioned inv.bridge status reason message now).2 =
        .ok (st', stored)) :
      EngineStep i w ((w.advance st').setPhase i inv.bridge .finished)
  | reportSkipped {inv : Invocation} {status : ConditionStatus} {reason message : String}
      (hi : w.invocations[i]? = some inv) (hp : inv.phase = .reporting status reason message) :
      EngineStep i w (w.setPhase i inv.bridge .finished)

/-- A write by anyone else: an object put under its own name with any content, labels and
deletion marker, an object removed, or a bridge rewritten. -/
inductive ExternalStep (w : World) : World → Prop
  | put (kind : Kind) (obj : Object) : ExternalStep w (w.advance (w.store.put kind obj))
  | erase (r : ObjectRef) : ExternalStep w (w.advance (w.store.erase r))
  | putBridge (bridge : DPFHCPBridge) : ExternalStep w (w.advance (w.store.putBridge bridge))

/-- A step of the whole system: a call of an invocation, a write by anyone else, or a new
invocation. -/
inductive Step (w : World) : World → Prop
  | engine {w' : World} (i : Nat) (h : EngineStep i w w') : Step w w'
  | external {w' : World} (h : ExternalStep w w') : Step w w'
  | spawn (bridge : DPFHCPBridge) : Step w (w.spawn bridge)

/-- The worlds some interleaving reaches from a world with any store and nothing in flight. -/
inductive Reachable : World → Prop
  | init (st : Store) : Reachable (World.init st)
  | step {w w' : World} (hr : Reachable w) (hs : Step w w') : Reachable w'

/-! ### Version tokens -/

/-- Every object of `st'` is one of `st` or carries a token `st` has not handed out yet. -/
def Stamped (st st' : Store) : Prop :=
  st.revision ≤ st'.revision ∧
    ∀ r o, st'.objects r = some o → st.objects r = some o ∨ st.revision ≤ o.resourceVersion

theorem put_stamped (st : Store) (kind : Kind) (obj : Object) : Stamped st (st.put kind obj) := by
  refine ⟨by simp, fun r o ho => ?_⟩
  rw [Store.put_objects] at ho
  split at ho
  · cases ho
    exact .inr (Nat.le_refl _)
  · exact .inl ho

theorem erase_stamped (st : Store) (r : ObjectRef) : Stamped st (st.erase r) := by
  refine ⟨Nat.le_refl _, fun r' o ho => .inl ?_⟩
  rw [Store.erase_objects] at ho
  split at ho
  · cases ho
  · exact ho

theorem putBridge_stamped (st : Store) (bridge : DPFHCPBridge) : Stamped st (st.putBridge bridge) :=
  ⟨Nat.le_succ _, fun _ _ ho => .inl ho⟩

/-! ### The invariant -/

/-- What an invocation in flight holds: about to create, the object its builder gives; about
to update, a version it read of an object its bridge owns, with the desired spec. -/
def Invocation.Consistent (w : World) (inv : Invocation) : Prop :=
  match inv.phase with
  | .acting stage (.create desired) => desired = stage.resource.build inv.bridge
  | .acting stage (.update corrected) =>
    ∃ existing, Seen w (stage.resource.ref inv.bridge) existing ∧
      isOwnedByBridge existing inv.bridge = true ∧
      corrected = { existing with spec := (stage.resource.build inv.bridge).spec }
  | _ => True

/-- What every reachable world satisfies. -/
structure Inv (w : World) : Prop where
  revision_le : ∀ st ∈ w.past, st.revision ≤ w.store.revision
  versions : ∀ r o o', Seen w r o → Seen w r o' → o.resourceVersion = o'.resourceVersion → o = o'
  consistent : ∀ inv ∈ w.invocations, inv.Consistent w

theorem Inv.version_lt {w : World} (h : Inv w) {r : ObjectRef} {o : Object} (hs : Seen w r o) :
    o.resourceVersion < w.store.revision := by
  obtain ⟨st, hst, ho⟩ := hs
  have hlt := st.object_version_lt r o ho
  rcases List.mem_cons.mp hst with rfl | hst
  · exact hlt
  · exact Nat.lt_of_lt_of_le hlt (h.revision_le st hst)

theorem Invocation.Consistent.advance {w : World} {inv : Invocation} (st' : Store)
    (h : inv.Consistent w) : inv.Consistent (w.advance st') := by
  unfold Invocation.Consistent at h ⊢
  split
  · simpa [*] using h
  · rename_i heq
    rw [heq] at h
    obtain ⟨existing, hseen, howned, hc⟩ := h
    exact ⟨existing, seen_advance.mpr (.inr hseen), howned, hc⟩
  · trivial

theorem Stage.next_consistent (w : World) (bridge : DPFHCPBridge) (stage : Stage)
    (out : Option String) : Invocation.Consistent w ⟨bridge, stage.next out⟩ := by
  cases stage <;> cases out <;> trivial

theorem Inv.setPhase {w : World} (h : Inv w) (i : Nat) {bridge : DPFHCPBridge} {phase : Phase}
    (hnew : Invocation.Consistent w ⟨bridge, phase⟩) : Inv (w.setPhase i bridge phase) := by
  refine ⟨h.revision_le, h.versions, fun inv hinv => ?_⟩
  rcases List.mem_or_eq_of_mem_set hinv with hinv | rfl
  · exact h.consistent inv hinv
  · exact hnew

theorem Inv.advance {w : World} {st' : Store} (h : Inv w) (hst : Stamped w.store st') :
    Inv (w.advance st') := by
  have hnew : ∀ r o o', st'.objects r = some o → Seen w r o' →
      o.resourceVersion = o'.resourceVersion → Seen w r o := fun r o o' ho hs hv => by
    rcases hst.2 r o ho with ho | hle
    · exact .current ho
    · have := h.version_lt hs
      omega
  refine ⟨fun st hst' => ?_, fun r o o' hs hs' hv => ?_,
    fun inv hinv => (h.consistent inv hinv).advance st'⟩
  · rcases List.mem_cons.mp hst' with rfl | hst'
    · exact hst.1
    · exact Nat.le_trans (h.revision_le st hst') hst.1
  · rcases seen_advance.mp hs with ho | hs <;> rcases seen_advance.mp hs' with ho' | hs'
    · exact Option.some.inj (ho.symm.trans ho')
    · exact h.versions r o o' (hnew r o o' ho hs' hv) hs' hv
    · exact h.versions r o o' hs (hnew r o' o ho' hs hv.symm) hv
    · exact h.versions r o o' hs hs' hv

/-- What an invocation holds right after its `Get`. -/
theorem read_consistent {w : World} {bridge : DPFHCPBridge} {stage : Stage}
    {got : Except ApiError Object}
    (hgot : ∀ o, got = .ok o → Seen w (stage.resource.ref bridge) o) :
    Invocation.Consistent w ⟨bridge, .acting stage (stage.resource.afterGet bridge got)⟩ := by
  unfold Invocation.Consistent
  generalize hstep : stage.resource.afterGet bridge got = step
  cases step with
  | create desired => exact (afterGet_eq_create _ _ hstep).2
  | update corrected =>
    obtain ⟨existing, rfl, howned, -, hc⟩ := afterGet_eq_update _ _ hstep
    exact ⟨existing, hgot existing rfl, howned, hc⟩
  | fail | done => trivial

theorem EngineStep.inv {i : Nat} {w w' : World} (h : Inv w) (hs : EngineStep i w w') : Inv w' := by
  cases hs with
  | read got _ _ hgot => exact h.setPhase i (read_consistent hgot)
  | create _ _ hs =>
    obtain ⟨-, -, rfl⟩ := Store.create_eq_ok hs
    exact (h.advance (put_stamped _ _ _)).setPhase i (Stage.next_consistent _ _ _ _)
  | update _ _ hs =>
    obtain ⟨-, -, -, -, rfl⟩ := Store.update_eq_ok hs
    exact (h.advance (put_stamped _ _ _)).setPhase i (Stage.next_consistent _ _ _ _)
  | reportWritten _ _ _ _ hs =>
    obtain ⟨-, -, -, rfl, -⟩ := Store.updateStatus_eq_ok hs
    exact (h.advance (putBridge_stamped _ _)).setPhase i trivial
  | createFailed | updateFailed | fail | done =>
    exact h.setPhase i (Stage.next_consistent _ _ _ _)
  | reportSkipped => exact h.setPhase i trivial

theorem Inv.step {w w' : World} (h : Inv w) (hs : Step w w') : Inv w' := by
  cases hs with
  | engine i hs => exact hs.inv h
  | external hs =>
    cases hs with
    | put kind obj => exact h.advance (put_stamped _ _ _)
    | erase r => exact h.advance (erase_stamped _ _)
    | putBridge bridge => exact h.advance (putBridge_stamped _ _)
  | spawn bridge =>
    refine ⟨h.revision_le, h.versions, fun inv hinv => ?_⟩
    rcases List.mem_append.mp hinv with hinv | hinv
    · exact h.consistent inv hinv
    · rw [List.mem_singleton.mp hinv]
      unfold Invocation.start
      split <;> trivial

theorem Reachable.inv {w : World} (hr : Reachable w) : Inv w := by
  induction hr with
  | init st => exact ⟨by simp [World.init], fun r o o' ⟨_, hst, ho⟩ ⟨_, hst', ho'⟩ _ => by
      simp only [World.init, List.mem_singleton] at hst hst'
      subst hst hst'
      exact Option.some.inj (ho.symm.trans ho'), by simp [World.init]⟩
  | step _ hs ih => exact ih.step hs

/-! ### Ownership safety -/

/-- What an engine step of an invocation for `b` may do to the objects of the store: create an
IPAddressPool or L2Advertisement of `b` carrying `b`'s labels, or rewrite one that `b` owns
keeping its metadata. Nothing is removed. -/
def EngineWrite (b : DPFHCPBridge) (st st' : Store) : Prop :=
  ∀ r, st'.objects r ≠ st.objects r →
    (r = ipAddressPool.ref b ∨ r = l2Advertisement.ref b) ∧ ∃ o', st'.objects r = some o' ∧
      (st.objects r = none ∧ o'.labels = ownershipLabels b ∨
        ∃ o, st.objects r = some o ∧ isOwnedByBridge o b = true ∧ o'.metadata = o.metadata)

theorem EngineWrite.refl (b : DPFHCPBridge) (st : Store) : EngineWrite b st st :=
  fun _ h => absurd rfl h

theorem Stage.ref_cases (stage : Stage) (b : DPFHCPBridge) :
    stage.resource.ref b = ipAddressPool.ref b ∨ stage.resource.ref b = l2Advertisement.ref b := by
  cases stage
  · exact .inl rfl
  · exact .inr rfl

theorem EngineWrite.trans {b : DPFHCPBridge} {st₁ st₂ st₃ : Store} (h₁ : EngineWrite b st₁ st₂)
    (h₂ : EngineWrite b st₂ st₃) : EngineWrite b st₁ st₃ := by
  intro r hr
  by_cases hr₂ : st₃.objects r = st₂.objects r
  · rw [hr₂] at hr ⊢
    exact h₁ r hr
  obtain ⟨href, o₃, ho₃, hnew | ⟨o₂, ho₂, howned, hmeta⟩⟩ := h₂ r hr₂
  · obtain ⟨hnone, hlabels⟩ := hnew
    refine ⟨href, o₃, ho₃, .inl ⟨?_, hlabels⟩⟩
    by_contra hsome
    obtain ⟨-, o, ho, -⟩ := h₁ r (by rw [hnone]; exact Ne.symm hsome)
    rw [hnone] at ho
    cases ho
  · refine ⟨href, o₃, ho₃, ?_⟩
    have hlabels : o₃.labels = o₂.labels := congrArg (fun m => m.2.2.1) hmeta
    by_cases hr₁ : st₂.objects r = st₁.objects r
    · exact .inr ⟨o₂, hr₁ ▸ ho₂, howned, hmeta⟩
    obtain ⟨-, o₂', ho₂', hnew' | ⟨o₁, ho₁, howned₁, hmeta₁⟩⟩ := h₁ r hr₁
    · rw [ho₂] at ho₂'
      cases ho₂'
      exact .inl ⟨hnew'.1, hlabels.trans hnew'.2⟩
    · rw [ho₂] at ho₂'
      cases ho₂'
      exact .inr ⟨o₁, ho₁, howned₁, hmeta.trans hmeta₁⟩

/-- An engine step, from a world where the invariant holds. -/
theorem EngineStep.write {i : Nat} {w w' : World} (h : Inv w) (hs : EngineStep i w w') :
    ∃ inv, w.invocations[i]? = some inv ∧ EngineWrite inv.bridge w.store w'.store := by
  cases hs with
  | @create inv stage desired st' hi hp hs =>
    have hdesired : desired = stage.resource.build inv.bridge := by
      have := h.consistent inv (List.getElem?_mem hi)
      simpa [Invocation.Consistent, hp] using this
    subst hdesired
    obtain ⟨-, hnone, rfl⟩ := Store.create_eq_ok hs
    refine ⟨inv, hi, fun r hr => ?_⟩
    have href : ({ stage.resource.build inv.bridge with deletionTimestamp := none } : Object).ref
        stage.resource.kind = stage.resource.ref inv.bridge := stage.resource.ref_build inv.bridge
    have hr' : r = stage.resource.ref inv.bridge := by
      by_contra hne
      simp [href, hne] at hr
    subst hr'
    exact ⟨Stage.ref_cases stage inv.bridge, _, Store.put_objects_of_ref _ href,
      .inl ⟨stage.resource.ref_build inv.bridge ▸ hnone, stage.resource.build_labels inv.bridge⟩⟩
  | @update inv stage corrected st' hi hp hs =>
    obtain ⟨existing, hseen, howned, rfl⟩ : ∃ existing,
        Seen w (stage.resource.ref inv.bridge) existing ∧ isOwnedByBridge existing inv.bridge = true ∧
          corrected = { existing with spec := (stage.resource.build inv.bridge).spec } := by
      have := h.consistent inv (List.getElem?_mem hi)
      simpa [Invocation.Consistent, hp] using this
    obtain ⟨-, current, hcur, hv, rfl⟩ := Store.update_eq_ok hs
    have href : ({ existing with spec := (stage.resource.build inv.bridge).spec } : Object).ref
        stage.resource.kind = stage.resource.ref inv.bridge := by
      obtain ⟨hns, hname⟩ := hseen.ref
      simp [Object.ref, ManagedResource.ref, hns, hname]
    rw [href] at hcur
    obtain rfl : current = existing := h.versions _ _ _ (.current hcur) hseen hv
    refine ⟨inv, hi, fun r hr => ?_⟩
    have hr' : r = stage.resource.ref inv.bridge := by
      by_contra hne
      simp [href, hne] at hr
    subst hr'
    exact ⟨Stage.ref_cases stage inv.bridge, _, Store.put_objects_of_ref _ href,
      .inr ⟨current, hcur, howned, rfl⟩⟩
  | reportWritten _ hi _ _ hs =>
    obtain ⟨-, -, -, rfl, -⟩ := Store.updateStatus_eq_ok hs
    exact ⟨_, hi, EngineWrite.refl _ _⟩
  | read _ hi | createFailed _ hi | updateFailed _ hi | fail hi | done hi | reportSkipped hi =>
    exact ⟨_, hi, EngineWrite.refl _ _⟩

theorem upsert_ownership_safe {w w' : World} {i : Nat} (hr : Reachable w)
    (hs : EngineStep i w w') :
    ∃ inv, w.invocations[i]? = some inv ∧ EngineWrite inv.bridge w.store w'.store :=
  hs.write hr.inv

/-- Two bridges of one name in two namespaces, whose IPAddressPools share one name. -/
def teamBridge (ns : String) : DPFHCPBridge := { sampleBridge with ns := ns }

/-- Both bridges' invocations started on an empty store; the first was told its pool is absent. -/
def collisionWorld : World :=
  (((World.init (Store.empty fun _ => true)).spawn (teamBridge "team-a")).spawn
      (teamBridge "team-b")).setPhase 0 (teamBridge "team-a")
    (.acting .pool (ipAddressPool.afterGet (teamBridge "team-a") (.error .notFound)))

theorem upsert_ownership_safe_sample :
    ∃ w', EngineStep 0 collisionWorld w' ∧
      ∃ inv, collisionWorld.invocations[0]? = some inv ∧
        EngineWrite inv.bridge collisionWorld.store w'.store := by
  have h₀ : Reachable (((World.init (Store.empty fun _ => true)).spawn (teamBridge "team-a")).spawn
      (teamBridge "team-b")) := .step (.step (.init _) (.spawn _)) (.spawn _)
  have hr : Reachable collisionWorld := .step h₀ (.engine 0
    (@EngineStep.read 0 _ (Invocation.start (teamBridge "team-a")) .pool (.error .notFound) rfl rfl
      fun _ h => by cases h))
  have hs : EngineStep 0 collisionWorld _ := .create rfl rfl rfl
  exact ⟨_, hs, upsert_ownership_safe hr hs⟩

/-! ### The sequential code is one invocation run alone -/

/-- An engine step keeps its invocation's bridge. -/
theorem EngineStep.bridge {i : Nat} {w w' : World} (hs : EngineStep i w w') :
    ∃ inv p, w.invocations[i]? = some inv ∧ w'.invocations[i]? = some ⟨inv.bridge, p⟩ := by
  cases hs with
  | read _ hi | create hi | createFailed _ hi | update hi | updateFailed _ hi | fail hi | done hi
  | reportWritten _ hi | reportSkipped hi => exact ⟨_, _, hi, setPhase_get hi _ _⟩

/-- A run of one invocation's steps from a reachable world writes only what `EngineWrite` allows
its bridge. -/
theorem Reachable.engineSteps {i : Nat} {b : DPFHCPBridge} {w w' : World} (hr : Reachable w)
    (hb : ∃ p, w.invocations[i]? = some ⟨b, p⟩) (h : ReflTransGen (EngineStep i) w w') :
    EngineWrite b w.store w'.store := by
  suffices Reachable w' ∧ (∃ p, w'.invocations[i]? = some ⟨b, p⟩) ∧ EngineWrite b w.store w'.store
    from this.2.2
  induction h with
  | refl => exact ⟨hr, hb, EngineWrite.refl _ _⟩
  | tail _ hs ih =>
    obtain ⟨hr₁, ⟨p, hi₁⟩, hw₁⟩ := ih
    obtain ⟨inv, p', hi, hi'⟩ := hs.bridge
    obtain ⟨inv', hinv', hw⟩ := upsert_ownership_safe hr₁ hs
    obtain rfl := Option.some.inj (hi₁.symm.trans hi)
    obtain rfl := Option.some.inj (hi.symm.trans hinv')
    exact ⟨.step hr₁ (.engine i hs), ⟨p', hi'⟩, hw₁.trans hw⟩

theorem EnsureRun.simulated (stage : Stage) {bridge : DPFHCPBridge} {s s' : Session}
    {out : Option String} (run : EnsureRun stage.resource bridge s out s') {w : World} {i : Nat}
    (hw : w.store = s.store) (hi : w.invocations[i]? = some ⟨bridge, .reading stage⟩) :
    ∃ w', ReflTransGen (EngineStep i) w w' ∧ w'.store = s'.store ∧
      w'.invocations[i]? = some ⟨bridge, stage.next out⟩ := by
  have hread : EngineStep i w _ := .read (stage.resource.got bridge s) hi rfl fun o ho => by
    obtain ⟨-, hobj, -⟩ := stage.resource.ref_of_got bridge ho
    exact .current (hw ▸ hobj)
  have hi₁ := setPhase_get hi bridge
    (.acting stage (stage.resource.afterGet bridge (stage.resource.got bridge s)))
  have hw₁ : (w.setPhase i bridge
      (.acting stage (stage.resource.afterGet bridge (stage.resource.got bridge s)))).store =
      s.store := hw
  cases run with
  | failed h => exact ⟨_, .tail (.single hread) (.fail hi₁ (congrArg _ h)), hw, setPhase_get hi₁ _ _⟩
  | unchanged h => exact ⟨_, .tail (.single hread) (.done hi₁ (congrArg _ h)), hw, setPhase_get hi₁ _ _⟩
  | createFailed h =>
    exact ⟨_, .tail (.single hread) (.createFailed _ hi₁ (congrArg _ h)), hw, setPhase_get hi₁ _ _⟩
  | created h _ hs =>
    exact ⟨_, .tail (.single hread) (.create hi₁ (congrArg _ h) (hw₁ ▸ hs)), rfl,
      setPhase_get hi₁ _ _⟩
  | updateFailed h =>
    exact ⟨_, .tail (.single hread) (.updateFailed _ hi₁ (congrArg _ h)), hw, setPhase_get hi₁ _ _⟩
  | updated h _ hs =>
    exact ⟨_, .tail (.single hread) (.update hi₁ (congrArg _ h) (hw₁ ▸ hs)), rfl,
      setPhase_get hi₁ _ _⟩

theorem ConditionRun.simulated {bridge : DPFHCPBridge} {status : ConditionStatus}
    {reason message : String} {s s' : Session} {out : Option String × DPFHCPBridge}
    (run : ConditionRun bridge status reason message s out s') {w : World} {i : Nat}
    (hw : w.store = s.store) (hi : w.invocations[i]? = some ⟨bridge, .reporting status reason message⟩) :
    ∃ w', ReflTransGen (EngineStep i) w w' ∧ w'.store = s'.store ∧
      w'.invocations[i]? = some ⟨bridge, .finished⟩ := by
  cases run with
  | unchanged | writeFailed => exact ⟨_, .single (.reportSkipped hi rfl), hw, setPhase_get hi _ _⟩
  | written h _ hs =>
    exact ⟨_, .single (.reportWritten s.clock hi rfl h (hw ▸ hs)), rfl, setPhase_get hi _ _⟩

/-- Every run of `configureMetalLB`, whatever its failures, is a run of one invocation from a
world holding the same store. -/
theorem configureMetalLB_simulated (bridge : DPFHCPBridge) (s : Session) {w : World} {i : Nat}
    (hw : w.store = s.store) (hi : w.invocations[i]? = some (Invocation.start bridge)) :
    ∃ w', ReflTransGen (EngineStep i) w w' ∧ w'.store = (configureMetalLB bridge s).2.store ∧
      w'.invocations[i]? = some ⟨bridge, .finished⟩ := by
  have run := configureMetalLB_run bridge s
  generalize configureMetalLB bridge s = o at run ⊢
  obtain ⟨out, s'⟩ := o
  cases run with
  | skipped h => exact ⟨w, .refl, hw, by simpa [Invocation.start, h] using hi⟩
  | poolFailed h pool cond =>
    have hi' : w.invocations[i]? = some ⟨bridge, .reading .pool⟩ := by
      simpa [Invocation.start, h] using hi
    obtain ⟨w₁, h₁, hw₁, hi₁⟩ := EnsureRun.simulated .pool pool hw hi'
    obtain ⟨w₂, h₂, hw₂, hi₂⟩ := cond.simulated hw₁ hi₁
    exact ⟨w₂, h₁.trans h₂, hw₂, hi₂⟩
  | advertisementFailed h pool advertisement cond | configured h pool advertisement cond =>
    have hi' : w.invocations[i]? = some ⟨bridge, .reading .pool⟩ := by
      simpa [Invocation.start, h] using hi
    obtain ⟨w₁, h₁, hw₁, hi₁⟩ := EnsureRun.simulated .pool pool hw hi'
    obtain ⟨w₂, h₂, hw₂, hi₂⟩ := EnsureRun.simulated .advertisement advertisement hw₁ hi₁
    obtain ⟨w₃, h₃, hw₃, hi₃⟩ := cond.simulated hw₂ hi₂
    exact ⟨w₃, (h₁.trans h₂).trans h₃, hw₃, hi₃⟩

/-- The sequential `configureMetalLB`, from any store and with any failures, creates only objects
carrying its bridge's labels, rewrites only objects its bridge owns, keeping their metadata, and
deletes nothing. -/
theorem configureMetalLB_engineWrite (bridge : DPFHCPBridge) (s : Session) :
    EngineWrite bridge s.store (configureMetalLB bridge s).2.store := by
  have hr : Reachable ((World.init s.store).spawn bridge) := .step (.init _) (.spawn bridge)
  obtain ⟨w', hsteps, hstore, -⟩ :=
    @configureMetalLB_simulated bridge s ((World.init s.store).spawn bridge) 0 rfl rfl
  rw [← hstore]
  exact hr.engineSteps ⟨_, rfl⟩ hsteps

end DpfHcpBridge.MetalLB
