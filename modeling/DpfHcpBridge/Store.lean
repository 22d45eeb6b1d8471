import DpfHcpBridge.Api
import Mathlib.Logic.Function.Basic

/-!
# The API server's store

The external store both controllers talk to, as the spec's §6 describes it and the Kubernetes
API server implements it: objects keyed by kind and `NamespacedName`, each write stamped with a
fresh version token from one global revision counter, `Update` refused with a conflict when the
caller's token is stale, `Create` refused when the name is taken, and `Delete` of an object that
still has finalizers only setting its deletion timestamp. A kind whose CRD is not installed
answers every call with `noMatch`.

`Store` carries its well-formedness as fields: every object sits under its own name and
namespace, every bridge under its own key, and every version token is below the revision
counter, so that the token the next write stamps is new. The store calls are total functions
`Store → Except ApiError Store`; `put`, `erase` and `putBridge` are the three raw writes they are
built from, each with its `@[simp]` lookup lemmas, so that no later proof unfolds a store call
past them.
-/

set_option autoImplicit false
set_option relaxedAutoImplicit false

namespace DpfHcpBridge

/-- The store: dependent objects, the `DPFHCPBridge` parents, which kinds are installed, and the
revision counter that version tokens are drawn from. -/
structure Store where
  objects : ObjectRef → Option Object
  bridges : String × String → Option DPFHCPBridge
  installed : Kind → Bool
  revision : Nat
  object_at_ref : ∀ r o, objects r = some o → o.ns = r.ns ∧ o.name = r.name
  object_version_lt : ∀ r o, objects r = some o → o.resourceVersion < revision
  bridge_at_key : ∀ k b, bridges k = some b → b.key = k
  bridge_version_lt : ∀ k b, bridges k = some b → b.resourceVersion < revision

namespace Store

variable (s : Store)

/-- A store with no objects and no bridges, in which the given kinds are installed. -/
def empty (installed : Kind → Bool) : Store where
  objects _ := none
  bridges _ := none
  installed := installed
  revision := 1
  object_at_ref _ _ h := by cases h
  object_version_lt _ _ h := by cases h
  bridge_at_key _ _ h := by cases h
  bridge_version_lt _ _ h := by cases h

/-! ### Raw writes -/

/-- Store `obj` under its own reference, stamped with the next version token. -/
def put (kind : Kind) (obj : Object) : Store where
  objects := Function.update s.objects (obj.ref kind) (some { obj with resourceVersion := s.revision })
  bridges := s.bridges
  installed := s.installed
  revision := s.revision + 1
  object_at_ref r o h := by
    by_cases hr : r = obj.ref kind
    · subst hr
      simp only [Function.update_same, Option.some.injEq] at h
      subst h
      exact ⟨rfl, rfl⟩
    · rw [Function.update_noteq hr] at h
      exact s.object_at_ref r o h
  object_version_lt r o h := by
    by_cases hr : r = obj.ref kind
    · subst hr
      simp only [Function.update_same, Option.some.injEq] at h
      subst h
      exact Nat.lt_succ_self _
    · rw [Function.update_noteq hr] at h
      exact Nat.lt_succ_of_lt (s.object_version_lt r o h)
  bridge_at_key := s.bridge_at_key
  bridge_version_lt k b h := Nat.lt_succ_of_lt (s.bridge_version_lt k b h)

/-- Remove the object under `r`. -/
def erase (r : ObjectRef) : Store where
  objects := Function.update s.objects r none
  bridges := s.bridges
  installed := s.installed
  revision := s.revision
  object_at_ref r' o h := by
    by_cases hr : r' = r
    · subst hr; simp at h
    · rw [Function.update_noteq hr] at h
      exact s.object_at_ref r' o h
  object_version_lt r' o h := by
    by_cases hr : r' = r
    · subst hr; simp at h
    · rw [Function.update_noteq hr] at h
      exact s.object_version_lt r' o h
  bridge_at_key := s.bridge_at_key
  bridge_version_lt := s.bridge_version_lt

/-- Store a bridge under its own key, stamped with the next version token. -/
def putBridge (bridge : DPFHCPBridge) : Store where
  objects := s.objects
  bridges := Function.update s.bridges bridge.key (some { bridge with resourceVersion := s.revision })
  installed := s.installed
  revision := s.revision + 1
  object_at_ref := s.object_at_ref
  object_version_lt r o h := Nat.lt_succ_of_lt (s.object_version_lt r o h)
  bridge_at_key k b h := by
    by_cases hk : k = bridge.key
    · subst hk
      simp only [Function.update_same, Option.some.injEq] at h
      subst h
      rfl
    · rw [Function.update_noteq hk] at h
      exact s.bridge_at_key k b h
  bridge_version_lt k b h := by
    by_cases hk : k = bridge.key
    · subst hk
      simp only [Function.update_same, Option.some.injEq] at h
      subst h
      exact Nat.lt_succ_self _
    · rw [Function.update_noteq hk] at h
      exact Nat.lt_succ_of_lt (s.bridge_version_lt k b h)

@[simp] theorem put_objects (kind : Kind) (obj : Object) (r : ObjectRef) :
    (s.put kind obj).objects r =
      if r = obj.ref kind then some { obj with resourceVersion := s.revision } else s.objects r :=
  Function.update_apply _ _ _ _

theorem put_objects_of_ref {kind : Kind} {obj : Object} {r : ObjectRef} (h : obj.ref kind = r) :
    (s.put kind obj).objects r = some { obj with resourceVersion := s.revision } := by
  subst h; simp

@[simp] theorem put_bridges (kind : Kind) (obj : Object) : (s.put kind obj).bridges = s.bridges := rfl

@[simp] theorem put_installed (kind : Kind) (obj : Object) :
    (s.put kind obj).installed = s.installed := rfl

@[simp] theorem put_revision (kind : Kind) (obj : Object) :
    (s.put kind obj).revision = s.revision + 1 := rfl

@[simp] theorem erase_objects (r r' : ObjectRef) :
    (s.erase r).objects r' = if r' = r then none else s.objects r' :=
  Function.update_apply _ _ _ _

@[simp] theorem erase_bridges (r : ObjectRef) : (s.erase r).bridges = s.bridges := rfl

@[simp] theorem erase_installed (r : ObjectRef) : (s.erase r).installed = s.installed := rfl

@[simp] theorem putBridge_objects (bridge : DPFHCPBridge) :
    (s.putBridge bridge).objects = s.objects := rfl

@[simp] theorem putBridge_bridges (bridge : DPFHCPBridge) (k : String × String) :
    (s.putBridge bridge).bridges k =
      if k = bridge.key then some { bridge with resourceVersion := s.revision } else s.bridges k :=
  Function.update_apply _ _ _ _

@[simp] theorem putBridge_installed (bridge : DPFHCPBridge) :
    (s.putBridge bridge).installed = s.installed := rfl

/-! ### The store calls -/

/-- `client.Get`: the object under a kind and key. -/
def get (kind : Kind) (ns name : String) : Except ApiError Object :=
  if s.installed kind then
    match s.objects ⟨kind, ns, name⟩ with
    | some obj => .ok obj
    | none => .error .notFound
  else .error .noMatch

/-- `client.Create`: refused when the name is taken; the server clears the deletion marker and
assigns the version token. -/
def create (kind : Kind) (obj : Object) : Except ApiError Store :=
  if s.installed kind then
    match s.objects (obj.ref kind) with
    | some _ => .error .alreadyExists
    | none => .ok (s.put kind { obj with deletionTimestamp := none })
  else .error .noMatch

/-- `client.Update`: the whole object is replaced, provided its version token is current; the
deletion marker cannot be changed by an update. -/
def update (kind : Kind) (obj : Object) : Except ApiError Store :=
  if s.installed kind then
    match s.objects (obj.ref kind) with
    | none => .error .notFound
    | some current =>
      if current.resourceVersion = obj.resourceVersion then
        .ok (s.put kind { obj with deletionTimestamp := current.deletionTimestamp })
      else .error .conflict
  else .error .noMatch

/-- `client.Delete` at time `now`: an object without finalizers goes at once, one with finalizers
is marked for deletion, and one already marked is left as it is. -/
def delete (kind : Kind) (ns name : String) (now : Int) : Except ApiError Store :=
  if s.installed kind then
    match s.objects ⟨kind, ns, name⟩ with
    | none => .error .notFound
    | some current =>
      if current.finalizers = [] then .ok (s.erase ⟨kind, ns, name⟩)
      else
        match current.deletionTimestamp with
        | some _ => .ok s
        | none => .ok (s.put kind { current with deletionTimestamp := some now })
  else .error .noMatch

/-- `client.Status().Update`: writes the bridge's conditions over the stored bridge, provided its
version token is current, and answers with the object as now stored. -/
def updateStatus (bridge : DPFHCPBridge) : Except ApiError (Store × DPFHCPBridge) :=
  match s.bridges bridge.key with
  | none => .error .notFound
  | some current =>
    if current.resourceVersion = bridge.resourceVersion then
      .ok (s.putBridge { current with conditions := bridge.conditions },
        { current with conditions := bridge.conditions, resourceVersion := s.revision })
    else .error .conflict

/-! ### What a successful call did -/

variable {s}

theorem get_eq_ok {kind : Kind} {ns name : String} {obj : Object}
    (h : s.get kind ns name = .ok obj) :
    s.installed kind = true ∧ s.objects ⟨kind, ns, name⟩ = some obj := by
  unfold get at h
  split at h
  · split at h <;> simp_all
  · cases h

theorem create_eq_ok {kind : Kind} {obj : Object} {s' : Store} (h : s.create kind obj = .ok s') :
    s.installed kind = true ∧ s.objects (obj.ref kind) = none ∧
      s' = s.put kind { obj with deletionTimestamp := none } := by
  unfold create at h
  split at h
  · split at h
    · cases h
    · cases h; simp_all
  · cases h

theorem update_eq_ok {kind : Kind} {obj : Object} {s' : Store} (h : s.update kind obj = .ok s') :
    s.installed kind = true ∧ ∃ current, s.objects (obj.ref kind) = some current ∧
      current.resourceVersion = obj.resourceVersion ∧
      s' = s.put kind { obj with deletionTimestamp := current.deletionTimestamp } := by
  unfold update at h
  by_cases hi : s.installed kind = true
  · simp only [hi, if_true] at h
    split at h
    · cases h
    · rename_i current hc
      split at h
      · cases h; exact ⟨hi, current, hc, by assumption, rfl⟩
      · cases h
  · simp [hi] at h

theorem delete_eq_ok {kind : Kind} {ns name : String} {now : Int} {s' : Store}
    (h : s.delete kind ns name now = .ok s') :
    ∃ current, s.objects ⟨kind, ns, name⟩ = some current ∧
      (current.finalizers = [] ∧ s' = s.erase ⟨kind, ns, name⟩ ∨
        current.finalizers ≠ [] ∧ current.deletionTimestamp.isSome ∧ s' = s ∨
        current.finalizers ≠ [] ∧ current.deletionTimestamp = none ∧
          s' = s.put kind { current with deletionTimestamp := some now }) := by
  unfold delete at h
  split at h
  · split at h
    · cases h
    · rename_i current hc
      refine ⟨current, hc, ?_⟩
      split at h
      · cases h; exact .inl ⟨by assumption, rfl⟩
      · split at h <;> cases h <;> simp_all
  · cases h

/-- A `Get` fails only for a kind that is not installed or a name that is not there. -/
theorem get_eq_error {kind : Kind} {ns name : String} {e : ApiError}
    (h : s.get kind ns name = .error e) :
    s.installed kind = false ∧ e = .noMatch ∨
      s.installed kind = true ∧ s.objects ⟨kind, ns, name⟩ = none ∧ e = .notFound := by
  unfold get at h
  by_cases hi : s.installed kind = true
  · simp only [hi, if_true] at h
    split at h
    · cases h
    · cases h; exact .inr ⟨hi, by assumption, rfl⟩
  · simp only [hi] at h
    cases h; exact .inl ⟨by simpa using hi, rfl⟩

/-- A `Delete` of an object that is there succeeds. -/
theorem delete_ok_of_present {kind : Kind} {ns name : String} {obj : Object} (now : Int)
    (hi : s.installed kind = true) (hobj : s.objects ⟨kind, ns, name⟩ = some obj) :
    ∃ s', s.delete kind ns name now = .ok s' := by
  unfold delete
  simp only [hi, if_true, hobj]
  split
  · exact ⟨_, rfl⟩
  · split <;> exact ⟨_, rfl⟩

/-- A `Delete` touches nothing but the object it deletes, and leaves no object under that name
without a deletion timestamp. -/
theorem delete_frame {kind : Kind} {ns name : String} {now : Int} {s' : Store}
    (h : s.delete kind ns name now = .ok s') :
    s'.installed = s.installed ∧ s'.bridges = s.bridges ∧
      (∀ r, r ≠ ⟨kind, ns, name⟩ → s'.objects r = s.objects r) ∧
      ∀ obj, s'.objects ⟨kind, ns, name⟩ = some obj → obj.deletionTimestamp ≠ none := by
  obtain ⟨current, hc, ⟨-, rfl⟩ | ⟨-, hts, rfl⟩ | ⟨-, -, rfl⟩⟩ := delete_eq_ok h
  · exact ⟨rfl, rfl, fun r hr => by simp [hr], fun obj => by simp⟩
  · refine ⟨rfl, rfl, fun _ _ => rfl, fun obj hobj => ?_⟩
    rw [hc, Option.some.injEq] at hobj
    subst hobj
    simpa [Option.isSome_iff_exists, Option.ne_none_iff_exists'] using hts
  · obtain ⟨hns, hname⟩ := s.object_at_ref _ _ hc
    have href : ({ current with deletionTimestamp := some now } : Object).ref kind =
        ⟨kind, ns, name⟩ := by simp [Object.ref, hns, hname]
    refine ⟨rfl, rfl, fun r hr => by simp [href, hr], fun obj hobj => ?_⟩
    simp only [put_objects, href, if_true, Option.some.injEq] at hobj
    subst hobj
    simp

/-- A `Delete` hands out no version token that was already handed out. -/
theorem delete_revision_le {kind : Kind} {ns name : String} {now : Int} {s' : Store}
    (h : s.delete kind ns name now = .ok s') : s.revision ≤ s'.revision := by
  obtain ⟨-, -, ⟨-, rfl⟩ | ⟨-, -, rfl⟩ | ⟨-, -, rfl⟩⟩ := delete_eq_ok h
  · exact Nat.le_refl _
  · exact Nat.le_refl _
  · exact Nat.le_succ _

theorem updateStatus_eq_ok {bridge stored : DPFHCPBridge} {s' : Store}
    (h : s.updateStatus bridge = .ok (s', stored)) :
    ∃ current, s.bridges bridge.key = some current ∧
      current.resourceVersion = bridge.resourceVersion ∧
      s' = s.putBridge { current with conditions := bridge.conditions } ∧
      stored = { current with conditions := bridge.conditions, resourceVersion := s.revision } := by
  unfold updateStatus at h
  split at h
  · cases h
  · rename_i current hc
    split at h
    · cases h; exact ⟨current, hc, by assumption, rfl, rfl⟩
    · cases h

end Store

end DpfHcpBridge
