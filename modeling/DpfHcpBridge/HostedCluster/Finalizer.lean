import DpfHcpBridge.Client
import DpfHcpBridge.Conditions

/-!
# The finalizer cleanup of a bridge

`FinalizerManager.HandleFinalizerCleanup` of `internal/controller/hostedcluster/finalizer.go`,
with `deleteResource`, `deleteSecrets`, `deleteSecret`, `GetDeletionElapsedTime` and
`IsDeletionTimeoutExceeded`. An invocation sets the `HostedClusterCleanup` condition to
`CleanupInProgress` and writes the status. Past `DeletionTimeout` since the bridge's deletion
timestamp it sets `CleanupTimeout`, writes the status once more and returns without error and
without requeue, whatever that write answered. Otherwise it deletes the HostedCluster named after
the bridge, then the NodePool once the HostedCluster is gone, requeueing after
`DeletionRequeueInterval` while either is still there; with both gone it deletes the three
secrets derived from the bridge's name, sets `CleanupSucceeded` and writes the status.

`Status().Update` answers with the bridge as stored, and the source goes on with that object: the
model threads the returned bridge the same way. `metav1.Now()` and `time.Since` both read the
session's clock, once per invocation. The condition message of a timeout prints the elapsed time
with Go's `Duration.String`, which `durationString` follows.

`DeleteRun`, `SecretRun`, `SecretsRun`, `ChainRun` and `CleanupRun` say everything each function
can do. Each is proved once from the monadic code, and the modules after this one reason on them
alone.
-/

set_option autoImplicit false
set_option relaxedAutoImplicit false

namespace DpfHcpBridge.HostedCluster

/-! ### Printing a duration -/

/-- The digits `fmtFrac` keeps of the `prec` lowest digits of `v`: trailing zeros dropped, and
the point only when a digit is left. Answers with the digits and `v / 10 ^ prec`. -/
def fmtFracDigits : Nat → Nat → Bool → List Char → List Char × Nat
  | 0, v, print, acc => (if print then '.' :: acc else acc, v)
  | prec + 1, v, print, acc =>
    let print := print || v % 10 != 0
    fmtFracDigits prec (v / 10) print (if print then Char.ofNat (48 + v % 10) :: acc else acc)

/-- `time.fmtFrac`. -/
def fmtFrac (v prec : Nat) : List Char × Nat := fmtFracDigits prec v false []

/-- `time.fmtInt`: the decimal digits. -/
def fmtInt (v : Nat) : List Char := (Nat.repr v).data

/-- `time.Duration.String`: hours, minutes and seconds with a fraction, or one smaller unit below
a second. -/
def durationString (d : Int) : String :=
  let u := d.natAbs
  let body : List Char :=
    if u = 0 then ['0', 's']
    else if u < 1000 then fmtInt u ++ ['n', 's']
    else if u < 1000000 then
      let (frac, v) := fmtFrac u 3
      fmtInt v ++ frac ++ ['µ', 's']
    else if u < 1000000000 then
      let (frac, v) := fmtFrac u 6
      fmtInt v ++ frac ++ ['m', 's']
    else
      let (frac, v) := fmtFrac u 9
      let seconds := fmtInt (v % 60) ++ frac ++ ['s']
      if v / 60 = 0 then seconds
      else
        let minutes := fmtInt (v / 60 % 60) ++ ['m'] ++ seconds
        if v / 3600 = 0 then minutes else fmtInt (v / 3600) ++ ['h'] ++ minutes
  String.mk (if d < 0 then '-' :: body else body)

example : durationString (30 * minute + 1) = "30m0.000000001s" := by decide
example : durationString (90 * minute + 1500 * 1000000) = "1h30m1.5s" := by decide

/-! ### The functions -/

/-- `DeletionTimeout`: thirty minutes. -/
def deletionTimeout : Int := 30 * minute

/-- `DeletionRequeueInterval`: ten seconds. -/
def deletionRequeueInterval : Int := 10 * second

/-- The secrets `deleteSecrets` removes, in its order. -/
def secretNames (cr : DPFHCPBridge) : List String :=
  [cr.name ++ "-pull-secret", cr.name ++ "-ssh-key", cr.name ++ "-etcd-encryption-key"]

/-- The bridge after `meta.SetStatusCondition` of a `HostedClusterCleanup` condition at `now`.
The source sets no observed generation and ignores whether the call changed anything. -/
def withCleanupCondition (cr : DPFHCPBridge) (status : ConditionStatus) (reason message : String)
    (now : Int) : DPFHCPBridge :=
  { cr with
    conditions :=
      (setStatusCondition ⟨hostedClusterCleanup, status, reason, message, now, 0⟩ cr.conditions).2 }

@[simp] theorem withCleanupCondition_ns (cr : DPFHCPBridge) (status : ConditionStatus)
    (reason message : String) (now : Int) :
    (withCleanupCondition cr status reason message now).ns = cr.ns := rfl

@[simp] theorem withCleanupCondition_name (cr : DPFHCPBridge) (status : ConditionStatus)
    (reason message : String) (now : Int) :
    (withCleanupCondition cr status reason message now).name = cr.name := rfl

@[simp] theorem withCleanupCondition_deletionTimestamp (cr : DPFHCPBridge) (status : ConditionStatus)
    (reason message : String) (now : Int) :
    (withCleanupCondition cr status reason message now).deletionTimestamp = cr.deletionTimestamp := rfl

theorem withCleanupCondition_find (cr : DPFHCPBridge) (status : ConditionStatus)
    (reason message : String) (now : Int) :
    findStatusCondition (withCleanupCondition cr status reason message now).conditions
        hostedClusterCleanup =
      some (Condition.settled (findStatusCondition cr.conditions hostedClusterCleanup)
        ⟨hostedClusterCleanup, status, reason, message, now, 0⟩) :=
  findStatusCondition_setStatusCondition _ _

/-- The status of a bridge's `HostedClusterCleanup` condition, if it has one. -/
def cleanupStatus (cr : DPFHCPBridge) : Option ConditionStatus :=
  (findStatusCondition cr.conditions hostedClusterCleanup).map (·.status)

@[simp] theorem cleanupStatus_withCleanupCondition (cr : DPFHCPBridge) (status : ConditionStatus)
    (reason message : String) (now : Int) :
    cleanupStatus (withCleanupCondition cr status reason message now) = some status := by
  simp [cleanupStatus, withCleanupCondition_find]

/-- The status and reason of a bridge's `HostedClusterCleanup` condition, if it has one. -/
def cleanupOutcome (cr : DPFHCPBridge) : Option (ConditionStatus × String) :=
  (findStatusCondition cr.conditions hostedClusterCleanup).map fun c => (c.status, c.reason)

@[simp] theorem cleanupOutcome_withCleanupCondition (cr : DPFHCPBridge) (status : ConditionStatus)
    (reason message : String) (now : Int) :
    cleanupOutcome (withCleanupCondition cr status reason message now) = some (status, reason) := by
  simp [cleanupOutcome, withCleanupCondition_find]

/-- `deleteResource`: whether the object of `kind` named after the bridge is gone. A `Get` that
answers NotFound or no-match means gone; an object without a deletion timestamp is deleted and
still counts as there. -/
def deleteResource (cr : DPFHCPBridge) (kind : Kind) (resourceKind : String) :
    ClientM (Except String Bool) := do
  match ← getObject kind cr.ns cr.name with
  | .error err =>
    if err.isNotFound then return .ok true
    else if err.isNoMatch then return .ok true
    else return .error ("failed to get " ++ resourceKind ++ ": " ++ err.text)
  | .ok obj =>
    match obj.deletionTimestamp with
    | none =>
      match ← deleteObject kind obj with
      | .error err =>
        if err.isNotFound then return .ok true
        else return .error ("failed to delete " ++ resourceKind ++ ": " ++ err.text)
      | .ok () => return .ok false
    | some _ => return .ok false

/-- `deleteSecret`. -/
def deleteSecret (ns secretName : String) : ClientM (Option String) := do
  match ← getObject .secret ns secretName with
  | .error err =>
    if err.isNotFound then return none
    else return some ("failed to get secret " ++ secretName ++ ": " ++ err.text)
  | .ok secret =>
    match ← deleteObject .secret secret with
    | .error err =>
      if err.isNotFound then return none
      else return some ("failed to delete secret " ++ secretName ++ ": " ++ err.text)
    | .ok () => return none

/-- The loop of `deleteSecrets`, stopping at the first error. -/
def deleteSecretsIn (ns : String) : List String → ClientM (Option String)
  | [] => return none
  | secretName :: rest => do
    match ← deleteSecret ns secretName with
    | some err => return some err
    | none => deleteSecretsIn ns rest

/-- `deleteSecrets`. -/
def deleteSecrets (cr : DPFHCPBridge) : ClientM (Option String) :=
  deleteSecretsIn cr.ns (secretNames cr)

/-- The in-progress condition every invocation starts with. -/
def markInProgress (cr : DPFHCPBridge) (now : Int) : DPFHCPBridge :=
  withCleanupCondition cr .conditionFalse "CleanupInProgress"
    "Deleting HostedCluster and associated resources" now

/-- The condition of a timeout, `elapsedTime` past the deletion timestamp. -/
def markTimedOut (cr : DPFHCPBridge) (elapsedTime now : Int) : DPFHCPBridge :=
  withCleanupCondition cr .conditionFalse "CleanupTimeout"
    ("HostedCluster deletion timeout exceeded after " ++ durationString elapsedTime) now

/-- The condition of a finished cleanup. -/
def markSucceeded (cr : DPFHCPBridge) (now : Int) : DPFHCPBridge :=
  withCleanupCondition cr .conditionTrue "CleanupSucceeded"
    "HostedCluster and associated resources deleted successfully" now

@[simp] theorem markInProgress_key (cr : DPFHCPBridge) (now : Int) :
    (markInProgress cr now).key = cr.key := rfl

@[simp] theorem markTimedOut_key (cr : DPFHCPBridge) (elapsedTime now : Int) :
    (markTimedOut cr elapsedTime now).key = cr.key := rfl

@[simp] theorem markSucceeded_key (cr : DPFHCPBridge) (now : Int) :
    (markSucceeded cr now).key = cr.key := rfl

/-- `HandleFinalizerCleanup`: the result, the returned error and the bridge as it stands
afterwards. -/
def handleFinalizerCleanup (cr : DPFHCPBridge) :
    ClientM (Result × Option String × DPFHCPBridge) := do
  let now ← clock
  let cr := markInProgress cr now
  match ← updateStatus cr with
  | .error err => return ({}, some err.text, cr)
  | .ok cr =>
    match cr.deletionTimestamp with
    | none => return ({}, some "deletionTimestamp is nil", cr)
    | some deletionTimestamp =>
      let elapsedTime := now - deletionTimestamp
      if elapsedTime > deletionTimeout then
        let cr := markTimedOut cr elapsedTime now
        match ← updateStatus cr with
        | .error _ => return ({}, none, cr)
        | .ok cr => return ({}, none, cr)
      else
        match ← deleteResource cr .hostedCluster "HostedCluster" with
        | .error err => return ({}, some err, cr)
        | .ok false => return ({ requeueAfter := deletionRequeueInterval }, none, cr)
        | .ok true =>
          match ← deleteResource cr .nodePool "NodePool" with
          | .error err => return ({}, some err, cr)
          | .ok false => return ({ requeueAfter := deletionRequeueInterval }, none, cr)
          | .ok true =>
            match ← deleteSecrets cr with
            | some err => return ({}, some err, cr)
            | none =>
              let cr := markSucceeded cr now
              match ← updateStatus cr with
              | .error err => return ({}, some err.text, cr)
              | .ok cr => return ({}, none, cr)

/-- `GetDeletionElapsedTime`. -/
def getDeletionElapsedTime (deletionTimestamp : Option Int) (now : Int) : Int :=
  match deletionTimestamp with
  | none => 0
  | some t => now - t

/-- `IsDeletionTimeoutExceeded`. -/
def isDeletionTimeoutExceeded (deletionTimestamp : Option Int) (now : Int) : Bool :=
  getDeletionElapsedTime deletionTimestamp now > deletionTimeout

/-! ### What `deleteResource` and `deleteSecret` can do -/

/-- The object `deleteResource` looks for: named after the bridge, in the bridge's namespace. -/
abbrev dependentRef (cr : DPFHCPBridge) (kind : Kind) : ObjectRef := ⟨kind, cr.ns, cr.name⟩

/-- An object a `Get` found is stored under the reference looked up. -/
theorem ref_of_got {s : Session} {kind : Kind} {ns name : String} {obj : Object}
    (h : s.got kind ns name = .ok obj) : obj.ref kind = ⟨kind, ns, name⟩ := by
  obtain ⟨-, hs⟩ := Session.got_eq_ok s h
  obtain ⟨hns, hname⟩ := s.store.object_at_ref _ _ hs
  simp [Object.ref, hns, hname]

section Delete

variable (cr : DPFHCPBridge) (kind : Kind) (resourceKind : String)

/-- Everything `deleteResource` can do. -/
inductive DeleteRun (s : Session) : Except String Bool → Session → Prop
  | gone {e : ApiError} (hg : s.got kind cr.ns cr.name = .error e)
      (he : e.isNotFound = true ∨ e.isNoMatch = true) :
      DeleteRun s (.ok true) (s.looked (dependentRef cr kind))
  | getFailed {e : ApiError} (hg : s.got kind cr.ns cr.name = .error e)
      (hnf : e.isNotFound = false) (hnm : e.isNoMatch = false) :
      DeleteRun s (.error ("failed to get " ++ resourceKind ++ ": " ++ e.text))
        (s.looked (dependentRef cr kind))
  | marked {obj : Object} {t : Int} (hg : s.got kind cr.ns cr.name = .ok obj)
      (ht : obj.deletionTimestamp = some t) :
      DeleteRun s (.ok false) (s.looked (dependentRef cr kind))
  | deleted {obj : Object} {store : Store} (hg : s.got kind cr.ns cr.name = .ok obj)
      (ht : obj.deletionTimestamp = none)
      (ha : (s.looked (dependentRef cr kind)).deleteAnswer kind obj = .ok (store, ())) :
      DeleteRun s (.ok false)
        ((s.looked (dependentRef cr kind)).after (.delete (dependentRef cr kind) obj) (.ok (store, ())))
  | deleteGone {obj : Object} {e : ApiError} (hg : s.got kind cr.ns cr.name = .ok obj)
      (ht : obj.deletionTimestamp = none)
      (ha : (s.looked (dependentRef cr kind)).deleteAnswer kind obj = .error e)
      (he : e.isNotFound = true) :
      DeleteRun s (.ok true)
        ((s.looked (dependentRef cr kind)).after (.delete (dependentRef cr kind) obj)
          (.error e : Except ApiError (Store × Unit)))
  | deleteFailed {obj : Object} {e : ApiError} (hg : s.got kind cr.ns cr.name = .ok obj)
      (ht : obj.deletionTimestamp = none)
      (ha : (s.looked (dependentRef cr kind)).deleteAnswer kind obj = .error e)
      (he : e.isNotFound = false) :
      DeleteRun s (.error ("failed to delete " ++ resourceKind ++ ": " ++ e.text))
        ((s.looked (dependentRef cr kind)).after (.delete (dependentRef cr kind) obj)
          (.error e : Except ApiError (Store × Unit)))

theorem deleteResource_run (s : Session) :
    DeleteRun cr kind resourceKind s (deleteResource cr kind resourceKind s).1
      (deleteResource cr kind resourceKind s).2 := by
  simp only [deleteResource, bind_apply, getObject_looked]
  rcases hg : s.got kind cr.ns cr.name with e | obj
  · cases hnf : e.isNotFound
    · cases hnm : e.isNoMatch
      · simpa [hnf, hnm] using DeleteRun.getFailed hg hnf hnm
      · simpa [hnf, hnm] using DeleteRun.gone hg (.inr hnm)
    · simpa [hnf] using DeleteRun.gone hg (.inl hnf)
  · have href : obj.ref kind = dependentRef cr kind := ref_of_got hg
    rcases ht : obj.deletionTimestamp with _ | t
    · simp only [ht, deleteObject_apply, bind_apply, href]
      generalize ha : (s.looked (dependentRef cr kind)).deleteAnswer kind obj = a
      rcases a with e | ⟨store, ⟨⟩⟩
      · cases he : e.isNotFound
        · simpa [Except.map, he] using DeleteRun.deleteFailed hg ht ha he
        · simpa [Except.map, he] using DeleteRun.deleteGone hg ht ha he
      · simpa [Except.map] using DeleteRun.deleted hg ht ha
    · simpa [ht] using DeleteRun.marked hg ht

end Delete

section Secret

variable (ns secretName : String)

/-- The secret `deleteSecret` looks for. -/
abbrev secretRef : ObjectRef := ⟨.secret, ns, secretName⟩

/-- Everything `deleteSecret` can do. -/
inductive SecretRun (s : Session) : Option String → Session → Prop
  | gone {e : ApiError} (hg : s.got .secret ns secretName = .error e) (he : e.isNotFound = true) :
      SecretRun s none (s.looked (secretRef ns secretName))
  | getFailed {e : ApiError} (hg : s.got .secret ns secretName = .error e)
      (he : e.isNotFound = false) :
      SecretRun s (some ("failed to get secret " ++ secretName ++ ": " ++ e.text))
        (s.looked (secretRef ns secretName))
  | deleted {secret : Object} {store : Store} (hg : s.got .secret ns secretName = .ok secret)
      (ha : (s.looked (secretRef ns secretName)).deleteAnswer .secret secret = .ok (store, ())) :
      SecretRun s none
        ((s.looked (secretRef ns secretName)).after (.delete (secretRef ns secretName) secret)
          (.ok (store, ())))
  | deleteGone {secret : Object} {e : ApiError} (hg : s.got .secret ns secretName = .ok secret)
      (ha : (s.looked (secretRef ns secretName)).deleteAnswer .secret secret = .error e)
      (he : e.isNotFound = true) :
      SecretRun s none
        ((s.looked (secretRef ns secretName)).after (.delete (secretRef ns secretName) secret)
          (.error e : Except ApiError (Store × Unit)))
  | deleteFailed {secret : Object} {e : ApiError} (hg : s.got .secret ns secretName = .ok secret)
      (ha : (s.looked (secretRef ns secretName)).deleteAnswer .secret secret = .error e)
      (he : e.isNotFound = false) :
      SecretRun s (some ("failed to delete secret " ++ secretName ++ ": " ++ e.text))
        ((s.looked (secretRef ns secretName)).after (.delete (secretRef ns secretName) secret)
          (.error e : Except ApiError (Store × Unit)))

theorem deleteSecret_run (s : Session) :
    SecretRun ns secretName s (deleteSecret ns secretName s).1 (deleteSecret ns secretName s).2 := by
  simp only [deleteSecret, bind_apply, getObject_looked]
  rcases hg : s.got .secret ns secretName with e | secret
  · cases he : e.isNotFound
    · simpa [he] using SecretRun.getFailed hg he
    · simpa [he] using SecretRun.gone hg he
  · have href : secret.ref .secret = secretRef ns secretName := ref_of_got hg
    simp only [deleteObject_apply, bind_apply, href]
    generalize ha : (s.looked (secretRef ns secretName)).deleteAnswer .secret secret = a
    rcases a with e | ⟨store, ⟨⟩⟩
    · cases he : e.isNotFound
      · simpa [Except.map, he] using SecretRun.deleteFailed hg ha he
      · simpa [Except.map, he] using SecretRun.deleteGone hg ha he
    · simpa [Except.map] using SecretRun.deleted hg ha

end Secret

/-- Everything the loop of `deleteSecrets` can do: stop at the first secret that fails, or go on
past one that is gone. -/
inductive SecretsRun (ns : String) : List String → Session → Option String → Session → Prop
  | nil (s : Session) : SecretsRun ns [] s none s
  | stop {secretName : String} {rest : List String} {s s₁ : Session} {err : String}
      (run : SecretRun ns secretName s (some err) s₁) :
      SecretsRun ns (secretName :: rest) s (some err) s₁
  | next {secretName : String} {rest : List String} {s s₁ s₂ : Session} {out : Option String}
      (run : SecretRun ns secretName s none s₁) (later : SecretsRun ns rest s₁ out s₂) :
      SecretsRun ns (secretName :: rest) s out s₂

theorem deleteSecretsIn_run (ns : String) (names : List String) (s : Session) :
    SecretsRun ns names s (deleteSecretsIn ns names s).1 (deleteSecretsIn ns names s).2 := by
  induction names generalizing s with
  | nil => exact .nil s
  | cons secretName rest ih =>
    have run := deleteSecret_run ns secretName s
    simp only [deleteSecretsIn, bind_apply]
    generalize deleteSecret ns secretName s = o at run ⊢
    obtain ⟨_ | err, s₁⟩ := o
    · exact .next run (ih s₁)
    · exact .stop run

/-! ### What `HandleFinalizerCleanup` can do -/

/-- Everything the dependency chain can do, once the in-progress condition is written and the
deletion is within its timeout: `cr` is the bridge as the write returned it, `now` the
invocation's time. -/
inductive ChainRun (cr : DPFHCPBridge) (now : Int) (s : Session) :
    Result × Option String × DPFHCPBridge → Session → Prop
  | hostedClusterFailed {err : String} {s₁ : Session}
      (hc : DeleteRun cr .hostedCluster "HostedCluster" s (.error err) s₁) :
      ChainRun cr now s ({}, some err, cr) s₁
  | hostedClusterWaiting {s₁ : Session}
      (hc : DeleteRun cr .hostedCluster "HostedCluster" s (.ok false) s₁) :
      ChainRun cr now s ({ requeueAfter := deletionRequeueInterval }, none, cr) s₁
  | nodePoolFailed {err : String} {s₁ s₂ : Session}
      (hc : DeleteRun cr .hostedCluster "HostedCluster" s (.ok true) s₁)
      (np : DeleteRun cr .nodePool "NodePool" s₁ (.error err) s₂) :
      ChainRun cr now s ({}, some err, cr) s₂
  | nodePoolWaiting {s₁ s₂ : Session}
      (hc : DeleteRun cr .hostedCluster "HostedCluster" s (.ok true) s₁)
      (np : DeleteRun cr .nodePool "NodePool" s₁ (.ok false) s₂) :
      ChainRun cr now s ({ requeueAfter := deletionRequeueInterval }, none, cr) s₂
  | secretsFailed {err : String} {s₁ s₂ s₃ : Session}
      (hc : DeleteRun cr .hostedCluster "HostedCluster" s (.ok true) s₁)
      (np : DeleteRun cr .nodePool "NodePool" s₁ (.ok true) s₂)
      (secrets : SecretsRun cr.ns (secretNames cr) s₂ (some err) s₃) :
      ChainRun cr now s ({}, some err, cr) s₃
  | writeFailed {s₁ s₂ s₃ : Session} {e : ApiError}
      (hc : DeleteRun cr .hostedCluster "HostedCluster" s (.ok true) s₁)
      (np : DeleteRun cr .nodePool "NodePool" s₁ (.ok true) s₂)
      (secrets : SecretsRun cr.ns (secretNames cr) s₂ none s₃)
      (ha : s₃.statusAnswer (markSucceeded cr now) = .error e) :
      ChainRun cr now s ({}, some e.text, markSucceeded cr now)
        (s₃.afterStatus (markSucceeded cr now) (.error e))
  | written {s₁ s₂ s₃ : Session} {store : Store} {stored : DPFHCPBridge}
      (hc : DeleteRun cr .hostedCluster "HostedCluster" s (.ok true) s₁)
      (np : DeleteRun cr .nodePool "NodePool" s₁ (.ok true) s₂)
      (secrets : SecretsRun cr.ns (secretNames cr) s₂ none s₃)
      (ha : s₃.statusAnswer (markSucceeded cr now) = .ok (store, stored)) :
      ChainRun cr now s ({}, none, stored) (s₃.afterStatus (markSucceeded cr now) (.ok (store, stored)))

/-- Everything `HandleFinalizerCleanup` can do. -/
inductive CleanupRun (cr : DPFHCPBridge) (s : Session) :
    Result × Option String × DPFHCPBridge → Session → Prop
  | inProgressFailed {e : ApiError}
      (ha : s.statusAnswer (markInProgress cr s.clock) = .error e) :
      CleanupRun cr s ({}, some e.text, markInProgress cr s.clock)
        (s.afterStatus (markInProgress cr s.clock) (.error e))
  | noTimestamp {store : Store} {stored : DPFHCPBridge}
      (ha : s.statusAnswer (markInProgress cr s.clock) = .ok (store, stored))
      (ht : stored.deletionTimestamp = none) :
      CleanupRun cr s ({}, some "deletionTimestamp is nil", stored)
        (s.afterStatus (markInProgress cr s.clock) (.ok (store, stored)))
  | timedOutWriteFailed {store : Store} {stored : DPFHCPBridge} {t : Int} {e : ApiError}
      (ha : s.statusAnswer (markInProgress cr s.clock) = .ok (store, stored))
      (ht : stored.deletionTimestamp = some t) (hlate : s.clock - t > deletionTimeout)
      (ha₂ : (s.afterStatus (markInProgress cr s.clock) (.ok (store, stored))).statusAnswer
        (markTimedOut stored (s.clock - t) s.clock) = .error e) :
      CleanupRun cr s ({}, none, markTimedOut stored (s.clock - t) s.clock)
        ((s.afterStatus (markInProgress cr s.clock) (.ok (store, stored))).afterStatus
          (markTimedOut stored (s.clock - t) s.clock) (.error e))
  | timedOutWritten {store store₂ : Store} {stored stored₂ : DPFHCPBridge} {t : Int}
      (ha : s.statusAnswer (markInProgress cr s.clock) = .ok (store, stored))
      (ht : stored.deletionTimestamp = some t) (hlate : s.clock - t > deletionTimeout)
      (ha₂ : (s.afterStatus (markInProgress cr s.clock) (.ok (store, stored))).statusAnswer
        (markTimedOut stored (s.clock - t) s.clock) = .ok (store₂, stored₂)) :
      CleanupRun cr s ({}, none, stored₂)
        ((s.afterStatus (markInProgress cr s.clock) (.ok (store, stored))).afterStatus
          (markTimedOut stored (s.clock - t) s.clock) (.ok (store₂, stored₂)))
  | proceeded {store : Store} {stored : DPFHCPBridge} {t : Int}
      {out : Result × Option String × DPFHCPBridge} {s' : Session}
      (ha : s.statusAnswer (markInProgress cr s.clock) = .ok (store, stored))
      (ht : stored.deletionTimestamp = some t) (hin : ¬ s.clock - t > deletionTimeout)
      (chain : ChainRun stored s.clock
        (s.afterStatus (markInProgress cr s.clock) (.ok (store, stored))) out s') :
      CleanupRun cr s out s'

theorem handleFinalizerCleanup_run (cr : DPFHCPBridge) (s : Session) :
    CleanupRun cr s (handleFinalizerCleanup cr s).1 (handleFinalizerCleanup cr s).2 := by
  simp only [handleFinalizerCleanup, bind_apply, clock_apply, updateStatus_apply]
  generalize ha : s.statusAnswer (markInProgress cr s.clock) = a
  rcases a with e | ⟨store, stored⟩
  · exact .inProgressFailed ha
  simp only [Except.map]
  rcases ht : stored.deletionTimestamp with _ | t
  · exact .noTimestamp ha ht
  by_cases hlate : s.clock - t > deletionTimeout
  · simp only [hlate, if_true, updateStatus_apply, bind_apply]
    generalize ha₂ : (s.afterStatus _ _).statusAnswer _ = a₂
    rcases a₂ with e | ⟨store₂, stored₂⟩
    · exact .timedOutWriteFailed ha ht hlate ha₂
    · exact .timedOutWritten ha ht hlate ha₂
  refine .proceeded ha ht hlate ?_
  simp only [hlate, if_false, bind_apply]
  generalize s.afterStatus _ _ = s₁
  have hc := deleteResource_run stored .hostedCluster "HostedCluster" s₁
  generalize deleteResource stored .hostedCluster "HostedCluster" s₁ = o₁ at hc ⊢
  obtain ⟨err | _ | _, s₂⟩ := o₁
  · exact .hostedClusterFailed hc
  · exact .hostedClusterWaiting hc
  dsimp only
  simp only [bind_apply]
  have np := deleteResource_run stored .nodePool "NodePool" s₂
  generalize deleteResource stored .nodePool "NodePool" s₂ = o₂ at np ⊢
  obtain ⟨err | _ | _, s₃⟩ := o₂
  · exact .nodePoolFailed hc np
  · exact .nodePoolWaiting hc np
  dsimp only
  simp only [bind_apply, deleteSecrets]
  have secrets := deleteSecretsIn_run stored.ns (secretNames stored) s₃
  generalize deleteSecretsIn stored.ns (secretNames stored) s₃ = o₃ at secrets ⊢
  obtain ⟨_ | err, s₄⟩ := o₃
  · dsimp only
    simp only [bind_apply, updateStatus_apply]
    generalize ha₃ : s₄.statusAnswer _ = a₃
    rcases a₃ with e | ⟨store₃, stored₃⟩
    · exact .writeFailed hc np secrets ha₃
    · exact .written hc np secrets ha₃
  · exact .secretsFailed hc np secrets

end DpfHcpBridge.HostedCluster
