import DpfHcpBridge.Store

/-!
# One controller invocation against the store

`client.Client` and `record.EventRecorder` as the controllers use them. An invocation runs in
`ClientM`, a state monad over a `Session`: the store, the wall clock the invocation reads, a
fault oracle, the calls issued so far with their outcomes, and the events emitted so far. Each
store call goes through `issue`, which consults the fault oracle at the call's position in the
log: an injected error answers instead of the store, and otherwise the store answers. Together
with an arbitrary initial store this gives every pattern of answers a real API server can give
one invocation, transient failures and races with other writers included.

The log is an instrumentation of the model: a call is recorded with what it sent and whether it
failed. Properties of the order of calls are stated on it with `OnlyAfter`, which says that
every entry of one sort has an entry of another sort somewhere before it; its lemmas cover the
empty log, appending a segment, and cutting a log short, which is what an invocation interrupted
by a crash leaves behind.
-/

set_option autoImplicit false
set_option relaxedAutoImplicit false

namespace DpfHcpBridge

/-- A store call as the client sends it. -/
inductive Call
  | get (ref : ObjectRef)
  | create (ref : ObjectRef) (obj : Object)
  | update (ref : ObjectRef) (obj : Object)
  | delete (ref : ObjectRef) (obj : Object)
  | updateStatus (key : String × String) (conditions : List Condition)
  deriving DecidableEq, Repr

/-- The object a call reads or writes; a status write has none. -/
def Call.target : Call → Option ObjectRef
  | .get ref | .create ref _ | .update ref _ | .delete ref _ => some ref
  | .updateStatus _ _ => none

/-- Whether a call creates or updates an object. -/
def Call.isWrite : Call → Bool
  | .create _ _ | .update _ _ => true
  | _ => false

/-- A call in the log, with the error it failed with, if any. -/
structure Issued where
  call : Call
  outcome : Option ApiError
  deriving DecidableEq, Repr

/-- What an invocation runs against. -/
structure Session where
  store : Store
  clock : Int
  faults : Nat → Option ApiError
  calls : List Issued
  events : List Event

/-- The monad the controllers' functions are written in. -/
abbrev ClientM := StateM Session

/-- The error of an answer, if it is one. -/
def outcomeOf {α : Type} : Except ApiError α → Option ApiError
  | .error e => some e
  | .ok _ => none

namespace Session

variable {α : Type} (s : Session)

/-- The answer to the next call: an injected fault, or else the store's own answer. -/
def answer (serve : Store → Except ApiError (Store × α)) : Except ApiError (Store × α) :=
  match s.faults s.calls.length with
  | some e => .error e
  | none => serve s.store

/-- The session after a call that got answer `a`. -/
def after (call : Call) : Except ApiError (Store × α) → Session
  | .error e => { s with calls := s.calls ++ [⟨call, some e⟩] }
  | .ok (store, _) => { s with store := store, calls := s.calls ++ [⟨call, none⟩] }

@[simp] theorem after_clock (call : Call) (a : Except ApiError (Store × α)) :
    (s.after call a).clock = s.clock := by
  cases a <;> rfl

@[simp] theorem after_faults (call : Call) (a : Except ApiError (Store × α)) :
    (s.after call a).faults = s.faults := by
  cases a <;> rfl

@[simp] theorem after_events (call : Call) (a : Except ApiError (Store × α)) :
    (s.after call a).events = s.events := by
  cases a <;> rfl

@[simp] theorem after_calls (call : Call) (a : Except ApiError (Store × α)) :
    (s.after call a).calls = s.calls ++ [⟨call, outcomeOf a⟩] := by
  cases a <;> rfl

@[simp] theorem after_error_store (call : Call) (e : ApiError) :
    (s.after call (.error e : Except ApiError (Store × α))).store = s.store := rfl

@[simp] theorem after_ok_store (call : Call) (store : Store) (a : α) :
    (s.after call (.ok (store, a))).store = store := rfl

/-- A call that succeeded was served by the store. -/
theorem answer_eq_ok {serve : Store → Except ApiError (Store × α)} {x : Store × α}
    (h : s.answer serve = .ok x) : s.faults s.calls.length = none ∧ serve s.store = .ok x := by
  unfold answer at h
  split at h
  · cases h
  · exact ⟨by assumption, h⟩

/-- The answer a `Get` receives. -/
def got (kind : Kind) (ns name : String) : Except ApiError Object :=
  match s.faults s.calls.length with
  | some e => .error e
  | none => s.store.get kind ns name

/-- A `Get` that found an object found it in the store. -/
theorem got_eq_ok {kind : Kind} {ns name : String} {obj : Object}
    (h : s.got kind ns name = .ok obj) :
    s.store.installed kind = true ∧ s.store.objects ⟨kind, ns, name⟩ = some obj := by
  unfold got at h
  split at h
  · cases h
  · exact Store.get_eq_ok h

/-- A write that succeeded was served by the store. -/
theorem answer_write_eq_ok {serve : Store → Except ApiError Store} {store : Store} {u : Unit}
    (h : s.answer (fun st => (serve st).map (·, ())) = .ok (store, u)) :
    s.faults s.calls.length = none ∧ serve s.store = .ok store := by
  obtain ⟨hf, h⟩ := s.answer_eq_ok h
  refine ⟨hf, ?_⟩
  cases hs : serve s.store <;> simp_all [Except.map]

end Session

/-! ### Client calls -/

/-- Issue one call: the answer decides the result, and the call is logged. -/
def issue {α : Type} (call : Call) (serve : Store → Except ApiError (Store × α)) :
    ClientM (Except ApiError α) :=
  fun s => ((s.answer serve).map Prod.snd, s.after call (s.answer serve))

/-- The wall clock: `metav1.Now()` and `time.Since` read it. -/
def clock : ClientM Int := fun s => (s.clock, s)

/-- `recorder.Event` on the bridge. -/
def emit (event : Event) : ClientM Unit := fun s => ((), { s with events := s.events ++ [event] })

/-- `client.Get`. -/
def getObject (kind : Kind) (ns name : String) : ClientM (Except ApiError Object) :=
  issue (.get ⟨kind, ns, name⟩) fun store => (store.get kind ns name).map (store, ·)

/-- `client.Create`. -/
def createObject (kind : Kind) (obj : Object) : ClientM (Except ApiError Unit) :=
  issue (.create (obj.ref kind) obj) fun store => (store.create kind obj).map (·, ())

/-- `client.Update`. -/
def updateObject (kind : Kind) (obj : Object) : ClientM (Except ApiError Unit) :=
  issue (.update (obj.ref kind) obj) fun store => (store.update kind obj).map (·, ())

/-- `client.Delete`. -/
def deleteObject (kind : Kind) (obj : Object) : ClientM (Except ApiError Unit) := do
  let now ← clock
  issue (.delete (obj.ref kind) obj) fun store => (store.delete kind obj.ns obj.name now).map (·, ())

/-- `client.Status().Update`, answering with the bridge as stored. -/
def updateStatus (bridge : DPFHCPBridge) : ClientM (Except ApiError DPFHCPBridge) :=
  issue (.updateStatus bridge.key bridge.conditions) (·.updateStatus bridge)

@[simp] theorem bind_apply {α β : Type} (x : ClientM α) (f : α → ClientM β) (s : Session) :
    (x >>= f) s = f (x s).1 (x s).2 := rfl

@[simp] theorem pure_apply {α : Type} (a : α) (s : Session) : (pure a : ClientM α) s = (a, s) :=
  rfl

@[simp] theorem map_apply {α β : Type} (f : α → β) (x : ClientM α) (s : Session) :
    (f <$> x) s = (f (x s).1, (x s).2) := rfl

@[simp] theorem issue_apply {α : Type} (call : Call) (serve : Store → Except ApiError (Store × α))
    (s : Session) : issue call serve s = ((s.answer serve).map Prod.snd, s.after call (s.answer serve)) :=
  rfl

/-- A `Get` leaves the store as it was. -/
theorem getObject_apply (kind : Kind) (ns name : String) (s : Session) :
    getObject kind ns name s =
      (s.got kind ns name,
        { s with calls := s.calls ++ [⟨.get ⟨kind, ns, name⟩, outcomeOf (s.got kind ns name)⟩] }) := by
  simp only [getObject, issue_apply, Session.answer, Session.got]
  cases s.faults s.calls.length <;> cases s.store.get kind ns name <;> rfl

/-- The session after a `Get` of `ref`. -/
def Session.looked (s : Session) (ref : ObjectRef) : Session :=
  { s with calls := s.calls ++ [⟨.get ref, outcomeOf (s.got ref.kind ref.ns ref.name)⟩] }

@[simp] theorem looked_store (s : Session) (ref : ObjectRef) : (s.looked ref).store = s.store := rfl
@[simp] theorem looked_clock (s : Session) (ref : ObjectRef) : (s.looked ref).clock = s.clock := rfl
@[simp] theorem looked_faults (s : Session) (ref : ObjectRef) : (s.looked ref).faults = s.faults := rfl
@[simp] theorem looked_events (s : Session) (ref : ObjectRef) : (s.looked ref).events = s.events := rfl
@[simp] theorem looked_calls (s : Session) (ref : ObjectRef) :
    (s.looked ref).calls = s.calls ++ [⟨.get ref, outcomeOf (s.got ref.kind ref.ns ref.name)⟩] := rfl

theorem getObject_looked (kind : Kind) (ns name : String) (s : Session) :
    getObject kind ns name s = (s.got kind ns name, s.looked ⟨kind, ns, name⟩) :=
  getObject_apply kind ns name s

/-- The answer a `Delete` of `obj` receives. -/
def Session.deleteAnswer (s : Session) (kind : Kind) (obj : Object) :
    Except ApiError (Store × Unit) :=
  s.answer fun store => (store.delete kind obj.ns obj.name s.clock).map (·, ())

theorem deleteObject_apply (kind : Kind) (obj : Object) (s : Session) :
    deleteObject kind obj s =
      ((s.deleteAnswer kind obj).map Prod.snd,
        s.after (.delete (obj.ref kind) obj) (s.deleteAnswer kind obj)) := rfl

/-- The answer a `Status().Update` of `bridge` receives. -/
def Session.statusAnswer (s : Session) (bridge : DPFHCPBridge) :
    Except ApiError (Store × DPFHCPBridge) :=
  s.answer (·.updateStatus bridge)

/-- The session after a `Status().Update` of `bridge` that got answer `a`. -/
def Session.afterStatus (s : Session) (bridge : DPFHCPBridge)
    (a : Except ApiError (Store × DPFHCPBridge)) : Session :=
  s.after (.updateStatus bridge.key bridge.conditions) a

theorem updateStatus_apply (bridge : DPFHCPBridge) (s : Session) :
    updateStatus bridge s =
      ((s.statusAnswer bridge).map Prod.snd, s.afterStatus bridge (s.statusAnswer bridge)) := rfl

/-- A status write that succeeded was served by the store: it wrote the conditions over the
bridge stored under the same key. -/
theorem Session.statusAnswer_eq_ok (s : Session) {bridge stored : DPFHCPBridge} {store : Store}
    (h : s.statusAnswer bridge = .ok (store, stored)) :
    s.faults s.calls.length = none ∧ ∃ current, s.store.bridges bridge.key = some current ∧
      current.key = bridge.key ∧ current.resourceVersion = bridge.resourceVersion ∧
      store = s.store.putBridge { current with conditions := bridge.conditions } ∧
      stored = { current with conditions := bridge.conditions, resourceVersion := s.store.revision } := by
  obtain ⟨hf, hs⟩ := s.answer_eq_ok h
  obtain ⟨current, hc, hv, rfl, rfl⟩ := Store.updateStatus_eq_ok hs
  exact ⟨hf, current, hc, s.store.bridge_at_key _ _ hc, hv, rfl, rfl⟩

@[simp] theorem clock_apply (s : Session) : clock s = (s.clock, s) := rfl

@[simp] theorem emit_apply (event : Event) (s : Session) :
    emit event s = ((), { s with events := s.events ++ [event] }) := rfl

/-! ### Orders of calls in a log -/

/-- Every entry satisfying `later` has an entry satisfying `earlier` before it. -/
def OnlyAfter {β : Type} (earlier later : β → Prop) (log : List β) : Prop :=
  ∀ pre e post, log = pre ++ e :: post → later e → ∃ c ∈ pre, earlier c

section OnlyAfter

variable {β : Type} {earlier later : β → Prop}

theorem OnlyAfter.of_forall_not {log : List β} (h : ∀ e ∈ log, ¬ later e) :
    OnlyAfter earlier later log := by
  rintro pre e post rfl he
  exact absurd he (h e (by simp))

/-- Once an `earlier` entry has been seen, anything may follow. -/
theorem OnlyAfter.append_of_exists {front back : List β} (hf : OnlyAfter earlier later front)
    (hc : ∃ c ∈ front, earlier c) : OnlyAfter earlier later (front ++ back) := by
  intro pre e post h he
  obtain ⟨c, hc, hearly⟩ := hc
  rcases List.append_eq_append_iff.mp h with ⟨a', rfl, -⟩ | ⟨c', rfl, hback⟩
  · exact ⟨c, List.mem_append_left _ hc, hearly⟩
  · rcases List.cons_eq_append_iff.mp hback with ⟨rfl, -⟩ | ⟨a', rfl, -⟩
    · exact ⟨c, by simpa using hc, hearly⟩
    · exact hf pre e a' rfl he

/-- A front with no `later` entry, holding an `earlier` entry whenever something follows it. -/
theorem OnlyAfter.of_front {front back : List β} (hf : ∀ e ∈ front, ¬ later e)
    (hb : back ≠ [] → ∃ c ∈ front, earlier c) : OnlyAfter earlier later (front ++ back) := by
  by_cases h : back = []
  · subst h
    simpa using OnlyAfter.of_forall_not hf
  · exact (OnlyAfter.of_forall_not hf).append_of_exists (hb h)

/-- A log cut short keeps the order: what a crash leaves behind. -/
theorem OnlyAfter.of_append {front back : List β} (h : OnlyAfter earlier later (front ++ back)) :
    OnlyAfter earlier later front := by
  rintro pre e post rfl he
  exact h pre e (post ++ back) (by simp) he

theorem OnlyAfter.take {log : List β} (h : OnlyAfter earlier later log) (n : Nat) :
    OnlyAfter earlier later (log.take n) :=
  have h' : OnlyAfter earlier later (log.take n ++ log.drop n) := by rwa [List.take_append_drop]
  h'.of_append

end OnlyAfter

/-! ### A sample session -/

/-- A bridge asking for LoadBalancer exposure, with no condition yet. -/
def sampleBridge : DPFHCPBridge where
  name := "bridge"
  ns := "clusters"
  uid := "uid"
  generation := 2
  resourceVersion := 0
  deletionTimestamp := none
  spec :=
    { virtualIP := "10.0.0.5", pullSecretRef := "pull", sshKeySecretRef := "ssh"
      exposeThroughLoadBalancer := true }
  conditions := []

/-- `sampleBridge` persisted in an otherwise empty store with every kind installed, at time 100,
with no fault. -/
def sampleSession : Session where
  store := (Store.empty fun _ => true).putBridge sampleBridge
  clock := 100
  faults _ := none
  calls := []
  events := []

end DpfHcpBridge
