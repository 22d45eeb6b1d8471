import DpfHcpBridge.HostedCluster.Convergence

/-!
# The teardown as the design's state machine

The design describes the teardown as a machine that drains the dependents in order, the
HostedCluster and then the NodePool, then cleans the derived secrets, and is then done. The code
keeps no step counter: `phase` reads that state off the store, as the first dependent still
present, else whether a derived secret is still live, else `done`. `Invocation` is one step of the
design's machine: the phase never goes back; while a dependent drains the invocation requeues,
and once none is left it succeeds and the teardown is done.

`handleFinalizerCleanup_refines`: with no failed call, secrets served and within the timeout, one
invocation of the code is one `Invocation` of the phase of the store it started from.

`Shrinks` is a store step that only removes objects or marks them for deletion and keeps every
bridge with its deletion timestamp. Every call of the teardown shrinks the store whatever the
faults (`DeleteRun.shrinks`, `SecretRun.shrinks`, `SecretsRun.shrinks`, `ChainRun.shrinks`,
`handleFinalizerCleanup_shrinks`), and so does an environment that only removes objects; over such
a step the phase does not go back (`phase_le_of_shrinks`) and no dependent comes back
(`Shrinks.pending_le`). `teardown_recovers`: after any run of invocations with failed calls, at
any time, interleaved with such an environment (`FaultyRun`), the phase has not gone back, the
bridge is still persisted, and a run with no failed call then succeeds within one invocation more
than the dependents that were left before the failures.
-/

set_option autoImplicit false
set_option relaxedAutoImplicit false

namespace DpfHcpBridge.HostedCluster

/-! ### The design's machine -/

/-- The states of a teardown under way, in the design's order. -/
inductive Phase
  | drainingHostedCluster
  | drainingNodePool
  | cleaningDerivedSecrets
  | done
  deriving DecidableEq, Repr

/-- The position of a phase in that order. -/
def Phase.rank : Phase → Nat
  | .drainingHostedCluster => 0
  | .drainingNodePool => 1
  | .cleaningDerivedSecrets => 2
  | .done => 3

/-- A dependent is still being drained. -/
def Phase.draining : Phase → Bool
  | .drainingHostedCluster | .drainingNodePool => true
  | .cleaningDerivedSecrets | .done => false

/-- One invocation of the design's machine from phase `p`, answered with `result`, the teardown
then being in phase `p'`. The phase may move on while the invocation waits, as deletions
complete. -/
def Invocation (p : Phase) (result : Result) (p' : Phase) : Prop :=
  p.rank ≤ p'.rank ∧ (p.draining = true → result = { requeueAfter := deletionRequeueInterval }) ∧
    (p.draining = false → result = {} ∧ p' = .done)

/-! ### The phase of a store -/

/-- An object under `ref` in an installed kind that is not marked for deletion. -/
def live (st : Store) (ref : ObjectRef) : Bool :=
  match st.objects ref with
  | some o => st.installed ref.kind && o.deletionTimestamp.isNone
  | none => false

theorem live_eq_false {st : Store} {ref : ObjectRef} (h : NotLive st ref) : live st ref = false := by
  unfold live
  split
  · rename_i o ho
    cases hi : st.installed ref.kind
    · rfl
    · cases hd : o.deletionTimestamp with
      | none => exact absurd hd (h o ho hi)
      | some _ => rfl
  · rfl

/-- The state of the teardown of `cr` that the store shows. -/
def phase (st : Store) (cr : DPFHCPBridge) : Phase :=
  if present st (dependentRef cr .hostedCluster) then .drainingHostedCluster
  else if present st (dependentRef cr .nodePool) then .drainingNodePool
  else if (secretNames cr).any fun name => live st (secretRef cr.ns name) then
    .cleaningDerivedSecrets
  else .done

theorem draining_phase (st : Store) (cr : DPFHCPBridge) :
    (phase st cr).draining = !dependentsGone st cr := by
  unfold phase dependentsGone
  split_ifs <;> simp_all [Phase.draining]

theorem phase_eq_done {st : Store} {cr : DPFHCPBridge}
    (hgone : dependentsGone st cr = true)
    (hsecrets : ∀ name ∈ secretNames cr, NotLive st (secretRef cr.ns name)) : phase st cr = .done := by
  have hlive : ((secretNames cr).any fun name => live st (secretRef cr.ns name)) = false := by
    simpa using fun name hname => live_eq_false (hsecrets name hname)
  simp only [dependentsGone, Bool.and_eq_true, Bool.not_eq_true'] at hgone
  simp [phase, hgone.1, hgone.2, hlive]

/-! ### Steps that only shrink the store -/

/-- A store step that removes objects or marks them for deletion, creates none, and keeps every
bridge with its deletion timestamp. -/
structure Shrinks (st st' : Store) : Prop where
  installed : st'.installed = st.installed
  bridges : ∀ key b, st.bridges key = some b →
    ∃ b', st'.bridges key = some b' ∧ b'.deletionTimestamp = b.deletionTimestamp
  objects : ∀ r o', st'.objects r = some o' →
    st.objects r = some o' ∨ (st.objects r).isSome ∧ o'.deletionTimestamp ≠ none

theorem Shrinks.refl (st : Store) : Shrinks st st :=
  ⟨rfl, fun _ b h => ⟨b, h, rfl⟩, fun _ _ h => .inl h⟩

theorem Shrinks.trans {st₁ st₂ st₃ : Store} (h₁ : Shrinks st₁ st₂) (h₂ : Shrinks st₂ st₃) :
    Shrinks st₁ st₃ where
  installed := h₂.installed.trans h₁.installed
  bridges key b hb := by
    obtain ⟨b₂, hb₂, hts₂⟩ := h₁.bridges key b hb
    obtain ⟨b₃, hb₃, hts₃⟩ := h₂.bridges key b₂ hb₂
    exact ⟨b₃, hb₃, hts₃.trans hts₂⟩
  objects r o₃ ho₃ := by
    rcases h₂.objects r o₃ ho₃ with ho₂ | ⟨hs₂, hmarked⟩
    · exact h₁.objects r o₃ ho₂
    · obtain ⟨o₂, ho₂⟩ := Option.isSome_iff_exists.mp hs₂
      refine .inr ⟨?_, hmarked⟩
      rcases h₁.objects r o₂ ho₂ with ho₁ | ⟨hs₁, -⟩
      · simp [ho₁]
      · exact hs₁

theorem OnlyRemoves.shrinks {st st' : Store} (h : OnlyRemoves st st') : Shrinks st st' := by
  refine ⟨h.installed, fun _ b hb => ⟨b, by rw [h.bridges]; exact hb, rfl⟩, fun r o ho => .inl ?_⟩
  rcases h.objects r with he | he
  · rw [← he]; exact ho
  · simp [he] at ho

theorem Shrinks.present_of_present {st st' : Store} (h : Shrinks st st') {r : ObjectRef}
    (hr : present st' r = true) : present st r = true := by
  simp only [present, Bool.and_eq_true, Option.isSome_iff_exists] at hr ⊢
  obtain ⟨hi, o', ho'⟩ := hr
  refine ⟨h.installed ▸ hi, ?_⟩
  rcases h.objects r o' ho' with ho | ⟨hs, -⟩
  · exact ⟨o', ho⟩
  · exact Option.isSome_iff_exists.mp hs

theorem Shrinks.live_of_live {st st' : Store} (h : Shrinks st st') {r : ObjectRef}
    (hr : live st' r = true) : live st r = true := by
  unfold live at hr
  split at hr
  · rename_i o' ho'
    rcases h.objects r o' ho' with ho | ⟨-, hmarked⟩
    · simpa [live, ho, h.installed] using hr
    · simp [Option.isNone_iff_eq_none, hmarked] at hr
  · cases hr

/-- Over a step that shrinks the store, the phase does not go back. -/
theorem phase_le_of_shrinks {st st' : Store} (h : Shrinks st st') (cr : DPFHCPBridge) :
    (phase st cr).rank ≤ (phase st' cr).rank := by
  have hhc := h.present_of_present (r := dependentRef cr .hostedCluster)
  have hnp := h.present_of_present (r := dependentRef cr .nodePool)
  have hsec : ((secretNames cr).any fun name => live st' (secretRef cr.ns name)) = true →
      ((secretNames cr).any fun name => live st (secretRef cr.ns name)) = true := by
    simp only [List.any_eq_true]
    exact fun ⟨name, hm, hl⟩ => ⟨name, hm, h.live_of_live hl⟩
  unfold phase
  split_ifs <;> simp_all [Phase.rank]

/-- Over a step that shrinks the store, no dependent comes back. -/
theorem Shrinks.pending_le {st st' : Store} (h : Shrinks st st') (cr : DPFHCPBridge) :
    pending st' cr ≤ pending st cr := by
  have hle : ∀ r, (present st' r).toNat ≤ (present st r).toNat := fun r => by
    cases hr : present st' r
    · simp
    · simp [h.present_of_present hr]
  exact Nat.add_le_add (hle _) (hle _)

/-- Over a step that shrinks the store, dependents that are gone stay gone. -/
theorem Shrinks.dependentsGone {st st' : Store} (h : Shrinks st st') {cr : DPFHCPBridge}
    (hgone : dependentsGone st cr = true) : dependentsGone st' cr = true := by
  simp only [HostedCluster.dependentsGone, Bool.and_eq_true, Bool.not_eq_true'] at hgone ⊢
  exact ⟨Bool.eq_false_iff.mpr fun hr => by simp [h.present_of_present hr] at hgone,
    Bool.eq_false_iff.mpr fun hr => by simp [h.present_of_present hr] at hgone⟩

theorem Persisted.of_shrinks {key : String × String} {ts : Int} {st st' : Store}
    (h : Shrinks st st') (hst : Persisted key ts st) : Persisted key ts st' := by
  obtain ⟨⟨cr, hp, hts⟩, hsec⟩ := hst
  obtain ⟨cr', hp', hts'⟩ := h.bridges key cr hp
  exact ⟨⟨cr', hp', hts'.trans hts⟩, h.installed ▸ hsec⟩

/-! ### Every call shrinks the store -/

/-- A `Delete` the store served removed the object or marked it. -/
theorem shrinks_of_deleteAnswer {s : Session} {kind : Kind} {obj : Object} {store : Store}
    (ha : s.deleteAnswer kind obj = .ok (store, ())) : Shrinks s.store store := by
  obtain ⟨-, hdel⟩ := Session.answer_write_eq_ok s ha
  obtain ⟨hi, hb, ho, hmarked⟩ := Store.delete_frame hdel
  refine ⟨hi, fun _ b h => ⟨b, by rw [hb]; exact h, rfl⟩, fun r o' ho' => ?_⟩
  by_cases hr : r = ⟨kind, obj.ns, obj.name⟩
  · subst hr
    obtain ⟨current, hc, -⟩ := Store.delete_eq_ok hdel
    exact .inr ⟨by simp [hc], hmarked o' ho'⟩
  · exact .inl ((ho r hr).symm.trans ho')

/-- A status write the store served changed the conditions of one bridge and nothing else. -/
theorem shrinks_of_statusAnswer {s : Session} {bridge stored : DPFHCPBridge} {store : Store}
    (ha : s.statusAnswer bridge = .ok (store, stored)) : Shrinks s.store store := by
  obtain ⟨-, current, hc, hkey, -, rfl, -⟩ := Session.statusAnswer_eq_ok s ha
  refine ⟨rfl, fun key b hb => ?_, fun _ _ h => .inl h⟩
  by_cases hk : key = bridge.key
  · subst hk
    obtain rfl : b = current := Option.some.inj (hb.symm.trans hc)
    refine ⟨{ b with conditions := bridge.conditions, resourceVersion := s.store.revision }, ?_, rfl⟩
    rw [Store.putBridge_bridges]
    split_ifs with h
    · rfl
    · exact absurd hkey.symm h
  · exact ⟨b, by rw [Store.putBridge_bridges, if_neg fun h => hk (h.trans hkey)]; exact hb, rfl⟩

theorem DeleteRun.shrinks {cr : DPFHCPBridge} {kind : Kind} {resourceKind : String}
    {s s' : Session} {out : Except String Bool} (run : DeleteRun cr kind resourceKind s out s') :
    Shrinks s.store s'.store := by
  cases run with
  | deleted _ _ ha => exact shrinks_of_deleteAnswer (s := s.looked _) ha
  | gone | getFailed | marked | deleteGone | deleteFailed => exact Shrinks.refl _

theorem SecretRun.shrinks {ns secretName : String} {s s' : Session} {out : Option String}
    (run : SecretRun ns secretName s out s') : Shrinks s.store s'.store := by
  cases run with
  | deleted _ ha => exact shrinks_of_deleteAnswer (s := s.looked _) ha
  | gone | getFailed | deleteGone | deleteFailed => exact Shrinks.refl _

theorem SecretsRun.shrinks {ns : String} {names : List String} {s s' : Session}
    {out : Option String} (run : SecretsRun ns names s out s') : Shrinks s.store s'.store := by
  induction run with
  | nil s => exact Shrinks.refl _
  | stop run => exact run.shrinks
  | next run _ ih => exact run.shrinks.trans ih

theorem ChainRun.shrinks {cr : DPFHCPBridge} {now : Int} {s s' : Session}
    {out : Result × Option String × DPFHCPBridge} (run : ChainRun cr now s out s') :
    Shrinks s.store s'.store := by
  cases run with
  | hostedClusterFailed hc | hostedClusterWaiting hc => exact hc.shrinks
  | nodePoolFailed hc np | nodePoolWaiting hc np => exact hc.shrinks.trans np.shrinks
  | secretsFailed hc np secrets | writeFailed hc np secrets =>
    exact (hc.shrinks.trans np.shrinks).trans secrets.shrinks
  | written hc np secrets ha =>
    exact ((hc.shrinks.trans np.shrinks).trans secrets.shrinks).trans (shrinks_of_statusAnswer ha)

/-- Whatever its calls answer and whenever it runs, an invocation only shrinks the store. -/
theorem handleFinalizerCleanup_shrinks (cr : DPFHCPBridge) (s : Session) :
    Shrinks s.store (handleFinalizerCleanup cr s).2.store := by
  have run := handleFinalizerCleanup_run cr s
  generalize handleFinalizerCleanup cr s = o at run ⊢
  obtain ⟨out, s'⟩ := o
  cases run with
  | inProgressFailed => exact Shrinks.refl _
  | noTimestamp ha | timedOutWriteFailed ha => exact shrinks_of_statusAnswer ha
  | timedOutWritten ha _ _ ha₂ => exact (shrinks_of_statusAnswer ha).trans (shrinks_of_statusAnswer ha₂)
  | proceeded ha _ _ chain => exact (shrinks_of_statusAnswer ha).trans chain.shrinks

/-! ### One invocation is one step of the machine -/

/-- A chain that succeeds with no failed call leaves no derived secret live. -/
theorem ChainRun.cleared {cr : DPFHCPBridge} {now : Int} {s s' : Session}
    {out : Result × Option String × DPFHCPBridge} (run : ChainRun cr now s out s')
    (hq : ∀ i, s.faults i = none) (hsec : s.store.installed .secret = true)
    (hok : out.1 = {}) (herr : out.2.1 = none) :
    ∀ name ∈ secretNames cr, NotLive s'.store (secretRef cr.ns name) := by
  cases run with
  | hostedClusterFailed | nodePoolFailed | secretsFailed | writeFailed => cases herr
  | hostedClusterWaiting | nodePoolWaiting =>
    simp [deletionRequeueInterval, second] at hok
  | written hc np secrets ha =>
    obtain ⟨-, hframe₁, -⟩ := hc.quiet hq
    obtain ⟨-, hframe₂, -⟩ := np.quiet (by rw [hframe₁.faults]; exact hq)
    obtain ⟨-, -, hlive⟩ := secrets.quiet (by rw [hframe₂.faults, hframe₁.faults]; exact hq)
      (by rw [hframe₂.installed, hframe₁.installed]; exact hsec)
    obtain ⟨-, current, -, -, -, rfl, -⟩ := Session.statusAnswer_eq_ok _ ha
    exact hlive

/-- An invocation on the bridge as persisted, within the timeout and with no failed call, that
succeeds leaves no derived secret live. -/
theorem handleFinalizerCleanup_cleared {cr : DPFHCPBridge} {s : Session} {ts : Int}
    (hq : ∀ i, s.faults i = none) (hsec : s.store.installed .secret = true)
    (hp : s.store.bridges cr.key = some cr) (hts : cr.deletionTimestamp = some ts)
    (hin : s.clock - ts ≤ deletionTimeout) (hok : (handleFinalizerCleanup cr s).1.1 = {})
    (herr : (handleFinalizerCleanup cr s).1.2.1 = none) :
    ∀ name ∈ secretNames cr, NotLive (handleFinalizerCleanup cr s).2.store (secretRef cr.ns name) :=
  ((handleFinalizerCleanup_run cr s).proceeds hq hp hts hin).cleared hq hsec hok herr

/-- With no failed call and within the timeout, an invocation that finds the dependents gone
succeeds and leaves the teardown done. -/
theorem handleFinalizerCleanup_done {cr : DPFHCPBridge} {s : Session} {ts : Int}
    (hq : ∀ i, s.faults i = none) (hsec : s.store.installed .secret = true)
    (hp : s.store.bridges cr.key = some cr) (hts : cr.deletionTimestamp = some ts)
    (hin : s.clock - ts ≤ deletionTimeout) (hgone : dependentsGone s.store cr = true) :
    (handleFinalizerCleanup cr s).1.1 = {} ∧ phase (handleFinalizerCleanup cr s).2.store cr = .done := by
  have h := handleFinalizerCleanup_quiet hq hsec hp hts hin
  have hok : (handleFinalizerCleanup cr s).1.1 = {} := by rw [h.result, hgone]; rfl
  exact ⟨hok, phase_eq_done ((handleFinalizerCleanup_shrinks cr s).dependentsGone hgone)
    (handleFinalizerCleanup_cleared hq hsec hp hts hin hok h.noError)⟩

theorem handleFinalizerCleanup_refines {cr : DPFHCPBridge} {s : Session} {ts : Int}
    (hq : ∀ i, s.faults i = none) (hsec : s.store.installed .secret = true)
    (hp : s.store.bridges cr.key = some cr) (hts : cr.deletionTimestamp = some ts)
    (hin : s.clock - ts ≤ deletionTimeout) :
    (handleFinalizerCleanup cr s).1.2.1 = none ∧
      Invocation (phase s.store cr) (handleFinalizerCleanup cr s).1.1
        (phase (handleFinalizerCleanup cr s).2.store cr) := by
  have h := handleFinalizerCleanup_quiet hq hsec hp hts hin
  refine ⟨h.noError, phase_le_of_shrinks (handleFinalizerCleanup_shrinks cr s) cr,
    fun hd => ?_, fun hd => handleFinalizerCleanup_done hq hsec hp hts hin (by simpa [draining_phase] using hd)⟩
  have hgone : dependentsGone s.store cr = false := by simpa [draining_phase] using hd
  rw [h.result, hgone]
  rfl

theorem handleFinalizerCleanup_refines_sample :
    let cr : DPFHCPBridge := { deletingBridge with resourceVersion := 1 }
    let s := quietSession heldDependentsStore minute
    (∀ i, s.faults i = none) ∧ s.store.installed .secret = true ∧ s.store.bridges cr.key = some cr ∧
      cr.deletionTimestamp = some 0 ∧ s.clock - 0 ≤ deletionTimeout ∧
      (handleFinalizerCleanup cr s).1.2.1 = none ∧
      Invocation (phase s.store cr) (handleFinalizerCleanup cr s).1.1
        (phase (handleFinalizerCleanup cr s).2.store cr) :=
  ⟨fun _ => rfl, rfl, by decide, rfl, by decide,
    handleFinalizerCleanup_refines (fun _ => rfl) rfl (by decide) rfl (by decide)⟩

/-! ### Runs with failed calls -/

/-- Invocations on the bridge persisted under `key`, each with any failed calls and at any time,
interleaved with environment steps that only remove objects. -/
inductive FaultyRun (key : String × String) : Store → Store → Prop
  | stop (st : Store) : FaultyRun key st st
  | invoke {st st' : Store} {cr : DPFHCPBridge} (s : Session) (hs : s.store = st)
      (hp : st.bridges key = some cr) (rest : FaultyRun key (handleFinalizerCleanup cr s).2.store st') :
      FaultyRun key st st'
  | env {st st₁ st' : Store} (h : OnlyRemoves st st₁) (rest : FaultyRun key st₁ st') :
      FaultyRun key st st'

theorem FaultyRun.shrinks {key : String × String} {st st' : Store} (run : FaultyRun key st st') :
    Shrinks st st' := by
  induction run with
  | stop st => exact Shrinks.refl st
  | invoke s hs _ _ ih => exact hs ▸ (handleFinalizerCleanup_shrinks _ s).trans ih
  | env h _ ih => exact h.shrinks.trans ih

theorem teardown_recovers {key : String × String} {ts : Int} {st st' : Store}
    (faulty : FaultyRun key st st') (hst : Persisted key ts st) (cr : DPFHCPBridge)
    (hcr : cr.key = key) :
    (phase st cr).rank ≤ (phase st' cr).rank ∧ Persisted key ts st' ∧
      ∀ (env : Store → Store → Prop) (times : List Int) (outcomes : List (Result × Option String)),
        (∀ a b, env a b → OnlyRemoves a b ∧ ClearsMarked a b) → TeardownRun env key st' times outcomes →
        (∀ now ∈ times, now - ts ≤ deletionTimeout) → pending st cr < times.length →
        ({}, none) ∈ outcomes.take (pending st cr + 1) := by
  have h := faulty.shrinks
  have hst' := hst.of_shrinks h
  refine ⟨phase_le_of_shrinks h cr, hst', fun env times outcomes henv run htimes hlen => ?_⟩
  obtain ⟨cr', hp', -⟩ := hst'.1
  have hkey : cr'.key = cr.key := (st'.bridge_at_key _ _ hp').trans hcr.symm
  have hle := h.pending_le cr
  exact run.succeeds henv hst' htimes cr' _ hp' (by rw [pending_of_key hkey]; omega)
    (by rw [run.length_eq]; omega)

/-- `heldDependentsStore` at one minute, with the `Get` of the HostedCluster failing. -/
def interruptedSession : Session :=
  { quietSession heldDependentsStore minute with
    faults := fun i => if i = 1 then some (.failure "connection refused") else none }

theorem teardown_recovers_interrupted :
    let cr : DPFHCPBridge := { deletingBridge with resourceVersion := 1 }
    let st' := (handleFinalizerCleanup cr interruptedSession).2.store
    FaultyRun cr.key heldDependentsStore st' ∧ Persisted cr.key 0 heldDependentsStore ∧
      (phase heldDependentsStore cr).rank ≤ (phase st' cr).rank ∧ Persisted cr.key 0 st' ∧
      ∀ (env : Store → Store → Prop) (times : List Int) (outcomes : List (Result × Option String)),
        (∀ a b, env a b → OnlyRemoves a b ∧ ClearsMarked a b) →
        TeardownRun env cr.key st' times outcomes → (∀ now ∈ times, now - 0 ≤ deletionTimeout) →
        pending heldDependentsStore cr < times.length →
        ({}, none) ∈ outcomes.take (pending heldDependentsStore cr + 1) :=
  have faulty : FaultyRun deletingBridge.key heldDependentsStore
      (handleFinalizerCleanup { deletingBridge with resourceVersion := 1 } interruptedSession).2.store :=
    .invoke interruptedSession rfl (by decide) (.stop _)
  have hst : Persisted deletingBridge.key 0 heldDependentsStore :=
    ⟨⟨{ deletingBridge with resourceVersion := 1 }, by decide, rfl⟩, rfl⟩
  ⟨faulty, hst, teardown_recovers faulty hst _ rfl⟩

end DpfHcpBridge.HostedCluster
