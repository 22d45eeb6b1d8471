import DpfHcpBridge.Api

/-!
# Setting a status condition in place

`meta.SetStatusCondition` and `meta.FindStatusCondition` of `k8s.io/apimachinery`, which both
controllers call and which is not under src/: the model follows that library. The first
condition of the new condition's type is updated field by field, and the last transition time
moves only when the status does; without one, the new condition is appended. The call reports
whether it changed anything, and it counts a change of status, reason, message or observed
generation (`conditionChanged`).

`findStatusCondition_setStatusCondition` says what the list holds afterwards and
`setStatusCondition_changed` when the call reports a change; `setStatusCondition_idem` that
setting the same condition twice reports no change the second time, and
`setStatusCondition_changed_iff` that the report is true exactly when the returned list changes
the condition (`ChangesCondition`); `agreeOff_setStatusCondition` that conditions of the other
types stay as they were (`AgreeOff`). Those are what the controllers' proofs use, so no later
proof unfolds `setStatusCondition`.
-/

set_option autoImplicit false
set_option relaxedAutoImplicit false

namespace DpfHcpBridge

/-- Whether overwriting `existing` with `new` changes a field `SetStatusCondition` compares. -/
def conditionChanged (existing new : Condition) : Bool :=
  existing.status != new.status || existing.reason != new.reason ||
    existing.message != new.message || existing.observedGeneration != new.observedGeneration

/-- The condition `SetStatusCondition` leaves in place of `existing`. -/
def mergeCondition (existing new : Condition) : Condition :=
  { existing with
    status := new.status
    lastTransitionTime :=
      if existing.status = new.status then existing.lastTransitionTime else new.lastTransitionTime
    reason := new.reason
    message := new.message
    observedGeneration := new.observedGeneration }

/-- `meta.FindStatusCondition`: the first condition of a type. -/
def findStatusCondition (conditions : List Condition) (type : String) : Option Condition :=
  conditions.find? (·.type = type)

/-- `meta.SetStatusCondition`: whether it changed anything, and the updated list. -/
def setStatusCondition (newCondition : Condition) : List Condition → Bool × List Condition
  | [] => (true, [newCondition])
  | c :: cs =>
    if c.type = newCondition.type then (conditionChanged c newCondition, mergeCondition c newCondition :: cs)
    else
      let rest := setStatusCondition newCondition cs
      (rest.1, c :: rest.2)

/-- The condition of a type as it stands after it was set to `new`. -/
def Condition.settled (previous : Option Condition) (new : Condition) : Condition :=
  match previous with
  | none => new
  | some existing => mergeCondition existing new

@[simp] theorem mergeCondition_type (existing new : Condition) :
    (mergeCondition existing new).type = existing.type := rfl

@[simp] theorem settled_status (previous : Option Condition) (new : Condition) :
    (Condition.settled previous new).status = new.status := by
  cases previous <;> rfl

@[simp] theorem settled_reason (previous : Option Condition) (new : Condition) :
    (Condition.settled previous new).reason = new.reason := by
  cases previous <;> rfl

@[simp] theorem settled_message (previous : Option Condition) (new : Condition) :
    (Condition.settled previous new).message = new.message := by
  cases previous <;> rfl

@[simp] theorem settled_observedGeneration (previous : Option Condition) (new : Condition) :
    (Condition.settled previous new).observedGeneration = new.observedGeneration := by
  cases previous <;> rfl

/-- After the call, the condition of the new type is the old one overwritten by the new. -/
theorem findStatusCondition_setStatusCondition (new : Condition) (conditions : List Condition) :
    findStatusCondition (setStatusCondition new conditions).2 new.type =
      some (Condition.settled (findStatusCondition conditions new.type) new) := by
  induction conditions with
  | nil => simp [setStatusCondition, findStatusCondition, Condition.settled]
  | cons c cs ih =>
    by_cases h : c.type = new.type
    · simp [setStatusCondition, findStatusCondition, Condition.settled, h]
    · simpa [setStatusCondition, findStatusCondition, h] using ih

/-- Conditions of other types are left where they were. -/
theorem findStatusCondition_setStatusCondition_of_ne (new : Condition)
    (conditions : List Condition) (type : String) (h : type ≠ new.type) :
    findStatusCondition (setStatusCondition new conditions).2 type =
      findStatusCondition conditions type := by
  induction conditions with
  | nil => simp [setStatusCondition, findStatusCondition, Ne.symm h]
  | cons c cs ih =>
    by_cases hc : c.type = new.type
    · simp [setStatusCondition, findStatusCondition, List.find?_cons, hc, Ne.symm h]
    · by_cases ht : c.type = type
      · simp [setStatusCondition, findStatusCondition, hc, ht, h]
      · simpa [setStatusCondition, findStatusCondition, hc, ht] using ih

/-- The call reports a change exactly when there was no condition of the type, or one of the
four compared fields differs. -/
theorem setStatusCondition_changed (new : Condition) (conditions : List Condition) :
    (setStatusCondition new conditions).1 =
      match findStatusCondition conditions new.type with
      | none => true
      | some existing => conditionChanged existing new := by
  induction conditions with
  | nil => rfl
  | cons c cs ih =>
    by_cases h : c.type = new.type
    · simp [setStatusCondition, findStatusCondition, h]
    · simpa [setStatusCondition, findStatusCondition, h] using ih

theorem conditionChanged_eq_false_iff (existing new : Condition) :
    conditionChanged existing new = false ↔
      existing.status = new.status ∧ existing.reason = new.reason ∧
        existing.message = new.message ∧ existing.observedGeneration = new.observedGeneration := by
  simp [conditionChanged, and_assoc]

/-- Setting a condition that is already in place, up to its transition time, changes nothing. -/
theorem setStatusCondition_idem (new : Condition) (conditions : List Condition)
    (existing : Condition) (h : findStatusCondition conditions new.type = some existing)
    (hs : existing.status = new.status) (hr : existing.reason = new.reason)
    (hm : existing.message = new.message)
    (hg : existing.observedGeneration = new.observedGeneration) :
    (setStatusCondition new conditions).1 = false := by
  rw [setStatusCondition_changed, h, conditionChanged_eq_false_iff]
  exact ⟨hs, hr, hm, hg⟩

/-- A call that reports no change leaves the list as it was: the fields it overwrites already
held the new values. -/
theorem setStatusCondition_eq_of_unchanged (new : Condition) (conditions : List Condition)
    (h : (setStatusCondition new conditions).1 = false) :
    (setStatusCondition new conditions).2 = conditions := by
  induction conditions with
  | nil => cases h
  | cons c cs ih =>
    by_cases ht : c.type = new.type
    · simp only [setStatusCondition, ht, ↓reduceIte] at h ⊢
      obtain ⟨hs, hr, hm, hg⟩ := (conditionChanged_eq_false_iff c new).mp h
      simp [mergeCondition, ← hs, ← hr, ← hm, ← hg]
    · simp only [setStatusCondition, ht, ↓reduceIte] at h ⊢
      rw [ih h]

/-- The four fields of a condition that `SetStatusCondition` compares. -/
def Condition.compared (c : Condition) : ConditionStatus × String × String × Int :=
  (c.status, c.reason, c.message, c.observedGeneration)

/-- Writing `conditions'` over `conditions` changes the condition of type `type`: it appears, or
one of its compared fields differs. -/
def ChangesCondition (type : String) (conditions conditions' : List Condition) : Prop :=
  (findStatusCondition conditions type).map Condition.compared ≠
    (findStatusCondition conditions' type).map Condition.compared

instance (type : String) (conditions conditions' : List Condition) :
    Decidable (ChangesCondition type conditions conditions') :=
  inferInstanceAs (Decidable (_ ≠ _))

/-- The call reports a change exactly when the list it returns changes the condition. -/
theorem setStatusCondition_changed_iff (new : Condition) (conditions : List Condition) :
    (setStatusCondition new conditions).1 = true ↔
      ChangesCondition new.type conditions (setStatusCondition new conditions).2 := by
  rw [ChangesCondition, findStatusCondition_setStatusCondition, setStatusCondition_changed]
  cases findStatusCondition conditions new.type with
  | none => simp
  | some existing =>
    rw [← Bool.not_eq_false, conditionChanged_eq_false_iff]
    simp [Condition.settled, Condition.compared, mergeCondition]

/-- Two lists hold the same condition of every type but `type`. -/
def AgreeOff (type : String) (conditions conditions' : List Condition) : Prop :=
  ∀ other, other ≠ type → findStatusCondition conditions other = findStatusCondition conditions' other

theorem AgreeOff.trans {type : String} {a b c : List Condition} (h₁ : AgreeOff type a b)
    (h₂ : AgreeOff type b c) : AgreeOff type a c :=
  fun other h => (h₁ other h).trans (h₂ other h)

/-- Setting a condition leaves every other type as it was. -/
theorem agreeOff_setStatusCondition (new : Condition) (conditions : List Condition) :
    AgreeOff new.type (setStatusCondition new conditions).2 conditions :=
  findStatusCondition_setStatusCondition_of_ne new conditions

/-! ### Updated in place, never duplicated -/

/-- A list holds at most one condition of each type. -/
def TypesUnique (conditions : List Condition) : Prop :=
  (conditions.map (·.type)).Nodup

instance (conditions : List Condition) : Decidable (TypesUnique conditions) :=
  inferInstanceAs (Decidable (List.Nodup _))

/-- The call keeps every condition where it stands and appends the new type when it is
missing. -/
theorem setStatusCondition_types (new : Condition) (conditions : List Condition) :
    (setStatusCondition new conditions).2.map (·.type) =
      if new.type ∈ conditions.map (·.type) then conditions.map (·.type)
      else conditions.map (·.type) ++ [new.type] := by
  induction conditions with
  | nil => rfl
  | cons c cs ih =>
    by_cases h : c.type = new.type
    · simp [setStatusCondition, h]
    · have h' : new.type ≠ c.type := Ne.symm h
      simp only [setStatusCondition, h, ↓reduceIte, List.map_cons, ih, List.mem_cons, h', false_or]
      split <;> rfl

theorem TypesUnique.setStatusCondition {conditions : List Condition} (h : TypesUnique conditions)
    (new : Condition) : TypesUnique (setStatusCondition new conditions).2 := by
  unfold TypesUnique
  rw [setStatusCondition_types]
  split
  · exact h
  · next hm =>
    refine List.pairwise_append.mpr ⟨h, List.pairwise_singleton _ _, fun a ha b hb => ?_⟩
    rw [List.mem_singleton.mp hb]
    rintro rfl
    exact hm ha

/-- Every condition that kept its status kept its last transition time. -/
def TransitionsKept (conditions conditions' : List Condition) : Prop :=
  ∀ type c c', findStatusCondition conditions type = some c →
    findStatusCondition conditions' type = some c' → c'.status = c.status →
      c'.lastTransitionTime = c.lastTransitionTime

theorem TransitionsKept.refl (conditions : List Condition) : TransitionsKept conditions conditions :=
  fun _ _ _ hc hc' _ => by rw [Option.some.inj (hc.symm.trans hc')]

/-- The transition time moves only with the status. -/
theorem transitionsKept_setStatusCondition (new : Condition) (conditions : List Condition) :
    TransitionsKept conditions (setStatusCondition new conditions).2 := by
  intro type c c' hc hc' hs
  by_cases ht : type = new.type
  · subst ht
    rw [findStatusCondition_setStatusCondition, hc, Option.some.injEq] at hc'
    subst hc'
    simp only [Condition.settled, mergeCondition] at hs ⊢
    rw [if_pos hs.symm]
  · rw [findStatusCondition_setStatusCondition_of_ne new conditions type ht, hc] at hc'
    rw [Option.some.inj hc']

end DpfHcpBridge
