import Mathlib.Data.String.Basic

/-!
# How the HostedCluster publishes its services

`internal/controller/hostedcluster/servicepublishing.go`. `buildServicePublishingStrategy`
chooses how the hosted control plane publishes its services: with LoadBalancer exposure the API
server goes through a LoadBalancer service and OAuth, Konnectivity and Ignition through Routes;
otherwise all five services, OIDC included, go through NodePorts on the one address, sorted by
service name.

Go's `sort.Slice` sorts a slice of at most twelve elements by insertion (`insertionSortLessFunc`,
the base case of its pattern-defeating quicksort), so `sortSlice` is that insertion sort. For a
less function that compares a key, it returns a permutation of its input sorted by the key
(`sortSlice_perm`, `sortSlice_sorted`), strictly when the keys differ (`sortSlice_strict`).

Scope. The builder reads nothing but its two arguments: the node address is copied into each
NodePort entry, and the sort runs over five fixed names. What it returns is therefore fixed up to
the address, and this module states no property of it beyond its definition.
-/

set_option autoImplicit false
set_option relaxedAutoImplicit false

namespace DpfHcpBridge.HostedCluster

/-! ### The HyperShift types the builder fills -/

/-- `hyperv1.APIServer`. -/
def apiServer : String := "APIServer"

/-- `hyperv1.OAuthServer`. -/
def oauthServer : String := "OAuthServer"

/-- `hyperv1.OIDC`. -/
def oidc : String := "OIDC"

/-- `hyperv1.Konnectivity`. -/
def konnectivity : String := "Konnectivity"

/-- `hyperv1.Ignition`. -/
def ignition : String := "Ignition"

/-- `hyperv1.PublishingStrategyType`, the three values the builder uses. -/
inductive PublishingStrategyType
  | loadBalancer
  | nodePort
  | route
  deriving DecidableEq, Repr

/-- `hyperv1.NodePortPublishingStrategy`; the builder sets the address and leaves the port to
HyperShift. -/
structure NodePortPublishingStrategy where
  address : String
  deriving DecidableEq, Repr

/-- `hyperv1.ServicePublishingStrategy`: the type, and the NodePort settings, a nil pointer unless
the builder sets them. -/
structure ServicePublishingStrategy where
  type : PublishingStrategyType
  nodePort : Option NodePortPublishingStrategy := none
  deriving DecidableEq, Repr

/-- `hyperv1.ServicePublishingStrategyMapping`. -/
structure ServicePublishingStrategyMapping where
  service : String
  servicePublishingStrategy : ServicePublishingStrategy
  deriving DecidableEq, Repr

/-! ### Go's `sort.Slice` on a short slice -/

/-- The inner loop of Go's `insertionSortLessFunc`, on the sorted prefix kept in reverse: the new
element is swapped left past every element it is less than. -/
def insertLess {α : Type} (less : α → α → Bool) (x : α) : List α → List α
  | [] => [x]
  | p :: rest => if less x p then p :: insertLess less x rest else x :: p :: rest

/-- `sort.Slice(xs, less)` on a slice of at most twelve elements: each element in turn is
inserted into the sorted prefix. -/
def sortSlice {α : Type} (less : α → α → Bool) (xs : List α) : List α :=
  (xs.foldl (fun sorted x => insertLess less x sorted) []).reverse

section Sorting

variable {α β : Type} [LinearOrder β] (key : α → β) {less : α → α → Bool}
  (hless : ∀ a b, less a b = true ↔ key a < key b)
include hless

omit hless in
theorem insertLess_perm (less : α → α → Bool) (x : α) (l : List α) :
    (insertLess less x l).Perm (x :: l) := by
  induction l with
  | nil => rfl
  | cons p rest ih =>
    simp only [insertLess]
    split
    · exact (ih.cons p).trans (List.Perm.swap x p rest)
    · rfl

omit hless in
theorem sortSlice_perm (less : α → α → Bool) (xs : List α) : (sortSlice less xs).Perm xs := by
  have hfold : ∀ (xs sorted : List α),
      (xs.foldl (fun sorted x => insertLess less x sorted) sorted).Perm (sorted ++ xs) := by
    intro xs
    induction xs with
    | nil => simp
    | cons x xs ih =>
      intro sorted
      exact (ih _).trans ((((insertLess_perm less x sorted).append_right xs).trans
        List.perm_middle.symm))
  exact (List.reverse_perm _).trans (hfold xs [])

/-- Inserting into a prefix sorted in decreasing order of the key keeps it so. -/
theorem insertLess_descending (x : α) {l : List α} (h : l.Pairwise fun a b => key b ≤ key a) :
    (insertLess less x l).Pairwise fun a b => key b ≤ key a := by
  induction l with
  | nil => simp [insertLess]
  | cons p rest ih =>
    rw [List.pairwise_cons] at h
    simp only [insertLess]
    split
    · rename_i hlt
      refine List.pairwise_cons.2 ⟨fun y hy => ?_, ih h.2⟩
      rcases List.mem_cons.1 ((insertLess_perm _ x rest).mem_iff.1 hy) with rfl | hy
      · exact le_of_lt ((hless _ _).1 hlt)
      · exact h.1 y hy
    · rename_i hge
      have hpx : key p ≤ key x := not_lt.1 (mt (hless x p).2 hge)
      refine List.pairwise_cons.2 ⟨fun y hy => ?_, List.pairwise_cons.2 h⟩
      rcases List.mem_cons.1 hy with rfl | hy
      · exact hpx
      · exact (h.1 y hy).trans hpx

theorem sortSlice_sorted (xs : List α) :
    (sortSlice less xs).Pairwise fun a b => key a ≤ key b := by
  have hfold : ∀ (xs sorted : List α), (sorted.Pairwise fun a b => key b ≤ key a) →
      (xs.foldl (fun sorted x => insertLess less x sorted) sorted).Pairwise
        fun a b => key b ≤ key a := by
    intro xs
    induction xs with
    | nil => exact fun _ h => h
    | cons x xs ih => exact fun sorted h => ih _ (insertLess_descending key hless x h)
  exact List.pairwise_reverse.2 (hfold xs [] List.Pairwise.nil)

/-- With keys that differ, the result is sorted strictly. -/
theorem sortSlice_strict (xs : List α) (hkeys : (xs.map key).Nodup) :
    (sortSlice less xs).Pairwise fun a b => key a < key b := by
  have hne : (sortSlice less xs).Pairwise fun a b => key a ≠ key b :=
    List.pairwise_map.1 (((sortSlice_perm less xs).map key).nodup_iff.2 hkeys)
  exact ((sortSlice_sorted key hless xs).and hne).imp fun h => lt_of_le_of_ne h.1 h.2

end Sorting

/-! ### The builder -/

/-- `BuildServicePublishingStrategy(exposeThroughLoadBalancer, nodeAddress)`. Go compares the
service names byte by byte; for these ASCII names that is the order of their characters. -/
def buildServicePublishingStrategy (exposeThroughLoadBalancer : Bool) (nodeAddress : String) :
    List ServicePublishingStrategyMapping :=
  if exposeThroughLoadBalancer then
    [⟨apiServer, { type := .loadBalancer }⟩, ⟨oauthServer, { type := .route }⟩,
      ⟨konnectivity, { type := .route }⟩, ⟨ignition, { type := .route }⟩]
  else
    let services := [apiServer, oauthServer, oidc, konnectivity, ignition]
    let result := services.map fun service =>
      ⟨service, { type := .nodePort, nodePort := some ⟨nodeAddress⟩ }⟩
    sortSlice (fun a b => decide (a.service < b.service)) result

end DpfHcpBridge.HostedCluster
