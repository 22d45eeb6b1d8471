import Mathlib.Logic.Basic

/-!
# The objects the operator reads and writes

The data model shared by the MetalLB manager (`internal/controller/metallb`) and the
HostedCluster finalizer (`internal/controller/hostedcluster`): the `DPFHCPBridge` parent with
its status conditions, the dependent objects it owns (IPAddressPool, L2Advertisement,
HostedCluster, NodePool, Secret), the errors the API server answers with, and the constants of
the `common` package.

Only what a modelled function reads or writes is kept. A dependent object is its metadata and a
`Spec`; the specs of the two MetalLB kinds keep the fields `buildIPAddressPool` and
`buildL2Advertisement` set and their siblings, while HostedCluster, NodePool and Secret contents
are `Spec.unread`: the finalizer looks only at their metadata. A Go map of labels is an
association list read with `List.lookup`, so the nil map and the empty map coincide, as they do
for every lookup in the source. Times and durations are integers of nanoseconds, the unit of
Go's `time.Duration`.
-/

set_option autoImplicit false
set_option relaxedAutoImplicit false

namespace DpfHcpBridge

/-! ### Constants of the `common` package -/

/-- `common.LabelDPFHCPBridgeName`, the first half of the ownership marker. -/
def labelDPFHCPBridgeName : String := "dpfhcpbridge.dpu.hcp.io/name"

/-- `common.LabelDPFHCPBridgeNamespace`, the second half of the ownership marker. -/
def labelDPFHCPBridgeNamespace : String := "dpfhcpbridge.dpu.hcp.io/namespace"

/-- `common.OpenshiftOperatorsNamespace`, where both MetalLB objects live. -/
def openshiftOperatorsNamespace : String := "openshift-operators"

/-- One second of `time.Duration`. -/
def second : Int := 1000000000

/-- One minute of `time.Duration`. -/
def minute : Int := 60 * second

/-! ### Status conditions -/

/-- `metav1.ConditionStatus`. -/
inductive ConditionStatus
  | conditionTrue
  | conditionFalse
  | conditionUnknown
  deriving DecidableEq, Repr

/-- `metav1.Condition`. -/
structure Condition where
  type : String
  status : ConditionStatus
  reason : String
  message : String
  lastTransitionTime : Int
  observedGeneration : Int
  deriving DecidableEq, Repr

/-- The condition type `provisioningv1alpha1.MetalLBConfigured`; the api package is not under
src/, and the constant is taken to spell its own name. -/
def metalLBConfigured : String := "MetalLBConfigured"

/-- The condition type `provisioningv1alpha1.HostedClusterCleanup`, taken as
`metalLBConfigured` is. -/
def hostedClusterCleanup : String := "HostedClusterCleanup"

/-! ### The parent object -/

/-- The fields of `DPFHCPBridgeSpec` that the modelled code reads. `exposeThroughLoadBalancer`
stands for what the api package's `ShouldExposeThroughLoadBalancer()` returns: its body is not
under src/, so the decision is part of the input. -/
structure DPFHCPBridgeSpec where
  virtualIP : String
  pullSecretRef : String
  sshKeySecretRef : String
  exposeThroughLoadBalancer : Bool
  deriving DecidableEq, Repr

/-- A `DPFHCPBridge`: identity, generation, version token, deletion marker, the spec fields in
use and `Status.Conditions`. `ns` is `ObjectMeta.Namespace`. -/
structure DPFHCPBridge where
  name : String
  ns : String
  uid : String
  generation : Int
  resourceVersion : Nat
  deletionTimestamp : Option Int
  spec : DPFHCPBridgeSpec
  conditions : List Condition
  deriving DecidableEq, Repr

/-- `bridge.ShouldExposeThroughLoadBalancer()`. -/
def DPFHCPBridge.shouldExposeThroughLoadBalancer (bridge : DPFHCPBridge) : Bool :=
  bridge.spec.exposeThroughLoadBalancer

/-- The store key of a bridge, `client.ObjectKeyFromObject(bridge)`. -/
def DPFHCPBridge.key (bridge : DPFHCPBridge) : String × String := (bridge.ns, bridge.name)

/-! ### Dependent objects -/

/-- The kinds of dependent object the operator touches. -/
inductive Kind
  | ipAddressPool
  | l2Advertisement
  | hostedCluster
  | nodePool
  | secret
  deriving DecidableEq, Repr

/-- Where an object lives: its kind and `types.NamespacedName`. -/
structure ObjectRef where
  kind : Kind
  ns : String
  name : String
  deriving DecidableEq, Repr

/-- `metav1.OwnerReference`, with the fields `metav1.IsControlledBy` reads. -/
structure OwnerReference where
  kind : String
  name : String
  uid : String
  controller : Bool
  deriving DecidableEq, Repr

/-- `metallbv1beta1.ServiceAllocation` without its label selectors. -/
structure ServiceAllocation where
  priority : Int
  namespaces : List String
  deriving DecidableEq, Repr

/-- `metallbv1beta1.IPAddressPoolSpec`. -/
structure IPAddressPoolSpec where
  addresses : List String
  autoAssign : Option Bool
  avoidBuggyIPs : Bool
  allocateTo : Option ServiceAllocation
  deriving DecidableEq, Repr

/-- `metallbv1beta1.L2AdvertisementSpec` without its label selectors. -/
structure L2AdvertisementSpec where
  ipAddressPools : List String
  interfaces : List String
  deriving DecidableEq, Repr

/-- The `Spec` field of a dependent object. -/
inductive Spec
  | ipAddressPool (spec : IPAddressPoolSpec)
  | l2Advertisement (spec : L2AdvertisementSpec)
  | unread
  deriving DecidableEq, Repr

/-- A dependent object: `ObjectMeta` and its spec. -/
structure Object where
  name : String
  ns : String
  labels : List (String × String)
  annotations : List (String × String)
  ownerReferences : List OwnerReference
  finalizers : List String
  deletionTimestamp : Option Int
  resourceVersion : Nat
  spec : Spec
  deriving DecidableEq, Repr

/-- The reference of an object of a given kind, taken from its own metadata. -/
def Object.ref (obj : Object) (kind : Kind) : ObjectRef := ⟨kind, obj.ns, obj.name⟩

/-- The metadata an update must not touch: everything but the spec and the version token. -/
def Object.metadata (obj : Object) :
    String × String × List (String × String) × List (String × String) ×
      List OwnerReference × List String × Option Int :=
  (obj.name, obj.ns, obj.labels, obj.annotations, obj.ownerReferences, obj.finalizers,
    obj.deletionTimestamp)

/-! ### Answers of the API server -/

/-- The errors a store call can answer with. `noMatch` is `meta.NoKindMatchError`: the kind's
CRD is not installed. -/
inductive ApiError
  | notFound
  | noMatch
  | alreadyExists
  | conflict
  | failure (message : String)
  deriving DecidableEq, Repr

/-- `apierrors.IsNotFound`. -/
def ApiError.isNotFound : ApiError → Bool
  | .notFound => true
  | _ => false

/-- `meta.IsNoMatchError`. -/
def ApiError.isNoMatch : ApiError → Bool
  | .noMatch => true
  | _ => false

/-- The text of an error, as `%v` and `%w` print it. -/
def ApiError.text : ApiError → String
  | .notFound => "not found"
  | .noMatch => "no matches for kind"
  | .alreadyExists => "already exists"
  | .conflict => "the object has been modified"
  | .failure message => message

/-- `ctrl.Result`. -/
structure Result where
  requeueAfter : Int := 0
  deriving DecidableEq, Repr

/-- One `recorder.Event(bridge, eventType, reason, message)`. -/
structure Event where
  eventType : String
  reason : String
  message : String
  deriving DecidableEq, Repr

end DpfHcpBridge
