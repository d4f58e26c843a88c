import VolumeTunnel.Text.Basic

/-!
# Models of objects

Every object of a cluster has a model, which says what can be put into it: a kind, metadata, data, a
state. Some models have parts of their own that have to be there as well; objects of these are not
made here. The names are those of the first version of the programming interface. Later models of
objects may be more than are listed; those of pods, config maps and secrets are always the same.

`Schema.find?` gives what objects of a model hold, `none` if there is no such model.
-/

namespace VolumeTunnel

/-- What the data of an object consist of. -/
inductive DataForm where
  | texts
  /-- Texts or bytes. -/
  | contents
deriving DecidableEq, Repr

/-- Whose state an object has. -/
inductive StateForm where
  | ofPod
  | ofOther
deriving DecidableEq, Repr

/-- What the objects of a model hold. -/
structure Schema where
  hasKind : Bool
  hasMetadata : Bool
  data : Option DataForm
  state : Option StateForm
  /-- Whether they have parts of their own that have to be there. -/
  demanding : Bool
deriving DecidableEq, Repr

namespace Schema

/-- Kinds of objects with a state of their own. -/
def statefulKinds : List String :=
  ["APIService", "FlowSchema", "HorizontalPodAutoscaler", "Ingress", "Job", "Namespace", "Node",
   "PersistentVolume", "PersistentVolumeClaim", "PodDisruptionBudget",
   "PriorityLevelConfiguration", "ReplicationController", "ResourceQuota", "Scale",
   "SelfSubjectReview", "Service", "ServiceCIDR", "ValidatingAdmissionPolicy"]

/-- Kinds of objects without a state. -/
def statelessKinds : List String :=
  ["ClusterRole", "ComponentStatus", "Endpoints", "Eviction", "IngressClass", "IPAddress", "Lease",
   "LimitRange", "MutatingWebhookConfiguration", "NetworkPolicy", "PodTemplate", "Role",
   "ServiceAccount", "ValidatingAdmissionPolicyBinding", "ValidatingWebhookConfiguration"]

/-- Parts of objects that have metadata. -/
def templates : List String :=
  ["JobTemplateSpec", "PodTemplateSpec"]

/-- Parts of objects that say a kind. -/
def references : List String :=
  ["BoundObjectReference", "DeleteOptions", "ObjectReference", "ParamKind", "Status",
   "StatusDetails"]

/-- Other parts of objects. -/
def parts : List String :=
  ["Affinity", "AggregationRule", "AllocationResult", "APIServiceStatus", "Capabilities",
   "CapacityRequirements", "CertificateSigningRequestStatus", "ClientIPConfig",
   "ConfigMapEnvSource", "ConfigMapProjection", "ConfigMapVolumeSource", "ContainerImage",
   "ContainerState", "ContainerStateRunning", "ContainerStateWaiting", "ContainerUser",
   "CronJobStatus", "CSIDriverSpec", "CustomResourceDefinitionStatus",
   "CustomResourceSubresources", "CustomResourceValidation", "DaemonSetUpdateStrategy",
   "DeploymentStatus", "DeploymentStrategy", "DeviceAllocationResult", "DeviceAttribute",
   "DeviceClaim", "DeviceClaimConfiguration", "DeviceClassConfiguration", "DeviceClassSpec",
   "DeviceConstraint", "DeviceSelector", "DeviceToleration", "DownwardAPIProjection",
   "DownwardAPIVolumeSource", "EmptyDirVolumeSource", "EndpointConditions", "EndpointHints",
   "EndpointSubset", "EnvFromSource", "EnvVarSource", "EphemeralVolumeSource", "EventSource",
   "ExecAction", "ExemptPriorityLevelConfiguration", "ExternalDocumentation", "FCVolumeSource",
   "FieldSelectorAttributes", "FlockerVolumeSource", "FlowSchemaStatus", "ImageVolumeSource",
   "IngressBackend", "IngressClassSpec", "IngressLoadBalancerIngress", "IngressLoadBalancerStatus",
   "IngressRule", "IngressSpec", "IngressStatus", "IngressTLS", "JobStatus", "JSONSchemaProps",
   "LabelSelector", "LabelSelectorAttributes", "LeaseSpec", "Lifecycle", "LifecycleHandler",
   "LimitedPriorityLevelConfiguration", "ListMeta", "LoadBalancerIngress", "LoadBalancerStatus",
   "LocalObjectReference", "ManagedFieldsEntry", "MatchResources", "NamedRuleWithOperations",
   "NamespaceSpec", "NamespaceStatus", "NetworkDeviceData", "NetworkPolicyEgressRule",
   "NetworkPolicyIngressRule", "NetworkPolicyPeer", "NetworkPolicyPort", "NetworkPolicySpec",
   "NodeAffinity", "NodeConfigSource", "NodeConfigStatus", "NodeDaemonEndpoints", "NodeFeatures",
   "NodeRuntimeHandler", "NodeRuntimeHandlerFeatures", "NodeSelectorTerm", "NodeSpec",
   "NodeStatus", "NodeSwapStatus", "NonResourceAttributes", "ObjectMeta", "Overhead", "ParamRef",
   "PersistentVolumeClaimSpec", "PersistentVolumeClaimStatus", "PersistentVolumeSpec",
   "PersistentVolumeStatus", "PodAffinity", "PodAntiAffinity", "PodDisruptionBudgetSpec",
   "PodDNSConfig", "PodDNSConfigOption", "PodSecurityContext", "PodStatus", "Preconditions",
   "PriorityLevelConfigurationStatus", "Probe", "ProjectedVolumeSource", "QueuingConfiguration",
   "ReplicationControllerSpec", "ResourceAttributes", "ResourceClaimSpec", "ResourceClaimStatus",
   "ResourceQuotaSpec", "ResourceQuotaStatus", "ResourceRequirements", "RollingUpdateDaemonSet",
   "RollingUpdateDeployment", "RollingUpdateStatefulSetStrategy", "RuleWithOperations",
   "ScaleSpec", "Scheduling", "ScopeSelector", "SecretEnvSource", "SecretProjection",
   "SecretReference", "SecretVolumeSource", "SecurityContext", "SelfSubjectAccessReviewSpec",
   "SelfSubjectReviewStatus", "SelfSubjectRulesReviewSpec", "SELinuxOptions", "ServiceBackendPort",
   "ServiceCIDRSpec", "ServiceCIDRStatus", "ServiceSpec", "ServiceStatus", "SessionAffinityConfig",
   "StatefulSetOrdinals", "StatefulSetPersistentVolumeClaimRetentionPolicy",
   "StatefulSetUpdateStrategy", "StatusCause", "StorageOSPersistentVolumeSource",
   "StorageOSVolumeSource", "SubjectAccessReviewSpec", "SuccessPolicyRule", "TokenReviewSpec",
   "TokenReviewStatus", "Toleration", "TopologySelectorTerm", "TypeChecking",
   "UncountedTerminatedPods", "UserInfo", "ValidatingAdmissionPolicyBindingSpec",
   "ValidatingAdmissionPolicySpec", "ValidatingAdmissionPolicyStatus", "VolumeAttachmentSource",
   "VolumeError", "VolumeNodeAffinity", "VolumeNodeResources", "VolumeProjection",
   "VolumeResourceRequirements", "WindowsSecurityContextOptions"]

/-- Models with parts of their own that have to be there. -/
def demandingModels : List String :=
  ["AllocatedDeviceStatus", "APIGroup", "APIGroupList", "APIResource", "APIResourceList",
   "APIServiceCondition", "APIServiceList", "APIServiceSpec", "APIVersions", "AppArmorProfile",
   "AttachedVolume", "AuditAnnotation", "AWSElasticBlockStoreVolumeSource",
   "AzureDiskVolumeSource", "AzureFilePersistentVolumeSource", "AzureFileVolumeSource", "Binding",
   "CapacityRequestPolicyRange", "CELDeviceSelector", "CephFSPersistentVolumeSource",
   "CephFSVolumeSource", "CertificateSigningRequest", "CertificateSigningRequestCondition",
   "CertificateSigningRequestList", "CertificateSigningRequestSpec",
   "CinderPersistentVolumeSource", "CinderVolumeSource", "ClusterRoleBinding",
   "ClusterRoleBindingList", "ClusterRoleList", "ClusterTrustBundleProjection",
   "ComponentCondition", "ComponentStatusList", "Condition", "ConfigMapKeySelector",
   "ConfigMapList", "ConfigMapNodeConfigSource", "Container", "ContainerExtendedResourceRequest",
   "ContainerPort", "ContainerResizePolicy", "ContainerRestartRule",
   "ContainerRestartRuleOnExitCodes", "ContainerStateTerminated", "ContainerStatus",
   "ControllerRevision", "ControllerRevisionList", "Counter", "CounterSet", "CronJob",
   "CronJobList", "CronJobSpec", "CrossVersionObjectReference", "CSIDriver", "CSIDriverList",
   "CSINode", "CSINodeDriver", "CSINodeList", "CSINodeSpec", "CSIPersistentVolumeSource",
   "CSIStorageCapacity", "CSIStorageCapacityList", "CSIVolumeSource",
   "CustomResourceColumnDefinition", "CustomResourceConversion", "CustomResourceDefinition",
   "CustomResourceDefinitionCondition", "CustomResourceDefinitionList",
   "CustomResourceDefinitionNames", "CustomResourceDefinitionSpec",
   "CustomResourceDefinitionVersion", "CustomResourceSubresourceScale", "DaemonEndpoint",
   "DaemonSet", "DaemonSetCondition", "DaemonSetList", "DaemonSetSpec", "DaemonSetStatus",
   "Deployment", "DeploymentCondition", "DeploymentList", "DeploymentSpec", "Device",
   "DeviceAllocationConfiguration", "DeviceCapacity", "DeviceClass", "DeviceClassList",
   "DeviceCounterConsumption", "DeviceRequest", "DeviceRequestAllocationResult",
   "DeviceSubRequest", "DeviceTaint", "DownwardAPIVolumeFile", "Endpoint", "EndpointAddress",
   "EndpointSlice", "EndpointSliceList", "EndpointsList", "EnvVar", "EphemeralContainer",
   "ExactDeviceRequest", "ExpressionWarning", "FieldSelectorRequirement", "FileKeySelector",
   "FlexPersistentVolumeSource", "FlexVolumeSource", "FlowDistinguisherMethod",
   "FlowSchemaCondition", "FlowSchemaList", "FlowSchemaSpec", "ForNode", "ForZone",
   "GCEPersistentDiskVolumeSource", "GitRepoVolumeSource", "GlusterfsPersistentVolumeSource",
   "GlusterfsVolumeSource", "GroupResource", "GroupSubject", "GroupVersionForDiscovery",
   "GRPCAction", "HorizontalPodAutoscalerList", "HorizontalPodAutoscalerSpec",
   "HorizontalPodAutoscalerStatus", "HostAlias", "HostIP", "HostPathVolumeSource", "HTTPGetAction",
   "HTTPHeader", "HTTPIngressPath", "HTTPIngressRuleValue", "IngressClassList",
   "IngressClassParametersReference", "IngressList", "IngressPortStatus", "IngressServiceBackend",
   "IPAddressList", "IPAddressSpec", "IPBlock", "ISCSIPersistentVolumeSource", "ISCSIVolumeSource",
   "JobCondition", "JobList", "JobSpec", "KeyToPath", "LabelSelectorRequirement", "LeaseList",
   "LimitRangeItem", "LimitRangeList", "LimitRangeSpec", "LimitResponse", "LinuxContainerUser",
   "LocalSubjectAccessReview", "LocalVolumeSource", "MatchCondition", "ModifyVolumeStatus",
   "MutatingWebhook", "MutatingWebhookConfigurationList", "NamespaceCondition", "NamespaceList",
   "NetworkPolicyList", "NFSVolumeSource", "NodeAddress", "NodeCondition", "NodeList",
   "NodeSelector", "NodeSelectorRequirement", "NodeSystemInfo", "NonResourcePolicyRule",
   "NonResourceRule", "ObjectFieldSelector", "OpaqueDeviceConfiguration", "OwnerReference",
   "ParentReference", "PersistentVolumeClaimCondition", "PersistentVolumeClaimList",
   "PersistentVolumeClaimTemplate", "PersistentVolumeClaimVolumeSource", "PersistentVolumeList",
   "PhotonPersistentDiskVolumeSource", "PodAffinityTerm", "PodCertificateProjection",
   "PodCondition", "PodDisruptionBudgetList", "PodDisruptionBudgetStatus",
   "PodExtendedResourceClaimStatus", "PodFailurePolicy", "PodFailurePolicyOnExitCodesRequirement",
   "PodFailurePolicyOnPodConditionsPattern", "PodFailurePolicyRule", "PodIP", "PodList", "PodOS",
   "PodReadinessGate", "PodResourceClaim", "PodResourceClaimStatus", "PodSchedulingGate",
   "PodSpec", "PodTemplateList", "PolicyRule", "PolicyRulesWithSubjects", "PortStatus",
   "PortworxVolumeSource", "PreferredSchedulingTerm", "PriorityClass", "PriorityClassList",
   "PriorityLevelConfigurationCondition", "PriorityLevelConfigurationList",
   "PriorityLevelConfigurationReference", "PriorityLevelConfigurationSpec", "QuobyteVolumeSource",
   "RBDPersistentVolumeSource", "RBDVolumeSource", "ReplicaSet", "ReplicaSetCondition",
   "ReplicaSetList", "ReplicaSetSpec", "ReplicaSetStatus", "ReplicationControllerCondition",
   "ReplicationControllerList", "ReplicationControllerStatus", "ResourceClaimConsumerReference",
   "ResourceClaimList", "ResourceClaimTemplate", "ResourceClaimTemplateList",
   "ResourceClaimTemplateSpec", "ResourceFieldSelector", "ResourceHealth", "ResourcePolicyRule",
   "ResourcePool", "ResourceQuotaList", "ResourceRule", "ResourceSlice", "ResourceSliceList",
   "ResourceSliceSpec", "ResourceStatus", "RoleBinding", "RoleBindingList", "RoleList", "RoleRef",
   "RuntimeClass", "RuntimeClassList", "ScaleIOPersistentVolumeSource", "ScaleIOVolumeSource",
   "ScaleStatus", "ScopedResourceSelectorRequirement", "SeccompProfile", "SecretKeySelector",
   "SecretList", "SelectableField", "SelfSubjectAccessReview", "SelfSubjectRulesReview",
   "ServerAddressByClientCIDR", "ServiceAccountList", "ServiceAccountSubject",
   "ServiceAccountTokenProjection", "ServiceCIDRList", "ServiceList", "ServicePort", "SleepAction",
   "StatefulSet", "StatefulSetCondition", "StatefulSetList", "StatefulSetSpec",
   "StatefulSetStatus", "StorageClass", "StorageClassList", "SubjectAccessReview",
   "SubjectAccessReviewStatus", "SubjectRulesReviewStatus", "SuccessPolicy", "Sysctl", "Taint",
   "TCPSocketAction", "TokenRequestSpec", "TokenRequestStatus", "TokenReview",
   "TopologySelectorLabelRequirement", "TopologySpreadConstraint", "TypedLocalObjectReference",
   "TypedObjectReference", "UserSubject", "ValidatingAdmissionPolicyBindingList",
   "ValidatingAdmissionPolicyList", "ValidatingWebhook", "ValidatingWebhookConfigurationList",
   "Validation", "ValidationRule", "Variable", "Volume", "VolumeAttachment",
   "VolumeAttachmentList", "VolumeAttachmentSpec", "VolumeAttachmentStatus",
   "VolumeAttributesClass", "VolumeAttributesClassList", "VolumeDevice", "VolumeMount",
   "VolumeMountStatus", "VsphereVirtualDiskVolumeSource", "WatchEvent", "WebhookConversion",
   "WeightedPodAffinityTerm"]

/-- The schema of the kinds of objects that have the given data and state. -/
def ofKind (data : Option DataForm) (state : Option StateForm) : Schema :=
  ⟨true, true, data, state, false⟩

/-- What the objects of a model hold. -/
def find? (model : Text) : Option Schema :=
  if model = "Pod" then some (ofKind none (some .ofPod))
  else if model = "ConfigMap" then some (ofKind (some .texts) none)
  else if model = "Secret" then some (ofKind (some .contents) none)
  else if model ∈ statefulKinds.map Text.ofString then some (ofKind none (some .ofOther))
  else if model ∈ statelessKinds.map Text.ofString then some (ofKind none none)
  else if model ∈ templates.map Text.ofString then some ⟨false, true, none, none, false⟩
  else if model ∈ references.map Text.ofString then some ⟨true, false, none, none, false⟩
  else if model ∈ parts.map Text.ofString then some ⟨false, false, none, none, false⟩
  else if model ∈ demandingModels.map Text.ofString then some ⟨false, false, none, none, true⟩
  else none

end Schema

end VolumeTunnel
