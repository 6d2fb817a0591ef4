import GuestFleet.Proofs.Json.Mergeable
import GuestFleet.Proofs.Kube.Bodies

/-!
# Objects that merges respect

Metadata and the bodies of every kind are merged into metadata and bodies, whatever was applied
before: no member that they need is ever taken away.
-/

namespace GuestFleet.Kube

open Json (Member Members)
open Json.Codec (exact_text mergeable_instant mergeable_int32 mergeable_int64 mergeable_list
  mergeable_map mergeable_plain mergeable_record mergeable_text mergeable_textMap mergeable_truth)
open Json.Member (Merges)

/-! ## Metadata -/

/-- Lists of texts can be merged, for a patch replaces them as a whole. -/
theorem mergeable_texts : (Json.Codec.list .text).Mergeable fun _ => True :=
  mergeable_list fun _ _ value _ => (exact_text value : Json.Codec.text.Exact 0 value)

/-- Metadata can be merged, and stays regular. -/
theorem Metadata.mergeable : codec.Mergeable (Regular Time.Instant.Proper) := by
  refine mergeable_record (by decide) (fun _ regular => regular.exact) ?_
  intro current desired regular regularToo
  refine .optional mergeable_textMap regular.annotations regularToo.annotations
    fun annotations sortedAnnotations => ?_
  refine .optional mergeable_instant regular.created regularToo.created fun created isCreated => ?_
  refine .optional mergeable_int64 regular.grace regularToo.grace fun grace isGrace => ?_
  refine .optional mergeable_instant regular.deleted regularToo.deleted fun deleted isDeleted => ?_
  refine .any mergeable_texts fun finalizers => ?_
  refine .any mergeable_text fun generateName => ?_
  refine .optional mergeable_int64 regular.generation regularToo.generation
    fun generation isGeneration => ?_
  refine .optional mergeable_textMap regular.labels regularToo.labels
    fun labels sortedLabels => ?_
  refine .any mergeable_text fun name => ?_
  refine .any mergeable_text fun space => ?_
  refine .any mergeable_text fun version => ?_
  refine .any mergeable_text fun link => ?_
  refine .any mergeable_text fun uid => ?_
  refine .nil ⟨⟨annotations, created, grace, deleted, finalizers, generateName, generation, labels,
    name, space, version, link, uid⟩, ?_⟩
  exact ⟨rfl, rfl, rfl, rfl, rfl, rfl, rfl, rfl, rfl, rfl, rfl, rfl, rfl,
    ⟨sortedAnnotations, sortedLabels, isGrace, isGeneration, isCreated, isDeleted⟩⟩

/-! ## Rights -/

/-- The status of a namespace can be merged. -/
theorem NamespaceStatus.mergeable : codec.Mergeable fun _ => True := by
  refine mergeable_record (by decide) (fun status _ => (status.exact : codec.Exact 1 status)) ?_
  intro current desired _ _
  refine .any mergeable_text fun phase => ?_
  exact .nil ⟨⟨phase⟩, rfl, trivial⟩

/-- Two namespaces merge member by member. -/
theorem NamespaceBody.merges (current desired : NamespaceBody) :
    Merges NamespaceBody.members current desired fun _ => True := by
  refine .any NamespaceStatus.mergeable fun status => ?_
  exact .nil ⟨⟨status⟩, rfl, trivial⟩

/-- Two service accounts merge member by member. -/
theorem ServiceAccountBody.merges (current desired : ServiceAccountBody) :
    Merges ServiceAccountBody.members current desired fun _ => True := by
  have references : (Json.Codec.list SecretReference.codec).Mergeable fun _ => True :=
    mergeable_list fun _ _ secret _ => (secret.exact : SecretReference.codec.Exact 1 secret)
  refine .any references fun secrets => ?_
  exact .nil ⟨⟨secrets⟩, rfl, trivial⟩

/-- What a binding grants can be merged. -/
theorem RoleRef.mergeable : codec.Mergeable fun _ => True := by
  refine mergeable_record (by decide) (fun role _ => (role.exact : codec.Exact 1 role)) ?_
  intro current desired _ _
  refine .needed mergeable_text trivial trivial fun group _ => ?_
  refine .needed mergeable_text trivial trivial fun kind _ => ?_
  refine .needed mergeable_text trivial trivial fun name _ => ?_
  exact .nil ⟨⟨group, kind, name⟩, rfl, rfl, rfl, trivial⟩

/-- Two bindings merge member by member. -/
theorem ClusterRoleBindingBody.merges (current desired : ClusterRoleBindingBody) :
    Merges ClusterRoleBindingBody.members current desired fun _ => True := by
  have listed : (Json.Codec.list Subject.codec).Mergeable fun _ => True :=
    mergeable_list fun _ _ subject _ => (subject.exact : Subject.codec.Exact 1 subject)
  refine .needed RoleRef.mergeable trivial trivial fun role _ => ?_
  refine .any listed fun subjects => ?_
  exact .nil ⟨⟨role, subjects⟩, rfl, rfl, trivial⟩

/-! ## Storage -/

/-- Byte strings can be merged, being texts. -/
theorem Bytes.mergeable : codec.Mergeable fun _ => True :=
  mergeable_plain (fun bytes _ => (bytes.exact : codec.Exact 0 bytes)) fun _ _ => nofun

/-- Two config maps merge member by member, and their keys stay in order. -/
theorem ConfigMapBody.merges {current desired : ConfigMapBody} (proper : current.Proper)
    (properToo : desired.Proper) :
    Merges ConfigMapBody.members current desired ConfigMapBody.Proper := by
  have bytes := mergeable_map Bytes.mergeable fun bytes _ =>
    (bytes.exact : Bytes.codec.Exact 0 bytes)
  have binary := bytes.congr fun entries => and_iff_left fun _ _ => trivial
  refine .optional binary proper.binaryData properToo.binaryData fun binaryData sortedBinary => ?_
  refine .optional mergeable_textMap proper.data properToo.data fun data sortedData => ?_
  refine .any mergeable_truth fun immutable => ?_
  exact .nil ⟨⟨binaryData, data, immutable⟩, rfl, rfl, rfl, ⟨sortedBinary, sortedData⟩⟩

/-- The resources that a claim asks for can be merged, and their names stay in order. -/
theorem VolumeResources.mergeable : codec.Mergeable fun resources =>
    ∀ entries, resources.requests = some entries -> Entries.Sorted entries := by
  refine mergeable_record (by decide) (fun resources sorted =>
    (VolumeResources.exact sorted : codec.Exact 2 resources)) ?_
  intro current desired sorted sortedToo
  refine .optional mergeable_textMap sorted sortedToo fun requests sortedRequests => ?_
  exact .nil ⟨⟨requests⟩, rfl, sortedRequests⟩

/-- What a claim asks for can be merged, and stays in order. -/
theorem ClaimSpec.mergeable : codec.Mergeable fun spec =>
    ∀ resources, spec.resources = some resources ->
      ∀ entries, resources.requests = some entries -> Entries.Sorted entries := by
  refine mergeable_record (by decide) (fun spec proper =>
    (ClaimSpec.exact proper : codec.Exact 3 spec)) ?_
  intro current desired proper properToo
  refine .any mergeable_texts fun modes => ?_
  refine .optional VolumeResources.mergeable proper properToo fun resources isProper => ?_
  refine .any mergeable_text fun storageClass => ?_
  exact .nil ⟨⟨modes, resources, storageClass⟩, rfl, rfl, rfl, isProper⟩

/-- The status of a claim can be merged. -/
theorem ClaimStatus.mergeable : codec.Mergeable fun _ => True := by
  refine mergeable_record (by decide) (fun status _ => (status.exact : codec.Exact 1 status)) ?_
  intro current desired _ _
  refine .any mergeable_text fun phase => ?_
  exact .nil ⟨⟨phase⟩, rfl, trivial⟩

/-- Two claims merge member by member. -/
theorem ClaimBody.merges {current desired : ClaimBody} (proper : current.Proper)
    (properToo : desired.Proper) : Merges ClaimBody.members current desired ClaimBody.Proper := by
  refine .optional ClaimSpec.mergeable proper properToo fun spec isProper => ?_
  refine .any ClaimStatus.mergeable fun status => ?_
  exact .nil ⟨⟨spec, status⟩, rfl, rfl, isProper⟩

/-! ## Deployments -/

/-- What runs in a pod can be merged, although its containers and volumes are replaced as a whole.
-/
theorem PodSpec.mergeable : codec.Mergeable fun _ => True := by
  refine mergeable_record (by decide) (fun spec _ => (spec.exact : codec.Exact 5 spec)) ?_
  have runs : (Json.Codec.list Container.codec).Mergeable fun _ => True :=
    mergeable_list fun _ _ container _ => (container.exact : Container.codec.Exact 3 container)
  have mounts : (Json.Codec.list Volume.codec).Mergeable fun _ => True :=
    mergeable_list fun _ _ volume _ => (volume.exact : Volume.codec.Exact 2 volume)
  intro current desired _ _
  refine .needed runs trivial trivial fun containers _ => ?_
  refine .any mergeable_text fun account => ?_
  refine .any mounts fun volumes => ?_
  exact .nil ⟨⟨containers, account, volumes⟩, rfl, rfl, rfl, trivial⟩

/-- The template of a pod can be merged, and its metadata stays regular. -/
theorem PodTemplate.mergeable : codec.Mergeable fun template =>
    ∀ metadata, template.metadata = some metadata -> metadata.Regular Time.Instant.Proper := by
  refine mergeable_record (by decide) (fun template regular =>
    (PodTemplate.exact regular : codec.Exact 6 template)) ?_
  intro current desired regular regularToo
  refine .optional Metadata.mergeable regular regularToo fun metadata isRegular => ?_
  refine .any PodSpec.mergeable fun spec => ?_
  exact .nil ⟨⟨metadata, spec⟩, rfl, rfl, isRegular⟩

/-- The labels that a deployment selects by can be merged, and stay in order. -/
theorem LabelSelector.mergeable : codec.Mergeable fun selector =>
    ∀ entries, selector.matchLabels = some entries -> Entries.Sorted entries := by
  refine mergeable_record (by decide) (fun selector sorted =>
    (LabelSelector.exact sorted : codec.Exact 2 selector)) ?_
  intro current desired sorted sortedToo
  refine .optional mergeable_textMap sorted sortedToo fun labels sortedLabels => ?_
  exact .nil ⟨⟨labels⟩, rfl, sortedLabels⟩

/-- How a deployment replaces its pods can be merged. -/
theorem DeploymentStrategy.mergeable : codec.Mergeable fun _ => True := by
  refine mergeable_record (by decide) (fun strategy _ =>
    (strategy.exact : codec.Exact 1 strategy)) ?_
  intro current desired _ _
  refine .any mergeable_text fun type => ?_
  exact .nil ⟨⟨type⟩, rfl, trivial⟩

/-- The spec of a deployment can be merged, and stays regular. -/
theorem DeploymentSpec.mergeable : codec.Mergeable (Regular Time.Instant.Proper) := by
  refine mergeable_record (by decide) (fun spec regular =>
    (regular.exact : codec.Exact 7 spec)) ?_
  intro current desired regular regularToo
  refine .optional mergeable_int32 regular.replicas regularToo.replicas
    fun replicas fits => ?_
  refine .needed LabelSelector.mergeable regular.selector regularToo.selector
    fun selector sorted => ?_
  refine .any DeploymentStrategy.mergeable fun strategy => ?_
  refine .needed PodTemplate.mergeable regular.template regularToo.template
    fun template isRegular => ?_
  exact .nil ⟨⟨replicas, selector, strategy, template⟩, rfl, rfl, rfl, rfl,
    ⟨fits, sorted, isRegular⟩⟩

/-- The status of a deployment can be merged, and stays proper. -/
theorem DeploymentStatus.mergeable : codec.Mergeable Proper := by
  refine mergeable_record (by decide) (fun status proper =>
    (DeploymentStatus.exact proper : codec.Exact 1 status)) ?_
  intro current desired proper properToo
  refine .optional mergeable_int32 proper.available properToo.available fun available fits => ?_
  refine .optional mergeable_int32 proper.replicas properToo.replicas fun replicas fitsToo => ?_
  exact .nil ⟨⟨available, replicas⟩, rfl, rfl, ⟨fits, fitsToo⟩⟩

/-- Two deployments merge member by member, and stay regular. -/
theorem DeploymentBody.merges {current desired : DeploymentBody}
    (regular : current.Regular Time.Instant.Proper)
    (regularToo : desired.Regular Time.Instant.Proper) :
    Merges DeploymentBody.members current desired
      (DeploymentBody.Regular Time.Instant.Proper) := by
  refine .optional DeploymentSpec.mergeable regular.spec regularToo.spec
    fun spec isRegular => ?_
  refine .optional DeploymentStatus.mergeable regular.status regularToo.status
    fun status isProper => ?_
  exact .nil ⟨⟨spec, status⟩, rfl, rfl, ⟨isRegular, isProper⟩⟩

/-! ## Services and ingresses -/

/-- The spec of a service can be merged, and stays proper. -/
theorem ServiceSpec.mergeable : codec.Mergeable Proper := by
  refine mergeable_record (by decide) (fun _ proper => ServiceSpec.exact proper) ?_
  intro current desired proper properToo
  refine .any mergeable_text fun clusterIP => ?_
  refine .any mergeable_texts fun clusterIPs => ?_
  refine .any mergeable_text fun policy => ?_
  refine .optional (mergeable_list fun _ ports port mem => ServicePort.exact (ports port mem))
    proper.ports properToo.ports fun ports areProper => ?_
  refine .optional mergeable_textMap proper.selector properToo.selector fun selector sorted => ?_
  refine .any mergeable_text fun affinity => ?_
  refine .any mergeable_text fun type => ?_
  exact .nil ⟨⟨clusterIP, clusterIPs, policy, ports, selector, affinity, type⟩, rfl, rfl, rfl, rfl,
    rfl, rfl, rfl, ⟨areProper, sorted⟩⟩

/-- Two services merge member by member, and stay proper. -/
theorem ServiceBody.merges {current desired : ServiceBody}
    (proper : ∀ spec, current.spec = some spec -> spec.Proper)
    (properToo : ∀ spec, desired.spec = some spec -> spec.Proper) :
    Merges ServiceBody.members current desired fun body =>
      ∀ spec, body.spec = some spec -> spec.Proper := by
  refine .optional ServiceSpec.mergeable proper properToo fun spec isProper => ?_
  exact .nil ⟨⟨spec⟩, rfl, isProper⟩

/-- The spec of an ingress can be merged, and stays proper. -/
theorem IngressSpec.mergeable : codec.Mergeable Proper := by
  refine mergeable_record (by decide) (fun _ proper => IngressSpec.exact proper) ?_
  intro current desired proper properToo
  refine .any mergeable_text fun className => ?_
  refine .optional (mergeable_list fun _ rules rule mem => IngressRule.exact (rules rule mem))
    proper properToo fun rules areProper => ?_
  refine .any (mergeable_list fun _ _ entry _ => IngressTls.exact entry) fun tls => ?_
  exact .nil ⟨⟨className, rules, tls⟩, rfl, rfl, rfl, areProper⟩

/-- A balancer can be merged. -/
theorem Balancer.mergeable : codec.Mergeable fun _ => True := by
  refine mergeable_record (by decide) (fun balancer _ => balancer.exact) ?_
  intro current desired _ _
  refine .any (mergeable_list fun _ _ address _ => BalancerAddress.exact address)
    fun addresses => ?_
  exact .nil ⟨⟨addresses⟩, rfl, trivial⟩

/-- The status of an ingress can be merged. -/
theorem IngressStatus.mergeable : codec.Mergeable fun _ => True := by
  refine mergeable_record (by decide) (fun status _ => status.exact) ?_
  intro current desired _ _
  refine .any Balancer.mergeable fun balancer => ?_
  exact .nil ⟨⟨balancer⟩, rfl, trivial⟩

/-- Two ingresses merge member by member, and stay proper. -/
theorem IngressBody.merges {current desired : IngressBody}
    (proper : ∀ spec, current.spec = some spec -> spec.Proper)
    (properToo : ∀ spec, desired.spec = some spec -> spec.Proper) :
    Merges IngressBody.members current desired fun body =>
      ∀ spec, body.spec = some spec -> spec.Proper := by
  refine .optional IngressSpec.mergeable proper properToo fun spec isProper => ?_
  refine .any IngressStatus.mergeable fun status => ?_
  exact .nil ⟨⟨spec, status⟩, rfl, rfl, isProper⟩

/-! ## Objects -/

/-- Two bodies of the same kind merge member by member, and stay regular. -/
theorem Body.Regular.merges {kind : Kind} {current desired : Body kind}
    (regular : Body.Regular Time.Instant.Proper kind current)
    (regularToo : Body.Regular Time.Instant.Proper kind desired) :
    Merges (Body.members kind) current desired (Body.Regular Time.Instant.Proper kind) := by
  cases kind with
  | «namespace» => exact NamespaceBody.merges current desired
  | serviceAccount => exact ServiceAccountBody.merges current desired
  | clusterRoleBinding => exact ClusterRoleBindingBody.merges current desired
  | configMap => exact ConfigMapBody.merges regular regularToo
  | persistentVolumeClaim => exact ClaimBody.merges regular regularToo
  | deployment => exact DeploymentBody.merges regular regularToo
  | ingress => exact IngressBody.merges regular regularToo
  | service => exact ServiceBody.merges regular regularToo
  | pod => exact .nil ⟨(), trivial⟩

/-- The members of a body stand among those of its object. -/
theorem Object.stands_body {kind : Kind} (object : Object kind) :
    Member.Stands (Body.members kind) object.body object.toJson.membersOf := by
  intro member mem
  obtain ⟨notVersion, notKind, notMetadata⟩ := Object.keys_body _ (List.mem_map_of_mem mem)
  rw [Object.find_toJson, if_neg notVersion, if_neg notKind, if_neg notMetadata]
  exact Member.stands_written ((Object.sorted_keys kind).imp ne_of_lt) object.body member mem

/-- Two objects of a kind are merged into an object of that kind. -/
theorem Object.Regular.merges {kind : Kind} {current desired : Object kind}
    (regular : current.Regular Time.Instant.Proper)
    (regularToo : desired.Regular Time.Instant.Proper) {applied : Members}
    (ordered : Json.Ordered (.object applied)) :
    ∃ merged : Object kind, merged.Regular Time.Instant.Proper ∧
      merged.toJson = .object
        (Json.mergedMembers applied desired.toJson.membersOf current.toJson.membersOf) := by
  have sortedApplied := (Json.ordered_object.1 ordered).1
  have sortedWanted := desired.sorted_toJson
  have nodup := (Object.sorted_keys kind).imp ne_of_lt
  have regularMetadata : ∀ metadata, some current.metadata = some metadata ->
      metadata.Regular Time.Instant.Proper := by
    rintro _ ⟨⟩
    exact regular.metadata
  obtain ⟨metadata, isRegular, metadataFound⟩ := Metadata.mergeable.find_wanted ordered
    sortedWanted regularMetadata regularToo.metadata current.find_metadata desired.find_metadata
  obtain ⟨body, isRegularToo, stands⟩ := regular.body.merges regularToo.body ordered sortedWanted
    current.stands_body desired.stands_body
  refine ⟨⟨metadata, body⟩, ⟨isRegular, isRegularToo⟩, congrArg Json.object ?_⟩
  refine Entries.Sorted.ext (Object.sorted_toJson ⟨metadata, body⟩)
    (current.sorted_toJson.merged applied _) fun key => ?_
  refine (Object.find_toJson ⟨metadata, body⟩ key).trans ?_
  have named {key name : String}
      (isWanted : Members.find desired.toJson.membersOf key = some (.string name))
      (isPresent : Members.find current.toJson.membersOf key = some (.string name)) :
      Members.find (Json.mergedMembers applied desired.toJson.membersOf current.toJson.membersOf)
        key = some (.string name) :=
    Json.find_merged_agreed sortedApplied sortedWanted (fun _ => nofun) nofun isWanted isPresent
  split_ifs with isVersion isKind isMetadata
  · subst isVersion
    exact (named (desired.find_toJson "apiVersion") (current.find_toJson "apiVersion")).symm
  · subst isKind
    exact (named (desired.find_toJson "kind") (current.find_toJson "kind")).symm
  · subst isMetadata
    exact metadataFound.symm
  · refine stands.find_written nodup fun foreign => ?_
    have absent (object : Object kind) : Members.find object.toJson.membersOf key = none := by
      rw [Object.find_toJson, if_neg isVersion, if_neg isKind, if_neg isMetadata]
      exact Member.find_written_foreign foreign object.body
    exact Json.find_merged_foreign sortedApplied sortedWanted (absent desired) (absent current)

end GuestFleet.Kube
