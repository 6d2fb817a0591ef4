import GuestFleet.Proofs.Kube.Bytes
import GuestFleet.Proofs.Kube.Exact

/-!
# Objects of every kind that are read back

The bodies of all kinds are read back from their JSON form when their maps are in key order, their
integers fit and the timestamps on the pods of deployments are read back. With metadata like that
the same holds of the objects. Of all others something is read back that is written like them, as
long as the years of their timestamps are short.
-/

namespace GuestFleet.Kube

open Json (Member)
open Json.Codec (IsInt32 exact_int32 exact_list exact_map exact_record exact_text exact_textMap
  exact_truth)
open Json.Member (copies_needed copies_optional)

variable {depth : Nat}

/-! ## Rights -/

/-- The status of a namespace is read back. -/
theorem NamespaceStatus.exact (status : NamespaceStatus) : codec.Exact (depth + 1) status :=
  exact_record (by decide) (.cons (copies_optional (fun value _ => exact_text value) rfl) .nil)

/-- What a namespace consists of is read back member by member. -/
theorem NamespaceBody.restores (body : NamespaceBody) :
    Member.Restores (depth + 1) body NamespaceBody.members {} :=
  .cons (copies_optional (fun status _ => status.exact) rfl) .nil

/-- The name of a secret is read back. -/
theorem SecretReference.exact (secret : SecretReference) : codec.Exact (depth + 1) secret :=
  exact_record (by decide) (.cons (copies_optional (fun value _ => exact_text value) rfl) .nil)

/-- What a service account consists of is read back member by member. -/
theorem ServiceAccountBody.restores (body : ServiceAccountBody) :
    Member.Restores (depth + 2) body ServiceAccountBody.members {} :=
  .cons (copies_optional (fun _ _ => exact_list fun secret _ => secret.exact) rfl) .nil

/-- What a binding grants is read back. -/
theorem RoleRef.exact (role : RoleRef) : codec.Exact (depth + 1) role := by
  refine exact_record (by decide) (.cons (copies_needed (exact_text _)) ?_)
  exact .cons (copies_needed (exact_text _)) (.cons (copies_needed (exact_text _)) .nil)

/-- Whom a binding grants it to is read back. -/
theorem Subject.exact (subject : Subject) : codec.Exact (depth + 1) subject := by
  refine exact_record (by decide) ?_
  refine .cons (copies_optional (fun value _ => exact_text value) rfl) ?_
  refine .cons (copies_needed (exact_text _)) (.cons (copies_needed (exact_text _)) ?_)
  exact .cons (copies_optional (fun value _ => exact_text value) rfl) .nil

/-- What a binding consists of is read back member by member. -/
theorem ClusterRoleBindingBody.restores (body : ClusterRoleBindingBody) :
    Member.Restores (depth + 2) body ClusterRoleBindingBody.members {} := by
  refine .cons (copies_needed body.roleRef.exact) ?_
  refine .cons (copies_optional (fun subjects _ => ?_) rfl) .nil
  exact exact_list fun subject _ => subject.exact

/-! ## Storage -/

/-- A config map whose maps are in key order. -/
structure ConfigMapBody.Proper (body : ConfigMapBody) : Prop where
  binaryData : ∀ entries, body.binaryData = some entries -> Entries.Sorted entries
  data : ∀ entries, body.data = some entries -> Entries.Sorted entries

/-- What a config map consists of is read back once its keys are in order. -/
theorem ConfigMapBody.restores {body : ConfigMapBody} (proper : body.Proper) :
    Member.Restores (depth + 1) body ConfigMapBody.members {} := by
  refine .cons (copies_optional (fun entries held => ?_) rfl) ?_
  · exact exact_map (proper.binaryData entries held) fun entry _ => entry.2.exact
  refine .cons (copies_optional (fun entries held => ?_) rfl) ?_
  · exact exact_textMap (proper.data entries held)
  exact .cons (copies_optional (fun value _ => exact_truth value) rfl) .nil

/-- A claim whose amounts are in key order. -/
def ClaimBody.Proper (body : ClaimBody) : Prop :=
  ∀ spec, body.spec = some spec -> ∀ resources, spec.resources = some resources ->
    ∀ entries, resources.requests = some entries -> Entries.Sorted entries

/-- The resources that a claim asks for are read back once their names are in order. -/
theorem VolumeResources.exact {resources : VolumeResources}
    (sorted : ∀ entries, resources.requests = some entries -> Entries.Sorted entries) :
    codec.Exact (depth + 2) resources := by
  refine exact_record (by decide) (.cons (copies_optional (fun entries held => ?_) rfl) .nil)
  exact exact_textMap (sorted entries held)

/-- What a claim asks for is read back under the same condition. -/
theorem ClaimSpec.exact {spec : ClaimSpec}
    (proper : ∀ resources, spec.resources = some resources ->
      ∀ entries, resources.requests = some entries -> Entries.Sorted entries) :
    codec.Exact (depth + 3) spec := by
  refine exact_record (by decide) ?_
  refine .cons (copies_optional (fun values _ => exact_list fun value _ => exact_text value) rfl) ?_
  refine .cons (copies_optional (fun resources held => ?_) rfl) ?_
  · exact VolumeResources.exact (proper resources held)
  exact .cons (copies_optional (fun value _ => exact_text value) rfl) .nil

/-- The status of a claim is read back. -/
theorem ClaimStatus.exact (status : ClaimStatus) : codec.Exact (depth + 1) status :=
  exact_record (by decide) (.cons (copies_optional (fun value _ => exact_text value) rfl) .nil)

/-- What a claim consists of is read back member by member. -/
theorem ClaimBody.restores {body : ClaimBody} (proper : body.Proper) :
    Member.Restores (depth + 3) body ClaimBody.members {} := by
  refine .cons (copies_optional (fun spec held => ClaimSpec.exact (proper spec held)) rfl) ?_
  exact .cons (copies_optional (fun status _ => status.exact) rfl) .nil

/-! ## Deployments -/

/-- An environment variable of a container is read back. -/
theorem EnvVar.exact (entry : EnvVar) : codec.Exact (depth + 1) entry := by
  refine exact_record (by decide) (.cons (copies_needed (exact_text _)) ?_)
  exact .cons (copies_optional (fun value _ => exact_text value) rfl) .nil

/-- A place where a volume is mounted is read back. -/
theorem VolumeMount.exact (mount : VolumeMount) : codec.Exact (depth + 1) mount := by
  refine exact_record (by decide) (.cons (copies_needed (exact_text _)) ?_)
  refine .cons (copies_needed (exact_text _)) ?_
  exact .cons (copies_optional (fun value _ => exact_truth value) rfl) .nil

/-- A container is read back. -/
theorem Container.exact (container : Container) : codec.Exact (depth + 3) container := by
  refine exact_record (by decide) ?_
  refine .cons (copies_optional (fun entries _ => exact_list fun entry _ => entry.exact) rfl) ?_
  refine .cons (copies_optional (fun value _ => exact_text value) rfl) ?_
  refine .cons (copies_needed (exact_text _)) ?_
  refine .cons (copies_optional (fun context _ => exact_record (by decide) ?_) rfl) ?_
  · exact .cons (copies_optional (fun value _ => exact_truth value) rfl) .nil
  exact .cons (copies_optional (fun mounts _ => exact_list fun mount _ => mount.exact) rfl) .nil

/-- A volume is read back, whichever source it has. -/
theorem Volume.exact (volume : Volume) : codec.Exact (depth + 2) volume := by
  refine exact_record (by decide) ?_
  refine .cons (copies_optional (fun source _ => exact_record (by decide) ?_) rfl) ?_
  · exact .cons (copies_needed (exact_text _)) .nil
  refine .cons (copies_optional (fun source _ => exact_record (by decide) ?_) rfl) ?_
  · refine .cons (copies_needed (exact_text _)) ?_
    exact .cons (copies_optional (fun value _ => exact_text value) rfl) .nil
  refine .cons (copies_needed (exact_text _)) ?_
  refine .cons (copies_optional (fun source _ => exact_record (by decide) ?_) rfl) .nil
  exact .cons (copies_needed (exact_text _)) .nil

/-- What runs in a pod is read back. -/
theorem PodSpec.exact (spec : PodSpec) : codec.Exact (depth + 5) spec := by
  refine exact_record (by decide) ?_
  refine .cons (copies_needed (exact_list fun container _ => container.exact)) ?_
  refine .cons (copies_optional (fun value _ => exact_text value) rfl) ?_
  exact .cons (copies_optional (fun volumes _ => exact_list fun volume _ => volume.exact) rfl) .nil

/-- A deployment with proper counts of pods, whose selector is in key order and whose pods have
proper metadata. -/
structure DeploymentSpec.Proper (spec : DeploymentSpec) : Prop where
  replicas : ∀ value, spec.replicas = some value -> IsInt32 value
  selector : ∀ entries, spec.selector.matchLabels = some entries -> Entries.Sorted entries
  template : ∀ metadata, spec.template.metadata = some metadata -> metadata.Proper

/-- A deployment like that, but for the timestamps of its pods: they are allowed. -/
structure DeploymentSpec.Regular (allowed : Time.Instant -> Prop) (spec : DeploymentSpec) :
    Prop where
  replicas : ∀ value, spec.replicas = some value -> IsInt32 value
  selector : ∀ entries, spec.selector.matchLabels = some entries -> Entries.Sorted entries
  template : ∀ metadata, spec.template.metadata = some metadata -> metadata.Regular allowed

/-- A proper spec is regular whichever instants are allowed, since its template holds none. -/
theorem DeploymentSpec.Proper.regular {spec : DeploymentSpec} (proper : spec.Proper)
    {allowed : Time.Instant -> Prop} : spec.Regular allowed :=
  { proper with template := fun metadata held => (proper.template metadata held).regular }

/-- The labels that a deployment selects by are read back once they are in order. -/
theorem LabelSelector.exact {selector : LabelSelector}
    (sorted : ∀ entries, selector.matchLabels = some entries -> Entries.Sorted entries) :
    codec.Exact (depth + 2) selector := by
  refine exact_record (by decide) (.cons (copies_optional (fun entries held => ?_) rfl) .nil)
  exact exact_textMap (sorted entries held)

/-- How a deployment replaces its pods is read back. -/
theorem DeploymentStrategy.exact (strategy : DeploymentStrategy) :
    codec.Exact (depth + 1) strategy :=
  exact_record (by decide) (.cons (copies_optional (fun value _ => exact_text value) rfl) .nil)

/-- The template of a pod is read back if its metadata is. -/
theorem PodTemplate.exact {template : PodTemplate}
    (regular : ∀ metadata, template.metadata = some metadata ->
      metadata.Regular Time.Instant.Proper) :
    codec.Exact (depth + 6) template := by
  refine exact_record (by decide) (.cons (copies_optional (fun metadata held => ?_) rfl) ?_)
  · exact (regular metadata held).exact.mono (by omega)
  exact .cons (copies_optional (fun spec _ => spec.exact) rfl) .nil

/-- The spec of a deployment is read back with every instant that can be written. -/
theorem DeploymentSpec.Regular.exact {spec : DeploymentSpec}
    (regular : spec.Regular Time.Instant.Proper) : codec.Exact (depth + 7) spec := by
  refine exact_record (by decide) ?_
  refine .cons (copies_optional (fun value held => ?_) rfl) ?_
  · exact exact_int32 (regular.replicas value held)
  refine .cons (copies_needed (LabelSelector.exact regular.selector)) ?_
  refine .cons (copies_optional (fun strategy _ => strategy.exact) rfl) ?_
  exact .cons (copies_needed (PodTemplate.exact regular.template)) .nil

/-- A deployment status with proper counts of pods. -/
structure DeploymentStatus.Proper (status : DeploymentStatus) : Prop where
  available : ∀ value, status.availableReplicas = some value -> IsInt32 value
  replicas : ∀ value, status.replicas = some value -> IsInt32 value

/-- The status of a deployment is read back. -/
theorem DeploymentStatus.exact {status : DeploymentStatus} (proper : status.Proper) :
    codec.Exact (depth + 1) status := by
  refine exact_record (by decide) ?_
  refine .cons (copies_optional (fun value held => ?_) rfl) ?_
  · exact exact_int32 (proper.available value held)
  refine .cons (copies_optional (fun value held => ?_) rfl) .nil
  exact exact_int32 (proper.replicas value held)

/-- A deployment with a proper spec and status. -/
structure DeploymentBody.Proper (body : DeploymentBody) : Prop where
  spec : ∀ spec, body.spec = some spec -> spec.Proper
  status : ∀ status, body.status = some status -> status.Proper

/-- A deployment with a spec like that and a proper status. -/
structure DeploymentBody.Regular (allowed : Time.Instant -> Prop) (body : DeploymentBody) :
    Prop where
  spec : ∀ spec, body.spec = some spec -> spec.Regular allowed
  status : ∀ status, body.status = some status -> status.Proper

/-- What a deployment consists of is read back member by member. -/
theorem DeploymentBody.Regular.restores {body : DeploymentBody}
    (regular : body.Regular Time.Instant.Proper) :
    Member.Restores (depth + 7) body DeploymentBody.members {} := by
  refine .cons (copies_optional (fun spec held => ?_) rfl) ?_
  · exact (regular.spec spec held).exact
  refine .cons (copies_optional (fun status held => ?_) rfl) .nil
  exact DeploymentStatus.exact (regular.status status held)

/-! ## Objects -/

/-- A body whose maps are in key order, whose integers fit and which carries no timestamps. -/
def Body.Proper : (kind : Kind) -> Body kind -> Prop
  | .namespace, _ => True
  | .serviceAccount, _ => True
  | .clusterRoleBinding, _ => True
  | .configMap, body => ConfigMapBody.Proper body
  | .persistentVolumeClaim, body => ClaimBody.Proper body
  | .deployment, body => DeploymentBody.Proper body
  | .ingress, body => ∀ spec, IngressBody.spec body = some spec -> spec.Proper
  | .service, body => ∀ spec, ServiceBody.spec body = some spec -> spec.Proper
  | .pod, _ => True

/-- A body like that, but for timestamps: they are allowed. -/
def Body.Regular (allowed : Time.Instant -> Prop) : (kind : Kind) -> Body kind -> Prop
  | .deployment, body => DeploymentBody.Regular allowed body
  | kind, body => Body.Proper kind body

/-- A proper body is regular whichever instants are allowed. -/
theorem Body.Proper.regular {kind : Kind} {body : Body kind} (proper : Body.Proper kind body)
    {allowed : Time.Instant -> Prop} : Body.Regular allowed kind body := by
  cases kind with
  | deployment =>
    have proper : DeploymentBody.Proper body := proper
    exact ⟨fun spec held => (proper.spec spec held).regular, proper.status⟩
  | _ => exact proper

/-- A body of any kind is read back member by member, within the depth that a reader goes to. -/
theorem Body.Regular.restores {kind : Kind} {body : Body kind}
    (regular : Body.Regular Time.Instant.Proper kind body) :
    ∃ depth, 2 ≤ depth ∧ depth < 127 ∧
      Member.Restores depth body (Body.members kind) (Body.empty kind) := by
  cases kind with
  | «namespace» => exact ⟨2, by decide, by decide, NamespaceBody.restores body⟩
  | serviceAccount => exact ⟨2, by decide, by decide, ServiceAccountBody.restores body⟩
  | clusterRoleBinding => exact ⟨2, by decide, by decide, ClusterRoleBindingBody.restores body⟩
  | configMap => exact ⟨2, by decide, by decide, ConfigMapBody.restores regular⟩
  | persistentVolumeClaim => exact ⟨3, by decide, by decide, ClaimBody.restores regular⟩
  | deployment => exact ⟨7, by decide, by decide, DeploymentBody.Regular.restores regular⟩
  | ingress => exact ⟨9, by decide, by decide, IngressBody.restores regular⟩
  | service => exact ⟨3, by decide, by decide, ServiceBody.restores regular⟩
  | pod => exact ⟨2, by decide, by decide, .nil⟩

namespace Object

variable {kind : Kind} {object : Object kind}

/-- An object without timestamps whose maps are in key order and whose integers fit. -/
structure Proper (object : Object kind) : Prop where
  metadata : object.metadata.Proper
  body : Body.Proper kind object.body

/-- An object whose maps are in key order, whose integers fit and whose timestamps are allowed. -/
structure Regular (allowed : Time.Instant -> Prop) (object : Object kind) : Prop where
  metadata : object.metadata.Regular allowed
  body : Body.Regular allowed kind object.body

/-- A proper object is regular whichever instants are allowed. -/
theorem Proper.regular (proper : object.Proper) {allowed : Time.Instant -> Prop} :
    object.Regular allowed :=
  ⟨proper.metadata.regular, proper.body.regular⟩

/-- A regular object is read back from its JSON form, and that from its text, if its timestamps
are. -/
theorem Regular.exact (regular : object.Regular Time.Instant.Proper) : object.Exact := by
  obtain ⟨depth, deep, shallow, restores⟩ := regular.body.restores
  exact exact_of regular.metadata restores deep shallow

/-- A proper object is read back. -/
theorem Proper.exact (proper : object.Proper) : object.Exact := proper.regular.exact

end Object

/-! ## Normal forms -/

/-- A change that does not show in what is written shows as little where the value may be absent. -/
theorem write_changed {α : Type} {codec : Json.Codec α} {change : α -> α}
    (same : ∀ value, codec.write (change value) = codec.write value) (value : Option α) :
    (value.map change).map codec.write = value.map codec.write := by
  rw [Option.map_map]
  exact Option.map_congr fun value _ => same value

/-- The metadata with the timestamps that are read back from its JSON form. -/
def Metadata.normal (metadata : Metadata) : Metadata :=
  { metadata with
    creationTimestamp := metadata.creationTimestamp.map Time.Instant.normal
    deletionTimestamp := metadata.deletionTimestamp.map Time.Instant.normal }

/-- Metadata is written as its normal form is. -/
theorem Metadata.write_normal (metadata : Metadata) :
    codec.write metadata.normal = codec.write metadata := by
  have times (time : Option Time.Instant) :
      (time.map Time.Instant.normal).map Json.Codec.instant.write =
        time.map Json.Codec.instant.write :=
    write_changed (fun time => congrArg Json.string time.text_normal) time
  refine congrArg Json.object (Json.written_congr fun field mem => ?_)
  simp only [List.mem_cons, List.not_mem_nil, or_false] at mem
  rcases mem with rfl | rfl | rfl | rfl | rfl | rfl | rfl | rfl | rfl | rfl | rfl | rfl | rfl
  all_goals first
    | rfl
    | exact times _

/-- The normal form of metadata holds instants that are read back. -/
theorem Metadata.Regular.normal {metadata : Metadata}
    (regular : metadata.Regular Time.Instant.HasShortYear) :
    metadata.normal.Regular Time.Instant.Proper :=
  { regular with
    created := fun _ held => by
      obtain ⟨time, isTime, rfl⟩ := Option.map_eq_some_iff.1 held
      exact (regular.created time isTime).proper_normal
    deleted := fun _ held => by
      obtain ⟨time, isTime, rfl⟩ := Option.map_eq_some_iff.1 held
      exact (regular.deleted time isTime).proper_normal }

/-- The template with the timestamps that are read back from it. -/
def PodTemplate.normal (template : PodTemplate) : PodTemplate :=
  { template with metadata := template.metadata.map Metadata.normal }

/-- A template is written as its normal form is. -/
theorem PodTemplate.write_normal (template : PodTemplate) :
    codec.write template.normal = codec.write template := by
  refine congrArg Json.object (Json.written_congr fun field mem => ?_)
  simp only [List.mem_cons, List.not_mem_nil, or_false] at mem
  rcases mem with rfl | rfl
  · exact write_changed Metadata.write_normal template.metadata
  · rfl

/-- The spec with the timestamps that are read back from it. -/
def DeploymentSpec.normal (spec : DeploymentSpec) : DeploymentSpec :=
  { spec with template := spec.template.normal }

/-- The spec of a deployment is written as its normal form is. -/
theorem DeploymentSpec.write_normal (spec : DeploymentSpec) :
    codec.write spec.normal = codec.write spec := by
  refine congrArg Json.object (Json.written_congr fun field mem => ?_)
  simp only [List.mem_cons, List.not_mem_nil, or_false] at mem
  rcases mem with rfl | rfl | rfl | rfl
  · rfl
  · rfl
  · rfl
  · exact congrArg some spec.template.write_normal

/-- The normal form of such a spec holds instants that are read back. -/
theorem DeploymentSpec.Regular.normal {spec : DeploymentSpec}
    (regular : spec.Regular Time.Instant.HasShortYear) :
    spec.normal.Regular Time.Instant.Proper :=
  { regular with
    template := fun _ held => by
      obtain ⟨metadata, isMetadata, rfl⟩ := Option.map_eq_some_iff.1 held
      exact (regular.template metadata isMetadata).normal }

/-- The body with the timestamps that are read back from it. -/
def Body.normal : (kind : Kind) -> Body kind -> Body kind
  | .deployment, body => { body with spec := (DeploymentBody.spec body).map DeploymentSpec.normal }
  | _, body => body

/-- A body is written as its normal form is. -/
theorem Body.written_normal (kind : Kind) (body : Body kind) :
    Json.Member.written (members kind) (normal kind body) =
      Json.Member.written (members kind) body := by
  cases kind with
  | deployment =>
    refine Json.written_congr fun field mem => ?_
    simp only [members, DeploymentBody.members, List.mem_cons, List.not_mem_nil, or_false] at mem
    rcases mem with rfl | rfl
    · exact write_changed DeploymentSpec.write_normal (DeploymentBody.spec body)
    · rfl
  | _ => rfl

/-- The normal form of a body holds instants that are read back. -/
theorem Body.Regular.normal {kind : Kind} {body : Body kind}
    (regular : Regular Time.Instant.HasShortYear kind body) :
    Regular Time.Instant.Proper kind (normal kind body) := by
  cases kind with
  | deployment =>
    have regular : DeploymentBody.Regular Time.Instant.HasShortYear body := regular
    refine ⟨fun _ held => ?_, regular.status⟩
    obtain ⟨spec, isSpec, rfl⟩ := Option.map_eq_some_iff.1 held
    exact (regular.spec spec isSpec).normal
  | _ => exact regular

namespace Object
variable {kind : Kind} {object : Object kind}

/-- The object with the timestamps that are read back from it. -/
def normal (object : Object kind) : Object kind :=
  ⟨object.metadata.normal, Body.normal kind object.body⟩

/-- No difference is seen in what is written. -/
theorem toJson_normal (object : Object kind) : object.normal.toJson = object.toJson := by
  simp only [toJson, fields, normal, Metadata.write_normal, Body.written_normal]

/-- The normal form of an object holds instants that are read back. -/
theorem Regular.normal (regular : object.Regular Time.Instant.HasShortYear) :
    object.normal.Regular Time.Instant.Proper :=
  ⟨regular.metadata.normal, regular.body.normal⟩

end Object
end GuestFleet.Kube
