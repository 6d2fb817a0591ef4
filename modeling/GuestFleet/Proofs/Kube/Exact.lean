import GuestFleet.Kube.Object
import GuestFleet.Proofs.Json.Exact

/-!
# Objects that are read back

Metadata, services and ingresses are read back from their JSON form when their maps are in key
order and their integers fit.
-/

namespace GuestFleet.Kube

open Json (Member)
open Json.Codec (IsInt32 IsInt64 exact_instant exact_int32 exact_int64 exact_list exact_record
  exact_text exact_textMap)
open Json.Member (copies_needed copies_optional)

variable {depth : Nat}

/-! ## Metadata -/

/-- Metadata without timestamps whose maps are in key order and whose integers fit. -/
structure Metadata.Proper (metadata : Metadata) : Prop where
  annotations : ∀ entries, metadata.annotations = some entries -> Entries.Sorted entries
  labels : ∀ entries, metadata.labels = some entries -> Entries.Sorted entries
  grace : ∀ value, metadata.deletionGracePeriodSeconds = some value -> IsInt64 value
  generation : ∀ value, metadata.generation = some value -> IsInt64 value
  uncreated : metadata.creationTimestamp = none
  undeleted : metadata.deletionTimestamp = none

/-- Metadata whose maps are in key order, whose integers fit and whose timestamps are allowed. -/
structure Metadata.Regular (allowed : Time.Instant -> Prop) (metadata : Metadata) : Prop where
  annotations : ∀ entries, metadata.annotations = some entries -> Entries.Sorted entries
  labels : ∀ entries, metadata.labels = some entries -> Entries.Sorted entries
  grace : ∀ value, metadata.deletionGracePeriodSeconds = some value -> IsInt64 value
  generation : ∀ value, metadata.generation = some value -> IsInt64 value
  created : ∀ time, metadata.creationTimestamp = some time -> allowed time
  deleted : ∀ time, metadata.deletionTimestamp = some time -> allowed time

/-- Proper metadata is regular whichever instants are allowed, since it holds none. -/
theorem Metadata.Proper.regular {metadata : Metadata} (proper : metadata.Proper)
    {allowed : Time.Instant -> Prop} : metadata.Regular allowed :=
  { proper with
    created := fun _ some => by cases proper.uncreated.symm.trans some
    deleted := fun _ some => by cases proper.undeleted.symm.trans some }

/-- Metadata is read back with every instant that can be written. -/
theorem Metadata.Regular.exact {metadata : Metadata}
    (regular : metadata.Regular Time.Instant.Proper) : codec.Exact 2 metadata := by
  refine exact_record (by decide) ?_
  refine .cons (copies_optional (fun entries held => ?_) rfl) ?_
  · exact exact_textMap (regular.annotations entries held)
  refine .cons (copies_optional (fun time held => exact_instant (regular.created time held)) rfl)
    ?_
  refine .cons (copies_optional (fun value held => exact_int64 (regular.grace value held)) rfl) ?_
  refine .cons (copies_optional (fun time held => exact_instant (regular.deleted time held)) rfl)
    ?_
  refine .cons (copies_optional (fun values _ => exact_list fun value _ => exact_text value) rfl) ?_
  refine .cons (copies_optional (fun value _ => exact_text value) rfl) ?_
  refine .cons (copies_optional (fun value held => exact_int64 (regular.generation value held))
    rfl) ?_
  refine .cons (copies_optional (fun entries held => ?_) rfl) ?_
  · exact exact_textMap (regular.labels entries held)
  refine .cons (copies_optional (fun value _ => exact_text value) rfl) ?_
  refine .cons (copies_optional (fun value _ => exact_text value) rfl) ?_
  refine .cons (copies_optional (fun value _ => exact_text value) rfl) ?_
  refine .cons (copies_optional (fun value _ => exact_text value) rfl) ?_
  refine .cons (copies_optional (fun value _ => exact_text value) rfl) ?_
  exact .nil

/-! ## Services -/

/-- A port that is a name, or a number that 32 bits hold. -/
def PortRef.Fits : PortRef -> Prop
  | .number value => IsInt32 value
  | .name _ => True

/-- A port that is given by number or by name is read back. -/
theorem PortRef.exact {port : PortRef} (fits : port.Fits) : codec.Exact depth port := by
  cases port with
  | name text => exact ⟨.string text, (nomatch ·), trivial, rfl⟩
  | number value =>
    obtain ⟨low, high⟩ : IsInt32 value := fits
    have inside : (decide (-2147483648 ≤ value) && decide (value ≤ 2147483647)) = true := by
      rw [decide_eq_true low, decide_eq_true high, Bool.and_self]
    exact ⟨.integer (by omega) (by omega), (nomatch ·), trivial, if_pos inside⟩

/-- A service port whose numbers 32 bits hold. -/
structure ServicePort.Proper (port : ServicePort) : Prop where
  node : ∀ value, port.nodePort = some value -> IsInt32 value
  number : IsInt32 port.port
  target : ∀ value, port.targetPort = some value -> value.Fits

/-- A port of a service is read back. -/
theorem ServicePort.exact {port : ServicePort} (proper : port.Proper) : codec.Exact 1 port := by
  refine exact_record (by decide) ?_
  refine .cons (copies_optional (fun value _ => exact_text value) rfl) ?_
  refine .cons (copies_optional (fun value _ => exact_text value) rfl) ?_
  refine .cons (copies_optional (fun value held => exact_int32 (proper.node value held)) rfl) ?_
  refine .cons (copies_needed (exact_int32 proper.number)) ?_
  refine .cons (copies_optional (fun value _ => exact_text value) rfl) ?_
  refine .cons (copies_optional (fun value held => PortRef.exact (proper.target value held)) rfl) ?_
  exact .nil

/-- A service whose ports have proper numbers and whose selector is in key order. -/
structure ServiceSpec.Proper (spec : ServiceSpec) : Prop where
  ports : ∀ ports, spec.ports = some ports -> ∀ port ∈ ports, port.Proper
  selector : ∀ entries, spec.selector = some entries -> Entries.Sorted entries

/-- The spec of a service is read back. -/
theorem ServiceSpec.exact {spec : ServiceSpec} (proper : spec.Proper) : codec.Exact 3 spec := by
  refine exact_record (by decide) ?_
  refine .cons (copies_optional (fun value _ => exact_text value) rfl) ?_
  refine .cons (copies_optional (fun values _ => exact_list fun value _ => exact_text value) rfl) ?_
  refine .cons (copies_optional (fun value _ => exact_text value) rfl) ?_
  refine .cons (copies_optional (fun ports held => ?_) rfl) ?_
  · exact exact_list fun port mem => ServicePort.exact (proper.ports ports held port mem)
  refine .cons (copies_optional (fun entries held => ?_) rfl) ?_
  · exact exact_textMap (proper.selector entries held)
  refine .cons (copies_optional (fun value _ => exact_text value) rfl) ?_
  refine .cons (copies_optional (fun value _ => exact_text value) rfl) ?_
  exact .nil

/-- What a service consists of is read back member by member. -/
theorem ServiceBody.restores {body : ServiceBody}
    (proper : ∀ spec, body.spec = some spec -> spec.Proper) :
    Member.Restores 3 body ServiceBody.members {} :=
  .cons (copies_optional (fun spec held => ServiceSpec.exact (proper spec held)) rfl) .nil

/-! ## Ingresses -/

/-- A backend whose port number 32 bits hold, if it has one. -/
def Backend.Proper (backend : Backend) : Prop :=
  ∀ service, backend.service = some service -> ∀ port, service.port = some port ->
    ∀ value, port.number = some value -> IsInt32 value

/-- What an ingress hands requests to is read back. -/
theorem Backend.exact {backend : Backend} (proper : backend.Proper) : codec.Exact 3 backend := by
  refine exact_record (by decide) (.cons (copies_optional (fun service isService => ?_) rfl) .nil)
  refine exact_record (by decide) (.cons (copies_needed (exact_text _)) ?_)
  refine .cons (copies_optional (fun port isPort => ?_) rfl) .nil
  refine exact_record (by decide) (.cons (copies_optional (fun value held => ?_) rfl) .nil)
  exact exact_int32 (proper service isService port isPort value held)

/-- A path of an ingress is read back. -/
theorem IngressPath.exact {path : IngressPath} (proper : path.backend.Proper) :
    codec.Exact 4 path := by
  refine exact_record (by decide) (.cons (copies_needed (Backend.exact proper)) ?_)
  refine .cons (copies_optional (fun value _ => exact_text value) rfl) ?_
  exact .cons (copies_needed (exact_text _)) .nil

/-- A rule of an ingress is read back. -/
theorem IngressRule.exact {rule : IngressRule}
    (proper : ∀ http, rule.http = some http -> ∀ path ∈ http.paths, path.backend.Proper) :
    codec.Exact 7 rule := by
  refine exact_record (by decide) (.cons (copies_optional (fun value _ => exact_text value) rfl) ?_)
  refine .cons (copies_optional (fun http held => ?_) rfl) .nil
  refine exact_record (by decide) (.cons (copies_needed ?_) .nil)
  exact exact_list fun path mem => IngressPath.exact (proper http held path mem)

/-- The certificate of an ingress is read back. -/
theorem IngressTls.exact (tls : IngressTls) : codec.Exact 2 tls := by
  refine exact_record (by decide) (.cons (copies_optional (fun values _ => ?_) rfl) ?_)
  · exact exact_list fun value _ => exact_text value
  · exact .cons (copies_optional (fun value _ => exact_text value) rfl) .nil

/-- An ingress whose backends have proper port numbers. -/
def IngressSpec.Proper (spec : IngressSpec) : Prop :=
  ∀ rules, spec.rules = some rules -> ∀ rule ∈ rules, ∀ http, rule.http = some http ->
    ∀ path ∈ http.paths, path.backend.Proper

/-- The spec of an ingress is read back. -/
theorem IngressSpec.exact {spec : IngressSpec} (proper : spec.Proper) : codec.Exact 9 spec := by
  refine exact_record (by decide) (.cons (copies_optional (fun value _ => exact_text value) rfl) ?_)
  refine .cons (copies_optional (fun rules held => ?_) rfl) ?_
  · exact exact_list fun rule mem => IngressRule.exact (proper rules held rule mem)
  refine .cons (copies_optional (fun entries _ => ?_) rfl) .nil
  exact exact_list fun entry _ => (IngressTls.exact entry).mono (by decide)

/-- An address of a balancer is read back. -/
theorem BalancerAddress.exact (address : BalancerAddress) : codec.Exact 1 address :=
  exact_record (by decide) (.cons (copies_optional (fun value _ => exact_text value) rfl) .nil)

/-- A balancer is read back. -/
theorem Balancer.exact (balancer : Balancer) : codec.Exact 3 balancer :=
  exact_record (by decide)
    (.cons (copies_optional (fun _ _ => exact_list fun address _ => address.exact) rfl) .nil)

/-- The status of an ingress is read back. -/
theorem IngressStatus.exact (status : IngressStatus) : codec.Exact 4 status :=
  exact_record (by decide) (.cons (copies_optional (fun balancer _ => balancer.exact) rfl) .nil)

/-- What an ingress consists of is read back member by member. -/
theorem IngressBody.restores {body : IngressBody}
    (proper : ∀ spec, body.spec = some spec -> spec.Proper) :
    Member.Restores 9 body IngressBody.members {} := by
  refine .cons (copies_optional (fun spec held => IngressSpec.exact (proper spec held)) rfl) ?_
  exact .cons (copies_optional (fun status _ => status.exact.mono (by decide)) rfl) .nil

/-! ## Objects -/

section

variable {σ : Type} {read : σ -> String × Json -> Json.Read σ} {change : σ -> σ} {key : String}
  {value : Json}

/-- A change that the reading of members leaves alone may be made before it or after it. -/
theorem foldlM_change {members : Json.Members}
    (apart : ∀ entry ∈ members, ∀ record,
      read (change record) entry = (read record entry).map change) (record : σ) :
    members.foldlM read (change record) = (members.foldlM read record).map change := by
  induction members generalizing record with
  | nil => rfl
  | cons entry members ih =>
    rw [List.forall_mem_cons] at apart
    rw [List.foldlM_cons, List.foldlM_cons, apart.1]
    cases read record entry with
    | error fault => rfl
    | ok after => exact ih apart.2 after

/-- A member whose reading makes such a change may stand anywhere. -/
theorem foldlM_insert (own : ∀ record, read record (key, value) = .ok (change record))
    {members : Json.Members} (fresh : key ∉ members.map Prod.fst)
    (apart : ∀ entry ∈ members, ∀ record,
      read (change record) entry = (read record entry).map change) (record : σ) :
    (Json.Members.insert key value members).foldlM read record =
      (members.foldlM read record).map change := by
  induction members generalizing record with
  | nil =>
    rw [Json.Members.insert, List.foldlM_cons, own]
    rfl
  | cons entry members ih =>
    obtain ⟨k, v⟩ := entry
    rw [List.map_cons, List.mem_cons, not_or] at fresh
    rw [Json.Members.insert, if_neg fresh.1]
    split_ifs
    · rw [List.foldlM_cons, own]
      exact foldlM_change apart record
    · rw [List.forall_mem_cons] at apart
      rw [List.foldlM_cons, List.foldlM_cons]
      cases read record (k, v) with
      | error fault => rfl
      | ok after => exact ih fresh.2 apart.2 after

end

namespace Object

variable {kind : Kind} {object : Object kind}

/-- Takes up a member with its key. -/
abbrev takeMember (object : Object kind) (entry : String × Json) : Json.Read (Object kind) :=
  object.readMember entry.1 entry.2

/-- A member of a body is taken up by the body. -/
theorem takeMember_body {entry : String × Json} {body : Body kind}
    (mem : entry ∈ Member.written (Body.members kind) body) (object : Object kind) :
    object.takeMember entry =
      (Member.take (Body.members kind) object.body entry.1 entry.2).map
        fun body => { object with body := body } := by
  obtain ⟨version, isKind, metadata⟩ := keys_written_body body (List.mem_map_of_mem mem)
  rw [takeMember, readMember]
  · exact version
  · exact isKind
  · exact metadata

/-- The members of a body are taken up one by one. -/
theorem foldlM_body (metadata : Metadata) {members : Json.Members} {body : Body kind}
    (within : members ⊆ Member.written (Body.members kind) body) (before : Body kind) :
    members.foldlM takeMember ⟨metadata, before⟩ =
      (members.foldlM (fun body entry => Member.take (Body.members kind) body entry.1 entry.2)
        before).map fun body => ⟨metadata, body⟩ := by
  induction members generalizing before with
  | nil => rfl
  | cons entry members ih =>
    rw [List.cons_subset] at within
    rw [List.foldlM_cons, List.foldlM_cons, takeMember_body within.1]
    cases Member.take (Body.members kind) before entry.1 entry.2 with
    | error fault => rfl
    | ok after => exact ih within.2 after

section

variable {depth : Nat} (regular : object.metadata.Regular Time.Instant.Proper)
  (restores : Member.Restores depth object.body (Body.members kind) (Body.empty kind))

include regular restores

/-- The metadata, wherever it stands among the members of the body, is taken up with them. -/
theorem foldlM_fields : object.fields.foldlM takeMember default = .ok object := by
  let written := Member.written (Body.members kind) object.body
  have own (record : Object kind) : record.takeMember
      ("metadata", Metadata.codec.write object.metadata) =
        .ok { record with metadata := object.metadata } := by
    have read : Json.readOr {} Metadata.codec.read (Metadata.codec.write object.metadata) =
        .ok object.metadata := regular.exact.read
    show (Json.readOr {} Metadata.codec.read (Metadata.codec.write object.metadata)).map _ = _
    rw [read]
    rfl
  have fresh : "metadata" ∉ written.map Prod.fst :=
    fun mem => (keys_written_body object.body mem).2.2 rfl
  have apart : ∀ entry ∈ written, ∀ record : Object kind,
      takeMember { record with metadata := object.metadata } entry =
        (record.takeMember entry).map fun record =>
          { record with metadata := object.metadata } := by
    intro entry mem record
    rw [takeMember_body mem, takeMember_body mem]
    cases Member.take (Body.members kind) record.body entry.1 entry.2 <;> rfl
  have restored := restores.read ((sorted_keys kind).imp ne_of_lt) (List.Subset.refl _)
  have empty : (default : Object kind) = ⟨{}, Body.empty kind⟩ := rfl
  refine (foldlM_insert own fresh apart default).trans ?_
  rw [empty, foldlM_body {} (List.Subset.refl _), restored]
  rfl

/-- An object is read back when its metadata and its body are. -/
theorem read_toJson : Object.read kind object.toJson = .ok object := by
  have exactly (text : String) : readExactly text (.string text) = .ok () := if_pos rfl
  have same (result : Json.Read (Object kind)) : result = result.map id := by
    cases result <;> rfl
  have ownKind (record : Object kind) :
      record.takeMember ("kind", .string kind.name) = .ok record := by
    show (readExactly kind.name (.string kind.name)).map _ = _
    rw [exactly]
    rfl
  have ownVersion (record : Object kind) :
      record.takeMember ("apiVersion", .string kind.apiVersion) = .ok record := by
    show (readExactly kind.apiVersion (.string kind.apiVersion)).map _ = _
    rw [exactly]
    rfl
  have freshVersion : "apiVersion" ∉ (Json.Members.insert "kind" (.string kind.name)
      object.fields).map Prod.fst := by
    intro mem
    rcases Json.Members.mem_keys_insert mem with same | mem
    · exact absurd same (by decide)
    · exact object.fresh_fields (.inl rfl) mem
  have fields := foldlM_fields regular restores
  have typed := foldlM_insert ownKind (object.fresh_fields (.inr rfl)) (fun _ _ _ => same _) default
  have versioned := foldlM_insert ownVersion freshVersion (fun _ _ _ => same _) default
  rw [fields] at typed
  rw [typed] at versioned
  exact versioned

end

/-- The JSON form of an object is read from its text, when its members can be read from theirs. -/
theorem parse_text {depth : Nat} (printable : ∀ entry ∈ object.fields, Json.Printable depth entry.2)
    (allowed : depth < 127) : Json.parse object.text = .ok object.toJson := by
  have within : ∀ entry ∈ ("apiVersion", Json.string kind.apiVersion) ::
      ("kind", Json.string kind.name) :: object.fields, Json.Printable depth entry.2 := by
    rw [List.forall_mem_cons, List.forall_mem_cons]
    exact ⟨.string kind.apiVersion, .string kind.name, printable⟩
  have read := Json.parse_text_object within allowed
  have unrepeated : "apiVersion" ∉ (("kind", Json.string kind.name) :: object.fields).map
      Prod.fst := by
    rw [List.map_cons, List.mem_cons, not_or]
    have ne : "apiVersion" ≠ "kind" := by decide
    exact ⟨ne, object.fresh_fields (.inl rfl)⟩
  rw [Json.ofMembers, Json.Members.ofList_cons unrepeated,
    Json.Members.ofList_cons (object.fresh_fields (.inr rfl)),
    Json.Members.ofList_sorted object.sorted_fields] at read
  exact read

/-- An object that is read back from its JSON form, and its JSON form from its text. -/
structure Exact (object : Object kind) : Prop where
  settable : Json.Members.Settable 126 object.toJson.membersOf
  read : Object.read kind object.toJson = .ok object
  parse : Json.parse object.text = .ok object.toJson

/-- An object is read back when its metadata is and its body can be restored. -/
theorem exact_of {depth : Nat} (regular : object.metadata.Regular Time.Instant.Proper)
    (restores : Member.Restores depth object.body (Body.members kind) (Body.empty kind))
    (deep : 2 ≤ depth) (allowed : depth < 127) : object.Exact := by
  have metadata := regular.exact.mono deep
  have fields : ∀ entry ∈ object.fields,
      Json.Printable depth entry.2 ∧ entry.2 ≠ .null ∧ Json.NullFree entry.2 :=
    Json.Members.forall_insert ⟨metadata.printable, metadata.present, metadata.nullFree⟩
      restores.values
  have text (key value : String) : Json.Printable depth (key, Json.string value).2 ∧
      (key, Json.string value).2 ≠ .null ∧ Json.NullFree (key, Json.string value).2 :=
    ⟨.string value, (nomatch ·), trivial⟩
  have all : ∀ entry ∈ object.toJson.membersOf,
      Json.Printable depth entry.2 ∧ entry.2 ≠ .null ∧ Json.NullFree entry.2 :=
    Json.Members.forall_insert (text "apiVersion" kind.apiVersion)
      (Json.Members.forall_insert (text "kind" kind.name) fields)
  refine ⟨⟨object.sorted_toJson, ?printable, ?nullFree⟩, read_toJson regular restores, ?parse⟩
  case printable =>
    exact fun entry mem => (all entry mem).1.mono (Nat.le_of_lt_succ allowed)
  case nullFree =>
    exact Json.nullFreeMembers_iff.2 fun entry mem => (all entry mem).2
  case parse =>
    exact parse_text (fun entry mem => (fields entry mem).1) allowed

end Object

end GuestFleet.Kube
