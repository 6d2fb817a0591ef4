import GuestFleet.Proofs.Cluster.Desired
import GuestFleet.Proofs.Manifest.Environment

/-!
# Environment files

The file that tells a node whose it is has a line for each entry, with the value written as it is.
Such a file is read back if, and only if, no value holds a line break. Ids of valid clusters hold
none, but the customer and the domain may, and then the file tells something else.
-/

namespace GuestFleet

/-! ## Reading -/

/-- The lines of a text. A break after the last one is not needed. -/
def linesOf (text : List Char) : List (List Char) :=
  let parts := text.splitOn '\n'
  if parts.getLast? = some [] then parts.dropLast else parts

/-- The entry of a line: what stands before and after its first equals sign. -/
def entryOf (line : List Char) : Option (String × String) :=
  match line.dropWhile (· != '=') with
  | [] => none
  | _ :: value => some (String.ofList (line.takeWhile (· != '=')), String.ofList value)

/-- The entries of an environment file, unless a line has no equals sign. -/
def entriesOf (text : String) : Option (List (String × String)) :=
  (linesOf text.toList).mapM entryOf

/-- A line ends with its break, and the lines behind it are those of the rest. -/
theorem linesOf_break {line : List Char} (inLine : '\n' ∉ line) (rest : List Char) :
    linesOf (line ++ '\n' :: rest) = line :: linesOf rest := by
  have parted : rest.splitOn '\n' ≠ [] := List.splitOn_ne_nil '\n' rest
  have ends : (line :: rest.splitOn '\n').getLast? = (rest.splitOn '\n').getLast? := by
    rw [List.getLast?_cons, List.getLast?_eq_some_getLast parted, Option.getD_some]
  simp only [linesOf, List.splitOn_append_cons_self_of_not_mem inLine, ends,
    List.dropLast_cons_of_ne_nil parted]
  split_ifs
  · rfl
  · rfl

/-- An entry ends its name at the first equals sign, and its value may hold more of them. -/
theorem entryOf_mark {name : String} (unmarked : '=' ∉ name.toList) (value : List Char) :
    entryOf (name.toList ++ '=' :: value) = some (name, String.ofList value) := by
  rw [entryOf, Text.dropWhile_mark unmarked, Text.takeWhile_mark unmarked, String.ofList_toList]

/-- Names that stand in a line of their own before an equals sign are read back. -/
def IsEntryName (name : String) : Prop := '=' ∉ name.toList ∧ '\n' ∉ name.toList

instance (name : String) : Decidable (IsEntryName name) := inferInstanceAs (Decidable (_ ∧ _))

namespace Blueprint

/-- The line of an entry ends with the first break in its value. -/
theorem entriesOf_cons {name : String} (isName : IsEntryName name) {value : List Char}
    (inValue : '\n' ∉ value) (rest : List Char) :
    (linesOf (entryStart name ++ (value ++ '\n' :: rest))).mapM entryOf =
      (((linesOf rest).mapM entryOf).map ((name, String.ofList value) :: ·)) := by
  have inLine : '\n' ∉ name.toList ++ '=' :: value := by
    rw [List.mem_append, List.mem_cons]
    rintro (mem | isMark | mem)
    · exact isName.2 mem
    · exact absurd isMark (by decide)
    · exact inValue mem
  have line : entryStart name ++ (value ++ '\n' :: rest) =
      (name.toList ++ '=' :: value) ++ '\n' :: rest := by
    simp only [entryStart, List.append_assoc, List.cons_append, List.nil_append]
  rw [line, linesOf_break inLine, List.mapM_cons, entryOf_mark isName.1]
  cases (linesOf rest).mapM entryOf <;> rfl

/-- Entries are read back if, and only if, no value holds a line break. -/
theorem entriesOf_environmentText {entries : List (String × String)}
    (named : ∀ entry ∈ entries, IsEntryName entry.1) :
    entriesOf (environmentText entries) = some entries <->
      ∀ entry ∈ entries, '\n' ∉ entry.2.toList := by
  rw [entriesOf, toList_environmentText]
  induction entries with
  | nil => exact iff_of_true rfl fun _ mem => absurd mem List.not_mem_nil
  | cons entry rest ih =>
    obtain ⟨name, value⟩ := entry
    obtain ⟨isName, others⟩ := List.forall_mem_cons.1 named
    have head : (((name, value) :: rest).flatMap entryChars) =
        entryStart name ++ (value.toList ++ '\n' :: rest.flatMap entryChars) := by
      simp only [List.flatMap_cons, entryChars, List.append_assoc, List.cons_append,
        List.nil_append]
    rw [head, List.forall_mem_cons]
    by_cases broken : '\n' ∈ value.toList
    · -- The line of the entry ends within the value, so that a part of it is read for the whole.
      refine iff_of_false ?_ fun unbroken => unbroken.1 broken
      obtain ⟨before, after, parts, inBefore⟩ := List.eq_append_cons_of_mem broken
      rw [parts, List.append_assoc, List.cons_append, entriesOf_cons isName inBefore]
      intro same
      obtain ⟨read, -, isEntry⟩ := Option.map_eq_some_iff.1 same
      have sameValue : String.ofList before = value := (Prod.mk.inj (List.cons.inj isEntry).1).2
      have lengths := congrArg List.length parts
      rw [← sameValue, String.toList_ofList, List.length_append, List.length_cons] at lengths
      omega
    · rw [entriesOf_cons isName broken, String.ofList_toList, and_iff_right broken,
        ← ih others, Option.map_eq_some_iff]
      simp

/-! ## Files of nodes -/

/-- The content that a file of a cloud config has if it is at the path. -/
def contentAt (path : String) : Yaml.Node -> Option String
  | .map members =>
    match members.lookup "path", members.lookup "content" with
    | some (.text place), some (.text content) => if place = path then some content else none
    | _, _ => none
  | _ => none

/-- The content that a node is told to write to a path. -/
def writtenTo (b : Blueprint) (role : Role) (node : Node) (path : String) : Option String :=
  match (b.cloudConfigEntries role node).lookup "write_files" with
  | some (.list files) => files.findSome? (contentAt path)
  | _ => none

variable {b : Blueprint} {role : Role} {node : Node}

/-- All names in an environment are such names. -/
theorem named_environment : ∀ entry ∈ b.environment role node, IsEntryName entry.1 := by
  have names : ∀ name ∈ ["CLUSTER_ID", "CUSTOMER_ID", "NODE_ID", "ROLE", "API_DOMAIN",
      "ETCD_DOMAIN"], IsEntryName name := by decide
  intro entry mem
  exact names _ (List.mem_map_of_mem mem)

/-- Of all the values in an environment only the customer and the domain can hold line breaks. -/
theorem breaks_environment (valid : b.cluster.isValid = true) (mem : (role, node) ∈ b.cluster.nodes) :
    (∀ entry ∈ b.environment role node, '\n' ∉ entry.2.toList) <->
      '\n' ∉ b.cluster.topology.customerId.toList ∧ '\n' ∉ b.ingressDomain.toList := by
  have inId : '\n' ∉ b.cluster.id.toList := break_notMem (Cluster.id_of_valid valid).1
  have inNode : '\n' ∉ node.id.toList := break_notMem (Cluster.node_of_valid valid mem)
  have inRole : '\n' ∉ role.name.toList := by cases role <;> decide
  have inApi : '\n' ∉ (b.cluster.apiDomain "").toList :=
    break_notMem_domain (by decide) (Cluster.id_of_valid valid).1
  have inEtcd : '\n' ∉ (b.cluster.etcdDomain "").toList :=
    break_notMem_domain (by decide) (Cluster.id_of_valid valid).1
  simp only [environment, List.forall_mem_cons, apiDomain, etcdDomain,
    b.toList_apiDomain b.ingressDomain, b.toList_etcdDomain b.ingressDomain, List.mem_append,
    inId, inNode, inRole, inApi, inEtcd]
  simp

/-- The path of the file that tells a node its environment. -/
def environmentPath : String := "/etc/kubernetes/cluster.env"

/-- A node of a valid cluster is told to write a file. Its lines, cut at their first equals signs,
are the six entries with just the values of the cluster and the settings if, and only if, neither
the customer nor the domain holds a line break. -/
theorem make_tells_environment {cluster : Cluster} (valid : cluster.isValid = true)
    (settings : ManifestSettings) {role : Role} {node : Node} (mem : (role, node) ∈ cluster.nodes) :
    let domain := cluster.topology.ingressDomain.getD settings.ingressDomain
    ∃ b content, make cluster settings = .ok b ∧
      b.writtenTo role node environmentPath = some content ∧
      (entriesOf content = some
          [("CLUSTER_ID", cluster.topology.id), ("CUSTOMER_ID", cluster.topology.customerId),
            ("NODE_ID", node.id), ("ROLE", role.name),
            ("API_DOMAIN", "api." ++ cluster.topology.id ++ "." ++ domain),
            ("ETCD_DOMAIN", "etcd." ++ cluster.topology.id ++ "." ++ domain)] <->
        '\n' ∉ cluster.topology.customerId.toList ∧ '\n' ∉ domain.toList) := by
  intro domain
  let b : Blueprint := ⟨cluster, settings⟩
  refine ⟨b, environmentText (b.environment role node), make_of_valid valid settings, rfl, ?_⟩
  have named : ∀ entry ∈ b.environment role node, IsEntryName entry.1 := named_environment
  have readBack := entriesOf_environmentText named
  exact readBack.trans (b.breaks_environment valid mem)

/-- The small cluster under a customer whose id goes on with a line of its own. -/
def forgedCluster : Cluster :=
  { smallCluster "al9qy" with
    topology := { (smallCluster "al9qy").topology with customerId := "acme\nROLE=worker" } }

/-- What the master of the forged cluster reads is not what the cluster says. -/
theorem make_tells_environment_forged :
    (forgedCluster.isValid = true ∧ (.master, ⟨"m1", 2, "2G", "20G"⟩) ∈ forgedCluster.nodes) ∧
    ∃ b content, make forgedCluster {} = .ok b ∧
      b.writtenTo .master ⟨"m1", 2, "2G", "20G"⟩ environmentPath = some content ∧
      entriesOf content ≠ some
        [("CLUSTER_ID", "al9qy"), ("CUSTOMER_ID", "acme\nROLE=worker"), ("NODE_ID", "m1"),
          ("ROLE", "master"), ("API_DOMAIN", "api.al9qy.k8s.local"),
          ("ETCD_DOMAIN", "etcd.al9qy.k8s.local")] := by
  have valid : forgedCluster.isValid = true := by decide
  have mem : (.master, ⟨"m1", 2, "2G", "20G"⟩) ∈ forgedCluster.nodes := by decide
  have broken : '\n' ∈ forgedCluster.topology.customerId.toList := by decide
  obtain ⟨b, content, made, written, told⟩ := make_tells_environment valid {} mem
  exact ⟨⟨valid, mem⟩, b, content, made, written, fun same => (told.1 same).1 broken⟩

/-- The master reads of two roles, the first of which is not its own. -/
example : entriesOf (environmentText
      ((Blueprint.mk forgedCluster {}).environment .master ⟨"m1", 2, "2G", "20G"⟩)) = some
    [("CLUSTER_ID", "al9qy"), ("CUSTOMER_ID", "acme"), ("ROLE", "worker"), ("NODE_ID", "m1"),
      ("ROLE", "master"), ("API_DOMAIN", "api.al9qy.k8s.local"),
      ("ETCD_DOMAIN", "etcd.al9qy.k8s.local")] := by
  decide +kernel

end Blueprint

end GuestFleet
