import GuestFleet.Digest.Sha256
import GuestFleet.Manifest.Blueprint
import GuestFleet.Yaml.Document

/-!
# Cloud configs

What a node's virtual machine is told when it starts: its host name, the file with the
names of its cluster, and the service to run. It is kept in a config map for each node,
and the checksum of that config map tells when a node has to be rolled.
-/

namespace GuestFleet

open Kube (Object StringMap)

/-- The key of the cloud config in a config map. -/
def userDataKey : String := "user_data"

/-- The bytes that a checksum is taken of: every key and every text, each with a zero
after it. -/
def checksumInput (data : StringMap) : List UInt8 :=
  data.flatMap fun entry =>
    entry.1.toUTF8.toList ++ 0 :: (entry.2.toUTF8.toList ++ [0])

/-- The checksum of a config map's data. -/
def checksum (data : StringMap) : String := Digest.hex (Digest.sha256 (checksumInput data))

namespace Blueprint

/-- The names that a node gets to know. -/
def environment (b : Blueprint) (role : Role) (node : Node) : List (String × String) :=
  [("CLUSTER_ID", b.cluster.id), ("CUSTOMER_ID", b.cluster.topology.customerId),
    ("NODE_ID", node.id), ("ROLE", role.name), ("API_DOMAIN", b.apiDomain),
    ("ETCD_DOMAIN", b.etcdDomain)]

/-- Names and values with an equals sign between them, a line for each. -/
def environmentText (entries : List (String × String)) : String :=
  String.join (entries.map fun (name, value) => name ++ "=" ++ value ++ "\n")

/-- The file with the names, which the node's services read. -/
def environmentFile (b : Blueprint) (role : Role) (node : Node) : Yaml.Node :=
  .map [("path", .text "/etc/kubernetes/cluster.env"), ("permissions", .text "0644"),
    ("content", .text (environmentText (b.environment role node)))]

/-- The cloud config of a node as a document. -/
def cloudConfigEntries (b : Blueprint) (role : Role) (node : Node) :
    List (String × Yaml.Node) :=
  [("hostname", .text (nodeName role b.cluster.id node.id)),
    ("write_files", .list [b.environmentFile role node]),
    ("runcmd", .list [.text ("systemctl enable --now k8s-" ++ role.name ++ ".service")])]

/-- The cloud config of a node. -/
def cloudConfig (b : Blueprint) (role : Role) (node : Node) : String :=
  "#cloud-config\n" ++ Yaml.document (b.cloudConfigEntries role node)

/-- The data of a node's config map. -/
def configData (b : Blueprint) (role : Role) (node : Node) : StringMap :=
  [(userDataKey, b.cloudConfig role node)]

/-- The config map of a node. -/
def configMap (b : Blueprint) (role : Role) (node : Node) : Object .configMap :=
  ⟨b.namespaced (nodeName role b.cluster.id node.id) (b.cluster.nodeLabels role node),
    { data := some (b.configData role node) }⟩

/-- The config maps of all nodes, masters first. -/
def configMaps (b : Blueprint) : List (Object .configMap) :=
  b.cluster.nodes.map fun (role, node) => b.configMap role node

end Blueprint

end GuestFleet
