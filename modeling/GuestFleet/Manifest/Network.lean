import GuestFleet.Manifest.Blueprint

/-!
# Ingresses and services

How a guest cluster is reached: ingresses for its API and its etcd in front of the
service of its masters, and a service for its workers.
-/

namespace GuestFleet.Blueprint

open Kube (Object ServicePort StringMap)

/-- The port of the guest API. -/
def apiPort : Int := 443

/-- The port of the guest etcd. -/
def etcdPort : Int := 2379

/-- The annotation that hands encrypted traffic through. -/
def passthroughAnnotations : StringMap :=
  [("nginx.ingress.kubernetes.io/ssl-passthrough", "true")]

/-- An ingress for a host in front of a port of the masters. -/
def ingress (b : Blueprint) (name host : String) (port : Int) : Object .ingress :=
  ⟨{ b.namespaced name (b.cluster.labels Role.master.name) with
      annotations := some passthroughAnnotations },
    { spec := some
        { tls := some [{ hosts := some [host] }]
          rules := some
            [{ host := some host
               http := some
                { paths :=
                    [{ path := some "/"
                       pathType := "Prefix"
                       backend :=
                        { service := some
                            { name := Role.master.name
                              port := some { number := some port } } } }] } }] } }⟩

/-- The ingresses of etcd and of the API. -/
def ingresses (b : Blueprint) : List (Object .ingress) :=
  [b.ingress "etcd" b.etcdDomain etcdPort, b.ingress "api" b.apiDomain apiPort]

/-- A port of a service and the port of the pods behind it. -/
def servicePort (name : String) (port target : Int) : ServicePort :=
  { name := some name, port := port, targetPort := some (.number target), protocol := some "TCP" }

/-- The labels of the pods of a role. -/
def podSelector (b : Blueprint) (role : Role) : StringMap :=
  [(appLabel, role.name), (clusterLabel, b.cluster.id)]

/-- A service in front of the pods of a role. -/
def service (b : Blueprint) (role : Role) (type : String) (ports : List ServicePort) :
    Object .service :=
  ⟨b.namespaced role.name (b.cluster.labels role.name),
    { spec := some
        { type := some type
          selector := some (b.podSelector role)
          ports := some ports } }⟩

/-- The services of the masters and of the workers. -/
def services (b : Blueprint) : List (Object .service) :=
  [b.service .master "ClusterIP"
      [servicePort "api" apiPort apiPort, servicePort "etcd" etcdPort etcdPort],
    b.service .worker "NodePort"
      [servicePort "http" 80 30010, servicePort "https" 443 30011]]

end GuestFleet.Blueprint
