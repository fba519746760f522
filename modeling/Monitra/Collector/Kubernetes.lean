import Monitra.Library.Json
import Monitra.Engine.Scheduler

/-!
# The Kubernetes collector (`crates/collector-kubernetes/src/client.rs`, `lib.rs`)

A client of one API server, and what a poll makes of the server's answers. `reqwest`, with the network and the server behind it,
is an argument: what it gets for a GET of a URL with a bearer token.
-/

namespace Monitra

/-- The status of a response: its code, and how it is displayed. -/
structure ResponseStatus where
  code : UInt16
  display : String
  deriving DecidableEq, Repr

def ResponseStatus.isSuccess (status : ResponseStatus) : Bool := 200 ≤ status.code && status.code < 300

/-- What a GET comes to: no response, or one with its status and its body, as text (empty when it cannot be read) and as JSON. -/
inductive GetAnswer where
  | failed (source : String)
  | response (status : ResponseStatus) (text : String) (json : Except String Json)

/-- The errors of `CollectorKubernetesError` that a poll can give. -/
inductive CollectorKubernetesError where
  | request (url source : String)
  | unexpectedStatus (url : String) (status : ResponseStatus) (body : String)
  deriving DecidableEq, Repr

def CollectorKubernetesError.text : CollectorKubernetesError → String
  | .request url source => "collector-kubernetes: request to " ++ url ++ " failed: " ++ source
  | .unexpectedStatus url status body =>
    "collector-kubernetes: " ++ url ++ " returned unexpected status " ++ status.display ++ ": " ++ body

inductive ResourceHealth where
  | healthy
  | unhealthy (reason : String)
  deriving DecidableEq, Repr

structure K8sApiClient where
  /-- What a GET of a URL with a bearer token comes to. -/
  http : String → String → GetAnswer
  server : String
  token : String

def notFound (path : String) : ResourceHealth := .unhealthy (path ++ " not found")

namespace K8sApiClient

/-- None on a confirmed 404. -/
def get (client : K8sApiClient) (path : String) : Except CollectorKubernetesError (Option Json) :=
  let url := client.server ++ path
  match client.http url client.token with
  | .failed source => .error (.request url source)
  | .response status text json =>
    if status.code = 404 then .ok none
    else if !status.isSuccess then .error (.unexpectedStatus url status text)
    else
      match json with
      | .ok body => .ok (some body)
      | .error source => .error (.request url source)

def replicaHealth (client : K8sApiClient) (path : String) : Except CollectorKubernetesError ResourceHealth := do
  match ← client.get path with
  | none => return notFound path
  | some body =>
    let desired := (((body.index "spec").index "replicas").asI64).getD 0
    let ready := (((body.index "status").index "readyReplicas").asI64).getD 0
    if desired ≤ ready then return .healthy
    else return .unhealthy (toString ready ++ "/" ++ toString desired ++ " replicas ready")

def deploymentPath (ns name : String) : String := "/apis/apps/v1/namespaces/" ++ ns ++ "/deployments/" ++ name

def statefulSetPath (ns name : String) : String := "/apis/apps/v1/namespaces/" ++ ns ++ "/statefulsets/" ++ name

def servicePath (ns name : String) : String := "/api/v1/namespaces/" ++ ns ++ "/services/" ++ name

def endpointsPath (ns name : String) : String := "/api/v1/namespaces/" ++ ns ++ "/endpoints/" ++ name

def deploymentHealth (client : K8sApiClient) (ns name : String) : Except CollectorKubernetesError ResourceHealth :=
  client.replicaHealth (deploymentPath ns name)

def statefulSetHealth (client : K8sApiClient) (ns name : String) : Except CollectorKubernetesError ResourceHealth :=
  client.replicaHealth (statefulSetPath ns name)

/-- Whether a service has a ready address, from its endpoints. -/
def hasReadyAddress (endpoints : Json) : Bool :=
  (((endpoints.index "subsets").asArray).map fun subsets =>
    subsets.any fun subset => ((subset.index "addresses").asArray).any fun addrs => !addrs.isEmpty).getD false

def serviceHealth (client : K8sApiClient) (ns name : String) : Except CollectorKubernetesError ResourceHealth := do
  match ← client.get (servicePath ns name) with
  | none => return notFound (servicePath ns name)
  | some _ =>
    match ← client.get (endpointsPath ns name) with
    | none => return notFound (endpointsPath ns name)
    | some endpoints =>
      if hasReadyAddress endpoints then return .healthy
      else return .unhealthy "service has no ready endpoint addresses"

end K8sApiClient

/-- The `Debug` text of a kind. -/
def MonitorKind.debug : MonitorKind → String
  | .http => "Http"
  | .tcp => "Tcp"
  | .icmp => "Icmp"
  | .k8sDeployment => "K8sDeployment"
  | .k8sStatefulSet => "K8sStatefulSet"
  | .k8sService => "K8sService"
  | .hostAgentCheck => "HostAgentCheck"

/-- Poll the resource through the client of its cluster. -/
def K8sCollector.poll (collector : K8sCollector) (client : K8sApiClient) : Except ProviderError CollectorStatus :=
  let report (health : Except CollectorKubernetesError ResourceHealth) : Except ProviderError CollectorStatus :=
    match health with
    | .ok .healthy => .ok .healthy
    | .ok (.unhealthy reason) => .ok (.unhealthy reason)
    | .error source => .error (.unavailable .collector source.text)
  match collector.kind with
  | .k8sDeployment => report (client.deploymentHealth collector.ns collector.name)
  | .k8sStatefulSet => report (client.statefulSetHealth collector.ns collector.name)
  | .k8sService => report (client.serviceHealth collector.ns collector.name)
  | other => .error (.operation .collector ("collector-kubernetes: not a Kubernetes MonitorKind: " ++ other.debug))

/-- `poll_collector_safely` (`crates/provider/src/policy.rs`): a poll that fails makes the resource unknown. -/
def pollCollectorSafely (collector : K8sCollector) (client : K8sApiClient) : CollectorStatus :=
  match collector.poll client with
  | .ok status => status
  | .error error => .unknown error.text

end Monitra
