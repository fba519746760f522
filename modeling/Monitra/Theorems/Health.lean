import Monitra.Collector.Kubernetes
import Monitra.Theorems.Down

/-!
# Health and evidence

What a body must say for a resource to be healthy, against what the collector takes for it. A number that is not there, or is not
one, is read as 0, and 0 desired replicas are always ready.
-/

namespace Monitra

/-! ## What a body says -/

/-- The `spec.replicas` of a body, if it is an integer. -/
def specReplicas? (body : Json) : Option Int := ((body.get? "spec").bind (·.get? "replicas")).bind Json.integer?

/-- The `status.readyReplicas` of a body: 0 when it is absent, and none when it or the status is something else. -/
def statusReadyReplicas? (body : Json) : Option Int :=
  match body.get? "status" with
  | none => some 0
  | some (.obj fields) =>
    match (Json.obj fields).get? "readyReplicas" with
    | none => some 0
    | some ready => ready.integer?
  | some _ => none

/-- The body says that the replicas are ready: the desired ones and the ready ones are integers, and enough are ready. -/
def ReplicasReady (body : Json) : Prop :=
  ∃ desired ready, specReplicas? body = some desired ∧ statusReadyReplicas? body = some ready ∧ desired ≤ ready

/-- The endpoints have a ready address: some subset has an array of addresses that is not empty. -/
def AddressReady (endpoints : Json) : Prop :=
  ∃ subsets, endpoints.get? "subsets" = some (.arr subsets) ∧
    ∃ subset ∈ subsets, ∃ addrs, subset.get? "addresses" = some (.arr addrs) ∧ addrs ≠ []

/-- The defaults do not come to a wrong verdict on the body: the desired replicas are an integer that fits in 64 bits and, if the
ready ones are malformed, a positive one; or there are fewer than no ready ones; or both are integers that do not fit, and enough
are ready. -/
def DefaultsHarmless (body : Json) : Prop :=
  (∃ desired, specReplicas? body = some desired ∧ desired < 2 ^ 63 ∧ (statusReadyReplicas? body ≠ none ∨ 0 < desired)) ∨
    (∃ ready, statusReadyReplicas? body = some ready ∧ ready < 0) ∨
    ∃ desired ready, specReplicas? body = some desired ∧ statusReadyReplicas? body = some ready ∧ 2 ^ 63 ≤ desired ∧
      desired ≤ ready

/-- What the server answers says that the resource of a collector is healthy. -/
def Evidence (client : K8sApiClient) (collector : K8sCollector) : Prop :=
  match collector.kind with
  | .k8sDeployment =>
    ∃ body, client.get (K8sApiClient.deploymentPath collector.ns collector.name) = .ok (some body) ∧ ReplicasReady body
  | .k8sStatefulSet =>
    ∃ body, client.get (K8sApiClient.statefulSetPath collector.ns collector.name) = .ok (some body) ∧ ReplicasReady body
  | .k8sService =>
    ∃ service endpoints, client.get (K8sApiClient.servicePath collector.ns collector.name) = .ok (some service) ∧
      client.get (K8sApiClient.endpointsPath collector.ns collector.name) = .ok (some endpoints) ∧ AddressReady endpoints
  | _ => False

/-- The defaults do not come to a wrong verdict on what the server answers for the resource of a collector. -/
def AnswerHarmless (client : K8sApiClient) (collector : K8sCollector) : Prop :=
  match collector.kind with
  | .k8sDeployment =>
    ∀ body, client.get (K8sApiClient.deploymentPath collector.ns collector.name) = .ok (some body) → DefaultsHarmless body
  | .k8sStatefulSet =>
    ∀ body, client.get (K8sApiClient.statefulSetPath collector.ns collector.name) = .ok (some body) → DefaultsHarmless body
  | _ => True

namespace HealthAux

open K8sApiClient

/-! ## Replicas -/

/-- The integer that a count is taken for: 0 when there is none that fits. -/
def taken (count : Option Int) : Int := (count.filter fun n => decide (n < 2 ^ 63)).getD 0

theorem taken_none : taken none = 0 := rfl

theorem taken_some (n : Int) : taken (some n) = if n < 2 ^ 63 then n else 0 := by
  rw [taken, Option.filter_some]
  by_cases h : n < 2 ^ 63
  · rw [if_pos (decide_eq_true h), if_pos h, Option.getD_some]
  · rw [if_neg (by simpa using h), if_neg h, Option.getD_none]

theorem toInt_desired (body : Json) :
    (((body.index "spec").index "replicas").asI64.getD 0).toInt = taken (specReplicas? body) := by
  rw [Json.toInt_asI64_getD, taken, specReplicas?, Json.index, Json.index]
  cases body.get? "spec" with
  | none => rfl
  | some spec =>
    rw [Option.getD_some, Option.bind_some]
    cases spec.get? "replicas" <;> rfl

theorem toInt_ready (body : Json) :
    (((body.index "status").index "readyReplicas").asI64.getD 0).toInt = taken (statusReadyReplicas? body) := by
  rw [Json.toInt_asI64_getD, taken, statusReadyReplicas?, Json.index, Json.index]
  cases body.get? "status" with
  | none => rfl
  | some status =>
    rw [Option.getD_some]
    cases status with
    | obj fields =>
      cases hget : (Json.obj fields).get? "readyReplicas" with
      | none =>
        simp only [hget]
        exact (taken_some 0).symm
      | some ready => simp [hget]
    | _ => rfl

theorem replicaHealth_eq_healthy_iff {client : K8sApiClient} {path : String} {body : Json}
    (hget : client.get path = .ok (some body)) :
    client.replicaHealth path = .ok .healthy ↔ taken (specReplicas? body) ≤ taken (statusReadyReplicas? body) := by
  unfold replicaHealth
  rw [hget, ← toInt_desired, ← toInt_ready, ← Int64.le_iff_toInt_le]
  simp only [bind, Except.bind, pure, Except.pure]
  split <;> simp [*]

/-- What is taken for enough is enough, exactly if the defaults are harmless. -/
theorem taken_le_taken_iff (desired ready : Option Int) :
    (taken desired ≤ taken ready → ∃ d r, desired = some d ∧ ready = some r ∧ d ≤ r) ↔
      (∃ d, desired = some d ∧ d < 2 ^ 63 ∧ (ready ≠ none ∨ 0 < d)) ∨ (∃ r, ready = some r ∧ r < 0) ∨
        ∃ d r, desired = some d ∧ ready = some r ∧ 2 ^ 63 ≤ d ∧ d ≤ r := by
  cases desired with
  | none =>
    cases ready with
    | none => simp [taken_none]
    | some r => grind [taken_none, taken_some]
  | some d =>
    cases ready with
    | none => grind [taken_none, taken_some]
    | some r => grind [taken_some]

/-- The verdict on a body is right exactly if the defaults are harmless. -/
theorem replicaHealth_right_iff {client : K8sApiClient} {path : String} {body : Json}
    (hget : client.get path = .ok (some body)) :
    (client.replicaHealth path = .ok .healthy → ReplicasReady body) ↔ DefaultsHarmless body := by
  rw [replicaHealth_eq_healthy_iff hget]
  exact taken_le_taken_iff _ _

/-- Without a body there is no such verdict. -/
theorem exists_body_of_healthy {client : K8sApiClient} {path : String} (h : client.replicaHealth path = .ok .healthy) :
    ∃ body, client.get path = .ok (some body) := by
  unfold replicaHealth at h
  cases hget : client.get path with
  | error e =>
    rw [hget] at h
    cases h
  | ok body =>
    cases body with
    | none =>
      rw [hget] at h
      cases h
    | some body => exact ⟨body, rfl⟩

/-- What a poll makes of a verdict on replicas is right exactly if the defaults are harmless. -/
theorem healthy_evidence_iff {client : K8sApiClient} {path : String} :
    (client.replicaHealth path = .ok .healthy → ∃ body, client.get path = .ok (some body) ∧ ReplicasReady body) ↔
      ∀ body, client.get path = .ok (some body) → DefaultsHarmless body := by
  constructor
  · intro h body hget
    refine (replicaHealth_right_iff hget).mp fun hhealthy => ?_
    obtain ⟨body', hget', hready⟩ := h hhealthy
    cases hget.symm.trans hget'
    exact hready
  · intro h hhealthy
    obtain ⟨body, hget⟩ := exists_body_of_healthy hhealthy
    exact ⟨body, hget, (replicaHealth_right_iff hget).mpr (h body hget) hhealthy⟩

/-! ## Services -/

theorem hasReadyAddress_iff (endpoints : Json) : hasReadyAddress endpoints = true ↔ AddressReady endpoints := by
  have haddrs : ∀ subset : Json, ((subset.index "addresses").asArray.any fun addrs => !addrs.isEmpty) = true ↔
      ∃ addrs, subset.get? "addresses" = some (.arr addrs) ∧ addrs ≠ [] := by
    intro subset
    rw [Option.any_eq_true]
    refine exists_congr fun addrs => ?_
    rw [Json.asArray_eq_some_iff, Json.index_eq_iff (fun h => by cases h)]
    simp
  unfold hasReadyAddress AddressReady
  constructor
  · intro h
    cases hsubsets : (endpoints.index "subsets").asArray with
    | none =>
      rw [hsubsets] at h
      cases h
    | some subsets =>
      rw [hsubsets, Option.map_some, Option.getD_some, List.any_eq_true] at h
      obtain ⟨subset, hmem, haddr⟩ := h
      have hfield := Json.asArray_eq_some_iff.mp hsubsets
      exact ⟨subsets, (Json.index_eq_iff (fun h => by cases h)).mp hfield, subset, hmem, (haddrs subset).mp haddr⟩
  · rintro ⟨subsets, hfield, subset, hmem, haddr⟩
    have hsubsets : (endpoints.index "subsets").asArray = some subsets :=
      Json.asArray_eq_some_iff.mpr ((Json.index_eq_iff (fun h => by cases h)).mpr hfield)
    rw [hsubsets, Option.map_some, Option.getD_some, List.any_eq_true]
    exact ⟨subset, hmem, (haddrs subset).mpr haddr⟩

theorem serviceHealth_eq_healthy_iff {client : K8sApiClient} {ns name : String} :
    client.serviceHealth ns name = .ok .healthy ↔
      ∃ service endpoints, client.get (servicePath ns name) = .ok (some service) ∧
        client.get (endpointsPath ns name) = .ok (some endpoints) ∧ AddressReady endpoints := by
  unfold serviceHealth
  cases hservice : client.get (servicePath ns name) with
  | error e => simp [bind, Except.bind]
  | ok service =>
    cases service with
    | none => simp [bind, Except.bind, pure, Except.pure, notFound]
    | some service =>
      cases hendpoints : client.get (endpointsPath ns name) with
      | error e => simp [bind, Except.bind]
      | ok endpoints =>
        cases endpoints with
        | none => simp [bind, Except.bind, pure, Except.pure, notFound]
        | some endpoints =>
          by_cases hready : hasReadyAddress endpoints = true
          · simp [bind, Except.bind, pure, Except.pure, hready, ← hasReadyAddress_iff]
          · simp [bind, Except.bind, pure, Except.pure, hready, ← hasReadyAddress_iff]

/-! ## Polls -/

/-- A poll counts as a success exactly if the resource is found healthy. -/
theorem isSuccess_poll_iff (client : K8sApiClient) (collector : K8sCollector) (monitorId : MonitorId) (latencyMs : UInt64) :
    (Handled.outcome (.collector monitorId (pollCollectorSafely collector client) latencyMs)).isSuccess = true ↔
      match collector.kind with
      | .k8sDeployment => client.replicaHealth (deploymentPath collector.ns collector.name) = .ok .healthy
      | .k8sStatefulSet => client.replicaHealth (statefulSetPath collector.ns collector.name) = .ok .healthy
      | .k8sService => client.serviceHealth collector.ns collector.name = .ok .healthy
      | _ => False := by
  unfold pollCollectorSafely K8sCollector.poll deploymentHealth statefulSetHealth
  cases collector.kind with
  | k8sDeployment =>
    rcases client.replicaHealth (deploymentPath collector.ns collector.name) with _ | (_ | _) <;> simp [Handled.isSuccess]
  | k8sStatefulSet =>
    rcases client.replicaHealth (statefulSetPath collector.ns collector.name) with _ | (_ | _) <;> simp [Handled.isSuccess]
  | k8sService => rcases client.serviceHealth collector.ns collector.name with _ | (_ | _) <;> simp [Handled.isSuccess]
  | _ => simp [Handled.isSuccess]

end HealthAux

open K8sApiClient in
/-- For every server and everything it answers: a Deployment or StatefulSet is found healthy on evidence only exactly if the
defaults are harmless on its body; a Service is found healthy exactly if some subset has an address; and a poll counts as a
success on evidence only exactly if the defaults are harmless on what is answered. -/
theorem health_needs_evidence_iff (client : K8sApiClient) :
    (∀ path body, client.get path = .ok (some body) →
        ((client.replicaHealth path = .ok .healthy → ReplicasReady body) ↔ DefaultsHarmless body)) ∧
      (∀ ns name service endpoints, client.get (servicePath ns name) = .ok (some service) →
        client.get (endpointsPath ns name) = .ok (some endpoints) →
        (client.serviceHealth ns name = .ok .healthy ↔ AddressReady endpoints)) ∧
      ∀ collector monitorId latencyMs,
        ((Handled.outcome (.collector monitorId (pollCollectorSafely collector client) latencyMs)).isSuccess = true →
          Evidence client collector) ↔ AnswerHarmless client collector := by
  refine ⟨fun path body hget => HealthAux.replicaHealth_right_iff hget, fun ns name service endpoints hservice hendpoints => ?_,
    fun collector monitorId latencyMs => ?_⟩
  · rw [HealthAux.serviceHealth_eq_healthy_iff]
    constructor
    · rintro ⟨service', endpoints', -, hendpoints', hready⟩
      cases hendpoints.symm.trans hendpoints'
      exact hready
    · intro hready
      exact ⟨service, endpoints, hservice, hendpoints, hready⟩
  · rw [HealthAux.isSuccess_poll_iff]
    unfold Evidence AnswerHarmless
    cases collector.kind with
    | k8sDeployment => exact HealthAux.healthy_evidence_iff
    | k8sStatefulSet => exact HealthAux.healthy_evidence_iff
    | k8sService => exact iff_true_intro HealthAux.serviceHealth_eq_healthy_iff.mp
    | _ => exact iff_true_intro id

/-- A server that answers every GET with a body. -/
def answering (body : Json) : K8sApiClient where
  http _ _ := .response ⟨200, "200 OK"⟩ "" (.ok body)
  server := "https://10.0.0.1:6443"
  token := "token"

/-- The server answers with an object without fields, and the deployment is healthy. -/
theorem empty_body_healthy : ¬∀ (client : K8sApiClient) (ns name : String) (body : Json),
    client.get (K8sApiClient.deploymentPath ns name) = .ok (some body) → client.deploymentHealth ns name = .ok .healthy →
    ReplicasReady body := by
  intro h
  obtain ⟨desired, -, hdesired, -⟩ := h (answering (.obj [])) "prod" "api" (.obj []) rfl (by decide +kernel)
  cases hdesired

/-- Two replicas are desired and ready: this is evidence, and healthy it is. -/
theorem two_ready_healthy :
    let body : Json := .obj [("spec", .obj [("replicas", .num (.posInt 2))]), ("status", .obj [("readyReplicas", .num (.posInt 2))])]
    (answering body).deploymentHealth "prod" "api" = .ok .healthy ∧ ReplicasReady body := by
  intro body
  have hhealthy : (answering body).deploymentHealth "prod" "api" = .ok .healthy := by decide +kernel
  refine ⟨hhealthy, ((health_needs_evidence_iff (answering body)).1 _ body rfl).mpr (.inl ⟨2, rfl, by decide, .inl ?_⟩) hhealthy⟩
  intro hnone
  cases hnone

end Monitra
