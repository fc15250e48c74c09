import FireEvacuation.Clients.ServerSelection
import FireEvacuation.Stack.SetHost

/-!
# The choice of an endpoint

When the host of a discovered resource is an IP address, `CheckResourceInfo` sets the host
to the first endpoint which is another one and is not a Bluetooth endpoint, and it answers
with a connectivity type; `foundResource` takes the resource only when its own connectivity
type has this bit.

What is looked for are pieces of text: `coap+rfcomm` anywhere in an endpoint makes it a
Bluetooth one, and `tcp` anywhere makes it a TCP one.  `coap+gatt` is not looked for, and
when no other endpoint is found the answer is IP, also for a host which is a TCP one.
-/

namespace FireEvacuation
namespace Clients

open FireEvacuation.Core Stack

/-- A resource which was found at an address. -/
def discovered (uri : String) (devAddr : DevAddr) (endpoints : List String) : FoundResource :=
  ⟨uri, devAddr.host, endpoints, devAddr.connectivityType⟩

/-- The endpoint `CheckResourceInfo` hands to `setHost`. -/
def newHost (resource : FoundResource) : Option String :=
  resource.host.bind fun host => resource.allHosts.find? (otherEndpoint host)

/-- `Util::CheckResourceInfo` with `setHost` of the stack. -/
def checkResource (rules : AddressRules) (resource : FoundResource) :
    Option (FoundResource × UInt32) :=
  checkResourceInfo resource <| (newHost resource).bind fun endpoint =>
    (setHost rules endpoint).map fun changed => (some changed.2, changed.1.connectivityType)

/-- The scheme is `coap`, `coaps`, `coap+tcp` or `coaps+tcp`. -/
def ipBased (endpoint : String) : Bool := (hostScheme endpoint).any (·.usingIpAddr)

/-- The scheme is `coap+tcp` or `coaps+tcp`. -/
def tcpBased (endpoint : String) : Bool := (hostScheme endpoint).any (·.adapter = .tcp)

/-- An IP endpoint which is not the host. -/
def ipEndpoint (host endpoint : String) : Bool := endpoint ≠ host && ipBased endpoint

/-- The host is set to the first other IP endpoint, or left when there is none; the answer
is the adapter of the host then, and `foundResource` finds its bit. -/
structure EndpointChosen (rules : AddressRules) (resource : FoundResource) (host : String) :
    Prop where
  selected : newHost resource = resource.allHosts.find? (ipEndpoint host)
  transport : ∃ resource' transport, checkResource rules resource = some (resource', transport) ∧
    transport = resource'.connectivityType &&& ctMaskAdapter ∧
    resource'.connectivityType &&& transport ≠ 0

/-- The condition on the host and the endpoints. -/
structure EndpointSuitable (rules : AddressRules) (adapter : TransportAdapter) (host : String)
    (endpoints : List String) : Prop where
  /-- An IP endpoint is not passed over for `coap+rfcomm` somewhere in its text. -/
  skipped : ∀ endpoint ∈ endpoints.takeWhile (fun endpoint => !otherEndpoint host endpoint),
    endpoint ≠ host → ipBased endpoint = false
  /-- Without another endpoint the adapter of the host is IP. -/
  current : endpoints.find? (otherEndpoint host) = none → adapter = .ip
  /-- The endpoint which is chosen is an IP one which `setHost` takes, and `tcp` is in its
  text only as the scheme. -/
  chosen : ∀ endpoint, endpoints.find? (otherEndpoint host) = some endpoint →
    ipBased endpoint = true ∧ (setHost rules endpoint).isSome = true ∧
      (contains endpoint "tcp" = true → tcpBased endpoint = true)

/-! ## Pieces of text -/

/-- What is in the beginning of a text is in the text. -/
theorem containsChars_append {pattern before : List Char}
    (h : containsChars pattern before = true) (rest : List Char) :
    containsChars pattern (before ++ rest) = true := by
  induction before with
  | nil =>
      have hpattern : pattern = [] := List.isEmpty_iff.mp h
      subst hpattern
      cases rest <;> rfl
  | cons c before ih =>
      rw [containsChars, Bool.or_eq_true] at h
      rw [List.cons_append, containsChars, Bool.or_eq_true]
      rcases h with hfirst | hlater
      · refine Or.inl (List.isPrefixOf_iff_prefix.mpr ?_)
        exact (List.isPrefixOf_iff_prefix.mp hfirst).trans (List.prefix_append _ _)
      · exact Or.inr (ih hlater)

theorem contains_of_prefix {text before pattern : String}
    (hbefore : before.toList <+: text.toList) (h : contains before pattern = true) :
    contains text pattern = true := by
  obtain ⟨rest, hrest⟩ := hbefore
  rw [contains, ← hrest]
  exact containsChars_append h rest

theorem hostScheme_spec {endpoint : String} {scheme : HostScheme}
    (h : hostScheme endpoint = some scheme) :
    scheme ∈ hostSchemes ∧ scheme.text.toList <+: endpoint.toList :=
  ⟨List.mem_of_find?_eq_some h, by
    have htext := List.find?_some h
    exact List.isPrefixOf_iff_prefix.mp htext⟩

/-- A TCP scheme is seen in the text. -/
theorem contains_tcp_of_tcpBased {endpoint : String} (h : tcpBased endpoint = true) :
    contains endpoint "tcp" = true := by
  obtain ⟨scheme, hscheme, htcp⟩ := (Option.any_eq_true _ _).mp h
  obtain ⟨hmem, htext⟩ := hostScheme_spec hscheme
  have hall : ∀ scheme ∈ hostSchemes, scheme.adapter = .tcp →
      contains scheme.text "tcp" = true := by decide
  exact contains_of_prefix htext (hall scheme hmem (of_decide_eq_true htcp))

/-- The adapter of an IP scheme. -/
theorem adapter_of_ipBased {endpoint : String} (h : ipBased endpoint = true)
    {scheme : HostScheme} (hscheme : hostScheme endpoint = some scheme) :
    scheme.adapter = if tcpBased endpoint then .tcp else .ip := by
  have hall : ∀ scheme ∈ hostSchemes, scheme.usingIpAddr = true →
      scheme.adapter = if decide (scheme.adapter = .tcp) then .tcp else .ip := by decide
  rw [ipBased, hscheme] at h
  rw [tcpBased, hscheme]
  exact hall scheme (hostScheme_spec hscheme).1 h

/-- The test of `CheckResourceInfo` for an IP host. -/
theorem host_isIpBased {host : String} (h : ipBased host = true) :
    (contains host "coap://" || contains host "coaps://" || contains host "coap+tcp://" ||
      contains host "coaps+tcp://") = true := by
  obtain ⟨scheme, hscheme, hip⟩ := (Option.any_eq_true _ _).mp h
  obtain ⟨hmem, htext⟩ := hostScheme_spec hscheme
  have hall : ∀ scheme ∈ hostSchemes, scheme.usingIpAddr = true →
      scheme.text ∈ ["coap://", "coaps://", "coap+tcp://", "coaps+tcp://"] := by decide
  have hself : ∀ pattern ∈ ["coap://", "coaps://", "coap+tcp://", "coaps+tcp://"],
      contains pattern pattern = true := by decide
  have hfour := hall scheme hmem hip
  have hcontains := contains_of_prefix htext (hself _ hfour)
  simp only [Bool.or_eq_true]
  simp only [List.mem_cons, List.not_mem_nil, or_false] at hfour
  rcases hfour with h | h | h | h
  · exact Or.inl (Or.inl (Or.inl (h ▸ hcontains)))
  · exact Or.inl (Or.inl (Or.inr (h ▸ hcontains)))
  · exact Or.inl (Or.inr (h ▸ hcontains))
  · exact Or.inr (h ▸ hcontains)

/-! ## What `CheckResourceInfo` does -/

/-- The connectivity type which is answered for an endpoint. -/
def transportOf (endpoint : String) : UInt32 :=
  if contains endpoint "tcp" then ctAdapterTcp else ctAdapterIp

theorem checkResource_eq (rules : AddressRules) (uri : String) {devAddr : DevAddr}
    {host : String} (endpoints : List String) (hhost : devAddr.host = some host)
    (hip : ipBased host = true) :
    checkResource rules (discovered uri devAddr endpoints) =
      match endpoints.find? (otherEndpoint host) with
      | none => some (discovered uri devAddr endpoints, ctAdapterIp)
      | some endpoint =>
          (setHost rules endpoint).map fun changed =>
            (⟨uri, some changed.2, endpoints, changed.1.connectivityType⟩,
              transportOf endpoint) := by
  have htest := host_isIpBased hip
  simp only [checkResource, checkResourceInfo, newHost, discovered, hhost, htest, if_true,
    Option.bind_some]
  cases hfind : endpoints.find? (otherEndpoint host) with
  | none => rfl
  | some endpoint =>
      simp only [Option.bind_some, Option.map_map]
      rfl

/-- The answer is right exactly for the adapter it stands for. -/
theorem transport_right_iff {devAddr : DevAddr} {adapter : TransportAdapter}
    (hadapter : adapter = .ip ∨ adapter = .tcp) :
    (adapter.bits <<< 16 = devAddr.connectivityType &&& ctMaskAdapter ∧
      devAddr.connectivityType &&& adapter.bits <<< 16 ≠ 0) ↔ devAddr.adapter = adapter := by
  have hinj : adapter.bits <<< 16 = devAddr.adapter.bits <<< 16 ↔ devAddr.adapter = adapter := by
    rcases hadapter with rfl | rfl <;> cases devAddr.adapter <;> decide
  rw [connectivityType_adapter, hinj, and_iff_left_iff_imp]
  intro hsame
  have hbits : devAddr.connectivityType &&& adapter.bits <<< 16 = adapter.bits <<< 16 := by
    rw [← hsame, ← connectivityType_adapter, ← UInt32.and_assoc, UInt32.and_self]
  rw [hbits]
  rcases hadapter with rfl | rfl <;> decide

/-- Two searches agree when nothing is passed over by the first one which the second one
looks for, and what the first one finds the second one looks for. -/
theorem find?_eq_iff {α : Type*} {p q : α → Bool} {l : List α} :
    l.find? p = l.find? q ↔
      (∀ x ∈ l.takeWhile (fun x => !p x), q x = false) ∧ ∀ x, l.find? p = some x → q x = true := by
  induction l with
  | nil => simp
  | cons a l ih =>
      cases hp : p a with
      | true =>
          cases hq : q a with
          | true => simp [hp, hq]
          | false =>
              have hnot : l.find? q ≠ some a := fun h => by
                have hqa := List.find?_some h
                rw [hq] at hqa
                cases hqa
              simpa [hp, hq] using fun h => hnot h.symm
      | false =>
          cases hq : q a with
          | true =>
              have hnot : l.find? p ≠ some a := fun h => by
                have hpa := List.find?_some h
                rw [hp] at hpa
                cases hpa
              simpa [hp, hq] using hnot
          | false => simpa [hp, hq] using ih

/-- What the search finds is not the host. -/
theorem ne_host_of_find? {host endpoint : String} {endpoints : List String}
    (h : endpoints.find? (otherEndpoint host) = some endpoint) : endpoint ≠ host := by
  have hother := List.find?_some h
  rw [otherEndpoint, Bool.and_eq_true, decide_eq_true_eq] at hother
  exact hother.1

/-- For an IP endpoint the answer is right when `setHost` takes it and `tcp` in the text is
the scheme. -/
theorem answer_right_iff {rules : AddressRules} {endpoint : String} {devAddr : DevAddr}
    {text : String} (hip : ipBased endpoint = true)
    (hset : setHost rules endpoint = some (devAddr, text)) :
    (transportOf endpoint = devAddr.connectivityType &&& ctMaskAdapter ∧
      devAddr.connectivityType &&& transportOf endpoint ≠ 0) ↔
      (contains endpoint "tcp" = true → tcpBased endpoint = true) := by
  obtain ⟨scheme, hscheme, hadapter⟩ := setHost_adapter hset
  rw [adapter_of_ipBased hip hscheme] at hadapter
  cases htcp : contains endpoint "tcp" with
  | true =>
      have htransport : transportOf endpoint = TransportAdapter.tcp.bits <<< 16 := by
        rw [transportOf, htcp]
        rfl
      rw [htransport, transport_right_iff (Or.inr rfl), hadapter]
      cases tcpBased endpoint <;> decide
  | false =>
      have htransport : transportOf endpoint = TransportAdapter.ip.bits <<< 16 := by
        rw [transportOf, htcp]
        rfl
      -- the search for `tcp` misses no TCP scheme
      have hnot : tcpBased endpoint = false := Bool.eq_false_iff.mpr fun hbased => by
        have hcontains := contains_tcp_of_tcpBased hbased
        rw [htcp] at hcontains
        cases hcontains
      rw [htransport, transport_right_iff (Or.inl rfl), hadapter, hnot]
      decide

/-- **The choice of an endpoint.**  For every resource with an IP host and every list of
endpoints, the right host is chosen and its adapter answered exactly under the condition. -/
theorem endpointChosen_iff (rules : AddressRules) (uri : String) {devAddr : DevAddr}
    {host : String} (endpoints : List String) (hhost : devAddr.host = some host)
    (hip : ipBased host = true) :
    EndpointChosen rules (discovered uri devAddr endpoints) host ↔
      EndpointSuitable rules devAddr.adapter host endpoints := by
  have heq := checkResource_eq rules uri endpoints hhost hip
  have hnew : newHost (discovered uri devAddr endpoints) =
      endpoints.find? (otherEndpoint host) := by
    simp [newHost, discovered, hhost]
  -- the search of the code goes by the text, the other one by the scheme
  have hselected : newHost (discovered uri devAddr endpoints) =
      endpoints.find? (ipEndpoint host) ↔
        (∀ endpoint ∈ endpoints.takeWhile (fun endpoint => !otherEndpoint host endpoint),
          endpoint ≠ host → ipBased endpoint = false) ∧
        ∀ endpoint, endpoints.find? (otherEndpoint host) = some endpoint →
          ipBased endpoint = true := by
    rw [hnew, find?_eq_iff]
    refine and_congr ?_ ?_
    · simp [ipEndpoint]
    · refine forall_congr' fun endpoint => forall_congr' fun hfind => ?_
      simp [ipEndpoint, ne_host_of_find? hfind]
  constructor
  · rintro ⟨hsame, resource', transport, hcheck, hright⟩
    obtain ⟨hskipped, hchosen⟩ := hselected.mp hsame
    rw [heq] at hcheck
    refine ⟨hskipped, fun hnone => ?_, fun endpoint hfind => ?_⟩
    · -- the type is the one it was initialised with
      rw [hnone] at hcheck
      cases hcheck
      exact (transport_right_iff (Or.inl rfl)).mp hright
    · rw [hfind] at hcheck
      obtain ⟨⟨changed, text⟩, hset, hresult⟩ := Option.map_eq_some_iff.mp hcheck
      cases hresult
      have hip := hchosen endpoint hfind
      exact ⟨hip, by rw [hset]; rfl, (answer_right_iff hip hset).mp hright⟩
  · rintro ⟨hskipped, hcurrent, hchosen⟩
    refine ⟨hselected.mpr ⟨hskipped, fun endpoint hfind => (hchosen endpoint hfind).1⟩, ?_⟩
    rw [heq]
    cases hfind : endpoints.find? (otherEndpoint host) with
    | none =>
        exact ⟨_, _, rfl, (transport_right_iff (Or.inl rfl)).mpr (hcurrent hfind)⟩
    | some endpoint =>
        obtain ⟨hip, hsome, htcp⟩ := hchosen endpoint hfind
        obtain ⟨⟨changed, text⟩, hset⟩ := Option.isSome_iff_exists.mp hsome
        dsimp only
        rw [hset]
        exact ⟨_, _, rfl, (answer_right_iff hip hset).mpr htcp⟩

/-! ## Two resources -/

/-- Decimal numbers and points for an IPv4 address, which is enough for the address below. -/
def dottedRules : AddressRules :=
  ⟨true, fun text => text.all fun c => c.isDigit || c = '.', fun _ => none⟩

def ipAddress : DevAddr := ⟨.ip, ocIpUseV4, 5683, "10.0.0.2".toList⟩

/-- A resource at an IP host with a TCP endpoint. -/
theorem endpointChosen_iff_tcp :
    ipAddress.host = some "coap://10.0.0.2:5683" ∧ ipBased "coap://10.0.0.2:5683" = true ∧
      (EndpointChosen dottedRules
          (discovered resourceUri ipAddress ["coap://10.0.0.2:5683", "coap+tcp://10.0.0.2:5684"])
          "coap://10.0.0.2:5683" ↔
        EndpointSuitable dottedRules .ip "coap://10.0.0.2:5683"
          ["coap://10.0.0.2:5683", "coap+tcp://10.0.0.2:5684"]) :=
  ⟨by decide, by decide, endpointChosen_iff dottedRules resourceUri _ (by decide) (by decide)⟩

/-- A resource at a TCP host without another endpoint. -/
theorem tcp_host_not_chosen :
    ¬∀ (rules : AddressRules) (uri : String) (devAddr : DevAddr) (host : String)
        (endpoints : List String), devAddr.host = some host → ipBased host = true →
      EndpointChosen rules (discovered uri devAddr endpoints) host := by
  intro h
  have hchosen := h dottedRules resourceUri ⟨.tcp, ocIpUseV4, 5684, "10.0.0.2".toList⟩
    "coap+tcp://10.0.0.2:5684" [] (by decide) (by decide)
  obtain ⟨-, resource', transport, hcheck, -, hbit⟩ := hchosen
  have hresult : checkResource dottedRules
      (discovered resourceUri ⟨.tcp, ocIpUseV4, 5684, "10.0.0.2".toList⟩ []) =
        some (⟨resourceUri, some "coap+tcp://10.0.0.2:5684", [], 0x100040⟩, ctAdapterIp) := by
    decide
  rw [hresult] at hcheck
  cases hcheck
  exact hbit (by decide)

end Clients
end FireEvacuation
