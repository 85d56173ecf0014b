import KnowledgeBase.Acquisition.Http
import Mathlib.Data.List.Range

/-!
# Pinned egress

Whatever the resolvers answer, the redirects name and the client asks for: connections go to addresses that the check of
their own hop has resolved and found unrestricted.
-/

namespace KnowledgeBase

open Checked

namespace UrlPlatform

variable (P : UrlPlatform) (A : HttpAcquirer) (world : Nat → HopWorld)

/-- The address is the text of one that the resolver of this check answered, or of the literal host, and that is not
restricted, nor is the IPv4 address that it maps. -/
def Validated (resolver : Resolver) (allowPrivate : Bool) (target : EgressTarget) (address : Text) : Prop :=
  ∃ answered raw a, P.rawAddresses resolver (P.ipAddress target.hostname) target.hostname target.port = .ok answered ∧
    raw ∈ answered ∧ P.ipAddress raw = some a ∧ address = P.ipText a ∧ a.restricted allowPrivate = false ∧
      ∀ n, a.ipv4Mapped = some n → (IpAddress.v4 n).restricted allowPrivate = false

/-- The hop was checked with this URL, and the connection goes to an address and the port of its target. -/
def PinnedConnect (hop : Nat) (url address : Text) (port : Nat) : Prop :=
  ∃ target, P.checkHop A world hop url = .ok target ∧ target.url = url ∧ port = target.port ∧
    P.Validated (world hop).resolver A.policy.allowPrivateDefault target address

/-- The hops that send a request, in order. -/
def requestHops (events : List EgressEvent) : List Nat :=
  events.filterMap fun event =>
    match event with
    | .request hop _ => some hop
    | _ => none

variable {P A world} {policy : EgressPolicy} {resolver : Resolver} {url address : Text} {target : EgressTarget}
  {hop : Nat}

/-! ### the check -/

theorem restricted_v4 (allowPrivate : Bool) (n : BitVec 32) :
    (IpAddress.v4 n).restricted allowPrivate = (IpAddress.v4 n).isSpecial allowPrivate := rfl

theorem restricted_mapped {a : IpAddress} {allowPrivate : Bool} (h : a.restricted allowPrivate = false) {n : BitVec 32}
    (hn : a.ipv4Mapped = some n) : (IpAddress.v4 n).restricted allowPrivate = false := by
  unfold IpAddress.restricted at h
  rw [hn] at h
  exact (restricted_v4 allowPrivate n).trans h

example : (IpAddress.v6 0xffff0a000001 none).restricted false = true := by decide

theorem validateAddress_ok {allowPrivate : Bool} {raw : Text} (h : P.validateAddress allowPrivate raw = .ok address) :
    ∃ a, P.ipAddress raw = some a ∧ address = P.ipText a ∧ a.restricted allowPrivate = false := by
  unfold validateAddress at h
  cases ha : P.ipAddress raw with
  | none =>
    rw [ha] at h
    cases h
  | some a =>
    rw [ha] at h
    cases hr : a.restricted allowPrivate with
    | true =>
      simp only [hr] at h
      cases h
    | false =>
      simp only [hr] at h
      exact ⟨a, rfl, (Except.ok.inj h).symm, hr⟩

theorem mem_mapM_validateAddress {allowPrivate : Bool} {raw validated : List Text}
    (h : raw.mapM (P.validateAddress allowPrivate) = .ok validated) (hmem : address ∈ validated) :
    ∃ r ∈ raw, P.validateAddress allowPrivate r = .ok address := by
  induction raw generalizing validated with
  | nil =>
    cases h
    cases hmem
  | cons r raw ih =>
    rw [List.mapM_cons] at h
    obtain ⟨b, hb, h⟩ := bind_ok_iff.1 h
    obtain ⟨rest, hrest, h⟩ := bind_ok_iff.1 h
    cases h
    rcases List.mem_cons.1 hmem with rfl | hmem
    · exact ⟨r, List.mem_cons_self, hb⟩
    · obtain ⟨r', hr', hok⟩ := ih hrest hmem
      exact ⟨r', List.mem_cons_of_mem _ hr', hok⟩

theorem checkUrl_ok {allowHttp : Bool} {allowPrivate allowLiteralIp : Option Bool}
    (h : P.checkUrl policy resolver url allowHttp allowPrivate allowLiteralIp = .ok target) :
    target.url = url ∧ ∀ address ∈ target.addresses,
      P.Validated resolver (allowPrivate.getD policy.allowPrivateDefault) target address := by
  unfold checkUrl at h
  obtain ⟨parts, -, h⟩ := bind_ok_iff.1 h
  obtain ⟨port, -, h⟩ := bind_ok_iff.1 h
  simp only at h
  split at h
  · cases h
  split at h
  · cases h
  obtain ⟨hostname, -, h⟩ := bind_ok_iff.1 h
  split at h
  · cases h
  split at h
  · cases h
  obtain ⟨raw, hraw, h⟩ := bind_ok_iff.1 h
  split at h
  · cases h
  obtain ⟨validated, hvalidated, h⟩ := bind_ok_iff.1 h
  obtain rfl := Except.ok.inj h
  refine ⟨rfl, fun address haddress => ?_⟩
  obtain ⟨r, hr, hok⟩ := mem_mapM_validateAddress hvalidated (List.mem_eraseDups.1 haddress)
  obtain ⟨a, ha, htext, hrestricted⟩ := validateAddress_ok hok
  exact ⟨raw, r, a, hraw, hr, ha, htext, hrestricted, fun n hn => restricted_mapped hrestricted hn⟩

theorem validateRedirect_ok {allowHttp : Bool} {allowPrivate allowLiteralIp : Option Bool}
    (h : P.validateRedirect policy resolver url allowHttp allowPrivate allowLiteralIp = .ok target) :
    P.checkUrl policy resolver url allowHttp allowPrivate allowLiteralIp = .ok target := by
  unfold validateRedirect at h
  split at h
  · cases h
  · cases h
  · rename_i target' ht
    cases h
    exact ht

theorem checkHop_ok (h : P.checkHop A world hop url = .ok target) :
    target.url = url ∧ ∀ address ∈ target.addresses,
      P.Validated (world hop).resolver A.policy.allowPrivateDefault target address := by
  unfold checkHop at h
  split at h
  · exact checkUrl_ok h
  · exact checkUrl_ok (validateRedirect_ok h)

/-! ### the backend -/

theorem tryAddresses_subset (outcome : Text → ConnectOutcome) (addresses : List Text) :
    (tryAddresses outcome addresses).1 ⊆ addresses := by
  -- only a refused connection goes on to the next address
  induction addresses with
  | nil => exact List.Subset.refl _
  | cons a rest ih =>
    unfold tryAddresses
    split
    · exact List.cons_subset_cons a ih
    · exact List.cons_subset_cons a (List.nil_subset _)
    · exact List.cons_subset_cons a (List.nil_subset _)

theorem connectTcp_subset (target : EgressTarget) (call : ConnectCall) :
    (P.connectTcp target call).1 ⊆ target.addresses := by
  unfold connectTcp
  split
  · exact List.nil_subset _
  · exact tryAddresses_subset _ _

theorem mem_connectEvents {event : EgressEvent} (h : event ∈ P.connectEvents world hop url target) :
    ∃ address ∈ target.addresses, event = .connect hop url address target.port := by
  obtain ⟨address, haddress, rfl⟩ := List.mem_map.1 h
  obtain ⟨call, -, hcall⟩ := List.mem_flatMap.1 haddress
  exact ⟨address, connectTcp_subset target call hcall, rfl⟩

theorem requestHops_append (l m : List EgressEvent) : requestHops (l ++ m) = requestHops l ++ requestHops m :=
  List.filterMap_append

theorem requestHops_connectEvents : requestHops (P.connectEvents world hop url target) = [] := by
  refine List.filterMap_eq_nil_iff.2 fun event hevent => ?_
  obtain ⟨address, -, rfl⟩ := mem_connectEvents hevent
  rfl

/-! ### the body -/

theorem readBody_length {limit : Nat} {body result : List UInt8} {chunks : List (List UInt8)}
    (h : readBody limit body chunks = .ok result) (hbody : body.length ≤ limit) : result.length ≤ limit := by
  -- the total is checked with each chunk, before the next is read
  induction chunks generalizing body with
  | nil =>
    cases h
    exact hbody
  | cons chunk chunks ih =>
    unfold readBody at h
    split at h
    · cases h
    · exact ih h (by omega)

theorem finish_length {identity : Text} {statusCode : Nat} {contentType : Option Text} {chunks : List (List UInt8)}
    {breaksOff : Bool} {r : HttpAcquisitionResult}
    (h : P.finish A identity hop url statusCode contentType chunks breaksOff = .ok r) :
    r.body.length ≤ A.maxResponseBytes := by
  unfold finish at h
  split at h
  · cases h
  · split at h
    · cases h
    · rename_i body hbody
      split at h
      · cases h
      · split at h
        · cases h
        · cases h
          exact readBody_length hbody (Nat.zero_le _)

/-! ### a hop -/

/-- The events of a hop whose check succeeded, before its answer. -/
def sentEvents (P : UrlPlatform) (world : Nat → HopWorld) (hop : Nat) (url : Text) (target : EgressTarget) :
    List EgressEvent := .request hop url :: P.connectEvents world hop url target

/-- A hop reports at most a denial, or sends its request to a checked target and ends, or goes on with the next. -/
theorem acquireFrom_succ (P : UrlPlatform) (A : HttpAcquirer) (world : Nat → HopWorld) (identity : Text) (left hop : Nat) (url : Text) :
    (∃ e reported, P.acquireFrom A world identity (left + 1) hop url = (reported, .error e) ∧
        ∀ event ∈ reported, ∃ reason, event = .denied reason) ∨
      ∃ target, P.checkHop A world hop url = .ok target ∧
        ((∃ reported result, P.acquireFrom A world identity (left + 1) hop url =
              (sentEvents P world hop url target ++ reported, result) ∧
            (∀ event ∈ reported, ∃ reason, event = .denied reason) ∧
            ∀ r, result = .ok r → r.body.length ≤ A.maxResponseBytes) ∨
          ∃ next, P.acquireFrom A world identity (left + 1) hop url =
            (sentEvents P world hop url target ++ (P.acquireFrom A world identity left (hop + 1) next).1,
              (P.acquireFrom A world identity left (hop + 1) next).2)) := by
  rw [acquireFrom]
  cases hcheck : P.checkHop A world hop url with
  | error e =>
    left
    cases e with
    | raised => exact ⟨.raised, [], rfl, (fun _ h => nomatch h)⟩
    | mkb e => exact ⟨.mkb e, [.denied "policy"], rfl, fun event h => ⟨"policy", List.mem_singleton.1 h⟩⟩
  | ok target =>
    right
    refine ⟨target, rfl, ?_⟩
    have hsent : sentEvents P world hop url target = sentEvents P world hop url target ++ [] :=
      (List.append_nil _).symm
    cases hanswer : (world hop).answer with
    | httpError => exact .inl ⟨[], _, Prod.ext hsent rfl, (fun _ h => nomatch h), (fun r h => nomatch h)⟩
    | otherError => exact .inl ⟨[], _, Prod.ext hsent rfl, (fun _ h => nomatch h), (fun r h => nomatch h)⟩
    | response statusCode location contentType chunks breaksOff =>
      simp only
      split
      · split
        · exact .inl ⟨[.denied "redirect"], _, rfl, fun event h => ⟨"redirect", List.mem_singleton.1 h⟩,
            (fun r h => nomatch h)⟩
        · split
          · exact .inl ⟨[], _, Prod.ext hsent rfl, (fun _ h => nomatch h), (fun r h => nomatch h)⟩
          · rename_i next hnext
            exact .inr ⟨next, rfl⟩
      · exact .inl ⟨[], _, Prod.ext hsent rfl, (fun _ h => nomatch h), fun r h => finish_length h⟩

/-! ### the acquisition -/

/-- What the events and the result of an acquisition keep to. -/
structure EgressLaw (P : UrlPlatform) (A : HttpAcquirer) (world : Nat → HopWorld) (left hop : Nat)
    (events : List EgressEvent) (result : Except AcquireError HttpAcquisitionResult) : Prop where
  connects (n : Nat) (u address : Text) (port : Nat) : .connect n u address port ∈ events →
    .request n u ∈ events ∧ P.PinnedConnect A world n u address port
  checked (n : Nat) (u : Text) : .request n u ∈ events → ∃ target, P.checkHop A world n u = .ok target
  requests : ∃ k, k ≤ left ∧ requestHops events = List.range' hop k
  bounded (r : HttpAcquisitionResult) : result = .ok r → r.body.length ≤ A.maxResponseBytes

theorem requestHops_denied {reported : List EgressEvent} (h : ∀ event ∈ reported, ∃ reason, event = .denied reason) :
    requestHops reported = [] := by
  refine List.filterMap_eq_nil_iff.2 fun event hevent => ?_
  obtain ⟨reason, rfl⟩ := h event hevent
  rfl

theorem requestHops_sentEvents (target : EgressTarget) : requestHops (sentEvents P world hop url target) = [hop] := by
  show hop :: requestHops (P.connectEvents world hop url target) = [hop]
  rw [requestHops_connectEvents]

theorem EgressLaw.cons {left : Nat} {events : List EgressEvent} {result : Except AcquireError HttpAcquisitionResult}
    (hcheck : P.checkHop A world hop url = .ok target) (h : EgressLaw P A world left (hop + 1) events result) :
    EgressLaw P A world (left + 1) hop (sentEvents P world hop url target ++ events) result where
  connects n u address port hmem := by
    rcases List.mem_append.1 hmem with hmem | hmem
    · rcases List.mem_cons.1 hmem with heq | hmem
      · cases heq
      · obtain ⟨address', haddress, heq⟩ := mem_connectEvents hmem
        cases heq
        obtain ⟨hurl, hvalidated⟩ := checkHop_ok hcheck
        exact ⟨List.mem_append_left _ List.mem_cons_self, target, hcheck, hurl, rfl, hvalidated address haddress⟩
    · obtain ⟨hrequest, hpinned⟩ := h.connects n u address port hmem
      exact ⟨List.mem_append_right _ hrequest, hpinned⟩
  checked n u hmem := by
    rcases List.mem_append.1 hmem with hmem | hmem
    · rcases List.mem_cons.1 hmem with heq | hmem
      · cases heq
        exact ⟨target, hcheck⟩
      · obtain ⟨address, -, heq⟩ := mem_connectEvents hmem
        cases heq
    · exact h.checked n u hmem
  requests := by
    obtain ⟨k, hk, hhops⟩ := h.requests
    refine ⟨k + 1, by omega, ?_⟩
    rw [requestHops_append, requestHops_sentEvents, hhops]
    rfl
  bounded := h.bounded

theorem egressLaw_denied {left : Nat} {reported : List EgressEvent}
    {result : Except AcquireError HttpAcquisitionResult}
    (h : ∀ event ∈ reported, ∃ reason, event = .denied reason)
    (hresult : ∀ r, result = .ok r → r.body.length ≤ A.maxResponseBytes) :
    EgressLaw P A world left hop reported result where
  connects n u address port hmem := by
    obtain ⟨reason, heq⟩ := h _ hmem
    cases heq
  checked n u hmem := by
    obtain ⟨reason, heq⟩ := h _ hmem
    cases heq
  requests := ⟨0, Nat.zero_le _, requestHops_denied h⟩
  bounded := hresult

theorem egressLaw_acquireFrom (identity : Text) (left hop : Nat) (url : Text) :
    EgressLaw P A world left hop (P.acquireFrom A world identity left hop url).1
      (P.acquireFrom A world identity left hop url).2 := by
  -- over the redirects that are left; one more hop is a check, its connections and at most one request
  induction left generalizing hop url with
  | zero => exact egressLaw_denied (fun event h => ⟨"redirect", List.mem_singleton.1 h⟩) fun r h => nomatch h
  | succ left ih =>
    rcases acquireFrom_succ P A world identity left hop url with
      ⟨e, reported, heq, hreported⟩ | ⟨target, hcheck, ⟨reported, result, heq, hreported, hresult⟩ | ⟨next, heq⟩⟩
    · rw [heq]
      exact egressLaw_denied hreported fun r h => nomatch h
    · rw [heq]
      exact (egressLaw_denied hreported hresult).cons hcheck
    · rw [heq]
      exact (ih (hop + 1) next).cons hcheck

/-- In every run of `acquire`, each connection goes to an address that the check of its own hop resolved and found
unrestricted, each request follows a check of its hop, one for each of the hops `0, 1, …` and at most
`max_redirects + 1` of them, and a returned body keeps to the limit. -/
theorem acquire_pinned (P : UrlPlatform) (A : HttpAcquirer) (world : Nat → HopWorld) (url : Text) :
    EgressLaw P A world (A.policy.maxRedirects + 1) 0 (P.acquire A world url).1 (P.acquire A world url).2 := by
  unfold acquire
  split
  · exact egressLaw_denied (fun _ h => nomatch h) fun r h => nomatch h
  · exact egressLaw_acquireFrom _ _ _ _

end UrlPlatform

end KnowledgeBase
