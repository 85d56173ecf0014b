import KnowledgeBase.Acquisition.Egress
import KnowledgeBase.Lsrag.Cuts

/-!
# HTTP acquisition

The network backend that is pinned to a target, and the acquisition of a URL hop by hop. What the HTTP client does in a
hop is open: it may ask the backend for any connections, each attempt may fail, and any answer may come back.
-/

namespace KnowledgeBase

/-- How the attempt to connect to an address ends: `refused` is a `ConnectError` or a `ConnectTimeout`. -/
inductive ConnectOutcome
  | connected
  | refused
  | raised

/-- A call of `connect_tcp`, and how each attempt behind it ends. -/
structure ConnectCall where
  host : Text
  port : Nat
  outcome : Text → ConnectOutcome

/-- The addresses are tried in turn until one does not refuse. -/
def tryAddresses (outcome : Text → ConnectOutcome) : List Text → List Text × ConnectOutcome
  | [] => ([], .refused)
  | address :: rest =>
    match outcome address with
    | .refused => (address :: (tryAddresses outcome rest).1, (tryAddresses outcome rest).2)
    | .connected => ([address], .connected)
    | .raised => ([address], .raised)

/-- What the client makes of a request: an error, or a response whose body comes in chunks and may break off. -/
inductive HttpAnswer
  | httpError
  | otherError
  | response (statusCode : Nat) (location contentType : Option Text) (chunks : List (List UInt8)) (breaksOff : Bool)

/-- The world in one hop: its resolver, the connections that the client asks for, and the answer. -/
structure HopWorld where
  resolver : Resolver
  connects : List ConnectCall
  answer : HttpAnswer

/-- What is reported as denied, the requests, and the attempts to connect. -/
inductive EgressEvent
  | denied (reason : String)
  | request (hop : Nat) (url : Text)
  | connect (hop : Nat) (url address : Text) (port : Nat)

structure HttpAcquisitionResult where
  body : List UInt8
  initialUrlIdentity : Text
  finalUrlIdentity : Text
  responseMediaType : Option Text
  statusCode : Nat
  redirectCount : Nat

structure HttpAcquirer where
  policy : EgressPolicy
  maxResponseBytes : Nat
  allowHttp : Bool

def redirectDenied : AcquireError :=
  .mkb ⟨"SEC_EGRESS_REDIRECT_DENIED", "Redirect target is not permitted", 422⟩

def httpStatusError : AcquireError :=
  .mkb ⟨"ACQUISITION_HTTP_STATUS", "HTTP source returned an unsuccessful status", 502⟩

def responseTooLarge : AcquireError :=
  .mkb ⟨"ACQUISITION_RESPONSE_TOO_LARGE", "HTTP source response exceeds the configured size limit", 413⟩

def httpUnavailable : AcquireError := .mkb ⟨"ACQUISITION_HTTP_UNAVAILABLE", "HTTP acquisition is unavailable", 503⟩

def redirectStatuses : List Nat := [301, 302, 303, 307, 308]

/-- The body grows chunk by chunk up to the limit. -/
def readBody (limit : Nat) (body : List UInt8) : List (List UInt8) → Except AcquireError (List UInt8)
  | [] => .ok body
  | chunk :: chunks =>
    if limit < (body ++ chunk).length then .error responseTooLarge else readBody limit (body ++ chunk) chunks

namespace UrlPlatform

variable (P : UrlPlatform)

/-- `PinnedNetworkBackend.connect_tcp`. -/
def connectTcp (target : EgressTarget) (call : ConnectCall) : List Text × ConnectOutcome :=
  if P.lower (rstripDots call.host) ≠ target.hostname ∨ call.port ≠ target.port then ([], .refused)
  else tryAddresses call.outcome target.addresses

/-- `_response_media_type`. -/
def responseMediaType (value : Option Text) : Option Text :=
  value.bind fun v =>
    let candidate := P.lower (stripText (v.takeWhile (· != ';')))
    if candidate.isEmpty then none else some candidate

/-- The host of an identity, with the brackets of an IPv6 literal. -/
def identityHost (hostname : Text) : Text :=
  let host := (P.normalHost hostname).getD (P.lower (rstripDots hostname))
  if host.contains ':' && host.head? != some '[' then '[' :: (host ++ [']']) else host

/-- `redacted_url_identity`; `none` is the `ValueError` of `urlsplit`. -/
def redactedUrlIdentity (url : Text) : Option Text :=
  (P.urlsplit url).map fun parts =>
    match parts.port with
    | none => P.sha256 url
    | some port =>
      let scheme := P.lower parts.scheme
      let defaultPort := if scheme = "https".toList then some 443 else if scheme = "http".toList then some 80 else none
      let host := P.identityHost (parts.hostname.getD [])
      let netloc :=
        if (parts.hostname.getD []).isEmpty then []
        else if port = none ∨ port = defaultPort then host
        else host ++ ':' :: (toString (port.getD 0)).toList
      let path := if parts.path.isEmpty then ['/'] else parts.path
      P.sha256 (P.urlunsplit scheme netloc path parts.query)

variable (A : HttpAcquirer) (world : Nat → HopWorld)

/-- The check of a hop: the first is `check_url`, the others are `validate_redirect`. -/
def checkHop (hop : Nat) (url : Text) : Except AcquireError EgressTarget :=
  if hop = 0 then P.checkUrl A.policy (world hop).resolver url A.allowHttp none none
  else P.validateRedirect A.policy (world hop).resolver url A.allowHttp none none

/-- The attempts to connect that a hop with this target makes. -/
def connectEvents (hop : Nat) (url : Text) (target : EgressTarget) : List EgressEvent :=
  ((world hop).connects.flatMap fun call => (P.connectTcp target call).1).map fun address =>
    .connect hop url address target.port

/-- A response that is no redirect. -/
def finish (initialIdentity : Text) (hop : Nat) (url : Text) (statusCode : Nat) (contentType : Option Text)
    (chunks : List (List UInt8)) (breaksOff : Bool) : Except AcquireError HttpAcquisitionResult :=
  if statusCode < 200 ∨ 300 ≤ statusCode then .error httpStatusError
  else
    match readBody A.maxResponseBytes [] chunks with
    | .error e => .error e
    | .ok body =>
      if breaksOff then .error httpUnavailable
      else
        match P.redactedUrlIdentity url with
        | none => .error .raised
        | some finalIdentity =>
          .ok ⟨body, initialIdentity, finalIdentity, P.responseMediaType contentType, statusCode, hop⟩

/-- The loop of `acquire` from a hop on, with as many hops left. -/
def acquireFrom (initialIdentity : Text) :
    Nat → Nat → Text → List EgressEvent × Except AcquireError HttpAcquisitionResult
  | 0, _, _ => ([.denied "redirect"], .error redirectDenied)
  | left + 1, hop, url =>
    match P.checkHop A world hop url with
    | .error .raised => ([], .error .raised)
    | .error (.mkb e) => ([.denied "policy"], .error (.mkb e))
    | .ok target =>
      let sent := .request hop url :: P.connectEvents world hop url target
      match (world hop).answer with
      | .httpError => (sent, .error httpUnavailable)
      | .otherError => (sent, .error .raised)
      | .response statusCode location contentType chunks breaksOff =>
        if redirectStatuses.contains statusCode then
          if (location.getD []).isBlank ∨ A.policy.maxRedirects ≤ hop then
            (sent ++ [.denied "redirect"], .error redirectDenied)
          else
            match P.urljoin url (location.getD []) with
            | none => (sent, .error .raised)
            | some next =>
              (sent ++ (acquireFrom initialIdentity left (hop + 1) next).1,
                (acquireFrom initialIdentity left (hop + 1) next).2)
        else (sent, P.finish A initialIdentity hop url statusCode contentType chunks breaksOff)

/-- `HttpAcquirer.acquire` without a transport of its own. -/
def acquire (url : Text) : List EgressEvent × Except AcquireError HttpAcquisitionResult :=
  match P.redactedUrlIdentity url with
  | none => ([], .error .raised)
  | some initialIdentity => P.acquireFrom A world initialIdentity (A.policy.maxRedirects + 1) 0 url

end UrlPlatform

end KnowledgeBase
