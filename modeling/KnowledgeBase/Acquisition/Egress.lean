import KnowledgeBase.Library.Text
import KnowledgeBase.Store.Database

/-!
# The egress policy

Which addresses a source may be fetched from, and the check of a URL: it resolves the host and refuses the URL if one of
its addresses is restricted. The parser of URLs, IDNA, the parser of addresses and their text are parameters; the
networks are those of the registries for special addresses.
-/

namespace KnowledgeBase

/-! ### addresses -/

inductive IpAddress
  | v4 (n : BitVec 32)
  | v6 (n : BitVec 128) (scope : Option Text)
  deriving DecidableEq

namespace IpAddress

/-- The number lies in the network with this base and this length of the common bits. -/
def inNetwork (width n base length : Nat) : Bool := n >>> (width - length) == base >>> (width - length)

def quad (a b c d : Nat) : Nat := ((a * 256 + b) * 256 + c) * 256 + d

/-- The address that starts with these groups of 16 bits. -/
def groups (l : List Nat) : Nat := (l ++ List.replicate (8 - l.length) 0).foldl (fun n g => n * 65536 + g) 0

def inAny (width n : Nat) (networks : List (Nat × Nat)) : Bool :=
  networks.any fun network => inNetwork width n network.1 network.2

def privateNetworks4 : List (Nat × Nat) :=
  [(quad 0 0 0 0, 8), (quad 10 0 0 0, 8), (quad 127 0 0 0, 8), (quad 169 254 0 0, 16), (quad 172 16 0 0, 12),
    (quad 192 0 0 0, 24), (quad 192 0 0 170, 31), (quad 192 0 2 0, 24), (quad 192 168 0 0, 16), (quad 198 18 0 0, 15),
    (quad 198 51 100 0, 24), (quad 203 0 113 0, 24), (quad 240 0 0 0, 4), (quad 255 255 255 255, 32)]

def privateExceptions4 : List (Nat × Nat) := [(quad 192 0 0 9, 32), (quad 192 0 0 10, 32)]

def privateNetworks6 : List (Nat × Nat) :=
  [(groups [0, 0, 0, 0, 0, 0, 0, 1], 128), (groups [], 128), (groups [0, 0, 0, 0, 0, 0xffff], 96),
    (groups [0x64, 0xff9b, 1], 48), (groups [0x100], 64), (groups [0x2001], 23), (groups [0x2001, 0xdb8], 32),
    (groups [0x2002], 16), (groups [0xfc00], 7), (groups [0xfe80], 10)]

def privateExceptions6 : List (Nat × Nat) :=
  [(groups [0x2001, 1, 0, 0, 0, 0, 0, 1], 128), (groups [0x2001, 1, 0, 0, 0, 0, 0, 2], 128), (groups [0x2001, 3], 32),
    (groups [0x2001, 4, 0x112], 48), (groups [0x2001, 0x20], 28), (groups [0x2001, 0x30], 28)]

def reservedNetworks6 : List (Nat × Nat) :=
  [(groups [], 8), (groups [0x100], 8), (groups [0x200], 7), (groups [0x400], 6), (groups [0x800], 5),
    (groups [0x1000], 4), (groups [0x4000], 3), (groups [0x6000], 3), (groups [0x8000], 3), (groups [0xa000], 3),
    (groups [0xc000], 3), (groups [0xe000], 4), (groups [0xf000], 5), (groups [0xf800], 6), (groups [0xfe00], 9)]

/-- The IPv4 address in the last 32 bits of `::ffff:0:0/96`. -/
def ipv4Mapped : IpAddress → Option (BitVec 32)
  | v4 _ => none
  | v6 n _ => if n.toNat >>> 32 = 0xffff then some (n.setWidth 32) else none

def isLoopback : IpAddress → Bool
  | v4 n => inNetwork 32 n.toNat (quad 127 0 0 0) 8
  | v6 n _ => n.toNat == 1

def isLinkLocal : IpAddress → Bool
  | v4 n => inNetwork 32 n.toNat (quad 169 254 0 0) 16
  | v6 n _ => inNetwork 128 n.toNat (groups [0xfe80]) 10

def isMulticast : IpAddress → Bool
  | v4 n => inNetwork 32 n.toNat (quad 224 0 0 0) 4
  | v6 n _ => inNetwork 128 n.toNat (groups [0xff00]) 8

def isUnspecified : IpAddress → Bool
  | v4 n => n.toNat == 0
  | v6 n _ => n.toNat == 0

def isReserved : IpAddress → Bool
  | v4 n => inNetwork 32 n.toNat (quad 240 0 0 0) 4
  | v6 n _ => inAny 128 n.toNat reservedNetworks6

def isCarrierGradeNat : IpAddress → Bool
  | v4 n => inNetwork 32 n.toNat (quad 100 64 0 0) 10
  | v6 _ _ => false

def isPrivate : IpAddress → Bool
  | v4 n => inAny 32 n.toNat privateNetworks4 && !inAny 32 n.toNat privateExceptions4
  | v6 n _ => inAny 128 n.toNat privateNetworks6 && !inAny 128 n.toNat privateExceptions6

/-- The categories of an address that is not mapped. -/
def isSpecial (allowPrivate : Bool) (a : IpAddress) : Bool :=
  a.isLoopback || a.isLinkLocal || a.isMulticast || a.isUnspecified || a.isReserved || a.isCarrierGradeNat ||
    a.isPrivate && !allowPrivate

/-- `EgressPolicy._restricted`; an IPv4 address has no mapped one, so one recursion is enough. -/
def restricted (allowPrivate : Bool) (a : IpAddress) : Bool :=
  match a.ipv4Mapped with
  | some n => (v4 n).isSpecial allowPrivate
  | none => a.isSpecial allowPrivate

end IpAddress

/-! ### the check of a URL -/

/-- `urlsplit`; reading the port of `none` raises `ValueError`. -/
structure UrlParts where
  scheme : Text
  hostname : Option Text
  port : Option (Option Nat)
  username : Option Text
  password : Option Text
  path : Text
  query : Text

/-- The parts of the standard library that the acquisition rests on. -/
structure UrlPlatform where
  urlsplit : Text → Option UrlParts
  urlunsplit : Text → Text → Text → Text → Text
  urljoin : Text → Text → Option Text
  idna : Text → Option Text
  lower : Text → Text
  ipAddress : Text → Option IpAddress
  ipText : IpAddress → Text
  sha256 : Text → Text

/-- What leaves the acquisition besides a result: a typed error, or an error of the platform. -/
inductive AcquireError
  | mkb (e : MkbError)
  | raised

/-- `OSError` and `ValueError` of a resolver are caught, other errors are not. -/
inductive ResolveFailure
  | caught
  | other

abbrev Resolver := Text → Nat → Except ResolveFailure (List Text)

structure EgressPolicy where
  allowLiteralIp : Bool
  allowPrivateDefault : Bool
  maxRedirects : Nat

structure EgressTarget where
  url : Text
  hostname : Text
  port : Nat
  addresses : List Text

def egressDenied (message : String) : AcquireError := .mkb ⟨"SEC_EGRESS_DENIED", message, 422⟩

def metadataHosts : List Text :=
  ["metadata".toList, "metadata.google.internal".toList, "metadata.aws.internal".toList]

def rstripDots (t : Text) : Text := (t.reverse.dropWhile (· == '.')).reverse

namespace UrlPlatform

variable (P : UrlPlatform)

/-- The raw address is an address that is not restricted, and its text is pinned. -/
def validateAddress (allowPrivate : Bool) (raw : Text) : Except AcquireError Text :=
  match P.ipAddress raw with
  | none => .error (egressDenied "URL host cannot be resolved")
  | some a =>
    if a.restricted allowPrivate then .error (egressDenied "URL resolves to a restricted address")
    else .ok (P.ipText a)

/-- The addresses to validate: a literal, or what the resolver answers. -/
def rawAddresses (resolver : Resolver) (literal : Option IpAddress) (hostname : Text) (port : Nat) :
    Except AcquireError (List Text) :=
  match literal with
  | some a => .ok [P.ipText a]
  | none =>
    match resolver hostname port with
    | .error .caught => .error (egressDenied "URL host cannot be resolved")
    | .error .other => .error .raised
    | .ok raw => .ok raw

/-- The host as it is resolved, pinned and compared. -/
def normalHost (hostname : Text) : Option Text := (P.idna (rstripDots hostname)).map P.lower

/-- `EgressPolicy.check_url`. -/
def checkUrl (policy : EgressPolicy) (resolver : Resolver) (url : Text) (allowHttp : Bool)
    (allowPrivate allowLiteralIp : Option Bool) : Except AcquireError EgressTarget := do
  let parts ← ((P.urlsplit url).elim (.error (egressDenied "URL is not permitted")) .ok : Except AcquireError UrlParts)
  let port ← (parts.port.elim (.error (egressDenied "URL is not permitted")) .ok : Except AcquireError (Option Nat))
  let scheme := P.lower parts.scheme
  if ¬(scheme = "https".toList ∨ allowHttp = true ∧ scheme = "http".toList) then
    .error (egressDenied "URL scheme is not permitted")
  else if (parts.hostname.getD []).isEmpty || parts.username.isSome || parts.password.isSome then
    .error (egressDenied "URL host is not permitted")
  else
    let hostname ← ((P.normalHost (parts.hostname.getD [])).elim (.error (egressDenied "URL host is not permitted")) .ok :
      Except AcquireError Text)
    if metadataHosts.contains hostname then .error (egressDenied "URL host is not permitted")
    else
      let literal := P.ipAddress hostname
      if literal.isSome && !allowLiteralIp.getD policy.allowLiteralIp then
        .error (egressDenied "Literal IP destinations are not permitted")
      else
        let defaultPort := if scheme = "https".toList then 443 else 80
        let effectivePort := match port with
          | none => defaultPort
          | some 0 => defaultPort
          | some p => p
        let raw ← P.rawAddresses resolver literal hostname effectivePort
        if raw.isEmpty then .error (egressDenied "URL host cannot be resolved")
        else
          let validated ← raw.mapM (P.validateAddress (allowPrivate.getD policy.allowPrivateDefault))
          .ok ⟨url, hostname, effectivePort, validated.eraseDups⟩

/-- `EgressPolicy.validate_redirect`. -/
def validateRedirect (policy : EgressPolicy) (resolver : Resolver) (url : Text) (allowHttp : Bool)
    (allowPrivate allowLiteralIp : Option Bool) : Except AcquireError EgressTarget :=
  match P.checkUrl policy resolver url allowHttp allowPrivate allowLiteralIp with
  | .error (.mkb _) => .error (.mkb ⟨"SEC_EGRESS_REDIRECT_DENIED", "Redirect target is not permitted", 422⟩)
  | .error .raised => .error .raised
  | .ok target => .ok target

end UrlPlatform

end KnowledgeBase
