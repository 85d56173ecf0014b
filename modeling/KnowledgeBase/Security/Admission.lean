import Mathlib.Data.List.Dedup
import Mathlib.Data.Rat.Floor
import KnowledgeBase.Library.OrderedMap
import KnowledgeBase.Library.Text
import KnowledgeBase.Store.Database

/-!
# Admission

The checks every request passes before a handler reads anything: the rate limit of its address, its token, the rate
limit of the token. A denial is counted, and leaves a bounded number of audit rows: each source has a number of
detailed rows in a window and one summary. The checks run without a pause; only the write of an audit row is awaited,
so that other requests may come between the denial and the end of its write.
-/

namespace KnowledgeBase

/-- `int(now // window_seconds)`. -/
def windowOf (windowSeconds : Nat) (now : ℚ) : Int := ⌊now / windowSeconds⌋

/-! ### the rate limiter -/

inductive LimitDimension
  | ip
  | token
  deriving DecidableEq

/-- The values that the constructor of the limiter admits. -/
structure RateLimits where
  ipLimit : Nat := 120
  tokenLimit : Nat := 600
  windowSeconds : Nat := 60
  enabled : Bool := true
  maxBuckets : Nat := 4096
  positive : 1 ≤ ipLimit ∧ 1 ≤ tokenLimit ∧ 1 ≤ windowSeconds ∧ 1 ≤ maxBuckets

/-- A dimension, an identity and a window. -/
abbrev BucketKey := LimitDimension × Text × Int

def BucketKey.window (k : BucketKey) : Int := k.2.2

def overflowIdentity : Text := "__overflow__".toList

structure RateLimiter where
  buckets : OrderedMap BucketKey Nat := .empty
  degraded : Bool := false

structure RateLimitDecision where
  allowed : Bool
  dimension : Option LimitDimension
  deriving DecidableEq

namespace RateLimits

def limit (L : RateLimits) : LimitDimension → Nat
  | .ip => L.ipLimit
  | .token => L.tokenLimit

/-- `_allow`. -/
def allow (L : RateLimits) (dimension : LimitDimension) (identity : Text) (limit : Nat) (now : ℚ)
    (buckets : OrderedMap BucketKey Nat) : Bool × OrderedMap BucketKey Nat :=
  if !L.enabled then (true, buckets)
  else
    let bucket := windowOf L.windowSeconds now
    let key := (dimension, identity, bucket)
    let kept := buckets.keep fun k => bucket - 1 ≤ k.window
    if (kept.get? key).isNone && L.maxBuckets ≤ kept.size then
      let overflow := (dimension, overflowIdentity, bucket)
      (false, kept.put overflow ((kept.get? overflow).getD 0 + 1))
    else
      let n := (kept.get? key).getD 0 + 1
      (n ≤ limit, kept.put key n)

/-- `_check`: a clock that cannot be read denies the request and shows the limiter as degraded. -/
def check (L : RateLimits) (s : RateLimiter) (dimension : LimitDimension) (identity : Text) (reading : Option ℚ) :
    RateLimitDecision × RateLimiter :=
  match reading with
  | none => (⟨false, some dimension⟩, { s with degraded := true })
  | some now =>
    let (allowed, buckets) := L.allow dimension identity (L.limit dimension) now s.buckets
    (⟨allowed, if allowed then none else some dimension⟩, ⟨buckets, false⟩)

/-- `check_ip`, of the digest of an address. -/
def checkIp (L : RateLimits) (s : RateLimiter) (remote : Option Text) (reading : Option ℚ) :
    RateLimitDecision × RateLimiter :=
  L.check s .ip ((remote.filter fun t => !t.isEmpty).getD "unknown".toList) reading

def checkToken (L : RateLimits) (s : RateLimiter) (fingerprint : Text) (reading : Option ℚ) :
    RateLimitDecision × RateLimiter :=
  L.check s .token fingerprint reading

end RateLimits

/-! ### the sampler of denials -/

/-- The categories that denials are sampled in. -/
inductive DenialCategory
  | invalidToken
  | rateLimited
  deriving DecidableEq

inductive AuditSampleDisposition
  | detail
  | summary
  | drop
  deriving DecidableEq

/-- A category, a source and a window. -/
abbrev SampleKey := DenialCategory × Text × Int

def SampleKey.window (k : SampleKey) : Int := k.2.2

/-- The detailed rows of each key, and whether it has its summary. -/
abbrev SampleBuckets := OrderedMap SampleKey (Nat × Bool)

/-- The values that the constructor of the sampler and the settings admit. -/
structure SampleLimits where
  windowSeconds : Nat := 60
  maxBuckets : Nat := 4096
  invalidTokenLimit : Nat := 10
  rateLimitedLimit : Nat := 10
  positive : 1 ≤ windowSeconds ∧ 1 ≤ maxBuckets ∧ 1 ≤ invalidTokenLimit ∧ 1 ≤ rateLimitedLimit

namespace SampleLimits

/-- `_sample_limit`. -/
def limit (S : SampleLimits) : DenialCategory → Nat
  | .invalidToken => S.invalidTokenLimit
  | .rateLimited => S.rateLimitedLimit

/-- The key a denial is counted under, once the windows that are over have been dropped. -/
def effectiveKey (S : SampleLimits) (category : DenialCategory) (source : Option Text) (now : ℚ)
    (buckets : SampleBuckets) : SampleKey × SampleBuckets :=
  let bucket := windowOf S.windowSeconds now
  let key := (category, (source.filter fun t => !t.isEmpty).getD "unknown".toList, bucket)
  let kept := buckets.keep fun k => bucket - 1 ≤ k.window
  if (kept.get? key).isNone && S.maxBuckets ≤ kept.size then
    let overflow := (category, "overflow".toList, bucket)
    (overflow, if (kept.get? overflow).isNone then kept.dropFirst else kept)
  else (key, kept)

/-- `decide`. -/
def decide (S : SampleLimits) (category : DenialCategory) (source : Option Text) (now : ℚ) (buckets : SampleBuckets) :
    (AuditSampleDisposition × SampleKey) × SampleBuckets :=
  let (key, kept) := S.effectiveKey category source now buckets
  let (detailCount, summaryWritten) := (kept.get? key).getD (0, false)
  if detailCount < S.limit category then ((.detail, key), kept.put key (detailCount + 1, summaryWritten))
  else if !summaryWritten then ((.summary, key), kept.put key (detailCount, true))
  else ((.drop, key), kept)

end SampleLimits

/-- `undo`, of the key a decision was counted under. -/
def undoSample (disposition : AuditSampleDisposition) (key : SampleKey) (buckets : SampleBuckets) : SampleBuckets :=
  let (detailCount, summaryWritten) := (buckets.get? key).getD (0, false)
  match disposition with
  | .drop => buckets
  | .detail => if 0 < detailCount then buckets.put key (detailCount - 1, summaryWritten) else buckets
  | .summary => buckets.put key (detailCount, false)

/-! ### tokens -/

/-- The token of a bearer header: the scheme in any case, blanks, and one word. -/
def bearerToken (header : Text) : Option Text :=
  let rest := header.drop 6
  let blank (c : Char) : Bool := c = ' ' || c = '\t'
  let token := rest.dropWhile blank
  if (header.take 6).map Char.toLower = "bearer".toList ∧ rest.takeWhile blank ≠ [] ∧ token ≠ [] ∧
      (token.all fun c => !Text.isSpace c) = true then some token
  else none

def stripHeader (header : Text) : Text := Text.rstrip (header.dropWhile Text.isSpace)

/-- `extract_presented_token`: the authorization header wins, also where it is malformed. -/
def extractPresentedToken (authorization compatibility : Option Text) : Option Text :=
  match authorization with
  | some header => bearerToken (stripHeader header)
  | none => (compatibility.map stripHeader).filter fun token => !token.isEmpty

/-- The fingerprints of the current and the previous token. -/
structure ActiveTokenSet where
  fingerprints : List Text
  nodup : fingerprints.Nodup
  atMostTwo : fingerprints.length ≤ 2

/-- `_normalize`: none where it raises. -/
def ActiveTokenSet.normalize (fingerprint : Text → Text) (tokens : List Text) : Option ActiveTokenSet :=
  let fingerprints := (((tokens.map stripHeader).filter fun t => !t.isEmpty).map fingerprint).reverse.dedup.reverse
  if h : fingerprints.length ≤ 2 then some ⟨fingerprints, List.nodup_reverse.2 (List.nodup_dedup _), h⟩ else none

def unauthorizedError (code : String) (message : String := "Internal token is invalid") : MkbError :=
  ⟨code, message, 401⟩

/-- `authenticate`: the fingerprint of the token, or the error. -/
def ActiveTokenSet.authenticate (fingerprint : Text → Text) (active : ActiveTokenSet)
    (authorization compatibility : Option Text) : Except MkbError Text :=
  match extractPresentedToken authorization compatibility with
  | none =>
    if authorization.isNone && compatibility.isNone then
      .error (unauthorizedError "SEC_TOKEN_MISSING" "Internal token is required")
    else .error (unauthorizedError "SEC_TOKEN_INVALID")
  | some token =>
    if active.fingerprints.contains (fingerprint token) then .ok (fingerprint token)
    else .error (unauthorizedError "SEC_TOKEN_INVALID")

/-! ### requests -/

/-- What admission reads of a request, and the readings of the clock it takes: of the address, the token, the sample. -/
structure AccessRequest where
  remote : Option Text
  authorization : Option Text
  compatibility : Option Text
  ipReading : Option ℚ
  tokenReading : Option ℚ
  sampleReading : ℚ

/-- The row of a denial. -/
structure AuditDenial where
  action : String
  denialCode : String
  httpStatus : Nat
  summary : String
  actorFingerprint : Option Text
  remote : Option Text
  sampled : Bool
  deriving DecidableEq

/-- The samples of `mkb_sec_auth_total` and `mkb_sec_rate_limited_total`, and of the two signals beside them. -/
structure AdmissionMetrics where
  authOk : Nat := 0
  authMissing : Nat := 0
  authInvalid : Nat := 0
  limitedIp : Nat := 0
  limitedToken : Nat := 0
  auditWriteFail : Nat := 0
  limiterDegraded : Bool := false

/-- A denial whose audit row is being written: the answer that is held back meanwhile. -/
structure PendingAudit where
  row : AuditDenial
  disposition : AuditSampleDisposition
  key : SampleKey
  answer : MkbError
  failClosed : Bool

/-- The process of the application, with the rows written so far and the writes that are awaited. -/
structure Admission where
  limiter : RateLimiter := {}
  samples : SampleBuckets := .empty
  metrics : AdmissionMetrics := {}
  rows : List (SampleKey × AuditDenial) := []
  pending : List PendingAudit := []

/-- What the application is composed of. -/
structure AdmissionPolicy where
  limits : RateLimits
  samples : SampleLimits
  tokens : ActiveTokenSet
  fingerprint : Text → Text

def rateLimitedError : MkbError := ⟨"SEC_RATE_LIMITED", "Request rate limit exceeded", 429⟩

def auditWriteError : MkbError := ⟨"SEC_AUDIT_WRITE_FAIL", "Security audit persistence failed", 503⟩

/-- What becomes of a request: a fingerprint or an error at once, or an answer after its audit row is written. -/
inductive AdmissionAnswer
  | admitted (fingerprint : Text)
  | denied (error : MkbError)
  | waiting
  deriving DecidableEq

namespace AdmissionPolicy

variable (A : AdmissionPolicy)

/-- `_audit_denial`, up to the write of its row. -/
def auditDenial (s : Admission) (r : AccessRequest) (category : DenialCategory) (code : String) (status : Nat)
    (summary : String) (actor : Option Text) (answer : MkbError) (failClosed : Bool) : AdmissionAnswer × Admission :=
  let ((disposition, key), samples) := A.samples.decide category r.remote r.sampleReading s.samples
  let s := { s with samples := samples }
  if disposition = .drop then (.denied answer, s)
  else
    let sampled := disposition = .summary
    let action := match category with
      | .invalidToken => if sampled then "auth.token_invalid_sampled" else "auth.token_invalid"
      | .rateLimited => "auth.rate_limited_sampled"
    (.waiting, { s with
      pending := s.pending ++ [⟨⟨action, code, status, summary, actor, r.remote, sampled⟩, disposition, key, answer,
        failClosed⟩] })

/-- `require_business_token`, up to the write of an audit row. -/
def request (s : Admission) (r : AccessRequest) : AdmissionAnswer × Admission :=
  let (ipDecision, limiter) := A.limits.checkIp s.limiter r.remote r.ipReading
  let s := { s with limiter := limiter, metrics := { s.metrics with limiterDegraded := limiter.degraded } }
  if !ipDecision.allowed then
    A.auditDenial { s with metrics := { s.metrics with limitedIp := s.metrics.limitedIp + 1 } } r .rateLimited
      "SEC_RATE_LIMITED" 429 "IP rate limit exceeded" none rateLimitedError false
  else
    match A.tokens.authenticate A.fingerprint r.authorization r.compatibility with
    | .error error =>
      let metrics := if error.code = "SEC_TOKEN_MISSING" then
          { s.metrics with authMissing := s.metrics.authMissing + 1 }
        else { s.metrics with authInvalid := s.metrics.authInvalid + 1 }
      A.auditDenial { s with metrics := metrics } r .invalidToken error.code error.status "Internal token denied" none
        error true
    | .ok fingerprint =>
      let (tokenDecision, limiter) := A.limits.checkToken s.limiter fingerprint r.tokenReading
      let s := { s with limiter := limiter }
      if !tokenDecision.allowed then
        A.auditDenial { s with metrics := { s.metrics with limitedToken := s.metrics.limitedToken + 1 } } r .rateLimited
          "SEC_RATE_LIMITED" 429 "Token rate limit exceeded" (some fingerprint) rateLimitedError false
      else
        (.admitted fingerprint, { s with metrics := { s.metrics with
          authOk := s.metrics.authOk + 1
          limiterDegraded := limiter.degraded } })

/-- The end of an awaited write: the row is there, or its sample is undone. -/
def settle (s : Admission) (i : Nat) (written : Bool) : Option MkbError × Admission :=
  match s.pending[i]? with
  | none => (none, s)
  | some p =>
    let s := { s with pending := s.pending.eraseIdx i }
    if written then (some p.answer, { s with rows := (p.key, p.row) :: s.rows })
    else
      (some (if p.failClosed then auditWriteError else p.answer), { s with
        metrics := { s.metrics with auditWriteFail := s.metrics.auditWriteFail + 1 }
        samples := undoSample p.disposition p.key s.samples })

end AdmissionPolicy

/-- A request that arrives, or the end of an awaited write. -/
inductive AdmissionEvent
  | request (r : AccessRequest)
  | settle (i : Nat) (written : Bool)

def AdmissionPolicy.step (A : AdmissionPolicy) (s : Admission) : AdmissionEvent → Admission
  | .request r => (A.request s r).2
  | .settle i written => (AdmissionPolicy.settle s i written).2

end KnowledgeBase
