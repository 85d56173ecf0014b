import KnowledgeBase.Properties.RateLimits

/-!
# The ledger of admission

However requests and the ends of their audit writes are ordered, each request is counted once, a request is admitted
only with the token of an active fingerprint, and no address and no token is admitted more often than its limit in a
window.
-/

namespace KnowledgeBase

/-- The requests that have been counted. -/
def AdmissionMetrics.total (m : AdmissionMetrics) : Nat :=
  m.authOk + m.authMissing + m.authInvalid + m.limitedIp + m.limitedToken

namespace AdmissionPolicy

variable (A : AdmissionPolicy)

/-! ### the calls of the limiter -/

def ipCall (r : AccessRequest) : LimitCall :=
  ⟨.ip, (r.remote.filter fun t => !t.isEmpty).getD "unknown".toList, r.ipReading⟩

def tokenCall (fingerprint : Text) (r : AccessRequest) : LimitCall := ⟨.token, fingerprint, r.tokenReading⟩

/-- The calls of the limiter that a request makes. -/
def callsOf (s : Admission) (r : AccessRequest) : List LimitCall :=
  if (A.limits.checkIp s.limiter r.remote r.ipReading).1.allowed then
    match A.tokens.authenticate A.fingerprint r.authorization r.compatibility with
    | .error _ => [ipCall r]
    | .ok fingerprint => [ipCall r, tokenCall fingerprint r]
  else [ipCall r]

/-- Those of a run, in their order. -/
def limiterCalls : Admission → List AdmissionEvent → List LimitCall
  | _, [] => []
  | s, .request r :: events => A.callsOf s r ++ limiterCalls (A.step s (.request r)) events
  | s, .settle i written :: events => limiterCalls (A.step s (.settle i written)) events

/-- The fingerprint a request is admitted with. -/
def admitted? (s : Admission) : AdmissionEvent → Option (Text × AccessRequest)
  | .request r =>
    match (A.request s r).1 with
    | .admitted fingerprint => some (fingerprint, r)
    | _ => none
  | .settle _ _ => none

/-- What an admitted request is counted under: its address, or its token. -/
def admittedKey? (dimension : LimitDimension) (s : Admission) (event : AdmissionEvent) : Option BucketKey :=
  (A.admitted? s event).bind fun p => A.limits.key? <|
    match dimension with
    | .ip => ipCall p.2
    | .token => tokenCall p.1 p.2

/-- The readings of the clock that an event takes, in their order. -/
def readings : AdmissionEvent → List ℚ
  | .request r => r.ipReading.toList ++ (r.tokenReading.toList ++ [r.sampleReading])
  | .settle _ _ => []

/-- The clock does not go back. -/
def Monotone (events : List AdmissionEvent) : Prop := (events.flatMap readings).Pairwise (· ≤ ·)

variable {A}

section request

variable {s : Admission} {r : AccessRequest}

theorem auditDenial_keeps (category : DenialCategory) (code : String) (status : Nat) (summary : String)
    (actor : Option Text) (answer : MkbError) (failClosed : Bool) {p : AdmissionAnswer × Admission}
    (h : A.auditDenial s r category code status summary actor answer failClosed = p) :
    p.2.limiter = s.limiter ∧ p.2.metrics = s.metrics ∧ ∀ fingerprint, p.1 ≠ .admitted fingerprint := by
  subst h
  unfold auditDenial
  dsimp only
  split
  · exact ⟨rfl, rfl, fun fingerprint h => by cases h⟩
  · exact ⟨rfl, rfl, fun fingerprint h => by cases h⟩

/-- A request that is denied is counted once, and its calls of the limiter are made. -/
def Denied (A : AdmissionPolicy) (s : Admission) (r : AccessRequest) : Prop :=
  ∃ base category code status summary actor answer failClosed,
    A.request s r = A.auditDenial base r category code status summary actor answer failClosed ∧
      base.samples = s.samples ∧ base.rows = s.rows ∧ base.pending = s.pending ∧
      base.limiter = runFrom A.limits.limiterStep s.limiter (A.callsOf s r) ∧
      base.metrics.total = s.metrics.total + 1 ∧ base.metrics.authOk = s.metrics.authOk ∧
      base.metrics.auditWriteFail = s.metrics.auditWriteFail

/-- A request that is admitted has passed both limits and has an active token. -/
def Admitted (A : AdmissionPolicy) (s : Admission) (r : AccessRequest) (fingerprint : Text) : Prop :=
  (A.request s r).1 = .admitted fingerprint ∧ (A.request s r).2.samples = s.samples ∧
    (A.request s r).2.rows = s.rows ∧ (A.request s r).2.pending = s.pending ∧
    (A.request s r).2.limiter = runFrom A.limits.limiterStep s.limiter (A.callsOf s r) ∧
    (A.request s r).2.metrics.total = s.metrics.total + 1 ∧
    (A.request s r).2.metrics.authOk = s.metrics.authOk + 1 ∧
    (A.request s r).2.metrics.auditWriteFail = s.metrics.auditWriteFail ∧
    A.tokens.authenticate A.fingerprint r.authorization r.compatibility = .ok fingerprint ∧
    A.callsOf s r = [ipCall r, tokenCall fingerprint r] ∧
    A.limits.admitted? s.limiter (ipCall r) = A.limits.key? (ipCall r) ∧
    A.limits.admitted? (A.limits.limiterStep s.limiter (ipCall r)) (tokenCall fingerprint r) =
      A.limits.key? (tokenCall fingerprint r)

section cases

variable {ip : RateLimitDecision} {limiter : RateLimiter}
  (hip : A.limits.checkIp s.limiter r.remote r.ipReading = (ip, limiter))

include hip

theorem limiterStep_ipCall : A.limits.limiterStep s.limiter (ipCall r) = limiter := congrArg Prod.snd hip

theorem denied_of_ip (hallowed : ¬ip.allowed = true) : Denied A s r := by
  have hcalls : A.callsOf s r = [ipCall r] := by simp [callsOf, hip, hallowed]
  refine ⟨{ s with limiter := limiter, metrics := { s.metrics with
      limiterDegraded := limiter.degraded, limitedIp := s.metrics.limitedIp + 1 } },
    .rateLimited, "SEC_RATE_LIMITED", 429, "IP rate limit exceeded", none, rateLimitedError, false, ?_, rfl, rfl, rfl,
    ?_, ?_, rfl, rfl⟩
  · simp [request, hip, hallowed]
  · rw [hcalls, runFrom_cons, limiterStep_ipCall hip]
    rfl
  · simp only [AdmissionMetrics.total]
    omega

theorem denied_of_error (hallowed : ip.allowed = true) {error : MkbError}
    (hauth : A.tokens.authenticate A.fingerprint r.authorization r.compatibility = .error error) : Denied A s r := by
  have hcalls : A.callsOf s r = [ipCall r] := by simp [callsOf, hip, hallowed, hauth]
  refine ⟨{ s with limiter := limiter, metrics := if error.code = "SEC_TOKEN_MISSING" then
        { s.metrics with limiterDegraded := limiter.degraded, authMissing := s.metrics.authMissing + 1 }
      else { s.metrics with limiterDegraded := limiter.degraded, authInvalid := s.metrics.authInvalid + 1 } },
    .invalidToken, error.code, error.status, "Internal token denied", none, error, true, ?_, rfl, rfl, rfl, ?_, ?_⟩
  · simp [request, hip, hallowed, hauth]
  · rw [hcalls, runFrom_cons, limiterStep_ipCall hip]
    rfl
  · split
    · exact ⟨by simp only [AdmissionMetrics.total]; omega, rfl, rfl⟩
    · exact ⟨by simp only [AdmissionMetrics.total]; omega, rfl, rfl⟩

theorem cases_of_token (hallowed : ip.allowed = true) {fingerprint : Text}
    (hauth : A.tokens.authenticate A.fingerprint r.authorization r.compatibility = .ok fingerprint) :
    Denied A s r ∨ Admitted A s r fingerprint := by
  have hcalls : A.callsOf s r = [ipCall r, tokenCall fingerprint r] := by simp [callsOf, hip, hallowed, hauth]
  cases htoken : A.limits.checkToken limiter fingerprint r.tokenReading with
  | mk token limiter' =>
    have hstep' : A.limits.limiterStep limiter (tokenCall fingerprint r) = limiter' := congrArg Prod.snd htoken
    have hrun : runFrom A.limits.limiterStep s.limiter (A.callsOf s r) = limiter' := by
      rw [hcalls, runFrom_cons, runFrom_cons, limiterStep_ipCall hip, hstep']
      rfl
    by_cases hpassed : token.allowed = true
    · right
      have hrequest : A.request s r = (.admitted fingerprint, { s with
          limiter := limiter'
          metrics := { s.metrics with limiterDegraded := limiter'.degraded, authOk := s.metrics.authOk + 1 } }) := by
        simp [request, hip, hallowed, hauth, htoken, hpassed]
      unfold Admitted
      rw [hrequest, hrun]
      refine ⟨rfl, rfl, rfl, rfl, rfl, ?_, rfl, rfl, hauth, hcalls, ?_, ?_⟩
      · simp only [AdmissionMetrics.total]
        omega
      · have hcheck : (A.limits.check s.limiter .ip (ipCall r).identity r.ipReading).1 = ip := congrArg Prod.fst hip
        change (if (A.limits.check s.limiter .ip (ipCall r).identity r.ipReading).1.allowed = true then _ else none) = _
        rw [hcheck, if_pos hallowed]
      · have hcheck : (A.limits.check limiter .token fingerprint r.tokenReading).1 = token := congrArg Prod.fst htoken
        rw [limiterStep_ipCall hip]
        change (if (A.limits.check limiter .token fingerprint r.tokenReading).1.allowed = true then _ else none) = _
        rw [hcheck, if_pos hpassed]
    · left
      refine ⟨{ s with limiter := limiter', metrics := { s.metrics with
          limiterDegraded := limiter.degraded, limitedToken := s.metrics.limitedToken + 1 } },
        .rateLimited, "SEC_RATE_LIMITED", 429, "Token rate limit exceeded", some fingerprint, rateLimitedError, false,
        ?_, rfl, rfl, rfl, hrun.symm, ?_, rfl, rfl⟩
      · simp [request, hip, hallowed, hauth, htoken, hpassed]
      · simp only [AdmissionMetrics.total]
        omega

end cases

theorem request_cases (s : Admission) (r : AccessRequest) :
    Denied A s r ∨ ∃ fingerprint, Admitted A s r fingerprint := by
  cases hip : A.limits.checkIp s.limiter r.remote r.ipReading with
  | mk ip limiter =>
    by_cases hallowed : ip.allowed = true
    · cases hauth : A.tokens.authenticate A.fingerprint r.authorization r.compatibility with
      | error error => exact .inl (denied_of_error hip hallowed hauth)
      | ok fingerprint => exact (cases_of_token hip hallowed hauth).imp_right fun h => ⟨fingerprint, h⟩
    · exact .inl (denied_of_ip hip hallowed)

theorem admitted?_of_denied (h : Denied A s r) : A.admitted? s (.request r) = none := by
  obtain ⟨base, _, _, _, _, _, _, _, hrequest, -⟩ := h
  obtain ⟨-, -, hnobody⟩ := auditDenial_keeps _ _ _ _ _ _ _ hrequest.symm
  cases hanswer : (A.request s r).1 with
  | admitted fingerprint => exact absurd hanswer (hnobody fingerprint)
  | denied error => simp [admitted?, hanswer]
  | waiting => simp [admitted?, hanswer]

theorem admitted?_of_admitted {fingerprint : Text} (h : Admitted A s r fingerprint) :
    A.admitted? s (.request r) = some (fingerprint, r) := by
  simp [admitted?, h.1]

end request

/-! ### runs -/

section runs

variable {s : Admission}

theorem settle_of_none {i : Nat} (h : s.pending[i]? = none) (written : Bool) : A.step s (.settle i written) = s := by
  change (settle s i written).2 = s
  unfold settle
  rw [h]

theorem settle_written {i : Nat} {p : PendingAudit} (h : s.pending[i]? = some p) :
    A.step s (.settle i true) = { s with pending := s.pending.eraseIdx i, rows := (p.key, p.row) :: s.rows } := by
  change (settle s i true).2 = _
  unfold settle
  rw [h]
  rfl

theorem settle_failed {i : Nat} {p : PendingAudit} (h : s.pending[i]? = some p) :
    A.step s (.settle i false) = { s with
      pending := s.pending.eraseIdx i
      metrics := { s.metrics with auditWriteFail := s.metrics.auditWriteFail + 1 }
      samples := undoSample p.disposition p.key s.samples } := by
  change (settle s i false).2 = _
  unfold settle
  rw [h]
  rfl

theorem settle_keeps (s : Admission) (i : Nat) (written : Bool) :
    (A.step s (.settle i written)).limiter = s.limiter ∧
      (A.step s (.settle i written)).metrics.total = s.metrics.total ∧
      (A.step s (.settle i written)).metrics.authOk = s.metrics.authOk := by
  cases h : s.pending[i]? with
  | none =>
    rw [settle_of_none h]
    exact ⟨rfl, rfl, rfl⟩
  | some p =>
    cases written with
    | true =>
      rw [settle_written h]
      exact ⟨rfl, rfl, rfl⟩
    | false =>
      rw [settle_failed h]
      exact ⟨rfl, rfl, rfl⟩

theorem limiter_request (s : Admission) (r : AccessRequest) :
    (A.step s (.request r)).limiter = runFrom A.limits.limiterStep s.limiter (A.callsOf s r) := by
  rcases request_cases (A := A) s r with
    ⟨base, _, _, _, _, _, _, _, h, -, -, -, hlimiter, -⟩ | ⟨_, _, _, _, _, hlimiter, _⟩
  · exact (auditDenial_keeps _ _ _ _ _ _ _ h.symm).1.trans hlimiter
  · exact hlimiter

theorem metrics_request (s : Admission) (r : AccessRequest) :
    (A.step s (.request r)).metrics.total = s.metrics.total + 1 ∧
      (A.step s (.request r)).metrics.authOk =
        s.metrics.authOk + (A.admitted? s (.request r)).toList.length := by
  rcases request_cases (A := A) s r with hdenied | ⟨fingerprint, hadmitted⟩
  · rw [admitted?_of_denied hdenied]
    obtain ⟨base, _, _, _, _, _, _, _, h, -, -, -, -, htotal, hok, -⟩ := hdenied
    obtain ⟨-, hmetrics, -⟩ := auditDenial_keeps _ _ _ _ _ _ _ h.symm
    change (A.request s r).2.metrics.total = _ ∧ (A.request s r).2.metrics.authOk = _
    rw [hmetrics]
    exact ⟨htotal, hok⟩
  · rw [admitted?_of_admitted hadmitted]
    obtain ⟨-, -, -, -, -, htotal, hok, -⟩ := hadmitted
    exact ⟨htotal, hok⟩

def isRequest : AdmissionEvent → Bool
  | .request _ => true
  | .settle _ _ => false

theorem observed_cons {σ ω α : Type} {step : σ → ω → σ} {obs : σ → ω → Option α} (s : σ) (o : ω) (l : List ω) :
    observed step obs s (o :: l) = (obs s o).toList ++ observed step obs (step s o) l := rfl

theorem observed_append {σ ω α : Type} {step : σ → ω → σ} {obs : σ → ω → Option α} (l l' : List ω) : ∀ s : σ,
    observed step obs s (l ++ l') = observed step obs s l ++ observed step obs (runFrom step s l) l' := by
  induction l with
  | nil => exact fun s => rfl
  | cons o l ih =>
    intro s
    rw [List.cons_append, observed_cons, observed_cons, ih, List.append_assoc, runFrom_cons]

theorem metrics_run (events : List AdmissionEvent) : ∀ s : Admission,
    (runFrom A.step s events).metrics.total = s.metrics.total + events.countP isRequest ∧
      (runFrom A.step s events).metrics.authOk = s.metrics.authOk + (observed A.step A.admitted? s events).length := by
  induction events with
  | nil => exact fun s => ⟨rfl, rfl⟩
  | cons event events ih =>
    intro s
    obtain ⟨htotal, hok⟩ := ih (A.step s event)
    rw [runFrom_cons, htotal, hok, observed_cons, List.countP_cons, List.length_append]
    cases event with
    | request r =>
      obtain ⟨htotal, hok⟩ := metrics_request (A := A) s r
      rw [htotal, hok]
      simp only [isRequest, if_true]
      constructor <;> omega
    | settle i written =>
      obtain ⟨-, htotal, hok⟩ := settle_keeps (A := A) s i written
      rw [htotal, hok]
      simp [isRequest, admitted?]

theorem sublist_request (dimension : LimitDimension) (s : Admission) (r : AccessRequest) :
    (A.admittedKey? dimension s (.request r)).toList.Sublist
      (observed A.limits.limiterStep A.limits.admitted? s.limiter (A.callsOf s r)) := by
  unfold admittedKey?
  rcases request_cases (A := A) s r with hdenied | ⟨fingerprint, hadmitted⟩
  · rw [admitted?_of_denied hdenied]
    exact List.nil_sublist _
  · rw [admitted?_of_admitted hadmitted]
    obtain ⟨-, -, -, -, -, -, -, -, -, hcalls, hip, htoken⟩ := hadmitted
    rw [hcalls]
    simp only [observed, hip, htoken, List.append_nil, Option.bind_some]
    cases dimension with
    | ip => exact List.sublist_append_left _ _
    | token => exact List.sublist_append_right _ _

theorem sublist_run (dimension : LimitDimension) (events : List AdmissionEvent) : ∀ s : Admission,
    (observed A.step (A.admittedKey? dimension) s events).Sublist
      (observed A.limits.limiterStep A.limits.admitted? s.limiter (A.limiterCalls s events)) := by
  induction events with
  | nil => exact fun s => List.nil_sublist _
  | cons event events ih =>
    intro s
    rw [observed_cons]
    cases event with
    | request r =>
      rw [limiterCalls, observed_append, ← limiter_request]
      exact (sublist_request dimension s r).append (ih _)
    | settle i written =>
      have h := ih (A.step s (.settle i written))
      rw [(settle_keeps s i written).1] at h
      exact h

theorem readings_callsOf (s : Admission) (r : AccessRequest) :
    ((A.callsOf s r).flatMap fun c => c.reading.toList).Sublist (readings (.request r)) := by
  have hip : ([ipCall r].flatMap fun c => c.reading.toList).Sublist (readings (.request r)) := by
    rw [List.flatMap_singleton]
    exact List.sublist_append_left _ _
  unfold callsOf
  split
  · split
    · exact hip
    · rw [List.flatMap_cons, List.flatMap_singleton]
      exact (List.Sublist.refl _).append (List.sublist_append_left _ _)
  · exact hip

theorem readings_limiterCalls (events : List AdmissionEvent) : ∀ s : Admission,
    ((A.limiterCalls s events).flatMap fun c => c.reading.toList).Sublist (events.flatMap readings) := by
  induction events with
  | nil => exact fun s => List.nil_sublist _
  | cons event events ih =>
    intro s
    rw [List.flatMap_cons]
    cases event with
    | request r =>
      rw [limiterCalls, List.flatMap_append]
      exact (readings_callsOf s r).append (ih _)
    | settle i written => exact ih _

theorem windowOf_mono (windowSeconds : Nat) {now now' : ℚ} (h : now ≤ now') :
    windowOf windowSeconds now ≤ windowOf windowSeconds now' :=
  Int.floor_mono (div_le_div_of_nonneg_right h (Nat.cast_nonneg _))

theorem lagged_of_monotone {L : RateLimits} {calls : List LimitCall}
    (h : (calls.flatMap fun c => c.reading.toList).Pairwise (· ≤ ·)) : L.Lagged calls := by
  refine (List.pairwise_flatMap.1 h).2.imp fun {c c'} hle k hk k' hk' => ?_
  obtain ⟨now, hreading, rfl⟩ := Option.map_eq_some_iff.1 hk
  obtain ⟨now', hreading', rfl⟩ := Option.map_eq_some_iff.1 hk'
  have hwindow := windowOf_mono L.windowSeconds
    (hle now (by rw [hreading]; exact List.mem_singleton_self _) now'
      (by rw [hreading']; exact List.mem_singleton_self _))
  change windowOf L.windowSeconds now ≤ windowOf L.windowSeconds now' + 1
  omega

theorem authenticate_eq_ok {active : ActiveTokenSet} {fingerprint : Text → Text}
    {authorization compatibility : Option Text}
    {found : Text} (h : active.authenticate fingerprint authorization compatibility = .ok found) :
    ∃ token, extractPresentedToken authorization compatibility = some token ∧ found = fingerprint token ∧
      found ∈ active.fingerprints := by
  unfold ActiveTokenSet.authenticate at h
  cases htoken : extractPresentedToken authorization compatibility with
  | none =>
    rw [htoken] at h
    dsimp only at h
    split at h <;> cases h
  | some token =>
    rw [htoken] at h
    dsimp only at h
    split at h
    · next hactive =>
      cases h
      exact ⟨token, rfl, rfl, List.contains_iff_mem.1 hactive⟩
    · cases h

theorem mem_observed {σ ω α : Type} {step : σ → ω → σ} {obs : σ → ω → Option α} {a : α} {l : List ω} : ∀ {s : σ},
    a ∈ observed step obs s l → ∃ s' o, obs s' o = some a := by
  induction l with
  | nil =>
    intro s h
    cases h
  | cons o l ih =>
    intro s h
    rcases List.mem_append.1 h with h | h
    · exact ⟨s, o, Option.mem_toList.1 h⟩
    · exact ih h

end runs

end AdmissionPolicy

/-- The ledger of admission: each request is counted once, those that are admitted have an active token, and no address
and no token is admitted more often than its limit in a window. -/
theorem admission_ledger (A : AdmissionPolicy) (henabled : A.limits.enabled = true) (events : List AdmissionEvent)
    (hclock : AdmissionPolicy.Monotone events) :
    ((runFrom A.step {} events).metrics.total = events.countP AdmissionPolicy.isRequest ∧
      (runFrom A.step {} events).metrics.authOk = (observed A.step A.admitted? {} events).length) ∧
    (∀ p ∈ observed A.step A.admitted? {} events, ∃ token,
      extractPresentedToken p.2.authorization p.2.compatibility = some token ∧ p.1 = A.fingerprint token ∧
        p.1 ∈ A.tokens.fingerprints) ∧
    ∀ dimension k, (observed A.step (A.admittedKey? dimension) {} events).count k ≤ A.limits.limit k.1 := by
  have hmetrics := AdmissionPolicy.metrics_run (A := A) events {}
  refine ⟨⟨?_, ?_⟩, fun p hp => ?_, fun dimension k => ?_⟩
  · rw [hmetrics.1]
    exact Nat.zero_add _
  · rw [hmetrics.2]
    exact Nat.zero_add _
  · obtain ⟨s, event, hp⟩ := AdmissionPolicy.mem_observed hp
    cases event with
    | settle i written => cases hp
    | request r =>
      rcases AdmissionPolicy.request_cases (A := A) s r with hdenied | ⟨fingerprint, hadmitted⟩
      · rw [AdmissionPolicy.admitted?_of_denied hdenied] at hp
        cases hp
      · rw [AdmissionPolicy.admitted?_of_admitted hadmitted] at hp
        cases hp
        obtain ⟨-, -, -, -, -, -, -, -, hauth, -⟩ := hadmitted
        exact AdmissionPolicy.authenticate_eq_ok hauth
  · have hlag : A.limits.Lagged (A.limiterCalls {} events) :=
      AdmissionPolicy.lagged_of_monotone (hclock.sublist (AdmissionPolicy.readings_limiterCalls events {}))
    have hsub := (AdmissionPolicy.sublist_run (A := A) dimension events {}).count_le k
    have hcount := RateLimits.count_admitted_le henabled k (A.limiterCalls {} events) {} 0 hlag (Nat.zero_le _)
      ⟨fun v _ => Nat.zero_le v, fun _ => .inl rfl⟩
    rw [Nat.zero_add] at hcount
    exact hsub.trans hcount

/-- One active token, which is its own fingerprint. -/
def oneToken : AdmissionPolicy where
  limits := onceLimits
  samples := { positive := by decide }
  tokens := ⟨["s".toList], List.nodup_singleton _, by decide⟩
  fingerprint := id

/-- A request with the token, and one without. -/
def tokenRequest : AccessRequest := ⟨none, some "Bearer s".toList, none, some 0, some 0, 0⟩

def bareRequest : AccessRequest := ⟨none, none, none, some 0, some 0, 0⟩

/-- Three requests with the token, of which the limits admit one, and one without it. -/
def fourRequests : List AdmissionEvent := List.replicate 3 (.request tokenRequest) ++ [.request bareRequest]

theorem admission_ledger_limit :
    ((runFrom oneToken.step {} fourRequests).metrics.total = 4 ∧
      (runFrom oneToken.step {} fourRequests).metrics.authOk = 1) ∧
      ∀ dimension k, (observed oneToken.step (oneToken.admittedKey? dimension) {} fourRequests).count k ≤
        oneToken.limits.limit k.1 := by
  have hclock : AdmissionPolicy.Monotone fourRequests := by
    change List.Pairwise (· ≤ ·) (List.replicate 12 (0 : ℚ))
    exact List.pairwise_replicate.2 (.inr le_rfl)
  have h := admission_ledger oneToken rfl fourRequests hclock
  exact ⟨⟨h.1.1, by decide +kernel⟩, h.2.2⟩

end KnowledgeBase
