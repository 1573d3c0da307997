import Custos.Library.StableSort
import Custos.Service.TargetUrl
import Mathlib.Data.Prod.Lex

/-!
# Forwarding a request

`forward` of `custos/execution.py` with all it is given, and the request it hands to the HTTP client. The
target is validated and the request is pinned to one of its addresses, under a URL put together anew; the
name of the target goes into the `Host` header and the SNI.
-/

namespace Custos

/-- The arguments of `forward`, those the caller may leave out included. -/
structure ForwardArgs where
  url : String
  method : String := "POST"
  content : String := ""
  headers : Option (List (String × String)) := none
  timeout : Option ℚ := none

/-- What the adapter is made with beside its circuits. -/
structure AdapterConfig where
  allowlist : Finset String := ∅
  defaultTimeout : ℚ := 10

/-- A call of the client. -/
structure ClientRequest where
  method : String
  url : String
  content : String
  headers : List (String × String)
  timeout : ℚ
  sniHostname : String
  deriving DecidableEq

/-- What a request meets outside: the answers of `getaddrinfo`, how each request to the client ends, and the
clock. -/
structure Outside where
  getaddrinfo : String → Resolution
  request : ClientRequest → RequestEnd
  clock : Nat → ℚ

/-- `d[key] = value`. -/
def setItem (key value : String) : List (String × String) → List (String × String)
  | [] => [(key, value)]
  | (k, v) :: items => if k = key then (key, value) :: items else (k, v) :: setItem key value items

/-- The headers of a request: those of the caller over the default, and the name of the target over these. -/
def mergeHeaders (headers : Option (List (String × String))) (host : String) : List (String × String) :=
  setItem "Host" host
    ((headers.getD []).foldl (fun items item => setItem item.1 item.2 items)
      [("Content-Type", "application/json")])

/-- The key the pinned addresses are sorted by: those of version 4 first. -/
def addressKey (text : String) : Bool ×ₗ String := toLex (decide (':' ∈ text.toList), text)

/-- There is an address to connect to. -/
lemma sortBy_ne_nil (pinned : Pinned) : sortBy addressKey pinned.1 ≠ [] := by
  intro empty
  have perm := sortBy_perm addressKey pinned.1
  rw [empty] at perm
  exact pinned.2 perm.nil_eq.symm

/-- `sorted(pinned_ips, key=...)[0]`. -/
def firstPinned (pinned : Pinned) : String := (sortBy addressKey pinned.1).head (sortBy_ne_nil pinned)

/-- The URL of the request: the parsed one with an address in the place of the host. -/
def pinnedUrl (ip : String) (parsed : Url.Parts) (port : Option Nat) : String :=
  .ofList ("https://".toList ++ (Url.hostText ip.toList ++ Url.portText (port.filter (· ≠ 0)) ++
    ((if parsed.path = [] then ['/'] else parsed.path) ++ Url.queryText parsed.query)))

namespace HTTPExecutionAdapter

variable [NetLib]

/-- The request `forward` puts together. -/
def requestFor (cfg : AdapterConfig) (args : ForwardArgs) (pinned : Pinned) : Except String ClientRequest :=
  match urlparse args.url with
  | .error msg => .error msg
  | .ok parsed =>
    let host := (hostname parsed).getD ""
    match port parsed with
    | .error msg => .error msg
    | .ok port => .ok
      { method := args.method
        url := pinnedUrl (firstPinned pinned) parsed port
        content := args.content
        headers := mergeHeaders args.headers host
        timeout := (args.timeout.filter (· ≠ 0)).getD cfg.defaultTimeout
        sniHostname := host }

omit [NetLib] in
/-- What `forward` makes of the end of a request. -/
def conclude (a : HTTPExecutionAdapter) (targetHost : String) (now : ℚ) :
    RequestEnd → ExecutionResult × HTTPExecutionAdapter
  | .response statusCode text =>
    ({ forwarded := true, statusCode := some statusCode
       responseBody := if text = "" then none else some (slice text 500) }, a.recordSuccess targetHost)
  | .timeout =>
    ({ forwarded := false, error := some "Downstream timeout" }, a.recordFailure targetHost now)
  | .connectError =>
    ({ forwarded := false, error := some "Downstream connection refused" }, a.recordFailure targetHost now)
  | .raised typeName text =>
    ({ forwarded := false, error := some ("Forwarding failed: " ++ typeName ++ ": " ++ text) },
      a.recordFailure targetHost now)

/-- `forward`, with the request to the client, if it comes to one. -/
def forwardRequest (cfg : AdapterConfig) (a : HTTPExecutionAdapter) (args : ForwardArgs) (env : Outside) :
    (Except Exn ExecutionResult × HTTPExecutionAdapter) × Option ClientRequest :=
  match getHost args.url with
  | .error e => ((.error e, a), none)
  | .ok targetHost =>
    match validateTargetUrl cfg.allowlist args.url env.getaddrinfo with
    -- only `SSRFError` is caught
    | .error (.raised e) => ((.error e, a), none)
    | .error (.ssrf text) => ((.ok { forwarded := false, error := some ("SSRF blocked: " ++ text) }, a), none)
    | .ok pinned =>
      let (ok, a) := a.canRequest targetHost env.clock
      if ¬ ok then
        ((.ok { forwarded := false, error := some "Circuit breaker open", circuitOpen := true }, a), none)
      else
        match requestFor cfg args pinned with
        | .error msg =>
          let (r, a) := a.conclude targetHost (env.clock 2) (.raised "ValueError" msg)
          ((.ok r, a), none)
        | .ok req =>
          let (r, a) := a.conclude targetHost (env.clock 2) (env.request req)
          ((.ok r, a), some req)

/-! ## What a call comes to -/

variable {cfg : AdapterConfig} {a : HTTPExecutionAdapter} {args : ForwardArgs} {env : Outside}

/-- The host is not read where the URL cannot be parsed. -/
lemma getHost_eq_error_iff {url : String} {e : Exn} :
    getHost url = .error e ↔ ∃ msg, urlparse url = .error msg ∧ e = .ValueError msg := by
  have name : UrlLib.hostname url = targetName url := rfl
  unfold getHost
  rw [name]
  unfold targetName
  cases urlparse url with
  | error msg =>
    constructor
    · intro h
      cases h
      exact ⟨msg, rfl, rfl⟩
    · rintro ⟨msg', h, rfl⟩
      cases h
      rfl
  | ok parts =>
    refine iff_of_false (fun h => ?_) ?_
    · dsimp only at h
      split at h <;> cases h
    · rintro ⟨msg, h, -⟩
      cases h

/-- A host that cannot be read raises in the validation. -/
lemma validateTargetUrl_of_getHost {allowlist : Finset String} {url : String}
    {getaddrinfo : String → Resolution} {e : Exn} (fails : getHost url = .error e) :
    validateTargetUrl allowlist url getaddrinfo = .error (.raised e) := by
  obtain ⟨msg, unparsed, rfl⟩ := getHost_eq_error_iff.1 fails
  exact validateTargetUrl_raised_iff.2 (.inl ⟨msg, unparsed, rfl⟩)

omit [NetLib] in
/-- How a request ends decides whether it counts as forwarded. -/
lemma conclude_spec (a : HTTPExecutionAdapter) (targetHost : String) (now : ℚ) (e : RequestEnd) :
    ((a.conclude targetHost now e).1.forwarded = true ∧ ∃ statusCode text, e = .response statusCode text) ∨
      ((a.conclude targetHost now e).1.forwarded = false ∧ (a.conclude targetHost now e).1.error ≠ none) := by
  cases e with
  | response statusCode text => exact .inl ⟨rfl, statusCode, text, rfl⟩
  | timeout => exact .inr ⟨rfl, Option.some_ne_none _⟩
  | connectError => exact .inr ⟨rfl, Option.some_ne_none _⟩
  | raised typeName text => exact .inr ⟨rfl, Option.some_ne_none _⟩

/-- A call raises what is raised before the request, and nothing else. -/
lemma forwardRequest_raised {e : Exn}
    (raised : validateTargetUrl cfg.allowlist args.url env.getaddrinfo = .error (.raised e)) :
    forwardRequest cfg a args env = ((.error e, a), none) := by
  unfold forwardRequest
  cases host : getHost args.url with
  | error e' =>
    cases (validateTargetUrl_of_getHost host).symm.trans raised
    rfl
  | ok targetHost =>
    dsimp only
    rw [raised]

/-- A refused target comes to no request. -/
lemma forwardRequest_refused {text : String}
    (refused : validateTargetUrl cfg.allowlist args.url env.getaddrinfo = .error (.ssrf text)) :
    forwardRequest cfg a args env =
      ((.ok { forwarded := false, error := some ("SSRF blocked: " ++ text) }, a), none) := by
  unfold forwardRequest
  cases host : getHost args.url with
  | error e =>
    cases (validateTargetUrl_of_getHost host).symm.trans refused
  | ok targetHost =>
    dsimp only
    rw [refused]

/-- A call for a target that passes the validation returns, and its request, if it comes to one, is the pinned
one. -/
lemma forwardRequest_pinned {pinned : Pinned}
    (ok : validateTargetUrl cfg.allowlist args.url env.getaddrinfo = .ok pinned) :
    ∃ r, (forwardRequest cfg a args env).1.1 = .ok r ∧
      ((forwardRequest cfg a args env).2 = none ∧ r.forwarded = false ∧ r.error ≠ none ∨
        ∃ req, (forwardRequest cfg a args env).2 = some req ∧ requestFor cfg args pinned = .ok req ∧
          ((r.forwarded = true ∧ ∃ statusCode text, env.request req = .response statusCode text) ∨
            (r.forwarded = false ∧ r.error ≠ none))) := by
  unfold forwardRequest
  cases host : getHost args.url with
  | error e =>
    cases (validateTargetUrl_of_getHost host).symm.trans ok
  | ok targetHost =>
    dsimp only
    rw [ok]
    dsimp only
    generalize a.canRequest targetHost env.clock = asked
    obtain ⟨proceed, a'⟩ := asked
    dsimp only
    split
    · exact ⟨_, rfl, .inl ⟨rfl, rfl, Option.some_ne_none _⟩⟩
    · cases built : requestFor cfg args pinned with
      | error msg => exact ⟨_, rfl, .inl ⟨rfl, rfl, Option.some_ne_none _⟩⟩
      | ok req => exact ⟨_, rfl, .inr ⟨req, rfl, rfl, a'.conclude_spec targetHost _ _⟩⟩

/-- A call that raises nothing is the call the circuits were followed through, with the refusal and the end of
the request it meets. -/
theorem forwardRequest_eq_forward (free : ∀ e, validateTargetUrl cfg.allowlist args.url env.getaddrinfo ≠
    .error (.raised e)) :
    ∃ met : ForwardEnv, met.clock = env.clock ∧ (forwardRequest cfg a args env).1 = a.forward args.url met := by
  unfold forwardRequest forward
  cases host : getHost args.url with
  | error e => exact ⟨⟨none, .timeout, env.clock⟩, rfl, rfl⟩
  | ok targetHost =>
    dsimp only
    cases valid : validateTargetUrl cfg.allowlist args.url env.getaddrinfo with
    | error refusal =>
      cases refusal with
      | raised e => exact absurd valid (free e)
      | ssrf text => exact ⟨⟨some text, .timeout, env.clock⟩, rfl, rfl⟩
    | ok pinned =>
      cases built : requestFor cfg args pinned with
      | error msg =>
        refine ⟨⟨none, .raised "ValueError" msg, env.clock⟩, rfl, ?_⟩
        dsimp only
        split
        · rfl
        · rw [built]
          rfl
      | ok req =>
        refine ⟨⟨none, env.request req, env.clock⟩, rfl, ?_⟩
        dsimp only
        split
        · rfl
        · rw [built]
          dsimp only
          generalize env.request req = ended
          cases ended with
          | response statusCode text => rfl
          | timeout => rfl
          | connectError => rfl
          | raised typeName text => rfl

/-- A call returns exactly where the parser takes its URL and the lookup, if the URL comes to one, raises nothing
but `gaierror`. What it returns says forwarded only of a request that was answered, and an error otherwise; a
refused target comes to no request. -/
theorem forwardRequest_returns_iff (cfg : AdapterConfig) (a : HTTPExecutionAdapter) (args : ForwardArgs)
    (env : Outside) :
    ((∃ r, (forwardRequest cfg a args env).1.1 = .ok r) ↔
      (∃ parsed, urlparse args.url = .ok parsed) ∧
        ∀ host, LooksUp cfg.allowlist args.url host → ∀ e, env.getaddrinfo host ≠ .raised e) ∧
    (∀ r, (forwardRequest cfg a args env).1.1 = .ok r →
      (r.forwarded = true ∧ ∃ req, (forwardRequest cfg a args env).2 = some req ∧
          ∃ statusCode text, env.request req = .response statusCode text) ∨
        (r.forwarded = false ∧ r.error ≠ none)) ∧
    ∀ refusal, validateTargetUrl cfg.allowlist args.url env.getaddrinfo = .error refusal →
      (forwardRequest cfg a args env).2 = none ∧
        ∀ r, (forwardRequest cfg a args env).1.1 = .ok r → r.forwarded = false ∧ r.error ≠ none := by
  have raises : ∀ e, validateTargetUrl cfg.allowlist args.url env.getaddrinfo = .error (.raised e) ↔ _ :=
    fun _ => validateTargetUrl_raised_iff
  cases valid : validateTargetUrl cfg.allowlist args.url env.getaddrinfo with
  | error refusal =>
    cases refusal with
    | raised e =>
      rw [forwardRequest_raised valid]
      refine ⟨iff_of_false ?_ ?_, ?_, ?_⟩
      · rintro ⟨r, h⟩
        cases h
      · rintro ⟨⟨parsed, parses⟩, free⟩
        rcases (raises e).1 valid with ⟨msg, fails, -⟩ | ⟨host, looks, raised⟩
        · cases parses.symm.trans fails
        · exact free host looks e raised
      · intro r h
        cases h
      · intro refusal _
        refine ⟨rfl, fun r h => ?_⟩
        cases h
    | ssrf text =>
      rw [forwardRequest_refused valid]
      have blocked : ∀ r, (Except.ok { forwarded := false, error := some ("SSRF blocked: " ++ text) } :
          Except Exn ExecutionResult) = .ok r → r.forwarded = false ∧ r.error ≠ none := by
        intro r h
        cases h
        exact ⟨rfl, Option.some_ne_none _⟩
      refine ⟨iff_of_true ⟨_, rfl⟩ ⟨?_, ?_⟩, fun r h => .inr (blocked r h), fun refusal _ => ⟨rfl, blocked⟩⟩
      · cases parses : urlparse args.url with
        | ok parsed => exact ⟨parsed, rfl⟩
        | error msg => cases valid.symm.trans ((raises _).2 (.inl ⟨msg, parses, rfl⟩))
      · intro host looks e raised
        cases valid.symm.trans ((raises _).2 (.inr ⟨host, looks, raised⟩))
  | ok pinned =>
    obtain ⟨r, returned, spec⟩ := forwardRequest_pinned (a := a) valid
    refine ⟨iff_of_true ⟨r, returned⟩ ⟨?_, ?_⟩, fun r' h => ?_, fun refusal h => by cases h⟩
    · obtain ⟨parsed, host, port, checked, -⟩ := validateTargetUrl_ok valid
      exact ⟨parsed, checked.parses⟩
    · intro host looks e raised
      cases valid.symm.trans ((raises _).2 (.inr ⟨host, looks, raised⟩))
    · cases returned.symm.trans h
      rcases spec with ⟨_, failed⟩ | ⟨req, sent, _, answered | failed⟩
      · exact .inr failed
      · exact .inl ⟨answered.1, req, sent, answered.2⟩
      · exact .inr failed

end HTTPExecutionAdapter

section Sample

open HTTPExecutionAdapter

/-- The standard library on ASCII texts, and on two addresses, one of them public. -/
@[reducible] def asciiNet : NetLib where
  lower s := .ofList (s.toList.map Char.toLower)
  nfkc s := s
  ipAddress s :=
    if s = "93.184.216.34" then some { text := "93.184.216.34" }
    else if s = "127.0.0.1" then some { text := "127.0.0.1", isPrivate := true, isLoopback := true }
    else none

local instance forwardingNet : NetLib := asciiNet

/-- A host with one public address, and a client that gets an answer. -/
def reachable : Outside where
  getaddrinfo _ := .addresses ["93.184.216.34"]
  request _ := .response 200 "ok"
  clock _ := 0

/-- A host name that cannot be encoded. -/
def unencodable : Outside where
  getaddrinfo _ := .raised (.Other "UnicodeError" "label empty or too long")
  request _ := .response 200 "ok"
  clock _ := 0

/-- A call with a well-formed target returns. -/
theorem forwardRequest_returns_iff_sample :
    ∃ r, (forwardRequest {} {} { url := "https://api.bank.example/v1" } reachable).1.1 = .ok r :=
  (forwardRequest_returns_iff {} {} { url := "https://api.bank.example/v1" } reachable).1.2
    ⟨⟨_, rfl⟩, fun _ _ _ h => by cases h⟩

/-- A bracket that is not closed raises, and so does a host name that cannot be encoded. -/
theorem malformed_target_raises :
    (forwardRequest {} {} { url := "https://[::1/v1" } reachable).1.1 =
        .error (.ValueError "Invalid IPv6 URL") ∧
      (forwardRequest {} {} { url := "https://api..bank.example/v1" } unencodable).1.1 =
        .error (.Other "UnicodeError" "label empty or too long") :=
  ⟨rfl, rfl⟩

end Sample

end Custos
