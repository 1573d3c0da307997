import Custos.Library.Url
import Custos.Service.Execution

/-!
# The target of a request

`_validate_target_url` of `custos/execution.py`, on `urlparse`, `ipaddress.ip_address` and
`socket.getaddrinfo`. A target is an address or a host name with all addresses it has; it is refused, or the
request is pinned to these addresses. What is refused is told from what is raised (`Refusal`): only the first is
caught.
-/

namespace Custos

/-- An address as `ipaddress` reads it, with the text `str` gives of it. -/
structure IpAddress where
  text : String
  v6 : Bool := false
  isPrivate : Bool := false
  isLoopback : Bool := false
  isLinkLocal : Bool := false
  isReserved : Bool := false
  isUnspecified : Bool := false
  deriving DecidableEq

/-- What the parsing of a target takes from the standard library: `str.lower`, the NFKC form of
`unicodedata.normalize`, and `ipaddress.ip_address`, which raises a `ValueError` or gives an address. -/
class NetLib where
  lower : String → String
  nfkc : String → String
  ipAddress : String → Option IpAddress

export NetLib (nfkc ipAddress)

namespace IpAddress

/-- The address is one that no request may reach. -/
def blocked (ip : IpAddress) : Bool :=
  ip.isPrivate || ip.isLoopback || ip.isLinkLocal || ip.isReserved || ip.isUnspecified

end IpAddress

/-! ## `urlparse` -/

section

variable [NetLib]

/-- `_check_bracketed_host`. -/
def checkBracketedHost (host : List Char) : Except String Unit :=
  match host with
  | 'v' :: future =>
    match cutFirst ['.'] future with
    | some (version, rest) =>
      if version ≠ [] ∧ version.all (fun c => c.isDigit || ('a' ≤ c ∧ c ≤ 'f') || ('A' ≤ c ∧ c ≤ 'F')) ∧
          rest ≠ [] then .ok ()
      else .error "IPvFuture address is invalid"
    | none => .error "IPvFuture address is invalid"
  | host =>
    match ipAddress (.ofList host) with
    | none => .error (pyRepr (.ofList host) ++ " does not appear to be an IPv4 or IPv6 address")
    | some ip => if ip.v6 then .ok () else .error "An IPv4 address cannot be in brackets"

/-- `_check_bracketed_netloc`. -/
def checkBracketedNetloc (netloc : List Char) : Except String Unit :=
  let hostnameAndPort := (cutLast '@' netloc).elim netloc (·.2)
  match cutFirst ['['] hostnameAndPort with
  | some (beforeBracket, bracketed) =>
    if beforeBracket ≠ [] then .error "Invalid IPv6 URL"
    else
      let (host, port) := Url.partition ']' bracketed
      if port ≠ [] ∧ port.head? ≠ some ':' then .error "Invalid IPv6 URL" else checkBracketedHost host
  | none => checkBracketedHost (Url.partition ':' hostnameAndPort).1

/-- The checks of brackets in `urlsplit`. -/
def checkBrackets (netloc : List Char) : Except String Unit :=
  if ('[' ∈ netloc ∧ ']' ∉ netloc) ∨ (']' ∈ netloc ∧ '[' ∉ netloc) then .error "Invalid IPv6 URL"
  else if '[' ∈ netloc ∧ ']' ∈ netloc then checkBracketedNetloc netloc
  else .ok ()

/-- `_checknetloc`. -/
def checkNetloc (netloc : List Char) : Except String Unit :=
  if netloc.all fun c => c.toNat < 128 then .ok ()
  else
    let n : String := .ofList (netloc.filter (· ∉ "@:#?".toList))
    if n = nfkc n then .ok ()
    else if "/?#@:".toList.any (· ∈ (nfkc n).toList) then
      .error ("netloc '" ++ .ofList netloc ++ "' contains invalid characters under NFKC normalization")
    else .ok ()

/-- `urlparse`. -/
def urlparse (url : String) : Except String Url.Parts :=
  let parts := Url.split url.toList
  match checkBrackets parts.netloc with
  | .error msg => .error msg
  | .ok () =>
    match checkNetloc parts.netloc with
    | .error msg => .error msg
    | .ok () => .ok parts

/-- `hostname`: a zone keeps its case. -/
def hostname (parts : Url.Parts) : Option String :=
  match (Url.hostInfo parts.netloc).1 with
  | [] => none
  | host =>
    match cutFirst ['%'] host with
    | some (name, zone) => some (NetLib.lower (.ofList name) ++ "%" ++ .ofList zone)
    | none => some (NetLib.lower (.ofList host))

/-- `port`. -/
def port (parts : Url.Parts) : Except String (Option Nat) :=
  match Url.readPort (Url.hostInfo parts.netloc).2 with
  | .ok port => .ok port
  | .error (.noNumber text) => .error ("Port could not be cast to integer value as " ++ pyRepr (.ofList text))
  | .error (.tooManyDigits count) =>
    .error ("Exceeds the limit (4300 digits) for integer string conversion: value has " ++ toString count ++
      " digits; use sys.set_int_max_str_digits() to increase the limit")
  | .error .outOfRange => .error "Port out of range 0-65535"

/-- The `hostname` of `urlparse`: no name is as good as an empty one. -/
def targetName (url : String) : Except Exn (Option {s : String // s ≠ ""}) :=
  match urlparse url with
  | .error msg => .error (.ValueError msg)
  | .ok parts =>
    match hostname parts with
    | some host => .ok (if ne : host ≠ "" then some ⟨host, ne⟩ else none)
    | none => .ok none

/-- The name of a target, for its circuit. -/
instance : UrlLib where
  lower := NetLib.lower
  hostname := targetName

end

/-! ## The validation -/

def BLOCKED_PREFIXES : List String :=
  ["127.", "10.", "172.16.", "172.17.", "172.18.", "172.19.", "172.20.", "172.21.", "172.22.", "172.23.",
   "172.24.", "172.25.", "172.26.", "172.27.", "172.28.", "172.29.", "172.30.", "172.31.", "192.168.",
   "169.254.", "0.0.0.0", "::1", "fc00:", "fe80:"]

/-- What `socket.getaddrinfo` comes to: the address of each entry, its own error, or another exception. -/
inductive Resolution where
  | addresses (entries : List String)
  | gaierror (text : String)
  | raised (e : Exn)

/-- Why a target is not reached: `SSRFError`, or an exception that is none. -/
inductive Refusal where
  | ssrf (text : String)
  | raised (e : Exn)
  deriving DecidableEq

/-- The addresses a request is pinned to. -/
abbrev Pinned := {ips : List String // ips ≠ []}

/-- What a target names: an address, or a host to look up. -/
inductive Target where
  | literal (ip : IpAddress)
  | host (name : String)
  deriving DecidableEq

/-- A port that no request may use. -/
def privileged (port : Nat) : Bool := port = 0 || (port < 1024 && port ≠ 443)

section

variable [NetLib]

/-- A host name that starts like an address no request may reach. -/
def prefixBlocked (name : String) : Bool :=
  BLOCKED_PREFIXES.any fun blocked => (NetLib.lower blocked).toList.isPrefixOf (NetLib.lower name).toList

/-- `_validate_target_url` before the lookup. -/
def checkTarget (allowlist : Finset String) (url : String) : Except Refusal Target :=
  match urlparse url with
  | .error msg => .error (.raised (.ValueError msg))
  | .ok parsed =>
    if parsed.scheme ≠ "https".toList then
      .error (.ssrf ("Only HTTPS targets are allowed, got: " ++ .ofList parsed.scheme))
    else
      match present (hostname parsed) with
      | none => .error (.ssrf "Target URL must have a hostname")
      | some host =>
        if allowlist ≠ ∅ ∧ host ∉ allowlist then
          .error (.ssrf ("Target host '" ++ host ++ "' not in allowlist"))
        else
          match port parsed with
          | .error exc => .error (.ssrf ("Target URL has an invalid port: " ++ exc))
          | .ok port =>
            if port.any privileged then
              .error (.ssrf ("Target port " ++ port.elim "None" toString ++ " is privileged"))
            else
              match ipAddress host with
              | some ip =>
                if ip.blocked then
                  .error (.ssrf ("Target IP " ++ host ++ " is private/loopback/reserved"))
                else .ok (.literal ip)
              | none =>
                if prefixBlocked host then
                  .error (.ssrf ("Target hostname '" ++ NetLib.lower host ++ "' matches blocked prefix"))
                else .ok (.host host)

/-- The loop over the addresses of a host: malformed ones are skipped, and one that is blocked refuses the
target. -/
def pinAddresses (host : String) : List String → Except Refusal (List String)
  | [] => .ok []
  | text :: entries =>
    match ipAddress text with
    | none => pinAddresses host entries
    | some resolved =>
      if resolved.blocked then
        .error (.ssrf ("Target IP " ++ text ++ " for '" ++ host ++ "' is private/loopback/reserved"))
      else (pinAddresses host entries).map (resolved.text :: ·)

/-- `_validate_target_url` from the lookup on. -/
def resolveTarget (host : String) : Resolution → Except Refusal Pinned
  | .gaierror exc =>
    .error (.ssrf ("DNS resolution failed for '" ++ host ++ "' — failing closed: " ++ exc))
  | .raised e => .error (.raised e)
  | .addresses entries =>
    match pinAddresses host entries with
    | .error e => .error e
    | .ok pinned =>
      if ne : pinned ≠ [] then .ok ⟨pinned, ne⟩
      else .error (.ssrf ("DNS returned no usable addresses for '" ++ host ++ "'"))

/-- `_validate_target_url`: the addresses. -/
def validateTargetUrl (allowlist : Finset String) (url : String) (getaddrinfo : String → Resolution) :
    Except Refusal Pinned :=
  match checkTarget allowlist url with
  | .error e => .error e
  | .ok (.literal ip) => .ok ⟨[ip.text], List.cons_ne_nil _ _⟩
  | .ok (.host host) => resolveTarget host (getaddrinfo host)

/-! ## What a target that is not refused is -/

/-- The URL passed the checks that do not look at its address. -/
structure Checked (allowlist : Finset String) (url : String) (parsed : Url.Parts) (host : String)
    (port : Option Nat) : Prop where
  parses : urlparse url = .ok parsed
  https : parsed.scheme = "https".toList
  named : present (hostname parsed) = some host
  allowed : allowlist ≠ ∅ → host ∈ allowlist
  reads : Custos.port parsed = .ok port
  unprivileged : ¬ port.any privileged

/-- The name of the target is looked up. -/
def LooksUp (allowlist : Finset String) (url host : String) : Prop :=
  ∃ parsed port, Checked allowlist url parsed host port ∧ ipAddress host = none ∧ ¬ prefixBlocked host

variable {allowlist : Finset String} {url : String} {getaddrinfo : String → Resolution}

/-- All that the checks before the lookup can come to. -/
lemma checkTarget_cases (allowlist : Finset String) (url : String) :
    (∃ msg, urlparse url = .error msg ∧ checkTarget allowlist url = .error (.raised (.ValueError msg))) ∨
    ((∃ parsed, urlparse url = .ok parsed) ∧ ∃ text, checkTarget allowlist url = .error (.ssrf text)) ∨
    ∃ parsed host port, Checked allowlist url parsed host port ∧
      ((∃ ip, ipAddress host = some ip ∧ ip.blocked = false ∧ checkTarget allowlist url = .ok (.literal ip)) ∨
        ipAddress host = none ∧ ¬ prefixBlocked host ∧ checkTarget allowlist url = .ok (.host host)) := by
  unfold checkTarget
  cases parses : urlparse url with
  | error msg => exact .inl ⟨msg, rfl, rfl⟩
  | ok parts =>
    refine .inr ?_
    have refused : ∀ {r : Except Refusal Target} {text : String}, r = .error (.ssrf text) →
        (∃ parsed', Except.ok (ε := String) parts = .ok parsed') ∧ ∃ text, r = .error (.ssrf text) :=
      fun eq => ⟨⟨parts, rfl⟩, _, eq⟩
    dsimp only
    split
    · exact .inl (refused rfl)
    · rename_i https
      cases named : present (hostname parts) with
      | none => exact .inl (refused rfl)
      | some host =>
        dsimp only
        split
        · exact .inl (refused rfl)
        · rename_i allowed
          cases read : port parts with
          | error exc => exact .inl (refused rfl)
          | ok port =>
            dsimp only
            split
            · exact .inl (refused rfl)
            · rename_i unprivileged
              have checked : Checked allowlist url parts host port :=
                ⟨parses, not_not.1 https, named, fun ne => by_contra fun no => allowed ⟨ne, no⟩, read, unprivileged⟩
              cases literal : ipAddress host with
              | some ip =>
                dsimp only
                split
                · exact .inl (refused rfl)
                · rename_i free
                  exact .inr ⟨parts, host, port, checked, .inl ⟨ip, literal, by simpa using free, rfl⟩⟩
              | none =>
                dsimp only
                split
                · exact .inl (refused rfl)
                · rename_i free
                  exact .inr ⟨parts, host, port, checked, .inr ⟨literal, free, rfl⟩⟩

/-- The checks come to a host name exactly where it is looked up. -/
lemma checkTarget_host_iff {host : String} :
    checkTarget allowlist url = .ok (.host host) ↔ LooksUp allowlist url host := by
  constructor
  · intro eq
    rcases checkTarget_cases allowlist url with ⟨msg, _, eq'⟩ | ⟨_, text, eq'⟩ |
      ⟨parsed, name, port, checked, ⟨ip, literal, _, eq'⟩ | ⟨unread, free, eq'⟩⟩
    · cases eq.symm.trans eq'
    · cases eq.symm.trans eq'
    · cases eq.symm.trans eq'
    · cases eq.symm.trans eq'
      exact ⟨parsed, port, checked, unread, free⟩
  · rintro ⟨parsed, port, ⟨parses, https, named, allowed, reads, unprivileged⟩, unread, free⟩
    unfold checkTarget
    rw [parses]
    dsimp only
    rw [if_neg (not_not.2 https), named]
    dsimp only
    rw [if_neg fun h => h.2 (allowed h.1), reads]
    dsimp only
    rw [if_neg unprivileged, unread]
    dsimp only
    rw [if_neg free]

lemma pinAddresses_ne_raised {e : Exn} (host : String) (entries : List String) :
    pinAddresses host entries ≠ .error (.raised e) := by
  induction entries with
  | nil => exact fun h => by cases h
  | cons text entries ih =>
    rw [pinAddresses]
    split
    · exact ih
    · split
      · exact fun h => by cases h
      · cases rest : pinAddresses host entries with
        | error r => exact fun h => ih (rest.trans (by cases h; rfl))
        | ok pinned => exact fun h => by cases h

/-- The lookup raises what `getaddrinfo` raises, its own error apart. -/
lemma resolveTarget_raised_iff {host : String} {answer : Resolution} {e : Exn} :
    resolveTarget host answer = .error (.raised e) ↔ answer = .raised e := by
  cases answer with
  | gaierror exc => simp [resolveTarget]
  | raised e' => simp [resolveTarget]
  | addresses entries =>
    refine iff_of_false (fun h => ?_) fun h => by cases h
    rw [resolveTarget] at h
    split at h
    · rename_i r eq
      cases h
      exact pinAddresses_ne_raised host entries eq
    · split at h <;> cases h

/-- An exception other than `SSRFError` comes from the parser, or from the lookup of the target's name. -/
lemma validateTargetUrl_raised_iff {e : Exn} :
    validateTargetUrl allowlist url getaddrinfo = .error (.raised e) ↔
      (∃ msg, urlparse url = .error msg ∧ e = .ValueError msg) ∨
        ∃ host, LooksUp allowlist url host ∧ getaddrinfo host = .raised e := by
  have unparsed : ∀ msg, urlparse url = .error msg → ∀ host, ¬ LooksUp allowlist url host := by
    rintro msg fails host ⟨parsed, port, checked, -⟩
    cases fails.symm.trans checked.parses
  unfold validateTargetUrl
  rcases checkTarget_cases allowlist url with ⟨msg, fails, eq⟩ | ⟨⟨parsed, parses⟩, text, eq⟩ |
    ⟨parsed, name, port, checked, ⟨ip, literal, _, eq⟩ | ⟨unread, free, eq⟩⟩
  all_goals
    rw [eq]
    dsimp only
  · constructor
    · intro h
      cases h
      exact .inl ⟨msg, fails, rfl⟩
    · rintro (⟨msg', fails', rfl⟩ | ⟨host, looks, -⟩)
      · cases fails.symm.trans fails'
        rfl
      · exact absurd looks (unparsed msg fails host)
  · refine iff_of_false (fun h => by cases h) ?_
    rintro (⟨msg, fails, -⟩ | ⟨host, looks, -⟩)
    · cases parses.symm.trans fails
    · cases eq.symm.trans (checkTarget_host_iff.2 looks)
  · refine iff_of_false (fun h => by cases h) ?_
    rintro (⟨msg, fails, -⟩ | ⟨host, looks, -⟩)
    · cases checked.parses.symm.trans fails
    · cases eq.symm.trans (checkTarget_host_iff.2 looks)
  · rw [resolveTarget_raised_iff]
    constructor
    · exact fun raised => .inr ⟨name, checkTarget_host_iff.1 eq, raised⟩
    · rintro (⟨msg, fails, -⟩ | ⟨host, looks, raised⟩)
      · cases checked.parses.symm.trans fails
      · cases eq.symm.trans (checkTarget_host_iff.2 looks)
        exact raised

/-- The address is the one the target names, or one of those its host has. -/
def Names (getaddrinfo : String → Resolution) (host : String) (ip : IpAddress) : Prop :=
  ipAddress host = some ip ∨ ipAddress host = none ∧
    ∃ entries, getaddrinfo host = .addresses entries ∧ ∃ text ∈ entries, ipAddress text = some ip

/-- What the loop pins is each address it reads, and none of these is blocked. -/
lemma pinAddresses_ok {host : String} {entries texts : List String}
    (ok : pinAddresses host entries = .ok texts) :
    (∀ text ∈ texts, ∃ entry ∈ entries, ∃ ip, ipAddress entry = some ip ∧ ip.blocked = false ∧
      text = ip.text) ∧ ∀ text ∈ entries, ∀ ip, ipAddress text = some ip → ip.blocked = false := by
  induction entries generalizing texts with
  | nil =>
    cases ok
    exact ⟨List.forall_mem_nil _, List.forall_mem_nil _⟩
  | cons entry entries ih =>
    rw [pinAddresses] at ok
    split at ok
    · rename_i unread
      obtain ⟨each, all⟩ := ih ok
      refine ⟨fun text mem => ?_, List.forall_mem_cons.2 ⟨fun ip read => ?_, all⟩⟩
      · obtain ⟨entry', mem', rest⟩ := each text mem
        exact ⟨entry', .tail _ mem', rest⟩
      · cases unread.symm.trans read
    · rename_i resolved read
      split at ok
      · cases ok
      · rename_i free
        have free' : resolved.blocked = false := by simpa using free
        cases rest : pinAddresses host entries with
        | error r =>
          rw [rest] at ok
          cases ok
        | ok texts' =>
          rw [rest] at ok
          cases ok
          obtain ⟨each, all⟩ := ih rest
          refine ⟨List.forall_mem_cons.2 ⟨⟨entry, .head _, resolved, read, free', rfl⟩, fun text mem => ?_⟩,
            List.forall_mem_cons.2 ⟨fun ip read' => ?_, all⟩⟩
          · obtain ⟨entry', mem', found⟩ := each text mem
            exact ⟨entry', .tail _ mem', found⟩
          · cases read.symm.trans read'
            exact free'

/-- What is pinned is each address of the target, and none of them is blocked. -/
lemma validateTargetUrl_ok {pinned : Pinned} (ok : validateTargetUrl allowlist url getaddrinfo = .ok pinned) :
    ∃ parsed host port, Checked allowlist url parsed host port ∧
      (∀ text ∈ pinned.1, ∃ ip, Names getaddrinfo host ip ∧ ip.blocked = false ∧ text = ip.text) ∧
      (ipAddress host = none → ∃ entries, getaddrinfo host = .addresses entries ∧
        ∀ text ∈ entries, ∀ ip, ipAddress text = some ip → ip.blocked = false) := by
  unfold validateTargetUrl at ok
  rcases checkTarget_cases allowlist url with ⟨msg, fails, eq⟩ | ⟨_, text, eq⟩ |
    ⟨parsed, name, port, checked, ⟨ip, literal, free, eq⟩ | ⟨unread, _, eq⟩⟩
  · rw [eq] at ok
    cases ok
  · rw [eq] at ok
    cases ok
  · rw [eq] at ok
    cases ok
    refine ⟨parsed, name, port, checked, fun text mem => ?_, fun unread => ?_⟩
    · exact ⟨ip, .inl literal, free, List.mem_singleton.1 mem⟩
    · cases literal.symm.trans unread
  · rw [eq] at ok
    dsimp only at ok
    cases answer : getaddrinfo name with
    | gaierror exc =>
      rw [answer] at ok
      cases ok
    | raised e =>
      rw [answer] at ok
      cases ok
    | addresses entries =>
      rw [answer, resolveTarget] at ok
      split at ok
      · cases ok
      · rename_i texts pinsEq
        obtain ⟨each, all⟩ := pinAddresses_ok pinsEq
        split at ok
        · cases ok
          refine ⟨parsed, name, port, checked, fun text mem => ?_, fun _ => ⟨entries, answer, all⟩⟩
          obtain ⟨entry, mem', ip, read, free, rfl⟩ := each text mem
          exact ⟨ip, .inr ⟨unread, entries, answer, entry, mem', read⟩, free, rfl⟩
        · cases ok

end

end Custos
