import Custos.Service.Forwarding

/-!
# What a pinned request keeps

The request that reaches the client goes to an address of a target that passed the validation, under the URL of
the call with the address in the place of the host (`split_pinnedUrl`). The name of the target stands in the
headers and in the SNI; it stands there once unless the caller spells `Host` in another case
(`pinned_to_validated`). The text behind the location is put together again from path and query: parameters of the
path's last segment are left out of it, and so are a semicolon and a question mark with nothing behind them
(`pinned_target_iff`).
-/

namespace Custos

/-! ## The headers -/

/-- The name is `host`, ignoring case. -/
def namesHost (name : String) : Bool := name.toList.map Char.toLower = "host".toList

section Headers

variable {items : List (String × String)}

/-- An item is set under its key. -/
lemma keys_setItem (key value : String) (items : List (String × String)) (k : String) :
    k ∈ (setItem key value items).map Prod.fst ↔ k = key ∨ k ∈ items.map Prod.fst := by
  induction items with
  | nil => simp [setItem]
  | cons item items ih =>
    obtain ⟨k', v'⟩ := item
    rw [setItem]
    split
    · rename_i same
      subst same
      simp
    · rw [List.map_cons, List.mem_cons, ih, List.map_cons, List.mem_cons]
      tauto

/-- Each key stays there once. -/
lemma nodup_setItem (key value : String) (distinct : (items.map Prod.fst).Nodup) :
    ((setItem key value items).map Prod.fst).Nodup := by
  induction items with
  | nil => simp [setItem]
  | cons item items ih =>
    obtain ⟨k, v⟩ := item
    obtain ⟨no, rest⟩ := List.nodup_cons.1 distinct
    rw [setItem]
    split
    · rename_i same
      subst same
      exact distinct
    · rename_i other
      rw [List.map_cons, List.nodup_cons, keys_setItem, not_or]
      exact ⟨⟨other, no⟩, ih rest⟩

/-- The item that is set is there. -/
lemma mem_setItem (key value : String) (items : List (String × String)) :
    (key, value) ∈ setItem key value items := by
  induction items with
  | nil => exact .head _
  | cons item items ih =>
    obtain ⟨k, v⟩ := item
    rw [setItem]
    split
    · exact .head _
    · exact .tail _ ih

/-- Items are set under their keys. -/
lemma keys_foldl_setItem (given items : List (String × String)) (k : String) :
    k ∈ (given.foldl (fun items item => setItem item.1 item.2 items) items).map Prod.fst ↔
      k ∈ items.map Prod.fst ∨ k ∈ given.map Prod.fst := by
  induction given generalizing items with
  | nil => simp
  | cons item given ih =>
    rw [List.foldl_cons, ih, keys_setItem, List.map_cons, List.mem_cons]
    tauto

lemma nodup_foldl_setItem (given : List (String × String)) (distinct : (items.map Prod.fst).Nodup) :
    ((given.foldl (fun items item => setItem item.1 item.2 items) items).map Prod.fst).Nodup := by
  induction given generalizing items with
  | nil => exact distinct
  | cons item given ih => exact ih (nodup_setItem item.1 item.2 distinct)

/-- The names of a request's headers. -/
lemma keys_mergeHeaders (headers : Option (List (String × String))) (host k : String) :
    k ∈ (mergeHeaders headers host).map Prod.fst ↔
      k = "Host" ∨ k = "Content-Type" ∨ k ∈ (headers.getD []).map Prod.fst := by
  unfold mergeHeaders
  rw [keys_setItem, keys_foldl_setItem]
  simp

/-- Headers are merged to one for each name. -/
lemma nodup_mergeHeaders (headers : Option (List (String × String))) (host : String) :
    ((mergeHeaders headers host).map Prod.fst).Nodup :=
  nodup_setItem _ _ (nodup_foldl_setItem _ (List.nodup_singleton _))

/-- The headers name one host exactly where the caller spells the name in no other case. -/
lemma mergeHeaders_host_iff (headers : Option (List (String × String))) (host : String) :
    (∃ name, (mergeHeaders headers host).filter (fun item => namesHost item.1) = [(name, host)]) ↔
      ∀ item ∈ headers.getD [], namesHost item.1 → item.1 = "Host" := by
  have here : ("Host", host) ∈ (mergeHeaders headers host).filter fun item => namesHost item.1 :=
    List.mem_filter.2 ⟨mem_setItem _ _ _, (by decide : namesHost "Host" = true)⟩
  constructor
  · rintro ⟨name, single⟩ ⟨k, v⟩ mem names
    rw [single, List.mem_singleton] at here
    obtain ⟨rfl, -⟩ := Prod.mk.inj here
    obtain ⟨⟨k', v'⟩, mem', rfl⟩ := List.mem_map.1
      ((keys_mergeHeaders headers host k).2 (.inr (.inr (List.mem_map_of_mem (f := Prod.fst) mem))))
    have found : (k', v') ∈ (mergeHeaders headers host).filter fun item => namesHost item.1 :=
      List.mem_filter.2 ⟨mem', names⟩
    rw [single, List.mem_singleton] at found
    exact (Prod.mk.inj found).1
  · intro only
    refine ⟨"Host", List.perm_singleton.1 ?_⟩
    have distinct := nodup_mergeHeaders headers host
    refine (List.perm_ext_iff_of_nodup ((distinct.of_map _).filter _) (List.nodup_singleton _)).2 ?_
    rintro ⟨k, v⟩
    rw [List.mem_singleton]
    constructor
    · intro mem
      obtain ⟨mem, names⟩ := List.mem_filter.1 mem
      have key : k = "Host" := by
        rcases (keys_mergeHeaders headers host k).1 (List.mem_map_of_mem (f := Prod.fst) mem) with
          key | rfl | given
        · exact key
        · exact absurd (show namesHost "Content-Type" = true from names) (by decide)
        · obtain ⟨item, mem', rfl⟩ := List.mem_map.1 given
          exact only item mem' names
      subst key
      exact List.inj_on_of_nodup_map distinct mem (List.mem_filter.1 here).1 rfl
    · rintro ⟨rfl, rfl⟩
      exact here

end Headers

/-! ## The URL -/

/-- The characters that end a host, or that no URL holds. -/
def urlChars : List Char := ['/', '?', '#', '@', ']', '\t', '\r', '\n']

/-- A text that can stand for a host in a URL. -/
structure PlainHost (text : List Char) : Prop where
  plain : ∀ c ∈ text, c ∉ urlChars
  bracket : ':' ∉ text → '[' ∉ text

section

variable [NetLib]

/-- What is documented of the standard library. The text of an address holds digits and dots, or it holds colons
and hexadecimal digits and maybe the zone it was read with; lower case makes up no delimiter; the addresses
of an answer hold none. -/
structure Documented (getaddrinfo : String → Resolution) : Prop where
  address : ∀ s ip, ipAddress s = some ip →
    (∀ c ∈ ip.text.toList, c ∈ "0123456789.".toList) ∨
      (':' ∈ s.toList ∧ ':' ∈ ip.text.toList ∧
        ∀ c ∈ ip.text.toList, c ∈ "0123456789abcdef.:%".toList ∨ c ∈ s.toList)
  lower : ∀ s, ∀ c ∈ ':' :: urlChars, c ∈ (NetLib.lower s).toList → c ∈ s.toList
  answer : ∀ host entries, getaddrinfo host = .addresses entries →
    ∀ text ∈ entries, ∀ c ∈ text.toList, c ∉ urlChars

variable {getaddrinfo : String → Resolution} {parsed : Url.Parts} {host : String} {ip : IpAddress}

/-- A delimiter in the name of a target stands in the network location. -/
lemma mem_hostInfo_of_mem_hostname (documented : Documented getaddrinfo) (named : hostname parsed = some host)
    {c : Char} (delimiter : c ∈ ':' :: urlChars) (mem : c ∈ host.toList) :
    c ∈ (Url.hostInfo parsed.netloc).1 := by
  unfold hostname at named
  split at named
  · cases named
  · split at named
    · rename_i name zone cut
      cases named
      have lower := documented.lower (.ofList name) c delimiter
      rw [cutFirst_some cut]
      simp only [String.toList_append, String.toList_ofList, List.mem_append] at mem lower ⊢
      rcases mem with (mem | mem) | mem
      · exact .inl (.inl (lower mem))
      · exact .inl (.inr mem)
      · exact .inr mem
    · cases named
      have lower := documented.lower _ c delimiter mem
      rwa [String.toList_ofList] at lower

/-- A URL with a host has a netloc. -/
lemma netloc_ne_nil (named : hostname parsed = some host) : parsed.netloc ≠ [] := by
  intro empty
  unfold hostname at named
  rw [empty] at named
  cases named

omit [NetLib] in
/-- A delimiter does not stand in the host of a location, but for a closing bracket. -/
lemma eq_bracket_of_mem_hostInfo (wf : Url.WellFormed parsed) {c : Char}
    (mem : c ∈ (Url.hostInfo parsed.netloc).1) (delimiter : c ∈ urlChars) : c = ']' := by
  obtain ⟨located, notAt⟩ := (Url.hostInfo_spec parsed.netloc).1 c mem
  have ends := wf.netloc c located
  have clean := wf.safe c (by simp [located])
  simp only [urlChars, List.mem_cons, List.not_mem_nil, or_false] at delimiter
  rcases delimiter with rfl | rfl | rfl | rfl | rfl | rfl | rfl | rfl
  · exact absurd (by decide) ends
  · exact absurd (by decide) ends
  · exact absurd (by decide) ends
  · exact absurd rfl notAt
  · rfl
  · exact absurd (by decide) clean
  · exact absurd (by decide) clean
  · exact absurd (by decide) clean

/-- The text of an address can stand for a host, if it was read from a text without delimiters. -/
lemma Documented.plainHost (documented : Documented getaddrinfo) {s : String} (read : ipAddress s = some ip)
    (plain : ':' ∈ s.toList → ∀ c ∈ s.toList, c ∉ urlChars) : PlainHost ip.text.toList := by
  have digits : ∀ c ∈ "0123456789.".toList, c ∉ urlChars ∧ c ≠ '[' :=
    forall_mem_of_all (by decide)
  have hexadecimal : ∀ c ∈ "0123456789abcdef.:%".toList, c ∉ urlChars := forall_mem_of_all (by decide)
  rcases documented.address s ip read with short | ⟨colon, colon', long⟩
  · exact ⟨fun c mem => (digits c (short c mem)).1, fun _ mem => (digits _ (short _ mem)).2 rfl⟩
  · exact ⟨fun c mem => (long c mem).elim (hexadecimal c) (plain colon c), fun no => absurd colon' no⟩

/-- An address of the target can stand for its host. -/
lemma plainHost_of_names (documented : Documented getaddrinfo) (wf : Url.WellFormed parsed)
    (named : hostname parsed = some host) (names : Names getaddrinfo host ip) : PlainHost ip.text.toList := by
  rcases names with literal | ⟨-, entries, answer, text, mem, read⟩
  · refine documented.plainHost literal fun colon c mem delimiter => ?_
    have inside := mem_hostInfo_of_mem_hostname documented named (.tail _ delimiter) mem
    obtain rfl := eq_bracket_of_mem_hostInfo wf inside delimiter
    exact (Url.hostInfo_spec parsed.netloc).2 (mem_hostInfo_of_mem_hostname documented named (.head _) colon)
      inside
  · exact documented.plainHost read fun _ => documented.answer host entries answer text mem

end

/-- The pinned URL is put together from parts that do not hold each other's delimiters. -/
lemma pinnedUrl_parts {parsed : Url.Parts} {ip : String} (wf : Url.WellFormed parsed)
    (plain : PlainHost ip.toList) (port : Option Nat) :
    (∀ c ∈ Url.hostText ip.toList ++ Url.portText (port.filter (· ≠ 0)), ¬ Url.isDelimiter c) ∧
      (if parsed.path = [] then ['/'] else parsed.path).head? = some '/' ∧
      '#' ∉ (if parsed.path = [] then ['/'] else parsed.path) ++ parsed.query ∧
      ∀ c ∈ Url.hostText ip.toList ++ Url.portText (port.filter (· ≠ 0)) ++
        (if parsed.path = [] then ['/'] else parsed.path) ++ parsed.query, c ∉ Url.unsafeChars := by
  have located : ∀ c ∈ Url.hostText ip.toList ++ Url.portText (port.filter (· ≠ 0)),
      c ∉ ['/', '?', '#', '\t', '\r', '\n'] := by
    intro c mem delimiter
    have others : ∀ d ∈ ['/', '?', '#', '\t', '\r', '\n'],
        d ∈ urlChars ∧ d ≠ '[' ∧ d ≠ ']' ∧ d ≠ ':' ∧ ¬ d.isDigit := forall_mem_of_all (by decide)
    obtain ⟨inUrl, noOpen, noClose, noColon, noDigit⟩ := others c delimiter
    rcases List.mem_append.1 mem with mem | mem
    · have inside : c ∈ ip.toList := by
        unfold Url.hostText at mem
        split at mem
        · simpa [noOpen, noClose] using mem
        · exact mem
      exact plain.plain c inside inUrl
    · exact Url.notMem_portText _ noColon noDigit mem
  refine ⟨fun c mem ends => located c mem ?_, ?_, ?_, fun c mem unsafe_ => ?_⟩
  · unfold Url.isDelimiter at ends
    simp only [Bool.or_eq_true, decide_eq_true_eq] at ends
    simp only [List.mem_cons]
    tauto
  · split
    · rfl
    · exact wf.path.resolve_left ‹_›
  · have := wf.noFragment
    split
    · simp_all
    · exact this
  · rw [List.mem_append, List.mem_append] at mem
    rcases mem with (mem | mem) | mem
    · refine located c mem ?_
      simp only [Url.unsafeChars, List.mem_cons] at unsafe_ ⊢
      tauto
    · split at mem
      · rw [List.mem_singleton.1 mem] at unsafe_
        exact absurd unsafe_ (by decide)
      · exact wf.safe c (by simp [mem]) unsafe_
    · exact wf.safe c (by simp [mem]) unsafe_

/-- The pinned URL is taken apart to the parts it was put together from. -/
lemma split_pinnedUrl {parsed : Url.Parts} {ip : String} (wf : Url.WellFormed parsed)
    (plain : PlainHost ip.toList) (port : Option Nat) :
    Url.split (pinnedUrl ip parsed port).toList =
      ⟨"https".toList, Url.hostText ip.toList ++ Url.portText (port.filter (· ≠ 0)),
        if parsed.path = [] then ['/'] else parsed.path, [], parsed.query, []⟩ := by
  obtain ⟨located, absolute, noFragment, safe⟩ := pinnedUrl_parts wf plain port
  unfold pinnedUrl
  rw [String.toList_ofList]
  refine Url.split_assemble located absolute ?_ noFragment ?_ safe
  · split
    · decide
    · exact wf.noQuery
  · split
    · decide
    · exact wf.whole

/-- Path and query stand behind the location of the pinned URL. -/
lemma behind_pinnedUrl {parsed : Url.Parts} {ip : String} (wf : Url.WellFormed parsed)
    (plain : PlainHost ip.toList) (port : Option Nat) :
    Url.behind (pinnedUrl ip parsed port).toList =
      (if parsed.path = [] then ['/'] else parsed.path) ++ Url.queryText parsed.query := by
  obtain ⟨located, absolute, noFragment, safe⟩ := pinnedUrl_parts wf plain port
  unfold pinnedUrl
  rw [String.toList_ofList]
  exact Url.behind_assemble located absolute noFragment safe

/-! ## The target -/

/-- A text behind a location with the root for an empty path. -/
def rooted (rest : List Char) : List Char := if rest.head? = some '/' then rest else '/' :: rest

/-- What a URL asks of the host it names: the text behind its location, up to the fragment, an empty path being
the root. -/
def requestTarget (url : List Char) : List Char := rooted (Url.behind url)

/-- Two texts are the same once rooted where both begin with a slash or neither does. -/
lemma rooted_inj {rest rest' : List Char} (heads : rest.head? = some '/' ↔ rest'.head? = some '/') :
    rooted rest = rooted rest' ↔ rest = rest' := by
  unfold rooted
  by_cases head : rest.head? = some '/'
  · rw [if_pos head, if_pos (heads.1 head)]
  · rw [if_neg head, if_neg (mt heads.2 head), List.cons.injEq, and_iff_right rfl]

/-- What is rooted is not rooted again. -/
lemma rooted_rooted (rest : List Char) : rooted (rooted rest) = rooted rest := by
  have head : (rooted rest).head? = some '/' := by
    unfold rooted
    split
    · assumption
    · rfl
  exact if_pos head

/-- The target of a URL that was put together from a path and a query. -/
lemma rooted_append {path : List Char} (absolute : path = [] ∨ path.head? = some '/') (query : List Char) :
    rooted (path ++ Url.queryText query) = (if path = [] then ['/'] else path) ++ Url.queryText query := by
  unfold rooted
  rcases absolute with rfl | head
  · rw [List.nil_append, if_neg (Url.head_queryText query), if_pos rfl]
    rfl
  · have head' : (path ++ Url.queryText query).head? = some '/' := by
      rw [List.head?_append, head]
      rfl
    have ne : path ≠ [] := by
      rintro rfl
      cases head
    rw [if_pos head', if_neg ne]

/-! ## The request -/

namespace HTTPExecutionAdapter

variable [NetLib] {cfg : AdapterConfig} {a : HTTPExecutionAdapter} {args : ForwardArgs} {env : Outside}
  {req : ClientRequest}

/-- What is known of a request that reaches the client. -/
structure Sent (cfg : AdapterConfig) (args : ForwardArgs) (env : Outside) (req : ClientRequest)
    (parsed : Url.Parts) (host : String) (port : Option Nat) (ip : IpAddress) : Prop where
  checked : Checked cfg.allowlist args.url parsed host port
  names : Names env.getaddrinfo host ip
  free : ip.blocked = false
  answer : ipAddress host = none → ∃ entries, env.getaddrinfo host = .addresses entries ∧
    ∀ text ∈ entries, ∀ ip, ipAddress text = some ip → ip.blocked = false
  url : req.url = pinnedUrl ip.text parsed port
  headers : req.headers = mergeHeaders args.headers host
  sni : req.sniHostname = host

/-- The host that passed the checks is the URL's. -/
lemma hostname_of_checked {allowlist : Finset String} {url : String} {parsed : Url.Parts} {host : String}
    {port : Option Nat} (checked : Checked allowlist url parsed host port) : hostname parsed = some host :=
  (Option.filter_eq_some_iff.1 checked.named).1

/-- A request that reaches the client is the one for a target that passed the validation. -/
lemma sent_spec (sent : (forwardRequest cfg a args env).2 = some req) :
    ∃ parsed host port ip, Sent cfg args env req parsed host port ip := by
  cases valid : validateTargetUrl cfg.allowlist args.url env.getaddrinfo with
  | error refusal =>
    cases refusal with
    | raised e =>
      rw [forwardRequest_raised valid] at sent
      cases sent
    | ssrf text =>
      rw [forwardRequest_refused valid] at sent
      cases sent
  | ok pinned =>
    obtain ⟨r, -, ⟨unsent, -⟩ | ⟨req', sent', built, -⟩⟩ := forwardRequest_pinned (a := a) valid
    · cases unsent.symm.trans sent
    · cases sent'.symm.trans sent
      obtain ⟨parsed, host, port, checked, each, answer⟩ := validateTargetUrl_ok valid
      have mem : firstPinned pinned ∈ pinned.1 :=
        (sortBy_perm addressKey pinned.1).mem_iff.1 (List.head_mem (sortBy_ne_nil pinned))
      obtain ⟨ip, names, free, text⟩ := each _ mem
      unfold requestFor at built
      rw [checked.parses] at built
      dsimp only at built
      rw [checked.reads, hostname_of_checked checked] at built
      cases built
      exact ⟨parsed, host, port, ip, checked, names, free, answer, by rw [← text], rfl, rfl⟩

namespace Sent

variable {parsed : Url.Parts} {host : String} {port : Option Nat} {ip : IpAddress}

/-- The URL that was asked for has the parts that were checked. -/
lemma parts (s : Sent cfg args env req parsed host port ip) : Url.split args.url.toList = parsed := by
  have parses := s.checked.parses
  unfold urlparse at parses
  dsimp only at parses
  split at parses
  · cases parses
  · split at parses
    · cases parses
    · exact Except.ok.inj parses

/-- The URL of the call names a location. -/
lemma located (s : Sent cfg args env req parsed host port ip) : (Url.split args.url.toList).netloc ≠ [] :=
  s.parts ▸ netloc_ne_nil (hostname_of_checked s.checked)

lemma wellFormed (s : Sent cfg args env req parsed host port ip) : Url.WellFormed parsed := by
  rw [← s.parts]
  exact Url.split_wellFormed (s.parts ▸ s.checked.https) s.located

/-- The address has no delimiter in it. -/
lemma plainHost (s : Sent cfg args env req parsed host port ip) (documented : Documented env.getaddrinfo) :
    PlainHost ip.text.toList :=
  plainHost_of_names documented s.wellFormed (hostname_of_checked s.checked) s.names

/-- The URL that is sent, by its parts. -/
lemma split_url (s : Sent cfg args env req parsed host port ip) (documented : Documented env.getaddrinfo) :
    Url.split req.url.toList =
        ⟨"https".toList, Url.hostText ip.text.toList ++ Url.portText port,
          if parsed.path = [] then ['/'] else parsed.path, [], parsed.query, []⟩ ∧
      Url.hostInfo (Url.hostText ip.text.toList ++ Url.portText port) =
        (ip.text.toList, port.elim [] (Nat.toDigits 10)) := by
  have plain := s.plainHost documented
  have positive : port.filter (· ≠ 0) = port := by
    have unprivileged := s.checked.unprivileged
    cases port with
    | none => rfl
    | some n =>
      have ne : n ≠ 0 := by
        rintro rfl
        exact unprivileged rfl
      simp [Option.filter, ne]
  have noAt : '@' ∉ ip.text.toList := fun mem => plain.plain _ mem (by decide)
  have noClose : ']' ∉ ip.text.toList := fun mem => plain.plain _ mem (by decide)
  refine ⟨?_, Url.hostInfo_text noAt noClose plain.bracket⟩
  rw [s.url, split_pinnedUrl s.wellFormed plain port, positive]

/-- The target of the request is put together from path and query of the call. -/
lemma target_iff (s : Sent cfg args env req parsed host port ip) (documented : Documented env.getaddrinfo) :
    requestTarget req.url.toList = requestTarget args.url.toList ↔
      Url.Rejoins (Url.behind args.url.toList) := by
  obtain ⟨path, query⟩ := Url.split_behind (s.parts ▸ s.checked.https : (Url.split args.url.toList).scheme = _)
  rw [s.parts] at path query
  have target : requestTarget req.url.toList = rooted (parsed.path ++ Url.queryText parsed.query) := by
    unfold requestTarget
    rw [s.url, behind_pinnedUrl s.wellFormed (s.plainHost documented), ← rooted_append s.wellFormed.path,
      rooted_rooted]
  have absolute := Url.head_behind s.located
  rw [target, requestTarget, path, query, rooted_inj (Url.head_rejoin absolute)]
  exact Url.rejoin_iff _

end Sent

/-- A request that reaches the client goes to an address of an allowed host that passed the validation, as each
address of the host did, under the host's name as SNI. Its headers name that host, and no other, exactly where
the caller spells `Host` in no other case. -/
theorem pinned_to_validated (documented : Documented env.getaddrinfo)
    (sent : (forwardRequest cfg a args env).2 = some req) :
    ∃ parsed host, urlparse args.url = .ok parsed ∧ hostname parsed = some host ∧
      (cfg.allowlist ≠ ∅ → host ∈ cfg.allowlist) ∧
      (∃ ip, Names env.getaddrinfo host ip ∧ ip.blocked = false ∧
        (Url.hostInfo (Url.split req.url.toList).netloc).1 = ip.text.toList) ∧
      (ipAddress host = none → ∃ entries, env.getaddrinfo host = .addresses entries ∧
        ∀ text ∈ entries, ∀ ip, ipAddress text = some ip → ip.blocked = false) ∧
      req.sniHostname = host ∧
      ((∃ name, req.headers.filter (fun item => namesHost item.1) = [(name, host)]) ↔
        ∀ item ∈ args.headers.getD [], namesHost item.1 → item.1 = "Host") := by
  obtain ⟨parsed, host, port, ip, s⟩ := sent_spec sent
  obtain ⟨split, info⟩ := s.split_url documented
  refine ⟨parsed, host, s.checked.parses, hostname_of_checked s.checked, s.checked.allowed,
    ⟨ip, s.names, s.free, ?_⟩, s.answer, s.sni, ?_⟩
  · rw [split, info]
  · rw [s.headers]
    exact mergeHeaders_host_iff args.headers host

/-- The parts of a URL that say what it asks of the host it names: an empty path is the root. -/
def requestParts (p : Url.Parts) : List Char × Except String (Option Nat) × List Char × List Char × List Char :=
  (p.scheme, port p, if p.path = [] then ['/'] else p.path, p.params, p.query)

/-- The URL of a request that reaches the client has the scheme, the port and the target of the call's URL, so
that only the host differs, exactly where the last segment of the call's path holds no semicolon and a question mark
has a query behind it. Scheme, port and query as parts are always the same; parameters are, where there are
none; the path is, letter by letter, where it is not empty. -/
theorem pinned_target_iff (documented : Documented env.getaddrinfo)
    (sent : (forwardRequest cfg a args env).2 = some req) :
    ∃ parsed, urlparse args.url = .ok parsed ∧
      ((Url.split req.url.toList).scheme = parsed.scheme ∧ port (Url.split req.url.toList) = port parsed ∧
          requestTarget req.url.toList = requestTarget args.url.toList ↔
        Url.Rejoins (Url.behind args.url.toList)) ∧
      (requestParts (Url.split req.url.toList) = requestParts parsed ↔ parsed.params = []) ∧
      (Url.split req.url.toList).scheme = parsed.scheme ∧ port (Url.split req.url.toList) = port parsed ∧
      (Url.split req.url.toList).query = parsed.query ∧
      ((Url.split req.url.toList).path = parsed.path ∧ (Url.split req.url.toList).params = parsed.params ↔
        parsed.path ≠ [] ∧ parsed.params = []) := by
  obtain ⟨parsed, host, p, ip, s⟩ := sent_spec sent
  obtain ⟨split, info⟩ := s.split_url documented
  have small : ∀ n ∈ p, n ≤ 65535 := by
    rintro n rfl
    have reads := s.checked.reads
    unfold port at reads
    split at reads
    · rename_i read
      cases reads
      exact Url.readPort_le read
    all_goals cases reads
  have schemes : (Url.split req.url.toList).scheme = parsed.scheme := by rw [split, s.checked.https]
  have ports : port (Url.split req.url.toList) = port parsed := by
    rw [s.checked.reads]
    unfold port
    rw [split, info, Url.readPort_text small]
  refine ⟨parsed, s.checked.parses, ?_, ?_, schemes, ports, ?_, ?_⟩
  · rw [and_iff_right schemes, and_iff_right ports]
    exact s.target_iff documented
  · unfold requestParts
    rw [ports, split, s.checked.https]
    simp only [Prod.mk.injEq, true_and, and_true]
    constructor
    · rintro ⟨-, same⟩
      exact same.symm
    · rintro none
      refine ⟨?_, none.symm⟩
      split <;> simp_all
  · rw [split]
  · rw [split]
    by_cases empty : parsed.path = []
    · simp [empty]
    · simp [empty, eq_comm]

end HTTPExecutionAdapter

section Sample

open HTTPExecutionAdapter

local instance pinningNet : NetLib := asciiNet

/-- No capital letter has a delimiter for its small one. -/
lemma toLower_of_delimiter {d : Char} (delimiter : d.toLower ∈ ':' :: urlChars) : d.toLower = d := by
  by_contra ne
  have capital : d.toNat ∈ List.range' 65 26 := by
    unfold Char.toLower at ne
    split at ne
    · rename_i upper
      simp only [ge_iff_le, UInt32.le_iff_toNat_le] at upper
      have range : 65 ≤ d.toNat ∧ d.toNat ≤ 90 := upper
      rw [List.mem_range'_1]
      omega
    · exact absurd rfl ne
  have letters : ∀ n ∈ List.range' 65 26, (Char.ofNat n).toLower ∉ ':' :: urlChars := by decide
  exact letters _ capital (by rwa [Char.ofNat_toNat])

/-- The resolver of the sample answers as documented. -/
lemma documented_reachable : Documented reachable.getaddrinfo := by
  refine ⟨fun s ip read => .inl ?_, fun s c delimiter mem => ?_, fun host entries answer => ?_⟩
  · change (if s = "93.184.216.34" then _ else if s = "127.0.0.1" then _ else _) = _ at read
    split at read
    · cases read
      exact forall_mem_of_all (by decide)
    · split at read
      · cases read
        exact forall_mem_of_all (by decide)
      · cases read
  · change c ∈ (String.ofList (s.toList.map Char.toLower)).toList at mem
    rw [String.toList_ofList] at mem
    obtain ⟨d, mem', rfl⟩ := List.mem_map.1 mem
    rwa [toLower_of_delimiter delimiter]
  · cases answer
    exact List.forall_mem_singleton.2 (forall_mem_of_all (by decide))

/-- A call with headers of its own. -/
def tracedCall : ForwardArgs := { url := "https://api.bank.example/v1", headers := some [("X-Trace", "7")] }

/-- A request with headers of its own names one host. -/
theorem pinned_to_validated_sample :
    ∃ req host, (forwardRequest {} {} tracedCall reachable).2 = some req ∧ req.sniHostname = host ∧
      ∃ name, req.headers.filter (fun item => namesHost item.1) = [(name, host)] := by
  obtain ⟨req, sent⟩ : ∃ req, (forwardRequest {} {} tracedCall reachable).2 = some req := ⟨_, rfl⟩
  obtain ⟨parsed, host, -, -, -, -, -, sni, named⟩ := pinned_to_validated documented_reachable sent
  exact ⟨req, host, sent, sni, named.2 (by decide)⟩

/-- A caller's `host` goes to the client beside the `Host` of the target. -/
theorem second_host_sent :
    ∃ req, (forwardRequest {} {}
        { url := "https://api.bank.example/v1", headers := some [("host", "internal.bank.example")] }
        reachable).2 = some req ∧
      req.headers.filter (fun item => namesHost item.1) =
        [("host", "internal.bank.example"), ("Host", "api.bank.example")] :=
  ⟨_, rfl, rfl⟩

/-- A call with a port and a query. -/
def queryCall : ForwardArgs := { url := "https://api.bank.example:8443/v1/pay?day=2" }

/-- A request with a port and a query asks what its call asks. -/
theorem pinned_target_iff_sample :
    ∃ req, (forwardRequest {} {} queryCall reachable).2 = some req ∧
      requestTarget req.url.toList = requestTarget queryCall.url.toList ∧
      requestTarget req.url.toList = "/v1/pay?day=2".toList := by
  obtain ⟨req, sent⟩ : ∃ req, (forwardRequest {} {} queryCall reachable).2 = some req := ⟨_, rfl⟩
  obtain ⟨parsed, parses, same, -⟩ := pinned_target_iff documented_reachable sent
  have target := (same.2 ⟨by decide, fun _ => by decide⟩).2.2
  exact ⟨req, sent, target, target.trans (by decide)⟩

/-- The parameters of a call are not sent, nor a semicolon or a question mark with nothing behind it. -/
theorem parameters_not_sent :
    (∃ req, (forwardRequest {} {} { url := "https://api.bank.example/v1/pay;account=7?day=2" } reachable).2 =
        some req ∧ req.url = "https://93.184.216.34/v1/pay?day=2" ∧
      requestTarget req.url.toList ≠
        requestTarget "https://api.bank.example/v1/pay;account=7?day=2".toList) ∧
      (∃ req, (forwardRequest {} {} { url := "https://api.bank.example/v1/pay;" } reachable).2 = some req ∧
        req.url = "https://93.184.216.34/v1/pay" ∧
        requestTarget req.url.toList ≠ requestTarget "https://api.bank.example/v1/pay;".toList) ∧
      ∃ req, (forwardRequest {} {} { url := "https://api.bank.example/v1/pay?" } reachable).2 = some req ∧
        req.url = "https://93.184.216.34/v1/pay" ∧
        requestTarget req.url.toList ≠ requestTarget "https://api.bank.example/v1/pay?".toList :=
  ⟨⟨_, rfl, rfl, by decide⟩, ⟨_, rfl, rfl, by decide⟩, ⟨_, rfl, rfl, by decide⟩⟩

end Sample

end Custos
