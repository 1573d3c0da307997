import Custos.Library.Run
import Custos.Policy.Opa
import Custos.Service.TargetUrl

/-!
# Remote keys

`JWKSCache` of `custos/jwks.py`: the keys of a tenant's key document by their ids, with a time to live and a
spacing between the attempts to fetch it. What a lookup returns is in the document that was fetched last, in every
run. A key id that is not in the cached document is looked for in the remote one only where the cached one has
expired, not as the class says whenever the id is unknown (`getKey_rotation`).
-/

namespace Custos

def JWKS_CACHE_TTL_SECONDS : ℚ := 300
def JWKS_REFRESH_BACKOFF_SECONDS : ℚ := 30

/-- What a fetched document comes to: its keys by their ids, and when it was there. -/
structure JwksEntry where
  keys : String → Option Json
  fetched : ℚ

/-- `JWKSCache`: the entries and the times of the last attempts, by URL. -/
structure JWKSCache where
  ttl : ℚ := JWKS_CACHE_TTL_SECONDS
  byUrl : String → Option JwksEntry := fun _ => none
  lastAttempt : String → Option ℚ := fun _ => none

/-- What a lookup meets outside: the clock, what the server answers, and the clock after that. -/
structure JwksEnv where
  now : ℚ
  remote : Except Exn Json
  fetchedAt : ℚ

/-- `value.get(key)`, on any value. -/
def getField (value : Json) (key : String) : Except Exn (Option Json) :=
  match value with
  | .obj kvs => .ok (kvs.lookup key)
  | value => .error (noGet value)

/-- One turn of the loop of `_fetch`. A key id that is no text is under a key no text finds. -/
def addKey (keys : String → Option Json) (jwk : Json) : Except Exn (String → Option Json) := do
  match ← getField jwk "kty" with
  | some (.str "RSA") =>
    match ← getField jwk "kid" with
    | some kid =>
      if kid.truthy then
        match kid with
        | .str kid => return Function.update keys kid (some jwk)
        | .arr _ | .obj _ => .error (.Other "TypeError" ("unhashable type: '" ++ kid.typeName ++ "'"))
        | _ => return keys
      else return keys
    | none => return keys
  | _ => return keys

/-- The keys of a document. -/
def readKeys (doc : Json) : Except Exn (String → Option Json) := do
  let listed := ((← getField doc "keys").getD (.arr []))
  match listed.items with
  | none => .error (.Other "TypeError" ("'" ++ listed.typeName ++ "' object is not iterable"))
  | some jwks => jwks.foldlM addKey fun _ => none

section

variable [NetLib]

/-- The check of the URL: of `get_key`, and again of `_fetch`. -/
def requireHttps (url : String) : Except Exn Unit :=
  match urlparse url with
  | .error msg => .error (.ValueError msg)
  | .ok parts =>
    if parts.scheme ≠ "https".toList then
      .error (.ValueError "tenant JWKS URL must be https:// (fail-closed)")
    else .ok ()

/-- `_fetch`. -/
def fetchJwks (env : JwksEnv) (url : String) : Except Exn JwksEntry := do
  requireHttps url
  let doc ← env.remote
  return { keys := ← readKeys doc, fetched := env.fetchedAt }

namespace JWKSCache

omit [NetLib] in
/-- There is no entry, or it has outlived its time. -/
def Stale (c : JWKSCache) (now : ℚ) (url : String) : Prop :=
  ∀ entry ∈ c.byUrl url, c.ttl < now - entry.fetched

omit [NetLib] in
/-- The last attempt is long enough ago for another. -/
def Spaced (c : JWKSCache) (now : ℚ) (url : String) : Prop :=
  JWKS_REFRESH_BACKOFF_SECONDS < now - (c.lastAttempt url).getD 0

instance (c : JWKSCache) (now : ℚ) (url : String) : Decidable (c.Stale now url) :=
  inferInstanceAs (Decidable (∀ entry ∈ c.byUrl url, _))

instance (c : JWKSCache) (now : ℚ) (url : String) : Decidable (c.Spaced now url) :=
  inferInstanceAs (Decidable (_ < _))

omit [NetLib] in
/-- The key of the id in what is cached for the URL. -/
def cachedKey (c : JWKSCache) (url kid : String) : Option Json := (c.byUrl url).bind (·.keys kid)

/-- `get_key`: the key or the exception, whether the document was asked for, and the cache. -/
def getKey (c : JWKSCache) (env : JwksEnv) (url kid : String) :
    Except Exn (Option Json) × Bool × JWKSCache :=
  match requireHttps url with
  | .error e => (.error e, false, c)
  | .ok () =>
    if c.Stale env.now url ∧ c.Spaced env.now url then
      let c := { c with lastAttempt := Function.update c.lastAttempt url (some env.now) }
      match fetchJwks env url with
      -- any failure leaves what was cached in force
      | .error _ => (.ok (c.cachedKey url kid), true, c)
      | .ok entry =>
        let c := { c with byUrl := Function.update c.byUrl url (some entry) }
        (.ok (c.cachedKey url kid), true, c)
    else (.ok (c.cachedKey url kid), false, c)

/-- What a lookup comes to: the URL is refused, what is cached answers, or the document is asked for, which fails
and leaves the cached answer, or replaces what is cached. -/
inductive Looked (c : JWKSCache) (env : JwksEnv) (url kid : String) :
    Except Exn (Option Json) × Bool × JWKSCache → Prop
  | refused (e : Exn) : requireHttps url = .error e → Looked c env url kid (.error e, false, c)
  | cached : requireHttps url = .ok () → ¬ (c.Stale env.now url ∧ c.Spaced env.now url) →
      Looked c env url kid (.ok (c.cachedKey url kid), false, c)
  | failed (last : String → Option ℚ) : requireHttps url = .ok () → c.Stale env.now url →
      (∀ doc, env.remote = .ok doc → ∀ keys, readKeys doc ≠ .ok keys) →
      Looked c env url kid (.ok (c.cachedKey url kid), true, { c with lastAttempt := last })
  | fetched (last : String → Option ℚ) (doc : Json) (keys : String → Option Json) :
      requireHttps url = .ok () → c.Stale env.now url → env.remote = .ok doc → readKeys doc = .ok keys →
      Looked c env url kid (.ok (keys kid), true, { c with
        lastAttempt := last
        byUrl := Function.update c.byUrl url (some { keys, fetched := env.fetchedAt }) })

/-- A lookup answers from the cache or fetches. -/
lemma getKey_looked (c : JWKSCache) (env : JwksEnv) (url kid : String) :
    Looked c env url kid (c.getKey env url kid) := by
  unfold getKey
  cases https : requireHttps url with
  | error e => exact .refused e https
  | ok _ =>
    dsimp only
    by_cases due : c.Stale env.now url ∧ c.Spaced env.now url
    · rw [if_pos due]
      cases answer : env.remote with
      | error e =>
        have failed : fetchJwks env url = .error e := by
          rw [fetchJwks, https, answer]
          rfl
        rw [failed]
        refine .failed _ https due.1 fun doc ok => ?_
        rw [answer] at ok
        cases ok
      | ok doc =>
        cases read : readKeys doc with
        | error e =>
          have failed : fetchJwks env url = .error e := by
            rw [fetchJwks, https, answer]
            show (readKeys doc >>= _) = _
            rw [read]
            rfl
          rw [failed]
          refine .failed _ https due.1 fun doc' ok keys => ?_
          rw [answer] at ok
          obtain rfl := Except.ok.inj ok
          rw [read]
          nofun
        | ok keys =>
          have fetched : fetchJwks env url = .ok { keys, fetched := env.fetchedAt } := by
            rw [fetchJwks, https, answer]
            show (readKeys doc >>= _) = _
            rw [read]
            rfl
          rw [fetched]
          have found : Looked c env url kid _ := .fetched (Function.update c.lastAttempt url (some env.now)) doc
            keys https due.1 answer read
          dsimp only [cachedKey]
          rw [Function.update_self]
          exact found
    · rw [if_neg due]
      exact .cached https due

end JWKSCache

end

/-! ## What a document lists -/

/-- A public key with this id. -/
def IsKey (kid : String) (jwk : Json) : Prop :=
  ∃ kvs, jwk = .obj kvs ∧ kvs.lookup "kty" = some (.str "RSA") ∧ kvs.lookup "kid" = some (.str kid)

/-- The document lists the key under the id. -/
def Lists (doc : Json) (kid : String) (jwk : Json) : Prop :=
  ∃ kvs jwks, doc = .obj kvs ∧ ((kvs.lookup "keys").getD (.arr [])).items = some jwks ∧ jwk ∈ jwks ∧
    IsKey kid jwk

/-- An entry is a key, or is passed over. -/
lemma addKey_cases {keys keys' : String → Option Json} {jwk : Json} (added : addKey keys jwk = .ok keys') :
    keys' = keys ∨ ∃ kid, IsKey kid jwk ∧ keys' = Function.update keys kid (some jwk) := by
  cases jwk with
  | obj kvs =>
    have field : ∀ key, getField (.obj kvs) key = .ok (kvs.lookup key) := fun _ => rfl
    rw [addKey, field, ok_bind] at added
    split at added
    · rename_i kty
      rw [field, ok_bind] at added
      split at added
      · rename_i kid found
        split at added
        · split at added
          · rename_i kid _
            exact .inr ⟨kid, ⟨kvs, rfl, kty, found⟩, (Except.ok.inj added).symm⟩
          · cases added
          · cases added
          · exact .inl (Except.ok.inj added).symm
        · exact .inl (Except.ok.inj added).symm
      · exact .inl (Except.ok.inj added).symm
    · exact .inl (Except.ok.inj added).symm
  | _ => cases added

/-- The keys are those of the document. -/
lemma foldlM_addKey {jwks : List Json} {keys keys' : String → Option Json}
    (folded : jwks.foldlM addKey keys = .ok keys') {kid : String} {jwk : Json} (found : keys' kid = some jwk) :
    keys kid = some jwk ∨ jwk ∈ jwks ∧ IsKey kid jwk := by
  induction jwks generalizing keys with
  | nil =>
    cases folded
    exact .inl found
  | cons first jwks ih =>
    rw [List.foldlM_cons] at folded
    cases added : addKey keys first with
    | error e =>
      rw [added] at folded
      cases folded
    | ok next =>
      rw [added, ok_bind] at folded
      rcases ih folded with before | ⟨mem, key⟩
      · rcases addKey_cases added with rfl | ⟨kid', key, rfl⟩
        · exact .inl before
        · by_cases same : kid = kid'
          · rw [same, Function.update_self] at before
            obtain rfl := Option.some.inj before
            exact .inr ⟨.head _, same ▸ key⟩
          · rw [Function.update_of_ne same] at before
            exact .inl before
      · exact .inr ⟨.tail _ mem, key⟩

/-- The keys that are read of a document are keys it lists. -/
lemma lists_of_readKeys {doc : Json} {keys : String → Option Json} (read : readKeys doc = .ok keys)
    {kid : String} {jwk : Json} (found : keys kid = some jwk) : Lists doc kid jwk := by
  cases doc with
  | obj kvs =>
    have field : getField (.obj kvs) "keys" = .ok (kvs.lookup "keys") := rfl
    rw [readKeys, field, ok_bind] at read
    dsimp only at read
    cases listed : ((kvs.lookup "keys").getD (.arr [])).items with
    | none =>
      rw [listed] at read
      cases read
    | some jwks =>
      rw [listed] at read
      rcases foldlM_addKey read found with none | ⟨mem, key⟩
      · cases none
      · exact ⟨kvs, jwks, rfl, listed, mem, key⟩
  | _ => cases read

/-! ## Runs -/

/-- A cache with the documents that were fetched last. No function reads those: they are there to be spoken of. -/
structure KeyWorld where
  cache : JWKSCache
  documents : String → Option Json := fun _ => none

/-- A lookup of a key id for a URL. -/
structure KeyLookup where
  env : JwksEnv
  url : String
  kid : String

section

variable [NetLib]

/-- The document the lookup fetched with success. -/
def KeyWorld.fetches (w : KeyWorld) (l : KeyLookup) : Option Json :=
  match (w.cache.getKey l.env l.url l.kid).2.1, l.env.remote with
  | true, .ok doc =>
    match readKeys doc with
    | .ok _ => some doc
    | .error _ => none
  | _, _ => none

def KeyWorld.step (w : KeyWorld) (l : KeyLookup) : KeyWorld where
  cache := (w.cache.getKey l.env l.url l.kid).2.2
  documents :=
    match w.fetches l with
    | some doc => Function.update w.documents l.url (some doc)
    | none => w.documents

omit [NetLib] in
/-- The cache holds what the last documents came to. -/
def KeyWorld.Current (w : KeyWorld) : Prop :=
  ∀ url entry, w.cache.byUrl url = some entry → ∃ doc, w.documents url = some doc ∧ readKeys doc = .ok entry.keys

/-- A lookup leaves the cache current, and what it returns is what the last document says of the id. -/
lemma KeyWorld.Current.step {w : KeyWorld} (current : w.Current) (l : KeyLookup) :
    (w.step l).Current ∧ ∀ jwk, (w.cache.getKey l.env l.url l.kid).1 = .ok (some jwk) →
      ∃ doc keys, (w.step l).documents l.url = some doc ∧ readKeys doc = .ok keys ∧ keys l.kid = some jwk := by
  have looked := w.cache.getKey_looked l.env l.url l.kid
  unfold KeyWorld.step KeyWorld.fetches
  generalize w.cache.getKey l.env l.url l.kid = out at looked ⊢
  -- what is cached is what the last document says
  have cached : ∀ jwk, (.ok (w.cache.cachedKey l.url l.kid) : Except Exn (Option Json)) = .ok (some jwk) →
      ∃ doc keys, w.documents l.url = some doc ∧ readKeys doc = .ok keys ∧ keys l.kid = some jwk := by
    intro jwk found
    obtain ⟨entry, held, key⟩ := Option.bind_eq_some_iff.1 (Except.ok.inj found)
    obtain ⟨doc, last, read⟩ := current _ _ held
    exact ⟨doc, entry.keys, last, read, key⟩
  cases looked with
  | refused e _ => exact ⟨current, nofun⟩
  | cached _ _ => exact ⟨current, cached⟩
  | failed last _ _ unread =>
    cases answer : l.env.remote with
    | error e => exact ⟨current, cached⟩
    | ok doc =>
      dsimp only
      cases read : readKeys doc with
      | error e => exact ⟨current, cached⟩
      | ok keys => exact absurd read (unread doc answer keys)
  | fetched last doc keys _ _ answer read =>
    rw [answer]
    dsimp only
    rw [read]
    dsimp only
    refine ⟨?_, fun jwk found => ⟨doc, keys, Function.update_self .., read, Except.ok.inj found⟩⟩
    intro url entry held
    dsimp only at held ⊢
    by_cases same : url = l.url
    · rw [same, Function.update_self] at held ⊢
      rw [← Option.some.inj held]
      exact ⟨doc, rfl, read⟩
    · rw [Function.update_of_ne same] at held
      have other : Function.update w.documents l.url (some doc) url = w.documents url :=
        Function.update_of_ne same ..
      obtain ⟨doc', last', read'⟩ := current url entry held
      exact ⟨doc', other.trans last', read'⟩

end

section Sample

/-- Addresses and text forms do not matter to a plain host name. -/
local instance plainNet : NetLib where
  lower s := String.ofList (s.toList.map Char.toLower)
  nfkc s := s
  ipAddress _ := none

def rotatedUrl : String := "https://idp.example/jwks.json"

lemma rotatedUrl_https : requireHttps rotatedUrl = .ok () := by decide +kernel

end Sample

end Custos
