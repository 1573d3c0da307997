import Custos.Service.CommandParts

/-!
# What the redaction of an endpoint hides

An endpoint is given in parts as well: maybe userinfo, a host with its path, maybe a query with parameters that
look secret or not. Where no `@` stands behind the `?`, the redaction puts a fingerprint in the place of each
secret (`Endpoint.redactEndpointBy_typed`). Where one stands there, the last one parts the text, and what is
behind it is shown (`Endpoint.redactUrlUserinfo_query`).
-/

namespace Custos

/-! ## The endpoint in parts -/

/-- A parameter of a query. -/
inductive Param where
  | plain (pair : List Char)
  | secret (name value : List Char)

namespace Param

def text : Param → List Char
  | .plain pair => pair
  | .secret name value => name ++ '=' :: value

/-- The parameter with the fingerprint of its secret in the secret's place. -/
def shown (fp : String → Option String) : Param → List Char
  | .plain pair => pair
  | .secret name value => name ++ '=' :: fpText fp value

inductive Same : Param → Param → Prop
  | plain (pair : List Char) : Same (.plain pair) (.plain pair)
  | secret (name value value' : List Char) : Same (.secret name value) (.secret name value')

/-- The parameter is one parameter, with a name that looks secret or not. -/
inductive Valid [BindingLib] : Param → Prop
  | plain {pair : List Char} : '&' ∉ pair →
      (∀ name value, cutFirst ['='] pair = some (name, value) → ¬ looksSecret (.ofList name)) →
      Valid (.plain pair)
  | secret {name value : List Char} : '&' ∉ name ++ value → '=' ∉ name → looksSecret (.ofList name) →
      Valid (.secret name value)

/-- A parameter is shown as what it is. -/
lemma Valid.redactParam [BindingLib] {p : Param} (valid : p.Valid) (fp : String → Option String) :
    redactParam fp p.text = p.shown fp := by
  unfold Custos.redactParam
  cases valid with
  | @plain pair _ no =>
    cases cut : cutFirst ['='] pair with
    | none =>
      rw [text, cut]
      rfl
    | some named =>
      obtain ⟨name, value⟩ := named
      rw [text, cut]
      exact if_neg (no name value cut)
  | @secret name value _ noEq looks =>
    have cut : cutFirst ['='] (name ++ ['='] ++ value) = some (name, value) := cutFirst_join noEq
    rw [List.append_assoc, List.singleton_append] at cut
    rw [text, cut]
    exact if_pos looks

lemma Valid.noAmp [BindingLib] {p : Param} (valid : p.Valid) : '&' ∉ p.text := by
  cases valid with
  | plain no _ => exact no
  | secret no _ _ =>
    rw [List.mem_append, not_or] at no
    simp [text, no.1, no.2]

end Param

/-- An endpoint: a host with its path, maybe with userinfo before and a query behind. -/
structure Endpoint where
  scheme : List Char
  userinfo : Option (List Char)
  host : List Char
  query : Option (List Param)

namespace Endpoint

/-- What stands between the scheme and the query. -/
def authority (e : Endpoint) : List Char := e.userinfo.elim e.host fun userinfo => userinfo ++ '@' :: e.host

def text (e : Endpoint) : List Char :=
  e.scheme ++ "://".toList ++ (e.authority ++
    e.query.elim [] fun params => '?' :: ['&'].intercalate (params.map Param.text))

/-- What is shown between the scheme and the query: the last `@` there parts what counts as userinfo. -/
def shownAuthority (fp : String → Option String) (e : Endpoint) : List Char :=
  (cutLast '@' e.authority).elim e.authority fun cut => fpText fp cut.1 ++ '@' :: cut.2

/-- The endpoint with the fingerprints of its secrets in the secrets' place. -/
def shown (fp : String → Option String) (e : Endpoint) : List Char :=
  e.scheme ++ "://".toList ++ (e.shownAuthority fp ++
    e.query.elim [] fun params => '?' :: ['&'].intercalate (params.map (Param.shown fp)))

/-- The endpoints differ in their secrets at most. -/
structure Same (e e' : Endpoint) : Prop where
  scheme : e.scheme = e'.scheme
  userinfo : e.userinfo.isSome = e'.userinfo.isSome
  host : e.host = e'.host
  query : Option.Rel (List.Forall₂ Param.Same) e.query e'.query

structure Valid [BindingLib] (e : Endpoint) : Prop where
  scheme : ∀ c ∈ e.scheme, c ∉ [':', '@', '?']
  host : '?' ∉ e.host
  query : ∀ params ∈ e.query, params ≠ [] ∧ ∀ p ∈ params, p.Valid

/-- No `@` stands behind the `?`. -/
def AtFree (e : Endpoint) : Prop := ∀ params ∈ e.query, ∀ p ∈ params, '@' ∉ p.text

variable {fp : String → Option String} {e e' : Endpoint}

/-- What stands behind the authority. -/
def tail (e : Endpoint) : List Char :=
  e.query.elim [] fun params => '?' :: ['&'].intercalate (params.map Param.text)

/-- Without an `@` behind the `?` there is none in the tail. -/
lemma AtFree.tail (free : e.AtFree) : '@' ∉ e.tail := by
  unfold Endpoint.tail
  cases query : e.query with
  | none => simp
  | some params =>
    have no : ∀ w ∈ params.map Param.text, '@' ∉ w := by
      intro w hw
      obtain ⟨p, hp, rfl⟩ := List.mem_map.1 hw
      exact free params query p hp
    rw [Option.elim_some, List.mem_cons, not_or]
    exact ⟨by decide, not_mem_intercalate (by decide) no⟩

/-- The userinfo of an endpoint is redacted. -/
lemma redactUrlUserinfo_text [BindingLib] (valid : e.Valid) (free : e.AtFree) :
    redactUrlUserinfo fp e.text = e.scheme ++ "://".toList ++ (e.shownAuthority fp ++ e.tail) := by
  have colon : ':' ∉ e.scheme := fun mem => by simpa using valid.scheme ':' mem
  have at_ : '@' ∉ e.scheme := fun mem => by simpa using valid.scheme '@' mem
  have cut : cutFirst "://".toList e.text = some (e.scheme, e.authority ++ e.tail) := cutFirst_join colon
  have last := cutLast_append e.authority free.tail
  unfold redactUrlUserinfo shownAuthority
  rw [cut]
  dsimp only
  rw [last]
  cases host : cutLast '@' e.authority with
  | none =>
    have no : '@' ∉ e.text := by
      have := cutLast_eq_none.1 host
      have := free.tail
      simp_all [text, Endpoint.tail]
    rw [if_pos no]
    rfl
  | some pair =>
    obtain ⟨hidden, shown⟩ := pair
    have mem : '@' ∈ e.text := by
      obtain ⟨eq, -⟩ := cutLast_some host
      unfold text
      rw [eq]
      simp
    rw [if_neg (not_not.2 mem)]
    simp

/-- What is shown of a host is its end. -/
lemma shownHost_sublist (host : List Char) : (CommandPart.shownHost host).2 <:+ host := by
  unfold CommandPart.shownHost
  cases cut : cutLast '@' host with
  | none => exact List.suffix_refl host
  | some pair =>
    obtain ⟨hidden, shown⟩ := pair
    obtain ⟨rfl, -⟩ := cutLast_some cut
    exact ⟨hidden ++ ['@'], by simp⟩

/-- What is shown of the authority, by whether there is userinfo. -/
lemma shownAuthority_eq (e : Endpoint) :
    e.shownAuthority fp =
      match e.userinfo with
      | some userinfo => fpText fp (userinfo ++ (CommandPart.shownHost e.host).1) ++
          '@' :: (CommandPart.shownHost e.host).2
      | none => (cutLast '@' e.host).elim e.host fun cut => fpText fp cut.1 ++ '@' :: cut.2 := by
  unfold shownAuthority authority
  cases e.userinfo with
  | none => rfl
  | some userinfo =>
    rw [Option.elim_some, CommandPart.cutLast_userinfo]
    rfl

/-- What is shown of the authority has no `?` in it. -/
lemma not_mem_shownAuthority [BindingLib] (valid : e.Valid) (plain : ∀ value, '?' ∉ fpText fp value) :
    '?' ∉ e.shownAuthority fp := by
  have behind : ∀ cs, cs <:+ e.host → '?' ∉ cs := fun cs suffix mem => valid.host (suffix.mem mem)
  rw [shownAuthority_eq]
  cases e.userinfo with
  | some userinfo =>
    have := behind _ (shownHost_sublist e.host)
    have := plain (userinfo ++ (CommandPart.shownHost e.host).1)
    simp_all
  | none =>
    cases cut : cutLast '@' e.host with
    | none => exact valid.host
    | some pair =>
      obtain ⟨hidden, shown⟩ := pair
      have := behind shown ⟨hidden ++ ['@'], by rw [(cutLast_some cut).1]; simp⟩
      have := plain hidden
      simp_all

/-- The redacted endpoint is the endpoint with a fingerprint in the place of each secret. -/
lemma redactEndpointBy_typed [BindingLib] (valid : e.Valid) (free : e.AtFree)
    (plain : ∀ value, '?' ∉ fpText fp value) :
    redactEndpointBy fp (.ofList e.text) = .ofList (e.shown fp) := by
  have ne : String.ofList e.text ≠ "" := by
    intro empty
    have := congrArg String.toList empty
    simp [text] at this
  have base : '?' ∉ e.scheme ++ "://".toList ++ e.shownAuthority fp := by
    have scheme : '?' ∉ e.scheme := fun mem => by simpa using valid.scheme '?' mem
    have := not_mem_shownAuthority valid plain
    simp_all
  unfold redactEndpointBy
  rw [if_neg ne, String.toList_ofList, redactUrlUserinfo_text valid free, ← List.append_assoc]
  unfold shown Endpoint.tail
  cases query : e.query with
  | none =>
    rw [Option.elim_none, Option.elim_none, List.append_nil, List.append_nil]
    dsimp only
    rw [cutFirst_eq_none base]
  | some params =>
    obtain ⟨some_, each⟩ := valid.query params query
    have cut : cutFirst ['?'] (e.scheme ++ "://".toList ++ e.shownAuthority fp ++ ['?'] ++
        ['&'].intercalate (params.map Param.text)) =
          some (e.scheme ++ "://".toList ++ e.shownAuthority fp,
            ['&'].intercalate (params.map Param.text)) := cutFirst_join base
    have pairs : (['&'].intercalate (params.map Param.text)).splitOn '&' = params.map Param.text := by
      refine List.splitOn_intercalate '&' (fun w hw => ?_) (by simpa using some_)
      obtain ⟨p, hp, rfl⟩ := List.mem_map.1 hw
      exact (each p hp).noAmp
    have shown : (params.map Param.text).map (redactParam fp) = params.map (Param.shown fp) := by
      rw [List.map_map]
      exact List.map_congr_left fun p hp => (each p hp).redactParam fp
    rw [List.append_assoc, List.singleton_append] at cut
    rw [Option.elim_some, Option.elim_some]
    dsimp only
    rw [cut]
    dsimp only
    rw [pairs, shown]
    simp

end Endpoint
/-! ## Two endpoints -/

lemma Param.Same.shown {p p' : Param} (same : p.Same p') : p.shown setAside = p'.shown setAside := by
  cases same <;> rfl

lemma Endpoint.Same.shown {e e' : Endpoint} (same : e.Same e') : e.shown setAside = e'.shown setAside := by
  have authority : e.shownAuthority setAside = e'.shownAuthority setAside := by
    have given := same.userinfo
    rw [shownAuthority_eq, shownAuthority_eq, same.host]
    cases user : e.userinfo with
    | none =>
      cases user' : e'.userinfo with
      | none => rfl
      | some userinfo' => simp [user, user'] at given
    | some userinfo =>
      cases user' : e'.userinfo with
      | none => simp [user, user'] at given
      | some userinfo' => rfl
  have query : e.query.elim [] (fun params => '?' :: ['&'].intercalate (params.map (Param.shown setAside))) =
      e'.query.elim [] fun params => '?' :: ['&'].intercalate (params.map (Param.shown setAside)) := by
    have params := same.query
    generalize e.query = query, e'.query = query' at params ⊢
    cases params with
    | none => rfl
    | some params =>
      have shown := List.forall₂_eq_eq_eq ▸
        List.forall₂_map_left_iff.2 (List.forall₂_map_right_iff.2 (params.imp fun _ _ => Param.Same.shown))
      dsimp only [Option.elim_some]
      rw [shown]
  unfold Endpoint.shown
  rw [authority, query, same.scheme]
/-! ## An `@` behind the query -/

/-- Differing in the secret is symmetric. -/
lemma Param.Same.symm {p p' : Param} (same : p.Same p') : p'.Same p := by
  cases same with
  | plain pair => exact .plain pair
  | secret name value value' => exact .secret name value' value

/-- Parameters that are the same but for their secrets are the same from the last secret on. -/
lemma Param.Same.behind {before behind params' : List Param} {pair : List Char}
    (same : List.Forall₂ Param.Same (before ++ .plain pair :: behind) params')
    (plain : ∀ p ∈ behind, ∃ pair, p = .plain pair) :
    ∃ before', params' = before' ++ .plain pair :: behind := by
  induction before generalizing params' with
  | nil =>
    have all : ∀ ps ps' : List Param, (∀ p ∈ ps, ∃ pair, p = .plain pair) →
        List.Forall₂ Param.Same ps ps' → ps' = ps := by
      intro ps ps' plain same
      induction same with
      | nil => rfl
      | cons here _ ih =>
        obtain ⟨⟨pair, rfl⟩, rest⟩ := List.forall_mem_cons.1 plain
        cases here
        rw [ih rest]
    exact ⟨[], all _ _ (List.forall_mem_cons.2 ⟨⟨pair, rfl⟩, plain⟩) same⟩
  | cons p before ih =>
    cases same with
    | @cons _ p' _ ps' _ rest =>
      obtain ⟨before', rfl⟩ := ih rest
      exact ⟨p' :: before', rfl⟩

namespace Endpoint

/-- If an `@` stands behind the `?`, the last one stands in a parameter that is no secret, with none behind. -/
def Hidden (e : Endpoint) : Prop :=
  e.AtFree ∨ ∃ before pair behind, e.query = some (before ++ .plain pair :: behind) ∧ '@' ∈ pair ∧
    ∀ p ∈ behind, '@' ∉ p.text ∧ ∃ pair, p = .plain pair

variable {fp : String → Option String} {e e' : Endpoint}

/-- The text of an endpoint is not empty. -/
lemma text_ne (e : Endpoint) : String.ofList e.text ≠ "" := by
  intro empty
  have := congrArg String.toList empty
  simp [text] at this

variable (fp) in
/-- The last `@` in the query parts what counts as userinfo, up to there, from what counts as the host. -/
lemma redactUrlUserinfo_query [BindingLib] (valid : e.Valid) {before behind : List Param} {p : Param}
    (query : e.query = some (before ++ p :: behind)) {x y : List Char} (cut : cutLast '@' p.text = some (x, y))
    (free : ∀ q ∈ behind, '@' ∉ q.text) :
    ∃ hidden, redactUrlUserinfo fp e.text = e.scheme ++ "://".toList ++ fpText fp hidden ++
      '@' :: (y ++ (behind.map Param.text).flatMap ('&' :: ·)) := by
  obtain ⟨parted, no⟩ := cutLast_some cut
  have colon : ':' ∉ e.scheme := fun mem => by simpa using valid.scheme ':' mem
  have first : cutFirst "://".toList e.text = some (e.scheme, e.authority ++ e.tail) := cutFirst_join colon
  obtain ⟨hidden, whole⟩ : ∃ hidden, e.authority ++ e.tail =
      hidden ++ '@' :: (y ++ (behind.map Param.text).flatMap ('&' :: ·)) := by
    refine ⟨e.authority ++ '?' :: ((before.map Param.text).flatMap (· ++ ['&']) ++ x), ?_⟩
    unfold Endpoint.tail
    rw [query, Option.elim_some, List.map_append, List.map_cons, intercalate_append, parted]
    simp
  have shown : '@' ∉ y ++ (behind.map Param.text).flatMap ('&' :: ·) := by
    simp only [List.mem_append, List.mem_flatMap, List.mem_map, not_or, not_exists, not_and]
    refine ⟨no, ?_⟩
    rintro w ⟨q, hq, rfl⟩ mem
    exact free q hq ((List.mem_cons.1 mem).resolve_left (by decide))
  have mem : '@' ∈ e.text := by
    unfold text
    rw [List.mem_append, ← Endpoint.tail, whole]
    simp
  refine ⟨hidden, ?_⟩
  unfold redactUrlUserinfo
  rw [first]
  dsimp only
  rw [if_neg (not_not.2 mem), whole, cutLast_join shown]
  rfl

lemma Same.symm (same : e.Same e') : e'.Same e := by
  refine ⟨same.scheme.symm, same.userinfo.symm, same.host.symm, ?_⟩
  have params := same.query
  generalize e.query = query, e'.query = query' at params ⊢
  cases params with
  | none => exact .none
  | some params => exact .some (params.flip.imp fun _ _ => Param.Same.symm)

/-- An `@` behind all secrets makes the redacted endpoint the same, whatever the secrets are. -/
lemma Same.redact_behind [BindingLib] (same : e.Same e') (valid : e.Valid) (valid' : e'.Valid)
    {before behind : List Param} {pair : List Char} (query : e.query = some (before ++ .plain pair :: behind))
    (at_ : '@' ∈ pair) (plain : ∀ p ∈ behind, '@' ∉ p.text ∧ ∃ pair, p = .plain pair) :
    e'.Hidden ∧ redactEndpointBy setAside (.ofList e.text) = redactEndpointBy setAside (.ofList e'.text) := by
  obtain ⟨before', query'⟩ : ∃ before', e'.query = some (before' ++ .plain pair :: behind) := by
    have params := same.query
    rw [query] at params
    generalize e'.query = q' at params ⊢
    cases params with
    | some params =>
      obtain ⟨before', rfl⟩ := Param.Same.behind params fun p hp => (plain p hp).2
      exact ⟨before', rfl⟩
  refine ⟨.inr ⟨before', pair, behind, query', at_, plain⟩, ?_⟩
  obtain ⟨⟨x, y⟩, cut⟩ := Option.isSome_iff_exists.1
    (Option.isSome_iff_ne_none.2 fun none => cutLast_eq_none.1 none at_)
  obtain ⟨hidden, eq⟩ := redactUrlUserinfo_query setAside valid query (p := .plain pair) cut
    fun p hp => (plain p hp).1
  obtain ⟨hidden', eq'⟩ := redactUrlUserinfo_query setAside valid' query' (p := .plain pair) cut
    fun p hp => (plain p hp).1
  have base : redactUrlUserinfo setAside e.text = redactUrlUserinfo setAside e'.text := by
    rw [eq, eq', fpText_setAside, fpText_setAside, same.scheme]
  unfold redactEndpointBy
  rw [if_neg (text_ne e), if_neg (text_ne e'), String.toList_ofList, String.toList_ofList, base]

/-- Where no `@` behind the `?` parts a secret, the redacted endpoints are the same. -/
lemma Same.redactEndpointBy_eq [BindingLib] (same : e.Same e') (valid : e.Valid) (valid' : e'.Valid)
    (hidden : e.Hidden) (hidden' : e'.Hidden) :
    redactEndpointBy setAside (.ofList e.text) = redactEndpointBy setAside (.ofList e'.text) := by
  rcases hidden with free | ⟨before, pair, behind, query, at_, plain⟩
  · rcases hidden' with free' | ⟨before, pair, behind, query, at_, plain⟩
    · have star : ∀ value, '?' ∉ fpText setAside value := by
        intro value
        rw [fpText_setAside]
        decide
      rw [redactEndpointBy_typed valid free star, redactEndpointBy_typed valid' free' star, same.shown]
    · exact (same.symm.redact_behind valid' valid query at_ plain).2.symm
  · exact (same.redact_behind valid valid' query at_ plain).2

/-- Where the redacted endpoints are the same and one hides its secrets, the other does, if its one `?` is the
one before the query. -/
lemma Same.hidden [BindingLib] (same : e.Same e') (valid : e.Valid) (valid' : e'.Valid) (hidden' : e'.Hidden)
    (one : ∀ params ∈ e.query, ∀ p ∈ params, '?' ∉ p.text)
    (eq : redactEndpointBy setAside (.ofList e.text) = redactEndpointBy setAside (.ofList e'.text)) :
    e.Hidden := by
  rcases hidden' with free' | ⟨before, pair, behind, query, at_, plain⟩
  · by_contra no
    obtain ⟨params, query, at_⟩ : ∃ params, e.query = some params ∧ ∃ p ∈ params, '@' ∈ p.text := by
      by_contra none
      push Not at none
      exact no (.inl none)
    obtain ⟨before, p, behind, rfl, at_, free⟩ := exists_last at_
    obtain ⟨⟨x, y⟩, cut⟩ := Option.isSome_iff_exists.1
      (Option.isSome_iff_ne_none.2 fun none => cutLast_eq_none.1 none at_)
    obtain ⟨secrets, base⟩ := redactUrlUserinfo_query setAside valid query cut free
    -- what is left of the endpoint behind the last `@` has no query
    have left : '?' ∉ e.scheme ++ "://".toList ++ fpText setAside secrets ++
        '@' :: (y ++ (behind.map Param.text).flatMap ('&' :: ·)) := by
      have scheme : '?' ∉ e.scheme := fun mem => by simpa using valid.scheme '?' mem
      have here : '?' ∉ y := fun mem => one _ query p (by simp) (by rw [(cutLast_some cut).1]; simp [mem])
      have rest : ∀ q ∈ behind, '?' ∉ q.text := fun q hq => one _ query q (by simp [hq])
      rw [fpText_setAside]
      simp only [List.mem_append, List.mem_cons, List.mem_flatMap, List.mem_map, not_or, not_exists, not_and]
      refine ⟨⟨⟨scheme, by decide⟩, by decide⟩, by decide, here, ?_⟩
      rintro w ⟨q, hq, rfl⟩
      exact ⟨by decide, rest q hq⟩
    have star : ∀ value, '?' ∉ fpText setAside value := by
      intro value
      rw [fpText_setAside]
      decide
    have kept : '?' ∈ e'.shown setAside := by
      have params := same.query
      rw [query] at params
      unfold Endpoint.shown
      generalize e'.query = q' at params ⊢
      cases params with
      | some params => simp
    rw [redactEndpointBy_typed valid' free' star] at eq
    unfold redactEndpointBy at eq
    rw [if_neg (text_ne e), String.toList_ofList, base] at eq
    dsimp only at eq
    rw [cutFirst_eq_none left] at eq
    rw [String.ofList_inj.1 eq] at left
    exact left kept
  · exact (same.symm.redact_behind valid' valid query at_ plain).1

end Endpoint

end Custos
