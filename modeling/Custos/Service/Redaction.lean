import Custos.Reference
import Custos.Service.EndpointParts

/-!
# What the payload hides

The payload of a deployment binding with the fingerprints set aside is the same for two inputs that differ in
their secrets, where each secret on the command line is one token and no `@` behind the endpoint's `?` parts a
secret; where one of two inputs is so, the payloads are the same only if the other is (`buildPayloadBy_hides`).
-/

namespace Custos

/-! ## The payload -/

section Payload

variable [Platform] [BindingLib] {fp : String → Option String}

omit [Platform] [BindingLib] in
/-- Sorting inside the values keeps the keys. -/
lemma mem_sortKeysFields {fields : Fields} {key : String} {value : Json} :
    (key, value) ∈ Json.sortKeysFields fields ↔ ∃ value', (key, value') ∈ fields ∧ value'.sortKeys = value := by
  induction fields with
  | nil => simp [Json.sortKeysFields]
  | cons field fields ih =>
    obtain ⟨key', value'⟩ := field
    rw [Json.sortKeysFields, List.mem_cons, ih]
    simp only [List.mem_cons, Prod.mk.injEq]
    constructor
    · rintro (⟨rfl, rfl⟩ | ⟨w, mem, eq⟩)
      · exact ⟨value', .inl ⟨rfl, rfl⟩, rfl⟩
      · exact ⟨w, .inr mem, eq⟩
    · rintro ⟨w, ⟨rfl, rfl⟩ | mem, eq⟩
      · exact .inl ⟨rfl, eq.symm⟩
      · exact .inr ⟨w, mem, eq⟩

omit [Platform] [BindingLib] in
/-- A text stays in the payload under its key, unless it is empty. -/
lemma str_mem_canonicalPayload {fields : Fields} {key value : String} (ne : key ≠ "binding_schema") :
    (key, .str value) ∈ canonicalPayload fields ↔ (key, .str value) ∈ fields ∧ value ≠ "" := by
  have sorted : ∀ j : Json, j.sortKeys = .str value ↔ j = .str value := by
    intro j
    cases j <;> simp [Json.sortKeys]
  have kept_str : kept (.str value) = true ↔ value ≠ "" := by
    unfold kept
    split <;> simp_all
  unfold canonicalPayload
  rw [List.mem_insertionSort, mem_sortKeysFields]
  simp only [sorted, exists_eq_right, List.mem_append, List.mem_filter, List.mem_singleton, Prod.mk.injEq,
    kept_str, ne, false_and, or_false, ne_eq, not_false_eq_true, decide_true, and_true]

/-- The digest of a configuration has three fields at most. -/
lemma fst_of_mem_configDigest {config : Option Fields} {field : String × Json}
    (mem : field ∈ configDigest config) :
    field.1 ∈ ["config_digest", "secret_config_fields", "config_keys"] := by
  unfold configDigest at mem
  split at mem
  · cases mem
  · cases mem
  · simp only [List.mem_cons, List.not_mem_nil, or_false] at mem ⊢
    exact mem.imp (congrArg Prod.fst) (Or.imp (congrArg Prod.fst) (congrArg Prod.fst))

omit [Platform] [BindingLib] in
/-- A string is that of an option. -/
lemma ofOption_eq_str {o : Option String} {text : String} : .str text = Json.ofOption o ↔ o = some text := by
  cases o with
  | none => simp [Json.ofOption]
  | some value =>
    rw [Json.ofOption, Json.str.injEq, Option.some.injEq]
    exact eq_comm

variable (fp) in
/-- The redacted texts in the payload. -/
lemma mem_buildPayloadBy (a : BindingArgs) (text : String) :
    (("upstream_command", .str text) ∈ buildPayloadBy fp a ↔
      a.upstreamCommand.map (redactCommandBy fp) = some text ∧ text ≠ "") ∧
    (("upstream_endpoint", .str text) ∈ buildPayloadBy fp a ↔
      a.upstreamEndpoint.map (redactEndpointBy fp) = some text ∧ text ≠ "") := by
  have command : ("upstream_command", Json.str text) ∉ configDigest a.config := fun mem =>
    absurd (fst_of_mem_configDigest mem) (by simp)
  have endpoint : ("upstream_endpoint", Json.str text) ∉ configDigest a.config := fun mem =>
    absurd (fst_of_mem_configDigest mem) (by simp)
  constructor
  · unfold buildPayloadBy
    rw [str_mem_canonicalPayload (by decide), List.mem_append, or_iff_left command,
      str_mem_canonicalPayload (by decide)]
    simp [ofOption_eq_str]
  · unfold buildPayloadBy
    rw [str_mem_canonicalPayload (by decide), List.mem_append, or_iff_left endpoint,
      str_mem_canonicalPayload (by decide)]
    simp [ofOption_eq_str]

variable {a : BindingArgs} {c c' t t' : Option String}

/-- The payload depends on the redacted texts. -/
lemma buildPayloadBy_congr (command : c.map (redactCommandBy fp) = c'.map (redactCommandBy fp))
    (endpoint : t.map (redactEndpointBy fp) = t'.map (redactEndpointBy fp)) :
    buildPayloadBy fp { a with upstreamCommand := c, upstreamEndpoint := t } =
      buildPayloadBy fp { a with upstreamCommand := c', upstreamEndpoint := t' } := by
  unfold buildPayloadBy
  dsimp only
  rw [command, endpoint]

/-- The payloads are the same when the redacted texts are. -/
lemma buildPayloadBy_eq_iff {command command' endpoint endpoint' : String} :
    buildPayloadBy fp { a with upstreamCommand := some command, upstreamEndpoint := some endpoint } =
        buildPayloadBy fp { a with upstreamCommand := some command', upstreamEndpoint := some endpoint' } ↔
      redactCommandBy fp command = redactCommandBy fp command' ∧
        redactEndpointBy fp endpoint = redactEndpointBy fp endpoint' := by
  have text_eq : ∀ x y : String, (∀ text, some x = some text ∧ text ≠ "" ↔ some y = some text ∧ text ≠ "") →
      x = y := by
    intro x y same
    by_cases empty : x = ""
    · by_contra ne
      exact absurd ((same y).2 ⟨rfl, fun h => ne (empty.trans h.symm)⟩).1 (by simpa using ne)
    · exact (Option.some.inj ((same x).1 ⟨rfl, empty⟩).1).symm
  constructor
  · intro eq
    refine ⟨text_eq _ _ fun text => ?_, text_eq _ _ fun text => ?_⟩
    · have := (mem_buildPayloadBy fp { a with
        upstreamCommand := some command, upstreamEndpoint := some endpoint } text).1
      rw [eq] at this
      exact this.symm.trans (mem_buildPayloadBy fp _ text).1
    · have := (mem_buildPayloadBy fp { a with
        upstreamCommand := some command, upstreamEndpoint := some endpoint } text).2
      rw [eq] at this
      exact this.symm.trans (mem_buildPayloadBy fp _ text).2
  · rintro ⟨command, endpoint⟩
    exact buildPayloadBy_congr (congrArg some command) (congrArg some endpoint)

/-- The endpoints are typed alike, but for the values of their secrets. -/
structure Endpoint.Alike (e e' : Endpoint) (endpoint endpoint' : String) : Prop where
  typed : endpoint = .ofList e.text
  typed' : endpoint' = .ofList e'.text
  same : e.Same e'
  valid : e.Valid
  valid' : e'.Valid

/-- With the fingerprints set aside, two inputs that differ in their secrets make one payload where every secret
on the command line is one token and no `@` behind a `?` parts a secret; where one of two inputs is so, they make
one payload only if the other is. The redacted texts are the texts with fingerprints in the secrets' places. -/
theorem buildPayloadBy_hides (a : BindingArgs) :
    (∀ c c' t t' : Option String,
      Option.Rel (fun command command' => ∃ parts parts' rest,
        TypedAlike parts parts' rest command command' ∧ ∀ p ∈ parts ++ parts', p.OneToken) c c' →
      Option.Rel (fun endpoint endpoint' => ∃ e e',
        Endpoint.Alike e e' endpoint endpoint' ∧ e.Hidden ∧ e'.Hidden) t t' →
      buildPayloadBy setAside { a with upstreamCommand := c, upstreamEndpoint := t } =
        buildPayloadBy setAside { a with upstreamCommand := c', upstreamEndpoint := t' }) ∧
    (∀ parts parts' rest command command' e e' endpoint endpoint',
      TypedAlike parts parts' rest command command' → Endpoint.Alike e e' endpoint endpoint' →
      (∀ p ∈ parts', p.OneToken) → e'.Hidden →
      waits false (rest.flatMap (words isSpace)) = false →
      (∀ params ∈ e.query, ∀ p ∈ params, '?' ∉ p.text) →
      (buildPayloadBy setAside { a with upstreamCommand := some command, upstreamEndpoint := some endpoint } =
          buildPayloadBy setAside
            { a with upstreamCommand := some command', upstreamEndpoint := some endpoint' } ↔
        (∀ p ∈ parts, p.OneToken) ∧ e.Hidden)) ∧
    (∀ fp parts rest command, TypedCommand parts rest command → (∀ p ∈ parts, p.Valid) →
      (∀ p ∈ parts, p.OneToken) →
      redactCommandBy fp command = .ofList ([' '].intercalate
        (parts.flatMap (CommandPart.shown fp) ++ redactTokens fp false (rest.flatMap (words isSpace))))) ∧
    ∀ fp (e : Endpoint), e.Valid → e.AtFree → (∀ value, '?' ∉ fpText fp value) →
      redactEndpointBy fp (.ofList e.text) = .ofList (e.shown fp) := by
  refine ⟨?_, ?_, ?_, ?_⟩
  · intro c c' t t' commands endpoints
    refine buildPayloadBy_congr ?_ ?_
    · cases commands with
      | none => rfl
      | some pair =>
        obtain ⟨parts, parts', rest, alike, one⟩ := pair
        exact congrArg some (alike.redactCommandBy_eq (fun p hp => one p (List.mem_append_left _ hp))
          fun p hp => one p (List.mem_append_right _ hp))
    · cases endpoints with
      | none => rfl
      | some pair =>
        obtain ⟨e, e', ⟨rfl, rfl, same, valid, valid'⟩, hidden, hidden'⟩ := pair
        exact congrArg some (same.redactEndpointBy_eq valid valid' hidden hidden')
  · rintro parts parts' rest command command' e e' endpoint endpoint' alike ⟨rfl, rfl, same, valid, valid'⟩
      one' hidden' whole query
    rw [buildPayloadBy_eq_iff]
    constructor
    · rintro ⟨commands, endpoints⟩
      exact ⟨alike.oneToken one' whole commands, same.hidden valid valid' hidden' query endpoints⟩
    · rintro ⟨one, hidden⟩
      exact ⟨alike.redactCommandBy_eq one one', same.redactEndpointBy_eq valid valid' hidden hidden'⟩
  · intro fp parts rest command typed valid one
    exact redactCommandBy_typed typed valid one
  · intro fp e valid free plain
    exact e.redactEndpointBy_typed valid free plain

end Payload

section Sample

local instance redactionDigests : Platform := .reference .empty

/-- The encoder of the reference platform, and a `repr` no text here asks for. -/
local instance redactionLib : BindingLib where
  lower s := .ofList (s.toList.map Char.toLower)
  repr _ := ""
  dumpsRaw j := .ofList (j.text .compact)

/-- A server started with a token. -/
def serverParts (value : List Char) : List CommandPart :=
  [ .plain "srv".toList, .separate "--token".toList value]

/-- The command of the sample is typed by its parts. -/
lemma serverParts_typed (value : List Char) :
    TypedCommand (serverParts value) [] (.ofList ("srv --token ".toList ++ value)) := by
  have texts : (serverParts value).flatMap CommandPart.texts ++ [] =
      [ "srv".toList, "--token".toList, value] := rfl
  have blank : ∀ c ∈ [' '], isSpace c := forall_mem_of_all (by decide)
  have last : Spaced isSpace [value] ([' '] ++ value ++ []) :=
    .piece blank (.inl rfl) (.blanks (List.forall_mem_nil _))
  have flag : Spaced isSpace [ "--token".toList, value]
      ([' '] ++ "--token".toList ++ ([' '] ++ value ++ [])) :=
    .piece blank (.inr ⟨' ', value ++ [], rfl, by decide⟩) last
  have all : Spaced isSpace [ "srv".toList, "--token".toList, value]
      ([] ++ "srv".toList ++ ([' '] ++ "--token".toList ++ ([' '] ++ value ++ []))) :=
    .piece (List.forall_mem_nil _) (.inr ⟨' ', _, rfl, by decide⟩) flag
  unfold TypedCommand
  rw [texts, String.toList_ofList]
  simpa using all

lemma serverParts_valid {value : List Char} (ne : value ≠ []) (trimmed : CommandPart.Trimmed value) :
    ∀ p ∈ serverParts value, p.Valid := by
  refine List.forall_mem_cons.2 ⟨.plain (by decide), List.forall_mem_cons.2 ⟨?_, List.forall_mem_nil _⟩⟩
  exact .separate (by decide) ne trimmed

lemma serverParts_oneToken {value : List Char} (one : words isSpace value = [value]) :
    ∀ p ∈ serverParts value, p.OneToken := by
  have flag : words isSpace "--token".toList = [ "--token".toList] := by decide
  have tokens : [ "--token".toList, value].flatMap (words isSpace) = [ "--token".toList, value] := by
    rw [List.flatMap_cons, List.flatMap_cons, flag, one]
    rfl
  exact List.forall_mem_cons.2 ⟨trivial, List.forall_mem_cons.2 ⟨tokens, List.forall_mem_nil _⟩⟩

/-- A text is trimmed where its ends are. -/
lemma trimmed_of_ends {text : List Char} {c d : Char} (first : text.head? = some c)
    (last : text.getLast? = some d) (no : ¬ isSpace c) (no' : ¬ isSpace d) : CommandPart.Trimmed text := by
  refine ⟨fun e mem => ?_, fun e mem => ?_⟩
  · cases first.symm.trans mem
    exact no
  · cases last.symm.trans mem
    exact no'

/-- Two commands of the sample differ in their secret. -/
lemma serverParts_alike {value value' : List Char} (ne : value ≠ []) (trimmed : CommandPart.Trimmed value)
    (ne' : value' ≠ []) (trimmed' : CommandPart.Trimmed value') :
    TypedAlike (serverParts value) (serverParts value') [] (.ofList ("srv --token ".toList ++ value))
      (.ofList ("srv --token ".toList ++ value')) :=
  ⟨serverParts_typed value, serverParts_typed value',
    .cons (.plain _) (.cons (.separate _ _ _) .nil), serverParts_valid ne trimmed,
    serverParts_valid ne' trimmed'⟩

/-- An endpoint with a token in its query. -/
def tokenEndpoint (value : List Char) : Endpoint :=
  ⟨"https".toList, none, "h/p".toList, some [ .secret "token".toList value]⟩

lemma tokenEndpoint_alike {value value' : List Char} (no : '&' ∉ value) (no' : '&' ∉ value') :
    Endpoint.Alike (tokenEndpoint value) (tokenEndpoint value') (.ofList (tokenEndpoint value).text)
      (.ofList (tokenEndpoint value').text) := by
  have valid : ∀ value : List Char, '&' ∉ value → (tokenEndpoint value).Valid := by
    intro value no
    refine ⟨(forall_mem_of_all (by decide) : ∀ c ∈ "https".toList, c ∉ [':', '@', '?']),
      (by decide : '?' ∉ "h/p".toList), ?_⟩
    intro params given
    cases given
    refine ⟨List.cons_ne_nil _ _, fun p hp => ?_⟩
    rw [List.mem_singleton.1 hp]
    refine .secret ?_ (by decide) (by decide)
    rw [List.mem_append, not_or]
    exact ⟨by decide, no⟩
  exact ⟨rfl, rfl, ⟨rfl, rfl, rfl, .some (.cons (.secret _ _ _) .nil)⟩, valid value no, valid value' no'⟩

/-- The endpoint has no `@` behind the `?` where its token has none. -/
lemma tokenEndpoint_atFree {value : List Char} (no : '@' ∉ value) : (tokenEndpoint value).AtFree := by
  intro params given p hp
  cases given
  rw [List.mem_singleton.1 hp, Param.text, List.mem_append, not_or]
  exact ⟨by decide, by simpa using no⟩

/-- A binding of a command and an endpoint. -/
def upstreamArgs (command endpoint : String) : BindingArgs :=
  { deploymentId := "prod", upstreamCommand := some command, upstreamEndpoint := some endpoint }

/-- Tokens in quotes, without blanks in them, make one payload, and one with a blank in it makes another; what is shown
are the fingerprints. -/
theorem buildPayloadBy_hides_sample :
    buildPayloadBy setAside (upstreamArgs "srv --token \"ab\"" "https://h/p?token=ab") =
      buildPayloadBy setAside (upstreamArgs "srv --token 'c'" "https://h/p?token=c") ∧
    buildPayloadBy setAside (upstreamArgs "srv --token \"a b\"" "https://h/p?token=ab") ≠
      buildPayloadBy setAside (upstreamArgs "srv --token 'c'" "https://h/p?token=c") ∧
    (∀ fp, redactCommandBy fp "srv --token \"ab\"" =
      .ofList ([' '].intercalate [ "srv".toList, "--token".toList, fpOrEmpty fp "\"ab\"".toList])) ∧
    ∀ fp, (∀ value, '?' ∉ fpText fp value) →
      redactEndpointBy fp "https://h/p?token=ab" = .ofList ("https://h/p?token=".toList ++ fpText fp "ab".toList) := by
  have whole : ∀ p ∈ serverParts "\"ab\"".toList, p.OneToken := serverParts_oneToken (by decide)
  have whole' : ∀ p ∈ serverParts "'c'".toList, p.OneToken := serverParts_oneToken (by decide)
  have free : (tokenEndpoint "ab".toList).AtFree := tokenEndpoint_atFree (by decide)
  have free' : (tokenEndpoint "c".toList).AtFree := tokenEndpoint_atFree (by decide)
  have endpoints : Endpoint.Alike (tokenEndpoint "ab".toList) (tokenEndpoint "c".toList)
      "https://h/p?token=ab" "https://h/p?token=c" := tokenEndpoint_alike (by decide) (by decide)
  have trimmed' : CommandPart.Trimmed "'c'".toList := trimmed_of_ends rfl rfl (by decide) (by decide)
  have commands : TypedAlike (serverParts "\"ab\"".toList) (serverParts "'c'".toList) []
      "srv --token \"ab\"" "srv --token 'c'" :=
    serverParts_alike (by decide) (trimmed_of_ends rfl rfl (by decide) (by decide)) (by decide) trimmed'
  have halved : TypedAlike (serverParts "\"a b\"".toList) (serverParts "'c'".toList) []
      "srv --token \"a b\"" "srv --token 'c'" :=
    serverParts_alike (by decide) (trimmed_of_ends rfl rfl (by decide) (by decide)) (by decide) trimmed'
  obtain ⟨hides, only, shown, shown'⟩ := buildPayloadBy_hides { deploymentId := "prod" }
  refine ⟨hides _ _ _ _ (.some ⟨_, _, [], commands, List.forall_mem_append.2 ⟨whole, whole'⟩⟩)
    (.some ⟨_, _, endpoints, .inl free, .inl free'⟩), fun same => ?_, fun fp => ?_, fun fp plain => ?_⟩
  · obtain ⟨one, -⟩ := (only _ _ [] _ _ _ _ _ _ halved endpoints whole' (.inl free') rfl (by
      intro params given p hp
      cases given
      rw [List.mem_singleton.1 hp]
      decide)).1 same
    have halves : (CommandPart.separate "--token".toList "\"a b\"".toList).tokens ≠
        (CommandPart.separate "--token".toList "\"a b\"".toList).texts := by decide
    exact halves (one _ (.tail _ (.head _)))
  · exact shown fp _ [] _ commands.typed commands.valid whole
  · have text : (tokenEndpoint "ab".toList).shown fp = "https://h/p?token=".toList ++ fpText fp "ab".toList := by
      unfold Endpoint.shown Endpoint.shownAuthority
      rw [show cutLast '@' (tokenEndpoint "ab".toList).authority = none by decide]
      simp [tokenEndpoint, Endpoint.authority, Param.shown, List.intercalate]
    exact (shown' fp _ endpoints.valid free plain).trans (congrArg String.ofList text)

/-- A quoted token with a blank in it leaves its second half on the command line, and one with an `@` its end in
the endpoint. -/
theorem secret_halves_shown :
    (TypedAlike (serverParts "\"a b\"".toList) (serverParts "\"a c\"".toList) []
        "srv --token \"a b\"" "srv --token \"a c\"" ∧
      ("upstream_command", .str "srv --token * b\"") ∈
        buildPayloadBy setAside { deploymentId := "prod", upstreamCommand := some "srv --token \"a b\"" } ∧
      buildPayloadBy setAside { deploymentId := "prod", upstreamCommand := some "srv --token \"a b\"" } ≠
        buildPayloadBy setAside { deploymentId := "prod", upstreamCommand := some "srv --token \"a c\"" }) ∧
    (Endpoint.Alike (tokenEndpoint "a@b".toList) (tokenEndpoint "a@c".toList)
        "https://h/p?token=a@b" "https://h/p?token=a@c" ∧
      ("upstream_endpoint", .str "https://*@b") ∈
        buildPayloadBy setAside { deploymentId := "prod", upstreamEndpoint := some "https://h/p?token=a@b" } ∧
      buildPayloadBy setAside { deploymentId := "prod", upstreamEndpoint := some "https://h/p?token=a@b" } ≠
        buildPayloadBy setAside
          { deploymentId := "prod", upstreamEndpoint := some "https://h/p?token=a@c" }) := by
  have command : ("upstream_command", Json.str "srv --token * b\"") ∈
      buildPayloadBy setAside { deploymentId := "prod", upstreamCommand := some "srv --token \"a b\"" } :=
    (mem_buildPayloadBy _ _ _).1.2 (by decide)
  have endpoint : ("upstream_endpoint", Json.str "https://*@b") ∈
      buildPayloadBy setAside { deploymentId := "prod", upstreamEndpoint := some "https://h/p?token=a@b" } :=
    (mem_buildPayloadBy _ _ _).2.2 (by decide)
  refine ⟨⟨?_, command, fun same => ?_⟩, ?_, endpoint, fun same => ?_⟩
  · exact serverParts_alike (by decide) (trimmed_of_ends rfl rfl (by decide) (by decide)) (by decide)
      (trimmed_of_ends rfl rfl (by decide) (by decide))
  · rw [same, (mem_buildPayloadBy _ _ _).1] at command
    exact absurd command (by decide)
  · exact tokenEndpoint_alike (by decide) (by decide)
  · rw [same, (mem_buildPayloadBy _ _ _).2] at endpoint
    exact absurd endpoint (by decide)

end Sample

end Custos
