import Custos.Library.JsonRead
import Custos.Library.StableSort
import Custos.Library.Text
import Custos.Policy.Citation

/-!
# Deployment binding

The payload of `custos/deployment_binding.py`: what a process says of itself at startup, its credentials by
their fingerprints. The redactions take the fingerprint as a parameter (`redactCommandBy`,
`redactEndpointBy`), so that a result can set the fingerprints aside.
-/

namespace Custos

/-- What the module takes from the standard library beside the platform: `str.lower`, the `repr` of a value
that is no string, and `json.dumps(value, separators=(",", ":"), ensure_ascii=False)`. -/
class BindingLib where
  lower : String → String
  repr : Json → String
  dumpsRaw : Json → String

export BindingLib (dumpsRaw)

/-- `str(value)`. -/
def pyText [BindingLib] : Json → String
  | .str s => s
  | j => BindingLib.repr j

def BINDING_SCHEMA : Int := 2

/-- An object of the payload, by its fields. -/
abbrev Fields := List (String × Json)

section

variable [Platform]

/-- `credential_fingerprint`. -/
def credentialFingerprint (secret : String) : Option String :=
  if secret = "" then none else some ("sha256:" ++ sha256 secret)

variable [BindingLib]

/-- The digest of a value in its canonical form. -/
def jsonDigest (value : Json) : String := "sha256:" ++ sha256 (dumpsRaw value.sortKeys)

/-- `tool_list_digest`. -/
def toolListDigest (names : List Json) : String :=
  jsonDigest (.arr ((sortedSet (names.map pyText).toFinset).map .str))

/-- `out.pop(key, None)`: a null is as good as no value to the callers. -/
def popKey (key : String) (out : Fields) : Option Json × Fields :=
  ((out.lookup key).bind fun value => match value with | .null => none | value => some value,
    out.filter fun field => field.1 ≠ key)

/-- `_descriptor`. -/
def descriptor : Json → Fields
  | .str name => [("name", .str name)]
  | .obj entry =>
    let (schema, out) := popKey "inputSchema" entry
    let (schema, out) := match schema with
      | some schema => (some schema, out)
      | none => popKey "input_schema" out
    let out := match schema with
      | some schema => out ++ [("inputSchema", schema)]
      | none => out
    if (out.lookup "name").isSome then out else out ++ [("name", .str "")]
  | entry => [("name", .str (pyText entry))]

/-- `str(d.get("name", ""))`, by which the descriptors are sorted. -/
def descriptorName (d : Fields) : String := pyText ((d.lookup "name").getD (.str ""))

/-- `tool_descriptor_digest`. -/
def toolDescriptorDigest (tools : List Json) : String :=
  jsonDigest (.arr ((sortBy descriptorName (tools.map descriptor)).map .obj))

/-! ## The configuration -/

def SECRET_HINTS : List String :=
  ["secret", "token", "password", "passwd", "credential", "jwt",
   "api_key", "apikey", "database_url", "dsn", "private_key"]

/-- `_looks_secret`. -/
def looksSecret (name : String) : Bool := SECRET_HINTS.any fun hint => isIn hint (BindingLib.lower name)

/-- `path.split(".")[-1].split("[")[0]`. -/
def pathLeaf (path : String) : String :=
  let cs := path.toList
  let last := (cutLast '.' cs).elim cs (·.2)
  .ofList ((cutFirst ['['] last).elim last (·.1))

mutual

/-- `_redact_secrets`, with the paths it appends to `found`. -/
def redactSecrets (path : String) : Json → Json × List String
  | .obj kvs =>
    let (kvs, found) := redactSecretsFields path kvs
    (.obj kvs, found)
  | .arr xs =>
    let (xs, found) := redactSecretsList path 0 xs
    (.arr xs, found)
  | value =>
    if path ≠ "" ∧ looksSecret (pathLeaf path) then
      (.ofOption (credentialFingerprint (pyText value)), [path])
    else (value, [])

/-- `_redact_secrets` on the elements of a list from an index on. -/
def redactSecretsList (path : String) (i : Nat) : List Json → List Json × List String
  | [] => ([], [])
  | x :: xs =>
    let (x, found) := redactSecrets (path ++ "[" ++ toString i ++ "]") x
    let (xs, found') := redactSecretsList path (i + 1) xs
    (x :: xs, found ++ found')

/-- `_redact_secrets` on the values of a dict. -/
def redactSecretsFields (path : String) : Fields → Fields × List String
  | [] => ([], [])
  | (k, v) :: kvs =>
    let (v, found) := redactSecrets (if path = "" then k else path ++ "." ++ k) v
    let (kvs, found') := redactSecretsFields path kvs
    ((k, v) :: kvs, found ++ found')

end

/-- `sorted` on strings. -/
def sortedStrings (xs : List String) : List Json := (xs.insertionSort (· ≤ ·)).map .str

/-- `config_digest`. -/
def configDigest (config : Option Fields) : Fields :=
  match config with
  | none | some [] => []
  | some config =>
    let (redacted, found) := redactSecrets "" (.obj config)
    [("config_digest", .str (jsonDigest redacted)), ("secret_config_fields", .arr (sortedStrings found)),
     ("config_keys", .arr (sortedStrings (config.map (·.1))))]

end

/-! ## The command line and the endpoint -/

/-- A character as a pattern without case sees it: the letters beside the ASCII ones that match one. -/
def foldCase (c : Char) : Char :=
  if c = '\u017f' then 's' else if c = '\u212a' then 'k' else if c = '\u0130' ∨ c = '\u0131' then 'i'
  else c.toLower

def FLAG_HINTS : List String := ["secret", "token", "key", "password", "passwd", "credential", "auth"]

/-- The first group of `_SECRET_FLAG`: one or two dashes and a name with a hint in it. -/
def isSecretFlag (flag : List Char) : Bool :=
  flag.head? = some '-' && flag.all (fun c => (foldCase c).isAlphanum || c = '_' || c = '-') &&
    FLAG_HINTS.any fun hint => decide (hint.toList <:+: flag.map foldCase)

/-- `_SECRET_FLAG.match(token)`: the flag, and the value behind an `=`. -/
def secretFlag (token : List Char) : Option (List Char × Option (List Char)) :=
  match cutFirst ['='] token with
  | some (flag, value) => if isSecretFlag flag then some (flag, some value) else none
  | none => if isSecretFlag token then some (token, none) else none

section

variable (fp : String → Option String)

/-- A fingerprint in an f-string. -/
def fpText (value : List Char) : List Char := ((fp (.ofList value)).getD "None").toList

/-- `fingerprint or ""`. -/
def fpOrEmpty (value : List Char) : List Char := (orElse (fp (.ofList value)) "").toList

/-- `_redact_url_userinfo`. -/
def redactUrlUserinfo (token : List Char) : List Char :=
  match cutFirst "://".toList token with
  | none => token
  | some (scheme, rest) =>
    if '@' ∉ token then token
    else
      let (userinfo, host) := (cutLast '@' rest).getD ([], rest)
      scheme ++ "://".toList ++ fpText fp userinfo ++ '@' :: host

/-- The loop of `redact_command`; the flag says that the token is the value of the one before. -/
def redactTokens : Bool → List (List Char) → List (List Char)
  | true, [] => [fpOrEmpty fp []]
  | false, [] => []
  | true, token :: tokens => fpOrEmpty fp token :: redactTokens false tokens
  | false, token :: tokens =>
    match secretFlag token with
    | some (_, none) => token :: redactTokens true tokens
    | some (flag, some value) => (flag ++ '=' :: fpText fp value) :: redactTokens false tokens
    | none => redactUrlUserinfo fp token :: redactTokens false tokens

/-- `redact_command`. -/
def redactCommandBy (command : String) : String :=
  if command = "" then command
  else .ofList ([' '].intercalate (redactTokens fp false (words isSpace command.toList)))

variable [BindingLib]

/-- A parameter of the query in `redact_endpoint`. -/
def redactParam (pair : List Char) : List Char :=
  match cutFirst ['='] pair with
  | some (name, value) => if looksSecret (.ofList name) then name ++ '=' :: fpText fp value else pair
  | none => pair

/-- `redact_endpoint`. -/
def redactEndpointBy (endpoint : String) : String :=
  if endpoint = "" then endpoint
  else
    let endpoint := redactUrlUserinfo fp endpoint.toList
    match cutFirst ['?'] endpoint with
    | none => .ofList endpoint
    | some (base, query) =>
      .ofList (base ++ '?' :: ['&'].intercalate ((query.splitOn '&').map (redactParam fp)))

end

section

variable [Platform] [BindingLib]

def redactCommand : String → String := redactCommandBy credentialFingerprint

def redactEndpoint : String → String := redactEndpointBy credentialFingerprint

/-! ## The payload -/

/-- `credential_binding`. -/
def credentialBinding (runtimeSecret upstream configuredSecret : Option String) (source : String)
    (scope : Option (List String)) : Option Json :=
  match runtimeSecret.bind credentialFingerprint with
  | none => none
  | some fingerprint =>
    let configured := configuredSecret.bind credentialFingerprint
    let binding := [("fingerprint", .str fingerprint), ("source", .str source),
      ("configured_matches", configured.elim .null fun c => .bool (c = fingerprint))]
    let binding := match present upstream with
      | some upstream => binding ++ [("upstream", .str upstream)]
      | none => binding
    let binding := match scope with
      | none | some [] => binding
      | some scope => binding ++ [("scope", .arr ((sortedSet scope.toFinset).map .str))]
    some (.obj binding)

/-- `v not in (None, "", [], {})`. -/
def kept : Json → Bool
  | .null | .str "" | .arr [] | .obj [] => false
  | _ => true

/-- `canonical_payload`: the keys come back from the JSON text in order. -/
def canonicalPayload (fields : Fields) : Fields :=
  let payload := fields.filter fun field => kept field.2
  let payload := payload.filter (·.1 ≠ "binding_schema") ++ [("binding_schema", .int BINDING_SCHEMA)]
  (Json.sortKeysFields payload).insertionSort fun a b => a.1 ≤ b.1

/-- The arguments of `build_payload`. -/
structure BindingArgs where
  deploymentId : String
  buildCommit : Option String := none
  transport : Option String := none
  upstreamCommand : Option String := none
  upstreamEndpoint : Option String := none
  toolNames : Option (List Json) := none
  toolDescriptors : Option (List Json) := none
  credential : Option String := none
  runtimeCredential : Option String := none
  configuredCredential : Option String := none
  credentialScope : Option (List String) := none
  config : Option Fields := none
  entryIds : Option (List String) := none

/-- `_descriptor(d).get("name") or ""`. -/
def toolName (tool : Json) : Json :=
  match (descriptor tool).lookup "name" with
  | some name => if name.truthy then name else .str ""
  | none => .str ""

/-- `sorted({str(s) for s in items}) if items else None`. -/
def sortedItems : Option (List String) → Json
  | none | some [] => .null
  | some items => .arr ((sortedSet items.toFinset).map .str)

/-- `build_payload`, with the fingerprint the redactions take. -/
def buildPayloadBy (fp : String → Option String) (a : BindingArgs) : Fields :=
  let names := a.toolNames.or (a.toolDescriptors.map (·.map toolName))
  let command := a.upstreamCommand.map (redactCommandBy fp)
  let endpoint := a.upstreamEndpoint.map (redactEndpointBy fp)
  let payload := canonicalPayload
    [("deployment_id", .str a.deploymentId),
     ("build_commit", .ofOption a.buildCommit),
     ("transport", .ofOption a.transport),
     ("upstream_command", .ofOption command),
     ("upstream_endpoint", .ofOption endpoint),
     ("tool_list_digest", .ofOption (names.map toolListDigest)),
     ("tool_descriptor_digest", .ofOption (a.toolDescriptors.map toolDescriptorDigest)),
     ("tool_count", names.elim .null fun names => .int names.length),
     ("credential_fingerprint", .ofOption (a.credential.bind credentialFingerprint)),
     ("credential_binding", (credentialBinding a.runtimeCredential ((present endpoint).or command)
        (a.configuredCredential.or a.credential) "runtime-connection" a.credentialScope).getD .null),
     ("entry_ids", sortedItems a.entryIds)]
  canonicalPayload (payload ++ configDigest a.config)

/-- `build_payload`. -/
def buildPayload : BindingArgs → Fields := buildPayloadBy credentialFingerprint

end

end Custos
