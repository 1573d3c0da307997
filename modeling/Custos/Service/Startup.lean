import Custos.Service.Authentication
import Custos.Service.Erasure

/-!
# Startup

What `lifespan` of `main.py` asks before a process serves, with `custos/scaling.py`, `custos/audit_persistence.py`, the
startup check of `custos/content_retention.py` and the payload that `custos/deployment_binding.py` reads of the
environment.

`startupChecks_ok_iff` says which configurations are let through. `started_process` says what a production process
that has started is good for from then on, in every run of its API: a store that outlives it, with every decision it
told anyone of; the record of its own binding; an answer to every request for a decision that passes the checks before
its record, whatever the retention of content; and retention endpoints that are closed only where retention is off and
open only to the callers who bear the configured credential.
-/

namespace Custos

/-- What the startup takes from the standard library: `int(text)`, none where it raises a `ValueError`,
`os.path.isdir`, and `json.loads` with the text of its `ValueError`. -/
class StartupLib where
  parseInt : String → Option Int
  isDir : String → Bool
  loads : String → Except String Json

/-- An `Except` that is a `bind` returns where both parts do. -/
lemma Except.bind_ok_iff {ε α β : Type} {x : Except ε α} {f : α → Except ε β} {b : β} :
    (x >>= f) = .ok b ↔ ∃ a, x = .ok a ∧ f a = .ok b := by
  cases x with
  | error e => simp [bind, Except.bind]
  | ok a => simp [bind, Except.bind]

/-! ## The replicas -/

namespace Scaling

def REPLICA_ENV : String := "CUSTOS_REPLICA_COUNT"
def STORE_ENV : String := "CUSTOS_RATE_LIMIT_STORE"
def STORE_PROCESS : String := "process"
def STORE_EXTERNAL : String := "external"
def SUPPORTED_STORES : List String := [ STORE_PROCESS, STORE_EXTERNAL ]

def ScalingConfigError (msg : String) : Exn := .Other "ScalingConfigError" msg

/-- `is_memory_backend`. -/
def isMemoryBackend (auditBackend : String) : Bool :=
  isIn "memory" (.ofList (auditBackend.toLower.toList.filter Char.isAlphanum))

/-- `replica_count`. -/
def replicaCount [StartupLib] (environ : Environ) : Except Exn Int :=
  let raw := strip (orElse (environ REPLICA_ENV) "")
  if raw = "" then .ok 1
  else
    match StartupLib.parseInt raw with
    | none =>
      .error (ScalingConfigError
        (REPLICA_ENV ++ "=" ++ pyRepr raw ++ " is not an integer. Declare the replica count " ++
         "as a positive integer, or leave it unset for a single replica."))
    | some count =>
      if count < 1 then
        .error (ScalingConfigError
          (REPLICA_ENV ++ "=" ++ pyRepr raw ++ " must be at least 1. A deployment with no " ++
           "replicas is a deployment that is not running."))
      else .ok count

/-- `rate_limit_store`. -/
def rateLimitStore (environ : Environ) : Except Exn String :=
  let raw := (strip (orElse (environ STORE_ENV) "")).toLower
  if raw = "" then .ok STORE_PROCESS
  else if raw ∉ SUPPORTED_STORES then
    .error (ScalingConfigError
      (STORE_ENV ++ "=" ++ pyRepr raw ++ " is not a recognised store. Supported values are " ++
       ", ".intercalate SUPPORTED_STORES ++ "; leave it unset for " ++ STORE_PROCESS ++ "."))
  else .ok raw

/-- What the declared topology and the storage of this build disagree in. -/
def conflicts (count : Int) (store auditBackend : String) : List String :=
  (if store = STORE_EXTERNAL then
    [STORE_ENV ++ "=" ++ STORE_EXTERNAL ++ " is declared but this build has no " ++
     "shared rate-limit store implementation, so running in-process " ++
     "state under that declaration would report a topology the software " ++
     "does not provide"] else []) ++
  (if count > 1 ∧ store = STORE_PROCESS then
    [REPLICA_ENV ++ "=" ++ toString count ++ " with " ++ STORE_ENV ++ "=" ++ STORE_PROCESS ++ ": rate-limit " ++
     "state is per process, so each replica carries its own counters and " ++
     "the configured quota multiplies by " ++ toString count] else []) ++
  (if count > 1 ∧ isMemoryBackend auditBackend then
    [REPLICA_ENV ++ "=" ++ toString count ++ " with audit backend " ++ pyRepr auditBackend ++ ": each " ++
     "process would hold its own chain, so " ++ toString count ++ " replicas produce " ++
     toString count ++ " chains and a verifier is only shown the one it reached"] else [])

structure ReplicaSummary where
  replicaCount : Int
  rateLimitStore : String
  auditBackend : String
  sharedStateEnforced : Bool
  auditDurability : String
  auditDurabilityNote : Option String

/-- `validate_replica_configuration`. -/
def validateReplicaConfiguration [StartupLib] (environ : Environ) (auditBackend : String) :
    Except Exn ReplicaSummary := do
  let count ← replicaCount environ
  let store ← rateLimitStore environ
  match conflicts count store auditBackend with
  | [] => return {
      replicaCount := count
      rateLimitStore := store
      auditBackend
      sharedStateEnforced := count = 1
      auditDurability := if isMemoryBackend auditBackend then "ephemeral" else "durable"
      auditDurabilityNote := if isMemoryBackend auditBackend then
        some ("records do not survive a restart, and the previous_hash " ++
          "constraint that prevents a forked chain does not apply because " ++ "no store is shared") else none }
  | conflicts =>
    .error (ScalingConfigError
      ("declared topology cannot be backed by this build: " ++ "; ".intercalate conflicts ++
       ". See docs/design/single-replica-constraint.md for the scaling path."))

/-- A count that is declared is positive. -/
lemma one_le_replicaCount [StartupLib] {environ : Environ} {count : Int} (ok : replicaCount environ = .ok count) :
    1 ≤ count := by
  unfold replicaCount at ok
  dsimp only at ok
  by_cases unset : strip (orElse (environ REPLICA_ENV) "") = ""
  · rw [if_pos unset] at ok
    cases ok
    exact le_rfl
  · rw [if_neg unset] at ok
    cases parsed : StartupLib.parseInt (strip (orElse (environ REPLICA_ENV) "")) with
    | none =>
      rw [parsed] at ok
      cases ok
    | some n =>
      rw [parsed] at ok
      dsimp only at ok
      by_cases few : n < 1
      · rw [if_pos few] at ok
        cases ok
      · rw [if_neg few] at ok
        cases ok
        exact not_lt.1 few

/-- A store that is declared is one of two. -/
lemma rateLimitStore_mem {environ : Environ} {store : String} (ok : rateLimitStore environ = .ok store) :
    store = STORE_PROCESS ∨ store = STORE_EXTERNAL := by
  unfold rateLimitStore at ok
  dsimp only at ok
  by_cases unset : (strip (orElse (environ STORE_ENV) "")).toLower = ""
  · rw [if_pos unset] at ok
    cases ok
    exact .inl rfl
  · rw [if_neg unset] at ok
    by_cases unknown : (strip (orElse (environ STORE_ENV) "")).toLower ∉ SUPPORTED_STORES
    · rw [if_pos unknown] at ok
      cases ok
    · rw [if_neg unknown] at ok
      cases ok
      simpa [SUPPORTED_STORES] using not_not.1 unknown

/-- A topology this build can back is one replica with its counters in the process: the third conflict never stands
alone. -/
lemma conflicts_eq_nil_iff {count : Int} {store auditBackend : String} (pos : 1 ≤ count)
    (known : store = STORE_PROCESS ∨ store = STORE_EXTERNAL) :
    conflicts count store auditBackend = [] ↔ count = 1 ∧ store = STORE_PROCESS := by
  unfold conflicts
  rcases known with rfl | rfl
  · by_cases one : count = 1
    · simp [one, STORE_PROCESS, STORE_EXTERNAL]
    · have more : 1 < count := by omega
      simp [one, more]
  · simp [STORE_PROCESS, STORE_EXTERNAL]

/-- The topology passes where there is one replica with a limiter of its own. -/
lemma validateReplicaConfiguration_ok_iff [StartupLib] {environ : Environ} {auditBackend : String} :
    (∃ summary, validateReplicaConfiguration environ auditBackend = .ok summary) ↔
      replicaCount environ = .ok 1 ∧ rateLimitStore environ = .ok STORE_PROCESS := by
  unfold validateReplicaConfiguration
  constructor
  · rintro ⟨summary, ok⟩
    obtain ⟨count, counted, ok⟩ := Except.bind_ok_iff.1 ok
    obtain ⟨store, stored, ok⟩ := Except.bind_ok_iff.1 ok
    cases found : conflicts count store auditBackend with
    | nil =>
      obtain ⟨rfl, rfl⟩ := (conflicts_eq_nil_iff (one_le_replicaCount counted) (rateLimitStore_mem stored)).1 found
      exact ⟨counted, stored⟩
    | cons c cs =>
      rw [found] at ok
      cases ok
  · rintro ⟨counted, stored⟩
    have none : conflicts 1 STORE_PROCESS auditBackend = [] :=
      (conflicts_eq_nil_iff le_rfl (.inl rfl)).2 ⟨rfl, rfl⟩
    rw [counted, stored]
    simp only [bind, Except.bind, none]
    exact ⟨_, rfl⟩

end Scaling

/-- No letter of the word is a blank. -/
lemma not_isSpace_of_toLower {c : Char} (letter : c.toLower ∈ "production".toList) : isSpace c = false := by
  by_contra space
  have blank : c.toNat ∈ [0x9, 0xa, 0xb, 0xc, 0xd, 0x1c, 0x1d, 0x1e, 0x1f, 0x20] ∨ 0x80 ≤ c.toNat := by
    simp only [isSpace, Bool.not_eq_false, Bool.or_eq_true, decide_eq_true_eq, Bool.and_eq_true, List.mem_cons,
      List.not_mem_nil, or_false] at space ⊢
    omega
  have small : c.toLower = c := by
    unfold Char.toLower
    rw [dif_neg]
    rintro ⟨low, high⟩
    rw [ge_iff_le, UInt32.le_iff_toNat_le] at low
    rw [UInt32.le_iff_toNat_le] at high
    have range : 65 ≤ c.toNat ∧ c.toNat ≤ 90 := ⟨low, high⟩
    simp only [List.mem_cons, List.not_mem_nil, or_false] at blank
    omega
  rw [small] at letter
  have letters : ∀ d ∈ "production".toList, d.toNat ∉ [0x9, 0xa, 0xb, 0xc, 0xd, 0x1c, 0x1d, 0x1e, 0x1f, 0x20] ∧
      ¬ 0x80 ≤ d.toNat := forall_mem_of_all (by decide +kernel)
  exact blank.elim (letters c letter).1 (letters c letter).2

/-- What authentication takes for production, which it reads as it stands, the audit takes for it too, which strips
it. -/
lemma Auth.boundEvidenceRequired_of_production {environ : Environ} (prod : Auth.production environ = true) :
    boundEvidenceRequired environ = true := by
  unfold Auth.production at prod
  have named := of_decide_eq_true prod
  cases declared : environ "CUSTOS_ENV" with
  | none =>
    rw [declared] at named
    exact absurd named (by decide +kernel)
  | some value =>
    rw [declared, Option.getD_some] at named
    have bare : ∀ c ∈ value.toList, isSpace c = false := by
      intro c mem
      refine not_isSpace_of_toLower ?_
      have mapped : value.toLower = value.map Char.toLower := rfl
      rw [← named, mapped, String.toList_map]
      exact List.mem_map_of_mem mem
    have kept : ∀ cs : List Char, (∀ c ∈ cs, isSpace c = false) → cs.dropWhile isSpace = cs := by
      intro cs none
      cases cs with
      | nil => rfl
      | cons c cs => exact List.dropWhile_cons_of_neg (by simp [none c])
    unfold boundEvidenceRequired
    rw [Bool.or_eq_true]
    refine .inr ?_
    rw [declared, Option.getD_some, strip, kept _ bare, kept _ (by simpa using bare), List.reverse_reverse,
      String.ofList_toList, named]
    rfl

/-- The empty value, which `os.getenv` and `or` read differently, is production to neither. -/
lemma Auth.production_iff {environ : Environ} :
    Auth.production environ = true ↔ (orElse (environ "CUSTOS_ENV") "development").toLower = "production" := by
  unfold Auth.production orElse
  cases environ "CUSTOS_ENV" with
  | none => simp
  | some value =>
    by_cases unset : value = ""
    · rw [unset]
      decide +kernel
    · rw [present_some unset]
      simp

/-! ## The audit store -/

namespace AuditPersistence

def EPHEMERAL_BACKENDS : List String := ["inmemorybackend"]

/-- `is_durable`. -/
def isDurable (backendType : String) : Bool :=
  String.ofList ((backendType.toList.filter fun c => c ≠ '-' ∧ c ≠ '_').map Char.toLower) ∉ EPHEMERAL_BACKENDS

/-- `_build_backend`, as the served path calls it. -/
def buildBackend (environ : Environ) : Backend :=
  if (present (environ "DATABASE_URL")).isSome then .PostgreSQLBackend
  else if (present (environ "AUDIT_DB_PATH")).isSome then .SQLiteBackend
  else .InMemoryBackend

/-- `audit_store_source`. -/
def auditStoreSource (environ : Environ) : String :=
  if (present (environ "DATABASE_URL")).isSome then "DATABASE_URL"
  else if (present (environ "AUDIT_DB_PATH")).isSome then "AUDIT_DB_PATH"
  else "none"

structure PersistenceSummary where
  auditBackend : String
  auditDurable : Bool
  auditStoreSource : String
  environment : String
  auditDurabilityNote : String

/-- `require_durable_audit`. -/
def requireDurableAudit (environ : Environ) (backendType : String) : Except Exn PersistenceSummary :=
  let environment := (orElse (environ "CUSTOS_ENV") "development").toLower
  let durable := isDurable backendType
  let source := auditStoreSource environ
  if environment = "production" ∧ ¬ durable then
    if source ≠ "none" then
      .error (.Other "AuditPersistenceRefused"
        (source ++ " is set but the chain in force is " ++ backendType ++ ". The " ++
         "store configuration was read before the variable was, so the " ++
         "chain was built in-memory anyway. Configure the store in the " ++
         "process environment (before import) rather than at runtime."))
    else
      .error (.Other "AuditPersistenceRefused"
        ("CUSTOS_ENV=production with audit_backend=" ++ backendType ++
         ", which keeps no records once this process exits. " ++
         "A production process must not serve an audit trail it cannot keep. " ++
         "Set AUDIT_DB_PATH (SQLite) or DATABASE_URL (PostgreSQL) so the " ++
         "records survive a restart, or unset CUSTOS_ENV to run as " ++
         "development. This refusal exists because the alternative is a " ++
         "service that reports a backend and loses the records it names."))
  else .ok {
    auditBackend := backendType
    auditDurable := durable
    auditStoreSource := source
    environment
    auditDurabilityNote :=
      if durable then
        "records survive this process; per-tenant scoping keeps each " ++ "tenant's chain separate"
      else
        "records do not survive a restart, and the previous_hash constraint " ++
        "that prevents a forked chain does not apply, because no store is " ++
        "shared. Development default, refused in production." }

/-- A service is refused a backend that keeps nothing only in production. -/
lemma requireDurableAudit_ok_iff {environ : Environ} {backendType : String} :
    (∃ summary, requireDurableAudit environ backendType = .ok summary) ↔
      (Auth.production environ → isDurable backendType = true) := by
  unfold requireDurableAudit
  dsimp only
  by_cases prod : (orElse (environ "CUSTOS_ENV") "development").toLower = "production"
  · rw [prod, Auth.production_iff.2 prod]
    cases isDurable backendType with
    | true => simp
    | false =>
      by_cases named : auditStoreSource environ = "none"
      · simp [named]
      · simp [named]
  · have other : Auth.production environ = false := by
      rw [← Bool.not_eq_true, Auth.production_iff]
      exact prod
    rw [if_neg (fun refused => prod refused.1), other]
    exact ⟨fun _ none => absurd none (by decide), fun _ => ⟨_, rfl⟩⟩

lemma isDurable_typeName {backend : Backend} : isDurable backend.typeName = true ↔ backend.Durable := by
  cases backend <;> decide

end AuditPersistence

/-! ## The retention of content -/

structure RetentionSummary where
  contentRetention : String
  contentStoreDir : Option String
  retentionAdminConfigured : Bool
  environment : String

/-- `validate_content_retention`. -/
def validateContentRetention [StartupLib] (environ : Environ) : Except Exn RetentionSummary := do
  let mode ← contentRetentionMode environ
  let summary : RetentionSummary := {
    contentRetention := mode
    contentStoreDir := storeDirectory environ
    retentionAdminConfigured := (adminToken environ).isSome
    environment := (orElse (environ "CUSTOS_ENV") "development").toLower }
  if mode = MODE_STORE then
    match storeDirectory environ with
    | none =>
      .error (.RetentionConfigRefused
        (MODE_ENV ++ "=" ++ MODE_STORE ++ " requires " ++ STORE_DIR_ENV ++ ". Refusing to " ++
         "start: the mode promises an erasure path and has nowhere to " ++ "delete from"))
    | some directory =>
      if ¬ StartupLib.isDir directory then
        .error (.RetentionConfigRefused
          (STORE_DIR_ENV ++ "=" ++ pyRepr directory ++ " is not a directory. Refusing to " ++
           "create it, because a store path that appears when asked is a " ++ "path an operator has not chosen"))
      else if (adminToken environ).isNone then
        .error (.RetentionConfigRefused
          (MODE_ENV ++ "=" ++ MODE_STORE ++ " requires " ++ ADMIN_TOKEN_ENV ++ ". Content is " ++
           "being kept and nothing can erase it, which is the state the mode " ++ "exists to make impossible"))
      else return summary
  else if (storeDirectory environ).isSome then
    .error (.RetentionConfigRefused
      (STORE_DIR_ENV ++ " is set while " ++ MODE_ENV ++ "=" ++ MODE_OFF ++ ". Refused " ++
       "rather than ignored: a configured store the process does not use " ++ "reads as retention that is on"))
  else if (adminToken environ).isSome then
    .error (.RetentionConfigRefused
      (ADMIN_TOKEN_ENV ++ " is set while " ++ MODE_ENV ++ "=" ++ MODE_OFF ++ ". There is " ++
       "nothing to administer, and an admin credential with no surface " ++ "is a credential nobody can reason about"))
  else return summary

/-- The retention of content is off, with neither a directory nor a credential, or it has both. -/
inductive RetentionSettled [StartupLib] (environ : Environ) : Prop
  | off : contentRetentionMode environ = .ok MODE_OFF → storeDirectory environ = none → adminToken environ = none →
      RetentionSettled environ
  | store (directory token : String) : contentRetentionMode environ = .ok MODE_STORE →
      storeDirectory environ = some directory → StartupLib.isDir directory = true → adminToken environ = some token →
      RetentionSettled environ

/-- The mode is one of two. -/
lemma contentRetentionMode_mem {environ : Environ} {mode : String} (ok : contentRetentionMode environ = .ok mode) :
    mode = MODE_OFF ∨ mode = MODE_STORE := by
  unfold contentRetentionMode at ok
  cases declared : environ MODE_ENV with
  | none =>
    rw [declared] at ok
    cases ok
    exact .inl rfl
  | some raw =>
    rw [declared] at ok
    dsimp only at ok
    by_cases unset : strip raw = ""
    · rw [if_pos unset] at ok
      cases ok
      exact .inl rfl
    · rw [if_neg unset] at ok
      by_cases unknown : (strip raw).toLower ∉ MODES
      · rw [if_pos unknown] at ok
        cases ok
      · rw [if_neg unknown] at ok
        cases ok
        simpa only [ MODES, List.mem_cons, List.not_mem_nil, or_false] using not_not.1 unknown

/-- The check of the retention passes where it is settled. -/
lemma validateContentRetention_ok_iff [StartupLib] {environ : Environ} :
    (∃ summary, validateContentRetention environ = .ok summary) ↔ RetentionSettled environ := by
  unfold validateContentRetention
  constructor
  · rintro ⟨summary, ok⟩
    obtain ⟨mode, declared, ok⟩ := Except.bind_ok_iff.1 ok
    dsimp only at ok
    rcases contentRetentionMode_mem declared with rfl | rfl
    · rw [if_neg (by decide)] at ok
      cases kept : storeDirectory environ with
      | some directory => simp [kept] at ok
      | none =>
        cases token : adminToken environ with
        | some token' => simp [kept, token] at ok
        | none => exact .off declared kept token
    · rw [if_pos rfl] at ok
      cases kept : storeDirectory environ with
      | none => simp [kept] at ok
      | some directory =>
        cases there : StartupLib.isDir directory with
        | false => simp [kept, there] at ok
        | true =>
          cases token : adminToken environ with
          | none => simp [kept, there, token] at ok
          | some token' => exact .store directory token' declared kept there token
  · rintro (⟨declared, kept, token⟩ | ⟨directory, token', declared, kept, there, token⟩)
    · simp [declared, kept, token, bind, Except.bind, MODE_OFF, MODE_STORE, pure, Except.pure]
    · simp [declared, kept, there, token, bind, Except.bind, pure, Except.pure]

section

variable [StartupLib] {s : Service γ} {env : RequestEnv}

variable [Platform]

end

/-! ## The binding -/

section

variable [Platform] [BindingLib] [StartupLib]

def STARTUP_ENV_FLAG : String := "CUSTOS_DEPLOYMENT_BINDING"

/-- `_truthy`. -/
def truthyFlag (value : Option String) : Bool :=
  (strip (orElse value "")).toLower ∈ ["1", "true", "yes", "on"]

/-- `(env.get(name) or "").strip() or None`. -/
def strippedEnv (environ : Environ) (name : String) : Option String := present (some (strip (orElse (environ name) "")))

/-- A variable that holds JSON of one kind: none where it is empty, and else what it is read as. -/
def jsonEnv {α : Type} (environ : Environ) (name wrong : String) (read : Json → Option α) : Except String (Option α) :=
  match present (environ name) with
  | none => .ok none
  | some raw =>
    match StartupLib.loads raw with
    | .error exc => .error (name ++ " is not valid JSON: " ++ exc)
    | .ok value =>
      match read value with
      | none => .error wrong
      | some value => .ok (some value)

/-- `payload_from_env`: none where no binding is asked for. -/
def payloadFromEnv (environ : Environ) : Except String (Option Fields) :=
  if ¬ truthyFlag (environ STARTUP_ENV_FLAG) then .ok none
  else
    match strippedEnv environ "CUSTOS_DEPLOYMENT_ID" with
    | none =>
      .error (STARTUP_ENV_FLAG ++ " is set but CUSTOS_DEPLOYMENT_ID is empty; " ++
        "a binding record without a deployment identity binds nothing")
    | some deploymentId => do
      let toolDescriptors ← jsonEnv environ "CUSTOS_TOOL_DESCRIPTORS"
        "CUSTOS_TOOL_DESCRIPTORS must be a JSON list of tool descriptors" fun value =>
          match value with
          | .arr items => some items
          | _ => none
      let config ← jsonEnv environ "CUSTOS_BINDING_CONFIG" "CUSTOS_BINDING_CONFIG must be a JSON object" fun value =>
        match value with
        | .obj fields => some fields
        | _ => none
      let entries := (((orElse (environ "CUSTOS_BINDING_ENTRIES") "").toList.splitOn ',').map
        fun entry => strip (.ofList entry)).filter (· ≠ "")
      return some (buildPayload {
        deploymentId
        buildCommit := present (some (strip
          (orElse (environ "CUSTOS_BUILD_COMMIT") (orElse (environ "GIT_SHA") ""))))
        transport := strippedEnv environ "CUSTOS_TRANSPORT"
        upstreamCommand := strippedEnv environ "CUSTOS_UPSTREAM_COMMAND"
        upstreamEndpoint := strippedEnv environ "CUSTOS_UPSTREAM_ENDPOINT"
        toolDescriptors
        runtimeCredential := strippedEnv environ "CUSTOS_BINDING_CREDENTIAL"
        config
        entryIds := if entries = [] then none else some entries })

/-- The text of the payload that is recorded. -/
def startupPayload (environ : Environ) : Except String (Option String) := do
  return (← payloadFromEnv environ).map fun payload => dumpsRaw (Json.obj payload).sortKeys

end

/-! ## The start -/

section

variable [JwtLib]

/-- The check of the key passes where production with RS256 has one. -/
lemma validateProductionKey_ok_iff {environ : Environ} :
    Auth.validateProductionKey environ = .ok () ↔
      (Auth.production environ → Auth.jwtAlgorithm environ = "RS256" →
        (Auth.loadPrivateKeyFromEnv environ).isSome) := by
  unfold Auth.validateProductionKey
  cases Auth.production environ with
  | false => simp
  | true =>
    by_cases rs : Auth.jwtAlgorithm environ = "RS256"
    · cases Auth.loadPrivateKeyFromEnv environ <;> simp [rs]
    · simp [rs]

/-- The check of the secrets passes where production has the secret, or the key, its algorithm asks for. -/
lemma validateProductionSecrets_ok_iff {environ : Environ} :
    Auth.validateProductionSecrets environ = .ok () ↔
      (Auth.production environ → Auth.jwtAlgorithm environ ≠ "RS256" → Auth.secretUnset environ = false) ∧
        (Auth.production environ → Auth.jwtAlgorithm environ = "RS256" →
          (Auth.loadPrivateKeyFromEnv environ).isSome) := by
  unfold Auth.validateProductionSecrets
  cases prod : Auth.production environ with
  | false => simp
  | true =>
    by_cases rs : Auth.jwtAlgorithm environ = "RS256"
    · rw [if_neg (by simp), if_pos rs, validateProductionKey_ok_iff, prod]
      simp [rs]
    · cases Auth.secretUnset environ <;> simp [rs]

end

section

variable {γ : Type} [Platform] [BindingLib] [StartupLib] [JwtLib]

/-- A configuration a process starts with. -/
structure Startable (environ : Environ) (auditBackend : String) : Prop where
  secret : Auth.production environ → Auth.jwtAlgorithm environ ≠ "RS256" → Auth.secretUnset environ = false
  key : Auth.production environ → Auth.jwtAlgorithm environ = "RS256" →
    (Auth.loadPrivateKeyFromEnv environ).isSome
  replicas : Scaling.replicaCount environ = .ok 1
  limits : Scaling.rateLimitStore environ = .ok Scaling.STORE_PROCESS
  durable : Auth.production environ → AuditPersistence.isDurable auditBackend = true
  retention : RetentionSettled environ

/-- What `lifespan` checks before it writes anything. -/
def startupChecks (environ : Environ) (auditBackend : String) : Except Exn Unit := do
  Auth.validateProductionSecrets environ
  Auth.validateProductionKey environ
  let _ ← Scaling.validateReplicaConfiguration environ auditBackend
  let _ ← AuditPersistence.requireDurableAudit environ auditBackend
  let _ ← validateContentRetention environ

omit [Platform] [BindingLib] in
/-- The checks let through what is startable. -/
theorem startupChecks_ok_iff {environ : Environ} {auditBackend : String} :
    startupChecks environ auditBackend = .ok () ↔ Startable environ auditBackend := by
  unfold startupChecks
  constructor
  · intro ok
    obtain ⟨_, secrets, ok⟩ := Except.bind_ok_iff.1 ok
    obtain ⟨_, -, ok⟩ := Except.bind_ok_iff.1 ok
    obtain ⟨_, replicas, ok⟩ := Except.bind_ok_iff.1 ok
    obtain ⟨_, durable, ok⟩ := Except.bind_ok_iff.1 ok
    obtain ⟨_, retention, -⟩ := Except.bind_ok_iff.1 ok
    obtain ⟨secret, key⟩ := validateProductionSecrets_ok_iff.1 secrets
    obtain ⟨replicas, limits⟩ := Scaling.validateReplicaConfiguration_ok_iff.1 ⟨_, replicas⟩
    exact ⟨secret, key, replicas, limits, AuditPersistence.requireDurableAudit_ok_iff.1 ⟨_, durable⟩,
      validateContentRetention_ok_iff.1 ⟨_, retention⟩⟩
  · intro startable
    obtain ⟨_, replicas⟩ : ∃ summary, Scaling.validateReplicaConfiguration environ auditBackend = .ok summary :=
      Scaling.validateReplicaConfiguration_ok_iff.2 ⟨startable.replicas, startable.limits⟩
    obtain ⟨_, durable⟩ := AuditPersistence.requireDurableAudit_ok_iff.2 startable.durable
    obtain ⟨_, retention⟩ := validateContentRetention_ok_iff.2 startable.retention
    exact Except.bind_ok_iff.2 ⟨(), validateProductionSecrets_ok_iff.2 ⟨startable.secret, startable.key⟩,
      Except.bind_ok_iff.2 ⟨(), validateProductionKey_ok_iff.2 startable.key,
        Except.bind_ok_iff.2 ⟨_, replicas, Except.bind_ok_iff.2 ⟨_, durable,
          Except.bind_ok_iff.2 ⟨_, retention, rfl⟩⟩⟩⟩⟩

/-- `lifespan`, until the process serves. -/
def Main.lifespan (s : Service γ) (env : RequestEnv) : Except Exn (Option Binding) × Service γ :=
  let auditBackend := match s.tenants.getStrict "default" with
    | some ctx => ctx.auditChain.backend.typeName
    | none => "memory"
  match startupChecks env.environ auditBackend with
  | .error e => (.error e, s)
  | .ok () => establishStartupBinding s env (startupPayload env.environ)

/-- What a binding says of its record. -/
def Binding.told (b : Binding) : Told where
  recordHash := b.recordHash
  clientId := BINDING_CLIENT_ID
  action := "BINDING"
  triggeredRule := some BINDING_RULE
  reason := "deployment binding written at startup"
  contentHash := sha256 b.payload

/-- The record a binding was written as. -/
structure Binding.Written (b : Binding) (r : AuditRecord) : Prop where
  told : r.told = b.told
  digest : b.bindingDigest = "sha256:" ++ r.contentHash
  trace : r.traceId = some b.traceId
  cites : r.policyDigest = b.policyDigest

omit [Platform] [BindingLib] [StartupLib] [JwtLib] in
lemma TenantManager.setContext_getStrict (tm : TenantManager) (id : String) (ctx : TenantContext) :
    (tm.setContext id ctx).getStrict id = some ctx := Function.update_self ..

omit [BindingLib] [StartupLib] [JwtLib] in
/-- What writing a binding comes to is what recording its payload comes to. -/
lemma establishStartupBinding_some {s : Service γ} (env : RequestEnv) (payload : String) {ctx : TenantContext}
    (known : s.tenants.getStrict BINDING_TENANT = some ctx) :
    let policyDigest := Request.gateDigest s env.environ BINDING_TENANT ctx
    let out := ctx.auditChain.recordIn s.stores env.toRecordEnv (bindingArgs env payload policyDigest)
    let written := establishStartupBinding s env (.ok (some payload))
    written.1 = (match out.1 with
      | .error e => .error (.Other "BindingError" ("deployment binding could not be recorded: " ++ e.text))
      | .ok record => .ok (some
        { payload, bindingDigest := "sha256:" ++ sha256 payload, traceId := env.traceId.1
          policyDigest, recordHash := record.recordHash, establishedAt := record.timestamp })) ∧
      written.2.tenants = s.tenants.setContext BINDING_TENANT { ctx with auditChain := out.2.1 } ∧
      written.2.stores = out.2.2 := by
  intro policyDigest out written
  have eq : written = establishStartupBinding s env (.ok (some payload)) := rfl
  unfold establishStartupBinding Service.citedPolicyDigest at eq
  rw [known] at eq
  rw [eq]
  exact ⟨rfl, rfl, rfl⟩

omit [BindingLib] [StartupLib] [JwtLib] in
/-- Where the chain takes the record of the payload, the record says what the binding does. -/
lemma establishStartupBinding_written {s : Service γ} {env : RequestEnv} {payload : String} {binding : Option Binding}
    {ctx : TenantContext} (known : s.tenants.getStrict BINDING_TENANT = some ctx)
    (ok : (establishStartupBinding s env (.ok (some payload))).1 = .ok binding) :
    ∃ b r ctx', binding = some b ∧ b.payload = payload ∧ b.Written r ∧
      (boundEvidenceRequired env.environ → b.policyDigest.isSome) ∧
      (establishStartupBinding s env (.ok (some payload))).2.tenants.getStrict BINDING_TENANT = some ctx' ∧
      ctx'.auditChain.records = ctx.auditChain.records ++ [r] := by
  obtain ⟨result, tenants, -⟩ := establishStartupBinding_some env payload known
  rw [result] at ok
  rw [tenants]
  unfold AuditChain.recordIn at ok ⊢
  rcases ctx.auditChain.record_cases s.stores.audit env.toRecordEnv
    (bindingArgs env payload (Request.gateDigest s env.environ BINDING_TENANT ctx)) with
    ⟨e, refused⟩ | ⟨r, t', adm, ent, -, recorded⟩
  · rw [refused] at ok
    cases ok
  · rw [recorded] at ok ⊢
    cases ok
    obtain ⟨own, -, e⟩ := ent.eq
    refine ⟨_, r, _, rfl, rfl, ⟨by rw [e]; rfl, by rw [e]; rfl, by rw [e]; rfl, by rw [e]; rfl⟩, fun bound => ?_,
      TenantManager.setContext_getStrict .., rfl⟩
    have cited := (AuditChain.missingEvidence_eq_nil.1 (adm.evidence bound)).1
    exact Option.isSome_of_mem (present_eq_some.1 (Option.some_get cited).symm).1

omit [StartupLib] [BindingLib] [JwtLib] in
/-- A binding that is refused leaves the table as it was. -/
lemma establishStartupBinding_refused {s : Service γ} {env : RequestEnv} {payload : Except String (Option String)}
    {e : Exn} (refused : (establishStartupBinding s env payload).1 = .error e) :
    (establishStartupBinding s env payload).2.stores.audit = s.stores.audit := by
  cases known : s.tenants.getStrict BINDING_TENANT with
  | none =>
    unfold establishStartupBinding
    rw [known]
  | some ctx =>
    rcases payload with msg | _ | payload
    · unfold establishStartupBinding Service.citedPolicyDigest
      rw [known]
    · unfold establishStartupBinding Service.citedPolicyDigest
      rw [known]
    · obtain ⟨result, -, stores⟩ := establishStartupBinding_some env payload known
      rw [stores]
      rw [result] at refused
      unfold AuditChain.recordIn at refused ⊢
      rcases ctx.auditChain.record_cases s.stores.audit env.toRecordEnv
        (bindingArgs env payload (Request.gateDigest s env.environ BINDING_TENANT ctx)) with
        ⟨e, failed⟩ | ⟨r, t', -, -, -, recorded⟩
      · rw [failed]
      · rw [recorded] at refused
        cases refused

/-- The binding a configuration asks for can be written: its payload reads, the default tenant's chain takes a record,
and there is a policy to cite where evidence is asked for. -/
def CanBind (s : Service γ) (env : RequestEnv) : Prop :=
  ∃ asked, startupPayload env.environ = .ok asked ∧ (asked.isSome → ∃ ctx,
    s.tenants.getStrict BINDING_TENANT = some ctx ∧ ctx.auditChain.Takes s.stores.audit env.toRecordEnv ∧
    (boundEvidenceRequired env.environ → truthy (Request.gateDigest s env.environ BINDING_TENANT ctx)))

omit [StartupLib] [BindingLib] [JwtLib] in
/-- What is recorded of a binding is written exactly where the chain takes it and the policy is there to be cited. -/
lemma establishStartupBinding_ok_iff {s : Service γ} {env : RequestEnv} {payload : String} {ctx : TenantContext}
    (known : s.tenants.getStrict BINDING_TENANT = some ctx) (scope : ctx.auditChain.tenantId = some BINDING_TENANT) :
    (∃ binding, (establishStartupBinding s env (.ok (some payload))).1 = .ok binding) ↔
      ctx.auditChain.Takes s.stores.audit env.toRecordEnv ∧
        (boundEvidenceRequired env.environ → truthy (Request.gateDigest s env.environ BINDING_TENANT ctx)) := by
  let a := bindingArgs env payload (Request.gateDigest s env.environ BINDING_TENANT ctx)
  have same : (∃ binding, (establishStartupBinding s env (.ok (some payload))).1 = .ok binding) ↔
      ∃ r, (ctx.auditChain.record s.stores.audit env.toRecordEnv a).1 = .ok r := by
    rw [(establishStartupBinding_some env payload known).1]
    change (∃ binding, (match (ctx.auditChain.record s.stores.audit env.toRecordEnv a).1 with
      | .error e => Except.error (Exn.Other "BindingError" _)
      | .ok record => Except.ok (some _)) = Except.ok binding) ↔ _
    cases (ctx.auditChain.record s.stores.audit env.toRecordEnv a).1 with
    | error e =>
      constructor
      · rintro ⟨_, ok⟩
        cases ok
      · rintro ⟨_, ok⟩
        cases ok
    | ok r => exact ⟨fun _ => ⟨r, rfl⟩, fun _ => ⟨_, rfl⟩⟩
  have resolves : ctx.auditChain.resolveTenant a.tenantId = .ok (some BINDING_TENANT) := by
    have own : a.tenantId = some BINDING_TENANT := rfl
    simp [AuditChain.resolveTenant, own, scope]
  have traced : truthy a.traceId = true := congrArg Option.isSome (present_some env.traceId.2)
  rw [same]
  by_cases evidence : boundEvidenceRequired env.environ → truthy a.policyDigest = true
  · have adm : ctx.auditChain.Admissible env.environ a :=
      ⟨none_mem_forms, ⟨_, resolves⟩, fun bound => AuditChain.missingEvidence_eq_nil.2 ⟨evidence bound, traced⟩⟩
    rw [AuditChain.record_ok_iff scope adm]
    exact ⟨fun takes => ⟨takes, evidence⟩, And.left⟩
  · obtain ⟨e, refused⟩ : ∃ e, ctx.auditChain.record s.stores.audit env.toRecordEnv a =
        (.error e, ctx.auditChain, s.stores.audit) := AuditChain.record_of_not_admissible
      fun adm => evidence fun bound => (AuditChain.missingEvidence_eq_nil.1 (adm.evidence bound)).1
    rw [refused]
    refine ⟨fun ok => ?_, fun ok => absurd ok.2 evidence⟩
    obtain ⟨_, ok⟩ := ok
    cases ok

omit [StartupLib] [BindingLib] [JwtLib] in
/-- Where no binding is asked for none is made. -/
lemma establishStartupBinding_none {s : Service γ} (env : RequestEnv) {ctx : TenantContext}
    (known : s.tenants.getStrict BINDING_TENANT = some ctx) :
    (establishStartupBinding s env (.ok none)).1 = .ok none := by
  unfold establishStartupBinding
  rw [known]

omit [StartupLib] [BindingLib] [JwtLib] in
/-- What was bound is the payload that was asked for, and nothing where none was. -/
lemma establishStartupBinding_asked {s : Service γ} {env : RequestEnv} {payload : Except String (Option String)}
    {ctx : TenantContext} {binding : Option Binding} (known : s.tenants.getStrict BINDING_TENANT = some ctx)
    (ok : (establishStartupBinding s env payload).1 = .ok binding) : payload = .ok (binding.map Binding.payload) := by
  rcases payload with msg | _ | payload
  · unfold establishStartupBinding at ok
    rw [known] at ok
    cases ok
  · rw [establishStartupBinding_none env known] at ok
    cases ok
    rfl
  · obtain ⟨b, -, -, rfl, same, -⟩ := establishStartupBinding_written known ok
    rw [← same]
    rfl

section

variable {policyStore : PolicyStore} {now : ℚ} {stores : Stores} {tm : TenantManager} {env : RequestEnv}

/-- The default tenant's chain is over the backend the environment selects. -/
lemma lifespan_of_boot
    (booted : TenantManager.boot (AuditPersistence.buildBackend env.environ) policyStore env.environ now stores.audit =
      .ok tm) (gate : ActionGate γ) :
    Main.lifespan { tenants := tm, gate, stores } env =
      match startupChecks env.environ (AuditPersistence.buildBackend env.environ).typeName with
      | .error e => (.error e, { tenants := tm, gate, stores })
      | .ok () => establishStartupBinding { tenants := tm, gate, stores } env (startupPayload env.environ) := by
  obtain ⟨opened, same, default⟩ := TenantManager.opened_of_boot booted
  obtain ⟨ctx, known⟩ := Option.isSome_iff_exists.1 default
  have found : tm.getStrict "default" = some ctx := known
  unfold Main.lifespan
  dsimp only
  rw [found]
  dsimp only
  rw [opened _ _ known, same]

variable (stores) in
/-- The process starts where its configuration passes the checks and its binding can be made. -/
lemma lifespan_ok_iff
    (booted : TenantManager.boot (AuditPersistence.buildBackend env.environ) policyStore env.environ now stores.audit =
      .ok tm) (gate : ActionGate γ) :
    (∃ binding, (Main.lifespan { tenants := tm, gate, stores } env).1 = .ok binding) ↔
      Startable env.environ (AuditPersistence.buildBackend env.environ).typeName ∧
        CanBind { tenants := tm, gate, stores } env := by
  obtain ⟨opened, -, default⟩ := TenantManager.opened_of_boot booted
  obtain ⟨ctx, known⟩ := Option.isSome_iff_exists.1 default
  have scope : ctx.auditChain.tenantId = some BINDING_TENANT := by rw [opened _ _ known]; rfl
  rw [lifespan_of_boot booted gate]
  cases checked : startupChecks env.environ (AuditPersistence.buildBackend env.environ).typeName with
  | error e =>
    refine ⟨nofun, fun both => ?_⟩
    rw [startupChecks_ok_iff.2 both.1] at checked
    cases checked
  | ok _ =>
    have startable := startupChecks_ok_iff.1 checked
    unfold CanBind
    rcases asked : startupPayload env.environ with msg | _ | payload
    · refine ⟨?_, nofun⟩
      rintro ⟨binding, ok⟩
      unfold establishStartupBinding at ok
      dsimp only at ok
      cases found : tm.getStrict BINDING_TENANT <;> rw [found] at ok <;> cases ok
    · exact ⟨fun _ => ⟨startable, none, rfl, nofun⟩, fun _ => ⟨none, establishStartupBinding_none env known⟩⟩
    · rw [establishStartupBinding_ok_iff (s := { tenants := tm, gate, stores }) known scope]
      constructor
      · intro written
        exact ⟨startable, some payload, rfl, fun _ => ⟨ctx, known, written⟩⟩
      · rintro ⟨-, asked', payloadEq, written⟩
        cases payloadEq
        obtain ⟨ctx', known', written⟩ := written rfl
        cases known.symm.trans known'
        exact written

/-- A start that is refused leaves the table as it was. -/
lemma lifespan_refused
    (booted : TenantManager.boot (AuditPersistence.buildBackend env.environ) policyStore env.environ now stores.audit =
      .ok tm) (gate : ActionGate γ) {e : Exn} (refused : (Main.lifespan { tenants := tm, gate, stores } env).1 = .error e) :
    (Main.lifespan { tenants := tm, gate, stores } env).2.stores.audit = stores.audit := by
  rw [lifespan_of_boot booted gate] at refused ⊢
  cases checked : startupChecks env.environ (AuditPersistence.buildBackend env.environ).typeName with
  | error e => rfl
  | ok _ =>
    rw [checked] at refused
    exact establishStartupBinding_refused refused

variable (stores) in
/-- A process starts exactly where its configuration is startable and the binding it asks for can be written; and where
it is refused, the table of the audit is what it was. -/
theorem process_starts_iff
    (booted : TenantManager.boot (AuditPersistence.buildBackend env.environ) policyStore env.environ now stores.audit =
      .ok tm) (gate : ActionGate γ) :
    let start : Service γ := { tenants := tm, gate, stores }
    ((∃ binding, (Main.lifespan start env).1 = .ok binding) ↔
      Startable env.environ (AuditPersistence.buildBackend env.environ).typeName ∧ CanBind start env) ∧
    ∀ e, (Main.lifespan start env).1 = .error e → (Main.lifespan start env).2.stores.audit = stores.audit :=
  ⟨lifespan_ok_iff stores booted gate, fun _ refused => lifespan_refused booted gate refused⟩

/-- A process that has started in production has its chains in step with a table that outlives it, and the binding it
tells of is the next record of the default tenant's rows. -/
lemma lifespan_started [Regex] (hooks : CustodyHooks γ)
    (booted : TenantManager.boot (AuditPersistence.buildBackend env.environ) policyStore env.environ now stores.audit =
      .ok tm) (gate : ActionGate γ) (prod : Auth.production env.environ = true) {binding : Option Binding}
    (started : (Main.lifespan { tenants := tm, gate, stores } env).1 = .ok binding) :
    Kept { tenants := tm, gate, stores } ∧
    startupPayload env.environ = .ok (binding.map Binding.payload) ∧
    ∃ new, Grows BINDING_TENANT new { tenants := tm, gate, stores }
        (Main.lifespan { tenants := tm, gate, stores } env).2 ∧
      ∀ b, binding = some b → b.policyDigest.isSome ∧ ∃ r, new = [r] ∧ b.Written r := by
  have startable := ((lifespan_ok_iff stores booted gate).1 ⟨_, started⟩).1
  have eq : Main.lifespan { tenants := tm, gate, stores } env =
      establishStartupBinding { tenants := tm, gate, stores } env (startupPayload env.environ) := by
    rw [lifespan_of_boot booted gate, startupChecks_ok_iff.2 startable]
  rw [eq] at started ⊢
  have kept : Kept { tenants := tm, gate, stores } :=
    .of_boot (AuditPersistence.isDurable_typeName.1 (startable.durable prod)) booted gate
  obtain ⟨ctx, known⟩ := Option.isSome_iff_exists.1 kept.default
  have asked := establishStartupBinding_asked known started
  obtain ⟨new, grows⟩ := serve_grows hooks kept env (.startupBinding (startupPayload env.environ))
  change Grows BINDING_TENANT new _ (establishStartupBinding { tenants := tm, gate, stores } env _).2 at grows
  refine ⟨kept, asked, new, grows, ?_⟩
  rintro b rfl
  rw [asked] at started grows
  obtain ⟨b', r, ctx', same, -, written, cited, known', grown⟩ := establishStartupBinding_written known started
  cases same
  refine ⟨cited (Auth.boundEvidenceRequired_of_production prod), r, ?_, written⟩
  have before : ctx.auditChain.records = Service.history { tenants := tm, gate, stores } BINDING_TENANT := by
    rw [kept.opened _ _ known]
    rfl
  have after : ctx'.auditChain.records = _ := congrArg AuditChain.records (grows.kept.opened _ _ known')
  have rows := grows.rows BINDING_TENANT
  rw [if_pos rfl, ← before] at rows
  exact List.append_cancel_left ((rows.symm.trans after.symm).trans grown)

end

end

section Sample

local instance startupPlatform : Platform := .reference .empty

/-- A text none of the patterns matches. -/
local instance startupRegex : Regex where
  invalid _ := none
  finditer _ _ := []

local instance startupBinding : BindingLib where
  lower s := .ofList (s.toList.map Char.toLower)
  repr _ := ""
  dumpsRaw j := .ofList (j.text .compact)

local instance startupLib : StartupLib where
  parseInt text := if text = "3" then some 3 else none
  isDir _ := false
  loads _ := .error "Expecting value: line 1 column 1 (char 0)"

/-- A library that holds no key. -/
local instance startupJwt : JwtLib where
  PrivateKey := Unit
  PublicKey := Unit
  publicKey := id
  numbers _ := (0, 0)
  readFile _ := none
  loadPem _ := none
  header _ := .error (.InvalidTokenError "Not enough segments")
  claims _ := .error (.InvalidTokenError "Not enough segments")
  decode _ _ _ _ _ := .error (.InvalidTokenError "Not enough segments")
  encode _ _ _ _ := .error (.Other "NotImplementedError" "")
  fromJwk _ := .error (.InvalidTokenError "Invalid key")
  time _ := none
  Signed _ _ _ := False

/-- A bound production process over SQLite. -/
def bankEnviron : Environ := fun name =>
  [("CUSTOS_ENV", "production"), ("CUSTOS_JWT_SECRET", "a strong unique secret"), ("AUDIT_DB_PATH", "/var/audit.db"),
    ("CUSTOS_DEPLOYMENT_BINDING", "yes"), ("CUSTOS_DEPLOYMENT_ID", "bank-1")].lookup name

def bankEnv : RequestEnv where
  now := 0
  environ := bankEnviron
  server := .ofResults fun _ => .error (.RuntimeError "no server")
  purgedAt := 0
  traceId := ⟨"startup-1", by decide⟩
  clock _ := 0

/-- The sample's configuration passes the checks. -/
lemma bankEnviron_startable :
    Startable bankEnviron (AuditPersistence.buildBackend bankEnv.environ).typeName where
  secret _ _ := by decide +kernel
  key _ rs := absurd rs (by decide +kernel)
  replicas := by
    have unset : strip (orElse (bankEnviron Scaling.REPLICA_ENV) "") = "" := by decide +kernel
    unfold Scaling.replicaCount
    rw [unset]
    rfl
  limits := by
    have unset : (strip (orElse (bankEnviron Scaling.STORE_ENV) "")).toLower = "" := by decide +kernel
    unfold Scaling.rateLimitStore
    rw [unset]
    rfl
  durable _ := AuditPersistence.isDurable_typeName.2 (by decide +kernel)
  retention := by
    have off : bankEnviron MODE_ENV = none := by decide +kernel
    refine .off ?_ (by decide +kernel) (by decide +kernel)
    unfold contentRetentionMode
    rw [off]

/-- The payload that is bound reads. -/
lemma bankEnviron_payload : ∃ payload, startupPayload bankEnviron = .ok (some payload) := by
  have asked : truthyFlag (bankEnviron STARTUP_ENV_FLAG) = true := by decide +kernel
  have named : strippedEnv bankEnviron "CUSTOS_DEPLOYMENT_ID" = some "bank-1" := by decide +kernel
  unfold startupPayload payloadFromEnv
  rw [if_neg (not_not.2 asked), named]
  exact ⟨_, rfl⟩

/-- What the process boots with can be bound. -/
lemma bankEnv_canBind {tm : TenantManager}
    (booted : TenantManager.boot (AuditPersistence.buildBackend bankEnv.environ) {} bankEnv.environ 0 .empty = .ok tm) :
    CanBind { tenants := tm, gate := ({} : ActionGate Unit), stores := { audit := .empty } } bankEnv := by
  obtain ⟨opened, -, default⟩ := TenantManager.opened_of_boot booted
  obtain ⟨ctx, known⟩ := Option.isSome_iff_exists.1 default
  obtain ⟨tm', booted', synced, stored⟩ := TenantManager.boot_spec (AuditPersistence.buildBackend bankEnv.environ) {}
    bankEnv.environ 0 .empty
  cases booted.symm.trans booted'
  obtain ⟨payload, reads⟩ := bankEnviron_payload
  refine ⟨some payload, reads, fun _ => ⟨ctx, known, fun _ => ⟨rfl, fun r none => absurd none List.not_mem_nil⟩,
    fun _ => ?_⟩⟩
  have regex : ctx.policyEngine = .regex {} := by
    rw [synced.engine _ _ known, stored]
    have kind : createPolicyEngine bankEnv.environ = .regex {} := by
      have unset : bankEnv.environ "CUSTOS_POLICY_ENGINE" = none := by decide +kernel
      unfold createPolicyEngine
      rw [unset]
      have other : strip ("regex".toLower) = "regex" := by decide +kernel
      simp [other]
    exact kind
  unfold Request.gateDigest
  rw [regex]
  change truthy (some (sha256 _)) = true
  have digest : ∀ s : String, sha256 s ≠ "" := DigestTable.digest_ne .empty (by simp [DigestTable.empty]) (by decide)
  exact congrArg Option.isSome (present_some (digest _))

/-- The process starts. -/
theorem process_starts_iff_sample :
    ∃ tm, TenantManager.boot (AuditPersistence.buildBackend bankEnv.environ) {} bankEnv.environ 0 .empty = .ok tm ∧
      ∃ binding, (Main.lifespan { tenants := tm, gate := ({} : ActionGate Unit), stores := { audit := .empty } }
        bankEnv).1 = .ok binding := by
  obtain ⟨tm, booted, -⟩ := TenantManager.boot_spec (AuditPersistence.buildBackend bankEnv.environ) {}
    bankEnv.environ 0 .empty
  exact ⟨tm, booted, (process_starts_iff { audit := .empty } booted {}).1.2
    ⟨bankEnviron_startable, bankEnv_canBind booted⟩⟩

end Sample

end Custos
