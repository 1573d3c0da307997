import Custos.Platform
import Mathlib.Data.List.Dedup
import Mathlib.Data.List.Sort
import Mathlib.Data.String.Basic

/-!
# What a spawned upstream is handed

`custos/mcp_stdio.py`, the spawning side: the environment of an upstream is an allowlist, what the operator names in a
setting of its own, and what a caller names, and names that are the proxy's own are refused.

`upstream_environment` says what an upstream is handed, and that no variable of the proxy's own is part of it or can be
told from it.
-/

namespace Custos

def UPSTREAM_ENV_ALLOW : List String := ["PATH", "HOME", "LANG", "LC_ALL", "TMPDIR"]
def UPSTREAM_ENV_EXTRA_VAR : String := "CUSTOS_MCP_UPSTREAM_ENV"
def RESERVED_ENV_PREFIX : String := "CUSTOS_"

/-- `name.startswith(RESERVED_ENV_PREFIX)`. -/
def Reserved (name : String) : Prop := RESERVED_ENV_PREFIX.toList <+: name.toList

instance : DecidablePred Reserved := fun name => inferInstanceAs (Decidable (_ <+: name.toList))

/-- `sorted(names)`. -/
def sortedNames (names : List String) : List String := names.insertionSort (· ≤ ·)

/-- `_refuse_reserved`. -/
def refuseReserved (names : List String) : Except Exn Unit :=
  let reserved := sortedNames (names.filter (Reserved ·))
  if reserved ≠ [] then
    .error (.ValueError
      (UPSTREAM_ENV_EXTRA_VAR ++ " may not pass [" ++ ", ".intercalate (reserved.map pyRepr) ++ "]: names beginning " ++
       RESERVED_ENV_PREFIX ++ " are this proxy's own configuration and secrets"))
  else .ok ()

/-- The names of the setting. -/
def configuredNames (environ : Environ) : List String :=
  ((((environ UPSTREAM_ENV_EXTRA_VAR).getD "").toList.splitOn ',').map fun name => strip (.ofList name)).filter
    (· ≠ "")

/-- `upstream_env`. -/
def upstreamEnv (environ : Environ) (extraNames : Option (List String)) : Except Exn (List (String × String)) := do
  let configured := configuredNames environ
  let extra := (extraNames.getD []).filter (· ≠ "")
  refuseReserved (configured ++ extra)
  let allowed := (UPSTREAM_ENV_ALLOW ++ configured ++ extra).dedup
  return (sortedNames allowed).filterMap fun name => (environ name).map fun value => (name, value)

/-- `StdioServerParameters`. -/
structure StdioServerParameters where
  command : String
  args : List String
  env : List (String × String)
  cwd : Option String

/-- `upstream_params`. -/
def upstreamParams (environ : Environ) (command : String) (args : Option (List String))
    (env : Option (List (String × String))) (cwd : Option String) (allowEnv : Option (List String)) :
    Except Exn StdioServerParameters := do
  let env ← match env with
    | some env => pure env
    | none => upstreamEnv environ allowEnv
  return { command, args := args.getD [], env, cwd }

/-! ## What is named -/

/-- The names that are handed on where they are set. -/
def Named (environ : Environ) (extraNames : Option (List String)) (name : String) : Prop :=
  name ∈ UPSTREAM_ENV_ALLOW ∨ name ∈ configuredNames environ ∨ name ≠ "" ∧ name ∈ extraNames.getD []

/-- A name that the operator or the caller may not give. -/
def AsksReserved (environ : Environ) (extraNames : Option (List String)) : Prop :=
  ∃ name, Reserved name ∧ (name ∈ configuredNames environ ∨ name ∈ extraNames.getD [])

lemma mem_sortedNames {name : String} {names : List String} : name ∈ sortedNames names ↔ name ∈ names :=
  (List.perm_insertionSort (· ≤ ·) names).mem_iff

lemma not_reserved_empty : ¬ Reserved "" := by decide

/-- Names pass where none is reserved. -/
lemma refuseReserved_ok_iff {names : List String} :
    refuseReserved names = .ok () ↔ ∀ name ∈ names, ¬ Reserved name := by
  have none : sortedNames (names.filter (Reserved ·)) = [] ↔ ∀ name ∈ names, ¬ Reserved name := by
    rw [List.eq_nil_iff_forall_not_mem]
    simp only [mem_sortedNames, List.mem_filter, decide_eq_true_eq, not_and]
  unfold refuseReserved
  dsimp only
  rw [← none]
  split
  · rename_i some
    exact iff_of_false nofun some
  · rename_i empty
    exact iff_of_true rfl (not_not.1 empty)

/-- What is handed on, where nothing is refused. -/
def handed (environ : Environ) (extraNames : Option (List String)) : List (String × String) :=
  (sortedNames (UPSTREAM_ENV_ALLOW ++ configuredNames environ ++ (extraNames.getD []).filter (· ≠ "")).dedup).filterMap
    fun name => (environ name).map fun value => (name, value)

/-- The environment is refused or handed on. -/
lemma upstreamEnv_eq (environ : Environ) (extraNames : Option (List String)) :
    upstreamEnv environ extraNames =
      (refuseReserved (configuredNames environ ++ (extraNames.getD []).filter (· ≠ ""))).map
        fun _ => handed environ extraNames := by
  change (refuseReserved (configuredNames environ ++ (extraNames.getD []).filter (· ≠ "")) >>= fun _ =>
    .ok (handed environ extraNames)) = _
  cases refuseReserved (configuredNames environ ++ (extraNames.getD []).filter (· ≠ "")) with
  | error e => rfl
  | ok done => rfl

lemma upstreamEnv_ok_iff {environ : Environ} {extraNames : Option (List String)} {env : List (String × String)} :
    upstreamEnv environ extraNames = .ok env ↔ ¬ AsksReserved environ extraNames ∧ env = handed environ extraNames := by
  have plain : refuseReserved (configuredNames environ ++ (extraNames.getD []).filter (· ≠ "")) = .ok () ↔
      ¬ AsksReserved environ extraNames := by
    rw [refuseReserved_ok_iff]
    constructor
    · rintro all ⟨name, reserved, configured | extra⟩
      · exact all name (List.mem_append_left _ configured) reserved
      · refine all name (List.mem_append_right _ (List.mem_filter.2 ⟨extra, decide_eq_true ?_⟩)) reserved
        rintro rfl
        exact not_reserved_empty reserved
    · intro none name mem reserved
      rcases List.mem_append.1 mem with configured | extra
      · exact none ⟨name, reserved, .inl configured⟩
      · exact none ⟨name, reserved, .inr (List.mem_filter.1 extra).1⟩
  rw [upstreamEnv_eq, ← plain]
  cases refuseReserved (configuredNames environ ++ (extraNames.getD []).filter (· ≠ "")) with
  | error e => exact iff_of_false nofun fun no => nomatch no.1
  | ok done => exact ⟨fun same => ⟨rfl, (Except.ok.inj same).symm⟩, fun both => congrArg Except.ok both.2.symm⟩

/-- A variable is handed on where it is named and set. -/
lemma mem_handed {environ : Environ} {extraNames : Option (List String)} {name value : String} :
    (name, value) ∈ handed environ extraNames ↔ Named environ extraNames name ∧ environ name = some value := by
  unfold handed Named
  simp only [List.mem_filterMap, mem_sortedNames, List.mem_dedup, List.mem_append, List.mem_filter, decide_eq_true_eq,
    Option.map_eq_some_iff, Prod.mk.injEq]
  constructor
  · rintro ⟨name', named, value', set, rfl, rfl⟩
    exact ⟨by tauto, set⟩
  · rintro ⟨named, set⟩
    exact ⟨name, by tauto, value, set, rfl, rfl⟩

/-- The names that are handed on are in order, each once. -/
lemma handed_sorted (environ : Environ) (extraNames : Option (List String)) :
    ((handed environ extraNames).map Prod.fst).Pairwise (· < ·) := by
  have names (xs : List String) : (sortedNames xs.dedup).Pairwise (· < ·) := by
    have sorted : (sortedNames xs.dedup).Pairwise (· ≤ ·) := List.pairwise_insertionSort _ _
    have once : (sortedNames xs.dedup).Pairwise (· ≠ ·) :=
      (List.perm_insertionSort (· ≤ ·) xs.dedup).nodup_iff.2 xs.nodup_dedup
    exact (sorted.and once).imp fun both => lt_of_le_of_ne both.1 both.2
  rw [List.pairwise_map]
  refine (names _).filterMap _ fun name name' before entry is entry' is' => ?_
  obtain ⟨value, -, rfl⟩ := Option.map_eq_some_iff.1 is
  obtain ⟨value', -, rfl⟩ := Option.map_eq_some_iff.1 is'
  exact before

lemma allow_plain : ∀ name ∈ UPSTREAM_ENV_ALLOW, ¬ Reserved name := by decide

/-- A name that is handed on is not the proxy's own. -/
lemma Named.plain {environ : Environ} {extraNames : Option (List String)} (none : ¬ AsksReserved environ extraNames)
    {name : String} (named : Named environ extraNames name) : ¬ Reserved name := by
  intro reserved
  rcases named with allowed | configured | ⟨-, extra⟩
  · exact allow_plain name allowed reserved
  · exact none ⟨name, reserved, .inl configured⟩
  · exact none ⟨name, reserved, .inr extra⟩

/-- An environment an upstream is handed: what is named and set, in the order of the names, and nothing of the
proxy's own. -/
structure Handed (environ : Environ) (extraNames : Option (List String)) (env : List (String × String)) : Prop where
  sorted : (env.map Prod.fst).Pairwise (· < ·)
  entries : ∀ name value, (name, value) ∈ env ↔ Named environ extraNames name ∧ environ name = some value
  plain : ∀ name value, (name, value) ∈ env → ¬ Reserved name

/-- What is handed on is what was named, in order. -/
lemma upstreamEnv_handed {environ : Environ} {extraNames : Option (List String)} {env : List (String × String)}
    (answered : upstreamEnv environ extraNames = .ok env) : Handed environ extraNames env := by
  obtain ⟨none, eq⟩ := upstreamEnv_ok_iff.1 answered
  rw [eq]
  refine ⟨handed_sorted environ extraNames, fun name value => mem_handed, fun name value mem => ?_⟩
  have named := (mem_handed.1 mem).1
  exact Named.plain none named

/-- The variables that are not the proxy's own are the same, and so is the setting. -/
def SamePlain (environ environ' : Environ) : Prop :=
  environ' UPSTREAM_ENV_EXTRA_VAR = environ UPSTREAM_ENV_EXTRA_VAR ∧
    ∀ name, ¬ Reserved name → environ' name = environ name

/-- The proxy's own variables make no difference. -/
lemma upstreamEnv_same {environ environ' : Environ} (same : SamePlain environ environ')
    (extraNames : Option (List String)) : upstreamEnv environ' extraNames = upstreamEnv environ extraNames := by
  have configured : configuredNames environ' = configuredNames environ := by
    unfold configuredNames
    rw [same.1]
  have asks : AsksReserved environ' extraNames ↔ AsksReserved environ extraNames := by
    unfold AsksReserved
    rw [configured]
  by_cases reserved : AsksReserved environ extraNames
  · rw [upstreamEnv_eq, upstreamEnv_eq, configured]
    cases refused : refuseReserved (configuredNames environ ++ (extraNames.getD []).filter (· ≠ "")) with
    | error e => simp only [Except.map]
    | ok done =>
      have answered : upstreamEnv environ extraNames = .ok (handed environ extraNames) := by
        rw [upstreamEnv_eq, refused, Except.map]
      exact absurd reserved (upstreamEnv_ok_iff.1 answered).1
  · rw [upstreamEnv_ok_iff.2 ⟨reserved, rfl⟩, upstreamEnv_ok_iff.2 ⟨asks.not.2 reserved, rfl⟩]
    unfold handed
    rw [configured]
    refine congrArg Except.ok (List.filterMap_congr fun name mem => ?_)
    have named : Named environ extraNames name := by
      simp only [mem_sortedNames, List.mem_dedup, List.mem_append, List.mem_filter, decide_eq_true_eq] at mem
      unfold Named
      tauto
    rw [same.2 name (named.plain reserved)]

/-- An upstream whose environment is not given is spawned unless a name of the proxy's own is asked for, with what is
named and set and nothing of the proxy's own in its environment, and nothing of the proxy's own makes a difference to
it. -/
theorem upstream_environment (environ : Environ) (command : String) (args : Option (List String))
    (cwd : Option String) (allowEnv : Option (List String)) :
    ((∃ p, upstreamParams environ command args none cwd allowEnv = .ok p) ↔ ¬ AsksReserved environ allowEnv) ∧
    (∀ p, upstreamParams environ command args none cwd allowEnv = .ok p → Handed environ allowEnv p.env) ∧
    ∀ environ', SamePlain environ environ' →
      upstreamParams environ' command args none cwd allowEnv = upstreamParams environ command args none cwd allowEnv := by
  have params (environ : Environ) : upstreamParams environ command args none cwd allowEnv =
      (upstreamEnv environ allowEnv).map fun env => { command, args := args.getD [], env, cwd } := by
    unfold upstreamParams
    cases upstreamEnv environ allowEnv with
    | error e => rfl
    | ok env => rfl
  refine ⟨?_, fun p spawned => ?_, fun environ' same => by rw [params, params, upstreamEnv_same same]⟩
  · rw [params]
    constructor
    · rintro ⟨p, spawned⟩
      cases answered : upstreamEnv environ allowEnv with
      | error e =>
        rw [answered] at spawned
        cases spawned
      | ok env => exact (upstreamEnv_ok_iff.1 answered).1
    · intro none
      rw [upstreamEnv_ok_iff.2 ⟨none, rfl⟩]
      exact ⟨_, rfl⟩
  · rw [params] at spawned
    cases answered : upstreamEnv environ allowEnv with
    | error e =>
      rw [answered] at spawned
      cases spawned
    | ok env =>
      rw [answered] at spawned
      cases spawned
      dsimp only
      exact upstreamEnv_handed answered

/-- A variable the operator names is handed on, a credential of the proxy is not, and neither is one that is named. -/
example :
    let environ : Environ := fun name =>
      [ ("PATH", "/bin"), ("CUSTOS_JWT_SECRET", "secret"), ("API_KEY", "key"), (UPSTREAM_ENV_EXTRA_VAR, " API_KEY ,")]
        |>.lookup name
    (upstreamEnv environ none).toOption = some [ ("API_KEY", "key"), ("PATH", "/bin")] ∧
      (upstreamEnv environ (some ["CUSTOS_JWT_SECRET"])).toOption = none := by
  decide +kernel

end Custos
