import Custos.Policy.Opa
import Custos.Service.Retention

/-!
# The action gate

`custos/action_gate.py`: a proposed action is decided before it runs, and every decision is recorded in
its tenant's chain. The custody manager the gate may hold is reached through two calls that may raise
(`CustodyHooks`), so that what is shown of the gate holds whatever custody does.
-/

namespace Custos

/-! ## The data of the gate -/

structure ActionRequest where
  tool : String
  command : String := ""
  args : Option (List (String × Json)) := none

/-- `serialize`. -/
def ActionRequest.serialize [Platform] (a : ActionRequest) : String :=
  a.tool ++ " " ++ a.command ++ " " ++ dumpsSorted (.obj (a.args.getD []))

structure ActionGateResult where
  decision : PolicyResult
  auditRecordHash : Option String := none
  deriving DecidableEq

structure DangerousRule where
  name : String
  pattern : String
  reason : String

/-- `_DANGEROUS_COMMAND_RULES`: the first hit wins. The braces of a pattern are written `\x7b` and `\x7d`, and a comment
gives its lines that have some as they are. -/
def DANGEROUS_COMMAND_RULES : List DangerousRule :=
  [⟨"action_cmd_reverse_shell",
    "bash\\s+-i\\s+>&|/dev/tcp/|nc\\s+-e\\s+|python3?\\s+-c\\s+['\\\"`]\\s*import\\s+socket",
    "Reverse shell / interactive shell exfiltration payload."⟩,
   ⟨"action_cmd_exfiltration",
    "(?i)\\b(?:curl|wget|nc|ncat|netcat|scp|sftp|rsync|ftp|telnet)\\b" ++
    -- [^\n]{0,200}(?:https?://|\b\d{1,3}\.\d{1,3}\.\d{1,3}\.\d{1,3}\b)
    "[^\\n]\x7b0,200\x7d(?:https?://|\\b\\d\x7b1,3\x7d\\.\\d\x7b1,3\x7d\\.\\d\x7b1,3\x7d\\.\\d\x7b1,3\x7d\\b)",
    "Network egress/exfiltration command — outbound transfer attempts must be deny-by-default."⟩,
   ⟨"action_cmd_destructive",
    "(?:rm\\s+-[a-zA-Z]*r[a-zA-Z]*f?[a-zA-Z]*|rm\\s+-[a-zA-Z]*f[a-zA-Z]*r[a-zA-Z]*" ++
    "|mkfs|dd\\s+if=|shred\\s|>\\s*/dev/sd[a-z])",
    "Destructive filesystem command."⟩,
   ⟨"action_cmd_privilege",
    "(?i)\\b(?:sudo|doas|su\\s+root)\\b|chmod\\s+777|chown\\s+root|u\\+s\\b",
    "Privilege escalation command."⟩,
   ⟨"action_cmd_package_install",
    "(?i)\\b(?:pip3?|npm|yarn|apt(?:-get)?|yum|dnf|brew)\\s+(?:install|i|add)\\b",
    "Package installation — dependency changes must be human-approved (supply-chain vector)."⟩,
   ⟨"action_cmd_process_tamper",
    "(?i)\\b(?:pkill|killall)\\b|kill\\s+-(?:9|KILL)\\b" ++
    "|systemctl\\s+(?:stop|disable|restart|mask)|launchctl\\s+(?:unload|stop)",
    "Process/service tampering command."⟩,
   ⟨"action_cmd_credential_access",
    -- (?i)(?:cat|less|more|head|tail|cp|mv|scp)\s+[^\n]{0,200}
    "(?i)(?:cat|less|more|head|tail|cp|mv|scp)\\s+[^\\n]\x7b0,200\x7d" ++
    "(?:\\.env\\b|id_rsa|id_ed25519|\\.ssh/|\\.aws/|\\.netrc|/etc/(?:passwd|shadow)|aws_secret" ++
    "|credentials)",
    "Credential/secret file access attempt."⟩,
   ⟨"action_cmd_oversight_disable",
    "(?i)\\b(?:disable|bypass|uninstall|kill(?:ing)?|stop|remove|delete)\\b" ++
    -- [^\n]{0,60}\b(?:custos|firewall|guardrail|policy\s*engine|audit\s*(?:chain|logs?
    "[^\\n]\x7b0,60\x7d\\b(?:custos|firewall|guardrail|policy\\s*engine|audit\\s*(?:chain|logs?" ++
    "|logging)|action\\s*gate)\\b",
    "Attempt to disable or bypass the governance layer itself — " ++
    "the guardrail-bypassing-the-guardrail pattern."⟩]

/-- `pattern.search(blob)` is a match. -/
def DangerousRule.Hits [Regex] (rule : DangerousRule) (blob : String) : Prop :=
  Regex.finditer rule.pattern blob ≠ []

instance [Regex] (rule : DangerousRule) (blob : String) : Decidable (rule.Hits blob) :=
  inferInstanceAs (Decidable (_ ≠ _))

/-- The key of a cached digest. -/
structure CacheKey where
  tools : Finset String
  kind : String
  rulesDigest : Option String
  pin : Option String
  deriving DecidableEq

/-- What the gate calls of the custody manager it holds. -/
structure CustodyHooks (γ : Type) where
  anchorPolicyCommit : γ → String → String → String → Except Exn Unit × γ
  drainPolicyCommits : γ → Except Exn Bool × γ

/-- `ActionGate`. -/
structure ActionGate (γ : Type) where
  custody : Option γ := none
  toolAllowlists : String → Option (Finset String) := fun _ => none
  lastAnchoredDigest : String → Option String := fun _ => none
  digestCache : String → Option (CacheKey × Option String) := fun _ => none

/-- The process the gate works in. -/
structure Service (γ : Type) where
  tenants : TenantManager
  gate : ActionGate γ
  stores : Stores

/-- What a request meets outside: the stores' engines, and a Rego server's answers. -/
structure GateEnv extends DecisionEnv where
  server : Remote

def GateEnv.remote (env : GateEnv) : String → Except Exn PolicyResult := env.server.read

variable {γ : Type}

namespace ActionGate

/-- `register_tools`. -/
def registerTools (g : ActionGate γ) (tenantId : String) (tools : List String) : ActionGate γ :=
  { g with
    toolAllowlists := Function.update g.toolAllowlists tenantId (some tools.toFinset)
    digestCache := Function.update g.digestCache tenantId none }

/-- `_tool_allowlists.get(tenant_id, set())`. -/
def tools (g : ActionGate γ) (tenantId : String) : Finset String :=
  (g.toolAllowlists tenantId).getD ∅

/-- `_deny`. -/
def deny (rule reason : String) : PolicyResult :=
  { allowed := false, action := .DENY, triggeredRule := some rule, reason }

/-- `_unrecordable`. -/
def unrecordable (citedDigest : Option String) : PolicyResult :=
  let suffix := if truthy citedDigest then "" else " No policy citation was available for this engine."
  deny "action_gate_record_unwritable"
    ("The decision could not be recorded, so the allow does not stand. " ++ strip suffix)

/-- The denies that name the tenant. -/
def unknownTenant (tenantId : String) : PolicyResult :=
  deny "action_gate_unknown_tenant"
    ("Unknown tenant '" ++ tenantId ++ "' — fail-closed. No ungoverned action evaluation.")

def notAllowlisted (tenantId tool : String) : PolicyResult :=
  deny "action_gate_tool_not_allowlisted"
    ("Tool '" ++ tool ++ "' is not in tenant '" ++ tenantId ++ "'s allowlist. " ++
     "Deny-by-default: register tools explicitly via ActionGate.register_tools().")

variable [Platform]

/-- `_cited_policy_digest`: the cached digest where the key has not changed. -/
def citedPolicyDigest (g : ActionGate γ) (environ : Environ) (tenantId : String) (e : Engine) :
    Option String × ActionGate γ :=
  let tools := g.tools tenantId
  let pin := e.opaPolicyDigest environ
  let key : CacheKey := ⟨tools, e.kind, e.rulesDigest, pin⟩
  let compute :=
    let dg := enginePolicyDigest tools e.citationRules e.kind pin
    (dg, { g with digestCache := Function.update g.digestCache tenantId (some (key, dg)) })
  match g.digestCache tenantId with
  | some (key', dg) => if key' = key then (dg, g) else compute
  | none => compute

/-- `_maybe_anchor_policy_commit`. -/
def maybeAnchorPolicyCommit (hooks : CustodyHooks γ) (g : ActionGate γ) (environ : Environ)
    (tenantId : String) (e : Engine) (digest : Option String) : ActionGate γ :=
  match g.custody, digest with
  | some custody, some dg =>
    if g.lastAnchoredDigest tenantId = some dg then g
    else
      let canonical := engineCitationBytes (g.tools tenantId) e.citationRules e.kind
        (e.opaPolicyDigest environ)
      match hooks.anchorPolicyCommit custody tenantId dg canonical with
      | (.error _, custody) => { g with custody := some custody }
      | (.ok (), custody) =>
        match hooks.drainPolicyCommits custody with
        | (.ok true, custody) =>
          { g with
            custody := some custody
            lastAnchoredDigest := Function.update g.lastAnchoredDigest tenantId (some dg) }
        | (_, custody) => { g with custody := some custody }
  | _, _ => g

end ActionGate

/-! ## Recording and deciding -/

open ActionGate

/-- `append_reconciliation` on the process's table. -/
def AuditChain.reconcileIn [Platform] (c : AuditChain) (s : Stores) (env : RecordEnv)
    (clientId traceId rule content reason : String) (policyDigest tenantId : Option String) :
    Except Exn AuditRecord × AuditChain × Stores :=
  let (res, c', audit) :=
    c.appendReconciliation s.audit env clientId traceId rule content reason policyDigest tenantId
  let call : RecordArgs :=
    { clientId, action := "DENY", reason, content, triggeredRule := some rule,
      traceId := some traceId, policyDigest, tenantId }
  (res, c', { s with audit, calls := s.calls ++ if traceId = "" ∨ rule = "" then [] else [call] })

namespace Service

variable [Platform]

omit [Platform] in
/-- The arguments `_record` passes on. -/
def gateArgs (tenantId clientId : String) (traceId : Option String) (decision : PolicyResult)
    (blob : String) (citedDigest : Option String) : RecordArgs :=
  { clientId, action := decision.action.value, reason := decision.reason, content := blob,
    triggeredRule := decision.triggeredRule, traceId, policyDigest := citedDigest,
    tenantId := some tenantId }

/-- `_record`: none when the record is refused. -/
def record (s : Service γ) (env : DecisionEnv) (tenantId : String) (ctx : TenantContext)
    (clientId : String) (traceId : Option String) (decision : PolicyResult) (blob : String)
    (citedDigest : Option String) : Option AuditRecord × Service γ :=
  let (res, ctx, stores) := recordDecision ctx s.stores env
    (gateArgs tenantId clientId traceId decision blob citedDigest)
  (res.toOption, { s with tenants := s.tenants.setContext tenantId ctx, stores })

/-- What each of the gate's decisions ends in: its record, and a deny instead of an allow without one. -/
def settle (s : Service γ) (env : DecisionEnv) (tenantId : String) (ctx : TenantContext)
    (clientId : String) (traceId : Option String) (decision : PolicyResult) (blob : String)
    (citedDigest : Option String) : ActionGateResult × Service γ :=
  let (record, s) := s.record env tenantId ctx clientId traceId decision blob citedDigest
  if record.isNone ∧ decision.allowed then ({ decision := unrecordable citedDigest }, s)
  else ({ decision, auditRecordHash := record.map (·.recordHash) }, s)

/-- `evaluate_action`. -/
def evaluateAction [Regex] (hooks : CustodyHooks γ) (s : Service γ) (env : GateEnv)
    (tenantId : String) (action : ActionRequest) (clientId : String) (traceId : Option String) :
    Except Exn ActionGateResult × Service γ :=
  let blob := action.serialize
  match s.tenants.getStrict tenantId with
  | none => (.ok { decision := unknownTenant tenantId }, s)
  | some ctx =>
    let (citedDigest, gate) := s.gate.citedPolicyDigest env.environ tenantId ctx.policyEngine
    let gate :=
      gate.maybeAnchorPolicyCommit hooks env.environ tenantId ctx.policyEngine citedDigest
    let s := { s with gate }
    let settle := fun decision =>
      let (result, s) := s.settle env.toDecisionEnv tenantId ctx clientId traceId decision blob citedDigest
      (.ok result, s)
    if action.tool ∉ gate.tools tenantId then settle (notAllowlisted tenantId action.tool)
    else
      match DANGEROUS_COMMAND_RULES.find? (·.Hits blob) with
      | some rule => settle (deny rule.name rule.reason)
      | none =>
        match ctx.policyEngine.evaluate env.remote blob with
        | .error e => (.error e, s)
        | .ok decision => settle decision

/-- `record_reconciliation`. -/
def recordReconciliation (s : Service γ) (env : RecordEnv) (tenantId clientId traceId : String)
    (rule reason content : String) : Bool × Service γ :=
  match s.tenants.getStrict tenantId with
  | none => (false, s)
  | some ctx =>
    let (digest, gate) := s.gate.citedPolicyDigest env.environ tenantId ctx.policyEngine
    let (res, auditChain, stores) := ctx.auditChain.reconcileIn s.stores env clientId traceId rule
      content reason digest (some tenantId)
    (res.toOption.isSome,
      { tenants := s.tenants.setContext tenantId { ctx with auditChain }, gate, stores })

/-- `cited_policy_digest`. -/
def citedPolicyDigest (s : Service γ) (environ : Environ) (tenantId : String) :
    Option String × Service γ :=
  match s.tenants.getStrict tenantId with
  | none => (none, s)
  | some ctx =>
    let (digest, gate) := s.gate.citedPolicyDigest environ tenantId ctx.policyEngine
    (digest, { s with gate })

end Service

/-! ## What deciding does -/

namespace ActionGate

variable [Platform]

/-- Citing a digest touches nothing of the gate but its cache. -/
lemma citedPolicyDigest_gate (g : ActionGate γ) (environ : Environ) (id : String) (e : Engine) :
    ∃ cache, (g.citedPolicyDigest environ id e).2 = { g with digestCache := cache } := by
  unfold citedPolicyDigest
  dsimp only
  cases g.digestCache id with
  | none => exact ⟨_, rfl⟩
  | some entry =>
    dsimp only
    split_ifs
    · exact ⟨g.digestCache, rfl⟩
    · exact ⟨_, rfl⟩

/-- Anchoring a commit touches nothing of the gate but its custody and the mark of what is anchored. -/
lemma maybeAnchorPolicyCommit_gate (hooks : CustodyHooks γ) (g : ActionGate γ) (environ : Environ)
    (id : String) (e : Engine) (digest : Option String) :
    ∃ custody anchored, g.maybeAnchorPolicyCommit hooks environ id e digest =
      { g with custody, lastAnchoredDigest := anchored } := by
  unfold maybeAnchorPolicyCommit
  split
  · split_ifs
    · exact ⟨g.custody, g.lastAnchoredDigest, rfl⟩
    · dsimp only
      split
      · exact ⟨_, g.lastAnchoredDigest, rfl⟩
      · split
        · exact ⟨_, _, rfl⟩
        · exact ⟨_, g.lastAnchoredDigest, rfl⟩
  · exact ⟨g.custody, g.lastAnchoredDigest, rfl⟩

/-- What the gate decides of an action of a registered tenant. -/
inductive Decides [Regex] (tools : Finset String) (e : Engine)
    (remote : String → Except Exn PolicyResult) (tenantId : String) (action : ActionRequest) :
    PolicyResult → Prop
  | tool : action.tool ∉ tools → Decides tools e remote tenantId action
      (notAllowlisted tenantId action.tool)
  | dangerous (rule : DangerousRule) : action.tool ∈ tools →
      DANGEROUS_COMMAND_RULES.find? (·.Hits action.serialize) = some rule →
      Decides tools e remote tenantId action (deny rule.name rule.reason)
  | engine (d : PolicyResult) : action.tool ∈ tools →
      (∀ rule ∈ DANGEROUS_COMMAND_RULES, ¬ rule.Hits action.serialize) →
      e.evaluate remote action.serialize = .ok d → Decides tools e remote tenantId action d

/-- What the gate decides is determined. -/
lemma Decides.unique [Regex] {tools : Finset String} {e : Engine}
    {remote : String → Except Exn PolicyResult} {id : String} {action : ActionRequest}
    {d d' : PolicyResult} (h : Decides tools e remote id action d)
    (h' : Decides tools e remote id action d') : d = d' := by
  -- the three verdicts exclude each other: by the tool, then by the first dangerous rule
  have clear : ∀ {rule}, DANGEROUS_COMMAND_RULES.find? (·.Hits action.serialize) = some rule →
      ¬ ∀ rule ∈ DANGEROUS_COMMAND_RULES, ¬ rule.Hits action.serialize := by
    intro rule found no
    have hit := List.find?_some found
    exact no rule (List.mem_of_find?_eq_some found) (of_decide_eq_true hit)
  cases h with
  | tool out =>
    cases h' with
    | tool => rfl
    | dangerous _ mem => exact absurd mem out
    | engine _ mem => exact absurd mem out
  | dangerous rule mem found =>
    cases h' with
    | tool out => exact absurd mem out
    | dangerous rule' _ found' =>
      rw [found] at found'
      cases found'
      rfl
    | engine _ _ no => exact absurd no (clear found)
  | engine d mem no ans =>
    cases h' with
    | tool out => exact absurd mem out
    | dangerous _ _ found => exact absurd no (clear found)
    | engine d' _ _ ans' =>
      rw [ans] at ans'
      exact Except.ok.inj ans'

/-- An allow is the engine's: the tool is the tenant's and no dangerous pattern matches. -/
lemma Decides.allowed [Regex] {tools : Finset String} {e : Engine}
    {remote : String → Except Exn PolicyResult} {id : String} {action : ActionRequest}
    {d : PolicyResult} (h : Decides tools e remote id action d) (ok : d.allowed = true) :
    action.tool ∈ tools ∧ (∀ rule ∈ DANGEROUS_COMMAND_RULES, ¬ rule.Hits action.serialize) ∧
      e.evaluate remote action.serialize = .ok d := by
  cases h with
  | tool => cases ok
  | dangerous => cases ok
  | engine d mem no ans => exact ⟨mem, no, ans⟩

end ActionGate

namespace Service

variable [Platform]

/-- A decision ends recorded, under the hash of the one record appended, or unrecorded: then an allow has
become a deny and a deny stands as it was. -/
inductive Settled (ready : Prop) (s : Service γ) (env : RecordEnv) (id : String) (ctx : TenantContext)
    (a : RecordArgs) (d : PolicyResult) (cited : Option String) :
    ActionGateResult × Service γ → Prop
  | recorded (r : AuditRecord) (stores : Stores) :
      Recording ready ctx.auditChain s.stores env a
        { ctx.auditChain with records := ctx.auditChain.records ++ [r] } stores →
      Settled ready s env id ctx a d cited
        ({ decision := d, auditRecordHash := some r.recordHash },
          { s with
            tenants := s.tenants.setContext id
              { ctx with auditChain :=
                { ctx.auditChain with records := ctx.auditChain.records ++ [r] } }
            stores })
  | unrecorded (stores : Stores) : Recording ready ctx.auditChain s.stores env a ctx.auditChain stores →
      Settled ready s env id ctx a d cited
        ({ decision := if d.allowed then unrecordable cited else d },
          { s with tenants := s.tenants.setContext id ctx, stores })

/-- What the gate does once it has decided. -/
lemma settle_settled (s : Service γ) (env : DecisionEnv) (id : String) (ctx : TenantContext)
    (clientId : String) (traceId : Option String) (d : PolicyResult) (blob : String)
    (cited : Option String) :
    Settled (ContentReady ctx s.stores env (some id) blob) s env.toRecordEnv id ctx
      (gateArgs id clientId traceId d blob cited) d cited
      (s.settle env id ctx clientId traceId d blob cited) := by
  obtain ⟨out, ⟨rec, cases⟩, eq⟩ :=
    recordDecision_outcome ctx s.stores env (gateArgs id clientId traceId d blob cited)
  unfold settle record
  rw [eq]
  obtain ⟨res, chain, stores⟩ := out
  rcases cases with ⟨⟨e, rfl⟩, rfl⟩ | ⟨r, rfl, rfl⟩
  · have unrecorded : Settled _ s env.toRecordEnv id ctx _ d cited _ := .unrecorded stores rec
    by_cases ok : d.allowed = true
    · rw [if_pos ok] at unrecorded
      show Settled _ s env.toRecordEnv id ctx _ d cited (if _ then _ else _)
      rw [if_pos ⟨rfl, ok⟩]
      exact unrecorded
    · rw [if_neg ok] at unrecorded
      show Settled _ s env.toRecordEnv id ctx _ d cited (if _ then _ else _)
      rw [if_neg fun both => ok both.2]
      exact unrecorded
  · exact .recorded r stores rec

/-- What a call of `evaluate_action` can come to. -/
inductive Evaluated [Regex] (hooks : CustodyHooks γ) (s : Service γ) (env : GateEnv) (id : String)
    (action : ActionRequest) (clientId : String) (traceId : Option String) :
    Except Exn ActionGateResult × Service γ → Prop
  | unknown : s.tenants.getStrict id = none →
      Evaluated hooks s env id action clientId traceId (.ok { decision := unknownTenant id }, s)
  | raised (ctx : TenantContext) (e : Exn) (gate : ActionGate γ) :
      s.tenants.getStrict id = some ctx →
      gate = ((s.gate.citedPolicyDigest env.environ id ctx.policyEngine).2.maybeAnchorPolicyCommit
        hooks env.environ id ctx.policyEngine
        (s.gate.citedPolicyDigest env.environ id ctx.policyEngine).1) →
      (∀ d, ¬ Decides (s.gate.tools id) ctx.policyEngine env.remote id action d) →
      Evaluated hooks s env id action clientId traceId (.error e, { s with gate })
  | decided (ctx : TenantContext) (d : PolicyResult) (gate : ActionGate γ)
      (res : ActionGateResult) (s' : Service γ) :
      s.tenants.getStrict id = some ctx →
      gate = ((s.gate.citedPolicyDigest env.environ id ctx.policyEngine).2.maybeAnchorPolicyCommit
        hooks env.environ id ctx.policyEngine
        (s.gate.citedPolicyDigest env.environ id ctx.policyEngine).1) →
      Decides (s.gate.tools id) ctx.policyEngine env.remote id action d →
      Settled (ContentReady ctx s.stores env.toDecisionEnv (some id) action.serialize)
        { s with gate } env.toRecordEnv id ctx
        (gateArgs id clientId traceId d action.serialize
          (s.gate.citedPolicyDigest env.environ id ctx.policyEngine).1) d
        (s.gate.citedPolicyDigest env.environ id ctx.policyEngine).1 (res, s') →
      Evaluated hooks s env id action clientId traceId (.ok res, s')

/-- Every call of `evaluate_action` comes to one of these. -/
theorem evaluateAction_evaluated [Regex] (hooks : CustodyHooks γ) (s : Service γ) (env : GateEnv)
    (id : String) (action : ActionRequest) (clientId : String) (traceId : Option String) :
    Evaluated hooks s env id action clientId traceId
      (s.evaluateAction hooks env id action clientId traceId) := by
  unfold evaluateAction
  cases known : s.tenants.getStrict id with
  | none => exact .unknown known
  | some ctx =>
    dsimp only
    obtain ⟨cache, cites⟩ := s.gate.citedPolicyDigest_gate env.environ id ctx.policyEngine
    generalize gateEq : ((s.gate.citedPolicyDigest env.environ id ctx.policyEngine).2.maybeAnchorPolicyCommit
      hooks env.environ id ctx.policyEngine
      (s.gate.citedPolicyDigest env.environ id ctx.policyEngine).1) = gate
    -- citing and anchoring come first, and leave the allowlist
    have tools : gate.tools id = s.gate.tools id := by
      obtain ⟨custody, anchored, anchors⟩ := maybeAnchorPolicyCommit_gate hooks
        (s.gate.citedPolicyDigest env.environ id ctx.policyEngine).2 env.environ id ctx.policyEngine
        (s.gate.citedPolicyDigest env.environ id ctx.policyEngine).1
      rw [← gateEq, anchors, cites]
      rfl
    have settled := fun d (dec : Decides (s.gate.tools id) ctx.policyEngine env.remote id action d) =>
      Evaluated.decided ctx d gate _ _ known gateEq.symm dec
        (settle_settled { s with gate } env.toDecisionEnv id ctx clientId traceId d action.serialize
          (s.gate.citedPolicyDigest env.environ id ctx.policyEngine).1)
    rw [tools]
    by_cases mem : action.tool ∈ s.gate.tools id
    · rw [if_neg (not_not.2 mem)]
      cases found : DANGEROUS_COMMAND_RULES.find? (·.Hits action.serialize) with
      | some rule => exact settled _ (.dangerous rule mem found)
      | none =>
        have no : ∀ rule ∈ DANGEROUS_COMMAND_RULES, ¬ rule.Hits action.serialize := by
          simpa using found
        dsimp only
        cases ans : ctx.policyEngine.evaluate env.remote action.serialize with
        | error e =>
          refine .raised ctx e gate known gateEq.symm fun d dec => ?_
          cases dec with
          | tool out => exact out mem
          | dangerous _ _ found' => exact absurd (found'.symm.trans found) nofun
          | engine _ _ _ ans' => exact absurd (ans'.symm.trans ans) nofun
        | ok d => exact settled d (.engine d mem no ans)
    · rw [if_pos mem]
      exact settled _ (.tool mem)

/-- An unknown tenant's call is denied. -/
lemma evaluateAction_of_unknown [Regex] (hooks : CustodyHooks γ) {s : Service γ} (env : GateEnv) {id : String}
    (none : s.tenants.getStrict id = none) (action : ActionRequest) (clientId : String) (traceId : Option String) :
    s.evaluateAction hooks env id action clientId traceId = (.ok { decision := unknownTenant id }, s) := by
  unfold evaluateAction
  rw [none]

/-- The gate cites and anchors before it decides, and nothing after that changes it. -/
lemma gate_of_evaluateAction [Regex] (hooks : CustodyHooks γ) {s : Service γ} (env : GateEnv) {id : String}
    {ctx : TenantContext} (known : s.tenants.getStrict id = some ctx) (action : ActionRequest) (clientId : String)
    (traceId : Option String) :
    (s.evaluateAction hooks env id action clientId traceId).2.gate =
      (s.gate.citedPolicyDigest env.environ id ctx.policyEngine).2.maybeAnchorPolicyCommit hooks env.environ id
        ctx.policyEngine (s.gate.citedPolicyDigest env.environ id ctx.policyEngine).1 := by
  have evaluated := s.evaluateAction_evaluated hooks env id action clientId traceId
  generalize s.evaluateAction hooks env id action clientId traceId = out at evaluated ⊢
  cases evaluated with
  | unknown none =>
    rw [known] at none
    cases none
  | raised ctx' e gate known' same _ =>
    cases known.symm.trans known'
    exact same
  | decided ctx' d gate res s' known' same _ settled =>
    cases known.symm.trans known'
    have kept : s'.gate = gate := by cases settled <;> rfl
    exact kept.trans same

end Service

end Custos
