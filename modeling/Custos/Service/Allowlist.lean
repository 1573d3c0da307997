import Custos.Service.Freshness
import Custos.Service.Restore

/-!
# Registrations and the tool allowlist

A tenant's registration is the manager's and its tools are the gate's. `register_tools` replaces a tenant's
tools, and nothing else touches them: not its removal, and not its registration anew. So what a tenant may
use was listed since its latest registration as long as every registration finds no tools of the tenant
(`deny_by_default`).
-/

namespace Custos

section

variable {γ : Type} [Platform]

/-- A service, with the tools that were listed for each tenant since its latest registration. -/
structure Listing (γ : Type) where
  service : Service γ
  listed : String → Finset String := fun _ => ∅

inductive ListingOp where
  | register (id : String) (environ : Environ) (now : ℚ) (quota : QuotaConfig) (fault : Option RegisterFault)
  | unregister (id : String) (fault : Option StoreExc)
  | registerTools (id : String) (tools : List String)
  | evaluateAction (env : GateEnv) (id : String) (action : ActionRequest) (clientId : String)
      (traceId : Option String)

namespace Listing

/-- One call, whether it raises or not. A registration that raises is none. -/
def step [Regex] (hooks : CustodyHooks γ) (w : Listing γ) : ListingOp → Listing γ
  | .register id environ now quota fault =>
    let (result, tenants) := w.service.tenants.registerFaulty fault environ now w.service.stores.audit id quota
    { service := { w.service with tenants }
      listed := match result with
        | .ok _ => Function.update w.listed id ∅
        | .error _ => w.listed }
  | .unregister id fault =>
    { w with service := { w.service with tenants := (w.service.tenants.unregister fault id).2 } }
  | .registerTools id tools =>
    { service := { w.service with gate := w.service.gate.registerTools id tools }
      listed := Function.update w.listed id (w.listed id ∪ tools.toFinset) }
  | .evaluateAction env id action clientId traceId =>
    { w with service := (w.service.evaluateAction hooks env id action clientId traceId).2 }

/-- An action is allowed only if its tool was listed since its tenant's latest registration. -/
def AllowsListed [Regex] (hooks : CustodyHooks γ) (w : Listing γ) : ListingOp → Prop
  | .evaluateAction env id action clientId traceId => ∀ result,
      (w.service.evaluateAction hooks env id action clientId traceId).1 = .ok result →
      result.decision.allowed = true → action.tool ∈ w.listed id
  | _ => True

omit [Platform] in
/-- A registration that succeeds finds no tools of its tenant. -/
def Unlisted (w : Listing γ) : ListingOp → Prop
  | .register id _ _ _ fault => fault = none → w.service.gate.tools id = ∅
  | _ => True

omit [Platform] in
/-- Every tool of a tenant was listed since its latest registration. -/
def Covered (w : Listing γ) : Prop := ∀ id, w.service.gate.tools id ⊆ w.listed id

variable [Regex]

/-- An allowed action is one with a tool of its tenant. -/
lemma tool_of_allowed {hooks : CustodyHooks γ} {s : Service γ} {env : GateEnv} {id : String}
    {action : ActionRequest} {clientId : String} {traceId : Option String} {result : ActionGateResult}
    (ok : (s.evaluateAction hooks env id action clientId traceId).1 = .ok result)
    (allowed : result.decision.allowed = true) : action.tool ∈ s.gate.tools id := by
  have evaluated := s.evaluateAction_evaluated hooks env id action clientId traceId
  generalize s.evaluateAction hooks env id action clientId traceId = out at ok evaluated
  cases evaluated with
  | unknown =>
    cases ok
    cases allowed
  | raised => cases ok
  | decided ctx d gate result' s' known same decides settled =>
    cases ok
    cases settled with
    | recorded r stores rec => exact (decides.allowed allowed).1
    | unrecorded stores rec =>
      -- an allow that is not recorded has become a deny
      dsimp only at allowed
      split at allowed
      · cases allowed
      · rename_i denied
        exact absurd allowed denied

/-- Deciding leaves the tools. -/
lemma evaluateAction_tools (hooks : CustodyHooks γ) (s : Service γ) (env : GateEnv) (id other : String)
    (action : ActionRequest) (clientId : String) (traceId : Option String) :
    (s.evaluateAction hooks env id action clientId traceId).2.gate.tools other = s.gate.tools other := by
  have cited := evaluateAction_cited hooks s env id action clientId traceId
  generalize (s.evaluateAction hooks env id action clientId traceId).2 = s' at cited ⊢
  cases cited with
  | unknown => rfl
  | known ctx ctx' gate stores known engine same =>
    unfold ActionGate.tools
    rw [same]

/-- After a registration the tenant's tools are what they were, and none is listed. -/
lemma register_covered_iff (hooks : CustodyHooks γ) {w : Listing γ} (covered : w.Covered) (id : String)
    (environ : Environ) (now : ℚ) (quota : QuotaConfig) (fault : Option RegisterFault) :
    (w.step hooks (.register id environ now quota fault)).Covered ↔
      w.Unlisted (.register id environ now quota fault) := by
  cases fault with
  | some fault =>
    refine iff_of_true ?_ nofun
    cases fault with
    | load exc => exact covered
    | chain exc => exact covered
  | none =>
    obtain ⟨ctx, -, registered⟩ := w.service.tenants.register_eq environ now w.service.stores.audit id quota
    have registered : w.service.tenants.registerFaulty none environ now w.service.stores.audit id quota = _ :=
      registered
    unfold step Covered
    dsimp only
    rw [registered]
    show (∀ other, w.service.gate.tools other ⊆ Function.update w.listed id ∅ other) ↔ _
    constructor
    · intro after _
      have own := after id
      rw [Function.update_self] at own
      exact Finset.subset_empty.1 own
    · intro unlisted other
      by_cases e : other = id
      · rw [e, Function.update_self]
        exact (unlisted rfl).subset
      · rw [Function.update_of_ne e]
        exact covered other

/-- A step keeps the tools covered exactly where a registration finds none of its tenant's. -/
lemma step_covered_iff (hooks : CustodyHooks γ) {w : Listing γ} (covered : w.Covered) (op : ListingOp) :
    (w.step hooks op).Covered ↔ w.Unlisted op := by
  cases op with
  | register id environ now quota fault => exact register_covered_iff hooks covered id environ now quota fault
  | unregister id fault => exact iff_of_true covered trivial
  | registerTools id tools =>
    refine iff_of_true (fun other => ?_) trivial
    unfold step ActionGate.tools ActionGate.registerTools
    dsimp only
    by_cases e : other = id
    · rw [e, Function.update_self, Function.update_self]
      exact Finset.subset_union_right
    · rw [Function.update_of_ne e, Function.update_of_ne e]
      exact covered other
  | evaluateAction env id action clientId traceId =>
    refine iff_of_true (fun other => ?_) trivial
    show (w.service.evaluateAction hooks env id action clientId traceId).2.gate.tools other ⊆ w.listed other
    rw [evaluateAction_tools]
    exact covered other

/-- The tools of every tenant were listed since its latest registration exactly in the runs whose registrations
find none. -/
theorem covered_iff (hooks : CustodyHooks γ) {w : Listing γ} (covered : w.Covered) (ops : List ListingOp) :
    Steps (step hooks) (fun w op => (w.step hooks op).Covered) w ops ↔ Steps (step hooks) Unlisted w ops :=
  steps_congr covered (fun _ op covered => step_covered_iff hooks covered op)
    (fun _ op covered unlisted => (step_covered_iff hooks covered op).2 unlisted) ops

/-- In a run whose registrations find no tools of their tenants, every action is denied whose tool was not
listed since its tenant's latest registration. -/
theorem deny_by_default (hooks : CustodyHooks γ) (tenants : TenantManager) (custody : Option γ) (stores : Stores)
    (ops : List ListingOp)
    (unlisted : Steps (step hooks) Unlisted { service := { tenants, gate := { custody }, stores } } ops) :
    Steps (step hooks) (AllowsListed hooks) { service := { tenants, gate := { custody }, stores } } ops := by
  refine steps_of_steps (I := Covered) (fun id => Finset.empty_subset _) unlisted ?_
    fun w op covered unlisted => (step_covered_iff hooks covered op).2 unlisted
  intro w op covered _
  cases op with
  | evaluateAction env id action clientId traceId =>
    -- an allowed tool is on the gate's list, and the list is covered
    intro result ok allowed
    exact covered id (tool_of_allowed ok allowed)
  | register => trivial
  | unregister => trivial
  | registerTools => trivial

end Listing

end

section Sample

open Listing

/-- The digests of the sample: the engine's rules, the policy's, the action's, the record's. -/
def searchDigests : DigestTable where
  entries :=
    [("[]", "4f53cda18c2baa0c0354bb5f9a3ecbe5ed12ab4d8e11ba873c2f11161202b945"),
     ("\x7b\"engine\":\"opa\",\"opa_policy\":" ++
      "\"30e9bdc1e4cc79c18f154f60f8167fed30b7eb58d04c1c55f24e5df0997318fd\",\"rules\":[]," ++
      "\"tools\":[\"search\"]\x7d",
      "b7734a158acf9ff1c80fb2d467fdc471d5f147866e66bafae7275e9e8c6ee6bb"),
     ("search  \x7b\x7d", "bba9eb2cfef71284fc84c05103594c2a6f885d33b8ffa47692a5f9a006385bf4"),
     ("\x7b\"action\": \"allow\", \"binding\": \"v2\", \"client_id\": \"agent\", " ++
      "\"commitment\": \"none\", " ++
      "\"content_hash\": \"bba9eb2cfef71284fc84c05103594c2a6f885d33b8ffa47692a5f9a006385bf4\", " ++
      "\"policy_digest\": \"b7734a158acf9ff1c80fb2d467fdc471d5f147866e66bafae7275e9e8c6ee6bb\", " ++
      "\"previous_hash\": \"0000000000000000000000000000000000000000000000000000000000000000\", " ++
      "\"reason\": \"Allowed by OPA policy\", \"tenant_id\": \"acme\", " ++
      "\"timestamp\": 1700000000.0, \"triggered_rule\": null\x7d",
      "56eb827a99d382988e8596db58ccaf63e78cf8e61da51dc37a01a1cd6710554f")]
  distinct := by decide +kernel
  plain := by decide +kernel

local instance allowPlatform : Platform := .reference searchDigests

/-- A text none of the patterns matches. -/
local instance allowRegex : Regex where
  invalid _ := none
  finditer _ _ := []

/-- A service that has just started. -/
def freshListing : Listing Unit :=
  { service := { tenants := { backend := .InMemoryBackend }, gate := { custody := none }
                 stores := { audit := .empty } } }

def allowingReply : Reply := .response 200 "" (.ok (.obj [("result", .obj [("allow", .bool true)])]))

/-- The sample's server names no rule. -/
lemma allowingReply_namesRule : allowingReply.NamesRule := by
  rintro data body
  cases body
  exact ⟨none, rfl⟩

/-- A Rego server that allows. -/
def opaAllows : GateEnv where
  now := 1700000000
  environ := opaEnviron
  server := ⟨plainOpa.evaluate fun _ _ => allowingReply,
    fun _ _ => OPAPolicyEngine.evaluate_isRule allowingReply_namesRule⟩

def noHooks : CustodyHooks Unit where
  anchorPolicyCommit _ _ _ _ := (.ok (), ())
  drainPolicyCommits _ := (.ok true, ())

/-- A tenant with one tool, and an action with it. -/
def registerAcme (now : ℚ) : ListingOp := .register "acme" opaEnviron now DEFAULT_QUOTA none

def listSearch : ListingOp := .registerTools "acme" ["search"]

def useSearch : ListingOp := .evaluateAction opaAllows "acme" { tool := "search" } "agent" none

/-- A tool is listed and used. -/
theorem deny_by_default_sample :
    Steps (step noHooks) (AllowsListed noHooks) freshListing [registerAcme 0, listSearch, useSearch] :=
  deny_by_default noHooks { backend := .InMemoryBackend } none { audit := .empty }
    [registerAcme 0, listSearch, useSearch] ⟨fun _ => rfl, trivial, trivial, trivial⟩

/-- A tenant that is unregistered and registered anew has the tool it had. -/
theorem old_tools_allowed :
    ¬ Steps (step noHooks) (AllowsListed noHooks) freshListing
      [registerAcme 0, listSearch, .unregister "acme" none, registerAcme 1, useSearch] := by
  rintro ⟨-, -, -, -, listed, -⟩
  have allowed : ((run (step noHooks) freshListing [registerAcme 0, listSearch, .unregister "acme" none,
      registerAcme 1]).service.evaluateAction noHooks opaAllows "acme" { tool := "search" } "agent"
      none).1.toOption.map (·.decision.allowed) = some true := by decide +kernel
  cases result : ((run (step noHooks) freshListing [registerAcme 0, listSearch, .unregister "acme" none,
      registerAcme 1]).service.evaluateAction noHooks opaAllows "acme" { tool := "search" } "agent" none).1 with
  | error e =>
    rw [result] at allowed
    cases allowed
  | ok g =>
    rw [result] at allowed
    exact absurd (listed g result (Option.some.inj allowed)) (Finset.notMem_empty _)

end Sample

end Custos
