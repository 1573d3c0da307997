import Custos.Policy.Opa
import Custos.Service.Tenant

/-!
# The surplus-recovery pack

The two citation gates of `packs/surplus_recovery.py` and `evaluate_outreach`, which asks the tenant's engine
about a draft that has passed both. A statute has to be an entry of its registry. A court citation has to be
related to an entry: the one's text is part of the other's, so a fragment of a verified citation passes, and so
does a case that is cited with one. `courtCitations_whole_iff` says for which drafts and registries the court
gate lets pass verified citations only.
-/

namespace Custos.SurplusRecovery

/-- A match object: `span()`, `group(0)` and `group(1)`. -/
structure Match where
  start : ℕ
  stop : ℕ
  group : String
  group1 : String := ""

/-- What the pack takes of the standard library: `re.finditer` and `str.lower`. -/
class PackLib where
  finditer : String → String → List Match
  lower : String → String

open PackLib (finditer)

def DEFAULT_TENANT_ID : String := "surplus_recovery"

/-- `_COURT_CITATION_RES`: the case form, and the bare reporter citation. The braces of a pattern are written `\x7b` and
`\x7d`, and a comment gives its lines that have some as they are. -/
def COURT_CITATION_RES : String × String :=
  -- \b[A-Z][\w&.'\u2019]*(?:\s+[A-Z][\w&.'\u2019]*){0,4}\s+v\.?\s+
  -- [A-Z][\w&.'\u2019]*(?:\s+[A-Z][\w&.'\u2019]*){0,4},?\s*\d+\s+
  ("\\b[A-Z][\\w&.'\\u2019]*(?:\\s+[A-Z][\\w&.'\\u2019]*)\x7b0,4\x7d\\s+v\\.?\\s+" ++
   "[A-Z][\\w&.'\\u2019]*(?:\\s+[A-Z][\\w&.'\\u2019]*)\x7b0,4\x7d,?\\s*\\d+\\s+" ++
   "(?:U\\.S\\.?|F\\.2d|F\\.3d|F\\.4th|F\\.?\\s?Supp\\.?\\s?\\d?d?|So\\.?\\s?\\d?d?|WL|Fla\\.?)(?:\\s+\\d+)?",
   "\\b\\d+\\s+(?:U\\.S\\.?|F\\.2d|F\\.3d|F\\.4th|F\\.?\\s?Supp\\.?\\s?\\d?d?|So\\.?\\s?\\d?d?|WL)\\s+\\d+\\b")

/-- `_STATUTE_CITATION_RE`: group 1 is the statute's number. -/
def STATUTE_CITATION_RE : String :=
  "(?:§|\\bF\\.?S\\.?|\\bFla\\.?\\s+Stat\\.?|\\bSection\\b|\\bStatute\\b|\\bSec\\.?|\\bs\\.)" ++
  -- \s*§?\s*(\d{1,4}\.\d{1,4})
  "\\s*§?\\s*(\\d\x7b1,4\x7d\\.\\d\x7b1,4\x7d)"

/-! ## The registries -/

/-- What reading a registry's file comes to: an `OSError` or a `JSONDecodeError`, which count as an empty
registry, another exception, or its value. -/
inductive RegistryFile where
  | unreadable
  | raises (e : Exn)
  | data (value : Json)

/-- The keys of the registry under a key of the file. -/
def RegistryFile.load (key : String) : RegistryFile → Except Exn (List String)
  | .unreadable => .ok []
  | .raises e => .error e
  | .data (.obj kvs) =>
    match kvs.lookup key with
    | some (.obj registry) => .ok (registry.map Prod.fst)
    | _ => .ok []
  | .data value => .error (noGet value)

/-- `load_verified_statutes`. -/
def loadVerifiedStatutes (file : RegistryFile) : Except Exn (List String) := file.load "florida"

/-- `load_verified_cases`. -/
def loadVerifiedCases (file : RegistryFile) : Except Exn (List String) := file.load "cases"

/-- The registry that is asked: the one given, or the file's. -/
def registryOf (load : RegistryFile → Except Exn (List String)) (registry : Option (List String))
    (file : RegistryFile) : Except Exn (List String) :=
  match registry with
  | some registry => .ok registry
  | none => load file

/-! ## The gates -/

section

variable [PackLib]

/-- `find_unverified_citations`. -/
def findUnverifiedCitations (content : String) (registry : Option (List String)) (file : RegistryFile) :
    Except Exn (List String) := do
  let reg ← registryOf loadVerifiedStatutes registry file
  return (finditer STATUTE_CITATION_RE content).foldl (fun unverified m =>
    if m.group1 ∉ reg ∧ m.group1 ∉ unverified then unverified ++ [m.group1] else unverified) []

omit [PackLib] in
/-- `re.sub(r"\s+", " ", s)`, on the characters: of a run of spaces the last becomes the blank. -/
def collapse : List Char → List Char
  | [] => []
  | c :: cs =>
    if isSpace c then if cs.head?.any isSpace then collapse cs else ' ' :: collapse cs
    else c :: collapse cs

omit [PackLib] in
/-- `re.sub(r"\s+", " ", s).strip()`. -/
def squeeze (s : String) : String := strip (.ofList (collapse s.toList))

/-- An entry as it is compared. -/
def normalizedKey (k : String) : String := PackLib.lower (squeeze k)

omit [PackLib] in
/-- The citation of a match: trailing commas and dots are no part of it. -/
def Match.cite (m : Match) : String :=
  .ofList ((squeeze m.group).toList.reverse.dropWhile (· ∈ [',', '.'])).reverse

/-- `_covered`. -/
def covered (reg : List String) (cite : String) : Bool :=
  reg.any fun k => isIn k (PackLib.lower cite) || isIn (PackLib.lower cite) k

/-- One turn of either loop. -/
def addUncovered (reg unverified : List String) (m : Match) : List String :=
  if ¬ covered reg m.cite ∧ m.cite ∉ unverified then unverified ++ [m.cite] else unverified

omit [PackLib] in
/-- The match overlaps one of the spans. -/
def Match.overlaps (m : Match) (spans : List (ℕ × ℕ)) : Bool :=
  spans.any fun span => ¬ (m.stop ≤ span.1 ∨ span.2 ≤ m.start)

/-- `find_unverified_case_citations`. -/
def findUnverifiedCaseCitations (content : String) (registry : Option (List String)) (file : RegistryFile) :
    Except Exn (List String) := do
  let reg := (← registryOf loadVerifiedCases registry file).map normalizedKey
  let cases := finditer COURT_CITATION_RES.1 content
  let caseSpans := cases.map fun m => (m.start, m.stop)
  let unverified := cases.foldl (addUncovered reg) []
  return (finditer COURT_CITATION_RES.2 content).foldl (fun unverified m =>
    if m.overlaps caseSpans then unverified else addUncovered reg unverified m) unverified

omit [PackLib] in
def deny (rule reason : String) : PolicyResult :=
  { allowed := false, action := .DENY, triggeredRule := some rule, reason }

/-- `evaluate_outreach`. -/
def evaluateOutreach [Regex] (tm : TenantManager) (remote : String → Except Exn PolicyResult)
    (statutes verifiedCases : RegistryFile) (content : String) (tenantId : String := DEFAULT_TENANT_ID)
    (registry caseRegistry : Option (List String) := none) : Except Exn PolicyResult := do
  let unverified ← findUnverifiedCitations content registry statutes
  if unverified ≠ [] then
    .ok (deny "surplus_statute_gate"
      ("Unverified statute citation(s): " ++ ", ".intercalate unverified ++
       ". Only statutes the owner has verified against official Florida " ++
       "sources and entered into packs/verified_statutes.json may appear " ++ "in outreach drafts."))
  else
    let unverifiedCases ← findUnverifiedCaseCitations content caseRegistry verifiedCases
    if unverifiedCases ≠ [] then
      .ok (deny "surplus_court_citation_gate"
        ("Unverified court citation(s): " ++ "; ".intercalate unverifiedCases ++
         ". Only citations the owner has verified against official sources " ++
         "and entered into packs/verified_cases.json may appear in " ++
         "outreach drafts (the Nippon v. OpenAI fabricated-citation class)."))
    else
      match tm.getStrict tenantId with
      | none =>
        .ok (deny "surplus_pack_not_loaded"
          "Surplus-recovery pack not loaded — fail-closed. No ungoverned outreach evaluation.")
      | some ctx => ctx.policyEngine.evaluate remote content

/-! ## What passes the gates -/

/-- The court citations of a draft that are looked up: the case forms, and the reporter citations clear of
them. -/
def checked (content : String) : List Match :=
  let cases := finditer COURT_CITATION_RES.1 content
  cases ++ (finditer COURT_CITATION_RES.2 content).filter fun m =>
    ¬ m.overlaps (cases.map fun m => (m.start, m.stop))

/-- The entry is part of the citation or the citation is part of the entry. -/
def Related (k : String) (m : Match) : Prop :=
  isIn (normalizedKey k) (PackLib.lower m.cite) ∨ isIn (PackLib.lower m.cite) (normalizedKey k)

/-- A citation is covered where an entry relates to it. -/
lemma covered_iff {entries : List String} {m : Match} :
    covered (entries.map normalizedKey) m.cite = true ↔ ∃ k ∈ entries, Related k m := by
  simp [covered, Related]

/-- Turns over matches leave the list empty that was empty, where each is covered. -/
lemma foldl_addUncovered_eq_nil {reg : List String} {ms : List Match} {unverified : List String} :
    ms.foldl (addUncovered reg) unverified = [] ↔
      unverified = [] ∧ ∀ m ∈ ms, covered reg m.cite = true := by
  induction ms generalizing unverified with
  | nil => simp
  | cons m ms ih =>
    rw [List.foldl_cons, ih, List.forall_mem_cons, ← and_assoc]
    refine and_congr_left fun _ => ?_
    unfold addUncovered
    by_cases known : covered reg m.cite = true
    · simp [known]
    · by_cases listed : m.cite ∈ unverified
      · rw [if_neg fun both => both.2 listed]
        simp [known, List.ne_nil_of_mem listed]
      · rw [if_pos ⟨known, listed⟩]
        simp [known]

/-- Nothing is found exactly where an entry relates to every citation that is checked. -/
lemma findUnverifiedCaseCitations_eq_nil {content : String} {registry : Option (List String)}
    {file : RegistryFile} {entries : List String} (loaded : registryOf loadVerifiedCases registry file = .ok entries) :
    findUnverifiedCaseCitations content registry file = .ok [] ↔
      ∀ m ∈ checked content, ∃ k ∈ entries, Related k m := by
  unfold findUnverifiedCaseCitations
  rw [loaded, ok_bind]
  dsimp only
  -- the second loop is the first over the matches it does not skip
  have skips : ∀ (spans : List (ℕ × ℕ)) (reg : List String) (ms : List Match) (unverified : List String),
      ms.foldl (fun unverified m => if m.overlaps spans then unverified else addUncovered reg unverified m)
        unverified = (ms.filter fun m => ¬ m.overlaps spans).foldl (addUncovered reg) unverified := by
    intro spans reg ms unverified
    rw [List.foldl_filter]
    congr 1
    funext u m
    cases m.overlaps spans <;> rfl
  rw [skips]
  simp only [checked, pure, Except.pure, Except.ok.injEq, foldl_addUncovered_eq_nil, true_and,
    List.forall_mem_append, covered_iff]

/-- The reporter citation is one of an entry, as a whole. -/
def Whole (entries : List String) (m : Match) : Prop :=
  ∃ k ∈ entries, ∃ m' ∈ finditer COURT_CITATION_RES.2 k, PackLib.lower m'.cite = PackLib.lower m.cite

/-- The court gate lets pass no reporter citation but whole ones of its entries exactly where the draft has no
other, or something it looks up is related to no entry. -/
theorem courtCitations_whole_iff {content : String} {registry : Option (List String)} {file : RegistryFile}
    {entries : List String} (loaded : registryOf loadVerifiedCases registry file = .ok entries) :
    (findUnverifiedCaseCitations content registry file = .ok [] →
        ∀ m ∈ finditer COURT_CITATION_RES.2 content, Whole entries m) ↔
      (∀ m ∈ finditer COURT_CITATION_RES.2 content, Whole entries m) ∨
        ∃ m ∈ checked content, ∀ k ∈ entries, ¬ Related k m := by
  rw [findUnverifiedCaseCitations_eq_nil loaded]
  constructor
  · intro accepts
    by_cases known : ∀ m ∈ checked content, ∃ k ∈ entries, Related k m
    · exact .inl (accepts known)
    · obtain ⟨m, asked, unrelated⟩ := not_forall₂.1 known
      exact .inr ⟨m, asked, fun k entry related => unrelated ⟨k, entry, related⟩⟩
  · rintro (whole | ⟨m, asked, unrelated⟩) known
    · exact whole
    · obtain ⟨k, entry, related⟩ := known m asked
      exact absurd related (unrelated k entry)

/-- A draft that is allowed has passed both gates, and the engine of the pack's tenant allows it. -/
theorem evaluateOutreach_allowed [Regex] {tm : TenantManager} {remote : String → Except Exn PolicyResult}
    {statutes verifiedCases : RegistryFile} {content tenantId : String}
    {registry caseRegistry : Option (List String)} {d : PolicyResult}
    (decided : evaluateOutreach tm remote statutes verifiedCases content tenantId registry caseRegistry = .ok d)
    (allowed : d.allowed = true) :
    findUnverifiedCitations content registry statutes = .ok [] ∧
      findUnverifiedCaseCitations content caseRegistry verifiedCases = .ok [] ∧
      ∃ ctx, tm.getStrict tenantId = some ctx ∧ ctx.policyEngine.evaluate remote content = .ok d := by
  unfold evaluateOutreach at decided
  cases cited : findUnverifiedCitations content registry statutes with
  | error e =>
    rw [cited] at decided
    cases decided
  | ok unverified =>
    rw [cited, ok_bind] at decided
    by_cases verified : unverified = []
    · rw [if_neg (not_not.2 verified)] at decided
      cases cases : findUnverifiedCaseCitations content caseRegistry verifiedCases with
      | error e =>
        rw [cases] at decided
        cases decided
      | ok unverifiedCases =>
        rw [cases, ok_bind] at decided
        by_cases verifiedToo : unverifiedCases = []
        · rw [if_neg (not_not.2 verifiedToo)] at decided
          rw [verified, verifiedToo]
          cases loaded : tm.getStrict tenantId with
          | none =>
            rw [loaded] at decided
            cases decided
            cases allowed
          | some ctx =>
            rw [loaded] at decided
            exact ⟨rfl, rfl, ctx, rfl, decided⟩
        · rw [if_pos verifiedToo] at decided
          cases decided
          cases allowed
    · rw [if_pos verified] at decided
      cases decided
      cases allowed

end

section Sample

/-- The reporter citations of the sample's texts, none of which holds a case form, and `str.lower` on ASCII. -/
local instance sampleLib : PackLib where
  finditer pattern content :=
    if pattern = COURT_CITATION_RES.2 then
      if content = "See 123 So. 3d 456." then [⟨4, 18, "123 So. 3d 456", ""⟩]
      else if content = "123 So. 3d 456" then [⟨0, 14, "123 So. 3d 456", ""⟩]
      else if content = "See 1 U.S. 12." then [⟨4, 13, "1 U.S. 12", ""⟩]
      else if content = "11 U.S. 123" then [⟨0, 11, "11 U.S. 123", ""⟩]
      else []
    else []
  lower s := .ofList (s.toList.map Char.toLower)

/-- A verified citation is whole, and passes. -/
theorem courtCitations_whole_iff_sample :
    findUnverifiedCaseCitations "See 123 So. 3d 456." (some [ "123 So. 3d 456"]) .unreadable = .ok [] ∧
      ∀ m ∈ finditer COURT_CITATION_RES.2 "See 123 So. 3d 456.", Whole [ "123 So. 3d 456"] m := by
  have passes : findUnverifiedCaseCitations "See 123 So. 3d 456." (some [ "123 So. 3d 456"]) .unreadable =
      .ok [] := by decide +kernel
  have whole : ∀ m ∈ finditer COURT_CITATION_RES.2 "See 123 So. 3d 456.", Whole [ "123 So. 3d 456"] m := by
    intro m mem
    obtain rfl : m = ⟨4, 18, "123 So. 3d 456", ""⟩ := List.mem_singleton.1 mem
    exact ⟨"123 So. 3d 456", .head _, ⟨0, 14, "123 So. 3d 456", ""⟩, .head _, rfl⟩
  exact ⟨passes, (courtCitations_whole_iff rfl).2 (.inl whole) passes⟩

/-- A fragment of a verified citation is no citation of the registry, and passes. -/
theorem fragment_passes :
    findUnverifiedCaseCitations "See 1 U.S. 12." (some [ "11 U.S. 123"]) .unreadable = .ok [] ∧
      ∃ m ∈ finditer COURT_CITATION_RES.2 "See 1 U.S. 12.", ¬ Whole [ "11 U.S. 123"] m := by
  refine ⟨by decide +kernel, ⟨4, 13, "1 U.S. 12", ""⟩, .head _, ?_⟩
  rintro ⟨k, entry, m', mem, same⟩
  obtain rfl : k = "11 U.S. 123" := List.mem_singleton.1 entry
  obtain rfl : m' = ⟨0, 11, "11 U.S. 123", ""⟩ := List.mem_singleton.1 mem
  exact absurd same (by decide +kernel)

end Sample

end Custos.SurplusRecovery
