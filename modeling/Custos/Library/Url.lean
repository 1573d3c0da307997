import Custos.Library.Text
import Mathlib.Data.List.TakeWhile
import Mathlib.Data.Nat.Digits.Defs

/-!
# Reading a URL

A URL is cleaned of what no URL holds, and taken apart at its delimiters: scheme, network location, path,
parameters of the last path segment, query, fragment. The network location holds a host and maybe a port.
Taking apart never fails; a reader that refuses malformed locations makes its checks on the parts.
A URL assembled from parts that do not hold each other's delimiters is taken apart to these parts
(`split_assemble`).
-/

namespace Custos

namespace Url

/-- A URL in parts. -/
structure Parts where
  scheme : List Char
  netloc : List Char
  path : List Char
  params : List Char
  query : List Char
  fragment : List Char
  deriving DecidableEq

/-- What stands before a character and behind it; all of it, and nothing. -/
def partition (d : Char) (cs : List Char) : List Char × List Char := (cutFirst [d] cs).getD (cs, [])

/-- The characters that are taken out of a URL wherever they stand. -/
def unsafeChars : List Char := ['\t', '\r', '\n']

/-- The URL without control characters and blanks in front, and without line breaks and tabs. -/
def clean (url : List Char) : List Char :=
  (url.dropWhile fun c => c.toNat ≤ 0x20).filter (· ∉ unsafeChars)

/-- A character of a scheme. -/
def isSchemeChar (c : Char) : Bool := c.isAlphanum || c = '+' || c = '-' || c = '.'

/-- The scheme, if the URL starts with one. -/
def cutScheme (url : List Char) : List Char × List Char :=
  match cutFirst [':'] url with
  | some (scheme, rest) =>
    if scheme.head?.any Char.isAlpha ∧ scheme.all isSchemeChar then (scheme.map Char.toLower, rest)
    else ([], url)
  | none => ([], url)

/-- A character that ends the network location. -/
def isDelimiter (c : Char) : Bool := c = '/' || c = '?' || c = '#'

/-- The network location, if there is one. -/
def cutNetloc : List Char → List Char × List Char
  | '/' :: '/' :: rest => (rest.takeWhile fun c => ¬ isDelimiter c, rest.dropWhile fun c => ¬ isDelimiter c)
  | url => ([], url)

/-- The schemes whose paths have parameters. -/
def usesParams : List String :=
  ["", "ftp", "hdl", "prospero", "http", "imap", "https", "shttp", "rtsp", "rtsps", "rtspu", "sip", "sips",
   "mms", "sftp", "tel"]

/-- The path, and the parameters of its last segment. -/
def cutParams (path : List Char) : List Char × List Char :=
  match cutLast '/' path with
  | some (front, last) =>
    let (last, params) := partition ';' last
    (front ++ '/' :: last, params)
  | none => partition ';' path

/-- The parts of a URL. -/
def split (url : List Char) : Parts :=
  let (scheme, rest) := cutScheme (clean url)
  let (netloc, rest) := cutNetloc rest
  let (rest, fragment) := partition '#' rest
  let (path, query) := partition '?' rest
  let (path, params) := if .ofList scheme ∈ usesParams then cutParams path else (path, [])
  ⟨scheme, netloc, path, params, query, fragment⟩

/-- What stands behind the network location of a URL, up to the fragment. -/
def behind (url : List Char) : List Char := (partition '#' (cutNetloc (cutScheme (clean url)).2).2).1

/-- The last segment of a path. -/
def lastSegment (path : List Char) : List Char := (cutLast '/' path).elim path (·.2)

/-- The host and the port of a network location, as they stand there: behind the last `@`, in brackets or not. -/
def hostInfo (netloc : List Char) : List Char × List Char :=
  let hostinfo := (cutLast '@' netloc).elim netloc (·.2)
  match cutFirst ['['] hostinfo with
  | some (_, bracketed) =>
    let (host, port) := partition ']' bracketed
    (host, (partition ':' port).2)
  | none => partition ':' hostinfo

/-- Why a port cannot be read. -/
inductive PortError where
  | noNumber (port : List Char)
  | tooManyDigits (count : Nat)
  | outOfRange

/-- The port as a number. -/
def readPort (port : List Char) : Except PortError (Option Nat) :=
  if port = [] then .ok none
  else if ¬ port.all Char.isDigit then .error (.noNumber port)
  else if 4300 < port.length then .error (.tooManyDigits port.length)
  else if 65535 < Nat.ofDigitChars 10 port 0 then .error .outOfRange
  else .ok (some (Nat.ofDigitChars 10 port 0))

/-- A port in a URL. -/
def portText : Option Nat → List Char
  | some port => ':' :: Nat.toDigits 10 port
  | none => []

/-- A host in a URL: in brackets if it holds a colon. -/
def hostText (host : List Char) : List Char := if ':' ∈ host then '[' :: host ++ [']'] else host

/-- A query in a URL. -/
def queryText (query : List Char) : List Char := if query = [] then [] else '?' :: query

/-- Path and query tell all that stands behind a location: nothing is split off the last segment of the path, and
a question mark has a query behind it. -/
structure Rejoins (rest : List Char) : Prop where
  segment : ';' ∉ lastSegment (partition '?' rest).1
  query : '?' ∈ rest → (partition '?' rest).2 ≠ []

/-! ## Cutting -/

section Cutting

variable {d : Char} {cs a b : List Char}

/-- A text without the delimiter is not parted. -/
lemma partition_of_notMem (no : d ∉ cs) : partition d cs = (cs, []) := by
  unfold partition
  rw [cutFirst_eq_none no]
  rfl

/-- A text is parted at its first delimiter. -/
lemma partition_append (no : d ∉ a) (b : List Char) : partition d (a ++ d :: b) = (a, b) := by
  have cut : cutFirst [d] (a ++ [d] ++ b) = some (a, b) := cutFirst_join no
  rw [List.append_assoc, List.singleton_append] at cut
  unfold partition
  rw [cut]
  rfl

/-- What stands before a character is the text up to the first of it. -/
lemma partition_spec (d : Char) (cs : List Char) :
    d ∉ (partition d cs).1 ∧ (partition d cs).1 <+: cs ∧ ∀ c ∈ (partition d cs).2, c ∈ cs := by
  by_cases mem : d ∈ cs
  · obtain ⟨a, b, rfl, no⟩ := List.eq_append_cons_of_mem mem
    rw [partition_append no]
    exact ⟨no, List.prefix_append _ _, fun c hc => by simp [hc]⟩
  · rw [partition_of_notMem mem]
    exact ⟨mem, List.prefix_rfl, List.forall_mem_nil _⟩

/-- The first part is all where there is no delimiter. -/
lemma partition_fst_eq_iff : (partition d cs).1 = cs ↔ d ∉ cs := by
  constructor
  · intro whole
    rw [← whole]
    exact (partition_spec d cs).1
  · intro no
    rw [partition_of_notMem no]

/-- A text is put together again from what stands before a character and behind it. -/
lemma partition_join (d : Char) (cs : List Char) :
    (partition d cs).1 ++ (if d ∈ cs then d :: (partition d cs).2 else []) = cs := by
  by_cases mem : d ∈ cs
  · obtain ⟨a, b, rfl, no⟩ := List.eq_append_cons_of_mem mem
    rw [partition_append no, if_pos mem]
  · rw [partition_of_notMem mem, if_neg mem, List.append_nil]

/-- A query is cut off where it was put. -/
lemma partition_queryText (no : '?' ∉ cs) (query : List Char) :
    partition '?' (cs ++ queryText query) = (cs, query) := by
  unfold queryText
  split
  · rename_i empty
    rw [List.append_nil, partition_of_notMem no, empty]
  · exact partition_append no query

end Cutting

/-! ## The parts of a URL -/

section Assemble

variable {netloc path query : List Char}

/-- A text with no separator, no blank in front and no unsafe character is clean. -/
lemma clean_of_safe {c : Char} {cs : List Char} (first : 0x20 < c.toNat) (safe : ∀ d ∈ c :: cs, d ∉ unsafeChars) :
    clean (c :: cs) = c :: cs := by
  unfold clean
  rw [List.dropWhile_cons_of_neg (by simpa using first)]
  exact List.filter_eq_self.2 fun d hd => by simpa using safe d hd

/-- The netloc ends at the path. -/
lemma cutNetloc_append (loc : ∀ c ∈ netloc, ¬ isDelimiter c) (absolute : path.head?.any isDelimiter) :
    cutNetloc ("//".toList ++ (netloc ++ path)) = (netloc, path) := by
  have stop : ∀ c ∈ netloc, (decide ¬ isDelimiter c = true) = true := fun c hc => by simpa using loc c hc
  cases path with
  | nil => cases absolute
  | cons c path =>
    have delimiter : isDelimiter c = true := absolute
    show ((netloc ++ c :: path).takeWhile _, (netloc ++ c :: path).dropWhile _) = _
    rw [List.takeWhile_append_of_pos stop, List.dropWhile_append_of_pos stop,
      List.takeWhile_cons_of_neg (by simp [delimiter]), List.dropWhile_cons_of_neg (by simp [delimiter]),
      List.append_nil]

/-- A URL assembled from parts is cut behind its scheme, behind its location, and nowhere behind these. -/
lemma cut_assemble (loc : ∀ c ∈ netloc, ¬ isDelimiter c) (absolute : path.head? = some '/')
    (noFragment : '#' ∉ path ++ query) (safe : ∀ c ∈ netloc ++ path ++ query, c ∉ unsafeChars) :
    cutScheme (clean ("https://".toList ++ (netloc ++ (path ++ queryText query)))) =
        ("https".toList, "//".toList ++ (netloc ++ (path ++ queryText query))) ∧
      cutNetloc ("//".toList ++ (netloc ++ (path ++ queryText query))) = (netloc, path ++ queryText query) ∧
      partition '#' (path ++ queryText query) = (path ++ queryText query, []) := by
  rw [List.mem_append, not_or] at noFragment
  have noFragment' : '#' ∉ path ++ queryText query := by
    unfold queryText
    split <;> simp_all
  have cleaned : clean ("https://".toList ++ (netloc ++ (path ++ queryText query))) =
      "https".toList ++ ':' :: ("//".toList ++ (netloc ++ (path ++ queryText query))) := by
    refine clean_of_safe (by decide) fun d hd => ?_
    have colon : ∀ c ∈ "https://?".toList, c ∉ unsafeChars := forall_mem_of_all (by decide)
    have whole : d ∈ "https://".toList ++ (netloc ++ (path ++ queryText query)) := hd
    have query' : d ∈ queryText query → d = '?' ∨ d ∈ query := by
      unfold queryText
      split
      · exact fun h => absurd h List.not_mem_nil
      · exact List.mem_cons.1
    simp only [List.mem_append] at whole safe
    rcases whole with mem | mem | mem | mem
    · exact colon d (List.mem_append_left ['?'] mem)
    · exact safe d (.inl (.inl mem))
    · exact safe d (.inl (.inr mem))
    · rcases query' mem with rfl | mem
      · exact colon _ (by decide)
      · exact safe d (.inr mem)
  refine ⟨?_, ?_, partition_of_notMem noFragment'⟩
  · have cut : cutFirst [':'] ("https".toList ++ [':'] ++ ("//".toList ++ (netloc ++ (path ++ queryText query)))) =
        some ("https".toList, "//".toList ++ (netloc ++ (path ++ queryText query))) := cutFirst_join (by decide)
    rw [List.append_assoc, List.singleton_append] at cut
    rw [cleaned]
    unfold cutScheme
    rw [cut]
    exact if_pos (by decide)
  · refine cutNetloc_append loc ?_
    cases path with
    | nil => cases absolute
    | cons c path =>
      cases absolute
      rfl

/-- A URL assembled from parts is taken apart to these parts. -/
theorem split_assemble (loc : ∀ c ∈ netloc, ¬ isDelimiter c) (absolute : path.head? = some '/')
    (noQuery : '?' ∉ path) (noFragment : '#' ∉ path ++ query) (whole : cutParams path = (path, []))
    (safe : ∀ c ∈ netloc ++ path ++ query, c ∉ unsafeChars) :
    split ("https://".toList ++ (netloc ++ (path ++ queryText query))) =
      ⟨"https".toList, netloc, path, [], query, []⟩ := by
  obtain ⟨scheme, located, unfragmented⟩ := cut_assemble loc absolute noFragment safe
  unfold split
  rw [scheme]
  dsimp only
  rw [located]
  dsimp only
  rw [unfragmented]
  dsimp only
  rw [partition_queryText noQuery]
  dsimp only
  rw [if_pos (by decide), whole]

/-- Path and query stand behind the location of a URL assembled from parts. -/
lemma behind_assemble (loc : ∀ c ∈ netloc, ¬ isDelimiter c) (absolute : path.head? = some '/')
    (noFragment : '#' ∉ path ++ query) (safe : ∀ c ∈ netloc ++ path ++ query, c ∉ unsafeChars) :
    behind ("https://".toList ++ (netloc ++ (path ++ queryText query))) = path ++ queryText query := by
  obtain ⟨scheme, located, unfragmented⟩ := cut_assemble loc absolute noFragment safe
  unfold behind
  rw [scheme]
  dsimp only
  rw [located]
  dsimp only
  rw [unfragmented]

end Assemble

section Parts

/-- The path has no parameters left. -/
lemma cutParams_idem (path : List Char) : cutParams (cutParams path).1 = ((cutParams path).1, []) := by
  unfold cutParams
  cases cut : cutLast '/' path with
  | none =>
    have spec := partition_spec ';' path
    have no : '/' ∉ (partition ';' path).1 := fun mem => cutLast_eq_none.1 cut (spec.2.1.mem mem)
    dsimp only
    rw [cutLast_eq_none.2 no]
    exact partition_of_notMem spec.1
  | some pair =>
    obtain ⟨front, last⟩ := pair
    have spec := partition_spec ';' last
    have no : '/' ∉ (partition ';' last).1 := fun mem => (cutLast_some cut).2 (spec.2.1.mem mem)
    dsimp only
    rw [cutLast_join no]
    dsimp only
    rw [partition_of_notMem spec.1]

/-- The path is part of the text. -/
lemma mem_of_mem_cutParams {path : List Char} {c : Char} (mem : c ∈ (cutParams path).1) : c ∈ path := by
  unfold cutParams at mem
  cases cut : cutLast '/' path with
  | none =>
    rw [cut] at mem
    exact (partition_spec ';' path).2.1.mem mem
  | some pair =>
    obtain ⟨front, last⟩ := pair
    rw [cut] at mem
    obtain ⟨rfl, -⟩ := cutLast_some cut
    have sub := fun h => (partition_spec ';' last).2.1.mem (a := c) h
    simp only [List.mem_append, List.mem_cons] at mem ⊢
    exact mem.imp_right (Or.imp_right sub)

/-- A path is whole without its parameters if its last segment holds no semicolon. -/
lemma cutParams_fst_eq_iff (path : List Char) : (cutParams path).1 = path ↔ ';' ∉ lastSegment path := by
  unfold cutParams lastSegment
  cases cut : cutLast '/' path with
  | none => exact partition_fst_eq_iff
  | some pair =>
    obtain ⟨front, last⟩ := pair
    obtain ⟨rfl, -⟩ := cutLast_some cut
    dsimp only [Option.elim_some]
    rw [List.append_cancel_left_eq, List.cons.injEq, and_iff_right rfl]
    exact partition_fst_eq_iff

/-- Path and query are put together to the text they were taken from exactly where they tell all of it. -/
theorem rejoin_iff (rest : List Char) :
    (cutParams (partition '?' rest).1).1 ++ queryText (partition '?' rest).2 = rest ↔ Rejoins rest := by
  have noQuery : '?' ∉ (cutParams (partition '?' rest).1).1 := fun mem =>
    (partition_spec '?' rest).1 (mem_of_mem_cutParams mem)
  constructor
  · intro same
    have paths : (cutParams (partition '?' rest).1).1 = (partition '?' rest).1 := by
      conv_rhs => rw [← same, partition_queryText noQuery]
    refine ⟨(cutParams_fst_eq_iff _).1 paths, fun mem empty => noQuery ?_⟩
    rw [empty] at same
    rwa [← same, queryText, if_pos rfl, List.append_nil] at mem
  · rintro ⟨segment, query⟩
    rw [(cutParams_fst_eq_iff _).2 segment]
    have join := partition_join '?' rest
    split at join
    · rename_i mem
      rwa [queryText, if_neg (query mem)]
    · rename_i no
      rw [partition_of_notMem no, queryText, if_pos rfl, List.append_nil]

/-- A path with a slash in front keeps it. -/
lemma head_cutParams {path : List Char} (head : path.head? = some '/') : (cutParams path).1.head? = some '/' := by
  unfold cutParams
  cases cut : cutLast '/' path with
  | none =>
    refine absurd (List.mem_of_mem_head? ?_) (cutLast_eq_none.1 cut)
    rw [head]
    rfl
  | some pair =>
    obtain ⟨front, last⟩ := pair
    obtain ⟨rfl, -⟩ := cutLast_some cut
    cases front with
    | nil => rfl
    | cons c front => exact head

lemma mem_of_mem_cutScheme {url : List Char} {c : Char} (mem : c ∈ (cutScheme url).2) : c ∈ url := by
  unfold cutScheme at mem
  cases cut : cutFirst [':'] url with
  | none =>
    rw [cut] at mem
    exact mem
  | some pair =>
    obtain ⟨scheme, rest⟩ := pair
    rw [cut] at mem
    dsimp only at mem
    split at mem
    · rw [cutFirst_some cut]
      simp [mem]
    · exact mem

/-- The netloc has no delimiter in it, and what is behind it begins with one. -/
lemma cutNetloc_spec (url : List Char) :
    (∀ c ∈ (cutNetloc url).1, ¬ isDelimiter c ∧ c ∈ url) ∧ (∀ c ∈ (cutNetloc url).2, c ∈ url) ∧
      ((cutNetloc url).1 ≠ [] → (cutNetloc url).2 = [] ∨ (cutNetloc url).2.head?.any isDelimiter) := by
  unfold cutNetloc
  split
  · rename_i rest
    refine ⟨fun c hc => ⟨by simpa using List.mem_takeWhile_imp hc, ?_⟩, fun c hc => ?_, fun _ => ?_⟩
    · exact .tail _ (.tail _ ((List.takeWhile_sublist _).mem hc))
    · exact .tail _ (.tail _ ((List.dropWhile_sublist _).mem hc))
    · cases left : rest.dropWhile fun c => ¬ isDelimiter c with
      | nil => exact .inl rfl
      | cons c cs =>
        have := List.head?_dropWhile_not (fun c => decide ¬ isDelimiter c) rest
        rw [left] at this
        exact .inr (by simpa using this)
  · exact ⟨List.forall_mem_nil _, fun _ hc => hc, fun ne => absurd rfl ne⟩

/-- What stands behind a location starts with a slash, or its path is empty. -/
lemma head_behind {url : List Char} (located : (split url).netloc ≠ []) :
    (partition '?' (behind url)).1 = [] ∨ (partition '?' (behind url)).1.head? = some '/' := by
  obtain ⟨-, -, stop⟩ := cutNetloc_spec (cutScheme (clean url)).2
  specialize stop located
  obtain ⟨noFragment, front, -⟩ := partition_spec '#' (cutNetloc (cutScheme (clean url)).2).2
  obtain ⟨noQuery, front', -⟩ := partition_spec '?' (behind url)
  have prefix_ := front'.trans front
  have noFragment' := fun h => noFragment (front'.mem h)
  generalize (partition '?' (behind url)).1 = path at prefix_ noQuery noFragment' ⊢
  cases path with
  | nil => exact .inl rfl
  | cons c path =>
    obtain ⟨more, rest⟩ := prefix_
    rw [← rest] at stop
    have delimiter : isDelimiter c = true := stop.resolve_left (List.cons_ne_nil _ _)
    unfold isDelimiter at delimiter
    simp only [Bool.or_eq_true, decide_eq_true_eq] at delimiter
    rcases delimiter with (rfl | rfl) | rfl
    · exact .inr rfl
    · exact absurd (.head _) noQuery
    · exact absurd (.head _) noFragment'

/-- The text of a query begins with no slash. -/
lemma head_queryText (query : List Char) : (queryText query).head? ≠ some '/' := by
  unfold queryText
  split <;> simp

/-- The text put together from path and query starts with a slash where the text they were taken from does. -/
lemma head_rejoin {rest : List Char} (absolute : (partition '?' rest).1 = [] ∨
    (partition '?' rest).1.head? = some '/') :
    ((cutParams (partition '?' rest).1).1 ++ queryText (partition '?' rest).2).head? = some '/' ↔
      rest.head? = some '/' := by
  have join := partition_join '?' rest
  generalize (partition '?' rest).1 = path at absolute join ⊢
  generalize (partition '?' rest).2 = query at join ⊢
  rcases absolute with rfl | head
  · have empty : (cutParams []).1 = [] := rfl
    rw [empty, List.nil_append]
    refine iff_of_false (head_queryText query) ?_
    rw [← join, List.nil_append]
    split <;> simp
  · refine iff_of_true ?_ ?_
    · rw [List.head?_append, head_cutParams head]
      rfl
    · rw [← join, List.head?_append, head]
      rfl

/-- Path and query of a URL are taken from what stands behind its location. -/
lemma split_behind {url : List Char} (scheme : (split url).scheme = "https".toList) :
    (split url).path = (cutParams (partition '?' (behind url)).1).1 ∧
      (split url).query = (partition '?' (behind url)).2 := by
  refine ⟨?_, rfl⟩
  unfold split at scheme ⊢
  dsimp only at scheme ⊢
  rw [scheme, if_pos (by decide)]
  rfl

/-- What holds of the parts of every URL with the scheme `https` and a network location. -/
structure WellFormed (p : Parts) : Prop where
  netloc : ∀ c ∈ p.netloc, ¬ isDelimiter c
  path : p.path = [] ∨ p.path.head? = some '/'
  noQuery : '?' ∉ p.path
  noFragment : '#' ∉ p.path ++ p.query
  whole : cutParams p.path = (p.path, [])
  safe : ∀ c ∈ p.netloc ++ p.path ++ p.query, c ∉ unsafeChars

/-- The parts of a URL over TLS with a host are well formed. -/
lemma split_wellFormed {url : List Char} (scheme : (split url).scheme = "https".toList)
    (located : (split url).netloc ≠ []) : WellFormed (split url) := by
  have safe : ∀ c ∈ (cutScheme (clean url)).2, c ∉ unsafeChars := fun c hc => by
    have := (List.mem_filter.1 (mem_of_mem_cutScheme hc)).2
    simpa using this
  have head := head_behind located
  obtain ⟨loc, sub, -⟩ := cutNetloc_spec (cutScheme (clean url)).2
  obtain ⟨noFragment, front, -⟩ := partition_spec '#' (cutNetloc (cutScheme (clean url)).2).2
  obtain ⟨noQuery, front', sub'⟩ := partition_spec '?' (behind url)
  have kept : ∀ c ∈ (cutParams (partition '?' (behind url)).1).1, c ∈ behind url :=
    fun c hc => front'.mem (mem_of_mem_cutParams hc)
  obtain ⟨path, query⟩ := split_behind scheme
  have netloc : (split url).netloc = (cutNetloc (cutScheme (clean url)).2).1 := rfl
  refine ⟨fun c hc => (loc c hc).1, ?_, ?_, ?_, ?_, ?_⟩
  · rw [path]
    refine head.imp (fun empty => ?_) head_cutParams
    rw [empty]
    rfl
  · rw [path]
    exact fun h => noQuery (mem_of_mem_cutParams h)
  · rw [path, query]
    exact fun h => (List.mem_append.1 h).elim (fun h => noFragment (kept _ h)) fun h => noFragment (sub' _ h)
  · rw [path]
    exact cutParams_idem _
  · intro c hc
    rw [netloc, path, query] at hc
    simp only [List.mem_append] at hc
    rcases hc with (hc | hc) | hc
    · exact safe c (loc c hc).2
    · exact safe c (sub c (front.mem (kept c hc)))
    · exact safe c (sub c (front.mem (sub' c hc)))

end Parts

/-! ## Host and port -/

section Host

variable {host netloc : List Char} {port : Option Nat}

/-- The host of a network location. -/
lemma hostInfo_spec (netloc : List Char) :
    (∀ c ∈ (hostInfo netloc).1, c ∈ netloc ∧ c ≠ '@') ∧
      (':' ∈ (hostInfo netloc).1 → ']' ∉ (hostInfo netloc).1) := by
  have behind : ∀ c ∈ (cutLast '@' netloc).elim netloc (·.2), c ∈ netloc ∧ c ≠ '@' := by
    cases cut : cutLast '@' netloc with
    | none => exact fun c hc => ⟨hc, fun h => cutLast_eq_none.1 cut (h ▸ hc)⟩
    | some pair =>
      obtain ⟨userinfo, rest⟩ := pair
      obtain ⟨rfl, no⟩ := cutLast_some cut
      exact fun c hc => ⟨by simp [show c ∈ rest from hc], fun h => no (h ▸ hc)⟩
  unfold hostInfo
  dsimp only
  generalize (cutLast '@' netloc).elim netloc (·.2) = hostinfo at behind ⊢
  cases cut : cutFirst ['['] hostinfo with
  | none =>
    obtain ⟨no, front, -⟩ := partition_spec ':' hostinfo
    exact ⟨fun c hc => behind c (front.mem hc), fun colon => absurd colon no⟩
  | some pair =>
    obtain ⟨before, bracketed⟩ := pair
    obtain ⟨no, front, -⟩ := partition_spec ']' bracketed
    refine ⟨fun c hc => behind c ?_, fun _ => no⟩
    rw [cutFirst_some cut]
    simp [front.mem hc]

/-- The text of a port is a colon and digits. -/
lemma notMem_portText (port : Option Nat) {c : Char} (colon : c ≠ ':') (digit : ¬ c.isDigit) :
    c ∉ portText port := by
  cases port with
  | none => exact List.not_mem_nil
  | some port =>
    intro mem
    rcases List.mem_cons.1 mem with rfl | mem
    · exact colon rfl
    · exact digit (Nat.isDigit_of_mem_toDigits (by decide) (by decide) mem)

/-- Host and port are read as they were written. -/
lemma hostInfo_text (noAt : '@' ∉ host) (noClose : ']' ∉ host) (plain : ':' ∉ host → '[' ∉ host) :
    hostInfo (hostText host ++ portText port) = (host, port.elim [] (Nat.toDigits 10)) := by
  have noAt' : '@' ∉ hostText host ++ portText port := by
    have := notMem_portText port (c := '@') (by decide) (by decide)
    unfold hostText
    split <;> simp_all
  have ports : partition ':' (portText port) = ([], port.elim [] (Nat.toDigits 10)) := by
    cases port with
    | none => rfl
    | some port => exact partition_append (a := []) List.not_mem_nil _
  unfold hostInfo
  rw [cutLast_eq_none.2 noAt']
  dsimp only [Option.elim_none]
  by_cases colon : ':' ∈ host
  · have cut : cutFirst ['['] (hostText host ++ portText port) = some ([], host ++ ']' :: portText port) := by
      have : cutFirst ['['] ([] ++ ['['] ++ (host ++ ']' :: portText port)) =
          some ([], host ++ ']' :: portText port) := cutFirst_join List.not_mem_nil
      simpa [hostText, colon] using this
    rw [cut]
    dsimp only
    rw [partition_append noClose]
    dsimp only
    rw [ports]
  · have noOpen : '[' ∉ hostText host ++ portText port := by
      have := notMem_portText port (c := '[') (by decide) (by decide)
      simp [hostText, colon, plain colon, this]
    rw [cutFirst_eq_none noOpen]
    dsimp only
    unfold hostText
    rw [if_neg colon]
    cases port with
    | none => rw [portText, List.append_nil, partition_of_notMem colon]; rfl
    | some port => exact partition_append colon _

/-- A port is read as the number it is. -/
lemma readPort_text (small : ∀ n ∈ port, n ≤ 65535) : readPort (port.elim [] (Nat.toDigits 10)) = .ok port := by
  cases port with
  | none => rfl
  | some n =>
    have bound : n ≤ 65535 := small n rfl
    have short : (Nat.toDigits 10 n).length ≤ 5 := Nat.toDigits_length 10 n 5 (by decide) (by omega)
    have digits : (Nat.toDigits 10 n).all Char.isDigit :=
      List.all_eq_true.2 fun c hc => Nat.isDigit_of_mem_toDigits (by decide) (by decide) hc
    unfold readPort
    rw [Option.elim_some, if_neg Nat.toDigits_ne_nil, if_neg (not_not.2 digits), if_neg (by omega),
      Nat.ofDigitChars_ten_toDigits, if_neg (by omega)]

/-- A port that is read is one. -/
lemma readPort_le {port : List Char} {n : Nat} (read : readPort port = .ok (some n)) : n ≤ 65535 := by
  unfold readPort at read
  split at read
  · cases read
  · split at read
    · cases read
    · split at read
      · cases read
      · split at read
        · cases read
        · rename_i bound
          cases read
          omega

end Host

end Url

end Custos
