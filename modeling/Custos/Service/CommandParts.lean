import Custos.Service.DeploymentBinding

/-!
# What the redaction of a command line hides

A command line is given as it was typed, in parts that say what in them is secret: the value of a
secret-looking flag, the userinfo of a URL. Where every secret is one token, the redaction puts a fingerprint
in the place of each (`redactCommandBy_typed`); of two command lines with different secrets, one of which is
so, the other is redacted to the same text only if it is so too (`TypedAlike.oneToken`).
-/

namespace Custos

/-! ## The command line in parts -/

/-- A part of a command line as it was typed, with quotes if there are any. -/
inductive CommandPart where
  | plain (text : List Char)
  | separate (flag value : List Char)
  | joined (flag value : List Char)
  | url (scheme userinfo host : List Char)

namespace CommandPart

/-- The texts of the part, between blanks. -/
def texts : CommandPart → List (List Char)
  | .plain text => [text]
  | .separate flag value => [flag, value]
  | .joined flag value => [flag ++ '=' :: value]
  | .url scheme userinfo host => [scheme ++ "://".toList ++ userinfo ++ '@' :: host]

/-- The tokens of the part. -/
def tokens (p : CommandPart) : List (List Char) := p.texts.flatMap (words isSpace)

/-- The parts differ in their secret at most. -/
inductive Same : CommandPart → CommandPart → Prop
  | plain (text : List Char) : Same (.plain text) (.plain text)
  | separate (flag value value' : List Char) : Same (.separate flag value) (.separate flag value')
  | joined (flag value value' : List Char) : Same (.joined flag value) (.joined flag value')
  | url (scheme host userinfo userinfo' : List Char) :
      Same (.url scheme userinfo host) (.url scheme userinfo' host)

end CommandPart

/-- The loop of `redact_command` ends in wait of a value. -/
def waits : Bool → List (List Char) → Bool
  | b, [] => b
  | true, _ :: tokens => waits false tokens
  | false, token :: tokens => waits (secretFlag token matches some (_, none)) tokens

namespace CommandPart

/-- A text that begins and ends in no blank. -/
def Trimmed (text : List Char) : Prop :=
  (∀ c ∈ text.head?, ¬ isSpace c) ∧ ∀ c ∈ text.getLast?, ¬ isSpace c

/-- The part is what its constructor says: a flag that looks secret, with its value; a URL with userinfo, in a
text that is no flag; or a text that leaves no flag without its value. -/
inductive Valid : CommandPart → Prop
  | plain {text : List Char} : waits false (words isSpace text) = false → Valid (.plain text)
  | separate {flag value : List Char} : isSecretFlag flag → value ≠ [] → Trimmed value →
      Valid (.separate flag value)
  | joined {flag value : List Char} : isSecretFlag flag → Trimmed value → Valid (.joined flag value)
  | url {scheme userinfo host : List Char} : cutFirst "://".toList (scheme ++ "://".toList) = some (scheme, []) →
      (∀ flag value, cutFirst ['='] scheme = some (flag, value) → ¬ isSecretFlag flag) →
      (∀ c ∈ scheme ++ host, ¬ isSpace c) → Valid (.url scheme userinfo host)

/-- The secret is one token, and stands in no other. -/
def OneToken : CommandPart → Prop
  | .plain _ => True
  | p => p.tokens = p.texts

variable (fp : String → Option String)

/-- What is shown of a host: all of it, or what stands behind the last `@`, and what counts as userinfo. -/
def shownHost (host : List Char) : List Char × List Char :=
  match cutLast '@' host with
  | none => ([], host)
  | some (hidden, shown) => ('@' :: hidden, shown)

/-- The part with the fingerprint of its secret in the secret's place. -/
def shown : CommandPart → List (List Char)
  | .plain text => redactTokens fp false (words isSpace text)
  | .separate flag value => [flag, fpOrEmpty fp value]
  | .joined flag value => [flag ++ '=' :: fpText fp value]
  | .url scheme userinfo host =>
    [scheme ++ "://".toList ++ fpText fp (userinfo ++ (shownHost host).1) ++ '@' :: (shownHost host).2]

end CommandPart

/-! ## Tokens -/

section Tokens

variable {fp : String → Option String} {tokens tokens' : List (List Char)}

/-- The loop goes on with what it waits for. -/
lemma waits_append (b : Bool) (tokens tokens' : List (List Char)) :
    waits b (tokens ++ tokens') = waits (waits b tokens) tokens' := by
  induction tokens generalizing b with
  | nil => cases b <;> rfl
  | cons token tokens ih =>
    cases b with
    | true => exact ih false
    | false => exact ih _

/-- Where no flag waits for its value, the loop starts afresh. -/
lemma redactTokens_append {b : Bool} (done : waits b tokens = false) :
    redactTokens fp b (tokens ++ tokens') = redactTokens fp b tokens ++ redactTokens fp false tokens' := by
  induction tokens generalizing b with
  | nil =>
    cases b with
    | true => cases done
    | false => rfl
  | cons token tokens ih =>
    cases b with
    | true =>
      rw [List.cons_append, redactTokens, redactTokens, ih done]
      rfl
    | false =>
      rw [waits] at done
      rw [List.cons_append, redactTokens, redactTokens]
      split
      · rename_i flag is
        rw [is] at done
        rw [ih done]
        rfl
      · rename_i flag value is
        rw [is] at done
        rw [ih done]
        rfl
      · rename_i is
        rw [is] at done
        rw [ih done]
        rfl

/-- A value that is waited for at the end is written as an empty one. -/
lemma length_redactTokens (b : Bool) (tokens : List (List Char)) :
    (redactTokens fp b tokens).length = tokens.length + if waits b tokens then 1 else 0 := by
  induction tokens generalizing b with
  | nil => cases b <;> rfl
  | cons token tokens ih =>
    cases b with
    | true => rw [redactTokens, waits, List.length_cons, List.length_cons, ih]; omega
    | false =>
      rw [redactTokens, waits]
      split
      · rename_i flag is
        rw [is, List.length_cons, List.length_cons, ih]
        dsimp only
        omega
      · rename_i flag value is
        rw [is, List.length_cons, List.length_cons, ih]
        dsimp only
        omega
      · rename_i is
        rw [is, List.length_cons, List.length_cons, ih]
        dsimp only
        omega

/-- A flag that looks secret has no separator in it. -/
lemma not_mem_of_isSecretFlag {flag : List Char} (is : isSecretFlag flag) : '=' ∉ flag ∧ ':' ∉ flag := by
  unfold isSecretFlag at is
  simp only [Bool.and_eq_true, List.all_eq_true] at is
  exact ⟨fun mem => absurd (is.1.2 _ mem) (by decide), fun mem => absurd (is.1.2 _ mem) (by decide)⟩

lemma secretFlag_separate {flag : List Char} (is : isSecretFlag flag) :
    secretFlag flag = some (flag, none) := by
  unfold secretFlag
  rw [cutFirst_eq_none (not_mem_of_isSecretFlag is).1]
  exact if_pos is

lemma secretFlag_joined {flag : List Char} (is : isSecretFlag flag) (value : List Char) :
    secretFlag (flag ++ '=' :: value) = some (flag, some value) := by
  have cut : cutFirst ['='] (flag ++ ['='] ++ value) = some (flag, value) :=
    cutFirst_join (not_mem_of_isSecretFlag is).1
  rw [List.append_assoc] at cut
  unfold secretFlag
  rw [List.singleton_append] at cut
  rw [cut]
  exact if_pos is

/-- A text with a colon before its `=` is no flag. -/
lemma secretFlag_url {scheme rest : List Char}
    (no : ∀ flag value, cutFirst ['='] scheme = some (flag, value) → ¬ isSecretFlag flag) :
    secretFlag (scheme ++ ':' :: rest) = none := by
  unfold secretFlag
  cases cut : cutFirst ['='] (scheme ++ ':' :: rest) with
  | none =>
    refine if_neg fun is => (not_mem_of_isSecretFlag is).2 ?_
    simp
  | some pair =>
    obtain ⟨flag, value⟩ := pair
    refine if_neg fun is => ?_
    have whole := cutFirst_some cut
    rw [List.append_assoc, List.singleton_append] at whole
    -- the `=` stands in the scheme, where it was looked for, or the flag reaches over the colon
    rcases List.append_eq_append_iff.1 whole with ⟨past, rfl, eq⟩ | ⟨under, rfl, eq⟩
    · cases past with
      | nil => simp at eq
      | cons c past =>
        obtain ⟨rfl, -⟩ := List.cons.inj eq
        exact (not_mem_of_isSecretFlag is).2 (by simp)
    · cases under with
      | nil => simp at eq
      | cons c under =>
        obtain ⟨rfl, -⟩ := List.cons.inj eq
        have cut' : cutFirst ['='] (flag ++ ['='] ++ under) = some (flag, under) :=
          cutFirst_join (not_mem_of_isSecretFlag is).1
        rw [List.append_assoc, List.singleton_append] at cut'
        exact no flag under cut' is

end Tokens

namespace CommandPart

variable {fp : String → Option String}

/-- What is cut off at the last `@` is the userinfo, and what stands before an `@` in the host. -/
lemma cutLast_userinfo (userinfo host : List Char) :
    cutLast '@' (userinfo ++ '@' :: host) =
      some (userinfo ++ (shownHost host).1, (shownHost host).2) := by
  unfold shownHost
  cases cut : cutLast '@' host with
  | none =>
    dsimp only
    rw [List.append_nil]
    exact cutLast_join (cutLast_eq_none.1 cut)
  | some pair =>
    obtain ⟨hidden, shown⟩ := pair
    obtain ⟨rfl, no⟩ := cutLast_some cut
    have := cutLast_join (a := userinfo ++ '@' :: hidden) no
    simpa using this

/-- A URL is shown with a fingerprint for its userinfo, and for what an `@` in its host lets count as such. -/
lemma redactUrlUserinfo_url {scheme userinfo host : List Char}
    (cut : cutFirst "://".toList (scheme ++ "://".toList) = some (scheme, [])) :
    redactUrlUserinfo fp (scheme ++ "://".toList ++ userinfo ++ '@' :: host) =
      scheme ++ "://".toList ++ fpText fp (userinfo ++ (shownHost host).1) ++ '@' :: (shownHost host).2 := by
  have first := cutFirst_append (userinfo ++ '@' :: host) cut
  rw [← List.append_assoc] at first
  unfold redactUrlUserinfo
  rw [first]
  dsimp only
  rw [if_neg (by simp)]
  rw [cutLast_userinfo]
  rfl

variable (fp) in
/-- What the loop makes of a valid part whose secret is one token. -/
lemma redactTokens_part {p : CommandPart} (valid : p.Valid) (one : p.OneToken) :
    waits false p.tokens = false ∧ redactTokens fp false p.tokens = p.shown fp := by
  cases valid with
  | @plain text settles =>
    have tokens : (CommandPart.plain text).tokens = words isSpace text := by
      simp [CommandPart.tokens, texts]
    rw [tokens]
    exact ⟨settles, rfl⟩
  | @separate flag value is _ _ =>
    rw [show (CommandPart.separate flag value).tokens = [flag, value] from one]
    have flag' := secretFlag_separate is
    exact ⟨by simp [waits, flag'], by simp [redactTokens, flag', shown]⟩
  | @joined flag value is _ =>
    rw [show (CommandPart.joined flag value).tokens = [flag ++ '=' :: value] from one]
    have flag' := secretFlag_joined is value
    exact ⟨by simp [waits, flag'], by simp [redactTokens, flag', shown]⟩
  | @url scheme userinfo host cut no _ =>
    rw [show (CommandPart.url scheme userinfo host).tokens =
      [scheme ++ "://".toList ++ userinfo ++ '@' :: host] from one]
    have flag' : secretFlag (scheme ++ "://".toList ++ userinfo ++ '@' :: host) = none := by
      have : secretFlag (scheme ++ ':' :: ("//".toList ++ (userinfo ++ '@' :: host))) = none :=
        secretFlag_url no
      simpa using this
    refine ⟨by simp only [waits, flag'], ?_⟩
    simp only [redactTokens, flag', redactUrlUserinfo_url cut, shown]

end CommandPart

/-! ## The command line -/

/-- The command line was typed in these parts, and then in texts that are nobody's secret. -/
def TypedCommand (parts : List CommandPart) (rest : List (List Char)) (command : String) : Prop :=
  Spaced isSpace (parts.flatMap CommandPart.texts ++ rest) command.toList

section Command

variable {fp : String → Option String} {parts parts' : List CommandPart} {rest : List (List Char)}
  {command command' : String}

/-- The tokens of a command are those of its parts, and of the rest. -/
lemma TypedCommand.words_eq (typed : TypedCommand parts rest command) :
    words isSpace command.toList = parts.flatMap CommandPart.tokens ++ rest.flatMap (words isSpace) := by
  rw [Spaced.words_eq typed, List.flatMap_append, List.flatMap_assoc]
  rfl

variable (fp) in
/-- Parts whose secrets are one token are shown part by part. -/
lemma redactTokens_parts (valid : ∀ p ∈ parts, p.Valid) (one : ∀ p ∈ parts, p.OneToken) :
    waits false (parts.flatMap CommandPart.tokens) = false ∧
      redactTokens fp false (parts.flatMap CommandPart.tokens) =
        parts.flatMap (CommandPart.shown fp) := by
  induction parts with
  | nil => exact ⟨rfl, rfl⟩
  | cons p parts ih =>
    obtain ⟨done, shown⟩ := CommandPart.redactTokens_part fp (valid p (.head _)) (one p (.head _))
    obtain ⟨done', shown'⟩ := ih (fun p hp => valid p (.tail _ hp)) fun p hp => one p (.tail _ hp)
    rw [List.flatMap_cons, List.flatMap_cons, waits_append, done, redactTokens_append done, shown, shown']
    exact ⟨done', rfl⟩

/-- A command is redacted token by token. -/
lemma redactCommandBy_eq (command : String) : redactCommandBy fp command =
    .ofList ([' '].intercalate (redactTokens fp false (words isSpace command.toList))) := by
  unfold redactCommandBy
  split
  · rename_i empty
    rw [empty]
    rfl
  · rfl

/-- The redacted command line is the command line with a fingerprint in the place of each secret. -/
lemma redactCommandBy_typed (typed : TypedCommand parts rest command) (valid : ∀ p ∈ parts, p.Valid)
    (one : ∀ p ∈ parts, p.OneToken) :
    redactCommandBy fp command = .ofList ([' '].intercalate
      (parts.flatMap (CommandPart.shown fp) ++ redactTokens fp false (rest.flatMap (words isSpace)))) := by
  obtain ⟨done, shown⟩ := redactTokens_parts fp valid one
  rw [redactCommandBy_eq, typed.words_eq, redactTokens_append done, shown]

end Command
/-! ## Two command lines -/

/-- Every fingerprint set aside. -/
def setAside : String → Option String := fun _ => some "*"

/-- A fingerprint that is set aside is a star. -/
lemma fpText_setAside {value : List Char} : fpText setAside value = ['*'] := by
  unfold fpText setAside
  decide

/-- Parts that differ in their secret are shown alike. -/
lemma CommandPart.Same.shown {p p' : CommandPart} (same : p.Same p') :
    p.shown setAside = p'.shown setAside := by
  cases same <;> rfl

/-- The code points of the blanks. -/
def spaceCodes : List Nat :=
  [0x9, 0xa, 0xb, 0xc, 0xd, 0x1c, 0x1d, 0x1e, 0x1f, 0x20, 0x85, 0xa0, 0x1680, 0x2028, 0x2029, 0x202f, 0x205f,
    0x3000] ++ List.range' 0x2000 11

/-- The blanks are those of the table. -/
lemma mem_spaceCodes {c : Char} (space : isSpace c) : c.toNat ∈ spaceCodes := by
  unfold isSpace at space
  unfold spaceCodes
  rw [List.mem_append, List.mem_range'_1]
  simp only [Bool.or_eq_true, decide_eq_true_eq, Bool.and_eq_true] at space
  exact space.imp_right fun range => ⟨range.1, by omega⟩

/-- A flag has no blank in it. -/
lemma not_isSpace_of_isSecretFlag {flag : List Char} (is : isSecretFlag flag) :
    flag ≠ [] ∧ ∀ c ∈ flag, ¬ isSpace c := by
  unfold isSecretFlag at is
  simp only [Bool.and_eq_true, List.all_eq_true, Bool.or_eq_true] at is
  refine ⟨fun empty => by simp [empty] at is, fun c mem space => ?_⟩
  have no : ∀ n ∈ spaceCodes, ¬ (((foldCase (Char.ofNat n)).isAlphanum = true ∨
      decide (Char.ofNat n = '_') = true) ∨ decide (Char.ofNat n = '-') = true) := by decide
  refine no _ (mem_spaceCodes space) ?_
  rw [Char.ofNat_toNat]
  exact is.1.2 c mem

namespace CommandPart

variable {p p' : CommandPart}

/-- The texts of a part with a secret are one token each, or more. -/
lemma Valid.texts (valid : p.Valid) : p.OneToken ∨ p.texts.length < p.tokens.length := by
  cases valid with
  | plain _ => exact .inl trivial
  | @separate flag value is ne trimmed =>
    refine flatMap_words fun t (ht : t ∈ [flag, value]) => ?_
    obtain ⟨some_, no⟩ := not_isSpace_of_isSecretFlag is
    simp only [List.mem_cons, List.not_mem_nil, or_false] at ht
    rcases ht with rfl | rfl
    · exact .inl (words_of_no_blank some_ no)
    · exact words_trimmed ne trimmed.1 trimmed.2
  | @joined flag value is trimmed =>
    refine flatMap_words fun t (ht : t ∈ [flag ++ '=' :: value]) => ?_
    obtain ⟨some_, no⟩ := not_isSpace_of_isSecretFlag is
    rw [List.mem_singleton.1 ht]
    refine words_trimmed (by simp) (fun c hc => ?_) fun c hc => ?_
    · rw [List.head?_append_of_ne_nil _ some_] at hc
      exact no c (List.mem_of_mem_head? hc)
    · rw [List.getLast?_append_of_ne_nil _ (List.cons_ne_nil _ _)] at hc
      cases value with
      | nil =>
        cases hc
        decide
      | cons d value => exact trimmed.2 c hc
  | @url scheme userinfo host _ _ no =>
    refine flatMap_words fun t (ht : t ∈ [scheme ++ "://".toList ++ userinfo ++ '@' :: host]) => ?_
    rw [List.mem_singleton.1 ht]
    refine words_trimmed (by simp) (fun c hc => ?_) fun c hc => ?_
    · cases scheme with
      | nil =>
        cases hc
        decide
      | cons d scheme =>
        cases hc
        exact no _ (.head _)
    · rw [List.getLast?_append_of_ne_nil _ (List.cons_ne_nil _ _)] at hc
      cases host with
      | nil =>
        cases hc
        decide
      | cons d host => exact no c (List.mem_append_right _ (List.mem_of_mem_getLast? hc))

/-- A part with a blank in its secret has more tokens. -/
lemma Valid.longer (valid : p.Valid) (one : p'.tokens = p'.texts) (same : p.texts.length = p'.texts.length)
    (whole : p.OneToken → p.tokens = p.texts) :
    p.OneToken ∧ p.tokens.length = p'.tokens.length ∨ p'.tokens.length < p.tokens.length := by
  rw [one, ← same]
  rcases valid.texts with here | more
  · exact .inl ⟨here, by rw [whole here]⟩
  · exact .inr more

/-- Of two parts that differ in their secret, one of them one token, the other has as many tokens or more. -/
lemma Same.length_tokens (same : p.Same p') (valid : p.Valid) (one : p'.OneToken) :
    p.OneToken ∧ p.tokens.length = p'.tokens.length ∨ p'.tokens.length < p.tokens.length := by
  cases same with
  | plain text => exact .inl ⟨trivial, rfl⟩
  | separate flag value value' => exact valid.longer one rfl id
  | joined flag value value' => exact valid.longer one rfl id
  | url scheme host userinfo userinfo' => exact valid.longer one rfl id

end CommandPart

/-- Redaction puts no blank into a token. -/
lemma redactUrlUserinfo_no_blank {t : List Char} (no : t ≠ [] ∧ ' ' ∉ t) :
    redactUrlUserinfo setAside t ≠ [] ∧ ' ' ∉ redactUrlUserinfo setAside t := by
  unfold redactUrlUserinfo
  cases cut : cutFirst "://".toList t with
  | none => exact no
  | some pair =>
    obtain ⟨scheme, rest⟩ := pair
    have whole := cutFirst_some cut
    dsimp only
    split
    · exact no
    · rw [whole] at no
      cases last : cutLast '@' rest with
      | none =>
        rw [Option.getD_none, fpText_setAside]
        simp_all
      | some pair =>
        obtain ⟨userinfo, host⟩ := pair
        rw [(cutLast_some last).1] at no
        rw [Option.getD_some, fpText_setAside]
        simp_all

/-- A flag that is joined to its value is their text. -/
lemma eq_of_secretFlag {token flag value : List Char} (is : secretFlag token = some (flag, some value)) :
    token = flag ++ ['='] ++ value := by
  unfold secretFlag at is
  cases cut : cutFirst ['='] token with
  | none =>
    rw [cut] at is
    dsimp only at is
    split at is <;> cases is
  | some pair =>
    rw [cut] at is
    dsimp only at is
    split at is
    · cases is
      exact cutFirst_some cut
    · cases is

/-- What the redaction writes is not empty, and no blank is in it. -/
lemma of_mem_redactTokens {b : Bool} {tokens : List (List Char)}
    (no : ∀ t ∈ tokens, t ≠ [] ∧ ' ' ∉ t) : ∀ t ∈ redactTokens setAside b tokens, t ≠ [] ∧ ' ' ∉ t := by
  have star : ∀ value, fpOrEmpty setAside value = ['*'] := fun _ => by
    unfold fpOrEmpty setAside
    decide
  induction tokens generalizing b with
  | nil =>
    cases b with
    | false => exact List.forall_mem_nil _
    | true => simp [redactTokens, star]
  | cons token tokens ih =>
    obtain ⟨here, rest⟩ := List.forall_mem_cons.1 no
    cases b with
    | true =>
      rw [redactTokens, List.forall_mem_cons, star]
      exact ⟨by simp, ih rest⟩
    | false =>
      rw [redactTokens]
      split
      · exact List.forall_mem_cons.2 ⟨here, ih rest⟩
      · rename_i flag value is
        rw [eq_of_secretFlag is] at here
        refine List.forall_mem_cons.2 ⟨?_, ih rest⟩
        rw [fpText_setAside]
        simp_all
      · exact List.forall_mem_cons.2 ⟨redactUrlUserinfo_no_blank here, ih rest⟩

/-- Two command lines typed in the same texts, but for the values of their secrets. -/
structure TypedAlike (parts parts' : List CommandPart) (rest : List (List Char)) (command command' : String) :
    Prop where
  typed : TypedCommand parts rest command
  typed' : TypedCommand parts' rest command'
  same : List.Forall₂ CommandPart.Same parts parts'
  valid : ∀ p ∈ parts, p.Valid
  valid' : ∀ p ∈ parts', p.Valid

section Alike

variable {parts parts' : List CommandPart} {rest : List (List Char)} {command command' : String}

/-- Where all secrets are one token, the redacted command lines are the same. -/
lemma TypedAlike.redactCommandBy_eq (alike : TypedAlike parts parts' rest command command')
    (one : ∀ p ∈ parts, p.OneToken) (one' : ∀ p ∈ parts', p.OneToken) :
    redactCommandBy setAside command = redactCommandBy setAside command' := by
  have shown : parts.flatMap (CommandPart.shown setAside) = parts'.flatMap (CommandPart.shown setAside) := by
    have same := alike.same
    clear alike one one'
    induction same with
    | nil => rfl
    | cons same _ ih => rw [List.flatMap_cons, List.flatMap_cons, same.shown, ih]
  rw [redactCommandBy_typed alike.typed alike.valid one, redactCommandBy_typed alike.typed' alike.valid' one',
    shown]

/-- Parts with a blank in some secret have more tokens. -/
lemma length_parts (same : List.Forall₂ CommandPart.Same parts parts') (valid : ∀ p ∈ parts, p.Valid)
    (one' : ∀ p ∈ parts', p.OneToken) :
    (parts'.flatMap CommandPart.tokens).length ≤ (parts.flatMap CommandPart.tokens).length ∧
      ((∀ p ∈ parts, p.OneToken) ∨
        (parts'.flatMap CommandPart.tokens).length < (parts.flatMap CommandPart.tokens).length) := by
  induction same with
  | nil => exact ⟨le_rfl, .inl (List.forall_mem_nil _)⟩
  | cons same _ ih =>
    obtain ⟨valid, valids⟩ := List.forall_mem_cons.1 valid
    obtain ⟨one, ones⟩ := List.forall_mem_cons.1 one'
    obtain ⟨le, all⟩ := ih valids ones
    rw [List.flatMap_cons, List.flatMap_cons, List.length_append, List.length_append, List.forall_mem_cons]
    rcases same.length_tokens valid one with ⟨here, eq⟩ | lt
    · exact ⟨by omega, all.imp (⟨here, ·⟩) fun lt => by omega⟩
    · exact ⟨by omega, .inr (by omega)⟩

/-- Where the redacted command lines are the same and the secrets of one are one token each, those of the other
are. -/
lemma TypedAlike.oneToken (alike : TypedAlike parts parts' rest command command')
    (one' : ∀ p ∈ parts', p.OneToken) (whole : waits false (rest.flatMap (words isSpace)) = false)
    (eq : redactCommandBy setAside command = redactCommandBy setAside command') :
    ∀ p ∈ parts, p.OneToken := by
  have clean : ∀ command : String, ∀ t ∈ words isSpace command.toList, t ≠ [] ∧ ' ' ∉ t :=
    fun command t mem => ⟨(of_mem_wordsFrom (List.forall_mem_nil _) mem).1,
      fun blank => not_blank_of_mem_words mem ' ' blank (by decide)⟩
  have tokens := intercalate_inj (of_mem_redactTokens (clean command)) (of_mem_redactTokens (clean command'))
    (String.ofList_inj.1 (by rwa [Custos.redactCommandBy_eq, Custos.redactCommandBy_eq] at eq))
  have count := congrArg List.length tokens
  have done : waits false (words isSpace command'.toList) = false := by
    rw [alike.typed'.words_eq, waits_append,
      (redactTokens_parts setAside alike.valid' one').1, whole]
  rw [length_redactTokens, length_redactTokens, done, alike.typed.words_eq, alike.typed'.words_eq,
    List.length_append, List.length_append, if_neg Bool.false_ne_true] at count
  refine (length_parts alike.same alike.valid one').2.resolve_right fun lt => ?_
  omega

end Alike

end Custos
