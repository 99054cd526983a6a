import Workflow.Proofs.Reference.Literals
import Workflow.Proofs.Template.Eclipse

/-!
# Chains with a fallback

A template can print a chain of names through a filter that has a fallback.  The filter puts the
fallback in the place of nothing and leaves a text as it is.  Where the last name leads nowhere,
it passes on a value that does not exist, and the template fails when this is printed.
-/

namespace Workflow

open Value (get?)

namespace Template

/-- A text that stands for itself between single quotes, on one line. -/
def IsLiteral (s : String) : Prop :=
  '\'' ∉ s.toList ∧ '\\' ∉ s.toList ∧ '\n' ∉ s.toList ∧ '\r' ∉ s.toList

instance (s : String) : Decidable (IsLiteral s) :=
  inferInstanceAs (Decidable (_ ∧ _))

/-- A template that prints a chain with a fallback. -/
def fallbackText (root : String) (keys : List String) (fallback : String) : String :=
  "\x7b\x7b " ++ chainText root keys ++ " | default('" ++ fallback ++ "') \x7d\x7d"

/-- A term with a fallback. -/
def Term.orDefault (e : Term) (fallback : String) : Term :=
  .filter (some e) "default" { Call.empty with positional := [.const (.str fallback)] } 1

/-! ## Tokens -/

/-- The characters of the filter behind a chain. -/
def filterChars (fallback : String) : List Char :=
  '|' :: ' ' :: ("default".toList ++ '(' :: '\'' :: (fallback.toList ++ '\'' :: ')' :: ' ' ::
    ['\x7d', '\x7d']))

/-- The tokens of the filter behind a chain. -/
def filterTokens (fallback : String) : List Token :=
  [⟨.mark "|", 1⟩, ⟨.name "default", 1⟩, ⟨.mark "(", 1⟩, ⟨.text fallback, 1⟩, ⟨.mark ")", 1⟩,
    ⟨.printEnd, 1⟩]

theorem toList_fallbackText (root : String) (keys : List String) (fallback : String) :
    (fallbackText root keys fallback).toList = '\x7b' :: '\x7b' :: ' ' ::
      (root.toList ++ (tailChars keys ++ ' ' :: filterChars fallback)) := by
  have front : "\x7b\x7b ".toList = ['\x7b', '\x7b', ' '] := by decide
  have filter : " | default('".toList = ' ' :: '|' :: ' ' :: ("default".toList ++ ['(', '\'']) := by
    decide
  have back : "') \x7d\x7d".toList = ['\'', ')', ' ', '\x7d', '\x7d'] := by decide
  simp only [fallbackText, String.toList_append, front, filter, back, toList_chainText, filterChars,
    List.append_assoc, List.cons_append, List.nil_append]

section Tokens

variable {fuel : Nat} {fallback : String} {cs : List Char}

theorem spanQuoted_of_plain {quote : Char} {body : List Char} (unquoted : quote ∉ body)
    (plain : '\\' ∉ body) (escape : quote ≠ '\\') :
    spanQuoted quote (body ++ quote :: cs) = some (body, cs) := by
  induction body with
  | nil =>
      rw [List.nil_append, spanQuoted, if_pos (beq_self_eq_true quote)]
      rintro c rest rfl
      exact absurd rfl escape
  | cons c rest ih =>
      obtain ⟨other, unquoted⟩ := not_or.mp (List.mem_cons.not.mp unquoted)
      obtain ⟨unlike, plain⟩ := not_or.mp (List.mem_cons.not.mp plain)
      have here : (c == quote) = false := beq_false_of_ne (Ne.symm other)
      have slash : (c == '\\') = false := beq_false_of_ne (Ne.symm unlike)
      rw [List.cons_append, spanQuoted, here, slash, ih unquoted plain]
      · rfl
      · rintro d more rfl
        exact absurd rfl unlike

/-- A text between single quotes is one token. -/
theorem tokensFrom_literal (plain : IsLiteral fallback) {brackets : List Char} :
    tokensFrom (fuel + 1) (.inside true brackets) false 1
        ('\'' :: (fallback.toList ++ '\'' :: cs)) =
      ⟨.text fallback, 1⟩ :: tokensFrom fuel (.inside true brackets) false 1 cs := by
  obtain ⟨unquoted, unescaped, unbroken, -⟩ := plain
  have number := number?_of_ne (by decide : '\'' ≠ '0') (by decide) (by decide)
    (fallback.toList ++ '\'' :: cs)
  have word : isWordChar '\'' = false := by decide +kernel
  have body := @spanQuoted_of_plain cs '\'' _ unquoted unescaped (by decide)
  have value := Reading.unescape_of_not_mem unescaped false (Nat.le_refl _)
  have read : readToken? false ('\'' :: (fallback.toList ++ '\'' :: cs)) =
      some (.text fallback, cs) := by
    simp [readToken?, number, word, body, value]
  have whole : fallback.toList ++ '\'' :: cs = (fallback.toList ++ ['\'']) ++ cs := by simp
  rw [whole] at read ⊢
  exact tokensFrom_token (by decide) (by decide) (by decide) (by simp [unbroken]) read rfl

/-- The tokens of the filter, up to the end of the template. -/
theorem tokensFrom_filter (plain : IsLiteral fallback) (n : Nat) :
    tokensFrom (n + 10) (.inside true []) false 1 (' ' :: filterChars fallback) =
      filterTokens fallback := by
  have pipe (cs : List Char) (k : Nat) : tokensFrom (k + 1) (.inside true []) false 1 ('|' :: cs) =
      ⟨.mark "|", 1⟩ :: tokensFrom k (.inside true []) false 1 cs :=
    tokensFrom_mark (by decide) rfl
  have opened (cs : List Char) (k : Nat) :
      tokensFrom (k + 1) (.inside true []) false 1 ('(' :: cs) =
        ⟨.mark "(", 1⟩ :: tokensFrom k (.inside true [')']) false 1 cs :=
    tokensFrom_mark (by decide) rfl
  have closed (cs : List Char) (k : Nat) :
      tokensFrom (k + 1) (.inside true [')']) false 1 (')' :: cs) =
        ⟨.mark ")", 1⟩ :: tokensFrom k (.inside true []) false 1 cs :=
    tokensFrom_mark (by decide) rfl
  have name : IsName "default" := by decide +kernel
  have finished : tokensFrom (n + 1) .text false 1 [] = [] := tokensFrom_plain List.not_mem_nil
  rw [filterChars, tokensFrom_blank, pipe, tokensFrom_blank,
    tokensFrom_name name ⟨'(', _, rfl, by decide +kernel⟩, opened, tokensFrom_literal plain, closed,
    tokensFrom_blank, tokensFrom_closing, finished]
  rfl

/-- The tokens of a template that prints a chain with a fallback. -/
theorem tokens_fallbackText {root : String} {keys : List String} (first : IsName root)
    (words : ∀ k ∈ keys, IsName k) (plain : IsLiteral fallback) :
    tokens (fallbackText root keys fallback) = ⟨.printBegin, 1⟩ :: ⟨.name root, 1⟩ ::
      (partTokens 1 keys ++ (filterTokens fallback ++ [⟨.eof, 1⟩])) := by
  have chars := toList_fallbackText root keys fallback
  have unreturned : '\r' ∉ (fallbackText root keys fallback).toList := fun mem => by
    have outside : '\r' ∉ root.toList ++ tailChars keys := fun mem => by
      rw [← toList_chainText] at mem
      exact (Reading.chainText_chars first words mem).inside.1 (by decide)
    have inner : '\r' ∉ fallback.toList := plain.2.2.2
    rw [chars, filterChars] at mem
    simp only [List.mem_append, not_or] at outside
    simp [outside, inner] at mem
  have unified := Reading.unifyLineEnds_of_not_mem unreturned
  have long := length_tailChars words
  obtain ⟨n, enough⟩ : ∃ n, 2 * (fallbackText root keys fallback).toList.length + 2 =
      n + 10 + 2 * keys.length + 1 + 1 + 1 := by
    refine ⟨2 * (fallbackText root keys fallback).toList.length - 2 * keys.length - 11, ?_⟩
    rw [chars]
    simp only [filterChars, List.length_append, List.length_cons]
    omega
  have read : tokensFrom (n + 10 + 2 * keys.length + 1 + 1 + 1) .text false 1
      (fallbackText root keys fallback).toList = ⟨.printBegin, 1⟩ :: ⟨.name root, 1⟩ ::
        (partTokens 1 keys ++ filterTokens fallback) := by
    have begun := @tokensFrom_opening (n + 10 + 2 * keys.length + 1 + 1) 1 false
      (root.toList ++ (tailChars keys ++ ' ' :: filterChars fallback)) [] List.not_mem_nil
    have line : 1 + countLines [] = 1 := rfl
    have empty : dataToken 1 [] = [] := rfl
    rw [List.nil_append, ← chars, line, empty, List.nil_append] at begun
    rw [begun, tokensFrom_blank, tokensFrom_name first (tail_ends _ _), tokensFrom_parts words,
      tokensFrom_filter plain]
  have last : (Token.mk .printBegin 1 :: ⟨.name root, 1⟩ ::
      (partTokens 1 keys ++ filterTokens fallback)).getLast? = some ⟨.printEnd, 1⟩ := by
    simp [filterTokens, List.getLast?_cons]
  rw [tokens, unifyLineEnds_eq, unified, enough, read, last]
  simp

end Tokens

/-! ## Reading -/

open Parse

section Filter

variable {fallback : String} {more : List Token}

theorem skipMark_text {m : String} (text : String) (ts : List Token) :
    skipMark m (⟨.text text, 1⟩ :: ts) = .ok (false, ⟨.text text, 1⟩ :: ts) :=
  rfl

/-- The text between the brackets is read as itself. -/
theorem readTerm_literal (n : Nat) :
    readTerm true (n + 13) (⟨.text fallback, 1⟩ :: ⟨.mark ")", 1⟩ :: more) =
      .ok (.const (.str fallback), ⟨.mark ")", 1⟩ :: more) := by
  have texts : readTexts (n + 1) (⟨.mark ")", 1⟩ :: more) = .ok ("", ⟨.mark ")", 1⟩ :: more) := by
    rw [readTexts]
    rfl
  have primary : readPrimary (n + 2) (⟨.text fallback, 1⟩ :: ⟨.mark ")", 1⟩ :: more) =
      .ok (.const (.str fallback), ⟨.mark ")", 1⟩ :: more) := by
    rw [readPrimary]
    refine (ok_bind (current_cons (.text fallback) (by simp) _ _)).trans
      ((ok_bind (skip_cons (.text fallback) (by simp) _ _)).trans ((ok_bind texts).trans ?_))
    rw [String.append_empty]
    rfl
  have unary : readUnary true (n + 1 + 2) (⟨.text fallback, 1⟩ :: ⟨.mark ")", 1⟩ :: more) =
      .ok (.const (.str fallback), ⟨.mark ")", 1⟩ :: more) := by
    have parts (e : Term) : readPostfix (n + 2) e (⟨.mark ")", 1⟩ :: more) =
        .ok (e, ⟨.mark ")", 1⟩ :: more) := by
      rw [readPostfix]
      rfl
    have filters (e : Term) : readFilters (n + 2) e (⟨.mark ")", 1⟩ :: more) =
        .ok (e, ⟨.mark ")", 1⟩ :: more) := by
      rw [readFilters]
      rfl
    rw [readUnary]
    exact (ok_bind (skipMark_text _ _)).trans ((ok_bind (skipMark_text _ _)).trans
      ((ok_bind primary).trans ((ok_bind (parts _)).trans (filters _))))
  have ends : (Token.mk (.mark ")") 1).kind ∈ endings := List.mem_cons_of_mem _ List.mem_cons_self
  exact readTerm_single ends unary (by simp) rfl

/-- The brackets of the filter hold its fallback. -/
theorem readCall_literal (n : Nat) :
    readCall (n + 15) (⟨.mark "(", 1⟩ :: ⟨.text fallback, 1⟩ :: ⟨.mark ")", 1⟩ :: more) =
      .ok ({ Call.empty with positional := [.const (.str fallback)] }, more) := by
  have closed (a : Call Term) :
      readArguments ⟨.mark "(", 1⟩ false a (n + 13) (⟨.mark ")", 1⟩ :: more) = .ok (a, more) := by
    rw [readArguments]
    rfl
  have unlike (m : String) : atMark m (⟨.text fallback, 1⟩ :: ⟨.mark ")", 1⟩ :: more) =
      .ok (false, ⟨.text fallback, 1⟩ :: ⟨.mark ")", 1⟩ :: more) := rfl
  have unnamed : lookMark "=" (⟨.text fallback, 1⟩ :: ⟨.mark ")", 1⟩ :: more) =
      .ok (false, ⟨.text fallback, 1⟩ :: ⟨.mark ")", 1⟩ :: more) := rfl
  have inside : readArguments ⟨.mark "(", 1⟩ true .empty (n + 14)
      (⟨.text fallback, 1⟩ :: ⟨.mark ")", 1⟩ :: more) =
        .ok ({ Call.empty with positional := [.const (.str fallback)] }, more) := by
    rw [readArguments]
    refine (ok_bind (skipMark_text _ _)).trans ((ok_bind (skipMark_text _ _)).trans
      ((ok_bind (unlike "*")).trans ((ok_bind (unlike "**")).trans ?_)))
    refine (ok_bind (current_cons (.text fallback) (by simp) _ _)).trans ((ok_bind unnamed).trans ?_)
    exact (ok_bind (readTerm_literal n)).trans (closed _)
  rw [readCall]
  exact inside

/-- The filter behind a term gives it a fallback. -/
theorem readFilters_literal (n : Nat) (e : Term) :
    readFilters (n + 18) e (filterTokens fallback ++ more) =
      .ok (e.orDefault fallback, ⟨.printEnd, 1⟩ :: more) := by
  have dotted (ts : List Token) : readDotted (n + 16) "default" (⟨.mark "(", 1⟩ :: ts) =
      .ok ("default", ⟨.mark "(", 1⟩ :: ts) := by
    rw [readDotted]
    rfl
  have filter : readFilter (n + 17) (some e) (⟨.name "default", 1⟩ :: ⟨.mark "(", 1⟩ ::
      ⟨.text fallback, 1⟩ :: ⟨.mark ")", 1⟩ :: ⟨.printEnd, 1⟩ :: more) =
        .ok (e.orDefault fallback, ⟨.printEnd, 1⟩ :: more) := by
    have name (ts : List Token) : expectName (⟨.name "default", 1⟩ :: ts) = .ok ("default", ts) :=
      rfl
    have opened (ts : List Token) : atMark "(" (⟨.mark "(", 1⟩ :: ts) =
        .ok (true, ⟨.mark "(", 1⟩ :: ts) := rfl
    rw [readFilter]
    exact (ok_bind (current_cons (.name "default") (by simp) _ _)).trans ((ok_bind (name _)).trans
      ((ok_bind (dotted _)).trans ((ok_bind (opened _)).trans (ok_bind (readCall_literal (n + 1))))))
  have finished (e : Term) : readFilters (n + 17) e (⟨.printEnd, 1⟩ :: more) =
      .ok (e, ⟨.printEnd, 1⟩ :: more) := by
    rw [readFilters]
    rfl
  rw [readFilters]
  exact (ok_bind (current_cons (.mark "|") (by simp) _ _)).trans
    ((ok_bind (skip_cons (.mark "|") (by simp) _ _)).trans ((ok_bind filter).trans (finished _)))

end Filter

section Compiled

variable {root fallback : String} {keys : List String}

theorem readUnary_fallback (free : root ∉ reservedWords) (n : Nat) (more : List Token) :
    readUnary true (n + keys.length + 19)
        (⟨.name root, 1⟩ :: (partTokens 1 keys ++ (filterTokens fallback ++ more))) =
      .ok ((Term.chain root keys).orDefault fallback, ⟨.printEnd, 1⟩ :: more) := by
  have unsigned (m : String) (ts : List Token) : skipMark m (⟨.name root, 1⟩ :: ts) =
      .ok (false, ⟨.name root, 1⟩ :: ts) := rfl
  have parts : readPostfix (n + 17 + keys.length + 1) (.name root)
      (partTokens 1 keys ++ (filterTokens fallback ++ more)) =
        .ok (Term.chain root keys, filterTokens fallback ++ more) := by
    rw [readPostfix_parts, readPostfix]
    rfl
  have filters := @readFilters_literal fallback more (n + keys.length) (Term.chain root keys)
  have deep : n + keys.length + 18 = n + 17 + keys.length + 1 := by omega
  rw [deep] at filters
  rw [show n + keys.length + 19 = n + 17 + keys.length + 1 + 1 by omega, readUnary]
  exact (ok_bind (unsigned "-" _)).trans ((ok_bind (unsigned "+" _)).trans
    ((ok_bind (readPrimary_word free 1 _ _)).trans ((ok_bind parts).trans filters)))

/-- The whole template is one printed term. -/
theorem readStatements_fallback (free : root ∉ reservedWords) (n : Nat) :
    readStatements none (n + keys.length + 31) (⟨.printBegin, 1⟩ :: ⟨.name root, 1⟩ ::
        (partTokens 1 keys ++ (filterTokens fallback ++ [⟨.eof, 1⟩]))) =
      .ok ([.print [(Term.chain root keys).orDefault fallback]], [⟨.eof, 1⟩]) := by
  have term := readTuple_single free (@readUnary_fallback root fallback keys free n [⟨.eof, 1⟩])
  have finished : readStatements none (n + keys.length + 30) [⟨.eof, 1⟩] = .ok ([], [⟨.eof, 1⟩]) := by
    rw [readStatements]
    rfl
  rw [readStatements]
  refine (ok_bind (current_cons .printBegin (by simp) _ _)).trans
    ((ok_bind (skip_cons .printBegin (by simp) _ _)).trans ((ok_bind term).trans ?_))
  exact (ok_bind (current_cons .printEnd (by simp) _ _)).trans
    ((ok_bind (skip_cons .printEnd (by simp) _ _)).trans (ok_bind finished))

/-- The filter of a chain with a fallback is known. -/
theorem checkTerm_fallback (soft : Bool) (n : Nat) :
    checkTerm soft n ((Term.chain root keys).orDefault fallback) = .ok () := by
  cases n with
  | zero => rfl
  | succ n =>
      have known : checkKnown soft "filter" "default" filterNames 1 = .ok () :=
        if_pos (by cases soft <;> decide)
      have call : checkCall soft n
          { Call.empty with positional := [.const (.str fallback)] } = .ok () := by
        cases n with
        | zero => rfl
        | succ n =>
            have literal : checkTerm soft n (.const (.str fallback)) = .ok () := by
              cases n <;> rfl
            have given : [Term.const (.str fallback)].forM (checkTerm soft n) = .ok () :=
              forM_ok (List.forall_mem_singleton.mpr literal)
            rw [checkCall]
            simp only [Call.empty, given]
            rfl
      rw [Term.orDefault, checkTerm, known]
      simp only [Option.map_some, Option.getD_some, checkTerm_chain, call]
      rfl

theorem check_fallback (n : Nat) :
    check n [.print [(Term.chain root keys).orDefault fallback]] = .ok () := by
  cases n with
  | zero => rfl
  | succ n =>
      have sound : checkBody false (n + 1) [.print [(Term.chain root keys).orDefault fallback]] =
          .ok () := by
        rw [checkBody]
        exact forM_ok (List.forall_mem_singleton.mpr
          (forM_ok (List.forall_mem_singleton.mpr (checkTerm_fallback false n))))
      rw [check, sound]
      rfl

variable (first : IsName root) (words : ∀ k ∈ keys, IsName k) (plain : IsLiteral fallback)
  (free : root ∉ reservedWords)
include first words plain free

theorem compile_fallbackText : compile (fallbackText root keys fallback) =
    .ok [.print [(Term.chain root keys).orDefault fallback]] := by
  have body : readStatements none (24 * (tokens (fallbackText root keys fallback)).length + 24)
      (tokens (fallbackText root keys fallback)) =
        .ok ([.print [(Term.chain root keys).orDefault fallback]], [⟨.eof, 1⟩]) := by
    obtain ⟨n, enough⟩ : ∃ n, 24 * (tokens (fallbackText root keys fallback)).length + 24 =
        n + keys.length + 31 := by
      refine ⟨24 * (tokens (fallbackText root keys fallback)).length + 24 - keys.length - 31, ?_⟩
      have long := length_tailTokens 1 keys
      rw [tailTokens_eq, List.length_append, List.length_singleton] at long
      rw [tokens_fallbackText first words plain]
      simp only [List.length_append, List.length_cons]
      omega
    rw [enough, tokens_fallbackText first words plain, readStatements_fallback free]
  have whole : read (fallbackText root keys fallback) =
      .ok [.print [(Term.chain root keys).orDefault fallback]] := by
    simp only [read, StateT.run, body]
    rfl
  rw [compile, whole]
  simp only [bind, Except.bind, check_fallback]

end Compiled

/-! ## Evaluation -/

/-- A value, or a text in the place of nothing. -/
def withFallback (fallback : String) : Value -> Value
  | .null => .str fallback
  | v => v

section Evaluation

variable {s : Surroundings} {e : Term} {depth : Nat} {m m' : Memory} {w : Value}
  {fallback : String}

/-- The filter puts its fallback in the place of nothing, and of nothing else. -/
theorem applyFilter_default (judge : Judge) (escaping : Bool) (n : Nat) (w : Value)
    (m : Memory) : applyFilter judge escaping (n + 1) "default" w ⟨[.str fallback], []⟩ m =
      .ok (m.objects.adopt (withFallback fallback (m.objects.refresh w))).1
        (m.adopt (withFallback fallback (m.objects.refresh w))) := by
  have unstreamed : streamFilters.lookup "default" = none := by decide
  have whole : itemsFilters.contains "default" = false := by decide
  have arguments : currentArguments ⟨[.str fallback], []⟩ m = .ok ⟨[.str fallback], []⟩ m := by
    have held : current (.str fallback) m = .ok (.str fallback) m :=
      congrArg (EStateM.Result.ok · m) (m.objects.refresh_text fallback)
    simp only [currentArguments, List.mapM_cons, List.mapM_nil, bind, EStateM.bind, held, pure,
      EStateM.pure]
  have found (v : Value) : ((textFilter? escaping "default" v ⟨[.str fallback], []⟩).orElse fun _ =>
      (valueFilter? "default" v ⟨[.str fallback], []⟩).orElse fun _ => none) =
        some (.ok (withFallback fallback v)) := by
    cases v <;> rfl
  -- Streams have filters of their own, and those for the ends of a sequence come before this one.
  rw [applyFilter.eq_7 _ _ _ _ _ _ (by decide) (by decide) (by decide) unstreamed]
  simp only [bind, EStateM.bind, arguments, whole, Bool.false_eq_true, if_false]
  split
  · next same => cases same
  · simp only [found, Option.getD_some]
    rfl

/-- A term with a fallback has the value of the term, or its fallback in the place of nothing. -/
theorem gives_orDefault (h : Term.Gives s e depth m m' w) :
    Term.Gives s (e.orDefault fallback) (depth + 4) m
      (m'.adopt (withFallback fallback (m'.objects.refresh w)))
      (m'.objects.adopt (withFallback fallback (m'.objects.refresh w))).1 := by
  rintro (_ | _ | _ | _ | fuel) enough
  all_goals try omega
  have arguments : evalArguments s (fuel + 3)
      { Call.empty with positional := [.const (.str fallback)] } m' = .ok ⟨[.str fallback], []⟩ m' := by
    simp [evalArguments, evalTerms, evalTerm, Call.empty, bind, EStateM.bind, pure, EStateM.pure]
  have known : filterNames.contains "default" = true := by decide
  rw [Term.orDefault, evalTerm]
  simp only [bind, EStateM.bind, h (fuel + 3) (by omega), arguments, known, if_true,
    applyFilter_default]

end Evaluation

/-! ## Keys -/

/-- What a template reads of a mapping in place of a key. -/
def mappingAttributes : List String :=
  commonHidden ++ hiddenNames (.dict []) ++ (Value.dict []).methodNames

theorem methodNames_of_mapping {v : Value} (mapping : v.entries?.isSome) :
    v.methodNames ∈ [(Value.dict []).methodNames, (Value.sealed []).methodNames] := by
  cases v with
  | dict => exact List.mem_cons_self
  | «sealed» => exact List.mem_cons_of_mem _ List.mem_cons_self
  | object mark content => exact methodNames_of_mapping (v := content) mapping
  | _ => cases mapping

section Keys

variable {v : Value} {key : String}

/-- A key that is listed as no attribute is none. -/
theorem attributeOf?_of_key (mapping : v.entries?.isSome) (unlisted : key ∉ mappingAttributes) :
    attributeOf? v key = none := by
  have hidden : ∀ names ∈ hiddenOfMappings, ∀ name ∈ commonHidden ++ names,
      name ∈ mappingAttributes := by decide
  have methods : ∀ names ∈ [(Value.dict []).methodNames, (Value.sealed []).methodNames],
      ∀ name ∈ names, name ∈ mappingAttributes := by decide
  have visible : key ∉ commonHidden ++ hiddenNames v := fun mem =>
    unlisted (hidden _ (hiddenNames_of_mapping mapping) key mem)
  refine (attributeOf?_eq_none_iff mapping).mpr ⟨by simpa [hasHidden] using visible, fun mem => ?_⟩
  exact unlisted (methods _ (methodNames_of_mapping mapping) key mem)

end Keys

end Template

namespace Value

/-- No key of a mapping equals a name, be it a text or markup. -/
def Without (v : Value) (key : String) : Prop :=
  v.entries?.map (lookup? · (.str key)) = some none

variable {v : Value} {key : String}

theorem Without.isSome (h : v.Without key) : v.entries?.isSome := by
  obtain ⟨entries, held, -⟩ := Option.map_eq_some_iff.mp h
  rw [held]
  rfl

theorem same_str (key : String) : same (.str key) (.str key) = true := by
  simp [same, sameMark, equal, mark?, bare, textEq, asText?]

theorem field?_of_lookup? {entries : List (Value × Value)}
    (absent : lookup? entries (.str key) = none) : field? entries key = none := by
  induction entries with
  | nil => rfl
  | cons e rest ih =>
      obtain ⟨k, w⟩ := e
      simp only [lookup?, Option.map_eq_none_iff, List.find?_cons] at absent ih
      split at absent
      · cases absent
      · next unlike =>
          rcases field?_cons k w rest key with ⟨rfl, -⟩ | ⟨-, found⟩
          · rw [same_str] at unlike
            cases unlike
          · rw [found, ih absent]

theorem Without.get? (h : v.Without key) : v.get? key = none := by
  obtain ⟨entries, held, absent⟩ := Option.map_eq_some_iff.mp h
  rw [Value.get?, held]
  exact field?_of_lookup? absent

end Value

namespace Objects

section Marks

variable {o : Objects} {v w : Value} {key : String}

/-- Marks do not change which text a value is equal to. -/
theorem same_markFrom (added : Bool) (v : Value) (n : Nat) (key : String) :
    Value.same (markFrom added v n).1 (.str key) = Value.same v (.str key) := by
  have alike (w : Value) : Value.same w (.str key) = Value.equal w (.str key) := by
    cases w <;> rfl
  have inner (mark : Mark) (w : Value) :
      Value.equal (.object mark w) (.str key) = Value.equal w (.str key) := by
    rw [Value.equal, Value.bare]
    simp
  have sequence (xs : List Value) : Value.equal (.list xs) (.str key) = false ∧
      Value.equal (.tuple xs) (.str key) = false := by
    constructor <;> rw [Value.equal.eq_def] <;> rfl
  have mapping (entries : List (Value × Value)) :
      Value.equal (.dict entries) (.str key) = false := by
    rw [Value.equal.eq_def]
    rfl
  rw [alike, alike]
  cases v with
  | float x =>
      unfold markFrom
      split
      · exact inner _ _
      · rfl
  | set xs => exact inner _ _
  | list xs => exact (inner _ _).trans ((sequence _).1.trans (sequence xs).1.symm)
  | tuple xs => exact (sequence _).2.trans (sequence xs).2.symm
  | dict entries => exact (inner _ _).trans ((mapping _).trans (mapping entries).symm)
  | _ => rfl

theorem lookup?_markEntries {entries : List (Value × Value)} (added : Bool) (n : Nat)
    (absent : Value.lookup? entries (.str key) = none) :
    Value.lookup? (markEntries added entries n).1 (.str key) = none := by
  induction entries generalizing n with
  | nil => rfl
  | cons e rest ih =>
      obtain ⟨k, w⟩ := e
      simp only [markEntries, Value.lookup?, Option.map_eq_none_iff, List.find?_cons,
        same_markFrom] at absent ih ⊢
      split at absent
      · cases absent
      · exact ih _ absent

variable (unused : o.Unused) (marked : o.Marked v w)
include unused marked

/-- A mapping that gets marks for its parts has the keys that it has without them. -/
theorem Marked.without (h : (o.look v).Without key) : (o.look w).Without key := by
  rcases marked.look_of_mapping unused h.isSome with same | ⟨entries, mark, n, bare, held⟩
  · rwa [same]
  · rw [bare] at h
    rw [held]
    exact congrArg some (lookup?_markEntries false n (Option.some.inj h))

theorem Marked.describe (mapping : (o.look v).entries?.isSome) :
    Template.describe (o.look w) = Template.describe (o.look v) := by
  rcases marked.look_of_mapping unused mapping with same | ⟨entries, mark, n, bare, held⟩
  · rw [same]
  · rw [bare, held]
    rfl

end Marks

/-- What keys lead to from a value, each of them by what there is by now. -/
def follow? (o : Objects) (v : Value) : List String -> Option Value
  | [] => some v
  | key :: rest => (get? (o.look v) key).bind fun part => o.follow? part rest

end Objects

namespace Template

/-! ## What is absent -/

theorem subscript_of_without {v : Value} {key : String} (h : v.Without key) :
    ∃ f, Value.subscript v (.str key) = .error f ∧ f.name ∈ ["KeyError", "TypeError"] := by
  obtain ⟨entries, held, none⟩ := Option.map_eq_some_iff.mp h
  have used : Value.presentUse v = .ok () := by cases v <;> first | rfl | cases held
  have known : Value.hashable (.str key) = .ok (.str key) := rfl
  rcases Value.bare_of_entries held with bare | bare | ⟨mark, content, bare⟩
  · refine ⟨.keyAbsent (Value.str key).literal, ?_, List.mem_cons_self⟩
    simp only [Value.subscript, used, bare, known, none, bind, Except.bind]
  · refine ⟨.keyAbsent (Value.str key).literal, ?_, List.mem_cons_self⟩
    simp only [Value.subscript, used, bare, known, none, bind, Except.bind]
  · refine ⟨.notSubscriptable (Value.object mark content).kind, ?_, ?_⟩
    · simp only [Value.subscript, used, bare, bind, Except.bind]
    · exact List.mem_cons_of_mem _ List.mem_cons_self

/-- A mapping without a key has no item under it. -/
theorem itemOf?_of_without {v : Value} {key : String} (h : v.Without key) :
    itemOf? v (.str key) = .ok none := by
  have absent : (Value.str key).asText?.bind (get? v) = none := h.get?
  obtain ⟨f, failed, listed⟩ := subscript_of_without h
  have known : (f.name == "TypeError" || f.name == "KeyError" || f.name == "IndexError") = true := by
    simp only [List.mem_cons, List.not_mem_nil, or_false] at listed
    rcases listed with same | same <;> rw [same] <;> decide
  rw [itemOf?, absent]
  simp only [failed, known, if_true]

theorem partByName_of_without {v : Value} {key : String} (h : v.Without key)
    (unlisted : key ∉ mappingAttributes) : partByName v key = .ok (noPart v key) := by
  have unlike := attributeOf?_of_key h.isSome unlisted
  rw [partByName_of_mapping h.isSome, unlike]
  simp only [itemOf?_of_without h, bind, Except.bind]

theorem kind_of_mapping {v : Value} (mapping : v.entries?.isSome) :
    v.kind ∈ ["dict", "mappingproxy"] := by
  cases v with
  | dict => exact List.mem_cons_self
  | «sealed» => exact List.mem_cons_of_mem _ List.mem_cons_self
  | object mark content => exact kind_of_mapping (v := content) mapping
  | _ => cases mapping

theorem describe_of_mapping {v : Value} (mapping : v.entries?.isSome) :
    describe v = v.kind ++ " object" := by
  have kind : v.bare.kind = v.kind := by cases v <;> rfl
  obtain ⟨entries, held⟩ := Option.isSome_iff_exists.mp mapping
  rw [describe, ← kind]
  rcases Value.bare_of_entries held with bare | bare | ⟨mark, content, bare⟩ <;> rw [bare]

/-- What a template says of a name that is bound nowhere. -/
def unboundHint (name : String) : String :=
  s!"'{name}' is undefined"

/-- What a template says of a key that a mapping lacks. -/
def absentHint (v : Value) (key : String) : String :=
  s!"'{describe v}' has no attribute '{key}'"

theorem describe_chars {v : Value} (mapping : v.entries?.isSome) : (describe v).toList.all
    (fun c => c.toNat < 128 && (Text.isIdentifierPart c || c == ' ')) = true := by
  have plain : ∀ kind ∈ ["dict", "mappingproxy"], (kind ++ " object").toList.all
      (fun c => c.toNat < 128 && (Text.isIdentifierPart c || c == ' ')) = true := by decide +kernel
  rw [describe_of_mapping mapping]
  exact plain _ (kind_of_mapping mapping)

theorem absentHint_eq (v : Value) (key : String) : absentHint v key =
    "'" ++ describe v ++ "'" ++ " has no attribute " ++ ("'" ++ key ++ "'") := by
  have between : "'" ++ " has no attribute " ++ "'" = "' has no attribute '" := by decide
  have split : absentHint v key = "'" ++ describe v ++ "' has no attribute '" ++ key ++ "'" := rfl
  rw [split, ← between]
  simp only [String.append_assoc]

theorem lastQuoted_absentHint {v : Value} {key : String} (mapping : v.entries?.isSome)
    (h : IsName key) : lastQuoted (absentHint v key) = key := by
  have unquoted : '\'' ∉ (describe v).toList := fun mem => by
    have plain := List.all_eq_true.mp (describe_chars mapping) _ mem
    revert plain
    decide +kernel
  rw [absentHint_eq]
  exact lastQuoted_behind unquoted h

theorem unboundHint_eq (name : String) :
    unboundHint name = "'" ++ name ++ "'" ++ " is undefined" := by
  have split : unboundHint name = "'" ++ name ++ "' is undefined" := rfl
  have behind : "'" ++ " is undefined" = "' is undefined" := by decide
  rw [split, ← behind, ← String.append_assoc]

theorem lastQuoted_unboundHint {name : String} (h : IsName name) :
    lastQuoted (unboundHint name) = name := by
  have joined : (String.singleton '\'').intercalate ["", name, " is undefined"] =
      unboundHint name := by
    have mark : String.singleton '\'' = "'" := rfl
    simp only [String.intercalate_cons_cons, String.intercalate_singleton, mark, unboundHint_eq,
      String.empty_append, String.append_assoc]
  have parts := Text.splitAll_joined joined (by
    simp only [List.forall_mem_cons]
    exact ⟨by decide, h.unquoted, by decide, by simp⟩)
  rw [lastQuoted, parts]
  simp [List.zipIdx]

section Chains

variable {o : Objects} {bindings : List (String × Value)} {s : Surroundings} {e : Term}
  {depth : Nat} {m m' : Memory} {v w x : Value} {keys : List String} {key root : String}
  (unused : o.Unused)
include unused

/-- Keys that are no attributes lead a term to what is there by now, but for marks. -/
theorem gives_of_follow? (unlisted : ∀ k ∈ keys, k ∉ mappingAttributes)
    (found : o.follow? v keys = some x) (marked : o.Marked v w) (keeps : m'.Keeps o bindings)
    (h : Term.Gives s e depth m m' w) :
    ∃ u t, o.Marked x u ∧ t.Keeps o bindings ∧
      Term.Gives s (keys.foldl .field e) (depth + keys.length) m t u := by
  induction keys generalizing e depth m' v w with
  | nil =>
      cases found
      exact ⟨w, m', marked, keeps, h⟩
  | cons key rest ih =>
      obtain ⟨first, unlisted⟩ := List.forall_mem_cons.mp unlisted
      obtain ⟨part, present, found⟩ := Option.bind_eq_some_iff.mp found
      have unlike := attributeOf?_of_key (isSome_of_get? present) first
      obtain ⟨u, t, marked, keeps, gives⟩ := gives_of_present unused keeps marked h present unlike
      have deep : depth + (rest.length + 1) = depth + 1 + rest.length := by omega
      rw [List.length_cons, deep]
      exact ih unlisted found marked keeps gives

/-- A key that a mapping lacks leads a term to what does not exist. -/
theorem gives_of_without (unlisted : key ∉ mappingAttributes) (proper : IsName key)
    (absent : (o.look v).Without key) (marked : o.Marked v w) (keeps : m'.Keeps o bindings)
    (h : Term.Gives s e depth m m' w) :
    ∃ t, t.Keeps o bindings ∧ Term.Gives s (.field e key) (depth + 1) m t
      (.undefined (absentHint (o.look v) key) .strict) := by
  have missing := marked.without unused absent
  have hint : noPart (o.look w) key = .undefined (absentHint (o.look v) key) .strict := by
    have owner : Text.quoted (describe (o.look v)) = "'" ++ describe (o.look v) ++ "'" :=
      quoted_plain (describe_chars absent.isSome)
    rw [absentHint_eq, noPart, marked.describe unused absent.isSome, owner, quoted_name proper]
    rfl
  have part := partByName_of_without missing unlisted
  rw [hint, ← keeps.look] at part
  have plain := plain_of_mapping missing.isSome
  exact ⟨_, keeps.adopt _, gives_field h plain part⟩

end Chains

/-- A name that is bound nowhere is a value that does not exist. -/
theorem gives_unbound {o : Objects} {bindings : List (String × Value)} {m : Memory} {root : String}
    (blocks : List Block) (keeps : m.Keeps o bindings) (proper : IsName root)
    (unbound : bindings.lookup root = none) (unknown : root ∉ "dict" :: "self" :: globalNames) :
    Term.Gives (outermost blocks) (.name root) 1 m m (.undefined (unboundHint root) .strict) := by
  rintro (_ | fuel) enough
  · omega
  have nowhere : findName? m root [1, 0] = none := by
    have globals : (m.scopes[1]?).bind (·.lookup root) = none := by rw [keeps.scopes]; rfl
    have own : (m.scopes[0]?).bind (·.lookup root) = none := by rw [keeps.scopes]; exact unbound
    simp only [findName?, globals, own]
  have here : (get : Render Memory) m = .ok m m := rfl
  have hint : unboundHint root = s!"{Text.quoted root} is undefined" := by
    rw [unboundHint_eq, quoted_name proper]
    rfl
  obtain ⟨dict, self, listed⟩ :
      ¬ (root == "dict") = true ∧ ¬ (root == "self") = true ∧
        ¬ globalNames.contains root = true := by
    simpa using unknown
  rw [evalTerm, hint]
  simp only [outermost, Surroundings.lookup, bind, EStateM.bind, here, nowhere, if_neg dict,
    if_neg self, if_neg listed]
  rfl

/-! ## Rendering -/

/-- What a template does for nothing, for a text and for what does not exist. -/
def written (fallback : String) : Value -> Objects -> EStateM.Result Error Objects String
  | .undefined hint _, o => .error (Error.template
      s!"Undefined variable in template: {hint}" none (some (lastQuoted hint))) o
  | .str text, o => .ok text o
  | _, o => .ok fallback o

section Rendered

variable {o : Objects} {values : List (String × Value)} {root fallback : String}
  {keys : List String} (words : ∀ k ∈ keys, IsName k)
include words

theorem depth_le_renderFuel : keys.length + 9 ≤ renderFuel (fallbackText root keys fallback) := by
  have long := length_tailChars words
  rw [renderFuel, ← String.length_toList, toList_fallbackText]
  simp only [List.length_append, List.length_cons]
  omega

variable (first : IsName root) (plain : IsLiteral fallback) (free : root ∉ "self" :: reservedWords)
include first plain free

/-- The value of the chain decides what is written. -/
theorem render_of_gives {w : Value}
    (simple : w = .null ∨ (∃ text, w = .str text) ∨ ∃ hint, w = .undefined hint .strict)
    (given : ∀ bindings m blocks, Starts o values bindings m ->
      (values.lookup root = none -> bindings.lookup root = none) ->
        ∃ t, t.Keeps o bindings ∧
          Term.Gives (outermost blocks) (Term.chain root keys) (keys.length + 1) m t w) :
    ∃ o', o'.changes = o.changes ∧
      render (fallbackText root keys fallback) values o = written fallback w o' := by
  obtain ⟨other, free⟩ := not_or.mp (List.mem_cons.not.mp free)
  have compiled := compile_fallbackText first words plain free
  obtain ⟨bindings, m, begun, unbound, rendered⟩ := render_of_compile compiled values o
  obtain ⟨t, keeps, gives⟩ := given bindings m _ begun (unbound root other)
  have printed := @gives_orDefault _ _ _ _ _ _ fallback gives
  have enough := @depth_le_renderFuel root fallback keys words
  -- None of the three kinds of values can be changed, so each is what it was when it is printed.
  have still : t.objects.refresh w = w := by
    rcases simple with rfl | ⟨text, rfl⟩ | ⟨hint, rfl⟩ <;> unfold Objects.refresh <;>
      split <;> rfl
  rw [still] at printed
  rw [rendered]
  rcases simple with rfl | ⟨text, rfl⟩ | ⟨hint, rfl⟩
  · have text (judge : Judge) (n : Nat) := printed_str fallback judge n (t.adopt (.str fallback))
    rw [evalBody_alone printed text (by omega), String.empty_append]
    exact ⟨_, (keeps.adopt _).changes, rfl⟩
  · have text (judge : Judge) (n : Nat) := printed_str text judge n (t.adopt (.str text))
    rw [evalBody_alone printed text (by omega), String.empty_append]
    exact ⟨_, (keeps.adopt _).changes, rfl⟩
  · have failed : evalBody _ (renderFuel (fallbackText root keys fallback))
        [.print [[].foldl .field ((Term.chain root keys).orDefault fallback)]] "" m = _ :=
      evalBody_of_undefined printed (by simp) rfl (by simp; omega)
    rw [List.foldl_nil] at failed
    rw [failed]
    exact ⟨_, (keeps.adopt _).changes,
      congrArg (EStateM.Result.error · _) (renderError_undefined hint)⟩

variable (unused : o.Unused) (unlisted : ∀ k ∈ keys, k ∉ mappingAttributes)
include unused unlisted

/-- Keys that lead to nothing or to a text lead a template with a fallback there. -/
theorem render_of_follow? {start w : Value} (found : values.lookup root = some start)
    (leads : o.follow? start keys = some w) (simple : w = .null ∨ ∃ text, w = .str text) :
    ∃ o', o'.changes = o.changes ∧
      render (fallbackText root keys fallback) values o = written fallback w o' := by
  obtain ⟨other, -⟩ := not_or.mp (List.mem_cons.not.mp free)
  refine render_of_gives words first plain free (by tauto) fun bindings m blocks begun _ => ?_
  obtain ⟨x, bound, marked⟩ := begun.bound root start other found
  obtain ⟨u, t, same, keeps, gives⟩ := gives_of_follow? unused unlisted leads marked begun.keeps
    (gives_name blocks begun.keeps bound)
  have value : u = w := by rcases simple with rfl | ⟨text, rfl⟩ <;> cases same <;> rfl
  rw [Nat.add_comm, ← value]
  exact ⟨t, keeps, gives⟩

/-- A last key that is absent makes a template with a fallback fail. -/
theorem render_of_without {front : List String} {key : String} {start owner : Value}
    (split : keys = front ++ [key]) (found : values.lookup root = some start)
    (leads : o.follow? start front = some owner) (absent : (o.look owner).Without key) :
    ∃ o', o'.changes = o.changes ∧ render (fallbackText root keys fallback) values o =
      written fallback (.undefined (absentHint (o.look owner) key) .strict) o' := by
  obtain ⟨other, -⟩ := not_or.mp (List.mem_cons.not.mp free)
  have last : key ∈ keys := by simp [split]
  refine render_of_gives words first plain free (by simp) fun bindings m blocks begun _ => ?_
  obtain ⟨x, bound, marked⟩ := begun.bound root start other found
  have before : ∀ k ∈ front, k ∉ mappingAttributes := fun k mem =>
    unlisted k (split ▸ List.mem_append_left _ mem)
  obtain ⟨u, t, same, keeps, gives⟩ := gives_of_follow? unused before leads marked begun.keeps
    (gives_name blocks begun.keeps bound)
  obtain ⟨t, keeps, gives⟩ :=
    gives_of_without unused (unlisted key last) (words key last) absent same keeps gives
  have chain : Term.chain root keys = .field (front.foldl .field (.name root)) key := by
    rw [Term.chain, split, List.foldl_append]
    rfl
  have deep : keys.length + 1 = 1 + front.length + 1 := by
    rw [split, List.length_append, List.length_singleton]
    omega
  rw [chain, deep]
  exact ⟨t, keeps, gives⟩

/--
A template prints a chain with a fallback.  Where the keys lead to nothing, the fallback takes its
place, and a text is printed as it is.  A last key that its mapping lacks has no value, and neither
has a name that is bound nowhere: the template fails and names what is absent.
-/
theorem render_fallbackText :
    (∀ start, values.lookup root = some start -> o.follow? start keys = some .null ->
      ∃ o', o'.changes = o.changes ∧
        render (fallbackText root keys fallback) values o = .ok fallback o') ∧
    (∀ start text, values.lookup root = some start -> o.follow? start keys = some (.str text) ->
      ∃ o', o'.changes = o.changes ∧
        render (fallbackText root keys fallback) values o = .ok text o') ∧
    (∀ start front owner key, keys = front ++ [key] -> values.lookup root = some start ->
      o.follow? start front = some owner -> (o.look owner).Without key ->
      ∃ o', o'.changes = o.changes ∧
        render (fallbackText root keys fallback) values o = .error (Error.template
          s!"Undefined variable in template: {absentHint (o.look owner) key}" none (some key)) o') ∧
    (keys = [] -> values.lookup root = none -> root ∉ "dict" :: globalNames ->
      ∃ o', o'.changes = o.changes ∧
        render (fallbackText root keys fallback) values o = .error (Error.template
          s!"Undefined variable in template: {unboundHint root}" none (some root)) o') := by
  refine ⟨fun start found leads => ?_, fun start text found leads => ?_,
    fun start front owner key split found leads absent => ?_, fun none unbound unknown => ?_⟩
  · exact render_of_follow? words first plain free unused unlisted found leads (.inl rfl)
  · exact render_of_follow? words first plain free unused unlisted found leads (.inr ⟨text, rfl⟩)
  · have last : key ∈ keys := by simp [split]
    have failed := render_of_without words first plain free unused unlisted split found leads absent
    simp only [written, lastQuoted_absentHint absent.isSome (words key last)] at failed
    exact failed
  · have failed : ∃ o', o'.changes = o.changes ∧ render (fallbackText root keys fallback) values o =
        written fallback (.undefined (unboundHint root) .strict) o' := by
      obtain ⟨other, -⟩ := not_or.mp (List.mem_cons.not.mp free)
      refine render_of_gives words first plain free (by simp) fun bindings m blocks begun bare => ?_
      subst none
      exact ⟨m, begun.keeps, gives_unbound blocks begun.keeps first (bare unbound) (by simp_all)⟩
    simp only [written, lastQuoted_unboundHint first] at failed
    exact failed

end Rendered

/-- Inputs with a text, nothing and a mapping without keys. -/
def visitor : Value :=
  .record [("name", .str "Ada"), ("nick", .null), ("home", .record [])]

theorem names_visitor : (IsName "inputs" ∧ "inputs" ∉ "self" :: reservedWords) ∧
    (∀ k ∈ ["name", "nick", "home", "city"], IsName k ∧ k ∉ mappingAttributes) ∧
      IsLiteral "n/a" ∧ IsLiteral "(\x7d\x7d)" := by
  decide +kernel

theorem render_fallbackText_visitor :
    (∃ o, render "\x7b\x7b inputs.nick | default('(\x7d\x7d)') \x7d\x7d"
      [("inputs", visitor)] .empty = .ok "(\x7d\x7d)" o) ∧
    (∃ o, render "\x7b\x7b inputs.name | default('n/a') \x7d\x7d"
      [("inputs", visitor)] .empty = .ok "Ada" o) ∧
    (∃ o, render "\x7b\x7b inputs.home.city | default('n/a') \x7d\x7d"
      [("inputs", visitor)] .empty = .error (Error.template
        "Undefined variable in template: 'dict object' has no attribute 'city'" none
          (some "city")) o) ∧
    ∃ o, render "\x7b\x7b inputs | default('n/a') \x7d\x7d" [] .empty = .error (Error.template
      "Undefined variable in template: 'inputs' is undefined" none (some "inputs")) o := by
  have unused : Objects.empty.Unused := fun _ _ => rfl
  obtain ⟨⟨first, free⟩, names, plain, braces⟩ := names_visitor
  have proper (keys : List String) (among : ∀ k ∈ keys, k ∈ ["name", "nick", "home", "city"]) :
      (∀ k ∈ keys, IsName k) ∧ ∀ k ∈ keys, k ∉ mappingAttributes :=
    ⟨fun k mem => (names k (among k mem)).1, fun k mem => (names k (among k mem)).2⟩
  have bound : [("inputs", visitor)].lookup "inputs" = some visitor := rfl
  refine ⟨?_, ?_, ?_, ?_⟩
  · obtain ⟨words, unlisted⟩ := proper ["nick"] (by decide)
    obtain ⟨o, -, rendered⟩ :=
      (render_fallbackText words first braces free unused unlisted).1 visitor bound rfl
    exact ⟨o, rendered⟩
  · obtain ⟨words, unlisted⟩ := proper ["name"] (by decide)
    obtain ⟨o, -, rendered⟩ :=
      (render_fallbackText words first plain free unused unlisted).2.1 visitor "Ada" bound rfl
    exact ⟨o, rendered⟩
  · obtain ⟨words, unlisted⟩ := proper ["home", "city"] (by decide)
    have leads : Objects.empty.follow? visitor ["home"] = some (.record []) := rfl
    have absent : Value.Without (Objects.empty.look (.record [])) "city" := rfl
    have hint : absentHint (Objects.empty.look (.record [])) "city" =
        "'dict object' has no attribute 'city'" := by decide
    obtain ⟨o, -, rendered⟩ := (render_fallbackText words first plain free unused unlisted).2.2.1
      visitor ["home"] (.record []) "city" rfl bound leads absent
    rw [hint] at rendered
    exact ⟨o, rendered⟩
  · obtain ⟨words, unlisted⟩ := proper [] (by simp)
    obtain ⟨o, -, rendered⟩ := (render_fallbackText words first plain free unused unlisted).2.2.2
      rfl (@rfl _ ([].lookup "inputs")) (by decide)
    exact ⟨o, rendered⟩

/-- The inputs lack a key, and the template does not give its fallback for it. -/
theorem render_absent_ne :
    (IsName "x" ∧ "x" ∉ mappingAttributes ∧ IsLiteral "n/a") ∧
      Value.Without (Objects.empty.look (.record [])) "x" ∧
    ∀ o', render "\x7b\x7b inputs.x | default('n/a') \x7d\x7d" [("inputs", .record [])] .empty ≠
      .ok "n/a" o' := by
  have unused : Objects.empty.Unused := fun _ _ => rfl
  obtain ⟨⟨first, free⟩, -, plain, -⟩ := names_visitor
  have proper : IsName "x" := by decide +kernel
  have unlisted : "x" ∉ mappingAttributes := by decide +kernel
  have source : fallbackText "inputs" ["x"] "n/a" =
      "\x7b\x7b inputs.x | default('n/a') \x7d\x7d" := by decide
  have bound : [("inputs", Value.record [])].lookup "inputs" = some (.record []) := rfl
  have leads : Objects.empty.follow? (.record []) [] = some (.record []) := rfl
  have absent : Value.Without (Objects.empty.look (.record [])) "x" := rfl
  obtain ⟨o, -, rendered⟩ := render_of_without (List.forall_mem_singleton.mpr proper) first plain
    free unused (List.forall_mem_singleton.mpr unlisted) rfl bound leads absent
  refine ⟨⟨proper, unlisted, plain⟩, absent, fun o' same => ?_⟩
  rw [source] at rendered
  cases same.symm.trans rendered

end Template

end Workflow
