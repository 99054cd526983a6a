import Workflow.Proofs.Reference.Chain
import Workflow.Proofs.Template.Token
import Workflow.Template.Rendering

/-!
# Templates that print chains

A template may be texts with printed chains of names between them.  Where the texts have no
opening brace, its tokens are the texts and the chains between marks, and it is read as one
statement for each of them.
-/

namespace Workflow

open Reference (tokenText)

namespace Template

/-- A printed chain of names, and the text behind it. -/
structure Insertion where
  root : String
  keys : List String
  behind : String

/-- A text that opens no insertion and has one kind of line ends. -/
def IsPlainText (s : String) : Prop :=
  '\x7b' ∉ s.toList ∧ '\r' ∉ s.toList

instance (s : String) : Decidable (IsPlainText s) :=
  inferInstanceAs (Decidable (_ ∧ _))

/-- The chain of an insertion has names only, and its text is plain. -/
structure Insertion.Plain (p : Insertion) : Prop where
  first : IsName p.root
  words : ∀ k ∈ p.keys, IsName k
  behind : IsPlainText p.behind

/-- A text with insertions behind it. -/
def textWith (front : String) (parts : List Insertion) : String :=
  front ++ String.join (parts.map fun p => tokenText (chainText p.root p.keys) ++ p.behind)

/-- The characters of a printed chain behind its opening mark. -/
def chainChars (p : Insertion) : List Char :=
  ' ' :: (p.root.toList ++ tailChars p.keys ++ [' ', '\x7d', '\x7d'])

/-- The characters of a text with insertions behind it. -/
def charsWith (front : List Char) : List Insertion -> List Char
  | [] => front
  | p :: rest => front ++ '\x7b' :: '\x7b' :: (chainChars p ++ charsWith p.behind.toList rest)

theorem toList_textWith (front : String) (parts : List Insertion) :
    (textWith front parts).toList = charsWith front.toList parts := by
  induction parts generalizing front with
  | nil => simp [textWith, charsWith]
  | cons p rest ih =>
      have later := ih p.behind
      have whole : textWith front (p :: rest) =
          front ++ (tokenText (chainText p.root p.keys) ++ textWith p.behind rest) := by
        simp only [textWith, List.map_cons, String.join_cons, String.append_assoc]
      rw [whole, String.toList_append, String.toList_append, later, tokenText, String.toList_append,
        String.toList_append, toList_chainText]
      simp [charsWith, chainChars]

theorem return_notin_charsWith {front : List Char} {parts : List Insertion} (plain : '\r' ∉ front)
    (proper : ∀ p ∈ parts, p.Plain) : '\r' ∉ charsWith front parts := by
  induction parts generalizing front with
  | nil => exact plain
  | cons p rest ih =>
      obtain ⟨proper, later⟩ := List.forall_mem_cons.mp proper
      have chars : '\r' ∉ p.root.toList ++ tailChars p.keys := fun mem => by
        rw [← toList_chainText] at mem
        exact (Reading.chainText_chars proper.first proper.words mem).inside.1 (by decide)
      have behind := ih proper.behind.2 later
      simp only [List.mem_append, not_or] at chars
      simp [charsWith, chainChars, plain, chars, behind]

/-! ## Tokens -/

/-- The tokens of the names of a chain after the first one. -/
def tailTokens (line : Nat) : List String -> List Token
  | [] => [⟨.printEnd, line⟩]
  | k :: rest => ⟨.mark ".", line⟩ :: ⟨.name k, line⟩ :: tailTokens line rest

/-- The tokens of names behind dots. -/
def partTokens (line : Nat) : List String -> List Token
  | [] => []
  | k :: rest => ⟨.mark ".", line⟩ :: ⟨.name k, line⟩ :: partTokens line rest

theorem tailTokens_eq (line : Nat) (keys : List String) :
    tailTokens line keys = partTokens line keys ++ [⟨.printEnd, line⟩] := by
  induction keys with
  | nil => rfl
  | cons k rest ih => simp only [tailTokens, partTokens, ih, List.cons_append]

/-- The tokens of a text with insertions behind it. -/
def tokensWith (line : Nat) (front : List Char) : List Insertion -> List Token
  | [] => dataToken line front
  | p :: rest =>
      let after := line + countLines front
      dataToken line front ++ ⟨.printBegin, after⟩ :: ⟨.name p.root, after⟩ ::
        (tailTokens after p.keys ++ tokensWith after p.behind.toList rest)

theorem opening?_of_ne {c : Char} (h : c ≠ '\x7b') (cs : List Char) :
    opening? (c :: cs) = none := by
  unfold opening?
  split <;> first | rfl | (next same => cases same; exact absurd rfl h)

theorem spanUntil_plain {text : List Char} (plain : '\x7b' ∉ text) (cs : List Char) :
    spanUntil opening? (text ++ cs) =
      (text ++ (spanUntil opening? cs).1, (spanUntil opening? cs).2) := by
  induction text with
  | nil => rfl
  | cons c rest ih =>
      obtain ⟨other, plain⟩ := not_or.mp (List.mem_cons.not.mp plain)
      rw [List.cons_append, spanUntil, opening?_of_ne (Ne.symm other), ih plain]
      rfl

theorem insertionEnd?_of_ne {c : Char} (dash : c ≠ '-') (brace : c ≠ '\x7d') (cs : List Char) :
    insertionEnd? "\x7d\x7d" false (c :: cs) = none := by
  simp [insertionEnd?, after?, List.isPrefixOf, Ne.symm dash, Ne.symm brace]

/-- No number begins with what is no digit. -/
theorem number?_of_ne {c : Char} (zero : c ≠ '0') (digit : ('1' ≤ c && c ≤ '9') = false)
    (decimal : Text.isDecimal c = false) (cs : List Char) :
    readFraction? (c :: cs) = none ∧ readWhole? (c :: cs) = none := by
  constructor
  · simp [readFraction?, spanGrouped, decimal]
  · unfold readWhole?
    split
    · next same => cases same; exact absurd rfl zero
    · next same => cases same; exact absurd rfl zero
    · next same => cases same; rw [digit]; rfl
    · rfl

theorem take_front (front cs : List Char) :
    (front ++ cs).take ((front ++ cs).length - cs.length) = front := by
  simp

theorem length_tailChars {keys : List String} (words : ∀ k ∈ keys, IsName k) :
    2 * keys.length ≤ (tailChars keys).length := by
  induction keys with
  | nil => exact Nat.zero_le _
  | cons k rest ih =>
      obtain ⟨name, words⟩ := List.forall_mem_cons.mp words
      obtain ⟨c, cs, hs, _⟩ := name.nonempty
      have split : tailChars (k :: rest) = '.' :: (k.toList ++ tailChars rest) := rfl
      have later := ih words
      simp only [split, hs, List.length_cons, List.length_append]
      omega

/-- What follows a name of a printed chain is no part of it. -/
theorem tail_ends (keys : List String) (cs : List Char) :
    ∃ c more, tailChars keys ++ ' ' :: cs = c :: more ∧ isWordChar c = false := by
  rcases tailChars_ends keys with none | ⟨more, dotted⟩
  · exact ⟨' ', cs, by rw [none]; rfl, by decide +kernel⟩
  · exact ⟨'.', more ++ ' ' :: cs, by rw [dotted]; rfl, by decide +kernel⟩

section Tokens

variable {fuel line : Nat} {afterDot : Bool} {cs : List Char}

theorem tokensFrom_plain {text : List Char} (plain : '\x7b' ∉ text) :
    tokensFrom (fuel + 1) .text afterDot line text = dataToken line text := by
  have whole := spanUntil_plain plain []
  rw [List.append_nil] at whole
  rw [tokensFrom, whole]
  simp [spanUntil, opening?]

theorem tokensFrom_opening {text : List Char} (plain : '\x7b' ∉ text) :
    tokensFrom (fuel + 1) .text afterDot line (text ++ '\x7b' :: '\x7b' :: ' ' :: cs) =
      dataToken line text ++ ⟨.printBegin, line + countLines text⟩ ::
        tokensFrom fuel (.inside true []) false (line + countLines text) (' ' :: cs) := by
  rw [tokensFrom, spanUntil_plain plain]
  simp [spanUntil, opening?, takeSign, trimmed]

theorem tokensFrom_blank :
    tokensFrom (fuel + 1) (.inside true []) afterDot line (' ' :: cs) =
      tokensFrom fuel (.inside true []) false line cs := by
  have blank : Text.isBlank ' ' = true := by decide
  rw [tokensFrom]
  simp [insertionEnd?_of_ne, blank]

theorem tokensFrom_closing :
    tokensFrom (fuel + 1) (.inside true []) afterDot line ('\x7d' :: '\x7d' :: cs) =
      ⟨.printEnd, line⟩ :: tokensFrom fuel .text false line cs := by
  have ended : insertionEnd? "\x7d\x7d" false ('\x7d' :: '\x7d' :: cs) = some cs := by
    simp [insertionEnd?, after?, List.isPrefixOf, show "\x7d\x7d".length = 2 by decide]
  have gone := take_front ['\x7d', '\x7d'] cs
  have unbroken : countLines ['\x7d', '\x7d'] = 0 := by decide
  rw [tokensFrom]
  simp only [List.isEmpty_nil, Bool.not_true, Bool.false_eq_true, if_false, if_true, ended]
  rw [show '\x7d' :: '\x7d' :: cs = ['\x7d', '\x7d'] ++ cs from rfl, gone, unbroken]
  rfl

/-- The open brackets after a token: only marks open or close them. -/
def TokenKind.bracketsAfter? (kind : TokenKind) (brackets : List Char) : Option (List Char) :=
  match kind with
  | .mark m => Template.bracketsAfter? brackets m
  | _ => some brackets

/-- What begins with neither a blank nor the closing mark begins with a token. -/
theorem tokensFrom_token {front brackets after : List Char} {c : Char} {kind : TokenKind}
    (dash : c ≠ '-') (brace : c ≠ '\x7d') (solid : Text.isBlank c = false)
    (unbroken : '\n' ∉ c :: front)
    (read : readToken? afterDot (c :: (front ++ cs)) = some (kind, cs))
    (opened : kind.bracketsAfter? brackets = some after) :
    tokensFrom (fuel + 1) (.inside true brackets) afterDot line (c :: (front ++ cs)) =
      ⟨kind, line⟩ :: tokensFrom fuel (.inside true after)
        (match kind with | .mark m => m == "." | _ => false) line cs := by
  have gone := take_front (c :: front) cs
  rw [List.cons_append] at gone
  have lines : countLines (c :: front) = 0 := List.count_eq_zero_of_not_mem unbroken
  rw [tokensFrom]
  simp only [if_true, insertionEnd?_of_ne dash brace, ite_self, solid, Bool.false_eq_true,
    if_false, read, gone, lines, Nat.add_zero]
  cases kind with
  | mark m =>
      have brackets : Template.bracketsAfter? brackets m = some after := opened
      simp only [brackets]
  | _ =>
      cases opened
      rfl

/-- Dots, pipes and round brackets are marks of their own. -/
theorem tokensFrom_mark {c : Char} (single : c ∈ ['.', '|', '(', ')'])
    {brackets after : List Char}
    (opened : bracketsAfter? brackets (String.singleton c) = some after) :
    tokensFrom (fuel + 1) (.inside true brackets) false line (c :: cs) =
      ⟨.mark (String.singleton c), line⟩ ::
        tokensFrom fuel (.inside true after) (String.singleton c == ".") line cs := by
  obtain ⟨dash, brace, solid, line, zero, digit, decimal, word, quote⟩ :
      c ≠ '-' ∧ c ≠ '\x7d' ∧ Text.isBlank c = false ∧ '\n' ≠ c ∧ c ≠ '0' ∧
        ('1' ≤ c && c ≤ '9') = false ∧ Text.isDecimal c = false ∧ isWordChar c = false ∧
        (c == '\'' || c == '"') = false := by
    simp only [List.mem_cons, List.not_mem_nil, or_false] at single
    rcases single with rfl | rfl | rfl | rfl <;> decide +kernel
  have number := number?_of_ne zero digit decimal cs
  have found : (marks.find? fun m => m.toList.isPrefixOf (c :: cs)) =
      some (String.singleton c) := by
    simp only [List.mem_cons, List.not_mem_nil, or_false] at single
    rcases single with rfl | rfl | rfl | rfl <;> simp [marks]
  have read : readToken? false (c :: ([] ++ cs)) = some (.mark (String.singleton c), cs) := by
    simp only [List.nil_append, readToken?, number, word, quote, found, Bool.false_eq_true,
      if_false]
    simp
  exact tokensFrom_token dash brace solid (by simpa using line) read opened

theorem tokensFrom_dot :
    tokensFrom (fuel + 1) (.inside true []) false line ('.' :: cs) =
      ⟨.mark ".", line⟩ :: tokensFrom fuel (.inside true []) true line cs :=
  tokensFrom_mark (by decide) rfl

/-- A name up to a dot or a blank is one token. -/
theorem tokensFrom_name {k : String} (name : IsName k)
    (ends : ∃ c more, cs = c :: more ∧ isWordChar c = false) :
    tokensFrom (fuel + 1) (.inside true []) afterDot line (k.toList ++ cs) =
      ⟨.name k, line⟩ :: tokensFrom fuel (.inside true []) false line cs := by
  obtain ⟨c, front, hs, start⟩ := name.nonempty
  have here : c ∈ k.toList := by rw [hs]; exact List.mem_cons_self
  have facts := of_ascii (p := fun c => !Text.isIdentifierStart c || (c != '-' && c != '\x7d' &&
    !Text.isBlank c && c != '0' && !('1' ≤ c && c ≤ '9') && !Text.isDecimal c)) (by decide)
    (name.ascii c here)
  simp only [start, Bool.not_true, Bool.false_or, Bool.and_eq_true, bne_iff_ne, ne_eq,
    Bool.not_eq_true'] at facts
  obtain ⟨⟨⟨⟨⟨dash, brace⟩, solid⟩, zero⟩, digit⟩, decimal⟩ := facts
  have parts : ∀ d ∈ k.toList, isWordChar d = true := fun d hd => by
    simp [isWordChar, name.part hd]
  have unbroken : '\n' ∉ k.toList := fun mem => absurd (name.part mem) (by decide)
  have word : (k.toList ++ cs).takeWhile isWordChar = k.toList := by
    obtain ⟨d, more, rfl, stop⟩ := ends
    simp [List.takeWhile_append_of_pos parts, stop]
  have tail : (k.toList ++ cs).dropWhile isWordChar = cs := by
    obtain ⟨d, more, rfl, stop⟩ := ends
    simp [List.dropWhile_append_of_pos parts, stop]
  have number := number?_of_ne zero digit decimal (front ++ cs)
  have read : readToken? afterDot (k.toList ++ cs) = some (.name k, cs) := by
    have identifier := name.identifier
    rw [hs, List.cons_append] at word tail ⊢
    rw [hs] at identifier
    simp only [readToken?, number, ite_self, parts c here, if_true, word, tail, identifier]
    rw [← hs, String.ofList_toList]
  rw [hs, List.cons_append] at read ⊢
  exact tokensFrom_token dash brace solid (hs ▸ unbroken) read rfl

/-- The tokens behind the first name of a chain, up to the blank behind the chain. -/
theorem tokensFrom_parts {keys : List String} (words : ∀ k ∈ keys, IsName k) (n : Nat) :
    tokensFrom (n + 2 * keys.length) (.inside true []) false line
        (tailChars keys ++ ' ' :: cs) =
      partTokens line keys ++ tokensFrom n (.inside true []) false line (' ' :: cs) := by
  induction keys with
  | nil => rfl
  | cons k rest ih =>
      obtain ⟨name, words⟩ := List.forall_mem_cons.mp words
      have tail : tailChars (k :: rest) ++ ' ' :: cs =
          '.' :: (k.toList ++ (tailChars rest ++ ' ' :: cs)) := by
        simp [tailChars]
      have steps : n + 2 * (k :: rest).length = n + 2 * rest.length + 1 + 1 := by
        rw [List.length_cons]
        omega
      rw [tail, steps, tokensFrom_dot, tokensFrom_name name (tail_ends rest _), ih words]
      rfl

/-- The tokens behind the first name of a chain, and those of the text behind the chain. -/
theorem tokensFrom_tail {keys : List String} (words : ∀ k ∈ keys, IsName k) (n : Nat) :
    tokensFrom (n + 2 * keys.length + 2) (.inside true []) false line
        (tailChars keys ++ ' ' :: '\x7d' :: '\x7d' :: cs) =
      tailTokens line keys ++ tokensFrom n .text false line cs := by
  have parts := @tokensFrom_parts line ('\x7d' :: '\x7d' :: cs) keys words (n + 2)
  rw [Nat.add_right_comm, parts, tokensFrom_blank, tokensFrom_closing, tailTokens_eq,
    List.append_assoc, List.singleton_append]

/-- The tokens of a text with insertions behind it are those of the text and of each insertion. -/
theorem tokensFrom_with {front : List Char} {parts : List Insertion} (plain : '\x7b' ∉ front)
    (proper : ∀ p ∈ parts, p.Plain) (enough : (charsWith front parts).length < fuel) :
    tokensFrom fuel .text afterDot line (charsWith front parts) = tokensWith line front parts := by
  induction parts generalizing fuel line front afterDot with
  | nil =>
      obtain ⟨n, rfl⟩ : ∃ n, fuel = n + 1 := ⟨fuel - 1, by omega⟩
      exact tokensFrom_plain plain
  | cons p rest ih =>
      obtain ⟨proper, later⟩ := List.forall_mem_cons.mp proper
      have long := length_tailChars proper.words
      have whole : charsWith front (p :: rest) = front ++ '\x7b' :: '\x7b' :: ' ' ::
          (p.root.toList ++ (tailChars p.keys ++ ' ' :: '\x7d' :: '\x7d' ::
            charsWith p.behind.toList rest)) := by
        simp [charsWith, chainChars]
      rw [whole] at enough ⊢
      simp only [List.length_append, List.length_cons] at enough
      obtain ⟨n, rfl⟩ : ∃ n, fuel = n + 2 * p.keys.length + 2 + 1 + 1 + 1 :=
        ⟨fuel - (2 * p.keys.length + 5), by omega⟩
      rw [tokensFrom_opening plain, tokensFrom_blank, tokensFrom_name proper.first (tail_ends _ _),
        tokensFrom_tail proper.words, ih proper.behind.1 later (by omega)]
      rfl

end Tokens

/-- The tokens of a template of texts and printed chains. -/
theorem tokens_textWith {front : String} {parts : List Insertion} (plain : IsPlainText front)
    (proper : ∀ p ∈ parts, p.Plain) :
    ∃ line, tokens (textWith front parts) =
      tokensWith 1 front.toList parts ++ [⟨.eof, line⟩] := by
  have unified : unifyLineEnds (textWith front parts).toList = charsWith front.toList parts := by
    rw [unifyLineEnds_eq, toList_textWith]
    exact Reading.unifyLineEnds_of_not_mem (return_notin_charsWith plain.2 proper)
  have read : tokensFrom (2 * (charsWith front.toList parts).length + 2) .text false 1
      (charsWith front.toList parts) = tokensWith 1 front.toList parts :=
    tokensFrom_with plain.1 proper (by omega)
  exact ⟨_, by rw [tokens, unified, read]⟩

/-! ## Reading -/

open Parse

theorem Parse.ok_bind {α β : Type} {p : Parse α} {f : α -> Parse β} {ts us : List Token} {a : α}
    (h : p ts = .ok (a, us)) : (p >>= f) ts = f a us := by
  simp only [bind, StateT.bind, Except.bind, h]

theorem Parse.current_cons (kind : TokenKind) (sound : kind ≠ .fault) (line : Nat)
    (ts : List Token) : current (⟨kind, line⟩ :: ts) = .ok (⟨kind, line⟩, ⟨kind, line⟩ :: ts) := by
  cases kind <;> first | rfl | exact absurd rfl sound

theorem Parse.skip_cons (kind : TokenKind) (open? : kind ≠ .eof) (line : Nat) (ts : List Token) :
    skip (⟨kind, line⟩ :: ts) = .ok ((), ts) := by
  cases kind <;> first | rfl | exact absurd rfl open?

/-- The first name and one part after another. -/
def Term.chain (root : String) (keys : List String) : Term :=
  keys.foldl .field (.name root)

/-- The words that cannot begin a chain. -/
def reservedWords : List String :=
  "not" :: constantWords

section Reading

variable {line : Nat} {more : List Token} {root : String} {keys : List String}

/-- The names behind dots are read as parts, and what follows them as what follows the parts. -/
theorem readPostfix_parts (n : Nat) (e : Term) (ts : List Token) :
    readPostfix (n + keys.length + 1) e (partTokens line keys ++ ts) =
      readPostfix (n + 1) (keys.foldl .field e) ts := by
  induction keys generalizing e with
  | nil => rfl
  | cons k rest ih =>
      have part : readPart (n + rest.length + 1) e
          (⟨.mark ".", line⟩ :: ⟨.name k, line⟩ :: (partTokens line rest ++ ts)) =
            .ok (.field e k, partTokens line rest ++ ts) := by
        rw [readPart]
        rfl
      rw [List.length_cons, ← Nat.add_assoc, readPostfix]
      exact (ok_bind part).trans (ih (.field e k))

theorem readPostfix_tail (n : Nat) (e : Term) :
    readPostfix (n + keys.length + 1) e (tailTokens line keys ++ more) =
      .ok (keys.foldl .field e, ⟨.printEnd, line⟩ :: more) := by
  rw [tailTokens_eq, List.append_assoc, readPostfix_parts, readPostfix]
  rfl

theorem skipWord_name {w : String} (h : root ≠ w) (ts : List Token) :
    skipWord w (⟨.name root, line⟩ :: ts) = .ok (false, ⟨.name root, line⟩ :: ts) := by
  have unlike : atWord w (⟨.name root, line⟩ :: ts) = .ok (false, ⟨.name root, line⟩ :: ts) := by
    have seen : atWord w (⟨.name root, line⟩ :: ts) =
      .ok (root == w, ⟨.name root, line⟩ :: ts) := rfl
    rw [seen, beq_eq_false_iff_ne.mpr h]
  rw [skipWord, ok_bind unlike]
  rfl

/-- What ends a term: the end of its insertion or a closing bracket. -/
def endings : List TokenKind :=
  [.printEnd, .mark ")"]

section Levels

variable {begin ending : Token} {ts : List Token} {e : Term} {n : Nat}
  (ends : ending.kind ∈ endings)
include ends

/-- No operator of any level follows a term that has ended. -/
theorem readMoreOperators_end (level : Level) (n : Nat) (e : Term) :
    readMoreOperators level (n + 1) e (ending :: more) = .ok (e, ending :: more) := by
  obtain ⟨kind, line⟩ := ending
  rw [readMoreOperators]
  simp only [endings, List.mem_cons, List.not_mem_nil, or_false] at ends
  rcases ends with rfl | rfl
  · rfl
  · cases level <;> rfl

/-- No word follows it, and nothing that is concatenated to it or compared with it. -/
theorem skips_end : (∀ w, skipWord w (ending :: more) = .ok (false, ending :: more)) ∧
    (∀ n, readConcatenated (n + 1) (ending :: more) = .ok ([], ending :: more)) ∧
    ∀ n, readComparisons (n + 1) (ending :: more) = .ok ([], ending :: more) := by
  obtain ⟨kind, line⟩ := ending
  simp only [readConcatenated, readComparisons]
  simp only [endings, List.mem_cons, List.not_mem_nil, or_false] at ends
  rcases ends with rfl | rfl <;> exact ⟨fun _ => rfl, fun _ => rfl, fun _ => rfl⟩

variable (unary : readUnary true (n + 2) (begin :: ts) = .ok (e, ending :: more))
include unary

/-- At each level of operators a term without operators is the whole operand. -/
theorem readOperators_single :
    readOperators .sum (n + 8) (begin :: ts) = .ok (e, ending :: more) := by
  have power : readOperators .power (n + 4) (begin :: ts) = .ok (e, ending :: more) := by
    rw [readOperators, readOperand]
    exact (ok_bind unary).trans (readMoreOperators_end ends _ _ _)
  have product : readOperators .product (n + 6) (begin :: ts) = .ok (e, ending :: more) := by
    rw [readOperators, readOperand]
    exact (ok_bind power).trans (readMoreOperators_end ends _ _ _)
  have operand : readOperand .sum (n + 7) (begin :: ts) = .ok (e, ending :: more) := by
    rw [readOperand]
    exact (ok_bind product).trans (ok_bind ((skips_end ends).2.1 _))
  rw [readOperators]
  exact (ok_bind operand).trans (readMoreOperators_end ends _ _ _)

variable (sound : begin.kind ≠ .fault)
  (positive : skipWord "not" (begin :: ts) = .ok (false, begin :: ts))
include sound positive

/-- A term without operators is read as it is. -/
theorem readTerm_single : readTerm true (n + 12) (begin :: ts) = .ok (e, ending :: more) := by
  obtain ⟨worded, -, compared⟩ := @skips_end more ending ends
  have negation : readNegation (n + 9) (begin :: ts) = .ok (e, ending :: more) := by
    rw [readNegation]
    refine (ok_bind positive).trans ((ok_bind (readOperators_single ends unary)).trans ?_)
    exact ok_bind (compared (n + 7))
  have conjunction : readConjunction (n + 10) (begin :: ts) = .ok (e, ending :: more) := by
    rw [readConjunction]
    refine (ok_bind negation).trans ?_
    rw [readConjuncts]
    exact ok_bind (worded "and")
  have disjunction : readDisjunction (n + 11) (begin :: ts) = .ok (e, ending :: more) := by
    rw [readDisjunction]
    refine (ok_bind conjunction).trans ?_
    rw [readDisjuncts]
    exact ok_bind (worded "or")
  rw [readTerm]
  refine (ok_bind (current_cons begin.kind sound begin.line _)).trans
    ((ok_bind disjunction).trans ?_)
  rw [if_pos rfl, readChoices]
  exact ok_bind (worded "if")

end Levels

variable (free : root ∉ reservedWords)
include free

theorem readPrimary_word (line n : Nat) (ts : List Token) :
    readPrimary (n + 1) (⟨.name root, line⟩ :: ts) = .ok (.name root, ts) := by
  simp only [reservedWords, constantWords, List.mem_cons, List.not_mem_nil, or_false,
    not_or] at free
  rw [readPrimary]
  rw [ok_bind (current_cons (.name root) (by simp) _ _)]
  refine (ok_bind (skip_cons (.name root) (by simp) _ _)).trans ?_
  simp only [beq_iff_eq, free, or_false, Bool.or_eq_true, if_false]
  rfl

theorem readUnary_chain (n : Nat) :
    readUnary true (n + keys.length + 2) (⟨.name root, line⟩ :: (tailTokens line keys ++ more)) =
      .ok (.chain root keys, ⟨.printEnd, line⟩ :: more) := by
  have unsigned (m : String) (ts : List Token) : skipMark m (⟨.name root, line⟩ :: ts) =
      .ok (false, ⟨.name root, line⟩ :: ts) := rfl
  rw [readUnary]
  refine (ok_bind (unsigned "-" _)).trans ((ok_bind (unsigned "+" _)).trans ?_)
  refine (ok_bind (readPrimary_word free line (n + keys.length) _)).trans ?_
  refine (ok_bind (readPostfix_tail n (.name root))).trans ?_
  rw [if_pos rfl, readFilters]
  rfl

/-- A term that begins with a name and has no operators is a whole tuple. -/
theorem readTuple_single {n : Nat} {ts : List Token} {e : Term}
    (unary : readUnary true (n + 2) (⟨.name root, line⟩ :: ts) =
      .ok (e, ⟨.printEnd, line⟩ :: more)) :
    readTuple true false [] (n + 13) (⟨.name root, line⟩ :: ts) =
      .ok (e, ⟨.printEnd, line⟩ :: more) := by
  have positive : root ≠ "not" := fun same => free (by rw [same]; exact List.mem_cons_self)
  have begun (ts : List Token) : atTupleEnd [] (⟨.name root, line⟩ :: ts) =
      .ok (false, ⟨.name root, line⟩ :: ts) := rfl
  have ends : (Token.mk .printEnd line).kind ∈ endings := List.mem_cons_self
  have term := readTerm_single ends unary nofun (skipWord_name positive ts)
  rw [readTuple]
  exact (ok_bind (begun _)).trans (ok_bind term)

theorem readTuple_chain (n : Nat) :
    readTuple true false [] (n + keys.length + 13)
        (⟨.name root, line⟩ :: (tailTokens line keys ++ more)) =
      .ok (.chain root keys, ⟨.printEnd, line⟩ :: more) :=
  readTuple_single free (readUnary_chain free n)

end Reading

/-- The statement of some text, unless it is empty. -/
def textStatement (text : List Char) : List Statement :=
  if text.isEmpty then [] else [.text (String.ofList text)]

/-- The statements of a text with insertions behind it. -/
def bodyWith (front : List Char) : List Insertion -> List Statement
  | [] => textStatement front
  | p :: rest =>
      textStatement front ++ .print [.chain p.root p.keys] :: bodyWith p.behind.toList rest

theorem length_tailTokens (line : Nat) (keys : List String) :
    (tailTokens line keys).length = 2 * keys.length + 1 := by
  induction keys with
  | nil => rfl
  | cons k rest ih => simp only [tailTokens, List.length_cons, ih]; omega

theorem readStatements_data {n line : Nat} {front : List Char} {ts us : List Token}
    {body : List Statement} (enough : (dataToken line front ++ ts).length + 14 ≤ n)
    (later : ∀ m, ts.length + 14 ≤ m -> readStatements none m ts = .ok (body, us)) :
    readStatements none n (dataToken line front ++ ts) = .ok (textStatement front ++ body, us) := by
  unfold dataToken textStatement at *
  cases front with
  | nil => exact later n (by simpa using enough)
  | cons c cs =>
      simp only [List.isEmpty_cons, Bool.false_eq_true, if_false, List.singleton_append,
        List.length_cons] at enough ⊢
      obtain ⟨n, rfl⟩ : ∃ m, n = m + 1 := ⟨n - 1, by omega⟩
      rw [readStatements, ok_bind (current_cons (.data _) (by simp) _ _)]
      exact (ok_bind (skip_cons (.data _) (by simp) _ _)).trans (ok_bind (later n (by omega)))

theorem readStatements_with {parts : List Insertion} (free : ∀ p ∈ parts, p.root ∉ reservedWords)
    (front : List Char) (line last n : Nat)
    (enough : (tokensWith line front parts ++ [Token.mk .eof last]).length + 14 ≤ n) :
    readStatements none n (tokensWith line front parts ++ [⟨.eof, last⟩]) =
      .ok (bodyWith front parts, [⟨.eof, last⟩]) := by
  induction parts generalizing front line n with
  | nil =>
      have ended (m : Nat) (more : [Token.mk .eof last].length + 14 ≤ m) :
          readStatements none m [⟨.eof, last⟩] = .ok ([], [⟨.eof, last⟩]) := by
        obtain ⟨m, rfl⟩ : ∃ k, m = k + 1 := ⟨m - 1, by omega⟩
        rw [readStatements]
        rfl
      have whole := readStatements_data enough ended
      rwa [List.append_nil] at whole
  | cons p rest ih =>
      obtain ⟨first, free⟩ := List.forall_mem_cons.mp free
      simp only [tokensWith, List.append_assoc, List.cons_append] at enough ⊢
      refine readStatements_data enough fun m more => ?_
      have long := length_tailTokens (line + countLines front) p.keys
      simp only [List.length_cons, List.length_append] at more
      obtain ⟨m, rfl⟩ : ∃ k, m = k + p.keys.length + 13 + 1 := ⟨m - p.keys.length - 14, by omega⟩
      have term := @readTuple_chain (line + countLines front)
        (tokensWith (line + countLines front) p.behind.toList rest ++ [⟨.eof, last⟩]) p.root p.keys
        first m
      have later := ih free p.behind.toList (line + countLines front) (m + p.keys.length + 13)
        (by simp only [List.length_append, List.length_singleton]; omega)
      rw [readStatements, ok_bind (current_cons .printBegin (by simp) _ _)]
      refine (ok_bind (skip_cons .printBegin (by simp) _ _)).trans ((ok_bind term).trans ?_)
      rw [ok_bind (current_cons .printEnd (by simp) _ _)]
      exact (ok_bind (skip_cons .printEnd (by simp) _ _)).trans (ok_bind later)

/-! ## Checks -/

/-- Checks that all pass pass together. -/
theorem forM_ok {α ε : Type} {f : α -> Except ε Unit} {as : List α} (h : ∀ a ∈ as, f a = .ok ()) :
    as.forM f = .ok () := by
  induction as with
  | nil => rfl
  | cons a rest ih =>
      obtain ⟨here, later⟩ := List.forall_mem_cons.mp h
      have step : (a :: rest).forM f = f a >>= fun _ => rest.forM f := rfl
      rw [step, here]
      exact ih later

theorem checkTerm_fields {e : Term} (sound : ∀ soft n, checkTerm soft n e = .ok ())
    (keys : List String) (soft : Bool) (n : Nat) :
    checkTerm soft n (keys.foldl .field e) = .ok () := by
  induction keys generalizing e with
  | nil => exact sound soft n
  | cons k rest ih =>
      refine ih fun soft n => ?_
      cases n with
      | zero => rfl
      | succ n => exact sound soft n

theorem checkTerm_chain (root : String) (keys : List String) (soft : Bool) (n : Nat) :
    checkTerm soft n (.chain root keys) = .ok () :=
  checkTerm_fields (fun _ n => by cases n <;> rfl) keys soft n

/-- A statement of a template of texts and printed chains. -/
def IsPrinting (st : Statement) : Prop :=
  (∃ s, st = .text s) ∨ ∃ root keys, st = .print [.chain root keys]

theorem isPrinting_textStatement {front : List Char} :
    ∀ st ∈ textStatement front, IsPrinting st := by
  unfold textStatement
  split
  · exact List.forall_mem_nil _
  · exact List.forall_mem_singleton.mpr (.inl ⟨_, rfl⟩)

theorem isPrinting_bodyWith (front : List Char) (parts : List Insertion) :
    ∀ st ∈ bodyWith front parts, IsPrinting st := by
  induction parts generalizing front with
  | nil => exact isPrinting_textStatement
  | cons p rest ih =>
      refine List.forall_mem_append.mpr ⟨isPrinting_textStatement, ?_⟩
      exact List.forall_mem_cons.mpr ⟨.inr ⟨_, _, rfl⟩, ih _⟩

theorem check_of_isPrinting {body : List Statement} (h : ∀ st ∈ body, IsPrinting st) (n : Nat) :
    check n body = .ok () := by
  have blocks : blocksOf n body = [] := by
    cases n with
    | zero => rfl
    | succ n =>
        rw [blocksOf, List.flatMap_eq_nil_iff]
        intro st mem
        obtain ⟨s, rfl⟩ | ⟨root, keys, rfl⟩ := h st mem <;> rfl
  have sound : checkBody false n body = .ok () := by
    cases n with
    | zero => rfl
    | succ n =>
        rw [checkBody]
        refine forM_ok fun st mem => ?_
        obtain ⟨s, rfl⟩ | ⟨root, keys, rfl⟩ := h st mem
        · rfl
        · exact forM_ok (List.forall_mem_singleton.mpr (checkTerm_chain root keys false n))
  simp only [check, blocks, sound]
  rfl

/-- Texts with printed chains between them are a template. -/
theorem compile_textWith {front : String} {parts : List Insertion} (plain : IsPlainText front)
    (proper : ∀ p ∈ parts, p.Plain) (free : ∀ p ∈ parts, p.root ∉ reservedWords) :
    compile (textWith front parts) = .ok (bodyWith front.toList parts) := by
  obtain ⟨last, tokens⟩ := tokens_textWith plain proper
  have body := readStatements_with free front.toList 1 last
    (24 * (tokensWith 1 front.toList parts ++ [Token.mk .eof last]).length + 24) (by omega)
  have whole : read (textWith front parts) = .ok (bodyWith front.toList parts) := by
    simp only [read, tokens, StateT.run, body]
    rfl
  rw [compile, whole]
  simp only [bind, Except.bind, check_of_isPrinting (isPrinting_bodyWith _ _)]

end Template

end Workflow
