import Workflow.Proofs.Expr.Chain
import Workflow.Proofs.Reference.Rewriting

/-!
# Literals with tokens

The grammar of expressions knows where a literal ends: at the first quote that no backslash
stands before, or at three of them.  The scanner that binds tokens takes the next quote of
the same kind.  Where this makes no difference a literal with tokens becomes one name, which
is bound to what the literal denotes with the texts of the values in the place of its tokens.
-/

namespace Workflow

namespace Reading

/-- A literal as it is written: its quote, whether there are three on each side, its body. -/
structure Literal where
  quote : Char
  triple : Bool
  body : List Char
  deriving Repr, DecidableEq

/-- The literal a text begins with, as the lexer delimits it, and what follows. -/
def literalAt? : List Char -> Option (Literal × List Char)
  | [] => none
  | q :: rest =>
      if q == '\'' || q == '"' then
        if rest.take 2 == [q, q] then
          (spanText q true (rest.drop 2)).map fun (body, after) => (⟨q, true, body⟩, after)
        else (spanText q false rest).map fun (body, after) => (⟨q, false, body⟩, after)
      else none

/-- The lexer reads the literals that are delimited so, whatever letters announce them. -/
theorem readText_eq (k : TextKind) {q : Char} (quote : (q == '\'' || q == '"') = true)
    (rest : List Char) :
    readText k (q :: rest) = (literalAt? (q :: rest)).bind fun (l, after) =>
      (textToken k l.body).map fun t => (t, after) := by
  have read (triple : Bool) (split : Option (List Char × List Char)) :
      (do let (body, after) <- split; some ((<- textToken k body), after)) =
        ((split.map fun (body, after) => (Literal.mk q triple body, after)).bind fun (l, after) =>
          (textToken k l.body).map fun t => (t, after)) := by
    cases split with
    | none => rfl
    | some split =>
        cases token : textToken k split.1 <;> simp [token]
  rw [literalAt?, if_pos quote]
  cases rest with
  | nil => rfl
  | cons a rest =>
      cases rest with
      | nil =>
          have single : ([a].take 2 == [q, q]) = false := by simp
          rw [single]
          exact read false (spanText q false [a])
      | cons b more =>
          have both : ((a :: b :: more).take 2 == [q, q]) = (a == q && b == q) := by
            simp [List.take]
          rw [both]
          simp only [readText]
          split
          · exact read true (spanText q true more)
          · exact read false (spanText q false (a :: b :: more))

/-- A text is its body, a quote, and what follows. -/
theorem spanText_split {q : Char} {cs body after : List Char}
    (h : spanText q false cs = some (body, after)) : cs = body ++ q :: after := by
  generalize triple : false = t at h
  fun_induction spanText q t cs generalizing body with
  | case1 => cases h
  | case2 c rest ih =>
      obtain ⟨⟨b, r⟩, inner, same⟩ := Option.map_eq_some_iff.mp h
      cases same
      rw [ih inner]
      rfl
  | case3 | case4 | case5 => simp_all
  | case6 c rest _ same =>
      cases h
      rw [eq_of_beq same]
      rfl
  | case7 => cases h
  | case8 c rest _ _ _ ih =>
      obtain ⟨⟨b, r⟩, inner, same⟩ := Option.map_eq_some_iff.mp h
      cases same
      rw [ih inner]
      rfl

theorem spanText_shorter {q : Char} {triple : Bool} {cs body after : List Char}
    (h : spanText q triple cs = some (body, after)) : after.length < cs.length := by
  fun_induction spanText q triple cs generalizing body with
  | case1 | case5 | case7 => cases h
  | case2 | case4 | case8 =>
      next ih =>
        obtain ⟨⟨b, r⟩, inner, same⟩ := Option.map_eq_some_iff.mp h
        cases same
        have shorter := ih inner
        simp only [List.length_cons] at shorter ⊢
        omega
  | case3 | case6 =>
      cases h
      simp only [List.length_cons]
      omega

theorem literalAt?_shorter {cs : List Char} {l : Literal} {after : List Char}
    (h : literalAt? cs = some (l, after)) : after.length < cs.length := by
  unfold literalAt? at h
  split at h
  · cases h
  · next q rest =>
      have fewer : (rest.drop 2).length ≤ rest.length := (List.drop_sublist 2 rest).length_le
      split at h
      · split at h
        all_goals
          obtain ⟨⟨b, r⟩, inner, same⟩ := Option.map_eq_some_iff.mp h
          cases same
          have shorter := spanText_shorter inner
          simp only [List.length_cons]
          omega
      · cases h

/-- A text without backslashes stands for itself. -/
theorem unescape_of_not_mem {cs : List Char} (plain : '\\' ∉ cs) (bytes : Bool) {fuel : Nat}
    (enough : cs.length ≤ fuel) : unescape bytes fuel cs = some cs := by
  induction cs generalizing fuel with
  | nil => cases fuel <;> rfl
  | cons c rest ih =>
      rw [List.mem_cons, not_or] at plain
      obtain ⟨other, later⟩ := plain
      obtain ⟨fuel, rfl⟩ : ∃ n, fuel = n + 1 := ⟨fuel - 1, by simp at enough; omega⟩
      rw [unescape, ih later (by simpa using enough)]
      · rfl
      · rintro rfl; exact other rfl

end Reading

namespace Reference

open Effect (bind_ok ok_bind)
open Reading (Literal literalAt? literalAt?_shorter spanText_split)

/-- A stretch of an expression as the grammar delimits it, apart from its tokens. -/
inductive Lexeme where
  | char (c : Char)
  | token (inside : List Char)
  | literal (l : Literal)
  deriving Repr, DecidableEq

/-- An expression, or what follows in a comment, cut at its tokens and literals. -/
def lexemes (comment : Bool) (cs : List Char) : List Lexeme :=
  match cs with
  | [] => []
  | c :: rest =>
      match _ : tokenAt? (c :: rest) with
      | some (inside, after) => .token inside :: lexemes comment after
      | none =>
          match _ : if comment then none else literalAt? (c :: rest) with
          | some (l, after) => .literal l :: lexemes false after
          | none => .char c :: lexemes (c == '#' || comment && c != '\n') rest
termination_by cs.length
decreasing_by
  · exact tokenAt?_shorter (by assumption)
  · next found =>
      cases comment with
      | true => cases found
      | false => exact literalAt?_shorter found
  · simp

/-- The quotes on one side of a literal. -/
def marksOf (l : Literal) : List Char :=
  List.replicate (if l.triple then 3 else 1) l.quote

/-- A stretch as it is written. -/
def Lexeme.chars : Lexeme -> List Char
  | .char c => [c]
  | .token inside => written inside
  | .literal l => marksOf l ++ l.body ++ marksOf l

/-- A literal that ends at the next quote of its kind. -/
def EndsAtQuote (l : Literal) : Prop :=
  l.triple = false ∧ l.quote ∉ l.body

instance (l : Literal) : Decidable (EndsAtQuote l) :=
  inferInstanceAs (Decidable (l.triple = false ∧ l.quote ∉ l.body))

/-- A stretch that does not mislead a scanner that looks for the next quote. -/
def Lexeme.Tame : Lexeme -> Prop
  | .char c => c ≠ '\'' ∧ c ≠ '"'
  | .token _ => True
  | .literal l => EndsAtQuote l

instance (x : Lexeme) : Decidable x.Tame :=
  match x with
  | .char c => inferInstanceAs (Decidable (c ≠ '\'' ∧ c ≠ '"'))
  | .token _ => inferInstanceAs (Decidable True)
  | .literal l => inferInstanceAs (Decidable (EndsAtQuote l))

/-- A stretch as the scanner sees it. -/
def Lexeme.part : Lexeme -> Part
  | .char c => .char c
  | .token inside => .token inside
  | .literal l => .quoted l.quote l.body

/-! ## What the scanner sees -/

theorem tokenAt?_split {cs inside after : List Char} (h : tokenAt? cs = some (inside, after)) :
    cs = written inside ++ after := by
  unfold tokenAt? at h
  split at h
  · next rest =>
      dsimp only at h
      split at h
      · next tail ended =>
          split at h
          · cases h
          · cases h
            have whole := List.takeWhile_append_dropWhile (p := (· != '\x7d')) (l := rest)
            rw [ended] at whole
            simp only [written, List.cons_append, List.nil_append, List.append_assoc, whole]
      · cases h
  · cases h

theorem quotedAt?_of_char {c : Char} (h : c ≠ '\'' ∧ c ≠ '"') (rest : List Char) :
    quotedAt? (c :: rest) = none := by
  simp [quotedAt?, h.1, h.2]

/-- A token does not begin with a quote. -/
theorem quotedAt?_of_token {cs inside after : List Char}
    (h : tokenAt? cs = some (inside, after)) : quotedAt? cs = none := by
  rw [tokenAt?_split h]
  exact quotedAt?_of_char (by decide) _

theorem literalAt?_split {cs : List Char} {l : Literal} {after : List Char}
    (h : literalAt? cs = some (l, after)) (single : l.triple = false) :
    cs = marksOf l ++ l.body ++ marksOf l ++ after ∧ (l.quote == '\'' || l.quote == '"') = true := by
  unfold literalAt? at h
  split at h
  · cases h
  · next q rest =>
      split at h
      · next quote =>
          split at h
          · obtain ⟨⟨b, r⟩, inner, same⟩ := Option.map_eq_some_iff.mp h
            cases same
            cases single
          · obtain ⟨⟨b, r⟩, inner, same⟩ := Option.map_eq_some_iff.mp h
            cases same
            refine ⟨?_, quote⟩
            rw [spanText_split inner]
            simp [marksOf]
      · cases h

/-- A literal that ends at the next quote of its kind is the one that the scanner finds. -/
theorem quotedAt?_of_literal {cs : List Char} {l : Literal} {after : List Char}
    (h : literalAt? cs = some (l, after)) (ends : EndsAtQuote l) :
    quotedAt? cs = some (l.quote, l.body, after) := by
  obtain ⟨whole, quote⟩ := literalAt?_split h ends.1
  have inside : ∀ c ∈ l.body, (c != l.quote) = true := fun c hc =>
    bne_iff_ne.mpr fun same => ends.2 (same ▸ hc)
  rw [whole]
  simp [marksOf, ends.1, quotedAt?, quote, List.takeWhile_append_of_pos inside,
    List.dropWhile_append_of_pos inside]

theorem parts_of_quoted {cs body after : List Char} {q : Char}
    (h : quotedAt? cs = some (q, body, after)) : parts cs = .quoted q body :: parts after := by
  cases cs with
  | nil => cases h
  | cons c rest =>
      rw [parts]
      split
      · next found =>
          rw [h] at found
          cases found
          rfl
      · next found => rw [h] at found; cases found

theorem parts_of_token {cs inside after : List Char} (h : tokenAt? cs = some (inside, after)) :
    parts cs = .token inside :: parts after := by
  have unquoted := quotedAt?_of_token h
  cases cs with
  | nil => cases h
  | cons c rest =>
      rw [parts]
      split
      · next found => rw [unquoted] at found; cases found
      · split
        · next found =>
            rw [h] at found
            cases found
            rfl
        · next found => rw [h] at found; cases found

theorem parts_of_char {c : Char} {rest : List Char} (unquoted : quotedAt? (c :: rest) = none)
    (bare : tokenAt? (c :: rest) = none) : parts (c :: rest) = .char c :: parts rest := by
  rw [parts]
  split
  · next found => rw [unquoted] at found; cases found
  · split
    · next found => rw [bare] at found; cases found
    · rfl

/-- Up to a literal the scanner follows the grammar, if nothing on the way misleads it. -/
theorem parts_of_lexemes {comment : Bool} {cs : List Char} {front back : List Lexeme} {l : Literal}
    (h : lexemes comment cs = front ++ .literal l :: back) (tame : ∀ x ∈ front, x.Tame)
    (ends : EndsAtQuote l) :
    ∃ after, cs = front.flatMap Lexeme.chars ++ Lexeme.chars (.literal l) ++ after ∧
      parts cs = front.map Lexeme.part ++ .quoted l.quote l.body :: parts after := by
  fun_induction lexemes comment cs generalizing front with
  | case1 => cases front <;> cases h
  | case2 comment c rest inside after found ih =>
      cases front with
      | nil => cases h
      | cons x front =>
          obtain ⟨rfl, later⟩ := List.cons.inj h
          obtain ⟨tail, whole, cut⟩ := ih later fun y hy => tame y (List.mem_cons_of_mem _ hy)
          refine ⟨tail, ?_, ?_⟩
          · rw [tokenAt?_split found, whole]
            simp [Lexeme.chars]
          · rw [parts_of_token found, cut]
            rfl
  | case3 comment c rest bare m after found ih =>
      have given : literalAt? (c :: rest) = some (m, after) := by
        cases comment with
        | true => cases found
        | false => exact found
      cases front with
      | nil =>
          obtain ⟨same, -⟩ := List.cons.inj h
          cases same
          refine ⟨after, ?_, parts_of_quoted (quotedAt?_of_literal given ends)⟩
          rw [(literalAt?_split given ends.1).1]
          rfl
      | cons x front =>
          obtain ⟨rfl, later⟩ := List.cons.inj h
          obtain ⟨tail, whole, cut⟩ := ih later fun y hy => tame y (List.mem_cons_of_mem _ hy)
          have own : EndsAtQuote m := tame _ List.mem_cons_self
          refine ⟨tail, ?_, ?_⟩
          · rw [(literalAt?_split given own.1).1, whole]
            simp [Lexeme.chars]
          · rw [parts_of_quoted (quotedAt?_of_literal given own), cut]
            rfl
  | case4 comment c rest bare none ih =>
      cases front with
      | nil => cases h
      | cons x front =>
          obtain ⟨rfl, later⟩ := List.cons.inj h
          obtain ⟨tail, whole, cut⟩ := ih later fun y hy => tame y (List.mem_cons_of_mem _ hy)
          refine ⟨tail, ?_, ?_⟩
          · rw [whole]
            rfl
          · rw [parts_of_char (quotedAt?_of_char (tame _ List.mem_cons_self) rest) bare, cut]
            rfl

/-! ## Names -/

/-- What the names of values consist of after their beginning. -/
def IsTokenName (name : String) : Prop :=
  ∃ cs, name.toList = "token_".toList ++ cs ∧ ∀ c ∈ cs, c.isDigit = true ∨ c = '_'

theorem IsTokenName.isWord {name : String} (h : IsTokenName name) : IsWord name := by
  obtain ⟨cs, written, rest⟩ := h
  have plain : ∀ c ∈ name.toList, c.toNat < 128 ∧ Text.isIdentifierPart c = true := by
    intro c hc
    rw [written] at hc
    rcases List.mem_append.mp hc with front | back
    · have all : ("token_".toList.all fun c => c.toNat < 128 && Text.isIdentifierPart c) = true :=
        by decide
      simpa using List.all_eq_true.mp all c front
    · rcases rest c back with digit | rfl
      · have small : c.toNat < 128 := by
          simp only [Char.isDigit, Bool.and_eq_true, decide_eq_true_eq] at digit
          have upper : c.toNat ≤ '9'.toNat := digit.2
          exact Nat.lt_of_le_of_lt upper (by decide)
        have all := of_ascii (p := fun c => !c.isDigit || Text.isIdentifierPart c) (by decide) small
        exact ⟨small, by simpa [digit] using all⟩
      · exact ⟨by decide, by decide⟩
  refine ⟨fun c hc => (plain c hc).1, ?_, fun taken => ?_⟩
  · have front : name.toList = 't' :: ("oken_".toList ++ cs) := written
    rw [front, Text.isIdentifier, Bool.and_eq_true, List.all_eq_true]
    exact ⟨by decide, fun c hc => (plain c (front ▸ List.mem_cons_of_mem _ hc)).2⟩
  · have apart : ∀ word ∈ Reading.reserved, ¬ "token_".toList <+: word.toList := by decide
    exact apart name taken ⟨cs, written.symm⟩

theorem isTokenName_freeName {taken : List String} {n : Nat} {name : String}
    (h : IsTokenName name) : IsTokenName (freeName taken n name) := by
  induction n generalizing name with
  | zero => exact h
  | succ n ih =>
      unfold freeName
      split
      · obtain ⟨cs, written, rest⟩ := h
        refine ih ⟨cs ++ ['_'], by simp [written], fun c hc => ?_⟩
        rcases List.mem_append.mp hc with hc | hc
        · exact rest c hc
        · exact .inr (List.mem_singleton.mp hc)
      · exact h

/-- The name of a value is a word. -/
theorem isWord_nextName (reserved : List String) (b : Bound) : IsWord (nextName reserved b) := by
  refine (isTokenName_freeName ⟨Nat.toDigits 10 b.values.length, ?_, fun c hc => ?_⟩).isWord
  · rw [String.toList_append]
    exact congrArg _ Nat.toList_repr
  · exact .inl (Nat.isDigit_of_mem_toDigits (by decide) (by decide) hc)

/-! ## What is bound -/

/-- What a path leads to has a text. -/
def Shows (scope : Value) (path : String) : Prop :=
  ∀ f v g, valueAt? scope path f = .ok (some v) g -> ∃ text, inlineText v = .ok text

/-- The paths of the tokens in a literal. -/
def Part.shownPaths : Part -> List String
  | .quoted _ body => (pieces body).filterMap Piece.path?
  | _ => []

variable {scope : Value} {reserved : List String}

theorem valueAt?_of_leads {path : String} (h : leads scope path = true) (f : Fresh) :
    ∃ v g, valueAt? scope path f = .ok (some v) g := by
  unfold leads at h
  unfold valueAt?
  split
  · exact ⟨_, _, rfl⟩
  · next other =>
      split
      · exact ⟨_, _, rfl⟩
      · next apart =>
          rw [Bool.eq_false_iff.mpr other, Bool.eq_false_iff.mpr apart, Bool.false_or,
            Bool.false_or] at h
          cases found : lookup? scope path with
          | error e => rw [found] at h; cases h
          | ok v =>
              rw [found] at h
              obtain ⟨v, rfl⟩ := Option.isSome_iff_exists.mp h
              exact ⟨v, f, rfl⟩

theorem piecesText_returns {ps : List Piece}
    (resolves : ∀ path ∈ ps.filterMap Piece.path?, leads scope path = true)
    (shown : ∀ path ∈ ps.filterMap Piece.path?, Shows scope path) (f : Fresh) :
    ∃ cs g, piecesText scope ps f = .ok cs g := by
  induction ps generalizing f with
  | nil => exact ⟨_, _, rfl⟩
  | cons p rest ih =>
      cases p with
      | char c =>
          obtain ⟨cs, g, later⟩ := ih resolves shown f
          refine ⟨c :: cs, g, ?_⟩
          simp only [piecesText, pieceText, Bind.bind, EStateM.bind, pure, EStateM.pure, later,
            List.singleton_append]
      | token inside =>
          obtain ⟨v, g, found⟩ := valueAt?_of_leads (resolves _ List.mem_cons_self) f
          obtain ⟨text, given⟩ := shown _ List.mem_cons_self f v g found
          obtain ⟨cs, z, later⟩ := ih (fun path hp => resolves path (List.mem_cons_of_mem _ hp))
            (fun path hp => shown path (List.mem_cons_of_mem _ hp)) g
          refine ⟨text.toList ++ cs, z, ?_⟩
          simp only [piecesText, pieceText, Bind.bind, EStateM.bind, found, given, liftOutcome, pure,
            EStateM.pure, later]

theorem bindParts_returns {ps : List Part}
    (resolves : ∀ path ∈ ps.flatMap Part.paths, leads scope path = true)
    (shown : ∀ path ∈ ps.flatMap Part.shownPaths, Shows scope path) (b : Bound) (f : Fresh) :
    ∃ b' g, bindParts scope reserved b ps f = .ok b' g := by
  induction ps generalizing b f with
  | nil => exact ⟨_, _, rfl⟩
  | cons p rest ih =>
      have here : ∃ b' g, bindPart scope reserved b p f = .ok b' g := by
        cases p with
        | char c => exact ⟨_, _, rfl⟩
        | token inside =>
            obtain ⟨v, g, found⟩ := valueAt?_of_leads (resolves _ List.mem_cons_self) f
            exact ⟨_, _, ok_bind found rfl⟩
        | quoted q body =>
            by_cases tokened : (pieces body).any Piece.isToken = true
            · obtain ⟨cs, g, text⟩ := piecesText_returns
                (fun path hp => resolves path (List.mem_append_left _ hp))
                (fun path hp => shown path (List.mem_append_left _ hp)) f
              simp only [bindPart, tokened, if_true, Bind.bind, EStateM.bind, bindLiteral_eq, text]
              exact ⟨_, _, rfl⟩
            · simp only [bindPart, tokened]
              exact ⟨_, _, rfl⟩
      obtain ⟨b', g, bound⟩ := here
      obtain ⟨b'', z, later⟩ := ih (fun path hp => resolves path (List.mem_append_right _ hp))
        (fun path hp => shown path (List.mem_append_right _ hp)) b' g
      exact ⟨b'', z, ok_bind bound later⟩

/-- What becomes of the first of some stretches does not depend on those behind them. -/
theorem bindParts_append {ps qs : List Part} {b b' : Bound} {f g : Fresh}
    (h : bindParts scope reserved b (ps ++ qs) f = .ok b' g) :
    ∃ b₁ t, bindParts scope reserved b ps f = .ok b₁ t ∧
      bindParts scope reserved b₁ qs t = .ok b' g := by
  induction ps generalizing b f with
  | nil => exact ⟨b, f, rfl, h⟩
  | cons p rest ih =>
      obtain ⟨b₁, t, here, later⟩ := bind_ok h
      obtain ⟨b₂, u, front, back⟩ := ih later
      exact ⟨b₂, u, ok_bind here front, back⟩

/--
The text that a literal denotes when its tokens are replaced by the texts of their values;
`run` is what stands between the token before and these pieces.
-/
inductive Denotes (scope : Value) : List Char -> List Piece -> List Char -> Prop where
  | ended {run out : List Char}
      (decoded : Reading.literalChars ⟨false, false, false⟩ run = some out) :
      Denotes scope run [] out
  | char {run out : List Char} {c : Char} {rest : List Piece}
      (later : Denotes scope (run ++ [c]) rest out) : Denotes scope run (.char c :: rest) out
  | token {run front inside out : List Char} {rest : List Piece} {v : Value} {f g : Fresh}
      {text : String}
      (decoded : Reading.literalChars ⟨false, false, false⟩ run = some front)
      (found : valueAt? scope (pathOf inside) f = .ok (some v) g)
      (shown : inlineText v = .ok text) (later : Denotes scope [] rest out) :
      Denotes scope run (.token inside :: rest) (front ++ text.toList ++ out)

theorem literalChars_of_not_mem {cs : List Char} (plain : '\\' ∉ cs) :
    Reading.literalChars ⟨false, false, false⟩ cs = some cs :=
  Reading.unescape_of_not_mem plain false (Nat.le_refl _)

/-- Without escapes a literal denotes its body with the tokens replaced. -/
theorem denotes_of_piecesText {ps : List Piece} {run cs : List Char} {f g : Fresh}
    (resolves : ∀ path ∈ ps.filterMap Piece.path?, leads scope path = true)
    (plain : .char '\\' ∉ ps) (plainly : '\\' ∉ run)
    (h : piecesText scope ps f = .ok cs g) : Denotes scope run ps (run ++ cs) := by
  induction ps generalizing run cs f with
  | nil =>
      cases h
      rw [List.append_nil]
      exact .ended (literalChars_of_not_mem plainly)
  | cons p rest ih =>
      rw [List.mem_cons, not_or] at plain
      obtain ⟨front, t, here, later⟩ := bind_ok h
      obtain ⟨back, u, behind, ended⟩ := bind_ok later
      cases ended
      cases p with
      | char c =>
          cases here
          have next : '\\' ∉ run ++ [c] := by
            simp only [List.mem_append, List.mem_singleton, not_or]
            exact ⟨plainly, fun same => plain.1 (congrArg Piece.char same)⟩
          have denoted : Denotes scope (run ++ [c]) rest (run ++ [c] ++ back) :=
            ih resolves plain.2 next behind
          rw [List.append_assoc] at denoted
          exact .char denoted
      | token inside =>
          have known := resolves _ List.mem_cons_self
          obtain ⟨found, z, looked, shown⟩ := bind_ok here
          rw [leads_of_valueAt? looked] at known
          obtain ⟨v, rfl⟩ := Option.isSome_iff_exists.mp known
          obtain ⟨text, z', given, ended⟩ := bind_ok shown
          cases ended
          cases textual : inlineText v with
          | error e => rw [textual] at given; cases given
          | ok s =>
              rw [textual] at given
              cases given
              have denoted : Denotes scope [] rest ([] ++ back) :=
                ih (fun path hp => resolves path (List.mem_cons_of_mem _ hp)) plain.2
                  List.not_mem_nil behind
              rw [← List.append_assoc]
              exact .token (literalChars_of_not_mem plainly) looked textual denoted

/--
A literal with tokens becomes one name, bound to its text with the texts of the values in
the place of its tokens, if neither the literal nor a literal or a comment in front of it
misleads the scanner.  Without escapes this is the text that the literal denotes.
-/
theorem bind_literal {expression : String} {front back : List Lexeme} {l : Literal}
    (delimited : lexemes false expression.toList = front ++ .literal l :: back)
    (tokened : (pieces l.body).any Piece.isToken = true)
    (tame : ∀ x ∈ front, x.Tame) (ends : EndsAtQuote l)
    (resolves : ∀ path ∈ boundPaths expression, leads scope path = true)
    (shown : ∀ path ∈ (parts expression.toList).flatMap Part.shownPaths, Shows scope path)
    (f : Fresh) :
    ∃ b g name s before later after, bind scope reserved expression f = .ok b g ∧
      b.missing = [] ∧ b.values = before ++ (name, .str s) :: later ∧ IsWord name ∧
      expression.toList = front.flatMap Lexeme.chars ++ Lexeme.chars (.literal l) ++ after ∧
      b.text = rewritten (leads scope) (front.map Lexeme.part) (before.map (·.1)) ++
        name.toList ++ rewritten (leads scope) (parts after) (later.map (·.1)) ∧
      (∃ f g, piecesText scope (pieces l.body) f = .ok s.toList g) ∧
      (.char '\\' ∉ pieces l.body -> Denotes scope [] (pieces l.body) s.toList) := by
  obtain ⟨after, whole, cut⟩ := parts_of_lexemes delimited tame ends
  obtain ⟨b, g, bound⟩ : ∃ b g, bind scope reserved expression f = .ok b g :=
    bindParts_returns resolves shown .empty f
  have missing : b.missing = [] := by
    rw [(bind_binds bound).missing, List.filter_eq_nil_iff]
    intro path hp
    simp [resolves path hp]
  have inParts : bindParts scope reserved .empty
      (front.map Lexeme.part ++ .quoted l.quote l.body :: parts after) f = .ok b g := cut ▸ bound
  obtain ⟨b₁, t, first, behind⟩ := bindParts_append inParts
  obtain ⟨b₂, u, here, last⟩ := bind_ok behind
  obtain ⟨before, opening⟩ := bindParts_adds first
  obtain ⟨later, closing⟩ := bindParts_adds last
  rcases bindPart_ok here with ⟨-, v, ⟨s, f₁, g₁, rfl, shows⟩, rfl⟩ | ⟨free, -⟩
  · rw [bindValue_eq] at closing
    refine ⟨b, g, nextName reserved b₁, s, before, later, after, bound, missing, ?_,
      isWord_nextName reserved b₁, whole, ?_, ⟨f₁, g₁, shows⟩, fun plain => ?_⟩
    · have all : b.values = b₁.values ++ [(nextName reserved b₁, .str s)] ++ later := closing.values
      have first : b₁.values = before := opening.values
      rw [all, first, List.append_assoc]
      rfl
    · have all : b.text = b₁.text ++ (nextName reserved b₁).toList ++
          rewritten (leads scope) (parts after) (later.map (·.1)) := closing.text
      have first : b₁.text = rewritten (leads scope) (front.map Lexeme.part) (before.map (·.1)) :=
        opening.text
      rw [all, first]
    · have inside (path : String) (hp : path ∈ (pieces l.body).filterMap Piece.path?) :
          leads scope path = true := by
        refine resolves path ?_
        rw [boundPaths, cut]
        simp [Part.paths, hp]
      have denoted : Denotes scope [] (pieces l.body) ([] ++ s.toList) :=
        denotes_of_piecesText inside plain List.not_mem_nil shows
      exact denoted
  · rw [Part.isBound, tokened] at free
    cases free

/-- A scope with one input, which is a text. -/
def okScope : Value :=
  .dict [(.str "inputs", .dict [(.str "x", .str "ok")])]

/-- A token, a literal without one, and a literal with one. -/
def choice : String :=
  "\x7b\x7b inputs.x \x7d\x7d in ['it\"s', \"it's \x7b\x7binputs.x\x7d\x7d\"]"

theorem bind_literal_choice : ∃ b g name s, bind okScope [] choice morning = .ok b g ∧
    (name, .str s) ∈ b.values ∧ IsWord name ∧
    Denotes okScope [] (pieces "it's \x7b\x7binputs.x\x7d\x7d".toList) s.toList := by
  have paths : (parts choice.toList).flatMap Part.shownPaths = ["inputs.x"] := by decide +kernel
  have shows : Shows okScope "inputs.x" := by
    intro f v g found
    cases found
    exact ⟨"ok", rfl⟩
  have cut : lexemes false choice.toList =
      (.token " inputs.x ".toList :: " in [".toList.map .char ++
        [.literal ⟨'\'', false, "it\"s".toList⟩, .char ',', .char ' ']) ++
      .literal ⟨'"', false, "it's \x7b\x7binputs.x\x7d\x7d".toList⟩ :: [.char ']'] := by
    decide +kernel
  have resolves : ∀ path ∈ boundPaths choice, leads okScope path = true := by decide +kernel
  obtain ⟨b, g, name, s, before, later, -, bound, -, values, word, -, -, -, denotes⟩ :=
    bind_literal cut (by decide +kernel) (by decide) (by decide) resolves
      (paths ▸ fun path hp => List.mem_singleton.mp hp ▸ shows) morning
  exact ⟨b, g, name, s, bound, by rw [values]; simp, word, denotes (by decide +kernel)⟩

/-- A literal with a token, which holds a quote after a backslash. -/
def escaped : String :=
  "'it\\'s \x7b\x7b inputs.x \x7d\x7d'"

/-- A literal with a token, which stands for two lines. -/
def broken : String :=
  "'a\\n\x7b\x7b inputs.x \x7d\x7d'"

/--
Behind an escaped quote a token of the literal is taken for one outside of literals, and a
literal is bound to its text with the escapes in it.
-/
theorem bind_escapes :
    (∃ b g, lexemes false escaped.toList =
        [.literal ⟨'\'', false, "it\\'s \x7b\x7b inputs.x \x7d\x7d".toList⟩] ∧
      bind okScope [] escaped morning = .ok b g ∧ b.text = "'it\\'s token_0'".toList) ∧
    lexemes false broken.toList =
        [.literal ⟨'\'', false, "a\\n\x7b\x7b inputs.x \x7d\x7d".toList⟩] ∧
      Denotes okScope [] (pieces "a\\n\x7b\x7b inputs.x \x7d\x7d".toList) "a\nok".toList ∧
      bind okScope [] broken morning =
        .ok ⟨"token_0".toList, [("token_0", .str "a\\nok")], []⟩ morning := by
  have rewrites : ((bind okScope [] escaped).run' morning).map Bound.text =
      some "'it\\'s token_0'".toList := by decide +kernel
  obtain ⟨b, g, bound, text⟩ := exists_bound rewrites
  have cut : pieces "a\\n\x7b\x7b inputs.x \x7d\x7d".toList =
      [.char 'a', .char '\\', .char 'n', .token " inputs.x ".toList] := by decide +kernel
  have quoted : parts broken.toList =
      [.quoted '\'' "a\\n\x7b\x7b inputs.x \x7d\x7d".toList] := by decide +kernel
  refine ⟨⟨b, g, by decide +kernel, bound, text⟩, by decide +kernel, ?_, ?_⟩
  · rw [cut]
    have decoded : Reading.literalChars ⟨false, false, false⟩ "a\\n".toList = some ['a', '\n'] := rfl
    have found : valueAt? okScope (pathOf " inputs.x ".toList) morning =
        .ok (some (.str "ok")) morning := rfl
    exact .char (.char (.char (.token decoded found rfl (.ended rfl))))
  · rw [bind, quoted]
    simp only [bindParts, bindPart, cut]
    rfl

end Reference

end Workflow
