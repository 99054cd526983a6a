import Workflow.Expr.Evaluation
import Workflow.Proofs.Expr.Token
import Workflow.Reference.Binding

/-!
# Chains of names

A chain is names with dots between them.  Read as an expression, it is the first name and
one attribute after another; read as a text with tokens, it has none.
-/

namespace Workflow

open Text (isIdentifierStart isIdentifierPart isIdentifier isBlank)

/-- A name of plain characters. -/
structure IsName (s : String) : Prop where
  ascii : ∀ c ∈ s.toList, c.toNat < 128
  identifier : isIdentifier s.toList = true

/-- Whether a text is a name, character by character. -/
def isName (s : String) : Bool :=
  s.toList.all (fun c => c.toNat < 128) && isIdentifier s.toList

theorem isName_iff {s : String} : isName s = true ↔ IsName s := by
  simp only [isName, Bool.and_eq_true, List.all_eq_true, decide_eq_true_eq]
  exact ⟨fun ⟨ascii, identifier⟩ => ⟨ascii, identifier⟩, fun h => ⟨h.ascii, h.identifier⟩⟩

instance (s : String) : Decidable (IsName s) :=
  decidable_of_iff _ isName_iff

/-- A name of plain characters that is not reserved. -/
structure IsWord (s : String) : Prop where
  ascii : ∀ c ∈ s.toList, c.toNat < 128
  identifier : isIdentifier s.toList = true
  free : s ∉ Reading.reserved

/-- Whether a text is a word, character by character. -/
def isWord (s : String) : Bool :=
  s.toList.all (fun c => c.toNat < 128) && isIdentifier s.toList && !Reading.reserved.contains s

theorem isWord_iff {s : String} : isWord s = true ↔ IsWord s := by
  simp only [isWord, Bool.and_eq_true, List.all_eq_true, decide_eq_true_eq, Bool.not_eq_true',
    List.contains_eq_mem, decide_eq_false_iff_not]
  exact ⟨fun ⟨⟨ascii, identifier⟩, free⟩ => ⟨ascii, identifier, free⟩,
    fun h => ⟨⟨h.ascii, h.identifier⟩, h.free⟩⟩

instance (s : String) : Decidable (IsWord s) :=
  decidable_of_iff _ isWord_iff

theorem IsWord.name {s : String} (h : IsWord s) : IsName s :=
  ⟨h.ascii, h.identifier⟩

/-- The first name and one attribute after another. -/
def Expr.chain (root : String) (keys : List String) : Expr :=
  keys.foldl .field (.name root)

/-- A chain of names. -/
def chainText (root : String) (keys : List String) : String :=
  ".".intercalate (root :: keys)

/-! ## Characters of a chain -/

/-- What holds of the plain characters one by one holds of all of them. -/
theorem of_ascii {p : Char -> Bool} (h : ∀ n : Fin 128, p (Char.ofNat n) = true) {c : Char}
    (hc : c.toNat < 128) : p c = true := by
  have whole := h ⟨c.toNat, hc⟩
  rwa [Char.ofNat_toNat] at whole

/-- A character of a chain: one of a name, or a dot. -/
def IsChainChar (c : Char) : Prop :=
  c.toNat < 128 ∧ (isIdentifierPart c || c == '.') = true

/-- The characters that end a name or a line or begin something else, and are in no chain. -/
def outsideChains : List Char :=
  ['\x00', '\n', '\r', '\\', '#', ' ', '\t', '\x0c', '\'', '"', '\x7b']

theorem IsChainChar.inside {c : Char} (h : IsChainChar c) :
    c ∉ outsideChains ∧ isBlank c = false := by
  have all := of_ascii (p := fun c => !(isIdentifierPart c || c == '.') ||
    (!outsideChains.contains c && !isBlank c)) (by decide) h.1
  simpa [h.2] using all

/-- The characters of the names after the first one. -/
def tailChars (keys : List String) : List Char :=
  keys.flatMap fun k => '.' :: k.toList

theorem toList_chainText (root : String) (keys : List String) :
    (chainText root keys).toList = root.toList ++ tailChars keys := by
  rw [chainText, String.toList_intercalate]
  induction keys generalizing root with
  | nil => simp [tailChars]
  | cons k rest ih =>
      rw [List.map_cons, List.map_cons, List.intercalate_cons_cons, List.append_assoc]
      rw [← List.map_cons, ih k]
      simp [tailChars]

theorem IsName.nonempty {s : String} (h : IsName s) :
    ∃ c cs, s.toList = c :: cs ∧ isIdentifierStart c = true := by
  have id := h.identifier
  cases hs : s.toList with
  | nil => rw [hs] at id; cases id
  | cons c cs =>
      rw [hs, isIdentifier, Bool.and_eq_true] at id
      exact ⟨c, cs, rfl, id.1⟩

theorem part_of_start {c : Char} (hc : c.toNat < 128) (h : isIdentifierStart c = true) :
    isIdentifierPart c = true := by
  have all := of_ascii (p := fun c => !isIdentifierStart c || isIdentifierPart c) (by decide) hc
  simpa [h] using all

theorem IsName.part {s : String} (h : IsName s) {c : Char} (hc : c ∈ s.toList) :
    isIdentifierPart c = true := by
  obtain ⟨d, ds, hs, start⟩ := h.nonempty
  have id := h.identifier
  have ascii := h.ascii c hc
  rw [hs] at hc
  rw [hs, isIdentifier, Bool.and_eq_true, List.all_eq_true] at id
  rcases List.mem_cons.mp hc with rfl | later
  · exact part_of_start ascii start
  · exact id.2 c later

theorem IsName.chainChar {s : String} (h : IsName s) {c : Char} (hc : c ∈ s.toList) :
    IsChainChar c :=
  ⟨h.ascii c hc, by rw [h.part hc, Bool.true_or]⟩

theorem tailChars_chainChar {keys : List String} (h : ∀ k ∈ keys, IsName k) {c : Char}
    (hc : c ∈ tailChars keys) : IsChainChar c := by
  obtain ⟨k, hk, inside⟩ := List.mem_flatMap.mp hc
  rcases List.mem_cons.mp inside with rfl | inside
  · exact ⟨by decide, by decide⟩
  · exact (h k hk).chainChar inside

/-- What follows a name in a chain: nothing, or a dot. -/
theorem tailChars_ends (keys : List String) :
    tailChars keys = [] ∨ ∃ more, tailChars keys = '.' :: more := by
  cases keys with
  | nil => exact .inl rfl
  | cons k rest => exact .inr ⟨k.toList ++ tailChars rest, rfl⟩

/-! ## Tokens of a chain -/

namespace Reading

/-- The tokens of the names after the first one. -/
def tailTokens : List String -> List Token
  | [] => [.newline]
  | k :: rest => .mark "." :: .name k :: tailTokens rest

theorem unifyLineEnds_of_not_mem {cs : List Char} (no_return : '\r' ∉ cs) :
    unifyLineEnds cs = cs := by
  fun_induction unifyLineEnds cs with
  | case1 rest ih => exact absurd List.mem_cons_self no_return
  | case2 rest _ ih => exact absurd List.mem_cons_self no_return
  | case3 c rest _ _ ih =>
      rw [ih fun inside => no_return (List.mem_cons_of_mem c inside)]
  | case4 => rfl

theorem unifyLineEnds_of_chain {cs : List Char} (h : ∀ c ∈ cs, IsChainChar c) :
    unifyLineEnds cs = cs :=
  unifyLineEnds_of_not_mem fun inside => (h _ inside).inside.1 (by decide)

/-- A name up to the end or a dot is one token. -/
theorem lineTokens_word (go : Layout -> List Char -> Option (List Token)) (layout : Layout)
    {k : String} (hk : IsWord k) {rest : List Char}
    (ends : rest = [] ∨ ∃ more, rest = '.' :: more) :
    lineTokens go layout (k.toList ++ rest) =
      (go { layout with written := true } rest).map (.name k :: ·) := by
  obtain ⟨c, cs, hs, start⟩ := hk.name.nonempty
  have here : c ∈ k.toList := by rw [hs]; exact List.mem_cons_self
  have outside := (hk.name.chainChar here).inside.1
  have parts : ∀ c ∈ k.toList, isIdentifierPart c = true := fun c hc => hk.name.part hc
  have word : (k.toList ++ rest).takeWhile isIdentifierPart = k.toList := by
    rw [List.takeWhile_append_of_pos parts]
    rcases ends with rfl | ⟨more, rfl⟩ <;> simp [show isIdentifierPart '.' = false from by decide]
  have tail : (k.toList ++ rest).dropWhile isIdentifierPart = rest := by
    rw [List.dropWhile_append_of_pos parts]
    rcases ends with rfl | ⟨more, rfl⟩ <;> simp [show isIdentifierPart '.' = false from by decide]
  have plain : Text.normalName k.toList = k.toList := by
    have all : k.toList.all (fun c => c.toNat < 128) = true := by simpa using hk.ascii
    rw [Text.normalName, if_pos all]
  rw [hs, List.cons_append] at word tail
  simp only [outsideChains, List.mem_cons, not_or] at outside
  obtain ⟨_, newline, _, backslash, comment, blank, tab, feed, quote, quotes, _⟩ := outside
  rw [hs, List.cons_append]
  unfold lineTokens
  split
  · next h => cases h
  · next h => cases h; exact absurd rfl newline
  · next h => injection h with first; exact absurd first backslash
  · next h => cases h; exact absurd rfl comment
  · next c' rest' _ _ _ h =>
      cases h
      simp only [blank, tab, feed, quote, quotes, start, word, tail, hs.symm, plain, beq_iff_eq,
        Bool.or_eq_true, or_self, if_false, if_true, String.ofList_toList]
      rcases ends with rfl | ⟨more, rfl⟩ <;> rfl

/-- A dot in front of a name is one token. -/
theorem lineTokens_dot (go : Layout -> List Char -> Option (List Token)) (layout : Layout)
    (closed : layout.brackets = []) {c : Char} (ascii : c.toNat < 128)
    (start : isIdentifierStart c = true) (rest : List Char) :
    lineTokens go layout ('.' :: c :: rest) =
      (go { layout with written := true } (c :: rest)).map (.mark "." :: ·) := by
  have facts := of_ascii (p := fun c => !isIdentifierStart c || (c != '.' && !c.isDigit)) (by decide)
    ascii
  simp only [start, Bool.not_true, Bool.false_or, Bool.and_eq_true, bne_iff_ne, ne_eq,
    Bool.not_eq_true'] at facts
  obtain ⟨apart, letter⟩ := facts
  have found : (marks.find? fun m => m.toList.isPrefixOf ('.' :: c :: rest)) = some "." := by
    simp [marks, Ne.symm apart]
  have brackets : bracketsAfter? layout.brackets "." = some layout.brackets := by
    rw [closed]
    rfl
  unfold lineTokens
  split
  · next h => cases h
  · next h => cases h
  · next h => cases h
  · next h => cases h
  · next d more _ _ _ h =>
      cases h
      have name : isIdentifierStart '.' = false := by decide
      have digit : '.'.isDigit = false := by decide
      have one : ".".length = 1 := by decide
      simp [name, digit, letter, found, brackets, one]

/-- The tokens behind a name of a chain are those of the names that follow. -/
theorem tokensFrom_tail {keys : List String} (words : ∀ k ∈ keys, IsWord k) {fuel : Nat}
    (enough : (tailChars keys).length < fuel) :
    tokensFrom fuel ⟨[], [], false, true⟩ (tailChars keys) = some (tailTokens keys) := by
  induction keys generalizing fuel with
  | nil =>
      obtain ⟨n, rfl⟩ := Nat.exists_eq_add_of_lt enough
      rfl
  | cons k rest ih =>
      have word := words k List.mem_cons_self
      have later : ∀ k ∈ rest, IsWord k := fun k' hk => words k' (List.mem_cons_of_mem k hk)
      obtain ⟨c, cs, hs, start⟩ := word.name.nonempty
      have ascii := word.ascii c (by rw [hs]; exact List.mem_cons_self)
      have split : tailChars (k :: rest) = '.' :: (k.toList ++ tailChars rest) := rfl
      rw [split] at enough ⊢
      have long : 0 < k.toList.length := by simp [hs]
      simp only [List.length_cons, List.length_append] at enough
      obtain ⟨n, rfl⟩ : ∃ n, fuel = n + 2 := ⟨fuel - 2, by omega⟩
      have dotted := lineTokens_dot (tokensFrom (n + 1)) ⟨[], [], false, true⟩ rfl ascii start
        (cs ++ tailChars rest)
      rw [← List.cons_append, ← hs] at dotted
      have named := lineTokens_word (tokensFrom n) ⟨[], [], false, true⟩ word (tailChars_ends rest)
      rw [ih later (by omega)] at named
      simp only [tokensFrom, Bool.false_and, Bool.false_eq_true, if_false] at dotted ⊢
      rw [dotted, named]
      rfl

/-- A text that begins with a name begins a line without indentation. -/
theorem tokensFrom_start {c : Char} (inside : IsChainChar c) (fuel : Nat) (cs : List Char) :
    tokensFrom (fuel + 1) ⟨[], [], true, false⟩ (c :: cs) =
      lineTokens (tokensFrom fuel) ⟨[], [], false, false⟩ (c :: cs) := by
  have outside := inside.inside.1
  simp only [outsideChains, List.mem_cons, not_or] at outside
  obtain ⟨_, newline, _, _, comment, blank, tab, feed, _⟩ := outside
  have flush : indentation 0 (c :: cs) = (0, c :: cs) := by
    unfold indentation
    split
    · next h => cases h; exact absurd rfl blank
    · next h => cases h; exact absurd rfl tab
    · next h => cases h; exact absurd rfl feed
    · rfl
  simp only [tokensFrom, List.isEmpty_nil, Bool.and_self, if_true, flush]
  split
  · next h => cases h
  · next h => cases h; exact absurd rfl newline
  · next h => cases h; exact absurd rfl comment
  · simp [leaveBlocks]

/-- The tokens of a chain are its names with dots between them. -/
theorem tokens?_chain {root : String} {keys : List String} (first : IsWord root)
    (words : ∀ k ∈ keys, IsWord k) :
    tokens? (root.toList ++ tailChars keys) = some (.name root :: tailTokens keys) := by
  obtain ⟨c, cs, hs, start⟩ := first.name.nonempty
  have inside : ∀ c ∈ root.toList ++ tailChars keys, IsChainChar c := by
    intro c hc
    rcases List.mem_append.mp hc with hc | hc
    · exact first.name.chainChar hc
    · exact tailChars_chainChar (fun k hk => (words k hk).name) hc
  have begin : tokensFrom ((root.toList ++ tailChars keys).length + 2) ⟨[], [], true, false⟩
      (root.toList ++ tailChars keys) =
        lineTokens (tokensFrom ((root.toList ++ tailChars keys).length + 1)) ⟨[], [], false, false⟩
          (root.toList ++ tailChars keys) := by
    rw [hs, List.cons_append] at inside ⊢
    exact tokensFrom_start (inside c List.mem_cons_self) _ _
  unfold tokens?
  simp only [unifyLineEnds_of_chain inside]
  rw [begin, lineTokens_word _ _ first (tailChars_ends keys), tokensFrom_tail words]
  · rfl
  · rw [List.length_append]
    omega

/-! ## Reading a chain -/

/-- The names that chains of data begin with. -/
def dataRoots : List String := ["inputs", "steps"]

theorem eq_of_dataRoots {root : String} (h : root ∈ dataRoots) :
    root = "inputs" ∨ root = "steps" := by
  simpa [dataRoots] using h

theorem isWord_of_dataRoots {root : String} (h : root ∈ dataRoots) : IsWord root :=
  (by decide : ∀ root ∈ dataRoots, IsWord root) root h

theorem readTrailers_tail {keys : List String} (words : ∀ k ∈ keys, IsWord k) (n : Nat) (e : Expr) :
    readTrailers (n + keys.length + 1) e (tailTokens keys) =
      some (keys.foldl .field e, [.newline]) := by
  induction keys generalizing e with
  | nil => rfl
  | cons k rest ih =>
      have free : reserved.contains k = false := by
        simpa using (words k List.mem_cons_self).free
      have later := ih (fun k' hk => words k' (List.mem_cons_of_mem k hk)) (.field e k)
      rw [List.length_cons, ← Nat.add_assoc]
      simp only [tailTokens, readTrailers, takeName, free, bind]
      exact later

/-! What follows a name in a chain cannot begin a value. -/

section Tail

variable (keys : List String)

theorem takeWord_tail (word : String) : takeWord word (tailTokens keys) = none := by
  cases keys <;> rfl

theorem readFactor_tail (n : Nat) : readFactor n (tailTokens keys) = none := by
  have atom (n : Nat) : readAtom n (tailTokens keys) = none := by
    cases n <;> cases keys <;> rfl
  cases n with
  | zero => rfl
  | succ n => cases keys <;> exact congrArg (· >>= _) (atom n)

theorem readBinary_tail (n level : Nat) : readBinary n level (tailTokens keys) = none := by
  induction n generalizing level with
  | zero => rfl
  | succ n ih =>
      rw [readBinary, readFactor_tail, ih]
      split <;> rfl

theorem readExpression_tail (n : Nat) : readExpression n (tailTokens keys) = none := by
  match n with
  | 0 | 1 | 2 | 3 => cases keys <;> rfl
  | n + 4 =>
      rw [readExpression, takeWord_tail, readDisjunction, readConjunction, readInversion,
        takeWord_tail, readBinary_tail]
      rfl

theorem readMatch_tail (n : Nat) : readMatch n (tailTokens keys) = none := by
  have items (n : Nat) : readItems n ":" (tailTokens keys) = none := by
    match n with
    | 0 => rfl
    | 1 => cases keys <;> rfl
    | 2 => cases keys <;> rfl
    | n + 3 =>
        have value := readExpression_tail keys n
        cases keys <;> exact congrArg (· >>= _) value
  cases n with
  | zero => rfl
  | succ n => rw [readMatch, items n]; rfl

end Tail

section Chain

variable {root : String} (first : IsWord root) {keys : List String}
  (words : ∀ k ∈ keys, IsWord k)
include first

theorem takeWord_chain {word : String} (h : word ∈ reserved) (ts : List Token) :
    takeWord word (.name root :: ts) = none := by
  have apart : (root == word) = false := by
    rw [beq_eq_false_iff_ne]
    rintro rfl
    exact first.free h
  simp only [takeWord, apart, Bool.false_eq_true, if_false]

theorem readAtom_word (n : Nat) (ts : List Token) :
    readAtom (n + 1) (.name root :: ts) = some (.name root, ts) := by
  have free := first.free
  unfold readAtom
  split <;> simp_all [reserved]

include words

theorem readFactor_chain (n : Nat) :
    readFactor (n + keys.length + 2) (.name root :: tailTokens keys) =
      some (Expr.chain root keys, [.newline]) := by
  have atom := readAtom_word first (n + keys.length) (tailTokens keys)
  have await := takeWord_chain first (by decide : "await" ∈ reserved) (tailTokens keys)
  simp only [readFactor, await, Option.getD_none, atom, bind, Option.bind_some,
    readTrailers_tail words n]
  rfl

/-- At each level of operators the chain is the whole operand. -/
theorem readBinary_chain (n loose : Nat) (h : loose ≤ 6) :
    readBinary (n + keys.length + 3 + loose) (6 - loose) (.name root :: tailTokens keys) =
      some (Expr.chain root keys, [.newline]) := by
  induction loose with
  | zero => exact readFactor_chain first words n
  | succ loose ih =>
      have level : ¬ 6 ≤ 6 - (loose + 1) := by omega
      have next : 6 - (loose + 1) + 1 = 6 - loose := by omega
      obtain ⟨fuel, more⟩ : ∃ fuel, n + keys.length + 3 + loose = fuel + 1 :=
        ⟨n + keys.length + 2 + loose, by omega⟩
      rw [← Nat.add_assoc, readBinary, if_neg level, next, ih (by omega), more]
      rfl

theorem readExpression_chain (n : Nat) :
    readExpression (n + keys.length + 13) (.name root :: tailTokens keys) =
      some (Expr.chain root keys, [.newline]) := by
  have operand := readBinary_chain first words n 6 (by omega)
  have inversion : readInversion (n + keys.length + 10) (.name root :: tailTokens keys) =
      some (Expr.chain root keys, [.newline]) := by
    rw [readInversion, takeWord_chain first (by decide)]
    simp only [operand, bind, Option.bind_some]
    rfl
  have conjunction : readConjunction (n + keys.length + 11) (.name root :: tailTokens keys) =
      some (Expr.chain root keys, [.newline]) := by
    rw [readConjunction, inversion]
    rfl
  have disjunction : readDisjunction (n + keys.length + 12) (.name root :: tailTokens keys) =
      some (Expr.chain root keys, [.newline]) := by
    rw [readDisjunction, conjunction]
    rfl
  rw [readExpression, takeWord_chain first (by decide)]
  simp only [disjunction, bind, Option.bind_some]
  rfl

theorem readList_chain (n : Nat) :
    readList (n + keys.length + 15) (.name root :: tailTokens keys) =
      some (Expr.chain root keys, [.newline]) := by
  have items : readListItems (n + keys.length + 14) (.name root :: tailTokens keys) =
      some ([Expr.chain root keys], false, [.newline]) := by
    rw [readListItems]
    simp only [takeMark, readExpression_chain first words n, bind, Option.bind_some]
  rw [readList, items]
  rfl

theorem readSimple_chain (n : Nat) :
    readSimple (n + keys.length + 15) (.name root :: tailTokens keys) =
      some (.value (Expr.chain root keys), [.newline]) := by
  have whole := readList_chain first words n
  unfold readSimple
  -- every word that begins another statement is reserved
  split <;> try (next h => cases h; exact (first.free (by decide)).elim)
  simp only [whole, bind, Option.bind_some]

/-- A chain is read as the first name and one attribute after another. -/
theorem readAll_chain (n : Nat) :
    readAll (n + keys.length + 17) (.name root :: tailTokens keys) =
      some [.value (Expr.chain root keys)] := by
  have line : readLine (n + keys.length + 15) (n + keys.length + 15)
      (.name root :: tailTokens keys) = some ([.value (Expr.chain root keys)], []) := by
    rw [readLine, readSimple_chain first words n]
    rfl
  have statement : readStatements (n + keys.length + 16) (.name root :: tailTokens keys) =
      some ([.value (Expr.chain root keys)], []) := by
    unfold readStatements
    split <;> try (next h => cases (List.cons.inj h).1; exact (first.free (by decide)).elim)
    · next h =>
        cases h
        simp only [readMatch_tail]
        exact line
    · next h => cases h
    · exact line
  rw [readAll, statement]
  · rfl
  · intro h
    cases h

end Chain

theorem trim_chain {cs : List Char} (h : ∀ c ∈ cs, IsChainChar c) :
    Text.trim isBlank cs = cs := by
  have start (ds : List Char) (hd : ∀ c ∈ ds, IsChainChar c) : ds.dropWhile isBlank = ds := by
    cases ds with
    | nil => rfl
    | cons d ds =>
        exact List.dropWhile_cons_of_neg (by simp [(hd d List.mem_cons_self).inside.2])
  have reversed : cs.reverse.dropWhile isBlank = cs.reverse :=
    start cs.reverse fun c hc => h c (List.mem_reverse.mp hc)
  rw [Text.trim, Text.trimEnd, Text.trimStart, start cs h, reversed, List.reverse_reverse]

theorem chainText_chars {root : String} {keys : List String} (first : IsName root)
    (words : ∀ k ∈ keys, IsName k) {c : Char} (hc : c ∈ (chainText root keys).toList) :
    IsChainChar c := by
  rw [toList_chainText] at hc
  rcases List.mem_append.mp hc with hc | hc
  · exact first.chainChar hc
  · exact tailChars_chainChar words hc

theorem length_tailChars (keys : List String) : keys.length ≤ (tailChars keys).length := by
  induction keys with
  | nil => exact Nat.zero_le _
  | cons k rest ih =>
      have split : tailChars (k :: rest) = '.' :: (k.toList ++ tailChars rest) := rfl
      rw [split, List.length_cons, List.length_cons, List.length_append]
      omega

/-- A chain is one value: the first name and one attribute after another. -/
theorem read_chain {root : String} {keys : List String} (first : IsWord root)
    (words : ∀ k ∈ keys, IsWord k) :
    read (chainText root keys) = .statement (.value (Expr.chain root keys)) := by
  have untrimmed := trim_chain fun c hc =>
    chainText_chars first.name (fun k hk => (words k hk).name) hc
  have short := length_tailChars keys
  rw [toList_chainText] at untrimmed
  unfold read
  rw [toList_chainText]
  simp only [untrimmed, tokens?_chain first words]
  have enough : 24 * ((root.toList ++ tailChars keys).length + 4) =
      (24 * ((root.toList ++ tailChars keys).length + 4) - keys.length - 17) + keys.length + 17 := by
    rw [List.length_append]
    omega
  rw [enough, readAll_chain first words]

end Reading

/-- A chain is an expression. -/
theorem Expr.statementOf_chain {root : String} {keys : List String} (first : IsWord root)
    (words : ∀ k ∈ keys, IsWord k) :
    statementOf (chainText root keys) = .ok (chain root keys) := by
  have zero : (chainText root keys).toList.contains '\x00' = false := by
    rw [Bool.eq_false_iff]
    intro inside
    have char := Reading.chainText_chars first.name (fun k hk => (words k hk).name)
      (List.contains_iff_mem.mp inside)
    exact char.inside.1 (by decide)
  simp only [statementOf, zero, Reading.read_chain first words, Bool.false_eq_true, if_false]

/-! ## Tokens in a chain -/

namespace Reference

/-- A text without quotes and braces has no tokens. -/
theorem parts_of_chain {cs : List Char} (h : ∀ c ∈ cs, IsChainChar c) :
    parts cs = cs.map .char := by
  induction cs with
  | nil => rw [parts]; rfl
  | cons c rest ih =>
      have outside := (h c List.mem_cons_self).inside.1
      simp only [outsideChains, List.mem_cons, not_or] at outside
      obtain ⟨_, _, _, _, _, _, _, _, single, double, brace, _⟩ := outside
      have unquoted : quotedAt? (c :: rest) = none := by
        simp [quotedAt?, single, double]
      have bare : tokenAt? (c :: rest) = none := by
        unfold tokenAt?
        split
        · next h => cases h; exact absurd rfl brace
        · rfl
      rw [parts]
      split
      · next found => rw [unquoted] at found; cases found
      · split
        · next found => rw [bare] at found; cases found
        · rw [ih fun d hd => h d (List.mem_cons_of_mem c hd)]
          rfl

theorem bindParts_chars (scope : Value) (reserved : List String) (b : Bound) (cs : List Char)
    (f : Fresh) :
    bindParts scope reserved b (cs.map .char) f = .ok { b with text := b.text ++ cs } f := by
  induction cs generalizing b with
  | nil => simp [bindParts, pure, EStateM.pure]
  | cons c rest ih =>
      have later := ih (b.write [c])
      simp only [Bound.write, List.append_assoc, List.singleton_append] at later
      exact later

/-- Binding leaves a chain as it is. -/
theorem bind_of_chain (scope : Value) (reserved : List String) {text : String}
    (h : ∀ c ∈ text.toList, IsChainChar c) (f : Fresh) :
    bind scope reserved text f = .ok ⟨text.toList, [], []⟩ f := by
  rw [bind, parts_of_chain h, bindParts_chars]
  rfl

end Reference

end Workflow
