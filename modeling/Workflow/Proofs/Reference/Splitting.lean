import Workflow.Proofs.Reference.Plain
import Workflow.Proofs.Reference.Returning

/-!
# What a value with tokens resolves to

A text is cut at its leftmost tokens and each token is read once, from left to right.  What
is put in for a token is not cut again, and everything around the tokens stays.
-/

namespace Workflow

open Effect (bind_ok ok_bind)

namespace Reference

/-! ## Leftmost tokens -/

/-- The inside of a token: some characters, none of which closes it. -/
def IsInside (inside : List Char) : Prop :=
  inside ≠ [] ∧ '\x7d' ∉ inside

theorem tokenAt?_eq_some_iff {cs inside after : List Char} :
    tokenAt? cs = some (inside, after) ↔ IsInside inside ∧ cs = written inside ++ after := by
  constructor
  · intro h
    refine ⟨?_, tokenAt?_split h⟩
    unfold tokenAt? at h
    split at h
    · next rest =>
        dsimp only at h
        split at h
        · next tail ended =>
            split at h
            · cases h
            · next some =>
                cases h
                refine ⟨fun none => some (by rw [none]; rfl), fun mem => ?_⟩
                have unclosed : ∀ c ∈ rest.takeWhile (· != '\x7d'), (c != '\x7d') = true :=
                  List.all_eq_true.mp List.all_takeWhile
                exact absurd rfl (bne_iff_ne.mp (unclosed _ mem))
        · cases h
    · cases h
  · rintro ⟨⟨some, closed⟩, rfl⟩
    have inner : ∀ c ∈ inside, (c != '\x7d') = true := fun c hc =>
      bne_iff_ne.mpr fun same => closed (same ▸ hc)
    have filled : inside.isEmpty = false := by simpa using some
    simp [written, tokenAt?, List.takeWhile_append_of_pos inner,
      List.dropWhile_append_of_pos inner, filled]

/--
A text cut at its leftmost tokens: a token is taken wherever one begins, and a character
stands by itself only where none begins.
-/
inductive Cut : List Char -> List Piece -> Prop where
  | nil : Cut [] []
  | token {inside rest : List Char} {ps : List Piece} (proper : IsInside inside)
      (later : Cut rest ps) : Cut (written inside ++ rest) (.token inside :: ps)
  | char {c : Char} {rest : List Char} {ps : List Piece}
      (bare : ∀ inside after, IsInside inside -> c :: rest ≠ written inside ++ after)
      (later : Cut rest ps) : Cut (c :: rest) (.char c :: ps)

theorem pieces_token {inside rest : List Char} (proper : IsInside inside) :
    pieces (written inside ++ rest) = .token inside :: pieces rest := by
  have found : tokenAt? (written inside ++ rest) = some (inside, rest) :=
    tokenAt?_eq_some_iff.mpr ⟨proper, rfl⟩
  have begins : written inside ++ rest =
      '\x7b' :: ('\x7b' :: inside ++ ['\x7d', '\x7d'] ++ rest) := rfl
  rw [begins] at found ⊢
  rw [pieces_cons, found]

theorem tokenAt?_eq_none_iff {cs : List Char} : tokenAt? cs = none ↔
    ∀ inside after, IsInside inside -> cs ≠ written inside ++ after := by
  constructor
  · intro none inside after proper same
    rw [tokenAt?_eq_some_iff.mpr ⟨proper, same⟩] at none
    cases none
  · intro bare
    cases found : tokenAt? cs with
    | none => rfl
    | some token =>
        obtain ⟨proper, same⟩ := tokenAt?_eq_some_iff.mp found
        exact absurd same (bare _ _ proper)

theorem cut_pieces (cs : List Char) : Cut cs (pieces cs) := by
  induction cs using pieces.induct with
  | case1 => rw [pieces]; exact .nil
  | case2 c rest inside after found ih =>
      obtain ⟨proper, whole⟩ := tokenAt?_eq_some_iff.mp found
      rw [whole, pieces_token proper]
      exact .token proper ih
  | case3 c rest none ih =>
      rw [pieces_cons, none]
      exact .char (tokenAt?_eq_none_iff.mp none) ih

/-- Each text is cut in one way. -/
theorem cut_iff {cs : List Char} {ps : List Piece} : Cut cs ps ↔ pieces cs = ps := by
  constructor
  · intro cut
    induction cut with
    | nil => rw [pieces]
    | token proper _ ih => rw [pieces_token proper, ih]
    | char bare _ ih => rw [pieces_cons, tokenAt?_eq_none_iff.mpr bare, ih]
  · rintro rfl
    exact cut_pieces cs

/-- A cut loses nothing. -/
theorem Cut.chars {cs : List Char} {ps : List Piece} (cut : Cut cs ps) :
    ps.flatMap Piece.chars = cs := by
  induction cut with
  | nil => rfl
  | token _ _ ih => rw [List.flatMap_cons, ih]; rfl
  | char _ _ ih => rw [List.flatMap_cons, ih]; rfl

end Reference

namespace Value

/-- A value that stays what it is: neither a text nor a list, a tuple or a dictionary. -/
def isLeaf : Value -> Bool
  | .str _ => false
  | .list _ => false
  | .tuple _ => false
  | .dict _ => false
  | .object _ (.float _) => true
  | .object _ (.set _) => true
  | .object _ _ => false
  | _ => true

end Value

namespace Reference

/-! ## What tokens are replaced by -/

/--
What takes the place of stretches of a text, one after another: a character stays, and so
does a token whose path leads nowhere; the text of the value takes the place of any other.
-/
inductive Fills (scope : Value) : List Piece -> Fresh -> List Char -> Fresh -> Prop where
  | nil {f : Fresh} : Fills scope [] f [] f
  | char {c : Char} {rest : List Piece} {cs : List Char} {f g : Fresh}
      (later : Fills scope rest f cs g) : Fills scope (.char c :: rest) f (c :: cs) g
  | absent {inside cs : List Char} {rest : List Piece} {f g h : Fresh}
      (nowhere : valueAt? scope (pathOf inside) f = .ok none g)
      (later : Fills scope rest g cs h) :
      Fills scope (.token inside :: rest) f (written inside ++ cs) h
  | found {inside cs : List Char} {rest : List Piece} {v : Value} {text : String} {f g h : Fresh}
      (found : valueAt? scope (pathOf inside) f = .ok (some v) g)
      (shown : inlineText v = .ok text) (later : Fills scope rest g cs h) :
      Fills scope (.token inside :: rest) f (text.toList ++ cs) h

mutual

/--
What a value resolves to.  A text that is one token becomes the value at its path, or stays
when there is none; in other texts the tokens are replaced.  Items and the values of
entries are resolved one after another, keys stay, and so does every other value.
-/
inductive Resolves (scope : Value) : Value -> Fresh -> Value -> Fresh -> Prop where
  | found {s : String} {inside : List Char} {v : Value} {f g : Fresh}
      (alone : Cut s.toList [.token inside])
      (found : valueAt? scope (pathOf inside) f = .ok (some v) g) : Resolves scope (.str s) f v g
  | absent {s : String} {inside : List Char} {f g : Fresh} (alone : Cut s.toList [.token inside])
      (nowhere : valueAt? scope (pathOf inside) f = .ok none g) :
      Resolves scope (.str s) f (.str s) g
  | mixed {s : String} {ps : List Piece} {cs : List Char} {f g : Fresh} (cut : Cut s.toList ps)
      (several : ∀ inside, ps ≠ [.token inside]) (filled : Fills scope ps f cs g) :
      Resolves scope (.str s) f (.str (String.ofList cs)) g
  | list {items others : List Value} {f g : Fresh} (each : ResolvesAll scope items f others g) :
      Resolves scope (.list items) f (.list others) g
  | tuple {items others : List Value} {f g : Fresh} (each : ResolvesAll scope items f others g) :
      Resolves scope (.tuple items) f (.list others) g
  | dict {entries others : List (Value × Value)} {f g : Fresh}
      (keys : others.map Prod.fst = entries.map Prod.fst)
      (each : ResolvesAll scope (entries.map Prod.snd) f (others.map Prod.snd) g) :
      Resolves scope (.dict entries) f (.dict others) g
  | marked {mark : Mark} {content v : Value} {f g : Fresh}
      (inner : (Value.object mark content).isLeaf = false) (within : Resolves scope content f v g) :
      Resolves scope (.object mark content) f v g
  | leaf {v : Value} {f : Fresh} (leaf : v.isLeaf = true) : Resolves scope v f v f

/-- What items resolve to, one after another. -/
inductive ResolvesAll (scope : Value) : List Value -> Fresh -> List Value -> Fresh -> Prop where
  | nil {f : Fresh} : ResolvesAll scope [] f [] f
  | cons {x y : Value} {rest others : List Value} {f g h : Fresh} (here : Resolves scope x f y g)
      (later : ResolvesAll scope rest g others h) :
      ResolvesAll scope (x :: rest) f (y :: others) h

end

variable {scope : Value} {f g : Fresh}

theorem piecesText_iff {ps : List Piece} {cs : List Char} :
    piecesText scope ps f = .ok cs g ↔ Fills scope ps f cs g := by
  constructor
  · intro h
    induction ps generalizing f cs with
    | nil => cases h; exact .nil
    | cons p rest ih =>
        obtain ⟨front, t, here, later⟩ := bind_ok h
        obtain ⟨back, u, behind, ended⟩ := bind_ok later
        cases ended
        cases p with
        | char c => cases here; exact .char (ih behind)
        | token inside =>
            obtain ⟨v, w, looked, shown⟩ := bind_ok here
            cases v with
            | none => cases shown; exact .absent looked (ih behind)
            | some v =>
                obtain ⟨text, z, given, ended⟩ := bind_ok shown
                cases ended
                obtain ⟨textual, rfl⟩ := liftOutcome_ok given
                exact .found looked textual (ih behind)
  · intro filled
    induction filled with
    | nil => rfl
    | char _ ih =>
        simp only [piecesText, pieceText, Bind.bind, EStateM.bind, pure, EStateM.pure, ih,
          List.singleton_append]
    | absent nowhere _ ih =>
        simp only [piecesText, pieceText, Bind.bind, EStateM.bind, nowhere, pure, EStateM.pure, ih]
    | found found shown _ ih =>
        simp only [piecesText, pieceText, Bind.bind, EStateM.bind, found, shown, liftOutcome, pure,
          EStateM.pure, ih]

/-! ## What values resolve to -/

theorem resolveText_iff {s : String} {w : Value} :
    resolveText scope s f = .ok w g ↔ Resolves scope (.str s) f w g := by
  constructor
  · intro h
    by_cases alone : ∃ inside, pieces s.toList = [.token inside]
    · obtain ⟨inside, alone⟩ := alone
      rw [resolveText_alone alone] at h
      obtain ⟨v, t, looked, ended⟩ := bind_ok h
      cases v with
      | none => cases ended; exact .absent (cut_iff.mpr alone) looked
      | some v => cases ended; exact .found (cut_iff.mpr alone) looked
    · have several : ∀ inside, pieces s.toList ≠ [.token inside] := fun inside same =>
        alone ⟨inside, same⟩
      rw [resolveText_mixed several] at h
      obtain ⟨cs, t, filled, ended⟩ := bind_ok h
      cases ended
      exact .mixed (cut_pieces _) several (piecesText_iff.mp filled)
  · intro resolves
    cases resolves with
    | found alone found =>
        rw [resolveText_alone (cut_iff.mp alone)]
        exact ok_bind found rfl
    | absent alone nowhere =>
        rw [resolveText_alone (cut_iff.mp alone)]
        exact ok_bind nowhere rfl
    | mixed cut several filled =>
        obtain rfl := cut_iff.mp cut
        rw [resolveText_mixed several]
        exact ok_bind (piecesText_iff.mpr filled) rfl
    | leaf no => cases no

theorem resolve_leaf {v : Value} (leaf : v.isLeaf = true) : resolve scope v = pure v := by
  cases v with
  | str s => cases leaf
  | list items => cases leaf
  | tuple items => cases leaf
  | dict entries => cases leaf
  | object mark content =>
      cases content with
      | float x => rw [resolve]
      | set items => rw [resolve]
      | _ => cases leaf
  | _ => rw [resolve] <;> nofun

theorem resolve_leaf_iff {v w : Value} (leaf : v.isLeaf = true) :
    resolve scope v f = .ok w g ↔ Resolves scope v f w g := by
  rw [resolve_leaf leaf]
  constructor
  · intro h
    cases h
    exact .leaf leaf
  · intro resolves
    cases resolves with
    | leaf => rfl
    | marked inner => rw [leaf] at inner; cases inner
    | _ => cases leaf

mutual

theorem resolve_iff (v : Value) {f g : Fresh} {w : Value} :
    resolve scope v f = .ok w g ↔ Resolves scope v f w g := by
  match v with
  | .str s => exact resolveText_iff
  | .list items =>
      constructor
      · intro h
        obtain ⟨others, t, each, ended⟩ := bind_ok h
        cases ended
        exact .list ((resolveItems_iff items).mp each)
      · intro resolves
        cases resolves with
        | list each => exact ok_bind ((resolveItems_iff items).mpr each) rfl
        | leaf no => cases no
  | .tuple items =>
      constructor
      · intro h
        obtain ⟨others, t, each, ended⟩ := bind_ok h
        cases ended
        exact .tuple ((resolveItems_iff items).mp each)
      · intro resolves
        cases resolves with
        | tuple each => exact ok_bind ((resolveItems_iff items).mpr each) rfl
        | leaf no => cases no
  | .dict entries =>
      constructor
      · intro h
        obtain ⟨others, t, each, ended⟩ := bind_ok h
        cases ended
        obtain ⟨keys, values⟩ := (resolveEntries_iff entries).mp each
        exact .dict keys values
      · intro resolves
        cases resolves with
        | dict keys values => exact ok_bind ((resolveEntries_iff entries).mpr ⟨keys, values⟩) rfl
        | leaf no => cases no
  | .object mark content =>
      have within := resolve_iff content (f := f) (g := g) (w := w)
      cases content with
      | float x => exact resolve_leaf_iff rfl
      | set items => exact resolve_leaf_iff rfl
      | _ =>
          constructor
          · intro h
            exact .marked rfl (within.mp h)
          · intro resolves
            cases resolves with
            | marked _ inner => exact within.mpr inner
            | leaf no => cases no
  | .null | .bool _ | .int _ | .float _ | .sealed _ | .set _ | .bytes _ | .datetime _ | .date _
  | .complex .. | .span _ | .function _ | .converter _ | .method .. | .view .. | .range ..
  | .undefined .. | .markup _ | .stream .. | .slot .. | .foreign _ => exact resolve_leaf_iff rfl

theorem resolveItems_iff (items : List Value) {f g : Fresh} {others : List Value} :
    resolveItems scope items f = .ok others g ↔ ResolvesAll scope items f others g := by
  match items with
  | [] =>
      constructor
      · intro h; cases h; exact .nil
      · intro each; cases each; rfl
  | x :: rest =>
      constructor
      · intro h
        obtain ⟨y, t, here, later⟩ := bind_ok h
        obtain ⟨ys, u, each, ended⟩ := bind_ok later
        cases ended
        exact .cons ((resolve_iff x).mp here) ((resolveItems_iff rest).mp each)
      · intro each
        cases each with
        | cons here later =>
            exact ok_bind ((resolve_iff x).mpr here) (ok_bind ((resolveItems_iff rest).mpr later) rfl)

theorem resolveEntries_iff (entries : List (Value × Value)) {f g : Fresh}
    {others : List (Value × Value)} :
    resolveEntries scope entries f = .ok others g ↔
      others.map Prod.fst = entries.map Prod.fst ∧
        ResolvesAll scope (entries.map Prod.snd) f (others.map Prod.snd) g := by
  match entries with
  | [] =>
      constructor
      · intro h; cases h; exact ⟨rfl, .nil⟩
      · rintro ⟨keys, each⟩
        obtain rfl := List.map_eq_nil_iff.mp keys
        cases each
        rfl
  | (k, v) :: rest =>
      constructor
      · intro h
        obtain ⟨w, t, here, later⟩ := bind_ok h
        obtain ⟨others, u, each, ended⟩ := bind_ok later
        cases ended
        obtain ⟨keys, values⟩ := (resolveEntries_iff rest).mp each
        exact ⟨congrArg (k :: ·) keys, .cons ((resolve_iff v).mp here) values⟩
      · rintro ⟨keys, each⟩
        match others with
        | [] => cases keys
        | (l, w) :: others =>
            obtain ⟨rfl, same⟩ := List.cons.inj keys
            cases each with
            | cons here later =>
                have back := (resolveEntries_iff rest).mpr ⟨same, later⟩
                exact ok_bind ((resolve_iff v).mpr here) (ok_bind back rfl)

end

/--
If all paths of a value can be looked up, the value resolves to what the relation says, and
it does so exactly if there is a text for each value that is put in other text.
-/
theorem resolve_splits (v : Value) (lookups : ∀ s ∈ v.texts, ∀ path ∈ pathsOf s, Looks scope path)
    (f : Fresh) :
    (∀ w g, resolve scope v f = .ok w g ↔ Resolves scope v f w g) ∧
      ((∃ w g, resolve scope v f = .ok w g) ↔
        ∀ s ∈ v.texts, ∀ path ∈ embedded s, Shows scope path) := by
  refine ⟨fun w g => resolve_iff v, (returnsIff_resolve v f).trans ?_⟩
  exact forall₂_congr fun s hs => and_iff_right (lookups s hs)

/-- A scope with one input, which looks like a token itself. -/
def bracedScope : Value :=
  .dict [(.str "inputs", .dict [(.str "x", .str "\x7b\x7b inputs.x \x7d\x7d")])]

/-- A token in other text, beside one that leads nowhere. -/
def mixedTokens : String :=
  "<\x7b\x7binputs.x\x7d\x7d\x7b\x7b nope \x7d\x7d>"

/-- A token alone and one in other text, in a tuple of a dictionary. -/
def nestedTokens : Value :=
  .dict [(.str "a", .tuple [.str "\x7b\x7binputs.x\x7d\x7d", .str mixedTokens, .int 3])]

/-- What is put in looks like a token and stays; the tuple becomes a list. -/
theorem resolve_splits_nested : Resolves bracedScope nestedTokens morning
    (.dict [(.str "a", .list [.str "\x7b\x7b inputs.x \x7d\x7d",
      .str "<\x7b\x7b inputs.x \x7d\x7d\x7b\x7b nope \x7d\x7d>", .int 3])]) morning := by
  have alone : pieces "\x7b\x7binputs.x\x7d\x7d".toList = [.token "inputs.x".toList] := by
    decide +kernel
  have mixed : pieces mixedTokens.toList =
      [.char '<', .token "inputs.x".toList, .token " nope ".toList, .char '>'] := by
    decide +kernel
  have lookups : ∀ s ∈ nestedTokens.texts, ∀ path ∈ pathsOf s, Looks bracedScope path := by
    have there : Looks bracedScope "inputs.x" := .inr ⟨_, rfl⟩
    have nowhere : Looks bracedScope "nope" := .inr ⟨_, rfl⟩
    have first : pathsOf "\x7b\x7binputs.x\x7d\x7d" = ["inputs.x"] := by decide +kernel
    have second : pathsOf mixedTokens = ["inputs.x", "nope"] := by decide +kernel
    simp [nestedTokens, Value.texts, Value.textsOfEntries, Value.textsOfItems, first, second,
      there, nowhere]
  refine ((resolve_splits nestedTokens lookups morning).1 _ _).mp ?_
  simp only [nestedTokens, resolve, resolveEntries, resolveItems, resolveText_alone alone]
  rw [resolveText, mixed]
  rfl

/-- A scope with one input, which is a dictionary with a key that is no text. -/
def keyedScope : Value :=
  .dict [(.str "inputs", .dict [(.str "m", .dict [(.tuple [.int 1], .int 2)])])]

/-- Every path can be looked up, but a value has no text. -/
theorem resolve_keyed :
    (∀ s ∈ (Value.str "total: \x7b\x7b inputs.m \x7d\x7d").texts, ∀ path ∈ pathsOf s,
        Looks keyedScope path) ∧
      resolve keyedScope (.str "total: \x7b\x7b inputs.m \x7d\x7d") morning =
        .error (.badArgument "keys must be str, int, float, bool or None, not tuple") morning := by
  have paths : pathsOf "total: \x7b\x7b inputs.m \x7d\x7d" = ["inputs.m"] := by decide +kernel
  have there : Looks keyedScope "inputs.m" := .inr ⟨_, rfl⟩
  have cut : pieces "total: \x7b\x7b inputs.m \x7d\x7d".toList =
      "total: ".toList.map .char ++ [.token " inputs.m ".toList] := by decide +kernel
  refine ⟨by simp [Value.texts, paths, there], ?_⟩
  rw [resolve, resolveText, cut]
  rfl

end Reference

end Workflow
