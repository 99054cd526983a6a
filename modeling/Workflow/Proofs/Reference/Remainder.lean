import Workflow.Proofs.Json.Scalar
import Workflow.Proofs.Reference.Splitting

/-!
# The tokens that are left

What is put in for tokens is not read again, but the text it was put into may be.  Where nothing
that was put in has a brace, the tokens of the new text are those of the old one whose paths lead
nowhere: none begins or ends at the seams.
-/

namespace Workflow

open Effect (ok_bind)

namespace Reference

/-! ## Texts without braces -/

/-- Characters of which none is a brace. -/
def Braceless (cs : List Char) : Prop :=
  '\x7b' ∉ cs ∧ '\x7d' ∉ cs

instance (cs : List Char) : Decidable (Braceless cs) :=
  inferInstanceAs (Decidable (_ ∧ _))

section Braceless

variable {cs ds : List Char}

theorem Braceless.append (front : Braceless cs) (back : Braceless ds) : Braceless (cs ++ ds) :=
  ⟨by simp [front.1, back.1], by simp [front.2, back.2]⟩

theorem braceless_of_digits (digits : ∀ c ∈ cs, c.isDigit = true) : Braceless cs :=
  ⟨fun mem => absurd (digits _ mem) (by decide), fun mem => absurd (digits _ mem) (by decide)⟩

theorem braceless_padded (width n : Nat) : Braceless (padded width n).toList := by
  refine braceless_of_digits fun c hc => ?_
  rw [padded, String.toList_ofList, Number.zeroPad, List.mem_append, List.mem_replicate] at hc
  rcases hc with ⟨-, rfl⟩ | digit
  · decide
  · exact Json.isDigit_toDigits n c digit

theorem braceless_identifierText (n : Nat) : Braceless (Fresh.identifierText n).toList := by
  unfold Fresh.identifierText
  rw [String.toList_append]
  refine Braceless.append ?_ (braceless_padded 12 n)
  decide +kernel

theorem braceless_isoText (d : Date) : Braceless d.isoText.toList := by
  have dash : Braceless "-".toList := by decide +kernel
  have pad := braceless_padded
  simp only [Date.isoText, toString, String.toList_append]
  exact ((((pad 4 _).append dash).append (pad 2 _)).append dash).append (pad 2 _)

theorem braceless_stampText (t : DateTime) : Braceless t.stampText.toList := by
  have middle : Braceless "T".toList := by decide +kernel
  have colon : Braceless ":".toList := by decide +kernel
  have point : Braceless ".".toList := by decide +kernel
  have last : Braceless "Z".toList := by decide +kernel
  have pad := braceless_padded
  have date := braceless_isoText (DateTime.ofFaceMicroseconds t.utcMicroseconds none).date
  simp only [DateTime.stampText, toString, String.toList_append]
  exact ((((((((date.append middle).append (pad 2 _)).append colon).append (pad 2 _)).append
    colon).append (pad 2 _)).append point).append (pad 3 _)).append last

/-- A brace opens each token. -/
theorem tokenAt?_of_ne {c : Char} (other : c ≠ '\x7b') (cs : List Char) :
    tokenAt? (c :: cs) = none := by
  refine tokenAt?_eq_none_iff.mpr fun inside after _ same => ?_
  exact other (List.cons.inj same).1

theorem pieces_append (braceless : '\x7b' ∉ cs) (ds : List Char) :
    pieces (cs ++ ds) = cs.map Piece.char ++ pieces ds := by
  induction cs with
  | nil => rfl
  | cons c rest ih =>
      obtain ⟨other, braceless⟩ := not_or.mp (List.mem_cons.not.mp braceless)
      rw [List.cons_append, pieces_cons, tokenAt?_of_ne (Ne.symm other), ih braceless]
      rfl

theorem path?_chars (cs : List Char) : (cs.map Piece.char).filterMap Piece.path? = [] := by
  induction cs with
  | nil => rfl
  | cons c rest ih => exact ih

theorem pathsOf_of_braceless {s : String} (braceless : Braceless s.toList) : pathsOf s = [] := by
  have whole := pieces_append braceless.1 []
  rw [List.append_nil, pieces, List.append_nil] at whole
  rw [pathsOf_eq, whole, path?_chars]

end Braceless

/-! ## Mended texts -/

/-- A path that is looked up and leads nowhere. -/
def isAbsent (scope : Value) (path : String) : Bool :=
  !isDrawn path && match lookup? scope path with
    | .ok none => true
    | _ => false

/-- Some tokens stay as they are written; characters without braces take the place of the rest. -/
inductive Mended (stays : String -> Bool) : List Piece -> List Char -> Prop where
  | nil : Mended stays [] []
  | char {c : Char} {ps : List Piece} {cs : List Char} (later : Mended stays ps cs) :
      Mended stays (.char c :: ps) (c :: cs)
  | left {inside cs : List Char} {ps : List Piece} (left : stays (pathOf inside) = true)
      (later : Mended stays ps cs) : Mended stays (.token inside :: ps) (written inside ++ cs)
  | replaced {inside text cs : List Char} {ps : List Piece} (gone : stays (pathOf inside) = false)
      (filled : text ≠ []) (braceless : Braceless text) (later : Mended stays ps cs) :
      Mended stays (.token inside :: ps) (text ++ cs)

section Mended

variable {stays : String -> Bool} {cs out : List Char} {ps : List Piece}

/-- A text whose first closing brace has another one behind it. -/
def Closes (cs : List Char) : Prop :=
  ∃ inside after, '\x7d' ∉ inside ∧ cs = inside ++ '\x7d' :: '\x7d' :: after

theorem closes_cons {c : Char} (other : c ≠ '\x7d') : Closes (c :: cs) ↔ Closes cs := by
  constructor
  · rintro ⟨inside, after, closed, same⟩
    cases inside with
    | nil => exact absurd (List.cons.inj same).1 other
    | cons d inside =>
        obtain ⟨-, same⟩ := List.cons.inj same
        exact ⟨inside, after, fun mem => closed (List.mem_cons_of_mem d mem), same⟩
  · rintro ⟨inside, after, closed, rfl⟩
    exact ⟨c :: inside, after, by simp [closed, Ne.symm other], rfl⟩

theorem closes_brace : Closes ('\x7d' :: cs) ↔ cs.head? = some '\x7d' := by
  constructor
  · rintro ⟨inside, after, closed, same⟩
    cases inside with
    | nil =>
        obtain ⟨-, rfl⟩ := List.cons.inj same
        rfl
    | cons d inside =>
        obtain ⟨rfl, -⟩ := List.cons.inj same
        exact absurd List.mem_cons_self closed
  · intro next
    obtain ⟨rest, rfl⟩ := List.head?_eq_some_iff.mp next
    exact ⟨[], rest, List.not_mem_nil, rfl⟩

theorem closes_written {inside : List Char} (proper : IsInside inside) (rest : List Char) :
    Closes (written inside ++ rest) :=
  ⟨'\x7b' :: '\x7b' :: inside, rest, by simp [proper.2], by simp [written]⟩

theorem written_append (inside after : List Char) : written inside ++ after =
    '\x7b' :: '\x7b' :: (inside ++ '\x7d' :: '\x7d' :: after) := by
  simp [written]

theorem head?_written {inside : List Char} (rest : List Char) :
    (written inside ++ rest).head? = some '\x7b' :=
  rfl

theorem head?_braceless {text : List Char} (filled : text ≠ []) (braceless : Braceless text)
    (rest : List Char) : ∃ c, (text ++ rest).head? = some c ∧ c ≠ '\x7b' ∧ c ≠ '\x7d' := by
  obtain ⟨c, more, rfl⟩ := List.exists_cons_of_ne_nil filled
  exact ⟨c, rfl, fun same => braceless.1 (same ▸ List.mem_cons_self),
    fun same => braceless.2 (same ▸ List.mem_cons_self)⟩

/-- A closing brace begins the new text only where one began the old text. -/
theorem Mended.head?_closing (cut : Cut cs ps) (mended : Mended stays ps out) :
    out.head? = some '\x7d' ↔ cs.head? = some '\x7d' := by
  cases mended with
  | nil => cases cut; exact Iff.rfl
  | char _ => cases cut; exact Iff.rfl
  | left _ _ =>
      cases cut
      rw [head?_written, head?_written]
  | replaced _ filled braceless _ =>
      cases cut
      obtain ⟨c, head, -, other⟩ := head?_braceless filled braceless _
      rw [head, head?_written]
      exact iff_of_false (fun same => other (Option.some.inj same)) (by decide)

/-- Braces close in the new text only where they closed in the old text. -/
theorem Mended.closes (cut : Cut cs ps) (mended : Mended stays ps out) (closes : Closes out) :
    Closes cs := by
  induction cut generalizing out with
  | nil => cases mended; exact closes
  | token proper _ _ => exact closes_written proper _
  | @char c rest ps _ later ih =>
      cases mended with
      | char mended =>
          by_cases closing : c = '\x7d'
          · rw [closing, closes_brace] at closes ⊢
            exact (mended.head?_closing later).mp closes
          · rw [closes_cons closing] at closes ⊢
            exact ih mended closes

/-- No token begins in front of a text that was mended where none began before. -/
theorem Mended.bare {c : Char} (cut : Cut cs ps) (mended : Mended stays ps out)
    (bare : ∀ inside after, IsInside inside -> c :: cs ≠ written inside ++ after)
    (inside after : List Char) (proper : IsInside inside) : c :: out ≠ written inside ++ after := by
  intro same
  rw [written_append] at same
  obtain ⟨rfl, behind⟩ := List.cons.inj same
  cases mended with
  | nil => cases behind
  | @left first _ _ _ _ =>
      -- The brace in front would have been part of the token.
      cases cut with
      | @token first rest _ held _ =>
          refine bare ('\x7b' :: first) rest ⟨List.cons_ne_nil _ _, by simp [held.2]⟩ ?_
          rw [written_append, written_append]
          rfl
  | @replaced _ _ rest _ _ filled braceless _ =>
      obtain ⟨c, head, other, -⟩ := head?_braceless filled braceless rest
      rw [behind] at head
      exact other (Option.some.inj head).symm
  | char mended =>
      cases cut with
      | char _ later =>
          obtain ⟨rfl, rfl⟩ := List.cons.inj behind
          obtain ⟨front, back, closed, rfl⟩ := mended.closes later ⟨inside, after, proper.2, rfl⟩
          refine bare front back ⟨fun none => ?_, closed⟩ (written_append front back).symm
          -- An empty inside would begin with the closing brace.
          have begins := (mended.head?_closing later).mpr (by rw [none]; rfl)
          obtain ⟨e, more, rfl⟩ := List.exists_cons_of_ne_nil proper.1
          obtain rfl := Option.some.inj begins
          exact proper.2 List.mem_cons_self

/-- The tokens of a text that was mended are those that stayed. -/
theorem Mended.paths (cut : Cut cs ps) (mended : Mended stays ps out) :
    (pieces out).filterMap Piece.path? = (ps.filterMap Piece.path?).filter stays := by
  induction cut generalizing out with
  | nil =>
      cases mended
      rw [pieces]
      rfl
  | token proper _ ih =>
      cases mended with
      | left left later =>
          rw [pieces_token proper]
          simp [Piece.path?, left, ih later]
      | replaced gone _ braceless later =>
          rw [pieces_append braceless.1, List.filterMap_append, path?_chars]
          simp [Piece.path?, gone, ih later]
  | char bare later ih =>
      cases mended with
      | char mended =>
          rw [pieces_cons, tokenAt?_eq_none_iff.mpr (mended.bare later bare)]
          exact ih mended

end Mended

/-! ## Resolving -/

mutual

/-- The tokens that are left in a value are those of its texts. -/
theorem unresolved_eq (v : Value) : unresolved v = v.texts.flatMap pathsOf := by
  match v with
  | .str s => exact (List.append_nil _).symm
  | .list items => exact unresolvedItems_eq items
  | .tuple items => exact unresolvedItems_eq items
  | .dict entries => exact unresolvedEntries_eq entries
  | .object _ content => exact unresolved_eq content
  | .null | .bool _ | .int _ | .float _ | .sealed _ | .set _ | .bytes _ | .datetime _ | .date _
  | .complex .. | .span _ | .function _ | .converter _ | .method .. | .view .. | .range ..
  | .undefined .. | .markup _ | .stream .. | .slot .. | .foreign _ => rfl

theorem unresolvedItems_eq (items : List Value) :
    unresolvedItems items = (Value.textsOfItems items).flatMap pathsOf := by
  match items with
  | [] => rfl
  | x :: rest =>
      rw [unresolvedItems, Value.textsOfItems, List.flatMap_append, unresolved_eq x,
        unresolvedItems_eq rest]

theorem unresolvedEntries_eq (entries : List (Value × Value)) :
    unresolvedEntries entries = (Value.textsOfEntries entries).flatMap pathsOf := by
  match entries with
  | [] => rfl
  | (_, v) :: rest =>
      rw [unresolvedEntries, Value.textsOfEntries, List.flatMap_append, unresolved_eq v,
        unresolvedEntries_eq rest]

end

section Resolving

variable {scope : Value} {path : String}

theorem identifierText_ne_empty (n : Nat) : Fresh.identifierText n ≠ "" := fun empty => by
  have chars := congrArg String.toList empty
  unfold Fresh.identifierText at chars
  rw [String.toList_append, String.toList_empty, List.append_eq_nil_iff] at chars
  exact absurd chars.1 (by decide +kernel)

theorem stampText_ne_empty (t : DateTime) : t.stampText ≠ "" := fun empty => by
  have chars := congrArg String.toList empty
  simp only [DateTime.stampText, toString, String.toList_append, String.toList_empty,
    List.append_eq_nil_iff] at chars
  exact absurd chars.2 (by decide +kernel)

/-- What is drawn is some text without braces. -/
theorem valueAt?_drawn (drawn : isDrawn path = true) (f : Fresh) :
    ∃ s g, valueAt? scope path f = .ok (some (.str s)) g ∧ s ≠ "" ∧ Braceless s.toList := by
  unfold valueAt?
  split
  · exact ⟨_, _, rfl, stampText_ne_empty _, braceless_stampText _⟩
  · next other =>
      rw [isDrawn, Bool.eq_false_iff.mpr other, Bool.false_or] at drawn
      rw [drawn]
      exact ⟨_, _, rfl, identifierText_ne_empty _, braceless_identifierText _⟩

theorem isAbsent_of_drawn (drawn : isDrawn path = true) : isAbsent scope path = false := by
  rw [isAbsent, drawn]
  rfl

theorem isAbsent_of_found {v : Value} (found : lookup? scope path = .ok (some v)) :
    isAbsent scope path = false := by
  rw [isAbsent, found, Bool.and_false]

theorem isAbsent_of_nowhere (looked : isDrawn path = false)
    (nowhere : lookup? scope path = .ok none) : isAbsent scope path = true := by
  rw [isAbsent, looked, nowhere]
  rfl

theorem valueAt?_looked {found : Option Value} (drawn : isDrawn path = false)
    (looked : lookup? scope path = .ok found) (f : Fresh) :
    valueAt? scope path f = .ok found f := by
  rw [valueAt?_of_not_drawn drawn, looked]
  rfl

/-- What is put in for a token in other text has no braces, if anything is put in. -/
inductive Inserts (scope : Value) (path : String) : Prop where
  | drawn (drawn : isDrawn path = true)
  | absent (nowhere : lookup? scope path = .ok none)
  | found {v : Value} {text : String} (found : lookup? scope path = .ok (some v))
      (shown : inlineText v = .ok text) (filled : text ≠ "") (braceless : Braceless text.toList)

theorem pieceText_mended {inside : List Char} (inserts : Inserts scope (pathOf inside))
    (f : Fresh) : ∃ text g, pieceText scope (.token inside) f = .ok text g ∧ ∀ rest cs,
      Mended (isAbsent scope) rest cs ->
        Mended (isAbsent scope) (.token inside :: rest) (text ++ cs) := by
  have filled {s : String} (some : s ≠ "") : s.toList ≠ [] := by simpa using some
  cases drawn : isDrawn (pathOf inside) with
  | true =>
      obtain ⟨s, g, value, some, braceless⟩ := valueAt?_drawn drawn f
      exact ⟨_, _, ok_bind value (ok_bind rfl rfl), fun _ _ later =>
        .replaced (isAbsent_of_drawn drawn) (filled some) braceless later⟩
  | false =>
      cases inserts with
      | drawn yes => rw [drawn] at yes; cases yes
      | absent nowhere =>
          have value := valueAt?_looked drawn nowhere f
          exact ⟨_, _, ok_bind value rfl, fun _ _ later =>
            .left (isAbsent_of_nowhere drawn nowhere) later⟩
      | @found v text found shown some braceless =>
          have value := valueAt?_looked drawn found f
          have given : liftOutcome (inlineText v) f = .ok text f := by rw [shown]; rfl
          exact ⟨_, _, ok_bind value (ok_bind given rfl), fun _ _ later =>
            .replaced (isAbsent_of_found found) (filled some) braceless later⟩

theorem piecesText_mended {ps : List Piece}
    (inserts : ∀ path ∈ ps.filterMap Piece.path?, Inserts scope path) (f : Fresh) :
    ∃ cs g, piecesText scope ps f = .ok cs g ∧ Mended (isAbsent scope) ps cs := by
  induction ps generalizing f with
  | nil => exact ⟨[], f, rfl, .nil⟩
  | cons p rest ih =>
      cases p with
      | char c =>
          obtain ⟨cs, g, text, mended⟩ := ih inserts f
          exact ⟨_, _, ok_bind rfl (ok_bind text rfl), .char mended⟩
      | token inside =>
          obtain ⟨here, inserts⟩ := List.forall_mem_cons.mp inserts
          obtain ⟨front, g, first, put⟩ := pieceText_mended here f
          obtain ⟨cs, h, later, mended⟩ := ih inserts g
          exact ⟨_, _, ok_bind first (ok_bind later rfl), put rest cs mended⟩

/--
No token of a text is replaced by anything with a brace: neither by a value with a text that has
one, where the token stands alone, nor by such characters in other text.
-/
structure Tidy (scope : Value) (s : String) : Prop where
  alone : ∀ inside, Cut s.toList [.token inside] ->
    isDrawn (pathOf inside) = true ∨ lookup? scope (pathOf inside) = .ok none ∨
      ∃ v, lookup? scope (pathOf inside) = .ok (some v) ∧ ∀ t ∈ v.texts, Braceless t.toList
  mixed : (∀ inside, ¬ Cut s.toList [.token inside]) -> ∀ path ∈ pathsOf s, Inserts scope path

/-- Of some paths, those that lead nowhere are left in what a computation gives. -/
def Leaves {α : Type} (scope : Value) (m : Resolving α) (left : α -> List String)
    (paths : List String) : Prop :=
  ∀ f, ∃ a g, m f = .ok a g ∧ left a = paths.filter (isAbsent scope)

namespace Leaves

variable {α β γ : Type} {m : Resolving α} {n : Resolving β} {left : α -> List String}
  {later : β -> List String} {all : γ -> List String} {paths others : List String}

theorem pure (a : α) (none : left a = []) : Leaves scope (Pure.pure a) left [] :=
  fun f => ⟨a, f, rfl, none⟩

theorem map (h : Leaves scope m left paths) (k : α -> γ) (same : ∀ a, all (k a) = left a) :
    Leaves scope (do Pure.pure (k (<- m))) all paths := fun f => by
  obtain ⟨a, g, made, kept⟩ := h f
  exact ⟨k a, g, ok_bind made rfl, (same a).trans kept⟩

theorem both (h : Leaves scope m left paths) (more : Leaves scope n later others)
    (k : α -> β -> γ) (joined : ∀ a b, all (k a b) = left a ++ later b) :
    Leaves scope (do
      let a <- m
      Pure.pure (k a (<- n))) all (paths ++ others) := fun f => by
  obtain ⟨a, g, made, kept⟩ := h f
  obtain ⟨b, t, next, rest⟩ := more g
  exact ⟨k a b, t, ok_bind made (ok_bind next rfl), by rw [joined, kept, rest, List.filter_append]⟩

end Leaves

/-- A text that is one token becomes the value at its path, or stays. -/
theorem leaves_alone {s : String} {inside : List Char} (tidy : Tidy scope s)
    (alone : pieces s.toList = [.token inside]) :
    Leaves scope (resolveText scope s) unresolved [pathOf inside] := by
  intro f
  rw [resolveText_alone alone]
  cases drawn : isDrawn (pathOf inside) with
  | true =>
      obtain ⟨t, g, value, -, braceless⟩ := @valueAt?_drawn scope _ drawn f
      refine ⟨.str t, g, ok_bind value rfl, ?_⟩
      rw [unresolved, pathsOf_of_braceless braceless]
      simp [isAbsent_of_drawn drawn]
  | false =>
      rcases tidy.alone inside (cut_iff.mpr alone) with yes | nowhere | ⟨v, found, braceless⟩
      · rw [drawn] at yes
        cases yes
      · have paths : pathsOf s = [pathOf inside] := by rw [pathsOf_eq, alone]; rfl
        refine ⟨.str s, f, ok_bind (valueAt?_looked drawn nowhere f) rfl, ?_⟩
        rw [unresolved, paths]
        simp [isAbsent_of_nowhere drawn nowhere]
      · refine ⟨v, f, ok_bind (valueAt?_looked drawn found f) rfl, ?_⟩
        rw [unresolved_eq, List.flatMap_eq_nil_iff.mpr fun t ht =>
          pathsOf_of_braceless (braceless t ht)]
        simp [isAbsent_of_found found]

theorem leaves_resolveText {s : String} (tidy : Tidy scope s) :
    Leaves scope (resolveText scope s) unresolved (pathsOf s) := by
  by_cases alone : ∃ inside, pieces s.toList = [.token inside]
  · obtain ⟨inside, alone⟩ := alone
    rw [pathsOf_eq, alone]
    exact leaves_alone tidy alone
  · intro f
    have several : ∀ inside, pieces s.toList ≠ [.token inside] := fun inside same =>
      alone ⟨inside, same⟩
    have inserts := tidy.mixed fun inside cut => several inside (cut_iff.mp cut)
    rw [pathsOf_eq] at inserts
    obtain ⟨cs, g, text, mended⟩ := piecesText_mended inserts f
    rw [resolveText_mixed several]
    refine ⟨_, g, ok_bind text rfl, ?_⟩
    rw [unresolved, pathsOf_eq, pathsOf_eq, String.toList_ofList, mended.paths (cut_pieces _)]

mutual

theorem leaves_resolve (v : Value) (tidy : ∀ s ∈ v.texts, Tidy scope s) :
    Leaves scope (resolve scope v) unresolved (v.texts.flatMap pathsOf) := by
  match v with
  | .str s =>
      have single := leaves_resolveText (tidy s (List.mem_singleton.mpr rfl))
      rwa [← List.append_nil (pathsOf s)] at single
  | .list items => exact (leaves_resolveItems items tidy).map Value.list fun _ => rfl
  | .tuple items => exact (leaves_resolveItems items tidy).map Value.list fun _ => rfl
  | .dict entries => exact (leaves_resolveEntries entries tidy).map Value.dict fun _ => rfl
  | .object mark content =>
      have within := leaves_resolve content tidy
      cases content with
      | float x => exact .pure _ rfl
      | set items => exact .pure _ rfl
      | _ => exact within
  | .null | .bool _ | .int _ | .float _ | .sealed _ | .set _ | .bytes _ | .datetime _ | .date _
  | .complex .. | .span _ | .function _ | .converter _ | .method .. | .view .. | .range ..
  | .undefined .. | .markup _ | .stream .. | .slot .. | .foreign _ => exact .pure _ rfl

theorem leaves_resolveItems (items : List Value)
    (tidy : ∀ s ∈ Value.textsOfItems items, Tidy scope s) :
    Leaves scope (resolveItems scope items) unresolvedItems
      ((Value.textsOfItems items).flatMap pathsOf) := by
  match items with
  | [] => exact .pure [] rfl
  | x :: rest =>
      obtain ⟨here, later⟩ := List.forall_mem_append.mp tidy
      rw [Value.textsOfItems, List.flatMap_append]
      exact (leaves_resolve x here).both (leaves_resolveItems rest later) List.cons fun _ _ => rfl

theorem leaves_resolveEntries (entries : List (Value × Value))
    (tidy : ∀ s ∈ Value.textsOfEntries entries, Tidy scope s) :
    Leaves scope (resolveEntries scope entries) unresolvedEntries
      ((Value.textsOfEntries entries).flatMap pathsOf) := by
  match entries with
  | [] => exact .pure [] rfl
  | (k, v) :: rest =>
      obtain ⟨here, later⟩ := List.forall_mem_append.mp tidy
      rw [Value.textsOfEntries, List.flatMap_append]
      exact (leaves_resolve v here).both (leaves_resolveEntries rest later)
        (fun w more => (k, w) :: more) fun _ _ => rfl

end

/--
Where no token is replaced by anything with a brace, the tokens that are left in a resolved value
are those of the value whose paths lead nowhere, in the order in which they stand there.
-/
theorem unresolved_resolve {v : Value} (tidy : ∀ s ∈ v.texts, Tidy scope s) (f : Fresh) :
    ∃ w g, resolve scope v f = .ok w g ∧
      unresolved w = (v.texts.flatMap pathsOf).filter (isAbsent scope) :=
  leaves_resolve v tidy f

end Resolving

/-- A token in other text between braces that open or close nothing, and tokens that stay. -/
def seamed : String :=
  "\x7b\x7ba\x7d\x7b\x7b inputs.n \x7d\x7d\x7d\x7b\x7b nope \x7d\x7d" ++
    "\x7b\x7b\x7d\x7b\x7b\x7b nope \x7d\x7d"

theorem pathsOf_seamed : pathsOf seamed = ["inputs.n", "nope", "\x7b nope"] := by
  decide +kernel

theorem pieces_seamed (inside : List Char) : pieces seamed.toList ≠ [.token inside] := by
  intro alone
  have paths := pathsOf_seamed
  rw [pathsOf_eq, alone] at paths
  cases congrArg List.length paths

/-- Inputs of which one is a number. -/
def numbered : Value :=
  .dict [(.str "inputs", .dict [(.str "n", .int 7)])]

theorem lookup?_numbered :
    lookup? numbered "inputs.n" = .ok (some (.int 7)) ∧ lookup? numbered "nope" = .ok none ∧
      lookup? numbered "\x7b nope" = .ok none := by
  have cut : segments "inputs.n" = ["inputs", "n"] ∧ segments "nope" = ["nope"] ∧
      segments "\x7b nope" = ["\x7b nope"] := by decide +kernel
  simp only [lookup?, cut]
  exact ⟨rfl, rfl, rfl⟩

/-- Stray braces beside a number that is put in are no token with it. -/
theorem unresolved_resolve_seamed :
    (∀ s ∈ (Value.tuple [.str seamed]).texts, Tidy numbered s) ∧
    ∃ w g, resolve numbered (.tuple [.str seamed]) morning = .ok w g ∧
      unresolved w = ["nope", "\x7b nope"] := by
  have tidy : ∀ s ∈ (Value.tuple [.str seamed]).texts, Tidy numbered s := by
    intro s hs
    obtain rfl := List.mem_singleton.mp hs
    refine ⟨fun inside cut => absurd (cut_iff.mp cut) (pieces_seamed inside), fun _ => ?_⟩
    obtain ⟨number, word, brace⟩ := lookup?_numbered
    have short : (Value.int 7).exceedsDigits = false := Json.exceedsDigits_of_lt (by decide)
    have shown : inlineText (.int 7) = .ok "7" := by
      rw [inlineText, Value.bare, Value.textOf, short]
      · rfl
      · simp
    have number : Inserts numbered "inputs.n" :=
      .found number shown (by decide) (by decide +kernel)
    have word : Inserts numbered "nope" := .absent word
    have brace : Inserts numbered "\x7b nope" := .absent brace
    rw [pathsOf_seamed]
    simp [number, word, brace]
  obtain ⟨w, g, resolved, left⟩ := unresolved_resolve tidy morning
  refine ⟨tidy, w, g, resolved, left.trans ?_⟩
  have texts : (Value.tuple [.str seamed]).texts.flatMap pathsOf = pathsOf seamed :=
    List.append_nil _
  obtain ⟨number, word, brace⟩ := lookup?_numbered
  have looked : isDrawn "nope" = false ∧ isDrawn "\x7b nope" = false := by decide +kernel
  rw [texts, pathsOf_seamed]
  simp [isAbsent_of_found number, isAbsent_of_nowhere looked.1 word,
    isAbsent_of_nowhere looked.2 brace]

end Reference

end Workflow
