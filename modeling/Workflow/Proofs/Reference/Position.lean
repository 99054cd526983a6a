import Workflow.Proofs.Json.Scalar
import Workflow.Proofs.Reference.Chain

/-!
# Positions in trees

A position of a tree is a way down from its root: by key through dictionaries, by index through
lists.  A path is cut at its dots, and its segments lead to a node or leave the tree.  The lookup
finds the node, or nothing, unless a list is read at an index of more digits than an integer may
have.
-/

namespace Workflow

open Value (field?)

namespace Reference

/-! ## Trees -/

mutual

/-- A tree: its dictionaries have texts for keys, each one once.  What has no parts is a leaf. -/
def IsTree : Value -> Prop
  | .dict entries => (entries.map Prod.fst).Nodup ∧ MembersTrees entries
  | .sealed entries => (entries.map Prod.fst).Nodup ∧ MembersTrees entries
  | .list items => AllTrees items
  | .tuple items => AllTrees items
  | .object _ content => IsTree content
  | _ => True

/-- All items are trees. -/
def AllTrees : List Value -> Prop
  | [] => True
  | x :: rest => IsTree x ∧ AllTrees rest

/-- All entries have texts for keys, and trees under them. -/
def MembersTrees : List (Value × Value) -> Prop
  | [] => True
  | (k, v) :: rest => (∃ name, k = .str name) ∧ IsTree v ∧ MembersTrees rest

end

section Trees

variable {v w : Value} {entries : List (Value × Value)} {items : List Value}

theorem IsTree.bare (tree : IsTree v) : IsTree v.bare := by
  cases v <;> exact tree

theorem IsTree.of_mapping (tree : IsTree v) (mapping : IsMapping v entries) :
    (entries.map Prod.fst).Nodup ∧ MembersTrees entries := by
  have held := tree.bare
  rcases mapping with same | same <;> rwa [same] at held

theorem IsTree.of_sequence (tree : IsTree v) (sequence : IsSequence v items) : AllTrees items := by
  have held := tree.bare
  rcases sequence with same | same <;> rwa [same] at held

theorem AllTrees.of_mem (all : AllTrees items) (mem : v ∈ items) : IsTree v := by
  induction items with
  | nil => cases mem
  | cons x rest ih =>
      rcases List.mem_cons.mp mem with rfl | later
      · exact all.1
      · exact ih all.2 later

theorem MembersTrees.of_mem (all : MembersTrees entries) {k : Value} (mem : (k, v) ∈ entries) :
    IsTree v := by
  induction entries with
  | nil => cases mem
  | cons e rest ih =>
      rcases List.mem_cons.mp mem with rfl | later
      · exact all.2.1
      · exact ih all.2.2 later

/-- What stands under a key that occurs once is what the key finds. -/
theorem field?_of_mem {name : String} (once : (entries.map Prod.fst).Nodup)
    (mem : (.str name, v) ∈ entries) : field? entries name = some v := by
  induction entries with
  | nil => cases mem
  | cons e rest ih =>
      obtain ⟨fresh, rest_once⟩ := List.nodup_cons.mp once
      rcases List.mem_cons.mp mem with rfl | later
      · exact if_pos rfl
      · have other : e.1 ≠ .str name := fun same => by
          have within := List.mem_map_of_mem (f := Prod.fst) later
          exact fresh (same ▸ within)
        have found := ih rest_once later
        obtain ⟨k, x⟩ := e
        cases k with
        | str key => exact (if_neg fun same => other (by rw [same])).trans found
        | _ => exact found

end Trees

/-! ## Segments -/

/-- A path is cut into the segments between its dots. -/
structure Splits (path : String) (keys : List String) : Prop where
  some : keys ≠ []
  whole : ".".intercalate keys = path
  dotless : ∀ k ∈ keys, '.' ∉ k.toList

/-- The number that a segment of decimal digits stands for. -/
def index? (segment : String) : Option Nat :=
  if segment.toList ≠ [] ∧ segment.toList.all Char.isDigit = true then
    some (Nat.ofDigitChars 10 segment.toList 0)
  else none

/-- A path has the segments that it is joined from. -/
theorem segments_of_splits {path : String} {keys : List String} (split : Splits path keys) :
    segments path = keys := by
  obtain ⟨some, rfl, dotless⟩ := split
  obtain ⟨k, rest, rfl⟩ := List.exists_cons_of_ne_nil some
  exact segments_intercalate dotless

/-- Each path has segments. -/
theorem exists_splits (cs : List Char) : ∃ keys, Splits (String.ofList cs) keys := by
  by_cases dotted : '.' ∈ cs
  · obtain ⟨front, back, cut, first⟩ := List.eq_append_cons_of_mem dotted
    obtain ⟨keys, some, whole, dotless⟩ := exists_splits back
    rw [cut]
    refine ⟨String.ofList front :: keys, List.cons_ne_nil _ _, ?_,
      List.forall_mem_cons.mpr ⟨by rwa [String.toList_ofList], dotless⟩⟩
    obtain ⟨k, rest, rfl⟩ := List.exists_cons_of_ne_nil some
    have dot : "." = String.ofList ['.'] := rfl
    rw [String.intercalate_cons_cons, whole, dot, ← String.ofList_append, ← String.ofList_append,
      List.append_assoc]
    rfl
  · refine ⟨[String.ofList cs], List.cons_ne_nil _ _, String.intercalate_singleton,
      List.forall_mem_singleton.mpr ?_⟩
    rwa [String.toList_ofList]
termination_by cs.length
decreasing_by
  rw [cut, List.length_append, List.length_cons]
  omega

theorem splits_segments (path : String) : Splits path (segments path) := by
  obtain ⟨keys, split⟩ := exists_splits path.toList
  rw [String.ofList_toList] at split
  rwa [segments_of_splits split]

/-! ## Steps -/

/-- What a tree has under a segment: by key in a dictionary, by index in a list. -/
inductive Below (v : Value) (segment : String) (w : Value) : Prop where
  | key {entries : List (Value × Value)} (mapping : IsMapping v entries)
      (member : (.str segment, w) ∈ entries)
  | index {items : List Value} {n : Nat} (sequence : IsSequence v items)
      (number : index? segment = some n) (item : items[n]? = some w)

/-- A segment leaves a tree. -/
inductive Outside (v : Value) (segment : String) : Prop where
  | null (nothing : v.bare = .null)
  | key {entries : List (Value × Value)} (mapping : IsMapping v entries)
      (absent : ∀ w, (.str segment, w) ∉ entries)
  | beyond {items : List Value} {n : Nat} (sequence : IsSequence v items)
      (number : index? segment = some n) (beyond : items.length ≤ n)
  | word {items : List Value} (sequence : IsSequence v items) (word : index? segment = none)

/-- A list is read at an index of more digits than an integer may have. -/
structure Overlong (v : Value) (segment : String) : Prop where
  sequence : ∃ items, IsSequence v items
  number : (index? segment).isSome
  long : Number.maxDigits < segment.toList.length

section Steps

variable {v w : Value} {segment : String}

theorem index?_eq_some_iff {n : Nat} : index? segment = some n ↔
    (segment.toList ≠ [] ∧ ∀ c ∈ segment.toList, c.isDigit = true) ∧
      Nat.ofDigitChars 10 segment.toList 0 = n := by
  rw [index?, Option.ite_none_right_eq_some, Option.some.injEq, List.all_eq_true]

theorem isDigitSign_of_isDigit {c : Char} (h : c.isDigit = true) : Text.isDigitSign c = true := by
  have bounds := Json.toNat_of_isDigit h
  have low : c.toNat < 128 := by omega
  have all := of_ascii (p := fun c => !c.isDigit || Text.isDigitSign c) (by decide +kernel) low
  simpa [h] using all

theorem isDigit_of_isDigitSign {c : Char} (ascii : c.toNat < 128)
    (h : Text.isDigitSign c = true) : c.isDigit = true := by
  have all := of_ascii (p := fun c => !Text.isDigitSign c || c.isDigit) (by decide +kernel) ascii
  simpa [h] using all

theorem readInt_of_index {n : Nat} (number : index? segment = some n)
    (short : segment.toList.length ≤ Number.maxDigits) :
    Number.readInt 10 segment = .value n := by
  obtain ⟨⟨filled, digits⟩, rfl⟩ := index?_eq_some_iff.mp number
  obtain ⟨c, rest, begins⟩ := List.exists_cons_of_ne_nil filled
  have whole := Json.digitsValue?_go digits 0
  rw [begins] at whole digits
  obtain ⟨-, -, other⟩ := Json.digitValue?_of_isDigit (digits c List.mem_cons_self)
  have value : Number.digitsValue? 10 segment.toList =
      some (Nat.ofDigitChars 10 segment.toList 0) := by
    rw [begins, ← whole, Number.digitsValue?, Number.digitsValue?.go.eq_3 _ _ _ _ _ other,
      Number.digitsValue?.go.eq_3 _ _ _ _ _ other]
  have signs : ∀ c ∈ segment.toList, Text.isDigitSign c = true := fun c hc =>
    isDigitSign_of_isDigit (digits c (begins ▸ hc))
  rw [Number.readInt_eq signs, value]
  simp only [Nat.not_lt.mpr short, if_false]

theorem position?_of_index {n : Nat} (number : index? segment = some n)
    (short : segment.toList.length ≤ Number.maxDigits) : position? segment = .ok (some n) := by
  obtain ⟨⟨filled, digits⟩, -⟩ := index?_eq_some_iff.mp number
  have some : segment ≠ "" := fun none => filled (by rw [none]; rfl)
  have signs : ∀ c ∈ segment.toList, Text.isDigitSign c = true := fun c hc =>
    isDigitSign_of_isDigit (digits c hc)
  exact position?_of_value some signs (readInt_of_index number short)

/-- A segment of ASCII characters that is no number is a word. -/
theorem isWordKey_of_index (ascii : ∀ c ∈ segment.toList, c.toNat < 128)
    (word : index? segment = none) : IsWordKey segment := by
  by_cases empty : segment = ""
  · exact .inl empty
  · have filled : segment.toList ≠ [] := fun none => empty (String.toList_inj.mp none)
    have odd : ¬ ∀ c ∈ segment.toList, c.isDigit = true := fun digits => by
      rw [index?, if_pos ⟨filled, List.all_eq_true.mpr digits⟩] at word
      cases word
    obtain ⟨c, hc, other⟩ := by simpa using odd
    refine .inr ⟨c, hc, ?_⟩
    cases sign : Text.isDigitSign c with
    | false => rfl
    | true =>
        rw [isDigit_of_isDigitSign (ascii c hc) sign] at other
        cases other

theorem child?_of_overlong (lengthy : Overlong v segment) : ∃ e, child? v segment = .error e := by
  obtain ⟨n, number⟩ := Option.isSome_iff_exists.mp lengthy.number
  obtain ⟨⟨filled, digits⟩, -⟩ := index?_eq_some_iff.mp number
  refine child?_of_trips ⟨lengthy.sequence, ?_, fun c hc => isDigitSign_of_isDigit (digits c hc),
    .inr lengthy.long⟩
  exact fun none => filled (by rw [none]; rfl)

/-- A dictionary is read by any key. -/
theorem IsMapping.not_overlong {entries : List (Value × Value)} (mapping : IsMapping v entries) :
    ¬ Overlong v segment := fun lengthy => by
  obtain ⟨items, sequence⟩ := lengthy.sequence
  rcases mapping with same | same <;> rcases sequence with other | other <;>
    cases same.symm.trans other

theorem child?_of_below (tree : IsTree v) (below : Below v segment w)
    (short : ¬ Overlong v segment) : child? v segment = .ok (some w) := by
  cases below with
  | key mapping member =>
      rw [child?_mapping mapping, field?_of_mem (tree.of_mapping mapping).1 member]
  | index sequence number item =>
      have fits : segment.toList.length ≤ Number.maxDigits := Nat.not_lt.mp fun long =>
        short ⟨⟨_, sequence⟩, by rw [number]; rfl, long⟩
      rw [child?_sequence sequence, position?_of_index number fits]
      exact congrArg Except.ok item

theorem child?_of_outside (ascii : ∀ c ∈ segment.toList, c.toNat < 128)
    (outside : Outside v segment) (short : ¬ Overlong v segment) :
    child? v segment = .ok none := by
  refine child?_of_ends ?_
  cases outside with
  | null nothing => exact .null nothing
  | key mapping absent =>
      refine .key mapping (Option.eq_none_iff_forall_not_mem.mpr fun w found => ?_)
      exact absent w (Objects.mem_of_field? found)
  | beyond sequence number beyond =>
      have fits : segment.toList.length ≤ Number.maxDigits := Nat.not_lt.mp fun long =>
        short ⟨⟨_, sequence⟩, by rw [number]; rfl, long⟩
      exact .beyond sequence (position?_of_index number fits) beyond
  | word sequence word => exact .word sequence (isWordKey_of_index ascii word)

theorem Below.isTree (tree : IsTree v) (below : Below v segment w) : IsTree w := by
  cases below with
  | key mapping member => exact (tree.of_mapping mapping).2.of_mem member
  | index sequence _ item =>
      exact (tree.of_sequence sequence).of_mem (List.mem_of_getElem? item)

end Steps

/-! ## Ways down -/

/-- Segments lead through a tree to a node. -/
inductive Arrives : Value -> List String -> Value -> Prop where
  | here (v : Value) : Arrives v [] v
  | down {v part w : Value} {segment : String} {rest : List String} (below : Below v segment part)
      (later : Arrives part rest w) : Arrives v (segment :: rest) w

/-- Segments lead through a tree to a node and a segment of which something holds. -/
inductive Comes (P : Value -> String -> Prop) : Value -> List String -> Prop where
  | here {v : Value} {segment : String} {rest : List String} (here : P v segment) :
      Comes P v (segment :: rest)
  | down {v part : Value} {segment : String} {rest : List String} (below : Below v segment part)
      (later : Comes P part rest) : Comes P v (segment :: rest)

section Ways

variable {v w : Value} {keys : List String}

theorem not_overlong_of_short (short : ∀ k ∈ keys, k.toList.length ≤ Number.maxDigits) :
    ¬ Comes Overlong v keys := fun comes => by
  induction comes with
  | here lengthy => exact Nat.not_lt.mpr (short _ List.mem_cons_self) lengthy.long
  | down _ _ ih => exact ih fun k hk => short k (List.mem_cons_of_mem _ hk)

theorem descend?_of_overlong (tree : IsTree v) (lengthy : Comes Overlong v keys) :
    ∃ e, descend? v keys = .error e := by
  induction lengthy with
  | here lengthy =>
      obtain ⟨e, failed⟩ := child?_of_overlong lengthy
      exact ⟨e, by rw [descend?_cons, failed]⟩
  | @down v part segment rest below _ ih =>
      by_cases lengthy : Overlong v segment
      · obtain ⟨e, failed⟩ := child?_of_overlong lengthy
        exact ⟨e, by rw [descend?_cons, failed]⟩
      · obtain ⟨e, failed⟩ := ih (below.isTree tree)
        exact ⟨e, by rw [descend?_cons, child?_of_below tree below lengthy]; exact failed⟩

theorem descend?_of_arrives (tree : IsTree v) (short : ¬ Comes Overlong v keys)
    (arrives : Arrives v keys w) : descend? v keys = .ok (some w) := by
  induction arrives with
  | here v => rfl
  | down below _ ih =>
      rw [descend?_cons, child?_of_below tree below fun lengthy => short (.here lengthy)]
      exact ih (below.isTree tree) fun lengthy => short (.down below lengthy)

theorem descend?_of_outside (tree : IsTree v) (ascii : ∀ k ∈ keys, ∀ c ∈ k.toList, c.toNat < 128)
    (short : ¬ Comes Overlong v keys) (outside : Comes Outside v keys) :
    descend? v keys = .ok none := by
  induction outside with
  | here outside =>
      have first := ascii _ List.mem_cons_self
      rw [descend?_cons, child?_of_outside first outside fun lengthy => short (.here lengthy)]
  | down below _ ih =>
      rw [descend?_cons, child?_of_below tree below fun lengthy => short (.here lengthy)]
      exact ih (below.isTree tree) (fun k hk => ascii k (List.mem_cons_of_mem _ hk))
        fun lengthy => short (.down below lengthy)

end Ways

/-! ## Positions -/

/-- A step down into a tree. -/
inductive Step where
  | key (name : String)
  | index (n : Nat)

/-- The segment that a step is written as. -/
def Step.segment : Step -> String
  | .key name => name
  | .index n => toString n

/-- Steps lead to a node of a tree. -/
inductive Position : Value -> List Step -> Value -> Prop where
  | root (v : Value) : Position v [] v
  | key {v part w : Value} {entries : List (Value × Value)} {name : String} {rest : List Step}
      (mapping : IsMapping v entries) (member : (.str name, part) ∈ entries)
      (later : Position part rest w) : Position v (.key name :: rest) w
  | index {v part w : Value} {items : List Value} {n : Nat} {rest : List Step}
      (sequence : IsSequence v items) (item : items[n]? = some part)
      (later : Position part rest w) : Position v (.index n :: rest) w

theorem toList_natText (n : Nat) : (toString n).toList = Nat.toDigits 10 n :=
  Nat.toList_repr

theorem index?_natText (n : Nat) : index? (toString n) = some n := by
  rw [index?_eq_some_iff, toList_natText]
  exact ⟨⟨Nat.toDigits_ne_nil, Json.isDigit_toDigits n⟩, Nat.ofDigitChars_ten_toDigits⟩

/-- The position of a node leads to it, segment by segment. -/
theorem descend?_of_position {v w : Value} {steps : List Step} (tree : IsTree v)
    (position : Position v steps w)
    (short : ∀ n, .index n ∈ steps -> n < Nat.pow 10 Number.maxDigits) :
    descend? v (steps.map Step.segment) = .ok (some w) := by
  induction position with
  | root v => rfl
  | @key v part w _ name _ mapping member _ ih =>
      have below : Below v name part := .key mapping member
      rw [List.map_cons, descend?_cons, Step.segment,
        child?_of_below tree below fun lengthy => mapping.not_overlong lengthy]
      exact ih (below.isTree tree) fun n hn => short n (List.mem_cons_of_mem _ hn)
  | @index v part w _ n _ sequence item _ ih =>
      have below : Below v (toString n) part := .index sequence (index?_natText n) item
      have fits : ¬ Overlong v (toString n) := fun lengthy => by
        have long := lengthy.long
        rw [toList_natText] at long
        have bound := Json.length_toDigits_le (by decide) (short n List.mem_cons_self)
        exact Nat.not_lt.mpr bound long
      rw [List.map_cons, descend?_cons, Step.segment, child?_of_below tree below fits]
      exact ih (below.isTree tree) fun n hn => short n (List.mem_cons_of_mem _ hn)

/-- The path of a position has its steps for segments. -/
theorem splits_steps {steps : List Step} (some : steps ≠ [])
    (dotless : ∀ name, .key name ∈ steps -> '.' ∉ name.toList) :
    Splits (".".intercalate (steps.map Step.segment)) (steps.map Step.segment) := by
  refine ⟨fun none => some (List.map_eq_nil_iff.mp none), rfl, fun k hk => ?_⟩
  obtain ⟨step, mem, rfl⟩ := List.mem_map.mp hk
  cases step with
  | key name => exact dotless name mem
  | index n =>
      intro dot
      rw [Step.segment, toList_natText] at dot
      exact absurd (Json.isDigit_toDigits n _ dot) (by decide)

theorem ascii_segments {path : String} (ascii : ∀ c ∈ path.toList, c.toNat < 128) :
    ∀ k ∈ segments path, ∀ c ∈ k.toList, c.toNat < 128 := by
  intro k hk c hc
  obtain ⟨piece, mem, rfl⟩ := List.mem_map.mp hk
  rw [String.toList_ofList] at hc
  exact ascii c ((Text.splitAll_stretch _ _ _ piece mem).subset hc)

/--
The segments of a path lead through a tree to a node, and the lookup finds it; or they leave the
tree, and it finds nothing.  It fails where they come to a list with an index of too many digits.
The path of a position leads to its node.
-/
theorem lookup?_exact {v : Value} (tree : IsTree v) :
    (∀ path, Splits path (segments path) ∧
      (Comes Overlong v (segments path) -> ∃ e, lookup? v path = .error e) ∧
      (¬ Comes Overlong v (segments path) ->
        (∀ w, Arrives v (segments path) w -> lookup? v path = .ok (some w)) ∧
        ((∀ c ∈ path.toList, c.toNat < 128) -> Comes Outside v (segments path) ->
          lookup? v path = .ok none))) ∧
    ∀ steps w, Position v steps w -> steps ≠ [] ->
      (∀ name, .key name ∈ steps -> '.' ∉ name.toList) ->
      (∀ n, .index n ∈ steps -> n < Nat.pow 10 Number.maxDigits) ->
      lookup? v (".".intercalate (steps.map Step.segment)) = .ok (some w) := by
  constructor
  · intro path
    refine ⟨splits_segments path, descend?_of_overlong tree, fun short => ⟨fun w arrives => ?_,
      fun ascii outside => ?_⟩⟩
    · exact descend?_of_arrives tree short arrives
    · exact descend?_of_outside tree (ascii_segments ascii) short outside
  · intro steps w position some dotless short
    rw [lookup?, segments_of_splits (splits_steps some dotless)]
    exact descend?_of_position tree position short

/-- Lists in dictionaries, with nothing in one place and a key that is empty. -/
def orchard : Value :=
  .dict [(.str "a", .list [.null, .dict [(.str "b c", .int 7), (.str "", .null)]])]

theorem isTree_orchard : IsTree orchard := by
  simp [orchard, IsTree, MembersTrees, AllTrees]

/-- An index with a zero in front, an index past the end, and a step into nothing. -/
theorem lookup?_exact_orchard :
    IsTree orchard ∧
    (lookup? orchard "a.01.b c" = .ok (some (.int 7)) ∧ lookup? orchard "a.2" = .ok none ∧
      lookup? orchard "a.0.x" = .ok none) ∧
    lookup? orchard (".".intercalate ([.key "a", .index 1, .key ""].map Step.segment)) =
      .ok (some .null) := by
  obtain ⟨paths, positions⟩ := lookup?_exact isTree_orchard
  have top : IsMapping orchard _ := .inl rfl
  have cut : segments "a.01.b c" = ["a", "01", "b c"] ∧ segments "a.2" = ["a", "2"] ∧
      segments "a.0.x" = ["a", "0", "x"] := by decide +kernel
  have numbers : index? "01" = some 1 ∧ index? "2" = some 2 ∧ index? "0" = some 0 := by
    decide +kernel
  have ascii (path : String) (all : path.toList.all (·.toNat < 128) = true) :
      ∀ c ∈ path.toList, c.toNat < 128 := by
    simpa using all
  have list : IsSequence (.list [.null, .dict [(.str "b c", .int 7), (.str "", .null)]]) _ :=
    .inl rfl
  have inner : IsMapping (.dict [(.str "b c", .int 7), (.str "", .null)]) _ := .inl rfl
  have first : Below orchard "a" _ := .key top List.mem_cons_self
  refine ⟨isTree_orchard, ⟨?_, ?_, ?_⟩, ?_⟩
  · refine ((paths "a.01.b c").2.2 (not_overlong_of_short (by rw [cut.1]; decide))).1 _ ?_
    rw [cut.1]
    exact .down first (.down (.index list numbers.1 rfl)
      (.down (.key inner List.mem_cons_self) (.here _)))
  · refine ((paths "a.2").2.2 (not_overlong_of_short (by rw [cut.2.1]; decide))).2
      (ascii _ (by decide)) ?_
    rw [cut.2.1]
    exact .down first (.here (.beyond list numbers.2.1 (Nat.le_refl 2)))
  · refine ((paths "a.0.x").2.2 (not_overlong_of_short (by rw [cut.2.2]; decide))).2
      (ascii _ (by decide)) ?_
    rw [cut.2.2]
    exact .down first (.down (.index list numbers.2.2 rfl) (.here (.null rfl)))
  · refine positions _ _ (.key top List.mem_cons_self (.index list rfl
      (.key inner (List.mem_cons_of_mem _ List.mem_cons_self) (.root _)))) (by simp) ?_ ?_
    · simp +decide
    · intro n hn
      have one : n = 1 := by simpa using hn
      rw [one]
      exact Json.lt_limit_of_lt (by decide)

/-- A list of one item, under a name. -/
def single : Value :=
  .dict [(.str "xs", .list [.int 1])]

/-- An index of so many digits and another one. -/
def onesIndex (n : Nat) : String :=
  String.ofList (List.replicate n '1' ++ ['1'])

theorem eq_one_of_onesIndex {n : Nat} {c : Char} (h : c ∈ (onesIndex n).toList) : c = '1' := by
  rw [onesIndex, String.toList_ofList, List.mem_append, List.mem_replicate] at h
  exact h.elim And.right List.mem_singleton.mp

theorem index?_onesIndex (n : Nat) : ∃ m, index? (onesIndex n) = some m ∧ 1 ≤ m := by
  have filled : (onesIndex n).toList ≠ [] := by simp [onesIndex]
  have digits : ∀ c ∈ (onesIndex n).toList, c.isDigit = true := fun c hc => by
    rw [eq_one_of_onesIndex hc]
    decide
  refine ⟨_, if_pos ⟨filled, List.all_eq_true.mpr digits⟩, ?_⟩
  rw [onesIndex, String.toList_ofList, Nat.ofDigitChars, List.foldl_append]
  exact Nat.le_add_left 1 _

/-- A path of ASCII characters leaves a tree past the end of a list, and is not found to. -/
theorem lookup?_onesIndex :
    let path := ".".intercalate ["xs", onesIndex Number.maxDigits]
    IsTree single ∧ (∀ c ∈ path.toList, c.toNat < 128) ∧ Comes Outside single (segments path) ∧
      lookup? single path ≠ .ok none := by
  intro path
  have tree : IsTree single := by simp [single, IsTree, MembersTrees, AllTrees]
  have split : Splits path ["xs", onesIndex Number.maxDigits] := by
    refine ⟨List.cons_ne_nil _ _, rfl, List.forall_mem_cons.mpr ⟨by decide,
      List.forall_mem_singleton.mpr fun dot => ?_⟩⟩
    exact absurd (eq_one_of_onesIndex dot) (by decide)
  obtain ⟨m, number, beyond⟩ := index?_onesIndex Number.maxDigits
  have first : Below single "xs" _ := .key (.inl rfl) List.mem_cons_self
  have list : IsSequence (.list [.int 1]) _ := .inl rfl
  refine ⟨tree, ?_, ?_, ?_⟩
  · intro c hc
    have whole : path.toList = ['x', 's', '.'] ++ (onesIndex Number.maxDigits).toList := by
      simp [path, String.intercalate_cons_cons]
    rw [whole] at hc
    rcases List.mem_append.mp hc with name | digit
    · have all : ['x', 's', '.'].all (·.toNat < 128) = true := by decide
      simpa using List.all_eq_true.mp all c name
    · rw [eq_one_of_onesIndex digit]
      decide
  · rw [segments_of_splits split]
    exact .down first (.here (.beyond list number beyond))
  · have long : Number.maxDigits < (onesIndex Number.maxDigits).toList.length := by
      rw [onesIndex, String.toList_ofList, List.length_append, List.length_replicate]
      exact Nat.lt_succ_self _
    have lengthy : Overlong (.list [.int 1]) (onesIndex Number.maxDigits) :=
      ⟨⟨_, list⟩, by rw [number]; rfl, long⟩
    obtain ⟨e, failed⟩ := descend?_of_overlong tree (.down first (.here lengthy))
    rw [lookup?, segments_of_splits split, failed]
    simp

end Reference

end Workflow
