import Workflow.Proofs.Execution.Isolation
import Workflow.Proofs.Expr.Absence
import Workflow.Proofs.Reference.Splitting
import Workflow.Proofs.Value.Outline

/-!
# Chains read as paths and as expressions

A chain of keys into the inputs or the recorded steps is a path and an expression.  Where
every mapping on the way has the next key, the value at the path, what a token of the path
resolves to, and what conditions and transforming expressions evaluate are the same, whatever
else the keys may mean.
-/

namespace Workflow

open Value (get? field?)
open Reference (IsMapping)

/-! ## Cutting a chain at its dots -/

namespace Text

theorem findFrom?_of_not_mem {c : Char} {cs : List Char} (absent : c ∉ cs) (n : Nat) :
    findFrom? [c] n cs = none := by
  induction cs generalizing n with
  | nil => rfl
  | cons d rest ih =>
      obtain ⟨other, absent⟩ := not_or.mp (List.mem_cons.not.mp absent)
      simp [findFrom?, List.isPrefixOf, other, ih absent]

theorem findFrom?_append {c : Char} {front : List Char} (absent : c ∉ front) (n : Nat)
    (back : List Char) : findFrom? [c] n (front ++ c :: back) = some (n + front.length) := by
  induction front generalizing n with
  | nil => simp [findFrom?, List.isPrefixOf]
  | cons d rest ih =>
      obtain ⟨other, absent⟩ := not_or.mp (List.mem_cons.not.mp absent)
      simp only [List.cons_append, findFrom?, List.isPrefixOf, beq_iff_eq, other, Bool.and_true,
        if_false, ih absent, List.length_cons]
      congr 1
      omega

theorem cutAt?_append {c : Char} {front : List Char} (absent : c ∉ front) (back : List Char) :
    cutAt? [c] (front ++ c :: back) = some (front, back) := by
  simp [cutAt?, findFrom?_append absent]

theorem splitAll_append {c : Char} {front : List Char} (absent : c ∉ front) (limit : Nat)
    (back : List Char) :
    splitAll [c] (limit + 1) (front ++ c :: back) = front :: splitAll [c] limit back := by
  rw [splitAll, cutAt?_append absent]

theorem splitAll_of_not_mem {c : Char} {cs : List Char} (absent : c ∉ cs) (limit : Nat) :
    splitAll [c] limit cs = [cs] := by
  cases limit with
  | zero => rfl
  | succ limit =>
      rw [splitAll, cutAt?, findFrom?_of_not_mem absent]
      rfl

theorem splitAll_intercalate {c : Char} {part : String} {parts : List String}
    (absent : ∀ s ∈ part :: parts, c ∉ s.toList) {limit : Nat} (enough : parts.length ≤ limit) :
    splitAll [c] limit ((String.singleton c).intercalate (part :: parts)).toList =
      (part :: parts).map String.toList := by
  induction parts generalizing part limit with
  | nil =>
      rw [String.intercalate_singleton]
      exact splitAll_of_not_mem (absent part List.mem_cons_self) limit
  | cons next rest ih =>
      obtain ⟨limit, rfl⟩ : ∃ n, limit = n + 1 := ⟨limit - 1, by simp at enough; omega⟩
      obtain ⟨first, absent⟩ := List.forall_mem_cons.mp absent
      have begins : ((String.singleton c).intercalate (part :: next :: rest)).toList =
          part.toList ++ c :: ((String.singleton c).intercalate (next :: rest)).toList := by
        simp [String.intercalate_cons_cons]
      rw [begins, splitAll_append first, ih absent (Nat.le_of_succ_le_succ enough)]
      rfl

theorem length_le_intercalate (c : Char) (part : String) (parts : List String) :
    parts.length ≤ ((String.singleton c).intercalate (part :: parts)).length := by
  induction parts generalizing part with
  | nil => exact Nat.zero_le _
  | cons next rest ih =>
      have later := ih next
      have single : (String.singleton c).length = 1 := String.length_singleton
      rw [String.intercalate_cons_cons, String.length_append, String.length_append, single,
        List.length_cons]
      omega

/-- What is joined from parts is cut into them again. -/
theorem splitAll_joined {c : Char} {part : String} {parts : List String} {text : String}
    (joined : (String.singleton c).intercalate (part :: parts) = text)
    (absent : ∀ s ∈ part :: parts, c ∉ s.toList) :
    splitAll [c] text.length text.toList = (part :: parts).map String.toList := by
  subst joined
  exact splitAll_intercalate absent (length_le_intercalate c part parts)

end Text

theorem IsName.dotless {s : String} (h : IsName s) : '.' ∉ s.toList := fun mem => by
  have part := h.part mem
  revert part
  decide

theorem IsName.unquoted {s : String} (h : IsName s) : '\'' ∉ s.toList := fun mem =>
  absurd (h.part mem) (by decide)

namespace Reference

theorem segments_intercalate {part : String} {parts : List String}
    (dotless : ∀ s ∈ part :: parts, '.' ∉ s.toList) :
    segments (".".intercalate (part :: parts)) = part :: parts := by
  have joined : (String.singleton '.').intercalate (part :: parts) =
      ".".intercalate (part :: parts) := rfl
  rw [segments, Text.splitAll_joined joined dotless, List.map_map]
  simp [Function.comp_def]

/-- The segments of a chain are its names. -/
theorem segments_chainText {root : String} {keys : List String} (first : IsName root)
    (words : ∀ k ∈ keys, IsName k) : segments (chainText root keys) = root :: keys :=
  segments_intercalate (List.forall_mem_cons.mpr ⟨first.dotless, fun k mem => (words k mem).dotless⟩)

/-! ## Paths and tokens -/

/-- Following keys through mappings leads from one value to another. -/
inductive Leads : Value -> List String -> Value -> Prop where
  | here (v : Value) : Leads v [] v
  | there {v part w : Value} {entries : List (Value × Value)} {key : String} {keys : List String}
      (mapping : IsMapping v entries) (present : field? entries key = some part)
      (later : Leads part keys w) : Leads v (key :: keys) w

theorem descend?_of_leads {v w : Value} {keys : List String} (leads : Leads v keys w) :
    descend? v keys = .ok (some w) := by
  induction leads with
  | here v => rfl
  | there mapping present _ ih =>
      rw [descend?_cons, child?_mapping mapping, present]
      exact ih

/-- A chain as the text of a token. -/
def tokenText (chain : String) : String :=
  "\x7b\x7b " ++ chain ++ " \x7d\x7d"

theorem trim_padded {cs : List Char} (chars : ∀ c ∈ cs, IsChainChar c) :
    Text.trim Text.isBlank (' ' :: cs ++ [' ']) = cs := by
  have ended : Text.trimEnd Text.isBlank (cs ++ [' ']) = Text.trimEnd Text.isBlank cs := by
    simp [Text.trimEnd, show Text.isBlank ' ' = true by decide]
  cases cs with
  | nil => decide
  | cons c rest =>
      have start (more : List Char) : Text.trimStart Text.isBlank (c :: rest ++ more) =
          c :: rest ++ more :=
        List.dropWhile_cons_of_neg (by simp [(chars c List.mem_cons_self).inside.2])
      have whole := Reading.trim_chain chars
      rw [Text.trim, ← List.append_nil (c :: rest), start, List.append_nil] at whole
      rw [Text.trim, List.cons_append, Text.trimStart, List.dropWhile_cons_of_pos (by decide)]
      exact (congrArg (Text.trimEnd Text.isBlank) (start [' '])).trans (ended.trans whole)

/-- The token of a chain is the whole text, and its path is the chain. -/
theorem pieces_tokenText {chain : String} (chars : ∀ c ∈ chain.toList, IsChainChar c) :
    ∃ inside, pieces (tokenText chain).toList = [.token inside] ∧ pathOf inside = chain := by
  have shown : (tokenText chain).toList = written (' ' :: chain.toList ++ [' ']) ++ [] := by
    simp [tokenText, written]
  have proper : IsInside (' ' :: chain.toList ++ [' ']) := by
    refine ⟨List.cons_ne_nil _ _, fun mem => ?_⟩
    rcases List.mem_append.mp mem with front | last
    · rcases List.mem_cons.mp front with same | inner
      · exact absurd same (by decide)
      · exact absurd (chars _ inner).2 (by decide)
    · exact absurd (List.mem_singleton.mp last) (by decide)
  have alone : pieces (tokenText chain).toList = [.token (' ' :: chain.toList ++ [' '])] := by
    rw [shown, pieces_token proper, pieces]
  exact ⟨_, alone, by rw [pathOf, trim_padded chars, String.ofList_toList]⟩

/-- No chain of data has another meaning. -/
theorem chainText_notin {root : String} (data : root ∈ Reading.dataRoots) (keys : List String) :
    chainText root keys ∉ ["now", "uuid"] := by
  have begin : (chainText root keys).toList.head? = root.toList.head? := by
    obtain ⟨c, cs, hs, _⟩ := (Reading.isWord_of_dataRoots data).name.nonempty
    rw [toList_chainText, hs]
    rfl
  intro mem
  have other : ∀ root ∈ Reading.dataRoots, ∀ word ∈ ["now", "uuid"],
      word.toList.head? ≠ root.toList.head? := by decide
  exact other root data _ mem begin

section Paths

variable {scope : List (Value × Value)} {root : String} {keys : List String} {v w : Value}
  (first : IsName root) (words : ∀ k ∈ keys, IsName k)
  (found : field? scope root = some v) (leads : Leads v keys w)
include first words found leads

theorem lookup?_of_leads : lookup? (.dict scope) (chainText root keys) = .ok (some w) := by
  have mapping : IsMapping (.dict scope) scope := .inl rfl
  rw [lookup?, segments_chainText first words]
  exact descend?_of_leads (.there mapping found leads)

/-- The token of a chain resolves to what is at its path, unless it has a meaning of its own. -/
theorem resolve_of_leads (unlike : chainText root keys ∉ ["now", "uuid"]) (f : Fresh) :
    resolve (.dict scope) (.str (tokenText (chainText root keys))) f = .ok w f := by
  simp only [List.mem_cons, List.not_mem_nil, or_false, not_or] at unlike
  obtain ⟨inside, alone, path⟩ :=
    pieces_tokenText fun c hc => Reading.chainText_chars first words hc
  have looked : valueAt? (.dict scope) (chainText root keys) f = .ok (some w) f := by
    unfold valueAt?
    rw [if_neg (by simpa using unlike.1), if_neg (by simpa using unlike.2),
      lookup?_of_leads first words found leads]
    rfl
  rw [resolve, resolveText_alone alone, path]
  exact Effect.ok_bind looked rfl

end Paths

end Reference

/-! ## Keys of what values hold by now -/

namespace Objects

variable {o : Objects} {depth : Nat} {path : List Mark} {v : Value}
  {entries : List (Value × Value)} {key : String} {part : Value}

theorem field?_refreshWithin (o : Objects) (depth : Nat) (path : List Mark)
    (entries : List (Value × Value)) (key : String) :
    field? (entries.map fun (k, w) => (o.refreshWithin depth path k, o.refreshWithin depth path w))
      key = (field? entries key).map (o.refreshWithin depth path) :=
  Value.field?_map (fun v name => refreshWithin_text o depth path v name) entries key

theorem mem_of_field? (h : field? entries key = some part) : (.str key, part) ∈ entries := by
  induction entries with
  | nil => cases h
  | cons e rest ih =>
      obtain ⟨k, u⟩ := e
      rcases field?_cons k u rest key with ⟨rfl, found⟩ | ⟨-, found⟩
      · rw [found] at h
        cases h
        exact List.mem_cons_self
      · exact List.mem_cons_of_mem _ (ih (found ▸ h))

/-- The entries that a mapping shows are its entries, looked into unless it can only be read. -/
theorem entry_of_shown
    (mapping : o.refreshWithin (depth + 1) path v = .dict entries ∨
      o.refreshWithin (depth + 1) path v = .sealed entries)
    (present : field? entries key = some part) :
    ∃ held p, (v = .dict held ∧ part = o.refreshWithin depth path p ∨ v = .sealed held ∧ part = p) ∧
      field? held key = some p := by
  cases v with
  | dict held =>
      have shown : entries = held.map fun (k, w) =>
          (o.refreshWithin depth path k, o.refreshWithin depth path w) := by
        rcases mapping with same | same <;> cases same
        rfl
      rw [shown, field?_refreshWithin] at present
      obtain ⟨p, found, rfl⟩ := Option.map_eq_some_iff.mp present
      exact ⟨held, p, .inl ⟨rfl, rfl⟩, found⟩
  | «sealed» held =>
      have shown : entries = held := by
        rcases mapping with same | same <;> cases same
        rfl
      exact ⟨held, part, .inr ⟨rfl, rfl⟩, shown ▸ present⟩
  | object m old =>
      simp only [refreshWithin] at mapping
      split at mapping <;> rcases mapping with same | same <;> cases same
  | _ => rcases mapping with same | same <;> cases same

/-- The part under a key of a mapping that is seen whole is seen whole, with what is in it. -/
theorem WholeWithin.field (whole : o.WholeWithin depth path v)
    (mapping : o.refreshWithin depth path v = .dict entries ∨
      o.refreshWithin depth path v = .sealed entries)
    (present : field? entries key = some part) :
    ∃ p, get? v key = some p ∧ o.WholeWithin depth [] p ∧ o.refreshWithin depth [] p = part := by
  cases depth with
  | zero => exact whole.elim
  | succ depth =>
      obtain ⟨held, p, ⟨rfl, rfl⟩ | ⟨rfl, rfl⟩, found⟩ := entry_of_shown mapping present
      · have inner : o.WholeWithin depth path p := (whole _ (mem_of_field? found)).2
        obtain ⟨held, same⟩ := inner.deepen (Nat.le_succ depth)
        exact ⟨p, found, held, same⟩
      · obtain ⟨text, rfl⟩ := whole _ (mem_of_field? found)
        exact ⟨.str text, found, show True from trivial, rfl⟩

/-- What a mapping holds by now under a key shows what the mapping shows under it. -/
theorem WholeWithin.present (whole : o.WholeWithin depth [] v)
    (mapping : IsMapping (o.refreshWithin depth [] v) entries)
    (present : field? entries key = some part) :
    ∃ p, get? (o.look v) key = some p ∧ o.WholeWithin depth [] p ∧
      o.refreshWithin depth [] p = part := by
  cases depth with
  | zero => exact whole.elim
  | succ depth =>
      cases v with
      | object m old =>
          obtain ⟨outside, _, inner⟩ := whole
          rw [refreshWithin_object o depth outside] at mapping
          obtain ⟨p, found, held, same⟩ := inner.field mapping present
          obtain ⟨deeper, still⟩ := held.deepen (Nat.le_succ depth)
          exact ⟨p, found, deeper, still.trans same⟩
      | dict held => exact whole.field mapping present
      | «sealed» held => exact whole.field mapping present
      | _ => rcases mapping with same | same <;> cases same

/-- What is under a key of a value of the store is one of the store. -/
theorem Sound.field (h : o.Sound v) {held : List (Value × Value)} {p : Value}
    (mapping : v = .dict held ∨ v = .sealed held) (found : field? held key = some p) :
    o.Sound p := by
  rcases mapping with rfl | rfl
  · exact (sound_dict.mp h _ (mem_of_field? found)).2
  · obtain ⟨text, rfl⟩ := h 1 _ (mem_of_field? found)
    exact sound_str text

/--
A value that paths see where expressions have another one, with so many keys to go: what it
shows, the value itself where nothing changed, or a mapping that shows each of its parts.
-/
inductive Views (o : Objects) : Nat -> Value -> Value -> Prop where
  | shown {n depth : Nat} {path : List Mark} {v p : Value} (deep : 2 * n ≤ depth)
      (same : o.refreshWithin depth path p = v) : Views o n v p
  | still {n : Nat} (unchanged : o.changes = []) (p : Value) : Views o n p p
  | record {n : Nat} {held : List (Value × Value)} (parts : ∀ e ∈ held, Views o n e.2 e.2) :
      Views o (n + 1) (.dict held) (.dict held)

theorem views_str (n : Nat) (s : String) : o.Views n (.str s) (.str s) :=
  .shown (Nat.le_refl _) ((refreshWithin_text o (2 * n) [] (.str s) s).mpr rfl)

theorem views_refresh {n : Nat} (deep : 2 * n ≤ maxDepth) (v : Value) :
    o.Views n (o.refresh v) (o.refresh v) := by
  unfold refresh
  split
  · next none => exact .still (List.isEmpty_iff.mp none) v
  · exact .shown deep (refreshWithin_again o maxDepth [] v)

theorem Views.outline {n : Nat} {p : Value} (views : o.Views n v p) (h : o.Sound p) :
    o.outline v = o.outline p := by
  cases views with
  | shown _ same => exact same ▸ outline_refreshWithin (h _)
  | still | record => rfl

/-- What is under the key of a mapping that is looked into once less. -/
theorem Sound.view {n : Nat} (h : o.Sound v) (deep : 2 * n ≤ depth)
    (mapping : o.refreshWithin (depth + 1) path v = .dict entries ∨
      o.refreshWithin (depth + 1) path v = .sealed entries)
    (present : field? entries key = some part) :
    ∃ q, get? v key = some q ∧ o.Sound q ∧ o.Views n part q := by
  obtain ⟨held, q, ⟨rfl, rfl⟩ | ⟨rfl, rfl⟩, found⟩ := entry_of_shown mapping present
  · exact ⟨q, found, h.field (.inl rfl) found, .shown deep rfl⟩
  · obtain ⟨text, rfl⟩ := h 1 _ (mem_of_field? found)
    exact ⟨.str text, found, sound_str text, views_str n text⟩

/-- Where nothing changed, what is under the key of a mapping is what expressions find there. -/
theorem present_of_unchanged (unchanged : o.changes = []) (mapping : IsMapping v entries)
    (present : field? entries key = some part) : get? (o.look v) key = some part := by
  cases v with
  | object m old =>
      have none : o.current? m = none := by simp [current?, unchanged]
      rw [look, none, Option.getD_none]
      rcases mapping with rfl | rfl <;> exact present
  | dict held | «sealed» held =>
      rcases mapping with same | same <;> cases same
      exact present
  | _ => rcases mapping with same | same <;> cases same

theorem Views.present {n : Nat} {p : Value} (views : o.Views (n + 1) v p) (h : o.Sound p)
    (mapping : IsMapping v entries) (present : field? entries key = some part) :
    ∃ q, get? (o.look p) key = some q ∧ o.Sound q ∧ o.Views n part q := by
  cases views with
  | @shown _ depth path _ _ deep same =>
      obtain ⟨depth, rfl⟩ : ∃ k, depth = k + 2 := ⟨depth - 2, by omega⟩
      subst same
      cases p with
      | object m old =>
          by_cases around : m ∈ path
          · simp [refreshWithin, around, IsMapping, Value.bare] at mapping
          · rw [refreshWithin_object o (depth + 1) around] at mapping
            have deep : 2 * n ≤ depth := by omega
            exact h.content.view deep mapping present
      | dict held | «sealed» held =>
          have deep : 2 * n ≤ depth + 1 := by omega
          exact @Sound.view o (depth + 1) path _ _ _ _ _ h deep mapping present
      | _ => rcases mapping with same | same <;> cases same
  | still unchanged =>
      refine ⟨part, present_of_unchanged unchanged mapping present, ?_, .still unchanged part⟩
      cases v with
      | object m old =>
          have inner := h.content
          rw [show o.current? m = none by simp [current?, unchanged], Option.getD_none] at inner
          exact inner.field mapping present
      | dict held | «sealed» held => exact h.field mapping present
      | _ => rcases mapping with same | same <;> cases same
  | @record _ held parts =>
      have same : held = entries := by
        rcases mapping with same | same <;> cases same
        rfl
      subst same
      exact ⟨part, present, h.field (.inl rfl) present, parts _ (mem_of_field? present)⟩

end Objects

/-! ## Chains as expressions -/

namespace Expr

variable {scope : List (Value × Value)} {e : Expr} {s t : EvalState} {o : Objects} {depth : Nat}

/-- Values that paths see where expressions have others keep to each other key by key. -/
def Follows (o : Objects) (V : Nat -> Value -> Value -> Prop) : Prop :=
  ∀ n v p entries key part, V (n + 1) v p -> IsMapping v entries ->
    field? entries key = some part -> ∃ q, get? (o.look p) key = some q ∧ V n part q

theorem follows_views : Follows o fun n v p => o.Sound p ∧ o.Views n v p := by
  rintro n v p entries key part ⟨sound, views⟩ mapping present
  exact views.present sound mapping present

theorem follows_of_unchanged (unchanged : o.changes = []) : Follows o fun _ v p => p = v := by
  rintro n v p entries key part rfl mapping present
  exact ⟨part, Objects.present_of_unchanged unchanged mapping present, rfl⟩

theorem follows_whole :
    Follows o fun _ v p => o.WholeWithin depth [] p ∧ o.refreshWithin depth [] p = v := by
  rintro n v p entries key part ⟨whole, rfl⟩ mapping present
  exact whole.present mapping present

/-- A chain of keys that are there ends in a value that keeps to what the keys lead to. -/
theorem steady_of_leads {V : Nat -> Value -> Value -> Prop} (follows : Follows o V)
    (unused : o.Unused) (same : t.objects.changes = o.changes) {v w y : Value} {keys : List String}
    (leads : Reference.Leads v keys y) (visible : ∀ k ∈ keys, beginsWith "_" k = false) {p : Value}
    {n : Nat} (seen : V (n + keys.length) v p) (marked : o.Marked p w) (h : Steady scope e s t w) :
    ∃ p' w', V n y p' ∧ o.Marked p' w' ∧ Steady scope (keys.foldl .field e) s t w' := by
  induction leads generalizing e p w with
  | here v => exact ⟨p, w, seen, marked, h⟩
  | @there v part y entries key keys mapping present _ ih =>
      obtain ⟨first, visible⟩ := List.forall_mem_cons.mp visible
      obtain ⟨q, found, seen⟩ := follows _ _ _ _ _ _ seen mapping present
      obtain ⟨u, there, marked⟩ := (marked.look unused).present key q found
      rw [← Objects.look_of_same_changes same] at there
      exact ih visible seen marked (steady_field_of_present first h there)

end Expr

/-! ## What a context shows -/

namespace Objects

variable {o : Objects} {depth deeper : Nat}

/-- A value is seen whole from some depth and shows itself. -/
def ShowsItself (o : Objects) (depth : Nat) (v : Value) : Prop :=
  o.WholeWithin depth [] v ∧ o.refreshWithin depth [] v = v

theorem ShowsItself.mono {v : Value} (h : o.ShowsItself depth v) (deep : depth ≤ deeper) :
    o.ShowsItself deeper v := by
  obtain ⟨whole, same⟩ := h.1.deepen deep
  exact ⟨whole, same.trans h.2⟩

theorem showsItself_str (s : String) : o.ShowsItself (depth + 1) (.str s) :=
  ⟨trivial, rfl⟩

theorem sound_record {fields : List (String × Value)} (h : ∀ f ∈ fields, o.Sound f.2) :
    o.Sound (.record fields) :=
  sound_dict.mpr (List.forall_mem_map.mpr fun f mem => ⟨sound_str f.1, h f mem⟩)

theorem views_record {n : Nat} {fields : List (String × Value)}
    (h : ∀ f ∈ fields, o.Views n f.2 f.2) : o.Views (n + 1) (.record fields) (.record fields) :=
  .record (List.forall_mem_map.mpr h)

theorem showsItself_record {fields : List (String × Value)}
    (h : ∀ f ∈ fields, o.ShowsItself (depth + 1) f.2) :
    o.ShowsItself (depth + 2) (.record fields) := by
  refine ⟨List.forall_mem_map.mpr fun f mem => ⟨trivial, (h f mem).1⟩, ?_⟩
  have shown : o.refreshWithin (depth + 2) [] (.record fields) =
      .dict ((fields.map fun f => (Value.str f.1, f.2)).map fun e =>
        (o.refreshWithin (depth + 1) [] e.1, o.refreshWithin (depth + 1) [] e.2)) := rfl
  rw [shown, List.map_map]
  exact congrArg Value.dict (List.map_congr_left fun f mem => Prod.ext rfl (h f mem).2)

theorem Whole.refresh_showsItself {v : Value} (h : o.Whole v) :
    o.ShowsItself (maxDepth / 2 - 2) (o.refresh v) := by
  rw [WholeWithin.refresh h (by simp [maxDepth])]
  exact ⟨h.again, refreshWithin_again o _ [] v⟩

theorem Marked.unmarked {v w : Value} (marked : o.Marked v w) :
    w.unmarked = v.unmarked := by
  cases marked with
  | kept => rfl
  | given => exact unmarked_markFrom false v _

/-- A value that has a mark gets no other. -/
theorem Marked.eq_of_mark {v w : Value} (marked : o.Marked v w)
    (h : v.mark?.isSome) : w = v := by
  cases marked with
  | kept => rfl
  | given => cases v <;> first | rfl | cases h

theorem mark?_refreshWithin (path : List Mark) (v : Value) :
    (o.refreshWithin depth path v).mark? = v.mark? := by
  cases depth with
  | zero => rfl
  | succ depth =>
      cases v with
      | object m old =>
          simp only [refreshWithin]
          split <;> rfl
      | _ => rfl

end Objects

/-- The inputs and the outputs in a context are seen whole. -/
structure Context.Whole (c : Context) (o : Objects) : Prop where
  inputs : o.Whole c.inputs
  outputs : ∀ e ∈ c.records, o.Whole e.2.output

theorem Context.Whole.showsItself {c : Context} {o : Objects} (h : c.Whole o) (root : String) :
    o.ShowsItself (Objects.maxDepth / 2) ((c.current o).dataAt root) := by
  unfold dataAt
  split
  · exact h.inputs.refresh_showsItself.mono (by simp [Objects.maxDepth])
  · refine (Objects.showsItself_record ?_ : o.ShowsItself (49998 + 2) _)
    simp only [current, List.forall_mem_map]
    rintro ⟨id, r⟩ mem
    refine (Objects.showsItself_record ?_ : o.ShowsItself (49997 + 2) _)
    simp only [List.forall_mem_cons]
    exact ⟨(h.outputs _ mem).refresh_showsItself.mono (by simp [Objects.maxDepth]),
      Objects.showsItself_str _, Objects.showsItself_str _, List.forall_mem_nil _⟩

/-- The inputs and the outputs in a context are values of the store. -/
structure Context.Sound (c : Context) (o : Objects) : Prop where
  inputs : o.Sound c.inputs
  outputs : ∀ e ∈ c.records, o.Sound e.2.output

theorem Context.Sound.dataAt {c : Context} {o : Objects} (h : c.Sound o) (root : String) :
    o.Sound ((c.current o).dataAt root) := by
  unfold Context.dataAt
  split
  · exact h.inputs.refresh
  · refine Objects.sound_record ?_
    simp only [current, List.forall_mem_map]
    rintro ⟨id, r⟩ mem
    refine Objects.sound_record ?_
    simp only [List.forall_mem_cons]
    exact ⟨(h.outputs _ mem).refresh, Objects.sound_str _, Objects.sound_str _, List.forall_mem_nil _⟩

/-- Paths see the data of a context as it shows itself, for as many keys as any value has depth. -/
theorem Context.views_dataAt (c : Context) (o : Objects) (root : String) :
    o.Views (Objects.maxDepth / 2) ((c.current o).dataAt root) ((c.current o).dataAt root) := by
  unfold Context.dataAt
  split
  · exact Objects.views_refresh (by decide) _
  · refine (Objects.views_record ?_ : o.Views (49999 + 1) _ _)
    simp only [current, List.forall_mem_map]
    rintro ⟨id, r⟩ mem
    refine (Objects.views_record ?_ : o.Views (49998 + 1) _ _)
    simp only [List.forall_mem_cons]
    exact ⟨Objects.views_refresh (by decide) _, Objects.views_str _ _, Objects.views_str _ _,
      List.forall_mem_nil _⟩

theorem Context.field?_dataScope (c : Context) {root : String}
    (data : root ∈ Reading.dataRoots) : field? c.dataScope root = some (c.dataAt root) := by
  rcases Reading.eq_of_dataRoots data with rfl | rfl <;> rfl

theorem Context.field?_scope (c : Context) {root : String}
    (data : root ∈ Reading.dataRoots) : field? c.scope root = some (c.dataAt root) := by
  rcases Reading.eq_of_dataRoots data with rfl | rfl
  · exact (Value.field?_putField_of_ne _ c.environment (by decide)).trans
      ((Value.field?_putField_of_ne _ c.steps (by decide)).trans
        (Value.field?_putField_self _ "inputs" c.inputs))
  · exact (Value.field?_putField_of_ne _ c.environment (by decide)).trans
      (Value.field?_putField_self _ "steps" c.steps)

section Evaluated

variable {c : Context} {o : Objects} {root : String} {keys : List String} {v : Value}
  {scope : List (Value × Value)}
  (unused : o.Unused) (first : IsWord root) (words : ∀ k ∈ keys, IsWord k)
  (visible : ∀ k ∈ keys, Expr.beginsWith "_" k = false)
include unused first words visible

/-- A chain of keys that are there evaluates to a value that keeps to what the keys lead to. -/
theorem Context.evaluate_of_leads {V : Nat -> Value -> Value -> Prop} (follows : Expr.Follows o V)
    {start : Value} (leads : Reference.Leads start keys v) (n : Nat)
    (seen : V (n + keys.length) start start) (found : field? scope root = some start) :
    ∃ p w, V n v p ∧ o.Marked p w ∧
      Expression.evaluate (chainText root keys) scope o = .ok (o.refresh w) (o.adopt start).2 := by
  obtain ⟨p, w, kept, marked, steady⟩ := Expr.steady_of_leads follows unused rfl leads visible seen
    (.given _ (Nat.le_refl o.next)) (Expr.steady_name found o)
  have value := Expr.evaluate_of_ok (Expr.statementOf_chain first words) steady.1
  have changes : (o.adopt start).2.changes = o.changes := rfl
  exact ⟨p, w, kept, marked, by rw [Expression.evaluate, value, Objects.refresh_of_same_changes changes]⟩

variable (leads : Reference.Leads ((c.current o).dataAt root) keys v)
  (found : field? scope root = some ((c.current o).dataAt root))
include leads found

/-- Where nothing changed, a chain evaluates to what its keys lead to, but for new marks. -/
theorem Context.evaluate_of_unchanged (unchanged : o.changes = []) :
    ∃ w o', Expression.evaluate (chainText root keys) scope o = .ok w o' ∧ o'.changes = o.changes ∧
      w.unmarked = v.unmarked ∧ (v.mark?.isSome -> w = v) := by
  obtain ⟨p, w, rfl, marked, value⟩ := evaluate_of_leads unused first words visible
    (Expr.follows_of_unchanged unchanged) leads 0 rfl found
  rw [Objects.refresh_of_unchanged unchanged] at value
  exact ⟨w, _, value, rfl, marked.unmarked, marked.eq_of_mark⟩

/-- Where values are seen whole, a chain evaluates to what its keys lead to, but for new marks. -/
theorem Context.evaluate_of_whole (whole : c.Whole o) :
    ∃ w o', Expression.evaluate (chainText root keys) scope o = .ok w o' ∧ o'.changes = o.changes ∧
      w.unmarked = v.unmarked ∧ (v.mark?.isSome -> w = v) := by
  obtain ⟨p, w, ⟨whole, shown⟩, marked, value⟩ := evaluate_of_leads unused first words visible
    Expr.follows_whole leads 0 (whole.showsItself root) found
  have now : o.refresh p = v := (whole.refresh (by simp [Objects.maxDepth])).trans shown
  refine ⟨o.refresh w, _, value, rfl, ?_, fun mark => ?_⟩
  · rw [whole.unmarked_refresh unused (by simp [Objects.maxDepth]) marked, now]
  · rw [marked.eq_of_mark (by rwa [<- Objects.mark?_refreshWithin [], shown]), now]

/-- Whatever changed, a short chain evaluates to a value with the outline of what is at its keys. -/
theorem Context.evaluate_of_sound (sound : c.Sound o) (short : keys.length ≤ Objects.maxDepth / 2) :
    ∃ w o', Expression.evaluate (chainText root keys) scope o = .ok w o' ∧ o'.changes = o.changes ∧
      o.outline w = o.outline v := by
  have views := c.views_dataAt o root
  rw [← Nat.sub_add_cancel short] at views
  obtain ⟨p, w, ⟨held, views⟩, marked, value⟩ := evaluate_of_leads unused first words visible
    Expr.follows_views leads _ ⟨sound.dataAt root, views⟩ found
  exact ⟨o.refresh w, _, value, rfl,
    (marked.outline_refresh unused held).trans (views.outline held).symm⟩

end Evaluated

/--
The keys of a chain lead from the inputs or the recorded steps, as they are by now, to some
value.  The value is at the path of the chain, and the token of the chain resolves to it.  The
chain evaluates to the same data in the scopes of conditions and of transforming expressions,
and to the very same value when it has a mark.  Where values were changed until they hold
themselves, what they show ends where they come again, and the outline is the same.
-/
theorem Context.reads_alike {c : Context} {o : Objects} (unused : o.Unused) {root : String}
    (data : root ∈ Reading.dataRoots) {keys : List String} (words : ∀ k ∈ keys, IsWord k)
    (visible : ∀ k ∈ keys, Expr.beginsWith "_" k = false) {v : Value}
    (leads : Reference.Leads ((c.current o).dataAt root) keys v) (f : Fresh) :
    let seen := c.current o
    let chain := chainText root keys
    Reference.lookup? (.dict seen.scope) chain = .ok (some v) ∧
    Reference.resolve (.dict seen.scope) (.str (Reference.tokenText chain)) f = .ok v f ∧
    ∀ scope ∈ [seen.conditionScope, seen.dataScope],
      (o.changes = [] ∨ c.Whole o -> ∃ w o', Expression.evaluate chain scope o = .ok w o' ∧
        o'.changes = o.changes ∧ w.unmarked = v.unmarked ∧ (v.mark?.isSome -> w = v)) ∧
      (c.Sound o -> keys.length ≤ Objects.maxDepth / 2 -> ∃ w o',
        Expression.evaluate chain scope o = .ok w o' ∧ o'.changes = o.changes ∧
          o.outline w = o.outline v) := by
  intro seen chain
  have first := Reading.isWord_of_dataRoots data
  have names : ∀ k ∈ keys, IsName k := fun k hk => (words k hk).name
  refine ⟨Reference.lookup?_of_leads first.name names (seen.field?_scope data) leads,
    Reference.resolve_of_leads first.name names (seen.field?_scope data) leads
      (Reference.chainText_notin data keys) f, fun scope mem => ?_⟩
  have found : field? scope root = some (seen.dataAt root) := by
    rcases List.mem_cons.mp mem with rfl | mem
    · exact seen.field?_conditionScope data
    · rw [List.mem_singleton.mp mem]
      exact seen.field?_dataScope data
  refine ⟨?_, evaluate_of_sound unused first words visible leads found⟩
  rintro (unchanged | whole)
  · exact evaluate_of_unchanged unused first words visible leads found unchanged
  · exact evaluate_of_whole unused first words visible leads found whole

/-- Inputs whose keys are names of methods, one of them a mapping that was changed. -/
def shelved : Context :=
  ⟨.object ⟨false, 1⟩ (.dict [(.str "items", .object ⟨false, 0⟩ (.dict [(.str "format", .int 1)]))]),
    [], [], [], []⟩

/-- What the mapping that was changed holds by now. -/
def restocked : Objects :=
  ⟨2, 0, [(⟨false, 0⟩, .dict [(.str "format", .int 2)])]⟩

/-- Inputs that were changed until they hold themselves. -/
def entwined : Context :=
  ⟨.object ⟨false, 0⟩ (.dict []), [], [], [], []⟩

/-- What the inputs that were changed hold by now. -/
def entwining : Objects :=
  ⟨1, 0, [(⟨false, 0⟩, .dict [(.str "format", .int 2), (.str "items", .object ⟨false, 0⟩ (.dict []))])]⟩

/-- One change under a mark that was given is under none that is given next. -/
theorem Objects.unused_of_one {next nextAdded k : Nat} (content : Value) (given : k < next) :
    (⟨next, nextAdded, [(⟨false, k⟩, content)]⟩ : Objects).Unused := by
  intro n later
  have later : next ≤ n := later
  have other : (⟨false, n⟩ : Mark) ≠ ⟨false, k⟩ := by
    rintro ⟨⟩
    omega
  simp [Objects.current?, List.lookup_cons, beq_eq_false_iff_ne.mpr other]

theorem sound_entwined : entwining.Sound entwined.inputs := by
  intro depth
  induction depth using Nat.strongRecOn with
  | _ depth ih =>
      match depth, ih with
      | 0, _ => trivial
      | 1, _ => exact ⟨by decide, trivial⟩
      | depth + 2, ih =>
          have again : entwining.SoundWithin depth entwined.inputs := ih depth (by omega)
          refine ⟨by decide, List.forall_mem_cons.mpr ⟨⟨Objects.sound_str _ depth, ?_⟩,
            List.forall_mem_singleton.mpr ⟨Objects.sound_str _ depth, again⟩⟩⟩
          cases depth <;> trivial

theorem wholeWithin_shelved : restocked.WholeWithin 5 [] shelved.inputs := by
  have held : restocked.WholeWithin 1 [⟨false, 0⟩, ⟨false, 1⟩] (.int 2) := trivial
  have changed : restocked.WholeWithin 3 [⟨false, 1⟩]
      (.object ⟨false, 0⟩ (.dict [(.str "format", .int 1)])) :=
    ⟨by decide, by decide, List.forall_mem_singleton.mpr ⟨trivial, held⟩⟩
  exact ⟨by decide, by decide, List.forall_mem_singleton.mpr ⟨trivial, changed⟩⟩

theorem Context.reads_alike_shelved :
    (Reference.lookup? (.dict (shelved.current restocked).scope) "inputs.items.format" =
        .ok (some (.int 2)) ∧
      ∃ w o, Expression.evaluate "inputs.items.format" (shelved.current restocked).conditionScope
        restocked = .ok w o ∧ w.unmarked = .int 2) ∧
    ∃ w o, Expression.evaluate "inputs.items" (entwined.current entwining).dataScope entwining =
      .ok w o ∧ entwining.outline w = .object ⟨false, 0⟩ .null := by
  constructor
  · have whole : shelved.Whole restocked :=
      ⟨(wholeWithin_shelved.weaken (by decide) (by simp)).1, by simp [shelved]⟩
    have inputs : (shelved.current restocked).dataAt "inputs" = .object ⟨false, 1⟩
        (.dict [(.str "items", .object ⟨false, 0⟩ (.dict [(.str "format", .int 2)]))]) :=
      wholeWithin_shelved.refresh (by decide)
    have leads : Reference.Leads ((shelved.current restocked).dataAt "inputs") ["items", "format"]
        (.int 2) := by
      rw [inputs]
      exact .there (.inl rfl) rfl (.there (.inl rfl) rfl (.here _))
    have written : chainText "inputs" ["items", "format"] = "inputs.items.format" := by decide
    rw [← written]
    obtain ⟨found, -, evaluated⟩ := Context.reads_alike (Objects.unused_of_one _ (by decide))
      (by decide) (by decide) (by decide) leads Condition.still.fresh
    obtain ⟨w, o, value, -, same, -⟩ := (evaluated _ List.mem_cons_self).1 (.inr whole)
    exact ⟨found, w, o, value, same⟩
  · have sound : entwined.Sound entwining := ⟨sound_entwined, by simp [entwined]⟩
    have inputs : (entwined.current entwining).dataAt "inputs" = .object ⟨false, 0⟩
        (.dict [(.str "format", .int 2), (.str "items", .object ⟨false, 0⟩ (.foreign "dict"))]) := rfl
    have leads : Reference.Leads ((entwined.current entwining).dataAt "inputs") ["items"]
        (.object ⟨false, 0⟩ (.foreign "dict")) := by
      rw [inputs]
      exact .there (.inl rfl) rfl (.here _)
    have written : chainText "inputs" ["items"] = "inputs.items" := by decide
    rw [← written]
    obtain ⟨-, -, evaluated⟩ := Context.reads_alike (Objects.unused_of_one _ (by decide))
      (by decide) (by decide) (by decide) leads Condition.still.fresh
    obtain ⟨w, o, value, -, same⟩ :=
      (evaluated _ (List.mem_cons_of_mem _ List.mem_cons_self)).2 sound (by decide)
    exact ⟨w, o, value, same⟩

end Workflow
