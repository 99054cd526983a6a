import Workflow.Proofs.Execution.Inputs
import Workflow.Proofs.Template.Printing
import Workflow.Proofs.Template.Rendering

/-!
# Templates filled in

A printed chain becomes the text that its keys lead to, and the texts around it stay as they
are.  What is inserted is not read again, whatever marks of a template it has.
-/

namespace Workflow

open Value (get?)

namespace Template

/-! ## Parts of mappings -/

section Parts

variable {v part : Value} {key : String}

/-- The attributes of a mapping are its methods, and hidden ones that may not be read. -/
theorem attributeOf?_of_mapping (mapping : v.entries?.isSome) (name : String) :
    attributeOf? v name =
      if hasHidden v name then some (restrictedPart v name)
      else if v.methodNames.contains name then some (.method v name) else none := by
  rw [← Value.attribute?_of_entries mapping]
  cases v <;> first | rfl | cases mapping

theorem attributeOf?_eq_none_iff (mapping : v.entries?.isSome) :
    attributeOf? v key = none ↔ hasHidden v key = false ∧ key ∉ v.methodNames := by
  rw [attributeOf?_of_mapping mapping]
  split <;> simp_all

theorem isSome_of_get? (present : get? v key = some part) : v.entries?.isSome := by
  rw [get?, Option.bind_eq_some_iff] at present
  obtain ⟨entries, held, _⟩ := present
  rw [held]
  rfl

theorem partByName_of_mapping (mapping : v.entries?.isSome) :
    partByName v key = (match attributeOf? v key with
      | some w => .ok w
      | none => do
          match <- itemOf? v (.str key) with
          | some w => .ok w
          | none => .ok (noPart v key)) := by
  cases v <;> first | rfl | cases mapping

/-- A mapping is asked for an attribute first, and for the key where there is none. -/
theorem partByName_of_present (present : get? v key = some part)
    (unlike : attributeOf? v key = none) : partByName v key = .ok part := by
  have item : itemOf? v (.str key) = .ok (some part) := by
    simp [itemOf?, Value.asText?, present]
  rw [partByName_of_mapping (isSome_of_get? present), unlike]
  simp only [item, bind, Except.bind]

end Parts

/-! ## Marks of parts -/

/-- What has marks for its parts has the hidden attributes that it has without them. -/
theorem hasHidden_of_marked {o : Objects} (unused : o.Unused) {v w : Value} (marked : o.Marked v w)
    (mapping : (o.look v).entries?.isSome) (name : String) :
    hasHidden (o.look w) name = hasHidden (o.look v) name := by
  rcases marked.look_of_mapping unused mapping with same | ⟨entries, mark, n, bare, held⟩
  · rw [same]
  · rw [bare, held]
    rfl

section Marked

variable {o : Objects} {v w part : Value} {key : String} (unused : o.Unused)
  (marked : o.Marked v w) (present : get? (o.look v) key = some part)
include unused marked present

theorem attributeOf?_of_marked (unlike : attributeOf? (o.look v) key = none) :
    attributeOf? (o.look w) key = none := by
  have mapping := isSome_of_get? present
  have like := marked.look unused
  have still : (o.look w).entries?.isSome := by rw [like.mapping, mapping]
  rw [attributeOf?_eq_none_iff mapping] at unlike
  rw [attributeOf?_eq_none_iff still, hasHidden_of_marked unused marked mapping, like.methods]
  exact unlike

end Marked

/-! ## Terms -/

/-- Where a template stands outside of its blocks, loops and macros. -/
def outermost (blocks : List Block) : Surroundings :=
  ⟨[1, 0], false, blocks, 0, .null⟩

/-- A memory that binds variables, with no other changes than a store has. -/
structure Memory.Keeps (o : Objects) (bindings : List (String × Value)) (m : Memory) : Prop where
  scopes : m.scopes = #[bindings, []]
  changes : m.objects.changes = o.changes
  next : o.next ≤ m.objects.next

/-- A memory with marks for what can be changed in a new value. -/
def Memory.adopt (m : Memory) (v : Value) : Memory :=
  { m with objects := (m.objects.adopt v).2 }

/-- With calls that go deep enough, a term has a value and leaves a memory. -/
def Term.Gives (s : Surroundings) (e : Term) (depth : Nat) (m m' : Memory) (w : Value) : Prop :=
  ∀ fuel, depth ≤ fuel -> evalTerm s fuel e m = .ok w m'

section Terms

variable {o : Objects} {bindings : List (String × Value)} {s : Surroundings} {blocks : List Block}
  {e : Term} {depth : Nat} {m m' : Memory} {v w part : Value} {key root : String}

theorem Memory.Keeps.adopt (h : m.Keeps o bindings) (v : Value) : (m.adopt v).Keeps o bindings where
  scopes := h.scopes
  changes := h.changes
  next := Nat.le_trans h.next (Objects.le_markFrom false v m.objects.next)

theorem Memory.Keeps.look (h : m.Keeps o bindings) (v : Value) :
    m.objects.look v = o.look v :=
  Objects.look_of_same_changes h.changes v

/-- A value made in a memory is one that gets its marks later. -/
theorem Memory.Keeps.marked (h : m.Keeps o bindings) (v : Value) :
    o.Marked v (m.objects.adopt v).1 :=
  .given v h.next

theorem gives_name (blocks : List Block) (h : m.Keeps o bindings)
    (bound : bindings.lookup root = some w) :
    Term.Gives (outermost blocks) (.name root) 1 m m w := by
  rintro (_ | fuel) enough
  · omega
  have found : findName? m root [1, 0] = some (0, w) := by
    simp [findName?, h.scopes, bound]
  have here : (get : Render Memory) m = .ok m m := rfl
  rw [evalTerm]
  simp only [outermost, Surroundings.lookup, bind, EStateM.bind, here, found]
  rfl

/-- A part of a value other than a macro or a loop is made from what the value holds by now. -/
theorem partOf_of_plain (plain : ∀ kind place, w ≠ .slot kind place) (judge : Judge)
    (escaping : Bool) (fuel : Nat) (m : Memory) :
    partOf judge escaping fuel w key m =
      match partByName (m.objects.look w) key with
      | .ok part => .ok (m.objects.adopt part).1 (m.adopt part)
      | .error f => .error f m := by
  have seen : partOf judge escaping fuel w key = (do make (partByName (<- look w) key)) := by
    cases w with
    | slot kind place => exact absurd rfl (plain kind place)
    | _ => rfl
  have looked : Template.look w m = .ok (m.objects.look w) m := rfl
  rw [seen]
  simp only [bind, EStateM.bind, looked]
  cases partByName (m.objects.look w) key <;> rfl

theorem evalTerm_field (s : Surroundings) (fuel : Nat) (e : Term) (key : String) (m : Memory) :
    evalTerm s (fuel + 1) (.field e key) m =
      match evalTerm s fuel e m with
      | .ok w m' => partOf (fun b x => keeps fuel b x) s.escaping fuel w key m'
      | .error f m' => .error f m' := by
  rw [evalTerm]
  simp only [bind, EStateM.bind]
  cases evalTerm s fuel e m <;> rfl

theorem gives_field (h : Term.Gives s e depth m m' w) (plain : ∀ kind place, w ≠ .slot kind place)
    (found : partByName (m'.objects.look w) key = .ok part) :
    Term.Gives s (.field e key) (depth + 1) m (m'.adopt part) (m'.objects.adopt part).1 := by
  rintro (_ | fuel) enough
  · omega
  rw [evalTerm_field, h fuel (by omega)]
  simp only [partOf_of_plain plain, found]

theorem plain_of_mapping (mapping : (o.look w).entries?.isSome) (kind : SlotKind) (place : Nat) :
    w ≠ .slot kind place := by
  rintro rfl
  cases mapping

variable (unused : o.Unused) (keeps : m'.Keeps o bindings) (marked : o.Marked v w)
  (h : Term.Gives s e depth m m' w)
include unused keeps marked h

/-- A key that is there, and is no attribute, leads on to what is under it. -/
theorem gives_of_present (present : get? (o.look v) key = some part)
    (unlike : attributeOf? (o.look v) key = none) :
    ∃ u n, o.Marked part u ∧ n.Keeps o bindings ∧
      Term.Gives s (.field e key) (depth + 1) m n u := by
  obtain ⟨p, there, same⟩ := (marked.look unused).present key part present
  have unlike := attributeOf?_of_marked unused marked present unlike
  rw [← keeps.look] at there unlike
  exact ⟨_, _, same.trans (keeps.marked p), keeps.adopt p,
    gives_field h (plain_of_mapping (isSome_of_get? there)) (partByName_of_present there unlike)⟩

end Terms

/-! ## Statements -/

section Statements

variable {o : Objects} {bindings : List (String × Value)} {s : Surroundings} {blocks : List Block}
  {e : Term} {depth fuel : Nat} {m m' : Memory} {out text : String}

theorem evalStatement_text :
    evalStatement s (fuel + 1) (.text text) out m = .ok (out ++ text) m := by
  rw [evalStatement]
  rfl

/-- What is printed for a value other than a macro or a loop is the text of what it holds by now. -/
theorem printed_of_plain {v : Value} (plain : ∀ kind place, v ≠ .slot kind place)
    (known : ∀ name, v ≠ .foreign name) (judge : Judge) (fuel : Nat) (m : Memory) :
    printed judge false fuel v m =
      match plainText (m.objects.refresh v) with
      | .ok text => .ok text m
      | .error f => .error f m := by
  have shown : printed judge false fuel v = (do lift (plainText (<- current v))) := by
    cases v with
    | slot kind place => exact absurd rfl (plain kind place)
    | foreign name => exact absurd rfl (known name)
    | _ => rfl
  have held : current v m = .ok (m.objects.refresh v) m := rfl
  rw [shown]
  simp only [bind, EStateM.bind, held]
  cases plainText (m.objects.refresh v) <;> rfl

/-- A text is printed as it is. -/
theorem printed_str (text : String) (judge : Judge) (fuel : Nat) (m : Memory) :
    printed judge false fuel (.str text) m = .ok text m := by
  rw [@printed_of_plain (.str text) (by simp) (by simp), Objects.refresh_text]
  rfl

theorem evalStatement_print {w : Value} (h : Term.Gives s e depth m m' w)
    (shown : ∀ judge n, printed judge s.escaping n w m' = .ok text m') (enough : depth + 3 ≤ fuel) :
    evalStatement s fuel (.print [e]) out m = .ok (out ++ text) m' := by
  obtain ⟨fuel, rfl⟩ : ∃ n, fuel = n + 3 := ⟨fuel - 3, by omega⟩
  have nothing (out : String) (m : Memory) : evalPrinted s (fuel + 1) [] out m = .ok out m := by
    rw [evalPrinted]
    rfl
  rw [evalStatement, evalPrinted]
  simp only [bind, EStateM.bind, h (fuel + 1) (by omega), shown, nothing]

theorem evalBody_print {w : Value} {rest : List Statement} (h : Term.Gives s e depth m m' w)
    (shown : ∀ judge n, printed judge s.escaping n w m' = .ok text m') (enough : depth + 3 ≤ fuel) :
    evalBody s (fuel + 1) (.print [e] :: rest) out m = evalBody s fuel rest (out ++ text) m' := by
  rw [evalBody]
  simp only [bind, EStateM.bind, evalStatement_print h shown enough]

/-- The text of an insertion, in every memory that keeps the variables. -/
def Insertion.Shows (o : Objects) (bindings : List (String × Value)) (blocks : List Block)
    (p : Insertion) (text : String) : Prop :=
  ∀ m : Memory, m.Keeps o bindings -> ∃ m', m'.Keeps o bindings ∧
    Term.Gives (outermost blocks) (.chain p.root p.keys) (p.keys.length + 1) m m' (.str text)

/-- A text with insertions behind it, each of them filled in. -/
def filledWith (front : String) (text : Insertion -> String) (parts : List Insertion) : String :=
  front ++ String.join (parts.map fun p => text p ++ p.behind)

/-- How deep the calls for a text with insertions go. -/
def depthOf : List Insertion -> Nat
  | [] => 2
  | p :: rest => p.keys.length + 6 + depthOf rest

theorem evalBody_textStatement (front : List Char) (rest : List Statement) (out : String)
    (m : Memory) (enough : 2 ≤ fuel) :
    ∃ n, fuel ≤ n + 1 ∧ evalBody s fuel (textStatement front ++ rest) out m =
      evalBody s n rest (out ++ String.ofList front) m := by
  cases front with
  | nil => exact ⟨fuel, Nat.le_succ fuel, by simp [textStatement]⟩
  | cons c cs =>
      obtain ⟨fuel, rfl⟩ : ∃ n, fuel = n + 2 := ⟨fuel - 2, by omega⟩
      refine ⟨fuel + 1, Nat.le_refl _, ?_⟩
      have text : textStatement (c :: cs) = [.text (String.ofList (c :: cs))] := rfl
      rw [text, List.singleton_append, evalBody]
      simp only [bind, EStateM.bind, evalStatement_text]

/-- The statements of a text with insertions write the text with the insertions filled in. -/
theorem evalBody_bodyWith {parts : List Insertion} {text : Insertion -> String}
    (shows : ∀ p ∈ parts, p.Shows o bindings blocks (text p)) (front : String) (out : String)
    (fuel : Nat) (enough : depthOf parts ≤ fuel) (keeps : m.Keeps o bindings) :
    ∃ m', m'.Keeps o bindings ∧
      evalBody (outermost blocks) fuel (bodyWith front.toList parts) out m =
        .ok (out ++ filledWith front text parts) m' := by
  induction parts generalizing front out fuel m with
  | nil =>
      have deep : 2 ≤ fuel := enough
      obtain ⟨n, more, same⟩ :=
        evalBody_textStatement (s := outermost blocks) front.toList [] out m deep
      obtain ⟨n, rfl⟩ : ∃ k, n = k + 1 := ⟨n - 1, by omega⟩
      have alone : filledWith front text [] = front := by simp [filledWith]
      rw [List.append_nil, evalBody, String.ofList_toList] at same
      exact ⟨m, keeps, alone.symm ▸ same⟩
  | cons p rest ih =>
      obtain ⟨first, later⟩ := List.forall_mem_cons.mp shows
      have split : depthOf (p :: rest) = p.keys.length + 6 + depthOf rest := rfl
      have deep : 2 ≤ fuel := by omega
      obtain ⟨n, more, same⟩ := evalBody_textStatement (s := outermost blocks) front.toList
        (.print [.chain p.root p.keys] :: bodyWith p.behind.toList rest) out m deep
      obtain ⟨n, rfl⟩ : ∃ k, n = k + 1 := ⟨n - 1, by omega⟩
      obtain ⟨m', keeps, gives⟩ := first m keeps
      obtain ⟨m'', keeps, filled⟩ := ih later p.behind (out ++ front ++ text p) n (by omega) keeps
      have shown (judge : Judge) (k : Nat) := printed_str (text p) judge k m'
      refine ⟨m'', keeps, ?_⟩
      rw [bodyWith, same, String.ofList_toList, evalBody_print gives shown (by omega), filled]
      simp only [filledWith, List.map_cons, String.join_cons, String.append_assoc]

end Statements

/-! ## Renderings -/

section Renderings

variable {o : Objects} {values : List (String × Value)}

/-- Variables get marks, and are found under their names and no others. -/
theorem ownVariables_spec (values : List (String × Value)) (q : Objects) (later : o.next ≤ q.next)
    (same : q.changes = o.changes) :
    ∃ owned p, ownVariables values q = .ok owned p ∧ p.changes = o.changes ∧ o.next ≤ p.next ∧
      (∀ name v, values.lookup name = some v -> ∃ w, owned.lookup name = some w ∧ o.Marked v w) ∧
      ∀ name, values.lookup name = none -> owned.lookup name = none := by
  induction values generalizing q with
  | nil => exact ⟨[], q, rfl, same, later, by simp, by simp⟩
  | cons e rest ih =>
      obtain ⟨name, v⟩ := e
      have beyond : o.next ≤ (q.adopt v).2.next :=
        Nat.le_trans later (Objects.le_markFrom false v q.next)
      obtain ⟨owned, p, owns, changes, next, bound, unbound⟩ := ih (q.adopt v).2 beyond same
      refine ⟨(name, (q.adopt v).1) :: owned, p, ?_, changes, next, fun other u found => ?_,
        fun other none => ?_⟩
      · simp only [ownVariables, bind, EStateM.bind, Action.own, owns, pure, EStateM.pure]
      · by_cases hit : other = name
        · subst hit
          rw [List.lookup_cons_self] at found ⊢
          cases found
          exact ⟨_, rfl, .given v later⟩
        · rw [List.lookup_cons, beq_eq_false_iff_ne.mpr hit] at found ⊢
          exact bound other u found
      · rw [List.lookup_cons] at none ⊢
        split at none
        · cases none
        · exact unbound other none

/-- What a rendering starts with: the variables with marks, under their names. -/
structure Starts (o : Objects) (values bindings : List (String × Value)) (m : Memory) : Prop where
  keeps : m.Keeps o bindings
  bound : ∀ name v, name ≠ "self" -> values.lookup name = some v ->
    ∃ w, bindings.lookup name = some w ∧ o.Marked v w

/-- A rendering runs the statements of its source from such a start, where no more is bound. -/
theorem render_of_compile {source : String} {body : List Statement}
    (compiled : compile source = .ok body) (values : List (String × Value)) (o : Objects) :
    ∃ bindings m, Starts o values bindings m ∧
      (∀ name, name ≠ "self" -> values.lookup name = none -> bindings.lookup name = none) ∧
      render source values o =
      match evalBody (outermost (blocksOf (source.length + 8) body)) (renderFuel source) body "" m with
      | .ok out m => .ok out m.objects
      | .error f m => .error (renderError f) m.objects := by
  obtain ⟨owned, p, owns, changes, next, bound, unbound⟩ :=
    ownVariables_spec values o (Nat.le_refl o.next) rfl
  refine ⟨seenVariables owned, ⟨#[seenVariables owned, []], #[], p⟩, ⟨⟨rfl, changes, next⟩, ?_⟩,
    fun name other none => ?_, ?_⟩
  · intro name v other found
    obtain ⟨w, here, marked⟩ := bound name v found
    exact ⟨w, by rw [lookup_seenVariables, if_neg other, here], marked⟩
  · rw [lookup_seenVariables, if_neg other, unbound name none]
  · simp only [render, compiled, renderBody, bind, EStateM.bind, owns, outermost]
    cases evalBody _ _ body "" _ <;> rfl

/-- A source is long enough for the calls that its insertions ask for. -/
theorem depthOf_le_renderFuel {front : String} {parts : List Insertion}
    (proper : ∀ p ∈ parts, p.Plain) : depthOf parts ≤ renderFuel (textWith front parts) := by
  suffices long : depthOf parts ≤ (textWith front parts).length + 2 by
    simp only [renderFuel]
    omega
  rw [← String.length_toList, toList_textWith]
  generalize front.toList = cs
  induction parts generalizing cs with
  | nil => exact Nat.le_add_left 2 _
  | cons p rest ih =>
      obtain ⟨first, later⟩ := List.forall_mem_cons.mp proper
      have behind := ih later p.behind.toList
      have names := length_tailChars first.words
      simp only [depthOf, charsWith, chainChars, List.length_append, List.length_cons,
        List.length_nil]
      omega

/-- A text with insertions is rendered with each of them filled in. -/
theorem render_textWith {front : String} {parts : List Insertion} {text : Insertion -> String}
    (plain : IsPlainText front) (proper : ∀ p ∈ parts, p.Plain)
    (free : ∀ p ∈ parts, p.root ∉ reservedWords)
    (shows : ∀ bindings m blocks, Starts o values bindings m -> ∀ p ∈ parts,
      p.Shows o bindings blocks (text p)) :
    ∃ o', render (textWith front parts) values o = .ok (filledWith front text parts) o' ∧
      o'.changes = o.changes := by
  obtain ⟨bindings, m, start, -, same⟩ :=
    render_of_compile (compile_textWith plain proper free) values o
  obtain ⟨m', keeps, filled⟩ := evalBody_bodyWith (shows bindings m _ start) front "" _
    (depthOf_le_renderFuel proper) start.keeps
  rw [String.empty_append] at filled
  exact ⟨m'.objects, by rw [same, filled], keeps.changes⟩

end Renderings

section Inputs

variable {o : Objects} {values : List (String × Value)} {inputs : Value}

/-- An input that is a text, and whose key is no attribute of a mapping, is printed as it is. -/
theorem shows_input (unused : o.Unused) (given : values.lookup "inputs" = some inputs)
    {key text behind : String} (present : get? (o.look inputs) key = some (.str text))
    (unlike : attributeOf? (o.look inputs) key = none) {bindings : List (String × Value)}
    {m : Memory} (start : Starts o values bindings m) (blocks : List Block) :
    Insertion.Shows o bindings blocks ⟨"inputs", [key], behind⟩ text := by
  intro m keeps
  obtain ⟨w, bound, marked⟩ := start.bound "inputs" inputs (by decide) given
  obtain ⟨u, n, same, keeps', gives⟩ :=
    gives_of_present unused keeps marked (gives_name blocks keeps bound) present unlike
  have text : u = .str text := by cases same <;> rfl
  exact ⟨n, keeps', text ▸ gives⟩

/--
A template of texts with inputs printed between them gives the texts with the inputs between them.
No character of an input is changed or read as part of the template.
-/
theorem render_inputs (unused : o.Unused) (given : values.lookup "inputs" = some inputs)
    {front : String} {parts : List (String × String)} (plain : IsPlainText front)
    (proper : ∀ p ∈ parts, IsName p.1 ∧ IsPlainText p.2) (held : String -> String)
    (present : ∀ p ∈ parts, get? (o.look inputs) p.1 = some (.str (held p.1)))
    (unlike : ∀ p ∈ parts, attributeOf? (o.look inputs) p.1 = none) :
    ∃ o', render (textWith front (parts.map fun p => ⟨"inputs", [p.1], p.2⟩)) values o =
        .ok (front ++ String.join (parts.map fun p => held p.1 ++ p.2)) o' ∧
      o'.changes = o.changes := by
  let text (p : Insertion) : String := held (p.keys.headD "")
  have shape : ∀ p ∈ parts.map fun p => (⟨"inputs", [p.1], p.2⟩ : Insertion),
      p.Plain ∧ p.root ∉ reservedWords := by
    have root : IsName "inputs" ∧ "inputs" ∉ reservedWords := by decide +kernel
    exact List.forall_mem_map.mpr fun p mem => ⟨⟨root.1,
      List.forall_mem_singleton.mpr (proper p mem).1, (proper p mem).2⟩, root.2⟩
  have shows : ∀ bindings m blocks, Starts o values bindings m ->
      ∀ p ∈ parts.map fun p => (⟨"inputs", [p.1], p.2⟩ : Insertion),
        p.Shows o bindings blocks (text p) := fun bindings m blocks start =>
    List.forall_mem_map.mpr fun p mem =>
      shows_input unused given (present p mem) (unlike p mem) start blocks
  obtain ⟨o', rendered, changes⟩ := render_textWith plain (fun p mem => (shape p mem).1)
    (fun p mem => (shape p mem).2) shows
  rw [filledWith, List.map_map] at rendered
  exact ⟨o', rendered, changes⟩

/-- Inputs with the marks of a template in them. -/
def sly : Value :=
  .record [("name", .str "\x7b\x7b inputs.note \x7d\x7d"), ("note", .str "\x7b% raw %\x7d\r\n")]

theorem render_inputs_sly :
    ∃ o, render "Dear \x7b\x7b inputs.name \x7d\x7d,\n\x7b\x7b inputs.note \x7d\x7d\n"
        [("inputs", sly)] .empty =
      .ok "Dear \x7b\x7b inputs.note \x7d\x7d,\n\x7b% raw %\x7d\r\n\n" o := by
  have unused : Objects.empty.Unused := fun _ _ => rfl
  let held (k : String) : String :=
    if k = "name" then "\x7b\x7b inputs.note \x7d\x7d" else "\x7b% raw %\x7d\r\n"
  let parts := [("name", ",\n"), ("note", "\n")]
  have plain : IsPlainText "Dear " := by decide +kernel
  have proper : ∀ p ∈ parts, IsName p.1 ∧ IsPlainText p.2 := by decide +kernel
  have given : [("inputs", sly)].lookup "inputs" = some sly := rfl
  have present : ∀ p ∈ parts, get? (Objects.empty.look sly) p.1 = some (.str (held p.1)) :=
    List.forall_mem_cons.mpr ⟨rfl, List.forall_mem_singleton.mpr rfl⟩
  have unlike : ∀ p ∈ parts, attributeOf? (Objects.empty.look sly) p.1 = none :=
    List.forall_mem_cons.mpr ⟨rfl, List.forall_mem_singleton.mpr rfl⟩
  obtain ⟨o, rendered, -⟩ := render_inputs unused given plain proper held present unlike
  exact ⟨o, rendered⟩

end Inputs

end Template

end Workflow
