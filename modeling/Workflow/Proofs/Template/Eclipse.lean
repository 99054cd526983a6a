import Workflow.Proofs.Reference.Chain
import Workflow.Proofs.Template.Filling

/-!
# Keys behind methods

A template asks a mapping for an attribute before it asks it for a key, where paths and
expressions ask for the key.  A chain of keys is thus read alike by all of them up to the first
key that is the name of a method: a template that prints the chain prints the method there, and
fails where the chain goes on.
-/

namespace Workflow

open Value (get? field?)
open Reference (Leads tokenText)

namespace Objects

/-- The keys of a chain from the first one on that names a method of the mapping it is asked of. -/
def eclipsed (o : Objects) (v : Value) : List String -> List String
  | [] => []
  | key :: rest =>
      if key ∈ (o.look v).methodNames then key :: rest
      else
        match get? (o.look v) key with
        | some part => eclipsed o part rest
        | none => []

/-- So many keys lead alike from a value, whether it is looked into whole or part by part. -/
def Legible (o : Objects) (n : Nat) (v : Value) : Prop :=
  o.changes = [] ∨ o.Whole v ∨ o.Sound v ∧ n ≤ maxDepth / 2

variable {o : Objects} {n : Nat} {v : Value}

theorem eclipsed_of_present {key : String} {part : Value}
    (present : get? (o.look v) key = some part)
    (rest : List String) : o.eclipsed v (key :: rest) =
      if key ∈ (o.look v).methodNames then key :: rest else o.eclipsed part rest := by
  simp only [eclipsed, present]

theorem mem_of_eclipsed {keys : List String} {key : String} (h : key ∈ o.eclipsed v keys) :
    key ∈ keys := by
  induction keys generalizing v with
  | nil => cases h
  | cons first rest ih =>
      rw [eclipsed] at h
      split at h
      · exact h
      · split at h
        · exact List.mem_cons_of_mem first (ih h)
        · cases h

theorem views_self (deep : 2 * n ≤ maxDepth) (v : Value) : o.Views n (o.refresh v) v := by
  unfold refresh
  split
  · next none => exact .still (List.isEmpty_iff.mp none) v
  · exact .shown deep rfl

theorem Views.eq_of_text {s : String} {p : Value} (views : o.Views n (.str s) p) : p = .str s := by
  cases views with
  | shown _ same => exact (refreshWithin_text o _ _ p s).mp same
  | still => rfl

/-- What shows a legible value keeps to it key by key, and so does the value itself. -/
theorem Legible.exists_follows (h : o.Legible n v) :
    ∃ V, Expr.Follows o V ∧ V n (o.refresh v) v ∧ V n (o.refresh v) (o.refresh v) ∧
      ∀ k s p, V k (.str s) p -> p = .str s := by
  rcases h with unchanged | whole | ⟨sound, short⟩
  · have still := refresh_of_unchanged unchanged v
    exact ⟨fun _ v p => p = v, Expr.follows_of_unchanged unchanged, still.symm, rfl,
      fun k s p same => same⟩
  · refine ⟨_, Expr.follows_whole, ⟨whole, ?_⟩, whole.refresh_showsItself, fun k s p seen => ?_⟩
    · exact (whole.refresh (by simp [maxDepth])).symm
    · exact (refreshWithin_text o _ _ p s).mp seen.2
  · have deep : 2 * n ≤ maxDepth := by omega
    exact ⟨_, Expr.follows_views, ⟨sound, views_self deep v⟩,
      ⟨sound.refresh, views_refresh deep v⟩, fun k s p seen => seen.2.eq_of_text⟩

end Objects

namespace Template

/-! ## Keys and methods -/

section Methods

variable {v : Value} {key : String}

/-- The hidden attributes of the values along a chain: mappings, methods, and what does not exist. -/
def hiddenAlong : List (List String) :=
  [hiddenNames (.dict []), hiddenNames (.sealed []), hiddenNames (.method .null ""), []]

/-- The hidden attributes of mappings. -/
def hiddenOfMappings : List (List String) :=
  [hiddenNames (.dict []), hiddenNames (.sealed []), []]

theorem hiddenNames_of_mapping (mapping : v.entries?.isSome) :
    hiddenNames v ∈ hiddenOfMappings := by
  have dict : hiddenNames (.dict []) ∈ hiddenOfMappings := by decide
  have «sealed» : hiddenNames (.sealed []) ∈ hiddenOfMappings := by decide
  have none : [] ∈ hiddenOfMappings := by decide
  obtain ⟨entries, held⟩ := Option.isSome_iff_exists.mp mapping
  unfold hiddenNames
  rcases Value.bare_of_entries held with bare | bare | ⟨mark, content, bare⟩
  · rw [bare]
    exact dict
  · rw [bare]
    exact «sealed»
  · rw [bare]
    exact none

theorem hiddenNames_along (mapping : v.entries?.isSome) : hiddenNames v ∈ hiddenAlong := by
  have within : ∀ names ∈ hiddenOfMappings, names ∈ hiddenAlong := by decide
  exact within _ (hiddenNames_of_mapping mapping)

/-- A key without an underscore in front is no hidden attribute of what a chain comes by. -/
theorem hasHidden_of_visible (along : hiddenNames v ∈ hiddenAlong)
    (visible : Expr.beginsWith "_" key = false) : hasHidden v key = false := by
  have begun : ∀ names ∈ hiddenAlong, ∀ name ∈ commonHidden ++ names,
      Expr.beginsWith "_" name = true := by decide
  have unlisted : key ∉ commonHidden ++ hiddenNames v := fun mem => by
    rw [begun _ along key mem] at visible
    cases visible
  simpa [hasHidden] using unlisted

theorem attributeOf?_of_unlisted (mapping : v.entries?.isSome)
    (visible : Expr.beginsWith "_" key = false) (unlisted : key ∉ v.methodNames) :
    attributeOf? v key = none :=
  (attributeOf?_eq_none_iff mapping).mpr
    ⟨hasHidden_of_visible (hiddenNames_along mapping) visible, unlisted⟩

theorem partByName_of_method (mapping : v.entries?.isSome)
    (visible : Expr.beginsWith "_" key = false) (listed : key ∈ v.methodNames) :
    partByName v key = .ok (.method v key) := by
  have found : attributeOf? v key = some (.method v key) := by
    simp [attributeOf?_of_mapping mapping,
      hasHidden_of_visible (hiddenNames_along mapping) visible, listed]
  rw [partByName_of_mapping mapping, found]

end Methods

/-! ## Chains -/

section Chains

variable {o : Objects} {bindings : List (String × Value)} {s : Surroundings} {e : Term}
  {depth : Nat} {m m' : Memory} {V : Nat -> Value -> Value -> Prop} (follows : Expr.Follows o V)
  (unused : o.Unused) {v y : Value} {keys : List String} (leads : Leads v keys y)
  (visible : ∀ k ∈ keys, Expr.beginsWith "_" k = false)
include follows unused leads visible

/-- Keys that are no methods lead a term to what they lead paths to. -/
theorem gives_of_clear {p w : Value} {n : Nat} (seen : V (n + keys.length) v p)
    (clear : o.eclipsed p keys = []) (marked : o.Marked p w) (keeps : m'.Keeps o bindings)
    (h : Term.Gives s e depth m m' w) :
    ∃ q u t, V n y q ∧ o.Marked q u ∧ t.Keeps o bindings ∧
      Term.Gives s (keys.foldl .field e) (depth + keys.length) m t u := by
  induction leads generalizing e depth m' p w with
  | here v => exact ⟨p, w, m', seen, marked, keeps, h⟩
  | @there v part y entries key keys mapping present _ ih =>
      obtain ⟨first, visible⟩ := List.forall_mem_cons.mp visible
      obtain ⟨q, found, seen⟩ := follows _ _ _ _ _ _ seen mapping present
      rw [Objects.eclipsed_of_present found] at clear
      split at clear
      · cases clear
      · next unlisted =>
          have unlike := attributeOf?_of_unlisted (isSome_of_get? found) first unlisted
          obtain ⟨u, t, marked, keeps, gives⟩ :=
            gives_of_present unused keeps marked h found unlike
          have deep : depth + (keys.length + 1) = depth + 1 + keys.length := by omega
          rw [List.length_cons, deep]
          exact ih visible seen clear marked keeps gives

/-- The first key that is a method leads a term to the method. -/
theorem gives_of_eclipsed {p w : Value} {n : Nat} (seen : V (n + keys.length) v p) {key : String}
    {rest : List String} (hidden : o.eclipsed p keys = key :: rest) (marked : o.Marked p w)
    (keeps : m'.Keeps o bindings) (h : Term.Gives s e depth m m' w) :
    ∃ front owner t, keys = front ++ key :: rest ∧ t.Keeps o bindings ∧
      Term.Gives s ((front ++ [key]).foldl .field e) (depth + front.length + 1) m t
        (.method owner key) := by
  induction leads generalizing e depth m' p w with
  | here v => cases hidden
  | @there v part y entries first keys mapping present _ ih =>
      obtain ⟨shown, visible⟩ := List.forall_mem_cons.mp visible
      obtain ⟨q, found, seen⟩ := follows _ _ _ _ _ _ seen mapping present
      rw [Objects.eclipsed_of_present found] at hidden
      have owner := isSome_of_get? found
      split at hidden
      · next listed =>
          cases hidden
          have like := marked.look unused
          have mapping : (o.look w).entries?.isSome := by rw [like.mapping, owner]
          have method := partByName_of_method mapping shown (by rw [like.methods]; exact listed)
          rw [← keeps.look] at mapping method
          exact ⟨[], m'.objects.look w, m'.adopt (.method (m'.objects.look w) key), rfl,
            keeps.adopt _, gives_field h (plain_of_mapping mapping) method⟩
      · next unlisted =>
          have unlike := attributeOf?_of_unlisted owner shown unlisted
          obtain ⟨u, t, marked, keeps, gives⟩ :=
            gives_of_present unused keeps marked h found unlike
          obtain ⟨front, owner, t, split, keeps, gives⟩ :=
            ih visible seen hidden marked keeps gives
          refine ⟨first :: front, owner, t, by rw [split]; rfl, keeps, ?_⟩
          have deep : depth + (front.length + 1) + 1 = depth + 1 + front.length + 1 := by omega
          rw [List.length_cons, deep]
          exact gives

end Chains

/-! ## What comes after a method -/

/-- The text of a method that is not called, without what differs from run to run: its address. -/
def methodText (name : String) : String :=
  (Value.method .null name).text

/-- What a template says of a part that a method does not have. -/
def methodHint (name : String) : String :=
  s!"'builtin_function_or_method object' has no attribute '{name}'"

theorem methodHint_eq (name : String) : methodHint name =
    "'" ++ "builtin_function_or_method object" ++ "'" ++ " has no attribute " ++
      ("'" ++ name ++ "'") := by
  have front : "'" ++ "builtin_function_or_method object" ++ "'" ++ " has no attribute " ++ "'" =
      "'builtin_function_or_method object' has no attribute '" := by decide
  rw [← String.append_assoc, ← String.append_assoc, front]
  rfl

/-- A text of names and blanks is quoted as it is. -/
theorem quoted_plain {s : String}
    (plain : s.toList.all
      (fun c => c.toNat < 128 && (Text.isIdentifierPart c || c == ' ')) = true) :
    Text.quoted s = "'" ++ s ++ "'" := by
  simp only [List.all_eq_true, Bool.and_eq_true, decide_eq_true_eq] at plain
  have chars : ∀ c ∈ s.toList, Text.quotedChar '\'' c = [c] ∧ c ≠ '\'' := fun c mem => by
    have all := of_ascii (p := fun c => !(Text.isIdentifierPart c || c == ' ') ||
      (Text.quotedChar '\'' c == [c] && c != '\'')) (by decide +kernel) (plain c mem).1
    simpa [(plain c mem).2] using all
  have unquoted : '\'' ∉ s.toList := fun mem => (chars _ mem).2 rfl
  have delimiter : Text.quoteFor s.toList = '\'' := by simp [Text.quoteFor, unquoted]
  have body : s.toList.flatMap (Text.quotedChar '\'') = s.toList := by
    rw [List.flatMap_congr fun c mem => (chars c mem).1]
    simp
  apply String.toList_inj.mp
  simp [Text.quoted, delimiter, body]

theorem quoted_name {name : String} (h : IsName name) :
    Text.quoted name = "'" ++ name ++ "'" := by
  refine quoted_plain (List.all_eq_true.mpr fun c mem => ?_)
  rw [h.part mem, Bool.true_or, Bool.and_true, decide_eq_true_eq]
  exact h.ascii c mem

/-- A name that is quoted behind another quoted text is the last of the quoted parts. -/
theorem lastQuoted_behind {owner name : String} (plain : '\'' ∉ owner.toList) (h : IsName name) :
    lastQuoted ("'" ++ owner ++ "'" ++ " has no attribute " ++ ("'" ++ name ++ "'")) = name := by
  have joined : (String.singleton '\'').intercalate ["", owner, " has no attribute ", name, ""] =
      "'" ++ owner ++ "'" ++ " has no attribute " ++ ("'" ++ name ++ "'") := by
    have mark : String.singleton '\'' = "'" := rfl
    simp only [String.intercalate_cons_cons, String.intercalate_singleton, mark,
      String.empty_append, String.append_empty, String.append_assoc]
  have parts := Text.splitAll_joined joined (by
    simp only [List.forall_mem_cons]
    exact ⟨by decide, plain, by decide, h.unquoted, by decide, by simp⟩)
  rw [lastQuoted, parts]
  simp [List.zipIdx]

theorem lastQuoted_methodHint {name : String} (h : IsName name) :
    lastQuoted (methodHint name) = name := by
  rw [methodHint_eq]
  exact lastQuoted_behind (by decide +kernel) h

section Parts

variable {owner : Value} {name key hint : String} (visible : Expr.beginsWith "_" key = false)

theorem noPart_method (proper : IsName key) :
    noPart (.method owner name) key = .undefined (methodHint key) .strict := by
  have called : describe (.method owner name) = "builtin_function_or_method object" := by
    simp only [describe, Value.bare, Value.kind]
    decide
  have owner : Text.quoted "builtin_function_or_method object" =
      "'" ++ "builtin_function_or_method object" ++ "'" :=
    quoted_plain (by decide +kernel)
  simp only [noPart, called, owner, quoted_name proper, methodHint_eq]
  rfl

include visible

theorem partByName_method (proper : IsName key) :
    partByName (.method owner name) key = .ok (.undefined (methodHint key) .strict) := by
  have unhidden : hasHidden (.method owner name) key = false :=
    hasHidden_of_visible (by decide : hiddenNames (.method .null "") ∈ hiddenAlong) visible
  have none : attributeOf? (.method owner name) key = none := by
    have restricted : attributeOf? (.method owner name) key =
      if hasHidden (.method owner name) key then some (restrictedPart (.method owner name) key)
      else none := rfl
    rw [restricted, unhidden]
    rfl
  have item : itemOf? (.method owner name) (.str key) = .ok Option.none := rfl
  simp only [partByName, none, item, bind, Except.bind, noPart_method proper]

theorem partByName_undefined :
    partByName (.undefined hint .strict) key = .error (.other "UndefinedError" hint) := by
  have unhidden : hasHidden (.undefined hint .strict) key = false :=
    hasHidden_of_visible (by decide : [] ∈ hiddenAlong) visible
  simp only [partByName, unhidden]
  rfl

end Parts

section Printed

variable {owner : Value} {name hint : String} (judge : Judge) (fuel : Nat) (m : Memory)

theorem printed_method :
    printed judge false fuel (.method owner name) m = .ok (methodText name) m := by
  have still : ∃ r, m.objects.refresh (.method owner name) = .method r name := by
    unfold Objects.refresh
    split <;> exact ⟨_, rfl⟩
  obtain ⟨r, still⟩ := still
  rw [@printed_of_plain (.method owner name) (by simp) (by simp), still]
  rfl

theorem printed_undefined :
    printed judge false fuel (.undefined hint .strict) m =
      .error (.other "UndefinedError" hint) m := by
  have still : m.objects.refresh (.undefined hint .strict) = .undefined hint .strict := by
    unfold Objects.refresh
    split <;> rfl
  rw [@printed_of_plain (.undefined hint .strict) (by simp) (by simp), still]
  rfl

end Printed

/-- With calls that go deep enough, a term fails. -/
def Term.Fails (s : Surroundings) (e : Term) (depth : Nat) (m m' : Memory) (f : Fault) : Prop :=
  ∀ fuel, depth ≤ fuel -> evalTerm s fuel e m = .error f m'

section Failing

variable {s : Surroundings} {e : Term} {depth fuel : Nat} {m m' : Memory} {w : Value}
  {hint key out : String} {keys : List String} {f : Fault}

theorem fails_of_part (h : Term.Gives s e depth m m' w) (plain : ∀ kind place, w ≠ .slot kind place)
    (failed : partByName (m'.objects.look w) key = .error f) :
    Term.Fails s (.field e key) (depth + 1) m m' f := by
  rintro (_ | fuel) enough
  · omega
  rw [evalTerm_field, h fuel (by omega)]
  simp only [partOf_of_plain plain, failed]

theorem fails_fields (keys : List String) (h : Term.Fails s e depth m m' f) :
    Term.Fails s (keys.foldl .field e) (depth + keys.length) m m' f := by
  induction keys generalizing e depth with
  | nil => exact h
  | cons key rest ih =>
      have next : Term.Fails s (.field e key) (depth + 1) m m' f := by
        rintro (_ | fuel) enough
        · omega
        rw [evalTerm_field, h fuel (by omega)]
      have deep : depth + (rest.length + 1) = depth + 1 + rest.length := by omega
      rw [List.length_cons, deep]
      exact ih next

theorem evalBody_alone {text : String} (h : Term.Gives s e depth m m' w)
    (shown : ∀ judge n, printed judge s.escaping n w m' = .ok text m') (enough : depth + 4 ≤ fuel) :
    evalBody s fuel [.print [e]] out m = .ok (out ++ text) m' := by
  obtain ⟨fuel, rfl⟩ : ∃ n, fuel = n + 2 := ⟨fuel - 2, by omega⟩
  rw [evalBody_print h shown (by omega), evalBody]
  rfl

/-- What does not exist may neither be printed nor have parts. -/
theorem evalBody_of_undefined (h : Term.Gives s e depth m m' (.undefined hint .strict))
    (visible : ∀ k ∈ keys, Expr.beginsWith "_" k = false) (plain : s.escaping = false)
    (enough : depth + keys.length + 3 ≤ fuel) :
    evalBody s fuel [.print [keys.foldl .field e]] out m =
      .error (.other "UndefinedError" hint) m' := by
  obtain ⟨fuel, rfl⟩ : ∃ n, fuel = n + 3 := ⟨fuel - 3, by omega⟩
  rw [evalBody, evalStatement, evalPrinted]
  cases keys with
  | nil =>
      have deep : depth ≤ fuel := by simpa using enough
      simp only [bind, EStateM.bind, List.foldl_nil, h fuel deep, plain, printed_undefined]
  | cons key rest =>
      obtain ⟨first, _⟩ := List.forall_mem_cons.mp visible
      have fails := fails_fields rest (fails_of_part h (by simp) (partByName_undefined first))
      rw [List.length_cons] at enough
      simp only [bind, EStateM.bind, List.foldl_cons, fails fuel (by omega)]

end Failing

/-! ## Rendering a chain -/

/-- Values under names as tokens and expressions see them by now. -/
def shownScope (o : Objects) (values : List (String × Value)) : List (Value × Value) :=
  values.map fun (name, v) => (.str name, o.refresh v)

theorem field?_shownScope (o : Objects) (values : List (String × Value)) (name : String) :
    field? (shownScope o values) name = (values.lookup name).map o.refresh := by
  induction values with
  | nil => rfl
  | cons e rest ih =>
      obtain ⟨other, v⟩ := e
      rcases field?_cons (.str other) (o.refresh v) (shownScope o rest) name with
        ⟨same, found⟩ | ⟨unlike, found⟩
      · cases same
        rw [List.lookup_cons_self]
        exact found
      · have different : (name == other) = false :=
          beq_eq_false_iff_ne.mpr fun same => unlike (by rw [same])
        rw [List.lookup_cons, different]
        exact found.trans ih

theorem renderError_undefined (hint : String) : renderError (.other "UndefinedError" hint) =
    Error.template s!"Undefined variable in template: {hint}" none (some (lastQuoted hint)) := by
  have name : (Fault.other "UndefinedError" hint).name = "UndefinedError" := rfl
  have message : (Fault.other "UndefinedError" hint).message = hint := rfl
  unfold renderError
  rw [message]
  split
  · next same => exact absurd (name.symm.trans same) (by decide)
  · rfl
  · next other => exact absurd name other

/-- A chain by itself is compiled to its printing, and there is fuel for all of its keys. -/
theorem compile_token {root : String} {keys : List String} (first : IsName root)
    (words : ∀ k ∈ keys, IsName k) (free : root ∉ reservedWords) :
    compile (tokenText (chainText root keys)) = .ok [.print [.chain root keys]] ∧
      keys.length + 8 ≤ renderFuel (tokenText (chainText root keys)) := by
  have plain : IsPlainText "" := by decide
  have proper : ∀ p ∈ [Insertion.mk root keys ""], p.Plain :=
    List.forall_mem_singleton.mpr ⟨first, words, plain⟩
  have source : textWith "" [⟨root, keys, ""⟩] = tokenText (chainText root keys) := by
    simp [textWith]
  have compiled := compile_textWith plain proper (List.forall_mem_singleton.mpr free)
  have deep := @depthOf_le_renderFuel "" _ proper
  rw [source] at compiled deep
  exact ⟨compiled, by simpa [depthOf] using deep⟩

section Rendered

variable {o : Objects} (unused : o.Unused) {root text : String} {start : Value}
  {keys : List String} (leads : Leads (o.refresh start) keys (.str text))
  (legible : o.Legible keys.length start) (words : ∀ k ∈ keys, IsName k)
  (visible : ∀ k ∈ keys, Expr.beginsWith "_" k = false)
include unused leads legible words visible

/-- A printed chain writes the text it leads to, or the first method on the way, or fails there. -/
theorem evalBody_chain {bindings : List (String × Value)} {m : Memory} {w : Value}
    (keeps : m.Keeps o bindings) (bound : bindings.lookup root = some w)
    (marked : o.Marked start w) (blocks : List Block) {fuel : Nat}
    (enough : keys.length + 8 ≤ fuel) :
    ∃ t, t.Keeps o bindings ∧
      evalBody (outermost blocks) fuel [.print [.chain root keys]] "" m =
        match o.eclipsed start keys with
        | [] => .ok text t
        | [key] => .ok (methodText key) t
        | _ :: next :: _ => .error (.other "UndefinedError" (methodHint next)) t := by
  have name := gives_name blocks keeps bound
  obtain ⟨V, follows, seen, -, ends⟩ := legible.exists_follows
  have seen : V (0 + keys.length) (o.refresh start) start := by rwa [Nat.zero_add]
  cases hidden : o.eclipsed start keys with
  | nil =>
      obtain ⟨q, u, t, kept, same, keeps, gives⟩ :=
        gives_of_clear follows unused leads visible seen hidden marked keeps name
      rw [ends _ _ _ kept] at same
      have value : u = .str text := by cases same <;> rfl
      have shown (judge : Judge) (n : Nat) := printed_str text judge n t
      exact ⟨t, keeps, evalBody_alone (value ▸ gives) shown (by omega)⟩
  | cons key rest =>
      obtain ⟨front, owner, t, split, keeps, gives⟩ :=
        gives_of_eclipsed follows unused leads visible seen hidden marked keeps name
      have proper : ∀ k ∈ key :: rest, IsName k ∧ Expr.beginsWith "_" k = false := fun k mem =>
        have within : k ∈ keys := split ▸ List.mem_append_right front mem
        ⟨words k within, visible k within⟩
      have long : keys.length = front.length + 1 + rest.length := by
        rw [split, List.length_append, List.length_cons]
        omega
      have chain : Term.chain root keys =
          rest.foldl .field ((front ++ [key]).foldl .field (.name root)) := by
        rw [Term.chain, split, ← List.foldl_append, List.append_assoc, List.singleton_append]
      rw [chain]
      cases rest with
      | nil =>
          exact ⟨t, keeps, evalBody_alone gives (fun judge n => printed_method judge n t)
            (by simp at long; omega)⟩
      | cons next more =>
          obtain ⟨-, after⟩ := List.forall_mem_cons.mp proper
          obtain ⟨⟨proper, shown⟩, later⟩ := List.forall_mem_cons.mp after
          have absent := gives_field gives (by simp) (partByName_method shown proper)
          rw [List.length_cons] at long
          rw [List.foldl_cons]
          exact ⟨_, keeps.adopt _,
            evalBody_of_undefined absent (fun k mem => (later k mem).2) rfl (by omega)⟩

variable {values : List (String × Value)} (found : values.lookup root = some start)
  (first : IsName root) (free : root ∉ "self" :: reservedWords)
include found first free

/-- A template that prints a chain prints the text it leads to, or the first method on the way. -/
theorem render_token :
    ∃ o', o'.changes = o.changes ∧ render (tokenText (chainText root keys)) values o =
      match o.eclipsed start keys with
      | [] => .ok text o'
      | [key] => .ok (methodText key) o'
      | _ :: next :: _ => .error (Error.template
          s!"Undefined variable in template: {methodHint next}" none (some next)) o' := by
  obtain ⟨other, free⟩ := not_or.mp (List.mem_cons.not.mp free)
  obtain ⟨compiled, enough⟩ := compile_token first words free
  obtain ⟨bindings, m, begun, -, rendered⟩ := render_of_compile compiled values o
  obtain ⟨w, bound, marked⟩ := begun.bound root start other found
  obtain ⟨t, keeps, written⟩ := evalBody_chain unused leads legible words visible begun.keeps bound
    marked _ enough
  refine ⟨t.objects, keeps.changes, ?_⟩
  rw [rendered, written]
  rcases hidden : o.eclipsed start keys with _ | ⟨key, _ | ⟨next, more⟩⟩
  · rfl
  · rfl
  · have mem : next ∈ o.eclipsed start keys := by simp [hidden]
    have about := lastQuoted_methodHint (words next (Objects.mem_of_eclipsed mem))
    have error := renderError_undefined (methodHint next)
    rw [about] at error
    exact congrArg (EStateM.Result.error · t.objects) error

/--
The keys of a chain lead to a text.  The token of the chain resolves to the text, and the chain
evaluates to it.  A template that prints the chain gives the text as well, if none of the keys is
the name of a method of the mapping that it is asked of.  Where one is, the template prints the
method in place of its key, or fails when the chain goes on.
-/
theorem reads_chain (f : Fresh) :
    let chain := chainText root keys
    let scope := shownScope o values
    (chain ∉ ["now", "uuid"] ->
      Reference.resolve (.dict scope) (.str (tokenText chain)) f = .ok (.str text) f) ∧
    (IsWord root -> (∀ k ∈ keys, IsWord k) -> ∃ o', o'.changes = o.changes ∧
      Expression.evaluate chain scope o = .ok (.str text) o') ∧
    ∃ o', o'.changes = o.changes ∧ render (tokenText chain) values o =
      match o.eclipsed start keys with
      | [] => .ok text o'
      | [key] => .ok (methodText key) o'
      | _ :: next :: _ => .error (Error.template
          s!"Undefined variable in template: {methodHint next}" none (some next)) o' := by
  intro chain scope
  have bound : field? scope root = some (o.refresh start) := by
    rw [field?_shownScope, found]
    rfl
  refine ⟨fun unlike => Reference.resolve_of_leads first words bound leads unlike f,
    fun firstWord allWords => ?_,
    render_token unused leads legible words visible found first free⟩
  obtain ⟨V, follows, -, seen, ends⟩ := legible.exists_follows
  obtain ⟨p, w, kept, marked, value⟩ := Context.evaluate_of_leads unused firstWord allWords visible
    follows leads 0 (by rwa [Nat.zero_add]) bound
  rw [ends _ _ _ kept] at marked
  have same : w = .str text := by cases marked <;> rfl
  rw [same, Objects.refresh_text] at value
  exact ⟨(o.adopt (o.refresh start)).2, rfl, value⟩

end Rendered

/-- Inputs with a key that is the name of a method, and another one. -/
def stocked : Value :=
  .record [("items", .record [("x", .str "v")]), ("name", .str "n")]

theorem leads_stocked : Leads (Objects.empty.refresh stocked) ["items", "x"] (.str "v") ∧
    Leads (Objects.empty.refresh stocked) ["name"] (.str "n") := by
  rw [Objects.refresh_of_unchanged rfl]
  exact ⟨.there (.inl rfl) rfl (.there (.inl rfl) rfl (.here _)), .there (.inl rfl) rfl (.here _)⟩

theorem eclipsed_stocked : Objects.empty.eclipsed stocked ["items", "x"] = ["items", "x"] ∧
    Objects.empty.eclipsed stocked ["name"] = [] :=
  ⟨rfl, rfl⟩

theorem names_stocked : (IsName "inputs" ∧ "inputs" ∉ "self" :: reservedWords) ∧
    (∀ k ∈ ["items", "x"], IsName k) ∧ ∀ k ∈ ["items", "x"], Expr.beginsWith "_" k = false := by
  decide +kernel

/-- The keys lead to a text, which the template that prints them does not give. -/
theorem render_stocked_ne : Leads (Objects.empty.refresh stocked) ["items", "x"] (.str "v") ∧
    ∀ o', render "\x7b\x7b inputs.items.x \x7d\x7d" [("inputs", stocked)] .empty ≠ .ok "v" o' := by
  have unused : Objects.empty.Unused := fun _ _ => rfl
  have bound : [("inputs", stocked)].lookup "inputs" = some stocked := rfl
  obtain ⟨⟨first, free⟩, words, visible⟩ := names_stocked
  obtain ⟨o, -, rendered⟩ := render_token unused leads_stocked.1 (.inl rfl) words visible bound
    first free
  refine ⟨leads_stocked.1, fun o' same => ?_⟩
  rw [eclipsed_stocked.1] at rendered
  cases same.symm.trans rendered

theorem reads_chain_stocked :
    (Reference.resolve (.dict (shownScope .empty [("inputs", stocked)]))
        (.str "\x7b\x7b inputs.items.x \x7d\x7d") Condition.still.fresh =
          .ok (.str "v") Condition.still.fresh ∧
      ∃ o, render "\x7b\x7b inputs.items.x \x7d\x7d" [("inputs", stocked)] .empty =
        .error (Error.template ("Undefined variable in template: " ++
          "'builtin_function_or_method object' has no attribute 'x'") none (some "x")) o) ∧
    ∃ o, render "\x7b\x7b inputs.name \x7d\x7d" [("inputs", stocked)] .empty = .ok "n" o := by
  have unused : Objects.empty.Unused := fun _ _ => rfl
  have bound : [("inputs", stocked)].lookup "inputs" = some stocked := rfl
  obtain ⟨⟨first, free⟩, words, visible⟩ := names_stocked
  constructor
  · obtain ⟨resolved, -, o, -, rendered⟩ := reads_chain unused leads_stocked.1 (.inl rfl) words
      visible bound first free Condition.still.fresh
    have hint : methodHint "x" = "'builtin_function_or_method object' has no attribute 'x'" := by
      decide
    rw [eclipsed_stocked.1] at rendered
    exact ⟨resolved (by decide +kernel), o, hint ▸ rendered⟩
  · have words : ∀ k ∈ ["name"], IsName k := by decide +kernel
    have visible : ∀ k ∈ ["name"], Expr.beginsWith "_" k = false := by decide +kernel
    obtain ⟨-, -, o, -, rendered⟩ := reads_chain unused leads_stocked.2 (.inl rfl) words
      visible bound first free Condition.still.fresh
    rw [eclipsed_stocked.2] at rendered
    exact ⟨o, rendered⟩

end Template

end Workflow
