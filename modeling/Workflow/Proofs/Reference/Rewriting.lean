import Mathlib.Data.List.Forall2
import Workflow.Condition
import Workflow.Proofs.Execution.Frame
import Workflow.Proofs.Reference.Agreement

/-!
# Expressions with names in the place of tokens

What becomes of an expression when its tokens are bound depends on which of its paths lead
somewhere, and on nothing else that the scope holds.  The names are new ones, so binding
them over the names of a scope hides none of these.
-/

namespace Workflow

namespace Reference

open Effect (bind_ok)

/-! ## New names -/

/-- Whether a name is at least as long as another. -/
def isAsLong (name other : String) : Bool :=
  decide (name.length ≤ other.length)

/-- A name with enough underscores is not among the taken ones. -/
theorem freeName_not_mem {taken : List String} {n : Nat} {name : String}
    (enough : (taken.filter (isAsLong name)).length ≤ n) : freeName taken n name ∉ taken := by
  -- each underscore leaves fewer taken names that are as long
  induction n generalizing name with
  | zero =>
      intro inside
      have counted : name ∈ taken.filter (isAsLong name) :=
        List.mem_filter.mpr ⟨inside, by simp [isAsLong]⟩
      have some := List.length_pos_of_mem counted
      omega
  | succ n ih =>
      unfold freeName
      split
      · next inside =>
          have inside : name ∈ taken := List.contains_iff_mem.mp inside
          refine ih ?_
          have fewer : taken.filter (isAsLong (name ++ "_")) =
              (taken.filter (isAsLong name)).filter (isAsLong (name ++ "_")) := by
            rw [List.filter_filter]
            refine List.filter_congr fun other _ => ?_
            simp only [isAsLong, String.length_append, ← Bool.decide_and]
            congr 1
            simp only [eq_iff_iff, iff_self_and]
            omega
          have dropped : ((taken.filter (isAsLong name)).filter (isAsLong (name ++ "_"))).length <
              (taken.filter (isAsLong name)).length := by
            have shorter : ¬ isAsLong (name ++ "_") name = true := by
              have one : "_".length = 1 := rfl
              rw [isAsLong, decide_eq_true_eq, String.length_append]
              omega
            rw [List.length_filter_lt_length_iff_exists]
            exact ⟨name, List.mem_filter.mpr ⟨inside, by simp [isAsLong]⟩, shorter⟩
          rw [fewer]
          omega
      · next outside => simpa using outside

/-- The names for so many values, one after another. -/
def newNames (reserved : List String) : Nat -> List String
  | 0 => []
  | n + 1 =>
      let taken := reserved ++ newNames reserved n
      newNames reserved n ++ [freeName taken (taken.length + 1) s!"token_{n}"]

theorem length_newNames (reserved : List String) (n : Nat) : (newNames reserved n).length = n := by
  induction n with
  | zero => rfl
  | succ n ih => simp [newNames, ih]

/-- The next name is neither reserved nor given before. -/
theorem next_not_mem (reserved given : List String) (name : String) :
    freeName (reserved ++ given) ((reserved ++ given).length + 1) name ∉ reserved ++ given :=
  freeName_not_mem (Nat.le_succ_of_le (List.length_filter_le _ _))

theorem newNames_not_reserved (reserved : List String) (n : Nat) :
    ∀ name ∈ newNames reserved n, name ∉ reserved := by
  induction n with
  | zero => exact nofun
  | succ n ih =>
      intro name hn
      rcases List.mem_append.mp hn with hn | hn
      · exact ih name hn
      · cases List.mem_singleton.mp hn
        exact fun hr => next_not_mem _ _ _ (List.mem_append_left _ hr)

theorem nodup_newNames (reserved : List String) (n : Nat) : (newNames reserved n).Nodup := by
  induction n with
  | zero => exact List.nodup_nil
  | succ n ih =>
      refine List.nodup_append.mpr ⟨ih, List.pairwise_singleton _ _, ?_⟩
      rintro name hn _ hm rfl
      cases List.mem_singleton.mp hm
      exact next_not_mem _ _ _ (List.mem_append_right _ hn)

/-! ## Paths that lead somewhere -/

/-- Whether a path leads somewhere in a scope; those of time and identifiers always do. -/
def leads (scope : Value) (path : String) : Bool :=
  path == "now" || path == "uuid" ||
    match lookup? scope path with
    | .ok found => found.isSome
    | .error _ => false

theorem leads_of_valueAt? {scope : Value} {path : String} {found : Option Value} {f g : Fresh}
    (h : valueAt? scope path f = .ok found g) : leads scope path = found.isSome := by
  unfold valueAt? at h
  unfold leads
  split at h
  · next now =>
      cases h
      simp only [now, Bool.true_or, Option.isSome_some]
  · next other =>
      split at h
      · next uuid =>
          cases h
          simp only [uuid, Bool.true_or, Bool.or_true, Option.isSome_some]
      · next apart =>
          cases hl : lookup? scope path with
          | error e => rw [hl] at h; cases h
          | ok v =>
              rw [hl] at h
              cases h
              simp only [other, apart, Bool.false_or]

/-! ## What becomes of each stretch -/

/-- Whether a stretch gets a name, if so many paths lead somewhere. -/
def Part.isBound (leads : String -> Bool) : Part -> Bool
  | .char _ => false
  | .quoted _ body => (pieces body).any Piece.isToken
  | .token inside => leads (pathOf inside)

/-- A stretch as it is written. -/
def Part.chars : Part -> List Char
  | .char c => [c]
  | .quoted q body => q :: body ++ [q]
  | .token inside => written inside

/-- The value that a stretch is bound to: what a token's path leads to, or a literal's text. -/
def Part.Carries (scope : Value) : Part -> Value -> Prop
  | .char _, _ => False
  | .quoted _ body, v => ∃ s f g, v = .str s ∧ piecesText scope (pieces body) f = .ok s.toList g
  | .token inside, v => ∃ f g, valueAt? scope (pathOf inside) f = .ok (some v) g

/-- The text of stretches with names, one after another, in the place of those that get one. -/
def rewritten (leads : String -> Bool) : List Part -> List String -> List Char
  | [], _ => []
  | p :: rest, names =>
      if p.isBound leads then (names.headD "").toList ++ rewritten leads rest names.tail
      else p.chars ++ rewritten leads rest names

namespace Bound

/-- The names that were introduced. -/
def names (b : Bound) : List String :=
  b.values.map (·.1)

/-- Note all paths that lead nowhere. -/
def lackAll (b : Bound) (leads : String -> Bool) (paths : List String) : Bound :=
  { b with missing := b.missing ++ paths.filter fun path => !leads path }

theorem lackAll_nil (b : Bound) (leads : String -> Bool) : b.lackAll leads [] = b := by
  simp [lackAll]

theorem lackAll_cons_of_leads (b : Bound) {leads : String -> Bool} {path : String}
    (h : leads path = true) (paths : List String) :
    b.lackAll leads (path :: paths) = b.lackAll leads paths := by
  simp [lackAll, h]

theorem lackAll_cons_of_not_leads (b : Bound) {leads : String -> Bool} {path : String}
    (h : leads path = false) (paths : List String) :
    b.lackAll leads (path :: paths) = (b.lack path).lackAll leads paths := by
  simp [lackAll, lack, h]

end Bound

/-- The name for one more value. -/
def nextName (reserved : List String) (b : Bound) : String :=
  let taken := reserved ++ b.names
  freeName taken (taken.length + 1) s!"token_{b.values.length}"

theorem bindValue_eq (reserved : List String) (b : Bound) (v : Value) :
    bindValue reserved b v =
      { b with
        text := b.text ++ (nextName reserved b).toList
        values := b.values ++ [(nextName reserved b, v)] } :=
  rfl

/-- A literal becomes its text in the scope; of its paths those are noted that lead nowhere. -/
theorem bindLiteral_eq (scope : Value) (b : Bound) (ps : List Piece) (f : Fresh) :
    bindLiteral scope b ps f =
      match piecesText scope ps f with
      | .ok cs g => .ok (cs, b.lackAll (leads scope) (ps.filterMap Piece.path?)) g
      | .error e g => .error e g := by
  induction ps generalizing b f with
  | nil => exact congrArg (fun x => EStateM.Result.ok ([], x) f) (b.lackAll_nil _).symm
  | cons p rest ih =>
      cases p with
      | char c =>
          simp only [bindLiteral, piecesText, pieceText, Bind.bind, EStateM.bind, pure, EStateM.pure,
            ih]
          cases piecesText scope rest f <;> rfl
      | token inside =>
          simp only [bindLiteral, piecesText, pieceText, Bind.bind, EStateM.bind]
          cases looked : valueAt? scope (pathOf inside) f with
          | error e g => rfl
          | ok found g =>
              have known := leads_of_valueAt? looked
              cases found with
              | none =>
                  have lacked := b.lackAll_cons_of_not_leads known (rest.filterMap Piece.path?)
                  simp only [EStateM.bind, pure, EStateM.pure, ih, ← lacked]
                  cases piecesText scope rest g <;> rfl
              | some v =>
                  have passed := b.lackAll_cons_of_leads known (rest.filterMap Piece.path?)
                  dsimp only
                  cases inlineText v with
                  | error e => rfl
                  | ok text =>
                      simp only [liftOutcome, EStateM.bind, pure, EStateM.pure, ih, ← passed]
                      cases piecesText scope rest g <;> rfl

theorem bindLiteral_ok {scope : Value} {b b' : Bound} {ps : List Piece} {cs : List Char}
    {f g : Fresh} (h : bindLiteral scope b ps f = .ok (cs, b') g) :
    piecesText scope ps f = .ok cs g ∧
      b' = b.lackAll (leads scope) (ps.filterMap Piece.path?) := by
  rw [bindLiteral_eq] at h
  cases shown : piecesText scope ps f with
  | ok cs g =>
      rw [shown] at h
      cases h
      exact ⟨rfl, rfl⟩
  | error e g =>
      rw [shown] at h
      cases h

/-- A stretch gets a name for what it carries, or stays as it is written. -/
theorem bindPart_ok {scope : Value} {reserved : List String} {b b' : Bound} {p : Part}
    {f g : Fresh} (h : bindPart scope reserved b p f = .ok b' g) :
    (p.isBound (leads scope) = true ∧ ∃ v, p.Carries scope v ∧
        b' = bindValue reserved (b.lackAll (leads scope) p.paths) v) ∨
      (p.isBound (leads scope) = false ∧
        b' = (b.lackAll (leads scope) p.paths).write p.chars) := by
  cases p with
  | char c =>
      cases h
      refine .inr ⟨rfl, ?_⟩
      rw [Part.paths, Bound.lackAll_nil, Part.chars]
  | token inside =>
      obtain ⟨found, t, looked, ended⟩ := bind_ok h
      have known := leads_of_valueAt? looked
      cases found with
      | none =>
          cases ended
          refine .inr ⟨known, ?_⟩
          rw [Part.paths, b.lackAll_cons_of_not_leads known, Bound.lackAll_nil, Part.chars]
      | some v =>
          cases ended
          refine .inl ⟨known, v, ⟨f, g, looked⟩, ?_⟩
          rw [Part.paths, b.lackAll_cons_of_leads known, Bound.lackAll_nil]
  | quoted q body =>
      by_cases some : (pieces body).any Piece.isToken = true
      · simp only [bindPart, some, if_true] at h
        obtain ⟨⟨cs, b₁⟩, t, literal, ended⟩ := bind_ok h
        cases ended
        obtain ⟨shown, rfl⟩ := bindLiteral_ok literal
        exact .inl ⟨some, _, ⟨_, f, g, rfl, by rwa [String.toList_ofList]⟩, rfl⟩
      · simp only [bindPart, some] at h
        cases h
        have tokenless : (pieces body).filterMap Piece.path? = [] := by
          rw [List.filterMap_eq_nil_iff]
          intro piece hp
          cases piece with
          | char c => rfl
          | token inside => exact absurd (List.any_eq_true.mpr ⟨_, hp, rfl⟩) some
        refine .inr ⟨Bool.eq_false_iff.mpr some, ?_⟩
        rw [Part.paths, tokenless, Bound.lackAll_nil, Part.chars]

/-! ## What becomes of an expression -/

/-- The stretches of an expression that get names. -/
def boundParts (scope : Value) (ps : List Part) : List Part :=
  ps.filter (Part.isBound (leads scope))

/-- What binding stretches adds to what was bound before, when it introduces some values. -/
structure Adds (scope : Value) (reserved : List String) (ps : List Part) (b b' : Bound)
    (new : List (String × Value)) : Prop where
  values : b'.values = b.values ++ new
  text : b'.text = b.text ++ rewritten (leads scope) ps (new.map (·.1))
  missing : b'.missing =
    b.missing ++ (ps.flatMap Part.paths).filter fun path => !leads scope path
  carried : List.Forall₂ (fun p e => p.Carries scope e.2) (boundParts scope ps) new
  /-- The names go on as new ones, if they were so before. -/
  named : b.names = newNames reserved b.values.length ->
    b'.names = newNames reserved b'.values.length

theorem bindParts_adds {scope : Value} {reserved : List String} {ps : List Part} {b b' : Bound}
    {f g : Fresh} (h : bindParts scope reserved b ps f = .ok b' g) :
    ∃ new, Adds scope reserved ps b b' new := by
  induction ps generalizing b f with
  | nil =>
      cases h
      exact ⟨[], by simp, by simp [rewritten], by simp, .nil, id⟩
  | cons p rest ih =>
      obtain ⟨b₁, t, here, later⟩ := bind_ok h
      obtain ⟨new, added⟩ := ih later
      rcases bindPart_ok here with ⟨bound, v, carries, rfl⟩ | ⟨free, rfl⟩
      · rw [bindValue_eq] at added
        refine ⟨(nextName reserved (b.lackAll (leads scope) p.paths), v) :: new,
          ?_, ?_, ?_, ?_, fun known => added.named ?_⟩
        · rw [added.values, List.append_assoc]
          rfl
        · rw [added.text, List.append_assoc, rewritten, bound]
          rfl
        · rw [added.missing, List.flatMap_cons, List.filter_append, ← List.append_assoc]
          rfl
        · rw [boundParts, List.filter_cons_of_pos bound]
          exact .cons carries added.carried
        · rw [List.length_append, List.length_singleton, newNames, nextName]
          simp only [Bound.names, Bound.lackAll] at known ⊢
          rw [← known, List.map_append]
          rfl
      · refine ⟨new, added.values, ?_, ?_, ?_, added.named⟩
        · rw [added.text, rewritten, free, Bound.write, List.append_assoc]
          rfl
        · rw [added.missing, Bound.write, List.flatMap_cons, List.filter_append,
            ← List.append_assoc]
          rfl
        · rw [boundParts, List.filter_cons_of_neg (by simp [free])]
          exact added.carried

/-- What an expression becomes when its tokens are bound. -/
structure Binds (scope : Value) (reserved : List String) (expression : String) (b : Bound) :
    Prop where
  names : b.names = newNames reserved (boundParts scope (parts expression.toList)).length
  text : b.text = rewritten (leads scope) (parts expression.toList) b.names
  missing : b.missing = (boundPaths expression).filter fun path => !leads scope path
  carried : List.Forall₂ (fun p e => p.Carries scope e.2)
    (boundParts scope (parts expression.toList)) b.values

theorem bind_binds {scope : Value} {reserved : List String} {expression : String} {b : Bound}
    {f g : Fresh} (h : bind scope reserved expression f = .ok b g) :
    Binds scope reserved expression b := by
  obtain ⟨new, added⟩ := bindParts_adds h
  obtain rfl : b.values = new := added.values
  refine ⟨?_, added.text, added.missing, added.carried⟩
  rw [added.named rfl, added.carried.length_eq]

/-- The paths of a stretch decide whether it gets a name. -/
theorem Part.isBound_congr {leads leads' : String -> Bool} {p : Part}
    (same : ∀ path ∈ p.paths, leads path = leads' path) : p.isBound leads = p.isBound leads' := by
  cases p with
  | char c => rfl
  | quoted q body => rfl
  | token inside => exact same _ List.mem_cons_self

theorem rewritten_congr {leads leads' : String -> Bool} {ps : List Part}
    (same : ∀ path ∈ ps.flatMap Part.paths, leads path = leads' path) (names : List String) :
    rewritten leads ps names = rewritten leads' ps names := by
  induction ps generalizing names with
  | nil => rfl
  | cons p rest ih =>
      have here := Part.isBound_congr (p := p) fun path hp =>
        same path (List.mem_append_left _ hp)
      have later := ih fun path hp => same path (List.mem_append_right _ hp)
      simp only [rewritten, here, later]

theorem boundParts_congr {s t : Value} {ps : List Part}
    (same : ∀ path ∈ ps.flatMap Part.paths, leads s path = leads t path) :
    boundParts s ps = boundParts t ps := by
  refine List.filter_congr fun p hp => Part.isBound_congr fun path hpath => ?_
  exact same path (List.mem_flatMap.mpr ⟨p, hp, hpath⟩)

end Reference

namespace Condition

open Reference

/-- Names that are bound over a scope leave those of the scope alone that are others. -/
theorem field?_bindOver_of_not_mem {scope : List (Value × Value)}
    {values : List (String × Value)} {name : String} (h : name ∉ values.map (·.1)) :
    Value.field? (bindOver scope values) name = Value.field? scope name := by
  induction values generalizing scope with
  | nil => rfl
  | cons e rest ih =>
      rw [List.map_cons, List.mem_cons, not_or] at h
      exact (ih h.2).trans (Value.field?_putField_of_ne scope e.2 (Ne.symm h.1))

/-- Each name that is bound over a scope has its value there. -/
theorem field?_bindOver_of_mem {scope : List (Value × Value)} {values : List (String × Value)}
    (distinct : (values.map (·.1)).Nodup) {name : String} {v : Value} (h : (name, v) ∈ values) :
    Value.field? (bindOver scope values) name = some v := by
  induction values generalizing scope with
  | nil => cases h
  | cons e rest ih =>
      rw [List.map_cons, List.nodup_cons] at distinct
      rcases List.mem_cons.mp h with rfl | later
      · exact (field?_bindOver_of_not_mem distinct.1).trans (Value.field?_putField_self ..)
      · exact ih distinct.2 later

/-- The names of a scope. -/
theorem mem_keys_of_field? {scope : List (Value × Value)} {name : String} {v : Value}
    (h : Value.field? scope name = some v) :
    name ∈ scope.filterMap fun (k, _) => k.asText? := by
  induction scope with
  | nil => cases h
  | cons e rest ih =>
      obtain ⟨k, old⟩ := e
      cases k with
      | str key =>
          simp only [Value.field?] at h
          split at h
          · next same =>
              subst same
              exact List.mem_cons_self
          · exact List.mem_cons_of_mem _ (ih h)
      | markup key => exact List.mem_cons_of_mem _ (ih h)
      | _ => exact ih h

end Condition

namespace Reference

/--
What an expression becomes does not show what its tokens lead to: two scopes in which the
same paths lead somewhere give the same text, names and missing paths.  The names are new,
so that a scope whose names are reserved keeps them when the values are bound over it.
Each name stands for a token, whose value it has, or for a literal with tokens, and then
its value is a text.
-/
theorem bind_blind {s t : Value} {reserved : List String} {expression : String} {b c : Bound}
    {f f' g g' : Fresh}
    (same : ∀ path ∈ boundPaths expression, leads s path = leads t path)
    (left : bind s reserved expression f = .ok b f')
    (right : bind t reserved expression g = .ok c g') :
    (b.text = c.text ∧ b.names = c.names ∧ b.missing = c.missing) ∧
      (b.names.Nodup ∧ ∀ name ∈ b.names, name ∉ reserved) ∧
      (∀ scope : List (Value × Value), (reserved = scope.filterMap fun (k, _) => k.asText?) ->
        (∀ name v, Value.field? scope name = some v ->
          Value.field? (Condition.bindOver scope b.values) name = some v) ∧
        ∀ name v, (name, v) ∈ b.values ->
          Value.field? (Condition.bindOver scope b.values) name = some v) ∧
      b.text = rewritten (leads s) (parts expression.toList) b.names ∧
      List.Forall₂ (fun p e => p.Carries s e.2) (boundParts s (parts expression.toList))
        b.values := by
  have here := bind_binds left
  have there := bind_binds right
  have names : b.names = c.names := by rw [here.names, there.names, boundParts_congr same]
  have distinct : b.names.Nodup := here.names ▸ nodup_newNames ..
  have unreserved : ∀ name ∈ b.names, name ∉ reserved :=
    here.names ▸ newNames_not_reserved reserved _
  refine ⟨⟨?_, names, ?_⟩, ⟨distinct, unreserved⟩, ?_, here.text, here.carried⟩
  · rw [here.text, there.text, names, rewritten_congr same]
  · rw [here.missing, there.missing]
    exact List.filter_congr fun path hp => by rw [same path hp]
  · rintro scope rfl
    refine ⟨fun name v known => ?_, fun name v bound => ?_⟩
    · have apart : name ∉ b.names := fun inside =>
        unreserved name inside (Condition.mem_keys_of_field? known)
      rw [Condition.field?_bindOver_of_not_mem apart, known]
    · exact Condition.field?_bindOver_of_mem distinct bound

/-- A scope with one input, and a second name that looks like one for a token. -/
def scopeOf (input : Value) : List (Value × Value) :=
  [(.str "inputs", .dict [(.str "x", input)]), (.str "token_0", .null)]

/-- A literal with a token, a token, and one whose path leads nowhere. -/
def threefold : String :=
  "'\x7b\x7b inputs.x \x7d\x7d' == \x7b\x7binputs.x\x7d\x7d and \x7b\x7binputs.y\x7d\x7d"

/-- The morning of a day. -/
def morning : Fresh :=
  ⟨⟨⟨2024, 1, 2⟩, 3, 4, 5, 0, none⟩, 0⟩

theorem exists_bound {m : Resolving Bound} {f : Fresh} {text : List Char}
    (h : (m.run' f).map Bound.text = some text) : ∃ b g, m f = .ok b g ∧ b.text = text := by
  delta EStateM.run' EStateM.run at h
  cases ended : m f with
  | error e g => rw [ended] at h; cases h
  | ok b g =>
      rw [ended] at h
      exact ⟨b, g, rfl, Option.some.inj h⟩

/-- A text that would end the literal it is put in gives the same expression as a number. -/
theorem bind_blind_quote : ∃ b c f g,
    bind (.dict (scopeOf (.str "' or env or '"))) ["inputs", "token_0"] threefold morning =
        .ok b f ∧
      bind (.dict (scopeOf (.int 7))) ["inputs", "token_0"] threefold morning = .ok c g ∧
      b.text = "token_0_ == token_1 and \x7b\x7binputs.y\x7d\x7d".toList ∧
      b.text = c.text ∧
      Value.field? (Condition.bindOver (scopeOf (.str "' or env or '")) b.values) "token_0" =
        some .null := by
  have quoted : ((bind (.dict (scopeOf (.str "' or env or '"))) ["inputs", "token_0"]
      threefold).run' morning).map Bound.text =
        some "token_0_ == token_1 and \x7b\x7binputs.y\x7d\x7d".toList := by decide +kernel
  have counted : ((bind (.dict (scopeOf (.int 7))) ["inputs", "token_0"]
      threefold).run' morning).map Bound.text =
        some "token_0_ == token_1 and \x7b\x7binputs.y\x7d\x7d".toList := by decide +kernel
  obtain ⟨b, f, left, text⟩ := exists_bound quoted
  obtain ⟨c, g, right, -⟩ := exists_bound counted
  obtain ⟨⟨same, -⟩, -, keeps, -⟩ := bind_blind (by decide +kernel) left right
  exact ⟨b, c, f, g, left, right, text, same, (keeps _ rfl).1 "token_0" .null rfl⟩

end Reference

end Workflow
