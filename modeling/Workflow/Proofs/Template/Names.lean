import Workflow.Template.Memory

/-!
# The names of templates

The names a template looks up are written in it.  What a rendering keeps in its memory,
macros and loops and blocks, has no others.
-/

namespace Workflow

namespace Template

mutual

/-- All names of a term are within a set. -/
inductive Term.Within (P : String -> Prop) : Term -> Prop where
  | const (v : Value) : Term.Within P (.const v)
  | name {id : String} : P id -> Term.Within P (.name id)
  | unary (op : UnaryOp) {e : Term} : Term.Within P e -> Term.Within P (.unary op e)
  | binary (op : BinaryOp) {l r : Term} :
      Term.Within P l -> Term.Within P r -> Term.Within P (.binary op l r)
  | conj {l r : Term} : Term.Within P l -> Term.Within P r -> Term.Within P (.conj l r)
  | disj {l r : Term} : Term.Within P l -> Term.Within P r -> Term.Within P (.disj l r)
  | concat {parts : List Term} : (∀ e ∈ parts, Term.Within P e) -> Term.Within P (.concat parts)
  | compare {first : Term} {rest : List (CompareOp × Term)} :
      Term.Within P first -> (∀ p ∈ rest, Term.Within P p.2) -> Term.Within P (.compare first rest)
  | choice {test yes : Term} {no : Option Term} (line : Nat) :
      Term.Within P test -> Term.Within P yes -> (∀ e ∈ no, Term.Within P e) ->
        Term.Within P (.choice test yes no line)
  | call {callee : Term} {a : Call Term} :
      Term.Within P callee -> Call.Within P a -> Term.Within P (.call callee a)
  | field {owner : Term} (name : String) : Term.Within P owner -> Term.Within P (.field owner name)
  | item {owner key : Term} :
      Term.Within P owner -> Term.Within P key -> Term.Within P (.item owner key)
  | slice {owner : Term} {lower upper step : Option Term} :
      Term.Within P owner -> (∀ e ∈ lower, Term.Within P e) -> (∀ e ∈ upper, Term.Within P e) ->
        (∀ e ∈ step, Term.Within P e) -> Term.Within P (.slice owner lower upper step)
  | list {items : List Term} : (∀ e ∈ items, Term.Within P e) -> Term.Within P (.list items)
  | tuple {items : List Term} : (∀ e ∈ items, Term.Within P e) -> Term.Within P (.tuple items)
  | dict {entries : List (Term × Term)} :
      (∀ p ∈ entries, Term.Within P p.1) -> (∀ p ∈ entries, Term.Within P p.2) ->
        Term.Within P (.dict entries)
  | filter {subject : Option Term} (name : String) {a : Call Term} (line : Nat) :
      (∀ e ∈ subject, Term.Within P e) -> Call.Within P a ->
        Term.Within P (.filter subject name a line)
  | test {subject : Term} (name : String) {a : Call Term} (line : Nat) :
      Term.Within P subject -> Call.Within P a -> Term.Within P (.test subject name a line)

/-- All names of arguments are within a set. -/
inductive Call.Within (P : String -> Prop) : Call Term -> Prop where
  | mk {positional : List Term} {named : List (String × Term)} {spread spreadNamed : Option Term} :
      (∀ e ∈ positional, Term.Within P e) -> (∀ p ∈ named, Term.Within P p.2) ->
        (∀ e ∈ spread, Term.Within P e) -> (∀ e ∈ spreadNamed, Term.Within P e) ->
        Call.Within P ⟨positional, named, spread, spreadNamed⟩

end

/-- The names that are looked up to assign to a place are within a set. -/
inductive Place.Within (P : String -> Prop) : Place -> Prop where
  | name (id : String) (line : Nat) : Within P (.name id line)
  | several {places : List Place} : (∀ p ∈ places, Within P p) -> Within P (.several places)
  | field {owner : String} (name : String) : P owner -> Within P (.field owner name)

/-- The names in the defaults of parameters are within a set. -/
def ParametersWithin (P : String -> Prop) (parameters : List (String × Option Term)) : Prop :=
  ∀ p ∈ parameters, ∀ e ∈ p.2, e.Within P

/-- All names of a statement are within a set. -/
inductive Statement.Within (P : String -> Prop) : Statement -> Prop where
  | text (s : String) : Within P (.text s)
  | print {items : List Term} : (∀ e ∈ items, e.Within P) -> Within P (.print items)
  | forEach {place : Place} {source : Term} {test : Option Term} (recursive : Bool)
      {body otherwise : List Statement} :
      place.Within P -> source.Within P -> (∀ e ∈ test, e.Within P) -> (∀ s ∈ body, Within P s) ->
        (∀ s ∈ otherwise, Within P s) ->
        Within P (.forEach place source test recursive body otherwise)
  | cond {branches : List (Term × List Statement)} {otherwise : List Statement} :
      (∀ b ∈ branches, b.1.Within P) -> (∀ b ∈ branches, ∀ s ∈ b.2, Within P s) ->
        (∀ s ∈ otherwise, Within P s) -> Within P (.cond branches otherwise)
  | within {bindings : List (Place × Term)} {body : List Statement} :
      (∀ b ∈ bindings, b.1.Within P) -> (∀ b ∈ bindings, b.2.Within P) ->
        (∀ s ∈ body, Within P s) -> Within P (.within bindings body)
  | escaping {on : Term} {body : List Statement} :
      on.Within P -> (∀ s ∈ body, Within P s) -> Within P (.escaping on body)
  | block (name : String) (inherits required : Bool) {body : List Statement} (line : Nat) :
      (∀ s ∈ body, Within P s) -> Within P (.block name inherits required body line)
  | defineMacro (name : String) {parameters : List (String × Option Term)} {body : List Statement}
      (line : Nat) :
      ParametersWithin P parameters -> (∀ s ∈ body, Within P s) ->
        Within P (.defineMacro name parameters body line)
  | callWith {parameters : List (String × Option Term)} {callee : Term} {a : Call Term}
      {body : List Statement} (line : Nat) :
      ParametersWithin P parameters -> callee.Within P -> a.Within P -> (∀ s ∈ body, Within P s) ->
        Within P (.callWith parameters callee a body line)
  | filtered {filter : Term} {body : List Statement} :
      filter.Within P -> (∀ s ∈ body, Within P s) -> Within P (.filtered filter body)
  | assign {place : Place} {value : Term} :
      place.Within P -> value.Within P -> Within P (.assign place value)
  | assignText {place : Place} {filter : Option Term} {body : List Statement} :
      place.Within P -> (∀ e ∈ filter, e.Within P) -> (∀ s ∈ body, Within P s) ->
        Within P (.assignText place filter body)
  | load {template : Term} : template.Within P -> Within P (.load template)

/-- All names of statements are within a set. -/
def BodyWithin (P : String -> Prop) (body : List Statement) : Prop :=
  ∀ s ∈ body, s.Within P

variable {P : String -> Prop}

theorem BodyWithin.nil : BodyWithin P [] := by
  intro s hs
  cases hs

/-- The blocks of a template have no names but those of the template. -/
theorem blocksOf_within (fuel : Nat) {body : List Statement} (h : BodyWithin P body) :
    ∀ b ∈ blocksOf fuel body, BodyWithin P b.body := by
  induction fuel generalizing body with
  | zero => intro b hb; cases hb
  | succ fuel ih =>
      intro b hb
      simp only [blocksOf, List.mem_flatMap] at hb
      obtain ⟨s, hs, hb⟩ := hb
      cases h s hs with
      | forEach _ _ _ _ hbody hotherwise =>
          rcases List.mem_append.mp hb with hb | hb
          · exact ih hbody b hb
          · exact ih hotherwise b hb
      | cond _ hbodies hotherwise =>
          rcases List.mem_append.mp hb with hb | hb
          · obtain ⟨branch, hm, hb⟩ := List.mem_flatMap.mp hb
            exact ih (hbodies branch hm) b hb
          · exact ih hotherwise b hb
      | block _ _ _ _ hbody =>
          rcases List.mem_cons.mp hb with rfl | hb
          · exact hbody
          · exact ih hbody b hb
      | within _ _ hbody => exact ih hbody b hb
      | escaping _ hbody => exact ih hbody b hb
      | defineMacro _ _ _ hbody => exact ih hbody b hb
      | callWith _ _ _ _ hbody => exact ih hbody b hb
      | filtered _ hbody => exact ih hbody b hb
      | assignText _ _ hbody => exact ih hbody b hb
      | text | print | assign | load => cases hb

/-! ## What a memory keeps -/

/-- The blocks that can be written from some surroundings have their names within a set. -/
def Surroundings.Within (P : String -> Prop) (s : Surroundings) : Prop :=
  ∀ b ∈ s.blocks, BodyWithin P b.body

/-- All names of a macro are within a set. -/
structure Closure.Within (P : String -> Prop) (c : Closure) : Prop where
  parameters : ParametersWithin P c.parameters
  body : BodyWithin P c.body
  defined : c.defined.Within P

/-- All names of what a loop repeats are within a set. -/
structure LoopBody.Within (P : String -> Prop) (b : LoopBody) : Prop where
  place : b.place.Within P
  test : ∀ e ∈ b.test, e.Within P
  body : BodyWithin P b.body
  otherwise : BodyWithin P b.otherwise
  surroundings : b.surroundings.Within P

/-- All names of what makes the items of a stream are within a set. -/
inductive Maker.Within (P : String -> Prop) : Maker -> Prop where
  | items : Within P .items
  | filter (name : String) (a : Value.Arguments) : Within P (.filter name a)
  | chosen {b : LoopBody} : b.Within P -> Within P (.chosen b)

/-- All names of what a cell holds are within a set. -/
inductive Cell.Within (P : String -> Prop) : Cell -> Prop where
  | fields (entries : List (String × Value)) : Within P (.fields entries)
  | closure {c : Closure} : c.Within P -> Within P (.closure c)
  | loop {l : LoopState} : (∀ b ∈ l.again, b.Within P) -> Within P (.loop l)
  | cycler (items : List Value) (place : Nat) : Within P (.cycler items place)
  | joiner (separator : Value) (used : Bool) : Within P (.joiner separator used)
  | stream {s : Stream} : s.maker.Within P -> Within P (.stream s)

end Template

end Workflow
