import Workflow.Definition.Record
import Workflow.Proofs.Definition.WellFormed

/-!
# Reading a definition that was written out

A definition that was read can be written out as a dictionary of all its fields.  Reading
this dictionary gives the same definition again: what each field was read as is written
in a form that its reader takes for what it is.
-/

namespace Workflow

namespace Schema

open Coercion

/-- What a reader gives is read as itself from the way in which it is written. -/
def Rereads {α : Type} (read : Value -> Checked α) (write : α -> Value) : Prop :=
  ∀ v a, read v = .ok a -> read (write a) = .ok a

/-- A value, or nothing where there is none. -/
def written {α : Type} (write : α -> Value) : Option α -> Value
  | some a => write a
  | none => .null

variable {α : Type} {read : Value -> Checked α} {write : α -> Value}

/-! ## Scalars -/

/-- A reader takes what is written of any result for that result. -/
theorem Rereads.of_forall (h : ∀ a, read (write a) = .ok a) : Rereads read write :=
  fun _ a _ => h a

theorem rereads_text : Rereads text .str :=
  .of_forall fun _ => rfl

theorem rereads_truth : Rereads truth .bool :=
  .of_forall fun _ => rfl

theorem rereads_number : Rereads number .float :=
  .of_forall fun _ => rfl

theorem rereads_moment : Rereads moment .datetime :=
  .of_forall fun _ => rfl

theorem rereads_anything : Rereads anything id :=
  .of_forall fun _ => rfl

theorem optional_of_ne_null {v : Value} (h : v ≠ .null) :
    optional read v = (read v).map some := by
  cases v <;> first | rfl | exact absurd rfl h

theorem Rereads.optional (again : Rereads read write) (present : ∀ a, write a ≠ .null) :
    Rereads (optional read) (written write) := by
  intro v o h
  cases o with
  | none => rfl
  | some a =>
      by_cases empty : v = .null
      · rw [empty] at h
        cases h
      · rw [optional_of_ne_null empty] at h
        cases ended : read v with
        | error ps => rw [ended] at h; cases h
        | ok b =>
            rw [ended] at h
            cases h
            rw [written, optional_of_ne_null (present a), again v a ended]
            rfl

/-- A further test that lets a value pass as it is does not change what is read. -/
theorem Rereads.andThen (again : Rereads read write) {test : α -> Checked α}
    (passes : ∀ a b, test a = .ok b -> b = a) :
    Rereads (fun v => Checked.andThen (read v) test) write := by
  intro v b h
  obtain ⟨a, ended, passed⟩ := Checked.andThen_ok.mp h
  have same := passes a b passed
  subst same
  exact Checked.andThen_ok.mpr ⟨b, again v b ended, passed⟩

/-- Words that are found by their names. -/
theorem rereads_word {words : List String} {find : String -> Option α} {name : α -> String}
    (found : ∀ a, find (name a) = some a) : Rereads (word words find) fun a => .str (name a) :=
  .of_forall fun a => by simp [word, Value.asText?, found]

theorem rereads_inputType : Rereads inputType fun t => .str t.name :=
  rereads_word fun t => by cases t <;> rfl

theorem rereads_errorPolicy : Rereads errorPolicy fun p => .str p.name :=
  rereads_word fun p => by cases p <;> rfl

theorem rereads_name : Rereads name .str :=
  rereads_text.andThen fun s t passed => by
    split at passed
    · cases passed
    · cases passed
      rfl

theorem rereads_timeout : Rereads timeout .float :=
  rereads_number.andThen fun x y passed => by
    unfold above at passed
    split at passed <;> cases passed
    rfl

theorem rereads_optionalText : Rereads (optional text) Value.ofText? := by
  intro v o h
  have again := rereads_text.optional (fun _ => Value.noConfusion) v o h
  cases o <;> exact again

theorem rereads_version : Rereads version Value.ofText? := by
  intro v o _
  cases o <;> rfl

/-! ## Fields -/

/-- The entries of a record of some fields. -/
def entriesFor (fields : List (String × Value)) : List (Value × Value) :=
  fields.map fun f => (.str f.1, f.2)

theorem record_eq (fields : List (String × Value)) : Value.record fields = .dict (entriesFor fields) :=
  rfl

theorem record_ne_null {fields : List (String × Value)} : Value.record fields ≠ .null := by
  rw [record_eq]
  exact Value.noConfusion

/-- The fields of a record are found by their names. -/
theorem field?_entriesFor (fields : List (String × Value)) (name : String) :
    Value.field? (entriesFor fields) name = Table.get? fields name := by
  induction fields with
  | nil => rfl
  | cons f rest ih =>
      simp only [entriesFor, List.map_cons, Value.field?, Table.get?] at ih ⊢
      rw [ih]

/-- A field of a record is what its reader takes it for. -/
theorem field_record {fields : List (String × Value)} {name : String} {v : Value} {a : α}
    {absent : Checked α} (found : Table.get? fields name = some v) (h : read v = .ok a) :
    field (entriesFor fields) name read absent = .ok a := by
  simp only [field, field?_entriesFor, found, h, Checked.under, Except.mapError]

/-- A field is what it is when it is left out, or what some value was read as. -/
theorem field_ok {entries : List (Value × Value)} {name : String} {standard a : α}
    (h : field entries name read (.ok standard) = .ok a) : a = standard ∨ ∃ v, read v = .ok a := by
  unfold field at h
  split at h
  · cases h
    exact .inl rfl
  · exact .inr ⟨_, Checked.under_ok.mp h⟩

/-- What a field was read as is read again, also where it was left out. -/
theorem Rereads.field (again : Rereads read write) {entries : List (Value × Value)} {name : String}
    {standard a : α} (h : field entries name read (.ok standard) = .ok a)
    (default : read (write standard) = .ok standard) : read (write a) = .ok a := by
  rcases field_ok h with rfl | ⟨v, given⟩
  · exact default
  · exact again v a given

theorem Rereads.required (again : Rereads read write) {entries : List (Value × Value)}
    {name : String} {a : α} (h : required entries name read = .ok a) : read (write a) = .ok a :=
  again _ a (required_ok h)

/-! ## Declarations of inputs -/

/-- A default is of the type of its input, or nothing. -/
theorem rereads_inputDefault (t : InputType) : Rereads (inputDefault (.ok t)) id := by
  intro v a h
  by_cases empty : v = .null
  · subst empty
    cases h
    rfl
  · have passed : inputDefault (.ok t) v =
        if t.admits v then .ok v
        else Checked.flawed (.broken
          s!"default value must be of type '{t.name}', got {InputType.describe v}") := by
      cases v <;> first | rfl | exact absurd rfl empty
    rw [passed] at h
    split at h
    · next fits =>
        cases h
        exact passed.trans (if_pos fits)
    · cases h

/-- The fields of an input that was read. -/
theorem input_ok {entries : List (Value × Value)} {i : Input} :
    input (.dict entries) = .ok i ↔
      field entries "type" inputType (.ok .any) = .ok i.type ∧
      field entries "required" truth (.ok false) = .ok i.required ∧
      field entries "default" (inputDefault (.ok i.type)) (.ok .null) = .ok i.default ∧
      field entries "description" (optional text) (.ok none) = .ok i.description := by
  constructor
  · intro h
    obtain ⟨_, description, h₁, hdescription, rfl⟩ := Checked.apply_ok.mp h
    obtain ⟨_, default, h₂, hdefault, rfl⟩ := Checked.apply_ok.mp h₁
    obtain ⟨_, required, h₃, hrequired, rfl⟩ := Checked.apply_ok.mp h₂
    obtain ⟨_, type, h₄, htype, rfl⟩ := Checked.apply_ok.mp h₃
    cases h₄
    rw [htype] at hdefault
    exact ⟨htype, hrequired, hdefault, hdescription⟩
  · rintro ⟨htype, hrequired, hdefault, hdescription⟩
    rw [← htype] at hdefault
    exact apply_of_ok (apply_of_ok (apply_of_ok (apply_of_ok rfl htype) hrequired) hdefault)
      hdescription

theorem rereads_input : Rereads input Input.toValue := by
  intro v i h
  cases v with
  | dict entries =>
      obtain ⟨type, required, default, description⟩ := input_ok.mp h
      refine input_ok.mpr ⟨?_, ?_, ?_, ?_⟩
      · exact field_record (by simp [Table.get?]) (rereads_inputType.field type rfl)
      · exact field_record (by simp [Table.get?]) (rereads_truth.field required rfl)
      · exact field_record (by simp [Table.get?]) ((rereads_inputDefault i.type).field default rfl)
      · exact field_record (by simp [Table.get?]) (rereads_optionalText.field description rfl)
  | _ => cases h

/-! ## Retry blocks -/

theorem rereads_attempts : Rereads
    (fun v => Checked.andThen (Checked.andThen (integer v) (integerAtMost maxAttempts))
      (integerAtLeast 1)) .int := by
  have whole : Rereads integer .int := .of_forall fun _ => rfl
  refine (whole.andThen ?_).andThen ?_
  · intro m n passed
    unfold integerAtMost at passed
    split at passed <;> cases passed
    rfl
  · intro m n passed
    unfold integerAtLeast at passed
    split at passed <;> cases passed
    rfl

/-- Numbers with a least one. -/
theorem rereads_atLeast (least : Float) (shown : String) :
    Rereads (fun v => Checked.andThen (number v) (atLeast least shown)) .float :=
  rereads_number.andThen fun x y passed => by
    unfold atLeast at passed
    split at passed <;> cases passed
    rfl

/-- A number, or nothing. -/
theorem Rereads.optionalFloat {read : Value -> Checked Float} (again : Rereads read .float) :
    Rereads (Coercion.optional read) Value.ofFloat? := by
  intro v o h
  have same := again.optional (fun _ => Value.noConfusion) v o h
  cases o <;> exact same

/-- The growth of delays of an empty block is one that may be asked for. -/
theorem standard_backoff :
    Checked.andThen (number (.float RetryPolicy.standard.backoff)) (atLeast 1.0 "1") =
      .ok RetryPolicy.standard.backoff := by
  have allowed : (1.0 : Float) ≤ RetryPolicy.standard.backoff := by decide
  simp only [number, Checked.andThen, atLeast, allowed, if_true]

/-- The fields of a retry block that was read. -/
theorem retryPolicy_ok {entries : List (Value × Value)} {r : RetryPolicy} :
    retryPolicy (.dict entries) = .ok r ↔
      field entries "attempts" (fun v => Checked.andThen
        (Checked.andThen (integer v) (integerAtMost maxAttempts)) (integerAtLeast 1))
        (.ok RetryPolicy.standard.attempts) = .ok r.attempts ∧
      field entries "delay" (optional fun v => Checked.andThen (number v) (atLeast 0.0 "0"))
        (.ok RetryPolicy.standard.delay) = .ok r.delay ∧
      field entries "max_delay" (optional fun v => Checked.andThen (number v) (atLeast 0.0 "0"))
        (.ok RetryPolicy.standard.maxDelay) = .ok r.maxDelay ∧
      field entries "backoff" (fun v => Checked.andThen (number v) (atLeast 1.0 "1"))
        (.ok RetryPolicy.standard.backoff) = .ok r.backoff := by
  constructor
  · intro h
    obtain ⟨_, backoff, h₁, hbackoff, rfl⟩ := Checked.apply_ok.mp h
    obtain ⟨_, maxDelay, h₂, hmaxDelay, rfl⟩ := Checked.apply_ok.mp h₁
    obtain ⟨_, delay, h₃, hdelay, rfl⟩ := Checked.apply_ok.mp h₂
    obtain ⟨_, attempts, h₄, hattempts, rfl⟩ := Checked.apply_ok.mp h₃
    cases h₄
    exact ⟨hattempts, hdelay, hmaxDelay, hbackoff⟩
  · rintro ⟨hattempts, hdelay, hmaxDelay, hbackoff⟩
    exact apply_of_ok (apply_of_ok (apply_of_ok (apply_of_ok rfl hattempts) hdelay) hmaxDelay)
      hbackoff

theorem rereads_retryPolicy : Rereads retryPolicy RetryPolicy.toValue := by
  intro v r h
  cases v with
  | dict entries =>
      obtain ⟨attempts, delay, maxDelay, backoff⟩ := retryPolicy_ok.mp h
      have least := rereads_atLeast 0.0 "0"
      refine retryPolicy_ok.mpr ⟨?_, ?_, ?_, ?_⟩
      · exact field_record (by simp [Table.get?]) (rereads_attempts.field attempts rfl)
      · exact field_record (by simp [Table.get?]) (least.optionalFloat.field delay rfl)
      · exact field_record (by simp [Table.get?]) (least.optionalFloat.field maxDelay rfl)
      · exact field_record (by simp [Table.get?])
          ((rereads_atLeast 1.0 "1").field backoff standard_backoff)
  | _ => cases h

/-! ## Dictionaries -/

/-- Each entry that is read of a dictionary is read of one of its values. -/
theorem entriesOf_ok {entries : List (Value × Value)} {t : Table α}
    (h : entriesOf read entries = .ok t) :
    t.names.Nodup ∧ ∀ n a, (n, a) ∈ t -> ∃ v, read v = .ok a := by
  unfold entriesOf at h
  generalize ended : Checked.all _ = r at h
  cases r with
  | error ps => cases h
  | ok pairs =>
      cases h
      refine ⟨Table.nodup_names_ofEntries pairs, fun n a mem => ?_⟩
      have listed : (.ok (n, a) : Checked (String × α)) ∈ pairs.map .ok :=
        List.mem_map_of_mem (Table.mem_of_mem_ofEntries mem)
      rw [← Checked.all_ok.mp ended] at listed
      obtain ⟨⟨k, v⟩, -, same⟩ := List.mem_map.mp listed
      obtain ⟨g, b, keyed, value, pair⟩ := Checked.apply_ok.mp same
      obtain ⟨f, s, pairing, -, applied⟩ := Checked.apply_ok.mp keyed
      cases pairing
      subst applied
      cases pair
      exact ⟨v, Checked.under_ok.mp value⟩

/-- The entries of a record whose values are read, each of its names occurring once. -/
theorem entriesOf_record {t : Table α} (once : t.names.Nodup)
    (h : ∀ n a, (n, a) ∈ t -> read (write a) = .ok a) :
    entriesOf read (entriesFor (t.map fun e => (e.1, write e.2))) = .ok t := by
  unfold entriesOf entriesFor
  rw [List.map_map, List.map_map, Checked.all_ok.mpr (?_ : _ = t.map Except.ok)]
  · exact congrArg Except.ok (Table.ofEntries_of_nodup once)
  · refine List.map_congr_left fun e mem => ?_
    exact apply_of_ok (apply_of_ok rfl (Checked.under_ok.mpr (Checked.under_ok.mpr rfl)))
      (Checked.under_ok.mpr (h e.1 e.2 mem))

theorem Rereads.dictionary (again : Rereads read write) :
    Rereads (dictionary read) fun t => .record (t.map fun e => (e.1, write e.2)) := by
  intro v t h
  cases v with
  | dict entries =>
      obtain ⟨once, values⟩ := entriesOf_ok h
      refine entriesOf_record once fun n a mem => ?_
      obtain ⟨v, value⟩ := values n a mem
      exact again v a value
  | _ => cases h

/-- No declarations are read as none, and these again as none. -/
theorem rereads_inputs :
    Rereads inputs fun t => .record (t.map fun e => (e.1, e.2.toValue)) := by
  intro v t h
  cases v with
  | null =>
      cases h
      rfl
  | dict entries => exact rereads_input.dictionary (.dict entries) t h
  | _ => cases h

/-! ## Steps -/

/-- The fields that are kept for executors are none that steps have a meaning for. -/
theorem extraFields_ok {entries : List (Value × Value)} {extra : List (String × Value)}
    (h : extraFields entries = .ok extra) : ∀ f ∈ extra, f.1 ∉ stepFields := by
  intro f mem
  have listed : (.ok f : Checked (String × Value)) ∈ extra.map .ok := List.mem_map_of_mem mem
  rw [← Checked.all_ok.mp h] at listed
  obtain ⟨⟨k, v⟩, unknown, same⟩ := List.mem_map.mp listed
  have other := (List.mem_filter.mp unknown).2
  simp only at same other
  split at same
  · next name named =>
      cases same
      simpa [named] using other
  · cases same

/-- Fields that steps have a meaning for are not kept; the others are, in order. -/
theorem extraFields_record {known extra : List (String × Value)}
    (own : ∀ f ∈ known, f.1 ∈ stepFields) (other : ∀ f ∈ extra, f.1 ∉ stepFields) :
    extraFields (entriesFor (known ++ extra)) = .ok extra := by
  unfold extraFields entriesFor
  simp only
  rw [List.map_append, List.filter_append, List.filter_eq_nil_iff.mpr, List.nil_append,
    List.filter_eq_self.mpr]
  · refine Checked.all_ok.mpr ?_
    rw [List.map_map]
    rfl
  · intro e mem
    obtain ⟨f, listed, rfl⟩ := List.mem_map.mp mem
    simpa [Value.asText?] using other f listed
  · intro e mem
    obtain ⟨f, listed, rfl⟩ := List.mem_map.mp mem
    simpa [Value.asText?] using own f listed

/-- A branch of a record is read of its field. -/
theorem branchNamed_record {fields : List (String × Value)} {key : String} {v : Value}
    {b : Option (List Step)} (h : key ∈ branchKeys) (found : Table.get? fields key = some v)
    (read : branch v = .ok b) :
    branchNamed (branches (entriesFor fields)) key = .ok b := by
  simp only [branchNamed, lookup_branches _ h, field?_entriesFor, found, Option.map_some, read,
    Checked.under, Except.mapError]

/-- The fields that steps have a meaning for, as they are written. -/
def ownFields (s : Step) : List (String × Value) :=
  [("id", .str s.id), ("type", .str s.type), ("description", .ofText? s.description),
    ("config", s.config), ("on_error", .str s.onError.name),
    ("retry", written RetryPolicy.toValue s.retry), ("timeout", .ofFloat? s.timeout),
    ("condition", s.condition), ("if_true", Step.branchValue s.ifTrue),
    ("if_false", Step.branchValue s.ifFalse)]

theorem toValue_eq (s : Step) : s.toValue = .record (ownFields s ++ s.extra) := by
  obtain ⟨_, _, _, _, _, retry, _, _, _, _, _⟩ := s
  cases retry <;> rfl

theorem mem_stepFields (s : Step) : ∀ f ∈ ownFields s, f.1 ∈ stepFields := by
  intro f mem
  have named : (ownFields s).map (·.1) = stepFields := rfl
  rw [← named]
  exact List.mem_map_of_mem mem

/-- A step that was read is read again once its branches are. -/
theorem stepOf_rereads {entries : List (Value × Value)} {s : Step}
    (h : stepOf entries (branches entries) = .ok s)
    (onTrue : branch (Step.branchValue s.ifTrue) = .ok s.ifTrue)
    (onFalse : branch (Step.branchValue s.ifFalse) = .ok s.ifFalse) :
    step s.toValue = .ok s := by
  obtain ⟨id, type, description, -, policy, retry, timeout, -, -, -, extra⟩ := stepOf_fields.mp h
  rw [toValue_eq, record_eq, step, stepOf_fields]
  refine ⟨?_, ?_, ?_, ?_, ?_, ?_, ?_, ?_, ?_, ?_, ?_⟩
  · exact field_record (by simp [ownFields, Table.get?]) (rereads_name.required id)
  · exact field_record (by simp [ownFields, Table.get?]) (rereads_name.required type)
  · exact field_record (by simp [ownFields, Table.get?])
      (rereads_optionalText.field description rfl)
  · exact field_record (v := s.config) (by simp [ownFields, Table.get?]) rfl
  · exact field_record (by simp [ownFields, Table.get?]) (rereads_errorPolicy.field policy rfl)
  · exact field_record (by simp [ownFields, Table.get?])
      ((rereads_retryPolicy.optional fun _ => record_ne_null).field retry rfl)
  · exact field_record (by simp [ownFields, Table.get?])
      (rereads_timeout.optionalFloat.field timeout rfl)
  · exact field_record (v := s.condition) (by simp [ownFields, Table.get?]) rfl
  · exact branchNamed_record (by simp [branchKeys]) (by simp [ownFields, Table.get?]) onTrue
  · exact branchNamed_record (by simp [branchKeys]) (by simp [ownFields, Table.get?]) onFalse
  · exact extraFields_record (mem_stepFields s) (extraFields_ok extra)

/-- A branch by name is the first one or one of the others. -/
theorem branchNamed_cons {name key : String} {r : Checked (Option (List Step))}
    {rest : List (String × Checked (Option (List Step)))} {b : Option (List Step)}
    (h : branchNamed ((name, r) :: rest) key = .ok b) :
    r = .ok b ∨ branchNamed rest key = .ok b := by
  unfold branchNamed at h ⊢
  rw [List.lookup_cons] at h
  cases same : key == name with
  | true =>
      rw [same] at h
      exact .inl (Checked.under_ok.mp h)
  | false =>
      rw [same] at h
      exact .inr h

mutual

/-- A step is read again, and so are the steps of its branches. -/
theorem rereads_step (v : Value) (s : Step) (h : step v = .ok s) : step s.toValue = .ok s := by
  match v with
  | .dict entries =>
      rw [step] at h
      obtain ⟨-, -, -, -, -, -, -, -, onTrue, onFalse, -⟩ := stepOf_fields.mp h
      exact stepOf_rereads h (rereads_branchNamed entries _ _ onTrue)
        (rereads_branchNamed entries _ _ onFalse)

theorem rereads_branchNamed (entries : List (Value × Value)) (key : String)
    (b : Option (List Step)) (h : branchNamed (branches entries) key = .ok b) :
    branch (Step.branchValue b) = .ok b := by
  match entries with
  | [] =>
      cases h
      rfl
  | (k, v) :: rest =>
      have later (below : branchNamed (branches rest) key = .ok b) :=
        rereads_branchNamed rest key b below
      cases k with
      | str name =>
          simp only [branches] at h
          split at h
          · exact (branchNamed_cons h).elim (rereads_branch v b) later
          · exact later h
      | _ => exact later (by simpa only [branches] using h)

theorem rereads_branch (v : Value) (b : Option (List Step)) (h : branch v = .ok b) :
    branch (Step.branchValue b) = .ok b := by
  match v with
  | .null =>
      cases h
      rfl
  | .list items => exact rereads_items items b (by simpa only [branch] using h)
  | .tuple items => exact rereads_items items b (by simpa only [branch] using h)

theorem rereads_items (items : List Value) (b : Option (List Step))
    (h : (Checked.all (Checked.indexed 0 (steps items))).map some = .ok b) :
    branch (Step.branchValue b) = .ok b := by
  cases read : Checked.all (Checked.indexed 0 (steps items)) with
  | error ps => rw [read] at h; cases h
  | ok ss =>
      rw [read] at h
      cases h
      have again := rereads_steps items ss (Checked.indexed_ok.mp (Checked.all_ok.mp read))
      rw [Step.branchValue, branch, Checked.all_ok.mpr (Checked.indexed_ok.mpr again)]
      rfl

theorem rereads_steps (items : List Value) (ss : List Step) (h : steps items = ss.map .ok) :
    steps (Step.toValues ss) = ss.map .ok := by
  match items, ss with
  | _, [] => rw [Step.toValues, steps, List.map_nil]
  | v :: rest, s :: more =>
      rw [steps, List.map_cons, List.cons.injEq] at h
      rw [Step.toValues, steps, rereads_step v s h.1, rereads_steps rest more h.2, List.map_cons]

end

theorem rereads_stepList : Rereads stepList fun ss => .list (Step.toValues ss) := by
  intro v ss h
  have again (items : List Value) (h : Checked.all (Checked.indexed 0 (steps items)) = .ok ss) :
      Checked.all (Checked.indexed 0 (steps (Step.toValues ss))) = .ok ss :=
    Checked.all_ok.mpr (Checked.indexed_ok.mpr
      (rereads_steps items ss (Checked.indexed_ok.mp (Checked.all_ok.mp h))))
  cases v with
  | list items => exact again items h
  | tuple items => exact again items h
  | _ => cases h

/-! ## Definitions -/

theorem rereads_outputs : Rereads (optional (dictionary anything)) (written .record) := by
  have values : Rereads (dictionary anything) .record := by
    intro v t h
    simpa using rereads_anything.dictionary v t h
  exact values.optional fun _ => record_ne_null

theorem rereads_loadedAt : Rereads (optional moment) (written .datetime) :=
  rereads_moment.optional fun _ => Value.noConfusion

/-- The fields of a definition, as they are written. -/
theorem definition_toValue_eq (d : Definition) : d.toValue = .record
    [("name", .str d.name), ("version", .ofText? d.version),
      ("description", .ofText? d.description),
      ("inputs", .record (d.inputs.map fun e => (e.1, e.2.toValue))),
      ("outputs", written .record d.outputs), ("trigger", d.trigger),
      ("steps", .list (Step.toValues d.steps)), ("source_path", .ofText? d.sourcePath),
      ("loaded_at", written .datetime d.loadedAt)] := by
  obtain ⟨name, version, description, inputs, outputs, trigger, steps, sourcePath, loadedAt⟩ := d
  cases outputs <;> cases loadedAt <;> rfl

theorem rereads_definition : Rereads definition Definition.toValue := by
  intro v d h
  cases v with
  | dict entries =>
      obtain ⟨⟨name, version, description, inputs, outputs, -, steps, sourcePath, loadedAt⟩,
        some_step⟩ := definition_fields.mp h
      rw [definition_toValue_eq, record_eq, definition_fields]
      refine ⟨⟨?_, ?_, ?_, ?_, ?_, ?_, ?_, ?_, ?_⟩, some_step⟩
      · exact field_record (by simp [Table.get?]) (rereads_text.required name)
      · exact field_record (by simp [Table.get?]) (rereads_version.field version rfl)
      · exact field_record (by simp [Table.get?]) (rereads_optionalText.field description rfl)
      · exact field_record (by simp [Table.get?]) (rereads_inputs.field inputs rfl)
      · exact field_record (by simp [Table.get?]) (rereads_outputs.field outputs rfl)
      · exact field_record (v := d.trigger) (by simp [Table.get?]) rfl
      · exact field_record (by simp [Table.get?]) (rereads_stepList.required steps)
      · exact field_record (by simp [Table.get?]) (rereads_optionalText.field sourcePath rfl)
      · exact field_record (by simp [Table.get?]) (rereads_loadedAt.field loadedAt rfl)
  | _ => cases h

/-- What is read of a definition, a step, an input or a retry block that was written out is
what was written. -/
theorem toValue_rereads :
    Rereads definition Definition.toValue ∧ Rereads step Step.toValue ∧
      Rereads input Input.toValue ∧ Rereads retryPolicy RetryPolicy.toValue :=
  ⟨rereads_definition, rereads_step, rereads_input, rereads_retryPolicy⟩

/-- A definition with a truth value for a number, a field of its own in a branch, and no inputs. -/
def draft : Value :=
  .record [("name", .str "draft"), ("inputs", .null),
    ("steps", .list [.record [("id", .str "ask"), ("type", .str "conditional"),
      ("if_true", .list [.record [("id", .str "tell"), ("type", .str "log"), ("note", .int 1),
        ("retry", .record [("attempts", .bool true)])]])]])]

theorem toValue_rereads_draft :
    ∃ d, definition draft = .ok d ∧ definition d.toValue = .ok d :=
  ⟨_, rfl, toValue_rereads.1 draft _ rfl⟩

end Schema

end Workflow
