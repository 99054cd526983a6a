import Workflow.Proofs.Reference.Alike

/-!
# Texts that stay as they are written

A text without tokens resolves to itself.  Marks and changes of values leave texts alone,
so a text that a configuration holds without tokens is still there when a step is run.
-/

namespace Workflow

/-- A value that is no changeable one, and if it is a text, one of a kind. -/
def Value.Plain (P : String -> Prop) : Value -> Prop
  | .str text => P text
  | .object .. => False
  | _ => True

namespace Reference

/-! ## Resolving -/

theorem pieces_cons (c : Char) (rest : List Char) :
    pieces (c :: rest) = match tokenAt? (c :: rest) with
      | some (inside, after) => .token inside :: pieces after
      | none => .char c :: pieces rest := by
  rw [pieces]
  split <;> simp only [*]

theorem pieces_of_tokenless (cs : List Char) (h : (pieces cs).filterMap Piece.path? = []) :
    pieces cs = cs.map Piece.char := by
  induction cs with
  | nil => rw [pieces]; rfl
  | cons c rest ih =>
      rw [pieces_cons] at h ⊢
      cases ht : tokenAt? (c :: rest) with
      | some token =>
          rw [ht] at h
          simp [Piece.path?] at h
      | none =>
          rw [ht] at h
          have hrest := ih (by simpa [Piece.path?] using h)
          simp only [hrest, List.map_cons]

theorem piecesText_chars (scope : Value) (cs : List Char) :
    piecesText scope (cs.map Piece.char) = pure cs := by
  induction cs with
  | nil => rfl
  | cons c rest ih => simp only [List.map_cons, piecesText, pieceText, ih, pure_bind]; rfl

theorem resolveText_of_tokenless (scope : Value) {text : String} (h : pathsOf text = []) :
    resolveText scope text = pure (.str text) := by
  rw [pathsOf_eq] at h
  have chars := pieces_of_tokenless text.toList h
  unfold resolveText
  rw [chars]
  split
  · next inside heq =>
      cases hs : text.toList with
      | nil => simp [hs] at heq
      | cons c rest => simp [hs] at heq
  · simp only [piecesText_chars, pure_bind, String.ofList_toList]

/-- A plain value that resolves to a text is this text. -/
theorem resolve_text {P : String -> Prop} {scope v : Value} {f g : Fresh} {text : String}
    (h : v.Plain fun t => pathsOf t = [] ∧ P t) (hr : resolve scope v f = .ok (.str text) g) :
    P text := by
  cases v with
  | str s =>
      simp only [resolve, resolveText_of_tokenless scope h.1] at hr
      cases hr
      exact h.2
  | object => exact h.elim
  | list items =>
      simp only [resolve, Bind.bind, EStateM.bind] at hr
      split at hr <;> cases hr
  | tuple items =>
      simp only [resolve, Bind.bind, EStateM.bind] at hr
      split at hr <;> cases hr
  | dict entries =>
      simp only [resolve, Bind.bind, EStateM.bind] at hr
      split at hr <;> cases hr
  | _ => cases hr

end Reference

/-- If there is a text under a name, it is of a kind. -/
def TextUnder (name : String) (P : String -> Prop) (entries : List (Value × Value)) : Prop :=
  ∀ text, Value.field? entries name = some (.str text) -> P text

variable {name : String} {P : String -> Prop}

theorem field?_cons (k v : Value) (rest : List (Value × Value)) (name : String) :
    (k = .str name ∧ Value.field? ((k, v) :: rest) name = some v) ∨
      (k ≠ .str name ∧ Value.field? ((k, v) :: rest) name = Value.field? rest name) := by
  cases k with
  | str key =>
      by_cases same : key = name
      · exact .inl ⟨same ▸ rfl, by simp only [Value.field?, same, if_true]⟩
      · refine .inr ⟨fun h => same (Value.str.inj h), ?_⟩
        simp only [Value.field?, same, if_false]
  | _ => exact .inr ⟨by simp, rfl⟩

theorem textUnder_cons {k v : Value} {rest : List (Value × Value)} :
    TextUnder name P ((k, v) :: rest) ↔
      (k = .str name -> ∀ text, v = .str text -> P text) ∧
        (k ≠ .str name -> TextUnder name P rest) := by
  unfold TextUnder
  rcases field?_cons k v rest name with ⟨hk, hf⟩ | ⟨hk, hf⟩
  · simp only [hf, Option.some.injEq]
    simp only [hk, forall_const, ne_eq, not_true_eq_false, false_implies, and_true]
  · simp only [hf, hk, false_implies, ne_eq, not_false_eq_true, forall_const, true_and]

theorem Reference.resolveEntries_textUnder {scope : Value} (entries : List (Value × Value))
    {others : List (Value × Value)} {f g : Fresh}
    (h : ∀ v, Value.field? entries name = some v -> v.Plain fun t => pathsOf t = [] ∧ P t)
    (hr : resolveEntries scope entries f = .ok others g) : TextUnder name P others := by
  induction entries generalizing others f with
  | nil => cases hr; intro _ hf; cases hf
  | cons e rest ih =>
      obtain ⟨k, v⟩ := e
      simp only [resolveEntries, Bind.bind, EStateM.bind] at hr
      cases hv : resolve scope v f with
      | error => rw [hv] at hr; cases hr
      | ok w f1 =>
          rw [hv] at hr
          cases hrest : resolveEntries scope rest f1 with
          | error => simp only [hrest] at hr; cases hr
          | ok more g1 =>
              simp only [hrest] at hr
              cases hr
              rw [textUnder_cons]
              rcases field?_cons k v rest name with ⟨hk, hf⟩ | ⟨hk, hf⟩
              · exact ⟨fun _ text hw => resolve_text (h v hf) (hw ▸ hv), fun hne => absurd hk hne⟩
              · exact ⟨fun he => absurd he hk, fun _ => ih (fun u hu => h u (hf ▸ hu)) hrest⟩

namespace Objects

/-! ## Marks and changes -/

theorem markFrom_text (added : Bool) (v : Value) (n : Nat) (text : String) :
    (markFrom added v n).1 = .str text ↔ v = .str text := by
  cases v <;> simp [markFrom]
  split <;> simp

theorem refreshWithin_text (o : Objects) (depth : Nat) (path : List Mark) (v : Value)
    (text : String) : o.refreshWithin depth path v = .str text ↔ v = .str text := by
  cases depth with
  | zero => rfl
  | succ depth =>
      cases v <;> simp [refreshWithin]
      split <;> simp

theorem refresh_text (o : Objects) (text : String) : o.refresh (.str text) = .str text := by
  unfold refresh
  split
  · rfl
  · exact (refreshWithin_text o _ _ _ text).mpr rfl

theorem markEntries_textUnder (added : Bool) {entries : List (Value × Value)} (n : Nat)
    (h : TextUnder name P entries) : TextUnder name P (markEntries added entries n).1 := by
  induction entries generalizing n with
  | nil => exact h
  | cons e rest ih =>
      obtain ⟨k, v⟩ := e
      simp only [markEntries]
      rw [textUnder_cons] at h ⊢
      simp only [ne_eq, markFrom_text]
      exact ⟨h.1, fun hne => ih _ (h.2 hne)⟩

theorem refresh_textUnder (o : Objects) {entries : List (Value × Value)}
    (h : TextUnder name P entries) :
    ∃ others, o.refresh (.dict entries) = .dict others ∧ TextUnder name P others := by
  unfold refresh
  split
  · exact ⟨entries, rfl, h⟩
  · refine ⟨_, rfl, ?_⟩
    induction entries with
    | nil => exact h
    | cons e rest ih =>
        obtain ⟨k, v⟩ := e
        rw [textUnder_cons] at h
        simp only [List.map_cons]
        rw [textUnder_cons]
        simp only [ne_eq, refreshWithin_text]
        exact ⟨h.1, fun hne => ih (h.2 hne)⟩

end Objects

end Workflow
