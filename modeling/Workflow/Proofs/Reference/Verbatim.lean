import Workflow.Proofs.Json.Writable
import Workflow.Proofs.Reference.Following
import Workflow.Proofs.Reference.Splitting

/-!
# What resolving leaves alone, and where it fails

A token whose path leads nowhere is left as it is written, alone or in other text.  There is
a result unless a sequence is read at a place whose number is none, or a value that is put
in other text cannot be written.
-/

namespace Workflow

open Effect (bind_ok ok_bind)

namespace Reference

variable {scope : Value}

/-! ## Values in other text -/

/-- A value that has a text inside of other text. -/
def Inlines (v : Value) : Prop :=
  match v.bare with
  | .str _ => True
  | .markup _ => True
  | .null => Json.Writable 0 v
  | .bool _ => Json.Writable 0 v
  | .dict _ => Json.Writable 0 v
  | .list _ => Json.Writable 0 v
  | .tuple _ => Json.Writable 0 v
  | _ => ∃ text, v.textOf = .ok text

theorem inlineText_iff (v : Value) : (∃ text, inlineText v = .ok text) ↔ Inlines v := by
  have written : (∃ text, Json.write Json.lineStyle v = .ok text) ↔ Json.Writable 0 v :=
    Json.okIff_writeAt v 0
  unfold inlineText Inlines
  cases v.bare with
  | str s => exact iff_of_true ⟨s, rfl⟩ trivial
  | markup s => exact iff_of_true ⟨s, rfl⟩ trivial
  | null => exact written
  | bool b => exact written
  | dict entries => exact written
  | list items => exact written
  | tuple items => exact written
  | _ => exact Iff.rfl

theorem shows_iff_inlines {path : String} : Shows scope path ↔ isDrawn path = true ∨
    ∀ v, lookup? scope path = .ok (some v) -> Inlines v := by
  simp only [shows_iff, inlineText_iff]

/-! ## Tokens in other text -/

theorem piecesText_append {ps qs : List Piece} {cs : List Char} {f g : Fresh}
    (h : piecesText scope (ps ++ qs) f = .ok cs g) :
    ∃ before after t, piecesText scope ps f = .ok before t ∧ piecesText scope qs t = .ok after g ∧
      cs = before ++ after := by
  induction ps generalizing cs f with
  | nil => exact ⟨[], cs, f, rfl, h, rfl⟩
  | cons p rest ih =>
      obtain ⟨front, t, here, later⟩ := bind_ok h
      obtain ⟨back, u, behind, ended⟩ := bind_ok later
      cases ended
      obtain ⟨before, after, w, first, last, rfl⟩ := ih behind
      have joined : piecesText scope (p :: rest) f = .ok (front ++ before) w :=
        ok_bind here (ok_bind first rfl)
      exact ⟨front ++ before, after, w, joined, last, (List.append_assoc ..).symm⟩

theorem valueAt?_of_stops {path : String} (looked : isDrawn path = false)
    (stops : Stops scope path) (f : Fresh) : valueAt? scope path f = .ok none f := by
  rw [valueAt?_of_not_drawn looked, lookup?_none_iff.mpr stops]
  rfl

/-- A token whose path leads nowhere stays, between what takes the place of the rest. -/
theorem resolve_stays {s : String} {front back : List Piece} {inside : List Char} {w : Value}
    {f g : Fresh} (cut : pieces s.toList = front ++ .token inside :: back)
    (looked : isDrawn (pathOf inside) = false) (stops : Stops scope (pathOf inside))
    (h : resolve scope (.str s) f = .ok w g) :
    ∃ before after t, piecesText scope front f = .ok before t ∧
      piecesText scope back t = .ok after g ∧
      w = .str (String.ofList (before ++ written inside ++ after)) := by
  have nowhere := valueAt?_of_stops looked stops
  by_cases alone : ∃ inside, pieces s.toList = [.token inside]
  · obtain ⟨single, alone⟩ := alone
    have whole : s.toList = written single := by
      have chars := (cut_iff.mpr alone).chars
      rwa [List.flatMap_singleton, eq_comm] at chars
    rw [resolve, resolveText_alone alone] at h
    rw [cut] at alone
    cases front with
    | cons p rest => cases rest <;> cases alone
    | nil =>
        cases alone
        obtain ⟨found, t, looked, ended⟩ := bind_ok h
        rw [nowhere] at looked
        cases looked
        cases ended
        exact ⟨[], [], f, rfl, rfl, by rw [← String.ofList_toList (s := s), whole]; simp⟩
  · have several : ∀ inside, pieces s.toList ≠ [.token inside] := fun inside same =>
      alone ⟨inside, same⟩
    rw [resolve, resolveText_mixed several, cut] at h
    obtain ⟨cs, t, filled, ended⟩ := bind_ok h
    cases ended
    obtain ⟨before, rest, u, first, last, rfl⟩ := piecesText_append filled
    obtain ⟨here, z, kept, later⟩ := bind_ok last
    obtain ⟨after, z', behind, ended⟩ := bind_ok later
    cases ended
    have kept : here = written inside ∧ z = u := by
      simp only [pieceText, Bind.bind, EStateM.bind, nowhere] at kept
      cases kept
      exact ⟨rfl, rfl⟩
    obtain ⟨rfl, rfl⟩ := kept
    exact ⟨before, after, z, first, behind, by rw [List.append_assoc]⟩

/-! ## Results -/

/--
There is a result exactly if no path of a token falls over a number that is none, and each
value that is put in other text can be written.  A path leads nowhere exactly if it ends
early, and a token with such a path stays as it is written.
-/
theorem resolve_returns (v : Value) (f : Fresh) :
    ((∃ w g, resolve scope v f = .ok w g) ↔ ∀ s ∈ v.texts,
        (∀ path ∈ pathsOf s, isDrawn path = true ∨ ¬ Falls scope path) ∧
        ∀ path ∈ embedded s, isDrawn path = true ∨
          ∀ x, lookup? scope path = .ok (some x) -> Inlines x) ∧
      (∀ path, lookup? scope path = .ok none ↔ Stops scope path) ∧
      ∀ s front inside back, pieces s.toList = front ++ .token inside :: back ->
        isDrawn (pathOf inside) = false -> Stops scope (pathOf inside) ->
        ∀ w g, resolve scope (.str s) f = .ok w g ->
          ∃ before after t, piecesText scope front f = .ok before t ∧
            piecesText scope back t = .ok after g ∧
            w = .str (String.ofList (before ++ written inside ++ after)) := by
  refine ⟨(returnsIff_resolve v f).trans ?_, fun path => lookup?_none_iff, ?_⟩
  · simp only [Readable, looks_iff, shows_iff_inlines]
  · exact fun s front inside back cut looked stops w g h => resolve_stays cut looked stops h

/-- A scope with one input, which is a list. -/
def listScope : Value :=
  .dict [(.str "inputs", .dict [(.str "xs", .list [.int 1])])]

/-- A token that names a place beyond the end of a list. -/
def beyondEnd : String :=
  "<\x7b\x7b inputs.xs.7 \x7d\x7d>"

/-- A token that names a place in a list by a digit which is not decimal. -/
def squaredPlace : String :=
  "\x7b\x7b inputs.xs.\u00b2 \x7d\x7d"

theorem stops_beyondEnd : Stops listScope "inputs.xs.7" := by
  have cut : segments "inputs.xs.7" = ["inputs", "xs", "7"] := by decide +kernel
  have read : Number.readInt 10 "7" = .value 7 := by decide +kernel
  have signs : "7".toList.all Text.isDigitSign = true := by decide +kernel
  have position : position? "7" = .ok (some 7) :=
    position?_of_value (by decide) (List.all_eq_true.mp signs) read
  rw [Stops, cut]
  exact .there rfl (.there rfl (.here (.beyond (.inl rfl) position (by decide))))

/-- A place beyond the end stays as it is written. -/
theorem resolve_returns_beyond :
    ∃ g, resolve listScope (.str beyondEnd) morning = .ok (.str beyondEnd) g := by
  have nowhere := lookup?_none_iff.mpr stops_beyondEnd
  have cut : pieces beyondEnd.toList =
      [.char '<'] ++ .token " inputs.xs.7 ".toList :: [.char '>'] := by decide +kernel
  have paths : pathsOf beyondEnd = ["inputs.xs.7"] := by decide +kernel
  have put : embedded beyondEnd = ["inputs.xs.7"] := by decide +kernel
  have path : pathOf " inputs.xs.7 ".toList = "inputs.xs.7" := by decide +kernel
  obtain ⟨returns, -, stays⟩ := @resolve_returns listScope (.str beyondEnd) morning
  have followed : ¬ Falls listScope "inputs.xs.7" := fun falls => by
    obtain ⟨e, failed⟩ := descend?_error_iff.mpr falls
    rw [lookup?, failed] at nowhere
    cases nowhere
  obtain ⟨w, g, resolved⟩ := returns.mpr (by
    simp [Value.texts, paths, put, followed, nowhere])
  obtain ⟨before, after, t, first, last, rfl⟩ :=
    stays _ _ _ _ cut (by rw [path]; rfl) (path ▸ stops_beyondEnd) w g resolved
  cases first
  cases last
  exact ⟨_, resolved⟩

/-- Data without a result: the digit is none that an integer is read from. -/
theorem resolve_falls : resolve listScope (.str squaredPlace) morning =
    .error (.badValue "invalid literal for int() with base 10: '\u00b2'") morning := by
  have cut : pieces squaredPlace.toList = [.token " inputs.xs.\u00b2 ".toList] := by decide +kernel
  have path : pathOf " inputs.xs.\u00b2 ".toList = "inputs.xs.\u00b2" := by decide +kernel
  have split : segments "inputs.xs.\u00b2" = ["inputs", "xs", "\u00b2"] := by decide +kernel
  have read : Number.readInt 10 "\u00b2" = .invalid := by decide +kernel
  have shown : ((Value.str "\u00b2").literal.take 200).toString = "'\u00b2'" := by decide +kernel
  have position : position? "\u00b2" =
      .error (.badValue "invalid literal for int() with base 10: '\u00b2'") := by
    have signs : "\u00b2".toList.all Text.isDigitSign = true := by decide +kernel
    rewrite [position?_of_signs (by decide) (List.all_eq_true.mp signs), Value.intOfText, read,
      shown]
    rfl
  have inputs : child? listScope "inputs" = .ok (some (.dict [(.str "xs", .list [.int 1])])) := rfl
  have xs : child? (.dict [(.str "xs", .list [.int 1])]) "xs" = .ok (some (.list [.int 1])) := rfl
  have place : child? (.list [.int 1]) "\u00b2" =
      .error (.badValue "invalid literal for int() with base 10: '\u00b2'") := by
    rw [child?_sequence (.inl rfl), position]
    rfl
  have failed : lookup? listScope "inputs.xs.\u00b2" =
      .error (.badValue "invalid literal for int() with base 10: '\u00b2'") := by
    simp only [lookup?, split, descend?_cons, inputs, xs, place]
  rw [resolve, resolveText_alone cut, path, valueAt?_of_not_drawn rfl, failed]
  rfl

end Reference

end Workflow
