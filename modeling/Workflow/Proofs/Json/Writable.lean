import Workflow.Proofs.Json.RoundTrip

/-!
# What can be written as JSON

A value is written on one line unless it holds an integer that is too long, a key that is
no name, or values that lie too deep.
-/

namespace Workflow

namespace Json

/-- A key that an object can have: a text, or what is written as one. -/
def IsKey (k : Value) : Prop :=
  match k.bare with
  | .str _ => True
  | .markup _ => True
  | .float _ => True
  | .bool _ => True
  | .null => True
  | .int n => (Value.int n).exceedsDigits = false
  | _ => False

mutual

/-- What can be written on one line at a level of nesting. -/
def Writable (level : Nat) : Value -> Prop
  | .str _ => True
  | .markup _ => True
  | .null => True
  | .bool _ => True
  | .float _ => True
  | .int n => (Value.int n).exceedsDigits = false
  | .list items => level < maxNesting ∧ AllWritable (level + 1) items
  | .tuple items => level < maxNesting ∧ AllWritable (level + 1) items
  | .dict entries => level < maxNesting ∧ MembersWritable (level + 1) entries
  | .object _ (.foreign _) => False
  | .object _ content => Writable level content
  | v => level < maxNesting ∧ ∃ text, v.textOf = .ok text

/-- All items can be written. -/
def AllWritable (level : Nat) : List Value -> Prop
  | [] => True
  | x :: rest => Writable level x ∧ AllWritable level rest

/-- All keys are names, and all values can be written. -/
def MembersWritable (level : Nat) : List (Value × Value) -> Prop
  | [] => True
  | (k, v) :: rest => (IsKey k ∧ Writable level v) ∧ MembersWritable level rest

end

/-! ## Outcomes -/

/-- There is a result exactly if something holds. -/
def OkIff {α : Type} (r : Outcome α) (P : Prop) : Prop :=
  (∃ a, r = .ok a) ↔ P

namespace OkIff

variable {α β : Type} {r : Outcome α} {P Q : Prop}

theorem ok (a : α) (h : P) : OkIff (.ok a) P :=
  iff_of_true ⟨a, rfl⟩ h

theorem error (e : Fault) (h : ¬ P) : OkIff (.error e : Outcome α) P :=
  iff_of_false nofun h

theorem bind {k : α -> Outcome β} (hr : OkIff r P) (hk : ∀ a, OkIff (k a) Q) :
    OkIff (r >>= k) (P ∧ Q) := by
  cases r with
  | ok a =>
      have held : P := hr.mp ⟨a, rfl⟩
      exact (hk a).trans (and_iff_right held).symm
  | error e =>
      have not : ¬ P := fun held => nomatch hr.mpr held
      exact iff_of_false nofun fun h => not h.1

theorem map (hr : OkIff r P) (f : α -> β) : OkIff (do .ok (f (<- r))) P :=
  (hr.bind fun a => ok (f a) trivial).trans (and_iff_left trivial)

theorem nested {r : Outcome String} (hr : OkIff r P) (level : Nat) :
    OkIff (Json.nested lineStyle level r) (level < maxNesting ∧ P) := by
  unfold Json.nested
  split
  · next deep => exact .error _ fun h => absurd h.1 (Nat.not_lt.mpr deep)
  · next flat => exact hr.trans (and_iff_right (Nat.lt_of_not_le flat)).symm

end OkIff

/-- An integer is written unless it is too long. -/
theorem okIff_number (n : Int) :
    OkIff (if (Value.int n).exceedsDigits then .error Value.tooManyDigits else .ok (toString n))
      ((Value.int n).exceedsDigits = false) := by
  cases long : (Value.int n).exceedsDigits with
  | true => exact .error _ nofun
  | false => exact .ok _ rfl

theorem okIff_keyText (k : Value) : OkIff (keyText k) (IsKey k) := by
  unfold keyText IsKey
  cases k.bare with
  | int n => exact okIff_number n
  | bool b => cases b <;> exact .ok _ trivial
  | str s => exact .ok _ trivial
  | markup s => exact .ok _ trivial
  | float x => exact .ok _ trivial
  | null => exact .ok _ trivial
  | _ => exact .error _ id

/-- The texts of members, one after another. -/
theorem memberTexts_member (level : Nat) (k v : Value) (rest : List (Value × Value)) :
    memberTexts level ((k, v) :: rest) =
      (do
        let name <- keyText k
        let text <- writeAt lineStyle level v
        .ok ((quote true name ++ ": " ++ text) :: (<- memberTexts level rest))) := by
  simp only [memberTexts, writeMembers, List.map_cons, List.mapM_cons, id]
  cases keyText k with
  | error e => rfl
  | ok name =>
      cases writeAt lineStyle level v with
      | error e => rfl
      | ok text =>
          cases ((writeMembers lineStyle level rest).map Prod.snd).mapM id with
          | error e => rfl
          | ok members => rfl

mutual

/-- A value has a text on one line exactly if it can be written. -/
theorem okIff_writeAt (v : Value) (level : Nat) :
    OkIff (writeAt lineStyle level v) (Writable level v) := by
  match v with
  | .str s => exact .ok _ trivial
  | .markup s => exact .ok _ trivial
  | .null => exact .ok _ trivial
  | .bool true => exact .ok _ trivial
  | .bool false => exact .ok _ trivial
  | .float x => exact .ok _ trivial
  | .int n => exact okIff_number n
  | .list items => exact ((okIff_writeItems items (level + 1)).map _).nested level
  | .tuple items => exact ((okIff_writeItems items (level + 1)).map _).nested level
  | .dict entries =>
      rw [writeAt_dict]
      exact ((okIff_memberTexts entries (level + 1)).map _).nested level
  | .object mark content =>
      have inner := okIff_writeAt content level
      cases content with
      | foreign kind => exact .error _ id
      | _ => exact inner
  | .sealed _ | .set _ | .bytes _ | .datetime _ | .date _ | .complex .. | .span _ | .function _
  | .converter _ | .method .. | .view .. | .range .. | .undefined .. | .stream .. | .slot ..
  | .foreign _ => exact (OkIff.map (r := Value.textOf _) Iff.rfl _).nested level

theorem okIff_writeItems (items : List Value) (level : Nat) :
    OkIff (writeItems lineStyle level items) (AllWritable level items) := by
  match items with
  | [] => exact .ok _ trivial
  | x :: rest =>
      exact (okIff_writeAt x level).bind fun text => (okIff_writeItems rest level).map (text :: ·)

theorem okIff_memberTexts (entries : List (Value × Value)) (level : Nat) :
    OkIff (memberTexts level entries) (MembersWritable level entries) := by
  match entries with
  | [] => exact .ok _ trivial
  | (k, v) :: rest =>
      rw [memberTexts_member, MembersWritable, and_assoc]
      exact (okIff_keyText k).bind fun name => (okIff_writeAt v level).bind fun text =>
        (okIff_memberTexts rest level).map _

end

end Json

end Workflow
