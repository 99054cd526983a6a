import Workflow.Proofs.Store.Refusal

/-!
# Loading a folder

The files of definitions in a folder are loaded one after another, in the order of their
names.  As long as they can be read, each of them ends in the result, as the name of what
was stored or as a path with a reason.  A file that cannot be read ends the load: what
was stored before it stays, and nothing is said of the files after it.
-/

namespace Workflow

/-! ## The files of definitions -/

namespace Path

theorem name_child (folder : Path) (name : String) : (folder.child name).name = name := by
  simp [Path.name, child]

end Path

namespace Files

theorem nodup_eraseDups {α : Type} [BEq α] [LawfulBEq α] (xs : List α) : xs.eraseDups.Nodup := by
  match xs with
  | [] => simp
  | x :: rest =>
      rw [List.eraseDups_cons, List.nodup_cons]
      exact ⟨by simp, nodup_eraseDups _⟩
termination_by xs.length
decreasing_by
  exact Nat.lt_succ_of_le (List.length_filter_le _ _)

theorem names_nodup (files : Files) (folder : Path) : (files.names folder).Nodup := by
  unfold names
  split
  · exact List.nodup_nil
  · exact nodup_eraseDups _

end Files

/-- What storing came to, apart from what is logged. -/
def Stored.outcome {α : Type} (x : Stored α) : Store × Except Raised α :=
  (x.store, x.result)

namespace Store

/-- Whether a path in a folder is the file of a definition. -/
def IsDefinitionFile (files : Files) (folder p : Path) : Prop :=
  (∃ name ∈ files.names folder, p = folder.child name) ∧ (∃ data, files.find? p = some (.file data)) ∧
    ∃ format, Format.ofSuffix? p.suffix = some format

theorem mem_definitionFiles {files : Files} {folder p : Path} :
    p ∈ definitionFiles files folder ↔ IsDefinitionFile files folder p := by
  have listed : p ∈ ((files.names folder).mergeSort (· ≤ ·)).map folder.child ↔
      ∃ name ∈ files.names folder, p = folder.child name := by
    simp [List.mem_mergeSort, eq_comm]
  unfold definitionFiles IsDefinitionFile
  rw [List.mem_filter, listed, Bool.and_eq_true, Option.isSome_iff_exists]
  refine and_congr_right fun _ => ?_
  rw [and_comm]
  refine and_congr_left fun _ => ?_
  split
  · next data found => simp [found]
  · next other =>
      constructor
      · intro h
        cases h
      · rintro ⟨data, found⟩
        exact absurd found (other data)

theorem names_sorted (files : Files) (folder : Path) :
    ((files.names folder).mergeSort (· ≤ ·)).Pairwise (· < ·) := by
  have trans (a b c : String) (hab : decide (a ≤ b) = true) (hbc : decide (b ≤ c) = true) :
      decide (a ≤ c) = true :=
    decide_eq_true (String.le_trans (of_decide_eq_true hab) (of_decide_eq_true hbc))
  have total (a b : String) : (decide (a ≤ b) || decide (b ≤ a)) = true := by
    simpa using String.le_total a b
  have sorted := List.pairwise_mergeSort trans total (files.names folder)
  have once := (List.mergeSort_perm (files.names folder) (· ≤ ·)).nodup_iff.mpr
    (files.names_nodup folder)
  refine (sorted.and once).imp fun {a b} h => ?_
  exact String.not_le.mp fun back => h.2 (String.le_antisymm (of_decide_eq_true h.1) back)

/-- The files of definitions are listed by name, each once. -/
theorem definitionFiles_sorted (files : Files) (folder : Path) :
    (definitionFiles files folder).Pairwise fun p q => p.name < q.name := by
  refine List.Pairwise.filter _ (List.pairwise_map.mpr ?_)
  refine (names_sorted files folder).imp fun h => ?_
  rw [Path.name_child, Path.name_child]
  exact h

/-! ## Loading files one after another -/

/-- Store definitions one after another. -/
def keepAll (s : Store) (now : DateTime) (ds : List Definition) : Store :=
  ds.foldl (fun s d => (s.keep now d).store) s

/-- The definitions of the files that load, in the order of the files. -/
def loadedFrom (env : Environment) (files : Files) (paths : List Path) : List Definition :=
  paths.filterMap fun p => (Loading.ofFile env files p).result.toOption

/-- Why a file is refused, if it is. -/
def refusal? (env : Environment) (files : Files) (path : Path) : Option (String × Error) :=
  match (Loading.ofFile env files path).result with
  | .error (.error e) => some (path.text, e)
  | _ => none

/-- The files that are refused with the reasons, in the order of the files. -/
def refusedFrom (env : Environment) (files : Files) (paths : List Path) : List (String × Error) :=
  paths.filterMap (refusal? env files)

section Files

variable {env : Environment} {files : Files} {now : DateTime} {s : Store} {done : FolderLoad}
  {path : Path} {rest : List Path}

/-- A file that loads is stored, and noted by the name of its definition. -/
theorem receiveFiles_cons_ok {d : Definition} (h : (Loading.ofFile env files path).result = .ok d) :
    (receiveFiles env files now s done (path :: rest)).outcome =
      (receiveFiles env files now (s.keep now d).store
        { done with loaded := done.loaded ++ [d.name] } rest).outcome := by
  simp [receiveFiles, receive, h, keep, Stored.outcome]

/-- A file that is refused changes nothing, and is noted by its path. -/
theorem receiveFiles_cons_refused {e : Error}
    (h : (Loading.ofFile env files path).result = .error (.error e)) (about : isLoadError e = true) :
    (receiveFiles env files now s done (path :: rest)).outcome =
      (receiveFiles env files now s
        { done with errors := done.errors ++ [(path.text, e)] } rest).outcome := by
  simp [receiveFiles, receive, h, about, Stored.outcome]

/-- A fault of a file ends the load. -/
theorem receiveFiles_cons_fault {f : Fault}
    (h : (Loading.ofFile env files path).result = .error (.fault f)) :
    (receiveFiles env files now s done (path :: rest)).outcome = (s, .error (.fault f)) := by
  simp [receiveFiles, receive, h, Stored.outcome]

/-- Files that can be read are passed, and what follows them starts from what they left. -/
theorem receiveFiles_append {front : List Path} (back : List Path)
    (legible : ∀ p ∈ front, Loading.Legible env files p) :
    (receiveFiles env files now s done (front ++ back)).outcome =
      (receiveFiles env files now (s.keepAll now (loadedFrom env files front))
        ⟨done.loaded ++ (loadedFrom env files front).map Definition.name,
          done.errors ++ refusedFrom env files front⟩ back).outcome := by
  induction front generalizing s done with
  | nil => simp [loadedFrom, refusedFrom, keepAll]
  | cons p rest ih =>
      have later : ∀ q ∈ rest, Loading.Legible env files q := fun q hq =>
        legible q (List.mem_cons_of_mem p hq)
      rw [List.cons_append]
      cases hr : (Loading.ofFile env files p).result with
      | ok d =>
          rw [receiveFiles_cons_ok hr, ih later]
          simp [loadedFrom, refusedFrom, refusal?, hr, Except.toOption, keepAll]
      | error r =>
          obtain ⟨e, rfl, about⟩ := (legible p List.mem_cons_self).refusal hr
          rw [receiveFiles_cons_refused hr about, ih later]
          simp [loadedFrom, refusedFrom, refusal?, hr, Except.toOption]

/-- Files that can all be read are accounted for by what was stored and by the refusals. -/
theorem receiveFiles_of_legible {paths : List Path}
    (legible : ∀ p ∈ paths, Loading.Legible env files p) :
    (receiveFiles env files now s done paths).outcome =
      (s.keepAll now (loadedFrom env files paths),
        .ok ⟨done.loaded ++ (loadedFrom env files paths).map Definition.name,
          done.errors ++ refusedFrom env files paths⟩) := by
  have passed : (receiveFiles env files now s done (paths ++ [])).outcome = _ :=
    receiveFiles_append [] legible
  rw [List.append_nil] at passed
  rw [passed]
  rfl

/-- The first file that cannot be read ends the load. -/
theorem receiveFiles_of_not_legible {front back : List Path}
    (legible : ∀ p ∈ front, Loading.Legible env files p) (stuck : ¬ Loading.Legible env files path) :
    ∃ f, (receiveFiles env files now s done (front ++ path :: back)).outcome =
      (s.keepAll now (loadedFrom env files front), .error (.fault f)) := by
  obtain ⟨f, hf⟩ := Loading.ofFile_of_not_legible stuck
  exact ⟨f, by rw [receiveFiles_append _ legible, receiveFiles_cons_fault hf]⟩

/-- A list of files can be read as a whole, or up to a first one that cannot. -/
theorem legible_or_split (env : Environment) (files : Files) (paths : List Path) :
    (∀ p ∈ paths, Loading.Legible env files p) ∨
      ∃ front path back, paths = front ++ path :: back ∧
        (∀ p ∈ front, Loading.Legible env files p) ∧ ¬ Loading.Legible env files path := by
  induction paths with
  | nil => exact .inl (by simp)
  | cons p rest ih =>
      by_cases hp : Loading.Legible env files p
      · rcases ih with all | ⟨front, path, back, rfl, before, stuck⟩
        · exact .inl (by simpa [hp] using all)
        · exact .inr ⟨p :: front, path, back, rfl, by simpa [hp] using before, stuck⟩
      · exact .inr ⟨[], p, rest, rfl, by simp, hp⟩

end Files

/-! ## The whole folder -/

/-- A folder load speaks of some files: of each once, by what was stored or by its path. -/
structure Accounts (f : FolderLoad) (env : Environment) (files : Files) (paths : List Path) :
    Prop where
  loaded : f.loaded = (loadedFrom env files paths).map Definition.name
  errors : f.errors = refusedFrom env files paths
  once : f.loaded.length + f.errors.length = paths.length

/-- A file that can be read is loaded or refused, and not both. -/
theorem length_loadedFrom_add_refusedFrom {env : Environment} {files : Files} {paths : List Path}
    (legible : ∀ p ∈ paths, Loading.Legible env files p) :
    (loadedFrom env files paths).length + (refusedFrom env files paths).length = paths.length := by
  induction paths with
  | nil => rfl
  | cons p rest ih =>
      have later := ih fun q hq => legible q (List.mem_cons_of_mem p hq)
      cases hr : (Loading.ofFile env files p).result with
      | ok d =>
          have kept : loadedFrom env files (p :: rest) = d :: loadedFrom env files rest :=
            List.filterMap_cons_some (by rw [hr]; rfl)
          have passed : refusedFrom env files (p :: rest) = refusedFrom env files rest :=
            List.filterMap_cons_none (by simp [refusal?, hr])
          simp only [kept, passed, List.length_cons]
          omega
      | error r =>
          obtain ⟨e, rfl, _⟩ := (legible p List.mem_cons_self).refusal hr
          have passed : loadedFrom env files (p :: rest) = loadedFrom env files rest :=
            List.filterMap_cons_none (by rw [hr]; rfl)
          have noted : refusedFrom env files (p :: rest) =
              (p.text, e) :: refusedFrom env files rest :=
            List.filterMap_cons_some (by simp [refusal?, hr])
          simp only [passed, noted, List.length_cons]
          omega

theorem outcome_receiveFolder {files : Files} {folder : Path}
    (h : files.find? folder = some .folder) (env : Environment) (now : DateTime) (s : Store) :
    (s.receiveFolder env files now folder).outcome =
      (receiveFiles env files now s .empty (definitionFiles files folder)).outcome := by
  simp only [receiveFolder, h]
  split <;> rfl

/--
Loading a folder goes through its files of definitions by name, each once.  It returns
exactly when all of them can be read; then it speaks of all of them, and what they hold
was stored one after another.  Otherwise it ends at the first file that cannot be read,
with what was stored before.
-/
theorem receiveFolder_accounts {env : Environment} {files : Files} {now : DateTime} {s : Store}
    {folder : Path} (h : files.find? folder = some .folder) :
    let paths := definitionFiles files folder
    let all := s.receiveFolder env files now folder
    (∀ p, p ∈ paths ↔ IsDefinitionFile files folder p) ∧
    (paths.Pairwise fun p q => p.name < q.name) ∧
    ((∃ f, all.result = .ok f) ↔ ∀ p ∈ paths, Loading.Legible env files p) ∧
    (∀ f, all.result = .ok f -> Accounts f env files paths ∧
      all.store = s.keepAll now (loadedFrom env files paths)) ∧
    (∀ r, all.result = .error r -> ∃ front p back, paths = front ++ p :: back ∧
      (∀ q ∈ front, Loading.Legible env files q) ∧ ¬ Loading.Legible env files p ∧
      all.store = s.keepAll now (loadedFrom env files front)) := by
  intro paths all
  have ended : all.outcome = _ := outcome_receiveFolder h env now s
  refine ⟨fun p => mem_definitionFiles, definitionFiles_sorted files folder, ?_⟩
  rcases legible_or_split env files paths with legible | ⟨front, p, back, split, before, stuck⟩
  · rw [receiveFiles_of_legible legible] at ended
    obtain ⟨store, result⟩ := Prod.mk.inj ended
    simp only [FolderLoad.empty, List.nil_append] at store result
    refine ⟨⟨fun _ => legible, fun _ => ⟨_, result⟩⟩, fun f hf => ?_, fun r hr => ?_⟩
    · rw [result] at hf
      cases hf
      refine ⟨⟨rfl, rfl, ?_⟩, store⟩
      rw [List.length_map]
      exact length_loadedFrom_add_refusedFrom legible
    · rw [result] at hr
      cases hr
  · have stopped : ∃ f, (receiveFiles env files now s .empty (front ++ p :: back)).outcome =
        (s.keepAll now (loadedFrom env files front), .error (.fault f)) :=
      receiveFiles_of_not_legible before stuck
    rw [← split] at stopped
    obtain ⟨f, hf⟩ := stopped
    rw [hf] at ended
    obtain ⟨store, result⟩ := Prod.mk.inj ended
    refine ⟨⟨fun ⟨g, hg⟩ => ?_, fun legible => ?_⟩, fun g hg => ?_, fun r _ => ?_⟩
    · rw [result] at hg
      cases hg
    · exact absurd (legible p (by rw [split]; simp)) stuck
    · rw [result] at hg
      cases hg
    · exact ⟨front, p, back, split, before, stuck, store⟩

/-- The bytes of a definition with one step. -/
def shortDefinition : List UInt8 :=
  "\x7b\"name\": \"b\", \"steps\": [\x7b\"id\": \"x\", \"type\": \"output\"\x7d]\x7d".toUTF8.toList

/-- A folder with a file that holds a definition, behind one that holds some other bytes. -/
def besides (data : List UInt8) : Files :=
  ⟨⟨"/", ["home"]⟩, [(["home", "flows", "a.yaml"], .file data),
    (["home", "flows", "b.json"], .file shortDefinition), (["home", "flows", "c.txt"], .file [])]⟩

theorem definitionFiles_besides (data : List UInt8) :
    definitionFiles (besides data) (.ofText "flows") =
      [.ofText "flows/a.yaml", .ofText "flows/b.json"] := by
  have names : (besides data).names (.ofText "flows") = ["a.yaml", "b.json", "c.txt"] := by
    rfl
  have sorted : (["a.yaml", "b.json", "c.txt"] : List String).mergeSort (· ≤ ·) =
      ["a.yaml", "b.json", "c.txt"] := List.mergeSort_of_pairwise (by decide)
  rw [definitionFiles, names, sorted]
  rfl

/-- What loading the folder at one time comes to. -/
theorem outcome_besides (data : List UInt8) :
    (receiveFolder [] (besides data) ⟨⟨2024, 1, 2⟩, 3, 4, 5, 0, none⟩ [] (.ofText "flows")).outcome =
      (receiveFiles [] (besides data) ⟨⟨2024, 1, 2⟩, 3, 4, 5, 0, none⟩ [] .empty
        [.ofText "flows/a.yaml", .ofText "flows/b.json"]).outcome := by
  have folder : (besides data).find? (.ofText "flows") = some .folder := rfl
  rw [outcome_receiveFolder folder, definitionFiles_besides]

theorem receiveFolder_accounts_besides :
    (besides []).find? (.ofText "flows") = some .folder ∧
      ∃ f, (receiveFolder [] (besides []) ⟨⟨2024, 1, 2⟩, 3, 4, 5, 0, none⟩ []
          (.ofText "flows")).result = .ok f ∧
        f.loaded = ["b"] ∧ f.errors.map (·.1) = ["flows/a.yaml"] ∧
        Accounts f [] (besides []) (definitionFiles (besides []) (.ofText "flows")) := by
  have folder : (besides []).find? (.ofText "flows") = some .folder := rfl
  have ended : (receiveFiles [] (besides []) ⟨⟨2024, 1, 2⟩, 3, 4, 5, 0, none⟩ [] .empty
      [.ofText "flows/a.yaml", .ofText "flows/b.json"]).outcome.2.toOption.map
        (fun f => (f.loaded, f.errors.map (·.1))) = some (["b"], ["flows/a.yaml"]) := by
    decide +kernel
  rw [← outcome_besides] at ended
  cases hr : (receiveFolder [] (besides []) ⟨⟨2024, 1, 2⟩, 3, 4, 5, 0, none⟩ []
      (.ofText "flows")).result with
  | error r => simp [Stored.outcome, hr, Except.toOption] at ended
  | ok f =>
      have both : f.loaded = ["b"] ∧ f.errors.map (·.1) = ["flows/a.yaml"] := by
        simpa [Stored.outcome, hr, Except.toOption] using ended
      exact ⟨folder, f, rfl, both.1, both.2, ((receiveFolder_accounts folder).2.2.2.1 f hr).1⟩

/-- A file whose bytes are no text keeps the definition behind it from being stored. -/
theorem receiveFolder_stops :
    (besides [0xff]).find? (.ofText "flows") = some .folder ∧
      ((Loading.ofFile [] (besides [0xff]) (.ofText "flows/b.json")).result.toOption.map
        Definition.name) = some "b" ∧
      (∀ f, (receiveFolder [] (besides [0xff]) ⟨⟨2024, 1, 2⟩, 3, 4, 5, 0, none⟩ []
        (.ofText "flows")).result ≠ .ok f) ∧
      (receiveFolder [] (besides [0xff]) ⟨⟨2024, 1, 2⟩, 3, 4, 5, 0, none⟩ []
        (.ofText "flows")).store.get? "b" = none := by
  have ended : let all := (receiveFiles [] (besides [0xff]) ⟨⟨2024, 1, 2⟩, 3, 4, 5, 0, none⟩ []
      .empty [.ofText "flows/a.yaml", .ofText "flows/b.json"]).outcome
    all.2.toOption.isNone = true ∧ (all.1.get? "b").isNone = true := by decide +kernel
  rw [← outcome_besides] at ended
  refine ⟨rfl, by decide +kernel, fun f hf => ?_, Option.isNone_iff_eq_none.mp ended.2⟩
  simp [Stored.outcome, hf, Except.toOption] at ended

end Store

end Workflow
