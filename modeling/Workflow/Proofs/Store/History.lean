import Mathlib.Data.List.Induction
import Mathlib.Data.Nat.Find
import Workflow.Store

/-!
# A store and its history

What a store holds is told by what was done with it: under each name the definition that
was stored last, unless it was removed or all were cleared since.  The names are listed in
the order in which they came in, counted anew after a removal, and storing under a name
that is there does not change its place.  What was refused counts for nothing.
-/

namespace Workflow

namespace Store

/-- Where a definition is loaded from. -/
inductive Source where
  | text (format : Option Format) (content : String)
  /-- The entries of a dictionary. -/
  | mapping (entries : List (Value × Value))
  | file (path : Path)

/-- What loading comes to in an environment with some files. -/
def Source.loaded (env : Environment) (files : Files) : Source -> Loading.Loaded
  | .text format content => Loading.ofText env format none content
  | .mapping entries => Loading.ofValue env none (.dict entries)
  | .file path => Loading.ofFile env files path

/-- What can be done with a store. -/
inductive Action where
  | put (d : Definition)
  | load (source : Source) (env : Environment) (files : Files)
  | remove (name : String)
  | clear

/-- What an action answers. -/
inductive Answer where
  | stored (d : Definition)
  /-- Whether there was something to remove. -/
  | removed (there : Bool)
  | cleared

/-- Do something with a store at some time. -/
def perform (s : Store) (now : DateTime) : Action -> Store × Except Raised Answer
  | .put d => ((s.keep now d).store, (s.keep now d).result.map .stored)
  | .load source env files =>
      let stored := s.receive now (source.loaded env files)
      (stored.store, stored.result.map .stored)
  | .remove name => (s.erase name, .ok (.removed (s.has name)))
  | .clear => ([], .ok .cleared)

/-- What was done with a store, each time with the time. -/
abbrev History := List (DateTime × Action)

/-- The store that a history leaves of an empty one. -/
def after (h : History) : Store :=
  h.foldl (fun s t => (s.perform t.1 t.2).1) []

/-- The definition as it stands in a store from some time on. -/
def stamped (now : DateTime) (d : Definition) : Definition :=
  { d with loadedAt := some now }

/-- The definition that an action stores, unless it is refused. -/
def stored? (t : DateTime × Action) : Option Definition :=
  match t.2 with
  | .put d => some (stamped t.1 d)
  | .load source env files => ((source.loaded env files).result.toOption).map (stamped t.1)
  | _ => none

/-- An action stores a definition under a name. -/
def Puts (t : DateTime × Action) (name : String) : Prop :=
  ∃ d, stored? t = some d ∧ d.name = name

/-- An action removes what is stored under a name. -/
def Drops (t : DateTime × Action) (name : String) : Prop :=
  t.2 = .remove name ∨ t.2 = .clear

/-- The definition that was stored last under a name, and was not removed since. -/
def Latest (h : History) (name : String) (d : Definition) : Prop :=
  ∃ (i : Nat) (t : DateTime × Action), h[i]? = some t ∧ stored? t = some d ∧ d.name = name ∧
    ∀ (j : Nat) (u : DateTime × Action), i < j -> h[j]? = some u -> ¬ Puts u name ∧ ¬ Drops u name

/-- The time at which a name came in: first after it was last removed. -/
def Arrives (h : History) (name : String) (i : Nat) : Prop :=
  (∃ t, h[i]? = some t ∧ Puts t name) ∧
    (∀ (j : Nat) (t : DateTime × Action), i < j -> h[j]? = some t -> ¬ Drops t name) ∧
    ∀ (j : Nat) (t : DateTime × Action), j < i -> h[j]? = some t -> Puts t name ->
      ∃ (k : Nat) (u : DateTime × Action), j < k ∧ k < i ∧ h[k]? = some u ∧ Drops u name

variable {s : Store} {h : History} {t u : DateTime × Action} {name : String} {d : Definition}

/-! ## One more action -/

theorem getElem?_snoc {α : Type} {xs : List α} {x y : α} {i : Nat} :
    (xs ++ [x])[i]? = some y ↔ xs[i]? = some y ∨ i = xs.length ∧ y = x := by
  rcases Nat.lt_trichotomy i xs.length with less | rfl | more
  · have other : i ≠ xs.length := Nat.ne_of_lt less
    simp [List.getElem?_append_left less, other]
  · simp [eq_comm]
  · have none_left : xs[i]? = none := List.getElem?_eq_none (Nat.le_of_lt more)
    have none_whole : (xs ++ [x])[i]? = none := List.getElem?_eq_none (by simp; omega)
    simp [none_left, none_whole, Nat.ne_of_gt more]

theorem lt_of_getElem? {α : Type} {xs : List α} {x : α} {i : Nat} (found : xs[i]? = some x) :
    i < xs.length :=
  (List.getElem?_eq_some_iff.mp found).choose

/-- What is stored is not removed at the same time. -/
theorem Puts.not_drops {other : String} (puts : Puts t name) : ¬ Drops t other := by
  obtain ⟨d, stored, -⟩ := puts
  rintro (removed | cleared)
  · simp [stored?, removed] at stored
  · simp [stored?, cleared] at stored

/-- An action stores under the name of its definition only. -/
theorem Puts.name_eq (puts : Puts t name) (stored : stored? t = some d) : d.name = name := by
  obtain ⟨e, stored', rfl⟩ := puts
  rw [stored] at stored'
  cases stored'
  rfl

theorem not_puts (refused : stored? t = none) (name : String) : ¬ Puts t name := by
  rintro ⟨d, stored, -⟩
  rw [refused] at stored
  cases stored

theorem after_snoc (h : History) (t : DateTime × Action) :
    after (h ++ [t]) = ((after h).perform t.1 t.2).1 := by
  simp [after, List.foldl_append]

/-- What an action does to a store, seen from its definitions. -/
theorem perform_store (s : Store) (t : DateTime × Action) :
    (∃ d, stored? t = some d ∧ (s.perform t.1 t.2).1 = s.put d.name d) ∨
    (stored? t = none ∧ (∃ name, t.2 = .remove name ∧ (s.perform t.1 t.2).1 = s.erase name)) ∨
    (stored? t = none ∧ t.2 = .clear ∧ (s.perform t.1 t.2).1 = []) ∨
    (stored? t = none ∧ (∀ name, ¬ Drops t name) ∧ (s.perform t.1 t.2).1 = s) := by
  obtain ⟨now, a⟩ := t
  cases a with
  | put d => exact .inl ⟨_, rfl, rfl⟩
  | remove name => exact .inr (.inl ⟨rfl, name, rfl, rfl⟩)
  | clear => exact .inr (.inr (.inl ⟨rfl, rfl, rfl⟩))
  | load source env files =>
      cases ended : (source.loaded env files).result with
      | ok d =>
          refine .inl ⟨stamped now d, ?_, ?_⟩
          · simp [stored?, ended, Except.toOption]
          · simp [perform, receive, ended, keep, stamped]
      | error r =>
          refine .inr (.inr (.inr ⟨?_, ?_, ?_⟩))
          · simp [stored?, ended, Except.toOption]
          · simp [Drops]
          · simp [perform, receive, ended]

/-! ## What stands under a name -/

theorem latest_snoc :
    Latest (h ++ [t]) name d ↔
      (stored? t = some d ∧ d.name = name) ∨
        (¬ Puts t name ∧ ¬ Drops t name ∧ Latest h name d) := by
  constructor
  · rintro ⟨i, u, found, stored, named, later⟩
    rcases getElem?_snoc.mp found with before | ⟨-, rfl⟩
    · obtain ⟨unput, undropped⟩ :=
        later h.length t (lt_of_getElem? before) (getElem?_snoc.mpr (.inr ⟨rfl, rfl⟩))
      exact .inr ⟨unput, undropped, i, u, before, stored, named,
        fun j v hj hv => later j v hj (getElem?_snoc.mpr (.inl hv))⟩
    · exact .inl ⟨stored, named⟩
  · rintro (⟨stored, named⟩ | ⟨unput, undropped, i, u, found, stored, named, later⟩)
    · refine ⟨h.length, t, getElem?_snoc.mpr (.inr ⟨rfl, rfl⟩), stored, named,
        fun j u hj hu => ?_⟩
      have := lt_of_getElem? hu
      simp only [List.length_append, List.length_singleton] at this
      omega
    · refine ⟨i, u, getElem?_snoc.mpr (.inl found), stored, named, fun j v hj hv => ?_⟩
      rcases getElem?_snoc.mp hv with before | ⟨-, rfl⟩
      · exact later j v hj before
      · exact ⟨unput, undropped⟩

theorem get?_after_iff (h : History) (name : String) (d : Definition) :
    (after h).get? name = some d ↔ Latest h name d := by
  induction h using List.reverseRecOn generalizing d with
  | nil => simp [after, Table.get?, Latest]
  | append_singleton h t ih =>
      rw [after_snoc, latest_snoc]
      rcases perform_store (after h) t with ⟨e, stored, left⟩ | ⟨none_stored, removed, act, left⟩ |
        ⟨none_stored, act, left⟩ | ⟨none_stored, undropped, left⟩
      · rw [left, stored]
        have undropped : ¬ Drops t name := Puts.not_drops ⟨e, stored, rfl⟩
        by_cases same : e.name = name
        · have puts : Puts t name := ⟨e, stored, same⟩
          subst same
          rw [Table.get?_put_self]
          constructor
          · rintro ⟨⟩
            exact .inl ⟨rfl, rfl⟩
          · rintro (⟨same, -⟩ | ⟨unput, -⟩)
            · exact same
            · exact absurd puts unput
        · have unput : ¬ Puts t name := fun puts => same (puts.name_eq stored)
          rw [Table.get?_put_of_ne _ _ same, ih]
          constructor
          · exact fun latest => .inr ⟨unput, undropped, latest⟩
          · rintro (⟨⟨⟩, named⟩ | ⟨-, -, latest⟩)
            · exact absurd named same
            · exact latest
      · rw [left, none_stored]
        by_cases same : removed = name
        · subst same
          rw [Table.get?_erase_self]
          simp [Drops, act]
        · have undropped : ¬ Drops t name := by simp [Drops, act, same]
          rw [Table.get?_erase_of_ne _ same, ih]
          simp [not_puts none_stored, undropped]
      · rw [left, none_stored]
        simp [Drops, act, Table.get?]
      · rw [left, none_stored, ih]
        simp [not_puts none_stored, undropped]

/-! ## When names came in -/

/-- Once a name was stored and not removed since, there is a time at which it came in. -/
theorem exists_arrives {i : Nat} (found : h[i]? = some t) (puts : Puts t name)
    (stays : ∀ (j : Nat) u, i < j -> h[j]? = some u -> ¬ Drops u name) :
    ∃ j, Arrives h name j := by
  classical
  have some_stays : ∃ i : Nat, (∃ t, h[i]? = some t ∧ Puts t name) ∧
      ∀ (j : Nat) u, i < j -> h[j]? = some u -> ¬ Drops u name := ⟨i, ⟨t, found, puts⟩, stays⟩
  -- the first of the times at which the name was stored for good
  have first := Nat.find_spec some_stays
  refine ⟨Nat.find some_stays, first.1, first.2, fun j u hj hu stored => ?_⟩
  have removed := Nat.find_min some_stays hj
  simp only [not_and, not_forall, not_not] at removed
  obtain ⟨k, v, later, hv, drops⟩ := removed ⟨u, hu, stored⟩
  obtain ⟨w, hw, put_last⟩ := first.1
  refine ⟨k, v, later, ?_, hv, drops⟩
  rcases Nat.lt_trichotomy k (Nat.find some_stays) with before | same | behind
  · exact before
  · rw [same, hw] at hv
    cases hv
    exact absurd drops put_last.not_drops
  · exact absurd drops (first.2 k v behind hv)

theorem Arrives.lt {i : Nat} (arrives : Arrives h name i) : i < h.length := by
  obtain ⟨⟨t, found, -⟩, -⟩ := arrives
  exact lt_of_getElem? found

/-- A name came in at one time only. -/
theorem Arrives.unique {i j : Nat} (hi : Arrives h name i) (hj : Arrives h name j) : i = j := by
  have no_earlier {i j : Nat} (hi : Arrives h name i) (hj : Arrives h name j) : ¬ i < j := by
    intro less
    obtain ⟨⟨t, found, puts⟩, stays, -⟩ := hi
    obtain ⟨k, u, later, -, hu, drops⟩ := hj.2.2 i t less found puts
    exact stays k u later hu drops
  have := no_earlier hi hj
  have := no_earlier hj hi
  omega

theorem arrives_snoc {i : Nat} :
    Arrives (h ++ [t]) name i ↔ ¬ Drops t name ∧
      (Arrives h name i ∨ i = h.length ∧ Puts t name ∧ ∀ j, ¬ Arrives h name j) := by
  have last : (h ++ [t])[h.length]? = some t := getElem?_snoc.mpr (.inr ⟨rfl, rfl⟩)
  constructor
  · rintro ⟨⟨u, found, puts⟩, stays, fresh⟩
    rcases getElem?_snoc.mp found with before | ⟨rfl, rfl⟩
    · have less := lt_of_getElem? before
      refine ⟨stays h.length t less last, .inl ⟨⟨u, before, puts⟩, ?_, ?_⟩⟩
      · exact fun j v hj hv => stays j v hj (getElem?_snoc.mpr (.inl hv))
      · intro j v hj hv stored
        obtain ⟨k, w, hjk, hki, hw, drops⟩ := fresh j v hj (getElem?_snoc.mpr (.inl hv)) stored
        refine ⟨k, w, hjk, hki, (getElem?_snoc.mp hw).resolve_right ?_, drops⟩
        rintro ⟨rfl, -⟩
        omega
    · refine ⟨puts.not_drops, .inr ⟨rfl, puts, fun j arrives => ?_⟩⟩
      obtain ⟨⟨v, hv, stored⟩, kept, -⟩ := arrives
      have less := lt_of_getElem? hv
      obtain ⟨k, w, hjk, hk, hw, drops⟩ := fresh j v less (getElem?_snoc.mpr (.inl hv)) stored
      rcases getElem?_snoc.mp hw with before | ⟨rfl, -⟩
      · exact kept k w hjk before drops
      · omega
  · rintro ⟨undropped, arrives | ⟨rfl, puts, absent⟩⟩
    · have less := arrives.lt
      obtain ⟨⟨u, found, puts⟩, stays, fresh⟩ := arrives
      refine ⟨⟨u, getElem?_snoc.mpr (.inl found), puts⟩, fun j v hj hv => ?_, ?_⟩
      · rcases getElem?_snoc.mp hv with before | ⟨-, rfl⟩
        · exact stays j v hj before
        · exact undropped
      · intro j v hj hv stored
        have before := (getElem?_snoc.mp hv).resolve_right (by omega)
        obtain ⟨k, w, hjk, hki, hw, drops⟩ := fresh j v hj before stored
        exact ⟨k, w, hjk, hki, getElem?_snoc.mpr (.inl hw), drops⟩
    · refine ⟨⟨t, last, puts⟩, fun j v hj hv => ?_, fun j v hj hv stored => ?_⟩
      · have := lt_of_getElem? hv
        simp only [List.length_append, List.length_singleton] at this
        omega
      · have before := (getElem?_snoc.mp hv).resolve_right (by omega)
        by_contra kept
        simp only [not_exists, not_and] at kept
        obtain ⟨i, arrives⟩ := exists_arrives before stored fun k w hjk hw =>
          kept k w hjk (lt_of_getElem? hw) (getElem?_snoc.mpr (.inl hw))
        exact absent i arrives

/-! ## The order of the names -/

/-- Names are listed once each, and in the order in which they came in. -/
structure Listed (h : History) (names : List String) : Prop where
  once : names.Nodup
  here : ∀ name, name ∈ names ↔ ∃ i, Arrives h name i
  ordered : names.Pairwise fun m n => ∀ i j, Arrives h m i -> Arrives h n j -> i < j

/-- Names that arrived at the same times are listed alike. -/
theorem Listed.congr {h' : History} {names : List String} (listed : Listed h names)
    (same : ∀ name i, Arrives h' name i ↔ Arrives h name i) : Listed h' names := by
  refine ⟨listed.once, fun name => ?_, listed.ordered.imp fun earlier i j hi hj => ?_⟩
  · simp only [listed.here, same]
  · exact earlier i j ((same _ i).mp hi) ((same _ j).mp hj)

/-- A name that is stored for the first time is listed last. -/
theorem Listed.append {names : List String} (listed : Listed h names) (puts : Puts t name)
    (alone : ∀ other, Puts t other -> other = name) (new : name ∉ names) :
    Listed (h ++ [t]) (names ++ [name]) := by
  have absent (j : Nat) : ¬ Arrives h name j := fun arrives =>
    new ((listed.here name).mpr ⟨j, arrives⟩)
  have came (other : String) (i : Nat) :
      Arrives (h ++ [t]) other i ↔ Arrives h other i ∨ i = h.length ∧ other = name := by
    rw [arrives_snoc, and_iff_right puts.not_drops]
    refine or_congr_right (and_congr_right fun _ => ?_)
    constructor
    · exact fun stored => alone other stored.1
    · rintro rfl
      exact ⟨puts, absent⟩
  refine ⟨?_, fun other => ?_, ?_⟩
  · refine List.nodup_append.mpr ⟨listed.once, by simp, fun m hm n hn same => ?_⟩
    rw [List.mem_singleton.mp hn] at same
    exact new (same ▸ hm)
  · simp only [List.mem_append, List.mem_singleton, listed.here, came]
    constructor
    · rintro (⟨i, arrives⟩ | rfl)
      · exact ⟨i, .inl arrives⟩
      · exact ⟨h.length, .inr ⟨rfl, rfl⟩⟩
    · rintro ⟨i, arrives | ⟨-, rfl⟩⟩
      · exact .inl ⟨i, arrives⟩
      · exact .inr rfl
  · refine List.pairwise_append.mpr ⟨?_, List.pairwise_singleton _ _, fun m hm n hn i j hi hj => ?_⟩
    · refine listed.ordered.imp_of_mem fun hm hn earlier i j hi hj => ?_
      have old {other : String} {i : Nat} (mem : other ∈ names)
          (arrives : Arrives (h ++ [t]) other i) : Arrives h other i :=
        ((came other i).mp arrives).resolve_right fun last => new (last.2 ▸ mem)
      exact earlier i j (old hm hi) (old hn hj)
    · rw [List.mem_singleton.mp hn] at hj
      rcases (came m i).mp hi with before | ⟨-, same⟩
      · rcases (came name j).mp hj with before' | ⟨rfl, -⟩
        · exact absurd before' (absent j)
        · exact before.lt
      · exact absurd (same ▸ hm) new

/-- Names that are removed are listed no more. -/
theorem Listed.filter {names : List String} (listed : Listed h names) (keep : String -> Bool)
    (unput : ∀ name, ¬ Puts t name) (drops : ∀ name, Drops t name ↔ keep name = false) :
    Listed (h ++ [t]) (names.filter keep) := by
  have came (name : String) (i : Nat) :
      Arrives (h ++ [t]) name i ↔ keep name = true ∧ Arrives h name i := by
    rw [arrives_snoc, drops, Bool.not_eq_false]
    simp [unput name]
  refine ⟨listed.once.filter keep, fun name => ?_, ?_⟩
  · simp only [List.mem_filter, listed.here, came]
    constructor
    · rintro ⟨⟨i, arrives⟩, kept⟩
      exact ⟨i, kept, arrives⟩
    · rintro ⟨i, kept, arrives⟩
      exact ⟨⟨i, arrives⟩, kept⟩
  · refine (listed.ordered.filter keep).imp fun earlier i j hi hj => ?_
    exact earlier i j ((came _ i).mp hi).2 ((came _ j).mp hj).2

theorem listed_after (h : History) : Listed h (after h).names := by
  induction h using List.reverseRecOn with
  | nil => exact ⟨List.nodup_nil, by simp [after, Table.names, Arrives], .nil⟩
  | append_singleton h t ih =>
      rw [after_snoc]
      rcases perform_store (after h) t with ⟨d, stored, left⟩ | ⟨none_stored, removed, act, left⟩ |
        ⟨none_stored, act, left⟩ | ⟨none_stored, undropped, left⟩
      · have puts : Puts t d.name := ⟨d, stored, rfl⟩
        have alone (other : String) (named : Puts t other) : other = d.name :=
          (named.name_eq stored).symm
        rw [left]
        by_cases known : d.name ∈ (after h).names
        · rw [Table.names_put_of_mem known]
          refine ih.congr fun name i => ?_
          rw [arrives_snoc, and_iff_right puts.not_drops]
          refine or_iff_left ?_
          rintro ⟨-, named, absent⟩
          obtain ⟨j, arrives⟩ := (ih.here d.name).mp known
          exact absent j (alone name named ▸ arrives)
        · rw [Table.names_put_of_not_mem known]
          exact ih.append puts alone known
      · rw [left, Table.names_erase]
        exact ih.filter (· != removed) (not_puts none_stored) fun name => by
          simpa [Drops, act] using eq_comm
      · have cleared := ih.filter (fun _ => false) (not_puts none_stored) fun name => by
          simp [Drops, act]
        rw [List.filter_eq_nil_iff.mpr fun _ _ => Bool.false_ne_true] at cleared
        rw [left]
        exact cleared
      · rw [left]
        refine ih.congr fun name i => ?_
        simp [arrives_snoc, undropped name, not_puts none_stored name]

/-! ## The store -/

/-- A store is told by its history. -/
structure Tells (h : History) (s : Store) : Prop where
  /-- A name stands for what was stored last under it and not removed since. -/
  get : ∀ name d, s.get? name = some d ↔ Latest h name d
  /-- A definition stands under its own name. -/
  named : ∀ name d, s.get? name = some d -> d.name = name
  /-- The names listed are those that stand for something. -/
  names : ∀ name, name ∈ s.names ↔ ∃ d, s.get? name = some d
  once : s.names.Nodup
  /-- Each name listed came in at one time. -/
  arrived : ∀ name ∈ s.names, ∃! i, Arrives h name i
  /-- The names are listed in the order in which they came in. -/
  ordered : s.names.Pairwise fun m n => ∀ i j, Arrives h m i -> Arrives h n j -> i < j

theorem tells_after (h : History) : Tells h (after h) where
  get name d := get?_after_iff h name d
  named name d found := by
    obtain ⟨_, _, _, _, named, _⟩ := (get?_after_iff h name d).mp found
    exact named
  names name := Table.mem_names_iff
  once := (listed_after h).once
  arrived name mem := by
    obtain ⟨i, arrives⟩ := ((listed_after h).here name).mp mem
    exact ⟨i, arrives, fun j other => other.unique arrives⟩
  ordered := (listed_after h).ordered

theorem perform_of_error {now : DateTime} {a : Action} {r : Raised}
    (failed : (s.perform now a).2 = .error r) : (s.perform now a).1 = s := by
  cases a with
  | put d => cases failed
  | remove name => cases failed
  | clear => cases failed
  | load source env files =>
      simp only [perform] at failed ⊢
      cases ended : (source.loaded env files).result with
      | ok d => simp [receive, ended, keep, Except.map] at failed
      | error r' => simp [receive, ended]

theorem perform_load_of_ok {source : Source} {env : Environment} {files : Files} {d : Definition}
    (loaded : (source.loaded env files).result = .ok d) (s : Store) (now : DateTime) :
    (s.perform now (.load source env files)).2 = .ok (.stored (stamped now d)) ∧
      (s.perform now (.load source env files)).1.get? d.name = some (stamped now d) := by
  have put : (s.perform now (.load source env files)).1 = s.put d.name (stamped now d) := by
    simp [perform, receive, loaded, keep, stamped]
  refine ⟨?_, ?_⟩
  · simp [perform, receive, loaded, keep, stamped, Except.map]
  · rw [put]
    exact Table.get?_put_self ..

/--
After every history a store is what the history tells.  Whatever is done next, removing
answers whether there was something to remove, what is refused changes nothing, and what
is loaded is stored and returned as it was read, but for the time at which it was stored.
-/
theorem after_tells (h : History) :
    Tells h (after h) ∧
      (∀ now name, ((after h).perform now (.remove name)).2 =
        .ok (.removed ((after h).get? name).isSome)) ∧
      (∀ now a r, ((after h).perform now a).2 = .error r -> ((after h).perform now a).1 = after h) ∧
      (∀ now source env files r, (Source.loaded env files source).result = .error r ->
        ((after h).perform now (.load source env files)).2 = .error r) ∧
      ∀ now source env files d, (Source.loaded env files source).result = .ok d ->
        ((after h).perform now (.load source env files)).2 = .ok (.stored (stamped now d)) ∧
        ((after h).perform now (.load source env files)).1.get? d.name = some (stamped now d) := by
  refine ⟨tells_after h, fun now name => rfl, fun now a r => perform_of_error, ?_, ?_⟩
  · intro now source env files r failed
    simp [perform, receive, failed, Except.map]
  · exact fun now source env files d loaded => perform_load_of_ok loaded (after h) now

end Store

end Workflow
