import Mathlib.Tactic
import GasMachine.Files.Tree
/-
Walks in a file tree, before and after a change at one place.

A walk along a path keeps copies of the directories on its way, so two trees are compared by their places: `Follows`
says that a trail is the way to its place. If all directories of a tree are in another one (`Tree.Keeps`), a walk that
succeeds in the first succeeds in the second and leads to the same place (`walk_keeps`, `locate_keeps`). A change at one
place keeps all directories if it leaves a directory at that place alone (`keeps_alter`).
-/
namespace GasMachine.Files

/-! ## Changes below a directory -/

namespace Directory

theorem find?_assign_self (es : Directory) (name : String) (n : Option Node) : (es.assign name n).find? name = n := by
  have hfilter : List.find? (fun e => e.1 == name) (es.filter fun e => e.1 != name) = none := by simp
  cases n with
  | none => simp only [assign, without, find?, hfilter, Option.map_none]
  | some n => simp [assign, put, find?, List.find?_append, hfilter]

theorem find?_assign_of_ne (es : Directory) {name x : String} (h : x ≠ name) (n : Option Node) :
    (es.assign name n).find? x = es.find? x := by
  have hfilter : List.find? (fun e => e.1 == x) (es.filter fun e => e.1 != name) =
      List.find? (fun e => e.1 == x) es := by
    rw [List.find?_filter]
    congr 1
    funext e
    by_cases he : e.1 = x <;> simp [he, h]
  cases n with
  | none => simp only [assign, without, find?, hfilter]
  | some n => simp [assign, put, find?, List.find?_append, hfilter, h.symm]

@[simp]
theorem at?_nil (es : Directory) : es.at? [] = some (.directory es) := rfl

@[simp]
theorem at?_singleton (es : Directory) (name : String) : es.at? [name] = es.find? name := by
  rw [at?]

theorem at?_cons (es : Directory) (name x : String) (rest : List String) :
    es.at? (name :: x :: rest) =
      match es.find? name with
      | some (.directory inner) => Directory.at? inner (x :: rest)
      | _ => none := by
  rw [at?.eq_def]
  rcases hfind : es.find? name with _ | (_ | _) <;> simp [hfind]

/-- what stands at a name in the directory at a place -/
theorem at?_snoc (es : Directory) (place : List String) (name : String) :
    es.at? (place ++ [name]) =
      match es.at? place with
      | some (.directory inner) => Directory.find? inner name
      | _ => none := by
  induction place generalizing es with
  | nil => simp
  | cons x rest ih =>
    cases rest with
    | nil =>
      rw [List.singleton_append, at?_cons, at?_singleton]
      rcases es.find? x with _ | (_ | _) <;> simp
    | cons y rest =>
      rw [List.cons_append, List.cons_append, at?_cons, at?_cons]
      rcases es.find? x with _ | (inner | _)
      · rfl
      · exact ih inner
      · rfl

theorem alter_singleton (es : Directory) (f : Option Node → Option Node) (name : String) :
    es.alter f [name] = es.assign name (f (es.find? name)) := by
  rw [alter]

theorem alter_cons (es : Directory) (f : Option Node → Option Node) (name x : String) (rest : List String) :
    es.alter f (name :: x :: rest) =
      match es.find? name with
      | some (.directory inner) => es.assign name (some (.directory (Directory.alter f inner (x :: rest))))
      | _ => es := by
  rw [alter.eq_def]
  rcases hfind : es.find? name with _ | (_ | _) <;> simp [hfind, assign]

/-- a directory at or below a name is the directory at the name, or is below it -/
theorem at?_cons_directory {es inner : Directory} {x : String} {rest : List String}
    (h : es.at? (x :: rest) = some (.directory inner)) :
    ∃ outer, es.find? x = some (.directory outer) ∧ Directory.at? outer rest = some (.directory inner) := by
  cases rest with
  | nil => exact ⟨inner, by simpa using h, by simp⟩
  | cons y rest =>
    rw [at?_cons] at h
    split at h
    · next outer heq => exact ⟨outer, heq, h⟩
    · cases h

/-- a change acts at its place, if that is in a directory -/
theorem at?_alter_self {es inner : Directory} {place : List String} (f : Option Node → Option Node) (name : String)
    (h : es.at? place = some (.directory inner)) :
    (es.alter f (place ++ [name])).at? (place ++ [name]) = f (inner.find? name) := by
  induction place generalizing es with
  | nil =>
    obtain rfl : es = inner := by simpa using h
    rw [List.nil_append, alter_singleton, at?_singleton, find?_assign_self]
  | cons x rest ih =>
    obtain ⟨outer, hfind, hat⟩ := at?_cons_directory h
    obtain ⟨y, more, hmore⟩ : ∃ y more, rest ++ [name] = y :: more := by cases rest <;> simp
    rw [List.cons_append, hmore, alter_cons, hfind, at?_cons, find?_assign_self, ← hmore]
    exact ih hat

/-- what stands below a name depends on what stands at the name -/
theorem at?_congr {es es' : Directory} {x : String} (h : es'.find? x = es.find? x) (q : List String) :
    es'.at? (x :: q) = es.at? (x :: q) := by
  cases q with
  | nil => simpa using h
  | cons y q => rw [at?_cons, at?_cons, h]

/-- a change below a name leaves what is not below it -/
theorem at?_alter_apart (es : Directory) (f : Option Node → Option Node) {name x : String} (h : x ≠ name)
    (rest q : List String) : (es.alter f (name :: rest)).at? (x :: q) = es.at? (x :: q) := by
  refine at?_congr ?_ q
  cases rest with
  | nil => rw [alter_singleton, find?_assign_of_ne es h]
  | cons y rest =>
    rw [alter_cons]
    split
    · exact find?_assign_of_ne es h _
    · rfl

/-- whether a change leaves a directory alone, should it find one -/
def Spares (f : Option Node → Option Node) (n : Option Node) : Prop := ∀ inner, n = some (.directory inner) → f n = n

/-- a change that spares directories keeps each of them -/
theorem at?_alter_directory {es inner : Directory} {f : Option Node → Option Node} {place q : List String}
    (hspares : Spares f (es.at? place)) (h : es.at? q = some (.directory inner)) :
    ∃ inner', (es.alter f place).at? q = some (.directory inner') := by
  induction place generalizing es q with
  | nil => exact ⟨inner, h⟩
  | cons name rest ih =>
    match q, h with
    | [], _ => exact ⟨_, rfl⟩
    | x :: q, h =>
      by_cases hx : x = name
      · subst hx
        obtain ⟨outer, hfind, hbelow⟩ := at?_cons_directory h
        cases rest with
        | nil =>
          -- the directory at the place is spared, and all below it with it
          have hsame : (es.alter f [x]).find? x = es.find? x := by
            rw [alter_singleton, find?_assign_self]
            exact hspares outer (by simpa using hfind)
          exact ⟨inner, by rw [at?_congr hsame, h]⟩
        | cons y rest =>
          rw [alter_cons, hfind]
          cases q with
          | nil => exact ⟨_, by rw [at?_singleton, find?_assign_self]⟩
          | cons z q =>
            rw [at?_cons, hfind] at hspares
            rw [at?_cons, find?_assign_self]
            exact ih hspares hbelow
      · exact ⟨inner, by rw [at?_alter_apart es f hx, h]⟩

end Directory

/-! ## Walks in two trees -/

@[simp]
theorem Trail.place_cons (name : String) (es : Directory) (trail : Trail) :
    Trail.place ((name, es) :: trail) = Trail.place trail ++ [name] := by
  simp [Trail.place]

theorem Trail.place_tail (trail : Trail) : Trail.place trail.tail = (Trail.place trail).dropLast := by
  cases trail with
  | nil => rfl
  | cons e trail => simp [Trail.place]

namespace Tree

/-- whether all directories of a tree are in another one, with the same one as the working directory -/
structure Keeps (t t' : Tree) : Prop where
  working : t'.working = t.working
  directory : ∀ {place inner}, t.node? place = some (.directory inner) →
    ∃ inner', t'.node? place = some (.directory inner')

theorem Keeps.refl (t : Tree) : t.Keeps t := ⟨rfl, fun h => ⟨_, h⟩⟩

theorem Keeps.trans {t₁ t₂ t₃ : Tree} (h : t₁.Keeps t₂) (h' : t₂.Keeps t₃) : t₁.Keeps t₃ where
  working := h'.working.trans h.working
  directory hdir := by
    obtain ⟨_, hdir⟩ := h.directory hdir
    exact h'.directory hdir

theorem keeps_alter {t : Tree} {place : List String} {f : Option Node → Option Node}
    (h : Directory.Spares f (t.node? place)) : t.Keeps (t.alter place f) :=
  ⟨rfl, fun hdir => Directory.at?_alter_directory h hdir⟩

/-- whether a trail is the way to its place, and each part of it the way to the place before -/
def Follows (t : Tree) (trail : Trail) : Prop :=
  ∀ tail, tail <:+ trail → t.node? (Trail.place tail) = some (.directory (t.entries tail))

variable {t t' : Tree} {trail trail' : Trail}

theorem follows_nil (t : Tree) : t.Follows [] := by
  intro tail h
  rw [List.suffix_nil.mp h]
  rfl

theorem Follows.tail (h : t.Follows trail) : t.Follows trail.tail :=
  fun tail htail => h tail (htail.trans (List.tail_suffix trail))

/-- what stands at a name in the directory that a trail leads to -/
theorem Follows.entry (h : t.Follows trail) (name : String) :
    t.node? (trail.place ++ [name]) = (t.entries trail).find? name := by
  have hnode : t.root.at? trail.place = _ := h trail List.suffix_rfl
  rw [node?, Directory.at?_snoc, hnode]

theorem Follows.cons (h : t.Follows trail) {name : String} {es : Directory}
    (hfind : (t.entries trail).find? name = some (.directory es)) : t.Follows ((name, es) :: trail) := by
  intro tail htail
  rcases List.suffix_cons_iff.mp htail with rfl | htail
  · rw [Trail.place_cons, h.entry, hfind]
    rfl
  · exact h tail htail

/-- whether two trails, each in its tree, lead to the same place -/
structure Parallel (t t' : Tree) (trail trail' : Trail) : Prop where
  left : t.Follows trail
  right : t'.Follows trail'
  place : trail'.place = trail.place

/-- a walk succeeds as well in a tree that has all directories, and leads to the same place -/
theorem walk_keeps (hkeeps : t.Keeps t') {names : List String} {r : Trail} (h : Parallel t t' trail trail')
    (hwalk : t.walk trail names = .ok r) : ∃ r', t'.walk trail' names = .ok r' ∧ Parallel t t' r r' := by
  induction names generalizing trail trail' with
  | nil =>
    obtain rfl := Except.ok.inj hwalk
    exact ⟨trail', rfl, h⟩
  | cons name rest ih =>
    rw [walk] at hwalk ⊢
    split_ifs at hwalk ⊢ with hdot hdots
    · exact ih h hwalk
    · exact ih ⟨h.left.tail, h.right.tail, by rw [Trail.place_tail, Trail.place_tail, h.place]⟩ hwalk
    · unfold entry? at hwalk ⊢
      split_ifs at hwalk ⊢
      rcases hfind : (t.entries trail).find? name with _ | (es | _)
      · simp [hfind] at hwalk
      · obtain ⟨es', hnode⟩ := hkeeps.directory ((h.left.entry name).trans hfind)
        rw [← h.place, h.right.entry] at hnode
        simp only [hfind, hnode] at hwalk ⊢
        exact ih ⟨h.left.cons hfind, h.right.cons hnode, by simp [h.place]⟩ hwalk
      · simp [hfind] at hwalk

/-- whether two targets, each in its tree, are the same place -/
def Target.Parallel (t t' : Tree) : Target → Target → Prop
  | .directory trail, .directory trail' => Tree.Parallel t t' trail trail'
  | .entry trail name, .entry trail' name' => Tree.Parallel t t' trail trail' ∧ name' = name
  | _, _ => False

theorem locateNames_keeps (hkeeps : t.Keeps t') {names : List String} {target : Target} (h : Parallel t t' trail trail')
    (hlocate : t.locateNames trail names = .ok target) :
    ∃ target', t'.locateNames trail' names = .ok target' ∧ target.Parallel t t' target' := by
  unfold locateNames at hlocate ⊢
  split at hlocate
  · obtain rfl := Except.ok.inj hlocate
    exact ⟨_, rfl, follows_nil t, follows_nil t', rfl⟩
  · next name _ =>
    split_ifs at hlocate ⊢ with hdots
    · cases hwalk : t.walk trail names with
      | error e => simp [hwalk, Except.map] at hlocate
      | ok r =>
        obtain ⟨r', hwalk', hr⟩ := walk_keeps hkeeps h hwalk
        rw [hwalk] at hlocate
        obtain rfl := Except.ok.inj hlocate
        exact ⟨.directory r', by rw [hwalk']; rfl, hr⟩
    · cases hwalk : t.walk trail names.dropLast with
      | error e => simp [hwalk, Except.map] at hlocate
      | ok r =>
        obtain ⟨r', hwalk', hr⟩ := walk_keeps hkeeps h hwalk
        rw [hwalk] at hlocate
        obtain rfl := Except.ok.inj hlocate
        exact ⟨.entry r' name, by rw [hwalk']; rfl, hr, rfl⟩

/-- a path leads to the same place in a tree that has all directories -/
theorem locate_keeps (hkeeps : t.Keeps t') {p : Path} {target : Target} (hlocate : t.locate p = .ok target) :
    ∃ target', t'.locate p = .ok target' ∧ target.Parallel t t' target' := by
  have hroot : Parallel t t' [] [] := ⟨follows_nil t, follows_nil t', rfl⟩
  unfold locate at hlocate ⊢
  split_ifs at hlocate ⊢
  · exact locateNames_keeps hkeeps hroot hlocate
  · cases hwalk : t.walk [] t.working with
    | error e => simp [hwalk] at hlocate
    | ok r =>
      obtain ⟨r', hwalk', hr⟩ := walk_keeps hkeeps hroot hwalk
      rw [hkeeps.working, hwalk']
      rw [hwalk] at hlocate
      exact locateNames_keeps hkeeps hr hlocate

end Tree

end GasMachine.Files
