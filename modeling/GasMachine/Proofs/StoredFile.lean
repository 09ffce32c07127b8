import Mathlib.Tactic
import GasMachine.Proofs.FilePlaces
/-
A file that has been written can be read, written again and removed.

Writing makes the directories above the file first, so it may change much of a tree; but once it has succeeded, the path
is `Writable`: its directories are there, and no later write or removal at it touches anything but the file itself.
`write_ok` says so of any write, and the lemmas of `Writable` tell what reading, writing and removing do from then on.
-/
namespace GasMachine.Files

namespace Tree

variable {t t' : Tree} {p : Path} {place : List String} {trail : Trail} {name : String}

/-! ## The place of a file -/

theorem locate_follows (h : t.locate p = .ok (.entry trail name)) : t.Follows trail := by
  obtain ⟨target, -, hparallel⟩ := locate_keeps (Keeps.refl t) h
  cases target with
  | directory trail' => exact hparallel.elim
  | entry trail' name' => exact hparallel.1.left

theorem Follows.found (h : t.Follows trail) (name : String) :
    t.entry? trail name =
      if maxNameLength < name.utf8ByteSize then .error .nameTooLong else .ok (t.node? (trail.place ++ [name])) := by
  unfold entry?
  rw [h.entry]

/-- what a lookup finds at a name in a directory -/
theorem lookup_entry (h : t.locate p = .ok (.entry trail name)) :
    t.lookup p =
      if maxNameLength < name.utf8ByteSize then .error .nameTooLong
      else match t.node? (trail.place ++ [name]) with
        | none => .error .notFound
        | some (.file content) =>
          if p.directoryOnly then .error .notDirectory else .ok (trail.place ++ [name], .file content)
        | some (.directory inner) => .ok (trail.place ++ [name], .directory inner) := by
  unfold lookup
  rw [h]
  simp only [(locate_follows h).found]
  by_cases hlong : maxNameLength < name.utf8ByteSize
  · simp only [hlong, if_true]
  · rcases t.node? (trail.place ++ [name]) with _ | (inner | content) <;> simp only [hlong, if_false]

/-- where a write to a path goes: to a name in a directory, at which there is no directory -/
theorem filePlace_ok_iff : t.filePlace p = .ok place ↔
    ∃ trail name, t.locate p = .ok (.entry trail name) ∧ p.directoryOnly = false ∧
      name.utf8ByteSize ≤ maxNameLength ∧ place = trail.place ++ [name] ∧
      ∀ inner, t.node? place ≠ some (.directory inner) := by
  constructor
  · intro h
    unfold filePlace at h
    split at h
    · cases h
    · cases h
    · next trail name hlocate =>
      rw [(locate_follows hlocate).found] at h
      split_ifs at h with honly hlong
      rcases hnode : t.node? (trail.place ++ [name]) with _ | (inner | content)
      all_goals rw [hnode] at h
      · obtain rfl := Except.ok.inj h
        exact ⟨trail, name, hlocate, by simpa using honly, by simpa using hlong, rfl, by simp [hnode]⟩
      · cases h
      · obtain rfl := Except.ok.inj h
        exact ⟨trail, name, hlocate, by simpa using honly, by simpa using hlong, rfl, by simp [hnode]⟩
  · rintro ⟨trail, name, hlocate, honly, hlong, rfl, hdir⟩
    unfold filePlace
    rw [hlocate]
    simp only [honly, (locate_follows hlocate).found, not_lt.mpr hlong, Bool.false_eq_true, if_false]

/-- a write goes to the same place in a tree that has all directories, unless there is one more at that place -/
theorem filePlace_keeps (hkeeps : t.Keeps t') (h : t.filePlace p = .ok place)
    (hdir : ∀ inner, t'.node? place ≠ some (.directory inner)) : t'.filePlace p = .ok place := by
  obtain ⟨trail, name, hlocate, honly, hlong, hplace, -⟩ := filePlace_ok_iff.mp h
  obtain ⟨target, hlocate', hparallel⟩ := locate_keeps hkeeps hlocate
  match target, hparallel with
  | .entry trail' _, ⟨hparallel, rfl⟩ =>
    exact filePlace_ok_iff.mpr ⟨trail', _, hlocate', honly, hlong, by rw [hparallel.place, hplace], hdir⟩

/-- what a lookup finds at the place of a file -/
theorem lookup_of_filePlace (h : t.filePlace p = .ok place) :
    t.lookup p =
      match t.node? place with
      | some n => .ok (place, n)
      | none => .error .notFound := by
  obtain ⟨trail, name, hlocate, honly, hlong, rfl, hdir⟩ := filePlace_ok_iff.mp h
  rw [lookup_entry hlocate, if_neg (not_lt.mpr hlong)]
  rcases hnode : t.node? (trail.place ++ [name]) with _ | (inner | content)
  · rfl
  · exact absurd hnode (hdir inner)
  · simp [honly]

/-- a change at the place of a file -/
theorem node?_alter_of_filePlace (h : t.filePlace p = .ok place) (f : Option Node → Option Node) :
    (t.alter place f).node? place = f (t.node? place) := by
  obtain ⟨trail, name, hlocate, -, -, rfl, -⟩ := filePlace_ok_iff.mp h
  have hfollows := locate_follows hlocate
  rw [hfollows.entry]
  exact Directory.at?_alter_self f name (hfollows trail List.suffix_rfl)

/-- where a directory is found: at the end of a walk, or at a name in a directory -/
theorem isDirectory_iff : t.isDirectory p = true ↔
    (∃ trail, t.locate p = .ok (.directory trail)) ∨
    ∃ trail name inner, t.locate p = .ok (.entry trail name) ∧ name.utf8ByteSize ≤ maxNameLength ∧
      t.node? (trail.place ++ [name]) = some (.directory inner) := by
  rcases hlocate : t.locate p with e | (trail | ⟨trail, name⟩)
  · simp [isDirectory, lookup, hlocate]
  · simp [isDirectory, lookup, hlocate]
  · rw [isDirectory, lookup_entry hlocate]
    by_cases hlong : maxNameLength < name.utf8ByteSize
    · simp [hlong, not_le.mpr hlong]
    · rw [if_neg hlong]
      rcases hnode : t.node? (trail.place ++ [name]) with _ | (inner | content)
      · simp [hnode]
      · simp [hnode, not_lt.mp hlong]
      · cases p.directoryOnly <;> simp [hnode]

/-- a directory is found as well in a tree that has all directories -/
theorem isDirectory_keeps (hkeeps : t.Keeps t') (h : t.isDirectory p = true) : t'.isDirectory p = true := by
  rcases isDirectory_iff.mp h with ⟨trail, hlocate⟩ | ⟨trail, name, inner, hlocate, hlong, hnode⟩
  · obtain ⟨target, hlocate', hparallel⟩ := locate_keeps hkeeps hlocate
    match target, hparallel with
    | .directory trail', _ => exact isDirectory_iff.mpr (.inl ⟨trail', hlocate'⟩)
  · obtain ⟨target, hlocate', hparallel⟩ := locate_keeps hkeeps hlocate
    match target, hparallel with
    | .entry trail' _, ⟨hparallel, rfl⟩ =>
      obtain ⟨inner', hnode'⟩ := hkeeps.directory hnode
      exact isDirectory_iff.mpr (.inr ⟨trail', _, inner', hlocate', hlong, by rw [hparallel.place, hnode']⟩)

/-! ## Making directories -/

/-- a directory that is made is there, and all others still are -/
theorem makeDirectory_ok (h : t.makeDirectory p = .ok t') : t.Keeps t' ∧ t'.isDirectory p = true := by
  unfold makeDirectory at h
  split at h
  · cases h
  · cases h
  · next trail name hlocate =>
    have hfollows := locate_follows hlocate
    rw [hfollows.found] at h
    by_cases hlong : maxNameLength < name.utf8ByteSize
    · simp [hlong] at h
    rcases hnode : t.node? (trail.place ++ [name]) with _ | n
    · simp only [hlong, if_false, hnode, Except.ok.injEq] at h
      subst h
      have hkeeps : t.Keeps (t.put (trail.place ++ [name]) (.directory [])) := by
        refine keeps_alter fun inner hinner => ?_
        simp [hnode] at hinner
      have hmade : (t.put (trail.place ++ [name]) (.directory [])).node? (trail.place ++ [name]) =
          some (.directory []) :=
        Directory.at?_alter_self _ name (hfollows trail List.suffix_rfl)
      obtain ⟨target, hlocate', hparallel⟩ := locate_keeps hkeeps hlocate
      match target, hparallel with
      | .entry trail' _, ⟨hparallel, rfl⟩ =>
        exact ⟨hkeeps, isDirectory_iff.mpr
          (.inr ⟨trail', _, [], hlocate', not_lt.mp hlong, by rw [hparallel.place, hmade]⟩)⟩
    · simp [hlong, hnode] at h

theorem settle_ok {made : Except FileError Tree} (h : t.settle p made = (.ok (), t')) :
    made = .ok t' ∨ (t' = t ∧ t.isDirectory p = true) := by
  cases made with
  | ok t₁ => simp_all [settle]
  | error e =>
    rw [settle] at h
    split_ifs at h with hdir
    · exact .inr ⟨(congrArg Prod.snd h).symm, hdir⟩
    · cases h

/-- a directory that is made, or was there already, is there, and all others still are -/
theorem settle_makeDirectory (h : t.settle p (t.makeDirectory p) = (.ok (), t')) :
    t.Keeps t' ∧ t'.isDirectory p = true := by
  rcases settle_ok h with hmade | ⟨rfl, hdir⟩
  · exact makeDirectory_ok hmade
  · exact ⟨.refl _, hdir⟩

/-- the first of nested directories is there once they are made, and all others still are -/
theorem makeNested_ok {ps : List Path} (h : t.makeNested ps = (.ok (), t')) :
    t.Keeps t' ∧ ∀ p ∈ ps.head?, t'.isDirectory p = true := by
  induction ps generalizing t t' with
  | nil =>
    obtain rfl := congrArg Prod.snd h
    exact ⟨.refl _, by simp⟩
  | cons p above ih =>
    have hhead : t.Keeps t' ∧ t'.isDirectory p = true := by
      unfold makeNested at h
      split at h
      · split at h
        · next t₁ habove =>
          obtain ⟨hkeeps, hdir⟩ := settle_makeDirectory h
          exact ⟨(ih habove).1.trans hkeeps, hdir⟩
        · cases h
      · exact settle_makeDirectory h
    exact ⟨hhead.1, by simpa using hhead.2⟩

/-- directories that are made are there, and all others still are -/
theorem makeDirectories_ok (h : t.makeDirectories p = (.ok (), t')) :
    t.Keeps t' ∧ (p.parent? = none ∨ t'.isDirectory p = true) := by
  unfold makeDirectories at h
  split_ifs at h with hparent
  · obtain rfl := congrArg Prod.snd h
    exact ⟨.refl _, .inl (by simpa using hparent)⟩
  · obtain ⟨hkeeps, hdir⟩ := makeNested_ok h
    exact ⟨hkeeps, .inr (hdir p rfl)⟩

/-- where a directory is, none can be made -/
theorem makeDirectory_of_isDirectory (h : t.isDirectory p = true) : t.makeDirectory p = .error .alreadyThere := by
  unfold makeDirectory
  rcases isDirectory_iff.mp h with ⟨trail, hlocate⟩ | ⟨trail, name, inner, hlocate, hlong, hnode⟩
  · rw [hlocate]
  · rw [hlocate]
    simp only [(locate_follows hlocate).found, not_lt.mpr hlong, if_false, hnode]

/-- where a directory is, there is nothing to make -/
theorem makeDirectories_of_isDirectory (h : p.parent? = none ∨ t.isDirectory p = true) :
    t.makeDirectories p = (.ok (), t) := by
  unfold makeDirectories
  split_ifs with hparent
  · rfl
  · have hdir := h.resolve_left (by simpa using hparent)
    simp only [makeNested, makeDirectory_of_isDirectory hdir, settle, hdir, if_true]

/-! ## Files that can be written -/

/-- whether a file can be written at a path, without a directory to make -/
structure Writable (t : Tree) (path : String) (place : List String) : Prop where
  place : t.filePlace (.ofText path) = .ok place
  parent : ∃ parent, (Path.ofText path).parent? = some parent ∧ (parent.parent? = none ∨ t.isDirectory parent = true)

namespace Writable

variable {path : String}

/-- a path stays writable as long as all directories are kept, and none is made at the place of the file -/
theorem keeps (h : t.Writable path place) (hkeeps : t.Keeps t')
    (hdir : ∀ inner, t'.node? place ≠ some (.directory inner)) : t'.Writable path place := by
  obtain ⟨parent, hparent, hthere⟩ := h.parent
  exact ⟨filePlace_keeps hkeeps h.place hdir, parent, hparent, hthere.imp_right (isDirectory_keeps hkeeps)⟩

/-- there is no directory at the place of the file -/
theorem not_directory (h : t.Writable path place) (inner : Directory) : t.node? place ≠ some (.directory inner) := by
  obtain ⟨_, _, _, _, _, _, hdir⟩ := filePlace_ok_iff.mp h.place
  exact hdir inner

/-- a change of the file at the place, or its removal, leaves the path writable -/
theorem alter (h : t.Writable path place) {f : Option Node → Option Node}
    (hf : ∀ inner, f (t.node? place) ≠ some (.directory inner)) : (t.alter place f).Writable path place := by
  refine h.keeps (keeps_alter fun inner hinner => absurd hinner (h.not_directory inner)) fun inner => ?_
  rw [node?_alter_of_filePlace h.place]
  exact hf inner

/-- a write changes the file, and nothing else -/
theorem write (h : t.Writable path place) (text : String) :
    t.write path text = (.ok (), t.put place (.file text.toUTF8)) := by
  obtain ⟨parent, hparent, hthere⟩ := h.parent
  simp only [Tree.write, writeBytes, hparent, makeDirectories_of_isDirectory hthere, overwrite, h.place]

/-- a file that is there -/
theorem contains_iff (h : t.Writable path place) : t.contains (.ofText path) = (t.node? place).isSome := by
  rw [contains, lookup_of_filePlace h.place]
  cases t.node? place <;> rfl

theorem read (h : t.Writable path place) {text : String} (hnode : t.node? place = some (.file text.toUTF8)) :
    t.read path = .ok text := by
  have hutf8 : String.fromUTF8? text.toUTF8 = some text := dif_pos text.isValidUTF8
  simp only [Tree.read, content, lookup_of_filePlace h.place, hnode, hutf8]

/-- removing the file leaves nothing there -/
theorem remove (h : t.Writable path place) {content : ByteArray} (hnode : t.node? place = some (.file content)) :
    t.remove path = (true, t.erase place) ∧ (t.erase place).Writable path place ∧
      (t.erase place).node? place = none := by
  refine ⟨?_, h.alter (by simp), node?_alter_of_filePlace h.place _⟩
  simp only [Tree.remove, lookup_of_filePlace h.place, hnode]

end Writable

/-- where nothing is there, there is nothing to remove -/
theorem remove_of_absent {path : String} (h : t.contains (.ofText path) = false) : t.remove path = (false, t) := by
  rw [contains] at h
  cases hlookup : t.lookup (.ofText path) with
  | error e => simp only [Tree.remove, hlookup]
  | ok r => simp [hlookup, Except.isOk, Except.toBool] at h

/-- whether a write succeeds does not depend on the text -/
theorem write_fst (t : Tree) (path text text' : String) : (t.write path text).1 = (t.write path text').1 := by
  have hoverwrite : ∀ (t : Tree) (p : Path) (c c' : ByteArray), (t.overwrite p c).1 = (t.overwrite p c').1 := by
    intro t p c c'
    unfold overwrite
    cases t.filePlace p <;> rfl
  simp only [write, writeBytes]
  split
  · rfl
  · split
    · exact hoverwrite _ _ _ _
    · rfl

/-- **A write that succeeds leaves the file there**, and the path writable. -/
theorem write_ok {path text : String} (h : t.write path text = (.ok (), t')) :
    ∃ place, t'.Writable path place ∧ t'.node? place = some (.file text.toUTF8) := by
  simp only [write, writeBytes] at h
  split at h
  · cases h
  · next parent hparent =>
    split at h
    · next t₁ hmade =>
      obtain ⟨-, hthere⟩ := makeDirectories_ok hmade
      unfold overwrite at h
      split at h
      · cases h
      · next place hplace =>
        obtain rfl := congrArg Prod.snd h
        have hwritable : t₁.Writable path place := ⟨hplace, parent, hparent, hthere⟩
        exact ⟨place, hwritable.alter (by simp), node?_alter_of_filePlace hplace _⟩
    · cases h

end Tree

end GasMachine.Files
