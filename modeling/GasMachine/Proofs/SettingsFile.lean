import Mathlib.Tactic
import GasMachine.Proofs.SavedSettings
import GasMachine.Proofs.SettingsCommand
/-
No sequence of operations spoils the settings file.

`World` is the settings in memory with the files, and `Op` what can be done: set a value, set it and save, save, load,
delete the file, and run the program to configure. A gas limit that is too large to be saved may stay in memory after an
update that failed, so memory and file drift apart; what is kept (`World.Sound`) speaks of each on its own. The file is
`Intact`: it is not there and can be written, or it holds settings as they are saved. The fork is one that exists, in
memory as in the file.

Of the file system it is asked only that the file can be written at the start. That it can be written, read and removed
ever after follows, since no operation touches anything but the file once it is there (`Files.Tree.Writable`). The program
is asked for no log file, which could be put in the way of the settings; its log lines go to standard output.
-/
namespace GasMachine.Settings

open Files (Tree)

variable {s : Settings} {files files' : Tree} {path : String}

/-! ## Setting a value -/

theorem key_eq_moon (f : Fork) : f.key = "moon" := by
  cases f
  rfl

/-- what a value that is set changes -/
theorem set_ok {s' : Settings} {key value : String} (h : s.set key value = .ok s') :
    (key = "gas_limit" ∧ ∃ n, Text.Decimal.read? value = some n ∧ s' = { s with gasLimit := n }) ∨
    (key = "fork" ∧ Fork.ofName value = .ok .moon ∧ s' = { s with fork := "moon" }) := by
  unfold set at h
  split_ifs at h with hlimit hfork
  · split at h
    · next n hn => exact .inl ⟨hlimit, n, hn, (Except.ok.inj h).symm⟩
    · cases h
  · split at h
    · next f hf =>
      rw [key_eq_moon] at h
      exact .inr ⟨hfork, by rw [hf], (Except.ok.inj h).symm⟩
    · cases h

theorem set_fork {s' : Settings} {key value : String} (h : s.set key value = .ok s') (hfork : s.fork = "moon") :
    s'.fork = "moon" := by
  rcases set_ok h with ⟨-, n, -, rfl⟩ | ⟨-, -, rfl⟩
  · exact hfork
  · rfl

/-! ## The file -/

/-- the settings file as operations leave it -/
inductive Intact (path : String) (files : Tree) : Prop where
  /-- nothing is at its path, and it can be written there -/
  | absent (hnone : isStored files path = false) (hwrite : ∀ text, (files.write path text).1 = .ok ())
  /-- it holds settings as they are saved, with a fork that exists -/
  | saved {place : List String} {s : Settings} (hsaved : SavedAt files path place s) (hfork : s.fork = "moon")

namespace Intact

/-- a text can be written -/
theorem write (h : Intact path files) (text : String) : ∃ files', files.write path text = (.ok (), files') := by
  cases h with
  | absent hnone hwrite => exact ⟨_, Prod.ext (hwrite text) rfl⟩
  | saved hsaved hfork => exact ⟨_, hsaved.writable.write text⟩

/-- settings that fit can be saved -/
theorem save_of_le (h : Intact path files) (hfits : s.gasLimit.toNat ≤ 2 ^ 63 - 1) :
    ∃ files' place, s.save files path = (.ok (), files') ∧ SavedAt files' path place s := by
  obtain ⟨text, htext⟩ : ∃ text, s.toToml = .ok text := ⟨_, toToml_of_le hfits⟩
  obtain ⟨files', hwrite⟩ := h.write text
  have hsave := save_of_write htext hwrite
  obtain ⟨place, hsaved⟩ := save_ok hsave
  exact ⟨files', place, hsave, hsaved⟩

/-- settings are saved, or refused with nothing changed -/
theorem save (h : Intact path files) (s : Settings) :
    (∃ files' place, s.save files path = (.ok (), files') ∧ SavedAt files' path place s) ∨
    s.save files path = (.error .outOfRange, files) := by
  rcases le_or_gt s.gasLimit.toNat (2 ^ 63 - 1) with hfits | hlarge
  · exact .inl (h.save_of_le hfits)
  · exact .inr (by rw [Settings.save, toToml_of_lt hlarge])

/-- loading succeeds, and the file holds what was loaded -/
theorem load (h : Intact path files) :
    ∃ s files' place, load files path = (.ok s, files') ∧ SavedAt files' path place s ∧ s.fork = "moon" := by
  cases h with
  | absent hnone hwrite =>
    obtain ⟨files', place, hsave, hsaved⟩ := (absent hnone hwrite).save_of_le (s := default) (by decide)
    have hreload := hsaved.load
    rw [Settings.load, if_pos hsaved.isStored] at hreload
    refine ⟨default, files', place, ?_, hsaved, rfl⟩
    simp only [Settings.load, hnone, Bool.false_eq_true, if_false, hsave, hreload]
  | saved hsaved hfork => exact ⟨_, files, _, hsaved.load, hsaved, hfork⟩

/-- a file that is removed can be written again -/
theorem delete (h : Intact path files) : Intact path (delete files path) := by
  cases h with
  | absent hnone hwrite =>
    rw [Settings.delete, Tree.remove_of_absent hnone]
    exact absent hnone hwrite
  | saved hsaved hfork =>
    obtain ⟨text, -, hnode⟩ := hsaved.text
    obtain ⟨hremove, hwritable, hnone⟩ := hsaved.writable.remove hnode
    rw [Settings.delete, hremove]
    refine absent ?_ fun text => by rw [hwritable.write text]
    rw [Settings.isStored, hwritable.contains_iff, hnone]
    rfl

/-- an update that succeeds is saved; one that fails changes no file -/
theorem update (h : Intact path files) (s : Settings) (key value : String) :
    (∃ s' files' place, s.set key value = .ok s' ∧ s.update files path key value = (.ok (), s', files') ∧
      SavedAt files' path place s') ∨
    (∃ s', s.set key value = .ok s' ∧ s.update files path key value = (.error .outOfRange, s', files)) ∨
    (∃ e, s.set key value = .error e ∧ s.update files path key value = (.error e, s, files)) := by
  cases hset : s.set key value with
  | error e => exact .inr (.inr ⟨e, rfl, by simp only [Settings.update, hset]⟩)
  | ok s' =>
    rcases h.save s' with ⟨files', place, hsave, hsaved⟩ | hrefused
    · exact .inl ⟨s', files', place, rfl, by simp only [Settings.update, hset, hsave], hsaved⟩
    · exact .inr (.inl ⟨s', rfl, by simp only [Settings.update, hset, hrefused]⟩)

/-- after an update that succeeds the file loads as the updated settings; one that fails changes no file -/
theorem update_clean (h : Intact path files) {s s' : Settings} {key value : String} {result : Except SettingsError Unit}
    (hupdate : s.update files path key value = (result, s', files')) :
    (result = .ok () → Settings.load files' path = (.ok s', files')) ∧ ∀ e, result = .error e → files' = files := by
  rcases h.update s key value with ⟨_, _, place, -, heq, hsaved⟩ | ⟨_, -, heq⟩ | ⟨_, -, heq⟩
  all_goals
    rw [hupdate] at heq
    cases heq
  · exact ⟨fun _ => hsaved.load, by simp⟩
  · exact ⟨by simp, fun _ _ => rfl⟩
  · exact ⟨by simp, fun _ _ => rfl⟩

/-- a file that is intact is absent, or reads as the text of settings that can be saved -/
theorem read (h : Intact path files) :
    isStored files path = false ∨
      ∃ (s : Settings) (text : String), s.gasLimit.toNat ≤ 2 ^ 63 - 1 ∧ s.fork = "moon" ∧ s.toToml = .ok text ∧
        files.read path = .ok text := by
  cases h with
  | absent hnone hwrite => exact .inl hnone
  | @saved place s hsaved hfork =>
    obtain ⟨text, htext, hread⟩ := hsaved.read
    refine .inr ⟨s, text, ?_, hfork, htext, hread⟩
    by_contra hlarge
    rw [toToml_of_lt (not_le.mp hlarge)] at htext
    cases htext

end Intact

/-- where the default settings can be saved, a file that is not there is intact -/
theorem intact_of_absent (hnone : isStored files path = false) (hsave : (default.save files path).1 = .ok ()) :
    Intact path files := by
  refine .absent hnone fun text => ?_
  obtain ⟨saved, hsaved⟩ : ∃ saved, default.toToml = .ok saved := ⟨_, toToml_of_le (by decide)⟩
  rw [Tree.write_fst files path text saved]
  simp only [save, hsaved] at hsave
  split at hsave
  · next hwrite => rw [hwrite]
  · cases hsave

/-! ## Sequences of operations -/

/-- settings in memory, and the files -/
structure World where
  settings : Settings
  files : Tree

/-- what can be done with settings -/
inductive Op where
  | set (key value : String)
  | update (key value : String)
  | save
  | load
  | delete
  /-- the program, asked to configure -/
  | command (key value : String)
deriving DecidableEq, Repr

namespace World

variable (env : Environment) (options : Log.Options)

/-- the files after the program was asked to configure -/
def configure (files : Tree) (key value : String) : Tree :=
  (Command.perform env files (.ok ⟨options, .config key value⟩)).files

/-- the world with what was loaded -/
def loaded (w : World) : Except SettingsError Settings × Tree → World
  | (.ok settings, files) => { settings, files }
  | (.error _, files) => { w with files }

/-- the world after an operation, whether or not it fails -/
def after (w : World) : Op → World
  | .set key value =>
    match w.settings.set key value with
    | .ok settings => { w with settings }
    | .error _ => w
  | .update key value =>
    let (_, settings, files) := w.settings.update w.files (Settings.path env.home) key value
    { settings, files }
  | .save => { w with files := (w.settings.save w.files (Settings.path env.home)).2 }
  | .load => w.loaded (load w.files (Settings.path env.home))
  | .delete => { w with files := delete w.files (Settings.path env.home) }
  | .command key value => { w with files := configure env options w.files key value }

/-- the world after operations, one after the other -/
def run (w : World) (ops : List Op) : World := ops.foldl (after env options) w

/-- what every operation keeps -/
structure Sound (w : World) : Prop where
  file : Intact (Settings.path env.home) w.files
  fork : w.settings.fork = "moon"

variable {env options} {w : World}

theorem after_set_ok {key value : String} {s : Settings} (h : w.settings.set key value = .ok s) :
    w.after env options (.set key value) = { w with settings := s } := by
  simp only [after, h]

theorem after_set_error {key value : String} {e : SettingsError} (h : w.settings.set key value = .error e) :
    w.after env options (.set key value) = w := by
  simp only [after, h]

theorem after_update {key value : String} {result : Except SettingsError Unit} {s : Settings} {files : Tree}
    (h : w.settings.update w.files (Settings.path env.home) key value = (result, s, files)) :
    w.after env options (.update key value) = ⟨s, files⟩ := by
  simp only [after, h]

/-- with a key and a value, the program updates what it has loaded -/
theorem after_command (hlog : options.fileDirectory = none) {key value : String} (hkey : key ≠ "") (hvalue : value ≠ "")
    {s s' : Settings} {files files' : Tree} {result : Except SettingsError Unit}
    (hload : load w.files (Settings.path env.home) = (.ok s, files))
    (hupdate : s.update files (Settings.path env.home) key value = (result, s', files')) :
    w.after env options (.command key value) = { w with files := files' } := by
  simp only [after, configure, Command.perform_config_files hlog, hkey, hvalue, if_false, hload, hupdate]

/-- one operation keeps the file intact -/
theorem Sound.after (h : w.Sound env) (hlog : options.fileDirectory = none) (op : Op) :
    (w.after env options op).Sound env := by
  cases op with
  | set key value =>
    cases hset : w.settings.set key value with
    | ok s =>
      rw [after_set_ok hset]
      exact ⟨h.file, set_fork hset h.fork⟩
    | error e =>
      rw [after_set_error hset]
      exact h
  | update key value =>
    rcases h.file.update w.settings key value with
      ⟨s, files, place, hset, hupdate, hsaved⟩ | ⟨s, hset, hupdate⟩ | ⟨e, -, hupdate⟩
    all_goals rw [after_update hupdate]
    · exact ⟨.saved hsaved (set_fork hset h.fork), set_fork hset h.fork⟩
    · exact ⟨h.file, set_fork hset h.fork⟩
    · exact h
  | save =>
    rcases h.file.save w.settings with ⟨files, place, hsave, hsaved⟩ | hrefused
    · simp only [World.after, hsave]
      exact ⟨.saved hsaved h.fork, h.fork⟩
    · simp only [World.after, hrefused]
      exact h
  | load =>
    obtain ⟨s, files, place, hload, hsaved, hfork⟩ := h.file.load
    rw [World.after, hload]
    exact ⟨.saved hsaved hfork, hfork⟩
  | delete =>
    refine ⟨?_, h.fork⟩
    simp only [World.after]
    exact h.file.delete
  | command key value =>
    obtain ⟨s, files, place, hload, hsaved, hfork⟩ := h.file.load
    have hloaded : Intact (Settings.path env.home) files := .saved hsaved hfork
    refine ⟨?_, h.fork⟩
    simp only [World.after, configure, Command.perform_config_files hlog, hload]
    split_ifs with hkey hvalue
    · exact hloaded
    · exact h.file
    · rcases hloaded.update s key value with
        ⟨s', files', place', hset, hupdate, hsaved'⟩ | ⟨s', -, hupdate⟩ | ⟨e, -, hupdate⟩
      all_goals rw [hupdate]
      · exact .saved hsaved' (set_fork hset hfork)
      · exact hloaded
      · exact hloaded

/-- any number of operations keeps the file intact -/
theorem Sound.run (h : w.Sound env) (hlog : options.fileDirectory = none) (ops : List Op) :
    (w.run env options ops).Sound env := by
  induction ops generalizing w with
  | nil => exact h
  | cons op ops ih => exact ih (h.after hlog op)

end World

/-- **No sequence of operations spoils the settings file.** From no file, and the default settings in memory, after any
operations, failed ones among them:

- the file is not there, or is the text of settings with a gas limit up to 2^63 - 1 and a fork that exists;
- loading succeeds;
- setting a value changes nothing if it fails, and otherwise only what the key names;
- after an update that succeeds the file loads as the settings in memory, and one that fails changes no file;
- the program, with a key and a value, updates in the same way what it has loaded. -/
theorem settings_file_stays_intact (env : Environment) (options : Log.Options) (files : Tree)
    (hlog : options.fileDirectory = none) (hnone : isStored files (Settings.path env.home) = false)
    (hsave : (default.save files (Settings.path env.home)).1 = .ok ()) (ops : List Op) :
    let path := Settings.path env.home
    let w := World.run env options ⟨default, files⟩ ops
    (isStored w.files path = false ∨
      ∃ (s : Settings) (text : String), s.gasLimit.toNat ≤ 2 ^ 63 - 1 ∧ s.fork = "moon" ∧ s.toToml = .ok text ∧
        w.files.read path = .ok text) ∧
    (∃ s files', load w.files path = (.ok s, files')) ∧
    (∀ key value,
      (∀ e, w.settings.set key value = .error e → w.after env options (.set key value) = w) ∧
      ∀ s, w.settings.set key value = .ok s →
        w.after env options (.set key value) = { w with settings := s } ∧
        (key = "gas_limit" ∧ s = { w.settings with gasLimit := s.gasLimit } ∨
          key = "fork" ∧ s = { w.settings with fork := s.fork })) ∧
    (∀ key value result s files', w.settings.update w.files path key value = (result, s, files') →
      w.after env options (.update key value) = ⟨s, files'⟩ ∧
      (result = .ok () → load files' path = (.ok s, files')) ∧ ∀ e, result = .error e → files' = w.files) ∧
    (∀ key value, key ≠ "" → value ≠ "" →
      ∃ s loaded result s' files', load w.files path = (.ok s, loaded) ∧
        s.update loaded path key value = (result, s', files') ∧
        w.after env options (.command key value) = { w with files := files' } ∧
        (result = .ok () → load files' path = (.ok s', files')) ∧ ∀ e, result = .error e → files' = loaded) := by
  intro path w
  have hintact : Intact path files := intact_of_absent hnone hsave
  have hstart : World.Sound env ⟨default, files⟩ := ⟨hintact, key_eq_moon .moon⟩
  have hsound : w.Sound env := hstart.run hlog ops
  obtain ⟨s, loaded, place, hload, hsaved, hfork⟩ := hsound.file.load
  refine ⟨hsound.file.read, ⟨s, loaded, hload⟩, ?_, ?_, ?_⟩
  · intro key value
    refine ⟨fun e hset => World.after_set_error hset, fun s hset => ⟨World.after_set_ok hset, ?_⟩⟩
    rcases set_ok hset with ⟨hkey, n, -, rfl⟩ | ⟨hkey, -, rfl⟩
    · exact .inl ⟨hkey, rfl⟩
    · exact .inr ⟨hkey, rfl⟩
  · intro key value result s files' hupdate
    exact ⟨World.after_update hupdate, hsound.file.update_clean hupdate⟩
  · intro key value hkey hvalue
    have hloaded : Intact path loaded := .saved hsaved hfork
    rcases hupdate : s.update loaded path key value with ⟨result, s', files'⟩
    exact ⟨s, loaded, result, s', files', hload, hupdate, World.after_command hlog hkey hvalue hload hupdate,
      hloaded.update_clean hupdate⟩

/-- a gas limit that is too large for the file stays in memory after the update that failed; the program sets another
one in the file, which the next failed update leaves alone -/
theorem intact_after_failed_updates :
    let env : Environment := ⟨"/home", "", none, none, none, none, none, none, false⟩
    let files := Tree.withWorking ["home"]
    let w := World.run env .default ⟨default, files⟩
      [.update "gas_limit" "18446744073709551615", .save, .command "gas_limit" "7", .set "fork" "sun"]
    isStored files (Settings.path env.home) = false ∧ (default.save files (Settings.path env.home)).1 = .ok () ∧
      w.settings.gasLimit = 18446744073709551615 ∧ (load w.files (Settings.path env.home)).1 = .ok ⟨7, "moon"⟩ ∧
      (∃ (s : Settings) (text : String), s.gasLimit.toNat ≤ 2 ^ 63 - 1 ∧ s.fork = "moon" ∧ s.toToml = .ok text ∧
        w.files.read (Settings.path env.home) = .ok text) ∧
      (w.after env .default (.update "gas_limit" "9223372036854775808")).files = w.files := by
  intro env files w
  have hnone : isStored files (Settings.path env.home) = false := by decide +kernel
  have hsave : (default.save files (Settings.path env.home)).1 = .ok () := by decide +kernel
  have hstored : isStored w.files (Settings.path env.home) ≠ false := by decide +kernel
  have hfails : (w.settings.update w.files (Settings.path env.home) "gas_limit" "9223372036854775808").1 =
    .error .outOfRange := by decide +kernel
  obtain ⟨hfile, -, -, hupdate, -⟩ := settings_file_stays_intact env .default files rfl hnone hsave
    [.update "gas_limit" "18446744073709551615", .save, .command "gas_limit" "7", .set "fork" "sun"]
  refine ⟨hnone, hsave, by decide +kernel, by decide +kernel, hfile.resolve_left hstored, ?_⟩
  rcases hresult : w.settings.update w.files (Settings.path env.home) "gas_limit" "9223372036854775808" with
    ⟨r, s, files'⟩
  obtain ⟨hafter, -, hsame⟩ := hupdate _ _ _ _ _ hresult
  rw [hresult] at hfails
  rw [hafter]
  exact hsame _ hfails

end GasMachine.Settings
