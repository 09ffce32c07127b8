import Mathlib.Tactic
import GasMachine.Command.Program
/-
What the subcommand for settings does to the files, where no log file is asked for.

Log lines then go to standard output, whatever the filters let through (`Session.emit_eq`), so all that happens to the
files is what loading and updating the settings do to them. `perform_config_files` says it of the whole program.
-/
namespace GasMachine.Command

open Files (Tree)

namespace Session

/-- a line for sinks that are no files only adds to standard output -/
theorem foldl_writeTo {sinks : List Log.Sink} (h : ∀ sink ∈ sinks, sink.file = none) (e : Log.Event) (s : Session) :
    ∃ stdout, sinks.foldl (writeTo e) s = { s with stdout } := by
  induction sinks generalizing s with
  | nil => exact ⟨s.stdout, rfl⟩
  | cons sink sinks ih =>
    have hfirst : ∃ stdout, writeTo e s sink = { s with stdout } := by
      unfold writeTo
      rw [h sink (by simp)]
      split_ifs
      · exact ⟨_, rfl⟩
      · exact ⟨s.stdout, rfl⟩
    obtain ⟨stdout, hfirst⟩ := hfirst
    rw [List.foldl_cons, hfirst]
    exact ih (fun sink hsink => h sink (by simp [hsink])) _

variable {s : Session}

theorem emit_eq (h : ∀ sink ∈ s.sinks, sink.file = none) (e : Log.Event) : ∃ stdout, s.emit e = { s with stdout } :=
  foldl_writeTo h e s

theorem emit_files (h : ∀ sink ∈ s.sinks, sink.file = none) (e : Log.Event) : (s.emit e).files = s.files := by
  obtain ⟨stdout, hemit⟩ := emit_eq h e
  rw [hemit]

/-- the settings are loaded as they are without a session around them -/
theorem loadSettings_eq (h : ∀ sink ∈ s.sinks, sink.file = none) :
    ∃ stdout, s.loadSettings =
      ((Settings.load s.files (Settings.path s.env.home)).1,
       { s with stdout, files := (Settings.load s.files (Settings.path s.env.home)).2 }) := by
  simp only [loadSettings]
  split_ifs
  · exact ⟨s.stdout, rfl⟩
  · obtain ⟨stdout, hemit⟩ := emit_eq h (creatingSettings (Settings.path s.env.home))
    rw [hemit]
    exact ⟨stdout, rfl⟩

/-- the files after settings are shown are those after they are loaded -/
theorem showSettings_files (h : ∀ sink ∈ s.sinks, sink.file = none) :
    s.showSettings.files = (Settings.load s.files (Settings.path s.env.home)).2 := by
  obtain ⟨stdout, hload⟩ := loadSettings_eq h
  unfold showSettings
  rw [hload]
  rcases Settings.load s.files (Settings.path s.env.home) with ⟨e | settings, files⟩
  · rfl
  · simp only
    refine emit_files ?_ settingsHint
    exact h

/-- the files after a value is changed are those after the settings are loaded and updated -/
theorem changeSettings_files (h : ∀ sink ∈ s.sinks, sink.file = none) (key value : String) :
    (s.changeSettings key value).files =
      match Settings.load s.files (Settings.path s.env.home) with
      | (.error _, files) => files
      | (.ok settings, files) => (settings.update files (Settings.path s.env.home) key value).2.2 := by
  obtain ⟨stdout, hload⟩ := loadSettings_eq h
  unfold changeSettings
  rw [hload]
  rcases Settings.load s.files (Settings.path s.env.home) with ⟨e | settings, files⟩
  · rfl
  · rcases hupdate : settings.update files (Settings.path s.env.home) key value with ⟨e | u, settings', files'⟩
    · simp only [hupdate]
      rfl
    · simp only [hupdate]
      refine emit_files ?_ (updatedSettings key value)
      exact h

end Session

/-- without a log file, the logs go to standard output, and no file is opened -/
theorem start_eq {options : Log.Options} (h : options.fileDirectory = none) (env : Environment) (files : Tree) :
    ∃ sinks complaints, Log.start options env files = { sinks, complaints, files } ∧
      ∀ sink ∈ sinks, sink.file = none := by
  simp only [Log.start, h]
  split
  · exact ⟨[], _, rfl, by simp⟩
  · exact ⟨[_], _, rfl, by simp⟩

/-- complaints only add to standard error -/
theorem foldl_complain (lines : List String) (s : Session) :
    ∃ stderr, lines.foldl Session.complain s = { s with stderr } := by
  induction lines generalizing s with
  | nil => exact ⟨s.stderr, rfl⟩
  | cons line lines ih => exact ih (s.complain line)

/-- without a log file, a session starts with all files as they were -/
theorem startSession_quiet {options : Log.Options} (h : options.fileDirectory = none) (env : Environment)
    (files : Tree) :
    (startSession env options files).env = env ∧ (startSession env options files).files = files ∧
      ∀ sink ∈ (startSession env options files).sinks, sink.file = none := by
  obtain ⟨sinks, complaints, hstart, hsinks⟩ := start_eq h env files
  obtain ⟨stderr, hstderr⟩ := foldl_complain complaints { env, sinks, stdout := "", stderr := "", files }
  simpa only [startSession, hstart, hstderr, h, true_and] using hsinks

/-- **What the program does to the files when it is asked to configure.** Without a key it loads the settings; with a
key alone it does nothing; with a key and a value it loads the settings and updates them. -/
theorem perform_config_files {options : Log.Options} (h : options.fileDirectory = none) (env : Environment)
    (files : Tree) (key value : String) :
    (perform env files (.ok ⟨options, .config key value⟩)).files =
      if key = "" then (Settings.load files (Settings.path env.home)).2
      else if value = "" then files
      else match Settings.load files (Settings.path env.home) with
        | (.error _, files') => files'
        | (.ok settings, files') => (settings.update files' (Settings.path env.home) key value).2.2 := by
  obtain ⟨henv, hfiles, hsinks⟩ := startSession_quiet h env files
  simp only [perform, Session.configTask]
  split_ifs with hkey hvalue
  · rw [Session.showSettings_files hsinks, hfiles, henv]
  · exact (Session.emit_files hsinks valueMissing).trans hfiles
  · rw [Session.changeSettings_files hsinks, hfiles, henv]

end GasMachine.Command
