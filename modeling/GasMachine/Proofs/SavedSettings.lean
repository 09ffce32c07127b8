import Mathlib.Tactic
import GasMachine.Proofs.SettingsText
import GasMachine.Proofs.StoredFile
/-
Settings that are saved read back as they were.

A text that was written to a file is what is read from it (`Files.Tree.write_ok`), and the text of settings reads back
as those settings (`Settings.ofToml_toToml`). Nothing is asked of the fork, which may be any text. The gas limit has 64
bits and the integers of the file 63: one that does not fit is refused before anything is written.
-/
namespace GasMachine.Settings

open Files (Tree)

variable {s : Settings} {files files' : Tree} {path : String} {place : List String}

/-- settings that fit are written on two lines -/
theorem toToml_of_le (h : s.gasLimit.toNat ≤ 2 ^ 63 - 1) :
    s.toToml = .ok ("gas_limit = " ++ decimal s.gasLimit.toNat ++ "\nfork = " ++
      String.ofList (Toml.Writer.text s.fork.toList) ++ "\n") := by
  have hfits : s.gasLimit.toNat < Nat.pow 2 63 := Nat.lt_of_le_of_lt h (by decide)
  rw [toToml, if_pos hfits]
  refine congrArg Except.ok (String.toList_inj.mp ?_)
  simp [decimal]

/-- settings that do not fit are not written -/
theorem toToml_of_lt (h : 2 ^ 63 - 1 < s.gasLimit.toNat) : s.toToml = .error .outOfRange := by
  refine if_neg ?_
  have hpow : Nat.pow 2 63 = 2 ^ 63 := rfl
  omega

/-- whether the file at a path holds settings, as they are saved -/
structure SavedAt (files : Tree) (path : String) (place : List String) (s : Settings) : Prop where
  writable : files.Writable path place
  text : ∃ text, s.toToml = .ok text ∧ files.node? place = some (.file text.toUTF8)

/-- where the text of settings can be written, they can be saved -/
theorem save_of_write {text : String} (htext : s.toToml = .ok text)
    (hwrite : files.write path text = (.ok (), files')) : s.save files path = (.ok (), files') := by
  simp only [save, htext, hwrite]

/-- saving leaves the settings in the file -/
theorem save_ok (h : s.save files path = (.ok (), files')) : ∃ place, SavedAt files' path place s := by
  unfold save at h
  split at h
  · cases h
  · next text htext =>
    split at h
    · next files₁ hwrite =>
      obtain rfl := congrArg Prod.snd h
      obtain ⟨place, hwritable, hnode⟩ := Tree.write_ok hwrite
      exact ⟨place, hwritable, text, htext, hnode⟩
    · cases h

namespace SavedAt

/-- the file reads as the text of the settings -/
theorem read (h : SavedAt files path place s) : ∃ text, s.toToml = .ok text ∧ files.read path = .ok text := by
  obtain ⟨text, htext, hnode⟩ := h.text
  exact ⟨text, htext, h.writable.read hnode⟩

theorem isStored (h : SavedAt files path place s) : isStored files path = true := by
  obtain ⟨text, -, hnode⟩ := h.text
  rw [Settings.isStored, h.writable.contains_iff, hnode]
  rfl

/-- loading gives the settings back, and changes nothing -/
theorem load (h : SavedAt files path place s) : load files path = (.ok s, files) := by
  obtain ⟨text, htext, hread⟩ := h.read
  rw [Settings.load, if_pos h.isStored, reload, hread]
  exact congrArg (·, files) (ofToml_toToml htext)

end SavedAt

/-- **Saved settings read back.** With a gas limit up to 2^63 - 1, and any text as the fork, the settings have a text;
that text is accepted and gives the same settings; and where it can be written, saving writes it and loading gives the
settings back. With a larger gas limit saving fails, and leaves all files as they were. -/
theorem saved_settings_read_back (s : Settings) (files : Tree) (path : String) :
    (s.gasLimit.toNat ≤ 2 ^ 63 - 1 →
      ∃ text, text = "gas_limit = " ++ decimal s.gasLimit.toNat ++ "\nfork = " ++
          String.ofList (Toml.Writer.text s.fork.toList) ++ "\n" ∧
        s.toToml = .ok text ∧ ofToml text = .ok s ∧
        ∀ files', files.write path text = (.ok (), files') →
          s.save files path = (.ok (), files') ∧ files'.read path = .ok text ∧ load files' path = (.ok s, files')) ∧
    (2 ^ 63 - 1 < s.gasLimit.toNat →
      s.save files path = (.error .outOfRange, files) ∧
        "Parse error: ".toList <+: SettingsError.outOfRange.message.toList) := by
  constructor
  · intro hfits
    have htext := toToml_of_le hfits
    refine ⟨_, rfl, htext, ofToml_toToml htext, fun files' hwrite => ?_⟩
    have hsave := save_of_write htext hwrite
    obtain ⟨place, hsaved⟩ := save_ok hsave
    obtain ⟨text, htext', hread⟩ := hsaved.read
    obtain rfl := Except.ok.inj (htext.symm.trans htext')
    exact ⟨hsave, hread, hsaved.load⟩
  · intro hlarge
    exact ⟨by rw [save, toToml_of_lt hlarge], by decide⟩

/-- the largest gas limit that can be saved with a fork that needs every kind of escape, and the limit above it -/
theorem quoted_settings_read_back :
    let s : Settings := ⟨9223372036854775807, "it's \"quoted\" \\\x07\nön a second line\r"⟩
    let larger : Settings := ⟨9223372036854775808, "moon"⟩
    let files := Tree.withWorking ["home"]
    let path := Settings.path "/home"
    s.gasLimit.toNat ≤ 2 ^ 63 - 1 ∧ 2 ^ 63 - 1 < larger.gasLimit.toNat ∧
      (∃ text files', s.toToml = .ok text ∧ files.write path text = (.ok (), files') ∧
        s.save files path = (.ok (), files') ∧ load files' path = (.ok s, files')) ∧
      larger.save files path = (.error .outOfRange, files) := by
  have hok : ∀ text, ((Tree.withWorking ["home"]).write (Settings.path "/home") text).1 = .ok () := by
    intro text
    rfl
  intro s larger files path
  have hfits : s.gasLimit.toNat ≤ 2 ^ 63 - 1 := by decide
  have hlarge : 2 ^ 63 - 1 < larger.gasLimit.toNat := by decide
  obtain ⟨text, -, htext, -, hload⟩ := (saved_settings_read_back s files path).1 hfits
  have hwrite : files.write path text = (.ok (), (files.write path text).2) := Prod.ext (hok text) rfl
  obtain ⟨hsave, -, hload⟩ := hload _ hwrite
  obtain ⟨hrefused, -⟩ := (saved_settings_read_back larger files path).2 hlarge
  exact ⟨hfits, hlarge, ⟨text, _, htext, hwrite, hsave, hload⟩, hrefused⟩

end GasMachine.Settings
