import Mathlib.Tactic
import GasMachine.Command.Request
/-
A flag of a request and a setting of the same value mean the same.

A request names its gas limit and its fork in texts of its own, or leaves them to the settings, into which such texts go
by `Settings.set`. The two ways accept the same texts: each list of cases below (`set_gasLimit_cases`, `set_fork_cases`)
is told by the reader that the flag is read with. A fork is kept in the settings by its name in lower case and read
again when it is used, so the way through the settings is longer by one reading (`Fork.ofName_key`).

A job is made of three parts, which are looked at in turn: the code, the gas limit, the fork. Two requests with the same
parts get the same job (`job_congr`), and the first part that is refused decides the error (`job_of_gas_error`,
`job_of_fork_error`).
-/
namespace GasMachine

/-! ## Texts into settings -/

namespace Fork

/-- a text that names no fork is told as it was given -/
theorem ofName_cases (v : String) : (∃ f, ofName v = .ok f) ∨ ofName v = .error ⟨v⟩ := by
  unfold ofName
  split
  · exact .inl ⟨_, rfl⟩
  · exact .inr rfl

/-- the name that the settings keep of a fork names it -/
theorem ofName_key (f : Fork) : ofName f.key = .ok f := by
  cases f
  decide +kernel

end Fork

namespace Settings

/-- a text becomes the gas limit if and only if it reads as a number -/
theorem set_gasLimit_cases (s : Settings) (v : String) :
    (∃ n, Text.Decimal.read? v = some n ∧ s.set "gas_limit" v = .ok { s with gasLimit := n }) ∨
    (Text.Decimal.read? v = none ∧ s.set "gas_limit" v = .error (.badGasLimit v)) := by
  simp only [set, if_true]
  cases Text.Decimal.read? v with
  | none => exact .inr ⟨rfl, rfl⟩
  | some n => exact .inl ⟨n, rfl, rfl⟩

/-- a text becomes the fork if and only if it names one -/
theorem set_fork_cases (s : Settings) (v : String) :
    (∃ f, Fork.ofName v = .ok f ∧ s.set "fork" v = .ok { s with fork := f.key }) ∨
    (Fork.ofName v = .error ⟨v⟩ ∧ s.set "fork" v = .error (.unknownFork ⟨v⟩)) := by
  have hkey : ("fork" = "gas_limit") = False := by decide
  simp only [set, hkey, if_false, if_true]
  rcases Fork.ofName_cases v with ⟨f, hf⟩ | hnone
  · rw [hf]
    exact .inl ⟨f, rfl, rfl⟩
  · rw [hnone]
    exact .inr ⟨rfl, rfl⟩

/-- settings with the name of a fork have that fork -/
theorem forkOf_key (s : Settings) (f : Fork) : forkOf { s with fork := f.key } = .ok f := by
  rw [forkOf, f.ofName_key]
  rfl

end Settings

/-! ## Parts of a job -/

namespace Request

variable {r r' : Request} {s s' : Settings} {e : RequestError} {code : Bytes}

/-- the same parts are the same job, refused or not -/
theorem job_congr (hcode : r.codeOf = r'.codeOf) (hgas : r.gasOf s = r'.gasOf s') (hfork : r.forkOf s = r'.forkOf s') :
    r.job s = r'.job s' := by
  rw [job, job, hcode, hgas, hfork]

theorem perform_congr (h : r.job s = r'.job s') : r.perform s = r'.perform s' := by
  rw [perform, perform, h]

theorem perform_of_job_error (h : r.job s = .error e) : r.perform s = .error e := by
  rw [perform, h]

theorem job_of_gas_error (hcode : r.codeOf = .ok code) (hgas : r.gasOf s = .error e) : r.job s = .error e := by
  rw [job, hcode]
  simp only [hgas]

theorem job_of_fork_error {gas : UInt64} (hcode : r.codeOf = .ok code) (hgas : r.gasOf s = .ok gas)
    (hfork : r.forkOf s = .error e) : r.job s = .error e := by
  rw [job, hcode]
  simp only [hgas, hfork]

/-- a gas limit that is refused leaves no job -/
theorem refused_of_gas_error (hgas : r.gasOf s = .error e) : ∃ e', r.job s = .error e' := by
  cases hcode : r.codeOf with
  | error e' => exact ⟨e', by rw [job, hcode]⟩
  | ok code => exact ⟨e, job_of_gas_error hcode hgas⟩

/-- a fork that is refused leaves no job -/
theorem refused_of_fork_error (hfork : r.forkOf s = .error e) : ∃ e', r.job s = .error e' := by
  cases hgas : r.gasOf s with
  | error e' => exact refused_of_gas_error hgas
  | ok gas =>
    cases hcode : r.codeOf with
    | error e' => exact ⟨e', by rw [job, hcode]⟩
    | ok code => exact ⟨e, job_of_fork_error hcode hgas hfork⟩

theorem codeOf_of_decode {text : String} {bs : List UInt8} (htext : r.bytecode = some text)
    (hdecode : Text.Hex.decode text = .ok bs) : r.codeOf = .ok bs.toArray := by
  simp only [codeOf, htext, hdecode]

theorem gasOf_of_read (h : ∀ g, r.gas = some g → ∃ n, Text.Decimal.read? g = some n) (s : Settings) :
    ∃ n, r.gasOf s = .ok n := by
  unfold gasOf
  cases hgas : r.gas with
  | none => exact ⟨s.gasLimit, rfl⟩
  | some g =>
    obtain ⟨n, hn⟩ := h g hgas
    exact ⟨n, by simp only [hn]⟩

/-! ## Flags and settings -/

/-- **A flag and a setting of the same value mean the same.** If a text can be set as the gas limit, a request with it
as its flag does what the request without the flag does under the settings with it; if it cannot be set, such a request
leaves no job, and is refused for its gas limit where the code is well formed. The same holds of the fork, which is
refused with the text as it was given where code and gas limit are well formed. With both flags given, settings make no
difference. -/
theorem flag_means_setting (r : Request) (c : Settings) (v : String) :
    (∀ c', c.set "gas_limit" v = .ok c' →
      { r with gas := some v }.perform c = { r with gas := none }.perform c') ∧
    (∀ e, c.set "gas_limit" v = .error e →
      (∃ e', { r with gas := some v }.job c = .error e' ∧ { r with gas := some v }.perform c = .error e') ∧
      ∀ text bs, r.bytecode = some text → Text.Hex.decode text = .ok bs →
        { r with gas := some v }.perform c = .error .invalidGas) ∧
    (∀ c', c.set "fork" v = .ok c' →
      { r with fork := some v }.perform c = { r with fork := none }.perform c') ∧
    (∀ e, c.set "fork" v = .error e →
      (∃ e', { r with fork := some v }.job c = .error e' ∧ { r with fork := some v }.perform c = .error e') ∧
      ∀ text bs, r.bytecode = some text → Text.Hex.decode text = .ok bs →
        (∀ g, r.gas = some g → ∃ n, Text.Decimal.read? g = some n) →
        { r with fork := some v }.perform c = .error (.unknownFork ⟨v⟩)) ∧
    ∀ (g f : String) (c' : Settings),
      { r with gas := some g, fork := some f }.perform c = { r with gas := some g, fork := some f }.perform c' := by
  refine ⟨?_, ?_, ?_, ?_, ?_⟩
  · intro c' hset
    rcases c.set_gasLimit_cases v with ⟨n, hread, hok⟩ | ⟨-, herror⟩
    · rw [hok] at hset
      cases hset
      refine perform_congr (job_congr rfl ?_ rfl)
      simp only [gasOf, hread]
    · rw [herror] at hset
      cases hset
  · intro e hset
    rcases c.set_gasLimit_cases v with ⟨n, -, hok⟩ | ⟨hread, -⟩
    · rw [hok] at hset
      cases hset
    · have hgas : { r with gas := some v }.gasOf c = .error .invalidGas := by simp only [gasOf, hread]
      obtain ⟨e', hjob⟩ := refused_of_gas_error hgas
      refine ⟨⟨e', hjob, perform_of_job_error hjob⟩, ?_⟩
      intro text bs htext hdecode
      exact perform_of_job_error (job_of_gas_error (codeOf_of_decode htext hdecode) hgas)
  · intro c' hset
    rcases c.set_fork_cases v with ⟨f, hname, hok⟩ | ⟨-, herror⟩
    · rw [hok] at hset
      cases hset
      refine perform_congr (job_congr rfl rfl ?_)
      simp only [forkOf, hname, c.forkOf_key]
    · rw [herror] at hset
      cases hset
  · intro e hset
    rcases c.set_fork_cases v with ⟨f, -, hok⟩ | ⟨hname, -⟩
    · rw [hok] at hset
      cases hset
    · have hfork : { r with fork := some v }.forkOf c = .error (.unknownFork ⟨v⟩) := by simp only [forkOf, hname]
      obtain ⟨e', hjob⟩ := refused_of_fork_error hfork
      refine ⟨⟨e', hjob, perform_of_job_error hjob⟩, ?_⟩
      intro text bs htext hdecode hgas
      obtain ⟨n, hn⟩ := gasOf_of_read (r := { r with fork := some v }) hgas c
      exact perform_of_job_error (job_of_fork_error (codeOf_of_decode htext hdecode) hn hfork)
  · intro g f c'
    exact perform_congr (job_congr rfl rfl rfl)

/-- a gas limit with blanks, a sign and leading zeros, one below zero, a fork in capitals, and one that is none -/
theorem flags_of_unusual_texts :
    let r : Request := ⟨some "0x600161000101", none, none⟩
    let c : Settings := ⟨10, "moon"⟩
    { r with gas := some " +0100 " }.perform c = { r with gas := none }.perform ⟨100, "moon"⟩ ∧
      { r with gas := some "-1" }.perform c = .error .invalidGas ∧
      { r with fork := some "MOON\t" }.perform c = { r with fork := none }.perform c ∧
      { r with fork := some " sun" }.perform c = .error (.unknownFork ⟨" sun"⟩) := by
  intro r c
  have hcode : Text.Hex.decode "0x600161000101" = .ok [0x60, 0x01, 0x61, 0x00, 0x01, 0x01] := by decide +kernel
  refine ⟨?_, ?_, ?_, ?_⟩
  · exact (flag_means_setting r c " +0100 ").1 _ (by decide +kernel)
  · have hset : c.set "gas_limit" "-1" = .error (.badGasLimit "-1") := by decide +kernel
    exact ((flag_means_setting r c "-1").2.1 _ hset).2 _ _ rfl hcode
  · exact (flag_means_setting r c "MOON\t").2.2.1 _ (by decide +kernel)
  · have hset : c.set "fork" " sun" = .error (.unknownFork ⟨" sun"⟩) := by decide +kernel
    exact ((flag_means_setting r c " sun").2.2.2.1 _ hset).2 _ _ rfl hcode (by simp [r])

end Request

end GasMachine
