import Mathlib
import GasMachine.Proofs.DecimalText
import GasMachine.Proofs.FlagOrSetting
/-
A request is performed if and only if it is well formed, and otherwise the first of its faults is reported.

Each part of a request is judged by itself: the code by whether it is hexadecimal text, the gas limit by whether it
denotes a number of 64 bits, the fork by whether it spells `moon`. `HasFault` lists what is wrong with a request, part
by part, so that a request may have several faults, and `RequestError.rank` puts them in order. A part is refused with
the fault of its own rank, and with no other (`codeOf_eq_error_iff`, `gasOf_eq_error_iff`, `forkOf_eq_error_iff`). The
parts are looked at in the order of the ranks and the first that is refused ends the request (`job_eq_error_iff`), so
the error is the fault of least rank (`job_eq_error_iff_first`).
-/
namespace GasMachine

open Text (Stripped stripped_trim)
open Text.Decimal (Denotes)

/-! ## Names of forks -/

namespace Fork

/-- `s` is `moon` in letters of either case, blanks at its ends apart -/
def IsMoon (s : String) : Prop :=
  ∃ t, Stripped s.toList t ∧ List.Forall₂ (fun c d => c = d ∨ c = d.toUpper) t ['m', 'o', 'o', 'n']

/-- what is a letter in lower case is that letter or its capital -/
theorem toLower_eq_iff {c d : Char} (hd : d.isLower) : c.toLower = d ↔ c = d ∨ c = d.toUpper := by
  have hsame : d.toLower = d := Char.toLower_eq_of_not_isUpper (Char.not_isUpper_of_isLower hd)
  constructor
  · rintro rfl
    by_cases hc : c.isUpper
    · rw [Char.toUpper_toLower_eq_toUpper, Char.toUpper_eq_of_not_isLower (Char.not_isLower_of_isUpper hc)]
      exact .inr rfl
    · exact .inl (Char.toLower_eq_of_not_isUpper hc).symm
  · rintro (rfl | rfl)
    · exact hsame
    · rw [Char.toLower_toUpper_eq_toLower, hsame]

/-- a text that is in lower case some letters is those letters in either case -/
theorem map_toLower_eq_iff {t ds : List Char} (hds : ∀ d ∈ ds, d.isLower) :
    t.map Char.toLower = ds ↔ List.Forall₂ (fun c d => c = d ∨ c = d.toUpper) t ds := by
  rw [← List.forall₂_eq_eq_eq, List.forall₂_map_left_iff]
  induction ds generalizing t with
  | nil => simp
  | cons d ds ih =>
    cases t with
    | nil => simp
    | cons c t =>
      rw [List.forall₂_cons, List.forall₂_cons, toLower_eq_iff (hds d (by simp)), ih fun d hd => hds d (by simp [hd])]

theorem isMoon_iff {s : String} : IsMoon s ↔ (Text.trim s.toList).map Char.toLower = ['m', 'o', 'o', 'n'] := by
  have hletters : ∀ d ∈ ['m', 'o', 'o', 'n'], d.isLower := by simp
  rw [map_toLower_eq_iff hletters]
  constructor
  · rintro ⟨t, ht, h⟩
    rwa [ht.trim_eq]
  · intro h
    exact ⟨_, stripped_trim _, h⟩

/-- a text is read as a fork if and only if it spells the name of the one there is -/
theorem ofName_eq_ok_iff {s : String} {f : Fork} : ofName s = .ok f ↔ IsMoon s := by
  have hname : moon.name.toList.map Char.toLower = ['m', 'o', 'o', 'n'] := by decide
  cases f
  rw [isMoon_iff, ofName, all, List.find?_singleton, sameText, hname, eq_comm (b := ['m', 'o', 'o', 'n'])]
  by_cases h : ['m', 'o', 'o', 'n'] = (Text.trim s.toList).map Char.toLower
  · simp [← h]
  · simp [h]

/-- a text that spells no fork is refused as it was given -/
theorem ofName_eq_error_iff {s : String} {u : UnknownFork} : ofName s = .error u ↔ ¬ IsMoon s ∧ u = ⟨s⟩ := by
  rw [← ofName_eq_ok_iff (f := moon)]
  rcases ofName_cases s with ⟨f, hok⟩ | herror
  · cases f
    simp [hok]
  · simp [herror, eq_comm]

end Fork

/-! ## Well-formed parts and faults -/

theorem mapError_eq_ok_iff {ε ε' α : Type} {x : Except ε α} {f : ε → ε'} {a : α} :
    x.mapError f = .ok a ↔ x = .ok a := by
  cases x <;> simp [Except.mapError]

theorem mapError_eq_error_iff {ε ε' α : Type} {x : Except ε α} {f : ε → ε'} {e : ε'} :
    x.mapError f = .error e ↔ ∃ u, x = .error u ∧ f u = e := by
  cases x <;> simp [Except.mapError]

/-- the place of an error in the order of reporting; the last two share it, as a fork is asked for or else configured -/
def RequestError.rank : RequestError → ℕ
  | missingBytecode => 0
  | invalidBytecode _ => 1
  | invalidGas => 2
  | unknownFork _ | badSettings _ => 3

theorem RequestError.rank_cases (e : RequestError) : e.rank < 2 ∨ e.rank = 2 ∨ e.rank = 3 := by
  cases e <;> simp [rank]

namespace Request

/-- the code is given in hexadecimal text, as `bs` -/
def GivesCode (r : Request) (bs : List UInt8) : Prop :=
  ∃ text, r.bytecode = some text ∧ Text.Hex.decode text = .ok bs

/-- the gas limit is given in decimal text, as `n`, or not at all and it is `n` in the settings -/
def GivesGas (r : Request) (c : Settings) (n : UInt64) : Prop :=
  (∃ text, r.gas = some text ∧ Denotes text n.toNat) ∨ (r.gas = none ∧ n = c.gasLimit)

/-- the fork that is given, or else that of the settings, is spelt right -/
def GivesFork (r : Request) (c : Settings) : Prop := Fork.IsMoon (r.fork.getD c.fork)

/-- what is wrong with a request, each fault whatever the others are -/
inductive HasFault (r : Request) (c : Settings) : RequestError → Prop where
  | noCode : r.bytecode = none → HasFault r c .missingBytecode
  | badCode {text cause} : r.bytecode = some text → Text.Hex.decode text = .error cause →
      HasFault r c (.invalidBytecode cause)
  | badGas {text} : r.gas = some text → (∀ n, Denotes text n → 2 ^ 64 ≤ n) → HasFault r c .invalidGas
  | badFlag {text} : r.fork = some text → ¬ Fork.IsMoon text → HasFault r c (.unknownFork ⟨text⟩)
  | badSetting : r.fork = none → ¬ Fork.IsMoon c.fork → HasFault r c (.badSettings (.unknownFork ⟨c.fork⟩))

variable {r : Request} {c : Settings} {e : RequestError} {code : Bytes} {n : UInt64} {f : Fork}

theorem codeOf_eq_ok_iff : r.codeOf = .ok code ↔ ∃ bs, r.GivesCode bs ∧ code = bs.toArray := by
  constructor
  · intro h
    unfold codeOf at h
    split at h
    · cases h
    · next text htext =>
      split at h
      · next bs hdecode =>
        cases h
        exact ⟨bs, ⟨text, htext, hdecode⟩, rfl⟩
      · cases h
  · rintro ⟨bs, ⟨text, htext, hdecode⟩, rfl⟩
    exact codeOf_of_decode htext hdecode

/-- the code is refused with its faults, of the two lowest ranks -/
theorem codeOf_eq_error_iff : r.codeOf = .error e ↔ r.HasFault c e ∧ e.rank < 2 := by
  constructor
  · intro h
    unfold codeOf at h
    split at h
    · next hnone =>
      cases h
      exact ⟨.noCode hnone, by decide⟩
    · next text htext =>
      split at h
      · cases h
      · next cause hdecode =>
        cases h
        exact ⟨.badCode htext hdecode, Nat.lt_succ_self 1⟩
  · rintro ⟨hfault, hrank⟩
    cases hfault with
    | noCode hnone => simp only [codeOf, hnone]
    | badCode htext hdecode => simp only [codeOf, htext, hdecode]
    | badGas | badFlag | badSetting => simp [RequestError.rank] at hrank

theorem gasOf_eq_ok_iff : r.gasOf c = .ok n ↔ r.GivesGas c n := by
  unfold gasOf GivesGas
  cases r.gas with
  | none => simp [eq_comm]
  | some text =>
    simp only [← Text.Decimal.read?_eq_some_iff, Option.some_inj, exists_eq_left', reduceCtorEq, false_and, or_false]
    cases Text.Decimal.read? text <;> simp

/-- the gas limit is refused with its fault -/
theorem gasOf_eq_error_iff : r.gasOf c = .error e ↔ r.HasFault c e ∧ e.rank = 2 := by
  constructor
  · intro h
    unfold gasOf at h
    split at h
    · cases h
    · next text htext =>
      split at h
      · cases h
      · next hread =>
        cases h
        exact ⟨.badGas htext (Text.Decimal.read?_eq_none_iff.1 hread), rfl⟩
  · rintro ⟨hfault, hrank⟩
    cases hfault with
    | badGas htext hlarge => simp only [gasOf, htext, Text.Decimal.read?_eq_none_iff.2 hlarge]
    | noCode | badCode | badFlag | badSetting => simp [RequestError.rank] at hrank

theorem forkOf_of_none (h : r.fork = none) :
    r.forkOf c = (Fork.ofName c.fork).mapError fun cause => .badSettings (.unknownFork cause) := by
  simp only [forkOf, h, Settings.forkOf]
  cases Fork.ofName c.fork <;> rfl

theorem forkOf_of_some {text : String} (h : r.fork = some text) :
    r.forkOf c = (Fork.ofName text).mapError .unknownFork := by
  simp only [forkOf, h]
  cases Fork.ofName text <;> rfl

theorem forkOf_eq_ok_iff : r.forkOf c = .ok f ↔ r.GivesFork c := by
  unfold GivesFork
  cases hfork : r.fork with
  | none => rw [forkOf_of_none hfork, mapError_eq_ok_iff, Option.getD_none, Fork.ofName_eq_ok_iff]
  | some text => rw [forkOf_of_some hfork, mapError_eq_ok_iff, Option.getD_some, Fork.ofName_eq_ok_iff]

/-- the fork is refused with its fault -/
theorem forkOf_eq_error_iff : r.forkOf c = .error e ↔ r.HasFault c e ∧ e.rank = 3 := by
  constructor
  · intro h
    cases hfork : r.fork with
    | none =>
      rw [forkOf_of_none hfork] at h
      obtain ⟨u, hname, rfl⟩ := mapError_eq_error_iff.1 h
      obtain ⟨hnot, rfl⟩ := Fork.ofName_eq_error_iff.1 hname
      exact ⟨.badSetting hfork hnot, rfl⟩
    | some text =>
      rw [forkOf_of_some hfork] at h
      obtain ⟨u, hname, rfl⟩ := mapError_eq_error_iff.1 h
      obtain ⟨hnot, rfl⟩ := Fork.ofName_eq_error_iff.1 hname
      exact ⟨.badFlag hfork hnot, rfl⟩
  · rintro ⟨hfault, hrank⟩
    cases hfault with
    | badFlag hfork hnot =>
      rw [forkOf_of_some hfork, Fork.ofName_eq_error_iff.2 ⟨hnot, rfl⟩]
      rfl
    | badSetting hfork hnot =>
      rw [forkOf_of_none hfork, Fork.ofName_eq_error_iff.2 ⟨hnot, rfl⟩]
      rfl
    | noCode | badCode | badGas => simp [RequestError.rank] at hrank

/-! ## The whole request -/

/-- a job is made of parts that are all well formed -/
theorem job_eq_ok_iff {j : Job} :
    r.job c = .ok j ↔ r.codeOf = .ok j.code ∧ r.gasOf c = .ok j.gasLimit ∧ r.forkOf c = .ok j.fork := by
  obtain ⟨code, gas, fork⟩ := j
  unfold job
  cases r.codeOf <;> cases r.gasOf c <;> cases r.forkOf c <;> simp

/-- a job is refused for its first part that is refused -/
theorem job_eq_error_iff : r.job c = .error e ↔ r.codeOf = .error e ∨ (∃ code, r.codeOf = .ok code) ∧
    (r.gasOf c = .error e ∨ (∃ n, r.gasOf c = .ok n) ∧ r.forkOf c = .error e) := by
  unfold job
  cases r.codeOf <;> cases r.gasOf c <;> cases r.forkOf c <;> simp

/-- where the code is well formed, no fault is one of the code -/
theorem HasFault.two_le_rank (hfault : r.HasFault c e) (hcode : r.codeOf = .ok code) : 2 ≤ e.rank := by
  by_contra hlt
  rw [codeOf_eq_error_iff.2 ⟨hfault, Nat.lt_of_not_le hlt⟩] at hcode
  cases hcode

/-- where the gas limit is well formed, no fault is one of the gas limit -/
theorem HasFault.rank_ne_two (hfault : r.HasFault c e) (hgas : r.gasOf c = .ok n) : e.rank ≠ 2 := by
  intro hrank
  rw [gasOf_eq_error_iff.2 ⟨hfault, hrank⟩] at hgas
  cases hgas

/-- a job is refused with the first of the faults -/
theorem job_eq_error_iff_first :
    r.job c = .error e ↔ r.HasFault c e ∧ ∀ e', r.HasFault c e' → e.rank ≤ e'.rank := by
  rw [job_eq_error_iff]
  constructor
  · rintro (hcode | ⟨⟨code, hcode⟩, hgas | ⟨⟨n, hgas⟩, hfork⟩⟩)
    · obtain ⟨hfault, hrank⟩ := codeOf_eq_error_iff.1 hcode
      refine ⟨hfault, fun e' hfault' => ?_⟩
      -- a fault of lower rank would be one of the code, which has no two
      by_contra hlt
      have hcode' := codeOf_eq_error_iff.2 ⟨hfault', by omega⟩
      rw [hcode] at hcode'
      cases hcode'
      exact hlt le_rfl
    · obtain ⟨hfault, hrank⟩ := gasOf_eq_error_iff.1 hgas
      refine ⟨hfault, fun e' hfault' => ?_⟩
      rw [hrank]
      exact hfault'.two_le_rank hcode
    · obtain ⟨hfault, hrank⟩ := forkOf_eq_error_iff.1 hfork
      refine ⟨hfault, fun e' hfault' => ?_⟩
      have hlow := hfault'.two_le_rank hcode
      have hmid := hfault'.rank_ne_two hgas
      omega
  · -- the parts before that of the first fault are well formed
    rintro ⟨hfault, hfirst⟩
    have hcode : 2 ≤ e.rank → ∃ code, r.codeOf = .ok code := by
      intro hrank
      cases hcode : r.codeOf with
      | ok code => exact ⟨code, rfl⟩
      | error e' =>
        obtain ⟨hfault', hlow⟩ := codeOf_eq_error_iff.1 hcode
        have hle := hfirst e' hfault'
        omega
    have hgas : 3 ≤ e.rank → ∃ n, r.gasOf c = .ok n := by
      intro hrank
      cases hgas : r.gasOf c with
      | ok n => exact ⟨n, rfl⟩
      | error e' =>
        obtain ⟨hfault', hmid⟩ := gasOf_eq_error_iff.1 hgas
        have hle := hfirst e' hfault'
        omega
    rcases e.rank_cases with hrank | hrank | hrank
    · exact .inl (codeOf_eq_error_iff.2 ⟨hfault, hrank⟩)
    · exact .inr ⟨hcode (by omega), .inl (gasOf_eq_error_iff.2 ⟨hfault, hrank⟩)⟩
    · exact .inr ⟨hcode (by omega), .inr ⟨hgas (by omega), forkOf_eq_error_iff.2 ⟨hfault, hrank⟩⟩⟩

theorem perform_eq_ok_iff {result : Report} :
    r.perform c = .ok result ↔ ∃ j, r.job c = .ok j ∧ result = report j.code j.gasLimit := by
  unfold perform
  cases r.job c <;> simp [eq_comm]

theorem perform_eq_error_iff : r.perform c = .error e ↔ r.job c = .error e := by
  unfold perform
  cases r.job c <;> simp

/-- **A request is performed if and only if it is well formed.** It is answered with a report if and only if its code is
given and is hexadecimal, its gas limit, if given, is decimal text of a number below 2^64, and its fork, or else that
of the settings, spells `moon`; the report is then that of running the code with the gas limit, or else with that of
the settings. It is refused with an error if and only if that is the first of its faults, whatever other faults it
has. -/
theorem perform_exactly_well_formed (r : Request) (c : Settings) :
    (∀ result, r.perform c = .ok result ↔
      ∃ bs n, r.GivesCode bs ∧ r.GivesGas c n ∧ r.GivesFork c ∧ result = report bs.toArray n) ∧
    ∀ e, r.perform c = .error e ↔ r.HasFault c e ∧ ∀ e', r.HasFault c e' → e.rank ≤ e'.rank := by
  constructor
  · intro result
    rw [perform_eq_ok_iff]
    constructor
    · rintro ⟨j, hjob, hresult⟩
      obtain ⟨hcode, hgas, hfork⟩ := job_eq_ok_iff.1 hjob
      obtain ⟨bs, hbs, hj⟩ := codeOf_eq_ok_iff.1 hcode
      rw [hj] at hresult
      exact ⟨bs, j.gasLimit, hbs, gasOf_eq_ok_iff.1 hgas, forkOf_eq_ok_iff.1 hfork, hresult⟩
    · rintro ⟨bs, n, hbs, hgas, hfork, hresult⟩
      have hcode : r.codeOf = .ok bs.toArray := codeOf_eq_ok_iff.2 ⟨bs, hbs, rfl⟩
      exact ⟨⟨bs.toArray, n, .moon⟩,
        job_eq_ok_iff.2 ⟨hcode, gasOf_eq_ok_iff.2 hgas, forkOf_eq_ok_iff.2 hfork⟩, hresult⟩
  · intro e
    rw [perform_eq_error_iff, job_eq_error_iff_first]

/-- a request in unusual spelling is performed; one with every part wrong is refused for its code, and one with
well-formed code for its gas limit, which is the least out of range -/
theorem perform_of_odd_texts :
    let c : Settings := ⟨10, "sun"⟩
    Request.perform ⟨some " 0x6001", some " +0100 ", some "mOON\t"⟩ c = .ok (report #[0x60, 0x01] 100) ∧
      Request.perform ⟨some "6g", some "-1", none⟩ c = .error (.invalidBytecode (.unexpected 'g')) ∧
      Request.perform ⟨some "", some "0018446744073709551616", none⟩ c = .error .invalidGas := by
  intro c
  refine ⟨?_, ?_, ?_⟩
  · have hcode : Text.Hex.decode " 0x6001" = .ok [0x60, 0x01] := by decide +kernel
    have hgas : Denotes " +0100 " (100 : UInt64).toNat := Text.Decimal.read?_eq_some_iff.1 (by decide +kernel)
    have hname : Fork.ofName "mOON\t" = .ok .moon := by decide +kernel
    have hfork : Fork.IsMoon "mOON\t" := Fork.ofName_eq_ok_iff.1 hname
    exact ((perform_exactly_well_formed _ c).1 _).2 ⟨_, 100, ⟨_, rfl, hcode⟩, .inl ⟨_, rfl, hgas⟩, hfork, rfl⟩
  · have hdecode : Text.Hex.decode "6g" = .error (.unexpected 'g') := by decide +kernel
    refine ((perform_exactly_well_formed _ c).2 _).2 ⟨.badCode rfl hdecode, fun e' hfault => ?_⟩
    cases hfault with
    | noCode h => cases h
    | _ => simp [RequestError.rank]
  · have hlarge : Text.Decimal.read? "0018446744073709551616" = none := by decide +kernel
    have hcode : Text.Hex.decode "" = .ok [] := by decide +kernel
    refine ((perform_exactly_well_formed _ c).2 _).2
      ⟨.badGas rfl (Text.Decimal.read?_eq_none_iff.1 hlarge), fun e' hfault => ?_⟩
    exact hfault.two_le_rank (codeOf_of_decode rfl hcode)

end Request

end GasMachine
