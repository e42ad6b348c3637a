import Fieldbook.Console.Program
import Fieldbook.Proofs.Json.Numeral
import Fieldbook.Proofs.Text.Words
import Mathlib.Data.Option.Basic

/-!
# Settings in layers

A setting is what its flag says, or else what its variable says, or else its default (`Settings.layered`).
The settings that result are what the program works with, if it goes to work at all
(`Task.settings_eq_ok_iff`). For that they must be usable, and so must the settings that the variables give
by themselves: the variables are judged before a flag takes the place of one, and what is wrong with them is
told whatever the flags say (`Task.settings_of_fault`).
-/

namespace Fieldbook

/-! ## What a setting is taken from -/

/-- What the variables of an environment say, as far as they are set. -/
structure SettingsVariables where
  baseUrl : Option String := none
  indexLimit : Option Nat := none
  batchSize : Option Nat := none
  timeoutSecs : Option Nat := none

/-- The text is a whole number of sixty-four bits, with or without blanks around it. -/
def Settings.IsWhole (raw : String) (n : Nat) : Prop :=
  Decimal.Spells (Text.trim raw).toList n ∧ n < UInt64.size

/-- The variables say this: the root of the catalog as it stands, and numbers where numbers are meant. -/
structure Environment.Says (env : Environment) (given : SettingsVariables) : Prop where
  baseUrl : env Settings.baseUrlVariable = given.baseUrl
  indexLimit : Option.Rel Settings.IsWhole (env Settings.indexLimitVariable) given.indexLimit
  batchSize : Option.Rel Settings.IsWhole (env Settings.batchSizeVariable) given.batchSize
  timeoutSecs : Option.Rel Settings.IsWhole (env Settings.timeoutVariable) given.timeoutSecs

namespace Settings

/-- The settings whose flags and variables are given: a flag goes before a variable, and a variable before
a default. There is no flag for how long a request may take. -/
def layered (flags : SettingsFlags) (given : SettingsVariables) : Settings where
  baseUrl := (flags.baseUrl.or given.baseUrl).getD "https://pokeapi.co/api/v2"
  indexLimit := (flags.indexLimit.or given.indexLimit).getD 2000
  batchSize := (flags.batchSize.or given.batchSize).getD 20
  timeoutSecs := given.timeoutSecs.getD 30

/-- Settings that an ingestion can work with. -/
structure IsUsable (s : Settings) : Prop where
  exists_not_isBlank : ∃ c ∈ s.baseUrl.toList, Text.isBlank c = false
  batchSize_pos : 0 < s.batchSize
  indexLimit_pos : 0 < s.indexLimit

variable {env : Environment} {flags : SettingsFlags} {given : SettingsVariables} {s t : Settings}

/-- **Nothing is wrong with usable settings, and with no others.** -/
theorem fault?_eq_none_iff : s.fault? = none ↔ s.IsUsable := by
  have hcheck {p : Prop} [Decidable p] {e : SettingsError} {rest : Option SettingsError} :
      (if p then some e else rest) = none ↔ ¬ p ∧ rest = none := by
    split <;> simp [*]
  have hblank : ¬ Text.isBlankText s.baseUrl = true ↔ ∃ c ∈ s.baseUrl.toList, Text.isBlank c = false := by
    rw [Text.isBlankText, String.isEmpty_iff, Text.trim_eq_empty_iff]
    simp
  rw [fault?, hcheck, hcheck, hcheck, hblank]
  constructor
  · rintro ⟨hurl, hbatch, hlimit, -⟩
    exact ⟨hurl, Nat.pos_of_ne_zero hbatch, Nat.pos_of_ne_zero hlimit⟩
  · rintro ⟨hurl, hbatch, hlimit⟩
    exact ⟨hurl, Nat.ne_of_gt hbatch, Nat.ne_of_gt hlimit, rfl⟩

/-- Settings are let through as they are, or not at all. -/
theorem validate_eq_ok_iff : s.validate = .ok t ↔ s.IsUsable ∧ t = s := by
  rw [← fault?_eq_none_iff, validate]
  cases s.fault? with
  | none => simp [eq_comm]
  | some e => simp

theorem validate_of_fault {e : SettingsError} (h : s.fault? = some e) : s.validate = .error e := by
  rw [validate, h]

/-! ## Variables, then flags -/

/-- A variable that is set to a whole number gives it, and one that is not set gives none. -/
theorem number?_of_rel {name : String} {number : Option Nat} (h : Option.Rel IsWhole (env name) number) :
    number? env name = .ok number := by
  rw [number?]
  -- Only what is read from the environment matters from here on.
  generalize env name = raw? at h ⊢
  cases h with
  | none => rfl
  | @some raw n hwhole =>
    obtain ⟨hspells, hsize⟩ := hwhole
    have hlimit : n ≤ UInt64.size - 1 := Nat.le_pred_of_lt hsize
    rw [Text.toList_trim] at hspells
    simp only [Decimal.readNat?_eq_some_iff.2 ⟨hspells, hlimit⟩]

/-- **Without flags the settings are the variables' over the defaults.** -/
theorem ofEnvironment_eq (h : env.Says given) : ofEnvironment env = (layered {} given).validate := by
  simp only [ofEnvironment, number?_of_rel h.indexLimit, number?_of_rel h.batchSize,
    number?_of_rel h.timeoutSecs, h.baseUrl, layered, Option.none_or, bind,
    Except.bind]

/-- **Flags are put over whatever lies below.** -/
theorem withFlags_layered : (layered {} given).withFlags flags = layered flags given := by
  simp only [layered, withFlags, Option.getD_or, Option.none_or]

end Settings

namespace Task

open Settings

variable {env : Environment} {given : SettingsVariables}

/-- **What is wrong with the variables is told first**, and no flag makes up for it. -/
theorem settings_of_fault {e : SettingsError} (h : env.Says given) (hfault : (layered {} given).fault? = some e)
    (flags : SettingsFlags) :
    settings env flags = .error ⟨"reading DEXLAB_* settings", [e.message]⟩ := by
  rw [settings, ofEnvironment_eq h, validate_of_fault hfault]

/-- Behind usable variables only the settings with the flags over them count. -/
theorem settings_of_isUsable (h : env.Says given) (husable : (layered {} given).IsUsable)
    (flags : SettingsFlags) (s : Settings) :
    settings env flags = .ok s ↔ (layered flags given).validate = .ok s := by
  rw [settings, ofEnvironment_eq h, validate_eq_ok_iff.2 ⟨husable, rfl⟩]
  dsimp only
  rw [withFlags_layered]
  cases (layered flags given).validate with
  | error e => exact ⟨nofun, nofun⟩
  | ok t => simp only [Except.ok.injEq]

/-- **The program works with the settings of all three layers, if it goes to work at all.** Let the numbers
among the variables be whole numbers. Then, whatever the flags are, settings are found exactly when the
variables give usable settings over the defaults, and so do the flags over both; and they are what the flags
say, or else what the variables say, or else the defaults. Usable settings are those that `validate` lets
through. -/
theorem settings_eq_ok_iff (h : env.Says given) (flags : SettingsFlags) :
    (∀ s, settings env flags = .ok s ↔
      (layered {} given).IsUsable ∧ (layered flags given).IsUsable ∧ s = layered flags given) ∧
      ∀ s : Settings, s.IsUsable ↔ s.validate = .ok s := by
  refine ⟨fun s => ?_, fun s => ?_⟩
  · -- The variables are judged by themselves, and only behind usable ones are the flags looked at.
    cases hfault : (layered {} given).fault? with
    | some e =>
      have hnot : ¬ (layered {} given).IsUsable := fun husable =>
        nomatch hfault.symm.trans (fault?_eq_none_iff.2 husable)
      rw [settings_of_fault h hfault]
      exact ⟨nofun, fun hs => absurd hs.1 hnot⟩
    | none =>
      have husable := fault?_eq_none_iff.1 hfault
      rw [settings_of_isUsable h husable, and_iff_right husable, validate_eq_ok_iff]
  · rw [validate_eq_ok_iff, and_iff_left rfl]

/-- One variable is the largest number there is, another has blanks, a plus and a zero around its number. -/
def roomyEnvironment : Environment := fun name =>
  List.lookup name [("DEXLAB_BATCH_SIZE", " +03\t"), ("DEXLAB_INDEX_LIMIT", "18446744073709551615")]

/-- Flags over variables over defaults. -/
theorem settings_eq_ok_iff_roomy :
    roomyEnvironment.Says { indexLimit := some (UInt64.size - 1), batchSize := some 3 } ∧
      settings roomyEnvironment { baseUrl := some "http://localhost:8080", indexLimit := some 151 } =
        .ok { baseUrl := "http://localhost:8080", indexLimit := 151, batchSize := 3, timeoutSecs := 30 } := by
  have hgiven : roomyEnvironment.Says { indexLimit := some (UInt64.size - 1), batchSize := some 3 } :=
    { baseUrl := rfl
      indexLimit := .some ⟨⟨"18446744073709551615".toList, .inl (by decide +kernel), by decide,
        List.all_eq_true.1 (by decide), by decide⟩, by decide⟩
      batchSize := .some ⟨⟨['0', '3'], .inr (by decide +kernel), by decide,
        List.all_eq_true.1 (by decide), by decide⟩, by decide⟩
      timeoutSecs := .none }
  refine ⟨hgiven, ((settings_eq_ok_iff hgiven _).1 _).2 ⟨?_, ?_, rfl⟩⟩
  · exact ⟨⟨'h', by decide, by decide⟩, by decide, by decide⟩
  · exact ⟨⟨'h', by decide, by decide⟩, by decide, by decide⟩

/-- A variable that is a whole number, but not one that an ingestion can work with. -/
def emptyBatches : Environment := fun name => List.lookup name [("DEXLAB_BATCH_SIZE", "0")]

/-- A flag in place of the variable does not help, though the settings with it are usable. -/
theorem settings_emptyBatches :
    emptyBatches.Says { batchSize := some 0 } ∧
      (layered { batchSize := some 5 } { batchSize := some 0 }).IsUsable ∧
      settings emptyBatches { batchSize := some 5 } =
        .error ⟨"reading DEXLAB_* settings", ["Invalid configuration: batch_size must be at least 1"]⟩ := by
  have hgiven : emptyBatches.Says { batchSize := some 0 } :=
    { baseUrl := rfl
      indexLimit := .none
      batchSize := .some ⟨⟨['0'], .inl (by decide +kernel), by decide,
        List.all_eq_true.1 (by decide), by decide⟩, by decide⟩
      timeoutSecs := .none }
  have hfault : (layered {} { batchSize := some 0 }).fault? = some .zeroBatchSize := by decide +kernel
  exact ⟨hgiven, ⟨⟨'h', by decide, by decide⟩, by decide, by decide⟩, settings_of_fault hgiven hfault _⟩

end Task

end Fieldbook
