import Nomen.Command.Run
import Nomen.Proofs.Json.Reading
import Nomen.Proofs.Validation

namespace Nomen

open Json (bind_eq_ok bind_eq_error)

def Files.Holds (files : Files) (path : String) (unit : TypeUnit) : Prop :=
  ∃ text, files.readText path = .ok text ∧ TypeUnit.ofText text = .ok unit

theorem Files.Holds.unique {files : Files} {path : String} {unit other : TypeUnit}
    (h : files.Holds path unit) (ho : files.Holds path other) : unit = other := by
  obtain ⟨text, ht, hu⟩ := h
  obtain ⟨read, hr, ho⟩ := ho
  obtain rfl : text = read := Except.ok.inj (ht.symm.trans hr)
  exact Except.ok.inj (hu.symm.trans ho)

section Results

variable {ε δ α : Type}

theorem mapError_eq_ok {x : Except ε α} {f : ε → δ} {a : α} : x.mapError f = .ok a ↔ x = .ok a := by
  cases x <;> simp [Except.mapError]

theorem mapError_eq_error {x : Except ε α} {f : ε → δ} {d : δ} :
    x.mapError f = .error d ↔ ∃ e, x = .error e ∧ f e = d := by
  cases x <;> simp [Except.mapError]

end Results

theorem loadUnit_eq_ok_iff {files : Files} {path : String} {unit : TypeUnit} :
    loadUnit files path = .ok unit ↔ files.Holds path unit := by
  rw [loadUnit, Files.Holds]
  cases files.readText path with
  | error fault => simp
  | ok text => simp [mapError_eq_ok]

theorem loadUnit_eq_error_iff {files : Files} {path : String} {failure : Failure} :
    loadUnit files path = .error failure ↔
      (∃ fault, files.readText path = .error fault ∧ .input path fault = failure) ∨
      ∃ text misfit, files.readText path = .ok text ∧ TypeUnit.ofText text = .error misfit ∧
        .document text misfit = failure := by
  rw [loadUnit]
  cases files.readText path with
  | error fault => simp
  | ok text => simp [mapError_eq_error]

theorem checkResult_eq_ok_iff {input : String} {files : Files} {text : String} :
    checkResult input files = .ok text ↔ ∃ unit, files.Holds input unit ∧
      unit.procedures ≠ [] ∧ unit.defect? = none ∧ unit.summary = text := by
  rw [checkResult, bind_eq_ok]
  simp only [mapError_eq_ok, loadUnit_eq_ok_iff]
  constructor
  · rintro ⟨unit, hu, h⟩
    split at h
    · cases h
    · next hne =>
      obtain ⟨_, hw, h⟩ := bind_eq_ok.mp h
      rw [mapError_eq_ok, TypeUnit.requireWellFormed_eq_ok_iff] at hw
      exact ⟨unit, hu, by simpa using hne, hw, Except.ok.inj h⟩
  · rintro ⟨unit, hu, hne, hw, rfl⟩
    refine ⟨unit, hu, ?_⟩
    rw [if_neg (by simpa using hne), bind_eq_ok]
    exact ⟨(), mapError_eq_ok.mpr (TypeUnit.requireWellFormed_eq_ok_iff.mpr hw), rfl⟩

namespace NameOptions

def KnownFormat (options : NameOptions) : Prop :=
  options.format = "text" ∨ options.format = "json"

theorem ofName?_eq_none_iff {options : NameOptions} :
    Format.ofName? options.format = none ↔ ¬ options.KnownFormat := by
  rw [KnownFormat]
  unfold Format.ofName?
  split <;> simp_all

theorem exists_format_iff {options : NameOptions} :
    (∃ format, Format.ofName? options.format = some format) ↔ options.KnownFormat := by
  rw [← not_iff_not, ← ofName?_eq_none_iff, Option.eq_none_iff_forall_ne_some, not_exists]

theorem settings_eq_error_iff {options : NameOptions} {files : Files} {failure : Failure} :
    options.settings files = .error failure ↔ ∃ path, options.config = some path ∧
      ((∃ fault, files.readText path = .error fault ∧ .config path fault = failure) ∨
      ∃ text misfit, files.readText path = .ok text ∧ Settings.ofText text = .error misfit ∧
        .settings text misfit = failure) := by
  rw [settings]
  cases options.config with
  | none => simp [pure, Except.pure, bind_eq_error]
  | some path =>
    cases hread : files.readText path with
    | error fault => simp [hread]
    | ok text => simp [bind_eq_error, mapError_eq_error, hread, pure, Except.pure]

/-- Why naming is rejected: the format, the input, its form, a procedure in it, and the settings are
looked at in this order. -/
inductive Rejects (options : NameOptions) (files : Files) : Failure → Prop where
  | format (h : ¬ options.KnownFormat) : Rejects options files (.format options.format)
  | input {fault : FileFault} (hf : options.KnownFormat)
      (h : files.readText options.input = .error fault) :
      Rejects options files (.input options.input fault)
  | document {text : String} {misfit : Json.Misfit} (hf : options.KnownFormat)
      (ht : files.readText options.input = .ok text) (h : TypeUnit.ofText text = .error misfit) :
      Rejects options files (.document text misfit)
  | procedure {unit : TypeUnit} {name : String} {defect : Defect} (hf : options.KnownFormat)
      (hu : files.Holds options.input unit) (h : unit.defect? = some (name, defect)) :
      Rejects options files (.procedure name defect)
  | config {unit : TypeUnit} {path : String} {fault : FileFault} (hf : options.KnownFormat)
      (hu : files.Holds options.input unit) (hd : unit.defect? = none)
      (hc : options.config = some path) (h : files.readText path = .error fault) :
      Rejects options files (.config path fault)
  | settings {unit : TypeUnit} {path text : String} {misfit : Json.Misfit}
      (hf : options.KnownFormat) (hu : files.Holds options.input unit) (hd : unit.defect? = none)
      (hc : options.config = some path) (ht : files.readText path = .ok text)
      (h : Settings.ofText text = .error misfit) : Rejects options files (.settings text misfit)

theorem result_of_not_knownFormat {options : NameOptions} (h : ¬ options.KnownFormat)
    (files : Files) : options.result files = .error (.format options.format) := by
  rw [result, ofName?_eq_none_iff.mpr h]
  rfl

theorem result_of_format {options : NameOptions} {format : Format}
    (h : Format.ofName? options.format = some format) (files : Files) :
    options.result files = (do
      let unit ← loadUnit files options.input
      let _ ← unit.requireWellFormed
      let settings ← options.settings files
      return options.render format unit settings) := by
  rw [result, h]
  rfl

theorem result_eq_ok_iff {options : NameOptions} {files : Files} {text : String} :
    options.result files = .ok text ↔ ∃ format unit settings,
      Format.ofName? options.format = some format ∧ files.Holds options.input unit ∧
        unit.defect? = none ∧ options.settings files = .ok settings ∧
        options.render format unit settings = text := by
  constructor
  · intro h
    have hk : options.KnownFormat := by
      by_contra hk
      cases (result_of_not_knownFormat hk files).symm.trans h
    obtain ⟨format, hf⟩ := exists_format_iff.mpr hk
    rw [result_of_format hf] at h
    obtain ⟨unit, hu, h⟩ := bind_eq_ok.mp h
    obtain ⟨_, hw, h⟩ := bind_eq_ok.mp h
    obtain ⟨settings, hs, h⟩ := bind_eq_ok.mp h
    exact ⟨format, unit, settings, hf, loadUnit_eq_ok_iff.mp hu,
      TypeUnit.requireWellFormed_eq_ok_iff.mp hw, hs, Except.ok.inj h⟩
  · rintro ⟨format, unit, settings, hf, hu, hw, hs, rfl⟩
    rw [result_of_format hf]
    exact bind_eq_ok.mpr ⟨unit, loadUnit_eq_ok_iff.mpr hu, bind_eq_ok.mpr
      ⟨(), TypeUnit.requireWellFormed_eq_ok_iff.mpr hw, bind_eq_ok.mpr ⟨settings, hs, rfl⟩⟩⟩

theorem rejects_of_result {options : NameOptions} {files : Files} {failure : Failure}
    (h : options.result files = .error failure) : options.Rejects files failure := by
  by_cases hk : options.KnownFormat
  · obtain ⟨format, hf⟩ := exists_format_iff.mpr hk
    rw [result_of_format hf] at h
    rcases bind_eq_error.mp h with hu | ⟨unit, hu, h⟩
    · rcases loadUnit_eq_error_iff.mp hu with ⟨fault, hr, rfl⟩ | ⟨text, misfit, hr, hm, rfl⟩
      · exact .input hk hr
      · exact .document hk hr hm
    rw [loadUnit_eq_ok_iff] at hu
    rcases bind_eq_error.mp h with hw | ⟨_, hw, h⟩
    · obtain ⟨name, defect, hd, rfl⟩ := TypeUnit.requireWellFormed_eq_error_iff.mp hw
      exact .procedure hk hu hd
    rw [TypeUnit.requireWellFormed_eq_ok_iff] at hw
    rcases bind_eq_error.mp h with hs | ⟨settings, -, h⟩
    · obtain ⟨path, hc, ⟨fault, hr, rfl⟩ | ⟨text, misfit, hr, hm, rfl⟩⟩ :=
        settings_eq_error_iff.mp hs
      · exact .config hk hu hw hc hr
      · exact .settings hk hu hw hc hr hm
    · cases h
  · obtain rfl := Except.error.inj ((result_of_not_knownFormat hk files).symm.trans h)
    exact .format hk

theorem Rejects.result {options : NameOptions} {files : Files} {failure : Failure}
    (h : options.Rejects files failure) : options.result files = .error failure := by
  -- Everything before the step that fails went well, so the step is reached.
  cases h with
  | format hk => exact result_of_not_knownFormat hk files
  | input hk hr =>
    obtain ⟨format, hf⟩ := exists_format_iff.mpr hk
    rw [result_of_format hf, bind_eq_error]
    exact .inl (loadUnit_eq_error_iff.mpr (.inl ⟨_, hr, rfl⟩))
  | document hk hr hm =>
    obtain ⟨format, hf⟩ := exists_format_iff.mpr hk
    rw [result_of_format hf, bind_eq_error]
    exact .inl (loadUnit_eq_error_iff.mpr (.inr ⟨_, _, hr, hm, rfl⟩))
  | procedure hk hu hd =>
    obtain ⟨format, hf⟩ := exists_format_iff.mpr hk
    rw [result_of_format hf, bind_eq_error]
    refine .inr ⟨_, loadUnit_eq_ok_iff.mpr hu, bind_eq_error.mpr (.inl ?_)⟩
    exact TypeUnit.requireWellFormed_eq_error_iff.mpr ⟨_, _, hd, rfl⟩
  | config hk hu hw hc hr =>
    obtain ⟨format, hf⟩ := exists_format_iff.mpr hk
    rw [result_of_format hf, bind_eq_error]
    refine .inr ⟨_, loadUnit_eq_ok_iff.mpr hu, bind_eq_error.mpr (.inr ⟨(), ?_, ?_⟩)⟩
    · exact TypeUnit.requireWellFormed_eq_ok_iff.mpr hw
    · exact bind_eq_error.mpr (.inl (settings_eq_error_iff.mpr ⟨_, hc, .inl ⟨_, hr, rfl⟩⟩))
  | settings hk hu hw hc hr hm =>
    obtain ⟨format, hf⟩ := exists_format_iff.mpr hk
    rw [result_of_format hf, bind_eq_error]
    refine .inr ⟨_, loadUnit_eq_ok_iff.mpr hu, bind_eq_error.mpr (.inr ⟨(), ?_, ?_⟩)⟩
    · exact TypeUnit.requireWellFormed_eq_ok_iff.mpr hw
    · exact bind_eq_error.mpr
        (.inl (settings_eq_error_iff.mpr ⟨_, hc, .inr ⟨_, _, hr, hm, rfl⟩⟩))

theorem Rejects.ne_output {options : NameOptions} {files : Files} {failure : Failure}
    (h : options.Rejects files failure) (fault : FileFault) : failure ≠ .output fault := by
  cases h <;> simp

theorem Rejects.run {options : NameOptions} {files : Files} {failure : Failure}
    (h : options.Rejects files failure) : options.run files = ⟨"", files, some failure⟩ := by
  rw [NameOptions.run, h.result]

theorem rejects_of_run {options : NameOptions} {files : Files} {failure : Failure}
    (h : (options.run files).failure = some failure) (hne : ∀ fault, failure ≠ .output fault) :
    options.Rejects files failure := by
  apply rejects_of_result
  rw [NameOptions.run] at h
  cases hr : options.result files with
  | error stopped =>
    rw [hr] at h
    rw [Option.some.inj h]
  | ok text =>
    simp only [hr] at h
    split at h
    · cases h
    · split at h
      · exact absurd (Option.some.inj h).symm (hne _)
      · cases h

theorem run_failure_eq_none_iff {options : NameOptions} (ho : options.output = none)
    {files : Files} : (options.run files).failure = none ↔ ∃ text, options.result files = .ok text := by
  rw [NameOptions.run, ho]
  cases options.result files with
  | error failure => simp
  | ok text => simp

theorem exists_settings {options : NameOptions} (hc : options.config = none) (files : Files) :
    ∃ settings, options.settings files = .ok settings := by
  cases hs : options.settings files with
  | ok settings => exact ⟨settings, rfl⟩
  | error failure =>
    obtain ⟨path, hpath, -⟩ := settings_eq_error_iff.mp hs
    cases hc.symm.trans hpath

theorem exists_result_iff {options : NameOptions} (hk : options.KnownFormat)
    (hc : options.config = none) {files : Files} :
    (∃ text, options.result files = .ok text) ↔
      ∃ unit, files.Holds options.input unit ∧ unit.defect? = none := by
  obtain ⟨format, hf⟩ := exists_format_iff.mpr hk
  obtain ⟨settings, hs⟩ := exists_settings hc files
  simp only [result_eq_ok_iff]
  constructor
  · rintro ⟨_, _, unit, _, -, hu, hd, -⟩
    exact ⟨unit, hu, hd⟩
  · rintro ⟨unit, hu, hd⟩
    exact ⟨_, format, unit, settings, hf, hu, hd, hs, rfl⟩

end NameOptions

theorem runCheck_failure_eq_none_iff {input : String} {files : Files} :
    (runCheck input files).failure = none ↔
      ∃ unit, files.Holds input unit ∧ unit.procedures ≠ [] ∧ unit.defect? = none := by
  rw [runCheck]
  cases hr : checkResult input files with
  | error failure =>
    simp only [reduceCtorEq, false_iff]
    rintro ⟨unit, hu, hne, hd⟩
    cases hr.symm.trans (checkResult_eq_ok_iff.mpr ⟨unit, hu, hne, hd, rfl⟩)
  | ok text =>
    obtain ⟨unit, hu, hne, hd, -⟩ := checkResult_eq_ok_iff.mp hr
    simp only [true_iff]
    exact ⟨unit, hu, hne, hd⟩

theorem commands_agree_on_documents (files : Files) :
    (∀ options : NameOptions, options.KnownFormat → options.config = none → options.output = none →
      ((runCheck options.input files).failure = none ↔
        (options.run files).failure = none ∧
          ∃ unit, files.Holds options.input unit ∧ unit.procedures ≠ [])) ∧
    ∀ (options : NameOptions) (failure : Failure),
      (options.Rejects files failure ↔
        (options.run files).failure = some failure ∧ ∀ fault, failure ≠ .output fault) ∧
      (options.Rejects files failure →
        (options.run files).stdout = "" ∧ (options.run files).files = files) := by
  refine ⟨fun options hk hc ho => ?_, fun options failure => ⟨⟨?_, ?_⟩, ?_⟩⟩
  · rw [runCheck_failure_eq_none_iff, NameOptions.run_failure_eq_none_iff ho,
      NameOptions.exists_result_iff hk hc]
    constructor
    · rintro ⟨unit, hu, hne, hd⟩
      exact ⟨⟨unit, hu, hd⟩, unit, hu, hne⟩
    · rintro ⟨⟨unit, hu, hd⟩, other, ho, hne⟩
      obtain rfl := hu.unique ho
      exact ⟨unit, hu, hne, hd⟩
  · intro h
    rw [h.run]
    exact ⟨rfl, h.ne_output⟩
  · exact fun ⟨h, hne⟩ => NameOptions.rejects_of_run h hne
  · intro h
    rw [h.run]
    exact ⟨rfl, rfl⟩

section Idling

def idleDocument : Json.Value :=
  .record [("procedures", .list [.record [("slots", .list []), ("body", .list [.text "Nop"])]])]

def idle : TypeUnit where
  procedures := [{ slots := [], body := ⟨.nop, none, []⟩ }]

def idleFiles : Files :=
  ⟨[(.inside (.working 0) "u", .file idleDocument.pretty.toUTF8)]⟩

theorem idleFiles_holds : idleFiles.Holds "u" idle := by
  have hnames : Place.names "u" = ["u"] := by
    rw [Place.names, String.splitOn, String.splitOnAux, String.splitOnAux]
    decide +kernel
  have hstart : Place.start "u" = .working 0 := by decide +kernel
  have hfile : Files.meansFolder "u" = false := by decide +kernel
  have hlocate : idleFiles.locate "u" = .ok (.inside (.working 0) "u") := by
    simp only [Files.locate, hnames, hstart]
    rfl
  have hentry : idleFiles.entry? (.inside (.working 0) "u") =
      some (.file idleDocument.pretty.toUTF8) := by
    simp [idleFiles, Files.entry?]
  have hdecode : String.fromUTF8? idleDocument.pretty.toUTF8 = some idleDocument.pretty :=
    dif_pos idleDocument.pretty.isValidUTF8
  refine ⟨idleDocument.pretty, ?_, ?_⟩
  · rw [Files.readText, bind_eq_ok]
    exact ⟨_, hlocate, by simp only [hentry, hfile, hdecode, Bool.false_eq_true, ↓reduceIte]⟩
  · exact Json.Renders.of_pretty ⟨by simp [idleDocument], by cbv⟩

-- The settings are the last thing that can stop the command.
theorem commands_agree_on_documents_idling :
    (runCheck "u" idleFiles).failure = none ∧
      ({ input := "u", format := "json" } : NameOptions).KnownFormat ∧
      ({ input := "u", config := some "" } : NameOptions).Rejects idleFiles (.config "" .missing) ∧
      (({ input := "u", config := some "" } : NameOptions).run idleFiles).files = idleFiles := by
  have hk : ({ input := "u", format := "json" } : NameOptions).KnownFormat := .inr rfl
  have hd : idle.defect? = none := by decide +kernel
  have hnamed : (({ input := "u", format := "json" } : NameOptions).run idleFiles).failure = none :=
    (NameOptions.run_failure_eq_none_iff rfl).mpr
      ((NameOptions.exists_result_iff hk rfl).mpr ⟨idle, idleFiles_holds, hd⟩)
  have hrejected : ({ input := "u", config := some "" } : NameOptions).Rejects idleFiles
      (.config "" .missing) := .config (.inl rfl) idleFiles_holds hd rfl rfl
  obtain ⟨hagree, hreject⟩ := commands_agree_on_documents idleFiles
  exact ⟨(hagree { input := "u", format := "json" } hk rfl rfl).mpr
    ⟨hnamed, idle, idleFiles_holds, by simp [idle]⟩, hk, hrejected,
    ((hreject _ _).2 hrejected).2⟩

end Idling

end Nomen
