import ClusterKeeper.Launch.Start
import ClusterKeeper.Proofs.Routing

/-!
# What a start builds

The reconciler of a successful start is that of the configuration file, but for
what the command line sets. What was loaded is valid, so a reconciler can always be
built from it.
-/

set_option autoImplicit false

namespace ClusterKeeper

namespace Launch

def Finds (s : Surroundings) (given : Option String) (file : Config) : Prop :=
  ∃ session path,
    (LogSession.silent s.files).setUp s.time s.environment logVariable programName = .ok session ∧
    locate session.files.view given standardPlaces = .ok path ∧
    Config.ofFile session.files.view path = .ok file

def updatesAllowed (a : RunArguments) (file : Config) : Bool :=
  a.guestUpdateEnabled.getD file.guestUpdateEnabled

theorem Finds.unique {s : Surroundings} {given : Option String} {file file' : Config}
    (h : Finds s given file) (h' : Finds s given file') : file = file' := by
  obtain ⟨session, path, hsession, hpath, hfile⟩ := h
  obtain ⟨_, _, hsession', hpath', hfile'⟩ := h'
  cases hsession.symm.trans hsession'
  cases hpath.symm.trans hpath'
  exact Except.ok.inj (hfile.symm.trans hfile')

theorem file_of_load {files : FileView} {a : RunArguments} {c : Config}
    (h : load files a = .ok c) :
    ∃ path file, locate files a.configFile standardPlaces = .ok path ∧
      Config.ofFile files path = .ok file ∧ c = override a file := by
  obtain ⟨path, hpath, h⟩ := bind_ok h
  cases hfile : Config.ofFile files path with
  | error e =>
    rw [hfile] at h
    cases h
  | ok file =>
    rw [hfile] at h
    cases h
    exact ⟨path, file, hpath, hfile, rfl⟩

theorem finds_of_start {s : Surroundings} {a : RunArguments} {r : Reconciler Cloud Cluster}
    (h : start s a = .ok r) :
    ∃ file, Finds s a.configFile file ∧ Operator.reconciler (override a file) = .ok r := by
  obtain ⟨session, hsession, h⟩ := bind_ok h
  obtain ⟨config, hload, h⟩ := bind_ok h
  obtain ⟨path, file, hpath, hfile, rfl⟩ := file_of_load (mapError_ok hload)
  exact ⟨file, ⟨session, path, mapError_ok hsession, hpath, hfile⟩, mapError_ok h⟩

theorem validate_of_ofFile {files : FileView} {path : String} {file : Config}
    (h : Config.ofFile files path = .ok file) : file.validate = .ok () := by
  rw [Config.ofFile] at h
  split at h
  · cases h
  · rw [Config.ofText] at h
    split at h
    · cases h
    · next found _ =>
      cases hv : found.validate with
      | error e => rw [hv] at h; cases h
      | ok _ => rw [hv] at h; cases h; exact hv

/-- What the command line sets is not validated. -/
theorem validate_of_load {files : FileView} {a : RunArguments} {c : Config}
    (h : load files a = .ok c) : c.validate = .ok () := by
  obtain ⟨_, file, -, hfile, rfl⟩ := file_of_load h
  have hvalid : file.validate = .ok () := validate_of_ofFile hfile
  exact hvalid

/-- What was loaded is valid, so a reconciler can be built from it. -/
theorem start_ne_buildReconciler (s : Surroundings) (a : RunArguments) (e : Error) :
    start s a ≠ .error (.buildReconciler e) := by
  intro h
  rcases bind_eq_error.mp h with h | ⟨session, -, h⟩
  · obtain ⟨_, -, h⟩ := mapError_error h
    cases h
  rcases bind_eq_error.mp h with h | ⟨c, hload, h⟩
  · obtain ⟨_, -, h⟩ := mapError_error h
    cases h
  obtain ⟨_, h, -⟩ := mapError_error h
  obtain ⟨r, hr, -⟩ := Operator.reconciler_of_validate (validate_of_load (mapError_ok hload))
  rw [hr] at h
  cases h

end Launch

namespace Trial

def fileText : String :=
  "installationName: trial\nversionBundles:\n- version: 1.0.0\n  cloudConfigVersion: v1\n"

def surroundings : Launch.Surroundings where
  time := "12:00"
  environment _ := none
  files := FileTree.empty.put "trial.yaml" (.file fileText.toUTF8.toList)

def arguments : RunArguments := ⟨some "trial.yaml", some true⟩

theorem starts : ∃ r, Launch.start surroundings arguments = .ok r :=
  isOk_iff.mp (by decide +kernel)

end Trial

end ClusterKeeper
