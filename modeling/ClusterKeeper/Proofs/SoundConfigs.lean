import ClusterKeeper.Config
import ClusterKeeper.Proofs.FloatValues
import ClusterKeeper.Proofs.Results
import ClusterKeeper.Proofs.SemanticVersions

/-!
# Sound configurations

What a configuration has to meet, and which fault is the first of one that does not. The
check accepts the sound configurations and reports the first fault of every other. It goes
through the bundles with the versions of those before, and these are all it has to know
of them.
-/

set_option autoImplicit false

namespace ClusterKeeper

namespace Config

/-! ### Bundles -/

def SameVersion (a b : VersionBundle) : Prop :=
  ∃ v, Semver.Denotes a.version v ∧ Semver.Denotes b.version v

structure SoundBundles (bundles : List VersionBundle) : Prop where
  versions : ∀ b ∈ bundles, ∃ v, Semver.Denotes b.version v
  distinct : bundles.Pairwise fun a b => ¬ SameVersion a b
  cloudConfigs : ∀ b ∈ bundles, b.cloudConfigVersion ≠ ""

inductive BundleFault (before : List VersionBundle) (b : VersionBundle) : ConfigError → Prop
  | noVersion (h : ¬ ∃ v, Semver.Denotes b.version v) :
    BundleFault before b (.invalidVersion b.version)
  | repeated (h : ∃ earlier ∈ before, SameVersion earlier b) :
    BundleFault before b (.duplicateVersion b.version)
  | noCloudConfig (hversion : ∃ v, Semver.Denotes b.version v)
    (hnew : ∀ earlier ∈ before, ¬ SameVersion earlier b) (hempty : b.cloudConfigVersion = "") :
    BundleFault before b (.missingCloudConfigVersion b.version)

structure Joins (before : List VersionBundle) (b : VersionBundle) (v : Semver) : Prop where
  version : Semver.Denotes b.version v
  new : ∀ earlier ∈ before, ¬ SameVersion earlier b
  cloudConfig : b.cloudConfigVersion ≠ ""

variable {before bundles : List VersionBundle} {b : VersionBundle} {v : Semver}
  {seen : List Semver} {e : ConfigError}

theorem SoundBundles.nil : SoundBundles [] :=
  ⟨fun _ h => absurd h List.not_mem_nil, .nil, fun _ h => absurd h List.not_mem_nil⟩

theorem SoundBundles.snoc (h : SoundBundles before) (hb : Joins before b v) :
    SoundBundles (before ++ [b]) := by
  refine ⟨?_, List.pairwise_append.mpr ⟨h.distinct, List.pairwise_singleton _ _, ?_⟩, ?_⟩
  · rw [List.forall_mem_append, List.forall_mem_singleton]
    exact ⟨h.versions, v, hb.version⟩
  · intro earlier hearlier
    rw [List.forall_mem_singleton]
    exact hb.new earlier hearlier
  · rw [List.forall_mem_append, List.forall_mem_singleton]
    exact ⟨h.cloudConfigs, hb.cloudConfig⟩

theorem SoundBundles.joins (h : SoundBundles (before ++ b :: bundles)) :
    ∃ v, Joins before b v := by
  have hb : b ∈ before ++ b :: bundles := List.mem_append_right _ List.mem_cons_self
  obtain ⟨v, hv⟩ := h.versions b hb
  have hnew := fun earlier hearlier =>
    (List.pairwise_append.mp h.distinct).2.2 earlier hearlier b List.mem_cons_self
  exact ⟨v, hv, hnew, h.cloudConfigs b hb⟩

/-- What differs as a version differs as a text. -/
theorem SoundBundles.nodup (h : SoundBundles bundles) : (bundles.map (·.version)).Nodup := by
  rw [List.Nodup, List.pairwise_map]
  refine h.distinct.imp_of_mem fun {a b} ha _ hnew hsame => ?_
  obtain ⟨v, hv⟩ := h.versions a ha
  exact hnew ⟨v, hv, hsame ▸ hv⟩

/-! ### One bundle after the other -/

theorem require_eq_ok {p : Bool} {u : Unit} : require p e = .ok u ↔ p = true := by
  cases p with
  | true => exact ⟨fun _ => rfl, fun _ => rfl⟩
  | false => exact ⟨nofun, nofun⟩

theorem require_eq_error {p : Bool} {e' : ConfigError} :
    require p e = .error e' ↔ p = false ∧ e = e' := by
  cases p with
  | true => exact ⟨nofun, nofun⟩
  | false => exact ⟨fun h => ⟨rfl, Except.error.inj h⟩, fun h => congrArg Except.error h.2⟩

def checkBundle (seen : List Semver) (b : VersionBundle) : Except ConfigError Semver :=
  match Semver.parse? b.version with
  | none => .error (.invalidVersion b.version)
  | some version => do
    require (version ∉ seen) (.duplicateVersion b.version)
    require (b.cloudConfigVersion ≠ "") (.missingCloudConfigVersion b.version)
    pure version

theorem checkBundles_cons : checkBundles seen (b :: bundles) =
    checkBundle seen b >>= fun version => checkBundles (version :: seen) bundles := by
  simp only [checkBundles, checkBundle]
  cases Semver.parse? b.version with
  | none => rfl
  | some version => simp only [bind_assoc, pure_bind]

def Versions (before : List VersionBundle) (seen : List Semver) : Prop :=
  ∀ v, v ∈ seen ↔ ∃ b ∈ before, Semver.Denotes b.version v

theorem sameVersion_iff {a : VersionBundle} (hv : Semver.Denotes b.version v) :
    SameVersion a b ↔ Semver.Denotes a.version v := by
  constructor
  · rintro ⟨v', ha, hb⟩
    rwa [hb.unique hv] at ha
  · exact fun ha => ⟨v, ha, hv⟩

theorem Versions.new (hseen : Versions before seen) (hv : Semver.Denotes b.version v) :
    v ∉ seen ↔ ∀ earlier ∈ before, ¬ SameVersion earlier b := by
  simp only [hseen v, sameVersion_iff hv, not_exists, not_and]

theorem Versions.cons (hseen : Versions before seen) (hv : Semver.Denotes b.version v) :
    Versions (before ++ [b]) (v :: seen) := by
  intro v'
  have hlast : v' = v ↔ Semver.Denotes b.version v' :=
    ⟨fun h => h ▸ hv, fun h => h.unique hv⟩
  rw [List.mem_cons, hseen v', hlast]
  simp only [List.mem_append, List.mem_singleton, or_and_right, exists_or, exists_eq_left]
  exact or_comm

theorem checkBundle_eq_ok (hseen : Versions before seen) :
    checkBundle seen b = .ok v ↔ Joins before b v := by
  cases hparse : Semver.parse? b.version with
  | none =>
    have hno : ¬ Joins before b v := fun h => by
      rw [Semver.parse?_iff.mpr h.version] at hparse
      cases hparse
    rw [checkBundle, hparse]
    exact iff_of_false nofun hno
  | some version =>
    have hversion := Semver.parse?_iff.mp hparse
    simp only [checkBundle, hparse, bind_eq_ok, require_eq_ok, decide_eq_true_eq]
    constructor
    · rintro ⟨_, hnew, _, hcloud, ⟨⟩⟩
      exact ⟨hversion, (hseen.new hversion).mp hnew, hcloud⟩
    · intro h
      cases hversion.unique h.version
      exact ⟨(), (hseen.new hversion).mpr h.new, (), h.cloudConfig, rfl⟩

theorem checkBundle_eq_error (hseen : Versions before seen) :
    checkBundle seen b = .error e ↔ BundleFault before b e := by
  cases hparse : Semver.parse? b.version with
  | none =>
    have hno : ¬ ∃ v, Semver.Denotes b.version v := fun ⟨v, h⟩ => by
      rw [Semver.parse?_iff.mpr h] at hparse
      cases hparse
    rw [checkBundle, hparse]
    constructor
    · rintro ⟨⟩
      exact .noVersion hno
    · rintro (_ | ⟨_, _, v, _, hv⟩ | ⟨hv, _, _⟩)
      · rfl
      · exact absurd ⟨v, hv⟩ hno
      · exact absurd hv hno
  | some version =>
    have hversion := Semver.parse?_iff.mp hparse
    have hnew := hseen.new hversion
    simp only [checkBundle, hparse, bind_eq_error, require_eq_error, require_eq_ok,
      decide_eq_true_eq, decide_eq_false_iff_not]
    constructor
    · rintro (⟨hold, rfl⟩ | ⟨_, hfresh, ⟨hempty, rfl⟩ | ⟨_, _, ⟨⟩⟩⟩)
      · refine .repeated (by_contra fun h => hold (hnew.mpr fun a ha hs => h ⟨a, ha, hs⟩))
      · exact .noCloudConfig ⟨version, hversion⟩ (hnew.mp hfresh) (not_not.mp hempty)
    · rintro (hno | ⟨earlier, hearlier, hsame⟩ | ⟨_, hfresh, hempty⟩)
      · exact absurd ⟨version, hversion⟩ hno
      · exact .inl ⟨fun h => hnew.mp h earlier hearlier hsame, rfl⟩
      · exact .inr ⟨(), hnew.mpr hfresh, .inl ⟨not_not.mpr hempty, rfl⟩⟩

theorem checkBundles_eq_ok (hseen : Versions before seen) (hbefore : SoundBundles before) :
    checkBundles seen bundles = .ok () ↔ SoundBundles (before ++ bundles) := by
  induction bundles generalizing before seen with
  | nil =>
    rw [List.append_nil]
    exact iff_of_true rfl hbefore
  | cons b rest ih =>
    rw [checkBundles_cons, bind_eq_ok, List.append_cons]
    constructor
    · rintro ⟨v, hb, hrest⟩
      rw [checkBundle_eq_ok hseen] at hb
      exact (ih (hseen.cons hb.version) (hbefore.snoc hb)).mp hrest
    · intro h
      obtain ⟨v, hb⟩ := (List.append_cons before b rest ▸ h).joins
      exact ⟨v, (checkBundle_eq_ok hseen).mpr hb,
        (ih (hseen.cons hb.version) (hbefore.snoc hb)).mpr h⟩

/-- The bundles before the faulty one are sound, so the fault is the first. -/
theorem checkBundles_eq_error (hseen : Versions before seen) (hbefore : SoundBundles before) :
    checkBundles seen bundles = .error e ↔ ∃ between b after, bundles = between ++ b :: after ∧
      SoundBundles (before ++ between) ∧ BundleFault (before ++ between) b e := by
  induction bundles generalizing before seen with
  | nil => exact ⟨nofun, fun ⟨_, _, _, h, _⟩ => absurd h (by simp)⟩
  | cons b rest ih =>
    rw [checkBundles_cons, bind_eq_error, checkBundle_eq_error hseen]
    constructor
    · rintro (hb | ⟨v, hb, hrest⟩)
      · exact ⟨[], b, rest, rfl, by rwa [List.append_nil], by rwa [List.append_nil]⟩
      · rw [checkBundle_eq_ok hseen] at hb
        obtain ⟨between, b', after, rfl, hsound, hfault⟩ :=
          (ih (hseen.cons hb.version) (hbefore.snoc hb)).mp hrest
        rw [← List.append_cons] at hsound hfault
        exact ⟨b :: between, b', after, rfl, hsound, hfault⟩
    · rintro ⟨between, b', after, hsplit, hsound, hfault⟩
      cases between with
      | nil =>
        cases hsplit
        rw [List.append_nil] at hfault
        exact .inl hfault
      | cons first between =>
        cases hsplit
        obtain ⟨v, hb⟩ := hsound.joins
        rw [List.append_cons] at hsound hfault
        exact .inr ⟨v, (checkBundle_eq_ok hseen).mpr hb,
          (ih (hseen.cons hb.version) (hbefore.snoc hb)).mpr
            ⟨between, b', after, rfl, hsound, hfault⟩⟩

/-! ### Configurations -/

def SoundMultiplier (x : Float) : Prop := ∃ q, floatValue? x = some q ∧ 1 ≤ q

structure Sound (c : Config) : Prop where
  name : c.installationName ≠ ""
  nonempty : c.versionBundles ≠ []
  bundles : SoundBundles c.versionBundles
  multiplier : SoundMultiplier c.retry.multiplier
  delays : c.retry.initialDelay ≤ c.retry.maxDelay

inductive FirstFault (c : Config) : ConfigError → Prop
  | name (hname : c.installationName = "") : FirstFault c .emptyInstallationName
  | noBundles (hname : c.installationName ≠ "") (hempty : c.versionBundles = []) :
    FirstFault c .noVersionBundles
  | bundle (hname : c.installationName ≠ "") (before : List VersionBundle) (b : VersionBundle)
    (after : List VersionBundle) (hsplit : c.versionBundles = before ++ b :: after)
    (hbefore : SoundBundles before) (e : ConfigError) (hfault : BundleFault before b e) :
    FirstFault c e
  | multiplier (hname : c.installationName ≠ "") (hnonempty : c.versionBundles ≠ [])
    (hbundles : SoundBundles c.versionBundles)
    (hmultiplier : ¬ SoundMultiplier c.retry.multiplier) :
    FirstFault c (.invalidRetryMultiplier c.retry.multiplier)
  | delays (hname : c.installationName ≠ "") (hnonempty : c.versionBundles ≠ [])
    (hbundles : SoundBundles c.versionBundles) (hmultiplier : SoundMultiplier c.retry.multiplier)
    (hdelays : c.retry.maxDelay < c.retry.initialDelay) :
    FirstFault c (.retryDelaysOutOfOrder c.retry.initialDelay c.retry.maxDelay)

theorem Versions.nil : Versions [] [] := fun _ => iff_of_false nofun nofun

variable {c : Config}

theorem checkBundles_nil_eq_ok {u : Unit} :
    checkBundles [] c.versionBundles = .ok u ↔ SoundBundles c.versionBundles :=
  checkBundles_eq_ok Versions.nil SoundBundles.nil

theorem checkBundles_nil_eq_error : checkBundles [] c.versionBundles = .error e ↔
    ∃ before b after, c.versionBundles = before ++ b :: after ∧ SoundBundles before ∧
      BundleFault before b e :=
  checkBundles_eq_error Versions.nil SoundBundles.nil

theorem not_soundMultiplier_iff {x : Float} :
    (x.isFinite && decide (x ≥ 1.0)) = false ↔ ¬ SoundMultiplier x :=
  Bool.not_eq_true _ ▸ not_congr (finite_one_le_iff x)

theorem validate_eq_ok : c.validate = .ok () ↔ c.Sound := by
  simp only [validate, bind_eq_ok, require_eq_ok, finite_one_le_iff, decide_eq_true_eq,
    Bool.not_eq_true', List.isEmpty_eq_false_iff, checkBundles_nil_eq_ok]
  constructor
  · rintro ⟨_, hname, _, hnonempty, _, hbundles, _, hmultiplier, hdelays⟩
    exact ⟨hname, hnonempty, hbundles, hmultiplier, hdelays⟩
  · intro h
    exact ⟨(), h.name, (), h.nonempty, (), h.bundles, (), h.multiplier, h.delays⟩

theorem validate_eq_error : c.validate = .error e ↔ c.FirstFault e := by
  simp only [validate, bind_eq_error, require_eq_ok, require_eq_error, finite_one_le_iff,
    not_soundMultiplier_iff, decide_eq_true_eq, decide_eq_false_iff_not, not_not,
    Bool.not_eq_true', Bool.not_eq_false', List.isEmpty_iff, List.isEmpty_eq_false_iff,
    checkBundles_nil_eq_ok, checkBundles_nil_eq_error]
  constructor
  · rintro (⟨hname, rfl⟩ | ⟨_, hname, ⟨hempty, rfl⟩ | ⟨_, hnonempty, hfaulty |
      ⟨_, hbundles, ⟨hmultiplier, rfl⟩ | ⟨_, hmultiplier, hdelays, rfl⟩⟩⟩⟩)
    · exact .name hname
    · exact .noBundles hname hempty
    · obtain ⟨before, b, after, hsplit, hbefore, hfault⟩ := hfaulty
      exact .bundle hname before b after hsplit hbefore e hfault
    · exact .multiplier hname hnonempty hbundles hmultiplier
    · exact .delays hname hnonempty hbundles hmultiplier (Nat.lt_of_not_le hdelays)
  · intro h
    cases h with
    | name hname => exact .inl ⟨hname, rfl⟩
    | noBundles hname hempty => exact .inr ⟨(), hname, .inl ⟨hempty, rfl⟩⟩
    | bundle hname before b after hsplit hbefore _ hfault =>
      have hnonempty : c.versionBundles ≠ [] := by simp [hsplit]
      exact .inr ⟨(), hname, .inr ⟨(), hnonempty,
        .inl ⟨before, b, after, hsplit, hbefore, hfault⟩⟩⟩
    | multiplier hname hnonempty hbundles hmultiplier =>
      exact .inr ⟨(), hname, .inr ⟨(), hnonempty, .inr ⟨(), hbundles,
        .inl ⟨hmultiplier, rfl⟩⟩⟩⟩
    | delays hname hnonempty hbundles hmultiplier hdelays =>
      exact .inr ⟨(), hname, .inr ⟨(), hnonempty, .inr ⟨(), hbundles,
        .inr ⟨(), hmultiplier, Nat.not_le_of_lt hdelays, rfl⟩⟩⟩⟩

/-- The sound configurations are accepted. Of any other the first fault is reported. -/
theorem validate_blames_first_fault (c : Config) :
    (c.validate = .ok () ↔ c.Sound) ∧ ∀ e, c.validate = .error e ↔ c.FirstFault e :=
  ⟨validate_eq_ok, fun _ => validate_eq_error⟩

end Config

end ClusterKeeper
