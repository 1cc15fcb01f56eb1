import BuildNotices.Program
import BuildNotices.Proofs.Notification.Table
/-!
The file that decides the configuration.

The file of the project is looked at first, and that of the user only where the project has none.
What is found there is all that matters: a file that cannot be used is reported, and no other one
takes its place. The defaults hold where there is neither file.
-/

namespace BuildNotices

open Text

namespace Config

/-! ### Valid settings -/

structure IsValid (config : Config) : Prop where
  named : allBlank config.chat.server = false
  timed : config.chat.timeoutSeconds ≠ 0
  distinct : DistinctCategories config.notifications

/-- What is wrong with settings. Of several faults the first one counts. -/
inductive HasFault (config : Config) : (message : String) → Prop where
  | server (blank : allBlank config.chat.server = true) :
      HasFault config "hipchat.server must not be empty"
  | timeout (named : allBlank config.chat.server = false)
      (timeless : config.chat.timeoutSeconds = 0) :
      HasFault config "hipchat.timeout_secs must be greater than zero"
  | category (named : allBlank config.chat.server = false)
      (timed : config.chat.timeoutSeconds ≠ 0) {repeated : CategorySettings}
      (first : IsFirstRepeat config.notifications repeated) :
      HasFault config ("Duplicate notification entry for category " ++ repeated.category.name)

/-- Settings are valid or have a fault, and validation tells which. -/
theorem validate_cases (config : Config) :
    config.IsValid ∧ config.validate = .ok () ∨
      ∃ message, config.HasFault message ∧ config.validate = .error (.configuration message) := by
  unfold validate
  by_cases blank : allBlank config.chat.server = true
  · rw [if_pos blank]
    exact Or.inr ⟨_, .server blank, rfl⟩
  · have named := Bool.eq_false_iff.mpr blank
    rw [if_neg blank]
    dsimp only
    by_cases timeless : config.chat.timeoutSeconds = 0
    · rw [if_pos timeless]
      exact Or.inr ⟨_, .timeout named timeless, rfl⟩
    · rw [if_neg timeless]
      by_cases distinct : DistinctCategories config.notifications
      · obtain ⟨table, made, _⟩ := NotificationTable.exists_ofEntries distinct
        rw [made]
        exact Or.inl ⟨⟨named, timeless, distinct⟩, rfl⟩
      · obtain ⟨repeated, first⟩ := exists_firstRepeat distinct
        rw [NotificationTable.ofEntries_of_firstRepeat first]
        exact Or.inr ⟨_, .category named timeless first, rfl⟩

/-! ### What a file says -/

/-- The configuration that a text describes, whether its settings are valid or not. -/
def described? (text : String) : Option Config :=
  (Toml.parse? text).bind fun entries => Toml.readNamed entries tomlFields {}

/-- What comes of a file that decides: the configuration that it describes, if that is valid, and
otherwise what is wrong with the file. -/
inductive Settles (path : String) : (state : FileState) → Except NoticeError Loaded → Prop where
  | unreadable : Settles path .unreadable (.error (.file path "read config file"))
  | malformed {text : String} (nothing : described? text = none) :
      Settles path (.content text) (.error (.malformedToml unreadableDocument))
  | invalid {text message : String} {config : Config} (described : described? text = some config)
      (fault : config.HasFault message) :
      Settles path (.content text) (.error (.configuration message))
  | valid {text : String} {config : Config} (described : described? text = some config)
      (valid : config.IsValid) : Settles path (.content text) (.ok { path := some path, config })

theorem settles_ofToml (path text : String) :
    Settles path (.content text)
      ((ofToml text).map fun config => { path := some path, config }) := by
  cases described : described? text with
  | none =>
      have refused : ofToml text = .error (.malformedToml unreadableDocument) := by
        rw [ofToml, ← described?, described]
      rw [refused]
      exact .malformed described
  | some config =>
      have read : ofToml text = (do config.validate; return config) := by
        rw [ofToml, ← described?, described]
      rw [read]
      rcases config.validate_cases with ⟨valid, accepted⟩ | ⟨message, fault, refused⟩
      · rw [accepted]
        exact .valid described valid
      · rw [refused]
        exact .invalid described fault

theorem settles_loadFile {files : Files} {path : String} (present : files.look path ≠ .absent) :
    Settles path (files.look path) (loadFile files path) := by
  unfold loadFile
  cases found : files.look path with
  | absent => exact absurd found present
  | unreadable => exact .unreadable
  | content text => exact settles_ofToml path text

theorem Settles.path_eq {path : String} {state : FileState} {loaded : Loaded}
    (settles : Settles path state (.ok loaded)) : loaded.path = some path := by
  cases settles
  rfl

/-! ### Which file decides -/

/-- The file that decides: that of the project directory, or that of the home directory where the
former does not exist. -/
inductive Decides (files : Files) (project : String) (home : Option String) :
    (path : String) → Prop where
  | ofProject (present : files.look (pathIn project) ≠ .absent) :
      Decides files project home (pathIn project)
  | ofUser {directory : String} (absent : files.look (pathIn project) = .absent)
      (known : home = some directory) (present : files.look (pathIn directory) ≠ .absent) :
      Decides files project home (pathIn directory)

section Deciding

variable {files : Files} {project : String} {home : Option String} {path : String}

theorem isPresent_eq_true_iff {state : FileState} :
    state.isPresent = true ↔ state ≠ .absent := by
  cases state <;> simp [FileState.isPresent]

theorem Decides.unique {other : String} (first : Decides files project home path)
    (second : Decides files project home other) : other = path := by
  cases first with
  | ofProject present =>
      cases second with
      | ofProject _ => rfl
      | ofUser absent _ _ => exact absurd absent present
  | ofUser absent known _ =>
      cases second with
      | ofProject present => exact absurd absent present
      | ofUser _ alsoKnown _ =>
          rw [known] at alsoKnown
          cases alsoKnown
          rfl

theorem Decides.present (decides : Decides files project home path) :
    files.look path ≠ .absent := by
  cases decides with
  | ofProject present => exact present
  | ofUser _ _ present => exact present

theorem decides_iff_of_present (present : files.look (pathIn project) ≠ .absent) :
    Decides files project home path ↔ path = pathIn project := by
  constructor
  · exact (Decides.ofProject present).unique
  · rintro rfl
    exact .ofProject present

theorem decides_iff_of_absent (absent : files.look (pathIn project) = .absent) :
    Decides files project home path ↔
      ∃ directory, home = some directory ∧ files.look (pathIn directory) ≠ .absent ∧
        path = pathIn directory := by
  constructor
  · rintro (present | ⟨_, known, present⟩)
    · exact absurd absent present
    · exact ⟨_, known, present, rfl⟩
  · rintro ⟨directory, known, present, rfl⟩
    exact .ofUser absent known present

theorem not_decides_iff :
    (∀ path, ¬ Decides files project home path) ↔ files.look (pathIn project) = .absent ∧
      ∀ directory, home = some directory → files.look (pathIn directory) = .absent := by
  constructor
  · intro undecided
    have absent : files.look (pathIn project) = .absent := by
      by_contra present
      exact undecided _ (.ofProject present)
    refine ⟨absent, fun directory known => ?_⟩
    by_contra present
    exact undecided _ (.ofUser absent known present)
  · rintro ⟨absent, homeless⟩ path (present | ⟨_, known, present⟩)
    · exact present absent
    · exact present (homeless _ known)

def existing (files : Files) (directory : String) : Option String :=
  if (files.look (pathIn directory)).isPresent then some (pathIn directory) else none

theorem existing_eq_some_iff {directory : String} :
    existing files directory = some path ↔
      files.look (pathIn directory) ≠ .absent ∧ pathIn directory = path := by
  rw [existing, Option.ite_none_right_eq_some, isPresent_eq_true_iff, Option.some_inj]

theorem filter_map_pathIn (directory : Option String) :
    (directory.map pathIn).filter (fun path => (files.look path).isPresent) =
      directory.bind (existing files) := by
  cases directory with
  | none => rfl
  | some directory => rw [Option.map_some, Option.filter_some, Option.bind_some, existing]

/-- The current directory stands for a project directory that is not given. It counts only with a
file of its own, but without one it would make no difference. -/
theorem bind_existing_projectDirectory (given : Option String) (current : String) :
    (projectDirectory files given current).bind (existing files) =
      existing files (given.getD current) := by
  cases given with
  | some directory => rfl
  | none =>
      rw [projectDirectory, Option.getD_none]
      split
      next => rfl
      next without => rw [existing, if_neg without, Option.bind_none]

theorem decidingFile_eq_some_iff {given : Option String} {current : String} :
    decidingFile files (projectDirectory files given current) home = some path ↔
      Decides files (given.getD current) home path := by
  unfold decidingFile
  dsimp only
  rw [filter_map_pathIn, filter_map_pathIn, bind_existing_projectDirectory]
  constructor
  · intro found
    cases project : existing files (given.getD current) with
    | some other =>
        rw [project] at found
        cases found
        obtain ⟨present, rfl⟩ := existing_eq_some_iff.mp project
        exact .ofProject present
    | none =>
        rw [project] at found
        obtain ⟨directory, known, user⟩ := Option.bind_eq_some_iff.mp found
        obtain ⟨present, rfl⟩ := existing_eq_some_iff.mp user
        have absent : files.look (pathIn (given.getD current)) = .absent := by
          by_contra present
          rw [existing_eq_some_iff.mpr ⟨present, rfl⟩] at project
          cases project
        exact .ofUser absent known present
  · rintro (present | ⟨absent, known, present⟩)
    · rw [existing_eq_some_iff.mpr ⟨present, rfl⟩]
      rfl
    · have nothing : existing files (given.getD current) = none := by
        rw [existing, absent]
        rfl
      rw [nothing, known, Option.bind_some, existing_eq_some_iff.mpr ⟨present, rfl⟩]
      rfl

end Deciding

end Config

namespace Program

section Loading

variable {surroundings elsewhere : Surroundings} {given : Option String} {path : String}

/-- The file that decides for the directory that the program is given, or for the current one. -/
def Decides (surroundings : Surroundings) (given : Option String) (path : String) : Prop :=
  Config.Decides surroundings.files (given.getD surroundings.directory) surroundings.home path

theorem loadConfig_of_decides (decides : Decides surroundings given path) :
    loadConfig surroundings given = Config.loadFile surroundings.files path := by
  rw [loadConfig, Config.load, Config.decidingFile_eq_some_iff.mpr decides]

theorem loadConfig_of_undecided (undecided : ∀ path, ¬ Decides surroundings given path) :
    loadConfig surroundings given = .ok { path := none, config := {} } := by
  have nothing : Config.decidingFile surroundings.files
      (Config.projectDirectory surroundings.files given surroundings.directory)
      surroundings.home = none :=
    Option.eq_none_iff_forall_ne_some.mpr fun path found =>
      undecided path (Config.decidingFile_eq_some_iff.mp found)
  rw [loadConfig, Config.load, nothing]

theorem settles_loadConfig (decides : Decides surroundings given path) :
    Config.Settles path (surroundings.files.look path) (loadConfig surroundings given) := by
  rw [loadConfig_of_decides decides]
  exact Config.settles_loadFile decides.present

/-- Nothing but the file that decides makes a difference. -/
theorem loadConfig_congr
    (same : ∀ path, Decides elsewhere given path ↔ Decides surroundings given path)
    (agree : ∀ path, Decides surroundings given path →
      elsewhere.files.look path = surroundings.files.look path) :
    loadConfig elsewhere given = loadConfig surroundings given := by
  by_cases decided : ∃ path, Decides surroundings given path
  · obtain ⟨path, decides⟩ := decided
    rw [loadConfig_of_decides decides, loadConfig_of_decides ((same path).mpr decides),
      Config.loadFile, Config.loadFile, agree path decides]
  · have undecided := not_exists.mp decided
    rw [loadConfig_of_undecided undecided,
      loadConfig_of_undecided fun path => mt (same path).mp (undecided path)]

theorem path_eq_some_iff {loaded : Config.Loaded}
    (success : loadConfig surroundings given = .ok loaded) :
    loaded.path = some path ↔ Decides surroundings given path := by
  constructor
  · intro named
    by_cases decided : ∃ path, Decides surroundings given path
    · obtain ⟨other, decides⟩ := decided
      have settles := settles_loadConfig decides
      rw [success] at settles
      rw [settles.path_eq] at named
      cases named
      exact decides
    · rw [loadConfig_of_undecided (not_exists.mp decided)] at success
      cases success
      cases named
  · intro decides
    have settles := settles_loadConfig decides
    rw [success] at settles
    exact settles.path_eq

end Loading

/-- One file decides the configuration, if there is one: it is valid and is what the file describes,
or the file itself is at fault. This is the file of the project, whatever the user has, and only
where the project has none that of the user; only where neither exists the defaults hold. What the
current directory has makes no difference where another one is given. -/
theorem one_file_decides (surroundings : Surroundings) (given : Option String) :
    let files := surroundings.files
    let project := Config.pathIn (given.getD surroundings.directory)
    let result := loadConfig surroundings given
    (∀ path, Decides surroundings given path →
      Config.Settles path (files.look path) result ∧
        ∀ other, Decides surroundings given other → other = path) ∧
    (result = .ok { path := none, config := {} } ↔ files.look project = .absent ∧
      ∀ directory, surroundings.home = some directory →
        files.look (Config.pathIn directory) = .absent) ∧
    (∀ loaded, result = .ok loaded →
      ∀ path, loaded.path = some path ↔ Decides surroundings given path) ∧
    (files.look project ≠ .absent →
      ∀ (other : Files) (home : Option String), other.look project = files.look project →
        loadConfig { surroundings with files := other, home } given = result) ∧
    (files.look project = .absent →
      ∀ other : Files, other.look project = .absent →
        (∀ directory, surroundings.home = some directory →
          other.look (Config.pathIn directory) = files.look (Config.pathIn directory)) →
        loadConfig { surroundings with files := other } given = result) ∧
    ∀ directory, given = some directory →
      ∀ current, loadConfig { surroundings with directory := current } given = result := by
  intro files project result
  refine ⟨?_, ?_, fun loaded success path => path_eq_some_iff success, ?_, ?_, ?_⟩
  · intro path decides
    exact ⟨settles_loadConfig decides, fun other => decides.unique⟩
  · rw [← Config.not_decides_iff]
    constructor
    · intro defaults path decides
      cases (path_eq_some_iff defaults).mpr decides
    · exact loadConfig_of_undecided
  · intro present other home same
    have alsoPresent : other.look project ≠ .absent := same ▸ present
    refine loadConfig_congr (fun path => ?_) fun path decides => ?_
    · exact (Config.decides_iff_of_present alsoPresent).trans
        (Config.decides_iff_of_present present).symm
    · rw [(Config.decides_iff_of_present present).mp decides]
      exact same
  · intro absent other alsoAbsent same
    refine loadConfig_congr (fun path => ?_) fun path decides => ?_
    · refine (Config.decides_iff_of_absent alsoAbsent).trans
        (Iff.trans ?_ (Config.decides_iff_of_absent absent).symm)
      refine exists_congr fun directory => and_congr_right fun known => ?_
      rw [same directory known]
    · obtain ⟨directory, known, _, rfl⟩ := (Config.decides_iff_of_absent absent).mp decides
      exact same directory known
  · rintro directory rfl current
    exact loadConfig_congr (fun path => Iff.rfl) fun path _ => rfl

/-- A project whose file breaks off, for a user whose file is empty and so describes the defaults. -/
def brokenOff : Surroundings where
  files := { look := fun path =>
    if path = "/work/.hipchat/config.toml" then .content "[hipchat"
    else if path = "/home/me/.hipchat/config.toml" then .content "" else .absent }
  directory := "/work"
  home := some "/home/me"
  token := none
  moment := default
  server := fun _ => .failure

/-- The error stays when the user has another file or none. -/
theorem broken_project_is_reported :
    brokenOff.files.look (Config.pathIn "/work") ≠ .absent ∧
      ∃ error, loadConfig brokenOff none = .error error ∧
        ∀ home, loadConfig { brokenOff with home } none = .error error := by
  obtain ⟨_, _, _, whatever, _, _⟩ := one_file_decides brokenOff none
  have present : brokenOff.files.look (Config.pathIn "/work") ≠ .absent := by decide +kernel
  have fails : (loadConfig brokenOff none).toOption.isNone = true := by decide +kernel
  refine ⟨present, ?_⟩
  cases loaded : loadConfig brokenOff none with
  | ok found =>
      rw [loaded] at fails
      cases fails
  | error error =>
      exact ⟨error, rfl, fun home => (whatever present brokenOff.files home rfl).trans loaded⟩

example : (loadConfig brokenOff (some "/play")).toOption.bind Config.Loaded.path =
    some "/home/me/.hipchat/config.toml" := by decide +kernel

end Program
end BuildNotices
