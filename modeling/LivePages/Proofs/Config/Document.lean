import LivePages.Config.Text
import LivePages.Proofs.Json.Records

/-!
# Configurations Read Back

A document says of a configuration what it is in every setting, where it is not the default one. In
every section the settings may stand in any order, and blanks may stand between any two tokens.
Every such document is read as the configuration, and the one with all settings in order is one of
them.

The values of the settings are kept within the ranges that they are read in: ports and times have
their bounds, and the further packages of a build are sorted by name. What is read of these is
sorted by insertion, so their order in a document does not matter either.

## Main results

* `Config.settings`, `Config.IsProper`: the settings, and the configurations in their ranges.
* `sortEntries_eq_of_perm`: entries come out sorted from any order.
* `Config.parse_of_describes`: every document of a configuration is read as it.
-/

namespace LivePages

open Json Json.Reader

/-! ### Sorted entries -/

/-- Entries sorted by different keys. -/
def Ascends (entries : List (String × String)) : Prop :=
  entries.Pairwise fun d e => d.1 < e.1

instance (entries : List (String × String)) : Decidable (Ascends entries) :=
  inferInstanceAs (Decidable (entries.Pairwise fun d e => d.1 < e.1))

/-- An entry with a new key is inserted as one more. -/
theorem insertEntry_perm {key : String} (value : String) {entries : List (String × String)}
    (hnew : key ∉ entries.map (·.1)) :
    (insertEntry key value entries).Perm ((key, value) :: entries) := by
  induction entries with
  | nil => exact .refl _
  | cons e r ih =>
      rw [List.map_cons, List.mem_cons, not_or] at hnew
      rw [insertEntry, if_neg hnew.1]
      split
      · exact .refl _
      · exact ((ih hnew.2).cons e).trans (.swap _ _ _)

/-- An entry with a new key is inserted in order. -/
theorem ascends_insertEntry {key : String} (value : String) {entries : List (String × String)}
    (hnew : key ∉ entries.map (·.1)) (h : Ascends entries) :
    Ascends (insertEntry key value entries) := by
  induction entries with
  | nil => exact List.pairwise_singleton _ _
  | cons e r ih =>
      obtain ⟨he, hr⟩ := List.pairwise_cons.mp h
      rw [List.map_cons, List.mem_cons, not_or] at hnew
      rw [insertEntry, if_neg hnew.1]
      split
      · next hlt =>
        refine List.pairwise_cons.mpr ⟨fun d hd => ?_, h⟩
        rcases List.mem_cons.mp hd with rfl | hd
        · exact hlt
        · exact String.lt_trans hlt (he d hd)
      · next hlt =>
        refine List.pairwise_cons.mpr ⟨fun d hd => ?_, ih hnew.2 hr⟩
        rcases List.mem_cons.mp ((insertEntry_perm value hnew.2).mem_iff.mp hd) with rfl | hd
        · -- neither before the first entry nor with its key
          by_contra hnot
          exact hnew.1 (String.le_antisymm (String.not_lt.mp hnot) (String.not_lt.mp hlt))
        · exact he d hd

/-- Inserting entries with different new keys one by one. -/
theorem foldl_insertEntry {entries sorted : List (String × String)}
    (hkeys : ((sorted ++ entries).map (·.1)).Nodup) (h : Ascends sorted) :
    Ascends (entries.foldl (fun sorted e => insertEntry e.1 e.2 sorted) sorted) ∧
      (entries.foldl (fun sorted e => insertEntry e.1 e.2 sorted) sorted).Perm
        (sorted ++ entries) := by
  induction entries generalizing sorted with
  | nil => exact ⟨h, by simp⟩
  | cons e entries ih =>
      have hmiddle : ((e :: sorted ++ entries).map (·.1)).Nodup :=
        (List.perm_middle.map _).nodup_iff.mp hkeys
      have hnew : e.1 ∉ sorted.map (·.1) := fun hmem => by
        obtain ⟨d, hd, hkey⟩ := List.mem_map.mp hmem
        exact (List.nodup_cons.mp hmiddle).1
          (List.mem_map.mpr ⟨d, List.mem_append_left _ hd, hkey⟩)
      have hinsert := insertEntry_perm e.2 hnew
      have hnext : ((insertEntry e.1 e.2 sorted ++ entries).map (·.1)).Nodup :=
        ((hinsert.append_right entries).map _).nodup_iff.mpr hmiddle
      obtain ⟨hascends, hperm⟩ := ih hnext (ascends_insertEntry e.2 hnew h)
      exact ⟨hascends, hperm.trans ((hinsert.append_right entries).trans List.perm_middle.symm)⟩

theorem Ascends.nodup_keys {entries : List (String × String)} (h : Ascends entries) :
    (entries.map (·.1)).Nodup := by
  refine List.pairwise_map.mpr (h.imp fun {d e} hlt heq => ?_)
  rw [heq] at hlt
  exact String.lt_irrefl _ hlt

/-- **Entries come out sorted from any order.** -/
theorem sortEntries_eq_of_perm {entries sorted : List (String × String)} (h : Ascends sorted)
    (hperm : entries.Perm sorted) : sortEntries entries = sorted := by
  have hkeys : ((([] : List (String × String)) ++ entries).map (·.1)).Nodup :=
    (hperm.map _).nodup_iff.mpr h.nodup_keys
  obtain ⟨hascends, hresult⟩ := foldl_insertEntry hkeys .nil
  refine List.Perm.eq_of_pairwise (fun d e _ _ hde hed => ?_) hascends h (hresult.trans hperm)
  exact absurd (String.lt_trans hde hed) (String.lt_irrefl _)

/-! ### The settings -/

/-- The settings of the ring, in order. -/
def BackendConfig.settings : List (Setting BackendConfig) :=
  [.plain "host" (·.host) .text,
    .plain "ports" (·.ports) fun ports => .list (ports.map .natural),
    .plain "start_wait_ms" (·.startWait) .natural,
    .plain "kill_wait_ms" (·.killWait) .natural,
    .plain "del_wait_ms" (·.delWait) .natural,
    .plain "poll_interval_ms" (·.pollInterval) .natural,
    .plain "ready_timeout_ms" (·.readyTimeout) .natural]

/-- The setting for the further packages, an object with their versions in any order. -/
def BuildConfig.dependenciesSetting : Setting BuildConfig where
  name := "dependencies"
  Content := List (String × String)
  get := (·.dependencies)
  IsForm deps v := ∃ entries : List (String × String), entries.Perm deps ∧
    v = .object (entries.map fun d => (d.1, .text d.2))

/-- The settings of the compiler, in order. -/
def BuildConfig.settings : List (Setting BuildConfig) :=
  [.plain "cargo" (·.cargo) .text, .plain "release" (·.release) .bool, dependenciesSetting]

/-- The setting for the ring, a section of its own. -/
def Config.backendSetting : Setting Config where
  name := "backend"
  Content := BackendConfig
  get := (·.backend)
  IsForm := Describes BackendConfig.settings {}

/-- The setting for the compiler, a section of its own. -/
def Config.buildSetting : Setting Config where
  name := "build"
  Content := BuildConfig
  get := (·.build)
  IsForm := Describes BuildConfig.settings {}

/-- The settings of a server, in order. -/
def Config.settings : List (Setting Config) :=
  [.plain "web_root" (·.webRoot) .text,
    .plain "src_dir" (·.srcDir) .text,
    .plain "exe_dir" (·.exeDir) .text,
    .plain "tmp_dir" (·.tmpDir) (.ofOption .text),
    .plain "target_dir" (·.targetDir) .text,
    .plain "runtime_crate" (·.runtimeCrate) .text,
    .plain "listen_addr" (·.listenAddr) .text,
    backendSetting, buildSetting]

/-- The settings of the ring are in range. -/
structure BackendConfig.IsProper (c : BackendConfig) : Prop where
  ports : ∀ port ∈ c.ports, port < portBound
  startWait : c.startWait < waitBound
  killWait : c.killWait < waitBound
  delWait : c.delWait < waitBound
  pollInterval : c.pollInterval < waitBound
  readyTimeout : c.readyTimeout < waitBound

/-- All settings are in range, and the further packages are sorted by their names. -/
structure Config.IsProper (c : Config) : Prop where
  backend : c.backend.IsProper
  dependencies : Ascends c.build.dependencies

/-! ### Sections -/

theorem BackendConfig.nodup_names : (settings.map Setting.name).Nodup := by
  simp [settings, Setting.plain]

theorem BuildConfig.nodup_names : (settings.map Setting.name).Nodup := by
  simp [settings, dependenciesSetting, Setting.plain]

theorem Config.nodup_names : (settings.map Setting.name).Nodup := by
  simp [settings, backendSetting, buildSetting, Setting.plain]

theorem takes_wait {n : ℕ} (h : n < waitBound) : Takes waitReader (.natural n) n :=
  takes_natural "u64" h (by decide)

theorem takes_ports {ports : List ℕ} (h : ∀ port ∈ ports, port < portBound) :
    Takes (listOf (natural portBound "u16")) (.list (ports.map .natural)) ports :=
  takes_listOf fun port hport =>
    ⟨takes_natural "u16" (h port hport) (by decide), startsPlain_natural port⟩

/-- The fields of the ring read its settings. -/
theorem BackendConfig.handles_fields {c : BackendConfig} (hc : c.IsProper) :
    List.Forall₂ (Handles settings c) fields settings := by
  refine .cons (handles_plain (takes_textFor _ _) ?_ ?_) <|
    .cons (handles_plain (takes_ports hc.ports) ?_ ?_) <|
    .cons (handles_plain (takes_wait hc.startWait) ?_ ?_) <|
    .cons (handles_plain (takes_wait hc.killWait) ?_ ?_) <|
    .cons (handles_plain (takes_wait hc.delWait) ?_ ?_) <|
    .cons (handles_plain (takes_wait hc.pollInterval) ?_ ?_) <|
    .cons (handles_plain (takes_wait hc.readyTimeout) ?_ ?_) .nil
  all_goals simp [settings, Setting.plain]

/-- A description of the ring is taken for it. -/
theorem BackendConfig.takes_describes {c : BackendConfig} (hc : c.IsProper) {v : Value}
    (h : Describes settings {} c v) :
    Takes (record "struct BackendConfig" fields {}) v c := by
  refine takes_record _ nodup_names (handles_fields hc) (fun other hother => ?_) h
  cases other
  cases c
  simpa [settings, Setting.plain] using hother

/-- Further packages are taken for the sorted list of them. -/
theorem BuildConfig.takes_dependencies {deps : List (String × String)} (hdeps : Ascends deps)
    {v : Value} (h : dependenciesSetting.IsForm deps v) :
    ∃ entries, Takes (mapOf string) v entries ∧ sortEntries entries = deps := by
  obtain ⟨entries, hperm, rfl⟩ := h
  exact ⟨entries, takes_mapOf fun e _ => takes_textFor _ e.2, sortEntries_eq_of_perm hdeps hperm⟩

/-- The fields of the compiler read its settings. -/
theorem BuildConfig.handles_fields {c : BuildConfig} (hc : Ascends c.dependencies) :
    List.Forall₂ (Handles settings c) fields settings := by
  refine .cons (handles_plain (takes_textFor _ _) ?_ ?_) <|
    .cons (handles_plain (takes_bool _) ?_ ?_) <|
    .cons (handles_field (s := dependenciesSetting) (fun v hv =>
      (takes_dependencies hc hv).imp fun _ h => ⟨h.1, fun before => h.2⟩) ?_) .nil
  all_goals simp [settings, dependenciesSetting, Setting.plain]

/-- A description of the compiler is taken for it. -/
theorem BuildConfig.takes_describes {c : BuildConfig} (hc : Ascends c.dependencies) {v : Value}
    (h : Describes settings {} c v) : Takes (record "struct BuildConfig" fields {}) v c := by
  refine takes_record _ nodup_names (handles_fields hc) (fun other hother => ?_) h
  cases other
  cases c
  simpa [settings, dependenciesSetting, Setting.plain] using hother

/-- A directory that may be missing is taken for what it is. -/
theorem takes_optionalPath : ∀ path : Option String,
    Takes (optional pathReader) (.ofOption .text path) path
  | none => takes_optional_none pathReader
  | some path => takes_optional_some (takes_textFor _ path) (startsPlain_text path)

/-- The fields of a server read its settings. -/
theorem Config.handles_fields {c : Config} (hc : c.IsProper) :
    List.Forall₂ (Handles settings c) fields settings := by
  refine .cons (handles_plain (takes_textFor _ _) ?_ ?_) <|
    .cons (handles_plain (takes_textFor _ _) ?_ ?_) <|
    .cons (handles_plain (takes_textFor _ _) ?_ ?_) <|
    .cons (handles_plain (takes_optionalPath _) ?_ ?_) <|
    .cons (handles_plain (takes_textFor _ _) ?_ ?_) <|
    .cons (handles_plain (takes_textFor _ _) ?_ ?_) <|
    .cons (handles_plain (takes_textFor _ _) ?_ ?_) <|
    .cons (handles_field (s := backendSetting) (fun v hv =>
      ⟨c.backend, BackendConfig.takes_describes hc.backend hv, fun before => rfl⟩) ?_) <|
    .cons (handles_field (s := buildSetting) (fun v hv =>
      ⟨c.build, BuildConfig.takes_describes hc.dependencies hv, fun before => rfl⟩) ?_) .nil
  all_goals simp [settings, backendSetting, buildSetting, Setting.plain]

/-- A description of a configuration is taken for it. -/
theorem Config.takes_describes {c start : Config} (hc : c.IsProper) {v : Value}
    (h : Describes settings start c v) : Takes (record "struct RspConfig" fields start) v c := by
  refine takes_record _ nodup_names (handles_fields hc) (fun other hother => ?_) h
  cases other
  cases c
  simpa [settings, backendSetting, buildSetting, Setting.plain] using hother

/-! ### Documents -/

theorem BackendConfig.describes_backendJson (c start : BackendConfig) :
    Describes settings start c (Config.backendJson c) := by
  refine describes_of_forall₂ nodup_names ?_
  simp [settings, Setting.plain]

theorem BuildConfig.describes_buildJson (c start : BuildConfig) :
    Describes settings start c (Config.buildJson c) := by
  refine describes_of_forall₂ nodup_names ?_
  simp [settings, dependenciesSetting, Setting.plain]
  exact ⟨c.dependencies, .refl _, rfl⟩

theorem Config.describes_toJson (c start : Config) : Describes settings start c c.toJson := by
  refine describes_of_forall₂ nodup_names ?_
  simp [settings, backendSetting, buildSetting, Setting.plain,
    BackendConfig.describes_backendJson, BuildConfig.describes_buildJson]

/-- **Every document of a configuration is read as it**: the one with all settings that the printer
writes, and each one that describes it, with defaults left out, in any order and with any blanks. -/
theorem Config.parse_of_describes (runtimeCrate : String) {c : Config} (hc : c.IsProper) :
    Config.parse runtimeCrate c.toJson.render = .ok c ∧
      ∀ v text, Describes settings (defaults runtimeCrate) c v → IsLayout v text →
        Config.parse runtimeCrate text = .ok c := by
  have hparse : ∀ v text, Describes settings (defaults runtimeCrate) c v → IsLayout v text →
      Config.parse runtimeCrate text = .ok c := fun v text hdescribes hlayout =>
    (takes_describes hc hdescribes).run_eq hlayout
  exact ⟨hparse c.toJson _ (describes_toJson c _) (isLayout_render _), hparse⟩

/-! ### A document with some settings -/

/-- A server with a directory of its own, two ports and two packages. -/
def Config.site : Config :=
  { webRoot := "my \"site\"", tmpDir := some "a\\b", runtimeCrate := "runtime",
    backend := { ports := [9001, 9002], killWait := 50 },
    build := { dependencies := [("rand", "0.8"), ("serde", "1")] } }

/-- A value with what is not by default. -/
def Config.siteValue : Value :=
  .object
    [("build", .object [("dependencies", .object [("serde", .text "1"), ("rand", .text "0.8")])]),
      ("backend", .object [("kill_wait_ms", .natural 50),
        ("ports", .list [.natural 9001, .natural 9002])]),
      ("tmp_dir", .text "a\\b"), ("web_root", .text "my \"site\"")]

/-- A file with it, which ends with a line break. -/
def Config.siteText : String :=
  "\x7b\"build\":\x7b\"dependencies\":\x7b\"serde\":\"1\",\"rand\":\"0.8\"\x7d\x7d," ++
  "\"backend\":\x7b\"kill_wait_ms\":50,\"ports\":[9001,9002]\x7d," ++
  "\"tmp_dir\":\"a\\\\b\",\"web_root\":\"my \\\"site\\\"\"\x7d\n"

theorem Config.isProper_site : site.IsProper :=
  ⟨⟨by decide, by decide, by decide, by decide, by decide, by decide⟩, by decide⟩

theorem Config.describes_siteValue :
    Describes settings (defaults "runtime") site siteValue := by
  have hbackend : Describes BackendConfig.settings {} site.backend (.object
      [("kill_wait_ms", .natural 50), ("ports", .list [.natural 9001, .natural 9002])]) :=
    ⟨_, rfl, by simp, by simp [BackendConfig.settings, Setting.plain, site],
      by simp [BackendConfig.settings, Setting.plain, site]⟩
  have hdependencies : BuildConfig.dependenciesSetting.IsForm site.build.dependencies
      (.object [("serde", .text "1"), ("rand", .text "0.8")]) :=
    ⟨_, .swap _ _ [], rfl⟩
  have hbuild : Describes BuildConfig.settings {} site.build (.object
      [("dependencies", .object [("serde", .text "1"), ("rand", .text "0.8")])]) := by
    refine ⟨_, rfl, by simp, ?_, by
      simp [BuildConfig.settings, BuildConfig.dependenciesSetting, Setting.plain, site]⟩
    simp only [BuildConfig.settings, List.forall_mem_singleton]
    exact ⟨_, List.mem_cons_of_mem _ (List.mem_cons_of_mem _ List.mem_cons_self), rfl,
      hdependencies⟩
  refine ⟨_, rfl, by simp, ?_, by
    simp [settings, backendSetting, buildSetting, Setting.plain, site, defaults]⟩
  simp only [List.forall_mem_cons]
  exact ⟨⟨buildSetting, by simp [settings], rfl, hbuild⟩,
    ⟨backendSetting, by simp [settings], rfl, hbackend⟩,
    ⟨.plain "tmp_dir" (·.tmpDir) (.ofOption .text), by simp [settings], rfl, rfl⟩,
    ⟨.plain "web_root" (·.webRoot) .text, by simp [settings], rfl, rfl⟩, by simp⟩

theorem Config.isLayout_siteText : IsLayout siteValue siteText := by
  have htext : siteText = siteValue.render ++ "\n" := by decide +kernel
  exact ⟨[], siteValue.render.toList, ['\n'], by rw [htext]; simp, isGap_nil,
    isSpelling_render siteValue, by simp [IsGap]⟩

theorem Config.parse_siteText :
    site.IsProper ∧ Config.parse "runtime" siteText = .ok site :=
  ⟨isProper_site, (Config.parse_of_describes "runtime" isProper_site).2 siteValue siteText
    describes_siteValue isLayout_siteText⟩

end LivePages
