import LivePages.Proofs.Ring.Chronicle
import LivePages.Proofs.Site.Requests

/-!
# What Editions Show

What is in an executable, seen from the pages as they stand later. A reading is right as long as
the page is older than the reading; so of all the pages that are older than its scan, a build has
what they say, and a page that it does not have was written after it was read.

## Main results

* `Machine.right_reading`: what is read is what stands there.
* `Draft.Covers`, `Draft.Covers.later`: a build covers the pages, and goes on to do so when pages
  are written.
* `Draft.Covers.shows_iff`: an edition that looks up to date shows exactly what it does not miss.
-/

namespace LivePages.Ring

/-! ### The pages of a moment -/

variable {s : Machine}

/-- A page is one that the scan finds. -/
theorem Machine.exists_of_mem_versions {v : Version} (h : v ∈ s.versions) :
    ∃ page, v = s.version page := by
  rw [versions] at h
  split at h
  · obtain ⟨page, -, rfl⟩ := List.mem_map.mp h
    exact ⟨page, rfl⟩
  · exact absurd h List.not_mem_nil

/-- No two pages have the same path. -/
theorem Machine.nodup_path_versions (s : Machine) : (s.versions.map (·.path)).Nodup := by
  rw [versions]
  split
  · rename_i found hscan
    rw [List.map_map]
    exact (Site.ordered_scan hscan).nodup
  · exact List.nodup_nil

/-- A page is found by its path. -/
theorem Machine.find?_versions {v : Version} (h : v ∈ s.versions) :
    (s.versions.find? fun u => u.path == v.path) = some v := by
  obtain ⟨u, hu⟩ : ∃ u, (s.versions.find? fun u => u.path == v.path) = some u :=
    Option.isSome_iff_exists.mp (List.find?_isSome.mpr ⟨v, h, by simp⟩)
  have hpath : u.path = v.path := by simpa using List.find?_some hu
  rw [hu, List.inj_on_of_nodup_map s.nodup_path_versions (List.mem_of_find?_eq_some hu) h hpath]

/-! ### Readings -/

/-- What was read is what stood there, and it still does unless the page was written since. -/
structure Reading.Right (r : Reading) (vs : List Version) : Prop where
  /-- What was read. -/
  seen : ∀ v, r.version = some v → v.path = r.path ∧ v.modified < r.time ∧
    (Site.isLegible r.path = true → r.text = v.text)
  /-- What still stands there. -/
  current : ∀ v ∈ vs, v.path = r.path → v.modified < r.time → r.version = some v

/-- The reading of a page is right, and stays so when pages are written later. -/
theorem Machine.right_reading (hearlier : ∀ v ∈ s.versions, v.modified < s.clock)
    {vs : List Version} (hvs : ∀ v ∈ vs, v ∈ s.versions ∨ s.clock ≤ v.modified) (path : String) :
    (s.reading path).Right vs where
  seen v hv := by
    rw [version_reading] at hv
    have hmem := List.mem_of_find?_eq_some hv
    have hpath : v.path = path := by simpa using List.find?_some hv
    refine ⟨hpath, hearlier v hmem, ?_⟩
    intro hlegible
    obtain ⟨page, rfl⟩ := Machine.exists_of_mem_versions hmem
    rw [path_version] at hpath
    rw [text_reading, text_version, hpath]
    exact Site.load_of_isLegible hlegible
  current v hv hpath hlt := by
    rw [path_reading] at hpath
    rw [time_reading] at hlt
    rw [version_reading, ← hpath]
    rcases hvs v hv with hmem | hle
    · exact Machine.find?_versions hmem
    · exact absurd hlt (Nat.not_lt.mpr hle)

/-- A build has read every page that is older than its scan, apart from those it still has to
read, and what it has read is right. -/
structure Draft.Covers (d : Draft) (clock : Files.Time) (vs : List Version)
    (waiting : List String) : Prop where
  /-- The scan has taken place. -/
  scanned : d.scanned ≤ clock
  /-- The pages were read after the scan. -/
  timed : ∀ r ∈ d.readings, d.scanned ≤ r.time ∧ r.time ≤ clock
  /-- What was read is right. -/
  right : ∀ r ∈ d.readings, r.Right vs
  /-- Every older page has been read, or will be. -/
  read : ∀ v ∈ vs, v.modified < d.scanned →
    v.path ∈ d.readings.map (·.path) ∨ v.path ∈ waiting

/-- Pages that are written later do not matter to what has been read. -/
theorem Draft.Covers.later {d : Draft} {clock clock' : Files.Time} {vs vs' : List Version}
    {waiting : List String} (h : d.Covers clock vs waiting) (hclock : clock ≤ clock')
    (hvs : ∀ v ∈ vs', v ∈ vs ∨ clock ≤ v.modified) : d.Covers clock' vs' waiting where
  scanned := h.scanned.trans hclock
  timed r hr := ⟨(h.timed r hr).1, (h.timed r hr).2.trans hclock⟩
  right r hr := by
    refine ⟨(h.right r hr).seen, ?_⟩
    intro v hv hpath hlt
    rcases hvs v hv with hmem | hle
    · exact (h.right r hr).current v hmem hpath hlt
    · exact absurd (hlt.trans_le (h.timed r hr).2) (Nat.not_lt.mpr hle)
  read v hv hlt := by
    rcases hvs v hv with hmem | hle
    · exact h.read v hmem hlt
    · exact absurd (hlt.trans_le h.scanned) (Nat.not_lt.mpr hle)

/-! ### Editions -/

/-- An edition was built from this version of a page. -/
def Edition.Shows (e : Edition) (v : Version) : Prop :=
  ∃ r ∈ e.readings, r.path = v.path ∧ r.version = some v ∧ r.text = v.text

/-- A version of a page came too late for an edition, and not late enough to make it look out of
date: it was written after the page was read, if it was, and not after the installation. -/
def Edition.Misses (e : Edition) (v : Version) : Prop :=
  e.scanned ≤ v.modified ∧ v.modified ≤ e.installed ∧
    ∀ r ∈ e.readings, r.path = v.path → r.time ≤ v.modified

/-- An edition that looks up to date shows exactly what it does not miss. -/
theorem Draft.Covers.shows_iff {e : Edition} {clock : Files.Time} {vs : List Version}
    (h : e.toDraft.Covers clock vs []) {v : Version} (hv : v ∈ vs)
    (hfresh : v.modified ≤ e.installed) (hlegible : Site.isLegible v.path = true) :
    e.Shows v ↔ ¬ e.Misses v := by
  constructor
  · rintro ⟨r, hr, hpath, hversion, -⟩ ⟨-, -, hlate⟩
    have hlt := ((h.right r hr).seen v hversion).2.1
    exact absurd hlt (Nat.not_lt.mpr (hlate r hr hpath))
  · intro hmiss
    obtain ⟨r, hr, hpath, hlt⟩ : ∃ r ∈ e.readings, r.path = v.path ∧ v.modified < r.time := by
      by_cases hold : v.modified < e.scanned
      · rcases h.read v hv hold with hmem | hmem
        · obtain ⟨r, hr, hpath⟩ := List.mem_map.mp hmem
          exact ⟨r, hr, hpath, hold.trans_le (h.timed r hr).1⟩
        · exact absurd hmem List.not_mem_nil
      · by_contra hnone
        refine hmiss ⟨Nat.le_of_not_lt hold, hfresh, ?_⟩
        intro r hr hpath
        by_contra hlate
        exact hnone ⟨r, hr, hpath, Nat.lt_of_not_le hlate⟩
    have hversion := (h.right r hr).current v hv hpath.symm hlt
    refine ⟨r, hr, hpath, hversion, ?_⟩
    exact ((h.right r hr).seen v hversion).2.2 (hpath ▸ hlegible)

/-- What is still to be read may be given in another order. -/
theorem Draft.Covers.waiting_subset {d : Draft} {clock : Files.Time} {vs : List Version}
    {waiting waiting' : List String} (h : d.Covers clock vs waiting) (hsub : waiting ⊆ waiting') :
    d.Covers clock vs waiting' where
  scanned := h.scanned
  timed := h.timed
  right := h.right
  read v hv hlt := (h.read v hv hlt).imp_right fun hmem => hsub hmem

end LivePages.Ring
