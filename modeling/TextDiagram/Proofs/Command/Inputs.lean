import TextDiagram.Proofs.Command.Stages

/-!
# What a request depends on

Of all that is on a disk, a request looks at its input, and at the files in which its configuration
may be, up to the first one that exists. Main statement: on disks that agree on these, a request ends
in the same way and writes the same; a configuration that is given, or that is the first one to
exist, is used or makes the request fail, and the default is used only where there is none
(`run_eq_of_agree`).
-/

namespace TextDiagram.Command

/-! ## Files that are looked at -/

/-- The files in which the configuration of a request may be, in the order in which they are looked
for. -/
def Request.configPaths (system : Option Path) (r : Request) : List Path :=
  match r.config with
  | some path => [path]
  | none => localConfig :: system.toList

/-- The configuration in a file that is found, if it is one. -/
def Found.config? (f : Found) : Option Config :=
  f.text.toOption.bind Config.ofText?

/-- The configuration of a request has to be in a file: in the one that is given, or in the first one
that exists. -/
def Request.Heeds (look : Path → Found) (system : Option Path) (r : Request) (path : Path) : Prop :=
  ∃ before after, r.configPaths system = before ++ path :: after ∧
    (∀ earlier ∈ before, (look earlier).isPresent = false) ∧
    (r.config = some path ∨ (look path).isPresent = true)

/-- The same is found at a path, or nothing is found there for whatever reasons. -/
def AgreeAt (look look' : Path → Found) (path : Path) : Prop :=
  look path = look' path ∨ (look path).isPresent = false ∧ (look' path).isPresent = false

/-- The same is found at some paths, up to and including the first one at which something is. -/
def AgreeUpToFirst (look look' : Path → Found) (paths : List Path) : Prop :=
  ∀ before path after, paths = before ++ path :: after →
    (∀ earlier ∈ before, (look earlier).isPresent = false) → AgreeAt look look' path

section Look

variable {look look' : Path → Found} {path : Path} {paths : List Path}

theorem AgreeAt.isPresent_eq (h : AgreeAt look look' path) :
    (look path).isPresent = (look' path).isPresent := by
  rcases h with heq | ⟨habsent, habsent'⟩
  · rw [heq]
  · rw [habsent, habsent']

theorem agreeUpToFirst_cons : AgreeUpToFirst look look' (path :: paths) ↔
    AgreeAt look look' path ∧
      ((look path).isPresent = false → AgreeUpToFirst look look' paths) := by
  constructor
  · intro h
    refine ⟨h [] path paths rfl (by simp), fun habsent before p after hpaths hbefore => ?_⟩
    exact h (path :: before) p after (by rw [hpaths, List.cons_append])
      (List.forall_mem_cons.mpr ⟨habsent, hbefore⟩)
  · rintro ⟨hfirst, hrest⟩ before p after hpaths hbefore
    cases before with
    | nil =>
      obtain ⟨rfl, -⟩ := List.cons.inj hpaths
      exact hfirst
    | cons earlier before =>
      obtain ⟨rfl, htail⟩ := List.cons.inj hpaths
      obtain ⟨habsent, hbefore⟩ := List.forall_mem_cons.mp hbefore
      exact hrest habsent before p after htail hbefore

/-! ## Loading a configuration -/

/-- The configuration in the first file that exists, or the default. -/
def readFirst (look : Path → Found) : List Path → Except Failure Config
  | [] => .ok {}
  | path :: paths => if (look path).isPresent then readConfig look path else readFirst look paths

/-- A configuration is read where there is one, and nothing else. -/
theorem readConfig_eq_ok_iff {config : Config} :
    readConfig look path = .ok config ↔ (look path).config? = some config := by
  unfold readConfig Found.config?
  cases look path with
  | nothing fault => simp [Found.isPresent, Found.text, Except.toOption]
  | folder => simp [Found.isPresent, Found.text, Except.toOption]
  | file content =>
    cases content with
    | binary bytes => simp [Found.isPresent, Found.text, Except.toOption]
    | text chars =>
      simp only [Found.isPresent, Found.text, Except.toOption, Option.bind_some]
      cases Config.ofText? chars with
      | none => simp
      | some config' => simp

/-- A file that is missing or holds no configuration is a fault. -/
theorem exists_readConfig_eq_error (h : (look path).config? = none) :
    ∃ e, readConfig look path = .error e := by
  cases hread : readConfig look path with
  | error e => exact ⟨e, rfl⟩
  | ok config =>
    rw [readConfig_eq_ok_iff.mp hread] at h
    cases h

theorem readConfig_of_absent (h : (look path).isPresent = false) :
    readConfig look path = .error (.config (.missing path)) := by
  rw [readConfig, h]
  rfl

/-- What is read of a file depends on it alone. -/
theorem AgreeAt.readConfig_eq (h : AgreeAt look look' path) :
    readConfig look path = readConfig look' path := by
  rcases h with heq | ⟨habsent, habsent'⟩
  · unfold readConfig
    rw [heq]
  · rw [readConfig_of_absent habsent, readConfig_of_absent habsent']

theorem AgreeUpToFirst.readFirst_eq (h : AgreeUpToFirst look look' paths) :
    readFirst look paths = readFirst look' paths := by
  induction paths with
  | nil => rfl
  | cons path paths ih =>
    obtain ⟨hfirst, hrest⟩ := agreeUpToFirst_cons.mp h
    rw [readFirst, readFirst, hfirst.readConfig_eq, ← hfirst.isPresent_eq]
    cases hpresent : (look path).isPresent with
    | true => rfl
    | false => exact ih (hrest hpresent)

/-- The first file that exists decides. -/
theorem readFirst_append {before after : List Path}
    (hbefore : ∀ earlier ∈ before, (look earlier).isPresent = false)
    (hpath : (look path).isPresent = true) :
    readFirst look (before ++ path :: after) = readConfig look path := by
  induction before with
  | nil => exact if_pos hpath
  | cons earlier before ih =>
    obtain ⟨habsent, hbefore⟩ := List.forall_mem_cons.mp hbefore
    rw [List.cons_append, readFirst, habsent]
    exact ih hbefore

theorem readFirst_of_absent (h : ∀ path ∈ paths, (look path).isPresent = false) :
    readFirst look paths = .ok {} := by
  induction paths with
  | nil => rfl
  | cons path paths ih =>
    obtain ⟨habsent, hrest⟩ := List.forall_mem_cons.mp h
    rw [readFirst, habsent]
    exact ih hrest

end Look

section Request

variable {look look' : Path → Found} {system : Option Path} {r : Request}

theorem load_of_given {path : Path} (h : r.config = some path) :
    (r.configSource look system).load look = readConfig look path := by
  unfold Request.configSource
  rw [h]
  rfl

theorem load_of_not_given (h : r.config = none) :
    (r.configSource look system).load look = readFirst look (r.configPaths system) := by
  unfold Request.configSource Request.configPaths
  rw [h]
  cases hlocal : (look localConfig).isPresent with
  | true => simp only [hlocal, if_true, ConfigSource.load, readFirst]
  | false =>
    cases system with
    | none =>
      simp only [hlocal, Bool.false_eq_true, if_false, ConfigSource.load, readFirst,
        Option.toList_none]
    | some path =>
      cases hsystem : (look path).isPresent with
      | true =>
        simp only [hlocal, hsystem, Bool.false_eq_true, if_true, if_false, ConfigSource.load,
          readFirst, Option.toList_some]
      | false =>
        simp only [hlocal, hsystem, Bool.false_eq_true, if_false, ConfigSource.load, readFirst,
          Option.toList_some]

/-- The configuration of a request is the one in the file that it heeds. -/
theorem load_of_heeds {path : Path} (h : r.Heeds look system path) :
    (r.configSource look system).load look = readConfig look path := by
  obtain ⟨before, after, hpaths, hbefore, hpath⟩ := h
  cases hconfig : r.config with
  | some given =>
    rw [Request.configPaths, hconfig] at hpaths
    cases before with
    | nil =>
      obtain ⟨rfl, -⟩ := List.cons.inj hpaths
      exact load_of_given hconfig
    | cons earlier before => simp at hpaths
  | none =>
    rw [hconfig] at hpath
    rw [load_of_not_given hconfig, hpaths]
    exact readFirst_append hbefore (hpath.resolve_left nofun)

/-- A request that heeds no file has the default configuration. -/
theorem load_of_not_heeds (h : ∀ path, ¬ r.Heeds look system path) :
    (r.configSource look system).load look = .ok {} := by
  cases hconfig : r.config with
  | some given =>
    refine absurd ⟨[], [], ?_, by simp, Or.inl hconfig⟩ (h given)
    rw [Request.configPaths, hconfig]
    rfl
  | none =>
    rw [load_of_not_given hconfig]
    refine readFirst_of_absent fun path hpath => ?_
    -- of the files that exist, the first one would be heeded
    cases hfind : (r.configPaths system).find? fun p => (look p).isPresent with
    | none => simpa using List.find?_eq_none.mp hfind path hpath
    | some first =>
      obtain ⟨hpresent, before, after, hpaths, hbefore⟩ := List.find?_eq_some_iff_append.mp hfind
      refine absurd ⟨before, after, hpaths, fun earlier hearlier => ?_, Or.inr hpresent⟩ (h first)
      simpa using hbefore earlier hearlier

/-- The configuration of a request depends only on the files in which it may be, up to the first one
that exists. -/
theorem load_eq_of_agree (h : AgreeUpToFirst look look' (r.configPaths system)) :
    (r.configSource look system).load look = (r.configSource look' system).load look' := by
  cases hconfig : r.config with
  | some given =>
    rw [load_of_given hconfig, load_of_given hconfig]
    rw [Request.configPaths, hconfig] at h
    exact (agreeUpToFirst_cons.mp h).1.readConfig_eq
  | none =>
    rw [load_of_not_given hconfig, load_of_not_given hconfig]
    exact h.readFirst_eq

/-- What a request prepares depends on its input and on its configuration. -/
theorem prepare_eq_of_agree (hinput : look r.input = look' r.input)
    (hconfig : AgreeUpToFirst look look' (r.configPaths system)) :
    r.prepare look system = r.prepare look' system := by
  unfold Request.prepare
  rw [load_eq_of_agree hconfig, hinput]

/-! ## Requests on two disks -/

variable {workingFolder : Place} {d d' : Disk workingFolder}

/-- What is written is found at the path to which it is written. -/
theorem look_of_write {e : Disk workingFolder} {path : Path} {chars : List Char}
    (h : d.write path chars = .ok e) : e.look path = .file (.text chars) := by
  obtain ⟨place, hplace, rfl⟩ := Disk.write_eq_ok_iff.mp h
  obtain ⟨-, htarget⟩ := Disk.target_put hplace
  rw [Disk.look, htarget]

/-- A configuration that cannot be loaded makes the request fail, and the disk is as before. -/
theorem run_of_load_eq_error {e : Failure}
    (h : (r.configSource d.look system).load d.look = .error e) :
    r.run system d = (.error e, d) := by
  refine run_of_prepare_eq_error ?_
  rw [Request.prepare, h]
  rfl

/-- Where the same faults keep a text from being written, a request ends in the same way with it. -/
theorem run_fst_eq (hprepare : r.prepare d.look system = r.prepare d'.look system)
    (houtput : ∀ chars fault,
      d.write r.output chars = .error fault ↔ d'.write r.output chars = .error fault) :
    (r.run system d).1 = (r.run system d').1 := by
  rw [run_fst, run_fst, hprepare]
  congr 1
  funext chars
  cases hwrite : d.write r.output chars with
  | error fault => rw [(houtput chars fault).mp hwrite]
  | ok e =>
    cases hwrite' : d'.write r.output chars with
    | error fault =>
      rw [(houtput chars fault).mpr hwrite'] at hwrite
      cases hwrite
    | ok e' => rfl

/-- A request that succeeds leaves the text that it has prepared at the path of its result. -/
theorem exists_look_of_run_eq_ok (h : (r.run system d).1 = .ok ()) : ∃ chars,
    r.prepare d.look system = .ok chars ∧
      (r.run system d).2.look r.output = .file (.text chars) := by
  have hrun : r.run system d = (.ok (), (r.run system d).2) := Prod.ext h rfl
  obtain ⟨chars, hprepare, hwrite⟩ := run_eq_ok_iff.mp hrun
  exact ⟨chars, hprepare, look_of_write hwrite⟩

/-- On disks on which the same is found at the input and at the paths of the configuration, up to and
including the first one at which something is, and on which the same can be written, a request ends
in the same way and leaves the same text at the path of its result. The file that it heeds for its
configuration has one and the request is carried out with it, or makes the request fail; if it heeds
none, it is carried out with the default. -/
theorem run_eq_of_agree (hinput : d.look r.input = d'.look r.input)
    (hconfig : AgreeUpToFirst d.look d'.look (r.configPaths system))
    (houtput : ∀ chars fault,
      d.write r.output chars = .error fault ↔ d'.write r.output chars = .error fault) :
    (r.run system d).1 = (r.run system d').1 ∧
    ((r.run system d).1 = .ok () → ∃ chars,
      (r.run system d).2.look r.output = .file (.text chars) ∧
      (r.run system d').2.look r.output = .file (.text chars)) ∧
    (∀ path, r.Heeds d.look system path →
      (∀ config, (d.look path).config? = some config →
        (r.configSource d.look system).load d.look = .ok config) ∧
      ((d.look path).config? = none → ∃ e, readConfig d.look path = .error e ∧
        r.run system d = (.error e, d) ∧ r.run system d' = (.error e, d'))) ∧
    ((∀ path, ¬ r.Heeds d.look system path) →
      (r.configSource d.look system).load d.look = .ok {}) := by
  have hprepare := prepare_eq_of_agree hinput hconfig
  have hload := load_eq_of_agree hconfig
  have hend := run_fst_eq hprepare houtput
  refine ⟨hend, fun hok => ?_, fun path hpath => ⟨fun config h => ?_, fun h => ?_⟩,
    load_of_not_heeds⟩
  · obtain ⟨chars, hchars, hlook⟩ := exists_look_of_run_eq_ok hok
    obtain ⟨chars', hchars', hlook'⟩ := exists_look_of_run_eq_ok (hend ▸ hok)
    rw [← hprepare, hchars] at hchars'
    rw [← Except.ok.inj hchars'] at hlook'
    exact ⟨chars, hlook, hlook'⟩
  · rw [load_of_heeds hpath]
    exact readConfig_eq_ok_iff.mpr h
  · obtain ⟨e, he⟩ := exists_readConfig_eq_error h
    have hfails := (load_of_heeds hpath).trans he
    exact ⟨e, he, run_of_load_eq_error hfails, run_of_load_eq_error (hload ▸ hfails)⟩

end Request

/-! ## A configuration of the system, and none in the working folder -/

/-- The path of a configuration of the system. -/
def systemConfig : Path := "/etc/mermaid-lite/config.toml".toList

/-- A disk with a source in the working folder and a configuration of the system. -/
def systemDisk : Disk ["diagrams".toList] where
  entries :=
    [(["diagrams".toList, "in.mmd".toList], .file (.text "A --> B".toList)),
     (["etc".toList, "mermaid-lite".toList, "config.toml".toList],
      .file (.text "style.background_color = \"red\"".toList))]

/-- The same disk with a result that was written before, and with a file that no request names. -/
def crowdedDisk : Disk ["diagrams".toList] where
  entries := systemDisk.entries ++
    [(["diagrams".toList, "out.svg".toList], .file (.text "old".toList)),
     (["etc".toList, "other.toml".toList], .file (.text "style = [".toList))]

/-- A request that gives no configuration. -/
def plainRequest : Request where
  input := "/diagrams/in.mmd".toList

/-- A request that gives a configuration which does not exist. -/
def lostRequest : Request :=
  { plainRequest with config := some "../lost.toml".toList }

theorem agreeUpToFirst_crowdedDisk : AgreeUpToFirst systemDisk.look crowdedDisk.look
    (plainRequest.configPaths (some systemConfig)) := by
  refine agreeUpToFirst_cons.mpr ⟨Or.inl (by decide +kernel), fun _ => ?_⟩
  refine agreeUpToFirst_cons.mpr ⟨Or.inl (by decide +kernel), fun _ => ?_⟩
  rintro before path after h
  simp at h

theorem write_crowdedDisk_iff (chars : List Char) (fault : FileFault) :
    systemDisk.write plainRequest.output chars = .error fault ↔
      crowdedDisk.write plainRequest.output chars = .error fault := by
  have h : systemDisk.write plainRequest.output chars =
      .ok (systemDisk.put ["diagrams".toList, "out.svg".toList] (.text chars)) :=
    Disk.write_eq_ok_iff.mpr ⟨_, by decide +kernel, rfl⟩
  have h' : crowdedDisk.write plainRequest.output chars =
      .ok (crowdedDisk.put ["diagrams".toList, "out.svg".toList] (.text chars)) :=
    Disk.write_eq_ok_iff.mpr ⟨_, by decide +kernel, rfl⟩
  rw [h, h']
  exact iff_of_false nofun nofun

/-- The configuration of the system is heeded where there is none in the working folder, but not in
place of one that is given and lost. -/
theorem run_eq_of_agree_crowded :
    (∃ chars, (plainRequest.run (some systemConfig) systemDisk).2.look plainRequest.output =
        .file (.text chars) ∧
      (plainRequest.run (some systemConfig) crowdedDisk).2.look plainRequest.output =
        .file (.text chars)) ∧
    (plainRequest.configSource systemDisk.look (some systemConfig)).load systemDisk.look =
      .ok ⟨some "red".toList⟩ ∧
    ∃ e, lostRequest.run (some systemConfig) systemDisk = (.error e, systemDisk) ∧
      lostRequest.run (some systemConfig) crowdedDisk = (.error e, crowdedDisk) := by
  have hinput : systemDisk.look plainRequest.input = crowdedDisk.look plainRequest.input := by
    decide +kernel
  have hok : (plainRequest.run (some systemConfig) systemDisk).1 = .ok () :=
    eq_ok_of_toOption (by decide +kernel)
  have hsystem : plainRequest.Heeds systemDisk.look (some systemConfig) systemConfig :=
    ⟨[localConfig], [], rfl, by decide +kernel, Or.inr (by decide +kernel)⟩
  have hlost : AgreeUpToFirst systemDisk.look crowdedDisk.look
      (lostRequest.configPaths (some systemConfig)) := by
    refine agreeUpToFirst_cons.mpr ⟨Or.inl (by decide +kernel), fun _ => ?_⟩
    rintro before path after h
    simp at h
  have hgiven : lostRequest.Heeds systemDisk.look (some systemConfig) "../lost.toml".toList :=
    ⟨[], [], rfl, by simp, Or.inl rfl⟩
  obtain ⟨-, hsame, hheeds, -⟩ :=
    run_eq_of_agree hinput agreeUpToFirst_crowdedDisk write_crowdedDisk_iff
  obtain ⟨-, -, hheeds', -⟩ := run_eq_of_agree (r := lostRequest) hinput hlost write_crowdedDisk_iff
  obtain ⟨e, -, hfails⟩ := (hheeds' _ hgiven).2 (by decide +kernel)
  exact ⟨hsame hok, (hheeds _ hsystem).1 _ (by decide +kernel), e, hfails⟩

end TextDiagram.Command
