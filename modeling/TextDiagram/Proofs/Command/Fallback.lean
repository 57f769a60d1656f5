import TextDiagram.Proofs.Command.Stages

/-!
# The fallback of a request

A request with the fallback reads the same files as the one without it and shows the source in place
of the picture. Main statement: where the request without the fallback succeeds, so does the one
with it, and the two write the same exactly when no background is configured
(`run_fallback_eq_iff`).
-/

namespace TextDiagram.Command

/-! ## A request and its fallback -/

section Request

variable {workingFolder : Place} {system : Option Path} {r : Request} {d : Disk workingFolder}

/-- With a configuration that is known, a request that succeeds also succeeds with the fallback, and
leaves the same disk if and only if the configuration has no background. -/
theorem exists_run_fallback {config : Config} {e : Disk workingFolder}
    (hload : (r.configSource d.look system).load d.look = .ok config)
    (h : { r with fallback := false }.run system d = (.ok (), e)) :
    ∃ e', { r with fallback := true }.run system d = (.ok (), e') ∧
      (e' = e ↔ config.background = none) := by
  obtain ⟨chars, hprepare, hwrite⟩ := run_eq_ok_iff.mp h
  obtain ⟨config', source, p, hload', hsource, hp, rfl⟩ := prepare_eq_ok_iff.mp hprepare
  have hconfig : config = config' := Except.ok.inj (hload.symm.trans hload')
  subst hconfig
  obtain ⟨place, hput⟩ := Disk.exists_put_of_write hwrite
  have he : e = d.put place (.text p.markup) := Except.ok.inj (hwrite.symm.trans (hput p.markup))
  have hshown : { r with fallback := true }.prepare d.look system = .ok (display source) :=
    prepare_fallback_eq_ok_iff.mpr ⟨config, source, hload, hsource, rfl⟩
  refine ⟨d.put place (.text (display source)), run_eq_ok_iff.mpr ⟨_, hshown, hput _⟩, ?_⟩
  rw [he, Disk.put_text_inj]
  exact display_eq_markup_iff hp

/-- A request that succeeds also succeeds with the fallback. The configuration is in order, and the
two write the same if and only if it has no background: the fallback does not heed it. -/
theorem run_fallback_eq_iff (h : ({ r with fallback := false }.run system d).1 = .ok ()) :
    ({ r with fallback := true }.run system d).1 = .ok () ∧
      ∃ config, (r.configSource d.look system).load d.look = .ok config ∧
        (({ r with fallback := true }.run system d).2 =
          ({ r with fallback := false }.run system d).2 ↔ config.background = none) := by
  have hrun : { r with fallback := false }.run system d =
      (.ok (), ({ r with fallback := false }.run system d).2) :=
    Prod.ext h rfl
  obtain ⟨_, hprepare, _⟩ := run_eq_ok_iff.mp hrun
  obtain ⟨config, _, _, hload, _⟩ := prepare_eq_ok_iff.mp hprepare
  obtain ⟨e', he', hiff⟩ := exists_run_fallback hload hrun
  rw [he']
  exact ⟨rfl, config, hload, hiff⟩

end Request

/-! ## A background that the fallback does not heed -/

/-- A disk with a source and a configuration that gives a background, both in the working folder. -/
def redDisk : Disk ["diagrams".toList] where
  entries :=
    [(["diagrams".toList, "in.mmd".toList], .file (.text "A --> B".toList)),
     (["diagrams".toList, "config.toml".toList],
      .file (.text "style.background_color = \"red\"".toList))]

/-- A request for the picture on the background. -/
def redRequest : Request where
  input := "in.mmd".toList
  config := some "config.toml".toList

theorem run_fallback_eq_iff_red :
    ({ redRequest with fallback := false }.run none redDisk).1 = .ok () ∧
      ({ redRequest with fallback := true }.run none redDisk).1 = .ok () ∧
        ∃ config, (redRequest.configSource redDisk.look none).load redDisk.look = .ok config ∧
          (({ redRequest with fallback := true }.run none redDisk).2 =
            ({ redRequest with fallback := false }.run none redDisk).2 ↔
              config.background = none) :=
  have h : ({ redRequest with fallback := false }.run none redDisk).1 = .ok () :=
    eq_ok_of_toOption (by decide +kernel)
  ⟨h, run_fallback_eq_iff h⟩

/-- The fallback changes what a source that becomes a picture is written as. -/
theorem not_forall_run_fallback : ¬ ∀ (workingFolder : Place) (system : Option Path) (r : Request)
    (d : Disk workingFolder),
    ({ r with fallback := false }.run system d).1 = .ok () →
      ({ r with fallback := true }.run system d).1 = .ok () ∧
        ({ r with fallback := true }.run system d).2 =
          ({ r with fallback := false }.run system d).2 := by
  intro hall
  have hok : ({ redRequest with fallback := false }.run none redDisk).1 = .ok () :=
    eq_ok_of_toOption (by decide +kernel)
  have hload : (redRequest.configSource redDisk.look none).load redDisk.look =
      .ok ⟨some "red".toList⟩ :=
    eq_ok_of_toOption (by decide +kernel)
  obtain ⟨e', he', hiff⟩ := exists_run_fallback hload (Prod.ext hok rfl)
  have hsame := (hall _ none redRequest redDisk hok).2
  rw [he'] at hsame
  exact Option.some_ne_none _ (hiff.mp hsame)

end TextDiagram.Command
