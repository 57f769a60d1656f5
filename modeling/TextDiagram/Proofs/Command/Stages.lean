import TextDiagram.Command.Request
import TextDiagram.Proofs.Command.Disk
import TextDiagram.Proofs.Rendering
import TextDiagram.Proofs.Svg.Node

/-!
# The stages of a request

A request goes through stages, at each of which it may fail (`Stage.Fails`), and only the last one
changes the disk. Main statement: a request fails as the first of its stages that fails, and then
the disk is as before; otherwise only the file of the result is new or changed, and it holds a
picture, or a block of code if the request has the fallback (`run_changes_only_output`).
-/

namespace TextDiagram.Command

/-! ## The first stage that fails -/

section FailsFirst

variable {ι ε α β : Type} {fails : ι → ε → Prop}

/-- The first of some stages that fails does so with an error. -/
def FailsFirst (fails : ι → ε → Prop) (stages : List ι) (e : ε) : Prop :=
  ∃ before stage after, stages = before ++ stage :: after ∧
    (∀ earlier ∈ before, ∀ e', ¬ fails earlier e') ∧ fails stage e

theorem not_failsFirst_nil {e : ε} : ¬ FailsFirst fails [] e := by
  rintro ⟨before, stage, after, h, -⟩
  exact List.append_ne_nil_of_right_ne_nil before (List.cons_ne_nil stage after) h.symm

theorem failsFirst_cons {stage : ι} {stages : List ι} {e : ε} :
    FailsFirst fails (stage :: stages) e ↔
      fails stage e ∨ (∀ e', ¬ fails stage e') ∧ FailsFirst fails stages e := by
  constructor
  · rintro ⟨before, first, after, h, hbefore, hfirst⟩
    cases before with
    | nil =>
      obtain ⟨rfl, -⟩ := List.cons.inj h
      exact Or.inl hfirst
    | cons earlier before =>
      obtain ⟨rfl, hrest⟩ := List.cons.inj h
      obtain ⟨hearlier, hbefore⟩ := List.forall_mem_cons.mp hbefore
      exact Or.inr ⟨hearlier, before, first, after, hrest, hbefore, hfirst⟩
  · rintro (h | ⟨hstage, before, first, after, rfl, hbefore, hfirst⟩)
    · exact ⟨[], stage, stages, rfl, by simp, h⟩
    · exact ⟨stage :: before, first, after, rfl, List.forall_mem_cons.mpr ⟨hstage, hbefore⟩, hfirst⟩

theorem failsFirst_singleton {stage : ι} {e : ε} : FailsFirst fails [stage] e ↔ fails stage e := by
  rw [failsFirst_cons]
  simp [not_failsFirst_nil]

theorem failsFirst_append {stages others : List ι} {e : ε} :
    FailsFirst fails (stages ++ others) e ↔
      FailsFirst fails stages e ∨
        (∀ e', ¬ FailsFirst fails stages e') ∧ FailsFirst fails others e := by
  induction stages with
  | nil => simp [not_failsFirst_nil]
  | cons stage stages ih =>
    rw [List.cons_append, failsFirst_cons, ih]
    simp only [failsFirst_cons, not_or, not_and, forall_and]
    tauto

/-- Two steps fail as the first stage that fails, if the first step does so at some stages and the
second one, with the result of the first, at others. -/
theorem bind_eq_error_iff_failsFirst {x : Except ε α} {f : α → Except ε β} {stages others : List ι}
    (hx : ∀ e, x = .error e ↔ FailsFirst fails stages e)
    (hf : ∀ a, x = .ok a → ∀ e, f a = .error e ↔ FailsFirst fails others e) (e : ε) :
    x >>= f = .error e ↔ FailsFirst fails (stages ++ others) e := by
  rw [bind_eq_error_iff, failsFirst_append]
  simp only [← hx]
  cases x with
  | error e' => simp
  | ok a => simp [hf a rfl]

theorem bind_eq_error_iff_failsFirst_cons {x : Except ε α} {f : α → Except ε β} {stage : ι}
    {others : List ι} (hx : ∀ e, x = .error e ↔ fails stage e)
    (hf : ∀ a, x = .ok a → ∀ e, f a = .error e ↔ FailsFirst fails others e) (e : ε) :
    x >>= f = .error e ↔ FailsFirst fails (stage :: others) e :=
  bind_eq_error_iff_failsFirst (fun e => (hx e).trans failsFirst_singleton.symm) hf e

end FailsFirst

/-! ## The stages of a request -/

/-- A stage of a request. -/
inductive Stage
  /-- The configuration is loaded. -/
  | config
  /-- The source is read. -/
  | input
  /-- The source is taken for a diagram. -/
  | source
  /-- The background of the configuration is taken for a colour. -/
  | background
  /-- The result is written. -/
  | output

/-- The stages at which the result of a request is prepared, in their order. With the fallback it
does not matter whether the source becomes a picture. -/
def Request.preparation (r : Request) : List Stage :=
  .config :: .input :: if r.fallback then [] else [.source, .background]

/-- The stages of a request, in their order. -/
def Request.stages (r : Request) : List Stage :=
  r.preparation ++ [.output]

/-- How a stage of a request fails on a disk, whatever the stages before it do. -/
inductive Stage.Fails {workingFolder : Place} (system : Option Path) (r : Request)
    (d : Disk workingFolder) : Stage → Failure → Prop
  /-- The configuration cannot be loaded. -/
  | config {e : Failure} (h : (r.configSource d.look system).load d.look = .error e) :
    Fails system r d .config e
  /-- The source cannot be read. -/
  | input {fault : FileFault} (h : (d.look r.input).text = .error fault) :
    Fails system r d .input (.file fault)
  /-- The source describes no diagram. -/
  | source {source : List Char} {fault : SourceError} (hsource : (d.look r.input).text = .ok source)
    (h : Diagram.ofSource source = .error fault) :
    Fails system r d .source (.render (.source fault))
  /-- The background is no colour. -/
  | background {config : Config} {text : List Char} {fault : ColorError}
    (hconfig : (r.configSource d.look system).load d.look = .ok config)
    (h : config.IsRefused text fault) :
    Fails system r d .background (.render (.background text fault))
  /-- No text can be written to the path of the result. -/
  | output {fault : FileFault} (h : ∀ chars, d.write r.output chars = .error fault) :
    Fails system r d .output (.file fault)

section Request

variable {workingFolder : Place} {system : Option Path} {r : Request} {d : Disk workingFolder}

theorem fails_config_iff {e : Failure} : Stage.config.Fails system r d e ↔
    (r.configSource d.look system).load d.look = .error e := by
  constructor
  · intro h
    cases h with
    | config h => exact h
  · exact .config

theorem fails_input_iff {e : Failure} : Stage.input.Fails system r d e ↔
    ∃ fault, (d.look r.input).text = .error fault ∧ .file fault = e := by
  constructor
  · intro h
    cases h with
    | input h => exact ⟨_, h, rfl⟩
  · rintro ⟨fault, h, rfl⟩
    exact .input h

/-- A source that is read fails at its own stage if it describes no diagram. -/
theorem fails_source_iff {source : List Char} (hsource : (d.look r.input).text = .ok source)
    {e : Failure} : Stage.source.Fails system r d e ↔
      ∃ fault, Diagram.ofSource source = .error fault ∧ .render (.source fault) = e := by
  constructor
  · intro h
    cases h with
    | source hsource' h =>
      rw [Except.ok.inj (hsource.symm.trans hsource')]
      exact ⟨_, h, rfl⟩
  · rintro ⟨fault, h, rfl⟩
    exact .source hsource h

/-- A configuration that is loaded fails at the stage of the background if that is no colour. -/
theorem fails_background_iff {config : Config}
    (hconfig : (r.configSource d.look system).load d.look = .ok config) {e : Failure} :
    Stage.background.Fails system r d e ↔
      ∃ text fault, config.IsRefused text fault ∧ .render (.background text fault) = e := by
  constructor
  · intro h
    cases h with
    | background hconfig' h =>
      rw [Except.ok.inj (hconfig.symm.trans hconfig')]
      exact ⟨_, _, h, rfl⟩
  · rintro ⟨text, fault, h, rfl⟩
    exact .background hconfig h

theorem fails_output_iff {chars : List Char} {e : Failure} : Stage.output.Fails system r d e ↔
    ∃ fault, d.write r.output chars = .error fault ∧ .file fault = e := by
  constructor
  · intro h
    cases h with
    | output h => exact ⟨_, h chars, rfl⟩
  · rintro ⟨fault, h, rfl⟩
    exact .output (Disk.write_eq_error_iff.mp h)

/-- A configuration and a source that are there fail to become a picture as the first of two stages
that fails. -/
theorem render_eq_error_iff_failsFirst {config : Config} {source : List Char}
    (hconfig : (r.configSource d.look system).load d.look = .ok config)
    (hsource : (d.look r.input).text = .ok source) {e : Failure} :
    (render config source).mapError .render = .error e ↔
      FailsFirst (Stage.Fails system r d) [.source, .background] e := by
  rw [failsFirst_cons, failsFirst_singleton, mapError_eq_error_iff]
  -- no layout of a diagram fails, so that a source can only be refused as such or for the background
  simp only [render_eq_error_iff, fails_source_iff hsource, fails_background_iff hconfig]
  cases Diagram.ofSource source with
  | error fault => simp
  | ok diagram => simp

/-! ## Carrying out a request -/

/-- A request succeeds when its result can be prepared and written. -/
theorem run_eq_ok_iff {e : Disk workingFolder} : r.run system d = (.ok (), e) ↔
    ∃ chars, r.prepare d.look system = .ok chars ∧ d.write r.output chars = .ok e := by
  cases hp : r.prepare d.look system with
  | error failure => simp [run_of_prepare_eq_error hp]
  | ok chars =>
    rw [run_of_prepare_eq_ok hp]
    cases hw : d.write r.output chars with
    | error fault => simp [hw]
    | ok written => simp [hw]

/-- Without the fallback, the result is the picture that the configuration makes of the source. -/
theorem prepare_eq_ok_iff {look : Path → Found} {chars : List Char} :
    { r with fallback := false }.prepare look system = .ok chars ↔
      ∃ config source p, (r.configSource look system).load look = .ok config ∧
        (look r.input).text = .ok source ∧ render config source = .ok p ∧ chars = p.markup := by
  unfold Request.prepare
  simp only [bind_eq_ok_iff, mapError_eq_ok_iff, Bool.false_eq_true, if_false]
  constructor
  · rintro ⟨config, hload, source, hsource, p, hp, hchars⟩
    exact ⟨config, source, p, hload, hsource, hp, (Except.ok.inj hchars).symm⟩
  · rintro ⟨config, source, p, hload, hsource, hp, rfl⟩
    exact ⟨config, hload, source, hsource, p, hp, rfl⟩

/-- With the fallback, the result is what the source is shown as. -/
theorem prepare_fallback_eq_ok_iff {look : Path → Found} {chars : List Char} :
    { r with fallback := true }.prepare look system = .ok chars ↔
      ∃ config source, (r.configSource look system).load look = .ok config ∧
        (look r.input).text = .ok source ∧ chars = display source := by
  unfold Request.prepare
  simp only [bind_eq_ok_iff, mapError_eq_ok_iff, if_true]
  constructor
  · rintro ⟨config, hload, source, hsource, hchars⟩
    exact ⟨config, source, hload, hsource, (Except.ok.inj hchars).symm⟩
  · rintro ⟨config, source, hload, hsource, rfl⟩
    exact ⟨config, hload, source, hsource, rfl⟩

/-- The result of a request fails to be prepared as the first stage that fails before the last. -/
theorem prepare_eq_error_iff {e : Failure} : r.prepare d.look system = .error e ↔
    FailsFirst (Stage.Fails system r d) r.preparation e := by
  unfold Request.prepare
  refine bind_eq_error_iff_failsFirst_cons (fun e => ?_) (fun config hconfig e => ?_) e
  · rw [fails_config_iff]
  refine bind_eq_error_iff_failsFirst_cons (fun e => ?_) (fun source hsource e => ?_) e
  · rw [fails_input_iff, mapError_eq_error_iff]
  rw [mapError_eq_ok_iff] at hsource
  cases r.fallback with
  | true =>
    -- what the source is shown as is a picture or code: nothing fails any more
    refine iff_of_false ?_ not_failsFirst_nil
    nofun
  | false =>
    rw [if_neg Bool.false_ne_true, if_neg Bool.false_ne_true,
      ← render_eq_error_iff_failsFirst hconfig hsource, bind_eq_error_iff]
    refine or_iff_left ?_
    rintro ⟨p, -, h⟩
    cases h

/-- How a request ends: its result is prepared, and then written. -/
theorem run_fst : (r.run system d).1 = r.prepare d.look system >>= fun chars =>
    ((d.write r.output chars).mapError .file).map fun _ => () := by
  cases hp : r.prepare d.look system with
  | error e =>
    rw [run_of_prepare_eq_error hp]
    rfl
  | ok chars =>
    rw [run_of_prepare_eq_ok hp]
    cases hw : d.write r.output chars with
    | error fault => simp [hw, bind, Except.bind, Except.mapError, Except.map]
    | ok written => simp [hw, bind, Except.bind, Except.mapError, Except.map]

/-- A request fails as the first of its stages that fails. -/
theorem run_eq_error_iff {e : Failure} :
    (r.run system d).1 = .error e ↔ FailsFirst (Stage.Fails system r d) r.stages e := by
  rw [run_fst]
  refine bind_eq_error_iff_failsFirst (fun e => prepare_eq_error_iff) (fun chars _ e => ?_) e
  rw [failsFirst_singleton, fails_output_iff, map_eq_error_iff, mapError_eq_error_iff]

/-- The result of a request is the picture that a configuration makes of the source, or with the
fallback what the source is shown as. -/
theorem exists_of_prepare_eq_ok {look : Path → Found} {chars : List Char}
    (h : r.prepare look system = .ok chars) : ∃ source, (look r.input).text = .ok source ∧
      ((∃ config p, render config source = .ok p ∧ chars = p.markup) ∨
        (r.fallback = true ∧ chars = display source)) := by
  cases hr : r.fallback with
  | true =>
    have heq : r = { r with fallback := true } := by rw [← hr]
    rw [heq] at h
    obtain ⟨_, source, -, hsource, hchars⟩ := prepare_fallback_eq_ok_iff.mp h
    exact ⟨source, hsource, Or.inr ⟨rfl, hchars⟩⟩
  | false =>
    have heq : r = { r with fallback := false } := by rw [← hr]
    rw [heq] at h
    obtain ⟨config, source, p, -, hsource, hp, hchars⟩ := prepare_eq_ok_iff.mp h
    exact ⟨source, hsource, Or.inl ⟨config, p, hp, hchars⟩⟩

/-- The result of a request opens as a picture, or with the fallback as a block of code. -/
theorem opening_of_prepare {look : Path → Found} {chars : List Char}
    (h : r.prepare look system = .ok chars) :
    "<svg".toList <+: chars ∨ (r.fallback = true ∧ codeBlockOpening <+: chars) := by
  obtain ⟨source, -, ⟨config, p, hp, rfl⟩ | ⟨hfallback, rfl⟩⟩ := exists_of_prepare_eq_ok h
  · exact Or.inl (opening_markup_of_render hp)
  · exact (opening_display source).imp_right fun hcode => ⟨hfallback, hcode⟩

/-- A request succeeds by writing a result to the place to which its path leads; nothing else on the
disk changes. -/
theorem exists_of_run_eq_ok (h : (r.run system d).1 = .ok ()) :
    ∃ place chars, r.prepare d.look system = .ok chars ∧
      (r.run system d).2.target r.output = .file place (.text chars) ∧
      ∀ other, other ≠ place → (r.run system d).2.find? other = d.find? other := by
  have hrun : r.run system d = (.ok (), (r.run system d).2) := Prod.ext h rfl
  obtain ⟨chars, hprepare, hwrite⟩ := run_eq_ok_iff.mp hrun
  obtain ⟨place, hplace, hdisk⟩ := Disk.write_eq_ok_iff.mp hwrite
  obtain ⟨hopen, htarget⟩ := Disk.target_put hplace
  rw [hdisk]
  exact ⟨place, chars, hprepare, htarget _, fun other hother =>
    Disk.find?_put_of_ne hopen hother _⟩

/-- A request is carried out altogether or not at all. It fails as the first of its stages that
fails, and then the disk is as before. Otherwise the only file that is new or changed is that of the
result, which holds a picture, or perhaps a block of code if the request has the fallback. -/
theorem run_changes_only_output (system : Option Path) (r : Request) (d : Disk workingFolder) :
    (∀ e, (r.run system d).1 = .error e ↔ FailsFirst (Stage.Fails system r d) r.stages e) ∧
    (∀ e, (r.run system d).1 = .error e → (r.run system d).2 = d) ∧
    ((r.run system d).1 = .ok () → ∃ place chars,
      (r.run system d).2.target r.output = .file place (.text chars) ∧
      (∀ other, other ≠ place → (r.run system d).2.find? other = d.find? other) ∧
      ("<svg".toList <+: chars ∨ (r.fallback = true ∧ codeBlockOpening <+: chars))) := by
  refine ⟨fun e => run_eq_error_iff, fun e h => run_error h, fun h => ?_⟩
  obtain ⟨place, chars, hprepare, htarget, hothers⟩ := exists_of_run_eq_ok h
  exact ⟨place, chars, htarget, hothers, opening_of_prepare hprepare⟩

end Request

/-! ## A chart without nodes, on a background that is no colour -/

/-- A disk with a flow chart that has no nodes in the working folder, a configuration elsewhere with a
background that is no colour, and a folder for results beside the working folder. -/
def paleDisk : Disk ["srv".toList, "diagrams".toList] where
  entries :=
    [(["srv".toList, "diagrams".toList, "in.mmd".toList], .file (.text "flowchart TD".toList)),
     (["etc".toList, "pale.toml".toList],
      .file (.text "style.background_color = \"pale\"".toList)),
     (["srv".toList, "results".toList], .folder)]

/-- A request for the picture of the chart on the background. -/
def paleRequest : Request where
  input := "in.mmd".toList
  output := "../results/out.svg".toList
  config := some "/etc/pale.toml".toList

theorem run_changes_only_output_pale :
    (FailsFirst (Stage.Fails none paleRequest paleDisk) paleRequest.stages
        (.render (.source .noNodes)) ∧
      (paleRequest.run none paleDisk).2 = paleDisk) ∧
    ∃ place chars,
      ({ paleRequest with fallback := true }.run none paleDisk).2.target paleRequest.output =
        .file place (.text chars) ∧
      (∀ other, other ≠ place →
        ({ paleRequest with fallback := true }.run none paleDisk).2.find? other =
          paleDisk.find? other) ∧
      ("<svg".toList <+: chars ∨ codeBlockOpening <+: chars) := by
  have hfails : (paleRequest.run none paleDisk).1 = .error (.render (.source .noNodes)) := by
    decide +kernel
  have hok : ({ paleRequest with fallback := true }.run none paleDisk).1 = .ok () :=
    eq_ok_of_toOption (by decide +kernel)
  obtain ⟨herror, hdisk, -⟩ := run_changes_only_output none paleRequest paleDisk
  obtain ⟨-, -, hwritten⟩ :=
    run_changes_only_output none { paleRequest with fallback := true } paleDisk
  obtain ⟨place, chars, htarget, hothers, hopening⟩ := hwritten hok
  exact ⟨⟨(herror _).mp hfails, hdisk _ hfails⟩, place, chars, htarget, hothers,
    hopening.imp_right And.right⟩

end TextDiagram.Command
