import Mathlib.Data.List.Infix
import Mathlib.Tactic.Common
import TextDiagram.Command.Disk

/-!
# Writing to a disk

A path leads to a place only through folders (`isOpen_of_target`), so that a file put at the place
turns nothing else into a folder or a file. Main statements: a file that is written is found where
its path leads (`target_put`), and nothing else on the disk changes (`find?_put_of_ne`).
-/

namespace TextDiagram.Command.Disk

variable {workingFolder : Place}

/-- A file can be put at a place: the place lies in folders, and is none itself. -/
structure IsOpen (d : Disk workingFolder) (place : Place) : Prop where
  ne_nil : place ≠ []
  parents : ∀ p, p <+: place → p ≠ place → d.find? p = some .folder
  no_folder : d.find? place ≠ some .folder

/-- The place to which a file can be written. -/
def Target.place? : Target → Option Place
  | .file place _ | .vacant place => some place
  | .folder | .vacantFolder | .nowhere _ => none

variable {d : Disk workingFolder}

/-! ## A file at a place -/

theorem lookup_filter_ne {entries : List (Place × Entry)} {place other : Place}
    (h : other ≠ place) :
    (entries.filter fun (p, _) => p != place).lookup other = entries.lookup other := by
  induction entries with
  | nil => rfl
  | cons entry entries ih =>
    obtain ⟨p, e⟩ := entry
    by_cases hp : p = place
    · rw [List.filter_cons_of_neg (by simpa using hp), ih, List.lookup_cons]
      have hother : (other == p) = false := by simpa [hp] using h
      rw [hother]
    · rw [List.filter_cons_of_pos (by simpa using hp), List.lookup_cons, List.lookup_cons, ih]

/-- With a file at a place, there is a folder wherever the place or another entry lies below. -/
theorem any_isPrefixOf_put (d : Disk workingFolder) (place other : Place) (content : Content) :
    ((d.put place content).entries.any fun (p, _) => other.isPrefixOf p) =
      (other.isPrefixOf place || d.entries.any fun (p, _) => other.isPrefixOf p) := by
  show (other.isPrefixOf place || (d.entries.filter fun entry => entry.1 != place).any
    fun entry => other.isPrefixOf entry.1) =
      (other.isPrefixOf place || d.entries.any fun entry => other.isPrefixOf entry.1)
  cases hbelow : other.isPrefixOf place with
  | true => rw [Bool.true_or, Bool.true_or]
  | false =>
    -- the entries that give way are at the place itself
    have hsame : ∀ entry : Place × Entry, (entry.1 != place && other.isPrefixOf entry.1) =
        other.isPrefixOf entry.1 := by
      intro entry
      by_cases hp : entry.1 = place
      · rw [hp, hbelow, Bool.and_false]
      · rw [bne_iff_ne.mpr hp, Bool.true_and]
    rw [Bool.false_or, Bool.false_or, List.any_filter]
    simp only [hsame]

/-- A file that is put at an open place changes no other place: the folders in which it lies were
folders before. -/
theorem find?_put_of_ne {place other : Place} (hopen : d.IsOpen place) (h : other ≠ place)
    (content : Content) : (d.put place content).find? other = d.find? other := by
  have hlookup : (d.put place content).entries.lookup other = d.entries.lookup other := by
    have hother : (other == place) = false := by simpa using h
    rw [put, List.lookup_cons, hother]
    exact lookup_filter_ne h
  cases hbelow : other.isPrefixOf place with
  | true =>
    have hfolder := hopen.parents other (List.isPrefixOf_iff_prefix.mp hbelow) h
    rw [hfolder]
    unfold find? at hfolder ⊢
    rw [hlookup, any_isPrefixOf_put, hbelow, Bool.true_or]
    split
    · rfl
    · next hroot =>
      rw [if_neg hroot] at hfolder
      cases hl : d.entries.lookup other with
      | none => rfl
      | some entry =>
        rw [hl] at hfolder
        exact hfolder
  | false =>
    unfold find?
    rw [hlookup, any_isPrefixOf_put, hbelow, Bool.false_or]

/-! ## Where paths lead -/

/-- A place in a folder that lies in folders is open, if there is no folder. -/
theorem isOpen_concat {here : Place} (hhere : ∀ p, p <+: here → d.find? p = some .folder)
    {name : List Char} (hno : d.find? (here ++ [name]) ≠ some .folder) :
    d.IsOpen (here ++ [name]) := by
  refine ⟨by simp, fun p hp hne => hhere p ?_, hno⟩
  exact (List.prefix_concat_iff.mp hp).resolve_left hne

/-- From a folder that lies in folders, names lead through folders to an open place. -/
theorem isOpen_of_follow {here place : Place} {names : List (List Char)}
    (hhere : ∀ p, p <+: here → d.find? p = some .folder)
    (h : (d.follow here names).place? = some place) : d.IsOpen place := by
  fun_induction follow d here names with
  | case1 here => cases h
  | case2 here name rest hstay ih => exact ih hhere h
  | case3 here rest _ ih =>
    exact ih (fun p hp => hhere p (hp.trans (List.dropLast_prefix here))) h
  | case4 here name rest _ _ hlong => cases h
  | case5 here name rest _ _ _ _ hfolder ih =>
    refine ih (fun p hp => ?_) h
    rcases List.prefix_concat_iff.mp hp with rfl | hp
    · exact hfolder
    · exact hhere p hp
  | case6 here name rest _ _ _ _ content hfile _ =>
    rw [← Option.some.inj h]
    exact isOpen_concat hhere (by rw [hfile]; nofun)
  | case7 here name rest _ _ _ _ content hfile _ => cases h
  | case8 here name rest _ _ _ _ hnone _ =>
    rw [← Option.some.inj h]
    exact isOpen_concat hhere (by rw [hnone]; nofun)
  | case9 here name rest _ _ _ _ hnone _ _ => cases h
  | case10 here name rest _ _ _ _ hnone _ _ => cases h

/-- A name that is no dots leads to what is found below the folder. -/
theorem follow_name {name : List Char} (hstay : ¬ (name.isEmpty || name = ['.']) = true)
    (hup : ¬ name = ['.', '.']) (hlong : ¬ nameLimit < Text.byteCount name)
    (d : Disk workingFolder) (here : Place) (rest : List (List Char)) : d.follow here (name :: rest) =
      match d.find? (here ++ [name]) with
      | some .folder => d.follow (here ++ [name]) rest
      | some (.file content) =>
        if rest.isEmpty then .file (here ++ [name]) content else .nowhere .notFolder
      | none =>
        if rest.isEmpty then .vacant (here ++ [name])
        else if rest.all List.isEmpty then .vacantFolder
        else .nowhere .missing :=
  (if_neg hstay).trans ((if_neg hup).trans (if_neg hlong))

/-- Names that lead to an open place lead to the file that is put there. -/
theorem follow_put {here place : Place} {names : List (List Char)} (hopen : d.IsOpen place)
    (h : (d.follow here names).place? = some place) (content : Content) :
    (d.put place content).follow here names = .file place content := by
  have hfile := d.find?_put_self hopen.ne_nil content
  -- on the way there are only folders, and the file does not take the place of a folder
  fun_induction follow d here names with
  | case1 here => cases h
  | case2 here name rest hstay ih =>
    rw [follow, if_pos hstay]
    exact ih h
  | case3 here rest hstay ih =>
    rw [follow, if_neg hstay, if_pos rfl]
    exact ih h
  | case4 here name rest _ _ hlong => cases h
  | case5 here name rest hstay hup hlong _ hfolder ih =>
    have hne : here ++ [name] ≠ place := by
      rintro rfl
      exact hopen.no_folder hfolder
    have hsame := (find?_put_of_ne hopen hne content).trans hfolder
    rw [follow_name hstay hup hlong, hsame]
    exact ih h
  | case6 here name rest hstay hup hlong _ _ _ hlast =>
    rw [← Option.some.inj h] at hfile ⊢
    rw [follow_name hstay hup hlong, hfile]
    exact if_pos hlast
  | case7 here name rest _ _ _ _ _ _ => cases h
  | case8 here name rest hstay hup hlong _ _ hlast =>
    rw [← Option.some.inj h] at hfile ⊢
    rw [follow_name hstay hup hlong, hfile]
    exact if_pos hlast
  | case9 here name rest _ _ _ _ _ _ => cases h
  | case10 here name rest _ _ _ _ _ _ => cases h

/-- A path to a place leads to the file that is put there, and the place is open. -/
theorem target_put {path : Path} {place : Place} (h : (d.target path).place? = some place) :
    d.IsOpen place ∧ ∀ content, (d.put place content).target path = .file place content := by
  unfold target at h ⊢
  split at h
  · cases h
  split at h
  · cases h
  split at h
  · cases h
  next hnul hempty hlong =>
  have hroot : ∀ p : Place, p <+: [] → d.find? p = some .folder := by
    intro p hp
    rw [List.prefix_nil.mp hp]
    rfl
  have hopen := isOpen_of_follow hroot h
  refine ⟨hopen, fun content => ?_⟩
  rw [if_neg hnul, if_neg hempty, if_neg hlong]
  exact follow_put hopen h content

/-! ## Writing -/

/-- What is written is put at the place to which the path leads. -/
theorem write_eq_ok_iff {e : Disk workingFolder} {path : Path} {chars : List Char} :
    d.write path chars = .ok e ↔
      ∃ place, (d.target path).place? = some place ∧ e = d.put place (.text chars) := by
  unfold write
  cases d.target path with
  | file place content => simp [Target.place?, eq_comm]
  | vacant place => simp [Target.place?, eq_comm]
  | folder => simp [Target.place?]
  | vacantFolder => simp [Target.place?]
  | nowhere fault => simp [Target.place?]

/-- Whether a path can be written to does not depend on what is written. -/
theorem write_eq_error_iff {path : Path} {chars : List Char} {fault : FileFault} :
    d.write path chars = .error fault ↔ ∀ other, d.write path other = .error fault := by
  constructor
  · intro h other
    unfold write at h ⊢
    cases ht : d.target path with
    | file place content =>
      rw [ht] at h
      cases h
    | vacant place =>
      rw [ht] at h
      cases h
    | folder => rwa [ht] at h
    | vacantFolder => rwa [ht] at h
    | nowhere fault' => rwa [ht] at h
  · exact fun h => h chars

/-- Texts that are written to one path are put at one place. -/
theorem exists_put_of_write {e : Disk workingFolder} {path : Path} {s : List Char}
    (h : d.write path s = .ok e) : ∃ place, ∀ t, d.write path t = .ok (d.put place (.text t)) := by
  obtain ⟨place, hplace, -⟩ := write_eq_ok_iff.mp h
  exact ⟨place, fun t => write_eq_ok_iff.mpr ⟨place, hplace, rfl⟩⟩

/-- A disk tells what text was put at a place. -/
theorem put_text_inj {place : Place} {s t : List Char} :
    d.put place (.text s) = d.put place (.text t) ↔ s = t := by
  constructor
  · intro h
    have hentries := congrArg Disk.entries h
    simp only [put, List.cons.injEq, Prod.mk.injEq, Entry.file.injEq,
      Content.text.injEq] at hentries
    exact hentries.1.2
  · rintro rfl
    rfl

end TextDiagram.Command.Disk
