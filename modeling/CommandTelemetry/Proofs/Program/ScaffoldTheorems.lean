import CommandTelemetry.Program.Scaffold
import CommandTelemetry.Proofs.FileSystem.TreeTheorems
import CommandTelemetry.Proofs.Text.HeadlineTheorems

/-!
# New projects stay in their directory

The making of a project changes nothing that was there and adds nothing but missing directories on
the way to the project, its directory, and the files of the template in it, however it ends and
whatever the disk refuses. One way to a directory that is there is not seen: the one that steps up
from a directory which is missing.

* `Scaffold.Ends` are the ways in which the making of a project ends, and `Scaffold.make_ends` says
  that there is no other;
* `Scaffold.writeFiles_writes`, `writeFiles_ok` and `writeFiles_error` say what becomes of its
  files;
* `Scaffold.StaysInside` is what may be left behind, and `Scaffold.make_stays_inside` the law for
  every project;
* `Scaffold.make_writes_over_overlooked` is a way to a directory that is not seen.
-/

namespace CommandTelemetry

namespace Scaffold

open FileSystem

variable {fs made after : FileSystem} {project : Path} {files : List (String × String)}
  {name directory : String} {template : Template} {disk : Disk}

/-! ## Names -/

/-- A name that a project can have: it says something, and is one name. -/
structure IsProjectName (name : String) : Prop where
  visible : ∃ c ∈ name.toList, Text.isBlank c = false
  ne_here : name ≠ "."
  ne_up : name ≠ ".."
  no_slash : '/' ∉ name.toList
  no_backslash : '\\' ∉ name.toList

theorem IsProjectName.isName (h : IsProjectName name) : Path.IsName name where
  ne_empty := by
    rintro rfl
    obtain ⟨c, hc, -⟩ := h.visible
    cases hc
  ne_here := h.ne_here
  ne_up := h.ne_up
  no_slash := h.no_slash

theorem validateName_ok_iff : validateName name = .ok () ↔ IsProjectName name := by
  unfold validateName
  split
  · next hblank =>
    refine ⟨nofun, fun h => ?_⟩
    rw [Text.saysNothing_eq_false_iff.2 h.visible] at hblank
    cases hblank
  · next hvisible =>
    rw [Bool.not_eq_true, Text.saysNothing_eq_false_iff] at hvisible
    split
    · next hbad =>
      refine ⟨nofun, fun h => ?_⟩
      rcases hbad with hhere | hup | hslash
      · exact absurd hhere h.ne_here
      · exact absurd hup h.ne_up
      · obtain ⟨c, hc, hslash⟩ := List.any_eq_true.1 hslash
        rw [Bool.or_eq_true, decide_eq_true_eq, decide_eq_true_eq] at hslash
        rcases hslash with rfl | rfl
        · exact absurd hc h.no_slash
        · exact absurd hc h.no_backslash
    · next hgood =>
      rw [not_or, not_or, List.any_eq_true, not_exists] at hgood
      obtain ⟨hhere, hup, hslash⟩ := hgood
      exact ⟨fun _ => ⟨hvisible, hhere, hup, fun hc => hslash '/' ⟨hc, rfl⟩,
        fun hc => hslash '\\' ⟨hc, rfl⟩⟩, fun _ => rfl⟩

theorem names_files (template : Template) (name : String) :
    (Scaffold.files template name).map (·.1) = match template with
      | .python => ["requirements.txt", "main.py", ".gitignore"]
      | .typescript => ["package.json", "index.ts", ".gitignore"] := by
  cases template <;> rfl

theorem isName_of_mem_files {file : String × String} (h : file ∈ Scaffold.files template name) :
    Path.IsName file.1 := by
  have hname : ∀ text ∈ ["requirements.txt", "main.py", "package.json", "index.ts", ".gitignore"],
      text ≠ "" ∧ text ≠ "." ∧ text ≠ ".." ∧ '/' ∉ text.toList := by decide
  have hmem := List.mem_map_of_mem (f := (·.1)) h
  rw [names_files] at hmem
  obtain ⟨hempty, hhere, hup, hslash⟩ : file.1 ≠ "" ∧ file.1 ≠ "." ∧ file.1 ≠ ".."
      ∧ '/' ∉ file.1.toList := by
    refine hname file.1 ?_
    cases template <;> simp only [List.mem_cons, List.not_mem_nil, or_false] at hmem ⊢ <;> tauto
  exact ⟨hempty, hhere, hup, hslash⟩

theorem nodup_files (template : Template) (name : String) :
    ((Scaffold.files template name).map (·.1)).Nodup := by
  rw [names_files]
  cases template <;> decide

theorem placeOf_join (fs : FileSystem) (project : Path) {file : String} (h : Path.IsName file) :
    fs.placeOf (project.join file) = fs.placeOf project ++ [file] := by
  have horigin : fs.origin (project.join file) = fs.origin project := by
    rw [origin, origin, Path.isAbsolute_join project h]
  rw [placeOf, placeOf, horigin, Path.steps_join project h]
  exact along_concat _ h.ne_up _

/-! ## Files -/

/-- The front of a file, in a directory. -/
def FileIn (target : Place) (files : List (String × String)) (place : Place) (content : Bytes) :
    Prop :=
  ∃ file ∈ files, place = target ++ [file.1] ∧ content <+: Utf8.encode file.2

theorem writeFiles_cons (project : Path) (fs : FileSystem) (file : String × String)
    (others : List (String × String)) (disk : Disk) :
    writeFiles project fs (file :: others) disk
      = match fs.writeFile (project.join file.1) (Utf8.encode file.2) disk with
        | .error cause => (.error (.notWritten (project.join file.1) cause),
            fs.afterRefusedWrite (project.join file.1) (Utf8.encode file.2) disk)
        | .ok written => writeFiles project written others disk :=
  (writeFiles.eq_def project fs (file :: others) disk).trans rfl

/-- Only the files are written, whatever becomes of them. -/
theorem writeFiles_writes (hnames : ∀ file ∈ files, Path.IsName file.1)
    {result : Except ScaffoldError Unit} (h : writeFiles project fs files disk = (result, after)) :
    Writes (FileIn (fs.placeOf project) files) fs after := by
  induction files generalizing fs with
  | nil =>
    cases h
    exact Writes.refl _
  | cons file others ih =>
    rw [List.forall_mem_cons] at hnames
    have hplace := placeOf_join fs project hnames.1
    rw [writeFiles_cons] at h
    split at h
    · cases h
      refine (afterRefusedWrite_writes fs _ _ disk).mono fun place content hwritten => ?_
      rw [hplace] at hwritten
      exact ⟨file, List.mem_cons_self, hwritten⟩
    · next written hwritten =>
      obtain ⟨hfile, rfl⟩ := writeFile_ok hwritten
      have hfirst : Writes (FileIn (fs.placeOf project) (file :: others)) fs
          (fs.put (fs.placeOf (project.join file.1)) (.file (Utf8.encode file.2))) :=
        Writes.put hfile ⟨file, List.mem_cons_self, hplace, List.prefix_rfl⟩
      refine hfirst.trans ((ih hnames.2 h).mono fun place content hcontent => ?_)
      rw [hfirst.placeOf] at hcontent
      obtain ⟨other, hother, hcontent⟩ := hcontent
      exact ⟨other, List.mem_cons_of_mem _ hother, hcontent⟩

/-- Files that could be written are all there as a whole. -/
theorem writeFiles_ok (hnames : ∀ file ∈ files, Path.IsName file.1)
    (hnodup : (files.map (·.1)).Nodup) (h : writeFiles project fs files disk = (.ok (), after)) :
    ∀ file ∈ files, after.get? (fs.placeOf project ++ [file.1])
      = some (.file (Utf8.encode file.2)) := by
  induction files generalizing fs with
  | nil => exact fun _ hfile => nomatch hfile
  | cons file others ih =>
    rw [List.forall_mem_cons] at hnames ⊢
    rw [List.map_cons, List.nodup_cons] at hnodup
    have hplace := placeOf_join fs project hnames.1
    rw [writeFiles_cons] at h
    split at h
    · cases h
    next written hwritten =>
    obtain ⟨hfile, rfl⟩ := writeFile_ok hwritten
    rw [hplace] at hfile h
    have hfirst : Writes (fun _ _ => True) fs
        (fs.put (fs.placeOf project ++ [file.1]) (.file (Utf8.encode file.2))) :=
      Writes.put hfile trivial
    constructor
    · -- the files behind it have other names
      rcases (writeFiles_writes hnames.2 h).get? (fs.placeOf project ++ [file.1]) with
        hsame | ⟨-, content, -, other, hother, heq, -⟩
      · rw [hsame, get?_put (List.concat_ne_nil _ _), if_pos rfl]
      · rw [hfirst.placeOf] at heq
        have hsame : file.1 = other.1 := by simpa using List.append_cancel_left heq
        exact absurd (List.mem_map.2 ⟨other, hother, hsame.symm⟩) hnodup.1
    · have hothers := ih hnames.2 hnodup.2 h
      rwa [hfirst.placeOf] at hothers

/-- Where a file could not be written, those before it were, and of those behind it nothing was
tried. -/
theorem writeFiles_error {error : ScaffoldError}
    (h : writeFiles project fs files disk = (.error error, after)) :
    ∃ before file others cause middle, files = before ++ file :: others
      ∧ error = .notWritten (project.join file.1) cause
      ∧ writeFiles project fs before disk = (.ok (), middle)
      ∧ after = middle.afterRefusedWrite (project.join file.1) (Utf8.encode file.2) disk := by
  induction files generalizing fs with
  | nil => cases h
  | cons file others ih =>
    rw [writeFiles_cons] at h
    split at h
    · next cause hcause =>
      cases h
      exact ⟨[], file, others, cause, fs, rfl, rfl, rfl, rfl⟩
    · next written hwritten =>
      obtain ⟨before, failed, behind, cause, middle, rfl, herror, hbefore, hafter⟩ := ih h
      refine ⟨file :: before, failed, behind, cause, middle, rfl, herror, ?_, hafter⟩
      rw [writeFiles_cons, hwritten]
      exact hbefore

/-! ## Projects -/

/-- The ways in which the making of a project ends, with what it leaves behind. -/
inductive Ends (fs : FileSystem) (name : String) (template : Template) (directory : String)
    (disk : Disk) : Except ScaffoldError Path → FileSystem → Prop
  | badName {error : ScaffoldError} (hname : validateName name = .error error) :
    Ends fs name template directory disk (.error error) fs
  | alreadyThere (hname : IsProjectName name)
    (hthere : fs.isOccupied (projectPath name directory) = true) :
    Ends fs name template directory disk (.error (.alreadyThere (projectPath name directory))) fs
  | notCreated {cause : FileError} {made : FileSystem} (hname : IsProjectName name)
    (hfree : fs.isOccupied (projectPath name directory) = false)
    (hmade : fs.makeDirectories (projectPath name directory) disk = (.error cause, made)) :
    Ends fs name template directory disk
      (.error (.notCreated (projectPath name directory) cause)) made
  | notWritten {error : ScaffoldError} {made after : FileSystem} (hname : IsProjectName name)
    (hfree : fs.isOccupied (projectPath name directory) = false)
    (hmade : fs.makeDirectories (projectPath name directory) disk = (.ok (), made))
    (hwritten : writeFiles (projectPath name directory) made (Scaffold.files template name) disk
      = (.error error, after)) :
    Ends fs name template directory disk (.error error) after
  | done {made after : FileSystem} (hname : IsProjectName name)
    (hfree : fs.isOccupied (projectPath name directory) = false)
    (hmade : fs.makeDirectories (projectPath name directory) disk = (.ok (), made))
    (hwritten : writeFiles (projectPath name directory) made (Scaffold.files template name) disk
      = (.ok (), after)) :
    Ends fs name template directory disk (.ok (projectPath name directory)) after

theorem make_ends (fs : FileSystem) (name : String) (template : Template) (directory : String)
    (disk : Disk) : Ends fs name template directory disk (make fs name template directory disk).1
      (make fs name template directory disk).2 := by
  unfold make
  split
  · next error hname => exact .badName hname
  next hvalid =>
  have hname : IsProjectName name := validateName_ok_iff.1 hvalid
  dsimp only
  split
  · next hthere => exact .alreadyThere hname hthere
  next hfree =>
  rw [Bool.not_eq_true] at hfree
  split
  · next cause made hmade => exact .notCreated hname hfree hmade
  next made hmade =>
  split
  · next error after hwritten => exact .notWritten hname hfree hmade hwritten
  · next after hwritten => exact .done hname hfree hmade hwritten

theorem steps_projectPath (h : IsProjectName name) (directory : String) :
    (projectPath name directory).steps = (⟨directory⟩ : Path).steps ++ [name] :=
  Path.steps_join _ h.isName

theorem steps_ne_nil (h : IsProjectName name) (directory : String) :
    (projectPath name directory).steps ≠ [] := by
  rw [steps_projectPath h]
  exact List.concat_ne_nil _ _

/-- A project at whose path something is found is refused, and nothing is changed. -/
theorem make_of_isOccupied (hname : IsProjectName name)
    (hthere : fs.isOccupied (projectPath name directory) = true) :
    make fs name template directory disk
      = (.error (.alreadyThere (projectPath name directory)), fs) := by
  rw [make, validateName_ok_iff.2 hname]
  exact if_pos hthere

/-- The directory of a project is found once it was made, whatever becomes of the files. -/
theorem isOccupied_of_writes {written : Place → Bytes → Prop} (hname : IsProjectName name)
    (hmade : fs.makeDirectories (projectPath name directory) disk = (.ok (), made))
    (hwrites : Writes written made after) :
    after.isOccupied (projectPath name directory) = true
      ∧ after.get? (fs.placeOf (projectPath name directory)) = some .directory := by
  obtain ⟨hcheck, hadds, hfind⟩ := makeDirectories_ok (steps_ne_nil hname directory) hmade
  have hfound := hwrites.keepsWays.find? hfind
  refine ⟨isOccupied_iff.2 ⟨hcheck, ?_⟩, (find?_eq_some_iff.1 hfound).2⟩
  rw [hwrites.origin, hadds.origin, hfound]
  rfl

/-- What the making of a project may leave: all that was there, and besides at most directories on
the way to the project and files in it. Only where the directory of the project was overlooked may
files have been in it before. -/
structure StaysInside (fs after : FileSystem) (project : Path) (files : List (String × String)) :
    Prop where
  working : after.working = fs.working
  kept : ∀ {place entry}, fs.get? place = some entry → after.get? place = some entry
    ∨ fs.Overlooked project ∧ (∃ content, entry = .file content)
      ∧ ∃ file ∈ files, place = fs.placeOf project ++ [file.1]
  added : ∀ {place entry}, fs.get? place = none → after.get? place = some entry →
    OnWay (fs.origin project) project.steps place entry
      ∨ ∃ content, entry = .file content ∧ FileIn (fs.placeOf project) files place content

theorem StaysInside.of_adds (h : Adds (OnWay (fs.origin project) project.steps) fs made) :
    StaysInside fs made project files where
  working := h.working
  kept := fun hsome => .inl (h.kept hsome)
  added := fun hnone hsome => .inl (h.added hnone hsome)

/-- Files in a directory that could be made leave everything else as it was. -/
theorem StaysInside.of_writes (htree : fs.IsTree) (hne : project.steps ≠ [])
    (hfree : fs.isOccupied project = false)
    (hmade : fs.makeDirectories project disk = (.ok (), made))
    (hwrites : Writes (FileIn (made.placeOf project) files) made after) :
    StaysInside fs after project files := by
  obtain ⟨hcheck, hadds, hfind⟩ := makeDirectories_ok hne hmade
  rw [hadds.placeOf] at hwrites
  constructor
  case working => exact hwrites.working.trans hadds.working
  case kept =>
    intro place entry hsome
    rcases hwrites.get? place with hsame | ⟨hfile, content, -, file, hmem, rfl, -⟩
    · exact .inl (hsame.trans (hadds.kept hsome))
    · rw [hadds.kept hsome] at hfile
      -- a file that was there was in a directory that was there
      have hdirectory : fs.get? (fs.placeOf project) = some .directory :=
        htree.inside _ file.1 (by rw [hsome]; rfl)
      have hmissing := hadds.exists_missing hfree hcheck (by rw [hfind]; rfl)
      refine .inr ⟨⟨hdirectory, hmissing⟩, ?_, file, hmem, rfl⟩
      cases entry with
      | file old => exact ⟨old, rfl⟩
      | directory => exact absurd rfl hfile
  case added =>
    intro place entry hnone hsome
    rcases hwrites.get? place with hsame | ⟨-, content, hcontent, hin⟩
    · exact .inl (hadds.added hnone (hsame.symm.trans hsome))
    · rw [hcontent, Option.some.injEq] at hsome
      exact .inr ⟨content, hsome.symm, hin⟩

theorem make_staysInside (htree : fs.IsTree) (name : String) (template : Template)
    (directory : String) (disk : Disk) :
    StaysInside fs (make fs name template directory disk).2 (projectPath name directory)
      (Scaffold.files template name) := by
  have hends := make_ends fs name template directory disk
  generalize (make fs name template directory disk).1 = result at hends
  generalize (make fs name template directory disk).2 = after at hends
  cases hends with
  | badName => exact .of_adds (Adds.refl fs)
  | alreadyThere => exact .of_adds (Adds.refl fs)
  | notCreated hname hfree hmade =>
    exact .of_adds ((makeDirectories_error hmade).1.further (List.dropLast_prefix _))
  | notWritten hname hfree hmade hwritten | done hname hfree hmade hwritten =>
    exact .of_writes htree (steps_ne_nil hname directory) hfree hmade
      (writeFiles_writes (fun _ => isName_of_mem_files) hwritten)

/-- Where nothing was, the files in a new project are those that were written into it. -/
theorem StaysInside.get?_file_iff (h : StaysInside fs after project files) (htree : fs.IsTree)
    (hnone : fs.get? (fs.placeOf project) = none)
    (hall : ∀ file ∈ files, after.get? (fs.placeOf project ++ [file.1])
      = some (.file (Utf8.encode file.2))) (other : String) (content : Bytes) :
    after.get? (fs.placeOf project ++ [other]) = some (.file content)
      ↔ ∃ file ∈ files, other = file.1 ∧ content = Utf8.encode file.2 := by
  constructor
  · intro hsome
    have hempty : fs.get? (fs.placeOf project ++ [other]) = none := by
      by_contra hother
      have hdirectory := htree.inside _ other (Option.isSome_iff_ne_none.2 hother)
      rw [hnone] at hdirectory
      cases hdirectory
    rcases h.added hempty hsome with ⟨hdirectory, -⟩ | ⟨-, -, file, hmem, hplace, -⟩
    · cases hdirectory
    · obtain rfl : other = file.1 := by simpa using List.append_cancel_left hplace
      rw [hall file hmem, Option.some.injEq, Entry.file.injEq] at hsome
      exact ⟨file, hmem, rfl, hsome.symm⟩
  · rintro ⟨file, hmem, rfl, rfl⟩
    exact hall file hmem

/-- However the making of a project ends, all that was there is as it was, and what is new are
directories that were missing on the way to the project, its directory, and files of the template in
it. Only files in the directory itself may be written over, and only if this directory was
overlooked, because the path steps up from a directory that is missing. A project that was made has
a plain name and all files of the template, no other ones if its directory is new, and is not made
a second time. -/
theorem make_stays_inside (htree : fs.IsTree) (name : String) (template : Template)
    (directory : String) (disk : Disk) :
    let project := projectPath name directory
    let target := fs.placeOf project
    let files := Scaffold.files template name
    let made := make fs name template directory disk
    StaysInside fs made.2 project files
      ∧ (upName ∉ project.steps →
        ∀ place entry, fs.get? place = some entry → made.2.get? place = some entry)
      ∧ ∀ path, made.1 = .ok path →
        path = project ∧ IsProjectName name
        ∧ (fs.get? target = none ∨ fs.Overlooked project)
        ∧ made.2.get? target = some .directory
        ∧ (∀ file ∈ files, made.2.get? (target ++ [file.1]) = some (.file (Utf8.encode file.2)))
        ∧ (fs.get? target = none → ∀ other content,
          made.2.get? (target ++ [other]) = some (.file content)
            ↔ ∃ file ∈ files, other = file.1 ∧ content = Utf8.encode file.2)
        ∧ ∀ again disk', make made.2 name again directory disk'
          = (.error (.alreadyThere project), made.2) := by
  intro project target files made
  have hstays : StaysInside fs made.2 project files :=
    make_staysInside htree name template directory disk
  refine ⟨hstays, fun hup place entry hsome => ?_, ?_⟩
  · rcases hstays.kept hsome with hsame | ⟨hoverlooked, -⟩
    · exact hsame
    · exact absurd hoverlooked (htree.not_overlooked hup)
  have hends : Ends fs name template directory disk made.1 made.2 :=
    make_ends fs name template directory disk
  generalize made.1 = result at hends
  generalize made.2 = after at hends hstays
  rintro path rfl
  cases hends with
  | @done created _ hname hfree hcreated hwritten =>
    obtain ⟨hcheck, hadds, hfind⟩ := makeDirectories_ok (steps_ne_nil hname directory) hcreated
    have hnames : ∀ file ∈ files, Path.IsName file.1 := fun _ => isName_of_mem_files
    obtain ⟨hthere, hdirectory⟩ :=
      isOccupied_of_writes hname hcreated (writeFiles_writes hnames hwritten)
    have hall : ∀ file ∈ files, after.get? (target ++ [file.1])
        = some (.file (Utf8.encode file.2)) := by
      have hcomplete := writeFiles_ok hnames (nodup_files template name) hwritten
      rwa [hadds.placeOf] at hcomplete
    -- only directories were made so far, so what is at the target now was one before
    have hfresh : fs.get? target = none ∨ fs.Overlooked project := by
      have hmissing := hadds.exists_missing hfree hcheck (by rw [hfind]; rfl)
      cases htarget : fs.get? target with
      | none => exact .inl rfl
      | some entry =>
        obtain rfl : entry = .directory :=
          Option.some.inj ((hadds.kept htarget).symm.trans (find?_eq_some_iff.1 hfind).2)
        exact .inr ⟨htarget, hmissing⟩
    exact ⟨rfl, hname, hfresh, hdirectory, hall, fun hnone => hstays.get?_file_iff htree hnone hall,
      fun _ _ => make_of_isOccupied hname hthere⟩

/-- A project two levels below what is there, beside a file of somebody else. -/
theorem make_stays_inside_two_levels_down :
    let fs : FileSystem :=
      ⟨[(["src"], .directory), (["src", "notes.txt"], .file [104, 105])], ["src"]⟩
    let made := make fs "web" .typescript "apps"
    fs.IsTree
      ∧ made.2.get? ["src", "notes.txt"] = some (.file [104, 105])
      ∧ made.1 = .ok ⟨"apps/web"⟩ ∧ IsProjectName "web"
      ∧ (made.2.get? ["src", "apps", "web", "main.py"]).isSome = false
      ∧ make made.2 "web" .python "apps" = (.error (.alreadyThere ⟨"apps/web"⟩), made.2) := by
  intro fs made
  have htree : fs.IsTree := isTree_of_entries (by decide)
  have hdone : made.1 = .ok ⟨"apps/web"⟩ := by decide +kernel
  obtain ⟨-, hkept, hmade⟩ := make_stays_inside htree "web" .typescript "apps" .willing
  obtain ⟨-, hname, -, -, -, -, hagain⟩ := hmade _ hdone
  exact ⟨htree, hkept (by decide +kernel) _ _ (by decide), hdone, hname, by decide +kernel,
    hagain .python .willing⟩

/-- The way to `b/web` leads through `a`, which is missing: the project that is there is overlooked,
and its program is written over. -/
theorem make_writes_over_overlooked :
    let fs : FileSystem := ⟨[(["b"], .directory), (["b", "web"], .directory),
      (["b", "web", "main.py"], .file [109, 105, 110, 101])], []⟩
    let made := make fs "web" .python "a/../b"
    fs.IsTree ∧ made.1 = .ok ⟨"a/../b/web"⟩
      ∧ fs.get? ["b", "web", "main.py"] = some (.file [109, 105, 110, 101])
      ∧ made.2.get? ["b", "web", "main.py"] ≠ some (.file [109, 105, 110, 101]) := by
  intro fs made
  exact ⟨isTree_of_entries (by decide), by decide +kernel, by decide, by decide +kernel⟩

end Scaffold

end CommandTelemetry
