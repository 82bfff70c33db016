import CommandTelemetry.Proofs.Program.ScaffoldTheorems

/-!
# What is left of a project that failed

Nothing that was made is taken back. A refused name or a directory that is already there changes
nothing, a directory that could not be made leaves those above it, and a file that could not be
written leaves the project with the files before it, which stands in the way of the next attempt.

* `Scaffold.writeFiles_leaves` says what is left of files that could not all be written;
* `Scaffold.failed_make_leaves` says so of projects, and `Scaffold.failed_make_leaves_parent` that
  it need not be nothing.
-/

namespace CommandTelemetry

namespace Scaffold

open FileSystem

variable {fs made after : FileSystem} {project : Path} {files : List (String × String)}
  {name directory : String} {template : Template} {disk : Disk}

/-! ## Files -/

/-- Of files that could not all be written, those before the refused one are there as a whole, and
nothing but the refused one is changed besides. -/
theorem writeFiles_leaves {error : ScaffoldError} (hnames : ∀ file ∈ files, Path.IsName file.1)
    (hnodup : (files.map (·.1)).Nodup)
    (h : writeFiles project fs files disk = (.error error, after)) :
    ∃ before file others cause, files = before ++ file :: others
      ∧ error = .notWritten (project.join file.1) cause
      ∧ Writes (FileIn (fs.placeOf project) (before ++ [file])) fs after
      ∧ ∀ written ∈ before, after.get? (fs.placeOf project ++ [written.1])
        = some (.file (Utf8.encode written.2)) := by
  -- the files before the refused one were written to `middle`
  obtain ⟨before, file, others, cause, middle, rfl, herror, hbefore, hafter⟩ := writeFiles_error h
  have hbeforeNames : ∀ written ∈ before, Path.IsName written.1 :=
    fun written hmem => hnames written (List.mem_append_left _ hmem)
  have hname : Path.IsName file.1 :=
    hnames file (List.mem_append_right _ List.mem_cons_self)
  have hwritten := writeFiles_writes hbeforeNames hbefore
  have hplace : middle.placeOf (project.join file.1) = fs.placeOf project ++ [file.1] := by
    rw [placeOf_join middle project hname, hwritten.placeOf]
  have hrefused := afterRefusedWrite_writes middle (project.join file.1) (Utf8.encode file.2) disk
  rw [← hafter, hplace] at hrefused
  refine ⟨before, file, others, cause, rfl, herror, ?_, fun written hmem => ?_⟩
  · refine Writes.trans (hwritten.mono ?_) (hrefused.mono ?_)
    · rintro place content ⟨written, hmem, hin⟩
      exact ⟨written, List.mem_append_left _ hmem, hin⟩
    · rintro place content hin
      exact ⟨file, List.mem_append_right _ List.mem_cons_self, hin⟩
  · rw [List.map_append, List.nodup_append] at hnodup
    obtain ⟨hnodupBefore, -, hapart⟩ := hnodup
    rcases hrefused.get? (fs.placeOf project ++ [written.1]) with hsame | ⟨-, -, -, heq, -⟩
    · rw [hsame]
      exact writeFiles_ok hbeforeNames hnodupBefore hbefore written hmem
    · -- the refused file has a name of its own
      have hsame : written.1 = file.1 := by simpa using List.append_cancel_left heq
      exact absurd hsame (hapart _ (List.mem_map_of_mem hmem) _ List.mem_cons_self)

/-! ## Names that are too long -/

/-- A name that is longer than names can be is met when the directory above it was made. -/
theorem makeMissing_of_long (hlong : nameLimit < name.utf8ByteSize) (hup : name ≠ upName) :
    makeMissing ⟨[], []⟩ [] [name, "newdir"]
      = (.error .nameTooLong, ⟨[(["newdir"], .directory)], []⟩) := by
  have hmissing : ensureDirectory ⟨[], []⟩ [] ["newdir", name] = .error .notFound := rfl
  have hparent : makeMissing ⟨[], []⟩ [] ["newdir"]
      = (.ok (), ⟨[(["newdir"], .directory)], []⟩) := rfl
  have hrefused : makeDirectory ⟨[(["newdir"], .directory)], []⟩ [] ["newdir", name]
      = .error .nameTooLong := by
    show (nameIn ⟨[(["newdir"], .directory)], []⟩ ["newdir"] name >>= _) = _
    have hname : nameIn ⟨[(["newdir"], .directory)], []⟩ ["newdir"] name = .error .nameTooLong := by
      show (if name = upName then _ else if nameLimit < name.utf8ByteSize then _ else _) = _
      rw [if_neg hup, if_pos hlong]
    rw [hname]
    rfl
  have hnames : [name, "newdir"].reverse = ["newdir", name] := rfl
  rw [makeMissing, hnames, hmissing]
  dsimp only
  rw [hparent]
  dsimp only
  rw [ensureDirectory, hrefused]

/-- A project whose name is too long fails when the directory above it was made. -/
theorem make_of_long (template : Template) (hname : IsProjectName name)
    (hlong : nameLimit < name.utf8ByteSize) (hnul : '\x00' ∉ name.toList)
    (hfits : name.utf8ByteSize + 7 < pathLimit) :
    make ⟨[], []⟩ name template "newdir"
      = (.error (.notCreated (projectPath name "newdir") .nameTooLong),
        ⟨[(["newdir"], .directory)], []⟩) := by
  have hproject : projectPath name "newdir" = ⟨"newdir" ++ "/" ++ name⟩ := by
    rw [projectPath, Path.join_of_relative _ hname.isName.isAbsolute, if_neg (by decide)]
  have hcheck : checkPath (projectPath name "newdir") = .ok () := by
    have hclean : ("newdir" ++ "/" ++ name).toList.contains '\x00' = false := by
      have hfront : '\x00' ∉ ("newdir" ++ "/").toList := by decide
      rw [String.toList_append, List.contains_eq_mem, decide_eq_false_iff_not, List.mem_append]
      exact not_or.2 ⟨hfront, hnul⟩
    have hshort : ("newdir" ++ "/" ++ name).utf8ByteSize < pathLimit := by
      have hfront : ("newdir" ++ "/").utf8ByteSize = 7 := by decide
      rw [String.utf8ByteSize_append, hfront]
      omega
    rw [checkPath, hproject, hclean, if_neg Bool.false_ne_true, if_neg (Nat.not_le.2 hshort)]
  have hsteps : (projectPath name "newdir").steps = ["newdir", name] := by
    have hparent : (⟨"newdir"⟩ : Path).steps = ["newdir"] := by decide
    rw [steps_projectPath hname, hparent, List.singleton_append]
  have horigin : origin ⟨[], []⟩ (projectPath name "newdir") = [] := ite_self _
  have hfree : isOccupied ⟨[], []⟩ (projectPath name "newdir") = false := by
    have hnone : find? ⟨[], []⟩ [] ["newdir", name] = none := rfl
    rw [isOccupied, horigin, hsteps, hnone, Option.isSome_none, Bool.and_false]
  have hmade : makeDirectories ⟨[], []⟩ (projectPath name "newdir")
      = (.error .nameTooLong, ⟨[(["newdir"], .directory)], []⟩) := by
    rw [makeDirectories, hcheck, horigin, hsteps]
    exact makeMissing_of_long hlong hname.ne_up
  rw [make, validateName_ok_iff.2 hname]
  dsimp only
  rw [hfree, if_neg Bool.false_ne_true, hmade]

/-! ## Projects -/

theorem validateName_error {error : ScaffoldError} (h : validateName name = .error error) :
    error = .blankName ∨ error = .invalidName name := by
  unfold validateName at h
  split at h
  · cases h
    exact .inl rfl
  · split at h
    · cases h
      exact .inr rfl
    · cases h

theorem isOccupied_of_alreadyThere {path : Path}
    (h : (make fs name template directory disk).1 = .error (.alreadyThere path)) :
    fs.isOccupied (projectPath name directory) = true := by
  have hends := make_ends fs name template directory disk
  rw [h] at hends
  generalize (make fs name template directory disk).2 = after at hends
  cases hends with
  | badName hname => rcases validateName_error hname with herror | herror <;> cases herror
  | alreadyThere hname hthere => exact hthere
  | notWritten hname hfree hmade hwritten =>
    obtain ⟨_, _, _, _, _, _, herror, _⟩ := writeFiles_error hwritten
    cases herror

/-- What a project that failed leaves behind. A refused name or a project that is there already
leaves nothing. A directory that could not be made leaves at most missing directories above the
project, and the next attempt finds no project in its way, unless there was a file which the first
one overlooked. A file that could not be written leaves the directory of the project with all files
before it and at most a part of this one, and every next attempt is refused. -/
theorem failed_make_leaves (htree : fs.IsTree) {error : ScaffoldError}
    (h : make fs name template directory disk = (.error error, after)) :
    let project := projectPath name directory
    let target := fs.placeOf project
    match error with
    | .blankName => after = fs
    | .invalidName _ => after = fs
    | .alreadyThere _ => after = fs
    | .notCreated path _ => path = project
      ∧ Adds (OnWay (fs.origin project) project.steps.dropLast) fs after
      ∧ ((∃ content, fs.get? target = some (.file content)) ∨ ∀ again disk',
        (make after name again directory disk').1 ≠ .error (.alreadyThere project))
    | .notWritten path _ => ∃ before file others,
      Scaffold.files template name = before ++ file :: others ∧ path = project.join file.1
      ∧ StaysInside fs after project (before ++ [file])
      ∧ after.get? target = some .directory
      ∧ (∀ written ∈ before,
        after.get? (target ++ [written.1]) = some (.file (Utf8.encode written.2)))
      ∧ ∀ again disk', make after name again directory disk'
        = (.error (.alreadyThere project), after) := by
  intro project target
  have hends := make_ends fs name template directory disk
  rw [h] at hends
  cases hends with
  | badName hname =>
    obtain rfl | rfl := validateName_error hname
    · rfl
    · rfl
  | alreadyThere hname hthere => rfl
  | notCreated hname hfree hmade =>
    obtain ⟨hadds, hfile⟩ := makeDirectories_error hmade
    refine ⟨rfl, hadds, ?_⟩
    cases hoccupied : after.isOccupied project with
    | false =>
      refine .inr fun again disk' hretry => ?_
      rw [isOccupied_of_alreadyThere hretry] at hoccupied
      cases hoccupied
    | true =>
      -- only directories are new, so the file in the way was there before
      obtain ⟨content, hfound⟩ := hfile hoccupied
      have hcontent : after.get? target = some (.file content) := (find?_eq_some_iff.1 hfound).2
      refine .inl ⟨content, ?_⟩
      cases hbefore : fs.get? target with
      | none => exact nomatch (hadds.added hbefore hcontent).1
      | some entry => rw [← hadds.kept hbefore, hcontent]
  | @notWritten _ created _ hname hfree hmade hwritten =>
    have hnames : ∀ file ∈ Scaffold.files template name, Path.IsName file.1 :=
      fun _ => isName_of_mem_files
    obtain ⟨before, file, others, cause, hfiles, rfl, hwrites, hall⟩ :=
      writeFiles_leaves hnames (nodup_files template name) hwritten
    obtain ⟨hthere, hdirectory⟩ := isOccupied_of_writes hname hmade hwrites
    obtain ⟨-, hadds, -⟩ := makeDirectories_ok (steps_ne_nil hname directory) hmade
    rw [hadds.placeOf] at hall
    exact ⟨before, file, others, hfiles, rfl,
      .of_writes htree (steps_ne_nil hname directory) hfree hmade hwrites, hdirectory, hall,
      fun _ _ => make_of_isOccupied hname hthere⟩

/-- The disk is full in the middle of the second file. -/
theorem failed_make_leaves_half_a_project :
    let disk : Disk := ⟨fun _ place =>
      if place.getLast? = some "main.py" then some ⟨"No space left on device", some 4⟩ else none⟩
    let made := make ⟨[], []⟩ "web" .python "apps" disk
    made.1 = .error (.notWritten ⟨"apps/web/main.py"⟩ (.refused "No space left on device"))
      ∧ made.2.get? ["apps", "web"] = some .directory
      ∧ made.2.get? ["apps", "web", "main.py"] = some (.file (Utf8.encode "from"))
      ∧ make made.2 "web" .python "apps" = (.error (.alreadyThere ⟨"apps/web"⟩), made.2) := by
  intro disk made
  have hfailed : made.1
      = .error (.notWritten ⟨"apps/web/main.py"⟩ (.refused "No space left on device")) := by
    decide +kernel
  have htree : (⟨[], []⟩ : FileSystem).IsTree := isTree_of_entries (by decide)
  obtain ⟨-, -, -, -, -, -, hdirectory, -, hagain⟩ :=
    failed_make_leaves htree (Prod.ext hfailed rfl : made = (_, made.2))
  exact ⟨hfailed, hdirectory, by decide +kernel, hagain .python .willing⟩

/-- The name is one byte longer than names can be: the directory above the project stays. -/
theorem failed_make_leaves_parent :
    let name := String.ofList (List.replicate 256 'a')
    (make ⟨[], []⟩ name .python "newdir").1
        = .error (.notCreated (projectPath name "newdir") .nameTooLong)
      ∧ (make ⟨[], []⟩ name .python "newdir").2 = ⟨[(["newdir"], .directory)], []⟩ := by
  intro name
  have hlong : name.utf8ByteSize = 256 := by decide +kernel
  have hletters : ∀ c ∈ name.toList, c = 'a' := by
    intro c hc
    rw [String.toList_ofList] at hc
    exact List.eq_of_mem_replicate hc
  have hletter : 'a' ∈ name.toList := by
    rw [String.toList_ofList]
    exact List.mem_replicate.2 ⟨by decide, rfl⟩
  have hnot : ∀ c, c ≠ 'a' → c ∉ name.toList := fun c hne hc => hne (hletters c hc)
  have hname : IsProjectName name :=
    { visible := ⟨'a', hletter, by decide⟩
      ne_here := fun h => absurd (congrArg String.utf8ByteSize h) (by rw [hlong]; decide)
      ne_up := fun h => absurd (congrArg String.utf8ByteSize h) (by rw [hlong]; decide)
      no_slash := hnot _ (by decide)
      no_backslash := hnot _ (by decide) }
  have hmade := make_of_long .python hname (by rw [hlong]; decide)
    (hnot _ (by decide)) (by rw [hlong]; decide)
  rw [hmade]
  exact ⟨rfl, rfl⟩

end Scaffold

end CommandTelemetry
