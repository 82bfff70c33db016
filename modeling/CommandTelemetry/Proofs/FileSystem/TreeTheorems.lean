import CommandTelemetry.FileSystem.Tree
import CommandTelemetry.Proofs.ExceptTheorems
import CommandTelemetry.Proofs.FileSystem.PathTheorems
import Mathlib.Data.List.Basic
import Mathlib.Data.List.Induction

/-!
# What operations on files leave as it was

Every operation changes one place at most, and says by its path which place that is, whatever the
disk refuses.

* `FileSystem.along` is the place that names lead to, and `FileSystem.find?_eq_some_iff` ties what
  is found there to the walk;
* `FileSystem.Adds` says that one file system has all that another has, and what it may have
  besides; `FileSystem.makeDirectories_ok` and `makeDirectories_error` say so of directories that
  are made one after the other, as far as they could be;
* `FileSystem.Overlooked` says that a path leads to a directory only through one that is missing,
  and `IsTree.not_overlooked` that it has to step up for this;
* `FileSystem.Writes` says that files were written and nothing else was changed, and
  `FileSystem.writeFile_ok` and `afterRefusedWrite_writes` at which place.
-/

namespace CommandTelemetry

namespace FileSystem

variable {fs after made : FileSystem} {place next : Place} {names before : List String}
  {name : String} {entry : Entry}

/-! ## Places along names -/

/-- The place that one more name leads to. -/
def stepTo (place : Place) (name : String) : Place :=
  if name = upName then place.dropLast else place ++ [name]

/-- The place that names lead to, if they lead anywhere. -/
def along (place : Place) (names : List String) : Place := names.foldl stepTo place

/-- The place that a path names. -/
def placeOf (fs : FileSystem) (path : Path) : Place := along (fs.origin path) path.steps

/-- Every file and every directory is in a directory. -/
structure IsTree (fs : FileSystem) : Prop where
  inside : ∀ place name, (fs.get? (place ++ [name])).isSome → fs.get? place = some .directory

theorem along_append (place : Place) (first second : List String) :
    along place (first ++ second) = along (along place first) second :=
  List.foldl_append

theorem along_concat (place : Place) (h : name ≠ upName) (names : List String) :
    along place (names ++ [name]) = along place names ++ [name] := by
  rw [along_append, along, List.foldl_cons, List.foldl_nil, stepTo, if_neg h]

theorem ne_root_of_none (h : fs.get? place = none) : place ≠ [] := by
  rintro rfl
  cases h

theorem nameIn_ok_iff : fs.nameIn place name = .ok next ↔ fs.get? place = some .directory
    ∧ (name = upName ∨ name.utf8ByteSize ≤ nameLimit) ∧ next = stepTo place name := by
  unfold nameIn stepTo
  split
  · next hnone => simp [hnone]
  · next content hfile => simp [hfile]
  · next hdirectory =>
    rw [hdirectory]
    split
    · next hup => simp [hup, eq_comm]
    · next hname =>
      split
      · next hlong =>
        have hlarge : ¬ name.utf8ByteSize ≤ nameLimit := by omega
        simp [hname, hlarge]
      · next hshort =>
        have hsmall : name.utf8ByteSize ≤ nameLimit := by omega
        simp [hname, hsmall, eq_comm]

theorem enter_ok_iff : fs.enter place name = .ok next
    ↔ fs.nameIn place name = .ok next ∧ (fs.get? next).isSome := by
  rw [enter, bind_eq_ok]
  constructor
  · rintro ⟨target, htarget, hnext⟩
    split at hnext
    · next hsome =>
      obtain rfl := pure_eq_ok.1 hnext
      exact ⟨htarget, hsome⟩
    · cases hnext
  · rintro ⟨hname, hsome⟩
    exact ⟨next, hname, by rw [if_pos hsome]; rfl⟩

theorem walk_append_ok_iff {first second : List String} : fs.walk place (first ++ second) = .ok next
    ↔ ∃ middle, fs.walk place first = .ok middle ∧ fs.walk middle second = .ok next := by
  rw [walk, List.foldlM_append, bind_eq_ok]
  rfl

theorem walk_concat_ok_iff : fs.walk place (names ++ [name]) = .ok next
    ↔ ∃ parent, fs.walk place names = .ok parent ∧ fs.enter parent name = .ok next := by
  rw [walk_append_ok_iff]
  simp only [walk, List.foldlM_cons, List.foldlM_nil, bind_eq_ok, pure_eq_ok, exists_eq_right]

/-- A walk that ends has gone along its names. -/
theorem eq_along_of_walk (h : fs.walk place names = .ok next) : next = along place names := by
  induction names generalizing place with
  | nil => exact (pure_eq_ok.1 h).symm
  | cons name names ih =>
    rw [walk, List.foldlM_cons, bind_eq_ok] at h
    obtain ⟨middle, henter, hwalk⟩ := h
    obtain ⟨hname, -⟩ := enter_ok_iff.1 henter
    obtain ⟨-, -, rfl⟩ := nameIn_ok_iff.1 hname
    exact ih hwalk

theorem find?_eq_some_iff : fs.find? place names = some entry
    ↔ fs.walk place names = .ok (along place names)
      ∧ fs.get? (along place names) = some entry := by
  unfold find?
  cases hwalk : fs.walk place names with
  | error error => exact ⟨nofun, fun h => nomatch h.1⟩
  | ok next =>
    obtain rfl := eq_along_of_walk hwalk
    exact ⟨fun h => ⟨rfl, h⟩, fun h => h.2⟩

/-- Whatever names lead to, all names before them lead to directories. -/
theorem find?_before (h : (fs.find? place names).isSome) (hbefore : before <+: names)
    (hne : before ≠ names) : fs.find? place before = some .directory := by
  obtain ⟨entry, hentry⟩ := Option.isSome_iff_exists.1 h
  obtain ⟨hwalk, -⟩ := find?_eq_some_iff.1 hentry
  obtain ⟨rest, rfl⟩ := hbefore
  cases rest with
  | nil => exact absurd (List.append_nil before).symm hne
  | cons name rest =>
    obtain ⟨middle, hmiddle, hrest⟩ := walk_append_ok_iff.1 hwalk
    rw [walk, List.foldlM_cons, bind_eq_ok] at hrest
    obtain ⟨entered, henter, -⟩ := hrest
    obtain ⟨hdirectory, -⟩ := nameIn_ok_iff.1 (enter_ok_iff.1 henter).1
    obtain rfl := eq_along_of_walk hmiddle
    exact find?_eq_some_iff.2 ⟨hmiddle, hdirectory⟩

theorem isOccupied_iff {path : Path} : fs.isOccupied path = true
    ↔ checkPath path = .ok () ∧ (fs.find? (fs.origin path) path.steps).isSome := by
  unfold isOccupied
  cases checkPath path with
  | error error => simp [Except.isOk, Except.toBool]
  | ok checked => simp [Except.isOk, Except.toBool]

/-! ## File systems that keep ways -/

/-- What was there is still there, and directories are directories. -/
structure KeepsWays (fs after : FileSystem) : Prop where
  occupied : ∀ {place}, (fs.get? place).isSome → (after.get? place).isSome
  directory : ∀ {place}, fs.get? place = some .directory → after.get? place = some .directory

theorem KeepsWays.nameIn (h : fs.KeepsWays after) (hname : fs.nameIn place name = .ok next) :
    after.nameIn place name = .ok next := by
  rw [nameIn_ok_iff] at hname ⊢
  exact ⟨h.directory hname.1, hname.2⟩

theorem KeepsWays.walk (h : fs.KeepsWays after) (hwalk : fs.walk place names = .ok next) :
    after.walk place names = .ok next := by
  induction names generalizing place with
  | nil => exact hwalk
  | cons name names ih =>
    rw [FileSystem.walk, List.foldlM_cons, bind_eq_ok] at hwalk ⊢
    obtain ⟨middle, henter, hrest⟩ := hwalk
    obtain ⟨hname, hsome⟩ := enter_ok_iff.1 henter
    exact ⟨middle, enter_ok_iff.2 ⟨h.nameIn hname, h.occupied hsome⟩, ih hrest⟩

theorem KeepsWays.find? (h : fs.KeepsWays after) (hfind : fs.find? place names = some .directory) :
    after.find? place names = some .directory := by
  obtain ⟨hwalk, hget⟩ := find?_eq_some_iff.1 hfind
  exact find?_eq_some_iff.2 ⟨h.walk hwalk, h.directory hget⟩

/-! ## File systems that only gain -/

/-- One file system has all that another has, and where that has nothing at most what is new. -/
structure Adds (new : Place → Entry → Prop) (fs after : FileSystem) : Prop where
  working : after.working = fs.working
  kept : ∀ {place entry}, fs.get? place = some entry → after.get? place = some entry
  added : ∀ {place entry}, fs.get? place = none → after.get? place = some entry → new place entry

namespace Adds

variable {new new' : Place → Entry → Prop}

theorem refl (fs : FileSystem) : Adds new fs fs where
  working := rfl
  kept := id
  added := fun hnone hsome => by rw [hnone] at hsome; cases hsome

theorem trans (h : Adds new fs made) (h' : Adds new made after) : Adds new fs after where
  working := h'.working.trans h.working
  kept := fun hsome => h'.kept (h.kept hsome)
  added := by
    intro place entry hnone hsome
    cases hmade : made.get? place with
    | none => exact h'.added hmade hsome
    | some other =>
      rw [h'.kept hmade, Option.some.injEq] at hsome
      rw [← hsome]
      exact h.added hnone hmade

theorem mono (h : Adds new fs after) (himp : ∀ place entry, new place entry → new' place entry) :
    Adds new' fs after where
  working := h.working
  kept := h.kept
  added := fun hnone hsome => himp _ _ (h.added hnone hsome)

theorem put (h : fs.get? place = none) (hnew : new place entry) :
    Adds new fs (fs.put place entry) where
  working := rfl
  kept := by
    intro other old hold
    have hne : other ≠ place := by
      rintro rfl
      rw [h] at hold
      cases hold
    rw [get?_put (ne_root_of_none h), if_neg hne, hold]
  added := by
    intro other found hnone hsome
    rw [get?_put (ne_root_of_none h)] at hsome
    split at hsome
    · next hother =>
      cases hsome
      rwa [hother]
    · rw [hnone] at hsome
      cases hsome

theorem keepsWays (h : Adds new fs after) : fs.KeepsWays after where
  occupied := by
    intro place hsome
    obtain ⟨entry, hentry⟩ := Option.isSome_iff_exists.1 hsome
    rw [h.kept hentry]
    rfl
  directory := h.kept

theorem origin (h : Adds new fs after) (path : Path) : after.origin path = fs.origin path := by
  unfold FileSystem.origin
  rw [h.working]

theorem placeOf (h : Adds new fs after) (path : Path) : after.placeOf path = fs.placeOf path := by
  rw [FileSystem.placeOf, FileSystem.placeOf, h.origin]

end Adds

/-! ## Ways through what is missing -/

/-- A directory is at the place of a path, and something on the way that the path takes to it is
missing. -/
def Overlooked (fs : FileSystem) (path : Path) : Prop :=
  fs.get? (fs.placeOf path) = some .directory
    ∧ ∃ before, before <+: path.steps ∧ fs.get? (along (fs.origin path) before) = none

/-- A way that is new led through something that was missing. -/
theorem Adds.walk_or_missing {new : Place → Entry → Prop} (h : Adds new fs after)
    (hwalk : after.walk place names = .ok next) :
    fs.walk place names = .ok next
      ∨ ∃ before, before <+: names ∧ fs.get? (along place before) = none := by
  induction names generalizing place with
  | nil => exact .inl hwalk
  | cons name names ih =>
    rw [walk, List.foldlM_cons, bind_eq_ok] at hwalk
    obtain ⟨middle, henter, hrest⟩ := hwalk
    obtain ⟨hname, -⟩ := enter_ok_iff.1 henter
    obtain ⟨hdirectory, hshort, rfl⟩ := nameIn_ok_iff.1 hname
    -- the first place on the way that is missing, if one is
    cases hplace : fs.get? place with
    | none => exact .inr ⟨[], List.nil_prefix, hplace⟩
    | some entry =>
      rw [h.kept hplace, Option.some.injEq] at hdirectory
      subst hdirectory
      cases hnext : fs.get? (stepTo place name) with
      | none => exact .inr ⟨[name], by simp, hnext⟩
      | some entry =>
        rcases ih hrest with hwalk | ⟨before, hbefore, hnone⟩
        · have henter : fs.enter place name = .ok (stepTo place name) :=
            enter_ok_iff.2 ⟨nameIn_ok_iff.2 ⟨hplace, hshort, rfl⟩, by rw [hnext]; rfl⟩
          refine .inl ?_
          rw [walk, List.foldlM_cons, bind_eq_ok]
          exact ⟨_, henter, hwalk⟩
        · exact .inr ⟨name :: before, List.cons_prefix_cons.2 ⟨rfl, hbefore⟩, hnone⟩

/-- What is found along a path where nothing was found before was missing, or something on the way
to it was. -/
theorem Adds.exists_missing {new : Place → Entry → Prop} {path : Path} (h : Adds new fs after)
    (hfree : fs.isOccupied path = false) (hcheck : checkPath path = .ok ())
    (hfind : (after.find? (fs.origin path) path.steps).isSome) :
    ∃ before, before <+: path.steps ∧ fs.get? (along (fs.origin path) before) = none := by
  obtain ⟨entry, hentry⟩ := Option.isSome_iff_exists.1 hfind
  rcases h.walk_or_missing (find?_eq_some_iff.1 hentry).1 with hwalk | hmissing
  · cases hplace : fs.get? (along (fs.origin path) path.steps) with
    | none => exact ⟨_, List.prefix_rfl, hplace⟩
    | some entry =>
      have hoccupied : fs.isOccupied path = true :=
        isOccupied_iff.2 ⟨hcheck, by rw [find?_eq_some_iff.2 ⟨hwalk, hplace⟩]; rfl⟩
      rw [hfree] at hoccupied
      cases hoccupied
  · exact hmissing

theorem along_of_no_up (place : Place) (h : upName ∉ names) :
    along place names = place ++ names := by
  induction names generalizing place with
  | nil => exact (List.append_nil place).symm
  | cons name names ih =>
    rw [List.mem_cons, not_or] at h
    rw [along, List.foldl_cons, stepTo, if_neg (Ne.symm h.1)]
    exact (ih _ h.2).trans (List.append_assoc _ _ _)

theorem isTree_of_entries (h : ∀ listed ∈ fs.entries, fs.get? listed.1.dropLast = some .directory) :
    fs.IsTree := by
  refine ⟨fun place name hsome => ?_⟩
  rw [FileSystem.get?, if_neg (List.concat_ne_nil _ _), Option.isSome_map,
    List.find?_isSome] at hsome
  obtain ⟨listed, hmem, hplace⟩ := hsome
  have hdirectory := h listed hmem
  rwa [of_decide_eq_true hplace, List.dropLast_concat] at hdirectory

theorem IsTree.isSome_of_append (h : fs.IsTree) (hsome : (fs.get? (place ++ names)).isSome) :
    (fs.get? place).isSome := by
  induction names using List.reverseRecOn with
  | nil => rwa [List.append_nil] at hsome
  | append_singleton names name ih =>
    rw [← List.append_assoc] at hsome
    exact ih (by rw [h.inside _ _ hsome]; rfl)

/-- A path that does not step up overlooks nothing. -/
theorem IsTree.not_overlooked {path : Path} (h : fs.IsTree) (hup : upName ∉ path.steps) :
    ¬ fs.Overlooked path := by
  rintro ⟨hdirectory, before, ⟨rest, hrest⟩, hnone⟩
  have hbefore : upName ∉ before := fun hmem => hup (hrest ▸ List.mem_append_left _ hmem)
  have hsome : (fs.get? (fs.origin path ++ before ++ rest)).isSome := by
    rw [List.append_assoc, hrest, ← along_of_no_up _ hup]
    exact Option.isSome_of_eq_some hdirectory
  rw [along_of_no_up _ hbefore] at hnone
  have hfound := h.isSome_of_append hsome
  rw [hnone] at hfound
  cases hfound

/-! ## Making directories -/

/-- A directory that is at the end of names or of the first ones of them. -/
def OnWay (place : Place) (names : List String) (found : Place) (entry : Entry) : Prop :=
  entry = .directory ∧ ∃ before, before <+: names ∧ found = along place before

theorem OnWay.further {found : Place} (h : OnWay place before found entry)
    (hbefore : before <+: names) : OnWay place names found entry := by
  obtain ⟨hentry, first, hfirst, hfound⟩ := h
  exact ⟨hentry, first, hfirst.trans hbefore, hfound⟩

theorem Adds.further (h : Adds (OnWay place before) fs after) (hbefore : before <+: names) :
    Adds (OnWay place names) fs after :=
  h.mono fun _ _ hnew => hnew.further hbefore

/-- A directory that could be made was not there, and is now. -/
theorem makeDirectory_ok {disk : Disk} (h : fs.makeDirectory place names disk = .ok made) :
    Adds (OnWay place names) fs made ∧ made.find? place names = some .directory := by
  rcases List.eq_nil_or_concat' names with rfl | ⟨before, name, rfl⟩
  · cases h
  · rw [makeDirectory, List.getLast?_concat, List.dropLast_concat] at h
    dsimp only at h
    rw [bind_eq_ok] at h
    obtain ⟨parent, hwalk, h⟩ := h
    rw [bind_eq_ok] at h
    obtain ⟨target, hname, h⟩ := h
    split at h
    · cases h
    next hfree =>
    split at h
    · cases h
    obtain rfl := pure_eq_ok.1 h
    rw [Bool.not_eq_true, Option.isSome_eq_false_iff, Option.isNone_iff_eq_none] at hfree
    have htarget : target = along place (before ++ [name]) := by
      obtain ⟨-, -, rfl⟩ := nameIn_ok_iff.1 hname
      rw [along_append, ← eq_along_of_walk hwalk]
      rfl
    have hadds : Adds (OnWay place (before ++ [name])) fs (fs.put target .directory) :=
      Adds.put hfree ⟨rfl, _, List.prefix_rfl, htarget⟩
    have hget : (fs.put target .directory).get? target = some .directory := by
      rw [get?_put (ne_root_of_none hfree), if_pos rfl]
    refine ⟨hadds, find?_eq_some_iff.2 ⟨?_, ?_⟩⟩
    · rw [← htarget]
      have henter : (fs.put target .directory).enter parent name = .ok target :=
        enter_ok_iff.2 ⟨hadds.keepsWays.nameIn hname, by rw [hget]; rfl⟩
      exact walk_concat_ok_iff.2 ⟨parent, hadds.keepsWays.walk hwalk, henter⟩
    · rw [← htarget]
      exact hget

/-- Where a directory is there is nothing to make. -/
theorem makeDirectory_of_find? (disk : Disk) (h : fs.find? place names = some .directory) :
    fs.makeDirectory place names disk = .error .alreadyThere := by
  rcases List.eq_nil_or_concat' names with rfl | ⟨before, name, rfl⟩
  · rfl
  · obtain ⟨hwalk, hget⟩ := find?_eq_some_iff.1 h
    obtain ⟨parent, hparent, henter⟩ := walk_concat_ok_iff.1 hwalk
    obtain ⟨hname, hsome⟩ := enter_ok_iff.1 henter
    rw [makeDirectory, List.getLast?_concat, List.dropLast_concat]
    dsimp only
    rw [hparent]
    show (fs.nameIn parent name >>= _) = _
    rw [hname]
    exact if_pos hsome

theorem ensureDirectory_ok {disk : Disk} (h : fs.ensureDirectory place names disk = .ok made) :
    Adds (OnWay place names) fs made ∧ made.find? place names = some .directory := by
  unfold ensureDirectory at h
  split at h
  · split at h
    · next hfind =>
      cases h
      exact ⟨Adds.refl fs, hfind⟩
    · cases h
  · exact makeDirectory_ok h

theorem ensureDirectory_error {disk : Disk} {error : FileError}
    (h : fs.ensureDirectory place names disk = .error error) :
    fs.find? place names ≠ some .directory := by
  intro hfind
  rw [ensureDirectory, makeDirectory_of_find? disk hfind] at h
  dsimp only at h
  rw [if_pos hfind] at h
  cases h

/-- Directories that could be made are all there, and nothing else is new. -/
theorem makeMissing_ok {disk : Disk} (h : fs.makeMissing place names disk = (.ok (), made)) :
    Adds (OnWay place names.reverse) fs made
      ∧ (names ≠ [] → made.find? place names.reverse = some .directory) := by
  induction names generalizing made with
  | nil =>
    cases h
    exact ⟨Adds.refl fs, fun hne => absurd rfl hne⟩
  | cons name before ih =>
    have hbefore : before.reverse <+: (name :: before).reverse := by
      rw [List.reverse_cons]
      exact List.prefix_append _ _
    rw [makeMissing] at h
    split at h
    · next hensure =>
      cases h
      obtain ⟨hadds, hfind⟩ := ensureDirectory_ok hensure
      exact ⟨hadds, fun _ => hfind⟩
    · -- the one above is missing as well
      split at h
      · cases h
      next middle hmissing =>
      split at h
      · next hensure =>
        cases h
        obtain ⟨hadds, hfind⟩ := ensureDirectory_ok hensure
        exact ⟨((ih hmissing).1.further hbefore).trans hadds, fun _ => hfind⟩
      · cases h
    · cases h

/-- Where a directory could not be made, only those above it are new, and the way is blocked at
one of its names. -/
theorem makeMissing_error {disk : Disk} {error : FileError}
    (h : fs.makeMissing place names disk = (.error error, made)) :
    Adds (OnWay place names.reverse.dropLast) fs made
      ∧ ∃ before, before <+: names.reverse ∧ made.find? place before ≠ some .directory := by
  induction names generalizing made with
  | nil => cases h
  | cons name before ih =>
    have hdrop : (name :: before).reverse.dropLast = before.reverse := by
      rw [List.reverse_cons, List.dropLast_concat]
    rw [makeMissing] at h
    split at h
    · cases h
    · split at h
      · next middle hmissing =>
        cases h
        obtain ⟨hadds, first, hfirst, hblocked⟩ := ih hmissing
        rw [hdrop]
        refine ⟨hadds.further (List.dropLast_prefix _), first, ?_, hblocked⟩
        rw [List.reverse_cons]
        exact hfirst.trans (List.prefix_append _ _)
      next middle hmissing =>
      split at h
      · cases h
      · next hensure =>
        cases h
        rw [hdrop]
        exact ⟨(makeMissing_ok hmissing).1, _, List.prefix_rfl, ensureDirectory_error hensure⟩
    · next hensure =>
      cases h
      exact ⟨Adds.refl fs, _, List.prefix_rfl, ensureDirectory_error hensure⟩

theorem makeDirectories_ok {path : Path} {disk : Disk} (hne : path.steps ≠ [])
    (h : fs.makeDirectories path disk = (.ok (), made)) :
    checkPath path = .ok () ∧ Adds (OnWay (fs.origin path) path.steps) fs made
      ∧ made.find? (fs.origin path) path.steps = some .directory := by
  unfold makeDirectories at h
  split at h
  · cases h
  next hcheck =>
  obtain ⟨hadds, hfind⟩ := makeMissing_ok h
  rw [List.reverse_reverse] at hadds hfind
  exact ⟨hcheck, hadds, hfind fun hnil => hne (List.reverse_eq_nil_iff.1 hnil)⟩

/-- Where a directory could not be made, there is none at the end of its path. -/
theorem makeDirectories_error {path : Path} {disk : Disk} {error : FileError}
    (h : fs.makeDirectories path disk = (.error error, made)) :
    Adds (OnWay (fs.origin path) path.steps.dropLast) fs made
      ∧ (made.isOccupied path = true →
        ∃ content, made.find? (fs.origin path) path.steps = some (.file content)) := by
  unfold makeDirectories at h
  split at h
  · next hcheck =>
    cases h
    refine ⟨Adds.refl fs, fun hoccupied => ?_⟩
    rw [(isOccupied_iff.1 hoccupied).1] at hcheck
    cases hcheck
  · obtain ⟨hadds, before, hbefore, hblocked⟩ := makeMissing_error h
    rw [List.reverse_reverse] at hadds hbefore
    refine ⟨hadds, fun hoccupied => ?_⟩
    have hfound := (isOccupied_iff.1 hoccupied).2
    rw [hadds.origin] at hfound
    obtain rfl : before = path.steps := by
      by_contra hne
      exact hblocked (find?_before hfound hbefore hne)
    obtain ⟨entry, hentry⟩ := Option.isSome_iff_exists.1 hfound
    cases entry with
    | file content => exact ⟨content, hentry⟩
    | directory => exact absurd hentry hblocked

/-! ## Writing files -/

/-- Each place is as it was, or is that of a file that was written. -/
structure Writes (written : Place → Bytes → Prop) (fs after : FileSystem) : Prop where
  working : after.working = fs.working
  get? : ∀ place, after.get? place = fs.get? place ∨ fs.get? place ≠ some .directory
    ∧ ∃ content, after.get? place = some (.file content) ∧ written place content

namespace Writes

variable {written written' : Place → Bytes → Prop}

theorem refl (fs : FileSystem) : Writes written fs fs := ⟨rfl, fun _ => .inl rfl⟩

theorem trans (h : Writes written fs made) (h' : Writes written made after) :
    Writes written fs after where
  working := h'.working.trans h.working
  get? := by
    intro place
    rcases h'.get? place with hsame | ⟨hfile, hcontent⟩
    · rw [hsame]
      exact h.get? place
    · refine .inr ⟨fun hdirectory => ?_, hcontent⟩
      rcases h.get? place with hsame | ⟨hother, -⟩
      · exact hfile (hsame.trans hdirectory)
      · exact hother hdirectory

theorem mono (h : Writes written fs after)
    (himp : ∀ place content, written place content → written' place content) :
    Writes written' fs after where
  working := h.working
  get? := by
    intro place
    rcases h.get? place with hsame | ⟨hfile, content, hcontent, hwritten⟩
    · exact .inl hsame
    · exact .inr ⟨hfile, content, hcontent, himp _ _ hwritten⟩

theorem put {content : Bytes} (h : fs.get? place ≠ some .directory)
    (hwritten : written place content) : Writes written fs (fs.put place (.file content)) where
  working := rfl
  get? := by
    intro other
    have hne : place ≠ [] := by
      rintro rfl
      exact h rfl
    rw [get?_put hne]
    split
    · next hother =>
      rw [hother]
      exact .inr ⟨h, content, rfl, hwritten⟩
    · exact .inl rfl

theorem keepsWays (h : Writes written fs after) : fs.KeepsWays after where
  occupied := by
    intro place hsome
    rcases h.get? place with hsame | ⟨-, content, hcontent, -⟩
    · rw [hsame]
      exact hsome
    · rw [hcontent]
      rfl
  directory := by
    intro place hdirectory
    rcases h.get? place with hsame | ⟨hfile, -⟩
    · rw [hsame]
      exact hdirectory
    · exact absurd hdirectory hfile

theorem origin (h : Writes written fs after) (path : Path) :
    after.origin path = fs.origin path := by
  unfold FileSystem.origin
  rw [h.working]

theorem placeOf (h : Writes written fs after) (path : Path) :
    after.placeOf path = fs.placeOf path := by
  rw [FileSystem.placeOf, FileSystem.placeOf, h.origin]

end Writes

theorem filePlace_ok {path : Path} {target : Place} (h : fs.filePlace path = .ok target) :
    target = fs.placeOf path ∧ fs.get? target ≠ some .directory := by
  rw [filePlace, bind_eq_ok] at h
  obtain ⟨-, -, h⟩ := h
  split at h
  · cases h
  next name hname =>
  rw [bind_eq_ok] at h
  obtain ⟨parent, hwalk, h⟩ := h
  rw [bind_eq_ok] at h
  obtain ⟨last, hlast, h⟩ := h
  split at h
  · cases h
  next hfile =>
  obtain rfl := pure_eq_ok.1 h
  refine ⟨?_, hfile⟩
  obtain ⟨before, hsteps⟩ := List.getLast?_eq_some_iff.1 hname
  rw [hsteps, List.dropLast_concat] at hwalk
  obtain ⟨-, -, rfl⟩ := nameIn_ok_iff.1 hlast
  rw [placeOf, hsteps, along_append, ← eq_along_of_walk hwalk]
  rfl

/-- A file that could be written is at the place of its path. -/
theorem writeFile_ok {path : Path} {content : Bytes} {disk : Disk}
    (h : fs.writeFile path content disk = .ok after) :
    fs.get? (fs.placeOf path) ≠ some .directory
      ∧ after = fs.put (fs.placeOf path) (.file content) := by
  rw [writeFile, bind_eq_ok] at h
  obtain ⟨target, htarget, h⟩ := h
  obtain ⟨rfl, hfile⟩ := filePlace_ok htarget
  split at h
  · cases h
  · exact ⟨hfile, (pure_eq_ok.1 h).symm⟩

/-- What is left of a file that could not be written is at the place of its path, if anything is. -/
theorem afterRefusedWrite_writes (fs : FileSystem) (path : Path) (content : Bytes) (disk : Disk) :
    Writes (fun place found => place = fs.placeOf path ∧ found <+: content) fs
      (fs.afterRefusedWrite path content disk) := by
  unfold afterRefusedWrite
  split
  · exact Writes.refl fs
  next target htarget =>
  obtain ⟨rfl, hfile⟩ := filePlace_ok htarget
  split
  · exact Writes.refl fs
  · exact Writes.put hfile ⟨rfl, List.take_prefix _ _⟩

end FileSystem

end CommandTelemetry
