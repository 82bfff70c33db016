import CommandTelemetry.Program.Request
import CommandTelemetry.Proofs.CommandLine.GlobalsTheorems
import CommandTelemetry.Proofs.CommandLine.ParseTheorems
import CommandTelemetry.Proofs.CommandLine.RecordTheorems

/-!
# Every command line stands for a request

What the reader accepts as a command line of the program always stands for a request: all the values
that a request is made of were checked while the command line was read.

* `Request.exists_projectOf?` does this for the one command that has such values;
* `Request.exists_ofParsed?` does it for the whole program.
-/

namespace CommandTelemetry

namespace Request

open Program

variable {level : Level} {top : LevelRecord}

/-- An argument that was recorded and needs a value has one, and it was checked. -/
theorem exists_value? {id : String} (h : top.Fits level)
    (hsome : (top.records.get? id).isSome = true)
    (hleast : ∀ arg ∈ level.args, arg.id = id → 0 < arg.valueCount.least) :
    ∃ value, value? top.records id = some value
      ∧ ∃ arg ∈ level.args, arg.id = id ∧ Reader.checkValue arg value = .ok () := by
  obtain ⟨record, hrecord⟩ := Option.isSome_iff_exists.1 hsome
  have hmem : record ∈ top.records := List.mem_of_find?_eq_some hrecord
  have hid : record.id = id := by
    unfold Matches.get? at hrecord
    have hfound := List.find?_some hrecord
    exact of_decide_eq_true hfound
  have hfits := h.records record hmem
  have hne : record.values ≠ [] :=
    hfits.needed fun arg harg hsame => hleast arg harg (hsame.trans hid)
  obtain ⟨value, others, hvalues⟩ := List.exists_cons_of_ne_nil hne
  obtain ⟨arg, harg, hsame, hchecked⟩ :=
    hfits.allowed value (by rw [hvalues]; exact List.mem_cons_self)
  refine ⟨value, ?_, arg, harg, hsame.trans hid, hchecked⟩
  rw [value?, hrecord, Option.bind_some, hvalues, List.head?_cons]

/-- The arguments of the command that makes a project, with those that may be added to them. -/
def projectArgs : List Arg := projectCommand.spec.args ++ [Level.helpFlag, Level.versionFlag]

theorem exists_projectOf? (h : top.Fits level) (hargs : ∀ arg ∈ level.args, arg ∈ projectArgs)
    (hown : ∀ arg ∈ projectCommand.spec.args, arg ∈ level.args) :
    ∃ request, projectOf? top.records = some request := by
  -- each of the three takes a value, so a record of it cannot be empty
  have hleast : ∀ id ∈ ["name", "template", "dir"], ∀ arg ∈ level.args, arg.id = id →
      0 < arg.valueCount.least := by
    have hall : ∀ id ∈ ["name", "template", "dir"], ∀ arg ∈ projectArgs, arg.id = id →
        0 < arg.valueCount.least := by decide
    exact fun id hid arg harg => hall id hid arg (hargs arg harg)
  have hname : ∃ name, value? top.records "name" = some name := by
    have htyped : top.records.isTyped "name" = true :=
      h.required (projectCommand.spec.args[0]) (hown _ (List.getElem_mem _)) rfl
    obtain ⟨name, hname, -⟩ := exists_value? h (Option.isSome_of_any htyped) (hleast _ (by decide))
    exact ⟨name, hname⟩
  have htemplate : ∃ name template, value? top.records "template" = some name
      ∧ Template.named? name = some template := by
    have hsome : (top.records.get? "template").isSome = true :=
      h.defaults (projectCommand.spec.args[1]) (hown _ (List.getElem_mem _)) (by decide)
    obtain ⟨name, hname, arg, harg, hid, hchecked⟩ := exists_value? h hsome (hleast _ (by decide))
    -- the names that are allowed are those of the templates, so no other gets here
    have hallowed : ∀ arg ∈ projectArgs, arg.id = "template" →
        arg.allowedValues = Template.all.map Template.name := by decide
    have hnames := hallowed arg (hargs arg harg) hid
    have hmem := Reader.mem_allowedValues_of_checkValue hchecked (by rw [hnames]; decide)
    rw [hnames] at hmem
    obtain ⟨template, -, rfl⟩ := List.mem_map.1 hmem
    exact ⟨_, template, hname, Template.named?_name template⟩
  have hdirectory : ∃ directory, value? top.records "dir" = some directory := by
    have hsome : (top.records.get? "dir").isSome = true :=
      h.defaults (projectCommand.spec.args[2]) (hown _ (List.getElem_mem _)) (by decide)
    obtain ⟨directory, hdirectory, -⟩ := exists_value? h hsome (hleast _ (by decide))
    exact ⟨directory, hdirectory⟩
  obtain ⟨name, hname⟩ := hname
  obtain ⟨text, template, htext, hnamed⟩ := htemplate
  obtain ⟨directory, hdirectory⟩ := hdirectory
  refine ⟨.createProject name template directory, ?_⟩
  rw [projectOf?, hname, htext, hdirectory, Option.bind_some, hnamed]
  rfl

/-- The services take no values, so the name of the command is all that counts. -/
theorem exists_serviceOf? {name : String} (h : name ∈ ["up", "down", "status", "logs", "env"])
    (records : Matches) : ∃ request, serviceOf? name records = some request := by
  simp only [List.mem_cons, List.not_mem_nil, or_false] at h
  rcases h with rfl | rfl | rfl | rfl | rfl
  · exact ⟨.up, rfl⟩
  · exact ⟨.down, rfl⟩
  · exact ⟨.status, rfl⟩
  · exact ⟨_, rfl⟩
  · exact ⟨.env, rfl⟩

/-! ## Levels of the program -/

section

variable {calledBy : Option String} {above : Inheritance} {parsed : Parsed}

/-- Below a command that declares no global options, a command without subcommands ends it all. -/
theorem below_of_leaf {command sub : Command} {below : Parsed}
    (h : Reader.Reads ((Level.ofCommand calledBy above command).enter sub) below)
    (hglobals : (Level.ofCommand calledBy above command).globals = [])
    (hleaf : sub.subcommands = []) (hexternal : sub.spec.allowsExternal = false)
    (hown : ∀ arg ∈ sub.spec.args, arg.isGlobal = false) :
    below.levels = [below.top] ∧ below.top.globalIds = []
      ∧ below.top.Fits ((Level.ofCommand calledBy above command).enter sub) := by
  obtain ⟨htop, hnil⟩ := h.ofLeaf hleaf hexternal
  have hhanded : ((Level.ofCommand calledBy above command).inheritance sub).globals = [] := by
    rw [Level.inheritance, hglobals, ite_self]
  refine ⟨by rw [Parsed.levels, hnil], ?_, htop⟩
  rw [htop.globalIds, Level.globals_eq_nil hhanded hown, List.map_nil]

theorem below_of_create (h : Reader.Reads (Level.ofCommand calledBy above createCommand) parsed)
    (habove : above.globals = []) :
    parsed.top.command = "create" ∧ parsed.top.globalIds = []
      ∧ ∃ project, parsed.below = [project] ∧ project.command = "project"
        ∧ project.globalIds = [] ∧ ∃ request, projectOf? project.records = some request := by
  have hglobals : (Level.ofCommand calledBy above createCommand).globals = [] :=
    Level.globals_eq_nil habove (by decide)
  obtain ⟨htop, ⟨-, hrequired⟩ | ⟨sub, hsub, below, hbelow, hreads⟩⟩ := h.ofCommand rfl
  · cases hrequired
  · cases List.mem_singleton.1 hsub
    obtain ⟨hlevels, hids, hfits⟩ := below_of_leaf hreads hglobals rfl rfl (by decide)
    refine ⟨htop.command, by rw [htop.globalIds, hglobals, List.map_nil], below.top,
      hbelow.trans hlevels, hfits.command, hids, ?_⟩
    refine exists_projectOf? hfits (fun arg harg => ?_) fun arg harg => Level.mem_args_of_own harg
    refine Level.mem_args_of_no_globals ?_ harg
    rw [Level.inheritance, hglobals, ite_self]

theorem below_of_docker (h : Reader.Reads (Level.ofCommand calledBy above dockerCommand) parsed)
    (habove : above.globals = []) :
    parsed.top.command = "docker" ∧ parsed.top.globalIds = []
      ∧ ∃ service, parsed.below = [service] ∧ service.globalIds = []
        ∧ ∃ request, serviceOf? service.command service.records = some request := by
  have hglobals : (Level.ofCommand calledBy above dockerCommand).globals = [] :=
    Level.globals_eq_nil habove (by decide)
  have hservices : ∀ sub ∈ dockerCommand.subcommands, sub.subcommands = []
      ∧ sub.spec.allowsExternal = false ∧ (∀ arg ∈ sub.spec.args, arg.isGlobal = false)
      ∧ sub.spec.name ∈ ["up", "down", "status", "logs", "env"] := by decide
  obtain ⟨htop, ⟨-, hrequired⟩ | ⟨sub, hsub, below, hbelow, hreads⟩⟩ := h.ofCommand rfl
  · cases hrequired
  · obtain ⟨hleaf, hexternal, hown, hname⟩ := hservices sub hsub
    obtain ⟨hlevels, hids, hfits⟩ := below_of_leaf hreads hglobals hleaf hexternal hown
    refine ⟨htop.command, by rw [htop.globalIds, hglobals, List.map_nil], below.top,
      hbelow.trans hlevels, hids, exists_serviceOf? ?_ below.top.records⟩
    rw [hfits.command]
    exact hname

/-- Whatever has the shape of a command line of the program stands for a request, and none of its
levels has global options. -/
theorem exists_request_of_reads (h : Reader.Reads (Level.ofCommand calledBy {} command) parsed) :
    (∀ level ∈ parsed.levels, level.globalIds = [])
      ∧ ∃ request, ofParsed? parsed = some request := by
  obtain ⟨top, levels⟩ := parsed
  obtain ⟨htop, ⟨hnil, -⟩ | ⟨sub, hsub, below, hbelow, hreads⟩⟩ := h.ofCommand rfl
  · subst hnil
    exact ⟨List.forall_mem_singleton.2 htop.globalIds, .welcome, rfl⟩
  · dsimp only at hbelow
    subst hbelow
    have hids : top.globalIds = [] := htop.globalIds
    simp only [command, List.mem_cons, List.not_mem_nil, or_false] at hsub
    rcases hsub with rfl | rfl | rfl
    · -- `version`, which stands alone
      obtain ⟨hlevels, hinner, hfits⟩ := below_of_leaf hreads rfl rfl rfl (by decide)
      have hname : below.top.command = "version" := hfits.command
      refine ⟨?_, .version, by simp [ofParsed?, hlevels, hname]⟩
      rw [Parsed.levels, hlevels]
      exact List.forall_mem_cons.2 ⟨hids, List.forall_mem_singleton.2 hinner⟩
    · -- `create`, which needs to be told what
      obtain ⟨hname, houter, project, hbelow, hproject, hinner, request, hrequest⟩ :=
        below_of_create hreads rfl
      have hlevels : below.levels = [below.top, project] := by rw [Parsed.levels, hbelow]
      refine ⟨?_, request, by simp [ofParsed?, hlevels, hname, hproject, hrequest]⟩
      rw [Parsed.levels, hlevels]
      exact List.forall_mem_cons.2
        ⟨hids, List.forall_mem_cons.2 ⟨houter, List.forall_mem_singleton.2 hinner⟩⟩
    · -- `docker`, which needs to be told what to do
      obtain ⟨hname, houter, service, hbelow, hinner, request, hrequest⟩ :=
        below_of_docker hreads rfl
      have hlevels : below.levels = [below.top, service] := by rw [Parsed.levels, hbelow]
      refine ⟨?_, .services request, by simp [ofParsed?, hlevels, hname, hrequest]⟩
      rw [Parsed.levels, hlevels]
      exact List.forall_mem_cons.2
        ⟨hids, List.forall_mem_cons.2 ⟨houter, List.forall_mem_singleton.2 hinner⟩⟩

end

/-- Every command line of the program that was read stands for a request. -/
theorem exists_ofParsed? {argv : List String} {parsed : Parsed}
    (h : command.parse argv = .ok parsed) : ∃ request, ofParsed? parsed = some request := by
  obtain ⟨-, unshared, hread, rfl⟩ := Command.parse_ok h
  obtain ⟨hids, hrequest⟩ :=
    exists_request_of_reads (Reader.reads_of_read (Reader.fits_start _) hread)
  rw [Globals.share_eq_self hids]
  exact hrequest

end Request

end CommandTelemetry
