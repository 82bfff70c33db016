import CommandTelemetry.Proofs.Json.ReaderTheorems
import CommandTelemetry.Proofs.Program.ScaffoldTheorems

/-!
# Manifests of new projects

The name of a project stands in its manifest as it is, between quotation marks. A name that needs no
escape is read back from there. One that does makes a manifest that cannot be read, or has another
name.

* `Json.IsPlain` are the texts that need no escape, and `Json.readString_plain` reads the front of a
  string that is one;
* `Scaffold.read?_manifest` and `Scaffold.member?_of_read?_manifest` read a manifest;
* `Scaffold.make_manifest_names` says which projects have a manifest with their name.
-/

namespace CommandTelemetry

namespace Json

/-! ## Texts without escapes -/

/-- Characters that stand for themselves in a string. -/
def IsPlain (cs : List Char) : Prop := ∀ c ∈ cs, c ≠ '"' ∧ c ≠ '\\' ∧ 0x20 ≤ c.toNat

theorem escape_of_plain {c : Char} (h : c ≠ '"' ∧ c ≠ '\\' ∧ 0x20 ≤ c.toNat) : escape c = [c] := by
  obtain ⟨hquote, hslash, hlarge⟩ := h
  have hne : ∀ control : Char, control.toNat < 0x20 → c ≠ control := by
    rintro control hcontrol rfl
    omega
  rw [escape, if_neg hquote, if_neg hslash, if_neg (hne '\x08' (by decide)),
    if_neg (hne '\x0c' (by decide)), if_neg (hne '\n' (by decide)), if_neg (hne '\r' (by decide)),
    if_neg (hne '\t' (by decide)), if_neg (Nat.not_lt.2 hlarge)]

/-- A plain front of a string is read as it stands. -/
theorem readString_plain {front : List Char} (h : IsPlain front) (fuel : Nat) (rest : List Char) :
    readString (fuel + front.length) (front ++ rest)
      = (readString fuel rest).map fun read => (front ++ read.1, read.2) := by
  induction front with
  | nil => simp
  | cons c front ih =>
    obtain ⟨hc, hfront⟩ := List.forall_mem_cons.1 h
    have hstep := readString_escape c (fuel + front.length) (front ++ rest)
    rw [escape_of_plain hc, ih hfront] at hstep
    rw [List.length_cons, ← Nat.add_assoc]
    exact hstep.trans (by rw [Option.map_map]; rfl)

theorem readString_control {c : Char} (h : c.toNat < 0x20) (fuel : Nat) (rest : List Char) :
    readString fuel (c :: rest) = none := by
  have hquote : c ≠ '"' := by
    rintro rfl
    exact absurd h (by decide)
  have hslash : c ≠ '\\' := by
    rintro rfl
    exact absurd h (by decide)
  cases fuel with
  | zero => rfl
  | succ fuel =>
    rw [readString, if_pos (.inr h)]
    · exact hquote
    · exact fun _ hsame _ => hslash hsame
    · exact fun _ _ hsame _ => hslash hsame

/-- A text is plain, or has a plain front and a character behind it that is not. -/
theorem isPlain_or_exists (cs : List Char) : IsPlain cs
    ∨ ∃ front c behind, cs = front ++ c :: behind ∧ IsPlain front
      ∧ (c = '"' ∨ c = '\\' ∨ c.toNat < 0x20) := by
  induction cs with
  | nil => exact .inl nofun
  | cons c cs ih =>
    by_cases hc : c ≠ '"' ∧ c ≠ '\\' ∧ 0x20 ≤ c.toNat
    · rcases ih with hplain | ⟨front, d, behind, rfl, hfront, hd⟩
      · exact .inl (List.forall_mem_cons.2 ⟨hc, hplain⟩)
      · exact .inr ⟨c :: front, d, behind, rfl, List.forall_mem_cons.2 ⟨hc, hfront⟩, hd⟩
    · refine .inr ⟨[], c, cs, rfl, nofun, ?_⟩
      by_contra hgood
      rw [not_or, not_or, Nat.not_lt] at hgood
      exact hc hgood

/-- Members that could be read start with the one that comes first. -/
theorem exists_of_readMembers {name : String} {fuel : Nat} {start rest : List Char}
    {members : List (String × Json)} (hfuel : (quote name).length < fuel + 1)
    (h : readMembers (fuel + 1) (quote name ++ ':' :: start) = some (members, rest)) :
    ∃ value behind, readValue fuel (skipSpace start) = some (value, behind)
      ∧ members.head? = some (name, value) := by
  rw [readMembers_cons hfuel, Option.bind_eq_some_iff] at h
  obtain ⟨⟨value, behind⟩, hvalue, hmembers⟩ := h
  refine ⟨value, behind, hvalue, ?_⟩
  split at hmembers
  · cases hmembers
    rfl
  · obtain ⟨others, -, hothers⟩ := Option.map_eq_some_iff.1 hmembers
    cases hothers
    rfl
  · cases hmembers

theorem member?_of_head? {name : String} {value : Json} {members : List (String × Json)}
    (h : members.head? = some (name, value)) : (object members).member? name = some value := by
  obtain ⟨others, rfl⟩ := List.head?_eq_some_iff.1 h
  simp [member?]

end Json

namespace Scaffold

open Json FileSystem

variable {fs after : FileSystem} {name directory : String} {path : Path} {disk : Disk}

/-! ## Reading a manifest -/

/-- The text of a manifest behind its name and the quotation mark that closes it. -/
def behindName : List Char :=
  (content [",", "  \"private\": true,", "  \"type\": \"module\",", "  \"dependencies\": \x7b",
    "    \"@acontext/acontext\": \"latest\"", "  \x7d", "\x7d"]).toList

/-- The members of a manifest behind its name. -/
def otherMembers : List (String × Json) :=
  [("private", .bool true), ("type", .string "module"),
    ("dependencies", .object [("@acontext/acontext", .string "latest")])]

theorem toList_manifest (name : String) : (manifest name).toList
    = '\x7b' :: '\n' :: ' ' :: ' ' :: (quote "name" ++ ':' :: ' ' :: '"'
      :: (name.toList ++ '"' :: behindName)) := by
  rw [manifest, behindName, content, content]
  simp only [List.map_cons, List.map_nil, String.join_cons, String.join_nil, String.toList_append,
    List.append_assoc]
  rfl

/-- The text of a manifest from the library on. -/
def fromLibrary : List Char :=
  quote "@acontext/acontext" ++ ':' :: ' ' :: (quote "latest"
    ++ ['\n', ' ', ' ', '\x7d', '\n', '\x7d', '\n'])

/-- The text of a manifest from the dependencies on. -/
def fromDependencies : List Char :=
  quote "dependencies" ++ ':' :: ' ' :: '\x7b' :: '\n' :: ' ' :: ' ' :: ' ' :: ' ' :: fromLibrary

/-- The text of a manifest from the type on. -/
def fromType : List Char :=
  quote "type" ++ ':' :: ' ' :: (quote "module" ++ ',' :: '\n' :: ' ' :: ' ' :: fromDependencies)

theorem behindName_eq : behindName = ',' :: '\n' :: ' ' :: ' ' :: (quote "private" ++ ':' :: ' '
    :: ("true".toList ++ ',' :: '\n' :: ' ' :: ' ' :: fromType)) := by
  rw [behindName, content, fromType, fromDependencies, fromLibrary]
  simp only [List.map_cons, List.map_nil, String.join_cons, String.join_nil, String.toList_append,
    List.append_assoc]
  rfl

/-- The members behind the name are read, from the innermost one out. -/
theorem readMembers_behindName (fuel : Nat) :
    readMembers (fuel + 30) (skipSpace behindName.tail) = some (otherMembers, ['\n']) := by
  have hlength : ∀ text ∈ ["private", "type", "module", "dependencies", "@acontext/acontext",
      "latest"], (quote text).length ≤ 20 := by decide
  simp only [List.forall_mem_cons, List.not_mem_nil, false_implies, implies_true, and_true]
    at hlength
  obtain ⟨hprivate, htype, hmodule, hdependencies, hlibrary, hlatest⟩ := hlength
  have hinner : readMembers (fuel + 26) fromLibrary
      = some ([("@acontext/acontext", .string "latest")], ['\n', '\x7d', '\n']) := by
    rw [fromLibrary,
      readMembers_of_readValue (by omega) (readValue_quote "latest" _ (by omega))]
    rfl
  have hthird : readMembers (fuel + 28) fromDependencies
      = some ([("dependencies", .object [("@acontext/acontext", .string "latest")])], ['\n']) := by
    rw [fromDependencies, readMembers_of_readValue (by omega) (readValue_object hinner)]
    rfl
  have hsecond : readMembers (fuel + 29) fromType = some (otherMembers.tail, ['\n']) := by
    rw [fromType, readMembers_of_readValue (by omega) (readValue_quote "module" _ (by omega))]
    exact congrArg (Option.map _) hthird
  have htrue : readValue (fuel + 29) (skipSpace (' ' :: ("true".toList ++ ',' :: '\n' :: ' '
      :: ' ' :: fromType))) = some (.bool true, ',' :: '\n' :: ' ' :: ' ' :: fromType) := rfl
  rw [behindName_eq]
  show readMembers (fuel + 30) (quote "private" ++ ':' :: ' ' :: ("true".toList ++ _)) = _
  rw [readMembers_of_readValue (by omega) htrue]
  exact congrArg (Option.map _) hsecond

/-- A manifest is read as an object, if its members can be read. -/
theorem read?_manifest_eq (name : String) : ∃ fuel, name.toList.length + 40 ≤ fuel
    ∧ read? (manifest name) = (readMembers (fuel + 1) (quote "name" ++ ':' :: ' ' :: '"'
      :: (name.toList ++ '"' :: behindName))).bind fun read =>
        if skipSpace read.2 = [] then some (.object read.1) else none := by
  have hlength : name.toList.length + 40 ≤ 2 * (manifest name).toList.length := by
    have hquote : (quote "name").length = 6 := by decide
    have hbehind : 6 ≤ behindName.length := by
      rw [behindName_eq]
      simp only [List.length_cons, List.length_append]
      omega
    rw [toList_manifest]
    simp only [List.length_cons, List.length_append]
    omega
  refine ⟨_, hlength, ?_⟩
  rw [read?]
  generalize 2 * (manifest name).toList.length = fuel
  have hopen : ∀ rest, skipSpace ('\n' :: ' ' :: ' ' :: (quote "name" ++ ':' :: ' ' :: '"'
      :: (name.toList ++ '"' :: behindName))) ≠ '\x7d' :: rest :=
    fun _ hclosed => absurd (List.cons.inj hclosed).1 (by decide)
  rw [toList_manifest, skipSpace_cons (by decide)]
  dsimp only
  rw [readValue_members hopen (fuel + 1), Option.bind_eq_bind, Option.bind_map]
  rfl

/-- A plain name is read back from its manifest, and all other members with it. -/
theorem read?_manifest (h : IsPlain name.toList) :
    read? (manifest name) = some (.object (("name", .string name) :: otherMembers)) := by
  obtain ⟨fuel, hfuel, hread⟩ := read?_manifest_eq name
  obtain ⟨extra, rfl⟩ : ∃ extra, fuel = extra + name.toList.length + 40 :=
    ⟨fuel - (name.toList.length + 40), by omega⟩
  have hquote : (quote "name").length = 6 := by decide
  have hname : readValue (extra + name.toList.length + 40) (skipSpace (' ' :: '"'
      :: (name.toList ++ '"' :: behindName))) = some (.string name, behindName) := by
    show readValue (extra + name.toList.length + 39 + 1) ('"' :: _) = _
    rw [readValue_string, Nat.add_right_comm, readString_plain h, readString, Option.map_some,
      Option.map_some, List.append_nil, String.ofList_toList]
  have hcomma : skipSpace behindName = ',' :: behindName.tail := by
    rw [behindName_eq]
    rfl
  rw [hread, readMembers_of_readValue (by omega) hname, hcomma]
  show Option.bind (Option.map _ (readMembers _ (skipSpace behindName.tail))) _ = _
  rw [readMembers_behindName (extra + name.toList.length + 10)]
  rfl

/-- A name without backslashes that is read back from its manifest is plain. -/
theorem isPlain_of_read?_manifest {doc : Json} (hslash : '\\' ∉ name.toList)
    (hread : read? (manifest name) = some doc)
    (hname : doc.member? "name" = some (.string name)) : IsPlain name.toList := by
  rcases isPlain_or_exists name.toList with hplain | ⟨front, c, behind, hsplit, hfront, hc⟩
  · exact hplain
  exfalso
  have hlength : name.toList.length = front.length + behind.length + 1 := by
    rw [hsplit, List.length_append, List.length_cons, Nat.add_assoc]
  obtain ⟨fuel, hfuel, heq⟩ := read?_manifest_eq name
  obtain ⟨extra, rfl⟩ : ∃ extra, fuel = extra + 1 + front.length + 1 :=
    ⟨fuel - (front.length + 2), by omega⟩
  rw [heq, Option.bind_eq_some_iff] at hread
  obtain ⟨⟨members, rest⟩, hmembers, hdoc⟩ := hread
  have hquote : (quote "name").length = 6 := by decide
  obtain ⟨value, left, hvalue, hhead⟩ := exists_of_readMembers (by omega) hmembers
  have hstep : readValue (extra + 1 + front.length + 1) (skipSpace (' ' :: '"'
      :: (name.toList ++ '"' :: behindName)))
      = (readString (extra + 1) (c :: (behind ++ '"' :: behindName))).map fun read =>
        (.string (String.ofList (front ++ read.1)), read.2) := by
    rw [hsplit, List.append_assoc, List.cons_append]
    show readValue _ ('"' :: _) = _
    rw [readValue_string, readString_plain hfront, Option.map_map]
    rfl
  rw [hstep] at hvalue
  rcases hc with rfl | rfl | hcontrol
  · -- the name ends at its first quotation mark
    rw [readString, Option.map_some, List.append_nil] at hvalue
    cases hvalue
    split at hdoc
    · cases hdoc
      rw [member?_of_head? hhead, Option.some.injEq, Json.string.injEq] at hname
      rw [← hname, String.toList_ofList] at hlength
      omega
    · cases hdoc
  · exact hslash (hsplit ▸ List.mem_append_right _ List.mem_cons_self)
  · rw [readString_control hcontrol] at hvalue
    cases hvalue

/-! ## Manifests of projects -/

/-- A project from the template with a manifest has the manifest at its place, and its name is read
back from there just if no character of it needs an escape. All other members are then read as
well. -/
theorem make_manifest_names
    (h : make fs name .typescript directory disk = (.ok path, after)) :
    ∃ text, after.get? (after.placeOf (path.join "package.json"))
        = some (.file (Utf8.encode text))
      ∧ ((∃ doc, read? text = some doc ∧ doc.member? "name" = some (.string name))
        ↔ ∀ c ∈ name.toList, c ≠ '"' ∧ 0x20 ≤ c.toNat)
      ∧ ((∀ c ∈ name.toList, c ≠ '"' ∧ 0x20 ≤ c.toNat) →
        read? text = some (.object [("name", .string name), ("private", .bool true),
          ("type", .string "module"),
          ("dependencies", .object [("@acontext/acontext", .string "latest")])])) := by
  have hends := make_ends fs name .typescript directory disk
  rw [h] at hends
  cases hends with
  | @done created _ hname hfree hmade hwritten =>
    have hplain : IsPlain name.toList ↔ ∀ c ∈ name.toList, c ≠ '"' ∧ 0x20 ≤ c.toNat := by
      constructor
      · exact fun hplain c hc => ⟨(hplain c hc).1, (hplain c hc).2.2⟩
      · intro hplain c hc
        refine ⟨(hplain c hc).1, ?_, (hplain c hc).2⟩
        rintro rfl
        exact hname.no_backslash hc
    have hfile : ("package.json", manifest name) ∈ Scaffold.files .typescript name :=
      List.mem_cons_self
    have hnames : ∀ file ∈ Scaffold.files .typescript name, Path.IsName file.1 :=
      fun _ => isName_of_mem_files
    have hplace : after.placeOf ((projectPath name directory).join "package.json")
        = created.placeOf (projectPath name directory) ++ ["package.json"] := by
      rw [(writeFiles_writes hnames hwritten).placeOf]
      exact placeOf_join created _ (isName_of_mem_files hfile)
    have hall := writeFiles_ok hnames (nodup_files .typescript name) hwritten
    rw [← hplain]
    refine ⟨manifest name, ?_, ?_, read?_manifest⟩
    · rw [hplace]
      exact hall ("package.json", manifest name) hfile
    · constructor
      · rintro ⟨doc, hread, hmember⟩
        exact isPlain_of_read?_manifest hname.no_backslash hread hmember
      · exact fun h => ⟨_, read?_manifest h, rfl⟩

/-- A name of two words, one of them not in English. -/
theorem make_manifest_names_two_words :
    let made := make ⟨[], []⟩ "web häuschen" .typescript "."
    made.1 = .ok ⟨"./web häuschen"⟩
      ∧ ∃ text, made.2.get? (made.2.placeOf ⟨"./web häuschen/package.json"⟩)
          = some (.file (Utf8.encode text))
        ∧ ∃ doc, read? text = some doc ∧ doc.member? "name" = some (.string "web häuschen") := by
  intro made
  have hdone : made.1 = .ok ⟨"./web häuschen"⟩ := by decide +kernel
  obtain ⟨text, hfile, hnames, -⟩ := make_manifest_names (Prod.ext hdone rfl : made = (_, made.2))
  have hall : "web häuschen".toList.all (fun c => c ≠ '"' ∧ 0x20 ≤ c.toNat) = true := by decide
  refine ⟨hdone, text, ?_, hnames.2 fun c hc => of_decide_eq_true (List.all_eq_true.1 hall c hc)⟩
  rw [← hfile]
  rfl

/-- A name with a quotation mark is taken, and its manifest cannot be read. -/
theorem make_manifest_breaks :
    let made := make ⟨[], []⟩ "a\"b" .typescript "."
    made.1 = .ok ⟨"./a\"b"⟩
      ∧ made.2.get? ["a\"b", "package.json"] = some (.file (Utf8.encode (manifest "a\"b")))
      ∧ (read? (manifest "a\"b")).isNone := by
  intro made
  exact ⟨by decide +kernel, by decide +kernel, by decide +kernel⟩

end Scaffold

end CommandTelemetry
