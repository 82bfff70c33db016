import CommandTelemetry.Json.Reader

/-!
# JSON text is read back

The compact text of a value is one that the reader takes, and what it reads is the value again: no
escape, separator or number is lost on the way, whatever the strings hold.

* `Json.readString_flatMap_escape` reads a string, `Json.readNumber_render` a number;
* `Json.readValue_string`, `readValue_members` and `readMembers_cons` read what has content, however
  blanks stand in it;
* `Json.readValue_render` reads a value, with anything behind it that cannot belong to it;
* `Json.read?_compact` reads a whole text.
-/

namespace CommandTelemetry

namespace Json

/-! ## Strings -/

theorem readHex4_control {n : Nat} (h : n < 0x20) (rest : List Char) :
    readHex4 ('0' :: '0' :: Text.hexDigit (n / 16) :: Text.hexDigit (n % 16) :: rest)
      = some (n, rest) := by
  have hhigh := (Text.hexValue_digits (n := n / 16) (by omega)).1
  have hlow := (Text.hexValue_digits (n := n % 16) (by omega)).1
  have hzero : Text.hexValue? '0' = some 0 := by decide
  have hsum : 16 * (n / 16) + n % 16 = n := Nat.div_add_mod n 16
  simp [readHex4, Text.ofHexDigits?, hhigh, hlow, hzero, hsum]

/-- A character is read back from its spelling. -/
theorem readString_escape (c : Char) (fuel : Nat) (rest : List Char) :
    readString (fuel + 1) (escape c ++ rest)
      = (readString fuel rest).map fun read => (c :: read.1, read.2) := by
  -- two characters spell it: a backslash and its letter
  have hletter : ∀ letter, letter ≠ 'u' → escaped? letter = some c →
      readString (fuel + 1) (['\\', letter] ++ rest)
        = (readString fuel rest).map fun read => (c :: read.1, read.2) := by
    intro letter hu hescaped
    simp only [List.cons_append, List.nil_append, readString.eq_5 _ _ _ hu, hescaped,
      Option.pure_def, Option.bind_eq_bind, Option.bind_some, Option.map_eq_bind]
    rfl
  unfold escape
  split
  · next h => exact hletter '"' (by decide) (by rw [h]; rfl)
  split
  · next h => exact hletter '\\' (by decide) (by rw [h]; rfl)
  split
  · next h => exact hletter 'b' (by decide) (by rw [h]; rfl)
  split
  · next h => exact hletter 'f' (by decide) (by rw [h]; rfl)
  split
  · next h => exact hletter 'n' (by decide) (by rw [h]; rfl)
  split
  · next h => exact hletter 'r' (by decide) (by rw [h]; rfl)
  split
  · next h => exact hletter 't' (by decide) (by rw [h]; rfl)
  split
  · -- four digits spell it
    next hcontrol =>
    have hchar : readUnit ('0' :: '0' :: Text.hexDigit (c.toNat / 16)
        :: Text.hexDigit (c.toNat % 16) :: rest) = some (c, rest) := by
      rw [readUnit, readHex4_control hcontrol]
      have hlow : c.toNat < 0xD800 := by omega
      simp [hlow, Char.ofNat_toNat]
    simp only [List.cons_append, List.nil_append, readString, hchar]
    simp only [Option.pure_def, Option.bind_eq_bind, Option.bind_some, Option.map_eq_bind]
    rfl
  · -- it stands for itself
    next hquote hslash _ _ _ _ _ hcontrol =>
    have hplain : ¬ (c = '\\' ∨ c.toNat < 0x20) := by
      rintro (h | h)
      · exact hslash h
      · exact hcontrol h
    rw [List.singleton_append, readString, if_neg hplain, Option.map_eq_bind]
    · rfl
    · exact hquote
    · exact fun _ hsame _ => hslash hsame
    · exact fun _ _ hsame _ => hslash hsame

/-- A text is read back from its spelling up to the closing quotation mark. -/
theorem readString_flatMap_escape (cs : List Char) {fuel : Nat} (rest : List Char)
    (hfuel : cs.length < fuel) :
    readString fuel (cs.flatMap escape ++ '"' :: rest) = some (cs, rest) := by
  induction cs generalizing fuel with
  | nil =>
    obtain ⟨fuel, rfl⟩ := Nat.exists_eq_add_one_of_ne_zero (by omega : fuel ≠ 0)
    rw [List.flatMap_nil, List.nil_append, readString]
  | cons c cs ih =>
    obtain ⟨fuel, rfl⟩ := Nat.exists_eq_add_one_of_ne_zero (by omega : fuel ≠ 0)
    rw [List.length_cons] at hfuel
    rw [List.flatMap_cons, List.append_assoc, readString_escape, ih (by omega), Option.map_some]

theorem quote_append (text : String) (rest : List Char) :
    quote text ++ rest = '"' :: (text.toList.flatMap escape ++ '"' :: rest) := by
  rw [quote, List.cons_append, List.append_assoc, List.singleton_append]

/-- No character is spelled by nothing. -/
theorem length_le_length_quote (text : String) : text.toList.length + 2 ≤ (quote text).length := by
  have hspelled : ∀ cs : List Char, cs.length ≤ (cs.flatMap escape).length := by
    intro cs
    induction cs with
    | nil => exact Nat.le_refl 0
    | cons c cs ih =>
      have hone : 1 ≤ (escape c).length := by
        unfold escape
        repeat' split
        all_goals simp
      rw [List.flatMap_cons, List.length_append, List.length_cons]
      omega
  have := hspelled text.toList
  rw [quote, List.length_cons, List.length_append, List.length_singleton]
  omega

/-! ## Numbers -/

/-- No digit, dot or exponent follows. -/
def EndsNumber (rest : List Char) : Prop :=
  ∀ c ∈ rest.head?, c.isDigit = false ∧ c ≠ '.' ∧ c ≠ 'e' ∧ c ≠ 'E'

/-- A run of digits ends where no digit follows. -/
theorem readDigits_digits (n : Nat) {rest : List Char}
    (hrest : ∀ c ∈ rest.head?, c.isDigit = false) :
    readDigits (Text.digits n ++ rest) = some (Text.digits n, rest) := by
  have hall : ∀ c ∈ Text.digits n, c.isDigit = true := fun c hc => Text.isDigit_of_mem_digits hc
  have hstop : rest.takeWhile Char.isDigit = [] ∧ rest.dropWhile Char.isDigit = rest := by
    cases rest with
    | nil => exact ⟨rfl, rfl⟩
    | cons c cs =>
      have hc : c.isDigit = false := hrest c rfl
      exact ⟨List.takeWhile_cons_of_neg (by simp [hc]), List.dropWhile_cons_of_neg (by simp [hc])⟩
  rw [readDigits, List.takeWhile_append_of_pos hall, List.dropWhile_append_of_pos hall, hstop.1,
    hstop.2, List.append_nil, if_neg (Text.digits_ne_nil n)]

theorem EndsNumber.no_digit {rest : List Char} (h : EndsNumber rest) :
    ∀ c ∈ rest.head?, c.isDigit = false := fun c hc => (h c hc).1

theorem ne_of_isDigit {c d : Char} (hc : c.isDigit = true) (hd : d.isDigit = false) : c ≠ d := by
  rintro rfl
  rw [hc] at hd
  cases hd

theorem readExponent_renderInt (e : Int) {rest : List Char} (hrest : EndsNumber rest) :
    readExponent ('e' :: (renderInt e ++ rest)) = some (e, rest) := by
  unfold readExponent
  dsimp only
  rw [if_pos (Or.inl rfl)]
  cases e with
  | ofNat n =>
    obtain ⟨c, cs, hdigits, hc⟩ := Text.head_digits n
    have hread := readDigits_digits n hrest.no_digit
    rw [renderInt]
    rw [hdigits, List.cons_append] at hread ⊢
    split
    · next heq => exact absurd (List.cons.inj heq).1 (ne_of_isDigit hc (by decide))
    · next heq => exact absurd (List.cons.inj heq).1 (ne_of_isDigit hc (by decide))
    · rw [hread, Option.map_some, ← hdigits, Text.ofDigits_digits]
      rfl
  | negSucc n =>
    rw [renderInt, List.cons_append]
    show Option.map _ (readDigits (Text.digits (n + 1) ++ rest)) = _
    rw [readDigits_digits (n + 1) hrest.no_digit, Option.map_some, Text.ofDigits_digits]
    rfl

theorem readExponent_of_endsNumber {rest : List Char} (hrest : EndsNumber rest) :
    readExponent rest = some (0, rest) := by
  cases rest with
  | nil => rfl
  | cons c cs =>
    obtain ⟨-, -, he, hE⟩ := hrest c rfl
    unfold readExponent
    exact if_neg (not_or.2 ⟨he, hE⟩)

/-- The exponent as it is written behind the digits. -/
def renderExponent (exponent : Int) : List Char :=
  if exponent = 0 then [] else 'e' :: renderInt exponent

theorem readMagnitude_render (n : Nat) (exponent : Int) {rest : List Char}
    (hrest : EndsNumber rest) :
    readMagnitude (Text.digits n ++ (renderExponent exponent ++ rest))
      = some ((n, exponent), rest) := by
  have hbehind : (∀ c ∈ (renderExponent exponent ++ rest).head?, c.isDigit = false ∧ c ≠ '.')
      ∧ readExponent (renderExponent exponent ++ rest) = some (exponent, rest) := by
    unfold renderExponent
    split
    · next hzero =>
      subst hzero
      exact ⟨fun c hc => ⟨(hrest c hc).1, (hrest c hc).2.1⟩, readExponent_of_endsNumber hrest⟩
    · rw [List.cons_append]
      refine ⟨fun c hc => ?_, readExponent_renderInt exponent hrest⟩
      rw [List.head?_cons, Option.mem_some_iff] at hc
      subst hc
      exact ⟨by decide, by decide⟩
  obtain ⟨hhead, hexponent⟩ := hbehind
  generalize renderExponent exponent ++ rest = behind at *
  have hfraction : readFraction behind = some ([], behind) := by
    unfold readFraction
    split
    · exact absurd rfl (hhead '.' rfl).2
    · rfl
  have hzero : ¬ ((Text.digits n).head? = some '0' ∧ (Text.digits n).length ≠ 1) :=
    fun ⟨hfirst, hlong⟩ => hlong (Text.length_digits_of_head?_eq_zero hfirst)
  rw [readMagnitude, readDigits_digits n fun c hc => (hhead c hc).1]
  simp [hzero, hfraction, hexponent, Text.ofDigits_digits]

theorem readNumber_render (mantissa exponent : Int) {rest : List Char} (hrest : EndsNumber rest) :
    readNumber (renderInt mantissa ++ (renderExponent exponent ++ rest))
      = some (.number mantissa exponent, rest) := by
  cases mantissa with
  | ofNat n =>
    obtain ⟨c, cs, hdigits, hc⟩ := Text.head_digits n
    have hread := readMagnitude_render n exponent hrest
    rw [renderInt]
    rw [hdigits, List.cons_append] at hread ⊢
    unfold readNumber
    split
    · next heq => exact absurd (List.cons.inj heq).1 (ne_of_isDigit hc (by decide))
    · rw [hread]
      rfl
  | negSucc n =>
    rw [renderInt, List.cons_append, readNumber, readMagnitude_render (n + 1) exponent hrest]
    rfl

/-! ## Values -/

theorem skipSpace_cons {c : Char} (h : isSpace c = false) (rest : List Char) :
    skipSpace (c :: rest) = c :: rest :=
  List.dropWhile_cons_of_neg (by simp [h])

/-- A number starts with a sign or a digit. -/
theorem head_renderInt (n : Int) :
    ∃ c cs, renderInt n = c :: cs ∧ (c = '-' ∨ c.isDigit = true) := by
  cases n with
  | ofNat n =>
    obtain ⟨c, cs, hcs, hc⟩ := Text.head_digits n
    exact ⟨c, cs, hcs, Or.inr hc⟩
  | negSucc n => exact ⟨'-', _, rfl, Or.inl rfl⟩

/-- The text of a value starts with neither a space nor a closing bracket. -/
theorem head_render (value : Json) :
    ∃ c cs, render value = c :: cs ∧ isSpace c = false ∧ c ≠ ']' := by
  match value with
  | .null => exact ⟨'n', _, rfl, by decide, by decide⟩
  | .bool true => exact ⟨'t', _, rfl, by decide, by decide⟩
  | .bool false => exact ⟨'f', _, rfl, by decide, by decide⟩
  | .string _ => exact ⟨'"', _, rfl, by decide, by decide⟩
  | .array _ => exact ⟨'[', _, rfl, by decide, by decide⟩
  | .object _ => exact ⟨'\x7b', _, rfl, by decide, by decide⟩
  | .number mantissa _ =>
    obtain ⟨c, cs, hcs, hc⟩ := head_renderInt mantissa
    refine ⟨c, _, by rw [render, hcs, List.cons_append], ?_⟩
    rcases hc with rfl | hc
    · exact ⟨by decide, by decide⟩
    · refine ⟨?_, ne_of_isDigit hc (by decide)⟩
      simp [isSpace, ne_of_isDigit hc (d := ' ') (by decide),
        ne_of_isDigit hc (d := '\t') (by decide), ne_of_isDigit hc (d := '\n') (by decide),
        ne_of_isDigit hc (d := '\r') (by decide)]

theorem renderItems_cons_cons (item next : Json) (items : List Json) :
    renderItems (item :: next :: items) = render item ++ ',' :: renderItems (next :: items) := by
  rw [renderItems]
  exact List.cons_ne_nil _ _

theorem renderMembers_cons_cons (name : String) (value : Json) (next : String × Json)
    (members : List (String × Json)) : renderMembers ((name, value) :: next :: members)
      = quote name ++ ':' :: (render value ++ ',' :: renderMembers (next :: members)) := by
  rw [renderMembers]
  exact List.cons_ne_nil _ _

theorem head_renderItems (item : Json) (items : List Json) :
    ∃ c cs, renderItems (item :: items) = c :: cs ∧ isSpace c = false ∧ c ≠ ']' := by
  obtain ⟨c, cs, hcs, hhead⟩ := head_render item
  cases items with
  | nil => exact ⟨c, cs, by rw [renderItems, hcs], hhead⟩
  | cons next items =>
    exact ⟨c, _, by rw [renderItems_cons_cons, hcs, List.cons_append], hhead⟩

theorem head_renderMembers (member : String × Json) (members : List (String × Json)) :
    ∃ cs, renderMembers (member :: members) = '"' :: cs := by
  obtain ⟨name, value⟩ := member
  cases members with
  | nil => exact ⟨_, by rw [renderMembers, quote, List.cons_append]⟩
  | cons next members => exact ⟨_, by rw [renderMembers_cons_cons, quote, List.cons_append]⟩

/-- A number is told from other values by its first character. -/
theorem readValue_number (mantissa exponent : Int) (fuel : Nat) {rest : List Char}
    (hrest : EndsNumber rest) :
    readValue (fuel + 1) (render (.number mantissa exponent) ++ rest)
      = some (.number mantissa exponent, rest) := by
  have hread := readNumber_render mantissa exponent hrest
  have hrender : render (.number mantissa exponent)
      = renderInt mantissa ++ renderExponent exponent := rfl
  obtain ⟨c, cs, hcs, hc⟩ := head_renderInt mantissa
  rw [hrender, List.append_assoc]
  rw [hcs, List.cons_append] at hread ⊢
  have hne : ∀ {d : Char}, d.isDigit = false → '-' ≠ d → c ≠ d := by
    intro d hdigit hminus
    rcases hc with rfl | hc
    · exact hminus
    · exact ne_of_isDigit hc hdigit
  rw [readValue, if_neg (hne rfl (by decide)), if_neg (hne rfl (by decide)),
    if_neg (hne rfl (by decide)), if_neg (hne rfl (by decide)), if_neg (hne rfl (by decide)),
    if_neg (hne rfl (by decide)), hread]

theorem readString_quote (text : String) {fuel : Nat} (rest : List Char)
    (hfuel : (quote text).length < fuel + 1) :
    readString fuel (text.toList.flatMap escape ++ '"' :: rest) = some (text.toList, rest) := by
  have hlength := length_le_length_quote text
  exact readString_flatMap_escape _ rest (by omega)

/-- An object that is not closed at once is read by its members. -/
theorem readValue_members {cs : List Char} (h : ∀ rest, skipSpace cs ≠ '\x7d' :: rest)
    (fuel : Nat) : readValue (fuel + 1) ('\x7b' :: cs)
      = (readMembers fuel (skipSpace cs)).map fun read => (.object read.1, read.2) := by
  rw [readValue, if_neg (by decide), if_neg (by decide), if_pos rfl]
  split
  · next heq => exact absurd heq (h _)
  · rw [Option.map_eq_bind]
    rfl

theorem readValue_object {members : List (String × Json)} {fuel : Nat} {cs rest : List Char}
    (h : readMembers fuel (skipSpace cs) = some (members, rest)) :
    readValue (fuel + 1) ('\x7b' :: cs) = some (.object members, rest) := by
  have hopen : ∀ rest, skipSpace cs ≠ '\x7d' :: rest := by
    intro rest heq
    rw [heq] at h
    cases fuel with
    | zero => cases h
    | succ fuel => cases h
  rw [readValue_members hopen, h, Option.map_some]

theorem endsNumber_of_separator {c : Char} (h : c = ',' ∨ c = ']' ∨ c = '\x7d')
    (rest : List Char) : EndsNumber (c :: rest) := by
  intro d hd
  rw [List.head?_cons, Option.mem_some_iff] at hd
  subst hd
  rcases h with rfl | rfl | rfl
  · decide
  · decide
  · decide

/-- The first member of an object, and what comes behind it. -/
theorem readMembers_cons {name : String} {fuel : Nat} (hfuel : (quote name).length < fuel + 1)
    (start : List Char) :
    readMembers (fuel + 1) (quote name ++ ':' :: start)
      = (readValue fuel (skipSpace start)).bind fun read => match skipSpace read.2 with
        | '\x7d' :: rest => some ([(name, read.1)], rest)
        | ',' :: rest => (readMembers fuel (skipSpace rest)).map fun others =>
          ((name, read.1) :: others.1, others.2)
        | _ => none := by
  rw [quote_append, readMembers, readString_quote name _ hfuel]
  simp only [Option.bind_eq_bind, Option.bind_some, skipSpace_cons (c := ':') (by decide),
    String.ofList_toList, Option.map_eq_bind]
  rfl

theorem readMembers_of_readValue {name : String} {value : Json} {fuel : Nat}
    {start behind : List Char} (hfuel : (quote name).length < fuel + 1)
    (hvalue : readValue fuel (skipSpace start) = some (value, behind)) :
    readMembers (fuel + 1) (quote name ++ ':' :: start)
      = match skipSpace behind with
        | '\x7d' :: rest => some ([(name, value)], rest)
        | ',' :: rest => (readMembers fuel (skipSpace rest)).map fun others =>
          ((name, value) :: others.1, others.2)
        | _ => none := by
  rw [readMembers_cons hfuel, hvalue, Option.bind_some]

theorem readMembers_member {name : String} {value : Json} {fuel : Nat} {behind : List Char}
    (hfuel : (quote name).length < fuel + 1)
    (hvalue : readValue fuel (render value ++ behind) = some (value, behind)) :
    readMembers (fuel + 1) (quote name ++ ':' :: (render value ++ behind))
      = match skipSpace behind with
        | '\x7d' :: rest => some ([(name, value)], rest)
        | ',' :: rest => (readMembers fuel (skipSpace rest)).map fun read =>
          ((name, value) :: read.1, read.2)
        | _ => none := by
  obtain ⟨c, cs, hcs, hspace, -⟩ := head_render value
  refine readMembers_of_readValue hfuel ?_
  rw [hcs, List.cons_append] at hvalue ⊢
  rw [skipSpace_cons hspace, hvalue]

/-- A string as a value, whatever it holds. -/
theorem readValue_string (fuel : Nat) (cs : List Char) :
    readValue (fuel + 1) ('"' :: cs)
      = (readString fuel cs).map fun read => (.string (String.ofList read.1), read.2) := by
  rw [readValue, if_pos rfl, Option.map_eq_bind]
  rfl

theorem readValue_quote (text : String) {fuel : Nat} (rest : List Char)
    (hfuel : (quote text).length < fuel + 1) :
    readValue (fuel + 1) (quote text ++ rest) = some (.string text, rest) := by
  rw [quote_append, readValue_string, readString_quote text rest hfuel, Option.map_some,
    String.ofList_toList]

mutual

/-- A value is read back from its text, whatever follows that is no part of a number. Every
character allows two steps: one into a container, one to its first item. -/
theorem readValue_render (value : Json) (fuel : Nat) (rest : List Char) (hrest : EndsNumber rest)
    (hfuel : 2 * (render value).length ≤ fuel) :
    readValue fuel (render value ++ rest) = some (value, rest) := by
  obtain ⟨fuel, rfl⟩ : ∃ n, fuel = n + 1 := by
    obtain ⟨c, cs, hcs, -⟩ := head_render value
    rw [hcs, List.length_cons] at hfuel
    exact Nat.exists_eq_add_one_of_ne_zero (by omega)
  match value with
  | .null => rfl
  | .bool true => rfl
  | .bool false => rfl
  | .number mantissa exponent => exact readValue_number mantissa exponent fuel hrest
  | .string text =>
    rw [render] at hfuel ⊢
    exact readValue_quote text rest (by omega)
  | .array items =>
    rw [render, List.length_cons, List.length_append, List.length_singleton] at hfuel
    rw [render, List.cons_append, List.append_assoc, List.singleton_append, readValue]
    cases items with
    | nil => rfl
    | cons item items =>
      have hread := readItems_render (item :: items) fuel rest (List.cons_ne_nil _ _) (by omega)
      obtain ⟨c, cs, hcs, hspace, hclose⟩ := head_renderItems item items
      rw [hcs, List.cons_append] at hread ⊢
      rw [if_neg (by decide), if_pos rfl, skipSpace_cons hspace]
      split
      · next heq => exact absurd (List.cons.inj heq).1 hclose
      · rw [hread]
        rfl
  | .object members =>
    rw [render, List.length_cons, List.length_append, List.length_singleton] at hfuel
    rw [render, List.cons_append, List.append_assoc, List.singleton_append]
    cases members with
    | nil => rfl
    | cons member members =>
      have hread := readMembers_render (member :: members) fuel rest (List.cons_ne_nil _ _)
        (by omega)
      obtain ⟨cs, hcs⟩ := head_renderMembers member members
      refine readValue_object ?_
      rw [hcs, List.cons_append] at hread ⊢
      rw [skipSpace_cons (by decide), hread]

theorem readItems_render (items : List Json) (fuel : Nat) (rest : List Char) (hne : items ≠ [])
    (hfuel : 2 * (renderItems items).length < fuel) :
    readItems fuel (renderItems items ++ ']' :: rest) = some (items, rest) := by
  obtain ⟨fuel, rfl⟩ : ∃ n, fuel = n + 1 := Nat.exists_eq_add_one_of_ne_zero (by omega)
  match items with
  | [] => exact absurd rfl hne
  | [item] =>
    rw [renderItems] at hfuel ⊢
    rw [readItems, readValue_render item fuel _ (endsNumber_of_separator (by simp) rest) (by omega)]
    rfl
  | item :: next :: items =>
    rw [renderItems_cons_cons, List.length_append, List.length_cons] at hfuel
    rw [renderItems_cons_cons, List.append_assoc, List.cons_append, readItems,
      readValue_render item fuel _ (endsNumber_of_separator (by simp) _) (by omega)]
    have hread := readItems_render (next :: items) fuel rest (List.cons_ne_nil _ _) (by omega)
    obtain ⟨c, cs, hcs, hspace, -⟩ := head_renderItems next items
    rw [hcs, List.cons_append] at hread ⊢
    simp only [Option.bind_eq_bind, Option.bind_some, skipSpace_cons (c := ',') (by decide),
      skipSpace_cons hspace, hread]
    rfl

theorem readMembers_render (members : List (String × Json)) (fuel : Nat) (rest : List Char)
    (hne : members ≠ []) (hfuel : 2 * (renderMembers members).length < fuel) :
    readMembers fuel (renderMembers members ++ '\x7d' :: rest) = some (members, rest) := by
  obtain ⟨fuel, rfl⟩ : ∃ n, fuel = n + 1 := Nat.exists_eq_add_one_of_ne_zero (by omega)
  match members with
  | [] => exact absurd rfl hne
  | [(name, value)] =>
    rw [renderMembers, List.length_append, List.length_cons] at hfuel
    have hvalue := readValue_render value fuel ('\x7d' :: rest)
      (endsNumber_of_separator (by simp) rest) (by omega)
    rw [renderMembers, List.append_assoc, List.cons_append, readMembers_member (by omega) hvalue]
    rfl
  | (name, value) :: next :: members =>
    rw [renderMembers_cons_cons, List.length_append, List.length_cons, List.length_append,
      List.length_cons] at hfuel
    have hvalue := readValue_render value fuel
      (',' :: (renderMembers (next :: members) ++ '\x7d' :: rest))
      (endsNumber_of_separator (by simp) _) (by omega)
    have hread := readMembers_render (next :: members) fuel rest (List.cons_ne_nil _ _) (by omega)
    obtain ⟨cs, hcs⟩ := head_renderMembers next members
    rw [renderMembers_cons_cons, List.append_assoc, List.cons_append, List.append_assoc,
      List.cons_append, readMembers_member (by omega) hvalue]
    rw [hcs, List.cons_append] at hread ⊢
    rw [skipSpace_cons (c := ',') (by decide)]
    show Option.map _ (readMembers fuel (skipSpace ('"' :: (cs ++ '\x7d' :: rest)))) = _
    rw [skipSpace_cons (by decide), hread]
    rfl

end

/-- Reading a compact text gives back the value it was made from. -/
theorem read?_compact (value : Json) : read? value.compact = some value := by
  obtain ⟨c, cs, hcs, hspace, -⟩ := head_render value
  have hread := readValue_render value (2 * (render value).length + 2) []
    (fun _ h => nomatch h) (by omega)
  have htext : value.compact.toList = render value := String.toList_ofList
  rw [List.append_nil] at hread
  rw [read?, htext]
  have hstart : skipSpace (render value) = render value := by rw [hcs, skipSpace_cons hspace]
  simp only [hstart, hread]
  rfl

end Json

end CommandTelemetry
