import CommandTelemetry.Proofs.Text.Utf8Theorems

/-!
# Reading UTF-8

Strict reading accepts exactly the bytes that are the UTF-8 form of a text, and gives that text.

* `Utf8.readChar_encodeChar` and `Utf8.encodeChar_of_readChar` say so of one character: it is read
  from its bytes whatever follows them, and whatever is read as a character is its bytes;
* `Utf8.decode?_eq_some_iff` says so of a text.
-/

namespace CommandTelemetry

namespace Utf8

private theorem val_ofNat {n : Nat} (h : n.isValidChar) : (Char.ofNat n).val.toNat = n := by
  rw [Char.ofNat, dif_pos h]
  rfl

private theorem toNat_ofNat {n : Nat} (h : n < 256) : (UInt8.ofNat n).toNat = n :=
  Nat.mod_eq_of_lt h

private theorem ofNat_eq {n : Nat} {b : UInt8} (h : n = b.toNat) : UInt8.ofNat n = b := by
  rw [h, UInt8.ofNat_toNat]

/-! ## First bytes

A first byte promises one, two or three following bytes. The range of the first of them keeps out
numbers that have a shorter form, and numbers of no character. -/

theorem lead?_cases {b : Nat} {lead : Lead} (h : lead? b = some lead) :
    lead.tail = 1 ∧ b = lead.payload + 0xC0 ∧ 2 ≤ lead.payload ∧ lead.payload < 0x20
        ∧ lead.low = 0x80 ∧ lead.high = 0xBF
      ∨ lead.tail = 2 ∧ b = lead.payload + 0xE0 ∧ lead.payload < 0x10
        ∧ 0x80 ≤ lead.low ∧ lead.high ≤ 0xBF
        ∧ (lead.payload = 0 → 0xA0 ≤ lead.low) ∧ (lead.payload = 13 → lead.high ≤ 0x9F)
      ∨ lead.tail = 3 ∧ b = lead.payload + 0xF0 ∧ lead.payload ≤ 4
        ∧ 0x80 ≤ lead.low ∧ lead.high ≤ 0xBF
        ∧ (lead.payload = 0 → 0x90 ≤ lead.low) ∧ (lead.payload = 4 → lead.high ≤ 0x8F) := by
  unfold lead? at h
  repeat' split at h
  all_goals simp only [Option.some.injEq, reduceCtorEq] at h
  all_goals subst h; dsimp only; omega

private theorem lead?_of_two {n : Nat} (h : 0x7F < n) (h' : n ≤ 0x7FF) :
    lead? (n / 64 + 192) = some ⟨n / 64, 1, 0x80, 0xBF⟩ := by
  rw [lead?, if_pos (by omega), Nat.add_sub_cancel]

private theorem lead?_of_three {n : Nat} (h : 0x7FF < n) (h' : n ≤ 0xFFFF)
    (hvalid : n < 0xD800 ∨ 0xDFFF < n) :
    ∃ low high, lead? (n / 4096 + 224) = some ⟨n / 4096, 2, low, high⟩
      ∧ low ≤ n / 64 % 64 + 128 ∧ n / 64 % 64 + 128 ≤ high := by
  unfold lead?
  rw [if_neg (by omega)]
  split
  · exact ⟨_, _, by rw [show n / 4096 = 0 by omega], by omega, by omega⟩
  split
  · exact ⟨_, _, by rw [show n / 4096 = 13 by omega], by omega, by omega⟩
  · rw [if_pos (by omega), Nat.add_sub_cancel]
    exact ⟨_, _, rfl, by omega, by omega⟩

private theorem lead?_of_four {n : Nat} (h : 0xFFFF < n) (h' : n < 0x110000) :
    ∃ low high, lead? (n / 262144 + 240) = some ⟨n / 262144, 3, low, high⟩
      ∧ low ≤ n / 4096 % 64 + 128 ∧ n / 4096 % 64 + 128 ≤ high := by
  unfold lead?
  rw [if_neg (by omega), if_neg (by omega), if_neg (by omega), if_neg (by omega)]
  split
  · exact ⟨_, _, by rw [show n / 262144 = 0 by omega], by omega, by omega⟩
  split
  · rw [Nat.add_sub_cancel]
    exact ⟨_, _, rfl, by omega, by omega⟩
  · rw [if_pos (by omega)]
    exact ⟨_, _, by rw [show n / 262144 = 4 by omega], by omega, by omega⟩

/-! ## Following bytes -/

/-- A following byte within its range adds six bits. -/
theorem readTail_cons {acc low high n : Nat} {b : UInt8} {rest : Bytes}
    (hlow : low ≤ b.toNat) (hhigh : b.toNat ≤ high) :
    readTail acc low high (n + 1) (b :: rest)
      = ((readTail (acc * 64 + (b.toNat - 0x80)) 0x80 0xBF n rest).1,
          (readTail (acc * 64 + (b.toNat - 0x80)) 0x80 0xBF n rest).2 + 1) := by
  rw [readTail, if_pos ⟨hlow, hhigh⟩]

/-- A number is read only from a following byte within its range. -/
theorem exists_of_readTail {acc low high n number used : Nat} {bytes : Bytes}
    (h : readTail acc low high (n + 1) bytes = (some number, used)) :
    ∃ b rest left, bytes = b :: rest ∧ used = left + 1 ∧ low ≤ b.toNat ∧ b.toNat ≤ high
      ∧ readTail (acc * 64 + (b.toNat - 0x80)) 0x80 0xBF n rest = (some number, left) := by
  cases bytes with
  | nil => simp [readTail] at h
  | cons b rest =>
    by_cases hb : low ≤ b.toNat ∧ b.toNat ≤ high
    · rw [readTail_cons hb.1 hb.2, Prod.mk.injEq] at h
      exact ⟨b, rest, _, rfl, h.2.symm, hb.1, hb.2, Prod.ext h.1 rfl⟩
    · simp [readTail, hb] at h

/-! ## One character -/

/-- A character is read from its bytes, whatever follows them. -/
theorem readChar_encodeChar (c : Char) (rest : Bytes) :
    ∃ first tail, String.utf8EncodeChar c = first :: tail
      ∧ readChar first (tail ++ rest) = (some c, tail.length) := by
  have hvalid : c.val.toNat < 0xD800 ∨ 0xDFFF < c.val.toNat ∧ c.val.toNat < 0x110000 := c.valid
  have hback : Char.ofNat c.val.toNat = c := Char.ofNat_toNat c
  unfold String.utf8EncodeChar
  dsimp only
  generalize c.val.toNat = n at *
  -- by the number of bytes; the bytes are the digits of the number to base 64
  split
  · refine ⟨_, [], rfl, ?_⟩
    rw [readChar, toNat_ofNat (by omega), if_pos (by omega), hback]
    rfl
  split
  · refine ⟨_, _, rfl, ?_⟩
    have hfirst : (UInt8.ofNat (n / 64 % 32 + 192)).toNat = n / 64 + 192 := by
      rw [toNat_ofNat (by omega)]; omega
    have hb : (UInt8.ofNat (n % 64 + 128)).toNat = n % 64 + 128 := toNat_ofNat (by omega)
    have hnumber : n / 64 * 64 + (n % 64 + 128 - 128) = n := by omega
    rw [readChar, hfirst, if_neg (by omega), lead?_of_two (by omega) (by omega)]
    dsimp only [List.cons_append, List.nil_append]
    rw [readTail_cons (by omega) (by omega), hb, hnumber, readTail, Option.map_some, hback]
    rfl
  split
  · refine ⟨_, _, rfl, ?_⟩
    have hfirst : (UInt8.ofNat (n / 4096 % 16 + 224)).toNat = n / 4096 + 224 := by
      rw [toNat_ofNat (by omega)]; omega
    have hb : (UInt8.ofNat (n / 64 % 64 + 128)).toNat = n / 64 % 64 + 128 :=
      toNat_ofNat (by omega)
    have hb' : (UInt8.ofNat (n % 64 + 128)).toNat = n % 64 + 128 := toNat_ofNat (by omega)
    have hnumber : (n / 4096 * 64 + (n / 64 % 64 + 128 - 128)) * 64 + (n % 64 + 128 - 128) = n := by
      omega
    obtain ⟨low, high, hlead, hlow, hhigh⟩ :=
      lead?_of_three (n := n) (by omega) (by omega) (by omega)
    rw [readChar, hfirst, if_neg (by omega), hlead]
    dsimp only [List.cons_append, List.nil_append]
    rw [readTail_cons (by omega) (by omega), hb, readTail_cons (by omega) (by omega), hb', hnumber,
      readTail, Option.map_some, hback]
    rfl
  · refine ⟨_, _, rfl, ?_⟩
    have hfirst : (UInt8.ofNat (n / 262144 % 8 + 240)).toNat = n / 262144 + 240 := by
      rw [toNat_ofNat (by omega)]; omega
    have hb : (UInt8.ofNat (n / 4096 % 64 + 128)).toNat = n / 4096 % 64 + 128 :=
      toNat_ofNat (by omega)
    have hb' : (UInt8.ofNat (n / 64 % 64 + 128)).toNat = n / 64 % 64 + 128 :=
      toNat_ofNat (by omega)
    have hb'' : (UInt8.ofNat (n % 64 + 128)).toNat = n % 64 + 128 := toNat_ofNat (by omega)
    have hnumber : ((n / 262144 * 64 + (n / 4096 % 64 + 128 - 128)) * 64
        + (n / 64 % 64 + 128 - 128)) * 64 + (n % 64 + 128 - 128) = n := by
      omega
    obtain ⟨low, high, hlead, hlow, hhigh⟩ := lead?_of_four (n := n) (by omega) (by omega)
    rw [readChar, hfirst, if_neg (by omega), hlead]
    dsimp only [List.cons_append, List.nil_append]
    rw [readTail_cons (by omega) (by omega), hb, readTail_cons (by omega) (by omega), hb',
      readTail_cons (by omega) (by omega), hb'', hnumber, readTail, Option.map_some, hback]
    rfl

/-- What is read as a character is that character's bytes. -/
theorem encodeChar_of_readChar {first : UInt8} {rest : Bytes} {c : Char} {used : Nat}
    (h : readChar first rest = (some c, used)) :
    String.utf8EncodeChar c = first :: rest.take used := by
  unfold readChar at h
  split at h
  · simp only [Prod.mk.injEq, Option.some.injEq] at h
    obtain ⟨rfl, rfl⟩ := h
    unfold String.utf8EncodeChar
    rw [val_ofNat (by left; omega)]
    dsimp only
    rw [if_pos (by omega), UInt8.ofNat_toNat, List.take_zero]
  split at h
  · simp at h
  next lead hlead =>
  have hread : ∃ n, readTail lead.payload lead.low lead.high lead.tail rest = (some n, used)
      ∧ Char.ofNat n = c := by
    simp only [Prod.mk.injEq, Option.map_eq_some_iff] at h
    obtain ⟨⟨n, hnumber, hc⟩, hused⟩ := h
    exact ⟨n, Prod.ext hnumber hused, hc⟩
  obtain ⟨n, hread, rfl⟩ := hread
  unfold String.utf8EncodeChar
  -- by the number of following bytes; the ranges tell that no form is shorter
  rcases lead?_cases hlead with ⟨htail, hfirst, hbounds⟩ | ⟨htail, hfirst, hbounds⟩
    | ⟨htail, hfirst, hbounds⟩
  · rw [htail] at hread
    obtain ⟨b, rest, left, rfl, rfl, hb, hb', hread⟩ := exists_of_readTail hread
    simp only [readTail, Prod.mk.injEq, Option.some.injEq] at hread
    obtain ⟨hn, rfl⟩ := hread
    rw [val_ofNat (by left; omega)]
    dsimp only
    rw [if_neg (by omega), if_pos (by omega), ofNat_eq (b := first) (by omega),
      ofNat_eq (b := b) (by omega)]
    simp
  · rw [htail] at hread
    obtain ⟨b, rest, left, rfl, rfl, hb, hb', hread⟩ := exists_of_readTail hread
    obtain ⟨d, rest, left, rfl, rfl, hd, hd', hread⟩ := exists_of_readTail hread
    simp only [readTail, Prod.mk.injEq, Option.some.injEq] at hread
    obtain ⟨hn, rfl⟩ := hread
    have hvalid : n < 0xD800 ∨ 0xDFFF < n ∧ n < 0x110000 := by omega
    rw [val_ofNat hvalid]
    dsimp only
    rw [if_neg (by omega), if_neg (by omega), if_pos (by omega), ofNat_eq (b := first) (by omega),
      ofNat_eq (b := b) (by omega), ofNat_eq (b := d) (by omega)]
    simp
  · rw [htail] at hread
    obtain ⟨b, rest, left, rfl, rfl, hb, hb', hread⟩ := exists_of_readTail hread
    obtain ⟨d, rest, left, rfl, rfl, hd, hd', hread⟩ := exists_of_readTail hread
    obtain ⟨e, rest, left, rfl, rfl, he, he', hread⟩ := exists_of_readTail hread
    simp only [readTail, Prod.mk.injEq, Option.some.injEq] at hread
    obtain ⟨hn, rfl⟩ := hread
    have hvalid : n < 0xD800 ∨ 0xDFFF < n ∧ n < 0x110000 := by omega
    rw [val_ofNat hvalid]
    dsimp only
    rw [if_neg (by omega), if_neg (by omega), if_neg (by omega), ofNat_eq (b := first) (by omega),
      ofNat_eq (b := b) (by omega), ofNat_eq (b := d) (by omega), ofNat_eq (b := e) (by omega)]
    simp

/-! ## Texts -/

theorem readAll_encodeChar (c : Char) (rest : Bytes) :
    readAll (String.utf8EncodeChar c ++ rest) = some c :: readAll rest := by
  obtain ⟨first, tail, hbytes, hread⟩ := readChar_encodeChar c rest
  rw [hbytes, List.cons_append, readAll, hread, List.drop_left]

/-- The bytes that spell characters, none of them broken, are the bytes of these characters. -/
theorem readAll_eq_map_some_iff {bytes : Bytes} {cs : List Char} :
    readAll bytes = cs.map some ↔ bytes = cs.flatMap String.utf8EncodeChar := by
  induction cs generalizing bytes with
  | nil => cases bytes <;> simp [readAll]
  | cons c cs ih =>
    rw [List.map_cons, List.flatMap_cons]
    constructor
    · intro h
      cases bytes with
      | nil => simp [readAll] at h
      | cons first rest =>
        rw [readAll, List.cons.injEq] at h
        have hchar := encodeChar_of_readChar (Prod.ext h.1 rfl)
        rw [hchar, ← ih.1 h.2, List.cons_append, List.take_append_drop]
    · rintro rfl
      rw [readAll_encodeChar, ih.2 rfl]

private theorem mapM_id_eq_some_iff {read : List (Option Char)} {cs : List Char} :
    read.mapM id = some cs ↔ read = cs.map some := by
  induction read generalizing cs with
  | nil => cases cs <;> simp
  | cons c read ih =>
    cases c with
    | none => cases cs <;> simp
    | some c =>
      cases cs with
      | nil => simp [Option.bind_eq_some_iff]
      | cons d cs =>
        simp only [List.mapM_cons, id, Option.bind_eq_bind, Option.bind_some,
          Option.bind_eq_some_iff, ih, Option.pure_def, Option.some.injEq, List.cons.injEq,
          List.map_cons]
        constructor
        · rintro ⟨_, hread, rfl, rfl⟩
          exact ⟨rfl, hread⟩
        · rintro ⟨rfl, hread⟩
          exact ⟨cs, hread, rfl, rfl⟩

/-- Strict reading gives a text exactly for the UTF-8 form of that text. -/
theorem decode?_eq_some_iff {bytes : Bytes} {text : String} :
    decode? bytes = some text ↔ bytes = encode text := by
  rw [encode_eq, ← readAll_eq_map_some_iff, ← mapM_id_eq_some_iff, decode?,
    Option.map_eq_some_iff]
  constructor
  · rintro ⟨cs, hcs, rfl⟩
    rw [hcs, String.toList_ofList]
  · intro h
    exact ⟨_, h, String.ofList_toList⟩

@[simp]
theorem decode?_encode (text : String) : decode? (encode text) = some text :=
  decode?_eq_some_iff.2 rfl

/-- Reading with replacement finds nothing to replace in the UTF-8 form of a text. -/
@[simp]
theorem decodeLossy_encode (text : String) : decodeLossy (encode text) = text := by
  have hread : readAll (encode text) = text.toList.map some :=
    readAll_eq_map_some_iff.2 (encode_eq text)
  rw [decodeLossy, hread, List.map_map]
  simp [Function.comp_def]

end Utf8

end CommandTelemetry
