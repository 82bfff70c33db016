import CommandTelemetry.Text.Utf8

/-!
# Texts and their bytes in order

Texts are compared character by character. Their UTF-8 forms, compared byte by byte, are in the same
order.

* `Utf8.encodeChar_lt` says so of two characters, whatever follows them;
* `Utf8.encode_lt_encode` says so of texts.
-/

namespace CommandTelemetry

namespace Utf8

/-! ## The bytes of a text -/

private theorem toList_loop_eq (bytes : ByteArray) (place : Nat) (before : List UInt8) :
    ByteArray.toList.loop bytes place before = before.reverse ++ bytes.data.toList.drop place := by
  fun_induction ByteArray.toList.loop bytes place before with
  | case1 place before hlt ih =>
    have hplace : place < bytes.data.toList.length := by simpa using hlt
    have hget : bytes.get! place = bytes.data.toList[place] := by
      simp only [ByteArray.get!, Array.getElem_toList]
      exact getElem!_pos bytes.data place (by simpa using hlt)
    rw [ih, List.drop_eq_getElem_cons hplace, hget, List.reverse_cons, List.append_assoc,
      List.singleton_append]
  | case2 place before hge =>
    have hplace : bytes.data.toList.length ≤ place := by simpa using hge
    rw [List.drop_eq_nil_of_le hplace, List.append_nil]

/-- A text is encoded character by character. -/
theorem encode_eq (text : String) : encode text = text.toList.flatMap String.utf8EncodeChar := by
  have hbytes : text.toUTF8 = (text.toList.flatMap String.utf8EncodeChar).toByteArray :=
    String.utf8Encode_toList.symm
  rw [encode, hbytes, ByteArray.toList, toList_loop_eq, List.toList_data_toByteArray]
  rfl

/-! ## The order of the bytes -/

/-- A smaller character has smaller bytes, whatever follows either of them. -/
theorem encodeChar_lt {c d : Char} (h : c < d) (rest rest' : Bytes) :
    String.utf8EncodeChar c ++ rest < String.utf8EncodeChar d ++ rest' := by
  have hlt : c.val.toNat < d.val.toNat := h
  have hmax : d.val.toNat < 0x110000 := by
    rcases d.valid with hlow | ⟨-, hhigh⟩
    · exact Nat.lt_trans hlow (by decide)
    · exact hhigh
  -- the length of a character grows with it, and of the bytes that differ first the earlier decides
  unfold String.utf8EncodeChar
  dsimp only
  repeat' split
  all_goals
    simp only [List.cons_append, List.nil_append, List.cons_lt_cons_iff, UInt8.lt_iff_toNat_lt,
      ← UInt8.toNat_inj, UInt8.toNat_ofNat']
    simp (disch := omega) only [Nat.mod_eq_of_lt]
    omega

theorem flatMap_encodeChar_lt {cs ds : List Char} (h : cs < ds) :
    cs.flatMap String.utf8EncodeChar < ds.flatMap String.utf8EncodeChar := by
  induction cs generalizing ds with
  | nil =>
    cases ds with
    | nil => exact absurd h (List.lt_irrefl _)
    | cons d ds =>
      -- no character is encoded as nothing
      obtain ⟨b, bs, hbytes⟩ := List.exists_cons_of_ne_nil (String.utf8EncodeChar_ne_nil (c := d))
      rw [List.flatMap_nil, List.flatMap_cons, hbytes, List.cons_append]
      exact List.nil_lt_cons _ _
  | cons c cs ih =>
    cases ds with
    | nil => exact absurd h (List.not_lt_nil _)
    | cons d ds =>
      rw [List.flatMap_cons, List.flatMap_cons]
      rcases List.cons_lt_cons_iff.1 h with hlt | ⟨rfl, hlt⟩
      · exact encodeChar_lt hlt _ _
      · exact List.append_left_lt (ih hlt)

/-- Of two texts the one that comes first has the bytes that come first. -/
theorem encode_lt_encode {text other : String} (h : text < other) : encode text < encode other := by
  rw [encode_eq, encode_eq]
  exact flatMap_encodeChar_lt (String.lt_iff.1 h)

end Utf8

end CommandTelemetry
