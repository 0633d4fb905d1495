/-
# SensorGateway.Proofs.Text.Bytes -- the order of texts is the order of their bytes

Texts are compared character by character, and everything outside compares them byte by byte:
a column of a database, a sorted map. The two agree (`Utf8.encode_lt_encode`), because of two
characters the greater one has the greater bytes, whatever stands behind them
(`Utf8.utf8EncodeChar_append_lt`). That covers characters with different numbers of bytes: the
first byte of a longer sequence is the greater one.
-/
import SensorGateway.Text.Utf8

namespace SensorGateway.Text.Utf8

/-! ## The bytes of a text -/

theorem toList_loop (bytes : ByteArray) (i : Nat) (read : List UInt8) :
    ByteArray.toList.loop bytes i read = read.reverse ++ bytes.data.toList.drop i := by
  fun_induction ByteArray.toList.loop bytes i read with
  | case1 i read hi ih =>
    have hlength : i < bytes.data.toList.length := hi
    have hget : bytes.data.toList[i] = bytes.get! i := (getElem!_pos bytes.data i hi).symm
    rw [ih, List.drop_eq_getElem_cons hlength, hget, List.reverse_cons, List.append_assoc]
    rfl
  | case2 i read hi => rw [List.drop_eq_nil_of_le (Nat.le_of_not_lt hi), List.append_nil]

/-- The bytes of a text are the bytes of its characters, one after the other. -/
theorem encode_eq_flatMap (s : String) : encode s = s.toList.flatMap String.utf8EncodeChar := by
  have hbytes : s.toUTF8.data.toList = s.toList.flatMap String.utf8EncodeChar := by
    rw [String.toUTF8_eq_toByteArray, ← String.utf8Encode_toList, List.utf8Encode,
      List.toList_data_toByteArray]
  rw [encode, ByteArray.toList, toList_loop, hbytes]
  rfl

/-! ## Order -/

/-- Of two sequences of bytes the smaller one has the smaller first byte, or the same and the
smaller rest. -/
theorem ofNat_cons_lt {m n : Nat} {xs ys : List UInt8} (hm : m < 256) (hn : n < 256) (hle : m ≤ n)
    (h : m = n → xs < ys) : UInt8.ofNat m :: xs < UInt8.ofNat n :: ys := by
  rw [List.cons_lt_cons_iff]
  rcases Nat.lt_or_eq_of_le hle with hlt | heq
  · exact .inl ((UInt8.ofNat_lt_iff_lt hm hn).mpr hlt)
  · exact .inr ⟨by rw [heq], h heq⟩

/-- The greater character has the greater bytes, whatever follows. -/
theorem utf8EncodeChar_append_lt {c d : Char} (h : c < d) (xs ys : List UInt8) :
    String.utf8EncodeChar c ++ xs < String.utf8EncodeChar d ++ ys := by
  have hlt : c.val.toNat < d.val.toNat := h
  have hsize : d.val.toNat < 0x110000 := by
    rcases d.valid with hd | hd
    · exact Nat.lt_trans hd (by decide)
    · exact hd.2
  unfold String.utf8EncodeChar
  generalize c.val.toNat = m at hlt
  generalize d.val.toNat = n at hlt hsize
  dsimp only
  repeat' split
  all_goals simp only [List.cons_append, List.nil_append]
  -- a sequence of more bytes has the greater first byte, so only the same lengths go on
  all_goals try exact ofNat_cons_lt (by omega) (by omega) (by omega) fun _ => by omega
  · exact ofNat_cons_lt (by omega) (by omega) (by omega) fun _ =>
      ofNat_cons_lt (by omega) (by omega) (by omega) fun _ => by omega
  · exact ofNat_cons_lt (by omega) (by omega) (by omega) fun _ =>
      ofNat_cons_lt (by omega) (by omega) (by omega) fun _ =>
        ofNat_cons_lt (by omega) (by omega) (by omega) fun _ => by omega
  · exact ofNat_cons_lt (by omega) (by omega) (by omega) fun _ =>
      ofNat_cons_lt (by omega) (by omega) (by omega) fun _ =>
        ofNat_cons_lt (by omega) (by omega) (by omega) fun _ =>
          ofNat_cons_lt (by omega) (by omega) (by omega) fun _ => by omega

theorem flatMap_utf8EncodeChar_lt {cs ds : List Char} (h : cs < ds) :
    cs.flatMap String.utf8EncodeChar < ds.flatMap String.utf8EncodeChar := by
  induction cs generalizing ds with
  | nil =>
    cases ds with
    | nil => exact absurd h (List.lt_irrefl _)
    | cons d ds =>
      have hd : String.utf8EncodeChar d ≠ [] := String.utf8EncodeChar_ne_nil
      obtain ⟨b, bytes, hbytes⟩ := List.exists_cons_of_ne_nil hd
      rw [List.flatMap_cons, hbytes]
      exact List.nil_lt_cons _ _
  | cons c cs ih =>
    cases ds with
    | nil => exact absurd h (List.not_lt_nil _)
    | cons d ds =>
      rw [List.flatMap_cons, List.flatMap_cons]
      rcases List.cons_lt_cons_iff.mp h with hcd | ⟨rfl, hrest⟩
      · exact utf8EncodeChar_append_lt hcd _ _
      · exact List.append_left_lt (ih hrest)

/-- **Texts are ordered as their bytes are.** -/
theorem encode_lt_encode {a b : String} : encode a < encode b ↔ a < b := by
  have hlt {a b : String} (h : a < b) : encode a < encode b := by
    rw [encode_eq_flatMap, encode_eq_flatMap]
    exact flatMap_utf8EncodeChar_lt h
  refine ⟨fun h => Decidable.byContradiction fun hnot => ?_, hlt⟩
  by_cases heq : a = b
  · exact List.lt_irrefl _ (heq ▸ h)
  · exact List.lt_asymm h (hlt (Std.lt_of_le_of_ne hnot (Ne.symm heq)))

end SensorGateway.Text.Utf8
