import Mathlib.Data.List.Basic
import NetAtlas.Text.Lines
import NetAtlas.Text.Utf8

/-!
ASCII texts in files: their bytes are read back as the same text, and so are their line ends if
there is no carriage return.
-/

namespace NetAtlas.Text

/-- Each character takes a single byte. -/
def Ascii (cs : List Char) : Prop := ∀ c ∈ cs, c.toNat < 0x80

theorem toList_loop (bs : ByteArray) (i : Nat) (read : List UInt8) :
    ByteArray.toList.loop bs i read = read.reverse ++ bs.data.toList.drop i := by
  induction i, read using ByteArray.toList.loop.induct bs with
  | case1 i read hlt ih =>
    have hi : i < bs.data.toList.length := by simpa using hlt
    have hget : bs.get! i = bs.data.toList[i] := by
      rw [ByteArray.get!]
      simp [getElem!_def, Array.getElem?_eq_getElem (show i < bs.data.size by simpa using hlt)]
    rw [ByteArray.toList.loop, if_pos hlt, ih, List.drop_eq_getElem_cons hi, hget]
    simp
  | case2 i read hge =>
    have hi : bs.data.toList.length ≤ i := by simpa using hge
    rw [ByteArray.toList.loop, if_neg hge, List.drop_eq_nil_of_le hi, List.append_nil]

/-- The bytes of a text are those of its characters in turn. -/
theorem toUTF8_toList (s : String) : s.toUTF8.toList = s.toList.flatMap String.utf8EncodeChar := by
  have hbytes : s.toUTF8 = (s.toList.flatMap String.utf8EncodeChar).toByteArray := by
    conv_lhs => rw [← s.ofList_toList]
    exact String.toByteArray_ofList
  rw [hbytes, ByteArray.toList, toList_loop, List.toList_data_toByteArray]
  rfl

theorem utf8EncodeChar_of_ascii {c : Char} (hc : c.toNat < 0x80) :
    String.utf8EncodeChar c = [UInt8.ofNat c.toNat] := by
  have hle : c.val.toNat ≤ 127 := Nat.le_of_lt_succ hc
  simp only [String.utf8EncodeChar, if_pos hle]
  rfl

namespace Utf8

theorem step_of_ascii {c : Char} (hc : c.toNat < 0x80) :
    step none (UInt8.ofNat c.toNat) = ([c], none) := by
  have hbyte : (UInt8.ofNat c.toNat).toNat = c.toNat :=
    UInt8.toNat_ofNat_of_lt' (Nat.lt_trans hc (by decide))
  simp only [step, Lead.ofByte, hbyte, if_pos hc, Char.ofNat_toNat]

theorem decodeFrom_of_ascii {cs : List Char} (hcs : Ascii cs) :
    decodeFrom none (cs.flatMap String.utf8EncodeChar) = cs := by
  induction cs with
  | nil => rfl
  | cons c cs ih =>
    have hc : c.toNat < 0x80 := hcs c List.mem_cons_self
    have hrest : Ascii cs := fun d hd => hcs d (List.mem_cons_of_mem _ hd)
    rw [List.flatMap_cons, utf8EncodeChar_of_ascii hc, List.singleton_append, decodeFrom,
      step_of_ascii hc]
    exact congrArg (c :: ·) (ih hrest)

theorem decode_toUTF8 {s : String} (hs : Ascii s.toList) : decode s.toUTF8.toList = s := by
  rw [decode, toUTF8_toList, decodeFrom_of_ascii hs, String.ofList_toList]

end Utf8

theorem unixLines_eq_self {cs : List Char} (hcs : '\r' ∉ cs) : unixLines cs = cs := by
  induction cs using unixLines.induct with
  | case1 => rfl
  | case2 cs _ => simp at hcs
  | case3 cs _ _ => simp at hcs
  | case4 c cs _ hc ih =>
    rw [unixLines, ih (fun hmem => hcs (List.mem_cons_of_mem _ hmem))]
    · intro tail heq _
      exact hcs (heq ▸ List.mem_cons_self)
    · exact fun heq => hcs (heq ▸ List.mem_cons_self)

end NetAtlas.Text
