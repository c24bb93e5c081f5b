/-
  FixedCapacity.Proofs.Error.Path — the base name is what stands behind the last slash.

  The search for a separator runs over bytes, and a path is characters. The two agree because a byte that
  is a separator is a whole character (`isSlash_of_isSeparator`): the bytes behind the last separator are
  those of the characters behind the last slash (`nameBytes_of_parted`). So the cut falls between two
  characters (`isValid_cut`), the name decodes, and the path is never returned for want of one
  (`baseName_of_parted`).

  Every path is parted behind its last slash (`exists_parted`), the name of a path that is parted so is its
  base name, and what else is said of base names comes from the two parts.
-/

import FixedCapacity.Error.Path
import FixedCapacity.Proofs.Text.Form

namespace FixedCapacity.Text

theorem bytes_append (s t : String) : bytes (s ++ t) = bytes s ++ bytes t := by
  unfold bytes encode
  rw [String.toList_append, List.flatMap_append]

theorem length_bytes (s : String) : (bytes s).length = s.utf8ByteSize := by
  have hsize : (String.ofList s.toList).utf8ByteSize = s.toList.utf8Encode.size := by
    rw [String.utf8ByteSize, String.toByteArray_ofList]
  rw [String.ofList_toList] at hsize
  rw [hsize, List.utf8Encode, List.size_toByteArray]
  rfl

end FixedCapacity.Text

namespace FixedCapacity.Error

open String (utf8EncodeChar)

/-- The characters that end a directory. -/
def IsSlash (c : Char) : Prop := c = '/' ∨ c = '\\'

instance : DecidablePred IsSlash := fun c => inferInstanceAs (Decidable (c = '/' ∨ c = '\\'))

/-- A directory is nothing, or it ends with a slash. -/
def Ended (dir : String) : Prop := dir = "" ∨ ∃ c, IsSlash c ∧ dir.toList.getLast? = some c

/-- A path cut behind its last slash. -/
structure Parted (path dir name : String) : Prop where
  whole : path = dir ++ name
  ended : Ended dir
  clear : ∀ c ∈ name.toList, ¬ IsSlash c

variable {path dir name : String}

/-! ## Bytes and characters -/

theorem isSlash_of_isSeparator {b : UInt8} {c : Char} (hb : b ∈ utf8EncodeChar c) (h : isSeparator b) : IsSlash c := by
  unfold isSeparator at h
  rw [Bool.or_eq_true, decide_eq_true_iff, decide_eq_true_iff] at h
  rcases h with rfl | rfl
  · exact .inl (Text.char_of_ascii hb (by decide))
  · exact .inr (Text.char_of_ascii hb (by decide))

/-- The last byte of a slash is a separator. -/
theorem getLast?_of_isSlash {c : Char} (h : IsSlash c) : ∃ b, (utf8EncodeChar c).getLast? = some b ∧ isSeparator b := by
  rcases h with rfl | rfl
  · exact ⟨0x2F, by decide, by decide⟩
  · exact ⟨0x5C, by decide, by decide⟩

theorem bytes_clear (h : ∀ c ∈ name.toList, ¬ IsSlash c) : ∀ b ∈ Text.bytes name, isSeparator b = false := by
  intro b hb
  obtain ⟨c, hc, hmem⟩ := List.mem_flatMap.mp hb
  rw [Bool.eq_false_iff]
  exact fun hseparator => h c hc (isSlash_of_isSeparator hmem hseparator)

theorem bytes_ended (h : Ended dir) {b : UInt8} (hb : (Text.bytes dir).getLast? = some b) : isSeparator b := by
  rcases h with rfl | ⟨c, hslash, hlast⟩
  · cases hb
  · obtain ⟨front, hdir⟩ := List.getLast?_eq_some_iff.mp hlast
    obtain ⟨separator, hform, hseparator⟩ := getLast?_of_isSlash hslash
    rw [Text.bytes, hdir, Text.encode, List.flatMap_append, List.flatMap_singleton, List.getLast?_append, hform] at hb
    cases hb
    exact hseparator

/-- The bytes behind the last separator are those of the characters behind the last slash. -/
theorem nameBytes_of_parted (h : Parted path dir name) : nameBytes (Text.bytes path) = Text.bytes name := by
  have hname : ∀ b ∈ (Text.bytes name).reverse, (!isSeparator b) = true := by
    intro b hb
    rw [bytes_clear h.clear b (List.mem_reverse.mp hb)]
    rfl
  have hdir : (Text.bytes dir).reverse.takeWhile (fun b => !isSeparator b) = [] := by
    rcases hlast : (Text.bytes dir).getLast? with _ | b
    · rw [List.getLast?_eq_none_iff.mp hlast]
      rfl
    · obtain ⟨front, hfront⟩ := List.getLast?_eq_some_iff.mp hlast
      rw [hfront, List.reverse_concat, List.takeWhile_cons, bytes_ended h.ended hlast]
      rfl
  rw [nameBytes, h.whole, Text.bytes_append, List.reverse_append, List.takeWhile_append_of_pos hname, hdir,
    List.append_nil, List.reverse_reverse]

/-! ## The two parts -/

theorem exists_parted (path : String) : ∃ dir name, Parted path dir name := by
  let clear (c : Char) : Bool := ¬ IsSlash c
  refine ⟨.ofList (path.toList.rdropWhile clear), .ofList (path.toList.rtakeWhile clear), ?_⟩
  constructor
  case whole => rw [← String.ofList_append, List.rdropWhile_append_rtakeWhile, String.ofList_toList]
  case ended =>
    by_cases hnone : path.toList.rdropWhile clear = []
    · left
      rw [hnone, String.ofList_nil]
    · right
      have hlast := List.rdropWhile_last_not clear path.toList hnone
      refine ⟨_, ?_, (congrArg List.getLast? String.toList_ofList).trans (List.getLast?_eq_getLast_of_ne_nil hnone)⟩
      simpa [clear] using hlast
  case clear =>
    intro c hc
    rw [String.toList_ofList] at hc
    have hclear : clear c = true := List.mem_rtakeWhile_imp hc
    exact of_decide_eq_true hclear

theorem decode?_of_parted (h : Parted path dir name) :
    Text.decode? (nameBytes (Text.bytes path)) = some name.toList := by
  rw [nameBytes_of_parted h, Text.bytes, Text.decode?_encode]

theorem baseName_of_parted (h : Parted path dir name) : baseName path = name := by
  rw [baseName, decode?_of_parted h]
  exact String.ofList_toList

/-- How many bytes stand in front of the name. -/
def cut (path : String) : Nat := (Text.bytes path).length - (nameBytes (Text.bytes path)).length

theorem isValid_cut (h : Parted path dir name) : String.Pos.Raw.IsValid path ⟨cut path⟩ := by
  have hcut : cut path = dir.utf8ByteSize := by
    unfold cut
    rw [nameBytes_of_parted h, h.whole, Text.bytes_append, List.length_append, Nat.add_sub_cancel,
      Text.length_bytes]
  rw [hcut]
  exact String.Pos.Raw.isValid_iff_exists_append.mpr ⟨dir, name, h.whole, rfl⟩

/-- Characters that are no slashes and end a path end its name: the directory ends with a slash. -/
theorem suffix_of_clear (h : Parted path dir name) {front rest : String} (hpath : path = front ++ rest)
    (hrest : ∀ c ∈ rest.toList, ¬ IsSlash c) : ∃ between, name = between ++ rest := by
  have hsame : front.toList ++ rest.toList = dir.toList ++ name.toList := by
    rw [← String.toList_append, ← String.toList_append, ← hpath, h.whole]
  rcases List.append_eq_append_iff.mp hsame with ⟨beyond, hdir, hbeyond⟩ | ⟨between, -, hname⟩
  case inr =>
    refine ⟨.ofList between, String.toList_injective ?_⟩
    rw [String.toList_append, String.toList_ofList, hname]
  case inl =>
    rcases List.eq_nil_or_concat beyond with rfl | ⟨_, c, rfl⟩
    · refine ⟨"", String.toList_injective ?_⟩
      rw [String.toList_append, hbeyond]
      rfl
    · -- The last character of the directory would be among those without a slash.
      exfalso
      rcases h.ended with rfl | ⟨slash, hslash, hlast⟩
      · simp at hdir
      · obtain rfl : c = slash := by simpa [hdir] using hlast
        exact hrest c (by simp [hbeyond]) hslash

/-! ## Base names -/

/-- What the base name of a path is. -/
structure BaseNamed (path : String) : Prop where
  /-- The path is a directory, which is nothing or ends with a slash, and the name, without a slash. -/
  parted : ∃ dir, Parted path dir (baseName path)
  longest : ∀ front rest, path = front ++ rest → (∀ c ∈ rest.toList, ¬ IsSlash c) →
    ∃ between, baseName path = between ++ rest
  boundary : String.Pos.Raw.IsValid path ⟨cut path⟩
  /-- The bytes behind the cut decode, and so they are what is returned. -/
  decoded : Text.decode? (nameBytes (Text.bytes path)) = some (baseName path).toList
  empty : baseName path = "" ↔ Ended path
  again : baseName (baseName path) = baseName path

/-- The base name of every path is the longest end of it without a slash. -/
theorem base_name_behind_last_slash (path : String) : BaseNamed path := by
  obtain ⟨dir, name, h⟩ := exists_parted path
  have hname := baseName_of_parted h
  constructor
  case parted =>
    rw [hname]
    exact ⟨dir, h⟩
  case longest =>
    intro front rest hpath hrest
    rw [hname]
    exact suffix_of_clear h hpath hrest
  case boundary => exact isValid_cut h
  case decoded =>
    rw [hname]
    exact decode?_of_parted h
  case empty =>
    rw [hname]
    constructor
    · intro hnone
      have hdir := h.ended
      rwa [h.whole, hnone, String.append_empty]
    · intro hended
      exact hname.symm.trans (baseName_of_parted ⟨String.append_empty.symm, hended, nofun⟩)
  case again =>
    rw [hname]
    exact baseName_of_parted ⟨String.empty_append.symm, .inl rfl, h.clear⟩

/-- A slash and a backslash, and a letter of two bytes on either side of them. -/
example : baseName "/é/b\\è" = "è" := by decide +kernel

end FixedCapacity.Error
