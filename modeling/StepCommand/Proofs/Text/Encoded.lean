namespace StepCommand.Text

-- What the bytes of a text are is cheaper to compute in a proof than what its characters are.
def encoded (s : String) : List UInt8 := s.toByteArray.data.toList

variable {s t : String} {b : ByteArray}

-- What comes after a text begins with a character.
theorem isValidUTF8_of_append_right (h : t.toByteArray = s.toByteArray ++ b) : b.IsValidUTF8 := by
  have hsize : t.utf8ByteSize = s.utf8ByteSize + b.size := by
    rw [← String.size_toByteArray, h, ByteArray.size_append, String.size_toByteArray]
  have hposition : (⟨s.utf8ByteSize⟩ : String.Pos.Raw).IsValid t := by
    rw [String.Pos.Raw.isValid_iff_isValidUTF8_extract_zero]
    refine ⟨by simp [String.Pos.Raw.le_iff, hsize], ?_⟩
    rw [h, ByteArray.extract_append_eq_left (by simp)]
    exact s.isValidUTF8
  have hrest := (String.Pos.Raw.isValid_iff_isValidUTF8_extract_utf8ByteSize.mp hposition).2
  rwa [h, ByteArray.extract_append_eq_right (by simp) (by simp [hsize])] at hrest

theorem isValidUTF8_of_append_left (h : t.toByteArray = b ++ s.toByteArray) : b.IsValidUTF8 := by
  have hsize : t.utf8ByteSize = b.size + s.utf8ByteSize := by
    rw [← String.size_toByteArray, h, ByteArray.size_append, String.size_toByteArray]
  have hposition : (⟨b.size⟩ : String.Pos.Raw).IsValid t := by
    rw [String.Pos.Raw.isValid_iff_isValidUTF8_extract_utf8ByteSize]
    refine ⟨by simp [String.Pos.Raw.le_iff, hsize], ?_⟩
    rw [h, ByteArray.extract_append_eq_right (by simp) (by simp [hsize])]
    exact s.isValidUTF8
  have hrest := (String.Pos.Raw.isValid_iff_isValidUTF8_extract_zero.mp hposition).2
  rwa [h, ByteArray.extract_append_eq_left (by simp)] at hrest

theorem exists_append_of_isPrefix (h : encoded s <+: encoded t) : ∃ u, t = s ++ u := by
  obtain ⟨rest, hrest⟩ := h
  have hbytes : t.toByteArray = s.toByteArray ++ ⟨rest.toArray⟩ :=
    ByteArray.ext (Array.toList_inj.mp (by simpa [encoded] using hrest.symm))
  refine ⟨.ofByteArray ⟨rest.toArray⟩ (isValidUTF8_of_append_right hbytes), ?_⟩
  rw [← String.toByteArray_inj, String.toByteArray_append, hbytes]

theorem exists_append_of_isSuffix (h : encoded s <:+ encoded t) : ∃ u, t = u ++ s := by
  obtain ⟨rest, hrest⟩ := h
  have hbytes : t.toByteArray = ⟨rest.toArray⟩ ++ s.toByteArray :=
    ByteArray.ext (Array.toList_inj.mp (by simpa [encoded] using hrest.symm))
  refine ⟨.ofByteArray ⟨rest.toArray⟩ (isValidUTF8_of_append_left hbytes), ?_⟩
  rw [← String.toByteArray_inj, String.toByteArray_append, hbytes]

end StepCommand.Text
