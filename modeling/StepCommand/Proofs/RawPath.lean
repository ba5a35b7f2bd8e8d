import StepCommand.RawPath

namespace StepCommand.RawPath

theorem bytes_ofText (s : String) : (ofText s).bytes = s.toList.flatMap String.utf8EncodeChar := by
  have hbytes : s.toByteArray = (s.toList.flatMap String.utf8EncodeChar).toByteArray :=
    String.utf8Encode_toList.symm
  simp only [ofText, hbytes, List.data_toByteArray]

theorem charsAfter_append (skipped rest : List UInt8) :
    charsAfter skipped.length (skipped ++ rest) = charsAfter 0 rest := by
  induction skipped with
  | nil => rfl
  | cons first skipped ih => exact ih

-- A whole character is read, and nothing of what comes after it.
theorem charsAfter_utf8EncodeChar (c : Char) (rest : List UInt8) :
    charsAfter 0 (String.utf8EncodeChar c ++ rest) = c :: charsAfter 0 rest := by
  have hlength := String.length_utf8EncodeChar c
  have hdecode : (String.utf8EncodeChar c ++ rest).toByteArray.utf8DecodeChar? 0 = some c := by
    rw [List.toByteArray_append]
    exact ByteArray.utf8DecodeChar?_utf8EncodeChar_append
  cases hbytes : String.utf8EncodeChar c with
  | nil =>
      rw [hbytes, List.length_nil] at hlength
      exact absurd hlength.symm (Nat.ne_of_gt c.utf8Size_pos)
  | cons first more =>
      rw [hbytes, List.length_cons] at hlength
      rw [hbytes] at hdecode
      have hnext : next first (more ++ rest) = (c, more.length) := by
        have hsize : c.utf8Size - 1 = more.length := by omega
        simp only [next, ← List.cons_append, hdecode, hsize]
      rw [List.cons_append, charsAfter, hnext, charsAfter_append]

theorem charsAfter_flatMap (cs : List Char) :
    charsAfter 0 (cs.flatMap String.utf8EncodeChar) = cs := by
  induction cs with
  | nil => rfl
  | cons c cs ih => rw [List.flatMap_cons, charsAfter_utf8EncodeChar, ih]

-- A path that is a text is shown as it is.
theorem text_ofText (s : String) : (ofText s).text = s := by
  rw [text, bytes_ofText, charsAfter_flatMap, String.ofList_toList]

end StepCommand.RawPath
