import CorosyncClient.CLib.Text

/-!
A file that is written at positions, as by `pwrite`. Where several writers write parts of
the same bytes, none of them undoes what another has written.
-/
namespace CLib

/-- Some bytes are written at a position. A gap behind the old end is filled with zeros; a
    write of no bytes does nothing. -/
def writeAt (content : Bytes) (pos : Nat) (sent : Bytes) : Bytes :=
  if sent = [] then content
  else content.take pos ++ List.replicate (pos - content.length) 0 ++ sent ++ content.drop (pos + sent.length)

section
variable {content sent file : Bytes} {pos j : Nat}

@[simp] theorem writeAt_nil (content : Bytes) (pos : Nat) : writeAt content pos [] = content := if_pos rfl

theorem writeAt_length (some : sent ≠ []) : (writeAt content pos sent).length = max content.length (pos + sent.length) := by
  rw [writeAt, if_neg some]
  simp only [List.length_append, List.length_take, List.length_replicate, List.length_drop]
  omega

/-- What was written. -/
theorem writeAt_inside (above : pos ≤ j) (below : j < pos + sent.length) :
    (writeAt content pos sent)[j]? = sent[j - pos]? := by
  have some : sent ≠ [] := by
    rintro rfl
    simp at below
    omega
  have start : (content.take pos ++ List.replicate (pos - content.length) (0 : UInt8)).length = pos := by
    simp only [List.length_append, List.length_take, List.length_replicate]
    omega
  rw [writeAt, if_neg some, List.getElem?_append_left (by rw [List.length_append, start]; exact below),
    List.getElem?_append_right (by rw [start]; exact above), start]

/-- What was there before and is not written over. -/
theorem writeAt_outside (there : j < content.length) (apart : j < pos ∨ pos + sent.length ≤ j) :
    (writeAt content pos sent)[j]? = content[j]? := by
  by_cases none : sent = []
  · rw [none, writeAt_nil]
  rw [writeAt, if_neg none]
  rcases apart with before | behind
  · rw [List.append_assoc, List.append_assoc, List.getElem?_append_left (by rw [List.length_take]; omega),
      List.getElem?_take_of_lt before]
  · have start : (content.take pos ++ List.replicate (pos - content.length) (0 : UInt8) ++ sent).length = pos + sent.length := by
      simp only [List.length_append, List.length_take, List.length_replicate]
      omega
    rw [List.getElem?_append_right (by rw [start]; exact behind), start, List.getElem?_drop, Nat.add_sub_cancel' behind]

/-- The bytes of a part of a file. -/
theorem part_getElem? (part : sent <+: file.drop pos) (above : pos ≤ j) (below : j < pos + sent.length) :
    sent[j - pos]? = file[j]? := by
  obtain ⟨rest, split⟩ := part
  have there : (sent ++ rest)[j - pos]? = file[j]? := by rw [split, List.getElem?_drop, Nat.add_sub_cancel' above]
  rw [← there, List.getElem?_append_left (by omega)]

/-- A writer keeps what is right in the file. -/
theorem writeAt_keeps {n : Nat} (holds : file.take n <+: content) (part : sent <+: file.drop pos) :
    file.take n <+: writeAt content pos sent := by
  rw [List.prefix_iff_getElem?] at holds ⊢
  intro j inside
  have right := holds j inside
  have there : j < content.length := (List.getElem?_eq_some_iff.mp right).1
  have same : file[j]? = some (file.take n)[j] := by
    rw [List.getElem_take]
    exact List.getElem?_eq_getElem _
  by_cases covered : pos ≤ j ∧ j < pos + sent.length
  · rw [writeAt_inside covered.1 covered.2, part_getElem? part covered.1 covered.2, same]
  · rw [writeAt_outside there (by omega), right]

/-- A writer that goes on where the file is right so far has it right a part further. -/
theorem writeAt_extends (holds : file.take pos <+: content) (part : sent <+: file.drop pos) :
    file.take (pos + sent.length) <+: writeAt content pos sent := by
  rw [List.prefix_iff_getElem?]
  intro j inside
  rw [List.length_take] at inside
  have same : file[j]? = some (file.take (pos + sent.length))[j] := by
    rw [List.getElem_take]
    exact List.getElem?_eq_getElem _
  by_cases covered : pos ≤ j
  · rw [writeAt_inside covered (by omega), part_getElem? part covered (by omega), same]
  · have before : j < (file.take pos).length := by
      rw [List.length_take]
      omega
    have right := List.prefix_iff_getElem?.mp (writeAt_keeps holds part) j before
    rw [right, List.getElem_take, List.getElem_take]

/-- No writer goes beyond the end of the file. -/
theorem writeAt_within (short : content.length ≤ file.length) (part : sent <+: file.drop pos) :
    (writeAt content pos sent).length ≤ file.length := by
  by_cases none : sent = []
  · rwa [none, writeAt_nil]
  have some := List.length_pos_iff.mpr none
  have inside := part.length_le
  rw [List.length_drop] at inside
  rw [writeAt_length none]
  omega

end

end CLib
