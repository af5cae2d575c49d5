/-!
# Pieces of texts

A text contains a piece if it has something in front of it and something after it.
-/

namespace QueryBindings.Text

def Contains (text piece : String) : Prop :=
  ∃ opening closing, text = opening ++ piece ++ closing

namespace Contains

theorem refl (text : String) : Contains text text :=
  ⟨"", "", by simp only [String.empty_append, String.append_empty]⟩

theorem append_right {text piece : String} (h : Contains text piece) (rest : String) :
    Contains (text ++ rest) piece := by
  obtain ⟨opening, closing, rfl⟩ := h
  exact ⟨opening, closing ++ rest, by simp only [String.append_assoc]⟩

theorem append_left {text piece : String} (start : String) (h : Contains text piece) :
    Contains (start ++ text) piece := by
  obtain ⟨opening, closing, rfl⟩ := h
  exact ⟨start ++ opening, closing, by simp only [String.append_assoc]⟩

theorem trans {text piece part : String} (h : Contains text piece) (hpart : Contains piece part) :
    Contains text part := by
  obtain ⟨opening, closing, rfl⟩ := h
  exact (hpart.append_left opening).append_right closing

theorem of_mem_join {pieces : List String} {piece : String} (h : piece ∈ pieces) :
    Contains (String.join pieces) piece := by
  obtain ⟨before, after, rfl⟩ := List.append_of_mem h
  exact ⟨String.join before, String.join after, by simp [String.append_assoc]⟩

theorem last_three (opening first second third : String) :
    Contains (opening ++ first ++ second ++ third) (first ++ second ++ third) :=
  ⟨opening, "", by simp only [String.append_assoc, String.append_empty]⟩

end Contains

end QueryBindings.Text
