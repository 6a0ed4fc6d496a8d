import Mathlib.Data.String.Basic

/-! A path of names written as one string, the names joined by a separator character and the
whole led by a tag. When no name holds the separator the string loses nothing: `splitOn`
recovers the names, so two tagged paths with tags of one length are equal when their strings
are. -/

namespace PathString

def Clean (sep : Char) (names : List String) : Prop := ∀ name ∈ names, sep ∉ name.toList

theorem Clean.append {sep : Char} {names names' : List String} (namesOk : Clean sep names)
    (namesOk' : Clean sep names') : Clean sep (names ++ names') := by
  intro name member
  rcases List.mem_append.mp member with same | same
  · exact namesOk name same
  · exact namesOk' name same

theorem intercalate_injective {sep : Char} {names names' : List String}
    (clean : Clean sep names) (clean' : Clean sep names') (ne : names ≠ []) (ne' : names' ≠ [])
    (same : String.intercalate (String.singleton sep) names =
      String.intercalate (String.singleton sep) names') : names = names' := by
  have chars := congrArg String.toList same
  simp only [String.toList_intercalate, String.toList_singleton] at chars
  have splitAt := congrArg (List.splitOn sep) chars
  rw [List.splitOn_intercalate sep (by simpa [Clean] using clean) (by simpa using ne),
    List.splitOn_intercalate sep (by simpa [Clean] using clean') (by simpa using ne')] at splitAt
  exact List.map_injective_iff.mpr (fun _ _ => String.toList_injective) splitAt

theorem tagged_injective {sep : Char} {tag tag' : String} {names names' : List String}
    (length : tag.length = tag'.length) (clean : Clean sep names) (clean' : Clean sep names')
    (ne : names ≠ []) (ne' : names' ≠ [])
    (same : tag ++ String.intercalate (String.singleton sep) names =
      tag' ++ String.intercalate (String.singleton sep) names') : tag = tag' ∧ names = names' := by
  have chars := congrArg String.toList same
  simp only [String.toList_append] at chars
  obtain ⟨tagOk, restOk⟩ := List.append_inj chars (by rw [String.length_toList, String.length_toList, length])
  exact ⟨String.toList_injective tagOk,
    intercalate_injective clean clean' ne ne' (String.toList_injective restOk)⟩

theorem intercalate_append_singleton (sep : String) {names : List String} (ne : names ≠ [])
    (name : String) :
    String.intercalate sep (names ++ [name]) = String.intercalate sep names ++ sep ++ name := by
  rw [String.intercalate_append_of_ne_nil ne (by simp), String.intercalate_singleton]

end PathString
