import Calculator.Proofs.Token.Tiling

/-!
# Parts of a text by their bytes

A text can be cut at a byte only where a character ends; there is nothing to be had where a cut
falls into a character, lies behind the end, or would come before an earlier one.
`slice?_eq_some_iff` says that what can be cut out is what `IsPart` describes.
-/

namespace Calculator

/-- Cut characters in two behind some bytes. -/
def cutBytes? : Nat → List Char → Option (List Char × List Char)
  | 0, characters => some ([], characters)
  | _ + 1, [] => none
  | bytes + 1, character :: characters =>
      if character.utf8Size ≤ bytes + 1 then
        (cutBytes? (bytes + 1 - character.utf8Size) characters).map
          fun (before, after) => (character :: before, after)
      else none

/-- What stands in a text from one byte up to but excluding another. -/
def slice? (source : String) (start stop : Nat) : Option String :=
  if start ≤ stop then
    (cutBytes? start source.toList).bind fun cut =>
      (cutBytes? (stop - start) cut.2).map fun cut => String.ofList cut.1
  else none

/-- The character that starts at a byte. -/
def charAt? (source : String) (offset : Nat) : Option Char :=
  (cutBytes? offset source.toList).bind fun cut => cut.2.head?

theorem utf8ByteSize_ofList_cons (character : Char) (characters : List Char) :
    (String.ofList (character :: characters)).utf8ByteSize =
      character.utf8Size + (String.ofList characters).utf8ByteSize := by
  rw [Token.ofList_cons, String.utf8ByteSize_append, ← String.singleton_eq_ofList,
    String.utf8ByteSize_singleton]

theorem cutBytes?_cons {bytes : Nat} (written : 0 < bytes) (character : Char)
    (characters : List Char) :
    cutBytes? bytes (character :: characters) =
      if character.utf8Size ≤ bytes then
        (cutBytes? (bytes - character.utf8Size) characters).map fun (before, after) =>
          (character :: before, after)
      else none := by
  cases bytes with
  | zero => cases written
  | succ bytes => rw [cutBytes?]

/-- The characters in front of a cut take the bytes. -/
theorem eq_of_cutBytes?_eq_some {bytes : Nat} {characters before after : List Char}
    (cut : cutBytes? bytes characters = some (before, after)) :
    characters = before ++ after ∧ (String.ofList before).utf8ByteSize = bytes := by
  fun_induction cutBytes? bytes characters generalizing before with
  | case1 characters =>
      cases cut
      exact ⟨rfl, rfl⟩
  | case2 => cases cut
  | case3 bytes character characters fits inductionHypothesis =>
      obtain ⟨⟨front, behind⟩, cutBehind, same⟩ := Option.map_eq_some_iff.mp cut
      cases same
      obtain ⟨split, size⟩ := inductionHypothesis cutBehind
      rw [utf8ByteSize_ofList_cons, size]
      exact ⟨congrArg _ split, by omega⟩
  | case4 => cases cut

/-- Characters can be cut in two behind any of them. -/
theorem cutBytes?_append (before after : List Char) :
    cutBytes? (String.ofList before).utf8ByteSize (before ++ after) = some (before, after) := by
  induction before with
  | nil => rw [String.ofList_nil, String.utf8ByteSize_empty, List.nil_append, cutBytes?]
  | cons character before inductionHypothesis =>
      have written := Nat.add_pos_left character.utf8Size_pos (String.ofList before).utf8ByteSize
      rw [utf8ByteSize_ofList_cons, List.cons_append, cutBytes?_cons written,
        if_pos (Nat.le_add_right _ _), Nat.add_sub_cancel_left, inductionHypothesis,
        Option.map_some]

/-- A text can be cut in two behind any part that it starts with. -/
theorem cutBytes?_toList_append (before after : String) :
    cutBytes? before.utf8ByteSize (before ++ after).toList =
      some (before.toList, after.toList) := by
  have cut := cutBytes?_append before.toList after.toList
  rwa [String.ofList_toList, ← String.toList_append] at cut

/-- What can be cut out of a text is a part of it. -/
theorem slice?_eq_some_iff {source part : String} {start stop : Nat} :
    slice? source start stop = some part ↔ IsPart source start stop part := by
  constructor
  · intro sliced
    rw [slice?] at sliced
    split at sliced
    · next ordered =>
        obtain ⟨⟨before, rest⟩, isRest, inRest⟩ := Option.bind_eq_some_iff.mp sliced
        obtain ⟨⟨inside, after⟩, isInside, rfl⟩ := Option.map_eq_some_iff.mp inRest
        obtain ⟨split, bytesBefore⟩ := eq_of_cutBytes?_eq_some isRest
        obtain ⟨rfl, bytesInside⟩ := eq_of_cutBytes?_eq_some isInside
        refine ⟨String.ofList before, String.ofList after, ?_, bytesBefore, ?_⟩
        · rw [← String.ofList_append, ← String.ofList_append, List.append_assoc, ← split,
            String.ofList_toList]
        · rw [bytesInside]
          exact Nat.add_sub_cancel' ordered
    · cases sliced
  · rintro ⟨before, after, rfl, rfl, rfl⟩
    rw [slice?, if_pos (Nat.le_add_right _ _), String.append_assoc, cutBytes?_toList_append,
      Option.bind_some, Nat.add_sub_cancel_left, cutBytes?_toList_append, Option.map_some,
      String.ofList_toList]

/-- Behind what takes the bytes stands the character. -/
theorem charAt?_append (before rest : String) :
    charAt? (before ++ rest) before.utf8ByteSize = rest.toList.head? := by
  rw [charAt?, cutBytes?_toList_append, Option.bind_some]

end Calculator
