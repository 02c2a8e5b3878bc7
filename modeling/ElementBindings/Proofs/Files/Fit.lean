import Mathlib.Data.List.TakeWhile
import ElementBindings.Files.Tree

/-
  Paths that a file system can use.

  A path is fit if it can be encoded, has no NUL, and neither
  the path nor one of its names is too long.  Only a fit path
  leads somewhere, and it does where its names can be followed.
  The path of the directory above a fit path is fit.

  Key definitions include:
    * `FileTree.start`
    * `FileTree.IsFit`

  Key theorems include:
    * `FileTree.resolve_eq_ok_iff`
    * `FileTree.resolve_of_follow_error`
    * `FileTree.IsFit.above`, `FileTree.IsFit.parent`
-/

namespace ElementBindings

------------------------------------------------------------
-- Sizes
------------------------------------------------------------

namespace Text

/- The octets of texts side by side add up. -/
theorem nameSize_append
    (first second : String) :
    nameSize (first ++ second) =
      nameSize first + nameSize second := by
  unfold nameSize
  rw [String.toList_append]
  induction first.toList with
  | nil => simp
  | cons c rest ih =>
      rw [List.cons_append, List.foldr_cons, List.foldr_cons, ih,
        Nat.add_assoc]

/- Characters of one octet each are as many as the octets. -/
theorem nameSize_replicate
    {c : Char}
    (hOne : octetCount c = 1)
    (count : Nat) :
    nameSize (String.ofList (List.replicate count c)) = count := by
  unfold nameSize
  rw [String.toList_ofList]
  induction count with
  | zero => rfl
  | succ count ih =>
      rw [List.replicate_succ, List.foldr_cons, ih, hOne,
        Nat.add_comm]

/- Every character has an octet. -/
theorem one_le_nameSize
    {s : String}
    (hSome : s ≠ "") :
    1 ≤ nameSize s := by
  unfold nameSize
  cases hChars : s.toList with
  | nil => exact absurd (String.toList_eq_nil_iff.mp hChars) hSome
  | cons c rest =>
      rw [List.foldr_cons]
      have hFirst : 1 ≤ octetCount c := by
        unfold octetCount
        split
        · exact le_refl 1
        · exact c.utf8Size_pos
      omega

/- With one more text, the joined texts only get longer. -/
theorem exists_joinWith_eq_append
    (separator : String)
    (texts : List String)
    (last : String) :
    ∃ more,
      joinWith separator (texts ++ [last]) =
        joinWith separator texts ++ more := by
  induction texts with
  | nil => exact ⟨last, by simp [joinWith]⟩
  | cons text rest ih =>
      cases rest with
      | nil =>
          refine ⟨separator ++ last, ?_⟩
          simp [joinWith, String.append_assoc]
      | cons next others =>
          rcases ih with ⟨more, hMore⟩
          rw [List.cons_append] at hMore
          refine ⟨more, ?_⟩
          simp only [List.cons_append, joinWith, hMore,
            String.append_assoc]

end Text

/- A longer text is not shorter with a dot for an empty one. -/
theorem nameSize_orDot_le
    (s more : String) :
    Text.nameSize (if s = "" then "." else s) ≤
      Text.nameSize (if s ++ more = "" then "." else s ++ more) := by
  by_cases hEmpty : s = ""
  · have hDot : Text.nameSize "." = 1 := by decide
    rw [if_pos hEmpty, hDot]
    split
    · exact hDot.ge
    · next hSome => exact Text.one_le_nameSize hSome
  · have hSome : s ++ more ≠ "" := by
      intro hNone
      exact hEmpty (String.append_eq_empty_iff.mp hNone).1
    rw [if_neg hEmpty, if_neg hSome, Text.nameSize_append]
    omega

/- The text of a path is no longer than that of one below. -/
theorem Path.nameSize_text_le
    (root : Nat)
    (parts : List String)
    (name : String) :
    Text.nameSize (Path.text ⟨root, parts⟩) ≤
      Text.nameSize (Path.text ⟨root, parts ++ [name]⟩) := by
  rcases Text.exists_joinWith_eq_append "/" parts name with
    ⟨more, hMore⟩
  unfold Path.text
  dsimp only
  rw [hMore, ← String.append_assoc]
  exact nameSize_orDot_le _ more

namespace FileTree

variable {tree : FileTree}
variable {location : Location}
variable {path : Path}

------------------------------------------------------------
-- Fit Paths
------------------------------------------------------------

/- A path that is fit by itself, and so are all its names. -/
structure IsFit
    (path : Path) : Prop where
  sound : flaw? path = none
  short : ∀ name ∈ path.parts, isTooLong name = false

/- None of its names is left out for its length. -/
theorem IsFit.takeWhile_parts
    (hFit : IsFit path) :
    path.parts.takeWhile (!isTooLong ·) = path.parts := by
  rw [List.takeWhile_eq_self_iff]
  intro name hName
  simp [hFit.short name hName]

/- A path without flaw, in detail. -/
theorem flaw?_eq_none_iff :
    flaw? path = none ↔
      path.parts.all Text.isNameable ∧
        hasNul path.parts = false ∧
        Text.nameSize path.text ≤ maxPathSize := by
  unfold flaw?
  cases path.parts.all Text.isNameable with
  | false => simp
  | true =>
      cases hasNul path.parts with
      | true => simp
      | false => simp

/- Of a fit path also the part above its last name is fit. -/
theorem IsFit.above
    {root : Nat}
    {parts : List String}
    {name : String}
    (hFit : IsFit ⟨root, parts ++ [name]⟩) :
    IsFit ⟨root, parts⟩ := by
  rcases flaw?_eq_none_iff.mp hFit.sound with
    ⟨hNames, hNul, hSize⟩
  rw [List.all_append, Bool.and_eq_true] at hNames
  unfold hasNul at hNul
  rw [List.any_append, Bool.or_eq_false_iff] at hNul
  constructor
  · rw [flaw?_eq_none_iff]
    exact
      ⟨hNames.1, hNul.1,
        (Path.nameSize_text_le root parts name).trans hSize⟩
  · intro other hMember
    exact hFit.short other (List.mem_append_left _ hMember)

/- So is the path of the directory above it. -/
theorem IsFit.parent
    (hFit : IsFit path) :
    IsFit path.parent := by
  rcases path with ⟨root, parts⟩
  rcases List.eq_nil_or_concat parts with
    rfl | ⟨above, name, rfl⟩
  · exact hFit
  · rw [List.concat_eq_append] at hFit ⊢
    rw [Path.parent, List.dropLast_concat]
    exact hFit.above

------------------------------------------------------------
-- Following Paths
------------------------------------------------------------

/- The location where a path starts. -/
def start
    (tree : FileTree)
    (root : Nat) : Location :=
  if root = 0 then tree.workingDirectory else []

/- A path leads somewhere if it is fit and can be followed. -/
theorem resolve_eq_ok_iff :
    tree.resolve path = .ok location ↔
      IsFit path ∧
        tree.follow (tree.start path.root) path.parts =
          .ok location := by
  unfold resolve
  constructor
  · intro hResolve
    cases hFlaw : flaw? path with
    | some cause => simp [hFlaw] at hResolve
    | none =>
        rw [hFlaw] at hResolve
        dsimp only at hResolve
        split at hResolve
        · simp at hResolve
        · next found hFollow =>
            split at hResolve
            · next hShort =>
                rw [hShort, List.take_of_length_le (by omega)]
                  at hFollow
                refine ⟨⟨hFlaw, ?_⟩, ?_⟩
                · intro name hName
                  have hAll :=
                    List.takeWhile_eq_self_iff.mp hShort name
                      hName
                  simpa using hAll
                · rw [← Except.ok.inj hResolve]
                  exact hFollow
            · simp at hResolve
  · intro hBoth
    rcases hBoth with ⟨hFit, hFollow⟩
    unfold start at hFollow
    rw [hFit.sound]
    simp only [hFit.takeWhile_parts, List.take_of_length_le
      (Nat.le_succ path.parts.length), hFollow, if_true]

/- A fit path fails as its names do when they are followed. -/
theorem resolve_of_follow_error
    {error : FileError}
    (hFit : IsFit path)
    (hFollow :
      tree.follow (tree.start path.root) path.parts =
        .error error) :
    tree.resolve path = .error (.refused error) := by
  unfold start at hFollow
  unfold resolve
  rw [hFit.sound]
  simp only [hFit.takeWhile_parts, List.take_of_length_le
    (Nat.le_succ path.parts.length), hFollow]

end FileTree

end ElementBindings
