import ElementBindings.Files.Path
import ElementBindings.Proofs.Files.Tree
import ElementBindings.Proofs.Naming
import ElementBindings.Proofs.Text.Line

/-
  Where the sources of elements live.

  The source of an element whose name has no slash is a file
  in the directory for elements, called after the snake case
  of the name.  So the file tells the snake case of the name,
  and nothing else of it.

  Key definitions include:
    * `Element.fileName`
    * `Path.elements`

  Key theorems include:
    * `Path.ofString_of_no_slash`
    * `Element.path_eq`
    * `FileTree.locate_target_inj`
-/

namespace ElementBindings

------------------------------------------------------------
-- Paths of One Component
------------------------------------------------------------

namespace Path

/- A text without slash that says something is one component. -/
theorem ofString_of_no_slash
    {s : String}
    (hSlash : '/' ∉ s.toList)
    (hEmpty : s ≠ "")
    (hDot : s ≠ ".") :
    ofString s = ⟨0, [s]⟩ := by
  have hRoot : rootOf s.toList = 0 := by
    have hNone : s.toList.takeWhile (· = '/') = [] := by
      cases hChars : s.toList with
      | nil => rfl
      | cons c rest =>
          have hOther : c ≠ '/' := by
            intro hSame
            apply hSlash
            simp [hChars, hSame]
          simp [hOther]
    unfold rootOf
    rw [hNone]
    rfl
  have hParts : splitSlashes s.toList = [s.toList] :=
    Text.splitAtEach_of_not_mem hSlash
  unfold ofString
  rw [hRoot, hParts]
  simp [hEmpty, hDot]

/- A component goes behind the ones of a path. -/
theorem join_of_no_slash
    (path : Path)
    {s : String}
    (hSlash : '/' ∉ s.toList)
    (hEmpty : s ≠ "")
    (hDot : s ≠ ".") :
    path.join s = ⟨path.root, path.parts ++ [s]⟩ := by
  unfold join
  rw [ofString_of_no_slash hSlash hEmpty hDot]
  rfl

/-
  Texts that both lead on from a path, or both replace it,
  lead to one place exactly if they are one path.
-/
theorem join_eq_join_iff
    (path : Path)
    {s t : String}
    (hRoot : (ofString s).root = 0 ↔ (ofString t).root = 0) :
    path.join s = path.join t ↔ ofString s = ofString t := by
  unfold join
  by_cases hRelative : (ofString s).root = 0
  · have hOther := hRoot.mp hRelative
    rw [if_pos hRelative, if_pos hOther]
    constructor
    · intro hSame
      have hParts :
          path.parts ++ (ofString s).parts =
            path.parts ++ (ofString t).parts :=
        congrArg Path.parts hSame
      cases hFirst : ofString s with
      | mk root parts =>
          cases hSecond : ofString t with
          | mk otherRoot otherParts =>
              simp only [hFirst, hSecond] at *
              rw [hRelative, hOther,
                List.append_cancel_left hParts]
    · intro hSame
      rw [hSame]
  · have hOther : ¬ (ofString t).root = 0 := by
      intro hZero
      exact hRelative (hRoot.mpr hZero)
    rw [if_neg hRelative, if_neg hOther]

/-
  A text that leads on from a path and one that replaces it
  lead to one place exactly if the latter says so in full.
-/
theorem join_eq_join_iff_of_replaced
    (path : Path)
    {s t : String}
    (hRelative : (ofString s).root = 0)
    (hReplaced : (ofString t).root ≠ 0) :
    path.join s = path.join t ↔
      ofString t =
        ⟨path.root, path.parts ++ (ofString s).parts⟩ := by
  unfold join
  rw [if_pos hRelative, if_neg hReplaced]
  exact eq_comm

/- The directory for elements under an output directory. -/
def elements
    (base : Path) : Path :=
  ⟨base.root, base.parts ++ ["elements"]⟩

end Path

------------------------------------------------------------
-- Files of Elements
------------------------------------------------------------

/- The name of the file for an element of a name. -/
def Element.fileName
    (name : String) : String :=
  Naming.snakeCase name ++ ".zig"

/- Where the element of a name lives, if it has no slash. -/
def Element.target
    (base : Path)
    (name : String) : Path :=
  ⟨base.root, base.elements.parts ++ [Element.fileName name]⟩

/- That is below the directory for elements. -/
@[simp] theorem Element.target_parent
    (base : Path)
    (name : String) :
    (Element.target base name).parent = base.elements := by
  simp [Element.target, Path.parent, Path.elements]

/- Names of files are told apart by snake case names. -/
theorem Element.fileName_inj
    {first second : String} :
    Element.fileName first = Element.fileName second ↔
      Naming.snakeCase first = Naming.snakeCase second := by
  unfold Element.fileName
  constructor
  · intro hSame
    have hChars := congrArg String.toList hSame
    simp only [String.toList_append] at hChars
    exact String.toList_inj.mp (List.append_cancel_right hChars)
  · intro hSame
    rw [hSame]

/- The name of a file says where the file is. -/
theorem Element.fileName_is_component
    (name : String) :
    Element.fileName name ≠ "" ∧
      Element.fileName name ≠ "." ∧
      Element.fileName name ≠ ".." := by
  have hLong : 4 ≤ (Element.fileName name).toList.length := by
    unfold Element.fileName
    rw [String.toList_append, List.length_append]
    have hEnding : (".zig".toList).length = 4 := rfl
    omega
  refine ⟨?_, ?_, ?_⟩ <;>
    · intro hShort
      rw [hShort] at hLong
      simp at hLong

/- The name of a file has a slash only from the name. -/
theorem Element.slash_mem_fileName
    {name : String}
    (hSlash : '/' ∈ (Element.fileName name).toList) :
    '/' ∈ name.toList := by
  unfold Element.fileName at hSlash
  rw [String.toList_append] at hSlash
  rcases List.mem_append.mp hSlash with hName | hEnding
  · exact Naming.slash_mem_snakeCase hName
  · simp at hEnding

/- An element lives where the name of its file leads. -/
theorem Element.path_eq_join
    (base : Path)
    {element : Element}
    {name : String}
    (hName : element.name = some name) :
    element.path base =
      .ok (base.elements.join (Element.fileName name)) := by
  have hDirectory : base.join "elements" = base.elements :=
    base.join_of_no_slash (by decide) (by decide) (by decide)
  unfold Element.path
  rw [hName, hDirectory]
  rfl

/-
  An element whose name has no slash lives in the directory
  for elements, in the file of its snake case name.
-/
theorem Element.path_eq
    (base : Path)
    {element : Element}
    {name : String}
    (hName : element.name = some name)
    (hSlash : '/' ∉ name.toList) :
    element.path base =
      .ok (Element.target base name) := by
  have hFile : '/' ∉ (Element.fileName name).toList := by
    intro hMember
    exact hSlash (Element.slash_mem_fileName hMember)
  rcases Element.fileName_is_component name with
    ⟨hEmpty, hDot, _⟩
  rw [Element.path_eq_join base hName,
    base.elements.join_of_no_slash hFile hEmpty hDot]
  rfl

/- Elements share a file when their snake case names agree. -/
theorem Element.target_inj
    (base : Path)
    {first second : String} :
    Element.target base first = Element.target base second ↔
      Naming.snakeCase first = Naming.snakeCase second := by
  rw [← Element.fileName_inj]
  simp [Element.target]

------------------------------------------------------------
-- Files in Trees
------------------------------------------------------------

/- The file of an element stands in the directory for elements. -/
theorem FileTree.locate_target
    (tree : FileTree)
    (base : Path)
    (name : String) :
    tree.locate (Element.target base name) =
      tree.locate base.elements ++ [Element.fileName name] := by
  rcases Element.fileName_is_component name with
    ⟨hEmpty, hDot, hUp⟩
  have hStep :
      ∀ location : Location,
        FileTree.step location (Element.fileName name) =
          location ++ [Element.fileName name] := by
    intro location
    simp [FileTree.step, hEmpty, hDot, hUp]
  unfold FileTree.locate Element.target
  rw [List.foldl_append, List.foldl_cons, List.foldl_nil, hStep]
  rfl

/- Elements share a place when their snake case names agree. -/
theorem FileTree.locate_target_inj
    (tree : FileTree)
    (base : Path)
    {first second : String} :
    tree.locate (Element.target base first) =
        tree.locate (Element.target base second) ↔
      Naming.snakeCase first = Naming.snakeCase second := by
  rw [tree.locate_target, tree.locate_target,
    ← Element.fileName_inj]
  simp

end ElementBindings
