import ElementBindings.Zig.Page
import ElementBindings.Proofs.Result
import ElementBindings.Proofs.Naming
import ElementBindings.Proofs.Zig.Doc

/-
  What the source text of an element tells of its name.

  Documentation comes before the name, but all its lines start
  with slashes.  Behind the name stands an equals sign.  So
  two elements with one text have one name, as long as their
  names have equals signs equally often, which is the case for
  names of one snake case.

  Key theorems include:
    * `Zig.comment_append_inj`
    * `Zig.exists_page_eq`
    * `Element.name_eq_of_render_eq`
-/

namespace ElementBindings

------------------------------------------------------------
-- Documentation
------------------------------------------------------------

namespace Zig

/- A text that starts with a line of a comment has a slash first. -/
theorem head?_comment
    {line : List Char}
    (hLine : line.head? = some '/')
    (lines : List (List Char))
    (s : List Char) :
    ((line :: lines).flatMap (· ++ ['\n']) ++ s).head? =
      some '/' := by
  cases line with
  | nil => simp at hLine
  | cons c rest =>
      simp only [List.head?_cons, Option.some.injEq] at hLine
      simp [hLine]

/-
  Two comments with something behind them that starts with no
  slash: if the whole is the same, so is what is behind them.
  By induction on the lines of the first comment.
-/
theorem comment_append_inj
    {lines others : List (List Char)}
    {s t : List Char}
    (hLines :
      ∀ line ∈ lines, line.head? = some '/' ∧ '\n' ∉ line)
    (hOthers :
      ∀ line ∈ others, line.head? = some '/' ∧ '\n' ∉ line)
    (hFirst : s.head? ≠ some '/')
    (hSecond : t.head? ≠ some '/')
    (hSame :
      lines.flatMap (· ++ ['\n']) ++ s =
        others.flatMap (· ++ ['\n']) ++ t) :
    s = t := by
  induction lines generalizing others with
  | nil =>
      cases others with
      | nil => exact hSame
      | cons other others =>
          have hHead :=
            head?_comment (hOthers other (by simp)).1 others t
          rw [← hSame] at hHead
          exact absurd hHead hFirst
  | cons line lines ih =>
      have hLine := hLines line (by simp)
      cases others with
      | nil =>
          have hHead := head?_comment hLine.1 lines s
          rw [hSame] at hHead
          exact absurd hHead hSecond
      | cons other others =>
          have hOther := hOthers other (by simp)
          simp only [List.flatMap_cons, List.append_assoc,
            List.singleton_append] at hSame
          have hRest :=
            (Text.append_cons_inj hLine.2 hOther.2
              (by simpa using hSame)).2
          apply ih
          · intro later hLater
            exact hLines later (List.mem_cons_of_mem line hLater)
          · intro later hLater
            exact
              hOthers later (List.mem_cons_of_mem other hLater)
          · exact hRest

------------------------------------------------------------
-- Pages
------------------------------------------------------------

/- A type is opened by its name and an equals sign. -/
theorem exists_opening_eq
    (name className nativeType : String) :
    ∃ rest,
      (Piece.frame (opening name className nativeType)).render =
        "pub const " ++ name ++ (" =" ++ rest) := by
  have hSplit : " = opaque \x7b" = " =" ++ " opaque \x7b" := rfl
  unfold Piece.render opening
  rw [hSplit]
  simp only [List.map_cons, Text.joinWith, String.append_assoc]
  exact ⟨_, rfl⟩

/- A page starts with fixed lines, the comment and the name. -/
theorem exists_page_eq
    (name className nativeType : String)
    (fragments : Fragments) :
    ∃ rest,
      page name className nativeType fragments =
        (Piece.frame prologue).render
          ++ (fragments.documentation
            ++ ("pub const " ++ name ++ (" =" ++ rest))) := by
  rcases exists_opening_eq name className nativeType with
    ⟨inner, hOpening⟩
  unfold page pieces
  simp only [List.map_cons, Text.joinWith]
  rw [hOpening]
  simp only [String.append_assoc, String.empty_append]
  exact ⟨_, rfl⟩

------------------------------------------------------------
-- Names
------------------------------------------------------------

/- What can be put before a blank and an equals sign has one. -/
theorem equals_mem_of_append_eq
    {s rest more : List Char}
    (hSame : ' ' :: '=' :: rest = s ++ ' ' :: '=' :: more) :
    s = [] ∨ '=' ∈ s := by
  cases s with
  | nil => exact .inl rfl
  | cons c s =>
      have hTail := (List.cons.inj hSame).2
      cases s with
      | nil =>
          have hHead := (List.cons.inj hTail).1
          exact absurd hHead (by decide)
      | cons d s =>
          have hHead : '=' = d := (List.cons.inj hTail).1
          rw [← hHead]
          exact .inr (List.mem_cons_of_mem c List.mem_cons_self)

/- So names that have as many equals signs are told apart. -/
theorem eq_of_append_equals
    {s t rest more : List Char}
    (hCount : s.count '=' = t.count '=')
    (hSame :
      s ++ ' ' :: '=' :: rest = t ++ ' ' :: '=' :: more) :
    s = t := by
  have hLonger :
      ∀ {x y : List Char}, x.count '=' = (x ++ y).count '=' →
        '=' ∉ y := by
    intro x y hEqual hMember
    rw [List.count_append] at hEqual
    have hSome := List.count_pos_iff.mpr hMember
    omega
  rcases List.append_eq_append_iff.mp hSame with
    ⟨x, hLong, hRest⟩ | ⟨x, hLong, hRest⟩
  · rw [hLong] at hCount ⊢
    rcases equals_mem_of_append_eq hRest with hNone | hMember
    · rw [hNone, List.append_nil]
    · exact absurd hMember (hLonger hCount)
  · rw [hLong] at hCount ⊢
    rcases equals_mem_of_append_eq hRest with hNone | hMember
    · rw [hNone, List.append_nil]
    · exact absurd hMember (hLonger hCount.symm)

/- Pages that are the same have the same name. -/
theorem name_eq_of_page_eq
    {name other className otherClass : String}
    {nativeType otherType : String}
    {binding otherBinding : Binding}
    (hCount : name.toList.count '=' = other.toList.count '=')
    (hSame :
      page name className nativeType binding.fragments =
        page other otherClass otherType
          otherBinding.fragments) :
    name = other := by
  rcases exists_page_eq name className nativeType
      binding.fragments with ⟨rest, hFirst⟩
  rcases exists_page_eq other otherClass otherType
      otherBinding.fragments with ⟨more, hSecond⟩
  rw [hFirst, hSecond] at hSame
  have hChars := congrArg String.toList hSame
  simp only [String.toList_append] at hChars
  have hBehind := List.append_cancel_left hChars
  rcases exists_docComment_eq binding.documentation with
    ⟨lines, hLines, hComment⟩
  rcases exists_docComment_eq otherBinding.documentation with
    ⟨others, hOthers, hOther⟩
  have hFragments :
      ∀ binding : Binding,
        binding.fragments.documentation =
          docComment binding.documentation := fun _ => rfl
  rw [hFragments, hFragments, hComment, hOther] at hBehind
  have hOpening :=
    comment_append_inj hLines hOthers (by simp) (by simp) hBehind
  rw [List.append_assoc, List.append_assoc] at hOpening
  have hName := List.append_cancel_left hOpening
  exact
    String.toList_inj.mp (eq_of_append_equals hCount hName)

end Zig

/- The text of an element is the page of some binding. -/
theorem Element.exists_page_of_render
    {element : Element}
    {name text : String}
    {parents : List (Option Attribute)}
    (hName : element.name = some name)
    (hText : element.render parents = .ok text) :
    ∃ className nativeType,
      ∃ binding : Zig.Binding,
        Zig.page name className nativeType binding.fragments =
          text := by
  rcases bind_eq_ok_iff.mp hText with ⟨nativeType, _, hRest⟩
  rcases bind_eq_ok_iff.mp hRest with
    ⟨fragments, hFragments, hWritten⟩
  rw [hName] at hWritten
  rcases map_eq_ok_iff.mp hFragments with ⟨binding, _, hSame⟩
  rw [← hSame] at hWritten
  exact ⟨_, _, binding, Except.ok.inj hWritten⟩

/-
  Elements of one snake case name that have one text have one
  name.
-/
theorem Element.name_eq_of_render_eq
    {element other : Element}
    {name otherName text : String}
    {parents otherParents : List (Option Attribute)}
    (hName : element.name = some name)
    (hOther : other.name = some otherName)
    (hSnake :
      Naming.snakeCase name = Naming.snakeCase otherName)
    (hText : element.render parents = .ok text)
    (hSame : other.render otherParents = .ok text) :
    name = otherName := by
  rcases Element.exists_page_of_render hName hText with
    ⟨className, nativeType, binding, hFirst⟩
  rcases Element.exists_page_of_render hOther hSame with
    ⟨otherClass, otherType, otherBinding, hSecond⟩
  have hCount :
      name.toList.count '=' = otherName.toList.count '=' := by
    rw [← Naming.isKept_slash_equals.2.count_snakeCase name, hSnake,
      Naming.isKept_slash_equals.2.count_snakeCase]
  exact
    Zig.name_eq_of_page_eq hCount (hFirst.trans hSecond.symm)

end ElementBindings
