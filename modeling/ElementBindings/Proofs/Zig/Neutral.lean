import ElementBindings.Proofs.Text.Code
import ElementBindings.Proofs.Zig.Page

/-
  Declarations made of neutral parts.

  If the names, the types and the arguments of a declaration
  are neutral, so are its lines, all of them together: each
  bracket that a statement, a header or a block opens is
  closed by it.  The documentation may say what it likes, since
  no line of it is code.

  Key definitions include:
    * `Zig.Statement.HasNeutralParts`
    * `Zig.FunctionDecl.HasNeutralParts`

  Key theorems include:
    * `Zig.isSettled_docComment`
    * `Zig.Statement.areEven_lines`
    * `Zig.FunctionDecl.isSettled_render`
    * `Zig.isSettled_joinDeclarations`
-/

namespace ElementBindings

open Text

namespace Zig

------------------------------------------------------------
-- Documentation
------------------------------------------------------------

/- Each line of a comment is a comment line. -/
theorem isComment_of_mem_docLines
    {text line : List Char}
    (hLine : line ∈ docLines text) :
    isComment line := by
  rcases mem_docLines_cases hLine with rfl | ⟨source, _, _, rfl⟩
  · rfl
  · rfl

/- Comment lines, each with its line feed, change nothing. -/
theorem isSettled_of_comments
    {lines : List (List Char)}
    (hComments : ∀ line ∈ lines, isComment line)
    (hInside :
      ∀ line ∈ lines, ∀ c ∈ line, ¬ isLineBoundary c) :
    IsSettled (String.ofList (lines.flatMap (· ++ ['\n']))) := by
  intro pending
  unfold awaitedAfter
  rw [String.toList_ofList]
  induction lines with
  | nil => rfl
  | cons line rest ih =>
      have hFree : '\n' ∉ line := fun hFeed =>
        hInside line List.mem_cons_self '\n' hFeed rfl
      have hNone : line.any isLineBoundary = false := by
        rw [List.any_eq_false]
        exact hInside line List.mem_cons_self
      have hLine :
          awaitedAfterLine pending line = some pending := by
        unfold awaitedAfterLine
        rw [if_pos (hComments line List.mem_cons_self), hNone]
        rfl
      have hRest :=
        ih
          (fun later hLater =>
            hComments later (List.mem_cons_of_mem line hLater))
          (fun later hLater =>
            hInside later (List.mem_cons_of_mem line hLater))
      rw [List.flatMap_cons, List.append_assoc,
        List.singleton_append, splitAtEach_append_cons,
        splitAtEach_of_not_mem hFree, List.singleton_append,
        awaitedAfterLines_cons, hLine, Option.bind_some, hRest]

/- So a comment is settled, whatever it documents. -/
theorem isSettled_docComment
    (text : Option String) :
    IsSettled (docComment text) := by
  cases text with
  | none => exact isSettled_empty
  | some text =>
      exact
        isSettled_of_comments
          (fun _ hLine => isComment_of_mem_docLines hLine)
          (fun _ hLine c hChar hBoundary =>
            isLineBoundary_not_mem_docLines hLine hBoundary
              hChar)

/- A comment is closed: its last line has a line feed, too. -/
theorem isClosed_docComment
    (text : Option String) :
    IsClosed (docComment text) := by
  cases text with
  | none => exact .inl rfl
  | some text =>
      unfold docComment
      rcases List.eq_nil_or_concat (docLines text.toList) with
        hNone | ⟨others, last, hLines⟩
      · left
        simp [hNone]
      · right
        refine
          ⟨String.ofList
            (others.flatMap (· ++ ['\n']) ++ last), ?_⟩
        have hFeed : "\n" = String.ofList ['\n'] := rfl
        simp only [hLines, List.concat_eq_append]
        rw [hFeed, ← String.ofList_append]
        simp

/- A documented text is settled if the text itself is. -/
theorem isSettled_documented
    (documentation : Option String)
    {s : String}
    (hText : IsSettled s) :
    IsSettled (docComment documentation ++ s) :=
  IsSettled.append (isSettled_docComment documentation)
    (isClosed_docComment documentation) hText

------------------------------------------------------------
-- Blocks
------------------------------------------------------------

variable {before after : List Char}

/- Lines are read inside a block as they are outside of it. -/
theorem turns_map_indentLine
    {lines : List String}
    (hLines : Turns before after lines) :
    Turns before after (lines.map indentLine) := by
  have hEach :
      ∀ line : String,
        (indentLine line).toList =
          Text.indentLine 4 line.toList := by
    intro line
    unfold indentLine Text.indentLine
    by_cases hEmpty : line = ""
    · rw [if_pos hEmpty, hEmpty]
      rfl
    · rw [if_neg hEmpty, if_neg (by simpa using hEmpty)]
      exact String.toList_append
  have hMap :
      (lines.map indentLine).map String.toList =
        (lines.map String.toList).map (Text.indentLine 4) := by
    rw [List.map_map, List.map_map]
    exact List.map_congr_left fun line _ => hEach line
  intro outer
  rw [hMap, awaitedAfterLines_map_indentLine]
  exact hLines outer

/- A text behind joined lines stands at the end of the last. -/
theorem joinLines_concat_append
    (lines : List String)
    (last tail : String) :
    joinLines (lines ++ [last]) ++ tail =
      joinLines (lines ++ [last ++ tail]) := by
  induction lines with
  | nil => rfl
  | cons line rest ih =>
      have hFirst :
          ∀ end_ : String,
            joinLines (line :: rest ++ [end_]) =
              line ++ "\n" ++ joinLines (rest ++ [end_]) := by
        intro end_
        cases rest with
        | nil => rfl
        | cons next others => rfl
      rw [hFirst, hFirst, String.append_assoc, ih]

/-
  A block with something neutral behind it closes its brace, if
  its header starts with code and its body is even.
-/
theorem isSettled_block_append
    {start tail : List Char}
    {rest : String}
    {body : List String}
    (hCode : startsCode start)
    (hStart : awaitedInLine [] start = some [])
    (hRest : IsNeutral rest)
    (hBody : AreEven body)
    (hTail : awaitedInLine [] tail = some []) :
    IsSettled
      (block (String.ofList start ++ rest) body
        ++ String.ofList tail) := by
  have hOpen :
      awaitedInLine [] (start ++ [' ', '\x7b']) =
        some ['\x7d'] := by
    rw [awaitedInLine_append, hStart]
    rfl
  have hClose :
      awaitedInLine ['\x7d'] ('\x7d' :: tail) = some [] := by
    have hParts : '\x7d' :: tail = ['\x7d'] ++ tail := rfl
    rw [hParts, awaitedInLine_append]
    exact hTail
  have hLast :
      "\x7d" ++ String.ofList tail =
        String.ofList ('\x7d' :: tail) := by
    rw [← List.singleton_append, String.ofList_append]
  unfold block
  rw [joinLines_concat_append, hLast]
  apply AreEven.isSettled_joinLines
  apply turns_cons_around ['\x7d'] hCode hOpen hRest
  apply Turns.append (turns_map_indentLine (hBody.turns _))
  exact turns_cons [] rfl hClose (turns_nil [])

/- So does a block alone. -/
theorem isSettled_block
    {start : List Char}
    {rest : String}
    {body : List String}
    (hCode : startsCode start)
    (hStart : awaitedInLine [] start = some [])
    (hRest : IsNeutral rest)
    (hBody : AreEven body) :
    IsSettled (block (String.ofList start ++ rest) body) := by
  have hAlone :=
    isSettled_block_append hCode hStart hRest hBody
      (rfl : awaitedInLine [] [] = some [])
  rw [String.ofList_nil, String.append_empty] at hAlone
  exact hAlone

/- A neutral line is settled by itself. -/
theorem isSettled_of_neutral
    {line : String}
    (hLine : IsNeutral line) :
    IsSettled line :=
  AreEven.isSettled_joinLines
    (turns_cons_neutral hLine (turns_nil []))

/- Settled declarations are settled one after the other. -/
theorem isSettled_joinDeclarations
    {declarations : List String}
    (hEach : ∀ text ∈ declarations, IsSettled text) :
    IsSettled (joinDeclarations declarations) := by
  induction declarations with
  | nil => exact isSettled_empty
  | cons text rest ih =>
      have hHere := hEach text List.mem_cons_self
      have hRest := ih fun later hLater =>
        hEach later (List.mem_cons_of_mem text hLater)
      cases rest with
      | nil => exact hHere
      | cons next others =>
          have hGap :
              joinDeclarations (text :: next :: others) =
                text ++ "\n"
                  ++ ("" ++ "\n"
                    ++ joinDeclarations (next :: others)) := by
            have hFeeds : "\n\n" = "\n" ++ "\n" := rfl
            simp only [joinDeclarations, joinWith, hFeeds,
              String.append_assoc, String.empty_append]
          rw [hGap]
          exact
            hHere.append_feed (isSettled_empty.append_feed hRest)

------------------------------------------------------------
-- Statements
------------------------------------------------------------

/- The texts of a call are neutral. -/
structure Call.HasNeutralParts
    (call : Call) : Prop where
  function : IsNeutral call.function
  key : IsNeutral call.key.name
  arguments : ∀ text ∈ call.arguments, IsNeutral text

/- A quoted text is neutral if the text is. -/
theorem isNeutral_stringLiteral
    {s : String}
    (hText : IsNeutral s) :
    IsNeutral (stringLiteral s) :=
  isNeutral_around rfl hText

/- The names of the ids of an attribute are neutral. -/
theorem isNeutral_idNames
    (numbering : Numbering) :
    ∀ name ∈ (idParams numbering).map (·.name),
      IsNeutral name := by
  cases numbering with
  | no => simp [idParams]
  | oneId =>
      simp only [idParams, List.map_cons, List.map_nil,
        List.forall_mem_cons]
      exact ⟨isNeutral_of_chars rfl, by simp⟩
  | twoIds =>
      simp only [idParams, List.map_cons, List.map_nil,
        List.forall_mem_cons]
      exact
        ⟨isNeutral_of_chars rfl,
          isNeutral_of_chars rfl, by simp⟩

/- Names with commas between them. -/
theorem isNeutral_commas
    {texts : List String}
    (hTexts : ∀ text ∈ texts, IsNeutral text) :
    IsNeutral (joinWith ", " texts) :=
  isNeutral_joinWith (isNeutral_of_chars rfl) hTexts

/- A tuple closes its brace. -/
theorem isNeutral_tuple
    {names : List String}
    (hNames : ∀ name ∈ names, IsNeutral name) :
    IsNeutral (tuple names) := by
  unfold tuple
  split
  · exact isNeutral_of_chars rfl
  · exact isNeutral_around rfl (isNeutral_commas hNames)

/- The targets of calls are neutral. -/
theorem isNeutral_target
    (target : Target) :
    IsNeutral target.text := by
  cases target with
  | self => exact isNeutral_of_chars rfl
  | ref => exact isNeutral_of_chars rfl

/- A call of neutral parts is neutral. -/
theorem Call.HasNeutralParts.isNeutral_render
    {call : Call}
    (hCall : call.HasNeutralParts) :
    IsNeutral call.render := by
  have hType :
      ∀ text ∈ if call.typed then ["T"] else [],
        IsNeutral text := by
    split
    · simp only [List.forall_mem_singleton]
      exact isNeutral_of_chars rfl
    · simp
  have hTarget := isNeutral_target call.target
  have hAddress :
      ∀ text ∈ call.key.arguments, IsNeutral text := by
    simp only [Key.arguments, List.forall_mem_cons]
    exact
      ⟨isNeutral_stringLiteral hCall.key,
        isNeutral_tuple (isNeutral_idNames _), by simp⟩
  have hTexts :
      ∀ text ∈
        (if call.typed then ["T"] else [])
          ++ call.target.text :: call.key.arguments
          ++ call.arguments,
        IsNeutral text := by
    simp only [List.forall_mem_append, List.forall_mem_cons]
    exact ⟨⟨hType, hTarget, hAddress⟩, hCall.arguments⟩
  have hStart : IsNeutral "interop." := isNeutral_of_chars rfl
  exact
    (hStart.append hCall.function).append_around rfl
      (isNeutral_commas hTexts)

/- So is the call as a statement. -/
theorem Call.HasNeutralParts.isNeutral_line
    {call : Call}
    (hCall : call.HasNeutralParts) :
    IsNeutral call.line :=
  hCall.isNeutral_render.append
    (isNeutral_of_chars rfl)

/- A separator is bare. -/
def IsBareSeparator
    (separator : Option Char) : Prop :=
  ∀ c ∈ separator, isBare c

/- So it can be written as an argument. -/
theorem isNeutral_separatorArgument
    {separator : Option Char}
    (hBare : IsBareSeparator separator) :
    ∀ text ∈ separatorArgument separator, IsNeutral text := by
  cases separator with
  | none => simp [separatorArgument]
  | some c =>
      have hChar := hBare c rfl
      simp only [separatorArgument, List.forall_mem_singleton]
      apply IsBare.isNeutral
      intro d hMember
      simp only [String.toList_ofList, List.mem_cons,
        List.not_mem_nil, or_false] at hMember
      rcases hMember with rfl | rfl | rfl
      · decide
      · exact hChar
      · decide

/- The names of native kinds are neutral. -/
theorem isNeutral_nativeType
    (nativeType : NativeType) :
    IsNeutral nativeType.text := by
  cases nativeType
  all_goals exact isNeutral_of_chars rfl

/-
  The texts that are put into a statement are neutral, and so
  is a line that is given as it is.
-/
def Statement.HasNeutralParts : Statement → Prop
  | .perform call => call.HasNeutralParts
  | .returnCall call => call.HasNeutralParts
  | .bindCall name call =>
      IsNeutral name ∧ call.HasNeutralParts
  | .encodeValue function arguments separator =>
      IsNeutral function ∧
        (∀ text ∈ arguments, IsNeutral text) ∧
        IsBareSeparator separator
  | .ifHandleValid _ call => call.HasNeutralParts
  | .ifValueElse call otherwise =>
      call.HasNeutralParts ∧ otherwise.HasNeutralParts
  | .switchValueElse branches otherwise =>
      (∀ branch ∈ branches,
        IsNeutral branch.1 ∧ branch.2.HasNeutralParts) ∧
        otherwise.HasNeutralParts
  | .bindHandler functionType key =>
      IsNeutral functionType ∧ IsNeutral key
  | .returnParsed type separator =>
      IsNeutral type ∧ IsBareSeparator separator
  | .returnEnum type => IsNeutral type
  | .returnIfEqual text member =>
      IsNeutral text ∧ IsNeutral member
  | .ifHandleFound call result =>
      call.HasNeutralParts ∧ IsNeutral result
  | .other line => IsNeutral line
  | .declareBuffer | .composeDate | .tryHandle _
  | .registerHandler _ | .returnNull | .guardError
  | .returnSelf => True

namespace Statement

/- A single neutral line. -/
theorem areEven_singleton
    {line : String}
    (hLine : IsNeutral line) :
    AreEven [line] :=
  turns_cons_neutral hLine (turns_nil [])

/- A call inside a branch, indented. -/
theorem isNeutral_indented
    {line : String}
    (hLine : IsNeutral line) :
    IsNeutral ("    " ++ line) :=
  IsNeutral.append (isNeutral_of_chars rfl) hLine

/-
  A choice between two calls, the second one in the branch that
  is taken without a value.
-/
theorem turns_otherwise
    {call : Call}
    (hCall : call.HasNeutralParts) :
    Turns ['\x7d'] []
      ["\x7d else \x7b", "    " ++ call.line, "\x7d"] := by
  apply turns_cons ['\x7d'] rfl rfl
  apply turns_cons_neutral
    (isNeutral_indented hCall.isNeutral_line)
  exact turns_cons [] rfl rfl (turns_nil [])

/- A branch of a switch is one neutral line. -/
theorem isNeutral_branchLine
    {branch : String × Call}
    (hName : IsNeutral branch.1)
    (hCall : branch.2.HasNeutralParts) :
    IsNeutral (branchLine branch) := by
  have hStart : IsNeutral "    ." := isNeutral_of_chars rfl
  have hArrow : IsNeutral " => " := isNeutral_of_chars rfl
  have hEnd : IsNeutral "," := isNeutral_of_chars rfl
  exact
    (((hStart.append hName).append hArrow).append
      hCall.isNeutral_render).append hEnd

/-
  The lines of a statement are even: what the statement opens
  is closed by it.
-/
theorem areEven_lines
    {statement : Statement}
    (hParts : statement.HasNeutralParts) :
    AreEven statement.lines := by
  cases statement with
  | perform call =>
      exact
        areEven_singleton
          (Call.HasNeutralParts.isNeutral_line hParts)
  | returnCall call =>
      exact
        areEven_singleton
          (IsNeutral.append (isNeutral_of_chars rfl)
            (Call.HasNeutralParts.isNeutral_line hParts))
  | bindCall name call =>
      have hVar : IsNeutral "var " := isNeutral_of_chars rfl
      have hEquals : IsNeutral " = " := isNeutral_of_chars rfl
      exact
        areEven_singleton
          (((hVar.append hParts.1).append hEquals).append
            hParts.2.isNeutral_line)
  | declareBuffer =>
      exact areEven_singleton (isNeutral_of_chars rfl)
  | encodeValue function arguments separator =>
      rcases hParts with ⟨hFunction, hArguments, hSeparator⟩
      have hTexts :
          ∀ text ∈
            "&buffer" :: arguments
              ++ separatorArgument separator,
            IsNeutral text := by
        simp only [List.forall_mem_append,
          List.forall_mem_cons]
        exact
          ⟨⟨isNeutral_of_chars rfl, hArguments⟩,
            isNeutral_separatorArgument hSeparator⟩
      have hStart : IsNeutral "var value = " :=
        isNeutral_of_chars rfl
      exact
        areEven_singleton
          ((hStart.append hFunction).append_around rfl
            (isNeutral_commas hTexts))
  | composeDate =>
      exact areEven_singleton (isNeutral_of_halves rfl)
  | tryHandle nativeType =>
      exact
        areEven_singleton
          (isNeutral_around rfl
            (isNeutral_nativeType nativeType))
  | ifHandleValid nativeType call =>
      apply turns_cons_around ['\x7d'] rfl rfl
        (isNeutral_nativeType nativeType)
      apply turns_cons_neutral
        (isNeutral_indented
          (Call.HasNeutralParts.isNeutral_line hParts))
      apply turns_cons ['\x7d'] rfl rfl
      apply turns_cons ['\x7d'] rfl rfl
      exact turns_cons [] rfl rfl (turns_nil [])
  | ifValueElse call otherwise =>
      apply turns_cons ['\x7d'] rfl rfl
      apply turns_cons_neutral
        (isNeutral_indented hParts.1.isNeutral_line)
      exact turns_otherwise hParts.2
  | switchValueElse branches otherwise =>
      have hBranches : AreEven (branches.map branchLine) := by
        apply areEven_of_neutral
        intro line hLine
        rcases List.mem_map.mp hLine with
          ⟨branch, hBranch, rfl⟩
        have hBoth := hParts.1 branch hBranch
        exact isNeutral_branchLine hBoth.1 hBoth.2
      have hOpen :
          Turns [] ['\x7d']
            ("if (arg) |value| switch (value) \x7b"
              :: branches.map branchLine) :=
        turns_cons ['\x7d'] rfl rfl
          (hBranches.turns _)
      exact hOpen.append (turns_otherwise hParts.2)
  | bindHandler functionType key =>
      have hTexts :
          ∀ text ∈ [functionType, stringLiteral key],
            IsNeutral text := by
        simp only [List.forall_mem_cons]
        exact
          ⟨hParts.1, isNeutral_stringLiteral hParts.2, by simp⟩
      have hLine :
          (Statement.bindHandler functionType key).lines =
            [ "const Handler = CallbackHandler(Self, "
                ++ joinWith ", "
                  [functionType, stringLiteral key]
                ++ ");" ] := by
        simp only [lines, joinWith, String.append_assoc]
      rw [hLine]
      exact
        areEven_singleton
          (isNeutral_around rfl (isNeutral_commas hTexts))
  | registerHandler target =>
      exact
        areEven_singleton
          (isNeutral_around rfl (isNeutral_target target))
  | returnParsed type separator =>
      have hTexts :
          ∀ text ∈ "str" :: separatorArgument separator,
            IsNeutral text := by
        simp only [List.forall_mem_cons]
        exact
          ⟨isNeutral_of_chars rfl,
            isNeutral_separatorArgument hParts.2⟩
      have hStart : IsNeutral "return " := isNeutral_of_chars rfl
      exact
        areEven_singleton
          ((hStart.append hParts.1).append_around rfl
            (isNeutral_commas hTexts))
  | returnEnum type =>
      exact areEven_singleton (isNeutral_around rfl hParts)
  | returnIfEqual text member =>
      have hEnd : IsNeutral ";" := isNeutral_of_chars rfl
      exact
        areEven_singleton
          (((isNeutral_around rfl
            (isNeutral_stringLiteral hParts.1)).append
              hParts.2).append hEnd)
  | ifHandleFound call result =>
      apply turns_cons_around ['\x7d'] rfl rfl
        hParts.1.isNeutral_render
      apply turns_cons_neutral
        (isNeutral_around rfl hParts.2)
      apply turns_cons ['\x7d'] rfl rfl
      apply turns_cons ['\x7d'] rfl rfl
      exact turns_cons [] rfl rfl (turns_nil [])
  | returnNull =>
      exact areEven_singleton (isNeutral_of_chars rfl)
  | guardError =>
      exact areEven_singleton (isNeutral_of_chars rfl)
  | returnSelf =>
      exact areEven_singleton (isNeutral_of_chars rfl)
  | other line => exact areEven_singleton hParts

end Statement

------------------------------------------------------------
-- Functions
------------------------------------------------------------

/- A parameter with a neutral name and a neutral type. -/
structure Param.HasNeutralParts
    (param : Param) : Prop where
  name : IsNeutral param.name
  type : IsNeutral param.type

/- It is neutral as it is declared. -/
theorem Param.HasNeutralParts.isNeutral_render
    {param : Param}
    (hParam : param.HasNeutralParts) :
    IsNeutral param.render :=
  (hParam.name.append
    (isNeutral_of_chars rfl)).append hParam.type

/- So are parameters, with commas between them. -/
theorem isNeutral_params
    {params : List Param}
    (hParams : ∀ param ∈ params, param.HasNeutralParts) :
    IsNeutral (joinWith ", " (params.map Param.render)) := by
  apply isNeutral_commas
  intro text hText
  rcases List.mem_map.mp hText with ⟨param, hParam, rfl⟩
  exact (hParams param hParam).isNeutral_render

/- A function whose header is neutral and whose body is even. -/
structure FunctionDecl.HasNeutralParts
    (function : FunctionDecl) : Prop where
  name : IsNeutral function.name
  params : ∀ param ∈ function.params, param.HasNeutralParts
  result : IsNeutral function.result
  body : AreEven (function.body.flatMap Statement.lines)

/- A function closes what it opens. -/
theorem FunctionDecl.HasNeutralParts.isSettled_render
    {function : FunctionDecl}
    (hFunction : function.HasNeutralParts) :
    IsSettled function.render := by
  have hRest :
      IsNeutral
        (function.name ++ "("
          ++ joinWith ", " (function.params.map Param.render)
          ++ ") " ++ function.result) :=
    IsNeutral.append
      (hFunction.name.append_around rfl
        (isNeutral_params hFunction.params))
      hFunction.result
  have hHeader :
      function.header =
        "pub fn "
          ++ (function.name ++ "("
            ++ joinWith ", " (function.params.map Param.render)
            ++ ") " ++ function.result) := by
    simp only [FunctionDecl.header, String.append_assoc]
  unfold FunctionDecl.render
  rw [hHeader]
  exact
    isSettled_documented _
      (isSettled_block rfl rfl hRest
        hFunction.body)

/- Functions of neutral parts are settled one after the other. -/
theorem isSettled_renderFunctions
    {functions : List FunctionDecl}
    (hFunctions :
      ∀ function ∈ functions, function.HasNeutralParts) :
    IsSettled (renderFunctions functions) := by
  apply isSettled_joinDeclarations
  intro text hText
  rcases List.mem_map.mp hText with ⟨function, hMember, rfl⟩
  exact (hFunctions function hMember).isSettled_render

------------------------------------------------------------
-- Types
------------------------------------------------------------

/- A digit is bare. -/
theorem isBare_of_isDigit
    {c : Char}
    (hDigit : c.isDigit) :
    isBare c := by
  have hRange : 48 ≤ c.toNat ∧ c.toNat ≤ 57 := by
    simpa [Char.isDigit, UInt32.le_iff_toNat_le] using hDigit
  have hInside : isLineBoundary c = false := by
    simp only [isLineBoundary, inRanges, lineBoundaryRanges,
      List.any_eq_false, Bool.and_eq_true, decide_eq_true_eq]
    simp
    omega
  have hOther : isBracket c = false := by
    rw [Bool.eq_false_iff]
    intro hBracket
    have hNone :
        ['(', '[', '\x7b', ')', ']', '\x7d'].all
          (!Char.isDigit ·) := by decide
    have hHere :=
      List.all_eq_true.mp hNone c (mem_of_isBracket hBracket)
    simp [hDigit] at hHere
  simp [isBare, hOther, hInside]

/- So are the digits of a number, all together. -/
theorem isNeutral_number
    (n : Nat) :
    IsNeutral (toString n) := by
  apply IsBare.isNeutral
  intro c hChar
  have hDigits : (toString n).toList = Nat.toDigits 10 n :=
    Nat.toList_repr
  rw [hDigits] at hChar
  exact
    isBare_of_isDigit
      (Nat.isDigit_of_mem_toDigits (by decide) (by decide) hChar)

/- A whole number is neutral as it is written. -/
theorem isNeutral_whole
    (number : Whole) :
    IsNeutral number.text := by
  cases number with
  | int n =>
      cases n with
      | ofNat n => exact isNeutral_number n
      | negSucc n =>
          exact
            IsNeutral.append (isNeutral_of_chars rfl)
              (isNeutral_number (n + 1))
  | flag value =>
      cases value with
      | false => exact isNeutral_of_chars rfl
      | true => exact isNeutral_of_chars rfl

/- A type whose name and whose members are neutral. -/
structure EnumType.HasNeutralParts
    (type : EnumType) : Prop where
  name : IsNeutral type.name
  members : ∀ member ∈ type.members, IsNeutral member.1

/- A member is declared on one neutral line. -/
theorem EnumType.isNeutral_memberLine
    {member : String × Option Whole}
    (hName : IsNeutral member.1) :
    IsNeutral (memberLine member) := by
  have hComma : IsNeutral "," := isNeutral_of_chars rfl
  unfold memberLine
  cases member.2 with
  | none => exact hName.append hComma
  | some number =>
      have hEquals : IsNeutral " = " := isNeutral_of_chars rfl
      exact
        ((hName.append hEquals).append
          (isNeutral_whole number)).append hComma

/- An enumerated type closes its brace. -/
theorem EnumType.HasNeutralParts.isSettled_render
    {type : EnumType}
    (hType : type.HasNeutralParts) :
    IsSettled type.render := by
  have hTag :
      IsNeutral (if type.numbered then "(i32)" else "") := by
    split
    · exact isNeutral_of_chars rfl
    · exact isNeutral_of_chars rfl
  have hMembers : AreEven (type.members.map memberLine) := by
    apply areEven_of_neutral
    intro line hLine
    rcases List.mem_map.mp hLine with ⟨member, hMember, rfl⟩
    exact
      EnumType.isNeutral_memberLine
        (hType.members member hMember)
  have hEnum : IsNeutral " = enum" := isNeutral_of_chars rfl
  have hText :
      type.render =
        docComment type.documentation
          ++ (block
            ("pub const "
              ++ (type.name ++ " = enum"
                ++ (if type.numbered then "(i32)" else "")))
            (type.members.map memberLine)
            ++ ";") := by
    simp only [EnumType.render, String.append_assoc]
  rw [hText]
  exact
    isSettled_documented _
      (isSettled_block_append rfl rfl
        ((hType.name.append hEnum).append hTag) hMembers
        rfl)

/- A handler type whose name and types are neutral. -/
structure HandlerType.HasNeutralParts
    (type : HandlerType) : Prop where
  name : IsNeutral type.name
  arguments : ∀ text ∈ type.arguments, IsNeutral text
  result : IsNeutral type.result

/- The receivers of functions are neutral. -/
theorem hasNeutralParts_selfParam
    (context : Context) :
    (selfParam context).HasNeutralParts := by
  cases context with
  | initializer =>
      exact ⟨isNeutral_of_chars rfl, isNeutral_of_chars rfl⟩
  | live =>
      exact ⟨isNeutral_of_chars rfl, isNeutral_of_chars rfl⟩

/- A handler type is one neutral line. -/
theorem HandlerType.HasNeutralParts.isSettled_render
    {type : HandlerType}
    (hType : type.HasNeutralParts) :
    IsSettled type.render := by
  have hParams :
      ∀ param ∈ selfParam .live :: type.params,
        param.HasNeutralParts := by
    intro param hParam
    rcases List.mem_cons.mp hParam with rfl | hNumbered
    · exact hasNeutralParts_selfParam .live
    · rcases List.mem_map.mp hNumbered with
        ⟨⟨argument, i⟩, hArgument, rfl⟩
      constructor
      · exact
          IsNeutral.append (isNeutral_of_chars rfl)
            (isNeutral_number i)
      · exact
          hType.arguments argument
            (List.fst_mem_of_mem_zipIdx hArgument)
  have hStart : IsNeutral "pub const " := isNeutral_of_chars rfl
  have hEnd : IsNeutral ";" := isNeutral_of_chars rfl
  have hLine :
      IsNeutral
        ("pub const " ++ type.name ++ " = fn ("
          ++ joinWith ", "
            ((selfParam .live :: type.params).map Param.render)
          ++ ") anyerror!" ++ type.result ++ ";") :=
    (IsNeutral.append
      ((hStart.append hType.name).append_around rfl
        (isNeutral_params hParams)) hType.result).append hEnd
  have hText :
      type.render =
        docComment type.documentation
          ++ ("pub const " ++ type.name ++ " = fn ("
            ++ joinWith ", "
              ((selfParam .live :: type.params).map
                Param.render)
            ++ ") anyerror!" ++ type.result ++ ";") := by
    simp only [HandlerType.render, String.append_assoc]
  rw [hText]
  exact isSettled_documented _ (isSettled_of_neutral hLine)

------------------------------------------------------------
-- Tests
------------------------------------------------------------

/- A test whose names, arguments and check are neutral. -/
structure RoundTrip.HasNeutralParts
    (test : RoundTrip) : Prop where
  element : IsNeutral test.element
  subject : IsNeutral test.subject
  setterArguments :
    ∀ text ∈ test.setterArguments, IsNeutral text
  getterArguments :
    ∀ text ∈ test.getterArguments, IsNeutral text
  check : IsNeutral test.check

/- A test closes what it opens. -/
theorem RoundTrip.HasNeutralParts.isSettled_render
    {test : RoundTrip}
    (hTest : test.HasNeutralParts) :
    IsSettled test.render := by
  have hBlank : IsNeutral " " := isNeutral_of_chars rfl
  have hTitle :
      IsNeutral
        (stringLiteral (test.element ++ " " ++ test.subject)) :=
    isNeutral_stringLiteral
      ((hTest.element.append hBlank).append hTest.subject)
  have hInit : IsNeutral ".init().set" := isNeutral_of_chars rfl
  have hSet :
      IsNeutral
        (test.element ++ ".init().set" ++ test.subject ++ "("
          ++ joinWith ", " test.setterArguments ++ ")") :=
    IsNeutral.append_around
      ((hTest.element.append hInit).append hTest.subject)
      rfl (isNeutral_commas hTest.setterArguments)
  have hItem :
      IsNeutral
        ("var item = try (iup." ++ test.element
          ++ ".init().set" ++ test.subject ++ "("
          ++ joinWith ", " test.setterArguments
          ++ ").unwrap());") := by
    have hParts :
        "var item = try (iup." ++ test.element
            ++ ".init().set" ++ test.subject ++ "("
            ++ joinWith ", " test.setterArguments
            ++ ").unwrap());" =
          "var item = try (iup."
            ++ (test.element ++ ".init().set" ++ test.subject
              ++ "(" ++ joinWith ", " test.setterArguments
              ++ ")")
            ++ ".unwrap());" := by
      have hSplit : ").unwrap());" = ")" ++ ".unwrap());" := rfl
      rw [hSplit]
      simp only [String.append_assoc]
    rw [hParts]
    exact isNeutral_around rfl hSet
  have hVar : IsNeutral "var ret = item.get" :=
    isNeutral_of_chars rfl
  have hGet :
      IsNeutral
        ("var ret = item.get" ++ test.subject ++ "("
          ++ joinWith ", " test.getterArguments ++ ");") :=
    (hVar.append hTest.subject).append_around rfl
      (isNeutral_commas hTest.getterArguments)
  have hExpect :
      IsNeutral
        ("try std.testing.expect(" ++ test.check ++ ");") :=
    isNeutral_around rfl hTest.check
  unfold RoundTrip.render
  apply isSettled_block rfl rfl hTitle
  apply areEven_of_neutral
  simp only [List.forall_mem_cons, List.not_mem_nil,
    false_implies, implies_true, and_true]
  exact
    ⟨isNeutral_of_chars rfl,
      isNeutral_of_chars rfl,
      isNeutral_of_chars rfl, hItem,
      isNeutral_of_chars rfl,
      isNeutral_of_chars rfl, hGet,
      isNeutral_of_chars rfl, hExpect⟩

end Zig

end ElementBindings
