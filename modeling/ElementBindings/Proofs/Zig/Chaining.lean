import Mathlib.Data.List.Flatten
import ElementBindings.Proofs.Zig.Addressing
import ElementBindings.Proofs.Zig.Bare

/-
  Setters of the initializer and of the live element.

  A setter of the initializer does nothing once an error is
  noted, and hands the initializer on.  In between it does
  what the setter of the live element does, but on the element
  that the initializer refers to.  Only a handle that has to
  be of a native kind is set in another way: where a live
  setter hands on the error, the initializer notes it.

  Key definitions include:
    * `Zig.FunctionDecl.IsChained`
    * `Zig.Statement.on`, `Zig.Redirected`
    * `Zig.FunctionDecl.Mirrors`
    * `Zig.liveSetters`

  Key theorems include:
    * `Zig.FunctionDecl.IsChained.lines`
    * `Zig.Statement.redirected_lines`
    * `Attribute.mirrors_setterForms`
    * `Zig.initializer_mirrors_live`
-/

namespace ElementBindings

open Zig

------------------------------------------------------------
-- Lines
------------------------------------------------------------

namespace Text

/- A text without line feed. -/
def IsOneLine
    (s : String) : Prop :=
  '\n' ∉ s.toList

instance (s : String) : Decidable (IsOneLine s) :=
  inferInstanceAs (Decidable ('\n' ∉ s.toList))

/- Two of them stand on one line. -/
theorem IsOneLine.append
    {s t : String}
    (hFirst : IsOneLine s)
    (hSecond : IsOneLine t) :
    IsOneLine (s ++ t) := by
  unfold IsOneLine at *
  rw [String.toList_append, List.mem_append, not_or]
  exact ⟨hFirst, hSecond⟩

/- So do any number of them, with what stands in between. -/
theorem isOneLine_joinWith
    {separator : String}
    {pieces : List String}
    (hSeparator : IsOneLine separator)
    (hPieces : ∀ piece ∈ pieces, IsOneLine piece) :
    IsOneLine (joinWith separator pieces) := by
  fun_induction joinWith separator pieces with
  | case1 => decide
  | case2 s => exact hPieces s (by simp)
  | case3 s t rest ih =>
      rw [List.forall_mem_cons] at hPieces
      exact
        (hPieces.1.append hSeparator).append (ih hPieces.2)

/- The lines of joined lines are those of each of them. -/
theorem splitAtEach_joinLines
    {lines : List String}
    (hSome : lines ≠ []) :
    splitAtEach '\n' (joinLines lines).toList =
      lines.flatMap fun line =>
        splitAtEach '\n' line.toList := by
  induction lines with
  | nil => exact absurd rfl hSome
  | cons line rest ih =>
      cases rest with
      | nil => simp [joinLines, joinWith]
      | cons next others =>
          have hText :
              (joinLines (line :: next :: others)).toList =
                line.toList
                  ++ '\n' :: (joinLines (next :: others)).toList := by
            unfold joinLines
            rw [joinWith, String.toList_append,
              String.toList_append, List.append_assoc]
            rfl
          rw [hText, splitAtEach_append_cons,
            ih (List.cons_ne_nil _ _)]
          rfl

end Text

------------------------------------------------------------
-- Chained Functions
------------------------------------------------------------

namespace Zig

/-
  A function is chained: it is called on the initializer and
  returns it, and whatever it does is skipped if an error was
  noted before.
-/
structure FunctionDecl.IsChained
    (function : FunctionDecl) : Prop where
  params :
    ∃ others, function.params = selfParam .initializer :: others
  result : function.result = "Initializer"
  body :
    ∃ inner,
      function.body = .guardError :: inner ++ [.returnSelf]

/- Documentation does not matter for that. -/
theorem FunctionDecl.IsChained.documented
    {function : FunctionDecl}
    (hChained : function.IsChained)
    (documentation : Option String) :
    FunctionDecl.IsChained
      { function with documentation := documentation } :=
  ⟨hChained.params, hChained.result, hChained.body⟩

/- The header shows what it is called on and what it returns. -/
theorem FunctionDecl.IsChained.exists_header
    {function : FunctionDecl}
    (hChained : function.IsChained) :
    ∃ others,
      function.header =
        "pub fn " ++ function.name ++ "("
          ++ "self: *Initializer" ++ others
          ++ ") Initializer" := by
  rcases hChained.params with ⟨others, hParams⟩
  have hReceiver :
      (selfParam .initializer).render = "self: *Initializer" := by
    decide
  have hJoined :
      ∃ more,
        Text.joinWith ", " (function.params.map Param.render) =
          "self: *Initializer" ++ more := by
    rw [hParams, List.map_cons, hReceiver]
    cases others with
    | nil => exact ⟨"", by simp [Text.joinWith]⟩
    | cons first rest =>
        refine
          ⟨", " ++ Text.joinWith ", "
            ((first :: rest).map Param.render), ?_⟩
        rw [List.map_cons, Text.joinWith, String.append_assoc]
  rcases hJoined with ⟨more, hMore⟩
  refine ⟨more, ?_⟩
  have hEnd : ") Initializer" = ") " ++ "Initializer" := rfl
  unfold FunctionDecl.header
  rw [hMore, hChained.result, hEnd]
  simp only [String.append_assoc]

/-
  The first line of its body is the check for an error, and
  the last one returns the initializer.
-/
theorem FunctionDecl.IsChained.lines
    {function : FunctionDecl}
    (hChained : function.IsChained)
    (hHeader : Text.IsOneLine function.header) :
    ∃ inner,
      Text.splitAtEach '\n'
          (block function.header
            (function.body.flatMap Statement.lines)).toList =
        (function.header ++ " \x7b").toList
          :: "    if (self.last_error) |_| return self.*;".toList
          :: inner
          ++ ["    return self.*;".toList, "\x7d".toList] := by
  rcases hChained.body with ⟨inner, hBody⟩
  have hFirst :
      Text.splitAtEach '\n' (function.header ++ " \x7b").toList =
        [(function.header ++ " \x7b").toList] :=
    Text.splitAtEach_of_not_mem
      (Text.IsOneLine.append hHeader (by decide))
  have hLines :
      (function.body.flatMap Statement.lines).map indentLine =
        "    if (self.last_error) |_| return self.*;"
          :: (inner.flatMap Statement.lines).map indentLine
          ++ ["    return self.*;"] := by
    rw [hBody]
    simp only [List.flatMap_append, List.flatMap_cons,
      List.flatMap_nil, List.map_append, List.map_cons,
      Statement.lines, List.cons_append, List.nil_append,
      List.append_nil, List.map_nil]
    rfl
  refine
    ⟨((inner.flatMap Statement.lines).map indentLine).flatMap
      fun line => Text.splitAtEach '\n' line.toList, ?_⟩
  have hGuard :
      Text.splitAtEach '\n'
          "    if (self.last_error) |_| return self.*;".toList =
        ["    if (self.last_error) |_| return self.*;".toList] :=
    Text.splitAtEach_of_not_mem (by decide)
  have hReturn :
      Text.splitAtEach '\n' "    return self.*;".toList =
        ["    return self.*;".toList] :=
    Text.splitAtEach_of_not_mem (by decide)
  have hBrace :
      Text.splitAtEach '\n' "\x7d".toList = ["\x7d".toList] :=
    Text.splitAtEach_of_not_mem (by decide)
  unfold block
  rw [hLines, Text.splitAtEach_joinLines (by simp)]
  simp only [List.cons_append, List.flatMap_cons,
    List.flatMap_append, List.flatMap_nil, hFirst, hGuard,
    hReturn, hBrace, List.nil_append, List.append_nil,
    List.append_assoc]

------------------------------------------------------------
-- Targets
------------------------------------------------------------

/- A call on another target. -/
def Call.on
    (target : Target)
    (call : Call) : Call :=
  { call with target := target }

/- A statement with all its calls on another target. -/
def Statement.on
    (target : Target) :
    Statement →
    Statement
  | .perform call => .perform (call.on target)
  | .returnCall call => .returnCall (call.on target)
  | .bindCall name call => .bindCall name (call.on target)
  | .ifHandleValid nativeType call =>
      .ifHandleValid nativeType (call.on target)
  | .ifValueElse call otherwise =>
      .ifValueElse (call.on target) (otherwise.on target)
  | .switchValueElse branches otherwise =>
      .switchValueElse
        (branches.map fun (member, call) =>
          (member, call.on target))
        (otherwise.on target)
  | .registerHandler _ => .registerHandler target
  | .ifHandleFound call result =>
      .ifHandleFound (call.on target) result
  | statement => statement

/-
  A line that is redirected from the element to the reference
  of the initializer: it calls nothing, or it differs only in
  the target of its call.
-/
inductive Redirected :
    String →
    String →
    Prop where
  | kept
      (line : String) :
      Redirected line line
  | call
      (start function type rest : String)
      (hType : type = "" ∨ type = "T, ") :
      Redirected
        (start ++ ("interop." ++ function ++ "(" ++ type
          ++ "self" ++ rest))
        (start ++ ("interop." ++ function ++ "(" ++ type
          ++ "self.ref" ++ rest))
  | handler :
      Redirected "Handler.setCallback(self, callback);"
        "Handler.setCallback(self.ref, callback);"

/- A call is written with its target behind its type. -/
theorem Call.exists_render
    (call : Call) :
    ∃ type rest,
      (type = "" ∨ type = "T, ") ∧
        ∀ target,
          (call.on target).render =
            "interop." ++ call.function ++ "(" ++ type
              ++ target.text ++ rest := by
  let others := call.key.arguments ++ call.arguments
  have hListed :
      ∀ target : Target,
        Text.joinWith ", "
            ((if call.typed then ["T"] else [])
              ++ target.text :: call.key.arguments
              ++ call.arguments) =
          (if call.typed then "T, " else "") ++ target.text
            ++ ", " ++ Text.joinWith ", " others := by
    intro target
    have hTarget :
        Text.joinWith ", " (target.text :: others) =
          target.text ++ ", " ++ Text.joinWith ", " others :=
      rfl
    cases call.typed with
    | false => exact hTarget.trans (by simp)
    | true =>
        have hType :
            Text.joinWith ", " ("T" :: target.text :: others) =
              "T, " ++ Text.joinWith ", "
                (target.text :: others) := rfl
        refine hType.trans ?_
        rw [hTarget]
        simp only [String.append_assoc, if_true]
  refine
    ⟨if call.typed then "T, " else "",
      ", " ++ Text.joinWith ", " others ++ ")", ?_, ?_⟩
  · cases call.typed <;> simp
  · intro target
    have hRender :
        (call.on target).render =
          "interop." ++ call.function ++ "("
            ++ Text.joinWith ", "
              ((if call.typed then ["T"] else [])
                ++ target.text :: call.key.arguments
                ++ call.arguments)
            ++ ")" := rfl
    rw [hRender, hListed]
    simp only [String.append_assoc]

/- So a call is redirected, wherever it stands in a line. -/
theorem redirected_call
    (call : Call)
    (start rest : String) :
    Redirected
      (start ++ (call.on .self).render ++ rest)
      (start ++ (call.on .ref).render ++ rest) := by
  rcases call.exists_render with
    ⟨type, others, hType, hRender⟩
  have hLine :=
    Redirected.call start call.function type (others ++ rest)
      hType
  rw [hRender, hRender]
  simp only [String.append_assoc, Target.text] at hLine ⊢
  exact hLine

/- A line that is a call is redirected. -/
theorem redirected_line
    (call : Call)
    (start : String) :
    Redirected (start ++ (call.on .self).line)
      (start ++ (call.on .ref).line) := by
  have hLine := redirected_call call start ";"
  rw [String.append_assoc, String.append_assoc] at hLine
  exact hLine

/- A statement on another target has its lines redirected. -/
theorem Statement.redirected_lines
    (statement : Statement) :
    List.Forall₂ Redirected (statement.on .self).lines
      (statement.on .ref).lines := by
  cases statement with
  | perform call =>
      have hLine := redirected_line call ""
      rw [String.empty_append, String.empty_append] at hLine
      exact .cons hLine .nil
  | returnCall call =>
      exact .cons (redirected_line call "return ") .nil
  | bindCall name call =>
      exact
        .cons (redirected_line call ("var " ++ name ++ " = "))
          .nil
  | ifHandleValid nativeType call =>
      exact
        .cons (.kept _) (.cons (redirected_line call "    ")
          (.cons (.kept _) (.cons (.kept _)
            (.cons (.kept _) .nil))))
  | ifValueElse call otherwise =>
      exact
        .cons (.kept _) (.cons (redirected_line call "    ")
          (.cons (.kept _)
            (.cons (redirected_line otherwise "    ")
              (.cons (.kept _) .nil))))
  | switchValueElse branches otherwise =>
      have hBranches :
          List.Forall₂ Redirected
            ((branches.map fun (member, call) =>
              (member, call.on .self)).map branchLine)
            ((branches.map fun (member, call) =>
              (member, call.on .ref)).map branchLine) := by
        simp only [List.map_map, List.forall₂_map_left_iff,
          List.forall₂_map_right_iff, List.forall₂_same]
        intro branch _
        exact
          redirected_call branch.2
            ("    ." ++ branch.1 ++ " => ") ","
      exact
        .cons (.kept _) (List.rel_append hBranches
          (.cons (.kept _)
            (.cons (redirected_line otherwise "    ")
              (.cons (.kept _) .nil))))
  | registerHandler target => exact .cons .handler .nil
  | ifHandleFound call result =>
      exact
        .cons (redirected_call call "if (" ") |handle| \x7b")
          (.cons (.kept _) (.cons (.kept _) (.cons (.kept _)
            (.cons (.kept _) .nil))))
  | _ => exact List.forall₂_same.mpr fun line _ => .kept line

------------------------------------------------------------
-- Forms
------------------------------------------------------------

/-
  The forms of a setter in both contexts.  They are alike but
  for the target, or they store a handle that is validated.
-/
inductive SetterForm.Mirrors
    (validated : NativeType → Prop)
    (live twin : SetterForm) : Prop where
  | alike
      (inner : List Statement)
      (hSafe : live.fallible = false)
      (hLive : live.body = inner.map (Statement.on .self))
      (hTwin :
        twin =
          { live with body := inner.map (Statement.on .ref) })
  | checked
      (nativeType : NativeType)
      (key : Key)
      (hValidated : validated nativeType)
      (hLive :
        live = handleForm .live key (.validated nativeType))
      (hTwin :
        twin =
          handleForm .initializer key (.validated nativeType))

variable {validated : NativeType → Prop}
variable {live twin : SetterForm}

/- A form is alike if its calls are on the element itself. -/
theorem SetterForm.mirrors_of_self
    (hSafe : live.fallible = false)
    (hLive :
      live.body = live.body.map (Statement.on .self))
    (hTwin :
      twin =
        { live with
          body := live.body.map (Statement.on .ref) }) :
    live.Mirrors validated twin :=
  .alike live.body hSafe hLive hTwin

/- The form of an initializer cannot fail. -/
theorem SetterForm.Mirrors.safe
    (hMirrors : live.Mirrors validated twin) :
    twin.fallible = false := by
  cases hMirrors with
  | alike inner hSafe hLive hTwin =>
      rw [hTwin]
      exact hSafe
  | checked nativeType key hValidated hLive hTwin =>
      rw [hTwin]
      rfl

/- A handle is stored alike, unless it is validated. -/
theorem mirrors_handleForm
    (key : Key)
    (kind : HandleKind)
    (hValidated :
      ∀ nativeType, kind = .validated nativeType →
        validated nativeType) :
    (handleForm .live key kind).Mirrors validated
      (handleForm .initializer key kind) := by
  cases kind with
  | known name =>
      exact SetterForm.mirrors_of_self rfl rfl rfl
  | unchecked =>
      exact SetterForm.mirrors_of_self rfl rfl rfl
  | validated nativeType =>
      exact
        .checked nativeType key (hValidated nativeType rfl) rfl
          rfl

/- The branches of members are alike one by one. -/
theorem mirrors_enumStringForm
    (key : Key)
    (type : String)
    (values : List EnumValue) :
    (enumStringForm .live key type values).Mirrors validated
      (enumStringForm .initializer key type values) := by
  have hBranches :
      ∀ context,
        (values.map (enumBranch .live key)).map
            (fun (member, call) =>
              (member, call.on (targetOf context))) =
          values.map (enumBranch context key) := by
    intro context
    rw [List.map_map]
    rfl
  refine SetterForm.mirrors_of_self rfl ?_ ?_
  · exact
      congrArg
        (fun branches =>
          [Statement.switchValueElse branches
            (clearCall .live key)])
        (hBranches .live).symm
  · exact
      congrArg
        (fun branches =>
          SetterForm.plain [⟨"arg", "?" ++ type⟩]
            [.switchValueElse branches
              (clearCall .initializer key)])
        (hBranches .initializer).symm

end Zig

namespace Attribute

variable {a : Attribute}
variable {rule : Rule}

/- The attribute is a handle that has to be of a native kind. -/
def IsValidated
    (a : Attribute)
    (nativeType : NativeType) : Prop :=
  a.rule = .ok .handle ∧
    a.handleKind = .validated nativeType

/- The forms of an attribute mirror each other, one by one. -/
theorem mirrors_setterForms
    {live twins : List SetterForm}
    (hRule : a.rule = .ok rule)
    (hLive : a.setterForms .live rule = .ok live)
    (hTwins : a.setterForms .initializer rule = .ok twins) :
    List.Forall₂ (SetterForm.Mirrors a.IsValidated) live
      twins := by
  rcases exists_parts_of_setterForms hLive with
    ⟨values, separator, key, hValues, hSeparator, hKey⟩
  unfold setterForms at hLive hTwins
  rw [hKey] at hLive hTwins
  cases rule with
  | handle =>
      cases hLive
      cases hTwins
      refine
        .cons (mirrors_handleForm key a.handleKind ?_)
          (.cons (SetterForm.mirrors_of_self rfl rfl rfl) .nil)
      intro nativeType hKind
      exact ⟨hRule, hKind⟩
  | linColPos | xyPos | range =>
      have hParted : a.separator.map some = .ok separator :=
        hSeparator
      rw [hParted] at hLive hTwins
      cases hLive
      cases hTwins
      exact .cons (SetterForm.mirrors_of_self rfl rfl rfl) .nil
  | enumString =>
      have hListed : a.distinctValues = .ok values := hValues
      rw [hListed] at hLive hTwins
      cases hLive
      cases hTwins
      exact .cons (mirrors_enumStringForm key _ values) .nil
  | unsupported =>
      cases hLive
      cases hTwins
      exact .nil
  | _ =>
      cases hLive
      cases hTwins
      exact .cons (SetterForm.mirrors_of_self rfl rfl rfl) .nil

end Attribute

------------------------------------------------------------
-- Functions
------------------------------------------------------------

namespace Zig

/-
  Functions of both contexts are declared alike: with the same
  documentation and name, and with the same parameters behind
  the receiver.
-/
structure FunctionDecl.SameSignature
    (live twin : FunctionDecl) : Prop where
  documentation : live.documentation = twin.documentation
  name : live.name = twin.name
  params :
    ∃ params,
      live.params = selfParam .live :: params ∧
        twin.params = selfParam .initializer :: params

/-
  A setter of the initializer mirrors one of the live element.
  Between the check for an error and the return it does the
  same, line by line, on the reference of the initializer; or
  both store a handle that is validated.
-/
inductive FunctionDecl.Mirrors
    (validated : NativeType → Prop)
    (live twin : FunctionDecl) : Prop where
  | alike
      (inner : List Statement)
      (hSignature : live.SameSignature twin)
      (hResult : live.result = "void")
      (hLive : live.body = inner.map (Statement.on .self))
      (hTwin :
        twin.body =
          .guardError :: inner.map (Statement.on .ref)
            ++ [.returnSelf])
      (hLines :
        List.Forall₂ Redirected
          (live.body.flatMap Statement.lines)
          ((inner.map (Statement.on .ref)).flatMap
            Statement.lines))
  | checked
      (nativeType : NativeType)
      (call : Call)
      (hSignature : live.SameSignature twin)
      (hResult : live.result = "!void")
      (hValidated : validated nativeType)
      (hStores : call.function = "setHandleAttribute")
      (hLive :
        live.body.flatMap Statement.lines =
          [ "try interop.validateHandle(." ++ nativeType.text
              ++ ", arg);",
            (call.on .self).line ])
      (hTwin :
        twin.body.flatMap Statement.lines =
          [ "if (self.last_error) |_| return self.*;",
            "if (interop.validateHandle(." ++ nativeType.text
              ++ ", arg)) \x7b",
            "    " ++ (call.on .ref).line,
            "\x7d else |err| \x7b",
            "    self.last_error = err;",
            "\x7d",
            "return self.*;" ])

/- The setter of a form that cannot fail is chained. -/
theorem SetterForm.isChained
    {form : SetterForm}
    (hSafe : form.fallible = false)
    (numbering : Numbering)
    (documentation : Option String)
    (name : String) :
    (form.function .initializer numbering documentation
      name).IsChained := by
  refine ⟨⟨_, rfl⟩, ?_, ⟨form.body, rfl⟩⟩
  simp [SetterForm.function, setterResult, hSafe]

variable {validated : NativeType → Prop}

/- Statements have their lines redirected one after the other. -/
theorem redirected_body
    (inner : List Statement) :
    List.Forall₂ Redirected
      ((inner.map (Statement.on .self)).flatMap
        Statement.lines)
      ((inner.map (Statement.on .ref)).flatMap
        Statement.lines) := by
  induction inner with
  | nil => exact .nil
  | cons statement rest ih =>
      exact List.rel_append statement.redirected_lines ih

/- The setters of forms that mirror each other do so, too. -/
theorem SetterForm.Mirrors.function
    {live twin : SetterForm}
    (hMirrors : live.Mirrors validated twin)
    (numbering : Numbering)
    (documentation : Option String)
    (name : String) :
    (live.function .live numbering documentation
        name).Mirrors validated
      (twin.function .initializer numbering documentation
        name) := by
  cases hMirrors with
  | alike inner hSafe hLive hTwin =>
      have hLines := redirected_body inner
      rw [← hLive] at hLines
      subst hTwin
      refine
        .alike inner ⟨rfl, rfl, ⟨_, rfl, rfl⟩⟩ ?_ hLive rfl
          hLines
      simp [SetterForm.function, setterResult, hSafe]
  | checked nativeType key hValidated hLive hTwin =>
      subst hLive hTwin
      exact
        .checked nativeType
          (storeCall .live key "setHandleAttribute" ["arg"])
          ⟨rfl, rfl, ⟨_, rfl, rfl⟩⟩ rfl hValidated rfl rfl rfl

/- Documentation is no part of what functions do. -/
theorem FunctionDecl.Mirrors.documented
    {live twin : FunctionDecl}
    (hMirrors : live.Mirrors validated twin)
    (documentation : Option String) :
    FunctionDecl.Mirrors validated
      { live with documentation := documentation }
      { twin with documentation := documentation } := by
  cases hMirrors with
  | alike inner hSignature hResult hLive hTwin hLines =>
      exact
        .alike inner ⟨rfl, hSignature.name, hSignature.params⟩
          hResult hLive hTwin hLines
  | checked nativeType call hSignature hResult hValidated
      hStores hLive hTwin =>
      exact
        .checked nativeType call
          ⟨rfl, hSignature.name, hSignature.params⟩ hResult
          hValidated hStores hLive hTwin

/- Functions mirror each other with the first documented. -/
theorem mirrors_documentFirst
    {live twins : List FunctionDecl}
    (hMirrors :
      List.Forall₂ (FunctionDecl.Mirrors validated) live twins)
    (documentation : Option String) :
    List.Forall₂ (FunctionDecl.Mirrors validated)
      (documentFirst documentation live)
      (documentFirst documentation twins) := by
  cases hMirrors with
  | nil => exact .nil
  | cons hFirst hRest =>
      exact .cons (hFirst.documented documentation) hRest

/- It does not matter which handles else are validated. -/
theorem FunctionDecl.Mirrors.mono
    {live twin : FunctionDecl}
    {more : NativeType → Prop}
    (hMirrors : live.Mirrors validated twin)
    (hMore :
      ∀ nativeType, validated nativeType → more nativeType) :
    live.Mirrors more twin := by
  cases hMirrors with
  | alike inner hSignature hResult hLive hTwin hLines =>
      exact
        .alike inner hSignature hResult hLive hTwin hLines
  | checked nativeType call hSignature hResult hValidated
      hStores hLive hTwin =>
      exact
        .checked nativeType call hSignature hResult
          (hMore nativeType hValidated) hStores hLive hTwin

end Zig

------------------------------------------------------------
-- Attributes
------------------------------------------------------------

namespace Attribute

variable {a : Attribute}
variable {chained : List FunctionDecl}

/- Live setters are those that are not left to creation. -/
theorem hasSetter_live
    (a : Attribute) :
    a.hasSetter .live =
      if isSet a.creationOnly then .ok false
      else a.hasSetter .initializer := by
  unfold hasSetter
  by_cases hCreation : isSet a.creationOnly
  · simp [hCreation]
  · simp [hCreation]

/-
  Where an attribute has setters in the initializer, it has
  live ones or none, and each of them is mirrored.
-/
theorem exists_live_setters
    (hChained : a.setters .initializer = .ok chained) :
    ∃ live twins,
      a.setters .live = .ok live ∧
        twins.Sublist chained ∧
        List.Forall₂ (FunctionDecl.Mirrors a.IsValidated) live
          twins := by
  have hNone :
      a.hasSetter .live = .ok false →
        a.setters .live = .ok [] := by
    intro hSetter
    unfold setters
    rw [hSetter]
    rfl
  rcases setters_cases hChained with
    ⟨hWritten, rfl⟩ |
    ⟨hWritten, rule, forms, numbering, name, hRule, hNumbering,
      hForms, hName, rfl⟩
  · refine ⟨[], [], hNone ?_, List.Sublist.refl [], .nil⟩
    rw [hasSetter_live, hWritten, ite_self]
  · by_cases hCreation : isSet a.creationOnly
    · refine
        ⟨[], [], hNone ?_, List.nil_sublist _, .nil⟩
      rw [hasSetter_live, if_pos hCreation]
    · have hSetter : a.hasSetter .live = .ok true := by
        rw [hasSetter_live, if_neg hCreation, hWritten]
      rcases exists_setterForms hForms .live with
        ⟨liveForms, hLiveForms⟩
      refine
        ⟨documentFirst a.documentation
            (liveForms.map
              (·.function .live numbering none name)),
          _, ?_, List.Sublist.refl _, ?_⟩
      · exact
          setters_of_forms hSetter hRule hLiveForms hNumbering
            hName
      · apply mirrors_documentFirst
        simp only [List.forall₂_map_left_iff,
          List.forall₂_map_right_iff]
        apply (mirrors_setterForms hRule hLiveForms hForms).imp
        intro live twin hMirrors
        exact hMirrors.function numbering none name

/- No form of the initializer can fail. -/
theorem safe_setterForms
    {rule : Rule}
    {forms : List SetterForm}
    (hRule : a.rule = .ok rule)
    (hForms : a.setterForms .initializer rule = .ok forms) :
    ∀ form ∈ forms, form.fallible = false := by
  rcases exists_setterForms hForms .live with
    ⟨liveForms, hLiveForms⟩
  intro form hForm
  rcases exists_left_of_forall₂
      (mirrors_setterForms hRule hLiveForms hForms) hForm with
    ⟨live, _, hMirrors⟩
  exact hMirrors.safe

/- All setters of the initializer are chained. -/
theorem isChained_of_setters
    (hChained : a.setters .initializer = .ok chained) :
    ∀ function ∈ chained, function.IsChained := by
  rcases setters_cases hChained with
    ⟨_, rfl⟩ |
    ⟨_, rule, forms, numbering, name, hRule, _, hForms, _, rfl⟩
  · simp
  · have hAll :
        ∀ function ∈
            forms.map
              (·.function .initializer numbering none name),
          function.IsChained := by
      intro function hFunction
      rcases List.mem_map.mp hFunction with ⟨form, hForm, rfl⟩
      have hSafe := safe_setterForms hRule hForms form hForm
      exact SetterForm.isChained hSafe numbering none name
    exact
      forall_documentFirst
        (fun _ hFunction => hFunction.documented _) hAll

------------------------------------------------------------
-- Names on One Line
------------------------------------------------------------

/- What an attribute puts into a header has no line feed. -/
structure IsOneLine
    (a : Attribute) : Prop where
  name : ∀ s, a.name = some s → Text.IsOneLine s
  handle :
    ∀ s, a.handle.bind (·.elementName) = some s →
      Text.IsOneLine s

end Attribute

/- What a callback puts into a header has no line feed. -/
def Callback.IsOneLine
    (c : Callback) : Prop :=
  ∀ s, c.name = some s → Text.IsOneLine s

/- A name is shown on one line, and so is null. -/
theorem isOneLine_shownName
    {name : Option String}
    (hName : ∀ s, name = some s → Text.IsOneLine s) :
    Text.IsOneLine (shownName name) := by
  cases name with
  | none => decide
  | some s => exact hName s rfl

/- A function is declared on one line if its parts are. -/
theorem Zig.isOneLine_header
    {function : FunctionDecl}
    (hName : Text.IsOneLine function.name)
    (hParams :
      ∀ param ∈ function.params, Text.IsOneLine param.render)
    (hResult : Text.IsOneLine function.result) :
    Text.IsOneLine function.header := by
  have hList :
      Text.IsOneLine
        (Text.joinWith ", "
          (function.params.map Param.render)) := by
    apply Text.isOneLine_joinWith (by decide)
    rw [List.forall_mem_map]
    exact hParams
  unfold FunctionDecl.header
  exact
    ((((Text.IsOneLine.append (by decide) hName).append
      (by decide)).append hList).append (by decide)).append
        hResult

/-
  What a form adds to the header of its setter has no line
  feed: the suffix of the name, and the parameters.
-/
structure Zig.SetterForm.IsOneLine
    (form : SetterForm) : Prop where
  suffix : Text.IsOneLine form.suffix
  params :
    ∀ param ∈ form.params, Text.IsOneLine param.render

/- The parameters for the type and the ids are one line each. -/
theorem Zig.isOneLine_extraParams
    (generic : Bool)
    (numbering : Numbering) :
    ∀ param ∈
        (if generic then [typeParam] else [])
          ++ idParams numbering,
      Text.IsOneLine param.render := by
  cases generic with
  | false => cases numbering <;> decide
  | true => cases numbering <;> decide

/- What a setter returns is one line. -/
theorem Zig.isOneLine_setterResult
    (context : Context)
    (fallible : Bool) :
    Text.IsOneLine (setterResult context fallible) := by
  cases context with
  | initializer => cases fallible <;> decide
  | live => cases fallible <;> decide

/- The header of its setter is one line, if the name is. -/
theorem Zig.SetterForm.IsOneLine.header
    {form : SetterForm}
    (hForm : form.IsOneLine)
    {name : String}
    (hName : Text.IsOneLine name)
    (context : Context)
    (numbering : Numbering)
    (documentation : Option String) :
    Text.IsOneLine
      (form.function context numbering documentation
        name).header := by
  apply isOneLine_header
  · exact hName.append hForm.suffix
  · simp only [SetterForm.function, List.cons_append,
      List.forall_mem_cons, List.forall_mem_append]
    refine ⟨?_, ?_, hForm.params⟩
    · cases context with
      | initializer => decide
      | live => decide
    · exact
        List.forall_mem_append.mp
          (isOneLine_extraParams form.generic numbering)
  · exact isOneLine_setterResult context form.fallible

/- A plain form has no suffix, and so only parameters. -/
theorem Zig.isOneLine_plain
    {params : List Param}
    (hParams : ∀ param ∈ params, Text.IsOneLine param.render)
    (body : List Statement) :
    (SetterForm.plain params body).IsOneLine :=
  ⟨(by decide : Text.IsOneLine ""), hParams⟩

/- One that has a value of a type on one line. -/
theorem Zig.isOneLine_of_type
    {start type : String}
    (hStart : Text.IsOneLine start)
    (hType : Text.IsOneLine type)
    (body : List Statement) :
    (SetterForm.plain [⟨"arg", start ++ type⟩]
      body).IsOneLine := by
  refine isOneLine_plain ?_ body
  rw [List.forall_mem_singleton]
  exact
    Text.IsOneLine.append (by decide : Text.IsOneLine "arg: ")
      (hStart.append hType)

namespace Attribute

variable {a : Attribute}
variable {rule : Rule}

/- A handle is stored on one line, if its element's name is. -/
theorem IsOneLine.handleForm
    (hLine : a.IsOneLine)
    (context : Context)
    (key : Key) :
    (handleForm context key a.handleKind).IsOneLine := by
  cases hKind : a.handleKind with
  | known name =>
      have hName :=
        hLine.handle name (elementName_of_known hKind)
      exact isOneLine_of_type (by decide) hName _
  | unchecked => exact isOneLine_plain (by decide) _
  | validated nativeType =>
      have hParams :
          ∀ param ∈ [Param.mk "arg" "anytype"],
            Text.IsOneLine param.render := by
        decide
      cases context with
      | initializer => exact isOneLine_plain hParams _
      | live =>
          exact ⟨(by decide : Text.IsOneLine ""), hParams⟩

/- All forms of an attribute are on one line, if its names are. -/
theorem IsOneLine.setterForms
    {context : Context}
    {forms : List SetterForm}
    (hLine : a.IsOneLine)
    (hForms : a.setterForms context rule = .ok forms) :
    ∀ form ∈ forms, form.IsOneLine := by
  rcases exists_parts_of_setterForms hForms with
    ⟨values, separator, key, hValues, hSeparator, hKey⟩
  have hName := isOneLine_shownName hLine.name
  intro form hForm
  cases (setterForms_spec hValues hSeparator hKey hForms).1
      form hForm with
  | scalar hScalar =>
      cases rule <;> cases hScalar
      all_goals exact isOneLine_plain (by decide) _
  | pair hPair =>
      cases rule <;> cases hPair
      all_goals exact isOneLine_plain (by decide) _
  | pointer =>
      exact
        ⟨(by decide : Text.IsOneLine ""),
          (by decide :
            ∀ param ∈ [Param.mk "arg" "?*T"],
              Text.IsOneLine param.render)⟩
  | handle => exact hLine.handleForm context key
  | handleName =>
      exact
        ⟨(by decide : Text.IsOneLine "HandleName"),
          (by decide :
            ∀ param ∈ [Param.mk "arg" "[:0]const u8"],
              Text.IsOneLine param.render)⟩
  | void | date | rgb => exact isOneLine_plain (by decide) _
  | enumInt | enumString =>
      exact isOneLine_of_type (by decide) hName _

/- So is the name of its setters. -/
theorem IsOneLine.setterName
    {name : String}
    (hLine : a.IsOneLine)
    (hName : a.setterName = .ok name) :
    Text.IsOneLine name := by
  unfold Attribute.setterName at hName
  split at hName
  · rcases map_eq_ok_iff.mp hName with ⟨own, hOwn, rfl⟩
    have hForeign : Naming.IsForeign '\n' :=
      Text.isForeign_of_not_isBare (by decide)
    intro hMember
    exact
      hLine.name own (needed_eq_ok_iff.mp hOwn)
        (hForeign.mem_of_mem_camelCase hMember)
  · rw [← Except.ok.inj hName]
    exact
      Text.IsOneLine.append (by decide)
        (isOneLine_shownName hLine.name)

/- All setters have their header on one line. -/
theorem IsOneLine.headers
    {context : Context}
    {setters : List FunctionDecl}
    (hLine : a.IsOneLine)
    (hSetters : a.setters context = .ok setters) :
    ∀ function ∈ setters, Text.IsOneLine function.header := by
  rcases setters_cases hSetters with
    ⟨_, rfl⟩ |
    ⟨_, rule, forms, numbering, name, _, _, hForms, hName, rfl⟩
  · simp
  · have hAll :
        ∀ function ∈
            forms.map (·.function context numbering none name),
          Text.IsOneLine function.header := by
      intro function hFunction
      rcases List.mem_map.mp hFunction with ⟨form, hForm, rfl⟩
      exact
        (hLine.setterForms hForms form hForm).header
          (hLine.setterName hName) context numbering none
    exact forall_documentFirst (fun _ hHeader => hHeader) hAll

end Attribute

------------------------------------------------------------
-- Callbacks
------------------------------------------------------------

variable {callback : Option Callback}
variable {validated : NativeType → Prop}

/- The form of the setter that registers a handler. -/
def Callback.form
    (context : Context)
    (c : Callback) : SetterForm :=
  .plain
    [⟨"callback", "?" ++ handlerTypeName c⟩]
    [ .bindHandler (handlerTypeName c) (shownName c.key),
      .registerHandler (targetOf context) ]

/- A callback has a setter of this form, if it is not null. -/
theorem Callback.setter_eq_ok_iff
    {context : Context}
    {setter : FunctionDecl} :
    Callback.setter context callback = .ok setter ↔
      ∃ c, callback = some c ∧
        setter =
          (c.form context).function context .no c.documentation
            ("set" ++ shownName c.name ++ "Callback") := by
  cases callback with
  | none => simp [Callback.setter, needed, bind, Except.bind]
  | some c =>
      simp only [Option.some.injEq, exists_eq_left']
      exact ⟨fun hSetter => (Except.ok.inj hSetter).symm,
        fun hSetter => congrArg Except.ok hSetter.symm⟩

/-
  The setter of a callback in the initializer is chained, and
  mirrors the live one.
-/
theorem Callback.exists_live_setter
    {twin : FunctionDecl}
    (hTwin : Callback.setter .initializer callback = .ok twin) :
    ∃ live,
      Callback.setter .live callback = .ok live ∧
        live.Mirrors validated twin := by
  rcases Callback.setter_eq_ok_iff.mp hTwin with ⟨c, rfl, rfl⟩
  have hMirrors :
      (c.form .live).Mirrors validated (c.form .initializer) :=
    SetterForm.mirrors_of_self rfl rfl rfl
  exact
    ⟨_, Callback.setter_eq_ok_iff.mpr ⟨c, rfl, rfl⟩,
      hMirrors.function .no c.documentation _⟩

/- The header of its setter is on one line, if its name is. -/
theorem Callback.isOneLine_setter
    {context : Context}
    {setter : FunctionDecl}
    (hLine : ∀ c, callback = some c → c.IsOneLine)
    (hSetter : Callback.setter context callback = .ok setter) :
    Text.IsOneLine setter.header := by
  rcases Callback.setter_eq_ok_iff.mp hSetter with ⟨c, rfl, rfl⟩
  have hName := isOneLine_shownName (hLine c rfl)
  have hForm : (c.form context).IsOneLine := by
    refine isOneLine_plain ?_ _
    rw [List.forall_mem_singleton]
    exact
      Text.IsOneLine.append
        (by decide : Text.IsOneLine "callback: ")
        (Text.IsOneLine.append (by decide)
          ((Text.IsOneLine.append (by decide) hName).append
            (by decide)))
  exact
    hForm.header
      ((Text.IsOneLine.append (by decide) hName).append
        (by decide))
      context .no c.documentation

/- In the initializer it is chained. -/
theorem Callback.isChained_of_setter
    {twin : FunctionDecl}
    (hTwin : Callback.setter .initializer callback = .ok twin) :
    twin.IsChained := by
  rcases Callback.setter_eq_ok_iff.mp hTwin with ⟨c, rfl, rfl⟩
  exact SetterForm.isChained rfl .no c.documentation _

------------------------------------------------------------
-- Blocks
------------------------------------------------------------

/- The setters of a live element, without its getters. -/
def Zig.liveSetters
    (attributes : List Attribute)
    (callbacks : Option (List (Option Callback))) :
    Except Fault (List FunctionDecl) := do
  let setters ←
    (attributes.filter (!isSet ·.deprecated)).mapM
      (Attribute.setters .live)
  let registrations ← callbackSetters .live callbacks
  return setters.flatten ++ registrations

namespace Zig

variable {attributes : List Attribute}
variable {callbacks : Option (List (Option Callback))}

/-
  Functions of the initializer that stand for live setters, in
  the order of both.  By induction on the attributes.
-/
theorem exists_live_of_functions
    {chained : List (List FunctionDecl)}
    (hValidated :
      ∀ a ∈ attributes, ∀ nativeType,
        a.IsValidated nativeType → validated nativeType)
    (hChained :
      List.Forall₂
        (fun a functions =>
          a.initializerFunctions = .ok functions)
        attributes chained) :
    ∃ live twins,
      List.Forall₂
          (fun a setters => a.setters .live = .ok setters)
          (attributes.filter (!isSet ·.deprecated)) live ∧
        twins.Sublist chained.flatten ∧
        List.Forall₂ (FunctionDecl.Mirrors validated)
          live.flatten twins := by
  induction hChained with
  | nil => exact ⟨[], [], .nil, List.Sublist.refl [], .nil⟩
  | @cons a first rest others hFirst hRest ih =>
      rw [List.forall_mem_cons] at hValidated
      rcases ih hValidated.2 with
        ⟨live, twins, hLive, hListed, hMirrors⟩
      by_cases hOld : isSet a.deprecated
      · refine ⟨live, twins, ?_, ?_, hMirrors⟩
        · rw [List.filter_cons_of_neg (by simp [hOld])]
          exact hLive
        · rw [List.flatten_cons]
          exact
            hListed.trans (List.sublist_append_right _ _)
      · have hSetters : a.setters .initializer = .ok first := by
          unfold Attribute.initializerFunctions at hFirst
          rw [if_neg hOld] at hFirst
          exact hFirst
        rcases Attribute.exists_live_setters hSetters with
          ⟨here, twinsHere, hHere, hListedHere, hMirrorsHere⟩
        refine
          ⟨here :: live, twinsHere ++ twins, ?_, ?_, ?_⟩
        · rw [List.filter_cons_of_pos (by simp [hOld])]
          exact .cons hHere hLive
        · rw [List.flatten_cons]
          exact hListedHere.append hListed
        · rw [List.flatten_cons]
          apply List.rel_append _ hMirrors
          exact
            hMirrorsHere.imp fun _ _ hMirror =>
              hMirror.mono (hValidated.1)

/- The same for the setters of callbacks, none of them missing. -/
theorem exists_live_callbackSetters
    {chained : List FunctionDecl}
    (hChained :
      callbackSetters .initializer callbacks = .ok chained) :
    ∃ live,
      callbackSetters .live callbacks = .ok live ∧
        List.Forall₂ (FunctionDecl.Mirrors validated) live
          chained := by
  rcases bind_eq_ok_iff.mp hChained with
    ⟨items, hItems, hSetters⟩
  have hPairs := mapM_eq_ok_iff.mp hSetters
  have hLive :
      ∃ live,
        List.Forall₂
            (fun callback setter =>
              Callback.setter .live callback = .ok setter)
            items live ∧
          List.Forall₂ (FunctionDecl.Mirrors validated) live
            chained := by
    clear hItems hSetters hChained
    induction hPairs with
    | nil => exact ⟨[], .nil, .nil⟩
    | cons hFirst hRest ih =>
        rcases Callback.exists_live_setter hFirst with
          ⟨setter, hSetter, hMirrors⟩
        rcases ih with ⟨live, hLive, hOthers⟩
        exact
          ⟨setter :: live, .cons hSetter hLive,
            .cons hMirrors hOthers⟩
  rcases hLive with ⟨live, hLive, hMirrors⟩
  refine ⟨live, ?_, hMirrors⟩
  unfold callbackSetters
  rw [hItems]
  exact mapM_eq_ok_iff.mpr hLive

/-
  Every function of the initializer is chained, with its
  header on one line if the names in it are.
-/
theorem isChained_of_initializerBlock
    {functions : List FunctionDecl}
    (hAttributes : ∀ a ∈ attributes, a.IsOneLine)
    (hCallbacks :
      ∀ items, callbacks = some items →
        ∀ c, some c ∈ items → c.IsOneLine)
    (hInitializer :
      initializerBlock attributes callbacks = .ok functions) :
    ∀ function ∈ functions,
      function.IsChained ∧ Text.IsOneLine function.header := by
  rcases parts_of_functionBlock .initializer hInitializer with
    ⟨accessors, setters, hAccessors, hSetters, rfl⟩
  rw [List.forall_mem_append]
  constructor
  · intro function hFunction
    rcases List.mem_flatten.mp hFunction with
      ⟨part, hPart, hMember⟩
    rcases exists_of_mem_mapM hAccessors hPart with
      ⟨a, hAttribute, hFunctions⟩
    have hChained : a.initializerFunctions = .ok part :=
      hFunctions
    unfold Attribute.initializerFunctions at hChained
    split at hChained
    · cases hChained
      cases hMember
    · exact
        ⟨Attribute.isChained_of_setters hChained function
            hMember,
          (hAttributes a hAttribute).headers hChained
            function hMember⟩
  · intro function hFunction
    rcases bind_eq_ok_iff.mp hSetters with
      ⟨items, hItems, hEach⟩
    rcases exists_of_mem_mapM hEach hFunction with
      ⟨callback, hCallback, hSetter⟩
    refine
      ⟨Callback.isChained_of_setter hSetter,
        Callback.isOneLine_setter ?_ hSetter⟩
    rintro c rfl
    exact
      hCallbacks items (needed_eq_ok_iff.mp hItems) c hCallback

/- Live setters are what the live block has but its getters. -/
theorem sublist_bodyBlock
    {functions live body : List FunctionDecl}
    (hInitializer :
      initializerBlock attributes callbacks = .ok functions)
    (hLive : liveSetters attributes callbacks = .ok live)
    (hBody : bodyBlock attributes callbacks = .ok body) :
    live.Sublist body ∧
      ∀ function ∈ body,
        function ∈ live ∨
          ∃ a ∈ attributes, a.getter? = .ok (some function) := by
  rcases exists_accessors hInitializer hBody with
    ⟨accessors, _, registrations, hAccessors, _,
      hRegistrations, _, rfl⟩
  have hSetters :
      (attributes.filter (!isSet ·.deprecated)).mapM
          (Attribute.setters .live) =
        .ok (accessors.map (·.live)) := by
    rw [mapM_eq_ok_iff, List.forall₂_map_right_iff]
    apply (mapM_eq_ok_iff.mp hAccessors).imp
    intro a parts hParts
    exact (Attribute.accessors_eq_ok_iff.mp hParts).2.2
  have hSame :
      live =
        accessors.flatMap (·.live) ++ registrations := by
    unfold liveSetters at hLive
    rw [hSetters, hRegistrations] at hLive
    rw [← Except.ok.inj hLive, List.flatMap_def]
  rw [hSame]
  constructor
  · apply List.Sublist.append_right
    apply List.Sublist.flatMap_right
    exact fun parts _ => List.sublist_append_right _ _
  · intro function hFunction
    rcases List.mem_append.mp hFunction with hOwn | hHandler
    · rcases List.mem_flatMap.mp hOwn with
        ⟨parts, hListed, hMember⟩
      rcases List.mem_append.mp hMember with hGetter | hLater
      · rcases exists_of_mem_mapM hAccessors hListed with
          ⟨a, hAttribute, hParts⟩
        rcases Attribute.accessors_eq_ok_iff.mp hParts with
          ⟨_, hOffered, _⟩
        rw [Option.mem_toList.mp hGetter] at hOffered
        exact
          .inr ⟨a, List.mem_of_mem_filter hAttribute, hOffered⟩
      · exact
          .inl
            (List.mem_append_left _
              (List.mem_flatMap.mpr ⟨parts, hListed, hLater⟩))
    · exact .inl (List.mem_append_right _ hHandler)

end Zig

/-
  A function of the initializer is declared on it, and returns
  it; its first line checks for an error, its last one returns
  the initializer.  In the same order, it mirrors the setters
  of the live element, those of its callbacks, too.
-/
theorem Zig.initializer_mirrors_live
    {attributes : List Attribute}
    {callbacks : Option (List (Option Callback))}
    {functions : List FunctionDecl}
    (hAttributes : ∀ a ∈ attributes, a.IsOneLine)
    (hCallbacks :
      ∀ items, callbacks = some items →
        ∀ c, some c ∈ items → c.IsOneLine)
    (hInitializer :
      initializerBlock attributes callbacks = .ok functions) :
    (∀ function ∈ functions,
      function.IsChained ∧
        ∃ others text inner,
          function.header =
            "pub fn " ++ function.name ++ "("
              ++ "self: *Initializer" ++ others
              ++ ") Initializer" ∧
          function.render =
            docComment function.documentation ++ text ∧
          Text.splitAtEach '\n' text.toList =
            (function.header ++ " \x7b").toList
              :: "    if (self.last_error) |_| return self.*;".toList
              :: inner
              ++ ["    return self.*;".toList, "\x7d".toList]) ∧
      ∃ live twins,
        liveSetters attributes callbacks = .ok live ∧
          twins.Sublist functions ∧
          List.Forall₂
            (FunctionDecl.Mirrors fun nativeType =>
              ∃ a ∈ attributes, a.IsValidated nativeType)
            live twins ∧
          ∀ body, bodyBlock attributes callbacks = .ok body →
            live.Sublist body ∧
              ∀ function ∈ body,
                function ∈ live ∨
                  ∃ a ∈ attributes,
                    a.getter? = .ok (some function) := by
  constructor
  · intro function hFunction
    rcases isChained_of_initializerBlock hAttributes hCallbacks
        hInitializer function hFunction with
      ⟨hChained, hHeader⟩
    rcases hChained.exists_header with ⟨others, hDeclared⟩
    rcases hChained.lines hHeader with ⟨inner, hLines⟩
    exact
      ⟨hChained, others, _, inner, hDeclared, rfl, hLines⟩
  · rcases parts_of_functionBlock .initializer
        hInitializer with
      ⟨chained, handlers, hChained, hHandlers, rfl⟩
    have hValidated :
        ∀ a ∈ attributes, ∀ nativeType,
          a.IsValidated nativeType →
            ∃ a ∈ attributes, a.IsValidated nativeType :=
      fun a hMember _ hHandle => ⟨a, hMember, hHandle⟩
    rcases exists_live_of_functions hValidated
        (mapM_eq_ok_iff.mp hChained) with
      ⟨setters, twins, hSetters, hListed, hMirrors⟩
    rcases exists_live_callbackSetters hHandlers with
      ⟨registrations, hRegistrations, hAlike⟩
    have hLive :
        liveSetters attributes callbacks =
          .ok (setters.flatten ++ registrations) := by
      unfold liveSetters
      rw [mapM_eq_ok_iff.mpr hSetters, hRegistrations]
      rfl
    refine
      ⟨_, twins ++ handlers, hLive, ?_,
        List.rel_append hMirrors hAlike,
        fun _ hBody =>
          sublist_bodyBlock hInitializer hLive hBody⟩
    exact hListed.append_right handlers

/- A handle that has to be a menu. -/
def menuHandle : Attribute :=
  { sizeNumber "MENU" false with
    type := some .handle
    format := some .binary
    handle := some ⟨none, some .menu⟩ }

/- A choice that is made on creation. -/
def openingSide : Attribute :=
  { choice "SIDE" "Left" with creationOnly := some true }

/- The names of these attributes stand on one line. -/
theorem isOneLine_menuAttributes :
    ∀ a ∈ [menuHandle, openingSide], a.IsOneLine := by
  rw [List.forall_mem_cons, List.forall_mem_singleton]
  refine ⟨⟨?_, ?_⟩, ⟨?_, ?_⟩⟩
  · rintro _ ⟨⟩
    decide
  · rintro _ ⟨⟩
  · rintro _ ⟨⟩
    decide
  · rintro _ ⟨⟩

/-
  Of four setters in the initializer three are mirrored, that
  of the handle among them; one is of creation only.
-/
theorem menu_setters_are_mirrored :
    ∃ functions live twins,
      initializerBlock [menuHandle, openingSide]
          (some [some pressCallback]) = .ok functions ∧
        functions.length = 4 ∧
        liveSetters [menuHandle, openingSide]
          (some [some pressCallback]) = .ok live ∧
        live.length = 3 ∧
        twins.Sublist functions ∧
        List.Forall₂
          (FunctionDecl.Mirrors fun nativeType =>
            ∃ a ∈ [menuHandle, openingSide],
              a.IsValidated nativeType)
          live twins := by
  have hCallbacks :
      ∀ items, some [some pressCallback] = some items →
        ∀ c, some c ∈ items → c.IsOneLine := by
    rintro _ ⟨⟩ c hMember
    rw [List.mem_singleton, Option.some.injEq] at hMember
    rw [hMember]
    rintro _ ⟨⟩
    decide
  have hInitializer :
      ∃ functions,
        initializerBlock [menuHandle, openingSide]
            (some [some pressCallback]) = .ok functions ∧
          functions.length = 4 := ⟨_, rfl, rfl⟩
  rcases hInitializer with ⟨functions, hInitializer, hFour⟩
  rcases (Zig.initializer_mirrors_live isOneLine_menuAttributes
      hCallbacks hInitializer).2 with
    ⟨live, twins, hLive, hListed, hMirrors, _⟩
  have hThree :
      (liveSetters [menuHandle, openingSide]
        (some [some pressCallback])).toOption.map List.length =
          some 3 := rfl
  rw [hLive] at hThree
  exact
    ⟨functions, live, twins, hInitializer, hFour, hLive,
      Option.some.inj hThree, hListed, hMirrors⟩

end ElementBindings
