import ElementBindings.Proofs.Zig.Form

/-
  What is declared from one attribute, and from all of them.

  The flags and the rule of an attribute tell which accessors
  are declared from it: a getter or none, and setters in one
  context or the other.  The block of the initializer and that
  of the live element consist of these accessors, attribute by
  attribute, and of the setters of callbacks behind them; an
  attribute that is deprecated adds nothing.

  Key definitions include:
    * `Zig.Accessors`
    * `Attribute.accessors`
    * `Attribute.functions`, `Zig.functionBlock`

  Key theorems include:
    * `Attribute.setters_cases`, `Attribute.getter?_cases`
    * `Attribute.setters_ne_nil_iff`
    * `Attribute.getter?_isSome_iff`
    * `Zig.parts_of_functionBlock`
    * `Zig.exists_accessors`
    * `Element.parts_of_declarations`
-/

namespace ElementBindings

open Zig

------------------------------------------------------------
-- Accessors of One Attribute
------------------------------------------------------------

/-
  The accessors of an attribute: the setters that are chained
  in the initializer, and the getter and the setters of the
  live element.
-/
structure Zig.Accessors where
  chained : List FunctionDecl
  getter : Option FunctionDecl
  live : List FunctionDecl
deriving DecidableEq, Repr

/- What accessors add to the functions of the live element. -/
def Zig.Accessors.body
    (accessors : Accessors) : List FunctionDecl :=
  accessors.getter.toList ++ accessors.live

namespace Attribute

variable {a : Attribute}
variable {rule : Rule}
variable {context : Context}

/- All accessors of an attribute. -/
def accessors
    (a : Attribute) : Except Fault Accessors := do
  let chained ← a.setters .initializer
  let getter ← a.getter?
  let live ← a.setters .live
  return ⟨chained, getter, live⟩

/- There are accessors when there is each part of them. -/
theorem accessors_eq_ok_iff
    {accessors : Accessors} :
    a.accessors = .ok accessors ↔
      a.setters .initializer = .ok accessors.chained ∧
        a.getter? = .ok accessors.getter ∧
        a.setters .live = .ok accessors.live := by
  unfold Attribute.accessors
  simp only [bind_eq_ok_iff, pure, Except.pure,
    Except.ok.injEq]
  constructor
  · intro hParts
    rcases hParts with
      ⟨chained, hChained, getter, hGetter, live, hLive, rfl⟩
    exact ⟨hChained, hGetter, hLive⟩
  · intro hParts
    rcases hParts with ⟨hChained, hGetter, hLive⟩
    exact ⟨_, hChained, _, hGetter, _, hLive, rfl⟩

/-
  There are no setters where none is to be written, and else
  those of the forms of the rule.
-/
theorem setters_cases
    {setters : List FunctionDecl}
    (hSetters : a.setters context = .ok setters) :
    (a.hasSetter context = .ok false ∧ setters = []) ∨
      a.hasSetter context = .ok true ∧
        ∃ rule forms numbering name,
          a.rule = .ok rule ∧
            a.numbering = some numbering ∧
            a.setterForms context rule = .ok forms ∧
            a.setterName = .ok name ∧
            setters =
              documentFirst a.documentation
                (forms.map
                  (·.function context numbering none
                    name)) := by
  rcases bind_eq_ok_iff.mp hSetters with
    ⟨written, hWritten, hRest⟩
  cases written with
  | false => exact .inl ⟨hWritten, (Except.ok.inj hRest).symm⟩
  | true =>
      rcases bind_eq_ok_iff.mp hRest with
        ⟨rule, hRule, hRest⟩
      rcases bind_eq_ok_iff.mp hRest with
        ⟨forms, hForms, hRest⟩
      rcases bind_eq_ok_iff.mp hRest with
        ⟨numbering, hNumbering, hRest⟩
      rcases bind_eq_ok_iff.mp hRest with
        ⟨name, hName, hRest⟩
      exact
        .inr
          ⟨hWritten, rule, forms, numbering, name, hRule,
            needed_eq_ok_iff.mp hNumbering, hForms, hName,
            (Except.ok.inj hRest).symm⟩

/-
  There is no getter where none is to be written, and else the
  one of the form of the rule.
-/
theorem getter?_cases
    {getter? : Option FunctionDecl}
    (hGetter : a.getter? = .ok getter?) :
    (a.hasGetter = .ok false ∧ getter? = none) ∨
      a.hasGetter = .ok true ∧
        ∃ rule form? numbering,
          a.rule = .ok rule ∧
            a.numbering = some numbering ∧
            a.getterForm? rule = .ok form? ∧
            getter? =
              form?.map
                (·.function numbering a.documentation
                  ("get" ++ shownName a.name)) := by
  rcases bind_eq_ok_iff.mp hGetter with
    ⟨written, hWritten, hRest⟩
  cases written with
  | false => exact .inl ⟨hWritten, (Except.ok.inj hRest).symm⟩
  | true =>
      rcases bind_eq_ok_iff.mp hRest with
        ⟨rule, hRule, hRest⟩
      rcases bind_eq_ok_iff.mp hRest with
        ⟨form?, hForm, hRest⟩
      rcases bind_eq_ok_iff.mp hRest with
        ⟨numbering, hNumbering, hRest⟩
      exact
        .inr
          ⟨hWritten, rule, form?, numbering, hRule,
            needed_eq_ok_iff.mp hNumbering, hForm,
            (Except.ok.inj hRest).symm⟩

------------------------------------------------------------
-- Presence
------------------------------------------------------------

/- Documentation does not change how many functions there are. -/
theorem length_documentFirst
    (documentation : Option String)
    (functions : List FunctionDecl) :
    (documentFirst documentation functions).length =
      functions.length := by
  cases functions with
  | nil => rfl
  | cons first rest => rfl

/- Nor does it change what they are called. -/
theorem map_name_documentFirst
    (documentation : Option String)
    (functions : List FunctionDecl) :
    (documentFirst documentation functions).map (·.name) =
      functions.map (·.name) := by
  cases functions with
  | nil => rfl
  | cons first rest => rfl

/-
  What all functions have, whatever their documentation is,
  they still have when the first of them is documented.
-/
theorem forall_documentFirst
    {P : FunctionDecl → Prop}
    {documentation : Option String}
    {functions : List FunctionDecl}
    (hDocumented :
      ∀ function,
        P function →
          P { function with documentation := documentation })
    (hAll : ∀ function ∈ functions, P function) :
    ∀ function ∈ documentFirst documentation functions,
      P function := by
  cases functions with
  | nil => exact hAll
  | cons first rest =>
      rw [List.forall_mem_cons] at hAll
      rw [documentFirst, List.forall_mem_cons]
      exact ⟨hDocumented first hAll.1, hAll.2⟩

/- There are setters exactly where one is to be written. -/
theorem setters_ne_nil_iff
    {setters : List FunctionDecl}
    (hSetters : a.setters context = .ok setters) :
    setters ≠ [] ↔ a.hasSetter context = .ok true := by
  rcases setters_cases hSetters with
    ⟨hWritten, rfl⟩ |
    ⟨hWritten, rule, forms, numbering, name, hRule, _, hForms,
      _, rfl⟩
  · simp [hWritten]
  · rcases hasSetter_eq_true_iff.mp hWritten with
      ⟨_, _, found, hFound, hEncoded⟩
    rw [hRule, Except.ok.injEq] at hFound
    rw [← hFound] at hEncoded
    have hSome := (setterForms_ne_nil_iff hForms).mpr hEncoded
    simpa [hWritten, ← List.length_pos_iff,
      length_documentFirst] using hSome

/- There is a getter exactly where one is to be written. -/
theorem getter?_isSome_iff
    {getter? : Option FunctionDecl}
    (hGetter : a.getter? = .ok getter?) :
    getter?.isSome ↔ a.hasGetter = .ok true := by
  rcases getter?_cases hGetter with
    ⟨hWritten, rfl⟩ |
    ⟨hWritten, rule, form?, numbering, hRule, _, hForm, rfl⟩
  · simp [hWritten]
  · rcases hasGetter_eq_true_iff.mp hWritten with
      ⟨_, _, found, hFound, hEncoded⟩
    rw [hRule, Except.ok.injEq] at hFound
    rw [← hFound] at hEncoded
    have hSome := (getterForm?_isSome_iff hForm).mpr hEncoded
    simpa [hWritten] using hSome

/- Under a rule a complete attribute has its accessors. -/
theorem exists_accessors_of_rule
    (hComplete : a.Complete)
    (hRule : a.rule = .ok rule) :
    ∃ accessors, a.accessors = .ok accessors := by
  have hNone : fault? a.rule = none := by
    rw [hRule]
    rfl
  have hSetters :
      ∀ context, ∃ setters,
        a.setters context = .ok setters := by
    intro context
    apply fault?_eq_none_iff.mp
    rw [fault?_setters hComplete, fault?_hasSetter, hNone,
      ite_self]
  have hGetter : ∃ getter?, a.getter? = .ok getter? := by
    apply fault?_eq_none_iff.mp
    rw [fault?_getter? hComplete, fault?_hasGetter, hNone,
      ite_self]
  rcases hSetters .initializer with ⟨chained, hChained⟩
  rcases hSetters .live with ⟨live, hLive⟩
  rcases hGetter with ⟨getter, hGetter⟩
  exact
    ⟨⟨chained, getter, live⟩,
      accessors_eq_ok_iff.mpr ⟨hChained, hGetter, hLive⟩⟩

------------------------------------------------------------
-- Blocks
------------------------------------------------------------

/- The accessors of a current attribute are declared. -/
theorem accessors_of_functions
    {chained body : List FunctionDecl}
    (hCurrent : ¬ isSet a.deprecated)
    (hChained : a.initializerFunctions = .ok chained)
    (hBody : a.bodyFunctions = .ok body) :
    ∃ accessors,
      a.accessors = .ok accessors ∧
        chained = accessors.chained ∧
        body = accessors.body := by
  unfold initializerFunctions at hChained
  unfold bodyFunctions at hBody
  rw [if_neg hCurrent] at hChained hBody
  rcases bind_eq_ok_iff.mp hBody with
    ⟨getter, hGetter, hRest⟩
  rcases bind_eq_ok_iff.mp hRest with ⟨live, hLive, hSum⟩
  exact
    ⟨⟨chained, getter, live⟩,
      accessors_eq_ok_iff.mpr ⟨hChained, hGetter, hLive⟩, rfl,
      (Except.ok.inj hSum).symm⟩

/- There is nothing else that it adds. -/
theorem functions_of_accessors
    {accessors : Accessors}
    (hCurrent : ¬ isSet a.deprecated)
    (hAccessors : a.accessors = .ok accessors) :
    a.initializerFunctions = .ok accessors.chained ∧
      a.bodyFunctions = .ok accessors.body := by
  rcases accessors_eq_ok_iff.mp hAccessors with
    ⟨hChained, hGetter, hLive⟩
  unfold initializerFunctions bodyFunctions
  rw [if_neg hCurrent, if_neg hCurrent, hGetter, hLive]
  exact ⟨hChained, rfl⟩

/- A deprecated attribute adds nothing to either block. -/
theorem functions_of_deprecated
    (hOld : isSet a.deprecated) :
    a.initializerFunctions = .ok [] ∧
      a.bodyFunctions = .ok [] := by
  unfold initializerFunctions bodyFunctions
  rw [if_pos hOld, if_pos hOld]
  exact ⟨rfl, rfl⟩

end Attribute

/- What an attribute adds to the block of a context. -/
def Attribute.functions
    (context : Context)
    (a : Attribute) : Except Fault (List FunctionDecl) :=
  match context with
  | .initializer => a.initializerFunctions
  | .live => a.bodyFunctions

/- The block of a context. -/
def Zig.functionBlock
    (context : Context)
    (attributes : List Attribute)
    (callbacks : Option (List (Option Callback))) :
    Except Fault (List FunctionDecl) :=
  match context with
  | .initializer => initializerBlock attributes callbacks
  | .live => bodyBlock attributes callbacks

/- A block consists of what attributes and callbacks add. -/
theorem Zig.parts_of_functionBlock
    (context : Context)
    {attributes : List Attribute}
    {callbacks : Option (List (Option Callback))}
    {functions : List FunctionDecl}
    (hBlock :
      functionBlock context attributes callbacks
        = .ok functions) :
    ∃ accessors setters,
      attributes.mapM (Attribute.functions context)
          = .ok accessors ∧
        callbackSetters context callbacks = .ok setters ∧
        functions = accessors.flatten ++ setters := by
  cases context with
  | initializer | live =>
      rcases bind_eq_ok_iff.mp hBlock with
        ⟨accessors, hAccessors, hRest⟩
      rcases bind_eq_ok_iff.mp hRest with
        ⟨setters, hSetters, hSum⟩
      exact
        ⟨accessors, setters, hAccessors, hSetters,
          (Except.ok.inj hSum).symm⟩

/-
  The functions that attributes add to the blocks are the
  accessors of those that are not deprecated.  By induction on
  the attributes.
-/
theorem Zig.exists_accessors_of_functions
    {attributes : List Attribute}
    {chained body : List (List FunctionDecl)}
    (hChained :
      List.Forall₂
        (fun a functions =>
          a.initializerFunctions = .ok functions)
        attributes chained)
    (hBody :
      List.Forall₂
        (fun a functions => a.bodyFunctions = .ok functions)
        attributes body) :
    ∃ accessors,
      List.Forall₂
        (fun a parts => a.accessors = .ok parts)
        (attributes.filter (!isSet ·.deprecated)) accessors ∧
      chained.flatten = accessors.flatMap (·.chained) ∧
      body.flatten = accessors.flatMap (·.body) := by
  induction hChained generalizing body with
  | nil =>
      cases hBody with
      | nil => exact ⟨[], .nil, rfl, rfl⟩
  | @cons a first rest others hFirst hRest ih =>
      cases hBody with
      | @cons _ second _ more hSecond hMore =>
          rcases ih hMore with
            ⟨accessors, hAccessors, hSetters, hFunctions⟩
          by_cases hOld : isSet a.deprecated
          · rcases Attribute.functions_of_deprecated hOld with
              ⟨hNoSetter, hNothing⟩
            rw [hNoSetter, Except.ok.injEq] at hFirst
            rw [hNothing, Except.ok.injEq] at hSecond
            refine ⟨accessors, ?_, ?_, ?_⟩
            · rw [List.filter_cons_of_neg (by simp [hOld])]
              exact hAccessors
            · rw [← hFirst, List.flatten_cons, hSetters,
                List.nil_append]
            · rw [← hSecond, List.flatten_cons, hFunctions,
                List.nil_append]
          · rcases Attribute.accessors_of_functions hOld
                hFirst hSecond with
              ⟨parts, hParts, hHere, hThere⟩
            refine ⟨parts :: accessors, ?_, ?_, ?_⟩
            · rw [List.filter_cons_of_pos (by simp [hOld])]
              exact .cons hParts hAccessors
            · rw [List.flatten_cons, hSetters, hHere,
                List.flatMap_cons]
            · rw [List.flatten_cons, hFunctions, hThere,
                List.flatMap_cons]

/-
  Both blocks consist of the accessors of the attributes that
  are not deprecated, and of the setters of the callbacks.
-/
theorem Zig.exists_accessors
    {attributes : List Attribute}
    {callbacks : Option (List (Option Callback))}
    {initializer body : List FunctionDecl}
    (hInitializer :
      initializerBlock attributes callbacks
        = .ok initializer)
    (hBody : bodyBlock attributes callbacks = .ok body) :
    ∃ accessors chained live,
      (attributes.filter (!isSet ·.deprecated)).mapM
          Attribute.accessors = .ok accessors ∧
      callbackSetters .initializer callbacks = .ok chained ∧
      callbackSetters .live callbacks = .ok live ∧
      initializer =
        accessors.flatMap (·.chained) ++ chained ∧
      body = accessors.flatMap (·.body) ++ live := by
  rcases parts_of_functionBlock .initializer hInitializer with
    ⟨first, chained, hFirst, hChained, rfl⟩
  rcases parts_of_functionBlock .live hBody with
    ⟨second, live, hSecond, hLive, rfl⟩
  rcases exists_accessors_of_functions
      (mapM_eq_ok_iff.mp hFirst) (mapM_eq_ok_iff.mp hSecond)
    with ⟨accessors, hAccessors, hSetters, hFunctions⟩
  refine
    ⟨accessors, chained, live, mapM_eq_ok_iff.mpr hAccessors,
      hChained, hLive, ?_, ?_⟩
  · rw [hSetters]
  · rw [hFunctions]

/- What the declarations of an element consist of. -/
theorem Element.parts_of_declarations
    {element : Element}
    {parents : List (Option Attribute)}
    {merged : List Attribute}
    {declarations : Declarations}
    (hMerge :
      Attribute.merge element.attributes parents
        = .ok merged)
    (hDone :
      element.declarations parents = .ok declarations) :
    enumTypes merged = .ok declarations.enumTypes ∧
      handlerTypes element.callbacks
        = .ok declarations.handlerTypes ∧
      initializerBlock merged element.callbacks
        = .ok declarations.initializer ∧
      bodyBlock merged element.callbacks
        = .ok declarations.body := by
  unfold Element.declarations at hDone
  rw [hMerge, ok_bind] at hDone
  rcases bind_eq_ok_iff.mp hDone with ⟨types, hTypes, hDone⟩
  rcases bind_eq_ok_iff.mp hDone with
    ⟨handlers, hHandlers, hDone⟩
  rcases bind_eq_ok_iff.mp hDone with
    ⟨initializer, hInitializer, hDone⟩
  rcases bind_eq_ok_iff.mp hDone with ⟨body, hBody, hDone⟩
  rw [← Except.ok.inj hDone]
  exact ⟨hTypes, hHandlers, hInitializer, hBody⟩

end ElementBindings
