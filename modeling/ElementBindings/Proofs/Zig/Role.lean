import ElementBindings.Proofs.Zig.Addressing

/-
  The roles of the functions that are declared in a block.

  A function is the getter of an attribute, its setter, the
  setter of a handle by the name of its element, or it
  registers the handler of a callback.  Which roles there are
  follows from the flags and the rule of each attribute alone,
  and so does what the functions are called.  A block has one
  function for each role, in their order, and no other.

  Key definitions include:
    * `Zig.Role`, `Zig.Role.name`
    * `Zig.Role.IsDeclaredBy`
    * `Attribute.roles`, `Zig.blockRoles`

  Key theorems include:
    * `Zig.Role.IsDeclaredBy.name_eq`
    * `Attribute.declared_of_functions`
    * `Zig.declared_of_functionBlock`
-/

namespace ElementBindings

open Zig

------------------------------------------------------------
-- Roles
------------------------------------------------------------

/- What a function in a block is for. -/
inductive Zig.Role where
  | getter (a : Attribute)
  | setter (a : Attribute)
  | nameSetter (a : Attribute)
  | handler (c : Callback)
deriving DecidableEq, Repr

/- An action can only be written, and at any time. -/
def Attribute.isAction
    (a : Attribute) : Bool :=
  isSet a.writeOnly && !isSet a.creationOnly

/- What a setter is called: a bare verb if it is an action. -/
def Attribute.setterLabel
    (a : Attribute) : String :=
  if a.isAction then
    Naming.camelCase (shownName a.name)
  else
    "set" ++ shownName a.name

/- What the function of a role is called. -/
def Zig.Role.name : Role → String
  | .getter a => "get" ++ shownName a.name
  | .setter a => a.setterLabel
  | .nameSetter a => a.setterLabel ++ "HandleName"
  | .handler c => "set" ++ shownName c.name ++ "Callback"

/- A function is declared for a role. -/
def Zig.Role.IsDeclaredBy
    (context : Context) :
    Role →
    FunctionDecl →
    Prop
  | .getter a, function => a.getter? = .ok (some function)
  | .setter a, function =>
      ∃ others, a.setters context = .ok (function :: others)
  | .nameSetter a, function =>
      ∃ first, a.setters context = .ok [first, function]
  | .handler c, function =>
      Callback.setter context (some c) = .ok function

namespace Attribute

variable {a : Attribute}
variable {context : Context}

------------------------------------------------------------
-- Roles of One Attribute
------------------------------------------------------------

/- An attribute is read by its element. -/
def isRead
    (a : Attribute) : Bool :=
  !isSet a.creationOnly && !isSet a.writeOnly
    && a.rule ≠ .ok .unsupported && a.rule ≠ .ok .void

/- An attribute is written in a context. -/
def isWritten
    (context : Context)
    (a : Attribute) : Bool :=
  !(isSet a.creationOnly && context = .live)
    && !isSet a.readOnly && a.rule ≠ .ok .unsupported

/- The setters of an attribute: of a handle there are two. -/
def setterRoles
    (a : Attribute) : List Role :=
  if a.rule = .ok .handle then
    [.setter a, .nameSetter a]
  else
    [.setter a]

/- All roles of an attribute in a context. -/
def roles
    (context : Context)
    (a : Attribute) : List Role :=
  (if context = .live && a.isRead then [.getter a] else [])
    ++ if a.isWritten context then a.setterRoles else []

/- A setter that has a name is called by it. -/
theorem setterName_eq
    {name : String}
    (hName : a.setterName = .ok name) :
    name = a.setterLabel := by
  unfold setterName at hName
  unfold setterLabel
  split at hName
  · next hAction =>
      rw [isAction, if_pos hAction]
      rcases map_eq_ok_iff.mp hName with ⟨own, hOwn, rfl⟩
      rw [needed_eq_ok_iff.mp hOwn]
      rfl
  · next hSet =>
      rw [isAction, if_neg hSet]
      exact (Except.ok.inj hName).symm

/- Where it is known if a setter is written, flags tell it. -/
theorem hasSetter_eq_isWritten
    {written : Bool}
    (hSetter : a.hasSetter context = .ok written) :
    written = a.isWritten context := by
  unfold hasSetter at hSetter
  unfold isWritten
  by_cases hLate : isSet a.creationOnly ∧ context = .live
  · simp [hLate] at hSetter ⊢
    exact hSetter
  · by_cases hRead : isSet a.readOnly
    · simp [hLate, hRead] at hSetter ⊢
      exact hSetter
    · have hRule :
          a.rule.map (fun rule => decide (rule ≠ .unsupported)) =
            .ok written := by
        simpa [hLate, hRead] using hSetter
      rcases map_eq_ok_iff.mp hRule with ⟨rule, hFound, rfl⟩
      have hNow :
          (isSet a.creationOnly && decide (context = .live)) =
            false := by
        rw [Bool.eq_false_iff, ne_eq, Bool.and_eq_true,
          decide_eq_true_eq]
        exact hLate
      simp [hNow, hRead, hFound]

/- So they do for a getter. -/
theorem hasGetter_eq_isRead
    {written : Bool}
    (hGetter : a.hasGetter = .ok written) :
    written = a.isRead := by
  unfold hasGetter at hGetter
  unfold isRead
  cases hCreation : isSet a.creationOnly with
  | true => simp_all
  | false =>
      cases hWrite : isSet a.writeOnly with
      | true => simp_all
      | false =>
          simp only [hCreation, hWrite, Bool.or_self,
            Bool.false_eq_true, if_false, map_eq_ok_iff]
            at hGetter
          rcases hGetter with ⟨rule, hRule, rfl⟩
          simp [hRule]

/- What setters are called, if there are any. -/
theorem map_name_of_setters
    {setters : List FunctionDecl}
    (hSetters : a.setters context = .ok setters)
    (hSome : setters ≠ []) :
    setters.map (·.name) = a.setterRoles.map Role.name := by
  rcases setters_cases hSetters with
    ⟨_, rfl⟩ |
    ⟨hWritten, rule, forms, numbering, name, hRule, _, hForms,
      hName, rfl⟩
  · exact absurd rfl hSome
  · rcases exists_parts_of_setterForms hForms with
      ⟨values, separator, key, _, hSeparator, hKey⟩
    rcases hasSetter_eq_true_iff.mp hWritten with
      ⟨_, _, found, hFound, hKnown⟩
    rw [hRule, Except.ok.injEq] at hFound
    rw [← hFound] at hKnown
    have hSuffixes :=
      (writesUnder_of_setterForms hForms hKnown hSeparator
        hKey).1
    have hNames :
        (forms.map (·.suffix)).map (name ++ ·) =
          a.setterRoles.map Role.name := by
      rw [hSuffixes, setterName_eq hName]
      unfold setterRoles
      by_cases hHandle : rule = .handle
      · simp [hRule, hHandle, Role.name]
      · simp [hRule, hHandle, Role.name]
    rw [map_name_documentFirst, List.map_map, ← hNames,
      List.map_map]
    rfl

/-
  The setters of an attribute are declared for its roles, one
  or two of them.
-/
theorem declared_of_setters
    {setters : List FunctionDecl}
    (hSetters : a.setters context = .ok setters) :
    List.Forall₂ (Role.IsDeclaredBy context)
      (if a.isWritten context then a.setterRoles else [])
      setters := by
  by_cases hNone : setters = []
  · have hLeft :
        a.isWritten context = false := by
      by_contra hWritten
      rcases setters_cases hSetters with
        ⟨hUnwritten, _⟩ | ⟨hHere, _⟩
      · exact hWritten (hasSetter_eq_isWritten hUnwritten).symm
      · exact (setters_ne_nil_iff hSetters).mpr hHere hNone
    rw [hLeft, hNone]
    exact .nil
  · have hHere :=
      hasSetter_eq_isWritten
        ((setters_ne_nil_iff hSetters).mp hNone)
    rw [← hHere, if_pos rfl]
    have hNames := map_name_of_setters hSetters hNone
    unfold setterRoles at hNames ⊢
    split at hNames
    · next hHandle =>
        rw [if_pos hHandle]
        rcases setters with _ | ⟨first, _ | ⟨second, _ | _⟩⟩
        all_goals simp at hNames
        exact .cons ⟨_, hSetters⟩ (.cons ⟨_, hSetters⟩ .nil)
    · next hOther =>
        rw [if_neg hOther]
        rcases setters with _ | ⟨first, _ | _⟩
        all_goals simp at hNames
        exact .cons ⟨_, hSetters⟩ .nil

/- The getter of an attribute is declared for its role. -/
theorem declared_of_getter?
    {getter? : Option FunctionDecl}
    (hGetter : a.getter? = .ok getter?) :
    List.Forall₂ (Role.IsDeclaredBy context)
      (if a.isRead then [.getter a] else [])
      getter?.toList := by
  have hSome := getter?_isSome_iff hGetter
  cases getter? with
  | none =>
      rcases getter?_cases hGetter with
        ⟨hUnwritten, _⟩ | ⟨hHere, _⟩
      · rw [← hasGetter_eq_isRead hUnwritten]
        exact .nil
      · exact absurd (hSome.mpr hHere) (by simp)
  | some getter =>
      rw [← hasGetter_eq_isRead (hSome.mp rfl)]
      exact .cons hGetter .nil

end Attribute

------------------------------------------------------------
-- Names
------------------------------------------------------------

/- A function that is declared for a role is called like it. -/
theorem Zig.Role.IsDeclaredBy.name_eq
    {context : Context}
    {role : Role}
    {function : FunctionDecl}
    (hDeclared : role.IsDeclaredBy context function) :
    function.name = role.name := by
  cases role with
  | getter a =>
      rcases Attribute.getter?_cases hDeclared with
        ⟨_, hNone⟩ | ⟨_, _, form?, _, _, _, _, hSome⟩
      · cases hNone
      · rcases Option.map_eq_some_iff.mp hSome.symm with
          ⟨form, _, rfl⟩
        rfl
  | setter a =>
      rcases hDeclared with ⟨others, hSetters⟩
      have hNames :=
        Attribute.map_name_of_setters hSetters (by simp)
      unfold Attribute.setterRoles at hNames
      split at hNames
      · exact (List.cons.inj hNames).1
      · exact (List.cons.inj hNames).1
  | nameSetter a =>
      rcases hDeclared with ⟨first, hSetters⟩
      have hNames :=
        Attribute.map_name_of_setters hSetters (by simp)
      unfold Attribute.setterRoles at hNames
      split at hNames
      · exact (List.cons.inj (List.cons.inj hNames).2).1
      · simp at hNames
  | handler c =>
      have hName :=
        congrArg FunctionDecl.name (Except.ok.inj hDeclared)
      exact hName.symm.trans String.append_empty

/- So are many, one after the other. -/
theorem Zig.map_name_of_declared
    {context : Context}
    {roles : List Role}
    {functions : List FunctionDecl}
    (hDeclared :
      List.Forall₂ (Role.IsDeclaredBy context) roles
        functions) :
    functions.map (·.name) = roles.map Role.name := by
  induction hDeclared with
  | nil => rfl
  | cons hFirst _ ih =>
      rw [List.map_cons, List.map_cons, hFirst.name_eq, ih]

------------------------------------------------------------
-- Blocks
------------------------------------------------------------

/-
  The roles in the block of a context: those of the attributes
  that are not deprecated, and the handlers of the callbacks.
-/
def Zig.blockRoles
    (context : Context)
    (attributes : List Attribute)
    (callbacks : List Callback) : List Role :=
  (attributes.filter (!isSet ·.deprecated)).flatMap
      (Attribute.roles context)
    ++ callbacks.map .handler

/- Functions are declared for the roles of an attribute. -/
theorem Attribute.declared_of_functions
    {context : Context}
    {a : Attribute}
    {functions : List FunctionDecl}
    (hCurrent : ¬ isSet a.deprecated)
    (hFunctions : a.functions context = .ok functions) :
    List.Forall₂ (Role.IsDeclaredBy context) (a.roles context)
      functions := by
  cases context with
  | initializer =>
      have hSetters : a.setters .initializer = .ok functions := by
        unfold Attribute.functions initializerFunctions
          at hFunctions
        rw [if_neg hCurrent] at hFunctions
        exact hFunctions
      exact declared_of_setters hSetters
  | live =>
      unfold Attribute.functions bodyFunctions at hFunctions
      rw [if_neg hCurrent] at hFunctions
      rcases bind_eq_ok_iff.mp hFunctions with
        ⟨getter?, hGetter, hRest⟩
      rcases bind_eq_ok_iff.mp hRest with
        ⟨setters, hSetters, hSum⟩
      rw [← Except.ok.inj hSum]
      unfold Attribute.roles
      rw [decide_eq_true rfl, Bool.true_and]
      exact
        List.rel_append (declared_of_getter? hGetter)
          (declared_of_setters hSetters)

/- Attributes that are deprecated add nothing. -/
theorem Attribute.functions_of_deprecated_eq
    {context : Context}
    {a : Attribute}
    {functions : List FunctionDecl}
    (hOld : isSet a.deprecated)
    (hFunctions : a.functions context = .ok functions) :
    functions = [] := by
  rcases functions_of_deprecated hOld with ⟨hChained, hBody⟩
  cases context with
  | initializer =>
      exact (Except.ok.inj (hChained.symm.trans hFunctions)).symm
  | live =>
      exact (Except.ok.inj (hBody.symm.trans hFunctions)).symm

/-
  A block has one function for each role, in the order of the
  roles, and no other.  By induction on the attributes.
-/
theorem Zig.declared_of_functionBlock
    {context : Context}
    {attributes : List Attribute}
    {callbacks : List Callback}
    {functions : List FunctionDecl}
    (hBlock :
      functionBlock context attributes
          (some (callbacks.map some)) = .ok functions) :
    List.Forall₂ (Role.IsDeclaredBy context)
      (blockRoles context attributes callbacks) functions := by
  rcases parts_of_functionBlock context hBlock with
    ⟨accessors, setters, hAccessors, hSetters, rfl⟩
  unfold blockRoles
  apply List.rel_append
  · have hEach := mapM_eq_ok_iff.mp hAccessors
    clear hAccessors hBlock
    induction hEach with
    | nil => exact .nil
    | @cons a first rest others hFirst _ ih =>
        rw [List.flatten_cons]
        by_cases hOld : isSet a.deprecated
        · rw [List.filter_cons_of_neg (by simp [hOld]),
            Attribute.functions_of_deprecated_eq hOld hFirst]
          exact ih
        · rw [List.filter_cons_of_pos (by simp [hOld]),
            List.flatMap_cons]
          exact
            List.rel_append
              (Attribute.declared_of_functions hOld hFirst) ih
  · have hEach : (callbacks.map some).mapM
        (Callback.setter context) = .ok setters := hSetters
    rw [mapM_eq_ok_iff, List.forall₂_map_left_iff] at hEach
    rw [List.forall₂_map_left_iff]
    exact hEach

end ElementBindings
