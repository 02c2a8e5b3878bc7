import ElementBindings.Zig.Handler
import ElementBindings.Proofs.Catalog.Complete

/-
  Faults of the callbacks of an element.

  The type of a handler names a type for every argument and
  for the result of its callback.  The unknown type is the
  only one without a name.  Setters of callbacks need no type
  at all.

  Key definitions include:
    * `Callback.Unmapped`, `Callback.typeFault`

  Key theorems include:
    * `Callback.fault?_handlerType`
    * `fault?_handlerTypes`, `fault?_callbackSetters`
-/

namespace ElementBindings

open Zig

namespace Callback

------------------------------------------------------------
-- Types Without Name
------------------------------------------------------------

/- Some argument or the result is of the unknown type. -/
def Unmapped
    (callback : Callback) : Prop :=
  some .unknown ∈ callback.arguments.getD [] ∨
    callback.returnType = some .unknown

instance (callback : Callback) :
    Decidable callback.Unmapped := by
  unfold Unmapped
  infer_instance

/- The fault of a callback with an unknown type. -/
def typeFault
    (callback : Callback) : DispatchFault :=
  .noTypeName (shownName callback.name) "Unknown"

/- Only the unknown type has no name. -/
theorem fault?_typeName
    (callback : Callback)
    (type : DataType) :
    fault? (typeName callback.name (some type)) =
      if type = .unknown then
        some (.dispatch callback.typeFault)
      else
        none := by
  cases type <;> rfl

/- The types of some arguments have names, but the unknown one. -/
theorem fault?_mapM_typeName
    (callback : Callback)
    (types : List DataType) :
    fault? ((types.map some).mapM (typeName callback.name)) =
      if .unknown ∈ types then
        some (.dispatch callback.typeFault)
      else
        none := by
  rw [fault?_mapM, List.findSome?_map]
  induction types with
  | nil => rfl
  | cons type rest ih =>
      rw [List.findSome?_cons, Function.comp_apply,
        fault?_typeName, ih]
      by_cases hUnknown : type = .unknown
      · simp [hUnknown]
      · simp [hUnknown, Ne.symm hUnknown]

------------------------------------------------------------
-- Handlers
------------------------------------------------------------

/- A handler type has a fault when its callback is unmapped. -/
theorem fault?_handlerType
    {callback : Callback}
    (hComplete : callback.Complete) :
    fault? (Callback.handlerType (some callback)) =
      if callback.Unmapped then
        some (.dispatch callback.typeFault)
      else
        none := by
  rcases filled_iff.mp hComplete.arguments with
    ⟨types, hTypes⟩
  rcases Option.isSome_iff_exists.mp hComplete.returnType
    with ⟨result, hResult⟩
  have hParts :
      fault? (Callback.handlerType (some callback)) =
        (fault? ((types.map some).mapM
            (typeName callback.name))).or
          (fault? (typeName callback.name
            (some result))) := by
    unfold Callback.handlerType
    rw [needed_some, ok_bind, hTypes, hResult, needed_some,
      ok_bind]
    exact
      fault?_bind fun _ _ =>
        fault?_bind_eq_first fun _ _ => rfl
  have hUnmapped :
      callback.Unmapped ↔
        .unknown ∈ types ∨ result = .unknown := by
    simp [Unmapped, hTypes, hResult]
  rw [hParts, fault?_mapM_typeName, fault?_typeName]
  by_cases hArgument : .unknown ∈ types
  · simp [hUnmapped, hArgument]
  · by_cases hUnknown : result = .unknown
    · simp [hUnmapped, hArgument, hUnknown]
    · simp [hUnmapped, hArgument, hUnknown]

/- The setter of a callback needs no type. -/
theorem fault?_setter
    (context : Context)
    (callback : Callback) :
    fault? (Callback.setter context (some callback)) =
      none := rfl

end Callback

/-
  The handler types of some callbacks have the fault of the
  first callback that is unmapped.
-/
theorem fault?_handlerTypes
    {callbacks : List Callback}
    (hComplete : ∀ c ∈ callbacks, c.Complete) :
    fault? (handlerTypes (some (callbacks.map some))) =
      (callbacks.find? fun c => c.Unmapped).map fun c =>
        .dispatch c.typeFault := by
  unfold handlerTypes
  rw [needed_some, ok_bind, List.mapM_map]
  apply fault?_mapM_eq_find?
  intro c hMember
  exact Callback.fault?_handlerType (hComplete c hMember)

/- The setters of callbacks have no fault. -/
theorem fault?_callbackSetters
    (context : Context)
    (callbacks : List Callback) :
    fault? (callbackSetters context
      (some (callbacks.map some))) = none := by
  unfold callbackSetters
  rw [needed_some, ok_bind]
  apply fault?_mapM_eq_none
  intro item hMember
  rcases List.mem_map.mp hMember with ⟨c, _, rfl⟩
  exact Callback.fault?_setter context c

end ElementBindings
