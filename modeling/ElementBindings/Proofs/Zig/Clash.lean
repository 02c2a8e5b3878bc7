import ElementBindings.Proofs.Zig.Chaining
import ElementBindings.Proofs.Zig.Role

/-
  Functions of one name in a block.

  A name is a verb, the name of an attribute or a callback, and
  an ending; only the setters of actions are called after their
  attribute alone.  Since merged attributes have distinct names,
  two functions share a name only where the name of one owner
  is that of the other one with an ending, where one of them is
  the setter of an action, where callbacks have the same name,
  or where a name that is null is shown like another one.

  Key definitions include:
    * `Zig.RoleKind`, `Zig.Role.owner`
    * `Zig.Meets`, `Zig.Clash`
    * `Zig.IsNullTwin`, `Zig.Conflict`

  Key theorems include:
    * `Zig.meets_of_append_eq`
    * `Zig.conflict_of_name_eq`
    * `Zig.pairwise_blockRoles`
    * `Zig.same_names_conflict`
-/

namespace ElementBindings

open Zig

------------------------------------------------------------
-- Places in a List
------------------------------------------------------------

/- What is matched at a place is matched with what is there. -/
theorem exists_getElem?_of_forall₂
    {α β : Type}
    {relation : α → β → Prop}
    {items : List α}
    {results : List β}
    {i : Nat}
    {b : β}
    (hMatched : List.Forall₂ relation items results)
    (hThere : results[i]? = some b) :
    ∃ a, items[i]? = some a ∧ relation a b := by
  rcases List.getElem?_eq_some_iff.mp hThere with ⟨hBound, rfl⟩
  have hInside : i < items.length := by
    rw [hMatched.length_eq]
    exact hBound
  exact
    ⟨items[i], List.getElem?_eq_getElem hInside,
      hMatched.get hInside hBound⟩

/- A relation between neighbours far and near, by their places. -/
theorem rel_of_getElem?
    {α : Type}
    {relation : α → α → Prop}
    {items : List α}
    {i j : Nat}
    {a b : α}
    (hPairs : items.Pairwise relation)
    (hFirst : items[i]? = some a)
    (hSecond : items[j]? = some b)
    (hBefore : i < j) :
    relation a b := by
  rcases List.getElem?_eq_some_iff.mp hFirst with ⟨hLeft, rfl⟩
  rcases List.getElem?_eq_some_iff.mp hSecond with ⟨hRight, rfl⟩
  exact
    List.pairwise_iff_getElem.mp hPairs i j hLeft hRight hBefore

------------------------------------------------------------
-- Parts of a Name
------------------------------------------------------------

namespace Zig

/- The kinds of roles. -/
inductive RoleKind where
  | getter
  | setter
  | nameSetter
  | handler
deriving DecidableEq, Repr

/- The verb that a name starts with. -/
def RoleKind.verb : RoleKind → String
  | .getter => "get"
  | .setter | .nameSetter | .handler => "set"

/- What a name ends with. -/
def RoleKind.ending : RoleKind → String
  | .getter | .setter => ""
  | .nameSetter => "HandleName"
  | .handler => "Callback"

/- The kind of a role. -/
def Role.kind : Role → RoleKind
  | .getter _ => .getter
  | .setter _ => .setter
  | .nameSetter _ => .nameSetter
  | .handler _ => .handler

/- The name of the attribute or callback of a role. -/
def Role.owner : Role → Option String
  | .getter a | .setter a | .nameSetter a => a.name
  | .handler c => c.name

/- A setter of an action has no verb before its name. -/
def Role.isBare : Role → Bool
  | .setter a | .nameSetter a => a.isAction
  | .getter _ | .handler _ => false

/- All other names are put together of three parts. -/
theorem Role.name_eq
    {role : Role}
    (hVerb : role.isBare = false) :
    role.name =
      role.kind.verb ++ (shownName role.owner
        ++ role.kind.ending) := by
  cases role with
  | getter a => exact (String.append_empty ▸ rfl)
  | setter a =>
      have hAction : a.isAction = false := hVerb
      simp [name, Attribute.setterLabel, hAction, kind, owner,
        RoleKind.verb, RoleKind.ending]
  | nameSetter a =>
      have hAction : a.isAction = false := hVerb
      simp [name, Attribute.setterLabel, hAction, kind, owner,
        RoleKind.verb, RoleKind.ending, String.append_assoc]
  | handler c => exact String.append_assoc

/- Verbs are equally long, so that what is behind them agrees. -/
theorem RoleKind.verb_append_inj
    {first second : RoleKind}
    {s t : String}
    (hSame : first.verb ++ s = second.verb ++ t) :
    first.verb = second.verb ∧ s = t := by
  have hLength :
      ∀ kind : RoleKind, kind.verb.toList.length = 3 := by
    intro kind
    cases kind <;> rfl
  have hLists := congrArg String.toList hSame
  rw [String.toList_append, String.toList_append] at hLists
  have hParts :=
    List.append_inj hLists
      ((hLength first).trans (hLength second).symm)
  exact
    ⟨String.toList_inj.mp hParts.1,
      String.toList_inj.mp hParts.2⟩

------------------------------------------------------------
-- Shared Names
------------------------------------------------------------

/-
  Two kinds with two owners lead to one name: they are the
  same, or the first one is a setter whose owner has the name
  of the second with the ending of its kind.
-/
def Meets
    (first : RoleKind)
    (s : String)
    (second : RoleKind)
    (t : String) : Prop :=
  (first = second ∧ s = t) ∨
    (first = .setter ∧
      (second = .nameSetter ∨ second = .handler) ∧
      s = t ++ second.ending)

/- The two endings are never the end of one text. -/
theorem handleName_ne_callback
    (s t : String) :
    s ++ "HandleName" ≠ t ++ "Callback" := by
  intro hSame
  have hLists := congrArg (List.getLast? ∘ String.toList) hSame
  simp at hLists

/-
  Equal names meet, from one side or from the other.  The verb
  keeps getters apart from the rest, and the two endings keep
  handles apart from callbacks.
-/
theorem meets_of_append_eq
    {first second : RoleKind}
    {s t : String}
    (hSame :
      first.verb ++ (s ++ first.ending) =
        second.verb ++ (t ++ second.ending)) :
    Meets first s second t ∨ Meets second t first s := by
  rcases RoleKind.verb_append_inj hSame with ⟨hVerb, hRest⟩
  by_cases hKind : first = second
  · rw [hKind] at hRest
    exact .inl (.inl ⟨hKind, by simpa using hRest⟩)
  · cases first with
    | getter =>
        cases second with
        | getter => exact absurd rfl hKind
        | setter | nameSetter | handler =>
            exact absurd hVerb (by decide)
    | setter =>
        have hName : s = t ++ second.ending := by
          simpa [RoleKind.ending] using hRest
        cases second with
        | getter => exact absurd hVerb (by decide)
        | setter => exact absurd rfl hKind
        | nameSetter => exact .inl (.inr ⟨rfl, .inl rfl, hName⟩)
        | handler => exact .inl (.inr ⟨rfl, .inr rfl, hName⟩)
    | nameSetter =>
        cases second with
        | getter => exact absurd hVerb (by decide)
        | setter =>
            have hName : t = s ++ "HandleName" := by
              simpa [RoleKind.ending] using hRest.symm
            exact .inr (.inr ⟨rfl, .inl rfl, hName⟩)
        | nameSetter => exact absurd rfl hKind
        | handler =>
            exact absurd hRest (handleName_ne_callback s t)
    | handler =>
        cases second with
        | getter => exact absurd hVerb (by decide)
        | setter =>
            have hName : t = s ++ "Callback" := by
              simpa [RoleKind.ending] using hRest.symm
            exact .inr (.inr ⟨rfl, .inr rfl, hName⟩)
        | nameSetter =>
            exact absurd hRest.symm (handleName_ne_callback t s)
        | handler => exact absurd rfl hKind

/- Names that are shown alike are equal, or one of them is null. -/
theorem eq_or_null_of_shown
    {first second : Option String}
    (hShown : shownName first = shownName second) :
    first = second ∨
      (first = none ∧ second = some "None") ∨
      (second = none ∧ first = some "None") := by
  cases first with
  | none =>
      cases second with
      | none => exact .inl rfl
      | some t =>
          have hNone : "None" = t := hShown
          exact .inr (.inl ⟨rfl, congrArg some hNone.symm⟩)
  | some s =>
      cases second with
      | none =>
          have hNone : s = "None" := hShown
          exact .inr (.inr ⟨rfl, congrArg some hNone⟩)
      | some t => exact .inl (congrArg some hShown)

------------------------------------------------------------
-- Clashes
------------------------------------------------------------

/-
  What makes the functions of two roles have one name: a setter
  whose attribute is called like a handle with the ending for
  its name, or like a callback with the ending of its setter;
  the setter of an action; or two callbacks of one name.
-/
inductive Clash : Role → Role → Prop where
  | handleName
      {a b : Attribute}
      (hHandle : b.rule = .ok .handle)
      (hName :
        shownName a.name = shownName b.name ++ "HandleName") :
      Clash (.setter a) (.nameSetter b)
  | callback
      {a : Attribute}
      {c : Callback}
      (hName :
        shownName a.name = shownName c.name ++ "Callback") :
      Clash (.setter a) (.handler c)
  | bare
      {first second : Role}
      (hBare : first.isBare) :
      Clash first second
  | handlers
      {c d : Callback}
      (hName : c.name = d.name) :
      Clash (.handler c) (.handler d)

/-
  Two roles of one kind, the first of an owner without a name,
  the second of one whose name is what is shown instead.
-/
structure IsNullTwin
    (first second : Role) : Prop where
  kind : first.kind = second.kind
  null : first.owner = none
  none : second.owner = some "None"

/- A clash, or a name that is null, from either side. -/
def Conflict
    (first second : Role) : Prop :=
  (Clash first second ∨ IsNullTwin first second) ∨
    (Clash second first ∨ IsNullTwin second first)

/- It does not matter from which side. -/
theorem Conflict.symm
    {first second : Role}
    (hConflict : Conflict first second) :
    Conflict second first :=
  Or.symm hConflict

/- Only a handle is set by the name of its element. -/
def Role.IsProper : Role → Prop
  | .nameSetter a => a.rule = .ok .handle
  | .getter _ | .setter _ | .handler _ => True

variable {first second : Role}

/- Roles are in conflict where their names meet. -/
theorem conflict_of_meets
    (hProper : second.IsProper)
    (hApart :
      first.kind = second.kind →
        first.kind ≠ .handler →
        first.owner ≠ second.owner)
    (hMeets :
      Meets first.kind (shownName first.owner) second.kind
        (shownName second.owner)) :
    Conflict first second := by
  rcases hMeets with ⟨hKind, hShown⟩ | ⟨hSetter, hOther, hName⟩
  · rcases eq_or_null_of_shown hShown with
      hOwner | ⟨hNull, hNone⟩ | ⟨hNull, hNone⟩
    · cases first with
      | handler c =>
          cases second with
          | handler d => exact .inl (.inl (.handlers hOwner))
          | getter b | setter b | nameSetter b => cases hKind
      | getter a | setter a | nameSetter a =>
          exact absurd hOwner (hApart hKind nofun)
    · exact .inl (.inr ⟨hKind, hNull, hNone⟩)
    · exact .inr (.inr ⟨hKind.symm, hNull, hNone⟩)
  · cases first with
    | getter a | nameSetter a | handler a => cases hSetter
    | setter a =>
        cases second with
        | getter b | setter b =>
            rcases hOther with hKind | hKind <;> cases hKind
        | nameSetter b => exact .inl (.inl (.handleName hProper hName))
        | handler c => exact .inl (.inl (.callback hName))

/-
  Two roles of one name are in conflict, if they do not have
  the same kind and the same attribute.
-/
theorem conflict_of_name_eq
    (hFirst : first.IsProper)
    (hSecond : second.IsProper)
    (hApart :
      first.kind = second.kind →
        first.kind ≠ .handler →
        first.owner ≠ second.owner)
    (hName : first.name = second.name) :
    Conflict first second := by
  cases hBare : first.isBare with
  | true => exact .inl (.inl (.bare hBare))
  | false =>
      cases hOther : second.isBare with
      | true => exact .inr (.inl (.bare hOther))
      | false =>
          rw [Role.name_eq hBare, Role.name_eq hOther] at hName
          rcases meets_of_append_eq hName with hMeets | hMeets
          · exact conflict_of_meets hSecond hApart hMeets
          · refine (conflict_of_meets hFirst ?_ hMeets).symm
            intro hKind hAttribute hOwner
            rw [hKind] at hAttribute
            exact hApart hKind.symm hAttribute hOwner.symm

------------------------------------------------------------
-- Roles of a Block
------------------------------------------------------------

/- The roles of an attribute are among three. -/
theorem roles_sublist
    (context : Context)
    (a : Attribute) :
    (a.roles context).Sublist
      (.getter a
        :: if a.rule = .ok .handle then
          [.setter a, .nameSetter a]
        else
          [.setter a]) := by
  have hGetter :
      (if context = .live && a.isRead then
        [Role.getter a] else []).Sublist [.getter a] := by
    split
    · exact List.Sublist.refl _
    · exact List.nil_sublist _
  have hSetters :
      (if a.isWritten context then a.setterRoles else []).Sublist
        a.setterRoles := by
    split
    · exact List.Sublist.refl _
    · exact List.nil_sublist _
  exact hGetter.append hSetters

/- They are proper, and they all belong to the attribute. -/
theorem proper_of_mem_roles
    {context : Context}
    {a : Attribute}
    {role : Role}
    (hRole : role ∈ a.roles context) :
    role.IsProper ∧ role.owner = a.name ∧
      role.kind ≠ .handler := by
  have hListed := (roles_sublist context a).subset hRole
  split at hListed
  · next hHandle =>
      simp only [List.mem_cons, List.not_mem_nil, or_false]
        at hListed
      rcases hListed with rfl | rfl | rfl
      · exact ⟨trivial, rfl, nofun⟩
      · exact ⟨trivial, rfl, nofun⟩
      · exact ⟨hHandle, rfl, nofun⟩
  · simp only [List.mem_cons, List.not_mem_nil, or_false]
      at hListed
    rcases hListed with rfl | rfl
    · exact ⟨trivial, rfl, nofun⟩
    · exact ⟨trivial, rfl, nofun⟩

/- No two of them are of the same kind. -/
theorem kinds_of_roles
    (context : Context)
    (a : Attribute) :
    (a.roles context).Pairwise
      fun first second => first.kind ≠ second.kind := by
  apply List.Pairwise.sublist (roles_sublist context a)
  split <;> simp [Role.kind]

/-
  Where attributes have distinct names, any two roles of one
  name in a block are in conflict.
-/
theorem pairwise_blockRoles
    {attributes : List Attribute}
    (hDistinct : (attributes.map (·.name)).Nodup)
    (context : Context)
    (callbacks : List Callback) :
    (blockRoles context attributes callbacks).Pairwise
      fun first second =>
        first.name = second.name →
          Conflict first second := by
  have hCurrent :
      (attributes.filter (!isSet ·.deprecated)).Pairwise
        fun a b => a.name ≠ b.name := by
    rw [List.nodup_iff_pairwise_ne, List.pairwise_map]
      at hDistinct
    exact hDistinct.filter _
  unfold blockRoles
  rw [List.pairwise_append, List.pairwise_flatMap,
    List.pairwise_map]
  refine ⟨⟨?_, ?_⟩, ?_, ?_⟩
  · intro a _
    apply (kinds_of_roles context a).imp_of_mem
    intro first second hFirst hSecond hKind
    exact
      conflict_of_name_eq (proper_of_mem_roles hFirst).1
        (proper_of_mem_roles hSecond).1
        fun hSame => absurd hSame hKind
  · apply hCurrent.imp
    intro a b hName first hFirst second hSecond
    have hLeft := proper_of_mem_roles hFirst
    have hRight := proper_of_mem_roles hSecond
    apply conflict_of_name_eq hLeft.1 hRight.1
    intro _ _
    rw [hLeft.2.1, hRight.2.1]
    exact hName
  · apply List.pairwise_of_forall
    intro c d
    exact
      conflict_of_name_eq trivial trivial
        fun _ hOther => absurd rfl hOther
  · intro first hFirst second hSecond
    rcases List.mem_flatMap.mp hFirst with ⟨a, _, hRole⟩
    rcases List.mem_map.mp hSecond with ⟨c, _, rfl⟩
    have hLeft := proper_of_mem_roles hRole
    exact
      conflict_of_name_eq hLeft.1 trivial
        fun hKind => absurd hKind hLeft.2.2

/-
  Two functions of one name in a block of merged attributes are
  declared for roles that are in conflict.  In a block without
  conflict all functions have names of their own.
-/
theorem same_names_conflict
    {context : Context}
    {own : Option (List (Option Attribute))}
    {parents : List (Option Attribute)}
    {merged : List Attribute}
    {callbacks : List Callback}
    {functions : List FunctionDecl}
    (hMerge : Attribute.merge own parents = .ok merged)
    (hBlock :
      functionBlock context merged
          (some (callbacks.map some)) = .ok functions) :
    (∀ (i j : Nat) (f g : FunctionDecl),
      functions[i]? = some f →
      functions[j]? = some g →
      i ≠ j →
      f.name = g.name →
      ∃ first second,
        (blockRoles context merged callbacks)[i]? =
            some first ∧
          (blockRoles context merged callbacks)[j]? =
            some second ∧
          first.IsDeclaredBy context f ∧
          second.IsDeclaredBy context g ∧
          (Conflict first second)) ∧
      ((blockRoles context merged callbacks).Pairwise
          (fun first second =>
            ¬ Conflict first second) →
        (functions.map (·.name)).Nodup) := by
  have hDeclared := declared_of_functionBlock hBlock
  have hConflicts :=
    pairwise_blockRoles (Attribute.nodup_of_merge hMerge) context
      callbacks
  constructor
  · intro i j f g hThere hHere hOther hName
    rcases exists_getElem?_of_forall₂ hDeclared hThere with
      ⟨first, hFirst, hLeft⟩
    rcases exists_getElem?_of_forall₂ hDeclared hHere with
      ⟨second, hSecond, hRight⟩
    refine
      ⟨first, second, hFirst, hSecond, hLeft, hRight, ?_⟩
    rw [hLeft.name_eq, hRight.name_eq] at hName
    rcases Nat.lt_or_gt_of_ne hOther with hBefore | hBehind
    · exact rel_of_getElem? hConflicts hFirst hSecond hBefore hName
    · exact
        (rel_of_getElem? hConflicts hSecond hFirst hBehind
          hName.symm).symm
  · intro hNone
    rw [map_name_of_declared hDeclared,
      List.nodup_iff_pairwise_ne, List.pairwise_map]
    apply (hConflicts.and hNone).imp
    intro first second hBoth hName
    exact hBoth.2 (hBoth.1 hName)

end Zig

------------------------------------------------------------
-- Some Conflicts
------------------------------------------------------------

/- A text that is called like the name of a handle. -/
def menuName : Attribute :=
  { sizeNumber "MENUHandleName" false with
    type := some .string
    format := some .binary }

/- The name of a handle is set under the name of another setter. -/
theorem menu_names_conflict :
    ∃ merged functions first second,
      Attribute.merge (some [some menuHandle, some menuName]) []
          = .ok merged ∧
        functionBlock .live merged (some ([].map some))
          = .ok functions ∧
        functions.map (·.name) =
          [ "getMENU", "setMENU", "setMENUHandleName",
            "getMENUHandleName", "setMENUHandleName" ] ∧
        (blockRoles .live merged [])[2]? = some first ∧
        (blockRoles .live merged [])[4]? = some second ∧
        Conflict first second := by
  have hMerge :
      Attribute.merge (some [some menuHandle, some menuName])
          [] =
        .ok [menuHandle, menuName] := rfl
  have hBlock :
      ∃ functions f g,
        functionBlock .live [menuHandle, menuName]
            (some ([].map some)) = .ok functions ∧
          functions[2]? = some f ∧
          functions[4]? = some g ∧
          f.name = g.name ∧
          functions.map (·.name) =
            [ "getMENU", "setMENU", "setMENUHandleName",
              "getMENUHandleName", "setMENUHandleName" ] :=
    ⟨_, _, _, rfl, rfl, rfl, rfl, rfl⟩
  rcases hBlock with
    ⟨functions, f, g, hBlock, hThird, hFifth, hSame, hNames⟩
  rcases (same_names_conflict hMerge hBlock).1 2 4 f g hThird
      hFifth (by decide) hSame with
    ⟨first, second, hFirst, hSecond, _, _, hConflict⟩
  exact
    ⟨_, functions, first, second, hMerge, hBlock, hNames,
      hFirst, hSecond, hConflict⟩

/- A number whose name may be null. -/
def countOf
    (name : Option String) : Attribute :=
  { sizeNumber "COUNT" false with
    name := name
    format := some .binary }

/-
  The getters of two attributes have one name, though neither
  of them is a setter and both attributes differ in name: one
  has none, and the other one is called like that.
-/
theorem null_is_called_none :
    ∃ merged functions f g,
      Attribute.merge
          (some [some (countOf none), some (countOf "None")]) []
          = .ok merged ∧
        functionBlock .live merged (some []) = .ok functions ∧
        functions[0]? = some f ∧
        functions[2]? = some g ∧
        f.name = g.name ∧
        Role.IsDeclaredBy .live (.getter (countOf none)) f ∧
        Role.IsDeclaredBy .live (.getter (countOf "None")) g ∧
        (blockRoles .live merged [])[0]? =
          some (.getter (countOf none)) ∧
        (blockRoles .live merged [])[2]? =
          some (.getter (countOf "None")) ∧
        ¬ Clash (.getter (countOf none))
          (.getter (countOf "None")) ∧
        ¬ Clash (.getter (countOf "None"))
          (.getter (countOf none)) := by
  refine
    ⟨_, _, _, _, rfl, rfl, rfl, rfl, rfl, rfl, rfl, rfl, rfl,
      ?_, ?_⟩
  · intro hClash
    cases hClash with
    | bare hBare => cases hBare
  · intro hClash
    cases hClash with
    | bare hBare => cases hBare

end ElementBindings
