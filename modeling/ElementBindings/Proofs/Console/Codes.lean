import Mathlib.Data.List.Infix
import ElementBindings.Console.Basic
import ElementBindings.Proofs.Text.Line

/-
  Codes for characters.

  A text without colons is shown as it is, and so is one with
  colons if the console knows none of the codes in it.  The
  parts of such a text are shown as they are, too.

  Key definitions include:
    * `Console.IsCode`, `Console.Spares`

  Key theorems include:
    * `Console.Spares.of_infix`
    * `Console.decode_of_spares`
-/

namespace ElementBindings

namespace Console

variable {console : Console}
variable {s : List Char}

/- What can stand between the colons of a code. -/
def IsCode
    (code : List Char) : Prop :=
  ∀ c ∈ code, c ≠ ':' ∧ Text.isBlank c = false

/- A console knows none of the codes in a text. -/
def Spares
    (console : Console)
    (s : List Char) : Prop :=
  ∀ code,
    IsCode code →
      (':' :: code ++ [':']) <:+: s →
        console.symbol? code = none

/- Nor does it know a code in a part of such a text. -/
theorem Spares.of_infix
    {part : List Char}
    (hSpares : console.Spares s)
    (hPart : part <:+: s) :
    console.Spares part := by
  intro code hCode hInfix
  exact hSpares code hCode (hInfix.trans hPart)

/- A text without colons holds no code. -/
theorem spares_of_no_colon
    (console : Console)
    (hNone : ':' ∉ s) :
    console.Spares s := by
  intro code _ hInfix
  exact absurd (hInfix.subset List.mem_cons_self) hNone

/- The wide console knows no code at all. -/
theorem spares_wide
    (s : List Char) :
    wide.Spares s := by
  intro code _ _
  unfold symbol?
  dsimp only
  split
  · rfl
  · rfl

/- What is joined of some parts, and a colon before others. -/
theorem intercalate_cons_cons
    (part next : List Char)
    (rest : List (List Char)) :
    [':'].intercalate (part :: next :: rest) =
      part ++ ':' :: [':'].intercalate (next :: rest) := by
  simp [List.intercalate]

/-
  Parts without colons are shown as they are, with the colons
  between them.  The case of a code follows the definition.
-/
theorem decodeParts_of_spares
    {parts : List (List Char)}
    (hColon : ∀ part ∈ parts, ':' ∉ part)
    (hSpares : console.Spares ([':'].intercalate parts)) :
    console.decodeParts parts = [':'].intercalate parts := by
  fun_induction decodeParts console parts with
  | case1 => rfl
  | case2 part => simp [List.intercalate]
  | case3 part last =>
      simp [List.intercalate]
  | case4 part code next rest hBlank ih =>
      have hRest :
          [':'].intercalate (code :: next :: rest) <:+:
            [':'].intercalate (part :: code :: next :: rest) := by
        rw [intercalate_cons_cons part]
        exact ⟨part ++ [':'], [], by simp⟩
      rw [ih (fun other hOther =>
          hColon other (List.mem_cons_of_mem part hOther))
        (hSpares.of_infix hRest), ← intercalate_cons_cons]
  | case5 part code next rest hBlank ih =>
      have hSplit :
          [':'].intercalate (part :: code :: next :: rest) =
            part ++ (':' :: code ++ [':'])
              ++ [':'].intercalate (next :: rest) := by
        rw [intercalate_cons_cons part,
          intercalate_cons_cons code]
        simp
      have hCode : IsCode code := by
        intro c hMember
        constructor
        · rintro rfl
          exact hColon code (by simp) hMember
        · by_contra hOther
          apply hBlank
          rw [List.any_eq_true]
          exact ⟨c, hMember, by simpa using hOther⟩
      have hUnknown : console.symbol? code = none :=
        hSpares code hCode ⟨part, _, hSplit.symm⟩
      have hRest :
          [':'].intercalate (next :: rest) <:+:
            [':'].intercalate (part :: code :: next :: rest) :=
        ⟨part ++ (':' :: code ++ [':']), [], by simp [hSplit]⟩
      have hShown :
          console.shownCode code = ':' :: code ++ [':'] := by
        simp [shownCode, hUnknown]
      rw [ih (fun other hOther =>
          hColon other
            (List.mem_cons_of_mem part
              (List.mem_cons_of_mem code hOther)))
        (hSpares.of_infix hRest), hShown, hSplit]

/- A text is shown as it is if none of its codes is known. -/
theorem decode_of_spares
    (hSpares : console.Spares s) :
    console.decode s = s := by
  have hWhole := Text.intercalate_splitAtEach ':' s
  unfold decode
  rw [decodeParts_of_spares, hWhole]
  · intro part hPart
    exact Text.not_mem_of_mem_splitAtEach hPart
  · rw [hWhole]
    exact hSpares

/- So is a text without colons. -/
theorem decode_of_no_colon
    (console : Console)
    (hNone : ':' ∉ s) :
    console.decode s = s :=
  decode_of_spares (console.spares_of_no_colon hNone)

end Console

end ElementBindings
