import Mathlib.Data.List.Basic
import Mathlib.Order.MinMax
import ElementBindings.Console.Table

/-
  Widths of columns.

  Narrowing the widest columns takes at least one cell off,
  since their last share is what is left of the excess.  So
  columns that are too wide together end up within their
  limit.  Columns that fit stay as wide as they are.

  Key theorems include:
    * `totalWidth_narrow_lt`
    * `totalWidth_fitWidths_le`
    * `fitWidths_of_fit`
-/

namespace ElementBindings

------------------------------------------------------------
-- Widest Columns
------------------------------------------------------------

/- The greatest of some numbers, or a start that is greater. -/
theorem foldl_max_spec
    (sizes : List Nat)
    (start : Nat) :
    start ≤ sizes.foldl max start ∧
      (∀ size ∈ sizes, size ≤ sizes.foldl max start) ∧
        (sizes.foldl max start = start ∨
          sizes.foldl max start ∈ sizes) := by
  induction sizes generalizing start with
  | nil => simp
  | cons size sizes ih =>
      rcases ih (max start size) with ⟨hStart, hEach, hSome⟩
      rw [List.foldl_cons]
      refine ⟨by omega, ?_, ?_⟩
      · intro other hOther
        rcases List.mem_cons.mp hOther with rfl | hLater
        · omega
        · exact hEach other hLater
      · rcases hSome with hSame | hLater
        · rw [hSame]
          rcases max_choice start size with hFirst | hSecond
          · exact .inl hFirst
          · rw [hSecond]
            exact .inr List.mem_cons_self
        · exact .inr (List.mem_cons_of_mem size hLater)

/- A column is not wider than all of them together. -/
theorem le_totalWidth_of_mem
    {widths : List Nat}
    {width : Nat}
    (hMember : width ∈ widths) :
    width ≤ totalWidth widths := by
  induction widths with
  | nil => simp at hMember
  | cons first rest ih =>
      unfold totalWidth
      rcases List.mem_cons.mp hMember with rfl | hRest
      · omega
      · have hLater := ih hRest
        omega

/- Columns without a width have none together. -/
theorem totalWidth_eq_zero
    {widths : List Nat}
    (hNone : ∀ width ∈ widths, width = 0) :
    totalWidth widths = 0 := by
  induction widths with
  | nil => rfl
  | cons first rest ih =>
      rw [List.forall_mem_cons] at hNone
      unfold totalWidth
      rw [hNone.1, ih hNone.2]

/- Some column is the widest if not all have no width. -/
theorem widest_mem
    {widths : List Nat}
    (hSome : 0 < totalWidth widths) :
    0 < widths.foldl max 0 ∧ widths.foldl max 0 ∈ widths := by
  have hPositive : ∃ width ∈ widths, 0 < width := by
    by_contra hNone
    push Not at hNone
    have hZero : totalWidth widths = 0 :=
      totalWidth_eq_zero fun width hMember =>
        Nat.le_zero.mp (hNone width hMember)
    omega
  rcases hPositive with ⟨width, hMember, hWide⟩
  rcases foldl_max_spec widths 0 with ⟨_, hEach, hSome⟩
  have hLeast := hEach width hMember
  refine ⟨by omega, ?_⟩
  rcases hSome with hZero | hThere
  · omega
  · exact hThere

/- All other columns are less wide. -/
theorem next_lt_widest
    {widths : List Nat}
    {widest : Nat}
    (hWidest : ∀ width ∈ widths, width ≤ widest)
    (hPositive : 0 < widest) :
    (widths.filter (· ≠ widest)).foldl max 0 < widest := by
  rcases foldl_max_spec (widths.filter (· ≠ widest)) 0 with
    ⟨_, _, hZero | hThere⟩
  · omega
  · rcases List.mem_filter.mp hThere with ⟨hMember, hOther⟩
    have hLess := hWidest _ hMember
    have hOther := of_decide_eq_true hOther
    omega

------------------------------------------------------------
-- Narrowing
------------------------------------------------------------

/- All of an excess is the share of a last column. -/
theorem roundedQuotient_one
    (excess : Nat) :
    roundedQuotient excess 1 = excess := by
  simp [roundedQuotient, Nat.mod_one]

/- Narrowing columns leaves out none of them. -/
theorem length_narrow
    (widest bound excess count : Nat)
    (widths : List Nat) :
    (narrow widest bound excess count widths).length =
      widths.length := by
  fun_induction narrow widest bound excess count widths with
  | case1 => rfl
  | case2 excess count rest part ih => simp [ih]
  | case3 excess count width rest hOther ih => simp [ih]

/- It makes no column wider. -/
theorem totalWidth_narrow_le
    (widest bound excess count : Nat)
    (widths : List Nat) :
    totalWidth (narrow widest bound excess count widths) ≤
      totalWidth widths := by
  fun_induction narrow widest bound excess count widths with
  | case1 => exact le_rfl
  | case2 excess count rest part ih =>
      simp only [totalWidth]
      omega
  | case3 excess count width rest hOther ih =>
      simp only [totalWidth]
      omega

/-
  It takes a cell off, if there is an excess to share: unless
  one of the widest columns has a share before, the last of
  them takes all of the excess.
-/
theorem totalWidth_narrow_lt
    {widest bound excess : Nat}
    {widths : List Nat}
    (hBound : 0 < bound)
    (hWidest : 0 < widest)
    (hExcess : 0 < excess)
    (hMember : widest ∈ widths) :
    totalWidth
        (narrow widest bound excess (widths.count widest)
          widths) <
      totalWidth widths := by
  induction widths with
  | nil => simp at hMember
  | cons width rest ih =>
      unfold narrow
      by_cases hSame : width = widest
      · rw [if_pos hSame]
        have hCount :
            (width :: rest).count widest - 1 =
              rest.count widest := by
          simp [hSame]
        dsimp only
        rw [hCount, totalWidth, totalWidth]
        by_cases hShare :
            0 < min bound
              (roundedQuotient excess
                ((width :: rest).count widest))
        · have hRest :=
            totalWidth_narrow_le widest bound
              (excess - min bound
                (roundedQuotient excess
                  ((width :: rest).count widest)))
              (rest.count widest) rest
          omega
        · have hMore : widest ∈ rest := by
            by_contra hLast
            apply hShare
            have hOne : (width :: rest).count widest = 1 := by
              simp [hSame, List.count_eq_zero.mpr hLast]
            rw [hOne, roundedQuotient_one]
            omega
          have hNothing :
              min bound
                  (roundedQuotient excess
                    ((width :: rest).count widest)) = 0 := by
            omega
          have hRest := ih hMore
          rw [hNothing]
          simp only [Nat.sub_zero]
          omega
      · rw [if_neg hSame]
        have hMore : widest ∈ rest := by
          rcases List.mem_cons.mp hMember with hHere | hThere
          · exact absurd hHere.symm hSame
          · exact hThere
        have hCount :
            (width :: rest).count widest = rest.count widest :=
          List.count_cons_of_ne hSame
        rw [hCount, totalWidth, totalWidth]
        have hRest := ih hMore
        omega

------------------------------------------------------------
-- Fitting
------------------------------------------------------------

/- Each step leaves as many columns as there are. -/
theorem length_fitWidthsFrom
    (limit steps : Nat)
    (widths : List Nat) :
    (fitWidthsFrom limit steps widths).length =
      widths.length := by
  induction steps generalizing widths with
  | zero => rfl
  | succ steps ih =>
      unfold fitWidthsFrom
      dsimp only
      split
      · rfl
      · rw [ih, length_narrow]

/- So does fitting them. -/
theorem length_fitWidths
    (limit : Nat)
    (widths : List Nat) :
    (fitWidths limit widths).length = widths.length :=
  length_fitWidthsFrom limit (totalWidth widths) widths

/- With a step for each cell of the excess, columns fit. -/
theorem totalWidth_fitWidthsFrom_le
    {limit steps : Nat}
    {widths : List Nat}
    (hSteps : totalWidth widths ≤ limit + steps) :
    totalWidth (fitWidthsFrom limit steps widths) ≤ limit := by
  induction steps generalizing widths with
  | zero => exact hSteps
  | succ steps ih =>
      unfold fitWidthsFrom
      dsimp only
      split
      · omega
      · next hExcess =>
          have hSum : 0 < totalWidth widths := by
            omega
          rcases widest_mem hSum with ⟨hPositive, hMember⟩
          have hNext :=
            next_lt_widest (foldl_max_spec widths 0).2.1
              hPositive
          apply ih
          have hBound :
              0 < min (totalWidth widths - limit)
                (widths.foldl max 0
                  - (widths.filter
                      (· ≠ widths.foldl max 0)).foldl max 0) := by
            omega
          have hLess :=
            totalWidth_narrow_lt hBound hPositive
              (Nat.pos_of_ne_zero hExcess) hMember
          omega

/- Columns that are narrowed to some cells fit into them. -/
theorem totalWidth_fitWidths_le
    (limit : Nat)
    (widths : List Nat) :
    totalWidth (fitWidths limit widths) ≤ limit :=
  totalWidth_fitWidthsFrom_le (Nat.le_add_left _ _)

/- Columns that fit are not narrowed. -/
theorem fitWidths_of_fit
    {limit : Nat}
    {widths : List Nat}
    (hFit : totalWidth widths ≤ limit) :
    fitWidths limit widths = widths := by
  have hNone : totalWidth widths - limit = 0 := by
    omega
  unfold fitWidths
  cases totalWidth widths with
  | zero => rfl
  | succ steps =>
      unfold fitWidthsFrom
      simp [hNone]

end ElementBindings
