import ElementBindings.Command.Generate
import ElementBindings.Proofs.Zig.Render

/-
  Rendering the wanted elements of a catalog.

  A pool gives the renderings of its jobs in the order of the
  jobs, whatever order it finishes them in.  Every wanted
  element of a well-formed catalog settles: it has a text, or
  a dispatch fault of its own.

  Key definitions include:
    * `Catalog.textOf`, `Catalog.wanted`
    * `Catalog.Settles`

  Key theorems include:
    * `renderInPool_eq`
    * `Catalog.settles_textOf`
    * `Catalog.exists_renderings`
-/

namespace ElementBindings

------------------------------------------------------------
-- Pools
------------------------------------------------------------

/- What a pool has finished of a job is what the job renders. -/
theorem eq_render_of_lookup_finished
    {order : List Nat}
    {jobs : List Job}
    {i : Nat}
    {job : Job}
    {result : Except Fault String}
    (hJob : jobs[i]? = some job)
    (hFound : (finished order jobs).lookup i = some result) :
    result = job.render := by
  rcases List.lookup_eq_some_iff.mp hFound with
    ⟨before, after, hResults, _⟩
  have hMember : (i, result) ∈ finished order jobs := by
    simp [hResults]
  unfold finished at hMember
  rcases List.mem_filterMap.mp hMember with ⟨j, _, hSome⟩
  rcases Option.map_eq_some_iff.mp hSome with
    ⟨other, hOther, hPair⟩
  rcases Prod.mk.inj hPair with ⟨rfl, rfl⟩
  have hSame : job = other := by
    simpa [hJob] using hOther
  rw [hSame]

/-
  A pool collects what rendering in turn gives, whatever it
  finishes first, twice or not at all.
-/
theorem renderInPool_eq
    (order : List Nat)
    (jobs : List Job) :
    renderInPool order jobs = renderInTurn jobs := by
  have hEach :
      ∀ numbered ∈ jobs.zipIdx,
        settle (((finished order jobs).lookup numbered.2).getD
          numbered.1.render) = settle numbered.1.render := by
    intro numbered hMember
    have hJob := List.mem_zipIdx_iff_getElem?.mp hMember
    cases hFound :
        (finished order jobs).lookup numbered.2 with
    | none => rfl
    | some result =>
        rw [eq_render_of_lookup_finished hJob hFound]
        rfl
  have hFirst :
      (jobs.zipIdx.map Prod.fst).mapM
          (fun job => settle job.render) =
        jobs.zipIdx.mapM fun numbered =>
          settle numbered.1.render := List.mapM_map
  rw [List.zipIdx_map_fst] at hFirst
  unfold renderInPool renderInTurn
  rw [hFirst]
  exact mapM_congr hEach

/- Up to the most workers, their number makes no difference. -/
theorem renderAll_eq
    {workers : Int}
    (jobs : List Job)
    (hWorkers : workers ≤ maxWorkers) :
    renderAll workers jobs = renderInTurn jobs := by
  unfold renderAll
  by_cases hTurn : workers ≤ 1
  · rw [if_pos hTurn]
  · rw [if_neg hTurn, if_pos hWorkers]
    exact renderInPool_eq (List.range jobs.length) jobs

/- With more workers than a pool can have, nothing is. -/
theorem renderInTurn_of_renderAll
    {workers : Int}
    {jobs : List Job}
    {renderings : List Rendering}
    (hAll : renderAll workers jobs = .ok renderings) :
    renderInTurn jobs = .ok renderings := by
  by_cases hWorkers : workers ≤ maxWorkers
  · rw [← renderAll_eq jobs hWorkers]
    exact hAll
  · have hMany : ¬ workers ≤ 1 := by
      unfold maxWorkers at hWorkers
      omega
    unfold renderAll at hAll
    rw [if_neg hMany, if_neg hWorkers] at hAll
    cases hAll

------------------------------------------------------------
-- Wanted Elements
------------------------------------------------------------

/- The name of an element, or no text where there is none. -/
def Element.label
    (element : Element) : String :=
  element.name.getD ""

/- A complete element is called by its label. -/
theorem Element.Complete.name_eq
    {element : Element}
    (hComplete : element.Complete) :
    element.name = some element.label := by
  rcases Option.isSome_iff_exists.mp hComplete.name with
    ⟨name, hName⟩
  simp [Element.label, hName]

/- The text of an element with all that it inherits. -/
def Catalog.textOf
    (catalog : Catalog)
    (element : Element) : Except Fault String := do
  let parents ← catalog.parentAttributes element
  element.render parents

/- The elements of a catalog that are wanted, in its order. -/
def Catalog.wanted
    (catalog : Catalog)
    (only : List String) : List Element :=
  catalog.elementList.filter (Element.isWanted only)

/- A wanted element is an element of the catalog. -/
theorem Catalog.mem_of_mem_wanted
    {catalog : Catalog}
    {only : List String}
    {element : Element}
    (hWanted : element ∈ catalog.wanted only) :
    element ∈ catalog.elementList :=
  (List.mem_filter.mp hWanted).1

------------------------------------------------------------
-- Renderings
------------------------------------------------------------

/- An element has a text, or a dispatch fault of its own. -/
theorem Catalog.textOf_cases
    {catalog : Catalog}
    {element : Element}
    (hComplete : catalog.Complete)
    (hFormed : catalog.WellFormed)
    (hElement : element ∈ catalog.elementList) :
    (∃ text, catalog.textOf element = .ok text) ∨
      ∃ fault,
        catalog.textOf element = .error (.dispatch fault) := by
  rcases Catalog.exists_merged hComplete hFormed hElement
    with ⟨parents, hParents, _, hAttributes⟩
  have hText :
      catalog.textOf element =
        element.render (parents.map some) := by
    unfold Catalog.textOf
    rw [hParents, ok_bind]
  have hFault :=
    Element.fault?_render
      (hComplete.everyElement element hElement)
      hAttributes rfl
  rw [hText]
  cases hReason :
      renderFault? element.callbackList
        (firstOccurrences (·.name)
          (element.attributeList ++ parents)) with
  | none =>
      rw [hReason] at hFault
      exact .inl (fault?_eq_none_iff.mp hFault)
  | some reason =>
      rw [hReason] at hFault
      exact .inr ⟨reason, fault?_eq_some_iff.mp hFault⟩

/- What settles as a text is that text. -/
theorem settle_eq_ok_text_iff
    {result : Except Fault String}
    {text : String} :
    settle result = .ok (.ok text) ↔ result = .ok text := by
  cases result with
  | ok other => simp [settle]
  | error fault => cases fault <;> simp [settle]

/- What settles as a fault is that dispatch fault. -/
theorem settle_eq_ok_error_iff
    {result : Except Fault String}
    {fault : DispatchFault} :
    settle result = .ok (.error fault) ↔
      result = .error (.dispatch fault) := by
  cases result with
  | ok text => simp [settle]
  | error other => cases other <;> simp [settle]

/- A job of an element, with what the element settles as. -/
def Catalog.Settles
    (catalog : Catalog)
    (element : Element)
    (settled : Job × Rendering) : Prop :=
  settled.1.element = element ∧
    settle (catalog.textOf element) = .ok settled.2

/- It settles as a text exactly if the element has one. -/
theorem Catalog.Settles.isOk_textOf
    {catalog : Catalog}
    {element : Element}
    {job : Job}
    {rendering : Rendering}
    (hSettles : catalog.Settles element (job, rendering)) :
    (catalog.textOf element).isOk = rendering.isOk := by
  cases rendering with
  | ok text =>
      rw [settle_eq_ok_text_iff.mp hSettles.2]
      rfl
  | error fault =>
      rw [settle_eq_ok_error_iff.mp hSettles.2]
      rfl

/- Every selected job renders the text of its element. -/
theorem Catalog.forall₂_of_selected
    {catalog : Catalog}
    {elements : List Element}
    {only : List String}
    {jobs : List Job}
    (hSelected : catalog.selected elements only = .ok jobs) :
    List.Forall₂
      (fun element job =>
        job.element = element ∧
          job.render = catalog.textOf element)
      (elements.filter (Element.isWanted only)) jobs := by
  unfold Catalog.selected at hSelected
  apply (mapM_eq_ok_iff.mp hSelected).imp
  intro element job hJob
  rcases bind_eq_ok_iff.mp hJob with
    ⟨parents, hParents, hPair⟩
  have hSame : (⟨element, parents⟩ : Job) = job :=
    Except.ok.inj hPair
  rw [← hSame]
  refine ⟨rfl, ?_⟩
  unfold Catalog.textOf
  rw [hParents, ok_bind]
  rfl

/- Every wanted element gets a job that renders its text. -/
theorem Catalog.exists_selected
    {catalog : Catalog}
    (only : List String)
    (hComplete : catalog.Complete)
    (hFormed : catalog.WellFormed) :
    ∃ jobs,
      catalog.selected catalog.elementList only = .ok jobs ∧
        List.Forall₂
          (fun element job =>
            job.element = element ∧
              job.render = catalog.textOf element)
          (catalog.wanted only) jobs := by
  have hEach :
      ∀ element ∈ catalog.wanted only,
        ∃ job,
          (do
            let parents ← catalog.parentAttributes element
            return (⟨element, parents⟩ : Job)) = .ok job := by
    intro element hWanted
    rcases Catalog.exists_inherited hComplete hFormed
        (Catalog.mem_of_mem_wanted hWanted) with
      ⟨parents, hParents, _⟩
    exact ⟨⟨element, parents.map some⟩, by rw [hParents]; rfl⟩
  rcases exists_mapM hEach with ⟨jobs, hJobs⟩
  exact ⟨jobs, hJobs, Catalog.forall₂_of_selected hJobs⟩

/- An element of a well-formed catalog settles. -/
theorem Catalog.settles_textOf
    {catalog : Catalog}
    {element : Element}
    (hComplete : catalog.Complete)
    (hFormed : catalog.WellFormed)
    (hElement : element ∈ catalog.elementList) :
    ∃ rendering,
      settle (catalog.textOf element) = .ok rendering := by
  rcases Catalog.textOf_cases hComplete hFormed hElement with
    ⟨text, hText⟩ | ⟨fault, hFault⟩
  · exact ⟨.ok text, settle_eq_ok_text_iff.mpr hText⟩
  · exact ⟨.error fault, settle_eq_ok_error_iff.mpr hFault⟩

/- Jobs that are rendered settle their elements. -/
theorem Catalog.settles_of_renderInTurn
    {catalog : Catalog}
    {elements : List Element}
    {jobs : List Job}
    {renderings : List Rendering}
    (hJobs :
      List.Forall₂
        (fun element job =>
          job.element = element ∧
            job.render = catalog.textOf element)
        elements jobs)
    (hTurn : renderInTurn jobs = .ok renderings) :
    List.Forall₂ catalog.Settles elements
      (jobs.zip renderings) := by
  have hEach := mapM_eq_ok_iff.mp hTurn
  clear hTurn
  induction hJobs generalizing renderings with
  | nil =>
      cases hEach
      exact .nil
  | cons hFirst hRest ih =>
      cases hEach with
      | cons hRendering hRenderings =>
          rw [hFirst.2] at hRendering
          exact .cons ⟨hFirst.1, hRendering⟩ (ih hRenderings)

/- Jobs whose elements settle can be rendered in turn. -/
theorem Catalog.exists_renderInTurn
    {catalog : Catalog}
    {elements : List Element}
    {jobs : List Job}
    (hJobs :
      List.Forall₂
        (fun element job =>
          job.element = element ∧
            job.render = catalog.textOf element)
        elements jobs)
    (hSettle :
      ∀ element ∈ elements, ∃ rendering,
        settle (catalog.textOf element) = .ok rendering) :
    ∃ renderings,
      renderInTurn jobs = .ok renderings ∧
        List.Forall₂ catalog.Settles elements
          (jobs.zip renderings) := by
  have hEach :
      ∀ job ∈ jobs, ∃ rendering,
        settle job.render = .ok rendering := by
    induction hJobs with
    | nil => simp
    | cons hFirst hRest ih =>
        rw [List.forall_mem_cons] at hSettle ⊢
        rw [hFirst.2]
        exact ⟨hSettle.1, ih hSettle.2⟩
  rcases exists_mapM hEach with ⟨renderings, hTurn⟩
  exact
    ⟨renderings, hTurn,
      Catalog.settles_of_renderInTurn hJobs hTurn⟩

/- Rendering the wanted elements settles each of them. -/
theorem Catalog.exists_renderings
    {catalog : Catalog}
    {workers : Int}
    (only : List String)
    (hComplete : catalog.Complete)
    (hFormed : catalog.WellFormed)
    (hWorkers : workers ≤ maxWorkers) :
    ∃ jobs renderings,
      catalog.selected catalog.elementList only = .ok jobs ∧
        jobs.length = (catalog.wanted only).length ∧
        renderAll workers jobs = .ok renderings ∧
        List.Forall₂ catalog.Settles (catalog.wanted only)
          (jobs.zip renderings) := by
  rcases Catalog.exists_selected only hComplete hFormed with
    ⟨jobs, hSelected, hJobs⟩
  rcases Catalog.exists_renderInTurn hJobs
      (fun element hWanted =>
        Catalog.settles_textOf hComplete hFormed
          (Catalog.mem_of_mem_wanted hWanted)) with
    ⟨renderings, hTurn, hSettled⟩
  refine
    ⟨jobs, renderings, hSelected, hJobs.length_eq.symm, ?_,
      hSettled⟩
  rw [renderAll_eq jobs hWorkers]
  exact hTurn

end ElementBindings
