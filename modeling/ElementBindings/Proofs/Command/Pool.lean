import Mathlib.Data.List.Perm.Basic
import ElementBindings.Proofs.Command.Refusal

/-
  Rendering in a pool of workers.

  Jobs are handed in one after the other and wait to be taken.
  A worker that is free takes one of them, renders it, and
  leaves what it got, text or fault, as the result of that
  job.  The results are collected in the order of the jobs,
  each as soon as it is there.  A fault that concerns more
  than one element is raised when it is met, while the workers
  carry on with what is left.

  Any of this may happen at any time.  What a pool gives in the
  end does not depend on it, and the end is always reached.

  Key definitions include:
    * `Pool`, `Pool.Step`, `Pool.Reaches`
    * `Pool.outcome`
    * `RendersInOrder`

  Key theorems include:
    * `Pool.Serves.step`, `Pool.serves_of_reaches`
    * `Pool.Serves.exists_step`, `Pool.Serves.left_lt`
    * `renderAll_of_workers`
-/

namespace ElementBindings

------------------------------------------------------------
-- Renderings in Order
------------------------------------------------------------

/-
  What rendering some jobs comes to: for every job, in the
  order of the jobs, its text or the dispatch fault in its
  place; or else the first fault that is no dispatch fault.
-/
inductive RendersInOrder
    (jobs : List Job) :
    Except Fault (List Rendering) →
    Prop where
  | all
      (renderings : List Rendering)
      (hEach :
        List.Forall₂
          (fun job rendering =>
            job.render = rendering.mapError Fault.dispatch)
          jobs renderings) :
      RendersInOrder jobs (.ok renderings)
  | fault
      (before : List Job)
      (job : Job)
      (after : List Job)
      (fault : Fault)
      (hJobs : jobs = before ++ job :: after)
      (hBefore :
        ∀ earlier ∈ before,
          ∀ other, earlier.render = .error other →
            ∃ reason, other = .dispatch reason)
      (hFault : job.render = .error fault)
      (hOther : ∀ reason, fault ≠ .dispatch reason) :
      RendersInOrder jobs (.error fault)

/- A rendering is the text of a job, or its dispatch fault. -/
theorem settle_eq_ok_iff
    {result : Except Fault String}
    {rendering : Rendering} :
    settle result = .ok rendering ↔
      result = rendering.mapError Fault.dispatch := by
  cases rendering with
  | ok text => exact settle_eq_ok_text_iff
  | error fault => exact settle_eq_ok_error_iff

/- Only a fault that is no dispatch fault does not settle. -/
theorem settle_eq_error_iff
    {result : Except Fault String}
    {fault : Fault} :
    settle result = .error fault ↔
      result = .error fault ∧
        ∀ reason, fault ≠ .dispatch reason := by
  constructor
  · intro hSettle
    cases result with
    | ok text => cases hSettle
    | error other =>
        cases other with
        | dispatch reason => cases hSettle
        | _ =>
            cases hSettle
            exact ⟨rfl, nofun⟩
  · intro hFault
    exact settle_eq_error hFault.1 hFault.2

/- Rendering in turn meets the first job that does not settle. -/
theorem renderInTurn_of_error
    {jobs before after : List Job}
    {job : Job}
    {fault : Fault}
    (hJobs : jobs = before ++ job :: after)
    (hBefore :
      ∀ earlier ∈ before, ∃ rendering,
        settle earlier.render = .ok rendering)
    (hFault : settle job.render = .error fault) :
    renderInTurn jobs = .error fault := by
  have hNone :
      before.findSome? (fun job => fault? (settle job.render)) =
        none := by
    rw [List.findSome?_eq_none_iff]
    intro earlier hMember
    exact fault?_eq_none_iff.mpr (hBefore earlier hMember)
  unfold renderInTurn
  rw [← fault?_eq_some_iff, fault?_mapM, hJobs,
    List.findSome?_append, hNone, List.findSome?_cons, hFault]
  rfl

/- Rendering in turn renders in order. -/
theorem rendersInOrder_renderInTurn
    (jobs : List Job) :
    RendersInOrder jobs (renderInTurn jobs) := by
  cases hTurn : renderInTurn jobs with
  | ok renderings =>
      refine .all renderings ?_
      exact
        (mapM_eq_ok_iff.mp hTurn).imp fun _ _ hSettle =>
          settle_eq_ok_iff.mp hSettle
  | error fault =>
      have hFound :
          jobs.findSome?
              (fun job => fault? (settle job.render)) =
            some fault := by
        rw [← fault?_mapM]
        exact fault?_eq_some_iff.mpr hTurn
      rcases List.findSome?_eq_some_iff.mp hFound with
        ⟨before, job, after, hJobs, hFault, hBefore⟩
      rcases settle_eq_error_iff.mp
          (fault?_eq_some_iff.mp hFault) with
        ⟨hRender, hOther⟩
      refine
        .fault before job after fault hJobs ?_ hRender hOther
      intro earlier hMember other hEarlier
      have hSettled := hBefore earlier hMember
      by_contra hNone
      rw [settle_eq_error hEarlier
        fun reason hReason => hNone ⟨reason, hReason⟩]
        at hSettled
      simp at hSettled

------------------------------------------------------------
-- Pools
------------------------------------------------------------

/- A job with its place among all jobs. -/
abbrev Ticket :=
  Nat × Job

/-
  A pool at work: the jobs that are still to be handed in,
  those that wait and those that are being rendered; the
  results, in the order in which they were finished; and what
  has been collected of them, or raised.
-/
structure Pool where
  unsubmitted : List Ticket
  queued : List Ticket
  running : List Ticket
  results : List (Nat × Except Fault String)
  collected : List Rendering
  raised : Option Fault

namespace Pool

/- A pool before any job is handed in. -/
def start
    (jobs : List Job) : Pool :=
  { unsubmitted := jobs.zipIdx.map Prod.swap
    queued := []
    running := []
    results := []
    collected := []
    raised := none }

/-
  What may happen next in a pool with some workers.  Results
  are collected only after all jobs have been handed in, and
  none are after a fault was raised.
-/
inductive Step
    (workers : Int) :
    Pool →
    Pool →
    Prop where
  | submit
      {pool : Pool}
      {ticket : Ticket}
      {rest : List Ticket}
      (hNext : pool.unsubmitted = ticket :: rest) :
      Step workers pool
        { pool with
          unsubmitted := rest
          queued := pool.queued ++ [ticket] }
  | take
      {pool : Pool}
      {ticket : Ticket}
      (before after : List Ticket)
      (hQueued : pool.queued = before ++ ticket :: after)
      (hFree : (pool.running.length : Int) < workers) :
      Step workers pool
        { pool with
          queued := before ++ after
          running := pool.running ++ [ticket] }
  | finish
      {pool : Pool}
      {ticket : Ticket}
      (before after : List Ticket)
      (hRunning : pool.running = before ++ ticket :: after) :
      Step workers pool
        { pool with
          running := before ++ after
          results :=
            pool.results ++ [(ticket.1, ticket.2.render)] }
  | collect
      {pool : Pool}
      {result : Except Fault String}
      {rendering : Rendering}
      (hSubmitted : pool.unsubmitted = [])
      (hNone : pool.raised = none)
      (hDone :
        pool.results.lookup pool.collected.length
          = some result)
      (hSettled : settle result = .ok rendering) :
      Step workers pool
        { pool with
          collected := pool.collected ++ [rendering] }
  | raise
      {pool : Pool}
      {result : Except Fault String}
      {fault : Fault}
      (hSubmitted : pool.unsubmitted = [])
      (hNone : pool.raised = none)
      (hDone :
        pool.results.lookup pool.collected.length
          = some result)
      (hFault : settle result = .error fault) :
      Step workers pool { pool with raised := some fault }

/- A pool becomes another one, step by step. -/
abbrev Reaches
    (workers : Int) :
    Pool →
    Pool →
    Prop :=
  Relation.ReflTransGen (Step workers)

/- The places of the jobs, in the order they were finished. -/
def order
    (pool : Pool) : List Nat :=
  pool.results.map (·.1)

/- What a pool gives once nothing happens any more. -/
def outcome
    (pool : Pool) : Except Fault (List Rendering) :=
  match pool.raised with
  | some fault => .error fault
  | none => .ok pool.collected

/- The jobs that have no result yet. -/
def pending
    (pool : Pool) : List Ticket :=
  pool.unsubmitted ++ pool.queued ++ pool.running

------------------------------------------------------------
-- What All Steps Preserve
------------------------------------------------------------

/-
  A pool serves some jobs: every job is pending or has been
  finished, and once only; results are those of their jobs;
  what was collected are the renderings of the first jobs, and
  what was raised is the fault of the next one.
-/
structure Serves
    (jobs : List Job)
    (pool : Pool) : Prop where
  once :
    (pool.pending.map (·.1) ++ pool.order).Perm
      (List.range jobs.length)
  placed :
    ∀ ticket ∈ pool.pending, jobs[ticket.1]? = some ticket.2
  rendered :
    ∀ numbered ∈ pool.results,
      ∃ job, jobs[numbered.1]? = some job ∧
        numbered.2 = job.render
  collected :
    List.Forall₂
      (fun job rendering => settle job.render = .ok rendering)
      (jobs.take pool.collected.length) pool.collected
  raised :
    ∀ fault, pool.raised = some fault →
      ∃ job, jobs[pool.collected.length]? = some job ∧
        settle job.render = .error fault

variable {jobs : List Job}
variable {pool next : Pool}
variable {workers : Int}

/- Before anything happens, all jobs are pending. -/
theorem serves_start
    (jobs : List Job) :
    (start jobs).Serves jobs := by
  have hPending :
      (start jobs).pending = jobs.zipIdx.map Prod.swap := by
    simp [pending, start]
  constructor
  · have hNumbers :
        (jobs.zipIdx.map Prod.swap).map (·.1) =
          List.range jobs.length := by
      rw [List.map_map, List.range_eq_range']
      exact List.zipIdx_map_snd 0 jobs
    rw [hPending, hNumbers]
    exact List.Perm.of_eq (List.append_nil _)
  · intro ticket hMember
    rw [hPending] at hMember
    rcases List.mem_map.mp hMember with ⟨numbered, hNumbered, rfl⟩
    exact List.mem_zipIdx_iff_getElem?.mp hNumbered
  · intro numbered hMember
    cases hMember
  · exact .nil
  · intro fault hRaised
    cases hRaised

/- A result that is looked up is the one of its job. -/
theorem Serves.exists_job_of_lookup
    {i : Nat}
    {result : Except Fault String}
    (hServes : pool.Serves jobs)
    (hDone : pool.results.lookup i = some result) :
    ∃ job, jobs[i]? = some job ∧ result = job.render := by
  rcases List.lookup_eq_some_iff.mp hDone with
    ⟨before, after, hResults, _⟩
  exact hServes.rendered (i, result) (by simp [hResults])

/- Jobs may move from one list to another, but none is lost. -/
theorem Serves.moved
    (hServes : pool.Serves jobs)
    (hPending :
      ∀ ticket, next.pending.count ticket
        = pool.pending.count ticket)
    (hResults : next.results = pool.results)
    (hCollected : next.collected = pool.collected)
    (hRaised : next.raised = pool.raised) :
    next.Serves jobs := by
  have hMoved : next.pending.Perm pool.pending :=
    List.perm_iff_count.mpr hPending
  constructor
  · unfold order
    rw [hResults]
    exact
      ((hMoved.map (·.1)).append_right _).trans hServes.once
  · intro ticket hMember
    exact hServes.placed ticket (hMoved.mem_iff.mp hMember)
  · rw [hResults]
    exact hServes.rendered
  · rw [hCollected]
    exact hServes.collected
  · rw [hRaised, hCollected]
    exact hServes.raised

/- Whatever happens, a pool goes on serving its jobs. -/
theorem Serves.step
    (hServes : pool.Serves jobs)
    (hStep : Step workers pool next) :
    next.Serves jobs := by
  cases hStep with
  | @submit ticket rest hNext =>
      refine hServes.moved ?_ rfl rfl rfl
      intro other
      simp only [pending, hNext, List.count_append,
        List.count_cons, List.count_nil]
      omega
  | @take ticket before after hQueued hFree =>
      refine hServes.moved ?_ rfl rfl rfl
      intro other
      simp only [pending, hQueued, List.count_append,
        List.count_cons, List.count_nil]
      omega
  | @finish ticket before after hRunning =>
      have hTicket : ticket ∈ pool.pending := by
        simp [pending, hRunning]
      constructor
      · refine List.Perm.trans ?_ hServes.once
        rw [List.perm_iff_count]
        intro i
        simp only [pending, order, hRunning, List.map_append,
          List.map_cons, List.map_nil, List.count_append,
          List.count_cons, List.count_nil]
        omega
      · intro other hMember
        apply hServes.placed other
        simp only [pending, hRunning, List.mem_append,
          List.mem_cons] at hMember ⊢
        tauto
      · intro numbered hMember
        rcases List.mem_append.mp hMember with hOld | hNew
        · exact hServes.rendered numbered hOld
        · rw [List.mem_singleton.mp hNew]
          exact
            ⟨ticket.2, hServes.placed ticket hTicket, rfl⟩
      · exact hServes.collected
      · exact hServes.raised
  | @collect result rendering hSubmitted hNone hDone hSettled =>
      rcases hServes.exists_job_of_lookup hDone with
        ⟨job, hJob, rfl⟩
      refine
        ⟨hServes.once, hServes.placed, hServes.rendered, ?_, ?_⟩
      · rw [List.length_append, List.length_singleton,
          List.take_add_one, hJob]
        exact
          List.rel_append hServes.collected
            (.cons hSettled .nil)
      · intro fault hRaised
        rw [hNone] at hRaised
        cases hRaised
  | @raise result fault hSubmitted hNone hDone hFault =>
      rcases hServes.exists_job_of_lookup hDone with
        ⟨job, hJob, rfl⟩
      refine
        ⟨hServes.once, hServes.placed, hServes.rendered,
          hServes.collected, ?_⟩
      intro other hRaised
      rw [← Option.some.inj hRaised]
      exact ⟨job, hJob, hFault⟩

/- So does every pool that is reached from the start. -/
theorem serves_of_reaches
    (hReaches : Reaches workers (start jobs) pool) :
    pool.Serves jobs := by
  induction hReaches with
  | refl => exact serves_start jobs
  | tail _ hStep ih => exact ih.step hStep

------------------------------------------------------------
-- The End
------------------------------------------------------------

/- How much is left to do, at most. -/
def left
    (jobs : List Job)
    (pool : Pool) : Nat :=
  3 * pool.unsubmitted.length + 2 * pool.queued.length
    + pool.running.length
    + (jobs.length - pool.collected.length)
    + (if pool.raised = none then 1 else 0)

/- With every step less is left to do. -/
theorem Serves.left_lt
    (hServes : pool.Serves jobs)
    (hStep : Step workers pool next) :
    next.left jobs < pool.left jobs := by
  cases hStep with
  | submit hNext =>
      simp only [left, hNext, List.length_append,
        List.length_cons, List.length_nil]
      omega
  | take before after hQueued hFree =>
      simp only [left, hQueued, List.length_append,
        List.length_cons, List.length_nil]
      omega
  | finish before after hRunning =>
      simp only [left, hRunning, List.length_append,
        List.length_cons]
      omega
  | collect hSubmitted hNone hDone hSettled =>
      rcases hServes.exists_job_of_lookup hDone with
        ⟨job, hJob, _⟩
      have hMore : pool.collected.length < jobs.length :=
        (List.getElem?_eq_some_iff.mp hJob).1
      simp only [left, List.length_append, List.length_cons,
        List.length_nil]
      omega
  | raise hSubmitted hNone hDone hFault =>
      simp only [left, hNone]
      simp

/- So a pool does not go on for ever. -/
theorem exists_last
    {run : Nat → Pool}
    (hStart : run 0 = start jobs) :
    ∃ i, Reaches workers (start jobs) (run i) ∧
      ¬ Step workers (run i) (run (i + 1)) := by
  by_contra hNever
  have hAlways :
      ∀ i, Reaches workers (start jobs) (run i) →
        Step workers (run i) (run (i + 1)) := by
    intro i hReaches
    by_contra hLast
    exact hNever ⟨i, hReaches, hLast⟩
  have hReaches :
      ∀ i, Reaches workers (start jobs) (run i) := by
    intro i
    induction i with
    | zero => rw [hStart]
    | succ i ih => exact ih.tail (hAlways i ih)
  have hLess :
      ∀ i, (run i).left jobs + i ≤ (run 0).left jobs := by
    intro i
    induction i with
    | zero => exact Nat.le_refl _
    | succ i ih =>
        have hStep :=
          (serves_of_reaches (hReaches i)).left_lt
            (hAlways i (hReaches i))
        omega
  have hTooMany := hLess ((run 0).left jobs + 1)
  omega

/-
  A pool with a worker can go on as long as a job is pending,
  or as not all has been collected and nothing was raised.
-/
theorem Serves.exists_step
    (hServes : pool.Serves jobs)
    (hWorkers : 0 < workers)
    (hOpen :
      pool.pending ≠ [] ∨
        pool.raised = none ∧
          pool.collected.length ≠ jobs.length) :
    ∃ next, Step workers pool next := by
  cases hUnsubmitted : pool.unsubmitted with
  | cons ticket rest => exact ⟨_, .submit hUnsubmitted⟩
  | nil =>
  cases hRunning : pool.running with
  | cons ticket rest =>
      exact ⟨_, .finish [] rest hRunning⟩
  | nil =>
  cases hQueued : pool.queued with
  | cons ticket rest =>
      have hFree : (pool.running.length : Int) < workers := by
        rw [hRunning]
        exact hWorkers
      exact ⟨_, .take [] rest hQueued hFree⟩
  | nil =>
  have hNothing : pool.pending = [] := by
    simp [pending, hUnsubmitted, hQueued, hRunning]
  rcases hOpen with hPending | ⟨hNone, hSome⟩
  · exact absurd hNothing hPending
  · have hShort :
        pool.collected.length < jobs.length := by
      have hLength := hServes.collected.length_eq
      rw [List.length_take] at hLength
      omega
    have hOrder :
        pool.collected.length ∈ pool.results.map (·.1) := by
      have hOnce := hServes.once
      rw [hNothing] at hOnce
      exact hOnce.mem_iff.mpr (List.mem_range.mpr hShort)
    cases hDone :
        pool.results.lookup pool.collected.length with
    | none =>
        rw [List.lookup_eq_none_iff] at hDone
        rcases List.mem_map.mp hOrder with
          ⟨numbered, hMember, hPlace⟩
        simpa [hPlace] using hDone numbered hMember
    | some result =>
        cases hSettle : settle result with
        | ok rendering =>
            exact
              ⟨_, .collect hUnsubmitted hNone hDone hSettle⟩
        | error fault =>
            exact ⟨_, .raise hUnsubmitted hNone hDone hSettle⟩

/- A pool that is served gives what rendering in turn gives. -/
theorem Serves.outcome_eq
    (hServes : pool.Serves jobs)
    (hAll :
      pool.raised = none →
        pool.collected.length = jobs.length) :
    pool.outcome = renderInTurn jobs := by
  unfold outcome
  cases hRaised : pool.raised with
  | none =>
      have hEach := hServes.collected
      rw [hAll hRaised, List.take_length] at hEach
      exact (mapM_eq_ok_iff.mpr hEach).symm
  | some fault =>
      rcases hServes.raised fault hRaised with
        ⟨job, hJob, hFault⟩
      rcases List.getElem?_eq_some_iff.mp hJob with
        ⟨hPlace, hSame⟩
      have hJobs :
          jobs =
            jobs.take pool.collected.length
              ++ job :: jobs.drop (pool.collected.length + 1) := by
        rw [← hSame, List.getElem_cons_drop,
          List.take_append_drop]
      have hBefore :
          ∀ earlier ∈ jobs.take pool.collected.length,
            ∃ rendering,
              settle earlier.render = .ok rendering := by
        intro earlier hMember
        have hRun :
            (jobs.take pool.collected.length).mapM
                (fun job => settle job.render) =
              .ok pool.collected :=
          mapM_eq_ok_iff.mpr hServes.collected
        rcases exists_value_of_mapM hRun hMember with
          ⟨rendering, hSettle⟩
        exact ⟨rendering, hSettle⟩
      exact (renderInTurn_of_error hJobs hBefore hFault).symm

/- What a pool has finished is told by the order alone. -/
theorem Serves.results_eq
    (hServes : pool.Serves jobs) :
    pool.results = finished pool.order jobs := by
  have hEach :
      ∀ numbered ∈ pool.results,
        ((fun i => jobs[i]?.map fun job => (i, job.render)) ∘
            fun result => result.1) numbered =
          some numbered := by
    intro numbered hMember
    rcases hServes.rendered numbered hMember with
      ⟨job, hJob, hResult⟩
    simp only [Function.comp_apply, hJob, Option.map_some,
      ← hResult]
  unfold finished order
  rw [List.filterMap_map, List.filterMap_congr hEach,
    List.filterMap_some]

/-
  A pool in which nothing can happen any more has finished
  every job once, and gives what rendering in turn gives.
-/
theorem Serves.of_stuck
    (hServes : pool.Serves jobs)
    (hWorkers : 0 < workers)
    (hStuck : ∀ next, ¬ Step workers pool next) :
    pool.order.Perm (List.range jobs.length) ∧
      pool.outcome = renderInTurn jobs := by
  have hClosed :
      ¬ (pool.pending ≠ [] ∨
        pool.raised = none ∧
          pool.collected.length ≠ jobs.length) := by
    intro hOpen
    rcases hServes.exists_step hWorkers hOpen with
      ⟨next, hStep⟩
    exact hStuck next hStep
  rw [not_or, not_not] at hClosed
  rcases hClosed with ⟨hNothing, hAll⟩
  have hOnce := hServes.once
  rw [hNothing] at hOnce
  refine ⟨hOnce, hServes.outcome_eq ?_⟩
  intro hNone
  by_contra hShort
  exact hAll ⟨hNone, hShort⟩

end Pool

------------------------------------------------------------
-- Any Number of Workers
------------------------------------------------------------

/-
  With several workers, up to the most that a pool can have,
  jobs are rendered as with one.  This holds for every order
  in which a pool may finish them, and for every run of a
  pool, step by step: it cannot go on for ever, and where it
  cannot go on, each job has been finished once.  The result
  has the renderings in the order of the jobs, or it is the
  first fault that is no dispatch fault.
-/
theorem renderAll_of_workers
    {workers : Int}
    (jobs : List Job)
    (hMany : 1 < workers)
    (hFew : workers ≤ maxWorkers) :
    renderAll workers jobs = renderAll 1 jobs ∧
      RendersInOrder jobs (renderAll 1 jobs) ∧
      (∀ order, renderInPool order jobs = renderAll 1 jobs) ∧
      (∀ pool, Pool.Reaches workers (.start jobs) pool →
        (∀ next, ¬ Pool.Step workers pool next) →
          pool.order.Perm (List.range jobs.length) ∧
            pool.results = finished pool.order jobs ∧
            pool.outcome = renderAll 1 jobs) ∧
      ∀ run : Nat → Pool, run 0 = .start jobs →
        ∃ i, Pool.Reaches workers (.start jobs) (run i) ∧
          ¬ Pool.Step workers (run i) (run (i + 1)) := by
  have hOne : renderAll 1 jobs = renderInTurn jobs :=
    renderAll_eq jobs (by decide)
  rw [hOne]
  refine
    ⟨renderAll_eq jobs hFew, rendersInOrder_renderInTurn jobs,
      fun order => renderInPool_eq order jobs, ?_,
      fun run hStart => Pool.exists_last hStart⟩
  intro pool hReaches hStuck
  have hServes := Pool.serves_of_reaches hReaches
  have hWorkers : 0 < workers := by omega
  rcases hServes.of_stuck hWorkers hStuck with
    ⟨hOrder, hOutcome⟩
  exact ⟨hOrder, hServes.results_eq, hOutcome⟩

/- A job for an element that has a text. -/
def goodJob : Job :=
  ⟨sampleElement "Good" [], []⟩

/- A job for one that has none. -/
def unmappedJob : Job :=
  ⟨sampleElement "Unmapped" [some unmappedCallback], []⟩

/- Why it has none. -/
def unmappedFault : DispatchFault :=
  .noTypeName "f" "Unknown"

/- A pool with both jobs that has finished the second first. -/
def secondFirst
    (text : String) : Pool :=
  { unsubmitted := []
    queued := []
    running := []
    results := [(1, unmappedJob.render), (0, goodJob.render)]
    collected := [.ok text, .error unmappedFault]
    raised := none }

/- The one job gives its text, the other one its fault. -/
theorem jobs_settle :
    ∃ text,
      settle goodJob.render = .ok (.ok text) ∧
      settle unmappedJob.render =
        .ok (.error unmappedFault) := by
  have hGood : fault? goodJob.render = none := by
    decide
  have hUnmapped :
      fault? unmappedJob.render =
        some (.dispatch unmappedFault) := by
    decide
  rcases fault?_eq_none_iff.mp hGood with ⟨text, hText⟩
  exact
    ⟨text, settle_eq_ok_text_iff.mpr hText,
      settle_eq_ok_error_iff.mpr
        (fault?_eq_some_iff.mp hUnmapped)⟩

/-
  Of two workers the one with the second job may be faster.
  The text of the first job still comes first.
-/
theorem second_job_first :
    ∃ text,
      Pool.Reaches 2 (.start [goodJob, unmappedJob])
        (secondFirst text) ∧
      (secondFirst text).order = [1, 0] ∧
      renderAll 2 [goodJob, unmappedJob] =
        .ok [.ok text, .error unmappedFault] := by
  rcases jobs_settle with ⟨text, hGood, hUnmapped⟩
  have hTaken :
      Pool.Reaches 2 (.start [goodJob, unmappedJob])
        ⟨[], [], [(0, goodJob), (1, unmappedJob)], [], [],
          none⟩ :=
    (((Relation.ReflTransGen.refl.tail (.submit rfl)).tail
      (.submit rfl)).tail
        (.take [] [(1, unmappedJob)] rfl (by decide))).tail
          (.take [] [] rfl (by decide))
  have hReaches :
      Pool.Reaches 2 (.start [goodJob, unmappedJob])
        (secondFirst text) :=
    (((hTaken.tail (.finish [(0, goodJob)] [] rfl)).tail
      (.finish [] [] rfl)).tail
        (.collect rfl rfl rfl hGood)).tail
          (.collect rfl rfl rfl hUnmapped)
  have hStuck :
      ∀ next, ¬ Pool.Step 2 (secondFirst text) next := by
    intro next hStep
    cases hStep with
    | submit hNext => cases hNext
    | take before after hQueued =>
        simp [secondFirst] at hQueued
    | finish before after hRunning =>
        simp [secondFirst] at hRunning
    | collect hSubmitted hNone hDone => cases hDone
    | raise hSubmitted hNone hDone => cases hDone
  rcases renderAll_of_workers [goodJob, unmappedJob]
      (by decide) (by decide : (2 : Int) ≤ maxWorkers) with
    ⟨hSame, _, _, hEnd, _⟩
  have hOutcome := (hEnd _ hReaches hStuck).2.2
  exact ⟨text, hReaches, rfl, hSame.trans hOutcome.symm⟩

/- More workers than a pool can have make it fail. -/
theorem too_many_workers :
    renderAll 99999999999999999999 [goodJob, unmappedJob] =
        .error .tooManyWorkers ∧
      ∃ text,
        renderAll 1 [goodJob, unmappedJob] =
          .ok [.ok text, .error unmappedFault] := by
  rcases jobs_settle with ⟨text, hGood, hUnmapped⟩
  refine ⟨rfl, text, ?_⟩
  rw [renderAll_eq _ (by decide)]
  exact
    mapM_eq_ok_iff.mpr (.cons hGood (.cons hUnmapped .nil))

end ElementBindings
