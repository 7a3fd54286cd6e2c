import Mathlib.Data.List.Nodup
import FraudStream.Library.Dict
import FraudStream.Library.FallibleList
import FraudStream.Library.PyText
import FraudStream.Replay.Cancellation
import FraudStream.Replay.SourceAdapters

/-
  The replay jobs of the management API.

  A request creates a job and schedules its task; other
  requests read the job, page through its results or cancel
  it. Neither a handler nor a task gives the event loop back
  before it is done, so a run is a sequence of requests and
  whole tasks, in any order. Job identifiers come from
  `uuid4`; what a task meets is its environment.

  Key definitions include:
    * `ReplayConfig`
    * `ReplayApi.buildReplayConfig`
    * `ReplayApi.handle`
    * `ReplayApi.runTask`
    * `ReplayApi.run`

  Main results:
    * `ReplayApi.job_is_kept_after_its_task`
    * `ReplayApi.delete_is_honoured_iff`
    * `ReplayApi.pages_cover_results`
-/

------------------------------------------------------------
-- Configurations
------------------------------------------------------------

namespace FraudStream

inductive ReplaySource where
| iceberg
| kafka
| dlq
deriving DecidableEq, Repr

namespace ReplaySource

def value : ReplaySource → String
| .iceberg => "iceberg"
| .kafka => "kafka"
| .dlq => "dlq"

/- `ReplaySource(text)`, unless it raises. -/
def parse? (text : String) : Option ReplaySource :=
  [iceberg, kafka, dlq].find? (fun s => s.value = text)

end ReplaySource

structure IcebergSourceConfig where
  tableName : String
  startTimestamp : String
  endTimestamp : String
  snapshotId : Option Int
  filterExpression : Option String

/- The section of the source is given, as `__post_init__`
   requires. -/
def sectionGiven
    (icebergConfig : Option IcebergSourceConfig)
    (kafkaConfig : Option KafkaSourceConfig)
    (dlqConfig : Option DLQSourceConfig) :
    ReplaySource → Bool
| .iceberg => icebergConfig.isSome
| .kafka => kafkaConfig.isSome
| .dlq => dlqConfig.isSome

structure ReplayConfig where
  sourceType : ReplaySource
  icebergConfig : Option IcebergSourceConfig
  kafkaConfig : Option KafkaSourceConfig
  dlqConfig : Option DLQSourceConfig
  ruleSetVersion : Option String
  useShadowRules : Bool
  outputTopic : String
  description : String
  validated :
    sectionGiven icebergConfig kafkaConfig dlqConfig
      sourceType = true

/- The body of a request has the same sections, and the source
   as a text. -/
structure CreateReplayJobRequest where
  sourceType : String
  icebergConfig : Option IcebergSourceConfig
  kafkaConfig : Option KafkaSourceConfig
  dlqConfig : Option DLQSourceConfig
  ruleSetVersion : Option String
  useShadowRules : Bool
  outputTopic : String
  description : String

/- `HTTPException` -/
structure HttpError where
  status : Nat
  detail : String
deriving DecidableEq, Repr

namespace ReplayApi

/- `str(e)` of a source that does not exist. -/
def noSuchSource
    (isPrintable : Char → Bool)
    (text : String) : HttpError where
  status := 422
  detail :=
    PyText.repr isPrintable text ++
      " is not a valid ReplaySource"

/- The section of the source is taken over, and no other. -/
def buildReplayConfig
    (isPrintable : Char → Bool)
    (body : CreateReplayJobRequest) :
    Except HttpError ReplayConfig :=
  match ReplaySource.parse? body.sourceType with
  | none => .error (noSuchSource isPrintable body.sourceType)
  | some .iceberg =>
      match body.icebergConfig with
      | none => .error ⟨422, "iceberg_config required"⟩
      | some config =>
          .ok
            { sourceType := .iceberg
              icebergConfig := some config
              kafkaConfig := none
              dlqConfig := none
              ruleSetVersion := body.ruleSetVersion
              useShadowRules := body.useShadowRules
              outputTopic := body.outputTopic
              description := body.description
              validated := rfl }
  | some .kafka =>
      match body.kafkaConfig with
      | none => .error ⟨422, "kafka_config required"⟩
      | some config =>
          .ok
            { sourceType := .kafka
              icebergConfig := none
              kafkaConfig := some config
              dlqConfig := none
              ruleSetVersion := body.ruleSetVersion
              useShadowRules := body.useShadowRules
              outputTopic := body.outputTopic
              description := body.description
              validated := rfl }
  | some .dlq =>
      match body.dlqConfig with
      | none => .error ⟨422, "dlq_config required"⟩
      | some config =>
          .ok
            { sourceType := .dlq
              icebergConfig := none
              kafkaConfig := none
              dlqConfig := some config
              ruleSetVersion := body.ruleSetVersion
              useShadowRules := body.useShadowRules
              outputTopic := body.outputTopic
              description := body.description
              validated := rfl }

end ReplayApi

end FraudStream

------------------------------------------------------------
-- Slices
------------------------------------------------------------

namespace FraudStream

/- An index of a slice: a negative one counts from the end. -/
def sliceIndex
    (length : Nat)
    (index : Int) : Nat :=
  if index < 0 then
    (index + length).toNat
  else
    min index.toNat length

/- `items[start:stop]` -/
def pySlice
    {α : Type}
    (items : List α)
    (start stop : Int) : List α :=
  (items.take (sliceIndex items.length stop)).drop
    (sliceIndex items.length start)

theorem pySlice_of_nonneg
    {α : Type}
    (items : List α)
    (offset limit : Nat) :
    pySlice items offset (offset + limit) =
      (items.drop offset).take limit := by
  have hStop : ¬ ((offset : Int) + limit < 0) := by omega
  have hStart : ¬ ((offset : Int) < 0) := by omega
  have hToNat :
      ((offset : Int) + limit).toNat = offset + limit := by
    omega
  rw [pySlice, sliceIndex, sliceIndex, if_neg hStop,
    if_neg hStart, hToNat, Int.toNat_natCast]
  by_cases hInside : offset ≤ items.length
  · rw [Nat.min_eq_left hInside, List.drop_take]
    by_cases hFull : offset + limit ≤ items.length
    · rw [Nat.min_eq_left hFull, Nat.add_sub_cancel_left]
    · rw [Nat.min_eq_right (by omega),
        List.take_of_length_le (by simp),
        List.take_of_length_le (by rw [List.length_drop]; omega)]
  · rw [Nat.min_eq_right (by omega),
      Nat.min_eq_right (by omega), List.drop_take,
      Nat.sub_self, List.take_zero,
      List.drop_eq_nil_of_le (by omega), List.take_nil]

end FraudStream

------------------------------------------------------------
-- Requests And Tasks
------------------------------------------------------------

namespace FraudStream

/- A job, its configuration, and its flag. -/
structure ManagedJob (ρ : Type) where
  config : ReplayConfig
  job : ReplayJob ρ
  cancelled : Bool

/- `_replay_jobs`, and the jobs whose task was created and did
   not start. -/
structure ReplayApi (ρ : Type) where
  jobs : Dict String (ManagedJob ρ)
  tasks : List String

/- `ReplayJobResponse`, without its times, its progress and
   the summary. -/
structure ReplayJobResponse where
  jobId : String
  sourceType : String
  status : ReplayStatus
  totalEvents : Int
  processedEvents : Nat
  failedEvents : Nat
  errorMessage : Option String
  description : String
deriving DecidableEq, Repr

inductive ReplayAnswer (ι : Type) where
| job : ReplayJobResponse → ReplayAnswer ι
| results :
    (jobId : String) → (totalResults : Nat) →
      (results : List ι) → ReplayAnswer ι
| error : HttpError → ReplayAnswer ι
deriving DecidableEq, Repr

inductive ReplayCall where
| create : (jobId : String) → CreateReplayJobRequest →
    ReplayCall
| get : (jobId : String) → ReplayCall
| results : (jobId : String) → (limit offset : Int) →
    ReplayCall
| delete : (jobId : String) → ReplayCall

/- A call, and what the key check and the rate limit say of
   it. -/
structure ReplayRequest where
  call : ReplayCall
  authorized : Bool
  withinLimit : Bool

inductive ReplayApiEvent (ε ρ : Type) where
| request : ReplayRequest → ReplayApiEvent ε ρ
| task : (jobId : String) → ReplayEnv ε ρ →
    ReplayApiEvent ε ρ

/- How a source text is quoted, and the item of a result,
   unless the response model rejects it. -/
structure ReplayFormats (ρ ι : Type) where
  isPrintable : Char → Bool
  toItem : ρ → Option ι

namespace ReplayAnswer

def status {ι : Type} : ReplayAnswer ι → Nat
| .job _ => 200
| .results _ _ _ => 200
| .error e => e.status

end ReplayAnswer

namespace ReplayApi

variable {ε ρ ι : Type}
variable (formats : ReplayFormats ρ ι)

def init : ReplayApi ρ where
  jobs := .empty
  tasks := []

/- `ReplayJobResponse(**job.get_status().to_dict())` -/
def response
    (jobId : String)
    (managed : ManagedJob ρ) : ReplayJobResponse where
  jobId := jobId
  sourceType := managed.config.sourceType.value
  status := managed.job.status.status
  totalEvents := managed.job.status.totalEvents
  processedEvents := managed.job.status.processedEvents
  failedEvents := managed.job.status.failedEvents
  errorMessage := managed.job.status.errorMessage
  description := managed.config.description

def notFound (jobId : String) : HttpError where
  status := 404
  detail := "Replay job " ++ jobId ++ " not found"

/- The value of a status. -/
def statusValue : ReplayStatus → String
| .pending => "pending"
| .running => "running"
| .completed => "completed"
| .failed => "failed"
| .cancelled => "cancelled"

def alreadyOver
    (jobId : String)
    (status : ReplayStatus) : HttpError where
  status := 409
  detail :=
    "Job " ++ jobId ++ " is already " ++ statusValue status

/- The answer to an exception that no handler catches. -/
def unhandled : HttpError where
  status := 500
  detail := "Internal Server Error"

def IsOver (status : ReplayStatus) : Prop :=
  status = .completed ∨ status = .failed ∨
    status = .cancelled

instance (status : ReplayStatus) :
    Decidable (IsOver status) :=
  inferInstanceAs (Decidable (_ ∨ _))

def createReplayJob
    (jobId : String)
    (body : CreateReplayJobRequest)
    (api : ReplayApi ρ) : ReplayAnswer ι × ReplayApi ρ :=
  match buildReplayConfig formats.isPrintable body with
  | .error e => (.error e, api)
  | .ok config =>
      let managed :=
        { config := config
          job := ReplayJob.pending ρ
          cancelled := false }
      (.job (response jobId managed),
        { jobs := Dict.put api.jobs jobId managed
          tasks := api.tasks ++ [jobId] })

def getReplayJob
    (jobId : String)
    (api : ReplayApi ρ) : ReplayAnswer ι :=
  match Dict.get? api.jobs jobId with
  | none => .error (notFound jobId)
  | some managed => .job (response jobId managed)

def getReplayResults
    (jobId : String)
    (limit offset : Int)
    (api : ReplayApi ρ) : ReplayAnswer ι :=
  match Dict.get? api.jobs jobId with
  | none => .error (notFound jobId)
  | some managed =>
      let results := managed.job.results
      let paginated :=
        pySlice results offset (offset + limit)
      match paginated.mapM formats.toItem with
      | none => .error unhandled
      | some items => .results jobId results.length items

/- A cancellation only sets the flag. -/
def cancelReplayJob
    (jobId : String)
    (api : ReplayApi ρ) : ReplayAnswer ι × ReplayApi ρ :=
  match Dict.get? api.jobs jobId with
  | none => (.error (notFound jobId), api)
  | some managed =>
      if IsOver managed.job.status.status then
        (.error
            (alreadyOver jobId managed.job.status.status),
          api)
      else
        (.job (response jobId managed),
          { api with
            jobs :=
              Dict.put api.jobs jobId
                { managed with cancelled := true } })

/- A request, from its arrival to its answer. -/
def handle
    (request : ReplayRequest)
    (api : ReplayApi ρ) : ReplayAnswer ι × ReplayApi ρ :=
  if !request.authorized then
    (.error ⟨401, "Unauthorized"⟩, api)
  else if !request.withinLimit then
    (.error ⟨429, "Rate limit exceeded"⟩, api)
  else
    match request.call with
    | .create jobId body =>
        createReplayJob formats jobId body api
    | .get jobId => (getReplayJob jobId api, api)
    | .results jobId limit offset =>
        (getReplayResults formats jobId limit offset api, api)
    | .delete jobId => cancelReplayJob jobId api

/- The flag that the task finds. -/
def withFlag
    (cancelled : Bool)
    (env : ReplayEnv ε ρ) : ReplayEnv ε ρ :=
  { env with
    cancel := if cancelled then some .beforeEvents else none }

/- `run_job` of a scheduled job, from its start to its end. -/
def runTask
    (jobId : String)
    (env : ReplayEnv ε ρ)
    (api : ReplayApi ρ) : ReplayApi ρ :=
  if jobId ∈ api.tasks then
    match Dict.get? api.jobs jobId with
    | none => { api with tasks := api.tasks.erase jobId }
    | some managed =>
        let job :=
          (ReplayJob.start (withFlag managed.cancelled env)
            managed.job).1
        { jobs :=
            Dict.put api.jobs jobId { managed with job := job }
          tasks := api.tasks.erase jobId }
  else
    api

def step
    (api : ReplayApi ρ) : ReplayApiEvent ε ρ → ReplayApi ρ
| .request request => (handle formats request api).2
| .task jobId env => runTask jobId env api

/- The API after some events. -/
def after
    (api : ReplayApi ρ)
    (events : List (ReplayApiEvent ε ρ)) : ReplayApi ρ :=
  events.foldl (step formats) api

def run
    (events : List (ReplayApiEvent ε ρ)) : ReplayApi ρ :=
  after formats init events

/- The identifier that a creation draws. -/
def drawnId? : ReplayApiEvent ε ρ → Option String
| .request ⟨.create jobId _, _, _⟩ => some jobId
| _ => none

/- No identifier is drawn twice. -/
def FreshIds (events : List (ReplayApiEvent ε ρ)) : Prop :=
  (events.filterMap drawnId?).Nodup

instance (events : List (ReplayApiEvent ε ρ)) :
    Decidable (FreshIds events) :=
  inferInstanceAs (Decidable (List.Nodup _))

end ReplayApi

end FraudStream

------------------------------------------------------------
-- What An Event Can Do
------------------------------------------------------------

namespace FraudStream

namespace ReplayApi

variable {ε ρ ι : Type}
variable (formats : ReplayFormats ρ ι)

/- The job that a creation stores. -/
def newJob (config : ReplayConfig) : ManagedJob ρ where
  config := config
  job := ReplayJob.pending ρ
  cancelled := false

/- The job after its task. -/
def afterTask
    (managed : ManagedJob ρ)
    (env : ReplayEnv ε ρ) : ManagedJob ρ :=
  { managed with
    job :=
      (ReplayJob.start (withFlag managed.cancelled env)
        managed.job).1 }

/- What an event changes: nothing, a new job, the flag of a
   job, or a scheduled job that runs. -/
inductive Changes
    (api : ReplayApi ρ)
    (event : ReplayApiEvent ε ρ) : ReplayApi ρ → Prop where
| nothing : Changes api event api
| created
    (jobId : String)
    (config : ReplayConfig)
    (hDrawn : drawnId? event = some jobId) :
    Changes api event
      { jobs := Dict.put api.jobs jobId (newJob config)
        tasks := api.tasks ++ [jobId] }
| flagged
    (jobId : String)
    (managed : ManagedJob ρ)
    (hJob : Dict.get? api.jobs jobId = some managed) :
    Changes api event
      { api with
        jobs :=
          Dict.put api.jobs jobId
            { managed with cancelled := true } }
| lost
    (jobId : String)
    (hTask : jobId ∈ api.tasks)
    (hJob : Dict.get? api.jobs jobId = none) :
    Changes api event
      { api with tasks := api.tasks.erase jobId }
| ran
    (jobId : String)
    (managed : ManagedJob ρ)
    (env : ReplayEnv ε ρ)
    (hEvent : event = .task jobId env)
    (hTask : jobId ∈ api.tasks)
    (hJob : Dict.get? api.jobs jobId = some managed) :
    Changes api event
      { jobs :=
          Dict.put api.jobs jobId
            (afterTask managed env)
        tasks := api.tasks.erase jobId }

theorem changes_create
    {jobId : String}
    {body : CreateReplayJobRequest}
    {api : ReplayApi ρ}
    {event : ReplayApiEvent ε ρ}
    (hDrawn : drawnId? event = some jobId) :
    Changes api event
      (createReplayJob formats jobId body api).2 := by
  unfold createReplayJob
  split
  · exact .nothing
  · rename_i config _
    exact .created jobId config hDrawn

theorem changes_cancel
    (jobId : String)
    (api : ReplayApi ρ)
    (event : ReplayApiEvent ε ρ) :
    Changes api event
      (cancelReplayJob (ι := ι) jobId api).2 := by
  unfold cancelReplayJob
  split
  · exact .nothing
  · rename_i managed hJob
    split
    · exact .nothing
    · exact .flagged jobId managed hJob

theorem changes_step
    (api : ReplayApi ρ)
    (event : ReplayApiEvent ε ρ) :
    Changes api event (step formats api event) := by
  cases event with
  | request request =>
      rcases request with ⟨call, authorized, withinLimit⟩
      cases authorized with
      | false => exact .nothing
      | true =>
          cases withinLimit with
          | false => exact .nothing
          | true =>
              cases call with
              | create jobId body =>
                  exact changes_create formats rfl
              | get jobId => exact .nothing
              | results jobId limit offset => exact .nothing
              | delete jobId =>
                  exact changes_cancel jobId api _
  | task jobId env =>
      change Changes api _ (runTask jobId env api)
      unfold runTask
      by_cases hTask : jobId ∈ api.tasks
      · rw [if_pos hTask]
        split
        · rename_i hJob
          exact .lost jobId hTask hJob
        · rename_i managed hJob
          exact .ran jobId managed env rfl hTask hJob
      · rw [if_neg hTask]
        exact .nothing

end ReplayApi

end FraudStream

------------------------------------------------------------
-- The Life Of A Job
------------------------------------------------------------

namespace FraudStream

namespace ReplayApi

variable {ε ρ ι : Type}
variable (formats : ReplayFormats ρ ι)

/- The jobs are those that were created, and a scheduled job
   is pending. -/
structure Lifecycle
    (drawn : List String)
    (api : ReplayApi ρ) : Prop where
  known :
    ∀ jobId managed,
      Dict.get? api.jobs jobId = some managed →
        jobId ∈ drawn
  scheduled :
    ∀ jobId ∈ api.tasks,
      ∃ managed, Dict.get? api.jobs jobId = some managed
  tasks_nodup : api.tasks.Nodup
  waiting :
    ∀ jobId managed,
      Dict.get? api.jobs jobId = some managed →
        jobId ∈ api.tasks →
          managed.job = ReplayJob.pending ρ

theorem lifecycle_init :
    Lifecycle [] (init : ReplayApi ρ) where
  known := by
    intro jobId managed hJob
    simp [init] at hJob
  scheduled := by
    intro jobId hTask
    cases hTask
  tasks_nodup := List.nodup_nil
  waiting := by
    intro jobId managed hJob
    simp [init] at hJob

/- A job that is not scheduled keeps all but its flag. -/
theorem changes_kept
    {api api' : ReplayApi ρ}
    {event : ReplayApiEvent ε ρ}
    (hChanges : Changes api event api')
    {jobId : String}
    {managed : ManagedJob ρ}
    (hJob : Dict.get? api.jobs jobId = some managed)
    (hRan : jobId ∉ api.tasks)
    (hOther : drawnId? event ≠ some jobId) :
    jobId ∉ api'.tasks ∧
      ∃ cancelled,
        Dict.get? api'.jobs jobId =
          some { managed with cancelled := cancelled } := by
  cases hChanges with
  | nothing => exact ⟨hRan, managed.cancelled, hJob⟩
  | created other config hDrawn =>
      have hNe : jobId ≠ other := by
        rintro rfl
        exact hOther hDrawn
      refine ⟨?_, managed.cancelled, ?_⟩
      · simp [hRan, hNe]
      · rw [Dict.get?_put, if_neg hNe]
        exact hJob
  | flagged other managed' hJob' =>
      refine ⟨hRan, ?_⟩
      by_cases hSame : jobId = other
      · subst hSame
        rw [hJob, Option.some.injEq] at hJob'
        subst hJob'
        exact ⟨true, by rw [Dict.get?_put, if_pos rfl]⟩
      · refine ⟨managed.cancelled, ?_⟩
        rw [Dict.get?_put, if_neg hSame]
        exact hJob
  | lost other hTask hJob' =>
      refine ⟨?_, managed.cancelled, hJob⟩
      intro hMem
      exact hRan (List.mem_of_mem_erase hMem)
  | ran other managed' env hEvent hTask hJob' =>
      have hNe : jobId ≠ other := by
        rintro rfl
        exact hRan hTask
      refine ⟨?_, managed.cancelled, ?_⟩
      · intro hMem
        exact hRan (List.mem_of_mem_erase hMem)
      · rw [Dict.get?_put, if_neg hNe]
        exact hJob

/- A job may be stored, new or again, as long as it is
   pending if it is scheduled. -/
theorem Lifecycle.put
    {drawn drawn' tasks : List String}
    {api : ReplayApi ρ}
    (hLife : Lifecycle drawn api)
    (hDrawn : ∀ jobId ∈ drawn, jobId ∈ drawn')
    {jobId : String}
    {managed : ManagedJob ρ}
    (hKnown : jobId ∈ drawn')
    (hNodup : tasks.Nodup)
    (hTasks :
      ∀ other ∈ tasks, other ≠ jobId → other ∈ api.tasks)
    (hPending :
      jobId ∈ tasks → managed.job = ReplayJob.pending ρ) :
    Lifecycle drawn'
      { jobs := Dict.put api.jobs jobId managed
        tasks := tasks } where
  known := by
    intro other managed' hJob
    rw [Dict.get?_put] at hJob
    split at hJob
    · rename_i hSame
      rw [hSame]
      exact hKnown
    · exact hDrawn other (hLife.known other managed' hJob)
  scheduled := by
    intro other hTask
    rw [Dict.get?_put]
    split
    · exact ⟨managed, rfl⟩
    · rename_i hNe
      exact hLife.scheduled other (hTasks other hTask hNe)
  tasks_nodup := hNodup
  waiting := by
    intro other managed' hJob hTask
    rw [Dict.get?_put] at hJob
    split at hJob
    · rename_i hSame
      rw [← Option.some.inj hJob]
      exact hPending (hSame ▸ hTask)
    · rename_i hNe
      exact
        hLife.waiting other managed' hJob
          (hTasks other hTask hNe)

theorem lifecycle_changes
    {drawn : List String}
    {api api' : ReplayApi ρ}
    {event : ReplayApiEvent ε ρ}
    (hLife : Lifecycle drawn api)
    (hFresh :
      (drawn ++ (drawnId? event).toList).Nodup)
    (hChanges : Changes api event api') :
    Lifecycle (drawn ++ (drawnId? event).toList) api' := by
  have hDrawn :
      ∀ jobId ∈ drawn,
        jobId ∈ drawn ++ (drawnId? event).toList :=
    fun jobId hMem => List.mem_append_left _ hMem
  have hKnown :
      ∀ jobId managed,
        Dict.get? api.jobs jobId = some managed →
          jobId ∈ drawn ++ (drawnId? event).toList := by
    intro jobId managed hJob
    exact hDrawn jobId (hLife.known jobId managed hJob)
  cases hChanges with
  | nothing =>
      exact
        { known := hKnown
          scheduled := hLife.scheduled
          tasks_nodup := hLife.tasks_nodup
          waiting := hLife.waiting }
  | created jobId config hNew =>
      rw [hNew, Option.toList_some] at hFresh hDrawn ⊢
      have hUnknown : jobId ∉ drawn := by
        intro hOld
        exact
          (List.nodup_append.1 hFresh).2.2 jobId hOld jobId
            List.mem_cons_self rfl
      have hNoTask : jobId ∉ api.tasks := by
        intro hTask
        rcases hLife.scheduled jobId hTask with
          ⟨managed, hJob⟩
        exact hUnknown (hLife.known jobId managed hJob)
      refine hLife.put hDrawn (by simp) ?_ ?_ (fun _ => rfl)
      · rw [List.nodup_append]
        refine ⟨hLife.tasks_nodup, List.nodup_singleton _, ?_⟩
        intro other hOld last hLast hSame
        rw [hSame, List.mem_singleton.1 hLast] at hOld
        exact hNoTask hOld
      · intro other hTask hNe
        simpa [hNe] using hTask
  | flagged jobId managed hJob =>
      exact
        hLife.put hDrawn (hKnown jobId managed hJob)
          hLife.tasks_nodup (fun _ hTask _ => hTask)
          (hLife.waiting jobId managed hJob)
  | lost jobId hTask hJob =>
      rcases hLife.scheduled jobId hTask with ⟨_, hFound⟩
      rw [hJob] at hFound
      cases hFound
  | ran jobId managed env hEvent hTask hJob =>
      refine
        hLife.put hDrawn (hKnown jobId managed hJob)
          (hLife.tasks_nodup.erase jobId) ?_ ?_
      · intro other hLeft _
        exact List.mem_of_mem_erase hLeft
      · intro hLeft
        exact
          absurd rfl
            (hLife.tasks_nodup.mem_erase_iff.1 hLeft).1

end ReplayApi

end FraudStream

------------------------------------------------------------
-- Runs
------------------------------------------------------------

namespace FraudStream

namespace ReplayApi

variable {ε ρ ι : Type}
variable (formats : ReplayFormats ρ ι)

theorem run_append
    (before behind : List (ReplayApiEvent ε ρ)) :
    run formats (before ++ behind) =
      after formats (run formats before) behind := by
  rw [run, after, List.foldl_append]
  rfl

theorem lifecycle_run
    {events : List (ReplayApiEvent ε ρ)}
    (hFresh : FreshIds events) :
    Lifecycle (events.filterMap drawnId?)
      (run formats events) := by
  induction events using List.reverseRecOn with
  | nil => exact lifecycle_init
  | append_singleton events event ih =>
      have hDrawn :
          (events ++ [event]).filterMap drawnId? =
            events.filterMap drawnId? ++
              (drawnId? event).toList := by
        rw [List.filterMap_append]
        congr 1
      rw [FreshIds, hDrawn] at hFresh
      rw [run_append, hDrawn]
      exact
        lifecycle_changes
          (ih (List.nodup_append.1 hFresh).1) hFresh
          (changes_step formats _ event)

theorem not_drawn_again
    {before behind : List (ReplayApiEvent ε ρ)}
    (hFresh : FreshIds (before ++ behind))
    {jobId : String}
    {managed : ManagedJob ρ}
    (hJob :
      Dict.get? (run formats before).jobs jobId =
        some managed) :
    ∀ event ∈ behind, drawnId? event ≠ some jobId := by
  intro event hMem hDrawn
  rw [FreshIds, List.filterMap_append,
    List.nodup_append] at hFresh
  have hOld :=
    (lifecycle_run formats hFresh.1).known jobId managed hJob
  exact
    hFresh.2.2 jobId hOld jobId
      (List.mem_filterMap.2 ⟨event, hMem, hDrawn⟩) rfl

/- A job that ran keeps all but its flag in every run. -/
theorem after_kept
    {api : ReplayApi ρ}
    {events : List (ReplayApiEvent ε ρ)}
    {jobId : String}
    (hOther :
      ∀ event ∈ events, drawnId? event ≠ some jobId)
    {managed : ManagedJob ρ}
    (hJob : Dict.get? api.jobs jobId = some managed)
    (hRan : jobId ∉ api.tasks) :
    jobId ∉ (after formats api events).tasks ∧
      ∃ cancelled,
        Dict.get? (after formats api events).jobs jobId =
          some { managed with cancelled := cancelled } := by
  induction events generalizing api managed with
  | nil => exact ⟨hRan, managed.cancelled, hJob⟩
  | cons event events ih =>
      obtain ⟨hRan', cancelled, hJob'⟩ :=
        changes_kept (changes_step formats api event) hJob
          hRan (hOther event List.mem_cons_self)
      have hRest :
          ∀ event ∈ events, drawnId? event ≠ some jobId := by
        intro event hMem
        exact hOther event (List.mem_cons_of_mem _ hMem)
      have hKept := ih hRest hJob' hRan'
      exact hKept

/- The answers about a job do not depend on its flag. -/
theorem answers_of_kept
    {api api' : ReplayApi ρ}
    {jobId : String}
    {managed : ManagedJob ρ}
    {cancelled : Bool}
    (hJob : Dict.get? api.jobs jobId = some managed)
    (hJob' :
      Dict.get? api'.jobs jobId =
        some { managed with cancelled := cancelled })
    (call : ReplayCall)
    (hCall :
      call = .get jobId ∨
        (∃ limit offset,
          call = .results jobId limit offset) ∨
        call = .delete jobId)
    (authorized withinLimit : Bool) :
    (handle formats ⟨call, authorized, withinLimit⟩
        api').1 =
      (handle formats ⟨call, authorized, withinLimit⟩
        api).1 := by
  unfold handle
  split
  · rfl
  · split
    · rfl
    · rcases hCall with rfl | ⟨limit, offset, rfl⟩ | rfl
      · simp only [getReplayJob, hJob, hJob']
        rfl
      · simp only [getReplayResults, hJob, hJob']
      · simp only [cancelReplayJob, hJob, hJob']
        split <;> rfl

/- A job that is not scheduled was so before the event, or
   the event is its task. -/
theorem changes_started
    {drawn : List String}
    {api api' : ReplayApi ρ}
    {event : ReplayApiEvent ε ρ}
    (hLife : Lifecycle drawn api)
    (hChanges : Changes api event api')
    {jobId : String}
    {managed : ManagedJob ρ}
    (hJob : Dict.get? api'.jobs jobId = some managed)
    (hRan : jobId ∉ api'.tasks) :
    (∃ env waiting,
      event = .task jobId env ∧ jobId ∈ api.tasks ∧
        Dict.get? api.jobs jobId = some waiting ∧
        managed = afterTask waiting env) ∨
      (jobId ∉ api.tasks ∧
        ∃ earlier,
          Dict.get? api.jobs jobId = some earlier ∧
            managed.job = earlier.job) := by
  cases hChanges with
  | nothing => exact Or.inr ⟨hRan, managed, hJob, rfl⟩
  | created other config hDrawn =>
      have hNe : jobId ≠ other := by
        rintro rfl
        exact
          hRan (List.mem_append_right _ List.mem_cons_self)
      rw [Dict.get?_put, if_neg hNe] at hJob
      refine Or.inr ⟨?_, managed, hJob, rfl⟩
      intro hOld
      exact hRan (List.mem_append_left _ hOld)
  | flagged other earlier hEarlier =>
      rw [Dict.get?_put] at hJob
      split at hJob
      · rename_i hSame
        rw [Option.some.injEq] at hJob
        exact
          Or.inr
            ⟨hRan, earlier, hSame ▸ hEarlier, hJob ▸ rfl⟩
      · exact Or.inr ⟨hRan, managed, hJob, rfl⟩
  | lost other hTask hNone =>
      rcases hLife.scheduled other hTask with ⟨_, hFound⟩
      rw [hNone] at hFound
      cases hFound
  | ran other waiting env hEvent hTask hWaiting =>
      rw [Dict.get?_put] at hJob
      split at hJob
      · rename_i hSame
        subst hSame
        rw [Option.some.injEq] at hJob
        exact
          Or.inl
            ⟨env, waiting, hEvent, hTask, hWaiting,
              hJob.symm⟩
      · rename_i hNe
        refine Or.inr ⟨?_, managed, hJob, rfl⟩
        intro hOld
        exact hRan ((List.mem_erase_of_ne hNe).2 hOld)

/- A job that ran is what its task made of it. -/
theorem started_of_run
    {events : List (ReplayApiEvent ε ρ)}
    (hFresh : FreshIds events)
    {jobId : String}
    {managed : ManagedJob ρ}
    (hJob :
      Dict.get? (run formats events).jobs jobId =
        some managed)
    (hRan : jobId ∉ (run formats events).tasks) :
    ∃ earlier env later waiting,
      events = earlier ++ .task jobId env :: later ∧
        jobId ∈ (run formats earlier).tasks ∧
        Dict.get? (run formats earlier).jobs jobId =
          some waiting ∧
        managed.job =
          (ReplayJob.start (withFlag waiting.cancelled env)
            (ReplayJob.pending ρ)).1 := by
  induction events using List.reverseRecOn generalizing
    managed with
  | nil => cases hJob
  | append_singleton events event ih =>
      have hRest : FreshIds events := by
        rw [FreshIds, List.filterMap_append,
          List.nodup_append] at hFresh
        exact hFresh.1
      have hLife := lifecycle_run formats hRest
      rw [run_append] at hJob hRan
      rcases
        changes_started hLife
          (changes_step formats _ event) hJob hRan with
        ⟨env, waiting, rfl, hTask, hWaiting, rfl⟩ |
          ⟨hOld, before, hBefore, hSame⟩
      · have hPending :=
          hLife.waiting jobId waiting hWaiting hTask
        exact
          ⟨events, env, [], waiting, rfl, hTask, hWaiting,
            by rw [afterTask, hPending]⟩
      · rcases ih hRest hBefore hOld with
          ⟨earlier, env, later, waiting, rfl, hTask,
            hWaiting, hDone⟩
        exact
          ⟨earlier, env, later ++ [event], waiting,
            by simp, hTask, hWaiting, hSame.trans hDone⟩

/- Until its task a job is pending and has no results. From
   then on it is what that one task made of it, with the flag
   that the task found: whatever is requested and runs
   afterwards, every request about the job is answered as it
   was directly after the task. -/
theorem job_is_kept_after_its_task
    (before behind : List (ReplayApiEvent ε ρ))
    (hFresh : FreshIds (before ++ behind))
    (jobId : String)
    (managed : ManagedJob ρ)
    (hJob :
      Dict.get? (run formats before).jobs jobId =
        some managed) :
    (jobId ∈ (run formats before).tasks →
      managed.job = ReplayJob.pending ρ) ∧
    (jobId ∉ (run formats before).tasks →
      (∃ earlier env later waiting,
        before = earlier ++ .task jobId env :: later ∧
          jobId ∈ (run formats earlier).tasks ∧
          Dict.get? (run formats earlier).jobs jobId =
            some waiting ∧
          managed.job =
            (ReplayJob.start
              (withFlag waiting.cancelled env)
              (ReplayJob.pending ρ)).1) ∧
      ∀ request : ReplayRequest,
        (request.call = .get jobId ∨
          (∃ limit offset,
            request.call = .results jobId limit offset) ∨
          request.call = .delete jobId) →
        (handle formats request
            (run formats (before ++ behind))).1 =
          (handle formats request (run formats before)).1) := by
  have hBefore : FreshIds before := by
    rw [FreshIds, List.filterMap_append,
      List.nodup_append] at hFresh
    exact hFresh.1
  have hLife := lifecycle_run formats hBefore
  refine ⟨hLife.waiting jobId managed hJob, ?_⟩
  intro hRan
  refine ⟨started_of_run formats hBefore hJob hRan, ?_⟩
  intro request hCall
  obtain ⟨-, cancelled, hJob'⟩ :=
    after_kept formats
      (not_drawn_again formats hFresh hJob) hJob hRan
  rw [← run_append] at hJob'
  exact
    answers_of_kept formats hJob hJob' request.call hCall
      request.authorized request.withinLimit

end ReplayApi

end FraudStream

------------------------------------------------------------
-- Cancelled Jobs
------------------------------------------------------------

namespace FraudStream

namespace ReplayApi

variable {ε ρ ι : Type}
variable (formats : ReplayFormats ρ ι)

/- Only a creation schedules a task. -/
theorem changes_tasks
    {api api' : ReplayApi ρ}
    {event : ReplayApiEvent ε ρ}
    (hChanges : Changes api event api')
    {jobId : String}
    (hOther : drawnId? event ≠ some jobId)
    (hWaiting : jobId ∈ api'.tasks) :
    jobId ∈ api.tasks := by
  cases hChanges with
  | nothing => exact hWaiting
  | created other config hDrawn =>
      have hNe : jobId ≠ other := by
        rintro rfl
        exact hOther hDrawn
      simpa [hNe] using hWaiting
  | flagged other managed hJob => exact hWaiting
  | lost other hTask hJob =>
      exact List.mem_of_mem_erase hWaiting
  | ran other managed env hEvent hTask hJob =>
      exact List.mem_of_mem_erase hWaiting

/- The flag of a scheduled job stays set. -/
theorem changes_flagged
    {api api' : ReplayApi ρ}
    {event : ReplayApiEvent ε ρ}
    (hChanges : Changes api event api')
    (hNodup : api.tasks.Nodup)
    {jobId : String}
    {managed : ManagedJob ρ}
    (hJob : Dict.get? api.jobs jobId = some managed)
    (hFlag : managed.cancelled = true)
    (hOther : drawnId? event ≠ some jobId)
    (hWaiting : jobId ∈ api'.tasks) :
    Dict.get? api'.jobs jobId = some managed := by
  cases hChanges with
  | nothing => exact hJob
  | created other config hDrawn =>
      have hNe : jobId ≠ other := by
        rintro rfl
        exact hOther hDrawn
      rw [Dict.get?_put, if_neg hNe]
      exact hJob
  | flagged other managed' hJob' =>
      rw [Dict.get?_put]
      split
      · rename_i hSame
        subst hSame
        rw [hJob, Option.some.injEq] at hJob'
        rw [← hJob', ← hFlag]
      · exact hJob
  | lost other hTask hJob' => exact hJob
  | ran other managed' env hEvent hTask hJob' =>
      have hNe := (hNodup.mem_erase_iff.1 hWaiting).1
      rw [Dict.get?_put, if_neg hNe]
      exact hJob

/- A job whose task starts with the flag set takes no event. -/
theorem start_flagged
    {env : ReplayEnv ε ρ}
    {total : Int}
    (hSink : env.openSink = none)
    (hAdapter : env.openAdapter = none)
    (hCount : env.count = .ok total) :
    let done :=
      (ReplayJob.start (withFlag true env)
        (ReplayJob.pending ρ)).1
    done.results = [] ∧
      (done.status.status = .cancelled ↔
        env.events ≠ [] ∨
          env.sourceEnd = some .cancelled) ∧
      (env.events = [] →
        (env.sourceEnd = none →
          done.status.status = .completed) ∧
        ∀ message,
          env.sourceEnd = some (.error message) →
            done.status.status = .failed) := by
  intro done
  have hDone :
      done =
        (ReplayJob.handle
          (ReplayJob.runReplay (withFlag true env)
            (ReplayJob.running ρ)).1
          (ReplayJob.runReplay (withFlag true env)
            (ReplayJob.running ρ)).2).1 :=
    ReplayJob.start_job hSink
  have hRun :
      ReplayJob.runReplay (withFlag true env)
          (ReplayJob.running ρ) =
        ReplayJob.leave (withFlag true env)
          (ReplayJob.loop (withFlag true env) 0 env.events
            ((ReplayJob.running ρ).begin total)).1
          (ReplayJob.loop (withFlag true env) 0 env.events
            ((ReplayJob.running ρ).begin total)).2 :=
    ReplayJob.runReplay_of_count hAdapter hCount
  rw [hRun] at hDone
  change
    done =
      (ReplayJob.handle
        (ReplayJob.leave (withFlag true env)
          (ReplayJob.loop (withFlag true env) 0 env.events
            ((ReplayJob.running ρ).begin total)).1
          (ReplayJob.loop (withFlag true env) 0 env.events
            ((ReplayJob.running ρ).begin total)).2).1
        (ReplayJob.leave (withFlag true env)
          (ReplayJob.loop (withFlag true env) 0 env.events
            ((ReplayJob.running ρ).begin total)).1
          (ReplayJob.loop (withFlag true env) 0 env.events
            ((ReplayJob.running ρ).begin total)).2).2).1
    at hDone
  rw [hDone]
  cases hEvents : env.events with
  | cons e es =>
      simp [ReplayJob.loop, ReplayEnv.isCancelled, withFlag,
        CancelMoment.precedes, ReplayJob.leave,
        ReplayJob.handle, ReplayJob.setStatus,
        ReplayJob.begin, ReplayJob.running,
        ReplayJob.pending]
  | nil =>
      cases hEnd : env.sourceEnd with
      | none =>
          simp [ReplayJob.loop, withFlag, hEnd,
            ReplayJob.leave, ReplayJob.finish,
            ReplayEnv.computeSummary, ReplayJob.handle,
            ReplayJob.setStatus, ReplayJob.begin,
            ReplayJob.running, ReplayJob.pending]
      | some raised =>
          cases raised <;>
            simp [ReplayJob.loop, withFlag, hEnd,
              ReplayJob.leave, ReplayJob.handle,
              ReplayJob.setStatus, ReplayJob.begin,
              ReplayJob.running, ReplayJob.pending]

/- A flag that is set stays until the task. -/
theorem run_flagged
    {before between : List (ReplayApiEvent ε ρ)}
    (hFresh : FreshIds (before ++ between))
    {jobId : String}
    {managed : ManagedJob ρ}
    (hJob :
      Dict.get? (run formats before).jobs jobId =
        some managed)
    (hFlag : managed.cancelled = true)
    (hWaiting :
      jobId ∈ (run formats (before ++ between)).tasks) :
    Dict.get? (run formats (before ++ between)).jobs jobId =
      some managed := by
  have hOther :=
    not_drawn_again formats hFresh hJob
  induction between using List.reverseRecOn with
  | nil =>
      rw [List.append_nil]
      exact hJob
  | append_singleton between event ih =>
      have hLast : drawnId? event ≠ some jobId :=
        hOther event
          (List.mem_append_right _ List.mem_cons_self)
      have hRest :
          ∀ event ∈ between, drawnId? event ≠ some jobId := by
        intro event hMem
        exact hOther event (List.mem_append_left _ hMem)
      rw [← List.append_assoc] at hFresh hWaiting ⊢
      have hFreshRest : FreshIds (before ++ between) := by
        rw [FreshIds, List.filterMap_append,
          List.nodup_append] at hFresh
        exact hFresh.1
      have hLife := lifecycle_run formats hFreshRest
      rw [run_append] at hWaiting ⊢
      have hChanges :=
        changes_step formats
          (run formats (before ++ between)) event
      have hStill :
          jobId ∈ (run formats (before ++ between)).tasks :=
        changes_tasks hChanges hLast hWaiting
      exact
        changes_flagged hChanges hLife.tasks_nodup
          (ih hFreshRest hStill hRest) hFlag hLast hWaiting

/- A job that waits for its task is pending, so a request to
   cancel it sets its flag. -/
theorem handle_delete_waiting
    {before : List (ReplayApiEvent ε ρ)}
    (hFresh : FreshIds before)
    {jobId : String}
    (hKnown : jobId ∈ (run formats before).tasks) :
    ∃ managed,
      managed.job = ReplayJob.pending ρ ∧
        handle formats
            { call := .delete jobId
              authorized := true
              withinLimit := true }
            (run formats before) =
          (.job (response jobId managed),
            { run formats before with
              jobs :=
                Dict.put (run formats before).jobs jobId
                  { managed with cancelled := true } }) := by
  have hLife := lifecycle_run formats hFresh
  rcases hLife.scheduled jobId hKnown with ⟨managed, hJob⟩
  have hPending := hLife.waiting jobId managed hJob hKnown
  have hOver : ¬ IsOver managed.job.status.status := by
    rw [hPending]
    simp [IsOver, ReplayJob.pending]
  refine ⟨managed, hPending, ?_⟩
  simp [handle, cancelReplayJob, hJob, hOver]

/- A request to cancel a job that waits for its task is
   accepted, and the job takes no event: it ends as cancelled
   exactly when its source has events, or is itself
   cancelled. Over an empty source it completes, or fails. -/
theorem delete_is_honoured_iff
    (before between : List (ReplayApiEvent ε ρ))
    (jobId : String)
    (env : ReplayEnv ε ρ)
    (total : Int)
    (hFresh : FreshIds (before ++ between))
    (hKnown : jobId ∈ (run formats before).tasks)
    (hSink : env.openSink = none)
    (hAdapter : env.openAdapter = none)
    (hCount : env.count = .ok total) :
    let delete : ReplayRequest :=
      { call := .delete jobId
        authorized := true
        withinLimit := true }
    let cancelled := before ++ .request delete :: between
    let done :=
      run formats (cancelled ++ [.task jobId env])
    (handle formats delete
        (run formats before)).1.status = 200 ∧
      (jobId ∈ (run formats cancelled).tasks →
        ∃ managed,
          Dict.get? done.jobs jobId = some managed ∧
            managed.job.results = [] ∧
            (managed.job.status.status = .cancelled ↔
              env.events ≠ [] ∨
                env.sourceEnd = some .cancelled) ∧
            (env.events = [] →
              (env.sourceEnd = none →
                managed.job.status.status = .completed) ∧
              ∀ message,
                env.sourceEnd = some (.error message) →
                  managed.job.status.status = .failed)) := by
  intro delete cancelled done
  have hFreshBefore : FreshIds before := by
    rw [FreshIds, List.filterMap_append,
      List.nodup_append] at hFresh
    exact hFresh.1
  have hFreshAll :
      FreshIds
        ((before ++
          [(.request delete : ReplayApiEvent ε ρ)]) ++
            between) := by
    have hNone :
        [(.request delete : ReplayApiEvent ε ρ)].filterMap
          drawnId? = [] := rfl
    rw [FreshIds, List.filterMap_append,
      List.filterMap_append, hNone, List.append_nil,
      ← List.filterMap_append]
    exact hFresh
  rcases handle_delete_waiting formats hFreshBefore hKnown with
    ⟨managed, hPending, hHandle⟩
  refine ⟨by rw [hHandle]; rfl, ?_⟩
  intro hWaiting
  have hAll :
      cancelled =
        (before ++
          [(.request delete : ReplayApiEvent ε ρ)]) ++
            between := by
    simp [cancelled]
  have hFlagged :
      Dict.get?
          (run formats
            (before ++
              [(.request delete :
                ReplayApiEvent ε ρ)])).jobs jobId =
        some { managed with cancelled := true } := by
    rw [run_append]
    change
      Dict.get?
          (handle formats delete (run formats before)).2.jobs
            jobId = _
    rw [hHandle]
    simp only [Dict.get?_put, if_true]
  rw [hAll] at hWaiting
  have hKept :=
    run_flagged formats hFreshAll hFlagged rfl hWaiting
  rw [← hAll] at hKept hWaiting
  refine
    ⟨{ managed with
        cancelled := true
        job :=
          (ReplayJob.start (withFlag true env)
            (ReplayJob.pending ρ)).1 }, ?_, ?_⟩
  · change
      Dict.get?
          (run formats
            (cancelled ++ [.task jobId env])).jobs jobId = _
    rw [run_append]
    change
      Dict.get?
          (runTask jobId env (run formats cancelled)).jobs
            jobId = _
    rw [runTask, if_pos hWaiting, hKept]
    simp only [Dict.get?_put, if_true, hPending]
  · exact start_flagged hSink hAdapter hCount

end ReplayApi

end FraudStream

------------------------------------------------------------
-- Pages
------------------------------------------------------------

namespace FraudStream

namespace ReplayAnswer

variable {ι : Type}

def items : ReplayAnswer ι → List ι
| .results _ _ items => items
| _ => []

def total? : ReplayAnswer ι → Option Nat
| .results _ total _ => some total
| _ => none

end ReplayAnswer

namespace ReplayApi

variable {ε ρ ι : Type}
variable (formats : ReplayFormats ρ ι)

/- The answers to requests for one page after the other, each
   after some further events. -/
def pages
    (jobId : String)
    (limit : Nat) :
    ReplayApi ρ → Nat → List (List (ReplayApiEvent ε ρ)) →
      List (ReplayAnswer ι)
| _, _, [] => []
| api, offset, events :: segments =>
    let api' := after formats api events
    let request : ReplayRequest :=
      { call := .results jobId limit offset
        authorized := true
        withinLimit := true }
    (handle formats request api').1 ::
      pages jobId limit api' (offset + limit) segments

theorem mapM_page
    {results : List ρ}
    {items : List ι}
    (hItems : results.mapM formats.toItem = some items)
    (offset limit : Nat) :
    ((results.drop offset).take limit).mapM formats.toItem =
      some ((items.drop offset).take limit) := by
  rw [FallibleList.mapM_some_iff] at hItems ⊢
  exact
    List.forall₂_take limit (List.forall₂_drop offset hItems)

theorem page_of_valid
    {api : ReplayApi ρ}
    {jobId : String}
    {managed : ManagedJob ρ}
    (hJob : Dict.get? api.jobs jobId = some managed)
    {items : List ι}
    (hItems :
      managed.job.results.mapM formats.toItem = some items)
    (limit offset : Nat) :
    getReplayResults formats jobId limit offset api =
      .results jobId managed.job.results.length
        ((items.drop offset).take limit) := by
  simp only [getReplayResults, hJob]
  rw [pySlice_of_nonneg, mapM_page formats hItems]

/- The pages of a job that ran, from an offset on. -/
theorem pages_of_valid
    {jobId : String}
    {items : List ι}
    (limit : Nat)
    {api : ReplayApi ρ}
    {managed : ManagedJob ρ}
    {segments : List (List (ReplayApiEvent ε ρ))}
    (hOther :
      ∀ event ∈ segments.flatten,
        drawnId? event ≠ some jobId)
    (hJob : Dict.get? api.jobs jobId = some managed)
    (hRan : jobId ∉ api.tasks)
    (hItems :
      managed.job.results.mapM formats.toItem = some items)
    (offset : Nat) :
    let answers :=
      pages formats jobId limit api offset segments
    (∀ answer ∈ answers,
      answer.total? = some managed.job.results.length) ∧
    answers.flatMap ReplayAnswer.items =
      (items.drop offset).take (segments.length * limit) := by
  induction segments generalizing api managed offset with
  | nil =>
      refine ⟨?_, ?_⟩
      · intro answer hMem
        cases hMem
      · simp [pages]
  | cons events segments ih =>
      intro answers
      rw [List.flatten_cons] at hOther
      have hHere :
          ∀ event ∈ events, drawnId? event ≠ some jobId := by
        intro event hMem
        exact hOther event (List.mem_append_left _ hMem)
      have hRest :
          ∀ event ∈ segments.flatten,
            drawnId? event ≠ some jobId := by
        intro event hMem
        exact hOther event (List.mem_append_right _ hMem)
      obtain ⟨hRan', cancelled, hJob'⟩ :=
        after_kept formats hHere hJob hRan
      have hTail :=
        ih hRest hJob' hRan' hItems (offset + limit)
      have hPage :=
        page_of_valid formats hJob' hItems limit offset
      have hAnswers :
          answers =
            .results jobId managed.job.results.length
                ((items.drop offset).take limit) ::
              pages formats jobId limit
                (after formats api events) (offset + limit)
                segments := by
        rw [← hPage]
        rfl
      rw [hAnswers]
      refine ⟨?_, ?_⟩
      · intro answer hMem
        rcases List.mem_cons.1 hMem with rfl | hLater
        · rfl
        · exact hTail.1 answer hLater
      · rw [List.flatMap_cons, hTail.2, List.length_cons,
          Nat.add_mul, Nat.one_mul, Nat.add_comm (_ * limit),
          List.take_add, List.drop_drop]
        rfl

/- Paging through the results of a job that ran, in steps of
   the limit and while anything else goes on, gives each
   result once, in order, and the same total on each page. -/
theorem pages_cover_results
    (before : List (ReplayApiEvent ε ρ))
    (segments : List (List (ReplayApiEvent ε ρ)))
    (hFresh : FreshIds (before ++ segments.flatten))
    (jobId : String)
    (managed : ManagedJob ρ)
    (hJob :
      Dict.get? (run formats before).jobs jobId =
        some managed)
    (hRan : jobId ∉ (run formats before).tasks)
    (items : List ι)
    (hItems :
      managed.job.results.mapM formats.toItem = some items)
    (limit : Nat)
    (hEnough : items.length ≤ segments.length * limit) :
    let answers :=
      pages formats jobId limit (run formats before) 0
        segments
    (∀ answer ∈ answers,
      answer.total? = some managed.job.results.length) ∧
    answers.flatMap ReplayAnswer.items = items := by
  intro answers
  have hPages :=
    pages_of_valid formats limit
      (not_drawn_again formats hFresh hJob) hJob hRan hItems 0
  refine ⟨hPages.1, hPages.2.trans ?_⟩
  rw [List.drop_zero, List.take_of_length_le hEnough]

end ReplayApi

end FraudStream

------------------------------------------------------------
-- Two Jobs
------------------------------------------------------------

namespace FraudStream

namespace ReplayApi

def plainFormats : ReplayFormats Nat Nat where
  isPrintable := fun _ => true
  toItem := some

def kafkaBody : CreateReplayJobRequest where
  sourceType := "kafka"
  icebergConfig := none
  kafkaConfig :=
    some
      { topic := "txn.api"
        startOffset := 0
        endOffset := 3
        partition := 0 }
  dlqConfig := none
  ruleSetVersion := none
  useShadowRules := true
  outputTopic := "txn.replay.results"
  description := ""

def admitted (call : ReplayCall) : ReplayRequest where
  call := call
  authorized := true
  withinLimit := true

/- The first job runs over three events, the second waits. -/
def twoJobs : List (ReplayApiEvent Nat Nat) :=
  [.request (admitted (.create "j-1" kafkaBody)),
    .request (admitted (.create "j-2" kafkaBody)),
    .task "j-1" (ReplayEnv.undisturbed [7, 8, 9] id)]

def kafkaConfig : ReplayConfig where
  sourceType := .kafka
  icebergConfig := none
  kafkaConfig := kafkaBody.kafkaConfig
  dlqConfig := none
  ruleSetVersion := none
  useShadowRules := true
  outputTopic := "txn.replay.results"
  description := ""
  validated := rfl

/- The job that ran. -/
def ranJob : ManagedJob Nat where
  config := kafkaConfig
  job :=
    { status :=
        { status := .completed
          totalEvents := 3
          processedEvents := 3
          failedEvents := 0
          errorMessage := none }
      results := [7, 8, 9] }
  cancelled := false

theorem get?_twoJobs :
    Dict.get? (run plainFormats twoJobs).jobs "j-1" =
      some ranJob :=
  rfl

/- A request to cancel the first job, and a second task of
   it. -/
def later : List (ReplayApiEvent Nat Nat) :=
  [.request (admitted (.delete "j-1")),
    .task "j-1" (ReplayEnv.undisturbed [5] id)]

theorem first_job_is_kept :
    (handle plainFormats (admitted (.get "j-1"))
        (run plainFormats (twoJobs ++ later))).1 =
      (handle plainFormats (admitted (.get "j-1"))
        (run plainFormats twoJobs)).1 :=
  ((job_is_kept_after_its_task plainFormats twoJobs later
    (by decide) "j-1" ranJob get?_twoJobs).2
    (by decide)).2 (admitted (.get "j-1")) (Or.inl rfl)

/- The second job is cancelled before its task. -/
theorem second_job_is_cancelled :
    ∃ managed,
      Dict.get?
          (run plainFormats
            (twoJobs ++
              [.request (admitted (.delete "j-2")),
                .task "j-2"
                  (ReplayEnv.undisturbed [5] id)])).jobs
          "j-2" = some managed ∧
        managed.job.results = [] ∧
        (managed.job.status.status = .cancelled ↔
          [5] ≠ [] ∨
            (none : Option Raised) = some .cancelled) ∧
        ([5] = [] →
          ((none : Option Raised) = none →
            managed.job.status.status = .completed) ∧
          ∀ message,
            (none : Option Raised) = some (.error message) →
              managed.job.status.status = .failed) :=
  (delete_is_honoured_iff plainFormats twoJobs [] "j-2"
    (ReplayEnv.undisturbed [5] id) 1 (by decide) (by decide)
    rfl rfl rfl).2 (by decide)

/- Two pages, with a cancellation in between. -/
theorem two_pages :
    let answers :=
      pages plainFormats "j-1" 2 (run plainFormats twoJobs) 0
        [[], later]
    (∀ answer ∈ answers, answer.total? = some 3) ∧
      answers.flatMap ReplayAnswer.items = [7, 8, 9] :=
  pages_cover_results plainFormats twoJobs [[], later]
    (by decide) "j-1" ranJob get?_twoJobs (by decide)
    [7, 8, 9] rfl 2 (by decide)

end ReplayApi

end FraudStream
