import KernelSprint.Backend.RelayDelivery
import KernelSprint.Backend.RequestedActions

/-!
# What the chaos and experiment sockets make of a request

The handlers of `/ws/chaos` and `/ws/experiments` on any JSON value: the lookup
of the factory, the parameters with their defaults, and what the client gets
in the end.
-/

set_option autoImplicit false

namespace KernelSprint.RequestValidation

open Labelled Generators Generators.Gen PyText Relay RelayDelivery RequestedActions
open NetworkDelay (Scalar Param clamp clampBetween maxDurationSec)

/-! ## Requests -/

/-- What `receive_json` has decoded.  A string with lone surrogates is given by
its code points. -/
inductive Json where
  | null
  | bool (value : Bool)
  | number (value : Scalar)
  | string (value : String)
  | surrogates (codePoints : List Nat)
  | array (items : List Json)
  | object (fields : List (String × Json))

/-- What a comparison with numbers takes the value for. -/
def Json.param : Json → Param
  | .bool true => some (.finite 1 "True")
  | .bool false => some (.finite 0 "False")
  | .number value => some value
  | _ => none

abbrev Fields := List (String × Json)

/-- `p.get(field, default)` -/
def get (p : Fields) (field : String) (default : Nat) : Param :=
  ((p.lookup field).getD (.number (.ofNat default))).param

inductive Endpoint where
  | chaos
  | experiments
  deriving DecidableEq

def Endpoint.key : Endpoint → String
  | .chaos => "action"
  | .experiments => "test"

/-- The keys of the table. -/
def Endpoint.names : Endpoint → List String
  | .chaos => Sockets.actions
  | .experiments => Sockets.tests

/-- The request as the other sockets' model has it; what is in a list or in a
dictionary of a request is never looked at. -/
def Json.plain : Json → Sockets.Json
  | .null => .null
  | .bool value => .bool value
  | .number value => .number value.text
  | .string value => .string value
  | .surrogates _ => .string ""
  | .array _ => .array []
  | .object _ => .object []

def plainRequest : Json → Sockets.Json
  | .object fields => .object (fields.map fun (key, value) => (key, value.plain))
  | request => request.plain

inductive Message where
  | unknown (endpoint : Endpoint) (name : Json)
  | event (event : RequestedActions.Event)

def Message.type : Message → String
  | .unknown _ _ => "error"
  | .event reported => reported.type

/-- The text of the error about a name without lone surrogates. -/
def unknownText (endpoint : Endpoint) (name : Json) : String :=
  "unknown " ++ endpoint.key ++ " '" ++ name.plain.str ++ "'. Allowed: " ++
    Sockets.joinSorted endpoint.names

abbrev Factory (db : CharDb) := Fields → Environment db → Outcome RequestedActions.Event

section Tables

variable (db : CharDb)

def ACTIONS : List (String × Factory db) := [
  ("cpu", fun p env =>
    injected env (ChaosAgent.cpuStress db (get p "load_pct" 80) (get p "duration_sec" 5))),
  ("memory", fun p env =>
    injected env (ChaosAgent.memoryStress db (get p "pct" 50) (get p "duration_sec" 5))),
  ("disk", fun p env => injected env (ChaosAgent.diskStress (get p "duration_sec" 5))),
  ("network", fun p env =>
    delayed env (NetworkDelay.networkDelay (get p "delay_ms" 200) (get p "duration_sec" 5))),
  ("kill", fun _ env => injected env (ChaosAgent.killProcessDemo db))]

def TESTS : List (String × Factory db) := [
  ("scheduler_optimization", fun p env => experimented env
    (RequestedExperiments.schedulerOptimizationTest db (get p "iterations" 500))),
  ("process_creation", fun p env => experimented env
    (RequestedExperiments.processCreationTest db (get p "iterations" 2000))),
  ("context_switch", fun p env => experimented env
    (RequestedExperiments.contextSwitchTest db (get p "round_trips" 20000))),
  ("ipc_performance", fun p env => experimented env
    (RequestedExperiments.ipcPerformanceTest db (get p "chunk_bytes" 4096)))]

end Tables

def Endpoint.table (db : CharDb) : Endpoint → List (String × Factory db)
  | .chaos => ACTIONS db
  | .experiments => TESTS db

def served (outcome : Outcome RequestedActions.Event) : Outcome Message :=
  ⟨outcome.events.map .event, outcome.raises⟩

section Socket

variable (db : CharDb)

-- whether `send_json` gets a text with lone surrogates through
variable (sendsSurrogates : Bool) (endpoint : Endpoint)

/-- A list or a dictionary cannot be a key. -/
def dispatch (fields : Fields) (env : Environment db) (name : Json) : Action Message :=
  match name with
  | .array _ => .crash
  | .object _ => .crash
  | .surrogates _ =>
      if sendsSurrogates then .reply (.unknown endpoint name) else .crash
  | .string value =>
      match (endpoint.table db).lookup value with
      | none => .reply (.unknown endpoint name)
      | some factory => .serve (served (factory fields env))
  | _ => .reply (.unknown endpoint name)

/-- A request that is no dictionary has no `get`. -/
def socket (request : Json) (env : Environment db) : Action Message :=
  match request with
  | .object fields =>
      dispatch db sendsSurrogates endpoint fields env
        ((fields.lookup endpoint.key).getD .null)
  | _ => .crash

abbrev handler : Machine (Connection Json Message) (Label Json (Environment db)) :=
  relay (socket db sendsSurrogates endpoint)

/-! ## What the client is promised -/

variable {db}

/-- The job that the request names is run, with its parameters in range. -/
def Runs (request : Json) (env : Environment db) : Prop :=
  ∃ (job : Job) (fields : Fields), request = .object fields ∧
    fields.lookup endpoint.key = some (.string job.name) ∧ job.InRange ∧
    socket db sendsSurrogates endpoint request env = .serve (served (job.outcome env))

/-- The threads and the handler come to rest, and then the handler receives again
and has sent a result or an error last. -/
def Delivers (conn : Connection Json Message) (request : Json) (env : Environment db) : Prop :=
  ∀ begun, (handler db sendsSurrogates endpoint).step conn (.receive env) = some begun →
    (∃ bound, ∀ labels final, (∀ label ∈ labels, Label.internal label) →
      (handler db sendsSurrogates endpoint).exec labels begun = some final →
        labels.length ≤ bound) ∧
    ∀ labels final, (∀ label ∈ labels, Label.internal label) →
      (handler db sendsSurrogates endpoint).exec labels begun = some final →
      Resting (socket db sendsSurrogates endpoint) final →
        final.handler = .receiving ∧ ∃ entry older message, final.log = entry :: older ∧
          entry.request = request ∧ entry.sent.getLast? = some message ∧ FinalType message.type

def Validated (conn : Connection Json Message) (request : Json) (env : Environment db) : Prop :=
  ((∃ name, socket db sendsSurrogates endpoint request env = .reply (.unknown endpoint name)) ∨
    Runs sendsSurrogates endpoint request env) ∧
  Delivers sendsSurrogates endpoint conn request env

end Socket

/-- The parameters that the factory of that name reads. -/
def parameters : String → List String
  | "cpu" => ["load_pct", "duration_sec"]
  | "memory" => ["pct", "duration_sec"]
  | "disk" => ["duration_sec"]
  | "network" => ["delay_ms", "duration_sec"]
  | "scheduler_optimization" => ["iterations"]
  | "process_creation" => ["iterations"]
  | "context_switch" => ["round_trips"]
  | "ipc_performance" => ["chunk_bytes"]
  | _ => []

/-- The field is absent, a number or a truth value. -/
def Numeric (p : Fields) (field : String) : Prop :=
  ∀ value ∈ p.lookup field, value.param.isSome

/-- The name can be looked up and quoted, and a factory of that name gets numbers
only. -/
def NameFits (sendsSurrogates : Bool) (endpoint : Endpoint) (fields : Fields) : Json → Prop
  | .array _ => False
  | .object _ => False
  | .surrogates _ => sendsSurrogates = true
  | .string name => name ∈ endpoint.names → ∀ field ∈ parameters name, Numeric fields field
  | _ => True

def WellTyped (sendsSurrogates : Bool) (endpoint : Endpoint) (request : Json) : Prop :=
  ∃ fields, request = .object fields ∧
    NameFits sendsSurrogates endpoint fields ((fields.lookup endpoint.key).getD .null)

/-! ## Clamping -/

theorem get_isSome_iff (p : Fields) (field : String) (default : Nat) :
    (get p field default).isSome ↔ Numeric p field := by
  unfold get Numeric
  cases p.lookup field with
  | none => exact iff_of_true rfl fun _ member => nomatch member
  | some value =>
      constructor
      · intro numeric _ member
        cases member
        exact numeric
      · exact fun numeric => numeric value rfl

theorem clamp_eq (high : Nat) (param : Param) : clamp high param = clampBetween 1 high param := by
  cases param <;> rfl

/-- A parameter is clamped into the range, or comparing it raises. -/
theorem clamped (low high : Nat) (wide : low ≤ high) (param : Param) :
    (param.isSome ∧ ∃ value, clampBetween low high param = .ok value ∧ Within low high value) ∨
      ¬ param.isSome ∧ clampBetween low high param = .error .typeError := by
  cases param with
  | none => exact Or.inr ⟨Bool.false_ne_true, rfl⟩
  | some value =>
      obtain ⟨amount, text, fine, above, below⟩ :=
        NetworkDelay.clampBetween_bounds low high wide value
      exact Or.inl ⟨rfl, _, fine, amount, text, rfl, above, below⟩

section Factories

variable {db : CharDb} (env : Environment db)

/-- With numbers for its parameters a factory runs its job, otherwise its thread
raises before anything else. -/
def Clamps (name : String) (parameters : List String) (factory : Factory db) : Prop :=
  ∀ p env,
    ((∀ field ∈ parameters, Numeric p field) ∧
      ∃ job : Job, job.name = name ∧ job.InRange ∧ factory p env = job.outcome env) ∨
    (¬ ∀ field ∈ parameters, Numeric p field) ∧ factory p env = ⟨[], true⟩

theorem clamps_one (name field : String) (default low high : Nat) (wide : low ≤ high)
    (factory : Param → Environment db → Outcome RequestedActions.Event) (job : Scalar → Job)
    (named : ∀ value, (job value).name = name)
    (inRange : ∀ value, Within low high value → (job value).InRange)
    (runs : ∀ param env value, clampBetween low high param = .ok value →
      factory param env = (job value).outcome env)
    (raises : ∀ param env, clampBetween low high param = .error .typeError →
      factory param env = ⟨[], true⟩) :
    Clamps name [field] fun p env => factory (get p field default) env := by
  intro p env
  rw [List.forall_mem_singleton, ← get_isSome_iff p field default]
  rcases clamped low high wide (get p field default) with ⟨numeric, value, fine, within⟩ | ⟨other, bad⟩
  · exact Or.inl ⟨numeric, job value, named value, inRange value within, runs _ env value fine⟩
  · exact Or.inr ⟨other, raises _ env bad⟩

theorem clamps_two (name field second : String) (default default' high high' : Nat)
    (wide : 1 ≤ high) (wide' : 1 ≤ high')
    (factory : Param → Param → Environment db → Outcome RequestedActions.Event)
    (job : Scalar → Scalar → Job) (named : ∀ value value', (job value value').name = name)
    (inRange : ∀ value value', Within 1 high value → Within 1 high' value' →
      (job value value').InRange)
    (runs : ∀ param param' env value value', clamp high param = .ok value →
      clamp high' param' = .ok value' → factory param param' env = (job value value').outcome env)
    (raises : ∀ param param' env, clamp high param = .error .typeError →
      factory param param' env = ⟨[], true⟩)
    (raises' : ∀ param param' env value, clamp high param = .ok value →
      clamp high' param' = .error .typeError → factory param param' env = ⟨[], true⟩) :
    Clamps name [field, second] fun p env =>
      factory (get p field default) (get p second default') env := by
  intro p env
  rw [List.forall_mem_cons, List.forall_mem_singleton, ← get_isSome_iff p field default,
    ← get_isSome_iff p second default']
  simp only [clamp_eq] at runs raises raises'
  rcases clamped 1 high wide (get p field default) with ⟨numeric, value, fine, within⟩ | ⟨other, bad⟩
  · rcases clamped 1 high' wide' (get p second default') with
      ⟨numeric', value', fine', within'⟩ | ⟨other', bad'⟩
    · exact Or.inl ⟨⟨numeric, numeric'⟩, job value value', named value value',
        inRange value value' within within', runs _ _ env value value' fine fine'⟩
    · exact Or.inr ⟨fun both => other' both.2, raises' _ _ env value fine bad'⟩
  · exact Or.inr ⟨fun both => other both.1, raises _ _ env bad⟩

/-- An experiment clamps its parameter and goes on with the number. -/
theorem clamps_experiment (name field : String) (default low high : Nat) (wide : low ≤ high)
    (code : Param → RequestedExperiments.Experiment Unit) (job : Scalar → Job)
    (named : ∀ value, (job value).name = name)
    (inRange : ∀ value, Within low high value → (job value).InRange)
    (body : Scalar → RequestedExperiments.Experiment Unit)
    (goes : ∀ param, code param = fromExcept (clampBetween low high param) >>= body)
    (runs : ∀ value (env : Environment db), (job value).outcome env = experimented env (body value)) :
    @Clamps db name [field] fun p env => experimented env (code (get p field default)) := by
  refine clamps_one name field default low high wide (fun param env => experimented env (code param))
    job named inRange ?_ ?_
  · intro param env value fine
    rw [goes, fine, runs]
    rfl
  · intro param env bad
    rw [goes, bad]
    rfl

/-- An injection clamps both its parameters and goes on with the numbers. -/
theorem clamps_injection (name field second : String) (default default' high high' : Nat)
    (wide : 1 ≤ high) (wide' : 1 ≤ high') (code : Param → Param → ChaosAgent.Injection Unit)
    (job : Scalar → Scalar → Job) (named : ∀ value value', (job value value').name = name)
    (inRange : ∀ value value', Within 1 high value → Within 1 high' value' →
      (job value value').InRange)
    (body : Scalar → Scalar → ChaosAgent.Injection Unit)
    (goes : ∀ param param', code param param' =
      ChaosAgent.orRaise (clamp high param) >>= fun value =>
        ChaosAgent.orRaise (clamp high' param') >>= fun value' => body value value')
    (runs : ∀ value value' (env : Environment db),
      (job value value').outcome env = injected env (body value value')) :
    @Clamps db name [field, second] fun p env =>
      injected env (code (get p field default) (get p second default')) := by
  refine clamps_two name field second default default' high high' wide wide'
    (fun param param' env => injected env (code param param')) job named inRange ?_ ?_ ?_
  · intro param param' env value value' fine fine'
    rw [goes, fine, fine', runs]
    rfl
  · intro param param' env bad
    rw [goes, bad]
    rfl
  · intro param param' env value fine bad
    rw [goes, fine, bad]
    rfl

theorem clamps_cpu : @Clamps db "cpu" ["load_pct", "duration_sec"] fun p env =>
    injected env (ChaosAgent.cpuStress db (get p "load_pct" 80) (get p "duration_sec" 5)) :=
  clamps_injection _ _ _ _ _ _ _ (by decide) (by decide) _ .cpu (fun _ _ => rfl)
    (fun _ _ within within' => ⟨within, within'⟩) _ (fun _ _ => rfl) fun _ _ _ => rfl

theorem clamps_memory : @Clamps db "memory" ["pct", "duration_sec"] fun p env =>
    injected env (ChaosAgent.memoryStress db (get p "pct" 50) (get p "duration_sec" 5)) :=
  clamps_injection _ _ _ _ _ _ _ (by decide) (by decide) _ .memory (fun _ _ => rfl)
    (fun _ _ within within' => ⟨within, within'⟩) _ (fun _ _ => rfl) fun _ _ _ => rfl

theorem clamps_disk : @Clamps db "disk" ["duration_sec"] fun p env =>
    injected env (ChaosAgent.diskStress (get p "duration_sec" 5)) := by
  refine clamps_one "disk" _ 5 1 maxDurationSec (by decide)
    (fun durationSec env => injected env (ChaosAgent.diskStress durationSec))
    .disk (fun _ => rfl) (fun _ within => within) ?_ ?_
  · intro param env value fine
    simp only [ChaosAgent.diskStress, clamp_eq, fine]
    rfl
  · intro param env bad
    simp only [ChaosAgent.diskStress, clamp_eq, bad]
    rfl

theorem clamps_network : @Clamps db "network" ["delay_ms", "duration_sec"] fun p env =>
    delayed env (NetworkDelay.networkDelay (get p "delay_ms" 200) (get p "duration_sec" 5)) := by
  refine clamps_two "network" _ _ 200 5 2000 maxDurationSec (by decide) (by decide)
    (fun delayMs durationSec env => delayed env (NetworkDelay.networkDelay delayMs durationSec))
    .network (fun _ _ => rfl) (fun _ _ within within' => ⟨within, within'⟩) ?_ ?_ ?_
  · intro param param' env value value' fine fine'
    simp only [NetworkDelay.networkDelay, fine, fine']
    rfl
  · intro param param' env bad
    simp only [NetworkDelay.networkDelay, bad]
    rfl
  · intro param param' env value fine bad
    simp only [NetworkDelay.networkDelay, fine, bad]
    rfl

theorem clamps_kill : @Clamps db "kill" [] fun _ env =>
    injected env (ChaosAgent.killProcessDemo db) :=
  fun _ _ => Or.inl ⟨List.forall_mem_nil _, .kill, rfl, trivial, rfl⟩

/-- Every factory of both tables. -/
theorem table_clamps (endpoint : Endpoint) :
    ∀ entry ∈ endpoint.table db, Clamps entry.1 (parameters entry.1) entry.2 := by
  cases endpoint with
  | chaos =>
      simp only [Endpoint.table, ACTIONS, List.forall_mem_cons]
      exact ⟨clamps_cpu, clamps_memory, clamps_disk, clamps_network, clamps_kill,
        List.forall_mem_nil _⟩
  | experiments =>
      simp only [Endpoint.table, TESTS, List.forall_mem_cons]
      refine ⟨?_, ?_, ?_, ?_, List.forall_mem_nil _⟩
      · exact clamps_experiment _ _ _ _ _ (by decide) _ .schedulerOptimization (fun _ => rfl)
          (fun _ within => within) _ (fun _ => rfl) fun _ _ => rfl
      · exact clamps_experiment _ _ _ _ _ (by decide) _ .processCreation (fun _ => rfl)
          (fun _ within => within) _ (fun _ => rfl) fun _ _ => rfl
      · exact clamps_experiment _ _ _ _ _ (by decide) _ .contextSwitch (fun _ => rfl)
          (fun _ within => within) _ (fun _ => rfl) fun _ _ => rfl
      · exact clamps_experiment _ _ _ _ _ (by decide) _ .ipcPerformance (fun _ => rfl)
          (fun _ within => within) _ (fun _ => rfl) fun _ _ => rfl

/-! ## The handler's decision -/

theorem names_eq (endpoint : Endpoint) : (endpoint.table db).map Prod.fst = endpoint.names := by
  cases endpoint <;> rfl

theorem lookup_some (endpoint : Endpoint) (name : String) (factory : Factory db)
    (found : (endpoint.table db).lookup name = some factory) :
    (name, factory) ∈ endpoint.table db ∧ name ∈ endpoint.names := by
  obtain ⟨before, after, split, -⟩ := List.lookup_eq_some_iff.mp found
  have member : (name, factory) ∈ endpoint.table db := by
    rw [split]
    exact List.mem_append_right _ List.mem_cons_self
  rw [← @names_eq db]
  exact ⟨member, List.mem_map.mpr ⟨_, member, rfl⟩⟩

theorem lookup_none (endpoint : Endpoint) (name : String)
    (missing : (endpoint.table db).lookup name = none) : name ∉ endpoint.names := by
  rw [← @names_eq db]
  intro member
  obtain ⟨entry, listed, rfl⟩ := List.mem_map.mp member
  exact absurd (List.lookup_eq_none_iff.mp missing entry listed) (by simp)

section Decision

variable (sendsSurrogates : Bool) (endpoint : Endpoint)

theorem wellTyped_object (fields : Fields) :
    WellTyped sendsSurrogates endpoint (.object fields) ↔
      NameFits sendsSurrogates endpoint fields ((fields.lookup endpoint.key).getD .null) := by
  constructor
  · rintro ⟨_, same, fits⟩
    cases same
    exact fits
  · exact fun fits => ⟨fields, rfl, fits⟩

theorem socket_object (fields : Fields) (name : Json)
    (named : (fields.lookup endpoint.key).getD .null = name) :
    socket db sendsSurrogates endpoint (.object fields) env =
      dispatch db sendsSurrogates endpoint fields env name :=
  congrArg (dispatch db sendsSurrogates endpoint fields env) named

/-- Of the requests with a text for the name, those run that give the factory of
that name numbers. -/
theorem socket_string (fields : Fields) (name : String)
    (named : (fields.lookup endpoint.key).getD .null = .string name) :
    (NameFits sendsSurrogates endpoint fields (.string name) ∧
      ((∃ name, socket db sendsSurrogates endpoint (.object fields) env =
        .reply (.unknown endpoint name)) ∨
        Runs sendsSurrogates endpoint (.object fields) env)) ∨
    ¬ NameFits sendsSurrogates endpoint fields (.string name) ∧
      socket db sendsSurrogates endpoint (.object fields) env = .serve ⟨[], true⟩ := by
  have decides := socket_object env sendsSurrogates endpoint fields _ named
  unfold dispatch at decides
  cases found : (endpoint.table db).lookup name with
  | none =>
      simp only [found] at decides
      exact Or.inl ⟨fun listed => absurd listed (lookup_none endpoint name found),
        Or.inl ⟨_, decides⟩⟩
  | some factory =>
      simp only [found] at decides
      obtain ⟨member, listed⟩ := lookup_some endpoint name factory found
      have present : fields.lookup endpoint.key = some (.string name) := by
        cases looked : fields.lookup endpoint.key with
        | none =>
            rw [looked] at named
            cases named
        | some value =>
            rw [looked] at named
            exact congrArg some named
      have clamps : Clamps name (parameters name) factory := table_clamps endpoint _ member
      rcases clamps fields env with
        ⟨numeric, job, rfl, inRange, runs⟩ | ⟨other, raises⟩
      · refine Or.inl ⟨fun _ => numeric, Or.inr ⟨job, fields, rfl, present, inRange, ?_⟩⟩
        rw [decides, runs]
      · refine Or.inr ⟨fun fits => other (fits listed), ?_⟩
        rw [decides, raises]
        rfl

/-- What is refused is quoted in an error, what is named runs; otherwise the
handler or the thread raises at once. -/
theorem socket_cases (request : Json) :
    (WellTyped sendsSurrogates endpoint request ∧
      ((∃ name, socket db sendsSurrogates endpoint request env =
        .reply (.unknown endpoint name)) ∨ Runs sendsSurrogates endpoint request env)) ∨
    (¬ WellTyped sendsSurrogates endpoint request ∧
      (socket db sendsSurrogates endpoint request env = .crash ∨
        socket db sendsSurrogates endpoint request env = .serve ⟨[], true⟩)) := by
  by_cases dictionary : ∃ fields, request = .object fields
  · obtain ⟨fields, rfl⟩ := dictionary
    rw [wellTyped_object]
    cases named : (fields.lookup endpoint.key).getD .null with
    | null =>
        exact Or.inl ⟨trivial, Or.inl ⟨_, socket_object env _ _ fields _ named⟩⟩
    | bool value =>
        exact Or.inl ⟨trivial, Or.inl ⟨_, socket_object env _ _ fields _ named⟩⟩
    | number value =>
        exact Or.inl ⟨trivial, Or.inl ⟨_, socket_object env _ _ fields _ named⟩⟩
    | array items =>
        exact Or.inr ⟨not_false, Or.inl (socket_object env _ _ fields _ named)⟩
    | object inner =>
        exact Or.inr ⟨not_false, Or.inl (socket_object env _ _ fields _ named)⟩
    | surrogates codePoints =>
        have decides := socket_object env sendsSurrogates endpoint fields _ named
        cases sendsSurrogates with
        | true => exact Or.inl ⟨rfl, Or.inl ⟨_, decides⟩⟩
        | false => exact Or.inr ⟨Bool.false_ne_true, Or.inl decides⟩
    | string name =>
        exact (socket_string env sendsSurrogates endpoint fields name named).imp_right
          fun ⟨other, raises⟩ => ⟨other, Or.inr raises⟩
  · have other : ¬ WellTyped sendsSurrogates endpoint request :=
      fun ⟨fields, same, _⟩ => dictionary ⟨fields, same⟩
    refine Or.inr ⟨other, Or.inl ?_⟩
    cases request with
    | object fields => exact absurd ⟨fields, rfl⟩ dictionary
    | null => rfl
    | bool value => rfl
    | number value => rfl
    | string value => rfl
    | surrogates codePoints => rfl
    | array items => rfl

theorem lookup_plain (fields : Fields) (key : String) :
    (fields.map fun (key, value) => (key, value.plain)).lookup key =
      (fields.lookup key).map Json.plain := by
  induction fields with
  | nil => rfl
  | cons entry rest ih =>
      obtain ⟨field, value⟩ := entry
      rw [List.map_cons, List.lookup_cons, List.lookup_cons, ih]
      cases key == field <;> rfl

/-- The model of the five sockets decides the same, lone surrogates apart. -/
theorem decides_as_sockets (render : Message → Sockets.Json)
    (quotes : ∀ name,
      render (.unknown endpoint name) = Sockets.errorEvent (unknownText endpoint name))
    (request : Json)
    (whole : ∀ fields codePoints, request = .object fields →
      (fields.lookup endpoint.key).getD .null ≠ .surrogates codePoints) :
    ∃ outcome, (socket db sendsSurrogates endpoint request env).map render =
      Sockets.factorySocket endpoint.key endpoint.names (some (plainRequest request))
        fun _ => outcome := by
  cases request with
  | object fields =>
      have plainName : ((fields.map fun (key, value) => (key, value.plain)).lookup
          endpoint.key).getD .null = ((fields.lookup endpoint.key).getD .null).plain := by
        rw [lookup_plain]
        cases fields.lookup endpoint.key <;> rfl
      have whole := whole fields
      simp only [Sockets.factorySocket, plainRequest, plainName]
      cases named : (fields.lookup endpoint.key).getD .null with
      | surrogates codePoints => exact absurd named (whole codePoints rfl)
      | array items => exact ⟨⟨[], false⟩, congrArg _ (socket_object env _ _ fields _ named)⟩
      | object inner => exact ⟨⟨[], false⟩, congrArg _ (socket_object env _ _ fields _ named)⟩
      | null =>
          rw [socket_object env _ _ fields _ named]
          exact ⟨⟨[], false⟩, congrArg Action.reply (quotes _)⟩
      | bool value =>
          rw [socket_object env _ _ fields _ named]
          exact ⟨⟨[], false⟩, congrArg Action.reply (quotes _)⟩
      | number value =>
          rw [socket_object env _ _ fields _ named]
          exact ⟨⟨[], false⟩, congrArg Action.reply (quotes _)⟩
      | string name =>
          rw [socket_object env _ _ fields _ named]
          simp only [dispatch, Json.plain]
          cases found : (endpoint.table db).lookup name with
          | none =>
              simp only [lookup_none endpoint name found, ↓reduceIte]
              exact ⟨⟨[], false⟩, congrArg Action.reply (quotes _)⟩
          | some factory =>
              simp only [(lookup_some endpoint name factory found).2, ↓reduceIte]
              exact ⟨_, rfl⟩
  | null => exact ⟨⟨[], false⟩, rfl⟩
  | bool value => exact ⟨⟨[], false⟩, rfl⟩
  | number value => exact ⟨⟨[], false⟩, rfl⟩
  | string value => exact ⟨⟨[], false⟩, rfl⟩
  | surrogates codePoints => exact ⟨⟨[], false⟩, rfl⟩
  | array items => exact ⟨⟨[], false⟩, rfl⟩

/-! ## Delivery -/

/-- An action that completes delivers its answer. -/
theorem delivers_of_completes (conn : Connection Json Message) (orderly : Orderly conn)
    (request : Json) (rest : List Json) (arrived : conn.inbox = request :: rest)
    (completes : (socket db sendsSurrogates endpoint request env).completes = true)
    (message : Message)
    (last : (socket db sendsSurrogates endpoint request env).answer.getLast? = some message)
    (isFinal : FinalType message.type) :
    Delivers sendsSurrogates endpoint conn request env := by
  intro begun begins
  refine ⟨⟨weight begun, fun labels final internal run =>
    internal_bounded _ begun final labels internal run⟩, ?_⟩
  intro labels final internal run resting
  have later : Orderly final := Machine.invariant_of_exec _ Orderly
    (fun conn label next holds stepped => orderly_step _ conn next label holds stepped)
    (.receive env :: labels) conn final orderly ((Machine.exec_cons ..).mpr ⟨begun, begins, run⟩)
  obtain ⟨request', rest', _, arrived', _, logged⟩ := receive_frame _ conn begun env begins
  cases arrived.symm.trans arrived'
  have kept := received_exec _ begun final labels internal run
  rw [received, received, logged, List.map_cons] at kept
  obtain ⟨entry, older, split, same, -⟩ := List.map_eq_cons_iff.mp kept
  injection same with sameRequest sameAction
  have whole := answered_at_rest _ final entry older later split (sameAction ▸ completes) resting
  refine ⟨whole.1, entry, older, message, split, sameRequest, ?_, isFinal⟩
  rw [whole.2, sameAction]
  exact last

/-- Every request is validated and answered that is well typed, and no other. -/
theorem validated_iff (schedule : List (Label Json (Environment db)))
    (conn : Connection Json Message)
    (reached : (handler db sendsSurrogates endpoint).exec schedule .accept = some conn)
    (request : Json) (rest : List Json) (arrived : conn.inbox = request :: rest) :
    Validated sendsSurrogates endpoint conn request env ↔
      WellTyped sendsSurrogates endpoint request := by
  have orderly : Orderly conn := Machine.invariant_of_exec _ Orderly
    (fun conn label next holds stepped => orderly_step _ conn next label holds stepped)
    schedule .accept conn orderly_accept reached
  have delivers := delivers_of_completes env sendsSurrogates endpoint conn orderly request rest
    arrived
  rcases socket_cases env sendsSurrogates endpoint request with ⟨typed, answered⟩ | ⟨other, raises⟩
  · refine iff_of_true ⟨answered, ?_⟩ typed
    rcases answered with ⟨name, replies⟩ | ⟨job, _, _, _, inRange, serves⟩
    · rw [replies] at delivers
      exact delivers rfl _ rfl (Or.inr rfl)
    · obtain ⟨returns, event, last, isFinal⟩ := job_concluded env job inRange
      rw [serves] at delivers
      refine delivers ?_ (.event event) ?_ isFinal
      · simp only [Action.completes, served, returns, Bool.not_false]
      · simp only [Action.answer, served, List.getLast?_map, last, Option.map_some]
  · refine iff_of_false (fun validated => ?_) other
    obtain ⟨⟨name, replies⟩ | ⟨job, _, _, _, inRange, serves⟩, -⟩ := validated
    · rcases raises with crashes | strands
      · rw [crashes] at replies
        cases replies
      · rw [strands] at replies
        cases replies
    · have returns := (job_concluded env job inRange).1
      rcases raises with crashes | strands
      · rw [crashes] at serves
        cases serves
      · rw [strands] at serves
        have same := congrArg Outcome.raises (Action.serve.inj serves)
        rw [served, returns] at same
        cases same

end Decision

end Factories

/-! ## A container at rest -/

def idleMoment : Moment .ascii where
  exec _ := ⟨0, "4\n", ""⟩
  read _ := "cpu  1 0 1 8 0 0 0 0 0 0\n"
  running := false
  compile := ⟨0, "", ""⟩
  run _ := ""
  baseSliceNs := 3000000
  passes := 0
  forward := le_rfl
  cores := ⟨4, by decide +kernel⟩
  times := ⟨(8, 10), by decide +kernel⟩
  scheduled _ := ⟨none, by decide +kernel⟩
  created _ := ⟨none, by decide +kernel⟩
  switched _ := ⟨none, by decide +kernel⟩
  transferred _ := ⟨none, by decide +kernel⟩

def idleContainer : Environment .ascii := ⟨0, idleMoment, []⟩

def killRequest : Json := .object [("action", .string "kill")]

theorem kill_validated :
    (Validated false .chaos ⟨[killRequest], .receiving, [], [], []⟩ killRequest idleContainer ↔
        WellTyped false .chaos killRequest) ∧
      ∀ render : Message → Sockets.Json,
        (∀ name, render (.unknown .chaos name) = Sockets.errorEvent (unknownText .chaos name)) →
        ∃ outcome, (socket .ascii false .chaos killRequest idleContainer).map render =
          Sockets.factorySocket Endpoint.chaos.key Endpoint.chaos.names
            (some (plainRequest killRequest)) fun _ => outcome := by
  refine ⟨validated_iff idleContainer false .chaos [.arrive killRequest] _ rfl killRequest [] rfl,
    fun render quotes => ?_⟩
  refine decides_as_sockets idleContainer false .chaos render quotes killRequest ?_
  intro fields codePoints same
  cases same
  exact Json.noConfusion

/-- An explicit null is no missing parameter. -/
def nullRequest : Json := .object [("action", .string "cpu"), ("load_pct", .null)]

theorem null_not_validated :
    ¬ Validated false .chaos ⟨[nullRequest], .receiving, [], [], []⟩ nullRequest
      idleContainer := by
  have raises : socket .ascii false .chaos nullRequest idleContainer = .serve ⟨[], true⟩ := rfl
  rintro ⟨⟨name, replies⟩ | ⟨job, _, _, _, inRange, serves⟩, -⟩
  · cases raises.symm.trans replies
  · have returns := (job_concluded idleContainer job inRange).1
    have same := congrArg Outcome.raises (Action.serve.inj (raises.symm.trans serves))
    rw [served, returns] at same
    cases same

end KernelSprint.RequestValidation
