import RecordSmith.Command.Run
import RecordSmith.Proofs.Store.Writing

/-! What a run may change: nothing if it fails, and at most one file if it succeeds. -/

namespace RecordSmith

-----------------------------------------------------------------------------------------
-- Actions
-----------------------------------------------------------------------------------------

namespace Action

variable {α β : Type}

@[simp]
theorem perform_pure (value : α) (world : World)
    : (pure value : Action α).perform world = (.ok value, world) :=
  rfl

@[simp]
theorem perform_bind (first : Action α) (next : α → Action β) (world : World)
    : (first >>= next).perform world
      = match first.perform world with
        | (.ok value, later) => (next value).perform later
        | (.error error, later) => (.error error, later) := by
  have continued
      : (first >>= next).perform world
        = (ExceptT.bindCont next (first.perform world).1).run (first.perform world).2 :=
    rfl
  rw [continued]
  obtain ⟨result, later⟩ := first.perform world
  cases result <;> rfl

theorem perform_get (world : World)
    : (get : Action World).perform world = (.ok world, world) :=
  rfl

@[simp]
theorem perform_look (view : Store → Except RunError α) (world : World)
    : (look view).perform world = (view world.store, world) := by
  unfold look
  rw [perform_bind, perform_get]
  cases seen : view world.store with
  | error error =>
      simp only [seen]
      rfl
  | ok value =>
      simp only [seen]
      rfl

@[simp]
theorem perform_print (text : String) (world : World)
    : (print text).perform world
      = (.ok (), { world with stdout := world.stdout ++ text }) :=
  rfl

@[simp]
theorem perform_tell (text : String) (world : World)
    : (tell text).perform world
      = (.ok (), { world with stderr := world.stderr ++ text }) :=
  rfl

@[simp]
theorem perform_write (path : String) (change : Store → Except Failure Store)
    (world : World)
    : (write path change).perform world
      = match change world.store with
        | .error failure => (.error (.unwritable path failure), world)
        | .ok written => (.ok (), { world with store := written }) := by
  unfold write
  rw [perform_bind, perform_get]
  cases changed : change world.store with
  | error failure =>
      simp only [changed]
      rfl
  | ok written =>
      simp only [changed]
      rfl

/-- The action leaves the files as they are, whether it fails or not. -/
def Keeps (action : Action α) : Prop :=
  ∀ world, (action.perform world).2.store = world.store

theorem keeps_pure (value : α) : Keeps (pure value) := by
  intro world
  rw [perform_pure]

theorem keeps_look (view : Store → Except RunError α) : Keeps (look view) := by
  intro world
  rw [perform_look]

theorem keeps_print (text : String) : Keeps (print text) := by
  intro world
  rw [perform_print]

theorem keeps_tell (text : String) : Keeps (tell text) := by
  intro world
  rw [perform_tell]

theorem Keeps.bind {first : Action α} {next : α → Action β} (kept : first.Keeps)
    (keptAfter : ∀ value, (next value).Keeps)
    : (first >>= next).Keeps := by
  intro world
  have before := kept world
  rw [perform_bind]
  generalize first.perform world = performed at before ⊢
  obtain ⟨result, later⟩ := performed
  cases result with
  | error error => exact before
  | ok value => exact (keptAfter value later).trans before

end Action

-----------------------------------------------------------------------------------------
-- Commands
-----------------------------------------------------------------------------------------

theorem keeps_tellReport (path : String) (report : Drift.Report)
    : (tellReport path report).Keeps := by
  unfold tellReport
  split
  · exact (Action.keeps_tell _).bind fun _ => Action.keeps_pure 0
  · refine (Action.keeps_tell _).bind fun _ => ?_
    exact (Action.keeps_print _).bind fun _ => Action.keeps_pure 1

theorem keeps_runCheck (around : Surroundings) (settings : Settings) (request : Request)
    : (runCheck around settings request).Keeps := by
  refine (Action.keeps_look _).bind fun task => ?_
  refine (Action.keeps_look _).bind fun path => ?_
  refine (Action.keeps_look _).bind fun output => ?_
  exact (Action.keeps_look _).bind fun stored => keeps_tellReport path _

/-- How a generation ends: it fails and has done nothing, or its records are where they were to
go.
-/
inductive Generated (around : Surroundings) (settings : Settings) (request : Request)
    (world : World)
    : Except RunError Nat × World → Prop where
  | failed (error : RunError) : Generated around settings request world (.error error, world)
  | printed {task : Task} {output : Output}
      (resolved : request.resolve settings = .ok task)
      (made : task.generate around world.store = .ok output)
      (unset : task.output = none)
    : Generated around settings request world
        (.ok 0, { world with stdout := world.stdout ++ output.code })
  | written {task : Task} {output : Output} {path : String} {store : Store}
      (resolved : request.resolve settings = .ok task)
      (made : task.generate around world.store = .ok output)
      (named : task.output = some path)
      (wrote : world.store.writeText around.directory path output.code = .ok store)
    : Generated around settings request world
        (.ok 0, ⟨store, world.stdout, world.stderr ++ writtenText path output⟩)

theorem generated_runGenerate (around : Surroundings) (settings : Settings)
    (request : Request) (world : World)
    : Generated around settings request world
        ((runGenerate around settings request).perform world) := by
  unfold runGenerate
  rw [Action.perform_bind, Action.perform_look]
  cases resolved : request.resolve settings with
  | error error => exact .failed error
  | ok task =>
      simp only [Action.perform_bind, Action.perform_look]
      cases made : task.generate around world.store with
      | error error => exact .failed error
      | ok output =>
          cases named : task.output with
          | none => exact .printed resolved made named
          | some path =>
              simp only [Action.perform_bind, Action.perform_write]
              cases wrote : world.store.writeText around.directory path output.code with
              | error failure => exact .failed _
              | ok store => exact .written resolved made named wrote

theorem Generated.unchanged_of_failed {around : Surroundings} {settings : Settings}
    {request : Request} {world : World} {result : Except RunError Nat × World}
    (generated : Generated around settings request world result)
    (failed : (Outcome.of result).code ≠ 0)
    : (Outcome.of result).store = world.store ∧ (Outcome.of result).stdout = world.stdout := by
  cases generated with
  | failed error => exact ⟨rfl, rfl⟩
  | printed resolved made unset => exact absurd rfl failed
  | written resolved made named wrote => exact absurd rfl failed

theorem Outcome.store_of (result : Except RunError Nat × World)
    : (Outcome.of result).store = result.2.store := by
  obtain ⟨_ | _, world⟩ := result <;> rfl

/-- The command has no file to write. -/
def Command.Reads : Command → Prop
  | .check _ | .showSettings _ _ => True
  | .generate _ | .initSettings _ => False

theorem Command.Reads.keeps {command : Command} (reads : command.Reads)
    (around : Surroundings) (settings : Settings)
    : (command.run around settings).Keeps := by
  cases command with
  | generate request => exact reads.elim
  | check request => exact keeps_runCheck around settings request
  | showSettings toml json =>
      exact (Action.keeps_print _).bind fun _ => Action.keeps_pure 0
  | initSettings path => exact reads.elim

theorem store_of_runInit_failed (around : Surroundings) (path : String) (world : World)
    (failed : (Outcome.of ((runInit around path).perform world)).code ≠ 0)
    : (Outcome.of ((runInit around path).perform world)).store = world.store := by
  revert failed
  unfold runInit
  rw [Action.perform_bind, Action.perform_write]
  cases Settings.default.save world.store around.directory path with
  | error failure => exact fun _ => rfl
  | ok written => exact fun failed => absurd rfl failed

/-- A command that does not end with the code 0 leaves the files as they are. -/
theorem Command.store_of_failed (command : Command) (around : Surroundings)
    (settings : Settings) (world : World)
    (failed : (Outcome.of ((command.run around settings).perform world)).code ≠ 0)
    : (Outcome.of ((command.run around settings).perform world)).store = world.store := by
  cases command with
  | generate request =>
      have generated := generated_runGenerate around settings request world
      exact (generated.unchanged_of_failed failed).1
  | check request =>
      rw [Outcome.store_of]
      exact keeps_runCheck around settings request world
  | showSettings toml json => exact absurd rfl failed
  | initSettings path => exact store_of_runInit_failed around path world failed

-----------------------------------------------------------------------------------------
-- Runs
-----------------------------------------------------------------------------------------

theorem Invocation.run_eq (invocation : Invocation) (store : Store) (around : Surroundings)
    : invocation.run store around
      = match invocation.settings around store with
        | .error error => .of (.error error, ⟨store, "", ""⟩)
        | .ok settings =>
            .of ((invocation.command.run around settings).perform ⟨store, "", ""⟩) := by
  unfold run attempt
  rw [Action.perform_bind, Action.perform_look]
  cases invocation.settings around store <;> rfl

/-- The text is where it was to go: in the file that a path names, or printed if there is no
path. All else is as before.
-/
def Outcome.Delivers (outcome : Outcome) (before : Store) (base : Location)
    (output : Option String) (text : String)
    : Prop :=
  match output with
  | none => outcome.stdout = text ∧ outcome.store = before
  | some path =>
      outcome.stdout = ""
      ∧ outcome.store.readText base path = .ok text
      ∧ ∃ location,
          before.target base path = .ok location
          ∧ before.Rewrites outcome.store location text

theorem Request.resolve_eq_ok {request : Request} {settings : Settings} {task : Task}
    (resolved : request.resolve settings = .ok task)
    : request.schema.or settings.schema = some task.schema
      ∧ task.output = request.output.or settings.path
      ∧ task.target = request.target.getD settings.target := by
  unfold resolve at resolved
  cases asked : request.schema.or settings.schema with
  | none =>
      rw [asked] at resolved
      cases resolved
  | some schema =>
      rw [asked] at resolved
      cases resolved
      exact ⟨rfl, rfl, rfl⟩

theorem Task.generate_eq_ok {task : Task} {around : Surroundings} {store : Store}
    {output : Output} (made : task.generate around store = .ok output)
    : ∃ document,
        loadDocument store around task.schema = .ok document
        ∧ output = RecordSmith.generate document task.target := by
  unfold generate at made
  cases loaded : loadDocument store around task.schema with
  | error error =>
      rw [loaded] at made
      cases made
  | ok document =>
      rw [loaded] at made
      cases made
      exact ⟨document, rfl, rfl⟩

/-- A generation that ends with the code 0 has delivered the records of its document. -/
theorem Generated.delivers {around : Surroundings} {settings : Settings} {request : Request}
    {store : Store} {result : Except RunError Nat × World}
    (generated : Generated around settings request ⟨store, "", ""⟩ result)
    (succeeded : (Outcome.of result).code = 0)
    : ∃ schema document,
        request.schema.or settings.schema = some schema
        ∧ loadDocument store around schema = .ok document
        ∧ (Outcome.of result).Delivers store around.directory
            (request.output.or settings.path)
            (generate document (request.target.getD settings.target)).code := by
  cases generated with
  | failed error => cases succeeded
  | printed resolved made unset =>
      obtain ⟨schema, output, target⟩ := Request.resolve_eq_ok resolved
      obtain ⟨document, loaded, rfl⟩ := Task.generate_eq_ok made
      refine ⟨_, document, schema, loaded, ?_⟩
      rw [← output, ← target, unset]
      exact ⟨String.empty_append, rfl⟩
  | written resolved made named wrote =>
      obtain ⟨schema, output, target⟩ := Request.resolve_eq_ok resolved
      obtain ⟨document, loaded, rfl⟩ := Task.generate_eq_ok made
      refine ⟨_, document, schema, loaded, ?_⟩
      rw [← output, ← target, named]
      exact ⟨rfl, Store.writeText_eq_ok wrote⟩

/-- A run that fails changes no file, and neither does any run of a command that only reads. A
generation that fails prints nothing. One that succeeds delivers the records of the document that
it was to load, and changes nothing else.
-/
theorem Invocation.run_effects (invocation : Invocation) (store : Store)
    (around : Surroundings)
    : ((invocation.run store around).code ≠ 0 → (invocation.run store around).store = store)
      ∧ (invocation.command.Reads → (invocation.run store around).store = store)
      ∧ ∀ request,
          invocation.command = .generate request
          → ((invocation.run store around).code ≠ 0
                → (invocation.run store around).stdout = "")
            ∧ ((invocation.run store around).code = 0
                → ∃ settings schema document,
                    Settings.load store around invocation.config = .ok settings
                    ∧ request.schema.or settings.schema = some schema
                    ∧ loadDocument store around schema = .ok document
                    ∧ (invocation.run store around).Delivers store around.directory
                        (request.output.or settings.path)
                        (generate document (request.target.getD settings.target)).code) := by
  rw [invocation.run_eq]
  unfold Invocation.settings
  cases loaded : Settings.load store around invocation.config with
  | error error =>
      refine ⟨fun _ => rfl, fun _ => rfl, fun request asked => ⟨fun _ => rfl, ?_⟩⟩
      intro succeeded
      cases succeeded
  | ok settings =>
      refine ⟨?_, ?_, ?_⟩
      · exact invocation.command.store_of_failed around settings ⟨store, "", ""⟩
      · intro reads
        simp only [Outcome.store_of]
        exact reads.keeps around settings ⟨store, "", ""⟩
      · intro request asked
        rw [asked]
        have generated := generated_runGenerate around settings request ⟨store, "", ""⟩
        refine ⟨fun failed => (generated.unchanged_of_failed failed).2, fun succeeded => ?_⟩
        obtain ⟨schema, document, found, read, delivered⟩ := generated.delivers succeeded
        exact ⟨settings, schema, document, rfl, found, read, delivered⟩

def shelf : Store :=
  ⟨[(["schema.json"],
    .file (.text "\x7b\"$defs\":\x7b\"A\":\x7b\"properties\":\x7b\"x\":1\x7d\x7d\x7d\x7d"))]⟩

def shelving (schema : String) : Invocation :=
  ⟨none, .generate ⟨some schema, some "records.rb", none⟩⟩

theorem Invocation.run_effects_shelf
    : ((shelving "schema.json").run shelf ⟨[], "", []⟩).code = 0
      ∧ (∃ document target,
          loadDocument shelf ⟨[], "", []⟩ "schema.json" = .ok document
          ∧ ((shelving "schema.json").run shelf ⟨[], "", []⟩).Delivers shelf []
              (some "records.rb") (generate document target).code)
      ∧ ((shelving "missing.json").run shelf ⟨[], "", []⟩).code ≠ 0
      ∧ ((shelving "missing.json").run shelf ⟨[], "", []⟩).store = shelf
      ∧ ((shelving "missing.json").run shelf ⟨[], "", []⟩).stdout = "" := by
  have succeeded : ((shelving "schema.json").run shelf ⟨[], "", []⟩).code = 0 := by
    decide +kernel
  have failed : ((shelving "missing.json").run shelf ⟨[], "", []⟩).code ≠ 0 := by
    decide +kernel
  obtain ⟨-, -, generation⟩ := (shelving "schema.json").run_effects shelf ⟨[], "", []⟩
  obtain ⟨settings, schema, document, -, found, read, delivered⟩ :=
    (generation _ rfl).2 succeeded
  cases found
  obtain ⟨unchanged, -, silence⟩ := (shelving "missing.json").run_effects shelf ⟨[], "", []⟩
  refine ⟨succeeded, ⟨document, _, read, delivered⟩, failed, unchanged failed, ?_⟩
  exact (silence _ rfl).1 failed

end RecordSmith
