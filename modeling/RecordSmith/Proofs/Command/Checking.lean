import RecordSmith.Proofs.Command.Effects
import RecordSmith.Proofs.Drift.Changes
import RecordSmith.Proofs.Settings.Searching

/-! Checking and generating agree: a check succeeds exactly when the file holds what would be
generated, and what has been generated stays as it is until something else changes.
-/

namespace RecordSmith

-----------------------------------------------------------------------------------------
-- Runs that succeed
-----------------------------------------------------------------------------------------

theorem Outcome.ok_of_code_eq_zero {result : Except RunError Nat × World}
    (succeeded : (Outcome.of result).code = 0)
    : ∃ later, result = (.ok 0, later) := by
  obtain ⟨error | code, later⟩ := result
  · cases succeeded
  · cases succeeded
    exact ⟨later, rfl⟩

/-- What is done after a successful look starts in the same world. -/
theorem Action.ok_of_look_bind {α β : Type} {view : Store → Except RunError α}
    {next : α → Action β} {world later : World} {result : β}
    (ended : (look view >>= next).perform world = (.ok result, later))
    : ∃ value,
        view world.store = .ok value ∧ (next value).perform world = (.ok result, later) := by
  rw [perform_bind, perform_look] at ended
  cases seen : view world.store with
  | error error =>
      rw [seen] at ended
      cases ended
  | ok value =>
      rw [seen] at ended
      exact ⟨value, rfl, ended⟩

theorem Action.ok_of_write_bind {β : Type} {path : String}
    {change : Store → Except Failure Store} {next : Unit → Action β} {world later : World}
    {result : β} (ended : (write path change >>= next).perform world = (.ok result, later))
    : ∃ written, change world.store = .ok written := by
  rw [perform_bind, perform_write] at ended
  cases changed : change world.store with
  | error failure =>
      rw [changed] at ended
      cases ended
  | ok written => exact ⟨written, rfl⟩

theorem Invocation.settings_eq_ok {invocation : Invocation} {around : Surroundings}
    {store : Store} {settings : Settings}
    (loaded : invocation.settings around store = .ok settings)
    : Settings.load store around invocation.config = .ok settings := by
  unfold Invocation.settings at loaded
  cases read : Settings.load store around invocation.config with
  | error error =>
      rw [read] at loaded
      cases loaded
  | ok found =>
      rw [read] at loaded
      cases loaded
      rfl

theorem storedText_eq_ok {around : Surroundings} {path stored : String} {store : Store}
    (held : storedText around path store = .ok stored)
    : store.readText around.directory path = .ok stored := by
  unfold storedText at held
  cases read : store.readText around.directory path with
  | error failure =>
      rw [read] at held
      cases held
  | ok text =>
      rw [read] at held
      cases held
      rfl

theorem loadDocument_of_readText {before after : Store} {around : Surroundings}
    {path : String} {document : Document}
    (same : SameSuccess (after.readText around.directory path)
      (before.readText around.directory path))
    (read : loadDocument before around path = .ok document)
    : loadDocument after around path = .ok document := by
  unfold loadDocument at read ⊢
  rcases same.cases with ⟨text, now, earlier⟩ | ⟨_, _, _, earlier⟩
  · rw [earlier] at read
    rw [now]
    exact read
  · rw [earlier] at read
    cases read

-----------------------------------------------------------------------------------------
-- What a request makes
-----------------------------------------------------------------------------------------

/-- The invocation that checks what a request makes. -/
def checking (config : Option String) (request : Request) : Invocation :=
  ⟨config, .check request⟩

/-- The invocation that generates what a request makes. -/
def generating (config : Option String) (request : Request) : Invocation :=
  ⟨config, .generate request⟩

/-- The file that a request's records go to: the request names it, or else the settings. -/
def Request.destination? (request : Request) (config : Option String) (store : Store)
    (around : Surroundings)
    : Option String :=
  request.output.or ((Settings.load store around config).toOption.bind Settings.path)

/-- From the document at a schema's path the request makes the code, whatever becomes of it. -/
inductive Request.Makes (request : Request) (config : Option String) (store : Store)
    (around : Surroundings)
    : String → String → Prop where
  | intro {settings : Settings} {schema : String} {document : Document}
      (loaded : Settings.load store around config = .ok settings)
      (asked : request.schema.or settings.schema = some schema)
      (read : loadDocument store around schema = .ok document)
    : Makes request config store around schema
        (generate document (request.target.getD settings.target)).code

/-- The file at the path is neither the request's schema nor at a place where settings are
looked for.
-/
def Request.KeepsApart (request : Request) (config : Option String) (store : Store)
    (around : Surroundings) (path : String)
    : Prop :=
  ∀ location,
    store.target around.directory path = .ok location
    → ¬ Searches store around config location
      ∧ ∀ schema code,
          request.Makes config store around schema code
          → store.locate around.directory schema ≠ .ok location

theorem Request.resolve_of_asked {request : Request} {settings : Settings} {schema : String}
    (asked : request.schema.or settings.schema = some schema)
    : request.resolve settings
      = .ok ⟨schema, request.output.or settings.path,
          request.target.getD settings.target⟩ := by
  unfold resolve
  rw [asked]

section

variable {request : Request} {config : Option String} {store : Store} {around : Surroundings}
  {path schema code : String}

/-- Once the settings are loaded, they name the file where the request does not. -/
theorem Request.destination?_of_load {settings : Settings}
    (loaded : Settings.load store around config = .ok settings)
    : request.destination? config store around = request.output.or settings.path := by
  unfold destination?
  rw [loaded]
  rfl

theorem Request.output_of_destination? {settings : Settings}
    (determined : request.destination? config store around = some path)
    (loaded : Settings.load store around config = .ok settings)
    : request.output.or settings.path = some path :=
  (Request.destination?_of_load loaded).symm.trans determined

-----------------------------------------------------------------------------------------
-- Checks
-----------------------------------------------------------------------------------------

theorem tellReport_code_eq_zero_iff {report : Drift.Report} {world : World}
    : (Outcome.of ((tellReport path report).perform world)).code = 0
      ↔ report.inSync = true := by
  unfold tellReport
  by_cases inSync : report.inSync = true
  · rw [if_pos inSync]
    exact ⟨fun _ => inSync, fun _ => rfl⟩
  · rw [if_neg inSync]
    exact ⟨nofun, fun sync => absurd sync inSync⟩

/-- A report on texts that are in step prints no line. -/
theorem tellReport_stdout {report : Drift.Report} {world : World}
    (inSync : report.inSync = true)
    : (Outcome.of ((tellReport path report).perform world)).stdout = world.stdout := by
  unfold tellReport
  rw [if_pos inSync]
  rfl

/-- A check compares the file with what the request makes. -/
theorem Request.Makes.run_check (makes : request.Makes config store around schema code)
    (determined : request.destination? config store around = some path)
    {stored : String} (held : store.readText around.directory path = .ok stored)
    : (checking config request).run store around
      = .of ((tellReport path (Drift.report stored code)).perform ⟨store, "", ""⟩) := by
  obtain ⟨loaded, asked, read⟩ := makes
  have output := Request.output_of_destination? determined loaded
  rw [Invocation.run_eq]
  simp only [checking, Invocation.settings, loaded, Command.run, runCheck, Action.perform_bind,
    Action.perform_look, Request.resolve_of_asked asked, Task.checked, output, Task.generate,
    read, storedText, held]

theorem Task.checked_eq_ok {task : Task} (named : task.checked = .ok path)
    : task.output = some path := by
  unfold checked at named
  cases output : task.output with
  | none =>
      rw [output] at named
      cases named
  | some found =>
      rw [output] at named
      cases named
      rfl

/-- A check that ends with the code 0 has found a file and a document to compare. -/
theorem Invocation.makes_of_check
    (succeeded : ((checking config request).run store around).code = 0)
    : ∃ path schema code stored,
        request.destination? config store around = some path
        ∧ request.Makes config store around schema code
        ∧ store.readText around.directory path = .ok stored := by
  obtain ⟨later, ended⟩ := Outcome.ok_of_code_eq_zero succeeded
  obtain ⟨settings, loaded, ended⟩ := Action.ok_of_look_bind ended
  obtain ⟨task, resolved, ended⟩ := Action.ok_of_look_bind ended
  obtain ⟨path, named, ended⟩ := Action.ok_of_look_bind ended
  obtain ⟨output, made, ended⟩ := Action.ok_of_look_bind ended
  obtain ⟨stored, held, -⟩ := Action.ok_of_look_bind ended
  have loaded := Invocation.settings_eq_ok loaded
  obtain ⟨asked, sent, -⟩ := Request.resolve_eq_ok resolved
  obtain ⟨document, read, -⟩ := Task.generate_eq_ok made
  have determined : request.destination? config store around = some path :=
    (Request.destination?_of_load loaded).trans (sent.symm.trans (Task.checked_eq_ok named))
  exact ⟨path, _, _, stored, determined, .intro loaded asked read, storedText_eq_ok held⟩

/-- A check ends with the code 0 exactly when the file holds a text with the checksum of what
the request makes.
-/
theorem Invocation.check_code_eq_zero_iff
    (determined : request.destination? config store around = some path)
    : ((checking config request).run store around).code = 0
      ↔ ∃ schema code stored,
          request.Makes config store around schema code
          ∧ store.readText around.directory path = .ok stored
          ∧ Checksum.ofText stored = Checksum.ofText code := by
  constructor
  · intro succeeded
    obtain ⟨found, schema, code, stored, named, makes, held⟩ := makes_of_check succeeded
    cases named.symm.trans determined
    rw [makes.run_check determined held, tellReport_code_eq_zero_iff,
      Drift.report_inSync_iff] at succeeded
    exact ⟨schema, code, stored, makes, held, succeeded⟩
  · rintro ⟨schema, code, stored, makes, held, same⟩
    rw [makes.run_check determined held, tellReport_code_eq_zero_iff, Drift.report_inSync_iff]
    exact same

-----------------------------------------------------------------------------------------
-- Generations
-----------------------------------------------------------------------------------------

/-- What a request makes is written to its file. -/
theorem Request.Makes.run_generate (makes : request.Makes config store around schema code)
    (determined : request.destination? config store around = some path) {written : Store}
    (wrote : store.writeText around.directory path code = .ok written)
    : ((generating config request).run store around).code = 0
      ∧ ((generating config request).run store around).store = written := by
  obtain ⟨loaded, asked, read⟩ := makes
  have output := Request.output_of_destination? determined loaded
  rw [Invocation.run_eq]
  simp only [generating, Invocation.settings, loaded, Command.run, runGenerate, Action.perform_bind,
    Action.perform_look, Request.resolve_of_asked asked, output, Task.generate, read,
    Action.perform_write, wrote]
  exact ⟨rfl, rfl⟩

/-- A generation that ends with the code 0 has made code and written it. -/
theorem Invocation.makes_of_generate
    (determined : request.destination? config store around = some path)
    (succeeded : ((generating config request).run store around).code = 0)
    : ∃ schema code written,
        request.Makes config store around schema code
        ∧ store.writeText around.directory path code = .ok written := by
  obtain ⟨later, ended⟩ := Outcome.ok_of_code_eq_zero succeeded
  obtain ⟨settings, loaded, ended⟩ := Action.ok_of_look_bind ended
  obtain ⟨task, resolved, ended⟩ := Action.ok_of_look_bind ended
  obtain ⟨output, made, ended⟩ := Action.ok_of_look_bind ended
  have loaded := Invocation.settings_eq_ok loaded
  obtain ⟨asked, sent, chosen⟩ := Request.resolve_eq_ok resolved
  obtain ⟨document, read, rfl⟩ := Task.generate_eq_ok made
  have goal : task.output = some path :=
    sent.trans (Request.output_of_destination? determined loaded)
  rw [goal] at ended
  obtain ⟨written, wrote⟩ := Action.ok_of_write_bind ended
  rw [chosen] at wrote
  exact ⟨_, _, written, .intro loaded asked read, wrote⟩

-----------------------------------------------------------------------------------------
-- One after the other
-----------------------------------------------------------------------------------------

/-- A file that is kept apart from what the request reads may be written: the request makes the
same code as before, and has the same file to write.
-/
theorem Request.Makes.after_write (makes : request.Makes config store around schema code)
    {location : Location} {written : Store} {text : String}
    (rewrites : store.Rewrites written location text)
    (free : store.node? location ≠ some .directory)
    (unsearched : ¬ Searches store around config location)
    (elsewhere : store.locate around.directory schema ≠ .ok location)
    : request.Makes config written around schema code
      ∧ request.destination? config written around
        = request.destination? config store around := by
  obtain ⟨loaded, asked, read⟩ := makes
  have loadedAgain := (Settings.load_elsewhere rewrites free unsearched _).mpr loaded
  have sameText := Store.readText_of_look (rewrites.look_sameSuccess free elsewhere)
  refine ⟨.intro loadedAgain asked ?_, ?_⟩
  · exact loadDocument_of_readText sameText read
  · unfold Request.destination?
    rw [loaded, loadedAgain]

end

/-- Where a request's file is determined, a check ends with the code 0 exactly when the request
makes code without error and the file holds a text with the same checksum. A generation ends
with the code 0 exactly when the request makes code and this can be written. After it, unless
the file is the schema or at a place where settings are looked for, a check ends with the code 0
and prints nothing, and another generation changes no file.
-/
theorem Invocation.check_agrees_with_generate (config : Option String) (request : Request)
    (store : Store) (around : Surroundings) (path : String)
    (determined : request.destination? config store around = some path)
    : (((checking config request).run store around).code = 0
        ↔ ∃ schema code stored,
            request.Makes config store around schema code
            ∧ store.readText around.directory path = .ok stored
            ∧ Checksum.ofText stored = Checksum.ofText code)
      ∧ (((generating config request).run store around).code = 0
        ↔ ∃ schema code written,
            request.Makes config store around schema code
            ∧ store.writeText around.directory path code = .ok written
            ∧ ((generating config request).run store around).store = written)
      ∧ ∀ after,
          ((generating config request).run store around).code = 0
          → ((generating config request).run store around).store = after
          → request.KeepsApart config store around path
          → ((checking config request).run after around).code = 0
            ∧ ((checking config request).run after around).stdout = ""
            ∧ ((generating config request).run after around).code = 0
            ∧ ((generating config request).run after around).store = after := by
  refine ⟨check_code_eq_zero_iff determined, ?_, ?_⟩
  · constructor
    · intro succeeded
      obtain ⟨schema, code, written, makes, wrote⟩ := makes_of_generate determined succeeded
      exact ⟨schema, code, written, makes, wrote, (makes.run_generate determined wrote).2⟩
    · rintro ⟨schema, code, written, makes, wrote, -⟩
      exact (makes.run_generate determined wrote).1
  · rintro after succeeded rfl apart
    obtain ⟨schema, code, written, makes, wrote⟩ := makes_of_generate determined succeeded
    rw [(makes.run_generate determined wrote).2]
    obtain ⟨held, location, found, rewrites⟩ := Store.writeText_eq_ok wrote
    obtain ⟨unsearched, elsewhere⟩ := apart location found
    obtain ⟨makesAgain, sameFile⟩ := makes.after_write rewrites (Store.target_free found)
      unsearched (elsewhere schema code makes)
    have determinedAgain := sameFile.trans determined
    have inSync : (Drift.report code code).inSync = true := Drift.report_inSync_iff.mpr rfl
    have checked := makesAgain.run_check determinedAgain held
    obtain ⟨again, unchanged⟩ := makesAgain.run_generate determinedAgain
      (rewrites.writeText_again found)
    refine ⟨?_, ?_, again, unchanged⟩
    · rw [checked, tellReport_code_eq_zero_iff]
      exact inSync
    · rw [checked, tellReport_stdout inSync]

/-- A shelf whose settings name the schema and the file. -/
def settledShelf : Store :=
  ⟨(["records.toml"], .file (.text "input.schema='schema.json'\noutput.path='out.rb'"))
    :: shelf.nodes⟩

/-- A request that leaves everything to the settings. -/
def openRequest : Request :=
  ⟨none, none, none⟩

theorem load_settledShelf
    : Settings.load settledShelf ⟨[], "", []⟩ none
      = .ok ⟨some "schema.json", some "out.rb", .ruby⟩ := by
  decide +kernel

theorem keepsApart_settledShelf
    : openRequest.KeepsApart none settledShelf ⟨[], "", []⟩ "out.rb" := by
  have placed : settledShelf.target [] "out.rb" = .ok ["out.rb"] := by decide +kernel
  intro location found
  cases placed.symm.trans found
  refine ⟨by decide +kernel, ?_⟩
  rintro schema code ⟨loaded, asked, _⟩
  cases load_settledShelf.symm.trans loaded
  cases asked
  decide +kernel

/-- The settings of the shelf determine the file, which is written once and then up to date. -/
theorem Invocation.check_agrees_with_generate_settledShelf
    : openRequest.destination? none settledShelf ⟨[], "", []⟩ = some "out.rb"
      ∧ ((generating none openRequest).run settledShelf ⟨[], "", []⟩).code = 0
      ∧ openRequest.KeepsApart none settledShelf ⟨[], "", []⟩ "out.rb"
      ∧ ((checking none openRequest).run
          ((generating none openRequest).run settledShelf ⟨[], "", []⟩).store
          ⟨[], "", []⟩).code = 0
      ∧ ((checking none openRequest).run
          ((generating none openRequest).run settledShelf ⟨[], "", []⟩).store
          ⟨[], "", []⟩).stdout = "" := by
  have determined : openRequest.destination? none settledShelf ⟨[], "", []⟩ = some "out.rb" := by
    unfold Request.destination?
    rw [load_settledShelf]
    rfl
  have succeeded
      : ((generating none openRequest).run settledShelf ⟨[], "", []⟩).code = 0 := by
    decide +kernel
  obtain ⟨-, -, afterwards⟩ := Invocation.check_agrees_with_generate none openRequest
    settledShelf ⟨[], "", []⟩ "out.rb" determined
  obtain ⟨upToDate, silent, -⟩ := afterwards _ succeeded rfl keepsApart_settledShelf
  exact ⟨determined, succeeded, keepsApart_settledShelf, upToDate, silent⟩

end RecordSmith
