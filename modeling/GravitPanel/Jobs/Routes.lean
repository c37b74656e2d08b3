import GravitPanel.Jobs.Runner

/-!
# Routes that create jobs

`servers.routes.ts`, `clients.routes.ts`, `mods.routes.ts`.  A handler runs
without interruption up to its next `await`; in between, other requests arrive
and go on, and the runner works on its jobs.
-/

namespace GravitPanel.Jobs

/-- `activeJobForInstallation` of `jobs.runtime.ts`. -/
def activeJobForInstallation
    (store : JobsStore) (installationId : String) : Option JobRecord :=
  (store.listByStatuses [.queued, .running]).find? fun job =>
    job.input.installationId = some installationId

/-- A part of a handler: a lookup or a test that ends the handler with an answer
(`none` is a text that is not the route's own), the check for a conflicting job,
an `await`, and the creation of a job. -/
inductive Part where
  | require (status : Nat) (message : Option String)
  | conflictFor (message : String)
  | await
  | create (type : String)
  | enqueue (type : String)
  deriving DecidableEq, Repr

def findInstallation : Part :=
  .require 404 (some "LauncherDockered installation not found.")

def findBinding : Part :=
  .require 404 (some "Managed server binding not found.")

def serverConflict : Part :=
  .conflictFor "Another server operation is active."

def profileConflict : Part :=
  .conflictFor "Another profile operation is active."

def clientConflict : Part :=
  .conflictFor "Another client operation is active."

/-- A client route without an `await`. -/
def clientRoute (type : String) : List Part :=
  [findInstallation, clientConflict, .create type]

/-- A mod route; it enqueues its job without a check for conflicts. -/
def modRoute (type : String) : List Part :=
  [findInstallation, .enqueue type]

inductive Route where
  | createBinding
  | saveFile
  | uploadFile
  | fileOperation
  | updateBinding
  | removeBinding
  | prepareBootstrap
  | command
  | updateProfile
  | removeProfile
  | updateProfileJava
  | installJava
  | installTemurin
  | removeJava
  | javaSettings
  | applyWorkspace
  | installPrestarter
  | buildLauncher
  | restartLaunchServer
  | customizeLauncher (logo background favicon : Bool)
  | buildClient
  | installMods
  | installServerMods
  | updateOptionalMod
  | removeOptionalMod
  | importModpack
  | importLocalModpack
  | bulkMods
  | toggleMod
  | removeMod
  | updateMod
  deriving DecidableEq, Repr

/-- The handler of a route, in the order of its statements. -/
def Route.parts : Route → List Part
  | .createBinding =>
      [findInstallation, profileConflict,
        .require 409
          (some "A managed server with this name already exists."),
        .create "gravit.server.binding.apply"]
  | .saveFile =>
      [findBinding, serverConflict,
        .require 422 (some "Live editor supports files up to 512 KiB."),
        .create "gravit.server.files.modify"]
  | .uploadFile =>
      [findBinding, serverConflict, .await,
        .require 422
          (some "Live uploads currently support files up to 256 MiB."),
        .create "gravit.server.files.modify"]
  | .fileOperation =>
      [findBinding, serverConflict, .create "gravit.server.files.modify"]
  | .updateBinding =>
      [findInstallation, profileConflict, findBinding,
        .create "gravit.server.binding.apply"]
  | .removeBinding =>
      [findInstallation, profileConflict,
        .create "gravit.server.binding.remove"]
  | .prepareBootstrap =>
      -- `agentArtifactsReadiness` awaits two `stat` calls.
      [findInstallation, serverConflict, .await, .require 409 none, .await,
        .require 409 none, .require 500 none,
        .create "gravit.server-bootstrap.prepare"]
  | .command =>
      -- `console.execute` is answered with a command and creates no job.
      [findInstallation, findBinding, .require 202 none,
        .require 409 (some "Host agent is offline."), serverConflict,
        .create "gravit.server.service"]
  | .updateProfile => clientRoute "gravit.profile.update"
  | .removeProfile => clientRoute "gravit.profile.remove"
  | .updateProfileJava => clientRoute "gravit.profile.java.update"
  | .installJava =>
      [findInstallation, clientConflict, .await,
        .create "gravit.java.install"]
  | .installTemurin => clientRoute "gravit.java.temurin.install"
  | .removeJava => clientRoute "gravit.java.remove"
  | .javaSettings => clientRoute "gravit.java.settings"
  | .applyWorkspace => clientRoute "gravit.workspace.apply"
  | .installPrestarter => clientRoute "gravit.prestarter.install"
  | .buildLauncher => clientRoute "gravit.launcher.build"
  | .restartLaunchServer => clientRoute "gravit.launchserver.restart"
  | .customizeLauncher logo background favicon =>
      [findInstallation, clientConflict] ++
        ([logo, background, favicon].filter fun sent => sent).map
          (fun _ => .await) ++
        [.create "gravit.launcher.customize"]
  | .buildClient => clientRoute "gravit.client.build"
  | .installMods => modRoute "gravit.mods.install"
  | .installServerMods => modRoute "gravit.mods.server.install"
  | .updateOptionalMod => modRoute "gravit.mods.optional.update"
  | .removeOptionalMod => modRoute "gravit.mods.optional.remove"
  | .importModpack => modRoute "gravit.mods.modpack.import"
  | .importLocalModpack =>
      [findInstallation, .await, .enqueue "gravit.mods.modpack.import"]
  | .bulkMods =>
      [findInstallation,
        .require 422 (some "Bulk removal requires explicit confirmation."),
        .require 422
          (some "Bulk update requires Minecraft version and loader."),
        .enqueue "gravit.mods.bulk"]
  | .toggleMod => modRoute "gravit.mods.toggle"
  | .removeMod => modRoute "gravit.mods.remove"
  | .updateMod => modRoute "gravit.mods.update"

/-- What a request brings: the installation it names, the rest of its body, the
text for its job, and the id that its job will get. -/
structure RequestBody where
  installationId : String
  fields : String
  queuedMessage : String
  jobId : String
  deriving DecidableEq, Repr

def RequestBody.input (body : RequestBody) : JobInput :=
  ⟨some body.installationId, body.fields⟩

/-- A handler that awaits, with the parts that it has still to run. -/
structure Request where
  body : RequestBody
  rest : List Part
  deriving DecidableEq, Repr

inductive PanelOutput where
  | answered (status : Nat) (message : Option String)
  | created (guarded : Bool) (installationId jobId : String)
  deriving DecidableEq, Repr

/-- What a handler leaves at its end or at an `await`. -/
structure Served where
  runner : JobsRunner
  waiting : Option Request
  outputs : List PanelOutput

/-- The creation of a job, as an event of the runner. -/
def RequestBody.creation
    (body : RequestBody) (guarded : Bool) (type : String) : JobsAction :=
  if guarded then
    .create body.jobId type body.input body.queuedMessage
  else
    .createQueued ("mods:" ++ body.installationId) body.jobId type body.input
      body.queuedMessage

def createJob
    (body : RequestBody) (guarded : Bool) (type now : String)
    (runner : JobsRunner) : Option Served :=
  match step runner ⟨body.creation guarded type, now, ⟨[], []⟩⟩ with
  | none => none
  | some (next, _) =>
      some ⟨next, none,
        [.created guarded body.installationId body.jobId,
          .answered 202 (some body.queuedMessage)]⟩

/-- Run a handler up to its next `await`.  The tests that do not look at the
jobs take their results from `answers`; a test beyond the list holds. -/
def serve
    (body : RequestBody) (now : String) (parts : List Part)
    (answers : List Bool) (runner : JobsRunner) : Option Served :=
  match parts with
  | [] => some ⟨runner, none, []⟩
  | .require status message :: rest =>
      if answers.head? = some false then
        some ⟨runner, none, [.answered status message]⟩
      else
        serve body now rest answers.tail runner
  | .conflictFor message :: rest =>
      if (activeJobForInstallation runner.store body.installationId).isSome
      then
        some ⟨runner, none, [.answered 409 (some message)]⟩
      else
        serve body now rest answers runner
  | .await :: rest => some ⟨runner, some ⟨body, rest⟩, []⟩
  | .create type :: _ => createJob body true type now runner
  | .enqueue type :: _ => createJob body false type now runner

structure Panel where
  runner : JobsRunner
  requests : List Request

inductive PanelAction where
  | request (route : Route) (body : RequestBody)
  | resume (index : Nat)
  | jobs (action : JobsAction)
  deriving DecidableEq, Repr

structure PanelEvent where
  action : PanelAction
  now : String
  answers : List Bool
  deriving DecidableEq, Repr

/-- A request arrives, a handler goes on after its `await`, or the runner does
something; a restart ends all handlers. -/
def panelStep (panel : Panel) (event : PanelEvent) :
    Option (Panel × List PanelOutput) :=
  match event.action with
  | .request route body =>
      (serve body event.now route.parts event.answers panel.runner).map
        fun served =>
          (⟨served.runner, panel.requests ++ served.waiting.toList⟩,
            served.outputs)
  | .resume index =>
      match panel.requests[index]? with
      | none => none
      | some request =>
          (serve request.body event.now request.rest event.answers
            panel.runner).map fun served =>
              (⟨served.runner, panel.requests.eraseIdx index ++
                served.waiting.toList⟩, served.outputs)
  | .jobs action =>
      (step panel.runner ⟨action, event.now, ⟨[], []⟩⟩).map fun result =>
        (⟨result.1, if action = .restart then [] else panel.requests⟩, [])

def Panel.start (now : String) : Panel :=
  ⟨JobsRunner.new JobsStore.empty now, []⟩

end GravitPanel.Jobs
