import GravitPanel.Core.Execution

/-!
# Deployments of the panel

`deploy` of `self-update.service.ts`.  A call checks the time of the last
deployment, sends a request to Coolify and waits for the answer and then for
its body; other calls run while it waits.  Coolify decides on a request at
some time after it was sent, whatever becomes of the answer.
-/

namespace GravitPanel.SelfUpdate

open GravitPanel.Execution

/-- The part of the configuration that deployments need. -/
structure SelfUpdateConfig where
  coolifyApiUrl : Option String
  coolifyApiToken : Option String
  coolifyApplicationUuid : Option String
  deriving DecidableEq, Repr

/-- A parsed URL; `beginning` is the text before its path. -/
structure CoolifyUrl where
  protocol : String
  hostname : String
  beginning : String
  pathname : String
  deriving DecidableEq, Repr

inductive DeployError where
  | unavailable (message : String)
  | conflict (message : String)
  | failed (message : String)
  deriving DecidableEq, Repr

structure CoolifyDeployment where
  message : Option String
  deploymentUuid : Option String
  resourceUuid : Option String
  deriving DecidableEq, Repr

structure PanelUpdateDeployResult where
  accepted : Bool
  deploymentUuid : Option String
  message : String
  deriving DecidableEq, Repr

def deployCooldownMs : Nat := 60000

/-- A text that is there and not empty. -/
def isSet (value : Option String) : Bool :=
  value.any (· ≠ "")

def deployConfigured (config : SelfUpdateConfig) : Bool :=
  isSet config.coolifyApiUrl && isSet config.coolifyApiToken &&
    isSet config.coolifyApplicationUuid

def withoutLastSlashes (text : String) : String :=
  String.ofList (text.toList.reverse.dropWhile (· = '/')).reverse

/-- The address of the API; `parse` is the URL parser. -/
def coolifyEndpoint (parse : String → Option CoolifyUrl)
    (config : SelfUpdateConfig) : Except DeployError String :=
  match parse (config.coolifyApiUrl.getD "") with
  | none => .error (.failed "Invalid URL")
  | some url =>
      if url.protocol ≠ "https:" ∧
          ¬ (url.protocol = "http:" ∧
            url.hostname ∈ ["localhost", "127.0.0.1"]) then
        .error (.unavailable "COOLIFY_API_URL must use HTTPS.")
      else
        let basePath := withoutLastSlashes url.pathname
        .ok (url.beginning ++
          if "/api/v1".toList.isSuffixOf basePath.toList then basePath
          else basePath ++ "/api/v1")

/-- `response.ok`. -/
def isOk (status : Nat) : Bool :=
  200 ≤ status && status ≤ 299

/-- The deployment of the application in an answer, else the first one. -/
def chosenDeployment (config : SelfUpdateConfig)
    (deployments : List CoolifyDeployment) : Option CoolifyDeployment :=
  (deployments.find? fun item =>
    item.resourceUuid = config.coolifyApplicationUuid).or deployments.head?

def deployResult (config : SelfUpdateConfig)
    (payload : Option (List CoolifyDeployment)) : PanelUpdateDeployResult :=
  let deployment := chosenDeployment config (payload.getD [])
  { accepted := true,
    deploymentUuid := deployment.bind CoolifyDeployment.deploymentUuid,
    message := (deployment.bind CoolifyDeployment.message).getD
      "Panel deployment queued." }

/-- What Coolify made of a request. -/
inductive Fate where
  | pending
  | accepted (time : Nat)
  | refused
  deriving DecidableEq, Repr

inductive Waiting where
  | response
  | body (status : Nat)
  | nothing
  deriving DecidableEq, Repr

structure DeployRequest where
  sentAt : Nat
  fate : Fate
  waiting : Waiting
  /-- The call has stored the time of this deployment. -/
  recorded : Bool
  deriving DecidableEq, Repr

/-- The service with the requests of its calls, and the time. -/
structure SelfUpdateState where
  lastDeployAt : Nat
  clock : Nat
  requests : Nat → Option DeployRequest

inductive DeployEvent where
  /-- A new call. -/
  | deploy (call now : Nat)
  /-- Coolify accepts or refuses the request of a call. -/
  | accept (call now : Nat)
  | refuse (call : Nat)
  /-- `fetch` throws, or it yields an answer with a status. -/
  | respond (call : Nat) (response : Except String Nat)
  /-- The body of the answer is there; it is `none` when it is no JSON. -/
  | read (call now : Nat) (payload : Option (List CoolifyDeployment))

inductive DeployOutput where
  | sent (call : Nat) (endpoint : String)
  | accepted (call time : Nat)
  | settled (call : Nat) (result : Except DeployError PanelUpdateDeployResult)

def setRequest (call : Nat) (request : DeployRequest)
    (state : SelfUpdateState) : SelfUpdateState :=
  { state with
    requests := fun other =>
      if other = call then some request else state.requests other }

section Service

variable (parse : String → Option CoolifyUrl) (config : SelfUpdateConfig)

/-- The checks of a call before it sends its request. -/
def checkDeploy (now : Nat) (state : SelfUpdateState) :
    Except DeployError String :=
  if ¬ deployConfigured config then
    .error (.unavailable "Coolify self-update is not configured.")
  else if now - state.lastDeployAt < deployCooldownMs then
    .error (.conflict "A panel deployment was requested recently.")
  else
    (coolifyEndpoint parse config).map (· ++ "/deploy")

def startDeploy (call now : Nat) (state : SelfUpdateState) :
    SelfUpdateState × List DeployOutput :=
  let current := { state with clock := now }
  match checkDeploy parse config now state with
  | .error problem => (current, [.settled call (.error problem)])
  | .ok endpoint =>
      (setRequest call ⟨now, .pending, .response, false⟩ current,
        [.sent call endpoint])

/-- A call goes on with the answer's status. -/
def receiveResponse (call : Nat) (request : DeployRequest)
    (response : Except String Nat) (state : SelfUpdateState) :
    SelfUpdateState × List DeployOutput :=
  match response with
  | .error problem =>
      (setRequest call { request with waiting := .nothing } state,
        [.settled call (.error (.failed problem))])
  | .ok status =>
      (setRequest call { request with waiting := .body status } state, [])

/-- A call goes on with the body of an answer. -/
def receiveBody (call now status : Nat) (request : DeployRequest)
    (payload : Option (List CoolifyDeployment)) (state : SelfUpdateState) :
    SelfUpdateState × List DeployOutput :=
  let current := { state with clock := now }
  if ¬ isOk status then
    (setRequest call { request with waiting := .nothing } current,
      [.settled call (.error (.failed
        ("Coolify rejected panel deployment with HTTP " ++
          toString status ++ ".")))])
  else
    (setRequest call { request with waiting := .nothing, recorded := true }
        { current with lastDeployAt := now },
      [.settled call (.ok (deployResult config payload))])

/-- One step of the service, its calls and Coolify.  Time does not run
backwards, and only an accepted request is answered with success. -/
def deployStep (state : SelfUpdateState) :
    DeployEvent → Option (SelfUpdateState × List DeployOutput)
  | .deploy call now =>
      if now < state.clock ∨ (state.requests call).isSome then none
      else some (startDeploy parse config call now state)
  | .accept call now =>
      if now < state.clock then none
      else
        match state.requests call with
        | some request =>
            if request.fate = .pending then
              some (setRequest call { request with fate := .accepted now }
                { state with clock := now }, [.accepted call now])
            else none
        | none => none
  | .refuse call =>
      match state.requests call with
      | some request =>
          if request.fate = .pending then
            some (setRequest call { request with fate := .refused } state, [])
          else none
      | none => none
  | .respond call response =>
      match state.requests call with
      | some request =>
          if request.waiting = .response ∧
              (response.toOption.any isOk →
                request.fate ≠ .pending ∧ request.fate ≠ .refused) then
            some (receiveResponse call request response state)
          else none
      | none => none
  | .read call now payload =>
      if now < state.clock then none
      else
        match state.requests call with
        | some request =>
            match request.waiting with
            | .body status =>
                some (receiveBody config call now status request payload state)
            | _ => none
        | none => none

end Service

end GravitPanel.SelfUpdate
