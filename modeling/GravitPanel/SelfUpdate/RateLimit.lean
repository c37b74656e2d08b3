import GravitPanel.SelfUpdate.Deploy

/-!
# One deployment in a minute

As long as a call sends its request only when the earlier ones are closed, no
two requests are accepted within the cooldown.
-/

namespace GravitPanel.SelfUpdate

open GravitPanel.Execution

def acceptedTimes (outputs : List DeployOutput) : List Nat :=
  outputs.filterMap fun output =>
    match output with
    | .accepted _ time => some time
    | _ => none

/-- At most one request is accepted in any window of the cooldown's length. -/
def RateLimited (times : List Nat) : Prop :=
  ∀ start,
    (times.filter fun time =>
      start ≤ time && time < start + deployCooldownMs).length ≤ 1

/-- A request that was refused, that was accepted and recorded by its call, or
that was accepted long enough ago. -/
def Closed (now : Nat) (request : DeployRequest) : Prop :=
  request.fate = .refused ∨
    ∃ time,
      request.fate = .accepted time ∧
        (request.recorded = true ∨ time + deployCooldownMs ≤ now)

/-- A call that sends its request finds the earlier requests closed. -/
def SendsAlone (parse : String → Option CoolifyUrl)
    (config : SelfUpdateConfig) (state : SelfUpdateState)
    (event : DeployEvent) : Prop :=
  match event with
  | .deploy _ now =>
      ∀ endpoint, checkDeploy parse config now state = .ok endpoint →
        ∀ call request, state.requests call = some request →
          Closed now request
  | _ => True

/-- A service without calls. -/
def idle (clock : Nat) : SelfUpdateState :=
  ⟨0, clock, fun _ => none⟩

/-- Accepted requests keep their distance. -/
def Apart (times : List Nat) : Prop :=
  times.Pairwise fun earlier later => earlier + deployCooldownMs ≤ later

/-- What holds of a request, given the times that were accepted so far. -/
structure Sound (clock lastDeployAt : Nat) (times : List Nat)
    (request : DeployRequest) : Prop where
  sent : request.sentAt ≤ clock
  clear :
    request.fate = .pending →
      ∀ time ∈ times, time + deployCooldownMs ≤ request.sentAt
  past : ∀ time, request.fate = .accepted time → time ≤ clock
  stored :
    request.recorded = true →
      ∃ time, request.fate = .accepted time ∧ time ≤ lastDeployAt
  success :
    ∀ status, request.waiting = .body status → isOk status = true →
      ∃ time, request.fate = .accepted time

structure Spaced (state : SelfUpdateState) (times : List Nat) : Prop where
  apart : Apart times
  known :
    ∀ time ∈ times, ∃ call request,
      state.requests call = some request ∧ request.fate = .accepted time
  alone :
    ∀ call other request another,
      state.requests call = some request →
      state.requests other = some another →
      request.fate = .pending → another.fate = .pending → call = other
  sound :
    ∀ call request, state.requests call = some request →
      Sound state.clock state.lastDeployAt times request
  order : state.lastDeployAt ≤ state.clock

theorem Sound.later {clock next last stored : Nat} {times : List Nat}
    {request : DeployRequest} (sound : Sound clock last times request)
    (time : clock ≤ next) (record : last ≤ stored) :
    Sound next stored times request where
  sent := Nat.le_trans sound.sent time
  clear := sound.clear
  past := fun moment fate => Nat.le_trans (sound.past moment fate) time
  stored := fun recorded => by
    obtain ⟨moment, fate, before⟩ := sound.stored recorded
    exact ⟨moment, fate, Nat.le_trans before record⟩
  success := sound.success

theorem setRequest_self (call : Nat) (request : DeployRequest)
    (state : SelfUpdateState) :
    (setRequest call request state).requests call = some request :=
  if_pos rfl

theorem setRequest_of_ne {call other : Nat} (different : other ≠ call)
    (request : DeployRequest) (state : SelfUpdateState) :
    (setRequest call request state).requests other = state.requests other :=
  if_neg different

theorem setRequest_cases {call other : Nat} {request another : DeployRequest}
    {state : SelfUpdateState}
    (found : (setRequest call request state).requests other = some another) :
    other = call ∧ another = request ∨
      other ≠ call ∧ state.requests other = some another := by
  by_cases same : other = call
  · subst same
    rw [setRequest_self] at found
    exact Or.inl ⟨rfl, (Option.some.inj found).symm⟩
  · rw [setRequest_of_ne same] at found
    exact Or.inr ⟨same, found⟩

section Steps

variable {state : SelfUpdateState} {times : List Nat}

theorem spaced_idle (clock : Nat) : Spaced (idle clock) [] where
  apart := List.Pairwise.nil
  known := by
    intro time member
    cases member
  alone := by
    intro call other request another found
    cases found
  sound := by
    intro call request found
    cases found
  order := Nat.zero_le _

theorem Spaced.later (spaced : Spaced state times) {now : Nat}
    (time : state.clock ≤ now) :
    Spaced { state with clock := now } times where
  apart := spaced.apart
  known := spaced.known
  alone := spaced.alone
  sound := fun call request found =>
    (spaced.sound call request found).later time (Nat.le_refl _)
  order := Nat.le_trans spaced.order time

theorem Spaced.record (spaced : Spaced state times) :
    Spaced { state with lastDeployAt := state.clock } times where
  apart := spaced.apart
  known := spaced.known
  alone := spaced.alone
  sound := fun call request found =>
    (spaced.sound call request found).later (Nat.le_refl _) spaced.order
  order := Nat.le_refl _

theorem Spaced.update (spaced : Spaced state times) {call : Nat}
    {request next : DeployRequest} (found : state.requests call = some request)
    (fate : next.fate = request.fate)
    (sound : Sound state.clock state.lastDeployAt times next) :
    Spaced (setRequest call next state) times where
  apart := spaced.apart
  known := by
    intro time member
    obtain ⟨other, another, place, accepted⟩ := spaced.known time member
    by_cases same : other = call
    · subst same
      rw [found] at place
      cases place
      exact ⟨other, next, setRequest_self _ _ _, fate.trans accepted⟩
    · exact ⟨other, another,
        (setRequest_of_ne same _ _).trans place, accepted⟩
  alone := by
    intro first second one two foundOne foundTwo pendingOne pendingTwo
    rcases setRequest_cases foundOne with ⟨rfl, rfl⟩ | ⟨_, oldOne⟩ <;>
      rcases setRequest_cases foundTwo with ⟨rfl, rfl⟩ | ⟨_, oldTwo⟩
    · rfl
    · exact spaced.alone first second request two found oldTwo
        (fate ▸ pendingOne) pendingTwo
    · exact spaced.alone first second one request oldOne found
        pendingOne (fate ▸ pendingTwo)
    · exact spaced.alone first second one two oldOne oldTwo
        pendingOne pendingTwo
  sound := by
    intro other another place
    rcases setRequest_cases place with ⟨rfl, rfl⟩ | ⟨_, old⟩
    · exact sound
    · exact spaced.sound other another old
  order := spaced.order

theorem Spaced.refuse (spaced : Spaced state times) {call : Nat}
    {request : DeployRequest} (found : state.requests call = some request)
    (pending : request.fate = .pending) :
    Spaced (setRequest call { request with fate := .refused } state)
      times where
  apart := spaced.apart
  known := by
    intro time member
    obtain ⟨other, another, place, accepted⟩ := spaced.known time member
    have different : other ≠ call := by
      rintro rfl
      rw [found] at place
      cases place
      rw [pending] at accepted
      cases accepted
    exact ⟨other, another,
      (setRequest_of_ne different _ _).trans place, accepted⟩
  alone := by
    intro first second one two foundOne foundTwo pendingOne pendingTwo
    rcases setRequest_cases foundOne with ⟨_, rfl⟩ | ⟨_, oldOne⟩
    · cases pendingOne
    · rcases setRequest_cases foundTwo with ⟨_, rfl⟩ | ⟨_, oldTwo⟩
      · cases pendingTwo
      · exact spaced.alone first second one two oldOne oldTwo
          pendingOne pendingTwo
  sound := by
    intro other another place
    rcases setRequest_cases place with ⟨rfl, rfl⟩ | ⟨_, old⟩
    · have before := spaced.sound other request found
      refine ⟨before.sent, ?_, ?_, ?_, ?_⟩
      · intro fate
        cases fate
      · intro time fate
        cases fate
      · intro recorded
        obtain ⟨time, fate, _⟩ := before.stored recorded
        rw [pending] at fate
        cases fate
      · intro status body success
        obtain ⟨time, fate⟩ := before.success status body success
        rw [pending] at fate
        cases fate
    · exact spaced.sound other another old
  order := spaced.order

theorem Spaced.accept (spaced : Spaced state times) {call now : Nat}
    {request : DeployRequest} (found : state.requests call = some request)
    (pending : request.fate = .pending) (time : state.clock ≤ now) :
    Spaced
      (setRequest call { request with fate := .accepted now }
        { state with clock := now })
      (times ++ [now]) := by
  have before := spaced.sound call request found
  have distant : ∀ moment ∈ times, moment + deployCooldownMs ≤ now := by
    intro moment member
    exact Nat.le_trans (before.clear pending moment member)
      (Nat.le_trans before.sent time)
  have others :
      ∀ other another, other ≠ call → state.requests other = some another →
        another.fate ≠ .pending := by
    intro other another different place waits
    exact different
      (spaced.alone other call another request place found waits pending)
  refine ⟨?_, ?_, ?_, ?_, ?_⟩
  · refine List.pairwise_append.mpr
      ⟨spaced.apart, List.pairwise_singleton _ _, ?_⟩
    intro earlier member later last
    rw [List.mem_singleton.mp last]
    exact distant earlier member
  · intro moment member
    rcases List.mem_append.mp member with member | member
    · obtain ⟨other, another, place, accepted⟩ := spaced.known moment member
      have different : other ≠ call := by
        rintro rfl
        rw [found] at place
        cases place
        rw [pending] at accepted
        cases accepted
      exact ⟨other, another,
        (setRequest_of_ne different _ _).trans place, accepted⟩
    · rw [List.mem_singleton.mp member]
      exact ⟨call, _, setRequest_self _ _ _, rfl⟩
  · intro first second one two foundOne foundTwo pendingOne _
    rcases setRequest_cases foundOne with ⟨_, rfl⟩ | ⟨different, oldOne⟩
    · cases pendingOne
    · exact absurd pendingOne (others first one different oldOne)
  · intro other another place
    rcases setRequest_cases place with ⟨rfl, rfl⟩ | ⟨different, old⟩
    · refine ⟨Nat.le_trans before.sent time, ?_, ?_, ?_, ?_⟩
      · intro fate
        cases fate
      · intro moment fate
        cases fate
        exact Nat.le_refl _
      · intro recorded
        obtain ⟨moment, fate, _⟩ := before.stored recorded
        rw [pending] at fate
        cases fate
      · intro status _ _
        exact ⟨now, rfl⟩
    · have sound := (spaced.sound other another old).later time (Nat.le_refl _)
      refine ⟨sound.sent, ?_, sound.past, sound.stored, sound.success⟩
      intro waits
      exact absurd waits (others other another different old)
  · exact Nat.le_trans spaced.order time

theorem Spaced.send (spaced : Spaced state times) {call now : Nat}
    (fresh : state.requests call = none) (time : state.clock ≤ now)
    (cooled : state.lastDeployAt + deployCooldownMs ≤ now)
    (closed : ∀ other request, state.requests other = some request →
      Closed now request) :
    Spaced
      (setRequest call ⟨now, .pending, .response, false⟩
        { state with clock := now }) times := by
  have settled :
      ∀ other another, state.requests other = some another →
        another.fate ≠ .pending := by
    intro other another place waits
    rcases closed other another place with refused | ⟨moment, accepted, _⟩
    · rw [waits] at refused
      cases refused
    · rw [waits] at accepted
      cases accepted
  refine ⟨spaced.apart, ?_, ?_, ?_, ?_⟩
  · intro moment member
    obtain ⟨other, another, place, accepted⟩ := spaced.known moment member
    have different : other ≠ call := by
      rintro rfl
      rw [fresh] at place
      cases place
    exact ⟨other, another,
      (setRequest_of_ne different _ _).trans place, accepted⟩
  · intro first second one two foundOne foundTwo pendingOne pendingTwo
    rcases setRequest_cases foundOne with ⟨same, _⟩ | ⟨_, oldOne⟩
    · rcases setRequest_cases foundTwo with ⟨also, _⟩ | ⟨_, oldTwo⟩
      · rw [same, also]
      · exact absurd pendingTwo (settled second two oldTwo)
    · exact absurd pendingOne (settled first one oldOne)
  · intro other another place
    rcases setRequest_cases place with ⟨_, rfl⟩ | ⟨_, old⟩
    · refine ⟨Nat.le_refl _, ?_, ?_, ?_, ?_⟩
      · -- a stored time is before the cooldown, the others are long ago
        intro _ moment member
        obtain ⟨first, request, origin, accepted⟩ :=
          spaced.known moment member
        rcases closed first request origin with
          refused | ⟨decided, fate, done⟩
        · rw [accepted] at refused
          cases refused
        · rw [accepted] at fate
          cases fate
          rcases done with recorded | long
          · obtain ⟨decided, fate, before⟩ :=
              (spaced.sound first request origin).stored recorded
            rw [accepted] at fate
            cases fate
            exact Nat.le_trans (Nat.add_le_add_right before _) cooled
          · exact long
      · intro moment fate
        cases fate
      · intro recorded
        cases recorded
      · intro status body
        cases body
    · exact (spaced.sound other another old).later time (Nat.le_refl _)
  · exact Nat.le_trans spaced.order time

end Steps

theorem acceptedTimes_append (first second : List DeployOutput) :
    acceptedTimes (first ++ second) =
      acceptedTimes first ++ acceptedTimes second :=
  List.filterMap_append

section Runs

variable {parse : String → Option CoolifyUrl} {config : SelfUpdateConfig}

theorem cooled_of_checkDeploy {now : Nat} {state : SelfUpdateState}
    {endpoint : String}
    (passes : checkDeploy parse config now state = .ok endpoint)
    (order : state.lastDeployAt ≤ now) :
    state.lastDeployAt + deployCooldownMs ≤ now := by
  rw [checkDeploy] at passes
  by_cases configured : deployConfigured config = true
  · rw [if_neg (not_not_intro configured)] at passes
    by_cases recent : now - state.lastDeployAt < deployCooldownMs
    · rw [if_pos recent] at passes
      cases passes
    · omega
  · rw [if_pos configured] at passes
    cases passes

theorem spaced_step {state next : SelfUpdateState} {event : DeployEvent}
    {past now : List DeployOutput}
    (spaced : Spaced state (acceptedTimes past))
    (condition : SendsAlone parse config state event)
    (step : deployStep parse config state event = some (next, now)) :
    Spaced next (acceptedTimes (past ++ now)) := by
  rw [acceptedTimes_append]
  cases event with
  | deploy call moment =>
      rw [deployStep] at step
      by_cases late : moment < state.clock ∨ (state.requests call).isSome
      · rw [if_pos late] at step
        cases step
      · rw [if_neg late, Option.some.injEq, startDeploy] at step
        have time : state.clock ≤ moment := by omega
        have fresh : state.requests call = none := by
          rw [← Option.not_isSome_iff_eq_none]
          exact fun present => late (Or.inr present)
        cases checked : checkDeploy parse config moment state with
        | error problem =>
            rw [checked] at step
            cases step
            exact (List.append_nil (acceptedTimes past)).symm ▸
              spaced.later time
        | ok endpoint =>
            rw [checked] at step
            cases step
            have cooled :=
              cooled_of_checkDeploy checked (Nat.le_trans spaced.order time)
            exact (List.append_nil (acceptedTimes past)).symm ▸
              spaced.send fresh time cooled (condition endpoint checked)
  | accept call moment =>
      rw [deployStep] at step
      by_cases late : moment < state.clock
      · rw [if_pos late] at step
        cases step
      · rw [if_neg late] at step
        cases found : state.requests call with
        | none =>
            rw [found] at step
            cases step
        | some request =>
            rw [found] at step
            by_cases pending : request.fate = .pending
            · simp only [if_pos pending, Option.some.injEq] at step
              cases step
              exact spaced.accept found pending (Nat.le_of_not_lt late)
            · simp only [if_neg pending] at step
              cases step
  | refuse call =>
      rw [deployStep] at step
      cases found : state.requests call with
      | none =>
          rw [found] at step
          cases step
      | some request =>
          rw [found] at step
          by_cases pending : request.fate = .pending
          · simp only [if_pos pending, Option.some.injEq] at step
            cases step
            exact (List.append_nil (acceptedTimes past)).symm ▸
              spaced.refuse found pending
          · simp only [if_neg pending] at step
            cases step
  | respond call response =>
      rw [deployStep] at step
      cases found : state.requests call with
      | none =>
          rw [found] at step
          cases step
      | some request =>
          rw [found] at step
          by_cases enabled :
              request.waiting = .response ∧
                (response.toOption.any isOk →
                  request.fate ≠ .pending ∧ request.fate ≠ .refused)
          · simp only [if_pos enabled, Option.some.injEq] at step
            have before := spaced.sound call request found
            cases response with
            | error problem =>
                cases step
                refine (List.append_nil (acceptedTimes past)).symm ▸
                  spaced.update found rfl ?_
                refine ⟨before.sent, before.clear, before.past,
                  before.stored, ?_⟩
                intro status body
                cases body
            | ok answer =>
                cases step
                refine (List.append_nil (acceptedTimes past)).symm ▸
                  spaced.update found rfl ?_
                refine ⟨before.sent, before.clear, before.past,
                  before.stored, ?_⟩
                intro status body success
                cases body
                obtain ⟨decided, allowed⟩ := enabled.2 success
                cases fate : request.fate with
                | pending => exact absurd fate decided
                | refused => exact absurd fate allowed
                | accepted time => exact ⟨time, rfl⟩
          · simp only [if_neg enabled] at step
            cases step
  | read call moment payload =>
      rw [deployStep] at step
      by_cases late : moment < state.clock
      · rw [if_pos late] at step
        cases step
      · rw [if_neg late] at step
        have time := Nat.le_of_not_lt late
        cases found : state.requests call with
        | none =>
            rw [found] at step
            cases step
        | some request =>
            rw [found] at step
            cases waits : request.waiting with
            | response =>
                simp only [waits] at step
                cases step
            | nothing =>
                simp only [waits] at step
                cases step
            | body status =>
                simp only [waits, Option.some.injEq, receiveBody] at step
                have later := spaced.later time
                have before := later.sound call request found
                by_cases success : isOk status = true
                · rw [if_neg (not_not_intro success)] at step
                  cases step
                  obtain ⟨decided, fate⟩ :=
                    before.success status waits success
                  refine (List.append_nil (acceptedTimes past)).symm ▸
                    later.record.update found rfl ?_
                  refine ⟨before.sent, before.clear, before.past, ?_, ?_⟩
                  · intro _
                    exact ⟨decided, fate, before.past decided fate⟩
                  · intro other body
                    cases body
                · rw [if_pos success] at step
                  cases step
                  refine (List.append_nil (acceptedTimes past)).symm ▸
                    later.update found rfl ?_
                  refine ⟨before.sent, before.clear, before.past,
                    before.stored, ?_⟩
                  intro other body
                  cases body

end Runs

theorem rateLimited_of_apart {times : List Nat} (apart : Apart times) :
    RateLimited times := by
  intro start
  induction times with
  | nil => exact Nat.zero_le _
  | cons time rest ih =>
      obtain ⟨first, others⟩ := List.pairwise_cons.mp apart
      by_cases inside : (start ≤ time && time < start + deployCooldownMs) =
          true
      · have outside :
            rest.filter (fun later =>
              start ≤ later && later < start + deployCooldownMs) = [] := by
          refine List.filter_eq_nil_iff.mpr fun later member both => ?_
          have distance := first later member
          simp only [Bool.and_eq_true, decide_eq_true_eq] at inside both
          omega
        rw [List.filter_cons, if_pos inside, outside]
        exact Nat.le_refl _
      · rw [List.filter_cons, if_neg inside]
        exact ih others

/-- If every call sends its request alone, at most one deployment is accepted
in any minute. -/
theorem deployments_limited (parse : String → Option CoolifyUrl)
    (config : SelfUpdateConfig) (clock : Nat) (events : List DeployEvent)
    (final : SelfUpdateState) (outputs : List DeployOutput)
    (alone :
      Meets (deployStep parse config) (SendsAlone parse config) (idle clock)
        events)
    (run :
      execute (deployStep parse config) (idle clock) events =
        some (final, outputs)) :
    RateLimited (acceptedTimes outputs) := by
  have spaced : Spaced final (acceptedTimes outputs) :=
    execute_induction_of_meets
      (motive := fun state past => Spaced state (acceptedTimes past))
      (fun state past event next now spaced condition step =>
        spaced_step spaced condition step)
      (spaced_idle clock) alone run
  exact rateLimited_of_apart spaced.apart

def configuredPanel : SelfUpdateConfig where
  coolifyApiUrl := some "https://coolify.example.com"
  coolifyApiToken := some "token"
  coolifyApplicationUuid := some "panel"

/-- The parser on the address of `configuredPanel`. -/
def parseCoolify (text : String) : Option CoolifyUrl :=
  if text = "https://coolify.example.com" then
    some ⟨"https:", "coolify.example.com", "https://coolify.example.com", "/"⟩
  else none

def oneAfterAnother : List DeployEvent :=
  [.deploy 0 100000, .accept 0 100001, .respond 0 (.ok 200),
    .read 0 100002 none, .deploy 1 160002, .accept 1 160003]

/-- Two calls that check the time before either request is answered. -/
def bothAtOnce : List DeployEvent :=
  [.deploy 0 100000, .deploy 1 100000, .accept 0 100001, .accept 1 100002,
    .respond 0 (.ok 200), .respond 1 (.ok 200), .read 0 100003 none,
    .read 1 100004 none]

abbrev panelStep := deployStep parseCoolify configuredPanel

theorem oneAfterAnother_alone :
    Meets panelStep (SendsAlone parseCoolify configuredPanel) (idle 100000)
      oneAfterAnother := by
  refine ⟨?_, fun first _ started => ⟨trivial, fun second _ accepted =>
    ⟨trivial, fun third _ answered => ⟨trivial, fun fourth _ settled =>
      ⟨?_, fun _ _ _ => ⟨trivial, fun _ _ _ => trivial⟩⟩⟩⟩⟩⟩
  · intro endpoint _ call request found
    cases found
  · cases started
    cases accepted
    cases answered
    cases settled
    intro endpoint _ call request found
    by_cases same : call = 0
    · subst same
      cases found
      exact Or.inr ⟨100001, rfl, Or.inl rfl⟩
    · simp only [setRequest, if_neg same] at found
      cases found

theorem deployments_limited_oneAfterAnother :
    ∃ final outputs,
      execute panelStep (idle 100000) oneAfterAnother =
          some (final, outputs) ∧
        acceptedTimes outputs = [100001, 160003] ∧
        RateLimited (acceptedTimes outputs) := by
  have ran :
      (execute panelStep (idle 100000) oneAfterAnother).map
          (fun result => acceptedTimes result.2) =
        some [100001, 160003] := by
    decide +kernel
  obtain ⟨⟨final, outputs⟩, run, times⟩ := Option.map_eq_some_iff.mp ran
  exact ⟨final, outputs, run, times,
    deployments_limited parseCoolify configuredPanel 100000 oneAfterAnother
      final outputs oneAfterAnother_alone run⟩

/-- Two deployments are accepted within a millisecond. -/
theorem concurrent_deployments_accepted :
    ∃ final outputs,
      execute panelStep (idle 100000) bothAtOnce = some (final, outputs) ∧
        ¬ RateLimited (acceptedTimes outputs) := by
  have ran :
      (execute panelStep (idle 100000) bothAtOnce).map
          (fun result => acceptedTimes result.2) =
        some [100001, 100002] := by
    decide +kernel
  obtain ⟨⟨final, outputs⟩, run, times⟩ := Option.map_eq_some_iff.mp ran
  refine ⟨final, outputs, run, fun limited => ?_⟩
  have both := limited 100001
  simp only at times
  rw [times] at both
  revert both
  decide

end GravitPanel.SelfUpdate
