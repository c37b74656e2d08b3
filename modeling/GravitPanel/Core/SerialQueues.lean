import Mathlib.Data.List.Basic
import Mathlib.Data.List.Perm.Subperm

/-!
# Keyed queues with one drain each

A scheduler of jobs over arbitrary keys.  A job is scheduled on its own or put
into the queue of a key; the first entry of a queue starts a drain, which calls
the head, waits for the call to end, removes the head and goes on.  The results
of this module say what such a scheduler guarantees as long as no call that a
drain awaits breaks.
-/

namespace GravitPanel.SerialQueues

universe u v

variable {Key : Type u} {Job : Type v}

/-- How far a call is: its job runs, or the call has ended, or it has ended with
an error that stops whoever awaits it. -/
inductive Phase where
  | running
  | done
  | broken
  deriving DecidableEq

structure Call (Key : Type u) (Job : Type v) where
  job : Job
  queue : Option Key
  phase : Phase

inductive Thread (Key : Type u) (Job : Type v) where
  | single (job : Job)
  | drain (key : Key)
  | awaits (key : Key) (call : Nat)

def Thread.key : Thread Key Job → Option Key
  | .single _ => none
  | .drain key => some key
  | .awaits key _ => some key

inductive Label (Key : Type u) (Job : Type v) where
  | created (queue : Option Key) (job : Job)
  | started (queue : Option Key) (job : Job)

structure Lanes (Key : Type u) (Job : Type v) where
  queues : Key → Option (List Job)
  calls : List (Call Key Job)
  threads : List (Thread Key Job)

section Steps

variable [DecidableEq Key]

namespace Lanes

def setQueue (lanes : Lanes Key Job) (key : Key)
    (queue : Option (List Job)) : Lanes Key Job :=
  { lanes with queues := Function.update lanes.queues key queue }

def withThreads (lanes : Lanes Key Job) (threads : List (Thread Key Job)) :
    Lanes Key Job :=
  { lanes with threads := threads }

/-- Put a job into a queue; the first entry starts a drain. -/
def enqueue (lanes : Lanes Key Job) (key : Key) (job : Job) :
    Lanes Key Job :=
  let queue := (lanes.queues key).getD [] ++ [job]
  let pushed := lanes.setQueue key (some queue)
  if queue.length = 1 then
    pushed.withThreads (lanes.threads ++ [.drain key])
  else
    pushed

/-- Call a job; the label is there when the job has been started. -/
def call (lanes : Lanes Key Job) (queue : Option Key) (job : Job)
    (phase : Phase) : Lanes Key Job :=
  { lanes with calls := lanes.calls ++ [⟨job, queue, phase⟩] }

def startLabels (queue : Option Key) (job : Job) (phase : Phase) :
    List (Label Key Job) :=
  if phase = .running then [.started queue job] else []

/-- The head of the drain's loop. -/
def loop (lanes : Lanes Key Job) (key : Key) (phase : Phase) :
    Lanes Key Job × List (Label Key Job) :=
  match lanes.queues key with
  | none => (lanes, [])
  | some [] => (lanes.setQueue key none, [])
  | some (job :: _) =>
      ((lanes.call (some key) job phase).withThreads
          (lanes.threads ++ [.awaits key lanes.calls.length]),
        startLabels (some key) job phase)

/-- Remove the head of a queue. -/
def shift (lanes : Lanes Key Job) (key : Key) : Lanes Key Job :=
  lanes.setQueue key ((lanes.queues key).map List.tail)

def settle (lanes : Lanes Key Job) (index : Nat) (phase : Phase) :
    Lanes Key Job :=
  { lanes with
    calls := lanes.calls.modify index fun call =>
      { call with phase := phase } }

end Lanes

/-- One step; the threads may go on in any order.  A trusted call does not
break. -/
inductive Step (trusted : Option Key → Job → Prop) :
    Lanes Key Job → List (Label Key Job) → Lanes Key Job → Prop
  | stay (lanes) : Step trusted lanes [] lanes
  | schedule (lanes) (job) :
      Step trusted lanes [.created none job]
        (lanes.withThreads (lanes.threads ++ [.single job]))
  | enqueue (lanes) (key) (job) :
      Step trusted lanes [.created (some key) job] (lanes.enqueue key job)
  | single (lanes) (job) (rest) (phase)
      (threads : lanes.threads.Perm (.single job :: rest))
      (sound : trusted none job → phase ≠ .broken) :
      Step trusted lanes (Lanes.startLabels none job phase)
        ((lanes.withThreads rest).call none job phase)
  | drain (lanes) (key) (rest) (phase)
      (threads : lanes.threads.Perm (.drain key :: rest))
      (sound : ∀ job tail, lanes.queues key = some (job :: tail) →
        trusted (some key) job → phase ≠ .broken) :
      Step trusted lanes ((lanes.withThreads rest).loop key phase).2
        ((lanes.withThreads rest).loop key phase).1
  | resume (lanes) (key) (index) (rest) (call) (phase)
      (threads : lanes.threads.Perm (.awaits key index :: rest))
      (place : lanes.calls[index]? = some call)
      (ended : call.phase = .done)
      (sound : ∀ job tail, (lanes.shift key).queues key = some (job :: tail) →
        trusted (some key) job → phase ≠ .broken) :
      Step trusted lanes
        (((lanes.withThreads rest).shift key).loop key phase).2
        (((lanes.withThreads rest).shift key).loop key phase).1
  | stop (lanes) (key) (index) (rest) (call)
      (threads : lanes.threads.Perm (.awaits key index :: rest))
      (place : lanes.calls[index]? = some call)
      (ended : call.phase = .broken) :
      Step trusted lanes [] (lanes.withThreads rest)
  | settle (lanes) (index) (call) (phase)
      (place : lanes.calls[index]? = some call)
      (runs : call.phase = .running) (ended : phase ≠ .running)
      (sound : trusted call.queue call.job → phase ≠ .broken) :
      Step trusted lanes [] (lanes.settle index phase)

end Steps

section History

variable [DecidableEq Key]
variable {key : Key} {lanes : Lanes Key Job} {past : List (Label Key Job)}
variable {trusted : Option Key → Job → Prop} {phase : Phase}

/-- The jobs of one queue among entries of many. -/
def onQueue (queue : Option Key) (entries : List (Option Key × Job)) :
    List Job :=
  (entries.filter fun entry => entry.1 = queue).map Prod.snd

def createdJobs (past : List (Label Key Job)) : List (Option Key × Job) :=
  past.filterMap fun label =>
    match label with
    | .created queue job => some (queue, job)
    | .started _ _ => none

def startedJobs (past : List (Label Key Job)) : List (Option Key × Job) :=
  past.filterMap fun label =>
    match label with
    | .created _ _ => none
    | .started queue job => some (queue, job)

/-- The jobs created for a queue, in order. -/
def createdOn (queue : Option Key) (past : List (Label Key Job)) :
    List Job :=
  onQueue queue (createdJobs past)

/-- The jobs of a queue that were started, in order. -/
def startedOn (queue : Option Key) (past : List (Label Key Job)) :
    List Job :=
  onQueue queue (startedJobs past)

/-- The calls that a queue has made, in order. -/
def callsOn (queue : Option Key) (lanes : Lanes Key Job) : List Job :=
  (lanes.calls.filter fun call => call.queue = queue).map Call.job

def drainsOn (key : Key) (threads : List (Thread Key Job)) :
    List (Thread Key Job) :=
  threads.filter fun thread => thread.key = some key

/-- The jobs that are scheduled on their own. -/
def singles (threads : List (Thread Key Job)) : List Job :=
  threads.filterMap fun thread =>
    match thread with
    | .single job => some job
    | _ => none

@[simp]
theorem createdOn_append (queue : Option Key)
    (first second : List (Label Key Job)) :
    createdOn queue (first ++ second) =
      createdOn queue first ++ createdOn queue second := by
  simp [createdOn, createdJobs, onQueue]

@[simp]
theorem startedOn_append (queue : Option Key)
    (first second : List (Label Key Job)) :
    startedOn queue (first ++ second) =
      startedOn queue first ++ startedOn queue second := by
  simp [startedOn, startedJobs, onQueue]

@[simp]
theorem createdOn_startLabels (queue owner : Option Key) (job : Job)
    (phase : Phase) :
    createdOn queue (Lanes.startLabels owner job phase) = [] := by
  unfold Lanes.startLabels
  by_cases runs : phase = .running
  · rw [if_pos runs]
    rfl
  · rw [if_neg runs]
    rfl

@[simp]
theorem callsOn_call (lanes : Lanes Key Job) (queue owner : Option Key)
    (job : Job) (phase : Phase) :
    callsOn queue (lanes.call owner job phase) =
      callsOn queue lanes ++ if owner = queue then [job] else [] := by
  by_cases same : owner = queue <;> simp [callsOn, Lanes.call, same]

theorem startedOn_startLabels_sublist (queue owner : Option Key) (job : Job)
    (phase : Phase) :
    (startedOn queue (Lanes.startLabels owner job phase)).Sublist
      (if owner = queue then [job] else []) := by
  unfold Lanes.startLabels
  by_cases runs : phase = .running
  · rw [if_pos runs]
    by_cases same : owner = queue <;>
      simp [startedOn, startedJobs, onQueue, same]
  · rw [if_neg runs]
    exact List.nil_sublist _

/-- No call that a drain awaits has broken. -/
def Unbroken (lanes : Lanes Key Job) : Prop :=
  ∀ call ∈ lanes.calls, call.queue ≠ none → call.phase ≠ .broken

/-- No job of the key runs. -/
def Quiet (key : Key) (lanes : Lanes Key Job) : Prop :=
  ∀ call ∈ lanes.calls, call.queue = some key → call.phase ≠ .running

/-- The three states of a key: no queue and no drain, a drain that has not
begun, or a drain that awaits the call of the head. -/
inductive LaneState
    (lanes : Lanes Key Job) (past : List (Label Key Job)) (key : Key) :
    Prop where
  | idle
      (absent : lanes.queues key = none)
      (drains : drainsOn key lanes.threads = [])
      (quiet : Quiet key lanes)
      (account : createdOn (some key) past = callsOn (some key) lanes)
  | scheduled (head : Job) (rest : List Job)
      (present : lanes.queues key = some (head :: rest))
      (drains : drainsOn key lanes.threads = [.drain key])
      (quiet : Quiet key lanes)
      (account : createdOn (some key) past =
        callsOn (some key) lanes ++ head :: rest)
  | awaits (head : Job) (rest : List Job) (index : Nat)
      (call : Call Key Job)
      (present : lanes.queues key = some (head :: rest))
      (drains : drainsOn key lanes.threads = [.awaits key index])
      (place : lanes.calls[index]? = some call)
      (owner : call.queue = some key)
      (only : ∀ other found, lanes.calls[other]? = some found →
        found.queue = some key → found.phase = .running → other = index)
      (account : createdOn (some key) past =
        callsOn (some key) lanes ++ rest)

structure Orderly
    (lanes : Lanes Key Job) (past : List (Label Key Job)) : Prop where
  lane : ∀ key, LaneState lanes past key
  single : (callsOn none lanes ++ singles lanes.threads).Perm
    (createdOn none past)
  started : ∀ queue, (startedOn queue past).Sublist (callsOn queue lanes)
  unbroken : Unbroken lanes

theorem orderly_empty :
    Orderly (⟨fun _ => none, [], []⟩ : Lanes Key Job) [] where
  lane _ := .idle rfl rfl nofun rfl
  single := List.Perm.nil
  started _ := List.Sublist.slnil
  unbroken := nofun

theorem LaneState.drains_short
    (lane : LaneState lanes past key) :
    (drainsOn key lanes.threads).length ≤ 1 := by
  cases lane with
  | idle absent drains => rw [drains]; exact Nat.zero_le 1
  | scheduled head rest present drains => rw [drains]; exact Nat.le_refl 1
  | awaits head rest index call present drains =>
      rw [drains]
      exact Nat.le_refl 1

variable {threads rest : List (Thread Key Job)} {thread : Thread Key Job}

theorem drainsOn_of_perm_other
    (perm : threads.Perm (thread :: rest))
    (short : (drainsOn key threads).length ≤ 1)
    (other : thread.key ≠ some key) :
    drainsOn key rest = drainsOn key threads := by
  have filtered := perm.filter fun thread => thread.key = some key
  rw [List.filter_cons_of_neg (by simpa using other)] at filtered
  change (drainsOn key threads).Perm (drainsOn key rest) at filtered
  cases shape : drainsOn key threads with
  | nil =>
      rw [shape] at filtered
      exact filtered.nil_eq.symm
  | cons first later =>
      rw [shape, List.length_cons] at short
      have alone : later = [] := List.length_eq_zero_iff.mp (by omega)
      rw [shape, alone] at filtered
      rw [alone]
      exact List.perm_singleton.mp filtered.symm

theorem drainsOn_of_perm_same
    (perm : threads.Perm (thread :: rest))
    (short : (drainsOn key threads).length ≤ 1)
    (same : thread.key = some key) :
    drainsOn key threads = [thread] ∧ drainsOn key rest = [] := by
  have filtered := perm.filter fun thread => thread.key = some key
  rw [List.filter_cons_of_pos (by simpa using same)] at filtered
  change (drainsOn key threads).Perm (thread :: drainsOn key rest)
    at filtered
  have lengths := filtered.length_eq
  rw [List.length_cons] at lengths
  have nothing : drainsOn key rest = [] :=
    List.length_eq_zero_iff.mp (by omega)
  rw [nothing] at filtered
  exact ⟨List.perm_singleton.mp filtered, nothing⟩

theorem drainsOn_append
    (key : Key) (first second : List (Thread Key Job)) :
    drainsOn key (first ++ second) =
      drainsOn key first ++ drainsOn key second :=
  List.filter_append first second

omit [DecidableEq Key] in
theorem singles_of_perm
    (perm : threads.Perm (thread :: rest)) :
    (singles threads).Perm (singles [thread] ++ singles rest) := by
  have mapped := perm.filterMap fun thread =>
    match thread with
    | .single job => some job
    | _ => none
  have split : singles (thread :: rest) =
      singles [thread] ++ singles rest := by
    rw [singles, singles, singles, ← List.filterMap_append,
      List.singleton_append]
  rw [← split]
  exact mapped

theorem LaneState.frame
    {lanes next : Lanes Key Job} {past labels : List (Label Key Job)}
    (lane : LaneState lanes past key)
    (extra : List (Call Key Job))
    (queue : next.queues key = lanes.queues key)
    (drains : drainsOn key next.threads = drainsOn key lanes.threads)
    (calls : next.calls = lanes.calls ++ extra)
    (foreign : ∀ call ∈ extra, call.queue ≠ some key)
    (silent : createdOn (some key) labels = []) :
    LaneState next (past ++ labels) key := by
  have quietly : Quiet key lanes → Quiet key next := by
    intro quiet call member owner
    rw [calls] at member
    rcases List.mem_append.mp member with earlier | new
    · exact quiet call earlier owner
    · exact absurd owner (foreign call new)
  have made : callsOn (some key) next = callsOn (some key) lanes := by
    have none : extra.filter (fun call => call.queue = some key) = [] :=
      List.filter_eq_nil_iff.mpr fun call member => by
        simpa using foreign call member
    rw [callsOn, calls, List.filter_append, none, List.append_nil]
    rfl
  have total : createdOn (some key) (past ++ labels) =
      createdOn (some key) past := by
    rw [createdOn_append, silent, List.append_nil]
  cases lane with
  | idle absent ended quiet account =>
      refine .idle (queue.trans absent) (drains.trans ended)
        (quietly quiet) ?_
      rw [total, made, account]
  | scheduled head rest present ended quiet account =>
      refine .scheduled head rest (queue.trans present)
        (drains.trans ended) (quietly quiet) ?_
      rw [total, made, account]
  | awaits head rest index call present ended place owner only account =>
      have bound : index < lanes.calls.length :=
        (List.getElem?_eq_some_iff.mp place).1
      refine .awaits head rest index call (queue.trans present)
        (drains.trans ended) ?_ owner ?_ ?_
      · rw [calls, List.getElem?_append_left bound]
        exact place
      · intro other found otherPlace otherOwner runs
        rw [calls] at otherPlace
        by_cases inside : other < lanes.calls.length
        · rw [List.getElem?_append_left inside] at otherPlace
          exact only other found otherPlace otherOwner runs
        · rw [List.getElem?_append_right (by omega)] at otherPlace
          exact absurd otherOwner
            (foreign found (List.mem_of_getElem? otherPlace))
      · rw [total, made, account]

/-- A key inside its drain, at the head of the loop. -/
structure AtLoop
    (lanes : Lanes Key Job) (past : List (Label Key Job)) (key : Key)
    (queue : List Job) : Prop where
  present : lanes.queues key = some queue
  drains : drainsOn key lanes.threads = []
  quiet : Quiet key lanes
  account : createdOn (some key) past = callsOn (some key) lanes ++ queue

theorem AtLoop.loop
    {queue : List Job}
    (at_loop : AtLoop lanes past key queue) (phase : Phase) :
    LaneState (lanes.loop key phase).1 (past ++ (lanes.loop key phase).2)
      key := by
  unfold Lanes.loop
  rw [at_loop.present]
  cases queue with
  | nil =>
      refine .idle ?_ at_loop.drains at_loop.quiet ?_
      · simp [Lanes.setQueue]
      · simpa [Lanes.setQueue, callsOn] using at_loop.account
  | cons head rest =>
      refine .awaits head rest lanes.calls.length
        ⟨head, some key, phase⟩ at_loop.present ?_ ?_ rfl ?_ ?_
      · change drainsOn key (lanes.threads ++
          [.awaits key lanes.calls.length]) = _
        rw [drainsOn_append, at_loop.drains]
        simp [drainsOn, Thread.key]
      · simp [Lanes.withThreads, Lanes.call]
      · intro other found place owner runs
        simp only [Lanes.withThreads, Lanes.call] at place
        by_cases inside : other < lanes.calls.length
        · rw [List.getElem?_append_left inside] at place
          exact absurd runs
            (at_loop.quiet found (List.mem_of_getElem? place) owner)
        · have bound := (List.getElem?_eq_some_iff.mp place).1
          rw [List.length_append, List.length_singleton] at bound
          omega
      · have made := callsOn_call lanes (some key) (some key) head phase
        simp only [if_pos] at made
        change createdOn (some key) (past ++ Lanes.startLabels (some key)
          head phase) = callsOn (some key) (lanes.call (some key) head
            phase) ++ rest
        rw [made, createdOn_append, createdOn_startLabels,
          List.append_nil, at_loop.account, List.append_assoc,
          List.singleton_append]

theorem LaneState.loop_other
    {key owner : Key}
    (lane : LaneState lanes past key) (other : owner ≠ key)
    (phase : Phase) :
    LaneState (lanes.loop owner phase).1
      (past ++ (lanes.loop owner phase).2) key := by
  have differs : some owner ≠ some key :=
    fun same => other (Option.some.inj same)
  unfold Lanes.loop
  split
  · exact lane.frame [] rfl rfl (List.append_nil _).symm nofun rfl
  · refine lane.frame [] ?_ rfl (List.append_nil _).symm nofun rfl
    exact Function.update_of_ne (Ne.symm other) _ _
  · rename_i job rest present
    refine lane.frame [⟨job, some owner, phase⟩] rfl ?_ rfl ?_ ?_
    · change drainsOn key (lanes.threads ++
        [.awaits owner lanes.calls.length]) = _
      rw [drainsOn_append]
      simp [drainsOn, Thread.key, other]
    · intro call member
      rw [List.mem_singleton.mp member]
      exact differs
    · exact createdOn_startLabels _ _ _ _

/-! ## Steps -/

theorem LaneState.enqueue
    (lane : LaneState lanes past key) (job : Job) :
    LaneState (lanes.enqueue key job)
      (past ++ [.created (some key) job]) key := by
  have total : createdOn (some key)
      (past ++ [Label.created (some key) job]) =
        createdOn (some key) past ++ [job] := by
    rw [createdOn_append]
    simp [createdOn, createdJobs, onQueue]
  cases lane with
  | idle absent drains quiet account =>
      have shape : lanes.enqueue key job =
          (lanes.setQueue key (some [job])).withThreads
            (lanes.threads ++ [.drain key]) := by
        simp [Lanes.enqueue, absent]
      rw [shape]
      refine .scheduled job [] (Function.update_self _ _ _) ?_ quiet ?_
      · change drainsOn key (lanes.threads ++ [.drain key]) = _
        rw [drainsOn_append, drains]
        simp [drainsOn, Thread.key]
      · rw [total, account]
        rfl
  | scheduled head rest present drains quiet account =>
      have shape : lanes.enqueue key job =
          lanes.setQueue key (some (head :: (rest ++ [job]))) := by
        simp [Lanes.enqueue, present]
      rw [shape]
      refine .scheduled head (rest ++ [job]) (Function.update_self _ _ _)
        drains quiet ?_
      rw [total, account, List.append_assoc, List.cons_append]
      rfl
  | awaits head rest index call present drains place owner only account =>
      have shape : lanes.enqueue key job =
          lanes.setQueue key (some (head :: (rest ++ [job]))) := by
        simp [Lanes.enqueue, present]
      rw [shape]
      refine .awaits head (rest ++ [job]) index call
        (Function.update_self _ _ _) drains place owner only ?_
      rw [total, account, List.append_assoc]
      rfl

theorem LaneState.enqueue_other
    {key owner : Key}
    (lane : LaneState lanes past key) (other : owner ≠ key) (job : Job) :
    LaneState (lanes.enqueue owner job)
      (past ++ [.created (some owner) job]) key := by
  have silent : createdOn (some key)
      [Label.created (some owner) job] = [] := by
    simp [createdOn, createdJobs, onQueue, other]
  unfold Lanes.enqueue
  simp only
  split
  · refine lane.frame [] ?_ ?_ (List.append_nil _).symm nofun silent
    · exact Function.update_of_ne (Ne.symm other) _ _
    · change drainsOn key (lanes.threads ++ [.drain owner]) = _
      rw [drainsOn_append]
      simp [drainsOn, Thread.key, other]
  · refine lane.frame [] ?_ rfl (List.append_nil _).symm nofun silent
    exact Function.update_of_ne (Ne.symm other) _ _

theorem callsOn_settle
    (queue : Option Key) (lanes : Lanes Key Job) (index : Nat)
    (phase : Phase) :
    callsOn queue (lanes.settle index phase) = callsOn queue lanes := by
  unfold callsOn Lanes.settle
  induction lanes.calls generalizing index with
  | nil => simp
  | cons call rest ih =>
      cases index with
      | zero =>
          by_cases owner : call.queue = queue <;> simp [owner]
      | succ index =>
          have later := ih index
          by_cases owner : call.queue = queue <;>
            simpa [owner] using later

omit [DecidableEq Key] in
theorem settle_place
    {index other : Nat}
    {found : Call Key Job}
    (place : (lanes.settle index phase).calls[other]? = some found) :
    ∃ call, lanes.calls[other]? = some call ∧
      found = if index = other then { call with phase := phase }
        else call := by
  simp only [Lanes.settle, List.getElem?_modify] at place
  obtain ⟨call, earlier, rfl⟩ := Option.map_eq_some_iff.mp place
  refine ⟨call, earlier, ?_⟩
  split <;> rfl

theorem LaneState.settle
    (lane : LaneState lanes past key) (index : Nat)
    (ended : phase ≠ .running) :
    LaneState (lanes.settle index phase) past key := by
  have earlier : ∀ {other : Nat} {found : Call Key Job},
      (lanes.settle index phase).calls[other]? = some found →
      found.phase = .running → lanes.calls[other]? = some found := by
    intro other found place runs
    obtain ⟨call, before, rfl⟩ := settle_place place
    by_cases same : index = other
    · rw [if_pos same] at runs
      exact absurd runs ended
    · rw [if_neg same]
      exact before
  have quietly : Quiet key lanes → Quiet key (lanes.settle index phase) := by
    intro quiet call member owner runs
    obtain ⟨other, place⟩ := List.mem_iff_getElem?.mp member
    have before := earlier place runs
    exact quiet call (List.mem_of_getElem? before) owner runs
  cases lane with
  | idle absent drains quiet account =>
      exact .idle absent drains (quietly quiet)
        (account.trans (callsOn_settle _ _ _ _).symm)
  | scheduled head rest present drains quiet account =>
      refine .scheduled head rest present drains (quietly quiet) ?_
      rw [callsOn_settle, account]
  | awaits head rest awaited call present drains place owner only account =>
      have reached : (lanes.settle index phase).calls[awaited]? =
          some (if index = awaited then { call with phase := phase }
            else call) := by
        simp only [Lanes.settle, List.getElem?_modify, place]
        split <;> rfl
      refine .awaits head rest awaited _ present drains reached ?_ ?_ ?_
      · split <;> exact owner
      · intro other found otherPlace otherOwner runs
        exact only other found (earlier otherPlace runs) otherOwner runs
      · rw [callsOn_settle, account]

theorem LaneState.at_loop_of_drain
    {rest : List (Thread Key Job)}
    (lane : LaneState lanes past key)
    (threads : lanes.threads.Perm (.drain key :: rest)) :
    ∃ queue, AtLoop (lanes.withThreads rest) past key queue := by
  obtain ⟨alone, gone⟩ :=
    drainsOn_of_perm_same threads lane.drains_short rfl
  cases lane with
  | idle absent drains =>
      rw [drains] at alone
      cases alone
  | scheduled head tail present drains quiet account =>
      exact ⟨head :: tail, present, gone, quiet, account⟩
  | awaits head tail index call present drains =>
      rw [drains] at alone
      cases alone

theorem LaneState.at_loop_of_awaits
    {rest : List (Thread Key Job)} {index : Nat} {call : Call Key Job}
    (lane : LaneState lanes past key)
    (threads : lanes.threads.Perm (.awaits key index :: rest))
    (place : lanes.calls[index]? = some call)
    (ended : call.phase ≠ .running) :
    ∃ queue, AtLoop ((lanes.withThreads rest).shift key) past key queue := by
  obtain ⟨alone, gone⟩ :=
    drainsOn_of_perm_same threads lane.drains_short rfl
  cases lane with
  | idle absent drains =>
      rw [drains] at alone
      cases alone
  | scheduled head tail present drains =>
      rw [drains] at alone
      cases alone
  | awaits head tail awaited found present drains _ _ only account =>
      rw [drains] at alone
      cases alone
      refine ⟨tail, ?_, gone, ?_, account⟩
      · have shifted : (lanes.withThreads rest).queues key =
            some (head :: tail) := present
        simp [Lanes.shift, Lanes.setQueue, shifted]
      · intro other member owner runs
        obtain ⟨position, otherPlace⟩ := List.mem_iff_getElem?.mp member
        have same := only position other otherPlace owner runs
        subst same
        have equal := Option.some.inj (place.symm.trans otherPlace)
        rw [← equal] at runs
        exact ended runs

theorem LaneState.awaited
    {rest : List (Thread Key Job)} {index : Nat}
    (lane : LaneState lanes past key)
    (threads : lanes.threads.Perm (.awaits key index :: rest)) :
    ∃ call, lanes.calls[index]? = some call ∧ call.queue = some key := by
  obtain ⟨alone, _⟩ :=
    drainsOn_of_perm_same threads lane.drains_short rfl
  cases lane with
  | idle absent drains =>
      rw [drains] at alone
      cases alone
  | scheduled head tail present drains =>
      rw [drains] at alone
      cases alone
  | awaits head tail awaited call present drains place owner =>
      rw [drains] at alone
      cases alone
      exact ⟨call, place, owner⟩

theorem Orderly.lane_step
    {lanes next : Lanes Key Job} {past labels : List (Label Key Job)}
    (orderly : Orderly lanes past) (stepped : Step trusted lanes labels next)
    (key : Key) : LaneState next (past ++ labels) key := by
  have lane := orderly.lane key
  cases stepped with
  | stay =>
      rw [List.append_nil]
      exact lane
  | schedule job =>
      refine lane.frame [] rfl ?_ (List.append_nil _).symm nofun ?_
      · change drainsOn key (lanes.threads ++ [.single job]) = _
        rw [drainsOn_append]
        simp [drainsOn, Thread.key]
      · simp [createdOn, createdJobs, onQueue]
  | enqueue owner job =>
      by_cases same : owner = key
      · subst same
        exact lane.enqueue job
      · exact lane.enqueue_other same job
  | single job rest phase threads =>
      refine lane.frame [⟨job, none, phase⟩] rfl ?_ rfl ?_ ?_
      · exact drainsOn_of_perm_other threads lane.drains_short nofun
      · intro call member
        rw [List.mem_singleton.mp member]
        exact nofun
      · exact createdOn_startLabels _ _ _ _
  | drain owner rest phase threads =>
      by_cases same : owner = key
      · subst same
        obtain ⟨queue, at_loop⟩ := lane.at_loop_of_drain threads
        exact at_loop.loop phase
      · have quiet : LaneState (lanes.withThreads rest) (past ++ []) key :=
          lane.frame [] rfl
            (drainsOn_of_perm_other threads lane.drains_short
              fun equal => same (Option.some.inj equal))
            (List.append_nil _).symm nofun rfl
        rw [List.append_nil] at quiet
        exact quiet.loop_other same phase
  | resume owner index rest call phase threads place ended =>
      by_cases same : owner = key
      · subst same
        have stopped : call.phase ≠ .running := by
          rw [ended]
          exact nofun
        obtain ⟨queue, at_loop⟩ :=
          lane.at_loop_of_awaits threads place stopped
        exact at_loop.loop phase
      · have quiet : LaneState ((lanes.withThreads rest).shift owner)
            (past ++ []) key :=
          lane.frame [] (Function.update_of_ne (Ne.symm same) _ _)
            (drainsOn_of_perm_other threads lane.drains_short
              fun equal => same (Option.some.inj equal))
            (List.append_nil _).symm nofun rfl
        rw [List.append_nil] at quiet
        exact quiet.loop_other same phase
  | stop owner index rest call threads place ended =>
      -- A drain never finds the call that it awaits broken.
      obtain ⟨awaited, awaitedPlace, awaitedOwner⟩ :=
        (orderly.lane owner).awaited threads
      have equal := Option.some.inj (place.symm.trans awaitedPlace)
      have healthy := orderly.unbroken call (List.mem_of_getElem? place)
        (by rw [equal, awaitedOwner]; exact nofun)
      exact absurd ended healthy
  | settle index call phase place runs ended =>
      rw [List.append_nil]
      exact lane.settle index ended

omit [DecidableEq Key] in
theorem singles_append (first second : List (Thread Key Job)) :
    singles (first ++ second) = singles first ++ singles second := by
  simp [singles]

theorem loop_single (lanes : Lanes Key Job) (key : Key) (phase : Phase) :
    callsOn none (lanes.loop key phase).1 = callsOn none lanes ∧
      singles (lanes.loop key phase).1.threads = singles lanes.threads ∧
        createdOn none (lanes.loop key phase).2 = [] := by
  unfold Lanes.loop
  split
  · exact ⟨rfl, rfl, rfl⟩
  · exact ⟨rfl, rfl, rfl⟩
  · rename_i job rest present
    refine ⟨?_, ?_, createdOn_startLabels _ _ _ _⟩
    · have made := callsOn_call lanes none (some key) job phase
      rw [if_neg (by exact nofun), List.append_nil] at made
      exact made
    · change singles (lanes.threads ++
        [.awaits key lanes.calls.length]) = _
      rw [singles_append]
      exact List.append_nil _

theorem Orderly.single_step
    {lanes next : Lanes Key Job} {past labels : List (Label Key Job)}
    (orderly : Orderly lanes past) (stepped : Step trusted lanes labels next) :
    (callsOn none next ++ singles next.threads).Perm
      (createdOn none (past ++ labels)) := by
  have before := orderly.single
  have resumed : ∀ {rest : List (Thread Key Job)}
      {thread : Thread Key Job} {other : Lanes Key Job} (key : Key)
      (phase : Phase), lanes.threads.Perm (thread :: rest) →
      singles [thread] = [] → callsOn none other = callsOn none lanes →
      other.threads = rest →
      (callsOn none (other.loop key phase).1 ++
        singles (other.loop key phase).1.threads).Perm
          (createdOn none (past ++ (other.loop key phase).2)) := by
    intro rest thread other key phase threads nothing calls left
    obtain ⟨sameCalls, sameSingles, silent⟩ := loop_single other key phase
    have remaining := singles_of_perm threads
    rw [nothing, List.nil_append] at remaining
    rw [sameCalls, sameSingles, calls, left, createdOn_append, silent,
      List.append_nil]
    exact (List.Perm.append_left _ remaining.symm).trans before
  cases stepped with
  | stay =>
      rw [List.append_nil]
      exact before
  | schedule job =>
      change (callsOn none lanes ++
        singles (lanes.threads ++ [Thread.single job])).Perm _
      rw [singles_append, createdOn_append, ← List.append_assoc]
      have new : createdOn none
          [Label.created (none : Option Key) job] = [job] := by
        simp [createdOn, createdJobs, onQueue]
      rw [new]
      exact before.append_right [job]
  | enqueue key job =>
      have silent : createdOn none [Label.created (some key) job] = [] := by
        simp [createdOn, createdJobs, onQueue]
      rw [createdOn_append, silent, List.append_nil]
      have threads : singles (lanes.enqueue key job).threads =
          singles lanes.threads := by
        unfold Lanes.enqueue
        simp only
        split
        · change singles (lanes.threads ++ [.drain key]) = _
          rw [singles_append]
          exact List.append_nil _
        · rfl
      have calls : callsOn none (lanes.enqueue key job) =
          callsOn none lanes := by
        unfold Lanes.enqueue
        simp only
        split <;> rfl
      rw [threads, calls]
      exact before
  | single job rest phase threads =>
      have left := singles_of_perm threads
      rw [createdOn_append, createdOn_startLabels, List.append_nil,
        callsOn_call, if_pos rfl]
      change (callsOn none lanes ++ [job] ++ singles rest).Perm _
      rw [List.append_assoc]
      exact (List.Perm.append_left _ left.symm).trans before
  | drain key rest phase threads =>
      exact resumed key phase threads rfl rfl rfl
  | resume key index rest call phase threads =>
      exact resumed key phase threads rfl rfl rfl
  | stop key index rest call threads =>
      have left := singles_of_perm threads
      rw [List.append_nil]
      exact (List.Perm.append_left _ left.symm).trans before
  | settle index call phase =>
      rw [List.append_nil, callsOn_settle]
      exact before

theorem Orderly.started_step
    {lanes next : Lanes Key Job} {past labels : List (Label Key Job)}
    (orderly : Orderly lanes past) (stepped : Step trusted lanes labels next)
    (queue : Option Key) :
    (startedOn queue (past ++ labels)).Sublist (callsOn queue next) := by
  have before := orderly.started queue
  have called : ∀ {other : Lanes Key Job} (owner : Option Key) (job : Job)
      (phase : Phase), callsOn queue other = callsOn queue lanes →
      (startedOn queue (past ++ Lanes.startLabels owner job phase)).Sublist
        (callsOn queue (other.call owner job phase)) := by
    intro other owner job phase calls
    rw [startedOn_append, callsOn_call, calls]
    exact before.append (startedOn_startLabels_sublist queue owner job phase)
  have looped : ∀ {other : Lanes Key Job} (key : Key) (phase : Phase),
      callsOn queue other = callsOn queue lanes →
      (startedOn queue (past ++ (other.loop key phase).2)).Sublist
        (callsOn queue (other.loop key phase).1) := by
    intro other key phase calls
    unfold Lanes.loop
    split
    · rw [List.append_nil, calls]
      exact before
    · change (startedOn queue (past ++ [])).Sublist (callsOn queue other)
      rw [List.append_nil, calls]
      exact before
    · exact called (some key) _ phase calls
  cases stepped with
  | stay =>
      rw [List.append_nil]
      exact before
  | schedule job =>
      rw [startedOn_append]
      exact (List.append_nil _).symm ▸ before
  | enqueue key job =>
      have calls : callsOn queue (lanes.enqueue key job) =
          callsOn queue lanes := by
        unfold Lanes.enqueue
        simp only
        split <;> rfl
      rw [startedOn_append, calls]
      exact (List.append_nil _).symm ▸ before
  | single job rest phase threads => exact called none job phase rfl
  | drain key rest phase threads => exact looped key phase rfl
  | resume key index rest call phase threads => exact looped key phase rfl
  | stop key index rest call threads =>
      rw [List.append_nil]
      exact before
  | settle index call phase =>
      rw [List.append_nil, callsOn_settle]
      exact before

theorem Orderly.calls_prefix
    (orderly : Orderly lanes past) (key : Key) :
    callsOn (some key) lanes <+: createdOn (some key) past := by
  cases orderly.lane key with
  | idle absent drains quiet account => exact ⟨[], by simp [account]⟩
  | scheduled head rest present drains quiet account =>
      exact ⟨head :: rest, account.symm⟩
  | awaits head rest index call present drains place owner only account =>
      exact ⟨rest, account.symm⟩

omit [DecidableEq Key] in
theorem Unbroken.call
    (unbroken : Unbroken lanes)
    {queue : Option Key} {job : Job}
    (sound : queue ≠ none → phase ≠ .broken) :
    Unbroken (lanes.call queue job phase) := by
  intro call member queued
  rcases List.mem_append.mp member with earlier | new
  · exact unbroken call earlier queued
  · cases List.mem_singleton.mp new
    exact sound queued

theorem Unbroken.loop
    (unbroken : Unbroken lanes)
    (sound : ∀ job tail, lanes.queues key = some (job :: tail) →
      phase ≠ .broken) : Unbroken (lanes.loop key phase).1 := by
  unfold Lanes.loop
  split
  · exact unbroken
  · exact unbroken
  · rename_i job tail present
    exact unbroken.call fun _ => sound job tail present

/-- No call of a drain breaks as long as the jobs created for queues are
trusted. -/
theorem Orderly.unbroken_step
    {lanes next : Lanes Key Job} {past labels : List (Label Key Job)}
    (orderly : Orderly lanes past)
    (trust : ∀ key, ∀ job ∈ createdOn (some key) past,
      trusted (some key) job)
    (stepped : Step trusted lanes labels next) : Unbroken next := by
  have unbroken := orderly.unbroken
  cases stepped with
  | stay => exact unbroken
  | schedule job => exact unbroken
  | enqueue key job =>
      unfold Lanes.enqueue
      simp only
      split <;> exact unbroken
  | single job rest phase threads sound =>
      exact Unbroken.call unbroken fun queued => absurd rfl queued
  | drain key rest phase threads sound =>
      have remaining : Unbroken (lanes.withThreads rest) := unbroken
      apply remaining.loop
      intro job tail present
      obtain ⟨queue, at_loop⟩ := (orderly.lane key).at_loop_of_drain threads
      have account := at_loop.account
      rw [at_loop.present] at present
      rw [Option.some.inj present] at account
      exact sound job tail (at_loop.present.trans present)
        (trust key job (by rw [account]; simp))
  | resume key index rest call phase threads place ended sound =>
      have remaining : Unbroken ((lanes.withThreads rest).shift key) :=
        unbroken
      apply remaining.loop
      intro job tail present
      obtain ⟨queue, at_loop⟩ := (orderly.lane key).at_loop_of_awaits
        threads place (by rw [ended]; exact nofun)
      have account := at_loop.account
      rw [at_loop.present] at present
      rw [Option.some.inj present] at account
      exact sound job tail (at_loop.present.trans present)
        (trust key job (by rw [account]; simp))
  | stop key index rest call => exact unbroken
  | settle index call phase place runs ended sound =>
      intro other member queued
      obtain ⟨position, found⟩ := List.mem_iff_getElem?.mp member
      obtain ⟨earlier, before, rfl⟩ := settle_place found
      by_cases same : index = position
      · subst same
        rw [if_pos rfl] at queued ⊢
        cases Option.some.inj (place.symm.trans before)
        cases owner : call.queue with
        | none => exact absurd owner queued
        | some key =>
            apply sound
            rw [owner]
            apply trust key
            have called : call.job ∈ callsOn (some key) lanes := by
              rw [callsOn]
              refine List.mem_map_of_mem (List.mem_filter.mpr
                ⟨List.mem_of_getElem? place, ?_⟩)
              simpa using owner
            exact (orderly.calls_prefix key).subset called
      · rw [if_neg same] at queued ⊢
        exact unbroken earlier (List.mem_of_getElem? before) queued

theorem Orderly.step
    {trusted : Option Key → Job → Prop}
    {lanes next : Lanes Key Job} {past labels : List (Label Key Job)}
    (orderly : Orderly lanes past)
    (trust : ∀ key, ∀ job ∈ createdOn (some key) past,
      trusted (some key) job)
    (stepped : Step trusted lanes labels next) :
    Orderly next (past ++ labels) where
  lane := orderly.lane_step stepped
  single := orderly.single_step stepped
  started := orderly.started_step stepped
  unbroken := orderly.unbroken_step trust stepped

omit [DecidableEq Key] in
theorem jobs_settle (lanes : Lanes Key Job) (index : Nat) (phase : Phase) :
    (lanes.settle index phase).calls.map Call.job =
      lanes.calls.map Call.job := by
  apply List.ext_getElem?
  intro position
  simp only [Lanes.settle, List.getElem?_map, List.getElem?_modify]
  cases lanes.calls[position]? with
  | none => rfl
  | some call => by_cases same : index = position <;> simp [same]

/-- A step makes at most one call, and the job that it starts is the job of
that call. -/
theorem Step.calls
    {lanes next : Lanes Key Job} {labels : List (Label Key Job)}
    (stepped : Step trusted lanes labels next) :
    (next.calls.map Call.job = lanes.calls.map Call.job ∧
        startedJobs labels = []) ∨
      ∃ job, next.calls.map Call.job = lanes.calls.map Call.job ++ [job] ∧
        ∀ entry ∈ startedJobs labels, entry.2 = job := by
  have called : ∀ {other : Lanes Key Job} (queue : Option Key) (job : Job)
      (phase : Phase), other.calls = lanes.calls →
      (other.call queue job phase).calls.map Call.job =
          lanes.calls.map Call.job ++ [job] ∧
        ∀ entry ∈ startedJobs
          (Lanes.startLabels queue job phase), entry.2 = job := by
    intro other queue job phase same
    refine ⟨by simp [Lanes.call, same], ?_⟩
    intro entry member
    unfold Lanes.startLabels at member
    split at member
    · cases List.mem_singleton.mp member
      rfl
    · cases member
  have looped : ∀ {other : Lanes Key Job} (key : Key) (phase : Phase),
      other.calls = lanes.calls →
      ((other.loop key phase).1.calls.map Call.job =
          lanes.calls.map Call.job ∧
        startedJobs (other.loop key phase).2 = []) ∨
      ∃ job, (other.loop key phase).1.calls.map Call.job =
          lanes.calls.map Call.job ++ [job] ∧
        ∀ entry ∈ startedJobs (other.loop key phase).2,
          entry.2 = job := by
    intro other key phase same
    unfold Lanes.loop
    split
    · exact .inl ⟨by rw [same], rfl⟩
    · exact .inl ⟨congrArg (List.map Call.job) same, rfl⟩
    · rename_i job rest _
      exact .inr ⟨job, called (some key) job phase same⟩
  cases stepped with
  | stay => exact .inl ⟨rfl, rfl⟩
  | schedule job => exact .inl ⟨rfl, rfl⟩
  | enqueue key job =>
      refine .inl ⟨?_, rfl⟩
      unfold Lanes.enqueue
      simp only
      split <;> rfl
  | single job rest phase threads =>
      exact .inr ⟨job, called none job phase rfl⟩
  | drain key rest phase threads => exact looped key phase rfl
  | resume key index rest call phase threads => exact looped key phase rfl
  | stop key index rest call threads => exact .inl ⟨rfl, rfl⟩
  | settle index call phase place runs ended =>
      exact .inl ⟨jobs_settle lanes index phase, rfl⟩

section Guarantees

variable {lanes : Lanes Key Job} {past : List (Label Key Job)}

theorem Orderly.started_in_order
    (orderly : Orderly lanes past) (key : Key) :
    (startedOn (some key) past).Sublist (createdOn (some key) past) :=
  (orderly.started (some key)).trans (orderly.calls_prefix key).sublist

theorem Orderly.exclusive
    (orderly : Orderly lanes past) {first second : Nat}
    {one other : Call Key Job}
    (onePlace : lanes.calls[first]? = some one)
    (otherPlace : lanes.calls[second]? = some other)
    (oneOwner : one.queue = some key) (otherOwner : other.queue = some key)
    (oneRuns : one.phase = .running) (otherRuns : other.phase = .running) :
    first = second := by
  cases orderly.lane key with
  | idle absent drains quiet account =>
      exact absurd oneRuns
        (quiet one (List.mem_of_getElem? onePlace) oneOwner)
  | scheduled head rest present drains quiet account =>
      exact absurd oneRuns
        (quiet one (List.mem_of_getElem? onePlace) oneOwner)
  | awaits head rest index call present drains place owner only account =>
      rw [only first one onePlace oneOwner oneRuns,
        only second other otherPlace otherOwner otherRuns]

theorem Orderly.drained
    (orderly : Orderly lanes past) {queue : List Job}
    (present : lanes.queues key = some queue) :
    ∃ thread ∈ lanes.threads, thread.key = some key := by
  have listed : drainsOn key lanes.threads ≠ [] := by
    cases orderly.lane key with
    | idle absent drains quiet account =>
        rw [absent] at present
        cases present
    | scheduled head rest _ drains =>
        rw [drains]
        exact List.cons_ne_nil _ _
    | awaits head rest index call _ drains =>
        rw [drains]
        exact List.cons_ne_nil _ _
  obtain ⟨thread, member⟩ := List.exists_mem_of_ne_nil _ listed
  obtain ⟨found, owner⟩ := List.mem_filter.mp member
  exact ⟨thread, found, of_decide_eq_true owner⟩

theorem Orderly.called_or_waiting
    (orderly : Orderly lanes past) {job : Job}
    (created : job ∈ createdOn (some key) past) :
    job ∈ callsOn (some key) lanes ∨
      ∃ queue, lanes.queues key = some queue ∧ job ∈ queue := by
  cases orderly.lane key with
  | idle absent drains quiet account =>
      rw [account] at created
      exact .inl created
  | scheduled head rest present drains quiet account =>
      rw [account] at created
      rcases List.mem_append.mp created with called | waits
      · exact .inl called
      · exact .inr ⟨_, present, waits⟩
  | awaits head rest index call present drains place owner only account =>
      rw [account] at created
      rcases List.mem_append.mp created with called | waits
      · exact .inl called
      · exact .inr ⟨_, present, List.mem_cons_of_mem head waits⟩

theorem Orderly.awaited_running
    (orderly : Orderly lanes past) {index : Nat}
    (awaits : Thread.awaits key index ∈ lanes.threads) :
    ∃ call, lanes.calls[index]? = some call ∧ call.queue = some key ∧
      (call.phase = .running ∨ call.phase = .done) := by
  obtain ⟨before, after, split⟩ := List.append_of_mem awaits
  have perm : lanes.threads.Perm (.awaits key index :: (before ++ after)) := by
    rw [split]
    exact List.perm_middle
  obtain ⟨call, place, owner⟩ := (orderly.lane key).awaited perm
  refine ⟨call, place, owner, ?_⟩
  have healthy := orderly.unbroken call (List.mem_of_getElem? place)
    (by rw [owner]; exact nofun)
  cases phase : call.phase with
  | running => exact .inl rfl
  | done => exact .inr rfl
  | broken => exact absurd phase healthy

section Once

variable [DecidableEq Job]

omit [DecidableEq Key] in
theorem count_onQueue [DecidableEq Key]
    (queue : Option Key) (job : Job) (entries : List (Option Key × Job)) :
    entries.count (queue, job) = (onQueue queue entries).count job := by
  induction entries with
  | nil => rfl
  | cons entry rest ih =>
      obtain ⟨owner, other⟩ := entry
      rw [List.count_cons, ih]
      by_cases same : owner = queue
      · subst same
        by_cases equal : other = job <;>
          simp [onQueue, equal]
      · simp [onQueue, same]

theorem jobs_subperm
    {first second : List (Option Key × Job)}
    (each : ∀ queue, (onQueue queue first).Subperm (onQueue queue second)) :
    (first.map Prod.snd).Subperm (second.map Prod.snd) := by
  have entries : first.Subperm second := by
    rw [List.subperm_ext_iff]
    rintro ⟨queue, job⟩ _
    rw [count_onQueue, count_onQueue]
    exact (each queue).count_le job
  obtain ⟨middle, perm, sublist⟩ := entries
  exact ⟨middle.map Prod.snd, perm.map _, sublist.map _⟩

def callEntries (lanes : Lanes Key Job) : List (Option Key × Job) :=
  lanes.calls.map fun call => (call.queue, call.job)

omit [DecidableEq Job] in
theorem onQueue_callEntries (queue : Option Key) (lanes : Lanes Key Job) :
    onQueue queue (callEntries lanes) = callsOn queue lanes := by
  simp [onQueue, callEntries, callsOn, List.filter_map, Function.comp_def]

theorem Orderly.called_subperm (orderly : Orderly lanes past) :
    (lanes.calls.map Call.job).Subperm ((createdJobs past).map Prod.snd) := by
  have each : ∀ queue, (onQueue queue (callEntries lanes)).Subperm
      (onQueue queue (createdJobs past)) := by
    intro queue
    rw [onQueue_callEntries]
    cases queue with
    | none =>
        have inside := List.sublist_append_left (callsOn none lanes)
          (singles lanes.threads)
        exact inside.subperm.trans orderly.single.subperm
    | some key => exact (orderly.calls_prefix key).sublist.subperm
  have jobs := jobs_subperm each
  simpa [callEntries, Function.comp_def] using jobs

theorem Orderly.started_subperm (orderly : Orderly lanes past) :
    ((startedJobs past).map Prod.snd).Subperm (lanes.calls.map Call.job) := by
  have each : ∀ queue, (onQueue queue (startedJobs past)).Subperm
      (onQueue queue (callEntries lanes)) := by
    intro queue
    rw [onQueue_callEntries]
    exact (orderly.started queue).subperm
  have jobs := jobs_subperm each
  simpa [callEntries, Function.comp_def] using jobs

theorem Orderly.called_once
    (orderly : Orderly lanes past)
    (once : ((createdJobs past).map Prod.snd).Nodup) :
    (lanes.calls.map Call.job).Nodup := by
  obtain ⟨middle, perm, sublist⟩ := orderly.called_subperm
  exact perm.nodup_iff.mp (once.sublist sublist)

theorem Orderly.started_once
    (orderly : Orderly lanes past)
    (once : ((createdJobs past).map Prod.snd).Nodup) :
    ((startedJobs past).map Prod.snd).Nodup := by
  obtain ⟨middle, perm, sublist⟩ := orderly.started_subperm
  exact perm.nodup_iff.mp ((orderly.called_once once).sublist sublist)

end Once

end Guarantees

end History

end GravitPanel.SerialQueues
