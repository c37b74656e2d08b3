import GravitPanel.Core.Execution
import GravitPanel.Portal.Tickets
import Mathlib.Data.List.Nodup

/-!
# Tickets are used once

A completed ticket leaves its nonce in the table until a cleanup reads a time
whose text is not before that of the expiry.  As long as such a cleanup comes
too late for the ticket itself, no nonce is completed twice.
-/

namespace GravitPanel.Portal

open GravitPanel.Execution
open Program IsoDate

structure TicketCall where
  environment : PortalEnvironment
  readings : Readings
  ticket : String

/-- The service with the latest reading of the clock and the nonces and
expiries of the tickets that were completed, oldest first. -/
structure PortalRun where
  portal : PublicPortal
  clock : Nat
  used : List (String × Nat)

def TicketCall.verified (call : TicketCall) (portal : PublicPortal) :
    Except String PortalTicket :=
  verifyTicket call.environment portal.hmacSecret call.ticket
    call.readings.verify

/-- Readings of a clock that is never set back. -/
def Readings.follow (readings : Readings) (clock : Nat) : Bool :=
  clock ≤ readings.verify && readings.verify ≤ readings.cleanup &&
    readings.cleanup ≤ readings.lifetime &&
      readings.lifetime ≤ readings.created

/-- One call, whether it completes or throws. -/
def portalStep (run : PortalRun) (call : TicketCall) :
    Option (PortalRun × List PublicPlayerSession) :=
  if call.readings.follow run.clock then
    match completeTicket call.environment call.readings call.ticket run.portal,
        call.verified run.portal with
    | (.ok (_, player), portal), .ok ticket =>
        some
          (⟨portal, call.readings.created,
            run.used ++ [(ticket.nonce, expiry ticket)]⟩, [player])
    | (_, portal), _ =>
        some (⟨portal, call.readings.created, run.used⟩, [])
  else
    none

/-- A verified ticket whose nonce was completed before meets a nonce that is
still kept: at its cleanup the completed ticket has not expired, and its expiry
is before the year 10000. -/
def MeetsItsNonce (run : PortalRun) (call : TicketCall) : Prop :=
  match call.verified run.portal with
  | .error _ => True
  | .ok ticket =>
      expiry ticket ≤ maxTime →
        ∀ entry ∈ run.used, entry.1 = ticket.nonce →
          call.readings.cleanup < entry.2 ∧ entry.2 < tenThousand

instance (run : PortalRun) (call : TicketCall) :
    Decidable (MeetsItsNonce run call) := by
  unfold MeetsItsNonce
  split <;> infer_instance

theorem isoText_ok {time : Nat} {text : String}
    (valid : isoText time = .ok text) :
    text.toList = isoChars time ∧ time ≤ maxTime := by
  unfold isoText toISOString at valid
  by_cases inRange : time ≤ maxTime
  · rw [if_pos inRange] at valid
    cases valid
    exact ⟨String.toList_ofList, inRange⟩
  · rw [if_neg inRange] at valid
    cases valid

theorem textLE_of_later {now later : Nat} {nowText laterText : String}
    (nowValid : isoText now = .ok nowText)
    (laterValid : isoText later = .ok laterText)
    (less : now < later) (early : later < tenThousand) :
    textLE laterText nowText = false := by
  unfold textLE
  rw [(isoText_ok nowValid).1, (isoText_ok laterValid).1, Bool.not_eq_false',
    decide_eq_true_eq]
  exact isoChars_lt less (year_le_iff.mpr early)

theorem textLE_of_spent {now spent : Nat} {nowText spentText : String}
    (nowValid : isoText now = .ok nowText)
    (spentValid : isoText spent = .ok spentText)
    (early : now < tenThousand) (expired : spent ≤ now ∨ tenThousand ≤ spent) :
    textLE spentText nowText = true := by
  unfold textLE
  rw [(isoText_ok nowValid).1, (isoText_ok spentValid).1, Bool.not_eq_true',
    decide_eq_false_iff_not]
  have nowYear := year_le_iff.mpr early
  rcases expired with past | far
  · rcases Nat.lt_or_eq_of_le past with less | rfl
    · exact List.lt_asymm (isoChars_lt less nowYear)
    · exact List.lt_irrefl _
  · have farYear : 9999 < year spent := by
      by_contra four
      exact absurd (year_le_iff.mp (Nat.not_lt.mp four)) (Nat.not_lt.mpr far)
    exact List.lt_asymm (isoChars_plus_lt nowYear farYear)

section Call

variable {environment : PortalEnvironment} {readings : Readings}
variable {ticket : String} {portal final : PublicPortal}

/-- The row of a nonce is not deleted by the cleanup of a call. -/
def Survives (readings : Readings) (row : String × String) : Prop :=
  ∀ text, isoText readings.cleanup = .ok text → textLE row.2 text = false

def Holds (row : String × String) (portal : PublicPortal) : Prop :=
  row ∈ portal.nonces

variable {row : String × String}

theorem keeps_cleanup
    (survives : Survives readings row) :
    Keeps (Holds row) (cleanup readings.cleanup) := by
  intro portal holds
  unfold cleanup
  rw [lift_bind]
  cases time : isoText readings.cleanup with
  | error error => exact holds
  | ok text =>
      have kept := survives text time
      refine List.mem_filter.mpr ⟨holds, ?_⟩
      rw [kept]
      rfl

theorem keeps_insertNonce
    (nonce expiresAt : String) :
    Keeps (Holds row) (insertNonce nonce expiresAt) := by
  intro portal holds
  by_cases taken : nonce ∈ portal.nonces.map Prod.fst
  · have shape : insertNonce nonce expiresAt portal =
        (.error "The authorization ticket has already been used.", portal) :=
      if_pos taken
    rw [shape]
    exact holds
  · have shape : insertNonce nonce expiresAt portal =
        (.ok ⟨⟩, { portal with
          nonces := portal.nonces ++ [(nonce, expiresAt)] }) :=
      if_neg taken
    rw [shape]
    exact List.mem_append_left _ holds

theorem keeps_consumeNonce (payload : PortalTicket) :
    Keeps (Holds row) (consumeNonce payload) :=
  (keeps_lift _).bind fun _ => keeps_insertNonce _ _

theorem keeps_insertSession (session : SessionRow) :
    Keeps (Holds row) (insertSession session) := by
  intro portal holds
  by_cases taken :
      session.sessionHash ∈ portal.sessions.map SessionRow.sessionHash
  · have shape : insertSession session portal =
        (.error ("UNIQUE constraint failed: " ++
          "public_player_sessions.session_hash"), portal) :=
      if_pos taken
    rw [shape]
    exact holds
  · have shape : insertSession session portal =
        (.ok ⟨⟩, { portal with sessions := portal.sessions ++ [session] }) :=
      if_neg taken
    rw [shape]
    exact holds

theorem keeps_createSession {row : String × String}
    (payload : PortalTicket) :
    Keeps (Holds row) (createSession environment readings payload) := by
  unfold createSession
  refine Keeps.lift_bind ?_
  intro expiresAt
  refine Keeps.lift_bind ?_
  intro createdAt
  exact Keeps.bind (keeps_insertSession _) fun _ => keeps_pure _

theorem keeps_completeTicket
    (survives : Survives readings row) :
    Keeps (Holds row) (completeTicket environment readings ticket) := by
  unfold completeTicket
  refine Keeps.bind keeps_get ?_
  intro portal
  refine Keeps.lift_bind ?_
  intro payload
  apply Keeps.bind (keeps_cleanup survives)
  intro _
  apply Keeps.bind (keeps_consumeNonce payload)
  intro _
  exact @keeps_createSession environment readings row payload

/-- A ticket is completed only if no surviving row has its nonce, and its own
row is then in the table. -/
theorem completeTicket_ok
    {result : String × PublicPlayerSession}
    (completed : completeTicket environment readings ticket portal =
      (.ok result, final)) :
    ∃ payload expiresAt,
      verifyTicket environment portal.hmacSecret ticket readings.verify =
          .ok payload ∧
        isoText (expiry payload) = .ok expiresAt ∧
          (payload.nonce, expiresAt) ∈ final.nonces ∧
            ∀ row ∈ portal.nonces, Survives readings row →
              row.1 ≠ payload.nonce := by
  unfold completeTicket at completed
  rw [bind_of_ok (get_apply portal), lift_bind] at completed
  cases verified : verifyTicket environment portal.hmacSecret ticket
      readings.verify with
  | error error =>
      rw [verified] at completed
      cases completed
  | ok payload =>
      rw [verified] at completed
      obtain ⟨_, cleaned, cleaning, rest⟩ := bind_eq_ok.mp completed
      obtain ⟨_, consumed, consuming, creating⟩ := bind_eq_ok.mp rest
      obtain ⟨expiresAt, _, expires, inserting⟩ := bind_eq_ok.mp consuming
      rw [lift_apply] at expires
      injection expires with expires same
      subst same
      by_cases taken : payload.nonce ∈ cleaned.nonces.map Prod.fst
      · have shape := inserting.symm.trans (if_pos taken)
        cases shape
      · have shape := inserting.symm.trans (if_neg taken)
        injection shape with _ shape
        refine ⟨payload, expiresAt, rfl, expires, ?_, ?_⟩
        · have inserted : Holds (payload.nonce, expiresAt) consumed := by
            rw [shape]
            exact List.mem_append_right _ (List.mem_singleton_self _)
          have kept := (@keeps_createSession environment readings _
            payload).reached inserted
          rwa [creating] at kept
        · intro row member survives same
          have kept := (keeps_cleanup survives).reached member
          rw [cleaning] at kept
          apply taken
          rw [← same]
          exact List.mem_map_of_mem kept

end Call

/-- A completed ticket has its row, or has expired, or expires too late for the
texts to be in order. -/
def Kept (portal : PublicPortal) (clock : Nat) (entry : String × Nat) : Prop :=
  (∃ text, isoText entry.2 = .ok text ∧ (entry.1, text) ∈ portal.nonces) ∨
    entry.2 ≤ clock ∨ tenThousand ≤ entry.2

/-- Each completed ticket is kept, and no nonce was completed twice. -/
structure TicketsKept (run : PortalRun) : Prop where
  kept : ∀ entry ∈ run.used, Kept run.portal run.clock entry
  once : (run.used.map Prod.fst).Nodup

theorem survives_of_later {readings : Readings} {nonce text : String}
    {time : Nat} (valid : isoText time = .ok text)
    (later : readings.cleanup < time) (early : time < tenThousand) :
    Survives readings (nonce, text) :=
  fun _ nowValid => textLE_of_later nowValid valid later early

theorem follow_order {readings : Readings} {clock : Nat}
    (follows : readings.follow clock = true) :
    clock ≤ readings.cleanup ∧ readings.cleanup ≤ readings.created := by
  unfold Readings.follow at follows
  rw [Bool.and_eq_true, Bool.and_eq_true, Bool.and_eq_true,
    decide_eq_true_eq, decide_eq_true_eq, decide_eq_true_eq,
    decide_eq_true_eq] at follows
  omega

theorem kept_call {call : TicketCall} {portal : PublicPortal} {clock : Nat}
    {entry : String × Nat}
    (follows : call.readings.follow clock = true)
    (kept : Kept portal clock entry) :
    Kept
      (completeTicket call.environment call.readings call.ticket portal).2
      call.readings.created entry := by
  obtain ⟨started, ended⟩ := follow_order follows
  by_cases later : call.readings.cleanup < entry.2 ∧ entry.2 < tenThousand
  · rcases kept with ⟨text, valid, member⟩ | spent
    · have survives : Survives call.readings (entry.1, text) :=
        survives_of_later valid later.1 later.2
      exact .inl ⟨text, valid, (keeps_completeTicket survives).reached member⟩
    · omega
  · apply Or.inr
    omega

theorem ticketsKept_step
    {run next : PortalRun} {call : TicketCall}
    {players : List PublicPlayerSession}
    (tickets : TicketsKept run) (condition : MeetsItsNonce run call)
    (stepped : portalStep run call = some (next, players)) :
    TicketsKept next := by
  unfold portalStep at stepped
  by_cases follows : call.readings.follow run.clock = true
  · rw [if_pos follows] at stepped
    obtain ⟨started, ended⟩ := follow_order follows
    have kept : ∀ entry ∈ run.used, Kept _ _ entry :=
      fun entry member => kept_call follows (tickets.kept entry member)
    cases outcome : completeTicket call.environment call.readings call.ticket
        run.portal with
    | mk result portal =>
        rw [outcome] at stepped kept
        cases result with
        | error error =>
            cases stepped
            exact ⟨kept, tickets.once⟩
        | ok result =>
            obtain ⟨ticket, expiresAt, verified, valid, inserted, fresh⟩ :=
              completeTicket_ok outcome
            unfold MeetsItsNonce at condition
            have same : call.verified run.portal = .ok ticket := verified
            rw [same] at stepped condition
            cases stepped
            have unused : ticket.nonce ∉ run.used.map Prod.fst := by
              intro member
              obtain ⟨entry, used, nonce⟩ := List.mem_map.mp member
              obtain ⟨later, early⟩ :=
                condition (isoText_ok valid).2 entry used nonce
              rcases tickets.kept entry used with ⟨text, ends, row⟩ | spent
              · exact fresh _ row (survives_of_later ends later early) nonce
              · omega
            refine ⟨?_, ?_⟩
            · intro entry member
              rcases List.mem_append.mp member with before | added
              · exact kept entry before
              · rw [List.mem_singleton] at added
                subst added
                exact .inl ⟨expiresAt, valid, inserted⟩
            · rw [List.map_append, List.map_singleton,
                ← List.concat_eq_append]
              exact List.Nodup.concat unused tickets.once
  · rw [if_neg follows] at stepped
    cases stepped

/-- If every verified ticket with a completed nonce meets that nonce, no nonce
is completed twice. -/
theorem tickets_single_use
    (start : PublicPortal) (clock : Nat) (calls : List TicketCall)
    (run : PortalRun) (players : List PublicPlayerSession)
    (condition : Meets portalStep MeetsItsNonce ⟨start, clock, []⟩ calls)
    (ran : execute portalStep ⟨start, clock, []⟩ calls =
      some (run, players)) :
    (run.used.map Prod.fst).Nodup := by
  have initial : TicketsKept ⟨start, clock, []⟩ :=
    ⟨fun _ member => absurd member List.not_mem_nil, List.nodup_nil⟩
  have tickets : TicketsKept run :=
    execute_induction_of_meets
      (motive := fun run _ => TicketsKept run)
      (fun _ _ _ _ _ tickets condition stepped =>
        ticketsKept_step tickets condition stepped)
      initial condition ran
  exact tickets.once

/-- A payload that is read as one ticket with an expiry in seconds. -/
def exampleEnvironment (exp : Int) (randomToken : String) :
    PortalEnvironment where
  hmac secret payload := secret ++ payload
  parse _ :=
    some ⟨"00000000-0000-0000-0000-000000000000", "Player", "12345", none,
      some exp, "nonce-nonce-nonce-nonce"⟩
  randomToken
  hash token := token

def exampleSecret : String := "0123456789abcdef0123456789abcdef"

def examplePortal : PublicPortal := ⟨some exampleSecret, [], []⟩

def exampleTicket : String := "payload." ++ exampleSecret ++ "payload"

/-- A call for the example ticket whose clock may advance after the
verification. -/
def exampleCall
    (exp : Int) (randomToken : String) (verify cleanup : Nat) : TicketCall :=
  ⟨exampleEnvironment exp randomToken,
    ⟨verify, cleanup, cleanup, cleanup⟩, exampleTicket⟩

/-- A ticket that is sent again before it expires meets its nonce. -/
theorem tickets_single_use_sent_again :
    ∃ run players,
      execute portalStep ⟨examplePortal, 0, []⟩
          [exampleCall 1700000000 "first" 1699999000000 1699999000000,
            exampleCall 1700000000 "second" 1699999500000 1699999500000] =
        some (run, players) ∧ (run.used.map Prod.fst).Nodup := by
  have condition : Meets portalStep MeetsItsNonce ⟨examplePortal, 0, []⟩
      [exampleCall 1700000000 "first" 1699999000000 1699999000000,
        exampleCall 1700000000 "second" 1699999500000 1699999500000] := by
    decide +kernel
  have completes : (execute portalStep ⟨examplePortal, 0, []⟩
      [exampleCall 1700000000 "first" 1699999000000 1699999000000,
        exampleCall 1700000000 "second" 1699999500000
          1699999500000]).isSome := by
    decide +kernel
  obtain ⟨⟨run, players⟩, ran⟩ := Option.isSome_iff_exists.mp completes
  exact ⟨run, players, ran,
    tickets_single_use examplePortal 0 _ run players condition ran⟩

/-- The nonces that are completed by two calls with one ticket. -/
def completedTwice (first second : TicketCall) : List String :=
  match execute portalStep ⟨examplePortal, 0, []⟩ [first, second] with
  | some (run, _) => run.used.map Prod.fst
  | none => []

/-- The ticket expires between the verification and the cleanup of the second
call, or it expires in the year 10000. -/
theorem ticket_completed_twice :
    completedTwice
        (exampleCall 1700000000 "first" 1699999000000 1699999000000)
        (exampleCall 1700000000 "second" 1699999999999 1700000000000) =
      ["nonce-nonce-nonce-nonce", "nonce-nonce-nonce-nonce"] ∧
    completedTwice
        (exampleCall 253402300800 "first" 1699999000000 1699999000000)
        (exampleCall 253402300800 "second" 1699999000000 1699999000000) =
      ["nonce-nonce-nonce-nonce", "nonce-nonce-nonce-nonce"] := by
  decide +kernel

end GravitPanel.Portal
