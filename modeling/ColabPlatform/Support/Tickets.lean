import ColabPlatform.Common.Ids
import ColabPlatform.Foundation.Batch
import ColabPlatform.Foundation.Run

/-!
# Support service: tickets

The endpoints of the tickets, and the scan that stamps a ticket whose first answer or whose
resolution is late.  What becomes of a ticket depends on its own replies and on the scans
alone, so that its row after a run can be read off the events since it was filed.
-/

namespace ColabPlatform.Support

open Foundation Common

/-! ## Rows -/

inductive Category where
  | harassmentThreats
  | ipDmca
  | payment
  | technical
  | other
  deriving DecidableEq, Repr

def Category.text : Category → String
  | harassmentThreats => "harassment_threats"
  | ipDmca => "ip_dmca"
  | payment => "payment"
  | technical => "technical"
  | other => "other"

/-- `VALID_CATEGORIES` -/
def validCategories : List Category :=
  [.harassmentThreats, .ipDmca, .payment, .technical, .other]

inductive TicketStatus where
  | opened
  | inProgress
  | pendingUser
  | resolved
  | closed
  deriving DecidableEq, Repr

inductive Priority where
  | normal
  | critical
  deriving DecidableEq, Repr

inductive Actor where
  | user
  | agent
  | system
  deriving DecidableEq, Repr

inductive TicketEventKind where
  | created
  | reply
  | csat
  | slaBreach
  | slaResolveBreached
  deriving DecidableEq, Repr

/-- Times are in microseconds. -/
structure SupportTicket where
  id : String
  userId : String
  category : Category
  subject : String
  body : String
  status : TicketStatus
  priority : Priority
  tierAtCreation : String
  slaAckDue : Int
  slaResolveDue : Int
  slaPausedSeconds : Int
  slaAckBreachedAt : Option Int
  slaResolveBreachedAt : Option Int
  slaPausedAt : Option Int
  firstResponseAt : Option Int
  resolvedAt : Option Int
  updatedAt : Int
  deriving DecidableEq, Repr

structure SupportTicketEvent where
  ticketId : String
  kind : TicketEventKind
  actor : Actor
  actorId : Option String
  body : Option String
  deriving DecidableEq, Repr

structure SupportCSAT where
  ticketId : String
  score : Int
  comment : Option String
  deriving DecidableEq, Repr

abbrev TicketTable := Table SupportTicket (fun ticket => ticket.id) (noAlt SupportTicket)

abbrev CsatTable := Table SupportCSAT (fun csat => csat.ticketId) (noAlt SupportCSAT)

/-! ## Due times -/

def seconds (n : Int) : Int := n * 1000000

def hours (n : Int) : Int := seconds (n * 3600)

/-- `SLA_MAP`, in hours -/
def slaMap : Category → Int × Int
  | .harassmentThreats => (4, 24)
  | .ipDmca => (24, 168)
  | .payment => (24, 72)
  | .technical => (24, 120)
  | .other => (48, 168)

def computeSlaDue (category : Category) (tier : String) (createdAt : Int) : Int × Int :=
  let (ack, resolve) := slaMap category
  let ack := if tier = "premium_pro" then ack / 2 else ack
  (createdAt + hours ack, createdAt + hours resolve)

/-- The two promises that the scan watches. -/
inductive Sla where
  | ack
  | resolve
  deriving DecidableEq, Repr

namespace Sla

def due : Sla → SupportTicket → Int
  | ack, ticket => ticket.slaAckDue
  | resolve, ticket => ticket.slaResolveDue

def metAt : Sla → SupportTicket → Option Int
  | ack, ticket => ticket.firstResponseAt
  | resolve, ticket => ticket.resolvedAt

def breachedAt : Sla → SupportTicket → Option Int
  | ack, ticket => ticket.slaAckBreachedAt
  | resolve, ticket => ticket.slaResolveBreachedAt

def stamp (now : Int) : Sla → SupportTicket → SupportTicket
  | ack, ticket =>
      { ticket with slaAckBreachedAt := some now, priority := .critical, updatedAt := now }
  | resolve, ticket =>
      { ticket with slaResolveBreachedAt := some now, priority := .critical, updatedAt := now }

def kind : Sla → TicketEventKind
  | ack => .slaBreach
  | resolve => .slaResolveBreached

def message : Sla → String
  | ack => "Ack SLA breached"
  | resolve => "Resolve SLA breached"

/-- The condition of the scan's query. -/
def late (sla : Sla) (now : Int) (ticket : SupportTicket) : Bool :=
  (sla.metAt ticket).isNone && (sla.breachedAt ticket).isNone &&
    decide (ticket.status ∉ [.resolved, .closed]) &&
    decide (sla.due ticket + seconds ticket.slaPausedSeconds < now)

theorem id_stamp (sla : Sla) (now : Int) (ticket : SupportTicket) :
    (sla.stamp now ticket).id = ticket.id := by
  cases sla <;> rfl

theorem noAlt_stamp {now : Int} (sla : Sla) (ticket : SupportTicket) :
    noAlt SupportTicket (sla.stamp now ticket) = noAlt SupportTicket ticket := rfl

/-- The row as the scan leaves it. -/
def mark (sla : Sla) (now : Int) (ticket : SupportTicket) : SupportTicket :=
  if sla.late now ticket then sla.stamp now ticket else ticket

end Sla

/-! ## Requests -/

structure HttpError where
  status : Nat
  detail : String
  deriving DecidableEq, Repr

structure Headers where
  userId : IdField
  role : Option String
  deriving DecidableEq, Repr

/-- `_require_user` -/
def Headers.requireUser (headers : Headers) : Except HttpError String :=
  match headers.userId with
  | .missing => .error ⟨401, "Authentication required"⟩
  | .malformed _ => .error ⟨401, "Invalid user identity"⟩
  | .uuid id => .ok id

def Headers.isAgent (headers : Headers) : Bool :=
  headers.role.any fun role => role ∈ ["support_agent", "admin"]

def Headers.actor (headers : Headers) : Actor := if headers.isAgent then .agent else .user

structure TicketCreate where
  category : String
  subject : String
  body : String
  deriving DecidableEq, Repr

/-- A text of the model, which has at least one character. -/
def sized (limit : Nat) (text : String) : Bool := 1 ≤ text.length && text.length ≤ limit

def unprocessable : HttpError := ⟨422, "Unprocessable Entity"⟩

def TicketCreate.validate (body : TicketCreate) : Except HttpError Category :=
  match validCategories.find? (·.text = body.category) with
  | some category =>
      if sized 255 body.subject && sized 8000 body.body then .ok category
      else .error unprocessable
  | none => .error unprocessable

/-- The check of `tier_at_creation`. -/
def knownTiers : List String := ["free", "premium", "premium_pro"]

/-- A call of `_emit_sync` by the scan. -/
structure Emission where
  sla : Sla
  ticketId : String
  userId : String
  category : Category
  deriving DecidableEq, Repr

structure SupportDb where
  tickets : TicketTable
  events : List SupportTicketEvent
  csats : CsatTable
  emitted : List Emission

namespace SupportDb

def empty : SupportDb := ⟨Table.empty, [], Table.empty, []⟩

def newTicket (userId id tier : String) (category : Category) (body : TicketCreate)
    (now : Int) : SupportTicket where
  id := id
  userId := userId
  category := category
  subject := body.subject
  body := body.body
  status := .opened
  priority := .normal
  tierAtCreation := tier
  slaAckDue := (computeSlaDue category tier now).1
  slaResolveDue := (computeSlaDue category tier now).2
  slaPausedSeconds := 0
  slaAckBreachedAt := none
  slaResolveBreachedAt := none
  slaPausedAt := none
  firstResponseAt := none
  resolvedAt := none
  updatedAt := now

/-- `create_ticket`; `tier` is the answer of `_get_user_tier`. -/
def createTicket (db : SupportDb) (now : Int) (headers : Headers) (tier id : String)
    (body : TicketCreate) : Except HttpError SupportDb := do
  let category ← body.validate
  let userId ← headers.requireUser
  if tier ∈ knownTiers then
    match db.tickets.insert? (newTicket userId id tier category body now) with
    | some tickets =>
        .ok { db with
          tickets
          events := db.events ++ [⟨id, .created, .user, some userId, none⟩] }
    | none => .error ⟨500, "Internal Server Error"⟩
  else .error ⟨500, "Internal Server Error"⟩

end SupportDb

namespace SupportTicket

/-- The clock of a ticket that waits for its user goes on with the user's reply. -/
def resume (now : Int) (ticket : SupportTicket) : SupportTicket :=
  match ticket.slaPausedAt with
  | some pausedAt =>
      { ticket with
        slaPausedSeconds := ticket.slaPausedSeconds + (now - pausedAt).tdiv 1000000
        slaPausedAt := none
        status := .inProgress }
  | none => { ticket with status := .inProgress }

def firstResponse (actor : Actor) (now : Int) (ticket : SupportTicket) : SupportTicket :=
  if actor = .agent ∧ ticket.firstResponseAt = none then
    { ticket with firstResponseAt := some now, status := .inProgress }
  else ticket

/-- What a reply does to the row. -/
def replied (actor : Actor) (now : Int) (ticket : SupportTicket) : SupportTicket :=
  let ticket := ticket.firstResponse actor now
  let ticket := if actor = .user ∧ ticket.status = .pendingUser then ticket.resume now else ticket
  { ticket with updatedAt := now }

theorem id_replied (actor : Actor) (now : Int) (ticket : SupportTicket) :
    (ticket.replied actor now).id = ticket.id := by
  unfold replied firstResponse resume
  dsimp only
  repeat' split
  all_goals rfl

end SupportTicket

namespace SupportDb

/-- `reply_ticket` -/
def replyTicket (db : SupportDb) (now : Int) (headers : Headers) (ticketId body : String) :
    Except HttpError SupportDb := do
  if sized 8000 body then
    let userId ← headers.requireUser
    match db.tickets.lookup ticketId with
    | none => .error ⟨404, "Ticket not found"⟩
    | some ticket =>
        if ticket.userId ≠ userId ∧ headers.isAgent = false then .error ⟨403, "Access denied"⟩
        else
          .ok { db with
            tickets := db.tickets.modify ticketId (·.replied headers.actor now)
              (SupportTicket.id_replied headers.actor now)
            events := db.events ++ [⟨ticketId, .reply, headers.actor, some userId, some body⟩] }
  else .error unprocessable

/-- `submit_csat` -/
def submitCsat (db : SupportDb) (headers : Headers) (ticketId : String) (score : Int)
    (comment : Option String) : Except HttpError SupportDb := do
  if 1 ≤ score ∧ score ≤ 5 ∧ comment.all (·.length ≤ 1000) then
    let userId ← headers.requireUser
    match db.tickets.lookup ticketId with
    | none => .error ⟨404, "Ticket not found"⟩
    | some ticket =>
        if ticket.userId ≠ userId then .error ⟨403, "Access denied"⟩
        else if ticket.status ≠ .resolved then
          .error ⟨422, "CSAT can only be submitted for resolved tickets"⟩
        else
          match db.csats.insert? ⟨ticketId, score, comment⟩ with
          | none => .error ⟨409, "CSAT already submitted"⟩
          | some csats =>
              .ok { db with
                csats
                events := db.events ++ [⟨ticketId, .csat, .user, some userId, some s!"{score}"⟩] }
  else .error unprocessable

/-! ## The scan -/

/-- The rows of one query of the scan. -/
def overdue (db : SupportDb) (sla : Sla) (now : Int) : List SupportTicket :=
  db.tickets.rows.filter (sla.late now)

def breach (sla : Sla) (ticket : SupportTicket) : SupportTicketEvent :=
  ⟨ticket.id, sla.kind, .system, none, some sla.message⟩

def emission (sla : Sla) (ticket : SupportTicket) : Emission :=
  ⟨sla, ticket.id, ticket.userId, ticket.category⟩

/-- One of the two loops of the scan. -/
def scanFor (db : SupportDb) (sla : Sla) (now : Int) : SupportDb :=
  { db with
    tickets := db.tickets.modifyEach (db.overdue sla now) (sla.stamp now)
      (sla.id_stamp now) sla.noAlt_stamp
    events := db.events ++ (db.overdue sla now).map (breach sla)
    emitted := db.emitted ++ (db.overdue sla now).map (emission sla) }

/-- `sla_scan`; `crash` is how many breaches it had announced when it raised. -/
def slaScan (db : SupportDb) (now : Int) (crash : Option Nat) : SupportDb :=
  let scanned := (db.scanFor .ack now).scanFor .resolve now
  match crash with
  | none => scanned
  | some count =>
      { db with
        emitted := db.emitted ++ (scanned.emitted.drop db.emitted.length).take count }

end SupportDb

inductive DeskEvent where
  | create (now : Int) (headers : Headers) (tier id : String) (body : TicketCreate)
  | reply (now : Int) (headers : Headers) (ticketId body : String)
  | csat (headers : Headers) (ticketId : String) (score : Int) (comment : Option String)
  | scan (now : Int) (crash : Option Nat)
  deriving DecidableEq, Repr

namespace SupportDb

def answer (db : SupportDb) : DeskEvent → Except HttpError SupportDb
  | .create now headers tier id body => db.createTicket now headers tier id body
  | .reply now headers ticketId body => db.replyTicket now headers ticketId body
  | .csat headers ticketId score comment => db.submitCsat headers ticketId score comment
  | .scan now crash => .ok (db.slaScan now crash)

/-- A request that is refused is rolled back. -/
def step (db : SupportDb) (e : DeskEvent) : SupportDb := (db.answer e).toOption.getD db

def run (events : List DeskEvent) : SupportDb := runFrom step empty events

end SupportDb

/-! ## What happens to one ticket -/

namespace DeskEvent

/-- A reply that the ticket of a user gets: by whom and when. -/
def replies (id userId : String) : DeskEvent → Option (Actor × Int)
  | .reply now headers ticketId body =>
      match headers.requireUser with
      | .ok sender =>
          if ticketId = id ∧ sized 8000 body ∧ (sender = userId ∨ headers.isAgent) then
            some (headers.actor, now)
          else none
      | .error _ => none
  | _ => none

/-- When an agent answers the ticket. -/
def agentReply (id userId : String) (e : DeskEvent) : Option Int :=
  match e.replies id userId with
  | some (.agent, now) => some now
  | _ => none

/-- The time of a scan that finds this due time over. -/
def scansLate (due : Int) : DeskEvent → Option Int
  | .scan now none => if due < now then some now else none
  | _ => none

end DeskEvent

namespace SupportTicket

/-- What an event makes of a ticket. -/
def after (ticket : SupportTicket) (e : DeskEvent) : SupportTicket :=
  match e with
  | .scan now none => Sla.resolve.mark now (Sla.ack.mark now ticket)
  | e =>
      match e.replies ticket.id ticket.userId with
      | some (actor, now) => ticket.replied actor now
      | none => ticket

end SupportTicket

namespace SupportDb

variable {db db' : SupportDb} {id : String} {ticket : SupportTicket} {now : Int}

theorem lookup_scanFor (db : SupportDb) (sla : Sla) (now : Int) (id : String) :
    (db.scanFor sla now).tickets.lookup id = (db.tickets.lookup id).map (sla.mark now) :=
  Table.lookup_modifyEach_filter id

theorem createTicket_eq_ok {headers : Headers} {tier id' : String} {body : TicketCreate}
    (created : db.createTicket now headers tier id' body = .ok db') :
    ∃ userId category tickets, headers.requireUser = .ok userId ∧ body.validate = .ok category ∧
      db.tickets.insert? (newTicket userId id' tier category body now) = some tickets ∧
      db' = { db with
        tickets
        events := db.events ++ [⟨id', .created, .user, some userId, none⟩] } := by
  unfold createTicket at created
  cases valid : body.validate with
  | error e => simp [valid, bind, Except.bind] at created
  | ok category =>
      cases sender : headers.requireUser with
      | error e => simp [valid, sender, bind, Except.bind] at created
      | ok userId =>
          simp only [valid, sender, bind, Except.bind] at created
          split at created
          · cases inserted : db.tickets.insert? (newTicket userId id' tier category body now) with
            | none => simp [inserted] at created
            | some tickets =>
                simp only [inserted, Except.ok.injEq] at created
                exact ⟨userId, category, tickets, rfl, rfl, inserted, created.symm⟩
          · cases created

/-- A reply is taken exactly where `replies` says so. -/
theorem replyTicket_eq (found : db.tickets.lookup id = some ticket) (headers : Headers)
    (body : String) :
    (∃ sender, headers.requireUser = .ok sender ∧
      DeskEvent.replies id ticket.userId (.reply now headers id body) =
        some (headers.actor, now) ∧
      db.replyTicket now headers id body = .ok { db with
        tickets := db.tickets.modify id (·.replied headers.actor now)
          (SupportTicket.id_replied headers.actor now)
        events := db.events ++ [⟨id, .reply, headers.actor, some sender, some body⟩] }) ∨
    DeskEvent.replies id ticket.userId (.reply now headers id body) = none ∧
      ∃ e, db.replyTicket now headers id body = .error e := by
  unfold replyTicket
  simp only [DeskEvent.replies]
  by_cases size : sized 8000 body = true
  · cases sender : headers.requireUser with
    | error e => exact Or.inr ⟨rfl, e, by simp [size, bind, Except.bind]⟩
    | ok user =>
        by_cases refused : ticket.userId ≠ user ∧ headers.isAgent = false
        · refine Or.inr ⟨?_, ⟨403, "Access denied"⟩, ?_⟩
          · simp [refused.2, Ne.symm refused.1]
          · simp [size, found, refused, bind, Except.bind]
        · have admitted : user = ticket.userId ∨ headers.isAgent = true := by
            by_cases owner : user = ticket.userId
            · exact Or.inl owner
            · exact Or.inr (by simpa [Ne.symm owner] using refused)
          refine Or.inl ⟨user, rfl, ?_, ?_⟩
          · simp [size, admitted]
          · simp [size, found, refused, bind, Except.bind]
  · refine Or.inr ⟨?_, unprocessable, by simp [size]⟩
    cases headers.requireUser with
    | error e => rfl
    | ok user => simp [size]

/-- A rating that is taken is of a resolved ticket, and changes no ticket. -/
theorem submitCsat_eq_ok {headers : Headers} {ticketId : String} {score : Int}
    {comment : Option String} (rated : db.submitCsat headers ticketId score comment = .ok db') :
    (∃ ticket, db.tickets.lookup ticketId = some ticket ∧ ticket.status = .resolved) ∧
      db'.tickets = db.tickets := by
  unfold submitCsat at rated
  split at rated
  · cases sender : headers.requireUser with
    | error e => simp [sender, bind, Except.bind] at rated
    | ok user =>
        cases found : db.tickets.lookup ticketId with
        | none => simp [sender, found, bind, Except.bind] at rated
        | some ticket =>
            simp only [sender, found, bind, Except.bind] at rated
            split at rated
            · cases rated
            · split at rated
              · cases rated
              · rename_i resolved
                split at rated
                · cases rated
                · obtain rfl := Except.ok.inj rated
                  exact ⟨⟨ticket, rfl, not_not.1 resolved⟩, rfl⟩
  · cases rated

/-- A reply that is taken is to a ticket that is there. -/
theorem replyTicket_eq_ok {headers : Headers} {ticketId body : String}
    (replied : db.replyTicket now headers ticketId body = .ok db') :
    ∃ ticket sender, db.tickets.lookup ticketId = some ticket ∧
      headers.requireUser = .ok sender ∧
      DeskEvent.replies ticketId ticket.userId (.reply now headers ticketId body) =
        some (headers.actor, now) ∧
      db' = { db with
        tickets := db.tickets.modify ticketId (·.replied headers.actor now)
          (SupportTicket.id_replied headers.actor now)
        events := db.events ++ [⟨ticketId, .reply, headers.actor, some sender, some body⟩] } := by
  cases found : db.tickets.lookup ticketId with
  | none =>
      unfold replyTicket at replied
      split at replied
      · cases sender : headers.requireUser with
        | error e => simp [sender, bind, Except.bind] at replied
        | ok user => simp [sender, found, bind, Except.bind] at replied
      · cases replied
  | some ticket =>
      rcases replyTicket_eq found headers body with ⟨sender, is, taken, eq⟩ | ⟨-, e, error⟩
      · rw [eq] at replied
        exact ⟨ticket, sender, rfl, is, taken, (Except.ok.inj replied).symm⟩
      · rw [error] at replied
        cases replied

theorem replies_of_ne {now : Int} {headers : Headers} {ticketId body userId : String}
    (other : ticketId ≠ id) :
    DeskEvent.replies id userId (.reply now headers ticketId body) = none := by
  simp only [DeskEvent.replies]
  cases headers.requireUser with
  | error e => rfl
  | ok sender => simp [other]

/-- Nothing but its own replies and the scans reaches a ticket. -/
theorem lookup_step (found : db.tickets.lookup id = some ticket) (e : DeskEvent) :
    (db.step e).tickets.lookup id = some (ticket.after e) := by
  have same : ticket.id = id := Table.key_of_lookup found
  cases e with
  | create now headers tier id' body =>
      simp only [step, answer, SupportTicket.after, DeskEvent.replies]
      cases created : db.createTicket now headers tier id' body with
      | error e => exact found
      | ok db' =>
          obtain ⟨userId, category, tickets, -, -, inserted, rfl⟩ := createTicket_eq_ok created
          have other : id' ≠ id := by
            rintro rfl
            have free := Table.lookup_of_insert? inserted
            rw [show (newTicket userId id' tier category body now).id = id' from rfl, found] at free
            cases free
          change tickets.lookup id = _
          rw [Table.lookup_insert inserted]
          simpa [newTicket, other] using found
  | reply now headers ticketId body =>
      by_cases target : ticketId = id
      · subst target
        rcases @replyTicket_eq db ticketId ticket now found headers body with
          ⟨sender, -, taken, replied⟩ | ⟨refused, e, error⟩
        · simp only [step, answer, replied, Except.toOption, Option.getD_some]
          rw [Table.lookup_modify, if_pos rfl, found]
          simp [SupportTicket.after, same, taken]
        · simp only [step, answer, error, Except.toOption, Option.getD_none]
          simp [SupportTicket.after, same, refused, found]
      · simp only [SupportTicket.after, same, replies_of_ne target]
        cases replied : db.replyTicket now headers ticketId body with
        | error e => simpa [step, answer, replied, Except.toOption] using found
        | ok db' =>
            obtain ⟨stored, sender, -, -, -, rfl⟩ := replyTicket_eq_ok replied
            simp only [step, answer, replied, Except.toOption, Option.getD_some]
            rw [Table.lookup_modify, if_neg target, found]
  | csat headers ticketId score comment =>
      simp only [step, answer, SupportTicket.after, DeskEvent.replies]
      cases rated : db.submitCsat headers ticketId score comment with
      | error e => exact found
      | ok db' =>
          change db'.tickets.lookup id = _
          rw [(submitCsat_eq_ok rated).2, found]
  | scan now crash =>
      cases crash with
      | none =>
          change ((db.scanFor .ack now).scanFor .resolve now).tickets.lookup id = _
          rw [lookup_scanFor, lookup_scanFor, found]
          rfl
      | some count => exact found

/-- A ticket that appears has just been filed. -/
theorem lookup_step_of_none (absent : db.tickets.lookup id = none) {e : DeskEvent}
    (found : (db.step e).tickets.lookup id = some ticket) :
    ∃ userId tier category body now, ticket = newTicket userId id tier category body now := by
  cases e with
  | create now headers tier id' body =>
      simp only [step, answer] at found
      cases created : db.createTicket now headers tier id' body with
      | error e =>
          rw [created] at found
          rw [show ((Except.error e : Except HttpError SupportDb).toOption.getD db) = db from rfl,
            absent] at found
          cases found
      | ok db' =>
          obtain ⟨userId, category, tickets, -, -, inserted, rfl⟩ := createTicket_eq_ok created
          rw [created] at found
          change tickets.lookup id = _ at found
          rw [Table.lookup_insert inserted, absent] at found
          split at found
          · rename_i same
            change id' = id at same
            subst same
            exact ⟨userId, tier, category, body, now, (Option.some.inj found).symm⟩
          · cases found
  | reply now headers ticketId body =>
      cases replied : db.replyTicket now headers ticketId body with
      | error e =>
          simp only [step, answer, replied, Except.toOption, Option.getD_none, absent] at found
          cases found
      | ok db' =>
          obtain ⟨stored, sender, -, -, -, rfl⟩ := replyTicket_eq_ok replied
          simp only [step, answer, replied, Except.toOption, Option.getD_some,
            Table.lookup_modify, absent] at found
          simp at found
  | csat headers ticketId score comment =>
      simp only [step, answer] at found
      cases rated : db.submitCsat headers ticketId score comment with
      | error e =>
          simp only [rated, Except.toOption, Option.getD_none, absent] at found
          cases found
      | ok db' =>
          simp only [rated, Except.toOption, Option.getD_some, (submitCsat_eq_ok rated).2,
            absent] at found
          cases found
  | scan now crash =>
      cases crash with
      | none =>
          change ((db.scanFor .ack now).scanFor .resolve now).tickets.lookup id = _ at found
          rw [lookup_scanFor, lookup_scanFor, absent] at found
          cases found
      | some count =>
          change db.tickets.lookup id = _ at found
          rw [absent] at found
          cases found

theorem lookup_run (found : db.tickets.lookup id = some ticket) (events : List DeskEvent) :
    (runFrom step db events).tickets.lookup id =
      some (runFrom SupportTicket.after ticket events) := by
  induction events generalizing db ticket with
  | nil => exact found
  | cons e events ih => exact ih (lookup_step found e)

end SupportDb

/-! ## The history of a ticket -/

theorem DeskEvent.scansLate_of_agentReply {e : DeskEvent} {id userId : String}
    (answers : e.agentReply id userId ≠ none) (due : Int) : e.scansLate due = none := by
  cases e with
  | create | reply | csat => rfl
  | scan now crash => exact absurd rfl answers

namespace SupportTicket

variable {ticket : SupportTicket}

/-- Nothing in the service pauses a ticket or resolves it. -/
structure Running (ticket : SupportTicket) : Prop where
  status : ticket.status = if ticket.firstResponseAt.isSome then .inProgress else .opened
  unpaused : ticket.slaPausedAt = none
  paused : ticket.slaPausedSeconds = 0
  unresolved : ticket.resolvedAt = none
  priority : ticket.priority =
    if ticket.slaAckBreachedAt.isSome || ticket.slaResolveBreachedAt.isSome then .critical
    else .normal

theorem running_new (userId id tier : String) (category : Category) (body : TicketCreate)
    (now : Int) : (SupportDb.newTicket userId id tier category body now).Running :=
  ⟨rfl, rfl, rfl, rfl, rfl⟩

theorem Running.not_waiting (h : ticket.Running) : ticket.status ≠ .pendingUser := by
  rw [h.status]
  split <;> simp

theorem Running.live (h : ticket.Running) : ticket.status ∉ [.resolved, .closed] := by
  rw [h.status]
  split <;> simp

/-- A reply sets the time of the first answer, and nothing else that the scans look at. -/
theorem Running.replied_eq (h : ticket.Running) (actor : Actor) (now : Int) :
    ticket.replied actor now = { ticket with
      firstResponseAt :=
        ticket.firstResponseAt.or (if actor = .agent then some now else none)
      status := if actor = .agent then .inProgress else ticket.status
      updatedAt := now } := by
  have status := h.status
  cases actor with
  | user | system => simp [replied, firstResponse, h.not_waiting]
  | agent =>
      cases answered : ticket.firstResponseAt with
      | none => simp [replied, firstResponse, answered]
      | some time =>
          rw [answered, Option.isSome_some, if_pos rfl] at status
          simp [replied, firstResponse, answered, status]

theorem Running.late_eq (h : ticket.Running) (sla : Sla) (now : Int) :
    sla.late now ticket = ((sla.metAt ticket).isNone && (sla.breachedAt ticket).isNone &&
      decide (sla.due ticket < now)) := by
  simp [Sla.late, h.live, h.paused, seconds]

/-- What no event changes. -/
structure SameTerms (ticket ticket' : SupportTicket) : Prop where
  id : ticket'.id = ticket.id
  userId : ticket'.userId = ticket.userId
  slaAckDue : ticket'.slaAckDue = ticket.slaAckDue
  slaResolveDue : ticket'.slaResolveDue = ticket.slaResolveDue

/-- The three times that the history decides, after one event more. -/
structure Dated (ticket : SupportTicket) (e : DeskEvent) (ticket' : SupportTicket) : Prop where
  running : ticket'.Running
  terms : ticket.SameTerms ticket'
  firstResponseAt : ticket'.firstResponseAt =
    ticket.firstResponseAt.or (e.agentReply ticket.id ticket.userId)
  slaAckBreachedAt : ticket'.slaAckBreachedAt = ticket.slaAckBreachedAt.or
    (if ticket.firstResponseAt.isSome then none else e.scansLate ticket.slaAckDue)
  slaResolveBreachedAt : ticket'.slaResolveBreachedAt =
    ticket.slaResolveBreachedAt.or (e.scansLate ticket.slaResolveDue)

theorem Running.dated_reply (h : ticket.Running) {e : DeskEvent} {actor : Actor} {now : Int}
    (replies : e.replies ticket.id ticket.userId = some (actor, now))
    (noScan : ∀ due, e.scansLate due = none) : ticket.Dated e (ticket.replied actor now) := by
  rw [h.replied_eq]
  refine ⟨⟨?_, h.unpaused, h.paused, h.unresolved, h.priority⟩, ⟨rfl, rfl, rfl, rfl⟩, ?_, ?_, ?_⟩
  · have status := h.status
    by_cases agent : actor = .agent
    · simp [agent]
    · simp [agent, status]
  · cases actor <;> simp [DeskEvent.agentReply, replies]
  · simp [noScan]
  · simp [noScan]

/-- What one loop of the scan makes of a ticket. -/
structure Marked (sla : Sla) (now : Int) (ticket ticket' : SupportTicket) : Prop where
  running : ticket'.Running
  terms : ticket.SameTerms ticket'
  firstResponseAt : ticket'.firstResponseAt = ticket.firstResponseAt
  breachedAt : sla.breachedAt ticket' = (sla.breachedAt ticket).or
    (if (sla.metAt ticket).isSome then none
      else (DeskEvent.scan now none).scansLate (sla.due ticket))
  others : ∀ other, other ≠ sla → other.breachedAt ticket' = other.breachedAt ticket

theorem Running.marked (h : ticket.Running) (sla : Sla) (now : Int) :
    ticket.Marked sla now (sla.mark now ticket) := by
  unfold Sla.mark
  rw [h.late_eq]
  by_cases late : ((sla.metAt ticket).isNone && (sla.breachedAt ticket).isNone &&
      decide (sla.due ticket < now)) = true
  · rw [if_pos late]
    simp only [Bool.and_eq_true, Option.isNone_iff_eq_none, decide_eq_true_eq] at late
    obtain ⟨⟨unmet, unmarked⟩, passed⟩ := late
    cases sla with
    | ack | resolve =>
        refine ⟨⟨h.status, h.unpaused, h.paused, h.unresolved, ?_⟩, ⟨rfl, rfl, rfl, rfl⟩, rfl,
          ?_, ?_⟩
        · simp [Sla.stamp]
        · rw [unmet, unmarked]
          simp [Sla.stamp, Sla.breachedAt, DeskEvent.scansLate, passed]
        · intro other different
          cases other <;> first | exact absurd rfl different | rfl
  · rw [if_neg late]
    refine ⟨h, ⟨rfl, rfl, rfl, rfl⟩, rfl, ?_, fun _ _ => rfl⟩
    cases marked : sla.breachedAt ticket with
    | some time => rfl
    | none =>
        cases met : sla.metAt ticket with
        | some time => rfl
        | none => simpa [marked, met, DeskEvent.scansLate] using late

theorem SameTerms.trans {ticket' ticket'' : SupportTicket} (h : ticket.SameTerms ticket')
    (h' : ticket'.SameTerms ticket'') : ticket.SameTerms ticket'' :=
  ⟨h'.id.trans h.id, h'.userId.trans h.userId, h'.slaAckDue.trans h.slaAckDue,
    h'.slaResolveDue.trans h.slaResolveDue⟩

theorem Running.dated_scan (h : ticket.Running) (now : Int) :
    ticket.Dated (.scan now none) (Sla.resolve.mark now (Sla.ack.mark now ticket)) := by
  have first := h.marked .ack now
  have second := first.running.marked .resolve now
  have resolve := second.breachedAt
  have ack := second.others .ack (by decide)
  have kept := first.others .resolve (by decide)
  simp only [Sla.breachedAt, Sla.metAt, Sla.due] at resolve ack kept
  refine ⟨second.running, first.terms.trans second.terms, ?_, ?_, ?_⟩
  · rw [second.firstResponseAt, first.firstResponseAt]
    simp [DeskEvent.agentReply, DeskEvent.replies]
  · rw [ack]
    exact first.breachedAt
  · simp [resolve, kept, first.running.unresolved, first.terms.slaResolveDue]

theorem Running.dated (h : ticket.Running) (e : DeskEvent) : ticket.Dated e (ticket.after e) := by
  have still : ∀ e : DeskEvent, e.replies ticket.id ticket.userId = none →
      (∀ due, e.scansLate due = none) → ticket.Dated e ticket := fun e quiet noScan =>
    ⟨h, ⟨rfl, rfl, rfl, rfl⟩, by simp [DeskEvent.agentReply, quiet], by simp [noScan],
      by simp [noScan]⟩
  cases e with
  | create now headers tier id body => exact still _ rfl fun _ => rfl
  | csat headers ticketId score comment => exact still _ rfl fun _ => rfl
  | reply now headers ticketId body =>
      simp only [after]
      split
      · rename_i replies
        exact h.dated_reply replies fun _ => rfl
      · rename_i quiet
        exact still _ quiet fun _ => rfl
  | scan now crash =>
      cases crash with
      | none => exact h.dated_scan now
      | some count => exact still _ rfl fun _ => rfl

/-- What the history of a ticket says of it: it was answered by the first reply of an agent, its
answer was late for the first scan after the due time that came before the answer, and
its resolution for the first scan after the due time. -/
structure Tells (ticket : SupportTicket) (later : List DeskEvent) (ticket' : SupportTicket) :
    Prop where
  running : ticket'.Running
  terms : ticket.SameTerms ticket'
  firstResponseAt : ticket'.firstResponseAt = ticket.firstResponseAt.or
    (later.findSome? (·.agentReply ticket.id ticket.userId))
  slaAckBreachedAt : ticket'.slaAckBreachedAt = ticket.slaAckBreachedAt.or
    (if ticket.firstResponseAt.isSome then none
      else (later.takeWhile fun e => (e.agentReply ticket.id ticket.userId).isNone).findSome?
        (·.scansLate ticket.slaAckDue))
  slaResolveBreachedAt : ticket'.slaResolveBreachedAt = ticket.slaResolveBreachedAt.or
    (later.findSome? (·.scansLate ticket.slaResolveDue))

theorem Running.tells (h : ticket.Running) (later : List DeskEvent) :
    ticket.Tells later (runFrom after ticket later) := by
  induction later generalizing ticket with
  | nil =>
      refine ⟨h, ⟨rfl, rfl, rfl, rfl⟩, by simp, ?_, by simp⟩
      simp
  | cons e later ih =>
      have now := h.dated e
      have rest := ih now.running
      refine ⟨rest.running, now.terms.trans rest.terms, ?_, ?_, ?_⟩
      · rw [runFrom_cons, rest.firstResponseAt, now.firstResponseAt, now.terms.id,
          now.terms.userId, Option.or_assoc, List.findSome?_cons]
        cases e.agentReply ticket.id ticket.userId <;> rfl
      · rw [runFrom_cons, rest.slaAckBreachedAt, now.slaAckBreachedAt, now.firstResponseAt,
          now.terms.id, now.terms.userId, now.terms.slaAckDue, Option.or_assoc]
        congr 1
        cases ticket.firstResponseAt with
        | some time => rfl
        | none =>
            cases answers : e.agentReply ticket.id ticket.userId with
            | some time =>
                have noScan := DeskEvent.scansLate_of_agentReply
                  (by rw [answers]; simp) ticket.slaAckDue
                simp [answers, noScan]
            | none =>
                simp only [Option.or_none, Option.isSome_none, Bool.false_eq_true, if_false,
                  List.takeWhile_cons, answers, Option.isNone_none, if_true,
                  List.findSome?_cons]
                cases e.scansLate ticket.slaAckDue <;> rfl
      · rw [runFrom_cons, rest.slaResolveBreachedAt, now.slaResolveBreachedAt,
          now.terms.slaResolveDue, Option.or_assoc, List.findSome?_cons]
        cases e.scansLate ticket.slaResolveDue <;> rfl

end SupportTicket

/-! ## Every run -/

namespace SupportDb

variable {db db' : SupportDb} {id : String} {ticket : SupportTicket} {now : Int}

/-- The row of a ticket can be read off the events since it was filed. -/
theorem row_tells_history {first later : List DeskEvent} {headers : Headers} {tier : String}
    {body : TicketCreate} {userId : String} {category : Category}
    (filed : (run first).createTicket now headers tier id body = .ok db')
    (sender : headers.requireUser = .ok userId) (valid : body.validate = .ok category) :
    ∃ ticket, (run (first ++ .create now headers tier id body :: later)).tickets.lookup id =
        some ticket ∧
      ticket.firstResponseAt = later.findSome? (·.agentReply id userId) ∧
      ticket.slaAckBreachedAt =
        (later.takeWhile fun e => (e.agentReply id userId).isNone).findSome?
          (·.scansLate (computeSlaDue category tier now).1) ∧
      ticket.slaResolveBreachedAt =
        later.findSome? (·.scansLate (computeSlaDue category tier now).2) ∧
      ticket.priority =
        if ticket.slaAckBreachedAt.isSome || ticket.slaResolveBreachedAt.isSome then .critical
        else .normal := by
  obtain ⟨userId', category', tickets, sender', valid', inserted, rfl⟩ := createTicket_eq_ok filed
  obtain rfl := Except.ok.inj (sender.symm.trans sender')
  obtain rfl := Except.ok.inj (valid.symm.trans valid')
  have stored : (step (run first) (.create now headers tier id body)).tickets.lookup id =
      some (newTicket userId id tier category body now) := by
    simp only [step, answer, filed, Except.toOption, Option.getD_some]
    rw [Table.lookup_insert inserted]
    exact if_pos rfl
  have tells := (SupportTicket.running_new userId id tier category body now).tells later
  refine ⟨_, ?_, tells.firstResponseAt, tells.slaAckBreachedAt, tells.slaResolveBreachedAt,
    tells.running.priority⟩
  rw [run, runFrom_append, runFrom_cons]
  exact lookup_run stored later

def customer : Headers := ⟨.uuid "customer", none⟩

def supportAgent : Headers := ⟨.uuid "agent", some "support_agent"⟩

def question : TicketCreate := ⟨"technical", "Export", "It stops."⟩

/-- A question that a scan finds unanswered after a day, and that is answered an hour later. -/
theorem history_of_late_answer :
    ∃ ticket, (run ([] ++ .create 0 customer "free" "t" question ::
        [.scan (hours 25) none, .reply (hours 26) supportAgent "t" "We look."])).tickets.lookup
          "t" = some ticket ∧
      ticket.firstResponseAt = some (hours 26) ∧
      ticket.slaAckBreachedAt = some (hours 25) ∧ ticket.slaResolveBreachedAt = none := by
  obtain ⟨db', filed⟩ : ∃ db', (run []).createTicket 0 customer "free" "t" question = .ok db' :=
    ⟨_, rfl⟩
  obtain ⟨ticket, found, first, ack, resolve, -⟩ := row_tells_history filed rfl rfl
  exact ⟨ticket, found, first, ack, resolve⟩

/-- What no run leaves. -/
structure Unresolved (db : SupportDb) : Prop where
  running : ∀ id ticket, db.tickets.lookup id = some ticket → ticket.Running
  unrated : db.csats = Table.empty

theorem Unresolved.refuses (h : db.Unresolved) (headers : Headers) (ticketId : String)
    (score : Int) (comment : Option String) :
    (db.submitCsat headers ticketId score comment).toOption = none := by
  cases rated : db.submitCsat headers ticketId score comment with
  | error e => rfl
  | ok db' =>
      obtain ⟨⟨ticket, found, resolved⟩, -⟩ := submitCsat_eq_ok rated
      have live := (h.running ticketId ticket found).live
      simp [resolved] at live

theorem csats_step (h : db.Unresolved) (e : DeskEvent) : (db.step e).csats = db.csats := by
  cases e with
  | create now headers tier id body =>
      simp only [step, answer]
      cases created : db.createTicket now headers tier id body with
      | error e => rfl
      | ok db' =>
          obtain ⟨userId, category, tickets, -, -, -, rfl⟩ := createTicket_eq_ok created
          rfl
  | reply now headers ticketId body =>
      simp only [step, answer]
      cases replied : db.replyTicket now headers ticketId body with
      | error e => rfl
      | ok db' =>
          obtain ⟨stored, sender, -, -, -, rfl⟩ := replyTicket_eq_ok replied
          rfl
  | csat headers ticketId score comment =>
      simp only [step, answer, h.refuses headers ticketId score comment, Option.getD_none]
  | scan now crash => cases crash <;> rfl

theorem Unresolved.step (h : db.Unresolved) (e : DeskEvent) : (db.step e).Unresolved where
  running id ticket found := by
    cases before : db.tickets.lookup id with
    | some old =>
        rw [lookup_step before e] at found
        rw [← Option.some.inj found]
        exact ((h.running id old before).dated e).running
    | none =>
        obtain ⟨userId, tier, category, body, now, rfl⟩ := lookup_step_of_none before found
        exact SupportTicket.running_new userId id tier category body now
  unrated := (csats_step h e).trans h.unrated

theorem unresolved_run (events : List DeskEvent) : (run events).Unresolved := by
  have start : empty.Unresolved := ⟨fun id ticket found => (by cases found), rfl⟩
  exact runFrom_invariant (fun db e h => h.step e) start events

/-- No ticket is ever resolved, closed or left to its user, no clock ever pauses, and no rating
is ever taken: nothing in the service brings a ticket there. -/
theorem never_resolved (events : List DeskEvent) :
    (∀ ticket ∈ (run events).tickets.rows, ticket.status ∈ [.opened, .inProgress] ∧
      ticket.resolvedAt = none ∧ ticket.slaPausedAt = none ∧ ticket.slaPausedSeconds = 0) ∧
    (run events).csats.rows = [] ∧
    ∀ headers ticketId score comment,
      ((run events).submitCsat headers ticketId score comment).toOption = none := by
  have always := unresolved_run events
  refine ⟨fun ticket mem => ?_, ?_, fun headers => always.refuses headers⟩
  · have running := always.running ticket.id ticket (Table.lookup_of_mem mem)
    refine ⟨?_, running.unresolved, running.unpaused, running.paused⟩
    rw [running.status]
    split <;> simp
  · rw [always.unrated]
    rfl

/-! ## Breaches -/

/-- How often a breach of the ticket stands in its log. -/
def recorded (db : SupportDb) (sla : Sla) (id : String) : Nat :=
  db.events.countP fun e => decide (e.ticketId = id) && decide (e.kind = sla.kind)

/-- How often it was announced. -/
def announced (db : SupportDb) (sla : Sla) (id : String) : Nat :=
  db.emitted.countP fun e => decide (e.ticketId = id) && decide (e.sla = sla)

def stamped (db : SupportDb) (sla : Sla) (id : String) : Nat :=
  ((db.tickets.lookup id).any fun ticket => (sla.breachedAt ticket).isSome).toNat

/-- How often a loop of the scan meets the ticket. -/
def meets (db : SupportDb) (loop : Sla) (now : Int) (sla : Sla) (id : String) : Nat :=
  (db.overdue loop now).countP fun ticket => decide (ticket.id = id) && decide (loop = sla)

theorem meets_eq (db : SupportDb) (loop : Sla) (now : Int) (sla : Sla) (id : String) :
    db.meets loop now sla id =
      ((db.tickets.lookup id).any (loop.late now) && decide (loop = sla)).toNat := by
  by_cases same : loop = sla
  · have nodup : ((db.overdue loop now).map SupportTicket.id).Nodup :=
      (List.filter_sublist.map SupportTicket.id).nodup db.tickets.keys_nodup
    have count := nodup.count (a := id)
    rw [List.count, List.countP_map] at count
    have member : id ∈ (db.overdue loop now).map SupportTicket.id ↔
        (db.tickets.lookup id).any (loop.late now) = true := by
      simp only [overdue, List.mem_map, List.mem_filter, Option.any_eq_true]
      constructor
      · rintro ⟨ticket, ⟨mem, late⟩, rfl⟩
        exact ⟨ticket, Table.lookup_of_mem mem, late⟩
      · rintro ⟨ticket, found, late⟩
        exact ⟨ticket, ⟨Table.mem_of_lookup found, late⟩, Table.key_of_lookup found⟩
    have one : (if id ∈ (db.overdue loop now).map SupportTicket.id then 1 else 0) =
        ((db.tickets.lookup id).any (loop.late now)).toNat := by
      by_cases found : (db.tickets.lookup id).any (loop.late now) = true
      · rw [if_pos (member.2 found), found]
        rfl
      · rw [if_neg (mt member.1 found), Bool.eq_false_of_not_eq_true found]
        rfl
    rw [one] at count
    simp only [meets, same, decide_true, Bool.and_true]
    rw [← same, ← count]
    apply List.countP_congr
    simp
  · simp [meets, same]

theorem recorded_scanFor (db : SupportDb) (loop : Sla) (now : Int) (sla : Sla) (id : String) :
    (db.scanFor loop now).recorded sla id = db.recorded sla id + db.meets loop now sla id := by
  have kinds : loop.kind = sla.kind ↔ loop = sla := by cases loop <;> cases sla <;> simp [Sla.kind]
  simp only [recorded, scanFor, meets, List.countP_append, List.countP_map]
  congr 1
  apply List.countP_congr
  intro ticket mem
  have kind : (breach loop ticket).kind = sla.kind ↔ loop = sla := kinds
  simp only [Function.comp_apply, Bool.and_eq_true, decide_eq_true_iff, kind]
  exact Iff.rfl

theorem announced_scanFor (db : SupportDb) (loop : Sla) (now : Int) (sla : Sla) (id : String) :
    (db.scanFor loop now).announced sla id = db.announced sla id + db.meets loop now sla id := by
  simp only [announced, scanFor, meets, List.countP_append, List.countP_map]
  rfl

theorem stamped_scanFor (db : SupportDb) (loop : Sla) (now : Int) (sla : Sla) (id : String) :
    (db.scanFor loop now).stamped sla id = db.stamped sla id + db.meets loop now sla id := by
  rw [meets_eq, stamped, stamped, lookup_scanFor]
  cases db.tickets.lookup id with
  | none => rfl
  | some ticket =>
      by_cases late : loop.late now ticket = true
      · have unmarked : loop.breachedAt ticket = none := by
          simp only [Sla.late, Bool.and_eq_true, Option.isNone_iff_eq_none] at late
          exact late.1.1.2
        have marked : loop.mark now ticket = loop.stamp now ticket := if_pos late
        cases loop <;> cases sla <;> simp_all [Sla.stamp, Sla.breachedAt]
      · have same : loop.mark now ticket = ticket := if_neg late
        simp [same, late]

/-- Only a scan stamps a ticket. -/
theorem stamped_step {e : DeskEvent} (other : ∀ now, e ≠ .scan now none) (sla : Sla)
    (id : String) : (db.step e).stamped sla id = db.stamped sla id := by
  have replied : ∀ (actor : Actor) (now : Int) (ticket : SupportTicket),
      sla.breachedAt (ticket.replied actor now) = sla.breachedAt ticket := by
    intro actor now ticket
    unfold SupportTicket.replied SupportTicket.firstResponse SupportTicket.resume
    dsimp only
    repeat' split
    all_goals cases sla <;> rfl
  cases before : db.tickets.lookup id with
  | some ticket =>
      have kept : sla.breachedAt (ticket.after e) = sla.breachedAt ticket := by
        cases e with
        | create | csat => rfl
        | reply now headers ticketId body =>
            simp only [SupportTicket.after]
            split
            · exact replied _ _ ticket
            · rfl
        | scan now crash =>
            cases crash with
            | none => exact absurd rfl (other now)
            | some count => rfl
      simp [stamped, lookup_step before e, before, kept]
  | none =>
      cases now : (db.step e).tickets.lookup id with
      | none => simp [stamped, now, before]
      | some ticket =>
          obtain ⟨userId, tier, category, body, time, rfl⟩ := lookup_step_of_none before now
          cases sla <;> simp [stamped, now, before, newTicket, Sla.breachedAt]

/-- What a scan that ends adds to the log, to the announcements and to the stamps. -/
def scanned (db : SupportDb) (now : Int) (sla : Sla) (id : String) : Nat :=
  db.meets .ack now sla id + (db.scanFor .ack now).meets .resolve now sla id

/-- The log and the announcements grow by nothing else. -/
theorem logs_step (h : db.Unresolved) {e : DeskEvent} (other : ∀ now crash, e ≠ .scan now crash)
    (sla : Sla) (id : String) : (db.step e).recorded sla id = db.recorded sla id ∧
      (db.step e).announced sla id = db.announced sla id := by
  have created : TicketEventKind.created ≠ sla.kind := by cases sla <;> decide
  have reply : TicketEventKind.reply ≠ sla.kind := by cases sla <;> decide
  cases e with
  | create now headers tier id' body =>
      simp only [step, answer]
      cases filed : db.createTicket now headers tier id' body with
      | error e => exact ⟨rfl, rfl⟩
      | ok db' =>
          obtain ⟨userId, category, tickets, -, -, -, rfl⟩ := createTicket_eq_ok filed
          exact ⟨by simp [recorded, Except.toOption, created], rfl⟩
  | reply now headers ticketId body =>
      simp only [step, answer]
      cases replied : db.replyTicket now headers ticketId body with
      | error e => exact ⟨rfl, rfl⟩
      | ok db' =>
          obtain ⟨stored, sender, -, -, -, rfl⟩ := replyTicket_eq_ok replied
          exact ⟨by simp [recorded, Except.toOption, reply], rfl⟩
  | csat headers ticketId score comment =>
      simp [step, answer, h.refuses headers ticketId score comment]
  | scan now crash => exact absurd rfl (other now crash)

theorem logs_scan (db : SupportDb) (now : Int) (sla : Sla) (id : String) :
    (db.step (.scan now none)).recorded sla id = db.recorded sla id + db.scanned now sla id ∧
      (db.step (.scan now none)).announced sla id =
        db.announced sla id + db.scanned now sla id ∧
      (db.step (.scan now none)).stamped sla id = db.stamped sla id + db.scanned now sla id := by
  change ((db.scanFor .ack now).scanFor .resolve now).recorded sla id = _ ∧
    ((db.scanFor .ack now).scanFor .resolve now).announced sla id = _ ∧
    ((db.scanFor .ack now).scanFor .resolve now).stamped sla id = _
  rw [recorded_scanFor, recorded_scanFor, announced_scanFor, announced_scanFor, stamped_scanFor,
    stamped_scanFor, scanned]
  omega

/-- Every stamp stands in the log once and was announced, more than once only after a scan
that has raised. -/
structure Accounted (db : SupportDb) : Prop where
  unresolved : db.Unresolved
  recorded_eq : ∀ sla id, db.recorded sla id = db.stamped sla id
  recorded_le : ∀ sla id, db.recorded sla id ≤ db.announced sla id

theorem Accounted.step (h : db.Accounted) (e : DeskEvent) : (db.step e).Accounted := by
  suffices ∀ sla id, (db.step e).recorded sla id = (db.step e).stamped sla id ∧
      (db.step e).recorded sla id ≤ (db.step e).announced sla id from
    ⟨h.unresolved.step e, fun sla id => (this sla id).1, fun sla id => (this sla id).2⟩
  intro sla id
  have same := h.recorded_eq sla id
  have le := h.recorded_le sla id
  by_cases scan : ∃ now crash, e = .scan now crash
  · obtain ⟨now, crash, rfl⟩ := scan
    cases crash with
    | none =>
        have logs := logs_scan db now sla id
        omega
    | some count =>
        refine ⟨same, le.trans ?_⟩
        simp only [announced, SupportDb.step, answer, slaScan, Except.toOption,
          Option.getD_some, List.countP_append]
        omega
  · have other : ∀ now crash, e ≠ .scan now crash := fun now crash is => scan ⟨now, crash, is⟩
    have logs := logs_step h.unresolved other sla id
    rw [logs.1, logs.2, stamped_step fun now => other now none]
    exact ⟨same, le⟩

theorem accounted_run (events : List DeskEvent) : (run events).Accounted := by
  have start : empty.Accounted :=
    ⟨unresolved_run [], fun _ _ => rfl, fun _ _ => Nat.le_refl _⟩
  exact runFrom_invariant (fun db e h => h.step e) start events

/-- While no scan raises, nothing is announced that does not stand in the log. -/
theorem announced_run {events : List DeskEvent}
    (through : ∀ now count, DeskEvent.scan now (some count) ∉ events) (sla : Sla) (id : String) :
    (run events).announced sla id = (run events).recorded sla id := by
  have keeps : ∀ (db : SupportDb) (e : DeskEvent), (∀ now count, e ≠ .scan now (some count)) →
      db.Unresolved ∧ db.announced sla id = db.recorded sla id →
      (db.step e).Unresolved ∧ (db.step e).announced sla id = (db.step e).recorded sla id := by
    rintro db e ends ⟨unresolved, same⟩
    refine ⟨unresolved.step e, ?_⟩
    by_cases scan : ∃ now, e = .scan now none
    · obtain ⟨now, rfl⟩ := scan
      have logs := logs_scan db now sla id
      omega
    · have other : ∀ now crash, e ≠ .scan now crash := by
        rintro now (_ | count) rfl
        · exact scan ⟨now, rfl⟩
        · exact ends now count rfl
      have logs := logs_step unresolved other sla id
      rw [logs.1, logs.2, same]
  have guarded : Guarded step (fun _ e => ∀ now count, e ≠ .scan now (some count)) empty
      events := by
    refine guarded_of_forall (fun e mem now count is => ?_) empty
    subst is
    exact through now count mem
  exact (runFrom_invariant_of_guarded keeps ⟨unresolved_run [], rfl⟩ guarded).2

end SupportDb

end ColabPlatform.Support
