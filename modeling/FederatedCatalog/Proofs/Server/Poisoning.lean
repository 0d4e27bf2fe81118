import FederatedCatalog.Proofs.Server.Requests
import FederatedCatalog.Proofs.Server.Effects

/-!
# Poisoned catalogs

A crash while the catalog is written leaves nobody knows what in it, so from then on a server does
not touch it any more. Requests that are turned down before the catalog is needed are still turned
down for the same reason, and all others fail, those that would have been granted among them. What
a server knows of other servers is no part of the catalog: exchanges go on as before.

## Main definitions

* `Server.withPoison`: a server whose catalog works, or is poisoned;
* `Reply.Unaffected` and `Reply.FailsClosed`: what a poisoned catalog makes of a reply.

## Main results

* `Server.run_withPoison`: a call fails on a poisoned catalog, or is turned down on any;
* `Server.catalog_reply_of_poisoned`, `Server.catalog_after_of_poisoned`: a poisoned catalog stays
  as it is;
* `Server.poisoned_reply`: the replies of a server with and without a poisoned catalog.
-/

namespace FederatedCatalog

/-- The server with a catalog that works, or with a poisoned one, and with the same entries. -/
def Server.withPoison (s : Server) (poisoned : Bool) : Server :=
  { s with catalog := { s.catalog with poisoned } }

/-- A server with a poisoned catalog gives this reply, and would usually give that one: the answer
is the same, the same requests go out, and the server learns the same of other servers. -/
structure Reply.Unaffected (reply usual : Reply) (s : Server) : Prop where
  answer_eq : reply.answer = usual.answer
  sent_eq : reply.sent = usual.sent
  server_eq : reply.server = { s with directory := usual.server.directory }

/-- A server with a poisoned catalog gives this reply, and would usually give that one: it turns the
request down for the same reason, or it fails because of the poison, which is a failure of
concurrency. It fails whenever the request would usually succeed. Nothing changes, and nobody else
hears of it. -/
structure Reply.FailsClosed (reply usual : Reply) (s : Server) : Prop where
  answer :
    (∃ rejection, reply.answer = .ok [.rejected rejection] ∧
      usual.answer = .ok [.rejected rejection]) ∨
    ∃ mode, reply.answer = .error (.poisoned mode)
  kind_eq : ∀ failure, reply.answer = .error failure → failure.kind = .concurrency
  fails_of_succeeds : usual.Succeeds → ∃ mode, reply.answer = .error (.poisoned mode)
  server_eq : reply.server = s
  sent_eq : reply.sent = []

/-- A reply that turns the request down, as usual, fails closed. -/
theorem Reply.FailsClosed.of_rejected {reply usual : Reply} {s : Server} {rejection : Rejection}
    (hreply : reply = { answer := .ok [.rejected rejection], server := s })
    (husual : usual.answer = .ok [.rejected rejection]) : reply.FailsClosed usual s := by
  subst hreply
  exact
    { answer := .inl ⟨rejection, rfl, husual⟩
      kind_eq := nofun
      fails_of_succeeds := fun hsucceeds =>
        absurd hsucceeds (Reply.not_succeeds_of_rejected husual)
      server_eq := rfl
      sent_eq := rfl }

/-- A reply that fails because of the poison fails closed. -/
theorem Reply.FailsClosed.of_poisoned {reply usual : Reply} {s : Server} {mode : Failure.LockMode}
    (hreply : reply = { answer := .error (.poisoned mode), server := s }) :
    reply.FailsClosed usual s := by
  subst hreply
  exact
    { answer := .inr ⟨mode, rfl⟩
      kind_eq := fun _ hfailure => by cases hfailure; rfl
      fails_of_succeeds := fun _ => ⟨mode, rfl⟩
      server_eq := rfl
      sent_eq := rfl }

namespace Server

variable {s : Server} {turn : Turn} {call : Call}

/-! ### A single request -/

/-- A call other than an exchange fails on a poisoned catalog, or it is turned down whether the
catalog is poisoned or not. -/
theorem run_withPoison (s : Server) (files : FileSystem) (hcall : call.command ≠ .exchange) :
    (∃ mode, (s.withPoison true).run files call = .error (.failed (.poisoned mode))) ∨
      ∃ rejection, ∀ poisoned,
        (s.withPoison poisoned).run files call = .error (.rejected rejection) := by
  have hpoisoned : (s.withPoison true).catalog.poisoned = true := rfl
  have hrun := run_of_poisoned hpoisoned files call
  cases call with
  | publish | query | fetch => exact .inl ⟨.read, hrun⟩
  | remove => exact .inl ⟨.write, hrun⟩
  | share r path =>
    by_cases habsent : (files path).fileSize?.isNone
    · -- without a file the catalog is not looked at, so its poison makes no difference
      refine .inr ⟨.cannotShare, fun poisoned => ?_⟩
      rw [run, if_pos habsent]
    · exact .inl ⟨.read, hrun.trans (if_neg habsent)⟩
  | exchange servers => exact absurd rfl hcall

/-- Reading looks at the secret only, so the server gets the same call whether its catalog is
poisoned or not. -/
theorem reply_withPoison_of_read (hread : Call.read s.secret turn.text = .ok call)
    (poisoned : Bool) :
    (s.withPoison poisoned).reply turn =
      (s.withPoison poisoned).conclude turn.connector
        ((s.withPoison poisoned).run turn.files call) :=
  reply_of_read hread

/-- What is turned down when it is read is turned down whether the catalog is poisoned or not. -/
theorem reply_withPoison_of_not_read {rejection : Rejection}
    (hread : Call.read s.secret turn.text = .error rejection) (poisoned : Bool) :
    (s.withPoison poisoned).reply turn =
      { answer := .ok [.rejected rejection], server := s.withPoison poisoned } :=
  reply_of_not_read hread

/-- A request that is read as a call other than an exchange fails closed. -/
theorem failsClosed_of_read (hread : Call.read s.secret turn.text = .ok call)
    (hcall : call.command ≠ .exchange) :
    ((s.withPoison true).reply turn).FailsClosed ((s.withPoison false).reply turn)
      (s.withPoison true) := by
  have hreply := reply_withPoison_of_read hread
  rcases s.run_withPoison turn.files hcall with ⟨mode, hfailed⟩ | ⟨rejection, hrejected⟩
  · have hfails : (s.withPoison true).reply turn =
        { answer := .error (.poisoned mode), server := s.withPoison true } := by
      rw [hreply, hfailed]
      rfl
    exact Reply.FailsClosed.of_poisoned hfails
  · have hturned (poisoned : Bool) : (s.withPoison poisoned).reply turn =
        { answer := .ok [.rejected rejection], server := s.withPoison poisoned } := by
      rw [hreply, hrejected]
      rfl
    exact Reply.FailsClosed.of_rejected (hturned true) (by rw [hturned])

/-- A request that is turned down when it is read fails closed as well. -/
theorem failsClosed_of_not_read {rejection : Rejection}
    (hread : Call.read s.secret turn.text = .error rejection) :
    ((s.withPoison true).reply turn).FailsClosed ((s.withPoison false).reply turn)
      (s.withPoison true) := by
  have hreply := reply_withPoison_of_not_read hread
  exact Reply.FailsClosed.of_rejected (hreply true) (by rw [hreply])

/-- An exchange gets the same answer as usual, and the server learns the same of others. -/
theorem unaffected_of_exchange (hread : Call.read s.secret turn.text = .ok call)
    (hexchange : call.command = .exchange) :
    ((s.withPoison true).reply turn).Unaffected ((s.withPoison false).reply turn)
      (s.withPoison true) := by
  obtain ⟨servers, rfl⟩ : ∃ servers, call = .exchange servers := by
    cases call with
    | exchange servers => exact ⟨servers, rfl⟩
    | publish | remove | share | query | fetch => cases hexchange
  -- an exchange is run without a look at the catalog
  rw [reply_withPoison_of_read hread, reply_withPoison_of_read hread]
  exact ⟨rfl, rfl, rfl⟩

/-- A request that is turned down when it is read gets the same answer as usual. -/
theorem unaffected_of_not_read {rejection : Rejection}
    (hread : Call.read s.secret turn.text = .error rejection) :
    ((s.withPoison true).reply turn).Unaffected ((s.withPoison false).reply turn)
      (s.withPoison true) := by
  rw [reply_withPoison_of_not_read hread, reply_withPoison_of_not_read hread]
  exact ⟨rfl, rfl, rfl⟩

/-! ### Runs -/

/-- No request changes a poisoned catalog. -/
theorem catalog_reply_of_poisoned (h : s.catalog.poisoned = true) (turn : Turn) :
    (s.reply turn).server.catalog = s.catalog := by
  rcases s.effect_cases turn with ⟨_, hreply⟩ | ⟨_, -, hreply⟩ | ⟨call, hread, -⟩
  · rw [hreply]
  · rw [hreply]
  · rw [reply_of_read hread]
    rcases refused_of_poisoned h turn.files call with ⟨refusal, hrefused⟩ | ⟨servers, rfl⟩
    · rw [hrefused]
      cases refusal <;> rfl
    · rfl

/-- No run of requests changes a poisoned catalog. -/
theorem catalog_after_of_poisoned (h : s.catalog.poisoned = true) (turns : List Turn) :
    (s.after turns).catalog = s.catalog := by
  apply after_induction (P := fun s' => s'.catalog = s.catalog) _ s turns rfl
  intro s' turn ih
  rw [catalog_reply_of_poisoned (by rw [ih, h]) turn, ih]

/-- A server with a poisoned catalog takes an exchange, and a request that names no command, as it
would with a catalog that works: the answer is the same, and so is what it learns of other servers.
Every other request fails closed: it is turned down for the same reason or fails because of the
poison, always so if it would have succeeded, nobody else is asked and the server stays as it was.
The catalog stays poisoned, with the same entries, whatever requests come in. -/
theorem poisoned_reply (s : Server) (turn : Turn) :
    let poisoned := s.withPoison true
    let reply := poisoned.reply turn
    let usual := (s.withPoison false).reply turn
    (Incoming.command? turn.text = some Command.exchange.name ∨
        (∀ command : Command, Incoming.command? turn.text ≠ some command.name) →
      reply.Unaffected usual poisoned) ∧
    (∀ command : Command, command ≠ .exchange →
      Incoming.command? turn.text = some command.name → reply.FailsClosed usual poisoned) ∧
    ∀ turns, (poisoned.after turns).catalog = poisoned.catalog := by
  intro poisoned reply usual
  refine ⟨fun hcommand => ?_, fun command hother hcommand => ?_,
    catalog_after_of_poisoned (s := poisoned) rfl⟩
  · cases hread : Call.read s.secret turn.text with
    | error rejection => exact unaffected_of_not_read hread
    | ok call =>
      -- a call was read, so the text names its command, and that is an exchange
      have hnamed := (Call.repeats_of_read hread).command
      obtain hexchange | hunknown := hcommand
      · exact unaffected_of_exchange hread (Incoming.command_unique hnamed hexchange)
      · exact absurd hnamed (hunknown call.command)
  · cases hread : Call.read s.secret turn.text with
    | error rejection => exact failsClosed_of_not_read hread
    | ok call =>
      have hnamed := (Call.repeats_of_read hread).command
      have hname : call.command = command := Incoming.command_unique hnamed hcommand
      exact failsClosed_of_read hread (hname ▸ hother)

end Server

end FederatedCatalog
