import FederatedCatalog.Proofs.Server.Envelope

/-!
# Written requests are understood

A server that gets the text of a request does what the command of the request asks for, with the
values that the request was made of, whatever texts it bears. Cleaning is all that happens to them
on the way. So none of the rejections that report a request which cannot be read ever answers a
request that was written.

## Main definitions

* `Server.handle`: what a server does with the values of a request;
* `Rejection.unreadable`: the rejections of requests that cannot be read.

## Main results

* `Request.notMem_unreadable_of_check` and `Server.notMem_unreadable_of_run`: neither the checks of
  a request nor its command find it unreadable;
* `Server.process_render`: a written request is handled, and never turned down as unreadable.
-/

namespace FederatedCatalog

/-! ### Rejections -/

/-- The rejections of requests that cannot be read: the command, or something that it needs, is
absent or has the wrong form. -/
def Rejection.unreadable : List Rejection :=
  [malformedRequest, invalidCommand, missingResource, missingResourceOrSecret, missingTemplate,
    invalidServerList]

theorem Message.rejected_injective : Function.Injective Message.rejected := by
  intro a b h
  -- equal frames carry the same text, and no two rejections share theirs
  have hmessage : a.message = b.message := by
    have hframe : (Status.error a).render = (Status.error b).render := Message.frame.inj h
    have ha := Status.errorMessage?_error a
    rw [hframe, Status.errorMessage?_error b] at ha
    exact (Option.some.inj ha).symm
  revert hmessage
  cases a <;> cases b <;> decide

/-- A reply that grants a command is no rejection. -/
theorem Reply.Grants.answer_ne {reply : Reply} {command : Command} (h : reply.Grants command)
    (rejection : Rejection) : reply.answer ≠ .ok [.rejected rejection] := by
  intro hrejected
  obtain ⟨frame, payload, hanswer, hsuccess, -⟩ := h
  -- both open with the same frame, which reports success on one side and an error on the other
  have hframe : frame = (Status.error rejection).render :=
    Message.frame.inj (List.cons.inj (Except.ok.inj (hanswer.symm.trans hrejected))).1
  rw [hframe, Status.isSuccess_error] at hsuccess
  contradiction

/-- The checks on the values of a request never find it unreadable. -/
theorem Request.notMem_unreadable_of_check {q : Request} {secret : String} {rejection : Rejection}
    (h : q.check secret = .error rejection) : rejection ∉ Rejection.unreadable := by
  -- each check names a rejection of its own, and none of these is among the unreadable ones
  cases q <;>
    simp only [check, Call.refuseMask, Call.orReject, bind, Except.bind] at h <;>
    grind [Rejection.unreadable]

namespace Server

variable {s : Server} {files : FileSystem} {call : Call} {rejection : Rejection}

/-- What is turned down after an access to the catalog is turned down by what comes behind the
access, since the failure of a catalog is no rejection. -/
theorem exists_of_orFail {α β : Type} {access : Except Failure α} {behind : α → Except Refusal β}
    (h : (orFail access >>= behind) = .error (.rejected rejection)) :
    ∃ a, access = .ok a ∧ behind a = .error (.rejected rejection) := by
  cases access with
  | error failure => cases h
  | ok a => exact ⟨a, rfl, h⟩

/-- Storing is turned down for a conflict only. -/
theorem eq_of_storeOwned {r : Resource} {conflict : Rejection}
    (h : s.storeOwned r conflict = .error (.rejected rejection)) : rejection = conflict := by
  obtain ⟨taken, -, h⟩ := exists_of_orFail h
  cases taken with
  | true => exact (Refusal.rejected.inj (Except.error.inj h)).symm
  | false =>
    obtain ⟨stored, -, h⟩ := exists_of_orFail h
    cases h

/-- No call is turned down as unreadable, whatever the state of the server is. -/
theorem notMem_unreadable_of_run (h : s.run files call = .error (.rejected rejection)) :
    rejection ∉ Rejection.unreadable := by
  cases call with
  | publish r =>
    obtain rfl := eq_of_storeOwned h
    decide
  | share r path =>
    rw [run] at h
    split at h
    · obtain rfl := Refusal.rejected.inj (Except.error.inj h)
      decide
    · obtain rfl := eq_of_storeOwned h
      decide
  | remove r =>
    obtain ⟨⟨removed, catalog⟩, -, h⟩ := exists_of_orFail h
    cases removed with
    | none =>
      obtain rfl := Refusal.rejected.inj (Except.error.inj h)
      decide
    | some stored => cases h
  | query relay t =>
    -- a query that found what there is to find is answered, whether it is relayed or not
    obtain ⟨found, -, h⟩ := exists_of_orFail h
    dsimp only at h
    split at h <;> cases h
  | fetch t path =>
    obtain ⟨found, -, h⟩ := exists_of_orFail h
    cases found with
    | none =>
      obtain rfl := Refusal.rejected.inj (Except.error.inj h)
      decide
    | some stored =>
      dsimp only at h
      split at h
      · obtain rfl := Refusal.rejected.inj (Except.error.inj h)
        decide
      · cases h
  | exchange servers => cases h

/-! ### Handling -/

/-- What a server does with a request, given its values: the checks of the command, and then the
call that passed them. -/
def handle (s : Server) (files : FileSystem) (q : Request) : Except Refusal Step :=
  match q.check s.secret with
  | .error rejection => .error (.rejected rejection)
  | .ok call => s.run files call

/-- A written request begins as its command does with the values that it was made of. -/
theorem begin?_render (s : Server) (files : FileSystem) (q : Request) :
    s.begin? files q.render = s.handle files q.received := by
  rw [begin?, Call.read_render_eq_check]
  rfl

/-- A request that is handled passed its checks, and it is the call that goes on. -/
theorem exists_run_of_handle {q : Request} {step : Step} (h : s.handle files q = .ok step) :
    ∃ call, q.check s.secret = .ok call ∧ s.run files call = .ok step := by
  rw [handle] at h
  split at h
  next => cases h
  next call hcheck => exact ⟨call, hcheck, h⟩

theorem notMem_unreadable_of_handle {q : Request}
    (h : s.handle files q = .error (.rejected rejection)) : rejection ∉ Rejection.unreadable := by
  rw [handle] at h
  split at h
  next hcheck =>
    obtain rfl := Refusal.rejected.inj (Except.error.inj h)
    exact Request.notMem_unreadable_of_check hcheck
  next => exact notMem_unreadable_of_run h

/-- Whatever request is written and whatever the server is like, its text is processed as the
command of the request on the values that it was made of: resource and template with clean texts and
without origin and size, secret and relay flag as they are, and the list of servers entry by entry.
So the request is never turned down as one that cannot be read. -/
theorem process_render (s : Server) (files : FileSystem) (connector : Connector) (q : Request) :
    s.process files connector q.render = s.conclude connector (s.handle files q.received) ∧
      (∀ servers, q = .exchange servers →
        Incoming.member? "serverList" q.render = some (.array (servers.map Peer.toJson))) ∧
      ∀ rejection ∈ Rejection.unreadable,
        (s.process files connector q.render).answer ≠ .ok [.rejected rejection] := by
  -- the text is only read once, and what comes of it depends on the values alone
  have hprocess : s.process files connector q.render =
      s.conclude connector (s.handle files q.received) := by
    rw [process_eq_conclude, begin?_render]
  refine ⟨hprocess, ?_, fun rejection hunreadable hanswer => ?_⟩
  · rintro servers rfl
    rw [Incoming.member?_render]
    simp [Request.toJson, Request.arguments, Json.get?]
  rw [hprocess] at hanswer
  cases hhandle : s.handle files q.received with
  | error refusal =>
    rw [hhandle] at hanswer
    cases refusal with
    | failed failure => cases hanswer
    | rejected found =>
      -- the rejection that is answered is the one that was found, and that is none of these
      have hframe := (List.cons.inj (Except.ok.inj hanswer)).1
      obtain rfl := Message.rejected_injective hframe
      exact notMem_unreadable_of_handle hhandle hunreadable
  | ok step =>
    obtain ⟨call, -, hrun⟩ := exists_run_of_handle hhandle
    have heffect : s.Effect ⟨files, connector, q.render⟩ call (s.conclude connector (.ok step)) :=
      effect_of_run hrun
    rw [← hhandle] at heffect
    exact heffect.grants.answer_ne rejection hanswer

/-- A written list of servers is taken over, without the blanks around a hostname. -/
theorem process_render_exchange :
    let s := Server.start "s" ⟨"a", 1⟩
    let q := Request.exchange [⟨" b ", 2⟩]
    (s.process (fun _ => .directory) (fun _ _ => .crashed) q.render).server.directory.others =
        [⟨"b", 2⟩] ∧
      Incoming.member? "serverList" q.render = some (.array [Peer.toJson ⟨" b ", 2⟩]) := by
  intro s q
  obtain ⟨hprocess, hservers, -⟩ :=
    process_render s (fun _ => .directory) (fun _ _ => .crashed) q
  rw [hprocess]
  exact ⟨by decide +kernel, hservers [⟨" b ", 2⟩] rfl⟩

end Server

end FederatedCatalog
