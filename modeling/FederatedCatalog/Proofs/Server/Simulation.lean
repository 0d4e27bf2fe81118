import FederatedCatalog.Proofs.Server.Effects
import FederatedCatalog.Proofs.Server.Requests

/-!
# Two servers side by side

Two servers that list different things may still take a request alike: they turn it down for the
same reason, answer it with the same messages, or relay it in the same words. What they show to the
outside is then the same, provided that the servers they ask answer both of them alike.

## Main definitions

* `Server.Alike`: two servers take a call alike and are related afterwards.

## Main results

* `Server.Alike.reply`: the replies that follow;
* `Server.relays_of_sent_ne_nil`: only a query that asks for it is relayed.
-/

namespace FederatedCatalog.Server

/-- Two servers take a call alike, and whatever it leaves of them is related. -/
inductive Alike (related : Server → Server → Prop) :
    Except Refusal Step → Except Refusal Step → Prop where
  | refused (refusal : Refusal) : Alike related (.error refusal) (.error refusal)
  | done (messages : List Message) {s s' : Server} (h : related s s') :
      Alike related (.ok (.done messages s)) (.ok (.done messages s'))
  | relay (found : List Resource) (peers : List Peer) (request : String) :
      Alike related (.ok (.relay found peers request)) (.ok (.relay found peers request))

variable {related : Server → Server → Prop} {s s' : Server} {begun begun' : Except Refusal Step}

/-- Servers with one secret take a request alike if they take every call alike that it can be read
as. -/
theorem Alike.begin? {files files' : FileSystem} {text : String} (hsecret : s.secret = s'.secret)
    (hrun : ∀ call, Call.read s.secret text = .ok call →
      Alike related (s.run files call) (s'.run files' call)) :
    Alike related (s.begin? files text) (s'.begin? files' text) := by
  rw [Server.begin?, Server.begin?, ← hsecret]
  cases hread : Call.read s.secret text with
  | error rejection => exact .refused _
  | ok call => exact hrun call hread

section Conclude

variable (h : Alike related begun begun') (connector connector' : Connector)
include h

/-- Servers that take a call alike are related afterwards. -/
theorem Alike.server (hs : related s s') :
    related (s.conclude connector begun).server (s'.conclude connector' begun').server := by
  cases h with
  | refused refusal => cases refusal <;> exact hs
  | done messages hrelated => exact hrelated
  | relay => exact hs

/-- Servers that take a call alike send the same. -/
theorem Alike.sent_eq :
    (s.conclude connector begun).sent = (s'.conclude connector' begun').sent := by
  cases h with
  | refused refusal => cases refusal <;> rfl
  | done | relay => rfl

/-- Servers that take a call alike give the same answer if nobody else is asked or those who are
asked answer both of them alike. -/
theorem Alike.answer_eq
    (hothers : connector = connector' ∨ (s.conclude connector begun).sent = []) :
    (s.conclude connector begun).answer = (s'.conclude connector' begun').answer := by
  cases h with
  | refused refusal => cases refusal <;> rfl
  | done => rfl
  | relay found peers request =>
    obtain rfl | hsent := hothers
    · rfl
    · -- nothing is sent only if there is nobody to send it to
      obtain rfl : peers = [] := List.map_eq_nil_iff.mp hsent
      rfl

end Conclude

/-- Servers that take the requests of two turns alike are related afterwards, send the same, and
give the same answer unless they ask others who answer them differently. -/
theorem Alike.reply {a b : Turn}
    (h : Alike related (s.begin? a.files a.text) (s'.begin? b.files b.text)) (hs : related s s') :
    related (s.reply a).server (s'.reply b).server ∧ (s.reply a).sent = (s'.reply b).sent ∧
      (a.connector = b.connector ∨ (s.reply a).sent = [] →
        (s.reply a).answer = (s'.reply b).answer) := by
  rw [reply_eq_conclude, reply_eq_conclude]
  exact ⟨h.server _ _ hs, h.sent_eq _ _, h.answer_eq _ _⟩

/-- Other servers hear of nothing but of queries that ask to be relayed. -/
theorem relays_of_sent_ne_nil {turn : Turn} (h : (s.reply turn).sent ≠ []) :
    Incoming.Relays turn.text := by
  obtain ⟨rejection, hreply⟩ | ⟨failure, -, hreply⟩ | ⟨call, hread, heffect⟩ := effect_cases s turn
  · exact absurd (congrArg Reply.sent hreply) h
  · exact absurd (congrArg Reply.sent hreply) h
  · generalize s.reply turn = reply at h heffect
    cases heffect with
    | relay t request =>
      exact ⟨(Call.repeats_of_read hread).command, Call.relay?_of_read hread⟩
    | publish | remove | share | query | fetch | exchange => exact absurd rfl h

end FederatedCatalog.Server
