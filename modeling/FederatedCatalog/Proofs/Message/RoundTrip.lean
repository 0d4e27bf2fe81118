import FederatedCatalog.Message.Outbound
import FederatedCatalog.Message.Request
import FederatedCatalog.Message.Status
import FederatedCatalog.Proofs.Resource.RoundTrip
import FederatedCatalog.Server.Call

/-!
# Frames and requests read back

Status and count frames are never taken for resources. The text of a request parses to its object,
so the reader of requests finds the command and the arguments that were written.

## Main results

* `Status.errorMessage?_error`, `Status.resultSize?_resultSize`: what a client reads of a rejection
  and of a count;
* `Resource.ofPeerFrame?_success`, `Resource.ofPeerFrame?_error`,
  `Resource.ofPeerFrame?_resultSize`: status and count are no resources;
* `Call.read_render`: the reader of requests runs on the object of a written request.
-/

namespace FederatedCatalog

open Json

/-! ### Frames -/

namespace Status

theorem parse?_success : parse? success.render = some success.toJson := by
  apply parse?_render
  intro m hm
  obtain rfl := List.mem_singleton.mp hm
  trivial

theorem isSuccess_success : isSuccess success.render = true := by
  rw [isSuccess, parse?_success]
  decide

theorem parse?_error (r : Rejection) : parse? (error r).render = some (error r).toJson := by
  apply parse?_render
  intro m hm
  simp only [List.mem_cons, List.not_mem_nil, or_false] at hm
  obtain rfl | rfl := hm <;> trivial

theorem isSuccess_error (r : Rejection) : isSuccess (error r).render = false := by
  rw [isSuccess, parse?_error]
  rfl

/-- An error frame carries the text of its rejection. -/
theorem errorMessage?_error (r : Rejection) : errorMessage? (error r).render = some r.message := by
  rw [errorMessage?, parse?_error]
  rfl

/-- A count frame parses to an object with a number, unless its number is too large. -/
theorem parse?_resultSize (n : Nat) :
    parse? (resultSize n).render =
      (toNumber? false (digitValues n) none none).map fun m =>
        .object [("resultSize", .number m)] :=
  parse?_render_ofNat "resultSize" n

/-- The frame with a count of 64 bits is read as the count. -/
theorem resultSize?_resultSize (n : UInt64) : resultSize? (resultSize n.toNat).render = some n := by
  have hparse : parse? (resultSize n.toNat).render = some (resultSize n.toNat).toJson := by
    apply parse?_render
    intro m hm
    obtain rfl := List.mem_singleton.mp hm
    exact plain_ofNat _ n.toNat_lt
  have hmember : (resultSize n.toNat).toJson.get? "resultSize" = some (Json.ofNat n.toNat) := by
    simp [toJson, Json.get?]
  rw [resultSize?, hparse, Option.bind_eq_bind, Option.bind_some, hmember, Option.bind_some,
    Resource.natural?_ofNat]

end Status

/-- A rejection is never answered with the success frame. -/
theorem Message.rejected_ne_success (r : Rejection) : Message.rejected r ≠ Message.success := by
  intro h
  -- equal frames would be read alike
  have hframe : (Status.error r).render = Status.success.render := Message.frame.inj h
  have hsuccess := Status.isSuccess_success
  rw [← hframe, Status.isSuccess_error] at hsuccess
  contradiction

namespace Resource

/-- The success frame is no resource. -/
theorem ofPeerFrame?_success : ofPeerFrame? Status.success.render = none := by
  rw [ofPeerFrame?, Status.parse?_success]
  decide

/-- An error frame is no resource. -/
theorem ofPeerFrame?_error (r : Rejection) : ofPeerFrame? (Status.error r).render = none := by
  rw [ofPeerFrame?, Status.parse?_error]
  rfl

/-- A count frame is no resource, whatever its number. -/
theorem ofPeerFrame?_resultSize (n : Nat) : ofPeerFrame? (Status.resultSize n).render = none := by
  rw [ofPeerFrame?, Status.parse?_resultSize]
  cases toNumber? false (digitValues n) none none <;> rfl

end Resource

/-! ### Requests -/

/-- The entry of a peer in a list of servers is plain. -/
theorem Peer.plain_toJson (depth : Nat) (p : Peer) : Plain (depth + 1) p.toJson := by
  intro m hm
  simp only [List.mem_cons, List.not_mem_nil, or_false] at hm
  obtain rfl | rfl := hm
  · cases depth <;> trivial
  · exact plain_ofNat _ (Nat.lt_trans p.port.toNat_lt (by decide))

/-- The object of a request is plain. -/
theorem Request.plain_toJson (depth : Nat) (q : Request) : Plain (depth + 3) q.toJson := by
  intro m hm
  rw [List.mem_cons] at hm
  obtain rfl | hm := hm
  · trivial
  · cases q with
    | publish r | remove r | fetch r =>
      obtain rfl := List.mem_singleton.mp hm
      exact r.plain_toJson depth
    | share secret r =>
      simp only [arguments, List.mem_cons, List.not_mem_nil, or_false] at hm
      obtain rfl | rfl := hm
      · trivial
      · exact r.plain_toJson depth
    | query relay t =>
      simp only [arguments, List.mem_cons, List.not_mem_nil, or_false] at hm
      obtain rfl | rfl := hm
      · trivial
      · exact t.plain_toJson depth
    | exchange servers =>
      obtain rfl := List.mem_singleton.mp hm
      intro v hv
      obtain ⟨p, -, rfl⟩ := List.mem_map.mp hv
      exact p.plain_toJson depth

/-- The text of a request parses to its object. -/
theorem Request.parse?_render (q : Request) : parse? q.render = some q.toJson :=
  Json.parse?_render (q.plain_toJson 124)

/-- A command is found by its name. -/
theorem Command.ofName?_name (command : Command) : ofName? command.name = .ok command := by
  cases command <;> rfl

/-- The object of a request names its command. -/
theorem Request.string?_command_toJson (q : Request) :
    (q.toJson.get? "command").bind Json.string? = some q.command.name := by
  cases q <;> simp [toJson, arguments, Json.get?, List.lookup_cons, Json.string?]

namespace Call

/-- A written request is read by the reader of its own command on its own object. -/
theorem read_render (secret : String) (q : Request) :
    read secret q.render = readArguments secret q.toJson q.command := by
  simp only [read, q.parse?_render, orReject, bind, Except.bind, q.string?_command_toJson,
    Command.ofName?_name]

end Call

end FederatedCatalog
