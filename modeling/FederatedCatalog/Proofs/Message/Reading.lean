import FederatedCatalog.Proofs.Message.RoundTrip
import Mathlib.Data.Option.Basic

/-!
# Requests as they are received

Requests are written as a whole, and the reader takes them apart member by member. Of a request that
was written it gets the values that the request was made of, cleaned: reading the text comes to the
checks of the command on these values, in the order in which the reader makes them.

## Main definitions

* `Request.received`: a request with its values as the reader hands them on;
* `Request.check`: the checks of each command on the values of a request.

## Main results

* `Call.read_render_eq_check`: the reader comes to the checks of the command on the received values;
* `Call.read_render_query`: what is read of a written query.
-/

namespace FederatedCatalog

/-! ### What arrives -/

/-- A resource as a server gets it from a request: cleaned, without origin and size. -/
def Resource.received (r : Resource) : Resource :=
  { r with origin := none, size := none }.normalized

/-- A server as another one gets it from a list: its hostname is cleaned, and it is passed over if
nothing is left of that. -/
def Peer.received? (p : Peer) : Option Peer :=
  if (Text.clean p.hostname).isEmpty then none
  else some { p with hostname := Text.clean p.hostname }

namespace Peer

/-- What is received is what cleaning leaves of the hostname, and the port. -/
theorem received?_eq_some_iff {source p : Peer} :
    source.received? = some p ↔
      Text.clean source.hostname ≠ "" ∧ p = ⟨Text.clean source.hostname, source.port⟩ := by
  rw [received?]
  by_cases hempty : (Text.clean source.hostname).isEmpty
  · rw [if_pos hempty]
    have hnothing : Text.clean source.hostname = "" := String.isEmpty_iff.mp hempty
    simp [hnothing]
  · rw [if_neg hempty, Option.some.injEq, eq_comm]
    exact ⟨fun h => ⟨fun hclean => hempty (String.isEmpty_iff.mpr hclean), h⟩, And.right⟩

/-- What was received once is received again as it is. -/
theorem received?_of_received? {source p : Peer} (h : source.received? = some p) :
    p.received? = some p := by
  obtain ⟨hpresent, rfl⟩ := received?_eq_some_iff.mp h
  rw [received?_eq_some_iff, Text.clean_clean]
  exact ⟨hpresent, rfl⟩

/-- An object with a hostname and a number of sixteen bits as its port is read as a server, unless
nothing is left of the hostname when it is cleaned. -/
theorem ofJson?_of_members {v : Json} {hostname : String} {n : UInt64}
    (hhostname : v.get? "hostname" = some (.string hostname))
    (hport : (v.get? "port").bind Json.natural? = some n) (hrange : n.toNat < 65536) :
    ofJson? v = if (Text.clean hostname).isEmpty then none
      else some ⟨Text.clean hostname, UInt16.ofNat n.toNat⟩ := by
  obtain ⟨member, hmember, hnumber⟩ := Option.bind_eq_some_iff.mp hport
  have hguard : (guard (n.toNat < 65536) : Option Unit) = some () := by
    rw [guard, if_pos hrange]
    rfl
  rw [ofJson?, hhostname, hmember]
  simp only [Option.bind_eq_bind, Option.bind_some, Json.string?, hnumber, hguard]
  cases (Text.clean hostname).isEmpty <;> rfl

/-- Nothing else is read as a server. -/
theorem exists_members_of_ofJson? {v : Json} {p : Peer} (h : ofJson? v = some p) :
    ∃ hostname n, v.get? "hostname" = some (.string hostname) ∧
      (v.get? "port").bind Json.natural? = some n ∧ n.toNat < 65536 ∧
      p = ⟨Text.clean hostname, UInt16.ofNat n.toNat⟩ := by
  obtain ⟨member, hmember, h⟩ := Option.bind_eq_some_iff.mp h
  obtain ⟨hostname, hhostname, h⟩ := Option.bind_eq_some_iff.mp h
  obtain ⟨-, -, h⟩ := Option.bind_eq_some_iff.mp h
  obtain ⟨number, hnumber, h⟩ := Option.bind_eq_some_iff.mp h
  obtain ⟨n, hn, h⟩ := Option.bind_eq_some_iff.mp h
  obtain ⟨_, hguard, h⟩ := Option.bind_eq_some_iff.mp h
  refine ⟨hostname, n, ?_, by rw [hnumber, Option.bind_some, hn], ?_, (Option.some.inj h).symm⟩
  · -- only a text is a hostname
    cases member with
    | string s =>
      obtain rfl := Option.some.inj hhostname
      exact hmember
    | null | bool | number | array | object => cases hhostname
  · by_contra hge
    rw [guard, if_neg hge] at hguard
    cases hguard

theorem get?_hostname_toJson (p : Peer) : p.toJson.get? "hostname" = some (.string p.hostname) := by
  simp [toJson, Json.get?, List.lookup_cons]

theorem natural?_port_toJson (p : Peer) :
    (p.toJson.get? "port").bind Json.natural? = some p.port.toUInt64 := by
  have hmember : p.toJson.get? "port" = some (Json.ofNat p.port.toUInt64.toNat) := by
    simp [toJson, Json.get?]
  rw [hmember, Option.bind_some, Resource.natural?_ofNat]

/-- The object that is written for a server is read as what another server gets of it. -/
theorem ofJson?_toJson (p : Peer) : ofJson? p.toJson = p.received? := by
  have hrange : p.port.toUInt64.toNat < 65536 := by
    have hlt := p.port.toNat_lt
    rw [UInt16.toNat_toUInt64]
    omega
  rw [ofJson?_of_members p.get?_hostname_toJson p.natural?_port_toJson hrange,
    UInt16.toNat_toUInt64, UInt16.ofNat_toNat, received?]

end Peer

namespace Request

/-- A request with its values as the reader hands them on: resources are received, and so is a list
of servers, entry by entry. Secret and relay flag stay as they are. -/
def received : Request → Request
  | publish r => publish r.received
  | remove r => remove r.received
  | share secret r => share secret r.received
  | query relay t => query relay t.received
  | fetch t => fetch t.received
  | exchange servers => exchange (servers.filterMap Peer.received?)

/-- The checks that a server with this secret makes on the values of a request, in their order, and
the call that passes them. -/
def check (secret : String) : Request → Except Rejection Call
  | publish r => do
    Call.refuseMask r .invalidResource
    let uri ← Call.orReject .cannotPublish (Uri.parse? r.uri)
    if uri.scheme = Uri.fileScheme then .error .cannotPublish else .ok (.publish r)
  | remove r => do
    Call.refuseMask r .invalidResource
    let _ ← Call.orReject .cannotRemove (Uri.parse? r.uri)
    .ok (.remove r)
  | share given r => do
    if given ≠ secret then .error .incorrectSecret
    Call.refuseMask r .invalidResource
    let path ← Call.orReject .cannotShare (Uri.localPath? r.uri)
    .ok (.share r path)
  | query relay t => do
    Call.refuseMask t .invalidTemplate
    .ok (.query relay t)
  | fetch t => do
    let path ← Call.orReject .invalidTemplate (Uri.localPath? t.uri)
    Call.refuseMask t .invalidTemplate
    .ok (.fetch t path)
  | exchange servers => .ok (.exchange servers)

end Request

/-! ### Reading comes to checking -/

namespace Call

/-- The resource under a key is received. -/
theorem resource?_of_get? {request : Json} {key : String} {r : Resource} (missing : Rejection)
    (h : request.get? key = some r.toJson) : resource? request key missing = .ok r.received := by
  rw [resource?, h, Option.bind_some, Resource.ofRequest?_toJson]
  rfl

/-- Reading a written request comes to the checks of its own command on the values that it was made
of. -/
theorem read_render_eq_check (secret : String) (q : Request) :
    read secret q.render = q.received.check secret := by
  rw [read_render]
  cases q with
  | publish r =>
    have hkey : (Request.publish r).toJson.get? "resource" = some r.toJson := by
      simp [Request.toJson, Request.arguments, Json.get?]
    simp only [Request.command, readArguments, readPublish, resource?_of_get? _ hkey,
      Request.received, Request.check, bind, Except.bind]
  | remove r =>
    have hkey : (Request.remove r).toJson.get? "resource" = some r.toJson := by
      simp [Request.toJson, Request.arguments, Json.get?]
    simp only [Request.command, readArguments, readRemove, resource?_of_get? _ hkey,
      Request.received, Request.check, bind, Except.bind]
  | share given r =>
    -- the reader looks at the secret before it reads the resource, so both have to be there
    have hkey : (Request.share given r).toJson.get? "resource" = some r.toJson := by
      simp [Request.toJson, Request.arguments, Json.get?]
    have hsecret : (Request.share given r).toJson.get? "secret" = some (.string given) := by
      simp [Request.toJson, Request.arguments, Json.get?, List.lookup_cons]
    simp only [Request.command, readArguments, readShare, resource?_of_get? _ hkey, hkey, hsecret,
      Request.received, Request.check, orReject, Json.string?, bind, Except.bind, ne_eq,
      Option.some.injEq]
  | query relay t =>
    have hkey : (Request.query relay t).toJson.get? "resourceTemplate" = some t.toJson := by
      simp [Request.toJson, Request.arguments, Json.get?]
    have hrelay : ((Request.query relay t).toJson.get? "relay").bind relay? = some relay := by
      simp [Request.toJson, Request.arguments, Json.get?, List.lookup_cons, relay?]
    simp only [Request.command, readArguments, readQuery, hrelay, resource?_of_get? _ hkey,
      Request.received, Request.check, orReject, bind, Except.bind]
  | fetch t =>
    have hkey : (Request.fetch t).toJson.get? "resourceTemplate" = some t.toJson := by
      simp [Request.toJson, Request.arguments, Json.get?]
    simp only [Request.command, readArguments, readFetch, resource?_of_get? _ hkey,
      Request.received, Request.check, bind, Except.bind]
  | exchange servers =>
    have hkey : ((Request.exchange servers).toJson.get? "serverList").bind Json.array? =
        some (servers.map Peer.toJson) := by
      simp [Request.toJson, Request.arguments, Json.get?, Json.array?]
    -- each entry is an object that was written for a server, so none is passed over as malformed
    have hentries : (servers.map Peer.toJson).filterMap Peer.ofJson? =
        servers.filterMap Peer.received? := by
      rw [List.filterMap_map]
      exact List.filterMap_congr fun p _ => p.ofJson?_toJson
    simp only [Request.command, readArguments, readExchange, hkey, hentries, Request.received,
      Request.check, orReject, bind, Except.bind]

/-- A written query is read with its relay flag and its cleaned template, unless the template claims
the mask as its owner. -/
theorem read_render_query (secret : String) (relay : Bool) (t : Resource)
    (howner : t.normalized.hasMaskedOwner = false) :
    read secret (Request.query relay t).render =
      .ok (.query relay { t with origin := none, size := none }.normalized) := by
  have hmask : t.received.hasMaskedOwner = false := howner
  simp only [read_render_eq_check, Request.received, Request.check, refuseMask, hmask, bind,
    Except.bind, Bool.false_eq_true, if_false]
  rfl

end Call

end FederatedCatalog
