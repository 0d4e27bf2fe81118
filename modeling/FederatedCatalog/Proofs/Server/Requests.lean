import FederatedCatalog.Proofs.Message.Reading
import FederatedCatalog.Proofs.Server.Calls

/-!
# What a request says

The text of a request is read here without any regard to the server that gets it: the name of its
command, the secret that it bears, and the resource that it shares, removes or fetches. A call that
was read from a text repeats what the text says.

## Main definitions

* `Incoming.shared?`, `Incoming.removed?` and `Incoming.fetched?`: the resource that a text shares
  with a given secret, removes or fetches;
* `Incoming.subject?` and `Incoming.channel?`: the resource or template that a text bears for its
  command, and the channel that it names;
* `Call.Repeats`: the call repeats what a text says.

## Main results

* `Call.repeats_of_read`: a call repeats the text that it was read from;
* `Call.subject?_of_read` and `Call.relay?_of_read`: so do its subject and its relay flag;
* `Call.read_of_serverList` and `Call.read_of_template`: what is read of an exchange and of a query,
  in whatever words they were written;
* `Call.read_render_publish`, `Call.read_render_share` and `Call.read_render_fetch`: what is read of
  a written request.
-/

namespace FederatedCatalog

/-- The key under which a command bears a resource or a template. An exchange bears neither. -/
def Command.subjectKey? : Command → Option String
  | .publish | .remove | .share => some "resource"
  | .query | .fetch => some "resourceTemplate"
  | .exchange => none

/-! ### Readings -/

namespace Incoming

/-- The member of a request. -/
def member? (key text : String) : Option Json := (Json.parse? text).bind (·.get? key)

/-- The name of the command of a request. -/
def command? (text : String) : Option String := (member? "command" text).bind Json.string?

/-- The secret that a request bears. -/
def secret? (text : String) : Option String := (member? "secret" text).bind Json.string?

/-- The normalised resource that a request with this command bears under a key. -/
def resource? (command : Command) (key text : String) : Option Resource :=
  if command? text = some command.name then (member? key text).bind Resource.ofRequest? else none

/-- The resource that a request shares, if it bears this very secret. -/
def shared? (secret text : String) : Option Resource :=
  if secret? text = some secret then resource? .share "resource" text else none

/-- The resource that a request removes. -/
def removed? (text : String) : Option Resource := resource? .remove "resource" text

/-- The template of what a request fetches. -/
def fetched? (text : String) : Option Resource := resource? .fetch "resourceTemplate" text

/-- The resource or template that a request bears for its command. -/
def subject? (text : String) : Option Resource := do
  let command ← (Command.ofName? (← command? text)).toOption
  resource? command (← command.subjectKey?) text

/-- The channel that a request names, once it is normalised. -/
def channel? (text : String) : Option String := (subject? text).map Resource.channel

/-- Whether a request asks to be relayed. -/
def relay? (text : String) : Option Bool := (member? "relay" text).bind Call.relay?

/-- The request is a query that asks to be relayed. -/
def Relays (text : String) : Prop :=
  command? text = some Command.query.name ∧ relay? text = some true

/-- The subject of a request is found under the key of its command. -/
theorem subject?_eq {command : Command} {text : String}
    (h : command? text = some command.name) :
    subject? text = command.subjectKey?.bind fun key => resource? command key text := by
  simp only [subject?, h, Option.bind_eq_bind, Option.bind_some, Command.ofName?_name,
    Except.toOption]

/-- A request that bears a resource for a command has the name of that command. -/
theorem command?_of_resource? {command : Command} {key text : String} {r : Resource}
    (h : resource? command key text = some r) : command? text = some command.name := by
  rw [resource?] at h
  split at h
  · assumption
  · cases h

/-- The members of a written request are those of its object. -/
theorem member?_render (key : String) (q : Request) : member? key q.render = q.toJson.get? key := by
  rw [member?, q.parse?_render, Option.bind_some]

/-- A written request names its command. -/
theorem command?_render (q : Request) : command? q.render = some q.command.name := by
  rw [command?, member?_render, q.string?_command_toJson]

theorem secret?_render_share (secret : String) (r : Resource) :
    secret? (Request.share secret r).render = some secret := by
  rw [secret?, member?_render]
  simp [Request.toJson, Request.arguments, Json.get?, List.lookup_cons, Json.string?]

end Incoming

/-! ### Calls -/

theorem Command.name_injective : Function.Injective Command.name := by
  intro a b hab
  cases a <;> cases b <;> first | rfl | exact absurd hab (by decide)

/-- A text names no more than one command. -/
theorem Incoming.command_unique {text : String} {a b : Command}
    (ha : command? text = some a.name) (hb : command? text = some b.name) : a = b :=
  Command.name_injective (Option.some.inj (ha.symm.trans hb))

theorem Command.name_of_ofName? {name : String} {command : Command}
    (h : ofName? name = .ok command) : command.name = name := by
  rw [ofName?] at h
  split at h
  next found hfound =>
    obtain rfl := Except.ok.inj h
    simpa using List.find?_some hfound
  next => cases h

namespace Call

/-- The command of a call. -/
def command : Call → Command
  | publish _ => .publish
  | remove _ => .remove
  | share _ _ => .share
  | query _ _ => .query
  | fetch _ _ => .fetch
  | exchange _ => .exchange

/-- The resource of a call is the one that the text bears. -/
def RepeatsResource (secret text : String) : Call → Prop
  | publish r => Incoming.resource? .publish "resource" text = some r
  | remove r => Incoming.removed? text = some r
  | share r _ => Incoming.shared? secret text = some r
  | query _ t => Incoming.resource? .query "resourceTemplate" text = some t
  | fetch t _ => Incoming.fetched? text = some t
  | exchange _ => True

/-- The call has the command of the text and the resource that the text bears; if it shares a file,
the text bears the secret of the server. -/
structure Repeats (secret text : String) (call : Call) : Prop where
  command : Incoming.command? text = some call.command.name
  resource : call.RepeatsResource secret text

variable {secret text : String} {request : Json} {call : Call} {command : Command}

private theorem member?_of_parse? (hrequest : Json.parse? text = some request) (key : String) :
    Incoming.member? key text = request.get? key := by
  rw [Incoming.member?, hrequest, Option.bind_some]

private theorem bind_of_resource? {key : String} {missing : Rejection} {r : Resource}
    (h : resource? request key missing = .ok r) :
    (request.get? key).bind Resource.ofRequest? = some r := by
  rw [resource?] at h
  split at h
  next hr => rw [hr, Except.ok.inj h]
  next => cases h

/-- The resource that the reader of a command takes from a request is the one that the text
bears. -/
private theorem incoming_of_resource? {key : String} {missing : Rejection} {r : Resource}
    (hrequest : Json.parse? text = some request)
    (hcommand : Incoming.command? text = some command.name)
    (h : resource? request key missing = .ok r) :
    Incoming.resource? command key text = some r := by
  rw [Incoming.resource?, if_pos hcommand, member?_of_parse? hrequest, bind_of_resource? h]

/-- The arguments of a command are read as they stand in the text. -/
theorem repeatsResource_of_readArguments (hrequest : Json.parse? text = some request)
    (hcommand : Incoming.command? text = some command.name)
    (h : readArguments secret request command = .ok call) :
    call.command = command ∧ call.RepeatsResource secret text := by
  cases command with
  | publish =>
    obtain ⟨r, hr, h⟩ := exists_of_bind h
    obtain ⟨-, -, h⟩ := exists_of_bind h
    obtain ⟨u, -, h⟩ := exists_of_bind h
    split at h
    · cases h
    · obtain rfl := Except.ok.inj h
      exact ⟨rfl, incoming_of_resource? hrequest hcommand hr⟩
  | remove =>
    obtain ⟨r, hr, h⟩ := exists_of_bind h
    obtain ⟨-, -, h⟩ := exists_of_bind h
    obtain ⟨-, -, h⟩ := exists_of_bind h
    obtain rfl := Except.ok.inj h
    exact ⟨rfl, incoming_of_resource? hrequest hcommand hr⟩
  | share =>
    -- the secret is compared first, and everything else is read only if it is right
    obtain ⟨-, -, h⟩ := exists_of_bind h
    obtain ⟨given, hgiven, h⟩ := exists_of_bind h
    split at h
    · cases h
    next hsecret =>
      obtain ⟨r, hr, h⟩ := exists_of_bind h
      obtain ⟨-, -, h⟩ := exists_of_bind h
      obtain ⟨path, -, h⟩ := exists_of_bind h
      obtain rfl := Except.ok.inj h
      refine ⟨rfl, ?_⟩
      have hsecret' : Incoming.secret? text = some secret := by
        rw [Incoming.secret?, member?_of_parse? hrequest, eq_some_of_orReject hgiven,
          Option.bind_some]
        exact Decidable.not_not.mp hsecret
      rw [RepeatsResource, Incoming.shared?, if_pos hsecret']
      exact incoming_of_resource? hrequest hcommand hr
  | query =>
    obtain ⟨relay, -, h⟩ := exists_of_bind h
    obtain ⟨t, ht, h⟩ := exists_of_bind h
    obtain ⟨-, -, h⟩ := exists_of_bind h
    obtain rfl := Except.ok.inj h
    exact ⟨rfl, incoming_of_resource? hrequest hcommand ht⟩
  | fetch =>
    obtain ⟨t, ht, h⟩ := exists_of_bind h
    obtain ⟨path, -, h⟩ := exists_of_bind h
    obtain ⟨-, -, h⟩ := exists_of_bind h
    obtain rfl := Except.ok.inj h
    exact ⟨rfl, incoming_of_resource? hrequest hcommand ht⟩
  | exchange =>
    obtain ⟨entries, -, h⟩ := exists_of_bind h
    obtain rfl := Except.ok.inj h
    exact ⟨rfl, trivial⟩

/-- A text that is read names the command of the call, and it is the reader of this command that
takes the arguments. -/
theorem exists_readArguments (h : read secret text = .ok call) :
    ∃ request, Json.parse? text = some request ∧
      Incoming.command? text = some call.command.name ∧
      readArguments secret request call.command = .ok call := by
  obtain ⟨request, hrequest, h⟩ := exists_of_bind h
  obtain ⟨name, hname, h⟩ := exists_of_bind h
  obtain ⟨command, hcommand, h⟩ := exists_of_bind h
  replace hrequest := eq_some_of_orReject hrequest
  have hnamed : Incoming.command? text = some command.name := by
    rw [Incoming.command?, member?_of_parse? hrequest, eq_some_of_orReject hname,
      Command.name_of_ofName? hcommand]
  obtain ⟨rfl, -⟩ := repeatsResource_of_readArguments hrequest hnamed h
  exact ⟨request, hrequest, hnamed, h⟩

/-- A text that names a command is read by the reader of this command. -/
theorem read_of_command? (secret : String) (h : Incoming.command? text = some command.name) :
    ∃ request, Json.parse? text = some request ∧
      read secret text = readArguments secret request command := by
  obtain ⟨member, hmember, hname⟩ := Option.bind_eq_some_iff.mp h
  obtain ⟨request, hrequest, hget⟩ := Option.bind_eq_some_iff.mp hmember
  refine ⟨request, hrequest, ?_⟩
  simp only [read, orReject, hrequest, hget, hname, Option.bind_some, bind, Except.bind,
    Command.ofName?_name]

/-- A text that names an exchange and bears a list is read as an exchange of the servers in it. -/
theorem read_of_serverList {entries : List Json} (secret : String)
    (hcommand : Incoming.command? text = some Command.exchange.name)
    (hlist : (Incoming.member? "serverList" text).bind Json.array? = some entries) :
    read secret text = .ok (.exchange (entries.filterMap Peer.ofJson?)) := by
  obtain ⟨request, hrequest, hread⟩ := read_of_command? secret hcommand
  rw [member?_of_parse? hrequest] at hlist
  rw [hread]
  simp only [readArguments, readExchange, hlist, orReject, bind, Except.bind]

/-- A text that names a query and bears a template and a relay flag is read as that query, unless
the template claims the mask as its owner. -/
theorem read_of_template {relay : Bool} {t : Resource} (secret : String)
    (hcommand : Incoming.command? text = some Command.query.name)
    (hrelay : Incoming.relay? text = some relay)
    (ht : (Incoming.member? "resourceTemplate" text).bind Resource.ofRequest? = some t)
    (hunmasked : t.hasMaskedOwner = false) :
    read secret text = .ok (.query relay t) := by
  obtain ⟨request, hrequest, hread⟩ := read_of_command? secret hcommand
  rw [Incoming.relay?, member?_of_parse? hrequest] at hrelay
  rw [member?_of_parse? hrequest] at ht
  rw [hread]
  simp only [readArguments, readQuery, hrelay, resource?, ht, orReject, refuseMask, hunmasked, bind,
    Except.bind, Bool.false_eq_true, if_false]

/-- A call repeats the text that it was read from. -/
theorem repeats_of_read (h : read secret text = .ok call) : call.Repeats secret text := by
  obtain ⟨request, hrequest, hnamed, harguments⟩ := exists_readArguments h
  exact ⟨hnamed, (repeatsResource_of_readArguments hrequest hnamed harguments).2⟩

/-- The resource or template of a call. -/
def subject? : Call → Option Resource
  | publish r | remove r | share r _ => some r
  | query _ t | fetch t _ => some t
  | exchange _ => none

/-- A call has the subject of the text that it was read from. -/
theorem subject?_of_read (h : read secret text = .ok call) :
    Incoming.subject? text = call.subject? := by
  have hrepeats := repeats_of_read h
  rw [Incoming.subject?_eq hrepeats.command]
  cases call with
  | share r path =>
    -- a request is taken to share only if its secret is right, but it bears the resource anyway
    have hshared : Incoming.shared? secret text = some r := hrepeats.resource
    rw [Incoming.shared?] at hshared
    split at hshared
    · exact hshared
    · cases hshared
  | publish | remove | query | fetch => exact hrepeats.resource
  | exchange => rfl

/-- A query is relayed only if the text that it was read from asks for it. -/
theorem relay?_of_read {relay : Bool} {t : Resource} (h : read secret text = .ok (.query relay t)) :
    Incoming.relay? text = some relay := by
  obtain ⟨request, hrequest, -, h⟩ := exists_readArguments h
  obtain ⟨relay', hrelay, h⟩ := exists_of_bind h
  obtain ⟨t', -, h⟩ := exists_of_bind h
  obtain ⟨-, -, h⟩ := exists_of_bind h
  obtain ⟨rfl, -⟩ := Call.query.inj (Except.ok.inj h)
  rw [Incoming.relay?, member?_of_parse? hrequest]
  exact eq_some_of_orReject hrelay

/-- The servers of an exchange are read from the entries of a list that the text bears. -/
theorem exists_entries_of_read {servers : List Peer}
    (h : read secret text = .ok (.exchange servers)) :
    ∃ entries, Incoming.member? "serverList" text = some (.array entries) ∧
      servers = entries.filterMap Peer.ofJson? := by
  obtain ⟨request, hrequest, -, h⟩ := exists_readArguments h
  obtain ⟨entries, hentries, h⟩ := exists_of_bind h
  obtain ⟨member, hmember, harray⟩ :=
    Option.bind_eq_some_iff.mp (eq_some_of_orReject hentries)
  cases member with
  | array entries' =>
    obtain rfl := Option.some.inj harray
    refine ⟨entries', ?_, (Call.exchange.inj (Except.ok.inj h)).symm⟩
    rw [member?_of_parse? hrequest, hmember]
  | null | bool | number | string | object => cases harray

/-- A request to remove is read as nothing but a removal of what it says. -/
theorem Repeats.eq_remove {r : Resource} (h : call.Repeats secret text)
    (hr : Incoming.removed? text = some r) : call = .remove r := by
  have hcommand : call.command = .remove :=
    Incoming.command_unique h.command (Incoming.command?_of_resource? hr)
  cases call with
  | remove r' =>
    obtain rfl := Option.some.inj (h.resource.symm.trans hr)
    rfl
  | publish | share | query | fetch | exchange => cases hcommand

/-! ### Written requests -/

section Written

variable {r : Resource} {path : Path} (h : r.Supplied)
include h

/-- A resource that may be supplied is received as it is. -/
theorem received_of_supplied : r.received = r := by
  have hunassigned : { r with origin := none, size := none : Resource } = r := by
    rw [← h.origin_eq, ← h.size_eq]
  rw [Resource.received, hunassigned, Resource.normalized_eq_self h.clean]

theorem refuseMask_eq_ok (refused : Rejection) : refuseMask r refused = .ok () := by
  rw [refuseMask, h.unmasked]
  rfl

/-- A written request to publish is read with its resource, if the URI names no file. -/
theorem read_render_publish (secret : String) {u : Uri} (hparse : Uri.parse? r.uri = some u)
    (hscheme : u.scheme ≠ Uri.fileScheme) :
    read secret (Request.publish r).render = .ok (.publish r) := by
  rw [read_render_eq_check, Request.received, received_of_supplied h, Request.check]
  simp only [bind, Except.bind, refuseMask_eq_ok h, orReject, hparse, if_neg hscheme]

/-- A written request to share is read with its resource, if it bears the secret and the URI names a
file on this host. -/
theorem read_render_share (secret : String) (hpath : Uri.localPath? r.uri = some path) :
    read secret (Request.share secret r).render = .ok (.share r path) := by
  rw [read_render_eq_check, Request.received, received_of_supplied h, Request.check]
  simp only [bind, Except.bind, ne_eq, not_true_eq_false, if_false, refuseMask_eq_ok h, orReject,
    hpath]

/-- A written request to fetch is read with its template, if the URI names a file on this host. -/
theorem read_render_fetch (secret : String) (hpath : Uri.localPath? r.uri = some path) :
    read secret (Request.fetch r).render = .ok (.fetch r path) := by
  rw [read_render_eq_check, Request.received, received_of_supplied h, Request.check]
  simp only [bind, Except.bind, orReject, hpath, refuseMask_eq_ok h]

end Written

end Call

end FederatedCatalog
