import FederatedCatalog.Rejection

/-!
# Commands

The six commands of the protocol and their names, which are case-sensitive.
-/

namespace FederatedCatalog

/-- What a request asks for. -/
inductive Command where
  | publish
  | remove
  | share
  | query
  | fetch
  | exchange
  deriving Repr, DecidableEq, Inhabited

namespace Command

/-- The name of a command on the wire. -/
def name : Command → String
  | publish => "PUBLISH"
  | remove => "REMOVE"
  | share => "SHARE"
  | query => "QUERY"
  | fetch => "FETCH"
  | exchange => "EXCHANGE"

/-- Every command. -/
def all : List Command := [publish, remove, share, query, fetch, exchange]

/-- The command with a name. -/
def ofName? (s : String) : Except Rejection Command :=
  match all.find? (·.name == s) with
  | some c => .ok c
  | none => .error .invalidCommand

end Command

end FederatedCatalog
