/-!
# Rejections

The reasons for which a server turns a request down. Each is answered with an error frame that
carries its text.
-/

namespace FederatedCatalog

/-- A reason to turn a request down. -/
inductive Rejection where
  /-- The request is no JSON object with a text as its command. -/
  | malformedRequest
  /-- No command has this name. -/
  | invalidCommand
  /-- A resource is absent or ill-formed. -/
  | missingResource
  /-- A resource claims the mask as its owner. -/
  | invalidResource
  /-- A resource cannot be published under its URI, or another owner holds its location. -/
  | cannotPublish
  /-- A resource cannot be removed. -/
  | cannotRemove
  /-- A request to share lacks the resource or the secret. -/
  | missingResourceOrSecret
  /-- The secret is not the server's. -/
  | incorrectSecret
  /-- A file cannot be shared, or another owner holds its location. -/
  | cannotShare
  /-- A template is absent or ill-formed. -/
  | missingTemplate
  /-- A template cannot be used. -/
  | invalidTemplate
  /-- Nothing is listed at the location of a template. -/
  | noMatchingResource
  /-- The file behind an entry is gone. -/
  | resourceMissing
  /-- The list of servers is absent or no array. -/
  | invalidServerList
  deriving Repr, DecidableEq, Inhabited

/-- The text that an error frame carries. -/
def Rejection.message : Rejection → String
  | malformedRequest => "missing or incorrect type for command"
  | invalidCommand => "invalid command"
  | missingResource => "missing resource"
  | invalidResource => "invalid resource"
  | cannotPublish => "cannot publish resource"
  | cannotRemove => "cannot remove resource"
  | missingResourceOrSecret => "missing resource and/or secret"
  | incorrectSecret => "incorrect secret"
  | cannotShare => "cannot share resource"
  | missingTemplate => "missing resourceTemplate"
  | invalidTemplate => "invalid resourceTemplate"
  | noMatchingResource => "uri or channel doesn't correspond"
  | resourceMissing => "resource doesn't exist"
  | invalidServerList => "missing or invalid server list"

end FederatedCatalog
