import AgentGateway.Lib.Python

/-!
# Hermes messages

The response envelope of a Hermes call and the outcome a dispatch hands on. The envelope carries
what its validators establish, so an empty one cannot be built.
-/

namespace AgentGateway.Hermes

open AgentGateway.Lib

/-- `ResponsePart`: a text or a reference to an artifact. -/
inductive ResponsePart
  | text (text : String)
  | artifactRef (artifactId : String)
  deriving DecidableEq, Repr

/-- `ResponseEnvelope`, with the parts its `min_length` requires. -/
structure ResponseEnvelope where
  responseId : String
  parts : List ResponsePart
  parts_ne_nil : parts ≠ []
  deriving DecidableEq, Repr

/-- `HermesChatResult`. -/
structure HermesChatResult where
  assistantContent : String
  hermesThreadId : String
  response : Option ResponseEnvelope
  deriving DecidableEq, Repr

/-- `HermesDispatchOutcome`. The two thread ids are set on the durable path, which defers the
session rotation to the fenced completion. -/
structure HermesDispatchOutcome where
  messageId : Int
  workspaceId : String
  aiThreadId : String
  assistantContent : String
  response : Option ResponseEnvelope
  requestedHermesThreadId : Option String
  nextHermesThreadId : Option String
  deriving DecidableEq, Repr

end AgentGateway.Hermes
