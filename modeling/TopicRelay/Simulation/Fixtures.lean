/-
Ready-made configurations for simulations: a model with a broker of its own, services named after
their hosts, and endpoints named after their URLs and topics.
-/
import TopicRelay.Config.Model
import TopicRelay.Content.Kind

namespace TopicRelay.Simulation.Fixtures

open TopicRelay.Config TopicRelay.Content

/-- An endpoint that is named after its URL and its topic. -/
def endpoint (name : String) (kind : PayloadKind) : EndpointConfig :=
  { name, url := "/" ++ name, topicPath := name, produces := kind.identifier }

/-- A service that is named after its host and its topics. -/
def service (name : String) (pollPeriodMs : UInt64) (endpoints : List EndpointConfig) :
    ServiceConfig :=
  endpoints.foldl ServiceConfig.addEndpoint <|
    (ServiceConfig.plain name (name ++ ".test") 80 ("rest/" ++ name)).polledEvery pollPeriodMs

/-- An active model of services. -/
def model (services : List ServiceConfig) : Model :=
  { active := true, broker := .at "broker.test" 8080, services }

end TopicRelay.Simulation.Fixtures
